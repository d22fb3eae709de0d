import SandboxManager.Policy.Remove
import SandboxManager.Policy.VolumeRuns

/-! Cleaning a user's policies (`PolicyInfoManager::CleanPolicyByUserId`).

A row passes three checks before it goes: a query for each listed path, which ignores letter case
everywhere; a trie of all the listed paths, which follows the case configuration and looks at no
level above the one of appdata; and the user of its token. For a row that is stored with single
slashes the first two are one relation to one listed path (`selected_iff`). -/
namespace SandboxManager.Policy
open Library Trie KeyTree

structure CleanEnv where
  isMacSupport : Bool
  caseInsensitivePaths : List Bytes
  caseSensitivePaths : List Bytes
  /-- `GetHapTokenInfo`, if it answers. -/
  userIdOf : UInt32 → Option Int32
  findOk : Bytes → Bool
  removeOk : Bool

structure CleanOutcome where
  table : Table
  ret : ErrCode := .SANDBOX_MANAGER_OK
  /-- The paths `UnSetSandboxPolicyByUser` is asked for. -/
  unsetByUser : List Bytes

/-- A path that can be used, as far as its first NUL. -/
def usablePath (path : Bytes) : Option Bytes :=
  let trimmedPath := cStr path
  let length := trimmedPath.length % 2 ^ 32
  if length = 0 ∨ length > POLICY_PATH_LIMIT then none else some (adjustPath trimmedPath)

def cleanPolicyOnMac (env : CleanEnv) (filePathList : List Bytes) : List Bytes :=
  if !env.isMacSupport then [] else filePathList

/-- Whether `RemoveResultByUserIdAndPrefix` leaves a record among the results. -/
def staysInResults (env : CleanEnv) (userId : Int32) (trieTree : PolicyTrie) (record : Record) :
    Bool :=
  checkPathAny trieTree record.path &&
    (env.userIdOf record.tokenId).elim true fun tokenUserId => tokenUserId = userId

def cleanPolicyByUserId (env : CleanEnv) (t : Table) (userId : UInt32) (filePathList : List Bytes) :
    CleanOutcome :=
  let filePathListTmp := filePathList.filterMap usablePath
  let trieTree := insertPaths
    (initTrieWithCaseSensitivity env.caseInsensitivePaths env.caseSensitivePaths)
    (filePathListTmp.map fun path => (path, 0))
  let dbResults := (filePathListTmp.filter env.findOk).flatMap (findSubPathIgnoreCase t)
  let left := dbResults.filter (staysInResults env userId.toInt32 trieTree)
  { table := if left ≠ [] ∧ env.removeOk then removeRecords t left else t
    unsetByUser := cleanPolicyOnMac env filePathListTmp }

/-! ### What is asked of a row -/

/-- A path in a list of directories. -/
structure DirectoryPath (path : Bytes) : Prop where
  absolute : path.head? = some slash
  noNul : 0 ∉ path
  length : path.length ≤ POLICY_PATH_LIMIT
  collapsed : Collapsed slash path

instance (path : Bytes) : Decidable (Collapsed slash path) :=
  inferInstanceAs (Decidable (List.IsChain _ path))

theorem directoryPath_iff (path : Bytes) :
    DirectoryPath path ↔ path.head? = some slash ∧ 0 ∉ path ∧ path.length ≤ POLICY_PATH_LIMIT ∧
      Collapsed slash path :=
  ⟨fun h => ⟨h.absolute, h.noNul, h.length, h.collapsed⟩, fun h => ⟨h.1, h.2.1, h.2.2.1, h.2.2.2⟩⟩

instance (path : Bytes) : Decidable (DirectoryPath path) :=
  decidable_of_iff' _ (directoryPath_iff path)

def CleanEnv.caseFlags (env : CleanEnv) : List Bytes → Bool :=
  flags (initTrieWithCaseSensitivity env.caseInsensitivePaths env.caseSensitivePaths)

/-- The path itself or something in it, letter case compared as the configuration says. -/
def Below (φ : List Bytes → Bool) (listed path : Bytes) : Prop :=
  ∃ start rest, path = start ++ rest ∧ (rest = [] ∨ rest.head? = some slash) ∧
    toLowerCase start = toLowerCase (adjustPath listed) ∧ canonicalAt φ start = canonicalAt φ listed

/-- For a path in appdata, a listed path from above appdata does not count. -/
def Covered (φ : List Bytes → Bool) (listed path : Bytes) : Prop :=
  Below φ listed path ∧ splitPath listed ≠ [] ∧
    (coversString APPDATA path = true → 4 ≤ (splitPath listed).length)

/-- The token belongs to the user, or to nobody that is known. -/
def OfUserOrUnknown (env : CleanEnv) (userId : UInt32) (tokenId : UInt32) : Prop :=
  ∀ tokenUserId, env.userIdOf tokenId = some tokenUserId → tokenUserId = userId.toInt32

theorem DirectoryPath.usable {path : Bytes} (h : DirectoryPath path) :
    usablePath path = some (adjustPath path) := by
  have hcStr : cStr path = path := by
    apply List.takeWhile_eq_self_iff.mpr
    intro c hc
    exact decide_eq_true fun hzero => h.noNul (hzero ▸ hc)
  have hne : path ≠ [] := fun hnil => by simpa [hnil] using h.absolute
  have hpos : 0 < path.length := List.length_pos_iff.mpr hne
  have hlimit : path.length ≤ 4095 := h.length
  have hsmall : path.length % 2 ^ 32 = path.length := Nat.mod_eq_of_lt (by omega)
  have hgood : ¬ (path.length = 0 ∨ path.length > POLICY_PATH_LIMIT) := by
    show ¬ (path.length = 0 ∨ path.length > 4095)
    omega
  rw [usablePath, hcStr, hsmall, if_neg hgood]

/-- Without the slash at its end a listed path is stored plainly. -/
theorem DirectoryPath.normalized {path : Bytes} (h : DirectoryPath path) :
    adjustPath path = Library.absolute slash (splitPath path) := by
  obtain ⟨l, rfl⟩ : ∃ l, path = slash :: l := by
    cases path with
    | nil => exact absurd h.absolute (by simp)
    | cons c l => exact ⟨l, by rw [Option.some.inj h.absolute]⟩
  rw [splitPath, segments_sep_cons]
  cases l using List.reverseRecOn with
  | nil => rfl
  | append_singleton l c =>
    by_cases hc : c = slash
    · subst hc
      have hadjust : adjustPath (slash :: (l ++ [slash])) = slash :: l := by
        rw [← List.cons_append, adjustPath, List.getLast?_concat, if_pos rfl, List.dropLast_concat]
      have hchain := h.collapsed
      rw [← List.cons_append, Collapsed, List.isChain_append] at hchain
      have hne : l ≠ [] := by
        intro hnil
        subst hnil
        exact hchain.2.2 slash rfl slash rfl ⟨rfl, rfl⟩
      have hlast : l.getLast? ≠ some slash := by
        intro hslash
        refine hchain.2.2 slash ?_ slash rfl ⟨rfl, rfl⟩
        rw [List.getLast?_cons, hslash]
        rfl
      rw [hadjust, segments_concat_sep, absolute_segments slash hchain.1 hlast hne]
    · have hlast : (l ++ [c]).getLast? ≠ some slash := by
        rw [List.getLast?_concat]
        exact fun heq => hc (Option.some.inj heq)
      have hadjust : adjustPath (slash :: (l ++ [c])) = slash :: (l ++ [c]) := by
        rw [← List.cons_append, adjustPath, List.getLast?_concat, if_neg]
        exact fun heq => hc (Option.some.inj heq)
      rw [hadjust, absolute_segments slash h.collapsed hlast (by simp)]

theorem toLowerCase_absolute (ws : List Bytes) :
    toLowerCase (Library.absolute slash ws) = Library.absolute slash (ws.map toLowerCase) := by
  induction ws with
  | nil => rfl
  | cons w ws ih =>
    rw [List.map_cons, absolute_cons, absolute_cons, ← ih]
    exact congrArg (slash :: ·) List.map_append

/-! ### The rows that go -/

/-- What the query and the trie ask of a row's path. -/
def Selected (φ : List Bytes → Bool) (paths : List Bytes) (path : Bytes) : Prop :=
  (∃ listed ∈ paths, AtOrBelow (adjustPath listed) path) ∧
    ∃ listed ∈ paths, canonicalAt φ listed <+: canonicalAt φ path ∧
      max (needLevel path) 1 ≤ (splitPath listed).length

theorem max_needLevel_le {path : Bytes} {n : Nat} :
    max (needLevel path) 1 ≤ n ↔ n ≠ 0 ∧ (coversString APPDATA path = true → 4 ≤ n) := by
  rw [needLevel_eq]
  by_cases h : coversString APPDATA path = true
  · simp only [h, if_true, true_implies]
    omega
  · simp only [h, if_false, Bool.false_eq_true, false_implies, and_true]
    omega

/-- **The stages compose**: on a path with single slashes, the query of one listed path and the
trie of another select no more than what lies below a single one. -/
theorem selected_iff (φ : List Bytes → Bool) {paths : List Bytes}
    (hpaths : ∀ listed ∈ paths, DirectoryPath listed) {path : Bytes} (hnorm : Normalized path) :
    Selected φ paths path ↔ ∃ listed ∈ paths, Covered φ listed path := by
  apply Iff.intro
  · intro h
    obtain ⟨_, listed, hlisted, hprefix, hlevel⟩ := h
    obtain ⟨hnames, hdeep⟩ := max_needLevel_le.mp hlevel
    refine ⟨listed, hlisted, ?_, fun hnil => hnames (by rw [hnil]; rfl), hdeep⟩
    -- the path is cut where the listed path has no more names
    have hsegs : ∀ w ∈ splitPath path, IsSegment slash w := fun w hw => isSegment_of_mem slash hw
    let n := (splitPath listed).length
    have hstart : splitPath (Library.absolute slash ((splitPath path).take n)) =
        (splitPath path).take n :=
      segments_absolute slash _ fun w hw => hsegs w (List.mem_of_mem_take hw)
    have hcanonical : canonicalAt φ (Library.absolute slash ((splitPath path).take n)) =
        canonicalAt φ listed := by
      have hlength : (canonicalAt φ listed).length = n := length_address ..
      rw [canonicalAt, hstart, ← address_take, ← hlength]
      exact (List.prefix_iff_eq_take.mp hprefix).symm
    have hletters := ((canonicalAt_eq_iff φ _ _).mp hcanonical).1
    rw [SameLetters, hstart] at hletters
    refine ⟨Library.absolute slash ((splitPath path).take n),
      Library.absolute slash ((splitPath path).drop n), ?_, ?_, ?_, hcanonical⟩
    · rw [← absolute_append, List.take_append_drop]
      exact hnorm
    · cases (splitPath path).drop n with
      | nil => exact Or.inl rfl
      | cons w ws => exact Or.inr rfl
    · rw [(hpaths listed hlisted).normalized, toLowerCase_absolute, toLowerCase_absolute, hletters]
  · intro h
    obtain ⟨listed, hlisted, ⟨start, rest, hpath, hrest, hlower, hcanonical⟩, hnames, hdeep⟩ := h
    have hlevel : max (needLevel path) 1 ≤ (splitPath listed).length :=
      max_needLevel_le.mpr ⟨fun hzero => hnames (List.eq_nil_of_length_eq_zero hzero), hdeep⟩
    have hends : rest = [] ∨ ∃ below, rest = slash :: below := by
      cases rest with
      | nil => exact Or.inl rfl
      | cons c below =>
        have hc : c = slash := by simpa using hrest
        exact Or.inr ⟨below, by rw [hc]⟩
    rcases hends with rfl | ⟨below, rfl⟩
    · rw [List.append_nil] at hpath
      subst hpath
      exact ⟨⟨listed, hlisted, Or.inl hlower⟩, listed, hlisted,
        hcanonical ▸ List.prefix_refl _, hlevel⟩
    · refine ⟨⟨listed, hlisted, Or.inr ⟨toLowerCase below, ?_⟩⟩, listed, hlisted, ?_, hlevel⟩
      · rw [hpath, toLowerCase, toLowerCase, toLowerCase, List.map_append, List.map_append,
          List.append_assoc]
        exact congrArg (· ++ slash :: List.map tolower below) hlower.symm
      · have hsplit : splitPath path = splitPath start ++ splitPath below := by
          rw [hpath]
          exact segments_append_sep slash start below
        rw [← hcanonical, canonicalAt, canonicalAt, hsplit]
        exact address_prefix foldKey φ _ _

theorem checkPathAny_listed (env : CleanEnv) (paths : List Bytes) (path : Bytes) :
    checkPathAny (insertPaths
        (initTrieWithCaseSensitivity env.caseInsensitivePaths env.caseSensitivePaths)
        ((paths.map adjustPath).map fun listed => (listed, 0))) path = true ↔
      ∃ listed ∈ paths, canonicalAt env.caseFlags listed <+: canonicalAt env.caseFlags path ∧
        max (needLevel path) 1 ≤ (splitPath listed).length := by
  have hcanonical : ∀ listed, canonicalAt env.caseFlags (adjustPath listed) =
      canonicalAt env.caseFlags listed := by
    intro listed
    rw [canonicalAt, canonicalAt, splitPath_adjustPath]
  rw [checkPathAny_iff (configured_init _ _), List.map_map]
  apply Iff.intro
  · intro h
    obtain ⟨_, hrow, hprefix, hlevel⟩ := h
    obtain ⟨listed, hlisted, rfl⟩ := List.mem_map.mp hrow
    exact ⟨listed, hlisted, (hcanonical listed) ▸ hprefix,
      (congrArg List.length (splitPath_adjustPath listed)) ▸ hlevel⟩
  · intro h
    obtain ⟨listed, hlisted, hprefix, hlevel⟩ := h
    refine ⟨_, List.mem_map_of_mem hlisted, ?_, ?_⟩
    · exact (hcanonical listed).symm ▸ hprefix
    · exact (congrArg List.length (splitPath_adjustPath listed)).symm ▸ hlevel

theorem staysInResults_iff (env : CleanEnv) (userId : UInt32) (paths : List Bytes) (row : Row) :
    staysInResults env userId.toInt32 (insertPaths
        (initTrieWithCaseSensitivity env.caseInsensitivePaths env.caseSensitivePaths)
        ((paths.map adjustPath).map fun listed => (listed, 0))) (resultToGenericValues row) = true ↔
      (∃ listed ∈ paths, canonicalAt env.caseFlags listed <+: canonicalAt env.caseFlags row.path ∧
        max (needLevel row.path) 1 ≤ (splitPath listed).length) ∧
        OfUserOrUnknown env userId row.tokenId := by
  rw [staysInResults, Bool.and_eq_true]
  refine and_congr (checkPathAny_listed env paths row.path) ?_
  show (env.userIdOf row.tokenId).elim true _ = true ↔ _
  rw [OfUserOrUnknown]
  cases env.userIdOf row.tokenId with
  | none => simp
  | some tokenUserId => simp

section
variable {env : CleanEnv} (hfind : ∀ path, env.findOk path = true) (hremove : env.removeOk = true)
  {userId : UInt32} {paths : List Bytes} (hpaths : ∀ listed ∈ paths, DirectoryPath listed)
include hfind hremove hpaths

open Classical in
/-- What is left of the results names exactly the rows that were selected for the user. -/
theorem rows_cleanPolicyByUserId (t : PersistedTable) :
    (cleanPolicyByUserId env t.table userId paths).table.rows = t.table.rows.filter fun row =>
      ¬ (Selected env.caseFlags paths row.path ∧ OfUserOrUnknown env userId row.tokenId) := by
  have husable : paths.filterMap usablePath = paths.map adjustPath := by
    rw [← List.filterMap_eq_map]
    exact List.filterMap_congr fun listed hlisted => (hpaths listed hlisted).usable
  have hqueried : (paths.map adjustPath).filter env.findOk = paths.map adjustPath :=
    List.filter_eq_self.mpr fun path _ => hfind path
  let trieTree := insertPaths
    (initTrieWithCaseSensitivity env.caseInsensitivePaths env.caseSensitivePaths)
    ((paths.map adjustPath).map fun listed => (listed, 0))
  let left := ((paths.map adjustPath).flatMap (findSubPathIgnoreCase t.table)).filter
    (staysInResults env userId.toInt32 trieTree)
  have hrows : (cleanPolicyByUserId env t.table userId paths).table.rows =
      t.table.rows.filter fun row => !left.any (recordPredicates · row) := by
    rw [← rows_removeRecords]
    simp only [cleanPolicyByUserId, husable, hqueried, hremove]
    show (if left ≠ [] ∧ True then removeRecords t.table left else t.table).rows = _
    by_cases hleft : left = []
    · rw [if_neg fun h => h.1 hleft, hleft]
      rfl
    · rw [if_pos ⟨hleft, trivial⟩]
  rw [hrows]
  apply List.filter_congr
  intro row hrow
  have hany : left.any (recordPredicates · row) = true ↔
      Selected env.caseFlags paths row.path ∧ OfUserOrUnknown env userId row.tokenId := by
    rw [List.any_eq_true, Selected, and_assoc, ← staysInResults_iff]
    apply Iff.intro
    · intro h
      obtain ⟨record, hrecord, hsame⟩ := h
      obtain ⟨hfound, hstays⟩ := List.mem_filter.mp hrecord
      obtain ⟨path, hpath, hqueried⟩ := List.mem_flatMap.mp hfound
      obtain ⟨listed, hlisted, rfl⟩ := List.mem_map.mp hpath
      rw [findSubPathIgnoreCase_eq] at hqueried
      obtain ⟨origin, horigin, rfl⟩ := List.mem_map.mp hqueried
      obtain ⟨hmem, hbelow⟩ := List.mem_filter.mp horigin
      -- a record finds its own row
      have hown : row = origin :=
        (recordPredicates_iff (t.written origin hmem) (t.written row hrow)).mp hsame
      subst hown
      exact ⟨⟨listed, hlisted, of_decide_eq_true hbelow⟩, hstays⟩
    · intro h
      obtain ⟨⟨listed, hlisted, hbelow⟩, hstays⟩ := h
      refine ⟨resultToGenericValues row, List.mem_filter.mpr ⟨?_, hstays⟩,
        (recordPredicates_iff (t.written row hrow) (t.written row hrow)).mpr rfl⟩
      refine List.mem_flatMap.mpr ⟨adjustPath listed, List.mem_map_of_mem hlisted, ?_⟩
      rw [findSubPathIgnoreCase_eq]
      exact List.mem_map_of_mem (List.mem_filter.mpr ⟨hrow, decide_eq_true hbelow⟩)
  rw [Bool.eq_iff_iff, Bool.not_eq_true', decide_eq_true_eq, ← hany, Bool.not_eq_true]

end

/-- What cleaning does to the table. -/
structure Cleaned (env : CleanEnv) (userId : UInt32) (paths : List Bytes) (before after : Table) :
    Prop where
  /-- No row is added, changed or moved. -/
  rows : after.rows.Sublist before.rows
  exact : ∀ row ∈ before, Normalized row.path →
    (row ∈ after ↔ ¬ ((∃ listed ∈ paths, Covered env.caseFlags listed row.path) ∧
      OfUserOrUnknown env userId row.tokenId))

open Classical in
/-- **Exactly the covered rows of the user go**, and those whose user is not known. -/
theorem cleanPolicyByUserId_cleaned (env : CleanEnv) (hfind : ∀ path, env.findOk path = true)
    (hremove : env.removeOk = true) (t : PersistedTable) (userId : UInt32) (paths : List Bytes)
    (hpaths : ∀ listed ∈ paths, DirectoryPath listed) :
    Cleaned env userId paths t.table (cleanPolicyByUserId env t.table userId paths).table := by
  have hrows := @rows_cleanPolicyByUserId env hfind hremove userId paths hpaths t
  apply Cleaned.mk
  · rw [hrows]
    exact List.filter_sublist
  · intro row hrow hnorm
    rw [← selected_iff env.caseFlags hpaths hnorm, KeyedTable.mem_iff, hrows, List.mem_filter,
      decide_eq_true_iff]
    exact and_iff_right hrow

/-- Token 1 is of user 100, token 2 of user 101, and no other is known. -/
def cleaning (insens sens : List Bytes) : CleanEnv where
  isMacSupport := true
  caseInsensitivePaths := insens
  caseSensitivePaths := sens
  userIdOf tokenId := if tokenId = 1 then some 100 else if tokenId = 2 then some 101 else none
  findOk _ := true
  removeOk := true

/-- The same path for several tokens. -/
def storedFor (tokenIds : List UInt32) (hunique : tokenIds.Nodup) (path : Bytes) : PersistedTable where
  table := ⟨tokenIds.map fun tokenId => { tokenId, path, mode := 1, depth := 0, flag := 0 }, by
    rw [List.map_map]
    exact hunique.map fun _ _ h => congrArg RowKey.tokenId h⟩
  written := by
    intro r hr
    obtain ⟨tokenId, -, rfl⟩ := List.mem_map.mp hr
    exact ⟨show (1 : UInt64) < MAX_MODE by decide, show (0 : UInt32).toNat < 2 ^ 31 by decide,
      ⟨show (-2 ^ 31 : Int) ≤ 0 by decide, show (0 : Int) < 2 ^ 31 by decide⟩, Int.le_refl 0⟩

def inDocs : PersistedTable :=
  storedFor [1, 2, 3] (by decide) (bytes "/storage/Users/currentUser/docs/a")

/-- Of three rows the other user's stays. -/
theorem cleanPolicyByUserId_cleaned_docs :
    Cleaned (cleaning [CURRENT_USER] [APPDATA]) 100 [bytes "/storage/Users/currentUser/Docs/"]
        inDocs.table (cleanPolicyByUserId (cleaning [CURRENT_USER] [APPDATA]) inDocs.table 100
          [bytes "/storage/Users/currentUser/Docs/"]).table ∧
      (cleanPolicyByUserId (cleaning [CURRENT_USER] [APPDATA]) inDocs.table 100
        [bytes "/storage/Users/currentUser/Docs/"]).table.rows.map Row.tokenId = [2] := by
  refine ⟨cleanPolicyByUserId_cleaned _ (fun _ => rfl) rfl inDocs 100 _ ?_, by decide +kernel⟩
  intro listed hlisted
  rw [List.mem_singleton.mp hlisted]
  decide +kernel

theorem Below.take {φ : List Bytes → Bool} {listed path : Bytes} (h : Below φ listed path) :
    toLowerCase (path.take (adjustPath listed).length) = toLowerCase (adjustPath listed) ∧
      canonicalAt φ (path.take (adjustPath listed).length) = canonicalAt φ listed := by
  obtain ⟨start, rest, rfl, -, hlower, hcanonical⟩ := h
  have hlength : start.length = (adjustPath listed).length := by
    simpa [toLowerCase] using congrArg List.length hlower
  rw [← hlength, List.take_left]
  exact ⟨hlower, hcanonical⟩

/-- What it would be for exactly the rows below a listed path to go. -/
def CleansExactly (below : (List Bytes → Bool) → Bytes → Bytes → Prop) : Prop :=
  ∀ (env : CleanEnv) (t : PersistedTable) (userId : UInt32) (paths : List Bytes),
    (∀ path, env.findOk path = true) → env.removeOk = true →
    (∀ listed ∈ paths, DirectoryPath listed) → ∀ row ∈ t.table,
      (row ∈ (cleanPolicyByUserId env t.table userId paths).table ↔
        ¬ ((∃ listed ∈ paths, below env.caseFlags listed row.path) ∧
          OfUserOrUnknown env userId row.tokenId))

/-- A path above appdata leaves what is stored in appdata; and where slashes are repeated, the query
of one listed path and the trie of another select a row that is below neither. -/
theorem not_cleansExactly : ¬ CleansExactly Below ∧ ¬ CleansExactly Covered := by
  apply And.intro
  · intro h
    let path := bytes "/storage/Users/currentUser/appdata/el2/base/a"
    let t := storedFor [1] (by decide) path
    let row : Row := { tokenId := 1, path, mode := 1, depth := 0, flag := 0 }
    have hgoes := h (cleaning [CURRENT_USER] [APPDATA]) t 100 [CURRENT_USER] (fun _ => rfl) rfl
      (by
        intro listed hlisted
        rw [List.mem_singleton.mp hlisted]
        decide +kernel)
      row (List.mem_singleton.mpr rfl)
    have hkept : row ∈ (cleanPolicyByUserId (cleaning [CURRENT_USER] [APPDATA]) t.table 100
        [CURRENT_USER]).table := by
      rw [KeyedTable.mem_iff]
      decide +kernel
    refine hgoes.mp hkept ⟨⟨CURRENT_USER, List.mem_singleton.mpr rfl,
      CURRENT_USER, bytes "/appdata/el2/base/a", by decide +kernel, by decide, by decide, rfl⟩, ?_⟩
    intro tokenUserId htoken
    exact (Option.some.inj htoken).symm
  · intro h
    let path := bytes "/a//b"
    let row : Row := { tokenId := 1, path, mode := 1, depth := 0, flag := 0 }
    have hgoes := h (cleaning [] []) (storedFor [1] (by decide) path) 100
      [bytes "/A", bytes "/a/b"] (fun _ => rfl) rfl
      (by
        intro listed hlisted
        rcases List.mem_pair.mp hlisted with rfl | rfl
        · decide +kernel
        · decide +kernel)
      row (List.mem_singleton.mpr rfl)
    have hgone : row ∉ (cleanPolicyByUserId (cleaning [] []) (storedFor [1] (by decide) path).table
        100 [bytes "/A", bytes "/a/b"]).table := by
      rw [KeyedTable.mem_iff]
      decide +kernel
    apply hgone
    rw [hgoes]
    intro h
    obtain ⟨⟨listed, hlisted, hbelow, _⟩, _⟩ := h
    obtain ⟨hlower, hcanonical⟩ := hbelow.take
    revert hlower hcanonical
    rcases List.mem_pair.mp hlisted with rfl | rfl
    · decide +kernel
    · decide +kernel

end SandboxManager.Policy
