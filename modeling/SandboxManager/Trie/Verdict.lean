import SandboxManager.Trie.Matching

/-! The two matchers against what they are for.

A set of rows grants a mode from a depth on when the shallowest stored ancestor
of the path at or below that depth has, over all rows stored at that directory,
the mode among its modes (`Grants`). `CheckPathNew` grants from the deepest
blocked ancestor on (`checkPathNew_iff_grants`), `CheckPath` from the level it
reads off the raw path string (`checkPath_iff_grants`). Under the built-in case
configuration both compare components by the same canonical spelling, and what
separates the two is a path that names appdata in another spelling than the one
`CheckPathInternal` looks for. -/
namespace SandboxManager.Trie
open Library KeyTree FirstMatch

/-- `mode` asks for nothing that `referMode` lacks. -/
def Covers (referMode mode : UInt64) : Prop :=
  referMode &&& (mode &&& MODE_FILTER) = mode &&& MODE_FILTER

instance (referMode mode : UInt64) : Decidable (Covers referMode mode) :=
  inferInstanceAs (Decidable (_ = _))

theorem isPolicyMatch_iff (referMode mode : UInt64) :
    isPolicyMatch referMode mode = true ↔ Covers referMode mode := by
  have hmask : (referMode &&& MODE_FILTER) &&& (mode &&& MODE_FILTER) =
      referMode &&& (mode &&& MODE_FILTER) := by
    rw [UInt64.and_assoc, UInt64.and_comm MODE_FILTER, UInt64.and_assoc, UInt64.and_self]
  rw [isPolicyMatch, beq_iff_eq, hmask]
  exact Iff.rfl

theorem covers_self (mode : UInt64) : Covers mode mode := by
  rw [Covers, ← UInt64.and_assoc, UInt64.and_self]

theorem Covers.or_left {a mode : UInt64} (h : Covers a mode) (b : UInt64) :
    Covers (a ||| b) mode := by
  unfold Covers at h ⊢
  rw [← UInt64.toBitVec_inj] at h ⊢
  ext i hi
  have hbit := congrArg (fun v : BitVec 64 => v[i]) h
  simp only [UInt64.toBitVec_and, UInt64.toBitVec_or, BitVec.getElem_and, BitVec.getElem_or] at hbit ⊢
  grind

/-- A merged mode grants what any of its rows grants. -/
theorem covers_mergedMode {f : Bytes → Bool} {rows : List (Bytes × UInt64)}
    {row : Bytes × UInt64} {mode : UInt64} (hrow : row ∈ rows) (hf : f row.1 = true)
    (h : Covers row.2 mode) : Covers (mergedMode f rows) mode := by
  induction rows with
  | nil => cases hrow
  | cons r rest ih =>
    rw [mergedMode_cons]
    rcases List.mem_cons.mp hrow with rfl | hrow
    · rw [if_pos hf]
      exact h.or_left _
    · split
      · rw [UInt64.or_comm]
        exact (ih hrow).or_left _
      · exact ih hrow

theorem or_mergedMode {f : Bytes → Bool} {rows : List (Bytes × UInt64)}
    {row : Bytes × UInt64} (hrow : row ∈ rows) (hf : f row.1 = true) :
    row.2 ||| mergedMode f rows = mergedMode f rows := by
  induction rows with
  | nil => cases hrow
  | cons r rest ih =>
    rw [mergedMode_cons]
    rcases List.mem_cons.mp hrow with rfl | hrow
    · rw [if_pos hf, ← UInt64.or_assoc, UInt64.or_self]
    · split
      · rw [UInt64.or_comm r.2, ← UInt64.or_assoc, ih hrow]
      · exact ih hrow

/-- More rows merge to no less. -/
theorem Covers.of_subset {f : Bytes → Bool} {rows rows' : List (Bytes × UInt64)} {mode : UInt64}
    (h : Covers (mergedMode f rows) mode) (hsub : rows ⊆ rows') :
    Covers (mergedMode f rows') mode := by
  have habsorb : mergedMode f rows ||| mergedMode f rows' = mergedMode f rows' := by
    clear h
    induction rows with
    | nil => exact UInt64.zero_or
    | cons row rest ih =>
      have hrest := ih fun r hr => hsub (List.mem_cons_of_mem row hr)
      rw [mergedMode_cons]
      split
      case isTrue hf => rw [UInt64.or_assoc, hrest, or_mergedMode (hsub (List.mem_cons_self ..)) hf]
      case isFalse => exact hrest
  rw [← habsorb]
  exact h.or_left _
section Grants
variable (φ : List Bytes → Bool) (rows : List (Bytes × UInt64)) (path : Bytes)

/-- The depths, from `lo` on, of the directories on the way to `path` that are stored. -/
def storedDepths (lo : Nat) : Set Nat :=
  {k | lo ≤ k ∧ ∃ row ∈ rows,
    canonicalAt φ row.1 <+: canonicalAt φ path ∧ (canonicalAt φ row.1).length = k}

/-- The OR of the modes stored at the ancestor of `path` at depth `k`. -/
def modeAtDepth (k : Nat) : UInt64 :=
  mergedMode (fun p => canonicalAt φ p = (canonicalAt φ path).take k) rows

def Grants (lo : Nat) (mode : UInt64) : Prop :=
  ∃ k, IsLeast (storedDepths φ rows path lo) k ∧ Covers (modeAtDepth φ rows path k) mode

/-- The length of the longest blocked path on the way to `path`, 0 when there is none. -/
def blockedDepth (blocked : List Bytes) : Nat :=
  (((blocked.map (canonicalAt φ)).toFinset.filter (· <+: canonicalAt φ path)).sup List.length)

variable {φ rows path}

theorem mem_storedDepths_iff {lo k : Nat} :
    k ∈ storedDepths φ rows path lo ↔ lo ≤ k ∧ k ≤ (canonicalAt φ path).length ∧
      ∃ row ∈ rows, canonicalAt φ row.1 = (canonicalAt φ path).take k := by
  constructor
  · rintro ⟨hlo, row, hrow, hp, rfl⟩
    exact ⟨hlo, hp.length_le, row, hrow, List.prefix_iff_eq_take.mp hp⟩
  · rintro ⟨hlo, hle, row, hrow, heq⟩
    refine ⟨hlo, row, hrow, heq ▸ List.take_prefix k _, ?_⟩
    rw [heq, List.length_take, Nat.min_eq_left hle]

/-- A least stored depth stays the least when the search starts anywhere up to it. -/
theorem isLeast_storedDepths_of_le {lo lo' k : Nat} (h : IsLeast (storedDepths φ rows path lo) k)
    (hlo : lo ≤ lo') (hk : lo' ≤ k) : IsLeast (storedDepths φ rows path lo') k :=
  ⟨⟨hk, h.1.2⟩, fun _ hj => h.2 ⟨hlo.trans hj.1, hj.2⟩⟩

theorem grants_iff_of_isLeast {lo k : Nat} {mode : UInt64}
    (h : IsLeast (storedDepths φ rows path lo) k) :
    Grants φ rows path lo mode ↔ Covers (modeAtDepth φ rows path k) mode := by
  constructor
  · rintro ⟨k', hk', hc⟩
    exact h.unique hk' ▸ hc
  · exact fun hc => ⟨k, h, hc⟩

variable (φ path) in
theorem length_le_blockedDepth {blocked : List Bytes} {b : Bytes} (hb : b ∈ blocked)
    (hp : canonicalAt φ b <+: canonicalAt φ path) :
    (canonicalAt φ b).length ≤ blockedDepth φ path blocked := by
  refine Finset.le_sup (f := List.length) (Finset.mem_filter.mpr ⟨?_, hp⟩)
  exact List.mem_toFinset.mpr (List.mem_map_of_mem hb)

variable (φ path) in
theorem blockedDepth_spec (blocked : List Bytes) :
    blockedDepth φ path blocked = 0 ∨ ∃ b ∈ blocked, canonicalAt φ b <+: canonicalAt φ path ∧
      (canonicalAt φ b).length = blockedDepth φ path blocked := by
  rcases Finset.eq_empty_or_nonempty
    ((blocked.map (canonicalAt φ)).toFinset.filter (· <+: canonicalAt φ path)) with h | h
  · exact Or.inl (by rw [blockedDepth, h, Finset.sup_empty]; rfl)
  · obtain ⟨c, hc, hlen⟩ := Finset.exists_mem_eq_sup _ h List.length
    obtain ⟨hc, hp⟩ := Finset.mem_filter.mp hc
    obtain ⟨b, hb, rfl⟩ := List.mem_map.mp (List.mem_toFinset.mp hc)
    exact Or.inr ⟨b, hb, hp, hlen.symm⟩

end Grants

/-! ### From levels to grants -/

/-- A node without its case setting. -/
def caseless (v : NodeInfo) : NodeInfo := { v with caseInsensitive := false }

/-- A trie to which nothing has been written but the case configuration. -/
def Configured (t : PolicyTrie) : Prop := ∀ a, t.fieldAt caseless {} a = {}

theorem configured_empty : Configured .empty := fieldAt_fresh caseless {}

theorem Configured.caseSet {t : PolicyTrie} (h : Configured t) (path : Bytes) (b : Bool) :
    Configured (setCasePolicy t path b) := by
  intro a
  refine Eq.trans ?_ (h a)
  refine fieldAt_grow_unmarked ?_ ?_ ?_ t (splitPath path) a <;> intros <;> rfl

theorem Configured.caseSets {t : PolicyTrie} (h : Configured t) (paths : List Bytes) (b : Bool) :
    Configured (paths.foldl (fun t path => setCasePolicy t path b) t) := by
  induction paths generalizing t with
  | nil => exact h
  | cons path rest ih => exact ih (h.caseSet path b)

theorem Configured.policy {t : PolicyTrie} (h : Configured t) (a : List Bytes) :
    policyAt t a = (false, 0) := by
  have := fieldAt_comp (fun v => (v.isEndOfPath, v.mode)) caseless {} t a
  rwa [h a] at this

theorem Configured.denied {t : PolicyTrie} (h : Configured t) (a : List Bytes) :
    deniedAt t a = false := by
  have := fieldAt_comp NodeInfo.denyInherit caseless {} t a
  rwa [h a] at this

section Tries
variable {t : PolicyTrie} (h : Configured t) (blocked : List Bytes)
  (rows : List (Bytes × UInt64)) (path : Bytes) (mode : UInt64)
include h

/-- The rule at an address of a filled trie is the verdict of the modes stored there. -/
theorem rule_levelAt (a : List Bytes) :
    (levelAt (insertPaths (addDeniedPaths t blocked) rows) mode a).rule =
      if ∃ row ∈ rows, canonicalAt (flags t) row.1 = a then
        some (isPolicyMatch (mergedMode (fun p => canonicalAt (flags t) p = a) rows) mode)
      else none := by
  simp only [levelAt, policyAt_insertPaths, policyAt_addDeniedPaths, flags_addDeniedPaths, h.policy,
    Bool.false_or, UInt64.zero_or, List.any_eq_true, decide_eq_true_eq]

theorem reset_levelAt (a : List Bytes) :
    (levelAt (insertPaths (addDeniedPaths t blocked) rows) mode a).reset =
      blocked.any fun b => canonicalAt (flags t) b = a := by
  simp only [levelAt, deniedAt_insertPaths, deniedAt_addDeniedPaths, h.denied, Bool.false_or]

/-- The first rule below `d` is the one `Grants` speaks of. -/
theorem first_levels_grants (d : Nat) :
    first ((levels (levelAt (insertPaths (addDeniedPaths t blocked) rows) mode)
        (canonicalAt (flags t) path)).drop (d - 1)) = some true ↔
      Grants (flags t) rows path (max d 1) mode := by
  rw [first_levels_iff]
  constructor
  · rintro ⟨k, hdk, hk, hrule, hbefore⟩
    rw [rule_levelAt h] at hrule
    split at hrule
    case isFalse => cases hrule
    case isTrue hstored =>
      refine ⟨k, ⟨mem_storedDepths_iff.mpr ⟨by omega, hk, hstored⟩, fun j hj => ?_⟩,
        (isPolicyMatch_iff _ _).mp (Option.some.inj hrule)⟩
      obtain ⟨hdj, -, hj⟩ := mem_storedDepths_iff.mp hj
      by_contra hlt
      have hnone := hbefore j (by omega) (by omega)
      rw [rule_levelAt h, if_pos hj] at hnone
      cases hnone
  · rintro ⟨k, ⟨hmem, hleast⟩, hcovers⟩
    obtain ⟨hdk, hk, hstored⟩ := mem_storedDepths_iff.mp hmem
    refine ⟨k, by omega, hk, ?_, fun j hj hjk => ?_⟩
    · rw [rule_levelAt h, if_pos hstored]
      exact congrArg some ((isPolicyMatch_iff _ _).mpr hcovers)
    · rw [rule_levelAt h, if_neg]
      intro hj'
      have := hleast (mem_storedDepths_iff.mpr ⟨by omega, by omega, hj'⟩)
      omega

/-- The last level that resets is the deepest blocked ancestor's. -/
theorem lastReset_levels :
    LastReset (blockedDepth (flags t) path blocked - 1)
      (levels (levelAt (insertPaths (addDeniedPaths t blocked) rows) mode)
        (canonicalAt (flags t) path)) := by
  refine ⟨?_, fun j l hj hl => ?_⟩
  · rcases blockedDepth_spec (flags t) path blocked with h0 | ⟨b, hb, hp, hlen⟩
    · exact Or.inl (by omega)
    · by_cases h0 : blockedDepth (flags t) path blocked - 1 = 0
      · exact Or.inl h0
      · have hle := hp.length_le
        refine Or.inr ⟨_, levels_getElem? _ _ (by omega), ?_⟩
        rw [reset_levelAt h, List.any_eq_true]
        refine ⟨b, hb, decide_eq_true ?_⟩
        rw [List.prefix_iff_eq_take.mp hp, hlen]
        congr 1
        omega
  · have hlt := (List.getElem?_eq_some_iff.mp hl).1
    rw [length_levels] at hlt
    rw [levels_getElem? _ _ hlt, Option.some.injEq] at hl
    rw [← hl, reset_levelAt h, List.any_eq_false]
    intro b hb hb'
    have hb' : canonicalAt (flags t) b = (canonicalAt (flags t) path).take (j + 1) :=
      of_decide_eq_true hb'
    have := length_le_blockedDepth (flags t) path hb (hb' ▸ List.take_prefix _ _)
    rw [hb', List.length_take] at this
    omega

/-- **`CheckPathNew` grants from the deepest blocked ancestor on.** -/
theorem checkPathNew_iff_grants :
    checkPathNew (insertPaths (addDeniedPaths t blocked) rows) path mode = true ↔
      Grants (flags t) rows path (max (blockedDepth (flags t) path blocked) 1) mode := by
  rw [checkPathNew_scan, flags_insertPaths, flags_addDeniedPaths, beq_iff_eq,
    scan_from (lastReset_levels h blocked rows path mode), first_levels_grants h]

/-- **`CheckPath` grants from the level it reads off the path string.** -/
theorem checkPath_iff_grants :
    checkPath (insertPaths t rows) path mode = true ↔
      Grants (flags t) rows path (max (needLevel path) 1) mode := by
  rw [checkPath_first, flags_insertPaths, beq_iff_eq]
  exact first_levels_grants h [] rows path mode (needLevel path)

end Tries

/-! ### The built-in case configuration -/

def CURRENT_USER : Bytes := bytes "/storage/Users/currentUser"

def APPDATA : Bytes := bytes "/storage/Users/currentUser/appdata"

def initTrieWithCaseSensitivity (caseInsensitivePaths caseSensitivePaths : List Bytes) :
    PolicyTrie :=
  caseSensitivePaths.foldl setSensitive (caseInsensitivePaths.foldl setInsensitive .empty)

/-- The trie as `MatchNormalPolicy` prepares it before anything is stored or blocked. -/
def builtinTrie : PolicyTrie := setSensitive (setInsensitive .empty CURRENT_USER) APPDATA

def currentUserDir : List Bytes := [bytes "storage", bytes "Users", bytes "currentUser"]

def appdataDir : List Bytes := currentUserDir ++ [bytes "appdata"]

/-- Letter case is ignored in currentUser and below, appdata and below excepted. -/
def builtinInsensitive (dir : List Bytes) : Bool :=
  currentUserDir.isPrefixOf dir && !appdataDir.isPrefixOf dir

/-- The components of a path, a component in lower case exactly when its parent
directory ignores case. -/
def canonical (path : Bytes) : List Bytes := canonicalAt builtinInsensitive path

theorem configured_init (insens sens : List Bytes) :
    Configured (initTrieWithCaseSensitivity insens sens) :=
  (configured_empty.caseSets insens true).caseSets sens false

theorem configured_builtin : Configured builtinTrie :=
  (configured_empty.caseSet CURRENT_USER true).caseSet APPDATA false

/-- The nodes of a directory above a given trie, without any policy or setting. -/
def underDir (dir : List Bytes) (t : PolicyTrie) : PolicyTrie :=
  dir.foldr (fun k c => .node {} [(k, c)]) t

theorem flags_single (v : NodeInfo) (k : Bytes) (c : PolicyTrie) (k' : Bytes) (a : List Bytes) :
    flags (.node v [(k, c)]) (k' :: a) = if k' = k then flags c a else v.caseInsensitive := by
  simp only [flags, reach, child?_single]
  by_cases hk : k' = k
  · simp only [hk, if_true]
  · simp only [hk, if_false, info]

theorem flags_underDir (dir : List Bytes) (t : PolicyTrie) (a : List Bytes) :
    flags (underDir dir t) a = (dir.isPrefixOf a && flags t (a.drop dir.length)) := by
  induction dir generalizing a with
  | nil => simp [underDir]
  | cons k dir ih =>
    cases a with
    | nil => rfl
    | cons k' a =>
      have hcons : underDir (k :: dir) t = .node {} [(k, underDir dir t)] := rfl
      rw [hcons, flags_single, ih]
      by_cases hk : k' = k
      · subst hk
        simp
      · simp [hk, Ne.symm hk]

theorem builtinTrie_eq : builtinTrie =
    underDir currentUserDir
      (.node { caseInsensitive := true } [(bytes "appdata", .node {} [])]) := by
  rfl

theorem flags_builtin : flags builtinTrie = builtinInsensitive := by
  funext a
  rw [builtinTrie_eq, flags_underDir, builtinInsensitive]
  by_cases h : currentUserDir <+: a
  · obtain ⟨rest, rfl⟩ := h
    have hp : appdataDir.isPrefixOf (currentUserDir ++ rest) = [bytes "appdata"].isPrefixOf rest := by
      rw [Bool.eq_iff_iff, List.isPrefixOf_iff_prefix, List.isPrefixOf_iff_prefix]
      exact List.prefix_append_right_inj currentUserDir
    rw [List.drop_left, hp]
    cases rest with
    | nil => rfl
    | cons k rest =>
      rw [flags_single]
      by_cases hk : k = bytes "appdata"
      · rw [if_pos hk, hk]
        cases rest <;> rfl
      · have hne : [bytes "appdata"].isPrefixOf (k :: rest) = false := by
          rw [← Bool.not_eq_true, List.isPrefixOf_iff_prefix, List.cons_prefix_cons]
          exact fun h => hk h.1.symm
        rw [if_neg hk, hne]
        rfl
  · have hp : currentUserDir.isPrefixOf a = false := by
      rw [← Bool.not_eq_true, List.isPrefixOf_iff_prefix]
      exact h
    rw [hp]
    rfl

/-- **What `CheckPathNew` decides** on a trie prepared and filled as `MatchNormalPolicy` does. -/
theorem checkPathNew_builtin (blocked : List Bytes) (rows : List (Bytes × UInt64)) (path : Bytes)
    (mode : UInt64) :
    let d := ((blocked.map canonical).toFinset.filter (· <+: canonical path)).sup List.length
    checkPathNew (insertPaths (addDeniedPaths builtinTrie blocked) rows) path mode = true ↔
      ∃ k, IsLeast {k | max d 1 ≤ k ∧ ∃ row ∈ rows,
          canonical row.1 <+: canonical path ∧ (canonical row.1).length = k} k ∧
        Covers (mergedMode (fun p => canonical p = (canonical path).take k) rows) mode := by
  intro d
  rw [checkPathNew_iff_grants configured_builtin, flags_builtin]
  exact Iff.rfl

/-! ### The two matchers compared -/

/-- A path that leads into appdata but does not begin with the bytes `CheckPathInternal` looks
for: letter case changed, slashes repeated, the first slash missing. -/
def RespelledAppdata (path : Bytes) : Prop :=
  appdataDir <+: canonical path ∧ coversString APPDATA path = false

instance (path : Bytes) : Decidable (RespelledAppdata path) :=
  inferInstanceAs (Decidable (_ ∧ _))

theorem needLevel_eq (path : Bytes) :
    needLevel path = if coversString APPDATA path then 4 else 0 := rfl

theorem splitPath_appdata : splitPath APPDATA = appdataDir := by decide

theorem canonical_appdata : canonical APPDATA = appdataDir := by decide

theorem canonical_currentUser : canonical CURRENT_USER = currentUserDir := by decide

/-- The bytes `CheckPathInternal` looks for do lead into appdata. -/
theorem appdata_prefix_of_coversString {path : Bytes} (h : coversString APPDATA path = true) :
    appdataDir <+: canonical path := by
  simp only [coversString, Bool.and_eq_true, List.isPrefixOf_iff_prefix, Bool.or_eq_true,
    beq_iff_eq] at h
  obtain ⟨⟨rest, rfl⟩, hend⟩ := h
  have hsplit : ∃ segs, splitPath (APPDATA ++ rest) = appdataDir ++ segs := by
    cases rest with
    | nil => exact ⟨[], by rw [List.append_nil, List.append_nil, splitPath_appdata]⟩
    | cons c rest =>
      have hc : c = slash := by simpa using hend
      refine ⟨splitPath rest, ?_⟩
      rw [hc, splitPath, segments_append_sep, ← splitPath, splitPath_appdata]
      rfl
  obtain ⟨segs, hsegs⟩ := hsplit
  rw [canonical, canonicalAt, hsegs]
  have := address_prefix foldKey builtinInsensitive appdataDir segs
  rwa [← splitPath_appdata, ← canonicalAt, ← canonical, canonical_appdata, splitPath_appdata] at this

theorem blockedDepth_appdata (path : Bytes) :
    blockedDepth builtinInsensitive path [APPDATA] = if appdataDir <+: canonical path then 4 else 0 := by
  have hset : ([APPDATA].map (canonicalAt builtinInsensitive)).toFinset = {appdataDir} := by
    rw [List.map_singleton, ← canonical, canonical_appdata]
    rfl
  rw [blockedDepth, hset, Finset.filter_singleton, ← canonical]
  by_cases h : appdataDir <+: canonical path
  · rw [if_pos h, if_pos h, Finset.sup_singleton]
    rfl
  · rw [if_neg h, if_neg h]
    rfl

section Compare
variable {φ : List Bytes → Bool} {rows : List (Bytes × UInt64)} {path : Bytes} {lo hi : Nat}

open Classical in
theorem exists_isLeast_storedDepths {k : Nat} (h : k ∈ storedDepths φ rows path lo) :
    ∃ k, IsLeast (storedDepths φ rows path lo) k :=
  have hex : ∃ k, k ∈ storedDepths φ rows path lo := ⟨k, h⟩
  ⟨Nat.find hex, Nat.find_spec hex, fun _ hj => Nat.find_min' hex hj⟩

/-- Granting from further down differs only when something above there is stored. -/
theorem grants_iff_grants {mode : UInt64} (hle : lo ≤ hi) :
    (Grants φ rows path lo mode ↔ Grants φ rows path hi mode) ↔
      ∀ k, IsLeast (storedDepths φ rows path lo) k → k < hi →
        (Covers (modeAtDepth φ rows path k) mode ↔ Grants φ rows path hi mode) := by
  constructor
  · intro h k hk _
    rw [← grants_iff_of_isLeast hk, h]
  · intro h
    by_cases hex : ∃ k, IsLeast (storedDepths φ rows path lo) k
    · obtain ⟨k, hk⟩ := hex
      rw [grants_iff_of_isLeast hk]
      by_cases hlt : k < hi
      · exact h k hk hlt
      · rw [grants_iff_of_isLeast (isLeast_storedDepths_of_le hk hle (by omega))]
    · constructor
      · rintro ⟨k, hk, -⟩
        exact absurd ⟨k, hk⟩ hex
      · rintro ⟨k, hk, -⟩
        exact absurd (exists_isLeast_storedDepths ⟨hle.trans hk.1.1, hk.1.2⟩) hex

end Compare

/-- The older matcher's verdict on the rows of a table, as `MatchNormalPolicy` computes it. -/
def matchOld (rows : List (Bytes × UInt64)) (path : Bytes) (mode : UInt64) : Bool :=
  checkPath (insertPaths (initTrieWithCaseSensitivity [CURRENT_USER] [APPDATA]) rows) path mode

/-- The newer one's, with appdata as the only blocked path. -/
def matchNew (rows : List (Bytes × UInt64)) (path : Bytes) (mode : UInt64) : Bool :=
  checkPathNew (insertPaths (addDeniedPaths builtinTrie [APPDATA]) rows) path mode

theorem matchOld_iff (rows : List (Bytes × UInt64)) (path : Bytes) (mode : UInt64) :
    matchOld rows path mode = true ↔
      Grants builtinInsensitive rows path (if coversString APPDATA path then 4 else 1) mode := by
  rw [matchOld, checkPath_iff_grants (configured_init _ _), needLevel_eq]
  have hflags : flags (initTrieWithCaseSensitivity [CURRENT_USER] [APPDATA]) = builtinInsensitive :=
    flags_builtin
  rw [hflags]
  by_cases h : coversString APPDATA path = true
  · rw [if_pos h, if_pos h]
    exact Iff.rfl
  · rw [if_neg h, if_neg h]
    exact Iff.rfl

theorem matchNew_iff (rows : List (Bytes × UInt64)) (path : Bytes) (mode : UInt64) :
    matchNew rows path mode = true ↔
      Grants builtinInsensitive rows path (if appdataDir <+: canonical path then 4 else 1) mode := by
  rw [matchNew, checkPathNew_iff_grants configured_builtin, flags_builtin, blockedDepth_appdata]
  by_cases h : appdataDir <+: canonical path
  · rw [if_pos h, if_pos h]
    exact Iff.rfl
  · rw [if_neg h, if_neg h]
    exact Iff.rfl

theorem match_eq_iff (rows : List (Bytes × UInt64)) (path : Bytes) (mode : UInt64) :
    matchOld rows path mode = matchNew rows path mode ↔
      (RespelledAppdata path →
        ∀ k, IsLeast (storedDepths builtinInsensitive rows path 1) k → k < 4 →
          (Covers (modeAtDepth builtinInsensitive rows path k) mode ↔
            Grants builtinInsensitive rows path 4 mode)) := by
  rw [Bool.eq_iff_iff, matchOld_iff, matchNew_iff]
  by_cases hc : coversString APPDATA path = true
  · have hp := appdata_prefix_of_coversString hc
    simp only [hc, hp, if_true, RespelledAppdata, Bool.true_eq_false, and_false, false_implies]
  · by_cases hp : appdataDir <+: canonical path
    · have hr : RespelledAppdata path := ⟨hp, by simpa using hc⟩
      rw [if_neg hc, if_pos hp, grants_iff_grants (by omega)]
      exact ⟨fun h _ => h, fun h => h hr⟩
    · simp only [hc, hp, Bool.false_eq_true, if_false, RespelledAppdata, false_and, false_implies]

/-- One policy on currentUser separates the two on every respelled appdata path. -/
theorem match_ne_of_respelled {path : Bytes} (h : RespelledAppdata path) :
    matchOld [(CURRENT_USER, 1)] path 1 ≠ matchNew [(CURRENT_USER, 1)] path 1 := by
  intro heq
  have hcu : currentUserDir <+: canonical path := (List.prefix_append _ _).trans h.1
  have hmem : ∀ {lo k}, k ∈ storedDepths builtinInsensitive [(CURRENT_USER, 1)] path lo →
      lo ≤ k ∧ k = 3 := by
    rintro lo k ⟨hlo, row, hrow, -, rfl⟩
    rw [List.mem_singleton] at hrow
    rw [hrow]
    rw [hrow, ← canonical, canonical_currentUser] at hlo
    exact ⟨hlo, congrArg List.length canonical_currentUser⟩
  have hleast : IsLeast (storedDepths builtinInsensitive [(CURRENT_USER, 1)] path 1) 3 := by
    refine ⟨⟨by omega, _, List.mem_singleton_self _, ?_, ?_⟩, fun k hk => (hmem hk).2.ge⟩
    · rw [← canonical, canonical_currentUser]
      exact hcu
    · rw [← canonical, canonical_currentUser]
      rfl
  have hmode : modeAtDepth builtinInsensitive [(CURRENT_USER, 1)] path 3 = 1 := by
    have htake : canonicalAt builtinInsensitive CURRENT_USER =
        (canonicalAt builtinInsensitive path).take 3 := by
      rw [← canonical, ← canonical, canonical_currentUser]
      exact List.prefix_iff_eq_take.mp hcu
    simp [modeAtDepth, mergedMode, htake]
  obtain ⟨k, hk, -⟩ := ((match_eq_iff _ _ _).mp heq h 3 hleast (by omega)).mp
    (by rw [hmode]; decide)
  have := hmem hk.1
  omega

/-- **The matchers agree on a path, whatever is stored, unless it respells appdata.** For such a
path they agree on a table when nothing is stored above appdata on its way, or when what
is stored shallowest there grants what the rows from appdata on grant. -/
theorem matchers_agree_iff (path : Bytes) :
    ((∀ rows mode, matchOld rows path mode = matchNew rows path mode) ↔ ¬ RespelledAppdata path) ∧
      ∀ rows mode, matchOld rows path mode = matchNew rows path mode ↔
        (RespelledAppdata path →
          ∀ k, IsLeast (storedDepths builtinInsensitive rows path 1) k → k < 4 →
            (Covers (modeAtDepth builtinInsensitive rows path k) mode ↔
              Grants builtinInsensitive rows path 4 mode)) := by
  refine ⟨⟨fun h hr => match_ne_of_respelled hr (h _ _), fun h rows mode => ?_⟩,
    fun rows mode => match_eq_iff rows path mode⟩
  exact (match_eq_iff rows path mode).mpr fun hr => absurd hr h

/-- A policy on currentUser: the older matcher lets it reach `AppData`, the newer one does not. -/
theorem matchers_differ :
    ¬ ∀ rows path mode, matchOld rows path mode = matchNew rows path mode := by
  intro h
  have := h [(bytes "/storage/Users/currentUser", 1)] (bytes "/storage/Users/currentUser/AppData") 1
  revert this
  decide

/-! ### Membership -/

theorem isPolicyMatch_zero (referMode : UInt64) : isPolicyMatch referMode 0 = true := by
  have hzero : (0 : UInt64) &&& MODE_FILTER = 0 := by decide
  rw [isPolicyMatch, hzero, UInt64.and_zero]
  rfl

theorem checkPathLoop_any (need : Nat) (mode : UInt64) (t : PolicyTrie) (curLevel : Nat)
    (segs : List Bytes) :
    checkPathLoop need mode false t curLevel segs = checkPathLoop need 0 true t curLevel segs := by
  induction segs generalizing t curLevel with
  | nil => rfl
  | cons segment rest ih =>
    simp only [checkPathLoop, ih, isPolicyMatch_zero, Bool.not_true, Bool.not_false, if_true,
      Bool.false_eq_true, if_false]

/-- Asked for no mode, `CheckPath` grants where any path from its level on is stored. -/
theorem checkPathAny_iff {t : PolicyTrie} (h : Configured t) (rows : List (Bytes × UInt64))
    (path : Bytes) :
    checkPathAny (insertPaths t rows) path = true ↔
      ∃ row ∈ rows, canonicalAt (flags t) row.1 <+: canonicalAt (flags t) path ∧
        max (needLevel path) 1 ≤ (splitPath row.1).length := by
  have hany : checkPathAny (insertPaths t rows) path = checkPath (insertPaths t rows) path 0 :=
    checkPathLoop_any ..
  have hlength : ∀ p, (canonicalAt (flags t) p).length = (splitPath p).length := fun p =>
    length_address ..
  rw [hany, checkPath_iff_grants h]
  apply Iff.intro
  · intro ⟨k, ⟨⟨hk, row, hrow, hprefix, hdepth⟩, _⟩, _⟩
    exact ⟨row, hrow, hprefix, by rw [← hlength, hdepth]; exact hk⟩
  · intro ⟨row, hrow, hprefix, hdepth⟩
    obtain ⟨k, hk⟩ := exists_isLeast_storedDepths
      ⟨(hlength row.1).symm ▸ hdepth, row, hrow, hprefix, rfl⟩
    exact ⟨k, hk, (isPolicyMatch_iff _ _).mp (isPolicyMatch_zero _)⟩

end SandboxManager.Trie
