import SandboxManager.Policy.PathReading
import SandboxManager.Share.Lookup

/-! Lookups in the share map.

A lookup is decided by the entries of one bundle: those in the map or, for the first policy
of a request whose path they have no directory for, those in the refreshed map
(`checkShared_iff`). A clone's path is looked up under the clone's own name, so it is judged
as the bundle's path exactly where the entries of both names let the mode through or
neither's do (`cloneVerdict_iff`). -/
namespace SandboxManager.PathRule
open Library Policy Share

/-! ### What the entries of a bundle say of a path -/

/-- The directory is the path, or the path lies below it. -/
def AtOrAbove (dir path : Bytes) : Prop := dir ++ [slash] <+: path ++ [slash]

/-- The first entry at or above the path has this mode. -/
def Gives (entries : PathPermissions) (path : Bytes) (mode : UInt32) : Prop :=
  ∃ before dir after, entries.rows = before ++ (dir, mode) :: after ∧ AtOrAbove dir path ∧
    ∀ entry ∈ before, ¬ AtOrAbove entry.1 path

/-- There is an entry at or above the path, with a mode of its own. -/
def Configures (entries : Option PathPermissions) (path : Bytes) : Prop :=
  ∃ t mode, entries = some t ∧ Gives t path mode ∧
    mode ≠ SHARE_BUNDLE_UNSET ∧ mode ≠ SHARE_PATH_UNSET

/-- There are no entries, or the first at or above the path has the wanted mode. An entry may
also carry one of the two marks for a missing one. -/
def Opens (entries : Option PathPermissions) (path : Bytes) (wanted : UInt32) : Prop :=
  entries = none ∨ ∃ t mode, entries = some t ∧ Gives t path mode ∧
    (mode = SHARE_BUNDLE_UNSET ∨ mode ≠ SHARE_PATH_UNSET ∧ mode &&& wanted = wanted)

theorem gives_iff {entries : PathPermissions} {path : Bytes} {mode : UInt32} :
    Gives entries path mode ↔
      ∃ dir, entries.rows.find? (fun entry => Trie.coversString entry.1 path) = some (dir, mode) := by
  have hcovers : ∀ entry : Bytes × UInt32,
      Trie.coversString entry.1 path = true ↔ AtOrAbove entry.1 path :=
    fun entry => coversString_iff entry.1 path
  unfold Gives
  constructor
  · rintro ⟨before, dir, after, hrows, hdir, hbefore⟩
    refine ⟨dir, List.find?_eq_some_iff_append.mpr ⟨(hcovers (dir, mode)).mpr hdir, before, after,
      hrows, fun entry hentry => ?_⟩⟩
    rw [Bool.not_eq_true', ← Bool.not_eq_true, hcovers]
    exact hbefore entry hentry
  · rintro ⟨dir, hfind⟩
    obtain ⟨hdir, before, after, hrows, hbefore⟩ := List.find?_eq_some_iff_append.mp hfind
    refine ⟨before, dir, after, hrows, (hcovers (dir, mode)).mp hdir, fun entry hentry => ?_⟩
    rw [← hcovers, Bool.not_eq_true, ← Bool.not_eq_true']
    exact hbefore entry hentry

/-- Of the entries there are, the first at or above the path answers. -/
theorem findPermission_gives {m : ShareMap} {bundle path : Bytes} {userID mode : UInt32}
    {t : PathPermissions} (hm : m bundle userID = some t) (h : Gives t path mode) :
    findPermission m bundle userID path = mode := by
  obtain ⟨dir, hfind⟩ := gives_iff.mp h
  unfold findPermission
  rw [hm]
  dsimp only
  rw [hfind]

/-- A lookup answers with the mode of an entry, or with one of the marks for a missing one. -/
theorem findPermission_cases (m : ShareMap) (bundle path : Bytes) (userID : UInt32) :
    (m bundle userID = none ∧ findPermission m bundle userID path = SHARE_BUNDLE_UNSET) ∨
      (∃ t, m bundle userID = some t ∧ (∀ mode, ¬ Gives t path mode) ∧
        findPermission m bundle userID path = SHARE_PATH_UNSET) ∨
      ∃ t mode, m bundle userID = some t ∧ Gives t path mode ∧
        findPermission m bundle userID path = mode := by
  cases hm : m bundle userID with
  | none =>
    refine .inl ⟨rfl, ?_⟩
    unfold findPermission
    rw [hm]
  | some t =>
    refine .inr ?_
    cases hfind : t.rows.find? fun entry => Trie.coversString entry.1 path with
    | none =>
      refine .inl ⟨t, rfl, fun mode h => ?_, ?_⟩
      · obtain ⟨dir, hdir⟩ := gives_iff.mp h
        rw [hfind] at hdir
        cases hdir
      · unfold findPermission
        rw [hm]
        dsimp only
        rw [hfind]
    | some entry =>
      have h : Gives t path entry.2 := gives_iff.mpr ⟨entry.1, hfind⟩
      exact .inr ⟨t, entry.2, rfl, h, findPermission_gives hm h⟩

/-- The answer of a lookup for which the map would be refreshed. -/
def Unset (permission : UInt32) : Prop :=
  permission = SHARE_BUNDLE_UNSET ∨ permission = SHARE_PATH_UNSET

instance (permission : UInt32) : Decidable (Unset permission) :=
  inferInstanceAs (Decidable (_ ∨ _))

theorem configures_iff {m : ShareMap} {bundle path : Bytes} {userID : UInt32} :
    Configures (m bundle userID) path ↔ ¬ Unset (findPermission m bundle userID path) := by
  constructor
  · rintro ⟨t, mode, hm, hgives, hbundle, hpath⟩
    rw [findPermission_gives hm hgives]
    exact fun h => h.elim hbundle hpath
  · intro h
    rcases findPermission_cases m bundle path userID with ⟨-, hunset⟩ | ⟨t, -, -, hunset⟩ |
      ⟨t, mode, hm, hgives, hmode⟩
    · exact absurd (.inl hunset) h
    · exact absurd (.inr hunset) h
    · rw [hmode] at h
      exact ⟨t, mode, hm, hgives, fun hm => h (.inl hm), fun hm => h (.inr hm)⟩

theorem opens_iff {m : ShareMap} {bundle path : Bytes} {userID wanted : UInt32} :
    Opens (m bundle userID) path wanted ↔
      checkShareMode (findPermission m bundle userID path) wanted = true := by
  have hmode : ∀ mode : UInt32, checkShareMode mode wanted = true ↔
      mode = SHARE_BUNDLE_UNSET ∨ mode ≠ SHARE_PATH_UNSET ∧ mode &&& wanted = wanted := by
    intro mode
    unfold checkShareMode
    by_cases hb : mode = SHARE_BUNDLE_UNSET
    · simp [hb]
    · by_cases hp : mode = SHARE_PATH_UNSET
      · simp [hp]
      · simp [hb, hp]
  rw [hmode]
  unfold Opens
  rcases findPermission_cases m bundle path userID with ⟨hm, hunset⟩ | ⟨t, hm, hnone, hunset⟩ |
    ⟨t, mode, hm, hgives, hfound⟩
  · rw [hm, hunset]
    exact iff_of_true (.inl rfl) (.inl rfl)
  · rw [hm, hunset]
    refine iff_of_false ?_ fun h => h.elim (by decide) fun h => h.1 rfl
    rintro (h | ⟨t', mode, h, hgives, -⟩)
    · cases h
    · cases h
      exact hnone mode hgives
  · rw [hm, hfound]
    constructor
    · rintro (h | ⟨t', mode', h, hgives', hmode'⟩)
      · cases h
      · cases h
        rw [← findPermission_gives hm hgives, findPermission_gives hm hgives']
        exact hmode'
    · exact fun h => .inr ⟨t, mode, rfl, hgives, h⟩

/-! ### What decides a lookup -/

/-- The entries in force let the mode through: those in the map or, where the first policy of a
request is looked up and they have no directory for its path, those after a refresh. -/
def OpensInForce (env : ShareEnv) (m : ShareMap) (userID : UInt32) (index : Nat)
    (bundle path : Bytes) (wanted : UInt32) : Prop :=
  (index ≠ 0 ∨ Configures (m bundle userID) path) ∧ Opens (m bundle userID) path wanted ∨
    (index = 0 ∧ ¬ Configures (m bundle userID) path) ∧
      ∃ m', getAllShareCfg env m userID = (m', .SANDBOX_MANAGER_OK) ∧
        Opens (m' bundle userID) path wanted

theorem getAllShareCfg_eq (env : ShareEnv) (m : ShareMap) (userID : UInt32) :
    (∃ m', getAllShareCfg env m userID = (m', .SANDBOX_MANAGER_OK)) ∨
      getAllShareCfg env m userID = (m, .PERMISSION_DENIED) := by
  unfold getAllShareCfg
  split
  case h_1 => exact Or.inr rfl
  case h_2 => exact Or.inl ⟨_, rfl⟩

/-- Behind the first policy, and where there is a directory, the map answers. -/
theorem checkShared_kept {env : ShareEnv} {m : ShareMap} {userID : UInt32} {mode : UInt64}
    {index : Nat} {bundle path : Bytes} (h : index ≠ 0 ∨ Configures (m bundle userID) path) :
    checkShared env m userID mode index bundle path =
      (m, checkShareMode (findPermission m bundle userID path) mode.toUInt32) := by
  show (if Unset (findPermission m bundle userID path) then if index ≠ 0 then _ else _ else _) = _
  by_cases hunset : Unset (findPermission m bundle userID path)
  · rw [if_pos hunset, if_pos (h.resolve_right fun h => configures_iff.mp h hunset)]
  · rw [if_neg hunset]

/-- Otherwise the map is refreshed, and a refresh that fails rejects the path. -/
theorem checkShared_refreshed {env : ShareEnv} {m : ShareMap} {userID : UInt32} {mode : UInt64}
    {bundle path : Bytes} (h : ¬ Configures (m bundle userID) path) :
    checkShared env m userID mode 0 bundle path =
      match getAllShareCfg env m userID with
      | (m', .SANDBOX_MANAGER_OK) =>
        (m', checkShareMode (findPermission m' bundle userID path) mode.toUInt32)
      | (m', _) => (m', false) := by
  have hunset : Unset (findPermission m bundle userID path) := not_not.mp fun h' =>
    h (configures_iff.mpr h')
  show (if Unset (findPermission m bundle userID path) then if 0 ≠ 0 then _ else _ else _) = _
  exact (if_pos hunset).trans (if_neg (not_not.mpr rfl))

theorem opensInForce_later {env : ShareEnv} {m : ShareMap} {userID wanted : UInt32} {index : Nat}
    {bundle path : Bytes} (h : index ≠ 0) :
    OpensInForce env m userID index bundle path wanted ↔ Opens (m bundle userID) path wanted := by
  unfold OpensInForce
  simp [h]

/-- A policy that comes first is looked up where the map has a directory for its path, else where
the refreshed map does. -/
theorem opensInForce_first {env : ShareEnv} {m : ShareMap} {userID wanted : UInt32}
    {bundle path : Bytes} :
    OpensInForce env m userID 0 bundle path wanted ↔
      (Configures (m bundle userID) path ∧ Opens (m bundle userID) path wanted) ∨
      (¬ Configures (m bundle userID) path ∧
        (getAllShareCfg env m userID).2 = .SANDBOX_MANAGER_OK ∧
        Opens ((getAllShareCfg env m userID).1 bundle userID) path wanted) := by
  unfold OpensInForce
  rcases getAllShareCfg_eq env m userID with ⟨m', h⟩ | h
  · simp [h]
  · simp [h]

theorem checkShared_iff {env : ShareEnv} {m : ShareMap} {userID : UInt32} {mode : UInt64}
    {index : Nat} {bundle path : Bytes} :
    (checkShared env m userID mode index bundle path).2 = true ↔
      OpensInForce env m userID index bundle path mode.toUInt32 := by
  unfold OpensInForce
  by_cases hkept : index ≠ 0 ∨ Configures (m bundle userID) path
  · rw [checkShared_kept hkept, opens_iff]
    exact ⟨fun h => .inl ⟨hkept, h⟩, fun h => h.elim And.right fun h =>
      absurd hkept (not_or.mpr ⟨not_not.mpr h.1.1, h.1.2⟩)⟩
  · obtain ⟨hindex, hnot⟩ := not_or.mp hkept
    have hindex : index = 0 := not_not.mp hindex
    subst hindex
    rw [checkShared_refreshed hnot]
    rcases getAllShareCfg_eq env m userID with ⟨m', h⟩ | h
    · simp [h, hnot, opens_iff]
    · simp [h, hnot]

/-! ### Clones -/

/-- The directory name of the clone with number `number` of a bundle. -/
def cloneName (number bundle : Bytes) : Bytes := CLONE_PREFIX ++ (number ++ plus :: bundle)

theorem removeClonePrefix_cloneName {number : Bytes} (hnumber : plus ∉ number) (bundle : Bytes) :
    removeClonePrefix (cloneName number bundle) = bundle := by
  have hrest : (cloneName number bundle).drop CLONE_PREFIX.length = number ++ plus :: bundle :=
    List.drop_left
  have hpre : CLONE_PREFIX.isPrefixOf (cloneName number bundle) = true :=
    List.isPrefixOf_iff_prefix.mpr (List.prefix_append _ _)
  unfold removeClonePrefix
  rw [hrest, if_pos ⟨hpre, by simp⟩, List.dropWhile_append_of_pos (keeps_of_not_mem hnumber)]
  simp

/-- The verdict on the clone's path is the verdict on the bundle's. -/
def SameVerdict (env : ShareEnv) (m : ShareMap) (userID : UInt32) (policy : PolicyInfo)
    (components : List Bytes) (bundle : Bytes) (index : Nat) : Prop :=
  (checkPathWithinShareMap env m userID policy components index).2 =
    (checkPathWithinShareMap env m userID policy (components.set MAX_CHECK_COM_NUM bundle) index).2

theorem isAppDataPathPrefix_set (components : List Bytes) (bundle : Bytes) :
    isAppDataPathPrefix (components.set MAX_CHECK_COM_NUM bundle) =
      isAppDataPathPrefix components := by
  have htake : (components.set MAX_CHECK_COM_NUM bundle).take 3 = components.take 3 := by
    rw [List.take_set_of_le (by decide)]
  have hname : (components.set MAX_CHECK_COM_NUM bundle)[3]? = components[3]? := by
    rw [List.getElem?_set_ne (by decide)]
  unfold isAppDataPathPrefix isAppdataName
  rw [htake, hname]

theorem checkPathWithinShareMap_iff {env : ShareEnv} {m : ShareMap} {userID : UInt32}
    {policy : PolicyInfo} {components : List Bytes} {bundle : Bytes} {index : Nat}
    (happ : isAppDataPathPrefix components = true)
    (hbundle : components[MAX_CHECK_COM_NUM]? = some bundle) :
    (checkPathWithinShareMap env m userID policy components index).2 = true ↔
      OpensInForce env m userID index bundle (sharedPath components) policy.mode.toUInt32 := by
  unfold checkPathWithinShareMap
  rw [happ, List.getD_eq_getElem?_getD, hbundle]
  exact checkShared_iff

/-- The path of the bundle in the components' place below `appdata`, as it is. -/
def pathBelowAppdata (components : List Bytes) (bundle : Bytes) : Bytes :=
  APPDATA_PATH_WITH_SLASH ++
    [slash].intercalate ((components.set MAX_CHECK_COM_NUM bundle).drop EL_LEVEL_SEGMENT)

theorem sharedPath_eq {components : List Bytes} {name : Bytes}
    (h : components[MAX_CHECK_COM_NUM]? = some name) :
    sharedPath components = pathBelowAppdata components (removeClonePrefix name) := by
  unfold sharedPath
  rw [List.getD_eq_getElem?_getD, h]
  rfl

/-- Without entries a name is let through, unless a refresh fails. -/
theorem opensInForce_of_unconfigured {env : ShareEnv} {m : ShareMap} {userID wanted : UInt32}
    {index : Nat} {bundle path : Bytes} (hm : m bundle userID = none)
    (hrefreshed : (getAllShareCfg env m userID).1 bundle userID = none) :
    OpensInForce env m userID index bundle path wanted ↔
      (index = 0 → (getAllShareCfg env m userID).2 = .SANDBOX_MANAGER_OK) := by
  have hnot : ¬ Configures (m bundle userID) path := by
    rintro ⟨t, mode, h, -⟩
    rw [hm] at h
    cases h
  unfold OpensInForce
  by_cases hindex : index = 0
  · rcases getAllShareCfg_eq env m userID with ⟨m', h⟩ | h
    · rw [h] at hrefreshed
      exact iff_of_true (.inr ⟨⟨hindex, hnot⟩, m', h, .inl hrefreshed⟩) fun _ => by rw [h]
    · simp [h, hindex, hnot]
  · exact iff_of_true (.inl ⟨.inl hindex, .inl hm⟩) fun h => absurd h hindex

/-- **A clone's path is judged as the bundle's exactly where the entries of the clone's own name
and those of the bundle both let the mode through or both do not.** Where the clone's name has
no entries, exactly where the bundle's let it through; with a failed refresh, where not. -/
theorem cloneVerdict_iff (env : ShareEnv) (m : ShareMap) (userID : UInt32) (policy : PolicyInfo)
    (components : List Bytes) (index : Nat) (number bundle : Bytes)
    (happ : isAppDataPathPrefix components = true)
    (hclone : components[MAX_CHECK_COM_NUM]? = some (cloneName number bundle))
    (hnumber : plus ∉ number) :
    (SameVerdict env m userID policy components bundle index ↔
      (OpensInForce env m userID index (cloneName number bundle)
          (pathBelowAppdata components bundle) policy.mode.toUInt32 ↔
        OpensInForce env m userID index bundle
          (pathBelowAppdata components (removeClonePrefix bundle)) policy.mode.toUInt32)) ∧
    (m (cloneName number bundle) userID = none →
      (getAllShareCfg env m userID).1 (cloneName number bundle) userID = none →
      (SameVerdict env m userID policy components bundle index ↔
        (OpensInForce env m userID index bundle
            (pathBelowAppdata components (removeClonePrefix bundle)) policy.mode.toUInt32 ↔
          (index = 0 → (getAllShareCfg env m userID).2 = .SANDBOX_MANAGER_OK)))) := by
  have hbundle : (components.set MAX_CHECK_COM_NUM bundle)[MAX_CHECK_COM_NUM]? = some bundle := by
    obtain ⟨hlen, -⟩ := List.getElem?_eq_some_iff.mp hclone
    rw [List.getElem?_set_self hlen]
  have hset : pathBelowAppdata (components.set MAX_CHECK_COM_NUM bundle) (removeClonePrefix bundle) =
      pathBelowAppdata components (removeClonePrefix bundle) := by
    unfold pathBelowAppdata
    rw [List.set_set]
  have hsame : SameVerdict env m userID policy components bundle index ↔
      (OpensInForce env m userID index (cloneName number bundle)
          (pathBelowAppdata components bundle) policy.mode.toUInt32 ↔
        OpensInForce env m userID index bundle
          (pathBelowAppdata components (removeClonePrefix bundle)) policy.mode.toUInt32) := by
    rw [← hset, ← sharedPath_eq hbundle, ← checkPathWithinShareMap_iff
      ((isAppDataPathPrefix_set components bundle).trans happ) hbundle,
      show pathBelowAppdata components bundle = sharedPath components by
        rw [sharedPath_eq hclone, removeClonePrefix_cloneName hnumber],
      ← checkPathWithinShareMap_iff happ hclone, ← Bool.eq_iff_iff]
    rfl
  refine ⟨hsame, fun hm hrefreshed => ?_⟩
  rw [hsame, opensInForce_of_unconfigured hm hrefreshed]
  exact iff_comm

/-- Components of a path in the `files` directory of the first clone of `com.a`. -/
def cloneComponents : List Bytes :=
  [bytes "storage", bytes "Users", bytes "currentUser", bytes "appdata", bytes "el2", bytes "base",
    cloneName (bytes "1") (bytes "com.a"), bytes "files"]

/-- `com.a` shares its `files` directory for reading. -/
def filesShared : ShareMap := fun b u =>
  if b = bytes "com.a" ∧ u = 100 then
    some ⟨[(bytes "/storage/Users/currentUser/appdata/el2/base/com.a/files", 1)],
      List.nodup_singleton _⟩
  else none

/-- Reading is judged alike: the clone has no entries, and those of the bundle allow it. -/
theorem cloneVerdict_read :
    SameVerdict noProfiles filesShared 100 ⟨[], READ_MODE, .UNKNOWN⟩ cloneComponents
      (bytes "com.a") 1 := by
  refine ((cloneVerdict_iff noProfiles filesShared 100 ⟨[], READ_MODE, .UNKNOWN⟩ cloneComponents 1
    (bytes "1") (bytes "com.a") (by decide) rfl (by decide)).2 (by decide) (by decide)).mpr ?_
  refine ⟨fun _ h => absurd h (by decide), fun _ => .inl ⟨.inl (by decide), .inr ?_⟩⟩
  exact ⟨_, 1, rfl, ⟨[], _, [], rfl, (coversString_iff _ _).mp (by decide),
    fun _ h => absurd h List.not_mem_nil⟩, .inr ⟨by decide, by decide⟩⟩

/-- Writing is refused to the bundle and granted to its clone. -/
theorem cloneVerdict_write :
    isAppDataPathPrefix cloneComponents = true ∧
      cloneComponents[MAX_CHECK_COM_NUM]? = some (cloneName (bytes "1") (bytes "com.a")) ∧
      plus ∉ bytes "1" ∧
      ¬ SameVerdict noProfiles filesShared 100 ⟨[], WRITE_MODE, .UNKNOWN⟩ cloneComponents
        (bytes "com.a") 1 := by
  refine ⟨by decide, rfl, by decide, ?_⟩
  unfold SameVerdict
  decide

end SandboxManager.PathRule
