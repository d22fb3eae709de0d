import SandboxManager.Share.ShareMap

/-! Whose share configuration a call touches.

The map is keyed by bundle and user, and it is filled user by user, but it is erased bundle by
bundle: refreshing a bundle for one user, or refusing its profile, drops what every user of the
bundle had (`run_isolated`). Another bundle is never touched, and after a refresh the user's
entries are those of the profile. -/
namespace SandboxManager.Share
open Library Policy

/-- What the bundle manager says of one bundle for a user. -/
structure BundleMgr where
  /-- The name of the entry module. -/
  getBundleInfoV9 : Bytes → UInt32 → Option Bytes
  getJsonProfile : Bytes → Bytes → UInt32 → Option Bytes

/-- The profile, when the bundle manager is there and has it. -/
def bundleProfile (bundleMgr : Option BundleMgr) (bundleName : Bytes) (userId : UInt32) :
    Option Bytes := do
  let mgr ← bundleMgr
  let entryModuleName ← mgr.getBundleInfoV9 bundleName userId
  mgr.getJsonProfile bundleName entryModuleName userId

def getShareCfgByBundle (env : ShareEnv) (bundleMgr : Option BundleMgr) (m : ShareMap)
    (bundleName : Bytes) (userId : UInt32) : ShareMap × ErrCode :=
  match bundleProfile bundleMgr bundleName userId with
  | none => (m, .PERMISSION_DENIED)
  | some profile => transAndSetToMap env m profile bundleName userId

def refresh (env : ShareEnv) (bundleMgr : Option BundleMgr) (m : ShareMap) (bundleName : Bytes)
    (userId : UInt32) : ShareMap :=
  (getShareCfgByBundle env bundleMgr (deleteByBundleName m bundleName) bundleName userId).1

/-! ### What a profile says -/

/-- The scopes of a profile that can be read. -/
def profileScopes (env : ShareEnv) (profile : Bytes) : Option (List Json) :=
  if profile.length > MAX_JSON_SIZE then none
  else
    match env.cJSONParse (cStr profile) with
    | none => none
    | some root =>
      match root.getObjectItemCaseSensitive (bytes "share_files") with
      | none => none
      | some shareFiles =>
        if !shareFiles.isObject then none
        else Json.itemsOf (shareFiles.getObjectItemCaseSensitive (bytes "scopes"))

theorem transAndSetToMap_eq (env : ShareEnv) (m : ShareMap) (profile bundleName : Bytes)
    (userId : UInt32) :
    transAndSetToMap env m profile bundleName userId =
      (profileScopes env profile).elim (m, .INVALID_PARAMTER)
        fun scopes => scopeLoop env.order bundleName userId scopes 0 m := by
  unfold transAndSetToMap profileScopes
  by_cases hlong : profile.length > MAX_JSON_SIZE
  · simp only [hlong, if_true, Option.elim_none]
  · simp only [hlong, if_false]
    cases env.cJSONParse (cStr profile) with
    | none => rfl
    | some root =>
      simp only [transAndSetToMapInner]
      cases root.getObjectItemCaseSensitive (bytes "share_files") with
      | none => rfl
      | some shareFiles =>
        by_cases hobject : shareFiles.isObject = true
        · simp only [hobject, Bool.not_true, Bool.false_eq_true, if_false]
          cases Json.itemsOf (shareFiles.getObjectItemCaseSensitive (bytes "scopes")) with
          | none => rfl
          | some scopes => rfl
        · simp only [hobject, Bool.not_false, if_true, Option.elim_none]

/-- The composed path and the mode of a scope that has both fields. -/
def scopeEntry (bundleName : Bytes) (scope : Json) : Option (Bytes × UInt32) :=
  (scopeFields scope).map fun fields =>
    (pathCompose fields.1 bundleName, permissionToMode fields.2)

def scopeEntries (bundleName : Bytes) (scopes : List Json) : List (Bytes × UInt32) :=
  scopes.filterMap (scopeEntry bundleName)

def Acceptable (entry : Bytes × UInt32) : Prop := entry.1 ≠ [] ∧ entry.2 ≠ 0

instance (entry : Bytes × UInt32) : Decidable (Acceptable entry) :=
  inferInstanceAs (Decidable (_ ∧ _))

structure ValidEntries (entries : List (Bytes × UInt32)) : Prop where
  acceptable : ∀ entry ∈ entries, Acceptable entry
  count : entries.length ≤ MAX_SHARE_CONFIG_COUNT

theorem not_acceptable_unnamed (scopes : List Json) :
    ∀ entry ∈ scopeEntries [] scopes, ¬ Acceptable entry := by
  intro entry hentry h
  obtain ⟨scope, -, hscope⟩ := List.mem_filterMap.mp hentry
  obtain ⟨fields, -, rfl⟩ := Option.map_eq_some_iff.mp hscope
  exact h.1 (if_pos (Or.inr rfl))

/-! ### Entries -/

/-- What a bundle has for a user. -/
def entriesAt (m : ShareMap) (bundleName : Bytes) (userId : UInt32) : List (Bytes × UInt32) :=
  ((m bundleName userId).getD KeyedTable.empty).rows

/-- The map once the entry is added. -/
def setEntry (order : HashOrder) (bundleName : Bytes) (userId : UInt32) (m : ShareMap)
    (entry : Bytes × UInt32) : ShareMap :=
  fun b u =>
    if b = bundleName ∧ u = userId then
      some (assign order ((m bundleName userId).getD KeyedTable.empty) entry.1 entry.2)
    else m b u

theorem mem_assign (order : HashOrder) (t : PathPermissions) (path q : Bytes) (mode v : UInt32) :
    (q, v) ∈ (assign order t path mode).rows ↔ if q = path then v = mode else (q, v) ∈ t.rows := by
  unfold assign
  split
  case isTrue hmem =>
    rw [List.mem_map]
    by_cases hq : q = path
    · subst hq
      rw [if_pos rfl]
      constructor
      · rintro ⟨entry, -, heq⟩
        obtain ⟨hkey, hmode⟩ := Prod.mk.inj heq
        rw [if_pos hkey] at hmode
        exact hmode.symm
      · rintro rfl
        obtain ⟨entry, hentry, hkey⟩ := List.mem_map.mp hmem
        exact ⟨entry, hentry, by rw [hkey, if_pos rfl]⟩
    · rw [if_neg hq]
      constructor
      · rintro ⟨entry, hentry, heq⟩
        obtain ⟨hkey, hmode⟩ := Prod.mk.inj heq
        rw [if_neg (hkey ▸ hq)] at hmode
        rw [← hkey, ← hmode]
        exact hentry
      · intro h
        exact ⟨(q, v), h, by rw [if_neg hq]⟩
  case isFalse hmem =>
    have hperm := order.perm (t.rows ++ [(path, mode)])
    show (q, v) ∈ order.rehash _ ↔ _
    rw [hperm.mem_iff, List.mem_append, List.mem_singleton, Prod.mk.injEq]
    by_cases hq : q = path
    · subst hq
      have hnot : (q, v) ∉ t.rows := fun h => hmem (List.mem_map_of_mem h)
      rw [if_pos rfl, or_iff_right hnot, and_iff_right rfl]
    · rw [if_neg hq, or_iff_left fun h => hq h.1]

theorem mem_entriesAt_setEntry (order : HashOrder) (m : ShareMap) (b : Bytes) (u : UInt32)
    (entry : Bytes × UInt32) (q : Bytes) (v : UInt32) :
    (q, v) ∈ entriesAt (setEntry order b u m entry) b u ↔
      if q = entry.1 then v = entry.2 else (q, v) ∈ entriesAt m b u := by
  have hset : setEntry order b u m entry b u =
      some (assign order ((m b u).getD KeyedTable.empty) entry.1 entry.2) := if_pos ⟨rfl, rfl⟩
  rw [entriesAt, hset]
  exact mem_assign ..

/-- The entry of the last scope with this path. -/
def lastEntry (entries : List (Bytes × UInt32)) (q : Bytes) : Option (Bytes × UInt32) :=
  entries.reverse.find? fun entry => entry.1 = q

theorem mem_entriesAt_foldl (order : HashOrder) (m : ShareMap) (b : Bytes) (u : UInt32)
    (entries : List (Bytes × UInt32)) (q : Bytes) (v : UInt32) :
    (q, v) ∈ entriesAt (entries.foldl (setEntry order b u) m) b u ↔
      lastEntry entries q = some (q, v) ∨
        (lastEntry entries q = none ∧ (q, v) ∈ entriesAt m b u) := by
  induction entries using List.reverseRecOn with
  | nil => simp [lastEntry]
  | append_singleton entries entry ih =>
    have hlast : lastEntry (entries ++ [entry]) q =
        if entry.1 = q then some entry else lastEntry entries q := by
      rw [lastEntry, List.reverse_append, List.reverse_singleton, List.singleton_append,
        List.find?_cons]
      by_cases h : entry.1 = q <;> simp [h, lastEntry]
    rw [List.foldl_concat, mem_entriesAt_setEntry, ih, hlast]
    by_cases h : entry.1 = q
    · rw [if_pos h, if_pos h.symm, Option.some.injEq]
      subst h
      constructor
      · rintro rfl
        exact Or.inl rfl
      · rintro (heq | ⟨hnone, -⟩)
        · exact (congrArg Prod.snd heq).symm
        · cases hnone
    · rw [if_neg h, if_neg (Ne.symm h)]

theorem foldl_setEntry_of_ne (order : HashOrder) (m : ShareMap) {b b' : Bytes} {u u' : UInt32}
    (h : ¬ (b' = b ∧ u' = u)) (entries : List (Bytes × UInt32)) :
    entries.foldl (setEntry order b u) m b' u' = m b' u' := by
  induction entries generalizing m with
  | nil => rfl
  | cons entry entries ih => exact (ih _).trans (if_neg h)

theorem deleteByBundleName_setEntry (order : HashOrder) (m : ShareMap) (b : Bytes) (u : UInt32)
    (entry : Bytes × UInt32) :
    deleteByBundleName (setEntry order b u m entry) b = deleteByBundleName m b := by
  funext b' u'
  unfold deleteByBundleName
  by_cases h : b' = b
  · rw [if_pos h, if_pos h]
  · rw [if_neg h, if_neg h]
    exact if_neg fun hboth => h hboth.1

/-! ### The loop over the scopes -/

section
variable {order : HashOrder} {b : Bytes} {u : UInt32} {m : ShareMap} {entry : Bytes × UInt32}

theorem addToMap_acceptable (hb : b ≠ []) (h : Acceptable entry) :
    addToMap order m b u entry.1 entry.2 = (setEntry order b u m entry, true) := by
  have hnot : ¬ (entry.1 = [] ∨ entry.2 = 0) := fun hbad => hbad.elim h.1 h.2
  rw [addToMap, if_neg hb, if_neg hnot]
  rfl

theorem addToMap_refused (hb : b ≠ []) (h : ¬ Acceptable entry) :
    addToMap order m b u entry.1 entry.2 = (deleteByBundleName m b, false) := by
  have hbad : entry.1 = [] ∨ entry.2 = 0 := by
    by_contra hnot
    exact h (not_or.mp hnot)
  rw [addToMap, if_neg hb, if_pos hbad]

theorem scopeLoop_skip {scope : Json} (h : scopeEntry b scope = none) (scopes : List Json) (n : Nat) :
    scopeLoop order b u (scope :: scopes) n m = scopeLoop order b u scopes n m := by
  rw [scopeLoop, Option.map_eq_none_iff.mp h]

theorem scopeLoop_entry {scope : Json} (h : scopeEntry b scope = some entry) (scopes : List Json)
    (n : Nat) :
    scopeLoop order b u (scope :: scopes) n m =
      bif (addToMap order m b u entry.1 entry.2).2 then
        if n + 1 > MAX_SHARE_CONFIG_COUNT then
          (deleteByBundleName (addToMap order m b u entry.1 entry.2).1 b, .INVALID_PARAMTER)
        else scopeLoop order b u scopes (n + 1) (addToMap order m b u entry.1 entry.2).1
      else ((addToMap order m b u entry.1 entry.2).1, .INVALID_PARAMTER) := by
  obtain ⟨⟨path, permission⟩, hfields, rfl⟩ := Option.map_eq_some_iff.mp h
  rw [scopeLoop, hfields]
  cases hadded : addToMap order m b u (pathCompose path b) (permissionToMode permission) with
  | mk added ok => cases ok <;> simp only [hadded, cond_true, cond_false]

theorem scopeEntries_cons_some {scope : Json} (h : scopeEntry b scope = some entry)
    (scopes : List Json) : scopeEntries b (scope :: scopes) = entry :: scopeEntries b scopes := by
  rw [scopeEntries, List.filterMap_cons, h]
  rfl

theorem scopeEntries_cons_none {scope : Json} (h : scopeEntry b scope = none)
    (scopes : List Json) : scopeEntries b (scope :: scopes) = scopeEntries b scopes := by
  rw [scopeEntries, List.filterMap_cons, h]
  rfl

/-- A valid profile adds its entries one after the other. -/
theorem scopeLoop_valid (hb : b ≠ []) {scopes : List Json} {n : Nat}
    (hall : ∀ entry ∈ scopeEntries b scopes, Acceptable entry)
    (hcount : n + (scopeEntries b scopes).length ≤ MAX_SHARE_CONFIG_COUNT) :
    scopeLoop order b u scopes n m =
      ((scopeEntries b scopes).foldl (setEntry order b u) m, .SANDBOX_MANAGER_OK) := by
  induction scopes generalizing n m with
  | nil => rfl
  | cons scope scopes ih =>
    cases hentry : scopeEntry b scope with
    | none =>
      rw [scopeEntries_cons_none hentry] at hall hcount ⊢
      rw [scopeLoop_skip hentry, ih hall hcount]
    | some entry =>
      rw [scopeEntries_cons_some hentry] at hall hcount ⊢
      obtain ⟨hfirst, hrest⟩ := List.forall_mem_cons.mp hall
      rw [List.length_cons] at hcount
      have hlimit : ¬ n + 1 > MAX_SHARE_CONFIG_COUNT := by omega
      rw [scopeLoop_entry hentry, addToMap_acceptable hb hfirst]
      show (if n + 1 > MAX_SHARE_CONFIG_COUNT then _ else _) = _
      rw [if_neg hlimit, ih hrest (by omega)]
      rfl

/-- Any other takes everything of the bundle with it. -/
theorem scopeLoop_refused (hb : b ≠ []) {scopes : List Json} {n : Nat}
    (hn : n ≤ MAX_SHARE_CONFIG_COUNT)
    (h : ¬ ((∀ entry ∈ scopeEntries b scopes, Acceptable entry) ∧
      n + (scopeEntries b scopes).length ≤ MAX_SHARE_CONFIG_COUNT)) :
    scopeLoop order b u scopes n m = (deleteByBundleName m b, .INVALID_PARAMTER) := by
  induction scopes generalizing n m with
  | nil => exact absurd ⟨fun _ hmem => absurd hmem List.not_mem_nil, hn⟩ h
  | cons scope scopes ih =>
    cases hentry : scopeEntry b scope with
    | none =>
      rw [scopeEntries_cons_none hentry] at h
      rw [scopeLoop_skip hentry, ih hn h]
    | some entry =>
      rw [scopeEntries_cons_some hentry] at h
      rw [scopeLoop_entry hentry]
      by_cases hfirst : Acceptable entry
      · rw [addToMap_acceptable hb hfirst]
        show (if n + 1 > MAX_SHARE_CONFIG_COUNT then _ else _) = _
        by_cases hlimit : n + 1 > MAX_SHARE_CONFIG_COUNT
        · rw [if_pos hlimit, deleteByBundleName_setEntry]
        · have hrest : ¬ ((∀ entry ∈ scopeEntries b scopes, Acceptable entry) ∧
              n + 1 + (scopeEntries b scopes).length ≤ MAX_SHARE_CONFIG_COUNT) := by
            rintro ⟨hall, hcount⟩
            apply h
            rw [List.forall_mem_cons, List.length_cons]
            exact ⟨⟨hfirst, hall⟩, by omega⟩
          rw [if_neg hlimit, ih (not_lt.mp hlimit) hrest, deleteByBundleName_setEntry]
      · rw [addToMap_refused hb hfirst]
        rfl

end

/-- Nothing is added for a bundle without a name. -/
theorem scopeLoop_unnamed (order : HashOrder) (u : UInt32) (scopes : List Json) (n : Nat)
    (m : ShareMap) : (scopeLoop order [] u scopes n m).1 = m := by
  induction scopes generalizing n m with
  | nil => rfl
  | cons scope scopes ih =>
    cases hentry : scopeEntry [] scope with
    | none =>
      rw [scopeLoop_skip hentry]
      exact ih n m
    | some entry =>
      rw [scopeLoop_entry hentry]
      rfl

/-! ### Calls -/

/-- A call for a bundle and a user, met by its own answers. -/
inductive ShareAction where
  | transAndSetToMap (env : ShareEnv) (profile : Bytes)
  | getShareCfgByBundle (env : ShareEnv) (bundleMgr : Option BundleMgr)
  | refresh (env : ShareEnv) (bundleMgr : Option BundleMgr)

structure ShareCall where
  bundleName : Bytes
  userId : UInt32
  action : ShareAction

def ShareCall.after (m : ShareMap) (call : ShareCall) : ShareMap :=
  match call.action with
  | .transAndSetToMap env profile =>
    (Share.transAndSetToMap env m profile call.bundleName call.userId).1
  | .getShareCfgByBundle env bundleMgr =>
    (Share.getShareCfgByBundle env bundleMgr m call.bundleName call.userId).1
  | .refresh env bundleMgr => Share.refresh env bundleMgr m call.bundleName call.userId

def run (m : ShareMap) (calls : List ShareCall) : ShareMap := calls.foldl ShareCall.after m

def ShareCall.isRefresh (call : ShareCall) : Bool :=
  match call.action with
  | .refresh _ _ => true
  | _ => false

def ShareCall.env (call : ShareCall) : ShareEnv :=
  match call.action with
  | .transAndSetToMap env _ | .getShareCfgByBundle env _ | .refresh env _ => env

/-- The scopes of the profile the call reads. -/
def ShareCall.scopes (call : ShareCall) : Option (List Json) :=
  match call.action with
  | .transAndSetToMap env profile => profileScopes env profile
  | .getShareCfgByBundle env bundleMgr | .refresh env bundleMgr =>
    (bundleProfile bundleMgr call.bundleName call.userId).bind (profileScopes env)

/-- The call comes upon a profile of a named bundle that is not valid. -/
def ShareCall.Refuses (call : ShareCall) : Prop :=
  ∃ scopes, call.scopes = some scopes ∧ call.bundleName ≠ [] ∧
    ¬ ValidEntries (scopeEntries call.bundleName scopes)

/-- What the call does to the map it fills, which a refresh has erased before. -/
def ShareCall.filled (m : ShareMap) (call : ShareCall) : ShareMap :=
  match call.scopes with
  | none => m
  | some scopes => (scopeLoop call.env.order call.bundleName call.userId scopes 0 m).1

theorem ShareCall.after_eq (m : ShareMap) (call : ShareCall) :
    call.after m = call.filled (if call.isRefresh then deleteByBundleName m call.bundleName else m) := by
  obtain ⟨b, u, action⟩ := call
  have hprofile : ∀ env bundleMgr m, (Share.getShareCfgByBundle env bundleMgr m b u).1 =
      (ShareCall.mk b u (.getShareCfgByBundle env bundleMgr)).filled m := by
    intro env bundleMgr m
    simp only [Share.getShareCfgByBundle, filled, scopes]
    cases bundleProfile bundleMgr b u with
    | none => rfl
    | some profile =>
      simp only [transAndSetToMap_eq, Option.bind_some]
      cases profileScopes env profile <;> rfl
  cases action with
  | transAndSetToMap env profile =>
    simp only [after, isRefresh, transAndSetToMap_eq, filled, scopes]
    cases profileScopes env profile <;> rfl
  | getShareCfgByBundle env bundleMgr => exact hprofile env bundleMgr m
  | refresh env bundleMgr => exact hprofile env bundleMgr (deleteByBundleName m b)

/-- What filling does: a valid profile adds its entries, any other erases the bundle. -/
structure Filled (call : ShareCall) (m m' : ShareMap) : Prop where
  erased : call.Refuses → m' = deleteByBundleName m call.bundleName
  kept : ¬ call.Refuses → ∀ b u, ¬ (b = call.bundleName ∧ u = call.userId) → m' b u = m b u
  entries : ∀ scopes, call.scopes = some scopes →
    ValidEntries (scopeEntries call.bundleName scopes) →
      m' = (scopeEntries call.bundleName scopes).foldl
        (setEntry call.env.order call.bundleName call.userId) m
  none : call.scopes = none → m' = m
  unnamed : call.bundleName = [] → m' = m

theorem ShareCall.filled_filled (m : ShareMap) (call : ShareCall) : Filled call m (call.filled m) := by
  unfold filled
  cases hscopes : call.scopes with
  | none =>
    refine ⟨?_, fun _ _ _ _ => rfl, ?_, fun _ => rfl, fun _ => rfl⟩
    · rintro ⟨scopes, hsome, -⟩
      rw [hscopes] at hsome
      cases hsome
    · intro scopes hsome
      rw [hscopes] at hsome
      cases hsome
  | some scopes =>
    show Filled call m (scopeLoop call.env.order call.bundleName call.userId scopes 0 m).1
    have hsame : ∀ scopes', call.scopes = some scopes' → scopes' = scopes := fun scopes' h =>
      Option.some.inj (h.symm.trans hscopes)
    by_cases hb : call.bundleName = []
    · have hunnamed := scopeLoop_unnamed call.env.order call.userId scopes 0 m
      rw [← hb] at hunnamed
      rw [hunnamed]
      refine ⟨?_, fun _ _ _ _ => rfl, ?_, fun _ => rfl, fun _ => rfl⟩
      · rintro ⟨-, -, hnamed, -⟩
        exact absurd hb hnamed
      · intro scopes' hscopes' hvalid
        -- no entry of a bundle without a name is acceptable, so there is none
        have hnil : scopeEntries call.bundleName scopes' = [] := by
          apply List.eq_nil_iff_forall_not_mem.mpr
          intro entry hentry
          exact not_acceptable_unnamed scopes' entry (hb ▸ hentry) (hvalid.acceptable entry hentry)
        rw [hnil]
        rfl
    · by_cases hvalid : ValidEntries (scopeEntries call.bundleName scopes)
      · have hcount : 0 + (scopeEntries call.bundleName scopes).length ≤ MAX_SHARE_CONFIG_COUNT :=
          (Nat.zero_add _).symm ▸ hvalid.count
        rw [scopeLoop_valid hb hvalid.acceptable hcount]
        refine ⟨?_, ?_, ?_, ?_, fun h => absurd h hb⟩
        · rintro ⟨scopes', hscopes', -, hnot⟩
          exact absurd (hsame scopes' hscopes' ▸ hvalid) hnot
        · exact fun _ b u hne => foldl_setEntry_of_ne _ _ hne _
        · intro scopes' hscopes' _
          rw [hsame scopes' hscopes']
        · intro hnone
          rw [hscopes] at hnone
          cases hnone
      · have hrefuses : call.Refuses := ⟨scopes, hscopes, hb, hvalid⟩
        have hnot : ¬ ((∀ entry ∈ scopeEntries call.bundleName scopes, Acceptable entry) ∧
            0 + (scopeEntries call.bundleName scopes).length ≤ MAX_SHARE_CONFIG_COUNT) :=
          fun h => hvalid ⟨h.1, Nat.zero_add (scopeEntries call.bundleName scopes).length ▸ h.2⟩
        rw [scopeLoop_refused hb (Nat.zero_le _) hnot]
        refine ⟨fun _ => rfl, fun h => absurd hrefuses h, ?_, ?_, fun h => absurd h hb⟩
        · intro scopes' hscopes' hvalid'
          exact absurd (hsame scopes' hscopes' ▸ hvalid') hvalid
        · intro hnone
          rw [hscopes] at hnone
          cases hnone

/-- Whose entries a call touches, and what a refresh leaves. -/
structure Isolated (call : ShareCall) (before after : ShareMap) : Prop where
  bundles : ∀ b u, b ≠ call.bundleName → after b u = before b u
  users : ¬ call.isRefresh → ¬ call.Refuses → ∀ u, u ≠ call.userId →
    after call.bundleName u = before call.bundleName u
  erased : call.isRefresh ∨ call.Refuses → ∀ u, u ≠ call.userId → after call.bundleName u = none
  /-- The last scope of a path decides on its mode. -/
  refreshed : call.isRefresh → ∀ scopes, call.scopes = some scopes →
    ValidEntries (scopeEntries call.bundleName scopes) → ∀ path mode,
      (path, mode) ∈ entriesAt after call.bundleName call.userId ↔
        lastEntry (scopeEntries call.bundleName scopes) path = some (path, mode)
  absent : call.isRefresh → (∀ scopes, call.scopes = some scopes →
    ¬ ValidEntries (scopeEntries call.bundleName scopes)) →
      after call.bundleName call.userId = none

theorem deleteByBundleName_self (m : ShareMap) (b : Bytes) (u : UInt32) :
    deleteByBundleName m b b u = none := if_pos rfl

theorem deleteByBundleName_of_ne (m : ShareMap) {b b' : Bytes} (h : b' ≠ b) (u : UInt32) :
    deleteByBundleName m b b' u = m b' u := if_neg h

/-- A refresh starts from a map without the bundle. -/
def ShareCall.start (m : ShareMap) (call : ShareCall) : ShareMap :=
  if call.isRefresh then deleteByBundleName m call.bundleName else m

theorem ShareCall.isolated (m : ShareMap) (call : ShareCall) : Isolated call m (call.after m) := by
  have hfilled : Filled call (call.start m) (call.after m) := by
    rw [after_eq]
    exact filled_filled _ call
  have hstart : ∀ b u, b ≠ call.bundleName → call.start m b u = m b u := by
    intro b u hb
    unfold start
    split
    · exact deleteByBundleName_of_ne m hb u
    · rfl
  have hfresh : call.isRefresh → ∀ u, call.start m call.bundleName u = none := by
    intro hrefresh u
    rw [start, if_pos hrefresh]
    exact deleteByBundleName_self m _ u
  constructor
  · intro b u hb
    by_cases hrefuses : call.Refuses
    · rw [hfilled.erased hrefuses, deleteByBundleName_of_ne _ hb, hstart b u hb]
    · rw [hfilled.kept hrefuses b u fun h => hb h.1, hstart b u hb]
  · intro hrefresh hrefuses u hu
    rw [hfilled.kept hrefuses _ u fun h => hu h.2, start, if_neg hrefresh]
  · intro hcase u hu
    by_cases hrefuses : call.Refuses
    · rw [hfilled.erased hrefuses]
      exact deleteByBundleName_self _ _ u
    · rw [hfilled.kept hrefuses _ u fun h => hu h.2]
      exact hfresh (hcase.resolve_right hrefuses) u
  · intro hrefresh scopes hscopes hvalid path mode
    have hnone : (path, mode) ∉ entriesAt (call.start m) call.bundleName call.userId := by
      rw [entriesAt, hfresh hrefresh]
      exact List.not_mem_nil
    rw [hfilled.entries scopes hscopes hvalid, mem_entriesAt_foldl]
    exact or_iff_left fun h => hnone h.2
  · intro hrefresh hinvalid
    cases hscopes : call.scopes with
    | none => rw [hfilled.none hscopes, hfresh hrefresh]
    | some scopes =>
      by_cases hb : call.bundleName = []
      · rw [hfilled.unnamed hb, hfresh hrefresh]
      · rw [hfilled.erased ⟨scopes, hscopes, hb, hinvalid scopes hscopes⟩]
        exact deleteByBundleName_self _ _ _

theorem run_concat (m : ShareMap) (calls : List ShareCall) (call : ShareCall) :
    run m (calls ++ [call]) = call.after (run m calls) := List.foldl_concat ..

/-- **A call touches its own bundle only**, whatever came before; of the bundle it touches other
users' entries only by erasing them all, on a refresh or a refused profile; and a refresh leaves
the profile's entries. -/
theorem run_isolated (m : ShareMap) (calls : List ShareCall) (call : ShareCall) :
    Isolated call (run m calls) (run m (calls ++ [call])) := by
  rw [run_concat]
  exact call.isolated _

/-- Nothing is configured anywhere. -/
def silentEnv : ShareEnv where
  order := ⟨id, fun _ => .refl _⟩
  cJSONParse _ := none
  getAllJsonProfile _ := none

/-- User 200 shares one directory of a bundle. -/
def sharedBy200 : ShareMap :=
  setEntry silentEnv.order (bytes "com.share") 200 (fun _ _ => none) (bytes "/storage/a", 1)

/-- Refreshing the bundle for user 100 takes it away. -/
theorem refresh_not_isolated :
    ¬ ∀ (m : ShareMap) (calls : List ShareCall) (call : ShareCall) (b : Bytes) (u : UInt32),
      b ≠ call.bundleName ∨ u ≠ call.userId →
        entriesAt (run m (calls ++ [call])) b u = entriesAt (run m calls) b u := by
  intro h
  have hsame := h sharedBy200 [] ⟨bytes "com.share", 100, .refresh silentEnv none⟩
    (bytes "com.share") 200 (Or.inr (by decide))
  revert hsame
  decide +kernel

end SandboxManager.Share
