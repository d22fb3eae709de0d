import SandboxManager.Policy.PathRule

/-! What the rule on paths reads of one.

What `CheckPathIsBlocked` reads of a path is its `Reading`: outside `/storage`, barred
for every policy, short, or long with the component in the bundle's place and the
path looked up in the share map. The verdict is a function of the reading
(`checkPathWithinRule_eq_judge`), and requests tell any two readings apart
(`eq_of_agree`). -/
namespace SandboxManager.PathRule
open Library Policy Share

/-! ### Components -/

theorem isSegment_of_component {token c : Bytes} (hc : c ∈ component token) : c ≠ [] := by
  unfold component at hc
  split at hc
  case isTrue => cases hc
  case isFalse h => exact List.mem_singleton.mp hc ▸ h

theorem ne_nil_of_mem_splitLoop {n : Nat} {ss c : Bytes} (hc : c ∈ splitLoop n ss) : c ≠ [] := by
  induction n generalizing ss with
  | zero =>
    unfold splitLoop addRemainingPath at hc
    split at hc
    case h_1 => cases hc
    case h_2 => exact isSegment_of_component hc
  | succ n ih =>
    unfold splitLoop at hc
    split at hc
    case h_1 => cases hc
    case h_2 =>
      rcases List.mem_append.mp hc with hc | hc
      · exact isSegment_of_component hc
      · exact ih hc

theorem splitLoop_nil (n : Nat) : splitLoop n [] = [] := by
  cases n with
  | zero => rfl
  | succ n => rfl

theorem component_eq_segments {w : Bytes} (hw : slash ∉ w) : component w = segments slash w := by
  unfold component
  split
  case isTrue h => rw [h, segments_nil]
  case isFalse h => exact (segments_run slash ⟨h, hw⟩).symm

theorem keeps_of_not_mem {d : UInt8} {w : Bytes} (hw : d ∉ w) :
    ∀ c ∈ w, decide (c ≠ d) = true :=
  fun _ hc => decide_eq_true fun h => hw (h ▸ hc)

theorem getline_append {w : Bytes} (hw : slash ∉ w) (rest : Bytes) :
    getline slash (w ++ slash :: rest) = some (w, rest) := by
  have hkeep := keeps_of_not_mem hw
  unfold getline
  rw [if_neg (by simp), List.takeWhile_append_of_pos hkeep, List.dropWhile_append_of_pos hkeep]
  simp

theorem getline_last {w : Bytes} (hw : slash ∉ w) (hne : w ≠ []) :
    getline slash w = some (w, []) := by
  have hkeep := keeps_of_not_mem hw
  unfold getline
  rw [if_neg hne, List.takeWhile_eq_self_iff.mpr hkeep, List.dropWhile_eq_nil_iff.mpr hkeep]
  rfl

/-- A path with fewer slashes than there are tokens to go is split completely. -/
theorem splitLoop_eq_segments {n : Nat} {ss : Bytes} (h : ss.count slash < n) :
    splitLoop n ss = segments slash ss := by
  induction n generalizing ss with
  | zero => omega
  | succ n ih =>
    by_cases hs : slash ∈ ss
    · obtain ⟨w, rest, rfl, hw⟩ := List.eq_append_cons_of_mem hs
      have hrest : rest.count slash < n := by
        rw [List.count_append, List.count_cons_self] at h
        omega
      rw [splitLoop, getline_append hw]
      show component w ++ splitLoop n rest = _
      rw [ih hrest, component_eq_segments hw, segments_append_sep]
    · by_cases hne : ss = []
      · rw [hne, splitLoop_nil, segments_nil]
      · rw [splitLoop, getline_last hs hne]
        show component ss ++ splitLoop n [] = _
        rw [splitLoop_nil, List.append_nil, component_eq_segments hs]

theorem splitPath_eq_segments {path : Bytes} (h : path.count slash ≤ 7) :
    splitPath path = segments slash path :=
  splitLoop_eq_segments (by show _ < 8; omega)

/-! ### What is read of a path -/

inductive Reading where
  /-- Not at or below `/storage`. -/
  | outside
  /-- Rejected whatever the policy. -/
  | barred
  /-- At most six components. -/
  | short
  /-- The seventh component, and the path looked up where the share map is asked. -/
  | long (bundle : Bytes) (shared : Option Bytes)
deriving DecidableEq

def reading (notResident : Bool) (path : Bytes) : Reading :=
  if path = ROOT_PATH then .barred
  else if path.take ROOT_PATH_WITH_SLASH.length ≠ ROOT_PATH_WITH_SLASH then .outside
  else
    let components := splitPath path
    if components.length ≤ SECOND_PATH_SEGMENT ∨ isUsersPathBlocked components = true then .barred
    else if components.length ≤ MAX_CHECK_COM_NUM then .short
    else .long (components.getD MAX_CHECK_COM_NUM [])
      (if notResident = true ∧ isAppDataPathPrefix components = true then
        some (sharedPath components) else none)

/-- The verdict on a path with a given reading. -/
def judge (env : ShareEnv) (m : ShareMap) (userID : UInt32) (policy : PolicyInfo)
    (bundleName : Bytes) (index : Nat) : Reading → ShareMap × Bool
  | .outside => (m, true)
  | .barred => (m, false)
  | .short => (m, policy.type ≠ .SELF_PATH)
  | .long bundle shared =>
    if policy.type = .SELF_PATH ∧ (bundleName = [] ∨ bundle ≠ bundleName) then (m, false)
    else
      match shared with
      | none => (m, true)
      | some pathTmp =>
        if policy.type = .AUTHORIZATION_PATH then (m, true)
        else checkShared env m userID policy.mode index bundle pathTmp

theorem checkPathWithinBundleName_eq_false {bundleName : Bytes} {components : List Bytes} :
    checkPathWithinBundleName bundleName components = false ↔
      bundleName = [] ∨ components[MAX_CHECK_COM_NUM]? ≠ some bundleName := by
  unfold checkPathWithinBundleName
  split
  case isTrue h => simp [h]
  case isFalse h => simp [h]

/-- Of the path, `CheckPathWithinRule` sees the reading. -/
theorem checkPathWithinRule_eq_judge (notResident : Bool) (env : ShareEnv) (m : ShareMap)
    (userID : UInt32) (path : Bytes) (policy : PolicyInfo) (bundleName : Bytes) (index : Nat) :
    checkPathWithinRule notResident env m userID path policy bundleName index =
      judge env m userID policy bundleName index (reading notResident path) := by
  unfold checkPathWithinRule reading
  by_cases hroot : path = ROOT_PATH
  · rw [if_pos hroot, if_pos hroot]
    rfl
  rw [if_neg hroot, if_neg hroot]
  by_cases hpre : path.take ROOT_PATH_WITH_SLASH.length ≠ ROOT_PATH_WITH_SLASH
  · rw [if_pos hpre, if_pos hpre]
    rfl
  rw [if_neg hpre, if_neg hpre]
  generalize splitPath path = components
  show (if components.length ≤ SECOND_PATH_SEGMENT then _ else _) = judge _ _ _ _ _ _ (if _ then _ else _)
  by_cases hlen : components.length ≤ SECOND_PATH_SEGMENT
  · rw [if_pos hlen, if_pos (Or.inl hlen)]
    rfl
  by_cases husers : isUsersPathBlocked components = true
  · rw [if_neg hlen, if_pos husers, if_pos (Or.inr husers)]
    rfl
  rw [if_neg hlen, if_neg husers, if_neg (not_or.mpr ⟨hlen, husers⟩)]
  by_cases hlong : components.length ≤ MAX_CHECK_COM_NUM
  · have hnone : components[MAX_CHECK_COM_NUM]? = none := List.getElem?_eq_none hlong
    have hname : checkPathWithinBundleName bundleName components = false :=
      checkPathWithinBundleName_eq_false.mpr (Or.inr (by simp [hnone]))
    rw [if_pos hlong, hname]
    by_cases hself : policy.type = .SELF_PATH
    · simp [judge, hself]
    · simp [judge, hself, Nat.not_lt.mpr hlong]
  · have hsome : components[MAX_CHECK_COM_NUM]? = some (components.getD MAX_CHECK_COM_NUM []) := by
      rw [List.getD_eq_getElem?_getD, List.getElem?_eq_getElem (by omega)]
      rfl
    have hname : checkPathWithinBundleName bundleName components = false ↔
        bundleName = [] ∨ components.getD MAX_CHECK_COM_NUM [] ≠ bundleName := by
      rw [checkPathWithinBundleName_eq_false, hsome, Ne, Option.some_inj]
    rw [if_neg hlong]
    simp only [judge, hname]
    by_cases hself : policy.type = .SELF_PATH ∧
        (bundleName = [] ∨ components.getD MAX_CHECK_COM_NUM [] ≠ bundleName)
    · rw [if_pos hself, if_pos hself]
    · rw [if_neg hself, if_neg hself]
      unfold checkPathWithinShareMap
      cases happ : isAppDataPathPrefix components with
      | false => simp
      | true =>
        by_cases hauth : policy.type = .AUTHORIZATION_PATH
        · cases notResident <;> simp [hauth]
        · cases notResident <;> simp [hauth, Nat.lt_of_not_le hlong]

/-! ### Requests that tell readings apart -/

/-- No policy of any request is judged differently on the two. -/
def Agree (r r' : Reading) : Prop :=
  ∀ (env : ShareEnv) (m : ShareMap) (userID : UInt32) (policy : PolicyInfo) (bundleName : Bytes)
    (index : Nat),
    (judge env m userID policy bundleName index r).2 =
      (judge env m userID policy bundleName index r').2

/-- An entry added to a map is met last. -/
def entryOrder : HashOrder := ⟨id, List.Perm.refl⟩

def noProfiles : ShareEnv := ⟨entryOrder, fun _ => none, fun _ => none⟩

def emptyMap : ShareMap := fun _ _ => none

/-- Every bundle is configured to share this directory for reading, and nothing else. -/
def onlyPath (configPath : Bytes) : ShareMap :=
  fun _ _ => some ⟨[(configPath, 1)], List.nodup_singleton _⟩

theorem checkShared_emptyMap (bundle pathTmp : Bytes) (mode : UInt64) :
    (checkShared noProfiles emptyMap 0 mode 1 bundle pathTmp).2 = true := rfl

theorem checkShared_onlyPath (configPath bundle pathTmp : Bytes) :
    (checkShared noProfiles (onlyPath configPath) 0 READ_MODE 1 bundle pathTmp).2 =
      Trie.coversString configPath pathTmp := by
  unfold checkShared findPermission onlyPath
  cases h : Trie.coversString configPath pathTmp with
  | false =>
    simp only [List.find?_cons, h, List.find?_nil]
    rfl
  | true =>
    simp only [List.find?_cons, h]
    rfl

theorem coversString_self (path : Bytes) : Trie.coversString path path = true := by
  simp [Trie.coversString]

theorem eq_of_coversString {path path' : Bytes} (h : Trie.coversString path path' = true)
    (h' : Trie.coversString path' path = true) : path = path' := by
  simp only [Trie.coversString, Bool.and_eq_true, List.isPrefixOf_iff_prefix] at h h'
  exact h.1.eq_of_length (Nat.le_antisymm h.1.length_le h'.1.length_le)

theorem coversString_concat (path : Bytes) (c : UInt8) :
    Trie.coversString (path ++ [c]) path = false := by
  rw [Bool.eq_false_iff]
  intro h
  simp only [Trie.coversString, Bool.and_eq_true, List.isPrefixOf_iff_prefix] at h
  have := h.1.length_le
  rw [List.length_append, List.length_singleton] at this
  omega

/-- The directories found in a configuration tell which path is looked up, if any is. -/
theorem eq_of_lookups {shared shared' : Option Bytes}
    (h : ∀ configPath, (shared.map (Trie.coversString configPath)).getD true =
      (shared'.map (Trie.coversString configPath)).getD true) : shared = shared' := by
  cases shared with
  | none =>
    cases shared' with
    | none => rfl
    | some path' =>
      have := h (path' ++ [0])
      simp [coversString_concat] at this
  | some path =>
    cases shared' with
    | none =>
      have := h (path ++ [0])
      simp [coversString_concat] at this
    | some path' =>
      have hto : Trie.coversString path path' = true := by
        simpa [coversString_self] using (h path).symm
      have hfrom : Trie.coversString path' path = true := by
        simpa [coversString_self] using h path'
      rw [eq_of_coversString hto hfrom]

/-- Readings that no request tells apart are the same, up to a bundle without a name. -/
theorem eq_of_agree {r r' : Reading} (hr : ∀ bundle shared, r = .long bundle shared → bundle ≠ [])
    (hr' : ∀ bundle shared, r' = .long bundle shared → bundle ≠ []) (h : Agree r r') : r = r' := by
  -- with no bundle named nothing below /storage is set as a self path
  have hself := h noProfiles emptyMap 0 ⟨[], 0, .SELF_PATH⟩ [] 1
  -- a path authorised before is not looked up
  have hauth := h noProfiles emptyMap 0 ⟨[], 0, .AUTHORIZATION_PATH⟩ [] 1
  have hnamed : ∀ bundle, _ := fun bundle =>
    h noProfiles emptyMap 0 ⟨[], 0, .SELF_PATH⟩ bundle 1
  have hpath : ∀ configPath, _ := fun configPath =>
    h noProfiles (onlyPath configPath) 0 ⟨[], READ_MODE, .OTHERS_PATH⟩ [] 1
  cases r with
  | outside =>
    cases r' with
    | outside => rfl
    | barred => simp [judge] at hself
    | short => simp [judge] at hself
    | long bundle shared => simp [judge] at hself
  | barred =>
    cases r' with
    | outside => simp [judge] at hself
    | barred => rfl
    | short => simp [judge] at hauth
    | long bundle shared => cases shared <;> simp [judge] at hauth
  | short =>
    cases r' with
    | outside => simp [judge] at hself
    | barred => simp [judge] at hauth
    | short => rfl
    | long bundle shared =>
      have := hnamed bundle
      cases shared <;> simp [judge, hr' bundle _ rfl, checkShared_emptyMap] at this
  | long bundle shared =>
    cases r' with
    | outside => simp [judge] at hself
    | barred => cases shared <;> simp [judge] at hauth
    | short =>
      have := hnamed bundle
      cases shared <;> simp [judge, hr bundle _ rfl, checkShared_emptyMap] at this
    | long bundle' shared' =>
      have hb : bundle' = bundle := by
        by_contra hne
        have := hnamed bundle
        cases shared <;> simp [judge, hr bundle _ rfl, hne, checkShared_emptyMap] at this
      subst hb
      have hlook : ∀ configPath, (shared.map (Trie.coversString configPath)).getD true =
          (shared'.map (Trie.coversString configPath)).getD true := by
        intro configPath
        have := hpath configPath
        revert this
        cases shared <;> cases shared' <;> simp [judge, checkShared_onlyPath]
      rw [eq_of_lookups hlook]

theorem bundle_ne_nil {notResident : Bool} {path bundle : Bytes} {shared : Option Bytes}
    (h : reading notResident path = .long bundle shared) : bundle ≠ [] := by
  unfold reading at h
  split at h
  case isTrue => cases h
  case isFalse =>
    split at h
    case isTrue => cases h
    case isFalse =>
      simp only at h
      split at h
      case isTrue => cases h
      case isFalse =>
        split at h
        case isTrue => cases h
        case isFalse hlong =>
          cases h
          rw [List.getD_eq_getElem?_getD, List.getElem?_eq_getElem (by omega)]
          exact ne_nil_of_mem_splitLoop (List.getElem_mem _)

/-- The verdicts on a path are the verdicts on its reading. -/
theorem checkPathIsBlocked_eq {notResident : Bool} {env : ShareEnv} {m : ShareMap}
    {userID : UInt32} {policy : PolicyInfo} {bundleName : Bytes} {index : Nat}
    (hnul : 0 ∉ policy.path) :
    (checkPathIsBlocked notResident env m userID policy bundleName index).2 =
      if (judge env m userID policy bundleName index
          (reading notResident (adjustPath policy.path))).2
      then .OPERATE_SUCCESSFULLY else .INVALID_PATH := by
  have hstr : cStr policy.path = policy.path :=
    List.takeWhile_eq_self_iff.mpr fun c hc => decide_eq_true fun h => hnul (h ▸ hc)
  unfold checkPathIsBlocked
  rw [hstr, if_neg (by simp), checkPathWithinRule_eq_judge]
  generalize judge env m userID policy bundleName index _ = verdict
  obtain ⟨m', accepted⟩ := verdict
  cases accepted <;> rfl

end SandboxManager.PathRule
