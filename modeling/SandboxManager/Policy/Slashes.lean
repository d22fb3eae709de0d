import SandboxManager.Policy.PathReading

/-! Repeated slashes in the path of a policy.

Repeating slashes changes no verdict exactly where the path is read as its collapsed form
(`ignoresSlashes_iff_readAlike`). With two slashes in front of `storage` it is not
(`not_readAlike_of_double`), and with one in front and at most seven in all it is
(`readAlike_of_few`). -/
namespace SandboxManager.PathRule
open Library Policy Share

/-! ### Repeated slashes -/

/-- The components are `storage`, `Users`, `currentUser` and a spelling of `appdata`, at most
six in all. -/
def InAppdata (path : Bytes) : Prop :=
  (segments slash path).take 3 = [bytes "storage", bytes "Users", bytes "currentUser"] ∧
    isAppdataName (segments slash path) = true ∧ (segments slash path).length ≤ 6

/-- `/storage` itself or one of its direct children. -/
def AtStorage (path : Bytes) : Prop :=
  path.head? = some slash ∧ (segments slash path).head? = some (bytes "storage") ∧
    (segments slash path).length ≤ 2

def Protected (path : Bytes) : Prop := InAppdata path ∨ AtStorage path

/-- Collapsing the slashes of a path changes no verdict, and a protected path is rejected. -/
structure IgnoresSlashes (notResident : Bool) (path : Bytes) : Prop where
  same : ∀ (env : ShareEnv) (m : ShareMap) (userID : UInt32) (mode : UInt64) (type : PolicyType)
    (bundleName : Bytes) (index : Nat),
    (checkPathIsBlocked notResident env m userID ⟨path, mode, type⟩ bundleName index).2 =
      (checkPathIsBlocked notResident env m userID ⟨collapse slash path, mode, type⟩ bundleName
        index).2
  rejected : Protected path → ∀ (env : ShareEnv) (m : ShareMap) (userID : UInt32) (mode : UInt64)
    (type : PolicyType) (bundleName : Bytes) (index : Nat),
    (checkPathIsBlocked notResident env m userID ⟨path, mode, type⟩ bundleName index).2 =
      .INVALID_PATH

/-- The path and its collapsed form are read alike, which verdicts tell. -/
def ReadAlike (notResident : Bool) (path : Bytes) : Prop :=
  reading notResident (adjustPath path) = reading notResident (adjustPath (collapse slash path))

theorem head?_adjustPath {path : Bytes} (h : (adjustPath path).head? = some slash) :
    path.head? = some slash := by
  unfold adjustPath at h
  split at h
  case isFalse => exact h
  case isTrue hlast =>
    obtain ⟨init, rfl⟩ := List.getLast?_eq_some_iff.mp hlast
    rw [List.dropLast_concat] at h
    rw [List.head?_append, h]
    rfl

/-- An absolute path, collapsed and with the slash at its end dropped, is its components. -/
theorem adjustPath_collapse {path : Bytes} (hhead : path.head? = some slash)
    (hne : segments slash path ≠ []) :
    adjustPath (collapse slash path) = absolute slash (segments slash path) := by
  rw [← segments_collapse] at hne ⊢
  have hc := collapsed_collapse slash path
  have hhead : (collapse slash path).head? = some slash := (head?_collapse slash path).trans hhead
  generalize collapse slash path = l at hc hhead hne
  obtain ⟨t, rfl⟩ : ∃ t, l = slash :: t := by
    cases l with
    | nil => cases hhead
    | cons a t => exact ⟨t, by rw [Option.some.inj hhead]⟩
  rw [segments_sep_cons] at hne ⊢
  have ht : t ≠ [] := fun h => hne (by rw [h, segments_nil])
  by_cases hlast : t.getLast? = some slash
  · obtain ⟨init, rfl⟩ := List.getLast?_eq_some_iff.mp hlast
    have hinit : init ≠ [] := fun h => hne (by simp [h])
    obtain ⟨hcinit, -, hnot⟩ := List.isChain_append.mp (show List.IsChain _ ((slash :: init) ++ [slash]) from hc)
    have hend : init.getLast? ≠ some slash := fun h =>
      hnot slash (by rwa [Option.mem_def, List.getLast?_cons_of_ne_nil hinit]) slash rfl ⟨rfl, rfl⟩
    rw [segments_concat_sep, absolute_segments slash hcinit hend hinit]
    show adjustPath ((slash :: init) ++ [slash]) = _
    rw [adjustPath, List.getLast?_concat, if_pos rfl, List.dropLast_concat]
  · rw [absolute_segments slash hc hlast ht, adjustPath, if_neg]
    rwa [List.getLast?_cons_of_ne_nil ht]

/-! ### The rule on paths written with single slashes -/

/-- At or below `/storage` as the rule tests it. -/
def Inside (path : Bytes) : Prop :=
  path = ROOT_PATH ∨ path.take ROOT_PATH_WITH_SLASH.length = ROOT_PATH_WITH_SLASH

instance (path : Bytes) : Decidable (Inside path) := inferInstanceAs (Decidable (_ ∨ _))

theorem reading_eq_outside {notResident : Bool} {path : Bytes} :
    reading notResident path = .outside ↔ ¬ Inside path := by
  unfold reading Inside
  by_cases hroot : path = ROOT_PATH
  · simp [hroot]
  by_cases hpre : path.take ROOT_PATH_WITH_SLASH.length = ROOT_PATH_WITH_SLASH
  · rw [if_neg hroot, if_neg (not_not.mpr hpre)]
    simp only [hpre, or_true, not_true_eq_false, iff_false]
    split
    · simp
    · split <;> simp
  · simp [hroot, hpre]

/-- Inside `/storage` the components decide. -/
theorem reading_of_inside {notResident : Bool} {path : Bytes} (h : Inside path) :
    reading notResident path =
      if (splitPath path).length ≤ SECOND_PATH_SEGMENT ∨ isUsersPathBlocked (splitPath path) = true
      then .barred
      else if (splitPath path).length ≤ MAX_CHECK_COM_NUM then .short
      else .long ((splitPath path).getD MAX_CHECK_COM_NUM [])
        (if notResident = true ∧ isAppDataPathPrefix (splitPath path) = true then
          some (sharedPath (splitPath path)) else none) := by
  unfold reading
  rcases h with rfl | h
  · rfl
  · by_cases hroot : path = ROOT_PATH
    · subst hroot
      rfl
    · rw [if_neg hroot, if_neg (not_not.mpr h)]

/-- A path with one slash at its beginning is inside where its first component is `storage`. -/
theorem inside_iff {t : Bytes} (ht : t.head? ≠ some slash) :
    Inside (slash :: t) ↔ (segments slash (slash :: t)).head? = some (bytes "storage") := by
  rw [segments_sep_cons]
  constructor
  · intro h
    rcases h with h | h
    · rw [show t = bytes "storage" from List.tail_eq_of_cons_eq h]
      decide
    · have hsplit := List.take_append_drop ROOT_PATH_WITH_SLASH.length (slash :: t)
      rw [h] at hsplit
      rw [show t = bytes "storage" ++ slash :: (slash :: t).drop ROOT_PATH_WITH_SLASH.length from
        (List.tail_eq_of_cons_eq hsplit).symm, segments_append_sep]
      rfl
  · intro h
    obtain ⟨rest, rfl, hrest⟩ := eq_of_head?_segments slash ht h
    rcases hrest with rfl | hrest
    · exact Or.inl rfl
    · cases rest with
      | nil => cases hrest
      | cons a rest =>
        obtain rfl : a = slash := Option.some.inj hrest
        exact Or.inr rfl

theorem not_inside_relative {path : Bytes} (h : path.head? ≠ some slash) :
    ¬ Inside (adjustPath path) := by
  intro hin
  refine h (head?_adjustPath ?_)
  rcases hin with hin | hin
  · rw [hin]
    rfl
  · have htake : (adjustPath path).head? =
        ((adjustPath path).take ROOT_PATH_WITH_SLASH.length).head? := by
      rw [List.head?_take, if_neg (by decide)]
    rw [htake, hin]
    rfl

theorem not_inside_double (t : Bytes) : ¬ Inside (slash :: slash :: t) := by
  intro h
  rcases h with h | h
  · cases h
  · cases t.take 7 <;> cases h

theorem inside_absolute {ws : List Bytes} (hws : ∀ w ∈ ws, IsSegment slash w) :
    Inside (absolute slash ws) ↔ ws.head? = some (bytes "storage") := by
  cases ws with
  | nil => decide
  | cons w rest =>
    have hw := hws w (List.mem_cons_self ..)
    have hhead : (w ++ absolute slash rest).head? ≠ some slash := by
      intro h
      cases w with
      | nil => exact hw.1 rfl
      | cons a w => exact hw.2 (by cases h; exact List.mem_cons_self ..)
    rw [absolute_cons, inside_iff hhead, ← absolute_cons, segments_absolute slash _ hws]

/-- A protected path written with single slashes is barred. -/
theorem reading_absolute_protected {notResident : Bool} {ws : List Bytes}
    (hws : ∀ w ∈ ws, IsSegment slash w) (hhead : ws.head? = some (bytes "storage"))
    (h : ws.length ≤ 2 ∨ (ws.take 3 = [bytes "storage", bytes "Users", bytes "currentUser"] ∧
      isAppdataName ws = true ∧ ws.length ≤ 6)) :
    reading notResident (absolute slash ws) = .barred := by
  have hlen : ws.length ≤ 6 := h.elim (fun h => by omega) fun h => h.2.2
  have hsplit : splitPath (absolute slash ws) = ws := by
    rw [splitPath_eq_segments (by rw [count_absolute slash hws]; omega),
      segments_absolute slash ws hws]
  rw [reading_of_inside ((inside_absolute hws).mpr hhead), hsplit, if_pos]
  refine h.imp_right fun h => ?_
  have htwo : ws.take 2 = [bytes "storage", bytes "Users"] := by
    rw [show ws.take 2 = (ws.take 3).take 2 by simp [List.take_take], h.1]
    rfl
  have hthird : ws[SECOND_PATH_SEGMENT]? = some (bytes "currentUser") := by
    rw [show ws[SECOND_PATH_SEGMENT]? = (ws.take 3)[SECOND_PATH_SEGMENT]? by
      rw [List.getElem?_take_of_lt (by decide)], h.1]
    rfl
  unfold isUsersPathBlocked
  rw [if_pos htwo, if_neg (not_not.mpr hthird), h.2.1, Bool.and_true]
  exact decide_eq_true h.2.2

theorem isSegment_segments (path : Bytes) : ∀ w ∈ segments slash path, IsSegment slash w :=
  fun _ hw => isSegment_of_mem slash hw

/-- The collapsed form of a protected absolute path is barred. -/
theorem reading_collapse_protected {notResident : Bool} {path : Bytes}
    (hhead : path.head? = some slash) (h : Protected path) :
    reading notResident (adjustPath (collapse slash path)) = .barred := by
  have hstorage : (segments slash path).head? = some (bytes "storage") := by
    rcases h with h | h
    · rw [show (segments slash path).head? = ((segments slash path).take 3).head? by
        simp [List.head?_take], h.1]
      rfl
    · exact h.2.1
  have hne : segments slash path ≠ [] := fun hnil => by simp [hnil] at hstorage
  rw [adjustPath_collapse hhead hne]
  exact reading_absolute_protected (isSegment_segments path) hstorage
    (h.symm.imp (fun h => h.2.2) id)

theorem judge_path (env : ShareEnv) (m : ShareMap) (userID : UInt32) (mode : UInt64)
    (type : PolicyType) (path path' bundleName : Bytes) (index : Nat) (r : Reading) :
    judge env m userID ⟨path, mode, type⟩ bundleName index r =
      judge env m userID ⟨path', mode, type⟩ bundleName index r := by
  cases r with
  | outside => rfl
  | barred => rfl
  | short => rfl
  | long bundle shared => rfl

/-- A path with two slashes in front of `storage` is taken for one outside. -/
theorem not_readAlike_of_double {notResident : Bool} {t : Bytes}
    (h : (segments slash t).head? = some (bytes "storage")) :
    ¬ ReadAlike notResident (slash :: slash :: t) := by
  intro halike
  have ht : t ≠ [] := fun hnil => by simp [hnil] at h
  have hsegs : segments slash (slash :: slash :: t) = segments slash t := by
    rw [segments_sep_cons, segments_sep_cons]
  have hne : segments slash (slash :: slash :: t) ≠ [] := fun hnil => by
    rw [← hsegs, hnil] at h
    cases h
  obtain ⟨t', ht'⟩ : ∃ t', adjustPath (slash :: slash :: t) = slash :: slash :: t' := by
    unfold adjustPath
    split
    · exact ⟨t.dropLast, by rw [List.dropLast_cons_of_ne_nil (by simp), List.dropLast_cons_of_ne_nil ht]⟩
    · exact ⟨t, rfl⟩
  have hout : reading notResident (adjustPath (slash :: slash :: t)) = .outside := by
    rw [ht']
    exact reading_eq_outside.mpr (not_inside_double t')
  rw [ReadAlike, hout, adjustPath_collapse rfl hne] at halike
  refine reading_eq_outside.mp halike.symm ?_
  rw [inside_absolute (isSegment_segments _), hsegs]
  exact h

theorem segments_adjustPath (path : Bytes) :
    segments slash (adjustPath path) = segments slash path := splitPath_adjustPath path

/-- With one slash at its beginning a path keeps it when one at the end is dropped. -/
theorem adjustPath_single {path : Bytes} (hhead : path.head? = some slash)
    (hdouble : ¬ [slash, slash] <+: path) (hne : segments slash path ≠ []) :
    ∃ t, t.head? ≠ some slash ∧ adjustPath path = slash :: t := by
  obtain ⟨t, rfl⟩ := List.head?_eq_some_iff.mp hhead
  have ht : t.head? ≠ some slash := fun h => by
    obtain ⟨t, rfl⟩ := List.head?_eq_some_iff.mp h
    exact hdouble ⟨t, rfl⟩
  unfold adjustPath
  split
  case isFalse => exact ⟨t, ht, rfl⟩
  case isTrue =>
    have htne : t ≠ [] := fun h => hne (by rw [h, segments_sep_cons, segments_nil])
    refine ⟨t.dropLast, fun h => ht ?_, List.dropLast_cons_of_ne_nil htne⟩
    obtain ⟨t', ht'⟩ := List.head?_eq_some_iff.mp h
    obtain ⟨later, hlater⟩ := List.dropLast_prefix t
    rw [← hlater, ht']
    rfl

/-- At most seven slashes, one of them at the beginning: every component is told apart. -/
theorem readAlike_of_few {notResident : Bool} {path : Bytes} (hhead : path.head? = some slash)
    (hfew : (adjustPath path).count slash ≤ 7) (hdouble : ¬ [slash, slash] <+: path)
    (hne : segments slash path ≠ []) : ReadAlike notResident path := by
  obtain ⟨t, ht, hadjust⟩ := adjustPath_single hhead hdouble hne
  have hsegs := segments_adjustPath path
  have hsplit : splitPath (adjustPath path) = segments slash path := by
    rw [splitPath_eq_segments hfew, hsegs]
  have hlen : (segments slash path).length ≤ 7 := by
    rw [← hsegs, hadjust, segments_sep_cons]
    rw [hadjust, List.count_cons_self] at hfew
    exact Nat.le_trans (length_segmentsFrom slash [] t) (by omega)
  have hin : Inside (adjustPath path) ↔ Inside (absolute slash (segments slash path)) := by
    rw [inside_absolute (isSegment_segments _), hadjust, inside_iff ht, ← hadjust, hsegs]
  unfold ReadAlike
  rw [adjustPath_collapse hhead hne]
  by_cases h : Inside (adjustPath path)
  · rw [reading_of_inside h, reading_of_inside (hin.mp h), hsplit, splitPath_eq_segments
      (by rw [count_absolute slash (isSegment_segments _)]; exact hlen),
      segments_absolute slash _ (isSegment_segments _)]
  · rw [reading_eq_outside.mpr h, reading_eq_outside.mpr (fun h' => h (hin.mpr h'))]

/-! ### Verdicts and readings -/

/-- Verdicts tell readings apart, and the collapsed form of a protected path is barred. -/
theorem ignoresSlashes_iff_readAlike {notResident : Bool} {path : Bytes} (hnul : 0 ∉ path) :
    IgnoresSlashes notResident path ↔
      ReadAlike notResident path ∧ (InAppdata path → path.head? = some slash) := by
  have hnul' : 0 ∉ collapse slash path := fun h => hnul ((mem_collapse slash).mp h)
  constructor
  · intro h
    refine ⟨?_, ?_⟩
    · refine eq_of_agree (fun _ _ => bundle_ne_nil) (fun _ _ => bundle_ne_nil) ?_
      intro env m userID policy bundleName index
      have hsame := h.same env m userID policy.mode policy.type bundleName index
      rw [checkPathIsBlocked_eq hnul, checkPathIsBlocked_eq hnul',
        judge_path env m userID _ _ path policy.path,
        judge_path env m userID _ _ (collapse slash path) policy.path] at hsame
      revert hsame
      cases (judge env m userID policy bundleName index _).2 <;>
        cases (judge env m userID policy bundleName index _).2 <;> simp
    · intro happ
      by_contra hhead
      have hout : reading notResident (adjustPath path) = .outside :=
        reading_eq_outside.mpr (not_inside_relative hhead)
      have := h.rejected (Or.inl happ) noProfiles emptyMap 0 0 .UNKNOWN [] 0
      rw [checkPathIsBlocked_eq hnul, hout] at this
      cases this
  · intro ⟨halike, habs⟩
    refine ⟨?_, ?_⟩
    · intro env m userID mode type bundleName index
      rw [checkPathIsBlocked_eq hnul, checkPathIsBlocked_eq hnul', ← halike,
        judge_path env m userID mode type path (collapse slash path)]
    · intro hprot env m userID mode type bundleName index
      have hhead : path.head? = some slash := hprot.elim habs And.left
      rw [checkPathIsBlocked_eq hnul, show reading notResident (adjustPath path) = .barred from
        halike.trans (reading_collapse_protected hhead hprot)]
      rfl

end SandboxManager.PathRule
