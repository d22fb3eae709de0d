import SandboxManager.Policy.Slashes

/-! Paths with more than seven slashes.

The rule tests the first bytes of a path for `/storage/`, and the splitter counts empty
tokens towards its eight. So a redundant slash can take a path out of `/storage`, and
names out of the places they are looked for in. `SlashesHarmless` says of the bytes of a
path that its redundant slashes do neither: cut at its eighth slash, the names in front of
it and the rest behind it are read as those of the collapsed path. Exactly then repeated
slashes change no verdict (`ignoresSlashes_iff`). -/
namespace SandboxManager.PathRule
open Library Policy Share

/-! ### A path cut at its eighth slash -/

/-- A line of text, as far as `std::getline` reads it. -/
def firstLine (rest : Bytes) : Bytes := rest.takeWhile (· ≠ newline)

theorem addRemainingPath_eq (rest : Bytes) : addRemainingPath rest = component (firstLine rest) := by
  unfold addRemainingPath getline
  by_cases hrest : rest = []
  · rw [if_pos hrest, hrest]
    rfl
  · rw [if_neg hrest]
    rfl

/-- In front of the last token there are the components, behind it the rest in one piece. -/
theorem splitLoop_cut {n : Nat} {front : Bytes} (hcount : front.count slash = n) (rest : Bytes) :
    splitLoop (n + 1) (front ++ slash :: rest) =
      segments slash front ++ component (firstLine rest) := by
  induction n generalizing front with
  | zero =>
    have hfront : slash ∉ front := List.count_eq_zero.mp hcount
    rw [splitLoop, getline_append hfront]
    show component front ++ addRemainingPath rest = _
    rw [component_eq_segments hfront, addRemainingPath_eq]
  | succ n ih =>
    have hmem : slash ∈ front := List.count_pos_iff.mp (by omega)
    obtain ⟨w, front', rfl, hw⟩ := List.eq_append_cons_of_mem hmem
    rw [List.count_append, List.count_cons_self, List.count_eq_zero_of_not_mem hw] at hcount
    rw [List.append_assoc, List.cons_append, splitLoop, getline_append hw]
    show component w ++ splitLoop (n + 1) (front' ++ slash :: rest) = _
    rw [ih (by omega), component_eq_segments hw, segments_append_sep, List.append_assoc]

theorem splitPath_cut {path front rest : Bytes} (h : cutAt slash 7 path = some (front, rest)) :
    splitPath path = segments slash front ++ component (firstLine rest) := by
  obtain ⟨rfl, hcount⟩ := of_cutAt slash h
  exact splitLoop_cut hcount rest

/-- The names cut off behind the seventh are read as one line of text. -/
theorem splitPath_absolute {names : List Bytes} (hnames : ∀ w ∈ names, IsSegment slash w) :
    splitPath (absolute slash names) =
      names.take 7 ++ component (firstLine ((absolute slash (names.drop 7)).tail)) := by
  by_cases hlen : names.length ≤ 7
  · rw [splitPath_eq_segments (by rw [count_absolute slash hnames]; exact hlen),
      segments_absolute slash names hnames, List.take_of_length_le hlen,
      List.drop_eq_nil_of_le hlen]
    exact (List.append_nil names).symm
  · obtain ⟨w, later, hlater⟩ : ∃ w later, names.drop 7 = w :: later :=
      List.exists_cons_of_length_pos (by rw [List.length_drop]; omega)
    have hfront : ∀ w ∈ names.take 7, IsSegment slash w :=
      fun w hw => hnames w (List.mem_of_mem_take hw)
    have hcut : absolute slash names =
        absolute slash (names.take 7) ++ slash :: (w ++ absolute slash later) := by
      conv_lhs => rw [← List.take_append_drop 7 names, absolute_append, hlater, absolute_cons]
    have hcount : (absolute slash (names.take 7)).count slash = 7 := by
      rw [count_absolute slash hfront, List.length_take]
      omega
    rw [hcut, hlater, absolute_cons, List.tail_cons]
    show splitLoop 8 _ = _
    rw [splitLoop_cut hcount, segments_absolute slash _ hfront]

theorem take_splitPath_absolute {names : List Bytes} (hnames : ∀ w ∈ names, IsSegment slash w) :
    (splitPath (absolute slash names)).take 7 = names.take 7 := by
  rw [splitPath_absolute hnames]
  by_cases hlen : names.length ≤ 7
  · rw [List.drop_eq_nil_of_le hlen, show component (firstLine (absolute slash []).tail) = [] from rfl,
      List.append_nil, List.take_take, Nat.min_self]
  · rw [List.take_append_of_le_length (by rw [List.length_take]; omega), List.take_take,
      Nat.min_self]

/-! ### Names that bar a path -/

/-- The third name is missing or another user's. -/
def OfAnother (names : List Bytes) : Prop :=
  names[1]? = some (bytes "Users") ∧ names[2]? ≠ some (bytes "currentUser")

instance (names : List Bytes) : Decidable (OfAnother names) := inferInstanceAs (Decidable (_ ∧ _))

/-- Too few names, another user's, or at most six of them with `appdata` in fourth place. -/
def BarredNames (names : List Bytes) : Prop :=
  names.length ≤ 2 ∨ OfAnother names ∨
    names[1]? = some (bytes "Users") ∧ isAppdataName names = true ∧ names.length ≤ 6

instance (names : List Bytes) : Decidable (BarredNames names) :=
  inferInstanceAs (Decidable (_ ∨ _))

theorem take_two_iff {names : List Bytes} (hhead : names.head? = some (bytes "storage")) :
    names.take 2 = [bytes "storage", bytes "Users"] ↔ names[1]? = some (bytes "Users") := by
  obtain ⟨later, rfl⟩ := List.head?_eq_some_iff.mp hhead
  cases later with
  | nil => simp
  | cons second later => simp

theorem barredNames_iff {names : List Bytes} (hhead : names.head? = some (bytes "storage")) :
    names.length ≤ SECOND_PATH_SEGMENT ∨ isUsersPathBlocked names = true ↔ BarredNames names := by
  unfold isUsersPathBlocked BarredNames OfAnother
  refine or_congr Iff.rfl ?_
  by_cases hsecond : names[1]? = some (bytes "Users")
  · rw [if_pos ((take_two_iff hhead).mpr hsecond)]
    show (if names[2]? ≠ some (bytes "currentUser") then _ else _) = true ↔ _
    by_cases hthird : names[2]? = some (bytes "currentUser")
    · rw [if_neg (not_not.mpr hthird), Bool.and_eq_true, decide_eq_true_iff, and_comm]
      simp only [hsecond, hthird, ne_eq, not_true, and_false, false_or, true_and]
      rfl
    · rw [if_pos hthird]
      simp [hsecond, hthird]
  · rw [if_neg fun h => hsecond ((take_two_iff hhead).mp h)]
    simp only [hsecond, false_and, or_self, Bool.false_eq_true]

/-- Seven names tell whether a path is barred. -/
theorem barredNames_congr {names names' : List Bytes} (h : names.take 7 = names'.take 7) :
    BarredNames names ↔ BarredNames names' := by
  have hget : ∀ i < 7, names[i]? = names'[i]? := fun i hi => by
    rw [← List.getElem?_take_of_lt hi, h, List.getElem?_take_of_lt hi]
  have hlen := congrArg List.length h
  rw [List.length_take, List.length_take] at hlen
  unfold BarredNames OfAnother isAppdataName
  rw [hget 1 (by decide), hget 2 (by decide), hget 3 (by decide),
    show names.length ≤ 2 ↔ names'.length ≤ 2 by omega,
    show names.length ≤ 6 ↔ names'.length ≤ 6 by omega]

/-- The reading of a path below `/storage` by the names that are read of it. -/
def readNames (notResident : Bool) (names : List Bytes) : Reading :=
  if BarredNames names then .barred
  else if names.length ≤ 6 then .short
  else .long (names.getD 6 [])
    (if notResident = true ∧ isAppDataPathPrefix names = true then some (sharedPath names) else none)

theorem reading_eq_readNames {notResident : Bool} {path : Bytes} (h : Inside path)
    (hhead : (splitPath path).head? = some (bytes "storage")) :
    reading notResident path = readNames notResident (splitPath path) := by
  rw [reading_of_inside h]
  unfold readNames
  simp only [barredNames_iff hhead]
  rfl

theorem readNames_eq_barred {notResident : Bool} {names : List Bytes} :
    readNames notResident names = .barred ↔ BarredNames names := by
  unfold readNames
  by_cases h : BarredNames names
  · simp [h]
  · rw [if_neg h]
    split <;> simp [h]

theorem readNames_eq_short {notResident : Bool} {names : List Bytes} :
    readNames notResident names = .short ↔ ¬ BarredNames names ∧ names.length ≤ 6 := by
  unfold readNames
  by_cases h : BarredNames names
  · simp [h]
  · rw [if_neg h]
    split <;> simp_all

theorem readNames_of_seventh {notResident : Bool} {names : List Bytes} {bundle : Bytes}
    (hbarred : ¬ BarredNames names) (h : names[6]? = some bundle) :
    readNames notResident names = .long bundle
      (if notResident = true ∧ isAppDataPathPrefix names = true then some (sharedPath names)
        else none) := by
  obtain ⟨hlen, hget⟩ := List.getElem?_eq_some_iff.mp h
  unfold readNames
  rw [if_neg hbarred, if_neg (by omega), List.getD_eq_getElem?_getD, h, Option.getD_some]

theorem seventh_of_readNames {notResident : Bool} {names : List Bytes} {bundle : Bytes}
    {shared : Option Bytes} (h : readNames notResident names = .long bundle shared) :
    names[6]? = some bundle := by
  unfold readNames at h
  split at h
  case isTrue => cases h
  case isFalse =>
    split at h
    case isTrue => cases h
    case isFalse hmore =>
      have hlen : 6 < names.length := Nat.lt_of_not_le hmore
      rw [Reading.long.injEq, List.getD_eq_getElem?_getD, List.getElem?_eq_getElem hlen] at h
      rw [List.getElem?_eq_getElem hlen, ← h.1]
      rfl

/-- At most six names are read as others are where both are barred, or neither is and the others
are six at most, too. -/
theorem readNames_eq_iff {notResident : Bool} {names names' : List Bytes} (h : names.length ≤ 6) :
    readNames notResident names = readNames notResident names' ↔
      if BarredNames names then BarredNames names'
      else ¬ BarredNames names' ∧ names'.length ≤ 6 := by
  by_cases hbarred : BarredNames names
  · rw [if_pos hbarred, readNames_eq_barred.mpr hbarred, eq_comm, readNames_eq_barred]
  · rw [if_neg hbarred, readNames_eq_short.mpr ⟨hbarred, h⟩, eq_comm, readNames_eq_short]

/-! ### The rest on one line -/

/-- No slash of the rest is redundant, as far as its first line goes. -/
def SingleSlashes (rest : Bytes) : Prop :=
  Collapsed slash (slash :: firstLine rest) ∧ (newline ∉ rest → rest.getLast? ≠ some slash)

instance (rest : Bytes) : Decidable (SingleSlashes rest) :=
  inferInstanceAs (Decidable (List.IsChain _ _ ∧ _))

theorem firstLine_eq_self {l : Bytes} (h : newline ∉ l) : firstLine l = l :=
  List.takeWhile_eq_self_iff.mpr (keeps_of_not_mem h)

theorem firstLine_slash (l : Bytes) : firstLine (slash :: l) = slash :: firstLine l := rfl

/-- Behind the end of the first line a slash may be dropped. -/
theorem firstLine_adjustPath {l : Bytes} (h : newline ∈ l) :
    firstLine (adjustPath l) = firstLine l := by
  obtain ⟨line, later, rfl, hline⟩ := List.eq_append_cons_of_mem h
  have hkeep := keeps_of_not_mem hline
  unfold adjustPath
  split
  case isFalse => rfl
  case isTrue hlast =>
    have hlater : later ≠ [] := fun hnil => by
      subst hnil
      rw [List.getLast?_concat] at hlast
      cases hlast
    unfold firstLine
    rw [List.dropLast_append_of_ne_nil (by simp), List.dropLast_cons_of_ne_nil hlater,
      List.takeWhile_append_of_pos hkeep, List.takeWhile_append_of_pos hkeep]
    simp

theorem getLast?_adjustPath {l : Bytes} (h : Collapsed slash l) :
    (adjustPath l).getLast? ≠ some slash := by
  unfold adjustPath
  split
  case isFalse hlast => exact hlast
  case isTrue hlast =>
    obtain ⟨init, rfl⟩ := List.getLast?_eq_some_iff.mp hlast
    rw [List.dropLast_concat]
    intro hinit
    exact (List.isChain_append.mp h).2.2 slash hinit slash rfl ⟨rfl, rfl⟩

theorem adjustPath_isPrefix (l : Bytes) : adjustPath l <+: l := by
  unfold adjustPath
  split
  · exact List.dropLast_prefix l
  · exact List.prefix_refl l

theorem collapsed_adjustPath {l : Bytes} (h : Collapsed slash l) :
    Collapsed slash (adjustPath l) := h.prefix (adjustPath_isPrefix l)

/-- The first line of the rest is that of its names written with single slashes where it has no
redundant one. -/
theorem firstLine_segments (rest : Bytes) :
    firstLine rest = firstLine (absolute slash (segments slash rest)).tail ↔
      SingleSlashes rest := by
  by_cases hne : segments slash rest = []
  · rw [hne]
    cases rest with
    | nil => exact iff_of_true rfl (by decide)
    | cons c rest =>
      obtain rfl : c = slash := by
        by_contra hc
        exact segments_ne_nil slash hc hne
      refine iff_of_false (fun h => ?_) fun h => ?_
      · cases h
      · exact (List.isChain_cons_cons.mp h.1).1 ⟨rfl, rfl⟩
  · obtain ⟨w, ws, hws⟩ := List.exists_cons_of_ne_nil hne
    -- with a slash in front the names written back are the path collapsed
    have habs : slash :: (absolute slash (segments slash rest)).tail =
        adjustPath (collapse slash (slash :: rest)) := by
      rw [adjustPath_collapse rfl (by rwa [segments_sep_cons]), segments_sep_cons, hws]
      rfl
    have hline : firstLine rest = firstLine (absolute slash (segments slash rest)).tail ↔
        firstLine (slash :: rest) = firstLine (adjustPath (collapse slash (slash :: rest))) := by
      rw [← habs, firstLine_slash, firstLine_slash, List.cons_inj_right]
    rw [hline]
    unfold SingleSlashes
    by_cases hnew : newline ∈ rest
    · have hmem : newline ∈ collapse slash (slash :: rest) :=
        (mem_collapse slash).mpr (List.mem_cons_of_mem _ hnew)
      rw [firstLine_adjustPath hmem]
      unfold firstLine
      rw [takeWhile_collapse slash (by decide)]
      refine ⟨fun h => ⟨?_, fun h => absurd hnew h⟩, fun h => (collapse_eq_self slash h.1).symm⟩
      exact (show slash :: List.takeWhile (· ≠ newline) rest = _ from h) ▸ collapsed_collapse slash _
    · have hnew' : newline ∉ slash :: rest := fun h =>
        hnew ((List.mem_cons.mp h).resolve_left (by decide))
      have hnew'' : newline ∉ adjustPath (collapse slash (slash :: rest)) := fun h =>
        hnew' ((mem_collapse slash).mp ((adjustPath_isPrefix _).subset h))
      have hcollapsed := collapsed_collapse slash (slash :: rest)
      rw [firstLine_eq_self hnew'', firstLine_eq_self hnew, firstLine_eq_self hnew']
      have hrest : rest ≠ [] := fun h => hne (h ▸ rfl)
      constructor
      · intro h
        refine ⟨h ▸ collapsed_adjustPath hcollapsed, fun _ hlast => ?_⟩
        refine getLast?_adjustPath hcollapsed (h ▸ ?_)
        rwa [List.getLast?_cons_of_ne_nil hrest]
      · rintro ⟨hsingle, hlast⟩
        rw [collapse_eq_self slash hsingle, adjustPath, if_neg]
        rw [List.getLast?_cons_of_ne_nil hrest]
        exact hlast hnew

/-! ### Slashes that do no harm -/

/-- What the number of names in front of the eighth slash asks of the names there are: below
seven the first line of the rest is read as one more, from seven on it ends the path that is
looked up. -/
def LumpHarmless (notResident : Bool) (names : List Bytes) (rest : Bytes) : Nat → Prop
  | 0 | 1 => BarredNames names
  | 2 =>
    if firstLine rest = [] ∨
        names[1]? = some (bytes "Users") ∧ firstLine rest ≠ bytes "currentUser" then
      BarredNames names
    else ¬ BarredNames names ∧ names.length ≤ 6
  | 3 =>
    OfAnother names ∨ names.length ≤ 6 ∧ (names[1]? = some (bytes "Users") →
      strcasecmpEq (firstLine rest) (bytes "appdata") = isAppdataName names)
  | 4 | 5 => OfAnother names ∨ names.length ≤ 6
  | 6 => OfAnother names
  | _ =>
    OfAnother names ∨
      (notResident = true → isAppDataPathPrefix names = true → SingleSlashes rest)

/-- What a path with more than seven slashes must be like, `front` being the bytes in front of
the eighth slash and `rest` those behind it. -/
def RestHarmless (notResident : Bool) (front rest : Bytes) : Prop :=
  slash ∉ rest ∧ newline ∉ rest ∨
    LumpHarmless notResident (segments slash front ++ segments slash rest) rest
      (segments slash front).length

/-- Repeated slashes do no harm to a path: a relative one does not name `appdata`, and an absolute
one in `storage` has one slash in front of it and, around its eighth, only harmless ones. -/
def SlashesHarmless (notResident : Bool) (path : Bytes) : Prop :=
  (path.head? ≠ some slash → ¬ InAppdata path) ∧
    (path.head? = some slash → (segments slash path).head? = some (bytes "storage") →
      ¬ [slash, slash] <+: path ∧
        ∀ cut ∈ cutAt slash 7 (adjustPath path), RestHarmless notResident cut.1 cut.2)

instance (path : Bytes) : Decidable (InAppdata path) :=
  inferInstanceAs (Decidable (_ ∧ _ ∧ _))

instance (notResident : Bool) (names : List Bytes) (rest : Bytes) : (count : Nat) →
    Decidable (LumpHarmless notResident names rest count)
  | 0 => inferInstanceAs (Decidable (BarredNames names))
  | 1 => inferInstanceAs (Decidable (BarredNames names))
  | 2 => inferInstanceAs (Decidable (if firstLine rest = [] ∨ _ then BarredNames names else _ ∧ _))
  | 3 => inferInstanceAs (Decidable (OfAnother names ∨ _ ∧ (_ → _)))
  | 4 => inferInstanceAs (Decidable (OfAnother names ∨ _))
  | 5 => inferInstanceAs (Decidable (OfAnother names ∨ _))
  | 6 => inferInstanceAs (Decidable (OfAnother names))
  | _ + 7 => inferInstanceAs (Decidable (OfAnother names ∨ (_ → _ → _)))

instance (notResident : Bool) (front rest : Bytes) :
    Decidable (RestHarmless notResident front rest) :=
  inferInstanceAs (Decidable (_ ∨ _))

instance (notResident : Bool) (path : Bytes) : Decidable (SlashesHarmless notResident path) :=
  inferInstanceAs (Decidable ((_ → _) ∧ (_ → _ → _ ∧ _)))

theorem length_component (line : Bytes) : (component line).length ≤ 1 := by
  unfold component
  split <;> simp

theorem barredNames_three {front : List Bytes} (h : 3 ≤ front.length) (hfive : front.length ≤ 5)
    (line : Bytes) (later : List Bytes) :
    BarredNames (front ++ component line) ↔ OfAnother (front ++ later) ∨
      (front ++ later)[1]? = some (bytes "Users") ∧
        isAppdataName (front ++ component line) = true := by
  have hline := length_component line
  unfold BarredNames OfAnother
  rw [List.getElem?_append_left (by omega), List.getElem?_append_left (by omega),
    List.getElem?_append_left (by omega), List.getElem?_append_left (by omega), List.length_append]
  constructor
  · rintro (h | h | h)
    · omega
    · exact .inl h
    · exact .inr ⟨h.1, h.2.1⟩
  · rintro (h | h)
    · exact .inr (.inl h)
    · exact .inr (.inr ⟨h.1, h.2, by omega⟩)

theorem barredNames_long {names : List Bytes} (h : 3 ≤ names.length) :
    BarredNames names ↔ OfAnother names ∨ names[1]? = some (bytes "Users") ∧
      isAppdataName names = true ∧ names.length ≤ 6 :=
  or_iff_right (by omega)

/-- With at most five names in front of the eighth slash no more than six are read. -/
theorem lumpHarmless_iff {front : List Bytes} (hne : front ≠ []) (hfive : front.length ≤ 5)
    (notResident : Bool) (rest : Bytes) (later : List Bytes) :
    (if BarredNames (front ++ component (firstLine rest)) then BarredNames (front ++ later)
      else ¬ BarredNames (front ++ later) ∧ (front ++ later).length ≤ 6) ↔
      LumpHarmless notResident (front ++ later) rest front.length := by
  have hpos : 0 < front.length := List.length_pos_iff.mpr hne
  have hline := length_component (firstLine rest)
  have hlong : 3 ≤ front.length → 3 ≤ (front ++ later).length := fun h => by
    rw [List.length_append]
    omega
  obtain h | h | h | h : front.length = 1 ∨ front.length = 2 ∨ front.length = 3 ∨
    (front.length = 4 ∨ front.length = 5) := by omega
  · rw [h, if_pos (.inl (by rw [List.length_append]; omega))]
    rfl
  · obtain ⟨first, second, rfl⟩ := List.length_eq_two.mp h
    have hbarred : BarredNames ([first, second] ++ component (firstLine rest)) ↔ firstLine rest = [] ∨
        ([first, second] ++ later)[1]? = some (bytes "Users") ∧ firstLine rest ≠ bytes "currentUser" := by
      unfold component
      by_cases hnil : firstLine rest = []
      · simp [BarredNames, hnil]
      · simp [BarredNames, OfAnother, isAppdataName, hnil]
    simp only [hbarred]
    rfl
  · -- the line is read in fourth place
    have hfourth : isAppdataName (front ++ component (firstLine rest)) = strcasecmpEq (firstLine rest) (bytes "appdata") := by
      unfold isAppdataName component
      rw [← h, List.getElem?_append_right (Nat.le_refl _), Nat.sub_self]
      by_cases hnil : firstLine rest = []
      · rw [if_pos hnil, hnil]
        rfl
      · rw [if_neg hnil]
        rfl
    simp only [barredNames_three (Nat.le_of_eq h.symm) hfive (firstLine rest) later,
      barredNames_long (hlong (Nat.le_of_eq h.symm)), hfourth]
    rw [h]
    show _ ↔ OfAnother _ ∨ _
    generalize strcasecmpEq (firstLine rest) (bytes "appdata") = asLine
    generalize isAppdataName (front ++ later) = asName
    by_cases hof : OfAnother (front ++ later)
    · simp [hof]
    · by_cases husers : (front ++ later)[1]? = some (bytes "Users")
      · cases asLine <;> cases asName <;> simp [hof, husers]
      · simp [hof, husers]
  · have hfourth : isAppdataName (front ++ component (firstLine rest)) = isAppdataName (front ++ later) := by
      unfold isAppdataName
      rw [List.getElem?_append_left (by omega), List.getElem?_append_left (by omega)]
    have hharmless : LumpHarmless notResident (front ++ later) rest front.length ↔
        OfAnother (front ++ later) ∨ (front ++ later).length ≤ 6 := by
      rcases h with h | h
      · rw [h]
        rfl
      · rw [h]
        rfl
    rw [hharmless]
    simp only [barredNames_three (by omega) hfive (firstLine rest) later, barredNames_long (hlong (by omega)),
      hfourth]
    by_cases hof : OfAnother (front ++ later)
    · simp [hof]
    · by_cases happ : (front ++ later)[1]? = some (bytes "Users") ∧
          isAppdataName (front ++ later) = true
      · simp [hof, happ]
      · simp only [hof, happ, or_self, if_false, false_or, and_iff_right_iff_imp]
        exact fun _ h => happ ⟨h.1, h.2.1⟩

theorem firstLine_append (line later : Bytes) (h : newline ∉ line) :
    firstLine (line ++ newline :: later) = line := by
  unfold firstLine
  rw [List.takeWhile_append_of_pos (keeps_of_not_mem h)]
  simp

/-- A line that is the first name has the rest to itself. -/
theorem alone_of_head?_segments {rest : Bytes}
    (h : (segments slash rest).head? = some (firstLine rest)) : slash ∉ rest ∧ newline ∉ rest := by
  have hline : IsSegment slash (firstLine rest) :=
    isSegment_segments rest _ (List.mem_of_mem_head? h)
  have hhead : rest.head? ≠ some slash := by
    intro hhead
    obtain ⟨later, rfl⟩ := List.head?_eq_some_iff.mp hhead
    exact hline.2 (by rw [firstLine_slash]; exact List.mem_cons_self ..)
  obtain ⟨later, hrest, hend⟩ := eq_of_head?_segments slash hhead h
  have hnew : newline ∉ rest := by
    intro hmem
    obtain ⟨line, behind, rfl, hnot⟩ := List.eq_append_cons_of_mem hmem
    rw [firstLine_append line behind hnot] at hrest
    rw [← List.append_cancel_left hrest] at hend
    rcases hend with hend | hend
    · cases hend
    · cases hend
  exact ⟨firstLine_eq_self hnew ▸ hline.2, hnew⟩

/-- Behind six names the rest is read as a seventh, which no name of the rest is. -/
theorem readNames_six {notResident : Bool} {front names' : List Bytes} {rest : Bytes}
    (hsix : front.length = 6) (hlumped : ¬ (slash ∉ rest ∧ newline ∉ rest))
    (htake : names'.take 7 = (front ++ segments slash rest).take 7) :
    readNames notResident (front ++ component (firstLine rest)) = readNames notResident names' ↔
      OfAnother (front ++ segments slash rest) := by
  have hother : ∀ later, OfAnother (front ++ later) ↔ OfAnother (front ++ segments slash rest) := by
    intro later
    unfold OfAnother
    rw [List.getElem?_append_left (by omega), List.getElem?_append_left (by omega),
      List.getElem?_append_left (by omega), List.getElem?_append_left (by omega)]
  have hlong : ∀ later, 3 ≤ (front ++ later).length := fun later => by
    rw [List.length_append]
    omega
  have hbarred : BarredNames names' ↔ BarredNames (front ++ segments slash rest) :=
    barredNames_congr htake
  have hlen := congrArg List.length htake
  rw [List.length_take, List.length_take, List.length_append] at hlen
  constructor
  · intro h
    by_contra hnot
    have hnotBarred : ∀ later, 1 ≤ later.length → ¬ BarredNames (front ++ later) := by
      intro later hlater hbarred
      rcases (barredNames_long (hlong later)).mp hbarred with h | h
      · exact hnot ((hother later).mp h)
      · have := h.2.2
        rw [List.length_append] at this
        omega
    by_cases hline : firstLine rest = []
    · have hsegs : 1 ≤ (segments slash rest).length := by
        cases rest with
        | nil => exact absurd ⟨List.not_mem_nil, List.not_mem_nil⟩ hlumped
        | cons c rest =>
          have hc : c ≠ slash := fun hc => by
            rw [hc, firstLine_slash] at hline
            cases hline
          exact List.length_pos_iff.mpr (segments_ne_nil slash hc)
      rw [hline, show component [] = [] from rfl, List.append_nil,
        readNames_eq_iff (Nat.le_of_eq hsix)] at h
      split at h
      · exact hnotBarred _ hsegs (hbarred.mp h)
      · have := h.2
        omega
    · have hcomponent : component (firstLine rest) = [firstLine rest] := if_neg hline
      have hread : readNames notResident (front ++ [firstLine rest]) = _ :=
        readNames_of_seventh (hnotBarred [firstLine rest] (Nat.le_refl _)) (by
          rw [List.getElem?_append_right (by omega), hsix]
          rfl)
      rw [hcomponent, hread] at h
      refine hlumped (alone_of_head?_segments ?_)
      rw [← seventh_of_readNames h.symm, ← List.getElem?_take_of_lt (show 6 < 7 by decide), htake,
        List.getElem?_take_of_lt (by decide), List.getElem?_append_right (by omega), hsix,
        List.head?_eq_getElem?]
  · intro h
    rw [readNames_eq_barred.mpr (.inr (.inl ((hother _).mpr h))),
      readNames_eq_barred.mpr (hbarred.mpr (.inr (.inl h)))]

theorem absolute_component_inj {line line' : Bytes}
    (h : absolute slash (component line) = absolute slash (component line')) : line = line' := by
  unfold component at h
  by_cases hline : line = []
  · by_cases hline' : line' = []
    · rw [hline, hline']
    · rw [if_pos hline, if_neg hline'] at h
      cases h
  · by_cases hline' : line' = []
    · rw [if_neg hline, if_pos hline'] at h
      cases h
    · rw [if_neg hline, if_neg hline'] at h
      exact List.append_cancel_right (List.tail_eq_of_cons_eq h)

/-- Behind seven names the path looked up ends in the rest as it is read. -/
theorem sharedPath_inj {front : List Bytes} (hseven : front.length = 7) {line line' : Bytes} :
    sharedPath (front ++ component line) = sharedPath (front ++ component line') ↔
      line = line' := by
  refine ⟨fun h => ?_, fun h => by rw [h]⟩
  have hsixth : ∀ later, (front ++ later).getD MAX_CHECK_COM_NUM [] =
      front.getD MAX_CHECK_COM_NUM [] := fun later => by
    rw [List.getD_eq_getElem?_getD, List.getD_eq_getElem?_getD,
      List.getElem?_append_left (by rw [hseven]; decide)]
  have hdrop : ∀ name later, ((front ++ later).set MAX_CHECK_COM_NUM name).drop EL_LEVEL_SEGMENT =
      (front.set MAX_CHECK_COM_NUM name).drop EL_LEVEL_SEGMENT ++ later := fun name later => by
    rw [List.set_append_left _ _ (by rw [hseven]; decide), List.drop_append_of_le_length (by
      rw [List.length_set, hseven]
      decide)]
  simp only [sharedPath, hsixth, hdrop] at h
  have hne : ∀ later, (front.set MAX_CHECK_COM_NUM
      (removeClonePrefix (front.getD MAX_CHECK_COM_NUM []))).drop EL_LEVEL_SEGMENT ++ later ≠ [] := by
    intro later hnil
    have hlen := congrArg List.length hnil
    rw [List.length_append, List.length_drop, List.length_set, hseven] at hlen
    exact absurd hlen (by simp [EL_LEVEL_SEGMENT])
  have habs := congrArg (slash :: ·) (List.append_cancel_left h)
  simp only [cons_intercalate slash (hne _), absolute_append] at habs
  exact absolute_component_inj (List.append_cancel_left habs)

/-- Behind seven names only the path that is looked up depends on the rest. -/
theorem readNames_seven {notResident : Bool} {front : List Bytes} (hseven : front.length = 7)
    (line line' : Bytes) (later : List Bytes) :
    readNames notResident (front ++ component line) =
        readNames notResident (front ++ component line') ↔
      OfAnother (front ++ later) ∨
        (notResident = true → isAppDataPathPrefix (front ++ later) = true → line = line') := by
  have hget : ∀ i < 7, ∀ names names' : List Bytes, (front ++ names)[i]? = (front ++ names')[i]? :=
    fun i hi names names' => by
      rw [List.getElem?_append_left (by omega), List.getElem?_append_left (by omega)]
  have hbarred : ∀ line, BarredNames (front ++ component line) ↔ OfAnother (front ++ later) := by
    intro line
    rw [barredNames_long (by rw [List.length_append]; omega)]
    unfold OfAnother
    rw [hget 1 (by decide) (component line) later, hget 2 (by decide) (component line) later]
    refine or_iff_left fun h => ?_
    have := h.2.2
    rw [List.length_append] at this
    omega
  have happ : ∀ line, isAppDataPathPrefix (front ++ component line) =
      isAppDataPathPrefix (front ++ later) := by
    intro line
    unfold isAppDataPathPrefix isAppdataName
    rw [hget 3 (by decide) (component line) later, List.take_append_of_le_length (by omega),
      List.take_append_of_le_length (by omega)]
  have hseventh : ∀ line, (front ++ component line)[6]? = some (front.getD 6 []) := by
    intro line
    rw [List.getElem?_append_left (by omega), List.getD_eq_getElem?_getD,
      List.getElem?_eq_getElem (by omega)]
    rfl
  by_cases hother : OfAnother (front ++ later)
  · rw [readNames_eq_barred.mpr ((hbarred line).mpr hother),
      readNames_eq_barred.mpr ((hbarred line').mpr hother)]
    exact iff_of_true rfl (.inl hother)
  · rw [readNames_of_seventh (fun h => hother ((hbarred line).mp h)) (hseventh line),
      readNames_of_seventh (fun h => hother ((hbarred line').mp h)) (hseventh line'),
      Reading.long.injEq, happ line, happ line', or_iff_right hother]
    by_cases hlooked : notResident = true ∧ isAppDataPathPrefix (front ++ later) = true
    · rw [if_pos hlooked, if_pos hlooked, Option.some_inj, sharedPath_inj hseven]
      exact ⟨fun h _ _ => h.2, fun h => ⟨rfl, h hlooked.1 hlooked.2⟩⟩
    · rw [if_neg hlooked, if_neg hlooked]
      exact iff_of_true ⟨rfl, rfl⟩ fun h h' => absurd ⟨h, h'⟩ hlooked

/-! ### The path against its collapsed form -/

/-- At or below `/storage` there is one slash in front of `storage`. -/
theorem head?_of_inside {path : Bytes} (h : Inside path) :
    (segments slash path).head? = some (bytes "storage") := by
  cases path with
  | nil => rcases h with h | h <;> cases h
  | cons c t =>
    obtain rfl : c = slash := by
      rcases h with h | h
      · exact (List.cons.inj h).1
      · exact (List.cons.inj h).1
    refine (inside_iff fun ht => ?_).mp h
    obtain ⟨t, rfl⟩ := List.head?_eq_some_iff.mp ht
    exact not_inside_double t h

theorem singleSlashes_of_alone {rest : Bytes} (h : slash ∉ rest ∧ newline ∉ rest) :
    SingleSlashes rest := by
  rw [← firstLine_segments, ← component_eq_segments h.1]
  unfold component
  by_cases hrest : rest = []
  · rw [if_pos hrest, hrest]
    rfl
  · rw [if_neg hrest, absolute_cons, absolute_nil, List.append_nil, List.tail_cons]

/-- The names read of a path cut at its eighth slash against those read of its collapsed form. -/
theorem readNames_cut {notResident : Bool} {front : List Bytes} {rest : Bytes} (hne : front ≠ [])
    (hseven : front.length ≤ 7)
    (hsegments : ∀ w ∈ front ++ segments slash rest, IsSegment slash w) :
    readNames notResident (front ++ component (firstLine rest)) =
        readNames notResident (splitPath (absolute slash (front ++ segments slash rest))) ↔
      slash ∉ rest ∧ newline ∉ rest ∨
        LumpHarmless notResident (front ++ segments slash rest) rest front.length := by
  have htake := take_splitPath_absolute hsegments
  by_cases hfull : front.length = 7
  · have hlump : LumpHarmless notResident (front ++ segments slash rest) rest front.length ↔
        OfAnother (front ++ segments slash rest) ∨ (notResident = true →
          isAppDataPathPrefix (front ++ segments slash rest) = true → SingleSlashes rest) := by
      rw [hfull]
      rfl
    rw [hlump, or_iff_right_of_imp fun h => .inr fun _ _ => singleSlashes_of_alone h,
      splitPath_absolute hsegments, ← hfull, List.take_left, List.drop_left,
      readNames_seven hfull _ _ (segments slash rest), firstLine_segments]
  · by_cases halone : slash ∉ rest ∧ newline ∉ rest
    · have hcomponent : component (firstLine rest) = segments slash rest := by
        rw [firstLine_eq_self halone.2, component_eq_segments halone.1]
      have hlen : (front ++ segments slash rest).length ≤ 7 := by
        have := length_component (firstLine rest)
        rw [hcomponent] at this
        rw [List.length_append]
        omega
      rw [hcomponent, splitPath_eq_segments (by rw [count_absolute slash hsegments]; exact hlen),
        segments_absolute slash _ hsegments]
      exact iff_of_true rfl (.inl halone)
    · rw [or_iff_right halone]
      by_cases hsix : front.length = 6
      · rw [readNames_six hsix halone htake, hsix]
        rfl
      · have hline := length_component (firstLine rest)
        have hlen := congrArg List.length htake
        rw [List.length_take, List.length_take] at hlen
        rw [← lumpHarmless_iff hne (by omega), readNames_eq_iff (by
          rw [List.length_append]
          omega), barredNames_congr htake]
        rw [show (splitPath (absolute slash (front ++ segments slash rest))).length ≤ 6 ↔
          (front ++ segments slash rest).length ≤ 6 by omega]

/-- A path of seven slashes and more, with one of them in front of `storage`. -/
theorem readAlike_cut (notResident : Bool) {t front rest : Bytes} (ht : t.head? ≠ some slash)
    (hstorage : (segments slash (slash :: t)).head? = some (bytes "storage"))
    (hcut : cutAt slash 7 (slash :: t) = some (front, rest)) :
    reading notResident (slash :: t) =
        reading notResident (absolute slash (segments slash (slash :: t))) ↔
      RestHarmless notResident front rest := by
  have hsplit := splitPath_cut hcut
  obtain ⟨hpath, hcount⟩ := of_cutAt slash hcut
  have hnames : segments slash (slash :: t) = segments slash front ++ segments slash rest := by
    rw [hpath, segments_append_sep]
  -- the first name is in front of the eighth slash, and no more than seven are
  obtain ⟨t', rfl⟩ : ∃ t', front = slash :: t' := by
    cases front with
    | nil => cases hcount
    | cons c t' => exact ⟨t', by rw [List.cons_append] at hpath; rw [(List.cons.inj hpath).1]⟩
  have hne : segments slash (slash :: t') ≠ [] := by
    cases t' with
    | nil => cases hcount
    | cons c t' =>
      rw [segments_sep_cons]
      refine segments_ne_nil slash fun hc => ht ?_
      rw [List.cons_append, List.cons_append] at hpath
      rw [(List.cons.inj hpath).2, hc]
      rfl
  have hseven : (segments slash (slash :: t')).length ≤ 7 := by
    rw [segments_sep_cons]
    rw [List.count_cons_self] at hcount
    exact Nat.le_trans (length_segmentsFrom slash [] t') (by omega)
  have hhead : ∀ later, (segments slash (slash :: t') ++ later).head? = some (bytes "storage") := by
    intro later
    rw [List.head?_append_of_ne_nil _ hne]
    rwa [hnames, List.head?_append_of_ne_nil _ hne] at hstorage
  rw [hnames]
  have hsegments : ∀ w ∈ segments slash (slash :: t') ++ segments slash rest, IsSegment slash w :=
    hnames ▸ isSegment_segments (slash :: t)
  rw [reading_eq_readNames ((inside_iff ht).mpr hstorage) (hsplit ▸ hhead _),
    reading_eq_readNames ((inside_absolute hsegments).mpr (hhead _)) (by
      rw [splitPath_absolute hsegments, List.take_append, List.take_of_length_le hseven,
        List.append_assoc]
      exact hhead _), hsplit]
  exact readNames_cut hne hseven hsegments

/-- An absolute path is read as its collapsed form where one slash stands in front of `storage`,
if that comes first, and the others do no harm. -/
theorem readAlike_iff {notResident : Bool} {path : Bytes} (hhead : path.head? = some slash) :
    ReadAlike notResident path ↔
      ((segments slash path).head? = some (bytes "storage") → ¬ [slash, slash] <+: path ∧
        ∀ cut ∈ cutAt slash 7 (adjustPath path), RestHarmless notResident cut.1 cut.2) := by
  by_cases hstorage : (segments slash path).head? = some (bytes "storage")
  · have hne : segments slash path ≠ [] := fun hnil => by simp [hnil] at hstorage
    refine Iff.trans ?_ ⟨fun h _ => h, fun h => h hstorage⟩
    by_cases hdouble : [slash, slash] <+: path
    · obtain ⟨t, rfl⟩ := hdouble
      refine iff_of_false (not_readAlike_of_double ?_) fun h => h.1 ⟨t, rfl⟩
      rwa [List.cons_append, List.cons_append, List.nil_append, segments_sep_cons,
        segments_sep_cons] at hstorage
    · rw [and_iff_right hdouble]
      cases hcut : cutAt slash 7 (adjustPath path) with
      | none =>
        exact iff_of_true (readAlike_of_few hhead (count_le_of_cutAt slash hcut) hdouble hne)
          fun _ h => by cases h
      | some cut =>
        obtain ⟨t, ht, hadjust⟩ := adjustPath_single hhead hdouble hne
        rw [← segments_adjustPath, hadjust] at hstorage
        rw [hadjust] at hcut
        have hread := readAlike_cut notResident ht hstorage hcut
        unfold ReadAlike
        rw [adjustPath_collapse hhead hne, ← segments_adjustPath path, hadjust, hread]
        exact ⟨fun h _ hmem => by cases hmem; exact h, fun h => h cut rfl⟩
  · refine iff_of_true ?_ fun h => absurd h hstorage
    have hout : ∀ spelling, segments slash spelling = segments slash path →
        reading notResident (adjustPath spelling) = .outside := fun spelling hsame =>
      reading_eq_outside.mpr fun hin => hstorage (by
        rw [← hsame, ← segments_adjustPath]
        exact head?_of_inside hin)
    exact (hout path rfl).trans (hout _ (segments_collapse slash path)).symm

/-- **Repeated slashes change no verdict, and none of a protected path, exactly where they do no
harm**: where there is one slash in front of `storage`, and what stands in front of the eighth
slash or behind it is read with its redundant slashes as it is without them. -/
theorem ignoresSlashes_iff (notResident : Bool) (path : Bytes) (hnul : 0 ∉ path) :
    IgnoresSlashes notResident path ↔ SlashesHarmless notResident path := by
  rw [ignoresSlashes_iff_readAlike hnul]
  unfold SlashesHarmless
  by_cases hhead : path.head? = some slash
  · rw [readAlike_iff hhead, and_iff_left fun _ => hhead, and_iff_right fun h => absurd hhead h]
    exact ⟨fun h _ => h, fun h => h hhead⟩
  · have hout : ReadAlike notResident path :=
      (reading_eq_outside.mpr (not_inside_relative hhead)).trans (reading_eq_outside.mpr
        (not_inside_relative (by rwa [head?_collapse]))).symm
    rw [and_iff_right hout, and_iff_left fun h => absurd h hhead]
    exact ⟨fun h _ happ => hhead (h happ), fun h happ => absurd happ (h hhead)⟩

/-- Repeated slashes on both sides of the eighth, outside of `Users` and with few names. -/
theorem ignoresSlashes_media :
    IgnoresSlashes true (bytes "/storage/media///Photo///a/b") :=
  (ignoresSlashes_iff true _ (by decide)).mpr (by decide)

/-- With its first slash doubled `appdata` itself may be set. -/
theorem not_ignoresSlashes :
    0 ∉ bytes "//storage/Users/currentUser/appdata" ∧
      ¬ IgnoresSlashes true (bytes "//storage/Users/currentUser/appdata") := by
  refine ⟨by decide, fun h => ?_⟩
  have := h.same noProfiles emptyMap 100 READ_MODE .UNKNOWN [] 0
  revert this
  decide

end SandboxManager.PathRule
