import SandboxManager.PlainPath
import SandboxManager.Share.ShareFileInfo

/-! Where a composed path lies.

`PathCompose` takes plain paths only, and puts the bundle's name behind the second name of the
directory, `base` counting as a second name under `el2` (`pathCompose_eq`). So what it composes is
confined to the bundle. The two spellings of a `base` directory compose to one path unless the
longer spelling has one name too many (`pathCompose_confined_iff`). -/
namespace SandboxManager.Share
open Library Policy

/-! ### Normal paths -/

section
variable {names init : List Bytes} {path : Bytes}

theorem mem_foldl_normalStep {w : Bytes} (h : w ∈ names.foldl normalStep init) :
    w ∈ init ∨ w ∈ names := by
  induction names generalizing init with
  | nil => exact Or.inl h
  | cons name rest ih =>
    rcases ih h with hw | hw
    · unfold normalStep at hw
      split at hw
      · exact Or.inl hw
      · split at hw
        · exact Or.inl (List.mem_of_mem_dropLast hw)
        · rcases List.mem_append.mp hw with hw | hw
          · exact Or.inl hw
          · exact Or.inr (List.mem_singleton.mp hw ▸ List.mem_cons_self ..)
    · exact Or.inr (List.mem_cons_of_mem name hw)

theorem length_normalStep_le (init : List Bytes) (name : Bytes) :
    (normalStep init name).length ≤ init.length + 1 ∧
      (init.length + 1 ≤ (normalStep init name).length → name ≠ bytes "." ∧ name ≠ bytes "..") := by
  unfold normalStep
  by_cases hdot : name = bytes "."
  · rw [if_pos hdot]
    exact ⟨by omega, fun h => by omega⟩
  · rw [if_neg hdot]
    by_cases hdots : name = bytes ".."
    · rw [if_pos hdots, List.length_dropLast]
      exact ⟨by omega, fun h => by omega⟩
    · rw [if_neg hdots]
      exact ⟨by simp, fun _ => ⟨hdot, hdots⟩⟩

/-- Every name must be kept for the path to stay as long as it is. -/
theorem length_foldl_normalStep_le :
    (names.foldl normalStep init).length ≤ init.length + names.length ∧
      (init.length + names.length ≤ (names.foldl normalStep init).length →
        ∀ w ∈ names, w ≠ bytes "." ∧ w ≠ bytes "..") := by
  induction names generalizing init with
  | nil => simp
  | cons name rest ih =>
    have hstep := length_normalStep_le init name
    have hrest := @ih (normalStep init name)
    rw [List.foldl_cons, List.length_cons]
    refine ⟨by omega, fun h w hw => ?_⟩
    rcases List.mem_cons.mp hw with rfl | hw
    · exact hstep.2 (by omega)
    · exact hrest.2 (by omega) w hw

theorem foldl_normalStep_of_plain (h : ∀ w ∈ names, PlainName w) :
    names.foldl normalStep init = init ++ names := by
  induction names generalizing init with
  | nil => simp
  | cons name rest ih =>
    have hname := h name (List.mem_cons_self ..)
    have hrest := fun w hw => h w (List.mem_cons_of_mem name hw)
    rw [List.foldl_cons, ih hrest, normalStep, if_neg hname.2.1, if_neg hname.2.2,
      List.append_assoc, List.singleton_append]

theorem isSegment_of_mem_normal {w : Bytes} (hw : w ∈ (segments slash path).foldl normalStep []) :
    IsSegment slash w := by
  rcases mem_foldl_normalStep hw with hw | hw
  · exact absurd hw List.not_mem_nil
  · exact isSegment_of_mem slash hw

/-- A path that is its own normal names is plain. -/
theorem plainPath_of_eq_normal (hne : path ≠ [])
    (h : path = absolute slash ((segments slash path).foldl normalStep [])) : PlainPath path := by
  have hseg : ∀ w ∈ (segments slash path).foldl normalStep [], IsSegment slash w :=
    fun w => isSegment_of_mem_normal
  have hnames : segments slash path = (segments slash path).foldl normalStep [] := by
    conv_lhs => rw [h]
    exact segments_absolute slash _ hseg
  have hplain := length_foldl_normalStep_le.2 (by
    rw [← hnames, List.length_nil, Nat.zero_add] : ([] : List Bytes).length +
      (segments slash path).length ≤ ((segments slash path).foldl normalStep []).length)
  rw [← hnames] at h hseg
  have hcomponents : components path = segments slash path := by
    conv_lhs => rw [h]
    exact components_absolute fun w hw => (hseg w hw).2
  refine ⟨?_, fun w hw => ?_⟩
  · rw [h]
    cases hsegments : segments slash path with
    | nil => exact absurd (by rw [h, hsegments]; rfl) hne
    | cons w rest => rfl
  · rw [hcomponents] at hw
    exact ⟨(hseg w hw).1, hplain w hw⟩

theorem lexicallyNormal_of_plain (h : PlainPath path) : lexicallyNormal path = path := by
  have hnames := h.segments_eq
  have hlast : ∀ w, (components path).getLast? = some w → w ≠ bytes "." ∧ w ≠ bytes ".." :=
    fun w hw => (h.plain w (List.mem_of_getLast? hw)).2
  have hne := components_ne_nil h.absolute
  simp only [lexicallyNormal, hnames, foldl_normalStep_of_plain h.plain, List.nil_append]
  rw [if_neg hne, if_neg, h.eq_absolute]
  intro hbad
  rcases hbad with hbad | hbad | hbad
  · exact h.getLast?_ne hbad
  · exact (hlast _ hbad).1 rfl
  · exact (hlast _ hbad).2 rfl

/-- A normal path keeps a slash at its end, if it keeps anything but its names. -/
theorem lexicallyNormal_cases (path : Bytes) :
    lexicallyNormal path = [slash] ∨
      lexicallyNormal path = absolute slash ((segments slash path).foldl normalStep []) ++ [slash] ∨
      lexicallyNormal path = absolute slash ((segments slash path).foldl normalStep []) := by
  simp only [lexicallyNormal]
  split
  · exact Or.inl rfl
  · split
    · exact Or.inr (Or.inl rfl)
    · exact Or.inr (Or.inr rfl)

/-- **Secure paths are plain.** -/
theorem isPathSecure_iff : isPathSecure path = true ↔ PlainPath path ∧ 0 ∉ path := by
  unfold isPathSecure
  by_cases hends : path.head? ≠ some slash ∨ path.getLast? = some slash
  · rw [if_pos hends]
    refine iff_of_false Bool.false_ne_true fun h => ?_
    exact hends.elim (fun hhead => hhead h.1.absolute) h.1.getLast?_ne
  rw [if_neg hends]
  rw [not_or, not_not] at hends
  by_cases hnul : 0 ∈ path
  · rw [if_pos hnul]
    exact iff_of_false Bool.false_ne_true fun h => h.2 hnul
  rw [if_neg hnul, and_iff_left hnul]
  by_cases hdouble : [slash, slash].isPrefixOf path = true
  · rw [if_pos hdouble]
    refine iff_of_false Bool.false_ne_true fun h => ?_
    have hnil := (nil_mem_dropLast_pieces slash path).mpr
      (List.isPrefixOf_iff_prefix.mp hdouble).isInfix
    exact (h.plain [] (List.mem_of_mem_dropLast hnil)).1 rfl
  rw [if_neg hdouble, decide_eq_true_iff]
  refine ⟨fun h => ?_, lexicallyNormal_of_plain⟩
  have hne : path ≠ [] := fun h0 => by simp [h0] at hends
  rcases lexicallyNormal_cases path with hcase | hcase | hcase
  · rw [← h, hcase] at hends
    exact absurd rfl hends.2
  · rw [← h, hcase] at hends
    exact absurd (List.getLast?_concat ..) hends.2
  · exact plainPath_of_eq_normal hne (h.symm.trans hcase)

end

/-! ### Composing -/

def appdataNames : List Bytes := ["storage", "Users", "currentUser", "appdata"].map bytes

/-- A directory's names, `base` spelled out. -/
def elNames (path : Bytes) : List Bytes := components (normalizeBasePath path)

/-- The paths that can be composed. -/
structure Composable (path : Bytes) : Prop where
  plain : PlainPath path
  noNul : 0 ∉ path
  parts : 2 ≤ (components path).length ∧ (components path).length ≤ MAX_PARTS_FORMAT
  el : ∃ el ∈ VALID_EL_NUMBERS, (elNames path).head? = some el

section
variable {path name : Bytes}

omit path in
theorem base_append (rest : Bytes) : bytes "/base/" ++ rest = bytes "/base" ++ slash :: rest := by
  rw [show bytes "/base/" = bytes "/base" ++ [slash] by decide, List.append_assoc,
    List.singleton_append]

theorem base_prefix_iff (h : PlainPath path) (hparts : 2 ≤ (components path).length) :
    (bytes "/base/").isPrefixOf path = true ↔ (components path).head? = some (bytes "base") := by
  rw [List.isPrefixOf_iff_prefix]
  have hpath := h.eq_absolute
  constructor
  · intro hpfx
    obtain ⟨rest, rfl⟩ := hpfx
    have hbase : components (bytes "/base") = [bytes "base"] := by decide
    rw [base_append, components_append (Or.inr rfl), hbase]
    rfl
  · intro hhead
    obtain ⟨tail, htail⟩ := List.head?_eq_some_iff.mp hhead
    rw [htail] at hpath hparts
    have htail : tail ≠ [] := fun h0 => by simp [h0] at hparts
    obtain ⟨sub, rest, rfl⟩ := List.exists_cons_of_ne_nil htail
    have hstart : absolute slash (bytes "base" :: sub :: rest) =
        bytes "/base/" ++ (sub ++ absolute slash rest) := by
      rw [show bytes "/base/" = slash :: (bytes "base" ++ [slash]) by decide]
      simp
    exact ⟨_, hstart.symm.trans hpath⟩

theorem elNames_base (h : PlainPath path) (hbase : (bytes "/base/").isPrefixOf path = true) :
    elNames path = DEFAULT_EL :: components path := by
  have hel : components (bytes "/el2") = [DEFAULT_EL] := by decide
  rw [elNames, normalizeBasePath, if_pos hbase, components_append (Or.inr h.absolute), hel,
    List.singleton_append]

theorem elNames_el (hbase : ¬ (bytes "/base/").isPrefixOf path = true) :
    elNames path = components path := by
  rw [elNames, normalizeBasePath, if_neg hbase]

theorem fullPathStart_eq : FULL_PATH_START = absolute slash appdataNames ++ [slash] := by decide

/-- **What is composed**: the bundle's name stands behind the second of the spelled-out names. -/
theorem pathCompose_eq (h : Composable path) (hname : name ≠ []) :
    pathCompose path name =
      absolute slash (appdataNames ++ (elNames path).take 2 ++ name :: (elNames path).drop 2) := by
  have hsecure := isPathSecure_iff.mpr ⟨h.plain, h.noNul⟩
  have hpath : path ≠ [] := fun h0 => by simpa [h0] using h.plain.absolute
  have hparts := h.parts
  obtain ⟨el, hel, hhead⟩ := h.el
  have hbase := base_prefix_iff h.plain hparts.1
  have hnames : elNames path = if (bytes "/base/").isPrefixOf path = true then
      DEFAULT_EL :: components path else components path := by
    split
    case isTrue hb => exact elNames_base h.plain hb
    case isFalse hb => exact elNames_el hb
  unfold pathCompose
  rw [if_neg (by simp [hpath, hname]), hsecure, h.plain.segments_eq, if_neg (by decide), hnames]
  rw [hnames] at hhead
  rcases hcomponents : components path with _ | ⟨first, _ | ⟨second, rest⟩⟩
  · simp [hcomponents] at hparts
  · simp [hcomponents] at hparts
  · rw [hcomponents] at hparts hbase hhead
    have hmax : ¬ 2 + rest.length > MAX_PARTS_FORMAT := by
      simp only [List.length_cons] at hparts
      omega
    simp only [if_neg hmax]
    by_cases hb : (bytes "/base/").isPrefixOf path = true
    · have hfirst : first = bytes "base" := by simpa using hbase.mp hb
      have hno : ¬ first ∈ VALID_EL_NUMBERS := by
        rw [hfirst]
        decide
      rw [if_neg hno, if_pos hfirst, if_pos hb, fullPathStart_eq]
      simp [absolute_append]
    · rw [if_neg hb] at hhead
      have hfirst : first = el := by simpa using hhead
      rw [if_pos (hfirst ▸ hel), if_neg hb, fullPathStart_eq]
      simp [absolute_append]

theorem pathCompose_eq_nil_iff (hname : name ≠ []) :
    pathCompose path name = [] ↔ ¬ Composable path := by
  refine ⟨fun hnil h => ?_, fun h => ?_⟩
  · rw [pathCompose_eq h hname] at hnil
    simp [appdataNames] at hnil
  by_contra hne
  unfold pathCompose at hne
  split at hne
  · exact hne rfl
  split at hne
  · exact hne rfl
  case isFalse hsecure =>
    have hplain := isPathSecure_iff.mp (by simpa using hsecure)
    rw [hplain.1.segments_eq] at hne
    rcases hcomponents : components path with _ | ⟨first, _ | ⟨second, rest⟩⟩
    · simp [hcomponents] at hne
    · simp [hcomponents] at hne
    · rw [hcomponents] at hne
      simp only at hne
      split at hne
      · exact hne rfl
      case isFalse hmax =>
        refine h ⟨hplain.1, hplain.2, by rw [hcomponents]; simp; omega, ?_⟩
        have hbase := base_prefix_iff hplain.1 (by rw [hcomponents]; simp)
        split at hne
        case isTrue hel =>
          refine ⟨first, hel, ?_⟩
          rw [elNames_el, hcomponents, List.head?_cons]
          rw [hbase, hcomponents, List.head?_cons, Option.some.injEq]
          intro hfirst
          rw [hfirst] at hel
          exact absurd hel (by decide)
        case isFalse hel =>
          split at hne
          case isTrue hfirst =>
            refine ⟨DEFAULT_EL, by decide, ?_⟩
            rw [elNames_base hplain.1, List.head?_cons]
            rw [hbase, hcomponents, hfirst, List.head?_cons]
          case isFalse => exact absurd rfl hne

/-! ### The two spellings -/

variable {p q : Bytes}

/-- A `base` path with as many names as a path may have, and its spelling under `el2`. -/
def LongSpelling (p q : Bytes) : Prop :=
  isPathSecure p = true ∧ (bytes "/base/").isPrefixOf p = true ∧
    (components p).length = MAX_PARTS_FORMAT ∧ q = bytes "/el2" ++ p

theorem not_base_el2 (p : Bytes) : ¬ (bytes "/base/").isPrefixOf (bytes "/el2" ++ p) = true := by
  rw [show bytes "/base/" = slash :: 98 :: bytes "ase/" by decide,
    show bytes "/el2" = slash :: 101 :: bytes "l2" by decide]
  simp [List.isPrefixOf]

theorem head?_of_base (hbase : (bytes "/base/").isPrefixOf p = true) : p.head? = some slash := by
  obtain ⟨rest, rfl⟩ := List.isPrefixOf_iff_prefix.mp hbase
  rfl

theorem components_el2 (hbase : (bytes "/base/").isPrefixOf p = true) :
    components (bytes "/el2" ++ p) = DEFAULT_EL :: components p := by
  have hel : components (bytes "/el2") = [DEFAULT_EL] := by decide
  rw [components_append (Or.inr (head?_of_base hbase)), hel, List.singleton_append]

theorem length_components_base (hbase : (bytes "/base/").isPrefixOf p = true) :
    2 ≤ (components p).length := by
  obtain ⟨rest, rfl⟩ := List.isPrefixOf_iff_prefix.mp hbase
  have hlast := List.length_pos_iff.mpr
    (components_ne_nil (rfl : (slash :: rest).head? = some slash))
  have hfirst : (components (bytes "/base")).length = 1 := by decide
  rw [base_append, components_append (Or.inr rfl), List.length_append]
  omega

/-- The longer spelling can be composed if the shorter one can and has a name to spare. -/
theorem composable_el2_iff (hbase : (bytes "/base/").isPrefixOf p = true) :
    Composable (bytes "/el2" ++ p) ↔
      Composable p ∧ (components p).length < MAX_PARTS_FORMAT := by
  have hcomponents := components_el2 hbase
  have hnul : 0 ∈ bytes "/el2" ++ p ↔ 0 ∈ p := by
    rw [List.mem_append]
    exact or_iff_right (by decide)
  have hel : PlainName DEFAULT_EL := by decide
  constructor
  · intro h
    have hparts := h.parts
    rw [hcomponents, List.length_cons] at hparts
    have hplain : PlainPath p := ⟨head?_of_base hbase, fun w hw =>
      h.plain.plain w (hcomponents ▸ List.mem_cons_of_mem _ hw)⟩
    refine ⟨⟨hplain, mt hnul.mpr h.noNul, ⟨length_components_base hbase, by omega⟩,
      DEFAULT_EL, by decide, ?_⟩, by omega⟩
    rw [elNames_base hplain hbase]
    rfl
  · intro h
    refine ⟨⟨rfl, fun w hw => ?_⟩, mt hnul.mp h.1.noNul, ?_, DEFAULT_EL, by decide, ?_⟩
    · rw [hcomponents] at hw
      rcases List.mem_cons.mp hw with rfl | hw
      · exact hel
      · exact h.1.plain.plain w hw
    · have := h.1.parts
      rw [hcomponents, List.length_cons]
      omega
    · rw [elNames_el (not_base_el2 p), hcomponents]
      rfl

/-- Two spellings of one directory. -/
theorem spelling_cases (h : normalizeBasePath p = normalizeBasePath q) :
    p = q ∨ ((bytes "/base/").isPrefixOf p = true ∧ q = bytes "/el2" ++ p) ∨
      ((bytes "/base/").isPrefixOf q = true ∧ p = bytes "/el2" ++ q) := by
  unfold normalizeBasePath at h
  split at h
  case isTrue hp =>
    split at h
    case isTrue => exact Or.inl (List.append_cancel_left h)
    case isFalse => exact Or.inr (Or.inl ⟨hp, h.symm⟩)
  case isFalse =>
    split at h
    case isTrue hq => exact Or.inr (Or.inr ⟨hq, h⟩)
    case isFalse => exact Or.inl h

theorem composable_iff_of_spelling (h : normalizeBasePath p = normalizeBasePath q)
    (hpq : ¬ LongSpelling p q) (hqp : ¬ LongSpelling q p) : Composable p ↔ Composable q := by
  have hlong : ∀ {p q : Bytes}, (bytes "/base/").isPrefixOf p = true → q = bytes "/el2" ++ p →
      ¬ LongSpelling p q → (Composable p ↔ Composable q) := by
    intro p q hbase hq hno
    rw [hq, composable_el2_iff hbase]
    refine ⟨fun hp => ⟨hp, lt_of_le_of_ne hp.parts.2 fun hmax => ?_⟩, And.left⟩
    exact hno ⟨isPathSecure_iff.mpr ⟨hp.plain, hp.noNul⟩, hbase, hmax, hq⟩
  rcases spelling_cases h with rfl | ⟨hp, hq⟩ | ⟨hq, hp⟩
  · exact Iff.rfl
  · exact hlong hp hq hpq
  · exact (hlong hq hp hqp).symm

/-- A path that lies in the directory of a bundle. -/
structure ConfinedTo (name composed : Bytes) : Prop where
  el : ∃ el ∈ VALID_EL_NUMBERS, FULL_PATH_START ++ el ++ [slash] <+: composed
  bundle : (components composed)[6]? = some name
  plain : PlainPath composed

theorem mem_elNames_plain (h : Composable p) :
    ∀ w ∈ elNames p, PlainName w ∧ slash ∉ w := by
  have hel : PlainName DEFAULT_EL ∧ slash ∉ DEFAULT_EL := by decide
  have hplain : ∀ w ∈ components p, PlainName w ∧ slash ∉ w :=
    fun w hw => ⟨h.plain.plain w hw, notMem_of_mem_pieces slash hw⟩
  by_cases hbase : (bytes "/base/").isPrefixOf p = true
  · rw [elNames_base h.plain hbase]
    exact List.forall_mem_cons.mpr ⟨hel, hplain⟩
  · rw [elNames_el hbase]
    exact hplain

theorem exists_elNames (h : Composable p) :
    ∃ el sub rest, el ∈ VALID_EL_NUMBERS ∧ elNames p = el :: sub :: rest := by
  obtain ⟨el, hel, hhead⟩ := h.el
  have hlength : 2 ≤ (elNames p).length := by
    by_cases hbase : (bytes "/base/").isPrefixOf p = true
    · rw [elNames_base h.plain hbase, List.length_cons]
      exact Nat.le_succ_of_le h.parts.1
    · rw [elNames_el hbase]
      exact h.parts.1
  rcases hnames : elNames p with _ | ⟨first, _ | ⟨second, rest⟩⟩
  · simp [hnames] at hlength
  · simp [hnames] at hlength
  · have hfirst : first = el := by simpa [hnames] using hhead
    exact ⟨first, second, rest, hfirst ▸ hel, rfl⟩

theorem plain_appdataNames : ∀ w ∈ appdataNames, PlainName w ∧ slash ∉ w := by decide

theorem pathCompose_confined (hname : PlainName name ∧ slash ∉ name)
    (hne : pathCompose p name ≠ []) : ConfinedTo name (pathCompose p name) := by
  have h : Composable p := by
    by_contra hno
    exact hne ((pathCompose_eq_nil_iff hname.1.1).mpr hno)
  obtain ⟨el, sub, rest, hel, hnames⟩ := exists_elNames h
  have hplain := mem_elNames_plain h
  have hcomposed : pathCompose p name = absolute slash (appdataNames ++ el :: sub :: name :: rest) := by
    rw [pathCompose_eq h hname.1.1, hnames]
    simp
  rw [hnames] at hplain
  have hall : ∀ w ∈ appdataNames ++ el :: sub :: name :: rest, PlainName w ∧ slash ∉ w := by
    intro w hw
    simp only [List.mem_append, List.mem_cons] at hw hplain
    rcases hw with hw | rfl | rfl | rfl | hw
    · exact plain_appdataNames w hw
    · exact hplain _ (Or.inl rfl)
    · exact hplain _ (Or.inr (Or.inl rfl))
    · exact hname
    · exact hplain w (Or.inr (Or.inr hw))
  rw [hcomposed]
  refine ⟨⟨el, hel, ?_⟩, ?_, plainPath_absolute (by simp [appdataNames]) hall⟩
  · rw [fullPathStart_eq, absolute_append, absolute_cons, absolute_cons]
    exact ⟨sub ++ absolute slash (name :: rest), by simp⟩
  · rw [components_absolute fun w hw => (hall w hw).2]
    rfl

/-- **Composition is confined, and respects the two spellings of `base`, except where the longer
one has a name too many.** -/
theorem pathCompose_confined_iff (p q name : Bytes) (hname : PlainName name ∧ slash ∉ name) :
    ((pathCompose p name ≠ [] → ConfinedTo name (pathCompose p name)) ∧
        (normalizeBasePath p = normalizeBasePath q → pathCompose p name = pathCompose q name)) ↔
      ¬ (LongSpelling p q ∨ LongSpelling q p) := by
  have hdiffers : ∀ {p q : Bytes}, LongSpelling p q →
      normalizeBasePath p = normalizeBasePath q ∧ pathCompose p name ≠ [] ∧
        pathCompose q name = [] := by
    intro p q hlong
    obtain ⟨hsecure, hbase, hlength, rfl⟩ := hlong
    have hplain := isPathSecure_iff.mp hsecure
    have hp : Composable p := ⟨hplain.1, hplain.2, ⟨length_components_base hbase, hlength.le⟩,
      DEFAULT_EL, by decide, by rw [elNames_base hplain.1 hbase]; rfl⟩
    refine ⟨?_, mt (pathCompose_eq_nil_iff hname.1.1).mp (not_not.mpr hp),
      (pathCompose_eq_nil_iff hname.1.1).mpr fun hq => ?_⟩
    · rw [normalizeBasePath, if_pos hbase, normalizeBasePath, if_neg (not_base_el2 p)]
    · exact absurd ((composable_el2_iff hbase).mp hq).2 (by rw [hlength]; exact lt_irrefl _)
  constructor
  · intro h hlong
    rcases hlong with hlong | hlong
    · obtain ⟨hsame, hp, hq⟩ := hdiffers hlong
      exact hp ((h.2 hsame).trans hq)
    · obtain ⟨hsame, hq, hp⟩ := hdiffers hlong
      exact hq ((h.2 hsame.symm).symm.trans hp)
  · intro h
    rw [not_or] at h
    refine ⟨pathCompose_confined hname, fun hsame => ?_⟩
    have hiff := composable_iff_of_spelling hsame h.1 h.2
    by_cases hp : Composable p
    · rw [pathCompose_eq hp hname.1.1, pathCompose_eq (hiff.mp hp) hname.1.1, elNames, elNames, hsame]
    · rw [(pathCompose_eq_nil_iff hname.1.1).mpr hp,
        (pathCompose_eq_nil_iff hname.1.1).mpr (mt hiff.mpr hp)]

end

/-- A directory with ten names composes in one spelling only. -/
theorem pathCompose_not_confined :
    ¬ ∀ p q name : Bytes, PlainName name ∧ slash ∉ name →
      (pathCompose p name ≠ [] → ConfinedTo name (pathCompose p name)) ∧
        (normalizeBasePath p = normalizeBasePath q → pathCompose p name = pathCompose q name) := by
  intro h
  have hequal := (h (bytes "/base/1/2/3/4/5/6/7/8/9") (bytes "/el2/base/1/2/3/4/5/6/7/8/9")
    (bytes "app") (by decide)).2 (by decide +kernel)
  exact absurd hequal (by decide +kernel)

theorem pathCompose_confined_short :
    (pathCompose (bytes "/base/files") (bytes "app") ≠ [] →
        ConfinedTo (bytes "app") (pathCompose (bytes "/base/files") (bytes "app"))) ∧
      (normalizeBasePath (bytes "/base/files") = normalizeBasePath (bytes "/el2/base/files") →
        pathCompose (bytes "/base/files") (bytes "app") =
          pathCompose (bytes "/el2/base/files") (bytes "app")) :=
  (pathCompose_confined_iff (bytes "/base/files") (bytes "/el2/base/files") (bytes "app")
    (by decide)).mpr fun h => h.elim (fun hlong => absurd hlong.2.2.1 (by decide +kernel))
      fun hlong => absurd hlong.2.1 (by decide +kernel)

example : pathCompose (bytes "/base/files") (bytes "app") =
    bytes "/storage/Users/currentUser/appdata/el2/base/app/files" := by decide +kernel

end SandboxManager.Share
