import SandboxManager.Claw.MountTable

/-! What the code learns from `/proc/self/mountinfo`.

A line whose mount point needs no escape and has no blank of any kind reads back as it was
written (`Mount.Plain`, `words_line`). Where all lines do, and no mount point is behind a link,
`GetMountReadOnly` finds the flag of the mount that the path belongs to
(`getMountReadOnly_eq`): lengths of paths order the covering mounts as the lengths of places
do, and on a tie the later line wins. So then a remount keeps what is read-only
(`remountPolicyMount_keeps`). -/
namespace SandboxManager.Claw
open Library LongestMatch

/-! ### Paths of places -/

namespace Place
variable {place dir : Place}

theorem isSegment_of_mem_val {name : Bytes} (h : name ∈ place.map Subtype.val) :
    IsSegment slash name := by
  obtain ⟨component, _, rfl⟩ := List.mem_map.mp h
  exact component.2

theorem segments_path (place : Place) : segments slash place.path = place.map Subtype.val := by
  rw [path]
  split
  case isTrue h => rw [h]; rfl
  case isFalse => exact segments_absolute slash _ fun name => isSegment_of_mem_val

theorem path_ne_nil (place : Place) : place.path ≠ [] := by
  rw [path]
  cases place with
  | nil => simp
  | cons component rest => simp

theorem path_injective (h : place.path = dir.path) : place = dir := by
  have hmap := congrArg (segments slash) h
  rw [segments_path, segments_path] at hmap
  exact Subtype.val_injective.list_map hmap

theorem path_append {rest : Place} (hdir : dir ≠ []) (hrest : rest ≠ []) :
    Place.path (dir ++ rest) = dir.path ++ Place.path rest := by
  simp [path, hdir, hrest, absolute_append]

theorem one_le_length_path (place : Place) : 1 ≤ place.path.length :=
  List.length_pos_iff.mpr place.path_ne_nil

theorem one_lt_length_path (h : place ≠ []) : 1 < place.path.length := by
  cases place with
  | nil => exact absurd rfl h
  | cons component rest =>
    have hname := List.length_pos_iff.mpr component.2.1
    simp [path]
    omega

/-- A longer place has a longer path. -/
theorem length_path_lt {rest : Place} (hrest : rest ≠ []) :
    dir.path.length < (Place.path (dir ++ rest)).length := by
  by_cases hdir : dir = []
  · rw [hdir, List.nil_append]
    exact one_lt_length_path hrest
  · have := one_le_length_path rest
    rw [path_append hdir hrest, List.length_append]
    omega

/-- Among the places above one, paths are as long as places are. -/
theorem length_path_le_iff {a b : Place} (ha : a <+: place) (hb : b <+: place) :
    a.path.length ≤ b.path.length ↔ a.length ≤ b.length := by
  rcases Nat.lt_trichotomy a.length b.length with h | h | h
  · obtain ⟨rest, rfl⟩ := List.prefix_of_prefix_length_le ha hb (Nat.le_of_lt h)
    have hrest : rest ≠ [] := fun hnil => by simp [hnil] at h
    have := @length_path_lt a rest hrest
    simp
    omega
  · have heq := (List.prefix_of_prefix_length_le ha hb (Nat.le_of_eq h)).eq_of_length h
    simp [heq]
  · obtain ⟨rest, rfl⟩ := List.prefix_of_prefix_length_le hb ha (Nat.le_of_lt h)
    have hrest : rest ≠ [] := fun hnil => by simp [hnil] at h
    have := @length_path_lt b rest hrest
    constructor
    · intro hle
      omega
    · intro hle
      omega

end Place

/-- What separates containment from a common beginning of names. -/
theorem path_under_iff {place dirPlace : Place} (hdir : dirPlace ≠ []) (hne : place ≠ dirPlace) :
    (dirPlace.path.isPrefixOf place.path &&
        (place.path.drop dirPlace.path.length).head? == some slash) = true ↔ dirPlace <+: place := by
  rw [Bool.and_eq_true, List.isPrefixOf_iff_prefix, beq_iff_eq]
  constructor
  · intro h
    obtain ⟨⟨tail, htail⟩, hhead⟩ := h
    rw [← htail, List.drop_left] at hhead
    obtain ⟨tail', rfl⟩ := List.head?_eq_some_iff.mp hhead
    have hsegments := congrArg (segments slash) htail
    rw [segments_append_sep, Place.segments_path, Place.segments_path] at hsegments
    exact (List.prefix_map_iff_of_injective Subtype.val_injective).mp ⟨_, hsegments⟩
  · intro h
    obtain ⟨rest, rfl⟩ := h
    have hrest : rest ≠ [] := fun hnil => hne (by simp [hnil])
    rw [Place.path_append hdir hrest, List.drop_left]
    refine ⟨List.prefix_append _ _, ?_⟩
    cases rest with
    | nil => exact absurd rfl hrest
    | cons component rest => rfl

theorem isPathUnder_iff {realPath : Bytes → Option Place} {path dir : Bytes}
    {place dirPlace : Place} (hpath : path ≠ []) (hdir : dir ≠ [])
    (hplace : realPath path = some place) (hdirPlace : realPath dir = some dirPlace) :
    isPathUnder realPath path dir = true ↔ dirPlace <+: place := by
  have hreal : getRealPath realPath path = place.path := by simp [getRealPath, hpath, hplace]
  have hrealDir : getRealPath realPath dir = dirPlace.path := by
    simp [getRealPath, hdir, hdirPlace]
  have hroot : dirPlace.path = [slash] ↔ dirPlace = [] :=
    ⟨fun h => Place.path_injective (h.trans (by rfl)), fun h => by rw [h]; rfl⟩
  rw [isPathUnder, hreal, hrealDir]
  simp only [place.path_ne_nil, dirPlace.path_ne_nil, decide_false, Bool.or_self,
    Bool.false_eq_true, if_false]
  by_cases hnil : dirPlace = []
  · rw [if_pos (hroot.mpr hnil), hnil]
    have hhead : place.path.head? = some slash := by
      cases place with
      | nil => rfl
      | cons component rest => rfl
    simp [hhead]
  · rw [if_neg (fun h => hnil (hroot.mp h))]
    by_cases hsame : place = dirPlace
    · simp [hsame]
    · rw [if_neg fun h => hsame (Place.path_injective h)]
      exact path_under_iff hnil hsame

/-! ### Lines -/

/-- The words of the line are the columns as they were written. -/
structure Mount.Plain (mount : Mount) : Prop where
  ahead : ∃ id parent majorMinor root, words mount.ahead = [id, parent, majorMinor, root]
  path : ∀ c ∈ mount.place.path, isspace c = false ∧ c ≠ backslash
  /-- What follows `ro` or `rw` are more options, none of them `ro`, up to a blank. -/
  behind : ∃ options rest, mount.behind = options ++ rest ∧ (∀ c ∈ options, isspace c = false) ∧
    (options = [] ∨ options.head? = some comma) ∧ mountOptionsReadOnly options = false ∧
    (rest = [] ∨ ∃ c rest', rest = c :: rest' ∧ isspace c = true)

theorem words_append_space (a b : Bytes) : words (a ++ space :: b) = words a ++ words b := by
  rw [words, List.map_append, List.map_cons]
  exact segments_append_sep space _ _

theorem words_append_blank (a : Bytes) {c : UInt8} (b : Bytes) (hc : isspace c = true) :
    words (a ++ c :: b) = words a ++ words b := by
  rw [words, List.map_append, List.map_cons, if_pos hc]
  exact segments_append_sep space _ _

theorem words_word {w : Bytes} (hne : w ≠ []) (hw : ∀ c ∈ w, isspace c = false) : words w = [w] := by
  have hmap : (w.map fun c => if isspace c then space else c) = w := by
    conv => rhs; rw [← List.map_id w]
    exact List.map_congr_left fun c hc => by simp [hw c hc]
  rw [words, hmap]
  refine segments_run space ⟨hne, fun hmem => ?_⟩
  have := hw space hmem
  revert this
  decide

theorem escape_plain {path : Bytes} (h : ∀ c ∈ path, isspace c = false ∧ c ≠ backslash) :
    path.flatMap escape = path := by
  have hone : ∀ c ∈ path, escape c = [c] := by
    intro c hc
    obtain ⟨hspace, hbackslash⟩ := h c hc
    have hblank : c ≠ space ∧ c ≠ 9 ∧ c ≠ 10 := by
      refine ⟨?_, ?_, ?_⟩ <;> rintro rfl <;> revert hspace <;> decide
    simp [escape, hblank, hbackslash]
  calc path.flatMap escape = path.flatMap fun c => [c] := List.flatMap_congr hone
    _ = path := List.flatMap_singleton' path

theorem mountOptionsReadOnly_flag {flag : Bool} {options : Bytes}
    (hhead : options = [] ∨ options.head? = some comma)
    (hoptions : mountOptionsReadOnly options = false) :
    mountOptionsReadOnly ((if flag then bytes "ro" else bytes "rw") ++ options) = flag := by
  have hflag : ∀ more, mountOptionsReadOnly more = false →
      ((segments comma (if flag then bytes "ro" else bytes "rw") ++ segments comma more).any
        (· == bytes "ro")) = flag := by
    intro more hmore
    rw [mountOptionsReadOnly] at hmore
    rw [List.any_append, hmore]
    cases flag with
    | true => rfl
    | false => rfl
  rcases hhead with rfl | hhead
  · have := hflag [] rfl
    simpa [mountOptionsReadOnly] using this
  · obtain ⟨more, rfl⟩ := List.head?_eq_some_iff.mp hhead
    rw [mountOptionsReadOnly, segments_append_sep]
    refine hflag more ?_
    rwa [mountOptionsReadOnly, segments_sep_cons, ← mountOptionsReadOnly] at hoptions

/-- The columns that the code looks at. -/
theorem Mount.Plain.words_line {mount : Mount} (h : mount.Plain) :
    ∃ id parent majorMinor root options more,
      words mount.line = id :: parent :: majorMinor :: root :: mount.place.path :: options :: more ∧
        mountOptionsReadOnly options = mount.readOnly := by
  obtain ⟨id, parent, majorMinor, root, hahead⟩ := h.ahead
  obtain ⟨options, rest, hbehind, hnoblank, hhead, hoptions, hrest⟩ := h.behind
  have hword : words ((if mount.readOnly then bytes "ro" else bytes "rw") ++ options) =
      [(if mount.readOnly then bytes "ro" else bytes "rw") ++ options] := by
    refine words_word ?_ fun c hc => ?_
    · cases mount.readOnly with
      | true => exact List.cons_ne_nil _ _
      | false => exact List.cons_ne_nil _ _
    · have hflag : ∀ flag : Bool, ∀ c ∈ (if flag then bytes "ro" else bytes "rw"),
          isspace c = false := by decide +kernel
      rcases List.mem_append.mp hc with hc | hc
      · exact hflag mount.readOnly c hc
      · exact hnoblank c hc
  have hlast : ∃ more, words ((if mount.readOnly then bytes "ro" else bytes "rw") ++
      mount.behind) = ((if mount.readOnly then bytes "ro" else bytes "rw") ++ options) :: more := by
    rw [hbehind, ← List.append_assoc]
    rcases hrest with rfl | ⟨c, rest', rfl, hc⟩
    · exact ⟨[], by rw [List.append_nil, hword]⟩
    · exact ⟨words rest', by rw [words_append_blank _ _ hc, hword]; rfl⟩
  obtain ⟨more, hmore⟩ := hlast
  refine ⟨id, parent, majorMinor, root, _, more, ?_, mountOptionsReadOnly_flag hhead hoptions⟩
  rw [Mount.line, words_append_space, words_append_space, hahead, escape_plain h.path, hmore,
    words_word mount.place.path_ne_nil fun c hc => (h.path c hc).1]
  rfl

/-! ### The search -/

section
variable {realPath : Bytes → Option Place} {path : Bytes} {place : Place} {mounts : List Mount}

/-- Every line reads back, and no mount point is behind a link. -/
def Readable (realPath : Bytes → Option Place) (mounts : List Mount) : Prop :=
  ∀ m ∈ mounts, m.Plain ∧ realPath m.place.path = some m.place

theorem searchLine_line {mount : Mount} {search : ReadOnlySearch} (hplain : mount.Plain)
    (hreal : realPath mount.place.path = some mount.place) (hpath : path ≠ [])
    (hplace : realPath path = some place) :
    searchLine realPath path search mount.line =
      if mount.place <+: place ∧ search.bestLen ≤ mount.place.path.length then
        ⟨mount.place.path.length, mount.readOnly, true⟩
      else search := by
  obtain ⟨_, _, _, _, _, _, hwords, hreadOnly⟩ := hplain.words_line
  have hunder := isPathUnder_iff hpath mount.place.path_ne_nil hplace hreal
  rw [searchLine, hwords]
  simp only [hreadOnly, Bool.and_eq_true, decide_eq_true_eq, hunder]

/-- The search holds the mount that the path belongs to among those already read. -/
theorem foldl_searchLine (hmounts : Readable realPath mounts) (hpath : path ≠ [])
    (hplace : realPath path = some place) :
    (mounts.map Mount.line).foldl (searchLine realPath path) {} =
      match longest Mount.place place mounts with
      | none => {}
      | some best => ⟨best.place.path.length, best.readOnly, true⟩ := by
  induction mounts using List.reverseRecOn with
  | nil => rfl
  | append_singleton mounts mount ih =>
    have hbefore := ih fun m hm => hmounts m (List.mem_append_left _ hm)
    obtain ⟨hplain, hreal⟩ := hmounts mount (by simp)
    rw [List.map_append, List.foldl_append, hbefore, List.map_singleton, List.foldl_cons,
      List.foldl_nil, searchLine_line hplain hreal hpath hplace, longest_append]
    simp only [longest, longer_none]
    by_cases hcovers : mount.place <+: place
    · cases hbest : longest Mount.place place mounts with
      | none => simp [hcovers]
      | some best =>
        have hlen := Place.length_path_le_iff (applies_of_longest hbest).2 hcovers
        simp only [hcovers, true_and, if_true, hlen, longer_some]
        by_cases hlt : mount.place.length < best.place.length
        · rw [if_pos hlt, if_neg (by omega)]
        · rw [if_neg hlt, if_pos (by omega)]
    · cases hbest : longest Mount.place place mounts with
      | none => simp [hcovers]
      | some best => simp [hcovers]

/-- **Where the table is readable, the flag found is that of the mount the path belongs to.** -/
theorem getMountReadOnly_eq {answers : MountAnswers} {readOnly : Bool}
    (hmounts : Readable answers.realPath mounts) (hpath : path ≠ [])
    (hplace : answers.realPath path = some place)
    (h : getMountReadOnly answers mounts path = .ok readOnly) :
    readOnlyAt mounts place = readOnly := by
  rw [getMountReadOnly, foldl_searchLine hmounts hpath hplace] at h
  split at h
  · cases h
  · cases hbest : longest Mount.place place mounts with
    | none => simp [hbest] at h
    | some best =>
      simp only [hbest, Bool.not_true, Bool.false_eq_true, if_false, Except.ok.injEq] at h
      rw [readOnlyAt_of_longest hbest, h]

end

end SandboxManager.Claw
