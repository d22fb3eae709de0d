import Mathlib.Data.List.Chain

/-! Splitting a list at a separator.

`segments` keeps the non-empty runs between separators and forgets how many
separators stood between them; `absolute` writes a list of runs back, one
separator in front of each. On runs that are non-empty and free of the separator
the two are inverse (`segments_absolute`). `collapse` leaves one separator where
several stood in a row; a list without such rows is its runs written back
(`absolute_segments`). `cutAt` cuts a list at one of its separators. -/
namespace Library

variable {α : Type*} [DecidableEq α] (sep : α)

/-- The non-empty runs of a list, `cur` being the part of the current run already read. -/
def segmentsFrom (cur : List α) : List α → List (List α)
  | [] => if cur = [] then [] else [cur]
  | a :: rest =>
    if a = sep then
      if cur = [] then segmentsFrom [] rest else cur :: segmentsFrom [] rest
    else segmentsFrom (cur ++ [a]) rest

def segments (l : List α) : List (List α) := segmentsFrom sep [] l

/-- A run that `segments` can return. -/
def IsSegment (w : List α) : Prop := w ≠ [] ∧ sep ∉ w

/-- One separator in front of each run. -/
def absolute (ws : List (List α)) : List α := ws.flatMap fun w => sep :: w

omit [DecidableEq α] in
@[simp] theorem absolute_nil : absolute sep [] = [] := rfl

omit [DecidableEq α] in
@[simp] theorem absolute_cons (w : List α) (ws : List (List α)) :
    absolute sep (w :: ws) = sep :: (w ++ absolute sep ws) := rfl

omit [DecidableEq α] in
theorem absolute_append (ws vs : List (List α)) :
    absolute sep (ws ++ vs) = absolute sep ws ++ absolute sep vs := List.flatMap_append

omit [DecidableEq α] in
/-- Written back, runs are what stands between separators, with one in front. -/
theorem cons_intercalate {ws : List (List α)} (h : ws ≠ []) :
    sep :: [sep].intercalate ws = absolute sep ws := by
  induction ws with
  | nil => exact absurd rfl h
  | cons w rest ih =>
    by_cases hrest : rest = []
    · rw [hrest, List.intercalate_singleton, absolute_cons, absolute_nil, List.append_nil]
    · rw [List.intercalate_cons_of_ne_nil hrest, absolute_cons, ← ih hrest, List.append_assoc]
      rfl

@[simp] theorem segments_nil : segments sep [] = [] := rfl

@[simp] theorem segments_sep_cons (l : List α) : segments sep (sep :: l) = segments sep l := by
  simp [segments, segmentsFrom]

/-- A separator-free stretch only extends the run being read. -/
theorem segmentsFrom_append (w : List α) (hw : sep ∉ w) (cur l : List α) :
    segmentsFrom sep cur (w ++ l) = segmentsFrom sep (cur ++ w) l := by
  induction w generalizing cur with
  | nil => simp
  | cons a rest ih =>
    have ha : ¬ a = sep := fun h => hw (h ▸ List.mem_cons_self ..)
    have hrest : sep ∉ rest := fun h => hw (List.mem_cons_of_mem a h)
    rw [List.cons_append, segmentsFrom, if_neg ha, ih hrest, List.append_assoc]
    rfl

/-- At a separator the run being read ends. -/
theorem segmentsFrom_append_sep (cur a b : List α) :
    segmentsFrom sep cur (a ++ sep :: b) = segmentsFrom sep cur a ++ segments sep b := by
  induction a generalizing cur with
  | nil =>
    by_cases hc : cur = []
    · simp [segmentsFrom, segments, hc]
    · simp [segmentsFrom, segments, hc]
  | cons x rest ih =>
    rw [List.cons_append, segmentsFrom, segmentsFrom]
    by_cases hx : x = sep
    · by_cases hc : cur = []
      · simp only [hx, hc, if_true, ih]
      · simp only [hx, hc, if_true, if_false, ih, List.cons_append]
    · simp only [hx, if_false, ih]

theorem segments_append_sep (a b : List α) :
    segments sep (a ++ sep :: b) = segments sep a ++ segments sep b :=
  segmentsFrom_append_sep sep [] a b

/-- A separator at the end changes nothing. -/
theorem segments_concat_sep (a : List α) : segments sep (a ++ [sep]) = segments sep a := by
  simpa using segments_append_sep sep a []

theorem isSegment_of_mem_segmentsFrom (l cur : List α) (hc : sep ∉ cur) :
    ∀ w ∈ segmentsFrom sep cur l, IsSegment sep w := by
  induction l generalizing cur with
  | nil =>
    intro w hw
    by_cases h : cur = []
    · simp [segmentsFrom, h] at hw
    · rw [segmentsFrom, if_neg h, List.mem_singleton] at hw
      exact hw ▸ ⟨h, hc⟩
  | cons a rest ih =>
    intro w hw
    rw [segmentsFrom] at hw
    by_cases ha : a = sep
    · by_cases h : cur = []
      · rw [if_pos ha, if_pos h] at hw
        exact ih [] List.not_mem_nil w hw
      · rw [if_pos ha, if_neg h, List.mem_cons] at hw
        rcases hw with rfl | hw
        · exact ⟨h, hc⟩
        · exact ih [] List.not_mem_nil w hw
    · rw [if_neg ha] at hw
      refine ih (cur ++ [a]) ?_ w hw
      simp [hc, Ne.symm ha]

theorem isSegment_of_mem {l w : List α} (hw : w ∈ segments sep l) : IsSegment sep w :=
  isSegment_of_mem_segmentsFrom sep l [] List.not_mem_nil w hw

/-- One run on its own. -/
theorem segments_run {w : List α} (hw : IsSegment sep w) : segments sep w = [w] := by
  have := segmentsFrom_append sep w hw.2 [] []
  simpa [segments, segmentsFrom, hw.1] using this

/-- Writing runs and splitting them again is the identity. -/
theorem segments_absolute (ws : List (List α)) (hws : ∀ w ∈ ws, IsSegment sep w) :
    segments sep (absolute sep ws) = ws := by
  induction ws with
  | nil => rfl
  | cons w rest ih =>
    have hw := hws w (List.mem_cons_self ..)
    have hrest := ih fun v hv => hws v (List.mem_cons_of_mem w hv)
    rw [absolute_cons, segments_sep_cons]
    cases rest with
    | nil => simpa using segments_run sep hw
    | cons v vs =>
      rw [absolute_cons, segments_append_sep, segments_run sep hw]
      rw [absolute_cons, segments_sep_cons] at hrest
      rw [hrest]
      rfl

/-! ### Cutting at one of the separators -/

/-- What is in front of the separator with this number, the first being number 0, and what is
behind it. -/
def cutAt : Nat → List α → Option (List α × List α)
  | _, [] => none
  | 0, a :: l => if a = sep then some ([], l) else (cutAt 0 l).map (Prod.map (a :: ·) id)
  | n + 1, a :: l => (cutAt (if a = sep then n else n + 1) l).map (Prod.map (a :: ·) id)

theorem cutAt_cons_of_ne {a : α} (ha : a ≠ sep) (n : Nat) (l : List α) :
    cutAt sep n (a :: l) = (cutAt sep n l).map (Prod.map (a :: ·) id) := by
  cases n with
  | zero => rw [cutAt, if_neg ha]
  | succ n => rw [cutAt, if_neg ha]

theorem count_le_of_cutAt {n : Nat} {l : List α} (h : cutAt sep n l = none) :
    l.count sep ≤ n := by
  induction l generalizing n with
  | nil => simp
  | cons a l ih =>
    by_cases ha : a = sep
    · cases n with
      | zero => simp [cutAt, ha] at h
      | succ n =>
        rw [cutAt, if_pos ha, Option.map_eq_none_iff] at h
        rw [ha, List.count_cons_self]
        exact Nat.succ_le_succ (ih h)
    · rw [cutAt_cons_of_ne sep ha, Option.map_eq_none_iff] at h
      rw [List.count_cons_of_ne ha]
      exact ih h

/-- The two parts are those around a separator with so many in front of it. -/
theorem of_cutAt {n : Nat} {l front rest : List α} (h : cutAt sep n l = some (front, rest)) :
    l = front ++ sep :: rest ∧ front.count sep = n := by
  induction l generalizing n front with
  | nil => cases h
  | cons a l ih =>
    by_cases ha : a = sep
    · cases n with
      | zero =>
        rw [cutAt, if_pos ha] at h
        cases h
        exact ⟨by rw [ha]; rfl, rfl⟩
      | succ n =>
        rw [cutAt, if_pos ha, Option.map_eq_some_iff] at h
        obtain ⟨⟨front', rest'⟩, hcut, hmap⟩ := h
        cases hmap
        obtain ⟨rfl, hcount⟩ := ih hcut
        exact ⟨rfl, by rw [ha, List.count_cons_self, hcount]⟩
    · rw [cutAt_cons_of_ne sep ha, Option.map_eq_some_iff] at h
      obtain ⟨⟨front', rest'⟩, hcut, hmap⟩ := h
      cases hmap
      obtain ⟨rfl, hcount⟩ := ih hcut
      exact ⟨rfl, by rw [List.count_cons_of_ne ha, hcount]⟩

/-! ### Collapsing separators -/

/-- Every row of separators becomes one separator. -/
def collapse : List α → List α
  | [] => []
  | [a] => [a]
  | a :: b :: rest =>
    if a = sep ∧ b = sep then collapse (b :: rest) else a :: collapse (b :: rest)

/-- No two separators stand next to each other. -/
def Collapsed (l : List α) : Prop := l.IsChain fun a b => ¬ (a = sep ∧ b = sep)

theorem head?_collapse (l : List α) : (collapse sep l).head? = l.head? := by
  induction l using collapse.induct sep with
  | case1 => rfl
  | case2 a => rfl
  | case3 a b rest h ih =>
    rw [collapse, if_pos h, ih]
    simp [h.1, h.2]
  | case4 a b rest h ih =>
    rw [collapse, if_neg h]
    rfl

theorem collapsed_collapse (l : List α) : Collapsed sep (collapse sep l) := by
  induction l using collapse.induct sep with
  | case1 => exact List.isChain_nil
  | case2 a => exact List.isChain_singleton a
  | case3 a b rest h ih =>
    rw [collapse, if_pos h]
    exact ih
  | case4 a b rest h ih =>
    rw [collapse, if_neg h]
    refine List.isChain_cons.mpr ⟨fun y hy => ?_, ih⟩
    rw [head?_collapse] at hy
    cases hy
    exact h

theorem mem_collapse {a : α} {l : List α} : a ∈ collapse sep l ↔ a ∈ l := by
  induction l using collapse.induct sep with
  | case1 => rfl
  | case2 b => rfl
  | case3 b c rest hsep ih =>
    obtain ⟨rfl, rfl⟩ := hsep
    rw [collapse, if_pos ⟨rfl, rfl⟩, ih]
    simp
  | case4 b c rest hsep ih => rw [collapse, if_neg hsep, List.mem_cons, List.mem_cons, ih]

/-- A list without rows of separators is left alone. -/
theorem collapse_eq_self {l : List α} (h : Collapsed sep l) : collapse sep l = l := by
  induction l using collapse.induct sep with
  | case1 => rfl
  | case2 a => rfl
  | case3 a b rest hsep ih => exact absurd hsep (List.isChain_cons_cons.mp h).1
  | case4 a b rest hsep ih => rw [collapse, if_neg hsep, ih (List.isChain_cons_cons.mp h).2]

/-- Up to an element that is no separator, collapsing is collapsing what stands there. -/
theorem takeWhile_collapse {c : α} (hc : c ≠ sep) (l : List α) :
    (collapse sep l).takeWhile (· ≠ c) = collapse sep (l.takeWhile (· ≠ c)) := by
  have hkeep : ∀ {a : α} (l : List α), a ≠ c →
      (a :: l).takeWhile (· ≠ c) = a :: l.takeWhile (· ≠ c) := fun l ha => by simp [ha]
  have hstop : ∀ (l : List α), (c :: l).takeWhile (· ≠ c) = [] := fun l => by simp
  induction l using collapse.induct sep with
  | case1 => rfl
  | case2 a =>
    by_cases ha : a = c
    · rw [ha, collapse, hstop, collapse]
    · rw [collapse, hkeep [] ha]
      rfl
  | case3 a b rest hsep ih =>
    obtain ⟨rfl, rfl⟩ := hsep
    rw [collapse, if_pos ⟨rfl, rfl⟩, ih, hkeep _ hc.symm, hkeep _ hc.symm, hkeep _ hc.symm,
      collapse, if_pos ⟨rfl, rfl⟩]
  | case4 a b rest hsep ih =>
    rw [collapse, if_neg hsep]
    by_cases ha : a = c
    · rw [ha, hstop, hstop, collapse]
    · rw [hkeep _ ha, hkeep _ ha, ih]
      by_cases hb : b = c
      · rw [hb, hstop, collapse, collapse]
      · rw [hkeep _ hb, collapse, if_neg hsep]

theorem segmentsFrom_collapse (cur l : List α) :
    segmentsFrom sep cur (collapse sep l) = segmentsFrom sep cur l := by
  induction l using collapse.induct sep generalizing cur with
  | case1 => rfl
  | case2 a => rfl
  | case3 a b rest h ih =>
    obtain ⟨rfl, rfl⟩ := h
    rw [collapse, if_pos ⟨rfl, rfl⟩, ih]
    by_cases hc : cur = []
    · simp [segmentsFrom, hc]
    · simp [segmentsFrom, hc]
  | case4 a b rest h ih =>
    rw [collapse, if_neg h, segmentsFrom.eq_2, segmentsFrom.eq_2 _ _ a]
    simp only [ih]

theorem segments_collapse (l : List α) : segments sep (collapse sep l) = segments sep l :=
  segmentsFrom_collapse sep [] l

/-- Inside a list of single separators the runs, the one being read first, are all there is. -/
theorem absolute_segmentsFrom {cur l : List α} (hc : Collapsed sep l)
    (hlast : l.getLast? ≠ some sep) (hcur : cur = [] → l ≠ [] ∧ l.head? ≠ some sep) :
    absolute sep (segmentsFrom sep cur l) = sep :: (cur ++ l) := by
  induction l generalizing cur with
  | nil =>
    have : cur ≠ [] := fun h => (hcur h).1 rfl
    simp [segmentsFrom, this]
  | cons a rest ih =>
    have hrest : Collapsed sep rest := List.IsChain.tail hc
    have hlast' : rest.getLast? ≠ some sep := by
      cases rest with
      | nil => simp
      | cons b rest => simpa [List.getLast?_cons_cons] using hlast
    by_cases ha : a = sep
    · have hne : cur ≠ [] := fun h => (hcur h).2 (by simp [ha])
      have hhead : rest ≠ [] ∧ rest.head? ≠ some sep := by
        refine ⟨fun h => hlast (by simp [h, ha]), fun h => ?_⟩
        cases rest with
        | nil => simp at h
        | cons b rest => exact (List.isChain_cons_cons.mp hc).1 ⟨ha, by simpa using h⟩
      rw [segmentsFrom, if_pos ha, if_neg hne, absolute_cons, ih hrest hlast' fun _ => hhead, ha]
      simp
    · rw [segmentsFrom, if_neg ha, ih hrest hlast' (by simp)]
      simp

theorem absolute_segments {l : List α} (hc : Collapsed sep (sep :: l))
    (hlast : l.getLast? ≠ some sep) (hne : l ≠ []) : absolute sep (segments sep l) = sep :: l := by
  refine absolute_segmentsFrom sep hc.tail hlast fun _ => ⟨hne, fun h => ?_⟩
  cases l with
  | nil => exact hne rfl
  | cons b rest => exact (List.isChain_cons_cons.mp hc).1 ⟨rfl, by simpa using h⟩

/-- There is one separator for each run written. -/
theorem count_absolute {ws : List (List α)} (hws : ∀ w ∈ ws, IsSegment sep w) :
    (absolute sep ws).count sep = ws.length := by
  induction ws with
  | nil => rfl
  | cons w rest ih =>
    have hw := (hws w (List.mem_cons_self ..)).2
    rw [absolute_cons, List.count_cons_self, List.count_append, List.count_eq_zero_of_not_mem hw,
      ih fun v hv => hws v (List.mem_cons_of_mem w hv), List.length_cons]
    omega

theorem length_segmentsFrom (cur l : List α) :
    (segmentsFrom sep cur l).length ≤ l.count sep + 1 := by
  induction l generalizing cur with
  | nil =>
    rw [segmentsFrom]
    split <;> simp
  | cons a rest ih =>
    rw [segmentsFrom]
    split
    case isTrue h =>
      have := ih []
      rw [h, List.count_cons_self]
      split
      · omega
      · rw [List.length_cons]
        omega
    case isFalse h =>
      rw [List.count_cons_of_ne h]
      exact ih _

theorem segments_ne_nil {a : α} {l : List α} (ha : a ≠ sep) : segments sep (a :: l) ≠ [] := by
  have hfrom : ∀ cur, cur ≠ [] → segmentsFrom sep cur l ≠ [] := by
    induction l with
    | nil =>
      intro cur hcur
      simp [segmentsFrom, hcur]
    | cons b rest ih =>
      intro cur hcur
      rw [segmentsFrom]
      split
      · simp
      · exact ih _ (by simp)
  rw [segments, segmentsFrom, if_neg ha]
  exact hfrom [a] (List.cons_ne_nil _ _)

/-- The first run of a list that does not begin with the separator. -/
theorem eq_of_head?_segments {l w : List α} (hl : l.head? ≠ some sep)
    (h : (segments sep l).head? = some w) :
    ∃ rest, l = w ++ rest ∧ (rest = [] ∨ rest.head? = some sep) := by
  by_cases hs : sep ∈ l
  · obtain ⟨v, rest, rfl, hv⟩ := List.eq_append_cons_of_mem hs
    have hne : v ≠ [] := fun h => hl (by simp [h])
    rw [segments_append_sep, segments_run sep ⟨hne, hv⟩] at h
    cases h
    exact ⟨sep :: rest, rfl, Or.inr rfl⟩
  · have hne : l ≠ [] := fun hnil => by simp [hnil] at h
    rw [segments_run sep ⟨hne, hs⟩] at h
    cases h
    exact ⟨[], (List.append_nil l).symm, Or.inl rfl⟩

end Library
