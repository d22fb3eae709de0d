import SandboxManager.Library.Segments
import Mathlib.Data.List.Infix

/-! Pieces of a list: what stands after each separator, empty pieces included.

On a list that begins with the separator the pieces are all there is (`absolute_pieces`), and
a row of two separators is an empty piece before the last one (`nil_mem_dropLast_pieces`). Where no
piece is empty they are the segments (`segments_eq_pieces`). -/
namespace Library

variable {α : Type*} [DecidableEq α] (sep : α)

def pieces (l : List α) : List (List α) := (l.splitOn sep).tail

@[simp] theorem pieces_nil : pieces sep [] = [] := by
  simp [pieces, List.splitOn]

@[simp] theorem pieces_sep_cons (l : List α) : pieces sep (sep :: l) = l.splitOn sep := by
  simp [pieces, List.splitOn_cons_eq_if_modifyHead]

theorem pieces_append (a l : List α) :
    pieces sep (a ++ sep :: l) = pieces sep a ++ pieces sep (sep :: l) := by
  rw [pieces_sep_cons, pieces, pieces, List.splitOn_append_cons_self,
    List.tail_append_of_ne_nil (List.splitOn_ne_nil sep a)]

theorem pieces_append_of_head? {l : List α} (hl : l = [] ∨ l.head? = some sep) (a : List α) :
    pieces sep (a ++ l) = pieces sep a ++ pieces sep l := by
  cases l with
  | nil => simp
  | cons b rest =>
    have hb : b = sep := by simpa using hl
    rw [hb]
    exact pieces_append sep a rest

/-- Writing runs and taking the pieces is the identity. -/
theorem pieces_absolute {ws : List (List α)} (hws : ∀ w ∈ ws, sep ∉ w) :
    pieces sep (absolute sep ws) = ws := by
  induction ws with
  | nil => simp
  | cons w rest ih =>
    have hw := hws w (List.mem_cons_self ..)
    have hrest := ih fun v hv => hws v (List.mem_cons_of_mem w hv)
    have hhead : absolute sep rest = [] ∨ (absolute sep rest).head? = some sep := by
      cases rest with
      | nil => exact Or.inl rfl
      | cons v vs => exact Or.inr rfl
    rw [absolute_cons, ← List.cons_append, pieces_append_of_head? sep hhead, hrest, pieces_sep_cons,
      List.splitOn_eq_singleton hw, List.singleton_append]

omit [DecidableEq α] in
variable {sep} in
/-- Two lists are cut alike at their first separators. -/
theorem append_sep_inj {a b l r : List α} (ha : sep ∉ a) (hb : sep ∉ b) :
    a ++ sep :: l = b ++ sep :: r ↔ a = b ∧ l = r := by
  induction a generalizing b with
  | nil =>
    cases b with
    | nil => simp
    | cons c b => simp [List.ne_of_not_mem_cons hb]
  | cons d a ih =>
    cases b with
    | nil => simp [(List.ne_of_not_mem_cons ha).symm]
    | cons c b =>
      have htail := ih (List.not_mem_of_not_mem_cons ha) (List.not_mem_of_not_mem_cons hb)
      simp only [List.cons_append, List.cons.injEq, htail, and_assoc]

theorem absolute_splitOn (l : List α) : absolute sep (l.splitOn sep) = sep :: l := by
  induction l with
  | nil => simp
  | cons a rest ih =>
    rw [List.splitOn_cons_eq_if_modifyHead]
    by_cases ha : a = sep
    · simp [ha, ih]
    · obtain ⟨w, ws, hsplit⟩ := List.exists_cons_of_ne_nil (List.splitOn_ne_nil sep rest)
      rw [hsplit] at ih ⊢
      simpa [ha] using ih

/-- A list that begins with the separator is its pieces written back. -/
theorem absolute_pieces {l : List α} (hl : l.head? = some sep) :
    absolute sep (pieces sep l) = l := by
  obtain ⟨rest, rfl⟩ := List.head?_eq_some_iff.mp hl
  rw [pieces_sep_cons, absolute_splitOn]

theorem notMem_of_mem_splitOn {l w : List α} (hw : w ∈ l.splitOn sep) : sep ∉ w := by
  induction l generalizing w with
  | nil => simp_all
  | cons a rest ih =>
    rw [List.splitOn_cons_eq_if_modifyHead] at hw
    by_cases ha : a = sep
    · rw [if_pos (by simpa using ha)] at hw
      rcases List.mem_cons.mp hw with rfl | hw
      · exact List.not_mem_nil
      · exact ih hw
    · obtain ⟨v, vs, hsplit⟩ := List.exists_cons_of_ne_nil (List.splitOn_ne_nil sep rest)
      rw [if_neg (by simpa using ha), hsplit, List.modifyHead_cons] at hw
      rcases List.mem_cons.mp hw with rfl | hw
      · have hv : sep ∉ v := ih (hsplit ▸ List.mem_cons_self ..)
        simpa [hv] using Ne.symm ha
      · exact ih (hsplit ▸ List.mem_cons_of_mem v hw)

theorem notMem_of_mem_pieces {l w : List α} (hw : w ∈ pieces sep l) : sep ∉ w :=
  notMem_of_mem_splitOn sep (List.mem_of_mem_tail hw)

/-- Where no piece is empty the pieces are the segments. -/
theorem segments_eq_pieces {l : List α} (hl : l.head? = some sep)
    (hne : ∀ w ∈ pieces sep l, w ≠ []) : segments sep l = pieces sep l := by
  conv_lhs => rw [← absolute_pieces sep hl]
  exact segments_absolute sep _ fun w hw => ⟨hne w hw, notMem_of_mem_pieces sep hw⟩

/-- The segments are the pieces that are not empty. -/
theorem segments_eq_filter_splitOn (l : List α) :
    segments sep l = (l.splitOn sep).filter (· ≠ []) := by
  have hfrom : ∀ cur, sep ∉ cur →
      segmentsFrom sep cur l = ((l.splitOn sep).modifyHead (cur ++ ·)).filter (· ≠ []) := by
    induction l with
    | nil =>
      intro cur _
      by_cases hcur : cur = [] <;> simp [segmentsFrom, hcur]
    | cons a rest ih =>
      intro cur hcur
      obtain ⟨w, ws, hsplit⟩ := List.exists_cons_of_ne_nil (List.splitOn_ne_nil sep rest)
      have hnil := ih [] List.not_mem_nil
      rw [segmentsFrom, List.splitOn_cons_eq_if_modifyHead]
      by_cases ha : a = sep
      · rw [hsplit] at hnil ⊢
        by_cases hc : cur = [] <;> simp_all
      · rw [if_neg ha, ih (cur ++ [a]) (by simpa [hcur] using Ne.symm ha), hsplit]
        simp [ha]
  have hself : (l.splitOn sep).modifyHead ([] ++ ·) = l.splitOn sep := by
    cases l.splitOn sep <;> simp
  rw [segments, hfrom [] List.not_mem_nil, hself]

theorem mem_segments_iff {l w : List α} (hl : l = [] ∨ l.head? = some sep) :
    w ∈ segments sep l ↔ w ∈ pieces sep l ∧ w ≠ [] := by
  cases l with
  | nil => simp
  | cons a rest =>
    have ha : a = sep := by simpa using hl
    rw [ha, segments_sep_cons, pieces_sep_cons, segments_eq_filter_splitOn]
    simp

/-- A separator at the end has an empty piece after it. -/
theorem pieces_concat_sep (l : List α) : pieces sep (l ++ [sep]) = pieces sep l ++ [[]] := by
  rw [pieces_append, pieces_sep_cons, List.splitOn_nil]

theorem getLast?_absolute_ne {ws : List (List α)} (hws : ∀ w ∈ ws, IsSegment sep w) :
    (absolute sep ws).getLast? ≠ some sep := by
  intro h
  obtain ⟨init, hinit⟩ := List.getLast?_eq_some_iff.mp h
  have hpieces := pieces_absolute sep fun w hw => (hws w hw).2
  rw [hinit, pieces_concat_sep] at hpieces
  exact (hws [] (hpieces ▸ by simp)).1 rfl

/-- Without a separator at the end the last piece is not empty. -/
theorem getLast?_pieces_ne {l : List α} (hl : l = [] ∨ l.head? = some sep)
    (hlast : l.getLast? ≠ some sep) : (pieces sep l).getLast? ≠ some [] := by
  intro h
  rcases hl with rfl | hl
  · simp at h
  obtain ⟨ws, hws⟩ := List.getLast?_eq_some_iff.mp h
  rw [← absolute_pieces sep hl, hws, absolute_append] at hlast
  simp at hlast

theorem nil_mem_dropLast_splitOn (l : List α) :
    [] ∈ (l.splitOn sep).dropLast ↔ l.head? = some sep ∨ [] ∈ (pieces sep l).dropLast := by
  cases l with
  | nil => simp
  | cons a rest =>
    obtain ⟨w, ws, hsplit⟩ := List.exists_cons_of_ne_nil (List.splitOn_ne_nil sep rest)
    rw [pieces, List.splitOn_cons_eq_if_modifyHead, hsplit]
    by_cases ha : a = sep
    · simp [ha]
    · cases ws <;> simp [ha]

/-- Two separators in a row have an empty piece between them. -/
theorem nil_mem_dropLast_pieces (l : List α) :
    [] ∈ (pieces sep l).dropLast ↔ [sep, sep] <:+: l := by
  induction l with
  | nil => simp
  | cons a rest ih =>
    rw [List.infix_cons_iff, ← ih, List.cons_prefix_cons]
    by_cases ha : a = sep
    · rw [ha, pieces_sep_cons, nil_mem_dropLast_splitOn, List.head?_eq_some_iff]
      simp [eq_comm, List.IsPrefix]
    · obtain ⟨w, ws, hsplit⟩ := List.exists_cons_of_ne_nil (List.splitOn_ne_nil sep rest)
      rw [pieces, pieces, List.splitOn_cons_eq_if_modifyHead, hsplit]
      simp [ha, Ne.symm ha]

end Library
