import Mathlib.Data.List.Basic

/-! Results of a part of a list, written back.

A batch operation picks some elements of its input, asks for results for those
alone, and stores the answers at the places the elements came from. `scatter` is
that last step; `getElem?_scatter` says which answer ends up where. -/
namespace Library

variable {α β : Type*}

/-- `vals` go, in order, to the places of `results` whose element is selected. -/
def scatter (sel : α → Bool) : List α → List β → List β → List β
  | a :: as, r :: rs, vals =>
    if sel a then vals.headD r :: scatter sel as rs vals.tail else r :: scatter sel as rs vals
  | _, rs, _ => rs

@[simp] theorem length_scatter (sel : α → Bool) (as : List α) (results vals : List β) :
    (scatter sel as results vals).length = results.length := by
  induction as generalizing results vals with
  | nil => rfl
  | cons a as ih =>
    cases results with
    | nil => rfl
    | cons r rs =>
      simp only [scatter]
      split <;> simp [ih]

/-- A place not selected keeps its result. -/
theorem getElem?_scatter_of_not {sel : α → Bool} {as : List α} {results vals : List β} {i : Nat}
    {a : α} (ha : as[i]? = some a) (hs : sel a = false) :
    (scatter sel as results vals)[i]? = results[i]? := by
  induction as generalizing results vals i with
  | nil => rfl
  | cons a' as ih =>
    cases results with
    | nil => rfl
    | cons r rs =>
      cases i with
      | zero =>
        have : a' = a := by simpa using ha
        simp [scatter, this, hs]
      | succ i =>
        have ha : as[i]? = some a := by simpa using ha
        simp only [scatter]
        split <;> simp [ih ha]

/-- How many elements are selected before a place. -/
def rank (sel : α → Bool) (as : List α) (i : Nat) : Nat := ((as.take i).filter sel).length

theorem getElem?_filter_rank {sel : α → Bool} {as : List α} {i : Nat} {a : α}
    (ha : as[i]? = some a) (hs : sel a = true) : (as.filter sel)[rank sel as i]? = some a := by
  obtain ⟨hlt, hget⟩ := List.getElem?_eq_some_iff.mp ha
  have hdrop : as.drop i = a :: as.drop (i + 1) := by rw [List.drop_eq_getElem_cons hlt, hget]
  rw [rank, ← List.take_append_drop i as, List.take_left' (List.length_take_of_le (Nat.le_of_lt hlt)),
    List.filter_append, List.getElem?_append_right (Nat.le_refl _), Nat.sub_self, hdrop,
    List.filter_cons_of_pos hs, List.getElem?_cons_zero]

/-- A selected place holds the answer to its own element. -/
theorem getElem?_scatter {sel : α → Bool} {as : List α} {results vals : List β} {i : Nat} {a : α}
    (ha : as[i]? = some a) (hs : sel a = true) (hlen : results.length = as.length)
    (hvals : vals.length = (as.filter sel).length) :
    (scatter sel as results vals)[i]? = vals[rank sel as i]? := by
  induction as generalizing results vals i with
  | nil => cases ha
  | cons a' as ih =>
    cases results with
    | nil => cases hlen
    | cons r rs =>
      have hrest : rs.length = as.length := Nat.succ.inj hlen
      by_cases hs' : sel a' = true
      · cases vals with
        | nil => rw [List.filter_cons_of_pos hs'] at hvals; cases hvals
        | cons v vs =>
          rw [List.filter_cons_of_pos hs'] at hvals
          rw [scatter, if_pos hs']
          cases i with
          | zero => rfl
          | succ i =>
            have hrank : rank sel (a' :: as) (i + 1) = rank sel as i + 1 := by
              rw [rank, List.take_succ_cons, List.filter_cons_of_pos hs', List.length_cons, rank]
            rw [hrank, List.getElem?_cons_succ, List.getElem?_cons_succ]
            exact ih ha hrest (Nat.succ.inj hvals)
      · rw [List.filter_cons_of_neg hs'] at hvals
        rw [scatter, if_neg hs']
        cases i with
        | zero => exact absurd (Option.some.inj ha ▸ hs) hs'
        | succ i =>
          have hrank : rank sel (a' :: as) (i + 1) = rank sel as i := by
            rw [rank, List.take_succ_cons, List.filter_cons_of_neg hs', rank]
          rw [hrank, List.getElem?_cons_succ]
          exact ih ha hrest hvals

/-- The selected elements with an answer of some kind, read off the scattered results. -/
theorem filter_zip_scatter {sel : α → Bool} {g : β → Bool} {as : List α} {results vals : List β}
    (hlen : results.length = as.length) (hvals : vals.length = (as.filter sel).length) :
    ((as.zip (scatter sel as results vals)).filter fun q => sel q.1 && g q.2).map Prod.fst =
      (((as.filter sel).zip vals).filter fun q => g q.2).map Prod.fst := by
  induction as generalizing results vals with
  | nil => rfl
  | cons a as ih =>
    cases results with
    | nil => cases hlen
    | cons r rs =>
      have hrest : rs.length = as.length := Nat.succ.inj hlen
      by_cases hs : sel a = true
      · cases vals with
        | nil => rw [List.filter_cons_of_pos hs] at hvals; cases hvals
        | cons v vs =>
          rw [List.filter_cons_of_pos hs] at hvals ⊢
          have htail := ih hrest (Nat.succ.inj hvals)
          rw [scatter, if_pos hs, List.headD_cons, List.tail_cons, List.zip_cons_cons,
            List.zip_cons_cons]
          rw [List.filter_cons, List.filter_cons, hs, Bool.true_and]
          split
          · rw [List.map_cons, List.map_cons, htail]
          · exact htail
      · rw [List.filter_cons_of_neg hs] at hvals ⊢
        rw [scatter, if_neg hs, List.zip_cons_cons, List.filter_cons_of_neg (by simp [hs])]
        exact ih hrest hvals

theorem zip_map_zip {γ : Type*} (f : α × β → γ) (as : List α) (vals : List β) :
    as.zip ((as.zip vals).map f) = (as.zip vals).map fun q => (q.1, f q) := by
  induction as generalizing vals with
  | nil => rfl
  | cons a as ih =>
    cases vals with
    | nil => rfl
    | cons v vs =>
      rw [List.zip_cons_cons, List.map_cons, List.zip_cons_cons, List.map_cons, ih]

theorem scatter_of_none {sel : α → Bool} {as : List α} {results vals : List β}
    (h : as.filter sel = []) : scatter sel as results vals = results := by
  induction as generalizing results vals with
  | nil => rfl
  | cons a as ih =>
    obtain ⟨ha, has⟩ := List.forall_mem_cons.mp (List.filter_eq_nil_iff.mp h)
    cases results with
    | nil => rfl
    | cons r rs => rw [scatter, if_neg ha, ih (List.filter_eq_nil_iff.mpr has)]

/-- Answers that depend on their own element only: each place holds its element's. -/
theorem scatter_map (sel : α → Bool) (as : List α) (f g : α → β) :
    scatter sel as (as.map g) ((as.filter sel).map f) = as.map fun a => if sel a then f a else g a := by
  induction as with
  | nil => rfl
  | cons a as ih =>
    rw [List.map_cons, scatter, List.map_cons]
    by_cases hs : sel a = true
    · rw [List.filter_cons_of_pos hs, List.map_cons, if_pos hs, if_pos hs, List.headD_cons,
        List.tail_cons, ih]
    · rw [List.filter_cons_of_neg hs, if_neg hs, if_neg hs, ih]

end Library
