import Mathlib.Data.List.Count
import Mathlib.Data.List.Infix

/-! Questions and answers in a log.

Some events of a log ask about a key and some answer for one. `Justified` says that every
answer found a question for its key that was still open. A table of open keys shows it,
as long as a key enters only with a question and leaves with every answer. -/
namespace Library
variable {Event Key : Type*} (asks answers : Key → Event → Bool)

/-- Every answer in the log has a question before it, and one of its own. -/
def Justified (log : List Event) : Prop :=
  ∀ before event key, before ++ [event] <+: log → answers key event = true →
    before.countP (answers key) < before.countP (asks key)

/-- The table holds only keys whose questions are still open. -/
structure Outstanding [DecidableEq Key] (pending : List Key) (log : List Event) : Prop where
  justified : Justified asks answers log
  covered : ∀ key, pending.count key + log.countP (answers key) ≤ log.countP (asks key)

variable {asks answers} {log : List Event} {event : Event}

theorem Justified.concat (h : Justified asks answers log)
    (hevent : ∀ key, answers key event = true → log.countP (answers key) < log.countP (asks key)) :
    Justified asks answers (log ++ [event]) := by
  intro before event' key hprefix hanswers
  rcases List.prefix_concat_iff.mp hprefix with heq | hprefix
  · obtain ⟨hbefore, hlast⟩ := List.append_inj' heq rfl
    rw [hbefore]
    exact hevent key (List.singleton_inj.mp hlast ▸ hanswers)
  · exact h before event' key hprefix hanswers

namespace Outstanding
variable [DecidableEq Key] {pending pending' : List Key}

theorem nil : Outstanding asks answers [] [] where
  justified before event key hprefix _ := by simp at hprefix
  covered key := Nat.zero_le _

/-- Keys may be forgotten. -/
theorem forget (h : Outstanding asks answers pending log)
    (hpending : ∀ key, pending'.count key ≤ pending.count key) :
    Outstanding asks answers pending' log :=
  ⟨h.justified, fun key => Nat.le_trans (Nat.add_le_add_right (hpending key) _) (h.covered key)⟩

/-- An event that answers for no key. -/
theorem quiet (h : Outstanding asks answers pending log)
    (hevent : ∀ key, answers key event = false) : Outstanding asks answers pending (log ++ [event]) where
  justified := h.justified.concat fun key hkey => by rw [hevent key] at hkey; cases hkey
  covered key := by
    have hcovered := h.covered key
    rw [List.countP_append, List.countP_append, List.countP_singleton, List.countP_singleton,
      hevent key]
    simp only [Bool.false_eq_true, if_false, Nat.add_zero]
    omega

/-- A question opens its key. -/
theorem ask (h : Outstanding asks answers pending log) {key : Key}
    (hasks : asks key event = true) (hevent : ∀ key, answers key event = false) :
    Outstanding asks answers (pending ++ [key]) (log ++ [event]) where
  justified := (h.quiet hevent).justified
  covered key' := by
    have hcovered := h.covered key'
    rw [List.countP_append, List.countP_append, List.countP_singleton, List.countP_singleton,
      hevent key', List.count_append, List.count_singleton]
    by_cases hkey : key = key'
    · subst hkey
      simp only [hasks, Bool.false_eq_true, beq_self_eq_true, if_true, if_false, Nat.add_zero]
      omega
    · simp only [Bool.false_eq_true, if_false, beq_iff_eq, hkey]
      omega

/-- An answer for an open key closes it. -/
theorem answer (h : Outstanding asks answers pending log) {key : Key} (hmem : key ∈ pending)
    (hanswers : ∀ key', answers key' event = decide (key' = key)) :
    Outstanding asks answers (pending.erase key) (log ++ [event]) where
  justified := h.justified.concat fun key' hkey => by
    rw [hanswers, decide_eq_true_eq] at hkey
    subst hkey
    have hcovered := h.covered key'
    have hpos := List.count_pos_iff.mpr hmem
    omega
  covered key' := by
    have hcovered := h.covered key'
    rw [List.countP_append, List.countP_append, List.countP_singleton, List.countP_singleton,
      hanswers]
    by_cases hkey : key' = key
    · subst hkey
      have hpos := List.count_pos_iff.mpr hmem
      rw [List.count_erase_self]
      simp only [decide_true, if_true]
      omega
    · rw [List.count_erase_of_ne hkey]
      simp only [hkey, decide_false, Bool.false_eq_true, if_false]
      omega

end Outstanding

end Library
