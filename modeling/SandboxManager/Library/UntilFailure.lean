import Mathlib.Data.List.Basic

/-! Steps until one fails.

`untilFailure` takes one step after the other and stops at the first whose answer is not `ok`. A
run of runs is a run of all their steps (`untilFailure_flatten`). `Meets` asks something of each
step that is taken, in the state in which it is taken; what such steps preserve, the run
preserves (`untilFailure_preserves`). -/
namespace Library

variable {α β ε σ : Type*} [DecidableEq ε] (ok : ε) (step : α → σ → ε × σ)

def untilFailure : List α → σ → ε × σ
  | [], s => (ok, s)
  | a :: as, s => if (step a s).1 = ok then untilFailure as (step a s).2 else step a s

/-- Every step that is taken meets the condition. -/
def Meets (P : α → σ → Prop) : List α → σ → Prop
  | [], _ => True
  | a :: as, s => P a s ∧ ((step a s).1 = ok → Meets P as (step a s).2)

section
variable {ok step} {a : α} {as as' : List α} {s : σ}

@[simp] theorem untilFailure_nil : untilFailure ok step [] s = (ok, s) := rfl

theorem untilFailure_cons_of_ok (h : (step a s).1 = ok) :
    untilFailure ok step (a :: as) s = untilFailure ok step as (step a s).2 := by
  rw [untilFailure, if_pos h]

theorem untilFailure_cons_of_ne (h : (step a s).1 ≠ ok) :
    untilFailure ok step (a :: as) s = step a s := by
  rw [untilFailure, if_neg h]

/-- A run that ends well has taken all its steps. -/
theorem untilFailure_cons_eq_ok :
    (untilFailure ok step (a :: as) s).1 = ok ↔
      (step a s).1 = ok ∧ (untilFailure ok step as (step a s).2).1 = ok := by
  by_cases h : (step a s).1 = ok
  · rw [untilFailure_cons_of_ok h, and_iff_right h]
  · rw [untilFailure_cons_of_ne h]
    exact ⟨fun h' => absurd h' h, And.left⟩

theorem untilFailure_singleton : untilFailure ok step [a] s = step a s := by
  by_cases h : (step a s).1 = ok
  · rw [untilFailure_cons_of_ok h, untilFailure_nil, ← h]
  · exact untilFailure_cons_of_ne h

theorem untilFailure_append :
    untilFailure ok step (as ++ as') s =
      if (untilFailure ok step as s).1 = ok then
        untilFailure ok step as' (untilFailure ok step as s).2
      else untilFailure ok step as s := by
  induction as generalizing s with
  | nil => exact (if_pos rfl).symm
  | cons a as ih =>
    rw [List.cons_append]
    by_cases h : (step a s).1 = ok
    · rw [untilFailure_cons_of_ok h, untilFailure_cons_of_ok h, ih]
    · rw [untilFailure_cons_of_ne h, untilFailure_cons_of_ne h, if_neg h]

theorem untilFailure_map (f : β → α) (bs : List β) :
    untilFailure ok step (bs.map f) s = untilFailure ok (fun b => step (f b)) bs s := by
  induction bs generalizing s with
  | nil => rfl
  | cons b bs ih =>
    rw [List.map_cons, untilFailure, untilFailure, ih]

/-- A run of runs takes the steps of all of them. -/
theorem untilFailure_flatten (ass : List (List α)) :
    untilFailure ok (untilFailure ok step) ass s = untilFailure ok step ass.flatten s := by
  induction ass generalizing s with
  | nil => rfl
  | cons as ass ih => rw [List.flatten_cons, untilFailure_append, untilFailure, ih]

omit [DecidableEq ε] in
theorem Meets.of_forall {P : α → σ → Prop} (h : ∀ a ∈ as, ∀ s, P a s) : Meets ok step P as s := by
  induction as generalizing s with
  | nil => trivial
  | cons a as ih =>
    exact ⟨h a List.mem_cons_self s,
      fun _ => ih fun a' ha' => h a' (List.mem_cons_of_mem a ha')⟩

/-- What the steps preserve, the run preserves. -/
theorem untilFailure_preserves {P : α → σ → Prop} {I : σ → Prop}
    (hstep : ∀ a s, P a s → I s → I (step a s).2) (hmeets : Meets ok step P as s) (h : I s) :
    I (untilFailure ok step as s).2 := by
  induction as generalizing s with
  | nil => exact h
  | cons a as ih =>
    have hnext := hstep a s hmeets.1 h
    by_cases hok : (step a s).1 = ok
    · rw [untilFailure_cons_of_ok hok]
      exact ih (hmeets.2 hok) hnext
    · rw [untilFailure_cons_of_ne hok]
      exact hnext

/-- A run ends well when each of its steps does. -/
theorem untilFailure_eq_ok_iff {Q : α → Prop} (hstep : ∀ a s, (step a s).1 = ok ↔ Q a) :
    (untilFailure ok step as s).1 = ok ↔ ∀ a ∈ as, Q a := by
  induction as generalizing s with
  | nil => exact ⟨fun _ a ha => absurd ha List.not_mem_nil, fun _ => rfl⟩
  | cons a as ih => rw [untilFailure_cons_eq_ok, hstep, ih, List.forall_mem_cons]

/-- In a run that ends well, what holds of each element is what each step met. -/
theorem meets_iff_of_ok {P : α → σ → Prop} {Q : α → Prop}
    (hstep : ∀ a s, (step a s).1 = ok → (Q a ↔ P a s)) (h : (untilFailure ok step as s).1 = ok) :
    (∀ a ∈ as, Q a) ↔ Meets ok step P as s := by
  induction as generalizing s with
  | nil => exact ⟨fun _ => trivial, fun _ a ha => absurd ha List.not_mem_nil⟩
  | cons a as ih =>
    obtain ⟨hok, hrest⟩ := untilFailure_cons_eq_ok.mp h
    rw [List.forall_mem_cons, hstep a s hok, ih hrest, Meets]
    exact and_congr_right fun _ => ⟨fun h _ => h, fun h => h hok⟩

/-- A run that ends well has written what each step writes. -/
theorem log_of_ok {γ : Type*} {log : σ → List γ} {entries : α → List γ}
    (hstep : ∀ a s, (step a s).1 = ok → log (step a s).2 = log s ++ entries a)
    (h : (untilFailure ok step as s).1 = ok) :
    log (untilFailure ok step as s).2 = log s ++ as.flatMap entries := by
  induction as generalizing s with
  | nil => simp
  | cons a as ih =>
    obtain ⟨hok, hrest⟩ := untilFailure_cons_eq_ok.mp h
    rw [untilFailure_cons_of_ok hok, ih hrest, hstep a s hok, List.flatMap_cons, List.append_assoc]

end

end Library
