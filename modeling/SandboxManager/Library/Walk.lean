import Mathlib.Data.List.Basic

/-! Walking with a state.

`walk` goes through a list from the front and may change each element and a state as it goes.
Where elements have parts of their own and are walked part by part (`Walks`), walking the list
is walking all the parts in their order, so that what a nested loop does is told by a flat one. -/
namespace Library

variable {α β σ : Type*}

def walk (f : α → σ → β × σ) : List α → σ → List β × σ
  | [], s => ([], s)
  | a :: as, s => ((f a s).1 :: (walk f as (f a s).2).1, (walk f as (f a s).2).2)

@[simp] theorem walk_nil (f : α → σ → β × σ) (s : σ) : walk f [] s = ([], s) := rfl

theorem walk_cons (f : α → σ → β × σ) (a : α) (as : List α) (s : σ) :
    walk f (a :: as) s = ((f a s).1 :: (walk f as (f a s).2).1, (walk f as (f a s).2).2) := rfl

theorem walk_append (f : α → σ → β × σ) (as as' : List α) (s : σ) :
    walk f (as ++ as') s =
      ((walk f as s).1 ++ (walk f as' (walk f as s).2).1, (walk f as' (walk f as s).2).2) := by
  induction as generalizing s with
  | nil => rfl
  | cons a as ih =>
    rw [List.cons_append, walk_cons, walk_cons, ih]
    rfl

/-- What a walk leaves as it is. -/
theorem map_walk {γ : Type*} {f : α → σ → β × σ} {g : β → γ} {k : α → γ}
    (h : ∀ a s, g (f a s).1 = k a) (as : List α) (s : σ) : (walk f as s).1.map g = as.map k := by
  induction as generalizing s with
  | nil => rfl
  | cons a as ih => rw [walk_cons, List.map_cons, List.map_cons, h, ih]

theorem mem_walk {f : α → σ → β × σ} {as : List α} {s : σ} {b : β} (h : b ∈ (walk f as s).1) :
    ∃ a ∈ as, ∃ s, b = (f a s).1 := by
  induction as generalizing s with
  | nil => exact absurd h List.not_mem_nil
  | cons a as ih =>
    rcases List.mem_cons.mp h with rfl | h
    · exact ⟨a, List.mem_cons_self .., s, rfl⟩
    · obtain ⟨c, hc, hb⟩ := ih h
      exact ⟨c, List.mem_cons_of_mem a hc, hb⟩

/-- `f` goes through the parts of its argument as `step` does. -/
structure Walks (step : α → σ → α × σ) (parts : β → List α) (f : β → σ → β × σ) : Prop where
  parts_eq : ∀ b s, parts (f b s).1 = (walk step (parts b) s).1
  state_eq : ∀ b s, (f b s).2 = (walk step (parts b) s).2

namespace Walks
variable {step : α → σ → α × σ} {parts : β → List α} {f : β → σ → β × σ}

theorem walk (h : Walks step parts f) :
    Walks step (fun bs : List β => bs.flatMap parts) (Library.walk f) := by
  have hboth : ∀ bs s, (Library.walk f bs s).1.flatMap parts =
        (Library.walk step (bs.flatMap parts) s).1 ∧
      (Library.walk f bs s).2 = (Library.walk step (bs.flatMap parts) s).2 := by
    intro bs
    induction bs with
    | nil => exact fun s => ⟨rfl, rfl⟩
    | cons b bs ih =>
      intro s
      obtain ⟨hparts, hstate⟩ := ih (f b s).2
      rw [walk_cons, List.flatMap_cons, List.flatMap_cons, walk_append, hparts, hstate,
        h.parts_eq, h.state_eq]
      exact ⟨rfl, rfl⟩
  exact ⟨fun bs s => (hboth bs s).1, fun bs s => (hboth bs s).2⟩

/-- The elements are their own parts. -/
theorem elements (step : α → σ → α × σ) :
    Walks step (fun as : List α => as) (Library.walk step) :=
  ⟨fun _ _ => rfl, fun _ _ => rfl⟩

end Walks

end Library
