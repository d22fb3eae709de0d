import Mathlib
import SandboxManager.Library.Reader

/-! How much a reader takes.

A reader is measured when the length of what it takes can be told from what it read. Then nothing is
read out of a list that is shorter than what was read. -/
namespace Library

variable {β α γ : Type}

namespace Reader

theorem bind_eq_some {r : Reader β α} {f : α → Reader β γ} {l rest : List β} {c : γ}
    (h : (r >>= f) l = some (c, rest)) : ∃ a left, r l = some (a, left) ∧ f a left = some (c, rest) := by
  rw [bind_apply] at h
  obtain ⟨⟨a, left⟩, hr, hf⟩ := Option.bind_eq_some_iff.mp h
  exact ⟨a, left, hr, hf⟩

theorem length_of_take {n : Nat} {l w left : List β} (h : take n l = some (w, left)) :
    w.length = n ∧ l.length = n + left.length := by
  by_cases hn : n ≤ l.length
  · rw [take, if_pos hn] at h
    obtain ⟨rfl, rfl⟩ := Prod.mk.inj (Option.some.inj h)
    exact ⟨List.length_take_of_le hn, by rw [List.length_drop, Nat.add_sub_cancel' hn]⟩
  · rw [take, if_neg hn] at h
    cases h

theorem bind_take_eq_some {n : Nat} {f : List β → Reader β γ} {l rest : List β} {c : γ}
    (h : (take n >>= f) l = some (c, rest)) :
    ∃ w left, w.length = n ∧ l.length = n + left.length ∧ f w left = some (c, rest) := by
  obtain ⟨w, left, hw, hf⟩ := bind_eq_some h
  exact ⟨w, left, (length_of_take hw).1, (length_of_take hw).2, hf⟩

/-- What is taken is as long as what is read says. -/
def Measured (r : Reader β α) (size : α → Nat) : Prop :=
  ∀ {l a rest}, r l = some (a, rest) → l.length = size a + rest.length

theorem Measured.times {r : Reader β α} {size : α → Nat} (h : Measured r size) (n : Nat) :
    Measured (times n r) fun as => (as.map size).sum := by
  induction n with
  | zero =>
    intro l as rest hread
    obtain ⟨rfl, rfl⟩ : [] = as ∧ l = rest := Prod.mk.inj (Option.some.inj hread)
    exact (Nat.zero_add _).symm
  | succ n ih =>
    intro l as rest hread
    obtain ⟨a, left, hfirst, hmore⟩ := bind_eq_some hread
    obtain ⟨later, last, hlater, hlast⟩ := bind_eq_some hmore
    obtain ⟨rfl, rfl⟩ := Prod.mk.inj (Option.some.inj hlast)
    have hleft : left.length = (later.map size).sum + last.length := ih hlater
    show l.length = ((a :: later).map size).sum + last.length
    rw [h hfirst, hleft, List.map_cons, List.sum_cons, Nat.add_assoc]

end Reader

end Library
