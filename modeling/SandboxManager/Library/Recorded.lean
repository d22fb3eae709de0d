import Mathlib.Data.List.Basic

/-! Values recorded under keys.

A table that keeps the first value of each key says everything it was shown as long as no key
was shown with two values. Shown one more binding it then either knows it, learns it, or has met
the key's second value, and after that nothing makes the bindings consistent again. -/
namespace Library.Recorded

variable {κ α ι : Type*} {bindings : List (κ × α)}

/-- No key has two values. -/
def Consistent (bindings : List (κ × α)) : Prop :=
  ∀ x ∈ bindings, ∀ y ∈ bindings, x.1 = y.1 → x.2 = y.2

theorem Consistent.mono {more : List (κ × α)} (h : Consistent more) (hsub : bindings ⊆ more) :
    Consistent bindings :=
  fun x hx y hy => h x (hsub hx) y (hsub hy)

/-- Where the groups share no key, they are consistent together when each is. -/
theorem consistent_flatMap {groups : List ι} {f : ι → List (κ × α)}
    (h : ∀ i ∈ groups, ∀ j ∈ groups, ∀ x ∈ f i, ∀ y ∈ f j, x.1 = y.1 → i = j) :
    Consistent (groups.flatMap f) ↔ ∀ i ∈ groups, Consistent (f i) := by
  refine ⟨fun hall i hi => hall.mono fun x hx => List.mem_flatMap.mpr ⟨i, hi, hx⟩,
    fun heach x hx y hy hkey => ?_⟩
  obtain ⟨i, hi, hx⟩ := List.mem_flatMap.mp hx
  obtain ⟨j, hj, hy⟩ := List.mem_flatMap.mp hy
  obtain rfl := h i hi j hj x hx y hy hkey
  exact heach i hi x hx y hy hkey

section Table
variable [BEq κ]

/-- The table finds exactly the bindings it was shown. -/
def Represents (table bindings : List (κ × α)) : Prop :=
  ∀ k a, table.lookup k = some a ↔ (k, a) ∈ bindings

variable {table : List (κ × α)} {k : κ} {a b : α}

theorem represents_nil : Represents ([] : List (κ × α)) [] := by
  intro k a
  simp

theorem Represents.consistent (h : Represents table bindings) : Consistent bindings := by
  intro x hx y hy hkey
  have hlookup := ((h x.1 x.2).mpr hx).symm.trans (hkey ▸ (h y.1 y.2).mpr hy)
  exact Option.some.inj hlookup

/-- A binding the table has. -/
theorem Represents.known (h : Represents table bindings) (hk : table.lookup k = some a) :
    Represents table (bindings ++ [(k, a)]) := by
  intro k' a'
  rw [h k' a', List.mem_append, List.mem_singleton]
  refine ⟨Or.inl, fun hmem => hmem.elim id fun heq => ?_⟩
  rw [heq]
  exact (h k a).mp hk

/-- A binding of a key the table does not have. -/
theorem Represents.learn [LawfulBEq κ] (h : Represents table bindings)
    (hk : table.lookup k = none) (a : α) : Represents ((k, a) :: table) (bindings ++ [(k, a)]) := by
  intro k' a'
  rw [List.lookup_cons, List.mem_append, List.mem_singleton, ← h k' a']
  by_cases heq : k' = k
  · subst heq
    simp [hk, eq_comm]
  · have hne : (k' == k) = false := by simpa using heq
    simp [hne, heq]

/-- A binding of a key the table has with another value. -/
theorem Represents.clash (h : Represents table bindings) (hk : table.lookup k = some b)
    (hne : b ≠ a) : ¬ Consistent (bindings ++ [(k, a)]) := fun hall =>
  hne (hall (k, b) (List.mem_append_left _ ((h k b).mp hk)) (k, a)
    (List.mem_append_right _ (List.mem_singleton_self _)) rfl)

end Table

end Library.Recorded
