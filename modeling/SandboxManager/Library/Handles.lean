import Mathlib.Data.List.Count
import Mathlib.Data.List.Pairwise

/-! What is done with handles.

A log of operations on handles is orderly when nothing is done with a handle once it has
been closed. Closing is itself an operation, so no handle of an orderly log is closed
twice (`Orderly.count_close`). -/
namespace Library
variable {η : Type*}

inductive HandleOp (η : Type*) where
  | use (handle : η)
  | close (handle : η)
deriving DecidableEq

namespace HandleOp

def handle : HandleOp η → η
  | use handle => handle
  | close handle => handle

end HandleOp

/-- Nothing is done with a handle after it was closed. -/
def Orderly (ops : List (HandleOp η)) : Prop :=
  ops.Pairwise fun earlier later => earlier ≠ .close later.handle

namespace Orderly
variable {ops : List (HandleOp η)} {op : HandleOp η}

theorem nil : Orderly ([] : List (HandleOp η)) := List.Pairwise.nil

/-- An operation on a handle that is not closed keeps the log orderly. -/
theorem concat (h : Orderly ops) (hop : .close op.handle ∉ ops) : Orderly (ops ++ [op]) := by
  refine List.pairwise_append.mpr ⟨h, List.pairwise_singleton _ _, ?_⟩
  intro earlier hearlier later hlater heq
  rw [List.mem_singleton.mp hlater] at heq
  exact hop (heq ▸ hearlier)

theorem count_close [DecidableEq η] (h : Orderly ops) (handle : η) :
    ops.count (.close handle) ≤ 1 := by
  induction ops with
  | nil => simp
  | cons op ops ih =>
    obtain ⟨hfirst, hrest⟩ := List.pairwise_cons.mp h
    by_cases hop : op = .close handle
    · have hnone : HandleOp.close handle ∉ ops := fun hmem => hfirst _ hmem hop
      have hcount : (op :: ops).count (.close handle) = 1 := by
        rw [hop, List.count_cons_self, List.count_eq_zero_of_not_mem hnone]
      exact Nat.le_of_eq hcount
    · rw [List.count_cons_of_ne hop]
      exact ih hrest

end Orderly

end Library
