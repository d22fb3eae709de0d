import Mathlib.Data.List.Basic

/-! Readers of a format.

A reader takes what it reads off the front of a list and leaves the rest. It reads a word
(`Reads`) when it takes exactly that word off, whatever follows; so what is written field by
field is read field by field, a counted run by its count and a delimited block by its length,
and none of them looks past its own end. -/
namespace Library

variable {β α γ : Type}

def Reader (β α : Type) : Type := List β → Option (α × List β)

namespace Reader

instance : Monad (Reader β) where
  pure a := fun l => some (a, l)
  bind r f := fun l =>
    match r l with
    | none => none
    | some (a, rest) => f a rest

theorem bind_apply (r : Reader β α) (f : α → Reader β γ) (l : List β) :
    (r >>= f) l = (r l).bind fun p => f p.1 p.2 := by
  show (match r l with
    | none => none
    | some (a, rest) => f a rest) = _
  cases r l <;> rfl

def fail : Reader β α := fun _ => none

/-- A decision that takes nothing. -/
def lift : Option α → Reader β α
  | none => fail
  | some a => pure a

def take (n : Nat) : Reader β (List β) := fun l =>
  if n ≤ l.length then some (l.take n, l.drop n) else none

def times : Nat → Reader β α → Reader β (List α)
  | 0, _ => pure []
  | n + 1, r => do
    let a ← r
    let as ← times n r
    pure (a :: as)

/-- Reads a block of a known length to its end. -/
def within (n : Nat) (r : Reader β α) : Reader β α := do
  let block ← take n
  match r block with
  | some (a, []) => pure a
  | _ => fail

/-- Reads the whole list. -/
def all (r : Reader β α) (l : List β) : Option α :=
  match r l with
  | some (a, []) => some a
  | _ => none

end Reader

def Reads (r : Reader β α) (w : List β) (a : α) : Prop := ∀ rest, r (w ++ rest) = some (a, rest)

namespace Reads
open Reader
variable {r : Reader β α} {f : α → Reader β γ} {w v : List β} {a : α} {c : γ}

theorem pure (a : α) : Reads (Pure.pure a : Reader β α) [] a := fun _ => rfl

theorem bind (hr : Reads r w a) (hf : Reads (f a) v c) : Reads (r >>= f) (w ++ v) c := by
  intro rest
  have h : (r >>= f) (w ++ (v ++ rest)) = f a (v ++ rest) := by
    show (match r (w ++ (v ++ rest)) with
      | none => none
      | some (a, rest) => f a rest) = _
    rw [hr (v ++ rest)]
  rw [List.append_assoc, h, hf rest]

/-- The last field of a record. -/
theorem bind_pure (hr : Reads r w a) (g : α → γ) :
    Reads (r >>= fun a => Pure.pure (g a)) w (g a) := by
  have h := hr.bind (f := fun a => (Pure.pure (g a) : Reader β γ)) (pure (g a))
  rwa [List.append_nil] at h

theorem lift {o : Option α} (ho : o = some a) : Reads (lift o : Reader β α) [] a := by
  subst ho
  exact pure a

/-- A decision before the rest is read. -/
theorem lift_bind {o : Option α} (ho : o = some a) (hf : Reads (f a) v c) :
    Reads (Reader.lift o >>= f) v c :=
  bind (lift ho) hf

theorem take (w : List β) : Reads (take w.length) w w := by
  intro rest
  simp [Reader.take]

theorem times {ι : Type} {word : ι → List β} {value : ι → α} {items : List ι}
    (h : ∀ i ∈ items, Reads r (word i) (value i)) :
    Reads (times items.length r) (items.flatMap word) (items.map value) := by
  induction items with
  | nil => exact pure []
  | cons i items ih =>
    have hi := h i (List.mem_cons_self ..)
    have hitems := ih fun j hj => h j (List.mem_cons_of_mem i hj)
    exact hi.bind (hitems.bind_pure (value i :: ·))

theorem within (hr : Reads r w a) : Reads (within w.length r) w a := by
  have hblock : r w = some (a, []) := by simpa using hr []
  have h := (take w).bind (f := fun block =>
    match r block with
    | some (a, []) => (Pure.pure a : Reader β α)
    | _ => fail) (v := []) (c := a) (by simp only [hblock]; exact pure a)
  rw [List.append_nil] at h
  exact h

theorem all (hr : Reads r w a) : r.all w = some a := by
  have h : r w = some (a, []) := by simpa using hr []
  rw [Reader.all, h]

end Reads

end Library
