import SandboxManager.Library.Reader

/-! Decoders that follow a reader.

A decoder works on a state of its own: a stream with a position, a pointer with what remains. It
follows a reader (`Follows`) when, standing at a list, it takes what the reader takes and then
stands at what the reader leaves, and fails where the reader fails. Decoders are put together as
readers are, so two that follow one reader accept the same lists. -/
namespace Library

variable {σ α β γ : Type}

abbrev Decoder (σ α : Type) := StateT σ Option α

namespace Reader

theorem times_succ (n : Nat) (r : Reader β α) (l : List β) :
    times (n + 1) r l =
      (r l).bind fun p => (times n r p.2).map fun q => (p.1 :: q.1, q.2) := by
  rw [times, bind_apply]
  apply congrArg
  funext p
  rw [bind_apply]
  cases times n r p.2 <;> rfl

/-- A run is read in parts. -/
theorem times_add (n m : Nat) (r : Reader β α) (l : List β) :
    times (n + m) r l =
      (times n r l).bind fun p => (times m r p.2).map fun q => (p.1 ++ q.1, q.2) := by
  induction n generalizing l with
  | zero =>
    rw [Nat.zero_add]
    show _ = (times m r l).map fun q => ([] ++ q.1, q.2)
    cases times m r l <;> rfl
  | succ n ih =>
    rw [Nat.add_right_comm, times_succ, times_succ]
    cases r l with
    | none => rfl
    | some p =>
      rw [Option.bind_some, Option.bind_some, ih]
      cases times n r p.2 with
      | none => rfl
      | some q =>
        rw [Option.map_some, Option.bind_some, Option.bind_some, Option.map_map]
        rfl

theorem length_times {n : Nat} {r : Reader β α} {l rest : List β} {items : List α}
    (h : times n r l = some (items, rest)) : items.length = n := by
  induction n generalizing l items with
  | zero =>
    obtain ⟨rfl, -⟩ : [] = items ∧ l = rest := Prod.mk.inj (Option.some.inj h)
    rfl
  | succ n ih =>
    rw [times_succ] at h
    obtain ⟨p, -, hmore⟩ := Option.bind_eq_some_iff.mp h
    obtain ⟨q, hlater, heq⟩ := Option.map_eq_some_iff.mp hmore
    obtain ⟨rfl, rfl⟩ := Prod.mk.inj heq
    rw [List.length_cons, ih hlater]

/-- A run begins with every shorter one. -/
theorem times_split {n m : Nat} {r : Reader β α} {l rest : List β} {items : List α}
    (h : times m r l = some (items, rest)) (hn : n ≤ m) :
    ∃ left, times n r l = some (items.take n, left) ∧
      times (m - n) r left = some (items.drop n, rest) := by
  rw [← Nat.add_sub_cancel' hn, times_add] at h
  obtain ⟨⟨first, left⟩, hfirst, hmore⟩ := Option.bind_eq_some_iff.mp h
  obtain ⟨⟨later, last⟩, hlater, heq⟩ := Option.map_eq_some_iff.mp hmore
  obtain ⟨rfl, rfl⟩ := Prod.mk.inj heq
  have hlength := length_times hfirst
  refine ⟨left, ?_, ?_⟩
  · rw [List.take_left' hlength]
    exact hfirst
  · rw [List.drop_left' hlength]
    exact hlater

theorem times_map (n : Nat) (r : Reader β α) (g : α → γ) (l : List β) :
    times n (r >>= fun a => pure (g a)) l = (times n r l).map fun p => (p.1.map g, p.2) := by
  induction n generalizing l with
  | zero => rfl
  | succ n ih =>
    rw [times_succ, times_succ, bind_apply]
    cases r l with
    | none => rfl
    | some p =>
      show ((times n (r >>= fun a => pure (g a)) p.2).map fun q => (g p.1 :: q.1, q.2)) = _
      rw [ih, Option.bind_some]
      cases times n r p.2 <;> rfl

end Reader

namespace Decoder

theorem bind_apply (d : Decoder σ α) (f : α → Decoder σ γ) (s : σ) :
    (d >>= f) s = (d s).bind fun p => f p.1 p.2 := by
  cases h : d s with
  | none => exact (congrArg (fun o => Option.bind o _) h).trans rfl
  | some p => exact (congrArg (fun o => Option.bind o _) h).trans rfl

/-- The loop of a decoder: the items so far, and the state unless it failed. -/
def collect (d : Decoder σ α) : Nat → σ → List α → List α × Option σ
  | 0, s, out => (out, some s)
  | n + 1, s, out =>
    match d s with
    | none => (out, none)
    | some (a, s) => collect d n s (out ++ [a])

/-- The decoder does at a state what the reader does at the list the state stands at. -/
structure Follows (At : σ → List β → Prop) (d : Decoder σ α) (r : Reader β α) : Prop where
  reads : ∀ {s l a rest}, At s l → r l = some (a, rest) → ∃ s', d s = some (a, s') ∧ At s' rest
  fails : ∀ {s l}, At s l → r l = none → d s = none

namespace Follows
variable {At : σ → List β → Prop} {d : Decoder σ α} {r : Reader β α}

theorem pure (a : α) : Follows At (Pure.pure a : Decoder σ α) (Pure.pure a : Reader β α) where
  reads {s l a' rest} hat hread := by
    obtain ⟨rfl, rfl⟩ : a = a' ∧ l = rest := Prod.mk.inj (Option.some.inj hread)
    exact ⟨s, rfl, hat⟩
  fails _ hread := by cases hread

theorem bind (h : Follows At d r) {f : α → Decoder σ γ} {g : α → Reader β γ}
    (hf : ∀ a, Follows At (f a) (g a)) : Follows At (d >>= f) (r >>= g) where
  reads {s l c rest} hat hread := by
    rw [Reader.bind_apply] at hread
    obtain ⟨⟨a, left⟩, hfirst, hsecond⟩ := Option.bind_eq_some_iff.mp hread
    obtain ⟨s₁, hd, hat₁⟩ := h.reads hat hfirst
    obtain ⟨s₂, hd₂, hat₂⟩ := (hf a).reads hat₁ hsecond
    refine ⟨s₂, ?_, hat₂⟩
    rw [Decoder.bind_apply, hd]
    exact hd₂
  fails {s l} hat hread := by
    rw [Reader.bind_apply] at hread
    rw [Decoder.bind_apply]
    cases hfirst : r l with
    | none => rw [h.fails hat hfirst, Option.bind_none]
    | some p =>
      obtain ⟨a, left⟩ := p
      obtain ⟨s₁, hd, hat₁⟩ := h.reads hat hfirst
      rw [hfirst] at hread
      rw [hd]
      exact (hf a).fails hat₁ hread

/-- A loop follows a run of the reader. -/
theorem collect_reads (h : Follows At d r) {n : Nat} {s : σ} {l rest : List β} {as : List α}
    (hat : At s l) (hread : Reader.times n r l = some (as, rest)) (out : List α) :
    ∃ s', collect d n s out = (out ++ as, some s') ∧ At s' rest := by
  induction n generalizing s l as out with
  | zero =>
    obtain ⟨rfl, rfl⟩ : [] = as ∧ l = rest := Prod.mk.inj (Option.some.inj hread)
    exact ⟨s, by rw [List.append_nil, collect], hat⟩
  | succ n ih =>
    rw [Reader.times_succ] at hread
    obtain ⟨⟨a, left⟩, hfirst, hsecond⟩ := Option.bind_eq_some_iff.mp hread
    obtain ⟨⟨as', rest'⟩, hmore, heq⟩ := Option.map_eq_some_iff.mp hsecond
    obtain ⟨rfl, rfl⟩ := Prod.mk.inj heq
    obtain ⟨s₁, hd, hat₁⟩ := h.reads hat hfirst
    obtain ⟨s₂, hloop, hat₂⟩ := ih hat₁ hmore (out ++ [a])
    refine ⟨s₂, ?_, hat₂⟩
    rw [collect, hd]
    show collect d n s₁ (out ++ [a]) = _
    rw [hloop, List.append_assoc, List.singleton_append]

theorem collect_fails (h : Follows At d r) {n : Nat} {s : σ} {l : List β} (hat : At s l)
    (hread : Reader.times n r l = none) (out : List α) : (collect d n s out).2 = none := by
  induction n generalizing s l out with
  | zero => cases hread
  | succ n ih =>
    rw [Reader.times_succ] at hread
    rw [collect]
    cases hfirst : r l with
    | none => rw [h.fails hat hfirst]
    | some p =>
      obtain ⟨a, left⟩ := p
      obtain ⟨s₁, hd, hat₁⟩ := h.reads hat hfirst
      rw [hfirst, Option.bind_some, Option.map_eq_none_iff] at hread
      rw [hd]
      exact ih hat₁ hread (out ++ [a])

end Follows
end Decoder

end Library
