import Mathlib.Data.List.Basic

/-! Readers that check what they read.

A reader that may refuse is described by two things that know nothing of each other: what is
legal, and what is meant where it is (`Checks`). Readers put together are described by what their
parts are, so a parser is taken apart along its own lines and comes out as one condition on its
input and one value. A reader that says why it refuses is right when what it says is so
(`Blames`), and this too is asked of its parts. -/
namespace Library

universe u
variable {ε ι : Type*} {α β σ : Type u}

/-- The reader accepts what is legal and nothing else, and then answers what is meant. -/
structure Checks (read : Except ε α) (legal : Prop) (meant : α) : Prop where
  eq_ok_iff : ∀ value, read = .ok value ↔ legal ∧ meant = value

namespace Checks
variable {read : Except ε α} {legal legal' : Prop} {meant meant' : α}

theorem ok (a : α) : Checks (.ok a : Except ε α) True a := ⟨fun value => by simp⟩

theorem error (why : ε) (h : ¬ legal) (a : α) : Checks (.error why : Except ε α) legal a :=
  ⟨fun value => by simp [h]⟩

theorem iff (h : Checks read legal meant) (hlegal : legal ↔ legal') : Checks read legal' meant :=
  ⟨fun value => by rw [h.eq_ok_iff, hlegal]⟩

/-- What is meant is asked for where it is legal. -/
theorem means (h : Checks read legal meant) (hmeant : legal → meant = meant') :
    Checks read legal meant' :=
  ⟨fun value => (h.eq_ok_iff value).trans (and_congr_right fun hl => by rw [hmeant hl])⟩

/-- What comes next may rely on what came before. -/
theorem bind {next : α → Except ε β} {after : Prop} {meant' : β} (h : Checks read legal meant)
    (hnext : legal → Checks (next meant) after meant') :
    Checks (read >>= next) (legal ∧ after) meant' := by
  constructor
  intro value
  cases hread : read with
  | error why =>
    have hnot : ¬ legal := fun hl => by simpa [hread] using (h.eq_ok_iff meant).mpr ⟨hl, rfl⟩
    simp [Bind.bind, Except.bind, hnot]
  | ok a =>
    obtain ⟨hl, rfl⟩ := (h.eq_ok_iff a).mp hread
    simp only [Bind.bind, Except.bind, (hnext hl).eq_ok_iff value, hl, true_and]

theorem map (f : α → β) (h : Checks read legal meant) :
    Checks (read >>= fun a => .ok (f a)) legal (f meant) :=
  (h.bind fun _ => ok (f meant)).iff (and_iff_left trivial)

/-- A guard refuses, or lets the next reader on. -/
theorem guard {refuse : Prop} [Decidable refuse] (why : ε) (h : ¬ refuse → Checks read legal meant) :
    Checks (if refuse then .error why else read) (¬ refuse ∧ legal) meant := by
  constructor
  intro value
  by_cases hr : refuse
  · simp [hr]
  · simp [hr, (h hr).eq_ok_iff value]

/-- The items of a list, one after another. -/
theorem mapM {step : ι → Except ε β} {legal : ι → Prop} {each : ι → β} {items : List ι}
    (h : ∀ i ∈ items, Checks (step i) (legal i) (each i)) :
    Checks (items.mapM step) (∀ i ∈ items, legal i) (items.map each) := by
  induction items with
  | nil => exact (Checks.ok []).iff (by simp)
  | cons i items ih =>
    have hrest := ih fun j hj => h j (List.mem_cons_of_mem i hj)
    rw [List.mapM_cons, List.forall_mem_cons, List.map_cons]
    exact (h i List.mem_cons_self).bind fun _ => hrest.map (each i :: ·)

/-- The items of a list, each read as something it is asked for apart. -/
theorem filterMapM {step : ι → Except ε β} {legal : ι → Prop} {read : ι → Option β} {items : List ι}
    (h : ∀ i ∈ items, ∀ value, step i = .ok value ↔ legal i ∧ read i = some value)
    (hread : ∀ i ∈ items, legal i → (read i).isSome) :
    Checks (items.mapM step) (∀ i ∈ items, legal i) (items.filterMap read) := by
  induction items with
  | nil => exact (Checks.ok []).iff (by simp)
  | cons i items ih =>
    have hrest := ih (fun j hj => h j (List.mem_cons_of_mem i hj))
      fun j hj => hread j (List.mem_cons_of_mem i hj)
    have hi := h i List.mem_cons_self
    rw [List.mapM_cons, List.forall_mem_cons]
    cases hvalue : read i with
    | some b =>
      have hfirst : Checks (step i) (legal i) b :=
        ⟨fun value => by rw [hi, hvalue, Option.some.injEq]⟩
      rw [List.filterMap_cons_some hvalue]
      exact hfirst.bind fun _ => hrest.map (b :: ·)
    | none =>
      have hnot : ¬ legal i := fun hl => by simpa [hvalue] using hread i List.mem_cons_self hl
      cases hstep : step i with
      | ok value => exact absurd ((hi value).mp hstep).1 hnot
      | error why => exact Checks.error why (fun hl => hnot hl.1) _

/-- Checks with nothing to read, one after another. -/
theorem forM {check : ι → Except ε PUnit} {legal : ι → Prop} {items : List ι}
    (h : ∀ i ∈ items, Checks (check i) (legal i) ⟨⟩) :
    Checks (ForM.forM items check) (∀ i ∈ items, legal i) ⟨⟩ := by
  induction items with
  | nil => exact (Checks.ok _).iff (by simp)
  | cons i items ih =>
    rw [List.forM_cons, List.forall_mem_cons]
    exact (h i List.mem_cons_self).bind fun _ => ih fun j hj => h j (List.mem_cons_of_mem i hj)

/-- A state carried along a list. -/
theorem foldlM {step : σ → ι → Except ε σ} {legal : ι → Prop} {next : σ → ι → σ} {items : List ι}
    (h : ∀ i ∈ items, ∀ s, Checks (step s i) (legal i) (next s i)) (s : σ) :
    Checks (items.foldlM step s) (∀ i ∈ items, legal i) (items.foldl next s) := by
  induction items generalizing s with
  | nil => exact (Checks.ok s).iff (by simp)
  | cons i items ih =>
    rw [List.foldlM_cons, List.forall_mem_cons, List.foldl_cons]
    exact (h i List.mem_cons_self s).bind fun _ =>
      ih (fun j hj => h j (List.mem_cons_of_mem i hj)) (next s i)

end Checks

/-- Whenever the reader refuses, what it blames is at fault. -/
structure Blames (Fault : ε → Prop) (read : Except ε α) : Prop where
  fault : ∀ why, read = .error why → Fault why

namespace Blames
variable {Fault : ε → Prop} {read : Except ε α}

theorem ok (a : α) : Blames Fault (.ok a) := ⟨fun _ h => by cases h⟩

theorem error {why : ε} (h : Fault why) : Blames Fault (.error why : Except ε α) :=
  ⟨fun _ heq => Except.error.inj heq ▸ h⟩

theorem bind {next : α → Except ε β} (h : Blames Fault read)
    (hnext : ∀ a, read = .ok a → Blames Fault (next a)) : Blames Fault (read >>= next) := by
  cases hread : read with
  | error why => exact error (h.fault why hread)
  | ok a => exact hnext a hread

theorem foldlM {step : σ → ι → Except ε σ} {items : List ι}
    (h : ∀ i ∈ items, ∀ s, Blames Fault (step s i)) (s : σ) :
    Blames Fault (items.foldlM step s) := by
  induction items generalizing s with
  | nil => exact ok s
  | cons i items ih =>
    rw [List.foldlM_cons]
    exact (h i List.mem_cons_self s).bind fun s' _ =>
      ih (fun j hj => h j (List.mem_cons_of_mem i hj)) s'

end Blames

end Library
