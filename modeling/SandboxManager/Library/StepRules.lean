import Mathlib.Order.Basic
import Mathlib.Order.Nat
import Mathlib.Logic.Relation
import SandboxManager.Library.UntilFailure

/-! Rules for steps that may fail.

`Ends` is about a step that ends well: how the state after it is related to the one before.
`Staged` is about any end: the step only adds to a log, and what it adds is in order of stages that
lie within bounds. Both compose along a run of steps. -/
namespace Library

variable {ε σ γ : Type*} (ok : ε)

/-- Where the step ends well, the two states are related. -/
def Ends (step : σ → ε × σ) (Q : σ → σ → Prop) : Prop := ∀ s, (step s).1 = ok → Q s (step s).2

section
variable {ok} {step : σ → ε × σ} {Q Q' R : σ → σ → Prop}

theorem Ends.mono (h : Ends ok step Q) (hQ : ∀ s s', Q s s' → Q' s s') : Ends ok step Q' :=
  fun s hs => hQ _ _ (h s hs)

theorem Ends.ite {c : Prop} [Decidable c] {step' : σ → ε × σ} (h : c → Ends ok step Q)
    (h' : ¬ c → Ends ok step' Q) : Ends ok (if c then step else step') Q := by
  split
  next hc => exact h hc
  next hc => exact h' hc

variable [DecidableEq ε] {steps steps' : List (σ → ε × σ)}

theorem Ends.nil : Ends ok (untilFailure ok (fun step => step) []) (Eq (α := σ)) := fun _ _ => rfl

theorem Ends.cons (h : Ends ok step Q) (hs : Ends ok (untilFailure ok (fun step => step) steps) R) :
    Ends ok (untilFailure ok (fun step => step) (step :: steps)) (Relation.Comp Q R) := by
  intro s hok
  obtain ⟨hfirst, hrest⟩ := untilFailure_cons_eq_ok.mp hok
  rw [untilFailure_cons_of_ok hfirst]
  exact ⟨_, h s hfirst, hs _ hrest⟩

theorem Ends.append (h : Ends ok (untilFailure ok (fun step => step) steps) Q)
    (h' : Ends ok (untilFailure ok (fun step => step) steps') R) :
    Ends ok (untilFailure ok (fun step => step) (steps ++ steps')) (Relation.Comp Q R) := by
  intro s hok
  rw [untilFailure_append] at hok ⊢
  split at hok
  next hfirst =>
    rw [if_pos hfirst]
    exact ⟨_, h s hfirst, h' _ hok⟩
  next hfirst => exact absurd hok hfirst

end

/-! ### Stages of a log -/

section
variable (log : σ → List γ) (stage : γ → ℕ)

/-- What is added to the log is in order, from stage `lo` to stage `hi`. -/
def Adds (lo hi : ℕ) (s s' : σ) : Prop :=
  ∃ made, log s' = log s ++ made ∧ (made.map stage).Pairwise (· ≤ ·) ∧
    ∀ c ∈ made, lo ≤ stage c ∧ stage c ≤ hi

/-- So it is whatever comes of the step. -/
def Staged (lo hi : ℕ) (step : σ → ε × σ) : Prop := ∀ s, Adds log stage lo hi s (step s).2

variable {log stage} {lo mid hi : ℕ} {s s' s'' : σ}

theorem Adds.of_same (h : log s' = log s) : Adds log stage lo hi s s' :=
  ⟨[], by rw [h, List.append_nil], List.Pairwise.nil, List.forall_mem_nil _⟩

theorem Adds.one {c : γ} (h : log s' = log s ++ [c]) (hlo : lo ≤ stage c) (hhi : stage c ≤ hi) :
    Adds log stage lo hi s s' :=
  ⟨[c], h, List.pairwise_singleton _ _, List.forall_mem_singleton.mpr ⟨hlo, hhi⟩⟩

/-- All of one stage. -/
theorem Adds.level {made : List γ} {k : ℕ} (h : log s' = log s ++ made)
    (hstage : ∀ c ∈ made, stage c = k) (hlo : lo ≤ k) (hhi : k ≤ hi) :
    Adds log stage lo hi s s' := by
  refine ⟨made, h, ?_, fun c hc => hstage c hc ▸ ⟨hlo, hhi⟩⟩
  rw [List.pairwise_map]
  exact List.pairwise_of_forall_mem_list fun c hc c' hc' => by rw [hstage c hc, hstage c' hc']

theorem Adds.trans (h : Adds log stage lo mid s s') (h' : Adds log stage mid hi s' s'')
    (hlo : lo ≤ mid) (hhi : mid ≤ hi) : Adds log stage lo hi s s'' := by
  obtain ⟨made, hlog, hsorted, hbounds⟩ := h
  obtain ⟨made', hlog', hsorted', hbounds'⟩ := h'
  refine ⟨made ++ made', ?_, ?_, fun c hc => ?_⟩
  · rw [hlog', hlog, List.append_assoc]
  · rw [List.map_append, List.pairwise_append]
    refine ⟨hsorted, hsorted', fun i hi j hj => ?_⟩
    obtain ⟨c, hc, rfl⟩ := List.mem_map.mp hi
    obtain ⟨c', hc', rfl⟩ := List.mem_map.mp hj
    exact (hbounds c hc).2.trans (hbounds' c' hc').1
  · rcases List.mem_append.mp hc with hc | hc
    · exact ⟨(hbounds c hc).1, (hbounds c hc).2.trans hhi⟩
    · exact ⟨hlo.trans (hbounds' c hc).1, (hbounds' c hc).2⟩

theorem Adds.widen {lo' hi' : ℕ} (h : Adds log stage lo hi s s') (hlo : lo' ≤ lo) (hhi : hi ≤ hi') :
    Adds log stage lo' hi' s s' := by
  obtain ⟨made, hlog, hsorted, hbounds⟩ := h
  exact ⟨made, hlog, hsorted, fun c hc =>
    ⟨hlo.trans (hbounds c hc).1, (hbounds c hc).2.trans hhi⟩⟩

variable {step : σ → ε × σ}

theorem Staged.widen {lo' hi' : ℕ} (h : Staged log stage lo hi step) (hlo : lo' ≤ lo)
    (hhi : hi ≤ hi') : Staged log stage lo' hi' step := fun s => (h s).widen hlo hhi

theorem Staged.ite {c : Prop} [Decidable c] {step' : σ → ε × σ} (h : Staged log stage lo hi step)
    (h' : Staged log stage lo hi step') : Staged log stage lo hi (if c then step else step') := by
  split
  next => exact h
  next => exact h'

theorem Staged.not_mem {c : γ} (h : Staged log stage lo hi step) (hc : stage c < lo ∨ hi < stage c)
    (hs : c ∉ log s) : c ∉ log (step s).2 := by
  obtain ⟨made, hlog, -, hbounds⟩ := h s
  rw [hlog, List.mem_append, not_or]
  refine ⟨hs, fun hmade => ?_⟩
  obtain ⟨hlo, hhi⟩ := hbounds c hmade
  exact hc.elim hlo.not_gt hhi.not_gt

variable [DecidableEq ε] {ok} {steps steps' : List (σ → ε × σ)}

theorem Staged.append (h : Staged log stage lo mid (untilFailure ok (fun step => step) steps))
    (h' : Staged log stage mid hi (untilFailure ok (fun step => step) steps')) (hlo : lo ≤ mid)
    (hhi : mid ≤ hi) :
    Staged log stage lo hi (untilFailure ok (fun step => step) (steps ++ steps')) := by
  intro s
  rw [untilFailure_append]
  split
  next => exact (h s).trans (h' _) hlo hhi
  next => exact (h s).widen le_rfl hhi

theorem Staged.nil : Staged log stage lo hi (untilFailure ok (fun step => step) []) :=
  fun _ => Adds.of_same rfl

theorem Staged.singleton (h : Staged log stage lo hi step) :
    Staged log stage lo hi (untilFailure ok (fun step => step) [step]) := by
  intro s
  rw [untilFailure_singleton]
  exact h s

theorem Staged.cons (h : Staged log stage lo mid step)
    (hs : Staged log stage mid hi (untilFailure ok (fun step => step) steps)) (hlo : lo ≤ mid)
    (hhi : mid ≤ hi) :
    Staged log stage lo hi (untilFailure ok (fun step => step) (step :: steps)) :=
  h.singleton.append hs hlo hhi

/-- Where something is on the log at the end that a first step never adds, that step ended well. -/
theorem Staged.of_mem {c : γ} (h : Staged log stage lo hi step) (hc : stage c < lo ∨ hi < stage c)
    (hs : c ∉ log s)
    (hmem : c ∈ log (untilFailure ok (fun step => step) (step :: steps) s).2) :
    (step s).1 = ok ∧ c ∉ log (step s).2 ∧
      untilFailure ok (fun step => step) (step :: steps) s =
        untilFailure ok (fun step => step) steps (step s).2 := by
  have hnone := h.not_mem hc hs
  rw [untilFailure] at hmem ⊢
  split at hmem
  next hok => exact ⟨hok, hnone, if_pos hok⟩
  next => exact absurd hmem hnone

end

end Library
