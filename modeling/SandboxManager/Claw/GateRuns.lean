import SandboxManager.Claw.StartGate

/-! The start gate in every interleaving.

Three invariants of a fork with a gate. What a process still holds it has not closed
(`Descriptors`); a token is in the socket exactly when the parent has released the gate and
the child has not read it, and the parent releases only what is initialised (`Token`); the
parent has been told of the child's end exactly when the child is reaped (`Reaping`). -/
namespace SandboxManager.Claw
open Library

/-! ### The descriptors of one process -/

namespace GateEnds

/-- The member for an end holds a descriptor. -/
def holds (g : GateEnds) : GateEnd → Bool
  | .read => g.startGateReadFd
  | .write => g.startGateWriteFd

/-- What is open is held, and what is held has not been closed. -/
structure Sound (g : GateEnds) : Prop where
  orderly : Orderly g.ops
  held : ∀ e, g.holds e = true → .close e ∉ g.ops
  opened : ∀ e, g.isOpen e = true → g.holds e = true

variable {g : GateEnds}

theorem Sound.use (h : g.Sound) {e : GateEnd} (he : g.holds e = true) : (g.use e).Sound where
  orderly := h.orderly.concat (h.held e he)
  held e' he' := by
    rw [GateEnds.use, List.mem_append, not_or]
    exact ⟨h.held e' (by cases e' <;> exact he'), by simp⟩
  opened e' he' := by
    have hheld := h.opened e' he'
    cases e' <;> exact hheld

theorem Sound.closeRead (h : g.Sound) (he : g.startGateReadFd = true) : g.closeRead.Sound where
  orderly := h.orderly.concat (h.held .read he)
  held e he' := by
    cases e with
    | read => cases he'
    | write =>
      show HandleOp.close GateEnd.write ∉ g.ops ++ [.close .read]
      rw [List.mem_append, not_or]
      exact ⟨h.held .write he', by simp⟩
  opened e he' := by
    cases e with
    | read => cases he'
    | write => exact h.opened .write he'

theorem Sound.closeWrite (h : g.Sound) (he : g.startGateWriteFd = true) : g.closeWrite.Sound where
  orderly := h.orderly.concat (h.held .write he)
  held e he' := by
    cases e with
    | write => cases he'
    | read =>
      show HandleOp.close GateEnd.read ∉ g.ops ++ [.close .write]
      rw [List.mem_append, not_or]
      exact ⟨h.held .read he', by simp⟩
  opened e he' := by
    cases e with
    | write => cases he'
    | read => exact h.opened .read he'

theorem Sound.dropRead (h : g.Sound) : g.dropRead.Sound := by
  unfold GateEnds.dropRead
  split
  next he => exact h.closeRead he
  · exact h

theorem Sound.closeStartGate (h : g.Sound) : g.closeStartGate.Sound := by
  unfold GateEnds.closeStartGate
  split
  next he => exact h.closeWrite he
  · exact h

theorem Sound.vanish (h : g.Sound) : g.vanish.Sound where
  orderly := h.orderly
  held e he := h.held e (by cases e <;> exact he)
  opened e he := by cases he

/-- What has been dropped is not open. -/
theorem Sound.closed (h : g.Sound) (hwrite : g.startGateWriteFd = false) :
    g.isOpen .write = false := by
  rw [← Bool.not_eq_true]
  intro hopen
  have hheld := h.opened .write hopen
  rw [show g.holds .write = g.startGateWriteFd from rfl, hwrite] at hheld
  cases hheld

theorem closeStartGate_write : g.closeStartGate.startGateWriteFd = false := by
  unfold closeStartGate
  split
  · rfl
  next h => exact Bool.not_eq_true _ ▸ h

theorem closeStartGate_read : g.closeStartGate.startGateReadFd = g.startGateReadFd := by
  unfold closeStartGate
  split <;> rfl

theorem closeStartGate_openRead : g.closeStartGate.isOpen .read = g.isOpen .read := by
  unfold closeStartGate
  split <;> rfl

end GateEnds

theorem sound_createStartGate (config : GateConfig) : (createStartGate config).Sound := by
  unfold createStartGate
  split
  · exact ⟨.nil, fun _ _ => List.not_mem_nil, fun e _ => by cases e <;> rfl⟩
  · exact ⟨.nil, fun _ _ => List.not_mem_nil, fun _ h => by cases h⟩

/-! ### Invariants -/

/-- What each process holds where it is. -/
structure Descriptors (s : GateState) : Prop where
  parent : s.parentEnds.Sound
  child : s.childEnds.Sound
  sending : s.parent = .send ∨ s.parent = .sent → s.parentEnds.startGateWriteFd = true
  starting : s.child = .start → s.childEnds.startGateReadFd = true ∧ s.childEnds.isOpen .read = true
  waiting : s.child = .gate → s.childEnds.isOpen .read = true
  reading : ∀ got, s.child = .gate ∨ s.child = .answered got →
    s.childEnds.startGateReadFd = true ∧ s.childEnds.startGateWriteFd = false
  ended : s.parent.alive = false → s.parentEnds.isOpen .write = false

variable {config : GateConfig} {s s' : GateState}

/-- A parent's step leaves the child's side of the gate alone, and the child where it is
unless it reaps it. -/
theorem ParentStep.child (hstep : ParentStep config s s') :
    s'.childEnds = s.childEnds ∧ (s'.child = s.child ∧ s'.reaped = s.reaped ∨
      ∃ status, s.child = .zombie status ∧ s'.child = .reaped status ∧
        s'.reaped = s.reaped ++ [status]) := by
  cases hstep with
  | @reapChild call status at_ child => exact ⟨rfl, Or.inr ⟨status, child, rfl, rfl⟩⟩
  | @waitChild status at_ child => exact ⟨rfl, Or.inr ⟨status, child, rfl, rfl⟩⟩
  | _ => exact ⟨rfl, Or.inl ⟨rfl, rfl⟩⟩

/-- A child that is not reaped is where the step found it. -/
theorem ParentStep.same (hstep : ParentStep config s s') {point : ChildPoint}
    (hpoint : s'.child = point) (hnot : ∀ status, point ≠ .reaped status) : s.child = point := by
  obtain ⟨-, ⟨hchild, -⟩ | ⟨status, -, hchild, -⟩⟩ := hstep.child
  · exact hchild ▸ hpoint
  · exact absurd (hpoint ▸ hchild) (hnot status)

/-- A parent's step leaves the token alone unless it sends it. -/
theorem ParentStep.token (hstep : ParentStep config s s') :
    s'.passed = s.passed ∧ (s'.tokens = s.tokens ∧ s'.released = s.released ∨
      0 < s'.tokens ∧ s'.released = true) := by
  cases hstep with
  | sendToken at_ isOpen reader => exact ⟨rfl, Or.inr ⟨Nat.succ_pos _, rfl⟩⟩
  | _ => exact ⟨rfl, Or.inl ⟨rfl, rfl⟩⟩

/-- A child's step leaves the parent and its side of the gate alone. -/
theorem ChildStep.parent (hstep : ChildStep config s s') :
    s'.parent = s.parent ∧ s'.parentEnds = s.parentEnds ∧ s'.monitor = s.monitor ∧
      s'.initialised = s.initialised ∧ s'.released = s.released ∧ s'.reaped = s.reaped := by
  cases hstep <;> exact ⟨rfl, rfl, rfl, rfl, rfl, rfl⟩

theorem Descriptors.parentStep (h : Descriptors s) (hstep : ParentStep config s s') :
    Descriptors s' := by
  have hends := hstep.child.1
  constructor
  case parent =>
    cases hstep with
    | dropRead at_ monitor => exact h.parent.dropRead
    | noMonitor at_ monitor => exact h.parent.dropRead
    | initFailed at_ => exact h.parent.closeStartGate
    | sendInterrupted at_ => exact h.parent.use (h.sending (Or.inl at_))
    | sendToken at_ => exact h.parent.use (h.sending (Or.inl at_))
    | sendFailed at_ => exact h.parent.use (h.sending (Or.inl at_))
    | sent at_ => exact h.parent.closeWrite (h.sending (Or.inr at_))
    | closeStartGate at_ known => exact h.parent.closeStartGate
    | fallBack at_ unknown => exact h.parent.closeStartGate
    | exit at_ => exact h.parent.vanish
    | lost alive => exact h.parent.vanish
    | _ => exact h.parent
  case child =>
    rw [hends]
    exact h.child
  case sending =>
    have hsending := h.sending
    cases hstep with
    | release at_ held => exact fun _ => held
    | sendInterrupted at_ => exact fun _ => hsending (Or.inl at_)
    | sendToken at_ => exact fun _ => hsending (Or.inl at_)
    | sendFailed at_ => exact fun _ => hsending (Or.inl at_)
    | _ => simp_all
  case starting =>
    intro hstart
    rw [hends]
    exact h.starting (hstep.same hstart nofun)
  case waiting =>
    intro hgate
    rw [hends]
    exact h.waiting (hstep.same hgate nofun)
  case reading =>
    intro got hgot
    rw [hends]
    exact h.reading got (hgot.imp (fun h => hstep.same h nofun) fun h => hstep.same h nofun)
  case ended =>
    cases hstep with
    | exit at_ => exact fun _ => rfl
    | lost alive => exact fun _ => rfl
    | _ => simp_all [ParentPoint.alive]

theorem Descriptors.childStep (h : Descriptors s) (hstep : ChildStep config s s') :
    Descriptors s' := by
  obtain ⟨hparent, hends, -⟩ := hstep.parent
  constructor
  case parent =>
    rw [hends]
    exact h.parent
  case child =>
    cases hstep with
    | dropWrite at_ gate => exact h.child.closeStartGate
    | noGate at_ gate => exact h.child.closeStartGate
    | readInterrupted at_ => exact h.child.use (h.reading .token (Or.inl at_)).1
    | readToken at_ => exact h.child.use (h.reading .token (Or.inl at_)).1
    | readEof at_ => exact h.child.use (h.reading .token (Or.inl at_)).1
    | readFailed at_ => exact h.child.use (h.reading .token (Or.inl at_)).1
    | pass at_ => exact h.child.closeRead (h.reading _ (Or.inr at_)).1
    | refuse at_ not_token => exact (h.child.closeRead (h.reading _ (Or.inr at_)).1).vanish
    | exit at_ status => exact h.child.vanish
    | killed alive signal => exact h.child.vanish
  case sending =>
    rw [hparent, hends]
    exact h.sending
  case starting =>
    cases hstep with
    | readInterrupted at_ =>
      intro hstart
      rw [show _ = ChildPoint.start from hstart] at at_
      cases at_
    | _ => exact nofun
  case waiting =>
    cases hstep with
    | dropWrite at_ gate =>
      intro _
      rw [GateEnds.closeStartGate_openRead]
      exact (h.starting at_).2
    | readInterrupted at_ => exact fun _ => h.waiting at_
    | _ => exact nofun
  case reading =>
    cases hstep with
    | dropWrite at_ gate =>
      intro got _
      exact ⟨GateEnds.closeStartGate_read.trans (h.starting at_).1, GateEnds.closeStartGate_write⟩
    | readInterrupted at_ => exact fun got _ => h.reading got (Or.inl at_)
    | readToken at_ => exact fun got _ => h.reading got (Or.inl at_)
    | readEof at_ => exact fun got _ => h.reading got (Or.inl at_)
    | readFailed at_ => exact fun got _ => h.reading got (Or.inl at_)
    | _ => exact fun got hgot => hgot.elim nofun nofun
  case ended =>
    rw [hparent, hends]
    exact h.ended

/-- The token, from the initialisation to the child. -/
structure Token (s : GateState) : Prop where
  early : s.parent = .start ∨ s.parent = .monitorInit → s.released = false
  initialised : s.parent = .releaseStartGate ∨ s.parent = .send ∨ s.released = true →
    s.initialised = some .SUCCESS
  released : 0 < s.tokens → s.released = true
  present : s.released = true → s.child = .start ∨ s.child = .gate → 0 < s.tokens
  taken : s.child = .answered .token ∨ s.passed = true → s.released = true
  running : s.child = .running → s.passed = true

theorem Token.parentStep (h : Token s) (hstep : ParentStep config s s') : Token s' := by
  obtain ⟨hpassed, htoken⟩ := hstep.token
  constructor
  case early =>
    cases hstep with
    | dropRead at_ monitor => exact fun _ => h.early (Or.inl at_)
    | sendInterrupted at_ => exact h.early
    | reapInterrupted at_ => exact h.early
    | pollInterrupted at_ => exact h.early
    | waitInterrupted at_ => exact h.early
    | otherEvent at_ monitorError => exact h.early
    | _ => simp
  case initialised =>
    cases hstep with
    | init answers at_ success => exact fun _ => rfl
    | initError answers at_ failure => simp [h.early (Or.inr at_)]
    | release at_ held => exact fun _ => h.initialised (Or.inl at_)
    | sendInterrupted at_ => exact h.initialised
    | sendToken at_ isOpen reader => exact fun _ => h.initialised (Or.inr (Or.inl at_))
    | reapInterrupted at_ => exact h.initialised
    | pollInterrupted at_ => exact h.initialised
    | waitInterrupted at_ => exact h.initialised
    | otherEvent at_ monitorError => exact h.initialised
    | _ => exact fun hsent => h.initialised (Or.inr (Or.inr (by simpa [GateState.reap] using hsent)))
  case released =>
    intro htokens
    rcases htoken with ⟨hsame, hreleased⟩ | ⟨-, hreleased⟩
    · rw [hsame] at htokens
      rw [hreleased, h.released htokens]
    · exact hreleased
  case present =>
    intro hsent hchild
    rcases htoken with ⟨hsame, hreleased⟩ | ⟨htokens, -⟩
    · rw [hreleased] at hsent
      rw [hsame]
      exact h.present hsent
        (hchild.imp (fun hc => hstep.same hc nofun) fun hc => hstep.same hc nofun)
    · exact htokens
  case taken =>
    intro hchild
    rw [hpassed] at hchild
    have hbefore := h.taken (hchild.imp_left fun hc => hstep.same hc nofun)
    rcases htoken with ⟨-, hreleased⟩ | ⟨-, hreleased⟩
    · rw [hreleased, hbefore]
    · exact hreleased
  case running =>
    intro hchild
    rw [hpassed]
    exact h.running (hstep.same hchild nofun)

theorem Token.childStep (hconfig : config.needsStartGate = true) (h : Token s)
    (hstep : ChildStep config s s') : Token s' := by
  obtain ⟨hparent, -, -, hinitialised, hreleased, -⟩ := hstep.parent
  constructor
  case early =>
    rw [hparent, hreleased]
    exact h.early
  case initialised =>
    rw [hparent, hreleased, hinitialised]
    exact h.initialised
  case released =>
    rw [hreleased]
    cases hstep with
    | readToken at_ isOpen token => exact fun _ => h.released token
    | _ => exact h.released
  case present =>
    rw [hreleased]
    intro hsent
    cases hstep with
    | dropWrite at_ gate => exact fun _ => h.present hsent (Or.inl at_)
    | readInterrupted at_ => exact fun _ => h.present hsent (Or.inr at_)
    | _ => exact fun hchild => hchild.elim nofun nofun
  case taken =>
    rw [hreleased]
    cases hstep with
    | noGate at_ gate => rw [hconfig] at gate; cases gate
    | readToken at_ isOpen token => exact fun _ => h.released token
    | pass at_ => exact fun _ => h.taken (Or.inl at_)
    | readInterrupted at_ => exact h.taken
    | readFailed at_ => exact fun hchild => h.taken (hchild.imp_left nofun)
    | readEof at_ isOpen noToken noWriter =>
      exact fun hchild => h.taken (hchild.imp_left nofun)
    | _ => exact fun hchild => h.taken (hchild.imp_left nofun)
  case running =>
    cases hstep with
    | noGate at_ gate => exact fun _ => rfl
    | readInterrupted at_ => exact h.running
    | pass at_ => exact fun _ => rfl
    | _ => exact nofun

/-! ### Reaping -/

theorem SandboxError.value_neg {e : SandboxError} (h : e ≠ .SUCCESS) : e.value < 0 := by
  cases e <;> first | exact absurd rfl h | decide

theorem WaitStatus.exitCode_range (status : WaitStatus) :
    0 ≤ status.exitCode ∧ status.exitCode < 256 := by
  cases status with
  | exited status =>
    have hlt := status.toNat_lt
    simp only [exitCode]
    omega
  | signaled signal =>
    have hlt := signal.isLt
    simp only [exitCode, SIGNAL_EXIT_BASE]
    omega

/-- The code is the low byte of itself, so the parent exits with it. -/
theorem WaitStatus.toNat_ofInt_exitCode (status : WaitStatus) :
    ((UInt8.ofInt status.exitCode).toNat : Int) = status.exitCode := by
  have hrange := status.exitCode_range
  rw [UInt8.ofInt, UInt8.toNat_ofNat']
  omega

theorem MonitorOutcome.resolveRunResult_neg {m : MonitorOutcome} (h : m.childExitCode = -1) :
    m.resolveRunResult < 0 := by
  unfold resolveRunResult
  rw [if_neg (not_not_intro h)]
  split
  next herror => exact SandboxError.value_neg herror
  · decide

theorem MonitorOutcome.resolveRunResult_reaped (status : WaitStatus) (error : SandboxError) :
    resolveRunResult ⟨status.exitCode, error⟩ = status.exitCode := by
  have hrange := status.exitCode_range
  have hknown : status.exitCode ≠ -1 := by omega
  exact if_pos hknown

/-- What the parent has been told of the child, by where it is. -/
def ToldAt (reaped : List WaitStatus) (monitor : MonitorOutcome) : ParentPoint → Prop
  | .initFailed ret => reaped = [] ∧ ret.value < 0
  | .closeStartGate exitCode =>
    exitCode < 0 ∧ reaped = [] ∨ ∃ status, reaped = [status] ∧ exitCode = status.exitCode
  | .waitForChildExit => reaped = []
  | .leave exitCode => ∃ status, reaped = [status] ∧ exitCode = status.exitCode
  | .exited code => ∃ status, reaped = [status] ∧ (code.toNat : Int) = status.exitCode
  | .gone => True
  | _ => reaped = [] ∧ monitor.childExitCode = -1

/-- An error in the monitor's loop ends it with a negative code. -/
theorem toldAt_failed {reaped : List WaitStatus} {m : MonitorOutcome}
    (h : reaped = [] ∧ m.childExitCode = -1) (monitorError : SandboxError) :
    ToldAt reaped { m with monitorError } (.closeStartGate
      (MonitorOutcome.resolveRunResult { m with monitorError })) :=
  Or.inl ⟨MonitorOutcome.resolveRunResult_neg h.2, h.1⟩

structure Reaping (s : GateState) : Prop where
  child : s.reaped = [] ∧ (∀ status, s.child ≠ .reaped status) ∨
    ∃ status, s.child = .reaped status ∧ s.reaped = [status]
  told : ToldAt s.reaped s.monitor s.parent

theorem Reaping.parentStep (h : Reaping s) (hstep : ParentStep config s s') : Reaping s' := by
  obtain ⟨hchild, htold⟩ := h
  have hnone : ∀ status, s.child = .zombie status → s.reaped = [] := by
    intro status hzombie
    rcases hchild with ⟨hnone, -⟩ | ⟨status', hreaped, -⟩
    · exact hnone
    · rw [hzombie] at hreaped
      cases hreaped
  constructor
  case child =>
    rcases hstep.child with ⟨-, ⟨hsame, hreaped⟩ | ⟨status, hzombie, hreaped, htold⟩⟩
    · rw [hsame, hreaped]
      exact hchild
    · right
      refine ⟨status, hreaped, ?_⟩
      rw [htold, hnone status hzombie, List.nil_append]
  case told =>
    cases hstep with
    | dropRead at_ monitor => rwa [at_] at htold
    | noMonitor at_ monitor =>
      rw [at_] at htold
      exact Or.inl ⟨by decide, htold.1⟩
    | init answers at_ success => rwa [at_] at htold
    | initError answers at_ failure =>
      rw [at_] at htold
      exact ⟨htold.1, SandboxError.value_neg failure⟩
    | initFailed at_ =>
      rw [at_] at htold
      exact Or.inl htold.symm
    | release at_ held => rwa [at_] at htold
    | releaseNothing at_ held => rwa [at_] at htold
    | sendInterrupted at_ => exact htold
    | sendToken at_ isOpen reader => rwa [at_] at htold
    | sendFailed at_ => rwa [at_] at htold
    | sent at_ => rwa [at_] at htold
    | reapInterrupted at_ => exact htold
    | reapNothing at_ child => rwa [at_] at htold
    | reapNotYet at_ child => rwa [at_] at htold
    | @reapChild call status at_ child =>
      right
      refine ⟨status, ?_, MonitorOutcome.resolveRunResult_reaped status _⟩
      show s.reaped ++ [status] = [status]
      rw [hnone status child, List.nil_append]
    | reapFailed at_ child =>
      rw [at_] at htold
      exact toldAt_failed htold _
    | pollInterrupted at_ => exact htold
    | pollFailed at_ =>
      rw [at_] at htold
      exact toldAt_failed htold _
    | pollEvents at_ => rwa [at_] at htold
    | otherEvent at_ monitorError =>
      rw [at_] at htold
      show ToldAt s.reaped { s.monitor with monitorError := monitorError } s.parent
      rw [at_]
      exact htold
    | otherStop at_ monitorError =>
      rw [at_] at htold
      exact toldAt_failed htold _
    | childEvent at_ => rwa [at_] at htold
    | childEventFailed at_ =>
      rw [at_] at htold
      exact toldAt_failed htold _
    | batchDone at_ => rwa [at_] at htold
    | closeStartGate at_ known =>
      rw [at_] at htold
      rcases htold with ⟨hneg, -⟩ | htold
      · omega
      · exact htold
    | fallBack at_ unknown =>
      rw [at_] at htold
      rcases htold with ⟨-, hempty⟩ | ⟨status, -, hcode⟩
      · exact hempty
      · have hrange := status.exitCode_range
        omega
    | waitInterrupted at_ => exact htold
    | @waitChild status at_ child =>
      refine ⟨status, ?_, rfl⟩
      show s.reaped ++ [status] = [status]
      rw [hnone status child, List.nil_append]
    | @waitFailed status at_ child =>
      -- a child that was reaped has been told of
      rw [at_] at htold
      rcases hchild with ⟨-, hnot⟩ | ⟨status', -, hreaped⟩
      · exact absurd child (hnot status)
      · rw [show s.reaped = [] from htold] at hreaped
        cases hreaped
    | exit at_ =>
      rw [at_] at htold
      obtain ⟨status, hreaped, hcode⟩ := htold
      refine ⟨status, hreaped, ?_⟩
      rw [hcode]
      exact status.toNat_ofInt_exitCode
    | lost alive => trivial

/-- A child that takes a step is alive, and is not reaped by it. -/
theorem ChildStep.not_reaped (hstep : ChildStep config s s') :
    (∀ status, s.child ≠ .reaped status) ∧ ∀ status, s'.child ≠ .reaped status := by
  cases hstep with
  | killed alive signal =>
    refine ⟨fun status hreaped => ?_, nofun⟩
    rw [hreaped] at alive
    cases alive
  | readInterrupted at_ => exact ⟨by simp [at_], by simp [at_]⟩
  | _ => simp_all [GateState.endChild]

theorem Reaping.childStep (h : Reaping s) (hstep : ChildStep config s s') : Reaping s' := by
  obtain ⟨hparent, -, hmonitor, -, -, hreaped⟩ := hstep.parent
  obtain ⟨hbefore, hafter⟩ := hstep.not_reaped
  constructor
  case child =>
    left
    rcases h.child with ⟨hnone, -⟩ | ⟨status, hchild, -⟩
    · exact ⟨hreaped.trans hnone, hafter⟩
    · exact absurd hchild (hbefore status)
  case told =>
    rw [hreaped, hmonitor, hparent]
    exact h.told

/-! ### Every run -/

/-- What is promised of a fork with a gate. -/
structure Watched (config : GateConfig) (s : GateState) : Prop where
  /-- The child is past its gate only with a monitor that is initialised and has said so. -/
  passed : s.passed = true ∨ s.child = .running →
    s.initialised = some .SUCCESS ∧ s.released = true
  /-- A child at its gate can go on once the parent has released it, has let go of the gate
  or is gone. -/
  unblocked : s.child = .gate →
    s.released = true ∨ s.parentEnds.startGateWriteFd = false ∨ s.parent.alive = false →
    ∃ s' got, ChildStep config s s' ∧ s'.child = .answered got ∧ got ≠ .failed
  parentOrderly : Orderly s.parentEnds.ops
  childOrderly : Orderly s.childEnds.ops
  closedOnce : ∀ e, s.parentEnds.ops.count (.close e) ≤ 1 ∧ s.childEnds.ops.count (.close e) ≤ 1
  reapedOnce : s.reaped.length ≤ 1
  exitCode : ∀ code, s.parent = .exited code →
    ∃ status, s.reaped = [status] ∧ (code.toNat : Int) = status.exitCode

theorem watched_of_invariants (hdescriptors : Descriptors s) (htoken : Token s)
    (hreaping : Reaping s) : Watched config s where
  passed hpassed := by
    have hsent : s.released = true := htoken.taken (Or.inr (hpassed.elim id htoken.running))
    exact ⟨htoken.initialised (Or.inr (Or.inr hsent)), hsent⟩
  unblocked hchild hfree := by
    have hread := hdescriptors.waiting hchild
    by_cases htokens : 0 < s.tokens
    · exact ⟨_, .token, .readToken hchild hread htokens, rfl, nofun⟩
    · have hparent : s.parentEnds.isOpen .write = false := by
        rcases hfree with hsent | hdropped | hdead
        · exact absurd (htoken.present hsent (Or.inr hchild)) htokens
        · exact hdescriptors.parent.closed hdropped
        · exact hdescriptors.ended hdead
      have hown := hdescriptors.child.closed (hdescriptors.reading .token (Or.inl hchild)).2
      have hwriter : s.hasWriter = false := by rw [GateState.hasWriter, hparent, hown, Bool.or_self]
      exact ⟨_, .eof, .readEof hchild hread (by omega) hwriter, rfl, nofun⟩
  parentOrderly := hdescriptors.parent.orderly
  childOrderly := hdescriptors.child.orderly
  closedOnce e := ⟨hdescriptors.parent.orderly.count_close e, hdescriptors.child.orderly.count_close e⟩
  reapedOnce := by
    rcases hreaping.child with ⟨hnone, -⟩ | ⟨status, -, hone⟩
    · simp [hnone]
    · simp [hone]
  exitCode code hexited := by
    have htold := hreaping.told
    rw [hexited] at htold
    exact htold

/-- A fork that fails leaves no end open, and each closed once. -/
theorem forkFailed_closed {socketpair fork : Bool} {ends : GateEnds}
    (hfork : forkAfterUnshare config socketpair fork = .forkFailed ends) :
    Orderly ends.ops ∧ ∀ e, ends.isOpen e = false := by
  have hsound := sound_createStartGate config
  have hends : ends = (createStartGate config).closeStartGate.dropRead := by
    unfold forkAfterUnshare at hfork
    split at hfork
    · cases hfork
    · split at hfork
      · cases hfork
      · split at hfork
        · exact (ForkOutcome.forkFailed.inj hfork).symm
        · cases hfork
  rw [hends]
  refine ⟨hsound.closeStartGate.dropRead.orderly, fun e => ?_⟩
  rw [← Bool.not_eq_true]
  intro hopen
  have hheld := hsound.closeStartGate.dropRead.opened e hopen
  revert hheld
  unfold createStartGate
  split <;> cases e <;> simp [GateEnds.holds, GateEnds.dropRead, GateEnds.closeStartGate,
    GateEnds.closeWrite, GateEnds.closeRead, GateEnds.close]

/-- A child that was forked is watched, whatever order the two processes take their steps in. -/
theorem watched_of_forked {socketpair fork : Bool} {s₀ s : GateState}
    (hbuild : config.shellSandbox = true) (htype : config.type = bytes "shell")
    (hfork : forkAfterUnshare config socketpair fork = .forked s₀)
    (hrun : Relation.ReflTransGen (GateStep config) s₀ s) : Watched config s := by
  have hgate : config.needsStartGate = true := by
    rw [GateConfig.needsStartGate, hbuild, htype]
    rfl
  have hstart : s₀ = { parentEnds := createStartGate config, childEnds := createStartGate config } := by
    unfold forkAfterUnshare at hfork
    split at hfork
    · cases hfork
    · split at hfork
      · cases hfork
      · split at hfork
        · cases hfork
        · exact (ForkOutcome.forked.inj hfork).symm
  have hends : (createStartGate config).startGateReadFd = true ∧
      (createStartGate config).isOpen .read = true := by
    unfold createStartGate
    rw [if_pos hgate]
    exact ⟨rfl, rfl⟩
  have hinvariants : Descriptors s ∧ Token s ∧ Reaping s := by
    induction hrun with
    | refl =>
      subst hstart
      refine ⟨?_, ?_, ?_⟩
      · exact
          { parent := sound_createStartGate config
            child := sound_createStartGate config
            sending := fun h => h.elim nofun nofun
            starting := fun _ => hends
            waiting := nofun
            reading := fun got h => h.elim nofun nofun
            ended := nofun }
      · exact
          { early := fun _ => rfl
            initialised := fun h => h.elim nofun fun h => h.elim nofun nofun
            released := nofun
            present := nofun
            taken := fun h => h.elim nofun nofun
            running := nofun }
      · exact ⟨Or.inl ⟨rfl, nofun⟩, rfl, rfl⟩
    | tail _ hstep ih =>
      obtain ⟨hdescriptors, htoken, hreaping⟩ := ih
      rcases hstep with hstep | hstep
      · exact ⟨hdescriptors.parentStep hstep, htoken.parentStep hstep, hreaping.parentStep hstep⟩
      · exact ⟨hdescriptors.childStep hstep, htoken.childStep hgate hstep,
          hreaping.childStep hstep⟩
  exact watched_of_invariants hinvariants.1 hinvariants.2.1 hinvariants.2.2

/-- **Nothing runs unwatched.** Whatever order the two processes take their steps in, and
wherever either fails or is lost; and a fork that fails leaves no end of the gate open. -/
theorem forkAfterUnshare_watched {socketpair fork : Bool}
    (hbuild : config.shellSandbox = true) (htype : config.type = bytes "shell") :
    (∀ s₀ s, forkAfterUnshare config socketpair fork = .forked s₀ →
        Relation.ReflTransGen (GateStep config) s₀ s → Watched config s) ∧
      ∀ ends, forkAfterUnshare config socketpair fork = .forkFailed ends →
        Orderly ends.ops ∧ ∀ e, ends.isOpen e = false :=
  ⟨fun _ _ hfork hrun => watched_of_forked hbuild htype hfork hrun,
    fun _ hfork => forkFailed_closed hfork⟩

def shellGate : GateConfig := ⟨true, bytes "shell", true⟩

def forkedGate : GateState :=
  { parentEnds := createStartGate shellGate, childEnds := createStartGate shellGate }

def waitingGate : GateState :=
  { forkedGate with childEnds := forkedGate.childEnds.closeStartGate, child := .gate }

def lostGate : GateState :=
  { waitingGate with parentEnds := waitingGate.parentEnds.vanish, parent := .gone }

/-- The parent is lost while the child waits: the child is at its gate and can go on. -/
theorem forkAfterUnshare_watched_lost :
    Relation.ReflTransGen (GateStep shellGate) forkedGate lostGate ∧ lostGate.child = .gate ∧
      lostGate.parent.alive = false ∧ Watched shellGate lostGate := by
  have hwait : ChildStep shellGate forkedGate waitingGate := .dropWrite rfl (by decide)
  have hlost : ParentStep shellGate waitingGate lostGate := .lost rfl
  have hrun : Relation.ReflTransGen (GateStep shellGate) forkedGate lostGate :=
    .tail (.single (Or.inr hwait)) (Or.inl hlost)
  exact ⟨hrun, rfl, rfl, (@forkAfterUnshare_watched _ true true rfl rfl).1 _ _ rfl hrun⟩

end SandboxManager.Claw
