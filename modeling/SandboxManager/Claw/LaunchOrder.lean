import SandboxManager.Claw.LaunchSteps
import SandboxManager.Library.StepRules

/-! The order of the calls of a launch.

Whatever the world answers, and wherever the launch stops, the calls on record are in the order of
their stages (`execute_ordered`). One lemma for each step says between which stages its calls lie;
steps in a row are put together by `inStages_cons` and `inStages_append`, which ask only that the
bounds do not go back. -/
namespace SandboxManager.Claw
open Library MountPhase

/-- The step makes calls of these stages only, in order. -/
abbrev InStages (lo hi : Nat) (step : LaunchStep) : Prop :=
  Staged LaunchState.calls LaunchCall.stage lo hi step

variable {lo hi : Nat}

/-- One call more is on record, at its stage. -/
theorem adds_called (s : LaunchState) {call : LaunchCall} (k : Nat) (h : call.stage = k) :
    Adds LaunchState.calls LaunchCall.stage k k s (s.called call) :=
  Adds.one rfl h.ge h.le

theorem inStages_returning (e : SandboxError) : InStages lo hi (returning e) :=
  fun _ => Adds.of_same rfl

/-- The mount phase is of one stage: its own order is that of `MountPhase`. -/
theorem inStages_mounting (step : LaunchMembers → MountStep) : InStages 5 5 (mounting step) :=
  fun s => Adds.level (k := 5) rfl (fun c hc => by
    obtain ⟨call, -, rfl⟩ := List.mem_map.mp hc
    rfl) le_rfl le_rfl

namespace Launch
variable {L : Launch} {call : LaunchCall} {error : SandboxError}

/-- What `attempt` and its variants have in common: the call is on record if it succeeds. -/
theorem inStages_call {fails : LaunchState → Prop} [DecidablePred fails]
    {failed out : LaunchState → Outcome} (k : Nat) (h : call.stage = k) :
    InStages k k fun s => if fails s then (failed s, s) else (out s, s.called call) := by
  intro s
  dsimp only
  split
  next => exact Adds.of_same rfl
  next => exact adds_called s k h

theorem inStages_attempt (k : Nat) (h : call.stage = k) : InStages k k (L.attempt call error) :=
  inStages_call k h

theorem inStages_attemptZero (k : Nat) (h : call.stage = k) :
    InStages k k (L.attemptZero call error) := inStages_call k h

theorem inStages_attemptIoctl (k : Nat) (h : call.stage = k) :
    InStages k k (L.attemptIoctl call error) := inStages_call k h

/-- A device that does not open keeps the call from being made. -/
theorem inStages_withDevice {path : Bytes} {step : LaunchStep} (h : InStages lo hi step) :
    InStages lo hi (L.withDevice path error step) := by
  intro s
  rw [withDevice]
  split
  next => exact h s
  next => exact Adds.of_same rfl

/-- What is left out where shells are not built in leaves the order as it is. -/
theorem shellOnly_inStages {steps : List LaunchStep} (h : InStages lo hi (inOrder steps)) :
    InStages lo hi (inOrder (L.shellOnly steps)) := by
  rw [shellOnly]
  split
  next => exact h
  next => exact Staged.nil

/-- Steps, and then others of later stages. -/
theorem inStages_append {steps steps' : List LaunchStep} {mid k : Nat}
    (hstages : lo ≤ mid ∧ mid ≤ k ∧ k ≤ hi) (h : InStages lo mid (inOrder steps))
    (hs : InStages k hi (inOrder steps')) : InStages lo hi (inOrder (steps ++ steps')) :=
  Staged.append h (hs.widen hstages.2.1 le_rfl) hstages.1 (hstages.2.1.trans hstages.2.2)

/-- A step, and then others of later stages. -/
theorem inStages_cons {step : LaunchStep} {steps : List LaunchStep} {mid k : Nat}
    (hstages : lo ≤ mid ∧ mid ≤ k ∧ k ≤ hi) (h : InStages lo mid step)
    (hs : InStages k hi (inOrder steps)) : InStages lo hi (inOrder (step :: steps)) :=
  inStages_append hstages (Staged.singleton h) hs

/-! ### Early steps -/

theorem validateConfig_inStages : InStages 0 0 L.validateConfig :=
  Staged.cons (inStages_returning _) (Staged.singleton (inStages_returning _)) le_rfl le_rfl

theorem setSelinuxMCS_inStages : InStages 0 0 L.setSelinuxMCS := by
  intro s
  rw [setSelinuxMCS]
  split
  next => exact Adds.of_same rfl
  next =>
    split
    next => exact Adds.of_same rfl
    next => exact inStages_attempt 0 rfl s

theorem generateTokenId_inStages : InStages 0 0 L.generateTokenId := by
  intro s
  rw [generateTokenId]
  split
  next => exact Adds.of_same rfl
  next => split <;> exact Adds.of_same rfl

theorem loadTemplate_inStages : InStages 0 0 L.loadTemplate := by
  intro s
  rw [loadTemplate]
  split <;> exact Adds.of_same rfl

/-- The group that may read `/proc` is taken on before the caller is looked up there. -/
theorem enterCallerSandbox_inStages : InStages 1 2 L.enterCallerSandbox := by
  have hgroup : InStages 1 1 L.setReadProcGroup := by
    rw [setReadProcGroup]
    cases L.world.readProcGroup with
    | none => exact inStages_returning _
    | some gid => exact inStages_attempt 1 rfl
  have hverify (nsTarget : Bytes) : InStages 2 2 (L.verifyNamespaceChanged nsTarget) := by
    intro s
    rw [verifyNamespaceChanged]
    split <;> exact Adds.of_same rfl
  have hnamespace : InStages 2 2 L.enterCallerNamespace := by
    rw [enterCallerNamespace]
    cases L.openCallerMountNamespace with
    | none => exact inStages_returning _
    | some ns =>
      cases L.world.readNamespace L.config.callerPid with
      | none => exact inStages_returning _
      | some nsTarget =>
        exact inStages_cons (by decide) (inStages_attempt 2 rfl)
          (Staged.singleton (hverify nsTarget))
  exact inStages_cons (by decide) hgroup (Staged.singleton hnamespace)

/-- Until here only the launcher has changed, and nothing of the file system. -/
theorem earlySteps_inStages : InStages 0 2 (inOrder L.earlySteps) := by
  have hmcs : InStages 0 0 (inOrder (if L.build.mcs then [L.setSelinuxMCS] else [])) := by
    split
    next => exact Staged.singleton setSelinuxMCS_inStages
    next => exact Staged.nil
  have hload : InStages 0 0 (inOrder [L.validateConfig, L.loadTemplate]) :=
    inStages_cons (by decide) validateConfig_inStages (Staged.singleton loadTemplate_inStages)
  have henter : InStages 0 2 (inOrder [L.generateTokenId, L.enterCallerSandbox]) :=
    inStages_cons (by decide) generateTokenId_inStages
      (Staged.singleton enterCallerSandbox_inStages)
  exact inStages_append (by decide) (inStages_append (by decide) hload hmcs) henter

/-! ### Mount steps -/

theorem createNewRoot_inStages : InStages 3 3 L.createNewRoot := by
  intro s
  rw [createNewRoot]
  split
  next => exact Adds.of_same rfl
  next name _ =>
    dsimp only
    split
    next => exact Adds.of_same rfl
    next =>
      split
      next => exact Adds.of_same rfl
      next =>
        exact Adds.one (c := .makeRoot (sandboxPath name) (sandboxPath name ++ bytes "/put_old"))
          rfl le_rfl le_rfl

/-- The process moves into the new root before the old one is detached. -/
theorem pivot_inStages : InStages 6 8 L.pivot := by
  have hdone : InStages 8 8 setPivotRootDone := fun _ => Adds.of_same rfl
  exact fun s => (inStages_cons (by decide) (inStages_attempt 6 rfl)
    (inStages_cons (by decide) (inStages_attempt 7 rfl)
      (inStages_cons (by decide) (inStages_attempt 8 rfl) (Staged.singleton hdone))) :
      InStages 6 8 (inOrder [L.attempt (.pivotRoot s.members.newRootPath s.members.putOldPath)
        .ERR_NS_FAILED, _, _, setPivotRootDone])) s

theorem setGroups_inStages : InStages 5 5 L.setGroups :=
  fun s => inStages_attempt 5 rfl s

theorem deliverDaemonSide_inStages : InStages 10 10 L.deliverDaemonSide := by
  intro s
  rw [deliverDaemonSide]
  split
  next => exact Adds.of_same rfl
  next =>
    split
    next => exact adds_called s 10 rfl
    next => exact Adds.of_same rfl

theorem connectMonitor_inStages : InStages 11 11 L.connectMonitor := by
  intro s
  rw [connectMonitor]
  split
  next => exact Adds.of_same rfl
  next =>
    split
    next => exact Adds.of_same rfl
    next => exact adds_called s 11 rfl

theorem forkChild_inStages : InStages 12 12 L.forkChild := by
  intro s
  rw [forkChild]
  split
  next => exact Adds.of_same rfl
  next => exact Adds.of_same rfl
  next => exact Adds.of_same rfl
  next => split <;> exact adds_called s 12 rfl

theorem mountProcFs_inStages : InStages 13 13 L.mountProcFs :=
  Staged.ite (inStages_attempt 13 rfl) (inStages_returning _)

/-- All mounts but `/proc` come before the pivot, and those who watch are called before the fork. -/
theorem mountSteps_inStages : InStages 3 13 (inOrder L.mountSteps) := by
  have hunshare : InStages 4 4 L.unshareNamespaces := inStages_attempt 4 rfl
  have hgroup : InStages 9 9 L.setProcessGroup := inStages_attempt 9 rfl
  have hroot : InStages 3 4 (inOrder [L.createNewRoot, L.unshareNamespaces]) :=
    inStages_cons (by decide) createNewRoot_inStages (Staged.singleton hunshare)
  have hmounts : InStages 5 5 (inOrder
      [L.mountRoot, L.mountSystem, L.linkAll, L.mountApp, L.setGroups, L.applyMounts]) :=
    inStages_cons (by decide) (inStages_mounting _) (inStages_cons (by decide) (inStages_mounting _)
      (inStages_cons (by decide) (inStages_mounting _) (inStages_cons (by decide)
        (inStages_mounting _) (inStages_cons (by decide) setGroups_inStages
          (Staged.singleton (inStages_mounting _))))))
  have hpivot : InStages 6 9 (inOrder [L.pivot, L.setProcessGroup]) :=
    inStages_cons (by decide) pivot_inStages (Staged.singleton hgroup)
  have hshell : InStages 10 11 (inOrder (L.shellOnly [L.deliverDaemonSide, L.connectMonitor])) :=
    shellOnly_inStages (inStages_cons (by decide) deliverDaemonSide_inStages
      (Staged.singleton connectMonitor_inStages))
  have hfork : InStages 12 13 (inOrder [L.forkChild, L.mountProcFs]) :=
    inStages_cons (by decide) forkChild_inStages (Staged.singleton mountProcFs_inStages)
  exact inStages_append (by decide) (inStages_append (by decide) (inStages_append (by decide)
    (inStages_append (by decide) hroot hmounts) hpivot) hshell) hfork

/-! ### Late steps -/

theorem setAccessToken_inStages : InStages 14 15 L.setAccessToken := fun s =>
  (inStages_cons (by decide) (inStages_attemptZero 14 rfl) (Staged.singleton (Staged.ite
    (inStages_withDevice (inStages_attemptIoctl 15 rfl)) (inStages_returning _))) :
      InStages 14 15 (inOrder
        [L.attemptZero (.setSelfTokenID (L.callerId s.members)) .ERR_SET_TOKENID_FAILED, _])) s

theorem setXpmOwnerId_inStages : InStages 16 16 L.setXpmOwnerId :=
  Staged.ite (inStages_returning _) (Staged.ite (inStages_returning _)
    (inStages_withDevice (inStages_attemptIoctl 16 rfl)))

theorem setAinfo_inStages : InStages 17 17 L.setAinfo :=
  Staged.ite (inStages_returning _) (inStages_withDevice
    (inStages_cons (by decide) (inStages_attempt 17 rfl)
      (Staged.singleton (inStages_attemptZero 17 rfl))))

/-- The group goes before the user, who could not change it any more. -/
theorem setUidGid_inStages : InStages 18 20 L.setUidGid :=
  inStages_cons (by decide) (Staged.ite (inStages_attempt 18 rfl) (inStages_returning _))
    (inStages_cons (by decide) (inStages_attemptZero 19 rfl)
      (Staged.singleton (inStages_attemptZero 20 rfl)))

theorem preDecDenyPaths_inStages : InStages 21 21 L.preDecDenyPaths := by
  intro s
  rw [preDecDenyPaths]
  split
  next => exact Adds.of_same rfl
  next =>
    split
    next => exact Adds.of_same rfl
    next =>
      split
      next => exact Adds.of_same rfl
      next => exact inStages_withDevice (inStages_attemptIoctl 21 rfl) s

theorem applyDec_inStages : InStages 21 21 L.applyDec := fun s =>
  Adds.level (k := 21) rfl (fun c hc => by
    obtain ⟨call, -, rfl⟩ := List.mem_map.mp hc
    rfl) le_rfl le_rfl

theorem prepareWorkdir_inStages : InStages 22 22 L.prepareWorkdir :=
  Staged.ite (inStages_returning _) (Staged.ite (inStages_returning _)
    (Staged.ite (inStages_returning _) (inStages_attempt 22 rfl)))

theorem setEnvironment_inStages : InStages 23 23 L.setEnvironment := by
  intro s
  rw [setEnvironment]
  split
  next => exact Adds.of_same rfl
  next => exact adds_called s 23 rfl

theorem setCredentials_inStages : InStages 23 23 L.setCredentials :=
  fun s => adds_called s 23 rfl

/-- No filter is set by a process that could still gain privileges. -/
theorem setSeccomp_inStages : InStages 24 25 L.setSeccomp := by
  have hnamed : InStages 25 25 L.setAppSeccompPolicy := by
    intro s
    rw [setAppSeccompPolicy]
    split
    next => exact adds_called s 25 rfl
    next => exact inStages_attempt 25 rfl s
  exact fun s => (inStages_cons (by decide) (inStages_attempt 24 rfl) (inStages_cons (by decide)
    (inStages_attempt 25 rfl) (Staged.singleton (Staged.ite hnamed (inStages_returning _)))) :
      InStages 24 25 (inOrder [L.attempt .setNoNewPrivs .ERR_SET_SECCOMP_FAILED,
        L.attempt (.setSeccomp (L.customFilter s.members.template)) .ERR_SET_SECCOMP_FAILED, _])) s

theorem deliverExecuterInit_inStages : InStages 26 26 L.deliverExecuterInit :=
  Staged.ite (inStages_returning _) (inStages_withDevice (inStages_attempt 26 rfl))

/-- The bits are locked while the capability to do so is still there. -/
theorem dropCapabilities_inStages : InStages 27 28 L.dropCapabilities :=
  inStages_cons (by decide) (Staged.ite (inStages_attempt 27 rfl) (inStages_returning _))
    (Staged.singleton (inStages_attemptZero 28 rfl))

theorem setSandboxPathMark_inStages : InStages 29 29 L.setSandboxPathMark := by
  have hugc : InStages 29 29 L.markUgcPath :=
    Staged.ite (inStages_attemptIoctl 29 rfl) (inStages_returning _)
  refine Staged.ite (inStages_returning _) (Staged.ite (inStages_returning _)
    (inStages_withDevice fun s => ?_))
  rw [markPaths]
  split
  next => exact Adds.of_same rfl
  next => exact (adds_called s 29 rfl).trans (hugc _) le_rfl le_rfl

theorem setEncapsProcFlag_inStages : InStages 30 30 L.setEncapsProcFlag :=
  Staged.ite (inStages_returning _) (Staged.ite (inStages_returning _)
    (inStages_withDevice (inStages_attemptIoctl 30 rfl)))

/-- Who the process is comes first, then what it may open and what it is told, and last what it can
never undo. -/
theorem lateSteps_inStages : InStages 14 30 (inOrder L.lateSteps) := by
  have hidentity : InStages 14 17 (inOrder [L.setAccessToken, L.setXpmOwnerId, L.setAinfo]) :=
    inStages_cons (by decide) setAccessToken_inStages (inStages_cons (by decide)
      setXpmOwnerId_inStages (Staged.singleton setAinfo_inStages))
  have hfetch : InStages 17 17 (inOrder (L.shellOnly [L.fetchCredentials])) :=
    shellOnly_inStages (Staged.singleton fun _ => Adds.of_same rfl)
  have hids : InStages 18 20 (inOrder [L.setUidGid]) := Staged.singleton setUidGid_inStages
  have hdec : InStages 21 21 (inOrder (L.shellOnly [L.preDecDenyPaths, L.applyDec])) :=
    shellOnly_inStages (inStages_cons (by decide) preDecDenyPaths_inStages
      (Staged.singleton applyDec_inStages))
  have hcommand : InStages 22 23 (inOrder [L.prepareWorkdir, L.setEnvironment]) :=
    inStages_cons (by decide) prepareWorkdir_inStages (Staged.singleton setEnvironment_inStages)
  have hcredentials : InStages 23 23 (inOrder (L.shellOnly [L.setCredentials])) :=
    shellOnly_inStages (Staged.singleton setCredentials_inStages)
  have hseccomp : InStages 24 25 (inOrder [L.setSeccomp]) := Staged.singleton setSeccomp_inStages
  have hexecuter : InStages 26 26 (inOrder (L.shellOnly [L.deliverExecuterInit])) :=
    shellOnly_inStages (Staged.singleton deliverExecuterInit_inStages)
  have hdrop : InStages 27 28 (inOrder [L.dropCapabilities]) :=
    Staged.singleton dropCapabilities_inStages
  have hmarks : InStages 29 30 (inOrder (L.shellOnly [L.setSandboxPathMark, L.setEncapsProcFlag])) :=
    shellOnly_inStages (inStages_cons (by decide) setSandboxPathMark_inStages
      (Staged.singleton setEncapsProcFlag_inStages))
  have hcommands : InStages 14 23 (inOrder ([L.setAccessToken, L.setXpmOwnerId, L.setAinfo] ++
      L.shellOnly [L.fetchCredentials] ++ [L.setUidGid] ++
      L.shellOnly [L.preDecDenyPaths, L.applyDec] ++ [L.prepareWorkdir, L.setEnvironment] ++
      L.shellOnly [L.setCredentials])) :=
    inStages_append (by decide) (inStages_append (by decide) (inStages_append (by decide)
      (inStages_append (by decide) (inStages_append (by decide) hidentity hfetch) hids) hdec)
        hcommand) hcredentials
  exact inStages_append (by decide) (inStages_append (by decide) (inStages_append (by decide)
    (inStages_append (by decide) hcommands hseccomp) hexecuter) hdrop) hmarks

/-- Nothing of the launcher is left after this call. -/
theorem executeCommand_inStages : InStages 31 31 L.executeCommand := by
  intro s
  rw [executeCommand]
  split
  next => exact Adds.of_same rfl
  next =>
    dsimp only
    split
    next => exact Adds.of_same rfl
    next => exact adds_called s 31 rfl

/-- The four parts of a launch, each within stages of its own. -/
theorem execute_inStages (L : Launch) : InStages 0 31 L.execute :=
  inStages_cons (by decide) earlySteps_inStages (inStages_cons (by decide) mountSteps_inStages
    (inStages_cons (by decide) lateSteps_inStages (Staged.singleton executeCommand_inStages)))

/-- **The calls of a launch are in the order of their stages**, whatever is answered and wherever
the launch stops. -/
theorem execute_ordered (L : Launch) :
    ((L.execute {}).2.calls.map LaunchCall.stage).Pairwise (· ≤ ·) := by
  obtain ⟨made, hcalls, hsorted, -⟩ := L.execute_inStages {}
  rw [hcalls]
  exact hsorted

end Launch
end SandboxManager.Claw
