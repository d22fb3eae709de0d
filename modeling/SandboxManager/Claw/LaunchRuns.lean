import SandboxManager.Claw.DecDelivery
import SandboxManager.Claw.LaunchSteps
import SandboxManager.Library.StepRules

/-! What the steps of a launch have done when they succeed.

Most steps only make calls: what they turn the process into follows from the calls (`Turns`). The
others find something out for later steps, or rely on an answer (`Ends`), and say so. -/
namespace SandboxManager.Claw
open Library MountPhase

/-- Of the errors only `SUCCESS` is zero, so a step cannot fail and be taken for one that went
well. -/
theorem Outcome.of_eq_success {e : SandboxError} : Outcome.of e = .success ↔ e = .SUCCESS := by
  refine ⟨fun h => ?_, fun h => by rw [h]; rfl⟩
  by_contra hne
  have hneg := SandboxError.value_neg hne
  rw [Outcome.returned.inj h] at hneg
  exact Int.lt_irrefl 0 hneg

theorem Outcome.of_ne_success {e : SandboxError} (h : e ≠ .SUCCESS) : Outcome.of e ≠ .success :=
  mt of_eq_success.mp h

theorem LaunchState.called_process (s : LaunchState) (call : LaunchCall) :
    (s.called call).process = s.process.after call :=
  Process.of_append s.calls [call]

/-- Where the step ends well, it has turned the process as these calls do, and found out nothing. -/
abbrev Turns (step : LaunchStep) (made : LaunchMembers → List LaunchCall) : Prop :=
  Ends .success step fun s s' =>
    s'.members = s.members ∧ s'.process = (made s.members).foldl Process.after s.process

section
variable {step : LaunchStep} {steps : List LaunchStep} {made made' : LaunchMembers → List LaunchCall}

theorem returning_ends (e : SandboxError) :
    Ends .success (returning e) fun s s' => s' = s ∧ e = .SUCCESS :=
  fun _ hs => ⟨rfl, Outcome.of_eq_success.mp hs⟩

theorem turns_returning (e : SandboxError) : Turns (returning e) fun _ => [] :=
  fun _ _ => ⟨rfl, rfl⟩

/-- A step that is skipped where the condition holds. -/
theorem Turns.unless {c : Prop} [Decidable c] (h : Turns step made) :
    Turns (if c then returning .SUCCESS else step) fun m => if c then [] else made m := by
  split
  next => exact turns_returning _
  next => exact h

theorem Turns.whenever {c : Prop} [Decidable c] (h : Turns step made) :
    Turns (if c then step else returning .SUCCESS) fun m => if c then made m else [] := by
  split
  next => exact h
  next => exact turns_returning _

/-- What is refused does not end well. -/
theorem Turns.refusing {c : Prop} [Decidable c] {e : SandboxError} (he : e ≠ .SUCCESS)
    (h : Turns step made) : Turns (if c then returning e else step) made := by
  refine Ends.ite (fun _ s hs => absurd hs (Outcome.of_ne_success he)) fun _ => h

theorem Turns.singleton (h : Turns step made) : Turns (inOrder [step]) made := by
  intro s hs
  rw [inOrder, untilFailure_singleton] at hs ⊢
  exact h s hs

/-- A run that ends well has made the calls of all its steps, in order. -/
theorem Turns.cons (h : Turns step made) (h' : Turns (inOrder steps) made') :
    Turns (inOrder (step :: steps)) fun m => made m ++ made' m := by
  refine (Ends.cons h h').mono ?_
  rintro s s' ⟨s₁, ⟨hmembers₁, hprocess₁⟩, hmembers', hprocess'⟩
  rw [hmembers', hprocess', hmembers₁, hprocess₁, List.foldl_append]
  exact ⟨rfl, rfl⟩

end

/-- What calls make of the process that each add one item. -/
theorem foldl_after {α : Type} {call : α → LaunchCall} (added : Process → List α → Process)
    (hnil : ∀ p, added p [] = p)
    (hcons : ∀ p item items, added (p.after (call item)) items = added p (item :: items))
    (items : List α) (p : Process) : (items.map call).foldl Process.after p = added p items := by
  induction items generalizing p with
  | nil => exact (hnil p).symm
  | cons item items ih => rw [List.map_cons, List.foldl_cons, ih, hcons]

/-- Mounts turn the process into nothing else. -/
theorem foldl_after_mounts (calls : List MountCall) (p : Process) :
    (calls.map LaunchCall.mount).foldl Process.after p = p :=
  foldl_after (fun p _ => p) (fun _ => rfl) (fun _ _ _ => rfl) calls p

/-- What is mounted is in the record, but the process is the same. -/
theorem turns_mounting (step : LaunchMembers → MountStep) : Turns (mounting step) fun _ => [] := by
  intro s _
  refine ⟨rfl, ?_⟩
  rw [LaunchState.process, mounting, Process.of_append, foldl_after_mounts]
  rfl

/-- The errors that a step passes on are errors, here and in the next two lemmas. -/
theorem connectMonitorSocket_ne_success {socketPath : Bytes} {answers : StartupAnswers}
    {e : SandboxError} (h : connectMonitorSocket socketPath answers = .error e) : e ≠ .SUCCESS := by
  rw [connectMonitorSocket, connectToApp] at h
  cases hsocket : answers.newSocket with
  | none =>
    rw [hsocket] at h
    split_ifs at h
    all_goals cases h; decide
  | some fd =>
    rw [hsocket] at h
    split_ifs at h
    all_goals cases h; first | decide | assumption

theorem setAll_ne_success {calls : EnvCalls} {items : List (Bytes × EnvValue)}
    {environment : Environment} {e : SandboxError} (h : setAll calls items environment = .error e) :
    e ≠ .SUCCESS := by
  fun_induction setAll calls items environment with
  | case1 => cases h
  | case2 =>
    cases h
    decide
  | case3 _ _ _ _ _ ih => exact ih h

theorem applyEnvironment_ne_success {shellSandbox : Bool} {calls : EnvCalls} {policy : EnvPolicy}
    {config : EnvConfig} {environ : List Bytes} {e : SandboxError}
    (h : applyEnvironment shellSandbox calls policy config environ = .error e) : e ≠ .SUCCESS := by
  rw [applyEnvironment, applySanitizedEnv] at h
  split at h
  next =>
    cases h
    decide
  next => exact setAll_ne_success h

/-- Of the ways the fork may come out, these are the ones that go on. -/
theorem forkAfterUnshare_goes_on {config : GateConfig} {socketpair fork : Bool} :
    (forkAfterUnshare config socketpair fork = .inPlace → config.needsForkAfterUnshare = false) ∧
      ∀ s, forkAfterUnshare config socketpair fork = .forked s →
        config.needsForkAfterUnshare = true := by
  rw [forkAfterUnshare]
  constructor
  · intro h
    split_ifs at h with hneeds
    simpa using hneeds
  · intro s h
    split_ifs at h with hneeds
    simpa using hneeds

/-- Only what is forked waits at a gate. -/
theorem GateConfig.needsForkAfterUnshare_of_gate (config : GateConfig)
    (h : config.needsStartGate = true) : config.needsForkAfterUnshare = true := by
  rw [GateConfig.needsStartGate, Bool.and_eq_true, beq_iff_eq] at h
  rw [GateConfig.needsForkAfterUnshare, h.2]
  rfl

namespace Launch
variable {L : Launch} {call : LaunchCall} {error : SandboxError}

/-- A call that may fail has been made if its step ends well. -/
theorem turns_call {fails : LaunchState → Prop} [DecidablePred fails] {out : LaunchState → Outcome}
    (h : error ≠ .SUCCESS) :
    Turns (fun s => if fails s then (.of error, s) else (out s, s.called call))
      fun _ => [call] := by
  intro s hs
  dsimp only at hs ⊢
  split at hs
  next => exact absurd hs (Outcome.of_ne_success h)
  next hfails =>
    rw [if_neg hfails]
    exact ⟨rfl, s.called_process call⟩

theorem turns_attempt (h : error ≠ .SUCCESS) :
    Turns (L.attempt call error) fun _ => [call] := turns_call h

theorem turns_attemptZero (h : error ≠ .SUCCESS) :
    Turns (L.attemptZero call error) fun _ => [call] := turns_call h

theorem turns_attemptIoctl (h : error ≠ .SUCCESS) :
    Turns (L.attemptIoctl call error) fun _ => [call] := turns_call h

theorem turns_withDevice {path : Bytes} {step : LaunchStep}
    {made : LaunchMembers → List LaunchCall} (h : error ≠ .SUCCESS) (hstep : Turns step made) :
    Turns (L.withDevice path error step) made := by
  intro s hs
  rw [withDevice] at hs ⊢
  split at hs
  next hopens =>
    rw [if_pos hopens]
    exact hstep s hs
  next => exact absurd hs (Outcome.of_ne_success h)

/-! ### Early steps -/

/-- What the parameters have to be. -/
structure Valid (L : Launch) : Prop where
  callerPid : 0 < L.config.callerPid
  uid : UID_BASE ≤ L.config.uid
  gid : UID_BASE ≤ L.config.gid
  callerTokenId : L.config.callerTokenId ≠ 0
  tokenType : L.world.getTokenTypeFlag L.config.callerTokenId.toUInt32 = TOKEN_HAP

theorem valid_of_validated (hparams : L.validateBasicParams = .SUCCESS)
    (htype : L.validateTokenType = .SUCCESS) : L.Valid := by
  rw [validateBasicParams] at hparams
  rw [validateTokenType] at htype
  split_ifs at hparams with hpid hids htoken
  split_ifs at htype with htokenType
  obtain ⟨huid, hgid⟩ := not_or.mp hids
  exact ⟨Int32.not_le.mp hpid, UInt32.not_lt.mp huid, UInt32.not_lt.mp hgid, htoken,
    not_not.mp htokenType⟩

/-- A launch that goes on is valid. -/
theorem validateConfig_ends : Ends .success L.validateConfig fun s s' => s' = s ∧ L.Valid := by
  refine (Ends.cons (returning_ends _) (Ends.cons (returning_ends _) Ends.nil)).mono ?_
  rintro s _ ⟨_, ⟨rfl, hparams⟩, _, ⟨rfl, htype⟩, rfl⟩
  exact ⟨rfl, valid_of_validated hparams htype⟩

/-- The template is the one of the file, as `loadJsonConfig` reads it. -/
theorem loadTemplate_ends : Ends .success L.loadTemplate fun s s' =>
    ∃ template, loadJsonConfig L.world.cJSON_Parse L.world.valueint L.config.currentUserId
        (L.world.readFile L.templatePath) = .ok template ∧
      s' = { s with members := { s.members with template } } := by
  intro s hs
  rw [loadTemplate] at hs ⊢
  split at hs
  next => exact absurd hs (Outcome.of_ne_success (by decide))
  next template hload =>
    rw [hload]
    exact ⟨template, rfl, rfl⟩

/-- Where SELinux is on there is a context to take on, and it is taken on. -/
theorem setSelinuxMCS_ends : Ends .success L.setSelinuxMCS fun s s' =>
    (1 ≤ L.world.isSelinuxEnabled → (L.contextFor L.config.callerPid).isSome) ∧
      s'.members = s.members ∧
      s'.process = { s.process with
        context := if 1 ≤ L.world.isSelinuxEnabled then L.contextFor L.config.callerPid
          else s.process.context } := by
  intro s hs
  rw [setSelinuxMCS] at hs ⊢
  split at hs
  next hdisabled =>
    have hnot : ¬ 1 ≤ L.world.isSelinuxEnabled := Int.not_le.mpr hdisabled
    rw [if_pos hdisabled, if_neg hnot]
    exact ⟨fun h => absurd h hnot, rfl, rfl⟩
  next henabled =>
    rw [if_neg henabled, if_pos (Int.not_lt.mp henabled)]
    split at hs
    next => exact absurd hs (Outcome.of_ne_success (by decide))
    next context hcontext =>
      rw [hcontext]
      exact ⟨fun _ => rfl, turns_attempt (by decide) s hs⟩

/-- What is no shell gets a token of its own, for later. -/
theorem generateTokenId_ends : Ends .success L.generateTokenId fun s s' =>
    ∃ tokenIdEx, (L.isShell = false → L.world.initCliToken L.initInfo = .ok tokenIdEx) ∧
      s' = { s with members := { s.members with tokenIdEx } } := by
  intro s hs
  rw [generateTokenId] at hs ⊢
  split at hs
  next hshell =>
    rw [if_pos hshell]
    exact ⟨s.members.tokenIdEx, fun h => absurd (hshell.symm.trans h) (by decide), rfl⟩
  next hshell =>
    rw [if_neg hshell]
    split at hs
    next => exact absurd hs (Outcome.of_ne_success (by decide))
    next tokenIdEx htoken =>
      rw [htoken]
      exact ⟨tokenIdEx, fun _ => rfl, rfl⟩

/-- The namespace is the one of the caller, by two ways of looking it up. -/
def CallerNamespace (L : Launch) (ns : Bytes) : Prop :=
  L.openCallerMountNamespace = some ns ∧ L.world.readNamespace L.config.callerPid = some ns

/-- The groups of the launcher give way to the one that may read `/proc`. -/
theorem setReadProcGroup_ends : Ends .success L.setReadProcGroup fun s s' =>
    s'.members = s.members ∧ ∃ gid, s'.process = { s.process with groups := [gid] } := by
  intro s hs
  rw [setReadProcGroup] at hs ⊢
  cases hgid : L.world.readProcGroup with
  | none =>
    rw [hgid] at hs
    exact absurd hs (Outcome.of_ne_success (by decide))
  | some gid =>
    rw [hgid] at hs
    obtain ⟨hmembers, hprocess⟩ := turns_attempt (by decide) s hs
    exact ⟨hmembers, gid, hprocess⟩

theorem verifyNamespaceChanged_ends {nsTarget : Bytes} :
    Ends .success (L.verifyNamespaceChanged nsTarget) fun s s' =>
      s' = s ∧ s.process.mountNamespace = some nsTarget := by
  intro s hs
  rw [verifyNamespaceChanged] at hs ⊢
  split at hs
  next hsame =>
    rw [if_pos hsame]
    exact ⟨rfl, hsame.2⟩
  next => exact absurd hs (Outcome.of_ne_success (by decide))

/-- The namespace that was entered is the one of the caller, and was when it was looked up again. -/
theorem enterCallerNamespace_ends : Ends .success L.enterCallerNamespace fun s s' =>
    s'.members = s.members ∧ ∃ ns, L.CallerNamespace ns ∧
      s'.process = { s.process with mountNamespace := some ns } := by
  intro s hs
  rw [enterCallerNamespace] at hs ⊢
  cases hopen : L.openCallerMountNamespace with
  | none =>
    rw [hopen] at hs
    exact absurd hs (Outcome.of_ne_success (by decide))
  | some ns =>
    cases hread : L.world.readNamespace L.config.callerPid with
    | none =>
      rw [hopen, hread] at hs
      exact absurd hs (Outcome.of_ne_success (by decide))
    | some nsTarget =>
      rw [hopen, hread] at hs
      obtain ⟨_, ⟨hmembers, hprocess⟩, _, ⟨rfl, hsame⟩, heq⟩ :=
        Ends.cons (turns_attempt (by decide)) (Ends.cons verifyNamespaceChanged_ends Ends.nil) s hs
      rw [hprocess] at hsame
      obtain rfl := Option.some.inj hsame
      rw [← heq]
      exact ⟨hmembers, ns, ⟨hopen, hread⟩, hprocess⟩

theorem enterCallerSandbox_ends : Ends .success L.enterCallerSandbox fun s s' =>
    s'.members = s.members ∧ ∃ gid ns, L.CallerNamespace ns ∧
      s'.process = { s.process with groups := [gid], mountNamespace := some ns } := by
  refine (Ends.cons setReadProcGroup_ends (Ends.cons enterCallerNamespace_ends Ends.nil)).mono ?_
  rintro s s' ⟨s₁, ⟨hmembers, gid, hprocess⟩, _, ⟨hmembers', ns, hns, hprocess'⟩, rfl⟩
  rw [hmembers', hprocess', hmembers, hprocess]
  exact ⟨rfl, gid, ns, hns, rfl⟩

/-! ### Mount steps -/

theorem autoName_error {tryCnt : Nat} {e : SandboxError} (h : L.autoName tryCnt = .error e) :
    e = .ERR_SANDBOX_PATH_EXHAUSTED := by
  fun_induction autoName L tryCnt with
  | case1 => exact (Except.error.inj h).symm
  | case2 tryCnt _ _ _ _ ih => exact ih h
  | case3 => cases h
  | case4 => exact (Except.error.inj h).symm

theorem rootName_ne_success {e : SandboxError} (h : L.rootName = .error e) : e ≠ .SUCCESS := by
  rw [rootName] at h
  split at h
  next => cases h
  next =>
    rw [autoName_error h]
    decide

/-- The name is settled here, and with it where the sandbox lies. -/
theorem createNewRoot_ends : Ends .success L.createNewRoot fun s s' =>
    ∃ name, L.rootName = .ok name ∧ s'.process = s.process ∧
      s'.members = { s.members with
        newRootPath := sandboxPath name
        putOldPath := sandboxPath name ++ bytes "/put_old" } := by
  intro s hs
  rw [createNewRoot] at hs ⊢
  split at hs
  next e hname => exact absurd hs (Outcome.of_ne_success (rootName_ne_success hname))
  next name hname =>
    rw [hname]
    dsimp only at hs ⊢
    split at hs
    next hcreated => exact absurd hs (Outcome.of_ne_success hcreated)
    next hcreated =>
      rw [if_neg hcreated]
      split at hs
      next => exact absurd hs (Outcome.of_ne_success (by decide))
      next hmkdir =>
        exact ⟨name, rfl, LaunchState.called_process _ _, rfl⟩

theorem setPivotRootDone_ends : Ends .success setPivotRootDone fun s s' =>
    s'.members = { s.members with pivotRootDone := true } ∧ s'.process = s.process :=
  fun _ _ => ⟨rfl, rfl⟩

/-- What lay outside the new root is out of reach. -/
theorem pivot_ends : Ends .success L.pivot fun s s' =>
    s'.members = { s.members with pivotRootDone := true } ∧
      s'.process = { s.process with
        root := some s.members.newRootPath
        cwd := some [slash]
        oldRoot := false } := by
  intro s hs
  rw [pivot] at hs ⊢
  obtain ⟨_, ⟨hmembers₁, hprocess₁⟩, _, ⟨hmembers₂, hprocess₂⟩, _, ⟨hmembers₃, hprocess₃⟩, _,
      ⟨hmembers, hprocess⟩, rfl⟩ :=
    Ends.cons (turns_attempt (by decide)) (Ends.cons (turns_attempt (by decide))
      (Ends.cons (turns_attempt (by decide)) (Ends.cons setPivotRootDone_ends Ends.nil))) s hs
  rw [hmembers, hprocess, hmembers₃, hprocess₃, hmembers₂, hprocess₂, hmembers₁, hprocess₁]
  exact ⟨rfl, rfl⟩

/-- A launch that goes on has delivered all that the daemon is to enforce. -/
theorem deliverDaemonSide_ends : Ends .success L.deliverDaemonSide fun s s' =>
    (deliverDaemonSidePolicies L.startupConfig L.monitorSocketPath L.world.startup).1 = .SUCCESS ∧
      s'.members = s.members ∧
      s'.process = { s.process with
        policies := if L.isShell then
            some (deliverDaemonSidePolicies L.startupConfig L.monitorSocketPath L.world.startup).2.2
          else s.process.policies } := by
  intro s hs
  rw [deliverDaemonSide] at hs ⊢
  dsimp only at hs ⊢
  split at hs
  next hdelivered => exact absurd hs (Outcome.of_ne_success hdelivered)
  next hdelivered =>
    rw [if_neg hdelivered]
    refine ⟨not_not.mp hdelivered, ?_⟩
    split
    next => exact ⟨rfl, s.called_process _⟩
    next => exact ⟨rfl, rfl⟩

/-- There is a connection to the monitor, if one was asked for. -/
theorem connectMonitor_ends : Ends .success L.connectMonitor fun s s' =>
    (∃ socketFd, connectMonitorSocket L.monitorSocketPath L.world.startup = .ok socketFd) ∧
      s'.members = s.members ∧ s'.process = s.process := by
  intro s hs
  rw [connectMonitor] at hs ⊢
  split at hs
  next e hconnect =>
    exact absurd hs (Outcome.of_ne_success (connectMonitorSocket_ne_success hconnect))
  next socketFd hconnect =>
    rw [hconnect]
    refine ⟨⟨socketFd, rfl⟩, ?_⟩
    split
    next => exact ⟨rfl, rfl⟩
    next => exact ⟨rfl, s.called_process _⟩

/-- Where there is a gate, whoever goes on has read its token. -/
theorem forkChild_ends : Ends .success L.forkChild fun s s' =>
    (L.gateConfig.needsStartGate = true → L.world.gateToken = true) ∧
      s'.members = s.members ∧
      s'.process = { s.process with
        child := L.gateConfig.needsForkAfterUnshare || s.process.child } := by
  intro s hs
  rw [forkChild] at hs ⊢
  split at hs
  next hfork =>
    have hneeds := forkAfterUnshare_goes_on.1 hfork
    rw [hneeds]
    refine ⟨fun hgate => ?_, rfl, rfl⟩
    exact absurd (hneeds.symm.trans (L.gateConfig.needsForkAfterUnshare_of_gate hgate))
      Bool.false_ne_true
  next => exact absurd hs (Outcome.of_ne_success (by decide))
  next => exact absurd hs (Outcome.of_ne_success (by decide))
  next hfork =>
    rw [forkAfterUnshare_goes_on.2 _ hfork]
    split at hs
    next => cases hs
    next hgate =>
      rw [if_neg hgate]
      refine ⟨fun hneeds => ?_, rfl, s.called_process .fork⟩
      exact (Bool.not_eq_false _).mp fun htoken => hgate ⟨hneeds, htoken⟩

theorem mountProcFs_turns :
    Turns L.mountProcFs fun _ => if L.newPid then [.mountProc] else [] :=
  Turns.whenever (turns_attempt (by decide))

/-! ### Late steps -/

/-- What is only done for a shell, where shells are built in. -/
def shells (L : Launch) : Bool := L.build.shellSandbox && L.isShell

theorem setAccessToken_turns : Turns L.setAccessToken fun m =>
    .setSelfTokenID (L.callerId m) :: if L.shells then
      [.setHapPTokenId (L.world.addCliBinaryInvokerTokenFlag (L.callerId m))] else [] := by
  intro s hs
  exact (Turns.cons (turns_attemptZero (by decide)) (Turns.singleton (Turns.whenever
    (turns_withDevice (by decide) (turns_attemptIoctl (by decide)))))) s hs

theorem setXpmOwnerId_turns : Turns L.setXpmOwnerId fun _ =>
    if !L.isShell then [] else [.setXpmOwnerId (L.config.appIdentifier.take (MAX_OWNERID_LEN - 1))] :=
  Turns.unless (Turns.refusing (by decide)
    (turns_withDevice (by decide) (turns_attemptIoctl (by decide))))

theorem setAinfo_turns : Turns L.setAinfo fun _ => if !L.isShell || !L.build.aids then [] else
    [.initAids, .setAinfo (L.config.uid / UID_BASE) L.config.appIdentifierU64] :=
  Turns.unless (turns_withDevice (by decide)
    (Turns.cons (turns_attempt (by decide)) (Turns.singleton (turns_attemptZero (by decide)))))

/-- Credentials that cannot be fetched are none; the launch goes on. -/
theorem fetchCredentials_ends : Ends .success L.fetchCredentials fun s s' =>
    s' = { s with members := { s.members with
      toolCredentials := fetchToolCredentials L.envConfig L.world.credentials } } :=
  fun _ _ => rfl

/-- The capabilities are kept over the change of the user, to be dropped later. -/
theorem setUidGid_turns : Turns L.setUidGid fun _ =>
    (if L.build.linux then [.keepCaps] else []) ++
      [.setresgid L.config.gid, .setresuid L.config.uid] :=
  Turns.cons (Turns.whenever (turns_attempt (by decide)))
    (Turns.cons (turns_attemptZero (by decide)) (Turns.singleton (turns_attemptZero (by decide))))

/-- The policy that denies, where there is one to set. -/
def denied (L : Launch) (m : LaunchMembers) : List DecPolicyInfo :=
  if !L.isShell then []
  else if L.collectDenyPaths = [] then []
  else (L.world.denyClock.map (L.denyPolicy m)).toList

/-- The paths of what is not granted are denied by one policy, if there are any. -/
theorem preDecDenyPaths_turns :
    Turns L.preDecDenyPaths fun m => (L.denied m).map .setDecPolicy := by
  intro s hs
  rw [preDecDenyPaths] at hs ⊢
  simp only [denied]
  split at hs
  next hshell =>
    rw [if_pos hshell, if_pos hshell]
    exact ⟨rfl, rfl⟩
  next hshell =>
    rw [if_neg hshell, if_neg hshell]
    split at hs
    next hnone =>
      rw [if_pos hnone, if_pos hnone]
      exact ⟨rfl, rfl⟩
    next hsome =>
      rw [if_neg hsome, if_neg hsome]
      split at hs
      next => exact absurd hs (Outcome.of_ne_success (by decide))
      next ts hclock =>
        rw [hclock]
        exact turns_withDevice (by decide) (turns_attemptIoctl (by decide)) s hs

/-- The policies that grant, in batches. -/
def granted (L : Launch) (m : LaunchMembers) : List DecPolicyInfo :=
  (applyDecPolicies (L.decConfig m) m.template.permissions L.world.dec).2.map DecCall.batchInfo

/-- Every batch that was made was taken: one refusal fails the step. -/
theorem applyDec_turns : Turns L.applyDec fun m => (L.granted m).map .setDecPolicy := by
  intro s hs
  rw [applyDec] at hs ⊢
  dsimp only at hs ⊢
  have hsuccess := Outcome.of_eq_success.mp hs
  refine ⟨rfl, ?_⟩
  have hall : ((applyDecPolicies (L.decConfig s.members) s.members.template.permissions
      L.world.dec).2.filter fun call => 0 ≤ call.ret) =
      (applyDecPolicies (L.decConfig s.members) s.members.template.permissions L.world.dec).2 := by
    rw [List.filter_eq_self]
    intro call hcall
    by_cases htype : (L.decConfig s.members).type = bytes "shell"
    · have hret := ((applyDecPolicies_handed htype (Prod.ext hsuccess rfl)).2 call hcall).1
      exact decide_eq_true (le_of_eq hret.symm)
    · rw [applyDecPolicies, if_pos htype] at hcall
      exact absurd hcall List.not_mem_nil
  rw [hall, LaunchState.process, Process.of_append, granted, List.map_map]
  rfl

theorem prepareWorkdir_turns : Turns L.prepareWorkdir fun _ =>
    if L.config.workdir = [] then [] else [.chdir L.config.workdir] :=
  Turns.unless (Turns.refusing (by decide) (Turns.refusing (by decide) (turns_attempt (by decide))))

/-- The environment replaces the one that the launcher was started with. -/
theorem setEnvironment_ends : Ends .success L.setEnvironment fun s s' =>
    ∃ environment, applyEnvironment L.build.shellSandbox L.world.envCalls
        s.members.template.envPolicy L.envConfig L.world.environ = .ok environment ∧
      s' = s.called (.setEnvironment environment) := by
  intro s hs
  rw [setEnvironment] at hs ⊢
  split at hs
  next e happly => exact absurd hs (Outcome.of_ne_success (applyEnvironment_ne_success happly))
  next environment happly =>
    rw [happly]
    exact ⟨environment, rfl, rfl⟩

/-- One of two filters by name, the second where the first was not to be had. -/
theorem setAppSeccompPolicy_ends : Ends .success L.setAppSeccompPolicy fun s s' =>
    ∃ name, (name = APP_NAME ∧ L.world.isPcMode = false ∨ name = APP_CUSTOM) ∧
      s'.members = s.members ∧ s'.process = s.process.after (.setSeccomp (.named name)) := by
  intro s hs
  rw [setAppSeccompPolicy] at hs ⊢
  split at hs
  next hnamed =>
    rw [if_pos hnamed]
    rw [Bool.and_eq_true, Bool.not_eq_true'] at hnamed
    exact ⟨APP_NAME, .inl ⟨rfl, hnamed.1⟩, rfl, s.called_process _⟩
  next hnamed =>
    rw [if_neg hnamed]
    exact ⟨APP_CUSTOM, .inr rfl, turns_attempt (by decide) s hs⟩

/-- The filters by name that are set after the one that is built here. -/
def AppFilters (L : Launch) (names : List Bytes) : Prop :=
  if L.build.withSeccomp then
    names = [APP_NAME] ∧ L.world.isPcMode = false ∨ names = [APP_CUSTOM]
  else names = []

theorem appFilters_ends : Ends .success
    (if L.build.withSeccomp then L.setAppSeccompPolicy else returning .SUCCESS) fun s s' =>
      ∃ names, L.AppFilters names ∧ s'.members = s.members ∧
        s'.process = (names.map fun name => .setSeccomp (.named name)).foldl
          Process.after s.process := by
  refine Ends.ite (fun hbuild => ?_) fun hbuild => ?_
  · refine setAppSeccompPolicy_ends.mono ?_
    rintro s s' ⟨name, hname, hmembers, hprocess⟩
    refine ⟨[name], ?_, hmembers, hprocess⟩
    rw [AppFilters, if_pos hbuild]
    rcases hname with ⟨rfl, hmode⟩ | rfl
    · exact .inl ⟨rfl, hmode⟩
    · exact .inr rfl
  · intro s _
    refine ⟨[], ?_, rfl, rfl⟩
    rw [AppFilters, if_neg hbuild]

theorem foldl_after_named (names : List Bytes) (p : Process) :
    (names.map fun name => LaunchCall.setSeccomp (.named name)).foldl Process.after p =
      { p with filters := p.filters ++ names.map .named } := by
  refine foldl_after (fun p names => { p with filters := p.filters ++ names.map .named })
    (fun p => ?_) (fun p _ _ => ?_) names p
  · exact congrArg (fun filters => { p with filters }) (List.append_nil _)
  · exact congrArg (fun filters => { p with filters }) (List.append_assoc ..)

/-- The filter of the template comes first, and no step takes one off again. -/
theorem setSeccomp_ends : Ends .success L.setSeccomp fun s s' =>
    ∃ names, L.AppFilters names ∧ s'.members = s.members ∧ s'.process = { s.process with
      noNewPrivs := true
      filters := s.process.filters ++ L.customFilter s.members.template :: names.map .named } := by
  intro s hs
  rw [setSeccomp] at hs ⊢
  obtain ⟨s₁, ⟨hmembers₁, hprocess₁⟩, s₂, ⟨hmembers₂, hprocess₂⟩, _,
      ⟨names, hnames, hmembers, hprocess⟩, heq⟩ :=
    Ends.cons (turns_attempt (by decide)) (Ends.cons (turns_attempt (by decide))
      (Ends.cons appFilters_ends Ends.nil)) s hs
  refine ⟨names, hnames, ?_, ?_⟩
  · rw [← heq, hmembers, hmembers₂, hmembers₁]
  · rw [← heq, hprocess, foldl_after_named, hprocess₂, hprocess₁]
    exact congrArg (fun filters => { s.process with noNewPrivs := true, filters })
      (List.append_assoc ..)

theorem deliverExecuterInit_turns : Turns L.deliverExecuterInit fun _ =>
    if !L.isShell then [] else [.executerInit] :=
  Turns.unless (turns_withDevice (by decide) (turns_attempt (by decide)))

/-- No capability is left for the program. -/
theorem dropCapabilities_turns : Turns L.dropCapabilities fun _ =>
    (if L.build.linux then [.lockSecurebits] else []) ++ [.capset] :=
  Turns.cons (Turns.whenever (turns_attempt (by decide)))
    (Turns.singleton (turns_attemptZero (by decide)))

theorem markPaths_turns : Turns L.markPaths fun _ => .addPathMark rootMark ::
    if L.world.access CURRENT_USER_DIR then [.addPathMark ugcMark] else [] := by
  intro s hs
  rw [markPaths] at hs ⊢
  split at hs
  next => exact absurd hs (Outcome.of_ne_success (by decide))
  next hroot =>
    rw [if_neg hroot]
    have hugc : Turns L.markUgcPath fun _ =>
        if L.world.access CURRENT_USER_DIR then [.addPathMark ugcMark] else [] :=
      Turns.whenever (turns_attemptIoctl (by decide))
    obtain ⟨hmembers, hprocess⟩ := hugc _ hs
    rw [hmembers, hprocess, LaunchState.called_process]
    exact ⟨rfl, rfl⟩

/-- The marks of a custom sandbox. -/
def marks (L : Launch) : List PathMark :=
  if !L.isShell then []
  else if !L.isPermissionGranted CUSTOM_SANDBOX then []
  else rootMark :: if L.world.access CURRENT_USER_DIR then [ugcMark] else []

/-- Only a custom sandbox is marked. -/
theorem setSandboxPathMark_turns :
    Turns L.setSandboxPathMark fun _ => L.marks.map .addPathMark := by
  have h : Turns L.setSandboxPathMark _ :=
    Turns.unless (Turns.unless (turns_withDevice (by decide) markPaths_turns))
  refine h.mono ?_
  rintro s s' ⟨hmembers, hprocess⟩
  refine ⟨hmembers, hprocess.trans ?_⟩
  rw [marks]
  split_ifs <;> rfl

theorem setEncapsProcFlag_turns : Turns L.setEncapsProcFlag fun _ =>
    if !L.isShell then []
    else if !L.isPermissionGranted CUSTOM_SANDBOX then [] else [.setEncapsProcFlag] :=
  Turns.unless (Turns.unless (turns_withDevice (by decide) (turns_attemptIoctl (by decide))))

end Launch
end SandboxManager.Claw
