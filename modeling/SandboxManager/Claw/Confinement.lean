import SandboxManager.Claw.LaunchOrder
import SandboxManager.Claw.LaunchRuns

/-! The process that runs the program.

`Launch.confined` says what the launcher has made of itself when it is replaced, field by field, and
`Granted` what it relied on. A launch runs its program only so (`execute_confines`): whatever is
answered on the way, no launch ends in a program with a step left out. -/
namespace SandboxManager.Claw
open Library MountPhase

/-- What a launch was given on its way. -/
structure LaunchGrants where
  template : TemplateConfig
  tokenIdEx : UInt64
  mountNamespace : Bytes
  name : Bytes
  environment : Environment
  filterNames : List Bytes
  file : Nat

namespace Launch

/-- The context that is taken on, where there are ranges to keep apart. -/
def context (L : Launch) : Option SelinuxContext :=
  if L.build.mcs ∧ 1 ≤ L.world.isSelinuxEnabled then L.contextFor L.config.callerPid else none

def policies (L : Launch) : PolicyState :=
  (deliverDaemonSidePolicies L.startupConfig L.monitorSocketPath L.world.startup).2.2

/-- What the members were that the late steps use. -/
def lateMembers (g : LaunchGrants) : LaunchMembers where
  template := g.template
  tokenIdEx := g.tokenIdEx
  newRootPath := sandboxPath g.name

/-- What the launcher relied on. -/
structure Granted (L : Launch) (g : LaunchGrants) : Prop where
  valid : L.Valid
  template : loadJsonConfig L.world.cJSON_Parse L.world.valueint L.config.currentUserId
    (L.world.readFile L.templatePath) = .ok g.template
  context : L.build.mcs = true → 1 ≤ L.world.isSelinuxEnabled → L.context.isSome
  tokenIdEx : L.isShell = false → L.world.initCliToken L.initInfo = .ok g.tokenIdEx
  mountNamespace : L.CallerNamespace g.mountNamespace
  name : L.rootName = .ok g.name
  gate : L.gateConfig.needsStartGate = true → L.world.gateToken = true
  policies : L.build.shellSandbox = true →
    (deliverDaemonSidePolicies L.startupConfig L.monitorSocketPath L.world.startup).1 = .SUCCESS
  monitor : L.build.shellSandbox = true →
    ∃ socketFd, connectMonitorSocket L.monitorSocketPath L.world.startup = .ok socketFd
  environment : commandEnvironment L.build.shellSandbox L.world.envCalls g.template.envPolicy
    L.envConfig L.world.environ L.world.credentials = .ok g.environment
  filterNames : L.AppFilters g.filterNames
  file : ∃ path, L.argv.head? = some path ∧ L.openAllowedExecutable g.template path = some g.file

/-- The process that runs the program. -/
def confined (L : Launch) (g : LaunchGrants) : Process where
  context := L.context
  mountNamespace := some g.mountNamespace
  namespaces := L.config.nsFlags
  root := some (sandboxPath g.name)
  oldRoot := false
  groups := L.groups g.template
  ownGroup := true
  policies := if L.shells then some L.policies else none
  child := L.gateConfig.needsForkAfterUnshare
  tokenId := some (if L.isShell then L.config.callerTokenId else g.tokenIdEx)
  hapPTokenId := if L.shells then
    some (L.world.addCliBinaryInvokerTokenFlag L.config.callerTokenId) else none
  ownerid := if L.isShell then some (L.config.appIdentifier.take (MAX_OWNERID_LEN - 1)) else none
  ainfo := if L.isShell && L.build.aids then
    some (L.config.uid / UID_BASE, L.config.appIdentifierU64) else none
  gid := some L.config.gid
  uid := some L.config.uid
  decPolicies := if L.shells then L.denied (lateMembers g) ++ L.granted (lateMembers g) else []
  cwd := some (if L.config.workdir = [] then [slash] else L.config.workdir)
  environment := some g.environment
  noNewPrivs := true
  filters := L.customFilter g.template :: g.filterNames.map .named
  executer := L.shells
  capabilities := false
  marks := if L.shells then L.marks else []
  encaps := L.shells && L.isPermissionGranted CUSTOM_SANDBOX
  program := some (g.file, L.argv, g.environment)

variable {L : Launch}

/-! ### The phases -/

theorem setSelinuxMCS_phase :
    Ends .success (inOrder (if L.build.mcs then [L.setSelinuxMCS] else [])) fun s s' =>
      (L.build.mcs = true → 1 ≤ L.world.isSelinuxEnabled → L.context.isSome) ∧
        s'.members = s.members ∧
        (s.process.context = none → s'.process = { s.process with context := L.context }) := by
  rw [context]
  split
  next hbuild =>
    refine (Ends.cons setSelinuxMCS_ends Ends.nil).mono ?_
    rintro s s' ⟨_, ⟨hcontext, hmembers, hprocess⟩, rfl⟩
    simp only [hbuild, true_and]
    refine ⟨fun _ henabled => ?_, hmembers, fun hnone => ?_⟩
    · rw [if_pos henabled]
      exact hcontext henabled
    · rw [hprocess, hnone]
  next hbuild =>
    rintro s -
    refine ⟨fun h => absurd h hbuild, rfl, fun hnone => ?_⟩
    rw [if_neg fun h => hbuild h.1, ← hnone]
    rfl

theorem earlySteps_ends : Ends .success (inOrder L.earlySteps) fun s s' =>
    ∃ template tokenIdEx gid ns, L.Valid ∧
      loadJsonConfig L.world.cJSON_Parse L.world.valueint L.config.currentUserId
        (L.world.readFile L.templatePath) = .ok template ∧
      (L.build.mcs = true → 1 ≤ L.world.isSelinuxEnabled → L.context.isSome) ∧
      (L.isShell = false → L.world.initCliToken L.initInfo = .ok tokenIdEx) ∧
      L.CallerNamespace ns ∧ s'.members = { s.members with template, tokenIdEx } ∧
      (s.process.context = none → s'.process = { s.process with
        context := L.context
        groups := [gid]
        mountNamespace := some ns }) := by
  refine (Ends.append (Ends.append (Ends.cons validateConfig_ends
    (Ends.cons loadTemplate_ends Ends.nil)) setSelinuxMCS_phase)
    (Ends.cons generateTokenId_ends (Ends.cons enterCallerSandbox_ends Ends.nil))).mono ?_
  rintro s s' ⟨s₂, ⟨_, ⟨_, ⟨rfl, hvalid⟩, _, ⟨template, hload, rfl⟩, rfl⟩, hcontext, hmembers,
    hprocess⟩, _, ⟨tokenIdEx, htoken, rfl⟩, _, ⟨hmembers', gid, ns, hns, hprocess'⟩, rfl⟩
  refine ⟨template, tokenIdEx, gid, ns, hvalid, hload, hcontext, htoken, hns, ?_, fun hnone => ?_⟩
  · rw [hmembers', hmembers]
  · rw [hprocess']
    exact congrArg (fun p : Process => { p with groups := [gid], mountNamespace := some ns })
      (hprocess hnone)

theorem mounts_turns : Turns (inOrder
    [L.unshareNamespaces, L.mountRoot, L.mountSystem, L.linkAll, L.mountApp, L.setGroups,
      L.applyMounts]) fun m => [.unshare L.config.nsFlags, .setgroups (L.groups m.template)] := by
  have hgroups : Turns L.setGroups fun m => [.setgroups (L.groups m.template)] :=
    fun s hs => turns_attempt (by decide) s hs
  exact Turns.cons (turns_attempt (by decide)) (Turns.cons (turns_mounting _) (Turns.cons
    (turns_mounting _) (Turns.cons (turns_mounting _) (Turns.cons (turns_mounting _) (Turns.cons
      hgroups (Turns.singleton (turns_mounting _)))))))

theorem daemon_phase :
    Ends .success (inOrder (L.shellOnly [L.deliverDaemonSide, L.connectMonitor])) fun s s' =>
      (L.build.shellSandbox = true →
        (deliverDaemonSidePolicies L.startupConfig L.monitorSocketPath L.world.startup).1 = .SUCCESS) ∧
      (L.build.shellSandbox = true →
        ∃ socketFd, connectMonitorSocket L.monitorSocketPath L.world.startup = .ok socketFd) ∧
      s'.members = s.members ∧
      s'.process = { s.process with
        policies := if L.shells then some L.policies else s.process.policies } := by
  rw [shellOnly, shells]
  cases L.build.shellSandbox with
  | true =>
    refine (Ends.cons deliverDaemonSide_ends (Ends.cons connectMonitor_ends Ends.nil)).mono ?_
    rintro s s' ⟨s₁, ⟨hdelivered, hmembers, hprocess⟩, _, ⟨hconnected, hmembers', hprocess'⟩, rfl⟩
    exact ⟨fun _ => hdelivered, fun _ => hconnected, hmembers'.trans hmembers,
      hprocess'.trans hprocess⟩
  | false =>
    rintro s -
    exact ⟨fun h => absurd h Bool.false_ne_true, fun h => absurd h Bool.false_ne_true, rfl, rfl⟩

theorem mountSteps_ends : Ends .success (inOrder L.mountSteps) fun s s' =>
    ∃ name, L.rootName = .ok name ∧
      (L.build.shellSandbox = true →
        (deliverDaemonSidePolicies L.startupConfig L.monitorSocketPath L.world.startup).1 = .SUCCESS) ∧
      (L.build.shellSandbox = true →
        ∃ socketFd, connectMonitorSocket L.monitorSocketPath L.world.startup = .ok socketFd) ∧
      (L.gateConfig.needsStartGate = true → L.world.gateToken = true) ∧
      s'.members = { s.members with
        newRootPath := sandboxPath name
        putOldPath := sandboxPath name ++ bytes "/put_old"
        pivotRootDone := true } ∧
      s'.process = { s.process with
        namespaces := s.process.namespaces ||| L.config.nsFlags
        groups := L.groups s.members.template
        root := some (sandboxPath name)
        cwd := some [slash]
        oldRoot := false
        ownGroup := true
        policies := if L.shells then some L.policies else s.process.policies
        child := L.gateConfig.needsForkAfterUnshare || s.process.child } := by
  have hsteps : L.mountSteps = [L.createNewRoot] ++
      ([L.unshareNamespaces, L.mountRoot, L.mountSystem, L.linkAll, L.mountApp, L.setGroups,
        L.applyMounts] ++ ([L.pivot, L.setProcessGroup] ++
          (L.shellOnly [L.deliverDaemonSide, L.connectMonitor] ++ [L.forkChild, L.mountProcFs]))) :=
    by rw [mountSteps, List.append_assoc]; rfl
  have hgroup : Turns L.setProcessGroup fun _ => [.setpgid] := turns_attempt (by decide)
  rw [hsteps]
  refine (Ends.append (Ends.cons createNewRoot_ends Ends.nil) (Ends.append mounts_turns (Ends.append
    (Ends.cons pivot_ends (Ends.cons hgroup Ends.nil)) (Ends.append daemon_phase
      (Ends.cons forkChild_ends (Ends.cons mountProcFs_turns Ends.nil)))))).mono ?_
  rintro s s' ⟨_, ⟨_, ⟨name, hname, hprocess₁, hmembers₁⟩, rfl⟩, s₂, ⟨hmembers₂, hprocess₂⟩, _,
    ⟨s₃, ⟨hmembers₃, hprocess₃⟩, _, ⟨hmembers₄, hprocess₄⟩, rfl⟩, s₅,
    ⟨hdelivered, hconnected, hmembers₅, hprocess₅⟩, s₆, ⟨hgate, hmembers₆, hprocess₆⟩, s₇,
    ⟨hmembers₇, hprocess₇⟩, rfl⟩
  have hproc : s₇.process = s₆.process := by
    rw [hprocess₇]
    split <;> rfl
  refine ⟨name, hname, hdelivered, hconnected, hgate, ?_, ?_⟩
  · rw [hmembers₇, hmembers₆, hmembers₅, hmembers₄, hmembers₃, hmembers₂, hmembers₁]
  · rw [hproc, hprocess₆, hprocess₅, hprocess₄, hprocess₃, hprocess₂, hmembers₂, hmembers₁, hprocess₁]
    rfl

theorem identity_phase :
    Ends .success (inOrder [L.setAccessToken, L.setXpmOwnerId, L.setAinfo]) fun s s' =>
      s'.members = s.members ∧ s'.process = { s.process with
        tokenId := some (L.callerId s.members)
        hapPTokenId := if L.shells then
            some (L.world.addCliBinaryInvokerTokenFlag (L.callerId s.members))
          else s.process.hapPTokenId
        ownerid := if L.isShell then some (L.config.appIdentifier.take (MAX_OWNERID_LEN - 1))
          else s.process.ownerid
        ainfo := if L.isShell && L.build.aids then
            some (L.config.uid / UID_BASE, L.config.appIdentifierU64)
          else s.process.ainfo } := by
  refine (Turns.cons setAccessToken_turns (Turns.cons setXpmOwnerId_turns
    (Turns.singleton setAinfo_turns))).mono ?_
  rintro s s' ⟨hmembers, hprocess⟩
  refine ⟨hmembers, ?_⟩
  rw [hprocess]
  cases L.isShell <;> cases L.build.aids <;> cases L.shells <;> rfl

theorem credentials_phase :
    Ends .success (inOrder (L.shellOnly [L.fetchCredentials])) fun s s' =>
      s'.members = { s.members with
        toolCredentials := if L.build.shellSandbox then
            fetchToolCredentials L.envConfig L.world.credentials
          else s.members.toolCredentials } ∧
      s'.process = s.process := by
  rw [shellOnly]
  cases L.build.shellSandbox with
  | true =>
    refine (Ends.cons fetchCredentials_ends Ends.nil).mono ?_
    rintro s s' ⟨_, rfl, rfl⟩
    exact ⟨rfl, rfl⟩
  | false => exact fun s _ => ⟨rfl, rfl⟩

theorem foldl_after_decs (infos : List DecPolicyInfo) (p : Process) :
    (infos.map LaunchCall.setDecPolicy).foldl Process.after p =
      { p with decPolicies := p.decPolicies ++ infos } := by
  refine foldl_after (fun p infos => { p with decPolicies := p.decPolicies ++ infos })
    (fun p => ?_) (fun p _ _ => ?_) infos p
  · exact congrArg (fun decPolicies => { p with decPolicies }) (List.append_nil _)
  · exact congrArg (fun decPolicies => { p with decPolicies }) (List.append_assoc ..)

theorem dec_phase :
    Ends .success (inOrder (L.shellOnly [L.preDecDenyPaths, L.applyDec])) fun s s' =>
      s'.members = s.members ∧ s'.process = { s.process with
        decPolicies := s.process.decPolicies ++
          if L.shells then L.denied s.members ++ L.granted s.members else [] } := by
  rw [shellOnly, shells]
  cases L.build.shellSandbox with
  | true =>
    refine (Turns.cons preDecDenyPaths_turns (Turns.singleton applyDec_turns)).mono ?_
    rintro s s' ⟨hmembers, hprocess⟩
    refine ⟨hmembers, ?_⟩
    rw [hprocess]
    dsimp only
    rw [← List.map_append, foldl_after_decs]
    cases hshell : L.isShell with
    | true => rfl
    | false =>
      have htype : L.config.type ≠ bytes "shell" := by
        simpa [isShell] using hshell
      have hdenied : L.denied s.members = [] := by
        rw [denied, hshell]
        rfl
      have hgranted : L.granted s.members = [] := by
        rw [granted, applyDecPolicies, if_pos (show (L.decConfig s.members).type ≠ _ from htype)]
        rfl
      rw [hdenied, hgranted]
      rfl
  | false =>
    refine fun s _ => ⟨rfl, ?_⟩
    exact congrArg (fun decPolicies => { s.process with decPolicies }) (List.append_nil _).symm

theorem workdir_phase :
    Ends .success (inOrder [L.prepareWorkdir, L.setEnvironment]) fun s s' =>
      ∃ environment, applyEnvironment L.build.shellSandbox L.world.envCalls
          s.members.template.envPolicy L.envConfig L.world.environ = .ok environment ∧
        s'.members = s.members ∧ s'.process = { s.process with
          cwd := if L.config.workdir = [] then s.process.cwd else some L.config.workdir
          environment := some environment } := by
  refine (Ends.cons prepareWorkdir_turns (Ends.cons setEnvironment_ends Ends.nil)).mono ?_
  rintro s s' ⟨s₁, ⟨hmembers, hprocess⟩, _, ⟨environment, happly, rfl⟩, rfl⟩
  rw [hmembers] at happly
  refine ⟨environment, happly, hmembers, ?_⟩
  rw [LaunchState.called_process, hprocess]
  split <;> rfl

/-- The credentials are added to the environment that was set. -/
theorem command_phase :
    Ends .success (inOrder ([L.prepareWorkdir, L.setEnvironment] ++ L.shellOnly [L.setCredentials]))
      fun s s' => s'.members = s.members ∧ ∃ environment,
        ((L.build.shellSandbox = true →
            s.members.toolCredentials = fetchToolCredentials L.envConfig L.world.credentials) →
          commandEnvironment L.build.shellSandbox L.world.envCalls s.members.template.envPolicy
            L.envConfig L.world.environ L.world.credentials = .ok environment) ∧
        s'.process = { s.process with
          cwd := if L.config.workdir = [] then s.process.cwd else some L.config.workdir
          environment := some environment } := by
  rw [shellOnly]
  cases hbuild : L.build.shellSandbox with
  | true =>
    have hcredentials : Ends .success L.setCredentials fun s s' =>
        s' = s.called (.setEnvironment (setToolCredentials L.world.envCalls L.envConfig
          s.members.toolCredentials (environmentOf s))) := fun _ _ => rfl
    refine (Ends.append workdir_phase (Ends.cons hcredentials Ends.nil)).mono ?_
    rintro s s' ⟨s₁, ⟨environment, happly, hmembers, hprocess⟩, _, rfl, rfl⟩
    refine ⟨hmembers, setToolCredentials L.world.envCalls L.envConfig s.members.toolCredentials
      environment, fun hfetched => ?_, ?_⟩
    · rw [hbuild] at happly
      rw [commandEnvironment, happly, hfetched rfl]
      rfl
    · rw [LaunchState.called_process, environmentOf, hmembers, hprocess]
      rfl
  | false =>
    refine (Ends.append workdir_phase Ends.nil).mono ?_
    rintro s s' ⟨s₁, ⟨environment, happly, hmembers, hprocess⟩, rfl⟩
    refine ⟨hmembers, environment, fun _ => ?_, hprocess⟩
    rw [hbuild] at happly
    rw [commandEnvironment, happly]
    rfl

theorem seccomp_phase : Ends .success (inOrder ([L.setSeccomp] ++ L.shellOnly [L.deliverExecuterInit] ++
    [L.dropCapabilities])) fun s s' =>
      ∃ names, L.AppFilters names ∧ s'.members = s.members ∧ s'.process = { s.process with
        noNewPrivs := true
        filters := s.process.filters ++ L.customFilter s.members.template :: names.map .named
        executer := L.shells || s.process.executer
        capabilities := false } := by
  have hexecuter : Ends .success (inOrder (L.shellOnly [L.deliverExecuterInit])) fun s s' =>
      s'.members = s.members ∧
        s'.process = { s.process with executer := L.shells || s.process.executer } := by
    rw [shellOnly, shells]
    cases L.build.shellSandbox with
    | true =>
      refine (Turns.singleton deliverExecuterInit_turns).mono ?_
      rintro s s' ⟨hmembers, hprocess⟩
      refine ⟨hmembers, hprocess.trans ?_⟩
      cases L.isShell <;> rfl
    | false => exact fun s _ => ⟨rfl, rfl⟩
  refine (Ends.append (Ends.append (Ends.cons setSeccomp_ends Ends.nil) hexecuter)
    (Ends.cons dropCapabilities_turns Ends.nil)).mono ?_
  rintro s s' ⟨s₂, ⟨_, ⟨s₁, ⟨names, hnames, hmembers₁, hprocess₁⟩, rfl⟩, hmembers₂, hprocess₂⟩, s₃,
    ⟨hmembers₃, hprocess₃⟩, rfl⟩
  refine ⟨names, hnames, hmembers₃.trans (hmembers₂.trans hmembers₁), ?_⟩
  rw [hprocess₃, hprocess₂, hprocess₁]
  cases L.build.linux <;> rfl

theorem foldl_after_marks (marks : List PathMark) (p : Process) :
    (marks.map LaunchCall.addPathMark).foldl Process.after p =
      { p with marks := p.marks ++ marks } := by
  refine foldl_after (fun p marks => { p with marks := p.marks ++ marks })
    (fun p => ?_) (fun p _ _ => ?_) marks p
  · exact congrArg (fun marks => { p with marks }) (List.append_nil _)
  · exact congrArg (fun marks => { p with marks }) (List.append_assoc ..)

theorem marks_phase :
    Ends .success (inOrder (L.shellOnly [L.setSandboxPathMark, L.setEncapsProcFlag])) fun s s' =>
      s'.process = { s.process with
        marks := s.process.marks ++ if L.shells then L.marks else []
        encaps := L.shells && L.isPermissionGranted CUSTOM_SANDBOX || s.process.encaps } ∧
      s'.members = s.members := by
  rw [shellOnly, shells]
  cases L.build.shellSandbox with
  | true =>
    refine (Turns.cons setSandboxPathMark_turns (Turns.singleton setEncapsProcFlag_turns)).mono ?_
    rintro s s' ⟨hmembers, hprocess⟩
    refine ⟨?_, hmembers⟩
    rw [hprocess, List.foldl_append, foldl_after_marks]
    cases hshell : L.isShell with
    | true => cases L.isPermissionGranted CUSTOM_SANDBOX <;> rfl
    | false =>
      rw [marks, hshell]
      rfl
  | false =>
    refine fun s _ => ⟨?_, rfl⟩
    exact congrArg (fun marks => { s.process with marks }) (List.append_nil _).symm

theorem lateSteps_ends : Ends .success (inOrder L.lateSteps) fun s s' =>
    ∃ environment names, L.AppFilters names ∧
      commandEnvironment L.build.shellSandbox L.world.envCalls s.members.template.envPolicy
        L.envConfig L.world.environ L.world.credentials = .ok environment ∧
      s'.members.template = s.members.template ∧
      s'.process = { s.process with
        tokenId := some (L.callerId s.members)
        hapPTokenId := if L.shells then
            some (L.world.addCliBinaryInvokerTokenFlag (L.callerId s.members))
          else s.process.hapPTokenId
        ownerid := if L.isShell then some (L.config.appIdentifier.take (MAX_OWNERID_LEN - 1))
          else s.process.ownerid
        ainfo := if L.isShell && L.build.aids then
            some (L.config.uid / UID_BASE, L.config.appIdentifierU64)
          else s.process.ainfo
        gid := some L.config.gid
        uid := some L.config.uid
        decPolicies := s.process.decPolicies ++
          if L.shells then L.denied s.members ++ L.granted s.members else []
        cwd := if L.config.workdir = [] then s.process.cwd else some L.config.workdir
        environment := some environment
        noNewPrivs := true
        filters := s.process.filters ++ L.customFilter s.members.template :: names.map .named
        executer := L.shells || s.process.executer
        capabilities := false
        marks := s.process.marks ++ if L.shells then L.marks else []
        encaps := L.shells && L.isPermissionGranted CUSTOM_SANDBOX || s.process.encaps } := by
  have hsteps : L.lateSteps = [L.setAccessToken, L.setXpmOwnerId, L.setAinfo] ++
      (L.shellOnly [L.fetchCredentials] ++ ([L.setUidGid] ++
        (L.shellOnly [L.preDecDenyPaths, L.applyDec] ++
          (([L.prepareWorkdir, L.setEnvironment] ++ L.shellOnly [L.setCredentials]) ++
            (([L.setSeccomp] ++ L.shellOnly [L.deliverExecuterInit] ++ [L.dropCapabilities]) ++
              L.shellOnly [L.setSandboxPathMark, L.setEncapsProcFlag]))))) := by
    simp only [lateSteps, List.append_assoc]
  rw [hsteps]
  refine (Ends.append identity_phase (Ends.append credentials_phase (Ends.append
    (Turns.singleton setUidGid_turns) (Ends.append dec_phase (Ends.append command_phase
      (Ends.append seccomp_phase marks_phase)))))).mono ?_
  rintro s s' ⟨s₁, ⟨hmembers₁, hprocess₁⟩, s₂, ⟨hmembers₂, hprocess₂⟩, s₃, ⟨hmembers₃, hprocess₃⟩,
    s₄, ⟨hmembers₄, hprocess₄⟩, s₅, ⟨hmembers₅, environment, henvironment, hprocess₅⟩, s₆,
    ⟨names, hnames, hmembers₆, hprocess₆⟩, hprocess, hmembers⟩
  have hfound : s₄.members = s₂.members := hmembers₄.trans hmembers₃
  rw [hfound, hmembers₂, hmembers₁] at henvironment
  refine ⟨environment, names, hnames, henvironment fun hbuild => ?_, ?_, ?_⟩
  · rw [hbuild]
    rfl
  · rw [hmembers, hmembers₆, hmembers₅, hfound, hmembers₂, hmembers₁]
  · rw [hprocess, hprocess₆, hmembers₅, hprocess₅, hprocess₄, hfound, hmembers₃, hprocess₃,
      hmembers₂, hprocess₂, hmembers₁, hprocess₁]
    cases L.build.linux <;> rfl

theorem executeCommand_starts {s : LaunchState} {call : LaunchCall} (hs : call ∉ s.calls)
    (h : call ∈ (L.executeCommand s).2.calls) :
    ∃ path file, L.argv.head? = some path ∧
      L.openAllowedExecutable s.members.template path = some file ∧
      (L.executeCommand s).2.process =
        { s.process with program := some (file, L.argv, environmentOf s) } := by
  rw [executeCommand] at h ⊢
  split at h
  next => exact absurd h hs
  next file hopen =>
    obtain ⟨path, hpath, hfile⟩ := Option.bind_eq_some_iff.mp hopen
    dsimp only at h ⊢
    split at h
    next => exact absurd h hs
    next hanswer =>
      rw [if_neg hanswer, LaunchState.called_process]
      exact ⟨path, file, hpath, hfile, rfl⟩

/-- A program comes of the one call that starts one. -/
theorem exists_start {calls : List LaunchCall} {p : Process}
    (h : (calls.foldl Process.after p).program ≠ none) (hp : p.program = none) :
    ∃ call ∈ calls, call.stage = 31 := by
  induction calls generalizing p with
  | nil => exact absurd hp h
  | cons call calls ih =>
    rw [List.exists_mem_cons_iff]
    by_cases hcall : call.stage = 31
    · exact .inl hcall
    · refine .inr (ih h ?_)
      cases call with
      | fexecve => exact absurd rfl hcall
      | _ => exact hp

/-- **A program runs only in a process that is confined.** -/
theorem execute_confines (L : Launch) (h : (L.execute {}).2.process.program ≠ none) :
    ∃ g, L.Granted g ∧ (L.execute {}).2.process = L.confined g := by
  obtain ⟨call, hcall, hstage⟩ := exists_start h rfl
  have hlater {hi : Nat} (hhi : hi ≤ 30) (lo : Nat) : call.stage < lo ∨ hi < call.stage :=
    .inr (hstage ▸ Nat.lt_succ_of_le hhi)
  rw [execute] at hcall ⊢
  obtain ⟨hearly, hnone₁, heq₁⟩ :=
    earlySteps_inStages.of_mem (hlater (by decide) _) List.not_mem_nil hcall
  rw [inOrder, heq₁] at hcall ⊢
  obtain ⟨hmount, hnone₂, heq₂⟩ :=
    mountSteps_inStages.of_mem (hlater (by decide) _) hnone₁ hcall
  rw [heq₂] at hcall ⊢
  obtain ⟨hlate, hnone₃, heq₃⟩ :=
    lateSteps_inStages.of_mem (hlater (by decide) _) hnone₂ hcall
  rw [heq₃, untilFailure_singleton] at hcall ⊢
  obtain ⟨template, tokenIdEx, gid, ns, hvalid, hload, hcontext, htoken, hns, hmembers₁,
    hprocess₁⟩ := earlySteps_ends _ hearly
  obtain ⟨name, hname, hdelivered, hconnected, hgate, hmembers₂, hprocess₂⟩ :=
    mountSteps_ends _ hmount
  obtain ⟨environment, names, hnames, henvironment, htemplate, hprocess₃⟩ := lateSteps_ends _ hlate
  obtain ⟨path, file, hpath, hfile, hprocess⟩ := executeCommand_starts hnone₃ hcall
  refine ⟨⟨template, tokenIdEx, ns, name, environment, names, file⟩, ?_, ?_⟩
  · rw [htemplate, hmembers₂, hmembers₁] at hfile
    rw [hmembers₂, hmembers₁] at henvironment
    exact ⟨hvalid, hload, hcontext, htoken, hns, hname, hgate, hdelivered, hconnected, henvironment,
      hnames, path, hpath, hfile⟩
  · rw [hprocess, environmentOf, hprocess₃, hprocess₂, hmembers₂, hprocess₁ rfl, hmembers₁]
    apply Process.ext
    case namespaces => exact UInt32.zero_or
    case child => exact Bool.or_false _
    case hapPTokenId =>
      refine ite_congr rfl (fun hshells => ?_) fun _ => rfl
      rw [callerId, if_pos (Bool.and_eq_true_iff.mp hshells).2]
    case cwd => exact (apply_ite some _ _ _).symm
    case executer => exact Bool.or_false _
    case encaps => exact Bool.or_false _
    all_goals rfl

/-! ### The deletion -/

theorem foldl_after_unlinks (path : Bytes) (links : List Bytes) (p : Process) :
    (links.map fun link => LaunchCall.unlink (path ++ [slash] ++ link)).foldl Process.after p = p :=
  foldl_after (fun p _ => p) (fun _ => rfl) (fun _ _ _ => rfl) links p

/-- Of the links that the walk comes to some are unlinked. -/
theorem foldl_unlinkLink_calls (path : Bytes) (found : List Bytes) (s : LaunchState) :
    ∃ links : List Bytes, (found.foldl (L.unlinkLink path) s).calls =
      s.calls ++ links.map fun link => .unlink (path ++ [slash] ++ link) := by
  induction found generalizing s with
  | nil => exact ⟨[], (List.append_nil _).symm⟩
  | cons link found ih =>
    rw [List.foldl_cons]
    obtain ⟨links, hcalls⟩ := ih (L.unlinkLink path s link)
    rw [hcalls, unlinkLink]
    split
    next => exact ⟨links, rfl⟩
    next => exact ⟨link :: links, List.append_assoc ..⟩

/-- Only of a directory is anything removed, and all that is removed lies in it: links first, then
the tree. -/
theorem removeSandboxDirTree_calls {path : Bytes} {s : LaunchState} {call : LaunchCall}
    (hs : call ∉ s.calls) (h : call ∈ (L.removeSandboxDirTree path s).2.calls) :
    L.world.lstat path = .ok true ∧ call.Removes path ∧
      (L.removeSandboxDirTree path s).2.process = s.process := by
  cases hlstat : L.world.lstat path with
  | error errno =>
    rw [removeSandboxDirTree, hlstat] at h
    exact absurd h hs
  | ok isDirectory =>
    cases isDirectory with
    | false =>
      rw [removeSandboxDirTree, hlstat] at h
      exact absurd h hs
    | true =>
      have hstep : L.removeSandboxDirTree path s =
          L.attempt (.removeTree path) .ERR_GENERIC (L.unlinkLinks path s).2 := by
        rw [removeSandboxDirTree, hlstat]
        show inOrder ([L.unlinkLinks path] ++ [_]) s = _
        rw [inOrder, untilFailure_append, untilFailure_singleton, untilFailure_singleton]
        rfl
      obtain ⟨links, hcalls⟩ := foldl_unlinkLink_calls (L := L) path (L.world.linksBelow path) s
      have hprocess : (L.unlinkLinks path s).2.process = s.process := by
        show Process.of (List.foldl _ s _).calls = _
        rw [hcalls, Process.of_append, foldl_after_unlinks]
        rfl
      have hunlinked : call ∈ (L.unlinkLinks path s).2.calls → call.Removes path := by
        intro hmem
        rcases List.mem_append.mp (hcalls ▸ hmem) with hmem | hmem
        · exact absurd hmem hs
        · obtain ⟨link, -, rfl⟩ := List.mem_map.mp hmem
          exact ⟨link, rfl⟩
      rw [hstep, attempt] at h ⊢
      split at h
      next hanswer =>
        rw [if_pos hanswer]
        exact ⟨rfl, hunlinked h, hprocess⟩
      next hanswer =>
        rw [if_neg hanswer, LaunchState.called_process]
        refine ⟨rfl, (List.mem_append.mp h).elim hunlinked fun hmem => ?_, hprocess⟩
        rw [List.mem_singleton.mp hmem]
        exact rfl

/-- What a deletion does once it is done with looking: it is in the caller's namespace, and removes
the one directory. -/
theorem deleteSandboxDir_calls {call : LaunchCall} (h : call ∈ (L.deleteSandboxDir {}).2.calls)
    (hstage : 2 < call.stage) :
    L.Valid ∧ L.config.name ≠ [] ∧ L.world.lstat (sandboxPath L.config.name) = .ok true ∧
      call.Removes (sandboxPath L.config.name) ∧ ∃ ns, L.CallerNamespace ns ∧
        (L.deleteSandboxDir {}).2.process.mountNamespace = some ns := by
  rw [deleteSandboxDir] at h ⊢
  obtain ⟨hvalidated, hnone₁, heq₁⟩ :=
    validateConfig_inStages.of_mem (.inr (Nat.zero_lt_of_lt hstage)) List.not_mem_nil h
  rw [inOrder, heq₁] at h ⊢
  have hname : InStages 0 0
      (if L.config.name = [] then returning .ERR_BAD_PARAMETERS else returning .SUCCESS) :=
    Staged.ite (inStages_returning _) (inStages_returning _)
  obtain ⟨hnamed, hnone₂, heq₂⟩ := hname.of_mem (.inr (Nat.zero_lt_of_lt hstage)) hnone₁ h
  rw [heq₂] at h ⊢
  obtain ⟨hentered, hnone₃, heq₃⟩ := enterCallerSandbox_inStages.of_mem (.inr hstage) hnone₂ h
  rw [heq₃, untilFailure_singleton] at h ⊢
  obtain ⟨hlstat, hcall, hprocess⟩ := removeSandboxDirTree_calls hnone₃ h
  obtain ⟨-, gid, ns, hns, hmount⟩ := enterCallerSandbox_ends _ hentered
  refine ⟨(validateConfig_ends _ hvalidated).2, ?_, hlstat, hcall, ns, hns, ?_⟩
  · rintro hempty
    rw [if_pos hempty] at hnamed
    exact Outcome.of_ne_success (by decide) hnamed
  · rw [hprocess, hmount]

end Launch
end SandboxManager.Claw
