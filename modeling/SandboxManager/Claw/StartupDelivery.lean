import SandboxManager.Claw.DeliveryReport
import SandboxManager.Claw.Monitor
import SandboxManager.Claw.StartGate

/-! From the delivery of the policies to the fork (`sandbox_op_control_deliver.cpp`, with
`BuildSocketProtectionTlv` to `AddSocketProtectionPolicy`, `sandbox_policy.cpp`,
`ConnectMonitorSocket`, `sandbox_manager.cpp`, and `ConnectToApp`, `sandbox_monitor.cpp`).

The parent opens the device, makes itself known to it, delivers the configured groups up to the
first failure and last of all protects the socket of the monitor. Any step that fails ends the
launch before there is a child, the protection alone does not. -/
namespace SandboxManager.Claw
open Library

/-! ### The protection of the socket -/

def buildSocketProtectionTlv (socketFd : Int) (socketPath : Bytes) : SandboxPolicyTlv where
  policies := [{
    operationType := .FILE
    defaultAction := .NONE
    rules := [POLICY_FILE_EVENT_READ, POLICY_FILE_EVENT_WRITE, POLICY_FILE_EVENT_DELETE].map
      fun eventType => {
        action := .DENY
        eventType := eventType
        objectRules := [[{ cmpType := .EQ, itemType := .PATH, fd := socketFd, path := socketPath }]] } }]

def deliverSocketProtectionTlv (world : PolicyWorld) (tlv : SandboxPolicyTlv) (s : PolicyState) :
    SandboxError × PolicyState :=
  match buildAlPolicyContext tlv with
  | .error ret => (ret, s)
  | .ok context =>
    match s.add world { context with moduleId := PolicyOpType.FILE.value } tlv with
    | (some _, s) => (.ERR_SET_POLICY_FAILED, s)
    | (none, s) => (.SUCCESS, s)

def ENOENT : Nat := 2

def addSocketProtectionPolicy (world : PolicyWorld) (deviceFd : Int) (socketPath : Bytes)
    (s : PolicyState) : SandboxError × PolicyState :=
  if deviceFd < 0 ∨ socketPath = [] then (.SUCCESS, s)
  else
    match world.openPath socketPath with
    | .error errno => (if errno = ENOENT then .SUCCESS else .ERR_SET_POLICY_FAILED, s)
    | .ok inode =>
      let fd := s.handles.length
      let (ret, s) := deliverSocketProtectionTlv world (buildSocketProtectionTlv fd socketPath)
        (s.opened socketPath inode)
      (ret, s.close fd)

/-! ### The configured groups -/

/-- `DeliverOneGroupModules`, for the modules still to come. -/
def deliverModules (world : PolicyWorld) (group : PolicyRuleGroup) :
    List PolicyOpType → PolicyState → SandboxError × PolicyState
  | [], s => (.SUCCESS, s)
  | module :: rest, s =>
    let (outcome, s) := deliverModuleToDevice world group none module s
    if outcome.result ≠ .SUCCESS then (outcome.result, s) else deliverModules world group rest s

def deliverOneGroupStep (world : PolicyWorld) (group : PolicyRuleGroup) (s : PolicyState) :
    SandboxError × PolicyState :=
  if !group.hasFile && !group.hasProcess && !group.hasNetwork then (.SUCCESS, s)
  else deliverModules world group STARTUP_DELIVERY_MODULES s

def deliverPolicyGroups (world : PolicyWorld) :
    List PolicyRuleGroup → PolicyState → SandboxError × PolicyState
  | [], s => (.SUCCESS, s)
  | group :: rest, s =>
    let (ret, s) := deliverOneGroupStep world group s
    if ret ≠ .SUCCESS then (ret, s) else deliverPolicyGroups world rest s

/-! ### The device -/

def UID_BASE : UInt32 := 200000
def DEC_ACTION_AGENTLOCK_ASK : UInt32 := 0

/-- The calls of the device before the first policy. -/
inductive HandshakeCall where
  | daemonInit (userid : UInt32) (taskid appIdentifier : UInt64)
  | eventSub (eventType : UInt32)
  | policyConfigSet (scope : PolicyScopeType)

structure StartupConfig where
  type : Bytes
  uid : UInt32
  appIdentifierU64 : UInt64
  addOperationControlRuleGroups : List PolicyRuleGroup
  /-- `CLONE_NEWPID` among the namespace flags. -/
  newPid : Bool

/-- What the steps meet. Of the connection, whether the path resolves and lies in an allowed
directory, the descriptor of the new socket and the result of `AttemptConnect`. -/
structure StartupAnswers where
  openDevice : Option Nat
  pid : UInt64
  accepts : HandshakeCall → Bool
  world : PolicyWorld
  realPath : Bool
  allowed : Bool
  newSocket : Option Nat
  attemptConnect : SandboxError
  socketpair : Bool
  fork : Bool

section
variable (config : StartupConfig) (socketPath : Bytes) (answers : StartupAnswers)

def daemonInit : SandboxError :=
  if !answers.accepts (.daemonInit (config.uid / UID_BASE) answers.pid config.appIdentifierU64) then
    .ERR_SET_POLICY_FAILED
  else if !answers.accepts (.eventSub DEC_ACTION_AGENTLOCK_ASK) then .ERR_SET_POLICY_FAILED
  else .SUCCESS

def deliverScopeConfigSet : SandboxError :=
  let scopeType := match config.addOperationControlRuleGroups with
    | [] => .SELF_SESSION
    | group :: _ => group.scope.type
  if !answers.accepts (.policyConfigSet scopeType) then .ERR_SET_POLICY_FAILED else .SUCCESS

def runDaemonHandshake : SandboxError :=
  if daemonInit config answers ≠ .SUCCESS then daemonInit config answers
  else deliverScopeConfigSet config answers

/-- The result, `decFd_` and the policies that were handed over. -/
def deliverDaemonSidePolicies : SandboxError × Int × PolicyState :=
  if config.type ≠ bytes "shell" then (.SUCCESS, -1, {})
  else
    match answers.openDevice with
    | none => (.ERR_SET_POLICY_FAILED, -1, {})
    | some decFd =>
      let ret := runDaemonHandshake config answers
      let (ret, s) :=
        if ret = .SUCCESS then
          deliverPolicyGroups answers.world config.addOperationControlRuleGroups {}
        else (ret, {})
      if ret ≠ .SUCCESS then (ret, -1, s)
      else
        -- The result of the protection is logged and goes no further.
        let (_, s) := addSocketProtectionPolicy answers.world decFd socketPath s
        (.SUCCESS, decFd, s)

/-! ### The connection and the fork -/

/-- `sizeof(sun_path)`. -/
def SUN_PATH_SIZE : Nat := 108

def connectToApp : Except SandboxError Int :=
  if socketPath.head? ≠ some slash then .error .ERR_PATH_INVALID
  else if SUN_PATH_SIZE ≤ socketPath.length then .error .ERR_PATH_INVALID
  else
    match answers.newSocket with
    | none => .error .ERR_SOCKET_CREATE_FAILED
    | some fd => if answers.attemptConnect ≠ .SUCCESS then .error answers.attemptConnect else .ok fd

/-- `monitorSocketFd_`. -/
def connectMonitorSocket : Except SandboxError Int :=
  if socketPath = [] then .ok (-1)
  else if !answers.realPath then .error .ERR_PATH_INVALID
  else if !answers.allowed then .error .ERR_PATH_INVALID
  else connectToApp socketPath answers

/-- `DeliverDaemonSidePolicies` to `ForkAfterUnshare`, up to the first step that fails: what the
monitor is given, and the policies that were handed over before there was a child. -/
def startChild : Except SandboxError (MonitorConfig × PolicyState) :=
  let (ret, decFd, s) := deliverDaemonSidePolicies config socketPath answers
  if ret ≠ .SUCCESS then .error ret
  else
    match connectMonitorSocket socketPath answers with
    | .error ret => .error ret
    | .ok socketFd =>
      match forkAfterUnshare ⟨true, config.type, config.newPid⟩ answers.socketpair answers.fork with
      | .gateFailed => .error .ERR_GENERIC
      | .forkFailed _ => .error .ERR_GENERIC
      | _ => .ok (⟨socketPath, socketFd, decFd⟩, s)

end

/-! ### What the protection hands over -/

/-- `DEC_CMD_POLICY_ADD` for the protection. -/
def socketProtectionArg (fd : Int) (socketPath : Bytes) : SandboxPolicyArg :=
  let data := (buildSocketProtectionTlv fd socketPath).wire
  ⟨1, UInt32.ofNat data.length, PolicyOpType.FILE.value, data⟩

/-- The three deny rules, all bound to one inode. -/
def socketProtectionCall (fd : Nat) (socketPath : Bytes) (inode : Inode) (refused : Option Nat) :
    PolicyCall :=
  .added (socketProtectionArg fd socketPath)
    ((buildSocketProtectionTlv fd socketPath).filterRules.map fun rule => (rule, some inode)) refused

def socketProtectionCalls (fd : Nat) (socketPath : Bytes) (inode : Inode) (refused : Option Nat) :
    List PolicyCall :=
  [.opened fd socketPath, socketProtectionCall fd socketPath inode refused, .closed fd]

section
variable (fd : Int) (socketPath : Bytes)

theorem filterRules_buildSocketProtectionTlv :
    (buildSocketProtectionTlv fd socketPath).filterRules =
      List.replicate 3 { cmpType := .EQ, itemType := .PATH, fd := fd, path := socketPath } := rfl

theorem buildSocketProtectionTlv_convertible :
    (buildSocketProtectionTlv fd socketPath).All FilterRule.Convertible := by
  rw [SandboxPolicyTlv.all_iff, filterRules_buildSocketProtectionTlv]
  intro rule hrule
  rw [List.eq_of_mem_replicate hrule]
  exact .inl ⟨rfl, .inl rfl⟩

theorem length_buildSocketProtectionTlv :
    (buildSocketProtectionTlv fd socketPath).wire.length = 455 + 3 * socketPath.length := by
  simp only [buildSocketProtectionTlv, SandboxPolicyTlv.wire, List.flatMap_cons, List.flatMap_nil,
    List.map_cons, List.map_nil, List.length_append, length_tlvU32, OperationPolicy.length_wire,
    PolicyRule.length_wire, length_sectionWire, List.flatten_cons, List.flatten_nil,
    List.append_nil, List.length_nil, FilterRule.wireEntities, WireEntity.length_wire, if_true,
    FilterRule.text, reduceCtorEq, if_false, length_toLe32, List.length_cons]
  have hscope : (scopeBlock {}).length = 32 := rfl
  rw [hscope]
  omega

/-- A path that fits into an address fits into a payload. -/
theorem buildAlPolicyContext_socketProtection (hlength : socketPath.length < SUN_PATH_SIZE) :
    buildAlPolicyContext (buildSocketProtectionTlv fd socketPath) =
      .ok { socketProtectionArg fd socketPath with moduleId := 0 } := by
  have hwire := length_buildSocketProtectionTlv fd socketPath
  have hfits : ¬ POLICY_TLV_MAX_SIZE < (buildSocketProtectionTlv fd socketPath).wire.length := by
    rw [hwire, POLICY_TLV_MAX_SIZE]
    rw [SUN_PATH_SIZE] at hlength
    omega
  rw [buildAlPolicyContext_eq (buildSocketProtectionTlv_convertible fd socketPath), if_neg hfits]
  rfl

end

/-- **The protection is handed over where the path opens**, and nothing is where it does not. -/
theorem addSocketProtectionPolicy_calls (world : PolicyWorld) {deviceFd : Int} {socketPath : Bytes}
    (hdevice : 0 ≤ deviceFd) (hpath : socketPath ≠ []) (hlength : socketPath.length < SUN_PATH_SIZE)
    (s : PolicyState) :
    (∀ inode, world.openPath socketPath = .ok inode →
      (addSocketProtectionPolicy world deviceFd socketPath s).2.calls = s.calls ++
        socketProtectionCalls s.handles.length socketPath inode (world.addPolicy s.policies)) ∧
    (∀ errno, world.openPath socketPath = .error errno →
      (addSocketProtectionPolicy world deviceFd socketPath s).2 = s) := by
  have hready : ¬ (deviceFd < 0 ∨ socketPath = []) :=
    not_or.mpr ⟨Int.not_lt.mpr hdevice, hpath⟩
  rw [addSocketProtectionPolicy, if_neg hready]
  constructor
  · intro inode hopen
    have hbound : (buildSocketProtectionTlv s.handles.length socketPath).boundRules
        (s.opened socketPath inode) =
          (buildSocketProtectionTlv s.handles.length socketPath).filterRules.map
            fun rule => (rule, some inode) := by
      rw [SandboxPolicyTlv.boundRules, filterRules_buildSocketProtectionTlv,
        List.filter_replicate_of_pos rfl, List.map_replicate, List.map_replicate,
        PolicyState.fstat_opened]
    rw [hopen]
    dsimp only
    rw [deliverSocketProtectionTlv, buildAlPolicyContext_socketProtection _ _ hlength]
    dsimp only
    rw [PolicyState.add, hbound]
    have hcount : (s.opened socketPath inode).policies = s.policies := rfl
    rw [hcount]
    cases world.addPolicy s.policies with
    | none => exact (List.append_assoc ..).trans (List.append_assoc ..)
    | some ioctlError => exact (List.append_assoc ..).trans (List.append_assoc ..)
  · intro errno hopen
    rw [hopen]

/-! ### What the groups hand over -/

/-- The device was called and accepted. -/
def ModuleDelivery.Accepted (d : ModuleDelivery) : Prop :=
  ∃ sent, d.sent = some sent ∧ sent.refused = none ∧ sent.arg.moduleId = d.module.value

section
variable {world : PolicyWorld}

theorem deliverModules_cons (group : PolicyRuleGroup) (module : PolicyOpType)
    (rest : List PolicyOpType) (s : PolicyState) :
    deliverModules world group (module :: rest) s =
      if (deliverModuleToDevice world group none module s).1.result ≠ .SUCCESS then
        ((deliverModuleToDevice world group none module s).1.result,
          (deliverModuleToDevice world group none module s).2)
      else deliverModules world group rest (deliverModuleToDevice world group none module s).2 := rfl

theorem deliverPolicyGroups_cons (group : PolicyRuleGroup) (rest : List PolicyRuleGroup)
    (s : PolicyState) :
    deliverPolicyGroups world (group :: rest) s =
      if (deliverOneGroupStep world group s).1 ≠ .SUCCESS then deliverOneGroupStep world group s
      else deliverPolicyGroups world rest (deliverOneGroupStep world group s).2 := rfl

/-- Modules that are delivered without a failure are all accepted. -/
theorem deliverModules_accepted {group : PolicyRuleGroup} {modules : List PolicyOpType}
    {s s' : PolicyState} (h : deliverModules world group modules s = (.SUCCESS, s')) :
    ∃ ds : List ModuleDelivery, ds.map (·.module) = modules.filter group.carries ∧
      (∀ d ∈ ds, d.Accepted) ∧ Effects s s' ds := by
  induction modules generalizing s with
  | nil =>
    cases h
    exact ⟨[], rfl, List.forall_mem_nil _, .nil _⟩
  | cons module rest ih =>
    rw [deliverModules_cons] at h
    by_cases hresult : (deliverModuleToDevice world group none module s).1.result ≠ .SUCCESS
    · rw [if_pos hresult] at h
      exact absurd (congrArg Prod.fst h) hresult
    · rw [if_neg hresult] at h
      obtain ⟨ds, hmodules, haccepted, heffects⟩ := ih h
      cases hcarries : group.carries module with
      | false =>
        obtain ⟨-, hstate⟩ := deliverModuleToDevice_uncarried world none s hcarries
        refine ⟨ds, ?_, haccepted, ?_⟩
        · rw [hmodules, List.filter_cons_of_neg (by rw [hcarries]; exact Bool.false_ne_true)]
        · rw [hstate] at heffects
          exact heffects
      | true =>
        -- No path is protected while the configured groups are delivered.
        obtain ⟨d, rfl, hdelivers⟩ := deliverModuleToDevice_delivers world [] s hcarries
        have hsuccess := hdelivers.result.symm.trans (not_not.mp hresult)
        obtain ⟨sent, hsent, hrefused⟩ := hdelivers.accounted.accepted_iff.mp hsuccess
        have hmodule := (hdelivers.accounted.handed sent hsent).1
        refine ⟨d :: ds, ?_, ?_, hdelivers.effects.append heffects⟩
        · rw [List.map_cons, hmodules, List.filter_cons_of_pos hcarries]
        · exact List.forall_mem_cons.mpr ⟨⟨sent, hsent, hrefused, hmodule⟩, haccepted⟩

theorem deliverOneGroupStep_accepted {group : PolicyRuleGroup} {s s' : PolicyState}
    (h : deliverOneGroupStep world group s = (.SUCCESS, s')) :
    ∃ ds : List ModuleDelivery, ds.map (·.module) = STARTUP_DELIVERY_MODULES.filter group.carries ∧
      (∀ d ∈ ds, d.Accepted) ∧ Effects s s' ds := by
  rw [deliverOneGroupStep] at h
  split at h
  next hnone =>
    cases h
    refine ⟨[], ?_, List.forall_mem_nil _, .nil _⟩
    simp only [Bool.and_eq_true, Bool.not_eq_true'] at hnone
    simp [STARTUP_DELIVERY_MODULES, PolicyRuleGroup.carries, hnone]
  next => exact deliverModules_accepted h

/-- Groups that are delivered without a failure are accepted module by module. -/
theorem deliverPolicyGroups_accepted {ruleGroups : List PolicyRuleGroup} {s s' : PolicyState}
    (h : deliverPolicyGroups world ruleGroups s = (.SUCCESS, s')) :
    ∃ deliveries : List (PolicyRuleGroup × List ModuleDelivery),
      deliveries.map (·.1) = ruleGroups ∧
      (∀ entry ∈ deliveries,
        entry.2.map (·.module) = STARTUP_DELIVERY_MODULES.filter entry.1.carries ∧
        ∀ d ∈ entry.2, d.Accepted) ∧
      Effects s s' (deliveries.flatMap (·.2)) := by
  induction ruleGroups generalizing s with
  | nil =>
    cases h
    exact ⟨[], rfl, List.forall_mem_nil _, .nil _⟩
  | cons group rest ih =>
    rw [deliverPolicyGroups_cons] at h
    by_cases hret : (deliverOneGroupStep world group s).1 ≠ .SUCCESS
    · rw [if_pos hret] at h
      exact absurd (congrArg Prod.fst h) hret
    · rw [if_neg hret] at h
      obtain ⟨ds, hmodules, haccepted, heffects⟩ :=
        deliverOneGroupStep_accepted (Prod.ext (not_not.mp hret) rfl)
      obtain ⟨deliveries, hgroups, hall, hrest⟩ := ih h
      exact ⟨(group, ds) :: deliveries, congrArg (group :: ·) hgroups,
        List.forall_mem_cons.mpr ⟨⟨hmodules, haccepted⟩, hall⟩, heffects.append hrest⟩

end

/-! ### A child that was started -/

section
variable {config : StartupConfig} {socketPath : Bytes} {answers : StartupAnswers}

theorem deliverDaemonSidePolicies_success {decFd : Int} {s : PolicyState}
    (hshell : config.type = bytes "shell")
    (h : deliverDaemonSidePolicies config socketPath answers = (.SUCCESS, decFd, s)) :
    0 ≤ decFd ∧ ∃ s₁,
      deliverPolicyGroups answers.world config.addOperationControlRuleGroups {} = (.SUCCESS, s₁) ∧
      s = (addSocketProtectionPolicy answers.world decFd socketPath s₁).2 := by
  rw [deliverDaemonSidePolicies, if_neg (not_not.mpr hshell)] at h
  cases hopen : answers.openDevice with
  | none =>
    rw [hopen] at h
    cases h
  | some fd =>
    rw [hopen] at h
    dsimp only at h
    by_cases hhandshake : runDaemonHandshake config answers = .SUCCESS
    · rw [if_pos hhandshake] at h
      by_cases hgroups : (deliverPolicyGroups answers.world
          config.addOperationControlRuleGroups {}).1 ≠ .SUCCESS
      · rw [if_pos hgroups] at h
        exact absurd (congrArg Prod.fst h) hgroups
      · rw [if_neg hgroups] at h
        cases h
        exact ⟨Int.natCast_nonneg _, _, Prod.ext (not_not.mp hgroups) rfl, rfl⟩
    · rw [if_neg hhandshake, if_pos hhandshake] at h
      exact absurd (congrArg Prod.fst h) hhandshake

/-- Once the groups are delivered, the protection decides nothing. -/
theorem deliverDaemonSidePolicies_eq {decFd : Nat} {s₁ : PolicyState}
    (hshell : config.type = bytes "shell") (hopen : answers.openDevice = some decFd)
    (hhandshake : runDaemonHandshake config answers = .SUCCESS)
    (hgroups : deliverPolicyGroups answers.world config.addOperationControlRuleGroups {} =
      (.SUCCESS, s₁)) :
    deliverDaemonSidePolicies config socketPath answers =
      (SandboxError.SUCCESS, (decFd : Int),
        (addSocketProtectionPolicy answers.world decFd socketPath s₁).2) := by
  rw [deliverDaemonSidePolicies, if_neg (not_not.mpr hshell), hopen]
  dsimp only
  rw [if_pos hhandshake, hgroups]
  rfl

/-- What is connected has a path that fits into an address. -/
theorem connectMonitorSocket_ok {socketFd : Int} (hpath : socketPath ≠ [])
    (h : connectMonitorSocket socketPath answers = .ok socketFd) :
    socketPath.length < SUN_PATH_SIZE := by
  by_contra hlong
  rw [connectMonitorSocket, if_neg hpath] at h
  split at h
  · cases h
  · split at h
    · cases h
    · rw [connectToApp, if_pos (Nat.not_lt.mp hlong)] at h
      split at h
      · cases h
      · cases h

/-- What the monitor is given, and what the device was handed. -/
theorem startChild_ok {monitorConfig : MonitorConfig} {s : PolicyState}
    (hshell : config.type = bytes "shell") (hpath : socketPath ≠ [])
    (h : startChild config socketPath answers = .ok (monitorConfig, s)) :
    monitorConfig.socketPath = socketPath ∧ socketPath.length < SUN_PATH_SIZE ∧
      0 ≤ monitorConfig.deviceFd ∧ ∃ s₁,
        deliverPolicyGroups answers.world config.addOperationControlRuleGroups {} = (.SUCCESS, s₁) ∧
        s = (addSocketProtectionPolicy answers.world monitorConfig.deviceFd socketPath s₁).2 := by
  rw [startChild] at h
  obtain ⟨ret, decFd, delivered, hdeliver⟩ :
      ∃ ret decFd delivered, deliverDaemonSidePolicies config socketPath answers =
        (ret, decFd, delivered) := ⟨_, _, _, rfl⟩
  rw [hdeliver] at h
  dsimp only at h
  by_cases hret : ret = .SUCCESS
  · subst hret
    rw [if_neg (not_not.mpr rfl)] at h
    cases hconnect : connectMonitorSocket socketPath answers with
    | error ret =>
      rw [hconnect] at h
      cases h
    | ok socketFd =>
      obtain ⟨hdevice, s₁, hgroups, hprotection⟩ :=
        deliverDaemonSidePolicies_success hshell hdeliver
      rw [hconnect] at h
      dsimp only at h
      split at h
      · cases h
      · cases h
      · cases h
        exact ⟨rfl, connectMonitorSocket_ok hpath hconnect, hdevice, s₁, hgroups, hprotection⟩
  · rw [if_pos hret] at h
    cases h

end

end SandboxManager.Claw
