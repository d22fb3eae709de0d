import SandboxManager.Claw.OperationControl
import SandboxManager.Library.Walk

/-! Delivering policies to the device (`OpenFileFds` and `CloseFileFds`,
`sandbox_op_control_parser.cpp`, and `sandbox_policy.cpp`).

One module of one group goes through five stages: its rules are converted, their paths are
opened, what was opened is compared with the protected inode, the payload is built and the
device is called, while the descriptors are open; after that they are closed. A descriptor is
numbered by how many were opened before it and stays bound to the inode it was opened on. What
was done is recorded in the order in which it was done. -/
namespace SandboxManager.Claw
open Library

/-- The file system, which does not change, and what the device answers: to the n-th policy
either nothing or the `errno` of its refusal. -/
structure PolicyWorld where
  lstat : Bytes → Option Inode
  /-- `open` with `O_PATH | O_CLOEXEC | O_NOFOLLOW`. -/
  openPath : Bytes → Except Nat Inode
  addPolicy : Nat → Option Nat
  strerror : Nat → Bytes

inductive PolicyCall where
  | opened (fd : Nat) (path : Bytes)
  /-- `DEC_CMD_POLICY_ADD`. The kernel resolves the descriptors of the path rules during it. -/
  | added (arg : SandboxPolicyArg) (bound : List (FilterRule × Option Inode)) (refused : Option Nat)
  | closed (fd : Int)
deriving DecidableEq

structure PolicyState where
  /-- What each descriptor is bound to, `none` once it is closed. -/
  handles : List (Option Inode) := []
  /-- How many policies were handed over. -/
  policies : Nat := 0
  calls : List PolicyCall := []

namespace PolicyState
variable (s : PolicyState)

def fstat (fd : Int) : Option Inode := if fd < 0 then none else s.handles[fd.toNat]?.join

def opened (path : Bytes) (inode : Inode) : PolicyState :=
  { s with
    handles := s.handles ++ [some inode]
    calls := s.calls ++ [.opened s.handles.length path] }

def close (fd : Int) : PolicyState :=
  { s with handles := s.handles.set fd.toNat none, calls := s.calls ++ [.closed fd] }

end PolicyState

/-! ### Walking the rules -/

/-- `ForEachPathRule` leaves commands alone. -/
def onPathRule {σ : Type} (fn : FilterRule → σ → FilterRule × σ) (rule : FilterRule) (s : σ) :
    FilterRule × σ :=
  if rule.itemType = .PATH then fn rule s else (rule, s)

def forEachPathRule {σ : Type} (fn : FilterRule → σ → FilterRule × σ) :
    List (List FilterRule) → σ → List (List FilterRule) × σ :=
  walk (walk (onPathRule fn))

def PolicyRule.forEachPathRule {σ : Type} (fn : FilterRule → σ → FilterRule × σ)
    (rule : PolicyRule) (s : σ) : PolicyRule × σ :=
  let subject := Claw.forEachPathRule fn rule.subjectRules s
  let object := Claw.forEachPathRule fn rule.objectRules subject.2
  ({ rule with subjectRules := subject.1, objectRules := object.1 }, object.2)

def OperationPolicy.forEachPathRule {σ : Type} (fn : FilterRule → σ → FilterRule × σ)
    (policy : OperationPolicy) (s : σ) : OperationPolicy × σ :=
  let rules := walk (PolicyRule.forEachPathRule fn) policy.rules s
  ({ policy with rules := rules.1 }, rules.2)

namespace SandboxPolicyTlv

def forEachPathRule {σ : Type} (fn : FilterRule → σ → FilterRule × σ) (tlv : SandboxPolicyTlv)
    (s : σ) : SandboxPolicyTlv × σ :=
  let policies := walk (OperationPolicy.forEachPathRule fn) tlv.policies s
  ({ tlv with policies := policies.1 }, policies.2)

/-- All filter rules, in the order of the walk. -/
def filterRules (tlv : SandboxPolicyTlv) : List FilterRule :=
  tlv.policies.flatMap fun policy => policy.rules.flatMap fun rule =>
    rule.subjectRules.flatMap (fun entity => entity) ++
      rule.objectRules.flatMap fun entity => entity

end SandboxPolicyTlv

/-- The nested loops over a policy are one loop over its filter rules. -/
theorem walks_forEachPathRule {σ : Type} (fn : FilterRule → σ → FilterRule × σ) :
    Walks (onPathRule fn) SandboxPolicyTlv.filterRules (SandboxPolicyTlv.forEachPathRule fn) := by
  have hentities : Walks (onPathRule fn)
      (fun entities : List (List FilterRule) => entities.flatMap fun entity => entity)
      (forEachPathRule fn) := (Walks.elements (onPathRule fn)).walk
  have hrule : Walks (onPathRule fn)
      (fun rule : PolicyRule => rule.subjectRules.flatMap (fun entity => entity) ++
        rule.objectRules.flatMap fun entity => entity)
      (PolicyRule.forEachPathRule fn) := by
    constructor
    · intro rule s
      rw [walk_append, ← hentities.parts_eq, ← hentities.state_eq, ← hentities.parts_eq]
      rfl
    · intro rule s
      rw [walk_append, ← hentities.state_eq, ← hentities.state_eq]
      rfl
  have hpolicy : Walks (onPathRule fn)
      (fun policy : OperationPolicy => policy.rules.flatMap fun rule =>
        rule.subjectRules.flatMap (fun entity => entity) ++
          rule.objectRules.flatMap fun entity => entity)
      (OperationPolicy.forEachPathRule fn) :=
    ⟨fun policy s => hrule.walk.parts_eq policy.rules s,
      fun policy s => hrule.walk.state_eq policy.rules s⟩
  exact ⟨fun tlv s => hpolicy.walk.parts_eq tlv.policies s,
    fun tlv s => hpolicy.walk.state_eq tlv.policies s⟩

/-! ### Descriptors -/

def INVALID_PATH_FD : Int := -1

structure Opening where
  state : PolicyState
  errors : List PolicyError
  failed : Bool := false

def markUnopened (rule : FilterRule) (s : Unit) : FilterRule × Unit :=
  ({ rule with fd := INVALID_PATH_FD }, s)

def openOnePathRule (world : PolicyWorld) (rule : FilterRule) (opening : Opening) :
    FilterRule × Opening :=
  match world.openPath rule.path with
  | .error errno =>
    (rule, { opening with
      errors := opening.errors ++ [.openFailed rule.path (world.strerror errno)]
      failed := true })
  | .ok inode =>
    ({ rule with fd := opening.state.handles.length },
      { opening with state := opening.state.opened rule.path inode })

/-- Every rule is tried. -/
def openFileFds (world : PolicyWorld) (tlv : SandboxPolicyTlv) (errors : List PolicyError)
    (s : PolicyState) : SandboxPolicyTlv × Opening :=
  (tlv.forEachPathRule markUnopened ()).1.forEachPathRule (openOnePathRule world) ⟨s, errors, false⟩

def closeFd (rule : FilterRule) (s : PolicyState) : FilterRule × PolicyState :=
  if rule.fd ≠ INVALID_PATH_FD then ({ rule with fd := INVALID_PATH_FD }, s.close rule.fd)
  else (rule, s)

def closeFileFds (tlv : SandboxPolicyTlv) (s : PolicyState) : SandboxPolicyTlv × PolicyState :=
  tlv.forEachPathRule closeFd s

/-! ### The protected inode -/

/-- `none` is a guard that is not valid. -/
def resolveGuardedInode (world : PolicyWorld) (protectedPath : Bytes) : Option Inode :=
  if protectedPath = [] then none else world.lstat protectedPath

def operationLabel (module : PolicyOpType) (eventType : UInt32) : Bytes :=
  if module = .PROCESS then bytes "ProcessExecCmd" else policyFileNameOfEvent eventType

/-- Whether a rule was found to name the guarded inode, and the errors. -/
structure Refusal where
  found : Bool := false
  errors : List PolicyError

def refuseGuardedRule (s : PolicyState) (module : PolicyOpType) (eventType : UInt32)
    (guarded : Inode) (refusal : Refusal) (rule : FilterRule) : Refusal :=
  if rule.itemType ≠ .PATH ∨ rule.fd < 0 then refusal
  else
    match s.fstat rule.fd with
    | none => refusal
    | some st =>
      if st ≠ guarded then refusal
      else ⟨true, refusal.errors ++ [.protectedObject (operationLabel module eventType) rule.path]⟩

def refuseGuardedInEntities (s : PolicyState) (module : PolicyOpType) (eventType : UInt32)
    (guarded : Inode) (refusal : Refusal) (entities : List (List FilterRule)) : Refusal :=
  entities.foldl (fun refusal entity =>
    entity.foldl (refuseGuardedRule s module eventType guarded) refusal) refusal

def refuseGuardedInode (s : PolicyState) (tlv : SandboxPolicyTlv) (module : PolicyOpType)
    (guarded : Option Inode) (errors : List PolicyError) : Refusal :=
  match guarded with
  | none => { errors }
  | some guarded =>
    tlv.policies.foldl (fun refusal policy => policy.rules.foldl (fun refusal rule =>
      refuseGuardedInEntities s module rule.eventType guarded
        (refuseGuardedInEntities s module rule.eventType guarded refusal rule.subjectRules)
        rule.objectRules) refusal) { errors }

/-! ### One module of one group -/

structure ModuleOutcome where
  configured : Bool := false
  result : SandboxError := .SUCCESS
  detail : Bytes := []
  errors : List PolicyError := []

namespace SandboxPolicyTlv

/-- The path rules with what their descriptors are bound to. -/
def boundRules (tlv : SandboxPolicyTlv) (s : PolicyState) : List (FilterRule × Option Inode) :=
  (tlv.filterRules.filter (·.itemType = .PATH)).map fun rule => (rule, s.fstat rule.fd)

end SandboxPolicyTlv

/-- `DEC_CMD_POLICY_ADD`, with the device's answer. -/
def PolicyState.add (s : PolicyState) (world : PolicyWorld) (arg : SandboxPolicyArg)
    (tlv : SandboxPolicyTlv) : Option Nat × PolicyState :=
  let refused := world.addPolicy s.policies
  (refused, { s with
    policies := s.policies + 1
    calls := s.calls ++ [.added arg (tlv.boundRules s) refused] })

/-- The code that the source returns is the outcome's, here and in the next one. -/
def checkAndSendModule (world : PolicyWorld) (tlv : SandboxPolicyTlv) (module : PolicyOpType)
    (guarded : Option Inode) (outcome : ModuleOutcome) (s : PolicyState) :
    ModuleOutcome × PolicyState :=
  let refusal := refuseGuardedInode s tlv module guarded outcome.errors
  let outcome := { outcome with errors := refusal.errors }
  if refusal.found then
    ({ outcome with
      result := .ERR_CONFIG_INVALID
      detail := bytes "a rule names the monitor socket" }, s)
  else
    match buildAlPolicyContext tlv with
    | .error ret =>
      ({ outcome with result := ret, detail := bytes "failed to build the policy payload" }, s)
    | .ok context =>
      match s.add world { context with moduleId := module.value } tlv with
      | (some ioctlError, s) =>
        ({ outcome with
          result := .ERR_SET_POLICY_FAILED
          detail := world.strerror ioctlError }, s)
      | (none, s) => (outcome, s)

def convertModuleTlv (world : PolicyWorld) (group : PolicyRuleGroup) (module : PolicyOpType) :
    SandboxPolicyTlv × ModuleOutcome :=
  let converted := convertOperationControlToTlv world.lstat module {} [group]
  if converted.ret ≠ .SUCCESS then
    (converted.tlv,
      { configured := true, result := converted.ret
        detail := bytes "refused before delivery, see errors", errors := converted.errors })
  else
    (converted.tlv, { configured := !converted.tlv.policies.isEmpty, errors := converted.errors })

def deliverModuleToDevice (world : PolicyWorld) (group : PolicyRuleGroup) (guarded : Option Inode)
    (module : PolicyOpType) (s : PolicyState) : ModuleOutcome × PolicyState :=
  let (tlv, outcome) := convertModuleTlv world group module
  if outcome.result ≠ .SUCCESS ∨ !outcome.configured then (outcome, s)
  else
    let (tlv, opening) := openFileFds world tlv outcome.errors s
    let outcome := { outcome with errors := opening.errors }
    let (outcome, s) :=
      if opening.failed then
        ({ outcome with
          result := .ERR_PATH_INVALID
          detail := bytes "a rule path could not be opened" }, opening.state)
      else checkAndSendModule world tlv module guarded outcome opening.state
    (outcome, (closeFileFds tlv s).2)

/-! ### A dynamic policy -/

def DYNAMIC_DELIVERY_MODULES : List PolicyOpType := [.FILE, .PROCESS]
def STARTUP_DELIVERY_MODULES : List PolicyOpType := [.NETWORK, .FILE, .PROCESS]

/-- A group's result, and how many of its modules did not land. -/
structure GroupOutcome where
  result : PolicyScopeResult
  degraded : Nat

def deliverGroup (world : PolicyWorld) (guarded : Option Inode) (group : PolicyRuleGroup)
    (s : PolicyState) : GroupOutcome × PolicyState :=
  let (outcomes, s) :=
    walk (fun module s =>
      let (outcome, s) := deliverModuleToDevice world group guarded module s
      ((module, outcome), s)) DYNAMIC_DELIVERY_MODULES s
  let configured := outcomes.filter fun entry => entry.2.configured
  ({ result :=
      { scope := group.scope.type
        errors := outcomes.flatMap fun entry => entry.2.errors
        delivered := configured.map fun entry => ⟨entry.1, entry.2.result, entry.2.detail⟩ }
     degraded := configured.countP fun entry => entry.2.result ≠ .SUCCESS }, s)

/-- The verdict, the results and what was done. -/
def addOperationControlPolicies (world : PolicyWorld) (deviceFd : Int)
    (ruleGroups : List PolicyRuleGroup) (protectedPath : Bytes) (s : PolicyState) :
    SandboxError × List PolicyScopeResult × PolicyState :=
  if deviceFd < 0 then ( SandboxError.ERR_DEVICE_IO, [], s)
  else
    let guarded := resolveGuardedInode world protectedPath
    let (groups, s) := walk (deliverGroup world guarded) ruleGroups s
    let reported := groups.filter fun group => !group.result.delivered.isEmpty
    (if reported.any (0 < ·.degraded) then .ERR_SET_POLICY_PARTIAL else .SUCCESS,
      reported.map (·.result), s)

end SandboxManager.Claw
