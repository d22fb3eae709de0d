import SandboxManager.Claw.FilePattern
import SandboxManager.Claw.PolicyTlv

/-! From rule groups to policies (`BuildFileRuleObject` to `ConvertOperationControlToTlv`,
`sandbox_op_control_parser.cpp`).

A group that carries a module becomes one policy of that module. Two actions for one object of
one operation are refused; objects are told apart as the kernel does, paths by the inode they
name. Errors are collected as the conversion goes on; a step that fails ends it. -/
namespace SandboxManager.Claw
open Library

structure Inode where
  dev : UInt64
  ino : UInt64
deriving DecidableEq, Repr

structure PolicyScope where
  type : PolicyScopeType := .SELF_SESSION
deriving DecidableEq, Repr

structure PolicyNetworkConfig where
  defaultAction : PolicyAction := .NONE
deriving DecidableEq, Repr

structure PolicyFileConfig where
  defaultAction : PolicyAction := .NONE
  denyReadData : List Bytes := []
  allowReadData : List Bytes := []
  askReadData : List Bytes := []
  denyWriteData : List Bytes := []
  allowWriteData : List Bytes := []
  askWriteData : List Bytes := []
  denyDelete : List Bytes := []
  allowDelete : List Bytes := []
  askDelete : List Bytes := []
deriving DecidableEq, Repr

structure PolicyProcessConfig where
  defaultAction : PolicyAction := .NONE
  denyExecCmd : List Bytes := []
  allowExecCmd : List Bytes := []
  askExecCmd : List Bytes := []
deriving DecidableEq, Repr

structure PolicyRuleGroup where
  scope : PolicyScope := {}
  hasNetwork : Bool := false
  networkRules : PolicyNetworkConfig := {}
  hasFile : Bool := false
  fileRules : PolicyFileConfig := {}
  hasProcess : Bool := false
  processRules : PolicyProcessConfig := {}
deriving DecidableEq, Repr

def PolicyRuleGroup.carries (group : PolicyRuleGroup) : PolicyOpType → Bool
  | .NETWORK => group.hasNetwork
  | .FILE => group.hasFile
  | .PROCESS => group.hasProcess

/-! ### Errors -/

namespace PolicyError

def actionConflict (operation object firstAction secondAction : Bytes) : PolicyError where
  reason := bytes "action_conflict"
  operation := operation
  object := object
  detail := []
  actions := [firstAction, secondAction]

def openFailed (object detail : Bytes) : PolicyError where
  reason := bytes "open_failed"
  operation := []
  object := object
  detail := detail
  actions := []

def invalidPattern (operation object detail : Bytes) : PolicyError where
  reason := bytes "invalid_pattern"
  operation := operation
  object := object
  detail := detail
  actions := []

def protectedObject (operation object : Bytes) : PolicyError where
  reason := bytes "protected_object"
  operation := operation
  object := object
  detail := bytes "the monitor socket is protected by the sandbox"
  actions := []

end PolicyError

def actionToString : PolicyAction → Bytes
  | .ALLOW => bytes "ALLOW"
  | .DENY => bytes "DENY"
  | .ASK => bytes "ASK"
  | .NONE => bytes "NONE"

/-! ### Conflicting actions -/

/-- The bound inode and the suffix tell one path rule from another; an illegal pattern has no
identity. -/
def objectIdentity (lstat : Bytes → Option Inode) (object : Bytes) (itemType : PolicyItemType) :
    Option Bytes :=
  if itemType ≠ .PATH then some (bytes "cmd:" ++ object)
  else do
    let pattern ←
      if isWildcardPattern object then (parseFilePattern object).toOption else some ⟨object, []⟩
    let identitySuffix := bytes "\nsuffix:" ++ pattern.suffix
    match lstat pattern.pfx with
    | none => return bytes "path:" ++ pattern.pfx ++ identitySuffix
    | some st =>
      return bytes "inode:" ++ bytes (toString st.dev) ++ bytes ":" ++ bytes (toString st.ino) ++
        identitySuffix

/-- One operation's objects by action. -/
structure OperationActionSets where
  opLabel : Bytes
  itemType : PolicyItemType
  deny : List Bytes
  allow : List Bytes
  ask : List Bytes

def OperationActionSets.actionArrays (op : OperationActionSets) :
    List (List Bytes × PolicyAction) :=
  [(op.deny, .DENY), (op.allow, .ALLOW), (op.ask, .ASK)]

/-- The action first recorded for each key. -/
abbrev ObjectActions := List (Bytes × PolicyAction)

structure ConflictCheck where
  objectAction : ObjectActions
  errors : List PolicyError
  conflicted : Bool := false

def checkObject (lstat : Bytes → Option Inode) (op : OperationActionSets) (action : PolicyAction)
    (check : ConflictCheck) (object : Bytes) : ConflictCheck :=
  match objectIdentity lstat object op.itemType with
  | none => check
  | some identity =>
    let key := op.opLabel ++ bytes ":" ++ identity
    match check.objectAction.lookup key with
    | none => { check with objectAction := (key, action) :: check.objectAction }
    | some first =>
      if first ≠ action then
        { check with
          errors := check.errors ++ [.actionConflict op.opLabel object (actionToString first)
            (actionToString action)]
          conflicted := true }
      else check

def validateOperationActionConflict (lstat : Bytes → Option Inode) (op : OperationActionSets)
    (objectAction : ObjectActions) (errors : List PolicyError) : ConflictCheck :=
  op.actionArrays.foldl
    (fun check entry => entry.1.foldl (checkObject lstat op entry.2) check)
    { objectAction, errors }

/-! ### Rules -/

/-- Where the conversion of one group is. -/
structure Conversion where
  policy : OperationPolicy
  objectAction : ObjectActions := []
  errors : List PolicyError := []
  ret : SandboxError := .SUCCESS

namespace Conversion

/-- A step that failed ends the conversion. -/
def andThen (c : Conversion) (step : Conversion → Conversion) : Conversion :=
  if c.ret ≠ .SUCCESS then c else step c

/-- `ValidateOperationActionConflict`, as a step. -/
def checkConflicts (lstat : Bytes → Option Inode) (op : OperationActionSets) (c : Conversion) :
    Conversion :=
  let check := validateOperationActionConflict lstat op c.objectAction c.errors
  { c with
    objectAction := check.objectAction
    errors := check.errors
    ret := if check.conflicted then .ERR_CONFIG_INVALID else .SUCCESS }

end Conversion

def buildFileRuleObject (path : Bytes) (eventType : UInt32) : Except PolicyError FilterRule :=
  if !isWildcardPattern path then .ok { cmpType := .EQ, itemType := .PATH, path }
  else
    match parseFilePattern path with
    | .error why => .error (.invalidPattern (policyFileNameOfEvent eventType) path why)
    | .ok pattern =>
      .ok { cmpType := .SUFFIX, itemType := .PATH, path := pattern.pfx, pathSuffix := pattern.suffix }

def convertFileRule (action : PolicyAction) (eventType : UInt32) (c : Conversion) (path : Bytes) :
    Conversion :=
  match buildFileRuleObject path eventType with
  | .error error => { c with errors := c.errors ++ [error], ret := .ERR_CONFIG_INVALID }
  | .ok objectRule =>
    { c with policy.rules := c.policy.rules ++ [{ action, eventType, objectRules := [[objectRule]] }] }

/-- Every path of the array is tried. -/
def convertFileRulesToTlv (paths : List Bytes) (action : PolicyAction) (eventType : UInt32)
    (c : Conversion) : Conversion :=
  paths.foldl (convertFileRule action eventType) c

def convertProcessExecRulesToTlv (cmds : List Bytes) (action : PolicyAction) (c : Conversion) :
    Conversion :=
  { c with policy.rules := c.policy.rules ++ cmds.map fun cmd =>
      { action, eventType := POLICY_PROCESS_EVENT_EXEC
        objectRules := [[{ cmpType := .EQ, itemType := .CMD, cmd }]] } }

structure FileOperation where
  eventType : UInt32
  deny : List Bytes
  allow : List Bytes
  ask : List Bytes

def FileOperation.actionSets (operation : FileOperation) : OperationActionSets where
  opLabel := policyFileNameOfEvent operation.eventType
  itemType := .PATH
  deny := operation.deny
  allow := operation.allow
  ask := operation.ask

def convertFileOperationToTlv (lstat : Bytes → Option Inode) (c : Conversion)
    (operation : FileOperation) : Conversion :=
  operation.actionSets.actionArrays.foldl
    (fun c entry => c.andThen (convertFileRulesToTlv entry.1 entry.2 operation.eventType))
    (c.checkConflicts lstat operation.actionSets)

def PolicyFileConfig.operations (fileRules : PolicyFileConfig) : List FileOperation :=
  [⟨POLICY_FILE_EVENT_READ, fileRules.denyReadData, fileRules.allowReadData,
      fileRules.askReadData⟩,
    ⟨POLICY_FILE_EVENT_WRITE, fileRules.denyWriteData, fileRules.allowWriteData,
      fileRules.askWriteData⟩,
    ⟨POLICY_FILE_EVENT_DELETE, fileRules.denyDelete, fileRules.allowDelete, fileRules.askDelete⟩]

def convertNetworkRuleGroupToTlv (group : PolicyRuleGroup) : Conversion where
  policy := { operationType := .NETWORK, defaultAction := group.networkRules.defaultAction }

def convertFileRuleGroupToTlv (lstat : Bytes → Option Inode) (group : PolicyRuleGroup) :
    Conversion :=
  group.fileRules.operations.foldl
    (fun c operation => c.andThen fun c => convertFileOperationToTlv lstat c operation)
    { policy := { operationType := .FILE, defaultAction := group.fileRules.defaultAction } }

def processActionSets (group : PolicyRuleGroup) : OperationActionSets where
  opLabel := bytes "ProcessExecCmd"
  itemType := .CMD
  deny := group.processRules.denyExecCmd
  allow := group.processRules.allowExecCmd
  ask := group.processRules.askExecCmd

def convertProcessRuleGroupToTlv (lstat : Bytes → Option Inode) (group : PolicyRuleGroup) :
    Conversion :=
  let header : Conversion :=
    { policy := { operationType := .PROCESS, defaultAction := group.processRules.defaultAction } }
  (header.checkConflicts lstat (processActionSets group)).andThen fun c =>
    (processActionSets group).actionArrays.foldl
      (fun c entry => convertProcessExecRulesToTlv entry.1 entry.2 c) c

/-- One group, if it carries the module. -/
def convertRuleGroup (lstat : Bytes → Option Inode) (module : PolicyOpType)
    (group : PolicyRuleGroup) : Option Conversion :=
  match module with
  | .NETWORK => if group.hasNetwork then some (convertNetworkRuleGroupToTlv group) else none
  | .FILE => if group.hasFile then some (convertFileRuleGroupToTlv lstat group) else none
  | .PROCESS => if group.hasProcess then some (convertProcessRuleGroupToTlv lstat group) else none

theorem convertRuleGroup_isSome (lstat : Bytes → Option Inode) (module : PolicyOpType)
    (group : PolicyRuleGroup) :
    (convertRuleGroup lstat module group).isSome = group.carries module := by
  cases module <;> unfold convertRuleGroup PolicyRuleGroup.carries <;> dsimp only <;> split <;>
    simp_all

/-- The payload so far, the errors, and the code. -/
structure ConvertedTlv where
  tlv : SandboxPolicyTlv := {}
  errors : List PolicyError := []
  ret : SandboxError := .SUCCESS

/-- Groups are converted in order up to the first that fails. -/
def convertOperationControlToTlv (lstat : Bytes → Option Inode) (module : PolicyOpType)
    (converted : ConvertedTlv) : List PolicyRuleGroup → ConvertedTlv
  | [] => converted
  | group :: ruleGroups =>
    match convertRuleGroup lstat module group with
    | none => convertOperationControlToTlv lstat module converted ruleGroups
    | some c =>
      let errors := converted.errors ++ c.errors
      if c.ret ≠ .SUCCESS then { converted with errors, ret := c.ret }
      else
        convertOperationControlToTlv lstat module
          { converted with
            tlv.policies := converted.tlv.policies ++ [c.policy]
            errors }
          ruleGroups

end SandboxManager.Claw
