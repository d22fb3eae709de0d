import SandboxManager.Claw.Wire
import Mathlib.Algebra.GroupWithZero.Nat

/-! The policy as the kernel takes it (`sandbox_op_control_policy.h`, with `AppendU32LE` to
`SandboxPolicyTlv::Serialize` and `BuildAlPolicyContext`, `sandbox_op_control_parser.cpp`).

A policy holds rules, a rule the filter rules of its subjects and objects. In the payload each
is a run of tagged fields; a filter rule for a path goes out as two entities, the descriptor and
the text. -/
namespace SandboxManager.Claw

inductive PolicyAction where
  | ALLOW
  | DENY
  | ASK
  | NONE
deriving DecidableEq, Repr

inductive PolicyItemType where
  | NULL
  | PATH
  | CMD
  | FD
  | NR
deriving DecidableEq, Repr

inductive PolicyCmpType where
  | EQ
  | NE
  | PREFIX
  | SUFFIX
  | NR
deriving DecidableEq, Repr

def PolicyAction.value (action : PolicyAction) : UInt32 := UInt32.ofNat action.ctorIdx
def PolicyItemType.value (itemType : PolicyItemType) : UInt32 := UInt32.ofNat itemType.ctorIdx
def PolicyCmpType.value (cmpType : PolicyCmpType) : UInt32 := UInt32.ofNat cmpType.ctorIdx
def PolicyOpType.value (operation : PolicyOpType) : UInt32 := UInt32.ofNat operation.ctorIdx

inductive PolicyTlvTag where
  | SCOPE
  | POLICY_CNT
  | OPERATION_SIZE
  | OPERATION_TYPE
  | DEFAULT_ACTION
  | ASK_TIMEOUT_DEFAULT_ACTION
  | RULESLIST_CNT
  | RULE_ACTION
  | RULE_EVENT_TYPE
  | FILTER_RULE_SUBJECT_CNT
  | FILTER_RULE_CMP_TYPE
  | FILTER_RULE_ITEM_TYPE
  | FILTER_RULE_ITEM
  | FILTER_RULE_OBJECT_CNT
deriving DecidableEq, Repr

/-- The tags count from one. -/
def PolicyTlvTag.value (tag : PolicyTlvTag) : UInt32 := UInt32.ofNat (tag.ctorIdx + 1)

def POLICY_FILE_EVENT_OPEN_READ : UInt32 := 0x1
def POLICY_FILE_EVENT_OPEN_WRITE : UInt32 := 0x2
def POLICY_FILE_EVENT_STAT : UInt32 := 0x4
def POLICY_FILE_EVENT_CREATE : UInt32 := 0x8
def POLICY_FILE_EVENT_LINK : UInt32 := 0x10
def POLICY_FILE_EVENT_RENAME : UInt32 := 0x20
def POLICY_FILE_EVENT_MKDIR : UInt32 := 0x40
def POLICY_FILE_EVENT_UNLINK : UInt32 := 0x80
def POLICY_FILE_EVENT_RMDIR : UInt32 := 0x100

def POLICY_FILE_EVENT_READ : UInt32 := POLICY_FILE_EVENT_OPEN_READ ||| POLICY_FILE_EVENT_STAT
def POLICY_FILE_EVENT_WRITE : UInt32 :=
  POLICY_FILE_EVENT_OPEN_WRITE ||| POLICY_FILE_EVENT_CREATE ||| POLICY_FILE_EVENT_LINK |||
    POLICY_FILE_EVENT_RENAME ||| POLICY_FILE_EVENT_MKDIR
def POLICY_FILE_EVENT_DELETE : UInt32 := POLICY_FILE_EVENT_UNLINK ||| POLICY_FILE_EVENT_RMDIR

def POLICY_PROCESS_EVENT_EXEC : UInt32 := 0x1

/-- The three operations have distinct bits, so the name of one is its own. -/
def policyFileNameOfEvent (eventType : UInt32) : Bytes :=
  if eventType = POLICY_FILE_EVENT_READ then bytes "FileRead"
  else if eventType = POLICY_FILE_EVENT_WRITE then bytes "FileWrite"
  else if eventType = POLICY_FILE_EVENT_DELETE then bytes "FileDelete"
  else bytes "File"

/-! ### The model -/

structure FilterRule where
  cmpType : PolicyCmpType := .NR
  itemType : PolicyItemType := .NR
  /-- The descriptor of a path rule, `-1` while it is not open. -/
  fd : Int := -1
  path : Bytes := []
  pathSuffix : Bytes := []
  cmd : Bytes := []
deriving DecidableEq, Repr

structure PolicyRule where
  action : PolicyAction := .ALLOW
  eventType : UInt32 := 0
  subjectRules : List (List FilterRule) := []
  objectRules : List (List FilterRule) := []
deriving DecidableEq, Repr

structure OperationPolicy where
  operationType : PolicyOpType := .FILE
  defaultAction : PolicyAction := .NONE
  askTimeoutDefaultAction : PolicyAction := .DENY
  rules : List PolicyRule := []
deriving DecidableEq, Repr

structure PolicyScopeBody where
  scopeId : UInt32 := 0
  scopeUserid : UInt32 := 0
  scopeAppidentifier : UInt64 := 0
  scopeTaskid : UInt64 := 0
deriving DecidableEq, Repr

structure SandboxPolicyTlv where
  version : UInt32 := 1
  scope : PolicyScopeBody := {}
  policies : List OperationPolicy := []
deriving DecidableEq, Repr

/-! ### The payload -/

/-- `AppendU64LE`: the low word, then the high one. -/
def u64Le (value : UInt64) : Bytes := toLe32 value.toUInt32 ++ toLe32 (value >>> 32).toUInt32

def tlvBytes (tag : PolicyTlvTag) (data : Bytes) : Bytes :=
  toLe32 tag.value ++ toLe32 (UInt32.ofNat data.length) ++ data

def tlvU32 (tag : PolicyTlvTag) (value : UInt32) : Bytes :=
  toLe32 tag.value ++ toLe32 4 ++ toLe32 value

def isCmpTypeAllowed (cmpType : PolicyCmpType) (itemType : PolicyItemType) : Bool :=
  match itemType with
  | .PATH => cmpType == .EQ || cmpType == .PREFIX || cmpType == .SUFFIX
  | .CMD => cmpType == .EQ
  | .FD => cmpType == .EQ
  | _ => false

def filterRuleItem (rule : FilterRule) : Except SandboxError Bytes :=
  match rule.itemType with
  | .PATH => .ok (rule.path ++ [0])
  | .CMD => .ok (rule.cmd ++ [0])
  | .FD => .ok (toLe32 (UInt32.ofInt rule.fd))
  | _ => .error .ERR_CONFIG_INVALID

def filterRuleBlock (rule : FilterRule) : Except SandboxError Bytes :=
  if !isCmpTypeAllowed rule.cmpType rule.itemType then .error .ERR_CONFIG_INVALID
  else do
    let item ← filterRuleItem rule
    return tlvU32 .FILTER_RULE_CMP_TYPE rule.cmpType.value ++
      tlvU32 .FILTER_RULE_ITEM_TYPE rule.itemType.value ++ tlvBytes .FILTER_RULE_ITEM item

def PATH_RULE_WIRE_ENTITY_CNT : Nat := 2

def filterRuleWireEntityCnt (rule : FilterRule) : Nat :=
  if rule.itemType ≠ .PATH then 1 else PATH_RULE_WIRE_ENTITY_CNT

/-- The descriptor goes first, then the path, or the suffix of a pattern. -/
def filterRuleEntities (rule : FilterRule) : Except SandboxError Bytes :=
  if rule.itemType ≠ .PATH then filterRuleBlock rule
  else do
    let handle ← filterRuleBlock { cmpType := .EQ, itemType := .FD, fd := rule.fd }
    match rule.cmpType with
    | .EQ => return handle ++ (← filterRuleBlock rule)
    | .PREFIX => return handle ++ (← filterRuleBlock rule)
    | .SUFFIX =>
      return handle ++
        (← filterRuleBlock { cmpType := .SUFFIX, itemType := .PATH, path := rule.pathSuffix })
    | _ => throw .ERR_CONFIG_INVALID

/-- Blocks one after another, up to the first that fails. -/
def concatBlocks {α : Type} (block : α → Except SandboxError Bytes) (items : List α) :
    Except SandboxError Bytes := do
  return (← items.mapM block).flatten

def countSectionWireEntities (entities : List (List FilterRule)) : Nat :=
  (entities.map fun entity => (entity.map filterRuleWireEntityCnt).sum).sum

def ruleEntitySection (entityCntTag : PolicyTlvTag) (entities : List (List FilterRule)) :
    Except SandboxError Bytes := do
  let blocks ← concatBlocks (concatBlocks filterRuleEntities) entities
  return tlvU32 entityCntTag (UInt32.ofNat (countSectionWireEntities entities)) ++ blocks

def ruleBlock (rule : PolicyRule) : Except SandboxError Bytes := do
  let subject ← ruleEntitySection .FILTER_RULE_SUBJECT_CNT rule.subjectRules
  let object ← ruleEntitySection .FILTER_RULE_OBJECT_CNT rule.objectRules
  return tlvU32 .RULE_ACTION rule.action.value ++ tlvU32 .RULE_EVENT_TYPE rule.eventType ++
    subject ++ object

def scopeBlock (scope : PolicyScopeBody) : Bytes :=
  tlvBytes .SCOPE (toLe32 scope.scopeId ++ toLe32 scope.scopeUserid ++
    u64Le scope.scopeAppidentifier ++ u64Le scope.scopeTaskid)

def policyBlock (policy : OperationPolicy) : Except SandboxError Bytes := do
  let rules ← concatBlocks ruleBlock policy.rules
  let block := tlvU32 .OPERATION_TYPE policy.operationType.value ++
    tlvU32 .DEFAULT_ACTION policy.defaultAction.value ++
    tlvU32 .ASK_TIMEOUT_DEFAULT_ACTION policy.askTimeoutDefaultAction.value ++
    tlvU32 .RULESLIST_CNT (UInt32.ofNat policy.rules.length) ++ rules
  return tlvU32 .OPERATION_SIZE (UInt32.ofNat block.length) ++ block

namespace SandboxPolicyTlv

def serialize (tlv : SandboxPolicyTlv) : Except SandboxError Bytes := do
  let policies ← concatBlocks policyBlock tlv.policies
  return scopeBlock tlv.scope ++ tlvU32 .POLICY_CNT (UInt32.ofNat tlv.policies.length) ++ policies

end SandboxPolicyTlv

def POLICY_TLV_MAX_SIZE : Nat := 64 * 1024

/-- The argument of the call that adds a policy; `reserved` is all zeros. -/
structure SandboxPolicyArg where
  version : UInt32
  size : UInt32
  moduleId : UInt32
  data : Bytes
deriving DecidableEq, Repr

/-- The module is left for the caller to set. -/
def buildAlPolicyContext (tlv : SandboxPolicyTlv) : Except SandboxError SandboxPolicyArg := do
  let data ← tlv.serialize
  if data = [] then throw .ERR_CONFIG_INVALID
  if POLICY_TLV_MAX_SIZE < data.length then throw .ERR_CONFIG_INVALID
  return ⟨tlv.version, UInt32.ofNat data.length, 0, data⟩

end SandboxManager.Claw
