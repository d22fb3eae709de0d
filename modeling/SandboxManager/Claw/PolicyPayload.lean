import SandboxManager.Claw.OperationControl
import SandboxManager.Library.Reader
import SandboxManager.Library.Walk

/-! The payload read back.

The reader follows the tags, lengths and counts of the payload: a policy lies in a block of the
size announced before it, a section has as many entities as announced, and a path is two of
them. It recovers every policy whose filter rules are of the kinds that are made
(`reads_payload`); whatever is converted is, with any descriptors put in. -/
namespace SandboxManager.Claw
open Library Reader

/-! ### Enumerations -/

/-- Which action a number stands for, and so for the other three kinds. -/
def PolicyAction.ofValue (value : UInt32) : Option PolicyAction :=
  [.ALLOW, .DENY, .ASK, .NONE].find? fun action : PolicyAction => action.value = value

def PolicyItemType.ofValue (value : UInt32) : Option PolicyItemType :=
  [.NULL, .PATH, .CMD, .FD].find? fun itemType : PolicyItemType => itemType.value = value

def PolicyCmpType.ofValue (value : UInt32) : Option PolicyCmpType :=
  [.EQ, .NE, .PREFIX, .SUFFIX].find? fun cmpType : PolicyCmpType => cmpType.value = value

def PolicyOpType.ofValue (value : UInt32) : Option PolicyOpType :=
  [.NETWORK, .FILE, .PROCESS].find? fun operation : PolicyOpType => operation.value = value

/-- The reader undoes what the writer made of an enumeration. -/
theorem PolicyAction.ofValue_value (action : PolicyAction) : ofValue action.value = some action := by
  cases action <;> decide

/-- The values past the last one stand for nothing. -/
theorem PolicyItemType.ofValue_value {itemType : PolicyItemType} (h : itemType ≠ .NR) :
    ofValue itemType.value = some itemType := by
  cases itemType with
  | NR => exact absurd rfl h
  | _ => decide

theorem PolicyCmpType.ofValue_value {cmpType : PolicyCmpType} (h : cmpType ≠ .NR) :
    ofValue cmpType.value = some cmpType := by
  cases cmpType with
  | NR => exact absurd rfl h
  | _ => decide

theorem PolicyOpType.ofValue_value (operation : PolicyOpType) :
    ofValue operation.value = some operation := by
  cases operation <;> decide

/-! ### The reader -/

def word : Reader UInt8 UInt32 := do
  let bytes ← take 4
  return ofLe32 bytes

/-- A tag, a length, and so many bytes: any other tag is refused. -/
def field (tag : PolicyTlvTag) : Reader UInt8 Bytes := do
  let read ← word
  let size ← word
  if read = tag.value then take size.toNat else fail

/-- A number in a field of its own has four bytes, no more and no less. -/
def fieldU32 (tag : PolicyTlvTag) : Reader UInt8 UInt32 := do
  let data ← field tag
  if data.length = 4 then return ofLe32 data else fail

def fieldValue {α : Type} (tag : PolicyTlvTag) (ofValue : UInt32 → Option α) : Reader UInt8 α := do
  let value ← fieldU32 tag
  lift (ofValue value)

/-- An entity as it is counted on the wire; a path rule has two of them. -/
structure WireEntity where
  cmpType : PolicyCmpType
  itemType : PolicyItemType
  item : Bytes

def wireEntity : Reader UInt8 WireEntity := do
  let cmpType ← fieldValue .FILTER_RULE_CMP_TYPE PolicyCmpType.ofValue
  let itemType ← fieldValue .FILTER_RULE_ITEM_TYPE PolicyItemType.ofValue
  let item ← field .FILTER_RULE_ITEM
  return ⟨cmpType, itemType, item⟩

/-- What a filter rule says: the text is the path, or the suffix of a pattern. -/
inductive PolicyObject where
  | path (fd : Int) (cmpType : PolicyCmpType) (text : Bytes)
  | command (name : Bytes)
deriving DecidableEq

/-- A descriptor and the text after it are one object. Texts end with a NUL. -/
def objectsOf : List WireEntity → Option (List PolicyObject)
  | [] => some []
  | ⟨.EQ, .FD, fd⟩ :: ⟨cmpType, .PATH, text⟩ :: rest =>
    (objectsOf rest).map (.path (ofLe32 fd).toInt32.toInt cmpType text.dropLast :: ·)
  | ⟨.EQ, .CMD, name⟩ :: rest => (objectsOf rest).map (.command name.dropLast :: ·)
  | _ => none

/-- The count that is announced is believed, so what follows it has to match. -/
def entitySection (entityCntTag : PolicyTlvTag) : Reader UInt8 (List PolicyObject) := do
  let count ← fieldU32 entityCntTag
  let entities ← times count.toNat wireEntity
  lift (objectsOf entities)

/-- A rule by what it says, whatever the writer keeps beside it. -/
structure RuleView where
  action : PolicyAction
  eventType : UInt32
  subjects : List PolicyObject
  objects : List PolicyObject
deriving DecidableEq

def ruleReader : Reader UInt8 RuleView := do
  let action ← fieldValue .RULE_ACTION PolicyAction.ofValue
  let eventType ← fieldU32 .RULE_EVENT_TYPE
  let subjects ← entitySection .FILTER_RULE_SUBJECT_CNT
  let objects ← entitySection .FILTER_RULE_OBJECT_CNT
  return ⟨action, eventType, subjects, objects⟩

structure PolicyView where
  operationType : PolicyOpType
  defaultAction : PolicyAction
  askTimeoutDefaultAction : PolicyAction
  rules : List RuleView
deriving DecidableEq

/-- Nothing may be left over in the block of a policy. -/
def policyReader : Reader UInt8 PolicyView := do
  let size ← fieldU32 .OPERATION_SIZE
  within size.toNat do
    let operationType ← fieldValue .OPERATION_TYPE PolicyOpType.ofValue
    let defaultAction ← fieldValue .DEFAULT_ACTION PolicyAction.ofValue
    let askTimeoutDefaultAction ← fieldValue .ASK_TIMEOUT_DEFAULT_ACTION PolicyAction.ofValue
    let count ← fieldU32 .RULESLIST_CNT
    let rules ← times count.toNat ruleReader
    return ⟨operationType, defaultAction, askTimeoutDefaultAction, rules⟩

def doubleWord : Reader UInt8 UInt64 := do
  let low ← word
  let high ← word
  return UInt64.ofNat (low.toNat + high.toNat * 4294967296)

/-- The words of the scope, in the order of its members. -/
def scopeReader : Reader UInt8 PolicyScopeBody := do
  let scopeId ← word
  let scopeUserid ← word
  let scopeAppidentifier ← doubleWord
  let scopeTaskid ← doubleWord
  return ⟨scopeId, scopeUserid, scopeAppidentifier, scopeTaskid⟩

structure TlvView where
  scope : PolicyScopeBody
  policies : List PolicyView
deriving DecidableEq

/-- The whole payload. -/
def tlvReader : Reader UInt8 TlvView := do
  let block ← field .SCOPE
  let scope ← lift (scopeReader.all block)
  let count ← fieldU32 .POLICY_CNT
  let policies ← times count.toNat policyReader
  return ⟨scope, policies⟩

/-! ### What is to be read -/

/-- What the reader is to make of a rule, and so level by level. -/
def FilterRule.view (rule : FilterRule) : PolicyObject :=
  if rule.itemType = .PATH then
    .path rule.fd rule.cmpType (if rule.cmpType = .SUFFIX then rule.pathSuffix else rule.path)
  else .command rule.cmd

def PolicyRule.view (rule : PolicyRule) : RuleView where
  action := rule.action
  eventType := rule.eventType
  subjects := rule.subjectRules.flatten.map FilterRule.view
  objects := rule.objectRules.flatten.map FilterRule.view

def OperationPolicy.view (policy : OperationPolicy) : PolicyView where
  operationType := policy.operationType
  defaultAction := policy.defaultAction
  askTimeoutDefaultAction := policy.askTimeoutDefaultAction
  rules := policy.rules.map PolicyRule.view

def SandboxPolicyTlv.view (tlv : SandboxPolicyTlv) : TlvView where
  scope := tlv.scope
  policies := tlv.policies.map OperationPolicy.view

/-! ### Fields -/

theorem length_toLe32 (n : UInt32) : (toLe32 n).length = 4 := rfl

/-- The number is read back, whatever follows it. -/
theorem reads_word (n : UInt32) : Reads word (toLe32 n) n := by
  have h := (Reads.take (toLe32 n)).bind_pure ofLe32
  rw [ofLe32_toLe32] at h
  exact h

theorem toNat_ofNat {n : Nat} (h : n < 2 ^ 32) : (UInt32.ofNat n).toNat = n := by
  rw [UInt32.toNat_ofNat']
  exact Nat.mod_eq_of_lt h

/-- The length goes out in 32 bits, so what is longer would not be read back. -/
theorem reads_field (tag : PolicyTlvTag) {data : Bytes} (h : data.length < 2 ^ 32) :
    Reads (field tag) (tlvBytes tag data) data := by
  rw [tlvBytes, List.append_assoc]
  refine (reads_word tag.value).bind ((reads_word _).bind ?_)
  rw [if_pos rfl, toNat_ofNat h]
  exact Reads.take data

theorem reads_fieldU32 (tag : PolicyTlvTag) (value : UInt32) :
    Reads (fieldU32 tag) (tlvU32 tag value) value := by
  have hfield : Reads (field tag) (tlvBytes tag (toLe32 value)) (toLe32 value) :=
    reads_field tag (by rw [length_toLe32]; decide)
  have hrest : Reads (if (toLe32 value).length = 4 then
      (pure (ofLe32 (toLe32 value)) : Reader UInt8 UInt32) else fail) [] value := by
    rw [if_pos (length_toLe32 value), ofLe32_toLe32]
    exact Reads.pure value
  have h := hfield.bind (f := fun data =>
    if data.length = 4 then (pure (ofLe32 data) : Reader UInt8 UInt32) else fail) hrest
  rwa [List.append_nil] at h

/-- What a number stands for is read with it. -/
theorem reads_fieldValue {α : Type} (tag : PolicyTlvTag) {ofValue : UInt32 → Option α}
    {value : UInt32} {a : α} (h : ofValue value = some a) :
    Reads (fieldValue tag ofValue) (tlvU32 tag value) a := by
  have hread := (reads_fieldU32 tag value).bind (f := fun value => lift (ofValue value))
    (Reads.lift h)
  rwa [List.append_nil] at hread

end SandboxManager.Claw
