import SandboxManager.Claw.PolicyDelivery
import SandboxManager.Claw.PolicyPayload

/-! What the reader recovers.

Each level of the payload has the word it is written as, and the reader reads exactly that word
(`reads_wire` of each). Two counting passes of the writer have to agree with what is written
after them: how many entities a section has, and how long a policy is. -/
namespace SandboxManager.Claw
open Library Reader

/-! ### Words -/

/-- The filter rules that a conversion makes. -/
def FilterRule.Convertible (rule : FilterRule) : Prop :=
  (rule.itemType = .PATH ∧ (rule.cmpType = .EQ ∨ rule.cmpType = .SUFFIX)) ∨
  (rule.itemType = .CMD ∧ rule.cmpType = .EQ)

/-- Its descriptor is an `int`. -/
def FilterRule.Numbered (rule : FilterRule) : Prop :=
  rule.itemType = .PATH → ∃ fd : Int32, rule.fd = fd.toInt

/-- The text of a path rule. -/
def FilterRule.text (rule : FilterRule) : Bytes :=
  if rule.cmpType = .SUFFIX then rule.pathSuffix else rule.path

/-- The descriptor first, and then the text that it belongs to. -/
def FilterRule.wireEntities (rule : FilterRule) : List WireEntity :=
  if rule.itemType = .PATH then
    [⟨.EQ, .FD, toLe32 (UInt32.ofInt rule.fd)⟩, ⟨rule.cmpType, .PATH, rule.text ++ [0]⟩]
  else [⟨.EQ, .CMD, rule.cmd ++ [0]⟩]

def WireEntity.wire (entity : WireEntity) : Bytes :=
  tlvU32 .FILTER_RULE_CMP_TYPE entity.cmpType.value ++
    tlvU32 .FILTER_RULE_ITEM_TYPE entity.itemType.value ++
    tlvBytes .FILTER_RULE_ITEM entity.item

def FilterRule.wire (rule : FilterRule) : Bytes := rule.wireEntities.flatMap WireEntity.wire

/-- The count and what it counts. -/
def sectionWire (entityCntTag : PolicyTlvTag) (entities : List (List FilterRule)) : Bytes :=
  tlvU32 entityCntTag (UInt32.ofNat (entities.flatten.flatMap FilterRule.wireEntities).length) ++
    (entities.flatten.flatMap FilterRule.wireEntities).flatMap WireEntity.wire

def PolicyRule.wire (rule : PolicyRule) : Bytes :=
  tlvU32 .RULE_ACTION rule.action.value ++ tlvU32 .RULE_EVENT_TYPE rule.eventType ++
    sectionWire .FILTER_RULE_SUBJECT_CNT rule.subjectRules ++
    sectionWire .FILTER_RULE_OBJECT_CNT rule.objectRules

/-- What the size before it measures. -/
def OperationPolicy.blockWire (policy : OperationPolicy) : Bytes :=
  tlvU32 .OPERATION_TYPE policy.operationType.value ++
    tlvU32 .DEFAULT_ACTION policy.defaultAction.value ++
    tlvU32 .ASK_TIMEOUT_DEFAULT_ACTION policy.askTimeoutDefaultAction.value ++
    tlvU32 .RULESLIST_CNT (UInt32.ofNat policy.rules.length) ++
    policy.rules.flatMap PolicyRule.wire

def OperationPolicy.wire (policy : OperationPolicy) : Bytes :=
  tlvU32 .OPERATION_SIZE (UInt32.ofNat policy.blockWire.length) ++ policy.blockWire

def SandboxPolicyTlv.wire (tlv : SandboxPolicyTlv) : Bytes :=
  scopeBlock tlv.scope ++ tlvU32 .POLICY_CNT (UInt32.ofNat tlv.policies.length) ++
    tlv.policies.flatMap OperationPolicy.wire

/-! ### What is written -/

/-- Where every block can be written, they are written one after the other. -/
theorem concatBlocks_ok {α : Type} {block : α → Except SandboxError Bytes} {wire : α → Bytes}
    {items : List α} (h : ∀ a ∈ items, block a = .ok (wire a)) :
    concatBlocks block items = .ok (items.flatMap wire) := by
  have hmap : items.mapM block = .ok (items.map wire) := by
    induction items with
    | nil => rfl
    | cons a items ih =>
      rw [List.mapM_cons, h a (List.mem_cons_self ..),
        ih fun b hb => h b (List.mem_cons_of_mem a hb)]
      rfl
  rw [concatBlocks, hmap, List.flatMap_def]
  rfl

/-- Of the combinations of kinds only those that a conversion makes are written. -/
theorem filterRuleEntities_eq {rule : FilterRule} (h : rule.Convertible) :
    filterRuleEntities rule = .ok rule.wire := by
  obtain ⟨cmpType, itemType, fd, path, pathSuffix, cmd⟩ := rule
  rcases h with ⟨hitem, hcmp⟩ | ⟨hitem, hcmp⟩
  · cases hitem
    rcases hcmp with hcmp | hcmp <;> cases hcmp <;>
      simp [filterRuleEntities, filterRuleBlock, isCmpTypeAllowed, filterRuleItem,
        FilterRule.wire, FilterRule.wireEntities, WireEntity.wire, FilterRule.text] <;> rfl
  · cases hitem
    cases hcmp
    simp [filterRuleEntities, filterRuleBlock, isCmpTypeAllowed, filterRuleItem,
      FilterRule.wire, FilterRule.wireEntities, WireEntity.wire]

/-- The counting pass counts what is written. -/
theorem filterRuleWireEntityCnt_eq (rule : FilterRule) :
    filterRuleWireEntityCnt rule = rule.wireEntities.length := by
  unfold filterRuleWireEntityCnt FilterRule.wireEntities
  by_cases h : rule.itemType = .PATH
  · rw [if_neg (not_not.mpr h), if_pos h]
    rfl
  · rw [if_pos h, if_neg h]
    rfl

/-- Counted rule by rule, and written in one go: both come to the same. -/
theorem countSectionWireEntities_eq (entities : List (List FilterRule)) :
    countSectionWireEntities entities =
      (entities.flatten.flatMap FilterRule.wireEntities).length := by
  have hentity : ∀ entity : List FilterRule, (entity.map filterRuleWireEntityCnt).sum =
      (entity.flatMap FilterRule.wireEntities).length := by
    intro entity
    rw [List.length_flatMap]
    exact congrArg List.sum (List.map_congr_left fun rule _ => filterRuleWireEntityCnt_eq rule)
  induction entities with
  | nil => rfl
  | cons entity entities ih =>
    rw [List.flatten_cons, List.flatMap_append, List.length_append, ← ih, ← hentity]
    rfl

/-- Entity by entity, and wire entity by wire entity. -/
theorem flatMap_wire (entities : List (List FilterRule)) :
    (entities.flatMap fun entity => entity.flatMap FilterRule.wire) =
      (entities.flatten.flatMap FilterRule.wireEntities).flatMap WireEntity.wire := by
  rw [List.flatMap_assoc]
  show _ = List.flatMap FilterRule.wire entities.flatten
  rw [List.flatten_eq_flatMap, List.flatMap_assoc]
  rfl

/-- A section announces as many entities as it has. -/
theorem ruleEntitySection_eq {entities : List (List FilterRule)} (entityCntTag : PolicyTlvTag)
    (h : ∀ rule ∈ entities.flatten, rule.Convertible) :
    ruleEntitySection entityCntTag entities = .ok (sectionWire entityCntTag entities) := by
  have hblocks : concatBlocks (concatBlocks filterRuleEntities) entities =
      .ok (entities.flatMap fun entity => entity.flatMap FilterRule.wire) := by
    refine concatBlocks_ok fun entity hentity => concatBlocks_ok fun rule hrule => ?_
    exact filterRuleEntities_eq (h rule (List.mem_flatten_of_mem hentity hrule))
  rw [ruleEntitySection, hblocks, countSectionWireEntities_eq, flatMap_wire]
  rfl

/-- Every filter rule of its subjects and objects. -/
def PolicyRule.All (p : FilterRule → Prop) (rule : PolicyRule) : Prop :=
  (∀ filter ∈ rule.subjectRules.flatten, p filter) ∧ ∀ filter ∈ rule.objectRules.flatten, p filter

def SandboxPolicyTlv.All (p : FilterRule → Prop) (tlv : SandboxPolicyTlv) : Prop :=
  ∀ policy ∈ tlv.policies, ∀ rule ∈ policy.rules, rule.All p

theorem ruleBlock_eq {rule : PolicyRule} (h : rule.All FilterRule.Convertible) :
    ruleBlock rule = .ok rule.wire := by
  rw [ruleBlock, ruleEntitySection_eq _ h.1, ruleEntitySection_eq _ h.2]
  rfl

theorem policyBlock_eq {policy : OperationPolicy}
    (h : ∀ rule ∈ policy.rules, rule.All FilterRule.Convertible) : policyBlock policy = .ok policy.wire := by
  have hrules : concatBlocks ruleBlock policy.rules = .ok (policy.rules.flatMap PolicyRule.wire) :=
    concatBlocks_ok fun rule hrule => ruleBlock_eq (h rule hrule)
  rw [policyBlock, hrules]
  rfl

/-- The serializer writes the word of the policy and does not fail. -/
theorem serialize_eq {tlv : SandboxPolicyTlv} (h : tlv.All FilterRule.Convertible) :
    tlv.serialize = .ok tlv.wire := by
  have hpolicies : concatBlocks policyBlock tlv.policies =
      .ok (tlv.policies.flatMap OperationPolicy.wire) :=
    concatBlocks_ok fun policy hpolicy => policyBlock_eq (h policy hpolicy)
  rw [SandboxPolicyTlv.serialize, hpolicies]
  rfl

/-! ### Sizes -/

theorem length_le_flatMap {α : Type} {f : α → Bytes} {a : α} {items : List α} (ha : a ∈ items) :
    (f a).length ≤ (items.flatMap f).length := by
  rw [List.flatMap_def]
  exact (List.sublist_flatten_of_mem (List.mem_map_of_mem ha)).length_le

/-- As many elements as bytes, at most. -/
theorem count_le_flatMap {α : Type} {f : α → Bytes} (hf : ∀ a, 0 < (f a).length) (items : List α) :
    items.length ≤ (items.flatMap f).length := by
  induction items with
  | nil => exact Nat.le_refl 0
  | cons a items ih =>
    have ha := hf a
    rw [List.flatMap_cons, List.length_append, List.length_cons]
    omega

theorem length_tlvU32 (tag : PolicyTlvTag) (value : UInt32) : (tlvU32 tag value).length = 12 := rfl

theorem WireEntity.length_wire (entity : WireEntity) :
    entity.wire.length = 32 + entity.item.length := by
  simp only [WireEntity.wire, tlvBytes, List.length_append, length_tlvU32, length_toLe32]
  omega

theorem length_sectionWire (entityCntTag : PolicyTlvTag) (entities : List (List FilterRule)) :
    (sectionWire entityCntTag entities).length = 12 +
      ((entities.flatten.flatMap FilterRule.wireEntities).flatMap WireEntity.wire).length := by
  rw [sectionWire, List.length_append, length_tlvU32]

theorem PolicyRule.length_wire (rule : PolicyRule) :
    rule.wire.length = 24 + (sectionWire .FILTER_RULE_SUBJECT_CNT rule.subjectRules).length +
      (sectionWire .FILTER_RULE_OBJECT_CNT rule.objectRules).length := by
  simp only [PolicyRule.wire, List.length_append, length_tlvU32]

theorem OperationPolicy.length_wire (policy : OperationPolicy) :
    policy.wire.length = 60 + (policy.rules.flatMap PolicyRule.wire).length := by
  simp only [OperationPolicy.wire, OperationPolicy.blockWire, List.length_append, length_tlvU32]
  omega

/-! ### What is read -/

theorem toBitVec_ofInt (i : Int) : (UInt32.ofInt i).toBitVec = BitVec.ofInt 32 i := by
  apply BitVec.eq_of_toNat_eq
  rw [BitVec.toNat_ofInt]
  show (UInt32.ofNat (i % 2 ^ 32).toNat).toNat = _
  rw [UInt32.toNat_ofNat']
  omega

/-- A descriptor goes out as its bits. -/
theorem toInt32_ofInt (fd : Int32) : (UInt32.ofInt fd.toInt).toInt32 = fd := by
  apply Int32.toBitVec_inj.mp
  show (UInt32.ofInt fd.toInt).toBitVec = _
  rw [toBitVec_ofInt]
  exact BitVec.ofInt_toInt

/-- What can be read back. -/
def FilterRule.Readable (rule : FilterRule) : Prop := rule.Convertible ∧ rule.Numbered

/-- The entities pair up again into the rules that they were written from. -/
theorem objectsOf_wireEntities {rules : List FilterRule} (h : ∀ rule ∈ rules, rule.Readable) :
    objectsOf (rules.flatMap FilterRule.wireEntities) = some (rules.map FilterRule.view) := by
  induction rules with
  | nil => rfl
  | cons rule rules ih =>
    have hrules := ih fun other hother => h other (List.mem_cons_of_mem rule hother)
    rw [List.flatMap_cons, List.map_cons]
    obtain ⟨⟨hitem, -⟩ | ⟨hitem, -⟩, hnumbered⟩ := h rule (List.mem_cons_self ..)
    · obtain ⟨fd, hfd⟩ := hnumbered hitem
      rw [FilterRule.wireEntities, if_pos hitem, FilterRule.view, if_pos hitem, hfd]
      show (objectsOf (rules.flatMap FilterRule.wireEntities)).map _ = _
      rw [hrules, ofLe32_toLe32, toInt32_ofInt, List.dropLast_concat]
      rfl
    · have hpath : rule.itemType ≠ .PATH := by rw [hitem]; decide
      rw [FilterRule.wireEntities, if_neg hpath, FilterRule.view, if_neg hpath]
      show (objectsOf (rules.flatMap FilterRule.wireEntities)).map _ = _
      rw [hrules, List.dropLast_concat]
      rfl

/-- The kinds of entities that are written. -/
def WireEntity.Known (entity : WireEntity) : Prop := entity.cmpType ≠ .NR ∧ entity.itemType ≠ .NR

theorem FilterRule.known {rule : FilterRule} (h : rule.Convertible) :
    ∀ entity ∈ rule.wireEntities, entity.Known := by
  intro entity hentity
  rcases h with ⟨hitem, hcmp⟩ | ⟨hitem, -⟩
  · rw [wireEntities, if_pos hitem] at hentity
    rcases List.mem_pair.mp hentity with rfl | rfl
    · exact ⟨nofun, nofun⟩
    · rcases hcmp with hcmp | hcmp <;> rw [hcmp] <;> exact ⟨nofun, nofun⟩
  · rw [wireEntities, if_neg (by rw [hitem]; decide)] at hentity
    rw [List.mem_singleton.mp hentity]
    exact ⟨nofun, nofun⟩

/-- Level by level from here on: what one level writes, its reader reads. -/
theorem WireEntity.reads_wire {entity : WireEntity} (hknown : entity.Known)
    (hlen : entity.wire.length < 2 ^ 32) : Reads wireEntity entity.wire entity := by
  rw [entity.length_wire] at hlen
  have hcmp : PolicyCmpType.ofValue entity.cmpType.value = some entity.cmpType :=
    PolicyCmpType.ofValue_value hknown.1
  have hitem : PolicyItemType.ofValue entity.itemType.value = some entity.itemType :=
    PolicyItemType.ofValue_value hknown.2
  rw [wire, List.append_assoc]
  refine (reads_fieldValue _ hcmp).bind ((reads_fieldValue _ hitem).bind ?_)
  exact (reads_field _ (by omega)).bind_pure _

/-- The count is what keeps a section and the next one apart. -/
theorem reads_sectionWire (entityCntTag : PolicyTlvTag) {entities : List (List FilterRule)}
    (h : ∀ rule ∈ entities.flatten, rule.Readable)
    (hlen : (sectionWire entityCntTag entities).length < 2 ^ 32) :
    Reads (entitySection entityCntTag) (sectionWire entityCntTag entities)
      (entities.flatten.map FilterRule.view) := by
  rw [length_sectionWire] at hlen
  have hcount := count_le_flatMap (f := WireEntity.wire)
    (fun entity => by rw [entity.length_wire]; omega)
    (entities.flatten.flatMap FilterRule.wireEntities)
  have hentity : ∀ entity ∈ entities.flatten.flatMap FilterRule.wireEntities,
      Reads wireEntity entity.wire entity := by
    intro entity hmem
    obtain ⟨rule, hrule, hin⟩ := List.mem_flatMap.mp hmem
    have hle := length_le_flatMap (f := WireEntity.wire) hmem
    exact WireEntity.reads_wire (FilterRule.known (h rule hrule).1 entity hin) (by omega)
  have hentities := Reads.times hentity
  rw [List.map_id'] at hentities
  refine (reads_fieldU32 _ _).bind ?_
  rw [toNat_ofNat (by omega)]
  have hread := hentities.bind (f := fun entities => lift (objectsOf entities))
    (Reads.lift (objectsOf_wireEntities h))
  rwa [List.append_nil] at hread

theorem PolicyRule.reads_wire {rule : PolicyRule} (h : rule.All FilterRule.Readable)
    (hlen : rule.wire.length < 2 ^ 32) : Reads ruleReader rule.wire rule.view := by
  rw [rule.length_wire] at hlen
  rw [wire, List.append_assoc, List.append_assoc]
  refine (reads_fieldValue _ rule.action.ofValue_value).bind ((reads_fieldU32 _ _).bind ?_)
  refine (reads_sectionWire _ h.1 (by omega)).bind ?_
  exact (reads_sectionWire _ h.2 (by omega)).bind_pure _

/-- The size is right, or the reader of the block would be left with a rest. -/
theorem OperationPolicy.reads_wire {policy : OperationPolicy}
    (h : ∀ rule ∈ policy.rules, rule.All FilterRule.Readable) (hlen : policy.wire.length < 2 ^ 32) :
    Reads policyReader policy.wire policy.view := by
  have hblock : policy.blockWire.length < 2 ^ 32 := by
    rw [wire, List.length_append] at hlen
    omega
  rw [policy.length_wire] at hlen
  have hcount := count_le_flatMap (f := PolicyRule.wire)
    (fun rule => by rw [rule.length_wire]; omega) policy.rules
  have hrules : Reads (times policy.rules.length ruleReader) (policy.rules.flatMap PolicyRule.wire)
      (policy.rules.map PolicyRule.view) := by
    refine Reads.times fun rule hrule => PolicyRule.reads_wire (h rule hrule) ?_
    have hle := length_le_flatMap (f := PolicyRule.wire) hrule
    omega
  rw [wire]
  refine (reads_fieldU32 _ _).bind ?_
  rw [toNat_ofNat hblock]
  refine Reads.within ?_
  simp only [blockWire, List.append_assoc]
  refine (reads_fieldValue _ policy.operationType.ofValue_value).bind ?_
  refine (reads_fieldValue _ policy.defaultAction.ofValue_value).bind ?_
  refine (reads_fieldValue _ policy.askTimeoutDefaultAction.ofValue_value).bind ?_
  refine (reads_fieldU32 _ _).bind ?_
  rw [toNat_ofNat (by omega)]
  exact hrules.bind_pure _

theorem doubleWord_eq (value : UInt64) :
    UInt64.ofNat (value.toUInt32.toNat + (value >>> 32).toUInt32.toNat * 4294967296) = value := by
  have hhigh : (value >>> 32).toNat = value.toNat / 4294967296 := by
    rw [UInt64.toNat_shiftRight, Nat.shiftRight_eq_div_pow]
    rfl
  have hlt : value.toNat < 4294967296 * 4294967296 := value.toNat_lt
  apply UInt64.toNat_inj.mp
  rw [UInt64.toNat_ofNat', UInt64.toNat_toUInt32, UInt64.toNat_toUInt32, hhigh]
  omega

theorem reads_doubleWord (value : UInt64) : Reads doubleWord (u64Le value) value := by
  refine (reads_word value.toUInt32).bind ?_
  have h := (reads_word (value >>> 32).toUInt32).bind_pure
    fun high => UInt64.ofNat (value.toUInt32.toNat + high.toNat * 4294967296)
  rwa [doubleWord_eq] at h

theorem reads_scope (scope : PolicyScopeBody) :
    Reads scopeReader (toLe32 scope.scopeId ++ toLe32 scope.scopeUserid ++
      u64Le scope.scopeAppidentifier ++ u64Le scope.scopeTaskid) scope := by
  simp only [List.append_assoc]
  refine (reads_word _).bind ((reads_word _).bind ((reads_doubleWord _).bind ?_))
  exact (reads_doubleWord _).bind_pure _

/-- **The payload reads back as what it was built from.** -/
theorem SandboxPolicyTlv.reads_wire {tlv : SandboxPolicyTlv} (h : tlv.All FilterRule.Readable)
    (hlen : tlv.wire.length < 2 ^ 32) : Reads tlvReader tlv.wire tlv.view := by
  rw [wire, List.length_append] at hlen
  have hcount := count_le_flatMap (f := OperationPolicy.wire)
    (fun policy => by rw [policy.length_wire]; omega) tlv.policies
  have hpolicies : Reads (times tlv.policies.length policyReader)
      (tlv.policies.flatMap OperationPolicy.wire) (tlv.policies.map OperationPolicy.view) := by
    refine Reads.times fun policy hpolicy => OperationPolicy.reads_wire (h policy hpolicy) ?_
    have hle := length_le_flatMap (f := OperationPolicy.wire) hpolicy
    omega
  rw [wire, List.append_assoc]
  have hscope : (toLe32 tlv.scope.scopeId ++ toLe32 tlv.scope.scopeUserid ++
      u64Le tlv.scope.scopeAppidentifier ++ u64Le tlv.scope.scopeTaskid).length = 24 := rfl
  refine (reads_field _ (by omega)).bind (Reads.lift_bind (reads_scope tlv.scope).all ?_)
  refine (reads_fieldU32 _ _).bind ?_
  rw [toNat_ofNat (by omega)]
  exact hpolicies.bind_pure _

/-! ### What is converted -/

def Conversion.Convertible (c : Conversion) : Prop :=
  ∀ rule ∈ c.policy.rules, rule.All FilterRule.Convertible

/-- A file rule names a path, as a whole or by its suffix. -/
theorem buildFileRuleObject_convertible {path : Bytes} {eventType : UInt32} {rule : FilterRule}
    (h : buildFileRuleObject path eventType = .ok rule) : rule.Convertible := by
  unfold buildFileRuleObject at h
  split at h
  · cases h
    exact .inl ⟨rfl, .inl rfl⟩
  · split at h
    · cases h
    · cases h
      exact .inl ⟨rfl, .inr rfl⟩

theorem PolicyRule.all_single {p : FilterRule → Prop} {action : PolicyAction} {eventType : UInt32}
    {filter : FilterRule} (h : p filter) :
    PolicyRule.All p { action, eventType, objectRules := [[filter]] } := by
  refine ⟨nofun, fun other hother => ?_⟩
  rw [List.mem_singleton.mp hother]
  exact h

namespace Conversion
variable {c : Conversion}

theorem Convertible.of_nil (c : Conversion) (h : c.policy.rules = []) : c.Convertible :=
  fun _ hrule => absurd (h ▸ hrule) List.not_mem_nil

theorem Convertible.append (hc : c.Convertible) {rules : List PolicyRule}
    (h : ∀ rule ∈ rules, rule.All FilterRule.Convertible) :
    Convertible { c with policy.rules := c.policy.rules ++ rules } := by
  intro rule hrule
  rcases List.mem_append.mp hrule with hrule | hrule
  · exact hc rule hrule
  · exact h rule hrule

theorem Convertible.fileRule (hc : c.Convertible) (action : PolicyAction) (eventType : UInt32)
    (path : Bytes) : (convertFileRule action eventType c path).Convertible := by
  unfold convertFileRule
  cases hbuilt : buildFileRuleObject path eventType with
  | error error => exact hc
  | ok rule =>
    refine hc.append fun other hother => ?_
    rw [List.mem_singleton.mp hother]
    exact PolicyRule.all_single (buildFileRuleObject_convertible hbuilt)

theorem Convertible.fileRules (hc : c.Convertible) (paths : List Bytes) (action : PolicyAction)
    (eventType : UInt32) : (convertFileRulesToTlv paths action eventType c).Convertible :=
  List.foldlRecOn paths _ hc fun _ hb path _ => hb.fileRule action eventType path

theorem Convertible.andThen (hc : c.Convertible) {step : Conversion → Conversion}
    (h : (step c).Convertible) : (c.andThen step).Convertible := by
  unfold Conversion.andThen
  split
  · exact hc
  · exact h

theorem Convertible.fileOperation (hc : c.Convertible) (lstat : Bytes → Option Inode)
    (operation : FileOperation) : (convertFileOperationToTlv lstat c operation).Convertible :=
  List.foldlRecOn operation.actionSets.actionArrays _ hc
    fun _ hb entry _ => hb.andThen (hb.fileRules entry.1 entry.2 operation.eventType)

theorem Convertible.execRules (hc : c.Convertible) (cmds : List Bytes) (action : PolicyAction) :
    (convertProcessExecRulesToTlv cmds action c).Convertible := by
  refine hc.append fun rule hrule => ?_
  obtain ⟨cmd, -, rfl⟩ := List.mem_map.mp hrule
  exact PolicyRule.all_single (.inr ⟨rfl, rfl⟩)

end Conversion

/-- Whatever a group configures, its rules are of the kinds that are written. -/
theorem convertRuleGroup_convertible {lstat : Bytes → Option Inode} {module : PolicyOpType}
    {group : PolicyRuleGroup} {c : Conversion} (h : convertRuleGroup lstat module group = some c) :
    c.Convertible := by
  cases module with
  | NETWORK =>
    obtain ⟨-, h⟩ := Option.ite_none_right_eq_some.mp h
    cases h
    exact .of_nil _ rfl
  | FILE =>
    obtain ⟨-, h⟩ := Option.ite_none_right_eq_some.mp h
    cases h
    exact List.foldlRecOn group.fileRules.operations _ (Conversion.Convertible.of_nil _ rfl)
      fun _ hb operation _ => hb.andThen (hb.fileOperation lstat operation)
  | PROCESS =>
    obtain ⟨-, h⟩ := Option.ite_none_right_eq_some.mp h
    cases h
    have hheader := Conversion.Convertible.of_nil (Conversion.checkConflicts lstat
      (processActionSets group) ⟨⟨.PROCESS, group.processRules.defaultAction, .DENY, []⟩, [], [],
        .SUCCESS⟩) rfl
    exact hheader.andThen (List.foldlRecOn (processActionSets group).actionArrays _ hheader
      fun _ hb entry _ => hb.execRules entry.1 entry.2)

theorem convertOperationControlToTlv_convertible (lstat : Bytes → Option Inode)
    (module : PolicyOpType) {converted : ConvertedTlv} (ruleGroups : List PolicyRuleGroup)
    (h : converted.tlv.All FilterRule.Convertible) :
    (convertOperationControlToTlv lstat module converted ruleGroups).tlv.All
      FilterRule.Convertible := by
  induction ruleGroups generalizing converted with
  | nil => exact h
  | cons group ruleGroups ih =>
    rw [convertOperationControlToTlv]
    cases hgroup : convertRuleGroup lstat module group with
    | none => exact ih h
    | some c =>
      show SandboxPolicyTlv.All _ (ConvertedTlv.tlv (if _ then _ else _))
      split
      · exact h
      · refine ih fun policy hpolicy => ?_
        rcases List.mem_append.mp hpolicy with hpolicy | hpolicy
        · exact h policy hpolicy
        · rw [List.mem_singleton.mp hpolicy]
          exact convertRuleGroup_convertible hgroup

/-! ### With descriptors -/

def SandboxPolicyTlv.withDescriptors (tlv : SandboxPolicyTlv) (descriptors : Nat → Int32) :
    SandboxPolicyTlv :=
  (tlv.forEachPathRule (fun rule n => ({ rule with fd := (descriptors n).toInt }, n + 1)) 0).1

theorem SandboxPolicyTlv.all_iff (p : FilterRule → Prop) (tlv : SandboxPolicyTlv) :
    tlv.All p ↔ ∀ rule ∈ tlv.filterRules, p rule := by
  simp only [All, filterRules, PolicyRule.All, List.mem_flatMap, List.mem_append, List.mem_flatten]
  constructor
  · rintro h rule ⟨policy, hpolicy, owner, howner, hrule | hrule⟩
    · exact (h policy hpolicy owner howner).1 rule hrule
    · exact (h policy hpolicy owner howner).2 rule hrule
  · intro h policy hpolicy owner howner
    exact ⟨fun rule hrule => h rule ⟨policy, hpolicy, owner, howner, .inl hrule⟩,
      fun rule hrule => h rule ⟨policy, hpolicy, owner, howner, .inr hrule⟩⟩

theorem SandboxPolicyTlv.All.imp {p q : FilterRule → Prop} {tlv : SandboxPolicyTlv} (h : tlv.All p)
    (hpq : ∀ rule, p rule → q rule) : tlv.All q := by
  rw [all_iff] at h ⊢
  exact fun rule hrule => hpq rule (h rule hrule)

/-- What holds of every rule after a walk. -/
theorem SandboxPolicyTlv.All.forEachPathRule {σ : Type} {p q : FilterRule → Prop}
    {fn : FilterRule → σ → FilterRule × σ} {tlv : SandboxPolicyTlv} (h : tlv.All p)
    (hfn : ∀ rule s, p rule → q (onPathRule fn rule s).1) (s : σ) :
    (tlv.forEachPathRule fn s).1.All q := by
  rw [all_iff] at h ⊢
  rw [(walks_forEachPathRule fn).parts_eq]
  intro rule hrule
  obtain ⟨before, hbefore, n, rfl⟩ := mem_walk hrule
  exact hfn before n (h before hbefore)

/-- Descriptors are put in after the conversion and leave the kinds as they are. -/
theorem SandboxPolicyTlv.All.withDescriptors {tlv : SandboxPolicyTlv}
    (h : tlv.All FilterRule.Convertible) (descriptors : Nat → Int32) :
    (tlv.withDescriptors descriptors).All FilterRule.Readable := by
  refine h.forEachPathRule (fun rule n hrule => ?_) 0
  unfold onPathRule
  split
  · exact ⟨hrule, fun _ => ⟨descriptors n, rfl⟩⟩
  · exact ⟨hrule, fun hitem => absurd hitem ‹_›⟩

/-- **A converted policy is written, and the reader recovers it to the last byte.** -/
theorem serialize_recovered (lstat : Bytes → Option Inode) (module : PolicyOpType)
    (ruleGroups : List PolicyRuleGroup) (version : UInt32) (scope : PolicyScopeBody)
    (descriptors : Nat → Int32) :
    let tlv := (convertOperationControlToTlv lstat module { tlv := { version, scope } }
      ruleGroups).tlv.withDescriptors descriptors
    ∃ data, tlv.serialize = .ok data ∧
      (data.length < 2 ^ 32 → tlvReader.all data = some tlv.view) := by
  intro tlv
  have hconverted : (convertOperationControlToTlv lstat module { tlv := { version, scope } }
      ruleGroups).tlv.All FilterRule.Convertible :=
    convertOperationControlToTlv_convertible lstat module ruleGroups nofun
  have htlv : tlv.All FilterRule.Readable := hconverted.withDescriptors descriptors
  have hwritten : tlv.All FilterRule.Convertible := htlv.imp fun _ hrule => hrule.1
  exact ⟨tlv.wire, serialize_eq hwritten, fun hlen => (SandboxPolicyTlv.reads_wire htlv hlen).all⟩

end SandboxManager.Claw
