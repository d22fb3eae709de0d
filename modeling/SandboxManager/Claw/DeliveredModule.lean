import SandboxManager.Claw.PayloadReads
import SandboxManager.Claw.RuleDescriptors

/-! What delivering one module does.

Whichever stage stops it, what a module leaves behind has one shape: its descriptors are opened,
the device is called at most once, and the same descriptors are closed (`ModuleDelivery.calls`).
The device is called exactly when conversion, opening, the guard and the payload let it, and the
outcome is a success exactly when the device was called and accepted (`Accounted`). -/
namespace SandboxManager.Claw
open Library

/-- One call of the device. -/
structure Sent where
  arg : SandboxPolicyArg
  /-- The path rules and what their descriptors are bound to. -/
  bound : List (FilterRule × Option Inode)
  refused : Option Nat

structure ModuleDelivery where
  module : PolicyOpType
  result : SandboxError
  detail : Bytes
  opened : List (Nat × Bytes) := []
  sent : Option Sent := none

def Sent.call (sent : Sent) : PolicyCall := .added sent.arg sent.bound sent.refused

/-- What one module does: open, call the device, close. -/
def ModuleDelivery.calls (d : ModuleDelivery) : List PolicyCall :=
  d.opened.map (fun o => .opened o.1 o.2) ++ d.sent.toList.map Sent.call ++
    d.opened.map fun o => .closed o.1

/-! ### Stages -/

/-- A group's rules of one module, converted. -/
def PolicyRuleGroup.converted (world : PolicyWorld) (group : PolicyRuleGroup)
    (module : PolicyOpType) : ConvertedTlv :=
  convertOperationControlToTlv world.lstat module {} [group]

/-- Every path opens. -/
def SandboxPolicyTlv.Opens (world : PolicyWorld) (tlv : SandboxPolicyTlv) : Prop :=
  ∀ rule ∈ tlv.filterRules, rule.itemType = .PATH → (world.openPath rule.path).isOk

/-- Some path opens on the inode that the protected path names. -/
def SandboxPolicyTlv.NamesProtected (world : PolicyWorld) (protectedPath : Bytes)
    (tlv : SandboxPolicyTlv) : Prop :=
  ∃ rule ∈ tlv.filterRules, rule.itemType = .PATH ∧ ∃ inode,
    world.openPath rule.path = .ok inode ∧ resolveGuardedInode world protectedPath = some inode

/-- No stage before the device refuses. -/
structure PolicyRuleGroup.Reaches (world : PolicyWorld) (protectedPath : Bytes)
    (group : PolicyRuleGroup) (module : PolicyOpType) : Prop where
  converts : (group.converted world module).ret = .SUCCESS
  opens : (group.converted world module).tlv.Opens world
  unguarded : ¬ (group.converted world module).tlv.NamesProtected world protectedPath
  built : (buildAlPolicyContext (group.converted world module).tlv).isOk

structure ModuleDelivery.Accounted (world : PolicyWorld) (protectedPath : Bytes)
    (group : PolicyRuleGroup) (d : ModuleDelivery) : Prop where
  accepted_iff : d.result = .SUCCESS ↔ ∃ sent, d.sent = some sent ∧ sent.refused = none
  sent_iff : d.sent.isSome ↔ group.Reaches world protectedPath d.module
  /-- What is handed over is the module's, bound to what its paths name and not to the guarded
  inode. -/
  handed : ∀ sent, d.sent = some sent → sent.arg.moduleId = d.module.value ∧
    ∀ entry ∈ sent.bound, ∃ inode, entry.2 = some inode ∧
      world.openPath entry.1.path = .ok inode ∧
      resolveGuardedInode world protectedPath ≠ some inode

/-! ### The size of a payload -/

theorem length_flatMap_walk {α σ : Type} {f : α → σ → α × σ} {wire : α → Bytes}
    (h : ∀ a s, (wire (f a s).1).length = (wire a).length) (as : List α) (s : σ) :
    ((walk f as s).1.flatMap wire).length = (as.flatMap wire).length := by
  rw [List.length_flatMap, List.length_flatMap,
    map_walk (g := fun a => (wire a).length) (k := fun a => (wire a).length) h]

section
variable {σ : Type} {fn : FilterRule → σ → FilterRule × σ}
  (h : ∀ rule s, (fn rule s).1.wire.length = rule.wire.length)
include h

theorem length_sectionWire_walk (entityCntTag : PolicyTlvTag) (entities : List (List FilterRule))
    (s : σ) : (sectionWire entityCntTag (forEachPathRule fn entities s).1).length =
      (sectionWire entityCntTag entities).length := by
  have hrule : ∀ rule s, (onPathRule fn rule s).1.wire.length = rule.wire.length := by
    intro rule s
    unfold onPathRule
    split
    · exact h rule s
    · rfl
  rw [length_sectionWire, length_sectionWire, ← flatMap_wire, ← flatMap_wire]
  exact congrArg (12 + ·) (length_flatMap_walk (length_flatMap_walk hrule) entities s)

theorem PolicyRule.length_wire_walk (rule : PolicyRule) (s : σ) :
    (rule.forEachPathRule fn s).1.wire.length = rule.wire.length := by
  rw [length_wire, length_wire]
  show 24 + (sectionWire _ (Claw.forEachPathRule fn rule.subjectRules s).1).length +
    (sectionWire _ (Claw.forEachPathRule fn rule.objectRules _).1).length = _
  rw [length_sectionWire_walk h, length_sectionWire_walk h]

theorem OperationPolicy.length_wire_walk (policy : OperationPolicy) (s : σ) :
    (policy.forEachPathRule fn s).1.wire.length = policy.wire.length := by
  rw [length_wire, length_wire]
  exact congrArg (60 + ·) (length_flatMap_walk (PolicyRule.length_wire_walk h) policy.rules s)

/-- How long a payload is does not depend on the descriptors. -/
theorem SandboxPolicyTlv.length_wire_walk (tlv : SandboxPolicyTlv) (s : σ) :
    (tlv.forEachPathRule fn s).1.wire.length = tlv.wire.length := by
  rw [wire, wire, List.length_append, List.length_append, List.length_append, List.length_append,
    length_tlvU32, length_tlvU32]
  exact congrArg (_ + ·) (length_flatMap_walk (OperationPolicy.length_wire_walk h) tlv.policies s)

end

theorem buildAlPolicyContext_eq {tlv : SandboxPolicyTlv} (h : tlv.All FilterRule.Convertible) :
    buildAlPolicyContext tlv = if POLICY_TLV_MAX_SIZE < tlv.wire.length then
      .error .ERR_CONFIG_INVALID
    else .ok ⟨tlv.version, UInt32.ofNat tlv.wire.length, 0, tlv.wire⟩ := by
  have hwire : tlv.wire ≠ [] := by
    rw [SandboxPolicyTlv.wire, scopeBlock, tlvBytes]
    exact List.cons_ne_nil _ _
  rw [buildAlPolicyContext, serialize_eq h]
  refine (pure_bind tlv.wire _).trans ?_
  rw [if_neg hwire]
  by_cases hlong : POLICY_TLV_MAX_SIZE < tlv.wire.length
  · rw [if_pos hlong, if_pos hlong]
    rfl
  · rw [if_neg hlong, if_neg hlong]
    rfl

theorem built_iff {tlv : SandboxPolicyTlv} (h : tlv.All FilterRule.Convertible) :
    (buildAlPolicyContext tlv).isOk ↔ tlv.wire.length ≤ POLICY_TLV_MAX_SIZE := by
  rw [buildAlPolicyContext_eq h]
  by_cases hlong : POLICY_TLV_MAX_SIZE < tlv.wire.length
  · rw [if_pos hlong]
    exact ⟨nofun, fun hle => absurd hlong (Nat.not_lt.mpr hle)⟩
  · rw [if_neg hlong]
    exact ⟨fun _ => Nat.not_lt.mp hlong, fun _ => rfl⟩

theorem FilterRule.length_wire_fd (rule : FilterRule) (fd : Int) :
    ({ rule with fd } : FilterRule).wire.length = rule.wire.length := by
  unfold wire wireEntities
  split
  · simp only [List.flatMap_cons, List.length_append, WireEntity.length_wire, length_toLe32]
    rfl
  · rfl

/-! ### Opened policies -/

section
variable (world : PolicyWorld) {tlv : SandboxPolicyTlv} (errors : List PolicyError)
  (s : PolicyState)

theorem FilterRule.Convertible.opened {rule : FilterRule} (h : rule.Convertible)
    (opening : Opening) : (onPathRule (openOnePathRule world) rule opening).1.Convertible := by
  unfold onPathRule openOnePathRule
  split
  · split <;> exact h
  · exact h

theorem openFileFds_convertible (h : tlv.All FilterRule.Convertible) :
    (openFileFds world tlv errors s).1.All FilterRule.Convertible := by
  have hmarked : (tlv.forEachPathRule markUnopened ()).1.All FilterRule.Convertible := by
    refine h.forEachPathRule (fun rule s hrule => ?_) ()
    unfold onPathRule
    split <;> exact hrule
  exact hmarked.forEachPathRule (fun rule opening hrule => hrule.opened world opening) _

theorem length_wire_openFileFds (tlv : SandboxPolicyTlv) :
    (openFileFds world tlv errors s).1.wire.length = tlv.wire.length := by
  have hopen : ∀ (rule : FilterRule) (opening : Opening),
      (openOnePathRule world rule opening).1.wire.length = rule.wire.length := by
    intro rule opening
    unfold openOnePathRule
    split
    · rfl
    · exact rule.length_wire_fd _
  exact (SandboxPolicyTlv.length_wire_walk hopen _ _).trans
    (SandboxPolicyTlv.length_wire_walk (fun rule _ => rule.length_wire_fd _) tlv ())

/-- Opening changes no rule's kind or path. -/
theorem paths_openFileFds (tlv : SandboxPolicyTlv) :
    (openFileFds world tlv errors s).1.filterRules.map (fun rule => (rule.itemType, rule.path)) =
      tlv.filterRules.map fun rule => (rule.itemType, rule.path) := by
  have hopen : ∀ (rule : FilterRule) (opening : Opening),
      ((onPathRule (openOnePathRule world) rule opening).1.itemType,
        (onPathRule (openOnePathRule world) rule opening).1.path) = (rule.itemType, rule.path) := by
    intro rule opening
    unfold onPathRule openOnePathRule
    split
    · split <;> rfl
    · rfl
  have hmark : ∀ (rule : FilterRule) (u : Unit), ((onPathRule markUnopened rule u).1.itemType,
      (onPathRule markUnopened rule u).1.path) = (rule.itemType, rule.path) := by
    intro rule u
    unfold onPathRule
    split <;> rfl
  rw [openFileFds, (walks_forEachPathRule _).parts_eq, map_walk hopen,
    (walks_forEachPathRule _).parts_eq, map_walk hmark]

/-- The guard is about what the paths name. -/
theorem names_openFileFds_iff (tlv : SandboxPolicyTlv) (guarded : Inode) :
    (∃ rule ∈ (openFileFds world tlv errors s).1.filterRules,
        rule.Names (openFileFds world tlv errors s).2.state guarded) ↔
      ∃ rule ∈ tlv.filterRules, rule.itemType = .PATH ∧ world.openPath rule.path = .ok guarded := by
  have hpaths := paths_openFileFds world errors s tlv
  have htried := (openFileFds_opened world tlv errors s).tried
  constructor
  · rintro ⟨rule, hrule, hitem, hfd, hstat⟩
    have hmem := List.mem_map_of_mem (f := fun rule : FilterRule => (rule.itemType, rule.path)) hrule
    rw [hpaths] at hmem
    obtain ⟨origin, horigin, heq⟩ := List.mem_map.mp hmem
    obtain ⟨hitem', hpath⟩ := Prod.mk.inj heq
    refine ⟨origin, horigin, hitem'.trans hitem, ?_⟩
    rcases htried rule hrule hitem with ⟨hunopened, -⟩ | ⟨-, inode, hopen, hbound⟩
    · rw [hunopened] at hfd
      exact absurd hfd (by decide)
    · rw [hpath, hopen, Option.some.inj (hbound.symm.trans hstat)]
  · rintro ⟨origin, horigin, hitem, hopen⟩
    have hmem :=
      List.mem_map_of_mem (f := fun rule : FilterRule => (rule.itemType, rule.path)) horigin
    rw [← hpaths] at hmem
    obtain ⟨rule, hrule, heq⟩ := List.mem_map.mp hmem
    obtain ⟨hitem', hpath⟩ := Prod.mk.inj heq
    have hitem' : rule.itemType = .PATH := hitem'.trans hitem
    rcases htried rule hrule hitem' with ⟨-, hfails⟩ | ⟨hfd, inode, hinode, hbound⟩
    · rw [hpath, hopen] at hfails
      cases hfails
    · rw [hpath, hopen] at hinode
      cases hinode
      exact ⟨rule, hrule, hitem', hfd, hbound⟩

end

theorem opens_iff (world : PolicyWorld) (tlv : SandboxPolicyTlv) :
    tlv.Opens world ↔ tlv.filterRules.any (·.fails world) = false := by
  simp only [SandboxPolicyTlv.Opens, List.any_eq_false, FilterRule.fails, Bool.and_eq_true,
    Bool.not_eq_true', decide_eq_true_eq, not_and, Bool.not_eq_false]

/-! ### The device -/

/-- What checking and sending an open policy does, with the call made if there is one. -/
structure Checked (tlv : SandboxPolicyTlv) (module : PolicyOpType) (guarded : Option Inode)
    (before : ModuleOutcome) (s : PolicyState) (sent : Option Sent)
    (after : ModuleOutcome × PolicyState) : Prop where
  configured : after.1.configured = before.configured
  calls : after.2.calls = s.calls ++ sent.toList.map Sent.call
  handles : after.2.handles = s.handles
  accepted_iff : after.1.result = .SUCCESS ↔ ∃ call, sent = some call ∧ call.refused = none
  sent_iff : sent.isSome ↔
    ¬ (∃ inode, guarded = some inode ∧ ∃ rule ∈ tlv.filterRules, rule.Names s inode) ∧
      tlv.wire.length ≤ POLICY_TLV_MAX_SIZE
  handed : ∀ call, sent = some call → call.arg.moduleId = module.value ∧ call.bound = tlv.boundRules s

theorem refuseGuardedInode_found_iff (s : PolicyState) (tlv : SandboxPolicyTlv)
    (module : PolicyOpType) (guarded : Option Inode) (errors : List PolicyError) :
    (refuseGuardedInode s tlv module guarded errors).found = true ↔
      ∃ inode, guarded = some inode ∧ ∃ rule ∈ tlv.filterRules, rule.Names s inode := by
  cases guarded with
  | none => exact ⟨nofun, nofun⟩
  | some inode =>
    rw [refuseGuardedInode_found]
    exact ⟨fun h => ⟨inode, rfl, h⟩, fun ⟨_, heq, h⟩ => Option.some.inj heq ▸ h⟩

theorem checkAndSendModule_checked (world : PolicyWorld) {tlv : SandboxPolicyTlv}
    (module : PolicyOpType) (guarded : Option Inode) (outcome : ModuleOutcome) (s : PolicyState)
    (hconvertible : tlv.All FilterRule.Convertible) (hresult : outcome.result = .SUCCESS) :
    ∃ sent, Checked tlv module guarded outcome s sent
      (checkAndSendModule world tlv module guarded outcome s) := by
  have hfound := refuseGuardedInode_found_iff s tlv module guarded outcome.errors
  rw [checkAndSendModule, buildAlPolicyContext_eq hconvertible]
  by_cases hguard : (refuseGuardedInode s tlv module guarded outcome.errors).found = true
  · rw [if_pos hguard]
    exact ⟨none, rfl, (List.append_nil _).symm, rfl, ⟨nofun, nofun⟩,
      ⟨nofun, fun h => absurd (hfound.mp hguard) h.1⟩, nofun⟩
  · rw [if_neg hguard]
    by_cases hlong : POLICY_TLV_MAX_SIZE < tlv.wire.length
    · rw [if_pos hlong]
      exact ⟨none, rfl, (List.append_nil _).symm, rfl, ⟨nofun, nofun⟩,
        ⟨nofun, fun h => absurd h.2 (Nat.not_le.mpr hlong)⟩, nofun⟩
    · rw [if_neg hlong]
      have hsends := And.intro (fun h => hguard (hfound.mpr h)) (Nat.not_lt.mp hlong)
      refine ⟨some ⟨⟨tlv.version, UInt32.ofNat tlv.wire.length, module.value, tlv.wire⟩,
        tlv.boundRules s, world.addPolicy s.policies⟩, ?_⟩
      simp only [PolicyState.add]
      cases hrefused : world.addPolicy s.policies with
      | some ioctlError =>
        exact ⟨rfl, rfl, rfl, ⟨nofun, fun ⟨_, heq, h⟩ => by cases heq; cases h⟩,
          ⟨fun _ => hsends, fun _ => rfl⟩, fun call heq => by cases heq; exact ⟨rfl, rfl⟩⟩
      | none =>
        exact ⟨rfl, rfl, rfl, ⟨fun _ => ⟨_, rfl, rfl⟩, fun _ => hresult⟩,
          ⟨fun _ => hsends, fun _ => rfl⟩, fun call heq => by cases heq; exact ⟨rfl, rfl⟩⟩

/-! ### The whole module -/

/-- What delivering a module the group carries does. -/
structure Delivers (world : PolicyWorld) (protectedPath : Bytes) (group : PolicyRuleGroup)
    (s : PolicyState) (outcome : ModuleOutcome) (s' : PolicyState) (d : ModuleDelivery) :
    Prop where
  configured : outcome.configured = true
  result : outcome.result = d.result
  detail : outcome.detail = d.detail
  accounted : d.Accounted world protectedPath group
  calls : s'.calls = s.calls ++ d.calls
  numbers : d.opened.map (·.1) = List.range' s.handles.length d.opened.length
  handles : s'.handles.length = s.handles.length + d.opened.length

section
variable (world : PolicyWorld) {group : PolicyRuleGroup} {module : PolicyOpType}

/-- A module the group does not carry is passed over. -/
theorem deliverModuleToDevice_uncarried (guarded : Option Inode) (s : PolicyState)
    (h : group.carries module = false) :
    (deliverModuleToDevice world group guarded module s).1.configured = false ∧
      (deliverModuleToDevice world group guarded module s).2 = s := by
  have hnone : convertRuleGroup world.lstat module group = none := by
    rw [← Option.not_isSome_iff_eq_none, convertRuleGroup_isSome, h]
    exact Bool.false_ne_true
  have hmodule : convertModuleTlv world group module =
      ({}, { configured := false, errors := [] }) := by
    rw [convertModuleTlv, convertOperationControlToTlv, hnone]
    rfl
  rw [deliverModuleToDevice, hmodule]
  exact ⟨rfl, rfl⟩

/-- What the conversion of a carried module comes to. -/
theorem convertModuleTlv_carried (h : group.carries module = true) :
    (convertModuleTlv world group module).2.configured = true ∧
      (convertModuleTlv world group module).1 = (group.converted world module).tlv ∧
      (convertModuleTlv world group module).2.result = (group.converted world module).ret := by
  obtain ⟨c, hc⟩ := Option.isSome_iff_exists.mp
    ((convertRuleGroup_isSome world.lstat module group).trans h)
  rw [convertModuleTlv, PolicyRuleGroup.converted, convertOperationControlToTlv, hc]
  by_cases hret : c.ret = .SUCCESS
  · simp [hret, convertOperationControlToTlv]
  · simp [hret]

theorem converted_convertible (group : PolicyRuleGroup) (module : PolicyOpType) :
    (group.converted world module).tlv.All FilterRule.Convertible :=
  convertOperationControlToTlv_convertible world.lstat module [group] nofun

/-- Closing after opening closes what was opened. -/
theorem closeFileFds_opened (tlv : SandboxPolicyTlv) (errors : List PolicyError)
    (s s' : PolicyState) :
    (closeFileFds (openFileFds world tlv errors s).1 s').2.calls =
        s'.calls ++ (descriptorsOf (openFileFds world tlv errors s).1.filterRules).map
          (fun d => .closed d.1) ∧
      (closeFileFds (openFileFds world tlv errors s).1 s').2.handles.length =
        s'.handles.length := by
  have htried := (openFileFds_opened world tlv errors s).tried
  rw [closeFileFds, (walks_forEachPathRule closeFd).state_eq]
  obtain ⟨hcalls, hhandles, -⟩ := closed_walk _ s' fun rule hrule hitem =>
    (htried rule hrule hitem).imp (·.1) (·.1)
  exact ⟨hcalls, hhandles⟩

/-- Every path rule of a policy that opened is bound to what its path names. -/
theorem bound_openFileFds (tlv : SandboxPolicyTlv) (errors : List PolicyError) (s : PolicyState)
    (hopens : tlv.Opens world) {entry : FilterRule × Option Inode}
    (hentry : entry ∈ (openFileFds world tlv errors s).1.boundRules
      (openFileFds world tlv errors s).2.state) :
    ∃ inode, entry.2 = some inode ∧ world.openPath entry.1.path = .ok inode ∧
      ∃ rule ∈ (openFileFds world tlv errors s).1.filterRules,
        rule.Names (openFileFds world tlv errors s).2.state inode := by
  obtain ⟨rule, hrule, rfl⟩ := List.mem_map.mp hentry
  obtain ⟨hrule, hitem⟩ := List.mem_filter.mp hrule
  have hitem : rule.itemType = .PATH := of_decide_eq_true hitem
  rcases (openFileFds_opened world tlv errors s).tried rule hrule hitem with
    ⟨-, hfails⟩ | ⟨hfd, inode, hopen, hbound⟩
  · have hmem :=
      List.mem_map_of_mem (f := fun rule : FilterRule => (rule.itemType, rule.path)) hrule
    rw [paths_openFileFds] at hmem
    obtain ⟨origin, horigin, heq⟩ := List.mem_map.mp hmem
    obtain ⟨hitem', hpath⟩ := Prod.mk.inj heq
    have hok := hopens origin horigin (hitem'.trans hitem)
    rw [hpath, hfails] at hok
    cases hok
  · exact ⟨inode, hbound, hopen, rule, hrule, hitem, hfd, hbound⟩

/-- A module that came as far as opening: whatever was sent in between, the shape is the same. -/
theorem Delivers.of_opened {protectedPath : Bytes} {tlv : SandboxPolicyTlv}
    (errors : List PolicyError) {s s' : PolicyState} {outcome : ModuleOutcome} (sent : Option Sent)
    (hconfigured : outcome.configured = true)
    (hcalls : s'.calls = (openFileFds world tlv errors s).2.state.calls ++
      sent.toList.map Sent.call)
    (hhandles : s'.handles = (openFileFds world tlv errors s).2.state.handles)
    (haccounted : ModuleDelivery.Accounted world protectedPath group ⟨module, outcome.result,
      outcome.detail, descriptorsOf (openFileFds world tlv errors s).1.filterRules, sent⟩) :
    Delivers world protectedPath group s outcome
      (closeFileFds (openFileFds world tlv errors s).1 s').2 ⟨module, outcome.result,
        outcome.detail, descriptorsOf (openFileFds world tlv errors s).1.filterRules, sent⟩ := by
  have hopened := openFileFds_opened world tlv errors s
  obtain ⟨inodes, hinodes, hcount⟩ := hopened.handles
  obtain ⟨hclosed, hlength⟩ := closeFileFds_opened world tlv errors s s'
  refine ⟨hconfigured, rfl, rfl, haccounted, ?_, hopened.numbers, ?_⟩
  · rw [hclosed, hcalls, hopened.calls, ModuleDelivery.calls]
    simp only [List.append_assoc]
  · rw [hlength, hhandles, hinodes, List.length_append, hcount]

/-- **A carried module is delivered or refused, and everything it opened is closed.** -/
theorem deliverModuleToDevice_delivers (protectedPath : Bytes) (s : PolicyState)
    (h : group.carries module = true) :
    ∃ d : ModuleDelivery, d.module = module ∧
      let out := deliverModuleToDevice world group (resolveGuardedInode world protectedPath) module s
      Delivers world protectedPath group s out.1 out.2 d := by
  obtain ⟨hconfigured, htlv, hresult⟩ := convertModuleTlv_carried world h
  have hconvertible := converted_convertible world group module
  have hopens := opens_iff world (group.converted world module).tlv
  rw [deliverModuleToDevice]
  generalize hconverted : convertModuleTlv world group module = converted at *
  obtain ⟨tlv, outcome⟩ := converted
  dsimp only at htlv hconfigured hresult ⊢
  subst htlv
  by_cases hret : outcome.result = .SUCCESS
  · have hgo : ¬ (outcome.result ≠ .SUCCESS ∨ (!outcome.configured) = true) := by
      rw [hret, hconfigured]
      simp
    rw [if_neg hgo]
    rw [← openFileFds_failed world _ outcome.errors s] at hopens
    have hbound := bound_openFileFds world (group.converted world module).tlv outcome.errors s
    have hnames := names_openFileFds_iff world outcome.errors s (group.converted world module).tlv
    have hlength := length_wire_openFileFds world outcome.errors s (group.converted world module).tlv
    have hopened := openFileFds_convertible world outcome.errors s hconvertible
    cases hfailed : (openFileFds world (group.converted world module).tlv outcome.errors s).2.failed
    · simp only [Bool.false_eq_true, if_false]
      obtain ⟨sent, hchecked⟩ := checkAndSendModule_checked world module
        (resolveGuardedInode world protectedPath) { outcome with
          errors := (openFileFds world (group.converted world module).tlv outcome.errors s).2.errors }
        (openFileFds world (group.converted world module).tlv outcome.errors s).2.state hopened hret
      refine ⟨_, rfl, Delivers.of_opened world outcome.errors sent
        (hchecked.configured.trans hconfigured) hchecked.calls hchecked.handles ⟨?_, ?_, ?_⟩⟩
      · exact hchecked.accepted_iff
      · refine hchecked.sent_iff.trans ⟨fun hsent => ?_, fun hreach => ⟨?_, ?_⟩⟩
        · refine ⟨hresult.symm.trans hret, hopens.mpr hfailed, ?_, ?_⟩
          · exact fun ⟨rule, hrule, hitem, inode, hopen, hguarded⟩ =>
              hsent.1 ⟨inode, hguarded, (hnames inode).mpr ⟨rule, hrule, hitem, hopen⟩⟩
          · rw [built_iff hconvertible, ← hlength]
            exact hsent.2
        · rintro ⟨inode, hguarded, hnamed⟩
          obtain ⟨rule, hrule, hitem, hopen⟩ := (hnames inode).mp hnamed
          exact hreach.unguarded ⟨rule, hrule, hitem, inode, hopen, hguarded⟩
        · rw [hlength, ← built_iff hconvertible]
          exact hreach.built
      · intro call hcall
        obtain ⟨hmodule, hrules⟩ := hchecked.handed call hcall
        refine ⟨hmodule, fun entry hentry => ?_⟩
        rw [hrules] at hentry
        obtain ⟨inode, hinode, hopen, hnamed⟩ := hbound (hopens.mpr hfailed) hentry
        have hsent := hchecked.sent_iff.mp (Option.isSome_iff_exists.mpr ⟨call, hcall⟩)
        exact ⟨inode, hinode, hopen, fun hguarded => hsent.1 ⟨inode, hguarded, hnamed⟩⟩
    · refine ⟨_, rfl, Delivers.of_opened world outcome.errors none hconfigured
        (List.append_nil _).symm rfl ⟨⟨nofun, nofun⟩, ⟨nofun, fun hreach => ?_⟩, nofun⟩⟩
      exact Bool.noConfusion (hfailed.symm.trans (hopens.mp hreach.opens))
  · rw [if_pos (.inl hret)]
    refine ⟨⟨module, outcome.result, outcome.detail, [], none⟩, rfl, hconfigured, rfl, rfl,
      ⟨⟨fun hok => absurd hok hret, nofun⟩, ⟨nofun, fun hreach => ?_⟩, nofun⟩,
      (List.append_nil _).symm, rfl, rfl⟩
    exact absurd (hresult.trans hreach.converts) hret

end

end SandboxManager.Claw
