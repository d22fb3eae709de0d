import SandboxManager.Claw.DeliveredModule

/-! What a dynamic policy reports.

Groups and their modules are delivered one after another, each as `DeliveredModule` tells, so the
calls of the whole delivery are the modules' calls in order and no descriptor is used by two of
them. The report lists the groups that configure a module, with the outcome of each of their
modules, and the verdict is a success exactly when the device accepted all of them. -/
namespace SandboxManager.Claw
open Library

/-- The modules a dynamic policy delivers for a group, in the order of delivery. -/
def PolicyRuleGroup.configuredModules (group : PolicyRuleGroup) : List PolicyOpType :=
  DYNAMIC_DELIVERY_MODULES.filter group.carries

def ModuleDelivery.fds (d : ModuleDelivery) : List Nat := d.opened.map (·.1)

def ModuleDelivery.report (d : ModuleDelivery) : PolicyModuleResult := ⟨d.module, d.result, d.detail⟩

/-! ### What deliveries do, one after another -/

structure Effects (s s' : PolicyState) (ds : List ModuleDelivery) : Prop where
  calls : s'.calls = s.calls ++ ds.flatMap ModuleDelivery.calls
  numbers : ds.flatMap ModuleDelivery.fds =
    List.range' s.handles.length (ds.flatMap ModuleDelivery.fds).length
  handles : s'.handles.length = s.handles.length + (ds.flatMap ModuleDelivery.fds).length

namespace Effects
variable {s s' s'' : PolicyState} {ds ds' : List ModuleDelivery}

theorem nil (s : PolicyState) : Effects s s [] := ⟨(List.append_nil _).symm, rfl, rfl⟩

theorem append (h : Effects s s' ds) (h' : Effects s' s'' ds') : Effects s s'' (ds ++ ds') := by
  constructor
  · rw [h'.calls, h.calls, List.flatMap_append, List.append_assoc]
  · rw [List.flatMap_append, List.length_append, ← List.range'_append_1, ← h.numbers,
      ← h.handles, ← h'.numbers]
  · rw [h'.handles, h.handles, List.flatMap_append, List.length_append, Nat.add_assoc]

end Effects

theorem Delivers.effects {world : PolicyWorld} {protectedPath : Bytes} {group : PolicyRuleGroup}
    {s s' : PolicyState} {outcome : ModuleOutcome} {d : ModuleDelivery}
    (h : Delivers world protectedPath group s outcome s' d) : Effects s s' [d] := by
  have hlength : d.fds.length = d.opened.length := List.length_map ..
  constructor
  · rw [h.calls, List.flatMap_singleton]
  · rw [List.flatMap_singleton, hlength]
    exact h.numbers
  · rw [List.flatMap_singleton, hlength]
    exact h.handles

/-! ### One group -/

/-- What a group reports of its modules. -/
def reportOf (outcomes : List (PolicyOpType × ModuleOutcome)) : List PolicyModuleResult :=
  (outcomes.filter fun entry => entry.2.configured).map fun entry =>
    ⟨entry.1, entry.2.result, entry.2.detail⟩

theorem reportOf_cons_configured {entry : PolicyOpType × ModuleOutcome}
    (h : entry.2.configured = true) (outcomes : List (PolicyOpType × ModuleOutcome)) :
    reportOf (entry :: outcomes) = ⟨entry.1, entry.2.result, entry.2.detail⟩ :: reportOf outcomes := by
  rw [reportOf, List.filter_cons, if_pos h, List.map_cons]
  rfl

theorem reportOf_cons_other {entry : PolicyOpType × ModuleOutcome}
    (h : entry.2.configured = false) (outcomes : List (PolicyOpType × ModuleOutcome)) :
    reportOf (entry :: outcomes) = reportOf outcomes := by
  rw [reportOf, List.filter_cons, if_neg (by rw [h]; exact Bool.false_ne_true)]
  rfl

section
variable (world : PolicyWorld) (protectedPath : Bytes) (group : PolicyRuleGroup)

/-- One step of `AddOperationControlPolicies`' inner loop. -/
def deliverModule (module : PolicyOpType) (s : PolicyState) :
    (PolicyOpType × ModuleOutcome) × PolicyState :=
  let (outcome, s) :=
    deliverModuleToDevice world group (resolveGuardedInode world protectedPath) module s
  ((module, outcome), s)

theorem walk_deliverModule (modules : List PolicyOpType) (s : PolicyState) :
    ∃ ds : List ModuleDelivery,
      ds.map (·.module) = modules.filter group.carries ∧
      (∀ d ∈ ds, d.Accounted world protectedPath group) ∧
      Effects s (walk (deliverModule world protectedPath group) modules s).2 ds ∧
      reportOf (walk (deliverModule world protectedPath group) modules s).1 =
        ds.map ModuleDelivery.report := by
  induction modules generalizing s with
  | nil => exact ⟨[], rfl, nofun, .nil s, rfl⟩
  | cons module modules ih =>
    obtain ⟨ds, hmodules, haccounted, heffects, hreport⟩ :=
      ih (deliverModule world protectedPath group module s).2
    rw [walk_cons]
    cases hcarries : group.carries module
    · obtain ⟨hconfigured, hstate⟩ := deliverModuleToDevice_uncarried world
        (resolveGuardedInode world protectedPath) s hcarries
      have hnone : Effects s (deliverModule world protectedPath group module s).2 [] := by
        rw [show (deliverModule world protectedPath group module s).2 = s from hstate]
        exact .nil s
      refine ⟨ds, ?_, haccounted, hnone.append heffects, ?_⟩
      · rw [hmodules, List.filter_cons_of_neg (by rw [hcarries]; exact Bool.false_ne_true)]
      · exact (reportOf_cons_other hconfigured _).trans hreport
    · obtain ⟨d, rfl, hdelivers⟩ :=
        deliverModuleToDevice_delivers world protectedPath s hcarries
      refine ⟨d :: ds, ?_, ?_, hdelivers.effects.append heffects, ?_⟩
      · rw [List.map_cons, hmodules, List.filter_cons_of_pos hcarries]
      · exact List.forall_mem_cons.mpr ⟨hdelivers.accounted, haccounted⟩
      · refine (reportOf_cons_configured hdelivers.configured _).trans ?_
        rw [hreport, List.map_cons, ModuleDelivery.report]
        exact congrArg (· :: _) (congrArg₂ (PolicyModuleResult.mk d.module) hdelivers.result
          hdelivers.detail)

/-- A group reports each of its modules and counts those that did not land. -/
theorem deliverGroup_delivers (s : PolicyState) :
    ∃ ds : List ModuleDelivery,
      ds.map (·.module) = group.configuredModules ∧
      (∀ d ∈ ds, d.Accounted world protectedPath group) ∧
      let out := deliverGroup world (resolveGuardedInode world protectedPath) group s
      Effects s out.2 ds ∧
      out.1.result.scope = group.scope.type ∧
      out.1.result.delivered = ds.map ModuleDelivery.report ∧
      out.1.degraded = ds.countP fun d => d.result ≠ .SUCCESS := by
  obtain ⟨ds, hmodules, haccounted, heffects, hreport⟩ :=
    walk_deliverModule world protectedPath group DYNAMIC_DELIVERY_MODULES s
  refine ⟨ds, hmodules, haccounted, heffects, rfl, hreport, ?_⟩
  have hcount := congrArg (List.countP fun r : PolicyModuleResult => r.result ≠ .SUCCESS) hreport
  rw [reportOf, List.countP_map, List.countP_map] at hcount
  exact hcount

end

/-! ### All groups -/

structure DeliveryReport (world : PolicyWorld) (protectedPath : Bytes) (s : PolicyState)
    (deliveries : List (PolicyRuleGroup × List ModuleDelivery))
    (out : SandboxError × List PolicyScopeResult × PolicyState) : Prop where
  modules : ∀ entry ∈ deliveries, entry.2.map (·.module) = entry.1.configuredModules
  accounted : ∀ entry ∈ deliveries, ∀ d ∈ entry.2, d.Accounted world protectedPath entry.1
  verdict : out.1 = .SUCCESS ↔
    ∀ entry ∈ deliveries, ∀ d ∈ entry.2, ∃ sent, d.sent = some sent ∧ sent.refused = none
  otherwise : out.1 ≠ .SUCCESS → out.1 = .ERR_SET_POLICY_PARTIAL
  results : out.2.1.map (fun result => (result.scope, result.delivered)) =
    (deliveries.filter fun entry => entry.1.configuredModules ≠ []).map fun entry =>
      (entry.1.scope.type, entry.2.map ModuleDelivery.report)
  calls : out.2.2.calls = s.calls ++
    deliveries.flatMap fun entry => entry.2.flatMap ModuleDelivery.calls
  /-- No two descriptors have one number. -/
  distinct : (deliveries.flatMap fun entry => entry.2.flatMap ModuleDelivery.fds).Nodup

section
variable (world : PolicyWorld) (protectedPath : Bytes)

/-- One group's delivery. -/
structure GroupDelivered (entry : PolicyRuleGroup × List ModuleDelivery) (out : GroupOutcome) :
    Prop where
  modules : entry.2.map (·.module) = entry.1.configuredModules
  accounted : ∀ d ∈ entry.2, d.Accounted world protectedPath entry.1
  scope : out.result.scope = entry.1.scope.type
  delivered : out.result.delivered = entry.2.map ModuleDelivery.report
  degraded : out.degraded = entry.2.countP fun d => d.result ≠ .SUCCESS

theorem walk_deliverGroup (ruleGroups : List PolicyRuleGroup) (s : PolicyState) :
    let out := walk (deliverGroup world (resolveGuardedInode world protectedPath)) ruleGroups s
    ∃ deliveries : List (PolicyRuleGroup × List ModuleDelivery),
      deliveries.map (·.1) = ruleGroups ∧
      List.Forall₂ (GroupDelivered world protectedPath) deliveries out.1 ∧
      Effects s out.2 (deliveries.flatMap (·.2)) := by
  induction ruleGroups generalizing s with
  | nil => exact ⟨[], rfl, .nil, .nil s⟩
  | cons group ruleGroups ih =>
    obtain ⟨ds, hmodules, haccounted, heffects, hscope, hdelivered, hdegraded⟩ :=
      deliverGroup_delivers world protectedPath group s
    obtain ⟨deliveries, hgroups, hall, hrest⟩ :=
      ih (deliverGroup world (resolveGuardedInode world protectedPath) group s).2
    exact ⟨(group, ds) :: deliveries, congrArg (group :: ·) hgroups,
      .cons ⟨hmodules, haccounted, hscope, hdelivered, hdegraded⟩ hall, heffects.append hrest⟩

end

section
variable {world : PolicyWorld} {protectedPath : Bytes}
  {deliveries : List (PolicyRuleGroup × List ModuleDelivery)} {groups : List GroupOutcome}

namespace GroupDelivered
variable {entry : PolicyRuleGroup × List ModuleDelivery} {out : GroupOutcome}
  (h : GroupDelivered world protectedPath entry out)
include h

/-- A group is reported when it configures a module. -/
theorem reported_iff : (!out.result.delivered.isEmpty) = true ↔ entry.1.configuredModules ≠ [] := by
  rw [h.delivered, ← h.modules]
  cases entry.2 with
  | nil => exact ⟨nofun, fun hne => absurd rfl hne⟩
  | cons d ds => exact ⟨fun _ => nofun, fun _ => rfl⟩

theorem degraded_iff : 0 < out.degraded ↔ ∃ d ∈ entry.2, d.result ≠ .SUCCESS := by
  rw [h.degraded, List.countP_pos_iff]
  simp only [decide_eq_true_eq]

end GroupDelivered

theorem reported_eq (h : List.Forall₂ (GroupDelivered world protectedPath) deliveries groups) :
    ((groups.filter fun group => !group.result.delivered.isEmpty).map (·.result)).map
        (fun result => (result.scope, result.delivered)) =
      (deliveries.filter fun entry => entry.1.configuredModules ≠ []).map fun entry =>
        (entry.1.scope.type, entry.2.map ModuleDelivery.report) := by
  induction h with
  | nil => rfl
  | @cons entry group _ _ hentry _ ih =>
    have hiff := hentry.reported_iff
    by_cases hne : entry.1.configuredModules ≠ []
    · rw [List.filter_cons, if_pos (hiff.mpr hne), List.filter_cons, if_pos (decide_eq_true hne)]
      simp only [List.map_cons]
      rw [ih, hentry.scope, hentry.delivered]
    · rw [List.filter_cons, if_neg (fun h => hne (hiff.mp h)), List.filter_cons,
        if_neg (fun h => hne (of_decide_eq_true h))]
      exact ih

theorem exists_delivered (h : List.Forall₂ (GroupDelivered world protectedPath) deliveries groups)
    {entry : PolicyRuleGroup × List ModuleDelivery} (hentry : entry ∈ deliveries) :
    ∃ out, GroupDelivered world protectedPath entry out := by
  induction h with
  | nil => exact absurd hentry List.not_mem_nil
  | cons hfirst _ ih =>
    rcases List.mem_cons.mp hentry with rfl | hentry
    · exact ⟨_, hfirst⟩
    · exact ih hentry

/-- Some reported group is degraded exactly when some module did not land. -/
theorem any_degraded_iff (h : List.Forall₂ (GroupDelivered world protectedPath) deliveries groups) :
    (groups.filter fun group => !group.result.delivered.isEmpty).any (0 < ·.degraded) = true ↔
      ∃ entry ∈ deliveries, ∃ d ∈ entry.2, d.result ≠ .SUCCESS := by
  induction h with
  | nil => exact ⟨nofun, fun ⟨_, hmem, _⟩ => absurd hmem List.not_mem_nil⟩
  | @cons entry group _ _ hentry _ ih =>
    rw [List.exists_mem_cons_iff, ← ih, ← hentry.degraded_iff]
    by_cases hreported : (!group.result.delivered.isEmpty) = true
    · rw [List.filter_cons, if_pos hreported, List.any_cons, Bool.or_eq_true, decide_eq_true_eq]
    · rw [List.filter_cons, if_neg hreported]
      refine (or_iff_right fun hpos => hreported ?_).symm
      obtain ⟨d, hd, -⟩ := hentry.degraded_iff.mp hpos
      rw [hentry.reported_iff, ← hentry.modules]
      exact List.ne_nil_of_mem (List.mem_map_of_mem hd)

end

/-- **A dynamic policy accounts for every module of every group.** -/
theorem addOperationControlPolicies_accounted (world : PolicyWorld) {deviceFd : Int}
    (hdevice : 0 ≤ deviceFd) (ruleGroups : List PolicyRuleGroup) (protectedPath : Bytes)
    (s : PolicyState) :
    ∃ deliveries : List (PolicyRuleGroup × List ModuleDelivery),
      deliveries.map (·.1) = ruleGroups ∧
      DeliveryReport world protectedPath s deliveries
        (addOperationControlPolicies world deviceFd ruleGroups protectedPath s) := by
  obtain ⟨deliveries, hgroups, hall, heffects⟩ := walk_deliverGroup world protectedPath ruleGroups s
  have hany := any_degraded_iff hall
  have heach : ∀ entry ∈ deliveries, ∃ out, GroupDelivered world protectedPath entry out :=
    fun entry hentry => exists_delivered hall hentry
  have haccepted : (∀ entry ∈ deliveries, ∀ d ∈ entry.2, ∃ sent, d.sent = some sent ∧
      sent.refused = none) ↔ ¬ ∃ entry ∈ deliveries, ∃ d ∈ entry.2, d.result ≠ .SUCCESS := by
    constructor
    · rintro hall ⟨entry, hentry, d, hd, hresult⟩
      obtain ⟨out, hout⟩ := heach entry hentry
      exact hresult ((hout.accounted d hd).accepted_iff.mpr (hall entry hentry d hd))
    · intro hnone entry hentry d hd
      obtain ⟨out, hout⟩ := heach entry hentry
      refine (hout.accounted d hd).accepted_iff.mp ?_
      by_contra hresult
      exact hnone ⟨entry, hentry, d, hd, hresult⟩
  have hnumbers := heffects.numbers
  rw [List.flatMap_assoc] at hnumbers
  refine ⟨deliveries, hgroups, ?_⟩
  rw [addOperationControlPolicies, if_neg (Int.not_lt.mpr hdevice)]
  refine ⟨fun entry hentry => ?_, fun entry hentry => ?_, ?_, ?_, reported_eq hall, ?_, ?_⟩
  · obtain ⟨out, hout⟩ := heach entry hentry
    exact hout.modules
  · obtain ⟨out, hout⟩ := heach entry hentry
    exact hout.accounted
  · rw [haccepted, ← hany]
    refine ⟨fun hsuccess hdegraded => ?_, fun hnone => if_neg hnone⟩
    exact absurd ((if_pos hdegraded).symm.trans hsuccess) (by decide)
  · intro hne
    by_contra hpartial
    exact hne (if_neg fun hdegraded => hpartial (if_pos hdegraded))
  · rw [← List.flatMap_assoc]
    exact heffects.calls
  · rw [hnumbers]
    exact List.nodup_range'

/-- A hard link to the protected socket beside an ordinary file. -/
def linkedWorld : PolicyWorld where
  lstat path := if path = bytes "/sock" then some ⟨1, 7⟩ else none
  openPath path :=
    if path = bytes "/data" then .ok ⟨1, 2⟩ else if path = bytes "/link" then .ok ⟨1, 7⟩ else .error 2
  addPolicy _ := none
  strerror _ := bytes "No such file or directory"

def linkedGroups : List PolicyRuleGroup :=
  [{ hasFile := true, fileRules := { denyReadData := [bytes "/data"] }
     hasProcess := true, processRules := { denyExecCmd := [bytes "sh"] } },
    { hasFile := true, fileRules := { denyWriteData := [bytes "/link"] } }]

theorem addOperationControlPolicies_accounted_linked :
    (addOperationControlPolicies linkedWorld 3 linkedGroups (bytes "/sock") {}).1 =
        .ERR_SET_POLICY_PARTIAL ∧
      ∃ deliveries : List (PolicyRuleGroup × List ModuleDelivery),
        deliveries.map (·.1) = linkedGroups ∧
        DeliveryReport linkedWorld (bytes "/sock") {} deliveries
          (addOperationControlPolicies linkedWorld 3 linkedGroups (bytes "/sock") {}) :=
  ⟨by decide +kernel, addOperationControlPolicies_accounted linkedWorld (by decide) linkedGroups
    (bytes "/sock") {}⟩

end SandboxManager.Claw
