import SandboxManager.Claw.PolicyDelivery

/-! The descriptors of a policy's path rules.

Opening numbers the rules whose paths open one after another and binds each number to the inode
found (`Opened`). Closing goes through the same rules and closes exactly those numbers. In
between they stay bound, so the guard compares inodes, not spellings. -/
namespace SandboxManager.Claw
open Library

def FilterRule.descriptor (rule : FilterRule) : Option (Nat × Bytes) :=
  if rule.itemType = .PATH ∧ rule.fd ≠ INVALID_PATH_FD then some (rule.fd.toNat, rule.path)
  else none

/-- The descriptors that rules hold, with the paths they were opened for. -/
def descriptorsOf (rules : List FilterRule) : List (Nat × Bytes) :=
  rules.filterMap FilterRule.descriptor

/-- A path rule without a descriptor. -/
def FilterRule.Unopened (rule : FilterRule) : Prop :=
  rule.itemType = .PATH → rule.fd = INVALID_PATH_FD

def FilterRule.fails (world : PolicyWorld) (rule : FilterRule) : Bool :=
  rule.itemType = .PATH && !(world.openPath rule.path).isOk

theorem descriptorsOf_cons (rule : FilterRule) (rules : List FilterRule) :
    descriptorsOf (rule :: rules) = rule.descriptor.toList ++ descriptorsOf rules := by
  unfold descriptorsOf
  cases h : rule.descriptor with
  | none => rw [List.filterMap_cons_none h]; rfl
  | some d => rw [List.filterMap_cons_some h]; rfl

theorem FilterRule.descriptor_unopened {rule : FilterRule} (h : rule.Unopened) :
    rule.descriptor = none :=
  if_neg fun hboth => hboth.2 (h hboth.1)

/-! ### Opening -/

theorem PolicyState.fstat_append {s s' : PolicyState} {fd : Int} {inode : Inode}
    {handles : List (Option Inode)} (h : s.fstat fd = some inode)
    (hhandles : s'.handles = s.handles ++ handles) : s'.fstat fd = some inode := by
  unfold fstat at h ⊢
  by_cases hfd : fd < 0
  · rw [if_pos hfd] at h
    cases h
  · rw [if_neg hfd] at h ⊢
    have hlt : fd.toNat < s.handles.length := by
      by_contra hge
      rw [List.getElem?_eq_none (Nat.le_of_not_lt hge)] at h
      cases h
    rw [hhandles, List.getElem?_append_left hlt, h]

theorem PolicyState.fstat_opened (s : PolicyState) (path : Bytes) (inode : Inode) :
    (s.opened path inode).fstat s.handles.length = some inode := by
  have hnonneg : ¬ ((s.handles.length : Int) < 0) := by omega
  rw [fstat, if_neg hnonneg, Int.toNat_natCast, opened, List.getElem?_concat_length]
  rfl

/-- A path rule once opening has tried it. -/
def FilterRule.Tried (world : PolicyWorld) (s : PolicyState) (rule : FilterRule) : Prop :=
  rule.itemType = .PATH →
    (rule.fd = INVALID_PATH_FD ∧ (world.openPath rule.path).isOk = false) ∨
    (0 ≤ rule.fd ∧ ∃ inode, world.openPath rule.path = .ok inode ∧ s.fstat rule.fd = some inode)

/-- What opening makes of rules that are not open. -/
structure Opened (world : PolicyWorld) (rules : List FilterRule) (before : Opening)
    (out : List FilterRule) (after : Opening) : Prop where
  calls : after.state.calls =
    before.state.calls ++ (descriptorsOf out).map fun d => .opened d.1 d.2
  handles : ∃ inodes, after.state.handles = before.state.handles ++ inodes ∧
    inodes.length = (descriptorsOf out).length
  numbers : (descriptorsOf out).map (·.1) =
    List.range' before.state.handles.length (descriptorsOf out).length
  policies : after.state.policies = before.state.policies
  failed : after.failed = (before.failed || rules.any (·.fails world))
  tried : ∀ rule ∈ out, rule.Tried world after.state

namespace Opened
variable {world : PolicyWorld} {rule rule' : FilterRule} {rules out : List FilterRule}
  {before mid after : Opening}

/-- A rule that gets no descriptor in front. -/
theorem skip (h : Opened world rules mid out after) (hnone : rule'.descriptor = none)
    (htried : rule'.Tried world after.state) (hstate : mid.state = before.state)
    (hfailed : mid.failed = (before.failed || rule.fails world)) :
    Opened world (rule :: rules) before (rule' :: out) after := by
  have hdescriptors : descriptorsOf (rule' :: out) = descriptorsOf out := by
    rw [descriptorsOf_cons, hnone]
    rfl
  constructor
  · rw [h.calls, hdescriptors, hstate]
  · rw [hdescriptors, ← hstate]
    exact h.handles
  · rw [hdescriptors, h.numbers, hstate]
  · rw [h.policies, hstate]
  · rw [h.failed, hfailed, List.any_cons, Bool.or_assoc]
  · exact List.forall_mem_cons.mpr ⟨htried, h.tried⟩

/-- A rule that is opened in front takes the next number. -/
theorem take {path : Bytes} {inode : Inode} (h : Opened world rules mid out after)
    (hsome : rule'.descriptor = some (before.state.handles.length, path))
    (htried : rule'.Tried world after.state) (hstate : mid.state = before.state.opened path inode)
    (hfailed : mid.failed = before.failed) (hrule : rule.fails world = false) :
    Opened world (rule :: rules) before (rule' :: out) after := by
  have hdescriptors : descriptorsOf (rule' :: out) =
      (before.state.handles.length, path) :: descriptorsOf out := by
    rw [descriptorsOf_cons, hsome]
    rfl
  have hlength : mid.state.handles.length = before.state.handles.length + 1 := by
    rw [hstate, PolicyState.opened, List.length_append, List.length_singleton]
  constructor
  · rw [h.calls, hdescriptors, hstate, PolicyState.opened, List.map_cons, List.append_assoc]
    rfl
  · obtain ⟨inodes, hinodes, hcount⟩ := h.handles
    refine ⟨some inode :: inodes, ?_, ?_⟩
    · rw [hinodes, hstate, PolicyState.opened, List.append_assoc]
      rfl
    · rw [hdescriptors, List.length_cons, List.length_cons, hcount]
  · rw [hdescriptors, List.map_cons, h.numbers, hlength, List.length_cons, List.range'_succ]
  · rw [h.policies, hstate, PolicyState.opened]
  · rw [h.failed, hfailed, List.any_cons, hrule, Bool.false_or]
  · exact List.forall_mem_cons.mpr ⟨htried, h.tried⟩

end Opened

/-- Opening goes through every rule, past those that do not open. -/
theorem opened_walk (world : PolicyWorld) (rules : List FilterRule) (before : Opening)
    (h : ∀ rule ∈ rules, rule.Unopened) :
    Opened world rules before (walk (onPathRule (openOnePathRule world)) rules before).1
      (walk (onPathRule (openOnePathRule world)) rules before).2 := by
  induction rules generalizing before with
  | nil => exact ⟨(List.append_nil _).symm, ⟨[], (List.append_nil _).symm, rfl⟩, rfl, rfl,
      (Bool.or_false _).symm, nofun⟩
  | cons rule rules ih =>
    obtain ⟨hrule, hrules⟩ := List.forall_mem_cons.mp h
    have hrest := ih (onPathRule (openOnePathRule world) rule before).2 hrules
    rw [walk_cons]
    by_cases hitem : rule.itemType = .PATH
    · have hstep : onPathRule (openOnePathRule world) rule before =
          openOnePathRule world rule before := if_pos hitem
      rw [hstep] at hrest ⊢
      cases hopen : world.openPath rule.path with
      | error errno =>
        have hfails : rule.fails world = true := by
          rw [FilterRule.fails, hopen]
          exact Bool.and_eq_true_iff.mpr ⟨decide_eq_true hitem, rfl⟩
        rw [openOnePathRule, hopen] at hrest ⊢
        refine hrest.skip (FilterRule.descriptor_unopened hrule) ?_ rfl ?_
        · exact fun _ => .inl ⟨hrule hitem, by rw [hopen]; rfl⟩
        · rw [hfails, Bool.or_true]
      | ok inode =>
        have hfails : rule.fails world = false := by
          rw [FilterRule.fails, hopen]
          exact Bool.and_false _
        rw [openOnePathRule, hopen] at hrest ⊢
        obtain ⟨inodes, hinodes, -⟩ := hrest.handles
        have hbound := PolicyState.fstat_append
          (before.state.fstat_opened rule.path inode) hinodes
        refine hrest.take ?_ ?_ rfl rfl hfails
        · refine if_pos ⟨hitem, ?_⟩
          show ((before.state.handles.length : Int) ≠ -1)
          omega
        · exact fun _ => .inr ⟨Int.natCast_nonneg _, inode, hopen, hbound⟩
    · have hstep : onPathRule (openOnePathRule world) rule before = (rule, before) := if_neg hitem
      rw [hstep] at hrest ⊢
      have hfails : rule.fails world = false := by
        rw [FilterRule.fails, decide_eq_false hitem, Bool.false_and]
      refine hrest.skip (if_neg fun hboth => hitem hboth.1) (fun h => absurd h hitem) rfl ?_
      rw [hfails, Bool.or_false]

theorem unopened_marked (tlv : SandboxPolicyTlv) :
    ∀ rule ∈ (tlv.forEachPathRule markUnopened ()).1.filterRules, rule.Unopened := by
  intro rule hrule
  rw [(walks_forEachPathRule markUnopened).parts_eq] at hrule
  obtain ⟨before, -, s, rfl⟩ := mem_walk hrule
  unfold onPathRule
  split
  · exact fun _ => rfl
  · exact fun hitem => absurd hitem ‹_›

/-- Marking changes no path. -/
theorem fails_marked (world : PolicyWorld) (tlv : SandboxPolicyTlv) :
    (tlv.forEachPathRule markUnopened ()).1.filterRules.any (·.fails world) =
      tlv.filterRules.any (·.fails world) := by
  have hmap := map_walk (f := onPathRule markUnopened) (g := FilterRule.fails world)
    (k := FilterRule.fails world) (fun rule s => by
      unfold onPathRule
      split <;> rfl) tlv.filterRules ()
  rw [(walks_forEachPathRule markUnopened).parts_eq]
  have hany := congrArg (List.any · id) hmap
  simpa only [List.any_map, Function.id_comp] using hany

theorem openFileFds_opened (world : PolicyWorld) (tlv : SandboxPolicyTlv)
    (errors : List PolicyError) (s : PolicyState) :
    Opened world (tlv.forEachPathRule markUnopened ()).1.filterRules ⟨s, errors, false⟩
      (openFileFds world tlv errors s).1.filterRules (openFileFds world tlv errors s).2 := by
  have h := opened_walk world _ ⟨s, errors, false⟩ (unopened_marked tlv)
  rw [← (walks_forEachPathRule _).parts_eq, ← (walks_forEachPathRule _).state_eq] at h
  exact h

/-- Opening fails exactly when some path does not open. -/
theorem openFileFds_failed (world : PolicyWorld) (tlv : SandboxPolicyTlv)
    (errors : List PolicyError) (s : PolicyState) :
    (openFileFds world tlv errors s).2.failed = tlv.filterRules.any (·.fails world) := by
  rw [(openFileFds_opened world tlv errors s).failed, Bool.false_or, fails_marked]

/-! ### Closing -/

/-- Closing closes what the rules hold, once each. -/
theorem closed_walk (rules : List FilterRule) (s : PolicyState)
    (h : ∀ rule ∈ rules, rule.itemType = .PATH → rule.fd = INVALID_PATH_FD ∨ 0 ≤ rule.fd) :
    (walk (onPathRule closeFd) rules s).2.calls =
        s.calls ++ (descriptorsOf rules).map (fun d => .closed d.1) ∧
      (walk (onPathRule closeFd) rules s).2.handles.length = s.handles.length ∧
      (walk (onPathRule closeFd) rules s).2.policies = s.policies := by
  induction rules generalizing s with
  | nil => exact ⟨(List.append_nil _).symm, rfl, rfl⟩
  | cons rule rules ih =>
    obtain ⟨hrule, hrules⟩ := List.forall_mem_cons.mp h
    obtain ⟨hcalls, hhandles, hpolicies⟩ := ih (onPathRule closeFd rule s).2 hrules
    rw [walk_cons, descriptorsOf_cons, List.map_append]
    rw [hcalls, hhandles, hpolicies]
    by_cases hopen : rule.itemType = .PATH ∧ rule.fd ≠ INVALID_PATH_FD
    · have hnonneg : 0 ≤ rule.fd := (hrule hopen.1).resolve_left hopen.2
      have hstep : (onPathRule closeFd rule s).2 = s.close rule.fd := by
        rw [onPathRule, if_pos hopen.1, closeFd, if_pos hopen.2]
      have hdescriptor : rule.descriptor = some (rule.fd.toNat, rule.path) := if_pos hopen
      rw [hstep, hdescriptor, PolicyState.close, List.append_assoc]
      refine ⟨?_, List.length_set, rfl⟩
      rw [← Int.toNat_of_nonneg hnonneg]
      rfl
    · have hstep : (onPathRule closeFd rule s).2 = s := by
        by_cases hitem : rule.itemType = .PATH
        · have hfd : ¬ rule.fd ≠ INVALID_PATH_FD := fun hfd => hopen ⟨hitem, hfd⟩
          rw [onPathRule, if_pos hitem, closeFd, if_neg hfd]
        · rw [onPathRule, if_neg hitem]
      have hdescriptor : rule.descriptor = none := if_neg hopen
      rw [hstep, hdescriptor]
      exact ⟨rfl, rfl, rfl⟩

/-! ### The guard -/

theorem foldl_found {α : Type} {step : Refusal → α → Refusal} {names : α → Prop}
    (h : ∀ refusal a, (step refusal a).found = true ↔ refusal.found = true ∨ names a)
    (as : List α) (refusal : Refusal) :
    (as.foldl step refusal).found = true ↔ refusal.found = true ∨ ∃ a ∈ as, names a := by
  induction as generalizing refusal with
  | nil => simp
  | cons a as ih =>
    rw [List.foldl_cons, ih, h, or_assoc]
    simp

/-- It is bound to the inode. -/
def FilterRule.Names (s : PolicyState) (guarded : Inode) (rule : FilterRule) : Prop :=
  rule.itemType = .PATH ∧ 0 ≤ rule.fd ∧ s.fstat rule.fd = some guarded

theorem refuseGuardedRule_found (s : PolicyState) (module : PolicyOpType) (eventType : UInt32)
    (guarded : Inode) (refusal : Refusal) (rule : FilterRule) :
    (refuseGuardedRule s module eventType guarded refusal rule).found = true ↔
      refusal.found = true ∨ rule.Names s guarded := by
  unfold refuseGuardedRule FilterRule.Names
  by_cases hskip : rule.itemType ≠ .PATH ∨ rule.fd < 0
  · rw [if_pos hskip]
    refine ⟨.inl, fun h => h.resolve_right fun hnames => ?_⟩
    rcases hskip with hitem | hfd
    · exact hitem hnames.1
    · exact absurd hnames.2.1 (by omega)
  · rw [if_neg hskip]
    obtain ⟨hitem, hfd⟩ := not_or.mp hskip
    have hitem := not_not.mp hitem
    have hfd := Int.not_lt.mp hfd
    cases hstat : s.fstat rule.fd with
    | none => simp
    | some st =>
      by_cases hst : st = guarded
      · simp [hst, hitem, hfd]
      · simp [hst]

/-- The guard refuses exactly when a path rule is bound to the guarded inode. -/
theorem refuseGuardedInode_found (s : PolicyState) (tlv : SandboxPolicyTlv) (module : PolicyOpType)
    (guarded : Inode) (errors : List PolicyError) :
    (refuseGuardedInode s tlv module (some guarded) errors).found = true ↔
      ∃ rule ∈ tlv.filterRules, rule.Names s guarded := by
  have hentities : ∀ eventType refusal (entities : List (List FilterRule)),
      (refuseGuardedInEntities s module eventType guarded refusal entities).found = true ↔
        refusal.found = true ∨ ∃ entity ∈ entities, ∃ rule ∈ entity, rule.Names s guarded :=
    fun eventType refusal entities => foldl_found (fun refusal entity =>
      foldl_found (refuseGuardedRule_found s module eventType guarded) entity refusal)
      entities refusal
  have hrule : ∀ refusal (rule : PolicyRule),
      (refuseGuardedInEntities s module rule.eventType guarded
        (refuseGuardedInEntities s module rule.eventType guarded refusal rule.subjectRules)
        rule.objectRules).found = true ↔ refusal.found = true ∨
        ((∃ entity ∈ rule.subjectRules, ∃ filter ∈ entity, filter.Names s guarded) ∨
          ∃ entity ∈ rule.objectRules, ∃ filter ∈ entity, filter.Names s guarded) := by
    intro refusal rule
    rw [hentities, hentities, or_assoc]
  have hall := foldl_found (fun refusal policy => foldl_found hrule policy.rules refusal)
    tlv.policies { errors }
  refine hall.trans ?_
  simp only [SandboxPolicyTlv.filterRules, List.mem_flatMap, List.mem_append]
  constructor
  · rintro (h | ⟨policy, hpolicy, rule, hrule, h⟩)
    · exact absurd h Bool.false_ne_true
    · rcases h with ⟨entity, hentity, filter, hfilter, hnames⟩ |
        ⟨entity, hentity, filter, hfilter, hnames⟩
      · exact ⟨filter, ⟨policy, hpolicy, rule, hrule, .inl ⟨entity, hentity, hfilter⟩⟩, hnames⟩
      · exact ⟨filter, ⟨policy, hpolicy, rule, hrule, .inr ⟨entity, hentity, hfilter⟩⟩, hnames⟩
  · rintro ⟨filter, ⟨policy, hpolicy, rule, hrule, h⟩, hnames⟩
    refine .inr ⟨policy, hpolicy, rule, hrule, ?_⟩
    rcases h with ⟨entity, hentity, hfilter⟩ | ⟨entity, hentity, hfilter⟩
    · exact .inl ⟨entity, hentity, filter, hfilter, hnames⟩
    · exact .inr ⟨entity, hentity, filter, hfilter, hnames⟩

end SandboxManager.Claw
