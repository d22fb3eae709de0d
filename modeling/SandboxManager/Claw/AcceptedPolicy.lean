import SandboxManager.Claw.LegalPolicy

/-! What an accepted policy still has to fear.

The conversion of a group to a payload may refuse a path for its pattern, or two actions for one
object. The first cannot happen to what the parser accepted: it asked of each path what the
conversion asks (`legal_ruleEntries`). So only actions in conflict are left, and a conversion that
fails reports nothing else. -/
namespace SandboxManager.Claw
open Library

/-! ### What was accepted is legal for the conversion -/

/-- A text of an array is fit for it. -/
theorem TextsAt.fit {Fit : Bytes → Prop} {root : Json} {key text : Bytes} (h : TextsAt Fit root key)
    (htext : text ∈ stringsAt root key) : Fit text := by
  rw [stringsAt] at htext
  cases hitem : root.getObjectItem key with
  | none => simp [hitem, Json.itemsOf] at htext
  | some item =>
    obtain ⟨items, rfl, hall⟩ := h item hitem
    rw [hitem, Json.itemsOf, Option.getD_some, List.mem_filterMap] at htext
    obtain ⟨i, hi, htext⟩ := htext
    obtain ⟨text', htext', hfit⟩ := hall i hi
    rw [htext, Option.some.injEq] at htext'
    exact htext' ▸ hfit

theorem mem_entries {op : OperationActionSets} {object : Bytes} {action : PolicyAction} :
    (object, action) ∈ op.entries ↔ object ∈ op.deny ∧ action = .DENY ∨
      object ∈ op.allow ∧ action = .ALLOW ∨ object ∈ op.ask ∧ action = .ASK := by
  simp only [OperationActionSets.entries, OperationActionSets.actionArrays, List.mem_flatMap,
    List.mem_cons, List.not_mem_nil, or_false, exists_eq_or_imp, exists_eq_left, List.mem_map,
    Prod.mk.injEq]
  grind

/-- The nine arrays of a file module, whatever the operation. -/
theorem legalPath_of_mem {file : Json} (h : LegalFile file) {operation : FileOperation}
    (hoperation : operation ∈ (fileRulesOf file).operations) {object : Bytes} {action : PolicyAction}
    (hentry : (object, action) ∈ operation.actionSets.entries) : LegalPath object := by
  have hpaths : ∀ key ∈ _, ∀ text ∈ stringsAt file key, LegalPath text :=
    fun key hkey text htext => (h.paths key hkey).fit htext
  simp only [List.forall_mem_cons] at hpaths
  obtain ⟨hdr, har, hkr, hdw, haw, hkw, hdd, had, hkd, -⟩ := hpaths
  simp only [PolicyFileConfig.operations, fileRulesOf, List.mem_cons, List.not_mem_nil, or_false]
    at hoperation
  rcases hoperation with rfl | rfl | rfl
  · rcases mem_entries.mp hentry with h | h | h
    · exact hdr object h.1
    · exact har object h.1
    · exact hkr object h.1
  · rcases mem_entries.mp hentry with h | h | h
    · exact hdw object h.1
    · exact haw object h.1
    · exact hkw object h.1
  · rcases mem_entries.mp hentry with h | h | h
    · exact hdd object h.1
    · exact had object h.1
    · exact hkd object h.1

/-- **The conversion finds every path of a legal group legal.** -/
theorem legal_ruleEntries {phase : PolicyParsePhase} {item : Json} (h : LegalGroup phase item)
    (module : PolicyOpType) : ∀ entry ∈ (ruleGroupOf item).ruleEntries module, entry.Legal := by
  intro entry hentry hpath
  rw [PolicyRuleGroup.ruleEntries, List.mem_flatMap] at hentry
  obtain ⟨⟨op, eventType⟩, hop, hentry⟩ := hentry
  rw [OperationActionSets.ruleEntries, List.mem_map] at hentry
  obtain ⟨⟨object, action⟩, hobject, rfl⟩ := hentry
  cases module with
  | NETWORK => exact absurd hop List.not_mem_nil
  | PROCESS =>
    rw [PolicyRuleGroup.operations, List.mem_singleton, Prod.mk.injEq] at hop
    simp [hop.1, processActionSets] at hpath
  | FILE =>
    rw [PolicyRuleGroup.operations, List.mem_map] at hop
    obtain ⟨operation, hoperation, heq⟩ := hop
    obtain ⟨rfl, rfl⟩ := Prod.mk.inj heq
    rw [ruleGroupOf] at hoperation
    cases hfile : item.getObjectItem (bytes "File") with
    | none =>
      rw [hfile] at hoperation
      have hnone : ∀ o ∈ PolicyFileConfig.operations {}, o.actionSets.entries = [] := by decide
      rw [hnone operation hoperation] at hobject
      exact absurd hobject List.not_mem_nil
    | some file =>
      rw [hfile] at hoperation
      exact legalPath_iff.mp (legalPath_of_mem (h.file file hfile) hoperation hobject)

/-! ### What a conversion reports -/

/-- Nothing is reported but actions in conflict. -/
def OnlyConflicts (errors : List PolicyError) : Prop :=
  ∀ error ∈ errors, ∃ operation object first second,
    error = .actionConflict operation object first second

theorem OnlyConflicts.append {errors errors' : List PolicyError} (h : OnlyConflicts errors)
    (h' : OnlyConflicts errors') : OnlyConflicts (errors ++ errors') :=
  List.forall_mem_append.mpr ⟨h, h'⟩

theorem onlyConflicts_nil : OnlyConflicts [] := List.forall_mem_nil _

variable (lstat : Bytes → Option Inode)

theorem checkObject_onlyConflicts (op : OperationActionSets) (action : PolicyAction)
    {check : ConflictCheck} (h : OnlyConflicts check.errors) (object : Bytes) :
    OnlyConflicts (checkObject lstat op action check object).errors := by
  unfold checkObject
  split
  · exact h
  · dsimp only
    split
    · exact h
    · split
      · exact h.append (List.forall_mem_singleton.mpr ⟨_, _, _, _, rfl⟩)
      · exact h

theorem validate_onlyConflicts (op : OperationActionSets) (objectAction : ObjectActions)
    {errors : List PolicyError} (h : OnlyConflicts errors) :
    OnlyConflicts (validateOperationActionConflict lstat op objectAction errors).errors := by
  unfold validateOperationActionConflict
  refine List.foldlRecOn (motive := fun check : ConflictCheck => OnlyConflicts check.errors) _ _ h
    fun check hcheck entry _ => ?_
  exact List.foldlRecOn (motive := fun check : ConflictCheck => OnlyConflicts check.errors) _ _ hcheck
    fun check hcheck object _ => checkObject_onlyConflicts lstat op entry.2 hcheck object

theorem convertFileRules_onlyConflicts {paths : List Bytes} (hpaths : ∀ path ∈ paths, LegalPath path)
    (action : PolicyAction) (eventType : UInt32) {c : Conversion} (h : OnlyConflicts c.errors) :
    OnlyConflicts (convertFileRulesToTlv paths action eventType c).errors := by
  refine List.foldlRecOn (motive := fun c : Conversion => OnlyConflicts c.errors) _ _ h
    fun c hc path hpath => ?_
  have hlegal := legalPath_iff.mp (hpaths path hpath)
  unfold convertFileRule buildFileRuleObject
  cases hwildcard : isWildcardPattern path with
  | false => exact hc
  | true =>
    obtain ⟨parsed, hparsed⟩ := hlegal hwildcard
    rw [hparsed]
    exact hc

/-- A step is taken only where the last one succeeded. -/
theorem andThen_onlyConflicts {c : Conversion} {step : Conversion → Conversion}
    (h : OnlyConflicts c.errors) (hstep : OnlyConflicts (step c).errors) :
    OnlyConflicts (c.andThen step).errors := by
  unfold Conversion.andThen
  split
  · exact h
  · exact hstep

theorem checkConflicts_onlyConflicts (op : OperationActionSets) {c : Conversion}
    (h : OnlyConflicts c.errors) : OnlyConflicts (c.checkConflicts lstat op).errors :=
  validate_onlyConflicts lstat op c.objectAction h

theorem convertFileOperation_onlyConflicts {operation : FileOperation}
    (hpaths : ∀ entry ∈ operation.actionSets.actionArrays, ∀ path ∈ entry.1, LegalPath path)
    {c : Conversion} (h : OnlyConflicts c.errors) :
    OnlyConflicts (convertFileOperationToTlv lstat c operation).errors := by
  refine List.foldlRecOn (motive := fun c : Conversion => OnlyConflicts c.errors) _ _
    (checkConflicts_onlyConflicts lstat operation.actionSets h) fun c hc entry hentry => ?_
  exact andThen_onlyConflicts hc
    (convertFileRules_onlyConflicts (hpaths entry hentry) entry.2 operation.eventType hc)

theorem convertRuleGroup_onlyConflicts {phase : PolicyParsePhase} {item : Json}
    (hlegal : LegalGroup phase item) {module : PolicyOpType} {c : Conversion}
    (h : convertRuleGroup lstat module (ruleGroupOf item) = some c) : OnlyConflicts c.errors := by
  cases module with
  | NETWORK =>
    rw [convertRuleGroup] at h
    split at h
    · rw [← Option.some.inj h]
      exact onlyConflicts_nil
    · cases h
  | PROCESS =>
    rw [convertRuleGroup] at h
    split at h
    · rw [← Option.some.inj h]
      exact andThen_onlyConflicts (checkConflicts_onlyConflicts lstat _ onlyConflicts_nil)
        (checkConflicts_onlyConflicts lstat _ onlyConflicts_nil)
    · cases h
  | FILE =>
    rw [convertRuleGroup] at h
    split at h
    · rw [← Option.some.inj h]
      refine List.foldlRecOn (motive := fun c : Conversion => OnlyConflicts c.errors) _ _
        onlyConflicts_nil fun c hc operation hoperation => ?_
      refine andThen_onlyConflicts hc (convertFileOperation_onlyConflicts lstat
        (fun entry hentry path hpath => ?_) hc)
      refine legalPath_iff.mpr (legal_ruleEntries hlegal .FILE
        ⟨operation.eventType, .PATH, path, entry.2⟩ ?_ rfl)
      refine List.mem_flatMap.mpr ⟨_, List.mem_map_of_mem hoperation, List.mem_map.mpr
        ⟨(path, entry.2), List.mem_flatMap.mpr ⟨entry, hentry, ?_⟩, rfl⟩⟩
      exact List.mem_map_of_mem hpath
    · cases h

theorem convert_onlyConflicts (module : PolicyOpType) (ruleGroups : List PolicyRuleGroup)
    (hgroups : ∀ group ∈ ruleGroups, ∀ c, convertRuleGroup lstat module group = some c →
      OnlyConflicts c.errors) {converted : ConvertedTlv} (h : OnlyConflicts converted.errors) :
    OnlyConflicts (convertOperationControlToTlv lstat module converted ruleGroups).errors := by
  induction ruleGroups generalizing converted with
  | nil => exact h
  | cons group ruleGroups ih =>
    have hrest : ∀ g ∈ ruleGroups, ∀ c, convertRuleGroup lstat module g = some c →
        OnlyConflicts c.errors := fun g hg => hgroups g (List.mem_cons_of_mem group hg)
    rw [convertOperationControlToTlv]
    cases hgroup : convertRuleGroup lstat module group with
    | none => exact ih hrest h
    | some c =>
      have herrors := h.append (hgroups group List.mem_cons_self c hgroup)
      dsimp only
      split
      · exact herrors
      · exact ih hrest herrors

/-! ### Accepted policies -/

variable {phase : PolicyParsePhase} {policy : Json} {ruleGroups : List PolicyRuleGroup}

/-- An accepted group stands in the policy. -/
theorem group_of_accepted (h : parseOperationControlRuleGroups phase policy = .ok ruleGroups)
    {group : PolicyRuleGroup} (hgroup : group ∈ ruleGroups) :
    ∃ item, LegalGroup phase item ∧ group = ruleGroupOf item := by
  obtain ⟨hlegal, rfl⟩ := (parseOperationControlRuleGroups_checks phase policy).eq_ok_iff _ |>.mp h
  rw [ruleGroupsOf] at hgroup
  cases hitem : policy.getObjectItem ruleGroupsKey with
  | none => simp [hitem, Json.itemsOf] at hgroup
  | some item =>
    obtain ⟨items, rfl, -, hall⟩ := hlegal item hitem
    rw [hitem, Json.itemsOf, Option.getD_some, List.mem_map] at hgroup
    obtain ⟨i, hi, heq⟩ := hgroup
    exact ⟨i, hall i hi, heq.symm⟩

/-- The network of a legal group is there at the start only, and its default is one of two. -/
theorem network_of_legal {item : Json} (h : LegalGroup phase item)
    (hcarries : (ruleGroupOf item).carries .NETWORK = true) :
    phase = .STARTUP ∧ ((ruleGroupOf item).defaultAction .NETWORK = .ALLOW ∨
      (ruleGroupOf item).defaultAction .NETWORK = .DENY) := by
  obtain ⟨network, hnetwork⟩ := Option.isSome_iff_exists.mp hcarries
  obtain ⟨hlegal, hphase⟩ := h.network network hnetwork
  obtain ⟨word, hword, hmem⟩ := hlegal.defaultAction
  have haction : (ruleGroupOf item).defaultAction .NETWORK = (actionMap.lookup word).getD .NONE := by
    simp [PolicyRuleGroup.defaultAction, ruleGroupOf, hnetwork, defaultActionOf, hword]
  rw [haction]
  rcases List.mem_pair.mp hmem with rfl | rfl
  · exact ⟨hphase, Or.inl (by decide)⟩
  · exact ⟨hphase, Or.inr (by decide)⟩

theorem exists_of_forall₂ {α β : Type} {R : α → β → Prop} {xs : List α} {ys : List β}
    (h : List.Forall₂ R xs ys) {y : β} (hy : y ∈ ys) : ∃ x ∈ xs, R x y := by
  obtain ⟨i, hi, rfl⟩ := List.mem_iff_getElem.mp hy
  have hi' : i < xs.length := h.length_eq ▸ hi
  exact ⟨xs[i], List.getElem_mem hi', h.get hi' hi⟩

theorem accepted_ret (h : parseOperationControlRuleGroups phase policy = .ok ruleGroups)
    (module : PolicyOpType) :
    (convertOperationControlToTlv lstat module {} ruleGroups).ret = .SUCCESS ↔
      ∀ group ∈ ruleGroups, group.carries module = true →
        ∀ operation ∈ group.operations module,
          operation.1.Agreed lstat ∧ ¬ operation.1.Confusable lstat := by
  rw [(convert_spec lstat module {} [] ruleGroups).1]
  refine forall₃_congr fun group hgroup _ => ?_
  obtain ⟨item, hlegal, rfl⟩ := group_of_accepted h hgroup
  refine ⟨fun hgood operation hop => ⟨hgood.1.agreed operation hop, hgood.2 operation hop⟩,
    fun hgood => ⟨⟨legal_ruleEntries hlegal module, fun operation hop => (hgood operation hop).1⟩,
      fun operation hop => (hgood operation hop).2⟩⟩

/-- **What the parser accepts, the conversion refuses only for actions in conflict.** It succeeds
exactly where no operation has two actions for one object and no two keys are confused, and
reports conflicts and nothing else; a policy for a sandbox that is running gives no network
payload, and the network default of one of the start is to allow or to deny. -/
theorem accepted_converts (h : parseOperationControlRuleGroups phase policy = .ok ruleGroups)
    (module : PolicyOpType) :
    ((convertOperationControlToTlv lstat module {} ruleGroups).ret = .SUCCESS ↔
      ∀ group ∈ ruleGroups, group.carries module = true →
        ∀ operation ∈ group.operations module,
          operation.1.Agreed lstat ∧ ¬ operation.1.Confusable lstat) ∧
    OnlyConflicts (convertOperationControlToTlv lstat module {} ruleGroups).errors ∧
    (module = .NETWORK →
      (convertOperationControlToTlv lstat module {} ruleGroups).ret = .SUCCESS ∧
      ∀ sent ∈ (convertOperationControlToTlv lstat module {} ruleGroups).tlv.policies,
        phase = .STARTUP ∧ sent.rules = [] ∧
          (sent.defaultAction = .ALLOW ∨ sent.defaultAction = .DENY)) := by
  have hret := accepted_ret lstat h module
  refine ⟨hret, ?_, ?_⟩
  · refine convert_onlyConflicts lstat module ruleGroups (fun group hgroup c hc => ?_)
      onlyConflicts_nil
    obtain ⟨item, hlegal, rfl⟩ := group_of_accepted h hgroup
    exact convertRuleGroup_onlyConflicts lstat hlegal hc
  · rintro rfl
    have hsuccess := hret.mpr fun group _ _ operation hop => absurd hop List.not_mem_nil
    refine ⟨hsuccess, fun sent hsent => ?_⟩
    obtain ⟨policies, hall, htlv⟩ := (convert_spec lstat .NETWORK {} [] ruleGroups).2 hsuccess
    rw [htlv, List.nil_append] at hsent
    obtain ⟨group, hgroup, hfor⟩ := exists_of_forall₂ hall hsent
    obtain ⟨hgroup, hcarries⟩ := List.mem_filter.mp hgroup
    obtain ⟨item, hlegal, rfl⟩ := group_of_accepted h hgroup
    obtain ⟨hphase, haction⟩ := network_of_legal hlegal hcarries
    have hdefault : sent.defaultAction = (ruleGroupOf item).defaultAction .NETWORK :=
      congrArg OperationPolicy.defaultAction hfor.header
    exact ⟨hphase, List.forall₂_nil_left_iff.mp hfor.rules, hdefault ▸ haction⟩

/-- Reading below `/a` is denied, deleting `/b` is asked about, and the network is allowed. -/
theorem accepted_converts_denied :
    (∀ module, OnlyConflicts (convertOperationControlToTlv (fun _ => none) module {}
      [{ hasNetwork := true, networkRules := ⟨.ALLOW⟩, hasFile := true
         fileRules := { denyReadData := [bytes "/a/**"], askDelete := [bytes "/b"] } }]).errors) ∧
    (convertOperationControlToTlv (fun _ => none) .FILE {}
      [{ hasNetwork := true, networkRules := ⟨.ALLOW⟩, hasFile := true
         fileRules := { denyReadData := [bytes "/a/**"], askDelete := [bytes "/b"] } }]).ret =
      .SUCCESS := by
  have h : parseOperationControlRuleGroups .STARTUP (.object [(ruleGroupsKey, .array [.object
      [(bytes "Scope", .object [(bytes "Type", .string (bytes "self_session"))]),
        (bytes "Network", .object [(bytes "DefaultAction", .string (bytes "allow"))]),
        (bytes "File", .object [(bytes "DenyReadData", .array [.string (bytes "/a/**")]),
          (bytes "AskDelete", .array [.string (bytes "/b")])])]])]) =
      .ok [{ hasNetwork := true, networkRules := ⟨.ALLOW⟩, hasFile := true
             fileRules := { denyReadData := [bytes "/a/**"], askDelete := [bytes "/b"] } }] := by
    rfl
  exact ⟨fun module => (accepted_converts (fun _ => none) h module).2.1, by decide +kernel⟩

end SandboxManager.Claw
