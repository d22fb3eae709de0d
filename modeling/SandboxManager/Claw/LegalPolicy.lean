import SandboxManager.Claw.RuleGroupParser

/-! Which policies are accepted, and what they say.

Which JSON is a policy (`LegalRuleGroups`) and what a policy says (`ruleGroupsOf`) are written
down here without the parser: the one is a condition on the tree, the other reads the tree and
asks nothing of it. The parser accepts exactly the one and answers the other. A group is of the
session it is written for, and as no two groups may be of one scope there is at most one. What is
accepted has nothing left that the conversion to a payload could refuse but two actions for one
object. -/
namespace SandboxManager.Claw
open Library

/-! ### What a policy says -/

def stringsAt (root : Json) (key : Bytes) : List Bytes :=
  ((Json.itemsOf (root.getObjectItem key)).getD []).filterMap fun item => Json.stringOf (some item)

def defaultActionOf (module : Json) : PolicyAction :=
  ((Json.stringOf (module.getObjectItem (bytes "DefaultAction"))).bind fun word =>
    actionMap.lookup word).getD .NONE

def fileRulesOf (file : Json) : PolicyFileConfig where
  defaultAction := defaultActionOf file
  denyReadData := stringsAt file (bytes "DenyReadData")
  allowReadData := stringsAt file (bytes "AllowReadData")
  askReadData := stringsAt file (bytes "AskReadData")
  denyWriteData := stringsAt file (bytes "DenyWriteData")
  allowWriteData := stringsAt file (bytes "AllowWriteData")
  askWriteData := stringsAt file (bytes "AskWriteData")
  denyDelete := stringsAt file (bytes "DenyDelete")
  allowDelete := stringsAt file (bytes "AllowDelete")
  askDelete := stringsAt file (bytes "AskDelete")

def processRulesOf (process : Json) : PolicyProcessConfig where
  defaultAction := defaultActionOf process
  denyExecCmd := stringsAt process (bytes "DenyExecCmd")
  allowExecCmd := stringsAt process (bytes "AllowExecCmd")
  askExecCmd := stringsAt process (bytes "AskExecCmd")

/-- A module that is not there has the rules of a new group. -/
def ruleGroupOf (item : Json) : PolicyRuleGroup where
  hasNetwork := (item.getObjectItem (bytes "Network")).isSome
  networkRules := ((item.getObjectItem (bytes "Network")).map fun network =>
    ⟨defaultActionOf network⟩).getD {}
  hasFile := (item.getObjectItem (bytes "File")).isSome
  fileRules := ((item.getObjectItem (bytes "File")).map fileRulesOf).getD {}
  hasProcess := (item.getObjectItem (bytes "Process")).isSome
  processRules := ((item.getObjectItem (bytes "Process")).map processRulesOf).getD {}

def ruleGroupsOf (policy : Json) : List PolicyRuleGroup :=
  ((Json.itemsOf (policy.getObjectItem ruleGroupsKey)).getD []).map ruleGroupOf

/-! ### Which policies are legal -/

/-- The field is absent, or an array of texts that are fit for it. -/
def TextsAt (Fit : Bytes → Prop) (root : Json) (key : Bytes) : Prop :=
  ∀ item, root.getObjectItem key = some item → ∃ items, item = .array items ∧
    ∀ i ∈ items, ∃ text, Json.stringOf (some i) = some text ∧ Fit text

/-- The field is absent, or one of four words. -/
def ActionAt (module : Json) : Prop :=
  ∀ item, module.getObjectItem (bytes "DefaultAction") = some item →
    ∃ word, Json.stringOf (some item) = some word ∧
      word ∈ [bytes "allow", bytes "deny", bytes "ask", bytes "none"]

/-- A path without a star may be anything; a pattern is of the grammar. -/
def LegalPath (path : Bytes) : Prop := star ∈ path → ∃ start, LegalPattern path start

structure LegalNetwork (network : Json) : Prop where
  object : network.isObject = true
  defaultAction : ∃ word,
    Json.stringOf (network.getObjectItem (bytes "DefaultAction")) = some word ∧
      word ∈ [bytes "allow", bytes "deny"]

structure LegalFile (file : Json) : Prop where
  object : file.isObject = true
  defaultAction : ActionAt file
  paths : ∀ key ∈ [bytes "DenyReadData", bytes "AllowReadData", bytes "AskReadData",
    bytes "DenyWriteData", bytes "AllowWriteData", bytes "AskWriteData", bytes "DenyDelete",
    bytes "AllowDelete", bytes "AskDelete"], TextsAt LegalPath file key

structure LegalProcess (process : Json) : Prop where
  object : process.isObject = true
  defaultAction : ActionAt process
  commands : ∀ key ∈ [bytes "DenyExecCmd", bytes "AllowExecCmd", bytes "AskExecCmd"],
    TextsAt (slash ∉ ·) process key

structure LegalGroup (phase : PolicyParsePhase) (item : Json) : Prop where
  object : item.isObject = true
  scope : ∃ scope, item.getObjectItem (bytes "Scope") = some scope ∧ scope.isObject = true ∧
    Json.stringOf (scope.getObjectItem (bytes "Type")) = some (bytes "self_session")
  /-- The network is settled at the start. -/
  network : ∀ network, item.getObjectItem (bytes "Network") = some network →
    LegalNetwork network ∧ phase = .STARTUP
  file : ∀ file, item.getObjectItem (bytes "File") = some file → LegalFile file
  process : ∀ process, item.getObjectItem (bytes "Process") = some process → LegalProcess process

/-- At most one group, as each is of the same scope. -/
def LegalRuleGroups (phase : PolicyParsePhase) (policy : Json) : Prop :=
  ∀ item, policy.getObjectItem ruleGroupsKey = some item →
    ∃ groups, item = .array groups ∧ groups.length ≤ 1 ∧ ∀ group ∈ groups, LegalGroup phase group

/-! ### Fields -/

section
variable {root obj : Json} {key : Bytes} {Fit : Bytes → Prop} {validate : ArrayFieldValidator}

theorem parseStringField_checks (root : Json) (key : Bytes) :
    Checks (parseStringField root key) (Json.stringOf (root.getObjectItem key)).isSome
      ((Json.stringOf (root.getObjectItem key)).getD []) := by
  unfold parseStringField
  cases Json.stringOf (root.getObjectItem key) with
  | none => exact Checks.error _ (by simp) _
  | some text => exact (Checks.ok text).iff (by simp)

/-- The texts of an array whose items are all texts. -/
theorem texts_checks (key : Bytes) (items : List Json) :
    Checks (items.mapM fun item => match Json.stringOf (some item) with
        | none => Except.error (fieldError key (bytes " contains non-string item"))
        | some valuestring => Except.ok valuestring)
      (∀ item ∈ items, (Json.stringOf (some item)).isSome)
      (items.filterMap fun item => Json.stringOf (some item)) := by
  refine Checks.filterMapM (fun item _ value => ?_) fun item _ h => h
  cases Json.stringOf (some item) with
  | none => simp
  | some text => simp

/-- A validator that checks each text by itself is a condition on each. -/
theorem parseOptionalStringArrayField_checks
    (hvalidate : ∀ texts, Checks (validate key texts) (∀ text ∈ texts, Fit text) ()) :
    Checks (parseOptionalStringArrayField root key validate) (TextsAt Fit root key)
      (stringsAt root key) := by
  unfold parseOptionalStringArrayField TextsAt stringsAt
  cases root.getObjectItem key with
  | none => exact (Checks.ok []).iff (by simp)
  | some item =>
    cases item with
    | array items =>
      refine (((texts_checks key items).bind fun _ => (hvalidate _).map fun _ => _).iff ?_)
      simp only [Option.some.injEq, forall_eq', Json.array.injEq, exists_eq_left', List.mem_filterMap,
        forall_exists_index, and_imp]
      refine ⟨fun h i hi => ?_, fun h => ⟨fun i hi => ?_, fun text i hi htext => ?_⟩⟩
      · obtain ⟨text, htext⟩ := Option.isSome_iff_exists.mp (h.1 i hi)
        exact ⟨text, htext, h.2 text i hi htext⟩
      · obtain ⟨text, htext, -⟩ := h i hi
        rw [htext, Option.isSome_some]
      · obtain ⟨text', htext', hfit⟩ := h i hi
        rw [htext, Option.some.injEq] at htext'
        exact htext' ▸ hfit
    | _ => exact Checks.error _ (by simp) _

theorem isSome_actionMap {word : Bytes} :
    (actionMap.lookup word).isSome ↔ word ∈ [bytes "allow", bytes "deny", bytes "ask", bytes "none"] := by
  simp [List.lookup_isSome_iff, actionMap]

theorem parseOptionalDefaultAction_checks (obj : Json) (fieldLabel : Bytes) :
    Checks (parseOptionalDefaultAction obj fieldLabel .NONE) (ActionAt obj) (defaultActionOf obj) := by
  unfold parseOptionalDefaultAction parseOptionalStringField ActionAt defaultActionOf
  cases hitem : obj.getObjectItem (bytes "DefaultAction") with
  | none => exact (Checks.ok PolicyAction.NONE).iff (by simp)
  | some item =>
    dsimp only
    cases hword : Json.stringOf (some item) with
    | none => exact Checks.error _ (by simp [hword]) _
    | some word =>
      have hlegal : (actionMap.lookup word).isSome ↔ ∀ item', some item = some item' →
          ∃ word, Json.stringOf (some item') = some word ∧
            word ∈ [bytes "allow", bytes "deny", bytes "ask", bytes "none"] := by
        simp only [Option.some.injEq, forall_eq', hword, exists_eq_left', isSome_actionMap]
      refine Checks.iff ?_ hlegal
      simp only [Bind.bind, Except.bind, Option.bind_some]
      cases hlookup : actionMap.lookup word with
      | none => exact Checks.error _ (by simp) _
      | some action => exact (Checks.ok action).iff (by simp)

/-- The fields of a table, each with the texts that stand at its key. -/
theorem parseOperationArrayFields_checks {σ : Type} (fields : List (OperationArrayField σ))
    (hvalidate : ∀ key texts, Checks (validate key texts) (∀ text ∈ texts, Fit text) ()) (rules : σ) :
    Checks (parseOperationArrayFields obj fields validate rules)
      (∀ field ∈ fields, TextsAt Fit obj field.key)
      (fields.foldl (fun rules field => field.fill (stringsAt obj field.key) rules) rules) :=
  Checks.foldlM (fun field _ rules =>
    (parseOptionalStringArrayField_checks (hvalidate field.key)).map fun texts =>
      field.fill texts rules) rules

end

/-! ### Scope and modules -/

def withNetwork (item : Json) (group : PolicyRuleGroup) : PolicyRuleGroup :=
  match item.getObjectItem (bytes "Network") with
  | none => group
  | some network => { group with hasNetwork := true, networkRules := ⟨defaultActionOf network⟩ }

def withFile (item : Json) (group : PolicyRuleGroup) : PolicyRuleGroup :=
  match item.getObjectItem (bytes "File") with
  | none => group
  | some file => { group with hasFile := true, fileRules := fileRulesOf file }

def withProcess (item : Json) (group : PolicyRuleGroup) : PolicyRuleGroup :=
  match item.getObjectItem (bytes "Process") with
  | none => group
  | some process => { group with hasProcess := true, processRules := processRulesOf process }

theorem lookup_scopeTypeMap {word : Bytes} :
    scopeTypeMap.lookup word = some .SELF_SESSION ↔ word = bytes "self_session" := by
  constructor
  · intro h
    obtain ⟨before, after, heq, -⟩ := List.lookup_eq_some_iff.mp h
    have hmem : (word, PolicyScopeType.SELF_SESSION) ∈ scopeTypeMap := by simp [heq]
    simpa [scopeTypeMap] using hmem
  · rintro rfl
    decide

theorem parseOperationControlScopeType_checks (scope : Json) :
    Checks (parseOperationControlScopeType scope)
      (Json.stringOf (scope.getObjectItem (bytes "Type")) = some (bytes "self_session"))
      .SELF_SESSION := by
  unfold parseOperationControlScopeType parseStringField
  cases Json.stringOf (scope.getObjectItem (bytes "Type")) with
  | none => exact Checks.error _ (by simp) _
  | some word =>
    rw [Option.some.injEq, ← lookup_scopeTypeMap]
    dsimp only [Bind.bind, Except.bind]
    cases scopeTypeMap.lookup word with
    | none => exact Checks.error _ (by simp) _
    | some type =>
      dsimp only
      by_cases htype : type = .SELF_SESSION
      · rw [if_neg (not_not.mpr htype), htype]
        exact (Checks.ok _).iff (by simp)
      · rw [if_pos htype]
        exact Checks.error _ (by simpa using htype) _

theorem parseOperationControlScope_checks (item : Json) :
    Checks (parseOperationControlScope item)
      (∃ scope, item.getObjectItem (bytes "Scope") = some scope ∧ scope.isObject = true ∧
        Json.stringOf (scope.getObjectItem (bytes "Type")) = some (bytes "self_session"))
      {} := by
  unfold parseOperationControlScope
  cases item.getObjectItem (bytes "Scope") with
  | none => exact Checks.error _ (by simp) _
  | some scope =>
    cases scope with
    | object members =>
      exact ((parseOperationControlScopeType_checks (.object members)).map fun type =>
        PolicyScope.mk type).iff (by simp [Json.isObject])
    | _ => exact Checks.error _ (by simp [Json.isObject]) _

theorem parseNetworkOperationControl_checks (item : Json) (group : PolicyRuleGroup) :
    Checks (parseNetworkOperationControl item group)
      (∀ network, item.getObjectItem (bytes "Network") = some network → LegalNetwork network)
      (withNetwork item group) := by
  unfold parseNetworkOperationControl withNetwork
  cases item.getObjectItem (bytes "Network") with
  | none => exact (Checks.ok group).iff (by simp)
  | some network =>
    have hlegal : (¬ network.isObject = false ∧
        (Json.stringOf (network.getObjectItem (bytes "DefaultAction"))).isSome ∧
          (Json.stringOf (network.getObjectItem (bytes "DefaultAction"))).getD [] ∈
            [bytes "allow", bytes "deny"]) ↔
        ∀ network', some network = some network' → LegalNetwork network' := by
      simp only [Option.some.injEq, forall_eq', Bool.not_eq_false]
      refine ⟨fun h => ⟨h.1, ?_⟩, fun h => ⟨h.object, ?_⟩⟩
      · obtain ⟨word, hword⟩ := Option.isSome_iff_exists.mp h.2.1
        exact ⟨word, hword, by simpa [hword] using h.2.2⟩
      · obtain ⟨word, hword, hmem⟩ := h.defaultAction
        rw [hword]
        exact ⟨rfl, hmem⟩
    refine Checks.iff (Checks.guard _ fun _ => (parseStringField_checks network _).bind fun hsome => ?_)
      hlegal
    obtain ⟨word, hword⟩ := Option.isSome_iff_exists.mp hsome
    simp only [defaultActionOf, hword, Option.getD_some, Option.bind_some]
    by_cases hallow : word = bytes "allow"
    · have hlookup : actionMap.lookup word = some .ALLOW := by rw [hallow]; decide
      rw [hlookup]
      exact (Checks.ok _).iff (by simp [hallow])
    · by_cases hdeny : word = bytes "deny"
      · have hlookup : actionMap.lookup word = some .DENY := by rw [hdeny]; decide
        rw [hlookup]
        exact (Checks.ok _).iff (by simp [hdeny])
      · have hnot : ∀ action, actionMap.lookup word = some action → action = .ASK ∨ action = .NONE := by
          intro action h
          obtain ⟨before, after, heq, -⟩ := List.lookup_eq_some_iff.mp h
          have hmem : (word, action) ∈ actionMap := by simp [heq]
          have hlast : (word = bytes "ask" ∧ action = .ASK) ∨ (word = bytes "none" ∧ action = .NONE) := by
            simpa [actionMap, hallow, hdeny] using hmem
          exact hlast.imp And.right And.right
        cases hlookup : actionMap.lookup word with
        | none => exact Checks.error _ (by simp [hallow, hdeny]) _
        | some action =>
          rcases hnot action hlookup with rfl | rfl
          · exact Checks.error _ (by simp [hallow, hdeny]) _
          · exact Checks.error _ (by simp [hallow, hdeny]) _

theorem legalPath_iff {path : Bytes} :
    LegalPath path ↔ (isWildcardPattern path = true → ∃ parsed, parseFilePattern path = .ok parsed) := by
  have hlegal : (∃ parsed, parseFilePattern path = .ok parsed) ↔ ∃ start, LegalPattern path start := by
    simp only [parseFilePattern_eq_ok_iff, ← checks_iff_legalPattern]
    refine ⟨fun h => ?_, fun h => ?_⟩
    · obtain ⟨_, start, starLed, hchecks, -⟩ := h
      exact ⟨start, starLed, hchecks⟩
    · obtain ⟨start, starLed, hchecks⟩ := h
      exact ⟨_, start, starLed, hchecks, rfl⟩
  rw [hlegal, LegalPath, isWildcardPattern, List.contains_iff_mem]

theorem validateFilePatternArray_checks (key : Bytes) (paths : List Bytes) :
    Checks (validateFilePatternArray key paths) (∀ path ∈ paths, LegalPath path) () := by
  refine Checks.forM fun path _ => ?_
  rw [legalPath_iff]
  cases isWildcardPattern path with
  | false => exact (Checks.ok ()).iff (by simp)
  | true =>
    rw [if_neg (by decide)]
    cases parseFilePattern path with
    | error why => exact Checks.error _ (by simp) _
    | ok parsed => exact (Checks.ok ()).iff (by simp)

theorem validateExecCmdArray_checks (key : Bytes) (cmds : List Bytes) :
    Checks (validateExecCmdArray key cmds) (∀ cmd ∈ cmds, slash ∉ cmd) () := by
  refine Checks.forM fun cmd _ => ?_
  refine (Checks.guard _ fun _ => Checks.ok ()).iff ?_
  rw [and_true, isExecCmdPathful, List.contains_iff_mem]

theorem parseFileOperationControl_checks (item : Json) (group : PolicyRuleGroup)
    (hgroup : group.fileRules = {}) :
    Checks (parseFileOperationControl item group)
      (∀ file, item.getObjectItem (bytes "File") = some file → LegalFile file)
      (withFile item group) := by
  unfold parseFileOperationControl withFile
  cases item.getObjectItem (bytes "File") with
  | none => exact (Checks.ok group).iff (by simp)
  | some file =>
    rw [hgroup]
    refine Checks.iff (Checks.guard _ fun _ =>
      (parseOptionalDefaultAction_checks file (bytes "File.DefaultAction")).bind fun _ =>
        (parseOperationArrayFields_checks fileArrayFields validateFilePatternArray_checks _).map
          fun fileRules => { group with hasFile := true, fileRules }) ?_
    simp only [Option.some.injEq, forall_eq', Bool.not_eq_false]
    exact ⟨fun h => ⟨h.1, h.2.1, by simpa [fileArrayFields] using h.2.2⟩,
      fun h => ⟨h.object, h.defaultAction, by simpa [fileArrayFields] using h.paths⟩⟩

theorem parseProcessOperationControl_checks (item : Json) (group : PolicyRuleGroup)
    (hgroup : group.processRules = {}) :
    Checks (parseProcessOperationControl item group)
      (∀ process, item.getObjectItem (bytes "Process") = some process → LegalProcess process)
      (withProcess item group) := by
  unfold parseProcessOperationControl withProcess
  cases item.getObjectItem (bytes "Process") with
  | none => exact (Checks.ok group).iff (by simp)
  | some process =>
    rw [hgroup]
    refine Checks.iff (Checks.guard _ fun _ =>
      (parseOptionalDefaultAction_checks process (bytes "Process.DefaultAction")).bind fun _ =>
        (parseOperationArrayFields_checks processArrayFields validateExecCmdArray_checks _).map
          fun processRules => { group with hasProcess := true, processRules }) ?_
    simp only [Option.some.injEq, forall_eq', Bool.not_eq_false]
    exact ⟨fun h => ⟨h.1, h.2.1, by simpa [processArrayFields] using h.2.2⟩,
      fun h => ⟨h.object, h.defaultAction, by simpa [processArrayFields] using h.commands⟩⟩

/-! ### Groups -/

theorem enforcePhaseRules_checks (phase : PolicyParsePhase) (group : PolicyRuleGroup) :
    Checks (enforcePhaseRules phase group) (group.hasNetwork = true → phase = .STARTUP) () := by
  refine (Checks.guard _ fun _ => Checks.ok ()).iff ?_
  cases phase <;> simp

/-- The modules of a group fill it one after another. -/
theorem withModules_eq (item : Json) :
    withProcess item (withFile item (withNetwork item {})) = ruleGroupOf item := by
  unfold withProcess withFile withNetwork ruleGroupOf
  cases item.getObjectItem (bytes "Network") <;> cases item.getObjectItem (bytes "File") <;>
    cases item.getObjectItem (bytes "Process") <;> rfl

theorem parseOperationControlRuleGroupItem_checks (phase : PolicyParsePhase) (item : Json)
    (hobject : item.isObject = true) :
    Checks (parseOperationControlRuleGroupItem phase item) (LegalGroup phase item)
      (ruleGroupOf item) := by
  have hfile : (withNetwork item {}).fileRules = {} := by
    unfold withNetwork
    cases item.getObjectItem (bytes "Network") <;> rfl
  have hprocess : (withFile item (withNetwork item {})).processRules = {} := by
    unfold withFile withNetwork
    cases item.getObjectItem (bytes "Network") <;> cases item.getObjectItem (bytes "File") <;> rfl
  have h : Checks (parseOperationControlRuleGroupItem phase item) _
      (withProcess item (withFile item (withNetwork item {}))) :=
    (parseOperationControlScope_checks item).bind fun _ =>
      (parseNetworkOperationControl_checks item {}).bind fun _ =>
        (parseFileOperationControl_checks item _ hfile).bind fun _ =>
          (parseProcessOperationControl_checks item _ hprocess).bind fun _ =>
            (enforcePhaseRules_checks phase _).map fun _ => _
  rw [withModules_eq] at h
  refine h.iff ⟨fun h => ?_, fun h => ⟨h.scope, fun network hnetwork => (h.network network hnetwork).1,
    h.file, h.process, fun hnetwork => ?_⟩⟩
  · obtain ⟨hscope, hnetwork, hfile, hprocess, hphase⟩ := h
    refine ⟨hobject, hscope, fun network h => ⟨hnetwork network h, hphase ?_⟩, hfile, hprocess⟩
    rw [ruleGroupOf, h, Option.isSome_some]
  · obtain ⟨network, h'⟩ := Option.isSome_iff_exists.mp hnetwork
    exact (h.network network h').2

@[simp] theorem ruleGroupOf_scope (item : Json) : (ruleGroupOf item).scope = {} := rfl

/-- The first group is taken, and a second one is refused: both are of one scope. -/
theorem parseNextRuleGroup_checks (phase : PolicyParsePhase) (item : Json)
    (ruleGroups : List PolicyRuleGroup) (h : ∀ group ∈ ruleGroups, group.scope = {}) :
    Checks (parseNextRuleGroup phase ruleGroups item) (LegalGroup phase item ∧ ruleGroups = [])
      [ruleGroupOf item] := by
  have hany : (ruleGroups.any (fun pushed => pushed.scope.type == (ruleGroupOf item).scope.type) = true)
      ↔ ruleGroups ≠ [] := by
    rw [List.any_eq_true]
    refine ⟨fun hex hnil => ?_, fun hne => ?_⟩
    · obtain ⟨group, hmem, -⟩ := hex
      rw [hnil] at hmem
      exact List.not_mem_nil hmem
    · obtain ⟨group, hmem⟩ := List.exists_mem_of_ne_nil _ hne
      exact ⟨group, hmem, by rw [h group hmem]; rfl⟩
  have hpushed : Checks (parseNextRuleGroup phase ruleGroups item)
      (¬ item.isObject = false ∧ LegalGroup phase item ∧ ruleGroups = [])
      (ruleGroups ++ [ruleGroupOf item]) := by
    refine Checks.guard _ fun hobject => ?_
    refine (parseOperationControlRuleGroupItem_checks phase item (by simpa using hobject)).bind fun _ => ?_
    refine (Checks.guard _ fun _ => Checks.ok _).iff ?_
    rw [hany, and_true, not_not]
  refine (hpushed.means fun hl => ?_).iff ?_
  · rw [hl.2.2, List.nil_append]
  · refine ⟨And.right, fun hl => ⟨?_, hl⟩⟩
    rw [hl.1.object]
    decide

theorem ruleGroupLoop_checks (phase : PolicyParsePhase) (items : List Json) :
    Checks (items.foldlM (parseNextRuleGroup phase) [])
      (items.length ≤ 1 ∧ ∀ item ∈ items, LegalGroup phase item) (items.map ruleGroupOf) := by
  match items with
  | [] => exact (Checks.ok []).iff (by simp)
  | [item] =>
    have h := (parseNextRuleGroup_checks phase item [] (List.forall_mem_nil _)).map id
    exact h.iff (by simp)
  | first :: second :: rest =>
    -- the second round is refused, whatever stands in the group
    have hfirst := parseNextRuleGroup_checks phase first [] (List.forall_mem_nil _)
    have hsecond := parseNextRuleGroup_checks phase second [ruleGroupOf first] (by simp)
    have hrefused : Checks ((second :: rest).foldlM (parseNextRuleGroup phase) [ruleGroupOf first])
        False ((first :: second :: rest).map ruleGroupOf) :=
      (hsecond.bind fun h => absurd h.2 (List.cons_ne_nil _ _)).iff
        (and_iff_right_of_imp False.elim |>.trans (by simp))
    exact (hfirst.bind fun _ => hrefused).iff (by simp)

theorem parseOperationControlRuleGroups_checks (phase : PolicyParsePhase) (policy : Json) :
    Checks (parseOperationControlRuleGroups phase policy) (LegalRuleGroups phase policy)
      (ruleGroupsOf policy) := by
  unfold parseOperationControlRuleGroups LegalRuleGroups ruleGroupsOf
  cases policy.getObjectItem ruleGroupsKey with
  | none => exact (Checks.ok []).iff (by simp)
  | some item =>
    cases item with
    | array items => exact (ruleGroupLoop_checks phase items).iff (by simp)
    | _ => exact Checks.error _ (by simp) _

/-- **A policy is accepted exactly where it is legal, and read as it is written.** -/
theorem parseOperationControlRuleGroups_eq_ok_iff (phase : PolicyParsePhase) (policy : Json)
    (groups : List PolicyRuleGroup) :
    parseOperationControlRuleGroups phase policy = .ok groups ↔
      LegalRuleGroups phase policy ∧ ruleGroupsOf policy = groups :=
  (parseOperationControlRuleGroups_checks phase policy).eq_ok_iff groups

end SandboxManager.Claw
