import SandboxManager.Claw.ActionConflicts
import SandboxManager.Claw.JsonDepth
import SandboxManager.Claw.Receive
import SandboxManager.Library.Checked

/-! Rule groups, as a policy text gives them (`ParseStringField` to
`ParseOperationControlRuleGroups`, `sandbox_op_control_parser.cpp`, and `ParseOperationControlPolicy`,
`sandbox_cmd_parser.cpp`).

Parsing stops at the first field that is not as it should be, with one line on the error stream;
that line is what a step that fails answers here. A policy of the start and a policy for a sandbox
that is running are parsed alike but for `EnforcePhaseRules`. -/
namespace SandboxManager.Claw
open Library

inductive PolicyParsePhase where
  | STARTUP
  | DYNAMIC
deriving DecidableEq, Repr

def scopeTypeMap : List (Bytes × PolicyScopeType) :=
  [(bytes "global", .GLOBAL), (bytes "specific_user", .SPECIFIC_USER),
    (bytes "specific_app", .SPECIFIC_APP), (bytes "self_app", .SELF_APP),
    (bytes "specific_task", .SPECIFIC_TASK), (bytes "self_task", .SELF_TASK),
    (bytes "self_session", .SELF_SESSION)]

def actionMap : List (Bytes × PolicyAction) :=
  [(bytes "allow", .ALLOW), (bytes "deny", .DENY), (bytes "ask", .ASK), (bytes "none", .NONE)]

/-- A line about a field. -/
def fieldError (key what : Bytes) : Bytes := bytes "Error: Config field '" ++ key ++ bytes "'" ++ what

/-! ### Fields -/

def parseStringField (root : Json) (key : Bytes) : Except Bytes Bytes :=
  match Json.stringOf (root.getObjectItem key) with
  | none => .error (fieldError key (bytes " missing or not a string"))
  | some valuestring => .ok valuestring

/-- Nothing is found where the field is absent. -/
def parseOptionalStringField (root : Json) (key : Bytes) : Except Bytes (Option Bytes) :=
  match root.getObjectItem key with
  | none => .ok none
  | some item =>
    match Json.stringOf (some item) with
    | none => .error (fieldError key (bytes " missing or not a string"))
    | some valuestring => .ok (some valuestring)

abbrev ArrayFieldValidator := Bytes → List Bytes → Except Bytes Unit

def parseOptionalStringArrayField (root : Json) (key : Bytes) (validate : ArrayFieldValidator) :
    Except Bytes (List Bytes) :=
  match root.getObjectItem key with
  | none => .ok []
  | some (.array items) => do
    let out ← items.mapM fun item =>
      match Json.stringOf (some item) with
      | none => .error (fieldError key (bytes " contains non-string item"))
      | some valuestring => .ok valuestring
    let _ ← validate key out
    .ok out
  | some _ => .error (fieldError key (bytes " type mismatch: expected array"))

/-- Without the field the action stays what it was. -/
def parseOptionalDefaultAction (obj : Json) (fieldLabel : Bytes) (action : PolicyAction) :
    Except Bytes PolicyAction := do
  match ← parseOptionalStringField obj (bytes "DefaultAction") with
  | none => .ok action
  | some actionStr =>
    match actionMap.lookup actionStr with
    | none => .error (fieldError fieldLabel (bytes " has invalid value: " ++ actionStr))
    | some found => .ok found

/-- One field of a module: its key, and where its texts go. -/
structure OperationArrayField (σ : Type) where
  key : Bytes
  fill : List Bytes → σ → σ

def parseOperationArrayFields {σ : Type} (obj : Json) (fields : List (OperationArrayField σ))
    (validate : ArrayFieldValidator) (rules : σ) : Except Bytes σ :=
  fields.foldlM (fun rules field =>
    parseOptionalStringArrayField obj field.key validate >>= fun values =>
      .ok (field.fill values rules)) rules

/-! ### Scope -/

def parseOperationControlScopeType (scopeObj : Json) : Except Bytes PolicyScopeType := do
  let typeStr ← parseStringField scopeObj (bytes "Type")
  match scopeTypeMap.lookup typeStr with
  | none => .error (fieldError (bytes "Scope.Type") (bytes " has invalid value: " ++ typeStr))
  | some type =>
    if type ≠ .SELF_SESSION then
      .error (fieldError (bytes "Scope.Type") (bytes " value '" ++ typeStr ++
        bytes "' is not supported this version (only self_session)"))
    else .ok type

def parseOperationControlScope (ruleGroupItem : Json) : Except Bytes PolicyScope :=
  match ruleGroupItem.getObjectItem (bytes "Scope") with
  | some (.object members) => do
    let type ← parseOperationControlScopeType (.object members)
    .ok { type }
  | _ => .error (fieldError (bytes "Scope") (bytes " missing or not an object"))

/-! ### Modules -/

def parseNetworkOperationControl (ruleGroupItem : Json) (ruleGroup : PolicyRuleGroup) :
    Except Bytes PolicyRuleGroup :=
  match ruleGroupItem.getObjectItem (bytes "Network") with
  | none => .ok ruleGroup
  | some networkObj =>
    if networkObj.isObject = false then
      .error (fieldError (bytes "Network") (bytes " not an object"))
    else do
      let actionStr ← parseStringField networkObj (bytes "DefaultAction")
      match actionMap.lookup actionStr with
      | some .DENY => .ok { ruleGroup with hasNetwork := true, networkRules := { defaultAction := .DENY } }
      | some .ALLOW => .ok { ruleGroup with hasNetwork := true, networkRules := { defaultAction := .ALLOW } }
      | _ =>
        .error (fieldError (bytes "Network.DefaultAction")
          (bytes " must be \"deny\" or \"allow\": " ++ actionStr))

/-- A path without a star is left alone. -/
def validateFilePatternArray : ArrayFieldValidator := fun key paths =>
  forM paths fun path =>
    if isWildcardPattern path = false then .ok ()
    else
      match parseFilePattern path with
      | .ok _ => .ok ()
      | .error why =>
        .error (fieldError key (bytes " item '" ++ path ++
          bytes "' is not a legal wildcard pattern: " ++ why))

def fileArrayFields : List (OperationArrayField PolicyFileConfig) :=
  [⟨bytes "DenyReadData", fun values rules => { rules with denyReadData := values }⟩,
    ⟨bytes "AllowReadData", fun values rules => { rules with allowReadData := values }⟩,
    ⟨bytes "AskReadData", fun values rules => { rules with askReadData := values }⟩,
    ⟨bytes "DenyWriteData", fun values rules => { rules with denyWriteData := values }⟩,
    ⟨bytes "AllowWriteData", fun values rules => { rules with allowWriteData := values }⟩,
    ⟨bytes "AskWriteData", fun values rules => { rules with askWriteData := values }⟩,
    ⟨bytes "DenyDelete", fun values rules => { rules with denyDelete := values }⟩,
    ⟨bytes "AllowDelete", fun values rules => { rules with allowDelete := values }⟩,
    ⟨bytes "AskDelete", fun values rules => { rules with askDelete := values }⟩]

def parseFileOperationControl (ruleGroupItem : Json) (ruleGroup : PolicyRuleGroup) :
    Except Bytes PolicyRuleGroup :=
  match ruleGroupItem.getObjectItem (bytes "File") with
  | none => .ok ruleGroup
  | some fileObj =>
    if fileObj.isObject = false then .error (fieldError (bytes "File") (bytes " not an object"))
    else do
      let action ← parseOptionalDefaultAction fileObj (bytes "File.DefaultAction")
        ruleGroup.fileRules.defaultAction
      let fileRules ← parseOperationArrayFields fileObj fileArrayFields validateFilePatternArray
        { ruleGroup.fileRules with defaultAction := action }
      .ok { ruleGroup with hasFile := true, fileRules }

def isExecCmdPathful (cmd : Bytes) : Bool := cmd.contains slash

def validateExecCmdArray : ArrayFieldValidator := fun key cmds =>
  forM cmds fun cmd =>
    if isExecCmdPathful cmd = true then
      .error (fieldError key (bytes " item '" ++ cmd ++
        bytes "' must be a bare command name (no '/' allowed)"))
    else .ok ()

def processArrayFields : List (OperationArrayField PolicyProcessConfig) :=
  [⟨bytes "DenyExecCmd", fun values rules => { rules with denyExecCmd := values }⟩,
    ⟨bytes "AllowExecCmd", fun values rules => { rules with allowExecCmd := values }⟩,
    ⟨bytes "AskExecCmd", fun values rules => { rules with askExecCmd := values }⟩]

def parseProcessOperationControl (ruleGroupItem : Json) (ruleGroup : PolicyRuleGroup) :
    Except Bytes PolicyRuleGroup :=
  match ruleGroupItem.getObjectItem (bytes "Process") with
  | none => .ok ruleGroup
  | some processObj =>
    if processObj.isObject = false then
      .error (fieldError (bytes "Process") (bytes " not an object"))
    else do
      let action ← parseOptionalDefaultAction processObj (bytes "Process.DefaultAction")
        ruleGroup.processRules.defaultAction
      let processRules ← parseOperationArrayFields processObj processArrayFields validateExecCmdArray
        { ruleGroup.processRules with defaultAction := action }
      .ok { ruleGroup with hasProcess := true, processRules }

/-! ### Groups -/

def enforcePhaseRules (phase : PolicyParsePhase) (ruleGroup : PolicyRuleGroup) : Except Bytes Unit :=
  if phase = .DYNAMIC ∧ ruleGroup.hasNetwork = true then
    .error (bytes "Error: a dynamic policy must not include a Network module")
  else .ok ()

def parseOperationControlRuleGroupItem (phase : PolicyParsePhase) (item : Json) :
    Except Bytes PolicyRuleGroup := do
  let scope ← parseOperationControlScope item
  let ruleGroup ← parseNetworkOperationControl item { scope }
  let ruleGroup ← parseFileOperationControl item ruleGroup
  let ruleGroup ← parseProcessOperationControl item ruleGroup
  let _ ← enforcePhaseRules phase ruleGroup
  .ok ruleGroup

def ruleGroupsKey : Bytes := bytes "AddOperationControlRuleGroups"

/-- One round of the loop over the groups. -/
def parseNextRuleGroup (phase : PolicyParsePhase) (ruleGroups : List PolicyRuleGroup) (item : Json) :
    Except Bytes (List PolicyRuleGroup) :=
  if item.isObject = false then .error (fieldError ruleGroupsKey (bytes " should contain objects"))
  else do
    let ruleGroup ← parseOperationControlRuleGroupItem phase item
    if ruleGroups.any (fun pushed => pushed.scope.type == ruleGroup.scope.type) = true then
      .error (fieldError ruleGroupsKey (bytes " has duplicate Scope.Type"))
    else .ok (ruleGroups ++ [ruleGroup])

def parseOperationControlRuleGroups (phase : PolicyParsePhase) (policyObj : Json) :
    Except Bytes (List PolicyRuleGroup) :=
  match policyObj.getObjectItem ruleGroupsKey with
  | none => .ok []
  | some (.array items) => items.foldlM (parseNextRuleGroup phase) []
  | some _ => .error (fieldError ruleGroupsKey (bytes " type mismatch: expected array"))

/-- `ParseOperationControlPolicy`: the text of a policy for a sandbox that is running. The groups
that were there are replaced when all of it is accepted, and stay otherwise. -/
def parseOperationControlPolicy (cJSON_Parse : Bytes → Option Json) (jsonStr : Bytes)
    (ruleGroups : List PolicyRuleGroup) : SandboxError × List PolicyRuleGroup :=
  if MAX_POLICY_JSON_LENGTH < jsonStr.length then (.ERR_CONFIG_INVALID, ruleGroups)
  else if JsonDepth.checkJsonDepth jsonStr ≠ .SUCCESS then
    (JsonDepth.checkJsonDepth jsonStr, ruleGroups)
  else
    match cJSON_Parse (cStr jsonStr) with
    | some (.object members) =>
      match parseOperationControlRuleGroups .DYNAMIC (.object members) with
      | .ok parsedRuleGroups => (.SUCCESS, parsedRuleGroups)
      | .error _ => (.ERR_CONFIG_INVALID, ruleGroups)
    | _ => (.ERR_CONFIG_INVALID, ruleGroups)

end SandboxManager.Claw
