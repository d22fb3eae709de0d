import SandboxManager.Claw.AppIdentifier
import SandboxManager.Claw.Environment
import SandboxManager.Claw.MountPhase
import SandboxManager.Claw.RuleGroupParser

/-! The configuration of a sandbox (`ParseConfig`, `sandbox_cmd_parser.cpp`).

The text is measured, parsed and read field by field; the first field that does not fit refuses
it. `env` and `policy` may stand as objects or as texts that hold an object, and the limits are
put to the text either way. What the library and the device answer is an argument, and so is
`CONFIG_SHELL_SANDBOX`. -/
namespace SandboxManager.Claw
open MountPhase (CLONE_NEWPID)

def MAX_NAME_LENGTH : Nat := 64
def MAX_CLI_NAME_LENGTH : Nat := 256
def MAX_SUB_CLI_NAME_LENGTH : Nat := 256
def MAX_CHALLENGE_LENGTH : Nat := 40960
def MAX_APP_IDENTIFIER_LENGTH : Nat := 64
def MAX_SUBJECT_ID_LENGTH : Nat := 4096
def MAX_BUNDLE_NAME_LENGTH : Nat := 256
def MAX_WORKDIR_LENGTH : Nat := 1024
def MAX_ENV_LENGTH : Nat := 10240
def MAX_TYPE_LENGTH : Nat := 10
def MAX_NS_FLAGS_COUNT : Nat := 10
def MAX_NS_FLAG_STRING_LENGTH : Nat := 24

def DOUBLE_SAFE_MAX : Rat := 9007199254740992
def UINT32_MAX_VALUE : Rat := 4294967295
def INT32_MIN : Rat := -2147483648
def INT32_MAX : Rat := 2147483647

def CLONE_NEWNS : UInt32 := 0x00020000
def CLONE_NEWUTS : UInt32 := 0x04000000
def CLONE_NEWIPC : UInt32 := 0x08000000
def CLONE_NEWUSER : UInt32 := 0x10000000
def CLONE_NEWNET : UInt32 := 0x40000000
def DEFAULT_NS_FLAGS : UInt32 := CLONE_NEWNS

structure SandboxConfig where
  callerTokenId : UInt64 := 0
  callerPid : Int32 := 0
  uid : UInt32 := 0
  gid : UInt32 := 0
  challenge : Bytes := []
  appIdentifier : Bytes := []
  appIdentifierU64 : UInt64 := 0
  subjectId : Bytes := []
  bundleName : Bytes := []
  currentUserId : Bytes := []
  name : Bytes := []
  workdir : Bytes := []
  env : EnvMap Bytes := Library.KeyedTable.empty
  mounts : List PolicyMount := []
  addOperationControlRuleGroups : List PolicyRuleGroup := []
  nsFlags : UInt32 := 0
  type : Bytes := []
  cliName : Bytes := []
  subCliName : Bytes := []
  tokenIdEx : UInt64 := 0

/-- What the parser relies on. A number of JSON is a `double`, and nothing where it is infinite;
`isPcMode` is the parameter of the device, true where it is not set. -/
structure ConfigSources where
  cJSON_Parse : Bytes → Option Json
  cJSON_PrintUnformatted : Json → Option Bytes
  valuedouble : Bytes → Option Rat
  shellSandbox : Bool
  isPcMode : Bool

section
variable (X : ConfigSources) (root : Json)

/-! ### Fields -/

/-- A number between two bounds. -/
def numberField (key : Bytes) (least most : Rat) : Except SandboxError Rat :=
  match root.getObjectItem key with
  | some (.number literal) =>
    match X.valuedouble literal with
    | none => .error .ERR_CONFIG_INVALID
    | some d => if least ≤ d ∧ d ≤ most then .ok d else .error .ERR_CONFIG_INVALID
  | _ => .error .ERR_CONFIG_INVALID

/-- A conversion to an integer drops the fraction. -/
def truncated (d : Rat) : Int := if d < 0 then d.ceil else d.floor

def parseUint64Field (key : Bytes) : Except SandboxError UInt64 := do
  let d ← numberField X root key 0 DOUBLE_SAFE_MAX
  .ok (UInt64.ofInt (truncated d))

def parseUint32Field (key : Bytes) : Except SandboxError UInt32 := do
  let d ← numberField X root key 0 UINT32_MAX_VALUE
  .ok (UInt32.ofInt (truncated d))

def parseInt32Field (key : Bytes) : Except SandboxError Int32 := do
  let d ← numberField X root key INT32_MIN INT32_MAX
  .ok (Int32.ofInt (truncated d))

def parseStringFieldWithMaxLen (key : Bytes) (maxLen : Nat) : Except SandboxError Bytes :=
  match Json.stringOf (root.getObjectItem key) with
  | none => .error .ERR_CONFIG_INVALID
  | some val => if maxLen < val.length then .error .ERR_CONFIG_INVALID else .ok val

/-- What is not there leaves the field as it is. -/
def parseOptionalStringFieldWithMaxLen (key out : Bytes) (maxLen : Nat) : Except SandboxError Bytes :=
  match root.getObjectItem key with
  | none => .ok out
  | some item =>
    match Json.stringOf (some item) with
    | none => .error .ERR_CONFIG_INVALID
    | some val => if maxLen < val.length then .error .ERR_CONFIG_INVALID else .ok val

def parseTypeField : Except SandboxError Bytes :=
  match root.getObjectItem (bytes "type") with
  | none => .ok (bytes "cli")
  | some _ => parseStringFieldWithMaxLen root (bytes "type") MAX_TYPE_LENGTH

def isxdigit (c : UInt8) : Bool :=
  (48 ≤ c && c ≤ 57) || (97 ≤ c && c ≤ 102) || (65 ≤ c && c ≤ 70)

def parseNameField (out : Bytes) : Except SandboxError Bytes :=
  match root.getObjectItem (bytes "name") with
  | none => .ok out
  | some item =>
    match Json.stringOf (some item) with
    | none => .error .ERR_CONFIG_INVALID
    | some nameVal =>
      if MAX_NAME_LENGTH < nameVal.length then .error .ERR_CONFIG_INVALID
      else if ¬ nameVal.all isxdigit then .error .ERR_CONFIG_INVALID
      else .ok nameVal

/-- The text, and the number that it is if it is there. -/
def parseAppIdentifier : Except SandboxError (Bytes × UInt64) := do
  let appIdentifier ←
    parseStringFieldWithMaxLen root (bytes "appIdentifier") MAX_APP_IDENTIFIER_LENGTH
  if appIdentifier = [] then .ok (appIdentifier, 0)
  else
    match AppIdentifier.parseU64Strict appIdentifier with
    | none => .error .ERR_CONFIG_INVALID
    | some value => .ok (appIdentifier, UInt64.ofNat value)

def checkShellTypeAllowed : Except SandboxError Unit :=
  if X.shellSandbox && X.isPcMode then .ok () else .error .ERR_CONFIG_INVALID

/-- The type with the two names that go with it. -/
def parseTypeAndNames : Except SandboxError (Bytes × Bytes × Bytes) := do
  let type ← parseTypeField root
  if type = bytes "cli" then
    let cliName ← parseStringFieldWithMaxLen root (bytes "cliName") MAX_CLI_NAME_LENGTH
    let subCliName ← parseStringFieldWithMaxLen root (bytes "subCliName") MAX_SUB_CLI_NAME_LENGTH
    .ok (type, cliName, subCliName)
  else if type = bytes "shell" then
    let _ ← checkShellTypeAllowed X
    .ok (type, [], [])
  else .error .ERR_CONFIG_INVALID

/-! ### Objects, and texts that hold one -/

def validateJsonConstraints (jsonStr : Bytes) (maxLen : Nat) : Except SandboxError Unit :=
  if maxLen < jsonStr.length then .error .ERR_CONFIG_INVALID
  else if JsonDepth.checkJsonDepth jsonStr ≠ .SUCCESS then
    .error (JsonDepth.checkJsonDepth jsonStr)
  else .ok ()

/-- The object, if there is one. An object is measured as it is printed, and one that could not
be printed as the empty text. -/
def getOptionalObjectField (key : Bytes) (maxLen : Nat) : Except SandboxError (Option Json) :=
  match root.getObjectItem key with
  | none => .ok none
  | some (.object members) => do
    let printed := (X.cJSON_PrintUnformatted (.object members)).getD []
    let _ ← validateJsonConstraints printed maxLen
    .ok (some (.object members))
  | some (.string valuestring) =>
    let objectStr := cStr valuestring
    if objectStr = [] then .ok none
    else do
      let _ ← validateJsonConstraints objectStr maxLen
      match X.cJSON_Parse objectStr with
      | some (.object members) => .ok (some (.object members))
      | _ => .error .ERR_CONFIG_INVALID
  | some _ => .error .ERR_CONFIG_INVALID

def membersOf : Json → List (Bytes × Json)
  | .object members => members
  | _ => []

def parseEnvField (out : EnvMap Bytes) : Except SandboxError (EnvMap Bytes) := do
  match ← getOptionalObjectField X root (bytes "env") MAX_ENV_LENGTH with
  | none => .ok out
  | some item => parseEnvItems (membersOf item) out

/-- The groups of a configuration; where shells are not built in they are not looked at. -/
def parseStartupRuleGroups (item : Json) : Except SandboxError (List PolicyRuleGroup) :=
  if X.shellSandbox then
    match parseOperationControlRuleGroups .STARTUP item with
    | .ok ruleGroups => .ok ruleGroups
    | .error _ => .error .ERR_CONFIG_INVALID
  else .ok []

def parsePolicyField : Except SandboxError (List PolicyMount × List PolicyRuleGroup) := do
  match ← getOptionalObjectField X root (bytes "policy") MAX_POLICY_JSON_LENGTH with
  | none => .ok ([], [])
  | some item =>
    let mounts ← parsePolicyMounts item
    let ruleGroups ← parseStartupRuleGroups X item
    .ok (mounts, ruleGroups)

/-! ### Namespaces -/

def nsFlag (flag : Bytes) : Option UInt32 :=
  if flag = bytes "mnt" then some CLONE_NEWNS
  else if flag = bytes "net" then some CLONE_NEWNET
  else if flag = bytes "uts" then some CLONE_NEWUTS
  else if flag = bytes "ipc" then some CLONE_NEWIPC
  else if flag = bytes "pid" then some CLONE_NEWPID
  else if flag = bytes "user" then some CLONE_NEWUSER
  else none

def convertNsFlags (nsFlags : List Bytes) : Except SandboxError UInt32 :=
  nsFlags.foldlM (fun parsed flag =>
    match nsFlag flag with
    | none => .error .ERR_CONFIG_INVALID
    | some bit => .ok (parsed ||| bit)) DEFAULT_NS_FLAGS

def parseNsFlagItem (flagItem : Json) : Except SandboxError Bytes :=
  match Json.stringOf (some flagItem) with
  | none => .error .ERR_CONFIG_INVALID
  | some flagVal =>
    if MAX_NS_FLAG_STRING_LENGTH < flagVal.length then .error .ERR_CONFIG_INVALID else .ok flagVal

def parseNsFlagsField : Except SandboxError UInt32 :=
  match root.getObjectItem (bytes "nsFlags") with
  | none => .ok DEFAULT_NS_FLAGS
  | some (.array items) =>
    if MAX_NS_FLAGS_COUNT < items.length then .error .ERR_CONFIG_INVALID
    else do
      let flags ← items.mapM parseNsFlagItem
      convertNsFlags flags
  | some _ => .error .ERR_CONFIG_INVALID

/-! ### The configuration -/

/-- `parseSteps`, by the field that each is for. -/
inductive ConfigStep where
  | callerTokenId | callerPid | uid | gid | challenge | appIdentifier | bundleName | type | name
  | workdir | subjectId | env | policy | nsFlags
deriving DecidableEq

def ConfigStep.parse (config : SandboxConfig) : ConfigStep → Except SandboxError SandboxConfig
  | callerTokenId => do
    .ok { config with callerTokenId := ← parseUint64Field X root (bytes "callerTokenId") }
  | callerPid => do .ok { config with callerPid := ← parseInt32Field X root (bytes "callerPid") }
  | uid => do .ok { config with uid := ← parseUint32Field X root (bytes "uid") }
  | gid => do .ok { config with gid := ← parseUint32Field X root (bytes "gid") }
  | challenge => do
    let challenge ← parseOptionalStringFieldWithMaxLen root (bytes "challenge") config.challenge
      MAX_CHALLENGE_LENGTH
    .ok { config with challenge }
  | appIdentifier => do
    let parsed ← parseAppIdentifier root
    .ok { config with appIdentifier := parsed.1, appIdentifierU64 := parsed.2 }
  | bundleName => do
    let bundleName ← parseStringFieldWithMaxLen root (bytes "bundleName") MAX_BUNDLE_NAME_LENGTH
    .ok { config with bundleName }
  | type => do
    let parsed ← parseTypeAndNames X root
    .ok { config with type := parsed.1, cliName := parsed.2.1, subCliName := parsed.2.2 }
  | name => do .ok { config with name := ← parseNameField root config.name }
  | workdir => do
    let workdir ← parseOptionalStringFieldWithMaxLen root (bytes "workdir") config.workdir
      MAX_WORKDIR_LENGTH
    .ok { config with workdir }
  | subjectId => do
    let subjectId ← parseOptionalStringFieldWithMaxLen root (bytes "subjectId") config.subjectId
      MAX_SUBJECT_ID_LENGTH
    .ok { config with subjectId }
  | env => do .ok { config with env := ← parseEnvField X root config.env }
  | policy => do
    let parsed ← parsePolicyField X root
    .ok { config with mounts := parsed.1, addOperationControlRuleGroups := parsed.2 }
  | nsFlags => do .ok { config with nsFlags := ← parseNsFlagsField root }

def parseSteps : List ConfigStep :=
  [.callerTokenId, .callerPid, .uid, .gid, .challenge, .appIdentifier, .bundleName, .type, .name,
    .workdir, .subjectId, .env, .policy, .nsFlags]

end

def parseConfig (X : ConfigSources) (jsonStr : Bytes) : Except SandboxError SandboxConfig :=
  if JsonDepth.checkJsonDepth jsonStr ≠ .SUCCESS then .error (JsonDepth.checkJsonDepth jsonStr)
  else
    match X.cJSON_Parse (cStr jsonStr) with
    | none => .error .ERR_CONFIG_INVALID
    | some root => parseSteps.foldlM (fun config step => step.parse X root config) {}

end SandboxManager.Claw
