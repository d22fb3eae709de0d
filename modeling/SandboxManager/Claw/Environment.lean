import Mathlib.Data.List.Sort
import SandboxManager.Claw.Response
import SandboxManager.Library.KeyedTable

/-! The environment of the sandboxed command (`SanitizeInheritedEnv` to `ApplyEnvironment`,
`ExtractMonitorSocketPath` and the policy parser, `sandbox_manager.cpp`,
`sandbox_config_parser.cpp`, `sandbox_credential.cpp`).

The environment is built in a map: what is inherited goes in first, then the presets, then
what the caller asks for; the map replaces the process environment, and the tool credentials
of a shell sandbox are set on top. Names of the policy are kept trimmed and in capitals,
names of variables as they are spelled, less the blanks around them. Every value carries
where it came from; no step reads that. `shellSandbox` is `CONFIG_SHELL_SANDBOX`. -/
namespace SandboxManager.Claw
open Library

/-! ### Names -/

/-- `std::isspace` in the "C" locale, as the next ones. -/
def isspace (c : UInt8) : Bool := c == 32 || (9 ≤ c && c ≤ 13)

def isalpha (c : UInt8) : Bool := (65 ≤ c && c ≤ 90) || (97 ≤ c && c ≤ 122)

def isalnum (c : UInt8) : Bool := isalpha c || (48 ≤ c && c ≤ 57)

def toupper (c : UInt8) : UInt8 := if 97 ≤ c ∧ c ≤ 122 then c - 32 else c

def equalsSign : UInt8 := 61
def underscore : UInt8 := 95
def colon : UInt8 := 58

def trimEnvKey (rawKey : Bytes) : Bytes :=
  ((rawKey.dropWhile isspace).reverse.dropWhile isspace).reverse

def toUpperAscii (value : Bytes) : Bytes := value.map toupper

/-- A letter or an underscore, then these, digits and what else is allowed. -/
def isEnvVarKey (allowed : UInt8 → Bool) (key : Bytes) : Bool :=
  match key with
  | [] => false
  | c :: _ =>
    (isalpha c || c == underscore) && key.all fun ch => isalnum ch || ch == underscore || allowed ch

def isPortableEnvVarKey (key : Bytes) : Bool := isEnvVarKey (fun _ => false) key

def isWindowsCompatOverrideEnvVarKey (key : Bytes) : Bool :=
  isEnvVarKey (fun ch => ch == 40 || ch == 41) key

def containsEnvKey (keys : List Bytes) (upperKey : Bytes) : Bool := keys.any (upperKey == ·)

def hasEnvPrefix (prefixes : List Bytes) (upperKey : Bytes) : Bool :=
  prefixes.any fun p => upperKey.take p.length == p

def normalizeHostOverrideEnvVarKey (rawKey : Bytes) : Option Bytes :=
  let normalizedKey := trimEnvKey rawKey
  if normalizedKey = [] then none
  else if isPortableEnvVarKey normalizedKey || isWindowsCompatOverrideEnvVarKey normalizedKey then
    some normalizedKey
  else none

def appendEnvPathValue (baseValue appendValue : Bytes) : Bytes :=
  if baseValue = [] then appendValue
  else if appendValue = [] then baseValue
  else baseValue ++ [colon] ++ appendValue

/-! ### The policy -/

structure EnvPolicy where
  blockedEverywhereKeys : List Bytes := []
  blockedOverrideOnlyKeys : List Bytes := []
  allowedInheritedOverrideOnlyKeys : List Bytes := []
  blockedPrefixes : List Bytes := []
  blockedOverridePrefixes : List Bytes := []

/-- What `TemplateFieldInvalid` reports; the code is `SANDBOX_ERR_TEMPLATE_INVALID` throughout. -/
structure TemplateError where
  field : Bytes
  expected : Bytes

/-- The field of an entry of the section. -/
def envPolicyField (fieldName : Bytes) : Bytes := bytes "env-policy." ++ fieldName

def parseEnvPolicyItems (fieldName : Bytes) (i : Nat) :
    List Json → List Bytes → Except TemplateError (List Bytes)
  | [], values => .ok values
  | .string valuestring :: items, values =>
    let value := toUpperAscii (trimEnvKey (cStr valuestring))
    parseEnvPolicyItems fieldName (i + 1) items (if value = [] then values else values ++ [value])
  | _ :: _, _ =>
    .error ⟨envPolicyField fieldName ++ bytes "[" ++ bytes (toString i) ++ bytes "]",
      bytes "a string"⟩

/-- The section is an object, as its caller has checked. -/
def parseEnvPolicyStringArray (envPolicy : Json) (fieldName : Bytes) :
    Except TemplateError (List Bytes) :=
  match envPolicy.getObjectItem fieldName with
  | none => .ok []
  | some (.array items) => parseEnvPolicyItems fieldName 0 items []
  | some _ => .error ⟨envPolicyField fieldName, bytes "an array"⟩

/-- Without the section the policy stays what it was. -/
def parseEnvPolicyJson (root : Json) (envPolicy : EnvPolicy) : Except TemplateError EnvPolicy :=
  if !root.isObject then .error ⟨bytes "<root>", bytes "an object"⟩
  else
    match root.getObjectItem (bytes "env-policy") with
    | none => .ok envPolicy
    | some envPolicyObj =>
      if !envPolicyObj.isObject then .error ⟨bytes "env-policy", bytes "an object"⟩
      else do
        let blockedEverywhereKeys ←
          parseEnvPolicyStringArray envPolicyObj (bytes "blocked-everywhere-keys")
        let blockedOverrideOnlyKeys ←
          parseEnvPolicyStringArray envPolicyObj (bytes "blocked-override-only-keys")
        let allowedInheritedOverrideOnlyKeys ←
          parseEnvPolicyStringArray envPolicyObj (bytes "allowed-inherited-override-only-keys")
        let blockedPrefixes ←
          parseEnvPolicyStringArray envPolicyObj (bytes "blocked-prefixes")
        let blockedOverridePrefixes ←
          parseEnvPolicyStringArray envPolicyObj (bytes "blocked-override-prefixes")
        return { blockedEverywhereKeys, blockedOverrideOnlyKeys, allowedInheritedOverrideOnlyKeys,
                 blockedPrefixes, blockedOverridePrefixes }

namespace EnvPolicy
variable (policy : EnvPolicy)

def isAllowedInheritedOverrideOnlyEnvKey (upperKey : Bytes) : Bool :=
  containsEnvKey policy.allowedInheritedOverrideOnlyKeys upperKey

def isDangerousHostEnvVarName (key : Bytes) : Bool :=
  let upperKey := toUpperAscii (trimEnvKey key)
  if upperKey = [] then false
  else if containsEnvKey policy.blockedEverywhereKeys upperKey then true
  else hasEnvPrefix policy.blockedPrefixes upperKey

def isDangerousHostInheritedEnvVarName (key : Bytes) : Bool :=
  let upperKey := toUpperAscii (trimEnvKey key)
  if upperKey = [] then false
  else if policy.isDangerousHostEnvVarName upperKey then true
  else if policy.isAllowedInheritedOverrideOnlyEnvKey upperKey then false
  else containsEnvKey policy.blockedOverrideOnlyKeys upperKey

def isDangerousHostEnvOverrideVarName (key : Bytes) : Bool :=
  let upperKey := toUpperAscii (trimEnvKey key)
  if upperKey = [] then false
  else if containsEnvKey policy.blockedOverrideOnlyKeys upperKey then true
  else hasEnvPrefix policy.blockedOverridePrefixes upperKey

end EnvPolicy

/-! ### Maps of variables -/

/-- `std::map<std::string, T>`. -/
abbrev EnvMap (T : Type) := KeyedTable (Prod.fst : Bytes × T → Bytes)

namespace EnvMap
variable {T : Type}

def find (env : EnvMap T) (key : Bytes) : Option T :=
  (env.rows.find? fun item => item.1 = key).map Prod.snd

def assign (env : EnvMap T) (key : Bytes) (value : T) : EnvMap T := env.insertReplace (key, value)

def erase (env : EnvMap T) (key : Bytes) : EnvMap T := env.delete fun item => item.1 = key

/-- The order of iteration. -/
def items (env : EnvMap T) : List (Bytes × T) := env.rows.insertionSort fun a b => a.1 ≤ b.1

end EnvMap

/-- Where a value came from. -/
inductive Origin where
  | inherited | preset | user | caller | marker | credential
  deriving DecidableEq

structure EnvValue where
  text : Bytes
  origin : Origin
  deriving DecidableEq

abbrev Environment := EnvMap EnvValue

/-! ### The configuration -/

/-- The `env` object of the configuration; one key may stand several times. -/
def parseEnvItems : List (Bytes × Json) → EnvMap Bytes → Except SandboxError (EnvMap Bytes)
  | [], out => .ok out
  | (string, .string valuestring) :: items, out =>
    let key := cStr string
    if key = [] ∨ equalsSign ∈ key then .error .ERR_CONFIG_INVALID
    else parseEnvItems items (out.assign key (cStr valuestring))
  | _ :: _, _ => .error .ERR_CONFIG_INVALID

structure EnvConfig where
  type : Bytes
  env : EnvMap Bytes
  currentUserId : Bytes
  subjectId : Bytes

def MONITOR_SOCKET_PATH_ENV_KEY : Bytes := bytes "SANDBOX_SOCKET_PATH"

def extractLoop : List (Bytes × Bytes) → Nat → EnvMap Bytes → Bytes →
    Except SandboxError (EnvMap Bytes × Bytes)
  | [], _, env, monitorSocketPath => .ok (env, monitorSocketPath)
  | item :: rest, found, env, monitorSocketPath =>
    if toUpperAscii (trimEnvKey item.1) ≠ MONITOR_SOCKET_PATH_ENV_KEY then
      extractLoop rest found env monitorSocketPath
    else if 1 < found + 1 then .error .ERR_CONFIG_INVALID
    else extractLoop rest (found + 1) (env.erase item.1) item.2

/-- `ExtractMonitorSocketPath`: the configuration without the path, and the path. -/
def extractMonitorSocketPath (config : EnvConfig) : Except SandboxError (EnvConfig × Bytes) :=
  if config.type ≠ bytes "shell" then .ok (config, [])
  else do
    let (env, monitorSocketPath) ← extractLoop config.env.items 0 config.env []
    return ({ config with env := env }, monitorSocketPath)

/-! ### Sanitising -/

def deleteEnvVars : List Bytes :=
  [bytes "PATH", bytes "OHOS_SOCKET_hdcd", bytes "TMP", bytes "SANDBOX_SOCKET_PATH"]

def presetEnvVars (shellSandbox : Bool) : List (Bytes × Bytes) :=
  if shellSandbox then
    [(bytes "HOME", bytes "/storage/Users/currentUser"),
     (bytes "SHELL", bytes "/bin/sh"),
     (bytes "TMPDIR", bytes "/storage/Users/currentUser"),
     (bytes "HAP_DEBUGGABLE", bytes "false"),
     (bytes "HNP_PRIVATE_HOME", bytes "/data/app"),
     (bytes "HNP_PUBLIC_HOME", bytes "/data/service/hnp"),
     (bytes "PATH", bytes "/usr/local/bin:/data/app/bin:/data/service/hnp/bin:/usr/bin:/bin:/system/bin:/system/bin/cli_tool/executable:/vendor/bin")]
  else
    [(bytes "PATH", bytes "/usr/local/bin:/usr/bin:/bin:/system/bin:/system/bin/cli_tool/executable:/vendor/bin")]

/-- One string of `environ`. -/
def inheritEntry (policy : EnvPolicy) (sanitizedEnv : Environment) (env : Bytes) : Environment :=
  let entry := cStr env
  if equalsSign ∈ entry then
    let name := entry.takeWhile (· ≠ equalsSign)
    let key := trimEnvKey name
    if key = [] then sanitizedEnv
    else if policy.isDangerousHostInheritedEnvVarName key then sanitizedEnv
    else sanitizedEnv.assign key ⟨entry.drop (name.length + 1), .inherited⟩
  else sanitizedEnv

def sanitizeInheritedEnv (policy : EnvPolicy) (environ : List Bytes) (sanitizedEnv : Environment) :
    Environment :=
  environ.foldl (inheritEntry policy) sanitizedEnv

/-- The text of a variable, nothing if there is no such variable. -/
def textOf (sanitizedEnv : Environment) (key : Bytes) : Bytes :=
  ((sanitizedEnv.find key).map EnvValue.text).getD []

def applyPreset (sanitizedEnv : Environment) (item : Bytes × Bytes) : Environment :=
  if item.1 = bytes "PATH" then
    sanitizedEnv.assign (bytes "PATH")
      ⟨appendEnvPathValue (textOf sanitizedEnv (bytes "PATH")) item.2, .preset⟩
  else sanitizedEnv.assign item.1 ⟨item.2, .preset⟩

/-- One variable of the caller. -/
def overrideEntry (policy : EnvPolicy) (sanitizedEnv : Environment) (item : Bytes × Bytes) :
    Environment :=
  match normalizeHostOverrideEnvVarKey item.1 with
  | none => sanitizedEnv
  | some normalizedKey =>
    let upperKey := toUpperAscii normalizedKey
    if upperKey = bytes "PATH" then
      sanitizedEnv.assign (bytes "PATH")
        ⟨appendEnvPathValue item.2 (textOf sanitizedEnv (bytes "PATH")), .caller⟩
    else if policy.isDangerousHostEnvVarName upperKey ||
        policy.isDangerousHostEnvOverrideVarName upperKey then sanitizedEnv
    else sanitizedEnv.assign normalizedKey ⟨item.2, .caller⟩

def sanitizeOverrideEnv (shellSandbox : Bool) (policy : EnvPolicy) (config : EnvConfig)
    (sanitizedEnv : Environment) : Environment :=
  let sanitizedEnv := deleteEnvVars.foldl EnvMap.erase sanitizedEnv
  let sanitizedEnv := (presetEnvVars shellSandbox).foldl applyPreset sanitizedEnv
  let sanitizedEnv :=
    if shellSandbox then sanitizedEnv.assign (bytes "USER") ⟨config.currentUserId, .user⟩
    else sanitizedEnv
  config.env.items.foldl (overrideEntry policy) sanitizedEnv

/-! ### The process environment -/

/-- How the calls that change it fare: whether `clearenv` succeeds, and which names
`setenv` finds memory for. -/
structure EnvCalls where
  clearenv : Bool
  memory : Bytes → Bool

def setenv (calls : EnvCalls) (environment : Environment) (name : Bytes) (value : EnvValue) :
    Option Environment :=
  let name := cStr name
  if name = [] ∨ equalsSign ∈ name then none
  else if calls.memory name then
    some (environment.assign name { value with text := cStr value.text })
  else none

def setAll (calls : EnvCalls) : List (Bytes × EnvValue) → Environment →
    Except SandboxError Environment
  | [], environment => .ok environment
  | item :: rest, environment =>
    match setenv calls environment item.1 item.2 with
    | none => .error .ERR_GENERIC
    | some environment => setAll calls rest environment

def applySanitizedEnv (calls : EnvCalls) (sanitizedEnv : Environment) :
    Except SandboxError Environment :=
  if !calls.clearenv then .error .ERR_GENERIC
  else setAll calls sanitizedEnv.items KeyedTable.empty

def CLAW_SANDBOX_ENV_KEY : Bytes := bytes "CLAW_SANDBOX"
def CLAW_SANDBOX_ENV_VALUE : Bytes := bytes "1"

/-- The map as `ApplyEnvironment` builds it. -/
def sanitizedEnvironment (shellSandbox : Bool) (policy : EnvPolicy) (config : EnvConfig)
    (environ : List Bytes) : Environment :=
  (sanitizeOverrideEnv shellSandbox policy config
      (sanitizeInheritedEnv policy environ KeyedTable.empty)).assign
    CLAW_SANDBOX_ENV_KEY ⟨CLAW_SANDBOX_ENV_VALUE, .marker⟩

def applyEnvironment (shellSandbox : Bool) (calls : EnvCalls) (policy : EnvPolicy)
    (config : EnvConfig) (environ : List Bytes) : Except SandboxError Environment :=
  applySanitizedEnv calls (sanitizedEnvironment shellSandbox policy config environ)

/-! ### Tool credentials -/

def isValidCredentialEnvName (envName : Bytes) : Bool :=
  envName ≠ [] && !envName.contains equalsSign

/-- `FetchToolCredentials`; `reply` is what the credential service answers. -/
def fetchToolCredentials (config : EnvConfig) (reply : Option (List (Bytes × Bytes))) :
    List (Bytes × Bytes) :=
  if config.type ≠ bytes "shell" then []
  else if config.subjectId = [] then []
  else
    match reply with
    | none => []
    | some credentialInfos => credentialInfos.filter fun info => isValidCredentialEnvName info.1

def setToolCredential (calls : EnvCalls) (environment : Environment) (credential : Bytes × Bytes) :
    Environment :=
  if isValidCredentialEnvName credential.1 then
    (setenv calls environment credential.1 ⟨credential.2, .credential⟩).getD environment
  else environment

def setToolCredentials (calls : EnvCalls) (config : EnvConfig)
    (toolCredentials : List (Bytes × Bytes)) (environment : Environment) : Environment :=
  if config.type ≠ bytes "shell" then environment
  else toolCredentials.foldl (setToolCredential calls) environment

/-- The steps of `ExecuteLateSteps` that concern the environment. -/
def commandEnvironment (shellSandbox : Bool) (calls : EnvCalls) (policy : EnvPolicy)
    (config : EnvConfig) (environ : List Bytes) (reply : Option (List (Bytes × Bytes))) :
    Except SandboxError Environment := do
  let environment ← applyEnvironment shellSandbox calls policy config environ
  if shellSandbox then
    return setToolCredentials calls config (fetchToolCredentials config reply) environment
  else return environment

end SandboxManager.Claw
