import SandboxManager.Claw.DecPolicies
import SandboxManager.Claw.MountPhase

/-! The template (`LoadDefaultConfig` to `LoadJsonConfig`, `sandbox_config_parser.cpp`).

A template is one JSON object. Its mounts, links and permissions are read leniently: what is not
as it should be is passed over. The rest, which decides what the sandbox may do, is read strictly:
a field may be absent, but one that is there and is not what is expected ends the loading with a
line that names it. The members that were filled before a failure are not looked at again. -/
namespace SandboxManager.Claw
open Library MountPhase

/-- A rule with the members the mount phase has no use for. -/
structure TemplateRule extends ConditionalRule where
  mountFlags : List Bytes
  checkExists : Bool

structure TemplateConfig where
  execSelinuxTypes : List Bytes := []
  systemMounts : List MountEntry := []
  symLinks : List SymLinkEntry := []
  appMounts : List MountEntry := []
  seccompAllowList : List Bytes := []
  envPolicy : EnvPolicy := {}
  permissions : EnvMap PermissionConfig := KeyedTable.empty
  conditionalRules : List TemplateRule := []

abbrev TemplateStep := Json → TemplateConfig → Except TemplateError TemplateConfig

/-! ### Mounts and links -/

/-- A text that is there and is not `none`. -/
def namedPath (item : Option Json) : Bytes :=
  match Json.stringOf item with
  | none => []
  | some path => if path = bytes "none" then [] else path

def stringItems (item : Option Json) : List Bytes :=
  ((Json.itemsOf item).getD []).filterMap fun i => Json.stringOf (some i)

/-- The older names stand in for those that are absent. -/
def parseMountEntry (entry : Json) : MountEntry where
  source := namedPath ((entry.getObjectItem (bytes "source")).or (entry.getObjectItem (bytes "src-path")))
  target := namedPath
    ((entry.getObjectItem (bytes "target")).or (entry.getObjectItem (bytes "sandbox-path")))
  mountFlags := stringItems (entry.getObjectItem (bytes "mount-flags"))
  checkExists :=
    match entry.getObjectItem (bytes "check-exists") with
    | some (.bool value) => value
    | _ => false

/-- The entries of an array that are objects and name both ends. -/
def parseMountEntries (root : Json) (name : Bytes) : List MountEntry :=
  ((Json.itemsOf (root.getObjectItem name)).getD []).filterMap fun entry =>
    let me := parseMountEntry entry
    if entry.isObject ∧ me.source ≠ [] ∧ me.target ≠ [] then some me else none

def parseSystemMountsJson : TemplateStep := fun root config =>
  .ok { config with
    systemMounts := config.systemMounts ++ parseMountEntries root (bytes "system-mounts") }

def parseAppMountsJson : TemplateStep := fun root config =>
  .ok { config with appMounts := config.appMounts ++ parseMountEntries root (bytes "app-mounts") }

def parseSymLinkEntry (entry : Json) : SymLinkEntry where
  source := (Json.stringOf (entry.getObjectItem (bytes "source"))).getD []
  target := (Json.stringOf (entry.getObjectItem (bytes "target"))).getD []

def parseSymLinkEntries (root : Json) : List SymLinkEntry :=
  ((Json.itemsOf (root.getObjectItem (bytes "symbol-links"))).getD []).filterMap fun entry =>
    let me := parseSymLinkEntry entry
    if entry.isObject ∧ me.source ≠ [] ∧ me.target ≠ [] then some me else none

def parseSymLinkJson : TemplateStep := fun root config =>
  .ok { config with symLinks := config.symLinks ++ parseSymLinkEntries root }

/-! ### Fields that are read strictly -/

/-- The path of an item of an array. -/
def itemField (field : Bytes) (i : Nat) : Bytes :=
  field ++ bytes "[" ++ bytes (toString i) ++ bytes "]"

/-- The items of an array from `i` on, none of which may be other than expected. -/
def parseItems {α : Type} (field expected : Bytes) (read : Json → Option α) (i : Nat) :
    List Json → Except TemplateError (List α)
  | [] => .ok []
  | item :: items =>
    match read item with
    | none => .error ⟨itemField field i, expected⟩
    | some value => parseItems field expected read (i + 1) items >>= fun values => .ok (value :: values)

def textOfItem (item : Json) : Option Bytes := Json.stringOf (some item)

def parseTemplateStringArray (node : Json) (field : Bytes) : Except TemplateError (List Bytes) :=
  match node with
  | .array items => parseItems field (bytes "a string") textOfItem 0 items
  | _ => .error ⟨field, bytes "an array"⟩

def memberField (path field : Bytes) : Bytes := path ++ bytes "." ++ field

def parseOptionalTemplateString (item : Json) (field path : Bytes) : Except TemplateError Bytes :=
  match item.getObjectItem field with
  | none => .ok []
  | some node =>
    match textOfItem node with
    | none => .error ⟨memberField path field, bytes "a string"⟩
    | some value => .ok value

def parseOptionalTemplateArray (item : Json) (field path : Bytes) :
    Except TemplateError (List Bytes) :=
  match item.getObjectItem field with
  | none => .ok []
  | some node => parseTemplateStringArray node (memberField path field)

def parseOptionalTemplateBool (item : Json) (field path : Bytes) (value : Bool) :
    Except TemplateError Bool :=
  match item.getObjectItem field with
  | none => .ok value
  | some (.bool value) => .ok value
  | some _ => .error ⟨memberField path field, bytes "a boolean"⟩

def parseConditionalRule (item : Json) (path : Bytes) : Except TemplateError TemplateRule := do
  let target ← parseOptionalTemplateString item (bytes "target") path
  let source ← parseOptionalTemplateString item (bytes "source") path
  let mountFlags ← parseOptionalTemplateArray item (bytes "mount-flags") path
  let permissions ← parseOptionalTemplateArray item (bytes "permissions") path
  let checkExists ← parseOptionalTemplateBool item (bytes "check-exists") path true
  .ok { source, target, permissions, mountFlags, checkExists }

/-- The rules from `i` on. -/
def parseConditionalItems (i : Nat) : List Json → Except TemplateError (List TemplateRule)
  | [] => .ok []
  | item :: items =>
    if item.isObject = false then .error ⟨itemField (bytes "conditional") i, bytes "an object"⟩
    else do
      let rule ← parseConditionalRule item (itemField (bytes "conditional") i)
      let rules ← parseConditionalItems (i + 1) items
      .ok (rule :: rules)

/-! ### Sections -/

/-- A section that is absent leaves the member as it was. -/
def parseConditionalJson : TemplateStep := fun root config =>
  if root.isObject = false then .error ⟨bytes "<root>", bytes "an object"⟩
  else
    match root.getObjectItem (bytes "conditional") with
    | none => .ok config
    | some (.array items) =>
      parseConditionalItems 0 items >>= fun rules => .ok { config with conditionalRules := rules }
    | some _ => .error ⟨bytes "conditional", bytes "an array"⟩

def parsePermissionStep (valueint : Bytes → Int32) : TemplateStep := fun root config =>
  .ok { config with permissions := parsePermissionJson valueint root config.permissions }

def parseEnvPolicyStep : TemplateStep := fun root config =>
  parseEnvPolicyJson root config.envPolicy >>= fun envPolicy => .ok { config with envPolicy }

/-- A text with something in it. -/
def selinuxType (item : Json) : Option Bytes := (textOfItem item).filter (· ≠ [])

def parseExecSelinuxTypesJson : TemplateStep := fun root config =>
  if root.isObject = false then .error ⟨bytes "<root>", bytes "an object"⟩
  else
    match root.getObjectItem (bytes "exec-selinux-types") with
    | none => .ok config
    | some (.array items) =>
      parseItems (bytes "exec-selinux-types") (bytes "a non-empty string") selinuxType 0 items >>=
        fun parsed => .ok { config with execSelinuxTypes := parsed }
    | some _ => .error ⟨bytes "exec-selinux-types", bytes "an array"⟩

def parseSeccompJson : TemplateStep := fun root config =>
  if root.isObject = false then .error ⟨bytes "<root>", bytes "an object"⟩
  else
    match root.getObjectItem (bytes "seccomp") with
    | none => .ok config
    | some seccomp =>
      if seccomp.isObject = false then .error ⟨bytes "seccomp", bytes "an object"⟩
      else
        match seccomp.getObjectItem (bytes "allow-list") with
        | none => .ok config
        | some allowList =>
          parseTemplateStringArray allowList (bytes "seccomp.allow-list") >>=
            fun allowed => .ok { config with seccompAllowList := allowed }

/-! ### Loading -/

def systemDirs : List Bytes :=
  [bytes "/proc", bytes "/sys", bytes "/dev", bytes "/tmp", bytes "/usr", bytes "/etc", bytes "/lib",
    bytes "/bin", bytes "/sbin", bytes "/sys_prod", bytes "/system/fonts", bytes "/system/lib",
    bytes "/system/usr", bytes "/system/profile", bytes "/system/bin", bytes "/system/lib64",
    bytes "/system/etc", bytes "/system/framework", bytes "/system/resource",
    bytes "/system/app/skills", bytes "/vendor/lib", bytes "/vendor/lib64", bytes "/config"]

def boundWhole (source target : Bytes) (checkExists : Bool) : MountEntry :=
  ⟨source, target, [bytes "bind", bytes "rec"], checkExists⟩

/-- `LoadDefaultConfig`: mounts and nothing else. -/
def defaultTemplate (currentUserId : Bytes) : TemplateConfig where
  systemMounts := systemDirs.map fun dir => boundWhole dir dir false
  appMounts :=
    [boundWhole (bytes "/storage/media/" ++ currentUserId ++ bytes "/local/files/Docs")
        (bytes "/storage/Users/" ++ currentUserId) true,
      boundWhole (bytes "/data/storage/el1/skills") (bytes "/data/storage/el1/skills") true,
      boundWhole (bytes "/data/storage/el1/bundle") (bytes "/data/storage/el1/bundle") true]

/-- Why a template is not loaded: its text is no object, or a field is not what it should be. -/
inductive TemplateFailure where
  | text
  | field (error : TemplateError)

def templateSteps (valueint : Bytes → Int32) : List TemplateStep :=
  [parseSystemMountsJson, parseSymLinkJson, parseAppMountsJson, parsePermissionStep valueint,
    parseSeccompJson, parseEnvPolicyStep, parseConditionalJson, parseExecSelinuxTypesJson]

/-- The steps in order, up to one that fails. -/
def parseTemplate (valueint : Bytes → Int32) (root : Json) (config : TemplateConfig) :
    Except TemplateError TemplateConfig :=
  (templateSteps valueint).foldlM (fun config step => step root config) config

/-- `LoadJsonConfig`; there is no content where the file does not open. -/
def loadJsonConfig (cJSON_Parse : Bytes → Option Json) (valueint : Bytes → Int32)
    (currentUserId : Bytes) (content : Option Bytes) : Except TemplateFailure TemplateConfig :=
  match content with
  | none => .ok (defaultTemplate currentUserId)
  | some content =>
    match cJSON_Parse (cStr content) with
    | some (.object members) =>
      match parseTemplate valueint (.object members) {} with
      | .ok config => .ok config
      | .error error => .error (.field error)
    | _ => .error .text

end SandboxManager.Claw
