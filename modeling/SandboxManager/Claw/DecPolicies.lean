import SandboxManager.Claw.Mounts
import SandboxManager.Claw.Sanitize

/-! The paths that are opened to a shell sandbox (`ParsePermissionJson`,
`sandbox_config_parser.cpp`; `ApplyDecPolicies` and what it calls, `sandbox_manager.cpp`).

The template says for a permission which paths it opens. What is granted is gathered in the
order of the names, each path once, until there are `DEC_MAX_POLICY_NUM` of them (`Gathers`);
then it is cut into batches, which together are what was gathered (`batchLoop_handed`). -/
namespace SandboxManager.Claw
open Library

/-! ### The permissions of the template -/

structure PermissionConfig where
  sandboxSwitch : Bool := false
  gids : List Int32 := []
  decPaths : List Bytes := []

section
variable (valueint : Bytes → Int32)

def parsePermissionSwitch (obj : Json) (defaultSwitch : Bool) : Bool :=
  match obj.getObjectItem (bytes "sandbox-switch") with
  | none => defaultSwitch
  | some sw => Json.stringOf (some sw) = some (bytes "ON")

def parsePermissionGids (obj : Json) : List Int32 :=
  ((Json.itemsOf (obj.getObjectItem (bytes "gids"))).getD []).filterMap fun
    | .number literal => some (valueint literal)
    | _ => none

def parsePermissionDecPaths (obj : Json) : List Bytes :=
  ((Json.itemsOf (obj.getObjectItem (bytes "dec-paths"))).getD []).filterMap fun item =>
    Json.stringOf (some item)

def permissionConfig (obj : Json) (defaultSwitch : Bool) : PermissionConfig where
  sandboxSwitch := parsePermissionSwitch obj defaultSwitch
  gids := parsePermissionGids valueint obj
  decPaths := parsePermissionDecPaths obj

def parseSinglePermissionConfig (obj : Json) (permName : Bytes) (defaultSwitch : Bool)
    (permissions : EnvMap PermissionConfig) : EnvMap PermissionConfig :=
  if !obj.isObject ∨ permName = [] then permissions
  else permissions.assign permName (permissionConfig valueint obj defaultSwitch)

def parseSinglePermissionItem (permissions : EnvMap PermissionConfig) (permItem : Bytes × Json) :
    EnvMap PermissionConfig :=
  match permItem.2 with
  | .array items =>
    let permName := cStr permItem.1
    if permName = [] then permissions
    else items.foldl (fun permissions obj =>
      if !obj.isObject then permissions
      else parseSinglePermissionConfig valueint obj permName false permissions) permissions
  | _ => permissions

def parseSinglePermissionArrayItem (permissions : EnvMap PermissionConfig) (permItem : Json) :
    EnvMap PermissionConfig :=
  if !permItem.isObject then permissions
  else
    match Json.stringOf (permItem.getObjectItem (bytes "name")) with
    | none => permissions
    | some name =>
      if name = [] then permissions
      else parseSinglePermissionConfig valueint permItem name true permissions

def parsePermissionSectionJson (perm : Option Json) (permissions : EnvMap PermissionConfig) :
    EnvMap PermissionConfig :=
  match perm with
  | some (.object members) => members.foldl (parseSinglePermissionItem valueint) permissions
  | some (.array items) => items.foldl (parseSinglePermissionArrayItem valueint) permissions
  | _ => permissions

def parsePermissionJson (root : Json) (permissions : EnvMap PermissionConfig) :
    EnvMap PermissionConfig :=
  if !root.isObject then permissions
  else
    let permissions := parsePermissionSectionJson valueint
      (root.getObjectItem (bytes "permission")) permissions
    match root.getObjectItem (bytes "conditional") with
    | some (.object members) =>
      parsePermissionSectionJson valueint
        ((Json.object members).getObjectItem (bytes "permission")) permissions
    | _ => permissions

end

/-! ### Gathering -/

structure DecConfig extends MountConfig where
  type : Bytes
  currentUserId : Bytes

def DEC_MAX_POLICY_NUM : Nat := 64
def DEC_KERNEL_BATCH_SIZE : Nat := 8
def CURRENT_USER_PREFIX : Bytes := bytes "/storage/Users/currentUser/"

namespace DecConfig
variable (config : DecConfig)

def normalizeDecPath (decPath : Bytes) : Bytes :=
  let userPrefix := bytes "/storage/Users/" ++ config.currentUserId ++ bytes "/"
  if userPrefix.isPrefixOf decPath then CURRENT_USER_PREFIX ++ decPath.drop userPrefix.length
  else decPath

/-- Zero, and the list with what was missing; -1 if it has no room for all of it. -/
def collectPermissionDecPaths : List Bytes → List Bytes → Int × List Bytes
  | [], decPaths => (0, decPaths)
  | decPath :: rest, decPaths =>
    let normalizedDecPath := config.normalizeDecPath decPath
    if normalizedDecPath = [] ∨ decPaths.contains normalizedDecPath = true then
      collectPermissionDecPaths rest decPaths
    else if DEC_MAX_POLICY_NUM ≤ decPaths.length then (-1, decPaths)
    else collectPermissionDecPaths rest (decPaths ++ [normalizedDecPath])

def collectLoop : List (Bytes × PermissionConfig) → List Bytes → List Bytes
  | [], decPaths => decPaths
  | permissionItem :: rest, decPaths =>
    if !permissionItem.2.sandboxSwitch || !config.isPermissionGranted permissionItem.1 then
      collectLoop rest decPaths
    else
      let collected := config.collectPermissionDecPaths permissionItem.2.decPaths decPaths
      if collected.1 ≠ 0 then collected.2 else collectLoop rest collected.2

def collectDecPolicyPaths (permissions : EnvMap PermissionConfig) : List Bytes :=
  config.collectLoop permissions.items []

end DecConfig

/-! ### Handing over -/

def DEC_SANDBOX_MODE_READ : UInt32 := 1
def DEC_SANDBOX_MODE_WRITE : UInt32 := DEC_SANDBOX_MODE_READ <<< 1
def SEC_TO_NSEC : UInt64 := 1000000000
def SANDBOX_ERR_BAD_PARAMETERS : Int := -2

structure DecPathInfo where
  path : Bytes
  pathLen : UInt32
  mode : UInt32
  flag : Bool

structure DecPolicyInfo where
  tokenId : UInt64
  timestamp : UInt64
  path : List DecPathInfo
  pathNum : UInt32
  userId : Int32
  flag : Bool

/-- A call of `ioctl` with `SET_DEC_POLICY_CMD`, and what it returned. -/
structure DecCall where
  batchInfo : DecPolicyInfo
  ret : Int

/-- The paths of a batch. -/
def DecCall.paths (call : DecCall) : List Bytes := call.batchInfo.path.map DecPathInfo.path

/-- What is answered to a sandbox that hands its paths over; `ioctl` is by number of the call. -/
structure DecAnswers where
  clock : Option (UInt64 × UInt64)
  openDevice : Bool
  ioctl : Nat → Int

/-- What it returns, and the call that it made. -/
def setDecPolicyBatch (answer : Int) (paths : List Bytes) (tokenId timestamp : UInt64)
    (start count : Nat) : Int × List DecCall :=
  if count = 0 ∨ DEC_KERNEL_BATCH_SIZE < count ∨ paths.length < start ∨
      paths.length - start < count then (SANDBOX_ERR_BAD_PARAMETERS, [])
  else
    let batchInfo : DecPolicyInfo :=
      { tokenId
        timestamp
        path := ((paths.drop start).take count).map fun path =>
          { path
            pathLen := UInt32.ofNat path.length
            mode := DEC_SANDBOX_MODE_READ ||| DEC_SANDBOX_MODE_WRITE
            flag := false }
        pathNum := UInt32.ofNat count
        userId := 0
        flag := false }
    (answer, [⟨batchInfo, answer⟩])

/-- The loop of `DispatchDecBatches`: how many batches failed, and the calls. -/
def dispatchLoop (ioctl : Nat → Int) (decPaths : List Bytes) (tokenId timestamp : UInt64)
    (start totalBatches failedBatches : Nat) (calls : List DecCall) : Nat × List DecCall :=
  if start < decPaths.length then
    let count := min (decPaths.length - start) DEC_KERNEL_BATCH_SIZE
    let batch := setDecPolicyBatch (ioctl totalBatches) decPaths tokenId timestamp start count
    dispatchLoop ioctl decPaths tokenId timestamp (start + DEC_KERNEL_BATCH_SIZE) (totalBatches + 1)
      (if batch.1 ≠ 0 then failedBatches + 1 else failedBatches) (calls ++ batch.2)
  else (failedBatches, calls)
termination_by decPaths.length - start
decreasing_by
  simp only [DEC_KERNEL_BATCH_SIZE]
  omega

def dispatchDecBatches (answers : DecAnswers) (decPaths : List Bytes) (tokenId timestamp : UInt64) :
    SandboxError × List DecCall :=
  if !answers.openDevice then (.ERR_SET_DEC_FAILED, [])
  else
    let dispatched := dispatchLoop answers.ioctl decPaths tokenId timestamp 0 0 0 []
    (if 0 < dispatched.1 then .ERR_SET_DEC_FAILED else .SUCCESS, dispatched.2)

def applyDecPolicies (config : DecConfig) (permissions : EnvMap PermissionConfig)
    (answers : DecAnswers) : SandboxError × List DecCall :=
  if config.type ≠ bytes "shell" then (.SUCCESS, [])
  else
    let decPaths := config.collectDecPolicyPaths permissions
    if decPaths = [] then (.SUCCESS, [])
    else
      match answers.clock with
      | none => (.ERR_SET_DEC_FAILED, [])
      | some ts =>
        dispatchDecBatches answers decPaths config.callerTokenId (ts.1 * SEC_TO_NSEC + ts.2)

end SandboxManager.Claw
