import SandboxManager.Share.ShareMap
import SandboxManager.Policy.Persist

/-! Which paths a policy may be set on (`policy_info_manager.cpp`).

`CheckPathIsBlocked` splits a path at its slashes, up to eight tokens, and decides by
the components; a path deep enough inside `appdata` is looked up in the share map.
The lookup may refresh the map, so every check returns the map it leaves.
`notResident` says whether the service was built with `NOT_RESIDENT`. -/
namespace SandboxManager.PathRule
open Library Policy Share

def MAX_CHECK_COM_NUM : Nat := 6
def SECOND_PATH_SEGMENT : Nat := 2
def EL_LEVEL_SEGMENT : Nat := 4
def ROOT_PATH : Bytes := bytes "/storage"
def ROOT_PATH_WITH_SLASH : Bytes := bytes "/storage/"
def APPDATA_PATH_WITH_SLASH : Bytes := bytes "/storage/Users/currentUser/appdata/"

def newline : UInt8 := 10
def plus : UInt8 := 43

/-! ### Splitting -/

/-- `std::getline` on what is left of a stream: the token and the rest, `none` at the end. -/
def getline (delim : UInt8) (ss : Bytes) : Option (Bytes × Bytes) :=
  if ss = [] then none
  else some (ss.takeWhile (· ≠ delim), (ss.dropWhile (· ≠ delim)).tail)

def component (token : Bytes) : List Bytes := if token = [] then [] else [token]

/-- What is left goes into one element, as far as its first line reaches. -/
def addRemainingPath (ss : Bytes) : List Bytes :=
  match getline newline ss with
  | none => []
  | some (token, _) => component token

/-- The loop of `splitPath` with so many tokens to go; empty tokens count too. -/
def splitLoop : Nat → Bytes → List Bytes
  | 0, ss => addRemainingPath ss
  | n + 1, ss =>
    match getline slash ss with
    | none => []
    | some (token, rest) => component token ++ splitLoop n rest

def splitPath (path : Bytes) : List Bytes := splitLoop (MAX_CHECK_COM_NUM + 2) path

/-! ### The rules -/

/-- `strcasecmp` of the fourth component with `appdata`. -/
def isAppdataName (components : List Bytes) : Bool :=
  match components[3]? with
  | none => false
  | some name => strcasecmpEq name (bytes "appdata")

def isAppDataPathPrefix (components : List Bytes) : Bool :=
  components.take 3 = [bytes "storage", bytes "Users", bytes "currentUser"] &&
    isAppdataName components

def checkPathWithinBundleName (bundleName : Bytes) (components : List Bytes) : Bool :=
  if bundleName = [] then false
  else components[MAX_CHECK_COM_NUM]? = some bundleName

/-- Before applying the general configuration, unconfigured items are not controlled. -/
def checkShareMode (permission mode : UInt32) : Bool :=
  if permission = SHARE_BUNDLE_UNSET then true
  else if permission = SHARE_PATH_UNSET then false
  else permission &&& mode = mode

def CLONE_PREFIX : Bytes := bytes "+clone-"

/-- `+clone-N+B` is read as `B`; without the second plus nothing is removed. -/
def removeClonePrefix (bundleName : Bytes) : Bytes :=
  let rest := bundleName.drop CLONE_PREFIX.length
  if CLONE_PREFIX.isPrefixOf bundleName ∧ plus ∈ rest then (rest.dropWhile (· ≠ plus)).tail
  else bundleName

/-- The path that is looked up: the bundle without its clone prefix. -/
def sharedPath (components : List Bytes) : Bytes :=
  let bundleRemoveIndex := removeClonePrefix (components.getD MAX_CHECK_COM_NUM [])
  APPDATA_PATH_WITH_SLASH ++ [slash].intercalate
    ((components.set MAX_CHECK_COM_NUM bundleRemoveIndex).drop EL_LEVEL_SEGMENT)

/-- The lookup itself. Only the first policy of a request may refresh the map. -/
def checkShared (env : ShareEnv) (m : ShareMap) (userID : UInt32) (mode : UInt64) (index : Nat)
    (bundleNameTmp pathTmp : Bytes) : ShareMap × Bool :=
  let permission := findPermission m bundleNameTmp userID pathTmp
  if permission = SHARE_BUNDLE_UNSET ∨ permission = SHARE_PATH_UNSET then
    if index ≠ 0 then (m, checkShareMode permission mode.toUInt32)
    else
      match getAllShareCfg env m userID with
      | (m', .SANDBOX_MANAGER_OK) =>
        (m', checkShareMode (findPermission m' bundleNameTmp userID pathTmp) mode.toUInt32)
      | (m', _) => (m', false)
  else (m, checkShareMode permission mode.toUInt32)

def checkPathWithinShareMap (env : ShareEnv) (m : ShareMap) (userID : UInt32) (policy : PolicyInfo)
    (components : List Bytes) (index : Nat) : ShareMap × Bool :=
  if !isAppDataPathPrefix components then (m, true)
  else checkShared env m userID policy.mode index (components.getD MAX_CHECK_COM_NUM [])
    (sharedPath components)

/-- The block of `CheckPathWithinRule` on paths that begin with `storage/Users`. -/
def isUsersPathBlocked (components : List Bytes) : Bool :=
  if components.take 2 = [bytes "storage", bytes "Users"] then
    if components[SECOND_PATH_SEGMENT]? ≠ some (bytes "currentUser") then true
    else components.length ≤ MAX_CHECK_COM_NUM && isAppdataName components
  else false

def checkPathWithinRule (notResident : Bool) (env : ShareEnv) (m : ShareMap) (userID : UInt32)
    (path : Bytes) (policy : PolicyInfo) (bundleName : Bytes) (index : Nat) : ShareMap × Bool :=
  if path = ROOT_PATH then (m, false)
  else if path.take ROOT_PATH_WITH_SLASH.length ≠ ROOT_PATH_WITH_SLASH then (m, true)
  else
    let components := splitPath path
    if components.length ≤ SECOND_PATH_SEGMENT then (m, false)
    else if isUsersPathBlocked components then (m, false)
    else if policy.type = .SELF_PATH ∧ checkPathWithinBundleName bundleName components = false then
      (m, false)
    else if components.length > MAX_CHECK_COM_NUM ∧ notResident = true ∧
        policy.type ≠ .AUTHORIZATION_PATH then
      checkPathWithinShareMap env m userID policy components index
    else (m, true)

/-- Both lengths are narrowed to 32 bits before they are compared. -/
def checkPathIsBlocked (notResident : Bool) (env : ShareEnv) (m : ShareMap) (userID : UInt32)
    (policy : PolicyInfo) (bundleName : Bytes) (index : Nat) : ShareMap × SandboxRetType :=
  if policy.path.length % 2 ^ 32 ≠ (cStr policy.path).length % 2 ^ 32 then (m, .INVALID_PATH)
  else
    match checkPathWithinRule notResident env m userID (adjustPath policy.path) policy bundleName
        index with
    | (m, true) => (m, .OPERATE_SUCCESSFULLY)
    | (m, false) => (m, .INVALID_PATH)

/-! ### `SetPolicy` -/

structure SetInfo where
  bundleName : Bytes
  timestamp : UInt64
  userId : UInt32

structure MacParams where
  tokenId : UInt32
  policyFlag : UInt64
  timestamp : UInt64
  userId : UInt32

structure SetEnv where
  notResident : Bool
  share : ShareEnv
  isMacSupport : Bool
  setSandboxPolicy : MacParams → List PolicyInfo → Except ErrCode (List SandboxRetType)

/-- The checks of one policy at its index. -/
def checkItem (notResident : Bool) (env : ShareEnv) (m : ShareMap) (userId : UInt32)
    (bundleName : Bytes) (index : Nat) (policy : PolicyInfo) : ShareMap × SandboxRetType :=
  let res := checkPolicyValidity policy .NORMAL_POLICY
  if res ≠ .OPERATE_SUCCESSFULLY then (m, res)
  else checkPathIsBlocked notResident env m userId policy bundleName index

/-- The checking loop of `SetPolicy`, from `index` on. -/
def checkLoop (notResident : Bool) (env : ShareEnv) (userId : UInt32) (bundleName : Bytes) :
    Nat → List PolicyInfo → ShareMap → ShareMap × List SandboxRetType
  | _, [], m => (m, [])
  | index, policy :: rest, m =>
    let (m, res) := checkItem notResident env m userId bundleName index policy
    let (m, results) := checkLoop notResident env userId bundleName (index + 1) rest m
    (m, res :: results)

def isAccepted (res : SandboxRetType) : Bool := res = .OPERATE_SUCCESSFULLY

def setPolicyInner (env : SetEnv) (policy : List PolicyInfo) (macParams : MacParams)
    (result : List SandboxRetType) : ErrCode × List SandboxRetType :=
  let validPolicies := ((policy.zip result).filter fun item => isAccepted item.2).map Prod.fst
  if validPolicies = [] then (.SANDBOX_MANAGER_OK, result)
  else
    match env.setSandboxPolicy macParams validPolicies with
    | .error e => (e, [])
    | .ok setResult => (.SANDBOX_MANAGER_OK, scatter isAccepted result result setResult)

def setPolicy (env : SetEnv) (m : ShareMap) (tokenId : UInt32) (policy : List PolicyInfo)
    (policyFlag : UInt64) (setInfo : SetInfo) : ShareMap × ErrCode × List SandboxRetType :=
  if !env.isMacSupport then
    (m, .SANDBOX_MANAGER_OK, policy.map fun _ => .OPERATE_SUCCESSFULLY)
  else
    let (m, result) := checkLoop env.notResident env.share setInfo.userId setInfo.bundleName 0
      policy m
    (m, setPolicyInner env policy ⟨tokenId, policyFlag, setInfo.timestamp, setInfo.userId⟩ result)

end SandboxManager.PathRule
