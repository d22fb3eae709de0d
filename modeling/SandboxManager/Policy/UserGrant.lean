import SandboxManager.Policy.PathRule
import SandboxManager.Policy.Volume

/-! Grants by the user (`GrantPermissionByUser` and `RevokePermissionByUser` of
`policy_info_manager.cpp`, with the kernel calls of `mac_adapter.cpp` below them).

What a user granted stands in a table of its own, and the kernel enforces it. Granting writes the
table and then asks the kernel, batch by batch; revoking goes policy by policy and carries on
after a failure. The kernel answers a call as a whole and each of its items. -/
namespace SandboxManager.Policy
open Library Trie

/-! ### The table -/

inductive UgcPermissionStatus where
  | UGC_PERMISSION_DENIED
  | UGC_PERMISSION_GRANTED
deriving DecidableEq, Repr

structure UgcKey where
  tokenId : UInt32
  path : Bytes
  mode : UInt64
deriving DecidableEq, Repr

structure UgcRow where
  key : UgcKey
  status : UgcPermissionStatus
deriving DecidableEq, Repr

abbrev UgcTable := KeyedTable UgcRow.key

def ugcKey (tokenId : UInt32) (policy : PolicyInfo) : UgcKey := ⟨tokenId, policy.path, policy.mode⟩

/-! ### Which policies are let through -/

def ALLOWED_PREFIXES : List Bytes :=
  [bytes "/storage/Users/currentUser/Music", bytes "/storage/Users/currentUser/Images",
    bytes "/storage/Users/currentUser/Videos", bytes "/storage/External",
    bytes "/storage/userExternal"]

def isAllowedPath (path : Bytes) : Bool :=
  ALLOWED_PREFIXES.any fun allowed => path = allowed || (allowed ++ [slash]).isPrefixOf path

/-- The five bits of an ordinary mode. -/
def normalBits : UInt64 := MAX_MODE - 1

def validateTempMode (mode : UInt64) : SandboxRetType :=
  if mode &&& normalBits = 0 ∨ mode &&& ~~~normalBits ≠ 0 then .INVALID_MODE
  else .OPERATE_SUCCESSFULLY

/-- What the loop of `FilterValidPolicy` notes for a policy. -/
def filterResult (policy : PolicyInfo) : SandboxRetType :=
  let normalizedPath := adjustPath policy.path
  if !isAllowedPath normalizedPath then .INVALID_PATH
  else if validateGenericPath normalizedPath ≠ .OPERATE_SUCCESSFULLY then
    validateGenericPath normalizedPath
  else if validateTempMode policy.mode ≠ .OPERATE_SUCCESSFULLY then validateTempMode policy.mode
  else if PathRule.isAppDataPathPrefix (PathRule.splitPath normalizedPath) then .INVALID_PATH
  else .OPERATE_SUCCESSFULLY

/-- The valid policies, their paths as they are stored. -/
def filterValidPolicy (policies : List PolicyInfo) : List SandboxRetType × List PolicyInfo :=
  (policies.map filterResult,
    (policies.filter fun policy => filterResult policy = .OPERATE_SUCCESSFULLY).map fun policy =>
      { policy with path := adjustPath policy.path })

/-! ### The kernel -/

/-- The kernel's answers to one request: to each of its calls, and to each of its items. -/
structure MacAnswers where
  ioctl : Nat → Bool
  result : Nat → Bool

/-- A rule in force; of a mode the kernel is given 32 bits. -/
structure MacRule where
  tokenId : UInt32
  path : Bytes
  mode : UInt32
deriving DecidableEq, Repr

def macRule (tokenId : UInt32) (policy : PolicyInfo) : MacRule :=
  ⟨tokenId, policy.path, policy.mode.toUInt32⟩

/-- The loop over the batches, from the given one on: the results written until a call fails.
There are at most as many batches as policies. -/
def macBatches (answers : MacAnswers) : Nat → Nat → List PolicyInfo → List Bool × ErrCode
  | _, _, [] => ([], .SANDBOX_MANAGER_OK)
  | 0, _, _ :: _ => ([], .SANDBOX_MANAGER_OK)
  | n + 1, batch, policy =>
    if !answers.ioctl batch then ([], .SANDBOX_MANAGER_MAC_IOCTL_ERR)
    else
      let results := (policy.take MAX_POLICY_NUM).mapIdx fun i _ =>
        answers.result (MAX_POLICY_NUM * batch + i)
      let (rest, ret) := macBatches answers n (batch + 1) (policy.drop MAX_POLICY_NUM)
      (results ++ rest, ret)

/-- A request over all the policies, refused while the device is not open. -/
def macRequest (fd : Int) (answers : MacAnswers) (policy : List PolicyInfo) :
    List Bool × ErrCode :=
  if fd < 0 then ([], .SANDBOX_MANAGER_MAC_NOT_INIT)
  else macBatches answers policy.length 0 policy

/-- The rules of the items the kernel said yes to. -/
def accepted (tokenId : UInt32) (policy : List PolicyInfo) (results : List Bool) : List MacRule :=
  ((policy.zip results).filter Prod.snd).map fun item => macRule tokenId item.1

/-- What answers from outside: each policy revoked is a change of the table and a request. -/
structure UgcEnv where
  fd : Int
  isMacSupport : Bool
  addOk : Bool
  set : MacAnswers
  modifyOk : Nat → Bool
  unset : Nat → MacAnswers

structure UgcState where
  table : UgcTable
  /-- The rules in force. -/
  rules : List MacRule
  ret : ErrCode := .SANDBOX_MANAGER_OK

/-! ### Granting -/

def setResult (result : Bool) : SandboxRetType :=
  if result then .OPERATE_SUCCESSFULLY else .POLICY_MAC_FAIL

/-- `SetPolicyInner`, with the results it starts from; every policy is valid. -/
def setPolicyInner (env : UgcEnv) (tokenId : UInt32) (policy : List PolicyInfo)
    (rules : List MacRule) (result : List SandboxRetType) :
    List MacRule × ErrCode × List SandboxRetType :=
  if policy = [] then (rules, .SANDBOX_MANAGER_OK, result)
  else
    let (results, ret) := macRequest env.fd env.set policy
    (rules ++ accepted tokenId policy results, ret,
      if ret ≠ .SANDBOX_MANAGER_OK then [] else results.map setResult)

def grantRow (tokenId : UInt32) (policy : PolicyInfo) : UgcRow :=
  ⟨ugcKey tokenId policy, .UGC_PERMISSION_GRANTED⟩

/-- `SandboxManagerRdb::Add` with REPLACE, one transaction. -/
def ugcReplace (t : UgcTable) (values : List UgcRow) : UgcTable :=
  values.foldl KeyedTable.insertReplace t

def grantPermissionByUser (env : UgcEnv) (t : UgcTable) (rules : List MacRule) (tokenId : UInt32)
    (policies : List PolicyInfo) : UgcState :=
  let validPolicies := (filterValidPolicy policies).2
  if validPolicies = [] then { table := t, rules }
  else if !env.addOk then { table := t, rules, ret := .SANDBOX_MANAGER_DB_ERR }
  else
    let (rules, ret, _) := setPolicyInner env tokenId validPolicies rules
      (validPolicies.map fun _ => .OPERATE_SUCCESSFULLY)
    { table := ugcReplace t (validPolicies.map (grantRow tokenId)), rules, ret }

/-! ### Revoking -/

def isNormalMode (policy : PolicyInfo) : Bool :=
  isModeMatchPolicyType policy.mode .NORMAL_POLICY

/-- `UnSetPolicy` of several policies: an item that fails only has it in its result. -/
def unSetPolicy (env : UgcEnv) (answers : MacAnswers) (tokenId : UInt32)
    (policies : List PolicyInfo) (rules : List MacRule) :
    List MacRule × ErrCode × List SandboxRetType :=
  if !env.isMacSupport then
    (rules, .SANDBOX_MANAGER_OK, policies.map fun _ => .OPERATE_SUCCESSFULLY)
  else
    let result : List SandboxRetType := policies.map fun policy =>
      if isNormalMode policy then .OPERATE_SUCCESSFULLY else .INVALID_MODE
    let validPolicies := policies.filter isNormalMode
    if validPolicies = [] then (rules, .SANDBOX_MANAGER_OK, result)
    else
      let (results, ret) := macRequest env.fd answers validPolicies
      -- what no call has written stays false
      let macResult := results ++ List.replicate (validPolicies.length - results.length) false
      (rules.filter fun rule => rule ∉ accepted tokenId validPolicies results, ret,
        scatter isNormalMode policies result (macResult.map setResult))

def denyRow (row : UgcRow) : UgcRow := { row with status := .UGC_PERMISSION_DENIED }

def ugcDeny (t : UgcTable) (k : UgcKey) : UgcTable := t.modify (·.key = k) denyRow fun _ => rfl

/-- One turn of the loop, for the policy at an index. -/
def revokePolicy (env : UgcEnv) (tokenId : UInt32) (i : Nat) (policy : PolicyInfo) (s : UgcState) :
    UgcState :=
  if !env.modifyOk i then { s with ret := .SANDBOX_MANAGER_DB_ERR }
  else
    let (rules, macRet, _) := unSetPolicy env (env.unset i) tokenId [policy] s.rules
    { table := ugcDeny s.table (ugcKey tokenId policy), rules,
      ret := if macRet ≠ .SANDBOX_MANAGER_OK then macRet else s.ret }

def revokeLoop (env : UgcEnv) (tokenId : UInt32) : Nat → List PolicyInfo → UgcState → UgcState
  | _, [], s => s
  | i, policy :: rest, s =>
    revokeLoop env tokenId (i + 1) rest (revokePolicy env tokenId i policy s)

def revokePermissionByUser (env : UgcEnv) (t : UgcTable) (rules : List MacRule) (tokenId : UInt32)
    (policies : List PolicyInfo) : UgcState :=
  revokeLoop env tokenId 0 (filterValidPolicy policies).2 { table := t, rules }

end SandboxManager.Policy
