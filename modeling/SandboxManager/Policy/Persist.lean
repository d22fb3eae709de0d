import SandboxManager.Library.Scatter
import SandboxManager.Policy.Table

/-! Persisting, matching and removing policies (`policy_info_manager.cpp`).

What answers from outside is in `Env`: the kernel behind `MacAdapter`, the media
library, the access-token service and whether each database call succeeds. A
result vector starts at its default, and an index list is the part of the input
it indexes (`scatter` writes back). The validation reports at the head of each
operation are only reports. -/
namespace SandboxManager.Policy
open Library Trie

structure MacAdapter where
  fd : Int
  isMacSupport : Bool
  blockedInheritPaths : List Bytes
  /-- `ioctl(QUERY_POLICY_CMD)` on one batch: `result` and `failedReason` of each path. -/
  queryIoctl : UInt32 → List PolicyInfo → Option (Nat → Bool × Int)
  /-- `ioctl(UN_SET_POLICY_CMD) >= 0`, after the calls already made. -/
  unsetIoctl : List (UInt32 × PolicyInfo) → UInt32 → PolicyInfo → Bool

structure Media where
  addMediaPolicy : UInt32 → List PolicyInfo → Except ErrCode (List SandboxRetType)
  removeMediaPolicy : UInt32 → List PolicyInfo → Except ErrCode (List SandboxRetType)
  getMediaPermission : UInt32 → List PolicyInfo → Except ErrCode (List Bool)

structure Env where
  mac : MacAdapter
  media : Media
  userGrantMap : List (Bytes × Bytes)
  verifyAccessToken : UInt32 → Bytes → Bool
  caseInsensitivePaths : List Bytes
  caseSensitivePaths : List Bytes
  addOk : Bool
  findOk : Bool
  removeOk : Bool

/-! ### The kernel's answers -/

def MAX_POLICY_NUM : Nat := 8

def DEC_ERR_QUERY_NON_PERSTST : Int := 2

def setQueryResult (answer : Bool × Int) : SandboxRetType :=
  if answer.1 then .OPERATE_SUCCESSFULLY
  else if answer.2 = DEC_ERR_QUERY_NON_PERSTST then .FORBIDDEN_TO_BE_PERSISTED_BY_FLAG
  else .FORBIDDEN_TO_BE_PERSISTED

/-- The loop over the batches; there are at most as many as policies. -/
def queryBatches (mac : MacAdapter) (tokenId : UInt32) :
    Nat → List PolicyInfo → Except ErrCode (List SandboxRetType)
  | _, [] => .ok []
  | 0, _ :: _ => .ok []
  | n + 1, policy =>
    let batch := policy.take MAX_POLICY_NUM
    match mac.queryIoctl tokenId batch with
    | none => .error .SANDBOX_MANAGER_MAC_IOCTL_ERR
    | some answer =>
      match queryBatches mac tokenId n (policy.drop MAX_POLICY_NUM) with
      | .error e => .error e
      | .ok results =>
        .ok ((List.range batch.length).map (fun i => setQueryResult (answer i)) ++ results)

def querySandboxPolicy (mac : MacAdapter) (tokenId : UInt32) (policy : List PolicyInfo) :
    Except ErrCode (List SandboxRetType) :=
  if mac.fd < 0 then .error .SANDBOX_MANAGER_MAC_NOT_INIT
  else queryBatches mac tokenId policy.length policy

def unSetSandboxPolicy (mac : MacAdapter) (calls : List (UInt32 × PolicyInfo)) (tokenId : UInt32)
    (policy : PolicyInfo) : ErrCode :=
  if mac.fd < 0 then .SANDBOX_MANAGER_MAC_NOT_INIT
  else if mac.unsetIoctl calls tokenId policy then .SANDBOX_MANAGER_OK
  else .SANDBOX_MANAGER_MAC_IOCTL_ERR

def findInGrantMap (env : Env) (policy : PolicyInfo) : Option Bytes :=
  (env.userGrantMap.find? fun entry => coversString entry.1 policy.path).map Prod.snd

def isVerifyPermissionPass (env : Env) (tokenId : UInt32) (policy : PolicyInfo) : Bool :=
  match findInGrantMap env policy with
  | none => false
  | some permission => env.verifyAccessToken tokenId permission

/-! ### `AddPolicy` -/

def isValid (policy : PolicyInfo) : Bool :=
  checkPolicyValidity policy .NORMAL_POLICY = .OPERATE_SUCCESSFULLY

/-- The two index lists of `FilterValidPolicyInBatch`. -/
def isMediaIndex (policy : PolicyInfo) : Bool := isValid policy && isMediaPolicy policy.path

def isPassIndex (policy : PolicyInfo) : Bool := isValid policy && !isMediaPolicy policy.path

/-- Whether the loop of `AddNormalPolicy` puts a queried policy among those to add. -/
def isPersistable (env : Env) (tokenId : UInt32) (queried : PolicyInfo × SandboxRetType) : Bool :=
  match queried.2 with
  | .OPERATE_SUCCESSFULLY => true
  | .FORBIDDEN_TO_BE_PERSISTED_BY_FLAG => isVerifyPermissionPass env tokenId queried.1
  | _ => false

def addToDatabaseIfNotDuplicate (env : Env) (t : Table) (tokenId : UInt32)
    (policies : List PolicyInfo) (flag : UInt32) : Option Table :=
  if policies = [] then some t
  else if env.addOk then
    some (rdbAdd t (policies.map (policyRow tokenId flag)) (if flag = 1 then .REPLACE else .IGNORE))
  else none

/-- `policy` are the policies of `queryPolicyIndex`. -/
def addNormalPolicy (env : Env) (t : Table) (tokenId : UInt32) (policy : List PolicyInfo)
    (flag : UInt32) : Table × Except ErrCode (List SandboxRetType) :=
  if !env.mac.isMacSupport then (t, .ok (policy.map fun _ => .OPERATE_SUCCESSFULLY))
  else
    match querySandboxPolicy env.mac tokenId policy with
    | .error e => (t, .error e)
    | .ok queryResults =>
      let queried := policy.zip queryResults
      let addPolicies := (queried.filter (isPersistable env tokenId)).map Prod.fst
      let result : List SandboxRetType := queried.map fun q =>
        if isPersistable env tokenId q then .OPERATE_SUCCESSFULLY else .FORBIDDEN_TO_BE_PERSISTED
      match addToDatabaseIfNotDuplicate env t tokenId addPolicies flag with
      | none => (t, .error .SANDBOX_MANAGER_DB_ERR)
      | some t' => (t', .ok result)

def addMediaPart (env : Env) (tokenId : UInt32) (policy : List PolicyInfo)
    (results : List SandboxRetType) : Except ErrCode (List SandboxRetType) :=
  if policy.filter isMediaIndex = [] then .ok results
  else
    match env.media.addMediaPolicy tokenId (policy.filter isMediaIndex) with
    | .error e => .error e
    | .ok mediaResults => .ok (scatter isMediaIndex policy results mediaResults)

def addPolicy (env : Env) (t : Table) (tokenId : UInt32) (policy : List PolicyInfo)
    (flag : UInt32) : Table × ErrCode × List SandboxRetType :=
  match addMediaPart env tokenId policy
      (policy.map fun p => checkPolicyValidity p .NORMAL_POLICY) with
  | .error e => (t, e, [])
  | .ok results =>
    if policy.filter isPassIndex = [] then (t, .SANDBOX_MANAGER_OK, results)
    else
      match addNormalPolicy env t tokenId (policy.filter isPassIndex) flag with
      | (t', .error e) => (t', e, [])
      | (t', .ok queryResults) =>
        (t', .SANDBOX_MANAGER_OK, scatter isPassIndex policy results queryResults)

/-! ### `MatchPolicy` -/

def processPolicyMatch (trieTreeNew : PolicyTrie) (policy : PolicyInfo) : SandboxRetType :=
  let checkPolicyRet := checkPolicyValidity policy .NORMAL_POLICY
  if checkPolicyRet ≠ .OPERATE_SUCCESSFULLY then checkPolicyRet
  else if checkPathNew trieTreeNew policy.path policy.mode then .OPERATE_SUCCESSFULLY
  else .POLICY_HAS_NOT_BEEN_PERSISTED

/-- The older trie decides only whether there is anything to match: a difference between
the two verdicts is reported and the newer one returned. -/
def matchNormalPolicy (env : Env) (t : Table) (tokenId : UInt32) (policy : List PolicyInfo) :
    Except ErrCode (List SandboxRetType) :=
  if !env.findOk then .error .SANDBOX_MANAGER_DB_ERR
  else
    let rows := tokenRows t tokenId
    let trieTree := insertPaths
      (initTrieWithCaseSensitivity env.caseInsensitivePaths env.caseSensitivePaths) rows
    let trieTreeNew := insertPaths (addDeniedPaths builtinTrie env.mac.blockedInheritPaths) rows
    if isEmpty trieTree then .ok (policy.map fun _ => .POLICY_HAS_NOT_BEEN_PERSISTED)
    else .ok (policy.map (processPolicyMatch trieTreeNew))

def isMedia (policy : PolicyInfo) : Bool := isMediaPolicy policy.path

def isNormal (policy : PolicyInfo) : Bool := !isMediaPolicy policy.path

def getMediaPolicyCommonWork (env : Env) (tokenId : UInt32) (policy : List PolicyInfo)
    (results : List SandboxRetType) : Except ErrCode (List SandboxRetType) :=
  if policy.filter isMedia = [] then .ok results
  else
    match env.media.getMediaPermission tokenId (policy.filter isMedia) with
    | .error e => .error e
    | .ok checkMediaResult => .ok (scatter isMedia policy results (checkMediaResult.map fun b =>
        if b then .OPERATE_SUCCESSFULLY else .POLICY_HAS_NOT_BEEN_PERSISTED))

def matchPolicy (env : Env) (t : Table) (tokenId : UInt32) (policy : List PolicyInfo) :
    ErrCode × List SandboxRetType :=
  match getMediaPolicyCommonWork env tokenId policy
      (policy.map fun _ => .OPERATE_SUCCESSFULLY) with
  | .error e => (e, [])
  | .ok results =>
    if policy.filter isNormal = [] then (.SANDBOX_MANAGER_OK, results)
    else
      match matchNormalPolicy env t tokenId (policy.filter isNormal) with
      | .error e => (e, [])
      | .ok checkNormalResult =>
        (.SANDBOX_MANAGER_OK, scatter isNormal policy results checkNormalResult)

/-! ### `RemovePolicy` -/

/-- The kernel rules unset so far and the rows to delete at the end. -/
structure RemoveState where
  unset : List (UInt32 × PolicyInfo)
  conditions : List RowKey

/-- The loop over the paths matching one policy, left at the first failure. -/
def unsetAndRecord (env : Env) (tokenId : UInt32) (policy : PolicyInfo) :
    List Bytes → RemoveState → RemoveState × ErrCode
  | [], s => (s, .SANDBOX_MANAGER_OK)
  | matchedPath :: rest, s =>
    let matchedPolicy := { policy with path := matchedPath }
    match unSetSandboxPolicy env.mac s.unset tokenId matchedPolicy with
    | .SANDBOX_MANAGER_OK => unsetAndRecord env tokenId policy rest
        ⟨s.unset ++ [(tokenId, matchedPolicy)],
          s.conditions ++ [transferPolicyToGeneric tokenId matchedPolicy]⟩
    | e => (s, e)

/-- The loop of `RemoveNormalPolicy`. A media policy is only noted by the validation and
searched for like any other. -/
def removeLoop (env : Env) (trieTree : PolicyTrie) (tokenId : UInt32) :
    List PolicyInfo → RemoveState → RemoveState × ErrCode × List SandboxRetType
  | [], s => (s, .SANDBOX_MANAGER_OK, [])
  | policy :: rest, s =>
    let checkPolicyRet := checkPolicyValidity policy .NORMAL_POLICY
    if checkPolicyRet ≠ .OPERATE_SUCCESSFULLY then
      let (s, ret, results) := removeLoop env trieTree tokenId rest s
      (s, ret, checkPolicyRet :: results)
    else
      let matchingPaths := findMatchingPaths trieTree policy.path policy.mode
      if matchingPaths = [] then
        let (s, ret, results) := removeLoop env trieTree tokenId rest s
        (s, ret, .POLICY_HAS_NOT_BEEN_PERSISTED :: results)
      else
        match unsetAndRecord env tokenId policy matchingPaths s with
        | (s, .SANDBOX_MANAGER_OK) =>
          let (s, ret, results) := removeLoop env trieTree tokenId rest s
          (s, ret, .OPERATE_SUCCESSFULLY :: results)
        | (s, ret) => (s, ret, .OPERATE_SUCCESSFULLY :: rest.map fun _ => .OPERATE_SUCCESSFULLY)

structure RemoveOutcome where
  table : Table
  ret : ErrCode
  results : List SandboxRetType
  unset : List (UInt32 × PolicyInfo)

def removeNormalPolicy (env : Env) (t : Table) (tokenId : UInt32) (policy : List PolicyInfo) :
    RemoveOutcome :=
  if !env.findOk then
    ⟨t, .SANDBOX_MANAGER_DB_ERR, policy.map fun _ => .OPERATE_SUCCESSFULLY, []⟩
  else
    let trieTree := insertPathsPreserving
      (initTrieWithCaseSensitivity env.caseInsensitivePaths env.caseSensitivePaths)
      (tokenRows t tokenId)
    let (s, ret, results) := removeLoop env trieTree tokenId policy ⟨[], []⟩
    if ret ≠ .SANDBOX_MANAGER_OK then ⟨t, ret, results, s.unset⟩
    else if s.conditions = [] then ⟨t, .SANDBOX_MANAGER_OK, results, s.unset⟩
    else if env.removeOk then
      ⟨rdbRemove t s.conditions, .SANDBOX_MANAGER_OK, results, s.unset⟩
    else ⟨t, .SANDBOX_MANAGER_DB_ERR, results, s.unset⟩

def removePolicy (env : Env) (t : Table) (tokenId : UInt32) (policy : List PolicyInfo) :
    RemoveOutcome :=
  if !env.mac.isMacSupport then
    ⟨t, .SANDBOX_MANAGER_OK, policy.map fun _ => .OPERATE_SUCCESSFULLY, []⟩
  else
    let o := removeNormalPolicy env t tokenId policy
    if o.ret ≠ .SANDBOX_MANAGER_OK then o
    else if policy.filter isMediaIndex = [] then o
    else
      match env.media.removeMediaPolicy tokenId (policy.filter isMediaIndex) with
      | .error e => { o with ret := e }
      | .ok checkMediaResult =>
        { o with results := scatter isMediaIndex policy o.results checkMediaResult }

end SandboxManager.Policy
