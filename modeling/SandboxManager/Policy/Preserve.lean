import SandboxManager.Policy.Table

/-! Policies that outlive their application (`persistent_preserve.cpp`).

An application that is removed may leave its persisted policies behind. A record then tells, for
the application's identifier and a user, the token the rows belong to; when the application comes
back under a new token, the rows are handed over to it and the record goes. Records and rows are
in two tables, and no transaction spans both. -/
namespace SandboxManager.Policy
open Library

structure BundleRecord where
  bundleName : Bytes
  userId : Int32
  appIdentifier : Bytes
  originalTokenId : UInt32
  timestamp : Int64
deriving DecidableEq

/-- Every column is part of the primary key. -/
abbrev BundleTable := KeyedTable (id : BundleRecord → BundleRecord)

/-- The two tables, as one event finds and leaves them. -/
structure PreserveState where
  policies : Table
  bundles : BundleTable

/-- The clock during an event, and which database calls succeed. -/
structure PreserveEnv where
  time : Int64
  removeBundleOk : Bool
  addBundleOk : Bool
  findBundleOk : Bool
  removeDuplicateOk : Nat → Bool
  findPolicyOk : Bool
  modifyPolicyOk : Bool
  removePolicyOk : Bool

section
variable (env : PreserveEnv)

/-! ### Records -/

/-- The condition on the identifier and the user. -/
def BundleRecord.isOf (appIdentifier : Bytes) (userId : Int32) (record : BundleRecord) : Bool :=
  record.appIdentifier = appIdentifier && record.userId = userId

def deleteBundlePersistentPolicies (appIdentifier : Bytes) (userId : Int32) (s : PreserveState) :
    ErrCode × PreserveState :=
  if appIdentifier = [] then (.INVALID_PARAMTER, s)
  else if env.removeBundleOk then
    (.SANDBOX_MANAGER_OK, { s with bundles := s.bundles.delete (·.isOf appIdentifier userId) })
  else (.SANDBOX_MANAGER_DB_ERR, s)

/-- What the removal of the older records answers is not looked at. -/
def saveBundlePersistentPolicies (bundleName : Bytes) (userId : Int32) (appIdentifier : Bytes)
    (tokenId : UInt32) (s : PreserveState) : ErrCode × PreserveState :=
  if appIdentifier = [] then (.INVALID_PARAMTER, s)
  else
    let s := (deleteBundlePersistentPolicies env appIdentifier userId s).2
    let bundlePolicy := ⟨bundleName, userId, appIdentifier, tokenId, env.time⟩
    if env.addBundleOk then
      (.SANDBOX_MANAGER_OK, { s with bundles := s.bundles.insertIgnore bundlePolicy })
    else (.SANDBOX_MANAGER_DB_ERR, s)

def fetchBundleRecordsByIdentifier (appIdentifier : Bytes) (userId : Int32) (s : PreserveState) :
    Option (List BundleRecord) :=
  if env.findBundleOk then some (s.bundles.rows.filter (·.isOf appIdentifier userId)) else none

/-- The first record of the latest time, with its index. -/
def latestRecord : Nat → Nat × BundleRecord → List BundleRecord → Nat × BundleRecord
  | _, latest, [] => latest
  | i, latest, record :: bundleRecords =>
    latestRecord (i + 1)
      (if record.timestamp > latest.2.timestamp then (i, record) else latest) bundleRecords

/-- Every record but the latest goes, by its token. -/
def handleDuplicateBundleRecords (appIdentifier : Bytes) (userId : Int32) (first : BundleRecord)
    (bundleRecords : List BundleRecord) (s : PreserveState) : BundleRecord × PreserveState :=
  let latest := latestRecord 1 (0, first) bundleRecords
  let old := (first :: bundleRecords).zipIdx.filter fun record => record.2 ≠ latest.1
  (latest.2, old.foldl (fun s record =>
    if env.removeDuplicateOk record.2 then
      { s with bundles := s.bundles.delete fun r =>
          r.isOf appIdentifier userId && r.originalTokenId = record.1.originalTokenId }
    else s) s)

/-- The record, if there is one. -/
def findBundleRecord (appIdentifier : Bytes) (userId : Int32) (s : PreserveState) :
    ErrCode × Option BundleRecord × PreserveState :=
  match fetchBundleRecordsByIdentifier env appIdentifier userId s with
  | none => (.SANDBOX_MANAGER_DB_ERR, none, s)
  | some [] => (.SANDBOX_MANAGER_OK, none, s)
  | some [record] => (.SANDBOX_MANAGER_OK, some record, s)
  | some (first :: bundleRecords) =>
    let (record, s) := handleDuplicateBundleRecords env appIdentifier userId first bundleRecords s
    (.SANDBOX_MANAGER_OK, some record, s)

/-! ### Rows -/

def Row.isOf (tokenId : UInt32) (row : Row) : Bool := row.tokenId = tokenId

def Row.handedTo (tokenId : UInt32) (row : Row) : Row := { row with tokenId }

/-- The part of `RestoreBundlePersistentPolicies` after the record is found. -/
def handOver (originalTokenId newTokenId : UInt32) (s : PreserveState) : ErrCode × PreserveState :=
  if !env.findPolicyOk then (.SANDBOX_MANAGER_DB_ERR, s)
  else if s.policies.rows.filter (·.isOf originalTokenId) = [] then (.SANDBOX_MANAGER_OK, s)
  else if !env.modifyPolicyOk then (.SANDBOX_MANAGER_DB_ERR, s)
  else
    match s.policies.update? (·.isOf originalTokenId) (·.handedTo newTokenId) with
    | none => (.SANDBOX_MANAGER_DB_ERR, s)
    | some policies => (.SANDBOX_MANAGER_OK, { s with policies })

def restoreBundlePersistentPolicies (appIdentifier : Bytes) (userId : Int32) (newTokenId : UInt32)
    (s : PreserveState) : ErrCode × PreserveState :=
  if appIdentifier = [] then (.INVALID_PARAMTER, s)
  else
    match findBundleRecord env appIdentifier userId s with
    | (.SANDBOX_MANAGER_OK, none, s) => (.SANDBOX_MANAGER_OK, s)
    | (.SANDBOX_MANAGER_OK, some record, s) => handOver env record.originalTokenId newTokenId s
    | (ret, _, s) => (ret, s)

/-- What both handlers of an installation do. -/
def restoreAndDelete (appIdentifier : Bytes) (userId : Int32) (newTokenId : UInt32)
    (s : PreserveState) : PreserveState :=
  let (ret, s) := restoreBundlePersistentPolicies env appIdentifier userId newTokenId s
  if ret ≠ .SANDBOX_MANAGER_OK then s
  else (deleteBundlePersistentPolicies env appIdentifier userId s).2

end

end SandboxManager.Policy
