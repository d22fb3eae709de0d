import SandboxManager.Library.Like
import SandboxManager.Share.ShareMap

/-! Unmounting and mounting a volume (`volume_preserve_manager.cpp`, with the queries it makes of
`sandbox_manager_rdb.cpp`).

While a volume is unmounted the rows on it carry the time of the unmounting; mounting it again
clears the time, unless it lies too far back, in which case the row goes. Every row is read into
a record first and found again by what the record says, so columns go through 32 bits. -/
namespace SandboxManager.Policy
open Library Trie Share

/-! ### Records -/

/-- `GetInt`: a column narrowed to 32 bits. -/
def getInt (column : Int) : Int := column.bmod (2 ^ 32)

/-- The mode is put into its column as a signed number. -/
def Row.modeColumn (row : Row) : Int := row.mode.toInt64.toInt

/-- A row as `ResultToGenericValues` reads it. -/
structure Record where
  tokenId : UInt32
  path : Bytes
  mode : Int
  depth : Int
  flag : Int
  volumeUnmountTs : Int
deriving DecidableEq, Repr

def resultToGenericValues (row : Row) : Record where
  tokenId := row.tokenId
  path := row.path
  mode := getInt row.modeColumn
  depth := getInt row.depth
  flag := getInt row.flag.toNat
  volumeUnmountTs := row.volumeUnmountTs

/-- `BuildRecordConditions`: the rows with the record's primary key. -/
def buildRecordConditions (record : Record) (row : Row) : Bool :=
  row.tokenId = record.tokenId && row.path = record.path && row.modeColumn = record.mode &&
    row.depth = record.depth

/-- A whole record as a condition. -/
def recordPredicates (record : Record) (row : Row) : Bool :=
  buildRecordConditions record row && (row.flag.toNat : Int) = record.flag &&
    row.volumeUnmountTs = record.volumeUnmountTs

def genericToPolicy (record : Record) : UInt32 × PolicyInfo :=
  (record.tokenId, { path := record.path, mode := UInt64.ofInt record.mode })

def setUnmountTs (ts : Int) (row : Row) : Row := { row with volumeUnmountTs := ts }

/-- `SandboxManagerRdb::Modify` of the time stamp. -/
def modifyUnmountTs (t : Table) (record : Record) (ts : Int) : Table :=
  t.modify (buildRecordConditions record) (setUnmountTs ts) fun _ => rfl

/-! ### Queries -/

/-- SQLite's LIKE with `\` as its escape character. -/
def sqliteLike : LikeSyntax UInt8 where
  any := 37
  one := 95
  esc := 92
  fold := tolower

def escapeLikeWildcards (input : Bytes) : Bytes := sqliteLike.escape input

def isSubPathIgnoreCase (filePath : Bytes) (row : Row) : Bool :=
  sqliteLike.like (escapeLikeWildcards filePath ++ bytes "/%") row.path ||
    toLowerCase row.path == toLowerCase filePath

def findSubPathIgnoreCase (t : Table) (filePath : Bytes) : List Record :=
  (t.rows.filter (isSubPathIgnoreCase filePath)).map resultToGenericValues

def findExpiredVolumeRecords (t : Table) (expiryThreshold : Int) : List Record :=
  (t.rows.filter fun row => 0 < row.volumeUnmountTs && row.volumeUnmountTs < expiryThreshold).map
    resultToGenericValues

/-! ### Valid volume paths -/

def normalizePath (path : Bytes) : Bytes :=
  let normalized := lexicallyNormal path
  let stripped := normalized.rdropWhile (· = slash)
  if stripped = [] then normalized.take 1 else stripped

def validateGenericPath (path : Bytes) : SandboxRetType :=
  if 0 ∈ path then .INVALID_PATH
  else if normalizePath path ≠ path then .INVALID_PATH
  else if path = [] ∨ path.length > POLICY_PATH_LIMIT then .INVALID_PATH
  else if path.head? ≠ some slash then .INVALID_PATH
  else if path.length > 1 ∧ path[1]? = some slash then .INVALID_PATH
  else if path.length > 1 ∧ path.getLast? = some slash then .INVALID_PATH
  else .OPERATE_SUCCESSFULLY

inductive VolumeType where
  | EXTERNAL
  | VOLDATA
deriving DecidableEq, Repr

def VOLUME_PREFIXES : List (VolumeType × Bytes) :=
  [(.EXTERNAL, bytes "/storage/External/"), (.VOLDATA, bytes "/storage/voldata/")]

/-- What follows the prefix. -/
def matchVolumePrefix (path : Bytes) : Option Bytes :=
  (VOLUME_PREFIXES.find? fun entry => entry.2.isPrefixOf path).map fun entry =>
    path.drop entry.2.length

/-- The path without a slash at its end. -/
def validatePath (path : Bytes) : Option Bytes :=
  let adjusted := adjustPath path
  if path = [] then none
  else if validateGenericPath adjusted ≠ .OPERATE_SUCCESSFULLY then none
  else
    match matchVolumePrefix adjusted with
    | none => none
    | some suffix => if suffix = [] then none else some adjusted

/-! ### The two operations -/

/-- What answers from outside: the kernel, the access-token service and the database. -/
structure VolumeEnv where
  unSetPolicy : UInt32 → PolicyInfo → ErrCode
  /-- `SetPolicy` of one policy with flag 1, for a user. -/
  setPolicy : UInt32 → PolicyInfo → Int → ErrCode
  /-- `GetHapTokenInfo`, if it answers. -/
  userIdOf : UInt32 → Option Int
  findOk : Bool
  findExpiredOk : Bool
  removeOk : Bool
  modifyOk : Record → Bool

/-- Thirty days, unless set otherwise. -/
def VOLUME_POLICY_AGING_TTL_MS : Int := 30 * 24 * 60 * 60 * 1000

structure VolumeOutcome where
  table : Table
  ret : ErrCode := .SANDBOX_MANAGER_OK
  /-- The kernel rules unset and set, in order. -/
  unset : List (UInt32 × PolicyInfo) := []
  activated : List (UInt32 × PolicyInfo × Int) := []

def deactiveRecord (env : VolumeEnv) (now : Int) (o : VolumeOutcome) (record : Record) :
    VolumeOutcome :=
  let (tokenId, policy) := genericToPolicy record
  { o with
    table := if env.modifyOk record then modifyUnmountTs o.table record now else o.table
    unset := o.unset ++ [(tokenId, policy)]
    ret :=
      if env.unSetPolicy tokenId policy ≠ .SANDBOX_MANAGER_OK then .SANDBOX_MANAGER_MAC_IOCTL_ERR
      else if !env.modifyOk record then .SANDBOX_MANAGER_DB_ERR else o.ret }

def deactiveRecords (env : VolumeEnv) (t : Table) (records : List Record) (now : Int) :
    VolumeOutcome :=
  records.foldl (deactiveRecord env now) { table := t }

/-- `SandboxManagerRdb::Remove` of whole records, one transaction. -/
def removeRecords (t : Table) (records : List Record) : Table :=
  records.foldl (fun t record => t.delete (recordPredicates record)) t

/-- `none` is a database error. -/
def deleteExpiredRecords (env : VolumeEnv) (t : Table) (now agingTtlMs : Int) : Option Table :=
  if !env.findExpiredOk then none
  else
    let expired := findExpiredVolumeRecords t (now - agingTtlMs)
    if expired = [] then some t
    else if env.removeOk then some (removeRecords t expired)
    else none

def filterRestorableRecords (records : List Record) (now agingTtlMs : Int) : List Record :=
  records.filter fun record =>
    record.volumeUnmountTs > 0 && now - record.volumeUnmountTs ≤ agingTtlMs

def activateRecord (env : VolumeEnv) (o : VolumeOutcome) (record : Record) : VolumeOutcome :=
  let (tokenId, policy) := genericToPolicy record
  let userId := (env.userIdOf tokenId).getD (-1)
  { o with
    table := if env.modifyOk record then modifyUnmountTs o.table record 0 else o.table
    activated := o.activated ++ [(tokenId, policy, userId)]
    ret :=
      if !env.modifyOk record then .SANDBOX_MANAGER_DB_ERR
      else if env.setPolicy tokenId policy userId ≠ .SANDBOX_MANAGER_OK then
        .SANDBOX_MANAGER_MAC_IOCTL_ERR
      else o.ret }

def activateRecords (env : VolumeEnv) (t : Table) (records : List Record) : VolumeOutcome :=
  records.foldl (activateRecord env) { table := t }

/-- Unmounting, at the time `now`. -/
def deactivePolicyByPath (env : VolumeEnv) (now : Int) (t : Table) (volumeMountPath : Bytes) :
    VolumeOutcome :=
  match validatePath volumeMountPath with
  | none => { table := t, ret := .INVALID_PARAMTER }
  | some adjustedPath =>
    if !env.findOk then { table := t, ret := .SANDBOX_MANAGER_DB_ERR }
    else deactiveRecords env t (findSubPathIgnoreCase t adjustedPath) now

/-- Mounting, at the time `now`. -/
def activePolicyByPath (env : VolumeEnv) (agingTtlMs now : Int) (t : Table)
    (volumeMountPath : Bytes) : VolumeOutcome :=
  match validatePath volumeMountPath with
  | none => { table := t, ret := .INVALID_PARAMTER }
  | some adjustedPath =>
    match deleteExpiredRecords env t now agingTtlMs with
    | none => { table := t, ret := .SANDBOX_MANAGER_DB_ERR }
    | some t =>
      if !env.findOk then { table := t, ret := .SANDBOX_MANAGER_DB_ERR }
      else
        activateRecords env t
          (filterRestorableRecords (findSubPathIgnoreCase t adjustedPath) now agingTtlMs)

end SandboxManager.Policy
