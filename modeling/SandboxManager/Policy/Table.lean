import SandboxManager.Library.KeyedTable
import SandboxManager.Trie.Search

/-! Policies and the persisted-policy table.

The validity check, the path normalisation and the row a policy is stored as, from
`policy_info_manager.cpp`; the table with its primary key, from
`sandbox_manager_rdb.cpp` and the table's creation statement. -/
namespace SandboxManager.Policy
open Library Trie

inductive PolicyType where
  | UNKNOWN
  | SELF_PATH
  | AUTHORIZATION_PATH
  | OTHERS_PATH
deriving DecidableEq, Repr

structure PolicyInfo where
  path : Bytes
  mode : UInt64
  type : PolicyType := .UNKNOWN
deriving DecidableEq, Repr

inductive SandboxRetType where
  | OPERATE_SUCCESSFULLY
  | FORBIDDEN_TO_BE_PERSISTED
  | INVALID_MODE
  | INVALID_PATH
  | POLICY_HAS_NOT_BEEN_PERSISTED
  | POLICY_MAC_FAIL
  | FORBIDDEN_TO_BE_PERSISTED_BY_FLAG
deriving DecidableEq, Repr, Inhabited

/-- `SandboxManagerErrCode`, as far as the modelled operations return it. -/
inductive ErrCode where
  | SANDBOX_MANAGER_OK
  | PERMISSION_DENIED
  | INVALID_PARAMTER
  | SANDBOX_MANAGER_SERVICE_PARCEL_ERR
  | SANDBOX_MANAGER_DB_ERR
  | SANDBOX_MANAGER_MAC_NOT_INIT
  | SANDBOX_MANAGER_MAC_IOCTL_ERR
  | SANDBOX_MANAGER_MEDIA_CALL_ERR
deriving DecidableEq, Repr

inductive SetPolicyType where
  | NORMAL_POLICY
  | DENY_POLICY
deriving DecidableEq, Repr

def READ_MODE : UInt64 := 1
def WRITE_MODE : UInt64 := 2
def MAX_MODE : UInt64 := 32
def MAX_DENY_MODE : UInt64 := 4096
def POLICY_PATH_LIMIT : Nat := 4095

/-! ### Checks -/

def MEDIA_PATH_1 : Bytes := bytes "/data/storage/el2/media"

def isMediaPolicy (path : Bytes) : Bool := MEDIA_PATH_1.isPrefixOf path

def isModeMatchPolicyType (mode : UInt64) (type : SetPolicyType) : Bool :=
  match type with
  | .DENY_POLICY => MAX_MODE ≤ mode && mode < MAX_DENY_MODE
  | .NORMAL_POLICY => READ_MODE ≤ mode && mode < MAX_MODE

/-- The path's length is narrowed to 32 bits before it is checked. -/
def checkPolicyValidity (policy : PolicyInfo) (type : SetPolicyType) : SandboxRetType :=
  let length := policy.path.length % 2 ^ 32
  if length = 0 ∨ length > POLICY_PATH_LIMIT then .INVALID_PATH
  else if isMediaPolicy policy.path ∧ (policy.mode < READ_MODE ∨ policy.mode > READ_MODE + WRITE_MODE)
  then .INVALID_MODE
  else if isModeMatchPolicyType policy.mode type then .OPERATE_SUCCESSFULLY
  else .INVALID_MODE

/-! ### Paths as they are stored -/

/-- One slash at the end is dropped. -/
def adjustPath (path : Bytes) : Bytes :=
  if path.getLast? = some slash then path.dropLast else path

def getDepth (path : Bytes) : Int :=
  let inputPath := adjustPath path
  if inputPath = [] then 0
  else if inputPath.getLast? = some slash then (inputPath.count slash : Int) - 1
  else inputPath.count slash

theorem splitPath_adjustPath (path : Bytes) : splitPath (adjustPath path) = splitPath path := by
  unfold adjustPath
  split
  case isFalse => rfl
  case isTrue h =>
    obtain ⟨init, rfl⟩ : ∃ init, path = init ++ [slash] := List.getLast?_eq_some_iff.mp h
    rw [List.dropLast_concat, splitPath, splitPath, segments_concat_sep]

/-! ### The table -/

structure Row where
  tokenId : UInt32
  path : Bytes
  mode : UInt64
  depth : Int
  flag : UInt32
  volumeUnmountTs : Int := 0
deriving DecidableEq, Repr

/-- The primary key, which is also the condition `TransferPolicyToGeneric` builds. -/
structure RowKey where
  tokenId : UInt32
  depth : Int
  path : Bytes
  mode : UInt64
deriving DecidableEq, Repr

def Row.key (r : Row) : RowKey := ⟨r.tokenId, r.depth, r.path, r.mode⟩

abbrev Table := KeyedTable Row.key

def transferPolicyToGeneric (tokenId : UInt32) (policy : PolicyInfo) : RowKey :=
  let path := adjustPath policy.path
  ⟨tokenId, getDepth path, path, policy.mode⟩

/-- The row `AddToDatabaseIfNotDuplicate` puts for a policy. -/
def policyRow (tokenId : UInt32) (flag : UInt32) (policy : PolicyInfo) : Row :=
  let condition := transferPolicyToGeneric tokenId policy
  { tokenId := condition.tokenId, path := condition.path, mode := condition.mode,
    depth := condition.depth, flag }

inductive ConflictResolution where
  | IGNORE
  | REPLACE
deriving DecidableEq, Repr

def insertWithConflictResolution (t : Table) (row : Row) : ConflictResolution → Table
  | .IGNORE => t.insertIgnore row
  | .REPLACE => t.insertReplace row

/-- `SandboxManagerRdb::Add`, one transaction. -/
def rdbAdd (t : Table) (values : List Row) (duplicateMode : ConflictResolution) : Table :=
  values.foldl (fun t row => insertWithConflictResolution t row duplicateMode) t

/-- `SandboxManagerRdb::Remove`, one transaction. -/
def rdbRemove (t : Table) (conditions : List RowKey) : Table :=
  conditions.foldl (fun t condition => t.delete fun row => row.key = condition) t

/-- What the tries are built from: the path and the 32-bit mode of each row of a token. -/
def tokenRows (t : Table) (tokenId : UInt32) : List (Bytes × UInt64) :=
  (t.rows.filter fun row => row.tokenId = tokenId).map fun row =>
    (row.path, row.mode.toUInt32.toUInt64)

theorem mem_rdbRemove {t : Table} {conditions : List RowKey} {r : Row} :
    r ∈ rdbRemove t conditions ↔ r ∈ t ∧ r.key ∉ conditions := by
  induction conditions generalizing t with
  | nil => simp [rdbRemove]
  | cons c rest ih =>
    have hrest : rdbRemove t (c :: rest) = rdbRemove (t.delete fun row => row.key = c) rest := rfl
    rw [hrest, ih, KeyedTable.mem_delete, List.mem_cons, not_or, and_assoc, decide_eq_false_iff_not]

/-- Adding rows keeps every key that is stored. -/
theorem exists_key_insert {t : Table} {row r : Row} (m : ConflictResolution) (hr : r ∈ t) :
    ∃ r' ∈ insertWithConflictResolution t row m, r'.key = r.key := by
  cases m with
  | IGNORE => exact ⟨r, KeyedTable.mem_insertIgnore.mpr (Or.inl hr), rfl⟩
  | REPLACE =>
    by_cases h : r.key = row.key
    · exact ⟨row, KeyedTable.mem_insertReplace.mpr (Or.inl rfl), h.symm⟩
    · exact ⟨r, KeyedTable.mem_insertReplace.mpr (Or.inr ⟨hr, h⟩), rfl⟩

theorem exists_key_inserted (t : Table) (row : Row) (m : ConflictResolution) :
    ∃ r ∈ insertWithConflictResolution t row m, r.key = row.key := by
  cases m with
  | IGNORE => exact t.exists_key_insertIgnore row
  | REPLACE => exact ⟨row, KeyedTable.mem_insertReplace.mpr (Or.inl rfl), rfl⟩

theorem mem_of_mem_insert {t : Table} {row r : Row} {m : ConflictResolution}
    (h : r ∈ insertWithConflictResolution t row m) : r ∈ t ∨ r = row := by
  cases m with
  | IGNORE => exact (KeyedTable.mem_insertIgnore.mp h).imp_right And.left
  | REPLACE => exact (KeyedTable.mem_insertReplace.mp h).symm.imp_left And.left

/-- After an addition exactly the keys stored before and the keys added are stored. -/
theorem exists_key_rdbAdd {t : Table} {values : List Row} {m : ConflictResolution} {k : RowKey} :
    (∃ r ∈ rdbAdd t values m, r.key = k) ↔ (∃ r ∈ t, r.key = k) ∨ ∃ v ∈ values, v.key = k := by
  induction values generalizing t with
  | nil => simp [rdbAdd]
  | cons v rest ih =>
    have hrest : rdbAdd t (v :: rest) m = rdbAdd (insertWithConflictResolution t v m) rest m := rfl
    have hinsert : (∃ r ∈ insertWithConflictResolution t v m, r.key = k) ↔
        (∃ r ∈ t, r.key = k) ∨ v.key = k := by
      constructor
      · rintro ⟨r, hr, rfl⟩
        rcases mem_of_mem_insert hr with h | rfl
        · exact Or.inl ⟨r, h, rfl⟩
        · exact Or.inr rfl
      · rintro (⟨r, hr, rfl⟩ | rfl)
        · exact exists_key_insert m hr
        · exact exists_key_inserted t v m
    rw [hrest, ih, hinsert, or_assoc, List.exists_mem_cons_iff]

theorem mem_of_mem_rdbAdd {t : Table} {values : List Row} {m : ConflictResolution} {r : Row}
    (h : r ∈ rdbAdd t values m) : r ∈ t ∨ r ∈ values := by
  induction values generalizing t with
  | nil => exact Or.inl h
  | cons v rest ih =>
    rcases ih h with h | h
    · rcases mem_of_mem_insert h with h | rfl
      · exact Or.inl h
      · exact Or.inr (List.mem_cons_self ..)
    · exact Or.inr (List.mem_cons_of_mem v h)

end SandboxManager.Policy
