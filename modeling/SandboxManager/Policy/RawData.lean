import SandboxManager.Claw.PayloadReads
import SandboxManager.Library.Decoder
import SandboxManager.Policy.Table

/-! Policies in one buffer (`policy_vec_raw_data.h`).

A list of policies crosses the process boundary as one run of bytes: their number, and for each
the length of its path, the path, the mode and the type. `unmarshalling` reads it back through a
`std::stringstream`; `PolicyVecBatchReader` walks over the bytes themselves, so many policies a
call, and ends a path at its first NUL. -/
namespace SandboxManager.Policy
open Library Claw

def POLICY_VEC_MAX_NUM : UInt32 := 300000

/-- A policy as it lies in a buffer, where any four bytes are a type. -/
structure RawPolicyInfo where
  path : Bytes
  mode : UInt64
  type : UInt32
deriving DecidableEq, Repr

/-- The bytes and their number, which is told in 32 bits. -/
structure PolicyVecRawData where
  data : Bytes
  fits : data.length < 2 ^ 32

def PolicyVecRawData.size (raw : PolicyVecRawData) : UInt32 := UInt32.ofNat raw.data.length

def ofLe64 (word : Bytes) : UInt64 :=
  UInt64.ofNat ((ofLe32 (word.take 4)).toNat + (ofLe32 (word.drop 4)).toNat * 4294967296)

/-! ### Writing -/

def RawPolicyInfo.serialize (policy : RawPolicyInfo) : Bytes :=
  let pathLen := UInt32.ofNat policy.path.length
  toLe32 pathLen ++ policy.path.take pathLen.toNat ++ u64Le policy.mode ++ toLe32 policy.type

def serializedData (policies : List RawPolicyInfo) : Bytes :=
  let policyNum := UInt32.ofNat policies.length
  toLe32 policyNum ++ (policies.take policyNum.toNat).flatMap RawPolicyInfo.serialize

/-- The size is narrowed; nobody sees what lies beyond it. -/
def marshalling (policies : List RawPolicyInfo) : PolicyVecRawData where
  data := (serializedData policies).take ((serializedData policies).length % 2 ^ 32)
  fits := by
    rw [List.length_take]
    exact lt_of_le_of_lt (Nat.min_le_left _ _) (Nat.mod_lt _ (by decide))

/-! ### Reading through a stream -/

/-- A stream that has been written and is now read. -/
structure StringStream where
  content : Bytes
  next : Nat := 0
  failbit : Bool := false
  eofbit : Bool := false

/-- `read`: what is extracted. Too few characters set both bits, and a stream that is not good
extracts nothing. -/
def StringStream.read (ss : StringStream) (n : Nat) : Bytes × StringStream :=
  if ss.failbit || ss.eofbit then ([], { ss with failbit := true })
  else
    let chars := (ss.content.drop ss.next).take n
    let short := decide (chars.length < n)
    (chars, { ss with next := ss.next + chars.length, failbit := short, eofbit := short })

def StringStream.tellg (ss : StringStream) : Int := if ss.failbit then -1 else ss.next

/-- A `read` and the test `fail() || eof()` after it. -/
def fetch (n : Nat) : Decoder StringStream Bytes := fun ss =>
  let (chars, ss) := ss.read n
  if ss.failbit || ss.eofbit then none else some (chars, ss)

/-- The length is compared with what is left of the stream. -/
def fetchPath (ssLength pathLen : UInt32) : Decoder StringStream Bytes := fun ss =>
  if pathLen > ssLength - UInt32.ofInt ss.tellg then none else fetch pathLen.toNat ss

/-- One turn of the loop of `Unmarshalling`. -/
def fetchPolicy (ssLength : UInt32) : Decoder StringStream RawPolicyInfo := do
  let pathLen ← fetch 4
  let path ← fetchPath ssLength (ofLe32 pathLen)
  let mode ← fetch 8
  let type ← fetch 4
  return ⟨path, ofLe64 mode, ofLe32 type⟩

def unmarshalling (raw : PolicyVecRawData) (out : List RawPolicyInfo) :
    ErrCode × List RawPolicyInfo :=
  match fetch 4 { content := raw.data } with
  | none => (.SANDBOX_MANAGER_SERVICE_PARCEL_ERR, out)
  | some (policyNum, ss) =>
    if ofLe32 policyNum > POLICY_VEC_MAX_NUM then (.SANDBOX_MANAGER_SERVICE_PARCEL_ERR, out)
    else
      match (fetchPolicy raw.size).collect (ofLe32 policyNum).toNat ss out with
      | (out, none) => (.SANDBOX_MANAGER_SERVICE_PARCEL_ERR, out)
      | (out, some _) => (.SANDBOX_MANAGER_OK, out)

/-! ### Reading in batches -/

/-- `dataPtr_` is what it points at. -/
structure Cursor where
  dataPtr : Bytes
  remainingSize : UInt32

def Cursor.advance (cursor : Cursor) (n : UInt32) : Cursor :=
  ⟨cursor.dataPtr.drop n.toNat, cursor.remainingSize - n⟩

def readTo (size : UInt32) : Decoder Cursor Bytes := fun cursor =>
  if cursor.remainingSize < size then none
  else some (cursor.dataPtr.take size.toNat, cursor.advance size)

/-- The path ends at its first NUL; all of it is passed over. -/
def readPath (pathLen : UInt32) : Decoder Cursor Bytes := fun cursor =>
  if pathLen > cursor.remainingSize then none
  else some (cStr (cursor.dataPtr.take pathLen.toNat), cursor.advance pathLen)

/-- One turn of the loop of `ReadPolicies`. -/
def readPolicy : Decoder Cursor RawPolicyInfo := do
  let pathLen ← readTo 4
  let path ← readPath (ofLe32 pathLen)
  let mode ← readTo 8
  let type ← readTo 4
  return ⟨path, ofLe64 mode, ofLe32 type⟩

/-- A reader that failed is not asked again. -/
structure PolicyVecBatchReader where
  cursor : Cursor
  policyCount : UInt32
  isValid : Bool

def PolicyVecBatchReader.ofRawData (raw : PolicyVecRawData) : PolicyVecBatchReader :=
  match readTo 4 ⟨raw.data, raw.size⟩ with
  | none => ⟨⟨raw.data, raw.size⟩, 0, false⟩
  | some (policyCount, cursor) =>
    ⟨cursor, ofLe32 policyCount, ¬ ofLe32 policyCount > POLICY_VEC_MAX_NUM⟩

/-- The policies of the batch, and the reader unless it failed. -/
def PolicyVecBatchReader.readNextBatch (reader : PolicyVecBatchReader) (count : UInt32) :
    List RawPolicyInfo × Option PolicyVecBatchReader :=
  if !reader.isValid then ([], none)
  else
    match readPolicy.collect count.toNat reader.cursor [] with
    | (out, none) => (out, none)
    | (out, some cursor) => (out, some { reader with cursor })

end SandboxManager.Policy
