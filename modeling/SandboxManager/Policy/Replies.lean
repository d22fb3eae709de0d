import SandboxManager.Library.Measured
import SandboxManager.Policy.RawDataReads
import SandboxManager.Policy.UserGrant
import SandboxManager.Share.ShareFileInfo

/-! The lists the service sends back (`GetSharedDirectoryInfo` and `GetStatusByPermission` of
`sandbox_manager_service.cpp`, `shared_directory_info_vec_raw_data.h`,
`permission_status_info_vec_raw_data.h`).

Both queries read rows of a table, make a list of them and put the list into a buffer, which the
client reads with the same header. The two headers differ in their records only (`VecFormat`). The
writer refuses a list that is too long and the service does not look at its answer, so a reply is
faithful exactly if the rows fit a buffer (`replies_faithful_iff`). -/
namespace SandboxManager.Policy
open Library Claw Reader Share

/-! ### Lists in a buffer -/

/-- A header for lists: how many records it takes, how one is written, and one turn of the loop that
reads them, which is told the size of the buffer. -/
structure VecFormat (ρ : Type) where
  maxNum : UInt32
  writeInfo : ρ → Bytes
  readInfo : UInt32 → Decoder StringStream ρ

/-- A buffer that was never written; the headers share their fields. -/
def emptyRawData : PolicyVecRawData := ⟨[], by decide⟩

namespace VecFormat
variable {ρ : Type} (f : VecFormat ρ)

def serializedData (infos : List ρ) : Bytes :=
  let infoNum := UInt32.ofNat infos.length
  toLe32 infoNum ++ (infos.take infoNum.toNat).flatMap f.writeInfo

/-- A list that is too long leaves the buffer as it was made. -/
def marshalling (infos : List ρ) : ErrCode × PolicyVecRawData :=
  if UInt32.ofNat infos.length > f.maxNum then (.SANDBOX_MANAGER_SERVICE_PARCEL_ERR, emptyRawData)
  else (.SANDBOX_MANAGER_OK,
    { data := (f.serializedData infos).take ((f.serializedData infos).length % 2 ^ 32)
      fits := by
        rw [List.length_take]
        exact lt_of_le_of_lt (Nat.min_le_left _ _) (Nat.mod_lt _ (by decide)) })

def unmarshalling (raw : PolicyVecRawData) (out : List ρ) : ErrCode × List ρ :=
  match fetch 4 { content := raw.data } with
  | none => (.SANDBOX_MANAGER_SERVICE_PARCEL_ERR, out)
  | some (infoNum, ss) =>
    if ofLe32 infoNum > f.maxNum then (.SANDBOX_MANAGER_SERVICE_PARCEL_ERR, out)
    else
      match (f.readInfo raw.size).collect (ofLe32 infoNum).toNat ss out with
      | (out, none) => (.SANDBOX_MANAGER_SERVICE_PARCEL_ERR, out)
      | (out, some _) => (.SANDBOX_MANAGER_OK, out)

/-- The records in their format, each as long as told. -/
structure Lawful (info : Reader UInt8 ρ) (size : ρ → Nat) : Prop where
  reads : ∀ a, size a < 2 ^ 32 → Reads info (f.writeInfo a) a
  length : ∀ a, size a < 2 ^ 32 → (f.writeInfo a).length = size a
  measured : Measured info size
  follows : ∀ raw : PolicyVecRawData,
    Decoder.Follows (StreamAt raw.data) (f.readInfo raw.size) info

end VecFormat

/-- So many records, and so many bytes in all, as a buffer takes. -/
structure FitsBuffer {ρ : Type} (maxNum : UInt32) (size : ρ → Nat) (infos : List ρ) : Prop where
  count : infos.length ≤ maxNum.toNat
  bytes : 4 + (infos.map size).sum < 2 ^ 32

namespace VecFormat.Lawful
variable {ρ : Type} {f : VecFormat ρ} {info : Reader UInt8 ρ} {size : ρ → Nat} {infos : List ρ}

/-- What is read out of a buffer fits one. -/
theorem fits_of_unmarshalling (h : f.Lawful info size) {raw : PolicyVecRawData}
    (hread : f.unmarshalling raw [] = (.SANDBOX_MANAGER_OK, infos)) :
    FitsBuffer f.maxNum size infos := by
  unfold unmarshalling at hread
  cases hcount : take 4 raw.data with
  | none =>
    rw [(fetch_follows raw.data 4).fails (streamAt_start raw) hcount] at hread
    cases hread
  | some first =>
    obtain ⟨infoNum, left⟩ := first
    obtain ⟨ss, hfetch, hat⟩ := (fetch_follows raw.data 4).reads (streamAt_start raw) hcount
    rw [hfetch] at hread
    simp only at hread
    split at hread
    case isTrue => cases hread
    case isFalse hmax =>
      cases hitems : times (ofLe32 infoNum).toNat info left with
      | none =>
        have hfails := (h.follows raw).collect_fails hat hitems []
        generalize (f.readInfo raw.size).collect (ofLe32 infoNum).toNat ss [] = o at hread hfails
        obtain ⟨out, left'⟩ := o
        subst hfails
        cases hread
      | some items =>
        obtain ⟨items, rest⟩ := items
        obtain ⟨ss', hloop, -⟩ := (h.follows raw).collect_reads hat hitems []
        rw [hloop, List.nil_append] at hread
        obtain rfl : items = infos := (Prod.mk.inj hread).2
        refine ⟨?_, ?_⟩
        · rw [length_times hitems]
          exact UInt32.le_iff_toNat_le.mp (UInt32.not_lt.mp hmax)
        · have hsize : left.length = (items.map size).sum + rest.length :=
            Measured.times h.measured _ hitems
          have htaken := (length_of_take hcount).2
          have hfits := raw.fits
          omega

/-- What fits is read as it was written. -/
theorem unmarshalling_of_fits (h : f.Lawful info size) (hfits : FitsBuffer f.maxNum size infos) :
    f.unmarshalling (f.marshalling infos).2 [] = (.SANDBOX_MANAGER_OK, infos) := by
  have hmax := f.maxNum.toNat_lt
  have hcount := hfits.count
  have hbytes := hfits.bytes
  have hnum : (UInt32.ofNat infos.length).toNat = infos.length := toNat_ofNat (by omega)
  have hsmall : ∀ a ∈ infos, size a < 2 ^ 32 := by
    intro a ha
    have hle : size a ≤ (infos.map size).sum := List.le_sum_of_mem (List.mem_map_of_mem ha)
    omega
  have hlimit : ¬ UInt32.ofNat infos.length > f.maxNum := by
    rw [gt_iff_lt, UInt32.lt_iff_toNat_lt, hnum]
    omega
  have hserialized : f.serializedData infos =
      toLe32 (UInt32.ofNat infos.length) ++ infos.flatMap f.writeInfo := by
    rw [serializedData, hnum, List.take_length]
  have hlength : (f.serializedData infos).length = 4 + (infos.map size).sum := by
    have hsizes : infos.map (fun a => (f.writeInfo a).length) = infos.map size :=
      List.map_congr_left fun a ha => h.length a (hsmall a ha)
    rw [hserialized, List.length_append, List.length_flatMap, hsizes]
    rfl
  obtain ⟨raw, hmarshalling, hdata⟩ : ∃ raw, (f.marshalling infos).2 = raw ∧
      raw.data = f.serializedData infos := by
    refine ⟨_, rfl, ?_⟩
    rw [marshalling, if_neg hlimit]
    apply List.take_of_length_le
    rw [Nat.mod_eq_of_lt (by omega)]
  have hfirst := Reads.take (toLe32 (UInt32.ofNat infos.length)) (infos.flatMap f.writeInfo)
  rw [← hserialized, ← hdata] at hfirst
  obtain ⟨ss, hfetch, hat⟩ := (fetch_follows raw.data 4).reads (streamAt_start raw) hfirst
  have hrecords : Reads (times infos.length info) (infos.flatMap f.writeInfo) (infos.map id) :=
    Reads.times fun a ha => h.reads a (hsmall a ha)
  have hitems := hrecords []
  rw [List.map_id, List.append_nil] at hitems
  obtain ⟨ss', hloop, -⟩ := (h.follows raw).collect_reads hat hitems []
  rw [hmarshalling, unmarshalling, hfetch]
  simp only [ofLe32_toLe32, hlimit, if_false, hnum, hloop, List.nil_append]

end VecFormat.Lawful

/-! ### The two records -/

/-- The mode is an enumeration of 32 bits. -/
structure SharedDirectoryInfo where
  bundleName : Bytes
  path : Bytes
  permissionMode : UInt32
deriving DecidableEq, Repr

structure PermissionStatusInfo where
  tokenId : UInt32
  policyInfo : RawPolicyInfo
  grantStatus : Int32
deriving DecidableEq, Repr

def SHARED_DIRECTORY_VEC_MAX_NUM : UInt32 := 10000
def PERMISSION_STATUS_INFO_VEC_MAX_NUM : UInt32 := 10000

def SharedDirectoryInfo.write (info : SharedDirectoryInfo) : Bytes :=
  let bundleNameLen := UInt32.ofNat info.bundleName.length
  let pathLen := UInt32.ofNat info.path.length
  toLe32 bundleNameLen ++ info.bundleName.take bundleNameLen.toNat ++
    toLe32 pathLen ++ info.path.take pathLen.toNat ++ toLe32 info.permissionMode

/-- The length is compared with the size of the whole buffer. -/
def fetchText (size len : UInt32) : Decoder StringStream Bytes := fun ss =>
  if len > size then none else fetch len.toNat ss

def fetchSharedDirectoryInfo (size : UInt32) : Decoder StringStream SharedDirectoryInfo := do
  let bundleNameLen ← fetch 4
  let bundleName ← fetchText size (ofLe32 bundleNameLen)
  let pathLen ← fetch 4
  let path ← fetchText size (ofLe32 pathLen)
  let permissionMode ← fetch 4
  return ⟨bundleName, path, ofLe32 permissionMode⟩

/-- `SharedDirectoryInfoVecRawData`. -/
def sharedDirectoryInfoVec : VecFormat SharedDirectoryInfo where
  maxNum := SHARED_DIRECTORY_VEC_MAX_NUM
  writeInfo := SharedDirectoryInfo.write
  readInfo := fetchSharedDirectoryInfo

/-- `WriteSingleInfo`: a policy is written as in a list of policies. -/
def writeSingleInfo (info : PermissionStatusInfo) : Bytes :=
  toLe32 info.tokenId ++ info.policyInfo.serialize ++ toLe32 info.grantStatus.toUInt32

def readSingleInfo (ssLength : UInt32) : Decoder StringStream PermissionStatusInfo := do
  let tokenId ← fetch 4
  let policyInfo ← fetchPolicy ssLength
  let grantStatus ← fetch 4
  return ⟨ofLe32 tokenId, policyInfo, (ofLe32 grantStatus).toInt32⟩

/-- `PermissionStatusInfoVecRawData`. -/
def permissionStatusInfoVec : VecFormat PermissionStatusInfo where
  maxNum := PERMISSION_STATUS_INFO_VEC_MAX_NUM
  writeInfo := writeSingleInfo
  readInfo := readSingleInfo

def sharedDirectoryInfo : Reader UInt8 SharedDirectoryInfo := do
  let bundleNameLen ← take 4
  let bundleName ← take (ofLe32 bundleNameLen).toNat
  let pathLen ← take 4
  let path ← take (ofLe32 pathLen).toNat
  let permissionMode ← take 4
  return ⟨bundleName, path, ofLe32 permissionMode⟩

def permissionStatusInfo : Reader UInt8 PermissionStatusInfo := do
  let tokenId ← take 4
  let policyInfo ← record
  let grantStatus ← take 4
  return ⟨ofLe32 tokenId, policyInfo, (ofLe32 grantStatus).toInt32⟩

def SharedDirectoryInfo.size (info : SharedDirectoryInfo) : Nat :=
  12 + info.bundleName.length + info.path.length

def PermissionStatusInfo.size (info : PermissionStatusInfo) : Nat :=
  24 + info.policyInfo.path.length

/-- The lengths of a record that fits a buffer fit their fields. -/
theorem SharedDirectoryInfo.lengths {info : SharedDirectoryInfo} (hsize : info.size < 2 ^ 32) :
    (UInt32.ofNat info.bundleName.length).toNat = info.bundleName.length ∧
      (UInt32.ofNat info.path.length).toNat = info.path.length := by
  unfold SharedDirectoryInfo.size at hsize
  exact ⟨toNat_ofNat (by omega), toNat_ofNat (by omega)⟩

theorem fetchText_follows (raw : PolicyVecRawData) (n : UInt32) :
    Decoder.Follows (StreamAt raw.data) (fetchText raw.size n) (take n.toNat) where
  reads {ss l a rest} hat hread := by
    have hsize : raw.size.toNat = raw.data.length := toNat_ofNat raw.fits
    have hleft := hat.length
    have htaken := (length_of_take hread).2
    have hn : ¬ n > raw.size := by
      rw [gt_iff_lt, UInt32.lt_iff_toNat_lt, hsize]
      omega
    rw [fetchText, if_neg hn]
    exact (fetch_follows raw.data n.toNat).reads hat hread
  fails hat hread := by
    rw [fetchText]
    split
    · rfl
    · exact (fetch_follows raw.data n.toNat).fails hat hread

theorem sharedDirectoryInfoVec_lawful :
    sharedDirectoryInfoVec.Lawful sharedDirectoryInfo SharedDirectoryInfo.size where
  reads info hsize := by
    obtain ⟨hbundle, hpath⟩ := SharedDirectoryInfo.lengths hsize
    show Reads sharedDirectoryInfo info.write info
    rw [SharedDirectoryInfo.write, hbundle, hpath, List.take_length, List.take_length]
    simp only [List.append_assoc]
    refine (Reads.take (toLe32 (UInt32.ofNat info.bundleName.length))).bind ?_
    rw [ofLe32_toLe32, hbundle]
    refine (Reads.take info.bundleName).bind ?_
    refine (Reads.take (toLe32 (UInt32.ofNat info.path.length))).bind ?_
    rw [ofLe32_toLe32, hpath]
    refine (Reads.take info.path).bind ?_
    have hmode := (Reads.take (toLe32 info.permissionMode)).bind_pure fun mode =>
      (⟨info.bundleName, info.path, ofLe32 mode⟩ : SharedDirectoryInfo)
    rw [ofLe32_toLe32] at hmode
    exact hmode
  length info hsize := by
    obtain ⟨hbundle, hpath⟩ := SharedDirectoryInfo.lengths hsize
    have hword : ∀ n, (toLe32 n).length = 4 := fun _ => rfl
    show info.write.length = _
    rw [SharedDirectoryInfo.write, hbundle, hpath, List.take_length, List.take_length]
    simp only [List.length_append, hword, SharedDirectoryInfo.size]
    omega
  measured := by
    intro l info rest h
    obtain ⟨w₁, l₁, -, h₁, h⟩ := bind_take_eq_some h
    obtain ⟨w₂, l₂, hw₂, h₂, h⟩ := bind_take_eq_some h
    obtain ⟨w₃, l₃, -, h₃, h⟩ := bind_take_eq_some h
    obtain ⟨w₄, l₄, hw₄, h₄, h⟩ := bind_take_eq_some h
    obtain ⟨w₅, l₅, -, h₅, h⟩ := bind_take_eq_some h
    obtain ⟨rfl, rfl⟩ := Prod.mk.inj (Option.some.inj h)
    show l.length = 12 + w₂.length + w₄.length + l₅.length
    omega
  follows raw := by
    refine (fetch_follows raw.data 4).bind fun bundleNameLen => ?_
    refine (fetchText_follows raw (ofLe32 bundleNameLen)).bind fun bundleName => ?_
    refine (fetch_follows raw.data 4).bind fun pathLen => ?_
    refine (fetchText_follows raw (ofLe32 pathLen)).bind fun path => ?_
    exact (fetch_follows raw.data 4).bind fun mode => .pure _

theorem record_measured : Measured record fun policy => 16 + policy.path.length := by
  intro l policy rest h
  obtain ⟨w₁, l₁, -, h₁, h⟩ := bind_take_eq_some h
  obtain ⟨w₂, l₂, hw₂, h₂, h⟩ := bind_take_eq_some h
  obtain ⟨w₃, l₃, -, h₃, h⟩ := bind_take_eq_some h
  obtain ⟨w₄, l₄, -, h₄, h⟩ := bind_take_eq_some h
  obtain ⟨rfl, rfl⟩ := Prod.mk.inj (Option.some.inj h)
  show l.length = 16 + w₂.length + l₄.length
  omega

theorem permissionStatusInfoVec_lawful :
    permissionStatusInfoVec.Lawful permissionStatusInfo PermissionStatusInfo.size where
  reads info hsize := by
    have hpath : info.policyInfo.path.length < 2 ^ 32 := by
      unfold PermissionStatusInfo.size at hsize
      omega
    show Reads permissionStatusInfo (writeSingleInfo info) info
    rw [writeSingleInfo, List.append_assoc]
    refine (Reads.take (toLe32 info.tokenId)).bind ?_
    refine (reads_serialize hpath).bind ?_
    have hstatus := (Reads.take (toLe32 info.grantStatus.toUInt32)).bind_pure fun status =>
      (⟨info.tokenId, info.policyInfo, (ofLe32 status).toInt32⟩ : PermissionStatusInfo)
    rw [ofLe32_toLe32] at hstatus
    rw [ofLe32_toLe32]
    exact hstatus
  length info hsize := by
    have hpath : info.policyInfo.path.length < 2 ^ 32 := by
      unfold PermissionStatusInfo.size at hsize
      omega
    have hword : ∀ n, (toLe32 n).length = 4 := fun _ => rfl
    show (writeSingleInfo info).length = _
    rw [writeSingleInfo, List.length_append, List.length_append, hword, hword,
      RawPolicyInfo.length_serialize hpath, PermissionStatusInfo.size]
    omega
  measured := by
    intro l info rest h
    obtain ⟨w₁, l₁, -, h₁, h⟩ := bind_take_eq_some h
    obtain ⟨policy, l₂, hpolicy, h⟩ := bind_eq_some h
    obtain ⟨w₃, l₃, -, h₃, h⟩ := bind_take_eq_some h
    obtain ⟨rfl, rfl⟩ := Prod.mk.inj (Option.some.inj h)
    have h₂ : l₁.length = 16 + policy.path.length + l₂.length := record_measured hpolicy
    show l.length = 24 + policy.path.length + l₃.length
    omega
  follows raw := by
    refine (fetch_follows raw.data 4).bind fun tokenId => ?_
    refine (fetchPolicy_follows raw).bind fun policyInfo => ?_
    exact (fetch_follows raw.data 4).bind fun status => .pure _

/-! ### The queries -/

/-- The two tables, and whether each query succeeds. -/
structure QueryDb where
  shared : SharedFileTable
  ugc : UgcTable
  sharedOk : Bool
  ugcOk : Bool

def BASE_USER_RANGE : Int32 := 200000

def getOsAccountLocalIdFromUid (callingUid : Int32) : Int32 := callingUid / BASE_USER_RANGE

/-- The rows of `QuerySharedFileInfoByUserId`. -/
def sharedRows (t : SharedFileTable) (userId : Int32) : List SharedFileInfo :=
  t.rows.filter fun row => row.userId.toInt32 = userId

/-- The rows of `FindByTokenIds`. -/
def statusRows (t : UgcTable) (tokenIdList : List UInt32) : List UgcRow :=
  t.rows.filter fun row => row.key.tokenId ∈ tokenIdList

def UgcPermissionStatus.code : UgcPermissionStatus → Int32
  | UGC_PERMISSION_DENIED => -1
  | UGC_PERMISSION_GRANTED => 0

def directoryInfo (row : SharedFileInfo) : SharedDirectoryInfo where
  bundleName := row.bundleName
  path := row.sharedOsPath
  permissionMode := row.sharedMode

/-- The mode is read with its 32 bits and made unsigned; the type keeps its default. -/
def statusInfo (row : UgcRow) : PermissionStatusInfo where
  tokenId := row.key.tokenId
  policyInfo := ⟨row.key.path, UInt64.ofInt (getInt row.key.mode.toInt64.toInt), 0⟩
  grantStatus := row.status.code

def getSharedDirectoryInfo (db : QueryDb) (userId : Int32) : ErrCode × List SharedDirectoryInfo :=
  if !db.sharedOk then (.SANDBOX_MANAGER_DB_ERR, [])
  else (.SANDBOX_MANAGER_OK, (sharedRows db.shared userId).map directoryInfo)

def getStatusByPermission (db : QueryDb) (tokenIdList : List UInt32) :
    ErrCode × List PermissionStatusInfo :=
  if !db.ugcOk then (.SANDBOX_MANAGER_DB_ERR, [])
  else (.SANDBOX_MANAGER_OK, (statusRows db.ugc tokenIdList).map statusInfo)

/-- What the service answers a caller that may ask, and the buffer it sends back. -/
def replySharedDirectoryInfo (db : QueryDb) (callingUid : Int32) : ErrCode × PolicyVecRawData :=
  let (ret, result) := getSharedDirectoryInfo db (getOsAccountLocalIdFromUid callingUid)
  if ret ≠ .SANDBOX_MANAGER_OK then (ret, emptyRawData)
  else (.SANDBOX_MANAGER_OK, (sharedDirectoryInfoVec.marshalling result).2)

def replyStatusByPermission (db : QueryDb) (tokenIdList : List UInt32) :
    ErrCode × PolicyVecRawData :=
  if tokenIdList = [] then (.INVALID_PARAMTER, emptyRawData)
  else if 0 ∈ tokenIdList then (.INVALID_PARAMTER, emptyRawData)
  else
    let (ret, result) := getStatusByPermission db tokenIdList
    if ret ≠ .SANDBOX_MANAGER_OK then (ret, emptyRawData)
    else (.SANDBOX_MANAGER_OK, (permissionStatusInfoVec.marshalling result).2)

/-- The client reads what was produced. -/
def Faithful {ρ : Type} (f : VecFormat ρ) (reply : ErrCode × PolicyVecRawData) (produced : List ρ) :
    Prop :=
  reply.1 = .SANDBOX_MANAGER_OK → f.unmarshalling reply.2 [] = (.SANDBOX_MANAGER_OK, produced)

structure RepliesFaithful (db : QueryDb) (callingUid : Int32) (tokenIdList : List UInt32) : Prop where
  shared : Faithful sharedDirectoryInfoVec (replySharedDirectoryInfo db callingUid)
    (getSharedDirectoryInfo db (getOsAccountLocalIdFromUid callingUid)).2
  status : Faithful permissionStatusInfoVec (replyStatusByPermission db tokenIdList)
    (getStatusByPermission db tokenIdList).2

/-- The rows that are asked for fit a buffer each. -/
structure RowsFit (db : QueryDb) (callingUid : Int32) (tokenIdList : List UInt32) : Prop where
  shared : db.sharedOk = true → FitsBuffer SHARED_DIRECTORY_VEC_MAX_NUM
    (fun row => 12 + row.bundleName.length + row.sharedOsPath.length)
    (sharedRows db.shared (getOsAccountLocalIdFromUid callingUid))
  status : db.ugcOk = true → tokenIdList ≠ [] → 0 ∉ tokenIdList →
    FitsBuffer PERMISSION_STATUS_INFO_VEC_MAX_NUM (fun row => 24 + row.key.path.length)
      (statusRows db.ugc tokenIdList)

theorem fitsBuffer_map {ρ τ : Type} {maxNum : UInt32} {size : ρ → Nat} {g : τ → ρ} {rows : List τ} :
    FitsBuffer maxNum size (rows.map g) ↔ FitsBuffer maxNum (fun row => size (g row)) rows := by
  have hsum : ((rows.map g).map size).sum = (rows.map fun row => size (g row)).sum := by
    rw [List.map_map]
    rfl
  refine ⟨fun h => ⟨?_, ?_⟩, fun h => ⟨?_, ?_⟩⟩
  · exact (List.length_map g).symm.trans_le h.count
  · exact hsum ▸ h.bytes
  · exact (List.length_map g).trans_le h.count
  · exact hsum.symm ▸ h.bytes

/-- A list that is sent is read back exactly if it fits. -/
theorem VecFormat.Lawful.faithful_iff {ρ τ : Type} {f : VecFormat ρ} {info : Reader UInt8 ρ}
    {size : ρ → Nat} (h : f.Lawful info size) (g : τ → ρ) (rows : List τ) :
    Faithful f (.SANDBOX_MANAGER_OK, (f.marshalling (rows.map g)).2) (rows.map g) ↔
      FitsBuffer f.maxNum (fun row => size (g row)) rows := by
  rw [← fitsBuffer_map]
  exact ⟨fun hread => h.fits_of_unmarshalling (hread rfl), fun hfits _ => h.unmarshalling_of_fits hfits⟩

/-- **The replies are faithful exactly if the rows that are asked for fit a buffer.** -/
theorem replies_faithful_iff (db : QueryDb) (callingUid : Int32) (tokenIdList : List UInt32) :
    RepliesFaithful db callingUid tokenIdList ↔ RowsFit db callingUid tokenIdList := by
  have hshared : Faithful sharedDirectoryInfoVec (replySharedDirectoryInfo db callingUid)
      (getSharedDirectoryInfo db (getOsAccountLocalIdFromUid callingUid)).2 ↔
      (db.sharedOk = true → FitsBuffer SHARED_DIRECTORY_VEC_MAX_NUM
        (fun row => 12 + row.bundleName.length + row.sharedOsPath.length)
        (sharedRows db.shared (getOsAccountLocalIdFromUid callingUid))) := by
    unfold replySharedDirectoryInfo getSharedDirectoryInfo
    cases db.sharedOk with
    | false => exact iff_of_true (fun h => by cases h) (fun h => by cases h)
    | true =>
      rw [forall_prop_of_true rfl]
      exact sharedDirectoryInfoVec_lawful.faithful_iff directoryInfo _
  have hstatus : Faithful permissionStatusInfoVec (replyStatusByPermission db tokenIdList)
      (getStatusByPermission db tokenIdList).2 ↔
      (db.ugcOk = true → tokenIdList ≠ [] → 0 ∉ tokenIdList →
        FitsBuffer PERMISSION_STATUS_INFO_VEC_MAX_NUM (fun row => 24 + row.key.path.length)
          (statusRows db.ugc tokenIdList)) := by
    unfold replyStatusByPermission getStatusByPermission
    by_cases hnone : tokenIdList = []
    · rw [if_pos hnone]
      exact iff_of_true (fun h => by cases h) (fun _ hsome => absurd hnone hsome)
    · rw [if_neg hnone]
      by_cases hzero : 0 ∈ tokenIdList
      · rw [if_pos hzero]
        exact iff_of_true (fun h => by cases h) (fun _ _ hnot => absurd hzero hnot)
      · rw [if_neg hzero]
        cases db.ugcOk with
        | false => exact iff_of_true (fun h => by cases h) (fun h => by cases h)
        | true =>
          rw [forall_prop_of_true rfl, forall_prop_of_true hnone, forall_prop_of_true hzero]
          exact permissionStatusInfoVec_lawful.faithful_iff statusInfo _
  exact ⟨fun h => ⟨hshared.mp h.shared, hstatus.mp h.status⟩,
    fun h => ⟨hshared.mpr h.shared, hstatus.mpr h.status⟩⟩

/-- So many directories, each of a token of its own. -/
def manyDirectories (n : Nat) (hn : n ≤ 2 ^ 32) : SharedFileTable where
  rows := (List.range n).map fun i => ⟨UInt32.ofNat i, bytes "a", 0, bytes "/s", 1⟩
  unique := by
    rw [List.map_map]
    apply List.nodup_range.map_on
    intro i hi j hj hij
    have hlt := List.mem_range.mp hi
    have hlt' := List.mem_range.mp hj
    have hsame := congrArg UInt32.toNat hij
    simp only [Function.comp_apply, UInt32.toNat_ofNat'] at hsame
    omega

theorem length_sharedRows_many (n : Nat) (hn : n ≤ 2 ^ 32) :
    (sharedRows (manyDirectories n hn) (getOsAccountLocalIdFromUid 0)).length = n := by
  have hall : ∀ row ∈ (manyDirectories n hn).rows,
      decide (row.userId.toInt32 = getOsAccountLocalIdFromUid 0) = true := by
    intro row hrow
    obtain ⟨i, -, rfl⟩ := List.mem_map.mp hrow
    rfl
  rw [sharedRows, List.filter_eq_self.mpr hall, manyDirectories, List.length_map, List.length_range]

/-- One row more than a buffer takes. -/
theorem replies_not_faithful :
    ¬ ∀ (db : QueryDb) (callingUid : Int32) (tokenIdList : List UInt32),
      RepliesFaithful db callingUid tokenIdList := by
  intro h
  have hread := (h ⟨manyDirectories 10001 (by decide), KeyedTable.empty, true, true⟩ 0 [1]).shared rfl
  have hcount := (sharedDirectoryInfoVec_lawful.fits_of_unmarshalling hread).count
  rw [getSharedDirectoryInfo] at hcount
  simp only [Bool.not_true, Bool.false_eq_true, if_false, List.length_map,
    length_sharedRows_many] at hcount
  revert hcount
  decide

end SandboxManager.Policy
