import SandboxManager.Policy.Match

/-! Policies on media files (`media_path_support.cpp`).

The media library holds the permissions on photos. It is asked for a whole request at a time and
answers each file on its own (`MediaHelper`); what it refuses at once, it refuses for the request.
A mode it has no name for is found out on the way there, by `OperateModeToPhotoPermissionType`. -/
namespace SandboxManager.Policy
open Library

inductive PhotoPermissionType where
  | PERSIST_READ_IMAGEVIDEO
  | PERSIST_WRITE_IMAGEVIDEO
  | GRANT_PERSIST_READWRITE_IMAGEVIDEO
deriving DecidableEq, Repr

/-- The library's helper: whether each of its calls succeeds, and what it answers for a file. -/
structure MediaHelper where
  initOk : Bool
  urisOk : List Bytes → Bool
  /-- The uri of a path. -/
  uriOf : Bytes → Bytes
  checkOk : UInt32 → List (Bytes × UInt32) → Bool
  /-- `CheckPhotoUriPermission` for one file. -/
  mayGrant : UInt32 → Bytes → UInt32 → Bool
  /-- `GrantPhotoUriPermission`, by a caller to a token. -/
  grantOk : UInt32 → UInt32 → List (Bytes × PhotoPermissionType) → Bool
  permissionOk : UInt32 → List (Bytes × PhotoPermissionType) → Bool
  /-- `GetPhotoUrisPermission` for one file. -/
  permitted : UInt32 → Bytes → PhotoPermissionType → Bool

def photoPermissionType (mode : UInt32) : Option PhotoPermissionType :=
  if mode = READ_MODE.toUInt32 then some .PERSIST_READ_IMAGEVIDEO
  else if mode = WRITE_MODE.toUInt32 then some .PERSIST_WRITE_IMAGEVIDEO
  else if mode = (WRITE_MODE + READ_MODE).toUInt32 then some .GRANT_PERSIST_READWRITE_IMAGEVIDEO
  else none

/-- One mode without a name fails the whole conversion. -/
def operateModeToPhotoPermissionType : List UInt32 → Option (List PhotoPermissionType)
  | [] => some []
  | mode :: rest =>
    match photoPermissionType mode with
    | none => none
    | some type => (operateModeToPhotoPermissionType rest).map (type :: ·)

/-- The modes of a request go into 32 bits. -/
def mediaMode (policy : PolicyInfo) : UInt32 := policy.mode.toUInt32

def getMediaPermission (helper : MediaHelper) (tokenId : UInt32) (policy : List PolicyInfo) :
    Except ErrCode (List Bool) :=
  let mediaPaths := policy.map PolicyInfo.path
  if !helper.initOk || !helper.urisOk mediaPaths then .error .SANDBOX_MANAGER_MEDIA_CALL_ERR
  else
    let uris := mediaPaths.map helper.uriOf
    match operateModeToPhotoPermissionType (policy.map mediaMode) with
    | none => .error .INVALID_PARAMTER
    | some types =>
      if !helper.permissionOk tokenId (uris.zip types) then .error .SANDBOX_MANAGER_MEDIA_CALL_ERR
      else .ok ((uris.zip types).map fun file => helper.permitted tokenId file.1 file.2)

/-- The results, and what was granted. -/
def addMediaPolicy (helper : MediaHelper) (callingTokenId tokenId : UInt32)
    (policy : List PolicyInfo) :
    Except ErrCode (List SandboxRetType) × List (Bytes × PhotoPermissionType) :=
  let mediaPaths := policy.map PolicyInfo.path
  if !helper.initOk || !helper.urisOk mediaPaths then (.error .SANDBOX_MANAGER_MEDIA_CALL_ERR, [])
  else
    let files := (mediaPaths.map helper.uriOf).zip (policy.map mediaMode)
    if !helper.checkOk tokenId files then (.error .SANDBOX_MANAGER_MEDIA_CALL_ERR, [])
    else
      let needGrant := files.filter fun file => helper.mayGrant tokenId file.1 file.2
      match operateModeToPhotoPermissionType (needGrant.map Prod.snd) with
      | none => (.error .INVALID_PARAMTER, [])
      | some types =>
        let grants := (needGrant.map Prod.fst).zip types
        let results := files.map fun file =>
          if helper.mayGrant tokenId file.1 file.2 then SandboxRetType.OPERATE_SUCCESSFULLY
          else .FORBIDDEN_TO_BE_PERSISTED
        if needGrant = [] then (.ok results, [])
        else if helper.grantOk callingTokenId tokenId grants then (.ok results, grants)
        else (.error .SANDBOX_MANAGER_MEDIA_CALL_ERR, [])

/-- An environment whose media library is the helper, called for a process. -/
def Env.withHelper (env : Env) (helper : MediaHelper) (callingTokenId : UInt32) : Env :=
  { env with media := { env.media with
      addMediaPolicy := fun tokenId policy => (addMediaPolicy helper callingTokenId tokenId policy).1
      getMediaPermission := getMediaPermission helper } }

/-! ### One file at a time -/

/-- The modes a media policy can have. -/
def NamedMode (policy : PolicyInfo) : Prop := (photoPermissionType (mediaMode policy)).isSome

instance (policy : PolicyInfo) : Decidable (NamedMode policy) := inferInstanceAs (Decidable (_ = _))

/-- The name of a mode that has one. -/
def photoType (policy : PolicyInfo) : PhotoPermissionType :=
  (photoPermissionType (mediaMode policy)).getD .PERSIST_READ_IMAGEVIDEO

theorem photoType_of_named {policy : PolicyInfo} (h : NamedMode policy) :
    photoPermissionType (mediaMode policy) = some (photoType policy) := by
  obtain ⟨type, htype⟩ := Option.isSome_iff_exists.mp h
  rw [photoType, htype, Option.getD_some]

theorem operateMode_eq_none_iff (modes : List UInt32) :
    operateModeToPhotoPermissionType modes = none ↔ ∃ mode ∈ modes, photoPermissionType mode = none := by
  induction modes with
  | nil => simp [operateModeToPhotoPermissionType]
  | cons mode rest ih =>
    rw [operateModeToPhotoPermissionType]
    cases hmode : photoPermissionType mode with
    | none => exact iff_of_true rfl ⟨mode, List.mem_cons_self .., hmode⟩
    | some type =>
      simp only [Option.map_eq_none_iff, ih, List.mem_cons, exists_eq_or_imp, hmode, reduceCtorEq,
        false_or]

theorem operateMode_eq_map {α : Type} {mode : α → UInt32} {type : α → PhotoPermissionType}
    {files : List α} (h : ∀ file ∈ files, photoPermissionType (mode file) = some (type file)) :
    operateModeToPhotoPermissionType (files.map mode) = some (files.map type) := by
  induction files with
  | nil => rfl
  | cons file rest ih =>
    obtain ⟨hfile, hrest⟩ := List.forall_mem_cons.mp h
    rw [List.map_cons, operateModeToPhotoPermissionType, hfile]
    simp only [ih hrest, Option.map_some, List.map_cons]

end SandboxManager.Policy
