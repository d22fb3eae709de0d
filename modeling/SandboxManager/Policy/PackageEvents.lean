import SandboxManager.Number
import SandboxManager.Policy.Preserve

/-! Package events (`sandbox_manager_service.cpp`, `sandbox_manager_event_subscriber.cpp`).

That a package was removed, cleared or added is told to a running service as a want with typed
parameters (`onReceiveEvent`). A service that is not running is started with a reason, whose extras
are texts (`startByEventAction`). Either handler checks what it is told in its own way and then
removes the policies of a token, keeps them for later, or gives them to a new one. -/
namespace SandboxManager.Policy
open Library

inductive CommonEvent where
  | COMMON_EVENT_PACKAGE_REMOVED
  | COMMON_EVENT_PACKAGE_FULLY_REMOVED
  | COMMON_EVENT_PACKAGE_DATA_CLEARED
  | COMMON_EVENT_PACKAGE_ADDED
deriving DecidableEq, Repr

/-- The extras of an event that either handler reads, of which any may be missing. -/
structure PackageExtras where
  bundleName : Option Bytes
  userId : Option Int32
  accessTokenId : Option Int32
  appIndex : Option Int32
  appIdentifier : Option Bytes
  supportPreserve : Option Bytes

def SUPPORT_PRESERVE : Bytes := bytes "ohos.fileshare.supportPreservePersistentPermission"

section
variable (env : PreserveEnv)

def removeBundlePolicy (tokenId : UInt32) (s : PreserveState) : Bool × PreserveState :=
  if env.removePolicyOk then (true, { s with policies := s.policies.delete (·.isOf tokenId) })
  else (false, s)

/-! ### Started by the event -/

/-- An extra of a reason, when there is one. -/
def extra (key : Bytes) (value : Option Bytes) : List (Bytes × Bytes) :=
  value.toList.map fun value => (key, value)

/-- The extras as texts, in the order of the keys. -/
def PackageExtras.want (extras : PackageExtras) : List (Bytes × Bytes) :=
  extra (bytes "accessTokenId") (extras.accessTokenId.map fun n => toDecimal n.toInt) ++
    extra (bytes "appIdentifier") extras.appIdentifier ++
    extra (bytes "appIndex") (extras.appIndex.map fun n => toDecimal n.toInt) ++
    extra (bytes "bundleName") extras.bundleName ++
    extra SUPPORT_PRESERVE extras.supportPreserve ++
    extra (bytes "userId") (extras.userId.map fun n => toDecimal n.toInt)

/-- `GetDemandReasonValue`, for a type, the range of the conversion and the cast to the type. -/
def getDemandReasonValue {α : Type} (inRange : Int → Bool) (cast : Int → α) (value : Bytes) :
    Option α :=
  if value = [] then none
  else
    let (result, endPtr) := leadingInteger (cStr value)
    if !inRange result then none
    else if endPtr ≠ [] then none
    else some (cast result)

def getDemandReasonUInt32 : Bytes → Option UInt32 :=
  getDemandReasonValue (fun n => n.natAbs ≤ ULONG_MAX) UInt32.ofInt

def getDemandReasonInt32 : Bytes → Option Int32 :=
  getDemandReasonValue (fun n => LONG_MIN ≤ n && n ≤ LONG_MAX) Int32.ofInt

/-- What `GetDemandReasonInfo` is to find out, and what it starts from. -/
structure DemandReasonInfo where
  bundleName : Bytes := []
  userId : Int32 := -1
  tokenId : UInt32 := 0

/-- One turn of the loop of `GetDemandReasonInfo`. -/
def readExtra (info : DemandReasonInfo) (entry : Bytes × Bytes) : Option DemandReasonInfo := do
  let key := cStr entry.1
  let value := cStr entry.2
  let info ←
    if key = bytes "bundleName" then
      if value = [] then none else some { info with bundleName := value }
    else some info
  let info ←
    if key = bytes "userId" then do
      let userId ← getDemandReasonInt32 value
      if userId ≤ 0 then none else some { info with userId }
    else some info
  if key = bytes "accessTokenId" then do
    let tokenId ← getDemandReasonUInt32 value
    if tokenId = 0 then none else some { info with tokenId }
  else some info

def getDemandReasonInfo (want : List (Bytes × Bytes)) : Option DemandReasonInfo := do
  let info ← want.foldlM readExtra {}
  if info.bundleName = [] then none else some info

def getDemandReasonAppIndex (want : List (Bytes × Bytes)) : Option Int32 := do
  let appIndexID ← want.lookup (bytes "appIndex")
  getDemandReasonInt32 appIndexID

/-- `GetDemandPreserveConfig` and `GetDemandAppIdentifier`: an extra that is there and not empty. -/
def getDemandText (key : Bytes) (want : List (Bytes × Bytes)) : Option Bytes := do
  let value ← want.lookup key
  if value = [] then none else some value

def getDemandPreserveConfig (want : List (Bytes × Bytes)) : Option Bytes :=
  getDemandText SUPPORT_PRESERVE want

def getDemandAppIdentifier (want : List (Bytes × Bytes)) : Option Bytes :=
  getDemandText (bytes "appIdentifier") want

def packageAddEventAction (want : List (Bytes × Bytes)) (s : PreserveState) :
    Bool × PreserveState :=
  match getDemandReasonInfo want, getDemandAppIdentifier want with
  | some info, some appIdentifier =>
    let (ret, s) := restoreBundlePersistentPolicies env appIdentifier info.userId info.tokenId s
    if ret ≠ .SANDBOX_MANAGER_OK then (false, s)
    else
      let (ret, s) := deleteBundlePersistentPolicies env appIdentifier info.userId s
      (ret = .SANDBOX_MANAGER_OK, s)
  | _, _ => (false, s)

def packageRemoveEventAction (want : List (Bytes × Bytes)) (s : PreserveState) :
    Bool × PreserveState :=
  match getDemandReasonInfo want, getDemandReasonAppIndex want with
  | some info, some appIndex =>
    if appIndex = 0 then
      match getDemandPreserveConfig want with
      | none => (false, s)
      | some shouldPreserve =>
        if shouldPreserve = bytes "true" then
          match getDemandAppIdentifier want with
          | none => (false, s)
          | some appIdentifier =>
            (true, (saveBundlePersistentPolicies env info.bundleName info.userId appIdentifier
              info.tokenId s).2)
        else removeBundlePolicy env info.tokenId s
    else removeBundlePolicy env info.tokenId s
  | _, _ => (false, s)

def startByEventAction (event : CommonEvent) (want : List (Bytes × Bytes)) (s : PreserveState) :
    Bool × PreserveState :=
  match event with
  | .COMMON_EVENT_PACKAGE_ADDED => packageAddEventAction env want s
  | _ => packageRemoveEventAction env want s

/-! ### Received by the running service -/

/-- The bundle, the user and the token, unless one is empty or its default. -/
def onReceiveEventGetParam (want : PackageExtras) : Option DemandReasonInfo :=
  let bundleName := want.bundleName.getD []
  let tokenId := (want.accessTokenId.getD 0).toUInt32
  let userId := want.userId.getD (-1)
  if bundleName = [] then none
  else if tokenId = 0 then none
  else if userId = -1 then none
  else some { bundleName, userId, tokenId }

def onReceiveEventRemove (want : PackageExtras) (s : PreserveState) : PreserveState :=
  match onReceiveEventGetParam want with
  | none => s
  | some info =>
    let appIndex := want.appIndex.getD (-1)
    if appIndex = 0 then
      let shouldPreserve := want.supportPreserve.getD []
      if shouldPreserve = [] then s
      else if shouldPreserve = bytes "true" then
        (saveBundlePersistentPolicies env info.bundleName info.userId
          (want.appIdentifier.getD []) info.tokenId s).2
      else (removeBundlePolicy env info.tokenId s).2
    else (removeBundlePolicy env info.tokenId s).2

def onReceiveEventAdd (want : PackageExtras) (s : PreserveState) : PreserveState :=
  match onReceiveEventGetParam want with
  | none => s
  | some info =>
    let appIdentifier := want.appIdentifier.getD []
    restoreAndDelete env appIdentifier info.userId info.tokenId s

def onReceiveEvent (event : CommonEvent) (want : PackageExtras) (s : PreserveState) :
    PreserveState :=
  match event with
  | .COMMON_EVENT_PACKAGE_ADDED => onReceiveEventAdd env want s
  | _ => onReceiveEventRemove env want s

end

end SandboxManager.Policy
