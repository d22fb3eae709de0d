import SandboxManager.Claw.ConfigParser
import SandboxManager.Claw.GateRuns
import SandboxManager.Claw.LaunchCalls
import SandboxManager.Claw.Template

/-! The launch (`Execute`, `sandbox_manager.cpp`, with the steps of `sandbox_mount.cpp`,
`sandbox_aids.cpp`, `sandbox_credential.cpp` and `sandbox_op_control_deliver.cpp`).

Steps in order, up to the first that does not return success. What the world answers is an
argument: to a call that changes something, depending on all the calls before it, to a question, a
value. The mounts, the environment, the policies, the gate and the filter are the ones of their own
modules; here they are steps of one process. -/
namespace SandboxManager.Claw
open Library MountPhase

/-- The switches of a build: `CONFIG_SHELL_SANDBOX`, `MCS_ENABLE`, `WITH_SECCOMP`, `__LINUX__`, and
whether `sandbox_aids.cpp` or its default is built in. -/
structure Build where
  shellSandbox : Bool
  mcs : Bool
  withSeccomp : Bool
  linux : Bool
  aids : Bool

structure CliInitInfo where
  hostTokenId : UInt64
  challenge : Bytes
  cliName : Bytes
  subCliName : Bytes

/-- What the world answers. -/
structure LaunchWorld where
  /-- What a call returns that is made after these. -/
  answer : List LaunchCall → LaunchCall → Int
  /-- Whether a device opens. -/
  opens : Bytes → Bool
  getTokenTypeFlag : UInt32 → Int
  verifyAccessToken : UInt32 → Bytes → Int
  initCliToken : CliInitInfo → Except Int UInt64
  addCliBinaryInvokerTokenFlag : UInt64 → UInt64
  /-- The content of a file, if it opens. -/
  readFile : Bytes → Option Bytes
  cJSON_Parse : Bytes → Option Json
  valueint : Bytes → Int32
  isSelinuxEnabled : Int
  getcon : Option Bytes
  getpidcon : Int32 → Option Bytes
  contextNew : Bytes → Option SelinuxContext
  securityCheckContext : SelinuxContext → Bool
  /-- `getgrnam("readproc")`. -/
  readProcGroup : Option UInt32
  /-- The owner of the directory of a process, if it opens. -/
  procDir : Int32 → Option (UInt32 × UInt32)
  /-- The namespace behind the descriptor opened in that directory. -/
  openNamespace : Option Bytes
  readNamespace : Int32 → Option Bytes
  readSelfNamespace : Bool
  /-- Whether it is a directory, if there is something. -/
  lstat : Bytes → Except Int Bool
  /-- The symbolic links that a walk of a directory comes to, as seen from there. -/
  linksBelow : Bytes → List Bytes
  getrandom : Nat → Option Bytes
  isDirectoryExist : Bytes → Bool
  mkdir : Bytes → Answer
  newRoot : Answer
  systemEntry : Nat → EntryAnswers
  symLink : Nat → SymLinkAnswers
  appEntry : Nat → EntryAnswers
  policyMount : Nat → PolicyAnswers
  startup : StartupAnswers
  /-- Whether the child reads the token at its gate. -/
  gateToken : Bool
  credentials : Option (List (Bytes × Bytes))
  /-- The clock of `FillPolicyMetadata`. -/
  denyClock : Option (UInt64 × UInt64)
  dec : DecAnswers
  access : Bytes → Bool
  environ : List Bytes
  envCalls : EnvCalls
  syscallMap : Bytes → Option Int
  /-- `IsPcMode(false)`. -/
  isPcMode : Bool
  /-- The inode behind the descriptor of an executable. -/
  openExecutable : Bytes → Option Nat
  fgetfilecon : Nat → Option Bytes

/-- How a step ends, or the launch: the launcher leaves with `_exit`, or is replaced. -/
inductive Outcome where
  | returned (ret : Int)
  | exited (status : UInt8)
  | replaced
deriving DecidableEq

def Outcome.of (e : SandboxError) : Outcome := .returned e.value

def Outcome.success : Outcome := .returned 0

/-- What the steps find out for those that come after them. -/
structure LaunchMembers where
  template : TemplateConfig := {}
  tokenIdEx : UInt64 := 0
  newRootPath : Bytes := []
  putOldPath : Bytes := []
  toolCredentials : List (Bytes × Bytes) := []
  pivotRootDone : Bool := false

structure LaunchState where
  errno : Int := 0
  calls : List LaunchCall := []
  mountedDirs : List Bytes := []
  members : LaunchMembers := {}

def LaunchState.called (s : LaunchState) (call : LaunchCall) : LaunchState :=
  { s with calls := s.calls ++ [call] }

/-- The process that makes the launch. -/
def LaunchState.process (s : LaunchState) : Process := .of s.calls

abbrev LaunchStep := LaunchState → Outcome × LaunchState

/-- A step that only returns. -/
def returning (e : SandboxError) : LaunchStep := fun s => (.of e, s)

abbrev inOrder (steps : List LaunchStep) : LaunchStep := untilFailure .success (fun step => step) steps

/-- A step of the mount phase, with what it called put on record. -/
def mounting (step : LaunchMembers → MountStep) : LaunchStep := fun s =>
  let done := step s.members { errno := s.errno, mountedDirs := s.mountedDirs }
  (.of done.1,
    { s with
      errno := done.2.errno
      mountedDirs := done.2.mountedDirs
      calls := s.calls ++ done.2.calls.map .mount })

structure Launch where
  build : Build
  world : LaunchWorld
  config : SandboxConfig
  argv : List Bytes
  monitorSocketPath : Bytes

namespace Launch
variable (L : Launch)

def isShell : Bool := L.config.type == bytes "shell"

/-- The call, and the error that stands for every failure of it. -/
def attempt (call : LaunchCall) (error : SandboxError) : LaunchStep := fun s =>
  if L.world.answer s.calls call < 0 then (.of error, s) else (.success, s.called call)

/-- The same, for a call that succeeds with zero only. -/
def attemptZero (call : LaunchCall) (error : SandboxError) : LaunchStep := fun s =>
  if L.world.answer s.calls call ≠ 0 then (.of error, s) else (.success, s.called call)

/-- The same, where the step returns what the call returned. -/
def attemptIoctl (call : LaunchCall) (error : SandboxError) : LaunchStep := fun s =>
  let ret := L.world.answer s.calls call
  if ret < 0 then (.of error, s) else (.returned ret, s.called call)

/-- A device is opened for one thing. -/
def withDevice (path : Bytes) (error : SandboxError) (step : LaunchStep) : LaunchStep := fun s =>
  if L.world.opens path then step s else (.of error, s)

def mountConfig (members : LaunchMembers) : MountConfig where
  newRootPath := members.newRootPath
  conditionalRules := members.template.conditionalRules.map TemplateRule.toConditionalRule
  callerTokenId := L.config.callerTokenId
  verifyAccessToken := L.world.verifyAccessToken

def rootConfig (members : LaunchMembers) : RootConfig where
  toMountConfig := L.mountConfig members
  putOldPath := members.putOldPath
  nsFlags := L.config.nsFlags

def decConfig (members : LaunchMembers) : DecConfig where
  toMountConfig := L.mountConfig members
  type := L.config.type
  currentUserId := L.config.currentUserId

def envConfig : EnvConfig where
  type := L.config.type
  env := L.config.env
  currentUserId := L.config.currentUserId
  subjectId := L.config.subjectId

def newPid : Bool := L.config.nsFlags &&& CLONE_NEWPID != 0

def gateConfig : GateConfig where
  shellSandbox := L.build.shellSandbox
  type := L.config.type
  newPid := L.newPid

def startupConfig : StartupConfig where
  type := L.config.type
  uid := L.config.uid
  appIdentifierU64 := L.config.appIdentifierU64
  addOperationControlRuleGroups := L.config.addOperationControlRuleGroups
  newPid := L.newPid

def isPermissionGranted (permissionName : Bytes) : Bool :=
  (L.mountConfig {}).isPermissionGranted permissionName

/-! ### Early steps -/

def TOKEN_HAP : Int := 0

def validateBasicParams : SandboxError :=
  if L.config.callerPid ≤ 0 then .ERR_BAD_PARAMETERS
  else if L.config.uid < UID_BASE ∨ L.config.gid < UID_BASE then .ERR_BAD_PARAMETERS
  else if L.config.callerTokenId = 0 then .ERR_BAD_PARAMETERS
  else .SUCCESS

def validateTokenType : SandboxError :=
  if L.world.getTokenTypeFlag L.config.callerTokenId.toUInt32 ≠ TOKEN_HAP then .ERR_BAD_PARAMETERS
  else .SUCCESS

def validateConfig : LaunchStep :=
  inOrder [returning L.validateBasicParams, returning L.validateTokenType]

def templatePath : Bytes :=
  if L.isShell then bytes "/etc/sandbox/claw_sandbox_template_shell.json"
  else bytes "/etc/sandbox/claw_sandbox_template_cli.json"

def loadTemplate : LaunchStep := fun s =>
  match loadJsonConfig L.world.cJSON_Parse L.world.valueint L.config.currentUserId
      (L.world.readFile L.templatePath) with
  | .error _ => (.of .ERR_TEMPLATE_INVALID, s)
  | .ok template => (.success, { s with members := { s.members with template } })

/-- The context of the launcher, with the range of another process. -/
def contextFor (targetPid : Int32) : Option SelinuxContext := do
  let con ← L.world.contextNew (← L.world.getcon)
  let targetCon ← L.world.contextNew (← L.world.getpidcon targetPid)
  let targetRange ← targetCon.range
  let newContext := { con with range := some targetRange }
  if L.world.securityCheckContext newContext then some newContext else none

def setSelinuxMCS : LaunchStep := fun s =>
  if L.world.isSelinuxEnabled < 1 then (.success, s)
  else
    match L.contextFor L.config.callerPid with
    | none => (.of .ERR_SET_SELINUX_FAILED, s)
    | some context => L.attempt (.setcon context) .ERR_SET_SELINUX_FAILED s

def initInfo : CliInitInfo where
  hostTokenId := L.config.callerTokenId
  challenge := L.config.challenge
  cliName := L.config.cliName
  subCliName := L.config.subCliName

def generateTokenId : LaunchStep := fun s =>
  if L.isShell then (.success, s)
  else
    match L.world.initCliToken L.initInfo with
    | .error _ => (.of .ERR_GEN_TOKENID_FAILED, s)
    | .ok tokenIdEx => (.success, { s with members := { s.members with tokenIdEx } })

def setReadProcGroup : LaunchStep :=
  match L.world.readProcGroup with
  | none => returning .ERR_NS_FAILED
  | some gid => L.attempt (.setReadProcGroup gid) .ERR_NS_FAILED

/-- The namespace of the caller, once the directory of the process is known to be the caller's. -/
def openCallerMountNamespace : Option Bytes := do
  let (uid, gid) ← L.world.procDir L.config.callerPid
  if uid ≠ L.config.uid ∨ gid ≠ L.config.gid then none else L.world.openNamespace

/-- The process is in the namespace that the caller was in when it was asked. -/
def verifyNamespaceChanged (nsTarget : Bytes) : LaunchStep := fun s =>
  if L.world.readSelfNamespace = true ∧ s.process.mountNamespace = some nsTarget then (.success, s)
  else (.of .ERR_NS_FAILED, s)

def enterCallerNamespace : LaunchStep :=
  match L.openCallerMountNamespace, L.world.readNamespace L.config.callerPid with
  | some ns, some nsTarget =>
    inOrder [L.attempt (.setns ns) .ERR_NS_FAILED, L.verifyNamespaceChanged nsTarget]
  | _, _ => returning .ERR_NS_FAILED

def enterCallerSandbox : LaunchStep := inOrder [L.setReadProcGroup, L.enterCallerNamespace]

/-! ### The new root -/

def SANDBOX_BASE_DIR : Bytes := bytes "/mnt/sandbox/claw"
def MAX_TRY_CNT : Nat := 3
def HEX_CNT : Nat := 16

def sandboxPath (name : Bytes) : Bytes := SANDBOX_BASE_DIR ++ bytes "/" ++ name

def hexDigit (d : UInt8) : UInt8 := if d < 10 then 48 + d else 87 + d

/-- Two digits a byte; nothing where there was no randomness. -/
def generateSandboxName (random : Option Bytes) : Bytes :=
  match random with
  | none => []
  | some rand_bytes =>
    if rand_bytes.length ≠ (HEX_CNT + 1) / 2 then []
    else (rand_bytes.flatMap fun b => [hexDigit (b / 16), hexDigit (b % 16)]).take HEX_CNT

/-- The name of a directory that is not there yet, from the `tryCnt`-th try on. -/
def autoName (tryCnt : Nat) : Except SandboxError Bytes :=
  if tryCnt < MAX_TRY_CNT then
    let sandboxName := generateSandboxName (L.world.getrandom tryCnt)
    if sandboxName = [] then .error .ERR_SANDBOX_PATH_EXHAUSTED
    else if L.world.isDirectoryExist (sandboxPath sandboxName) then autoName (tryCnt + 1)
    else .ok sandboxName
  else .error .ERR_SANDBOX_PATH_EXHAUSTED
termination_by MAX_TRY_CNT - tryCnt

def rootName : Except SandboxError Bytes :=
  if L.config.name ≠ [] then .ok L.config.name else L.autoName 0

/-- The directories up to the new root may be there, the one for the old root may not. -/
def createNewRoot : LaunchStep := fun s =>
  match L.rootName with
  | .error e => (.of e, s)
  | .ok name =>
    let newRootPath := sandboxPath name
    let putOldPath := newRootPath ++ bytes "/put_old"
    let created := createDir L.world.mkdir newRootPath { errno := s.errno }
    if created.1 ≠ .SUCCESS then (.of created.1, { s with errno := created.2.errno })
    else
      let s := { s with members := { s.members with newRootPath, putOldPath } }
      match L.world.mkdir putOldPath with
      | some errno => (.of .ERR_PATH_CREATE_FAILED, { s with errno })
      | none => (.success, s.called (.makeRoot newRootPath putOldPath))

/-! ### Mount steps -/

def unshareNamespaces : LaunchStep := L.attempt (.unshare L.config.nsFlags) .ERR_NS_FAILED

def mountRoot : LaunchStep :=
  mounting fun members => mountNewRoot (L.rootConfig members) L.world.newRoot

def mountSystem : LaunchStep :=
  mounting fun members => mountSystemDirs (L.rootConfig members)
    (members.template.systemMounts.zipIdx.map fun entry => (entry.1, L.world.systemEntry entry.2))

def linkAll : LaunchStep :=
  mounting fun members => mountSymLinks (L.rootConfig members)
    (members.template.symLinks.zipIdx.map fun entry => (entry.1, L.world.symLink entry.2))

def mountApp : LaunchStep :=
  mounting fun members => mountAppDirs (L.rootConfig members)
    (members.template.appMounts.zipIdx.map fun entry => (entry.1, L.world.appEntry entry.2))

/-- At the end, where it is not there yet. -/
def addNew {α : Type} [DecidableEq α] (items : List α) (item : α) : List α :=
  if item ∈ items then items else items ++ [item]

/-- The groups of the permissions that are switched on and granted, each once. -/
def collectGrantedPermissionGids (template : TemplateConfig) : List Int32 :=
  template.permissions.items.foldl (fun permissionGids permissionItem =>
    if !permissionItem.2.sandboxSwitch || !L.isPermissionGranted permissionItem.1 then permissionGids
    else permissionItem.2.gids.foldl (fun permissionGids gid =>
      if gid < 0 then permissionGids else addNew permissionGids gid) permissionGids) []

def DEC_GID : UInt32 := 3076

def groups (template : TemplateConfig) : List UInt32 :=
  let gids := if L.isShell then addNew [L.config.gid] DEC_GID else [L.config.gid]
  ((L.collectGrantedPermissionGids template).map Int32.toUInt32).foldl addNew gids

def setGroups : LaunchStep := fun s =>
  L.attempt (.setgroups (L.groups s.members.template)) .ERR_NS_FAILED s

def applyMounts : LaunchStep :=
  mounting fun members => MountPhase.applyPolicyMounts (L.rootConfig members)
    (L.config.mounts.zipIdx.map fun item => (item.1, L.world.policyMount item.2))

def setPivotRootDone : LaunchStep := fun s =>
  (.success, { s with members := { s.members with pivotRootDone := true } })

/-- `PivotRoot`; the old root may stay behind as an empty directory. -/
def pivot : LaunchStep := fun s =>
  inOrder
    [L.attempt (.pivotRoot s.members.newRootPath s.members.putOldPath) .ERR_NS_FAILED,
      L.attempt .enterRoot .ERR_CHDIR_FAILED, L.attempt .detachOldRoot .ERR_MOUNT_FAILED,
      setPivotRootDone] s

def setProcessGroup : LaunchStep := L.attempt .setpgid .ERR_GENERIC

def deliverDaemonSide : LaunchStep := fun s =>
  let delivered := deliverDaemonSidePolicies L.startupConfig L.monitorSocketPath L.world.startup
  if delivered.1 ≠ .SUCCESS then (.of delivered.1, s)
  else if L.isShell then (.success, s.called (.deliverDaemonSide delivered.2.2))
  else (.success, s)

def connectMonitor : LaunchStep := fun s =>
  match connectMonitorSocket L.monitorSocketPath L.world.startup with
  | .error e => (.of e, s)
  | .ok _ => if L.monitorSocketPath = [] then (.success, s) else (.success, s.called .connect)

/-- Of the two processes after a fork, the child goes on here, once it is through its gate. -/
def forkChild : LaunchStep := fun s =>
  match forkAfterUnshare L.gateConfig L.world.startup.socketpair L.world.startup.fork with
  | .inPlace => (.success, s)
  | .gateFailed => (.of .ERR_GENERIC, s)
  | .forkFailed _ => (.of .ERR_GENERIC, s)
  | .forked _ =>
    if L.gateConfig.needsStartGate = true ∧ L.world.gateToken = false then
      (.exited EXIT_MONITOR_UNAVAILABLE, s.called .fork)
    else (.success, s.called .fork)

def mountProcFs : LaunchStep :=
  if L.newPid then L.attempt .mountProc .ERR_MOUNT_FAILED else returning .SUCCESS

/-! ### Late steps -/

def DEV_ACCESS_TOKEN_PATH : Bytes := bytes "/dev/access_token_id"
def DEV_XPM_PATH : Bytes := bytes "/dev/xpm"
def HKIDS_DEVICE_PATH : Bytes := bytes "/dev/hkids"
def DEC_DEVICE_PATH : Bytes := bytes "/dev/dec"
def ENCAPS_DEVICE_PATH : Bytes := bytes "/dev/encaps"
def MAX_OWNERID_LEN : Nat := 64

/-- For a shell the caller's own token, else the one that was made for the command. -/
def callerId (members : LaunchMembers) : UInt64 :=
  if L.isShell then L.config.callerTokenId else members.tokenIdEx

def setAccessToken : LaunchStep := fun s =>
  let callerId := L.callerId s.members
  inOrder
    [L.attemptZero (.setSelfTokenID callerId) .ERR_SET_TOKENID_FAILED,
      if L.build.shellSandbox && L.isShell then
        L.withDevice DEV_ACCESS_TOKEN_PATH .ERR_SET_PTOKENID_FAILED
          (L.attemptIoctl (.setHapPTokenId (L.world.addCliBinaryInvokerTokenFlag callerId))
            .ERR_SET_PTOKENID_FAILED)
      else returning .SUCCESS] s

def setXpmOwnerId : LaunchStep :=
  if !L.isShell then returning .SUCCESS
  else if L.config.appIdentifier = [] then returning .ERR_BAD_PARAMETERS
  else
    L.withDevice DEV_XPM_PATH .ERR_SET_XPM_FAILED
      (L.attemptIoctl (.setXpmOwnerId (L.config.appIdentifier.take (MAX_OWNERID_LEN - 1)))
        .ERR_SET_XPM_FAILED)

/-- Where labels are not built in, nothing is set and that is a success. -/
def setAinfo : LaunchStep :=
  if !L.isShell || !L.build.aids then returning .SUCCESS
  else
    L.withDevice HKIDS_DEVICE_PATH .ERR_SET_AINFO_FAILED (inOrder
      [L.attempt .initAids .ERR_SET_AINFO_FAILED,
        L.attemptZero (.setAinfo (L.config.uid / UID_BASE) L.config.appIdentifierU64)
          .ERR_SET_AINFO_FAILED])

def fetchCredentials : LaunchStep := fun s =>
  let toolCredentials := fetchToolCredentials L.envConfig L.world.credentials
  (.success, { s with members := { s.members with toolCredentials } })

def setUidGid : LaunchStep :=
  inOrder
    [if L.build.linux then L.attempt .keepCaps .ERR_SET_PRCTL_FAILED else returning .SUCCESS,
      L.attemptZero (.setresgid L.config.gid) .ERR_SET_UGID_FAILED,
      L.attemptZero (.setresuid L.config.uid) .ERR_SET_UGID_FAILED]

def DEC_MODE_DENY_INHERIT : UInt32 := 0x200

def DEC_DENY_PATH_MAP : List (Bytes × Bytes) :=
  [(bytes "ohos.permission.READ_WRITE_DOWNLOAD_DIRECTORY", bytes "/storage/Users/currentUser/Download"),
    (bytes "ohos.permission.READ_WRITE_DESKTOP_DIRECTORY", bytes "/storage/Users/currentUser/Desktop"),
    (bytes "ohos.permission.READ_WRITE_DOCUMENTS_DIRECTORY", bytes "/storage/Users/currentUser/Documents")]

/-- The paths that stand for a permission that is not granted. -/
def collectDenyPaths : List DecPathInfo :=
  ((DEC_DENY_PATH_MAP.filter fun entry => !L.isPermissionGranted entry.1).take
    DEC_KERNEL_BATCH_SIZE).map fun entry =>
      { path := entry.2
        pathLen := UInt32.ofNat entry.2.length
        mode := DEC_MODE_DENY_INHERIT
        flag := false }

def denyPolicy (members : LaunchMembers) (ts : UInt64 × UInt64) : DecPolicyInfo where
  tokenId := L.callerId members
  timestamp := ts.1 * SEC_TO_NSEC + ts.2
  path := L.collectDenyPaths
  pathNum := UInt32.ofNat L.collectDenyPaths.length
  userId := 0
  flag := false

def preDecDenyPaths : LaunchStep := fun s =>
  if !L.isShell then (.success, s)
  else if L.collectDenyPaths = [] then (.success, s)
  else
    match L.world.denyClock with
    | none => (.of .ERR_SET_DEC_FAILED, s)
    | some ts =>
      L.withDevice DEC_DEVICE_PATH .ERR_SET_DEC_FAILED
        (L.attemptIoctl (.setDecPolicy (L.denyPolicy s.members ts)) .ERR_SET_DEC_FAILED) s

def applyDec : LaunchStep := fun s =>
  let applied := applyDecPolicies (L.decConfig s.members) s.members.template.permissions L.world.dec
  (.of applied.1,
    { s with
      calls := s.calls ++
        (applied.2.filter (0 ≤ ·.ret)).map fun call => .setDecPolicy call.batchInfo })

def prepareWorkdir : LaunchStep :=
  if L.config.workdir = [] then returning .SUCCESS
  else if !L.world.isDirectoryExist L.config.workdir then returning .ERR_PATH_INVALID
  else if !L.world.access L.config.workdir then returning .ERR_PATH_INVALID
  else L.attempt (.chdir L.config.workdir) .ERR_CHDIR_FAILED

def setEnvironment : LaunchStep := fun s =>
  match applyEnvironment L.build.shellSandbox L.world.envCalls s.members.template.envPolicy L.envConfig
      L.world.environ with
  | .error e => (.of e, s)
  | .ok environment => (.success, s.called (.setEnvironment environment))

/-- What the process has in its environment. -/
def environmentOf (s : LaunchState) : Environment := s.process.environment.getD KeyedTable.empty

def setCredentials : LaunchStep := fun s =>
  (.success, s.called (.setEnvironment
    (setToolCredentials L.world.envCalls L.envConfig s.members.toolCredentials (environmentOf s))))

def APP_NAME : Bytes := bytes "APP_NAME"
def APP_CUSTOM : Bytes := bytes "APP_CUSTOM"

/-- The filter by name, and the other one where that fails outside of the mode for computers. -/
def setAppSeccompPolicy : LaunchStep := fun s =>
  if !L.world.isPcMode && (0 ≤ L.world.answer s.calls (.setSeccomp (.named APP_NAME)) : Bool) then
    (.success, s.called (.setSeccomp (.named APP_NAME)))
  else L.attempt (.setSeccomp (.named APP_CUSTOM)) .ERR_SET_SECCOMP_FAILED s

def customFilter (template : TemplateConfig) : SeccompFilter :=
  .custom (buildSeccompFilter L.world.syscallMap template.seccompAllowList)

def setSeccomp : LaunchStep := fun s =>
  inOrder
    [L.attempt .setNoNewPrivs .ERR_SET_SECCOMP_FAILED,
      L.attempt (.setSeccomp (L.customFilter s.members.template)) .ERR_SET_SECCOMP_FAILED,
      if L.build.withSeccomp then L.setAppSeccompPolicy else returning .SUCCESS] s

def deliverExecuterInit : LaunchStep :=
  if !L.isShell then returning .SUCCESS
  else
    L.withDevice DEC_DEVICE_PATH .ERR_SET_POLICY_FAILED
      (L.attempt .executerInit .ERR_SET_POLICY_FAILED)

def dropCapabilities : LaunchStep :=
  inOrder
    [if L.build.linux then L.attempt .lockSecurebits .ERR_SET_PRCTL_FAILED else returning .SUCCESS,
      L.attemptZero .capset .ERR_SET_CAP_FAILED]

def CUSTOM_SANDBOX : Bytes := bytes "ohos.permission.CUSTOM_SANDBOX"
def SEC_UGC_PATH_TYPE : UInt32 := 1
def SEC_SANDBOX_PATH_TYPE : UInt32 := 8
def MARK_ENABLE_RECURSIVE : UInt32 := 1
def CURRENT_USER_DIR : Bytes := bytes "/storage/Users/currentUser"

def rootMark : PathMark := ⟨[slash], SEC_SANDBOX_PATH_TYPE, MARK_ENABLE_RECURSIVE⟩

def ugcMark : PathMark := ⟨CURRENT_USER_DIR, SEC_UGC_PATH_TYPE, 0⟩

/-- A directory that is not there is not marked. -/
def markUgcPath : LaunchStep :=
  if L.world.access CURRENT_USER_DIR then
    L.attemptIoctl (.addPathMark ugcMark) .ERR_SET_DEC_FAILED
  else returning .SUCCESS

/-- Only a negative answer stops between the two marks. -/
def markPaths : LaunchStep := fun s =>
  if L.world.answer s.calls (.addPathMark rootMark) < 0 then (.of .ERR_SET_DEC_FAILED, s)
  else L.markUgcPath (s.called (.addPathMark rootMark))

def setSandboxPathMark : LaunchStep :=
  if !L.isShell then returning .SUCCESS
  else if !L.isPermissionGranted CUSTOM_SANDBOX then returning .SUCCESS
  else L.withDevice DEC_DEVICE_PATH .ERR_SET_DEC_FAILED L.markPaths

def setEncapsProcFlag : LaunchStep :=
  if !L.isShell then returning .SUCCESS
  else if !L.isPermissionGranted CUSTOM_SANDBOX then returning .SUCCESS
  else
    L.withDevice ENCAPS_DEVICE_PATH .ERR_SET_ENCAPS_FAILED
      (L.attemptIoctl .setEncapsProcFlag .ERR_SET_ENCAPS_FAILED)

/-- The file behind a path, if its type is one the template names. -/
def openAllowedExecutable (template : TemplateConfig) (path : Bytes) : Option Nat := do
  let file ← L.world.openExecutable path
  let ctx ← L.world.contextNew (← L.world.fgetfilecon file)
  let type ← ctx.type
  if template.execSelinuxTypes.contains type then some file else none

def executeCommand : LaunchStep := fun s =>
  match L.argv.head?.bind (L.openAllowedExecutable s.members.template) with
  | none => (.of .ERR_CMD_INVALID, s)
  | some execFd =>
    let call := LaunchCall.fexecve execFd L.argv (environmentOf s)
    if L.world.answer s.calls call < 0 then (.of .ERR_CMD_INVALID, s)
    else (.replaced, s.called call)

/-! ### The launch -/

/-- A step that is only built in where shells are. -/
def shellOnly (steps : List LaunchStep) : List LaunchStep := if L.build.shellSandbox then steps else []

def earlySteps : List LaunchStep :=
  [L.validateConfig, L.loadTemplate] ++ (if L.build.mcs then [L.setSelinuxMCS] else []) ++
    [L.generateTokenId, L.enterCallerSandbox]

def mountSteps : List LaunchStep :=
  [L.createNewRoot, L.unshareNamespaces, L.mountRoot, L.mountSystem, L.linkAll, L.mountApp,
      L.setGroups, L.applyMounts, L.pivot, L.setProcessGroup] ++
    L.shellOnly [L.deliverDaemonSide, L.connectMonitor] ++ [L.forkChild, L.mountProcFs]

def lateSteps : List LaunchStep :=
  [L.setAccessToken, L.setXpmOwnerId, L.setAinfo] ++ L.shellOnly [L.fetchCredentials] ++
    [L.setUidGid] ++ L.shellOnly [L.preDecDenyPaths, L.applyDec] ++
    [L.prepareWorkdir, L.setEnvironment] ++ L.shellOnly [L.setCredentials] ++ [L.setSeccomp] ++
    L.shellOnly [L.deliverExecuterInit] ++ [L.dropCapabilities] ++
    L.shellOnly [L.setSandboxPathMark, L.setEncapsProcFlag]

def execute : LaunchStep :=
  inOrder [inOrder L.earlySteps, inOrder L.mountSteps, inOrder L.lateSteps, L.executeCommand]

/-! ### The deletion -/

def unlinkLink (path : Bytes) (s : LaunchState) (link : Bytes) : LaunchState :=
  let call := .unlink (path ++ [slash] ++ link)
  if L.world.answer s.calls call < 0 then s else s.called call

/-- The links go first, as far as they can be unlinked. -/
def unlinkLinks (path : Bytes) : LaunchStep := fun s =>
  (.success, (L.world.linksBelow path).foldl (L.unlinkLink path) s)

def removeSandboxDirTree (path : Bytes) : LaunchStep :=
  match L.world.lstat path with
  | .error errno => returning (if errno = ENOENT then .ERR_PATH_INVALID else .ERR_GENERIC)
  | .ok isDirectory =>
    if !isDirectory then returning .ERR_PATH_INVALID
    else inOrder [L.unlinkLinks path, L.attempt (.removeTree path) .ERR_GENERIC]

def deleteSandboxDir : LaunchStep :=
  inOrder
    [L.validateConfig,
      if L.config.name = [] then returning .ERR_BAD_PARAMETERS else returning .SUCCESS,
      L.enterCallerSandbox, L.removeSandboxDirTree (sandboxPath L.config.name)]

end Launch

/-- `Initialize`: the configuration as the launch uses it, and the path of the monitor's socket. -/
def initializeConfig (build : Build) (config : SandboxConfig) :
    Except SandboxError (SandboxConfig × Bytes) := do
  let currentUserId := decimal (config.uid / UID_BASE).toNat
  let extracted ← extractMonitorSocketPath ⟨config.type, config.env, currentUserId, config.subjectId⟩
  let nsFlags := config.nsFlags ||| (if config.type = bytes "cli" then CLONE_NEWNET else 0)
  let nsFlags := if build.shellSandbox then nsFlags else nsFlags ||| CLONE_NEWNET
  .ok ({ config with currentUserId, env := extracted.1.env, nsFlags }, extracted.2)

end SandboxManager.Claw
