import SandboxManager.Claw.Mounts
import SandboxManager.Library.UntilFailure

/-! The mount phase (`MountNewRoot` to `PivotRoot` and `Cleanup`, `sandbox_mount.cpp`;
`ExecuteMountSteps`, `sandbox_manager.cpp`).

A template lists what is mounted under the new root; entries of the system are bound as they
are, those of applications may be made read-only and given a propagation afterwards. The state
is what the steps leave behind also when they fail: `errno`, which only failing calls write, the
calls that changed the mounts, and the targets that `Cleanup` knows of. What a call answers is
an argument, nothing or the error. What reading the mount table answers to a policy mount is
one too; `Mounts` says how it is read. -/
namespace SandboxManager.Claw.MountPhase
open Library

/-! ### Flags -/

def MS_RDONLY : UInt64 := 1
def MS_NOSUID : UInt64 := 2
def MS_NODEV : UInt64 := 4
def MS_NOEXEC : UInt64 := 8
def MS_REMOUNT : UInt64 := 32
def MS_NOATIME : UInt64 := 1024
def MS_BIND : UInt64 := 4096
def MS_MOVE : UInt64 := 8192
def MS_REC : UInt64 := 16384
def MS_UNBINDABLE : UInt64 := 0x20000
def MS_PRIVATE : UInt64 := 0x40000
def MS_SLAVE : UInt64 := 0x80000
def MS_SHARED : UInt64 := 0x100000
def MS_LAZYTIME : UInt64 := 0x2000000

def PROPAGATION_MASK : UInt64 := MS_SLAVE ||| MS_SHARED ||| MS_PRIVATE ||| MS_UNBINDABLE

def CLONE_NEWPID : UInt32 := 0x20000000

def MOUNT_FLAGS_MAP : List (Bytes × UInt64) :=
  [(bytes "rec", MS_REC), (bytes "MS_REC", MS_REC),
   (bytes "bind", MS_BIND), (bytes "MS_BIND", MS_BIND),
   (bytes "move", MS_MOVE), (bytes "MS_MOVE", MS_MOVE),
   (bytes "slave", MS_SLAVE), (bytes "MS_SLAVE", MS_SLAVE),
   (bytes "rdonly", MS_RDONLY), (bytes "MS_RDONLY", MS_RDONLY),
   (bytes "ro", MS_RDONLY),
   (bytes "shared", MS_SHARED), (bytes "MS_SHARED", MS_SHARED),
   (bytes "unbindable", MS_UNBINDABLE), (bytes "MS_UNBINDABLE", MS_UNBINDABLE),
   (bytes "remount", MS_REMOUNT), (bytes "MS_REMOUNT", MS_REMOUNT),
   (bytes "nosuid", MS_NOSUID), (bytes "MS_NOSUID", MS_NOSUID),
   (bytes "nodev", MS_NODEV), (bytes "MS_NODEV", MS_NODEV),
   (bytes "noexec", MS_NOEXEC), (bytes "MS_NOEXEC", MS_NOEXEC),
   (bytes "noatime", MS_NOATIME), (bytes "MS_NOATIME", MS_NOATIME),
   (bytes "lazytime", MS_LAZYTIME), (bytes "MS_LAZYTIME", MS_LAZYTIME),
   (bytes "private", MS_PRIVATE), (bytes "MS_PRIVATE", MS_PRIVATE)]

/-- A flag that is not in the table counts for nothing. -/
def convertMountFlags (mountFlags : List Bytes) : UInt64 :=
  mountFlags.foldl (fun result flag => result ||| (MOUNT_FLAGS_MAP.lookup flag).getD 0) 0

/-! ### The state -/

/-- A call that succeeded. -/
inductive MountCall where
  | mount (source : Option Bytes) (target : Bytes) (flags : UInt64)
  | umount2 (target : Bytes)
  | rmdir (path : Bytes)
deriving DecidableEq

/-- `MS_BIND`, and not the remounting of a bind mount. -/
def MakesBind (flags : UInt64) : Prop := flags &&& MS_BIND ≠ 0 ∧ flags &&& MS_REMOUNT = 0

instance (flags : UInt64) : Decidable (MakesBind flags) := inferInstanceAs (Decidable (_ ∧ _))

/-- What a call does to the targets of the bind mounts, the newest first. -/
def MountCall.after (targets : List Bytes) : MountCall → List Bytes
  | mount _ target flags => if MakesBind flags then target :: targets else targets
  | umount2 target => targets.erase target
  | rmdir _ => targets

/-- The bind mounts that are in place. -/
def inPlace (calls : List MountCall) : List Bytes := calls.foldl MountCall.after []

/-- Nothing, or the error of a call. -/
abbrev Answer := Option Int

def ENOENT : Int := 2
def EACCES : Int := 13
def EEXIST : Int := 17
def EINVAL : Int := 22

structure Progress where
  errno : Int
  calls : List MountCall := []
  mountedDirs : List Bytes := []
deriving DecidableEq

abbrev MountStep := Progress → SandboxError × Progress

namespace Progress
variable (state : Progress)

def failed (errno : Int) : Progress := { state with errno }

def called (call : MountCall) : Progress := { state with calls := state.calls ++ [call] }

def pushed (target : Bytes) : Progress := { state with mountedDirs := state.mountedDirs ++ [target] }

end Progress

/-! ### Directories -/

def mkdirIfNotExist (mkdir : Bytes → Answer) (dirPath : Bytes) : MountStep := fun state =>
  match mkdir dirPath with
  | none => (.SUCCESS, state)
  | some errno =>
    if errno = EEXIST then (.SUCCESS, state.failed errno)
    else (.ERR_PATH_CREATE_FAILED, state.failed errno)

/-- What `CreateDir` makes: all that a slash ends, unless it is the first character, and the
path itself. -/
def dirPaths (path : Bytes) : List Bytes :=
  ((List.range path.length).filter fun pos => 0 < pos ∧ path[pos]? = some slash).map path.take ++
    [path]

def createDir (mkdir : Bytes → Answer) (path : Bytes) : MountStep :=
  untilFailure .SUCCESS (mkdirIfNotExist mkdir) (dirPaths path)

/-- No mount comes or goes. -/
def SameMounts (state state' : Progress) : Prop :=
  state'.calls = state.calls ∧ state'.mountedDirs = state.mountedDirs

theorem createDir_sameMounts (mkdir : Bytes → Answer) (path : Bytes) (state : Progress) :
    SameMounts state (createDir mkdir path state).2 := by
  have hmeets : Meets .SUCCESS (mkdirIfNotExist mkdir) (fun _ _ => True) (dirPaths path) state :=
    .of_forall fun _ _ _ => trivial
  refine untilFailure_preserves (fun dirPath left _ h => ?_) hmeets ⟨rfl, rfl⟩
  rw [mkdirIfNotExist]
  cases mkdir dirPath with
  | none => exact h
  | some errno =>
    dsimp only
    split <;> exact h

/-! ### The entries of the template -/

structure MountEntry where
  source : Bytes
  target : Bytes
  mountFlags : List Bytes
  checkExists : Bool

/-- What is answered while one entry is mounted. -/
structure EntryAnswers where
  openSource : Answer
  fstat : Answer
  isDirectory : Bool
  mkdir : Bytes → Answer
  mount : Answer
  remount : Answer
  propagation : Answer

structure SymLinkEntry where
  source : Bytes
  target : Bytes

structure SymLinkAnswers where
  access : Bytes → Answer
  symlink : Bytes → Bytes → Answer

structure RootConfig extends MountConfig where
  putOldPath : Bytes
  nsFlags : UInt32

/-- Whether there is a descriptor. -/
def openSourcePath (answers : EntryAnswers) (state : Progress) : Bool × Progress :=
  match answers.openSource with
  | some errno => (false, state.failed errno)
  | none =>
    match answers.fstat with
    | some errno => (false, state.failed errno)
    | none => (answers.isDirectory, state)

def mountSystemEntry (config : RootConfig) (answers : EntryAnswers) (entry : MountEntry) :
    MountStep := fun state =>
  let target := config.newRootPath ++ entry.target
  let opened := openSourcePath answers state
  if opened.1 = false then
    if opened.2.errno = ENOENT then (.SUCCESS, opened.2) else (.ERR_MOUNT_FAILED, opened.2)
  else
    let created := createDir answers.mkdir target opened.2
    if created.1 ≠ .SUCCESS then created
    else if entry.source = bytes "/proc" ∧ config.nsFlags &&& CLONE_NEWPID ≠ 0 then
      (.SUCCESS, created.2)
    else
      match answers.mount with
      | some errno => (.ERR_MOUNT_FAILED, created.2.failed errno)
      | none =>
        let call := .mount (some entry.source) target (convertMountFlags entry.mountFlags)
        (.SUCCESS, (created.2.called call).pushed target)

def symlinkSingleEntry (config : RootConfig) (answers : SymLinkAnswers) (entry : SymLinkEntry) :
    MountStep := fun state =>
  match answers.access entry.source with
  | some errno => (.SUCCESS, state.failed errno)
  | none =>
    match answers.access (config.newRootPath ++ entry.source) with
    | some errno => (.SUCCESS, state.failed errno)
    | none =>
      match answers.symlink entry.source (config.newRootPath ++ entry.target) with
      | some errno => (.ERR_SYMLINK_FAILED, state.failed errno)
      | none => (.SUCCESS, state)

def READONLY_REMOUNT : UInt64 := MS_BIND ||| MS_REMOUNT ||| MS_RDONLY ||| MS_REC

/-- The propagation of a mount, if any is asked for. -/
def setPropagation (propagation : Answer) (target : Bytes) (propFlags : UInt64) : MountStep :=
  fun state =>
    if propFlags ≠ 0 then
      match propagation with
      | some errno => (.ERR_MOUNT_FAILED, state.failed errno)
      | none => (.SUCCESS, state.called (.mount none target propFlags))
    else (.SUCCESS, state)

def doMountSequence (answers : EntryAnswers) (source target : Bytes) (allFlags : UInt64) :
    MountStep := fun state =>
  let mountFlags := allFlags &&& ~~~PROPAGATION_MASK
  let propFlags := allFlags &&& PROPAGATION_MASK
  match answers.mount with
  | some errno => (.ERR_MOUNT_FAILED, state.failed errno)
  | none =>
    let state := state.called (.mount (some source) target mountFlags)
    if allFlags &&& MS_RDONLY ≠ 0 then
      match answers.remount with
      | some errno => (.ERR_MOUNT_FAILED, (state.failed errno).called (.umount2 target))
      | none =>
        setPropagation answers.propagation target propFlags
          (state.called (.mount (some source) target READONLY_REMOUNT))
    else setPropagation answers.propagation target propFlags state

def mountSingleEntry (config : RootConfig) (answers : EntryAnswers) (entry : MountEntry) :
    MountStep := fun state =>
  let target := config.newRootPath ++ entry.target
  let opened := openSourcePath answers state
  if opened.1 = false then
    if entry.checkExists ∧ opened.2.errno = ENOENT then (.SUCCESS, opened.2)
    else (.ERR_MOUNT_FAILED, opened.2)
  else
    let created := createDir answers.mkdir target opened.2
    if created.1 ≠ .SUCCESS then created
    else
      let mounted := doMountSequence answers entry.source target
        (convertMountFlags entry.mountFlags) created.2
      if mounted.1 ≠ .SUCCESS then mounted else (.SUCCESS, mounted.2.pushed target)

/-- `MountDir`, which makes its target and sets the propagation but never remounts. -/
def mountDir (answers : EntryAnswers) (source target : Bytes) (mountFlags : List Bytes) :
    MountStep := fun state =>
  let created := createDir answers.mkdir target state
  if created.1 ≠ .SUCCESS then created
  else
    let allFlags := convertMountFlags mountFlags
    match answers.mount with
    | some errno => (.ERR_MOUNT_FAILED, created.2.failed errno)
    | none =>
      let call := .mount (some source) target (allFlags &&& ~~~PROPAGATION_MASK)
      let mounted := setPropagation answers.propagation target (allFlags &&& PROPAGATION_MASK)
        (created.2.called call)
      if mounted.1 ≠ .SUCCESS then mounted else (.SUCCESS, mounted.2.pushed target)

/-! ### Policy mounts -/

/-- What is answered while one policy mount is applied. -/
structure PolicyAnswers where
  isExactMountPoint : Except SandboxError Bool
  getMountReadOnly : Except SandboxError Bool
  statSource : Answer
  mkdir : Bytes → Answer
  bind : Answer
  remount : Answer

def remountAt (answers : PolicyAnswers) (policyMount : PolicyMount) (target : Bytes) :
    MountStep := fun state =>
  match answers.remount with
  | some errno => (.ERR_MOUNT_FAILED, state.failed errno)
  | none =>
    let remountFlags := MS_BIND ||| MS_REMOUNT ||| MS_REC
    let remountFlags := if policyMount.readOnly then remountFlags ||| MS_RDONLY else remountFlags
    (.SUCCESS, state.called (.mount (some target) target remountFlags))

def remountPolicyMount (answers : PolicyAnswers) (policyMount : PolicyMount) (target : Bytes) :
    MountStep := fun state =>
  if !policyMount.readOnly then
    match answers.getMountReadOnly with
    | .error error => (error, state)
    | .ok targetReadOnly =>
      if isPolicyWriteEscalation policyMount.readOnly targetReadOnly then (.ERR_PATH_INVALID, state)
      else remountAt answers policyMount target state
  else remountAt answers policyMount target state

def bindMountConditionalPath (answers : PolicyAnswers) (policyMount : PolicyMount)
    (mountTarget physicalSource : Bytes) : MountStep := fun state =>
  match answers.statSource with
  | some errno => (.ERR_PATH_INVALID, state.failed errno)
  | none =>
    let created := createDir answers.mkdir mountTarget state
    if created.1 ≠ .SUCCESS then created
    else
      match answers.bind with
      | some errno => (.ERR_MOUNT_FAILED, created.2.failed errno)
      | none =>
        let state := created.2.called (.mount (some physicalSource) mountTarget (MS_BIND ||| MS_REC))
        if policyMount.readOnly then
          match answers.remount with
          | some errno => (.ERR_MOUNT_FAILED, (state.failed errno).called (.umount2 mountTarget))
          | none =>
            let call := .mount none mountTarget READONLY_REMOUNT
            (.SUCCESS, (state.called call).pushed mountTarget)
        else (.SUCCESS, state.pushed mountTarget)

def mountPolicyPath (config : RootConfig) (answers : PolicyAnswers) (policyMount : PolicyMount) :
    MountStep := fun state =>
  let mountTarget := config.newRootPath ++ policyMount.source
  match answers.isExactMountPoint with
  | .error error => (error, state)
  | .ok true => remountPolicyMount answers policyMount mountTarget state
  | .ok false =>
    match matchConditionalSource config.toMountConfig policyMount.source with
    | .matched physicalSource =>
      bindMountConditionalPath answers policyMount mountTarget physicalSource state
    | .blocked => (.ERR_PATH_INVALID, state)
    | .noMatch => (.ERR_PATH_INVALID, state)

/-! ### The phase -/

/-- What the phase goes through, with the answers that it meets. -/
structure Phase where
  newRoot : Answer
  systemMounts : List (MountEntry × EntryAnswers)
  symLinks : List (SymLinkEntry × SymLinkAnswers)
  appMounts : List (MountEntry × EntryAnswers)
  setGroups : SandboxError
  policyMounts : List (PolicyMount × PolicyAnswers)
  pivotRoot : Answer

variable (config : RootConfig)

def mountNewRoot (newRoot : Answer) : MountStep := fun state =>
  match newRoot with
  | some errno => (.ERR_MOUNT_FAILED, state.failed errno)
  | none =>
    let call := .mount (some config.newRootPath) config.newRootPath (MS_BIND ||| MS_REC)
    (.SUCCESS, (state.called call).pushed config.newRootPath)

def mountSystemDirs (entries : List (MountEntry × EntryAnswers)) : MountStep :=
  untilFailure .SUCCESS (fun item => mountSystemEntry config item.2 item.1) entries

def mountSymLinks (entries : List (SymLinkEntry × SymLinkAnswers)) : MountStep :=
  untilFailure .SUCCESS (fun item => symlinkSingleEntry config item.2 item.1) entries

def mountAppDirs (entries : List (MountEntry × EntryAnswers)) : MountStep :=
  untilFailure .SUCCESS (fun item => mountSingleEntry config item.2 item.1) entries

def applyPolicyMounts (policyMounts : List (PolicyMount × PolicyAnswers)) : MountStep :=
  untilFailure .SUCCESS (fun item => mountPolicyPath config item.2 item.1) policyMounts

/-- The call of `pivot_root`; what follows it is no longer of the phase. -/
def pivotRoot (answer : Answer) : MountStep := fun state =>
  match answer with
  | some errno => (.ERR_NS_FAILED, state.failed errno)
  | none => (.SUCCESS, state)

/-- `ExecuteMountSteps` from `MountNewRoot` to `PivotRoot`. -/
def executeMountSteps (phase : Phase) : MountStep :=
  untilFailure .SUCCESS (fun step => step)
    [mountNewRoot config phase.newRoot, mountSystemDirs config phase.systemMounts,
     mountSymLinks config phase.symLinks, mountAppDirs config phase.appMounts,
     fun state => (phase.setGroups, state), applyPolicyMounts config phase.policyMounts,
     pivotRoot phase.pivotRoot]

def cleanup (pivotRootDone : Bool) (state : Progress) : Progress :=
  if pivotRootDone then state
  else
    { state with
      calls := state.calls ++ (state.mountedDirs.reverse.map MountCall.umount2 ++
        [.rmdir config.putOldPath, .rmdir config.newRootPath])
      mountedDirs := [] }

end SandboxManager.Claw.MountPhase
