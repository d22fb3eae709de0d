import SandboxManager.Claw.Environment
import SandboxManager.Library.LongestMatch

/-! Policy mounts (`GetMountReadOnly` to `ApplyPolicyMounts`, `sandbox_mount.cpp`, with the part
of `sandbox_cmd_parser.cpp` that reads them).

A mount stands at a place of the directory tree. The table lists the mounts in the order in
which they were made, as `/proc/self/mountinfo` prints them, and a place belongs to the mount
with the longest covering place, the last one where several stand at that place. A bind mount
repeats the mount that its source belongs to, flag and all, and with it whatever is mounted
below the source; a remount sets the flag of the last mount at its target. What the file system
and the kernel answer while one policy mount is applied is an argument. -/
namespace SandboxManager.Claw
open Library LongestMatch

/-! ### Places and mounts -/

abbrev Component := { name : Bytes // IsSegment slash name }

/-- What a path resolves to: the names on the way down. -/
abbrev Place := List Component

/-- As `realpath` writes it. -/
def Place.path (place : Place) : Bytes :=
  if place = [] then [slash] else absolute slash (place.map Subtype.val)

structure Mount where
  place : Place
  readOnly : Bool
  /-- What its line has before the mount point (three numbers and the root of the mount), and
  what it has after `ro` or `rw`. -/
  ahead : Bytes
  behind : Bytes
deriving DecidableEq

def space : UInt8 := 32
def comma : UInt8 := 44
def backslash : UInt8 := 92

/-- The octal escapes of the kernel: for blanks, tabs, newlines and backslashes. -/
def escape (c : UInt8) : Bytes :=
  if c = space ∨ c = 9 ∨ c = 10 ∨ c = backslash then
    [backslash, 48 + c / 64, 48 + c / 8 % 8, 48 + c % 8]
  else [c]

/-- A line of `/proc/self/mountinfo`. -/
def Mount.line (mount : Mount) : Bytes :=
  mount.ahead ++ space :: (mount.place.path.flatMap escape ++ space ::
    ((if mount.readOnly then bytes "ro" else bytes "rw") ++ mount.behind))

/-- Whether what lies at the place is out of reach for writing. -/
def readOnlyAt (mounts : List Mount) (place : Place) : Bool :=
  (longest Mount.place place mounts).any Mount.readOnly

/-- `MS_REMOUNT` at a place; a place without a mount is refused. -/
def remountTop (place : Place) (readOnly : Bool) : List Mount → Option (List Mount)
  | [] => none
  | mount :: rest =>
    match remountTop place readOnly rest with
    | some rest' => some (mount :: rest')
    | none => if mount.place = place then some ({ mount with readOnly } :: rest) else none

/-- A mount below the source, where `MS_REC` puts it below the target. The numbers on the line
of a new mount are the kernel's choice. -/
def repeated (columns : Place → Bytes × Bytes) (source target : Place) (mount : Mount) : Mount :=
  let place := target ++ mount.place.drop source.length
  ⟨place, mount.readOnly, (columns place).1, (columns place).2⟩

def below (source : Place) (mount : Mount) : Bool := source <+: mount.place ∧ mount.place ≠ source

/-- `MS_BIND | MS_REC`. -/
def bindMount (columns : Place → Bytes × Bytes) (source target : Place) (mounts : List Mount) :
    Option (List Mount) :=
  (longest Mount.place source mounts).map fun mount =>
    mounts ++ ⟨target, mount.readOnly, (columns target).1, (columns target).2⟩ ::
      (mounts.filter (below source)).map (repeated columns source target)

/-! ### The policy and what it meets -/

structure PolicyMount where
  source : Bytes
  readOnly : Bool := true
deriving DecidableEq

structure ConditionalRule where
  source : Bytes
  target : Bytes
  permissions : List Bytes

def PERMISSION_GRANTED : Int := 0

structure MountConfig where
  newRootPath : Bytes
  conditionalRules : List ConditionalRule
  callerTokenId : UInt64
  verifyAccessToken : UInt32 → Bytes → Int

/-- What is answered while one policy mount is applied. -/
structure MountAnswers where
  /-- The table opens for `IsExactMountPoint`, and for `GetMountReadOnly`. -/
  mountInfoOpens : Bool
  mountInfoReopens : Bool
  realPath : Bytes → Option Place
  statSource : Bool
  createDir : SandboxError
  bind : Bool
  remount : Bool
  columns : Place → Bytes × Bytes

structure MountState where
  mounts : List Mount
  mountedDirs : List Bytes := []

/-! ### Reading the table -/

/-- What `>>` reads from a line, one after another. -/
def words (line : Bytes) : List Bytes :=
  segments space (line.map fun c => if isspace c then space else c)

def mountOptionsReadOnly (options : Bytes) : Bool := (segments comma options).any (· == bytes "ro")

def getRealPath (realPath : Bytes → Option Place) (path : Bytes) : Bytes :=
  if path = [] then []
  else
    match realPath path with
    | none => []
    | some place => place.path

def isPathUnder (realPath : Bytes → Option Place) (path dir : Bytes) : Bool :=
  let realPath' := getRealPath realPath path
  let realDir := getRealPath realPath dir
  if realPath' = [] || realDir = [] then false
  else if realDir = [slash] then realPath'.head? == some slash
  else if realPath' = realDir then true
  else realDir.isPrefixOf realPath' && (realPath'.drop realDir.length).head? == some slash

/-- `bestLen`, `readOnly` and `found`. -/
structure ReadOnlySearch where
  bestLen : Nat := 0
  readOnly : Bool := false
  found : Bool := false

def searchLine (realPath : Bytes → Option Place) (path : Bytes) (search : ReadOnlySearch)
    (line : Bytes) : ReadOnlySearch :=
  match words line with
  | _id :: _parent :: _majorMinor :: _root :: mountPoint :: options :: _ =>
    if isPathUnder realPath path mountPoint && search.bestLen ≤ mountPoint.length then
      ⟨mountPoint.length, mountOptionsReadOnly options, true⟩
    else search
  | _ => search

def getMountReadOnly (answers : MountAnswers) (mounts : List Mount) (path : Bytes) :
    Except SandboxError Bool :=
  if !answers.mountInfoReopens then .error .ERR_PATH_INVALID
  else
    let search := (mounts.map Mount.line).foldl (searchLine answers.realPath path) {}
    if !search.found then .error .ERR_PATH_INVALID else .ok search.readOnly

def lineAt (path line : Bytes) : Bool :=
  match words line with
  | _id :: _parent :: _majorMinor :: _root :: mountPoint :: _ => mountPoint == path
  | _ => false

def isExactMountPoint (answers : MountAnswers) (mounts : List Mount) (path : Bytes) :
    Except SandboxError Bool :=
  if !answers.mountInfoOpens then .error .ERR_PATH_INVALID
  else .ok ((mounts.map Mount.line).any (lineAt path))

/-- Policy may tighten access to readonly, but must not widen an existing readonly mount to
writable. -/
def isPolicyWriteEscalation (policyReadOnly existingReadOnly : Bool) : Bool :=
  !policyReadOnly && existingReadOnly

/-! ### Conditional rules -/

namespace MountConfig
variable (config : MountConfig)

def isPermissionGranted (permissionName : Bytes) : Bool :=
  let tokenId := config.callerTokenId.toUInt32
  tokenId != 0 && config.verifyAccessToken tokenId permissionName == PERMISSION_GRANTED

end MountConfig

inductive ConditionalMatchResult where
  | noMatch
  | matched (physicalSource : Bytes)
  | blocked
deriving DecidableEq

def matchRules (config : MountConfig) (target : Bytes) :
    Bool → List ConditionalRule → ConditionalMatchResult
  | anyPrefixMatched, [] => if anyPrefixMatched then .blocked else .noMatch
  | anyPrefixMatched, rule :: rules =>
    let rest := target.drop rule.target.length
    if rule.target = [] then matchRules config target anyPrefixMatched rules
    else if !rule.target.isPrefixOf target then matchRules config target anyPrefixMatched rules
    else if rest ≠ [] ∧ rest.head? ≠ some slash then
      matchRules config target anyPrefixMatched rules
    else if rule.permissions = [] then .matched (rule.source ++ rest)
    else if rule.permissions.any config.isPermissionGranted then .matched (rule.source ++ rest)
    else matchRules config target true rules

def matchConditionalSource (config : MountConfig) (target : Bytes) : ConditionalMatchResult :=
  matchRules config target false config.conditionalRules

/-! ### Mounting -/

/-- The flags go in with the call, so a mount of the same place is only ever given one of them. -/
def MountAnswers.remountAt (answers : MountAnswers) (target : Bytes) (readOnly : Bool)
    (mounts : List Mount) : Option (List Mount) :=
  if answers.remount then
    (answers.realPath target).bind fun place => remountTop place readOnly mounts
  else none

def MountAnswers.bindAt (answers : MountAnswers) (source target : Bytes) (mounts : List Mount) :
    Option (List Mount) :=
  if answers.bind then
    (answers.realPath source).bind fun sourcePlace =>
      (answers.realPath target).bind fun targetPlace =>
        bindMount answers.columns sourcePlace targetPlace mounts
  else none

def remountPolicyMount (answers : MountAnswers) (policyMount : PolicyMount) (target : Bytes)
    (state : MountState) : Except SandboxError MountState := do
  if !policyMount.readOnly then
    let targetReadOnly ← getMountReadOnly answers state.mounts target
    if isPolicyWriteEscalation policyMount.readOnly targetReadOnly then
      throw .ERR_PATH_INVALID
  match answers.remountAt target policyMount.readOnly state.mounts with
  | none => throw .ERR_MOUNT_FAILED
  | some mounts => return { state with mounts }

def bindMountConditionalPath (answers : MountAnswers) (policyMount : PolicyMount)
    (mountTarget physicalSource : Bytes) (state : MountState) :
    Except SandboxError MountState :=
  if !answers.statSource then .error .ERR_PATH_INVALID
  else if answers.createDir ≠ .SUCCESS then .error answers.createDir
  else
    match answers.bindAt physicalSource mountTarget state.mounts with
    | none => .error .ERR_MOUNT_FAILED
    | some mounts =>
      if policyMount.readOnly then
        match answers.remountAt mountTarget true mounts with
        | none => .error .ERR_MOUNT_FAILED
        | some mounts => .ok ⟨mounts, state.mountedDirs ++ [mountTarget]⟩
      else .ok ⟨mounts, state.mountedDirs ++ [mountTarget]⟩

def mountPolicyPath (config : MountConfig) (answers : MountAnswers) (policyMount : PolicyMount)
    (state : MountState) : Except SandboxError MountState := do
  let target := policyMount.source
  let mountTarget := config.newRootPath ++ target
  let targetIsMountPoint ← isExactMountPoint answers state.mounts mountTarget
  if targetIsMountPoint then remountPolicyMount answers policyMount mountTarget state
  else
    match matchConditionalSource config target with
    | .matched physicalSource =>
      bindMountConditionalPath answers policyMount mountTarget physicalSource state
    | .blocked => throw .ERR_PATH_INVALID
    | .noMatch => throw .ERR_PATH_INVALID

/-- Each policy mount with the answers it meets. -/
def applyPolicyMounts (config : MountConfig) (policyMounts : List (PolicyMount × MountAnswers))
    (state : MountState) : Except SandboxError MountState :=
  policyMounts.foldlM (fun state item => mountPolicyPath config item.2 item.1 state) state

/-! ### The parser -/

def MAX_POLICY_MOUNTS_COUNT : Nat := 1024

def parsePolicyMountSource (mountItem : Json) : Except SandboxError Bytes :=
  match Json.stringOf (mountItem.getObjectItem (bytes "source")) with
  | none => .error .ERR_CONFIG_INVALID
  | some path =>
    if path.head? ≠ some slash then .error .ERR_CONFIG_INVALID
    else if bytes "/../" <:+: path ∨ bytes "/.." <:+ path then .error .ERR_CONFIG_INVALID
    else .ok path

/-- Whether the mode is `ro`. -/
def parsePolicyMountMode (mountItem : Json) : Except SandboxError Bool :=
  match Json.stringOf (mountItem.getObjectItem (bytes "mode")) with
  | none => .error .ERR_CONFIG_INVALID
  | some mode =>
    if mode = bytes "ro" then .ok true
    else if mode = bytes "rw" then .ok false
    else .error .ERR_CONFIG_INVALID

def parsePolicyMountItem (mountItem : Json) : Except SandboxError PolicyMount :=
  if !mountItem.isObject then .error .ERR_CONFIG_INVALID
  else do
    let source ← parsePolicyMountSource mountItem
    let readOnly ← parsePolicyMountMode mountItem
    return { source, readOnly }

def parsePolicyMounts (policy : Json) : Except SandboxError (List PolicyMount) :=
  match policy.getObjectItem (bytes "mounts") with
  | none => .ok []
  | some (.array mounts) =>
    if MAX_POLICY_MOUNTS_COUNT < mounts.length then .error .ERR_CONFIG_INVALID
    else mounts.mapM parsePolicyMountItem
  | some _ => .error .ERR_CONFIG_INVALID

end SandboxManager.Claw
