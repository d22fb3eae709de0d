import SandboxManager.Claw.Environment
import SandboxManager.Claw.DecPolicies
import SandboxManager.Claw.MountPhase
import SandboxManager.Claw.Seccomp
import SandboxManager.Claw.StartupDelivery

/-! The process that becomes the sandbox, as far as its calls change it.

The launcher turns itself into the program step by step: what confines the program is what the
launcher has done to itself before it is replaced. A call that succeeds is put on record; what the
process is follows from the record (`Process.of`). The calls fall into stages, which is the order
in which a launch may make them. -/
namespace SandboxManager.Claw
open MountPhase (MountCall)

structure SelinuxContext where
  user : Bytes
  role : Bytes
  /-- Nothing for a context that has none, as the next one. -/
  type : Option Bytes
  range : Option Bytes
deriving DecidableEq

/-- A mark that the device keeps for a path. -/
structure PathMark where
  path : Bytes
  flags : UInt32
  recursive : UInt32
deriving DecidableEq

/-- A filter that is never taken off again: the one that is built here, or one by its name. -/
inductive SeccompFilter where
  | custom (prog : SockFprog)
  | named (name : Bytes)

/-- A call that succeeded. -/
inductive LaunchCall where
  | setcon (context : SelinuxContext)
  | setReadProcGroup (gid : UInt32)
  | setns (mountNamespace : Bytes)
  | unlink (path : Bytes)
  | removeTree (path : Bytes)
  | makeRoot (newRootPath putOldPath : Bytes)
  | unshare (nsFlags : UInt32)
  | mount (call : MountCall)
  | setgroups (gids : List UInt32)
  | pivotRoot (newRootPath putOldPath : Bytes)
  | enterRoot
  | detachOldRoot
  | setpgid
  | deliverDaemonSide (policies : PolicyState)
  | connect
  | fork
  | mountProc
  | setSelfTokenID (tokenId : UInt64)
  | setHapPTokenId (tokenId : UInt64)
  | setXpmOwnerId (ownerid : Bytes)
  | initAids
  | setAinfo (userid : UInt32) (appIdentifier : UInt64)
  | keepCaps
  | setresgid (gid : UInt32)
  | setresuid (uid : UInt32)
  | setDecPolicy (info : DecPolicyInfo)
  | chdir (path : Bytes)
  | setEnvironment (environment : Environment)
  | setNoNewPrivs
  | setSeccomp (filter : SeccompFilter)
  | executerInit
  | lockSecurebits
  | capset
  | addPathMark (mark : PathMark)
  | setEncapsProcFlag
  /-- The file by its inode. -/
  | fexecve (file : Nat) (argv : List Bytes) (environment : Environment)

/-- What a process is: what it was not given it has as it was started. -/
@[ext]
structure Process where
  context : Option SelinuxContext := none
  mountNamespace : Option Bytes := none
  /-- The kinds of namespaces that are its own. -/
  namespaces : UInt32 := 0
  root : Option Bytes := none
  oldRoot : Bool := true
  groups : List UInt32 := []
  ownGroup : Bool := false
  policies : Option PolicyState := none
  child : Bool := false
  tokenId : Option UInt64 := none
  hapPTokenId : Option UInt64 := none
  ownerid : Option Bytes := none
  ainfo : Option (UInt32 × UInt64) := none
  gid : Option UInt32 := none
  uid : Option UInt32 := none
  decPolicies : List DecPolicyInfo := []
  cwd : Option Bytes := none
  environment : Option Environment := none
  noNewPrivs : Bool := false
  filters : List SeccompFilter := []
  executer : Bool := false
  capabilities : Bool := true
  marks : List PathMark := []
  encaps : Bool := false
  program : Option (Nat × List Bytes × Environment) := none

namespace Process

/-- Mounts, and what the launcher leaves in the file system, change nothing about the process. -/
def after (p : Process) : LaunchCall → Process
  | .setcon context => { p with context := some context }
  | .setReadProcGroup gid => { p with groups := [gid] }
  | .setns mountNamespace => { p with mountNamespace := some mountNamespace }
  | .unshare nsFlags => { p with namespaces := p.namespaces ||| nsFlags }
  | .setgroups gids => { p with groups := gids }
  | .pivotRoot newRootPath _ => { p with root := some newRootPath }
  | .enterRoot => { p with cwd := some [slash] }
  | .detachOldRoot => { p with oldRoot := false }
  | .setpgid => { p with ownGroup := true }
  | .deliverDaemonSide policies => { p with policies := some policies }
  | .fork => { p with child := true }
  | .setSelfTokenID tokenId => { p with tokenId := some tokenId }
  | .setHapPTokenId tokenId => { p with hapPTokenId := some tokenId }
  | .setXpmOwnerId ownerid => { p with ownerid := some ownerid }
  | .setAinfo userid appIdentifier => { p with ainfo := some (userid, appIdentifier) }
  | .setresgid gid => { p with gid := some gid }
  | .setresuid uid => { p with uid := some uid }
  | .setDecPolicy info => { p with decPolicies := p.decPolicies ++ [info] }
  | .chdir path => { p with cwd := some path }
  | .setEnvironment environment => { p with environment := some environment }
  | .setNoNewPrivs => { p with noNewPrivs := true }
  | .setSeccomp filter => { p with filters := p.filters ++ [filter] }
  | .executerInit => { p with executer := true }
  | .capset => { p with capabilities := false }
  | .addPathMark mark => { p with marks := p.marks ++ [mark] }
  | .setEncapsProcFlag => { p with encaps := true }
  | .fexecve file argv environment => { p with program := some (file, argv, environment) }
  | .unlink _ | .removeTree _ | .makeRoot _ _ | .mount _ | .connect | .mountProc | .initAids | .keepCaps
  | .lockSecurebits => p

/-- The process that a record of calls makes. -/
def of (calls : List LaunchCall) : Process := calls.foldl after {}

theorem of_append (calls calls' : List LaunchCall) :
    of (calls ++ calls') = calls'.foldl after (of calls) := List.foldl_append

end Process

/-- Where in a launch the call belongs; a deletion comes after all of a launch. -/
def LaunchCall.stage : LaunchCall → Nat
  | setcon _ => 0
  | setReadProcGroup _ => 1
  | setns _ => 2
  | makeRoot _ _ => 3
  | unshare _ => 4
  | mount _ | setgroups _ => 5
  | pivotRoot _ _ => 6
  | enterRoot => 7
  | detachOldRoot => 8
  | setpgid => 9
  | deliverDaemonSide _ => 10
  | connect => 11
  | fork => 12
  | mountProc => 13
  | setSelfTokenID _ => 14
  | setHapPTokenId _ => 15
  | setXpmOwnerId _ => 16
  | initAids | setAinfo _ _ => 17
  | keepCaps => 18
  | setresgid _ => 19
  | setresuid _ => 20
  | setDecPolicy _ => 21
  | chdir _ => 22
  | setEnvironment _ => 23
  | setNoNewPrivs => 24
  | setSeccomp _ => 25
  | executerInit => 26
  | lockSecurebits => 27
  | capset => 28
  | addPathMark _ => 29
  | setEncapsProcFlag => 30
  | fexecve _ _ _ => 31
  | unlink _ | removeTree _ => 32

/-- Whether the call takes something out of the file system. -/
def LaunchCall.IsRemoval : LaunchCall → Prop
  | unlink _ | removeTree _ => True
  | _ => False

/-- What is removed is the directory, or something in it that is unlinked. -/
def LaunchCall.Removes (dir : Bytes) : LaunchCall → Prop
  | unlink path => ∃ link, path = dir ++ [slash] ++ link
  | removeTree path => path = dir
  | _ => False

theorem LaunchCall.IsRemoval.stage {call : LaunchCall} (h : call.IsRemoval) : call.stage = 32 := by
  cases call with
  | unlink | removeTree => rfl
  | _ => exact h.elim

theorem LaunchCall.Removes.stage {dir : Bytes} {call : LaunchCall} (h : call.Removes dir) :
    call.stage = 32 := by
  cases call with
  | unlink | removeTree => rfl
  | _ => exact h.elim

end SandboxManager.Claw
