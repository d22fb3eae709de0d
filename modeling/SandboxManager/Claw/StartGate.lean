import SandboxManager.Library.Handles
import SandboxManager.Claw.Response
import Mathlib.Logic.Relation

/-! The start gate (`NeedsStartGate` to `ForkAfterUnshare`, `sandbox_manager.cpp`, with the
parts of the monitor that reap the child).

A shell sandbox forks with a socket pair open on both sides. The child gives up its write end
and reads from the other; the parent sends a token once the monitor is initialised and closes
its write end whether or not it is. The two processes take steps in any order, each step one
call that the other side can tell, and either may be gone at any point. What the monitor does
in its loop besides waiting for the child is one step that may record an error. -/
namespace SandboxManager.Claw
open Library

/-- The codes count down from zero. -/
def SandboxError.value (e : SandboxError) : Int := -(e.ctorIdx : Int)

def SIGNAL_EXIT_BASE : Int := 128
def EXIT_MONITOR_UNAVAILABLE : UInt8 := 69

/-- How a process ended, as `waitpid` without `WUNTRACED` reports it. -/
inductive WaitStatus where
  | exited (status : UInt8)
  | signaled (signal : Fin 128)
deriving DecidableEq

/-- The code for it in `WaitForChildExit` and in `CheckChildExit`. -/
def WaitStatus.exitCode : WaitStatus → Int
  | exited status => status.toNat
  | signaled signal => SIGNAL_EXIT_BASE + signal

/-! ### The gate of one process -/

inductive GateEnd where
  | read | write
deriving DecidableEq

/-- `startGateReadFd_` and `startGateWriteFd_` (whether they hold a descriptor), what is open
behind them, and what the process has done with it. -/
structure GateEnds where
  startGateReadFd : Bool := false
  startGateWriteFd : Bool := false
  isOpen : GateEnd → Bool := fun _ => false
  ops : List (HandleOp GateEnd) := []

namespace GateEnds

def use (g : GateEnds) (e : GateEnd) : GateEnds := { g with ops := g.ops ++ [.use e] }

/-- The call alone; the member is not yet cleared. -/
def close (g : GateEnds) (e : GateEnd) : GateEnds :=
  { g with isOpen := fun e' => e' ≠ e && g.isOpen e', ops := g.ops ++ [.close e] }

def closeRead (g : GateEnds) : GateEnds := { g.close .read with startGateReadFd := false }

def closeWrite (g : GateEnds) : GateEnds := { g.close .write with startGateWriteFd := false }

/-- The test that guards most closes of the read end. -/
def dropRead (g : GateEnds) : GateEnds := if g.startGateReadFd then g.closeRead else g

def closeStartGate (g : GateEnds) : GateEnds := if g.startGateWriteFd then g.closeWrite else g

/-- The process is gone, and its descriptors with it. -/
def vanish (g : GateEnds) : GateEnds := { g with isOpen := fun _ => false }

end GateEnds

structure GateConfig where
  /-- `CONFIG_SHELL_SANDBOX`. -/
  shellSandbox : Bool
  type : Bytes
  /-- `CLONE_NEWPID` among the namespace flags. -/
  newPid : Bool

namespace GateConfig
variable (config : GateConfig)

def needsStartGate : Bool := config.shellSandbox && config.type == bytes "shell"

def needsForkAfterUnshare : Bool := config.type != bytes "cli" || config.newPid

/-- The first check of `RunMonitorForChild`. -/
def runsMonitor : Bool := config.shellSandbox && config.type == bytes "shell"

end GateConfig

/-! ### The monitor, as far as the gate is concerned -/

/-- What `Init` meets, call by call. -/
structure InitAnswers where
  deviceFd : Bool
  pidfdOpen : Bool
  setNonBlock : Bool
  epollCreate : Bool
  registerChild : Bool
  socket : Bool
  registerSocket : Bool
  registerDevice : Bool

/-- `SandboxMonitor::Init` on a fresh monitor for a child that was forked. -/
def monitorInit (answers : InitAnswers) : SandboxError :=
  if !answers.deviceFd then .ERR_DEVICE_OPEN_FAILED
  else if !answers.pidfdOpen then .ERR_CHILD_WATCH_FAILED
  else if !answers.setNonBlock then SandboxError.ERR_DEVICE_IO
  else if !answers.epollCreate then .ERR_EPOLL_FAILED
  else if !answers.registerChild then .ERR_EPOLL_FAILED
  else if answers.socket && !answers.registerSocket then .ERR_EPOLL_FAILED
  else if !answers.registerDevice then .ERR_EPOLL_FAILED
  else .SUCCESS

structure MonitorOutcome where
  childExitCode : Int := -1
  monitorError : SandboxError := .SUCCESS

def MonitorOutcome.resolveRunResult (m : MonitorOutcome) : Int :=
  if m.childExitCode ≠ -1 then m.childExitCode
  else if m.monitorError ≠ .SUCCESS then m.monitorError.value
  else SandboxError.ERR_MONITOR_STOPPED.value

/-! ### The two processes -/

/-- The calls of `CheckChildExit`: before the loop, and the two for an event of the pidfd. -/
inductive ReapCall where
  | early | asked | insisted
deriving DecidableEq

/-- Where the parent is, from `ParentAfterForkExitCode` on. -/
inductive ParentPoint where
  | start
  | monitorInit
  | initFailed (ret : SandboxError)
  | releaseStartGate
  | send
  | sent
  | reap (call : ReapCall)
  | poll
  | batch
  | closeStartGate (exitCode : Int)
  | waitForChildExit
  | leave (exitCode : Int)
  | exited (status : UInt8)
  | gone

inductive ReadAnswer where
  | token | eof | failed
deriving DecidableEq

/-- Where the child is, from `ChildAfterFork` on; `running` is everything after it. -/
inductive ChildPoint where
  | start
  | gate
  | answered (got : ReadAnswer)
  | running
  | zombie (status : WaitStatus)
  | reaped (status : WaitStatus)

structure GateState where
  parent : ParentPoint := .start
  child : ChildPoint := .start
  parentEnds : GateEnds
  childEnds : GateEnds
  /-- In the socket, not yet read. -/
  tokens : Nat := 0
  monitor : MonitorOutcome := {}
  /-- What `Init` returned, once it has. -/
  initialised : Option SandboxError := none
  /-- The send of the token has succeeded. -/
  released : Bool := false
  /-- The child has gone past its gate. -/
  passed : Bool := false
  /-- What the parent has been told by `waitpid`. -/
  reaped : List WaitStatus := []

namespace GateState

/-- Some process can still write to the gate. -/
def hasWriter (s : GateState) : Bool := s.parentEnds.isOpen .write || s.childEnds.isOpen .write

def hasReader (s : GateState) : Bool := s.parentEnds.isOpen .read || s.childEnds.isOpen .read

/-- The status has been collected. -/
def reap (s : GateState) (status : WaitStatus) : GateState :=
  { s with child := .reaped status, reaped := s.reaped ++ [status] }

/-- The child has ended. -/
def endChild (s : GateState) (status : WaitStatus) : GateState :=
  { s with child := .zombie status, childEnds := s.childEnds.vanish }

end GateState

/-- Whether the child is still a process that takes steps. -/
def ChildPoint.alive : ChildPoint → Bool
  | zombie _ => false
  | reaped _ => false
  | _ => true

def ParentPoint.alive : ParentPoint → Bool
  | exited _ => false
  | gone => false
  | _ => true

section
variable (config : GateConfig)

/-- A step of the parent. A wait reports the child's end once and fails after that. -/
inductive ParentStep : GateState → GateState → Prop
  | dropRead {s : GateState} (at_ : s.parent = .start) (monitor : config.runsMonitor = true) :
      ParentStep s { s with parentEnds := s.parentEnds.dropRead, parent := .monitorInit }
  | noMonitor {s : GateState} (at_ : s.parent = .start) (monitor : config.runsMonitor = false) :
      ParentStep s
      { s with parentEnds := s.parentEnds.dropRead, parent := .closeStartGate (-1) }
  | init {s : GateState} (answers : InitAnswers) (at_ : s.parent = .monitorInit)
      (success : monitorInit answers = .SUCCESS) : ParentStep s
      { s with initialised := some .SUCCESS, parent := .releaseStartGate }
  | initError {s : GateState} (answers : InitAnswers) (at_ : s.parent = .monitorInit)
      (failure : monitorInit answers ≠ .SUCCESS) : ParentStep s
      { s with
        initialised := some (monitorInit answers)
        parent := .initFailed (monitorInit answers) }
  | initFailed {s : GateState} {ret : SandboxError} (at_ : s.parent = .initFailed ret) :
      ParentStep s
      { s with
        parentEnds := s.parentEnds.closeStartGate
        parent := .closeStartGate ret.value }
  | release {s : GateState} (at_ : s.parent = .releaseStartGate)
      (held : s.parentEnds.startGateWriteFd = true) : ParentStep s { s with parent := .send }
  | releaseNothing {s : GateState} (at_ : s.parent = .releaseStartGate)
      (held : s.parentEnds.startGateWriteFd = false) : ParentStep s
      { s with parent := .reap .early }
  | sendInterrupted {s : GateState} (at_ : s.parent = .send) : ParentStep s
      { s with parentEnds := s.parentEnds.use .write }
  | sendToken {s : GateState} (at_ : s.parent = .send) (isOpen : s.parentEnds.isOpen .write = true)
      (reader : s.hasReader = true) : ParentStep s
      { s with
        parentEnds := s.parentEnds.use .write
        tokens := s.tokens + 1
        released := true
        parent := .sent }
  | sendFailed {s : GateState} (at_ : s.parent = .send) : ParentStep s
      { s with parentEnds := s.parentEnds.use .write, parent := .sent }
  | sent {s : GateState} (at_ : s.parent = .sent) : ParentStep s
      { s with parentEnds := s.parentEnds.closeWrite, parent := .reap .early }
  | reapInterrupted {s : GateState} {call : ReapCall} (at_ : s.parent = .reap call) :
      ParentStep s s
  | reapNothing {s : GateState} (at_ : s.parent = .reap .early)
      (child : ∀ status, s.child ≠ .reaped status) : ParentStep s { s with parent := .poll }
  | reapNotYet {s : GateState} (at_ : s.parent = .reap .asked)
      (child : ∀ status, s.child ≠ .reaped status) : ParentStep s
      { s with parent := .reap .insisted }
  | reapChild {s : GateState} {call : ReapCall} {status : WaitStatus} (at_ : s.parent = .reap call)
      (child : s.child = .zombie status) : ParentStep s
      { s.reap status with
        monitor := ⟨status.exitCode, .SUCCESS⟩
        parent := .closeStartGate (MonitorOutcome.resolveRunResult ⟨status.exitCode, .SUCCESS⟩) }
  | reapFailed {s : GateState} {call : ReapCall} {status : WaitStatus}
      (at_ : s.parent = .reap call) (child : s.child = .reaped status) : ParentStep s
      { s with
        monitor := { s.monitor with monitorError := .ERR_CHILD_WAIT_FAILED }
        parent := .closeStartGate (MonitorOutcome.resolveRunResult
          { s.monitor with monitorError := .ERR_CHILD_WAIT_FAILED }) }
  | pollInterrupted {s : GateState} (at_ : s.parent = .poll) : ParentStep s s
  | pollFailed {s : GateState} (at_ : s.parent = .poll) : ParentStep s
      { s with
        monitor := { s.monitor with monitorError := .ERR_EPOLL_FAILED }
        parent := .closeStartGate (MonitorOutcome.resolveRunResult
          { s.monitor with monitorError := .ERR_EPOLL_FAILED }) }
  | pollEvents {s : GateState} (at_ : s.parent = .poll) : ParentStep s { s with parent := .batch }
  | otherEvent {s : GateState} (at_ : s.parent = .batch) (monitorError : SandboxError) :
      ParentStep s { s with monitor := { s.monitor with monitorError := monitorError } }
  | otherStop {s : GateState} (at_ : s.parent = .batch) (monitorError : SandboxError) :
      ParentStep s
      { s with
        monitor := { s.monitor with monitorError := monitorError }
        parent := .closeStartGate (MonitorOutcome.resolveRunResult
          { s.monitor with monitorError := monitorError }) }
  | childEvent {s : GateState} (at_ : s.parent = .batch) : ParentStep s
      { s with parent := .reap .asked }
  | childEventFailed {s : GateState} (at_ : s.parent = .batch) : ParentStep s
      { s with
        monitor := { s.monitor with monitorError := .ERR_CHILD_WATCH_FAILED }
        parent := .closeStartGate (MonitorOutcome.resolveRunResult
          { s.monitor with monitorError := .ERR_CHILD_WATCH_FAILED }) }
  | batchDone {s : GateState} (at_ : s.parent = .batch) : ParentStep s { s with parent := .poll }
  | closeStartGate {s : GateState} {exitCode : Int} (at_ : s.parent = .closeStartGate exitCode)
      (known : 0 ≤ exitCode) : ParentStep s
      { s with parentEnds := s.parentEnds.closeStartGate, parent := .leave exitCode }
  | fallBack {s : GateState} {exitCode : Int} (at_ : s.parent = .closeStartGate exitCode)
      (unknown : exitCode < 0) : ParentStep s
      { s with parentEnds := s.parentEnds.closeStartGate, parent := .waitForChildExit }
  | waitInterrupted {s : GateState} (at_ : s.parent = .waitForChildExit) : ParentStep s s
  | waitChild {s : GateState} {status : WaitStatus} (at_ : s.parent = .waitForChildExit)
      (child : s.child = .zombie status) : ParentStep s
      { s.reap status with parent := .leave status.exitCode }
  | waitFailed {s : GateState} {status : WaitStatus} (at_ : s.parent = .waitForChildExit)
      (child : s.child = .reaped status) : ParentStep s
      { s with parent := .leave SandboxError.ERR_CHILD_WAIT_FAILED.value }
  | exit {s : GateState} {exitCode : Int} (at_ : s.parent = .leave exitCode) : ParentStep s
      { s with
        parentEnds := s.parentEnds.vanish
        parent := .exited (UInt8.ofInt exitCode) }
  | lost {s : GateState} (alive : s.parent.alive = true) : ParentStep s
      { s with parentEnds := s.parentEnds.vanish, parent := .gone }

/-- A step of the child. A read returns the token if there is one and the end of the stream
when nobody can write any more; otherwise it waits. -/
inductive ChildStep : GateState → GateState → Prop
  | dropWrite {s : GateState} (at_ : s.child = .start) (gate : config.needsStartGate = true) :
      ChildStep s { s with childEnds := s.childEnds.closeStartGate, child := .gate }
  | noGate {s : GateState} (at_ : s.child = .start) (gate : config.needsStartGate = false) :
      ChildStep s
      { s with childEnds := s.childEnds.closeStartGate, child := .running, passed := true }
  | readInterrupted {s : GateState} (at_ : s.child = .gate) : ChildStep s
      { s with childEnds := s.childEnds.use .read }
  | readToken {s : GateState} (at_ : s.child = .gate) (isOpen : s.childEnds.isOpen .read = true)
      (token : 0 < s.tokens) : ChildStep s
      { s with
        childEnds := s.childEnds.use .read
        tokens := s.tokens - 1
        child := .answered .token }
  | readEof {s : GateState} (at_ : s.child = .gate) (isOpen : s.childEnds.isOpen .read = true)
      (noToken : s.tokens = 0) (noWriter : s.hasWriter = false) : ChildStep s
      { s with childEnds := s.childEnds.use .read, child := .answered .eof }
  | readFailed {s : GateState} (at_ : s.child = .gate) : ChildStep s
      { s with childEnds := s.childEnds.use .read, child := .answered .failed }
  | pass {s : GateState} (at_ : s.child = .answered .token) : ChildStep s
      { s with childEnds := s.childEnds.closeRead, child := .running, passed := true }
  | refuse {s : GateState} {got : ReadAnswer} (at_ : s.child = .answered got)
      (not_token : got ≠ .token) : ChildStep s
      (({ s with childEnds := s.childEnds.closeRead } : GateState).endChild
        (.exited EXIT_MONITOR_UNAVAILABLE))
  | exit {s : GateState} (at_ : s.child = .running) (status : WaitStatus) : ChildStep s
      (s.endChild status)
  | killed {s : GateState} (alive : s.child.alive = true) (signal : Fin 128) : ChildStep s
      (s.endChild (.signaled signal))

/-- A step of either, in any order. -/
def GateStep (s s' : GateState) : Prop := ParentStep config s s' ∨ ChildStep config s s'

/-! ### The fork -/

/-- What `ForkAfterUnshare` comes to; when the fork fails, what it has done with the gate. -/
inductive ForkOutcome where
  | inPlace
  | gateFailed
  | forkFailed (ends : GateEnds)
  | forked (s : GateState)

/-- `CreateStartGate`, where there is one to create. -/
def createStartGate : GateEnds :=
  if config.needsStartGate then
    { startGateReadFd := true, startGateWriteFd := true, isOpen := fun _ => true }
  else {}

/-- `ForkAfterUnshare`; both sides start with the descriptors of the one process. -/
def forkAfterUnshare (socketpair fork : Bool) : ForkOutcome :=
  if !config.needsForkAfterUnshare then .inPlace
  else if config.needsStartGate && !socketpair then .gateFailed
  else if !fork then .forkFailed (createStartGate config).closeStartGate.dropRead
  else .forked { parentEnds := createStartGate config, childEnds := createStartGate config }

end

end SandboxManager.Claw
