import Mathlib.Algebra.GroupWithZero.Nat
import SandboxManager.Claw.Socket

/-! The monitor's state and its transmit queue (`sandbox_monitor.h`, the queue functions of
`sandbox_monitor.cpp`).

Messages owed to the app wait in one bounded queue, oldest first, and move to the socket
one at a time. Beside the members of the class the state carries a `World`: what the
kernel will answer, and a history of the run for statements about whole runs. No function
of the monitor reads the history. -/
namespace SandboxManager.Claw

def MONITOR_RECONNECT_MAX_ATTEMPTS : Int := 3
def MAX_PENDING_ANSWER_COUNT : Nat := 256
def MAX_SOCKET_TX_QUEUE_COUNT : Nat := 64
def MAX_SOCKET_TX_QUEUE_BYTES : Nat := 128 * 1024

inductive MonitorState where
  | ACTIVE
  | RECONNECTING
  | DEGRADED
deriving DecidableEq, Repr

inductive DecPolicyAction where
  | ALLOW
  | DENY
  | ASK
  | NONE
deriving DecidableEq, Repr

/-- A message the monitor owes the app. The serial is no member of the struct: it is the
message's number in the run. -/
structure PendingSocketMessage where
  msgType : UInt32
  requestId : UInt32 := 0
  result : Int32 := 0
  eventId : UInt64 := 0
  needsAnswer : Bool := false
  body : Bytes
  serial : Nat := 0
deriving DecidableEq, Repr

/-- What one call of `write` on the device comes to. -/
inductive WriteResult where
  | wrote (n : Nat)
  | interrupted
  | again
  | failed
deriving DecidableEq, Repr

/-- The answer the device is written. -/
structure DecEventAnswer where
  size : UInt32
  reserved1 : UInt32
  eventId : UInt64
  action : DecPolicyAction
  reserved2 : UInt32
deriving DecidableEq, Repr

/-! ### The history -/

/-- A request and what came of it, before the code is translated. -/
structure Served where
  message : ParsedMessage
  ret : SandboxError
  detail : Bytes
deriving DecidableEq, Repr

/-- A connection: the messages its socket took, and the bytes the kernel took. -/
structure Connection where
  handed : List PendingSocketMessage
  wire : Bytes
deriving DecidableEq, Repr

/-- The messages of a connection the peer has received completely. -/
def Connection.written (c : Connection) : List PendingSocketMessage :=
  c.handed.take (received c.wire).length

/-- The messages the socket took and the peer has not received completely. -/
def Connection.unwritten (c : Connection) : List PendingSocketMessage :=
  c.handed.drop (received c.wire).length

/-- The two operations that can part with a message, each with what it finds. -/
inductive Op where
  | push (queue : List PendingSocketMessage) (message : PendingSocketMessage)
  | close (connection : Connection)
deriving DecidableEq, Repr

/-- What passes between the app and the device: the messages handed to the socket, and the
writes of answers. -/
inductive Exchange where
  | handed (message : PendingSocketMessage)
  | write (answer : DecEventAnswer) (result : WriteResult)
deriving DecidableEq, Repr

/-- What C++ leaves undefined. -/
inductive Fault where
  | nullSocket
  | closedDevice
deriving DecidableEq, Repr

/-- What surrounds the monitor: the answers to its coming calls of `send`, and the history
of the run. Of the events the device produced, `delivered` holds those for which there was
a socket or an attempt left. -/
structure World where
  sends : List SendResult := []
  created : List PendingSocketMessage := []
  handed : List PendingSocketMessage := []
  closed : List Connection := []
  trace : List Op := []
  parsed : List ParsedMessage := []
  served : List Served := []
  delivered : List (UInt64 × Bytes) := []
  exchanges : List Exchange := []
  faults : List Fault := []
deriving DecidableEq, Repr

structure SandboxMonitor where
  socketPath : Bytes
  socket : Option SandboxSocket
  socketTxQueue : List PendingSocketMessage := []
  socketTxBytes : Nat := 0
  pendingAnswers : List UInt64 := []
  reconnectAttemptsLeft : Int := 0
  state : MonitorState := .ACTIVE
  deviceFd : Int
  socketWriteEnabled : Bool := false
  world : World := {}
deriving DecidableEq, Repr

/-- The number of values of a `size_t`. -/
def SIZE_RANGE : Nat := 0x10000000000000000

def sizeAdd (a b : Nat) : Nat := (a + b) % SIZE_RANGE

/-- Subtraction of a `size_t` no larger than the range. -/
def sizeSub (a b : Nat) : Nat := (a + (SIZE_RANGE - b)) % SIZE_RANGE

namespace SandboxMonitor

/-- The kernel's answers to the calls of `send` from here on. -/
def answering (m : SandboxMonitor) (sends : List SendResult) : SandboxMonitor :=
  { m with world := { m.world with sends := sends } }

/-- A message comes into being and gets its number. -/
def create (m : SandboxMonitor) (message : PendingSocketMessage) : PendingSocketMessage :=
  { message with serial := m.world.created.length }

/-- A message that was created goes to the socket. -/
def handOver (m : SandboxMonitor) (message : PendingSocketMessage) : SandboxMonitor :=
  { m with world := { m.world with
      handed := m.world.handed ++ [message]
      exchanges := m.world.exchanges ++ [.handed message] } }

/-- What the null pointer or the closed descriptor would make of a use. -/
def fault (m : SandboxMonitor) (what : Fault) : SandboxMonitor :=
  { m with world := { m.world with faults := m.world.faults ++ [what] } }

def useSocket (m : SandboxMonitor) : SandboxMonitor :=
  if m.socket.isNone then m.fault .nullSocket else m

def useDevice (m : SandboxMonitor) : SandboxMonitor :=
  if m.deviceFd < 0 then m.fault .closedDevice else m

/-! ### Pushing -/

/-- The eviction loop of `PushSocketMessage`, on the queue and its byte count. -/
def evictOldest (bodySize : Nat) : List PendingSocketMessage → Nat →
    List PendingSocketMessage × Nat
  | [], txBytes => ([], txBytes)
  | front :: rest, txBytes =>
    if MAX_SOCKET_TX_QUEUE_COUNT ≤ (front :: rest).length ∨
        MAX_SOCKET_TX_QUEUE_BYTES - bodySize < txBytes then
      evictOldest bodySize rest (sizeSub txBytes front.body.length)
    else (front :: rest, txBytes)

def pushSocketMessage (m : SandboxMonitor) (message : PendingSocketMessage) : SandboxMonitor :=
  let message := m.create message
  let bodySize := message.body.length
  let m := { m with world := { m.world with
    created := m.world.created ++ [message]
    trace := m.world.trace ++ [.push m.socketTxQueue message] } }
  if MAX_SOCKET_TX_QUEUE_BYTES < bodySize then m
  else
    let (queue, txBytes) := evictOldest bodySize m.socketTxQueue m.socketTxBytes
    { m with
      socketTxQueue := queue ++ [message]
      socketTxBytes := sizeAdd txBytes bodySize }

def pushEventReport (m : SandboxMonitor) (eventId : UInt64) (needsAnswer : Bool) (body : Bytes) :
    SandboxMonitor :=
  m.pushSocketMessage
    { msgType := SOCKET_MSG_EVENT_REPORT, eventId := eventId, needsAnswer := needsAnswer,
      body := body }

def pushResponse (m : SandboxMonitor) (requestId : UInt32) (result : Int32) (body : Bytes) :
    SandboxMonitor :=
  m.pushSocketMessage
    { msgType := SOCKET_MSG_RESPONSE, requestId := requestId, result := result, body := body }

def pushPendingAnswer (m : SandboxMonitor) (eventId : UInt64) : SandboxMonitor :=
  let pending :=
    if MAX_PENDING_ANSWER_COUNT ≤ m.pendingAnswers.length then m.pendingAnswers.drop 1
    else m.pendingAnswers
  { m with pendingAnswers := pending ++ [eventId] }

end SandboxMonitor

/-! ### Flushing -/

/-- The call `FlushSocketTxQueue` makes for the front of the queue. -/
def SandboxSocket.sendPending (s : SandboxSocket) (front : PendingSocketMessage)
    (sends : List SendResult) : SandboxSocket × SandboxError × List SendResult :=
  if front.msgType = SOCKET_MSG_RESPONSE then
    s.sendResponse front.requestId front.result front.body sends
  else s.sendMessage front.msgType front.body sends

theorem SandboxSocket.sendPending_eq_tooLarge {s : SandboxSocket} {front : PendingSocketMessage}
    {sends : List SendResult} (h : (s.sendPending front sends).2.1 = .ERR_SOCKET_MSG_TOO_LARGE) :
    MAX_BODY_LENGTH < front.body.length := by
  unfold sendPending at h
  split at h <;> exact queueMessage_eq_tooLarge h

namespace SandboxMonitor

/-- `FlushSocketTxQueue`. A response whose body is too large is stripped of it and comes
round again. -/
def flushSocketTxQueue (m : SandboxMonitor) : SandboxMonitor × SandboxError :=
  match hqueue : m.socketTxQueue with
  | [] => (m, .SUCCESS)
  | front :: rest =>
    match m.socket with
    | none => (m, .SUCCESS)
    | some socket =>
      if socket.hasPendingTxData then (m, .SUCCESS)
      else
        let out := socket.sendPending front m.world.sends
        let ret := out.2.1
        let m' := { m with socket := some out.1, world := { m.world with sends := out.2.2 } }
        if ret = .ERR_SOCKET_TX_FULL then (m', .SUCCESS)
        else if htooLarge : ret = .ERR_SOCKET_MSG_TOO_LARGE then
          let m' := { m' with socketTxBytes := sizeSub m'.socketTxBytes front.body.length }
          if front.msgType = SOCKET_MSG_RESPONSE then
            flushSocketTxQueue { m' with socketTxQueue := { front with body := [] } :: rest }
          else flushSocketTxQueue { m' with socketTxQueue := rest }
        else if ret ≠ .SUCCESS then (m', ret)
        else
          let m' := m'.handOver front
          let m' := if front.needsAnswer then m'.pushPendingAnswer front.eventId else m'
          flushSocketTxQueue
            { m' with
              socketTxBytes := sizeSub m'.socketTxBytes front.body.length
              socketTxQueue := rest }
termination_by (m.socketTxQueue.length, (m.socketTxQueue.map (·.body.length)).sum)
decreasing_by
  · have hbody := SandboxSocket.sendPending_eq_tooLarge htooLarge
    simp only [hqueue, List.map_cons, List.sum_cons, List.length_cons, List.length_nil]
    apply Prod.Lex.right
    omega
  · simp only [hqueue, List.length_cons]
    exact Prod.Lex.left _ _ (Nat.lt_succ_self _)
  · simp only [hqueue, List.length_cons]
    exact Prod.Lex.left _ _ (Nat.lt_succ_self _)

end SandboxMonitor

end SandboxManager.Claw
