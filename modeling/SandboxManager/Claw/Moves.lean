import Mathlib.Logic.Relation
import SandboxManager.Claw.Monitor

/-! What the monitor can do, move by move.

A handler is a sequence of moves, each of which changes the state at one place, and a
failed send together with the loss of the channel that follows it is one move.
`run_moves` says so for whole runs; what a run keeps is then shown of single moves. -/
namespace SandboxManager.Claw

namespace SandboxSocket

/-- A message that is refused leaves the socket as it was. -/
theorem queueMessage_refused {s : SandboxSocket} {msgType requestId : UInt32} {result : Int32}
    {body : Bytes} {answers : List SendResult} {ret : SandboxError}
    (h : (s.queueMessage msgType body requestId result answers).2.1 = ret)
    (hret : ret = .ERR_SOCKET_TX_FULL ∨ ret = .ERR_SOCKET_MSG_TOO_LARGE) :
    s.queueMessage msgType body requestId result answers = (s, ret, answers) := by
  by_cases hbody : MAX_BODY_LENGTH < body.length
  · rw [queueMessage_tooLarge hbody] at h ⊢
    rw [← h]
  · rw [queueMessage, if_neg hbody] at h ⊢
    dsimp only at h ⊢
    split at h
    case isTrue hfull =>
      rw [if_pos hfull, ← h]
    case isFalse =>
      exfalso
      generalize (SandboxSocket.mk _ (_ ++ Frame.encode ⟨msgType, requestId, result, body⟩)
        _ _ _ _) = s' at h
      have hflush := flushTxBuffer_result answers s'
      rw [h] at hflush
      obtain rfl | rfl := hret <;> simp at hflush

/-- A message that is neither taken nor refused met a failed channel. -/
theorem queueMessage_result (s : SandboxSocket) (msgType requestId : UInt32) (result : Int32)
    (body : Bytes) (answers : List SendResult) {ret : SandboxError}
    (h : (s.queueMessage msgType body requestId result answers).2.1 = ret)
    (hfull : ret ≠ .ERR_SOCKET_TX_FULL) (hlarge : ret ≠ .ERR_SOCKET_MSG_TOO_LARGE)
    (hsuccess : ret ≠ .SUCCESS) : ret = .ERR_SOCKET_CLOSED ∨ ret = SandboxError.ERR_SOCKET_IO := by
  rw [queueMessage] at h
  split at h
  · exact absurd h.symm hlarge
  · dsimp only at h
    split at h
    · exact absurd h.symm hfull
    · generalize (SandboxSocket.mk _ (_ ++ Frame.encode ⟨msgType, requestId, result, body⟩)
        _ _ _ _) = s' at h
      have hflush := flushTxBuffer_result answers s'
      rw [h] at hflush
      exact hflush.resolve_left hsuccess

/-- The frame a queued message goes out as. -/
def frameOf (message : PendingSocketMessage) : Frame :=
  if message.msgType = SOCKET_MSG_RESPONSE then
    ⟨SOCKET_MSG_RESPONSE, message.requestId, message.result, message.body⟩
  else ⟨message.msgType, 0, 0, message.body⟩

theorem sendPending_eq (s : SandboxSocket) (front : PendingSocketMessage)
    (sends : List SendResult) :
    s.sendPending front sends = s.queueMessage (frameOf front).msgType (frameOf front).body
      (frameOf front).requestId (frameOf front).result sends := by
  unfold sendPending frameOf
  split <;> rfl

theorem sendPending_refused {s : SandboxSocket} {front : PendingSocketMessage}
    {sends : List SendResult} {ret : SandboxError} (h : (s.sendPending front sends).2.1 = ret)
    (hret : ret = .ERR_SOCKET_TX_FULL ∨ ret = .ERR_SOCKET_MSG_TOO_LARGE) :
    s.sendPending front sends = (s, ret, sends) := by
  rw [sendPending_eq] at h ⊢
  exact queueMessage_refused h hret

theorem sendPending_result {s : SandboxSocket} {front : PendingSocketMessage}
    {sends : List SendResult} {ret : SandboxError} (h : (s.sendPending front sends).2.1 = ret)
    (hfull : ret ≠ .ERR_SOCKET_TX_FULL) (hlarge : ret ≠ .ERR_SOCKET_MSG_TOO_LARGE)
    (hsuccess : ret ≠ .SUCCESS) : ret = .ERR_SOCKET_CLOSED ∨ ret = SandboxError.ERR_SOCKET_IO := by
  rw [sendPending_eq] at h
  exact queueMessage_result s _ _ _ _ sends h hfull hlarge hsuccess

end SandboxSocket

namespace SandboxMonitor
open SandboxSocket

section
variable {Group : Type} (X : Externals Group)

/-- The socket is as a call left it. -/
def withSocket (m : SandboxMonitor) (out : SandboxSocket × SandboxError × List SendResult) :
    SandboxMonitor :=
  { m with socket := some out.1, world := { m.world with sends := out.2.2 } }

/-- The socket has handed out what it parsed. -/
def parsed (m : SandboxMonitor) (socket : SandboxSocket) (messages : List ParsedMessage) :
    SandboxMonitor :=
  { m with
    socket := some socket
    world := { m.world with parsed := m.world.parsed ++ messages } }

/-- A request has been dealt with. -/
def served (m : SandboxMonitor) (request : Served) : SandboxMonitor :=
  { m with world := { m.world with served := m.world.served ++ [request] } }

/-- Reading once, and answering what was read. -/
def readAndAnswer (m : SandboxMonitor) (socket : SandboxSocket) (answers : SocketAnswers Group) :
    SandboxMonitor :=
  let out := socket.onReadable answers.arrived answers.reads
  (m.parsed out.1 out.2.1).queueResponses X out.2.1 answers.requests

/-- The socket took a message that needs an answer, or one that needs none. -/
def handed (m : SandboxMonitor) (message : PendingSocketMessage) : SandboxMonitor :=
  if message.needsAnswer then (m.handOver message).pushPendingAnswer message.eventId
  else m.handOver message

/-- The front of the queue is taken off. -/
def pop (m : SandboxMonitor) (front : PendingSocketMessage) (rest : List PendingSocketMessage) :
    SandboxMonitor :=
  { m with
    socketTxBytes := sizeSub m.socketTxBytes front.body.length
    socketTxQueue := rest }

/-- A response loses its body. -/
def strip (m : SandboxMonitor) (front : PendingSocketMessage) (rest : List PendingSocketMessage) :
    SandboxMonitor :=
  { m with
    socketTxBytes := sizeSub m.socketTxBytes front.body.length
    socketTxQueue := { front with body := [] } :: rest }

/-- An event comes into being without going through the queue. -/
def createEvent (m : SandboxMonitor) (eventId : UInt64) (json : Bytes) : SandboxMonitor :=
  let message := m.create
    { msgType := SOCKET_MSG_EVENT_REPORT, eventId := eventId, needsAnswer := true, body := json }
  { m with world := { m.world with created := m.world.created ++ [message] } }.handed message

def reconnected (m : SandboxMonitor) : SandboxMonitor :=
  { m with
    socket := some SandboxSocket.create
    socketWriteEnabled := false
    reconnectAttemptsLeft := 0
    state := .ACTIVE }

/-- A call of the socket failed with its channel. -/
def Fails (ret : SandboxError) : Prop := ret = .ERR_SOCKET_CLOSED ∨ ret = SandboxError.ERR_SOCKET_IO

/-- One move of the monitor. -/
inductive Move : SandboxMonitor → SandboxMonitor → Prop where
  | answering (m sends) : Move m (m.answering sends)
  | writeEnabled (m : SandboxMonitor) (enabled) : Move m { m with socketWriteEnabled := enabled }
  | read {m : SandboxMonitor} {s} (hs : m.socket = some s) (answers) :
      Move m (m.readAndAnswer X s answers)
  | writable {m : SandboxMonitor} {s} (hs : m.socket = some s) :
      Move m (m.withSocket (s.onWritable m.world.sends))
  | forward {m : SandboxMonitor} {s front rest} (hs : m.socket = some s)
      (hidle : s.hasPendingTxData = false) (hqueue : m.socketTxQueue = front :: rest)
      (hret : (s.sendPending front m.world.sends).2.1 = .SUCCESS) :
      Move m (((m.withSocket (s.sendPending front m.world.sends)).handed front).pop front rest)
  | forwardFails {m : SandboxMonitor} {s front rest} (hs : m.socket = some s)
      (hidle : s.hasPendingTxData = false) (hqueue : m.socketTxQueue = front :: rest)
      (hret : Fails (s.sendPending front m.world.sends).2.1) :
      Move m (m.withSocket (s.sendPending front m.world.sends)).dropSocketChannel
  | strip {m : SandboxMonitor} {front rest} (hs : m.socket.isSome)
      (hqueue : m.socketTxQueue = front :: rest)
      (hresponse : front.msgType = SOCKET_MSG_RESPONSE)
      (hbody : MAX_BODY_LENGTH < front.body.length) : Move m (m.strip front rest)
  | discard {m : SandboxMonitor} {front rest} (hs : m.socket.isSome)
      (hqueue : m.socketTxQueue = front :: rest)
      (hevent : front.msgType ≠ SOCKET_MSG_RESPONSE)
      (hbody : MAX_BODY_LENGTH < front.body.length) : Move m (m.pop front rest)
  | queueEvent {m : SandboxMonitor} (eventId json)
      (h : m.socket.isSome ∨ 0 < m.reconnectAttemptsLeft) :
      Move m ((m.deliver eventId json).pushEventReport eventId true json)
  | sendEvent {m : SandboxMonitor} {s} (eventId json) (hs : m.socket = some s)
      (hidle : s.hasPendingTxData = false) (hqueue : m.socketTxQueue = [])
      (hret : (s.sendMessage SOCKET_MSG_EVENT_REPORT json m.world.sends).2.1 = .SUCCESS) :
      Move m (((m.deliver eventId json).withSocket
        (s.sendMessage SOCKET_MSG_EVENT_REPORT json m.world.sends)).createEvent eventId json)
  | sendEventFails {m : SandboxMonitor} {s} (eventId json) (hs : m.socket = some s)
      (hidle : s.hasPendingTxData = false) (hqueue : m.socketTxQueue = [])
      (hret : Fails (s.sendMessage SOCKET_MSG_EVENT_REPORT json m.world.sends).2.1) :
      Move m (((m.deliver eventId json).withSocket
        (s.sendMessage SOCKET_MSG_EVENT_REPORT json m.world.sends)).pushEventReport
          eventId true json).dropSocketChannel
  | dropEvent {m : SandboxMonitor} (eventId) {json : Bytes}
      (hbody : MAX_BODY_LENGTH < json.length) : Move m (m.deliver eventId json)
  | drop {m : SandboxMonitor} (hs : m.socket.isSome) : Move m m.dropSocketChannel
  | closeDevice (m : SandboxMonitor) : Move m m.closeDevice
  | degrade (m : SandboxMonitor) : Move m m.degrade
  | retry {m : SandboxMonitor} (h : 1 < m.reconnectAttemptsLeft) :
      Move m { m with reconnectAttemptsLeft := m.reconnectAttemptsLeft - 1 }
  | reconnect {m : SandboxMonitor} (h : 0 < m.reconnectAttemptsLeft) : Move m m.reconnected

def Moves : SandboxMonitor → SandboxMonitor → Prop := Relation.ReflTransGen (Move X)

variable {X}

/-! ### Sending -/

/-- What a function that sends comes to: it has made its moves, or the channel failed and
losing it is the next move. -/
inductive Sent (X : Externals Group) (m m' : SandboxMonitor) : SandboxError → Prop where
  | success : Moves X m m' → (m.socket.isSome → m'.socket.isSome) → Sent X m m' .SUCCESS
  | fails {ret} : Fails ret → Moves X m m'.dropSocketChannel → Sent X m m' ret

theorem Sent.head {m m₁ m' : SandboxMonitor} {ret : SandboxError} (h : Move X m m₁)
    (hs : m.socket.isSome → m₁.socket.isSome) (h' : Sent X m₁ m' ret) : Sent X m m' ret := by
  cases h' with
  | success hm hs' => exact .success (.head h hm) fun h => hs' (hs h)
  | fails hret hm => exact .fails hret (.head h hm)

theorem Sent.refl (m : SandboxMonitor) : Sent X m m .SUCCESS := .success .refl id

@[simp] theorem handed_socket (m : SandboxMonitor) (message : PendingSocketMessage) :
    (m.handed message).socket = m.socket := by
  unfold handed
  split <;> rfl

theorem withSocket_self {m : SandboxMonitor} {s : SandboxSocket} (hs : m.socket = some s)
    (ret : SandboxError) : m.withSocket (s, ret, m.world.sends) = m := by
  unfold withSocket
  rw [← hs]

/-- Flushing hands over the front of the queue, over and over. -/
theorem flushSocketTxQueue_sent (m : SandboxMonitor) :
    Sent X m m.flushSocketTxQueue.1 m.flushSocketTxQueue.2 := by
  fun_induction flushSocketTxQueue m with
  | case1 => exact .refl _
  | case2 => exact .refl _
  | case3 => exact .refl _
  | case4 m front rest hqueue s hs hidle out ret m₁ hfull =>
    have hout : out = (s, ret, m.world.sends) := sendPending_refused rfl (.inl hfull)
    have hsame : m.withSocket out = m := by rw [hout, withSocket_self hs]
    show Sent X m (m.withSocket out) .SUCCESS
    rw [hsame]
    exact .refl m
  | case5 m front rest hqueue s hs hidle out ret m₁ hfull hlarge m₂ hresponse ih =>
    have hout : out = (s, ret, m.world.sends) := sendPending_refused rfl (.inr hlarge)
    have hsame : (m.withSocket out).strip front rest = m.strip front rest := by
      rw [hout, withSocket_self hs]
    have hrest : Sent X ((m.withSocket out).strip front rest)
        ((m.withSocket out).strip front rest).flushSocketTxQueue.1
        ((m.withSocket out).strip front rest).flushSocketTxQueue.2 := ih
    show Sent X m ((m.withSocket out).strip front rest).flushSocketTxQueue.1
      ((m.withSocket out).strip front rest).flushSocketTxQueue.2
    rw [hsame] at hrest ⊢
    exact hrest.head (.strip (hs ▸ rfl) hqueue hresponse (sendPending_eq_tooLarge hlarge)) id
  | case6 m front rest hqueue s hs hidle out ret m₁ hfull hlarge m₂ hevent ih =>
    have hout : out = (s, ret, m.world.sends) := sendPending_refused rfl (.inr hlarge)
    have hsame : (m.withSocket out).pop front rest = m.pop front rest := by
      rw [hout, withSocket_self hs]
    have hrest : Sent X ((m.withSocket out).pop front rest)
        ((m.withSocket out).pop front rest).flushSocketTxQueue.1
        ((m.withSocket out).pop front rest).flushSocketTxQueue.2 := ih
    show Sent X m ((m.withSocket out).pop front rest).flushSocketTxQueue.1
      ((m.withSocket out).pop front rest).flushSocketTxQueue.2
    rw [hsame] at hrest ⊢
    exact hrest.head (.discard (hs ▸ rfl) hqueue hevent (sendPending_eq_tooLarge hlarge)) id
  | case7 m front rest hqueue s hs hidle out ret m₁ hfull hlarge hret =>
    have hfails : Fails ret := sendPending_result rfl hfull hlarge hret
    exact .fails hfails (.single (.forwardFails hs (Bool.not_eq_true _ ▸ hidle) hqueue hfails))
  | case8 m front rest hqueue s hs hidle out ret m₁ hfull hlarge hret m₂ m₃ ih =>
    have hsuccess : ret = .SUCCESS := not_not.mp hret
    exact ih.head (.forward hs (Bool.not_eq_true _ ▸ hidle) hqueue hsuccess) fun _ => by
      simp [pop, withSocket]

/-- An empty queue is flushed. -/
theorem flushSocketTxQueue_nil {m : SandboxMonitor} (hqueue : m.socketTxQueue = []) :
    m.flushSocketTxQueue = (m, .SUCCESS) := by
  rw [flushSocketTxQueue]
  split
  · rfl
  · next h =>
    rw [hqueue] at h
    cases h

/-- A front the socket takes goes over to it. -/
theorem flushSocketTxQueue_forward {m : SandboxMonitor} {s : SandboxSocket}
    {front : PendingSocketMessage} {rest : List PendingSocketMessage} (hs : m.socket = some s)
    (hidle : s.hasPendingTxData = false) (hqueue : m.socketTxQueue = front :: rest)
    (hret : (s.sendPending front m.world.sends).2.1 = .SUCCESS) :
    m.flushSocketTxQueue =
      (((m.withSocket (s.sendPending front m.world.sends)).handed front).pop front
        rest).flushSocketTxQueue := by
  rw [flushSocketTxQueue]
  split
  case h_1 h =>
    rw [hqueue] at h
    cases h
  case h_2 front' rest' h =>
    rw [hqueue] at h
    cases h
    rw [hs]
    simp only [hidle, Bool.false_eq_true, if_false, hret, reduceCtorEq, dif_neg, not_false_eq_true,
      ne_eq, not_true_eq_false]
    rfl

/-! ### Serving requests -/

/-- The answer to an event a message carries. -/
def answerOf (X : Externals Group) (message : ParsedMessage) : Option (UInt64 × DecPolicyAction) :=
  if validateMessage message = .SUCCESS ∧ message.header.msgType = SOCKET_MSG_EVENT_ANSWER then
    parseEventAnswer X message.body
  else none

/-- An answer is written, after some calls that were interrupted. -/
def wrote (m : SandboxMonitor) (answer : DecEventAnswer) (interrupted : Nat)
    (result : WriteResult) : SandboxMonitor :=
  { m with world := { m.world with
      exchanges := m.world.exchanges ++
        (List.replicate interrupted (.write answer .interrupted) ++ [.write answer result]) } }

/-- What serving a request does before its response is pushed. -/
inductive Serves (X : Externals Group) (m : SandboxMonitor) (message : ParsedMessage) :
    SandboxMonitor → SandboxError → Prop where
  | unchanged {ret} : answerOf X message = none ∨ ret ≠ .SUCCESS → Serves X m message m ret
  | unanswered {eventId action result ret} (interrupted : Nat) :
      answerOf X message = some (eventId, action) → m.state ≠ .DEGRADED → 0 ≤ m.deviceFd →
      result ≠ .wrote DEC_EVENT_ANSWER_SIZE → ret ≠ .SUCCESS →
      Serves X m message (m.wrote (eventAnswer eventId action) interrupted result) ret
  | answered {eventId action} (interrupted : Nat) :
      answerOf X message = some (eventId, action) → m.state ≠ .DEGRADED → 0 ≤ m.deviceFd →
      eventId ∈ m.pendingAnswers →
      Serves X m message
        { m.wrote (eventAnswer eventId action) interrupted (.wrote DEC_EVENT_ANSWER_SIZE) with
          pendingAnswers := m.pendingAnswers.erase eventId } .SUCCESS

theorem useDevice_eq {m : SandboxMonitor} (h : 0 ≤ m.deviceFd) : m.useDevice = m := by
  unfold useDevice
  rw [if_neg (Int.not_lt.mpr h)]

theorem useSocket_eq {m : SandboxMonitor} (h : m.socket.isSome) : m.useSocket = m := by
  unfold useSocket
  rw [if_neg (by simpa [Option.isSome_iff_ne_none] using h)]

theorem write_eq {m : SandboxMonitor} (h : 0 ≤ m.deviceFd) (answer : DecEventAnswer)
    (result : WriteResult) : m.write answer result = m.wrote answer 0 result := by
  unfold write
  rw [useDevice_eq h]
  rfl

theorem writeEventAnswer_eq {m : SandboxMonitor} (h : 0 ≤ m.deviceFd) (eventId : UInt64)
    (action : DecPolicyAction) (writes : List WriteResult) :
    ∃ interrupted result, (m.writeEventAnswer eventId action writes).1 =
        m.wrote (eventAnswer eventId action) interrupted result ∧
      ((m.writeEventAnswer eventId action writes).2 = .SUCCESS ↔
        result = .wrote DEC_EVENT_ANSWER_SIZE) := by
  induction writes generalizing m with
  | nil => exact ⟨0, .again, write_eq h _ _, by simp [writeEventAnswer]⟩
  | cons result rest ih =>
    cases result with
    | wrote n => exact ⟨0, .wrote n, write_eq h _ _, by simp [writeEventAnswer]⟩
    | again => exact ⟨0, .again, write_eq h _ _, by simp [writeEventAnswer]⟩
    | failed => exact ⟨0, .failed, write_eq h _ _, by simp [writeEventAnswer]⟩
    | interrupted =>
      unfold writeEventAnswer
      rw [write_eq h]
      obtain ⟨k, result, heq, hret⟩ := ih (m := m.wrote (eventAnswer eventId action) 0 .interrupted) h
      refine ⟨k + 1, result, heq.trans ?_, hret⟩
      simp [wrote, List.replicate_succ]

/-- The part of `QueueResponse` in front of the response. -/
def serve (X : Externals Group) (m : SandboxMonitor) (message : ParsedMessage)
    (answers : RequestAnswers Group) : SandboxMonitor × SandboxError × Bytes :=
  if validateMessage message = .SUCCESS then m.dispatchSocketMessage X message answers
  else (m, validateMessage message, [])

theorem handleEventAnswer_serves (m : SandboxMonitor) {message : ParsedMessage}
    (hvalid : validateMessage message = .SUCCESS)
    (htype : message.header.msgType = SOCKET_MSG_EVENT_ANSWER) (answers : RequestAnswers Group) :
    Serves X m message (m.handleEventAnswer X message.body answers).1
      (m.handleEventAnswer X message.body answers).2 := by
  have hanswer : answerOf X message = parseEventAnswer X message.body := if_pos ⟨hvalid, htype⟩
  unfold handleEventAnswer
  split
  case isTrue => exact .unchanged (.inr SandboxError.noConfusion)
  case isFalse hready =>
    obtain ⟨hstate, hdevice⟩ := not_or.mp hready
    split
    case h_1 => exact .unchanged (.inr SandboxError.noConfusion)
    case h_2 eventId action hparse =>
      rw [hparse] at hanswer
      split
      case isTrue => exact .unchanged (.inr SandboxError.noConfusion)
      case isFalse hpending =>
        obtain ⟨k, result, heq, hret⟩ :=
          writeEventAnswer_eq (Int.not_lt.mp hdevice) eventId action answers.writes
        generalize m.writeEventAnswer eventId action answers.writes = out at heq hret ⊢
        obtain ⟨m', ret⟩ := out
        change m' = _ at heq
        subst heq
        dsimp only at hret ⊢
        split
        case isTrue hfails =>
          exact .unanswered k hanswer hstate (Int.not_lt.mp hdevice)
            (fun h => hfails (hret.mpr h)) hfails
        case isFalse hsuccess =>
          rw [hret.mp (not_not.mp hsuccess)]
          exact .answered k hanswer hstate (Int.not_lt.mp hdevice) (not_not.mp hpending)

theorem handleAddPolicy_eq (m : SandboxMonitor) (jsonBody : Bytes) (answers : RequestAnswers Group) :
    (m.handleAddPolicy X jsonBody answers).1 = m := by
  unfold handleAddPolicy
  split
  case isTrue => rfl
  case isFalse hready =>
    dsimp only
    split
    · rfl
    · split
      · rfl
      · exact useDevice_eq (Int.not_lt.mp (not_or.mp hready).2)

theorem serve_serves (m : SandboxMonitor) (message : ParsedMessage)
    (answers : RequestAnswers Group) :
    Serves X m message (serve X m message answers).1 (serve X m message answers).2.1 := by
  unfold serve
  split
  case isFalse hinvalid => exact .unchanged (.inr hinvalid)
  case isTrue hvalid =>
    unfold dispatchSocketMessage
    split
    case isTrue htype =>
      have hnone : answerOf X message = none := by
        unfold answerOf
        rw [htype]
        exact if_neg fun h => absurd h.2 (by decide)
      rw [handleAddPolicy_eq]
      exact .unchanged (.inl hnone)
    case isFalse =>
      split
      case isTrue htype => exact handleEventAnswer_serves m hvalid htype answers
      case isFalse => exact .unchanged (.inr SandboxError.noConfusion)

theorem queueResponse_eq (m : SandboxMonitor) (message : ParsedMessage)
    (answers : RequestAnswers Group) {m' : SandboxMonitor} {ret : SandboxError} {detail : Bytes}
    (h : serve X m message answers = (m', ret, detail)) :
    m.queueResponse X message answers =
      (m'.served ⟨message, ret, detail⟩).pushResponse message.header.requestId (toResponseCode ret)
        (if toResponseCode ret ≠ RSP_PARTIAL then [] else detail) := by
  have hserve : (if validateMessage message = .SUCCESS then
      m.dispatchSocketMessage X message answers else (m, validateMessage message, [])) =
        (m', ret, detail) := h
  unfold queueResponse
  rw [hserve]
  rfl

/-- What one request comes to: it is served and noted, and its response is pushed. -/
theorem queueResponse_cases (m : SandboxMonitor) (message : ParsedMessage)
    (answers : RequestAnswers Group) :
    ∃ m' ret detail, Serves X m message m' ret ∧ m.queueResponse X message answers =
      (m'.served ⟨message, ret, detail⟩).pushResponse message.header.requestId (toResponseCode ret)
        (if toResponseCode ret ≠ RSP_PARTIAL then [] else detail) :=
  ⟨_, _, _, serve_serves m message answers, queueResponse_eq m message answers rfl⟩

theorem queueResponses_cons (m : SandboxMonitor) (message : ParsedMessage)
    (rest : List ParsedMessage) (answers : List (RequestAnswers Group)) :
    m.queueResponses X (message :: rest) answers =
      (m.queueResponse X message (answers.headD {})).queueResponses X rest answers.tail := by
  rw [queueResponses]

/-- What every request keeps, the requests that were read keep. -/
theorem queueResponses_keeps {P : SandboxMonitor → Prop}
    (hstep : ∀ m message answers, P m → P (m.queueResponse X message answers))
    (messages : List ParsedMessage) {m : SandboxMonitor} (h : P m)
    (answers : List (RequestAnswers Group)) : P (m.queueResponses X messages answers) := by
  induction messages generalizing m answers with
  | nil => exact h
  | cons message rest ih =>
    rw [queueResponses_cons]
    exact ih (hstep m message _ h) answers.tail

/-! ### Frames -/

/-- Pushing changes the queue and the history. -/
theorem pushSocketMessage_eq (m : SandboxMonitor) (message : PendingSocketMessage) :
    ∃ queue txBytes, m.pushSocketMessage message =
      { m with
        socketTxQueue := queue
        socketTxBytes := txBytes
        world := { m.world with
          created := m.world.created ++ [m.create message]
          trace := m.world.trace ++ [.push m.socketTxQueue (m.create message)] } } := by
  unfold pushSocketMessage
  dsimp only
  split
  · exact ⟨_, _, rfl⟩
  · exact ⟨_, _, rfl⟩

@[simp] theorem pushSocketMessage_socket (m : SandboxMonitor) (message : PendingSocketMessage) :
    (m.pushSocketMessage message).socket = m.socket := by
  obtain ⟨queue, txBytes, h⟩ := m.pushSocketMessage_eq message
  rw [h]

@[simp] theorem pushSocketMessage_deviceFd (m : SandboxMonitor) (message : PendingSocketMessage) :
    (m.pushSocketMessage message).deviceFd = m.deviceFd := by
  obtain ⟨queue, txBytes, h⟩ := m.pushSocketMessage_eq message
  rw [h]

theorem Serves.socket {m m' : SandboxMonitor} {message : ParsedMessage} {ret : SandboxError}
    (h : Serves X m message m' ret) : m'.socket = m.socket := by
  cases h <;> rfl

theorem queueResponse_socket (m : SandboxMonitor) (message : ParsedMessage)
    (answers : RequestAnswers Group) :
    (m.queueResponse X message answers).socket = m.socket := by
  obtain ⟨m', ret, detail, hserves, heq⟩ := m.queueResponse_cases (X := X) message answers
  rw [heq]
  exact (pushSocketMessage_socket _ _).trans hserves.socket

theorem queueResponses_socket (messages : List ParsedMessage) (m : SandboxMonitor)
    (answers : List (RequestAnswers Group)) :
    (m.queueResponses X messages answers).socket = m.socket :=
  queueResponses_keeps (P := fun m' => m'.socket = m.socket)
    (fun m' message answers h => (queueResponse_socket m' message answers).trans h) messages rfl
    answers

/-! ### Handlers -/

/-- What a handler comes to, given the action it reports. -/
inductive Handled (X : Externals Group) (m m' : SandboxMonitor) : MonitorAction → Prop where
  | stays {action} : action ≠ .RECONNECT → Moves X m m' →
      (m.socket.isSome → m'.socket.isSome) → Handled X m m' action
  | lost : Moves X m m'.dropSocketChannel → Handled X m m' .RECONNECT

theorem Handled.refl (m : SandboxMonitor) {action : MonitorAction} (h : action ≠ .RECONNECT) :
    Handled X m m action := .stays h .refl id

theorem Handled.trans {m m₁ m' : SandboxMonitor} {action : MonitorAction} (h : Moves X m m₁)
    (hs : m.socket.isSome → m₁.socket.isSome) (h' : Handled X m₁ m' action) :
    Handled X m m' action := by
  cases h' with
  | stays ha hm hs' => exact .stays ha (.trans h hm) fun h => hs' (hs h)
  | lost hm => exact .lost (.trans h hm)

/-- The stages of a handler one after the other. -/
theorem Handled.andThen {m : SandboxMonitor} {stage : SandboxMonitor × MonitorAction}
    {next : SandboxMonitor → SandboxMonitor × MonitorAction} (h : Handled X m stage.1 stage.2)
    (hs : m.socket.isSome)
    (hnext : ∀ m₁ : SandboxMonitor, m₁.socket.isSome → Handled X m₁ (next m₁).1 (next m₁).2) :
    Handled X m (andThen stage next).1 (andThen stage next).2 := by
  unfold SandboxMonitor.andThen
  by_cases ha : stage.2 = .NONE
  · rw [if_neg (not_not.mpr ha)]
    rw [ha] at h
    cases h with
    | stays _ hm hs' => exact .trans hm hs' (hnext _ (hs' hs))
  · rw [if_pos ha]
    exact h

theorem updateSocketEpollEvents_moves (m : SandboxMonitor) (epollCtl : Bool) :
    Moves X m (m.updateSocketEpollEvents epollCtl).1 ∧
      (m.updateSocketEpollEvents epollCtl).1.socket = m.socket := by
  unfold updateSocketEpollEvents
  split
  · exact ⟨.refl, rfl⟩
  · dsimp only
    split
    · exact ⟨.refl, rfl⟩
    · split
      · exact ⟨.single (.writeEnabled m _), rfl⟩
      · exact ⟨.refl, rfl⟩

theorem handleSocketReadable_handled {m : SandboxMonitor} (hs : m.socket.isSome)
    (answers : SocketAnswers Group) :
    Handled X m (m.handleSocketReadable X answers).1 (m.handleSocketReadable X answers).2 := by
  obtain ⟨s, hs⟩ := Option.isSome_iff_exists.mp hs
  have hread : Move X m (m.readAndAnswer X s answers) := .read hs answers
  have hsome : (m.readAndAnswer X s answers).socket.isSome := by
    show (queueResponses X _ _ _).socket.isSome
    rw [queueResponses_socket]
    rfl
  unfold handleSocketReadable
  rw [hs]
  dsimp only
  split
  · apply Handled.lost
    show Moves X m (m.readAndAnswer X s answers).useSocket.dropSocketChannel
    rw [useSocket_eq hsome]
    exact .tail (.single hread) (.drop hsome)
  · exact .stays MonitorAction.noConfusion (.single hread) fun _ => hsome

theorem handleSocketWritable_handled {m : SandboxMonitor} (hs : m.socket.isSome) :
    Handled X m m.handleSocketWritable.1 m.handleSocketWritable.2 := by
  obtain ⟨s, hs⟩ := Option.isSome_iff_exists.mp hs
  have hmove : Move X m (m.withSocket (s.onWritable m.world.sends)) := .writable hs
  unfold handleSocketWritable
  rw [hs]
  dsimp only
  split
  · exact .lost (.tail (.single hmove) (.drop rfl))
  · exact .stays MonitorAction.noConfusion (.single hmove) fun _ => rfl

theorem checkSocketFailureEvents_handled {m : SandboxMonitor} (hs : m.socket.isSome)
    (events : UInt32) :
    Handled X m (m.checkSocketFailureEvents events).1 (m.checkSocketFailureEvents events).2 := by
  unfold checkSocketFailureEvents
  rw [useSocket_eq hs]
  split
  · exact .lost (.single (.drop hs))
  · split
    · exact .lost (.single (.drop hs))
    · exact .refl m MonitorAction.noConfusion

theorem resumeSocketTx_handled (m : SandboxMonitor) (epollCtl : Bool) :
    Handled X m (m.resumeSocketTx epollCtl).1 (m.resumeSocketTx epollCtl).2 := by
  have hflush : Sent X m m.flushSocketTxQueue.1 m.flushSocketTxQueue.2 :=
    m.flushSocketTxQueue_sent
  unfold resumeSocketTx
  generalize m.flushSocketTxQueue = out at hflush ⊢
  obtain ⟨m₁, ret⟩ := out
  cases hflush with
  | fails hret hm =>
    have hne : ret ≠ .SUCCESS := by
      obtain rfl | rfl := hret <;> exact SandboxError.noConfusion
    dsimp only
    rw [if_pos hne]
    exact .lost hm
  | success hm hs =>
    obtain ⟨hm', hs'⟩ := m₁.updateSocketEpollEvents_moves (X := X) epollCtl
    dsimp only
    rw [if_neg (not_not.mpr rfl)]
    refine .stays ?_ (.trans hm hm') fun h => ?_
    · split <;> exact MonitorAction.noConfusion
    · dsimp only
      rw [hs']
      exact hs h

theorem handleSocketEvent_handled (m : SandboxMonitor) (events : UInt32)
    (answers : SocketAnswers Group) :
    Handled X m (m.handleSocketEvent X events answers).1
      (m.handleSocketEvent X events answers).2 := by
  unfold handleSocketEvent
  split
  case isTrue => exact .refl m MonitorAction.noConfusion
  case isFalse hsome =>
    have hs : m.socket.isSome := by simpa [Option.isSome_iff_ne_none] using hsome
    refine .trans (.single (.answering m answers.sends)) id (.andThen ?_ hs fun m₁ hs₁ =>
      .andThen ?_ hs₁ fun m₂ hs₂ => .andThen (checkSocketFailureEvents_handled hs₂ events) hs₂
        fun m₃ _ => m₃.resumeSocketTx_handled answers.epollCtl)
    · split
      · exact handleSocketReadable_handled (m := m.answering answers.sends) hs answers
      · exact .refl _ MonitorAction.noConfusion
    · split
      · exact handleSocketWritable_handled hs₁
      · exact .refl _ MonitorAction.noConfusion

/-- An event that goes straight to the socket. -/
theorem sendEventReport_sent {m : SandboxMonitor} {s : SandboxSocket} (hs : m.socket = some s)
    (hidle : s.hasPendingTxData = false) (hqueue : m.socketTxQueue = []) (header : DeviceEventHeader)
    (json : Bytes) :
    Sent X m ((m.deliver header.eventId json).sendEventReport header true json).1
      ((m.deliver header.eventId json).sendEventReport header true json).2 := by
  have hsame : ∀ {ret}, s.sendMessage SOCKET_MSG_EVENT_REPORT json m.world.sends =
      (s, ret, m.world.sends) → (m.deliver header.eventId json).withSocket
        (s.sendMessage SOCKET_MSG_EVENT_REPORT json m.world.sends) =
          m.deliver header.eventId json := by
    intro ret hout
    rw [hout]
    exact withSocket_self (m := m.deliver header.eventId json) hs ret
  generalize hret : (s.sendMessage SOCKET_MSG_EVENT_REPORT json m.world.sends).2.1 = ret
  have hcall : (m.deliver header.eventId json).sendEventReport header true json =
      let m' := (m.deliver header.eventId json).withSocket
        (s.sendMessage SOCKET_MSG_EVENT_REPORT json m.world.sends)
      if ret = .ERR_SOCKET_TX_FULL then (m'.pushEventReport header.eventId true json, .SUCCESS)
      else if ret = .ERR_SOCKET_MSG_TOO_LARGE then (m', .SUCCESS)
      else if ret ≠ .SUCCESS then (m'.pushEventReport header.eventId true json, ret)
      else (m'.createEvent header.eventId json, .SUCCESS) := by
    have hs' : (m.deliver header.eventId json).socket = some s := hs
    unfold sendEventReport
    rw [hs', ← hret]
    rfl
  rw [hcall]
  dsimp only
  split
  case isTrue hfull =>
    rw [hsame (queueMessage_refused hret (.inl hfull))]
    refine .success (.single (.queueEvent header.eventId json (.inl ?_))) fun h => ?_
    · rw [hs]
      rfl
    · exact (pushSocketMessage_socket _ _).symm ▸ h
  case isFalse hfull =>
    split
    case isTrue hlarge =>
      rw [hsame (queueMessage_refused hret (.inr hlarge))]
      exact .success (.single (.dropEvent header.eventId (queueMessage_eq_tooLarge (hret.trans hlarge)))) id
    case isFalse hlarge =>
      split
      case isTrue hfails =>
        have hfails : Fails ret := queueMessage_result s _ _ _ _ _ hret hfull hlarge hfails
        exact .fails hfails (.single (.sendEventFails header.eventId json hs hidle hqueue (hret ▸ hfails)))
      case isFalse hsuccess =>
        have hsuccess := hret.trans (not_not.mp hsuccess)
        refine .success (.single (.sendEvent header.eventId json hs hidle hqueue hsuccess)) fun _ => ?_
        unfold createEvent
        rw [handed_socket]
        rfl

theorem deliverDeviceEvent_sent (m : SandboxMonitor) (header : DeviceEventHeader) (json : Bytes) :
    Sent X m (m.deliverDeviceEvent header json).1 (m.deliverDeviceEvent header json).2 := by
  unfold deliverDeviceEvent
  split
  · exact .refl m
  · split
    case isTrue hbusy =>
      split
      case isTrue => exact .refl m
      case isFalse hway =>
        have hway : m.socket.isSome ∨ 0 < m.reconnectAttemptsLeft := by
          by_cases hs : m.socket.isSome
          · exact .inl hs
          · exact .inr (Int.not_le.mp fun h => hway ⟨h, by simpa using hs⟩)
        exact .success (.single (.queueEvent header.eventId json hway))
          fun h => (pushSocketMessage_socket _ _).symm ▸ h
    case isFalse hidle =>
      obtain ⟨hs, hqueue, hpending⟩ := by simpa only [not_or] using hidle
      obtain ⟨s, hs⟩ := Option.ne_none_iff_exists'.mp (by simpa using hs)
      rw [hs] at hpending
      exact sendEventReport_sent hs (by simpa using hpending) (not_not.mp hqueue) header json

theorem deliverDeviceEvent_deviceFd (m : SandboxMonitor) (header : DeviceEventHeader) (json : Bytes) :
    (m.deliverDeviceEvent header json).1.deviceFd = m.deviceFd := by
  unfold deliverDeviceEvent
  split
  · rfl
  · split
    · split
      · rfl
      · exact pushSocketMessage_deviceFd _ _
    · unfold sendEventReport
      split
      · rfl
      · dsimp only
        split
        · exact pushSocketMessage_deviceFd _ _
        · split
          · rfl
          · split
            · exact pushSocketMessage_deviceFd _ _
            · rfl

theorem consumeDeviceEvent_handled (m : SandboxMonitor) (data : Bytes) :
    Handled X m (m.consumeDeviceEvent X data).1 (m.consumeDeviceEvent X data).2 ∧
      (m.consumeDeviceEvent X data).1.deviceFd = m.deviceFd := by
  unfold consumeDeviceEvent
  split
  · exact ⟨.refl m MonitorAction.noConfusion, rfl⟩
  · next header json _ =>
    have hsent : Sent X m (m.deliverDeviceEvent header json).1 (m.deliverDeviceEvent header json).2 :=
      m.deliverDeviceEvent_sent header json
    have hfd := m.deliverDeviceEvent_deviceFd header json
    generalize m.deliverDeviceEvent header json = out at hsent hfd ⊢
    obtain ⟨m', ret⟩ := out
    refine ⟨?_, hfd⟩
    cases hsent with
    | success hm hs => exact .stays MonitorAction.noConfusion hm hs
    | fails hret hm =>
      obtain rfl | rfl := hret
      · exact .lost hm
      · exact .lost hm

theorem readDeviceEvents_handled (reads : List DeviceRead) {m : SandboxMonitor}
    (h : 0 ≤ m.deviceFd) :
    Handled X m (m.readDeviceEvents X reads).1 (m.readDeviceEvents X reads).2 := by
  induction reads generalizing m with
  | nil =>
    unfold readDeviceEvents
    rw [useDevice_eq h]
    exact .refl m MonitorAction.noConfusion
  | cons read rest ih =>
    unfold readDeviceEvents
    rw [useDevice_eq h]
    cases read with
    | eof => exact .refl m MonitorAction.noConfusion
    | again => exact .refl m MonitorAction.noConfusion
    | failed => exact .refl m MonitorAction.noConfusion
    | interrupted => exact ih h
    | record data =>
      obtain ⟨hconsume, hfd⟩ := m.consumeDeviceEvent_handled (X := X) data
      dsimp only
      generalize m.consumeDeviceEvent X data = out at hconsume hfd ⊢
      obtain ⟨m', action⟩ := out
      dsimp only at hconsume hfd ⊢
      split
      case isTrue => exact hconsume
      case isFalse hgoes =>
        cases hconsume with
        | stays _ hm hs => exact .trans hm hs (ih (hfd ▸ h))
        | lost hm => exact absurd (And.intro MonitorAction.noConfusion MonitorAction.noConfusion) hgoes

theorem handleDeviceEvent_handled (m : SandboxMonitor) (events : UInt32) (answers : DeviceAnswers) :
    Handled X m (m.handleDeviceEvent X events answers).1
      (m.handleDeviceEvent X events answers).2 := by
  unfold handleDeviceEvent
  split
  case isTrue => exact .refl m MonitorAction.noConfusion
  case isFalse hopen =>
    split
    · exact .refl m MonitorAction.noConfusion
    · split
      case isFalse => exact .refl m MonitorAction.noConfusion
      case isTrue =>
        have hread := readDeviceEvents_handled (X := X) answers.reads
          (m := m.answering answers.sends) (Int.not_lt.mp hopen)
        refine .trans (.single (.answering m answers.sends)) id ?_
        unfold andThen
        split
        case isTrue => exact hread
        case isFalse hnone =>
          generalize (m.answering answers.sends).readDeviceEvents X answers.reads = out
            at hread hnone ⊢
          obtain ⟨m₁, action⟩ := out
          have haction : action = .NONE := not_not.mp hnone
          subst haction
          cases hread with
          | stays _ hm hs =>
            obtain ⟨hm', hs'⟩ := m₁.updateSocketEpollEvents_moves (X := X) answers.epollCtl
            refine .stays ?_ (.trans hm hm') fun h => ?_
            · dsimp only
              split <;> exact MonitorAction.noConfusion
            · exact (congrArg Option.isSome hs').trans (hs h)

/-! ### The loop -/

theorem checkChildExit_ne (waits : List WaitResult) : (checkChildExit waits).1 ≠ .RECONNECT := by
  induction waits with
  | nil => exact MonitorAction.noConfusion
  | cons wait rest ih =>
    cases wait with
    | interrupted => exact ih
    | _ => exact MonitorAction.noConfusion

theorem handleChildExitEvent_ne (events : UInt32) (waits : List WaitResult) :
    handleChildExitEvent events waits ≠ .RECONNECT := by
  unfold handleChildExitEvent
  split
  · exact MonitorAction.noConfusion
  · split
    · dsimp only
      split
      · exact checkChildExit_ne _
      · exact checkChildExit_ne _
    · exact MonitorAction.noConfusion

theorem dispatchEpollEvent_handled (m : SandboxMonitor) (event : EpollEvent Group) :
    Handled X m (m.dispatchEpollEvent X event).1 (m.dispatchEpollEvent X event).2 := by
  cases event with
  | nullContext => exact .refl m MonitorAction.noConfusion
  | unknown => exact .refl m MonitorAction.noConfusion
  | socketFd events answers => exact m.handleSocketEvent_handled events answers
  | deviceFd events answers => exact m.handleDeviceEvent_handled events answers
  | childFd events waits => exact .refl m (handleChildExitEvent_ne events waits)

theorem applyAction_moves {m m' : SandboxMonitor} {action : MonitorAction}
    (h : Handled X m m' action) : Moves X m (m'.applyAction action).1 := by
  cases h with
  | lost hm => exact hm
  | stays ha hm hs =>
    cases action with
    | RECONNECT => exact absurd rfl ha
    | DEGRADE => exact .tail (.tail hm (.closeDevice m')) (.degrade _)
    | NONE => exact hm
    | SKIP => exact hm
    | CHILD_EXITED => exact hm
    | STOP => exact hm

theorem processEpollBatch_moves (events : List (EpollEvent Group)) (m : SandboxMonitor) :
    Moves X m (m.processEpollBatch X events).1 := by
  induction events generalizing m with
  | nil => exact .refl
  | cons event rest ih =>
    have hstep := applyAction_moves (m.dispatchEpollEvent_handled (X := X) event)
    unfold processEpollBatch
    dsimp only
    split
    · exact .trans hstep (ih _)
    · exact hstep

theorem degrade_attempts (m : SandboxMonitor) (attempts : Int) :
    ({ m with reconnectAttemptsLeft := attempts } : SandboxMonitor).degrade = m.degrade := by
  obtain ⟨_, socket⟩ := m
  cases socket <;> rfl

theorem tryReconnect_moves {m : SandboxMonitor} (h : 0 < m.reconnectAttemptsLeft)
    (answers : ReconnectAnswers) : Moves X m (m.tryReconnect answers) := by
  have hmove : Moves X m m.reconnected := .single (.reconnect h)
  unfold tryReconnect
  dsimp only
  split
  case isTrue =>
    split
    case isTrue hleft => exact .single (.retry (by omega))
    case isFalse =>
      rw [degrade_attempts]
      exact .single (.degrade m)
  case isFalse =>
    cases hadd : answers.epollAdd with
    | false => exact .tail hmove (.degrade m.reconnected)
    | true =>
      have hflush : Sent X (m.reconnected.answering answers.sends)
          (m.reconnected.answering answers.sends).flushSocketTxQueue.1
          (m.reconnected.answering answers.sends).flushSocketTxQueue.2 :=
        flushSocketTxQueue_sent _
      have hstart : Moves X m (m.reconnected.answering answers.sends) := .tail hmove (.answering _ _)
      let resumed : SandboxMonitor × SandboxError → SandboxMonitor := fun out =>
        if out.2 ≠ .SUCCESS then out.1.dropSocketChannel
        else if (out.1.updateSocketEpollEvents answers.epollCtl).2 ≠ .SUCCESS then
          (out.1.updateSocketEpollEvents answers.epollCtl).1.dropSocketChannel
        else (out.1.updateSocketEpollEvents answers.epollCtl).1
      show Moves X m (resumed (m.reconnected.answering answers.sends).flushSocketTxQueue)
      generalize (m.reconnected.answering answers.sends).flushSocketTxQueue = out at hflush ⊢
      obtain ⟨m₁, ret⟩ := out
      cases hflush with
      | fails hret hm =>
        have hne : ret ≠ .SUCCESS := by
          obtain rfl | rfl := hret <;> exact SandboxError.noConfusion
        have hresumed : resumed (m₁, ret) = m₁.dropSocketChannel := if_pos hne
        rw [hresumed]
        exact .trans hstart hm
      | success hm hs =>
        obtain ⟨hm', hs'⟩ := m₁.updateSocketEpollEvents_moves (X := X) answers.epollCtl
        have hdone := Relation.ReflTransGen.trans (Relation.ReflTransGen.trans hstart hm) hm'
        have hresumed : resumed (m₁, .SUCCESS) =
            if (m₁.updateSocketEpollEvents answers.epollCtl).2 ≠ .SUCCESS then
              (m₁.updateSocketEpollEvents answers.epollCtl).1.dropSocketChannel
            else (m₁.updateSocketEpollEvents answers.epollCtl).1 := if_neg (not_not.mpr rfl)
        rw [hresumed]
        split
        · exact .tail hdone (.drop (hs'.symm ▸ hs rfl))
        · exact hdone

theorem round_moves (m : SandboxMonitor) (r : Round Group) : Moves X m (m.round X r).1 := by
  have hbatch := m.processEpollBatch_moves (X := X) r.events
  unfold round
  dsimp only
  split
  case isTrue h => exact .trans hbatch (tryReconnect_moves h.2.1 r.reconnect)
  case isFalse => exact hbatch

theorem rounds_moves (rs : List (Round Group)) (m : SandboxMonitor) :
    Moves X m (m.rounds X rs).1 := by
  induction rs generalizing m with
  | nil => exact .refl
  | cons r rest ih =>
    unfold rounds
    dsimp only
    split
    · exact .trans (m.round_moves r) (ih _)
    · exact m.round_moves r

/-- **A run of the monitor is a sequence of moves.** -/
theorem run_moves (config : MonitorConfig) (waits : List WaitResult) (rs : List (Round Group)) :
    Moves X (ofConfig config) (run X config waits rs).1 := by
  have hstart : Moves X (ofConfig config)
      ((ofConfig config).applyAction (checkChildExit waits).1).1 :=
    applyAction_moves (.refl _ (checkChildExit_ne waits))
  unfold run
  dsimp only
  split
  · exact .trans hstart (rounds_moves rs _)
  · exact hstart

/-- A longer run goes on from where the shorter one is. -/
theorem run_append_moves (config : MonitorConfig) (waits : List WaitResult)
    (rs later : List (Round Group)) :
    Moves X (run X config waits rs).1 (run X config waits (rs ++ later)).1 := by
  have hrounds : ∀ m : SandboxMonitor,
      Moves X (m.rounds X rs).1 (m.rounds X (rs ++ later)).1 := by
    induction rs with
    | nil => exact rounds_moves later
    | cons r rest ih =>
      intro m
      show Moves X (if (m.round X r).2 then _ else _ : SandboxMonitor × Bool).1
        (if (m.round X r).2 then _ else _ : SandboxMonitor × Bool).1
      split
      · exact ih _
      · exact .refl
  show Moves X (if ((ofConfig config).applyAction (checkChildExit waits).1).2 then _ else _ :
      SandboxMonitor × Bool).1
    (if ((ofConfig config).applyAction (checkChildExit waits).1).2 then _ else _ :
      SandboxMonitor × Bool).1
  split
  · exact hrounds _
  · exact .refl

/-- What every move keeps, a run keeps. -/
theorem run_induction {P : SandboxMonitor → Prop} (config : MonitorConfig)
    (waits : List WaitResult) (rs : List (Round Group)) (hinit : P (ofConfig config))
    (hmove : ∀ m m', Moves X (ofConfig config) m → P m → Move X m m' → P m') :
    P (run X config waits rs).1 := by
  have hrun := run_moves (X := X) config waits rs
  generalize (run X config waits rs).1 = m at hrun ⊢
  induction hrun with
  | refl => exact hinit
  | tail hm h ih => exact hmove _ _ hm ih h

end

end SandboxMonitor

end SandboxManager.Claw
