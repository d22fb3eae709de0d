import SandboxManager.Claw.Ledger

/-! What the app gets of the messages the monitor creates.

`Wired` ties the messages handed to the socket to the bytes on the wire, `Recorded` the
messages that are created to the requests and events they stem from. With the ledger they
give the two statements about whole runs: `run_answered` for responses, `run_reported` for
events. -/
namespace SandboxManager.Claw

namespace SandboxSocket

@[simp] theorem frameOf_body (message : PendingSocketMessage) :
    (frameOf message).body = message.body := by
  unfold frameOf
  split <;> rfl

/-- What becomes of the front of the queue at an idle socket. -/
theorem sendPending_spec {s : SandboxSocket} (h : Transmits s) (hidle : s.hasPendingTxData = false)
    (front : PendingSocketMessage) (sends : List SendResult)
    (hret : (s.sendPending front sends).2.1 ≠ .ERR_SOCKET_MSG_TOO_LARGE) :
    front.body.length ≤ MAX_BODY_LENGTH ∧
      Sends s (s.sendPending front sends).1 (frameOf front) (s.sendPending front sends).2.1 := by
  rw [sendPending_eq] at hret ⊢
  have hbody := length_le_of_queueMessage hret
  exact ⟨frameOf_body front ▸ hbody,
    queueMessage_spec h ((hasPendingTxData_eq_false s).mp hidle) _ _ _ hbody sends⟩

end SandboxSocket

namespace SandboxMonitor
open SandboxSocket

/-! ### Messages and the wire -/

/-- A connection that carried its messages in order, as far as it came. -/
structure Carried (c : Connection) : Prop where
  received : received c.wire <+: c.handed.map frameOf
  bodies : ∀ message ∈ c.handed, message.body.length ≤ MAX_BODY_LENGTH

/-- What was written of a connection is what its peer received. -/
theorem Carried.received_wire {c : Connection} (h : Carried c) :
    Claw.received c.wire = c.written.map frameOf := by
  unfold Connection.written
  rw [List.map_take]
  exact List.prefix_iff_eq_take.mp h.received

/-- Every connection carried its messages, and a live socket goes on with the messages it
was handed. -/
structure Wired (m : SandboxMonitor) : Prop where
  closed : ∀ c ∈ m.world.closed, Carried c
  idle : m.socket = none → m.world.handed = []
  live : ∀ s, m.socket = some s → Transmits s ∧ s.accepted = m.world.handed.map frameOf

theorem carried_of_transmits {s : SandboxSocket} {handed : List PendingSocketMessage}
    (h : Transmits s) (haccepted : s.accepted = handed.map frameOf) : Carried ⟨handed, s.wire⟩ := by
  refine ⟨⟨s.inFlight, ?_⟩, ?_⟩
  · rw [h.received_append_inFlight, haccepted]
  · intro message hmem
    have hbody := h.bodies (frameOf message) (haccepted ▸ List.mem_map_of_mem hmem)
    rwa [frameOf_body] at hbody

theorem Wired.connection {m : SandboxMonitor} (h : Wired m) : Carried m.connection := by
  unfold SandboxMonitor.connection
  cases hs : m.socket with
  | none =>
    rw [h.idle hs]
    exact ⟨by simp, fun _ hmem => absurd hmem List.not_mem_nil⟩
  | some s => exact carried_of_transmits (h.live s hs).1 (h.live s hs).2

/-- A state with the same connections. -/
theorem Wired.same {m m' : SandboxMonitor} (h : Wired m) (hsocket : m'.socket = m.socket)
    (hhanded : m'.world.handed = m.world.handed) (hclosed : m'.world.closed = m.world.closed) :
    Wired m' := by
  refine ⟨?_, ?_, ?_⟩
  · rw [hclosed]
    exact h.closed
  · rw [hsocket, hhanded]
    exact h.idle
  · rw [hsocket, hhanded]
    exact h.live

/-- The socket moved on with what it had. -/
theorem Wired.withSocket {m : SandboxMonitor} {s' : SandboxSocket} (h : Wired m)
    (hs : m.socket.isSome) (htransmits : ∀ s, m.socket = some s → Transmits s →
      Transmits s' ∧ s'.accepted = s.accepted) {m' : SandboxMonitor} (hsocket : m'.socket = some s')
    (hhanded : m'.world.handed = m.world.handed) (hclosed : m'.world.closed = m.world.closed) :
    Wired m' := by
  obtain ⟨s, hs⟩ := Option.isSome_iff_exists.mp hs
  obtain ⟨hlive, haccepted⟩ := h.live s hs
  obtain ⟨hlive', haccepted'⟩ := htransmits s hs hlive
  refine ⟨by rw [hclosed]; exact h.closed, fun hnone => ?_, fun t ht => ?_⟩
  · rw [hsocket] at hnone
    cases hnone
  · rw [hsocket] at ht
    cases ht
    exact ⟨hlive', by rw [haccepted', haccepted, hhanded]⟩

/-- The socket accepted a message that is handed over with it. -/
theorem Wired.accepted {m : SandboxMonitor} {s s' : SandboxSocket} (h : Wired m)
    (hs : m.socket = some s) {message : PendingSocketMessage}
    (hsends : Sends s s' (frameOf message) .SUCCESS) {m' : SandboxMonitor}
    (hsocket : m'.socket = some s') (hhanded : m'.world.handed = m.world.handed ++ [message])
    (hclosed : m'.world.closed = m.world.closed) : Wired m' := by
  refine ⟨by rw [hclosed]; exact h.closed, fun hnone => ?_, fun t ht => ?_⟩
  · rw [hsocket] at hnone
    cases hnone
  · rw [hsocket] at ht
    cases ht
    cases hsends with
    | accepted htransmits haccepted =>
      refine ⟨htransmits, ?_⟩
      rw [haccepted, (h.live s hs).2, hhanded, List.map_append]
      rfl
    | failed hret _ _ => simp at hret

/-- A connection is closed that carried its messages. -/
theorem wired_closeSocket {m : SandboxMonitor} (hclosed : ∀ c ∈ m.world.closed, Carried c)
    (hidle : m.socket = none → m.world.handed = []) (hcarried : Carried m.connection) :
    Wired m.closeSocket := by
  unfold SandboxMonitor.closeSocket
  split
  case h_1 hs => exact ⟨hclosed, hidle, fun s h => by rw [hs] at h; cases h⟩
  case h_2 =>
    refine ⟨fun c hc => ?_, fun _ => rfl, fun s h => by cases h⟩
    rcases List.mem_append.mp hc with hc | hc
    · exact hclosed c hc
    · rw [List.mem_singleton.mp hc]
      exact hcarried

theorem wired_dropSocketChannel {m : SandboxMonitor} (h : Wired m.closeSocket) :
    Wired m.dropSocketChannel := by
  unfold SandboxMonitor.dropSocketChannel
  dsimp only
  split
  · have hagain : Wired m.closeSocket.closeSocket :=
      wired_closeSocket h.closed h.idle h.connection
    exact hagain.same rfl rfl rfl
  · exact h.same rfl rfl rfl

/-- Losing a channel on which a send failed. -/
theorem Wired.fails {m : SandboxMonitor} {s s' : SandboxSocket} {frame : Frame} {ret : SandboxError}
    (h : Wired m) (hs : m.socket = some s) (hret : Fails ret) (hsends : Sends s s' frame ret)
    {m' : SandboxMonitor} (hsocket : m'.socket = some s')
    (hhanded : m'.world.handed = m.world.handed) (hclosed : m'.world.closed = m.world.closed) :
    Wired m'.dropSocketChannel := by
  obtain ⟨hlive, haccepted⟩ := h.live s hs
  apply wired_dropSocketChannel
  apply wired_closeSocket
  · rw [hclosed]
    exact h.closed
  · intro hnone
    rw [hsocket] at hnone
    cases hnone
  · cases hsends with
    | accepted _ _ => simp [Fails] at hret
    | failed _ haccepted' hreceived =>
      unfold SandboxMonitor.connection
      rw [hsocket, hhanded]
      refine ⟨?_, (carried_of_transmits hlive haccepted).bodies⟩
      show received s'.wire <+: m.world.handed.map frameOf
      rw [hreceived, haccepted', haccepted]

section
variable {Group : Type} {X : Externals Group}

theorem handed_wires (m : SandboxMonitor) (message : PendingSocketMessage) :
    (m.handed message).world.handed = m.world.handed ++ [message] ∧
      (m.handed message).world.closed = m.world.closed := by
  unfold SandboxMonitor.handed
  split <;> exact ⟨rfl, rfl⟩

theorem createEvent_wires (m : SandboxMonitor) (eventId : UInt64) (json : Bytes) :
    (m.createEvent eventId json).world.handed = m.world.handed ++
        [m.create { msgType := SOCKET_MSG_EVENT_REPORT, eventId := eventId, needsAnswer := true,
                    body := json }] ∧
      (m.createEvent eventId json).world.closed = m.world.closed :=
  handed_wires _ _

theorem pushSocketMessage_wires (m : SandboxMonitor) (message : PendingSocketMessage) :
    (m.pushSocketMessage message).world.handed = m.world.handed ∧
      (m.pushSocketMessage message).world.closed = m.world.closed := by
  obtain ⟨queue, txBytes, h⟩ := m.pushSocketMessage_eq message
  rw [h]
  exact ⟨rfl, rfl⟩

theorem queueResponse_wires (m : SandboxMonitor) (message : ParsedMessage)
    (answers : RequestAnswers Group) :
    (m.queueResponse X message answers).world.handed = m.world.handed ∧
      (m.queueResponse X message answers).world.closed = m.world.closed := by
  obtain ⟨m', ret, detail, hserves, heq⟩ := m.queueResponse_cases (X := X) message answers
  obtain ⟨-, hclosed, hhanded, -, -, -⟩ := hserves.messages
  rw [heq, pushResponse]
  exact ⟨(pushSocketMessage_wires _ _).1.trans hhanded,
    (pushSocketMessage_wires _ _).2.trans hclosed⟩

theorem queueResponses_wires (messages : List ParsedMessage) (m : SandboxMonitor)
    (answers : List (RequestAnswers Group)) :
    (m.queueResponses X messages answers).world.handed = m.world.handed ∧
      (m.queueResponses X messages answers).world.closed = m.world.closed := by
  refine queueResponses_keeps (P := fun m' => m'.world.handed = m.world.handed ∧
    m'.world.closed = m.world.closed) (fun m' message answers h => ?_) messages ⟨rfl, rfl⟩ answers
  obtain ⟨hhanded, hclosed⟩ := m'.queueResponse_wires (X := X) message answers
  exact ⟨hhanded.trans h.1, hclosed.trans h.2⟩

/-- **Every move keeps the wires.** A failed send is followed by the loss of the channel
in the same move, so the message it failed on is never written twice. -/
theorem Wired.move {m m' : SandboxMonitor} (h : Wired m) (hconsistent : Consistent m)
    (hmove : Move X m m') : Wired m' := by
  cases hmove with
  | answering sends => exact h.same rfl rfl rfl
  | writeEnabled enabled => exact h.same rfl rfl rfl
  | dropEvent eventId hbody => exact h.same rfl rfl rfl
  | retry hattempts => exact h.same rfl rfl rfl
  | strip hs hqueue hresponse hbody => exact h.same rfl rfl rfl
  | discard hs hqueue hevent hbody => exact h.same rfl rfl rfl
  | closeDevice =>
    unfold SandboxMonitor.closeDevice
    split
    · exact h
    · exact h.same rfl rfl rfl
  | @read s hs answers =>
    obtain ⟨hhanded, hclosed⟩ := queueResponses_wires (X := X)
      (s.onReadable answers.arrived answers.reads).2.1 (m.parsed _ _) answers.requests
    have hsame : ∀ t, m.socket = some t → Transmits t →
        Transmits (s.onReadable answers.arrived answers.reads).1 ∧
          (s.onReadable answers.arrived answers.reads).1.accepted = t.accepted := by
      intro t ht htransmits
      rw [hs] at ht
      cases ht
      exact ⟨⟨htransmits.offset, htransmits.bodies, htransmits.stream, htransmits.sent⟩, rfl⟩
    exact h.withSocket (hs ▸ rfl) hsame (queueResponses_socket _ _ _) hhanded hclosed
  | @writable s hs =>
    refine h.withSocket (hs ▸ rfl) (fun t ht htransmits => ?_) rfl rfl rfl
    rw [hs] at ht
    cases ht
    have hflush := flushTxBuffer_spec m.world.sends htransmits.offset
    exact ⟨htransmits.flush hflush, hflush.accepted⟩
  | @forward s front rest hs hidle hqueue hret =>
    have hsends := (sendPending_spec (h.live s hs).1 hidle front m.world.sends
      (by rw [hret]; exact SandboxError.noConfusion)).2
    rw [hret] at hsends
    obtain ⟨hhanded, hclosed⟩ :=
      handed_wires (m.withSocket (s.sendPending front m.world.sends)) front
    exact h.accepted hs hsends (handed_socket _ _) hhanded hclosed
  | @forwardFails s front rest hs hidle hqueue hret =>
    have hsends := (sendPending_spec (h.live s hs).1 hidle front m.world.sends
      (by obtain h | h := hret <;> rw [h] <;> exact SandboxError.noConfusion)).2
    exact h.fails hs hret hsends rfl rfl rfl
  | queueEvent eventId json hway =>
    obtain ⟨hhanded, hclosed⟩ := pushSocketMessage_wires (m.deliver eventId json) _
    exact h.same (pushSocketMessage_socket _ _) hhanded hclosed
  | @sendEvent s eventId json hs hidle hqueue hret =>
    have hbody : json.length ≤ MAX_BODY_LENGTH :=
      length_le_of_queueMessage fun hlarge => by cases hret.symm.trans hlarge
    have hsends := queueMessage_spec (h.live s hs).1 ((hasPendingTxData_eq_false s).mp hidle)
      SOCKET_MSG_EVENT_REPORT 0 0 hbody m.world.sends
    rw [sendMessage] at hret
    rw [hret] at hsends
    obtain ⟨hhanded, hclosed⟩ := createEvent_wires ((m.deliver eventId json).withSocket
      (s.sendMessage SOCKET_MSG_EVENT_REPORT json m.world.sends)) eventId json
    exact h.accepted hs hsends (handed_socket _ _) hhanded hclosed
  | @sendEventFails s eventId json hs hidle hqueue hret =>
    have hbody : json.length ≤ MAX_BODY_LENGTH :=
      length_le_of_queueMessage fun hlarge => by
        obtain hret | hret := hret <;> cases hret.symm.trans hlarge
    have hsends := queueMessage_spec (h.live s hs).1 ((hasPendingTxData_eq_false s).mp hidle)
      SOCKET_MSG_EVENT_REPORT 0 0 hbody m.world.sends
    obtain ⟨hhanded, hclosed⟩ := pushSocketMessage_wires ((m.deliver eventId json).withSocket
      (s.sendMessage SOCKET_MSG_EVENT_REPORT json m.world.sends)) _
    exact h.fails hs hret hsends (pushSocketMessage_socket _ _) hhanded hclosed
  | drop hs =>
    exact wired_dropSocketChannel (wired_closeSocket h.closed h.idle h.connection)
  | degrade => exact (wired_closeSocket h.closed h.idle h.connection).same rfl rfl rfl
  | reconnect hattempts =>
    have hnone := (hconsistent.reconnecting (hconsistent.reconnecting_of_pos hattempts)).1
    refine ⟨h.closed, fun h => (nomatch h), fun s hs => ?_⟩
    cases hs
    refine ⟨transmits_create, ?_⟩
    show [] = m.world.handed.map frameOf
    rw [h.idle hnone]
    rfl

/-! ### Messages and where they stem from -/

def isResponse (message : PendingSocketMessage) : Bool := message.msgType = SOCKET_MSG_RESPONSE

/-- A report of an event that is not over the limit. -/
def isReport (message : PendingSocketMessage) : Bool :=
  message.msgType = SOCKET_MSG_EVENT_REPORT && message.body.length ≤ MAX_BODY_LENGTH

def fits (event : UInt64 × Bytes) : Bool := event.2.length ≤ MAX_BODY_LENGTH

/-- The response a request is owed. -/
def response (request : Served) : Frame where
  msgType := SOCKET_MSG_RESPONSE
  requestId := request.message.header.requestId
  result := toResponseCode request.ret
  body := if toResponseCode request.ret ≠ RSP_PARTIAL then [] else request.detail

/-- The messages created are one response for each request served and one report for each
event, in order and numbered. -/
structure Recorded (m : SandboxMonitor) : Prop where
  responses : (m.world.created.filter isResponse).map frameOf = m.world.served.map response
  reports : (m.world.created.filter isReport).map (fun message => (message.eventId, message.body)) =
    m.world.delivered.filter fits
  serials : m.world.created.map (·.serial) = List.range m.world.created.length

/-- The members of the history `Recorded` is about stay as they are. -/
def SameRecords (m m' : SandboxMonitor) : Prop :=
  m'.world.created = m.world.created ∧ m'.world.served = m.world.served ∧
    m'.world.delivered = m.world.delivered ∧ m'.world.parsed = m.world.parsed

theorem SameRecords.trans {m m₁ m' : SandboxMonitor} (h : SameRecords m m₁)
    (h' : SameRecords m₁ m') : SameRecords m m' :=
  ⟨h'.1.trans h.1, h'.2.1.trans h.2.1, h'.2.2.1.trans h.2.2.1, h'.2.2.2.trans h.2.2.2⟩

theorem Recorded.same {m m' : SandboxMonitor} (h : Recorded m) (hsame : SameRecords m m') :
    Recorded m' := by
  obtain ⟨hcreated, hserved, hdelivered, -⟩ := hsame
  refine ⟨?_, ?_, ?_⟩
  · rw [hcreated, hserved]
    exact h.responses
  · rw [hcreated, hdelivered]
    exact h.reports
  · rw [hcreated]
    exact h.serials

theorem serials_create {m : SandboxMonitor} (h : Recorded m) (message : PendingSocketMessage) :
    (m.world.created ++ [m.create message]).map (·.serial) =
      List.range (m.world.created ++ [m.create message]).length := by
  rw [List.map_append, h.serials, List.length_append, List.length_singleton, List.range_succ]
  rfl

/-- An event comes in and its report is created. -/
theorem Recorded.report {m m' : SandboxMonitor} (h : Recorded m) {message : PendingSocketMessage}
    (htype : message.msgType = SOCKET_MSG_EVENT_REPORT)
    (hcreated : m'.world.created = m.world.created ++ [m.create message])
    (hserved : m'.world.served = m.world.served)
    (hdelivered : m'.world.delivered = m.world.delivered ++ [(message.eventId, message.body)]) :
    Recorded m' := by
  have hresponse : isResponse (m.create message) = false := by
    show decide (message.msgType = SOCKET_MSG_RESPONSE) = false
    rw [htype]
    rfl
  have hreport : isReport (m.create message) = fits (message.eventId, message.body) := by
    show (decide (message.msgType = SOCKET_MSG_EVENT_REPORT) && _) = _
    rw [htype]
    rfl
  refine ⟨?_, ?_, ?_⟩
  · rw [hcreated, hserved, List.filter_append, List.filter_singleton, hresponse]
    simpa using h.responses
  · rw [hcreated, hdelivered, List.filter_append, List.filter_append, List.filter_singleton,
      List.filter_singleton, hreport, List.map_append, h.reports]
    cases fits (message.eventId, message.body) <;> rfl
  · rw [hcreated]
    exact serials_create h message

/-- A request is served and its response is created. -/
theorem Recorded.response {m m' : SandboxMonitor} (h : Recorded m)
    {message : PendingSocketMessage} {request : Served}
    (htype : message.msgType = SOCKET_MSG_RESPONSE) (hframe : frameOf message = response request)
    (hcreated : m'.world.created = m.world.created ++ [m.create message])
    (hserved : m'.world.served = m.world.served ++ [request])
    (hdelivered : m'.world.delivered = m.world.delivered) : Recorded m' := by
  have hresponse : isResponse (m.create message) = true := decide_eq_true htype
  have hreport : isReport (m.create message) = false := by
    show (decide (message.msgType = SOCKET_MSG_EVENT_REPORT) && _) = _
    rw [htype]
    rfl
  refine ⟨?_, ?_, ?_⟩
  · rw [hcreated, hserved, List.filter_append, List.filter_singleton, hresponse, List.map_append,
      List.map_append, h.responses]
    exact congrArg (_ ++ [·]) hframe
  · rw [hcreated, hdelivered, List.filter_append, List.filter_singleton, hreport]
    simpa using h.reports
  · rw [hcreated]
    exact serials_create h message

theorem pushSocketMessage_records (m : SandboxMonitor) (message : PendingSocketMessage) :
    (m.pushSocketMessage message).world.created = m.world.created ++ [m.create message] ∧
      (m.pushSocketMessage message).world.served = m.world.served ∧
      (m.pushSocketMessage message).world.delivered = m.world.delivered ∧
      (m.pushSocketMessage message).world.parsed = m.world.parsed := by
  obtain ⟨queue, txBytes, h⟩ := m.pushSocketMessage_eq message
  rw [h]
  exact ⟨rfl, rfl, rfl, rfl⟩

theorem Serves.records {m m' : SandboxMonitor} {message : ParsedMessage} {ret : SandboxError}
    (h : Serves X m message m' ret) : SameRecords m m' := by
  cases h <;> exact ⟨rfl, rfl, rfl, rfl⟩

theorem Recorded.queueResponse {m : SandboxMonitor} (h : Recorded m) (message : ParsedMessage)
    (answers : RequestAnswers Group) :
    Recorded (m.queueResponse X message answers) ∧
      (m.queueResponse X message answers).world.parsed = m.world.parsed ∧
      (m.queueResponse X message answers).world.served.map Served.message =
        m.world.served.map Served.message ++ [message] := by
  obtain ⟨m', ret, detail, hserves, heq⟩ := m.queueResponse_cases (X := X) message answers
  have hserve := hserves.records
  rw [heq, pushResponse]
  obtain ⟨hcreated, hserved, hdelivered, hparsed⟩ := pushSocketMessage_records
    (m'.served ⟨message, ret, detail⟩) ⟨SOCKET_MSG_RESPONSE, message.header.requestId,
      toResponseCode ret, 0, false, if toResponseCode ret ≠ RSP_PARTIAL then [] else detail, 0⟩
  have hserved' : (m'.served ⟨message, ret, detail⟩).world.served =
      m.world.served ++ [⟨message, ret, detail⟩] := congrArg (· ++ _) hserve.2.1
  refine ⟨(h.same hserve).response rfl rfl hcreated hserved hdelivered, ?_, ?_⟩
  · exact hparsed.trans hserve.2.2.2
  · rw [hserved, hserved', List.map_append]
    rfl

theorem Recorded.queueResponses (messages : List ParsedMessage) {m : SandboxMonitor}
    (h : Recorded m) (answers : List (RequestAnswers Group)) :
    Recorded (m.queueResponses X messages answers) ∧
      (m.queueResponses X messages answers).world.parsed = m.world.parsed ∧
      (m.queueResponses X messages answers).world.served.map Served.message =
        m.world.served.map Served.message ++ messages := by
  induction messages generalizing m answers with
  | nil => exact ⟨h, rfl, (List.append_nil _).symm⟩
  | cons message rest ih =>
    obtain ⟨h₁, hparsed₁, hserved₁⟩ := h.queueResponse (X := X) message (answers.headD {})
    obtain ⟨h₂, hparsed₂, hserved₂⟩ := ih h₁ answers.tail
    rw [queueResponses_cons]
    refine ⟨h₂, hparsed₂.trans hparsed₁, hserved₂.trans ?_⟩
    rw [hserved₁, List.append_assoc, List.singleton_append]

theorem sameRecords_handed (m : SandboxMonitor) (message : PendingSocketMessage) :
    SameRecords m (m.handed message) := by
  unfold SandboxMonitor.handed
  split <;> exact ⟨rfl, rfl, rfl, rfl⟩

theorem createEvent_records (m : SandboxMonitor) (eventId : UInt64) (json : Bytes) :
    (m.createEvent eventId json).world.created = m.world.created ++
        [m.create (PendingSocketMessage.mk SOCKET_MSG_EVENT_REPORT 0 0 eventId true json 0)] ∧
      (m.createEvent eventId json).world.served = m.world.served ∧
      (m.createEvent eventId json).world.delivered = m.world.delivered ∧
      (m.createEvent eventId json).world.parsed = m.world.parsed :=
  sameRecords_handed _ _

/-- A delivered event is queued. -/
theorem Recorded.pushEventReport {m m₁ : SandboxMonitor} (h : Recorded m) {eventId : UInt64}
    {json : Bytes} (hcreated : m₁.world.created = m.world.created)
    (hserved : m₁.world.served = m.world.served)
    (hdelivered : m₁.world.delivered = m.world.delivered ++ [(eventId, json)]) :
    Recorded (m₁.pushEventReport eventId true json) := by
  obtain ⟨hcreated', hserved', hdelivered', -⟩ := pushSocketMessage_records m₁
    { msgType := SOCKET_MSG_EVENT_REPORT, eventId := eventId, needsAnswer := true, body := json }
  have htype : (PendingSocketMessage.mk SOCKET_MSG_EVENT_REPORT 0 0 eventId true json 0).msgType =
      SOCKET_MSG_EVENT_REPORT := rfl
  refine h.report htype ?_ (hserved'.trans hserved) (hdelivered'.trans hdelivered)
  rw [SandboxMonitor.pushEventReport, hcreated', hcreated]
  unfold create
  rw [hcreated]

theorem sameRecords_closeSocket (m : SandboxMonitor) : SameRecords m m.closeSocket := by
  unfold SandboxMonitor.closeSocket
  split <;> exact ⟨rfl, rfl, rfl, rfl⟩

theorem sameRecords_dropSocketChannel (m : SandboxMonitor) :
    SameRecords m m.dropSocketChannel := by
  unfold SandboxMonitor.dropSocketChannel
  dsimp only
  split
  · exact m.sameRecords_closeSocket.trans m.closeSocket.sameRecords_closeSocket
  · exact m.sameRecords_closeSocket

/-- **Every move keeps the records**, and serves every request that was parsed. -/
theorem Recorded.move {m m' : SandboxMonitor} (h : Recorded m)
    (hserved : m.world.served.map Served.message = m.world.parsed) (hmove : Move X m m') :
    Recorded m' ∧ m'.world.served.map Served.message = m'.world.parsed := by
  have hsame : ∀ {m'}, SameRecords m m' →
      Recorded m' ∧ m'.world.served.map Served.message = m'.world.parsed := by
    intro m' hsame
    refine ⟨h.same hsame, ?_⟩
    rw [hsame.2.1, hsame.2.2.2]
    exact hserved
  have hpush : ∀ (m₁ : SandboxMonitor) (eventId : UInt64) (json : Bytes),
      m₁.world.created = m.world.created → m₁.world.served = m.world.served →
      m₁.world.delivered = m.world.delivered ++ [(eventId, json)] →
      m₁.world.parsed = m.world.parsed →
      Recorded (m₁.pushEventReport eventId true json) ∧
        (m₁.pushEventReport eventId true json).world.served.map Served.message =
          (m₁.pushEventReport eventId true json).world.parsed := by
    intro m₁ eventId json hcreated hserved₁ hdelivered hparsed
    refine ⟨h.pushEventReport hcreated hserved₁ hdelivered, ?_⟩
    obtain ⟨-, hserved', -, hparsed'⟩ := pushSocketMessage_records m₁
      { msgType := SOCKET_MSG_EVENT_REPORT, eventId := eventId, needsAnswer := true, body := json }
    rw [SandboxMonitor.pushEventReport, hserved', hparsed', hserved₁, hparsed]
    exact hserved
  cases hmove with
  | answering sends => exact hsame ⟨rfl, rfl, rfl, rfl⟩
  | writeEnabled enabled => exact hsame ⟨rfl, rfl, rfl, rfl⟩
  | writable hs => exact hsame ⟨rfl, rfl, rfl, rfl⟩
  | retry hattempts => exact hsame ⟨rfl, rfl, rfl, rfl⟩
  | reconnect hattempts => exact hsame ⟨rfl, rfl, rfl, rfl⟩
  | strip hs hqueue hresponse hbody => exact hsame ⟨rfl, rfl, rfl, rfl⟩
  | discard hs hqueue hevent hbody => exact hsame ⟨rfl, rfl, rfl, rfl⟩
  | closeDevice =>
    unfold SandboxMonitor.closeDevice
    split
    · exact ⟨h, hserved⟩
    · exact hsame ⟨rfl, rfl, rfl, rfl⟩
  | forward hs hidle hqueue hret => exact hsame (sameRecords_handed (m.withSocket _) _)
  | forwardFails hs hidle hqueue hret =>
    exact hsame (sameRecords_dropSocketChannel (m.withSocket _))
  | drop hs => exact hsame m.sameRecords_dropSocketChannel
  | degrade => exact hsame m.sameRecords_closeSocket
  | @read s hs answers =>
    have hparsed : Recorded (m.parsed (s.onReadable answers.arrived answers.reads).1
        (s.onReadable answers.arrived answers.reads).2.1) := ⟨h.responses, h.reports, h.serials⟩
    obtain ⟨hrecorded, hparsed', hserved'⟩ := hparsed.queueResponses (X := X)
      (s.onReadable answers.arrived answers.reads).2.1 answers.requests
    refine ⟨hrecorded, hserved'.trans ?_⟩
    exact (congrArg (· ++ _) hserved).trans hparsed'.symm
  | queueEvent eventId json hway => exact hpush (m.deliver eventId json) eventId json rfl rfl rfl rfl
  | sendEventFails eventId json hs hidle hqueue hret =>
    obtain ⟨hrecorded, hserved'⟩ := hpush ((m.deliver eventId json).withSocket _) eventId json
      rfl rfl rfl rfl
    obtain ⟨-, hserved₁, -, hparsed₁⟩ := sameRecords_dropSocketChannel
      (((m.deliver eventId json).withSocket _).pushEventReport eventId true json)
    refine ⟨hrecorded.same (sameRecords_dropSocketChannel _), ?_⟩
    rw [hserved₁, hparsed₁]
    exact hserved'
  | @sendEvent s eventId json hs hidle hqueue hret =>
    have htype : (PendingSocketMessage.mk SOCKET_MSG_EVENT_REPORT 0 0 eventId true json 0).msgType =
        SOCKET_MSG_EVENT_REPORT := rfl
    obtain ⟨hcreated, hserved', hdelivered, hparsed⟩ := createEvent_records
      ((m.deliver eventId json).withSocket (s.sendMessage SOCKET_MSG_EVENT_REPORT json m.world.sends))
      eventId json
    refine ⟨h.report htype hcreated hserved' hdelivered, ?_⟩
    rw [hserved', hparsed]
    exact hserved
  | @dropEvent eventId json hbody =>
    have hlarge : fits (eventId, json) = false := decide_eq_false (Nat.not_le.mpr hbody)
    refine ⟨⟨h.responses, ?_, h.serials⟩, hserved⟩
    show (m.world.created.filter isReport).map _ =
      (m.world.delivered ++ [(eventId, json)]).filter fits
    rw [List.filter_append, List.filter_singleton, hlarge]
    simpa using h.reports

/-! ### Runs -/

/-- The connections of a run so far, in order, the live one last. -/
def connections (m : SandboxMonitor) : List Connection := m.world.closed ++ [m.connection]

/-- The messages that have been written completely, each to one connection. -/
def written (m : SandboxMonitor) : List PendingSocketMessage :=
  m.connections.flatMap Connection.written

/-- The messages the live socket still has to write. -/
def waiting (m : SandboxMonitor) : List PendingSocketMessage := m.connection.unwritten

theorem archived_append_handed (m : SandboxMonitor) :
    m.archived ++ m.world.handed = m.written ++ m.waiting := by
  have hsplit : m.world.handed = m.connection.written ++ m.connection.unwritten :=
    (List.take_append_drop _ _).symm
  unfold archived written waiting connections
  rw [List.flatMap_append, List.flatMap_singleton, List.append_assoc]
  exact congrArg (m.world.closed.flatMap Connection.written ++ ·) hsplit

theorem run_records (config : MonitorConfig) (waits : List WaitResult) (rs : List (Round Group)) :
    (Wired (run X config waits rs).1 ∧ Recorded (run X config waits rs).1) ∧
      (run X config waits rs).1.world.served.map Served.message =
        (run X config waits rs).1.world.parsed := by
  have hwired : Wired (ofConfig config) := by
    refine ⟨fun c hc => absurd hc List.not_mem_nil, fun _ => rfl, fun s hs => ?_⟩
    unfold ofConfig at hs
    split at hs
    · cases hs
      exact ⟨transmits_create, rfl⟩
    · cases hs
  refine run_induction (X := X) (P := fun m => (Wired m ∧ Recorded m) ∧
    m.world.served.map Served.message = m.world.parsed) config waits rs
    ⟨⟨hwired, ⟨rfl, rfl, rfl⟩⟩, rfl⟩ ?_
  intro m m' hmoves ih hmove
  obtain ⟨⟨hwired, hrecorded⟩, hserved⟩ := ih
  obtain ⟨hrecorded', hserved'⟩ := hrecorded.move hserved hmove
  exact ⟨⟨hwired.move ((ofConfig_consistent config).moves hmoves).1 hmove, hrecorded'⟩, hserved'⟩

/-- What the peers have received is what was written. -/
theorem Wired.received_connections {m : SandboxMonitor} (h : Wired m) :
    m.connections.flatMap (fun c => received c.wire) = m.written.map frameOf := by
  unfold written
  rw [List.map_flatMap]
  apply List.flatMap_congr
  intro c hc
  rcases List.mem_append.mp hc with hc | hc
  · exact (h.closed c hc).received_wire
  · rw [List.mem_singleton.mp hc]
    exact h.connection.received_wire

theorem Wired.bodies {m : SandboxMonitor} (h : Wired m) {message : PendingSocketMessage}
    (hmem : message ∈ m.written ++ m.waiting) : message.body.length ≤ MAX_BODY_LENGTH := by
  rcases List.mem_append.mp hmem with hmem | hmem
  · obtain ⟨c, hc, hmem⟩ := List.mem_flatMap.mp hmem
    have hmem := List.mem_of_mem_take hmem
    rcases List.mem_append.mp hc with hc | hc
    · exact (h.closed c hc).bodies _ hmem
    · rw [List.mem_singleton.mp hc] at hmem
      exact h.connection.bodies _ hmem
  · exact h.connection.bodies _ (List.mem_of_mem_drop hmem)

/-- The balance of the ledger, with what was written, what is in the buffer of the socket
and what is queued told apart. -/
theorem Ledger.accounts {m : SandboxMonitor} (h : Ledger K m) (hwired : Wired m) :
    (m.world.created.filter K).map PendingSocketMessage.bare = m.written.filter K ++
      (m.waiting.filter K ++ (m.socketTxQueue.filter K).map PendingSocketMessage.bare) := by
  have hbare : ((m.written ++ m.waiting).filter K).map PendingSocketMessage.bare =
      (m.written ++ m.waiting).filter K := by
    refine (List.map_congr_left fun message hmem => ?_).trans (List.map_id _)
    exact if_neg fun hlarge =>
      absurd hlarge.2 (Nat.not_lt.mpr (hwired.bodies (List.mem_filter.mp hmem).1))
  rw [h.balance, archived_append_handed, List.filter_append, List.map_append, hbare,
    List.filter_append, List.append_assoc]

/-- Every request has one response, which is in one place, and the responses are in the
order of the requests: those written first, then the one in the buffer of the live socket,
then those queued. -/
structure Answered (m : SandboxMonitor) : Prop where
  served : m.world.served.map Served.message = m.world.parsed
  created : (m.world.created.filter isResponse).map frameOf = m.world.served.map response
  received : m.connections.flatMap (fun c => received c.wire) = m.written.map frameOf
  kept : m.state ≠ .DEGRADED →
    (m.world.created.filter isResponse).map PendingSocketMessage.bare =
      m.written.filter isResponse ++ (m.waiting.filter isResponse ++
        (m.socketTxQueue.filter isResponse).map PendingSocketMessage.bare)

theorem tracks_isResponse : Tracks isResponse where
  bare _ _ := rfl
  event _ h hne := absurd (of_decide_eq_true h) hne

end

/-- **Every request is answered exactly once**, as long as no response is parted with: no
push finds the queue so full that a response has to go, none is refused for its size, and
no connection is closed with a response half written. -/
theorem run_answered {Group : Type} (X : Externals Group) (config : MonitorConfig)
    (waits : List WaitResult) (rs : List (Round Group))
    (h : ∀ op ∈ (run X config waits rs).1.world.trace, ∀ message ∈ op.discarded,
      isResponse message = false) : Answered (run X config waits rs).1 := by
  obtain ⟨⟨hwired, hrecorded⟩, hserved⟩ := run_records (X := X) config waits rs
  refine ⟨hserved, hrecorded.responses, hwired.received_connections, fun hstate => ?_⟩
  exact (run_ledger tracks_isResponse config waits rs h hstate).accounts hwired

/-- An app that sends no JSON, and a device whose events are all of class ASK. -/
def plain : Externals Unit where
  cJSON_Parse _ := none
  cJSON_PrintUnformatted _ := []
  parseOperationControlPolicy _ := (.SUCCESS, [])
  parseEvent data := some (⟨DEC_EVENT_CLASS_ASK, 5⟩, data)

def connected : MonitorConfig := ⟨bytes "/s", 3, 4⟩

def oneRequest : SocketAnswers Unit where
  arrived := Frame.encode ⟨9, 7, 0, []⟩
  reads := [.bytes SOCKET_HEADER_LENGTH]
  sends := [.sent 8]

/-- A request arrives with the end of its connection: the response waits in the queue. -/
theorem run_answered_hangup : Answered
    (run plain connected [] [{ events := [.socketFd (EPOLLIN ||| EPOLLHUP) oneRequest] }]).1 := by
  apply run_answered
  intro op hop message hmem
  have hop : op ∈ [Op.push [] ⟨SOCKET_MSG_RESPONSE, 7, RSP_UNSUPPORTED_TYPE, 0, false, [], 0⟩,
    .close ⟨[], []⟩] := hop
  rcases List.mem_cons.mp hop with rfl | hop
  · cases hmem
  · rw [List.mem_singleton.mp hop] at hmem
    have hnone : message ∈ ([] : List PendingSocketMessage).drop (received []).length := hmem
    rw [List.drop_nil] at hnone
    cases hnone

/-! ### A response that is lost

The app sends one request; the kernel takes eight bytes of the response before it is full,
and the app hangs up. -/

def halfAnswered : Round Unit where
  events := [.socketFd EPOLLIN oneRequest, .socketFd EPOLLHUP {}]

def owedResponse : PendingSocketMessage where
  msgType := SOCKET_MSG_RESPONSE
  requestId := 7
  result := RSP_UNSUPPORTED_TYPE
  body := []

/-- The request has been read and its response queued. -/
def responseQueued : SandboxMonitor :=
  ((ofConfig connected).answering oneRequest.sends).readAndAnswer plain SandboxSocket.create oneRequest

/-- The response is in the buffer of the socket. -/
def responseBuffered : SandboxMonitor :=
  { ((responseQueued.withSocket (SandboxSocket.create.sendPending owedResponse
      oneRequest.sends)).handed owedResponse).pop owedResponse [] with socketWriteEnabled := true }

theorem run_halfAnswered :
    run plain connected [] [halfAnswered] = (responseBuffered.dropSocketChannel, true) := by
  have hread : (ofConfig connected).handleSocketEvent plain EPOLLIN oneRequest =
      responseQueued.resumeSocketTx true := rfl
  have hflush : responseQueued.resumeSocketTx true = (responseBuffered, .NONE) := by
    unfold resumeSocketTx
    rw [flushSocketTxQueue_forward (s := (SandboxSocket.create.onReadable oneRequest.arrived
      oneRequest.reads).1) rfl rfl rfl rfl, flushSocketTxQueue_nil rfl]
    rfl
  have hbatch : (ofConfig connected).processEpollBatch plain halfAnswered.events =
      (responseBuffered.dropSocketChannel, true) := by
    show processEpollBatch plain _ [.socketFd EPOLLIN oneRequest, .socketFd EPOLLHUP {}] = _
    rw [processEpollBatch, dispatchEpollEvent, hread, hflush]
    rfl
  show rounds plain (ofConfig connected) [halfAnswered] = _
  rw [rounds, round, hbatch]
  rfl

/-- Less than a header is no message. -/
theorem received_short {wire : Bytes} (h : wire.length < SOCKET_HEADER_LENGTH) :
    received wire = [] := by
  unfold received
  rw [Library.Framing.split_short h, List.map_nil]

/-- Not every run answers every request: of this response the app gets eight bytes, and
when it comes back nothing is left to send. -/
theorem not_run_answered : ¬ ∀ (config : MonitorConfig) (waits : List WaitResult)
    (rs : List (Round Unit)), Answered (run plain config waits rs).1 := by
  intro h
  have hkept := (h connected [] [halfAnswered]).kept
  rw [run_halfAnswered] at hkept
  have hwritten : responseBuffered.dropSocketChannel.written = [] := by
    show [owedResponse].take (received (responseBuffered.connection.wire)).length ++
      (([] : List PendingSocketMessage).take _ ++ []) = []
    rw [received_short (by decide)]
    simp
  have hwaiting : responseBuffered.dropSocketChannel.waiting = [] := List.drop_nil
  have hcreated := hkept (by decide)
  rw [hwritten, hwaiting] at hcreated
  exact absurd (congrArg List.length hcreated) (by decide)

/-! ### Events -/

/-- The numbers of the messages the queue had no room for. -/
def evicted (m : SandboxMonitor) : List Nat :=
  (m.world.trace.flatMap Op.evicted).map (·.serial)

/-- A report that is not over the limit and was not evicted. -/
def lasting (m : SandboxMonitor) (message : PendingSocketMessage) : Bool :=
  isReport message && message.serial ∉ m.evicted

/-- Every event the monitor was offered has one report, and every lasting report is in one
place: those written first, in the order of the events, then the one in the buffer of the
live socket, then those queued. -/
structure Reported (m : SandboxMonitor) : Prop where
  offered : (m.world.created.filter isReport).map (fun message => (message.eventId, message.body)) =
    m.world.delivered.filter fits
  numbered : m.world.created.map (·.serial) = List.range m.world.created.length
  received : m.connections.flatMap (fun c => received c.wire) = m.written.map frameOf
  kept : m.state ≠ .DEGRADED →
    m.world.created.filter (lasting m) = m.written.filter (lasting m) ++
      (m.waiting.filter (lasting m) ++ m.socketTxQueue.filter (lasting m))
  ordered : m.state ≠ .DEGRADED →
    ((m.written.filter (lasting m)).map (·.serial)).Pairwise (· < ·)

theorem isReport_event {message : PendingSocketMessage} (h : isReport message = true) :
    message.msgType = SOCKET_MSG_EVENT_REPORT ∧ message.body.length ≤ MAX_BODY_LENGTH := by
  simpa [isReport] using h

theorem tracks_lasting (m : SandboxMonitor) : Tracks (lasting m) where
  bare message h := by
    have hnot : ∀ body, isReport { message with body := body } = false := by
      intro body
      show (decide (message.msgType = SOCKET_MSG_EVENT_REPORT) && _) = _
      rw [h]
      rfl
    have hthis := hnot message.body
    unfold lasting
    rw [hnot, hthis, Bool.false_and]
  event message h _ := (isReport_event (Bool.and_eq_true_iff.mp h).1).2

theorem map_bare_lasting (m : SandboxMonitor) (messages : List PendingSocketMessage) :
    (messages.filter (lasting m)).map PendingSocketMessage.bare = messages.filter (lasting m) := by
  refine (List.map_congr_left fun message hmem => ?_).trans (List.map_id _)
  have hreport := (Bool.and_eq_true_iff.mp (List.mem_filter.mp hmem).2).1
  exact if_neg fun h => absurd (isReport_event hreport).2 (Nat.not_le.mpr h.2)

/-- **No reported event is lost** over any number of connections, and none is written
twice or out of turn, as long as no connection is closed with a report half written. -/
theorem run_reported {Group : Type} (X : Externals Group) (config : MonitorConfig)
    (waits : List WaitResult) (rs : List (Round Group))
    (h : ∀ c, .close c ∈ (run X config waits rs).1.world.trace →
      ∀ message ∈ c.unwritten, message.msgType ≠ SOCKET_MSG_EVENT_REPORT) :
    Reported (run X config waits rs).1 := by
  obtain ⟨⟨hwired, hrecorded⟩, -⟩ := run_records (X := X) config waits rs
  have hkeeps : Keeps (lasting (run X config waits rs).1) (run X config waits rs).1 := by
    intro op hop message hmem
    cases hlasting : lasting (run X config waits rs).1 message with
    | false => rfl
    | true =>
      exfalso
      obtain ⟨hreport, hstays⟩ := Bool.and_eq_true_iff.mp hlasting
      cases op with
      | push queue pushed =>
        have hevicted : message.serial ∈ (run X config waits rs).1.evicted :=
          List.mem_map_of_mem (List.mem_flatMap.mpr ⟨_, hop, hmem⟩)
        exact of_decide_eq_true hstays hevicted
      | close c => exact h c hop message hmem (isReport_event hreport).1
  have hkept : (run X config waits rs).1.state ≠ .DEGRADED →
      (run X config waits rs).1.world.created.filter (lasting (run X config waits rs).1) =
        (run X config waits rs).1.written.filter (lasting (run X config waits rs).1) ++
          ((run X config waits rs).1.waiting.filter (lasting (run X config waits rs).1) ++
            (run X config waits rs).1.socketTxQueue.filter
              (lasting (run X config waits rs).1)) := by
    intro hstate
    have haccounts := (run_ledger (tracks_lasting _) config waits rs hkeeps hstate).accounts hwired
    rwa [map_bare_lasting, map_bare_lasting] at haccounts
  refine ⟨hrecorded.reports, hrecorded.serials, hwired.received_connections, hkept, fun hstate => ?_⟩
  have hsorted : ((run X config waits rs).1.world.created.map (·.serial)).Pairwise (· < ·) := by
    rw [hrecorded.serials]
    exact List.pairwise_lt_range
  have hsub : ((run X config waits rs).1.written.filter (lasting (run X config waits rs).1)).Sublist
      (run X config waits rs).1.world.created := by
    refine .trans ?_ (List.filter_sublist (p := lasting (run X config waits rs).1))
    rw [hkept hstate]
    exact List.sublist_append_left _ _
  exact hsorted.sublist (hsub.map _)

/-- The app hangs up, and then the device asks about an event. -/
def askedAfterHangup : Round Unit where
  events := [.socketFd EPOLLHUP {}, .deviceFd EPOLLIN { reads := [.record (bytes "x")] }]

def askedReport : PendingSocketMessage where
  msgType := SOCKET_MSG_EVENT_REPORT
  eventId := 5
  needsAnswer := true
  body := bytes "x"

/-- A report that is created while there is no socket waits in the queue. -/
theorem run_reported_hangup : Reported (run plain connected [] [askedAfterHangup]).1 ∧
    (run plain connected [] [askedAfterHangup]).1.socketTxQueue = [askedReport] := by
  refine ⟨run_reported _ _ _ _ ?_, rfl⟩
  intro c hc message hmem
  have hc : Op.close c ∈ [Op.close ⟨[], []⟩, .push [] askedReport] := hc
  obtain rfl : c = ⟨[], []⟩ := by simpa using hc
  have hnone : message ∈ ([] : List PendingSocketMessage).drop (received []).length := hmem
  rw [List.drop_nil] at hnone
  cases hnone

/-- The device asks about one event, whose report the kernel takes eight bytes of before
the app hangs up. -/
def oneEvent : DeviceAnswers where
  reads := [.record (bytes "x")]
  sends := [.sent 8]

def halfReported : Round Unit where
  events := [.deviceFd EPOLLIN oneEvent, .socketFd EPOLLHUP {}]

/-- The report is in the buffer of the socket. -/
def reportBuffered : SandboxMonitor := ((ofConfig connected).handleDeviceEvent plain EPOLLIN oneEvent).1

theorem run_halfReported :
    run plain connected [] [halfReported] = (reportBuffered.dropSocketChannel, true) := rfl

/-- Not every run keeps every event: of this report the app gets eight bytes, and when it
comes back nothing is left to send. -/
theorem not_run_reported : ¬ ∀ (config : MonitorConfig) (waits : List WaitResult)
    (rs : List (Round Unit)), Reported (run plain config waits rs).1 := by
  intro h
  have hkept := (h connected [] [halfReported]).kept
  rw [run_halfReported] at hkept
  have hwritten : reportBuffered.dropSocketChannel.written = [] := by
    show reportBuffered.connection.handed.take (received (reportBuffered.connection.wire)).length ++
      (([] : List PendingSocketMessage).take _ ++ []) = []
    rw [received_short (by decide)]
    simp
  have hwaiting : reportBuffered.dropSocketChannel.waiting = [] := List.drop_nil
  have hcreated := hkept (by decide)
  rw [hwritten, hwaiting] at hcreated
  exact absurd (congrArg List.length hcreated) (by decide)

end SandboxMonitor

end SandboxManager.Claw
