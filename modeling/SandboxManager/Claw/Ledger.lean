import SandboxManager.Claw.Machine

/-! Where the messages of a run are.

Every message the monitor creates is written to a connection, in the buffer of the
socket, in the queue, or was parted with by a push into a full queue or by the loss of a
connection. For a kind of message that was never parted with, `Ledger` says so as one
equation of lists, which makes it a statement about loss, duplication and order at once. -/
namespace SandboxManager.Claw

/-- What a message is when it reaches the socket: a response whose body is too large has
none. -/
def PendingSocketMessage.bare (message : PendingSocketMessage) : PendingSocketMessage :=
  if message.msgType = SOCKET_MSG_RESPONSE ∧ MAX_BODY_LENGTH < message.body.length then
    { message with body := [] }
  else message

def bodyBytes (queue : List PendingSocketMessage) : Nat := (queue.map (·.body.length)).sum

/-- The queue has no room for a further body. -/
def crowded (bodySize : Nat) (queue : List PendingSocketMessage) : Bool :=
  MAX_SOCKET_TX_QUEUE_COUNT ≤ queue.length || MAX_SOCKET_TX_QUEUE_BYTES - bodySize < bodyBytes queue

/-- The messages that have to go for a body of that size. -/
def evictees (bodySize : Nat) : List PendingSocketMessage → List PendingSocketMessage
  | [] => []
  | front :: rest =>
    if crowded bodySize (front :: rest) then front :: evictees bodySize rest else []

/-- What an operation parts with. -/
def Op.discarded : Op → List PendingSocketMessage
  | .push queue message =>
    if MAX_SOCKET_TX_QUEUE_BYTES < message.body.length then [message]
    else evictees message.body.length queue
  | .close connection => connection.unwritten

/-- What a push parts with; a message it refuses is over every limit. -/
def Op.evicted : Op → List PendingSocketMessage
  | .push queue message => (Op.push queue message).discarded
  | .close _ => []

theorem sizeSub_eq {a b : Nat} (h : b ≤ a) (ha : a < SIZE_RANGE) : sizeSub a b = a - b := by
  unfold sizeSub
  have hsum : a + (SIZE_RANGE - b) = a - b + SIZE_RANGE := by omega
  rw [hsum, Nat.add_mod_right, Nat.mod_eq_of_lt (by omega)]

theorem evictOldest_eq (bodySize : Nat) (queue : List PendingSocketMessage)
    (h : bodyBytes queue < SIZE_RANGE) :
    ∃ rest, queue = evictees bodySize queue ++ rest ∧
      SandboxMonitor.evictOldest bodySize queue (bodyBytes queue) = (rest, bodyBytes rest) ∧
      (rest = [] ∨ bodyBytes rest ≤ MAX_SOCKET_TX_QUEUE_BYTES - bodySize) := by
  induction queue with
  | nil => exact ⟨[], rfl, rfl, .inl rfl⟩
  | cons front tail ih =>
    have hbytes : bodyBytes (front :: tail) = front.body.length + bodyBytes tail := by
      simp [bodyBytes]
    by_cases hc : crowded bodySize (front :: tail) = true
    · obtain ⟨rest, hsplit, heq, hroom⟩ := ih (by omega)
      have hsub : sizeSub (bodyBytes (front :: tail)) front.body.length = bodyBytes tail := by
        rw [sizeSub_eq (by omega) h, hbytes, Nat.add_sub_cancel_left]
      refine ⟨rest, ?_, ?_, hroom⟩
      · rw [evictees, if_pos hc, List.cons_append, ← hsplit]
      · rw [SandboxMonitor.evictOldest, if_pos (by simpa [crowded] using hc), hsub, heq]
    · refine ⟨front :: tail, by rw [evictees, if_neg hc, List.nil_append], ?_, .inr ?_⟩
      · rw [SandboxMonitor.evictOldest, if_neg (by simpa [crowded] using hc)]
      · simp only [crowded, Bool.or_eq_true, decide_eq_true_eq, not_or] at hc
        omega

namespace SandboxMonitor

/-- The byte count of the queue is exact and within its limit. -/
structure Sized (m : SandboxMonitor) : Prop where
  bytes : m.socketTxBytes = bodyBytes m.socketTxQueue
  limit : bodyBytes m.socketTxQueue ≤ MAX_SOCKET_TX_QUEUE_BYTES

/-- What a push leaves in the queue. -/
theorem Sized.push {m : SandboxMonitor} (h : Sized m) (message : PendingSocketMessage) :
    Sized (m.pushSocketMessage message) ∧
      (m.pushSocketMessage message).world.trace =
        m.world.trace ++ [.push m.socketTxQueue (m.create message)] ∧
      ((MAX_SOCKET_TX_QUEUE_BYTES < (m.create message).body.length ∧
          (m.pushSocketMessage message).socketTxQueue = m.socketTxQueue) ∨
        ∃ rest, m.socketTxQueue =
            evictees (m.create message).body.length m.socketTxQueue ++ rest ∧
          ¬ MAX_SOCKET_TX_QUEUE_BYTES < (m.create message).body.length ∧
          (m.pushSocketMessage message).socketTxQueue = rest ++ [m.create message]) := by
  have hrange : MAX_SOCKET_TX_QUEUE_BYTES < SIZE_RANGE := by decide
  have hbytes := h.bytes
  have hlimit := h.limit
  obtain ⟨rest, hsplit, heq, hroom⟩ := evictOldest_eq (m.create message).body.length m.socketTxQueue
    (by omega)
  unfold pushSocketMessage
  dsimp only
  rw [h.bytes, heq]
  by_cases hbody : MAX_SOCKET_TX_QUEUE_BYTES < (m.create message).body.length
  · rw [if_pos hbody]
    exact ⟨⟨rfl, hlimit⟩, rfl, .inl ⟨hbody, rfl⟩⟩
  · rw [if_neg hbody]
    have hsum : bodyBytes (rest ++ [m.create message]) =
        bodyBytes rest + (m.create message).body.length := by
      simp [bodyBytes]
    have hfits : bodyBytes rest + (m.create message).body.length ≤ MAX_SOCKET_TX_QUEUE_BYTES := by
      rcases hroom with hnil | hroom
      · rw [hnil]
        simp [bodyBytes]
        omega
      · omega
    refine ⟨⟨?_, ?_⟩, rfl, .inr ⟨rest, hsplit, hbody, rfl⟩⟩
    · show sizeAdd (bodyBytes rest) _ = bodyBytes (rest ++ [m.create message])
      rw [hsum, sizeAdd, Nat.mod_eq_of_lt (by omega)]
    · show bodyBytes (rest ++ [m.create message]) ≤ _
      rw [hsum]
      exact hfits

theorem Sized.pop {m : SandboxMonitor} {front : PendingSocketMessage}
    {rest : List PendingSocketMessage} (h : Sized m) (hqueue : m.socketTxQueue = front :: rest) :
    Sized (m.pop front rest) := by
  have hrange : MAX_SOCKET_TX_QUEUE_BYTES < SIZE_RANGE := by decide
  have hbytes := h.bytes
  have hlimit := h.limit
  have hsum : bodyBytes m.socketTxQueue = front.body.length + bodyBytes rest := by
    rw [hqueue]
    simp [bodyBytes]
  refine ⟨?_, ?_⟩
  · show sizeSub m.socketTxBytes front.body.length = bodyBytes rest
    rw [hbytes, sizeSub_eq (by omega) (by omega)]
    omega
  · show bodyBytes rest ≤ _
    omega

theorem Sized.strip {m : SandboxMonitor} {front : PendingSocketMessage}
    {rest : List PendingSocketMessage} (h : Sized m) (hqueue : m.socketTxQueue = front :: rest) :
    Sized (m.strip front rest) := by
  have hpop := h.pop hqueue
  have hsum : bodyBytes ({ front with body := [] } :: rest) = bodyBytes rest := by
    simp [bodyBytes]
  exact ⟨hpop.bytes.trans hsum.symm, hsum.symm ▸ hpop.limit⟩

/-! ### The ledger -/

/-- A kind of message worth following: losing the body does not change it, and no event of
the kind is over the limit. -/
structure Tracks (K : PendingSocketMessage → Bool) : Prop where
  bare : ∀ message : PendingSocketMessage, message.msgType = SOCKET_MSG_RESPONSE →
    K { message with body := [] } = K message
  event : ∀ message : PendingSocketMessage, K message = true →
    message.msgType ≠ SOCKET_MSG_RESPONSE → message.body.length ≤ MAX_BODY_LENGTH

/-- No operation of the run parted with a message of the kind. -/
def Keeps (K : PendingSocketMessage → Bool) (m : SandboxMonitor) : Prop :=
  ∀ op ∈ m.world.trace, ∀ message ∈ op.discarded, K message = false

/-- What the closed connections carried. -/
def archived (m : SandboxMonitor) : List PendingSocketMessage :=
  m.world.closed.flatMap Connection.written

/-- Every message of the kind is somewhere, once, and in the order of creation. -/
structure Ledger (K : PendingSocketMessage → Bool) (m : SandboxMonitor) : Prop extends Sized m where
  balance : (m.world.created.filter K).map PendingSocketMessage.bare =
    ((m.archived ++ m.world.handed ++ m.socketTxQueue).filter K).map PendingSocketMessage.bare

variable {K : PendingSocketMessage → Bool}

theorem Keeps.of_trace {m m' : SandboxMonitor} (h : Keeps K m') {ops : List Op}
    (htrace : m'.world.trace = m.world.trace ++ ops) : Keeps K m :=
  fun op hop => h op (htrace ▸ List.mem_append_left _ hop)

theorem filter_discarded {messages : List PendingSocketMessage}
    (h : ∀ message ∈ messages, K message = false) : messages.filter K = [] := by
  apply List.filter_eq_nil_iff.mpr
  intro message hmem hk
  rw [h message hmem] at hk
  cases hk

/-- A state with the same messages in the same places. -/
theorem Ledger.same {m m' : SandboxMonitor} (h : Ledger K m)
    (hcreated : m'.world.created = m.world.created) (hclosed : m'.world.closed = m.world.closed)
    (hhanded : m'.world.handed = m.world.handed) (hqueue : m'.socketTxQueue = m.socketTxQueue)
    (hbytes : m'.socketTxBytes = m.socketTxBytes) : Ledger K m' := by
  refine ⟨⟨?_, ?_⟩, ?_⟩
  · rw [hbytes, hqueue]
    exact h.bytes
  · rw [hqueue]
    exact h.limit
  · unfold archived
    rw [hcreated, hclosed, hhanded, hqueue]
    exact h.balance

theorem Ledger.push {m : SandboxMonitor} (h : Ledger K m) (message : PendingSocketMessage)
    (hkeeps : Keeps K (m.pushSocketMessage message)) : Ledger K (m.pushSocketMessage message) := by
  obtain ⟨hsized, htrace, hqueue⟩ := h.toSized.push message
  have hop : ∀ x ∈ (Op.push m.socketTxQueue (m.create message)).discarded, K x = false :=
    hkeeps _ (by rw [htrace]; exact List.mem_append_right _ (List.mem_singleton.mpr rfl))
  obtain ⟨queue, txBytes, heq⟩ := m.pushSocketMessage_eq message
  have hcreated : (m.pushSocketMessage message).world.created =
      m.world.created ++ [m.create message] := by rw [heq]
  have hclosed : (m.pushSocketMessage message).archived = m.archived := by
    unfold archived
    rw [heq]
  have hhanded : (m.pushSocketMessage message).world.handed = m.world.handed := by rw [heq]
  refine ⟨hsized, ?_⟩
  rw [hcreated, hclosed, hhanded, List.filter_append, List.map_append, h.balance]
  obtain ⟨hbody, hsame⟩ | ⟨rest, hsplit, hbody, hrest⟩ := hqueue
  · have hgone : [m.create message].filter K = [] := by
      apply filter_discarded
      rwa [Op.discarded, if_pos hbody] at hop
    rw [hsame, hgone, List.map_nil, List.append_nil]
  · have hgone : (evictees (m.create message).body.length m.socketTxQueue).filter K = [] := by
      apply filter_discarded
      rwa [Op.discarded, if_neg hbody] at hop
    have hkept : m.socketTxQueue.filter K = rest.filter K := by
      rw [hsplit, List.filter_append, hgone, List.nil_append]
    rw [hrest]
    simp only [List.filter_append, List.map_append, hkept, List.append_assoc]

theorem Ledger.handed {m : SandboxMonitor} {front : PendingSocketMessage}
    {rest : List PendingSocketMessage} (h : Ledger K m) (hqueue : m.socketTxQueue = front :: rest) :
    Ledger K ((m.handed front).pop front rest) := by
  have hclosed : ((m.handed front).pop front rest).archived = m.archived := by
    unfold archived SandboxMonitor.handed
    split <;> rfl
  have hcreated : ((m.handed front).pop front rest).world.created = m.world.created := by
    unfold SandboxMonitor.handed
    split <;> rfl
  have hhanded : ((m.handed front).pop front rest).world.handed = m.world.handed ++ [front] := by
    unfold SandboxMonitor.handed
    split <;> rfl
  have hbytes : ((m.handed front).pop front rest).socketTxBytes = (m.pop front rest).socketTxBytes := by
    unfold SandboxMonitor.handed
    split <;> rfl
  refine ⟨⟨hbytes.trans (h.toSized.pop hqueue).bytes, (h.toSized.pop hqueue).limit⟩, ?_⟩
  rw [hcreated, hclosed, hhanded, h.balance, hqueue]
  show _ = ((m.archived ++ (m.world.handed ++ [front]) ++ rest).filter K).map _
  simp only [List.append_assoc, List.singleton_append]

theorem Ledger.strip (hK : Tracks K) {m : SandboxMonitor} {front : PendingSocketMessage}
    {rest : List PendingSocketMessage} (h : Ledger K m) (hqueue : m.socketTxQueue = front :: rest)
    (hresponse : front.msgType = SOCKET_MSG_RESPONSE) (hbody : MAX_BODY_LENGTH < front.body.length) :
    Ledger K (m.strip front rest) := by
  have hbare : front.bare = { front with body := [] } := if_pos ⟨hresponse, hbody⟩
  have hbare' : ({ front with body := [] } : PendingSocketMessage).bare =
      { front with body := [] } := if_neg fun h => Nat.not_lt_zero _ h.2
  refine ⟨h.toSized.strip hqueue, ?_⟩
  show (m.world.created.filter K).map _ =
    ((m.archived ++ m.world.handed ++ ({ front with body := [] } :: rest)).filter K).map _
  rw [h.balance, hqueue]
  simp only [List.filter_append, List.filter_cons, List.map_append, hK.bare front hresponse]
  split
  · rw [List.map_cons, List.map_cons, hbare, hbare']
  · rfl

theorem Ledger.discard (hK : Tracks K) {m : SandboxMonitor} {front : PendingSocketMessage}
    {rest : List PendingSocketMessage} (h : Ledger K m) (hqueue : m.socketTxQueue = front :: rest)
    (hevent : front.msgType ≠ SOCKET_MSG_RESPONSE) (hbody : MAX_BODY_LENGTH < front.body.length) :
    Ledger K (m.pop front rest) := by
  have hgone : K front = false := by
    cases hk : K front with
    | false => rfl
    | true => exact absurd hbody (Nat.not_lt.mpr (hK.event front hk hevent))
  refine ⟨h.toSized.pop hqueue, ?_⟩
  show (m.world.created.filter K).map _ =
    ((m.archived ++ m.world.handed ++ rest).filter K).map _
  rw [h.balance, hqueue]
  simp only [List.filter_append, List.filter_cons, hgone, Bool.false_eq_true, if_false]

/-- An event that goes straight to the socket, the queue being empty. -/
theorem Ledger.createEvent {m : SandboxMonitor} (h : Ledger K m) (hqueue : m.socketTxQueue = [])
    (eventId : UInt64) (json : Bytes) : Ledger K (m.createEvent eventId json) := by
  refine ⟨⟨h.bytes, h.limit⟩, ?_⟩
  unfold SandboxMonitor.createEvent
  show ((m.world.created ++ [_]).filter K).map _ =
    ((m.archived ++ (m.world.handed ++ [_]) ++ m.socketTxQueue).filter K).map _
  rw [List.filter_append, List.map_append, h.balance, hqueue]
  simp only [List.append_nil, List.filter_append, List.map_append, List.append_assoc]

theorem Ledger.closeSocket {m : SandboxMonitor} (h : Ledger K m) (hkeeps : Keeps K m.closeSocket) :
    Ledger K m.closeSocket := by
  unfold SandboxMonitor.closeSocket at hkeeps ⊢
  split
  case h_1 => exact h
  case h_2 s hs =>
    rw [hs] at hkeeps
    have hgone : m.connection.unwritten.filter K = [] :=
      filter_discarded (hkeeps (.close m.connection)
        (List.mem_append_right _ (List.mem_singleton.mpr rfl)))
    have hsplit : m.world.handed.filter K = m.connection.written.filter K := by
      have htake : m.world.handed = m.connection.written ++ m.connection.unwritten :=
        (List.take_append_drop _ _).symm
      rw [htake, List.filter_append, hgone, List.append_nil]
    refine ⟨⟨h.bytes, h.limit⟩, ?_⟩
    show (m.world.created.filter K).map _ =
      (((m.world.closed ++ [m.connection]).flatMap Connection.written ++ [] ++
        m.socketTxQueue).filter K).map _
    rw [h.balance, archived]
    simp only [List.flatMap_append, List.flatMap_singleton, List.filter_append, hsplit,
      List.append_nil]

/-! ### Moves -/

section
variable {Group : Type} {X : Externals Group}

theorem Serves.messages {m m' : SandboxMonitor} {message : ParsedMessage} {ret : SandboxError}
    (h : Serves X m message m' ret) : m'.world.created = m.world.created ∧
      m'.world.closed = m.world.closed ∧ m'.world.handed = m.world.handed ∧
      m'.world.trace = m.world.trace ∧ m'.socketTxQueue = m.socketTxQueue ∧
      m'.socketTxBytes = m.socketTxBytes := by
  cases h <;> exact ⟨rfl, rfl, rfl, rfl, rfl, rfl⟩

theorem Ledger.queueResponse {m : SandboxMonitor} (h : Ledger K m) (message : ParsedMessage)
    (answers : RequestAnswers Group) (hkeeps : Keeps K (m.queueResponse X message answers)) :
    Ledger K (m.queueResponse X message answers) := by
  obtain ⟨m', ret, detail, hserves, heq⟩ := m.queueResponse_cases (X := X) message answers
  obtain ⟨hcreated, hclosed, hhanded, -, hqueue, hbytes⟩ := hserves.messages
  rw [heq] at hkeeps ⊢
  have hserved : Ledger K (m'.served ⟨message, ret, detail⟩) :=
    h.same hcreated hclosed hhanded hqueue hbytes
  exact hserved.push _ hkeeps

theorem queueResponse_trace (m : SandboxMonitor) (message : ParsedMessage)
    (answers : RequestAnswers Group) : ∃ op,
      (m.queueResponse X message answers).world.trace = m.world.trace ++ [op] := by
  obtain ⟨m', ret, detail, hserves, hpush⟩ := m.queueResponse_cases (X := X) message answers
  obtain ⟨-, -, -, htrace, -, -⟩ := hserves.messages
  rw [hpush, pushResponse]
  obtain ⟨queue, txBytes, heq⟩ := pushSocketMessage_eq (m'.served ⟨message, ret, detail⟩)
    { msgType := SOCKET_MSG_RESPONSE, requestId := message.header.requestId,
      result := toResponseCode ret,
      body := if toResponseCode ret ≠ RSP_PARTIAL then [] else detail }
  rw [heq]
  exact ⟨_, congrArg (· ++ _) htrace⟩

theorem queueResponses_trace (messages : List ParsedMessage) (m : SandboxMonitor)
    (answers : List (RequestAnswers Group)) : ∃ ops,
      (m.queueResponses X messages answers).world.trace = m.world.trace ++ ops := by
  refine queueResponses_keeps (P := fun m' => ∃ ops, m'.world.trace = m.world.trace ++ ops)
    (fun m' message answers h => ?_) messages ⟨[], (List.append_nil _).symm⟩ answers
  obtain ⟨ops, hops⟩ := h
  obtain ⟨op, hop⟩ := m'.queueResponse_trace (X := X) message answers
  exact ⟨ops ++ [op], by rw [hop, hops, List.append_assoc]⟩

theorem Ledger.queueResponses (messages : List ParsedMessage) {m : SandboxMonitor}
    (h : Ledger K m) (answers : List (RequestAnswers Group))
    (hkeeps : Keeps K (m.queueResponses X messages answers)) :
    Ledger K (m.queueResponses X messages answers) := by
  induction messages generalizing m answers with
  | nil => exact h
  | cons message rest ih =>
    obtain ⟨ops, hops⟩ := queueResponses_trace (X := X) rest
      (m.queueResponse X message (answers.headD {})) answers.tail
    rw [queueResponses_cons] at hkeeps ⊢
    exact ih (h.queueResponse message _ (hkeeps.of_trace hops)) _ hkeeps

theorem closeSocket_trace (m : SandboxMonitor) : ∃ ops,
    m.closeSocket.world.trace = m.world.trace ++ ops := by
  unfold SandboxMonitor.closeSocket
  split
  · exact ⟨[], (List.append_nil _).symm⟩
  · exact ⟨[.close m.connection], rfl⟩

theorem dropSocketChannel_trace (m : SandboxMonitor) : ∃ ops,
    m.dropSocketChannel.world.trace = m.world.trace ++ ops := by
  obtain ⟨ops, hops⟩ := m.closeSocket_trace
  unfold dropSocketChannel
  dsimp only
  split
  · obtain ⟨ops', hops'⟩ := m.closeSocket.closeSocket_trace
    refine ⟨ops ++ ops', hops'.trans ?_⟩
    rw [hops, List.append_assoc]
  · exact ⟨ops, hops⟩

theorem Ledger.dropSocketChannel {m : SandboxMonitor} (h : Ledger K m)
    (hkeeps : Keeps K m.dropSocketChannel) (hstate : m.dropSocketChannel.state ≠ .DEGRADED) :
    Ledger K m.dropSocketChannel := by
  unfold SandboxMonitor.dropSocketChannel at hkeeps hstate ⊢
  dsimp only at hkeeps hstate ⊢
  split
  case isTrue hpath =>
    rw [if_pos hpath] at hstate
    exact absurd rfl hstate
  case isFalse hpath =>
    rw [if_neg hpath] at hkeeps
    exact (h.closeSocket hkeeps).same rfl rfl rfl rfl rfl

/-- The trace of a run only grows. -/
theorem Move.trace {m m' : SandboxMonitor} (h : Move X m m') : ∃ ops,
    m'.world.trace = m.world.trace ++ ops := by
  have hsame : m.world.trace = m.world.trace ++ [] := (List.append_nil _).symm
  have hhanded : ∀ (m : SandboxMonitor) message, (m.handed message).world.trace = m.world.trace := by
    intro m message
    unfold SandboxMonitor.handed
    split <;> rfl
  have hpush : ∀ (m : SandboxMonitor) eventId json, ∃ ops,
      (m.pushEventReport eventId true json).world.trace = m.world.trace ++ ops := by
    intro m eventId json
    obtain ⟨queue, txBytes, heq⟩ := pushSocketMessage_eq m
      { msgType := SOCKET_MSG_EVENT_REPORT, eventId := eventId, needsAnswer := true, body := json }
    rw [pushEventReport, heq]
    exact ⟨_, rfl⟩
  cases h with
  | answering sends => exact ⟨[], hsame⟩
  | writeEnabled enabled => exact ⟨[], hsame⟩
  | dropEvent eventId hbody => exact ⟨[], hsame⟩
  | writable hs => exact ⟨[], hsame⟩
  | strip hs hqueue hresponse hbody => exact ⟨[], hsame⟩
  | discard hs hqueue hevent hbody => exact ⟨[], hsame⟩
  | retry h => exact ⟨[], hsame⟩
  | reconnect h => exact ⟨[], hsame⟩
  | closeDevice =>
    unfold SandboxMonitor.closeDevice
    split
    · exact ⟨[], hsame⟩
    · exact ⟨[], hsame⟩
  | read hs answers => exact queueResponses_trace _ _ _
  | forward hs hidle hqueue hret => exact ⟨[], (hhanded _ _).trans hsame⟩
  | sendEvent eventId json hs hidle hqueue hret => exact ⟨[], (hhanded _ _).trans hsame⟩
  | forwardFails hs hidle hqueue hret => exact dropSocketChannel_trace _
  | sendEventFails eventId json hs hidle hqueue hret =>
    obtain ⟨ops, hops⟩ := hpush ((m.deliver eventId json).withSocket _) eventId json
    obtain ⟨ops', hops'⟩ := dropSocketChannel_trace
      (((m.deliver eventId json).withSocket _).pushEventReport eventId true json)
    exact ⟨ops ++ ops', hops'.trans (by rw [hops, List.append_assoc]; rfl)⟩
  | drop hs => exact dropSocketChannel_trace m
  | degrade => exact m.closeSocket_trace
  | queueEvent eventId json hway => exact hpush _ eventId json

/-- **Every move keeps the ledger** of a kind of message it does not part with. -/
theorem Ledger.move (hK : Tracks K) {m m' : SandboxMonitor} (h : Ledger K m)
    (hmove : Move X m m') (hkeeps : Keeps K m') (hstate : m'.state ≠ .DEGRADED) :
    Ledger K m' := by
  have hsocket : ∀ out, Ledger K (m.withSocket out) := fun _ => h.same rfl rfl rfl rfl rfl
  have hparsed : ∀ s messages, Ledger K (m.parsed s messages) :=
    fun _ _ => h.same rfl rfl rfl rfl rfl
  have hdeliver : ∀ eventId json, Ledger K (m.deliver eventId json) :=
    fun _ _ => h.same rfl rfl rfl rfl rfl
  have hsends : ∀ eventId json out, Ledger K ((m.deliver eventId json).withSocket out) :=
    fun _ _ _ => h.same rfl rfl rfl rfl rfl
  cases hmove with
  | answering sends => exact h.same rfl rfl rfl rfl rfl
  | writeEnabled enabled => exact h.same rfl rfl rfl rfl rfl
  | dropEvent eventId hbody => exact hdeliver _ _
  | writable hs => exact hsocket _
  | retry hattempts => exact h.same rfl rfl rfl rfl rfl
  | reconnect hattempts => exact h.same rfl rfl rfl rfl rfl
  | closeDevice =>
    unfold SandboxMonitor.closeDevice
    split
    · exact h
    · exact h.same rfl rfl rfl rfl rfl
  | read hs answers => exact Ledger.queueResponses _ (hparsed _ _) _ hkeeps
  | forward hs hidle hqueue hret => exact (hsocket _).handed hqueue
  | forwardFails hs hidle hqueue hret => exact (hsocket _).dropSocketChannel hkeeps hstate
  | strip hs hqueue hresponse hbody => exact h.strip hK hqueue hresponse hbody
  | discard hs hqueue hevent hbody => exact h.discard hK hqueue hevent hbody
  | queueEvent eventId json hway => exact (hdeliver _ _).push _ hkeeps
  | sendEvent eventId json hs hidle hqueue hret =>
    exact (hsends eventId json _).createEvent hqueue eventId json
  | @sendEventFails s eventId json hs hidle hqueue hret =>
    obtain ⟨ops, hops⟩ := dropSocketChannel_trace (((m.deliver eventId json).withSocket
      (s.sendMessage SOCKET_MSG_EVENT_REPORT json m.world.sends)).pushEventReport eventId true json)
    exact ((hsends eventId json _).push _ (hkeeps.of_trace hops)).dropSocketChannel hkeeps hstate
  | drop hs => exact h.dropSocketChannel hkeeps hstate
  | degrade => exact absurd rfl hstate

theorem ofConfig_ledger (config : MonitorConfig) : Ledger K (ofConfig config) :=
  ⟨⟨rfl, Nat.zero_le _⟩, rfl⟩

/-- The ledger of a run that has not degraded. -/
theorem run_ledger (hK : Tracks K) (config : MonitorConfig) (waits : List WaitResult)
    (rs : List (Round Group)) (hkeeps : Keeps K (run X config waits rs).1)
    (hstate : (run X config waits rs).1.state ≠ .DEGRADED) :
    Ledger K (run X config waits rs).1 := by
  refine run_induction (X := X)
    (P := fun m => Keeps K m → m.state ≠ .DEGRADED → Ledger K m) config waits rs
    (fun _ _ => ofConfig_ledger config) ?_ hkeeps hstate
  intro m m' hmoves ih hmove hkeeps hstate
  obtain ⟨ops, hops⟩ := hmove.trace
  have hconsistent := ((ofConfig_consistent config).moves hmoves).1
  refine (ih (hkeeps.of_trace hops) fun hd => ?_).move hK hmove hkeeps hstate
  exact hstate (hconsistent.move_degraded hmove hd)

end

end SandboxMonitor

end SandboxManager.Claw
