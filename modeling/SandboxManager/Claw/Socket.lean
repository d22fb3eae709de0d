import SandboxManager.Claw.Receive

/-! `SandboxSocket` and its transmit half (`sandbox_socket.cpp`).

A message goes out as one frame. The frame is appended to a buffer and sent as far as the
kernel takes it; what is left waits for the socket to become writable. `Transmits` says
what the buffer and the bytes already sent have to do with the frames that were
accepted, and `received_wire` what the peer can read of them. -/
namespace SandboxManager.Claw

/-! ### The socket -/

/-- The members of a socket. Three further fields are no members of the class but its
connection: the bytes that have arrived and are not read, those the kernel has taken, and
the messages that were accepted for sending. -/
structure SandboxSocket where
  reader : SocketReader
  txBuffer : Bytes
  txOffset : Nat
  incoming : Bytes
  wire : Bytes
  accepted : List Frame
deriving DecidableEq, Repr

/-- What one call of `send` comes to. -/
inductive SendResult where
  | sent (n : Nat)
  | interrupted
  | again
  | closed
  | failed
deriving DecidableEq, Repr

namespace SandboxSocket

/-- A socket on a fresh connection. -/
def create : SandboxSocket where
  reader := SocketReader.create
  txBuffer := []
  txOffset := 0
  incoming := []
  wire := []
  accepted := []

/-- `OnReadable` after `arrived` has come in, with the messages it hands out. -/
def onReadable (s : SandboxSocket) (arrived : Bytes) (reads : List ReadResult) :
    SandboxSocket × List ParsedMessage × SandboxError :=
  let out := s.reader.onReadable (s.incoming ++ arrived) reads
  ({ s with reader := out.reader, incoming := out.incoming }, out.messages, out.result)

def hasPendingTxData (s : SandboxSocket) : Bool := s.txOffset < s.txBuffer.length

/-- The bytes still to be sent. -/
def pending (s : SandboxSocket) : Bytes := s.txBuffer.drop s.txOffset

/-- The kernel takes `n` bytes, or all there are. -/
def advance (s : SandboxSocket) (n : Nat) : SandboxSocket :=
  { s with
    txOffset := s.txOffset + min n s.pending.length
    wire := s.wire ++ s.pending.take n }

/-- `FlushTxBuffer`, given what the coming calls of `send` answer; when the answers run
out the kernel is full. What is left of the answers is returned. -/
def flushTxBuffer (s : SandboxSocket) (answers : List SendResult) :
    SandboxSocket × SandboxError × List SendResult :=
  if s.hasPendingTxData then
    match answers with
    | [] => (s, .SUCCESS, [])
    | .sent n :: rest =>
      if n = 0 then (s, SandboxError.ERR_SOCKET_IO, rest) else flushTxBuffer (s.advance n) rest
    | .interrupted :: rest => flushTxBuffer s rest
    | .again :: rest => (s, .SUCCESS, rest)
    | .closed :: rest => (s, .ERR_SOCKET_CLOSED, rest)
    | .failed :: rest => (s, SandboxError.ERR_SOCKET_IO, rest)
  else ({ s with txBuffer := [], txOffset := 0 }, .SUCCESS, answers)

def compactTxBuffer (s : SandboxSocket) (appendLength : Nat) : SandboxSocket :=
  if s.txOffset = 0 ∨ s.txBuffer.length ≤ MAX_TX_BUFFER_SIZE - appendLength then s
  else { s with txBuffer := s.txBuffer.drop s.txOffset, txOffset := 0 }

def queueMessage (s : SandboxSocket) (msgType : UInt32) (body : Bytes) (requestId : UInt32)
    (result : Int32) (answers : List SendResult) :
    SandboxSocket × SandboxError × List SendResult :=
  if MAX_BODY_LENGTH < body.length then (s, .ERR_SOCKET_MSG_TOO_LARGE, answers)
  else
    let messageLength := SOCKET_HEADER_LENGTH + body.length
    let pendingLength := s.txBuffer.length - s.txOffset
    if MAX_TX_BUFFER_SIZE < messageLength ∨ MAX_TX_BUFFER_SIZE - messageLength < pendingLength then
      (s, .ERR_SOCKET_TX_FULL, answers)
    else
      let frame : Frame := ⟨msgType, requestId, result, body⟩
      let s := s.compactTxBuffer messageLength
      let (s, ret, answers) :=
        flushTxBuffer { s with txBuffer := s.txBuffer ++ frame.encode } answers
      -- Success is what the header calls accepted for sending.
      (if ret = .SUCCESS then { s with accepted := s.accepted ++ [frame] } else s, ret, answers)

def sendMessage (s : SandboxSocket) (msgType : UInt32) (body : Bytes)
    (answers : List SendResult) : SandboxSocket × SandboxError × List SendResult :=
  s.queueMessage msgType body 0 0 answers

def sendResponse (s : SandboxSocket) (requestId : UInt32) (result : Int32) (body : Bytes)
    (answers : List SendResult) : SandboxSocket × SandboxError × List SendResult :=
  s.queueMessage SOCKET_MSG_RESPONSE body requestId result answers

def onWritable (s : SandboxSocket) (answers : List SendResult) :
    SandboxSocket × SandboxError × List SendResult :=
  s.flushTxBuffer answers

/-! ### Flushing -/

@[simp] theorem pending_create : create.pending = [] := rfl

theorem hasPendingTxData_eq (s : SandboxSocket) : s.hasPendingTxData = !s.pending.isEmpty := by
  unfold hasPendingTxData pending
  rw [Bool.eq_iff_iff]
  simp

theorem hasPendingTxData_eq_false (s : SandboxSocket) :
    s.hasPendingTxData = false ↔ s.pending = [] := by
  simp [hasPendingTxData_eq]

/-- What a flush does: bytes move from the buffer to the wire, in order, and a failure
leaves some behind. -/
structure Flushes (s s' : SandboxSocket) (ret : SandboxError) : Prop where
  stream : s'.wire ++ s'.pending = s.wire ++ s.pending
  wire : s.wire <+: s'.wire
  accepted : s'.accepted = s.accepted
  offset : s'.txOffset ≤ s'.txBuffer.length
  result : ret = .SUCCESS ∨
    (ret = .ERR_SOCKET_CLOSED ∨ ret = SandboxError.ERR_SOCKET_IO) ∧ s'.pending ≠ []

theorem Flushes.trans {s s' s'' : SandboxSocket} {ret : SandboxError}
    (hstream : s'.wire ++ s'.pending = s.wire ++ s.pending) (hwire : s.wire <+: s'.wire)
    (haccepted : s'.accepted = s.accepted) (h : Flushes s' s'' ret) : Flushes s s'' ret :=
  ⟨h.stream.trans hstream, hwire.trans h.wire, h.accepted.trans haccepted, h.offset, h.result⟩

theorem advance_stream (s : SandboxSocket) (n : Nat) :
    (s.advance n).wire ++ (s.advance n).pending = s.wire ++ s.pending := by
  have hpending : (s.advance n).pending = s.pending.drop n := by
    show s.txBuffer.drop (s.txOffset + min n s.pending.length) = _
    rw [← List.drop_drop]
    show s.pending.drop (min n s.pending.length) = _
    rcases Nat.le_total n s.pending.length with h | h
    · rw [Nat.min_eq_left h]
    · rw [Nat.min_eq_right h, List.drop_length, List.drop_eq_nil_of_le h]
  rw [hpending]
  show s.wire ++ s.pending.take n ++ s.pending.drop n = _
  rw [List.append_assoc, List.take_append_drop]

theorem advance_offset {s : SandboxSocket} (h : s.txOffset ≤ s.txBuffer.length) (n : Nat) :
    (s.advance n).txOffset ≤ (s.advance n).txBuffer.length := by
  have hlen : s.pending.length = s.txBuffer.length - s.txOffset := List.length_drop
  show s.txOffset + min n s.pending.length ≤ s.txBuffer.length
  omega

/-- A flush that stops with something pending moves nothing. -/
theorem flushes_self {s : SandboxSocket} {ret : SandboxError} (h : s.txOffset ≤ s.txBuffer.length)
    (hp : s.hasPendingTxData = true)
    (hret : ret = .SUCCESS ∨ ret = .ERR_SOCKET_CLOSED ∨ ret = SandboxError.ERR_SOCKET_IO) :
    Flushes s s ret := by
  have hpending : s.pending ≠ [] := by
    intro hnil
    rw [(hasPendingTxData_eq_false s).mpr hnil] at hp
    cases hp
  exact ⟨rfl, List.prefix_refl _, rfl, h, hret.imp_right fun hret => ⟨hret, hpending⟩⟩

/-- With nothing pending the buffer is cleared. -/
theorem flushes_cleared {s : SandboxSocket} (hp : ¬ s.hasPendingTxData = true) :
    Flushes s { s with txBuffer := [], txOffset := 0 } .SUCCESS := by
  have hnil := (hasPendingTxData_eq_false s).mp (Bool.not_eq_true _ ▸ hp)
  exact ⟨by rw [hnil]; rfl, List.prefix_refl _, rfl, Nat.le_refl 0, .inl rfl⟩

theorem flushTxBuffer_spec (answers : List SendResult) {s : SandboxSocket}
    (h : s.txOffset ≤ s.txBuffer.length) :
    Flushes s (s.flushTxBuffer answers).1 (s.flushTxBuffer answers).2.1 := by
  induction answers generalizing s with
  | nil =>
    unfold flushTxBuffer
    by_cases hp : s.hasPendingTxData = true
    · rw [if_pos hp]
      exact flushes_self h hp (.inl rfl)
    · rw [if_neg hp]
      exact flushes_cleared hp
  | cons answer rest ih =>
    unfold flushTxBuffer
    by_cases hp : s.hasPendingTxData = true
    · rw [if_pos hp]
      cases answer with
      | sent n =>
        by_cases hn : n = 0
        · simp only [hn, if_true]
          exact flushes_self h hp (.inr (.inr rfl))
        · simp only [hn, if_false]
          exact Flushes.trans (advance_stream s n) ⟨_, rfl⟩ rfl (ih (advance_offset h n))
      | interrupted => exact ih h
      | again => exact flushes_self h hp (.inl rfl)
      | closed => exact flushes_self h hp (.inr (.inl rfl))
      | failed => exact flushes_self h hp (.inr (.inr rfl))
    · rw [if_neg hp]
      exact flushes_cleared hp

/-! ### Accepted messages -/

/-- What the buffer and the wire hold between them: the accepted messages in order, all
but the last of them sent completely. -/
structure Transmits (s : SandboxSocket) : Prop where
  offset : s.txOffset ≤ s.txBuffer.length
  bodies : ∀ f ∈ s.accepted, f.body.length ≤ MAX_BODY_LENGTH
  stream : s.wire ++ s.pending = encodeAll s.accepted
  sent : encodeAll s.accepted.dropLast <+: s.wire

theorem transmits_create : Transmits create :=
  ⟨Nat.le_refl 0, fun _ hf => absurd hf List.not_mem_nil, rfl, List.nil_prefix⟩

theorem Transmits.flush {s s' : SandboxSocket} {ret : SandboxError} (h : Transmits s)
    (hf : Flushes s s' ret) : Transmits s' where
  offset := hf.offset
  bodies := hf.accepted ▸ h.bodies
  stream := by rw [hf.stream, hf.accepted, h.stream]
  sent := hf.accepted ▸ h.sent.trans hf.wire

/-- With nothing pending the peer has received every accepted message. -/
theorem Transmits.received_wire {s : SandboxSocket} (h : Transmits s) (hp : s.pending = []) :
    received s.wire = s.accepted := by
  have hstream := h.stream
  rw [hp, List.append_nil] at hstream
  have hall := received_encodeAll h.bodies []
  rw [List.append_nil, ← hstream] at hall
  rw [hall, received_nil, List.append_nil]

/-- With something pending it is the last accepted message that is incomplete. -/
theorem Transmits.received_wire_pending {s : SandboxSocket} (h : Transmits s)
    (hp : s.pending ≠ []) : received s.wire = s.accepted.dropLast := by
  have hne : s.accepted ≠ [] := by
    intro hnil
    have hstream := h.stream
    rw [hnil] at hstream
    exact hp (List.append_eq_nil_iff.mp hstream).2
  obtain ⟨sent, hsent⟩ := h.sent
  have hlast : (s.accepted.getLast hne).encode = sent ++ s.pending := by
    have hstream := h.stream
    rw [← hsent, ← List.dropLast_concat_getLast hne, encodeAll_append, encodeAll_singleton,
      List.dropLast_concat, List.append_assoc] at hstream
    exact (List.append_cancel_left hstream).symm
  have hbodies : ∀ f ∈ s.accepted.dropLast, f.body.length ≤ MAX_BODY_LENGTH :=
    fun f hf => h.bodies f (List.dropLast_subset _ hf)
  rw [← hsent, received_encodeAll hbodies,
    received_partial (h.bodies _ (List.getLast_mem hne)) hlast hp, List.append_nil]

/-- The accepted messages the peer has not received completely. -/
def inFlight (s : SandboxSocket) : List Frame := s.accepted.drop (received s.wire).length

theorem Transmits.received_append_inFlight {s : SandboxSocket} (h : Transmits s) :
    received s.wire ++ s.inFlight = s.accepted := by
  have hprefix : received s.wire <+: s.accepted := by
    by_cases hp : s.pending = []
    · rw [h.received_wire hp]
    · rw [h.received_wire_pending hp]
      exact List.dropLast_prefix _
  obtain ⟨rest, hrest⟩ := hprefix
  unfold inFlight
  rw [← hrest, List.drop_left]

/-! ### Sending -/

theorem queueMessage_tooLarge {body : Bytes} (h : MAX_BODY_LENGTH < body.length)
    (s : SandboxSocket) (msgType requestId : UInt32) (result : Int32) (answers : List SendResult) :
    s.queueMessage msgType body requestId result answers =
      (s, .ERR_SOCKET_MSG_TOO_LARGE, answers) := by
  rw [queueMessage, if_pos h]

/-- What is not refused for its size fits a frame. -/
theorem length_le_of_queueMessage {s : SandboxSocket} {msgType requestId : UInt32} {result : Int32}
    {body : Bytes} {answers : List SendResult}
    (hret : (s.queueMessage msgType body requestId result answers).2.1 ≠
      .ERR_SOCKET_MSG_TOO_LARGE) : body.length ≤ MAX_BODY_LENGTH := by
  by_contra hlarge
  rw [queueMessage_tooLarge (Nat.not_le.mp hlarge)] at hret
  exact hret rfl

/-- A flush reports success or a failed channel. -/
theorem flushTxBuffer_result (answers : List SendResult) (s : SandboxSocket) :
    (s.flushTxBuffer answers).2.1 = .SUCCESS ∨ (s.flushTxBuffer answers).2.1 = .ERR_SOCKET_CLOSED ∨
      (s.flushTxBuffer answers).2.1 = SandboxError.ERR_SOCKET_IO := by
  induction answers generalizing s with
  | nil =>
    unfold flushTxBuffer
    split <;> exact .inl rfl
  | cons answer rest ih =>
    unfold flushTxBuffer
    by_cases hp : s.hasPendingTxData = true
    · rw [if_pos hp]
      cases answer with
      | sent n =>
        by_cases hn : n = 0
        · simp [hn]
        · simp only [hn, if_false]
          exact ih _
      | interrupted => exact ih s
      | again => exact .inl rfl
      | closed => exact .inr (.inl rfl)
      | failed => exact .inr (.inr rfl)
    · rw [if_neg hp]
      exact .inl rfl

/-- Only the size of the body makes a message too large. -/
theorem queueMessage_eq_tooLarge {s : SandboxSocket} {msgType requestId : UInt32} {result : Int32}
    {body : Bytes} {answers : List SendResult}
    (h : (s.queueMessage msgType body requestId result answers).2.1 = .ERR_SOCKET_MSG_TOO_LARGE) :
    MAX_BODY_LENGTH < body.length := by
  by_contra hbody
  rw [queueMessage, if_neg hbody] at h
  dsimp only at h
  split at h
  · cases h
  · generalize (SandboxSocket.mk _ ((s.compactTxBuffer (SOCKET_HEADER_LENGTH + body.length)).txBuffer ++
      Frame.encode ⟨msgType, requestId, result, body⟩) _ _ _ _) = s' at h
    have hret := flushTxBuffer_result answers s'
    rw [h] at hret
    simp at hret

/-- Compaction forgets only what has been sent. -/
theorem compactTxBuffer_pending (s : SandboxSocket) (n : Nat) :
    (s.compactTxBuffer n).pending = s.pending := by
  unfold compactTxBuffer
  by_cases h : s.txOffset = 0 ∨ s.txBuffer.length ≤ MAX_TX_BUFFER_SIZE - n
  · rw [if_pos h]
  · rw [if_neg h]
    rfl

theorem compactTxBuffer_offset {s : SandboxSocket} (h : s.txOffset ≤ s.txBuffer.length) (n : Nat) :
    (s.compactTxBuffer n).txOffset ≤ (s.compactTxBuffer n).txBuffer.length := by
  unfold compactTxBuffer
  by_cases hc : s.txOffset = 0 ∨ s.txBuffer.length ≤ MAX_TX_BUFFER_SIZE - n
  · rw [if_pos hc]
    exact h
  · rw [if_neg hc]
    exact Nat.zero_le _

@[simp] theorem compactTxBuffer_wire (s : SandboxSocket) (n : Nat) :
    (s.compactTxBuffer n).wire = s.wire := by
  unfold compactTxBuffer
  split <;> rfl

@[simp] theorem compactTxBuffer_accepted (s : SandboxSocket) (n : Nat) :
    (s.compactTxBuffer n).accepted = s.accepted := by
  unfold compactTxBuffer
  split <;> rfl

/-- The buffer as it is flushed, with a message behind what was pending. -/
def staged (s : SandboxSocket) (frame : Frame) : SandboxSocket :=
  { s.compactTxBuffer frame.encode.length with
    txBuffer := (s.compactTxBuffer frame.encode.length).txBuffer ++ frame.encode }

@[simp] theorem staged_wire (s : SandboxSocket) (frame : Frame) : (s.staged frame).wire = s.wire :=
  s.compactTxBuffer_wire _

@[simp] theorem staged_accepted (s : SandboxSocket) (frame : Frame) :
    (s.staged frame).accepted = s.accepted := s.compactTxBuffer_accepted _

theorem staged_offset {s : SandboxSocket} (h : s.txOffset ≤ s.txBuffer.length) (frame : Frame) :
    (s.staged frame).txOffset ≤ (s.staged frame).txBuffer.length := by
  have hoffset := compactTxBuffer_offset h frame.encode.length
  rw [staged, List.length_append]
  exact Nat.le_trans hoffset (Nat.le_add_right _ _)

theorem staged_pending {s : SandboxSocket} (h : s.txOffset ≤ s.txBuffer.length) (frame : Frame) :
    (s.staged frame).pending = s.pending ++ frame.encode := by
  have hoffset := compactTxBuffer_offset h frame.encode.length
  rw [← s.compactTxBuffer_pending frame.encode.length]
  exact List.drop_append_of_le_length hoffset

/-- A message there is room for is staged and flushed, and accepted if that succeeds. -/
theorem queueMessage_staged {s : SandboxSocket} {msgType requestId : UInt32} {result : Int32}
    {body : Bytes} (hbody : body.length ≤ MAX_BODY_LENGTH)
    (hroom : ¬ (MAX_TX_BUFFER_SIZE < SOCKET_HEADER_LENGTH + body.length ∨
      MAX_TX_BUFFER_SIZE - (SOCKET_HEADER_LENGTH + body.length) < s.txBuffer.length - s.txOffset))
    (answers : List SendResult) {s' : SandboxSocket} {ret : SandboxError} {rest : List SendResult}
    (hflush : (s.staged ⟨msgType, requestId, result, body⟩).flushTxBuffer answers = (s', ret, rest)) :
    s.queueMessage msgType body requestId result answers =
      (if ret = .SUCCESS then
        { s' with accepted := s'.accepted ++ [⟨msgType, requestId, result, body⟩] } else s',
        ret, rest) := by
  have hlength := Frame.length_encode ⟨msgType, requestId, result, body⟩
  rw [staged, hlength] at hflush
  rw [queueMessage, if_neg (Nat.not_lt.mpr hbody), if_neg hroom]
  dsimp only
  rw [hflush]

/-- What became of a message handed to an idle socket: it was accepted, or the channel
failed before the peer received it. -/
inductive Sends (s s' : SandboxSocket) (frame : Frame) : SandboxError → Prop where
  | accepted : Transmits s' → s'.accepted = s.accepted ++ [frame] → Sends s s' frame .SUCCESS
  | failed {ret : SandboxError} : ret = .ERR_SOCKET_CLOSED ∨ ret = SandboxError.ERR_SOCKET_IO →
      s'.accepted = s.accepted → received s'.wire = s'.accepted → Sends s s' frame ret

/-- **An idle socket takes every message of legal size**: it is never full, and a message
it fails on has not reached the peer. -/
theorem queueMessage_spec {s : SandboxSocket} (h : Transmits s) (hp : s.pending = [])
    (msgType requestId : UInt32) (result : Int32) {body : Bytes}
    (hbody : body.length ≤ MAX_BODY_LENGTH) (answers : List SendResult) :
    Sends s (s.queueMessage msgType body requestId result answers).1
      ⟨msgType, requestId, result, body⟩
      (s.queueMessage msgType body requestId result answers).2.1 := by
  have hroom : ¬ (MAX_TX_BUFFER_SIZE < SOCKET_HEADER_LENGTH + body.length ∨
      MAX_TX_BUFFER_SIZE - (SOCKET_HEADER_LENGTH + body.length) <
        s.txBuffer.length - s.txOffset) := by
    have hidle : s.txBuffer.length ≤ s.txOffset := List.drop_eq_nil_iff.mp hp
    unfold MAX_TX_BUFFER_SIZE
    omega
  have hwire : s.wire = encodeAll s.accepted := by rw [← h.stream, hp, List.append_nil]
  obtain ⟨s', ret, rest, hout⟩ : ∃ s' ret rest,
      (s.staged ⟨msgType, requestId, result, body⟩).flushTxBuffer answers = (s', ret, rest) :=
    ⟨_, _, _, rfl⟩
  rw [queueMessage_staged hbody hroom answers hout]
  generalize hframe : (⟨msgType, requestId, result, body⟩ : Frame) = frame at hout ⊢
  have hbody' : frame.body.length ≤ MAX_BODY_LENGTH := hframe ▸ hbody
  have hflush := flushTxBuffer_spec answers (staged_offset h.offset frame)
  rw [hout] at hflush
  have haccepted : s'.accepted = s.accepted := hflush.accepted.trans (staged_accepted s frame)
  have hstream : s'.wire ++ s'.pending = encodeAll s.accepted ++ frame.encode := by
    rw [hflush.stream, staged_pending h.offset, hp, staged_wire, hwire, List.nil_append]
  have hprefix : encodeAll s.accepted <+: s'.wire := by
    have hkept := hflush.wire
    rwa [staged_wire, hwire] at hkept
  by_cases hret : ret = .SUCCESS
  · subst hret
    rw [if_pos rfl]
    refine .accepted ⟨hflush.offset, ?_, ?_, ?_⟩ (congrArg (· ++ [frame]) haccepted)
    · intro f hf
      have hmem : f ∈ s'.accepted ++ [frame] := hf
      rw [haccepted, List.mem_append, List.mem_singleton] at hmem
      rcases hmem with hf | rfl
      · exact h.bodies f hf
      · exact hbody'
    · show s'.wire ++ s'.pending = encodeAll (s'.accepted ++ [frame])
      rw [hstream, haccepted, encodeAll_append, encodeAll_singleton]
    · show encodeAll (s'.accepted ++ [frame]).dropLast <+: s'.wire
      rw [List.dropLast_concat, haccepted]
      exact hprefix
  · -- what is still pending belongs to the message, so the peer has not received it
    obtain ⟨hret', hpend⟩ := hflush.result.resolve_left hret
    rw [if_neg hret]
    refine .failed hret' haccepted ?_
    obtain ⟨sent, hsent⟩ := hprefix
    have hsplit : frame.encode = sent ++ s'.pending := by
      rw [← hsent, List.append_assoc] at hstream
      exact (List.append_cancel_left hstream).symm
    rw [← hsent, received_encodeAll h.bodies, received_partial hbody' hsplit hpend,
      List.append_nil, haccepted]

end SandboxSocket

end SandboxManager.Claw
