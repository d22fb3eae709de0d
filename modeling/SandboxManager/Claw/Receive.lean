import SandboxManager.Claw.Wire

/-! The receive half of `SandboxSocket` (`sandbox_socket.cpp`).

A reader takes bytes as the kernel hands them over and is in one of three states: inside a
header, inside a body, or draining a body over its limit. `parse` is what a stream means,
read off at once; `onReadable_reference` says that the reader finds exactly that, however
the stream is cut up. -/
namespace SandboxManager.Claw
open Library

def MAX_POLICY_JSON_LENGTH : Nat := 102400
def MAX_EVENT_ANSWER_JSON_LENGTH : Nat := 256
def DISCARD_CHUNK_SIZE : Nat := 4096

/-- A frame the socket layer read. With a reason to reject it the body is empty. -/
structure ParsedMessage where
  header : MessageHeader
  body : Bytes
  rejectReason : SandboxError := .SUCCESS
deriving DecidableEq, Repr

inductive ReadStep where
  | PROGRESSED
  | DRAINED
  | FAILED
deriving DecidableEq, Repr

inductive SocketReadState where
  | READING_HEADER
  | READING_BODY
  | DISCARDING_BODY
deriving DecidableEq, Repr

/-- The receive members of a socket; `currentHeader` is the struct as raw memory. -/
structure SocketReader where
  readState : SocketReadState
  currentHeader : Bytes
  headerBytesRead : Nat
  currentBodyBuffer : Bytes
  bodyBytesRead : Nat
  bodyBytesToDiscard : Nat
  readError : SandboxError
deriving DecidableEq, Repr

/-- What one call of `read` comes to: up to `n` bytes, or one of the ways to get none. -/
inductive ReadResult where
  | bytes (n : Nat)
  | eof
  | interrupted
  | again
  | failed
deriving DecidableEq, Repr

def maxBodyLengthForType (msgType : UInt32) : Nat :=
  if msgType = SOCKET_MSG_ADD_POLICY then MAX_POLICY_JSON_LENGTH
  else if msgType = SOCKET_MSG_EVENT_ANSWER then MAX_EVENT_ANSWER_JSON_LENGTH
  else MAX_BODY_LENGTH

/-- Memory with a chunk written at an offset. -/
def overwrite (memory : Bytes) (offset : Nat) (chunk : Bytes) : Bytes :=
  memory.take offset ++ chunk ++ memory.drop (offset + chunk.length)

namespace SocketReader

def create : SocketReader where
  readState := .READING_HEADER
  currentHeader := List.replicate SOCKET_HEADER_LENGTH 0
  headerBytesRead := 0
  currentBodyBuffer := []
  bodyBytesRead := 0
  bodyBytesToDiscard := 0
  readError := .SUCCESS

/-- The fields of `currentHeader_`. -/
def header (r : SocketReader) : MessageHeader := MessageHeader.decode r.currentHeader

def resetReadState (r : SocketReader) : SocketReader :=
  { create with readError := r.readError }

/-- What a step leaves: the reader, the bytes not yet read, the messages it put out, and
how it went. -/
structure Outcome (Result : Type) where
  reader : SocketReader
  incoming : Bytes
  messages : List ParsedMessage
  result : Result

/-- `read(fd_, dest, count)` and the way all three stages deal with it: `got` handles the
bytes, and what got none is sorted by its errno. A read of no bytes, or at the end of the
stream, returns zero; when nothing has arrived it would block. -/
def readWith (r : SocketReader) (incoming : Bytes) (count : Nat) (answer : ReadResult)
    (got : Bytes → SocketReader × List ParsedMessage × ReadStep) : Outcome ReadStep :=
  match answer with
  | .bytes n =>
    let chunk := incoming.take (min n count)
    if count = 0 then ⟨{ r with readError := .ERR_SOCKET_CLOSED }, incoming, [], .FAILED⟩
    else if chunk = [] then ⟨r, incoming, [], .DRAINED⟩
    else
      let (reader, messages, step) := got chunk
      ⟨reader, incoming.drop (min n count), messages, step⟩
  | .eof => ⟨{ r with readError := .ERR_SOCKET_CLOSED }, incoming, [], .FAILED⟩
  | .interrupted => ⟨r, incoming, [], .PROGRESSED⟩
  | .again => ⟨r, incoming, [], .DRAINED⟩
  | .failed => ⟨{ r with readError := SandboxError.ERR_SOCKET_IO }, incoming, [], .FAILED⟩

def validateProtocol (r : SocketReader) : SandboxError :=
  if r.header.magic ≠ SANDBOX_SOCKET_MAGIC then .ERR_SOCKET_PROTOCOL
  else if r.header.version ≠ SANDBOX_SOCKET_VERSION then .ERR_SOCKET_PROTOCOL
  else .SUCCESS

def validateBodyLength (r : SocketReader) : SandboxError :=
  if maxBodyLengthForType r.header.msgType < r.header.bodyLength.toNat then
    .ERR_SOCKET_MSG_TOO_LARGE
  else .SUCCESS

/-- The part of `ProcessHeader` behind the check of the protocol. -/
def headerTrusted (r : SocketReader) : SocketReader × List ParsedMessage × ReadStep :=
  if r.validateBodyLength ≠ .SUCCESS then
    ({ r with
      bodyBytesToDiscard := r.header.bodyLength.toNat
      readState := .DISCARDING_BODY }, [], .PROGRESSED)
  else if r.header.bodyLength = 0 then
    (r.resetReadState, [{ header := r.header, body := [] }], .PROGRESSED)
  else
    ({ r with
      currentBodyBuffer := List.replicate r.header.bodyLength.toNat 0
      bodyBytesRead := 0
      readState := .READING_BODY }, [], .PROGRESSED)

/-- The part behind the last byte of the header. -/
def headerComplete (r : SocketReader) : SocketReader × List ParsedMessage × ReadStep :=
  let r := { r with readError := r.validateProtocol }
  if r.readError ≠ .SUCCESS then (r, [], .FAILED) else r.headerTrusted

def processHeader (r : SocketReader) (incoming : Bytes) (answer : ReadResult) : Outcome ReadStep :=
  r.readWith incoming (SOCKET_HEADER_LENGTH - r.headerBytesRead) answer fun chunk =>
    let r := { r with
      currentHeader := overwrite r.currentHeader r.headerBytesRead chunk
      headerBytesRead := r.headerBytesRead + chunk.length }
    if r.headerBytesRead ≠ SOCKET_HEADER_LENGTH then (r, [], .PROGRESSED) else r.headerComplete

def processBody (r : SocketReader) (incoming : Bytes) (answer : ReadResult) : Outcome ReadStep :=
  r.readWith incoming (r.header.bodyLength.toNat - r.bodyBytesRead) answer fun chunk =>
    let r := { r with
      currentBodyBuffer := overwrite r.currentBodyBuffer r.bodyBytesRead chunk
      bodyBytesRead := r.bodyBytesRead + chunk.length }
    if r.bodyBytesRead ≠ r.header.bodyLength.toNat then (r, [], .PROGRESSED)
    else (r.resetReadState, [{ header := r.header, body := r.currentBodyBuffer }], .PROGRESSED)

def discardBody (r : SocketReader) (incoming : Bytes) (answer : ReadResult) : Outcome ReadStep :=
  r.readWith incoming (min r.bodyBytesToDiscard DISCARD_CHUNK_SIZE) answer fun chunk =>
    let r := { r with bodyBytesToDiscard := r.bodyBytesToDiscard - chunk.length }
    if r.bodyBytesToDiscard ≠ 0 then (r, [], .PROGRESSED)
    else (r.resetReadState,
      [{ header := r.header, body := [], rejectReason := .ERR_SOCKET_MSG_TOO_LARGE }], .PROGRESSED)

/-- One round of the loop in `OnReadable`. -/
def process (r : SocketReader) (incoming : Bytes) (answer : ReadResult) : Outcome ReadStep :=
  match r.readState with
  | .READING_HEADER => r.processHeader incoming answer
  | .READING_BODY => r.processBody incoming answer
  | .DISCARDING_BODY => r.discardBody incoming answer

/-- `OnReadable`, given the answers of the coming reads; when they run out the next read
would block. -/
def onReadable (r : SocketReader) (incoming : Bytes) : List ReadResult → Outcome SandboxError
  | [] => ⟨r, incoming, [], .SUCCESS⟩
  | answer :: rest =>
    let out := r.process incoming answer
    match out.result with
    | .PROGRESSED =>
      let later := onReadable out.reader out.incoming rest
      { later with messages := out.messages ++ later.messages }
    | .DRAINED => ⟨out.reader, out.incoming, out.messages, .SUCCESS⟩
    | .FAILED => ⟨out.reader, out.incoming, out.messages, out.reader.readError⟩

/-- One call of `OnReadable` after another, up to the first that fails. -/
def readCalls (r : SocketReader) (incoming : Bytes) : List (List ReadResult) → Outcome SandboxError
  | [] => ⟨r, incoming, [], .SUCCESS⟩
  | answers :: rest =>
    let out := r.onReadable incoming answers
    if out.result ≠ .SUCCESS then out
    else
      let later := readCalls out.reader out.incoming rest
      { later with messages := out.messages ++ later.messages }

end SocketReader

/-! ### What a stream means -/

/-- The header can be trusted. -/
def headerOk (frame : Bytes) : Bool :=
  (MessageHeader.decode frame).magic = SANDBOX_SOCKET_MAGIC &&
    (MessageHeader.decode frame).version = SANDBOX_SOCKET_VERSION

/-- What one whole frame is to the monitor: its header and its body, or its header and the
verdict that the body is over the limit of its type. -/
def messageOf (frame : Bytes) : ParsedMessage :=
  let header := MessageHeader.decode frame
  if maxBodyLengthForType header.msgType < header.bodyLength.toNat then
    { header := header, body := [], rejectReason := .ERR_SOCKET_MSG_TOO_LARGE }
  else { header := header, body := frame.drop SOCKET_HEADER_LENGTH }

/-- The frames in front of the first header that cannot be trusted. -/
def trusted (stream : Bytes) : List Bytes := (framing.split stream).takeWhile headerOk

/-- The messages of a stream. -/
def parse (stream : Bytes) : List ParsedMessage := (trusted stream).map messageOf

/-- Behind its messages the stream goes on with a header that cannot be trusted. -/
def breaksProtocol (stream : Bytes) : Prop :=
  SOCKET_HEADER_LENGTH ≤ (stream.drop (trusted stream).flatten.length).length ∧
    headerOk (stream.drop (trusted stream).flatten.length) = false

/-- Whole frames whose headers can be trusted. -/
def Good (frames : List Bytes) : Prop :=
  ∀ frame ∈ frames, framing.IsFrame frame ∧ headerOk frame = true

theorem good_nil : Good [] := fun _ h => absurd h List.not_mem_nil

theorem Good.append {a b : List Bytes} (ha : Good a) (hb : Good b) : Good (a ++ b) :=
  fun frame h => (List.mem_append.mp h).elim (ha frame) (hb frame)

theorem trusted_append {frames : List Bytes} (h : Good frames) (rest : Bytes) :
    trusted (frames.flatten ++ rest) = frames ++ trusted rest := by
  unfold trusted
  rw [Framing.split_flatten fun frame hf => (h frame hf).1,
    List.takeWhile_append_of_pos fun frame hf => (h frame hf).2]

theorem parse_append {frames : List Bytes} (h : Good frames) (rest : Bytes) :
    parse (frames.flatten ++ rest) = frames.map messageOf ++ parse rest := by
  unfold parse
  rw [trusted_append h, List.map_append]

/-! ### Headers as bytes -/

theorem decode_append {raw : Bytes} (h : raw.length = SOCKET_HEADER_LENGTH) (rest : Bytes) :
    MessageHeader.decode (raw ++ rest) = MessageHeader.decode raw := by
  have hcut : ∀ i n, i + n ≤ SOCKET_HEADER_LENGTH →
      ((raw ++ rest).drop i).take n = (raw.drop i).take n := by
    intro i n hin
    rw [List.drop_append_of_le_length (by omega), List.take_append_of_le_length (by
      rw [List.length_drop]
      omega)]
  have h₀ := hcut 0 4 (by decide)
  rw [List.drop_zero, List.drop_zero] at h₀
  unfold MessageHeader.decode
  rw [h₀, hcut 4 4 (by decide), hcut 8 4 (by decide), hcut 12 4 (by decide), hcut 16 4 (by decide),
    hcut 20 4 (by decide), hcut 24 16 (by decide)]

theorem headerOk_append {raw : Bytes} (h : raw.length = SOCKET_HEADER_LENGTH) (rest : Bytes) :
    headerOk (raw ++ rest) = headerOk raw := by
  unfold headerOk
  rw [decode_append h]

/-- A header and the body it announces. -/
theorem isFrame_of_header {raw body : Bytes} (h : raw.length = SOCKET_HEADER_LENGTH)
    (hbody : body.length = (MessageHeader.decode raw).bodyLength.toNat) :
    framing.IsFrame (raw ++ body) := by
  have htake : (raw ++ body).take SOCKET_HEADER_LENGTH = raw := by rw [← h, List.take_left]
  refine ⟨?_, ?_⟩
  · rw [List.length_append, h]
    exact Nat.le_add_right _ _
  · show SOCKET_HEADER_LENGTH +
      (MessageHeader.decode ((raw ++ body).take SOCKET_HEADER_LENGTH)).bodyLength.toNat = _
    rw [htake, List.length_append, h, hbody]

/-- A header that cannot be trusted ends what is trusted, whatever follows. -/
theorem trusted_of_not_headerOk {raw : Bytes} (h : raw.length = SOCKET_HEADER_LENGTH)
    (hbad : headerOk raw = false) (rest : Bytes) : trusted (raw ++ rest) = [] := by
  unfold trusted
  rw [Framing.split]
  by_cases hb : framing.Begins (raw ++ rest)
  · rw [if_pos hb, List.takeWhile_cons_of_neg]
    have hcut : (raw ++ rest).take (framing.frameLength (raw ++ rest)) =
        raw ++ rest.take (framing.frameLength (raw ++ rest) - SOCKET_HEADER_LENGTH) := by
      rw [List.take_append, h, List.take_of_length_le]
      rw [h]
      exact Nat.le_add_right _ _
    rw [hcut, headerOk_append h, hbad]
    exact Bool.false_ne_true
  · rw [if_neg hb]
    rfl

/-- Less than a frame holds none. -/
theorem trusted_of_short {raw body : Bytes} (h : raw.length = SOCKET_HEADER_LENGTH)
    (hbody : body.length < (MessageHeader.decode raw).bodyLength.toNat) :
    trusted (raw ++ body) = [] := by
  have hnot : ¬ framing.Begins (raw ++ body) := by
    intro hb
    have hlen : framing.frameLength (raw ++ body) ≤ (raw ++ body).length := hb.2
    have htake : (raw ++ body).take SOCKET_HEADER_LENGTH = raw := by rw [← h, List.take_left]
    have hframe : framing.frameLength (raw ++ body) =
        SOCKET_HEADER_LENGTH + (MessageHeader.decode raw).bodyLength.toNat := by
      show SOCKET_HEADER_LENGTH +
        (MessageHeader.decode ((raw ++ body).take SOCKET_HEADER_LENGTH)).bodyLength.toNat = _
      rw [htake]
    rw [hframe, List.length_append, h] at hlen
    omega
  unfold trusted
  rw [Framing.split_of_not_begins hnot]
  rfl

/-! ### The reader between two reads -/

theorem length_overwrite {memory chunk : Bytes} {offset : Nat}
    (h : offset + chunk.length ≤ memory.length) :
    (overwrite memory offset chunk).length = memory.length := by
  unfold overwrite
  simp only [List.length_append, List.length_take, List.length_drop]
  omega

theorem take_overwrite {memory chunk : Bytes} {offset : Nat}
    (h : offset + chunk.length ≤ memory.length) :
    (overwrite memory offset chunk).take (offset + chunk.length) = memory.take offset ++ chunk := by
  have hlen : (memory.take offset ++ chunk).length = offset + chunk.length := by
    rw [List.length_append, List.length_take]
    omega
  unfold overwrite
  rw [← hlen, List.take_left]

namespace SocketReader

/-- The reader is inside a message of which it has read `bytes`. -/
inductive Holds (r : SocketReader) : Bytes → Prop where
  | header : r.readState = .READING_HEADER → r.currentHeader.length = SOCKET_HEADER_LENGTH →
      r.headerBytesRead < SOCKET_HEADER_LENGTH → r.currentBodyBuffer = [] →
      Holds r (r.currentHeader.take r.headerBytesRead)
  | body : r.readState = .READING_BODY → r.currentHeader.length = SOCKET_HEADER_LENGTH →
      headerOk r.currentHeader = true →
      r.currentBodyBuffer.length = r.header.bodyLength.toNat →
      r.bodyBytesRead < r.header.bodyLength.toNat →
      r.header.bodyLength.toNat ≤ maxBodyLengthForType r.header.msgType →
      Holds r (r.currentHeader ++ r.currentBodyBuffer.take r.bodyBytesRead)
  | discard (drained : Bytes) : r.readState = .DISCARDING_BODY →
      r.currentHeader.length = SOCKET_HEADER_LENGTH → headerOk r.currentHeader = true →
      drained.length + r.bodyBytesToDiscard = r.header.bodyLength.toNat →
      0 < r.bodyBytesToDiscard →
      maxBodyLengthForType r.header.msgType < r.header.bodyLength.toNat →
      r.currentBodyBuffer = [] →
      Holds r (r.currentHeader ++ drained)

/-- Where a call leaves off: inside a message, or behind a header it could not trust. -/
inductive Ends (r : SocketReader) (ret : SandboxError) (rest : Bytes) : Prop where
  | waiting : ret ≠ .ERR_SOCKET_PROTOCOL → Holds r rest → Ends r ret rest
  | broken : ret = .ERR_SOCKET_PROTOCOL → rest.length = SOCKET_HEADER_LENGTH →
      headerOk rest = false → r.currentBodyBuffer = [] → Ends r ret rest

theorem holds_create : Holds create [] :=
  .header rfl (List.length_replicate ..) (by decide) rfl

theorem holds_reset (r : SocketReader) : Holds r.resetReadState [] :=
  .header rfl (List.length_replicate ..) (Nat.zero_lt_succ _) rfl

theorem Holds.withError {r : SocketReader} {p : Bytes} (h : Holds r p) (e : SandboxError) :
    Holds { r with readError := e } p := by
  cases h with
  | header hs hl hb hn => exact .header (r := { r with readError := e }) hs hl hb hn
  | body hs hl hok hb hr hm => exact .body (r := { r with readError := e }) hs hl hok hb hr hm
  | discard d hs hl hok hd h0 hm hn =>
    exact .discard (r := { r with readError := e }) d hs hl hok hd h0 hm hn

/-- What is held contains no complete message. -/
theorem Holds.trusted {r : SocketReader} {p : Bytes} (h : Holds r p) : trusted p = [] := by
  cases h with
  | header hs hl hb hn =>
    unfold Claw.trusted
    rw [Framing.split_short]
    · rfl
    · rw [List.length_take]
      exact Nat.lt_of_le_of_lt (Nat.min_le_left _ _) hb
  | body hs hl hok hb hr hm =>
    apply trusted_of_short hl
    rw [List.length_take]
    exact Nat.lt_of_le_of_lt (Nat.min_le_left _ _) hr
  | discard d hs hl hok hd h0 hm hn =>
    apply trusted_of_short hl
    show d.length < r.header.bodyLength.toNat
    omega

/-- A call that got bytes, and one that did not. -/
theorem readWith_cases {r : SocketReader} {count : Nat} (hcount : count ≠ 0) (incoming : Bytes)
    (answer : ReadResult) (got : Bytes → SocketReader × List ParsedMessage × ReadStep) :
    (∃ chunk, chunk.length ≤ count ∧
      incoming = chunk ++ (r.readWith incoming count answer got).incoming ∧
      got chunk = ((r.readWith incoming count answer got).reader,
        (r.readWith incoming count answer got).messages,
        (r.readWith incoming count answer got).result)) ∨
    ((r.readWith incoming count answer got).incoming = incoming ∧
      (r.readWith incoming count answer got).messages = [] ∧
      ((r.readWith incoming count answer got).result ≠ .FAILED ∧
        (r.readWith incoming count answer got).reader = r ∨
       (r.readWith incoming count answer got).result = .FAILED ∧
        ∃ e, e ≠ .ERR_SOCKET_PROTOCOL ∧
          (r.readWith incoming count answer got).reader = { r with readError := e })) := by
  cases answer with
  | bytes n =>
    unfold readWith
    simp only [hcount, if_false]
    by_cases hchunk : incoming.take (min n count) = []
    · right
      rw [if_pos hchunk]
      exact ⟨rfl, rfl, .inl ⟨ReadStep.noConfusion, rfl⟩⟩
    · left
      rw [if_neg hchunk]
      refine ⟨incoming.take (min n count), ?_, (List.take_append_drop _ _).symm, rfl⟩
      rw [List.length_take]
      omega
  | eof => exact .inr ⟨rfl, rfl, .inr ⟨rfl, _, SandboxError.noConfusion, rfl⟩⟩
  | interrupted => exact .inr ⟨rfl, rfl, .inl ⟨ReadStep.noConfusion, rfl⟩⟩
  | again => exact .inr ⟨rfl, rfl, .inl ⟨ReadStep.noConfusion, rfl⟩⟩
  | failed => exact .inr ⟨rfl, rfl, .inr ⟨rfl, _, SandboxError.noConfusion, rfl⟩⟩

/-- One round of the loop, behind the bytes `p`: the messages completed by `chunk` are put
out, and the reader holds on to the rest. -/
structure Step (p chunk : Bytes) (out : SocketReader × List ParsedMessage × ReadStep)
    (frames : List Bytes) (rest : Bytes) : Prop where
  cut : p ++ chunk = frames.flatten ++ rest
  good : Good frames
  messages : out.2.1 = frames.map messageOf
  ends : out.2.2 ≠ .FAILED ∧ Holds out.1 rest ∨
    out.2.2 = .FAILED ∧ Ends out.1 out.1.readError rest
  moved : chunk ≠ [] → out.2.2 = .PROGRESSED ∨
    out.2.2 = .FAILED ∧ out.1.readError = .ERR_SOCKET_PROTOCOL

/-- A round that completes no message. -/
theorem Step.hold {p chunk : Bytes} {r : SocketReader} (h : Holds r (p ++ chunk)) :
    Step p chunk (r, [], .PROGRESSED) [] (p ++ chunk) :=
  ⟨rfl, good_nil, rfl, .inl ⟨ReadStep.noConfusion, h⟩, fun _ => .inl rfl⟩

/-- A round that completes one. -/
theorem Step.emit {p chunk frame : Bytes} {r : SocketReader} {message : ParsedMessage}
    (hframe : framing.IsFrame frame) (hok : headerOk frame = true) (hp : p ++ chunk = frame)
    (hmessage : message = messageOf frame) :
    Step p chunk (r.resetReadState, [message], .PROGRESSED) [frame] [] where
  cut := by rw [hp, List.flatten_singleton, List.append_nil]
  good := fun f hf => by
    rw [List.mem_singleton.mp hf]
    exact ⟨hframe, hok⟩
  messages := by rw [hmessage, List.map_singleton]
  ends := .inl ⟨ReadStep.noConfusion, holds_reset r⟩
  moved := fun _ => .inl rfl

theorem validateProtocol_eq_success (r : SocketReader) :
    r.validateProtocol = .SUCCESS ↔ headerOk r.currentHeader = true := by
  unfold validateProtocol headerOk header
  by_cases hm : (MessageHeader.decode r.currentHeader).magic = SANDBOX_SOCKET_MAGIC <;>
    by_cases hv : (MessageHeader.decode r.currentHeader).version = SANDBOX_SOCKET_VERSION <;>
    simp [hm, hv]

theorem validateProtocol_ne_success {r : SocketReader} (h : r.validateProtocol ≠ .SUCCESS) :
    r.validateProtocol = .ERR_SOCKET_PROTOCOL := by
  unfold validateProtocol at h ⊢
  by_cases hm : r.header.magic = SANDBOX_SOCKET_MAGIC <;>
    by_cases hv : r.header.version = SANDBOX_SOCKET_VERSION <;> simp [hm, hv] at h ⊢

theorem validateBodyLength_eq_success (r : SocketReader) :
    r.validateBodyLength = .SUCCESS ↔
      r.header.bodyLength.toNat ≤ maxBodyLengthForType r.header.msgType := by
  unfold validateBodyLength
  by_cases h : maxBodyLengthForType r.header.msgType < r.header.bodyLength.toNat
  · simp [h]
  · simp [h, Nat.le_of_not_lt h]

/-- Behind a complete header of our protocol. -/
theorem step_headerTrusted {r : SocketReader} {p chunk : Bytes}
    (hl : r.currentHeader.length = SOCKET_HEADER_LENGTH) (hok : headerOk r.currentHeader = true)
    (hn : r.currentBodyBuffer = []) (hp : p ++ chunk = r.currentHeader) :
    ∃ frames rest, Step p chunk r.headerTrusted frames rest := by
  unfold headerTrusted
  by_cases hlen : r.validateBodyLength = .SUCCESS
  · rw [if_neg (not_not.mpr hlen)]
    have hmax := (validateBodyLength_eq_success r).mp hlen
    by_cases hzero : r.header.bodyLength = 0
    · rw [if_pos hzero]
      have hframe : framing.IsFrame (r.currentHeader ++ []) := by
        apply isFrame_of_header hl
        show 0 = r.header.bodyLength.toNat
        rw [hzero]
        rfl
      rw [List.append_nil] at hframe
      refine ⟨_, _, Step.emit hframe hok hp ?_⟩
      have hdrop : r.currentHeader.drop SOCKET_HEADER_LENGTH = [] := by
        rw [← hl, List.drop_length]
      show _ = if maxBodyLengthForType r.header.msgType < r.header.bodyLength.toNat then _ else _
      rw [if_neg (Nat.not_lt.mpr hmax), hdrop]
      rfl
    · rw [if_neg hzero]
      have hpos : 0 < r.header.bodyLength.toNat :=
        Nat.pos_of_ne_zero fun h0 => hzero (UInt32.toNat_inj.mp h0)
      refine ⟨_, _, Step.hold ?_⟩
      rw [hp]
      have hbody := Holds.body (r := { r with
        currentBodyBuffer := List.replicate r.header.bodyLength.toNat 0
        bodyBytesRead := 0
        readState := .READING_BODY }) rfl hl hok (List.length_replicate ..) hpos hmax
      rwa [List.take_zero, List.append_nil] at hbody
  · rw [if_pos hlen]
    have hmax : maxBodyLengthForType r.header.msgType < r.header.bodyLength.toNat :=
      Nat.lt_of_not_le fun h => hlen ((validateBodyLength_eq_success r).mpr h)
    refine ⟨_, _, Step.hold ?_⟩
    rw [hp]
    have hdiscard := Holds.discard (r := { r with
      bodyBytesToDiscard := r.header.bodyLength.toNat
      readState := .DISCARDING_BODY }) [] rfl hl hok (Nat.zero_add _)
      (Nat.zero_lt_of_lt hmax) hmax hn
    rwa [List.append_nil] at hdiscard

/-- Behind a complete header. -/
theorem step_headerComplete {r : SocketReader} {p chunk : Bytes}
    (hl : r.currentHeader.length = SOCKET_HEADER_LENGTH) (hn : r.currentBodyBuffer = [])
    (hp : p ++ chunk = r.currentHeader) : ∃ frames rest, Step p chunk r.headerComplete frames rest := by
  unfold headerComplete
  by_cases hok : r.validateProtocol = .SUCCESS
  · dsimp only
    rw [if_neg (not_not.mpr hok)]
    exact step_headerTrusted (r := { r with readError := r.validateProtocol }) hl
      ((validateProtocol_eq_success r).mp hok) hn hp
  · dsimp only
    rw [if_pos hok]
    have hret := validateProtocol_ne_success hok
    refine ⟨[], p ++ chunk, rfl, good_nil, rfl, .inr ⟨rfl, .broken hret ?_ ?_ hn⟩,
      fun _ => .inr ⟨rfl, hret⟩⟩
    · rw [hp, hl]
    · rw [hp]
      exact Bool.eq_false_iff.mpr fun h => hok ((validateProtocol_eq_success r).mpr h)

/-- The bytes a stage got, whatever the stage. -/
theorem step_got {r : SocketReader} {p incoming : Bytes} (h : Holds r p) {count : Nat}
    (hcount : count ≠ 0) (answer : ReadResult)
    {got : Bytes → SocketReader × List ParsedMessage × ReadStep}
    (hgot : ∀ chunk, chunk.length ≤ count → ∃ frames rest, Step p chunk (got chunk) frames rest) :
    ∃ chunk frames rest, incoming = chunk ++ (r.readWith incoming count answer got).incoming ∧
      Step p chunk ((r.readWith incoming count answer got).reader,
        (r.readWith incoming count answer got).messages,
        (r.readWith incoming count answer got).result) frames rest := by
  obtain ⟨chunk, hlen, hin, hout⟩ | ⟨hin, hmsg, hend⟩ := readWith_cases hcount incoming answer got
  · obtain ⟨frames, rest, hstep⟩ := hgot chunk hlen
    exact ⟨chunk, frames, rest, hin, hout ▸ hstep⟩
  · refine ⟨[], [], p, hin.symm, List.append_nil p, good_nil, hmsg, ?_, fun h => absurd rfl h⟩
    obtain ⟨hres, hr⟩ | ⟨hres, e, he, hr⟩ := hend
    · left
      refine ⟨hres, ?_⟩
      show Holds (r.readWith incoming count answer got).reader p
      rw [hr]
      exact h
    · right
      refine ⟨hres, ?_⟩
      show Ends (r.readWith incoming count answer got).reader
        (r.readWith incoming count answer got).reader.readError p
      rw [hr]
      exact .waiting he (h.withError e)

/-- A round takes a chunk of what has come in, and is a step with it. -/
def Steps (p incoming : Bytes) (out : Outcome ReadStep) : Prop :=
  ∃ chunk frames rest, incoming = chunk ++ out.incoming ∧
    Step p chunk (out.reader, out.messages, out.result) frames rest

theorem processHeader_step {r : SocketReader} (hs : r.readState = .READING_HEADER)
    (hl : r.currentHeader.length = SOCKET_HEADER_LENGTH)
    (hb : r.headerBytesRead < SOCKET_HEADER_LENGTH) (hn : r.currentBodyBuffer = [])
    (incoming : Bytes) (answer : ReadResult) :
    Steps (r.currentHeader.take r.headerBytesRead) incoming (r.processHeader incoming answer) := by
  apply step_got (.header hs hl hb hn) (by omega)
  intro chunk hlen
  have hfit : r.headerBytesRead + chunk.length ≤ r.currentHeader.length := by omega
  have htake := take_overwrite hfit
  by_cases hfull : r.headerBytesRead + chunk.length = SOCKET_HEADER_LENGTH
  · simp only [hfull, ne_eq, not_true_eq_false, if_false]
    apply step_headerComplete
      (r := { r with
        currentHeader := overwrite r.currentHeader r.headerBytesRead chunk
        headerBytesRead := SOCKET_HEADER_LENGTH })
      ((length_overwrite hfit).trans hl) hn
    rw [← htake, hfull, List.take_of_length_le]
    rw [length_overwrite hfit, hl]
  · simp only [hfull, ne_eq, not_false_eq_true, if_true]
    refine ⟨_, _, Step.hold ?_⟩
    rw [← htake]
    exact .header hs ((length_overwrite hfit).trans hl)
      (show r.headerBytesRead + chunk.length < SOCKET_HEADER_LENGTH by omega) hn

theorem processBody_step {r : SocketReader} (hs : r.readState = .READING_BODY)
    (hl : r.currentHeader.length = SOCKET_HEADER_LENGTH) (hok : headerOk r.currentHeader = true)
    (hb : r.currentBodyBuffer.length = r.header.bodyLength.toNat)
    (hr : r.bodyBytesRead < r.header.bodyLength.toNat)
    (hm : r.header.bodyLength.toNat ≤ maxBodyLengthForType r.header.msgType)
    (incoming : Bytes) (answer : ReadResult) :
    Steps (r.currentHeader ++ r.currentBodyBuffer.take r.bodyBytesRead) incoming
      (r.processBody incoming answer) := by
  apply step_got (.body hs hl hok hb hr hm) (by omega)
  intro chunk hlen
  have hfit : r.bodyBytesRead + chunk.length ≤ r.currentBodyBuffer.length := by omega
  have hcut : r.currentHeader ++ r.currentBodyBuffer.take r.bodyBytesRead ++ chunk =
      r.currentHeader ++ (overwrite r.currentBodyBuffer r.bodyBytesRead chunk).take
        (r.bodyBytesRead + chunk.length) := by
    rw [take_overwrite hfit, List.append_assoc]
  -- The header memory is not touched, so neither is the length it states.
  dsimp only
  split
  case isTrue hpart =>
    have hpart : r.bodyBytesRead + chunk.length ≠ r.header.bodyLength.toNat := hpart
    refine ⟨_, _, Step.hold ?_⟩
    rw [hcut]
    exact .body (r := { r with
        currentBodyBuffer := overwrite r.currentBodyBuffer r.bodyBytesRead chunk
        bodyBytesRead := r.bodyBytesRead + chunk.length })
      hs hl hok ((length_overwrite hfit).trans hb)
      (show r.bodyBytesRead + chunk.length < r.header.bodyLength.toNat by omega) hm
  case isFalse hfull =>
    have hfull : r.bodyBytesRead + chunk.length = r.header.bodyLength.toNat := not_not.mp hfull
    have hwhole : (overwrite r.currentBodyBuffer r.bodyBytesRead chunk).take
        (r.bodyBytesRead + chunk.length) = overwrite r.currentBodyBuffer r.bodyBytesRead chunk := by
      apply List.take_of_length_le
      rw [length_overwrite hfit]
      omega
    refine ⟨_, _, Step.emit (isFrame_of_header hl ?_) ?_ (hcut.trans (by rw [hwhole])) ?_⟩
    · rw [length_overwrite hfit]
      exact hb
    · rw [headerOk_append hl]
      exact hok
    · unfold messageOf
      rw [decode_append hl]
      show _ = if maxBodyLengthForType r.header.msgType < r.header.bodyLength.toNat then _ else _
      rw [if_neg (Nat.not_lt.mpr hm), ← hl, List.drop_left]
      rfl

theorem discardBody_step {r : SocketReader} {drained : Bytes} (hs : r.readState = .DISCARDING_BODY)
    (hl : r.currentHeader.length = SOCKET_HEADER_LENGTH) (hok : headerOk r.currentHeader = true)
    (hd : drained.length + r.bodyBytesToDiscard = r.header.bodyLength.toNat)
    (h0 : 0 < r.bodyBytesToDiscard)
    (hm : maxBodyLengthForType r.header.msgType < r.header.bodyLength.toNat)
    (hn : r.currentBodyBuffer = []) (incoming : Bytes) (answer : ReadResult) :
    Steps (r.currentHeader ++ drained) incoming (r.discardBody incoming answer) := by
  apply step_got (.discard drained hs hl hok hd h0 hm hn) (by
    unfold DISCARD_CHUNK_SIZE
    omega)
  intro chunk hlen
  have hle : chunk.length ≤ r.bodyBytesToDiscard := by omega
  by_cases hfull : r.bodyBytesToDiscard - chunk.length = 0
  · simp only [hfull, ne_eq, not_true_eq_false, if_false]
    refine ⟨_, _, Step.emit (isFrame_of_header hl ?_) ?_ (List.append_assoc _ drained chunk) ?_⟩
    · rw [List.length_append]
      show drained.length + chunk.length = r.header.bodyLength.toNat
      omega
    · rw [headerOk_append hl]
      exact hok
    · unfold messageOf
      rw [decode_append hl]
      show _ = if maxBodyLengthForType r.header.msgType < r.header.bodyLength.toNat then _ else _
      rw [if_pos hm]
      rfl
  · simp only [hfull, ne_eq, not_false_eq_true, if_true]
    refine ⟨_, _, Step.hold ?_⟩
    rw [List.append_assoc]
    refine .discard (r := { r with bodyBytesToDiscard := r.bodyBytesToDiscard - chunk.length })
      (drained ++ chunk) hs hl hok ?_ (Nat.pos_of_ne_zero hfull) hm hn
    rw [List.length_append]
    show drained.length + chunk.length + (r.bodyBytesToDiscard - chunk.length) =
      r.header.bodyLength.toNat
    omega

/-- **One round of the loop**, in whichever state. -/
theorem process_step {r : SocketReader} {p : Bytes} (h : Holds r p) (incoming : Bytes)
    (answer : ReadResult) : Steps p incoming (r.process incoming answer) := by
  unfold process
  cases h with
  | header hs hl hb hn =>
    rw [hs]
    exact processHeader_step hs hl hb hn incoming answer
  | body hs hl hok hb hr hm =>
    rw [hs]
    exact processBody_step hs hl hok hb hr hm incoming answer
  | discard drained hs hl hok hd h0 hm hn =>
    rw [hs]
    exact discardBody_step hs hl hok hd h0 hm hn incoming answer

/-! ### Whole calls -/

/-- What a call, or several, did: it took the front of the stream, and its messages are
those of what it took. -/
def Reads (p incoming : Bytes) (out : Outcome SandboxError) : Prop :=
  ∃ chunk frames rest, incoming = chunk ++ out.incoming ∧ p ++ chunk = frames.flatten ++ rest ∧
    Good frames ∧ out.messages = frames.map messageOf ∧ Ends out.reader out.result rest

/-- A part of the reading, and the reading that goes on from where it left off. -/
theorem Reads.after {p chunk incoming rest : Bytes} {frames : List Bytes}
    {messages : List ParsedMessage} {out : Outcome SandboxError}
    (hcut : p ++ chunk = frames.flatten ++ rest) (hgood : Good frames)
    (hmsg : messages = frames.map messageOf) (h : Reads rest incoming out) :
    Reads p (chunk ++ incoming) { out with messages := messages ++ out.messages } := by
  obtain ⟨chunk', frames', rest', hin, hcut', hgood', hmsg', hends⟩ := h
  refine ⟨chunk ++ chunk', frames ++ frames', rest', ?_, ?_, hgood.append hgood', ?_, hends⟩
  · rw [hin, List.append_assoc]
  · rw [← List.append_assoc, hcut, List.append_assoc, hcut', List.flatten_append,
      List.append_assoc]
  · rw [hmsg, hmsg', List.map_append]

theorem onReadable_reads (answers : List ReadResult) {r : SocketReader} {p : Bytes}
    (h : Holds r p) (incoming : Bytes) : Reads p incoming (r.onReadable incoming answers) := by
  induction answers generalizing r p incoming with
  | nil =>
    exact ⟨[], [], p, rfl, List.append_nil p, good_nil, rfl, .waiting SandboxError.noConfusion h⟩
  | cons answer answers ih =>
    obtain ⟨chunk, frames, rest, hin, hstep⟩ := process_step h incoming answer
    unfold onReadable
    generalize r.process incoming answer = out at hin hstep ⊢
    obtain ⟨reader, left, messages, result⟩ := out
    obtain ⟨hcut, hgood, hmsg, hends, -⟩ := hstep
    cases result with
    | PROGRESSED =>
      obtain ⟨-, hholds⟩ := hends.resolve_right fun h => ReadStep.noConfusion h.1
      have hlater := (ih hholds left).after hcut hgood hmsg
      rwa [← hin] at hlater
    | DRAINED =>
      obtain ⟨-, hholds⟩ := hends.resolve_right fun h => ReadStep.noConfusion h.1
      exact ⟨chunk, frames, rest, hin, hcut, hgood, hmsg, .waiting SandboxError.noConfusion hholds⟩
    | FAILED =>
      obtain ⟨-, hend⟩ := hends.resolve_left fun h => h.1 rfl
      exact ⟨chunk, frames, rest, hin, hcut, hgood, hmsg, hend⟩

theorem readCalls_reads (calls : List (List ReadResult)) {r : SocketReader} {p : Bytes}
    (h : Holds r p) (incoming : Bytes) : Reads p incoming (r.readCalls incoming calls) := by
  induction calls generalizing r p incoming with
  | nil =>
    exact ⟨[], [], p, rfl, List.append_nil p, good_nil, rfl, .waiting SandboxError.noConfusion h⟩
  | cons answers calls ih =>
    have hcall := onReadable_reads answers h incoming
    unfold readCalls
    generalize r.onReadable incoming answers = out at hcall ⊢
    dsimp only
    by_cases hres : out.result = .SUCCESS
    · rw [if_neg (not_not.mpr hres)]
      obtain ⟨chunk, frames, rest, hin, hcut, hgood, hmsg, hends⟩ := hcall
      cases hends with
      | waiting _ hholds =>
        have hlater := (ih hholds out.incoming).after hcut hgood hmsg
        rwa [← hin] at hlater
      | broken hprot =>
        rw [hres] at hprot
        cases hprot
    · rw [if_pos hres]
      exact hcall

/-! ### Draining -/

/-- A read that hands over something when there is something. -/
def IsData (answer : ReadResult) : Prop := ∃ n, answer = .bytes (n + 1)

theorem readWith_data {count : Nat} (hcount : count ≠ 0) (r : SocketReader) (incoming : Bytes) (n : Nat)
    (got : Bytes → SocketReader × List ParsedMessage × ReadStep) :
    (r.readWith incoming count (.bytes (n + 1)) got).incoming =
      incoming.drop (min (n + 1) count) := by
  unfold readWith
  simp only [hcount, if_false]
  by_cases hchunk : incoming.take (min (n + 1) count) = []
  · rw [if_pos hchunk]
    have hnil : incoming = [] := (List.take_eq_nil_iff.mp hchunk).resolve_left (by omega)
    rw [hnil, List.drop_nil]
  · rw [if_neg hchunk]

/-- No state of the reader asks for nothing. -/
theorem process_data {r : SocketReader} {p : Bytes} (h : Holds r p) (incoming : Bytes) (n : Nat) :
    ∃ k, 0 < k ∧ (r.process incoming (.bytes (n + 1))).incoming = incoming.drop k := by
  unfold process
  cases h with
  | header hs hl hb hn =>
    rw [hs]
    exact ⟨_, by omega, readWith_data (by omega) ..⟩
  | body hs hl hok hb hr hm =>
    rw [hs]
    exact ⟨_, by omega, readWith_data (by omega) ..⟩
  | discard d hs hl hok hd h0 hm hn =>
    rw [hs]
    have hpos : min r.bodyBytesToDiscard DISCARD_CHUNK_SIZE ≠ 0 := by
      unfold DISCARD_CHUNK_SIZE
      omega
    exact ⟨_, by omega, readWith_data hpos ..⟩

/-- As many reads as there are bytes leave none, unless the protocol is broken. -/
theorem onReadable_drains {answers : List ReadResult} (hdata : ∀ a ∈ answers, IsData a)
    {r : SocketReader} {p incoming : Bytes} (h : Holds r p)
    (henough : incoming.length ≤ answers.length) :
    (r.onReadable incoming answers).incoming = [] ∨
      (r.onReadable incoming answers).result = .ERR_SOCKET_PROTOCOL := by
  induction answers generalizing r p incoming with
  | nil => exact .inl (List.length_eq_zero_iff.mp (Nat.le_zero.mp henough))
  | cons answer answers ih =>
    obtain ⟨n, rfl⟩ := hdata answer (List.mem_cons_self ..)
    obtain ⟨chunk, frames, rest, hin, hstep⟩ := process_step h incoming (.bytes (n + 1))
    obtain ⟨k, hk, hleft⟩ := process_data h incoming n
    unfold onReadable
    generalize r.process incoming (.bytes (n + 1)) = out at hin hstep hleft ⊢
    obtain ⟨reader, left, messages, result⟩ := out
    dsimp only at hleft hin
    have hlen := congrArg List.length hleft
    rw [List.length_drop] at hlen
    rw [List.length_cons] at henough
    by_cases hchunk : chunk = []
    · -- No bytes were handed over, so there were none.
      have hnil : left = [] := by
        have hsame := congrArg List.length hin
        rw [hchunk, List.nil_append] at hsame
        apply List.length_eq_zero_iff.mp
        omega
      cases result with
      | PROGRESSED =>
        obtain ⟨-, hholds⟩ := hstep.ends.resolve_right fun h => ReadStep.noConfusion h.1
        exact ih (fun a ha => hdata a (List.mem_cons_of_mem _ ha)) hholds (by rw [hnil]; exact Nat.zero_le _)
      | DRAINED => exact .inl hnil
      | FAILED => exact .inl hnil
    · obtain hres | ⟨hres, herr⟩ := hstep.moved hchunk
      · dsimp only at hres
        subst hres
        obtain ⟨-, hholds⟩ := hstep.ends.resolve_right fun h => ReadStep.noConfusion h.1
        exact ih (fun a ha => hdata a (List.mem_cons_of_mem _ ha)) hholds
          (show left.length ≤ answers.length by omega)
      · dsimp only at hres
        subst hres
        exact .inr herr

theorem readCalls_drains (calls : List (List ReadResult)) {answers : List ReadResult}
    (hdata : ∀ a ∈ answers, IsData a) {r : SocketReader} {p incoming : Bytes} (h : Holds r p)
    (henough : incoming.length ≤ answers.length)
    (hcalls : (r.readCalls incoming calls).result = .SUCCESS) :
    (r.readCalls incoming (calls ++ [answers])).incoming = [] ∨
      (r.readCalls incoming (calls ++ [answers])).result = .ERR_SOCKET_PROTOCOL := by
  induction calls generalizing r p incoming with
  | nil =>
    have hlast := onReadable_drains hdata h henough
    rw [List.nil_append]
    unfold readCalls
    dsimp only
    split
    · exact hlast
    case isFalse hsuccess =>
      have hsuccess := not_not.mp hsuccess
      rw [hsuccess] at hlast
      exact .inl (hlast.resolve_right SandboxError.noConfusion)
  | cons call calls ih =>
    have hcall := onReadable_reads call h incoming
    rw [List.cons_append]
    unfold readCalls at hcalls ⊢
    generalize r.onReadable incoming call = out at hcall hcalls ⊢
    dsimp only at hcalls ⊢
    by_cases hres : out.result = .SUCCESS
    · rw [if_neg (not_not.mpr hres)] at hcalls ⊢
      obtain ⟨chunk, frames, rest, hin, -, -, -, hends⟩ := hcall
      cases hends with
      | waiting _ hholds =>
        apply ih hholds _ hcalls
        have hlen := congrArg List.length hin
        rw [List.length_append] at hlen
        omega
      | broken hprot =>
        rw [hres] at hprot
        cases hprot
    · rw [if_pos hres] at hcalls
      exact absurd hcalls hres

/-! ### Cutting the stream -/

/-- An answer that only cuts the stream: some data, or none yet. -/
def Cuts (answer : ReadResult) : Prop :=
  (∃ n, answer = .bytes n) ∨ answer = .interrupted ∨ answer = .again

theorem readWith_cuts {count : Nat} (hcount : count ≠ 0) (r : SocketReader) (incoming : Bytes)
    {answer : ReadResult} (h : Cuts answer)
    (got : Bytes → SocketReader × List ParsedMessage × ReadStep)
    (hfailed : (r.readWith incoming count answer got).result = .FAILED) :
    (r.readWith incoming count answer got).incoming.length < incoming.length := by
  rcases h with ⟨n, rfl⟩ | rfl | rfl
  · unfold readWith at hfailed ⊢
    simp only [hcount, if_false] at hfailed ⊢
    by_cases hchunk : incoming.take (min n count) = []
    · rw [if_pos hchunk] at hfailed
      cases hfailed
    · rw [if_neg hchunk]
      show (incoming.drop (min n count)).length < incoming.length
      have hlen := List.length_pos_iff.mpr hchunk
      rw [List.length_take] at hlen
      rw [List.length_drop]
      omega
  · cases hfailed
  · cases hfailed

/-- Where nothing but data arrives, late or not, only the protocol makes a round fail. -/
theorem process_cuts {r : SocketReader} {p : Bytes} (h : Holds r p) (incoming : Bytes)
    {answer : ReadResult} (hcuts : Cuts answer)
    (hfailed : (r.process incoming answer).result = .FAILED) :
    (r.process incoming answer).reader.readError = .ERR_SOCKET_PROTOCOL := by
  have htaken : (r.process incoming answer).incoming.length < incoming.length := by
    unfold process at hfailed ⊢
    cases h with
    | header hs hl hb hn =>
      rw [hs] at hfailed ⊢
      exact readWith_cuts (by omega) _ _ hcuts _ hfailed
    | body hs hl hok hb hr hm =>
      rw [hs] at hfailed ⊢
      exact readWith_cuts (by omega) _ _ hcuts _ hfailed
    | discard d hs hl hok hd h0 hm hn =>
      rw [hs] at hfailed ⊢
      refine readWith_cuts ?_ _ _ hcuts _ hfailed
      unfold DISCARD_CHUNK_SIZE
      omega
  obtain ⟨chunk, frames, rest, hin, hstep⟩ := process_step h incoming answer
  have hchunk : chunk ≠ [] := by
    rintro rfl
    have hlen := congrArg List.length hin
    rw [List.nil_append] at hlen
    omega
  rcases hstep.moved hchunk with hprogressed | ⟨-, herror⟩
  · exact absurd (hfailed.symm.trans hprogressed) ReadStep.noConfusion
  · exact herror

theorem onReadable_cuts {answers : List ReadResult} (hcuts : ∀ a ∈ answers, Cuts a)
    {r : SocketReader} {p : Bytes} (h : Holds r p) (incoming : Bytes) :
    (r.onReadable incoming answers).result = .SUCCESS ∨
      (r.onReadable incoming answers).result = .ERR_SOCKET_PROTOCOL := by
  induction answers generalizing r p incoming with
  | nil => exact .inl rfl
  | cons answer answers ih =>
    have hfails := process_cuts h incoming (hcuts answer (List.mem_cons_self ..))
    obtain ⟨chunk, frames, rest, -, hstep⟩ := process_step h incoming answer
    unfold onReadable
    generalize r.process incoming answer = out at hfails hstep ⊢
    obtain ⟨reader, left, messages, result⟩ := out
    cases result with
    | PROGRESSED =>
      obtain ⟨-, hholds⟩ := hstep.ends.resolve_right fun h => ReadStep.noConfusion h.1
      exact ih (fun a ha => hcuts a (List.mem_cons_of_mem _ ha)) hholds left
    | DRAINED => exact .inl rfl
    | FAILED => exact .inr (hfails rfl)

theorem readCalls_cuts {calls : List (List ReadResult)}
    (hcuts : ∀ call ∈ calls, ∀ a ∈ call, Cuts a) {r : SocketReader} {p : Bytes} (h : Holds r p)
    (incoming : Bytes) :
    (r.readCalls incoming calls).result = .SUCCESS ∨
      (r.readCalls incoming calls).result = .ERR_SOCKET_PROTOCOL := by
  induction calls generalizing r p incoming with
  | nil => exact .inl rfl
  | cons call calls ih =>
    have hcall := onReadable_cuts (hcuts call (List.mem_cons_self ..)) h incoming
    have hreads := onReadable_reads call h incoming
    unfold readCalls
    generalize r.onReadable incoming call = out at hcall hreads ⊢
    dsimp only
    by_cases hres : out.result = .SUCCESS
    · rw [if_neg (not_not.mpr hres)]
      obtain ⟨chunk, frames, rest, -, -, -, -, hends⟩ := hreads
      cases hends with
      | waiting _ hholds =>
        exact ih (fun call hcall => hcuts call (List.mem_cons_of_mem _ hcall)) hholds out.incoming
      | broken hprot =>
        rw [hres] at hprot
        cases hprot
    · rw [if_pos hres]
      exact hcall

/-- Calls behind one that failed read nothing. -/
theorem readCalls_append {calls : List (List ReadResult)} {r : SocketReader} {incoming : Bytes}
    (h : (r.readCalls incoming calls).result ≠ .SUCCESS) (later : List (List ReadResult)) :
    r.readCalls incoming (calls ++ later) = r.readCalls incoming calls := by
  induction calls generalizing r incoming with
  | nil => exact absurd rfl h
  | cons call calls ih =>
    rw [List.cons_append]
    unfold readCalls at h ⊢
    dsimp only at h ⊢
    by_cases hres : (r.onReadable incoming call).result = .SUCCESS
    · rw [if_neg (not_not.mpr hres)] at h
      rw [if_neg (not_not.mpr hres), if_neg (not_not.mpr hres), ih h]
    · rw [if_pos hres, if_pos hres]

/-! ### The reader against the stream -/

/-- The bytes of the stream a reading has taken. -/
def Outcome.consumed {Result : Type} (out : Outcome Result) (stream : Bytes) : Bytes :=
  stream.take (stream.length - out.incoming.length)

/-- A reading finds what the stream means. -/
structure Framed (stream : Bytes) (out : Outcome SandboxError) : Prop where
  left : out.incoming <:+ stream
  messages : out.messages = parse (out.consumed stream)
  protocol : out.result = .ERR_SOCKET_PROTOCOL ↔ breaksProtocol (out.consumed stream)
  complete : out.incoming = [] ∨ out.result = .ERR_SOCKET_PROTOCOL → out.messages = parse stream
  buffer : out.reader.currentBodyBuffer = [] ∨
    out.reader.currentBodyBuffer.length = out.reader.header.bodyLength.toNat ∧
      out.reader.header.bodyLength.toNat ≤ maxBodyLengthForType out.reader.header.msgType

theorem Holds.not_breaksProtocol {r : SocketReader} {rest : Bytes} (h : Holds r rest) :
    ¬ (SOCKET_HEADER_LENGTH ≤ rest.length ∧ headerOk rest = false) := by
  intro hbad
  cases h with
  | header hs hl hb hn =>
    have hlen := hbad.1
    rw [List.length_take] at hlen
    omega
  | body hs hl hok hb hr hm =>
    have hbad := hbad.2
    rw [headerOk_append hl, hok] at hbad
    cases hbad
  | discard d hs hl hok hd h0 hm hn =>
    have hbad := hbad.2
    rw [headerOk_append hl, hok] at hbad
    cases hbad

theorem Ends.trusted {r : SocketReader} {ret : SandboxError} {rest : Bytes} (h : Ends r ret rest) :
    Claw.trusted rest = [] := by
  cases h with
  | waiting _ hholds => exact hholds.trusted
  | broken _ hlen hbad _ =>
    have := trusted_of_not_headerOk hlen hbad []
    rwa [List.append_nil] at this

theorem Ends.protocol {r : SocketReader} {ret : SandboxError} {rest : Bytes} (h : Ends r ret rest) :
    ret = .ERR_SOCKET_PROTOCOL ↔ SOCKET_HEADER_LENGTH ≤ rest.length ∧ headerOk rest = false := by
  cases h with
  | waiting hret hholds => exact iff_of_false hret hholds.not_breaksProtocol
  | broken hret hlen hbad _ => exact iff_of_true hret ⟨Nat.le_of_eq hlen.symm, hbad⟩

theorem Ends.buffer {r : SocketReader} {ret : SandboxError} {rest : Bytes} (h : Ends r ret rest) :
    r.currentBodyBuffer = [] ∨ r.currentBodyBuffer.length = r.header.bodyLength.toNat ∧
      r.header.bodyLength.toNat ≤ maxBodyLengthForType r.header.msgType := by
  cases h with
  | waiting _ hholds =>
    cases hholds with
    | header hs hl hb hn => exact .inl hn
    | body hs hl hok hb hr hm => exact .inr ⟨hb, hm⟩
    | discard d hs hl hok hd h0 hm hn => exact .inl hn
  | broken _ _ _ hn => exact .inl hn

theorem Reads.framed {stream : Bytes} {out : Outcome SandboxError} (h : Reads [] stream out) :
    Framed stream out := by
  obtain ⟨chunk, frames, rest, hin, hcut, hgood, hmsg, hends⟩ := h
  have hconsumed : out.consumed stream = frames.flatten ++ rest := by
    have hlen := congrArg List.length hin
    rw [List.length_append] at hlen
    rw [← hcut, List.nil_append]
    unfold Outcome.consumed
    rw [show stream.length - out.incoming.length = chunk.length by omega, hin, List.take_left]
  have htrusted : Claw.trusted (frames.flatten ++ rest) = frames := by
    rw [trusted_append hgood, hends.trusted, List.append_nil]
  have hparse : parse (frames.flatten ++ rest) = out.messages := by
    unfold parse
    rw [htrusted, hmsg]
  refine ⟨⟨chunk, hin.symm⟩, ?_, ?_, ?_, hends.buffer⟩
  · rw [hconsumed, hparse]
  · rw [hconsumed]
    unfold breaksProtocol
    rw [htrusted, List.drop_left]
    exact hends.protocol
  · intro hend
    have hstream : stream = frames.flatten ++ (rest ++ out.incoming) := by
      rw [← List.append_assoc, ← hcut, List.nil_append]
      exact hin
    have hrest : Claw.trusted (rest ++ out.incoming) = [] := by
      obtain hnil | hprot := hend
      · rw [hnil, List.append_nil]
        exact hends.trusted
      · cases hends with
        | waiting hret _ => exact absurd hprot hret
        | broken _ hlen hbad _ => exact trusted_of_not_headerOk hlen hbad _
    rw [hstream, parse_append hgood, hmsg]
    unfold parse
    rw [hrest, List.map_nil, List.append_nil]

/-- **The reader finds the messages of the stream**, however the stream is cut into reads
and calls: what it has put out is the meaning of what it has taken, a header that cannot be
trusted ends the reading, and once everything has come in nothing is missing. Cutting alone
ends no reading: where only data comes, at once or later, nothing but the protocol does. -/
theorem readCalls_framed (stream : Bytes) (calls : List (List ReadResult)) :
    Framed stream (create.readCalls stream calls) ∧
      (∀ answers : List ReadResult, (∀ a ∈ answers, IsData a) → stream.length ≤ answers.length →
        (create.readCalls stream calls).result = .SUCCESS →
        (create.readCalls stream (calls ++ [answers])).messages = parse stream) ∧
      ((∀ call ∈ calls, ∀ a ∈ call, Cuts a) →
        ((create.readCalls stream calls).result = .SUCCESS ∨
          (create.readCalls stream calls).result = .ERR_SOCKET_PROTOCOL) ∧
        ∀ answers : List ReadResult, (∀ a ∈ answers, IsData a) → stream.length ≤ answers.length →
          (create.readCalls stream (calls ++ [answers])).messages = parse stream) := by
  have hframed := fun calls => (readCalls_reads calls holds_create stream).framed
  have hdrained : ∀ answers : List ReadResult, (∀ a ∈ answers, IsData a) →
      stream.length ≤ answers.length → (create.readCalls stream calls).result = .SUCCESS →
        (create.readCalls stream (calls ++ [answers])).messages = parse stream := by
    intro answers hdata henough hcalls
    exact (hframed (calls ++ [answers])).complete
      (readCalls_drains calls hdata holds_create henough hcalls)
  refine ⟨hframed calls, hdrained, fun hcuts => ?_⟩
  have hends := readCalls_cuts hcuts holds_create stream
  refine ⟨hends, fun answers hdata henough => ?_⟩
  rcases hends with hsuccess | hprotocol
  · exact hdrained answers hdata henough hsuccess
  · rw [readCalls_append (by rw [hprotocol]; exact SandboxError.noConfusion)]
    exact (hframed calls).complete (.inr hprotocol)

end SocketReader

end SandboxManager.Claw
