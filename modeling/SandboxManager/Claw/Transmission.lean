import SandboxManager.Claw.Socket

/-! What a socket sends over a run of calls.

Whatever the kernel answers, the bytes it took and those still in the buffer are the frames that
were appended, in order, and the buffer stays within its bound (`transmission_faithful`). A frame
is appended unless its call is rejected; whether the flush after it fails makes no difference. -/
namespace SandboxManager.Claw
namespace SandboxSocket

/-! ### Runs -/

inductive TxCall where
  | sendMessage (msgType : UInt32) (body : Bytes)
  | sendResponse (requestId : UInt32) (result : Int32) (body : Bytes)
  | onWritable

def TxCall.run (s : SandboxSocket) (answers : List SendResult) :
    TxCall → SandboxSocket × SandboxError × List SendResult
  | sendMessage msgType body => s.sendMessage msgType body answers
  | sendResponse requestId result body => s.sendResponse requestId result body answers
  | onWritable => s.onWritable answers

/-- The message of a call. -/
def TxCall.frame : TxCall → Option Frame
  | sendMessage msgType body => some ⟨msgType, 0, 0, body⟩
  | sendResponse requestId result body => some ⟨SOCKET_MSG_RESPONSE, requestId, result, body⟩
  | onWritable => none

def rejects (ret : SandboxError) : Bool := ret = .ERR_SOCKET_MSG_TOO_LARGE || ret = .ERR_SOCKET_TX_FULL

/-- What a call that comes back with `ret` has appended. -/
def TxCall.appended (call : TxCall) (ret : SandboxError) : List Frame :=
  if rejects ret then [] else call.frame.toList

/-- A run: each call with what the kernel answers during it. The messages appended so far go along. -/
def txRun : SandboxSocket × List Frame → List (TxCall × List SendResult) → SandboxSocket × List Frame
  | state, [] => state
  | (s, frames), (call, answers) :: rest =>
    let out := call.run s answers
    txRun (out.1, frames ++ call.appended out.2.1) rest

/-! ### The invariant -/

structure Holds (s : SandboxSocket) (frames : List Frame) : Prop where
  stream : s.wire ++ s.pending = encodeAll frames
  buffer : s.txBuffer.length ≤ MAX_TX_BUFFER_SIZE
  offset : s.txOffset ≤ s.txBuffer.length

theorem holds_create : Holds create [] :=
  ⟨rfl, Nat.zero_le _, Nat.le_refl 0⟩

section
variable {s : SandboxSocket} {frames : List Frame}

/-- A flush makes the buffer no longer. -/
theorem length_txBuffer_flush (answers : List SendResult) (s : SandboxSocket) :
    (s.flushTxBuffer answers).1.txBuffer.length ≤ s.txBuffer.length := by
  induction answers generalizing s with
  | nil =>
    unfold flushTxBuffer
    split
    · exact Nat.le_refl _
    · exact Nat.zero_le _
  | cons answer rest ih =>
    unfold flushTxBuffer
    split
    · cases answer with
      | sent n =>
        by_cases hn : n = 0
        · simp only [hn, if_true]
          exact Nat.le_refl _
        · simp only [hn, if_false]
          exact ih (s.advance n)
      | interrupted => exact ih s
      | again => exact Nat.le_refl _
      | closed => exact Nat.le_refl _
      | failed => exact Nat.le_refl _
    · exact Nat.zero_le _

theorem Holds.flush (h : Holds s frames) (answers : List SendResult) :
    Holds (s.flushTxBuffer answers).1 frames := by
  have hflush := flushTxBuffer_spec answers h.offset
  exact ⟨hflush.stream.trans h.stream, (length_txBuffer_flush answers s).trans h.buffer, hflush.offset⟩

/-- After compaction there is room for what fits beside the pending bytes. -/
theorem length_compactTxBuffer {n : Nat} (hroom : s.txBuffer.length - s.txOffset ≤ MAX_TX_BUFFER_SIZE - n) :
    (s.compactTxBuffer n).txBuffer.length ≤ MAX_TX_BUFFER_SIZE - n := by
  unfold compactTxBuffer
  split
  case isTrue hkeep =>
    rcases hkeep with hzero | hfits
    · rwa [hzero, Nat.sub_zero] at hroom
    · exact hfits
  case isFalse => rwa [List.length_drop]

theorem Holds.append (h : Holds s frames) {frame : Frame}
    (hsize : frame.encode.length ≤ MAX_TX_BUFFER_SIZE)
    (hroom : s.txBuffer.length - s.txOffset ≤ MAX_TX_BUFFER_SIZE - frame.encode.length) :
    Holds (s.staged frame) (frames ++ [frame]) := by
  have hlength := length_compactTxBuffer hroom
  refine ⟨?_, ?_, staged_offset h.offset frame⟩
  · rw [staged_wire, staged_pending h.offset, ← List.append_assoc, h.stream, encodeAll_append,
      encodeAll_singleton]
  · rw [staged, List.length_append]
    omega

/-! ### One call -/

/-- A message that is queued is rejected, leaving everything as it was, or appended. -/
inductive Queues (s : SandboxSocket) (frame : Frame) (answers : List SendResult) :
    SandboxSocket × SandboxError × List SendResult → Prop
  | tooLarge (hsize : MAX_BODY_LENGTH < frame.body.length) :
      Queues s frame answers (s, .ERR_SOCKET_MSG_TOO_LARGE, answers)
  | full (hfull : MAX_TX_BUFFER_SIZE < frame.encode.length ∨
        MAX_TX_BUFFER_SIZE - frame.encode.length < s.txBuffer.length - s.txOffset) :
      Queues s frame answers (s, .ERR_SOCKET_TX_FULL, answers)
  | appended {out : SandboxSocket × SandboxError × List SendResult}
      (hsize : frame.encode.length ≤ MAX_TX_BUFFER_SIZE)
      (hroom : s.txBuffer.length - s.txOffset ≤ MAX_TX_BUFFER_SIZE - frame.encode.length)
      (hflush : flushTxBuffer { s.compactTxBuffer frame.encode.length with
        txBuffer := (s.compactTxBuffer frame.encode.length).txBuffer ++ frame.encode } answers = out)
      (accepted : List Frame) :
      Queues s frame answers ({ out.1 with accepted }, out.2.1, out.2.2)

theorem queueMessage_queues (s : SandboxSocket) (msgType requestId : UInt32) (result : Int32)
    (body : Bytes) (answers : List SendResult) :
    Queues s ⟨msgType, requestId, result, body⟩ answers
      (s.queueMessage msgType body requestId result answers) := by
  have hlength := Frame.length_encode ⟨msgType, requestId, result, body⟩
  dsimp only at hlength
  unfold queueMessage
  by_cases hsize : MAX_BODY_LENGTH < body.length
  · rw [if_pos hsize]
    exact Queues.tooLarge hsize
  rw [if_neg hsize]
  simp only [← hlength]
  split
  case isTrue hfull => exact Queues.full hfull
  case isFalse hroom =>
    rw [not_or, Nat.not_lt, Nat.not_lt] at hroom
    split
    · exact Queues.appended hroom.1 hroom.2 rfl _
    · exact Queues.appended hroom.1 hroom.2 rfl _

theorem rejects_flush (answers : List SendResult) (s : SandboxSocket) :
    rejects (s.flushTxBuffer answers).2.1 = false := by
  rcases flushTxBuffer_result answers s with h | h | h <;> rw [h] <;> rfl

/-- What a queued message leaves: nothing new if it is rejected, and what holds with it appended. -/
theorem Queues.holds {frame : Frame} {answers : List SendResult}
    {out : SandboxSocket × SandboxError × List SendResult} (h : Queues s frame answers out)
    (hs : Holds s frames) :
    (rejects out.2.1 = true → out.1 = s) ∧
      Holds out.1 (frames ++ if rejects out.2.1 then [] else [frame]) := by
  cases h with
  | tooLarge => exact ⟨fun _ => rfl, by simpa [rejects] using hs⟩
  | full => exact ⟨fun _ => rfl, by simpa [rejects] using hs⟩
  | @appended out hsize hroom hflush accepted =>
    have hout : (s.staged frame).flushTxBuffer answers = out := hflush
    have hrejects := rejects_flush answers (s.staged frame)
    have hholds := (hs.append hsize hroom).flush answers
    rw [hout] at hrejects hholds
    refine ⟨fun hyes => absurd hyes (by simp [hrejects]), ?_⟩
    simp only [hrejects, Bool.false_eq_true, if_false]
    exact ⟨hholds.stream, hholds.buffer, hholds.offset⟩

/-- An idle socket rejects no body of legal size. -/
theorem Queues.not_rejects {frame : Frame} {answers : List SendResult}
    {out : SandboxSocket × SandboxError × List SendResult} (h : Queues s frame answers out)
    (hidle : s.pending = []) (hbody : frame.body.length ≤ MAX_BODY_LENGTH) :
    rejects out.2.1 = false := by
  cases h with
  | tooLarge hsize => omega
  | full hfull =>
    have hlength := frame.length_encode
    have hpending : s.txBuffer.length ≤ s.txOffset := List.drop_eq_nil_iff.mp hidle
    unfold MAX_TX_BUFFER_SIZE at hfull
    omega
  | appended hsize hroom hflush => exact hflush ▸ rejects_flush answers _

/-- A call of the socket keeps the invariant. -/
theorem TxCall.run_holds (call : TxCall) (answers : List SendResult) (h : Holds s frames) :
    (rejects (call.run s answers).2.1 = true → (call.run s answers).1 = s) ∧
      Holds (call.run s answers).1 (frames ++ call.appended (call.run s answers).2.1) := by
  cases call with
  | sendMessage msgType body => exact (queueMessage_queues s msgType 0 0 body answers).holds h
  | sendResponse requestId result body =>
    exact (queueMessage_queues s SOCKET_MSG_RESPONSE requestId result body answers).holds h
  | onWritable =>
    have hrejects := rejects_flush answers s
    have happended : TxCall.onWritable.appended (s.flushTxBuffer answers).2.1 = [] := ite_self []
    refine ⟨fun hyes => absurd (hrejects.symm.trans hyes) Bool.false_ne_true, ?_⟩
    show Holds (s.flushTxBuffer answers).1 (frames ++
      TxCall.onWritable.appended (s.flushTxBuffer answers).2.1)
    rw [happended, List.append_nil]
    exact h.flush answers

theorem txRun_holds (calls : List (TxCall × List SendResult)) (h : Holds s frames) :
    Holds (txRun (s, frames) calls).1 (txRun (s, frames) calls).2 := by
  induction calls generalizing s frames with
  | nil => exact h
  | cons step rest ih => exact ih (step.1.run_holds step.2 h).2

/-- **Transmission is faithful.** After any run the bytes sent and those pending are the frames that
were appended, the buffer is within its bound, a rejected call changes nothing, and an idle socket
rejects no body of legal size. -/
theorem transmission_faithful (calls : List (TxCall × List SendResult)) :
    Holds (txRun (create, []) calls).1 (txRun (create, []) calls).2 ∧
      (∀ (call : TxCall) (answers : List SendResult),
        rejects (call.run (txRun (create, []) calls).1 answers).2.1 = true →
          (call.run (txRun (create, []) calls).1 answers).1 = (txRun (create, []) calls).1) ∧
      ((txRun (create, []) calls).1.pending = [] → ∀ (call : TxCall) (answers : List SendResult),
        (∀ frame ∈ call.frame, frame.body.length ≤ MAX_BODY_LENGTH) →
          rejects (call.run (txRun (create, []) calls).1 answers).2.1 = false) := by
  have hholds := txRun_holds calls holds_create
  refine ⟨hholds, fun call answers => (call.run_holds answers hholds).1, fun hidle call answers hbody => ?_⟩
  cases call with
  | sendMessage msgType body =>
    exact (queueMessage_queues _ msgType 0 0 body answers).not_rejects hidle (hbody _ rfl)
  | sendResponse requestId result body =>
    exact (queueMessage_queues _ SOCKET_MSG_RESPONSE requestId result body answers).not_rejects hidle
      (hbody _ rfl)
  | onWritable => exact rejects_flush answers _

end

end SandboxSocket

end SandboxManager.Claw
