import SandboxManager.Claw.Ledger

/-! The accounting of the transmit queue.

The byte count is kept by hand wherever a message comes, goes or loses its body. `Accounted`
is what the three calls keep of it, from any socket and with any answers of the kernel. The loop
of `FlushSocketTxQueue` is taken apart into its rounds (`flushRound`), each with the
subtraction it makes; the number of rounds is bounded by the messages that wait and the
bodies that are too large (`flushRounds_eq`). -/
namespace SandboxManager.Claw
namespace SandboxMonitor
open SandboxSocket

/-- What the three calls on the queue keep. -/
structure Accounted (m : SandboxMonitor) : Prop extends Sized m where
  count : m.socketTxQueue.length ≤ MAX_SOCKET_TX_QUEUE_COUNT
  pending : m.pendingAnswers.length ≤ MAX_PENDING_ANSWER_COUNT

/-- A body of the size fits behind the queue. -/
def HasRoom (bodySize : Nat) (queue : List PendingSocketMessage) : Prop :=
  queue.length < MAX_SOCKET_TX_QUEUE_COUNT ∧
    bodyBytes queue + bodySize ≤ MAX_SOCKET_TX_QUEUE_BYTES

/-- What a push does to the queue: a body over the limit leaves it alone, and for any other the
fewest oldest messages go that make room. -/
def Evicts (queue : List PendingSocketMessage) (message : PendingSocketMessage)
    (queue' : List PendingSocketMessage) : Prop :=
  if MAX_SOCKET_TX_QUEUE_BYTES < message.body.length then queue' = queue
  else ∃ k, queue' = queue.drop k ++ [message] ∧ HasRoom message.body.length (queue.drop k) ∧
    ∀ j < k, ¬ HasRoom message.body.length (queue.drop j)

/-- Subtractions, each with what is subtracted from and what is subtracted, do not underflow. -/
def NoUnderflow (subtractions : List (Nat × Nat)) : Prop := ∀ sub ∈ subtractions, sub.2 ≤ sub.1

/-! ### Pushing -/

/-- The subtractions of the eviction loop. -/
def evictSubtractions (bodySize : Nat) : List PendingSocketMessage → Nat → List (Nat × Nat)
  | [], _ => []
  | front :: rest, txBytes =>
    if MAX_SOCKET_TX_QUEUE_COUNT ≤ (front :: rest).length ∨
        MAX_SOCKET_TX_QUEUE_BYTES - bodySize < txBytes then
      (txBytes, front.body.length) ::
        evictSubtractions bodySize rest (sizeSub txBytes front.body.length)
    else []

/-- The subtractions of a push, that of the limit first. -/
def pushSubtractions (m : SandboxMonitor) (message : PendingSocketMessage) : List (Nat × Nat) :=
  if MAX_SOCKET_TX_QUEUE_BYTES < message.body.length then []
  else
    (MAX_SOCKET_TX_QUEUE_BYTES, message.body.length) ::
      evictSubtractions message.body.length m.socketTxQueue m.socketTxBytes

theorem bodyBytes_cons (front : PendingSocketMessage) (rest : List PendingSocketMessage) :
    bodyBytes (front :: rest) = front.body.length + bodyBytes rest := by
  simp [bodyBytes]

theorem not_crowded_iff {bodySize : Nat} {queue : List PendingSocketMessage}
    (h : bodySize ≤ MAX_SOCKET_TX_QUEUE_BYTES) :
    crowded bodySize queue = false ↔ HasRoom bodySize queue := by
  simp only [crowded, HasRoom, Bool.or_eq_false_iff, decide_eq_false_iff_not]
  omega

/-- The messages that go are the fewest from the front that make room. -/
theorem evictees_minimal {bodySize : Nat} (h : bodySize ≤ MAX_SOCKET_TX_QUEUE_BYTES)
    (queue : List PendingSocketMessage) :
    ∃ k, evictees bodySize queue = queue.take k ∧ HasRoom bodySize (queue.drop k) ∧
      ∀ j < k, ¬ HasRoom bodySize (queue.drop j) := by
  have hnil : HasRoom bodySize [] := ⟨by decide, by simpa [bodyBytes] using h⟩
  induction queue with
  | nil => exact ⟨0, rfl, hnil, fun j hj => absurd hj (Nat.not_lt_zero j)⟩
  | cons front rest ih =>
    cases hc : crowded bodySize (front :: rest) with
    | false =>
      refine ⟨0, ?_, (not_crowded_iff h).mp hc, fun j hj => absurd hj (Nat.not_lt_zero j)⟩
      rw [evictees, hc, if_neg Bool.false_ne_true, List.take_zero]
    | true =>
      obtain ⟨k, htake, hroom, hleast⟩ := ih
      refine ⟨k + 1, ?_, hroom, fun j hj => ?_⟩
      · rw [evictees, if_pos hc, htake, List.take_succ_cons]
      · cases j with
        | zero =>
          intro hfits
          rw [List.drop_zero, ← not_crowded_iff h, hc] at hfits
          cases hfits
        | succ j => exact hleast j (Nat.lt_of_succ_lt_succ hj)

theorem evictSubtractions_noUnderflow (bodySize : Nat) (queue : List PendingSocketMessage)
    (h : bodyBytes queue < SIZE_RANGE) :
    NoUnderflow (evictSubtractions bodySize queue (bodyBytes queue)) := by
  induction queue with
  | nil => exact List.forall_mem_nil _
  | cons front rest ih =>
    have hcons := bodyBytes_cons front rest
    rw [evictSubtractions]
    split
    · intro sub hsub
      rcases List.mem_cons.mp hsub with rfl | hsub
      · show front.body.length ≤ bodyBytes (front :: rest)
        omega
      · have hleft : sizeSub (bodyBytes (front :: rest)) front.body.length = bodyBytes rest := by
          rw [sizeSub_eq (by omega) h]
          omega
        rw [hleft] at hsub
        exact ih (by omega) sub hsub
    · exact List.forall_mem_nil _

section
variable {m : SandboxMonitor}

theorem Accounted.push (h : Accounted m) (message : PendingSocketMessage) :
    Accounted (m.pushSocketMessage message) ∧
      Evicts m.socketTxQueue (m.create message) (m.pushSocketMessage message).socketTxQueue ∧
      NoUnderflow (m.pushSubtractions message) := by
  have hrange : MAX_SOCKET_TX_QUEUE_BYTES < SIZE_RANGE := by decide
  obtain ⟨hsized, -, hqueue⟩ := h.toSized.push message
  have hpending : (m.pushSocketMessage message).pendingAnswers = m.pendingAnswers := by
    rw [pushSocketMessage]
    split
    · rfl
    · rfl
  have hbody : (m.create message).body = message.body := rfl
  rcases hqueue with ⟨hlarge, hsame⟩ | ⟨rest, hsplit, hfits, hnew⟩
  · refine ⟨⟨hsized, hsame ▸ h.count, hpending ▸ h.pending⟩, ?_, ?_⟩
    · rw [Evicts, if_pos hlarge, hsame]
    · rw [pushSubtractions, if_pos (hbody ▸ hlarge)]
      exact List.forall_mem_nil _
  · obtain ⟨k, htake, hroom, hleast⟩ := evictees_minimal (Nat.le_of_not_lt hfits) m.socketTxQueue
    have hrest : rest = m.socketTxQueue.drop k := by
      rw [htake] at hsplit
      exact List.append_cancel_left (hsplit.symm.trans (List.take_append_drop k _).symm)
    refine ⟨⟨hsized, ?_, hpending ▸ h.pending⟩, ?_, ?_⟩
    · rw [hnew, hrest, List.length_append]
      exact hroom.1
    · rw [Evicts, if_neg hfits]
      exact ⟨k, by rw [hnew, hrest], hroom, hleast⟩
    · have hlimit := h.limit
      rw [pushSubtractions, if_neg (hbody ▸ hfits), h.bytes]
      intro sub hsub
      rcases List.mem_cons.mp hsub with rfl | hsub
      · exact Nat.le_of_not_lt hfits
      · exact evictSubtractions_noUnderflow _ _ (by omega) sub hsub

theorem Accounted.pushPendingAnswer (h : Accounted m) (eventId : UInt64) :
    Accounted (m.pushPendingAnswer eventId) := by
  refine ⟨⟨h.bytes, h.limit⟩, h.count, ?_⟩
  have hpending := h.pending
  unfold SandboxMonitor.pushPendingAnswer
  dsimp only
  rw [List.length_append, List.length_singleton]
  split
  · rw [List.length_drop]
    have : 1 ≤ MAX_PENDING_ANSWER_COUNT := by decide
    omega
  · omega

/-! ### Flushing -/

/-- One round of the loop: it is left, or it comes round again after a subtraction. -/
inductive FlushRound where
  | leave (m : SandboxMonitor) (ret : SandboxError)
  | again (m : SandboxMonitor) (subtraction : Nat × Nat)

def flushRound (m : SandboxMonitor) : FlushRound :=
  match m.socketTxQueue with
  | [] => .leave m .SUCCESS
  | front :: rest =>
    match m.socket with
    | none => .leave m .SUCCESS
    | some socket =>
      if socket.hasPendingTxData then .leave m .SUCCESS
      else
        let out := socket.sendPending front m.world.sends
        let m' := m.withSocket out
        if out.2.1 = .ERR_SOCKET_TX_FULL then .leave m' .SUCCESS
        else if out.2.1 = .ERR_SOCKET_MSG_TOO_LARGE then
          .again (if front.msgType = SOCKET_MSG_RESPONSE then m'.strip front rest else m'.pop front rest)
            (m.socketTxBytes, front.body.length)
        else if out.2.1 ≠ .SUCCESS then .leave m' out.2.1
        else .again ((m'.handed front).pop front rest) (m.socketTxBytes, front.body.length)

/-- The loop, for so many rounds at most: how it was left, and the subtractions made. -/
def flushRounds : Nat → SandboxMonitor → Option ((SandboxMonitor × SandboxError) × List (Nat × Nat))
  | 0, _ => none
  | rounds + 1, m =>
    match flushRound m with
    | .leave m' ret => some ((m', ret), [])
    | .again m' sub => (flushRounds rounds m').map fun out => (out.1, sub :: out.2)

/-- A body the socket does not take. -/
def tooLarge (message : PendingSocketMessage) : Bool := MAX_BODY_LENGTH < message.body.length

/-- The messages that wait, those twice whose body the socket does not take. -/
def roundsLeft (m : SandboxMonitor) : Nat :=
  m.socketTxQueue.length + m.socketTxQueue.countP tooLarge

/-- What a round that comes round again did to the queue. -/
structure RoundAgain (m m' : SandboxMonitor) (sub : Nat × Nat) : Prop where
  flush : m.flushSocketTxQueue = m'.flushSocketTxQueue
  fewer : roundsLeft m' < roundsLeft m
  accounted : Accounted m → Accounted m'
  noUnderflow : Accounted m → sub.2 ≤ sub.1

/-- A round that leaves the loop. -/
structure RoundLeave (m m' : SandboxMonitor) (ret : SandboxError) : Prop where
  flush : m.flushSocketTxQueue = (m', ret)
  accounted : Accounted m → Accounted m'

theorem Accounted.withSocket (h : Accounted m)
    (out : SandboxSocket × SandboxError × List SendResult) : Accounted (m.withSocket out) :=
  ⟨⟨h.bytes, h.limit⟩, h.count, h.pending⟩

theorem Accounted.handed (h : Accounted m) (message : PendingSocketMessage) :
    Accounted (m.handed message) := by
  have hover : Accounted (m.handOver message) := ⟨⟨h.bytes, h.limit⟩, h.count, h.pending⟩
  unfold SandboxMonitor.handed
  split
  · exact hover.pushPendingAnswer message.eventId
  · exact hover

theorem Accounted.pop {front : PendingSocketMessage} {rest : List PendingSocketMessage}
    (h : Accounted m) (hqueue : m.socketTxQueue = front :: rest) : Accounted (m.pop front rest) := by
  have hcount := h.count
  rw [hqueue] at hcount
  exact ⟨h.toSized.pop hqueue, Nat.le_of_succ_le hcount, h.pending⟩

theorem Accounted.strip {front : PendingSocketMessage} {rest : List PendingSocketMessage}
    (h : Accounted m) (hqueue : m.socketTxQueue = front :: rest) :
    Accounted (m.strip front rest) := by
  have hcount := h.count
  rw [hqueue] at hcount
  exact ⟨h.toSized.strip hqueue, hcount, h.pending⟩

theorem Accounted.front_le {front : PendingSocketMessage} {rest : List PendingSocketMessage}
    (h : Accounted m) (hqueue : m.socketTxQueue = front :: rest) :
    front.body.length ≤ m.socketTxBytes := by
  rw [h.bytes, hqueue, bodyBytes_cons]
  exact Nat.le_add_right _ _

theorem roundsLeft_pop {front : PendingSocketMessage} {rest : List PendingSocketMessage}
    {m' : SandboxMonitor} (hqueue : m.socketTxQueue = front :: rest) (hrest : m'.socketTxQueue = rest) :
    roundsLeft m' < roundsLeft m := by
  rw [roundsLeft, roundsLeft, hqueue, hrest, List.length_cons, List.countP_cons]
  omega

/-- The loop at a front and an idle socket, as `flushRound` does it. -/
theorem flushSocketTxQueue_step {s : SandboxSocket} {front : PendingSocketMessage}
    {rest : List PendingSocketMessage} (hs : m.socket = some s)
    (hidle : s.hasPendingTxData = false) (hqueue : m.socketTxQueue = front :: rest)
    {out : SandboxSocket × SandboxError × List SendResult}
    (hout : s.sendPending front m.world.sends = out) :
    m.flushSocketTxQueue =
      if out.2.1 = .ERR_SOCKET_TX_FULL then (m.withSocket out, .SUCCESS)
      else if out.2.1 = .ERR_SOCKET_MSG_TOO_LARGE then
        (if front.msgType = SOCKET_MSG_RESPONSE then (m.withSocket out).strip front rest
          else (m.withSocket out).pop front rest).flushSocketTxQueue
      else if out.2.1 ≠ .SUCCESS then (m.withSocket out, out.2.1)
      else (((m.withSocket out).handed front).pop front rest).flushSocketTxQueue := by
  rw [flushSocketTxQueue]
  split
  case h_1 h =>
    rw [hqueue] at h
    cases h
  case h_2 front' rest' h =>
    rw [hqueue] at h
    cases h
    rw [hs]
    simp only [hidle, Bool.false_eq_true, if_false, hout]
    by_cases hfull : out.2.1 = .ERR_SOCKET_TX_FULL
    · rw [if_pos hfull, if_pos hfull]
      rfl
    · rw [if_neg hfull, if_neg hfull]
      by_cases hlarge : out.2.1 = .ERR_SOCKET_MSG_TOO_LARGE
      · rw [dif_pos hlarge, if_pos hlarge]
        by_cases hresponse : front.msgType = SOCKET_MSG_RESPONSE
        · rw [if_pos hresponse, if_pos hresponse]
          rfl
        · rw [if_neg hresponse, if_neg hresponse]
          rfl
      · rw [dif_neg hlarge, if_neg hlarge]
        rfl

theorem flushRound_step {s : SandboxSocket} {front : PendingSocketMessage}
    {rest : List PendingSocketMessage} (hs : m.socket = some s)
    (hidle : s.hasPendingTxData = false) (hqueue : m.socketTxQueue = front :: rest)
    {out : SandboxSocket × SandboxError × List SendResult}
    (hout : s.sendPending front m.world.sends = out) :
    flushRound m =
      if out.2.1 = .ERR_SOCKET_TX_FULL then .leave (m.withSocket out) .SUCCESS
      else if out.2.1 = .ERR_SOCKET_MSG_TOO_LARGE then
        .again (if front.msgType = SOCKET_MSG_RESPONSE then (m.withSocket out).strip front rest
          else (m.withSocket out).pop front rest) (m.socketTxBytes, front.body.length)
      else if out.2.1 ≠ .SUCCESS then .leave (m.withSocket out) out.2.1
      else .again (((m.withSocket out).handed front).pop front rest)
        (m.socketTxBytes, front.body.length) := by
  simp only [flushRound, hqueue, hs, hidle, hout, Bool.false_eq_true, if_false]

/-- A round does what the loop does, and either leaves it or has less to do. -/
theorem flushRound_cases (m : SandboxMonitor) :
    (∃ m' ret, flushRound m = .leave m' ret ∧ RoundLeave m m' ret) ∨
      ∃ m' sub, flushRound m = .again m' sub ∧ RoundAgain m m' sub := by
  cases hqueue : m.socketTxQueue with
  | nil =>
    refine .inl ⟨m, .SUCCESS, ?_, flushSocketTxQueue_nil hqueue, id⟩
    simp only [flushRound, hqueue]
  | cons front rest =>
    cases hs : m.socket with
    | none =>
      refine .inl ⟨m, .SUCCESS, ?_, ?_, id⟩
      · simp only [flushRound, hqueue, hs]
      · rw [flushSocketTxQueue]
        split
        · rfl
        · rw [hs]
    | some s =>
      cases hidle : s.hasPendingTxData with
      | true =>
        refine .inl ⟨m, .SUCCESS, ?_, ?_, id⟩
        · simp only [flushRound, hqueue, hs, hidle, if_true]
        · rw [flushSocketTxQueue]
          split
          · rfl
          · rw [hs]
            simp only [hidle, if_true]
      | false =>
        generalize hout : s.sendPending front m.world.sends = out
        have hflush := flushSocketTxQueue_step hs hidle hqueue hout
        have hround := flushRound_step hs hidle hqueue hout
        by_cases hfull : out.2.1 = .ERR_SOCKET_TX_FULL
        · rw [if_pos hfull] at hflush hround
          exact .inl ⟨_, _, hround, hflush, fun h => h.withSocket out⟩
        rw [if_neg hfull] at hflush hround
        by_cases hlarge : out.2.1 = .ERR_SOCKET_MSG_TOO_LARGE
        · rw [if_pos hlarge] at hflush hround
          refine .inr ⟨_, _, hround, hflush, ?_, fun h => ?_, fun h => h.front_le hqueue⟩
          · have hbody : tooLarge front = true :=
              decide_eq_true (sendPending_eq_tooLarge (hout.symm ▸ hlarge))
            split
            · -- the response comes round again with a body the socket takes
              have hsmall : tooLarge { front with body := [] } = false := rfl
              rw [roundsLeft, roundsLeft, hqueue]
              show (_ :: rest).length + (_ :: rest).countP tooLarge < _
              rw [List.length_cons, List.length_cons, List.countP_cons, List.countP_cons, hbody,
                hsmall, if_pos rfl, if_neg Bool.false_ne_true]
              omega
            · exact roundsLeft_pop hqueue rfl
          · split
            · exact (h.withSocket out).strip hqueue
            · exact (h.withSocket out).pop hqueue
        rw [if_neg hlarge] at hflush hround
        by_cases hret : out.2.1 = .SUCCESS
        · rw [if_neg (not_not.mpr hret)] at hflush hround
          have hhanded : ((m.withSocket out).handed front).socketTxQueue = front :: rest := by
            unfold SandboxMonitor.handed
            split
            · exact hqueue
            · exact hqueue
          exact .inr ⟨_, _, hround, hflush, roundsLeft_pop hqueue rfl,
            fun h => ((h.withSocket out).handed front).pop hhanded, fun h => h.front_le hqueue⟩
        · rw [if_pos hret] at hflush hround
          exact .inl ⟨_, _, hround, hflush, fun h => h.withSocket out⟩

/-- The loop is left after a bounded number of rounds, with what `flushSocketTxQueue` gives. -/
theorem flushRounds_eq (rounds : Nat) (m : SandboxMonitor) (h : roundsLeft m < rounds)
    (hm : Accounted m) :
    Accounted m.flushSocketTxQueue.1 ∧
      ∃ subs, flushRounds rounds m = some (m.flushSocketTxQueue, subs) ∧ NoUnderflow subs := by
  induction rounds generalizing m with
  | zero => exact absurd h (Nat.not_lt_zero _)
  | succ rounds ih =>
    rcases flushRound_cases m with ⟨m', ret, hround, hleave⟩ | ⟨m', sub, hround, hagain⟩
    · rw [hleave.flush]
      refine ⟨hleave.accounted hm, [], ?_, List.forall_mem_nil _⟩
      rw [flushRounds, hround]
    · have hfewer := hagain.fewer
      obtain ⟨haccounted, subs, hrest, hno⟩ := ih m' (by omega) (hagain.accounted hm)
      rw [hagain.flush]
      refine ⟨haccounted, sub :: subs, ?_, ?_⟩
      · rw [flushRounds, hround]
        simp only [hrest, Option.map_some]
      · intro s hs
        rcases List.mem_cons.mp hs with rfl | hs
        · exact hagain.noUnderflow hm
        · exact hno s hs

theorem roundsLeft_le (m : SandboxMonitor) : roundsLeft m ≤ 2 * m.socketTxQueue.length := by
  have := List.countP_le_length (p := tooLarge) (l := m.socketTxQueue)
  unfold roundsLeft
  omega

end

/-! ### Sequences of calls -/

/-- A call on the queue. A flush finds any socket or none, in any state, and any answers of the
kernel to come. -/
inductive QueueCall where
  | push (message : PendingSocketMessage)
  | flush (socket : Option SandboxSocket) (sends : List SendResult)
  | discard

def facing (m : SandboxMonitor) (socket : Option SandboxSocket) (sends : List SendResult) :
    SandboxMonitor :=
  { m.answering sends with socket := socket }

def queueCall (m : SandboxMonitor) : QueueCall → SandboxMonitor
  | .push message => m.pushSocketMessage message
  | .flush socket sends => (m.facing socket sends).flushSocketTxQueue.1
  | .discard => m.discardAllEvents

def queueCalls (m : SandboxMonitor) (calls : List QueueCall) : SandboxMonitor :=
  calls.foldl queueCall m

theorem Accounted.facing {m : SandboxMonitor} (h : Accounted m) (socket : Option SandboxSocket)
    (sends : List SendResult) : Accounted (m.facing socket sends) :=
  ⟨⟨h.bytes, h.limit⟩, h.count, h.pending⟩

theorem Accounted.flush {m : SandboxMonitor} (h : Accounted m) :
    Accounted m.flushSocketTxQueue.1 ∧ ∃ subs,
      flushRounds (2 * m.socketTxQueue.length + 1) m = some (m.flushSocketTxQueue, subs) ∧
        NoUnderflow subs :=
  flushRounds_eq _ m (Nat.lt_succ_of_le (roundsLeft_le m)) h

theorem Accounted.queueCall {m : SandboxMonitor} (h : Accounted m) (call : QueueCall) :
    Accounted (m.queueCall call) := by
  cases call with
  | push message => exact (h.push message).1
  | flush socket sends => exact (h.facing socket sends).flush.1
  | discard => exact ⟨⟨rfl, Nat.zero_le _⟩, Nat.zero_le _, Nat.zero_le _⟩

theorem ofConfig_accounted (config : MonitorConfig) : Accounted (ofConfig config) :=
  ⟨⟨rfl, Nat.zero_le _⟩, Nat.zero_le _, Nat.zero_le _⟩

theorem queueCalls_accounted {m : SandboxMonitor} (h : Accounted m) (calls : List QueueCall) :
    Accounted (m.queueCalls calls) := by
  induction calls generalizing m with
  | nil => exact h
  | cons call rest ih => exact ih (h.queueCall call)

/-- **The queue is accounted for, whatever is pushed and whatever the socket does**: after any
calls the counts are exact and within their limits, a push parts with the fewest oldest messages,
a flush comes to its end, and neither subtracts more than there is. -/
theorem queueCalls_accounting (config : MonitorConfig) (calls : List QueueCall) :
    let m := (ofConfig config).queueCalls calls
    Accounted m ∧
      (∀ message, Evicts m.socketTxQueue (m.create message)
          (m.pushSocketMessage message).socketTxQueue ∧
        NoUnderflow (m.pushSubtractions message)) ∧
      ∀ socket sends, ∃ subs,
        flushRounds (2 * m.socketTxQueue.length + 1) (m.facing socket sends) =
            some ((m.facing socket sends).flushSocketTxQueue, subs) ∧
          NoUnderflow subs := by
  intro m
  have hm : Accounted m := queueCalls_accounted (ofConfig_accounted config) calls
  exact ⟨hm, fun message => (hm.push message).2,
    fun socket sends => (hm.facing socket sends).flush.2⟩

end SandboxMonitor
end SandboxManager.Claw
