import Mathlib.Data.Nat.Digits.Defs
import SandboxManager.Claw.Delivery
import SandboxManager.Library.Outstanding

/-! What the device is told.

An answer is written for an event whose report was handed to the socket and is not yet
answered. The monitor's table of answerable ids is what shows it, over any interleaving of
reports, answers and evictions. -/
namespace SandboxManager.Claw
open Library

/-- The report of an ASK event goes to the socket. -/
def Exchange.asks (eventId : UInt64) : Exchange → Bool
  | .handed message => message.needsAnswer && message.eventId = eventId
  | .write _ _ => false

/-- An answer is written completely. -/
def Exchange.answers (eventId : UInt64) : Exchange → Bool
  | .handed _ => false
  | .write answer result => answer.eventId = eventId && result = .wrote DEC_EVENT_ANSWER_SIZE

/-- A completed answer, with its action. -/
def Exchange.completed : Exchange → Option (UInt64 × DecPolicyAction)
  | .handed _ => none
  | .write answer result =>
    if result = .wrote DEC_EVENT_ANSWER_SIZE then some (answer.eventId, answer.action) else none

/-- Any use of the device to write to it. -/
def Exchange.isWrite : Exchange → Bool
  | .handed _ => false
  | .write _ _ => true

namespace SandboxMonitor

/-- The table of answerable ids is backed by reports that were handed over. -/
def Backed (m : SandboxMonitor) : Prop :=
  Outstanding Exchange.asks Exchange.answers m.pendingAnswers m.world.exchanges

/-- A message that needs an answer is the report of an event the device produced. -/
def Stems (m : SandboxMonitor) (message : PendingSocketMessage) : Prop :=
  message.needsAnswer = true → message.msgType = SOCKET_MSG_EVENT_REPORT ∧
    (message.eventId, message.body) ∈ m.world.delivered

/-- What waits in the queue and what was handed over stems from the device. -/
structure Sourced (m : SandboxMonitor) : Prop where
  queue : ∀ message ∈ m.socketTxQueue, Stems m message
  handed : ∀ message, .handed message ∈ m.world.exchanges → Stems m message

/-! ### The table -/

theorem Backed.handed {m : SandboxMonitor} (h : Backed m) (message : PendingSocketMessage) :
    Backed (m.handed message) := by
  have hquiet : ∀ eventId, Exchange.answers eventId (.handed message) = false := fun _ => rfl
  unfold SandboxMonitor.handed
  by_cases hneeds : message.needsAnswer = true
  · rw [if_pos hneeds]
    have hasks : Exchange.asks message.eventId (.handed message) = true := by
      simp [Exchange.asks, hneeds]
    refine (h.ask hasks hquiet).forget fun eventId => ?_
    show (_ ++ [message.eventId]).count eventId ≤ _
    rw [List.count_append, List.count_append]
    apply Nat.add_le_add_right
    -- A full table forgets its oldest id first.
    split
    · exact (List.drop_sublist 1 _).count_le eventId
    · exact Nat.le_refl _
  · rw [if_neg hneeds]
    exact h.quiet hquiet

theorem outstanding_interrupted {pending : List UInt64} {log : List Exchange}
    (h : Outstanding Exchange.asks Exchange.answers pending log) (answer : DecEventAnswer)
    (interrupted : Nat) : Outstanding Exchange.asks Exchange.answers pending
      (log ++ List.replicate interrupted (.write answer .interrupted)) := by
  induction interrupted with
  | zero => rwa [List.replicate_zero, List.append_nil]
  | succ k ih =>
    rw [List.replicate_succ', ← List.append_assoc]
    exact ih.quiet fun eventId => by simp [Exchange.answers]

section
variable {Group : Type} {X : Externals Group}

theorem Backed.serves {m m' : SandboxMonitor} {message : ParsedMessage} {ret : SandboxError}
    (h : Backed m) (hserves : Serves X m message m' ret) : Backed m' := by
  cases hserves with
  | unchanged _ => exact h
  | @unanswered eventId action result ret k hanswer hstate hdevice hresult hret =>
    have hquiet : ∀ key, Exchange.answers key (.write (eventAnswer eventId action) result) = false :=
      fun key => by simp [Exchange.answers, hresult]
    have hwritten := (outstanding_interrupted h (eventAnswer eventId action) k).quiet hquiet
    rwa [List.append_assoc] at hwritten
  | @answered eventId action k hanswer hstate hdevice hmem =>
    have hanswers : ∀ key, Exchange.answers key (.write (eventAnswer eventId action)
        (.wrote DEC_EVENT_ANSWER_SIZE)) = decide (key = eventId) := by
      intro key
      show (decide (eventId = key) && true) = decide (key = eventId)
      rw [Bool.and_true]
      exact decide_eq_decide.mpr eq_comm
    have hwritten := (outstanding_interrupted h (eventAnswer eventId action) k).answer hmem hanswers
    rwa [List.append_assoc] at hwritten

theorem Backed.same {m m' : SandboxMonitor} (h : Backed m)
    (hpending : m'.pendingAnswers = m.pendingAnswers)
    (hexchanges : m'.world.exchanges = m.world.exchanges) : Backed m' := by
  unfold Backed
  rw [hpending, hexchanges]
  exact h

theorem pushSocketMessage_answers (m : SandboxMonitor) (message : PendingSocketMessage) :
    (m.pushSocketMessage message).pendingAnswers = m.pendingAnswers ∧
      (m.pushSocketMessage message).world.exchanges = m.world.exchanges := by
  obtain ⟨queue, txBytes, h⟩ := m.pushSocketMessage_eq message
  rw [h]
  exact ⟨rfl, rfl⟩

theorem Backed.push {m : SandboxMonitor} (h : Backed m) (message : PendingSocketMessage) :
    Backed (m.pushSocketMessage message) :=
  h.same (m.pushSocketMessage_answers message).1 (m.pushSocketMessage_answers message).2

theorem Backed.queueResponse {m : SandboxMonitor} (h : Backed m) (message : ParsedMessage)
    (answers : RequestAnswers Group) : Backed (m.queueResponse X message answers) := by
  obtain ⟨m', ret, detail, hserves, heq⟩ := m.queueResponse_cases (X := X) message answers
  have hserve := h.serves hserves
  have hserved : Backed (m'.served ⟨message, ret, detail⟩) := hserve
  rw [heq]
  exact hserved.push _

theorem Backed.queueResponses (messages : List ParsedMessage) {m : SandboxMonitor} (h : Backed m)
    (answers : List (RequestAnswers Group)) : Backed (m.queueResponses X messages answers) :=
  queueResponses_keeps (fun _ message answers h => h.queueResponse message answers) messages h
    answers

theorem Backed.closeSocket {m : SandboxMonitor} (h : Backed m) : Backed m.closeSocket := by
  unfold SandboxMonitor.closeSocket
  split
  · exact h
  · exact h

theorem Backed.degrade {m : SandboxMonitor} (h : Backed m) : Backed m.degrade :=
  h.closeSocket.forget fun _ => Nat.zero_le _

theorem Backed.dropSocketChannel {m : SandboxMonitor} (h : Backed m) :
    Backed m.dropSocketChannel := by
  unfold SandboxMonitor.dropSocketChannel
  dsimp only
  split
  · exact h.closeSocket.degrade
  · exact h.closeSocket

/-- Every move keeps the table backed. -/
theorem Backed.move {m m' : SandboxMonitor} (h : Backed m) (hmove : Move X m m') :
    Backed m' := by
  cases hmove with
  | answering sends => exact h
  | writeEnabled enabled => exact h
  | dropEvent eventId hbody => exact h
  | writable hs => exact h
  | strip hs hqueue hresponse hbody => exact h
  | discard hs hqueue hevent hbody => exact h
  | retry hattempts => exact h
  | reconnect hattempts => exact h
  | closeDevice =>
    unfold SandboxMonitor.closeDevice
    split
    · exact h
    · exact h
  | read hs answers =>
    have hparsed : ∀ s messages, Backed (m.parsed s messages) := fun _ _ => h
    exact (hparsed _ _).queueResponses _ _
  | forward hs hidle hqueue hret =>
    have hsocket : ∀ out, Backed (m.withSocket out) := fun _ => h
    exact (hsocket _).handed _
  | forwardFails hs hidle hqueue hret =>
    have hsocket : ∀ out, Backed (m.withSocket out) := fun _ => h
    exact (hsocket _).dropSocketChannel
  | queueEvent eventId json hway =>
    have hdeliver : Backed (m.deliver eventId json) := h
    exact hdeliver.push _
  | sendEvent eventId json hs hidle hqueue hret =>
    have hsocket : ∀ out message, Backed { (m.deliver eventId json).withSocket out with
        world := { ((m.deliver eventId json).withSocket out).world with
          created := m.world.created ++ [message] } } := fun _ _ => h
    exact (hsocket _ _).handed _
  | sendEventFails eventId json hs hidle hqueue hret =>
    have hsocket : ∀ out, Backed ((m.deliver eventId json).withSocket out) := fun _ => h
    exact ((hsocket _).push _).dropSocketChannel
  | drop hs => exact h.dropSocketChannel
  | degrade => exact h.degrade

/-! ### Where reports stem from -/

theorem Stems.mono {m m' : SandboxMonitor} {message : PendingSocketMessage} (h : Stems m message)
    {events : List (UInt64 × Bytes)}
    (hdelivered : m'.world.delivered = m.world.delivered ++ events) : Stems m' message := by
  intro hneeds
  rw [hdelivered]
  exact ⟨(h hneeds).1, List.mem_append_left _ (h hneeds).2⟩

/-- Nothing comes into the queue or goes to the socket. -/
theorem Sourced.mono {m m' : SandboxMonitor} (h : Sourced m)
    (hqueue : ∀ message ∈ m'.socketTxQueue, message ∈ m.socketTxQueue)
    (hhanded : ∀ message, .handed message ∈ m'.world.exchanges →
      .handed message ∈ m.world.exchanges) {events : List (UInt64 × Bytes)}
    (hdelivered : m'.world.delivered = m.world.delivered ++ events) : Sourced m' :=
  ⟨fun message hmem => (h.queue message (hqueue message hmem)).mono hdelivered,
    fun message hmem => (h.handed message (hhanded message hmem)).mono hdelivered⟩

theorem Sourced.same {m m' : SandboxMonitor} (h : Sourced m)
    (hqueue : ∀ message ∈ m'.socketTxQueue, message ∈ m.socketTxQueue)
    (hexchanges : m'.world.exchanges = m.world.exchanges)
    (hdelivered : m'.world.delivered = m.world.delivered) : Sourced m' :=
  h.mono hqueue (fun _ hmem => hexchanges ▸ hmem) (hdelivered.trans (List.append_nil _).symm)

theorem evictOldest_subset (bodySize : Nat) (queue : List PendingSocketMessage) (txBytes : Nat) :
    ∀ message ∈ (evictOldest bodySize queue txBytes).1, message ∈ queue := by
  induction queue generalizing txBytes with
  | nil => exact fun _ h => h
  | cons front rest ih =>
    unfold evictOldest
    split
    · exact fun message hmem => List.mem_cons_of_mem _ (ih _ message hmem)
    · exact fun _ h => h

theorem pushSocketMessage_queue (m : SandboxMonitor) (message : PendingSocketMessage) :
    ∀ message' ∈ (m.pushSocketMessage message).socketTxQueue,
      message' ∈ m.socketTxQueue ∨ message' = m.create message := by
  unfold pushSocketMessage
  dsimp only
  split
  · exact fun _ h => .inl h
  · intro message' hmem
    rcases List.mem_append.mp hmem with hmem | hmem
    · exact .inl (evictOldest_subset _ _ _ message' hmem)
    · exact .inr (List.mem_singleton.mp hmem)

theorem Sourced.push {m : SandboxMonitor} (h : Sourced m) {message : PendingSocketMessage}
    (hstems : Stems m message) : Sourced (m.pushSocketMessage message) := by
  obtain ⟨queue, txBytes, heq⟩ := m.pushSocketMessage_eq message
  have hdelivered : (m.pushSocketMessage message).world.delivered = m.world.delivered ++ [] := by
    rw [heq, List.append_nil]
  refine ⟨fun message' hmem => ?_, fun message' hmem => ?_⟩
  · rcases m.pushSocketMessage_queue message message' hmem with hmem | hnew
    · exact (h.queue message' hmem).mono hdelivered
    · rw [hnew]
      exact Stems.mono hstems hdelivered
  · rw [(m.pushSocketMessage_answers message).2] at hmem
    exact (h.handed message' hmem).mono hdelivered

theorem exchanges_handed (m : SandboxMonitor) (message : PendingSocketMessage) :
    (m.handed message).world.exchanges = m.world.exchanges ++ [.handed message] := by
  unfold SandboxMonitor.handed
  split <;> rfl

theorem handed_queue (m : SandboxMonitor) (message : PendingSocketMessage) :
    (m.handed message).socketTxQueue = m.socketTxQueue := by
  unfold SandboxMonitor.handed
  split <;> rfl

theorem Sourced.handOver {m : SandboxMonitor} (h : Sourced m) {message : PendingSocketMessage}
    (hstems : Stems m message) : Sourced (m.handed message) := by
  have hdelivered : (m.handed message).world.delivered = m.world.delivered ++ [] := by
    rw [List.append_nil]
    unfold SandboxMonitor.handed
    split <;> rfl
  refine ⟨fun message' hmem => ?_, fun message' hmem => ?_⟩
  · rw [handed_queue] at hmem
    exact (h.queue message' hmem).mono hdelivered
  · rw [exchanges_handed] at hmem
    rcases List.mem_append.mp hmem with hmem | hmem
    · exact (h.handed message' hmem).mono hdelivered
    · cases List.mem_singleton.mp hmem
      exact hstems.mono hdelivered

theorem Sourced.serves {m m' : SandboxMonitor} {message : ParsedMessage} {ret : SandboxError}
    (h : Sourced m) (hserves : Serves X m message m' ret) : Sourced m' := by
  have hwrite : ∀ (answer : DecEventAnswer) k result message',
      Exchange.handed message' ∈ m.world.exchanges ++
        (List.replicate k (.write answer .interrupted) ++ [.write answer result]) →
      Exchange.handed message' ∈ m.world.exchanges := by
    intro answer k result message' hmem
    simpa using hmem
  cases hserves with
  | unchanged _ => exact h
  | unanswered k hanswer hstate hdevice hresult hret =>
    exact h.mono (fun _ hmem => hmem) (fun message' hmem => hwrite _ _ _ message' hmem)
      (List.append_nil _).symm
  | answered k hanswer hstate hdevice hmem =>
    exact h.mono (fun _ hmem => hmem) (fun message' hmem => hwrite _ _ _ message' hmem)
      (List.append_nil _).symm

theorem Sourced.queueResponse {m : SandboxMonitor} (h : Sourced m) (message : ParsedMessage)
    (answers : RequestAnswers Group) : Sourced (m.queueResponse X message answers) := by
  obtain ⟨m', ret, detail, hserves, heq⟩ := m.queueResponse_cases (X := X) message answers
  have hserve := h.serves hserves
  have hserved : Sourced (m'.served ⟨message, ret, detail⟩) := ⟨hserve.queue, hserve.handed⟩
  rw [heq]
  exact hserved.push fun hneeds => by cases hneeds

theorem Sourced.queueResponses (messages : List ParsedMessage) {m : SandboxMonitor}
    (h : Sourced m) (answers : List (RequestAnswers Group)) :
    Sourced (m.queueResponses X messages answers) :=
  queueResponses_keeps (fun _ message answers h => h.queueResponse message answers) messages h
    answers

theorem Sourced.dropSocketChannel {m : SandboxMonitor} (h : Sourced m) :
    Sourced m.dropSocketChannel := by
  have hclose : ∀ m : SandboxMonitor, m.closeSocket.socketTxQueue = m.socketTxQueue ∧
      m.closeSocket.world.exchanges = m.world.exchanges ∧
      m.closeSocket.world.delivered = m.world.delivered := by
    intro m
    unfold SandboxMonitor.closeSocket
    split <;> exact ⟨rfl, rfl, rfl⟩
  obtain ⟨hqueue, hexchanges, hdelivered⟩ := hclose m
  obtain ⟨-, hexchanges', hdelivered'⟩ := hclose m.closeSocket
  unfold SandboxMonitor.dropSocketChannel
  dsimp only
  split
  · exact h.same (fun _ hmem => absurd hmem List.not_mem_nil) (hexchanges'.trans hexchanges)
      (hdelivered'.trans hdelivered)
  · exact h.same (fun _ hmem => hqueue ▸ hmem) hexchanges hdelivered

/-- Every move keeps the sources. -/
theorem Sourced.move {m m' : SandboxMonitor} (h : Sourced m) (hmove : Move X m m') :
    Sourced m' := by
  have hdeliver : ∀ eventId json, Sourced (m.deliver eventId json) :=
    fun _ _ => h.mono (fun _ hmem => hmem) (fun _ hmem => hmem) rfl
  have hnew : ∀ eventId json serial, Stems (m.deliver eventId json)
      ⟨SOCKET_MSG_EVENT_REPORT, 0, 0, eventId, true, json, serial⟩ :=
    fun _ _ _ _ => ⟨rfl, List.mem_append_right _ (List.mem_singleton.mpr rfl)⟩
  cases hmove with
  | answering sends => exact ⟨h.queue, h.handed⟩
  | writeEnabled enabled => exact ⟨h.queue, h.handed⟩
  | writable hs => exact ⟨h.queue, h.handed⟩
  | retry hattempts => exact ⟨h.queue, h.handed⟩
  | reconnect hattempts => exact ⟨h.queue, h.handed⟩
  | dropEvent eventId hbody => exact hdeliver _ _
  | closeDevice =>
    unfold SandboxMonitor.closeDevice
    split
    · exact h
    · exact ⟨h.queue, h.handed⟩
  | read hs answers =>
    have hparsed : ∀ s messages, Sourced (m.parsed s messages) := fun _ _ => ⟨h.queue, h.handed⟩
    exact (hparsed _ _).queueResponses _ _
  | @forward s front rest hs hidle hqueue hret =>
    have hsocket : Sourced (m.withSocket (s.sendPending front m.world.sends)) := ⟨h.queue, h.handed⟩
    have hhanded := hsocket.handOver (h.queue front (hqueue ▸ List.mem_cons_self ..))
    have hqueue' := (handed_queue (m.withSocket (s.sendPending front m.world.sends)) front).trans hqueue
    exact ⟨fun message hmem => hhanded.queue message (hqueue' ▸ List.mem_cons_of_mem _ hmem),
      hhanded.handed⟩
  | forwardFails hs hidle hqueue hret =>
    have hsocket : ∀ out, Sourced (m.withSocket out) := fun _ => ⟨h.queue, h.handed⟩
    exact (hsocket _).dropSocketChannel
  | @strip front rest hs hqueue hresponse hbody =>
    refine ⟨fun message hmem => ?_, h.handed⟩
    rcases List.mem_cons.mp hmem with hfront | hmem
    · rw [hfront]
      intro hneeds
      have hevent := (h.queue front (hqueue ▸ List.mem_cons_self ..) hneeds).1
      rw [hresponse] at hevent
      cases hevent
    · exact h.queue message (hqueue ▸ List.mem_cons_of_mem _ hmem)
  | discard hs hqueue hevent hbody =>
    exact ⟨fun message hmem => h.queue message (hqueue ▸ List.mem_cons_of_mem _ hmem), h.handed⟩
  | queueEvent eventId json hway => exact (hdeliver _ _).push (hnew eventId json 0)
  | @sendEvent s eventId json hs hidle hqueue hret =>
    have hcreated : ∀ out message, Sourced { (m.deliver eventId json).withSocket out with
        world := { ((m.deliver eventId json).withSocket out).world with
          created := m.world.created ++ [message] } } :=
      fun _ _ => ⟨(hdeliver eventId json).queue, (hdeliver eventId json).handed⟩
    exact (hcreated _ _).handOver (hnew eventId json m.world.created.length)
  | sendEventFails eventId json hs hidle hqueue hret =>
    have hsocket : ∀ out, Sourced ((m.deliver eventId json).withSocket out) :=
      fun _ => ⟨(hdeliver eventId json).queue, (hdeliver eventId json).handed⟩
    exact ((hsocket _).push (hnew eventId json 0)).dropSocketChannel
  | drop hs => exact h.dropSocketChannel
  | degrade =>
    refine ⟨fun message hmem => absurd hmem List.not_mem_nil, ?_⟩
    have hclose : m.closeSocket.world.exchanges = m.world.exchanges ∧
        m.closeSocket.world.delivered = m.world.delivered := by
      unfold SandboxMonitor.closeSocket
      split <;> exact ⟨rfl, rfl⟩
    intro message hmem
    have hmem' : .handed message ∈ m.world.exchanges := hclose.1 ▸ hmem
    exact (h.handed message hmem').mono (hclose.2.trans (List.append_nil _).symm)

/-! ### Answers and requests -/

/-- The answer a request that succeeded stands for. -/
def answerGiven (X : Externals Group) (request : Served) : Option (UInt64 × DecPolicyAction) :=
  if request.ret = .SUCCESS then answerOf X request.message else none

/-- The answers written completely are those of the requests that succeeded. -/
def Faithful (X : Externals Group) (m : SandboxMonitor) : Prop :=
  m.world.exchanges.filterMap Exchange.completed = m.world.served.filterMap (answerGiven X)

theorem completed_wrote (answer : DecEventAnswer) (k : Nat) (result : WriteResult) :
    (List.replicate k (Exchange.write answer .interrupted) ++
      [Exchange.write answer result]).filterMap Exchange.completed =
        (Exchange.completed (.write answer result)).toList := by
  have hnone : ∀ k, (List.replicate k (Exchange.write answer .interrupted)).filterMap
      Exchange.completed = [] := by
    intro k
    induction k with
    | zero => rfl
    | succ k ih => exact ih
  rw [List.filterMap_append, hnone, List.nil_append]
  cases h : Exchange.completed (.write answer result) <;> simp [h]

/-- What serving a request writes is what the request says. -/
theorem Serves.completed {m m' : SandboxMonitor} {message : ParsedMessage} {ret : SandboxError}
    (h : Serves X m message m' ret) (detail : Bytes) :
    m'.world.exchanges.filterMap Exchange.completed =
      m.world.exchanges.filterMap Exchange.completed ++
        (answerGiven X ⟨message, ret, detail⟩).toList := by
  cases h with
  | unchanged hnone =>
    have hanswered : answerGiven X ⟨message, ret, detail⟩ = none := by
      unfold answerGiven
      split
      case isTrue hsuccess => exact hnone.resolve_right fun hne => hne hsuccess
      case isFalse => rfl
    rw [hanswered, Option.toList_none, List.append_nil]
  | @unanswered eventId action result ret k hanswer hstate hdevice hresult hret =>
    have hanswered : answerGiven X ⟨message, ret, detail⟩ = none := if_neg hret
    have hcompleted : Exchange.completed (.write (eventAnswer eventId action) result) = none :=
      if_neg hresult
    show (m.world.exchanges ++ _).filterMap _ = _
    rw [List.filterMap_append, completed_wrote, hanswered, hcompleted]
  | @answered eventId action k hanswer hstate hdevice hmem =>
    have hanswered : answerGiven X ⟨message, .SUCCESS, detail⟩ =
        some (eventId, action) := (if_pos rfl).trans hanswer
    show (m.world.exchanges ++ _).filterMap _ = _
    rw [List.filterMap_append, completed_wrote, hanswered]
    rfl

theorem Faithful.queueResponse {m : SandboxMonitor} (h : Faithful X m) (message : ParsedMessage)
    (answers : RequestAnswers Group) : Faithful X (m.queueResponse X message answers) := by
  obtain ⟨m', ret, detail, hserves, heq⟩ := m.queueResponse_cases (X := X) message answers
  have hserved : (m'.served ⟨message, ret, detail⟩).world.served =
      m.world.served ++ [⟨message, ret, detail⟩] := congrArg (· ++ _) hserves.records.2.1
  rw [heq, pushResponse]
  unfold Faithful
  rw [(pushSocketMessage_answers _ _).2, (pushSocketMessage_records _ _).2.1, hserved,
    List.filterMap_append, ← h]
  refine (hserves.completed detail).trans (congrArg (_ ++ ·) ?_)
  cases hgiven : answerGiven X ⟨message, ret, detail⟩ <;> simp [hgiven]

theorem Faithful.queueResponses (messages : List ParsedMessage) {m : SandboxMonitor}
    (h : Faithful X m) (answers : List (RequestAnswers Group)) :
    Faithful X (m.queueResponses X messages answers) :=
  queueResponses_keeps (fun _ message answers h => h.queueResponse message answers) messages h
    answers

theorem Faithful.same {m m' : SandboxMonitor} (h : Faithful X m)
    (hserved : m'.world.served = m.world.served)
    (hcompleted : m'.world.exchanges.filterMap Exchange.completed =
      m.world.exchanges.filterMap Exchange.completed) : Faithful X m' := by
  unfold Faithful
  rw [hserved, hcompleted]
  exact h

theorem completed_handed (m : SandboxMonitor) (message : PendingSocketMessage) :
    (m.handed message).world.exchanges.filterMap Exchange.completed =
      m.world.exchanges.filterMap Exchange.completed := by
  rw [exchanges_handed, List.filterMap_append]
  exact List.append_nil _

theorem closeSocket_exchanges (m : SandboxMonitor) :
    m.closeSocket.world.exchanges = m.world.exchanges := by
  unfold SandboxMonitor.closeSocket
  split <;> rfl

theorem dropSocketChannel_exchanges (m : SandboxMonitor) :
    m.dropSocketChannel.world.exchanges = m.world.exchanges := by
  unfold SandboxMonitor.dropSocketChannel
  dsimp only
  split
  · exact m.closeSocket.closeSocket_exchanges.trans m.closeSocket_exchanges
  · exact m.closeSocket_exchanges

/-- Every move writes what the app said. -/
theorem Faithful.move {m m' : SandboxMonitor} (h : Faithful X m) (hmove : Move X m m') :
    Faithful X m' := by
  have hdrop : ∀ m₁ : SandboxMonitor, m₁.world.served = m.world.served →
      m₁.world.exchanges = m.world.exchanges → Faithful X m₁.dropSocketChannel := by
    intro m₁ hserved hexchanges
    refine h.same (m₁.sameRecords_dropSocketChannel.2.1.trans hserved) ?_
    rw [dropSocketChannel_exchanges, hexchanges]
  cases hmove with
  | answering sends => exact h
  | writeEnabled enabled => exact h
  | writable hs => exact h
  | retry hattempts => exact h
  | reconnect hattempts => exact h
  | dropEvent eventId hbody => exact h
  | strip hs hqueue hresponse hbody => exact h
  | discard hs hqueue hevent hbody => exact h
  | closeDevice =>
    unfold SandboxMonitor.closeDevice
    split
    · exact h
    · exact h
  | read hs answers =>
    have hparsed : ∀ s messages, Faithful X (m.parsed s messages) := fun _ _ => h
    exact (hparsed _ _).queueResponses _ _
  | forward hs hidle hqueue hret =>
    exact h.same (sameRecords_handed (m.withSocket _) _).2.1 (completed_handed (m.withSocket _) _)
  | sendEvent eventId json hs hidle hqueue hret =>
    exact h.same (createEvent_records ((m.deliver eventId json).withSocket _) _ _).2.1
      (completed_handed _ _)
  | forwardFails hs hidle hqueue hret => exact hdrop (m.withSocket _) rfl rfl
  | queueEvent eventId json hway =>
    refine h.same (pushSocketMessage_records (m.deliver eventId json) _).2.1 ?_
    exact congrArg _ (pushSocketMessage_answers (m.deliver eventId json) _).2
  | sendEventFails eventId json hs hidle hqueue hret =>
    exact hdrop (((m.deliver eventId json).withSocket _).pushEventReport eventId true json)
      (pushSocketMessage_records _ _).2.1 (pushSocketMessage_answers _ _).2
  | drop hs => exact hdrop m rfl rfl
  | degrade => exact h.same m.sameRecords_closeSocket.2.1 (congrArg _ m.closeSocket_exchanges)

/-! ### Silence -/

/-- The monitor cannot write to the device. -/
def Mute (m : SandboxMonitor) : Prop := m.state = .DEGRADED ∨ m.deviceFd < 0

def writes (m : SandboxMonitor) : List Exchange := m.world.exchanges.filter Exchange.isWrite

/-- Nothing is written, and a closed device stays closed. -/
def Quiet (m m' : SandboxMonitor) : Prop := m'.deviceFd = m.deviceFd ∧ m'.writes = m.writes

theorem Quiet.trans {m m₁ m' : SandboxMonitor} (h : Quiet m m₁) (h' : Quiet m₁ m') : Quiet m m' :=
  ⟨h'.1.trans h.1, h'.2.trans h.2⟩

theorem quiet_handed (m : SandboxMonitor) (message : PendingSocketMessage) :
    Quiet m (m.handed message) := by
  refine ⟨?_, ?_⟩
  · unfold SandboxMonitor.handed
    split <;> rfl
  · unfold writes
    rw [exchanges_handed, List.filter_append]
    exact List.append_nil _

theorem quiet_push (m : SandboxMonitor) (message : PendingSocketMessage) :
    Quiet m (m.pushSocketMessage message) :=
  ⟨m.pushSocketMessage_deviceFd message,
    congrArg (List.filter Exchange.isWrite) (m.pushSocketMessage_answers message).2⟩

theorem quiet_dropSocketChannel (m : SandboxMonitor) : Quiet m m.dropSocketChannel := by
  have hclose : ∀ m : SandboxMonitor, m.closeSocket.deviceFd = m.deviceFd := by
    intro m
    unfold SandboxMonitor.closeSocket
    split <;> rfl
  refine ⟨?_, congrArg (List.filter Exchange.isWrite) m.dropSocketChannel_exchanges⟩
  unfold SandboxMonitor.dropSocketChannel
  dsimp only
  split
  · exact (hclose _).trans (hclose m)
  · exact hclose m

/-- Without a device no request makes the monitor write. -/
theorem quiet_queueResponses (messages : List ParsedMessage) {m : SandboxMonitor}
    (h : m.deviceFd < 0) (answers : List (RequestAnswers Group)) :
    Quiet m (m.queueResponses X messages answers) := by
  induction messages generalizing m answers with
  | nil => exact ⟨rfl, rfl⟩
  | cons message rest ih =>
    obtain ⟨m', ret, detail, hserves, heq⟩ :=
      m.queueResponse_cases (X := X) message (answers.headD {})
    have hsame : m' = m := by
      cases hserves with
      | unchanged _ => rfl
      | unanswered _ _ _ hdevice _ _ => omega
      | answered _ _ _ hdevice _ => omega
    subst hsame
    have hpush : Quiet m' (m'.queueResponse X message (answers.headD {})) := by
      rw [heq]
      exact quiet_push (m'.served ⟨message, ret, detail⟩) _
    rw [queueResponses_cons]
    exact hpush.trans (ih (hpush.1.symm ▸ h) answers.tail)

/-- A monitor that cannot write to the device does not, and never can again. -/
theorem Mute.move {m m' : SandboxMonitor} (h : Mute m) (hconsistent : Consistent m)
    (hmove : Move X m m') : Mute m' ∧ m'.writes = m.writes := by
  -- A degraded monitor has no socket, so whatever has one has lost its device.
  have hlive : m.socket.isSome → m.deviceFd < 0 := by
    intro hs
    refine h.resolve_left fun hd => ?_
    rw [(hconsistent.degraded hd).1] at hs
    cases hs
  have hquiet : Quiet m m' → Mute m' ∧ m'.writes = m.writes := by
    intro hquiet
    refine ⟨?_, hquiet.2⟩
    rcases h with hd | hdevice
    · exact .inl (hconsistent.move_degraded hmove hd)
    · exact .inr (hquiet.1.symm ▸ hdevice)
  cases hmove with
  | answering sends => exact hquiet ⟨rfl, rfl⟩
  | writeEnabled enabled => exact hquiet ⟨rfl, rfl⟩
  | writable hs => exact hquiet ⟨rfl, rfl⟩
  | retry hattempts => exact hquiet ⟨rfl, rfl⟩
  | reconnect hattempts => exact hquiet ⟨rfl, rfl⟩
  | dropEvent eventId hbody => exact hquiet ⟨rfl, rfl⟩
  | strip hs hqueue hresponse hbody => exact hquiet ⟨rfl, rfl⟩
  | discard hs hqueue hevent hbody => exact hquiet ⟨rfl, rfl⟩
  | closeDevice =>
    unfold SandboxMonitor.closeDevice
    split
    · exact ⟨h, rfl⟩
    · exact ⟨.inr (by show (-1 : Int) < 0; decide), rfl⟩
  | read hs answers =>
    have hparsed : ∀ s messages, Quiet m (m.parsed s messages) := fun _ _ => ⟨rfl, rfl⟩
    have hdevice : ∀ s messages, (m.parsed s messages).deviceFd < 0 := fun _ _ => hlive (hs ▸ rfl)
    exact hquiet ((hparsed _ _).trans (quiet_queueResponses _ (hdevice _ _) _))
  | forward hs hidle hqueue hret =>
    have hsocket : ∀ out, Quiet m (m.withSocket out) := fun _ => ⟨rfl, rfl⟩
    exact hquiet ((hsocket _).trans (quiet_handed _ _))
  | sendEvent eventId json hs hidle hqueue hret =>
    have hcreated : ∀ out message, Quiet m { (m.deliver eventId json).withSocket out with
        world := { ((m.deliver eventId json).withSocket out).world with
          created := m.world.created ++ [message] } } := fun _ _ => ⟨rfl, rfl⟩
    exact hquiet ((hcreated _ _).trans (quiet_handed _ _))
  | forwardFails hs hidle hqueue hret =>
    have hsocket : ∀ out, Quiet m (m.withSocket out) := fun _ => ⟨rfl, rfl⟩
    exact hquiet ((hsocket _).trans (quiet_dropSocketChannel _))
  | queueEvent eventId json hway =>
    have hdeliver : Quiet m (m.deliver eventId json) := ⟨rfl, rfl⟩
    exact hquiet (hdeliver.trans (quiet_push _ _))
  | sendEventFails eventId json hs hidle hqueue hret =>
    have hsocket : ∀ out, Quiet m ((m.deliver eventId json).withSocket out) := fun _ => ⟨rfl, rfl⟩
    exact hquiet ((hsocket _).trans ((quiet_push _ _).trans (quiet_dropSocketChannel _)))
  | drop hs => exact hquiet m.quiet_dropSocketChannel
  | degrade =>
    exact ⟨.inl rfl, congrArg (List.filter Exchange.isWrite) m.closeSocket_exchanges⟩

theorem Mute.moves {m m' : SandboxMonitor} (h : Mute m) (hconsistent : Consistent m)
    (hmoves : Moves X m m') : Mute m' ∧ m'.writes = m.writes := by
  induction hmoves with
  | refl => exact ⟨h, rfl⟩
  | tail hmoves hmove ih =>
    obtain ⟨hmute, hwrites⟩ := ih.1.move (hconsistent.moves hmoves).1 hmove
    exact ⟨hmute, hwrites.trans ih.2⟩

/-! ### Runs -/

/-- A request that does not succeed leaves the table as it was. -/
theorem queueResponse_keeps (m : SandboxMonitor) (message : ParsedMessage)
    (answers : RequestAnswers Group) (h : (serve X m message answers).2.1 ≠ .SUCCESS) :
    (m.queueResponse X message answers).pendingAnswers = m.pendingAnswers := by
  have hserves := serve_serves (X := X) m message answers
  generalize hout : serve X m message answers = out at hserves h
  obtain ⟨m', ret, detail⟩ := out
  have hsame : m'.pendingAnswers = m.pendingAnswers := by
    cases hserves with
    | unchanged _ => rfl
    | unanswered _ _ _ _ _ _ => rfl
    | answered _ _ _ _ _ => exact absurd rfl h
  rw [queueResponse_eq m message answers hout]
  exact (pushSocketMessage_answers _ _).1.trans hsame

/-- An answer for an id in the table succeeds once the device takes it. -/
theorem serve_success {m : SandboxMonitor} {message : ParsedMessage} {eventId : UInt64}
    {action : DecPolicyAction} (h : answerOf X message = some (eventId, action))
    (hmem : eventId ∈ m.pendingAnswers) (hmute : ¬ Mute m) {answers : RequestAnswers Group}
    (hwrites : answers.writes.head? = some (.wrote DEC_EVENT_ANSWER_SIZE)) :
    (serve X m message answers).2.1 = .SUCCESS := by
  unfold answerOf at h
  split at h
  case isFalse => cases h
  case isTrue hkind =>
    have htype : message.header.msgType ≠ SOCKET_MSG_ADD_POLICY := by
      rw [hkind.2]
      decide
    have hready : ¬ (m.state = .DEGRADED ∨ m.deviceFd < 0) := hmute
    have hwrite : (m.writeEventAnswer eventId action answers.writes).2 = .SUCCESS := by
      obtain ⟨rest, hrest⟩ := List.head?_eq_some_iff.mp hwrites
      rw [hrest]
      rfl
    unfold serve dispatchSocketMessage
    rw [if_pos hkind.1, if_neg htype, if_pos hkind.2]
    unfold handleEventAnswer
    rw [if_neg hready, h]
    dsimp only
    rw [if_neg (not_not.mpr hmem), hwrite]
    rfl

/-! ### What the app names -/

/-- The body names the event by its number in decimal, and allows or denies it. -/
def Names (X : Externals Group) (body : Bytes) (eventId : UInt64) (action : DecPolicyAction) :
    Prop :=
  ∃ root idText actionText, X.cJSON_Parse (cStr body) = some root ∧
    Json.stringOf (root.getObjectItemCaseSensitive (bytes "event_id")) = some idText ∧
    Json.stringOf (root.getObjectItemCaseSensitive (bytes "action")) = some actionText ∧
    idText ≠ [] ∧ (∀ c ∈ idText, 48 ≤ c ∧ c ≤ 57) ∧
    Nat.ofDigits 10 (idText.reverse.map fun c => c.toNat - 48) = eventId.toNat ∧
    (actionText = bytes "allow" ∧ action = .ALLOW ∨ actionText = bytes "deny" ∧ action = .DENY)

/-- A number that is read is the one the digits stand for. -/
theorem parseDecimalU64_digits {text : Bytes} {value : UInt64}
    (h : parseDecimalU64 text = some value) :
    text ≠ [] ∧ (∀ c ∈ text, 48 ≤ c ∧ c ≤ 57) ∧
      Nat.ofDigits 10 (text.reverse.map fun c => c.toNat - 48) = value.toNat := by
  unfold parseDecimalU64 at h
  dsimp only at h
  split at h
  case isFalse => cases h
  case isTrue hlegal =>
    obtain ⟨hne, hdigits, hrange⟩ := hlegal
    cases h
    refine ⟨hne, fun c hc => ?_, ?_⟩
    · have hc := List.all_eq_true.mp hdigits c hc
      rwa [Bool.and_eq_true, decide_eq_true_iff, decide_eq_true_iff] at hc
    · rw [UInt64.toNat_ofNat_of_lt' hrange, Nat.ofDigits_eq_foldr, List.foldr_map, List.foldr_reverse]
      exact congrArg (fun f => text.foldl f 0) (funext fun n => funext fun c => Nat.add_comm _ _)

theorem parseEventAction_text {text : Bytes} {action : DecPolicyAction}
    (h : parseEventAction text = some action) :
    text = bytes "allow" ∧ action = .ALLOW ∨ text = bytes "deny" ∧ action = .DENY := by
  unfold parseEventAction at h
  split at h
  case isTrue hallow =>
    cases h
    exact .inl ⟨hallow, rfl⟩
  case isFalse =>
    split at h
    case isTrue hdeny =>
      cases h
      exact .inr ⟨hdeny, rfl⟩
    case isFalse => cases h

/-- The answer a message carries is the one its body names. -/
theorem names_of_answerOf {message : ParsedMessage} {eventId : UInt64} {action : DecPolicyAction}
    (h : answerOf X message = some (eventId, action)) : Names X message.body eventId action := by
  unfold answerOf at h
  split at h
  case isFalse => cases h
  case isTrue =>
    unfold parseEventAnswer at h
    split at h
    case isTrue => cases h
    case isFalse =>
      split at h
      case h_1 => cases h
      case h_2 root hroot =>
        split at h
        case h_2 => cases h
        case h_1 idText actionText hid haction =>
          split at h
          case h_2 => cases h
          case h_1 hnumber hkind =>
            cases h
            obtain ⟨hne, hdigits, hvalue⟩ := parseDecimalU64_digits hnumber
            exact ⟨root, idText, actionText, hroot, hid, haction, hne, hdigits, hvalue,
              parseEventAction_text hkind⟩

/-- An answer that was written completely is named by the body of a request that succeeded. -/
theorem Faithful.named {m : SandboxMonitor} (h : Faithful X m) {answer : DecEventAnswer}
    (hwritten : .write answer (.wrote DEC_EVENT_ANSWER_SIZE) ∈ m.world.exchanges) :
    ∃ request ∈ m.world.served, request.ret = .SUCCESS ∧
      Names X request.message.body answer.eventId answer.action := by
  have hmem : (answer.eventId, answer.action) ∈ m.world.exchanges.filterMap Exchange.completed :=
    List.mem_filterMap.mpr ⟨_, hwritten, by simp [Exchange.completed]⟩
  rw [h] at hmem
  obtain ⟨request, hserved, hgiven⟩ := List.mem_filterMap.mp hmem
  unfold answerGiven at hgiven
  split at hgiven
  case isFalse => cases hgiven
  case isTrue hsuccess => exact ⟨request, hserved, hsuccess, names_of_answerOf hgiven⟩

/-- What passed between the app and the device: an answer follows an unanswered report of
an event the device asked about, and says what the texts of the app's body name; one that
fails can be given again. -/
structure Exchanged (X : Externals Group) (m : SandboxMonitor) : Prop where
  justified : Justified Exchange.asks Exchange.answers m.world.exchanges
  stems : ∀ message, .handed message ∈ m.world.exchanges → Stems m message
  faithful : m.world.exchanges.filterMap Exchange.completed =
    m.world.served.filterMap (answerGiven X)
  reads : ∀ (message : ParsedMessage) (eventId : UInt64) (action : DecPolicyAction),
    answerOf X message = some (eventId, action) → Names X message.body eventId action
  named : ∀ answer, .write answer (.wrote DEC_EVENT_ANSWER_SIZE) ∈ m.world.exchanges →
    ∃ request ∈ m.world.served, request.ret = .SUCCESS ∧
      Names X request.message.body answer.eventId answer.action
  keeps : ∀ message answers, (serve X m message answers).2.1 ≠ .SUCCESS →
    (m.queueResponse X message answers).pendingAnswers = m.pendingAnswers
  answerable : ∀ (message : ParsedMessage) (eventId : UInt64) (action : DecPolicyAction)
    (answers : RequestAnswers Group), answerOf X message = some (eventId, action) →
      eventId ∈ m.pendingAnswers → ¬ Mute m →
      answers.writes.head? = some (.wrote DEC_EVENT_ANSWER_SIZE) →
      (serve X m message answers).2.1 = .SUCCESS

end

/-- **Only reported events are answered**, in every run, once for each time they were
reported and as the texts of the app's answer name event and action; and nothing is written to
the device once the monitor has degraded or closed it. -/
theorem run_exchanged {Group : Type} (X : Externals Group) (config : MonitorConfig)
    (waits : List WaitResult) (rs : List (Round Group)) :
    Exchanged X (run X config waits rs).1 ∧
      (Mute (run X config waits rs).1 → ∀ later,
        (run X config waits (rs ++ later)).1.writes = (run X config waits rs).1.writes) := by
  have hinvariants : (Backed (run X config waits rs).1 ∧ Sourced (run X config waits rs).1) ∧
      Faithful X (run X config waits rs).1 := by
    refine run_induction (X := X) (P := fun m => (Backed m ∧ Sourced m) ∧ Faithful X m) config
      waits rs ⟨⟨Outstanding.nil, fun _ h => absurd h List.not_mem_nil,
        fun _ h => absurd h List.not_mem_nil⟩, rfl⟩ ?_
    intro m m' _ ih hmove
    exact ⟨⟨ih.1.1.move hmove, ih.1.2.move hmove⟩, ih.2.move hmove⟩
  obtain ⟨⟨hbacked, hsourced⟩, hfaithful⟩ := hinvariants
  refine ⟨⟨hbacked.justified, hsourced.handed, hfaithful, fun _ _ _ => names_of_answerOf,
    fun _ => hfaithful.named, fun message answers h => queueResponse_keeps _ message answers h,
    fun message eventId action answers h hmem hmute hwrites =>
      serve_success h hmem hmute hwrites⟩, fun hmute later => ?_⟩
  have hconsistent := ((ofConfig_consistent config).moves (run_moves (X := X) config waits rs)).1
  exact (hmute.moves hconsistent (run_append_moves config waits rs later)).2

end SandboxMonitor

end SandboxManager.Claw
