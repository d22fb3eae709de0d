import SandboxManager.Claw.Moves

/-! The monitor's state machine.

`Consistent` relates the state to the socket, the attempts left and the two tables. Every
move keeps it, makes no fault and does not leave DEGRADED; `run_consistent` is the
statement for whole runs. -/
namespace SandboxManager.Claw

namespace SandboxMonitor

/-- What the three states mean for the rest of the monitor. -/
structure Consistent (m : SandboxMonitor) : Prop where
  reconnecting : m.state = .RECONNECTING → m.socket = none ∧ 1 ≤ m.reconnectAttemptsLeft ∧
    m.reconnectAttemptsLeft ≤ MONITOR_RECONNECT_MAX_ATTEMPTS
  degraded : m.state = .DEGRADED → m.socket = none ∧ m.reconnectAttemptsLeft = 0 ∧
    m.socketTxQueue = [] ∧ m.pendingAnswers = []
  active : m.state = .ACTIVE → m.reconnectAttemptsLeft = 0
  queued : m.socketTxQueue ≠ [] → m.socket.isSome ∨ m.state = .RECONNECTING

/-- The members an operation on the channel leaves alone. -/
structure Steady (m m' : SandboxMonitor) : Prop where
  socket : m.socket.isSome → m'.socket.isSome
  state : m'.state = m.state
  attempts : m'.reconnectAttemptsLeft = m.reconnectAttemptsLeft
  faults : m'.world.faults = m.world.faults

theorem Steady.trans {m m₁ m' : SandboxMonitor} (h : Steady m m₁) (h' : Steady m₁ m') :
    Steady m m' :=
  ⟨fun hs => h'.socket (h.socket hs), h'.state.trans h.state, h'.attempts.trans h.attempts,
    h'.faults.trans h.faults⟩

/-- With a socket there is nothing else to keep. -/
theorem Consistent.steady {m m' : SandboxMonitor} (h : Consistent m) (hs : m.socket.isSome)
    (hsteady : Steady m m') : Consistent m' := by
  have hstate : m.state = .ACTIVE := by
    cases hstate : m.state with
    | ACTIVE => rfl
    | RECONNECTING => simp [(h.reconnecting hstate).1] at hs
    | DEGRADED => simp [(h.degraded hstate).1] at hs
  have hstate' := hsteady.state.trans hstate
  refine ⟨?_, ?_, ?_, ?_⟩
  · intro hr
    rw [hstate'] at hr
    cases hr
  · intro hd
    rw [hstate'] at hd
    cases hd
  · intro _
    rw [hsteady.attempts, h.active hstate]
  · intro _
    exact .inl (hsteady.socket hs)

/-! ### What the operations leave alone -/

theorem steady_handed (m : SandboxMonitor) (message : PendingSocketMessage) :
    Steady m (m.handed message) := by
  refine ⟨fun hs => (handed_socket m message).symm ▸ hs, ?_, ?_, ?_⟩ <;> unfold handed <;> split <;> rfl

theorem steady_pushSocketMessage (m : SandboxMonitor) (message : PendingSocketMessage) :
    Steady m (m.pushSocketMessage message) := by
  obtain ⟨queue, txBytes, h⟩ := m.pushSocketMessage_eq message
  rw [h]
  exact ⟨id, rfl, rfl, rfl⟩

section
variable {Group : Type} {X : Externals Group}

theorem Serves.steady {m m' : SandboxMonitor} {message : ParsedMessage} {ret : SandboxError}
    (h : Serves X m message m' ret) : Steady m m' := by
  cases h <;> exact ⟨id, rfl, rfl, rfl⟩

theorem steady_queueResponse (m : SandboxMonitor) (message : ParsedMessage)
    (answers : RequestAnswers Group) : Steady m (m.queueResponse X message answers) := by
  obtain ⟨m', ret, detail, hserves, heq⟩ := m.queueResponse_cases (X := X) message answers
  have hrecord : Steady m' (m'.served ⟨message, ret, detail⟩) := ⟨id, rfl, rfl, rfl⟩
  rw [heq]
  exact hserves.steady.trans (hrecord.trans (steady_pushSocketMessage _ _))

theorem steady_queueResponses (messages : List ParsedMessage) (m : SandboxMonitor)
    (answers : List (RequestAnswers Group)) :
    Steady m (m.queueResponses X messages answers) :=
  queueResponses_keeps (fun m' message answers h => h.trans (steady_queueResponse m' message answers))
    messages ⟨id, rfl, rfl, rfl⟩ answers

theorem steady_withSocket (m : SandboxMonitor)
    (out : SandboxSocket × SandboxError × List SendResult) : Steady m (m.withSocket out) :=
  ⟨fun _ => rfl, rfl, rfl, rfl⟩

theorem steady_pop (m : SandboxMonitor) (front : PendingSocketMessage)
    (rest : List PendingSocketMessage) : Steady m (m.pop front rest) :=
  ⟨id, rfl, rfl, rfl⟩

theorem steady_deliver (m : SandboxMonitor) (eventId : UInt64) (json : Bytes) :
    Steady m (m.deliver eventId json) :=
  ⟨id, rfl, rfl, rfl⟩

theorem steady_createEvent (m : SandboxMonitor) (eventId : UInt64) (json : Bytes) :
    Steady m (m.createEvent eventId json) := by
  have hcreate : ∀ message : PendingSocketMessage,
      Steady m { m with world := { m.world with created := m.world.created ++ [message] } } :=
    fun _ => ⟨id, rfl, rfl, rfl⟩
  exact (hcreate _).trans (steady_handed _ _)

theorem steady_pushEventReport (m : SandboxMonitor) (eventId : UInt64) (json : Bytes) :
    Steady m (m.pushEventReport eventId true json) :=
  steady_pushSocketMessage m _

theorem steady_readAndAnswer (m : SandboxMonitor) (s : SandboxSocket)
    (answers : SocketAnswers Group) : Steady m (m.readAndAnswer X s answers) := by
  have hread : ∀ s' messages, Steady m (m.parsed s' messages) :=
    fun _ _ => ⟨fun _ => rfl, rfl, rfl, rfl⟩
  exact (hread _ _).trans (steady_queueResponses _ _ _)

/-! ### Losing the channel -/

theorem closeSocket_socket (m : SandboxMonitor) : m.closeSocket.socket = none := by
  unfold closeSocket
  split
  · assumption
  · rfl

theorem closeSocket_faults (m : SandboxMonitor) : m.closeSocket.world.faults = m.world.faults := by
  unfold closeSocket
  split <;> rfl

/-- While it tries to reconnect, only the channel and the attempts matter. -/
theorem consistent_of_reconnecting {m : SandboxMonitor} (hstate : m.state = .RECONNECTING)
    (hnone : m.socket = none)
    (hrange : 1 ≤ m.reconnectAttemptsLeft ∧
      m.reconnectAttemptsLeft ≤ MONITOR_RECONNECT_MAX_ATTEMPTS) : Consistent m where
  reconnecting _ := ⟨hnone, hrange⟩
  degraded h := absurd (hstate.symm.trans h) MonitorState.noConfusion
  active h := absurd (hstate.symm.trans h) MonitorState.noConfusion
  queued _ := .inr hstate

theorem degrade_consistent (m : SandboxMonitor) : Consistent m.degrade where
  reconnecting h := nomatch h
  degraded _ := ⟨m.closeSocket_socket, rfl, rfl, rfl⟩
  active h := nomatch h
  queued h := absurd rfl h

theorem degrade_faults (m : SandboxMonitor) : m.degrade.world.faults = m.world.faults :=
  m.closeSocket_faults

/-- Whatever went wrong with the channel, dropping it leaves a consistent state. -/
theorem dropSocketChannel_consistent (m : SandboxMonitor) : Consistent m.dropSocketChannel := by
  unfold dropSocketChannel
  dsimp only
  split
  · exact degrade_consistent _
  · refine consistent_of_reconnecting rfl m.closeSocket_socket ⟨?_, Int.le_refl _⟩
    show 1 ≤ MONITOR_RECONNECT_MAX_ATTEMPTS
    decide

theorem dropSocketChannel_faults (m : SandboxMonitor) :
    m.dropSocketChannel.world.faults = m.world.faults := by
  unfold dropSocketChannel
  dsimp only
  split
  · exact (degrade_faults _).trans m.closeSocket_faults
  · exact m.closeSocket_faults

/-! ### Moves -/

theorem Consistent.reconnecting_of_pos {m : SandboxMonitor} (h : Consistent m)
    (hattempts : 0 < m.reconnectAttemptsLeft) : m.state = .RECONNECTING := by
  cases hstate : m.state with
  | RECONNECTING => rfl
  | ACTIVE =>
    have := h.active hstate
    omega
  | DEGRADED =>
    have := (h.degraded hstate).2.1
    omega

theorem Consistent.keeps {m m' : SandboxMonitor} (h : Consistent m) (hsame : Steady m m')
    (hs : m'.socket = m.socket) (hq : m'.socketTxQueue = m.socketTxQueue)
    (hp : m'.pendingAnswers = m.pendingAnswers) : Consistent m' := by
  refine ⟨?_, ?_, ?_, ?_⟩
  · rw [hsame.state, hs, hsame.attempts]
    exact h.reconnecting
  · rw [hsame.state, hs, hsame.attempts, hq, hp]
    exact h.degraded
  · rw [hsame.state, hsame.attempts]
    exact h.active
  · rw [hsame.state, hs, hq]
    exact h.queued

/-- **Every move leads from a consistent state to a consistent one**, without a fault. -/
theorem Consistent.move {m m' : SandboxMonitor} (h : Consistent m) (hmove : Move X m m') :
    Consistent m' ∧ m'.world.faults = m.world.faults := by
  have hsteady : ∀ {m'}, m.socket.isSome → Steady m m' →
      Consistent m' ∧ m'.world.faults = m.world.faults :=
    fun hs hsteady => ⟨h.steady hs hsteady, hsteady.faults⟩
  have hkeeps : ∀ {m' : SandboxMonitor}, Steady m m' → m'.socket = m.socket →
      m'.socketTxQueue = m.socketTxQueue → m'.pendingAnswers = m.pendingAnswers →
      Consistent m' ∧ m'.world.faults = m.world.faults :=
    fun hsame hs hq hp => ⟨h.keeps hsame hs hq hp, hsame.faults⟩
  cases hmove with
  | answering sends => exact hkeeps ⟨id, rfl, rfl, rfl⟩ rfl rfl rfl
  | writeEnabled enabled => exact hkeeps ⟨id, rfl, rfl, rfl⟩ rfl rfl rfl
  | dropEvent eventId hbody => exact hkeeps ⟨id, rfl, rfl, rfl⟩ rfl rfl rfl
  | closeDevice =>
    unfold closeDevice
    split
    · exact ⟨h, rfl⟩
    · exact hkeeps ⟨id, rfl, rfl, rfl⟩ rfl rfl rfl
  | read hs answers =>
    exact hsteady (hs ▸ rfl) (steady_readAndAnswer _ _ answers)
  | writable hs => exact hsteady (hs ▸ rfl) (steady_withSocket _ _)
  | forward hs hidle hqueue hret =>
    exact hsteady (hs ▸ rfl)
      ((steady_withSocket _ _).trans ((steady_handed _ _).trans (steady_pop _ _ _)))
  | strip hs hqueue hresponse hbody => exact hsteady hs ⟨id, rfl, rfl, rfl⟩
  | discard hs hqueue hevent hbody => exact hsteady hs ⟨id, rfl, rfl, rfl⟩
  | sendEvent eventId json hs hidle hqueue hret =>
    exact hsteady (hs ▸ rfl)
      ((steady_deliver _ _ _).trans ((steady_withSocket _ _).trans (steady_createEvent _ _ _)))
  | forwardFails hs hidle hqueue hret =>
    exact ⟨dropSocketChannel_consistent _, dropSocketChannel_faults _⟩
  | sendEventFails eventId json hs hidle hqueue hret =>
    exact ⟨dropSocketChannel_consistent _,
      (dropSocketChannel_faults _).trans (steady_pushEventReport _ _ _).faults⟩
  | drop hs => exact ⟨dropSocketChannel_consistent m, dropSocketChannel_faults m⟩
  | degrade => exact ⟨degrade_consistent m, degrade_faults m⟩
  | queueEvent eventId json hway =>
    have hpush := (steady_deliver m eventId json).trans (steady_pushEventReport _ eventId json)
    by_cases hs : m.socket.isSome
    · exact hsteady hs hpush
    · have hstate := h.reconnecting_of_pos (hway.resolve_left hs)
      obtain ⟨hnone, hrange⟩ := h.reconnecting hstate
      refine ⟨consistent_of_reconnecting (hpush.state.trans hstate)
        ((pushSocketMessage_socket _ _).trans hnone) ?_, hpush.faults⟩
      rw [hpush.attempts]
      exact hrange
  | retry hattempts =>
    have hstate := h.reconnecting_of_pos (by omega)
    obtain ⟨hs, hone, hmax⟩ := h.reconnecting hstate
    refine ⟨consistent_of_reconnecting hstate hs ⟨?_, ?_⟩, rfl⟩
    · show 1 ≤ m.reconnectAttemptsLeft - 1
      omega
    · show m.reconnectAttemptsLeft - 1 ≤ _
      omega
  | reconnect hattempts =>
    exact ⟨⟨fun h => (nomatch h), fun h => (nomatch h), fun _ => rfl, fun _ => .inl rfl⟩, rfl⟩

/-- DEGRADED is not left. -/
theorem Consistent.move_degraded {m m' : SandboxMonitor} (h : Consistent m)
    (hmove : Move X m m') (hstate : m.state = .DEGRADED) : m'.state = .DEGRADED := by
  obtain ⟨hs, hattempts, -, -⟩ := h.degraded hstate
  have hnone : ∀ {s}, m.socket ≠ some s := fun h => by rw [hs] at h; cases h
  have hnot : m.socket.isSome = false := by rw [hs]; rfl
  cases hmove with
  | answering sends => exact hstate
  | writeEnabled enabled => exact hstate
  | dropEvent eventId hbody => exact hstate
  | closeDevice =>
    unfold closeDevice
    split
    · exact hstate
    · exact hstate
  | read hs answers => exact absurd hs hnone
  | writable hs => exact absurd hs hnone
  | forward hs hidle hqueue hret => exact absurd hs hnone
  | forwardFails hs hidle hqueue hret => exact absurd hs hnone
  | strip hs hqueue hresponse hbody => exact absurd hs (by rw [hnot]; exact Bool.false_ne_true)
  | discard hs hqueue hevent hbody => exact absurd hs (by rw [hnot]; exact Bool.false_ne_true)
  | sendEvent eventId json hs hidle hqueue hret => exact absurd hs hnone
  | sendEventFails eventId json hs hidle hqueue hret => exact absurd hs hnone
  | drop hs => exact absurd hs (by rw [hnot]; exact Bool.false_ne_true)
  | degrade => rfl
  | queueEvent eventId json hway => exact (steady_pushEventReport _ _ _).state.trans hstate
  | retry h => exact hstate
  | reconnect h => omega

theorem ofConfig_consistent (config : MonitorConfig) : Consistent (ofConfig config) :=
  ⟨fun h => (nomatch h), fun h => (nomatch h), fun _ => rfl, fun h => absurd rfl h⟩

theorem Consistent.moves {m m' : SandboxMonitor} (h : Consistent m) (hmoves : Moves X m m') :
    Consistent m' ∧ m'.world.faults = m.world.faults := by
  induction hmoves with
  | refl => exact ⟨h, rfl⟩
  | tail _ hmove ih => exact ⟨(ih.1.move hmove).1, (ih.1.move hmove).2.trans ih.2⟩

theorem Consistent.moves_degraded {m m' : SandboxMonitor} (h : Consistent m)
    (hmoves : Moves X m m') (hstate : m.state = .DEGRADED) : m'.state = .DEGRADED := by
  induction hmoves with
  | refl => exact hstate
  | tail hm hmove ih => exact (h.moves hm).1.move_degraded hmove ih

end

/-- **The monitor is consistent in every run**: whatever the configuration, the events and
the answers of the system calls, its members agree with its state, no handler uses a
socket or a device it does not have, and once degraded it stays so. -/
theorem run_consistent {Group : Type} (X : Externals Group) (config : MonitorConfig)
    (waits : List WaitResult) (rs : List (Round Group)) :
    Consistent (run X config waits rs).1 ∧ (run X config waits rs).1.world.faults = [] ∧
      ((run X config waits rs).1.state = .DEGRADED →
        ∀ later, (run X config waits (rs ++ later)).1.state = .DEGRADED) := by
  obtain ⟨hc, hf⟩ := (ofConfig_consistent config).moves (run_moves (X := X) config waits rs)
  exact ⟨hc, hf, fun hstate later => hc.moves_degraded (run_append_moves config waits rs later) hstate⟩

end SandboxMonitor

end SandboxManager.Claw
