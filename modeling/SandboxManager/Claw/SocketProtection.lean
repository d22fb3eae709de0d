import SandboxManager.Claw.StartupDelivery
import SandboxManager.Claw.Machine

/-! Who may touch the monitor's socket while a shell sandbox runs.

Three components have a part in it: the launch hands the device three deny rules for the inode
the path names, the delivery of a dynamic policy compares every rule with the inode the path
names at that time, and the monitor connects to whatever the path names when it comes back.
A step of the sandbox is a move of the monitor, together with what its requests have the device
do; `socket_guarded` is what holds in every run. -/
namespace SandboxManager.Claw
open Library

/-! ### A sandbox that runs -/

/-- What the path of the socket named at some time, and calls of the device. -/
structure SocketRecord where
  named : Option Inode
  calls : List PolicyCall

/-- The monitor and the policies the device was handed, with a history: the requests that got as
far as the device, each with its own calls, and the returns to ACTIVE, each with all calls made
before it. -/
structure ShellSandbox where
  monitor : SandboxMonitor
  policy : PolicyState
  requests : List SocketRecord := []
  returns : List SocketRecord := []

/-- What serving one request meets. -/
structure RequestWorld where
  world : PolicyWorld
  writes : List WriteResult := []

/-- The groups `HandleAddPolicy` has delivered, if the message gets that far. -/
def SandboxMonitor.requestedGroups (X : Externals PolicyRuleGroup) (m : SandboxMonitor)
    (message : ParsedMessage) : Option (List PolicyRuleGroup) :=
  if validateMessage message = .SUCCESS ∧ message.header.msgType = SOCKET_MSG_ADD_POLICY ∧
      ¬ (m.state = .DEGRADED ∨ m.deviceFd < 0) ∧ (parseAddPolicy X message.body).1 = .SUCCESS ∧
      (parseAddPolicy X message.body).2 ≠ [] then
    some (parseAddPolicy X message.body).2
  else none

namespace ShellSandbox

/-- `AddOperationControlPolicies` as the monitor calls it. -/
def addPolicies (w : ShellSandbox) (world : PolicyWorld) (ruleGroups : List PolicyRuleGroup) :
    SandboxError × List PolicyScopeResult × PolicyState :=
  addOperationControlPolicies world w.monitor.deviceFd ruleGroups w.monitor.socketPath w.policy

def answers (w : ShellSandbox) (r : RequestWorld) : RequestAnswers PolicyRuleGroup where
  addOperationControlPolicies ruleGroups :=
    ((w.addPolicies r.world ruleGroups).1, (w.addPolicies r.world ruleGroups).2.1)
  writes := r.writes

/-- The device's side of a request. -/
def requested (w : ShellSandbox) (world : PolicyWorld) :
    Option (List PolicyRuleGroup) → ShellSandbox
  | none => w
  | some ruleGroups =>
    let policy := (w.addPolicies world ruleGroups).2.2
    { w with
      policy := policy
      requests := w.requests ++
        [⟨world.lstat w.monitor.socketPath, policy.calls.drop w.policy.calls.length⟩] }

section
variable (X : Externals PolicyRuleGroup)

def queueResponse (w : ShellSandbox) (message : ParsedMessage) (r : RequestWorld) : ShellSandbox :=
  { w.requested r.world (w.monitor.requestedGroups X message) with
    monitor := w.monitor.queueResponse X message (w.answers r) }

/-- Messages are served one after another; the n-th of a run meets the n-th world. -/
def queueResponses (worlds : Nat → RequestWorld) : ShellSandbox → List ParsedMessage → ShellSandbox
  | w, [] => w
  | w, message :: rest =>
    queueResponses worlds (w.queueResponse X message (worlds w.monitor.world.served.length)) rest

/-- The monitor has moved without serving a request; the world is the one the move met. -/
def moved (w : ShellSandbox) (m : SandboxMonitor) (world : PolicyWorld) : ShellSandbox :=
  { w with
    monitor := m
    returns :=
      if w.monitor.state ≠ .ACTIVE ∧ m.state = .ACTIVE then
        w.returns ++ [⟨world.lstat m.socketPath, w.policy.calls⟩]
      else w.returns }

/-- One step. Reading once serves what was read; every other move serves nothing. -/
inductive Step : ShellSandbox → ShellSandbox → Prop where
  | read {w : ShellSandbox} {socket} (hs : w.monitor.socket = some socket) (arrived reads)
      (worlds : Nat → RequestWorld) :
      Step w (({ w with
          monitor := w.monitor.parsed (socket.onReadable arrived reads).1
            (socket.onReadable arrived reads).2.1 } : ShellSandbox).queueResponses X worlds
        (socket.onReadable arrived reads).2.1)
  | move {w : ShellSandbox} {m} (h : SandboxMonitor.Move X w.monitor m)
      (hserved : m.world.served = w.monitor.world.served) (world : PolicyWorld) :
      Step w (w.moved m world)

def Steps : ShellSandbox → ShellSandbox → Prop := Relation.ReflTransGen (Step X)

end

end ShellSandbox

/-! ### What the monitor asks for -/

namespace SandboxMonitor

/-! ### The path stays -/

theorem closeSocket_socketPath (m : SandboxMonitor) : m.closeSocket.socketPath = m.socketPath := by
  unfold closeSocket
  split <;> rfl

theorem degrade_socketPath (m : SandboxMonitor) : m.degrade.socketPath = m.socketPath :=
  m.closeSocket_socketPath

theorem dropSocketChannel_socketPath (m : SandboxMonitor) :
    m.dropSocketChannel.socketPath = m.socketPath := by
  unfold dropSocketChannel
  dsimp only
  split
  · exact (degrade_socketPath _).trans m.closeSocket_socketPath
  · exact m.closeSocket_socketPath

theorem pushSocketMessage_socketPath (m : SandboxMonitor) (message : PendingSocketMessage) :
    (m.pushSocketMessage message).socketPath = m.socketPath := by
  obtain ⟨queue, txBytes, h⟩ := m.pushSocketMessage_eq message
  rw [h]

theorem closeDevice_socketPath (m : SandboxMonitor) : m.closeDevice.socketPath = m.socketPath := by
  unfold closeDevice
  split <;> rfl

theorem handed_socketPath (m : SandboxMonitor) (message : PendingSocketMessage) :
    (m.handed message).socketPath = m.socketPath := by
  unfold handed
  split <;> rfl

section
variable {Group : Type} {X : Externals Group}

theorem Serves.socketPath {m m' : SandboxMonitor} {message : ParsedMessage} {ret : SandboxError}
    (h : Serves X m message m' ret) : m'.socketPath = m.socketPath := by
  cases h <;> rfl

theorem queueResponse_socketPath (m : SandboxMonitor) (message : ParsedMessage)
    (answers : RequestAnswers Group) : (m.queueResponse X message answers).socketPath = m.socketPath := by
  obtain ⟨m', ret, detail, hserves, heq⟩ := m.queueResponse_cases (X := X) message answers
  rw [heq]
  exact (pushSocketMessage_socketPath _ _).trans hserves.socketPath

theorem queueResponses_socketPath (messages : List ParsedMessage) (m : SandboxMonitor)
    (answers : List (RequestAnswers Group)) :
    (m.queueResponses X messages answers).socketPath = m.socketPath :=
  queueResponses_keeps (P := fun m' => m'.socketPath = m.socketPath)
    (fun m' message answers h => (queueResponse_socketPath m' message answers).trans h) messages rfl
    answers

theorem Move.socketPath {m m' : SandboxMonitor} (h : Move X m m') : m'.socketPath = m.socketPath := by
  cases h with
  | read hs answers => exact queueResponses_socketPath _ _ _
  | forward hs hidle hqueue hret => exact handed_socketPath _ _
  | forwardFails hs hidle hqueue hret => exact dropSocketChannel_socketPath _
  | queueEvent eventId json hway => exact pushSocketMessage_socketPath _ _
  | sendEvent eventId json hs hidle hqueue hret => exact handed_socketPath _ _
  | sendEventFails eventId json hs hidle hqueue hret =>
    exact (dropSocketChannel_socketPath _).trans (pushSocketMessage_socketPath _ _)
  | drop hs => exact dropSocketChannel_socketPath m
  | closeDevice => exact closeDevice_socketPath m
  | degrade => exact degrade_socketPath m
  | _ => rfl

end

end SandboxMonitor

/-! ### What a dynamic policy leaves alone -/

/-- Every rule the device accepted is bound, and not to what the path of the socket named. -/
def SocketRecord.Clear (r : SocketRecord) : Prop :=
  ∀ arg bound, .added arg bound none ∈ r.calls → ∀ entry ∈ bound, ∃ inode,
    entry.2 = some inode ∧ r.named ≠ some inode

theorem ModuleDelivery.sent_of_mem_calls {d : ModuleDelivery} {arg : SandboxPolicyArg}
    {bound : List (FilterRule × Option Inode)} {refused : Option Nat}
    (h : .added arg bound refused ∈ d.calls) : d.sent = some ⟨arg, bound, refused⟩ := by
  rw [calls, List.mem_append, List.mem_append] at h
  obtain (h | h) | h := h
  · obtain ⟨o, -, heq⟩ := List.mem_map.mp h
    cases heq
  · obtain ⟨sent, hsent, heq⟩ := List.mem_map.mp h
    cases heq
    exact Option.mem_toList.mp hsent
  · obtain ⟨o, -, heq⟩ := List.mem_map.mp h
    cases heq

/-- A request adds calls to those made, and none of them touches the socket. -/
theorem addOperationControlPolicies_clear (world : PolicyWorld) (deviceFd : Int)
    (ruleGroups : List PolicyRuleGroup) {protectedPath : Bytes} (hpath : protectedPath ≠ [])
    (s : PolicyState) :
    ∃ calls, (addOperationControlPolicies world deviceFd ruleGroups protectedPath s).2.2.calls =
        s.calls ++ calls ∧
      SocketRecord.Clear ⟨world.lstat protectedPath, calls⟩ := by
  by_cases hdevice : deviceFd < 0
  · rw [addOperationControlPolicies, if_pos hdevice]
    exact ⟨[], (List.append_nil _).symm, fun _ _ hcall => absurd hcall List.not_mem_nil⟩
  · obtain ⟨deliveries, -, hall, heffects⟩ := walk_deliverGroup world protectedPath ruleGroups s
    rw [addOperationControlPolicies, if_neg hdevice]
    refine ⟨_, heffects.calls, ?_⟩
    intro arg bound hcall entry hentry
    obtain ⟨d, hd, hcall⟩ := List.mem_flatMap.mp hcall
    obtain ⟨delivery, hdelivery, hd⟩ := List.mem_flatMap.mp hd
    obtain ⟨out, hout⟩ := exists_delivered hall hdelivery
    have hsent := ModuleDelivery.sent_of_mem_calls hcall
    obtain ⟨inode, hbound, -, hguard⟩ := ((hout.accounted d hd).handed _ hsent).2 entry hentry
    rw [resolveGuardedInode, if_neg hpath] at hguard
    exact ⟨inode, hbound, hguard⟩

/-! ### Steps -/

namespace ShellSandbox

/-- What holds of a sandbox that was given a path and had made some calls when it started. -/
structure Guarded (socketPath : Bytes) (before : List PolicyCall) (w : ShellSandbox) : Prop where
  path : w.monitor.socketPath = socketPath
  calls : before <+: w.policy.calls
  requests : ∀ r ∈ w.requests, r.Clear
  returns : ∀ r ∈ w.returns, before <+: r.calls

section
variable {X : Externals PolicyRuleGroup} {socketPath : Bytes} {before : List PolicyCall}
  {w w' : ShellSandbox}

theorem Guarded.requested (h : Guarded socketPath before w) (hpath : socketPath ≠ [])
    (world : PolicyWorld) (ruleGroups : Option (List PolicyRuleGroup)) :
    Guarded socketPath before (w.requested world ruleGroups) := by
  cases ruleGroups with
  | none => exact h
  | some ruleGroups =>
    obtain ⟨made, hmade, hclear⟩ := addOperationControlPolicies_clear world w.monitor.deviceFd
      ruleGroups (h.path ▸ hpath) w.policy
    have hdrop : (w.addPolicies world ruleGroups).2.2.calls.drop w.policy.calls.length = made := by
      rw [addPolicies, hmade, List.drop_left]
    refine ⟨h.path, ?_, ?_, h.returns⟩
    · show before <+: (w.addPolicies world ruleGroups).2.2.calls
      rw [addPolicies, hmade]
      exact h.calls.trans (List.prefix_append ..)
    · intro r hr
      obtain hr | hr := List.mem_append.mp hr
      · exact h.requests r hr
      · rw [List.mem_singleton.mp hr, hdrop]
        exact hclear

/-- The monitor has a part in the path only. -/
theorem Guarded.withMonitor (h : Guarded socketPath before w) {m : SandboxMonitor}
    (hpath : m.socketPath = socketPath) :
    Guarded socketPath before { w with monitor := m } :=
  ⟨hpath, h.calls, h.requests, h.returns⟩

theorem Guarded.queueResponse (h : Guarded socketPath before w) (hpath : socketPath ≠ [])
    (message : ParsedMessage) (r : RequestWorld) :
    Guarded socketPath before (w.queueResponse X message r) := by
  have hrequested := h.requested hpath r.world (w.monitor.requestedGroups X message)
  refine hrequested.withMonitor ?_
  rw [SandboxMonitor.queueResponse_socketPath, h.path]

theorem Guarded.queueResponses (worlds : Nat → RequestWorld) (h : Guarded socketPath before w)
    (hpath : socketPath ≠ []) (messages : List ParsedMessage) :
    Guarded socketPath before (w.queueResponses X worlds messages) := by
  induction messages generalizing w with
  | nil => exact h
  | cons message rest ih =>
    rw [ShellSandbox.queueResponses]
    exact ih (h.queueResponse hpath message _)

/-- **A step touches no rule of the socket**, and what was handed over before is kept. -/
theorem Guarded.step (h : Guarded socketPath before w) (hpath : socketPath ≠ [])
    (hstep : Step X w w') : Guarded socketPath before w' := by
  cases hstep with
  | @read socket hs arrived reads worlds =>
    have hparsed : (w.monitor.parsed (socket.onReadable arrived reads).1
        (socket.onReadable arrived reads).2.1).socketPath = socketPath := h.path
    exact (h.withMonitor hparsed).queueResponses worlds hpath _
  | move hmove hserved world =>
    refine ⟨hmove.socketPath.trans h.path, h.calls, h.requests, ?_⟩
    intro r hr
    rw [moved] at hr
    dsimp only at hr
    split at hr
    · obtain hr | hr := List.mem_append.mp hr
      · exact h.returns r hr
      · rw [List.mem_singleton.mp hr]
        exact h.calls
    · exact h.returns r hr

theorem Guarded.steps (h : Guarded socketPath before w) (hpath : socketPath ≠ [])
    (hsteps : Steps X w w') : Guarded socketPath before w' := by
  induction hsteps with
  | refl => exact h
  | tail _ hstep ih => exact ih.step hpath hstep

/-! ### The monitor under the sandbox -/

theorem queueResponse_monitor (w : ShellSandbox) (message : ParsedMessage) (r : RequestWorld) :
    (w.queueResponse X message r).monitor = w.monitor.queueResponse X message (w.answers r) := by
  rw [queueResponse]

theorem queueResponses_monitor (worlds : Nat → RequestWorld) (messages : List ParsedMessage)
    (w : ShellSandbox) : ∃ answers, (w.queueResponses X worlds messages).monitor =
      w.monitor.queueResponses X messages answers := by
  induction messages generalizing w with
  | nil => exact ⟨[], rfl⟩
  | cons message rest ih =>
    obtain ⟨answers, h⟩ := ih (w.queueResponse X message (worlds w.monitor.world.served.length))
    refine ⟨w.answers (worlds w.monitor.world.served.length) :: answers, ?_⟩
    rw [queueResponses, h, SandboxMonitor.queueResponses_cons, List.headD_cons, List.tail_cons,
      queueResponse_monitor]

/-- A step of the sandbox is a move of its monitor. -/
theorem Step.monitor (h : Step X w w') : SandboxMonitor.Move X w.monitor w'.monitor := by
  cases h with
  | @read socket hs arrived reads worlds =>
    obtain ⟨answers, hmonitor⟩ := queueResponses_monitor (X := X) worlds
      (socket.onReadable arrived reads).2.1 { w with
        monitor := w.monitor.parsed (socket.onReadable arrived reads).1
          (socket.onReadable arrived reads).2.1 }
    rw [hmonitor]
    exact .read hs { arrived, reads, requests := answers }
  | move hmove => exact hmove

theorem Steps.consistent (h : Steps X w w') (hc : SandboxMonitor.Consistent w.monitor) :
    SandboxMonitor.Consistent w'.monitor := by
  induction h with
  | refl => exact hc
  | tail _ hstep ih => exact (ih.move hstep.monitor).1

/-- What returns to ACTIVE was reconnecting. -/
theorem Step.reconnects (h : Step X w w') (hc : SandboxMonitor.Consistent w.monitor)
    (hbefore : w.monitor.state ≠ .ACTIVE) (hafter : w'.monitor.state = .ACTIVE) :
    w.monitor.state = .RECONNECTING := by
  cases hstate : w.monitor.state with
  | ACTIVE => exact absurd hstate hbefore
  | RECONNECTING => rfl
  | DEGRADED =>
    have hdegraded := hc.move_degraded h.monitor hstate
    exact absurd (hafter.symm.trans hdegraded) MonitorState.noConfusion

end

/-! ### Coming back -/

/-- The connection is lost, and another is made. -/
def returned (w : ShellSandbox) (world : PolicyWorld) : ShellSandbox :=
  (w.moved w.monitor.dropSocketChannel world).moved w.monitor.dropSocketChannel.reconnected world

section
variable {w : ShellSandbox} (hpath : w.monitor.socketPath ≠ []) (world : PolicyWorld)
include hpath

theorem dropSocketChannel_eq : w.monitor.dropSocketChannel =
    { w.monitor.closeSocket with
      reconnectAttemptsLeft := MONITOR_RECONNECT_MAX_ATTEMPTS
      state := .RECONNECTING } := by
  have hkept : w.monitor.closeSocket.socketPath ≠ [] := by
    rwa [SandboxMonitor.closeSocket_socketPath]
  exact if_neg hkept

theorem returned_steps (X : Externals PolicyRuleGroup) (hs : w.monitor.socket.isSome) :
    Steps X w (w.returned world) := by
  have hattempts : 0 < w.monitor.dropSocketChannel.reconnectAttemptsLeft := by
    rw [dropSocketChannel_eq hpath]
    show 0 < MONITOR_RECONNECT_MAX_ATTEMPTS
    decide
  have hserved : w.monitor.dropSocketChannel.world.served = w.monitor.world.served := by
    rw [dropSocketChannel_eq hpath]
    show w.monitor.closeSocket.world.served = _
    unfold SandboxMonitor.closeSocket
    split <;> rfl
  have hlost : Step X w (w.moved w.monitor.dropSocketChannel world) := .move (.drop hs) hserved world
  exact .tail (.single hlost) (.move (.reconnect hattempts) rfl world)

theorem returned_returns : ⟨world.lstat w.monitor.socketPath, w.policy.calls⟩ ∈
    (w.returned world).returns := by
  have hstate : w.monitor.dropSocketChannel.state = .RECONNECTING := by
    rw [dropSocketChannel_eq hpath]
  have hback : (w.moved w.monitor.dropSocketChannel world).monitor.state ≠ .ACTIVE ∧
      w.monitor.dropSocketChannel.reconnected.state = .ACTIVE :=
    ⟨fun h => absurd (hstate.symm.trans h) MonitorState.noConfusion, rfl⟩
  have hsame : w.monitor.dropSocketChannel.reconnected.socketPath = w.monitor.socketPath :=
    SandboxMonitor.dropSocketChannel_socketPath _
  show _ ∈ if _ then _ else _
  rw [if_pos hback, hsame]
  exact List.mem_append_right _ (List.mem_singleton.mpr rfl)

end

end ShellSandbox

/-! ### The whole run -/

/-- Every module of every configured group was accepted, and nothing else was handed over. -/
def StartupConfig.Delivered (config : StartupConfig) (s : PolicyState) : Prop :=
  ∃ deliveries : List (PolicyRuleGroup × List ModuleDelivery),
    deliveries.map (·.1) = config.addOperationControlRuleGroups ∧
    (∀ entry ∈ deliveries,
      entry.2.map (·.module) = STARTUP_DELIVERY_MODULES.filter entry.1.carries ∧
      ∀ d ∈ entry.2, d.Accepted) ∧
    s.calls = deliveries.flatMap fun entry => entry.2.flatMap ModuleDelivery.calls

/-- The sandbox when its child starts. -/
def ShellSandbox.started (config : MonitorConfig) (s : PolicyState) : ShellSandbox where
  monitor := .ofConfig config
  policy := s

section
variable {config : StartupConfig} {socketPath : Bytes} {answers : StartupAnswers}
  {monitorConfig : MonitorConfig} {s : PolicyState}

/-- What was handed over before there was a child. -/
theorem startChild_delivered (hshell : config.type = bytes "shell") (hpath : socketPath ≠ [])
    (h : startChild config socketPath answers = .ok (monitorConfig, s)) :
    ∃ s₁, config.Delivered s₁ ∧
      (∀ inode, answers.world.openPath socketPath = .ok inode →
        s.calls = s₁.calls ++ socketProtectionCalls s₁.handles.length socketPath inode
          (answers.world.addPolicy s₁.policies)) ∧
      ∀ errno, answers.world.openPath socketPath = .error errno → s.calls = s₁.calls := by
  obtain ⟨-, hlength, hdevice, s₁, hgroups, rfl⟩ := startChild_ok hshell hpath h
  obtain ⟨deliveries, hentries, haccepted, heffects⟩ := deliverPolicyGroups_accepted hgroups
  obtain ⟨hopens, hfails⟩ :=
    addSocketProtectionPolicy_calls answers.world hdevice hpath hlength s₁
  refine ⟨s₁, ⟨deliveries, hentries, haccepted, ?_⟩, hopens, ?_⟩
  · rw [heffects.calls, List.flatMap_assoc]
    rfl
  · intro errno hopen
    rw [hfails errno hopen]

theorem socketProtectionCall_mem (fd : Nat) (socketPath : Bytes) (inode : Inode)
    (refused : Option Nat) (calls : List PolicyCall) :
    socketProtectionCall fd socketPath inode refused ∈
      calls ++ socketProtectionCalls fd socketPath inode refused :=
  List.mem_append_right _ (List.mem_cons_of_mem _ List.mem_cons_self)

/-- **The socket in every run.** When the child starts the device has accepted every configured
rule and then been handed the deny rules for the inode the path opens on; no request gets a rule
for the inode the path names accepted; a return to that inode is a return to one the deny
rules were handed over for; and what returns to ACTIVE was reconnecting. -/
theorem socket_guarded (X : Externals PolicyRuleGroup) {w : ShellSandbox}
    (hshell : config.type = bytes "shell") (hpath : socketPath ≠ [])
    (hstart : startChild config socketPath answers = .ok (monitorConfig, s))
    (hrun : ShellSandbox.Steps X (.started monitorConfig s) w) :
    ∃ s₁, config.Delivered s₁ ∧
      (∀ inode, answers.world.openPath socketPath = .ok inode →
        s.calls = s₁.calls ++ socketProtectionCalls s₁.handles.length socketPath inode
          (answers.world.addPolicy s₁.policies)) ∧
      (∀ errno, answers.world.openPath socketPath = .error errno → s.calls = s₁.calls) ∧
      (∀ r ∈ w.requests, r.Clear) ∧
      (∀ r ∈ w.returns, ∀ inode, answers.world.openPath socketPath = .ok inode →
        r.named = some inode → socketProtectionCall s₁.handles.length socketPath inode
          (answers.world.addPolicy s₁.policies) ∈ r.calls) ∧
      ∀ w', ShellSandbox.Step X w w' → w.monitor.state ≠ .ACTIVE → w'.monitor.state = .ACTIVE →
        w.monitor.state = .RECONNECTING := by
  obtain ⟨s₁, hdelivered, hopens, hfails⟩ := startChild_delivered hshell hpath hstart
  have hbegin : (ShellSandbox.started monitorConfig s).Guarded socketPath s.calls :=
    ⟨(startChild_ok hshell hpath hstart).1, List.prefix_refl _, nofun, nofun⟩
  have hend := hbegin.steps hpath hrun
  have hconsistent := ShellSandbox.Steps.consistent hrun
    (SandboxMonitor.ofConfig_consistent monitorConfig)
  refine ⟨s₁, hdelivered, hopens, hfails, hend.requests, ?_, fun w' hstep =>
    hstep.reconnects hconsistent⟩
  intro r hr inode hopen _
  apply (hend.returns r hr).subset
  rw [hopens inode hopen]
  exact socketProtectionCall_mem ..

end

/-- A sandbox without rule groups of its own. -/
def bareStartup : StartupConfig := ⟨bytes "shell", 20000000, 7, [], true⟩

/-- The socket is there, everything but the policies goes well. -/
def socketAnswers (refused : Option Nat) : StartupAnswers where
  openDevice := some 3
  pid := 40
  accepts _ := true
  world := ⟨fun _ => some ⟨1, 7⟩, fun _ => .ok ⟨1, 7⟩, fun _ => refused, fun _ => []⟩
  realPath := true
  allowed := true
  newSocket := some 5
  attemptConnect := .SUCCESS
  socketpair := true
  fork := true

def appSocket : Bytes := bytes "/data/app.socket"

theorem appSocket_ne_nil : appSocket ≠ [] := by decide

theorem startChild_socketAnswers (refused : Option Nat) :
    startChild bareStartup appSocket (socketAnswers refused) = .ok (⟨appSocket, 5, 3⟩,
      (addSocketProtectionPolicy (socketAnswers refused).world (3 : Nat) appSocket {}).2) := by
  have hdeliver : deliverDaemonSidePolicies bareStartup appSocket (socketAnswers refused) =
      (SandboxError.SUCCESS, ((3 : Nat) : Int),
        (addSocketProtectionPolicy (socketAnswers refused).world (3 : Nat) appSocket {}).2) :=
    deliverDaemonSidePolicies_eq rfl rfl rfl rfl
  have hconnect : connectMonitorSocket appSocket (socketAnswers refused) = .ok 5 := by
    have hlocal : appSocket ≠ [] ∧ ¬ appSocket.head? ≠ some slash ∧
        ¬ SUN_PATH_SIZE ≤ appSocket.length := by decide
    have hreal : (socketAnswers refused).realPath = true := rfl
    have hallowed : (socketAnswers refused).allowed = true := rfl
    rw [connectMonitorSocket, if_neg hlocal.1, hreal, hallowed, Bool.not_true,
      if_neg Bool.false_ne_true, if_neg Bool.false_ne_true, connectToApp, if_neg hlocal.2.1, if_neg hlocal.2.2]
    rfl
  rw [startChild, hdeliver, hconnect]
  rfl

theorem socketProtectionCall_inj {fd fd' : Nat} {socketPath socketPath' : Bytes}
    {inode inode' : Inode} {refused refused' : Option Nat}
    (h : socketProtectionCall fd socketPath inode refused =
      socketProtectionCall fd' socketPath' inode' refused') : inode = inode' ∧ refused = refused' := by
  obtain ⟨-, hbound, hrefused⟩ := PolicyCall.added.inj h
  have hfirst := congrArg (fun bound => bound.head?.bind Prod.snd) hbound
  exact ⟨Option.some.inj hfirst, hrefused⟩

/-- What these launches hand over is the protection alone. -/
theorem mem_socketAnswers {refused refused' : Option Nat} {inode : Inode} {fd : Nat}
    (h : socketProtectionCall fd appSocket inode refused' ∈
      (addSocketProtectionPolicy (socketAnswers refused).world (3 : Nat) appSocket {}).2.calls) :
    inode = ⟨1, 7⟩ ∧ refused' = refused := by
  have hcalls := (addSocketProtectionPolicy_calls (socketAnswers refused).world
    (Int.natCast_nonneg 3) appSocket_ne_nil (by decide) {}).1 ⟨1, 7⟩ rfl
  rw [hcalls, List.nil_append, socketProtectionCalls] at h
  simp only [List.mem_cons, List.not_mem_nil, or_false] at h
  obtain h | h | h := h
  · cases h
  · exact socketProtectionCall_inj h
  · cases h

/-- A monitor that neither parses nor prints. -/
def silentExternals : Externals PolicyRuleGroup where
  cJSON_Parse _ := none
  cJSON_PrintUnformatted _ := []
  parseOperationControlPolicy _ := (.ERR_CONFIG_INVALID, [])
  parseEvent _ := none

/-- What was handed over where the device accepts, and the sandbox that starts then. -/
def protectedPolicies : PolicyState :=
  (addSocketProtectionPolicy (socketAnswers none).world (3 : Nat) appSocket {}).2

def protectedSandbox : ShellSandbox := .started ⟨appSocket, 5, 3⟩ protectedPolicies

theorem startChild_protected : startChild bareStartup appSocket (socketAnswers none) =
    .ok (⟨appSocket, 5, 3⟩, protectedPolicies) :=
  startChild_socketAnswers none

/-- The app has bound a new socket to the path. -/
def reboundWorld : PolicyWorld :=
  { (socketAnswers none).world with lstat := fun _ => some ⟨1, 8⟩ }

theorem protectedSandbox_returned (world : PolicyWorld) :
    ShellSandbox.Steps silentExternals (.started ⟨appSocket, 5, 3⟩ protectedPolicies)
      (protectedSandbox.returned world) :=
  ShellSandbox.returned_steps (w := protectedSandbox) appSocket_ne_nil world silentExternals rfl

theorem socket_guarded_returned :
    ∃ s₁, bareStartup.Delivered s₁ ∧
      (∀ inode, (socketAnswers none).world.openPath appSocket = .ok inode →
        protectedPolicies.calls = s₁.calls ++ socketProtectionCalls s₁.handles.length appSocket
          inode ((socketAnswers none).world.addPolicy s₁.policies)) ∧
      (∀ errno, (socketAnswers none).world.openPath appSocket = .error errno →
        protectedPolicies.calls = s₁.calls) ∧
      (∀ r ∈ (protectedSandbox.returned (socketAnswers none).world).requests, r.Clear) ∧
      (∀ r ∈ (protectedSandbox.returned (socketAnswers none).world).returns, ∀ inode,
        (socketAnswers none).world.openPath appSocket = .ok inode → r.named = some inode →
        socketProtectionCall s₁.handles.length appSocket inode
          ((socketAnswers none).world.addPolicy s₁.policies) ∈ r.calls) ∧
      ∀ w', ShellSandbox.Step silentExternals
          (protectedSandbox.returned (socketAnswers none).world) w' →
        (protectedSandbox.returned (socketAnswers none).world).monitor.state ≠ .ACTIVE →
        w'.monitor.state = .ACTIVE →
        (protectedSandbox.returned (socketAnswers none).world).monitor.state = .RECONNECTING :=
  socket_guarded silentExternals rfl appSocket_ne_nil startChild_protected
    (protectedSandbox_returned (socketAnswers none).world)

/-- The child starts although the device has refused the deny rules; and where it has accepted
them, the monitor may return to an inode they were never handed over for. -/
theorem not_socket_guarded :
    (¬ ∀ (config : StartupConfig) (socketPath : Bytes) (answers : StartupAnswers) (inode : Inode)
        (monitorConfig : MonitorConfig) (s : PolicyState), config.type = bytes "shell" →
      socketPath ≠ [] → answers.world.openPath socketPath = .ok inode →
      startChild config socketPath answers = .ok (monitorConfig, s) →
      ∃ fd, socketProtectionCall fd socketPath inode none ∈ s.calls) ∧
    ¬ ∀ (X : Externals PolicyRuleGroup) (config : StartupConfig) (socketPath : Bytes)
        (answers : StartupAnswers) (inode : Inode) (monitorConfig : MonitorConfig)
        (s : PolicyState) (w : ShellSandbox), config.type = bytes "shell" → socketPath ≠ [] →
      answers.world.openPath socketPath = .ok inode →
      startChild config socketPath answers = .ok (monitorConfig, s) →
      (∃ fd, socketProtectionCall fd socketPath inode none ∈ s.calls) →
      ShellSandbox.Steps X (.started monitorConfig s) w →
      ∀ r ∈ w.returns, ∀ found, r.named = some found →
        ∃ fd, socketProtectionCall fd socketPath found none ∈ r.calls := by
  constructor
  · intro h
    obtain ⟨fd, hmem⟩ := h bareStartup appSocket (socketAnswers (some 1)) ⟨1, 7⟩ _ _ rfl
      appSocket_ne_nil rfl (startChild_socketAnswers (some 1))
    obtain ⟨-, hrefused⟩ := mem_socketAnswers hmem
    cases hrefused
  · intro h
    have hcalls := (addSocketProtectionPolicy_calls (socketAnswers none).world
      (Int.natCast_nonneg 3) appSocket_ne_nil (by decide) {}).1 ⟨1, 7⟩ rfl
    have haccepted : ∃ fd, socketProtectionCall fd appSocket ⟨1, 7⟩ none ∈
        protectedPolicies.calls := by
      rw [protectedPolicies, hcalls]
      exact ⟨_, socketProtectionCall_mem ..⟩
    have hreturn := h silentExternals bareStartup appSocket (socketAnswers none) ⟨1, 7⟩ _ _ _ rfl
      appSocket_ne_nil rfl startChild_protected haccepted (protectedSandbox_returned reboundWorld)
    have hback : ⟨some ⟨1, 8⟩, protectedPolicies.calls⟩ ∈
        (protectedSandbox.returned reboundWorld).returns :=
      ShellSandbox.returned_returns appSocket_ne_nil reboundWorld
    obtain ⟨fd, hmem⟩ := hreturn _ hback ⟨1, 8⟩ rfl
    dsimp only at hmem
    rw [protectedPolicies] at hmem
    exact absurd (mem_socketAnswers hmem).1 (by decide)

end SandboxManager.Claw
