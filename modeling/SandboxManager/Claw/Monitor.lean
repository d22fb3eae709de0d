import SandboxManager.Claw.Queue
import SandboxManager.Json

/-! `SandboxMonitor` (`sandbox_monitor.cpp`): its handlers, the action switch and the loop.

Each handler takes what the system calls it makes will answer. `Run` is a function of
these answers: one round is a batch of epoll events and, when a deadline has passed, one
attempt to reconnect. What the monitor leaves to others is a parameter: the JSON library,
the parsers of policies and of device events. -/
namespace SandboxManager.Claw

def EPOLLIN : UInt32 := 0x001
def EPOLLOUT : UInt32 := 0x004
def EPOLLERR : UInt32 := 0x008
def EPOLLHUP : UInt32 := 0x010
def EPOLLRDHUP : UInt32 := 0x2000

def DEC_EVENT_CLASS_ASK : UInt32 := 0
def DEC_EVENT_ANSWER_SIZE : Nat := 24

inductive MonitorAction where
  | NONE
  | SKIP
  | RECONNECT
  | DEGRADE
  | CHILD_EXITED
  | STOP
deriving DecidableEq, Repr

/-- The part of the device's header the monitor reads. -/
structure DeviceEventHeader where
  eventClass : UInt32
  eventId : UInt64
deriving DecidableEq, Repr

/-- The code the monitor calls. `parseEvent` is `TlvEventParser::ParseEvent` with the
header and the JSON it yields. -/
structure Externals (Group : Type) where
  cJSON_Parse : Bytes → Option Json
  cJSON_PrintUnformatted : Json → Bytes
  parseOperationControlPolicy : Bytes → SandboxError × List Group
  parseEvent : Bytes → Option (DeviceEventHeader × Bytes)

/-- What serving one request meets: the outcome of `AddOperationControlPolicies`, and of
the writes to the device. -/
structure RequestAnswers (Group : Type) where
  addOperationControlPolicies : List Group → SandboxError × List PolicyScopeResult :=
    fun _ => (.SUCCESS, [])
  writes : List WriteResult := []

/-- What handling one socket event meets. -/
structure SocketAnswers (Group : Type) where
  arrived : Bytes := []
  reads : List ReadResult := []
  requests : List (RequestAnswers Group) := []
  sends : List SendResult := []
  epollCtl : Bool := true

/-- What one call of `read` on the device comes to. -/
inductive DeviceRead where
  | record (data : Bytes)
  | eof
  | interrupted
  | again
  | failed
deriving DecidableEq, Repr

/-- What handling one device event meets. -/
structure DeviceAnswers where
  reads : List DeviceRead := []
  sends : List SendResult := []
  epollCtl : Bool := true

/-- What one call of `waitpid` comes to. -/
inductive WaitResult where
  | nothing
  | interrupted
  | exited (status : Int)
  | signaled (signal : Int)
  | unexpected
  | failed
deriving DecidableEq, Repr

/-- An event of `epoll_wait`, routed by the context it carries. -/
inductive EpollEvent (Group : Type) where
  | nullContext
  | childFd (events : UInt32) (waits : List WaitResult)
  | socketFd (events : UInt32) (answers : SocketAnswers Group)
  | deviceFd (events : UInt32) (answers : DeviceAnswers)
  | unknown

/-- What an attempt to reconnect meets; `connect` is the result of `ConnectToApp`. -/
structure ReconnectAnswers where
  connect : SandboxError := .SUCCESS
  epollAdd : Bool := true
  sends : List SendResult := []
  epollCtl : Bool := true

/-- One pass of the loop in `Run`; `remaining` is the time in milliseconds to the
deadline once the batch has been handled. -/
structure Round (Group : Type) where
  events : List (EpollEvent Group) := []
  remaining : Int := 1
  reconnect : ReconnectAnswers := {}

structure MonitorConfig where
  socketPath : Bytes := []
  socketFd : Int := -1
  deviceFd : Int := -1
deriving DecidableEq, Repr

/-! ### Answers to events -/

/-- `std::from_chars` for a `uint64_t` over a whole text. -/
def parseDecimalU64 (text : Bytes) : Option UInt64 :=
  let value := text.foldl (fun n c => 10 * n + (c.toNat - 48)) 0
  if text ≠ [] ∧ text.all (fun c => 48 ≤ c && c ≤ 57) ∧ value < SIZE_RANGE then
    some (UInt64.ofNat value)
  else none

def parseEventAction (actionStr : Bytes) : Option DecPolicyAction :=
  if actionStr = bytes "allow" then some .ALLOW
  else if actionStr = bytes "deny" then some .DENY
  else none

section
variable {Group : Type} (X : Externals Group)

/-- `ParseEventAnswer`; every failure is the same to its caller. -/
def parseEventAnswer (jsonBody : Bytes) : Option (UInt64 × DecPolicyAction) :=
  if MAX_EVENT_ANSWER_JSON_LENGTH < jsonBody.length then none
  else
    match X.cJSON_Parse (cStr jsonBody) with
    | none => none
    | some root =>
      match Json.stringOf (root.getObjectItemCaseSensitive (bytes "event_id")),
          Json.stringOf (root.getObjectItemCaseSensitive (bytes "action")) with
      | some eventIdStr, some actionStr =>
        match parseDecimalU64 eventIdStr, parseEventAction actionStr with
        | some eventId, some action => some (eventId, action)
        | _, _ => none
      | _, _ => none

namespace SandboxMonitor

/-! ### The channel -/

/-- The constructor, on a fresh connection if there is one. -/
def ofConfig (config : MonitorConfig) : SandboxMonitor where
  socketPath := config.socketPath
  socket := if 0 ≤ config.socketFd then some SandboxSocket.create else none
  deviceFd := config.deviceFd

/-- The connection of the socket, for the history. -/
def connection (m : SandboxMonitor) : Connection where
  handed := m.world.handed
  wire := m.socket.elim [] (·.wire)

def closeSocket (m : SandboxMonitor) : SandboxMonitor :=
  match m.socket with
  | none => m
  | some _ =>
    { m with
      socket := none
      socketWriteEnabled := false
      world := { m.world with
        handed := []
        closed := m.world.closed ++ [m.connection]
        trace := m.world.trace ++ [.close m.connection] } }

def discardAllEvents (m : SandboxMonitor) : SandboxMonitor :=
  { m with socketTxQueue := [], socketTxBytes := 0, pendingAnswers := [] }

def degrade (m : SandboxMonitor) : SandboxMonitor :=
  let m := m.closeSocket
  let m := { m with reconnectAttemptsLeft := 0 }
  let m := m.discardAllEvents
  { m with state := .DEGRADED }

def dropSocketChannel (m : SandboxMonitor) : SandboxMonitor :=
  let m := m.closeSocket
  if m.socketPath = [] then m.degrade
  else { m with reconnectAttemptsLeft := MONITOR_RECONNECT_MAX_ATTEMPTS, state := .RECONNECTING }

def updateSocketEpollEvents (m : SandboxMonitor) (epollCtl : Bool) :
    SandboxMonitor × SandboxError :=
  match m.socket with
  | none => (m, .SUCCESS)
  | some socket =>
    let enableWrite := socket.hasPendingTxData || !m.socketTxQueue.isEmpty
    if enableWrite = m.socketWriteEnabled then (m, .SUCCESS)
    else if epollCtl then ({ m with socketWriteEnabled := enableWrite }, .SUCCESS)
    else (m, .ERR_EPOLL_FAILED)

def adoptSocket (m : SandboxMonitor) (epollAdd : Bool) : SandboxMonitor × SandboxError :=
  let m := { m with socket := some SandboxSocket.create, socketWriteEnabled := false }
  if epollAdd then (m, .SUCCESS) else (m.closeSocket, .ERR_EPOLL_FAILED)

def tryReconnect (m : SandboxMonitor) (answers : ReconnectAnswers) : SandboxMonitor :=
  let m := { m with reconnectAttemptsLeft := m.reconnectAttemptsLeft - 1 }
  if answers.connect ≠ .SUCCESS then
    if 0 < m.reconnectAttemptsLeft then m else m.degrade
  else
    let (m, adoptRet) := m.adoptSocket answers.epollAdd
    if adoptRet ≠ .SUCCESS then m.degrade
    else
      let m := { m with reconnectAttemptsLeft := 0, state := .ACTIVE }
      let (m, flushRet) := (m.answering answers.sends).flushSocketTxQueue
      if flushRet ≠ .SUCCESS then m.dropSocketChannel
      else
        let (m, epollRet) := m.updateSocketEpollEvents answers.epollCtl
        if epollRet ≠ .SUCCESS then m.dropSocketChannel else m

def nextEpollTimeout (m : SandboxMonitor) (remaining : Int) : Int :=
  if m.reconnectAttemptsLeft ≤ 0 then -1 else if remaining ≤ 0 then 0 else remaining

/-! ### Requests -/

def validateMessage (message : ParsedMessage) : SandboxError :=
  if message.header.requestId = 0 then .ERR_REQUEST_ID_INVALID
  else if message.rejectReason ≠ .SUCCESS then message.rejectReason
  else .SUCCESS

def eventAnswer (eventId : UInt64) (action : DecPolicyAction) : DecEventAnswer where
  size := UInt32.ofNat DEC_EVENT_ANSWER_SIZE
  reserved1 := 0
  eventId := eventId
  action := action
  reserved2 := 0

/-- One call of `write` on the device. -/
def write (m : SandboxMonitor) (answer : DecEventAnswer) (result : WriteResult) : SandboxMonitor :=
  let m := m.useDevice
  { m with world := { m.world with exchanges := m.world.exchanges ++ [.write answer result] } }

/-- `WriteEventAnswer`, given the answers of the coming writes; when they run out the
device is full. -/
def writeEventAnswer (m : SandboxMonitor) (eventId : UInt64) (action : DecPolicyAction) :
    List WriteResult → SandboxMonitor × SandboxError
  | [] => (m.write (eventAnswer eventId action) .again, .ERR_DEVICE_BUSY)
  | .interrupted :: rest =>
    (m.write (eventAnswer eventId action) .interrupted).writeEventAnswer eventId action rest
  | .again :: _ => (m.write (eventAnswer eventId action) .again, .ERR_DEVICE_BUSY)
  | .failed :: _ => (m.write (eventAnswer eventId action) .failed, SandboxError.ERR_DEVICE_IO)
  | .wrote n :: _ =>
    (m.write (eventAnswer eventId action) (.wrote n),
      if n ≠ DEC_EVENT_ANSWER_SIZE then SandboxError.ERR_DEVICE_IO else .SUCCESS)

def handleEventAnswer (m : SandboxMonitor) (jsonBody : Bytes) (answers : RequestAnswers Group) :
    SandboxMonitor × SandboxError :=
  if m.state = .DEGRADED ∨ m.deviceFd < 0 then (m, .ERR_MONITOR_DEGRADED)
  else
    match parseEventAnswer X jsonBody with
    | none => (m, .ERR_EVENT_ANSWER_INVALID)
    | some (eventId, action) =>
      if eventId ∉ m.pendingAnswers then (m, .ERR_EVENT_UNKNOWN)
      else
        let (m, ret) := m.writeEventAnswer eventId action answers.writes
        if ret ≠ .SUCCESS then (m, ret)
        else ({ m with pendingAnswers := m.pendingAnswers.erase eventId }, .SUCCESS)

def parseAddPolicy (jsonBody : Bytes) : SandboxError × List Group :=
  let (ret, ruleGroups) := X.parseOperationControlPolicy jsonBody
  if ret ≠ .SUCCESS then (ret, ruleGroups)
  else if ruleGroups = [] then (.ERR_CONFIG_INVALID, ruleGroups)
  else (.SUCCESS, ruleGroups)

/-- `HandleAddPolicy`, with what it leaves in `detail`. -/
def handleAddPolicy (m : SandboxMonitor) (jsonBody : Bytes) (answers : RequestAnswers Group) :
    SandboxMonitor × SandboxError × Bytes :=
  if m.state = .DEGRADED ∨ m.deviceFd < 0 then (m, .ERR_MONITOR_DEGRADED, [])
  else
    let (ret, ruleGroups) := parseAddPolicy X jsonBody
    if ret ≠ .SUCCESS then (m, ret, [])
    else if ruleGroups = [] then (m, .SUCCESS, [])
    else
      let (ret, results) := answers.addOperationControlPolicies ruleGroups
      (m.useDevice, ret,
        if ret = .ERR_SET_POLICY_PARTIAL then
          buildAddPolicyResult X.cJSON_PrintUnformatted results
        else [])

def dispatchSocketMessage (m : SandboxMonitor) (message : ParsedMessage)
    (answers : RequestAnswers Group) : SandboxMonitor × SandboxError × Bytes :=
  if message.header.msgType = SOCKET_MSG_ADD_POLICY then
    m.handleAddPolicy X message.body answers
  else if message.header.msgType = SOCKET_MSG_EVENT_ANSWER then
    let (m, ret) := m.handleEventAnswer X message.body answers
    (m, ret, [])
  else (m, .ERR_SOCKET_PROTOCOL, [])

def queueResponse (m : SandboxMonitor) (message : ParsedMessage) (answers : RequestAnswers Group) :
    SandboxMonitor :=
  let (m, ret, detail) :=
    if validateMessage message = .SUCCESS then m.dispatchSocketMessage X message answers
    else (m, validateMessage message, [])
  let m := { m with world := { m.world with
    served := m.world.served ++ [Served.mk message ret detail] } }
  let code := toResponseCode ret
  m.pushResponse message.header.requestId code (if code ≠ RSP_PARTIAL then [] else detail)

/-- The loop of `HandleSocketReadable` over the messages that were read. -/
def queueResponses (m : SandboxMonitor) :
    List ParsedMessage → List (RequestAnswers Group) → SandboxMonitor
  | [], _ => m
  | message :: rest, answers =>
    (m.queueResponse X message (answers.headD {})).queueResponses rest answers.tail

/-! ### Socket events -/

def handleSocketReadable (m : SandboxMonitor) (answers : SocketAnswers Group) :
    SandboxMonitor × MonitorAction :=
  match m.socket with
  | none => (m.fault .nullSocket, .NONE)
  | some socket =>
    let (socket, messages, ret) := socket.onReadable answers.arrived answers.reads
    let m := { m with
      socket := some socket
      world := { m.world with parsed := m.world.parsed ++ messages } }
    let m := m.queueResponses X messages answers.requests
    if ret ≠ .SUCCESS then (m.useSocket, .RECONNECT) else (m, .NONE)

def handleSocketWritable (m : SandboxMonitor) : SandboxMonitor × MonitorAction :=
  match m.socket with
  | none => (m.fault .nullSocket, .NONE)
  | some socket =>
    let (socket, ret, sends) := socket.onWritable m.world.sends
    let m := { m with socket := some socket, world := { m.world with sends := sends } }
    (m, if ret ≠ .SUCCESS then .RECONNECT else .NONE)

def checkSocketFailureEvents (m : SandboxMonitor) (events : UInt32) :
    SandboxMonitor × MonitorAction :=
  if events &&& EPOLLERR ≠ 0 then (m.useSocket, .RECONNECT)
  else if events &&& (EPOLLHUP ||| EPOLLRDHUP) ≠ 0 then (m.useSocket, .RECONNECT)
  else (m, .NONE)

def resumeSocketTx (m : SandboxMonitor) (epollCtl : Bool) : SandboxMonitor × MonitorAction :=
  let (m, ret) := m.flushSocketTxQueue
  if ret ≠ .SUCCESS then (m, .RECONNECT)
  else
    let (m, ret) := m.updateSocketEpollEvents epollCtl
    (m, if ret ≠ .SUCCESS then .STOP else .NONE)

/-- Go on with `next` unless a stage reported something. -/
def andThen (stage : SandboxMonitor × MonitorAction)
    (next : SandboxMonitor → SandboxMonitor × MonitorAction) : SandboxMonitor × MonitorAction :=
  if stage.2 ≠ .NONE then stage else next stage.1

def handleSocketEvent (m : SandboxMonitor) (events : UInt32) (answers : SocketAnswers Group) :
    SandboxMonitor × MonitorAction :=
  if m.socket.isNone then (m, .NONE)
  else
    let m := m.answering answers.sends
    andThen (if events &&& EPOLLIN ≠ 0 then m.handleSocketReadable X answers else (m, .NONE))
    fun m => andThen (if events &&& EPOLLOUT ≠ 0 then m.handleSocketWritable else (m, .NONE))
    fun m => andThen (m.checkSocketFailureEvents events)
    fun m => m.resumeSocketTx answers.epollCtl

/-! ### Device events -/

def sendEventReport (m : SandboxMonitor) (header : DeviceEventHeader) (needsAnswer : Bool)
    (jsonOutput : Bytes) : SandboxMonitor × SandboxError :=
  match m.socket with
  | none => (m.fault .nullSocket, .SUCCESS)
  | some socket =>
    let (socket, ret, sends) :=
      socket.sendMessage SOCKET_MSG_EVENT_REPORT jsonOutput m.world.sends
    let m := { m with socket := some socket, world := { m.world with sends := sends } }
    if ret = .ERR_SOCKET_TX_FULL then
      (m.pushEventReport header.eventId needsAnswer jsonOutput, .SUCCESS)
    else if ret = .ERR_SOCKET_MSG_TOO_LARGE then (m, .SUCCESS)
    else if ret ≠ .SUCCESS then (m.pushEventReport header.eventId needsAnswer jsonOutput, ret)
    else
      let message := m.create
        { msgType := SOCKET_MSG_EVENT_REPORT, eventId := header.eventId, needsAnswer := needsAnswer,
          body := jsonOutput }
      let m := { m with world := { m.world with created := m.world.created ++ [message] } }
      let m := m.handOver message
      (if needsAnswer then m.pushPendingAnswer header.eventId else m, .SUCCESS)

/-- The event is one the monitor keeps, for the history. -/
def deliver (m : SandboxMonitor) (eventId : UInt64) (jsonOutput : Bytes) : SandboxMonitor :=
  { m with world := { m.world with
      delivered := m.world.delivered ++ [(eventId, jsonOutput)] } }

def deliverDeviceEvent (m : SandboxMonitor) (header : DeviceEventHeader) (jsonOutput : Bytes) :
    SandboxMonitor × SandboxError :=
  if header.eventClass ≠ DEC_EVENT_CLASS_ASK then (m, .SUCCESS)
  else if m.socket.isNone ∨ m.socketTxQueue ≠ [] ∨ m.socket.any (·.hasPendingTxData) then
    if m.reconnectAttemptsLeft ≤ 0 ∧ m.socket.isNone then (m, .SUCCESS)
    else
      ((m.deliver header.eventId jsonOutput).pushEventReport header.eventId true jsonOutput, .SUCCESS)
  else (m.deliver header.eventId jsonOutput).sendEventReport header true jsonOutput

def isSocketChannelError (ret : SandboxError) : Bool :=
  ret = .ERR_SOCKET_CLOSED || ret = SandboxError.ERR_SOCKET_IO

def consumeDeviceEvent (m : SandboxMonitor) (data : Bytes) : SandboxMonitor × MonitorAction :=
  match X.parseEvent data with
  | none => (m, .SKIP)
  | some (header, jsonOutput) =>
    let (m, ret) := m.deliverDeviceEvent header jsonOutput
    (m, if ret = .SUCCESS then .NONE
      else if isSocketChannelError ret then .RECONNECT
      else .STOP)

/-- `ReadDeviceEvents`, given the answers of the coming reads; when they run out the next
read would block. -/
def readDeviceEvents (m : SandboxMonitor) : List DeviceRead → SandboxMonitor × MonitorAction
  | [] => (m.useDevice, .NONE)
  | .record data :: rest =>
    let (m, action) := m.useDevice.consumeDeviceEvent X data
    if action ≠ .NONE ∧ action ≠ .SKIP then (m, action) else m.readDeviceEvents rest
  | .eof :: _ => (m.useDevice, .DEGRADE)
  | .interrupted :: rest => m.useDevice.readDeviceEvents rest
  | .again :: _ => (m.useDevice, .NONE)
  | .failed :: _ => (m.useDevice, .DEGRADE)

def handleDeviceEvent (m : SandboxMonitor) (events : UInt32) (answers : DeviceAnswers) :
    SandboxMonitor × MonitorAction :=
  if m.deviceFd < 0 then (m, .NONE)
  else if events &&& (EPOLLERR ||| EPOLLHUP) ≠ 0 then (m, .DEGRADE)
  else if events &&& EPOLLIN ≠ 0 then
    andThen ((m.answering answers.sends).readDeviceEvents X answers.reads) fun m =>
      let (m, ret) := m.updateSocketEpollEvents answers.epollCtl
      (m, if ret ≠ .SUCCESS then .STOP else .NONE)
  else (m, .NONE)

/-! ### The child -/

/-- `CheckChildExit`, and what is left of the answers. -/
def checkChildExit : List WaitResult → MonitorAction × List WaitResult
  | [] => (.NONE, [])
  | .nothing :: rest => (.NONE, rest)
  | .interrupted :: rest => checkChildExit rest
  | .exited _ :: rest => (.CHILD_EXITED, rest)
  | .signaled _ :: rest => (.CHILD_EXITED, rest)
  | .unexpected :: rest => (.STOP, rest)
  | .failed :: rest => (.STOP, rest)

def handleChildExitEvent (events : UInt32) (waits : List WaitResult) : MonitorAction :=
  if events &&& (EPOLLERR ||| EPOLLHUP) ≠ 0 then .STOP
  else if events &&& EPOLLIN ≠ 0 then
    let (action, waits) := checkChildExit waits
    if action = .NONE then (checkChildExit waits).1 else action
  else .NONE

/-! ### The loop -/

/-- Closing the device for good. -/
def closeDevice (m : SandboxMonitor) : SandboxMonitor :=
  if m.deviceFd < 0 then m else { m with deviceFd := -1 }

/-- `ApplyAction`; the flag is its result. -/
def applyAction (m : SandboxMonitor) (action : MonitorAction) : SandboxMonitor × Bool :=
  match action with
  | .NONE => (m, true)
  | .SKIP => (m, true)
  | .RECONNECT => (m.dropSocketChannel, true)
  | .DEGRADE => (m.closeDevice.degrade, true)
  | .CHILD_EXITED => (m, false)
  | .STOP => (m, false)

def dispatchEpollEvent (m : SandboxMonitor) (event : EpollEvent Group) :
    SandboxMonitor × MonitorAction :=
  match event with
  | .nullContext => (m, .NONE)
  | .childFd events waits => (m, handleChildExitEvent events waits)
  | .socketFd events answers => m.handleSocketEvent X events answers
  | .deviceFd events answers => m.handleDeviceEvent X events answers
  | .unknown => (m, .NONE)

def processEpollBatch (m : SandboxMonitor) : List (EpollEvent Group) → SandboxMonitor × Bool
  | [] => (m, true)
  | event :: rest =>
    let (m, action) := m.dispatchEpollEvent X event
    let (m, isRunning) := m.applyAction action
    if isRunning then m.processEpollBatch rest else (m, false)

/-- One pass of the loop. -/
def round (m : SandboxMonitor) (r : Round Group) : SandboxMonitor × Bool :=
  let (m, isRunning) := m.processEpollBatch X r.events
  if isRunning ∧ 0 < m.reconnectAttemptsLeft ∧ m.nextEpollTimeout r.remaining = 0 then
    (m.tryReconnect r.reconnect, true)
  else (m, isRunning)

/-- The loop of `Run`, as far as the rounds go. -/
def rounds (m : SandboxMonitor) : List (Round Group) → SandboxMonitor × Bool
  | [] => (m, true)
  | r :: rest =>
    let (m, isRunning) := m.round X r
    if isRunning then m.rounds rest else (m, false)

/-- `Run` of the monitor for a configuration: what state it has reached, and whether it
is still running. -/
def run (config : MonitorConfig) (waits : List WaitResult) (rs : List (Round Group)) :
    SandboxMonitor × Bool :=
  let (m, isRunning) := (ofConfig config).applyAction (checkChildExit waits).1
  if isRunning then m.rounds X rs else (m, false)

end SandboxMonitor

end

end SandboxManager.Claw
