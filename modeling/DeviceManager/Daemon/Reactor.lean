import DeviceManager.Daemon.Context

/-!
# The reactor of `apps/devmgrd/daemon.c`

The requests of the clients, the timer, the worker's completions, and the loop of
`devmgr_daemon_run` as a `System`: `daemonStep` handles one event of one
descriptor, and is `none` where the loop ends.  A batch of `epoll_wait` is a
sequence of such events.

`Client.readLoop` is the loop of `handle_client_input` up to the point where it
acts: it fills the input buffer of the client and says what stopped it.
-/

namespace Daemon

open Devmgr

/-! ## Requests -/

/-- A well-formed `IPC_UPGRADE` payload. -/
structure UpgradeRequest where
  path : CString ipcMaxPayload
  version : CString (upgradeVersionMax + 1)

/-- The checks of `start_request` on an `IPC_UPGRADE` payload: two terminated
strings, neither empty, the second of at most 31 characters. -/
def parseUpgradeRequest (request : IpcRequest) : Option UpgradeRequest :=
  let pathLength := (memchrNul request.payload).getD 0
  let versionOffset := pathLength + 1
  let versionLength := (memchrNul (request.payload.drop versionOffset)).getD 0
  if h : memchrNul request.payload = none ∨ pathLength = 0 ∨
      versionOffset ≥ request.payload.length ∨
      memchrNul (request.payload.drop versionOffset) = none ∨
      versionLength = 0 ∨ versionLength > upgradeVersionMax then none
  else
    some
      { path :=
          { bytes := request.payload.take pathLength
            length_lt := by
              have := request.payload_le
              exact (List.length_take_le _ _).trans_lt (by omega)
            nonzero := fun _ hb => ne_zero_of_mem_take_memchrNul hb }
        version :=
          { bytes := (request.payload.drop versionOffset).take versionLength
            length_lt := (List.length_take_le _ _).trans_lt (by omega)
            nonzero := fun _ hb => ne_zero_of_mem_take_memchrNul hb } }

/-- The payload of an `IPC_UPGRADE_STATUS` response. -/
def statusPayload (context : Context) : List UInt8 :=
  putLe32 context.upgradeOperationId ++ [context.upgrade.state.code, 0, 0, 0] ++
    putLe32 (Int32.ofInt context.upgradeResult).toUInt32 ++ putLe32 context.upgrade.offset ++
    putLe32 context.upgrade.imageSize.toUInt32

/-- `++upgrade_operation_id`, with the zero skipped. -/
def operationAfter (operation : UInt32) : UInt32 :=
  if operation + 1 = 0 then 1 else operation + 1

/-- An upgrade may begin: the device is ready, no client waits for a response, and
no upgrade is active. -/
def Context.upgradeAllowed (context : Context) : Prop :=
  context.session.state = .ready ∧ context.activeClient = none ∧
    upgradeActive context.upgrade = false

instance (context : Context) : Decidable context.upgradeAllowed :=
  inferInstanceAs (Decidable (_ ∧ _ ∧ _))

section Requests

variable (env : Env) (context : Context) (index : Slot) (request : IpcRequest)

/-- `IPC_GET_TELEMETRY` in `start_request`. -/
def startGetTelemetry : Int × Context :=
  if context.latestTelemetry.length = 0 then
    queueClientResponse env context index request.command Status.notFound.code []
  else
    queueClientResponse env context index request.command Status.ok.code context.latestTelemetry

/-- `IPC_UPGRADE_STATUS` in `start_request`. -/
def startUpgradeStatus : Int × Context :=
  if request.payload.length ≠ 4 ∨ context.upgradeOperationId = 0 ∨
      getLe32 request.payload ≠ context.upgradeOperationId then
    queueClientResponse env context index request.command Status.notFound.code []
  else
    queueClientResponse env context index request.command Status.ok.code (statusPayload context)

/-- `IPC_UPGRADE` in `start_request`. -/
def startUpgrade : Int × Context :=
  match parseUpgradeRequest request with
  | none => queueClientResponse env context index request.command Status.invalid.code []
  | some upgradeRequest =>
    if ¬ context.upgradeAllowed then
      queueClientResponse env context index request.command Status.busy.code []
    else
      let operation := operationAfter context.upgradeOperationId
      let submitted := workerSubmitFirmware context.worker operation upgradeRequest.path
      let context := { context with
        upgradeOperationId := operation
        pendingUpgradeVersion := upgradeRequest.version
        worker := submitted.2 }
      if submitted.1 ≠ .ok then
        queueClientResponse env
          { context with
            upgradeResult := submitted.1.code
            upgrade := { context.upgrade with state := .error } }
          index request.command submitted.1.code []
      else
        queueClientResponse env
          { context with
            upgradeResult := Status.ok.code
            upgrade := { context.upgrade with state := .validating } }
          index request.command Status.ok.code (putLe32 operation)

/-- The policy of `start_request`. -/
def requestPolicy : RetryPolicy := ⟨1000, 500, 2⟩

/-- The rest of `start_request`: a request for the device. -/
def startDeviceRequest : Int × Context :=
  if upgradeActive context.upgrade then
    queueClientResponse env context index request.command Status.busy.code []
  else if request.command = Msg.startTelemetry ∧ context.session.state ≠ .ready then
    queueClientResponse env context index request.command Status.state.code []
  else if request.command = Msg.stopTelemetry ∧ context.session.state ≠ .streaming then
    queueClientResponse env context index request.command Status.state.code []
  else if context.session.state ≠ .ready ∧ context.session.state ≠ .streaming then
    queueClientResponse env context index request.command Status.state.code []
  else if context.activeClient.isSome then
    queueClientResponse env context index request.command Status.busy.code []
  else
    match sessionBeginRequest context.session request.command Flag.ackRequired request.payload
        requestPolicy env.now with
    | .error error =>
      queueClientResponse env context index request.command error.code []
    | .ok (frame, session) =>
      let context := context.ownRequest session (.client (context.clients index).connection)
      let queued := queueFrame env context frame
      if queued.1 ≠ Status.ok.code then
        queueClientResponse env
          { queued.2 with session := sessionCancelRequest queued.2.session }
          index request.command queued.1 []
      else (Status.ok.code, { queued.2 with activeClient := some index })

/-- `start_request`. -/
def startRequest : Int × Context :=
  let context := { context with history := { context.history with
    started := context.history.started ++ [(context.clients index).connection] } }
  if request.command = IpcCommand.getTelemetry then startGetTelemetry env context index request
  else if request.command = IpcCommand.upgradeStatus then
    startUpgradeStatus env context index request
  else if request.command = IpcCommand.upgrade then startUpgrade env context index request
  else startDeviceRequest env context index request

end Requests

/-! ## Clients -/

/-- What the bytes of a client amount to. -/
inductive InputAction
  | more
  | tooLong
  | complete
  deriving DecidableEq

/-- Take bytes into the input buffer of a client. -/
def Client.receive (client : Client) (data : List UInt8) : Client × InputAction :=
  let client := { client with input := client.input ++ data }
  let payloadLength := (getLe32 (client.input.drop 4)).toNat
  if client.input.length ≥ ipcRequestHeaderSize ∧ client.expectedSize = 0 then
    if payloadLength > ipcMaxPayload then (client, .tooLong)
    else
      let client := { client with expectedSize := ipcRequestHeaderSize + payloadLength }
      if client.input.length = client.expectedSize then (client, .complete) else (client, .more)
  else if client.expectedSize ≠ 0 ∧ client.input.length = client.expectedSize then
    (client, .complete)
  else (client, .more)

/-- What stops the loop of `handle_client_input`. -/
inductive InputStop
  | blocked
  | closed
  | tooLong
  | complete
  deriving DecidableEq

/-- The loop of `handle_client_input`.  A full buffer leaves no room to read into,
and `read` of no bytes returns zero, like the end of the stream. -/
def Client.readLoop (client : Client) (reads : List ReadResult) : Client × InputStop :=
  if client.input.length ≥ clientInputSize then (client, .closed)
  else
    match reads with
    | [] => (client, .blocked)
    | .again :: _ => (client, .blocked)
    | .eof :: _ => (client, .closed)
    | .failed :: _ => (client, .closed)
    | .interrupted :: reads => client.readLoop reads
    | .data first more :: reads =>
      let received := client.receive ((first :: more).take (clientInputSize - client.input.length))
      match received.2 with
      | .more => received.1.readLoop reads
      | .tooLong => (received.1, .tooLong)
      | .complete => (received.1, .complete)

/-- `handle_client_input`. -/
def handleClientInput (env : Env) (context : Context) (index : Slot) (reads : List ReadResult) :
    Int × Context :=
  let read := (context.clients index).readLoop reads
  let context := context.setClient index read.1
  match read.2 with
  | .blocked => (Status.ok.code, context)
  | .closed => (Status.ok.code, closeClient context index)
  | .tooLong => queueClientResponse env context index 0 Status.limit.code []
  | .complete =>
    match ipcDecodeRequest read.1.input with
    | .error error => queueClientResponse env context index 0 error.code []
    | .ok request => startRequest env context index request

/-- The loop of `handle_client_output`; false where the client is to be closed for
a failed `write`. -/
def Client.writeLoop (client : Client) (writes : List WriteResult) : Client × Bool :=
  if client.outputOffset < client.output.length then
    match writes with
    | [] => (client, true)
    | .again :: _ => (client, true)
    | .failed :: _ => (client, false)
    | .wrote more :: writes =>
      let count := min (more + 1) (client.output.length - client.outputOffset)
      Client.writeLoop { client with outputOffset := client.outputOffset + count } writes
  else (client, true)

/-- `handle_client_output`. -/
def handleClientOutput (context : Context) (index : Slot) (writes : List WriteResult) :
    Int × Context :=
  let written := (context.clients index).writeLoop writes
  let context := context.setClient index written.1
  if ¬ written.2 then (Status.ok.code, closeClient context index)
  else if written.1.outputOffset < written.1.output.length then (Status.ok.code, context)
  else if written.1.closeAfterWrite then (Status.ok.code, closeClient context index)
  else (Status.ok.code, context)

/-- The result of one `accept4`, and of the `epoll_ctl` that adds the client. -/
inductive AcceptResult
  | accepted (epoll : Bool)
  | again
  | interrupted
  | failed

/-- The first closed slot. -/
def freeSlot (clients : Slot → Client) : Option Slot :=
  (List.finRange maxClients).find? fun index => !(clients index).isOpen

/-- A client that has just been accepted. -/
def newClient (connection : Nat) : Client := ⟨true, connection, [], 0, [], 0, false⟩

/-- An accepted connection in `accept_clients`: it gets the first closed slot or is
turned away. -/
def admitClient (context : Context) (epoll : Bool) : Context :=
  let connection := context.history.nextConnection
  let context := { context with history := { context.history with
    nextConnection := connection + 1 } }
  match freeSlot context.clients with
  | none => context
  | some index =>
    let context := context.setClient index (newClient connection)
    if epoll then context else closeClient context index

/-- `accept_clients`. -/
def acceptClients : List AcceptResult → Context → Int × Context
  | [], context => (Status.ok.code, context)
  | .again :: _, context => (Status.ok.code, context)
  | .interrupted :: accepts, context => acceptClients accepts context
  | .failed :: _, context => (Status.io.code, context)
  | .accepted epoll :: accepts, context => acceptClients accepts (admitClient context epoll)

/-! ## The worker and the timer -/

/-- The calls that `handle_worker_completion` makes to start an upgrade, up to the
first that fails. -/
def tryUpgrade (env : Env) (context : Context) (image : FirmwareImage) : Int × Context :=
  match upgradeStart image.data image.crc32 context.pendingUpgradeVersion upgradeDefaultChunk with
  | .error error => (error.code, context)
  | .ok upgrade =>
    let transition := sessionTransition context.session .startUpgrade
    if transition.1 ≠ .ok then (transition.1.code, { context with upgrade := upgrade })
    else queueUpgradeRequest env { context with upgrade := upgrade, session := transition.2 }

/-- The upgrade that a validated image starts, in `handle_worker_completion`. -/
def beginUpgrade (env : Env) (context : Context) (image : FirmwareImage) : Context :=
  let begun := tryUpgrade env { context with firmware := some image } image
  if begun.1 ≠ Status.ok.code then
    { begun.2.release begun.2.firmware with
      upgradeResult := begun.1
      upgrade := { begun.2.upgrade with state := .error }
      firmware := none
      session :=
        if begun.2.session.state = .upgrading then
          (sessionTransition begun.2.session .upgradeDone).2
        else begun.2.session }
  else begun.2

/-- `handle_worker_completion`, behind the read of the eventfd. -/
def takeWorkerResult (env : Env) (context : Context) : Int × Context :=
  match workerTakeResult context.worker with
  | .error error => (error.code, context)
  | .ok (validation, worker) =>
    let context := { context with worker := worker }
    if validation.jobId ≠ context.upgradeOperationId ∨ context.upgrade.state ≠ .validating then
      (Status.ok.code, context.release validation.image)
    else
      match validation.status, validation.image with
      | .ok, some image => (Status.ok.code, beginUpgrade env context image)
      | status, _ =>
        (Status.ok.code, { context with
          upgradeResult := status.code
          upgrade := { context.upgrade with state := .error } })

/-- The calls that the timer branch makes to resume an upgrade. -/
def tryRecovery (env : Env) (context : Context) : Int × Context :=
  let recovery := upgradeBeginRecovery context.upgrade
  let context := { context with upgrade := recovery.2 }
  if recovery.1 = .ok then queueUpgradeRequest env context else (recovery.1.code, context)

/-- The timer branch of `devmgr_daemon_run` after a timeout. -/
def handleTimeout (env : Env) (context : Context) : Int × Context :=
  if upgradeActive context.upgrade then
    let queued := tryRecovery env context
    if queued.1 = Status.ok.code then queued
    else
      (Status.ok.code,
        { queued.2.release queued.2.firmware with
          upgradeResult := Status.timeout.code
          upgrade := { queued.2.upgrade with state := .error }
          firmware := none
          session := (sessionTransition queued.2.session .upgradeDone).2 })
  else
    match context.activeClient with
    | some index =>
      let context := { context with
        activeClient := none
        history := { context.history with
          deliveries := context.history.deliveries ++
            [⟨context.history.owner, (context.clients index).connection⟩] } }
      queueClientResponse env context index 0 Status.timeout.code []
    | none => (Status.timeout.code, context)

/-- `devmgr_session_tick` as the loop calls it. -/
def tickSession (env : Env) (context : Context) : Int × Context :=
  let ticked := sessionTick context.session env.now
    (fun frame context => queueFrame env context frame) context
  (ticked.1, { ticked.2.2 with session := ticked.2.1 })

/-- The timer branch of `devmgr_daemon_run`. -/
def handleTimer (env : Env) (context : Context) : Int × Context :=
  let ticked := tickSession env context
  if ticked.1 = Status.timeout.code then handleTimeout env ticked.2 else ticked

/-! ## The loop -/

/-- The readiness of a client's descriptor, with the results of the calls that the
handlers make on it. -/
structure ClientEvent where
  input : Bool
  reads : List ReadResult
  output : Bool
  writes : List WriteResult
  hangup : Bool

/-- The readiness of the transport. -/
structure TransportEvent where
  output : Bool
  writes : List WriteResult
  input : Bool
  reads : List ReadResult
  hangup : Bool

/-- An event of the loop, or a step of the worker thread beside it. -/
inductive Event
  | listener (accepts : List AcceptResult)
  | signal
  | worker (env : Env)
  | timer (env : Env)
  | transport (env : Env) (event : TransportEvent)
  | client (env : Env) (index : Slot) (event : ClientEvent)
  | workerThread (file : FileView)

section ClientBranch

variable (event : ClientEvent) (env : Env) (context : Context) (index : Slot)

/-- The client branch of the loop, up to the input. -/
def ClientEvent.afterInput : Int × Context :=
  if event.input then handleClientInput env context index event.reads
  else (Status.ok.code, context)

/-- The client branch of the loop, up to the output. -/
def ClientEvent.afterOutput : Int × Context :=
  let input := event.afterInput env context index
  if input.1 = Status.ok.code ∧ (input.2.clients index).isOpen ∧ event.output then
    handleClientOutput input.2 index event.writes
  else input

end ClientBranch

/-- The client branch of the loop. -/
def handleClientEvent (env : Env) (context : Context) (index : Slot) (event : ClientEvent) :
    Int × Context :=
  if ¬ (context.clients index).isOpen then (Status.ok.code, context)
  else
    let output := event.afterOutput env context index
    if (output.2.clients index).isOpen ∧ event.hangup then
      (output.1, closeClient output.2 index)
    else output

/-- The transport branch of the loop. -/
def handleTransportEvent (env : Env) (context : Context) (event : TransportEvent) :
    Int × Context :=
  let flushed :=
    if event.output then flushTransport env event.writes context else (Status.ok.code, context)
  let read :=
    if flushed.1 = Status.ok.code ∧ event.input then readTransport env event.reads flushed.2
    else flushed
  if event.hangup then (Status.disconnected.code, read.2) else read

/-- `handle_worker_completion`, with a change of the upgrade state noted. -/
def observeWorkerResult (env : Env) (context : Context) : Int × Context :=
  context.recordChange (.workerResult context.worker.result.jobId context.pendingOwner)
    (takeWorkerResult env context)

/-- The timer branch, with a change of the upgrade state noted. -/
def observeTimer (env : Env) (context : Context) : Int × Context :=
  context.recordChange (.expiry context.pendingOwner) (handleTimer env context)

/-- The client branch, with a change of the upgrade state noted. -/
def observeClientEvent (env : Env) (context : Context) (index : Slot) (event : ClientEvent) :
    Int × Context :=
  context.recordChange .other (handleClientEvent env context index event)

/-- The mapping of the image that a step of the worker thread opens, if it opens one. -/
def openedBy (before after : Worker) : List Nat :=
  match before.thread with
  | .opening _ => (after.result.image.map FirmwareImage.mapping).toList
  | _ => []

/-- A step of the worker thread, with the mapping noted. -/
def Context.advanceWorker (context : Context) (worker : Worker) : Context :=
  { context with
    worker := worker
    history := { context.history with
      opened := context.history.opened ++ openedBy context.worker worker } }

/-- One event: the code that the loop looks at, and the context.  The worker's
descriptor is ready only after a notification, and the worker thread may have
nothing to do. -/
def handleEvent (context : Context) : Event → Option (Int × Context)
  | .listener accepts => some (acceptClients accepts context)
  | .signal => some (Status.ok.code, { context with running := false })
  | .worker env =>
    (workerReadEvent context.worker).map fun worker =>
      observeWorkerResult env { context with worker := worker }
  | .timer env => some (observeTimer env context)
  | .transport env event => some (handleTransportEvent env context event)
  | .client env index event => some (observeClientEvent env context index event)
  | .workerThread file =>
    (workerStep context.worker file).map fun worker =>
      (Status.ok.code, context.advanceWorker worker)

/-- The loop goes on while the code is `DEVMGR_OK`. -/
def daemonStep (context : Context) (event : Event) : Option Context :=
  match handleEvent context event with
  | some (result, context) => if result = Status.ok.code then some context else none
  | none => none

/-- `setup_context`. -/
def setupContext : Context where
  parser := parserInit
  session := sessionInit
  clients := fun _ => ⟨false, 0, [], 0, [], 0, false⟩
  activeClient := none
  transportOutput := []
  transportOutputOffset := 0
  running := true
  latestTelemetry := []
  telemetryFrames := 0
  firmware := none
  upgrade := upgradeInit
  upgradeOperationId := 0
  upgradeResult := 0
  worker := workerInit
  pendingUpgradeVersion := .empty
  history := ⟨.handshake, 0, [], [], [], [], []⟩

/-- The policy of `start_handshake`. -/
def handshakePolicy : RetryPolicy := ⟨1000, 500, 3⟩

/-- `start_handshake`. -/
def startHandshake (env : Env) (context : Context) : Int × Context :=
  let connect := sessionTransition context.session .connect
  let connected := sessionTransition connect.2 .transportConnected
  if connect.1 ≠ .ok then (connect.1.code, context)
  else if connected.1 ≠ .ok then (connected.1.code, { context with session := connect.2 })
  else
    match sessionBeginRequest connected.2 Msg.ping Flag.ackRequired [] handshakePolicy env.now with
    | .error error => (error.code, { context with session := connected.2 })
    | .ok (frame, session) =>
      queueFrame env (context.ownRequest session .handshake) frame

/-- The daemon: `devmgr_daemon_run` from the entry of its loop on. -/
def daemonSystem : System Context Event where
  init context := ∃ env, startHandshake env setupContext = (Status.ok.code, context)
  step := daemonStep

end Daemon
