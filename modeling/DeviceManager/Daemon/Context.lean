import Mathlib.Logic.Function.Basic
import DeviceManager.Lib.Transition
import DeviceManager.Protocol.Parser
import DeviceManager.Device.Session
import DeviceManager.Upgrade.Upgrade
import DeviceManager.Ipc.Codec
import DeviceManager.Worker.Worker

/-!
# The context of `apps/devmgrd/daemon.c`

The state of the daemon, its client table and the handlers of the device side.
`DeviceManager.Daemon.Reactor` has the requests of the clients and the loop.

Every handler returns the code that
the C function returns, next to the context it leaves; the loop goes on while the
code is `DEVMGR_OK`.  What the system calls answer is part of the events:

* `Env` has the clock and the results of `epoll_ctl`, for the duration of one
  event;
* the results of `read`, `write` and `accept4` are scripts, one entry a call,
  and a call behind the end of its script would block.

A slot of the client table is closed where the C field `fd` is negative.  The
number of a connection stands for the accepted descriptor, and unlike the
descriptor it is never used again.

`History` is not in the source.  It records who owns the request in the session's
slot, which connections had a request started, what was delivered to whom, every
change of the upgrade state within one operation with its cause, and which images
were opened and closed.  No handler reads it.
-/

namespace Daemon

open Devmgr

/-! ## State -/

/-- `MAX_CLIENTS`. -/
def maxClients : Nat := 16

abbrev Slot := Fin maxClients

/-- `struct daemon_client`. -/
structure Client where
  isOpen : Bool
  connection : Nat
  input : List UInt8
  expectedSize : Nat
  output : List UInt8
  outputOffset : Nat
  closeAfterWrite : Bool

/-- The size of `input` in `struct daemon_client`. -/
def clientInputSize : Nat := ipcRequestHeaderSize + ipcMaxPayload

/-- Who began the request in the session's slot. -/
inductive Owner
  | handshake
  | client (connection : Nat)
  | upgrade (operation : UInt32)
  deriving DecidableEq

/-- A response or a timeout that was handed to a connection, with the owner of the
request it belongs to. -/
structure Delivery where
  requester : Owner
  connection : Nat
  deriving DecidableEq

/-- What made the upgrade state change: a result of the worker, with the owner of
a request that was in the slot then; an accepted response, or an expiry, with the
owner of the request; or anything else. -/
inductive ChangeCause
  | workerResult (jobId : UInt32) (pending : Option Owner)
  | response (pending : Option Owner)
  | expiry (pending : Option Owner)
  | other
  deriving DecidableEq

/-- A change of the upgrade state within one operation. -/
structure UpgradeChange where
  operation : UInt32
  before : UpgradeState
  after : UpgradeState
  cause : ChangeCause
  deriving DecidableEq

/-- The record of a run. -/
structure History where
  owner : Owner
  nextConnection : Nat
  started : List Nat
  deliveries : List Delivery
  changes : List UpgradeChange
  opened : List Nat
  released : List Nat

/-- `struct daemon_context`. -/
structure Context where
  parser : Parser
  session : Session
  clients : Slot → Client
  activeClient : Option Slot
  transportOutput : List UInt8
  transportOutputOffset : Nat
  running : Bool
  latestTelemetry : List UInt8
  telemetryFrames : UInt64
  firmware : Option FirmwareImage
  upgrade : Upgrade
  upgradeOperationId : UInt32
  upgradeResult : Int
  worker : Worker
  pendingUpgradeVersion : CString (upgradeVersionMax + 1)
  history : History

/-- The clock, and whether `epoll_ctl` succeeds for clients and for the
transport. -/
structure Env where
  now : UInt64
  clientEpoll : Bool
  transportEpoll : Bool

/-- `epoll_update` on the descriptor of a client. -/
def Env.updateClientEvents (env : Env) : Int :=
  if env.clientEpoll then Status.ok.code else Status.io.code

/-- `update_transport_events`. -/
def Env.updateTransportEvents (env : Env) : Int :=
  if env.transportEpoll then Status.ok.code else Status.io.code

/-- The owner of the pending request, if there is one. -/
def Context.pendingOwner (context : Context) : Option Owner :=
  if context.session.pending.active then some context.history.owner else none

def Context.setClient (context : Context) (index : Slot) (client : Client) : Context :=
  { context with clients := Function.update context.clients index client }

/-- The session with a request in its slot, and the owner of the request. -/
def Context.ownRequest (context : Context) (session : Session) (owner : Owner) : Context :=
  { context with session := session, history := { context.history with owner := owner } }

/-- Note a change of the upgrade state, if the operation is still the same. -/
def Context.recordChange (before : Context) (cause : ChangeCause) (handled : Int × Context) :
    Int × Context :=
  let after := handled.2
  if before.upgradeOperationId = after.upgradeOperationId ∧
      before.upgrade.state ≠ after.upgrade.state then
    (handled.1, { after with history := { after.history with
      changes := after.history.changes ++
        [⟨before.upgradeOperationId, before.upgrade.state, after.upgrade.state, cause⟩] } })
  else handled

/-- `devmgr_firmware_close`: the mapping of an image that is open is released. -/
def Context.release (context : Context) (image : Option FirmwareImage) : Context :=
  { context with history := { context.history with
    released := context.history.released ++ (image.map FirmwareImage.mapping).toList } }

/-! ## Clients and frames -/

/-- `close_client`. -/
def closeClient (context : Context) (index : Slot) : Context :=
  { context.setClient index { context.clients index with isOpen := false } with
    activeClient := if context.activeClient = some index then none else context.activeClient }

/-- The response of `queue_client_response`: too long a payload becomes a
`DEVMGR_ERROR_LIMIT`. -/
def clientResponse (command : UInt8) (status : Int) (payload : List UInt8) : IpcResponse :=
  if h : payload.length > ipcMaxPayload then
    ⟨command, Int32.ofInt Status.limit.code, [], Nat.zero_le _⟩
  else ⟨command, Int32.ofInt status, payload, Nat.le_of_not_lt h⟩

/-- `queue_client_response`. -/
def queueClientResponse (env : Env) (context : Context) (index : Slot) (command : UInt8)
    (status : Int) (payload : List UInt8) : Int × Context :=
  match ipcEncodeResponse (clientResponse command status payload)
      (ipcResponseHeaderSize + ipcMaxPayload) with
  | .error error => (error.code, context)
  | .ok bytes =>
    (env.updateClientEvents,
      context.setClient index { context.clients index with
        output := bytes
        outputOffset := 0
        closeAfterWrite := true })

/-- `queue_frame`. -/
def queueFrame (env : Env) (context : Context) (frame : Frame) : Int × Context :=
  if context.transportOutputOffset < context.transportOutput.length then
    (Status.busy.code, context)
  else
    match frameEncode frame maxFrame with
    | .error error => (error.code, { context with transportOutputOffset := 0 })
    | .ok bytes =>
      (env.updateTransportEvents,
        { context with transportOutputOffset := 0, transportOutput := bytes })

/-- The policy of `queue_upgrade_request`. -/
def upgradePolicy : RetryPolicy := ⟨2000, 750, 4⟩

/-- `queue_upgrade_request`. -/
def queueUpgradeRequest (env : Env) (context : Context) : Int × Context :=
  match upgradeBuildRequest context.upgrade with
  | .error error =>
    (error.code, { context with session := sessionCancelRequest context.session })
  | .ok (upgradeFrame, upgrade) =>
    let context := { context with upgrade := upgrade }
    match sessionBeginRequest context.session upgradeFrame.type upgradeFrame.flags
        upgradeFrame.payload upgradePolicy env.now with
    | .error error =>
      (error.code, { context with session := sessionCancelRequest context.session })
    | .ok (request, session) =>
      let context := context.ownRequest session (.upgrade context.upgradeOperationId)
      let queued := queueFrame env context request
      if queued.1 ≠ Status.ok.code then
        (queued.1, { queued.2 with session := sessionCancelRequest queued.2.session })
      else queued

/-- A frame that reports a failure. -/
def isFailure (type : UInt8) : Prop := type = Msg.nack ∨ type = Msg.error

instance (type : UInt8) : Decidable (isFailure type) := inferInstanceAs (Decidable (_ ∨ _))

/-- An upgrade comes to its end: the session leaves `UPGRADING` if it is there, and
the image is closed. -/
def finishUpgrade (context : Context) (result : Int) : Context :=
  { context.release context.firmware with
    upgradeResult := result
    session := (sessionTransition context.session .upgradeDone).2
    firmware := none }

/-- The upgrade branch of `on_device_frame`, after the session took the frame. -/
def onUpgradeResponse (env : Env) (context : Context) (requestType : UInt8) (frame : Frame) :
    Int × Context :=
  let accepted := upgradeAcceptResponse context.upgrade requestType frame
  let context := { context with upgrade := accepted.2 }
  if accepted.1 = .ok ∧ accepted.2.state = .complete then
    (Status.ok.code, finishUpgrade context Status.ok.code)
  else if accepted.1 ≠ .ok then
    (Status.ok.code, finishUpgrade context accepted.1.code)
  else queueUpgradeRequest env context

/-- The client branch of `on_device_frame`, after the session took the frame. -/
def onClientResponse (env : Env) (context : Context) (index : Slot) (requestType : UInt8)
    (frame : Frame) : Int × Context :=
  let session :=
    if ¬ isFailure frame.type ∧ requestType = Msg.startTelemetry then
      (sessionTransition context.session .startStream).2
    else if ¬ isFailure frame.type ∧ requestType = Msg.stopTelemetry then
      (sessionTransition context.session .stopStream).2
    else context.session
  let status := if isFailure frame.type then Status.protocol.code else Status.ok.code
  let context := { context with
    activeClient := none
    session := session
    history := { context.history with
      deliveries := context.history.deliveries ++
        [⟨context.history.owner, (context.clients index).connection⟩] } }
  queueClientResponse env context index requestType status frame.payload

/-- The size of `latest_telemetry`. -/
def telemetrySize : Nat := 16

/-- `on_device_frame`. -/
def onDeviceFrame (env : Env) (frame : Frame) (context : Context) : Int × Context :=
  if frame.type = Msg.telemetry ∧ frame.sequence = 0 then
    if frame.payload.length = telemetrySize then
      (Status.ok.code, { context with
        latestTelemetry := frame.payload
        telemetryFrames := context.telemetryFrames + 1 })
    else (Status.ok.code, context)
  else
    let requestType := context.session.pending.frame.type
    let accepted := sessionAcceptResponse context.session frame
    let context := { context with session := accepted.2 }
    if accepted.1 ≠ .ok then (Status.ok.code, context)
    else if context.session.state = .handshaking then
      if isFailure frame.type then (Status.protocol.code, context)
      else
        let transition := sessionTransition context.session .handshakeOk
        (transition.1.code, { context with session := transition.2 })
    else if upgradeActive context.upgrade then
      onUpgradeResponse env context requestType frame
    else
      match context.activeClient with
      | some index => onClientResponse env context index requestType frame
      | none => (Status.ok.code, context)

/-- `on_device_frame`, with a change of the upgrade state noted: it comes from the
response if the session takes the frame. -/
def observeDeviceFrame (env : Env) (frame : Frame) (context : Context) : Int × Context :=
  let cause :=
    if (sessionAcceptResponse context.session frame).1 = .ok then
      .response context.pendingOwner
    else .other
  context.recordChange cause (onDeviceFrame env frame context)

/-! ## The transport -/

/-- The result of one `write`: it takes `more + 1` bytes, or all there are. -/
inductive WriteResult
  | wrote (more : Nat)
  | again
  | failed

/-- The result of one `read`, or of `devmgr_transport_read`. -/
inductive ReadResult
  | data (first : UInt8) (more : List UInt8)
  | eof
  | again
  | interrupted
  | failed

/-- The loop of `flush_transport`; false where the transport is gone. -/
def flushLoop (writes : List WriteResult) (context : Context) : Bool × Context :=
  if context.transportOutputOffset < context.transportOutput.length then
    match writes with
    | [] => (true, context)
    | .again :: _ => (true, context)
    | .failed :: _ => (false, context)
    | .wrote more :: writes =>
      let count :=
        min (more + 1) (context.transportOutput.length - context.transportOutputOffset)
      flushLoop writes
        { context with transportOutputOffset := context.transportOutputOffset + count }
  else (true, context)

/-- `flush_transport`. -/
def flushTransport (env : Env) (writes : List WriteResult) (context : Context) : Int × Context :=
  let flushed := flushLoop writes context
  if ¬ flushed.1 then (Status.disconnected.code, flushed.2)
  else if flushed.2.transportOutputOffset = flushed.2.transportOutput.length then
    (env.updateTransportEvents,
      { flushed.2 with transportOutputOffset := 0, transportOutput := [] })
  else (env.updateTransportEvents, flushed.2)

/-- The size of the buffer of `read_transport`. -/
def transportInputSize : Nat := 2048

/-- `read_transport`. -/
def readTransport (env : Env) : List ReadResult → Context → Int × Context
  | [], context => (Status.ok.code, context)
  | .data first more :: reads, context =>
    let fed := parserFeed (observeDeviceFrame env) context.parser
      ((first :: more).take transportInputSize) context
    let context := { fed.context with parser := fed.parser }
    if fed.result ≠ Status.ok.code then (fed.result, context)
    else readTransport env reads context
  | .eof :: _, context => (Status.ok.code, context)
  | .again :: _, context => (Status.ok.code, context)
  | .interrupted :: reads, context => readTransport env reads context
  | .failed :: _, context => (Status.disconnected.code, context)

end Daemon
