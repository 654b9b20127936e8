import DeviceManager.Ipc.RoundTrip
import DeviceManager.Daemon.Routing
import DeviceManager.Daemon.Framing

/-!
# What a client is answered

A response is queued in three places: by `start_request` itself, by `on_device_frame` for the
client that waits, and by the timer.  `Deed` is what the daemon did there, with the context it
did it in, and `Deed.Answers` says which response to which request that is.

* `Context.refusal`: the status that `start_request` refuses a request with.
* `startRequest_answer`: `start_request` answers at once, with what `Immediate` lists, or puts the
  request into the slot of the session.
* `Context.Settles.delivers`, `timeout_delivers`: a frame that answers the request in the slot, and
  its expiry, put the response into the output of the client that waits.
* `Client.Hears`: the client has sent a part of one request and nothing else.  Then the
  request is the one thing that `handle_client_input` can make of its bytes.
-/

namespace Daemon

open Devmgr

/-! ## Deeds -/

/-- The status that a request for the device is refused with, before its frame is watched: the
checks of `start_request`, of `devmgr_session_begin_request` and of `queue_frame`. -/
def Context.deviceRefusal (context : Context) (request : IpcRequest) : Option Status :=
  if upgradeActive context.upgrade then some .busy
  else if request.command = Msg.startTelemetry ∧ context.session.state ≠ .ready then some .state
  else if request.command = Msg.stopTelemetry ∧ context.session.state ≠ .streaming then some .state
  else if context.session.state ≠ .ready ∧ context.session.state ≠ .streaming then some .state
  else if context.activeClient.isSome then some .busy
  else if request.payload.length > maxPayload then some .invalid
  else if context.session.pending.active then some .busy
  else if context.transportOutputOffset < context.transportOutput.length then some .busy
  else none

/-- The status that an `IPC_UPGRADE` is refused with. -/
def Context.upgradeRefusal (context : Context) (request : IpcRequest) : Option Status :=
  match parseUpgradeRequest request with
  | none => some .invalid
  | some upgradeRequest =>
    if ¬ context.upgradeAllowed then some .busy
    else
      let submitted := workerSubmitFirmware context.worker
        (operationAfter context.upgradeOperationId) upgradeRequest.path
      if submitted.1 ≠ .ok then some submitted.1 else none

/-- The status that `start_request` refuses a request with. -/
def Context.refusal (context : Context) (request : IpcRequest) : Option Status :=
  if request.command = IpcCommand.getTelemetry then
    if context.latestTelemetry = [] then some .notFound else none
  else if request.command = IpcCommand.upgradeStatus then
    if request.payload.length ≠ 4 ∨ context.upgradeOperationId = 0 ∨
        getLe32 request.payload ≠ context.upgradeOperationId then some .notFound
    else none
  else if request.command = IpcCommand.upgrade then context.upgradeRefusal request
  else context.deviceRefusal request

/-- The commands that `start_request` passes on to the device. -/
def forDevice (command : UInt8) : Prop :=
  command ≠ IpcCommand.getTelemetry ∧ command ≠ IpcCommand.upgradeStatus ∧
    command ≠ IpcCommand.upgrade

instance (command : UInt8) : Decidable (forDevice command) := inferInstanceAs (Decidable (_ ∧ _))

/-- What `start_request` answers at once: the last telemetry, the status of the current
operation, the number of the operation it begins, its refusal, or the error of an `epoll_ctl` that
fails where nothing else does. -/
inductive Immediate (context : Context) (request : IpcRequest) : Int → List UInt8 → Prop
  | telemetry (hcommand : request.command = IpcCommand.getTelemetry)
      (hsome : context.latestTelemetry ≠ []) :
      Immediate context request Status.ok.code context.latestTelemetry
  | status (hcommand : request.command = IpcCommand.upgradeStatus)
      (hlength : request.payload.length = 4) (hbegun : context.upgradeOperationId ≠ 0)
      (hsame : getLe32 request.payload = context.upgradeOperationId) :
      Immediate context request Status.ok.code (statusPayload context)
  | upgrade (upgradeRequest : UpgradeRequest) (hcommand : request.command = IpcCommand.upgrade)
      (hparse : parseUpgradeRequest request = some upgradeRequest)
      (hallowed : context.upgradeAllowed) :
      Immediate context request Status.ok.code
        (putLe32 (operationAfter context.upgradeOperationId))
  | refused {status : Status} (hrefusal : context.refusal request = some status) :
      Immediate context request status.code []
  | unwatched (hdevice : forDevice request.command) (hrefusal : context.refusal request = none) :
      Immediate context request Status.io.code []

/-- What the daemon does for the requests of its clients: it starts one, it is handed a frame,
or a tick finds the request in the slot expired. -/
inductive Deed
  | asked (connection : Nat) (request : IpcRequest) (context : Context)
  | heard (context : Context) (frame : Frame)
  | expired (env : Env) (context : Context)

/-- The status that a frame is delivered with. -/
def frameStatus (frame : Frame) : Int :=
  if isFailure frame.type then Status.protocol.code else Status.ok.code

/-- The request in the slot is that of a connection. -/
structure Context.Sends (context : Context) (connection : Nat) (request : IpcRequest) :
    Prop where
  owner : context.history.owner = .client connection
  type : context.session.pending.frame.type = request.command
  payload : context.session.pending.frame.payload = request.payload
  device : forDevice request.command

/-- The frame answers the request in the slot, which is that of a connection. -/
structure Context.Settles (context : Context) (connection : Nat) (request : IpcRequest)
    (frame : Frame) (response : IpcResponse) : Prop where
  sends : context.Sends connection request
  takes : context.takes frame
  response : response = clientResponse request.command (frameStatus frame) frame.payload

/-- The connection is waited for, and has the response in its output after the handler. -/
def Context.Delivers (context after : Context) (connection : Nat) (response : IpcResponse) :
    Prop :=
  ∃ index, context.activeClient = some index ∧
    (context.clients index).connection = connection ∧
    (after.clients index).output = ipcResponseBytes response

/-- The deed answers the request of a connection with the response. -/
inductive Deed.Answers (connection : Nat) (request : IpcRequest) : Deed → IpcResponse → Prop
  | asked {context : Context} {status : Int} {payload : List UInt8}
      (himmediate : Immediate context request status payload) :
      Answers connection request (.asked connection request context)
        (clientResponse request.command status payload)
  | heard {context : Context} {frame : Frame} {response : IpcResponse}
      (hsettles : context.Settles connection request frame response)
      (hdelivers : ∀ env, context.Delivers (onDeviceFrame env frame context).2 connection
        response) :
      Answers connection request (.heard context frame) response
  | expired {env : Env} {context : Context} (hsends : context.Sends connection request)
      (hpending : context.session.pending.active = true)
      (hexpired : (tickSession env context).1 = Status.timeout.code)
      (hdelivers : context.Delivers (handleTimer env context).2 connection
        (clientResponse 0 Status.timeout.code [])) :
      Answers connection request (.expired env context)
        (clientResponse 0 Status.timeout.code [])

/-- The deeds of an event. -/
def Context.deeds (context : Context) (event : Event) : List Deed :=
  match event with
  | .client _ index _ =>
    ((context.requested event).map fun request =>
      .asked (context.clients index).connection request context).toList
  | .transport _ _ => (context.deviceCalls event).map fun call => .heard call.1 call.2
  | .timer env =>
    if (tickSession env context).1 = Status.timeout.code then [.expired env context] else []
  | _ => []

theorem mem_deeds_timer {context : Context} {env : Env} {deed : Deed} :
    deed ∈ context.deeds (.timer env) ↔
      deed = .expired env context ∧ (tickSession env context).1 = Status.timeout.code := by
  unfold Context.deeds
  dsimp only
  split
  · rename_i hexpired
    rw [List.mem_singleton, and_iff_left hexpired]
  · rename_i hlive
    exact ⟨fun hdeed => absurd hdeed List.not_mem_nil, fun hdeed => absurd hdeed.2 hlive⟩

/-- What a client event writes to its client. -/
def ClientEvent.written (event : ClientEvent) (env : Env) (context : Context) (index : Slot) :
    List UInt8 :=
  let input := event.afterInput env context index
  let client := input.2.clients index
  if (context.clients index).isOpen ∧ input.1 = Status.ok.code ∧ client.isOpen ∧ event.output then
    (client.output.drop client.outputOffset).take
      ((client.writeLoop event.writes).1.outputOffset - client.outputOffset)
  else []

/-! ## Requests -/

/-- The ways through `start_request`: an answer at once, from a context that has the same
clients, or the request in the slot and a client that waits. -/
inductive StartAnswer (env : Env) (context : Context) (index : Slot) (request : IpcRequest) :
    Int × Context → Prop
  | answered (base : Context) (status : Int) (payload : List UInt8)
      (himmediate : Immediate context request status payload)
      (hclients : base.clients = context.clients)
      (hactive : base.activeClient = context.activeClient)
      (hslot : base.activeClient = none ∨
        base.session = context.session ∧ base.history.owner = context.history.owner)
      (hnext : base.history.nextConnection = context.history.nextConnection) :
      StartAnswer env context index request
        (queueClientResponse env base index request.command status payload)
  | sent (after : Context) (hclients : after.clients = context.clients)
      (hactive : after.activeClient = some index)
      (hsends : after.Sends (context.clients index).connection request)
      (hnext : after.history.nextConnection = context.history.nextConnection) :
      StartAnswer env context index request (Status.ok.code, after)

section StartAnswer

variable (env : Env) (context : Context) (index : Slot) (request : IpcRequest)

/-- An answer that leaves the context as it is. -/
theorem StartAnswer.here {status : Int} {payload : List UInt8}
    (himmediate : Immediate context request status payload) :
    StartAnswer env context index request
      (queueClientResponse env context index request.command status payload) :=
  .answered context status payload himmediate rfl rfl (.inr ⟨rfl, rfl⟩) rfl

theorem startGetTelemetry_answer (hcommand : request.command = IpcCommand.getTelemetry) :
    StartAnswer env context index request (startGetTelemetry env context index request) := by
  unfold startGetTelemetry
  split
  · rename_i hnone
    refine .here env context index request (.refused ?_)
    rw [Context.refusal, if_pos hcommand, if_pos (List.length_eq_zero_iff.mp hnone)]
  · rename_i hsome
    refine .here env context index request (.telemetry hcommand fun hnil => hsome ?_)
    rw [hnil, List.length_nil]

theorem startUpgradeStatus_answer (hcommand : request.command = IpcCommand.upgradeStatus) :
    StartAnswer env context index request (startUpgradeStatus env context index request) := by
  unfold startUpgradeStatus
  split
  · rename_i hother
    refine .here env context index request (.refused ?_)
    rw [Context.refusal, if_neg (by rw [hcommand]; decide), if_pos hcommand, if_pos hother]
  · rename_i hcurrent
    obtain ⟨hlength, hbegun, hsame⟩ : _ ∧ _ ∧ _ := by
      rw [not_or, not_or, not_not, not_not] at hcurrent
      exact hcurrent
    exact .here env context index request (.status hcommand hlength hbegun hsame)

theorem startUpgrade_answer (hcommand : request.command = IpcCommand.upgrade) :
    StartAnswer env context index request (startUpgrade env context index request) := by
  have hrefusal : context.refusal request = context.upgradeRefusal request := by
    rw [Context.refusal, if_neg (by rw [hcommand]; decide), if_neg (by rw [hcommand]; decide),
      if_pos hcommand]
  unfold Context.upgradeRefusal at hrefusal
  unfold startUpgrade
  rcases hparse : parseUpgradeRequest request with _ | upgradeRequest
  · rw [hparse] at hrefusal
    exact .here env context index request (.refused hrefusal)
  rw [hparse] at hrefusal
  dsimp only at hrefusal ⊢
  split
  · rename_i hallowed
    rw [if_pos hallowed] at hrefusal
    exact .here env context index request (.refused hrefusal)
  rename_i hallowed
  rw [if_neg hallowed] at hrefusal
  rw [not_not] at hallowed
  split
  · rename_i herror
    rw [if_pos herror] at hrefusal
    exact .answered _ _ _ (.refused hrefusal) rfl rfl (.inr ⟨rfl, rfl⟩) rfl
  · exact .answered _ _ _ (.upgrade upgradeRequest hcommand hparse hallowed) rfl rfl
      (.inr ⟨rfl, rfl⟩) rfl

/-- What `queue_frame` returns. -/
theorem queueFrame_code (frame : Frame) :
    (queueFrame env context frame).1 =
      if context.transportOutputOffset < context.transportOutput.length then Status.busy.code
      else env.updateTransportEvents := by
  unfold queueFrame
  split
  · rfl
  · rw [frameEncode_eq frame (Nat.le_refl _)]

/-- A request that the session has begun: its frame is queued, or the request is cancelled. -/
theorem queued_answer (hdevice : forDevice request.command)
    (hwaits : context.activeClient = none) {frame : Frame} {session : Session}
    (hbegin : sessionBeginRequest context.session request.command Flag.ackRequired
      request.payload requestPolicy env.now = .ok (frame, session))
    (hrefusal : context.refusal request =
      if context.transportOutputOffset < context.transportOutput.length then some .busy
      else none) :
    StartAnswer env context index request
      (let context := context.ownRequest session (.client (context.clients index).connection)
      let queued := queueFrame env context frame
      if queued.1 ≠ Status.ok.code then
        queueClientResponse env
          { queued.2 with session := sessionCancelRequest queued.2.session }
          index request.command queued.1 []
      else (Status.ok.code, { queued.2 with activeClient := some index })) := by
  obtain ⟨_, htype, hpayload, _, _, _, hframe, _⟩ := sessionBeginRequest_eq_ok hbegin
  have hcode : (queueFrame env
      (context.ownRequest session (.client (context.clients index).connection)) frame).1 =
      if context.transportOutputOffset < context.transportOutput.length then Status.busy.code
      else env.updateTransportEvents := queueFrame_code env _ frame
  obtain ⟨output, offset, hqueued⟩ := queueFrame_eq env
    (context.ownRequest session (.client (context.clients index).connection)) frame
  dsimp only
  split
  · rename_i hfailed
    have himmediate : Immediate context request (queueFrame env
        (context.ownRequest session (.client (context.clients index).connection)) frame).1 [] := by
      by_cases hunsent : context.transportOutputOffset < context.transportOutput.length
      · rw [if_pos hunsent] at hrefusal
        rw [hcode, if_pos hunsent]
        exact .refused hrefusal
      · rw [if_neg hunsent] at hrefusal
        rw [hcode, if_neg hunsent, Env.updateTransportEvents] at hfailed ⊢
        split at hfailed
        · exact absurd rfl hfailed
        · rename_i hepoll
          rw [if_neg hepoll]
          exact .unwatched hdevice hrefusal
    rw [hqueued]
    exact .answered _ _ _ himmediate rfl rfl (.inl hwaits) rfl
  · rw [hqueued]
    refine .sent _ rfl rfl ⟨rfl, ?_, ?_, hdevice⟩ rfl
    · show session.pending.frame.type = request.command
      rw [hframe, htype]
    · show session.pending.frame.payload = request.payload
      rw [hframe, hpayload]

theorem startDeviceRequest_answer (hdevice : forDevice request.command) :
    StartAnswer env context index request (startDeviceRequest env context index request) := by
  have hrefusal : context.refusal request = context.deviceRefusal request := by
    rw [Context.refusal, if_neg hdevice.1, if_neg hdevice.2.1, if_neg hdevice.2.2]
  have hrefused : ∀ {status : Status}, context.refusal request = some status →
      StartAnswer env context index request
        (queueClientResponse env context index request.command status.code []) :=
    fun hstatus => .here env context index request (.refused hstatus)
  -- The checks of the source one by one: `hrefusal` is left with those that follow.
  unfold Context.deviceRefusal at hrefusal
  unfold startDeviceRequest
  by_cases hupgrade : upgradeActive context.upgrade = true
  · rw [if_pos hupgrade] at hrefusal ⊢
    exact hrefused hrefusal
  rw [if_neg hupgrade] at hrefusal ⊢
  by_cases hstart : request.command = Msg.startTelemetry ∧ context.session.state ≠ .ready
  · rw [if_pos hstart] at hrefusal ⊢
    exact hrefused hrefusal
  rw [if_neg hstart] at hrefusal ⊢
  by_cases hstop : request.command = Msg.stopTelemetry ∧ context.session.state ≠ .streaming
  · rw [if_pos hstop] at hrefusal ⊢
    exact hrefused hrefusal
  rw [if_neg hstop] at hrefusal ⊢
  by_cases hstate : context.session.state ≠ .ready ∧ context.session.state ≠ .streaming
  · rw [if_pos hstate] at hrefusal ⊢
    exact hrefused hrefusal
  rw [if_neg hstate] at hrefusal ⊢
  by_cases hwaits : context.activeClient.isSome = true
  · rw [if_pos hwaits] at hrefusal ⊢
    exact hrefused hrefusal
  rw [if_neg hwaits] at hrefusal ⊢
  rcases hbegin : sessionBeginRequest context.session request.command Flag.ackRequired
    request.payload requestPolicy env.now with error | ⟨frame, session⟩
  · refine hrefused ?_
    unfold sessionBeginRequest at hbegin
    split_ifs at hbegin with hinvalid hbusy
    · rw [hrefusal, if_pos (hinvalid.resolve_right (by decide)), Except.error.inj hbegin]
    · rw [hrefusal, if_neg (not_or.mp hinvalid).1, if_pos hbusy, Except.error.inj hbegin]
  · obtain ⟨hfree, _, hpayload, _⟩ := sessionBeginRequest_eq_ok hbegin
    have hshort : ¬ request.payload.length > maxPayload := by
      rw [← hpayload]
      exact Nat.not_lt.mpr frame.payload_le
    rw [if_neg hshort, if_neg (by rw [hfree]; exact Bool.false_ne_true)] at hrefusal
    exact queued_answer env context index request hdevice
      (Option.not_isSome_iff_eq_none.mp hwaits) hbegin hrefusal

theorem startRequest_answer :
    StartAnswer env (context.noteStart index) index request
      (startRequest env context index request) := by
  unfold startRequest
  dsimp only
  split
  · rename_i hcommand
    exact startGetTelemetry_answer env (context.noteStart index) index request hcommand
  rename_i htelemetry
  split
  · rename_i hcommand
    exact startUpgradeStatus_answer env (context.noteStart index) index request hcommand
  rename_i hstatus
  split
  · rename_i hcommand
    exact startUpgrade_answer env (context.noteStart index) index request hcommand
  · rename_i hupgrade
    exact startDeviceRequest_answer env (context.noteStart index) index request
      ⟨htelemetry, hstatus, hupgrade⟩

end StartAnswer

/-- The answer does not look at the clients, nor at what is noted. -/
theorem Immediate.of_same {context : Context} {request : IpcRequest} {status : Int}
    {payload : List UInt8} (h : Immediate context request status payload)
    (clients : Slot → Client) (history : History) :
    Immediate { context with clients := clients, history := history } request status payload := by
  cases h with
  | telemetry hcommand hsome => exact .telemetry hcommand hsome
  | status hcommand hlength hbegun hsame => exact .status hcommand hlength hbegun hsame
  | upgrade upgradeRequest hcommand hparse hallowed =>
    exact .upgrade upgradeRequest hcommand hparse hallowed
  | refused hrefusal => exact .refused hrefusal
  | unwatched hdevice hrefusal => exact .unwatched hdevice hrefusal

theorem Context.deviceRefusal_ne_ok (context : Context) (request : IpcRequest) :
    context.deviceRefusal request ≠ some .ok := by
  have hstatus : ∀ {check : Prop} [Decidable check] {status : Status} {rest : Option Status},
      status ≠ .ok → rest ≠ some .ok → (if check then some status else rest) ≠ some .ok := by
    intro check _ status rest hrefused hrest
    split
    · exact fun hok => hrefused (Option.some.inj hok)
    · exact hrest
  unfold Context.deviceRefusal
  have hbusy : Status.busy ≠ .ok := Status.noConfusion
  have hstate : Status.state ≠ .ok := Status.noConfusion
  have hinvalid : Status.invalid ≠ .ok := Status.noConfusion
  exact hstatus hbusy (hstatus hstate (hstatus hstate (hstatus hstate (hstatus hbusy
    (hstatus hinvalid (hstatus hbusy (hstatus hbusy (Option.some_ne_none _).symm)))))))

theorem Context.upgradeRefusal_ne_ok (context : Context) (request : IpcRequest) :
    context.upgradeRefusal request ≠ some .ok := by
  unfold Context.upgradeRefusal
  split
  · exact fun hok => Status.noConfusion (Option.some.inj hok)
  · dsimp only
    split
    · exact fun hok => Status.noConfusion (Option.some.inj hok)
    split
    · rename_i herror
      exact fun hok => herror (Option.some.inj hok)
    · exact (Option.some_ne_none _).symm

/-- A refusal never reports `DEVMGR_OK`: an answer at once that does is the telemetry, the status
or the number of an operation. -/
theorem Context.refusal_ne_ok (context : Context) (request : IpcRequest) :
    context.refusal request ≠ some .ok := by
  unfold Context.refusal
  split
  · split
    · exact fun hok => Status.noConfusion (Option.some.inj hok)
    · exact (Option.some_ne_none _).symm
  split
  · split
    · exact fun hok => Status.noConfusion (Option.some.inj hok)
    · exact (Option.some_ne_none _).symm
  split
  · exact context.upgradeRefusal_ne_ok request
  · exact context.deviceRefusal_ne_ok request

/-! ## Deliveries -/

/-- A frame that answers the request of the client that waits is delivered to it. -/
theorem Context.Settles.delivers {context : Context} {connection : Nat} {request : IpcRequest}
    {frame : Frame} {response : IpcResponse}
    (h : context.Settles connection request frame response) {index : Slot}
    (hserves : context.Serves index) (hactive : context.activeClient = some index) (env : Env) :
    ((onDeviceFrame env frame context).2.clients index).output = ipcResponseBytes response := by
  have hready : context.session.state ≠ .handshaking := by
    rcases hserves.state with hstate | hstate
    · rw [hstate]
      decide
    · rw [hstate]
      decide
  have hupgrade : ¬ upgradeActive context.upgrade = true := by
    rw [hserves.noUpgrade]
    exact Bool.false_ne_true
  rw [onDeviceFrame_taken env h.takes]
  dsimp only
  rw [if_neg hready, if_neg hupgrade, hactive]
  dsimp only
  unfold onClientResponse
  dsimp only
  rw [queueClientResponse_bytes, h.response, ← h.sends.type]
  simp only [Context.setClient, Function.update_self]
  rfl

/-- The client that waits gets the timeout of its request. -/
theorem timeout_delivers {env : Env} {context : Context} {index : Slot}
    (hserves : context.Serves index) (hactive : context.activeClient = some index)
    (hexpired : (tickSession env context).1 = Status.timeout.code) :
    ((handleTimer env context).2.clients index).output =
      ipcResponseBytes (clientResponse 0 Status.timeout.code []) := by
  have hcase := handleTimer_cases env context
  generalize handleTimer env context = handled at hcase ⊢
  cases hcase with
  | idle hticked | retried _ _ _ _ _ _ _ hticked => exact absurd hexpired hticked
  | recovered _ _ _ hupgrade =>
    exact absurd (hserves.noUpgrade.symm.trans hupgrade) Bool.false_ne_true
  | answered other stats _ _ _ hother =>
    obtain rfl := Option.some.inj (hactive.symm.trans hother)
    rw [queueClientResponse_bytes]
    simp only [Context.setClient, Function.update_self]
  | unclaimed _ _ _ _ hnone =>
    rw [hactive] at hnone
    cases hnone

/-- To write moves the offset of the output, and nothing else. -/
theorem Client.writeLoop_eq (client : Client) (writes : List WriteResult) :
    ∃ count, (client.writeLoop writes).1 =
      { client with outputOffset := client.outputOffset + count } := by
  fun_induction Client.writeLoop client writes with
  | case4 client hmore more writes count ih =>
    obtain ⟨rest, hrest⟩ := ih
    exact ⟨count + rest, by rw [hrest, ← Nat.add_assoc]⟩
  | _ => exact ⟨0, rfl⟩

/-- To read does not. -/
theorem Client.readLoop_outputOffset (client : Client) (reads : List ReadResult) :
    (client.readLoop reads).1.outputOffset = client.outputOffset := by
  have hreceive : ∀ (client : Client) (data : List UInt8),
      (client.receive data).1.outputOffset = client.outputOffset := by
    intro client data
    unfold Client.receive
    dsimp only
    split_ifs <;> rfl
  fun_induction Client.readLoop client reads with
  | case6 client hroom reads ih => exact ih
  | case7 client hroom first more reads received hmore ih => exact ih.trans (hreceive _ _)
  | case8 client hroom first more reads received htoo => exact hreceive _ _
  | case9 client hroom first more reads received hcomplete => exact hreceive _ _
  | _ => rfl

/-! ## One request -/

/-- The client has sent a part of the request, or all of it. -/
structure Client.Hears (client : Client) (request : IpcRequest) : Prop where
  input : client.input <+: ipcRequestBytes request
  expected : client.expectedSize = 0 ∨ client.expectedSize = (ipcRequestBytes request).length

/-- The length in a part of the request that has the header is that of the request. -/
theorem announced_part {request : IpcRequest} {bytes : List UInt8}
    (h : bytes <+: ipcRequestBytes request) (hheader : ipcRequestHeaderSize ≤ bytes.length) :
    announced bytes = request.payload.length := by
  obtain ⟨rest, hrest⟩ := h
  rw [← announced_append hheader rest, hrest]
  exact (ipcRequestBytes_fields request).2.2.1

theorem Client.Hears.receive {client : Client} {request : IpcRequest} (h : client.Hears request)
    {data : List UInt8} (hdata : client.input ++ data <+: ipcRequestBytes request) :
    (client.receive data).1.Hears request ∧ (client.receive data).1.input = client.input ++ data ∧
      (client.receive data).2 ≠ .tooLong ∧
      ((client.receive data).2 = .complete → client.input ++ data = ipcRequestBytes request) := by
  have hlength := ipcRequestBytes_length request
  unfold Client.receive
  dsimp only
  split
  · rename_i hheader
    have hannounced : (getLe32 ((client.input ++ data).drop 4)).toNat = request.payload.length :=
      announced_part hdata hheader.1
    rw [hannounced, if_neg (Nat.not_lt.mpr request.payload_le)]
    split
    · rename_i hsize
      exact ⟨⟨hdata, .inr hlength.symm⟩, rfl, nofun,
        fun _ => hdata.eq_of_length (hsize.trans hlength.symm)⟩
    · exact ⟨⟨hdata, .inr hlength.symm⟩, rfl, nofun, nofun⟩
  · split
    · rename_i hcomplete
      refine ⟨⟨hdata, h.expected⟩, rfl, nofun, fun _ => ?_⟩
      rcases h.expected with hzero | hsize
      · exact absurd hzero hcomplete.1
      · exact hdata.eq_of_length (hcomplete.2.trans hsize)
    · exact ⟨⟨hdata, h.expected⟩, rfl, nofun, nofun⟩

/-- A call reads on in the request, and can only find it complete. -/
theorem Client.Hears.readLoop {client : Client} {request : IpcRequest} (h : client.Hears request)
    {reads : List ReadResult}
    (hreads : client.input ++ reads.flatMap ReadResult.bytes <+: ipcRequestBytes request) :
    (client.readLoop reads).1.Hears request ∧
      (client.readLoop reads).1.input <+: client.input ++ reads.flatMap ReadResult.bytes ∧
      (client.readLoop reads).2 ≠ .tooLong ∧
      ((client.readLoop reads).2 = .complete →
        (client.readLoop reads).1.input = ipcRequestBytes request) := by
  -- what a read brings fits into the buffer, since the whole request does
  have hpiece : ∀ {client : Client} {first : UInt8} {more rest : List UInt8},
      client.input ++ (first :: more ++ rest) <+: ipcRequestBytes request →
      client.input ++ (first :: more).take (clientInputSize - client.input.length) <+:
          ipcRequestBytes request ∧
        (first :: more).take (clientInputSize - client.input.length) = first :: more := by
    intro client first more rest hprefix
    have hlength := hprefix.length_le
    have hsize := request.payload_le
    rw [ipcRequestBytes_length, List.length_append, List.length_append] at hlength
    have hwhole : (first :: more).take (clientInputSize - client.input.length) = first :: more :=
      List.take_of_length_le (by rw [clientInputSize]; omega)
    rw [hwhole]
    rw [← List.append_assoc] at hprefix
    exact ⟨(List.prefix_append _ rest).trans hprefix, rfl⟩
  fun_induction Client.readLoop client reads with
  | case6 client hroom reads ih => exact ih h hreads
  | case7 client hroom first more reads received hmore ih =>
    rw [List.flatMap_cons, ReadResult.bytes] at hreads ⊢
    obtain ⟨hfront, hwhole⟩ := hpiece hreads
    obtain ⟨hhears, hinput, _, _⟩ := h.receive hfront
    have htaken : received.1.input = client.input ++ first :: more := by rw [hinput, hwhole]
    rw [← List.append_assoc, ← htaken] at hreads ⊢
    exact ih hhears hreads
  | case8 client hroom first more reads received htoo =>
    rw [List.flatMap_cons, ReadResult.bytes] at hreads
    exact absurd htoo (h.receive (hpiece hreads).1).2.2.1
  | case9 client hroom first more reads received hcomplete =>
    rw [List.flatMap_cons, ReadResult.bytes] at hreads ⊢
    obtain ⟨hfront, hwhole⟩ := hpiece hreads
    obtain ⟨hhears, hinput, _, hlast⟩ := h.receive hfront
    refine ⟨hhears, ?_, fun htoo => ?_, fun _ => hinput.trans (hlast hcomplete)⟩
    swap
    · cases htoo
    rw [hinput, hwhole, ← List.append_assoc]
    exact List.prefix_append _ _
  | _ =>
    refine ⟨h, List.prefix_append _ _, fun htoo => ?_, fun hcomplete => ?_⟩
    · cases htoo
    · cases hcomplete

end Daemon
