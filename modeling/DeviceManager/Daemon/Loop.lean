import DeviceManager.Protocol.Calls
import DeviceManager.Daemon.Handlers

/-!
# Invariants of the daemon's loop

`deviceCalls` lists the frames that an event hands to `on_device_frame`, each with the
context that it finds.  `PreservesReads` is the rule for a relation between these calls and
the context over the loop of `read_transport`, and `PreservesFrames` the one for a relation that
does not look at the output either, over `flush_transport` as well.  `PreservesCalls` lists
what such a relation has to be shown against outside of the client branch and of a completed
job: the frames, the worker thread, a tick, an admitted client.  A handler that ends the loop
may break the relation.  `PreservesCalls.step` is the step of the whole loop, with the two
branches left to the relation.

`PreservesRest` is the list for an invariant, which does not look at the calls, and
`PreservesOk` adds the completed job, in its two steps.  `Preserves` is the list for an
invariant that the handlers keep in any case, and that does not depend on the worker.
`PreservesTable` is the list for the client branch, with the request that an event completes
left to the invariant, and `PreservesClient` adds the requests.
-/

namespace Daemon

open Devmgr

/-- A step is an event that is handled with `DEVMGR_OK`. -/
theorem handleEvent_of_daemonStep {context after : Context} {event : Event}
    (h : daemonStep context event = some after) :
    handleEvent context event = some (Status.ok.code, after) := by
  unfold daemonStep at h
  split at h
  · rename_i result handled hhandled
    split at h
    · rename_i hok
      obtain rfl := Option.some.inj h
      rw [hhandled, hok]
    · cases h
  · cases h

/-! ## Frames -/

/-- The calls of `on_device_frame` that `read_transport` makes: the context that each finds,
and the frame. -/
def transportCalls (env : Env) : List ReadResult → Context → List (Context × Frame)
  | [], _ => []
  | .data first more :: reads, context =>
    let data := (first :: more).take transportInputSize
    let fed := parserFeed (observeDeviceFrame env) context.parser data context
    feedCalls (observeDeviceFrame env) context.parser data context ++
      if fed.result ≠ Status.ok.code then []
      else transportCalls env reads { fed.context with parser := fed.parser }
  | .interrupted :: reads, context => transportCalls env reads context
  | .eof :: _, _ => []
  | .again :: _, _ => []
  | .failed :: _, _ => []

/-- The calls of `on_device_frame` that an event makes. -/
def Context.deviceCalls (context : Context) : Event → List (Context × Frame)
  | .transport env event =>
    let flushed :=
      if event.output then flushTransport env event.writes context else (Status.ok.code, context)
    if flushed.1 = Status.ok.code ∧ event.input then transportCalls env event.reads flushed.2
    else []
  | _ => []

/-- The frame is given to `devmgr_session_accept_response`, which takes it. -/
def Context.takes (context : Context) (frame : Frame) : Prop :=
  ¬ (frame.type = Msg.telemetry ∧ frame.sequence = 0) ∧
    (sessionAcceptResponse context.session frame).1 = .ok

instance (context : Context) (frame : Frame) : Decidable (context.takes frame) :=
  inferInstanceAs (Decidable (_ ∧ _))

/-- A frame that is telemetry or is not taken. -/
theorem onDeviceFrame_ignored (env : Env) {frame : Frame} {context : Context}
    (h : ¬ context.takes frame) :
    ∃ stats telemetry count, onDeviceFrame env frame context =
      (Status.ok.code, { context with
        session := { context.session with stats := stats }
        latestTelemetry := telemetry
        telemetryFrames := count }) := by
  unfold onDeviceFrame
  split
  · split
    · exact ⟨context.session.stats, _, _, rfl⟩
    · exact ⟨context.session.stats, context.latestTelemetry, context.telemetryFrames, rfl⟩
  · rename_i hresponse
    have hrejected : (sessionAcceptResponse context.session frame).1 ≠ .ok :=
      fun hok => h ⟨hresponse, hok⟩
    dsimp only
    rw [if_pos hrejected, sessionAcceptResponse_rejected hrejected]
    exact ⟨_, context.latestTelemetry, context.telemetryFrames, rfl⟩

/-- A frame that is taken frees the slot, and goes to the handshake, the upgrade or the
client. -/
theorem onDeviceFrame_taken (env : Env) {frame : Frame} {context : Context}
    (h : context.takes frame) :
    onDeviceFrame env frame context =
      let taken := { context with session := context.session.completed frame }
      if context.session.state = .handshaking then
        if isFailure frame.type then (Status.protocol.code, taken)
        else
          let transition := sessionTransition taken.session .handshakeOk
          (transition.1.code, { taken with session := transition.2 })
      else if upgradeActive context.upgrade then
        onUpgradeResponse env taken context.session.pending.frame.type frame
      else
        match context.activeClient with
        | some index => onClientResponse env taken index context.session.pending.frame.type frame
        | none => (Status.ok.code, taken) := by
  obtain ⟨hresponse, hok⟩ := h
  unfold onDeviceFrame
  rw [if_neg hresponse, sessionAcceptResponse_of_answers (sessionAcceptResponse_ok hok)]
  dsimp only
  rw [if_neg (not_not.mpr rfl)]
  rfl

/-- A relation between the frames that an event has handed over so far and the context, for the
reads: the parser does not matter to it, and a frame is added to the calls. -/
structure PreservesReads (env : Env) (R : List (Context × Frame) → Context → Prop) : Prop where
  parser : ∀ {calls : List (Context × Frame)} {context : Context} (parser : Parser),
    R calls context → R calls { context with parser := parser }
  frame : ∀ {calls : List (Context × Frame)} {context : Context} (frame : Frame),
    R calls context → (observeDeviceFrame env frame context).1 = Status.ok.code →
      R (calls ++ [(context, frame)]) (observeDeviceFrame env frame context).2

theorem PreservesReads.read {env : Env} {R : List (Context × Frame) → Context → Prop}
    (h : PreservesReads env R) (reads : List ReadResult) {calls : List (Context × Frame)}
    {context : Context} (hinv : R calls context)
    (hok : (readTransport env reads context).1 = Status.ok.code) :
    R (calls ++ transportCalls env reads context) (readTransport env reads context).2 := by
  have hnone : ∀ {calls : List (Context × Frame)} {context : Context}, R calls context →
      R (calls ++ []) context := by
    intro calls context hinv
    rw [List.append_nil]
    exact hinv
  -- The induction is on the calls of `read`; each feeds the parser, which hands over the
  -- frames one by one.
  induction reads generalizing calls context with
  | nil => exact hnone hinv
  | cons result reads ih =>
    cases result with
    | data first more =>
      revert hok
      rw [readTransport, transportCalls]
      dsimp only
      split
      · rename_i hfailed
        exact fun hok => absurd hok hfailed
      · rename_i hfed
        have hparsed := feedCalls_keeps (R := fun found fed => R (calls ++ fed) found)
          (fun frame hkept hframe => by
            rw [← List.append_assoc]
            exact h.frame frame hkept hframe)
          context.parser ((first :: more).take transportInputSize) (hnone hinv) (not_not.mp hfed)
        rw [← List.append_assoc]
        exact ih (h.parser _ hparsed)
    | interrupted => exact ih hinv hok
    | eof => exact hnone hinv
    | again => exact hnone hinv
    | failed => exact hnone hinv

/-- A relation between the frames that an event has handed over so far and the context: the
output and the parser of the transport keep it, and a frame is added to the calls. -/
structure PreservesFrames (R : List (Context × Frame) → Context → Prop) : Prop where
  transport : ∀ {calls : List (Context × Frame)} {context : Context} (parser : Parser)
    (output : List UInt8) (offset : Nat), R calls context → R calls { context with
      parser := parser
      transportOutput := output
      transportOutputOffset := offset }
  frame : ∀ {calls : List (Context × Frame)} {context : Context} (env : Env) (frame : Frame),
    R calls context → (observeDeviceFrame env frame context).1 = Status.ok.code →
      R (calls ++ [(context, frame)]) (observeDeviceFrame env frame context).2

section PreservesFrames

variable {R : List (Context × Frame) → Context → Prop} (h : PreservesFrames R)

include h

theorem PreservesFrames.flush (env : Env) (writes : List WriteResult)
    {calls : List (Context × Frame)} {context : Context} (hinv : R calls context) :
    R calls (flushTransport env writes context).2 := by
  have hloop : R calls (flushLoop writes context).2 := by
    fun_induction flushLoop writes context with
    | case4 context more writes hmore count ih =>
      exact ih (h.transport context.parser context.transportOutput _ hinv)
    | _ => exact hinv
  unfold flushTransport
  dsimp only
  split
  · exact hloop
  · split
    · exact h.transport (flushLoop writes context).2.parser [] 0 hloop
    · exact hloop

theorem PreservesFrames.reads (env : Env) : PreservesReads env R where
  parser parser hinv := h.transport parser _ _ hinv
  frame frame hinv := h.frame env frame hinv

theorem PreservesFrames.event (env : Env) (event : TransportEvent) {context : Context}
    (hinv : R [] context) (hok : (handleTransportEvent env context event).1 = Status.ok.code) :
    R (context.deviceCalls (.transport env event)) (handleTransportEvent env context event).2 := by
  revert hok
  unfold handleTransportEvent Context.deviceCalls
  dsimp only
  generalize hflush : (if event.output then flushTransport env event.writes context
    else (Status.ok.code, context)) = flushed
  have hflushed : R [] flushed.2 := by
    rw [← hflush]
    split
    · exact h.flush env _ hinv
    · exact hinv
  split
  · intro hok
    cases hok
  · split
    · exact (h.reads env).read _ hflushed
    · exact fun _ => hflushed

end PreservesFrames

/-- An admitted client changes nothing on the side of the device. -/
theorem admitClient_eq (context : Context) (epoll : Bool) :
    ∃ clients activeClient, admitClient context epoll = { context with
      clients := clients
      activeClient := activeClient
      history := { context.history with
        nextConnection := context.history.nextConnection + 1 } } := by
  unfold admitClient
  dsimp only
  split
  · exact ⟨_, _, rfl⟩
  split
  · exact ⟨_, _, rfl⟩
  · exact ⟨_, _, rfl⟩

/-- What an admitted client keeps, `accept_clients` keeps. -/
theorem acceptClients_preserves {inv : Context → Prop}
    (hadmission : ∀ {context : Context} (epoll : Bool), inv context →
      inv (admitClient context epoll))
    (accepts : List AcceptResult) {context : Context} (hinv : inv context) :
    inv (acceptClients accepts context).2 := by
  induction accepts generalizing context with
  | nil => exact hinv
  | cons result accepts ih =>
    cases result with
    | accepted epoll => exact ih (hadmission epoll hinv)
    | interrupted => exact ih hinv
    | again => exact hinv
    | failed => exact hinv

/-- A relation between the frames and the context that also every other handler outside of the
client branch and of a completed job keeps, as long as the loop goes on. -/
structure PreservesCalls (R : List (Context × Frame) → Context → Prop) : Prop extends
    PreservesFrames R where
  stopped : ∀ {context : Context}, R [] context → R [] { context with running := false }
  thread : ∀ {context : Context} {file : FileView} {worker : Worker},
    workerStep context.worker file = some worker → R [] context →
      R [] (context.advanceWorker worker)
  admission : ∀ {context : Context} (epoll : Bool), R [] context →
    R [] (admitClient context epoll)
  timer : ∀ {context : Context} (env : Env), R [] context →
    (observeTimer env context).1 = Status.ok.code → R [] (observeTimer env context).2

section PreservesCalls

variable {R : List (Context × Frame) → Context → Prop} (h : PreservesCalls R)

include h

/-- One event: with the client branch and the completion of a job, every branch keeps the
relation. -/
theorem PreservesCalls.step {context context' : Context} {event : Event}
    (hclient : ∀ env index clientEvent, event = .client env index clientEvent →
      (observeClientEvent env context index clientEvent).1 = Status.ok.code →
      R [] (observeClientEvent env context index clientEvent).2)
    (hworker : ∀ env worker, event = .worker env →
      workerReadEvent context.worker = some worker →
      (observeWorkerResult env { context with worker := worker }).1 = Status.ok.code →
      R [] (observeWorkerResult env { context with worker := worker }).2)
    (hinv : R [] context) (hstep : daemonStep context event = some context') :
    R (context.deviceCalls event) context' := by
  have hevent : ∀ handled, handleEvent context event = some handled →
      handled.1 = Status.ok.code → R (context.deviceCalls event) handled.2 := by
    intro handled hhandled
    cases event with
    | listener accepts =>
      obtain rfl := Option.some.inj hhandled
      exact fun _ => acceptClients_preserves h.admission accepts hinv
    | signal =>
      obtain rfl := Option.some.inj hhandled
      exact fun _ => h.stopped hinv
    | worker env =>
      obtain ⟨worker, hread, rfl⟩ := Option.map_eq_some_iff.mp hhandled
      exact hworker env worker rfl hread
    | timer env =>
      obtain rfl := Option.some.inj hhandled
      exact h.timer env hinv
    | transport env event =>
      obtain rfl := Option.some.inj hhandled
      exact h.event env event hinv
    | client env index clientEvent =>
      obtain rfl := Option.some.inj hhandled
      exact hclient env index clientEvent rfl
    | workerThread file =>
      obtain ⟨worker, hthread, rfl⟩ := Option.map_eq_some_iff.mp hhandled
      exact fun _ => h.thread hthread hinv
  exact hevent _ (handleEvent_of_daemonStep hstep) rfl

end PreservesCalls

/-! ## Invariants -/

/-- An invariant that the handlers keep as long as the loop goes on, the client branch
and the completion of a worker's job apart. -/
structure PreservesRest (inv : Context → Prop) : Prop where
  transport : ∀ {context : Context} (parser : Parser) (output : List UInt8) (offset : Nat),
    inv context → inv { context with
      parser := parser
      transportOutput := output
      transportOutputOffset := offset }
  stopped : ∀ {context : Context}, inv context → inv { context with running := false }
  thread : ∀ {context : Context} {file : FileView} {worker : Worker},
    workerStep context.worker file = some worker → inv context →
      inv (context.advanceWorker worker)
  admission : ∀ {context : Context} (epoll : Bool), inv context → inv (admitClient context epoll)
  frame : ∀ {context : Context} (env : Env) (frame : Frame), inv context →
    (observeDeviceFrame env frame context).1 = Status.ok.code →
      inv (observeDeviceFrame env frame context).2
  timer : ∀ {context : Context} (env : Env), inv context →
    (observeTimer env context).1 = Status.ok.code → inv (observeTimer env context).2

/-- An invariant that every handler outside of the client branch keeps as long as
the loop goes on. -/
structure PreservesOk (inv : Context → Prop) : Prop extends PreservesRest inv where
  notified : ∀ {context : Context} {worker : Worker},
    workerReadEvent context.worker = some worker → inv context →
      inv { context with worker := worker }
  completion : ∀ {context : Context} (env : Env), inv context →
    (observeWorkerResult env context).1 = Status.ok.code →
      inv (observeWorkerResult env context).2

section PreservesRest

variable {inv : Context → Prop} (h : PreservesRest inv)

include h

/-- An invariant does not look at the calls. -/
theorem PreservesRest.calls : PreservesCalls fun _ => inv where
  transport := h.transport
  stopped := h.stopped
  thread := h.thread
  admission := h.admission
  frame := h.frame
  timer := h.timer

theorem PreservesRest.step {context context' : Context} {event : Event}
    (hclient : ∀ env index clientEvent, event = .client env index clientEvent →
      (observeClientEvent env context index clientEvent).1 = Status.ok.code →
      inv (observeClientEvent env context index clientEvent).2)
    (hworker : ∀ env worker, event = .worker env →
      workerReadEvent context.worker = some worker →
      (observeWorkerResult env { context with worker := worker }).1 = Status.ok.code →
      inv (observeWorkerResult env { context with worker := worker }).2)
    (hinv : inv context) (hstep : daemonStep context event = some context') : inv context' :=
  h.calls.step hclient hworker hinv hstep

/-- Every frame is handed over in a context with the invariant, also in an event that ends the
loop. -/
theorem PreservesRest.find {context : Context} (hinv : inv context) (event : Event) :
    ∀ call ∈ context.deviceCalls event, inv call.1 := by
  have hreads : ∀ env reads {context : Context}, inv context →
      ∀ call ∈ transportCalls env reads context, inv call.1 := by
    intro env reads
    induction reads with
    | nil => exact fun _ => List.forall_mem_nil _
    | cons result reads ih =>
      intro context hinv
      cases result with
      | data first more =>
        rw [transportCalls]
        refine List.forall_mem_append.mpr ⟨feedCalls_find (h.frame env) _ _ hinv, ?_⟩
        split
        · exact List.forall_mem_nil _
        · rename_i hfed
          have hparsed := feedCalls_keeps (R := fun found _ => inv found) (h.frame env)
            context.parser ((first :: more).take transportInputSize) hinv (not_not.mp hfed)
          exact ih (h.transport _ _ _ hparsed)
      | interrupted => exact ih hinv
      | eof => exact List.forall_mem_nil _
      | again => exact List.forall_mem_nil _
      | failed => exact List.forall_mem_nil _
  cases event with
  | transport env event =>
    unfold Context.deviceCalls
    dsimp only
    generalize hflush : (if event.output then flushTransport env event.writes context
      else (Status.ok.code, context)) = flushed
    have hflushed : inv flushed.2 := by
      rw [← hflush]
      split
      · exact @PreservesFrames.flush _ h.calls.toPreservesFrames env _ [] _ hinv
      · exact hinv
    split
    · exact hreads env event.reads hflushed
    · exact List.forall_mem_nil _
  | _ => exact List.forall_mem_nil _

end PreservesRest

theorem PreservesOk.step {inv : Context → Prop} (h : PreservesOk inv)
    {context context' : Context} {event : Event}
    (hclient : ∀ env index clientEvent, event = .client env index clientEvent →
      (observeClientEvent env context index clientEvent).1 = Status.ok.code →
      inv (observeClientEvent env context index clientEvent).2)
    (hinv : inv context) (hstep : daemonStep context event = some context') : inv context' :=
  h.toPreservesRest.step hclient
    (fun env _ _ hread => h.completion env (h.notified hread hinv)) hinv hstep

/-- An invariant that every handler outside of the client branch keeps, whether
the loop goes on or not. -/
structure Preserves (inv : Context → Prop) : Prop where
  transport : ∀ {context : Context} (parser : Parser) (output : List UInt8) (offset : Nat),
    inv context → inv { context with
      parser := parser
      transportOutput := output
      transportOutputOffset := offset }
  stopped : ∀ {context : Context}, inv context → inv { context with running := false }
  worker : ∀ {context : Context} (worker : Worker), inv context →
    inv { context with worker := worker }
  opened : ∀ {context : Context} (opened : List Nat), inv context →
    inv { context with history := { context.history with opened := opened } }
  admission : ∀ {context : Context} (epoll : Bool), inv context → inv (admitClient context epoll)
  frame : ∀ {context : Context} (env : Env) (frame : Frame), inv context →
    inv (observeDeviceFrame env frame context).2
  completion : ∀ {context : Context} (env : Env), inv context →
    inv (observeWorkerResult env context).2
  timer : ∀ {context : Context} (env : Env), inv context → inv (observeTimer env context).2

theorem Preserves.ok {inv : Context → Prop} (h : Preserves inv) : PreservesOk inv where
  transport parser output offset hinv := h.transport parser output offset hinv
  stopped hinv := h.stopped hinv
  notified _ hinv := h.worker _ hinv
  thread := by
    intro context file worker _ hinv
    exact h.opened (context.history.opened ++ openedBy context.worker worker)
      (h.worker worker hinv)
  admission epoll hinv := h.admission epoll hinv
  frame env frame hinv _ := h.frame env frame hinv
  completion env hinv _ := h.completion env hinv
  timer env hinv _ := h.timer env hinv

theorem Preserves.step {inv : Context → Prop} (h : Preserves inv) {context context' : Context}
    {event : Event}
    (hclient : ∀ env index clientEvent, event = .client env index clientEvent →
      inv (observeClientEvent env context index clientEvent).2)
    (hinv : inv context) (hstep : daemonStep context event = some context') : inv context' :=
  h.ok.step (fun env index clientEvent hevent _ => hclient env index clientEvent hevent) hinv
    hstep

/-! ## The client branch -/

/-- The request that an event completes. -/
def Context.requested (context : Context) : Event → Option IpcRequest
  | .client _ index event =>
    let read := (context.clients index).readLoop event.reads
    if (context.clients index).isOpen ∧ event.input ∧ read.2 = .complete then
      (ipcDecodeRequest read.1.input).toOption
    else none
  | _ => none

/-- An invariant that the client branch keeps, started requests apart: the client table, a
client that is closed, and what is noted. -/
structure PreservesTable (inv : Context → Prop) : Prop where
  setClient : ∀ {context : Context} (index : Slot) (client : Client), inv context →
    inv (context.setClient index client)
  close : ∀ {context : Context} (index : Slot), inv context → inv (closeClient context index)
  noted : ∀ {context : Context} (started : List Nat) (changes : List UpgradeChange),
    inv context → inv { context with
      history := { context.history with started := started, changes := changes } }

/-- An invariant that the client branch keeps: the client table, a client that is closed,
a request that is started, and what is noted. -/
structure PreservesClient (inv : Context → Prop) : Prop extends PreservesTable inv where
  start : ∀ {env : Env} {context : Context} {index : Slot} {request : IpcRequest}
    {handled : Int × Context}, StartCase env context index request handled → inv context →
      inv handled.2

section PreservesTable

variable {inv : Context → Prop} (h : PreservesTable inv)

include h

theorem PreservesTable.response (env : Env) {context : Context} (hinv : inv context)
    (index : Slot) (command : UInt8) (status : Int) (payload : List UInt8) :
    inv (queueClientResponse env context index command status payload).2 := by
  obtain ⟨bytes, _, hqueued⟩ := queueClientResponse_eq env context index command status payload
  rw [hqueued]
  exact h.setClient index _ hinv

theorem PreservesTable.output {context : Context} (hinv : inv context) (index : Slot)
    (writes : List WriteResult) : inv (handleClientOutput context index writes).2 := by
  have hset := h.setClient index ((context.clients index).writeLoop writes).1 hinv
  unfold handleClientOutput
  dsimp only
  split
  · exact h.close index hset
  split
  · exact hset
  split
  · exact h.close index hset
  · exact hset

/-- A change is noted. -/
theorem PreservesTable.recordChange {handled : Int × Context} (hinv : inv handled.2)
    (before : Context) (cause : ChangeCause) : inv (before.recordChange cause handled).2 := by
  obtain ⟨changes, hnoted⟩ := recordChange_eq before cause handled
  rw [hnoted]
  exact h.noted _ changes hinv

/-- The input of a client, with the request that it completes left to the invariant. -/
theorem PreservesTable.input {env : Env} {context : Context} {index : Slot}
    {reads : List ReadResult}
    (hstart : ∀ request, ((context.clients index).readLoop reads).2 = .complete →
      ipcDecodeRequest ((context.clients index).readLoop reads).1.input = .ok request →
      ∀ client, inv (startRequest env (context.setClient index client) index request).2)
    (hinv : inv context) : inv (handleClientInput env context index reads).2 := by
  have hset := h.setClient index ((context.clients index).readLoop reads).1 hinv
  unfold handleClientInput
  dsimp only
  split
  · exact hset
  · exact h.close index hset
  · exact h.response env hset index _ _ _
  · rename_i hcomplete
    split
    · exact h.response env hset index _ _ _
    · rename_i request hdecode
      exact hstart request hcomplete hdecode _

/-- The client branch behind the input. -/
theorem PreservesTable.afterInput {env : Env} {context : Context} {index : Slot}
    {event : ClientEvent} (hopen : (context.clients index).isOpen = true)
    (hinput : inv (event.afterInput env context index).2) :
    inv (observeClientEvent env context index event).2 := by
  refine h.recordChange ?_ _ _
  have houtput : inv (event.afterOutput env context index).2 := by
    unfold ClientEvent.afterOutput
    dsimp only
    split
    · exact h.output hinput index _
    · exact hinput
  unfold handleClientEvent
  rw [if_neg (not_not.mpr hopen)]
  dsimp only
  split
  · exact h.close index houtput
  · exact houtput

/-- The client branch, with the request that the event completes left to the invariant. -/
theorem PreservesTable.event {env : Env} {context : Context} {index : Slot} {event : ClientEvent}
    (hstart : ∀ request, context.requested (.client env index event) = some request →
      ∀ client, inv (startRequest env (context.setClient index client) index request).2)
    (hinv : inv context) : inv (observeClientEvent env context index event).2 := by
  by_cases hopen : (context.clients index).isOpen = true
  · refine h.afterInput hopen ?_
    unfold ClientEvent.afterInput
    split
    · rename_i hready
      refine h.input (fun request hcomplete hdecode => hstart request ?_) hinv
      unfold Context.requested
      dsimp only
      rw [if_pos ⟨hopen, hready, hcomplete⟩, hdecode]
      rfl
    · exact hinv
  · refine h.recordChange ?_ _ _
    rw [handleClientEvent, if_pos hopen]
    exact hinv

/-- A client that completes a request: what the request does is what the event does. -/
theorem PreservesTable.started {env : Env} {context : Context} {index : Slot}
    {event : ClientEvent} {request : IpcRequest}
    (hrequested : context.requested (.client env index event) = some request)
    (hstart : ∀ client, inv (startRequest env (context.setClient index client) index request).2) :
    inv (observeClientEvent env context index event).2 := by
  unfold Context.requested at hrequested
  dsimp only at hrequested
  split at hrequested
  · rename_i hread
    refine h.afterInput hread.1 ?_
    rcases hdecode : ipcDecodeRequest ((context.clients index).readLoop event.reads).1.input with
      error | decoded
    · rw [hdecode] at hrequested
      cases hrequested
    · rw [hdecode] at hrequested
      obtain rfl := Option.some.inj hrequested
      unfold ClientEvent.afterInput handleClientInput
      rw [if_pos hread.2.1]
      dsimp only
      rw [hread.2.2]
      dsimp only
      rw [hdecode]
      exact hstart _
  · cases hrequested

end PreservesTable

theorem PreservesClient.event {inv : Context → Prop} (h : PreservesClient inv) (env : Env)
    {context : Context} (hinv : inv context) (index : Slot) (event : ClientEvent) :
    inv (observeClientEvent env context index event).2 := by
  refine h.toPreservesTable.event (fun request _ client => ?_) hinv
  exact h.start (startRequest_cases env _ index request)
    (h.noted (_ ++ [_]) _ (h.setClient index client hinv))

/-- The loop is entered with the `PING` of the handshake in the slot. -/
theorem startHandshake_eq {env : Env} {context : Context}
    (h : startHandshake env setupContext = (Status.ok.code, context)) :
    ∃ session output offset, session.pending.frame.type = Msg.ping ∧
      session.state = .handshaking ∧ context = { setupContext.ownRequest session .handshake with
        transportOutput := output
        transportOutputOffset := offset } := by
  have hconnect : sessionTransition setupContext.session .connect =
      (.ok, { sessionInit with state := .connecting }) := rfl
  have hconnected : sessionTransition { sessionInit with state := .connecting }
      .transportConnected = (.ok, { sessionInit with state := .handshaking }) := rfl
  unfold startHandshake at h
  rw [hconnect] at h
  dsimp only at h
  rw [hconnected, if_neg (not_not.mpr rfl), if_neg (not_not.mpr rfl)] at h
  split at h
  · rename_i error hbegin
    exact absurd (congrArg Prod.fst h) (sessionBeginRequest_failed hbegin)
  · rename_i frame session hbegin
    obtain ⟨_, htype, _, _, hstate, _, hpending, _⟩ := sessionBeginRequest_eq_ok hbegin
    obtain ⟨output, offset, hqueued⟩ := queueFrame_eq env
      (setupContext.ownRequest session .handshake) frame
    rw [h] at hqueued
    exact ⟨session, output, offset, by rw [hpending, htype], hstate, hqueued⟩

end Daemon
