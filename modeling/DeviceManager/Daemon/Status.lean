import DeviceManager.Daemon.Completion
import DeviceManager.Daemon.Mirror
import DeviceManager.Daemon.Session

/-!
# What `UPGRADE_STATUS` reports

The daemon has one record for the upgrade.  `IPC_UPGRADE` gives the operation a number and
sets the state and the result, and `devmgr_upgrade_start` clears the rest of the record, but
only when the image is validated.

`OperationEvent` is what the environment does from the moment that an operation is accepted: the
worker has a result for it, the transport takes bytes, the device sends a frame, the timer ticks.
`Context.perform` hands such an event to the handlers, and `operationStart` is a daemon that has
accepted the operation and has done nothing before.  `mirrors_of_trace` says that the daemon
mirrors such a one as long as the operation is the current one, provided that nothing was pending
or unsent when the operation was accepted: clients do not count, and neither does what came before,
but for the offset and the total that it has left in the record.
-/

namespace Daemon

open Devmgr

/-! ## Events -/

/-- What the environment does to an operation.  An image is known by its bytes and its CRC. -/
inductive OperationEvent
  | validated (env : Env) (status : Status) (opened : Option (List UInt8 × UInt32))
  | flushed (env : Env) (writes : List WriteResult)
  | received (env : Env) (frame : Frame)
  | ticked (env : Env)

/-- The worker has a result for the current operation. -/
def Context.withResult (context : Context) (status : Status)
    (opened : Option (List UInt8 × UInt32)) : Context :=
  { context with worker := { context.worker with
    resultPending := true
    result := ⟨context.upgradeOperationId, status,
      opened.map fun opened => ⟨0, opened.1, opened.2⟩⟩ } }

/-- The handlers of the daemon, on an event. -/
def Context.perform (context : Context) : OperationEvent → Context
  | .validated env status opened => (takeWorkerResult env (context.withResult status opened)).2
  | .flushed env writes => (flushTransport env writes context).2
  | .received env frame => (onDeviceFrame env frame context).2
  | .ticked env => (handleTimer env context).2

def Context.performAll (context : Context) (events : List OperationEvent) : Context :=
  events.foldl Context.perform context

theorem Context.performAll_append (context : Context) (first second : List OperationEvent) :
    context.performAll (first ++ second) = (context.performAll first).performAll second :=
  List.foldl_append

/-- The result that the reactor finds, if it is for the current operation. -/
def Context.operationResult (env : Env) (context : Context) : List OperationEvent :=
  match workerTakeResult context.worker with
  | .error _ => []
  | .ok (validation, _) =>
    if validation.jobId = context.upgradeOperationId then
      [.validated env validation.status
        (validation.image.map fun image => (image.data, image.crc32))]
    else []

/-- What an event of the loop is to the operation.  The frames of the device are numbered from
`base`, the first number that the operation can use. -/
def Context.operationEvents (base : UInt32) (context : Context) : Event → List OperationEvent
  | .worker env =>
    match workerReadEvent context.worker with
    | none => []
    | some worker => Context.operationResult env { context with worker := worker }
  | .timer env => [.ticked env]
  | .transport env event =>
    (if event.output then [.flushed env event.writes] else []) ++
      (context.deviceCalls (.transport env event)).map fun call =>
        .received env (call.2.renumbered base)
  | .listener _ | .signal | .client _ _ _ | .workerThread _ => []

/-! ## Steps -/

theorem Context.SameOperation.refl (context : Context) : context.SameOperation context :=
  ⟨⟨rfl, rfl⟩, rfl, rfl, rfl⟩

/-- The client table is not part of an operation. -/
theorem sameOperation_preservesTable (context : Context) :
    PreservesTable context.SameOperation where
  setClient _ _ h := ⟨⟨h.upgrade, h.result⟩, h.version, h.session, h.unwritten⟩
  close _ h := ⟨⟨h.upgrade, h.result⟩, h.version, h.session, h.unwritten⟩
  noted _ _ h := ⟨⟨h.upgrade, h.result⟩, h.version, h.session, h.unwritten⟩

section Steps

variable {base : UInt32} {context image : Context} (h : context.Mirrors base image)

include h

theorem Context.Mirrors.of_sameOperation {after : Context} (hsame : context.SameOperation after) :
    after.Mirrors base image :=
  h.of_same hsame.toSameRecord fun _ => hsame

omit h in
theorem Context.Mirrors.noted {handled : Int × Context} (h : handled.2.Mirrors base image)
    (before : Context) (cause : ChangeCause) :
    (before.recordChange cause handled).2.Mirrors base image :=
  h.of_sameOperation ((sameOperation_preservesTable handled.2).recordChange (.refl _) before cause)

theorem Context.Mirrors.withResult (status : Status) (opened : Option (List UInt8 × UInt32)) :
    context.Mirrors base (image.withResult status opened) := by
  cases h with
  | validating hstate hshows hversion hsession hunsent hidle =>
    exact .validating hstate ⟨hshows.state, hshows.result, hshows.offset, hshows.total⟩ hversion
      hsession hunsent hidle
  | running hactive hstate hcopies =>
    exact .running hactive hstate ⟨hcopies.upgrade, hcopies.result, hcopies.session,
      hcopies.unsent⟩
  | settled hinactive hshows =>
    exact .settled hinactive ⟨hshows.state, hshows.result, hshows.offset, hshows.total⟩

theorem Context.Mirrors.completion (env : Env) :
    (observeWorkerResult env context).2.Mirrors base
      (image.performAll (context.operationResult env)) := by
  unfold observeWorkerResult Context.operationResult
  refine Context.Mirrors.noted ?_ _ _
  rcases htake : workerTakeResult context.worker with error | ⟨validation, worker⟩
  · unfold takeWorkerResult
    rw [htake]
    exact h
  dsimp only
  split
  · rename_i hjob
    refine (h.withResult _ _).validated env htake rfl hjob rfl rfl ?_
    exact (Option.map_map _ _ _).trans (congrFun Option.map_id _)
  · rename_i hstale
    unfold takeWorkerResult
    rw [htake]
    dsimp only
    rw [if_pos (.inl hstale)]
    exact h.of_sameOperation ⟨⟨rfl, rfl⟩, rfl, rfl, rfl⟩

omit h in
/-- The frames of an event, one after the other. -/
theorem mirrors_preservesReads (env : Env) :
    PreservesReads env fun calls context => context.Mirrors base
      (image.performAll (calls.map fun call => .received env (call.2.renumbered base))) where
  parser _ h := h.of_sameOperation ⟨⟨rfl, rfl⟩, rfl, rfl, rfl⟩
  frame frame h _ := by
    rw [List.map_append, Context.performAll_append]
    exact (h.frame env frame).noted _ _

theorem Context.Mirrors.transport (env : Env) (event : TransportEvent)
    (hok : (handleTransportEvent env context event).1 = Status.ok.code) :
    (handleTransportEvent env context event).2.Mirrors base
      (image.performAll (context.operationEvents base (.transport env event))) := by
  unfold Context.operationEvents
  rw [Context.performAll_append]
  unfold Context.deviceCalls
  revert hok
  unfold handleTransportEvent
  dsimp only
  generalize hflush : (if event.output then flushTransport env event.writes context
    else (Status.ok.code, context)) = flushed
  have hflushed : flushed.2.Mirrors base (image.performAll
      (if event.output then [.flushed env event.writes] else [])) := by
    rw [← hflush]
    split
    · exact h.flush env event.writes
    · exact h
  split
  · intro hok
    cases hok
  split
  · exact @PreservesReads.read env _ (mirrors_preservesReads env) event.reads [] flushed.2 hflushed
  · exact fun _ => hflushed

end Steps

/-- A request leaves the operation alone, and the device as well while the operation is active, or
it begins the next one. -/
theorem StartCase.sameOperation {env : Env} {context : Context} {index : Slot}
    {request : IpcRequest} {handled : Int × Context}
    (h : StartCase env context index request handled) :
    (context.SameRecord handled.2 ∧
      (upgradeActive context.upgrade = true → context.SameOperation handled.2)) ∨
    handled.2.upgradeOperationId = operationAfter context.upgradeOperationId := by
  have hresponse : ∀ (before : Context) (status : Int) (payload : List UInt8),
      before.SameOperation
        (queueClientResponse env before index request.command status payload).2 :=
    fun before status payload => (sameOperation_preservesTable before).response env (.refl _) index
      request.command status payload
  cases h with
  | answered status payload =>
    exact .inl ⟨(hresponse _ _ _).toSameRecord, fun _ => hresponse _ _ _⟩
  | upgraded =>
    exact .inr (queueClientResponse_sameDevice env _ _ _ _ _).operation
  | cancelled session output offset status _ _ _ hinactive =>
    have hsame := (hresponse { context.ownRequest session
      (.client (context.clients index).connection) with
        transportOutput := output
        transportOutputOffset := offset } status []).toSameRecord
    exact .inl ⟨⟨hsame.upgrade, hsame.result⟩, fun hactive =>
      absurd (hinactive.symm.trans hactive) Bool.false_ne_true⟩
  | sent _ _ _ _ _ _ _ hinactive =>
    exact .inl ⟨⟨rfl, rfl⟩, fun hactive =>
      absurd (hinactive.symm.trans hactive) Bool.false_ne_true⟩

theorem observeClientEvent_sameOperation {env : Env} {context : Context} {index : Slot}
    {event : ClientEvent}
    (h : (observeClientEvent env context index event).2.upgradeOperationId =
      context.upgradeOperationId) :
    context.SameRecord (observeClientEvent env context index event).2 ∧
      (upgradeActive context.upgrade = true →
        context.SameOperation (observeClientEvent env context index event).2) := by
  have htable := sameOperation_preservesTable context
  have hpreserves : PreservesTable fun after => (context.SameRecord after ∧
      (upgradeActive context.upgrade = true → context.SameOperation after)) ∨
      after.upgradeOperationId = operationAfter context.upgradeOperationId :=
    { setClient := fun index client => Or.imp_left fun hkept =>
        ⟨⟨hkept.1.upgrade, hkept.1.result⟩, fun hactive =>
          htable.setClient index client (hkept.2 hactive)⟩
      close := fun index => Or.imp_left fun hkept =>
        ⟨⟨hkept.1.upgrade, hkept.1.result⟩, fun hactive => htable.close index (hkept.2 hactive)⟩
      noted := fun started changes => Or.imp_left fun hkept =>
        ⟨⟨hkept.1.upgrade, hkept.1.result⟩, fun hactive =>
          htable.noted started changes (hkept.2 hactive)⟩ }
  have hkept := @PreservesTable.event _ hpreserves env context index event
    (fun request _ client => by
      rcases (startRequest_cases env (context.setClient index client) index request).sameOperation
        with ⟨hrecord, hsame⟩ | hnext
      · refine .inl ⟨⟨hrecord.upgrade, hrecord.result⟩, fun hactive => ?_⟩
        have hoperation := hsame hactive
        exact ⟨⟨hoperation.upgrade, hoperation.result⟩, hoperation.version, hoperation.session,
          hoperation.unwritten⟩
      · exact .inr hnext) (.inl ⟨⟨rfl, rfl⟩, fun _ => .refl _⟩)
  rcases hkept with hsame | hnext
  · exact hsame
  · exact absurd (hnext.symm.trans h) (operationAfter_ne _)

/-- The operation stays the current one. -/
def Context.keepsOperation (context : Context) (event : Event) : Prop :=
  ∀ after ∈ daemonStep context event, after.upgradeOperationId = context.upgradeOperationId

instance (context : Context) (event : Event) : Decidable (context.keepsOperation event) :=
  inferInstanceAs (Decidable (∀ _ ∈ _, _))

/-- One event of the loop. -/
theorem Context.Mirrors.step {base : UInt32} {context image after : Context}
    (h : context.Mirrors base image) {event : Event} (hstep : daemonStep context event = some after)
    (hkept : after.upgradeOperationId = context.upgradeOperationId) :
    after.Mirrors base (image.performAll (context.operationEvents base event)) := by
  have hhandled := handleEvent_of_daemonStep hstep
  cases event with
  | listener accepts =>
    have haccepted := Option.some.inj hhandled
    have hsame : context.SameOperation (acceptClients accepts context).2 := by
      refine acceptClients_preserves ?_ accepts (.refl context)
      intro admitted epoll hadmitted
      obtain ⟨clients, activeClient, heq⟩ := admitClient_eq admitted epoll
      rw [heq]
      exact ⟨⟨hadmitted.upgrade, hadmitted.result⟩, hadmitted.version, hadmitted.session,
        hadmitted.unwritten⟩
    rw [haccepted] at hsame
    exact h.of_sameOperation hsame
  | signal =>
    obtain ⟨_, rfl⟩ := Prod.mk.inj (Option.some.inj hhandled)
    exact h.of_sameOperation ⟨⟨rfl, rfl⟩, rfl, rfl, rfl⟩
  | worker env =>
    obtain ⟨worker, hread, hobserved⟩ := Option.map_eq_some_iff.mp hhandled
    have hnotified : Context.Mirrors base { context with worker := worker } image :=
      h.of_sameOperation ⟨⟨rfl, rfl⟩, rfl, rfl, rfl⟩
    have hcompleted := hnotified.completion env
    rw [hobserved] at hcompleted
    unfold Context.operationEvents
    dsimp only
    rw [hread]
    exact hcompleted
  | timer env =>
    have hticked := (h.timer env).noted context (.expiry context.pendingOwner)
    rw [show Context.recordChange _ _ _ = (_, after) from Option.some.inj hhandled] at hticked
    exact hticked
  | transport env event =>
    have htransport := Option.some.inj hhandled
    have hmirrors := h.transport env event (congrArg Prod.fst htransport)
    rw [htransport] at hmirrors
    exact hmirrors
  | client env index event =>
    have hclient := Option.some.inj hhandled
    have hsame := @observeClientEvent_sameOperation env context index event
    rw [show observeClientEvent env context index event = _ from hclient] at hsame
    obtain ⟨hrecord, hoperation⟩ := hsame hkept
    exact h.of_same hrecord hoperation
  | workerThread file =>
    obtain ⟨worker, _, hadvanced⟩ := Option.map_eq_some_iff.mp hhandled
    obtain ⟨_, rfl⟩ := Prod.mk.inj hadvanced
    exact h.of_sameOperation ⟨⟨rfl, rfl⟩, rfl, rfl, rfl⟩

/-- While the operation is the current one, the daemon mirrors one that has seen the events of the
operation only. -/
theorem mirrors_of_trace {base : UInt32} {start image later : Context}
    {trace : List OperationEvent} (h : start.Mirrors base image)
    (htrace : daemonSystem.Trace Context.keepsOperation (Context.operationEvents base) start trace
      later) :
    later.upgradeOperationId = start.upgradeOperationId ∧
      later.Mirrors base (image.performAll trace) := by
  refine htrace.invariant (R := fun trace later =>
    later.upgradeOperationId = start.upgradeOperationId ∧
      later.Mirrors base (image.performAll trace)) ⟨rfl, h⟩ ?_
  rintro trace before event after ⟨hnumber, hmirrors⟩ hkeeps hstep
  have hkept := hkeeps after hstep
  refine ⟨hkept.trans hnumber, ?_⟩
  rw [Context.performAll_append]
  exact hmirrors.step hstep hkept

/-! ## The accepted request -/

theorem startRequest_upgrade (env : Env) (context : Context) (index : Slot)
    {request : IpcRequest} (hcommand : request.command = IpcCommand.upgrade) :
    startRequest env context index request =
      startUpgrade env (context.noteStart index) index request := by
  unfold startRequest
  rw [if_neg (by rw [hcommand]; decide), if_neg (by rw [hcommand]; decide), if_pos hcommand]
  rfl

/-- An event brings the request, it is accepted, and the loop goes on. -/
def Context.Accepts (context : Context) (request : UpgradeRequest) (accepted : Context) : Prop :=
  ∃ event, context.upgradeRequested event = some request ∧ context.acceptsUpgrade event ∧
    daemonStep context event = some accepted

/-- The operation of an accepted request begins over what is left in the record. -/
def Context.begun (context : Context) (request : UpgradeRequest) : Context :=
  { context with
    upgrade := { context.upgrade with state := .validating }
    upgradeResult := Status.ok.code
    pendingUpgradeVersion := request.version }

theorem startUpgrade_accepted (env : Env) {context : Context} (index : Slot)
    {request : IpcRequest} {upgradeRequest : UpgradeRequest}
    (hparse : parseUpgradeRequest request = some upgradeRequest)
    (hallowed : context.upgradeAllowed)
    (hsubmit : (workerSubmitFirmware context.worker (operationAfter context.upgradeOperationId)
      upgradeRequest.path).1 = .ok) :
    (context.begun upgradeRequest).SameOperation
      (startUpgrade env context index request).2 := by
  unfold startUpgrade
  rw [hparse]
  dsimp only
  rw [if_neg (not_not.mpr hallowed), if_neg (not_not.mpr hsubmit)]
  refine (sameOperation_preservesTable (context.begun upgradeRequest)).response env ?_ index _ _ _
  exact ⟨⟨rfl, rfl⟩, rfl, rfl, rfl⟩

theorem Context.Accepts.begun {context accepted : Context} {request : UpgradeRequest}
    (h : context.Accepts request accepted) :
    context.session.state = .ready ∧ (context.begun request).SameOperation accepted := by
  obtain ⟨event, hrequest, ⟨same, hsame, hallowed, hsubmit⟩, hstep⟩ := h
  obtain rfl := Option.some.inj (hrequest.symm.trans hsame)
  refine ⟨hallowed.1, ?_⟩
  obtain ⟨ipcRequest, hrequested, hparsed⟩ := Option.bind_eq_some_iff.mp hrequest
  cases event with
  | client env index event =>
    split at hparsed
    swap
    · cases hparsed
    rename_i hcommand
    have hstarted := (sameOperation_preservesTable (context.begun request)).started hrequested
      fun client => by
        rw [startRequest_upgrade env _ index hcommand]
        have hbegun := @startUpgrade_accepted env ((context.setClient index client).noteStart index)
          index ipcRequest request hparsed hallowed hsubmit
        exact ⟨⟨hbegun.upgrade, hbegun.result⟩, hbegun.version, hbegun.session, hbegun.unwritten⟩
    rw [show observeClientEvent env context index event = _ from
      Option.some.inj (handleEvent_of_daemonStep hstep)] at hstarted
    exact hstarted
  | _ => cases hrequested

/-! ## What is shown -/

/-- A daemon that is ready, has accepted the request with the version, and has done nothing else,
over a record. -/
def operationStart (record : Upgrade) (version : CString (upgradeVersionMax + 1)) : Context :=
  { setupContext with
    session := { sessionInit with state := .ready }
    upgrade := { record with state := .validating }
    upgradeResult := Status.ok.code
    pendingUpgradeVersion := version }

/-- The first operation of a daemon, for an accepted request. -/
def freshOperation (request : UpgradeRequest) : Context :=
  operationStart upgradeInit request.version

/-- The state, the result, the offset and the total, as the response has them. -/
def Context.shown (context : Context) : List UInt8 := (statusPayload context).drop 4

theorem statusPayload_eq (context : Context) :
    statusPayload context = putLe32 context.upgradeOperationId ++ context.shown := by
  simp only [Context.shown, statusPayload, List.append_assoc]
  rfl

theorem shown_eq (context : Context) :
    context.shown = [context.upgrade.state.code, 0, 0, 0] ++
      (putLe32 (Int32.ofInt context.upgradeResult).toUInt32 ++
        (putLe32 context.upgrade.offset ++ putLe32 context.upgrade.imageSize.toUInt32)) := by
  simp only [Context.shown, statusPayload, List.append_assoc]
  rfl

theorem Context.Shows.shown {context image : Context} (h : context.Shows image) :
    context.shown = image.shown := by
  rw [shown_eq, shown_eq, h.state, h.result, h.offset, h.total]

theorem shown_fields {first second : Context} (h : first.shown = second.shown) :
    first.upgrade.offset = second.upgrade.offset ∧
      first.upgrade.imageSize.toUInt32 = second.upgrade.imageSize.toUInt32 := by
  have hoffset := congrArg (fun shown => getLe32 (shown.drop 8)) h
  have htotal := congrArg (fun shown => getLe32 (shown.drop 12)) h
  have hfields : ∀ context : Context,
      getLe32 (context.shown.drop 8) = context.upgrade.offset ∧
        getLe32 (context.shown.drop 12) = context.upgrade.imageSize.toUInt32 := by
    intro context
    rw [shown_eq]
    exact ⟨getLe32_putLe32 _ _, getLe32_putLe32_self _⟩
  rw [(hfields first).1, (hfields second).1] at hoffset
  rw [(hfields first).2, (hfields second).2] at htotal
  exact ⟨hoffset, htotal⟩

section Accepted

variable {context accepted : Context} {request : UpgradeRequest}
  (h : context.Accepts request accepted)

include h

theorem Context.Accepts.shown :
    accepted.shown = (operationStart context.upgrade request.version).shown := by
  obtain ⟨_, hsame⟩ := h.begun
  rw [shown_eq, hsame.upgrade, hsame.result]
  rfl

/-- With a free slot and nothing to be written, an accepted operation is like the first one of a
daemon, over a record with the same offset and total. -/
theorem Context.Accepts.mirrors (hreachable : daemonSystem.Reachable context)
    (hidle : context.session.pending.active = false) (hsent : context.unwritten = [])
    {record : Upgrade} {version : CString (upgradeVersionMax + 1)}
    (hversion : version = request.version) (hoffset : context.upgrade.offset = record.offset)
    (htotal : context.upgrade.imageSize.toUInt32 = record.imageSize.toUInt32) :
    accepted.Mirrors accepted.session.nextSequence (operationStart record version) := by
  obtain ⟨hready, hsame⟩ := h.begun
  have hfirst := nextSequence_ne_zero hreachable
  have hsession : accepted.session = context.session := hsame.session
  refine .validating (by rw [hsame.upgrade]; rfl) ⟨?_, hsame.result.symm, ?_, ?_⟩
    (hversion.trans hsame.version.symm) ?_ ?_ ?_
  · rw [hsame.upgrade]
    rfl
  · rw [hsame.upgrade]
    exact hoffset.symm
  · rw [hsame.upgrade]
    exact htotal.symm
  · rw [hsession]
    exact ⟨hready.symm, hfirst, (renumber_self hfirst).symm, hidle.symm, fun hactive =>
      absurd (hidle.symm.trans hactive) Bool.false_ne_true⟩
  · rw [Context.SameUnsent, hsame.unwritten]
    exact (congrArg List.length hsent).symm
  · rw [hsession]
    exact hidle

end Accepted

/-- A client asks for an upgrade. -/
def upgradeEvent (index : Slot) : Event := clientSends index upgradeRequestBytes

/-- The worker opens the image of the first operation of a daemon, and the device acknowledges the
first request. -/
def bootloaderEvents : List Event := validationEvents ++ [deviceSends bootloaderReply]

/-- The first operation transfers its image of one byte, and the device refuses `FW_END`. -/
def firstOperation : List Event :=
  deviceSends handshakeReply :: upgradeEvents ++ validationEvents ++
    [deviceSends bootloaderReply,
      deviceSends ⟨Msg.fwBegin, Flag.response, 3, putLe32 1 ++ putLe32 1,
        Nat.le_of_ble_eq_true rfl⟩,
      deviceSends ⟨Msg.nack, Flag.response, 4, [], Nat.zero_le _⟩,
      .listener [.accepted true]]

def secondSlot : Slot := ⟨1, by decide⟩

end Daemon
