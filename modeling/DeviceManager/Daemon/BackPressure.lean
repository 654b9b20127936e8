import DeviceManager.Daemon.Coupling

/-!
# Output that the transport has not taken

The daemon has one buffer for frames to the device.  `queue_frame` refuses a frame with
`DEVMGR_ERROR_BUSY` while the last one is not written, which happens when the transport
returns `EAGAIN`.  The handlers treat the refusal in different ways:

* `start_request` gives the code to the client, and `handle_worker_completion` and the recovery
  in the timer branch give the upgrade up;
* `devmgr_session_tick` and the upgrade branch of `on_device_frame` return it, and it becomes
  the result of the loop.

`Context.overruns` describes the events of the second kind by what they find: a tick that finds
a retransmission due, or a frame that the parser hands over and that asks for the next request of
an upgrade, each with unsent output.  `busy_ends_loop_iff` says that these events end the loop with
`DEVMGR_ERROR_BUSY`, and no others.
-/

namespace Daemon

open Devmgr

/-- The last frame is not fully written. -/
def Context.unsent (context : Context) : Prop :=
  context.transportOutputOffset < context.transportOutput.length

instance (context : Context) : Decidable context.unsent :=
  inferInstanceAs (Decidable (_ < _))

/-- `devmgr_session_tick` sends the pending request again. -/
def retransmissionDue (session : Session) (now : UInt64) : Prop :=
  session.pending.active = true ∧ ¬ now < session.pending.deadlineNs ∧
    session.pending.retriesDone < session.pending.policy.maxRetries

/-- The frame answers the pending request of an upgrade, which accepts it and has another
request for the device. -/
def Context.asksForRequest (context : Context) (frame : Frame) : Prop :=
  let accepted := upgradeAcceptResponse context.upgrade context.session.pending.frame.type frame
  ¬ (frame.type = Msg.telemetry ∧ frame.sequence = 0) ∧ context.session.Answers frame ∧
    context.session.state ≠ .handshaking ∧ upgradeActive context.upgrade = true ∧
    accepted.1 = .ok ∧ (upgradeBuildRequest accepted.2).isOk = true

/-- The event finds unsent output and something to send that is not given up. -/
def Context.overruns (context : Context) : Event → Prop
  | .timer env => context.unsent ∧ retransmissionDue context.session env.now
  | .transport env event =>
    let flushed :=
      if event.output then flushTransport env event.writes context else (Status.ok.code, context)
    event.hangup = false ∧ flushed.1 = Status.ok.code ∧ event.input = true ∧
      ∃ call ∈ transportCalls env event.reads flushed.2,
        call.1.unsent ∧ call.1.asksForRequest call.2
  | _ => False

/-! ## The results of the calls -/

theorem ok_ne_busy : Status.ok.code ≠ Status.busy.code := by
  decide

theorem updateClientEvents_ne_busy (env : Env) : env.updateClientEvents ≠ Status.busy.code := by
  unfold Env.updateClientEvents
  split <;> decide

theorem updateTransportEvents_ne_busy (env : Env) :
    env.updateTransportEvents ≠ Status.busy.code := by
  unfold Env.updateTransportEvents
  split <;> decide

theorem queueClientResponse_ne_busy (env : Env) (context : Context) (index : Slot)
    (command : UInt8) (status : Int) (payload : List UInt8) :
    (queueClientResponse env context index command status payload).1 ≠ Status.busy.code := by
  obtain ⟨bytes, _, hqueued⟩ := queueClientResponse_eq env context index command status payload
  rw [hqueued]
  exact updateClientEvents_ne_busy env

theorem sessionTransition_ne_busy (session : Session) (event : SessionEvent) :
    (sessionTransition session event).1.code ≠ Status.busy.code := by
  unfold sessionTransition
  split
  · exact ok_ne_busy
  · split
    · exact show Status.state.code ≠ Status.busy.code by decide
    · exact ok_ne_busy

theorem queueFrame_busy_iff (env : Env) (context : Context) (frame : Frame) :
    (queueFrame env context frame).1 = Status.busy.code ↔ context.unsent := by
  unfold queueFrame Context.unsent
  split
  · rename_i hunsent
    exact ⟨fun _ => hunsent, fun _ => rfl⟩
  · rename_i hsent
    rw [frameEncode_eq frame le_rfl]
    exact ⟨fun h => absurd h (updateTransportEvents_ne_busy env), fun h => absurd h hsent⟩

/-- With a free slot, the next request is refused for unsent output only. -/
theorem queueUpgradeRequest_busy_iff (env : Env) (context : Context)
    (hfree : context.session.pending.active = false) :
    (queueUpgradeRequest env context).1 = Status.busy.code ↔
      context.unsent ∧ (upgradeBuildRequest context.upgrade).isOk = true := by
  unfold queueUpgradeRequest
  rcases hbuild : upgradeBuildRequest context.upgrade with error | ⟨frame, upgrade⟩
  · obtain rfl := upgradeBuildRequest_error hbuild
    refine ⟨fun h => absurd h (show Status.state.code ≠ Status.busy.code by decide), fun h => ?_⟩
    cases h.2
  dsimp only
  obtain ⟨request, session, hbegin⟩ := sessionBeginRequest_isOk frame.type frame.flags env.now
    frame.payload_le (show upgradePolicy.timeoutMs ≠ 0 by decide) hfree
  rw [hbegin]
  have hqueue := queueFrame_busy_iff env (Context.ownRequest { context with upgrade := upgrade }
    session (.upgrade context.upgradeOperationId)) request
  dsimp only
  split
  · exact hqueue.trans ⟨fun h => ⟨h, rfl⟩, fun h => h.1⟩
  · exact hqueue.trans ⟨fun h => ⟨h, rfl⟩, fun h => h.1⟩

/-! ## A frame -/

theorem onUpgradeResponse_busy_iff (env : Env) {context : Context} (requestType : UInt8)
    (frame : Frame) (hfree : context.session.pending.active = false) :
    (onUpgradeResponse env context requestType frame).1 = Status.busy.code ↔
      context.unsent ∧ (upgradeAcceptResponse context.upgrade requestType frame).1 = .ok ∧
        (upgradeBuildRequest
          (upgradeAcceptResponse context.upgrade requestType frame).2).isOk = true := by
  unfold onUpgradeResponse
  dsimp only
  split
  · rename_i hcomplete
    refine ⟨fun h => absurd h ok_ne_busy, fun h => ?_⟩
    have hbuild := h.2.2
    rw [upgradeBuildRequest, hcomplete.2] at hbuild
    cases hbuild
  split
  · rename_i hrefused
    exact ⟨fun h => absurd h ok_ne_busy, fun h => absurd h.2.1 hrefused⟩
  · rename_i haccepted
    have hqueue := queueUpgradeRequest_busy_iff env { context with
      upgrade := (upgradeAcceptResponse context.upgrade requestType frame).2 } hfree
    exact hqueue.trans ⟨fun h => ⟨h.1, not_not.mp haccepted, h.2⟩, fun h => ⟨h.1, h.2.2⟩⟩

theorem observeDeviceFrame_busy_iff (env : Env) (frame : Frame) (context : Context) :
    (observeDeviceFrame env frame context).1 = Status.busy.code ↔
      context.unsent ∧ context.asksForRequest frame := by
  unfold observeDeviceFrame
  rw [recordChange_result]
  unfold onDeviceFrame Context.asksForRequest
  dsimp only
  by_cases htelemetry : frame.type = Msg.telemetry ∧ frame.sequence = 0
  · rw [if_pos htelemetry]
    refine ⟨fun h => ?_, fun h => absurd htelemetry h.2.1⟩
    split at h
    · exact absurd h ok_ne_busy
    · exact absurd h ok_ne_busy
  rw [if_neg htelemetry]
  by_cases hanswers : context.session.Answers frame
  · rw [sessionAcceptResponse_of_answers hanswers]
    dsimp only
    rw [if_neg (not_not.mpr rfl)]
    by_cases hstate : context.session.state = .handshaking
    · rw [if_pos (show (context.session.completed frame).state = .handshaking from hstate)]
      refine ⟨fun h => ?_, fun h => absurd hstate h.2.2.2.1⟩
      split at h
      · exact absurd h (show Status.protocol.code ≠ Status.busy.code by decide)
      · exact absurd h (sessionTransition_ne_busy _ _)
    rw [if_neg (show (context.session.completed frame).state ≠ .handshaking from hstate)]
    by_cases hactive : upgradeActive context.upgrade = true
    · rw [if_pos hactive]
      refine (onUpgradeResponse_busy_iff env _ frame rfl).trans ?_
      exact ⟨fun h => ⟨h.1, htelemetry, hanswers, hstate, hactive, h.2⟩,
        fun h => ⟨h.1, h.2.2.2.2.2⟩⟩
    · rw [if_neg hactive]
      refine ⟨fun h => ?_, fun h => absurd h.2.2.2.2.1 hactive⟩
      split at h
      · exact absurd h (queueClientResponse_ne_busy _ _ _ _ _ _)
      · exact absurd h ok_ne_busy
  · have hrejected : (sessionAcceptResponse context.session frame).1 ≠ .ok :=
      fun h => hanswers (sessionAcceptResponse_ok h)
    rw [if_pos hrejected]
    exact ⟨fun h => absurd h ok_ne_busy, fun h => absurd h.2.2.1 hanswers⟩

/-! ## The transport -/

theorem flushTransport_ne_busy (env : Env) (writes : List WriteResult) (context : Context) :
    (flushTransport env writes context).1 ≠ Status.busy.code := by
  unfold flushTransport
  dsimp only
  split
  · exact (show Status.disconnected.code ≠ Status.busy.code by decide)
  split
  · exact updateTransportEvents_ne_busy env
  · exact updateTransportEvents_ne_busy env

theorem readTransport_busy_iff (env : Env) (reads : List ReadResult) (context : Context) :
    (readTransport env reads context).1 = Status.busy.code ↔
      ∃ call ∈ transportCalls env reads context, call.1.unsent ∧ call.1.asksForRequest call.2 := by
  have hnone : ∀ code, code ≠ Status.busy.code → (code = Status.busy.code ↔
      ∃ call ∈ ([] : List (Context × Frame)), call.1.unsent ∧ call.1.asksForRequest call.2) := by
    intro code hcode
    simpa using hcode
  induction reads generalizing context with
  | nil => exact hnone _ (ok_ne_busy)
  | cons result reads ih =>
    cases result with
    | data first more =>
      have hfed := parserFeed_result_iff (observeDeviceFrame env) context.parser
        ((first :: more).take transportInputSize) context
        (show Status.busy.code ≠ Status.ok.code by decide)
        (show Status.busy.code ≠ Status.overflow.code by decide)
      simp only [observeDeviceFrame_busy_iff] at hfed
      rw [readTransport, transportCalls]
      dsimp only
      split
      · rw [List.append_nil]
        exact hfed
      · rename_i hok
        rw [not_not] at hok
        rw [hok] at hfed
        refine (ih _).trans ⟨?_, ?_⟩
        · rintro ⟨call, hmem, hcall⟩
          exact ⟨call, List.mem_append_right _ hmem, hcall⟩
        · rintro ⟨call, hmem, hcall⟩
          rcases List.mem_append.mp hmem with hearlier | hlater
          · exact absurd (hfed.mpr ⟨call, hearlier, hcall⟩) (by decide)
          · exact ⟨call, hlater, hcall⟩
    | interrupted => exact ih context
    | eof => exact hnone _ (ok_ne_busy)
    | again => exact hnone _ (ok_ne_busy)
    | failed => exact hnone _ (show Status.disconnected.code ≠ Status.busy.code by decide)

theorem handleTransportEvent_busy_iff (env : Env) (context : Context) (event : TransportEvent) :
    (handleTransportEvent env context event).1 = Status.busy.code ↔
      context.overruns (.transport env event) := by
  unfold handleTransportEvent Context.overruns
  dsimp only
  generalize hflushed : (if event.output then flushTransport env event.writes context
    else (Status.ok.code, context)) = flushed
  have hflush : flushed.1 ≠ Status.busy.code := by
    rw [← hflushed]
    split
    · exact flushTransport_ne_busy env _ _
    · exact ok_ne_busy
  cases hhangup : event.hangup with
  | true =>
    rw [if_pos rfl]
    refine ⟨fun h => absurd h (show Status.disconnected.code ≠ Status.busy.code by decide), ?_⟩
    intro h
    cases h.1
  | false =>
    rw [if_neg Bool.false_ne_true]
    split
    · rename_i hread
      refine (readTransport_busy_iff env event.reads flushed.2).trans ?_
      exact ⟨fun h => ⟨rfl, hread.1, hread.2, h⟩, fun h => h.2.2.2⟩
    · rename_i hread
      exact ⟨fun h => absurd h hflush, fun h => absurd ⟨h.2.1, h.2.2.1⟩ hread⟩

/-! ## The timer -/

theorem handleTimeout_ne_busy (env : Env) (context : Context) :
    (handleTimeout env context).1 ≠ Status.busy.code := by
  unfold handleTimeout
  split
  · dsimp only
    split
    · rename_i hresult
      rw [hresult]
      exact ok_ne_busy
    · exact ok_ne_busy
  · split
    · exact queueClientResponse_ne_busy _ _ _ _ _ _
    · exact (show Status.timeout.code ≠ Status.busy.code by decide)

theorem observeTimer_busy_iff (env : Env) (context : Context) :
    (observeTimer env context).1 = Status.busy.code ↔ context.overruns (.timer env) := by
  unfold observeTimer handleTimer tickSession sessionTick Context.overruns retransmissionDue
  rw [recordChange_result]
  dsimp only
  by_cases hidle : ¬ context.session.pending.active = true ∨
      env.now < context.session.pending.deadlineNs
  · rw [if_pos hidle]
    refine ⟨fun h => absurd h ok_ne_busy, ?_⟩
    rintro ⟨_, hactive, hnow, _⟩
    rcases hidle with hfree | hearly
    · exact absurd hactive hfree
    · exact absurd hearly hnow
  rw [if_neg hidle]
  rw [not_or, not_not] at hidle
  by_cases hretries : context.session.pending.retriesDone ≥
      context.session.pending.policy.maxRetries
  · rw [if_pos hretries]
    refine ⟨fun h => absurd h (handleTimeout_ne_busy _ _), ?_⟩
    rintro ⟨_, _, _, hleft⟩
    exact absurd hretries (UInt8.not_le.mpr hleft)
  rw [if_neg hretries]
  have hqueue := queueFrame_busy_iff env context context.session.pending.frame.retried
  have htimeout := queueFrame_result env context context.session.pending.frame.retried
  have hdue : context.unsent ↔ context.unsent ∧ context.session.pending.active = true ∧
      ¬ env.now < context.session.pending.deadlineNs ∧
      context.session.pending.retriesDone < context.session.pending.policy.maxRetries :=
    ⟨fun h => ⟨h, hidle.1, hidle.2, UInt8.not_le.mp hretries⟩, fun h => h.1⟩
  by_cases hsent : (queueFrame env context context.session.pending.frame.retried).1 =
      Status.ok.code
  · rw [if_neg (not_not.mpr hsent)]
    dsimp only
    rw [if_neg (show Status.ok.code ≠ Status.timeout.code by decide), ← hdue, ← hqueue, hsent]
  · rw [if_pos hsent, if_neg htimeout, ← hdue]
    exact hqueue

/-! ## The other events -/

theorem acceptClients_ne_busy (accepts : List AcceptResult) (context : Context) :
    (acceptClients accepts context).1 ≠ Status.busy.code := by
  induction accepts generalizing context with
  | nil => exact ok_ne_busy
  | cons result accepts ih =>
    cases result with
    | accepted epoll => exact ih _
    | interrupted => exact ih _
    | again => exact ok_ne_busy
    | failed => exact (show Status.io.code ≠ Status.busy.code by decide)

theorem takeWorkerResult_ne_busy (env : Env) (context : Context) :
    (takeWorkerResult env context).1 ≠ Status.busy.code := by
  unfold takeWorkerResult workerTakeResult
  split
  · rename_i error htake
    split at htake
    · obtain rfl := Except.error.inj htake
      exact (show Status.notFound.code ≠ Status.busy.code by decide)
    · cases htake
  · dsimp only
    split
    · exact ok_ne_busy
    · split <;> exact ok_ne_busy

theorem startRequest_ne_busy (env : Env) (context : Context) (index : Slot)
    (request : IpcRequest) : (startRequest env context index request).1 ≠ Status.busy.code := by
  have hcase := startRequest_cases env context index request
  generalize startRequest env context index request = handled at hcase ⊢
  cases hcase with
  | answered => exact queueClientResponse_ne_busy _ _ _ _ _ _
  | upgraded => exact queueClientResponse_ne_busy _ _ _ _ _ _
  | cancelled => exact queueClientResponse_ne_busy _ _ _ _ _ _
  | sent => exact ok_ne_busy

theorem handleClientInput_ne_busy (env : Env) (context : Context) (index : Slot)
    (reads : List ReadResult) :
    (handleClientInput env context index reads).1 ≠ Status.busy.code := by
  unfold handleClientInput
  dsimp only
  split
  · exact ok_ne_busy
  · exact ok_ne_busy
  · exact queueClientResponse_ne_busy _ _ _ _ _ _
  · split
    · exact queueClientResponse_ne_busy _ _ _ _ _ _
    · exact startRequest_ne_busy _ _ _ _

theorem handleClientOutput_result (context : Context) (index : Slot) (writes : List WriteResult) :
    (handleClientOutput context index writes).1 = Status.ok.code := by
  unfold handleClientOutput
  dsimp only
  split
  · rfl
  split
  · rfl
  split <;> rfl

theorem handleClientEvent_ne_busy (env : Env) (context : Context) (index : Slot)
    (event : ClientEvent) :
    (handleClientEvent env context index event).1 ≠ Status.busy.code := by
  have hinput : (event.afterInput env context index).1 ≠ Status.busy.code := by
    unfold ClientEvent.afterInput
    split
    · exact handleClientInput_ne_busy _ _ _ _
    · exact ok_ne_busy
  have houtput : (event.afterOutput env context index).1 ≠ Status.busy.code := by
    unfold ClientEvent.afterOutput
    dsimp only
    split
    · rw [handleClientOutput_result]
      exact ok_ne_busy
    · exact hinput
  unfold handleClientEvent
  split
  · exact ok_ne_busy
  · dsimp only
    split
    · exact houtput
    · exact houtput

/-! ## The loop -/

/-- Every event: it ends the loop with `DEVMGR_ERROR_BUSY` exactly if it overruns the
output. -/
theorem handleEvent_busy_iff (context : Context) (event : Event) :
    (∃ after, handleEvent context event = some (Status.busy.code, after)) ↔
      context.overruns event := by
  have hresult : ∀ handled : Int × Context,
      (∃ after, some handled = some (Status.busy.code, after)) ↔ handled.1 = Status.busy.code := by
    rintro ⟨result, after⟩
    simp
  have hnever : ∀ handled : Int × Context, handled.1 ≠ Status.busy.code →
      ((∃ after, some handled = some (Status.busy.code, after)) ↔ False) := by
    intro handled hne
    rw [hresult]
    exact ⟨hne, False.elim⟩
  cases event with
  | listener accepts => exact hnever _ (acceptClients_ne_busy accepts context)
  | signal => exact hnever _ ok_ne_busy
  | worker env =>
    show (∃ after, (workerReadEvent context.worker).map _ = _) ↔ False
    cases workerReadEvent context.worker with
    | none => simp
    | some worker =>
      refine hnever (observeWorkerResult env { context with worker := worker }) ?_
      rw [observeWorkerResult, recordChange_result]
      exact takeWorkerResult_ne_busy env _
  | timer env => exact (hresult _).trans (observeTimer_busy_iff env context)
  | transport env event =>
    exact (hresult _).trans (handleTransportEvent_busy_iff env context event)
  | client env index event =>
    refine hnever _ ?_
    rw [observeClientEvent, recordChange_result]
    exact handleClientEvent_ne_busy env context index event
  | workerThread file =>
    show (∃ after, (workerStep context.worker file).map _ = _) ↔ False
    cases workerStep context.worker file with
    | none => simp
    | some worker => exact hnever _ ok_ne_busy

/-- The next request of an upgrade is not queued behind unsent output. -/
theorem queueUpgradeRequest_unsent (env : Env) {context : Context} (h : context.unsent) :
    (queueUpgradeRequest env context).1 ≠ Status.ok.code := by
  intro hok
  have hfree := ((queueUpgradeRequest_spec env context).ok hok).1
  have hbuilt : (upgradeBuildRequest context.upgrade).isOk = true := by
    rcases hbuild : upgradeBuildRequest context.upgrade with error | built
    · rw [queueUpgradeRequest, hbuild] at hok
      obtain rfl := upgradeBuildRequest_error hbuild
      exact absurd hok (show Status.state.code ≠ Status.ok.code by decide)
    · rfl
  rw [(queueUpgradeRequest_busy_iff env context hfree).mpr ⟨h, hbuilt⟩] at hok
  exact ok_ne_busy hok.symm

/-- The owner of the pending request learns that it has failed: its upgrade is in `ERROR`, with the
timeout as its result, or its client gets the timeout. -/
def Context.Reports (before after : Context) : Prop :=
  (after.upgrade.state = .error ∧ after.upgradeResult = Status.timeout.code) ∨
    ∃ index, before.activeClient = some index ∧
      after.history.deliveries = before.history.deliveries ++
        [⟨before.history.owner, (before.clients index).connection⟩]

/-- Behind unsent output an upgrade cannot recover, and ends with the timeout. -/
theorem handleTimeout_unsent (env : Env) {context : Context} (h : context.unsent)
    (hupgrade : upgradeActive context.upgrade = true) :
    (handleTimeout env context).2.upgrade.state = .error ∧
      (handleTimeout env context).2.upgradeResult = Status.timeout.code := by
  have hfailed : (tryRecovery env context).1 ≠ Status.ok.code := by
    unfold tryRecovery
    dsimp only
    split
    · exact queueUpgradeRequest_unsent env h
    · rename_i hrecovery
      exact fun hcode => hrecovery (Status.code_eq_ok.mp hcode)
  unfold handleTimeout
  rw [if_pos hupgrade]
  dsimp only
  rw [if_neg hfailed]
  exact ⟨rfl, rfl⟩

/-- A tick behind unsent output that leaves the loop running: the pending request stays as it
is and is retried later, or its failure is reported. -/
theorem observeTimer_unsent (env : Env) {context : Context} (h : context.unsent)
    (hok : (observeTimer env context).1 = Status.ok.code) :
    (observeTimer env context).2.session = context.session ∨
      context.Reports (observeTimer env context).2 := by
  unfold observeTimer at hok ⊢
  obtain ⟨changes, hnoted⟩ := recordChange_eq context (.expiry context.pendingOwner)
    (handleTimer env context)
  rw [hnoted] at hok ⊢
  dsimp only at hok ⊢
  have hcase := handleTimer_cases env context
  generalize handleTimer env context = handled at hcase hok ⊢
  cases hcase with
  | idle => exact .inl rfl
  | retried result deadline retries stats output offset hactive hticked hqueued =>
    rw [(queueFrame_busy_iff env context _).mpr h] at hqueued
    exact absurd (hok.symm.trans hqueued) ok_ne_busy
  | recovered stats _ _ hupgrade =>
    have hexpired : (context.expired stats).unsent := h
    exact .inr (.inl (handleTimeout_unsent env hexpired hupgrade))
  | unclaimed => exact absurd hok (show Status.timeout.code ≠ Status.ok.code by decide)
  | answered index stats _ _ _ hclient =>
    have hsame := queueClientResponse_sameDevice env
      ((context.expired stats).delivered index (context.expired stats).session) index 0
      Status.timeout.code []
    refine .inr (.inr ⟨index, hclient, ?_⟩)
    rw [hsame.history]
    rfl

/-- Behind unsent output, an event does not end the loop with `DEVMGR_ERROR_BUSY` exactly if it
finds no retransmission due, and no frame of it asks for the next request of an upgrade; and a
tick that leaves the loop running leaves the pending request to be retried or reports its
failure. -/
theorem busy_ends_loop_iff {context : Context} (hunsent : context.unsent) (event : Event) :
    ((∀ after, handleEvent context event ≠ some (Status.busy.code, after)) ↔
      ¬ context.overruns event) ∧
    ∀ env after, event = .timer env → daemonStep context event = some after →
      after.session = context.session ∨ context.Reports after := by
  refine ⟨?_, ?_⟩
  · rw [← handleEvent_busy_iff, not_exists]
  · rintro env after rfl hstep
    have htimer : observeTimer env context = (Status.ok.code, after) :=
      Option.some.inj (handleEvent_of_daemonStep hstep)
    have hreported := observeTimer_unsent env hunsent (congrArg Prod.fst htimer)
    rw [htimer] at hreported
    exact hreported

/-- A write of four bytes, and then `EAGAIN`. -/
def lineStalls : Event :=
  .transport calmEnv ⟨true, [.wrote 3, .again], false, [], false⟩

/-- The transport brings a frame and takes no output. -/
def deviceAnswers (frame : Frame) : Event :=
  .transport calmEnv ⟨false, [], true, [.ofBytes (frameBytes frame)], false⟩

/-- The response to the first request of an upgrade. -/
def bootloaderReply : Frame := ⟨Msg.enterBootloader, Flag.response, 2, [], Nat.zero_le _⟩

/-- The handshake stalls on the line: a tick before its deadline leaves it alone. -/
theorem busy_ends_loop_iff_early :
    ∃ context, daemonSystem.runFrom handshakeContext [lineStalls] = some context ∧
      context.unsent ∧
      (∀ after, handleEvent context (.timer (calmAt 500)) ≠ some (Status.busy.code, after)) ∧
      ∃ after, daemonStep context (.timer (calmAt 500)) = some after ∧
        (after.session = context.session ∨ context.Reports after) := by
  have hrun : ((daemonSystem.runFrom handshakeContext [lineStalls]).map fun context =>
      (decide context.unsent, decide ((calmAt 500).now < context.session.pending.deadlineNs),
        (daemonStep context (.timer (calmAt 500))).isSome)) = some (true, true, true) := by
    decide +kernel
  obtain ⟨context, hcontext, hvalues⟩ := Option.map_eq_some_iff.mp hrun
  simp only [Prod.mk.injEq, decide_eq_true_eq] at hvalues
  obtain ⟨hunsent, hearly, hstep⟩ := hvalues
  obtain ⟨after, hafter⟩ := Option.isSome_iff_exists.mp hstep
  obtain ⟨hbusy, htick⟩ := busy_ends_loop_iff hunsent (.timer (calmAt 500))
  exact ⟨context, hcontext, hunsent, hbusy.mpr fun hdue => hdue.2.2.1 hearly, after, hafter,
    htick (calmAt 500) after rfl hafter⟩

/-- The handshake stalls on the line, and the tick at its deadline ends the loop; and so does
the response to the first copy of a request of an upgrade, while the second copy stalls. -/
theorem busy_ends_loop_stalled :
    (∃ context, daemonSystem.Reachable context ∧ context.unsent ∧
      (handleEvent context (.timer (calmAt 1000))).map Prod.fst = some Status.busy.code) ∧
    (∃ context, daemonSystem.Reachable context ∧ context.unsent ∧
      context.upgrade.state = .enterBootloader ∧
      (handleEvent context (deviceAnswers bootloaderReply)).map Prod.fst =
        some Status.busy.code) := by
  refine ⟨?_, ?_⟩
  · have hrun : ((daemonSystem.runFrom handshakeContext [lineStalls]).map fun context =>
        (decide context.unsent,
          (handleEvent context (.timer (calmAt 1000))).map Prod.fst)) =
        some (true, some Status.busy.code) := by
      decide +kernel
    obtain ⟨context, hcontext, hvalues⟩ := Option.map_eq_some_iff.mp hrun
    simp only [Prod.mk.injEq, decide_eq_true_eq] at hvalues
    exact ⟨context, System.Reachable.runFrom handshakeContext_init hcontext, hvalues⟩
  · have hrun : ((daemonSystem.runFrom handshakeContext
        (deviceSends handshakeReply :: upgradeEvents ++ validationEvents ++
          [transportFlushes, .timer (calmAt 2000), lineStalls])).map fun context =>
        (decide context.unsent, context.upgrade.state,
          (handleEvent context (deviceAnswers bootloaderReply)).map Prod.fst)) =
        some (true, .enterBootloader, some Status.busy.code) := by
      decide +kernel
    obtain ⟨context, hcontext, hvalues⟩ := Option.map_eq_some_iff.mp hrun
    simp only [Prod.mk.injEq, decide_eq_true_eq] at hvalues
    exact ⟨context, System.Reachable.runFrom handshakeContext_init hcontext, hvalues⟩

end Daemon
