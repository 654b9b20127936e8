import DeviceManager.Upgrade.Safety
import DeviceManager.Daemon.Reactor

/-!
# What the handlers can do

The facts about the handlers on the device side that every invariant of the daemon
starts from, each said once:

* `queueClientResponse_eq`: a response is always encoded, so only the slot changes;
* `queueUpgradeRequest_spec`: the next request of an upgrade is in the slot, or the
  slot is free;
* `DeviceFrameCase`, `WorkerCase`, `TickCase` and `StartCase`: the ways through
  `on_device_frame`, the completion of a worker's job, the timer branch of the loop and
  the request of a client.

`SameClients` and `UpgradeStep` are the frame conditions.  A handler that moves an
upgrade leaves the clients alone, and a request that is pending behind it belongs
to the upgrade or was pending before.
-/

namespace Daemon

open Devmgr

/-- Nothing about the clients changes. -/
structure Context.SameClients (before after : Context) : Prop where
  clients : after.clients = before.clients
  activeClient : after.activeClient = before.activeClient
  nextConnection : after.history.nextConnection = before.history.nextConnection
  started : after.history.started = before.history.started
  deliveries : after.history.deliveries = before.history.deliveries

theorem Context.SameClients.refl (context : Context) : context.SameClients context :=
  ⟨rfl, rfl, rfl, rfl, rfl⟩

theorem Context.SameClients.trans {a b c : Context} (hab : a.SameClients b)
    (hbc : b.SameClients c) : a.SameClients c where
  clients := hbc.clients.trans hab.clients
  activeClient := hbc.activeClient.trans hab.activeClient
  nextConnection := hbc.nextConnection.trans hab.nextConnection
  started := hbc.started.trans hab.started
  deliveries := hbc.deliveries.trans hab.deliveries

theorem Context.SameClients.session (context : Context) (session : Session) :
    context.SameClients { context with session := session } :=
  ⟨rfl, rfl, rfl, rfl, rfl⟩

/-- To note a change leaves everything else alone. -/
theorem recordChange_eq (before : Context) (cause : ChangeCause) (handled : Int × Context) :
    ∃ changes, before.recordChange cause handled = (handled.1, { handled.2 with
      history := { handled.2.history with changes := changes } }) := by
  unfold Context.recordChange
  dsimp only
  split
  · exact ⟨_, rfl⟩
  · exact ⟨handled.2.history.changes, rfl⟩

theorem recordChange_result (before : Context) (cause : ChangeCause) (handled : Int × Context) :
    (before.recordChange cause handled).1 = handled.1 := by
  obtain ⟨changes, hnoted⟩ := recordChange_eq before cause handled
  rw [hnoted]

theorem recordChange_sameClients (before : Context) (cause : ChangeCause)
    (handled : Int × Context) :
    handled.2.SameClients (before.recordChange cause handled).2 := by
  obtain ⟨changes, hnoted⟩ := recordChange_eq before cause handled
  rw [hnoted]
  exact ⟨rfl, rfl, rfl, rfl, rfl⟩

/-! ## Responses and frames -/

/-- A response fits into the buffer of the client. -/
theorem queueClientResponse_bytes (env : Env) (context : Context) (index : Slot)
    (command : UInt8) (status : Int) (payload : List UInt8) :
    queueClientResponse env context index command status payload =
      (env.updateClientEvents, context.setClient index { context.clients index with
        output := ipcResponseBytes (clientResponse command status payload)
        outputOffset := 0
        closeAfterWrite := true }) := by
  rw [queueClientResponse,
    ipcEncodeResponse_eq _ (Nat.add_le_add_left (IpcResponse.payload_le _) _)]

/-- A response is always encoded and never empty. -/
theorem queueClientResponse_eq (env : Env) (context : Context) (index : Slot) (command : UInt8)
    (status : Int) (payload : List UInt8) :
    ∃ bytes, bytes ≠ [] ∧ queueClientResponse env context index command status payload =
      (env.updateClientEvents, context.setClient index { context.clients index with
        output := bytes
        outputOffset := 0
        closeAfterWrite := true }) :=
  ⟨_, ipcResponseBytes_ne_nil _, queueClientResponse_bytes env context index command status payload⟩

/-- Nothing but the client table changes. -/
structure Context.SameDevice (before after : Context) : Prop where
  session : after.session = before.session
  upgrade : after.upgrade = before.upgrade
  operation : after.upgradeOperationId = before.upgradeOperationId
  activeClient : after.activeClient = before.activeClient
  history : after.history = before.history

theorem Context.SameDevice.setClient (context : Context) (index : Slot) (client : Client) :
    context.SameDevice (context.setClient index client) :=
  ⟨rfl, rfl, rfl, rfl, rfl⟩

theorem queueClientResponse_sameDevice (env : Env) (context : Context) (index : Slot)
    (command : UInt8) (status : Int) (payload : List UInt8) :
    context.SameDevice (queueClientResponse env context index command status payload).2 := by
  obtain ⟨bytes, _, hqueued⟩ := queueClientResponse_eq env context index command status payload
  rw [hqueued]
  exact .setClient _ _ _

/-- The client in a slot is no longer waited for: it gets the response or the
timeout. -/
def Context.delivered (context : Context) (index : Slot) (session : Session) : Context :=
  { context with
    activeClient := none
    session := session
    history := { context.history with
      deliveries := context.history.deliveries ++
        [⟨context.history.owner, (context.clients index).connection⟩] } }

/-- To queue a frame changes the output of the transport only. -/
theorem queueFrame_eq (env : Env) (context : Context) (frame : Frame) :
    ∃ output offset, (queueFrame env context frame).2 =
      { context with transportOutput := output, transportOutputOffset := offset } := by
  unfold queueFrame
  split
  · exact ⟨_, _, rfl⟩
  · split
    · exact ⟨_, _, rfl⟩
    · exact ⟨_, _, rfl⟩

/-- So does a flush. -/
theorem flushTransport_eq (env : Env) (writes : List WriteResult) (context : Context) :
    ∃ output offset, (flushTransport env writes context).2 =
      { context with transportOutput := output, transportOutputOffset := offset } := by
  have hloop : ∃ output offset, (flushLoop writes context).2 =
      { context with transportOutput := output, transportOutputOffset := offset } := by
    fun_induction flushLoop writes context with
    | case4 context hmore more writes count ih => exact ih
    | _ => exact ⟨_, _, rfl⟩
  obtain ⟨output, offset, hflushed⟩ := hloop
  unfold flushTransport
  dsimp only
  rw [hflushed]
  split
  · exact ⟨_, _, rfl⟩
  split
  · exact ⟨_, _, rfl⟩
  · exact ⟨_, _, rfl⟩

/-! ## Upgrade requests -/

/-- A handler moved the upgrade, within its operation. -/
structure Context.UpgradeStep (before after : Context) : Prop where
  same : before.SameClients after
  operation : after.upgradeOperationId = before.upgradeOperationId
  changes : after.history.changes = before.history.changes
  pending : after.session.pending.active = true →
    (after.history.owner = .upgrade before.upgradeOperationId ∧
      after.upgrade.state.requestType.isSome = true) ∨
    (before.session.pending.active = true ∧ after.history.owner = before.history.owner)
  handshaking : after.session.state = .handshaking → before.session.state = .handshaking

/-- The slot is free, or holds the request that was built for the state of the
upgrade; nothing else of the upgrade or of the session changes. -/
structure Context.QueuesUpgrade (before : Context) (queued : Int × Context) : Prop where
  same : before.SameClients queued.2
  operation : queued.2.upgradeOperationId = before.upgradeOperationId
  changes : queued.2.history.changes = before.history.changes
  upgradeState : queued.2.upgrade.state = before.upgrade.state
  sessionState : queued.2.session.state = before.session.state
  firmware : queued.2.firmware = before.firmware
  imageData : queued.2.upgrade.imageData = before.upgrade.imageData
  worker : queued.2.worker = before.worker
  images : queued.2.history.opened = before.history.opened ∧
    queued.2.history.released = before.history.released
  ok : queued.1 = Status.ok.code → before.session.pending.active = false ∧
    queued.2.session.pending.active = true ∧
    queued.2.history.owner = .upgrade before.upgradeOperationId ∧
    before.upgrade.state.requestType.isSome = true
  built : queued.1 = Status.ok.code → ∃ frame upgrade,
    upgradeBuildRequest queued.2.upgrade = .ok (frame, upgrade) ∧
      queued.2.session.pending.frame.type = frame.type ∧
      queued.2.session.pending.frame.payload = frame.payload
  failed : queued.1 ≠ Status.ok.code → queued.2.session.pending.active = false

theorem queueUpgradeRequest_spec (env : Env) (context : Context) :
    context.QueuesUpgrade (queueUpgradeRequest env context) := by
  unfold queueUpgradeRequest
  split
  · rename_i error hbuild
    obtain rfl := upgradeBuildRequest_error hbuild
    have herror : Status.state.code ≠ Status.ok.code := by decide
    exact ⟨⟨rfl, rfl, rfl, rfl, rfl⟩, rfl, rfl, rfl, rfl, rfl, rfl, rfl, ⟨rfl, rfl⟩,
      fun h => absurd h herror, fun h => absurd h herror, fun _ => rfl⟩
  rename_i frame upgrade hbuild
  obtain ⟨htype, hsame, hstate, _⟩ := upgradeBuildRequest_eq_ok hbuild
  dsimp only
  split
  · rename_i error hbegin
    have herror := sessionBeginRequest_failed hbegin
    exact ⟨⟨rfl, rfl, rfl, rfl, rfl⟩, rfl, rfl, hstate, rfl, rfl, hsame.imageData, rfl,
      ⟨rfl, rfl⟩, fun h => absurd h herror, fun h => absurd h herror, fun _ => rfl⟩
  rename_i request session hbegin
  obtain ⟨hfree, hrequest, hpayload, _, hsession, _, hpending, hactive⟩ :=
    sessionBeginRequest_eq_ok hbegin
  have hsome : context.upgrade.state.requestType.isSome = true := by
    rw [htype]
    rfl
  obtain ⟨output, offset, hqueued⟩ := queueFrame_eq env
    (Context.ownRequest { context with upgrade := upgrade } session
      (.upgrade context.upgradeOperationId)) request
  split
  · rename_i hfailed
    rw [hqueued]
    exact ⟨⟨rfl, rfl, rfl, rfl, rfl⟩, rfl, rfl, hstate, hsession, rfl, hsame.imageData, rfl,
      ⟨rfl, rfl⟩, fun h => absurd h hfailed, fun h => absurd h hfailed, fun _ => rfl⟩
  · rename_i hok
    constructor
    all_goals try rw [hqueued]
    · exact ⟨rfl, rfl, rfl, rfl, rfl⟩
    · rfl
    · rfl
    · exact hstate
    · exact hsession
    · rfl
    · exact hsame.imageData
    · rfl
    · exact ⟨rfl, rfl⟩
    · exact fun _ => ⟨hfree, hactive, rfl, hsome⟩
    · intro _
      obtain ⟨again, hagain⟩ := upgradeBuildRequest_again hbuild
      refine ⟨frame, again, hagain, ?_⟩
      show session.pending.frame.type = _ ∧ session.pending.frame.payload = _
      rw [hpending]
      exact ⟨hrequest, hpayload⟩
    · exact fun h => absurd h hok

theorem Context.QueuesUpgrade.step {before : Context} {queued : Int × Context}
    (h : before.QueuesUpgrade queued) : before.UpgradeStep queued.2 where
  same := h.same
  operation := h.operation
  changes := h.changes
  pending := by
    intro hpending
    by_cases hok : queued.1 = Status.ok.code
    · obtain ⟨_, _, howner, hsome⟩ := h.ok hok
      rw [h.upgradeState]
      exact .inl ⟨howner, hsome⟩
    · rw [h.failed hok] at hpending
      cases hpending
  handshaking := by rw [h.sessionState]; exact id

theorem Context.UpgradeStep.refl (context : Context) : context.UpgradeStep context :=
  ⟨.refl _, rfl, rfl, fun h => .inr ⟨h, rfl⟩, id⟩

/-- The end of an upgrade does not touch the slot. -/
theorem sessionTransition_upgradeDone (session : Session) :
    (sessionTransition session .upgradeDone).2.pending = session.pending ∧
      ((sessionTransition session .upgradeDone).2.state = .handshaking →
        session.state = .handshaking) := by
  have hevent : ¬ (SessionEvent.upgradeDone = .transportLost ∨
      SessionEvent.upgradeDone = .fail) := by
    decide
  rw [sessionTransition, if_neg hevent]
  cases hstate : session.state
  all_goals
    simp only [transitionTarget, hstate]
    exact ⟨trivial, by simp⟩

/-- Without a pending request, whatever ends an upgrade is a step of it. -/
theorem upgradeStep_of_free {before after : Context} (hsame : before.SameClients after)
    (hoperation : after.upgradeOperationId = before.upgradeOperationId)
    (hchanges : after.history.changes = before.history.changes)
    (hfree : after.session.pending.active = false)
    (hhandshaking : after.session.state = .handshaking → before.session.state = .handshaking) :
    before.UpgradeStep after :=
  ⟨hsame, hoperation, hchanges, fun h => absurd (hfree.symm.trans h) Bool.false_ne_true,
    hhandshaking⟩

theorem onUpgradeResponse_step (env : Env) (context : Context) (requestType : UInt8)
    (frame : Frame) (hfree : context.session.pending.active = false) :
    context.UpgradeStep (onUpgradeResponse env context requestType frame).2 := by
  have hdone := sessionTransition_upgradeDone context.session
  have hfinished : (sessionTransition context.session .upgradeDone).2.pending.active = false := by
    rw [hdone.1]
    exact hfree
  unfold onUpgradeResponse
  dsimp only
  split
  · exact upgradeStep_of_free ⟨rfl, rfl, rfl, rfl, rfl⟩ rfl rfl hfinished hdone.2
  · split
    · exact upgradeStep_of_free ⟨rfl, rfl, rfl, rfl, rfl⟩ rfl rfl hfinished hdone.2
    · have hstep := (queueUpgradeRequest_spec env { context with
        upgrade := (upgradeAcceptResponse context.upgrade requestType frame).2 }).step
      have hsame : context.SameClients { context with
          upgrade := (upgradeAcceptResponse context.upgrade requestType frame).2 } :=
        ⟨rfl, rfl, rfl, rfl, rfl⟩
      exact ⟨hsame.trans hstep.same, hstep.operation, hstep.changes, hstep.pending,
        hstep.handshaking⟩

/-! ## Frames from the device -/

/-- The ways through `on_device_frame`: the frame is telemetry or is not taken, or
it completes the handshake, a request of the upgrade, the request of a client that
waits, or one whose client is gone. -/
inductive DeviceFrameCase (env : Env) (frame : Frame) (context : Context) :
    Int × Context → Prop
  | quiet (stats : SessionStats) (telemetry : List UInt8) (count : UInt64) :
      DeviceFrameCase env frame context
        (Status.ok.code, { context with
          session := { context.session with stats := stats }
          latestTelemetry := telemetry
          telemetryFrames := count })
  | handshake (result : Int) (session : Session) (hanswers : context.session.Answers frame)
      (hstate : context.session.state = .handshaking) (hfree : session.pending.active = false)
      (hready : result = Status.ok.code → session.state = .ready) :
      DeviceFrameCase env frame context (result, { context with session := session })
  | upgrade (hanswers : context.session.Answers frame)
      (hstate : context.session.state ≠ .handshaking)
      (hactive : upgradeActive context.upgrade = true) :
      DeviceFrameCase env frame context
        (onUpgradeResponse env { context with session := context.session.completed frame }
          context.session.pending.frame.type frame)
  | client (index : Slot) (session : Session) (status : Int)
      (hanswers : context.session.Answers frame)
      (hstate : context.session.state ≠ .handshaking)
      (hinactive : upgradeActive context.upgrade = false)
      (hclient : context.activeClient = some index) (hfree : session.pending.active = false)
      (hupgrading : session.state = .upgrading → context.session.state = .upgrading) :
      DeviceFrameCase env frame context
        (queueClientResponse env (context.delivered index session) index
          context.session.pending.frame.type status frame.payload)
  | orphan (hanswers : context.session.Answers frame)
      (hstate : context.session.state ≠ .handshaking)
      (hinactive : upgradeActive context.upgrade = false) (hclient : context.activeClient = none) :
      DeviceFrameCase env frame context
        (Status.ok.code, { context with session := context.session.completed frame })

/-- A transition does not fill the slot. -/
theorem sessionTransition_free {session : Session} (event : SessionEvent)
    (hfree : session.pending.active = false) :
    (sessionTransition session event).2.pending.active = false := by
  by_contra hactive
  rw [Bool.not_eq_false] at hactive
  rw [(sessionTransition_frame session event).2.2 hactive] at hfree
  cases hfree

/-- Telemetry does not lead to an upgrade. -/
theorem sessionTransition_not_upgrading {session : Session} {event : SessionEvent}
    (hevent : event = .startStream ∨ event = .stopStream)
    (h : (sessionTransition session event).2.state = .upgrading) : session.state = .upgrading := by
  rw [sessionTransition] at h
  rcases hevent with rfl | rfl
  all_goals
    rw [if_neg (by decide)] at h
    cases hstate : session.state <;> rw [hstate] at h <;> simp_all [transitionTarget]

theorem onDeviceFrame_cases (env : Env) (frame : Frame) (context : Context) :
    DeviceFrameCase env frame context (onDeviceFrame env frame context) := by
  unfold onDeviceFrame
  split
  · split
    · exact .quiet context.session.stats _ _
    · exact .quiet context.session.stats context.latestTelemetry context.telemetryFrames
  by_cases hok : (sessionAcceptResponse context.session frame).1 = .ok
  · have hanswers := sessionAcceptResponse_ok hok
    rw [sessionAcceptResponse_of_answers hanswers]
    dsimp only
    rw [if_neg (by simp)]
    split
    · rename_i hstate
      split
      · exact .handshake _ _ hanswers hstate rfl fun h => absurd h (by decide)
      · have htransition : sessionTransition (context.session.completed frame) .handshakeOk =
            (.ok, { context.session.completed frame with state := .ready }) := by
          rw [sessionTransition, if_neg (by decide), hstate]
          rfl
        rw [htransition]
        exact .handshake _ _ hanswers hstate rfl fun _ => rfl
    · rename_i hstate
      split
      · rename_i hactive
        exact .upgrade hanswers hstate hactive
      · rename_i hinactive
        rw [Bool.not_eq_true] at hinactive
        split
        · rename_i index hclient
          refine .client index _ _ hanswers hstate hinactive hclient ?_ ?_
          · split_ifs
            · exact sessionTransition_free _ rfl
            · exact sessionTransition_free _ rfl
            · rfl
          · split_ifs
            · exact sessionTransition_not_upgrading (.inl rfl)
            · exact sessionTransition_not_upgrading (.inr rfl)
            · exact id
        · rename_i hclient
          exact .orphan hanswers hstate hinactive hclient
  · dsimp only
    rw [if_pos hok, sessionAcceptResponse_rejected hok]
    exact .quiet _ context.latestTelemetry context.telemetryFrames

/-! ## The worker -/

/-- An upgrade is given up: its state is `ERROR`, and the slot stays as it is. -/
theorem Context.UpgradeStep.giveUp {before after : Context} (hstep : before.UpgradeStep after)
    (hpending : after.session.pending.active = true →
      before.session.pending.active = true ∧ after.history.owner = before.history.owner)
    (result : Int) {session : Session} (hslot : session.pending = after.session.pending)
    (hstate : session.state = .handshaking → after.session.state = .handshaking) :
    before.UpgradeStep { after.release after.firmware with
      upgradeResult := result
      upgrade := { after.upgrade with state := .error }
      firmware := none
      session := session } where
  same := hstep.same.trans ⟨rfl, rfl, rfl, rfl, rfl⟩
  operation := hstep.operation
  changes := hstep.changes
  pending := by
    intro hactive
    change session.pending.active = true at hactive
    rw [hslot] at hactive
    exact .inr (hpending hactive)
  handshaking := hstep.handshaking ∘ hstate

/-- Only a ready session starts an upgrade. -/
theorem sessionTransition_startUpgrade (session : Session) :
    (session.state = .ready ∧
      sessionTransition session .startUpgrade = (.ok, { session with state := .upgrading })) ∨
    sessionTransition session .startUpgrade = (.state, session) := by
  have hevent : ¬ (SessionEvent.startUpgrade = .transportLost ∨
      SessionEvent.startUpgrade = .fail) := by
    decide
  rw [sessionTransition, if_neg hevent]
  cases hstate : session.state
  case ready => exact .inl ⟨rfl, rfl⟩
  all_goals exact .inr rfl

/-- The session after a failed start of an upgrade. -/
theorem sessionAfterFailure_frame (session : Session) :
    (if session.state = .upgrading then (sessionTransition session .upgradeDone).2
      else session).pending = session.pending ∧
    ((if session.state = .upgrading then (sessionTransition session .upgradeDone).2
      else session).state = .handshaking → session.state = .handshaking) := by
  split
  · exact sessionTransition_upgradeDone session
  · exact ⟨rfl, id⟩

/-- The calls end with the first request of the upgrade in the slot, or leave no
request that was not there before. -/
theorem tryUpgrade_step (env : Env) (context : Context) (image : FirmwareImage) :
    context.UpgradeStep (tryUpgrade env context image).2 ∧
      ((tryUpgrade env context image).1 ≠ Status.ok.code →
        (tryUpgrade env context image).2.session.pending.active = true →
        context.session.pending.active = true ∧
          (tryUpgrade env context image).2.history.owner = context.history.owner) := by
  unfold tryUpgrade
  split
  · exact ⟨.refl _, fun _ h => ⟨h, rfl⟩⟩
  rename_i upgrade hstart
  rcases sessionTransition_startUpgrade context.session with ⟨hready, hupgrading⟩ | hrefused
  · rw [hupgrading]
    dsimp only
    rw [if_neg (not_not.mpr rfl)]
    have hspec := queueUpgradeRequest_spec env { context with
      upgrade := upgrade
      session := { context.session with state := .upgrading } }
    have hsame : context.SameClients { context with
        upgrade := upgrade
        session := { context.session with state := .upgrading } } :=
      ⟨rfl, rfl, rfl, rfl, rfl⟩
    refine ⟨⟨hsame.trans hspec.same, hspec.operation, hspec.changes, hspec.step.pending, ?_⟩, ?_⟩
    · rw [hspec.sessionState]
      intro h
      cases h
    · intro hfailed hactive
      rw [hspec.failed hfailed] at hactive
      cases hactive
  · rw [hrefused]
    exact ⟨⟨⟨rfl, rfl, rfl, rfl, rfl⟩, rfl, rfl, fun h => .inr ⟨h, rfl⟩, id⟩,
      fun _ h => ⟨h, rfl⟩⟩

theorem beginUpgrade_step (env : Env) (context : Context) (image : FirmwareImage) :
    context.UpgradeStep (beginUpgrade env context image) := by
  obtain ⟨htry, hfailed⟩ := tryUpgrade_step env { context with firmware := some image } image
  have hsame : context.SameClients { context with firmware := some image } :=
    ⟨rfl, rfl, rfl, rfl, rfl⟩
  have hstep : context.UpgradeStep
      (tryUpgrade env { context with firmware := some image } image).2 :=
    ⟨hsame.trans htry.same, htry.operation, htry.changes, htry.pending, htry.handshaking⟩
  unfold beginUpgrade
  dsimp only
  split
  · rename_i hresult
    obtain ⟨hslot, hstate⟩ := sessionAfterFailure_frame
      (tryUpgrade env { context with firmware := some image } image).2.session
    exact hstep.giveUp (hfailed hresult) _ hslot hstate
  · exact hstep

/-- The ways through `handle_worker_completion`: there is nothing to take, the
result is not for the operation, the image is taken, or it was refused. -/
inductive WorkerCase (env : Env) (context : Context) : Int × Context → Prop
  | empty (result : Int) (hresult : result ≠ Status.ok.code) :
      WorkerCase env context (result, context)
  | stale (worker : Worker)
      (hworker : workerTakeResult context.worker = .ok (context.worker.result, worker)) :
      WorkerCase env context
        (Status.ok.code,
          Context.release { context with worker := worker } context.worker.result.image)
  | begun (worker : Worker) (image : FirmwareImage)
      (hworker : workerTakeResult context.worker = .ok (context.worker.result, worker))
      (hjob : context.worker.result.jobId = context.upgradeOperationId)
      (hstate : context.upgrade.state = .validating)
      (himage : context.worker.result.image = some image) :
      WorkerCase env context
        (Status.ok.code, beginUpgrade env { context with worker := worker } image)
  | refused (worker : Worker) (result : Int)
      (hworker : workerTakeResult context.worker = .ok (context.worker.result, worker))
      (hjob : context.worker.result.jobId = context.upgradeOperationId)
      (hstate : context.upgrade.state = .validating)
      (hrefused : context.worker.result.status = .ok → context.worker.result.image = none) :
      WorkerCase env context
        (Status.ok.code, { context with
          worker := worker
          upgradeResult := result
          upgrade := { context.upgrade with state := .error } })

theorem takeWorkerResult_cases (env : Env) (context : Context) :
    WorkerCase env context (takeWorkerResult env context) := by
  unfold takeWorkerResult
  by_cases hpending : context.worker.resultPending = true
  · have htake : ∃ worker, workerTakeResult context.worker =
        .ok (context.worker.result, worker) := by
      rw [workerTakeResult, if_neg (not_not.mpr hpending)]
      exact ⟨_, rfl⟩
    obtain ⟨worker, htake⟩ := htake
    rw [htake]
    dsimp only
    split
    · exact .stale worker htake
    · rename_i hown
      obtain ⟨hjob, hstate⟩ := not_or.mp hown
      rw [not_not] at hjob hstate
      split
      · rename_i image _ himage
        exact .begun worker image htake hjob hstate himage
      · rename_i hother
        refine .refused worker _ htake hjob hstate ?_
        intro hok
        rcases himage : context.worker.result.image with _ | image
        · rfl
        · exact absurd himage (hother image hok)
  · have htake : workerTakeResult context.worker = .error .notFound := by
      rw [workerTakeResult, if_pos hpending]
    rw [htake]
    exact .empty _ (by decide)

/-! ## The timer -/

/-- A frame always fits, so the output of the transport refuses it or takes it
whole. -/
theorem queueFrame_result (env : Env) (context : Context) (frame : Frame) :
    (queueFrame env context frame).1 ≠ Status.timeout.code := by
  have hio : env.updateTransportEvents ≠ Status.timeout.code := by
    unfold Env.updateTransportEvents
    split <;> decide
  unfold queueFrame
  split
  · show Status.busy.code ≠ Status.timeout.code
    decide
  · rw [frameEncode_eq frame le_rfl]
    exact hio

/-- The context when the request in the slot is given up. -/
def Context.expired (context : Context) (stats : SessionStats) : Context :=
  { context with session := { context.session with
    pending := { context.session.pending with active := false }
    stats := stats } }

/-- The ways through `devmgr_session_tick` in the loop: nothing is due, the request
is sent again, or it is given up. -/
inductive TickCase (env : Env) (context : Context) : Int × Context → Prop
  | idle : TickCase env context (Status.ok.code, context)
  | retried (result : Int) (deadline : UInt64) (retries : UInt8) (stats : SessionStats)
      (output : List UInt8) (offset : Nat) (hactive : context.session.pending.active = true)
      (hresult : result ≠ Status.timeout.code)
      (hqueued : result = (queueFrame env context context.session.pending.frame.retried).1) :
      TickCase env context (result, { context with
        transportOutput := output
        transportOutputOffset := offset
        session := { context.session with
          pending := { context.session.pending with
            frame := context.session.pending.frame.retried
            deadlineNs := deadline
            retriesDone := retries }
          stats := stats } })
  | expired (stats : SessionStats) (hactive : context.session.pending.active = true) :
      TickCase env context (Status.timeout.code, context.expired stats)

theorem tickSession_cases (env : Env) (context : Context) :
    TickCase env context (tickSession env context) := by
  unfold tickSession
  rcases sessionTick_cases context.session env.now
    (fun frame context => queueFrame env context frame) context with
    hidle | ⟨hactive, stats, hexpired⟩ | ⟨hactive, deadline, retries, stats, hretried⟩
  · rw [hidle]
    exact .idle
  · rw [hexpired]
    exact .expired stats hactive
  · rw [hretried]
    dsimp only
    obtain ⟨output, offset, hqueued⟩ := queueFrame_eq env context
      context.session.pending.frame.retried
    rw [hqueued]
    exact .retried _ deadline retries stats output offset hactive (queueFrame_result env _ _) rfl

theorem tryRecovery_step (env : Env) (context : Context)
    (hfree : context.session.pending.active = false) :
    context.UpgradeStep (tryRecovery env context).2 ∧
      ((tryRecovery env context).1 ≠ Status.ok.code →
        (tryRecovery env context).2.session.pending.active = false) := by
  have hsame : context.SameClients { context with
      upgrade := (upgradeBeginRecovery context.upgrade).2 } :=
    ⟨rfl, rfl, rfl, rfl, rfl⟩
  unfold tryRecovery
  dsimp only
  split
  · have hspec := queueUpgradeRequest_spec env { context with
      upgrade := (upgradeBeginRecovery context.upgrade).2 }
    exact ⟨⟨hsame.trans hspec.same, hspec.operation, hspec.changes, hspec.step.pending,
      hspec.step.handshaking⟩, hspec.failed⟩
  · exact ⟨upgradeStep_of_free hsame rfl rfl hfree id, fun _ => hfree⟩

/-- A timeout of an upgrade asks the device where to resume, or gives the upgrade
up; the loop goes on. -/
theorem handleTimeout_upgrade (env : Env) (context : Context)
    (hfree : context.session.pending.active = false)
    (hupgrade : upgradeActive context.upgrade = true) :
    (handleTimeout env context).1 = Status.ok.code ∧
      context.UpgradeStep (handleTimeout env context).2 := by
  obtain ⟨hstep, hfailed⟩ := tryRecovery_step env context hfree
  unfold handleTimeout
  rw [if_pos hupgrade]
  dsimp only
  split
  · rename_i hok
    exact ⟨hok, hstep⟩
  · rename_i hresult
    obtain ⟨hslot, hstate⟩ := sessionTransition_upgradeDone (tryRecovery env context).2.session
    have hidle := hfailed hresult
    refine ⟨rfl, hstep.giveUp ?_ _ hslot hstate⟩
    rw [hidle]
    intro h
    cases h

/-- A timeout without an upgrade goes to the client that waits. -/
theorem handleTimeout_client (env : Env) (context : Context) {index : Slot}
    (hupgrade : upgradeActive context.upgrade = false)
    (hclient : context.activeClient = some index) :
    handleTimeout env context =
      queueClientResponse env (context.delivered index context.session) index 0
        Status.timeout.code [] := by
  rw [handleTimeout, if_neg (by rw [hupgrade]; exact Bool.false_ne_true), hclient]
  rfl

/-- Without such a client the timeout is the result of the loop. -/
theorem handleTimeout_none (env : Env) (context : Context)
    (hupgrade : upgradeActive context.upgrade = false) (hclient : context.activeClient = none) :
    handleTimeout env context = (Status.timeout.code, context) := by
  rw [handleTimeout, if_neg (by rw [hupgrade]; exact Bool.false_ne_true), hclient]

/-- The ways through a tick of the loop: nothing is due, the request is sent again, or
it is given up.  Then an active upgrade recovers, the client that waits gets the timeout,
or nobody does. -/
inductive TimerCase (env : Env) (context : Context) : Int × Context → Prop
  | idle (hticked : (tickSession env context).1 ≠ Status.timeout.code) :
      TimerCase env context (Status.ok.code, context)
  | retried (result : Int) (deadline : UInt64) (retries : UInt8) (stats : SessionStats)
      (output : List UInt8) (offset : Nat) (hactive : context.session.pending.active = true)
      (hticked : (tickSession env context).1 ≠ Status.timeout.code)
      (hqueued : result = (queueFrame env context context.session.pending.frame.retried).1) :
      TimerCase env context (result, { context with
        transportOutput := output
        transportOutputOffset := offset
        session := { context.session with
          pending := { context.session.pending with
            frame := context.session.pending.frame.retried
            deadlineNs := deadline
            retriesDone := retries }
          stats := stats } })
  | recovered (stats : SessionStats) (hactive : context.session.pending.active = true)
      (hticked : tickSession env context = (Status.timeout.code, context.expired stats))
      (hupgrade : upgradeActive context.upgrade = true) :
      TimerCase env context (handleTimeout env (context.expired stats))
  | answered (index : Slot) (stats : SessionStats)
      (hactive : context.session.pending.active = true)
      (hticked : tickSession env context = (Status.timeout.code, context.expired stats))
      (hupgrade : upgradeActive context.upgrade = false)
      (hclient : context.activeClient = some index) :
      TimerCase env context
        (queueClientResponse env
          ((context.expired stats).delivered index (context.expired stats).session) index 0
          Status.timeout.code [])
  | unclaimed (stats : SessionStats) (hactive : context.session.pending.active = true)
      (hticked : tickSession env context = (Status.timeout.code, context.expired stats))
      (hupgrade : upgradeActive context.upgrade = false)
      (hclient : context.activeClient = none) :
      TimerCase env context (Status.timeout.code, context.expired stats)

theorem handleTimer_cases (env : Env) (context : Context) :
    TimerCase env context (handleTimer env context) := by
  have hcase := tickSession_cases env context
  unfold handleTimer
  generalize hticked : tickSession env context = ticked at hcase ⊢
  cases hcase with
  | idle =>
    have hresult : Status.ok.code ≠ Status.timeout.code := by decide
    dsimp only
    rw [if_neg hresult]
    refine .idle ?_
    rw [hticked]
    exact hresult
  | retried result deadline retries stats output offset hactive hresult hqueued =>
    dsimp only
    rw [if_neg hresult]
    refine .retried result deadline retries stats output offset hactive ?_ hqueued
    rw [hticked]
    exact hresult
  | expired stats hactive =>
    dsimp only
    rw [if_pos rfl]
    cases hupgrade : upgradeActive context.upgrade with
    | true => exact .recovered stats hactive hticked hupgrade
    | false =>
      cases hclient : context.activeClient with
      | some index =>
        rw [handleTimeout_client env (context.expired stats) hupgrade hclient]
        exact .answered index stats hactive hticked hupgrade hclient
      | none =>
        rw [handleTimeout_none env (context.expired stats) hupgrade hclient]
        exact .unclaimed stats hactive hticked hupgrade hclient

/-! ## Requests of clients -/

/-- A request is started for the connection in a slot. -/
def Context.noteStart (context : Context) (index : Slot) : Context :=
  { context with history := { context.history with
    started := context.history.started ++ [(context.clients index).connection] } }

/-- The ways through `start_request`: the client gets its answer at once, the
request is an upgrade that goes to the worker, or it is one for the device, which
is sent, or cancelled because the transport does not take it. -/
inductive StartCase (env : Env) (context : Context) (index : Slot) (request : IpcRequest) :
    Int × Context → Prop
  | answered (status : Int) (payload : List UInt8) :
      StartCase env context index request
        (queueClientResponse env context index request.command status payload)
  | upgraded (upgradeRequest : UpgradeRequest) (status : Status) (worker : Worker)
      (payload : List UInt8) (hcommand : request.command = IpcCommand.upgrade)
      (hparse : parseUpgradeRequest request = some upgradeRequest)
      (hallowed : context.upgradeAllowed)
      (hsubmit : workerSubmitFirmware context.worker (operationAfter context.upgradeOperationId)
        upgradeRequest.path = (status, worker)) :
      StartCase env context index request
        (queueClientResponse env
          { context with
            upgradeOperationId := operationAfter context.upgradeOperationId
            pendingUpgradeVersion := upgradeRequest.version
            worker := worker
            upgradeResult := status.code
            upgrade := { context.upgrade with
              state := if status = .ok then .validating else .error } }
          index request.command status.code payload)
  | cancelled (session : Session) (output : List UInt8) (offset : Nat) (status : Int)
      (hfree : context.session.pending.active = false)
      (hcancelled : session.pending.active = false)
      (hsession : session.state = context.session.state)
      (hinactive : upgradeActive context.upgrade = false)
      (hidle : context.activeClient = none) :
      StartCase env context index request
        (queueClientResponse env
          { context.ownRequest session (.client (context.clients index).connection) with
            transportOutput := output
            transportOutputOffset := offset }
          index request.command status [])
  | sent (session : Session) (output : List UInt8) (offset : Nat)
      (hfree : context.session.pending.active = false)
      (hpending : session.pending.active = true)
      (hsession : session.state = context.session.state)
      (hstate : context.session.state = .ready ∨ context.session.state = .streaming)
      (hinactive : upgradeActive context.upgrade = false)
      (hidle : context.activeClient = none) :
      StartCase env context index request
        (Status.ok.code,
          { context.ownRequest session (.client (context.clients index).connection) with
            transportOutput := output
            transportOutputOffset := offset
            activeClient := some index })

theorem startUpgrade_cases (env : Env) (context : Context) (index : Slot) {request : IpcRequest}
    (hcommand : request.command = IpcCommand.upgrade) :
    StartCase env context index request (startUpgrade env context index request) := by
  unfold startUpgrade
  split
  · exact .answered _ _
  rename_i upgradeRequest hparse
  dsimp only
  split
  · exact .answered _ _
  rename_i hallowed
  rw [not_not] at hallowed
  rcases hsubmit : workerSubmitFirmware context.worker
    (operationAfter context.upgradeOperationId) upgradeRequest.path with ⟨status, worker⟩
  have hcase : ∀ payload, StartCase env context index request _ := fun payload =>
    .upgraded upgradeRequest status worker payload hcommand hparse hallowed hsubmit
  split
  · rename_i herror
    rw [if_neg herror] at hcase
    exact hcase []
  · rename_i hok
    obtain rfl : status = .ok := not_not.mp hok
    rw [if_pos rfl] at hcase
    exact hcase _

theorem startDeviceRequest_cases (env : Env) (context : Context) (index : Slot)
    (request : IpcRequest) :
    StartCase env context index request (startDeviceRequest env context index request) := by
  unfold startDeviceRequest
  split
  · exact .answered _ _
  rename_i hinactive
  rw [Bool.not_eq_true] at hinactive
  split
  · exact .answered _ _
  split
  · exact .answered _ _
  split
  · exact .answered _ _
  rename_i hstate
  have hstate : context.session.state = .ready ∨ context.session.state = .streaming := by
    rw [not_and_or, not_not, not_not] at hstate
    exact hstate
  split
  · exact .answered _ _
  rename_i hidle
  rw [Option.not_isSome_iff_eq_none] at hidle
  split
  · exact .answered _ _
  rename_i frame session hbegin
  obtain ⟨hfree, _, _, _, hsession, _, _, hactive⟩ := sessionBeginRequest_eq_ok hbegin
  dsimp only
  obtain ⟨output, offset, hqueued⟩ := queueFrame_eq env
    (context.ownRequest session (.client (context.clients index).connection)) frame
  rw [hqueued]
  split
  · exact .cancelled (sessionCancelRequest session) output offset _ hfree rfl hsession hinactive
      hidle
  · exact .sent session output offset hfree hactive hsession hstate hinactive hidle

theorem startRequest_cases (env : Env) (context : Context) (index : Slot)
    (request : IpcRequest) :
    StartCase env (context.noteStart index) index request
      (startRequest env context index request) := by
  unfold startRequest
  dsimp only
  split
  · unfold startGetTelemetry
    split
    · exact .answered _ _
    · exact .answered _ _
  split
  · unfold startUpgradeStatus
    split
    · exact .answered _ _
    · exact .answered _ _
  split
  · rename_i hcommand
    exact startUpgrade_cases env (context.noteStart index) index hcommand
  · exact startDeviceRequest_cases env (context.noteStart index) index request

end Daemon
