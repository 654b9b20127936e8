import DeviceManager.Daemon.Timeout

/-!
# Whose events move an upgrade

An upgrade shares the session's one request slot with the requests of the clients.
`on_device_frame` and the timer branch attribute a response or a timeout to the
upgrade whenever one is active.  That is right as long as a request that is pending
during an upgrade was built for it.

`start_request` admits an upgrade when no client waits, and does not look at the
slot.  A client that has left does not wait, while its request is still pending.

* `UpgradeChange.Own`: a change of the upgrade state came from an event of the
  operation itself.
* `Context.acceptsUpgrade`: an event brings an `IPC_UPGRADE` that is accepted.
* `upgrade_changes_own`: where upgrades are accepted with a free slot only, every
  change is the operation's own.
* `late_response_fails_upgrade`: the late response to the request of a client that
  has left moves the next upgrade to `ERROR`.
-/

namespace Daemon

open Devmgr

/-- The change came from the worker's result for the operation, with no other
request in the slot, or from the response to, or the expiry of, a request that was
built for the operation. -/
def UpgradeChange.Own (change : UpgradeChange) : Prop :=
  change.cause = .workerResult change.operation none ∨
    change.cause = .response (some (.upgrade change.operation)) ∨
    change.cause = .expiry (some (.upgrade change.operation))

instance (change : UpgradeChange) : Decidable change.Own :=
  inferInstanceAs (Decidable (_ ∨ _ ∨ _))

/-- The `IPC_UPGRADE` request that an event completes. -/
def Context.upgradeRequested (context : Context) (event : Event) : Option UpgradeRequest :=
  (context.requested event).bind fun request =>
    if request.command = IpcCommand.upgrade then parseUpgradeRequest request else none

/-- The event brings an `IPC_UPGRADE`, and `start_request` accepts it. -/
def Context.acceptsUpgrade (context : Context) (event : Event) : Prop :=
  ∃ request ∈ context.upgradeRequested event, context.upgradeAllowed ∧
    (workerSubmitFirmware context.worker (operationAfter context.upgradeOperationId)
      request.path).1 = .ok

instance (context : Context) (event : Event) : Decidable (context.acceptsUpgrade event) :=
  inferInstanceAs (Decidable (∃ _ ∈ _, _))

/-- During an upgrade the slot holds requests of the upgrade only, none while the
image is validated, and the changes so far were the operations' own. -/
structure Context.UpgradeOwned (context : Context) : Prop where
  validating : context.upgrade.state = .validating → context.session.pending.active = false
  owner : upgradeActive context.upgrade = true → context.session.pending.active = true →
    context.history.owner = .upgrade context.upgradeOperationId
  changes : ∀ change ∈ context.history.changes, change.Own

/-! ## Steps that keep the attribution -/

/-- The slot and the upgrade stay. -/
theorem Context.UpgradeOwned.of_same {before after : Context} (h : before.UpgradeOwned)
    (hpending : after.session.pending.active = before.session.pending.active)
    (hupgrade : after.upgrade = before.upgrade)
    (hoperation : after.upgradeOperationId = before.upgradeOperationId)
    (howner : after.history.owner = before.history.owner)
    (hchanges : after.history.changes = before.history.changes) : after.UpgradeOwned := by
  refine ⟨?_, ?_, ?_⟩
  · rw [hupgrade, hpending]
    exact h.validating
  · rw [hupgrade, hpending, howner, hoperation]
    exact h.owner
  · rw [hchanges]
    exact h.changes

theorem Context.UpgradeOwned.sameDevice {before after : Context} (h : before.UpgradeOwned)
    (hsame : before.SameDevice after) : after.UpgradeOwned :=
  h.of_same (by rw [hsame.session]) hsame.upgrade hsame.operation (by rw [hsame.history])
    (by rw [hsame.history])

/-- The slot is free. -/
theorem Context.UpgradeOwned.of_free {before after : Context} (h : before.UpgradeOwned)
    (hfree : after.session.pending.active = false)
    (hchanges : after.history.changes = before.history.changes) : after.UpgradeOwned := by
  refine ⟨fun _ => hfree, ?_, ?_⟩
  · rw [hfree]
    intro _ hpending
    cases hpending
  · rw [hchanges]
    exact h.changes

/-- No upgrade is active. -/
theorem Context.UpgradeOwned.of_inactive {before after : Context} (h : before.UpgradeOwned)
    (hinactive : upgradeActive after.upgrade = false)
    (hchanges : after.history.changes = before.history.changes) : after.UpgradeOwned := by
  refine ⟨?_, ?_, ?_⟩
  · intro hstate
    rw [upgradeActive, hstate] at hinactive
    cases hinactive
  · rw [hinactive]
    intro hactive
    cases hactive
  · rw [hchanges]
    exact h.changes

/-- An upgrade moves on, from a free slot. -/
theorem Context.UpgradeOwned.upgradeStep {before middle after : Context} (h : before.UpgradeOwned)
    (hstep : middle.UpgradeStep after)
    (hmiddle : middle.history.changes = before.history.changes)
    (hfree : middle.session.pending.active = false) : after.UpgradeOwned := by
  have hpending : after.session.pending.active = true →
      after.history.owner = .upgrade after.upgradeOperationId ∧
        after.upgrade.state.requestType.isSome = true := by
    intro hactive
    rcases hstep.pending hactive with hupgrade | ⟨hold, _⟩
    · rw [hstep.operation]
      exact hupgrade
    · rw [hfree] at hold
      cases hold
  refine ⟨?_, fun _ hactive => (hpending hactive).1, ?_⟩
  · intro hstate
    by_contra hactive
    rw [Bool.not_eq_false] at hactive
    have hsome := (hpending hactive).2
    rw [hstate] at hsome
    cases hsome
  · rw [hstep.changes, hmiddle]
    exact h.changes

/-- A change is noted that is the operation's own. -/
theorem Context.UpgradeOwned.recordChange {handled : Int × Context}
    (h : handled.2.UpgradeOwned) {before : Context} {cause : ChangeCause}
    (hown : before.upgradeOperationId = handled.2.upgradeOperationId →
      before.upgrade.state ≠ handled.2.upgrade.state →
      UpgradeChange.Own ⟨before.upgradeOperationId, before.upgrade.state,
        handled.2.upgrade.state, cause⟩) :
    (before.recordChange cause handled).2.UpgradeOwned := by
  unfold Context.recordChange
  dsimp only
  split
  · rename_i hchanged
    refine ⟨h.validating, h.owner, ?_⟩
    intro change hmem
    rcases List.mem_append.mp hmem with hold | hnew
    · exact h.changes change hold
    · rw [List.mem_singleton.mp hnew]
      exact hown hchanged.1 hchanged.2
  · exact h

/-- There is no change to note. -/
theorem Context.UpgradeOwned.recordUnchanged {handled : Int × Context}
    (h : handled.2.UpgradeOwned) {before : Context} (cause : ChangeCause)
    (hupgrade : handled.2.upgrade = before.upgrade) :
    (before.recordChange cause handled).2.UpgradeOwned := by
  refine h.recordChange ?_
  intro _ hchanged
  rw [hupgrade] at hchanged
  exact absurd rfl hchanged

/-! ## The device side -/

theorem pendingOwner_of_active {context : Context}
    (h : context.session.pending.active = true) :
    context.pendingOwner = some context.history.owner :=
  if_pos h

theorem Context.UpgradeOwned.deviceFrame {context : Context} (h : context.UpgradeOwned)
    (env : Env) (frame : Frame) : (observeDeviceFrame env frame context).2.UpgradeOwned := by
  have hcase := onDeviceFrame_cases env frame context
  unfold observeDeviceFrame
  dsimp only
  generalize onDeviceFrame env frame context = handled at hcase ⊢
  cases hcase with
  | quiet stats telemetry count =>
    refine Context.UpgradeOwned.recordUnchanged ?_ _ rfl
    exact h.of_same rfl rfl rfl rfl rfl
  | handshake result session hanswers hstate hfree hready =>
    refine Context.UpgradeOwned.recordUnchanged ?_ _ rfl
    exact h.of_free hfree rfl
  | upgrade hanswers hstate hactive =>
    have hstep := onUpgradeResponse_step env { context with
      session := context.session.completed frame } context.session.pending.frame.type frame rfl
    refine (h.upgradeStep hstep rfl rfl).recordChange ?_
    intro _ _
    rw [sessionAcceptResponse_of_answers hanswers, if_pos rfl,
      pendingOwner_of_active hanswers.1, h.owner hactive hanswers.1]
    exact .inr (.inl rfl)
  | client index session status hanswers hstate hinactive hclient hfree =>
    have hsame := queueClientResponse_sameDevice env (context.delivered index session) index
      context.session.pending.frame.type status frame.payload
    have hdelivered : (context.delivered index session).UpgradeOwned := h.of_free hfree rfl
    exact (hdelivered.sameDevice hsame).recordUnchanged _ hsame.upgrade
  | orphan hanswers hstate hinactive hclient =>
    refine Context.UpgradeOwned.recordUnchanged ?_ _ rfl
    exact h.of_free rfl rfl

theorem Context.UpgradeOwned.workerResult {context : Context} (h : context.UpgradeOwned)
    (env : Env) : (observeWorkerResult env context).2.UpgradeOwned := by
  have hcase := takeWorkerResult_cases env context
  unfold observeWorkerResult
  generalize takeWorkerResult env context = handled at hcase ⊢
  -- The slot is free while the image is validated, so the cause names nobody.
  have hown : context.worker.result.jobId = context.upgradeOperationId →
      context.upgrade.state = .validating → ∀ after, UpgradeChange.Own
        ⟨context.upgradeOperationId, context.upgrade.state, after,
          .workerResult context.worker.result.jobId context.pendingOwner⟩ := by
    intro hjob hstate after
    have hnone : context.pendingOwner = none := by
      rw [Context.pendingOwner, h.validating hstate]
      rfl
    rw [hjob, hnone]
    exact .inl rfl
  cases hcase with
  | empty result hresult => exact Context.UpgradeOwned.recordUnchanged h _ rfl
  | stale worker hworker =>
    refine Context.UpgradeOwned.recordUnchanged ?_ _ rfl
    exact h.of_same rfl rfl rfl rfl rfl
  | begun worker image hworker hjob hstate =>
    have hstep := beginUpgrade_step env { context with worker := worker } image
    have hbegun := h.upgradeStep hstep rfl (h.validating hstate)
    exact Context.UpgradeOwned.recordChange hbegun fun _ _ => hown hjob hstate _
  | refused worker result hworker hjob hstate =>
    refine Context.UpgradeOwned.recordChange ?_ fun _ _ => hown hjob hstate _
    exact h.of_inactive rfl rfl

theorem Context.UpgradeOwned.timer {context : Context} (h : context.UpgradeOwned) (env : Env) :
    (observeTimer env context).2.UpgradeOwned := by
  have hcase := handleTimer_cases env context
  unfold observeTimer
  generalize handleTimer env context = handled at hcase ⊢
  cases hcase with
  | idle => exact Context.UpgradeOwned.recordUnchanged h _ rfl
  | retried =>
    refine Context.UpgradeOwned.recordUnchanged ?_ _ rfl
    exact h.of_same rfl rfl rfl rfl rfl
  | recovered stats hactive _ hupgrade =>
    obtain ⟨_, hstep⟩ := handleTimeout_upgrade env (context.expired stats) rfl hupgrade
    refine (h.upgradeStep hstep rfl rfl).recordChange ?_
    intro _ _
    rw [pendingOwner_of_active hactive, h.owner hupgrade hactive]
    exact .inr (.inr rfl)
  | unclaimed stats =>
    have hexpired : (context.expired stats).UpgradeOwned := h.of_free rfl rfl
    exact Context.UpgradeOwned.recordUnchanged hexpired _ rfl
  | answered index stats =>
    have hsame := queueClientResponse_sameDevice env
      ((context.expired stats).delivered index (context.expired stats).session) index 0
      Status.timeout.code []
    have hdelivered : ((context.expired stats).delivered index
        (context.expired stats).session).UpgradeOwned := h.of_free rfl rfl
    exact (hdelivered.sameDevice hsame).recordUnchanged _ hsame.upgrade

/-! ## The client side -/

theorem operationAfter_ne (operation : UInt32) : operationAfter operation ≠ operation := by
  unfold operationAfter
  split <;> grind

/-- The upgrade is the same, or it is another operation. -/
def Context.SameUpgrade (before after : Context) : Prop :=
  after.upgradeOperationId = before.upgradeOperationId → after.upgrade = before.upgrade

theorem Context.SameDevice.sameUpgrade {before after : Context} (h : before.SameDevice after) :
    before.SameUpgrade after :=
  fun _ => h.upgrade

/-- A client that is closed, or that reads or writes, leaves the upgrade alone. -/
theorem Context.UpgradeOwned.close {context : Context} (h : context.UpgradeOwned)
    (index : Slot) : (closeClient context index).UpgradeOwned :=
  h.of_same rfl rfl rfl rfl rfl

theorem Context.UpgradeOwned.admission {context : Context} (h : context.UpgradeOwned)
    (epoll : Bool) : (admitClient context epoll).UpgradeOwned := by
  obtain ⟨clients, activeClient, hadmitted⟩ := admitClient_eq context epoll
  rw [hadmitted]
  exact h.of_same rfl rfl rfl rfl rfl

/-- `start_request`: an accepted upgrade needs a free slot, and is another operation
than the last. -/
theorem Context.UpgradeOwned.start {env : Env} {context : Context} {index : Slot}
    {request : IpcRequest} {handled : Int × Context}
    (hcase : StartCase env context index request handled) (h : context.UpgradeOwned)
    (hfree : ∀ upgradeRequest, request.command = IpcCommand.upgrade →
      parseUpgradeRequest request = some upgradeRequest → context.upgradeAllowed →
      (workerSubmitFirmware context.worker (operationAfter context.upgradeOperationId)
        upgradeRequest.path).1 = .ok → context.session.pending.active = false) :
    handled.2.UpgradeOwned ∧ context.SameUpgrade handled.2 := by
  cases hcase with
  | answered status payload =>
    have hsame := queueClientResponse_sameDevice env context index request.command status payload
    exact ⟨h.sameDevice hsame, hsame.sameUpgrade⟩
  | upgraded upgradeRequest status worker payload hcommand hparse hallowed hsubmit =>
    have hstarted : Context.UpgradeOwned { context with
        upgradeOperationId := operationAfter context.upgradeOperationId
        pendingUpgradeVersion := upgradeRequest.version
        worker := worker
        upgradeResult := status.code
        upgrade := { context.upgrade with
          state := if status = .ok then .validating else .error } } := by
      by_cases hok : status = .ok
      · refine h.of_free ?_ rfl
        refine hfree upgradeRequest hcommand hparse hallowed ?_
        rw [hsubmit]
        exact hok
      · refine h.of_inactive ?_ rfl
        show upgradeActive { context.upgrade with
          state := if status = .ok then .validating else .error } = false
        rw [upgradeActive, if_neg hok]
        rfl
    have hsame := queueClientResponse_sameDevice env { context with
        upgradeOperationId := operationAfter context.upgradeOperationId
        pendingUpgradeVersion := upgradeRequest.version
        worker := worker
        upgradeResult := status.code
        upgrade := { context.upgrade with
          state := if status = .ok then .validating else .error } }
      index request.command status.code payload
    refine ⟨hstarted.sameDevice hsame, ?_⟩
    intro hoperation
    rw [hsame.operation] at hoperation
    exact absurd hoperation (operationAfter_ne _)
  | cancelled session output offset status hbegin hcancelled hsession hinactive hnone =>
    have hsame := queueClientResponse_sameDevice env
      { context.ownRequest session (.client (context.clients index).connection) with
        transportOutput := output
        transportOutputOffset := offset } index request.command status []
    have hinner : Context.UpgradeOwned
        { context.ownRequest session (.client (context.clients index).connection) with
          transportOutput := output
          transportOutputOffset := offset } := h.of_inactive hinactive rfl
    exact ⟨hinner.sameDevice hsame, fun _ => hsame.upgrade⟩
  | sent session output offset hbegin hpending hsession hstate hinactive hnone =>
    exact ⟨h.of_inactive hinactive rfl, fun _ => rfl⟩

theorem Context.UpgradeOwned.clientInput {context : Context} (h : context.UpgradeOwned)
    {index : Slot} {env : Env} {event : ClientEvent}
    (hopen : (context.clients index).isOpen = true) (hinput : event.input = true)
    (hfree : context.acceptsUpgrade (.client env index event) →
      context.session.pending.active = false) :
    (handleClientInput env context index event.reads).2.UpgradeOwned ∧
      context.SameUpgrade (handleClientInput env context index event.reads).2 := by
  have hset : (context.setClient index
      ((context.clients index).readLoop event.reads).1).UpgradeOwned :=
    h.sameDevice (.setClient _ _ _)
  unfold handleClientInput
  dsimp only
  split
  · exact ⟨hset, fun _ => rfl⟩
  · exact ⟨hset.close index, fun _ => rfl⟩
  · have hsame := queueClientResponse_sameDevice env (context.setClient index
      ((context.clients index).readLoop event.reads).1) index 0 Status.limit.code []
    exact ⟨hset.sameDevice hsame, fun _ => hsame.upgrade⟩
  · rename_i hcomplete
    split
    · rename_i error hdecode
      have hsame := queueClientResponse_sameDevice env (context.setClient index
        ((context.clients index).readLoop event.reads).1) index 0 error.code []
      exact ⟨hset.sameDevice hsame, fun _ => hsame.upgrade⟩
    · rename_i request hdecode
      have hnoted : ((context.setClient index
          ((context.clients index).readLoop event.reads).1).noteStart index).UpgradeOwned :=
        hset.of_same rfl rfl rfl rfl rfl
      have hrequested : ∀ upgradeRequest, request.command = IpcCommand.upgrade →
          parseUpgradeRequest request = some upgradeRequest →
          context.upgradeRequested (.client env index event) = some upgradeRequest := by
        intro upgradeRequest hcommand hparse
        unfold Context.upgradeRequested Context.requested
        dsimp only
        rw [if_pos ⟨hopen, hinput, hcomplete⟩, hdecode]
        show (if _ then _ else _) = _
        rw [if_pos hcommand]
        exact hparse
      obtain ⟨howned, hsame⟩ := Context.UpgradeOwned.start
        (startRequest_cases env (context.setClient index
          ((context.clients index).readLoop event.reads).1) index request) hnoted
        fun upgradeRequest hcommand hparse hallowed hsubmit =>
          hfree ⟨upgradeRequest, hrequested upgradeRequest hcommand hparse, hallowed, hsubmit⟩
      exact ⟨howned, fun hoperation => hsame hoperation⟩

/-- Output leaves everything but the client table alone, or closes the client. -/
theorem handleClientOutput_cases (context : Context) (index : Slot) (writes : List WriteResult) :
    ∃ client, (handleClientOutput context index writes).2 = context.setClient index client ∨
      (handleClientOutput context index writes).2 =
        closeClient (context.setClient index client) index := by
  refine ⟨((context.clients index).writeLoop writes).1, ?_⟩
  unfold handleClientOutput
  dsimp only
  split
  · exact .inr rfl
  split
  · exact .inl rfl
  split
  · exact .inr rfl
  · exact .inl rfl

theorem Context.UpgradeOwned.clientEvent {context : Context} (h : context.UpgradeOwned)
    {env : Env} {index : Slot} {event : ClientEvent}
    (hfree : context.acceptsUpgrade (.client env index event) →
      context.session.pending.active = false) :
    (observeClientEvent env context index event).2.UpgradeOwned := by
  -- What the event leaves is fit to be noted: a change of the upgrade is another
  -- operation.
  have hnote : ∀ handled : Int × Context, handled.2.UpgradeOwned →
      context.SameUpgrade handled.2 →
      (context.recordChange .other handled).2.UpgradeOwned := by
    intro handled howned hsame
    refine howned.recordChange ?_
    intro hoperation hchanged
    rw [hsame hoperation.symm] at hchanged
    exact absurd rfl hchanged
  unfold observeClientEvent handleClientEvent
  split
  · exact hnote _ h fun _ => rfl
  rename_i hopen
  rw [not_not] at hopen
  have hinput : (event.afterInput env context index).2.UpgradeOwned ∧
      context.SameUpgrade (event.afterInput env context index).2 := by
    unfold ClientEvent.afterInput
    split
    · rename_i hin
      exact h.clientInput hopen hin hfree
    · exact ⟨h, fun _ => rfl⟩
  have houtput : (event.afterOutput env context index).2.UpgradeOwned ∧
      context.SameUpgrade (event.afterOutput env context index).2 := by
    unfold ClientEvent.afterOutput
    dsimp only
    split
    · obtain ⟨client, hset | hclosed⟩ := handleClientOutput_cases
        (event.afterInput env context index).2 index event.writes
      · rw [hset]
        exact ⟨hinput.1.sameDevice (.setClient _ _ _), fun hoperation => hinput.2 hoperation⟩
      · rw [hclosed]
        exact ⟨(hinput.1.sameDevice (.setClient _ _ _)).close index,
          fun hoperation => hinput.2 hoperation⟩
    · exact hinput
  dsimp only
  split
  · exact hnote _ (houtput.1.close index) fun hoperation => houtput.2 hoperation
  · exact hnote _ houtput.1 houtput.2

/-! ## The loop -/

theorem owned_preserves : Preserves Context.UpgradeOwned where
  transport _ _ _ h := h.of_same rfl rfl rfl rfl rfl
  stopped h := h.of_same rfl rfl rfl rfl rfl
  worker _ h := h.of_same rfl rfl rfl rfl rfl
  opened _ h := h.of_same rfl rfl rfl rfl rfl
  admission epoll h := h.admission epoll
  frame env frame h := h.deviceFrame env frame
  completion env h := h.workerResult env
  timer env h := h.timer env

theorem owned_of_init {context : Context} (h : daemonSystem.init context) :
    context.UpgradeOwned := by
  obtain ⟨env, hstart⟩ := h
  obtain ⟨session, output, offset, _, _, rfl⟩ := startHandshake_eq hstart
  refine ⟨fun hstate => ?_, fun hactive => ?_, fun change hmem => ?_⟩
  · cases hstate
  · cases hactive
  · cases hmem

/-- In the runs in which an upgrade is accepted only while no request is pending,
every change of the upgrade state of an operation came from the worker's result for
its own job while nothing was pending, from a response to a request built for it, or
from the expiry of one; and a request that is pending during an upgrade was built
for it. -/
theorem upgrade_changes_own {context : Context}
    (h : daemonSystem.ReachableBy (fun before event =>
      before.acceptsUpgrade event → before.session.pending.active = false) context) :
    (∀ change ∈ context.history.changes, change.Own) ∧
    (upgradeActive context.upgrade = true → context.session.pending.active = true →
      context.history.owner = .upgrade context.upgradeOperationId) := by
  have howned : context.UpgradeOwned := by
    refine h.invariant (fun _ => owned_of_init) ?_
    intro before event after hinv hfree hstep
    refine owned_preserves.step ?_ hinv hstep
    rintro env index clientEvent rfl
    exact hinv.clientEvent hfree
  exact ⟨howned.changes, howned.owner⟩

/-- An `IPC_UPGRADE` for the path `f` and the version `1`. -/
def upgradeRequestBytes : List UInt8 :=
  [0x49, 0x50, ipcVersion, IpcCommand.upgrade, 4, 0, 0, 0, 0x66, 0, 0x31, 0]

/-- A client connects and asks for an upgrade. -/
def upgradeEvents : List Event :=
  [.listener [.accepted true], clientSends firstSlot upgradeRequestBytes]

/-- The worker opens an image of one byte, and the reactor takes the result. -/
def validationEvents : List Event :=
  [.workerThread .missing, .workerThread (.regular [0xAB]), .workerThread .missing,
    .worker calmEnv]

theorem upgrade_changes_own_begun :
    ∃ context, daemonSystem.runBy (fun before event =>
        before.acceptsUpgrade event → before.session.pending.active = false) handshakeContext
        (deviceSends handshakeReply :: upgradeEvents ++ validationEvents) = some context ∧
      context.history.changes =
        [⟨1, .validating, .enterBootloader, .workerResult 1 none⟩] ∧
      ∀ change ∈ context.history.changes, change.Own := by
  have hrun : ((daemonSystem.runBy (fun before event =>
      before.acceptsUpgrade event → before.session.pending.active = false) handshakeContext
      (deviceSends handshakeReply :: upgradeEvents ++ validationEvents)).map
        fun context => context.history.changes) =
      some [⟨1, .validating, .enterBootloader, .workerResult 1 none⟩] := by
    decide +kernel
  obtain ⟨context, hcontext, hchanges⟩ := Option.map_eq_some_iff.mp hrun
  have hreachable := System.ReachableBy.runBy (.init handshakeContext_init) hcontext
  exact ⟨context, hcontext, hchanges, (upgrade_changes_own hreachable).1⟩

/-- The response to the `PING` of the first client. -/
def pingReply : Frame := ⟨Msg.ping, Flag.response, 2, [], Nat.zero_le _⟩

/-- A client leaves before the response to its `PING`, another client's upgrade is
accepted, and the late response moves that upgrade to `ERROR`. -/
theorem late_response_fails_upgrade :
    ∃ context, daemonSystem.Reachable context ∧
      context.history.changes =
        [⟨1, .validating, .error, .response (some (.client 0))⟩] ∧
      context.upgrade.state = .error ∧
      ¬ ∀ change ∈ context.history.changes, change.Own := by
  have hrun : ((daemonSystem.runFrom handshakeContext
      (pingEvents ++ clientLeaves firstSlot :: upgradeEvents ++ [deviceSends pingReply])).map
        fun context => (context.history.changes, context.upgrade.state)) =
      some ([⟨1, .validating, .error, .response (some (.client 0))⟩], .error) := by
    decide +kernel
  obtain ⟨context, hcontext, hvalues⟩ := Option.map_eq_some_iff.mp hrun
  obtain ⟨hchanges, hstate⟩ := Prod.mk.inj hvalues
  refine ⟨context, ?_, hchanges, hstate, ?_⟩
  · exact System.Reachable.runFrom handshakeContext_init hcontext
  · rw [hchanges]
    decide

end Daemon
