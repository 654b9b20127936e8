import DeviceManager.Daemon.Routing

/-!
# When a timeout stops the daemon

The timer branch of the loop leaves `DEVMGR_ERROR_TIMEOUT` in `result` if a request
expires while no upgrade is active and `active_client` is negative.  The documents
say that the expiry of a request is returned to the associated client; the branch
forgets that the client may be gone.  `close_client` clears `active_client` and
leaves the request pending.

* `Context.Attended` says that a pending request has somebody who gets its outcome:
  the handshake, a client or an upgrade.
* `Context.abandons` is the one event that breaks it: a client is closed while it
  is waited for.
* `timeout_keeps_loop`: without such an event, no timeout after the handshake ends
  the loop.
* `timeout_after_departure`: with it, one does.
-/

namespace Daemon

open Devmgr

/-- The outcome of the pending request goes somewhere. -/
structure Context.Attended (context : Context) : Prop where
  pending : context.session.pending.active = true →
    context.session.state = .handshaking ∨ context.activeClient.isSome = true ∨
      context.upgrade.state.requestType.isSome = true
  upgrade : upgradeActive context.upgrade = true → context.session.state ≠ .handshaking

/-- The client that is waited for is closed: its stream has ended or its buffer is
full, or it hangs up, perhaps in the event that brought its request. -/
def Context.abandons (context : Context) : Event → Prop
  | .client env index event =>
    (event.input = true ∧ context.activeClient = some index ∧
      ((context.clients index).readLoop event.reads).2 = .closed) ∨
    (event.hangup = true ∧ (event.afterOutput env context index).2.activeClient = some index)
  | _ => False

instance (context : Context) (event : Event) : Decidable (context.abandons event) :=
  match event with
  | .client _ _ _ => inferInstanceAs (Decidable ((_ ∧ _ ∧ _) ∨ (_ ∧ _)))
  | .listener _ => isFalse id
  | .signal => isFalse id
  | .worker _ => isFalse id
  | .timer _ => isFalse id
  | .transport _ _ => isFalse id
  | .workerThread _ => isFalse id

/-! ## The device side -/

theorem upgradeActive_of_requestType {upgrade : Upgrade}
    (h : upgrade.state.requestType.isSome = true) : upgradeActive upgrade = true := by
  unfold upgradeActive
  cases hstate : upgrade.state
  all_goals
    rw [hstate] at h
    first | rfl | cases h

/-- The slot, the upgrade and the client that waits stay. -/
theorem Context.Attended.of_same {before after : Context} (h : before.Attended)
    (hpending : after.session.pending.active = before.session.pending.active)
    (hstate : after.session.state = before.session.state)
    (hupgrade : after.upgrade = before.upgrade)
    (hactive : after.activeClient = before.activeClient) : after.Attended := by
  refine ⟨?_, ?_⟩
  · rw [hpending, hstate, hupgrade, hactive]
    exact h.pending
  · rw [hstate, hupgrade]
    exact h.upgrade

/-- The slot is free and no upgrade is active. -/
theorem attended_of_free {context : Context} (hfree : context.session.pending.active = false)
    (hinactive : upgradeActive context.upgrade = false) : context.Attended := by
  refine ⟨?_, ?_⟩
  · rw [hfree]
    intro h
    cases h
  · rw [hinactive]
    intro h
    cases h

/-- An upgrade moves on, from a free slot. -/
theorem attended_of_upgradeStep {before after : Context} (hstep : before.UpgradeStep after)
    (hfree : before.session.pending.active = false)
    (hstate : before.session.state ≠ .handshaking) : after.Attended := by
  refine ⟨?_, fun _ hhandshaking => hstate (hstep.handshaking hhandshaking)⟩
  intro hpending
  rcases hstep.pending hpending with ⟨_, hsome⟩ | ⟨hold, _⟩
  · exact .inr (.inr hsome)
  · rw [hfree] at hold
    cases hold

/-- While an image is validated the slot is free. -/
theorem Context.Attended.free_of_validating {context : Context} (h : context.Attended)
    (hrouted : context.Routed) (hstate : context.upgrade.state = .validating) :
    context.session.pending.active = false := by
  have hactive : upgradeActive context.upgrade = true := by
    rw [upgradeActive, hstate]
    rfl
  by_contra hpending
  rw [Bool.not_eq_false] at hpending
  rcases h.pending hpending with hhandshaking | hclient | hrequest
  · exact h.upgrade hactive hhandshaking
  · rw [hrouted.inactive_of_upgrade hactive] at hclient
    cases hclient
  · rw [hstate] at hrequest
    cases hrequest

theorem Context.Attended.deviceFrame {context : Context} (h : context.Attended) (env : Env)
    (frame : Frame) : (onDeviceFrame env frame context).2.Attended := by
  have hcase := onDeviceFrame_cases env frame context
  generalize onDeviceFrame env frame context = handled at hcase ⊢
  cases hcase with
  | quiet stats telemetry count => exact h.of_same rfl rfl rfl rfl
  | handshake result session hanswers hstate hfree hready =>
    refine attended_of_free hfree ?_
    by_contra hactive
    rw [Bool.not_eq_false] at hactive
    exact h.upgrade hactive hstate
  | upgrade hanswers hstate hactive =>
    exact attended_of_upgradeStep (onUpgradeResponse_step env { context with
      session := context.session.completed frame } _ frame rfl) rfl hstate
  | client index session status hanswers hstate hinactive hclient hfree =>
    have hsame := queueClientResponse_sameDevice env (context.delivered index session) index
      context.session.pending.frame.type status frame.payload
    refine attended_of_free ?_ ?_
    · rw [hsame.session]
      exact hfree
    · rw [hsame.upgrade]
      exact hinactive
  | orphan hanswers hstate hinactive hclient => exact attended_of_free rfl hinactive

theorem Context.Attended.workerResult {context : Context} (h : context.Attended)
    (hrouted : context.Routed) (env : Env) : (takeWorkerResult env context).2.Attended := by
  have hcase := takeWorkerResult_cases env context
  generalize takeWorkerResult env context = handled at hcase ⊢
  cases hcase with
  | empty result hresult => exact h
  | stale worker hworker => exact h.of_same rfl rfl rfl rfl
  | begun worker image hworker hjob hstate =>
    have hstep := beginUpgrade_step env { context with worker := worker } image
    have hactive : upgradeActive context.upgrade = true := by
      rw [upgradeActive, hstate]
      rfl
    exact attended_of_upgradeStep hstep (h.free_of_validating hrouted hstate)
      (h.upgrade hactive)
  | refused worker result hworker hjob hstate =>
    exact attended_of_free (h.free_of_validating hrouted hstate) rfl

theorem Context.Attended.timer {context : Context} (h : context.Attended) (env : Env) :
    (handleTimer env context).2.Attended := by
  have hcase := handleTimer_cases env context
  generalize handleTimer env context = handled at hcase ⊢
  cases hcase with
  | idle => exact h
  | retried => exact h.of_same rfl rfl rfl rfl
  | recovered stats _ _ hupgrade =>
    obtain ⟨_, hstep⟩ := handleTimeout_upgrade env (context.expired stats) rfl hupgrade
    exact attended_of_upgradeStep hstep rfl (h.upgrade hupgrade)
  | unclaimed stats _ _ hupgrade => exact attended_of_free rfl hupgrade
  | answered index stats _ _ hupgrade =>
    have hsame := queueClientResponse_sameDevice env
      ((context.expired stats).delivered index (context.expired stats).session) index 0
      Status.timeout.code []
    refine attended_of_free ?_ ?_
    · rw [hsame.session]
      rfl
    · rw [hsame.upgrade]
      exact hupgrade

theorem Context.Attended.recordChange {handled : Int × Context} (h : handled.2.Attended)
    (before : Context) (cause : ChangeCause) :
    (before.recordChange cause handled).2.Attended := by
  obtain ⟨changes, hnoted⟩ := recordChange_eq before cause handled
  rw [hnoted]
  exact h.of_same rfl rfl rfl rfl

/-! ## The client side -/

/-- A client that nobody waits for is closed. -/
theorem Context.Attended.close {context : Context} (h : context.Attended) {index : Slot}
    (hidle : context.activeClient ≠ some index) : (closeClient context index).Attended :=
  h.of_same rfl rfl rfl (if_neg hidle)

theorem Context.Attended.admission {context : Context} (h : context.Attended)
    (hrouted : context.Routed) (epoll : Bool) : (admitClient context epoll).Attended := by
  unfold admitClient
  dsimp only
  split
  · exact h.of_same rfl rfl rfl rfl
  rename_i index hfree
  have hset : Context.Attended (Context.setClient { context with
      history := { context.history with
        nextConnection := context.history.nextConnection + 1 } } index
      (newClient context.history.nextConnection)) := h.of_same rfl rfl rfl rfl
  split
  · exact hset
  · refine hset.close ?_
    -- The slot was closed, and the one of `active_client` is open.
    intro hactive
    have hopen := (hrouted.active index hactive).isOpen
    have hclosed := List.find?_some hfree
    rw [hopen] at hclosed
    cases hclosed

/-- `start_request` leaves a request pending only for a client that waits. -/
theorem Context.Attended.start {env : Env} {context : Context} {index : Slot}
    {request : IpcRequest} {handled : Int × Context}
    (hcase : StartCase env context index request handled) (h : context.Attended) :
    handled.2.Attended := by
  cases hcase with
  | answered status payload =>
    have hsame := queueClientResponse_sameDevice env context index request.command status payload
    exact h.of_same (by rw [hsame.session]) (by rw [hsame.session]) hsame.upgrade
      hsame.activeClient
  | upgraded upgradeRequest status worker payload hcommand hparse hallowed hsubmit =>
    obtain ⟨hready, hnone, hinactive⟩ := hallowed
    have hfree : context.session.pending.active = false := by
      by_contra hpending
      rw [Bool.not_eq_false] at hpending
      rcases h.pending hpending with hhandshaking | hclient | hrequest
      · rw [hready] at hhandshaking
        cases hhandshaking
      · rw [hnone] at hclient
        cases hclient
      · rw [upgradeActive_of_requestType hrequest] at hinactive
        cases hinactive
    have hsame := queueClientResponse_sameDevice env { context with
      upgradeOperationId := operationAfter context.upgradeOperationId
      pendingUpgradeVersion := upgradeRequest.version
      worker := worker
      upgradeResult := status.code
      upgrade := { context.upgrade with
        state := if status = .ok then .validating else .error } }
      index request.command status.code payload
    refine ⟨?_, ?_⟩
    · rw [hsame.session]
      intro hpending
      rw [hfree] at hpending
      cases hpending
    · rw [hsame.session]
      intro _
      rw [hready]
      exact fun h => by cases h
  | cancelled session output offset status hfree hcancelled hsession hinactive hnone =>
    have hsame := queueClientResponse_sameDevice env
      { context.ownRequest session (.client (context.clients index).connection) with
        transportOutput := output
        transportOutputOffset := offset } index request.command status []
    refine attended_of_free ?_ ?_
    · rw [hsame.session]
      exact hcancelled
    · rw [hsame.upgrade]
      exact hinactive
  | sent session output offset hfree hpending hsession hstate hinactive hnone =>
    refine ⟨fun _ => .inr (.inl rfl), ?_⟩
    intro hactive
    exact absurd (hinactive.symm.trans hactive) Bool.false_ne_true

theorem Context.Attended.sameDevice {before after : Context} (h : before.Attended)
    (hsame : before.SameDevice after) : after.Attended :=
  h.of_same (by rw [hsame.session]) (by rw [hsame.session]) hsame.upgrade hsame.activeClient

theorem Context.Attended.clientInput {context : Context} (h : context.Attended) {index : Slot}
    (env : Env) {reads : List ReadResult}
    (hstays : context.activeClient = some index →
      ((context.clients index).readLoop reads).2 ≠ .closed) :
    (handleClientInput env context index reads).2.Attended := by
  have hset : (context.setClient index ((context.clients index).readLoop reads).1).Attended :=
    h.sameDevice (.setClient _ _ _)
  unfold handleClientInput
  dsimp only
  split
  · exact hset
  · rename_i hclosed
    refine hset.close ?_
    intro hactive
    exact hstays hactive hclosed
  · exact hset.sameDevice (queueClientResponse_sameDevice ..)
  · split
    · exact hset.sameDevice (queueClientResponse_sameDevice ..)
    · rename_i request hdecode
      refine Context.Attended.start (startRequest_cases env _ index request) ?_
      exact hset.of_same rfl rfl rfl rfl

/-- Nothing is written to a client that is waited for, so nothing closes it. -/
theorem Context.Attended.clientOutput {context : Context} (h : context.Attended)
    (hrouted : context.Routed) (index : Slot) (writes : List WriteResult) :
    (handleClientOutput context index writes).2.Attended := by
  have hset : ∀ client, (context.setClient index client).Attended := fun client =>
    h.sameDevice (.setClient _ _ _)
  by_cases hactive : context.activeClient = some index
  · have hserves := hrouted.active index hactive
    have hwrite : (context.clients index).writeLoop writes = (context.clients index, true) := by
      unfold Client.writeLoop
      rw [hserves.output_eq_nil]
      exact if_neg (Nat.not_lt_zero _)
    have hstays : ¬ (context.clients index).closeAfterWrite = true := fun hclosing =>
      hserves.unanswered (.inr hclosing)
    unfold handleClientOutput
    dsimp only
    rw [hwrite]
    dsimp only
    rw [if_neg (not_not.mpr rfl), hserves.output_eq_nil, List.length_nil,
      if_neg (Nat.not_lt_zero _), if_neg hstays]
    exact hset _
  · unfold handleClientOutput
    dsimp only
    split
    · exact (hset _).close hactive
    split
    · exact hset _
    split
    · exact (hset _).close hactive
    · exact hset _

theorem Context.Attended.clientEvent {context : Context} (h : context.Attended)
    (hrouted : context.Routed) {env : Env} {index : Slot} {event : ClientEvent}
    (hstays : ¬ context.abandons (.client env index event)) :
    (handleClientEvent env context index event).2.Attended := by
  obtain ⟨hreads, hhangup⟩ := not_or.mp hstays
  unfold handleClientEvent
  split
  · exact h
  rename_i hopen
  rw [not_not] at hopen
  have hinput : (event.afterInput env context index).2.Attended := by
    unfold ClientEvent.afterInput
    split
    · rename_i hin
      exact h.clientInput env fun hactive hclosed => hreads ⟨hin, hactive, hclosed⟩
    · exact h
  have houtput : (event.afterOutput env context index).2.Attended := by
    unfold ClientEvent.afterOutput
    dsimp only
    split
    · exact hinput.clientOutput (hrouted.afterInput hopen env event) index event.writes
    · exact hinput
  dsimp only
  split
  · rename_i hdone
    exact houtput.close fun hactive => hhangup ⟨hdone.2, hactive⟩
  · exact houtput

/-! ## The loop -/

theorem attended_preserves :
    Preserves fun context => context.Routed ∧ context.Attended where
  transport parser output offset h :=
    ⟨routed_preserves.transport parser output offset h.1, h.2.of_same rfl rfl rfl rfl⟩
  stopped h := ⟨routed_preserves.stopped h.1, h.2.of_same rfl rfl rfl rfl⟩
  worker worker h := ⟨routed_preserves.worker worker h.1, h.2.of_same rfl rfl rfl rfl⟩
  opened opened h := ⟨routed_preserves.opened opened h.1, h.2.of_same rfl rfl rfl rfl⟩
  admission epoll h := ⟨h.1.admission epoll, h.2.admission h.1 epoll⟩
  frame env frame h :=
    ⟨routed_preserves.frame env frame h.1, (h.2.deviceFrame env frame).recordChange _ _⟩
  completion env h :=
    ⟨routed_preserves.completion env h.1, (h.2.workerResult h.1 env).recordChange _ _⟩
  timer env h := ⟨routed_preserves.timer env h.1, (h.2.timer env).recordChange _ _⟩

theorem attended_of_init {context : Context} (h : daemonSystem.init context) :
    context.Attended := by
  obtain ⟨env, hstart⟩ := h
  obtain ⟨session, output, offset, _, hstate, rfl⟩ := startHandshake_eq hstart
  refine ⟨fun _ => .inl hstate, ?_⟩
  show upgradeActive upgradeInit = true → _
  intro hactive
  cases hactive

/-- Where no client was closed while it was waited for, every pending request is
attended. -/
theorem attended_of_reachable {context : Context}
    (h : daemonSystem.ReachableBy (fun before event => ¬ before.abandons event) context) :
    context.Routed ∧ context.Attended := by
  refine @System.ReachableBy.invariant _ _ _ _
    (fun context => context.Routed ∧ context.Attended)
    (fun _ hinit => ⟨routed_of_init hinit, attended_of_init hinit⟩) ?_ _ h
  intro before event after hinv hstays hstep
  refine attended_preserves.step ?_ hinv hstep
  rintro env index clientEvent rfl
  exact ⟨(hinv.1.clientEvent env index clientEvent).recordChange _ _,
    (hinv.2.clientEvent hinv.1 hstays).recordChange _ _⟩

/-- A timeout that somebody attends leaves `DEVMGR_OK`. -/
theorem Context.Attended.timer_ok {context : Context} (h : context.Attended) {env : Env}
    (hepoll : env.clientEpoll = true) (hstate : context.session.state ≠ .handshaking)
    (htimeout : (tickSession env context).1 = Status.timeout.code) :
    (handleTimer env context).1 = Status.ok.code := by
  have hcase := handleTimer_cases env context
  generalize handleTimer env context = handled at hcase ⊢
  cases hcase with
  | idle hticked => exact absurd htimeout hticked
  | retried _ _ _ _ _ _ _ hticked => exact absurd htimeout hticked
  | recovered stats _ _ hupgrade =>
    exact (handleTimeout_upgrade env (context.expired stats) rfl hupgrade).1
  | answered index stats =>
    obtain ⟨bytes, _, hqueued⟩ := queueClientResponse_eq env
      ((context.expired stats).delivered index (context.expired stats).session) index 0
      Status.timeout.code []
    rw [hqueued]
    exact if_pos hepoll
  | unclaimed stats hactive _ hupgrade hclient =>
    rcases h.pending hactive with hhandshaking | hsome | hrequest
    · exact absurd hhandshaking hstate
    · rw [hclient] at hsome
      cases hsome
    · rw [upgradeActive_of_requestType hrequest] at hupgrade
      cases hupgrade

/-- In the runs in which no client is closed while it is waited for, a timeout after
the handshake leaves the loop's result `DEVMGR_OK`, and changes no client's slot but
that of the client whose request expired. -/
theorem timeout_keeps_loop {context : Context}
    (h : daemonSystem.ReachableBy (fun before event => ¬ before.abandons event) context)
    (hstate : context.session.state = .ready ∨ context.session.state = .streaming ∨
      context.session.state = .upgrading)
    {env : Env} (hepoll : env.clientEpoll = true)
    (htimeout : (tickSession env context).1 = Status.timeout.code) :
    (handleTimer env context).1 = Status.ok.code ∧
      ∀ index, (handleTimer env context).2.clients index ≠ context.clients index →
        context.history.owner = .client (context.clients index).connection := by
  obtain ⟨hrouted, hattended⟩ := attended_of_reachable h
  refine ⟨hattended.timer_ok hepoll ?_ htimeout, ?_⟩
  · rcases hstate with hstate | hstate | hstate
    · rw [hstate]
      decide
    · rw [hstate]
      decide
    · rw [hstate]
      decide
  · intro index hchanged
    exact (hrouted.timeout_delivered hchanged).2

/-- The transport takes all output. -/
def transportFlushes : Event :=
  .transport calmEnv ⟨true, [.wrote maxFrame], false, [], false⟩

/-- The system calls succeed, at a time in milliseconds. -/
def calmAt (milliseconds : UInt64) : Env := ⟨milliseconds * 1000000, true, true⟩

/-- A `PING` is sent and sent again; its last retry is due at two seconds. -/
def retryEvents : List Event :=
  [transportFlushes, .timer (calmAt 1000), transportFlushes, .timer (calmAt 1500),
    transportFlushes]

theorem timeout_keeps_loop_ping :
    ∃ context, daemonSystem.runBy (fun before event => ¬ before.abandons event)
        handshakeContext (pingEvents ++ retryEvents) = some context ∧
      (handleTimer (calmAt 2000) context).1 = Status.ok.code := by
  have hrun : ((daemonSystem.runBy (fun before event => ¬ before.abandons event)
      handshakeContext (pingEvents ++ retryEvents)).map fun context =>
        (context.session.state, (tickSession (calmAt 2000) context).1)) =
      some (.ready, Status.timeout.code) := by
    decide +kernel
  obtain ⟨context, hcontext, hvalues⟩ := Option.map_eq_some_iff.mp hrun
  obtain ⟨hstate, htimeout⟩ := Prod.mk.inj hvalues
  have hreachable := System.ReachableBy.runBy (.init handshakeContext_init) hcontext
  exact ⟨context, hcontext,
    (timeout_keeps_loop hreachable (.inl hstate) rfl htimeout).1⟩

/-- A client hangs up. -/
def clientLeaves (index : Slot) : Event :=
  .client calmEnv index ⟨false, [], false, [], true⟩

/-- The client of the `PING` leaves before the response: the timeout ends the loop
of a daemon that is `READY`. -/
theorem timeout_after_departure :
    ∃ context, daemonSystem.Reachable context ∧ context.session.state = .ready ∧
      (tickSession (calmAt 2000) context).1 = Status.timeout.code ∧
      (handleTimer (calmAt 2000) context).1 = Status.timeout.code ∧
      daemonStep context (.timer (calmAt 2000)) = none := by
  have hrun : ((daemonSystem.runFrom handshakeContext
      (pingEvents ++ clientLeaves firstSlot :: retryEvents)).map fun context =>
        (context.session.state, (tickSession (calmAt 2000) context).1,
          (handleTimer (calmAt 2000) context).1,
          (daemonStep context (.timer (calmAt 2000))).isNone)) =
      some (.ready, Status.timeout.code, Status.timeout.code, true) := by
    decide +kernel
  obtain ⟨context, hcontext, hvalues⟩ := Option.map_eq_some_iff.mp hrun
  simp only [Prod.mk.injEq, Option.isNone_iff_eq_none] at hvalues
  exact ⟨context,
    System.Reachable.runFrom handshakeContext_init hcontext,
    hvalues⟩

end Daemon
