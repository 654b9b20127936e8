import DeviceManager.Daemon.Output
import DeviceManager.Link.Lossy

/-!
# The loop of the daemon while an upgrade runs

`DeviceManager.Link.Link` lets the transport take the output of the host at once.  The loop of
the daemon writes it when the descriptor is ready, in pieces, and until it is written
`queue_frame` refuses the next frame.

* `Unhindered` compares a handler with the same handler on an empty buffer: if it succeeds, it
  leaves the same context, and the frame that it queued is all that is to be written.
* A tick may find the buffer occupied when it tries to recover.  Then the upgrade is
  `Abandoned`, where on an empty buffer it would go on.
* `daemonStep_undisturbed` is for the other events of the loop: clients, the listener, the worker
  and the signal do not touch an upgrade that is under way.
-/

namespace Link

open Devmgr

/-! ## The handlers with output to be written -/

/-- The host with these frames in its buffer, of which nothing is written. -/
def holding (host : Daemon.Context) (frames : List Frame) : Daemon.Context :=
  { host with transportOutput := frames.flatMap frameBytes, transportOutputOffset := 0 }

/-- A handler that succeeds does what it would do on an empty buffer, and puts its frame, if it
queues one, behind what was to be written. -/
def Unhindered (host : Daemon.Context) (handled free : Int × Daemon.Context) : Prop :=
  handled.1 = Status.ok.code → ∃ frames, frames.length ≤ 1 ∧
    free = (Status.ok.code, holding handled.2 frames) ∧
    handled.2.unwritten = host.unwritten ++ frames.flatMap frameBytes

theorem holding_single (host : Daemon.Context) (frame : Frame) :
    holding host [frame] =
      { host with transportOutput := frameBytes frame, transportOutputOffset := 0 } := by
  rw [holding, List.flatMap_singleton]

section Handlers

variable {host : Daemon.Context}

/-- Nothing is queued. -/
theorem Unhindered.idle (code : Int) {after : Daemon.Context}
    (h : after.unwritten = host.unwritten) :
    Unhindered host (code, after) (code, holding after []) := by
  intro hok
  refine ⟨[], Nat.zero_le _, ?_, ?_⟩
  · rw [show code = Status.ok.code from hok]
  · rw [h, List.flatMap_nil, List.append_nil]

theorem queueFrame_unhindered (env : Daemon.Env) (host : Daemon.Context) (frame : Frame) :
    Unhindered host (Daemon.queueFrame env host frame)
      (Daemon.queueFrame (hostEnv env.now) (holding host []) frame) := by
  intro hok
  have htaken : (Daemon.queueFrame env host frame).1 ≠ Status.busy.code := by
    rw [hok]
    exact Daemon.ok_ne_busy
  obtain ⟨hnone, hheld⟩ := Daemon.queueFrame_unwritten env host frame htaken
  obtain ⟨output, offset, hqueued⟩ := Daemon.queueFrame_eq env host frame
  refine ⟨[frame], Nat.le_refl _, ?_, ?_⟩
  · rw [queueFrame_ok env.now frame rfl, hqueued, holding_single]
    rfl
  · rw [hheld, hnone, List.nil_append, List.flatMap_singleton]

/-- The host with the request that it has begun. -/
def asking (host : Daemon.Context) (upgrade : Upgrade) (session : Session) : Daemon.Context :=
  Daemon.Context.ownRequest { host with upgrade := upgrade } session
    (.upgrade host.upgradeOperationId)

theorem queueUpgradeRequest_queued {env : Daemon.Env} {frame request : Frame} {upgrade : Upgrade}
    {session : Session} (hbuild : upgradeBuildRequest host.upgrade = .ok (frame, upgrade))
    (hbegin : sessionBeginRequest host.session frame.type frame.flags frame.payload
      Daemon.upgradePolicy env.now = .ok (request, session))
    (hok : (Daemon.queueFrame env (asking host upgrade session) request).1 = Status.ok.code) :
    Daemon.queueUpgradeRequest env host =
      Daemon.queueFrame env (asking host upgrade session) request := by
  unfold Daemon.queueUpgradeRequest
  rw [hbuild]
  dsimp only
  rw [hbegin]
  exact if_neg (not_not.mpr hok)

/-- The ways to succeed: the request is built, begun and queued. -/
theorem queueUpgradeRequest_succeeds {env : Daemon.Env}
    (hok : (Daemon.queueUpgradeRequest env host).1 = Status.ok.code) :
    ∃ frame request upgrade session,
      upgradeBuildRequest host.upgrade = .ok (frame, upgrade) ∧
      sessionBeginRequest host.session frame.type frame.flags frame.payload Daemon.upgradePolicy
        env.now = .ok (request, session) ∧
      (Daemon.queueFrame env (asking host upgrade session) request).1 = Status.ok.code := by
  unfold Daemon.queueUpgradeRequest at hok
  rcases hbuild : upgradeBuildRequest host.upgrade with error | ⟨frame, upgrade⟩
  · obtain rfl := upgradeBuildRequest_error hbuild
    rw [hbuild] at hok
    exact absurd hok (show Status.state.code ≠ Status.ok.code by decide)
  rw [hbuild] at hok
  dsimp only at hok
  rcases hbegin : sessionBeginRequest host.session frame.type frame.flags frame.payload
    Daemon.upgradePolicy env.now with error | ⟨request, session⟩
  · rw [hbegin] at hok
    exact absurd hok (sessionBeginRequest_failed hbegin)
  rw [hbegin] at hok
  refine ⟨frame, request, upgrade, session, rfl, hbegin, ?_⟩
  dsimp only at hok
  split at hok
  · rename_i hrefused
    exact absurd hok hrefused
  · exact hok

theorem queueUpgradeRequest_unhindered (env : Daemon.Env) (host : Daemon.Context) :
    Unhindered host (Daemon.queueUpgradeRequest env host)
      (Daemon.queueUpgradeRequest (hostEnv env.now) (holding host [])) := by
  intro hok
  obtain ⟨frame, request, upgrade, session, hbuild, hbegin, hqueued⟩ :=
    queueUpgradeRequest_succeeds hok
  obtain ⟨frames, hone, hfree, hheld⟩ :=
    queueFrame_unhindered env (asking host upgrade session) request hqueued
  have hdry : (Daemon.queueFrame (hostEnv env.now) (asking (holding host []) upgrade session)
      request).1 = Status.ok.code :=
    congrArg Prod.fst hfree
  rw [queueUpgradeRequest_queued hbuild hbegin hqueued,
    @queueUpgradeRequest_queued (holding host []) (hostEnv env.now) _ _ _ _ hbuild hbegin hdry]
  exact ⟨frames, hone, hfree, hheld⟩

theorem onUpgradeResponse_unhindered (env : Daemon.Env) (host : Daemon.Context)
    (requestType : UInt8) (frame : Frame) :
    Unhindered host (Daemon.onUpgradeResponse env host requestType frame)
      (Daemon.onUpgradeResponse (hostEnv env.now) (holding host []) requestType frame) := by
  unfold Daemon.onUpgradeResponse
  rw [show (holding host []).upgrade = host.upgrade from rfl]
  generalize upgradeAcceptResponse host.upgrade requestType frame = accepted
  dsimp only
  by_cases hcomplete : accepted.1 = .ok ∧ accepted.2.state = .complete
  · rw [if_pos hcomplete, if_pos hcomplete]
    exact .idle _ rfl
  rw [if_neg hcomplete, if_neg hcomplete]
  by_cases hrejected : accepted.1 ≠ .ok
  · rw [if_pos hrejected, if_pos hrejected]
    exact .idle _ rfl
  · rw [if_neg hrejected, if_neg hrejected]
    exact queueUpgradeRequest_unhindered env { host with upgrade := accepted.2 }

/-! ## Ticks -/

/-- The upgrade was given up after a timeout. -/
structure Abandoned (host : Daemon.Context) : Prop where
  state : host.upgrade.state = .error
  result : host.upgradeResult = Status.timeout.code
  free : host.session.pending.active = false

/-- After a timeout the upgrade recovers as on an empty buffer, or it is given up. -/
theorem handleTimeout_unhindered (env : Daemon.Env)
    (hactive : upgradeActive host.upgrade = true)
    (hfree : host.session.pending.active = false) :
    Unhindered host (Daemon.handleTimeout env host)
        (Daemon.handleTimeout (hostEnv env.now) (holding host [])) ∨
      Abandoned (Daemon.handleTimeout env host).2 := by
  have hheld : upgradeActive (holding host []).upgrade = true := hactive
  unfold Daemon.handleTimeout
  rw [if_pos hactive, if_pos hheld]
  dsimp only
  by_cases hrecovered : (Daemon.tryRecovery env host).1 = Status.ok.code
  · rw [if_pos hrecovered]
    left
    have hstatus : (upgradeBeginRecovery host.upgrade).1 = .ok := by
      by_contra hrefused
      rw [Daemon.tryRecovery, if_neg hrefused] at hrecovered
      exact hrefused (Status.code_eq_ok.mp hrecovered)
    have hwet : Daemon.tryRecovery env host = Daemon.queueUpgradeRequest env
        { host with upgrade := (upgradeBeginRecovery host.upgrade).2 } := if_pos hstatus
    have hdry : Daemon.tryRecovery (hostEnv env.now) (holding host []) =
        Daemon.queueUpgradeRequest (hostEnv env.now)
          (holding { host with upgrade := (upgradeBeginRecovery host.upgrade).2 } []) :=
      if_pos hstatus
    intro _
    obtain ⟨frames, hone, hqueued, hunwritten⟩ := queueUpgradeRequest_unhindered env
      { host with upgrade := (upgradeBeginRecovery host.upgrade).2 } (hwet ▸ hrecovered)
    rw [hdry, hqueued, if_pos rfl, hwet]
    exact ⟨frames, hone, rfl, hunwritten⟩
  · rw [if_neg hrecovered]
    right
    refine ⟨rfl, rfl, ?_⟩
    rw [show (sessionTransition (Daemon.tryRecovery env host).2.session .upgradeDone).2.pending =
      _ from (Daemon.sessionTransition_upgradeDone _).1]
    exact (Daemon.tryRecovery_step env host hfree).2 hrecovered

/-- The request in the slot is not due. -/
def waiting (session : Session) (now : UInt64) : Prop :=
  ¬ session.pending.active = true ∨ now < session.pending.deadlineNs

/-- The session after a retransmission. -/
def resending (session : Session) (now : UInt64) : Session :=
  let pending := session.pending
  { session with
    pending := { pending with
      frame := pending.frame.retried
      retriesDone := pending.retriesDone + 1
      deadlineNs := saturatingAdd now (millisecondsToNs
        (if pending.policy.retryIntervalMs = 0 then pending.policy.timeoutMs
         else pending.policy.retryIntervalMs)) }
    stats := { session.stats with retries := session.stats.retries + 1 } }

theorem handleTimer_waiting {env : Daemon.Env} (h : waiting host.session env.now) :
    Daemon.handleTimer env host = (Status.ok.code, host) := by
  unfold waiting at h
  unfold Daemon.handleTimer Daemon.tickSession sessionTick
  dsimp only
  rw [if_pos h]
  exact if_neg (show Status.ok.code ≠ Status.timeout.code by decide)

theorem handleTimer_expired {env : Daemon.Env} (hdue : ¬ waiting host.session env.now)
    (hretries : host.session.pending.retriesDone ≥ host.session.pending.policy.maxRetries) :
    Daemon.handleTimer env host = Daemon.handleTimeout env (host.expired
      { host.session.stats with timeouts := host.session.stats.timeouts + 1 }) := by
  unfold waiting at hdue
  unfold Daemon.handleTimer Daemon.tickSession sessionTick
  dsimp only
  rw [if_neg hdue, if_pos hretries]
  exact if_pos rfl

theorem handleTimer_resent {env : Daemon.Env} (hdue : ¬ waiting host.session env.now)
    (hretries : ¬ host.session.pending.retriesDone ≥ host.session.pending.policy.maxRetries) :
    Daemon.handleTimer env host =
      let queued := Daemon.queueFrame env host host.session.pending.frame.retried
      (queued.1, { queued.2 with
        session := if queued.1 = Status.ok.code then resending host.session env.now
          else { host.session with pending := { host.session.pending with
            frame := host.session.pending.frame.retried } } }) := by
  have hrunning : Status.ok.code ≠ Status.timeout.code := by decide
  have hresult := Daemon.queueFrame_result env host host.session.pending.frame.retried
  unfold waiting at hdue
  unfold Daemon.handleTimer Daemon.tickSession sessionTick
  dsimp only
  rw [if_neg hdue, if_neg hretries]
  generalize Daemon.queueFrame env host host.session.pending.frame.retried = queued at hresult ⊢
  by_cases hok : queued.1 = Status.ok.code
  · rw [if_neg (not_not.mpr hok)]
    dsimp only
    rw [if_neg hrunning, if_pos hok, hok]
    rfl
  · rw [if_pos hok]
    dsimp only
    rw [if_neg hresult, if_neg hok]

/-- The timer branch while an upgrade waits for an answer. -/
theorem handleTimer_unhindered (env : Daemon.Env)
    (hactive : upgradeActive host.upgrade = true) :
    Unhindered host (Daemon.handleTimer env host)
        (Daemon.handleTimer (hostEnv env.now) (holding host [])) ∨
      Abandoned (Daemon.handleTimer env host).2 := by
  by_cases hwaits : waiting host.session env.now
  · rw [handleTimer_waiting hwaits,
      @handleTimer_waiting (holding host []) (hostEnv env.now) hwaits]
    exact .inl (.idle _ rfl)
  by_cases hretries : host.session.pending.retriesDone ≥ host.session.pending.policy.maxRetries
  · rw [handleTimer_expired hwaits hretries,
      @handleTimer_expired (holding host []) (hostEnv env.now) hwaits hretries]
    exact @handleTimeout_unhindered (host.expired _) env hactive rfl
  left
  rw [handleTimer_resent hwaits hretries,
    @handleTimer_resent (holding host []) (hostEnv env.now) hwaits hretries]
  intro hsent
  obtain ⟨frames, hone, hfree, hheld⟩ :=
    queueFrame_unhindered env host host.session.pending.frame.retried hsent
  have hqueued : Daemon.queueFrame (hostEnv env.now) (holding host [])
      (holding host []).session.pending.frame.retried = _ := hfree
  dsimp only at hsent
  rw [hqueued]
  dsimp only
  rw [if_pos hsent, if_pos rfl]
  exact ⟨frames, hone, rfl, hheld⟩

theorem parser_queueUpgradeRequest (env : Daemon.Env) (host : Daemon.Context) :
    (Daemon.queueUpgradeRequest env host).2.parser = host.parser := by
  unfold Daemon.queueUpgradeRequest
  split
  · rfl
  dsimp only
  split
  · rfl
  rename_i request session _
  obtain ⟨output, offset, hqueued⟩ := Daemon.queueFrame_eq env (asking host _ session) request
  unfold asking at hqueued
  split
  · rw [hqueued]
    rfl
  · rw [hqueued]
    rfl

/-- The timer branch does not look at what arrives. -/
theorem parser_handleTimer (env : Daemon.Env) (host : Daemon.Context) :
    (Daemon.handleTimer env host).2.parser = host.parser := by
  by_cases hwaits : waiting host.session env.now
  · rw [handleTimer_waiting hwaits]
  by_cases hretries : host.session.pending.retriesDone ≥ host.session.pending.policy.maxRetries
  · rw [handleTimer_expired hwaits hretries]
    unfold Daemon.handleTimeout
    split
    · have hrecovery : ∀ context : Daemon.Context,
          (Daemon.tryRecovery env context).2.parser = context.parser := by
        intro context
        unfold Daemon.tryRecovery
        dsimp only
        split
        · rw [parser_queueUpgradeRequest]
        · rfl
      dsimp only
      split <;> exact hrecovery _
    · split
      · rename_i index _
        obtain ⟨bytes, _, hqueued⟩ := Daemon.queueClientResponse_eq env _ index 0
          Status.timeout.code []
        rw [hqueued]
        rfl
      · rfl
  · rw [handleTimer_resent hwaits hretries]
    obtain ⟨output, offset, hqueued⟩ := Daemon.queueFrame_eq env host
      host.session.pending.frame.retried
    dsimp only
    rw [hqueued]

/-- Without a request there is nothing to wait for. -/
theorem waiting_of_free {session : Session} (hfree : session.pending.active = false)
    (now : UInt64) : waiting session now := by
  left
  rw [hfree]
  exact Bool.false_ne_true

end Handlers

/-! ## The other events -/

/-- The upgrade, its request and the device buffer are what they were. -/
structure Undisturbed (before after : Daemon.Context) : Prop where
  session : after.session = before.session
  upgrade : after.upgrade = before.upgrade
  upgradeResult : after.upgradeResult = before.upgradeResult
  parser : after.parser = before.parser
  transportOutput : after.transportOutput = before.transportOutput
  transportOutputOffset : after.transportOutputOffset = before.transportOutputOffset

/-- An event that is neither the timer's nor the transport's. -/
def aside : Daemon.Event → Bool
  | .timer _ => false
  | .transport _ _ => false
  | _ => true

section Aside

variable {host : Daemon.Context}

theorem undisturbed_preservesTable (host : Daemon.Context) :
    Daemon.PreservesTable (Undisturbed host) where
  setClient _ _ h := ⟨h.session, h.upgrade, h.upgradeResult, h.parser, h.transportOutput,
    h.transportOutputOffset⟩
  close _ h := ⟨h.session, h.upgrade, h.upgradeResult, h.parser, h.transportOutput,
    h.transportOutputOffset⟩
  noted _ _ h := ⟨h.session, h.upgrade, h.upgradeResult, h.parser, h.transportOutput,
    h.transportOutputOffset⟩

/-- While an upgrade runs, a request of a client is answered at once. -/
theorem startRequest_undisturbed (hactive : upgradeActive host.upgrade = true) (env : Daemon.Env)
    (index : Daemon.Slot) (request : IpcRequest) (client : Daemon.Client) :
    Undisturbed host
      (Daemon.startRequest env (host.setClient index client) index request).2 := by
  have hcase := Daemon.startRequest_cases env (host.setClient index client) index request
  generalize Daemon.startRequest env (host.setClient index client) index request = handled
    at hcase ⊢
  cases hcase with
  | answered status payload =>
    have hnoted : Undisturbed host ((host.setClient index client).noteStart index) :=
      ⟨rfl, rfl, rfl, rfl, rfl, rfl⟩
    exact (undisturbed_preservesTable host).response env hnoted index _ _ _
  | upgraded _ _ _ _ _ _ hallowed =>
    exact absurd (hactive.symm.trans hallowed.2.2) (by decide)
  | cancelled _ _ _ _ _ _ _ hinactive => exact absurd (hactive.symm.trans hinactive) (by decide)
  | sent _ _ _ _ _ _ _ hinactive => exact absurd (hactive.symm.trans hinactive) (by decide)

/-- A result of the worker is not for an upgrade that has begun. -/
theorem observeWorkerResult_undisturbed (hbegun : host.upgrade.state ≠ .validating)
    (env : Daemon.Env) (worker : Worker)
    (hok : (Daemon.observeWorkerResult env { host with worker := worker }).1 = Status.ok.code) :
    Undisturbed host (Daemon.observeWorkerResult env { host with worker := worker }).2 := by
  unfold Daemon.observeWorkerResult at hok ⊢
  rw [Daemon.recordChange_result] at hok
  refine (undisturbed_preservesTable host).recordChange ?_ _ _
  have hcase := Daemon.takeWorkerResult_cases env { host with worker := worker }
  generalize Daemon.takeWorkerResult env { host with worker := worker } = handled at hcase hok ⊢
  cases hcase with
  | empty _ hresult => exact absurd hok hresult
  | stale => exact ⟨rfl, rfl, rfl, rfl, rfl, rfl⟩
  | begun _ _ _ _ hstate => exact absurd hstate hbegun
  | refused _ _ _ _ hstate => exact absurd hstate hbegun

theorem daemonStep_undisturbed {host' : Daemon.Context} {event : Daemon.Event}
    (haside : aside event = true) (hactive : upgradeActive host.upgrade = true)
    (hbegun : host.upgrade.state ≠ .validating)
    (hstep : Daemon.daemonStep host event = some host') : Undisturbed host host' := by
  have hsame : Undisturbed host host := ⟨rfl, rfl, rfl, rfl, rfl, rfl⟩
  have hhandled := Daemon.handleEvent_of_daemonStep hstep
  cases event with
  | listener accepts =>
    have haccepted := Option.some.inj hhandled
    have hkept : Undisturbed host (Daemon.acceptClients accepts host).2 := by
      refine Daemon.acceptClients_preserves ?_ accepts hsame
      intro context epoll hcontext
      obtain ⟨clients, activeClient, hadmitted⟩ := Daemon.admitClient_eq context epoll
      rw [hadmitted]
      exact ⟨hcontext.session, hcontext.upgrade, hcontext.upgradeResult, hcontext.parser,
        hcontext.transportOutput, hcontext.transportOutputOffset⟩
    rw [haccepted] at hkept
    exact hkept
  | signal =>
    obtain ⟨_, rfl⟩ := Prod.mk.inj (Option.some.inj hhandled)
    exact ⟨rfl, rfl, rfl, rfl, rfl, rfl⟩
  | worker env =>
    obtain ⟨worker, _, hobserved⟩ := Option.map_eq_some_iff.mp hhandled
    have hkept := observeWorkerResult_undisturbed hbegun env worker
    rw [hobserved] at hkept
    exact hkept rfl
  | timer env => cases haside
  | transport env event => cases haside
  | client env index clientEvent =>
    have hobserved := Option.some.inj hhandled
    have hkept := @Daemon.PreservesTable.event _ (undisturbed_preservesTable host) env host index
      clientEvent
      (fun request _ client => startRequest_undisturbed hactive env index request client) hsame
    rw [hobserved] at hkept
    exact hkept
  | workerThread file =>
    obtain ⟨worker, _, hadvanced⟩ := Option.map_eq_some_iff.mp hhandled
    obtain ⟨_, rfl⟩ := Prod.mk.inj hadvanced
    exact ⟨rfl, rfl, rfl, rfl, rfl, rfl⟩

end Aside

end Link
