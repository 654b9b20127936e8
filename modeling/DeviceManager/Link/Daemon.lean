import DeviceManager.Daemon.Handlers
import DeviceManager.Link.Host

/-!
# The daemon's handlers on the link

`HostMove` says what an event of the host can do to the link while an upgrade runs:

* `kept`: the request of the host stays what it was;
* `resent`: a further copy of it is transmitted;
* `begun`: the host goes on, and transmits the request of another phase;
* `ended`: the upgrade is complete, or was given up after a timeout.

`deliver_moves` is this for `on_device_frame`, `tick_moves` for the timer branch of the
loop.  In each case the handler returns `DEVMGR_OK`, so that the loop goes on.
-/

namespace Link

open Devmgr

/-! ## The transport -/

section Transmit

variable {link : State} {host : Daemon.Context}

theorem transmit_idle (houtput : host.transportOutput = []) :
    link.transmit host = { link with
      host := { host with transportOutput := [], transportOutputOffset := 0 } } := by
  unfold State.transmit
  rw [houtput, List.drop_nil]
  rfl

theorem transmit_frame {frame : Frame} (houtput : host.transportOutput = frameBytes frame)
    (hoffset : host.transportOutputOffset = 0) :
    link.transmit host = { link with
      host := { host with transportOutput := [], transportOutputOffset := 0 }
      toDevice := link.toDevice ++ [frame] } := by
  unfold State.transmit
  dsimp only
  rw [houtput, hoffset, List.drop_zero, frameDecode_frameBytes]

theorem proceed_ok (host : Daemon.Context) :
    link.proceed (Status.ok.code, host) = some (link.transmit host) :=
  if_pos rfl

/-- Without back-pressure a frame is queued. -/
theorem queueFrame_ok (now : UInt64) (frame : Frame) (houtput : host.transportOutput = []) :
    Daemon.queueFrame (hostEnv now) host frame = (Status.ok.code, { host with
      transportOutput := frameBytes frame
      transportOutputOffset := 0 }) := by
  have hempty : ¬ host.transportOutputOffset < host.transportOutput.length := by
    rw [houtput]
    exact Nat.not_lt_zero _
  unfold Daemon.queueFrame
  rw [if_neg hempty, frameEncode_eq frame le_rfl]
  rfl

end Transmit

/-- The host has begun a request that it built. -/
structure Begins (before : Daemon.Context) (built : Frame × Upgrade) (request : Frame)
    (after : Daemon.Context) : Prop where
  upgrade : after.upgrade = built.2
  type : request.type = built.1.type
  payload : request.payload = built.1.payload
  sequence : request.sequence = before.session.nextSequence
  state : after.session.state = before.session.state
  nextSequence : after.session.nextSequence = sequenceAfter before.session.nextSequence
  frame : after.session.pending.frame = request
  active : after.session.pending.active = true

theorem queueUpgradeRequest_begins {host : Daemon.Context} {built : Frame × Upgrade}
    (now : UInt64) (hbuild : upgradeBuildRequest host.upgrade = .ok built)
    (hfree : host.session.pending.active = false) (houtput : host.transportOutput = []) :
    ∃ request after, Daemon.queueUpgradeRequest (hostEnv now) host = (Status.ok.code, after) ∧
      after.transportOutput = frameBytes request ∧ after.transportOutputOffset = 0 ∧
      Begins host built request after := by
  obtain ⟨frame, upgrade⟩ := built
  have htimeout : Daemon.upgradePolicy.timeoutMs ≠ 0 := by decide
  obtain ⟨request, session, hbegin⟩ := sessionBeginRequest_isOk frame.type frame.flags now
    frame.payload_le htimeout hfree
  obtain ⟨_, htype, hpayload, hsequence, hstate, hnext, hframe, hactive⟩ :=
    sessionBeginRequest_eq_ok hbegin
  have hqueue := queueFrame_ok now request
    (show (Daemon.Context.ownRequest { host with upgrade := upgrade } session
      (.upgrade host.upgradeOperationId)).transportOutput = [] from houtput)
  unfold Daemon.queueUpgradeRequest
  rw [hbuild]
  dsimp only
  rw [show (hostEnv now).now = now from rfl, hbegin]
  dsimp only
  rw [hqueue, if_neg (not_not.mpr rfl)]
  exact ⟨request, _, rfl, rfl, rfl, rfl, htype, hpayload, hsequence, hstate, hnext, hframe,
    hactive⟩

/-! ## The moves of the host -/

/-- The host keeps its upgrade and its request. -/
structure KeepsHost (before after : Daemon.Context) : Prop where
  upgrade : after.upgrade = before.upgrade
  upgradeResult : after.upgradeResult = before.upgradeResult
  state : after.session.state = before.session.state
  nextSequence : after.session.nextSequence = before.session.nextSequence
  active : after.session.pending.active = before.session.pending.active
  type : after.session.pending.frame.type = before.session.pending.frame.type
  payload : after.session.pending.frame.payload = before.session.pending.frame.payload
  sequence : after.session.pending.frame.sequence = before.session.pending.frame.sequence

/-- Neither counters nor telemetry matter. -/
theorem KeepsHost.quiet (host : Daemon.Context) (stats : SessionStats) (telemetry : List UInt8)
    (count : UInt64) :
    KeepsHost host { host with
      session := { host.session with stats := stats }
      latestTelemetry := telemetry
      telemetryFrames := count } :=
  ⟨rfl, rfl, rfl, rfl, rfl, rfl, rfl, rfl⟩

theorem KeepsHost.refl (host : Daemon.Context) : KeepsHost host host :=
  .quiet host host.session.stats host.latestTelemetry host.telemetryFrames

/-- The host waits for the answer to the request of a phase. -/
structure Live (phase : Phase) (host : Daemon.Context) : Prop where
  state : host.upgrade.state = phase.state
  active : host.session.pending.active = true
  copy : IsCopy host.upgrade phase host.session.pending.frame
  session : host.session.state ≠ .handshaking

/-- The upgrade has come to its end. -/
structure Ended (phase : Phase) (host : Daemon.Context) : Prop where
  free : host.session.pending.active = false
  result : host.upgrade.state = .complete ∧ phase = .reboot ∧
      host.upgradeResult = Status.ok.code ∨
    host.upgrade.state = .error ∧ host.upgradeResult = Status.timeout.code

/-- What an event of the host does.  The requests in flight are stale for the host when
it goes on. -/
inductive HostMove (firmware : Firmware) (phase : Phase) (link : State) : State → Prop
  | kept (host : Daemon.Context) (hkeeps : KeepsHost link.host host) :
      HostMove firmware phase link { link with
        host := { host with transportOutput := [], transportOutputOffset := 0 } }
  | resent (host : Daemon.Context) (hlive : Live phase link.host)
      (hkeeps : KeepsHost link.host host) :
      HostMove firmware phase link { link with
        host := { host with transportOutput := [], transportOutputOffset := 0 }
        toDevice := link.toDevice ++ [host.session.pending.frame] }
  | begun (next : Phase) (built : Frame × Upgrade) (request : Frame) (host : Daemon.Context)
      (hlive : Live phase link.host)
      (hgoes : GoesOn link.host.upgrade firmware phase next built)
      (hbegins : Begins link.host built request host)
      (hstale : ∀ other ∈ link.toDevice, StaleAt built.2 firmware next other) :
      HostMove firmware phase link { link with
        host := { host with transportOutput := [], transportOutputOffset := 0 }
        toDevice := link.toDevice ++ [request] }
  | ended (state : UpgradeState) (host : Daemon.Context)
      (hupgrade : host.upgrade = { link.host.upgrade with state := state })
      (hended : Ended phase host)
      (hframe : host.session.nextSequence = link.host.session.nextSequence ∧
        host.session.pending.frame = link.host.session.pending.frame) :
      HostMove firmware phase link { link with
        host := { host with transportOutput := [], transportOutputOffset := 0 } }

theorem upgradeActive_of_phase {upgrade : Upgrade} {phase : Phase}
    (h : upgrade.state = phase.state) : upgradeActive upgrade = true := by
  unfold upgradeActive
  rw [h]
  cases phase <;> rfl

section Moves

variable {firmware : Firmware} {phase : Phase} {link : State} {built : Frame × Upgrade}

theorem kept_moves {context : Daemon.Context} (hkeeps : KeepsHost link.host context)
    (houtput : context.transportOutput = []) :
    HostMove firmware phase link (link.transmit context) := by
  rw [transmit_idle houtput]
  exact .kept context hkeeps

/-- The host goes on from a context that has the session of the link's host, apart from
the request that is done. -/
theorem begun_moves {context : Daemon.Context} {next : Phase} (now : UInt64)
    (hlive : Live phase link.host)
    (hsession : context.session.state = link.host.session.state ∧
      context.session.nextSequence = link.host.session.nextSequence ∧
      context.session.pending.active = false)
    (houtput : context.transportOutput = [])
    (hbuild : upgradeBuildRequest context.upgrade = .ok built)
    (hgoes : GoesOn link.host.upgrade firmware phase next built)
    (hstale : ∀ other ∈ link.toDevice, StaleAt built.2 firmware next other) :
    ∃ after, Daemon.queueUpgradeRequest (hostEnv now) context = (Status.ok.code, after) ∧
      HostMove firmware phase link (link.transmit after) := by
  obtain ⟨hstate, hnext, hfree⟩ := hsession
  obtain ⟨request, after, hqueue, hbytes, hoffset, hbegins⟩ :=
    queueUpgradeRequest_begins now hbuild hfree houtput
  refine ⟨after, hqueue, ?_⟩
  rw [transmit_frame hbytes hoffset]
  refine .begun next built request after hlive hgoes ⟨hbegins.upgrade, hbegins.type,
    hbegins.payload, ?_, ?_, ?_, hbegins.frame, hbegins.active⟩ hstale
  · rw [hbegins.sequence, hnext]
  · rw [hbegins.state, hstate]
  · rw [hbegins.nextSequence, hnext]

theorem sessionTransition_upgradeDone_frame (session : Session) :
    (sessionTransition session .upgradeDone).2.nextSequence = session.nextSequence ∧
      (sessionTransition session .upgradeDone).2.pending = session.pending :=
  ⟨(sessionTransition_frame session .upgradeDone).1,
    (Daemon.sessionTransition_upgradeDone session).1⟩

/-- The upgrade ends in a context that has the session of the link's host, apart from
the request that is done. -/
theorem ended_moves {context : Daemon.Context} {state : UpgradeState}
    (hupgrade : context.upgrade = { link.host.upgrade with state := state })
    (hresult : state = .complete ∧ phase = .reboot ∧ context.upgradeResult = Status.ok.code ∨
      state = .error ∧ context.upgradeResult = Status.timeout.code)
    (hsession : context.session.nextSequence = link.host.session.nextSequence ∧
      context.session.pending = { link.host.session.pending with active := false })
    (houtput : context.transportOutput = []) :
    HostMove firmware phase link (link.transmit context) := by
  rw [transmit_idle houtput]
  refine .ended state context hupgrade ⟨?_, ?_⟩ ⟨hsession.1, ?_⟩
  · rw [hsession.2]
  · rw [hupgrade]
    exact hresult
  · rw [hsession.2]

/-- The upgrade branch of `on_device_frame`, on a right answer. -/
theorem onUpgradeResponse_moves {response : Frame} (now : UInt64)
    (hservable : Servable link.host.upgrade) (hlive : Live phase link.host)
    (houtput : link.host.transportOutput = []) (hhost : HostAt link.host.upgrade phase)
    (hat : DeviceAt link.host.upgrade firmware phase)
    (hright : Right link.host.upgrade firmware phase response)
    (hcopies : ∀ other ∈ link.toDevice, IsCopy link.host.upgrade phase other) :
    ∃ after, Daemon.onUpgradeResponse (hostEnv now)
        { link.host with session := link.host.session.completed response }
        phase.type response = (Status.ok.code, after) ∧
      HostMove firmware phase link (link.transmit after) := by
  have haccept := accept_right hservable hlive.state hhost hat hright
  unfold Daemon.onUpgradeResponse
  dsimp only
  generalize upgradeAcceptResponse link.host.upgrade phase.type response = accepted at haccept ⊢
  cases haccept with
  | complete hphase =>
    rw [if_pos ⟨rfl, rfl⟩]
    obtain ⟨hnext, hpending⟩ :=
      sessionTransition_upgradeDone_frame (link.host.session.completed response)
    exact ⟨_, rfl, ended_moves rfl (.inl ⟨rfl, hphase, rfl⟩) ⟨hnext, hpending⟩ houtput⟩
  | goesOn upgrade' next built hbuild hgoes =>
    have hactive : upgrade'.state ≠ .complete := by
      intro hcomplete
      have htype := (upgradeBuildRequest_eq_ok hbuild).1
      rw [hcomplete] at htype
      cases htype
    dsimp only
    rw [if_neg (fun h => hactive h.2), if_neg (not_not.mpr rfl)]
    exact begun_moves now hlive ⟨rfl, rfl, rfl⟩ houtput hbuild hgoes
      fun other hother => hgoes.stale other (hcopies other hother)

/-- `on_device_frame`, while the host waits for an answer. -/
theorem deliver_moves {response : Frame} (now : UInt64)
    (hservable : Servable link.host.upgrade) (hlive : Live phase link.host)
    (houtput : link.host.transportOutput = []) (hhost : HostAt link.host.upgrade phase)
    (hat : DeviceAt link.host.upgrade firmware phase)
    (hanswer : response.sequence = link.host.session.pending.frame.sequence →
      Right link.host.upgrade firmware phase response ∧
        ∀ other ∈ link.toDevice, IsCopy link.host.upgrade phase other) :
    ∃ after, Daemon.onDeviceFrame (hostEnv now) response link.host = (Status.ok.code, after) ∧
      HostMove firmware phase link (link.transmit after) := by
  have hcase := Daemon.onDeviceFrame_cases (hostEnv now) response link.host
  have hactive := upgradeActive_of_phase hlive.state
  generalize Daemon.onDeviceFrame (hostEnv now) response link.host = handled at hcase ⊢
  cases hcase with
  | quiet stats telemetry count =>
    exact ⟨_, rfl, kept_moves (.quiet link.host stats telemetry count) houtput⟩
  | handshake _ _ _ hstate => exact absurd hstate hlive.session
  | upgrade hanswers =>
    obtain ⟨hright, hcopies⟩ := hanswer hanswers.2.1
    rw [hlive.copy.1]
    exact onUpgradeResponse_moves now hservable hlive houtput hhost hat hright hcopies
  | client _ _ _ _ _ hinactive =>
    rw [hactive] at hinactive
    cases hinactive
  | orphan _ _ hinactive =>
    rw [hactive] at hinactive
    cases hinactive

/-- The timer branch after a timeout. -/
theorem timeout_moves (now : UInt64) (stats : SessionStats)
    (hservable : Servable link.host.upgrade) (hlive : Live phase link.host)
    (houtput : link.host.transportOutput = []) (hhost : HostAt link.host.upgrade phase)
    (hat : DeviceAt link.host.upgrade firmware phase)
    (hflight : ∀ other ∈ link.toDevice, IsCopy link.host.upgrade phase other ∨
      StaleAt link.host.upgrade firmware phase other) :
    ∃ after, Daemon.handleTimeout (hostEnv now) (link.host.expired stats) =
        (Status.ok.code, after) ∧ HostMove firmware phase link (link.transmit after) := by
  have hactive : upgradeActive (link.host.expired stats).upgrade = true :=
    upgradeActive_of_phase hlive.state
  have hcase := recovery_cases hservable hlive.state hhost hat
  unfold Daemon.handleTimeout
  rw [if_pos hactive]
  unfold Daemon.tryRecovery
  rw [show (link.host.expired stats).upgrade = link.host.upgrade from rfl]
  generalize upgradeBeginRecovery link.host.upgrade = recovery at hcase ⊢
  cases hcase with
  | goesOn upgrade' built hbuild hgoes hstale =>
    have hbegun : ∃ after, Daemon.queueUpgradeRequest (hostEnv now)
        { link.host.expired stats with upgrade := upgrade' } = (Status.ok.code, after) ∧
        HostMove firmware phase link (link.transmit after) :=
      begun_moves now hlive ⟨rfl, rfl, rfl⟩ houtput hbuild hgoes
        fun other hother => (hflight other hother).elim (hgoes.stale other) (hstale other)
    obtain ⟨after, hqueue, hmoves⟩ := hbegun
    dsimp only
    rw [if_pos rfl, hqueue]
    exact ⟨after, if_pos rfl, hmoves⟩
  | failed status state hstatus =>
    have hcode : status.code ≠ Status.ok.code := mt Status.code_eq_ok.mp hstatus
    dsimp only
    rw [if_neg hstatus]
    refine ⟨_, if_neg hcode, ended_moves rfl (.inr ⟨rfl, rfl⟩) ?_ houtput⟩
    exact sessionTransition_upgradeDone_frame (link.host.expired stats).session

/-- The timer branch, while the host waits for an answer. -/
theorem tick_moves (now : UInt64)
    (hservable : Servable link.host.upgrade) (hlive : Live phase link.host)
    (houtput : link.host.transportOutput = []) (hhost : HostAt link.host.upgrade phase)
    (hat : DeviceAt link.host.upgrade firmware phase)
    (hflight : ∀ other ∈ link.toDevice, IsCopy link.host.upgrade phase other ∨
      StaleAt link.host.upgrade firmware phase other) :
    ∃ after, Daemon.handleTimer (hostEnv now) link.host = (Status.ok.code, after) ∧
      HostMove firmware phase link (link.transmit after) := by
  have hrunning : Status.ok.code ≠ Status.timeout.code := by decide
  unfold Daemon.handleTimer Daemon.tickSession
  rcases sessionTick_cases link.host.session (hostEnv now).now
    (fun frame context => Daemon.queueFrame (hostEnv now) context frame) link.host with
    hidle | ⟨_, stats, hexpired⟩ | ⟨_, deadline, retries, stats, hretried⟩
  · rw [hidle]
    exact ⟨_, if_neg hrunning, kept_moves (.refl link.host) houtput⟩
  · rw [hexpired]
    dsimp only
    rw [if_pos rfl]
    exact timeout_moves now stats hservable hlive houtput hhost hat hflight
  · dsimp only at hretried
    rw [queueFrame_ok now _ houtput] at hretried
    rw [hretried]
    refine ⟨_, if_neg hrunning, ?_⟩
    rw [transmit_frame rfl rfl]
    exact .resent _ hlive ⟨rfl, rfl, rfl, rfl, rfl, rfl, rfl, rfl⟩

/-- After its end an upgrade takes no answer. -/
theorem deliver_ended {response : Frame} (now : UInt64) (hended : Ended phase link.host)
    (houtput : link.host.transportOutput = []) :
    ∃ after, Daemon.onDeviceFrame (hostEnv now) response link.host = (Status.ok.code, after) ∧
      HostMove firmware phase link (link.transmit after) := by
  have hunanswered : ¬ link.host.session.Answers response := by
    rintro ⟨hactive, _⟩
    rw [hended.free] at hactive
    cases hactive
  have hcase := Daemon.onDeviceFrame_cases (hostEnv now) response link.host
  generalize Daemon.onDeviceFrame (hostEnv now) response link.host = handled at hcase ⊢
  cases hcase with
  | quiet stats telemetry count =>
    exact ⟨_, rfl, kept_moves (.quiet link.host stats telemetry count) houtput⟩
  | handshake _ _ hanswers => exact absurd hanswers hunanswered
  | upgrade hanswers => exact absurd hanswers hunanswered
  | client _ _ _ hanswers => exact absurd hanswers hunanswered
  | orphan hanswers => exact absurd hanswers hunanswered

/-- After its end an upgrade has nothing to wait for. -/
theorem tick_ended (now : UInt64) (hended : Ended phase link.host)
    (houtput : link.host.transportOutput = []) :
    ∃ after, Daemon.handleTimer (hostEnv now) link.host = (Status.ok.code, after) ∧
      HostMove firmware phase link (link.transmit after) := by
  have hcase := Daemon.handleTimer_cases (hostEnv now) link.host
  generalize Daemon.handleTimer (hostEnv now) link.host = handled at hcase ⊢
  cases hcase with
  | idle => exact ⟨_, rfl, kept_moves (.refl link.host) houtput⟩
  | retried _ _ _ _ _ _ hactive => exact absurd hactive (by rw [hended.free]; decide)
  | recovered _ hactive => exact absurd hactive (by rw [hended.free]; decide)
  | answered _ _ hactive => exact absurd hactive (by rw [hended.free]; decide)
  | unclaimed _ hactive => exact absurd hactive (by rw [hended.free]; decide)

end Moves

end Link
