import DeviceManager.Daemon.Timeout
import DeviceManager.Daemon.Completion

/-!
# Telemetry and the state of the session

The device streams telemetry after a positive response to `START_TELEMETRY` and stops after
one to `STOP_TELEMETRY`.  The session follows with its states `STREAMING` and `READY`, but the
transition is made where the response is delivered to the client that sent the command.

`Context.acknowledged` is the telemetry command that the session layer takes a response for,
and `Context.acknowledgements` lists those of an event.  `Devctl` is the invariant of the runs
in which the clients send no other commands than those of `devctl`: there is no upgrade, and a
telemetry command in the slot was sent from the state that it leaves.

In such a run an acknowledgement moves the session exactly if it is `awaited`: the client has
not left, and the response is no `ERROR`.  While all of them are, the session is `STREAMING`
exactly if the last acknowledgement was one of a start.
-/

namespace Daemon

open Devmgr

/-! ## Commands and acknowledgements -/

/-- The commands of `devctl`, those for upgrades apart. -/
def devctlCommands : List UInt8 :=
  [Msg.ping, Msg.getInfo, Msg.getHealth, Msg.getStats, Msg.startTelemetry, Msg.stopTelemetry,
    IpcCommand.getTelemetry]

/-- The request that the event completes, if it does, is a command of `devctl`. -/
def Context.sendsDevctl (context : Context) (event : Event) : Prop :=
  ∀ request ∈ context.requested event, request.command ∈ devctlCommands

instance (context : Context) (event : Event) : Decidable (context.sendsDevctl event) :=
  inferInstanceAs (Decidable (∀ _ ∈ _, _))

/-- The telemetry command that the frame is taken as a response to, unless it is a NACK. -/
def Context.acknowledged (context : Context) (frame : Frame) : Option UInt8 :=
  let command := context.session.pending.frame.type
  if context.takes frame ∧ frame.type ≠ Msg.nack ∧
      (command = Msg.startTelemetry ∨ command = Msg.stopTelemetry) then some command
  else none

/-- The telemetry commands that are acknowledged in an event. -/
def Context.acknowledgements (context : Context) (event : Event) : List UInt8 :=
  (context.deviceCalls event).filterMap fun call => call.1.acknowledged call.2

/-- The state that a telemetry command leads to. -/
def streamState (command : UInt8) : DeviceState :=
  if command = Msg.startTelemetry then .streaming else .ready

/-- A client waits for the response, and it is not an `ERROR`. -/
def Context.awaited (context : Context) (frame : Frame) : Prop :=
  context.activeClient.isSome = true ∧ frame.type ≠ Msg.error

instance (context : Context) (frame : Frame) : Decidable (context.awaited frame) :=
  inferInstanceAs (Decidable (_ ∧ _))

/-- The calls that acknowledge a telemetry command are awaited. -/
def allAwaited (calls : List (Context × Frame)) : Prop :=
  ∀ call ∈ calls, (call.1.acknowledged call.2).isSome = true → call.1.awaited call.2

/-- The clients send commands of `devctl`, and wait for the acknowledgements. -/
def Context.mirrors (context : Context) (event : Event) : Prop :=
  context.sendsDevctl event ∧ allAwaited (context.deviceCalls event)

instance (context : Context) (event : Event) : Decidable (context.mirrors event) :=
  inferInstanceAs (Decidable (_ ∧ ∀ _ ∈ _, _ → _))

theorem acknowledged_eq_some {context : Context} {frame : Frame} {command : UInt8}
    (h : context.acknowledged frame = some command) :
    context.takes frame ∧ frame.type ≠ Msg.nack ∧ context.session.pending.frame.type = command ∧
      (command = Msg.startTelemetry ∨ command = Msg.stopTelemetry) := by
  unfold Context.acknowledged at h
  dsimp only at h
  split at h
  · rename_i htakes
    obtain rfl := Option.some.inj h
    exact ⟨htakes.1, htakes.2.1, rfl, htakes.2.2⟩
  · cases h

theorem acknowledged_eq_none {context : Context} {frame : Frame}
    (h : context.acknowledged frame = none) (htakes : context.takes frame)
    (hnack : frame.type ≠ Msg.nack) :
    context.session.pending.frame.type ≠ Msg.startTelemetry ∧
      context.session.pending.frame.type ≠ Msg.stopTelemetry := by
  unfold Context.acknowledged at h
  dsimp only at h
  split at h
  · cases h
  · rename_i hother
    exact not_or.mp fun hcommand => hother ⟨htakes, hnack, hcommand⟩

/-! ## What a frame does to the session -/

/-- The session after a response for a client. -/
def streamed (session : Session) (command : UInt8) (frame : Frame) : Session :=
  if ¬ isFailure frame.type ∧ command = Msg.startTelemetry then
    (sessionTransition session .startStream).2
  else if ¬ isFailure frame.type ∧ command = Msg.stopTelemetry then
    (sessionTransition session .stopStream).2
  else session

theorem streamed_free {session : Session} (hfree : session.pending.active = false)
    (command : UInt8) (frame : Frame) :
    (streamed session command frame).pending.active = false := by
  unfold streamed
  split_ifs
  · exact sessionTransition_free _ hfree
  · exact sessionTransition_free _ hfree
  · exact hfree

/-- A failure moves nothing. -/
theorem streamed_of_failure (session : Session) (command : UInt8) {frame : Frame}
    (h : isFailure frame.type) : streamed session command frame = session := by
  rw [streamed, if_neg fun hstart => hstart.1 h, if_neg fun hstop => hstop.1 h]

/-- Neither does the response to another command. -/
theorem streamed_of_other (session : Session) {command : UInt8} (frame : Frame)
    (hstart : command ≠ Msg.startTelemetry) (hstop : command ≠ Msg.stopTelemetry) :
    streamed session command frame = session := by
  rw [streamed, if_neg fun h => hstart h.2, if_neg fun h => hstop h.2]

theorem streamed_start {session : Session} {frame : Frame} (hfailure : ¬ isFailure frame.type)
    (hstate : session.state = .ready) :
    (streamed session Msg.startTelemetry frame).state = .streaming := by
  rw [streamed, if_pos ⟨hfailure, rfl⟩, sessionTransition, if_neg (by decide), hstate]
  rfl

theorem streamed_stop {session : Session} {frame : Frame} (hfailure : ¬ isFailure frame.type)
    (hstate : session.state = .streaming) :
    (streamed session Msg.stopTelemetry frame).state = .ready := by
  rw [streamed, if_neg (fun h => absurd h.2 (by decide)), if_pos ⟨hfailure, rfl⟩,
    sessionTransition, if_neg (by decide), hstate]
  rfl

theorem onClientResponse_eq (env : Env) (context : Context) (index : Slot) (command : UInt8)
    (frame : Frame) :
    onClientResponse env context index command frame =
      queueClientResponse env
        (context.delivered index (streamed context.session command frame)) index command
        (if isFailure frame.type then Status.protocol.code else Status.ok.code) frame.payload :=
  rfl

/-- The ways of a frame through the session while no upgrade is active. -/
inductive SessionCase (context : Context) (frame : Frame) : Int × Session → Prop
  | ignored (result : Int) (stats : SessionStats) (h : ¬ context.takes frame) :
      SessionCase context frame (result, { context.session with stats := stats })
  | handshake (result : Int) (session : Session) (htakes : context.takes frame)
      (hstate : context.session.state = .handshaking) (hfree : session.pending.active = false)
      (hready : result = Status.ok.code → session.state = .ready) :
      SessionCase context frame (result, session)
  | client (result : Int) (htakes : context.takes frame)
      (hstate : context.session.state ≠ .handshaking)
      (hclient : context.activeClient.isSome = true) :
      SessionCase context frame (result, streamed (context.session.completed frame)
        context.session.pending.frame.type frame)
  | orphan (result : Int) (htakes : context.takes frame)
      (hstate : context.session.state ≠ .handshaking) (hclient : context.activeClient = none) :
      SessionCase context frame (result, context.session.completed frame)

theorem onDeviceFrame_session (env : Env) (frame : Frame) {context : Context}
    (hinactive : upgradeActive context.upgrade = false) :
    SessionCase context frame
      ((onDeviceFrame env frame context).1, (onDeviceFrame env frame context).2.session) ∧
    (onDeviceFrame env frame context).2.upgrade = context.upgrade := by
  by_cases htakes : context.takes frame
  · rw [onDeviceFrame_taken env htakes]
    dsimp only
    split
    · rename_i hstate
      split
      · refine ⟨.handshake _ _ htakes hstate rfl fun h => ?_, rfl⟩
        exact absurd (show Status.protocol.code = Status.ok.code from h) (by decide)
      · have htransition : sessionTransition (context.session.completed frame) .handshakeOk =
            (.ok, { context.session.completed frame with state := .ready }) := by
          rw [sessionTransition, if_neg (by decide),
            show (context.session.completed frame).state = .handshaking from hstate]
          rfl
        rw [htransition]
        exact ⟨.handshake _ _ htakes hstate rfl fun _ => rfl, rfl⟩
    · rename_i hstate
      rw [if_neg (by rw [hinactive]; exact Bool.false_ne_true)]
      split
      · rename_i index hclient
        rw [onClientResponse_eq]
        have hsame := queueClientResponse_sameDevice env (Context.delivered
          { context with session := context.session.completed frame } index
          (streamed (context.session.completed frame) context.session.pending.frame.type frame))
          index context.session.pending.frame.type
          (if isFailure frame.type then Status.protocol.code else Status.ok.code) frame.payload
        refine ⟨?_, hsame.upgrade⟩
        rw [hsame.session]
        exact .client _ htakes hstate (by rw [hclient]; rfl)
      · rename_i hclient
        exact ⟨.orphan _ htakes hstate hclient, rfl⟩
  · obtain ⟨stats, telemetry, count, hignored⟩ := onDeviceFrame_ignored env htakes
    rw [hignored]
    exact ⟨.ignored _ stats htakes, rfl⟩

/-! ## Runs of `devctl` -/

/-- No upgrade was asked for, and a telemetry command in the slot was sent from the state that
it leaves. -/
structure Context.Devctl (context : Context) : Prop where
  worker : context.worker = workerInit
  upgrade : upgradeActive context.upgrade = false
  start : context.session.pending.active = true →
    context.session.pending.frame.type = Msg.startTelemetry → context.session.state = .ready
  stop : context.session.pending.active = true →
    context.session.pending.frame.type = Msg.stopTelemetry → context.session.state = .streaming

/-- The session, the upgrade and the worker stay. -/
theorem Context.Devctl.of_same {before after : Context} (h : before.Devctl)
    (hsession : after.session = before.session) (hupgrade : after.upgrade = before.upgrade)
    (hworker : after.worker = before.worker) : after.Devctl := by
  obtain ⟨hidle, hinactive, hstart, hstop⟩ := h
  refine ⟨hworker.trans hidle, ?_, ?_, ?_⟩
  · rw [hupgrade]
    exact hinactive
  · rw [hsession]
    exact hstart
  · rw [hsession]
    exact hstop

/-- The slot is free. -/
theorem Context.Devctl.of_free {before after : Context} (h : before.Devctl)
    (hfree : after.session.pending.active = false) (hupgrade : after.upgrade = before.upgrade)
    (hworker : after.worker = before.worker) : after.Devctl where
  worker := hworker.trans h.worker
  upgrade := by
    rw [hupgrade]
    exact h.upgrade
  start hactive := absurd (hfree.symm.trans hactive) Bool.false_ne_true
  stop hactive := absurd (hfree.symm.trans hactive) Bool.false_ne_true

section Frames

variable {context : Context} (h : context.Devctl) (env : Env) (frame : Frame)

include h

theorem Context.Devctl.session_case :
    SessionCase context frame ((observeDeviceFrame env frame context).1,
      (observeDeviceFrame env frame context).2.session) ∧
    (observeDeviceFrame env frame context).2.upgrade = context.upgrade := by
  unfold observeDeviceFrame
  dsimp only
  obtain ⟨changes, hnoted⟩ := recordChange_eq context
    (if (sessionAcceptResponse context.session frame).1 = .ok then
      .response context.pendingOwner else .other) (onDeviceFrame env frame context)
  rw [hnoted]
  exact onDeviceFrame_session env frame h.upgrade

theorem Context.Devctl.deviceFrame : (observeDeviceFrame env frame context).2.Devctl := by
  obtain ⟨hcase, hupgrade⟩ := h.session_case env frame
  have hworker := observeDeviceFrame_worker env frame context
  generalize hresult : (observeDeviceFrame env frame context).1 = result at hcase
  generalize hsession : (observeDeviceFrame env frame context).2.session = session at hcase
  cases hcase with
  | ignored _ stats hignored =>
    refine ⟨hworker.trans h.worker, ?_, ?_, ?_⟩
    · rw [hupgrade]
      exact h.upgrade
    · rw [hsession]
      exact h.start
    · rw [hsession]
      exact h.stop
  | handshake _ _ htakes hstate hfree hready =>
    exact h.of_free (by rw [hsession]; exact hfree) hupgrade hworker
  | client _ htakes hstate hclient =>
    exact h.of_free (by rw [hsession]; exact streamed_free rfl _ _) hupgrade hworker
  | orphan _ htakes hstate hclient =>
    exact h.of_free (by rw [hsession]; rfl) hupgrade hworker

omit h in
theorem Context.takes.active (htakes : context.takes frame) :
    context.session.pending.active = true :=
  (sessionAcceptResponse_ok htakes.2).1

/-- A command that is acknowledged left the state it was sent from. -/
theorem Context.Devctl.acknowledged_state {command : UInt8}
    (hack : context.acknowledged frame = some command) :
    (command = Msg.startTelemetry ∧ context.session.state = .ready) ∨
      (command = Msg.stopTelemetry ∧ context.session.state = .streaming) := by
  obtain ⟨htakes, _, rfl, hcommand⟩ := acknowledged_eq_some hack
  rcases hcommand with hstart | hstop
  · exact .inl ⟨hstart, h.start htakes.active hstart⟩
  · exact .inr ⟨hstop, h.stop htakes.active hstop⟩

/-- An acknowledgement moves the session exactly if it is awaited. -/
theorem Context.Devctl.acknowledged_iff {command : UInt8}
    (hack : context.acknowledged frame = some command) :
    (observeDeviceFrame env frame context).2.session.state = streamState command ↔
      context.awaited frame := by
  obtain ⟨htakes, hnack, htype, _⟩ := acknowledged_eq_some hack
  have hstate := h.acknowledged_state frame hack
  have hstays : context.session.state ≠ streamState command := by
    rcases hstate with ⟨rfl, hready⟩ | ⟨rfl, hstreaming⟩
    · rw [hready]
      decide
    · rw [hstreaming]
      decide
  obtain ⟨hcase, _⟩ := h.session_case env frame
  generalize (observeDeviceFrame env frame context).1 = result at hcase
  generalize (observeDeviceFrame env frame context).2.session = session at hcase ⊢
  cases hcase with
  | ignored _ stats hignored => exact absurd htakes hignored
  | handshake _ _ _ hhandshaking hfree hready =>
    rcases hstate with ⟨_, hsource⟩ | ⟨_, hsource⟩
    · exact absurd (hhandshaking.symm.trans hsource) (by decide)
    · exact absurd (hhandshaking.symm.trans hsource) (by decide)
  | client _ _ _ hclient =>
    rw [htype]
    by_cases herror : frame.type = Msg.error
    · rw [streamed_of_failure _ _ (.inr herror)]
      exact iff_of_false hstays fun hawaited => hawaited.2 herror
    · have hfailure : ¬ isFailure frame.type := not_or.mpr ⟨hnack, herror⟩
      refine iff_of_true ?_ ⟨hclient, herror⟩
      rcases hstate with ⟨rfl, hready⟩ | ⟨rfl, hstreaming⟩
      · exact streamed_start hfailure hready
      · exact streamed_stop hfailure hstreaming
  | orphan _ _ _ hclient =>
    refine iff_of_false hstays fun hawaited => ?_
    rw [Context.awaited, hclient] at hawaited
    exact absurd hawaited.1 Bool.false_ne_true

/-- Other frames leave the session in `STREAMING`, or outside of it. -/
theorem Context.Devctl.other_frame (hack : context.acknowledged frame = none)
    (hok : (observeDeviceFrame env frame context).1 = Status.ok.code) :
    (observeDeviceFrame env frame context).2.session.state = .streaming ↔
      context.session.state = .streaming := by
  obtain ⟨hcase, _⟩ := h.session_case env frame
  rw [hok] at hcase
  generalize (observeDeviceFrame env frame context).2.session = session at hcase ⊢
  cases hcase with
  | ignored _ stats hignored => exact Iff.rfl
  | handshake _ _ _ hhandshaking hfree hready =>
    rw [hready rfl, hhandshaking]
    decide
  | client _ htakes _ hclient =>
    by_cases hfailure : isFailure frame.type
    · rw [streamed_of_failure _ _ hfailure]
      exact Iff.rfl
    · obtain ⟨hstart, hstop⟩ := acknowledged_eq_none hack htakes fun hnack => hfailure (.inl hnack)
      rw [streamed_of_other _ _ hstart hstop]
      exact Iff.rfl
  | orphan _ _ _ hclient => exact Iff.rfl

end Frames

theorem Context.Devctl.respond {context : Context} (h : context.Devctl) (env : Env) (index : Slot)
    (command : UInt8) (status : Int) (payload : List UInt8) :
    (queueClientResponse env context index command status payload).2.Devctl := by
  have hsame := queueClientResponse_sameDevice env context index command status payload
  exact h.of_same hsame.session hsame.upgrade (queueClientResponse_worker env _ _ _ _ _)

/-- A tick sends the request in the slot again, or frees the slot. -/
theorem Context.Devctl.timer {context : Context} (h : context.Devctl) (env : Env) :
    (observeTimer env context).2.Devctl ∧
      (observeTimer env context).2.session.state = context.session.state := by
  obtain ⟨changes, hnoted⟩ := recordChange_eq context (.expiry context.pendingOwner)
    (handleTimer env context)
  suffices htimer : (handleTimer env context).2.Devctl ∧
      (handleTimer env context).2.session.state = context.session.state by
    unfold observeTimer
    rw [hnoted]
    exact ⟨htimer.1.of_same rfl rfl rfl, htimer.2⟩
  have hcase := handleTimer_cases env context
  generalize handleTimer env context = handled at hcase ⊢
  cases hcase with
  | idle => exact ⟨h, rfl⟩
  | retried => exact ⟨⟨h.worker, h.upgrade, h.start, h.stop⟩, rfl⟩
  | recovered _ _ _ hupgrade =>
    rw [h.upgrade] at hupgrade
    cases hupgrade
  | unclaimed => exact ⟨h.of_free rfl rfl rfl, rfl⟩
  | answered index stats =>
    have hdelivered : (Context.delivered (context.expired stats) index
        (context.expired stats).session).Devctl := h.of_free rfl rfl rfl
    refine ⟨hdelivered.respond env _ _ _ _, ?_⟩
    rw [(queueClientResponse_sameDevice env _ _ _ _ _).session]
    rfl

/-! ## Requests -/

/-- A request does not move the session. -/
theorem StartCase.session_state {env : Env} {context : Context} {index : Slot}
    {request : IpcRequest} {handled : Int × Context}
    (h : StartCase env context index request handled) :
    handled.2.session.state = context.session.state := by
  cases h with
  | answered status payload => rw [(queueClientResponse_sameDevice env _ _ _ _ _).session]
  | upgraded upgradeRequest status worker payload hcommand hparse hallowed hsubmit =>
    rw [(queueClientResponse_sameDevice env _ _ _ _ _).session]
  | cancelled session output offset status hfree hcancelled hsession hinactive hidle =>
    rw [(queueClientResponse_sameDevice env _ _ _ _ _).session]
    exact hsession
  | sent session output offset hfree hpending hsession hstate hinactive hidle => exact hsession

/-- A telemetry command is sent to the device only from the state that it leaves. -/
theorem Context.Devctl.startDevice {context : Context} (h : context.Devctl) (env : Env)
    (index : Slot) (request : IpcRequest) :
    (startDeviceRequest env context index request).2.Devctl := by
  unfold startDeviceRequest
  split
  · exact h.respond env _ _ _ _
  split
  · exact h.respond env _ _ _ _
  rename_i hready
  split
  · exact h.respond env _ _ _ _
  rename_i hstreaming
  split
  · exact h.respond env _ _ _ _
  split
  · exact h.respond env _ _ _ _
  split
  · exact h.respond env _ _ _ _
  rename_i frame session hbegin
  obtain ⟨_, htype, _, _, hstate, _, hpending, _⟩ := sessionBeginRequest_eq_ok hbegin
  dsimp only
  obtain ⟨output, offset, hqueued⟩ := queueFrame_eq env
    (context.ownRequest session (.client (context.clients index).connection)) frame
  rw [hqueued]
  split
  · refine Context.Devctl.respond ?_ env _ _ _ _
    exact h.of_free rfl rfl rfl
  · refine ⟨h.worker, h.upgrade, fun _ hstart => ?_, fun _ hstop => ?_⟩
    · change session.pending.frame.type = _ at hstart
      rw [hpending, htype] at hstart
      exact hstate.trans (not_not.mp fun hother => hready ⟨hstart, hother⟩)
    · change session.pending.frame.type = _ at hstop
      rw [hpending, htype] at hstop
      exact hstate.trans (not_not.mp fun hother => hstreaming ⟨hstop, hother⟩)

theorem Context.Devctl.startRequest {context : Context} (h : context.Devctl) (env : Env)
    (index : Slot) {request : IpcRequest} (hcommand : request.command ∈ devctlCommands) :
    (Daemon.startRequest env context index request).2.Devctl := by
  have hnoted : (context.noteStart index).Devctl := h.of_same rfl rfl rfl
  have hupgrade : request.command ≠ IpcCommand.upgrade := by
    intro heq
    rw [heq] at hcommand
    exact absurd hcommand (by decide)
  unfold Daemon.startRequest
  dsimp only
  split
  · unfold startGetTelemetry
    split
    · exact hnoted.respond env _ _ _ _
    · exact hnoted.respond env _ _ _ _
  split
  · unfold startUpgradeStatus
    split
    · exact hnoted.respond env _ _ _ _
    · exact hnoted.respond env _ _ _ _
  exact hnoted.startDevice env index request

/-! ## Runs -/

/-- The worker has nothing to do. -/
theorem workerStep_init (file : FileView) : workerStep workerInit file = none := rfl

theorem devctl_preserves : PreservesRest Context.Devctl where
  transport _ _ _ h := h.of_same rfl rfl rfl
  stopped h := h.of_same rfl rfl rfl
  thread := by
    intro context file worker hstep h
    rw [h.worker, workerStep_init] at hstep
    cases hstep
  admission := by
    intro context epoll h
    obtain ⟨clients, activeClient, hadmitted⟩ := admitClient_eq context epoll
    rw [hadmitted]
    exact h.of_same rfl rfl rfl
  frame env frame h _ := h.deviceFrame env frame
  timer env h _ := (h.timer env).1

theorem devctl_preservesTable : PreservesTable Context.Devctl where
  setClient _ _ h := h.of_same rfl rfl rfl
  close _ h := h.of_same rfl rfl rfl
  noted _ _ h := h.of_same rfl rfl rfl

/-- No job ends. -/
theorem Context.Devctl.no_completion {context : Context} (h : context.Devctl) {worker : Worker}
    (hread : workerReadEvent context.worker = some worker) : False := by
  rw [h.worker] at hread
  cases hread

theorem Context.Devctl.step {context after : Context} {event : Event} (h : context.Devctl)
    (hdevctl : context.sendsDevctl event) (hstep : daemonStep context event = some after) :
    after.Devctl := by
  refine devctl_preserves.step ?_ ?_ h hstep
  · rintro env index clientEvent rfl _
    refine devctl_preservesTable.event (fun request hrequest client => ?_) h
    exact (devctl_preservesTable.setClient index client h).startRequest env index
      (hdevctl request hrequest)
  · exact fun env worker _ hread => (h.no_completion hread).elim

/-- The session is `STREAMING` exactly if the last of the commands acknowledged before the
event and in its calls so far is a start, as long as the calls are awaited. -/
structure Mirrored (trace : List UInt8) (calls : List (Context × Frame)) (context : Context) :
    Prop where
  devctl : context.Devctl
  streaming : allAwaited calls → (context.session.state = .streaming ↔
    (trace ++ calls.filterMap fun call => call.1.acknowledged call.2).getLast? =
      some Msg.startTelemetry)

/-- The state of the session stays. -/
theorem Mirrored.of_state {trace : List UInt8} {calls : List (Context × Frame)}
    {before after : Context} (h : Mirrored trace calls before) (hdevctl : after.Devctl)
    (hstate : after.session.state = before.session.state) : Mirrored trace calls after :=
  ⟨hdevctl, by rw [hstate]; exact h.streaming⟩

theorem Mirrored.frame {trace : List UInt8} {calls : List (Context × Frame)} {context : Context}
    (h : Mirrored trace calls context) (env : Env) (frame : Frame)
    (hok : (observeDeviceFrame env frame context).1 = Status.ok.code) :
    Mirrored trace (calls ++ [(context, frame)]) (observeDeviceFrame env frame context).2 := by
  refine ⟨h.devctl.deviceFrame env frame, fun hawaited => ?_⟩
  obtain ⟨hearlier, hlast⟩ := List.forall_mem_append.mp hawaited
  rw [List.filterMap_append, ← List.append_assoc]
  rcases hack : context.acknowledged frame with _ | command
  · rw [h.devctl.other_frame env frame hack hok, h.streaming hearlier]
    simp [hack]
  · have hmoved := (h.devctl.acknowledged_iff env frame hack).mpr
      (hlast (context, frame) (List.mem_singleton.mpr rfl) (by rw [hack]; rfl))
    rw [hmoved]
    obtain ⟨_, _, _, rfl | rfl⟩ := acknowledged_eq_some hack
    · simp [hack, streamState]
    · simp [hack, streamState]

theorem mirrored_preserves (trace : List UInt8) : PreservesCalls (Mirrored trace) where
  transport _ _ _ h := h.of_state (devctl_preserves.transport _ _ _ h.devctl) rfl
  stopped h := h.of_state (devctl_preserves.stopped h.devctl) rfl
  thread hstep h := h.of_state (devctl_preserves.thread hstep h.devctl) rfl
  admission := by
    intro context epoll h
    have hdevctl := devctl_preserves.admission epoll h.devctl
    obtain ⟨clients, activeClient, hadmitted⟩ := admitClient_eq context epoll
    rw [hadmitted] at hdevctl ⊢
    exact h.of_state hdevctl rfl
  frame env frame h hok := h.frame env frame hok
  timer env h _ := h.of_state (h.devctl.timer env).1 (h.devctl.timer env).2

/-- The client table is not looked at. -/
theorem mirrored_preservesTable (trace : List UInt8) : PreservesTable (Mirrored trace []) where
  setClient index client h :=
    h.of_state (devctl_preservesTable.setClient index client h.devctl) rfl
  close index h := h.of_state (devctl_preservesTable.close index h.devctl) rfl
  noted started changes h := h.of_state (devctl_preservesTable.noted started changes h.devctl) rfl

/-- One event of a run of `devctl`. -/
theorem Mirrored.step {trace : List UInt8} {context after : Context} {event : Event}
    (h : Mirrored trace [] context) (hdevctl : context.sendsDevctl event)
    (hstep : daemonStep context event = some after) :
    Mirrored trace (context.deviceCalls event) after := by
  refine (mirrored_preserves trace).step ?_ ?_ h hstep
  · rintro env index clientEvent rfl _
    refine (mirrored_preservesTable trace).event (fun request hrequest client => ?_) h
    have hset := (mirrored_preservesTable trace).setClient index client h
    refine hset.of_state
      (hset.devctl.startRequest env index (hdevctl request hrequest)) ?_
    exact (startRequest_cases env _ index request).session_state
  · exact fun env worker _ hread => (h.devctl.no_completion hread).elim

theorem mirrored_of_init {context : Context} (h : daemonSystem.init context) :
    Mirrored [] [] context := by
  obtain ⟨env, hstart⟩ := h
  obtain ⟨session, output, offset, hping, hstate, rfl⟩ := startHandshake_eq hstart
  refine ⟨⟨rfl, rfl, fun _ htype => ?_, fun _ htype => ?_⟩, fun _ => ?_⟩
  · exact absurd (hping.symm.trans htype) (by decide)
  · exact absurd (hping.symm.trans htype) (by decide)
  · refine iff_of_false (fun hstreaming => ?_) (by decide)
    exact absurd (hstate.symm.trans hstreaming) (by decide)

/-- From the handshake on, in every run in which the clients send only commands of `devctl`: an
acknowledgement that the session layer takes moves the session to the state of its command
exactly if a client waits for it and it is not an `ERROR`.  In a run in which all of them are so,
the session is `STREAMING` exactly if the last acknowledged command was a start. -/
theorem streaming_mirrors_iff {start : Context} (hstart : daemonSystem.init start) :
    (∀ trace context,
      daemonSystem.Trace Context.sendsDevctl Context.acknowledgements start trace context →
      ∀ env event, ∀ call ∈ context.deviceCalls (.transport env event), ∀ command,
        call.1.acknowledged call.2 = some command →
        ((observeDeviceFrame env call.2 call.1).2.session.state = streamState command ↔
          call.1.awaited call.2)) ∧
    ∀ trace context,
      daemonSystem.Trace Context.mirrors Context.acknowledgements start trace context →
      (context.session.state = .streaming ↔ trace.getLast? = some Msg.startTelemetry) := by
  have hinit := mirrored_of_init hstart
  constructor
  · intro trace context htrace env event call hcall command hack
    have hdevctl : context.Devctl := by
      refine htrace.invariant (R := fun _ context => context.Devctl) hinit.devctl ?_
      exact fun _ _ _ _ h hsends hstep => h.step hsends hstep
    exact (devctl_preserves.find hdevctl _ call hcall).acknowledged_iff env call.2 hack
  · intro trace context htrace
    have hmirrored : Mirrored trace [] context := by
      refine htrace.invariant (R := fun trace context => Mirrored trace [] context) hinit ?_
      intro trace before event after h hmirrors hstep
      have hafter := h.step hmirrors.1 hstep
      refine ⟨hafter.devctl, fun _ => ?_⟩
      rw [List.filterMap_nil, List.append_nil]
      exact hafter.streaming hmirrors.2
    have hstreaming := hmirrored.streaming (List.forall_mem_nil _)
    rw [List.filterMap_nil, List.append_nil] at hstreaming
    exact hstreaming

/-- `START_TELEMETRY` of a client, every second. -/
def startTelemetryRequest : List UInt8 :=
  [0x49, 0x50, ipcVersion, Msg.startTelemetry, 4, 0, 0, 0] ++ putLe32 1000

/-- The response to it. -/
def startTelemetryReply : Frame :=
  ⟨Msg.startTelemetry, Flag.response, 2, putLe32 1000, putLe32_le _⟩

/-- The handshake completes, a client connects, and it starts telemetry. -/
def telemetryEvents : List Event :=
  [deviceSends handshakeReply, .listener [.accepted true],
    clientSends firstSlot startTelemetryRequest]

/-- The client waits, and the session is `STREAMING` with the device. -/
theorem streaming_mirrors_iff_start :
    ∃ context, daemonSystem.runBy Context.mirrors handshakeContext
        (telemetryEvents ++ [deviceSends startTelemetryReply]) = some context ∧
      context.session.state = .streaming := by
  have hlabels : daemonSystem.labels Context.acknowledgements handshakeContext
      (telemetryEvents ++ [deviceSends startTelemetryReply]) = [Msg.startTelemetry] := by
    decide +kernel
  have hsome : (daemonSystem.runBy Context.mirrors handshakeContext
      (telemetryEvents ++ [deviceSends startTelemetryReply])).isSome = true := by
    decide +kernel
  obtain ⟨context, hrun⟩ := Option.isSome_iff_exists.mp hsome
  have htrace : daemonSystem.Trace Context.mirrors Context.acknowledgements handshakeContext _
      context := .runBy .start hrun
  refine ⟨context, hrun, ?_⟩
  refine ((streaming_mirrors_iff handshakeContext_init).2 _ context htrace).mpr ?_
  rw [hlabels]
  rfl

/-- The client leaves before the response: the device streams, and the session stays `READY`. -/
theorem streaming_unnoticed :
    ∃ context after, daemonSystem.runBy Context.sendsDevctl handshakeContext
        (telemetryEvents ++ [clientLeaves firstSlot]) = some context ∧
      daemonStep context (deviceSends startTelemetryReply) = some after ∧
      context.acknowledgements (deviceSends startTelemetryReply) = [Msg.startTelemetry] ∧
      after.session.state = .ready := by
  have hvalues : (daemonSystem.runBy Context.sendsDevctl handshakeContext
      (telemetryEvents ++ [clientLeaves firstSlot])).bind (fun context =>
        (daemonStep context (deviceSends startTelemetryReply)).map fun after =>
          (context.acknowledgements (deviceSends startTelemetryReply), after.session.state)) =
      some ([Msg.startTelemetry], .ready) := by
    decide +kernel
  obtain ⟨context, hrun, hstepped⟩ := Option.bind_eq_some_iff.mp hvalues
  obtain ⟨after, hstep, hafter⟩ := Option.map_eq_some_iff.mp hstepped
  obtain ⟨hacknowledged, hstate⟩ := Prod.mk.inj hafter
  exact ⟨context, after, hrun, hstep, hacknowledged, hstate⟩

end Daemon
