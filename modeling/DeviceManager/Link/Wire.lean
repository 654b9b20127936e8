import DeviceManager.Link.Reactor
import DeviceManager.Simulator.Server

/-!
# An upgrade over a byte stream

The whole daemon and the whole simulator, with nothing but bytes between them.  The daemon's
loop writes its buffer in pieces and reads what has arrived in pieces, as `epoll` reports it;
the simulator's loop does the same on its side, emits telemetry in between, and may leave frames
out.  Clients, the worker and the timer of the daemon go on as they like.

`Sound` ties such a state to one of `DeviceManager.Link.Lossy`.  What a side has not handled yet,
in its parser, on the line and in the buffer of the other side, is the encoding of whole frames;
with these frames as the channels, and without the telemetry, the host and the device are as
`Tracks` has them.  `HostSide` is that for the host, one event of its loop at a time, and
`Emitting` follows the requests that the device finds in one read.
-/

namespace Link

open Devmgr

/-! ## The system -/

/-- The daemon, the simulator, and the bytes on the line. -/
structure Wire where
  host : Daemon.Context
  device : Simulator.Machine
  toDevice : List UInt8
  toHost : List UInt8

/-- An event of the daemon's loop, or a turn of the simulator's.  A size bounds what one read
finds, one byte at least. -/
inductive WireEvent
  | daemon (event : Daemon.Event)
  | transport (env : Daemon.Env) (output : Bool) (writes : List Daemon.WriteResult)
      (input : Bool) (sizes : List Nat)
  | device (turn : Simulator.Turn) (size : Nat)

/-- The reads of the daemon, and the bytes that stay on the line. -/
def arrivals : List Nat → List UInt8 → List Daemon.ReadResult × List UInt8
  | [], bytes => ([], bytes)
  | _ :: _, [] => ([], [])
  | size :: sizes, first :: more =>
    let count := min size (Daemon.transportInputSize - 1)
    let rest := arrivals sizes (more.drop count)
    (.data first (more.take count) :: rest.1, rest.2)

/-- The read of the simulator, and the bytes that stay on the line. -/
def lineArrival (size : Nat) : List UInt8 → Simulator.LineRead × List UInt8
  | [] => (.nothing, [])
  | first :: more =>
    let count := min size (Simulator.lineInputSize - 1)
    (.data first (more.take count), more.drop count)

/-- The turn comes to the read. -/
def takesInput (turn : Simulator.Turn) : Bool :=
  match turn.poll with
  | .ready false true => true
  | _ => false

/-- One event.  What `flush_transport` and `write_frame` write goes on the line. -/
def Wire.step (wire : Wire) : WireEvent → Option Wire
  | .daemon (.transport _ _) => none
  | .daemon event => (Daemon.daemonStep wire.host event).map fun host => { wire with host := host }
  | .transport env output writes input sizes =>
    let arrived := if input then arrivals sizes wire.toHost else ([], wire.toHost)
    (Daemon.daemonStep wire.host
        (.transport env ⟨output, writes, input, arrived.1, false⟩)).map fun host =>
      { wire with
        host := host
        toDevice := wire.toDevice ++ if output then Daemon.flushBytes writes wire.host else []
        toHost := arrived.2 }
  | .device turn size =>
    let arrived :=
      if takesInput turn then lineArrival size wire.toDevice else (.nothing, wire.toDevice)
    let next := wire.device.turn { turn with read := arrived.1 }
    if next.1 = Status.ok.code then
      some { wire with
        device := next.2
        toDevice := arrived.2
        toHost := wire.toHost ++
          next.2.history.output.drop wire.device.history.output.length }
    else none

/-- From the first request of an upgrade on.  The device has no session in progress, does not
fail the verification and does not corrupt frames, and nothing is left from before in the
parsers and on the line. -/
def wireSystem (started : Upgrade) : System Wire WireEvent where
  init wire := (∃ host env, Prepared started host ∧
      Daemon.queueUpgradeRequest env host = (Status.ok.code, wire.host)) ∧
    wire.device.state.firmwareUpgrading = false ∧ wire.device.state.failVerify = false ∧
    wire.device.corruptRate ≤ 0 ∧
    wire.host.parser.input.contents = [] ∧ wire.device.parser.input.contents = [] ∧
    wire.toDevice = [] ∧ wire.toHost = []
  step := Wire.step

/-- What is asked of an event: clients and the worker are followed up to the end of the upgrade,
and the writes and the `malloc` of the simulator succeed. -/
def Orderly (wire : Wire) : WireEvent → Prop
  | .daemon event => aside event = true → upgradeActive wire.host.upgrade = true
  | .transport _ _ _ _ _ => True
  | .device turn _ => turn.Clean ∧ ∀ n, ∃ memory, (turn.calls n).request.malloc = some memory

/-! ## The host -/

/-- What the session looks at. -/
def answers (frames : List Frame) : List Frame :=
  frames.filter fun frame => frame.sequence ≠ 0

/-- Only telemetry has no sequence. -/
def Sampled (frames : List Frame) : Prop :=
  ∀ frame ∈ frames, frame.sequence = 0 → frame.type = Msg.telemetry

/-- The host is on track with a device, if the responses are in flight and the requests are in
the bytes that the device has not handled. -/
def OnTrack (started : Upgrade) (device : Simulator.State) (unread : List UInt8)
    (responses : List Frame) (host : Daemon.Context) : Prop :=
  ∃ first phase count requests,
    Tracks started first phase count ⟨holding host [], device, requests, answers responses⟩ ∧
      unread ++ host.unwritten = requests.flatMap frameBytes

/-- The host is on track with the responses in the bytes that it has not handled, or it has given
up. -/
def HostSide (started : Upgrade) (device : Simulator.State) (unread incoming : List UInt8)
    (host : Daemon.Context) : Prop :=
  (∃ responses, Sampled responses ∧ incoming = responses.flatMap frameBytes ∧
    OnTrack started device unread responses host) ∨ Abandoned host

section Host

variable {started : Upgrade} {device : Simulator.State} {unread incoming : List UInt8}
  {responses : List Frame} {host host' : Daemon.Context}

theorem transmit_holding (link : State) (host : Daemon.Context) {frames : List Frame}
    (hone : frames.length ≤ 1) :
    link.transmit (holding host frames) =
      { link with host := holding host [], toDevice := link.toDevice ++ frames } := by
  rcases frames with _ | ⟨frame, _ | ⟨other, rest⟩⟩
  · rw [transmit_idle rfl, List.append_nil]
    rfl
  · rw [holding_single, transmit_frame rfl rfl]
    rfl
  · simp at hone

theorem keepsHost_holding (hkeeps : KeepsHost host host') :
    KeepsHost (holding host []) host' :=
  ⟨hkeeps.upgrade, hkeeps.upgradeResult, hkeeps.state, hkeeps.nextSequence, hkeeps.active,
    hkeeps.type, hkeeps.payload, hkeeps.sequence⟩

/-- The host keeps its request, and some responses may be gone. -/
theorem OnTrack.keep (h : OnTrack started device unread responses host)
    (hkeeps : KeepsHost host host') (hunwritten : host'.unwritten = host.unwritten)
    {rest : List Frame} (hrest : rest.Sublist responses) :
    OnTrack started device unread rest host' := by
  obtain ⟨first, phase, count, requests, htracks, hstream⟩ := h
  refine ⟨first, phase, count, requests, ?_, by rw [hunwritten]; exact hstream⟩
  exact (htracks.lose (List.Sublist.refl _) (hrest.filter _)).kept (keepsHost_holding hkeeps)

theorem Abandoned.keep (h : Abandoned host) (hkeeps : KeepsHost host host') : Abandoned host' :=
  ⟨hkeeps.upgrade ▸ h.state, hkeeps.upgradeResult.trans h.result, hkeeps.active.trans h.free⟩

/-- The parser is not looked at. -/
theorem keepsHost_parsed (host : Daemon.Context) (parser : Parser) :
    KeepsHost host { host with parser := parser } :=
  ⟨rfl, rfl, rfl, rfl, rfl, rfl, rfl, rfl⟩

/-- A change that is noted is not looked at. -/
theorem keepsHost_noted (host : Daemon.Context) (changes : List Daemon.UpgradeChange) :
    KeepsHost host { host with history := { host.history with changes := changes } } :=
  ⟨rfl, rfl, rfl, rfl, rfl, rfl, rfl, rfl⟩

/-- A handler that succeeds takes the host, as on an empty buffer, to the next state of the
link. -/
theorem OnTrack.handled {first count : Nat} {phase : Phase} {requests rest : List Frame}
    {handled free : Int × Daemon.Context} {link : State}
    (hunhindered : Unhindered host handled free) (hok : handled.1 = Status.ok.code)
    (hlink : State.proceed ⟨holding host [], device, requests, answers rest⟩ free = some link)
    (htracks : Tracks started first phase count link)
    (hstream : unread ++ host.unwritten = requests.flatMap frameBytes) :
    OnTrack started device unread rest handled.2 := by
  obtain ⟨frames, hone, hfree, hheld⟩ := hunhindered hok
  rw [hfree, proceed_ok, transmit_holding _ _ hone] at hlink
  obtain rfl := Option.some.inj hlink
  refine ⟨first, phase, count, requests ++ frames, htracks, ?_⟩
  rw [hheld, ← List.append_assoc, hstream, List.flatMap_append]

/-- `on_device_frame` on the next response. -/
theorem OnTrack.frame {frame : Frame} {rest : List Frame}
    (h : OnTrack started device unread (frame :: rest) host) (hservable : Servable started)
    (hsampled : frame.sequence = 0 → frame.type = Msg.telemetry) (env : Daemon.Env)
    (hok : (Daemon.onDeviceFrame env frame host).1 = Status.ok.code) :
    OnTrack started device unread rest (Daemon.onDeviceFrame env frame host).2 := by
  by_cases htaken : host.takes frame
  · obtain ⟨first, phase, count, requests, htracks, hstream⟩ := h
    have hsequence : frame.sequence ≠ 0 := fun hzero => htaken.1 ⟨hsampled hzero, hzero⟩
    have hanswers : answers (frame :: rest) = frame :: answers rest := by
      simp only [answers]
      rw [List.filter_cons_of_pos (by simpa using hsequence)]
    have hpending := (sessionAcceptResponse_ok htaken.2).1
    have hlive : Live phase host := by
      rcases htracks.waits with hlive | hended
      · exact ⟨hlive.state, hlive.active, hlive.copy, hlive.session⟩
      · exact absurd (hpending.symm.trans hended.free) (by decide)
    have hactive := upgradeActive_of_phase hlive.state
    have hwet : Daemon.onDeviceFrame env frame host = _ := Daemon.onDeviceFrame_taken env htaken
    have hdry : Daemon.onDeviceFrame (hostEnv env.now) frame (holding host []) = _ :=
      @Daemon.onDeviceFrame_taken (hostEnv env.now) frame (holding host []) htaken
    dsimp only at hwet hdry
    rw [if_neg hlive.session, if_pos hactive] at hwet
    rw [if_neg (show (holding host []).session.state ≠ .handshaking from hlive.session),
      if_pos (show upgradeActive (holding host []).upgrade = true from hactive)] at hdry
    obtain ⟨link, phase', count', hstep, htracks'⟩ :=
      htracks.deliver hservable env.now hanswers
    unfold step at hstep
    dsimp only at hstep
    rw [hanswers] at hstep
    dsimp only at hstep
    rw [hdry] at hstep
    rw [hwet] at hok ⊢
    have hunhindered : Unhindered host _ _ := onUpgradeResponse_unhindered env
      { host with session := host.session.completed frame } host.session.pending.frame.type frame
    exact .handled hunhindered hok hstep htracks' hstream
  · obtain ⟨stats, telemetry, count, hquiet⟩ := Daemon.onDeviceFrame_ignored env htaken
    rw [hquiet]
    exact h.keep (.quiet host stats telemetry count) rfl (List.sublist_cons_self frame rest)

theorem OnTrack.observe {frame : Frame} {rest : List Frame}
    (h : OnTrack started device unread (frame :: rest) host) (hservable : Servable started)
    (hsampled : frame.sequence = 0 → frame.type = Msg.telemetry) (env : Daemon.Env)
    (hok : (Daemon.observeDeviceFrame env frame host).1 = Status.ok.code) :
    OnTrack started device unread rest (Daemon.observeDeviceFrame env frame host).2 := by
  unfold Daemon.observeDeviceFrame at hok ⊢
  rw [Daemon.recordChange_result] at hok
  obtain ⟨changes, hnoted⟩ := Daemon.recordChange_eq host
    (if (sessionAcceptResponse host.session frame).1 = .ok then
      .response host.pendingOwner else .other) (Daemon.onDeviceFrame env frame host)
  dsimp only
  rw [hnoted]
  exact (h.frame hservable hsampled env hok).keep (keepsHost_noted _ changes) rfl
    (List.Sublist.refl _)

/-- An upgrade that was given up takes no answer. -/
theorem Abandoned.observe (h : Abandoned host) (env : Daemon.Env) (frame : Frame) :
    Abandoned (Daemon.observeDeviceFrame env frame host).2 := by
  have hignored : ¬ host.takes frame := by
    intro htaken
    have hpending := (sessionAcceptResponse_ok htaken.2).1
    exact absurd (hpending.symm.trans h.free) (by decide)
  obtain ⟨stats, telemetry, count, hquiet⟩ := Daemon.onDeviceFrame_ignored env hignored
  unfold Daemon.observeDeviceFrame
  obtain ⟨changes, hnoted⟩ := Daemon.recordChange_eq host
    (if (sessionAcceptResponse host.session frame).1 = .ok then
      .response host.pendingOwner else .other) (Daemon.onDeviceFrame env frame host)
  dsimp only
  rw [hnoted, hquiet]
  exact ⟨h.state, h.result, h.free⟩

/-! ## The loop of the host -/

/-- One read: the parser hands over the next responses. -/
theorem HostSide.feed {data tail : List UInt8}
    (h : HostSide started device unread (host.parser.input.contents ++ (data ++ tail)) host)
    (hservable : Servable started) (hroom : host.parser.input.size < parserCapacity)
    (env : Daemon.Env)
    (hok : (parserFeed (Daemon.observeDeviceFrame env) host.parser data host).result =
      Status.ok.code) :
    let fed := parserFeed (Daemon.observeDeviceFrame env) host.parser data host
    HostSide started device unread (fed.parser.input.contents ++ tail)
      { fed.context with parser := fed.parser } := by
  intro fed
  rcases h with ⟨responses, hsampled, hincoming, htrack⟩ | habandoned
  · obtain ⟨rest, hresponses, hrest⟩ :=
      parserFeed_frames (Daemon.observeDeviceFrame env) hroom host hincoming hok
    -- The callback has come so far in the responses, whatever they are.
    have hkept := @feedCalls_keeps _ (Daemon.observeDeviceFrame env) (fun context calls =>
        ∀ rest, responses = calls.map Prod.snd ++ rest → OnTrack started device unread rest context)
      ?_ host.parser data host
      (fun rest hall => by rwa [← (show responses = rest from hall)]) hok
    · refine .inl ⟨rest, ?_, hrest, ?_⟩
      · intro frame hframe
        exact hsampled frame (hresponses ▸ List.mem_append_right _ hframe)
      · exact (hkept rest hresponses).keep (keepsHost_parsed _ fed.parser) rfl
          (List.Sublist.refl _)
    · intro context calls frame hcontext hframe rest hall
      rw [List.map_append, List.append_assoc] at hall
      have hmem : frame ∈ responses := by
        rw [hall]
        exact List.mem_append_right _ List.mem_cons_self
      exact (hcontext (frame :: rest) hall).observe hservable (hsampled frame hmem) env hframe
  · have hkept := @feedCalls_always _ (Daemon.observeDeviceFrame env)
      (fun context _ => Abandoned context) (fun frame hcontext => hcontext.observe env frame)
      host.parser data host habandoned
    exact .inr (hkept.keep (keepsHost_parsed _ fed.parser))

/-- All reads of an event. -/
theorem HostSide.read (hservable : Servable started) (env : Daemon.Env) (sizes : List Nat)
    {bytes : List UInt8}
    (h : HostSide started device unread (host.parser.input.contents ++ bytes) host)
    (hroom : host.parser.input.size < parserCapacity)
    (hok : (Daemon.readTransport env (arrivals sizes bytes).1 host).1 = Status.ok.code) :
    let after := (Daemon.readTransport env (arrivals sizes bytes).1 host).2
    after.parser.input.size < parserCapacity ∧
      HostSide started device unread
        (after.parser.input.contents ++ (arrivals sizes bytes).2) after := by
  induction sizes generalizing bytes host with
  | nil => exact ⟨hroom, h⟩
  | cons size sizes ih =>
    cases bytes with
    | nil => exact ⟨hroom, h⟩
    | cons first more =>
      rw [arrivals] at hok ⊢
      dsimp only at hok ⊢
      generalize hcount : min size (Daemon.transportInputSize - 1) = count at hok ⊢
      have hshort : (first :: more.take count).take Daemon.transportInputSize =
          first :: more.take count := by
        refine List.take_of_length_le ?_
        rw [List.length_cons, List.length_take]
        simp only [Daemon.transportInputSize] at hcount ⊢
        omega
      rw [Daemon.readTransport, hshort] at hok ⊢
      dsimp only at hok ⊢
      split at hok
      · rename_i hfailed
        exact absurd hok hfailed
      · rename_i hfed
        rw [if_neg hfed]
        rw [not_not] at hfed
        have hsplit : host.parser.input.contents ++ first :: more =
            host.parser.input.contents ++ ((first :: more.take count) ++ more.drop count) := by
          rw [List.cons_append, List.take_append_drop]
        rw [hsplit] at h
        exact ih (h.feed hservable hroom env hfed) (parserFeed_room _ hroom _ _) hok

/-- What is written goes on the line. -/
theorem HostSide.flush (h : HostSide started device unread incoming host) (env : Daemon.Env)
    (writes : List Daemon.WriteResult) :
    HostSide started device (unread ++ Daemon.flushBytes writes host) incoming
      (Daemon.flushTransport env writes host).2 := by
  have hunwritten := Daemon.flushTransport_unwritten env writes host
  obtain ⟨output, offset, hflushed⟩ := Daemon.flushTransport_eq env writes host
  rw [hflushed] at hunwritten ⊢
  rcases h with ⟨responses, hsampled, hincoming, first, phase, count, requests, htracks, hstream⟩ |
    habandoned
  · refine .inl ⟨responses, hsampled, hincoming, first, phase, count, requests, ?_, ?_⟩
    · exact htracks.kept ⟨rfl, rfl, rfl, rfl, rfl, rfl, rfl, rfl⟩
    · rw [List.append_assoc, hunwritten]
      exact hstream
  · exact .inr ⟨habandoned.state, habandoned.result, habandoned.free⟩

/-- The timer branch. -/
theorem HostSide.timer (h : HostSide started device unread incoming host)
    (hservable : Servable started) (env : Daemon.Env)
    (hok : (Daemon.observeTimer env host).1 = Status.ok.code) :
    HostSide started device unread incoming (Daemon.observeTimer env host).2 := by
  unfold Daemon.observeTimer at hok ⊢
  rw [Daemon.recordChange_result] at hok
  obtain ⟨changes, hnoted⟩ := Daemon.recordChange_eq host (.expiry host.pendingOwner)
    (Daemon.handleTimer env host)
  rw [hnoted]
  have hkeeps := keepsHost_noted (Daemon.handleTimer env host).2 changes
  rcases h with ⟨responses, hsampled, hincoming, htrack⟩ | habandoned
  · obtain ⟨first, phase, count, requests, htracks, hstream⟩ := htrack
    rcases htracks.waits with hlive | hended
    · have hactive : upgradeActive host.upgrade = true := upgradeActive_of_phase hlive.state
      rcases handleTimer_unhindered env hactive with hunhindered | habandoned
      · obtain ⟨link, phase', count', hstep, htracks'⟩ := htracks.tick hservable env.now
        have htrack : OnTrack started device unread responses (Daemon.handleTimer env host).2 :=
          .handled hunhindered hok hstep htracks' hstream
        exact .inl ⟨responses, hsampled, hincoming, htrack.keep hkeeps rfl (List.Sublist.refl _)⟩
      · exact .inr (habandoned.keep hkeeps)
    · have hidle : Daemon.handleTimer env host = (Status.ok.code, host) :=
        handleTimer_waiting (waiting_of_free hended.free env.now)
      rw [hidle] at hkeeps ⊢
      have htrack : OnTrack started device unread responses host :=
        ⟨first, phase, count, requests, htracks, hstream⟩
      exact .inl ⟨responses, hsampled, hincoming, htrack.keep hkeeps rfl (List.Sublist.refl _)⟩
  · have hidle : Daemon.handleTimer env host = (Status.ok.code, host) :=
      handleTimer_waiting (waiting_of_free habandoned.free env.now)
    rw [hidle] at hkeeps ⊢
    exact .inr (habandoned.keep hkeeps)

/-- The other events of the loop, while the upgrade runs. -/
theorem HostSide.aside (h : HostSide started device unread incoming host) {event : Daemon.Event}
    (haside : Link.aside event = true) (hactive : upgradeActive host.upgrade = true)
    (hstep : Daemon.daemonStep host event = some host') :
    HostSide started device unread incoming host' ∧ host'.parser = host.parser := by
  rcases h with ⟨responses, hsampled, hincoming, htrack⟩ | habandoned
  · have hbegun : host.upgrade.state ≠ .validating := by
      obtain ⟨first, phase, count, requests, htracks, _⟩ := htrack
      rcases htracks.waits with hlive | hended
      · have hstate : host.upgrade.state = phase.state := hlive.state
        rw [hstate]
        cases phase <;> decide
      · have hresult : host.upgrade.state = .complete ∧ _ ∧ _ ∨ host.upgrade.state = .error ∧ _ :=
          hended.result
        rcases hresult with ⟨hstate, _⟩ | ⟨hstate, _⟩
        all_goals
          rw [hstate]
          decide
    have hsame := daemonStep_undisturbed haside hactive hbegun hstep
    refine ⟨.inl ⟨responses, hsampled, hincoming, htrack.keep ?_ ?_ (List.Sublist.refl _)⟩,
      hsame.parser⟩
    · exact ⟨hsame.upgrade, hsame.upgradeResult, by rw [hsame.session], by rw [hsame.session],
        by rw [hsame.session], by rw [hsame.session], by rw [hsame.session],
        by rw [hsame.session]⟩
    · rw [Daemon.Context.unwritten, hsame.transportOutput, hsame.transportOutputOffset]
      rfl
  · rw [upgradeActive, habandoned.state] at hactive
    cases hactive

end Host

/-! ## The device -/

section Device

open Simulator (Machine Turn CallEnv)

variable {started : Upgrade} {first count : Nat} {phase : Phase} {host : Daemon.Context}
  {responses requests : List Frame} {before : List UInt8} {machine : Machine}

/-- Only the firmware of the device matters. -/
theorem Tracks.congr_device {link : State} (h : Tracks started first phase count link)
    {device : Simulator.State} (hsame : firmwareOf device = firmwareOf link.device) :
    Tracks started first phase count { link with device := device } := by
  have hat := h.device
  have hflight := h.flight
  have hverify : device.failVerify = false :=
    (congrArg Firmware.failVerify hsame).trans h.failVerify
  rw [← hsame] at hat hflight
  exact { h with device := hat, failVerify := hverify, flight := hflight }

/-- Every request has a sequence. -/
theorem Tracks.sequence_ne {link : State} (h : Tracks started first phase count link)
    {frame : Frame} (hframe : frame ∈ link.toDevice) : frame.sequence ≠ 0 := by
  intro hzero
  obtain ⟨i, _, hnumber⟩ := h.numbers frame (.inl hframe)
  rw [number, hzero, drawn, SkipZero.iter_eq h.first_pos h.first_lt] at hnumber
  exact absurd hnumber (by simp)

/-- The device has these requests to handle, and has emitted some frames behind the responses
that were in flight before. -/
def Emitting (started : Upgrade) (first : Nat) (phase : Phase) (count : Nat)
    (host : Daemon.Context) (responses : List Frame) (before : List UInt8)
    (requests : List Frame) (machine : Machine) : Prop :=
  ∃ emitted, Sampled emitted ∧ machine.history.output = before ++ emitted.flatMap frameBytes ∧
    Tracks started first phase count
      ⟨holding host [], machine.state, requests, answers (responses ++ emitted)⟩

theorem answers_append (first second : List Frame) :
    answers (first ++ second) = answers first ++ answers second :=
  List.filter_append ..

/-- A frame that is emitted. -/
theorem Sampled.emit {emitted : List Frame} (h : Sampled emitted) {frame : Frame}
    (hframe : frame.sequence = 0 → frame.type = Msg.telemetry) (written : Bool) :
    Sampled (emitted ++ if written then [frame] else []) := by
  intro other hother
  rcases List.mem_append.mp hother with hold | hnew
  · exact h other hold
  · cases written with
    | false => cases hnew
    | true =>
      rw [List.mem_singleton.mp hnew]
      exact hframe

/-- The device handles the next request. -/
theorem Emitting.handle {request : Frame} {rest : List Frame}
    (h : Emitting started first phase count host responses before (request :: rest) machine)
    (hservable : Servable started) (hcorrupt : machine.corruptRate ≤ 0) {env : CallEnv}
    (hcomplete : env.line.complete) {memory : Nat → UInt8}
    (hmalloc : env.request.malloc = some memory) :
    Emitting started first phase count host responses before rest
      (Simulator.handleRequest env request machine).2 := by
  obtain ⟨emitted, hsampled, houtput, htracks⟩ := h
  have henv : env.request = ⟨env.request.now, some memory⟩ := by rw [← hmalloc]
  obtain ⟨_, written, hwritten, hstate⟩ := (Simulator.writeFrame_written env.line (some request)
    (Simulator.onFrame env.request request machine.state).1
    { machine with state := (Simulator.onFrame env.request request machine.state).2 }).whole
      hcorrupt hcomplete
  have hserved := htracks.serve hservable env.request.now memory written rfl
  have hsequence : (Simulator.onFrame env.request request machine.state).1.sequence ≠ 0 := by
    have hsame : (Simulator.onFrame env.request request machine.state).1.sequence =
        request.sequence := by
      unfold Simulator.onFrame
      dsimp only
      cases (Simulator.handle env.request request
        { machine.state with rxFrames := machine.state.rxFrames + 1 }).1 <;> rfl
    rw [hsame]
    exact htracks.sequence_ne List.mem_cons_self
  refine ⟨emitted ++ if written then [(Simulator.onFrame env.request request machine.state).1]
    else [], hsampled.emit (fun hzero => absurd hzero hsequence) written, ?_, ?_⟩
  · rw [List.flatMap_append, ← List.append_assoc, ← houtput]
    exact hwritten
  · rw [← List.append_assoc, answers_append, show (Simulator.handleRequest env request
      machine).2.state = _ from hstate]
    unfold State.serve at hserved
    rw [← henv] at hserved
    cases written with
    | false =>
      rw [if_neg Bool.false_ne_true, if_neg Bool.false_ne_true, show answers [] = [] from rfl,
        List.append_nil]
      exact hserved
    | true =>
      have hone : answers [(Simulator.onFrame env.request request machine.state).1] =
          [(Simulator.onFrame env.request request machine.state).1] :=
        List.filter_cons_of_pos (by simpa using hsequence)
      rw [if_pos rfl, if_pos rfl, hone]
      exact hserved

/-- The telemetry of a turn. -/
theorem Emitting.sample
    (h : Emitting started first phase count host responses before requests machine)
    (hcorrupt : machine.corruptRate ≤ 0) {turn : Turn} (hturn : turn.Clean) :
    Emitting started first phase count host responses before requests (machine.sample turn).2 := by
  unfold Machine.sample
  split
  · obtain ⟨emitted, hsampled, houtput, htracks⟩ := h
    obtain ⟨_, written, hwritten, hstate⟩ := (Simulator.writeFrame_written turn.telemetry none
      (Simulator.emitTelemetry turn.now machine.toRunning).1
      { machine with toRunning := (Simulator.emitTelemetry turn.now machine.toRunning).2 }).whole
        hcorrupt hturn.telemetry
    refine ⟨emitted ++ if written then [(Simulator.emitTelemetry turn.now machine.toRunning).1]
      else [], hsampled.emit (fun _ => rfl) written, ?_, ?_⟩
    · rw [List.flatMap_append, ← List.append_assoc, ← houtput]
      exact hwritten
    · have hnone : answers (if written then
          [(Simulator.emitTelemetry turn.now machine.toRunning).1] else []) = [] := by
        cases written <;> rfl
      rw [← List.append_assoc, answers_append, hnone, List.append_nil]
      refine htracks.congr_device ?_
      rw [show (Simulator.sendTelemetry turn.now turn.telemetry machine).2.state = _ from hstate]
      cases written <;> rfl
  · exact h

/-- What no turn changes: there is room in the ring, and the rate of corrupted frames. -/
theorem turn_room (machine : Machine) (turn : Turn)
    (hroom : machine.parser.input.size < parserCapacity) :
    (machine.turn turn).2.parser.input.size < parserCapacity ∧
      (machine.turn turn).2.corruptRate = machine.corruptRate := by
  refine Machine.turn_keeps (P := fun next => next.parser.input.size < parserCapacity ∧
    next.corruptRate = machine.corruptRate) machine turn ?_ ?_ ⟨hroom, rfl⟩
  · unfold Machine.sample
    split
    · have hwritten := Simulator.writeFrame_written turn.telemetry none
        (Simulator.emitTelemetry turn.now machine.toRunning).1
        { machine with toRunning := (Simulator.emitTelemetry turn.now machine.toRunning).2 }
      refine ⟨?_, hwritten.corruptRate⟩
      rw [show (Simulator.sendTelemetry turn.now turn.telemetry machine).2.parser = _ from
        hwritten.noted.parser]
      exact hroom
    · exact ⟨hroom, rfl⟩
  · intro data hsampled
    generalize (machine.sample turn).2 = sampled at hsampled ⊢
    have hrate := @feedCalls_always _ turn.callback
      (fun context _ => context.corruptRate = machine.corruptRate)
      (fun frame hcontext => Eq.trans (Simulator.writeFrame_written _ _ _ _).corruptRate hcontext)
      sampled.parser data sampled hsampled.2
    have hleft := parserFeed_room turn.callback hsampled.1 data sampled
    unfold Machine.feed
    dsimp only
    split <;> exact ⟨hleft, hrate⟩

/-- Where the writes go through, every call succeeds. -/
theorem callback_ok {turn : Turn} (hturn : turn.Clean) (request : Frame) (machine : Machine)
    (hcorrupt : machine.corruptRate ≤ 0) :
    (turn.callback request machine).1 = Status.ok.code := by
  have hwritten := Simulator.writeFrame_written (turn.calls machine.requests.length).line
    (some request)
    (Simulator.onFrame (turn.calls machine.requests.length).request request machine.state).1
    { machine with state := (Simulator.onFrame
      (turn.calls machine.requests.length).request request machine.state).2 }
  exact (hwritten.whole hcorrupt (hturn.calls _)).1

theorem feed_ok {turn : Turn} (hturn : turn.Clean) {machine : Machine}
    (hcorrupt : machine.corruptRate ≤ 0) (hroom : machine.parser.input.size < parserCapacity)
    (data : List UInt8) :
    (parserFeed turn.callback machine.parser data machine).result = Status.ok.code := by
  have hrates := @feedCalls_find _ turn.callback (fun context => context.corruptRate ≤ 0)
    (fun frame hcontext _ => (Simulator.writeFrame_written _ _ _ _).corruptRate.trans_le hcontext)
    machine.parser data machine hcorrupt
  rw [← parserFeed_recorded]
  exact (parserFeed_fed turn.callback hroom data machine).explained.result_ok
    fun call hcall => callback_ok hturn call.2 call.1 (hrates call hcall)

/-- One read of the device: it handles the requests that the read completes. -/
theorem Emitting.feed
    (h : Emitting started first phase count host responses before requests machine)
    (hservable : Servable started) (hcorrupt : machine.corruptRate ≤ 0) {turn : Turn}
    (hturn : turn.Clean) (hmalloc : ∀ n, ∃ memory, (turn.calls n).request.malloc = some memory)
    (hroom : machine.parser.input.size < parserCapacity) {data tail : List UInt8}
    (hstream : machine.parser.input.contents ++ (data ++ tail) = requests.flatMap frameBytes) :
    ∃ rest, Emitting started first phase count host responses before rest (machine.feed turn data) ∧
      (machine.feed turn data).parser.input.contents ++ tail = rest.flatMap frameBytes := by
  have hok := feed_ok hturn hcorrupt hroom data
  obtain ⟨rest, hrequests, hrest⟩ := parserFeed_frames turn.callback hroom machine hstream hok
  have hkept := @feedCalls_keeps _ turn.callback (fun context calls => context.corruptRate ≤ 0 ∧
      ∀ rest, requests = calls.map Prod.snd ++ rest →
        Emitting started first phase count host responses before rest context)
    ?_ machine.parser data machine
    ⟨hcorrupt, fun rest hall => by rwa [← (show requests = rest from hall)]⟩ hok
  · refine ⟨rest, ?_⟩
    unfold Machine.feed
    dsimp only
    rw [if_neg (not_not.mpr hok)]
    exact ⟨hkept.2 rest hrequests, hrest⟩
  · rintro context calls request ⟨hcontext, hserving⟩ _
    refine ⟨(Simulator.writeFrame_written _ _ _ _).corruptRate.trans_le hcontext, ?_⟩
    intro rest hall
    rw [List.map_append, List.append_assoc] at hall
    obtain ⟨memory, hmemory⟩ := hmalloc context.requests.length
    exact (hserving (request :: rest) hall).handle hservable hcontext (hturn.calls _) hmemory

/-- The ways through a turn: nothing is read, the read is handled, or the loop ends. -/
inductive TurnCase (machine : Machine) (turn : Turn) : Int × Machine → Prop
  | passed (hinput : takesInput turn = false) : TurnCase machine turn (Status.ok.code, machine)
  | sampled (hinput : takesInput turn = false) :
      TurnCase machine turn (Status.ok.code, (machine.sample turn).2)
  | received (hinput : takesInput turn = true) :
      TurnCase machine turn ((machine.sample turn).2.receive turn)
  | ended (result : Int) (machine' : Machine) (hresult : result ≠ Status.ok.code) :
      TurnCase machine turn (result, machine')

theorem turn_cases (machine : Machine) (turn : Turn) :
    TurnCase machine turn (machine.turn turn) := by
  have hio : Status.io.code ≠ Status.ok.code := by decide
  have hsampled : (machine.sample turn).1 = Status.ok.code →
      machine.sample turn = (Status.ok.code, (machine.sample turn).2) := fun hok => by rw [← hok]
  unfold Machine.turn
  cases hpoll : turn.poll with
  | interrupted => exact .passed (by rw [takesInput, hpoll])
  | failed => exact .ended _ _ hio
  | timeout =>
    dsimp only
    split
    · exact .ended _ _ hio
    · rename_i hok
      rw [hsampled (not_not.mp hok)]
      exact .sampled (by rw [takesInput, hpoll])
  | ready error input =>
    dsimp only
    split
    · exact .ended _ _ hio
    rename_i hok
    cases error with
    | true => exact .ended _ _ hio
    | false =>
      cases input with
      | true => exact .received (by rw [takesInput, hpoll])
      | false =>
        rw [if_neg Bool.false_ne_true, if_neg Bool.false_ne_true, hsampled (not_not.mp hok)]
        exact .sampled (by rw [takesInput, hpoll])

/-- The telemetry leaves the parser alone. -/
theorem parser_sample (machine : Machine) (turn : Turn) :
    (machine.sample turn).2.parser = machine.parser ∧
      (machine.sample turn).2.corruptRate = machine.corruptRate := by
  unfold Machine.sample
  split
  · have hwritten := Simulator.writeFrame_written turn.telemetry none
      (Simulator.emitTelemetry turn.now machine.toRunning).1
      { machine with toRunning := (Simulator.emitTelemetry turn.now machine.toRunning).2 }
    exact ⟨hwritten.noted.parser, hwritten.corruptRate⟩
  · exact ⟨rfl, rfl⟩

theorem lineArrival_cons (size : Nat) (first : UInt8) (more : List UInt8) :
    ∃ data, lineArrival size (first :: more) =
        (.data first data, more.drop data.length) ∧
      first :: more = (first :: data) ++ more.drop data.length ∧
      (first :: data).take Simulator.lineInputSize = first :: data := by
  refine ⟨more.take (min size (Simulator.lineInputSize - 1)), ?_, ?_, ?_⟩
  · rw [lineArrival, List.length_take]
    congr 1
    rcases Nat.le_total (min size (Simulator.lineInputSize - 1)) more.length with hle | hle
    · rw [min_eq_left hle]
    · rw [min_eq_right hle, List.drop_length, List.drop_eq_nil_of_le hle]
  · rw [List.cons_append, List.length_take]
    congr 1
    rcases Nat.le_total (min size (Simulator.lineInputSize - 1)) more.length with hle | hle
    · rw [min_eq_left hle, List.take_append_drop]
    · rw [min_eq_right hle, List.drop_length, List.append_nil, List.take_of_length_le hle]
  · refine List.take_of_length_le ?_
    rw [List.length_cons, List.length_take]
    simp only [Simulator.lineInputSize]
    omega

/-- One turn of the device.  The bytes `tail` are behind those on the line. -/
theorem Emitting.turn
    (h : Emitting started first phase count host responses before requests machine)
    (hservable : Servable started) (hcorrupt : machine.corruptRate ≤ 0) {turn : Turn}
    (hturn : turn.Clean) (hmalloc : ∀ n, ∃ memory, (turn.calls n).request.malloc = some memory)
    (hroom : machine.parser.input.size < parserCapacity) (size : Nat) {line tail : List UInt8}
    (hstream : machine.parser.input.contents ++ (line ++ tail) = requests.flatMap frameBytes)
    {arrived : Simulator.LineRead × List UInt8}
    (harrived : arrived = if takesInput turn then lineArrival size line else (.nothing, line))
    (hok : (machine.turn { turn with read := arrived.1 }).1 = Status.ok.code) :
    ∃ rest, Emitting started first phase count host responses before rest
        (machine.turn { turn with read := arrived.1 }).2 ∧
      (machine.turn { turn with read := arrived.1 }).2.parser.input.contents ++
        (arrived.2 ++ tail) = rest.flatMap frameBytes := by
  obtain ⟨reading, hreading⟩ : ∃ reading : Turn, reading = { turn with read := arrived.1 } :=
    ⟨_, rfl⟩
  have hinput : takesInput reading = takesInput turn := by rw [hreading]; rfl
  have hclean : reading.Clean := by
    rw [hreading]
    exact ⟨hturn.telemetry, hturn.calls⟩
  have hmemory : ∀ n, ∃ memory, (reading.calls n).request.malloc = some memory := by
    rw [hreading]
    exact hmalloc
  have hread : reading.read = arrived.1 := by rw [hreading]
  rw [← hreading] at hok ⊢
  obtain ⟨hparser, hrate⟩ := parser_sample machine reading
  have hsample := h.sample hcorrupt hclean
  rw [← hparser] at hstream hroom
  rw [← hrate] at hcorrupt
  have hcase := turn_cases machine reading
  generalize machine.turn reading = next at hcase hok ⊢
  cases hcase with
  | passed hnone =>
    rw [harrived, ← hinput, hnone]
    exact ⟨requests, h, by rw [← hparser]; exact hstream⟩
  | sampled hnone =>
    rw [harrived, ← hinput, hnone]
    exact ⟨requests, hsample, hstream⟩
  | received hsome =>
    rw [← hinput, hsome, if_pos rfl] at harrived
    unfold Machine.receive
    cases line with
    | nil =>
      rw [harrived, lineArrival] at hread
      rw [hread, harrived]
      exact ⟨requests, hsample, hstream⟩
    | cons head more =>
      obtain ⟨data, hdata, hline, hshort⟩ := lineArrival_cons size head more
      rw [harrived, hdata] at hread
      rw [hline, List.append_assoc] at hstream
      rw [hread, harrived, hdata]
      dsimp only
      rw [hshort]
      exact hsample.feed hservable hcorrupt hclean hmemory hroom hstream
  | ended result machine' hresult => exact absurd hok hresult

end Device

/-! ## Runs -/

/-- The two sides of the line. -/
structure Sound (started : Upgrade) (wire : Wire) : Prop where
  hostRoom : wire.host.parser.input.size < parserCapacity
  deviceRoom : wire.device.parser.input.size < parserCapacity
  corruptRate : wire.device.corruptRate ≤ 0
  side : HostSide started wire.device.state (wire.device.parser.input.contents ++ wire.toDevice)
    (wire.host.parser.input.contents ++ wire.toHost) wire.host

section Runs

variable {started : Upgrade} {wire wire' : Wire}

/-- The handlers of one event of the transport. -/
theorem Sound.transport (h : Sound started wire) (hservable : Servable started) {env : Daemon.Env}
    {output input : Bool} {writes : List Daemon.WriteResult} {sizes : List Nat}
    (hstep : wire.step (.transport env output writes input sizes) = some wire') :
    Sound started wire' := by
  obtain ⟨arrived, harrived⟩ : ∃ arrived, arrived =
    if input then arrivals sizes wire.toHost else ([], wire.toHost) := ⟨_, rfl⟩
  unfold Wire.step at hstep
  dsimp only at hstep
  rw [← harrived] at hstep
  obtain ⟨host, hhost, rfl⟩ := Option.map_eq_some_iff.mp hstep
  have hhandled := Option.some.inj (Daemon.handleEvent_of_daemonStep hhost)
  unfold Daemon.handleTransportEvent at hhandled
  dsimp only at hhandled
  rw [if_neg Bool.false_ne_true] at hhandled
  obtain ⟨flushed, hflushed⟩ : ∃ flushed, flushed =
    if output then Daemon.flushTransport env writes wire.host
    else (Status.ok.code, wire.host) := ⟨_, rfl⟩
  rw [← hflushed] at hhandled
  have hside : flushed.2.parser = wire.host.parser ∧
      HostSide started wire.device.state
        (wire.device.parser.input.contents ++ (wire.toDevice ++
          if output then Daemon.flushBytes writes wire.host else []))
        (wire.host.parser.input.contents ++ wire.toHost) flushed.2 := by
    rw [hflushed]
    cases output with
    | false =>
      rw [if_neg Bool.false_ne_true, if_neg Bool.false_ne_true, List.append_nil]
      exact ⟨rfl, h.side⟩
    | true =>
      obtain ⟨buffer, offset, heq⟩ := Daemon.flushTransport_eq env writes wire.host
      rw [if_pos rfl, if_pos rfl, ← List.append_assoc]
      exact ⟨by rw [heq], h.side.flush env writes⟩
  obtain ⟨hparser, hside⟩ := hside
  rw [← hparser] at hside
  have hroom := h.hostRoom
  rw [← hparser] at hroom
  split at hhandled
  · rename_i hread
    rw [hread.2, if_pos rfl] at harrived
    rw [harrived] at hhandled ⊢
    obtain ⟨hroom', hside'⟩ := HostSide.read hservable env sizes hside hroom
      (congrArg Prod.fst hhandled)
    rw [hhandled] at hroom' hside'
    exact ⟨hroom', h.deviceRoom, h.corruptRate, hside'⟩
  · rename_i hskipped
    have hquiet : arrived.2 = wire.toHost := by
      rw [harrived]
      cases input with
      | false => rfl
      | true => exact absurd ⟨congrArg Prod.fst hhandled, rfl⟩ hskipped
    rw [hhandled] at hroom hside
    refine ⟨hroom, h.deviceRoom, h.corruptRate, ?_⟩
    show HostSide started wire.device.state _ (host.parser.input.contents ++ arrived.2) host
    rw [hquiet]
    exact hside

theorem Sound.daemon (h : Sound started wire) (hservable : Servable started)
    {event : Daemon.Event} (horderly : Orderly wire (.daemon event))
    (hstep : wire.step (.daemon event) = some wire') : Sound started wire' := by
  have hother : aside event = true → Sound started wire' := by
    intro haside
    have hmapped : (Daemon.daemonStep wire.host event).map
        (fun host => ({ wire with host := host } : Wire)) = some wire' := by
      cases event with
      | transport env event => cases haside
      | _ => exact hstep
    obtain ⟨host, hhost, rfl⟩ := Option.map_eq_some_iff.mp hmapped
    obtain ⟨hside, hparser⟩ := h.side.aside haside (horderly haside) hhost
    refine ⟨?_, h.deviceRoom, h.corruptRate, ?_⟩
    · show host.parser.input.size < parserCapacity
      rw [hparser]
      exact h.hostRoom
    · show HostSide started _ _ (host.parser.input.contents ++ wire.toHost) host
      rw [hparser]
      exact hside
  cases event with
  | transport env event => cases hstep
  | timer env =>
    obtain ⟨host, hhost, rfl⟩ := Option.map_eq_some_iff.mp hstep
    have hhandled : Daemon.observeTimer env wire.host = (Status.ok.code, host) :=
      Option.some.inj (Daemon.handleEvent_of_daemonStep hhost)
    have hside := h.side.timer hservable env (congrArg Prod.fst hhandled)
    rw [hhandled] at hside
    have hparser : host.parser = wire.host.parser := by
      obtain ⟨changes, hnoted⟩ := Daemon.recordChange_eq wire.host
        (.expiry wire.host.pendingOwner) (Daemon.handleTimer env wire.host)
      rw [Daemon.observeTimer, hnoted] at hhandled
      rw [← (Prod.mk.inj hhandled).2]
      exact parser_handleTimer env wire.host
    refine ⟨?_, h.deviceRoom, h.corruptRate, ?_⟩
    · show host.parser.input.size < parserCapacity
      rw [hparser]
      exact h.hostRoom
    · show HostSide started _ _ (host.parser.input.contents ++ wire.toHost) host
      rw [hparser]
      exact hside
  | listener | signal | worker | client | workerThread => exact hother rfl

theorem Sound.device (h : Sound started wire) (hservable : Servable started)
    {turn : Simulator.Turn} {size : Nat} (horderly : Orderly wire (.device turn size))
    (hstep : wire.step (.device turn size) = some wire') : Sound started wire' := by
  obtain ⟨hturn, hmalloc⟩ := horderly
  obtain ⟨arrived, harrived⟩ : ∃ arrived, arrived =
    if takesInput turn then lineArrival size wire.toDevice else (.nothing, wire.toDevice) :=
    ⟨_, rfl⟩
  unfold Wire.step at hstep
  dsimp only at hstep
  rw [← harrived] at hstep
  split at hstep
  · rename_i hok
    obtain rfl := Option.some.inj hstep
    obtain ⟨hroom, hrate⟩ := turn_room wire.device { turn with read := arrived.1 } h.deviceRoom
    refine ⟨h.hostRoom, hroom, hrate.trans_le h.corruptRate, ?_⟩
    rcases h.side with ⟨responses, hsampled, hincoming, first, phase, count, requests, htracks,
      hstream⟩ | habandoned
    · have hserving : Emitting started first phase count wire.host responses
          wire.device.history.output requests wire.device := by
        refine ⟨[], fun _ hnone => absurd hnone List.not_mem_nil, ?_, ?_⟩
        · rw [List.flatMap_nil, List.append_nil]
        · rw [List.append_nil]
          exact htracks
      rw [List.append_assoc] at hstream
      obtain ⟨rest, ⟨emitted, hemitted, houtput, htracks'⟩, hrest⟩ := hserving.turn hservable
        h.corruptRate hturn hmalloc h.deviceRoom size hstream harrived hok
      left
      refine ⟨responses ++ emitted, ?_, ?_, first, phase, count, rest, htracks', ?_⟩
      · intro frame hframe
        exact (List.mem_append.mp hframe).elim (hsampled frame) (hemitted frame)
      · dsimp only
        rw [houtput, List.drop_left, ← List.append_assoc, hincoming, List.flatMap_append]
      · rw [List.append_assoc]
        exact hrest
    · exact .inr habandoned
  · cases hstep

theorem Sound.init (hfresh : Fresh started) (h : (wireSystem started).init wire) :
    Sound started wire := by
  obtain ⟨⟨host, env, hprepared, hqueue⟩, hidle, hverify, hrate, hhost, hdevice, hline, hback⟩ := h
  have hempty : ∀ parser : Parser, parser.input.contents = [] →
      parser.input.size < parserCapacity := fun parser hparser =>
    Parser.room_of_wait (by rw [hparser]; rfl)
  refine ⟨hempty _ hhost, hempty _ hdevice, hrate, .inl ⟨[], by simp [Sampled], ?_, ?_⟩⟩
  · rw [hhost, hback]
    rfl
  -- The first request is queued as it is on the link.
  have hsame : holding host [] = host := by
    have houtput := hprepared.output
    have hoffset := hprepared.outputOffset
    cases host
    cases houtput
    cases hoffset
    rfl
  obtain ⟨frames, hone, hfree, hheld⟩ := queueUpgradeRequest_unhindered env host
    (congrArg Prod.fst hqueue)
  rw [hqueue, hsame] at hfree
  rw [hqueue] at hheld
  have hlink : (system started).init
      ⟨holding wire.host [], wire.device.state, frames, []⟩ := by
    refine ⟨host, wire.device.state, env.now, hprepared, hidle, hverify, ?_⟩
    rw [hfree, proceed_ok, transmit_holding _ _ hone]
    rfl
  obtain ⟨first, phase, count, htracks⟩ := tracks_init hfresh hlink
  refine ⟨first, phase, count, frames, htracks, ?_⟩
  have hnone : host.unwritten = [] := by
    rw [Daemon.Context.unwritten, hprepared.output, List.drop_nil]
  rw [hdevice, hline, hheld, hnone]
  rfl

theorem sound_of_reachable (hfresh : Fresh started)
    (h : (wireSystem started).ReachableBy Orderly wire) : Sound started wire := by
  refine h.invariant (fun _ hinit => .init hfresh hinit) ?_
  intro wire event wire' hsound horderly hstep
  cases event with
  | daemon event => exact hsound.daemon hfresh.servable horderly hstep
  | transport env output writes input sizes => exact hsound.transport hfresh.servable hstep
  | device turn size => exact hsound.device hfresh.servable horderly hstep

end Runs

/-- **An upgrade over a byte stream.**  The daemon's loop and the simulator's loop, with their
partial writes and reads, clients and telemetry, and with responses that the simulator leaves
out.  In every state that is reached:

* the upgrade fails by a timeout only;
* a complete upgrade has installed the image and its version;
* unless it has failed: what has not been handled is the encoding of whole frames in both
  directions; the device has the session of the host, and the image up to its offset; while the
  host transfers or recovers that offset is the host's own or the end of the chunk that is under
  way; and from `FW_END` on the device has the whole image. -/
theorem upgrade_over_byte_stream {capacity : Nat} {imageData : List UInt8}
    {version : CString capacity} {chunkSize : UInt16} {started : Upgrade} {wire : Wire}
    (hstart : upgradeStart imageData (crc32 imageData) version chunkSize = .ok started)
    (hsize : imageData.length ≤ firmwareMaxSize)
    (hreachable : (wireSystem started).ReachableBy Orderly wire) :
    (wire.host.upgrade.state = .error → wire.host.upgradeResult = Status.timeout.code) ∧
    (wire.host.upgrade.state = .complete →
      wire.host.upgradeResult = Status.ok.code ∧ wire.device.state.contents = imageData ∧
      wire.device.state.firmwareVersion.bytes = version.bytes) ∧
    (wire.host.upgrade.state ≠ .error →
      (∃ requests responses : List Frame,
        wire.device.parser.input.contents ++ wire.toDevice ++ wire.host.unwritten =
          requests.flatMap frameBytes ∧
        wire.host.parser.input.contents ++ wire.toHost = responses.flatMap frameBytes) ∧
      (wire.host.upgrade.sessionId ≠ 0 →
        wire.device.state.firmwareSessionId = wire.host.upgrade.sessionId ∧
        wire.device.state.contents.take wire.device.state.firmwareOffset.toNat =
          imageData.take wire.device.state.firmwareOffset.toNat) ∧
      (wire.host.upgrade.state = .transfer ∨ wire.host.upgrade.state = .recover →
        wire.device.state.firmwareOffset = wire.host.upgrade.offset ∨
        wire.device.state.firmwareOffset = wire.host.upgrade.lastChunkEnd) ∧
      (wire.host.upgrade.state = .end ∨ wire.host.upgrade.state = .verify ∨
          wire.host.upgrade.state = .activate ∨ wire.host.upgrade.state = .reboot →
        wire.device.state.contents = imageData)) := by
  obtain ⟨hfresh, himage, hversion⟩ := fresh_of_start hstart hsize
  have hsound := sound_of_reachable hfresh hreachable
  rcases hsound.side with ⟨responses, _, hincoming, first, phase, count, requests, htracks,
    hstream⟩ | habandoned
  · refine ⟨htracks.error, ?_, fun _ => ⟨⟨requests, responses, hstream, hincoming⟩, ?_, ?_, ?_⟩⟩
    · intro hstate
      obtain ⟨rfl, hresult⟩ := htracks.complete hstate
      refine ⟨hresult, ?_, ?_⟩
      · rw [← himage]
        exact (htracks.sent ⟨rfl, rfl⟩).2
      · rw [← hversion, ← htracks.same.version]
        exact htracks.device.activated rfl
    · intro hsession
      obtain ⟨hsame, hholds⟩ := htracks.holds hsession
      rw [← himage]
      exact ⟨hsame, hholds.written⟩
    · intro hstate
      refine htracks.device.moving ?_
      rcases hstate with hstate | hstate
      · rw [htracks.phase_eq .transfer hstate]
        rfl
      · rw [htracks.phase_eq .recover hstate]
        rfl
    · intro hstate
      rw [← himage]
      refine (htracks.sent ?_).2
      rcases hstate with hstate | hstate | hstate | hstate
      · rw [htracks.phase_eq .end hstate]
        exact ⟨rfl, rfl⟩
      · rw [htracks.phase_eq .verify hstate]
        exact ⟨rfl, rfl⟩
      · rw [htracks.phase_eq .activate hstate]
        exact ⟨rfl, rfl⟩
      · rw [htracks.phase_eq .reboot hstate]
        exact ⟨rfl, rfl⟩
  · refine ⟨fun _ => habandoned.result, fun hstate => ?_, fun hstate => ?_⟩
    · rw [habandoned.state] at hstate
      cases hstate
    · exact absurd habandoned.state hstate

/-- The machine of the simulator, with the state of `smallLink`. -/
def smallMachine : Simulator.Machine :=
  { state := Simulator.init ⟨-1, false⟩
    telemetrySamples := 0
    startedNs := 0
    parser := parserInit
    dropRate := 0
    corruptRate := 0
    randomState := 0xC0FFEE01
    history := ⟨[], [], []⟩ }

/-- The first request is in the buffer of the daemon. -/
def smallWire : Wire :=
  ⟨(Daemon.queueUpgradeRequest (hostEnv 0) smallHost).2, smallMachine, [], []⟩

def smallTurn : Simulator.Turn :=
  ⟨.ready false true, 0, ⟨0, []⟩, .nothing,
    fun _ => ⟨⟨0, some fun _ => 0xFF⟩, ⟨0, [.wrote 2, .again true]⟩⟩⟩

/-- A request goes out in two writes, and is read and answered in pieces. -/
def wireExchange : List WireEvent :=
  [.transport (hostEnv 0) true [.wrote 4, .again] false [], .device smallTurn 0,
    .transport (hostEnv 0) true [.wrote 100] false [], .device smallTurn 6,
    .device smallTurn 100, .transport (hostEnv 0) false [] true [5],
    .transport (hostEnv 0) false [] true [0, 100]]

def wireEvents : List WireEvent := (List.replicate 7 wireExchange).flatten

theorem smallWire_init : (wireSystem smallUpgrade).init smallWire := by
  refine ⟨⟨smallHost, hostEnv 0, ⟨rfl, rfl, rfl, by decide, rfl, rfl⟩, ?_⟩, rfl, rfl, le_rfl,
    parserInit_contents, parserInit_contents, rfl, rfl⟩
  have hok : (Daemon.queueUpgradeRequest (hostEnv 0) smallHost).1 = Status.ok.code := by
    decide +kernel
  rw [← hok]
  rfl

theorem smallTurn_orderly (wire : Wire) (size : Nat) : Orderly wire (.device smallTurn size) := by
  have hcomplete : Simulator.LineEnv.complete ⟨0, [.wrote 2, .again true]⟩ := by
    simp [Simulator.LineEnv.complete, Simulator.LineWrite.attempt]
  exact ⟨⟨List.not_mem_nil, fun _ => hcomplete⟩, fun _ => ⟨fun _ => 0xFF, rfl⟩⟩

theorem upgrade_over_byte_stream_small :
    ∃ wire, (wireSystem smallUpgrade).runFrom smallWire wireEvents = some wire ∧
      wire.host.upgrade.state = .complete ∧ wire.device.state.contents = smallImage ∧
      wire.device.state.firmwareVersion.bytes = smallVersion.bytes := by
  have hrun : ((wireSystem smallUpgrade).runFrom smallWire wireEvents).map
      (fun wire => wire.host.upgrade.state) = some .complete := by
    decide +kernel
  obtain ⟨wire, hwire, hcomplete⟩ := Option.map_eq_some_iff.mp hrun
  have horderly : ∀ event ∈ wireEvents, ∀ wire, Orderly wire event := by
    intro event hevent wire
    obtain ⟨events, hevents, hmem⟩ := List.mem_flatten.mp hevent
    rw [List.eq_of_mem_replicate hevents] at hmem
    simp only [wireExchange, List.mem_cons, List.not_mem_nil, or_false] at hmem
    rcases hmem with rfl | rfl | rfl | rfl | rfl | rfl | rfl
    · exact True.intro
    · exact smallTurn_orderly wire 0
    · exact True.intro
    · exact smallTurn_orderly wire 6
    · exact smallTurn_orderly wire 100
    · exact True.intro
    · exact True.intro
  have hreachable : (wireSystem smallUpgrade).ReachableBy Orderly wire :=
    .runFrom (.init smallWire_init) horderly hwire
  have hstart : upgradeStart smallImage (crc32 smallImage) smallVersion 1 = .ok smallUpgrade := rfl
  obtain ⟨_, hinstalled, _⟩ := upgrade_over_byte_stream hstart (by decide) hreachable
  exact ⟨wire, hwire, hcomplete, (hinstalled hcomplete).2⟩

end Link
