import DeviceManager.Lib.Transition
import DeviceManager.Simulator.Simulator

/-!
# Telemetry and refused requests

`simulatorSystem` is the loop of `simulator_run`: requests, the telemetry frame that
`emit_telemetry` sends when it is due, and the counters of `write_frame` and of the parser's
errors.

A request that gets a NACK should leave everything as it was.  `START_TELEMETRY` stores the
interval before it checks it, so a refused interval replaces the one in use.
`onFrame_nack_iff` says what a refused request leaves, and `nack_keeps_state_iff` draws the line:
only `overwritesInterval` breaks the rule, and in a run without it telemetry that is on has
a legal interval.
-/

namespace Simulator

open Devmgr

/-! ## The loop -/

/-- The simulator with what only `emit_telemetry` uses. -/
structure Running where
  state : State
  telemetrySamples : UInt32
  startedNs : UInt64

/-- `emit_telemetry`, up to `write_frame`. -/
def emitTelemetry (now : UInt64) (running : Running) : Frame × Running :=
  let uptimeSeconds := ((now - running.startedNs) / 1000000000).toUInt32
  let wave := (running.telemetrySamples % 21).toInt32 - 10
  let temperature := 36500 + wave * 25
  let voltage := 3300 - running.telemetrySamples % 7
  (⟨Msg.telemetry, Flag.response, 0,
      putLe32 temperature.toUInt32 ++ putLe32 voltage ++ putLe32 uptimeSeconds ++
        putLe32 running.telemetrySamples, by simp [maxPayload]⟩,
    { running with
      telemetrySamples := running.telemetrySamples + 1
      state := { running.state with
        temperatureMillic := temperature
        voltageMv := voltage
        nextTelemetryNs := now + running.state.telemetryIntervalMs.toUInt64 * 1000000 } })

/-- What happens in `simulator_run`: a request, a turn of the loop, a frame that was written,
or a parser that returned an error. -/
inductive SimulatorEvent
  | request (env : Env) (frame : Frame)
  | turn (now : UInt64)
  | written
  | failed

def Running.step (running : Running) : SimulatorEvent → Running
  | .request env frame => { running with state := (onFrame env frame running.state).2 }
  | .turn now =>
    if running.state.telemetryEnabled ∧ now ≥ running.state.nextTelemetryNs then
      (emitTelemetry now running).2
    else running
  | .written =>
    { running with state := { running.state with txFrames := running.state.txFrames + 1 } }
  | .failed =>
    { running with state := { running.state with errors := running.state.errors + 1 } }

/-- Any events from `simulator_init`. -/
def simulatorSystem (config : Config) : System Running SimulatorEvent where
  init running := ∃ startedNs, running = ⟨init config, 0, startedNs⟩
  step running event := some (running.step event)

/-! ## Refused requests -/

/-- An interval that `START_TELEMETRY` accepts. -/
def legalInterval (interval : UInt32) : Prop := 100 ≤ interval ∧ interval ≤ 60000

instance (interval : UInt32) : Decidable (legalInterval interval) :=
  inferInstanceAs (Decidable (_ ∧ _))

/-- The request asks for an interval that is not legal and is not the one that is stored. -/
def State.overwritesInterval (state : State) (request : Frame) : Prop :=
  request.type = Msg.startTelemetry ∧ request.payload.length = 4 ∧
    ¬ legalInterval (getLe32 request.payload) ∧
    getLe32 request.payload ≠ state.telemetryIntervalMs

instance (state : State) (request : Frame) : Decidable (state.overwritesInterval request) :=
  inferInstanceAs (Decidable (_ ∧ _ ∧ _ ∧ _))

/-- The reply is a positive response. -/
def Reply.positive : Reply → Bool
  | .accept _ _ => true
  | .nack _ => false

/-- What a request does: it is refused and nothing changes; it is a `START_TELEMETRY` that is
refused but stored; or it is accepted, and telemetry that is on afterwards has a legal interval
or was on before. -/
inductive Effect (request : Frame) (state : State) : Reply × State → Prop
  | refused (code : UInt16)
      (hstart : request.type = Msg.startTelemetry → request.payload.length ≠ 4) :
      Effect request state (.nack code, state)
  | stored (code : UInt16) (htype : request.type = Msg.startTelemetry)
      (hlength : request.payload.length = 4)
      (hillegal : ¬ legalInterval (getLe32 request.payload)) :
      Effect request state
        (.nack code, { state with telemetryIntervalMs := getLe32 request.payload })
  | accepted {reply : Reply} {state' : State} (hreply : reply.positive = true)
      (hnack : request.type ≠ Msg.nack)
      (htelemetry : state'.telemetryEnabled = true →
        legalInterval state'.telemetryIntervalMs ∨
          state.telemetryEnabled = true ∧
            state'.telemetryIntervalMs = state.telemetryIntervalMs) :
      Effect request state (reply, state')

/-- A handler that has nothing to do with telemetry: it refuses and changes nothing, or it
leaves the interval alone and does not switch telemetry on. -/
inductive Quiet (state : State) : Reply × State → Prop
  | refused (code : UInt16) : Quiet state (.nack code, state)
  | accepted {reply : Reply} {state' : State} (hreply : reply.positive = true)
      (henabled : state'.telemetryEnabled = true → state.telemetryEnabled = true)
      (hinterval : state'.telemetryIntervalMs = state.telemetryIntervalMs) :
      Quiet state (reply, state')

section Requests

variable {env : Env} {request : Frame} {state : State}

theorem legalInterval_iff (interval : UInt32) :
    ¬ (interval < 100 ∨ interval > 60000) ↔ legalInterval interval := by
  rw [legalInterval, not_or, UInt32.not_lt, gt_iff_lt, UInt32.not_lt]

theorem startTelemetry_effect (htype : request.type = Msg.startTelemetry) :
    Effect request state (startTelemetry env request state) := by
  have hnack : request.type ≠ Msg.nack := by
    rw [htype]
    decide
  unfold startTelemetry
  split
  · rename_i hlength
    exact .refused _ fun _ => hlength
  · rename_i hlength
    dsimp only
    split
    · rename_i hrange
      refine .stored _ htype (not_not.mp hlength) ?_
      rw [← legalInterval_iff, not_not]
      exact hrange
    · rename_i hrange
      exact .accepted rfl hnack fun _ => .inl ((legalInterval_iff _).mp hrange)

theorem Quiet.effect {handled : Reply × State} (h : Quiet state handled) {type : UInt8}
    (htype : request.type = type) (hstart : type ≠ Msg.startTelemetry) (hnack : type ≠ Msg.nack) :
    Effect request state handled := by
  subst htype
  cases h with
  | refused code => exact .refused code fun htype => absurd htype hstart
  | accepted hreply henabled hinterval =>
    exact .accepted hreply hnack fun hon => .inr ⟨henabled hon, hinterval⟩

theorem fwBegin_quiet : Quiet state (fwBegin env request state) := by
  unfold fwBegin
  split
  · exact .refused _
  split
  · exact .refused _
  split
  · exact .accepted rfl id rfl
  split
  · exact .refused _
  · exact .accepted rfl id rfl

theorem injectOutage_telemetry (env : Env) (state : State) :
    (state.injectOutage env).telemetryEnabled = state.telemetryEnabled ∧
      (state.injectOutage env).telemetryIntervalMs = state.telemetryIntervalMs := by
  unfold State.injectOutage
  split
  · exact ⟨rfl, rfl⟩
  · exact ⟨rfl, rfl⟩

theorem fwData_quiet : Quiet state (fwData env request state) := by
  unfold fwData
  dsimp only
  split_ifs
  · exact .refused _
  · exact .refused _
  · exact .refused _
  · obtain ⟨henabled, hinterval⟩ := injectOutage_telemetry env state
    exact .accepted rfl (fun hon => henabled ▸ hon) hinterval
  · obtain ⟨henabled, hinterval⟩ := injectOutage_telemetry env
      (state.program (getLe32 (request.payload.drop 4)).toNat (request.payload.drop 8))
    exact .accepted rfl (fun hon => henabled ▸ hon) hinterval
  · exact .refused _

theorem fwStatus_quiet : Quiet state (fwStatus request state) := by
  unfold fwStatus
  split
  · exact .refused _
  · exact .accepted rfl id rfl

theorem fwEnd_quiet : Quiet state (fwEnd request state) := by
  unfold fwEnd
  split
  · exact .refused _
  · exact .accepted rfl id rfl

theorem fwVerify_quiet : Quiet state (fwVerify request state) := by
  unfold fwVerify
  split
  · exact .refused _
  · exact .accepted rfl id rfl

theorem fwActivate_quiet : Quiet state (fwActivate request state) := by
  unfold fwActivate
  split
  · exact .refused _
  · exact .accepted rfl id rfl

theorem Quiet.off {reply : Reply} {state' : State} (hreply : reply.positive = true)
    (hoff : state'.telemetryEnabled = false)
    (hinterval : state'.telemetryIntervalMs = state.telemetryIntervalMs) :
    Quiet state (reply, state') :=
  .accepted hreply (fun hon => absurd (hoff.symm.trans hon) Bool.false_ne_true) hinterval

theorem stopTelemetry_quiet : Quiet state (stopTelemetry state) := .off rfl rfl rfl

theorem enterBootloader_quiet : Quiet state (enterBootloader state) := .off rfl rfl rfl

theorem reboot_quiet : Quiet state (reboot state) := .accepted rfl id rfl

theorem handle_effect (env : Env) (request : Frame) (state : State) :
    Effect request state (handle env request state) := by
  have hsame : ∀ {reply : Reply}, reply.positive = true → Quiet state (reply, state) :=
    fun hreply => .accepted hreply id rfl
  have hbranches : Branches env request state (Effect request state) := by
    constructor
    case ping => exact fun htype => (hsame rfl).effect htype (by decide) (by decide)
    case getInfo => exact fun htype => (hsame rfl).effect htype (by decide) (by decide)
    case getHealth => exact fun htype => (hsame rfl).effect htype (by decide) (by decide)
    case getStats => exact fun htype => (hsame rfl).effect htype (by decide) (by decide)
    case startTelemetry => exact startTelemetry_effect
    case stopTelemetry =>
      exact fun htype => stopTelemetry_quiet.effect htype (by decide) (by decide)
    case enterBootloader =>
      exact fun htype => enterBootloader_quiet.effect htype (by decide) (by decide)
    case fwBegin => exact fun htype => fwBegin_quiet.effect htype (by decide) (by decide)
    case fwData => exact fun htype => fwData_quiet.effect htype (by decide) (by decide)
    case fwStatus => exact fun htype => fwStatus_quiet.effect htype (by decide) (by decide)
    case fwEnd => exact fun htype => fwEnd_quiet.effect htype (by decide) (by decide)
    case fwVerify => exact fun htype => fwVerify_quiet.effect htype (by decide) (by decide)
    case fwActivate => exact fun htype => fwActivate_quiet.effect htype (by decide) (by decide)
    case reboot => exact fun htype => reboot_quiet.effect htype (by decide) (by decide)
    case unknown =>
      intro hunknown
      refine .refused _ fun htype => ?_
      rw [htype] at hunknown
      exact absurd (by decide) hunknown
  exact hbranches.handle

/-- A request that is answered with a NACK leaves the state as it was, exactly if it does not
overwrite the interval. -/
theorem onFrame_nack_iff (h : (onFrame env request state).1.type = Msg.nack) :
    (onFrame env request state).2 = { state with rxFrames := state.rxFrames + 1 } ↔
      ¬ state.overwritesInterval request := by
  have heffect := handle_effect env request { state with rxFrames := state.rxFrames + 1 }
  revert h
  unfold onFrame
  dsimp only
  generalize handle env request { state with rxFrames := state.rxFrames + 1 } = handled
    at heffect ⊢
  intro h
  cases heffect with
  | refused code hstart => exact iff_of_true rfl fun hover => hstart hover.1 hover.2.1
  | stored code htype hlength hillegal =>
    constructor
    · rintro heq ⟨_, _, _, hother⟩
      exact hother (congrArg State.telemetryIntervalMs heq)
    · intro hover
      have hsame : getLe32 request.payload = state.telemetryIntervalMs := by
        by_contra hother
        exact hover ⟨htype, hlength, hillegal, hother⟩
      dsimp only
      rw [hsame]
  | @accepted reply _ hreply hnack _ =>
    cases reply with
    | accept payload hle => exact absurd h hnack
    | nack code => cases hreply

/-- Telemetry that is on has a legal interval. -/
def State.LegalTelemetry (state : State) : Prop :=
  state.telemetryEnabled = true → legalInterval state.telemetryIntervalMs

/-- One request that does not overwrite the interval. -/
theorem State.LegalTelemetry.onFrame (h : state.LegalTelemetry)
    (hover : ¬ state.overwritesInterval request) :
    (onFrame env request state).2.LegalTelemetry := by
  have heffect := handle_effect env request { state with rxFrames := state.rxFrames + 1 }
  show (handle env request { state with rxFrames := state.rxFrames + 1 }).2.LegalTelemetry
  generalize handle env request { state with rxFrames := state.rxFrames + 1 } = handled
    at heffect ⊢
  cases heffect with
  | refused => exact h
  | stored code htype hlength hillegal =>
    intro hon
    by_contra
    refine hover ⟨htype, hlength, hillegal, fun hsame => hillegal ?_⟩
    rw [hsame]
    exact h hon
  | accepted _ _ htelemetry =>
    intro hon
    rcases htelemetry hon with hlegal | ⟨hbefore, hinterval⟩
    · exact hlegal
    · show legalInterval _
      rw [hinterval]
      exact h hbefore

end Requests

/-- The event is not a request that overwrites the interval. -/
def Running.keepsInterval (running : Running) : SimulatorEvent → Prop
  | .request _ frame => ¬ running.state.overwritesInterval frame
  | _ => True

instance (running : Running) (event : SimulatorEvent) : Decidable (running.keepsInterval event) :=
  match event with
  | .request _ frame => inferInstanceAs (Decidable (¬ running.state.overwritesInterval frame))
  | .turn _ => isTrue trivial
  | .written => isTrue trivial
  | .failed => isTrue trivial

theorem legalTelemetry_reachable {config : Config} {running : Running}
    (h : (simulatorSystem config).ReachableBy Running.keepsInterval running) :
    running.state.LegalTelemetry := by
  refine @System.ReachableBy.invariant _ _ _ _ (fun running => running.state.LegalTelemetry) ?_ ?_
    _ h
  · rintro _ ⟨startedNs, rfl⟩ hon
    cases hon
  · intro running event running' hlegal hkeeps hstep
    obtain rfl := Option.some.inj hstep
    cases event with
    | request env frame => exact hlegal.onFrame hkeeps
    | turn now =>
      show (running.step (.turn now)).state.LegalTelemetry
      unfold Running.step
      dsimp only
      split
      · exact hlegal
      · exact hlegal
    | written => exact hlegal
    | failed => exact hlegal

/-- A request that is answered with a NACK changes nothing but the counter of received frames,
exactly if it is not a `START_TELEMETRY` whose illegal interval differs from the stored one.
In a run without such requests, telemetry that is on has an interval of 100 to 60000 ms. -/
theorem nack_keeps_state_iff (config : Config) :
    (∀ running, (simulatorSystem config).Reachable running → ∀ env request,
      (onFrame env request running.state).1.type = Msg.nack →
      ((onFrame env request running.state).2 =
          { running.state with rxFrames := running.state.rxFrames + 1 } ↔
        ¬ running.state.overwritesInterval request)) ∧
    ∀ running, (simulatorSystem config).ReachableBy Running.keepsInterval running →
      running.state.telemetryEnabled = true →
      100 ≤ running.state.telemetryIntervalMs ∧ running.state.telemetryIntervalMs ≤ 60000 :=
  ⟨fun _ _ _ _ hnack => onFrame_nack_iff hnack, fun _ hreach => legalTelemetry_reachable hreach⟩

/-- `START_TELEMETRY` with an interval. -/
def startEvent (interval : UInt32) : SimulatorEvent :=
  .request ⟨0, none⟩ ⟨Msg.startTelemetry, Flag.ackRequired, 1, putLe32 interval, putLe32_le _⟩

/-- An accepted interval, a telemetry frame, and then a request that is not a command. -/
theorem nack_keeps_state_iff_unknown_command :
    let running := (Running.step ⟨init ⟨-1, false⟩, 0, 0⟩ (startEvent 1000)).step (.turn 1000000000)
    let request : Frame := ⟨0x7F, Flag.ackRequired, 2, [], Nat.zero_le _⟩
    running.telemetrySamples = 1 ∧
      (running.state.telemetryEnabled = true ∧ 100 ≤ running.state.telemetryIntervalMs ∧
        running.state.telemetryIntervalMs ≤ 60000) ∧
      (onFrame ⟨0, none⟩ request running.state).2 =
        { running.state with rxFrames := running.state.rxFrames + 1 } := by
  intro running request
  obtain ⟨hnack, hlegal⟩ := nack_keeps_state_iff ⟨-1, false⟩
  have hkept : (simulatorSystem ⟨-1, false⟩).runBy Running.keepsInterval ⟨init ⟨-1, false⟩, 0, 0⟩
      [startEvent 1000, .turn 1000000000] = some running := rfl
  have hrun : (simulatorSystem ⟨-1, false⟩).runFrom ⟨init ⟨-1, false⟩, 0, 0⟩
      [startEvent 1000, .turn 1000000000] = some running := rfl
  have henabled : running.state.telemetryEnabled = true := by decide +kernel
  have hbounds := hlegal running (.runBy (.init ⟨0, rfl⟩) hkept) henabled
  refine ⟨by decide +kernel, ⟨henabled, hbounds⟩, ?_⟩
  exact (hnack running (.runFrom ⟨0, rfl⟩ hrun) ⟨0, none⟩ request (by decide +kernel)).mpr
    (by decide +kernel)

/-- Telemetry is on, and a request for 5 ms is refused: the device goes on with 5 ms. -/
theorem nack_overwrites_interval :
    ∃ running, (simulatorSystem ⟨-1, false⟩).Reachable running ∧
      running.state.telemetryEnabled = true ∧ running.state.telemetryIntervalMs = 1000 ∧
      let request : Frame := ⟨Msg.startTelemetry, Flag.ackRequired, 2, putLe32 5, putLe32_le _⟩
      (onFrame ⟨0, none⟩ request running.state).1.type = Msg.nack ∧
        (onFrame ⟨0, none⟩ request running.state).2.telemetryEnabled = true ∧
        (onFrame ⟨0, none⟩ request running.state).2.telemetryIntervalMs = 5 := by
  refine ⟨_, System.Reachable.runFrom ⟨0, rfl⟩
    (show (simulatorSystem ⟨-1, false⟩).runFrom ⟨init ⟨-1, false⟩, 0, 0⟩ [startEvent 1000] =
      some _ from rfl), by decide +kernel, by decide +kernel, by decide +kernel,
    by decide +kernel, by decide +kernel⟩

end Simulator
