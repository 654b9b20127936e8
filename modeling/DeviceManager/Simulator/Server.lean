import DeviceManager.Simulator.Machine

/-!
# The simulator as a server on a byte stream

The loop of `simulator_run` reads bytes in pieces and writes bytes in pieces.  What it is for
can be said without either: it takes requests, one after the other, and emits a frame for each,
and telemetry between them.  That is `simulatorSystem`, with `exchanged` for what an event emits.

`Written` says what `write_frame` can do.  From it, `handleRequest_serves` and
`sendTelemetry_serves` show that a call keeps `Machine.Serves`: there is a run of
`simulatorSystem` that ends in the same state and emits the same frames, and the bytes on the
line and the counters are those of the frames.  `Machine.Follows` is the other half, the requests
against the reads: of each read the parser takes a prefix, all of it unless the feed fails, and
the requests are those of a scan of what it took.  `parserFeed_fed` has it for one read.
-/

namespace Simulator

open Devmgr StreamScan Transfer

/-! ## One frame -/

/-- What `write_frame` does with a frame. -/
inductive Written (env : LineEnv) (request : Option Frame) (frame : Frame) (machine : Machine) :
    Int × Machine → Prop
  | silenced (hnow : env.now < machine.state.outageUntilNs) :
      Written env request frame machine
        (Status.ok.code, machine.note ⟨request, frame, .silenced⟩ [])
  | dropped (randomState : UInt32) (hrate : 0 < machine.dropRate) :
      Written env request frame machine
        (Status.ok.code,
          { machine with randomState := randomState }.note ⟨request, frame, .dropped⟩ [])
  | sent (randomState : UInt32) (corrupted : Bool)
      (hrate : corrupted = true → 0 < machine.corruptRate) :
      Written env request frame machine
        (Status.ok.code,
          { { machine with randomState := randomState }.note
              ⟨request, frame, .sent corrupted⟩ (lineBytes corrupted frame) with
            state := { machine.state with txFrames := machine.state.txFrames + 1 } })
  | cut (randomState : UInt32) (corrupted : Bool) (count : Nat)
      (hfailed : Attempt.stop ∈ env.writes.map LineWrite.attempt) :
      Written env request frame machine
        (Status.io.code,
          { machine with randomState := randomState }.note
            ⟨request, frame, .cut corrupted count⟩ ((lineBytes corrupted frame).take count))

theorem simulatorRandom_nonneg (randomState : UInt32) :
    0 ≤ (simulatorRandom randomState).1 := by
  have hvalue : (0 : Rat) ≤ ((xorshift randomState).toNat : Rat) := Nat.cast_nonneg _
  exact div_nonneg hvalue (by decide)

/-- What the loop of `write_frame` leaves, where it does not end well. -/
theorem transfer_cut {attempts : List Attempt} {items : List UInt8}
    (h : (transfer attempts items).2 ≠ []) :
    Attempt.stop ∈ attempts ∧
      (transfer attempts items).1 = items.take (transfer attempts items).1.length := by
  constructor
  · by_contra hnever
    exact h (congrArg Prod.snd (transfer_whole hnever items))
  · have htaken : (transfer attempts items).1 <+: items := ⟨_, transfer_append attempts items⟩
    exact List.prefix_iff_eq_take.mp htaken

theorem writeFrame_written (env : LineEnv) (request : Option Frame) (frame : Frame)
    (machine : Machine) :
    Written env request frame machine (writeFrame env request frame machine) := by
  unfold writeFrame
  split
  · rename_i hnow
    exact .silenced hnow
  dsimp only
  split
  · rename_i hdrop
    exact .dropped _ ((simulatorRandom_nonneg _).trans_lt hdrop)
  rw [frameEncode_eq frame (Nat.le_refl _)]
  dsimp only
  have hbytes : ∀ corrupted : Bool, (if corrupted then
      (frameBytes frame).modify headerSize (· ^^^ 0x40) else frameBytes frame) =
        lineBytes corrupted frame := fun _ => rfl
  rw [hbytes]
  generalize hcorrupted : decide ((simulatorRandom (simulatorRandom machine.randomState).2).1 <
    machine.corruptRate ∧ (frameBytes frame).length > headerSize) = corrupted
  split
  · rename_i hwhole
    have hall := transfer_append (env.writes.map LineWrite.attempt) (lineBytes corrupted frame)
    rw [hwhole, List.append_nil] at hall
    rw [hall]
    refine .sent _ corrupted fun htrue => ?_
    rw [htrue, decide_eq_true_iff] at hcorrupted
    exact (simulatorRandom_nonneg _).trans_lt hcorrupted.1
  · rename_i hpart
    obtain ⟨hfailed, htaken⟩ := transfer_cut hpart
    generalize (transfer (env.writes.map LineWrite.attempt)
      (lineBytes corrupted frame)).1.length = count at htaken ⊢
    rw [htaken]
    exact .cut _ corrupted count hfailed

/-! ## The frames -/

/-- What an event of `simulatorSystem` emits, with the request that is answered. -/
def exchanged (running : Running) : SimulatorEvent → List (Option Frame × Frame)
  | .request env frame => [(some frame, (onFrame env frame running.state).1)]
  | .turn now =>
    if running.state.telemetryEnabled ∧ now ≥ running.state.nextTelemetryNs then
      [(none, (emitTelemetry now running).1)]
    else []
  | .written => []
  | .failed => []

/-- The frames that were handed to `write_frame`, with the requests that they answer. -/
def Machine.exchanges (machine : Machine) : List (Option Frame × Frame) :=
  machine.history.emissions.map fun emission => (emission.request, emission.frame)

/-- The frame was written. -/
def Emission.sent (emission : Emission) : Bool :=
  match emission.fate with
  | .sent _ => true
  | _ => false

/-- What handling a request leaves alone: the counters and the configuration, and the end of an
outage if none is configured. -/
structure State.Leaves (before after : State) : Prop where
  received : after.rxFrames = before.rxFrames
  transmitted : after.txFrames = before.txFrames
  failures : after.errors = before.errors
  disconnect : after.disconnectAtPercent = before.disconnectAtPercent
  outage : before.disconnectAtPercent < 0 → after.outageUntilNs = before.outageUntilNs

theorem State.Leaves.injectOutage {before after : State} (h : before.Leaves after) (env : Env) :
    before.Leaves (after.injectOutage env) := by
  unfold State.injectOutage
  split
  · rename_i hinject
    refine ⟨h.received, h.transmitted, h.failures, h.disconnect, fun hnever => ?_⟩
    rw [h.disconnect] at hinject
    omega
  · exact h

theorem handle_leaves (env : Env) (request : Frame) (state : State) :
    state.Leaves (handle env request state).2 := by
  have hsame : state.Leaves state := ⟨rfl, rfl, rfl, rfl, fun _ => rfl⟩
  have hbranches : Branches env request state fun handled => state.Leaves handled.2 := by
    constructor <;> intro _
    case startTelemetry =>
      unfold startTelemetry
      split
      · exact hsame
      dsimp only
      split <;> exact ⟨rfl, rfl, rfl, rfl, fun _ => rfl⟩
    case fwBegin =>
      unfold fwBegin
      split
      · exact hsame
      split
      · exact hsame
      split
      · exact hsame
      split
      · exact hsame
      · exact ⟨rfl, rfl, rfl, rfl, fun _ => rfl⟩
    case fwData =>
      unfold fwData
      dsimp only
      split_ifs
      · exact hsame
      · exact hsame
      · exact hsame
      · exact hsame.injectOutage env
      · refine State.Leaves.injectOutage ?_ env
        exact ⟨rfl, rfl, rfl, rfl, fun _ => rfl⟩
      · exact hsame
    case fwStatus => unfold fwStatus; split <;> exact hsame
    case fwEnd => unfold fwEnd; split <;> exact hsame
    case fwVerify =>
      unfold fwVerify
      split
      · exact hsame
      · exact ⟨rfl, rfl, rfl, rfl, fun _ => rfl⟩
    case fwActivate =>
      unfold fwActivate
      split
      · exact hsame
      · exact ⟨rfl, rfl, rfl, rfl, fun _ => rfl⟩
    all_goals exact ⟨rfl, rfl, rfl, rfl, fun _ => rfl⟩
  exact hbranches.handle

theorem onFrame_leaves (env : Env) (request : Frame) (state : State) :
    State.Leaves { state with rxFrames := state.rxFrames + 1 } (onFrame env request state).2 :=
  handle_leaves env request _

/-- From `start` the frame-level simulator comes to the same state and emits the same frames, of
which `write_frame` has still to deal with the `pending` ones.  The line and the counters belong
to these frames. -/
structure Machine.Serves (config : Config) (start : Running)
    (pending : List (Option Frame × Frame)) (machine : Machine) : Prop where
  trace : (simulatorSystem config).Trace (fun _ _ => True) exchanged start
    (machine.exchanges ++ pending) machine.toRunning
  output : machine.history.output = machine.history.emissions.flatMap Emission.bytes
  received : machine.state.rxFrames =
    (machine.requests ++ pending.filterMap Prod.fst).length.toUInt64
  transmitted : machine.state.txFrames =
    (machine.history.emissions.countP Emission.sent).toUInt64
  failures : machine.state.errors = machine.history.failures.toUInt64

theorem succ_toUInt64 (n : Nat) : (n + 1).toUInt64 = n.toUInt64 + 1 :=
  UInt64.ofNat_add n 1

section Serves

variable {config : Config} {start : Running} {machine : Machine} {request : Option Frame}
  {frame : Frame}

theorem Machine.exchanges_note (emission : Emission) (bytes : List UInt8) :
    (machine.note emission bytes).exchanges =
      machine.exchanges ++ [(emission.request, emission.frame)] := by
  rw [exchanges, note, List.map_append]
  rfl

theorem Machine.requests_note (emission : Emission) (bytes : List UInt8) :
    (machine.note emission bytes).requests = machine.requests ++ emission.request.toList := by
  rw [requests, note, List.filterMap_append]
  cases hrequest : emission.request <;> simp [requests, hrequest]

/-- To note a frame, and to count it if it was written as a whole. -/
theorem Machine.Serves.note (h : machine.Serves config start [(request, frame)]) (fate : Fate)
    (randomState : UInt32) :
    let emission : Emission := ⟨request, frame, fate⟩
    let noted := { machine with randomState := randomState }.note emission emission.bytes
    (emission.sent = false → noted.Serves config start []) ∧
      (emission.sent = true → Machine.Serves config start [] { noted with
        state := { machine.state with txFrames := machine.state.txFrames + 1 } }) := by
  intro emission noted
  have htrace := h.trace
  have hexchanges : machine.exchanges ++ [(request, frame)] = noted.exchanges :=
    (Machine.exchanges_note emission emission.bytes).symm
  rw [hexchanges, ← List.append_nil noted.exchanges] at htrace
  have hreceived := h.received
  have hrequests : machine.requests ++ [(request, frame)].filterMap Prod.fst =
      noted.requests ++ [] := by
    rw [List.append_nil]
    refine Eq.trans ?_ (Machine.requests_note emission emission.bytes).symm
    cases request <;> rfl
  rw [hrequests] at hreceived
  have houtput : noted.history.output = noted.history.emissions.flatMap Emission.bytes := by
    show machine.history.output ++ emission.bytes =
      (machine.history.emissions ++ [emission]).flatMap Emission.bytes
    rw [List.flatMap_append, List.flatMap_singleton, h.output]
  have hcount : noted.history.emissions.countP Emission.sent =
      machine.history.emissions.countP Emission.sent + if emission.sent then 1 else 0 := by
    rw [← List.countP_singleton, ← List.countP_append]
    rfl
  have htransmitted := h.transmitted
  constructor
  · intro hsent
    rw [hsent] at hcount
    refine ⟨htrace, houtput, hreceived, ?_, h.failures⟩
    rw [hcount]
    exact htransmitted
  · intro hsent
    rw [hsent] at hcount
    refine ⟨?_, houtput, hreceived, ?_, h.failures⟩
    · have hwritten := htrace.step (e := .written) trivial rfl
      rw [exchanged, List.append_nil] at hwritten
      exact hwritten
    · show machine.state.txFrames + 1 = (noted.history.emissions.countP Emission.sent).toUInt64
      rw [hcount, htransmitted]
      exact (succ_toUInt64 _).symm

theorem Written.serves {env : LineEnv} {out : Int × Machine}
    (h : Written env request frame machine out)
    (hserves : machine.Serves config start [(request, frame)]) :
    out.2.Serves config start [] := by
  cases h with
  | silenced _ => exact (hserves.note .silenced machine.randomState).1 rfl
  | dropped randomState _ => exact (hserves.note .dropped randomState).1 rfl
  | sent randomState corrupted _ => exact (hserves.note (.sent corrupted) randomState).2 rfl
  | cut randomState corrupted count _ =>
    exact (hserves.note (.cut corrupted count) randomState).1 rfl

/-! ## The calls of `write_frame` -/

theorem handleRequest_serves (env : CallEnv) (request : Frame)
    (h : machine.Serves config start []) :
    (handleRequest env request machine).2.Serves config start [] := by
  have hleaves := onFrame_leaves env.request request machine.state
  refine (writeFrame_written env.line (some request) _ _).serves ⟨?_, h.output, ?_, ?_, ?_⟩
  · have htrace := h.trace
    rw [List.append_nil] at htrace
    exact .step (e := .request env.request request) htrace trivial rfl
  · have hbefore := h.received
    rw [List.filterMap_nil, List.append_nil] at hbefore
    show (onFrame env.request request machine.state).2.rxFrames =
      (machine.requests ++ [request]).length.toUInt64
    rw [hleaves.received, hbefore, List.length_append, List.length_singleton, succ_toUInt64]
  · exact hleaves.transmitted.trans h.transmitted
  · exact hleaves.failures.trans h.failures

theorem sendTelemetry_serves {now : UInt64} (env : LineEnv)
    (hdue : machine.state.telemetryEnabled ∧ now ≥ machine.state.nextTelemetryNs)
    (h : machine.Serves config start []) :
    (sendTelemetry now env machine).2.Serves config start [] := by
  refine (writeFrame_written env none _ _).serves
    ⟨?_, h.output, h.received, h.transmitted, h.failures⟩
  have htrace := h.trace
  rw [List.append_nil] at htrace
  have hstep : machine.toRunning.step (.turn now) = (emitTelemetry now machine.toRunning).2 :=
    if_pos hdue
  have hlabel : exchanged machine.toRunning (.turn now) =
      [(none, (emitTelemetry now machine.toRunning).1)] := if_pos hdue
  have hnext := htrace.step (e := .turn now) trivial (congrArg some hstep)
  rw [hlabel] at hnext
  exact hnext

end Serves

/-! ## The input -/

/-- What `write_frame` leaves as it is, and the request that it notes. -/
structure Machine.Noted (request : Option Frame) (before after : Machine) : Prop where
  parser : after.parser = before.parser
  feeds : after.history.feeds = before.history.feeds
  requests : after.requests = before.requests ++ request.toList

theorem Written.noted {env : LineEnv} {request : Option Frame} {frame : Frame} {machine : Machine}
    {out : Int × Machine} (h : Written env request frame machine out) :
    machine.Noted request out.2 := by
  cases h with
  | silenced _ => exact ⟨rfl, rfl, Machine.requests_note _ _⟩
  | dropped _ _ => exact ⟨rfl, rfl, Machine.requests_note _ _⟩
  | sent _ _ _ => exact ⟨rfl, rfl, Machine.requests_note _ _⟩
  | cut _ _ _ _ => exact ⟨rfl, rfl, Machine.requests_note _ _⟩

theorem handleRequest_noted (env : CallEnv) (request : Frame) (machine : Machine) :
    machine.Noted (some request) (handleRequest env request machine).2 :=
  have hnoted := (writeFrame_written env.line (some request)
    (onFrame env.request request machine.state).1
    { machine with state := (onFrame env.request request machine.state).2 }).noted
  ⟨hnoted.parser, hnoted.feeds, hnoted.requests⟩

/-- What the parser takes of a read: a prefix, all of it unless the feed fails, and then still
what the ring had room for. -/
structure LineFeed.Takes (feed : LineFeed) (taken : List UInt8) : Prop where
  part : taken <+: feed.data
  fitting : feed.data.take feed.room <+: taken
  whole : feed.failed = false → taken = feed.data

/-- The last feed, if there was one, did not fail. -/
def LineHistory.settled (history : LineHistory) : Prop :=
  ∀ feed ∈ history.feeds.getLast?, feed.failed = false

/-- The requests were found by a scan of what the parser took of the reads.  Unless the last feed
failed, the scan has come to its end and waits for more. -/
structure Machine.Follows (machine : Machine) : Prop where
  room : machine.parser.input.size < parserCapacity
  scanned : ∃ taken events, List.Forall₂ LineFeed.Takes machine.history.feeds taken ∧
    Reads wireScanner taken.flatten events machine.parser.input.contents ∧
    machine.requests = framesOf events ∧
    (machine.history.settled → scanVerdict machine.parser.input.contents = .wait)

theorem Machine.Follows.of_noted {before after : Machine} (h : before.Follows)
    (hnoted : before.Noted none after) : after.Follows := by
  obtain ⟨taken, events, htakes, hreads, hrequests, hwaits⟩ := h.scanned
  refine ⟨by rw [hnoted.parser]; exact h.room, taken, events, ?_, ?_, ?_, ?_⟩
  · rw [hnoted.feeds]
    exact htakes
  · rw [hnoted.parser]
    exact hreads
  · rw [hnoted.requests]
    exact (List.append_nil _).trans hrequests
  · rw [LineHistory.settled, hnoted.feeds, hnoted.parser]
    exact hwaits

/-- The requests of one feed are those that the parser hands out. -/
theorem feed_noted (turn : Turn) (machine : Machine) (data : List UInt8) :
    let fed := parserFeed turn.callback machine.parser data machine
    fed.context.requests = machine.requests ++
        (feedCalls turn.callback machine.parser data machine).map Prod.snd ∧
      fed.context.history.feeds = machine.history.feeds := by
  refine feedCalls_always
    (R := fun (after : Machine) (calls : List (Machine × Frame)) =>
      after.requests = machine.requests ++ calls.map Prod.snd ∧
        after.history.feeds = machine.history.feeds)
    ?_ machine.parser data ⟨by simp, rfl⟩
  rintro context calls frame ⟨hrequests, hfeeds⟩
  have hnoted := handleRequest_noted (turn.calls context.requests.length) frame context
  refine ⟨?_, hnoted.feeds.trans hfeeds⟩
  rw [List.map_append, ← List.append_assoc, ← hrequests]
  exact hnoted.requests

/-- One feed goes on with the scan, as far as it takes its input. -/
theorem feed_reads (turn : Turn) {machine : Machine}
    (hroom : machine.parser.input.size < parserCapacity) (data : List UInt8) :
    let fed := parserFeed turn.callback machine.parser data machine
    let noted : LineFeed :=
      ⟨data, ringSpace machine.parser.input, decide (fed.result ≠ Status.ok.code)⟩
    fed.parser.input.size < parserCapacity ∧
      ∃ taken events, noted.Takes taken ∧
        Reads wireScanner (machine.parser.input.contents ++ taken) events
          fed.parser.input.contents ∧
        fed.context.requests = machine.requests ++ framesOf events ∧
        (noted.failed = false → scanVerdict fed.parser.input.contents = .wait) := by
  intro fed noted
  have hfed := parserFeed_fed turn.callback hroom data machine
  have hplain : (parserFeed (recorded turn.callback) machine.parser data (machine, [])).plain =
      fed := parserFeed_recorded turn.callback machine.parser data machine
  obtain ⟨taken, rest, events, hsplit, hhanded, hwhole, hfitting⟩ := hfed.handed
  have hok : noted.failed = false → fed.result = Status.ok.code := fun hfailed =>
    not_not.mp (of_decide_eq_false hfailed)
  have hrequests := (feed_noted turn machine data).1
  rw [feedCalls, hhanded.calls] at hrequests
  rw [← hplain] at hok ⊢
  refine ⟨hfed.room, taken, events, ⟨⟨_, hsplit⟩, hfitting, ?_⟩, hhanded.took.reads, ?_, ?_⟩
  · intro hfailed
    rw [hwhole (hok hfailed), List.append_nil] at hsplit
    exact hsplit
  · rw [hplain]
    exact hrequests
  · exact fun hfailed => hhanded.waits (hok hfailed)

theorem Machine.Follows.feed {machine : Machine} (h : machine.Follows) (turn : Turn)
    (data : List UInt8) : (machine.feed turn data).Follows := by
  obtain ⟨taken, events, htakes, hreads, hrequests, _⟩ := h.scanned
  obtain ⟨hroom, taken', events', htaken, hreads', hfound, hwaits⟩ := feed_reads turn h.room data
  obtain ⟨_, hfeeds⟩ := feed_noted turn machine data
  have hall := (hreads.append taken').trans hreads'
  rw [hrequests, ← framesOf_append] at hfound
  obtain ⟨noted, hnoted⟩ : ∃ noted : LineFeed, noted = ⟨data, ringSpace machine.parser.input,
    decide ((parserFeed turn.callback machine.parser data machine).result ≠ Status.ok.code)⟩ :=
    ⟨_, rfl⟩
  rw [← hnoted] at htaken hwaits
  have hnext : List.Forall₂ LineFeed.Takes (machine.history.feeds ++ [noted])
      (taken ++ [taken']) := List.rel_append htakes (.cons htaken .nil)
  have hlast : ∀ history : LineHistory, history.feeds = machine.history.feeds ++ [noted] →
      history.settled → noted.failed = false := by
    intro history hhistory hsettled
    rw [LineHistory.settled, hhistory, List.getLast?_concat] at hsettled
    exact hsettled noted rfl
  have hflatten : (taken ++ [taken']).flatten = taken.flatten ++ taken' := by simp
  unfold Machine.feed
  dsimp only
  rw [← hnoted, hfeeds]
  split
  · exact ⟨hroom, taken ++ [taken'], events ++ events', hnext, hflatten ▸ hall, hfound,
      fun hsettled => hwaits (hlast _ rfl hsettled)⟩
  · exact ⟨hroom, taken ++ [taken'], events ++ events', hnext, hflatten ▸ hall, hfound,
      fun hsettled => hwaits (hlast _ rfl hsettled)⟩

/-! ## The loop -/

section Loop

variable {config : Config} {start : Running} {machine : Machine}

/-- The rule for one turn: what the telemetry and the feeds keep. -/
theorem Machine.turn_keeps {P : Machine → Prop} (machine : Machine) (turn : Turn)
    (hsample : P (machine.sample turn).2)
    (hfeed : ∀ data, P (machine.sample turn).2 → P ((machine.sample turn).2.feed turn data))
    (h : P machine) : P (machine.turn turn).2 := by
  unfold Machine.turn
  split
  · exact h
  · exact h
  · dsimp only
    split <;> exact hsample
  · dsimp only
    split_ifs
    · exact hsample
    · exact hsample
    · unfold Machine.receive
      split
      · exact hfeed _ hsample
      · exact hsample
      · exact hsample
    · exact hsample

theorem Machine.Serves.feed (h : machine.Serves config start []) (turn : Turn)
    (data : List UInt8) : (machine.feed turn data).Serves config start [] := by
  have hcall : ∀ (context : Machine) (frame : Frame), context.Serves config start [] →
      (turn.callback frame context).2.Serves config start [] :=
    fun _ frame hcontext => handleRequest_serves _ frame hcontext
  have hfed := feedCalls_always (R := fun (after : Machine) _ => after.Serves config start [])
    (fun frame hcontext => hcall _ frame hcontext) machine.parser data h
  have hfailures := hfed.failures
  unfold Machine.feed
  dsimp only
  split
  · rename_i hfailed
    refine ⟨?_, hfed.output, hfed.received, hfed.transmitted, ?_⟩
    · have hstep := hfed.trace.step (e := .failed) trivial rfl
      rw [exchanged, List.append_nil] at hstep
      exact hstep
    · rw [LineHistory.failures, List.countP_append, List.countP_singleton,
        if_pos (decide_eq_true hfailed), succ_toUInt64]
      exact congrArg (· + 1) hfailures
  · rename_i hok
    refine ⟨hfed.trace, hfed.output, hfed.received, hfed.transmitted, ?_⟩
    rw [LineHistory.failures, List.countP_append, List.countP_singleton,
      if_neg (by rw [decide_eq_false hok]; exact Bool.false_ne_true)]
    exact hfailures

theorem Machine.Serves.turn (h : machine.Serves config start []) (turn : Turn) :
    (machine.turn turn).2.Serves config start [] := by
  refine machine.turn_keeps turn ?_ (fun data hsampled => hsampled.feed turn data) h
  unfold Machine.sample
  split
  · rename_i hdue
    exact sendTelemetry_serves turn.telemetry hdue h
  · exact h

theorem Machine.Follows.sample (h : machine.Follows) (turn : Turn) :
    (machine.sample turn).2.Follows := by
  unfold Machine.sample
  split
  · have hnoted := (writeFrame_written turn.telemetry none
      (emitTelemetry turn.now machine.toRunning).1
      { machine with toRunning := (emitTelemetry turn.now machine.toRunning).2 }).noted
    exact h.of_noted ⟨hnoted.parser, hnoted.feeds, hnoted.requests⟩
  · exact h

theorem Machine.Follows.turn (h : machine.Follows) (turn : Turn) :
    (machine.turn turn).2.Follows :=
  machine.turn_keeps turn (h.sample turn) (fun data hsampled => hsampled.feed turn data) h

end Loop

/-- What `simulator_init` leaves. -/
theorem simulatorInit_eq_ok {masterFd : Int} {config : Option FaultConfig} {startedNs : UInt64}
    {machine : Machine} (h : simulatorInit masterFd config startedNs = .ok machine) :
    machine.toRunning = ⟨init (config.getD .default).toConfig, 0, startedNs⟩ ∧
      machine.parser = parserInit ∧ machine.history = ⟨[], [], []⟩ ∧
      machine.dropRate = (config.getD .default).dropRate ∧
      machine.corruptRate = (config.getD .default).corruptRate := by
  unfold simulatorInit at h
  split at h
  · cases h
  · cases h
    exact ⟨rfl, rfl, rfl, rfl, rfl⟩

/-- Feeds that do not fail take all bytes. -/
theorem takes_all {feeds : List LineFeed} {taken : List (List UInt8)}
    (h : List.Forall₂ LineFeed.Takes feeds taken) (hnone : feeds.countP LineFeed.failed = 0) :
    taken.flatten = feeds.flatMap LineFeed.data := by
  rw [List.countP_eq_zero] at hnone
  induction h with
  | nil => rfl
  | @cons feed part feeds taken htakes _ ih =>
    have hpart := htakes.whole (Bool.eq_false_iff.mpr (hnone feed List.mem_cons_self))
    have hrest := ih fun later hlater => hnone later (List.mem_cons_of_mem _ hlater)
    rw [List.flatten_cons, List.flatMap_cons, hpart, hrest]

/-- Where no feed failed, the requests are the frames of all bytes that were read. -/
theorem Machine.Follows.requests_eq {machine : Machine} (h : machine.Follows)
    (hnone : machine.history.failures = 0) :
    machine.requests = framesOf (scan wireScanner machine.history.input).1 ∧
      machine.parser.input.contents = (scan wireScanner machine.history.input).2 := by
  obtain ⟨taken, events, htakes, hreads, hrequests, hwaits⟩ := h.scanned
  have hwait := hwaits fun feed hlast => Bool.eq_false_iff.mpr
    (List.countP_eq_zero.mp hnone feed (List.mem_of_getLast? hlast))
  rw [LineHistory.input, ← takes_all htakes hnone, hreads.scan_eq, scan_of_wait hwait,
    List.append_nil]
  exact ⟨hrequests, rfl⟩

/-- The two sides of the loop: the frames, and the requests. -/
structure Machine.Consistent (config : Config) (machine : Machine) : Prop where
  serves : ∃ startedNs, machine.Serves config ⟨init config, 0, startedNs⟩ []
  follows : machine.Follows

theorem Machine.Consistent.init {config : Option FaultConfig} {machine : Machine}
    (h : (machineSystem config).init machine) :
    machine.Consistent (config.getD .default).toConfig := by
  obtain ⟨masterFd, startedNs, hinit⟩ := h
  obtain ⟨hrunning, hparser, hhistory, _⟩ := simulatorInit_eq_ok hinit
  have hempty : parserInit.input.contents = [] := parserInit_contents
  refine ⟨⟨startedNs, ?_, ?_, ?_, ?_, ?_⟩, ?_, [], [], ?_⟩
  · rw [Machine.exchanges, hhistory, hrunning]
    exact .start
  · rw [hhistory]
    rfl
  · rw [Machine.requests, hhistory, hrunning]
    rfl
  · rw [hhistory, hrunning]
    rfl
  · rw [hhistory, hrunning]
    rfl
  · rw [hparser]
    exact Parser.room_of_wait (by rw [hempty]; rfl)
  · rw [Machine.requests, hhistory, hparser, hempty]
    exact ⟨.nil, .refl _, rfl, fun _ => rfl⟩

/-- A turn after which the loop goes on. -/
theorem machineSystem_step {config : Option FaultConfig} {machine machine' : Machine} {turn : Turn}
    (h : (machineSystem config).step machine turn = some machine') :
    machine' = (machine.turn turn).2 := by
  dsimp only [machineSystem] at h
  split at h
  · exact (Option.some.inj h).symm
  · cases h

theorem Machine.Consistent.step {config : Option FaultConfig} {machine machine' : Machine}
    {turn : Turn} (h : machine.Consistent (config.getD .default).toConfig)
    (hstep : (machineSystem config).step machine turn = some machine') :
    machine'.Consistent (config.getD .default).toConfig := by
  obtain ⟨startedNs, hserves⟩ := h.serves
  rw [machineSystem_step hstep]
  exact ⟨⟨startedNs, hserves.turn turn⟩, h.follows.turn turn⟩

theorem machine_consistent {config : Option FaultConfig} {machine : Machine}
    (h : (machineSystem config).Reachable machine) :
    machine.Consistent (config.getD .default).toConfig :=
  h.invariant (fun _ hinit => .init hinit) fun _ _ _ hmachine hstep => hmachine.step hstep

/-- Whatever the simulator reads, in whatever pieces, and whatever becomes of its writes: the
frames that it emits are those of the frame-level simulator on the requests that it takes, and
both end in the same state.  The bytes on the line are the encodings of these frames in order,
where a frame may be missing, corrupted or cut off as it is noted.  Of each read the parser takes
a prefix: all of it, unless the feed failed, and then what the ring had room for at least.  The
requests are the frames of a scan of what it took that has left the ring to be scanned, and has
come to its end unless the last feed failed.  The three counters count the requests, the frames
written as a whole, and the failed feeds. -/
theorem simulator_serves_stream {config : Option FaultConfig} {machine : Machine}
    (h : (machineSystem config).Reachable machine) :
    (∃ startedNs, (simulatorSystem (config.getD .default).toConfig).Trace (fun _ _ => True)
      exchanged ⟨init (config.getD .default).toConfig, 0, startedNs⟩ machine.exchanges
      machine.toRunning) ∧
    machine.history.output = machine.history.emissions.flatMap Emission.bytes ∧
    (∃ taken events, List.Forall₂ LineFeed.Takes machine.history.feeds taken ∧
      Reads wireScanner taken.flatten events machine.parser.input.contents ∧
      machine.requests = framesOf events ∧
      (machine.history.settled →
        scan wireScanner taken.flatten = (events, machine.parser.input.contents))) ∧
    (machine.history.failures = 0 →
      machine.requests = framesOf (scan wireScanner machine.history.input).1 ∧
        machine.parser.input.contents = (scan wireScanner machine.history.input).2) ∧
    machine.state.rxFrames = machine.requests.length.toUInt64 ∧
    machine.state.txFrames = (machine.history.emissions.countP Emission.sent).toUInt64 ∧
    machine.state.errors = machine.history.failures.toUInt64 := by
  obtain ⟨⟨startedNs, hserves⟩, hfollows⟩ := machine_consistent h
  obtain ⟨taken, events, htakes, hreads, hrequests, hwaits⟩ := hfollows.scanned
  have htrace := hserves.trace
  have hreceived := hserves.received
  rw [List.append_nil] at htrace
  rw [List.filterMap_nil, List.append_nil] at hreceived
  refine ⟨⟨startedNs, htrace⟩, hserves.output, ⟨taken, events, htakes, hreads, hrequests, ?_⟩,
    hfollows.requests_eq, hreceived, hserves.transmitted, hserves.failures⟩
  intro hsettled
  rw [hreads.scan_eq, scan_of_wait (hwaits hsettled), List.append_nil]

/-- Turns from `simulator_init` on. -/
theorem machine_run {config : Option FaultConfig} {masterFd : Int} {startedNs : UInt64}
    {turns : List Turn} {P : Turn → Prop} {machine : Machine} (hturns : ∀ turn ∈ turns, P turn)
    (h : ((simulatorInit masterFd config startedNs).toOption.bind fun machine =>
      (machineSystem config).runFrom machine turns) = some machine) :
    (machineSystem config).ReachableBy (fun _ turn => P turn) machine := by
  obtain ⟨first, hinit, hrun⟩ := Option.bind_eq_some_iff.mp h
  have hfirst : simulatorInit masterFd config startedNs = .ok first := by
    cases hcase : simulatorInit masterFd config startedNs with
    | error error =>
      rw [hcase] at hinit
      cases hinit
    | ok found =>
      rw [hcase] at hinit
      exact congrArg Except.ok (Option.some.inj hinit)
  exact .runFrom (.init ⟨masterFd, startedNs, hfirst⟩) (fun turn hturn _ => hturns turn hturn) hrun

/-- A ping that is read in two pieces and answered in two writes. -/
def pingFrame : Frame := ⟨Msg.ping, Flag.ackRequired, 7, [0x44], Nat.le_of_ble_eq_true rfl⟩

def pingTurn (bytes : List UInt8) : Turn :=
  ⟨.ready false true, 0, ⟨0, []⟩, .data (bytes.headD 0) bytes.tail,
    fun _ => ⟨⟨0, none⟩, ⟨0, [.wrote 4, .again true]⟩⟩⟩

def pingTurns : List Turn :=
  [pingTurn ((frameBytes pingFrame).take 5), pingTurn ((frameBytes pingFrame).drop 5)]

theorem simulator_serves_stream_ping :
    ∃ machine, (machineSystem none).Reachable machine ∧ machine.requests = [pingFrame] ∧
      machine.state.rxFrames = machine.requests.length.toUInt64 ∧
      machine.history.output = machine.history.emissions.flatMap Emission.bytes := by
  have hrun : ((simulatorInit 3 none 0).toOption.bind fun machine =>
      (machineSystem none).runFrom machine pingTurns).map Machine.requests = some [pingFrame] := by
    decide +kernel
  obtain ⟨machine, hmachine, hrequests⟩ := Option.map_eq_some_iff.mp hrun
  have hreachable : (machineSystem none).Reachable machine :=
    machine_run (P := fun _ => True) (fun _ _ => trivial) hmachine
  obtain ⟨_, houtput, _, _, hreceived, _⟩ := simulator_serves_stream hreachable
  exact ⟨machine, hreachable, hrequests, hreceived, houtput⟩

/-! ## A line without faults -/

/-- All writes go through in the end. -/
def LineEnv.complete (env : LineEnv) : Prop :=
  Attempt.stop ∉ env.writes.map LineWrite.attempt

/-- All writes of a turn go through in the end. -/
structure Turn.Clean (turn : Turn) : Prop where
  telemetry : turn.telemetry.complete
  calls : ∀ n, (turn.calls n).line.complete

/-- The configuration injects no fault. -/
structure FaultConfig.Clean (config : FaultConfig) : Prop where
  dropRate : config.dropRate ≤ 0
  corruptRate : config.corruptRate ≤ 0
  disconnect : config.disconnectAtPercent < 0

/-- Everything that was emitted is on the line. -/
structure Machine.Clean (machine : Machine) : Prop where
  dropRate : machine.dropRate ≤ 0
  corruptRate : machine.corruptRate ≤ 0
  disconnect : machine.state.disconnectAtPercent < 0
  outage : machine.state.outageUntilNs = 0
  emissions : ∀ emission ∈ machine.history.emissions, emission.fate = .sent false
  failures : machine.history.failures = 0

/-- Without faults a frame is written as it is. -/
theorem Written.clean {env : LineEnv} {request : Option Frame} {frame : Frame} {machine : Machine}
    {out : Int × Machine} (h : Written env request frame machine out) (hclean : machine.Clean)
    (hcomplete : env.complete) : out.1 = Status.ok.code ∧ out.2.Clean := by
  cases h with
  | silenced hnow =>
    rw [hclean.outage] at hnow
    exact absurd hnow (by simp)
  | dropped randomState hrate => exact absurd hrate (not_lt.mpr hclean.dropRate)
  | sent randomState corrupted hrate =>
    refine ⟨rfl, hclean.dropRate, hclean.corruptRate, hclean.disconnect, hclean.outage, ?_,
      hclean.failures⟩
    intro emission hemission
    rcases List.mem_append.mp hemission with hold | hnew
    · exact hclean.emissions emission hold
    · rw [List.mem_singleton.mp hnew]
      cases corrupted with
      | false => rfl
      | true => exact absurd (hrate rfl) (not_lt.mpr hclean.corruptRate)
  | cut randomState corrupted count hfailed => exact absurd hfailed hcomplete

/-- Where the writes go through and nothing is corrupted, a frame is on the line as a whole or not
at all. -/
theorem Written.whole {env : LineEnv} {request : Option Frame} {frame : Frame} {machine : Machine}
    {out : Int × Machine} (h : Written env request frame machine out)
    (hcorrupt : machine.corruptRate ≤ 0) (hcomplete : env.complete) :
    out.1 = Status.ok.code ∧ ∃ written : Bool,
      out.2.history.output =
        machine.history.output ++ (if written then [frame] else []).flatMap frameBytes ∧
      out.2.state = if written then { machine.state with txFrames := machine.state.txFrames + 1 }
        else machine.state := by
  cases h with
  | silenced _ => exact ⟨rfl, false, rfl, rfl⟩
  | dropped _ _ => exact ⟨rfl, false, rfl, rfl⟩
  | sent randomState corrupted hrate =>
    cases corrupted with
    | false =>
      refine ⟨rfl, true, ?_, rfl⟩
      rw [if_pos rfl, List.flatMap_singleton]
      rfl
    | true => exact absurd (hrate rfl) (not_lt.mpr hcorrupt)
  | cut _ _ _ hfailed => exact absurd hfailed hcomplete

theorem Written.corruptRate {env : LineEnv} {request : Option Frame} {frame : Frame}
    {machine : Machine} {out : Int × Machine} (h : Written env request frame machine out) :
    out.2.corruptRate = machine.corruptRate := by
  cases h <;> rfl

theorem Machine.Clean.callback {machine : Machine} (h : machine.Clean) {turn : Turn}
    (hturn : turn.Clean) (request : Frame) :
    (turn.callback request machine).1 = Status.ok.code ∧
      (turn.callback request machine).2.Clean := by
  have hleaves := onFrame_leaves (turn.calls machine.requests.length).request request
    machine.state
  exact (writeFrame_written _ _ _ _).clean
    ⟨h.dropRate, h.corruptRate, hleaves.disconnect.trans_lt h.disconnect,
      (hleaves.outage h.disconnect).trans h.outage, h.emissions, h.failures⟩ (hturn.calls _)

/-- A feed without faults succeeds. -/
theorem Machine.Clean.feed {machine : Machine} (h : machine.Clean) {turn : Turn}
    (hturn : turn.Clean) (data : List UInt8) (hroom : machine.parser.input.size < parserCapacity) :
    (machine.feed turn data).Clean := by
  have hcalls := @feedCalls_find _ turn.callback Machine.Clean
    (fun frame hcontext _ => (hcontext.callback hturn frame).2) machine.parser data _ h
  have hafter := feedCalls_always (R := fun (after : Machine) _ => after.Clean)
    (fun frame hcontext => (hcontext.callback hturn frame).2) machine.parser data h
  have hresult : (parserFeed turn.callback machine.parser data machine).result =
      Status.ok.code := by
    rw [← parserFeed_recorded]
    exact (parserFeed_fed turn.callback hroom data machine).explained.result_ok
      fun call hcall => ((hcalls call hcall).callback hturn call.2).1
  unfold Machine.feed
  dsimp only
  rw [if_neg (not_not.mpr hresult)]
  refine ⟨hafter.dropRate, hafter.corruptRate, hafter.disconnect, hafter.outage,
    hafter.emissions, ?_⟩
  rw [LineHistory.failures, List.countP_append, List.countP_singleton, hresult]
  exact hafter.failures

theorem Machine.Clean.turn {machine : Machine} (h : machine.Clean) (hfollows : machine.Follows)
    {turn : Turn} (hturn : turn.Clean) : (machine.turn turn).2.Clean := by
  have hsample : (machine.sample turn).2.Clean := by
    unfold Machine.sample
    split
    · have hemitted : Machine.Clean { machine with
          toRunning := (emitTelemetry turn.now machine.toRunning).2 } :=
        ⟨h.dropRate, h.corruptRate, h.disconnect, h.outage, h.emissions, h.failures⟩
      exact ((writeFrame_written turn.telemetry none _ _).clean hemitted hturn.telemetry).2
    · exact h
  have hroom : (machine.sample turn).2.parser.input.size < parserCapacity :=
    (hfollows.sample turn).room
  exact machine.turn_keeps turn hsample (fun data hclean => hclean.feed hturn data hroom) h

theorem machine_clean {config : FaultConfig} (hconfig : config.Clean) {machine : Machine}
    (h : (machineSystem (some config)).ReachableBy (fun _ turn => turn.Clean) machine) :
    machine.Consistent config.toConfig ∧ machine.Clean := by
  refine @System.ReachableBy.invariant _ _ _ _
    (fun machine => machine.Consistent config.toConfig ∧ machine.Clean) ?_ ?_ _ h
  · intro machine hinit
    refine ⟨.init hinit, ?_⟩
    obtain ⟨masterFd, startedNs, hinit⟩ := hinit
    obtain ⟨hrunning, _, hhistory, hdrop, hcorrupt⟩ := simulatorInit_eq_ok hinit
    refine ⟨hdrop.trans_le hconfig.dropRate, hcorrupt.trans_le hconfig.corruptRate, ?_, ?_, ?_, ?_⟩
    · rw [hrunning]
      exact hconfig.disconnect
    · rw [hrunning]
      rfl
    · rw [hhistory]
      exact fun _ hemission => absurd hemission List.not_mem_nil
    · rw [hhistory]
      rfl
  · rintro machine turn machine' ⟨hconsistent, hclean⟩ hturn hstep
    refine ⟨@Machine.Consistent.step (some config) _ _ _ hconsistent hstep, ?_⟩
    rw [machineSystem_step hstep]
    exact hclean.turn hconsistent.follows hturn

/-- A frame that answers a request, or answers none. -/
def Answers : Option Frame × Frame → Prop
  | (some request, response) =>
    response.sequence = request.sequence ∧ response.flags = Flag.response ∧
      (response.type = request.type ∨ response.type = Msg.nack)
  | (none, frame) => frame.type = Msg.telemetry ∧ frame.sequence = 0

theorem exchanged_answers (running : Running) (event : SimulatorEvent) :
    ∀ exchange ∈ exchanged running event, Answers exchange := by
  intro exchange hexchange
  cases event with
  | request env request =>
    rw [List.mem_singleton.mp hexchange]
    show Answers (some request, (handle env request _).1.frame request)
    cases (handle env request { running.state with rxFrames := running.state.rxFrames + 1 }).1 with
    | accept payload payload_le => exact ⟨rfl, rfl, .inl rfl⟩
    | nack code => exact ⟨rfl, rfl, .inr rfl⟩
  | turn now =>
    rw [exchanged] at hexchange
    split at hexchange
    · rw [List.mem_singleton.mp hexchange]
      exact ⟨rfl, rfl⟩
    · cases hexchange
  | written => cases hexchange
  | failed => cases hexchange

theorem Machine.Clean.output {machine : Machine} (h : machine.Clean) :
    machine.history.emissions.flatMap Emission.bytes =
      ((machine.exchanges.map Prod.snd).map frameBytes).flatten := by
  rw [Machine.exchanges, List.map_map, List.map_map, List.flatMap_def]
  congr 1
  refine List.map_congr_left fun emission hemission => ?_
  rw [Emission.bytes, h.emissions emission hemission]
  rfl

theorem Machine.Clean.sent {machine : Machine} (h : machine.Clean) :
    machine.history.emissions.countP Emission.sent = machine.exchanges.length := by
  rw [Machine.exchanges, List.length_map, List.countP_eq_length]
  intro emission hemission
  rw [Emission.sent, h.emissions emission hemission]

/-- Over a line without faults the simulator answers what it is asked.  If the bytes that it has
read are the encodings of some frames, then these are the requests that it took, and a parser
that is fed with the bytes that it wrote, in any pieces, gets one answer for each of them, in
order and under the sequence of its request, and between them the telemetry. -/
theorem clean_line_answers {config : FaultConfig} (hconfig : config.Clean) {machine : Machine}
    (h : (machineSystem (some config)).ReachableBy (fun _ turn => turn.Clean) machine)
    {asked : List Frame} (hasked : machine.history.input = (asked.map frameBytes).flatten)
    (pieces : List (List UInt8)) (hpieces : pieces.flatten = machine.history.output) :
    machine.exchanges.filterMap Prod.fst = asked ∧
      (∀ exchange ∈ machine.exchanges, Answers exchange) ∧
      (feedAll (accepting fun frame frames => frames ++ [frame]) parserInit [] pieces).2.2 =
        machine.exchanges.map Prod.snd ∧
      machine.state.txFrames = machine.exchanges.length.toUInt64 := by
  obtain ⟨⟨⟨startedNs, hserves⟩, hfollows⟩, hclean⟩ := machine_clean hconfig h
  have hunits : ∀ frames : List Frame,
      scan wireScanner (frames.map frameBytes).flatten = (frames.map .frame, []) :=
    fun frames => scan_flatten_units scanVerdict_frameBytes rfl frames
  have hrequests := (hfollows.requests_eq hclean.failures).1
  rw [hasked, hunits, framesOf_map_frame] at hrequests
  have htrace := hserves.trace
  rw [List.append_nil] at htrace
  obtain ⟨_, hfed⟩ := feedAll_init_follows (fun frame frames => frames ++ [frame]) [] pieces
  rw [hpieces, hserves.output, hclean.output, hunits] at hfed
  refine ⟨?_, ?_, ?_, ?_⟩
  · rw [← hrequests, Machine.exchanges, List.filterMap_map]
    rfl
  · refine htrace.invariant (R := fun trace _ => ∀ exchange ∈ trace, Answers exchange) (by simp) ?_
    intro trace running event _ hanswers _ _ exchange hexchange
    rcases List.mem_append.mp hexchange with hold | hnew
    · exact hanswers exchange hold
    · exact exchanged_answers running event exchange hnew
  · have hcontext := hfed.context
    rw [framesOf_map_frame, deliver_concat, List.nil_append] at hcontext
    exact hcontext
  · rw [hserves.transmitted, hclean.sent]

theorem clean_line_answers_ping :
    ∃ machine,
      (machineSystem (some .default)).ReachableBy (fun _ turn => turn.Clean) machine ∧
      machine.exchanges.filterMap Prod.fst = [pingFrame] ∧
      (feedAll (accepting fun frame frames => frames ++ [frame]) parserInit []
        [machine.history.output]).2.2 = machine.exchanges.map Prod.snd := by
  have hrun : ((simulatorInit 3 (some .default) 0).toOption.bind fun machine =>
      (machineSystem (some .default)).runFrom machine pingTurns).map
        (fun machine => machine.history.input) = some ([pingFrame].map frameBytes).flatten := by
    decide +kernel
  obtain ⟨machine, hmachine, hinput⟩ := Option.map_eq_some_iff.mp hrun
  have hcomplete : LineEnv.complete ⟨0, [.wrote 4, .again true]⟩ := by
    simp [LineEnv.complete, LineWrite.attempt]
  have hclean : ∀ bytes, (pingTurn bytes).Clean := fun _ =>
    ⟨List.not_mem_nil, fun _ => hcomplete⟩
  have hturns : ∀ turn ∈ pingTurns, turn.Clean := by
    simp only [pingTurns, List.mem_cons, List.not_mem_nil, or_false, forall_eq_or_imp, forall_eq]
    exact ⟨hclean _, hclean _⟩
  have hreachable := machine_run hturns hmachine
  have hconfig : FaultConfig.default.Clean := ⟨le_rfl, le_rfl, by decide⟩
  obtain ⟨hasked, _, hreceived, _⟩ := clean_line_answers hconfig hreachable hinput
    [machine.history.output] (by simp)
  exact ⟨machine, hreachable, hasked, hreceived⟩

end Simulator
