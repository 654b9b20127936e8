import DeviceManager.Lib.Transition
import DeviceManager.Protocol.Intake

/-!
# The books of the parser

Every byte that the parser took was skipped, belongs to a frame that was handed out, or is
still in the ring.  This holds for any callbacks, also for those that fail and so leave the
ring as full as they found it.

* `Books` relates the parser before and after: the bytes it took, and the events of the wire
  format that it went through.
* `feedLoop_books` reads the books of a feed off the bytes that it took and the decisions that
  it made.
* `parserSystem` is a parser in use: calls of `devmgr_parser_feed`, each with a callback of
  its own, and of `devmgr_parser_reset`.

The counters are 64 bits wide, so they hold the counts as long as fewer than `2 ^ 64` bytes
are offered.
-/

namespace Devmgr

open StreamScan

variable {κ : Type}

/-! ## Events and counters -/

/-- The bytes that an event takes. -/
def ScanEvent.size : ScanEvent → Nat
  | .frame delivered => (frameBytes delivered).length
  | .skip _ => 1

/-- The bytes that a list of events takes. -/
def consumed (events : List ScanEvent) : Nat :=
  (events.map ScanEvent.size).sum

/-- The reasons of the bytes that were skipped. -/
def skipsOf (events : List ScanEvent) : List SkipReason :=
  events.filterMap fun
    | .frame _ => none
    | .skip reason => some reason

/-- The length of the encodings of a list of frames. -/
def encodedLength (frames : List Frame) : Nat :=
  (frames.map fun frame => (frameBytes frame).length).sum

theorem scanVerdict_size {data : List UInt8} {n : Nat} {event : ScanEvent}
    (h : scanVerdict data = .consume n event) : n = event.size := by
  unfold scanVerdict at h
  split_ifs at h with hshort hmagic hheader hversion hlimit hbody hcrc
  all_goals cases h
  · rfl
  · rfl
  · rfl
  · have hpayload : (frameAt data (Nat.le_of_not_lt hlimit)).payload.length =
        declaredLength data := by
      rw [frameAt, List.length_take, List.length_drop]
      omega
    rw [ScanEvent.size, frameBytes_length, hpayload]
  · rfl

theorem consumed_append (left right : List ScanEvent) :
    consumed (left ++ right) = consumed left + consumed right := by
  simp [consumed]

theorem consumed_cons (event : ScanEvent) (events : List ScanEvent) :
    consumed (event :: events) = event.size + consumed events :=
  List.sum_cons

theorem encodedLength_cons (frame : Frame) (frames : List Frame) :
    encodedLength (frame :: frames) = (frameBytes frame).length + encodedLength frames :=
  List.sum_cons

theorem consumed_eq (events : List ScanEvent) :
    consumed events = (skipsOf events).length + encodedLength (framesOf events) := by
  induction events with
  | nil => rfl
  | cons event events ih =>
    rw [consumed_cons, ih]
    cases event with
    | frame frame =>
      show (frameBytes frame).length + _ =
        (skipsOf events).length + encodedLength (frame :: framesOf events)
      rw [encodedLength_cons]
      omega
    | skip reason =>
      show 1 + _ = ((skipsOf events).length + 1) + encodedLength (framesOf events)
      omega

theorem length_le_encodedLength (frames : List Frame) : frames.length ≤ encodedLength frames := by
  induction frames with
  | nil => exact Nat.le_refl _
  | cons frame frames ih =>
    rw [encodedLength_cons, frameBytes_length, List.length_cons, headerSize]
    omega

/-- Every error is a byte that is skipped, and for one reason. -/
theorem count_errors_le (skips : List SkipReason) :
    skips.count .crc + skips.count .length ≤ skips.length := by
  induction skips with
  | nil => exact Nat.le_refl _
  | cons reason skips ih =>
    cases reason <;> simp <;> omega

/-- The counters are the numbers of frames and of skipped bytes. -/
theorem ParserStats.foldl_record_eq (stats : ParserStats) (events : List ScanEvent) :
    events.foldl record stats =
      { stats with
        framesDecoded := stats.framesDecoded + (framesOf events).length.toUInt64
        crcErrors := stats.crcErrors + ((skipsOf events).count .crc).toUInt64
        lengthErrors := stats.lengthErrors + ((skipsOf events).count .length).toUInt64
        discardedBytes := stats.discardedBytes + (skipsOf events).length.toUInt64 } := by
  have hone : ∀ (counter : UInt64) (n : Nat),
      counter + 1 + n.toUInt64 = counter + (n + 1).toUInt64 := by
    intro counter n
    rw [UInt64.add_assoc, Nat.add_comm n 1]
    exact congrArg _ (UInt64.ofNat_add 1 n).symm
  induction events generalizing stats with
  | nil => ext <;> simp [framesOf, skipsOf]
  | cons event events ih =>
    rw [List.foldl_cons, ih]
    rcases event with frame | _ | _ | _
    all_goals ext <;> simp [record, framesOf, skipsOf, hone]

/-! ## The loops -/

/-- From `before` to `after` the parser took `received` bytes and went through `events`. -/
structure Books (before : Parser) (received : Nat) (events : List ScanEvent) (after : Parser) :
    Prop where
  stats : after.stats = before.stats.after received events
  bytes : before.input.size + received = consumed events + after.input.size

/-- The decisions take the bytes that are not left. -/
theorem length_eq_of_reads {data left : List UInt8} {events : List ScanEvent}
    (h : Reads wireScanner data events left) : data.length = consumed events + left.length := by
  induction h with
  | refl data => simp [consumed]
  | @step data left n event events hverdict _ ih =>
    have hbounds := wireScanner.consume_bounds hverdict
    have hsize := scanVerdict_size hverdict
    rw [List.length_drop] at ih
    rw [consumed_cons]
    omega

theorem Took.books {before after : Parser} {taken : List UInt8} {events : List ScanEvent}
    (h : Took before taken events after) : Books before taken.length events after where
  stats := h.stats
  bytes := by
    have hlength := length_eq_of_reads h.reads
    rwa [List.length_append, RingBuffer.contents_length, RingBuffer.contents_length] at hlength

/-- What the loops leave behind, with a callback that records its calls: the books, the frames
that were handed out, and what the result says about the bytes that are left. -/
structure Accounts (parser : Parser) (calls : List (κ × Frame)) (received : Nat)
    (events : List ScanEvent) (out : Outcome (κ × List (κ × Frame))) : Prop where
  books : Books parser received events out.parser
  calls : out.context.2.map Prod.snd = calls.map Prod.snd ++ framesOf events
  waits : out.result = Status.ok.code → scanVerdict out.parser.input.contents = .wait

/-- The feed loop.  It finds room in the ring and leaves room, and its result is explained by
its calls. -/
theorem feedLoop_books (callback : Frame → κ → Int × κ) (fuel : Nat) (parser : Parser)
    (data : List UInt8) (state : κ × List (κ × Frame)) (emitted : Nat)
    (hfuel : data.length ≤ fuel) (hroom : parser.input.size < parserCapacity)
    (hcalls : ∀ call ∈ state.2, (callback call.2 call.1).1 = Status.ok.code) :
    let out := feedLoop (recorded callback) fuel parser data state emitted
    out.parser.input.size < parserCapacity ∧ Explains callback out.result out.context.2 ∧
      ∃ received events, received ≤ data.length ∧
        Accounts parser state.2 received events out := by
  have hfed := feedLoop_fed callback fuel parser data state emitted hfuel hroom hcalls
  obtain ⟨taken, rest, events, hsplit, hhanded, _⟩ := hfed.handed
  have hlength := congrArg List.length hsplit
  rw [List.length_append] at hlength
  exact ⟨hfed.room, hfed.explained, taken.length, events, by omega, hhanded.took.books,
    hhanded.calls, hhanded.waits⟩

/-! ## A parser in use -/

/-- A parser, and what happened since it was initialised or reset: the bytes it was offered,
and the frames that were handed to a callback. -/
structure ParserRun where
  parser : Parser
  offered : Nat
  delivered : List Frame

/-- A call of `devmgr_parser_feed` or `devmgr_parser_reset`. -/
inductive ParserCall (κ : Type)
  | feed (callback : Frame → κ → Int × κ) (data : List UInt8) (context : κ)
  | reset

def ParserRun.call (run : ParserRun) : ParserCall κ → ParserRun
  | .feed callback data context =>
    { parser := (parserFeed callback run.parser data context).parser
      offered := run.offered + data.length
      delivered := run.delivered ++
        (feedCalls callback run.parser data context).map Prod.snd }
  | .reset => ⟨parserReset run.parser, 0, []⟩

/-- Any calls on an initialised parser. -/
def parserSystem (κ : Type) : System ParserRun (ParserCall κ) where
  init run := run = ⟨parserInit, 0, []⟩
  step run call := some (run.call call)

/-- The books since the parser was initialised or reset. -/
structure ParserRun.Balanced (run : ParserRun) : Prop where
  room : run.parser.input.size < parserCapacity
  books : ∃ received events, received ≤ run.offered ∧
    run.parser.stats = ParserStats.zero.after received events ∧
    received = consumed events + run.parser.input.size ∧ framesOf events = run.delivered

theorem ParserRun.Balanced.init : ParserRun.Balanced ⟨parserInit, 0, []⟩ :=
  ⟨by decide, 0, [], Nat.le_refl _, (ParserStats.after_nil _).symm, rfl, rfl⟩

theorem ParserRun.Balanced.reset (parser : Parser) :
    ParserRun.Balanced ⟨parserReset parser, 0, []⟩ :=
  ⟨by show 0 < parserCapacity; decide, 0, [], Nat.le_refl _, (ParserStats.after_nil _).symm, rfl,
    rfl⟩

/-- What a feed does, read off the recorded calls. -/
theorem parserFeed_books (callback : Frame → κ → Int × κ) {parser : Parser}
    (hroom : parser.input.size < parserCapacity) (data : List UInt8) (context : κ) :
    let fed := parserFeed callback parser data context
    let calls := feedCalls callback parser data context
    fed.parser.input.size < parserCapacity ∧ Explains callback fed.result calls ∧
      (fed.result = Status.ok.code → fed.parser.input.size < maxFrame) ∧
      ∃ received events, received ≤ data.length ∧ Books parser received events fed.parser ∧
        framesOf events = calls.map Prod.snd := by
  obtain ⟨hless, hexplained, received, events, hle, haccounts⟩ :=
    feedLoop_books callback data.length parser data (context, []) 0 (Nat.le_refl _) hroom
      (by simp)
  dsimp only
  rw [← parserFeed_recorded]
  refine ⟨hless, hexplained, ?_, received, events, hle, haccounts.books, ?_⟩
  · intro hok
    have hlt := length_lt_of_wait (haccounts.waits hok)
    rwa [RingBuffer.contents_length] at hlt
  · exact haccounts.calls.symm

theorem ParserRun.Balanced.call {run : ParserRun} (h : run.Balanced) (call : ParserCall κ) :
    (run.call call).Balanced := by
  cases call with
  | reset => exact .reset run.parser
  | feed callback data context =>
    obtain ⟨hroom, received, events, hle, hstats, hbytes, hframes⟩ := h
    obtain ⟨hless, _, _, more, later, hmore, hbooks, hcalls⟩ :=
      parserFeed_books callback hroom data context
    refine ⟨hless, received + more, events ++ later, Nat.add_le_add hle hmore, ?_, ?_, ?_⟩
    · show (parserFeed callback run.parser data context).parser.stats = _
      rw [hbooks.stats, hstats, ParserStats.after_after]
    · show _ = _ + (parserFeed callback run.parser data context).parser.input.size
      have hfed := hbooks.bytes
      rw [consumed_append]
      omega
    · show _ = run.delivered ++ _
      rw [framesOf_append, hframes, hcalls]

theorem balanced_of_reachable {run : ParserRun} (h : (parserSystem κ).Reachable run) :
    run.Balanced := by
  refine System.Reachable.invariant ?_ ?_ h
  · intro run hinit
    rw [show run = _ from hinit]
    exact .init
  · intro run call run' hbalanced hstep
    obtain rfl := Option.some.inj hstep
    exact hbalanced.call call

/-- The counters of a balanced run, as 64-bit integers. -/
theorem ParserRun.Balanced.counters {run : ParserRun} (h : run.Balanced) :
    ∃ skips : List SkipReason,
      skips.length + encodedLength run.delivered + run.parser.input.size ≤ run.offered ∧
      run.parser.stats =
        { bytesReceived :=
            (skips.length + encodedLength run.delivered + run.parser.input.size).toUInt64
          framesDecoded := run.delivered.length.toUInt64
          crcErrors := (skips.count .crc).toUInt64
          lengthErrors := (skips.count .length).toUInt64
          discardedBytes := skips.length.toUInt64
          overflowBytes := 0 } := by
  obtain ⟨_, received, events, hle, hstats, hbytes, hframes⟩ := h
  rw [consumed_eq, hframes] at hbytes
  refine ⟨skipsOf events, by omega, ?_⟩
  rw [hstats, ParserStats.after, ParserStats.foldl_record_eq, hframes, hbytes]
  ext <;> simp [ParserStats.zero]

/-- In every state of a parser in use: the bytes received are those discarded, those of the
frames delivered and those in the ring; the frames counted are the calls of the callbacks;
every error is a discarded byte; nothing overflowed.  A feed that succeeds leaves less than
the longest frame, and returns `DEVMGR_ERROR_OVERFLOW` only from a callback. -/
theorem parser_accounts {run : ParserRun} (h : (parserSystem κ).Reachable run) :
    let stats := run.parser.stats
    let buffered := ringSize run.parser.input
    stats.bytesReceived =
        stats.discardedBytes + (encodedLength run.delivered).toUInt64 + buffered.toUInt64 ∧
      stats.framesDecoded = run.delivered.length.toUInt64 ∧
      stats.overflowBytes = 0 ∧
      (run.offered < 2 ^ 64 →
        stats.bytesReceived.toNat =
            stats.discardedBytes.toNat + encodedLength run.delivered + buffered ∧
          stats.framesDecoded.toNat = run.delivered.length ∧
          stats.crcErrors.toNat + stats.lengthErrors.toNat ≤ stats.discardedBytes.toNat) ∧
      ∀ (callback : Frame → κ → Int × κ) (data : List UInt8) (context : κ),
        let fed := parserFeed callback run.parser data context
        (fed.result = Status.ok.code → ringSize fed.parser.input < maxFrame) ∧
          (fed.result = Status.overflow.code →
            ∃ call ∈ feedCalls callback run.parser data context,
              (callback call.2 call.1).1 = Status.overflow.code) := by
  have hbalanced := balanced_of_reachable h
  obtain ⟨skips, hoffered, hstats⟩ := hbalanced.counters
  have herrors := count_errors_le skips
  dsimp only
  refine ⟨?_, by rw [hstats], by rw [hstats], ?_, ?_⟩
  · rw [hstats]
    show (_ + _ + ringSize run.parser.input).toUInt64 = _
    simp only [Nat.toUInt64_eq, UInt64.ofNat_add]
  · intro hcounts
    have hframes := length_le_encodedLength run.delivered
    rw [hstats]
    simp only [Nat.toUInt64_eq, UInt64.toNat_ofNat', ringSize]
    rw [Nat.mod_eq_of_lt, Nat.mod_eq_of_lt, Nat.mod_eq_of_lt, Nat.mod_eq_of_lt, Nat.mod_eq_of_lt]
    · exact ⟨rfl, rfl, herrors⟩
    all_goals omega
  · intro callback data context
    obtain ⟨_, hexplained, hleft, _⟩ := parserFeed_books callback hbalanced.room data context
    exact ⟨hleft, (hexplained.result_iff (by decide)).mp⟩

/-- A byte of noise and a ping, with a callback that fails, and then the first byte of the
next frame. -/
theorem parser_accounts_failed_feed :
    let ping : Frame := ⟨Msg.ping, Flag.ackRequired, 1, [], Nat.zero_le _⟩
    let first : ParserCall Unit :=
      .feed (fun _ _ => (Status.overflow.code, ())) (0x00 :: frameBytes ping) ()
    let second : ParserCall Unit := .feed (fun _ _ => (Status.ok.code, ())) [0x44] ()
    let run := (ParserRun.call ⟨parserInit, 0, []⟩ first).call second
    run.delivered.length = 1 ∧ run.offered = 18 ∧ ringSize run.parser.input = 1 ∧
      run.parser.stats.bytesReceived.toNat =
        run.parser.stats.discardedBytes.toNat + encodedLength run.delivered + 1 := by
  intro ping first second run
  have hreach : (parserSystem Unit).Reachable run :=
    .step (.step (.init rfl) trivial (e := first) rfl) trivial (e := second) rfl
  have hsize : ringSize run.parser.input = 1 := by decide +kernel
  have hcounts := (parser_accounts hreach).2.2.2.1 (by decide +kernel)
  exact ⟨by decide +kernel, by decide +kernel, hsize, hsize ▸ hcounts.1⟩

end Devmgr
