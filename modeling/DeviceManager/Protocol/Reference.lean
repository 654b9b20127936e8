import DeviceManager.Protocol.Intake

/-!
# The parser against its reference

With a callback that accepts every frame, a feed takes all of its input and stops
where the wire format has to wait.  So its decisions are those of one scan over the
buffered bytes and the input (`parserFeed_follows`), and the results are stated for
whole streams:

* `parserFeed_reference`: any slicing of a stream gives the frames, the
  counters and the buffered bytes of the reference;
* `parserFeed_roundtrip`: a stream of encoded frames gives back the frames.
-/

namespace Devmgr

open StreamScan

variable {κ : Type}

/-! ## A callback that accepts every frame -/

/-- A callback that always returns `DEVMGR_OK`. -/
def accepting (update : Frame → κ → κ) (frame : Frame) (context : κ) : Int × κ :=
  (Status.ok.code, update frame context)

/-- The context after a list of frames. -/
def deliver (update : Frame → κ → κ) (context : κ) (frames : List Frame) : κ :=
  frames.foldl (fun context frame => update frame context) context

theorem deliver_append (update : Frame → κ → κ) (context : κ) (left right : List Frame) :
    deliver update context (left ++ right) = deliver update (deliver update context left) right :=
  List.foldl_append

/-- From `context` and `stats`, the parser has taken `received` bytes, returned
`DEVMGR_OK`, delivered and counted the scanned events and kept the bytes left. -/
structure Follows (update : Frame → κ → κ) (context : κ) (stats : ParserStats) (received : Nat)
    (scanned : List ScanEvent × List UInt8) (out : Outcome κ) : Prop where
  result : out.result = Status.ok.code
  context : out.context = deliver update context (framesOf scanned.1)
  stats : out.parser.stats = stats.after received scanned.1
  contents : out.parser.input.contents = scanned.2

theorem Follows.stop (update : Frame → κ → κ) (context : κ) (parser : Parser) (emitted : Nat) :
    Follows update context parser.stats 0 ([], parser.input.contents)
      ⟨Status.ok.code, parser, context, emitted⟩ :=
  ⟨rfl, rfl, parser.stats.after_nil.symm, rfl⟩

theorem Follows.trans {update : Frame → κ → κ} {context : κ} {stats : ParserStats} {m n : Nat}
    {first : List ScanEvent × List UInt8} {scanned : List ScanEvent × List UInt8}
    {mid out : Outcome κ} (hfirst : Follows update context stats m first mid)
    (hnext : Follows update mid.context mid.parser.stats n scanned out) :
    Follows update context stats (m + n) (first.1 ++ scanned.1, scanned.2) out where
  result := hnext.result
  context := by rw [hnext.context, hfirst.context, framesOf_append, deliver_append]
  stats := by rw [hnext.stats, hfirst.stats, ParserStats.after_after]
  contents := hnext.contents

/-- The frames that an accepting callback was called with make its context. -/
theorem accepting_context (update : Frame → κ → κ) {parser : Parser} {data : List UInt8}
    {context : κ}
    (hok : (parserFeed (accepting update) parser data context).result = Status.ok.code) :
    (parserFeed (accepting update) parser data context).context =
      deliver update context
        ((feedCalls (accepting update) parser data context).map Prod.snd) := by
  refine feedCalls_keeps
    (R := fun found calls => found = deliver update context (calls.map Prod.snd))
    ?_ parser data rfl hok
  intro found calls frame hfound _
  rw [List.map_append, deliver_append, ← hfound]
  rfl

/-- A feed scans the buffered bytes and the input as one string. -/
theorem parserFeed_follows (update : Frame → κ → κ) {parser : Parser}
    (hroom : parser.input.size < parserCapacity) (data : List UInt8) (context : κ) :
    Follows update context parser.stats data.length
      (scan wireScanner (parser.input.contents ++ data))
      (parserFeed (accepting update) parser data context) := by
  have hfed := parserFeed_fed (accepting update) hroom data context
  have hok := hfed.explained.result_ok fun _ _ => rfl
  obtain ⟨taken, rest, events, hsplit, hhanded, hwhole, _⟩ := hfed.handed
  rw [hwhole hok, List.append_nil] at hsplit
  subst hsplit
  have hscan : scan wireScanner (parser.input.contents ++ taken) = (events,
      (parserFeed (recorded (accepting update)) parser taken
        (context, [])).parser.input.contents) := by
    rw [hhanded.took.reads.scan_eq, scan_of_wait (hhanded.waits hok), List.append_nil]
  have hplain := parserFeed_recorded (accepting update) parser taken context
  have hcontext := accepting_context update (by rw [← hplain]; exact hok)
  rw [feedCalls, hhanded.calls] at hcontext
  rw [hscan]
  refine ⟨?_, hcontext, ?_, ?_⟩
  · rw [← hplain]
    exact hok
  · rw [← hplain]
    exact hhanded.took.stats
  · rw [← hplain]
    rfl

/-! ## Streams in pieces -/

/-- Successive calls of `devmgr_parser_feed`, one for each piece of the input:
the returned codes, and the parser and the context after the last call. -/
def feedAll (callback : Frame → κ → Int × κ) (parser : Parser) (context : κ) :
    List (List UInt8) → List Int × Parser × κ
  | [] => ([], parser, context)
  | piece :: pieces =>
    let fed := parserFeed callback parser piece context
    let rest := feedAll callback fed.parser fed.context pieces
    (fed.result :: rest.1, rest.2)

theorem feedAll_follows (update : Frame → κ → κ) (parser : Parser) (context : κ)
    (pieces : List (List UInt8)) (hwait : scanVerdict parser.input.contents = .wait) :
    (∀ code ∈ (feedAll (accepting update) parser context pieces).1, code = Status.ok.code) ∧
      Follows update context parser.stats pieces.flatten.length
        (scan wireScanner (parser.input.contents ++ pieces.flatten))
        ⟨Status.ok.code, (feedAll (accepting update) parser context pieces).2.1,
          (feedAll (accepting update) parser context pieces).2.2, 0⟩ := by
  induction pieces generalizing parser context with
  | nil =>
    rw [List.flatten_nil, List.append_nil, scan_of_wait hwait]
    exact ⟨by simp [feedAll], Follows.stop update context parser 0⟩
  | cons piece pieces ih =>
    have hfeed := parserFeed_follows update (Parser.room_of_wait hwait) piece context
    have hnext := ih (parserFeed (accepting update) parser piece context).parser
      (parserFeed (accepting update) parser piece context).context
      (by rw [hfeed.contents]; exact scan_rest_wait (S := wireScanner) _)
    refine ⟨?_, ?_⟩
    · intro code hcode
      rcases List.mem_cons.mp hcode with rfl | hrest
      · exact hfeed.result
      · exact hnext.1 code hrest
    · have hall := hfeed.trans hnext.2
      rw [hfeed.contents, ← List.length_append] at hall
      rw [List.flatten_cons, ← List.append_assoc, scan_append (parser.input.contents ++ piece)]
      exact hall

/-- The counters of the reference scanner on a whole string. -/
def referenceStats (stream : List UInt8) : ParserStats :=
  { (scan wireScanner stream).1.foldl ParserStats.record ParserStats.zero with
    bytesReceived := stream.length.toUInt64 }

theorem feedAll_init_follows (update : Frame → κ → κ) (context : κ)
    (pieces : List (List UInt8)) :
    (∀ code ∈ (feedAll (accepting update) parserInit context pieces).1, code = Status.ok.code) ∧
      Follows update context ParserStats.zero pieces.flatten.length
        (scan wireScanner pieces.flatten)
        ⟨Status.ok.code, (feedAll (accepting update) parserInit context pieces).2.1,
          (feedAll (accepting update) parserInit context pieces).2.2, 0⟩ := by
  have hwait : scanVerdict parserInit.input.contents = .wait := by
    rw [parserInit_contents]
    rfl
  have hall := feedAll_follows update parserInit context pieces hwait
  rw [parserInit_contents, List.nil_append] at hall
  exact hall

/-- However a string is cut into calls of `devmgr_parser_feed`, every call
returns `DEVMGR_OK`, and the frames delivered, the bytes left in the ring and the
counters are those of one pass of the reference scanner over the string. -/
theorem parserFeed_reference (update : Frame → κ → κ) (context : κ)
    (pieces : List (List UInt8)) :
    let reference := scan wireScanner pieces.flatten
    let fed := feedAll (accepting update) parserInit context pieces
    (∀ code ∈ fed.1, code = Status.ok.code) ∧
      fed.2.2 = deliver update context (framesOf reference.1) ∧
      fed.2.1.input.contents = reference.2 ∧
      fed.2.1.stats = referenceStats pieces.flatten := by
  obtain ⟨hcodes, hall⟩ := feedAll_init_follows update context pieces
  refine ⟨hcodes, hall.context, hall.contents, ?_⟩
  rw [hall.stats]
  exact ParserStats.ext (UInt64.zero_add _) rfl rfl rfl rfl rfl

/-! ## Encoded frames -/

theorem encodings_eq {frames : List Frame} {encodings : List (List UInt8)}
    (h : List.Forall₂
      (fun frame bytes => ∃ capacity, frameEncode frame capacity = .ok bytes) frames encodings) :
    encodings = frames.map frameBytes := by
  induction h with
  | nil => rfl
  | cons hframe _ ih =>
    obtain ⟨_, hframe⟩ := hframe
    rw [frameEncode_inv hframe, ih, List.map_cons]

theorem ParserStats.foldl_record_frames (stats : ParserStats) (frames : List Frame) :
    (frames.map ScanEvent.frame).foldl record stats =
      { stats with framesDecoded := stats.framesDecoded + frames.length.toUInt64 } := by
  induction frames generalizing stats with
  | nil => ext <;> simp
  | cons frame frames ih =>
    have hsum : stats.framesDecoded + 1 + frames.length.toUInt64 =
        stats.framesDecoded + (frame :: frames).length.toUInt64 := by
      rw [List.length_cons, UInt64.add_assoc, Nat.add_comm frames.length 1]
      exact congrArg _ (UInt64.ofNat_add 1 frames.length).symm
    rw [List.map_cons, List.foldl_cons, ih, ← hsum]
    rfl

/-- Frames encoded one after the other come out of a fresh parser as they went
in, however the bytes are sliced, and nothing is discarded or left over. -/
theorem parserFeed_roundtrip (update : Frame → κ → κ) (context : κ) (frames : List Frame)
    (encodings pieces : List (List UInt8))
    (hencode : List.Forall₂
      (fun frame bytes => ∃ capacity, frameEncode frame capacity = .ok bytes) frames encodings)
    (hslices : pieces.flatten = encodings.flatten) :
    let fed := feedAll (accepting update) parserInit context pieces
    (∀ code ∈ fed.1, code = Status.ok.code) ∧
      fed.2.2 = deliver update context frames ∧
      fed.2.1.stats.discardedBytes = 0 ∧ fed.2.1.stats.crcErrors = 0 ∧
      fed.2.1.stats.lengthErrors = 0 ∧ fed.2.1.input.contents = [] := by
  have hscan : scan wireScanner pieces.flatten = (frames.map .frame, []) := by
    rw [hslices, encodings_eq hencode]
    exact scan_flatten_units scanVerdict_frameBytes rfl frames
  obtain ⟨hcodes, hall⟩ := feedAll_init_follows update context pieces
  rw [hscan] at hall
  have hcontext := hall.context
  have hstats := hall.stats
  rw [framesOf_map_frame] at hcontext
  rw [ParserStats.after, ParserStats.foldl_record_frames] at hstats
  refine ⟨hcodes, hcontext, ?_, ?_, ?_, hall.contents⟩ <;> rw [hstats] <;> rfl

/-- Two pings, the second with a payload that starts like a frame, in three
slices. -/
theorem parserFeed_roundtrip_two_pings :
    let first : Frame := ⟨Msg.ping, Flag.ackRequired, 1, [], by decide⟩
    let second : Frame := ⟨Msg.ping, Flag.ackRequired, 2, [0x44, 0x4d, 0x01], by decide⟩
    let stream := frameBytes first ++ frameBytes second
    let fed := feedAll (accepting fun frame frames => frames ++ [frame]) parserInit []
      [stream.take 5, [], stream.drop 5]
    (∀ code ∈ fed.1, code = Status.ok.code) ∧ fed.2.2 = [first, second] ∧
      fed.2.1.stats.discardedBytes = 0 ∧ fed.2.1.stats.crcErrors = 0 ∧
      fed.2.1.stats.lengthErrors = 0 ∧ fed.2.1.input.contents = [] := by
  intro first second stream
  exact parserFeed_roundtrip _ [] [first, second] [frameBytes first, frameBytes second] _
    (.cons ⟨maxFrame, frameEncode_eq first (Nat.le_refl _)⟩
      (.cons ⟨maxFrame, frameEncode_eq second (Nat.le_refl _)⟩ .nil))
    (by simp [stream])

end Devmgr
