import DeviceManager.Protocol.Calls

/-!
# What a feed takes in

`devmgr_parser_feed` writes a piece of its input into the ring, drains the ring and goes on
with the next piece.  A callback that fails ends the call at once, and the pieces that were not
written yet stay with the caller.

* `Took` relates the parser before and after: the bytes that went into the ring, the decisions
  of the wire format that were made, and the counters.
* `Handed` adds the calls of the callback and what the result says of the bytes that are left.
  `drainLoop_handed` follows the drain loop, whatever the callback returns.
* `Fed` says what a feed takes of its input: all of it if it succeeds, and in any case what the
  ring has room for.  `feedLoop_fed` follows the feed loop.  A failed callback has made room for
  its own frame, and a loop that ends well leaves less than one frame; so there is room for the
  next write in any case, and the branch that counts an overflow is not taken.
-/

namespace Devmgr

open StreamScan

variable {κ : Type}

/-! ## Bytes and decisions -/

/-- From `before` to `after` the parser wrote `taken` into the ring, and made the decisions
`events` on what was in front. -/
structure Took (before : Parser) (taken : List UInt8) (events : List ScanEvent) (after : Parser) :
    Prop where
  stats : after.stats = before.stats.after taken.length events
  reads : Reads wireScanner (before.input.contents ++ taken) events after.input.contents

theorem Took.refl (parser : Parser) : Took parser [] [] parser where
  stats := parser.stats.after_nil.symm
  reads := by
    rw [List.append_nil]
    exact .refl _

theorem Took.trans {a b c : Parser} {s t : List UInt8} {left right : List ScanEvent}
    (hab : Took a s left b) (hbc : Took b t right c) : Took a (s ++ t) (left ++ right) c where
  stats := by rw [hbc.stats, hab.stats, ParserStats.after_after, List.length_append]
  reads := by
    rw [← List.append_assoc]
    exact (hab.reads.append t).trans hbc.reads

/-- One decision of the drain loop. -/
theorem Took.discard {parser : Parser} {n : Nat} {event : ScanEvent}
    (h : scanVerdict parser.input.contents = .consume n event) :
    Took parser [] [event] (parser.discard n (parser.stats.record event)) where
  stats := (parser.stats.after_event event).symm
  reads := by
    rw [List.append_nil, Parser.discard_contents]
    exact .single h

/-- One write into the ring. -/
theorem Took.receive (parser : Parser) (data : List UInt8) :
    Took parser (data.take (parser.receive data).1) [] (parser.receive data).2 where
  stats := by
    have hwritten := parser.receive_count data
    rw [List.length_take_of_le (by omega)]
    rfl
  reads := by
    rw [show (parser.receive data).2.input.contents = _ from ringWrite_contents _ _]
    exact .refl _

/-! ## The drain loop -/

/-- What the loops leave behind, with a callback that records its calls: the frames among the
decisions were handed out, and a loop that ends well has to wait for more input. -/
structure Handed (parser : Parser) (calls : List (κ × Frame)) (taken : List UInt8)
    (events : List ScanEvent) (out : Outcome (κ × List (κ × Frame))) : Prop where
  took : Took parser taken events out.parser
  calls : out.context.2.map Prod.snd = calls.map Prod.snd ++ framesOf events
  waits : out.result = Status.ok.code → scanVerdict out.parser.input.contents = .wait
  moved : out.result ≠ Status.ok.code → events ≠ []

theorem Handed.stop {parser : Parser} (h : scanVerdict parser.input.contents = .wait)
    (state : κ × List (κ × Frame)) (emitted : Nat) :
    Handed parser state.2 [] [] ⟨Status.ok.code, parser, state, emitted⟩ where
  took := .refl parser
  calls := (List.append_nil _).symm
  waits _ := h
  moved hfailed := absurd rfl hfailed

/-- What was done before belongs to the same account. -/
theorem Handed.prepend {a b : Parser} {calls calls' : List (κ × Frame)} {s t : List UInt8}
    {left right : List ScanEvent} {out : Outcome (κ × List (κ × Frame))} (hab : Took a s left b)
    (hcalls : calls'.map Prod.snd = calls.map Prod.snd ++ framesOf left)
    (h : Handed b calls' t right out) : Handed a calls (s ++ t) (left ++ right) out where
  took := hab.trans h.took
  calls := by rw [h.calls, hcalls, List.append_assoc, framesOf_append]
  waits := h.waits
  moved hfailed := List.append_ne_nil_of_right_ne_nil _ (h.moved hfailed)

/-- The drain loop; a callback that fails has taken its frame out of the ring. -/
theorem drainLoop_handed (callback : Frame → κ → Int × κ) (fuel : Nat) (parser : Parser)
    (state : κ × List (κ × Frame)) (emitted : Nat) (hfuel : parser.input.contents.length ≤ fuel) :
    ∃ events,
      Handed parser state.2 [] events
        (drainLoop (recorded callback) fuel parser state emitted) := by
  induction fuel generalizing parser state emitted with
  | zero =>
    have hnil : parser.input.contents = [] := List.length_eq_zero_iff.mp (by omega)
    exact ⟨[], .stop (by rw [hnil]; rfl) state emitted⟩
  | succ fuel ih =>
    rw [drainLoop_succ]
    rcases hverdict : scanVerdict parser.input.contents with _ | ⟨n, event⟩
    · exact ⟨[], .stop hverdict state emitted⟩
    have hbounds := scanVerdict_bounds hverdict
    have hunit := Took.discard hverdict
    -- The decision is taken, and the rest is the loop on what is left.
    have hrest : ∀ (next : κ × List (κ × Frame)) (emitted : Nat),
        next.2.map Prod.snd = state.2.map Prod.snd ++ framesOf [event] →
        ∃ events, Handed parser state.2 [] events (drainLoop (recorded callback) fuel
          (parser.discard n (parser.stats.record event)) next emitted) := by
      intro next emitted hnext
      obtain ⟨events, hhanded⟩ := ih (parser.discard n (parser.stats.record event)) next emitted
        (by rw [Parser.discard_contents, List.length_drop]; omega)
      exact ⟨_, hhanded.prepend hunit hnext⟩
    cases event with
    | skip reason => exact hrest state emitted (by simp [framesOf])
    | frame frame =>
      dsimp only
      split
      · rename_i hfailed
        exact ⟨[.frame frame], hunit, by simp [recorded, framesOf],
          fun hok => absurd hok hfailed, fun _ => List.cons_ne_nil _ _⟩
      · exact hrest _ _ (by simp [recorded, framesOf])

/-- A drain makes room: a frame was taken out, or less than a frame is left. -/
theorem parserDrain_handed (callback : Frame → κ → Int × κ) (parser : Parser)
    (state : κ × List (κ × Frame)) (emitted : Nat) :
    let out := parserDrain (recorded callback) parser state emitted
    out.parser.input.size < parserCapacity ∧ ∃ events, Handed parser state.2 [] events out := by
  obtain ⟨events, hhanded⟩ := drainLoop_handed callback (ringSize parser.input) parser state
    emitted (by rw [RingBuffer.contents_length]; exact Nat.le_refl _)
  refine ⟨?_, events, hhanded⟩
  rw [parserDrain]
  by_cases hok : (drainLoop (recorded callback) (ringSize parser.input) parser state
      emitted).result = Status.ok.code
  · exact Parser.room_of_wait (hhanded.waits hok)
  · have hless := hhanded.took.reads.length_le
    have hmoved := List.length_pos_iff.mpr (hhanded.moved hok)
    have hsize := parser.input.size_le
    have hcap := parser.capacity_eq
    rw [List.append_nil, RingBuffer.contents_length, RingBuffer.contents_length] at hless
    rw [RingBuffer.capacity] at hcap
    omega

/-! ## The feed loop -/

/-- What a feed leaves behind: room in the ring, a result that its calls explain, and the bytes
it took.  A rest is left only where the feed fails, and only of what the ring had no room for. -/
structure Fed (callback : Frame → κ → Int × κ) (parser : Parser) (calls : List (κ × Frame))
    (data : List UInt8) (out : Outcome (κ × List (κ × Frame))) : Prop where
  room : out.parser.input.size < parserCapacity
  explained : Explains callback out.result out.context.2
  handed : ∃ taken rest events, taken ++ rest = data ∧ Handed parser calls taken events out ∧
    (out.result = Status.ok.code → rest = []) ∧ data.take (ringSpace parser.input) <+: taken

/-- The drain behind the loop. -/
theorem parserDrain_fed {callback : Frame → κ → Int × κ} (parser : Parser)
    {state : κ × List (κ × Frame)} (emitted : Nat)
    (hcalls : ∀ call ∈ state.2, (callback call.2 call.1).1 = Status.ok.code) :
    Fed callback parser state.2 [] (parserDrain (recorded callback) parser state emitted) := by
  obtain ⟨hless, events, hhanded⟩ := parserDrain_handed callback parser state emitted
  refine ⟨hless, drainLoop_explained _ _ _ hcalls, [], [], events, rfl, hhanded, fun _ => rfl, ?_⟩
  rw [List.take_nil]

/-- The feed loop, from a ring with room in it. -/
theorem feedLoop_fed (callback : Frame → κ → Int × κ) (fuel : Nat) (parser : Parser)
    (data : List UInt8) (state : κ × List (κ × Frame)) (emitted : Nat)
    (hfuel : data.length ≤ fuel) (hroom : parser.input.size < parserCapacity)
    (hcalls : ∀ call ∈ state.2, (callback call.2 call.1).1 = Status.ok.code) :
    Fed callback parser state.2 data
      (feedLoop (recorded callback) fuel parser data state emitted) := by
  induction fuel generalizing parser data state emitted with
  | zero =>
    obtain rfl : data = [] := List.length_eq_zero_iff.mp (by omega)
    exact parserDrain_fed parser emitted hcalls
  | succ fuel ih =>
    rw [feedLoop]
    split
    · rename_i hnil
      obtain rfl : data = [] := List.length_eq_zero_iff.mp hnil
      exact parserDrain_fed parser emitted hcalls
    rename_i hdata
    have hwritten := parser.receive_count data
    have hspace := size_add_ringSpace parser.input
    have hcap := parser.capacity_eq
    rw [RingBuffer.capacity] at hcap
    obtain ⟨hless, events, hhanded⟩ := parserDrain_handed callback (parser.receive data).2 state
      emitted
    have hexplained := drainLoop_explained (ringSize (parser.receive data).2.input)
      (parser.receive data).2 emitted hcalls
    rw [← parserDrain] at hexplained
    have hfirst : Handed parser state.2 _ _ _ :=
      hhanded.prepend (Took.receive parser data) (List.append_nil _).symm
    rw [List.append_nil, List.nil_append] at hfirst
    have hfitting : data.take (ringSpace parser.input) = data.take (parser.receive data).1 := by
      rw [hwritten, List.take_eq_take_min, Nat.min_comm]
    dsimp only
    generalize parserDrain (recorded callback) (parser.receive data).2 state emitted = drained
      at hless hexplained hfirst ⊢
    split
    · rename_i hfailed
      refine ⟨hless, hexplained, _, _, events, List.take_append_drop _ _, hfirst,
        fun hok => absurd hok hfailed, ?_⟩
      rw [hfitting]
    rename_i hok
    rw [if_neg (by omega)]
    have hsucceeded := hexplained.succeeded (not_not.mp hok)
    have hnext := ih drained.parser (data.drop (parser.receive data).1) drained.context
      drained.emitted (by rw [List.length_drop]; omega) hless hsucceeded
    obtain ⟨taken, rest, events', hsplit, hlater, hwhole, _⟩ := hnext.handed
    refine ⟨hnext.room, hnext.explained, _, rest, _, ?_,
      hlater.prepend hfirst.took hfirst.calls, hwhole, ?_⟩
    · rw [List.append_assoc, hsplit, List.take_append_drop]
    · rw [hfitting]
      exact List.prefix_append _ _

theorem parserFeed_fed (callback : Frame → κ → Int × κ) {parser : Parser}
    (hroom : parser.input.size < parserCapacity) (data : List UInt8) (context : κ) :
    Fed callback parser [] data (parserFeed (recorded callback) parser data (context, [])) :=
  feedLoop_fed callback data.length parser data (context, []) 0 (Nat.le_refl _) hroom (by simp)

/-- A feed that succeeds with a piece of a stream of encoded frames: the callback got the next
frames of the stream, and what the parser holds goes on with the rest of it. -/
theorem parserFeed_frames (callback : Frame → κ → Int × κ) {parser : Parser}
    (hroom : parser.input.size < parserCapacity) {data tail : List UInt8} (context : κ)
    {frames : List Frame}
    (hstream : parser.input.contents ++ (data ++ tail) = frames.flatMap frameBytes)
    (hok : (parserFeed callback parser data context).result = Status.ok.code) :
    ∃ rest, frames = (feedCalls callback parser data context).map Prod.snd ++ rest ∧
      (parserFeed callback parser data context).parser.input.contents ++ tail =
        rest.flatMap frameBytes := by
  have hfed := parserFeed_fed callback hroom data context
  rw [← parserFeed_recorded] at hok ⊢
  obtain ⟨taken, rest, events, hsplit, hhanded, hwhole, _⟩ := hfed.handed
  rw [hwhole hok, List.append_nil] at hsplit
  have hcalls := hhanded.calls
  rw [List.map_nil, List.nil_append] at hcalls
  rw [hsplit] at hhanded
  rw [← List.append_assoc, List.flatMap_def] at hstream
  obtain ⟨read, rest, hframes, hevents, hrest⟩ :=
    hhanded.took.reads.units scanVerdict_frameBytes hstream
  refine ⟨rest, ?_, ?_⟩
  · rw [feedCalls, hcalls, hevents, framesOf_map_frame, hframes]
  · rw [List.flatMap_def]
    exact hrest

/-- A feed leaves room in the ring. -/
theorem parserFeed_room (callback : Frame → κ → Int × κ) {parser : Parser}
    (hroom : parser.input.size < parserCapacity) (data : List UInt8) (context : κ) :
    (parserFeed callback parser data context).parser.input.size < parserCapacity := by
  rw [← parserFeed_recorded]
  exact (parserFeed_fed callback hroom data context).room

end Devmgr
