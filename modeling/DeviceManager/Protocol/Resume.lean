import DeviceManager.Protocol.Accounting
import DeviceManager.Protocol.Reference

/-!
# Feeding on after a callback has failed

The loop of the simulator reports a feed that fails and feeds the next bytes of the stream.
`feedRun` is a parser used that way: one `devmgr_parser_feed` after the other, each with a
callback of its own that may fail at any call.

The frames still in the ring when a callback fails are not lost: the next feed finds them.  The
bytes that the failed feed had not written into the ring are: they are neither received nor
counted.  That needs a feed of more bytes than the ring has room for.  `feeds_lose_nothing` says
that otherwise nothing is lost, and `failing_reads_lose_input` that reads of the simulator's size
come to it, once the failures have filled the ring.
-/

namespace Devmgr

open StreamScan

variable {κ : Type}

/-! ## Runs -/

/-- The arguments of a `devmgr_parser_feed`; the length is a `size_t`. -/
structure ParserFeed (κ : Type) where
  callback : Frame → κ → Int × κ
  data : List UInt8
  context : κ
  data_lt : data.length < 2 ^ 64

def ParserFeed.call (feed : ParserFeed κ) : ParserCall κ :=
  .feed feed.callback feed.data feed.context

/-- All calls of the callback return `DEVMGR_OK`. -/
def ParserFeed.Succeeds (feed : ParserFeed κ) (parser : Parser) : Prop :=
  ∀ call ∈ feedCalls feed.callback parser feed.data feed.context,
    (feed.callback call.2 call.1).1 = Status.ok.code

/-- An initialised parser after a list of feeds. -/
def feedRun (feeds : List (ParserFeed κ)) : ParserRun :=
  feeds.foldl (fun run feed => run.call feed.call) ⟨parserInit, 0, []⟩

/-- All bytes that the feeds offer. -/
def offeredBytes (feeds : List (ParserFeed κ)) : List UInt8 :=
  (feeds.map ParserFeed.data).flatten

/-- The frames that a callback gets that always returns `DEVMGR_OK`. -/
def acceptedFrames (stream : List UInt8) : List Frame :=
  (parserFeed (accepting fun frame frames => frames ++ [frame]) parserInit stream []).context

/-- After these feeds no input is lost: what was delivered is a prefix of what there is to
deliver, one more feed that succeeds completes it, and every byte is counted. -/
structure LosesNothing (feeds : List (ParserFeed κ)) : Prop where
  delivered : (feedRun feeds).delivered <+: acceptedFrames (offeredBytes feeds)
  completed : ∀ feed : ParserFeed κ, feed.Succeeds (feedRun feeds).parser →
    (feedRun (feeds ++ [feed])).delivered = acceptedFrames (offeredBytes (feeds ++ [feed]))
  counted : (feedRun feeds).parser.stats.bytesReceived +
    (feedRun feeds).parser.stats.overflowBytes = (offeredBytes feeds).length.toUInt64

theorem feedRun_concat (feeds : List (ParserFeed κ)) (feed : ParserFeed κ) :
    feedRun (feeds ++ [feed]) = (feedRun feeds).call feed.call := by
  simp [feedRun]

theorem offeredBytes_concat (feeds : List (ParserFeed κ)) (feed : ParserFeed κ) :
    offeredBytes (feeds ++ [feed]) = offeredBytes feeds ++ feed.data := by
  simp [offeredBytes]

theorem feedRun_balanced (feeds : List (ParserFeed κ)) : (feedRun feeds).Balanced := by
  induction feeds using List.reverseRecOn with
  | nil => exact .init
  | append_singleton feeds feed ih =>
    rw [feedRun_concat]
    exact ih.call feed.call

theorem deliver_concat (before frames : List Frame) :
    deliver (fun frame frames => frames ++ [frame]) before frames = before ++ frames := by
  induction frames generalizing before with
  | nil => exact (List.append_nil before).symm
  | cons frame frames ih =>
    rw [deliver, List.foldl_cons, ← deliver, ih, List.append_assoc, List.singleton_append]

theorem acceptedFrames_eq (stream : List UInt8) :
    acceptedFrames stream = framesOf (scan wireScanner stream).1 := by
  have hfollows := parserFeed_follows (fun frame frames => frames ++ [frame])
    (Parser.room_of_wait (by rw [parserInit_contents]; rfl)) stream []
  rw [acceptedFrames, hfollows.context, deliver_concat, parserInit_contents, List.nil_append,
    List.nil_append]

theorem ParserStats.after_overflowBytes (stats : ParserStats) (received : Nat)
    (events : List ScanEvent) : (stats.after received events).overflowBytes =
      stats.overflowBytes := by
  rw [after, foldl_record_eq]

/-! ## One feed -/

/-- A feed takes its input up to a rest and hands out the frames that it finds.  Where it
succeeds, or the ring has room for all of its input, there is no rest. -/
theorem ParserFeed.took (feed : ParserFeed κ) (feeds : List (ParserFeed κ)) :
    ∃ taken rest events, taken ++ rest = feed.data ∧
      Took (feedRun feeds).parser taken events (feedRun (feeds ++ [feed])).parser ∧
      (feedRun (feeds ++ [feed])).delivered = (feedRun feeds).delivered ++ framesOf events ∧
      (feed.Succeeds (feedRun feeds).parser →
        rest = [] ∧ scanVerdict (feedRun (feeds ++ [feed])).parser.input.contents = .wait) ∧
      (feed.data.length ≤ ringSpace (feedRun feeds).parser.input → rest = []) := by
  have hfed := parserFeed_fed feed.callback (feedRun_balanced feeds).room feed.data feed.context
  obtain ⟨taken, rest, events, hsplit, hhanded, hwhole, hfitting⟩ := hfed.handed
  have hparser : (feedRun (feeds ++ [feed])).parser = (parserFeed (recorded feed.callback)
      (feedRun feeds).parser feed.data (feed.context, [])).parser := by
    rw [feedRun_concat]
    show (parserFeed feed.callback _ _ _).parser = _
    rw [← parserFeed_recorded]
    rfl
  rw [hparser]
  refine ⟨taken, rest, events, hsplit, hhanded.took, ?_, ?_, ?_⟩
  · rw [feedRun_concat]
    exact congrArg _ hhanded.calls
  · intro hsucceeds
    have hok := hfed.explained.result_ok hsucceeds
    exact ⟨hwhole hok, hhanded.waits hok⟩
  · intro hfits
    rw [List.take_of_length_le hfits] at hfitting
    have hall := hfitting.length_le
    have hlength := congrArg List.length hsplit
    rw [List.length_append] at hlength
    exact List.length_eq_zero_iff.mp (by omega)

/-- A feed that succeeds hands out all frames of the buffered bytes and its input. -/
theorem ParserFeed.delivered_of_succeeds {feed : ParserFeed κ} {feeds : List (ParserFeed κ)}
    (h : feed.Succeeds (feedRun feeds).parser) :
    (feedRun (feeds ++ [feed])).delivered = (feedRun feeds).delivered ++
      framesOf (scan wireScanner ((feedRun feeds).parser.input.contents ++ feed.data)).1 := by
  obtain ⟨taken, rest, events, hsplit, htook, hdelivered, hwhole, _⟩ := feed.took feeds
  obtain ⟨rfl, hwait⟩ := hwhole h
  rw [List.append_nil] at hsplit
  rw [hdelivered, ← hsplit, htook.reads.scan_eq, scan_of_wait hwait, List.append_nil]

/-! ## Failing reads -/

/-- The drain loop ends at a frame whose callback fails. -/
theorem parserDrain_failing {callback : Frame → κ → Int × κ} {parser : Parser} {frame : Frame}
    {left : List UInt8} {context : κ} (emitted : Nat)
    (hcontents : parser.input.contents = frameBytes frame ++ left)
    (hfailed : (callback frame context).1 ≠ Status.ok.code) :
    parserDrain callback parser context emitted =
      ⟨(callback frame context).1,
        parser.discard (frameBytes frame).length (parser.stats.record (.frame frame)),
        (callback frame context).2, emitted + 1⟩ := by
  have hverdict := scanVerdict_stable left (scanVerdict_frameBytes frame)
  rw [← hcontents] at hverdict
  have hsize : ringSize parser.input ≠ 0 := by
    have hlength := congrArg List.length hcontents
    rw [RingBuffer.contents_length, List.length_append, frameBytes_length, headerSize] at hlength
    rw [ringSize]
    omega
  obtain ⟨fuel, hfuel⟩ := Nat.exists_eq_succ_of_ne_zero hsize
  rw [parserDrain, hfuel, Nat.succ_eq_add_one, drainLoop_succ, hverdict]
  exact if_pos hfailed

/-- A feed whose first frame is refused ends with the first write and that frame. -/
theorem parserFeed_failing {callback : Frame → κ → Int × κ} {parser : Parser} {data : List UInt8}
    {frame : Frame} {left : List UInt8} {context : κ} (hdata : data ≠ [])
    (hcontents : (parser.receive data).2.input.contents = frameBytes frame ++ left)
    (hfailed : (callback frame context).1 ≠ Status.ok.code) :
    parserFeed callback parser data context =
      ⟨(callback frame context).1,
        (parser.receive data).2.discard (frameBytes frame).length
          ((parser.receive data).2.stats.record (.frame frame)),
        (callback frame context).2, 1⟩ := by
  have hlength := List.length_pos_iff.mpr hdata
  obtain ⟨fuel, hfuel⟩ := Nat.exists_eq_succ_of_ne_zero (Nat.ne_of_gt hlength)
  rw [parserFeed, hfuel, Nat.succ_eq_add_one, feedLoop, if_neg (by omega)]
  dsimp only
  rw [parserDrain_failing 0 hcontents hfailed, if_pos hfailed]

theorem ParserRun.call_failing {run : ParserRun} {feed : ParserFeed κ} {frame : Frame}
    {left : List UInt8} (hdata : feed.data ≠ [])
    (hcontents : (run.parser.receive feed.data).2.input.contents = frameBytes frame ++ left)
    (hfailed : (feed.callback frame feed.context).1 ≠ Status.ok.code) :
    let next := run.call feed.call
    next.parser.input.contents = left ∧
      next.parser.stats =
        run.parser.stats.after (run.parser.receive feed.data).1 [.frame frame] ∧
      next.delivered = run.delivered ++ [frame] := by
  have hfed := parserFeed_failing hdata hcontents hfailed
  have hcalls : feedCalls feed.callback run.parser feed.data feed.context =
      [(feed.context, frame)] := by
    have hrecorded : (recorded feed.callback frame (feed.context, [])).1 ≠ Status.ok.code :=
      hfailed
    rw [feedCalls, parserFeed_failing hdata hcontents hrecorded]
    rfl
  refine ⟨?_, ?_, ?_⟩
  · show (parserFeed feed.callback run.parser feed.data feed.context).parser.input.contents = _
    rw [hfed, Parser.discard_contents, hcontents, List.drop_left]
  · show (parserFeed feed.callback run.parser feed.data feed.context).parser.stats = _
    rw [hfed]
    show (run.parser.stats.after (run.parser.receive feed.data).1 []).record (.frame frame) = _
    rw [← ParserStats.after_event, ParserStats.after_after]
    rfl
  · show run.delivered ++ (feedCalls _ _ _ _).map Prod.snd = _
    rw [hcalls]
    rfl

def refusedPing : Frame := ⟨Msg.ping, Flag.ackRequired, 1, [], Nat.zero_le _⟩

def pingBytes (count : Nat) : List UInt8 :=
  ((List.replicate count refusedPing).map frameBytes).flatten

theorem pingBytes_add (m n : Nat) : pingBytes (m + n) = pingBytes m ++ pingBytes n := by
  rw [pingBytes, List.replicate_add, List.map_append, List.flatten_append]
  rfl

theorem pingBytes_length (count : Nat) : (pingBytes count).length = 16 * count := by
  have hunit : (frameBytes refusedPing).length = 16 := frameBytes_length _
  simp [pingBytes, hunit, Nat.mul_comm]

theorem pingBytes_take {m n : Nat} (h : m ≤ n) : (pingBytes n).take (16 * m) = pingBytes m := by
  obtain ⟨k, rfl⟩ := Nat.exists_eq_add_of_le h
  rw [pingBytes_add, ← pingBytes_length m, List.take_left]

/-- A read of the simulator's size, full of pings that the callback refuses. -/
def pingRead : ParserFeed Unit where
  callback _ _ := (Status.io.code, ())
  data := pingBytes 128
  context := ()
  data_lt := by rw [pingBytes_length]; decide

theorem pingRead_data_length : pingRead.data.length = 16 * 128 :=
  pingBytes_length 128

/-- The ring has room for 514 pings. -/
theorem ringSpace_pings {parser : Parser} {n : Nat} (h : parser.input.contents = pingBytes n) :
    ringSpace parser.input = 16 * (514 - n) := by
  have hsize := parser.input.contents_length
  have hcap := parser.capacity_eq
  rw [h, pingBytes_length] at hsize
  rw [ringSpace, hcap, ← hsize, show parserCapacity = 8224 from rfl]
  omega

/-- A refused read puts as many pings into the ring as there is room for, and takes out one. -/
theorem ParserRun.call_pingRead {run : ParserRun} {n m : Nat}
    (hcontents : run.parser.input.contents = pingBytes n) (hm : m = min 128 (514 - n))
    (hroom : 0 < m) :
    let next := run.call pingRead.call
    next.parser.input.contents = pingBytes (n + m - 1) ∧
      next.parser.stats = run.parser.stats.after (16 * m) [.frame refusedPing] ∧
      next.delivered = run.delivered ++ [refusedPing] := by
  have hspace := ringSpace_pings hcontents
  have hwritten : (run.parser.receive pingRead.data).1 = 16 * m := by
    rw [Parser.receive_count, hspace, pingRead_data_length]
    omega
  have htaken : pingRead.data.take (ringSpace run.parser.input) = pingBytes m := by
    rw [hspace]
    rcases Nat.le_total (514 - n) 128 with hle | hle
    · rw [hm, min_eq_right hle]
      exact pingBytes_take hle
    · rw [hm, min_eq_left hle]
      exact List.take_of_length_le (by rw [pingRead_data_length]; omega)
  have hreceived : (run.parser.receive pingRead.data).2.input.contents =
      frameBytes refusedPing ++ pingBytes (n + m - 1) := by
    rw [Parser.receive_contents, hcontents, htaken, ← pingBytes_add,
      show n + m = 1 + (n + m - 1) by omega, pingBytes_add 1, Nat.add_sub_cancel_left]
    exact congrArg (· ++ _) (List.append_nil _)
  have hdata : pingRead.data ≠ [] := by
    rw [← List.length_pos_iff, pingRead_data_length]
    decide
  have hnext := run.call_failing hdata hreceived (show Status.io.code ≠ Status.ok.code by decide)
  rwa [hwritten] at hnext

theorem scan_pingBytes (count : Nat) :
    framesOf (scan wireScanner (pingBytes count)).1 = List.replicate count refusedPing := by
  have hscan : scan wireScanner (pingBytes count) =
      ((List.replicate count refusedPing).map .frame, []) :=
    scan_flatten_units scanVerdict_frameBytes rfl _
  rw [hscan, framesOf_map_frame]

theorem offeredBytes_pingRead (count : Nat) :
    offeredBytes (List.replicate count pingRead) = pingBytes (128 * count) := by
  induction count with
  | zero => rfl
  | succ count ih =>
    rw [List.replicate_succ', offeredBytes_concat, ih, Nat.mul_succ, pingBytes_add]
    rfl

/-- After `count` refused reads: the pings in the ring and the bytes received. -/
structure RefusedReads (count buffered received : Nat) : Prop where
  contents : (feedRun (List.replicate count pingRead)).parser.input.contents = pingBytes buffered
  stats : (feedRun (List.replicate count pingRead)).parser.stats =
    ParserStats.zero.after received (List.replicate count (.frame refusedPing))
  delivered : (feedRun (List.replicate count pingRead)).delivered = List.replicate count refusedPing

theorem RefusedReads.init : RefusedReads 0 0 0 :=
  ⟨parserInit_contents, (ParserStats.after_nil _).symm, rfl⟩

theorem RefusedReads.read {count buffered received m : Nat}
    (h : RefusedReads count buffered received) (hm : m = min 128 (514 - buffered)) (hroom : 0 < m) :
    RefusedReads (count + 1) (buffered + m - 1) (received + 16 * m) := by
  obtain ⟨hcontents, hstats, hdelivered⟩ := ParserRun.call_pingRead h.contents hm hroom
  rw [← feedRun_concat, ← List.replicate_succ'] at hcontents hstats hdelivered
  refine ⟨hcontents, ?_, ?_⟩
  · rw [hstats, h.stats, ParserStats.after_after, ← List.replicate_succ']
  · rw [hdelivered, h.delivered, ← List.replicate_succ']

/-- The first four reads fit into the ring. -/
theorem RefusedReads.fitting {count : Nat} (h : count ≤ 4) :
    RefusedReads count (127 * count) (16 * 128 * count) := by
  induction count with
  | zero => exact .init
  | succ count ih =>
    exact (ih (Nat.le_of_succ_le h)).read (m := 128) (by omega) (by decide)

/-! ## Nothing lost -/

/-- The ring and the counters are those of one parser that got all bytes, broken off after
some decisions. -/
def Resumed (feeds : List (ParserFeed κ)) : Prop :=
  ∃ events, Took parserInit (offeredBytes feeds) events (feedRun feeds).parser ∧
    framesOf events = (feedRun feeds).delivered

theorem Resumed.init : Resumed ([] : List (ParserFeed κ)) :=
  ⟨[], .refl parserInit, rfl⟩

theorem Resumed.concat {feeds : List (ParserFeed κ)} (h : Resumed feeds) {feed : ParserFeed κ}
    (hfits : ¬ feed.Succeeds (feedRun feeds).parser →
      feed.data.length ≤ ringSpace (feedRun feeds).parser.input) : Resumed (feeds ++ [feed]) := by
  obtain ⟨events, htook, hframes⟩ := h
  obtain ⟨taken, rest, later, hsplit, hlater, hdelivered, hwhole, hfitting⟩ := feed.took feeds
  have hrest : rest = [] := by
    by_cases hsucceeds : feed.Succeeds (feedRun feeds).parser
    · exact (hwhole hsucceeds).1
    · exact hfitting (hfits hsucceeds)
  rw [hrest, List.append_nil] at hsplit
  refine ⟨events ++ later, ?_, ?_⟩
  · rw [offeredBytes_concat, ← hsplit]
    exact htook.trans hlater
  · rw [framesOf_append, hframes, hdelivered]

theorem Took.reads_init {taken : List UInt8} {events : List ScanEvent} {parser : Parser}
    (h : Took parserInit taken events parser) :
    Reads wireScanner taken events parser.input.contents := by
  have hreads := h.reads
  rwa [parserInit_contents, List.nil_append] at hreads

theorem Resumed.losesNothing {feeds : List (ParserFeed κ)} (h : Resumed feeds) :
    LosesNothing feeds where
  delivered := by
    obtain ⟨events, htook, hframes⟩ := h
    rw [acceptedFrames_eq, htook.reads_init.scan_eq, framesOf_append, hframes]
    exact List.prefix_append _ _
  completed := by
    intro feed hsucceeds
    obtain ⟨_, _, _, _, _, _, hwhole, _⟩ := feed.took feeds
    obtain ⟨_, hwait⟩ := hwhole hsucceeds
    obtain ⟨events, htook, hframes⟩ := h.concat fun hfails => absurd hsucceeds hfails
    rw [acceptedFrames_eq, htook.reads_init.scan_eq, scan_of_wait hwait, List.append_nil, hframes]
  counted := by
    obtain ⟨events, htook, _⟩ := h
    rw [htook.stats, ParserStats.after_overflowBytes]
    simp [ParserStats.after, parserInit, ParserStats.zero]

/-- Where every feed with a callback that fails offers no more bytes than the ring has room for,
at no point of a sequence of feeds input is lost. -/
theorem feeds_lose_nothing (feeds : List (ParserFeed κ))
    (hfits : ∀ earlier feed, earlier ++ [feed] <+: feeds →
      ¬ feed.Succeeds (feedRun earlier).parser →
      feed.data.length ≤ ringSpace (feedRun earlier).parser.input) :
    ∀ earlier, earlier <+: feeds → LosesNothing earlier := by
  intro earlier hpre
  refine Resumed.losesNothing ?_
  induction earlier using List.reverseRecOn with
  | nil => exact .init
  | append_singleton earlier feed ih =>
    exact (ih ((List.prefix_append _ _).trans hpre)).concat (hfits earlier feed hpre)

/-- Four refused reads fit into the ring. -/
theorem feeds_lose_nothing_four_reads : LosesNothing (List.replicate 4 pingRead) := by
  refine feeds_lose_nothing (List.replicate 4 pingRead) ?_ _ (List.prefix_refl _)
  intro earlier feed hpre _
  have hcount := hpre.length_le
  rw [List.length_append, List.length_singleton, List.length_replicate] at hcount
  have hall : ∀ read ∈ earlier ++ [feed], read = pingRead := fun read hread =>
    List.eq_of_mem_replicate (hpre.subset hread)
  have hearlier : earlier = List.replicate earlier.length pingRead :=
    List.eq_replicate_iff.mpr ⟨rfl, fun read hread => hall read (List.mem_append_left _ hread)⟩
  obtain rfl : feed = pingRead := hall feed (List.mem_append_right _ List.mem_cons_self)
  rw [hearlier, ringSpace_pings (RefusedReads.fitting (by omega)).contents, pingRead_data_length]
  omega

/-- Five reads of 2048 bytes, each refused at its first ping.  The first four fit into the ring;
the fifth leaves 1952 bytes, which no counter holds, and the 122 pings in them never come. -/
theorem failing_reads_lose_input :
    let feeds := List.replicate 5 pingRead
    let empty : ParserFeed Unit := ⟨fun _ _ => (Status.ok.code, ()), [], (), by decide⟩
    let stats := (feedRun feeds).parser.stats
    (offeredBytes feeds).length = 10240 ∧ stats.bytesReceived = 8288 ∧ stats.overflowBytes = 0 ∧
      empty.Succeeds (feedRun feeds).parser ∧
      (feedRun (feeds ++ [empty])).delivered.length = 518 ∧
      (acceptedFrames (offeredBytes (feeds ++ [empty]))).length = 640 := by
  have hfilled : RefusedReads 4 508 8192 := .fitting (Nat.le_refl 4)
  have hlast : RefusedReads 5 513 8288 := hfilled.read (m := 6) rfl (by decide)
  have hoffered : offeredBytes (List.replicate 5 pingRead) = pingBytes 640 :=
    offeredBytes_pingRead 5
  intro feeds empty stats
  have hstats : stats = _ := hlast.stats
  have hsucceeds : empty.Succeeds (feedRun feeds).parser := fun _ _ => rfl
  refine ⟨?_, ?_, ?_, hsucceeds, ?_, ?_⟩
  · rw [hoffered, pingBytes_length]
  · rw [hstats]
    rfl
  · rw [hstats, ParserStats.after_overflowBytes]
    rfl
  · rw [ParserFeed.delivered_of_succeeds hsucceeds, List.append_nil, hlast.contents,
      hlast.delivered, scan_pingBytes, List.length_append, List.length_replicate,
      List.length_replicate]
  · rw [offeredBytes_concat, List.append_nil, hoffered, acceptedFrames_eq, scan_pingBytes,
      List.length_replicate]

end Devmgr
