import DeviceManager.Protocol.Burst
import DeviceManager.Protocol.Reference

/-!
# Finding the next frame

What garbage in a stream can do to the frames behind it.  A position where a
header announces a frame holds the scanner back until that frame would be
complete, and a frame that happens to be valid takes the bytes that it covers
with it.  Nothing else is in the way:

* `parserFeed_resync`: a frame that no earlier valid frame overlaps is delivered
  as soon as one maximal frame length has come in behind its first byte;
* `parserFeed_burst`: a burst error in one of several frames costs that frame,
  and possibly the ones behind it, but delivers nothing that was not sent,
  unless the bytes of the broken frame have a valid frame in them.
-/

namespace Devmgr

open StreamScan ShiftRegister

/-- The bytes of an encoded frame stand at a position of a stream. -/
def EncodedAt (stream : List UInt8) (position : Nat) (frame : Frame) : Prop :=
  frameBytes frame <+: stream.drop position

/-- The frames of a stream, each with the position of its first byte. -/
def deliveries (stream : List UInt8) : List (Nat × Frame) :=
  (marks wireScanner 0 stream).filterMap fun
    | (position, .frame frame) => some (position, frame)
    | (_, .skip _) => none

theorem deliveries_map_snd (stream : List UInt8) :
    (deliveries stream).map Prod.snd = framesOf (scan wireScanner stream).1 := by
  rw [deliveries, framesOf, ← marks_map_snd 0, List.map_filterMap, List.filterMap_map]
  congr 1
  funext mark
  rcases mark with ⟨_, _ | _⟩ <;> rfl

/-! ## What a decision says -/

theorem count_of_skip {data : List UInt8} {n : Nat} {reason : SkipReason}
    (h : scanVerdict data = .consume n (.skip reason)) : n = 1 := by
  unfold scanVerdict at h
  split_ifs at h <;> cases h <;> rfl

/-- The scanner takes a frame exactly where its encoding stands. -/
theorem scanVerdict_eq_frame {data : List UInt8} {n : Nat} {frame : Frame} :
    scanVerdict data = .consume n (.frame frame) ↔
      frameBytes frame <+: data ∧ n = (frameBytes frame).length := by
  constructor
  · intro h
    unfold scanVerdict at h
    split_ifs at h with hshort hmagic hheader hversion hlimit hbody hcrc <;> cases h
    rw [not_or, not_not, not_not] at hversion
    have hdecode := frameDecode_take (not_not.mp hmagic) hversion.1 hversion.2
      (Nat.le_of_not_lt hlimit) (Nat.le_of_not_lt hbody)
    rw [if_pos hcrc] at hdecode
    have hbytes := frameDecode_inv hdecode
    rw [← hbytes]
    exact ⟨List.take_prefix _ _, (List.length_take_of_le (Nat.le_of_not_lt hbody)).symm⟩
  · rintro ⟨⟨tail, rfl⟩, rfl⟩
    exact scanVerdict_stable tail (scanVerdict_frameBytes frame)

/-! ## The next frame behind garbage -/

/-- With a maximal frame length behind its position, an encoded frame that no
earlier one overlaps is reached by the scanner. -/
theorem deliveries_reach {stream : List UInt8} {p : Nat} {frame : Frame}
    (hframe : EncodedAt stream p frame)
    (hclear : ∀ q other, q < p → EncodedAt stream q other → q + (frameBytes other).length ≤ p)
    (henough : p + maxFrame ≤ stream.length) :
    ∃ before after, deliveries stream = before ++ (p, frame) :: after ∧
      (∀ delivery ∈ before, delivery.1 < p) ∧ ∀ delivery ∈ after, p < delivery.1 := by
  -- A decision falls at every place before `p`, and it does not go past `p`.
  have hdecides : ∀ q < p, ∃ n event,
      wireScanner.verdict (stream.drop q) = .consume n event ∧ q + n ≤ p := by
    intro q hq
    show ∃ n event, scanVerdict (stream.drop q) = .consume n event ∧ q + n ≤ p
    rcases hverdict : scanVerdict (stream.drop q) with _ | ⟨n, other | reason⟩
    · have hshort := length_lt_of_wait hverdict
      rw [List.length_drop] at hshort
      omega
    · obtain ⟨hstarts, rfl⟩ := scanVerdict_eq_frame.mp hverdict
      exact ⟨_, _, rfl, hclear q other hq hstarts⟩
    · obtain rfl := count_of_skip hverdict
      exact ⟨1, _, rfl, hq⟩
  obtain ⟨before, hbefore, hlt⟩ := marks_reach hdecides
  have hverdict : wireScanner.verdict (stream.drop p) =
      .consume (frameBytes frame).length (.frame frame) :=
    scanVerdict_eq_frame.mpr ⟨hframe, rfl⟩
  rw [marks_of_consume p hverdict] at hbefore
  have hpos := (wireScanner.consume_bounds hverdict).1
  refine ⟨_, _, by rw [deliveries, hbefore, List.filterMap_append, List.filterMap_cons], ?_, ?_⟩
  · intro delivery hdelivery
    obtain ⟨⟨position, event⟩, hmark, hsome⟩ := List.mem_filterMap.mp hdelivery
    rcases event with other | reason
    · cases hsome
      exact hlt _ hmark
    · cases hsome
  · intro delivery hdelivery
    obtain ⟨⟨position, event⟩, hmark, hsome⟩ := List.mem_filterMap.mp hdelivery
    have hle := le_of_mem_marks hmark
    rcases event with other | reason
    · cases hsome
      omega
    · cases hsome

variable {κ : Type}

/-- A frame in a stream that no valid frame from before overlaps is delivered,
once, by the time that one maximal frame length behind its first byte has been
fed.  What stands before it does not matter. -/
theorem parserFeed_resync (update : Frame → κ → κ) (context : κ) (stream : List UInt8)
    (pieces : List (List UInt8)) (p : Nat) (frame : Frame)
    (hfed : pieces.flatten <+: stream) (hframe : EncodedAt stream p frame)
    (hclear : ∀ q other, q < p → EncodedAt stream q other → q + (frameBytes other).length ≤ p)
    (henough : p + maxFrame ≤ pieces.flatten.length) :
    let fed := feedAll (accepting update) parserInit context pieces
    ∃ before after, deliveries pieces.flatten = before ++ (p, frame) :: after ∧
      fed.2.2 = deliver update context ((before ++ (p, frame) :: after).map Prod.snd) ∧
      (∀ delivery ∈ before, delivery.1 < p) ∧ ∀ delivery ∈ after, p < delivery.1 := by
  intro fed
  have hdrop : ∀ q, pieces.flatten.drop q <+: stream.drop q := fun q => hfed.drop q
  have hhere : EncodedAt pieces.flatten p frame := by
    refine List.prefix_of_prefix_length_le hframe (hdrop p) ?_
    have hle := frame.payload_le
    have hmax : maxFrame = headerSize + maxPayload + crcSize := rfl
    rw [frameBytes_length, List.length_drop]
    omega
  obtain ⟨before, after, hdeliveries, hbefore, hafter⟩ := deliveries_reach hhere
    (fun q other hq hother => hclear q other hq (hother.trans (hdrop q))) henough
  refine ⟨before, after, hdeliveries, ?_, hbefore, hafter⟩
  obtain ⟨_, hcontext, _⟩ := (feedAll_init_follows update context pieces).2
  rw [← hdeliveries, deliveries_map_snd]
  exact hcontext

/-- The first five bytes of a ping that was cut off, a whole ping, and then
zeros, in two pieces. -/
theorem parserFeed_resync_truncated :
    let ping : Frame := ⟨Msg.ping, Flag.ackRequired, 1, [], by decide⟩
    let stream := (frameBytes ping).take 5 ++ frameBytes ping ++ List.replicate maxFrame 0
    let pieces := [stream.take 7, stream.drop 7]
    let fed := feedAll (accepting fun frame frames => frames ++ [frame]) parserInit [] pieces
    ∃ before after, deliveries pieces.flatten = before ++ (5, ping) :: after ∧
      fed.2.2 = deliver (fun frame frames => frames ++ [frame]) []
        ((before ++ (5, ping) :: after).map Prod.snd) ∧
      (∀ delivery ∈ before, delivery.1 < 5) ∧ ∀ delivery ∈ after, 5 < delivery.1 := by
  intro ping stream pieces
  have hpieces : pieces.flatten = stream := by simp [pieces]
  refine parserFeed_resync _ [] stream pieces 5 ping (by rw [hpieces]) ?_ ?_ ?_
  · exact ⟨List.replicate maxFrame 0, rfl⟩
  · rintro q other hq ⟨tail, htail⟩
    obtain ⟨hmagic, _, _, _, hreserved, _⟩ := frameBytes_fields other tail
    rw [htail] at hmagic hreserved
    rcases q with _ | _ | _ | _ | _ | q
    · exact absurd hreserved (by decide)
    · exact absurd hmagic (by decide)
    · exact absurd hmagic (by decide)
    · exact absurd hmagic (by decide)
    · exact absurd hmagic (by decide)
    · omega
  · rw [hpieces]
    simp [stream, ping, headerSize, crcSize]

/-! ## A burst in one frame -/

/-- Where the scanner takes no frame in a piece of the stream, it is held back in
that piece or goes on behind it. -/
theorem framesOf_scan_append {piece rest : List UInt8}
    (h : ∀ k < piece.length, ∀ n frame,
      scanVerdict ((piece ++ rest).drop k) ≠ .consume n (.frame frame)) :
    framesOf (scan wireScanner (piece ++ rest)).1 = [] ∨
      framesOf (scan wireScanner (piece ++ rest)).1 = framesOf (scan wireScanner rest).1 := by
  induction piece with
  | nil => exact .inr rfl
  | cons byte piece ih =>
    have hrest := ih fun k hk => h (k + 1) (Nat.succ_lt_succ hk)
    rcases hverdict : scanVerdict (byte :: piece ++ rest) with _ | ⟨n, frame | reason⟩
    · refine .inl ?_
      rw [scan_of_wait hverdict]
      rfl
    · exact absurd hverdict (h 0 (Nat.zero_lt_succ _) n frame)
    · obtain rfl := count_of_skip hverdict
      rw [scan_of_consume hverdict]
      exact hrest

theorem corrupt_eq_self {data pattern : List UInt8} (hlength : pattern.length = data.length)
    (h : ∀ byte ∈ pattern, byte = 0) : corrupt data pattern = data := by
  induction data generalizing pattern with
  | nil => rw [corrupt, List.zipWith_nil_left]
  | cons byte data ih =>
    rcases pattern with _ | ⟨flip, pattern⟩
    · cases hlength
    obtain rfl := h flip List.mem_cons_self
    have hrest := ih (Nat.succ.inj hlength) fun b hb => h b (List.mem_cons_of_mem _ hb)
    rw [corrupt, List.zipWith_cons_cons, UInt8.xor_zero]
    exact congrArg _ hrest

/-- A valid frame starts in the broken frame, and it is not just the broken
frame itself. -/
def Embedded (frame : Frame) (broken rest : List UInt8) : Prop :=
  ∃ k other, k < broken.length ∧ EncodedAt (broken ++ rest) k other ∧
    ¬ (k = 0 ∧ other.payload.length = frame.payload.length)

/-- One of several encoded frames is broken by a burst of at most 32 bits.  If no
valid frame shows up inside of the broken one, only frames that were sent are
delivered, in the order in which they were sent. -/
theorem parserFeed_burst (update : Frame → κ → κ) (context : κ) (before after : List Frame)
    (frame : Frame) (pattern : List UInt8) (pieces : List (List UInt8))
    (hlength : pattern.length = (frameBytes frame).length)
    (hburst : Burst 32 (wireBits pattern))
    (hslices : pieces.flatten = (before.map frameBytes).flatten ++
      (corrupt (frameBytes frame) pattern ++ (after.map frameBytes).flatten))
    (hembedded : ¬ Embedded frame (corrupt (frameBytes frame) pattern)
      (after.map frameBytes).flatten) :
    ∃ delivered, List.Sublist delivered (before ++ frame :: after) ∧
      (feedAll (accepting update) parserInit context pieces).2.2 =
        deliver update context delivered := by
  have hafter : scan wireScanner (after.map frameBytes).flatten = (after.map .frame, []) :=
    scan_flatten_units scanVerdict_frameBytes rfl after
  have hbefore : scan wireScanner (before.map frameBytes).flatten = (before.map .frame, []) :=
    scan_flatten_units scanVerdict_frameBytes rfl before
  have hcontext := (feedAll_init_follows update context pieces).2.context
  rw [hslices, scan_append, hbefore, List.nil_append] at hcontext
  dsimp only at hcontext
  rw [framesOf, List.filterMap_append, ← framesOf, ← framesOf, framesOf_map_frame] at hcontext
  refine ⟨_, ?_, hcontext⟩
  refine List.Sublist.append_left ?_ before
  by_cases hzero : ∀ byte ∈ pattern, byte = 0
  · -- Nothing is wrong with the frame.
    rw [corrupt_eq_self hlength hzero, scan_unit_append (scanVerdict_frameBytes frame), hafter]
    show List.Sublist (frame :: framesOf (after.map .frame)) (frame :: after)
    rw [framesOf_map_frame]
  · -- The broken frame is not taken as a whole, and by assumption no frame inside of it.
    rw [not_forall₂] at hzero
    obtain ⟨byte, hbyte, hne⟩ := hzero
    have htakes : ∀ k < (corrupt (frameBytes frame) pattern).length, ∀ n other,
        scanVerdict ((corrupt (frameBytes frame) pattern ++
          (after.map frameBytes).flatten).drop k) ≠ .consume n (.frame other) := by
      intro k hk n other hverdict
      obtain ⟨hstarts, _⟩ := scanVerdict_eq_frame.mp hverdict
      by_cases hwhole : k = 0 ∧ other.payload.length = frame.payload.length
      · obtain ⟨rfl, hsize⟩ := hwhole
        have hlen : (frameBytes other).length = (corrupt (frameBytes frame) pattern).length := by
          rw [corrupt, List.length_zipWith, hlength, Nat.min_self, frameBytes_length,
            frameBytes_length, hsize]
        have hwhole := List.prefix_of_prefix_length_le hstarts (List.prefix_append _ _) hlen.le
        exact corrupt_frameBytes_ne frame other hlength hburst ⟨byte, hbyte, hne⟩
          (hwhole.eq_of_length hlen).symm
      · exact hembedded ⟨k, other, hk, hstarts, hwhole⟩
    rcases framesOf_scan_append htakes with hnone | hrest
    · rw [hnone]
      exact List.nil_sublist _
    · rw [hrest, hafter, framesOf_map_frame]
      exact List.sublist_cons_self _ _

def innerPing : Frame := ⟨Msg.ping, Flag.ackRequired, 1, [], Nat.zero_le _⟩

/-- A ping that carries the bytes of another ping. -/
def outerPing : Frame :=
  ⟨Msg.ping, Flag.ackRequired, 2, frameBytes innerPing, by rw [frameBytes_length]; decide⟩

/-- One bit of the magic of the outer ping is wrong: the parser resumes its scan
inside of it and delivers the inner one, which nobody sent. -/
theorem parserFeed_burst_embedded :
    let pattern : List UInt8 := 1 :: List.replicate 31 0
    pattern.length = (frameBytes outerPing).length ∧ Burst 32 (wireBits pattern) ∧
      ¬ List.Sublist
        (feedAll (accepting fun frame frames => frames ++ [frame]) parserInit []
          [corrupt (frameBytes outerPing) pattern]).2.2 [outerPing] := by
  exact ⟨by decide +kernel, burst_of_bounded 0 (by decide +kernel), by decide +kernel⟩

/-- Three pings, the second one with two wrong bits in its CRC. -/
theorem parserFeed_burst_crc :
    let ping (sequence : UInt32) : Frame :=
      ⟨Msg.ping, Flag.ackRequired, sequence, [], Nat.zero_le _⟩
    let pattern : List UInt8 := List.replicate 14 0 ++ [0x80, 0x01]
    ∃ delivered, List.Sublist delivered [ping 1, ping 2, ping 3] ∧
      (feedAll (accepting fun frame frames => frames ++ [frame]) parserInit []
          [frameBytes (ping 1) ++ corrupt (frameBytes (ping 2)) pattern,
            frameBytes (ping 3)]).2.2 =
        deliver (fun frame frames => frames ++ [frame]) [] delivered := by
  intro ping pattern
  refine parserFeed_burst _ [] [ping 1] [ping 3] (ping 2) pattern _ rfl
    (burst_of_bounded 119 (by decide +kernel)) (by simp) ?_
  rintro ⟨k, other, hk, ⟨tail, htail⟩, hwhole⟩
  obtain ⟨hmagic, _, _, _, _, _, hdeclared⟩ := frameBytes_fields other tail
  rw [htail] at hmagic hdeclared
  rcases Nat.eq_zero_or_pos k with rfl | hpos
  · -- The length field is intact.
    exact hwhole ⟨rfl, hdeclared.symm.trans (by decide +kernel)⟩
  · have hscan : ∀ k < 16, 0 < k → getLe16 ((corrupt (frameBytes (ping 2)) pattern ++
        ([ping 3].map frameBytes).flatten).drop k) ≠ protocolMagic := by
      decide +kernel
    exact hscan k hk hpos hmagic

end Devmgr
