import DeviceManager.Lib.StreamScan
import DeviceManager.Protocol.Parser

/-!
# What the parser makes of a byte stream

`scanVerdict` is the wire format read off a byte string, with no ring and no
loop: skip one byte at a bad magic, version, reserved byte, length or CRC, wait
while the candidate frame is incomplete, else take the whole frame.  It keeps
the laws of a `StreamScan.Scanner`, so the library gives the one-pass reference
`scan wireScanner` and its independence of how the stream is cut.

`drainLoop_succ` says that one iteration of `parser_drain` makes the decision
of `scanVerdict` on the buffered bytes, whatever the callback returns.  The loops
are followed from it, and `ParserStats.after` is what the decisions of a loop add
to the counters.
-/

namespace Devmgr

open StreamScan

/-! ## The reference scanner -/

/-- Why a byte is skipped: the header is not one of this protocol, the declared
length is too large, or the CRC does not match. -/
inductive SkipReason
  | header
  | length
  | crc
  deriving DecidableEq

/-- What happens at a position of the stream. -/
inductive ScanEvent
  | frame (frame : Frame)
  | skip (reason : SkipReason)

/-- The payload length that a header declares. -/
def declaredLength (data : List UInt8) : Nat :=
  (getLe16 (data.drop 10)).toNat

/-- The frame at the front of a byte string. -/
def frameAt (data : List UInt8) (h : declaredLength data ≤ maxPayload) : Frame where
  type := byteAt data 3
  flags := byteAt data 4
  sequence := getLe32 (data.drop 6)
  payload := (data.drop headerSize).take (declaredLength data)
  payload_le := (List.length_take_le _ _).trans h

/-- The CRC behind the payload is the CRC of header and payload. -/
def crcMatches (data : List UInt8) : Prop :=
  crc32 (data.take (headerSize + declaredLength data)) =
    getLe32 (data.drop (headerSize + declaredLength data))

instance (data : List UInt8) : Decidable (crcMatches data) :=
  inferInstanceAs (Decidable (_ = _))

/-- The decision at the front of a byte string. -/
def scanVerdict (data : List UInt8) : Verdict ScanEvent :=
  if data.length < 2 then .wait
  else if getLe16 data ≠ protocolMagic then .consume 1 (.skip .header)
  else if data.length < headerSize then .wait
  else if byteAt data 2 ≠ protocolVersion ∨ byteAt data 5 ≠ 0 then .consume 1 (.skip .header)
  else if h : declaredLength data > maxPayload then .consume 1 (.skip .length)
  else if data.length < headerSize + declaredLength data + crcSize then .wait
  else if ¬ crcMatches data then .consume 1 (.skip .crc)
  else .consume (headerSize + declaredLength data + crcSize)
    (.frame (frameAt data (Nat.le_of_not_lt h)))

section Append

variable {xs : List UInt8} (ys : List UInt8)

theorem declaredLength_append (h : headerSize ≤ xs.length) :
    declaredLength (xs ++ ys) = declaredLength xs := by
  rw [headerSize] at h
  rw [declaredLength, List.drop_append_of_le_length (by omega),
    getLe16_append (by rw [List.length_drop]; omega), declaredLength]

theorem frameAt_append (h : headerSize + declaredLength xs ≤ xs.length)
    (hxs : declaredLength xs ≤ maxPayload) (hxys : declaredLength (xs ++ ys) ≤ maxPayload) :
    frameAt (xs ++ ys) hxys = frameAt xs hxs := by
  have hlen := declaredLength_append ys (show headerSize ≤ xs.length by omega)
  have h12 : 12 ≤ xs.length := by simp only [headerSize] at h; omega
  ext1
  · exact byteAt_append (by omega)
  · exact byteAt_append (by omega)
  · change getLe32 ((xs ++ ys).drop 6) = getLe32 (xs.drop 6)
    rw [List.drop_append_of_le_length (by omega), getLe32_append (by rw [List.length_drop]; omega)]
  · change ((xs ++ ys).drop headerSize).take _ = (xs.drop headerSize).take _
    rw [hlen, List.drop_append_of_le_length (by omega),
      List.take_append_of_le_length (by rw [List.length_drop]; omega)]

theorem crcMatches_append (h : headerSize + declaredLength xs + crcSize ≤ xs.length) :
    crcMatches (xs ++ ys) ↔ crcMatches xs := by
  have h4 : crcSize = 4 := rfl
  rw [crcMatches, crcMatches, declaredLength_append ys (by omega),
    List.take_append_of_le_length (by omega), List.drop_append_of_le_length (by omega),
    getLe32_append (by rw [List.length_drop]; omega)]

end Append

/-- A decision to consume does not change when more bytes arrive. -/
theorem scanVerdict_stable {xs : List UInt8} {n : Nat} {event : ScanEvent} (ys : List UInt8)
    (h : scanVerdict xs = .consume n event) : scanVerdict (xs ++ ys) = .consume n event := by
  have hlen : (xs ++ ys).length = xs.length + ys.length := List.length_append
  have h12 : headerSize = 12 := rfl
  unfold scanVerdict at h
  split_ifs at h with hshort hmagic hheader hversion hlimit hbody hcrc
  · rw [scanVerdict, if_neg (by omega), if_pos (by rwa [getLe16_append (by omega)]), h]
  · rw [scanVerdict, if_neg (by omega), if_neg (by rwa [getLe16_append (by omega)]),
      if_neg (by omega), if_pos, h]
    rwa [byteAt_append (by omega), byteAt_append (by omega)]
  · rw [scanVerdict, if_neg (by omega), if_neg (by rwa [getLe16_append (by omega)]),
      if_neg (by omega), if_neg (by rwa [byteAt_append (by omega), byteAt_append (by omega)]),
      dif_pos (by rwa [declaredLength_append ys (by omega)]), h]
  all_goals
    rw [scanVerdict, if_neg (by omega), if_neg (by rwa [getLe16_append (by omega)]),
      if_neg (by omega), if_neg (by rwa [byteAt_append (by omega), byteAt_append (by omega)]),
      dif_neg (by rwa [declaredLength_append ys (by omega)]),
      if_neg (by rw [declaredLength_append ys (by omega)]; omega)]
  · rw [if_neg (by rwa [crcMatches_append ys (by omega), not_not]), ← h,
      frameAt_append ys (by omega) (Nat.le_of_not_lt hlimit), declaredLength_append ys (by omega)]
  · rw [if_pos (by rwa [crcMatches_append ys (by omega)]), h]

theorem scanVerdict_bounds {xs : List UInt8} {n : Nat} {event : ScanEvent}
    (h : scanVerdict xs = .consume n event) : 0 < n ∧ n ≤ xs.length := by
  have h12 : headerSize = 12 := rfl
  unfold scanVerdict at h
  split_ifs at h <;> cases h <;> omega

/-- The one-pass reference of the protocol. -/
def wireScanner : Scanner UInt8 ScanEvent where
  verdict := scanVerdict
  consume_bounds := scanVerdict_bounds
  stable := scanVerdict_stable

/-- A candidate that waits is shorter than the longest frame. -/
theorem length_lt_of_wait {data : List UInt8} (h : scanVerdict data = .wait) :
    data.length < maxFrame := by
  have hmax : maxFrame = 4112 := rfl
  have h12 : headerSize = 12 := rfl
  have h4 : crcSize = 4 := rfl
  have hpay : maxPayload = 4096 := rfl
  unfold scanVerdict at h
  split_ifs at h <;> omega

/-- Behind a valid header the decoder fails only on the CRC, and else returns
the frame at the front. -/
theorem frameDecode_take {data : List UInt8} (hmagic : getLe16 data = protocolMagic)
    (hversion : byteAt data 2 = protocolVersion) (hreserved : byteAt data 5 = 0)
    (hlimit : declaredLength data ≤ maxPayload)
    (hlen : headerSize + declaredLength data + crcSize ≤ data.length) :
    frameDecode (data.take (headerSize + declaredLength data + crcSize)) =
      if crcMatches data then .ok (frameAt data hlimit) else .error .crc := by
  have h12 : headerSize = 12 := rfl
  have h4 : crcSize = 4 := rfl
  set total := headerSize + declaredLength data + crcSize with htotal
  have hlength : (data.take total).length = total := List.length_take_of_le hlen
  have hdeclared : (getLe16 ((data.take total).drop 10)).toNat = declaredLength data := by
    rw [List.drop_take, getLe16_take (by omega), declaredLength]
  have hsequence : getLe32 ((data.take total).drop 6) = getLe32 (data.drop 6) := by
    rw [List.drop_take, getLe32_take (by omega)]
  have hcrc : getLe32 ((data.take total).drop (headerSize + declaredLength data)) =
      getLe32 (data.drop (headerSize + declaredLength data)) := by
    rw [List.drop_take, getLe32_take (by omega)]
  have hbody : (data.take total).take (headerSize + declaredLength data) =
      data.take (headerSize + declaredLength data) := by
    rw [List.take_take, min_eq_left (by omega)]
  have hpayload : ((data.take total).drop headerSize).take (declaredLength data) =
      (data.drop headerSize).take (declaredLength data) := by
    rw [List.drop_take, List.take_take, min_eq_left (by omega)]
  have hfields : ¬ (getLe16 (data.take total) ≠ protocolMagic ∨
      byteAt (data.take total) 2 ≠ protocolVersion ∨ byteAt (data.take total) 5 ≠ 0) := by
    rw [getLe16_take (by omega), byteAt_take (by omega), byteAt_take (by omega)]
    simp [hmagic, hversion, hreserved]
  rw [frameDecode, if_neg (by omega), if_neg hfields]
  simp only [hdeclared, hcrc, hbody, hpayload, hsequence, hlength]
  rw [dif_neg (by omega), if_neg (by omega), byteAt_take (by omega), byteAt_take (by omega)]
  by_cases h : crcMatches data
  · rw [if_pos h]
    exact if_neg (not_not.mpr h)
  · rw [if_neg h]
    exact if_pos h

/-! ## One iteration of the drain loop -/

/-- What an event adds to the counters. -/
def ParserStats.record (stats : ParserStats) : ScanEvent → ParserStats
  | .frame _ => { stats with framesDecoded := stats.framesDecoded + 1 }
  | .skip .header => { stats with discardedBytes := stats.discardedBytes + 1 }
  | .skip .length =>
    { stats with
      lengthErrors := stats.lengthErrors + 1
      discardedBytes := stats.discardedBytes + 1 }
  | .skip .crc =>
    { stats with
      crcErrors := stats.crcErrors + 1
      discardedBytes := stats.discardedBytes + 1 }

variable {κ : Type}

/-- One iteration of `parser_drain` makes the reference decision on the
buffered bytes. -/
theorem drainLoop_succ (callback : Frame → κ → Int × κ) (fuel : Nat) (parser : Parser)
    (context : κ) (emitted : Nat) :
    drainLoop callback (fuel + 1) parser context emitted =
      match scanVerdict parser.input.contents with
      | .wait => ⟨Status.ok.code, parser, context, emitted⟩
      | .consume n (.skip reason) =>
        drainLoop callback fuel (parser.discard n (parser.stats.record (.skip reason)))
          context emitted
      | .consume n (.frame frame) =>
        let parser := parser.discard n (parser.stats.record (.frame frame))
        let reply := callback frame context
        if reply.1 ≠ Status.ok.code then ⟨reply.1, parser, reply.2, emitted + 1⟩
        else drainLoop callback fuel parser reply.2 (emitted + 1) := by
  have h12 : headerSize = 12 := rfl
  have hsize : ringSize parser.input = parser.input.contents.length :=
    parser.input.contents_length.symm
  have hpeek : ∀ n, ringPeek parser.input 0 n = parser.input.contents.take n := by
    intro n
    rw [ringPeek_eq, List.drop_zero]
  rw [drainLoop, scanVerdict]
  simp only [hsize, hpeek]
  generalize parser.input.contents = data
  by_cases hshort : data.length < 2
  · simp only [if_pos hshort]
  simp only [if_neg hshort, getLe16_take (Nat.le_refl 2)]
  by_cases hmagic : getLe16 data ≠ protocolMagic
  · simp only [if_pos hmagic]
    rfl
  simp only [if_neg hmagic]
  by_cases hheader : data.length < headerSize
  · simp only [if_pos hheader]
  have hdeclared : (getLe16 ((data.take headerSize).drop 10)).toNat = declaredLength data := by
    rw [List.drop_take, getLe16_take (by omega), declaredLength]
  simp only [if_neg hheader, byteAt_take (show 2 < headerSize by omega),
    byteAt_take (show 5 < headerSize by omega), hdeclared]
  by_cases hversion : byteAt data 2 ≠ protocolVersion ∨ byteAt data 5 ≠ 0
  · simp only [if_pos hversion]
    rfl
  simp only [if_neg hversion]
  by_cases hlimit : declaredLength data > maxPayload
  · simp only [if_pos hlimit, dif_pos hlimit]
    rfl
  simp only [if_neg hlimit, dif_neg hlimit]
  by_cases hbody : data.length < headerSize + declaredLength data + crcSize
  · simp only [if_pos hbody]
  simp only [if_neg hbody]
  rw [not_or, not_not, not_not] at hversion
  rw [frameDecode_take (not_not.mp hmagic) hversion.1 hversion.2 (Nat.le_of_not_lt hlimit)
    (Nat.le_of_not_lt hbody)]
  by_cases hcrc : crcMatches data
  · simp only [if_pos hcrc, if_neg (not_not.mpr hcrc)]
    rfl
  · simp only [if_neg hcrc, if_pos hcrc]
    rfl

/-! ## Counters -/

/-- The counters after `received` more input bytes and a list of events. -/
def ParserStats.after (stats : ParserStats) (received : Nat) (events : List ScanEvent) :
    ParserStats :=
  { events.foldl record stats with bytesReceived := stats.bytesReceived + received.toUInt64 }

/-- `bytes_received` is no concern of the scanner. -/
theorem ParserStats.foldl_record_receive (stats : ParserStats) (received : UInt64)
    (events : List ScanEvent) :
    events.foldl record { stats with bytesReceived := received } =
      { events.foldl record stats with bytesReceived := received } := by
  induction events generalizing stats with
  | nil => rfl
  | cons event events ih =>
    have hrecord : record { stats with bytesReceived := received } event =
        { stats.record event with bytesReceived := received } := by
      rcases event with _ | _ | _ | _ <;> rfl
    rw [List.foldl_cons, hrecord]
    exact ih (stats.record event)

theorem ParserStats.after_nil (stats : ParserStats) : stats.after 0 [] = stats := by
  ext <;> simp [after]

theorem ParserStats.after_after (stats : ParserStats) (m n : Nat) (left right : List ScanEvent) :
    (stats.after m left).after n right = stats.after (m + n) (left ++ right) := by
  have hsum : stats.bytesReceived + m.toUInt64 + n.toUInt64 =
      stats.bytesReceived + (m + n).toUInt64 := by
    rw [UInt64.add_assoc]
    exact congrArg _ (UInt64.ofNat_add m n).symm
  unfold after
  rw [foldl_record_receive, List.foldl_append]
  simp only [hsum]

theorem ParserStats.after_event (stats : ParserStats) (event : ScanEvent) :
    stats.after 0 [event] = stats.record event := by
  rcases event with _ | _ | _ | _ <;> ext <;> simp [after, record]

/-! ## Frames -/

/-- The frames among the events. -/
def framesOf (events : List ScanEvent) : List Frame :=
  events.filterMap fun
    | .frame frame => some frame
    | .skip _ => none

theorem framesOf_append (left right : List ScanEvent) :
    framesOf (left ++ right) = framesOf left ++ framesOf right :=
  List.filterMap_append

theorem framesOf_map_frame (frames : List Frame) : framesOf (frames.map .frame) = frames := by
  rw [framesOf, List.filterMap_map]
  exact List.filterMap_some

/-! ## The ring -/

theorem parserInit_contents : parserInit.input.contents = [] :=
  List.length_eq_zero_iff.mp (RingBuffer.contents_length _)

theorem Parser.discard_contents (parser : Parser) (count : Nat) (stats : ParserStats) :
    (parser.discard count stats).input.contents = parser.input.contents.drop count :=
  ringDiscard_contents _ _

theorem Parser.receive_count (parser : Parser) (data : List UInt8) :
    (parser.receive data).1 = min data.length (ringSpace parser.input) :=
  ringWrite_count _ _

theorem Parser.receive_contents (parser : Parser) (data : List UInt8) :
    (parser.receive data).2.input.contents =
      parser.input.contents ++ data.take (ringSpace parser.input) := by
  have hwritten : data.take (ringWrite parser.input data).1 =
      data.take (ringSpace parser.input) := by
    rw [ringWrite_count, Nat.min_comm, ← List.take_eq_take_min]
  rw [← hwritten]
  exact ringWrite_contents _ _

/-- A parser that waits has room for more input. -/
theorem Parser.room_of_wait {parser : Parser} (h : scanVerdict parser.input.contents = .wait) :
    parser.input.size < parserCapacity := by
  have hlt := length_lt_of_wait h
  rw [RingBuffer.contents_length] at hlt
  rw [parserCapacity]
  omega

/-! ## Encoded frames -/

/-- An encoded frame is taken as one unit. -/
theorem scanVerdict_frameBytes (frame : Frame) :
    scanVerdict (frameBytes frame) = .consume (frameBytes frame).length (.frame frame) := by
  obtain ⟨hmagic, hversion, _, _, hreserved, _, hlength⟩ := frameBytes_fields frame []
  rw [List.append_nil] at hmagic hversion hreserved hlength
  have hdeclared : declaredLength (frameBytes frame) = frame.payload.length := hlength
  have hlimit : declaredLength (frameBytes frame) ≤ maxPayload := hdeclared ▸ frame.payload_le
  have htotal : (frameBytes frame).length =
      headerSize + declaredLength (frameBytes frame) + crcSize := by
    rw [frameBytes_length, hdeclared]
  have hsizes : headerSize = 12 ∧ crcSize = 4 := ⟨rfl, rfl⟩
  -- What the decoder says of the whole string, it says of the prefix that the
  -- scanner looks at.
  have hdecode := frameDecode_take hmagic hversion hreserved hlimit htotal.ge
  rw [List.take_of_length_le htotal.le, frameDecode_frameBytes] at hdecode
  by_cases hcrc : crcMatches (frameBytes frame)
  · rw [if_pos hcrc] at hdecode
    rw [scanVerdict, if_neg (by omega), if_neg (not_not.mpr hmagic), if_neg (by omega),
      if_neg (by simp [hversion, hreserved]), dif_neg (Nat.not_lt.mpr hlimit), if_neg (by omega),
      if_neg (not_not.mpr hcrc), ← htotal, ← Except.ok.inj hdecode]
  · rw [if_neg hcrc] at hdecode
    cases hdecode

end Devmgr
