import DeviceManager.Stm32.Update
import Mathlib.Logic.Function.Iterate

/-!
# The frame codec of `firmware/stm32f103/common/protocol.c`

The STM32 has its own copies of the integer accessors, of the CRC and of the
frame codec.  They are translated here on their own, in `Stm32.Protocol`, and
compared with the codec of the host:

* `putLe16_eq` to `crc32_eq`: the helpers compute the same values, so
  `Protocol.frameEncode` is the encoder that `Stm32.Update` uses
  (`frameEncode_eq`);
* `frameDecode_eq_ok`: the two decoders accept the same strings and read the
  same fields from them.

`hostDecodeChecked` and `deviceDecodeChecked` are the two decoders with every
access to the input checked against its length.  They never fail, so no read is
outside of the input.
-/

namespace Stm32

open Devmgr

/-- The view of a frame. -/
def viewOf (frame : Frame) : FrameView where
  type := frame.type
  flags := frame.flags
  sequence := frame.sequence
  payload := frame.payload
  payload_lt := frame.payload_le.trans_lt (Nat.lt_of_sub_eq_succ rfl)

namespace Protocol

/-! `STM32_DEVMGR_*` -/

def magic : UInt16 := 0x4D44
def version : UInt8 := 1
def headerSize : Nat := 12
def crcSize : Nat := 4
def maxPayload : Nat := 4096

/-- `stm32_put_le16`. -/
def putLe16 (value : UInt16) : List UInt8 :=
  [value.toUInt8, (value >>> 8).toUInt8]

/-- `stm32_put_le32`. -/
def putLe32 (value : UInt32) : List UInt8 :=
  [value.toUInt8, (value >>> 8).toUInt8, (value >>> 16).toUInt8, (value >>> 24).toUInt8]

/-- `stm32_get_le16`. -/
def getLe16 (input : List UInt8) : UInt16 :=
  (byteAt input 0).toUInt16 ||| ((byteAt input 1).toUInt16 <<< 8)

/-- `stm32_get_le32`. -/
def getLe32 (input : List UInt8) : UInt32 :=
  (byteAt input 0).toUInt32 ||| ((byteAt input 1).toUInt32 <<< 8) |||
    ((byteAt input 2).toUInt32 <<< 16) ||| ((byteAt input 3).toUInt32 <<< 24)

/-- The body of the inner loop of `stm32_crc32`. -/
def crcBit (crc : UInt32) : UInt32 :=
  let mask : UInt32 := 0 - (crc &&& 1)
  (crc >>> 1) ^^^ (0xEDB88320 &&& mask)

/-- `stm32_crc32`. -/
def crc32 (data : List UInt8) : UInt32 :=
  data.foldl (fun crc byte => crcBit^[8] (crc ^^^ byte.toUInt32)) 0xFFFFFFFF ^^^ 0xFFFFFFFF

/-- `stm32_frame_decode`. -/
def frameDecode (data : List UInt8) : Except Int FrameView :=
  if data.length < headerSize + crcSize then .error (-1)
  else if getLe16 data ≠ magic ∨ byteAt data 2 ≠ version ∨ byteAt data 5 ≠ 0 then .error (-2)
  else
    let payloadLength := (getLe16 (data.drop 10)).toNat
    if payloadLength > maxPayload ∨ data.length ≠ headerSize + payloadLength + crcSize then
      .error (-3)
    else
      let expected := getLe32 (data.drop (headerSize + payloadLength))
      if crc32 (data.take (headerSize + payloadLength)) ≠ expected then .error (-4)
      else .ok
        { type := byteAt data 3
          flags := byteAt data 4
          sequence := getLe32 (data.drop 6)
          payload := (data.drop headerSize).take payloadLength
          payload_lt := (List.length_take_le _ _).trans_lt (UInt16.toNat_lt _) }

/-- `stm32_frame_encode`: the returned code and the bytes written. -/
def frameEncode (type flags : UInt8) (sequence : UInt32) (payload : List UInt8)
    (capacity : Nat) : Int × List UInt8 :=
  let total := headerSize + payload.length + crcSize
  if payload.length > maxPayload ∨ capacity < total then (-1, [])
  else
    let body := putLe16 magic ++ [version, type, flags, 0] ++ putLe32 sequence ++
      putLe16 payload.length.toUInt16 ++ payload
    (0, body ++ putLe32 (crc32 body))

/-! ## The helpers of the host -/

theorem constants_eq :
    magic = protocolMagic ∧ version = protocolVersion ∧ headerSize = Devmgr.headerSize ∧
      crcSize = Devmgr.crcSize ∧ maxPayload = Devmgr.maxPayload :=
  ⟨rfl, rfl, rfl, rfl, rfl⟩

theorem getLe16_eq (input : List UInt8) : getLe16 input = Devmgr.getLe16 input := rfl

theorem getLe32_eq (input : List UInt8) : getLe32 input = Devmgr.getLe32 input := rfl

theorem putLe16_eq (value : UInt16) : putLe16 value = Devmgr.putLe16 value := by
  have hlow : (value &&& 0x00FF).toUInt8 = value.toUInt8 := by
    apply UInt8.toNat_inj.mp
    simp [Nat.and_two_pow_sub_one_eq_mod _ 8]
  rw [putLe16, Devmgr.putLe16, hlow]

theorem putLe32_eq (value : UInt32) : putLe32 value = Devmgr.putLe32 value := by
  have hlow : ∀ word : UInt32, (word &&& 0x000000FF).toUInt8 = word.toUInt8 := by
    intro word
    apply UInt8.toNat_inj.mp
    simp [Nat.and_two_pow_sub_one_eq_mod _ 8]
  rw [putLe32, Devmgr.putLe32, hlow, hlow, hlow]

theorem crcBit_iterate (rounds : Nat) (crc : UInt32) :
    crcBit^[rounds] crc = crc32Rounds rounds crc := by
  induction rounds generalizing crc with
  | zero => rfl
  | succ rounds ih =>
    rw [Function.iterate_succ_apply, ih]
    rfl

theorem crc32_eq (data : List UInt8) : crc32 data = Devmgr.crc32 data := by
  simp only [crc32, crcBit_iterate]
  rfl

/-- The encoder that the bootloader's handlers use. -/
theorem frameEncode_eq (type flags : UInt8) (sequence : UInt32) (payload : List UInt8)
    (capacity : Nat) :
    frameEncode type flags sequence payload capacity =
      Stm32.frameEncode type flags sequence payload capacity := by
  simp only [frameEncode, Stm32.frameEncode, putLe16_eq, putLe32_eq, crc32_eq]
  by_cases h : payload.length > Devmgr.maxPayload ∨
      capacity < Devmgr.headerSize + payload.length + Devmgr.crcSize
  · rw [dif_pos h]
    exact if_pos h
  · rw [dif_neg h]
    exact if_neg h

/-- The STM32 accepts what the host accepts, and sees the frame that the host
sees. -/
theorem frameDecode_eq_ok {data : List UInt8} {view : FrameView} :
    frameDecode data = .ok view ↔
      ∃ frame, Devmgr.frameDecode data = .ok frame ∧ view = viewOf frame := by
  obtain ⟨hmagic, hversion, hheader, hcrc, hpayload⟩ := constants_eq
  simp only [frameDecode, Devmgr.frameDecode, getLe16_eq, getLe32_eq, crc32_eq, hmagic, hversion,
    hheader, hcrc, hpayload]
  split_ifs with hshort hfields hsize hlimit hlength hcrc
  all_goals first | omega | simp
  exact eq_comm

end Protocol

/-! ## Reads inside the input -/

/-- `count` bytes at `offset`, when all of them are in the buffer. -/
def readBytes (data : List UInt8) (offset count : Nat) : Option (List UInt8) :=
  if offset + count ≤ data.length then some ((data.drop offset).take count) else none

/-- `devmgr_frame_decode` with checked reads: `none` is an access outside of the
input. -/
def hostDecodeChecked (data : List UInt8) : Option (Except Status Frame) :=
  if data.length < headerSize + crcSize then some (.error .invalid)
  else do
    let magic ← readBytes data 0 2
    let version ← readBytes data 2 1
    let reserved ← readBytes data 5 1
    if getLe16 magic ≠ protocolMagic ∨ byteAt version 0 ≠ protocolVersion ∨
        byteAt reserved 0 ≠ 0 then some (.error .protocol)
    else
      let length ← readBytes data 10 2
      let payloadLength := (getLe16 length).toNat
      if payloadLength > maxPayload then some (.error .limit)
      else if data.length ≠ headerSize + payloadLength + crcSize then some (.error .invalid)
      else
        let expectedCrc ← readBytes data (headerSize + payloadLength) 4
        let covered ← readBytes data 0 (headerSize + payloadLength)
        if crc32 covered ≠ getLe32 expectedCrc then some (.error .crc)
        else
          let type ← readBytes data 3 1
          let flags ← readBytes data 4 1
          let sequence ← readBytes data 6 4
          let payload ← readBytes data headerSize payloadLength
          some (.ok
            { type := byteAt type 0
              flags := byteAt flags 0
              sequence := getLe32 sequence
              payload := payload.take maxPayload
              payload_le := List.length_take_le _ _ })

/-- `stm32_frame_decode` with checked reads. -/
def deviceDecodeChecked (data : List UInt8) : Option (Except Int FrameView) :=
  if data.length < Protocol.headerSize + Protocol.crcSize then some (.error (-1))
  else do
    let magic ← readBytes data 0 2
    let version ← readBytes data 2 1
    let reserved ← readBytes data 5 1
    if Protocol.getLe16 magic ≠ Protocol.magic ∨ byteAt version 0 ≠ Protocol.version ∨
        byteAt reserved 0 ≠ 0 then some (.error (-2))
    else
      let length ← readBytes data 10 2
      let payloadLength := (Protocol.getLe16 length).toNat
      if payloadLength > Protocol.maxPayload ∨
          data.length ≠ Protocol.headerSize + payloadLength + Protocol.crcSize then
        some (.error (-3))
      else
        let expected ← readBytes data (Protocol.headerSize + payloadLength) 4
        let covered ← readBytes data 0 (Protocol.headerSize + payloadLength)
        if Protocol.crc32 covered ≠ Protocol.getLe32 expected then some (.error (-4))
        else
          let type ← readBytes data 3 1
          let flags ← readBytes data 4 1
          let sequence ← readBytes data 6 4
          let payload ← readBytes data Protocol.headerSize payloadLength
          some (.ok
            { type := byteAt type 0
              flags := byteAt flags 0
              sequence := Protocol.getLe32 sequence
              payload := payload.take Protocol.maxPayload
              payload_lt := (List.length_take_le _ _).trans_lt (Nat.lt_of_sub_eq_succ rfl) })

theorem readBytes_eq {data : List UInt8} {offset count : Nat} (h : offset + count ≤ data.length) :
    readBytes data offset count = some ((data.drop offset).take count) :=
  if_pos h

theorem byteAt_drop_take (data : List UInt8) (offset : Nat) :
    byteAt ((data.drop offset).take 1) 0 = byteAt data offset := by
  rw [byteAt_take Nat.zero_lt_one, byteAt, byteAt, List.getD_eq_getElem?_getD,
    List.getElem?_drop, Nat.add_zero, List.getD_eq_getElem?_getD]

/-- The reads of the fixed header fields, once the length is known to cover
header and CRC. -/
theorem header_reads {data : List UInt8} (h : 16 ≤ data.length) :
    readBytes data 0 2 = some (data.take 2) ∧ readBytes data 2 1 = some ((data.drop 2).take 1) ∧
      readBytes data 5 1 = some ((data.drop 5).take 1) ∧
      readBytes data 10 2 = some ((data.drop 10).take 2) ∧
      readBytes data 3 1 = some ((data.drop 3).take 1) ∧
      readBytes data 4 1 = some ((data.drop 4).take 1) ∧
      readBytes data 6 4 = some ((data.drop 6).take 4) := by
  refine ⟨?_, ?_, ?_, ?_, ?_, ?_, ?_⟩
  all_goals exact readBytes_eq (by omega)

/-- The reads behind the header, once the length is known to be the declared
one. -/
theorem body_reads {data : List UInt8} {n : Nat} (h : data.length = headerSize + n + crcSize) :
    readBytes data (headerSize + n) 4 = some ((data.drop (headerSize + n)).take 4) ∧
      readBytes data 0 (headerSize + n) = some (data.take (headerSize + n)) ∧
      readBytes data headerSize n = some ((data.drop headerSize).take n) := by
  have h4 : crcSize = 4 := rfl
  refine ⟨?_, ?_, ?_⟩
  all_goals exact readBytes_eq (by omega)

/-- No read of `devmgr_frame_decode` is outside of its input. -/
theorem hostDecodeChecked_eq (data : List UInt8) :
    hostDecodeChecked data = some (frameDecode data) := by
  unfold hostDecodeChecked frameDecode
  by_cases hshort : data.length < headerSize + crcSize
  · rw [if_pos hshort, if_pos hshort]
  obtain ⟨hmagic, hversion, hreserved, hdeclared, htype, hflags, hsequence⟩ :=
    header_reads (Nat.le_of_not_lt hshort)
  simp only [if_neg hshort, hmagic, hversion, hreserved, hdeclared, htype, hflags, hsequence,
    Option.bind_eq_bind, Option.bind_some, byteAt_drop_take, getLe16_take (Nat.le_refl 2),
    getLe32_take (Nat.le_refl 4)]
  split_ifs with hfields hlimit hlength hcrc
  · rfl
  · rfl
  · rfl
  all_goals
    obtain ⟨hexpected, hcovered, hpayload⟩ := body_reads (not_not.mp hlength)
    simp only [hexpected, hcovered, hpayload, Option.bind_some, getLe32_take (Nat.le_refl 4),
      List.take_take, Nat.min_eq_right (Nat.le_of_not_lt hlimit)]
  · rw [if_pos hcrc]
  · rw [if_neg hcrc]

/-- No read of `stm32_frame_decode` is outside of its input. -/
theorem deviceDecodeChecked_eq (data : List UInt8) :
    deviceDecodeChecked data = some (Protocol.frameDecode data) := by
  obtain ⟨_, _, hheader, hcrcSize, hmax⟩ := Protocol.constants_eq
  simp only [deviceDecodeChecked, Protocol.frameDecode, Protocol.getLe16_eq, Protocol.getLe32_eq,
    hheader, hcrcSize, hmax]
  by_cases hshort : data.length < headerSize + crcSize
  · rw [if_pos hshort, if_pos hshort]
  obtain ⟨hmagic, hversion, hreserved, hdeclared, htype, hflags, hsequence⟩ :=
    header_reads (Nat.le_of_not_lt hshort)
  simp only [if_neg hshort, hmagic, hversion, hreserved, hdeclared, htype, hflags, hsequence,
    Option.bind_eq_bind, Option.bind_some, byteAt_drop_take, getLe16_take (Nat.le_refl 2),
    getLe32_take (Nat.le_refl 4)]
  split_ifs with hfields hsize hcrc
  · rfl
  · rfl
  all_goals
    rw [not_or, not_not] at hsize
    obtain ⟨hexpected, hcovered, hpayload⟩ := body_reads hsize.2
    simp only [hexpected, hcovered, hpayload, Option.bind_some, getLe32_take (Nat.le_refl 4),
      List.take_take, Nat.min_eq_right (Nat.le_of_not_lt hsize.1)]
  · rw [if_pos hcrc]
  · rw [if_neg hcrc]

/-! ## One format -/

/-- Host and STM32 write every frame as the same bytes.  A string is accepted by
the one decoder exactly when it is accepted by the other; both then see the same
fields, and the string is what either encoder writes for them.  No decoder reads
outside of its input. -/
theorem codecs_agree :
    (∀ (frame : Frame) (capacity : Nat),
      headerSize + frame.payload.length + crcSize ≤ capacity →
      ∃ encoded, Devmgr.frameEncode frame capacity = .ok encoded ∧
        Protocol.frameEncode frame.type frame.flags frame.sequence frame.payload capacity =
          (0, encoded) ∧
        frameDecode encoded = .ok frame ∧ Protocol.frameDecode encoded = .ok (viewOf frame)) ∧
    (∀ data : List UInt8, (∃ frame, frameDecode data = .ok frame) ↔
      ∃ view, Protocol.frameDecode data = .ok view) ∧
    (∀ (data : List UInt8) (frame : Frame) (view : FrameView),
      frameDecode data = .ok frame → Protocol.frameDecode data = .ok view →
      view = viewOf frame ∧ Devmgr.frameEncode frame data.length = .ok data ∧
        Protocol.frameEncode view.type view.flags view.sequence view.payload data.length =
          (0, data)) ∧
    ∀ data : List UInt8, hostDecodeChecked data = some (frameDecode data) ∧
      deviceDecodeChecked data = some (Protocol.frameDecode data) := by
  refine ⟨?_, ?_, ?_, ?_⟩
  · intro frame capacity hcapacity
    refine ⟨frameBytes frame, Devmgr.frameEncode_of_le frame hcapacity, ?_,
      frameDecode_frameBytes frame,
      Protocol.frameDecode_eq_ok.mpr ⟨frame, frameDecode_frameBytes frame, rfl⟩⟩
    rw [Protocol.frameEncode_eq, frameEncode_of_le frame hcapacity]
  · intro data
    constructor
    · rintro ⟨frame, hframe⟩
      exact ⟨viewOf frame, Protocol.frameDecode_eq_ok.mpr ⟨frame, hframe, rfl⟩⟩
    · rintro ⟨view, hview⟩
      obtain ⟨frame, hframe, _⟩ := Protocol.frameDecode_eq_ok.mp hview
      exact ⟨frame, hframe⟩
  · intro data frame view hframe hview
    obtain ⟨frame', hframe', rfl⟩ := Protocol.frameDecode_eq_ok.mp hview
    obtain rfl : frame = frame' := Except.ok.inj (hframe.symm.trans hframe')
    obtain rfl := frameDecode_inv hframe
    have hcapacity := (frameBytes_length frame).ge
    refine ⟨rfl, Devmgr.frameEncode_of_le frame hcapacity, ?_⟩
    rw [Protocol.frameEncode_eq]
    exact frameEncode_of_le frame hcapacity
  · intro data
    exact ⟨hostDecodeChecked_eq data, deviceDecodeChecked_eq data⟩

/-- A ping in a buffer of just its size. -/
theorem codecs_agree_ping :
    let ping : Frame := ⟨Msg.ping, Flag.ackRequired, 1, [0xA5], by decide⟩
    ∃ encoded, Devmgr.frameEncode ping 17 = .ok encoded ∧
      Protocol.frameEncode ping.type ping.flags ping.sequence ping.payload 17 = (0, encoded) ∧
      frameDecode encoded = .ok ping ∧ Protocol.frameDecode encoded = .ok (viewOf ping) :=
  codecs_agree.1 _ 17 (by decide)

end Stm32
