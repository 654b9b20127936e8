import DeviceManager.Common.Primitives
import DeviceManager.Lib.LittleEndian

/-!
# Frames and their codec

The wire format of `include/devmgr/protocol.h` and `src/protocol/frame.c`.  A
`Frame` carries the bound of its payload, the size of the array in
`struct devmgr_frame`; its `payload_length` is the length of the list.

The four integer accessors are written with shifts and masks as in the source.
`putLe32_eq` and `getLe32_toNat` connect them to `LittleEndian`, and the rest
of the development uses only `getLe32_putLe32`, `getLe32_append` and their
16-bit forms.

`frameBytes` is the byte string that `devmgr_frame_encode` writes.
`frameDecode_frameBytes` is the round trip, and `frameDecode_eq_ok` says that
the decoder accepts the encodings and nothing else.
-/

namespace Devmgr

/-! ## Constants of the protocol -/

def protocolMagic : UInt16 := 0x4D44
def protocolVersion : UInt8 := 1
def headerSize : Nat := 12
def crcSize : Nat := 4
def maxPayload : Nat := 4096
def maxFrame : Nat := headerSize + maxPayload + crcSize

/-! `enum devmgr_message_type` -/

namespace Msg

abbrev ping : UInt8 := 0x01
abbrev getInfo : UInt8 := 0x02
abbrev getHealth : UInt8 := 0x03
abbrev getStats : UInt8 := 0x04
abbrev startTelemetry : UInt8 := 0x05
abbrev stopTelemetry : UInt8 := 0x06
abbrev enterBootloader : UInt8 := 0x10
abbrev fwBegin : UInt8 := 0x11
abbrev fwData : UInt8 := 0x12
abbrev fwStatus : UInt8 := 0x13
abbrev fwEnd : UInt8 := 0x14
abbrev fwVerify : UInt8 := 0x15
abbrev fwActivate : UInt8 := 0x16
abbrev reboot : UInt8 := 0x17
abbrev ack : UInt8 := 0x80
abbrev nack : UInt8 := 0x81
abbrev error : UInt8 := 0x82
abbrev telemetry : UInt8 := 0x83

end Msg

/-! `enum devmgr_frame_flags` -/

namespace Flag

abbrev response : UInt8 := 1
abbrev ackRequired : UInt8 := 2
abbrev retry : UInt8 := 4

end Flag

/-- `struct devmgr_frame`. -/
@[ext] structure Frame where
  type : UInt8
  flags : UInt8
  sequence : UInt32
  payload : List UInt8
  payload_le : payload.length ≤ maxPayload
  deriving DecidableEq

/-! ## Integer accessors -/

/-- `devmgr_put_le16`. -/
def putLe16 (value : UInt16) : List UInt8 :=
  [(value &&& 0x00FF).toUInt8, (value >>> 8).toUInt8]

/-- `devmgr_put_le32`. -/
def putLe32 (value : UInt32) : List UInt8 :=
  [(value &&& 0x000000FF).toUInt8, ((value >>> 8) &&& 0x000000FF).toUInt8,
    ((value >>> 16) &&& 0x000000FF).toUInt8, (value >>> 24).toUInt8]

/-- The byte at an index of a buffer. -/
def byteAt (input : List UInt8) (index : Nat) : UInt8 :=
  input.getD index 0

/-- `devmgr_get_le16`. -/
def getLe16 (input : List UInt8) : UInt16 :=
  (byteAt input 0).toUInt16 ||| ((byteAt input 1).toUInt16 <<< 8)

/-- `devmgr_get_le32`. -/
def getLe32 (input : List UInt8) : UInt32 :=
  (byteAt input 0).toUInt32 ||| ((byteAt input 1).toUInt32 <<< 8) |||
    ((byteAt input 2).toUInt32 <<< 16) ||| ((byteAt input 3).toUInt32 <<< 24)

/-- Two buffers that agree on an index have the same byte there. -/
theorem byteAt_append {data tail : List UInt8} {index : Nat} (h : index < data.length) :
    byteAt (data ++ tail) index = byteAt data index := by
  rw [byteAt, byteAt, List.getD_eq_getElem?_getD, List.getElem?_append_left h,
    List.getD_eq_getElem?_getD]

theorem byteAt_take {data : List UInt8} {count index : Nat} (h : index < count) :
    byteAt (data.take count) index = byteAt data index := by
  rw [byteAt, byteAt, List.getD_eq_getElem?_getD, List.getElem?_take_of_lt h,
    List.getD_eq_getElem?_getD]

theorem getLe16_take {data : List UInt8} {count : Nat} (h : 2 ≤ count) :
    getLe16 (data.take count) = getLe16 data := by
  rw [getLe16, getLe16, byteAt_take (by omega), byteAt_take (by omega)]

theorem getLe32_take {data : List UInt8} {count : Nat} (h : 4 ≤ count) :
    getLe32 (data.take count) = getLe32 data := by
  rw [getLe32, getLe32, byteAt_take (by omega), byteAt_take (by omega),
    byteAt_take (by omega), byteAt_take (by omega)]

theorem getLe16_append {data tail : List UInt8} (h : 2 ≤ data.length) :
    getLe16 (data ++ tail) = getLe16 data := by
  rw [getLe16, getLe16, byteAt_append (by omega), byteAt_append (by omega)]

theorem getLe32_append {data tail : List UInt8} (h : 4 ≤ data.length) :
    getLe32 (data ++ tail) = getLe32 data := by
  rw [getLe32, getLe32, byteAt_append (by omega), byteAt_append (by omega),
    byteAt_append (by omega), byteAt_append (by omega)]

@[simp] theorem putLe16_length (value : UInt16) : (putLe16 value).length = 2 := rfl

@[simp] theorem putLe32_length (value : UInt32) : (putLe32 value).length = 4 := rfl

theorem putLe32_le (value : UInt32) : (putLe32 value).length ≤ maxPayload := by
  simp [maxPayload]

theorem putLe16_eq (value : UInt16) : putLe16 value = LittleEndian.bytes 2 value.toNat := by
  have h := value.toNat_lt
  simp only [putLe16, LittleEndian.bytes, List.cons.injEq, and_true]
  refine ⟨?_, ?_⟩ <;> apply UInt8.toNat_inj.mp <;>
    simp [Nat.shiftRight_eq_div_pow, Nat.and_two_pow_sub_one_eq_mod _ 8]

theorem putLe32_eq (value : UInt32) : putLe32 value = LittleEndian.bytes 4 value.toNat := by
  have h := value.toNat_lt
  simp only [putLe32, LittleEndian.bytes, List.cons.injEq, and_true]
  refine ⟨?_, ?_, ?_, ?_⟩ <;> apply UInt8.toNat_inj.mp <;>
    simp [Nat.shiftRight_eq_div_pow, Nat.and_two_pow_sub_one_eq_mod _ 8, Nat.div_div_eq_div_mul]

theorem getLe16_toNat {data : List UInt8} (h : data.length = 2) :
    (getLe16 data).toNat = LittleEndian.value data := by
  obtain ⟨b0, b1, rfl⟩ := List.length_eq_two.mp h
  have h0 := b0.toNat_lt
  have h1 := b1.toNat_lt
  have hor := LittleEndian.or_shiftLeft (k := 8) h0 b1.toNat
  have hshift : b1.toNat <<< 8 < 2 ^ 16 := by
    rw [Nat.shiftLeft_eq]
    omega
  simp only [getLe16, byteAt, List.getD_cons_zero, List.getD_cons_succ, UInt16.toNat_or,
    UInt16.toNat_shiftLeft, UInt8.toNat_toUInt16, UInt16.reduceToNat, Nat.reduceMod,
    Nat.mod_eq_of_lt hshift, hor, LittleEndian.value]
  omega

theorem getLe32_toNat {data : List UInt8} (h : data.length = 4) :
    (getLe32 data).toNat = LittleEndian.value data := by
  obtain ⟨b0, b1, b2, b3, rfl⟩ : ∃ b0 b1 b2 b3, data = [b0, b1, b2, b3] := by
    rcases data with _ | ⟨b0, _ | ⟨b1, _ | ⟨b2, _ | ⟨b3, _ | ⟨_, _⟩⟩⟩⟩⟩ <;> simp_all
  have h0 := b0.toNat_lt
  have h1 := b1.toNat_lt
  have h2 := b2.toNat_lt
  have h3 := b3.toNat_lt
  have hs1 : b1.toNat <<< 8 < 2 ^ 32 := by rw [Nat.shiftLeft_eq]; omega
  have hs2 : b2.toNat <<< 16 < 2 ^ 32 := by rw [Nat.shiftLeft_eq]; omega
  have hs3 : b3.toNat <<< 24 < 2 ^ 32 := by rw [Nat.shiftLeft_eq]; omega
  have hor1 := LittleEndian.or_shiftLeft (k := 8) h0 b1.toNat
  have hor2 := LittleEndian.or_shiftLeft
    (show b0.toNat + 2 ^ 8 * b1.toNat < 2 ^ 16 by omega) b2.toNat
  have hor3 := LittleEndian.or_shiftLeft
    (show b0.toNat + 2 ^ 8 * b1.toNat + 2 ^ 16 * b2.toNat < 2 ^ 24 by omega) b3.toNat
  simp only [getLe32, byteAt, List.getD_cons_zero, List.getD_cons_succ, UInt32.toNat_or,
    UInt32.toNat_shiftLeft, UInt8.toNat_toUInt32, UInt32.reduceToNat, Nat.reduceMod,
    Nat.mod_eq_of_lt hs1, Nat.mod_eq_of_lt hs2, Nat.mod_eq_of_lt hs3, hor1, hor2, hor3,
    LittleEndian.value]
  omega

theorem getLe16_putLe16 (value : UInt16) (tail : List UInt8) :
    getLe16 (putLe16 value ++ tail) = value := by
  have h := value.toNat_lt
  apply UInt16.toNat_inj.mp
  rw [getLe16_append (by simp), getLe16_toNat rfl, putLe16_eq, LittleEndian.value_bytes]
  exact Nat.mod_eq_of_lt h

theorem getLe32_putLe32 (value : UInt32) (tail : List UInt8) :
    getLe32 (putLe32 value ++ tail) = value := by
  have h := value.toNat_lt
  apply UInt32.toNat_inj.mp
  rw [getLe32_append (by simp), getLe32_toNat rfl, putLe32_eq, LittleEndian.value_bytes]
  exact Nat.mod_eq_of_lt h

@[simp] theorem getLe32_putLe32_self (value : UInt32) : getLe32 (putLe32 value) = value := by
  simpa using getLe32_putLe32 value []

theorem putLe16_getLe16 {data : List UInt8} (h : data.length = 2) :
    putLe16 (getLe16 data) = data := by
  have hvalue := LittleEndian.bytes_value data
  rw [h] at hvalue
  rw [putLe16_eq, getLe16_toNat h, hvalue]

theorem putLe32_getLe32 {data : List UInt8} (h : data.length = 4) :
    putLe32 (getLe32 data) = data := by
  have hvalue := LittleEndian.bytes_value data
  rw [h] at hvalue
  rw [putLe32_eq, getLe32_toNat h, hvalue]

/-- Four bytes of a buffer, one by one. -/
theorem take_four_drop {data : List UInt8} {offset : Nat} (h : offset + 4 ≤ data.length) :
    (data.drop offset).take 4 = [byteAt data offset, byteAt data (offset + 1),
      byteAt data (offset + 2), byteAt data (offset + 3)] := by
  have hbyte : ∀ i, byteAt (data.drop offset) i = byteAt data (offset + i) := by
    intro i
    simp only [byteAt, List.getD_eq_getElem?_getD, List.getElem?_drop]
  rw [← hbyte 1, ← hbyte 2, ← hbyte 3, ← Nat.add_zero offset, ← hbyte 0, Nat.add_zero]
  have hlen : 4 ≤ (data.drop offset).length := by rw [List.length_drop]; omega
  generalize data.drop offset = rest at hlen
  rcases rest with _ | ⟨b0, _ | ⟨b1, _ | ⟨b2, _ | ⟨b3, rest⟩⟩⟩⟩
  all_goals first | rfl | (simp at hlen)

/-! ## The codec -/

/-- The first twelve bytes that `devmgr_frame_encode` writes. -/
def frameHeader (frame : Frame) : List UInt8 :=
  putLe16 protocolMagic ++ [protocolVersion, frame.type, frame.flags, 0] ++
    putLe32 frame.sequence ++ putLe16 frame.payload.length.toUInt16

/-- Header, payload and CRC. -/
def frameBytes (frame : Frame) : List UInt8 :=
  let body := frameHeader frame ++ frame.payload
  body ++ putLe32 (crc32 body)

/-- `devmgr_frame_encode` into a buffer of `capacity` bytes. -/
def frameEncode (frame : Frame) (capacity : Nat) : Except Status (List UInt8) :=
  if frame.payload.length > maxPayload then .error .invalid
  else if capacity < headerSize + frame.payload.length + crcSize then .error .overflow
  else .ok (frameBytes frame)

/-- `devmgr_frame_decode`. -/
def frameDecode (data : List UInt8) : Except Status Frame :=
  if data.length < headerSize + crcSize then .error .invalid
  else if getLe16 data ≠ protocolMagic ∨ byteAt data 2 ≠ protocolVersion ∨ byteAt data 5 ≠ 0 then
    .error .protocol
  else
    let payloadLength := (getLe16 (data.drop 10)).toNat
    if hlimit : payloadLength > maxPayload then .error .limit
    else if data.length ≠ headerSize + payloadLength + crcSize then .error .invalid
    else
      let expectedCrc := getLe32 (data.drop (headerSize + payloadLength))
      let actualCrc := crc32 (data.take (headerSize + payloadLength))
      if actualCrc ≠ expectedCrc then .error .crc
      else .ok
        { type := byteAt data 3
          flags := byteAt data 4
          sequence := getLe32 (data.drop 6)
          payload := (data.drop headerSize).take payloadLength
          payload_le := (List.length_take_le _ _).trans (Nat.le_of_not_lt hlimit) }

@[simp] theorem frameHeader_length (frame : Frame) : (frameHeader frame).length = headerSize := rfl

@[simp] theorem frameBytes_length (frame : Frame) :
    (frameBytes frame).length = headerSize + frame.payload.length + crcSize := by
  simp [frameBytes, crcSize, Nat.add_assoc]

/-- The encoder accepts every frame that fits the buffer. -/
theorem frameEncode_of_le (frame : Frame) {capacity : Nat}
    (h : headerSize + frame.payload.length + crcSize ≤ capacity) :
    frameEncode frame capacity = .ok (frameBytes frame) := by
  have hle := frame.payload_le
  rw [frameEncode, if_neg (by omega), if_neg (by omega)]

theorem frameEncode_eq (frame : Frame) {capacity : Nat} (h : maxFrame ≤ capacity) :
    frameEncode frame capacity = .ok (frameBytes frame) := by
  have hle := frame.payload_le
  simp only [maxFrame] at h
  exact frameEncode_of_le frame (by omega)

/-- The encoder produces `frameBytes` or fails. -/
theorem frameEncode_inv {frame : Frame} {capacity : Nat} {bytes : List UInt8}
    (h : frameEncode frame capacity = .ok bytes) : bytes = frameBytes frame := by
  rw [frameEncode] at h
  split_ifs at h
  exact (Except.ok.inj h).symm

/-- What a decoder sees in the header of an encoded frame. -/
theorem frameBytes_fields (frame : Frame) (tail : List UInt8) :
    getLe16 (frameBytes frame ++ tail) = protocolMagic ∧
      byteAt (frameBytes frame ++ tail) 2 = protocolVersion ∧
      byteAt (frameBytes frame ++ tail) 3 = frame.type ∧
      byteAt (frameBytes frame ++ tail) 4 = frame.flags ∧
      byteAt (frameBytes frame ++ tail) 5 = 0 ∧
      getLe32 ((frameBytes frame ++ tail).drop 6) = frame.sequence ∧
      (getLe16 ((frameBytes frame ++ tail).drop 10)).toNat = frame.payload.length := by
  have hle := frame.payload_le
  have hlen : frame.payload.length.toUInt16.toNat = frame.payload.length := by
    rw [maxPayload] at hle
    simp only [Nat.toUInt16, UInt16.toNat_ofNat']
    omega
  have hsplit : frameBytes frame ++ tail =
      putLe16 protocolMagic ++ ([protocolVersion, frame.type, frame.flags, 0] ++
        (putLe32 frame.sequence ++ (putLe16 frame.payload.length.toUInt16 ++
          (frame.payload ++ (putLe32 (crc32 (frameHeader frame ++ frame.payload)) ++ tail))))) := by
    simp [frameBytes, frameHeader]
  rw [hsplit]
  refine ⟨getLe16_putLe16 _ _, rfl, rfl, rfl, rfl, getLe32_putLe32 _ _, ?_⟩
  exact (congrArg UInt16.toNat (getLe16_putLe16 _ _)).trans hlen

/-- Decoding the bytes of a frame gives the frame back. -/
theorem frameDecode_frameBytes (frame : Frame) : frameDecode (frameBytes frame) = .ok frame := by
  obtain ⟨hmagic, hver, htype, hflags, hres, hseq, hlen⟩ := frameBytes_fields frame []
  rw [List.append_nil] at hmagic hver htype hflags hres hseq hlen
  have hle := frame.payload_le
  have hbody : (frameHeader frame ++ frame.payload).length =
      headerSize + frame.payload.length := by simp
  have htake : (frameBytes frame).take (headerSize + frame.payload.length) =
      frameHeader frame ++ frame.payload := by
    rw [frameBytes, List.take_left' hbody]
  have hdrop : (frameBytes frame).drop (headerSize + frame.payload.length) =
      putLe32 (crc32 (frameHeader frame ++ frame.payload)) := by
    rw [frameBytes, List.drop_left' hbody]
  have hpayload : ((frameBytes frame).drop headerSize).take frame.payload.length =
      frame.payload := by
    rw [frameBytes, List.append_assoc, List.drop_left' (frameHeader_length frame), List.take_left]
  rw [frameDecode, if_neg (by simp), if_neg (by simp [hmagic, hver, hres])]
  simp only [hlen, frameBytes_length, htype, hflags, hseq, htake, hdrop, hpayload]
  rw [dif_neg (by omega), if_neg (by simp), if_neg (by simp)]

/-- A string that the decoder accepts is the encoding of the frame it returns. -/
theorem frameDecode_inv {data : List UInt8} {frame : Frame} (h : frameDecode data = .ok frame) :
    data = frameBytes frame := by
  have h12 : headerSize = 12 := rfl
  have h4 : crcSize = 4 := rfl
  unfold frameDecode at h
  dsimp only at h
  split_ifs at h with hshort hfields hlimit hlength hcrc
  rw [not_or, not_or, not_not, not_not, not_not] at hfields
  obtain ⟨hmagic, hversion, hreserved⟩ := hfields
  cases h
  set n := (getLe16 (data.drop 10)).toNat with hn
  have hpayload : ((data.drop headerSize).take n).length = n := by
    rw [List.length_take, List.length_drop]
    omega
  -- Every field is written back as the bytes it was read from.
  have hmagic' : putLe16 protocolMagic = data.take 2 := by
    rw [← hmagic, ← getLe16_take (Nat.le_refl 2), putLe16_getLe16 (by rw [List.length_take]; omega)]
  have hsequence : putLe32 (getLe32 (data.drop 6)) = (data.drop 6).take 4 := by
    rw [← getLe32_take (Nat.le_refl 4),
      putLe32_getLe32 (by rw [List.length_take, List.length_drop]; omega)]
  have hlength16 : putLe16 n.toUInt16 = (data.drop 10).take 2 := by
    rw [show n.toUInt16 = getLe16 (data.drop 10) from UInt16.ofNat_toNat,
      ← getLe16_take (Nat.le_refl 2),
      putLe16_getLe16 (by rw [List.length_take, List.length_drop]; omega)]
  have hbody : data.take (headerSize + n) = frameHeader
      ⟨byteAt data 3, byteAt data 4, getLe32 (data.drop 6), (data.drop headerSize).take n,
        (List.length_take_le _ _).trans (Nat.le_of_not_lt hlimit)⟩ ++
      (data.drop headerSize).take n := by
    rw [List.take_add, show headerSize = 2 + 4 + 4 + 2 from rfl, List.take_add, List.take_add,
      List.take_add, frameHeader, hmagic', hsequence, ← hversion, ← hreserved]
    rw [@take_four_drop data 2 (by omega)]
    dsimp only
    rw [show ((data.drop (2 + 4 + 4 + 2)).take n).length = n from hpayload, hlength16]
  have hcrc' : putLe32 (getLe32 (data.drop (headerSize + n))) = data.drop (headerSize + n) :=
    putLe32_getLe32 (by rw [List.length_drop]; omega)
  rw [frameBytes]
  dsimp only
  rw [← hbody, not_not.mp hcrc, hcrc', List.take_append_drop]

theorem frameDecode_eq_ok {data : List UInt8} {frame : Frame} :
    frameDecode data = .ok frame ↔ data = frameBytes frame := by
  refine ⟨frameDecode_inv, ?_⟩
  rintro rfl
  exact frameDecode_frameBytes frame

end Devmgr
