import DeviceManager.Lib.ShiftRegister
import DeviceManager.Protocol.Frame

/-!
# Burst errors in a frame

The loop of `src/common/crc32.c` is the shift register of `ShiftRegister`, fed
with the bits of the message in the order of the wire: bytes in order, the least
significant bit of each byte first (`crc32Update_toBitVec`).  The CRC field is
stored in that order too, so a frame that the decoder accepts is a message and
its check word, and the register ends in the same state for all of them
(`feed_frameBytes`).

`frameDecode_burst` follows: no error pattern whose bits lie in a window of 32
turns an encoded frame into a string that the decoder accepts, wherever the
window lies.
-/

namespace Devmgr

open ShiftRegister

/-- The reflected polynomial of `devmgr_crc32_update`. -/
def crcPoly : BitVec 32 := 0xEDB88320#32

/-- The bits of a byte string in the order of the wire. -/
def wireBits (data : List UInt8) : List Bool :=
  data.flatMap fun byte => bitsOf byte.toBitVec

/-- A byte string with the bits of a pattern inverted. -/
def corrupt (data pattern : List UInt8) : List UInt8 :=
  List.zipWith (· ^^^ ·) data pattern

theorem wireBits_cons (byte : UInt8) (data : List UInt8) :
    wireBits (byte :: data) = bitsOf byte.toBitVec ++ wireBits data :=
  List.flatMap_cons

/-! ## The CRC as a shift register -/

theorem crc32Round_toBitVec (state : UInt32) :
    (crc32Round state).toBitVec = shift crcPoly state.toBitVec := by
  -- The mask has every bit set when the low bit is, and none otherwise.
  have hmask : (0 - (state &&& 1)).toBitVec =
      if state.toBitVec.getLsbD 0 then 0xFFFFFFFF#32 else 0#32 := by
    rw [UInt32.toBitVec_sub, UInt32.toBitVec_and, UInt32.toBitVec_one,
      BitVec.and_one_eq_setWidth_ofBool_getLsbD]
    cases state.toBitVec.getLsbD 0 <;> rfl
  simp only [crc32Round, shift, UInt32.toBitVec_xor, UInt32.toBitVec_and, hmask]
  cases state.toBitVec.getLsbD 0
  · simp [UInt32.toBitVec_shiftRight]
  · simp [UInt32.toBitVec_shiftRight]
    rfl

theorem crc32Rounds_toBitVec (rounds : Nat) (state : UInt32) :
    (crc32Rounds rounds state).toBitVec = (shift crcPoly)^[rounds] state.toBitVec := by
  induction rounds generalizing state with
  | zero => rfl
  | succ rounds ih =>
    rw [crc32Rounds, ih, crc32Round_toBitVec, Function.iterate_succ_apply]

/-- `devmgr_crc32_update` feeds the bits of the wire to the register. -/
theorem crc32Update_toBitVec (state : UInt32) (data : List UInt8) :
    (crc32Update state data).toBitVec = feed crcPoly state.toBitVec (wireBits data) := by
  induction data generalizing state with
  | nil => rfl
  | cons byte data ih =>
    have hbyte : (crc32Rounds 8 (state ^^^ byte.toUInt32)).toBitVec =
        feed crcPoly state.toBitVec (bitsOf byte.toBitVec) := by
      rw [crc32Rounds_toBitVec, UInt32.toBitVec_xor,
        feed_eq_iterate _ _ (by rw [bitsOf_length]; decide), bitsOf_length, word_bitsOf]
      rfl
    have hstep : crc32Update state (byte :: data) =
        crc32Update (crc32Rounds 8 (state ^^^ byte.toUInt32)) data := rfl
    rw [hstep, ih, hbyte, wireBits_cons, feed_append]

/-! ## Frames as checked messages -/

theorem wireBits_append (xs ys : List UInt8) :
    wireBits (xs ++ ys) = wireBits xs ++ wireBits ys :=
  List.flatMap_append

theorem wireBits_length (data : List UInt8) : (wireBits data).length = 8 * data.length := by
  induction data with
  | nil => rfl
  | cons byte data ih =>
    rw [wireBits_cons, List.length_append, bitsOf_length, List.length_cons, ih]
    omega

/-- The CRC field goes out in the order of the register. -/
theorem wireBits_putLe32 (value : UInt32) : wireBits (putLe32 value) = bitsOf value.toBitVec := by
  simp [wireBits, bitsOf, putLe32, List.range_succ]

/-- Every encoded frame leaves the register in the same state. -/
theorem feed_frameBytes (frame : Frame) :
    feed crcPoly 0xFFFFFFFF#32 (wireBits (frameBytes frame)) =
      (shift crcPoly)^[32] 0xFFFFFFFF#32 := by
  have hcrc : ∀ body : List UInt8, (crc32 body).toBitVec =
      feed crcPoly 0xFFFFFFFF#32 (wireBits body) ^^^ 0xFFFFFFFF#32 := by
    intro body
    rw [crc32, crc32Finish, UInt32.toBitVec_xor, crc32Update_toBitVec]
    rfl
  rw [frameBytes, wireBits_append, wireBits_putLe32, hcrc]
  exact feed_check _ _ _ _

/-! ## Errors -/

theorem wireBits_corrupt {data pattern : List UInt8} (h : data.length = pattern.length) :
    wireBits (corrupt data pattern) =
      List.zipWith (· ^^ ·) (wireBits data) (wireBits pattern) := by
  induction data generalizing pattern with
  | nil =>
    obtain rfl : pattern = [] := List.length_eq_zero_iff.mp h.symm
    rfl
  | cons byte data ih =>
    rcases pattern with _ | ⟨flip, pattern⟩
    · cases h
    have hbyte : bitsOf (byte ^^^ flip).toBitVec =
        List.zipWith (· ^^ ·) (bitsOf byte.toBitVec) (bitsOf flip.toBitVec) := by
      rw [UInt8.toBitVec_xor, bitsOf_xor]
    rw [corrupt, List.zipWith_cons_cons, wireBits_cons, wireBits_cons, wireBits_cons, hbyte,
      List.zipWith_append (by rw [bitsOf_length, bitsOf_length]), ← ih (Nat.succ.inj h)]
    rfl

/-- A pattern without ones on the wire has no byte but zero. -/
theorem eq_zero_of_wireBits {pattern : List UInt8} (h : ∀ b ∈ wireBits pattern, b = false) :
    ∀ byte ∈ pattern, byte = 0 := by
  intro byte hbyte
  have hbits : ∀ b ∈ bitsOf byte.toBitVec, b = false := by
    intro b hb
    exact h b (List.mem_flatMap.mpr ⟨byte, hbyte, hb⟩)
  have hword : byte.toBitVec = 0#8 := by
    apply BitVec.eq_of_getLsbD_eq
    intro i hi
    rw [BitVec.getLsbD_zero]
    exact hbits _ (List.mem_map.mpr ⟨i, List.mem_range.mpr hi, rfl⟩)
  exact UInt8.toBitVec_inj.mp hword

/-- A burst turns no encoded frame into another one. -/
theorem corrupt_frameBytes_ne (frame other : Frame) {pattern : List UInt8}
    (hlength : pattern.length = (frameBytes frame).length)
    (hburst : Burst 32 (wireBits pattern)) (hnonzero : ∃ byte ∈ pattern, byte ≠ 0) :
    corrupt (frameBytes frame) pattern ≠ frameBytes other := by
  intro hother
  have hbits := wireBits_corrupt hlength.symm
  have hsame : feed crcPoly 0xFFFFFFFF#32
      (List.zipWith (· ^^ ·) (wireBits (frameBytes frame)) (wireBits pattern)) =
      feed crcPoly 0xFFFFFFFF#32 (wireBits (frameBytes frame)) := by
    rw [← hbits, hother, feed_frameBytes, feed_frameBytes]
  have hwire : (wireBits (frameBytes frame)).length = (wireBits pattern).length := by
    rw [wireBits_length, wireBits_length, hlength]
  have hzero := burst_eq_zero (by decide) _ hwire hburst hsame
  obtain ⟨byte, hmem, hne⟩ := hnonzero
  exact hne (eq_zero_of_wireBits hzero byte hmem)

/-- An encoded frame with a burst of at most 32 wrong bits in it is not
accepted, neither as the frame that was sent nor as another one. -/
theorem frameDecode_burst (frame : Frame) (capacity : Nat) (encoded pattern : List UInt8)
    (hencode : frameEncode frame capacity = .ok encoded)
    (hlength : pattern.length = encoded.length)
    (hnonzero : ∃ byte ∈ pattern, byte ≠ 0) (hburst : Burst 32 (wireBits pattern)) :
    ∀ received, frameDecode (corrupt encoded pattern) ≠ .ok received := by
  obtain rfl := frameEncode_inv hencode
  intro received hdecode
  exact corrupt_frameBytes_ne frame received hlength hburst hnonzero
    (frameDecode_eq_ok.mp hdecode)

/-- Two wrong bits in a ping, the last one of the header and the first one of the
CRC. -/
theorem frameDecode_burst_ping :
    let ping : Frame := ⟨Msg.ping, Flag.ackRequired, 1, [], by decide⟩
    let pattern : List UInt8 := List.replicate 11 0 ++ [0x80, 0x01, 0, 0, 0]
    ∀ received, frameDecode (corrupt (frameBytes ping) pattern) ≠ .ok received := by
  intro ping pattern
  exact frameDecode_burst ping maxFrame _ pattern (frameEncode_eq ping (Nat.le_refl _)) rfl
    ⟨0x80, by decide, by decide⟩ (burst_of_bounded 95 (by decide +kernel))

end Devmgr
