import DeviceManager.Lib.PolynomialCode
import DeviceManager.Protocol.Burst
import DeviceManager.Stm32.Protocol

/-!
# The CRC as a polynomial remainder

`docs/protocol.md` names the checksum: CRC-32/ISO-HDLC, with the polynomial
`0x04C11DB7`, input and output reflected, start value and output mask of ones.
As mathematics, this is the remainder of a polynomial over `ZMod 2`.  Its
coefficients are the bits of the message in the order of the wire, with 32 zeros
behind them and the first 32 of all these bits inverted; the CRC shows the
remainder from its lowest bit on, and is inverted.

`crc32_eq_remainder` says that the loops of the host and of the STM32 compute it,
from `ShiftRegister.feed_ones` and the fact that both are the register of
`Protocol.Burst`.
-/

namespace Devmgr

open ShiftRegister Polynomial

/-- The divisor of CRC-32/ISO-HDLC. -/
noncomputable def crcGenerator : (ZMod 2)[X] :=
  X ^ 32 + X ^ 26 + X ^ 23 + X ^ 22 + X ^ 16 + X ^ 12 + X ^ 11 + X ^ 10 + X ^ 8 + X ^ 7 + X ^ 5 +
    X ^ 4 + X ^ 2 + X + 1

/-- CRC-32/ISO-HDLC of a message, as its definition has it. -/
noncomputable def crcRemainder (data : List UInt8) : BitVec 32 :=
  let shifted := wireBits data ++ List.replicate 32 false
  ~~~reflected 32 (bitPoly (invertFirst 32 shifted) %ₘ crcGenerator)

/-- The reflected constant of the source is the divisor without its highest
power. -/
theorem generator_crcPoly : generator crcPoly = crcGenerator := by
  have hbits : bitsOf crcPoly =
      [false, false, false, false, false, true, false, false, true, true, false, false, false,
        false, false, true, false, false, false, true, true, true, false, true, true, false, true,
        true, false, true, true, true] := by decide
  rw [generator, registerPoly, hbits, crcGenerator]
  simp only [bitPoly, coefficient, List.length_cons, List.length_nil, if_true, Bool.false_eq_true,
    if_false, C_0, C_1]
  ring

/-- `devmgr_crc32` and `stm32_crc32` compute CRC-32/ISO-HDLC of every byte string,
also of one with fewer than 32 bits. -/
theorem crc32_eq_remainder (data : List UInt8) :
    (crc32 data).toBitVec = crcRemainder data ∧
      (Stm32.Protocol.crc32 data).toBitVec = crcRemainder data := by
  have hfinish : (crc32 data).toBitVec =
      ~~~(crc32Update 0xFFFFFFFF data).toBitVec := by
    rw [crc32, crc32Finish, UInt32.toBitVec_xor]
    exact BitVec.xor_allOnes
  have hhost : (crc32 data).toBitVec = crcRemainder data := by
    have hregister := feed_ones crcPoly (wireBits data)
    rw [generator_crcPoly] at hregister
    rw [hfinish, crc32Update_toBitVec, crcRemainder, ← hregister]
    rfl
  refine ⟨hhost, ?_⟩
  rw [Stm32.Protocol.crc32_eq, hhost]

end Devmgr
