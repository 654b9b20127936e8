import DeviceManager.Lib.ShiftRegister
import Mathlib.Algebra.CharP.Two
import Mathlib.Algebra.Field.ZMod
import Mathlib.Algebra.Polynomial.Div
import Mathlib.Algebra.Polynomial.Degree.Lemmas
import Mathlib.Data.ZMod.Basic
import Mathlib.Tactic.Ring
import Mathlib.Tactic.LinearCombination

/-!
# Shift registers compute polynomial remainders

Bits are the coefficients of a polynomial over `ZMod 2`, the first bit with the
highest power.  A reflected register shows the highest power in its lowest bit,
so its polynomial is that of its bits from the lowest on.

* `registerPoly_shift`: a shift multiplies by `X` and takes the generator away
  when a one leaves the register;
* `registerPoly_feed`: bits that are fed in order leave the remainder of the
  message times `X ^ w`, and of the start value times as many `X` as there are
  bits;
* `feed_ones`: from a register of ones, this is the remainder of the message with
  `w` zeros behind it and its first `w` bits inverted.
-/

namespace ShiftRegister

open Polynomial

variable {w : Nat}

/-- A bit as a coefficient. -/
def coefficient (bit : Bool) : ZMod 2 :=
  if bit then 1 else 0

/-- Bits as a polynomial, the first one with the highest power. -/
noncomputable def bitPoly : List Bool → (ZMod 2)[X]
  | [] => 0
  | bit :: bits => C (coefficient bit) * X ^ bits.length + bitPoly bits

/-- The polynomial of a reflected register. -/
noncomputable def registerPoly (reg : BitVec w) : (ZMod 2)[X] :=
  bitPoly (bitsOf reg)

/-- The divisor of a register that folds in `poly`: the power that leaves the
register, and the powers of `poly`. -/
noncomputable def generator (poly : BitVec w) : (ZMod 2)[X] :=
  X ^ w + registerPoly poly

/-- The word whose lowest bit is the coefficient of `X ^ (w - 1)`. -/
noncomputable def reflected (w : Nat) (p : (ZMod 2)[X]) : BitVec w :=
  word ((List.range w).map fun i => decide (p.coeff (w - 1 - i) = 1))

/-- The first `count` bits inverted. -/
def invertFirst (count : Nat) (bits : List Bool) : List Bool :=
  (bits.take count).map (! ·) ++ bits.drop count

/-! ## Bits as polynomials -/

theorem coefficient_xor (a b : Bool) : coefficient (a ^^ b) = coefficient a + coefficient b := by
  cases a <;> cases b <;> decide

theorem bitPoly_append (xs ys : List Bool) :
    bitPoly (xs ++ ys) = bitPoly xs * X ^ ys.length + bitPoly ys := by
  induction xs with
  | nil => simp [bitPoly]
  | cons x xs ih =>
    rw [List.cons_append, bitPoly, bitPoly, ih, List.length_append]
    ring

theorem bitPoly_xor {xs ys : List Bool} (h : xs.length = ys.length) :
    bitPoly (List.zipWith (· ^^ ·) xs ys) = bitPoly xs + bitPoly ys := by
  induction xs generalizing ys with
  | nil =>
    obtain rfl : ys = [] := List.length_eq_zero_iff.mp h.symm
    simp [bitPoly]
  | cons x xs ih =>
    rcases ys with _ | ⟨y, ys⟩
    · simp at h
    have hlength : xs.length = ys.length := Nat.succ.inj h
    rw [List.zipWith_cons_cons, bitPoly, bitPoly, bitPoly, ih hlength, coefficient_xor,
      List.length_zipWith, hlength, Nat.min_self, C_add]
    ring

theorem bitPoly_zeros (n : Nat) : bitPoly (List.replicate n false) = 0 := by
  induction n with
  | zero => rfl
  | succ n ih => rw [List.replicate_succ, bitPoly, ih]; simp [coefficient]

theorem degree_bitPoly_lt (bits : List Bool) : (bitPoly bits).degree < bits.length := by
  induction bits with
  | nil => simp [bitPoly]
  | cons bit bits ih =>
    have hlt : (bits.length : WithBot Nat) < (bit :: bits).length := by
      rw [List.length_cons]
      exact_mod_cast Nat.lt_succ_self _
    refine (degree_add_le _ _).trans_lt (max_lt ?_ (ih.trans hlt))
    exact (degree_C_mul_X_pow_le _ _).trans_lt hlt

/-- The coefficients of a bit polynomial are its bits. -/
theorem coeff_bitPoly {bits : List Bool} {i : Nat} {bit : Bool} (h : bits[i]? = some bit) :
    (bitPoly bits).coeff (bits.length - 1 - i) = coefficient bit := by
  induction bits generalizing i with
  | nil => simp at h
  | cons first bits ih =>
    rw [bitPoly, coeff_add, coeff_C_mul, coeff_X_pow, List.length_cons, Nat.add_sub_cancel]
    cases i with
    | zero =>
      obtain rfl : first = bit := Option.some.inj h
      have hhigh : (bitPoly bits).coeff bits.length = 0 :=
        coeff_eq_zero_of_degree_lt (degree_bitPoly_lt bits)
      simp [hhigh]
    | succ i =>
      rw [List.getElem?_cons_succ] at h
      have hi := (List.getElem?_eq_some_iff.mp h).1
      rw [if_neg (by omega), mul_zero, zero_add,
        show bits.length - (i + 1) = bits.length - 1 - i by omega, ih h]

/-! ## Registers as polynomials -/

theorem registerPoly_xor (x y : BitVec w) :
    registerPoly (x ^^^ y) = registerPoly x + registerPoly y := by
  rw [registerPoly, bitsOf_xor, bitPoly_xor (by rw [bitsOf_length, bitsOf_length])]
  rfl

theorem degree_registerPoly_lt (reg : BitVec w) : (registerPoly reg).degree < w := by
  have h := degree_bitPoly_lt (bitsOf reg)
  rwa [bitsOf_length] at h

theorem reflected_registerPoly (reg : BitVec w) : reflected w (registerPoly reg) = reg := by
  apply BitVec.eq_of_getLsbD_eq
  intro i hi
  have hbit : (bitsOf reg)[i]? = some (reg.getLsbD i) := by simp [bitsOf, hi]
  have hcoeff := coeff_bitPoly hbit
  rw [bitsOf_length] at hcoeff
  have hone : decide (coefficient (reg.getLsbD i) = 1) = reg.getLsbD i := by
    cases reg.getLsbD i <;> decide
  rw [reflected, getLsbD_word, List.getD_eq_getElem?_getD, List.getElem?_map,
    List.getElem?_range hi, Option.map_some, Option.getD_some, registerPoly, hcoeff, hone]
  simp [hi]

theorem monic_generator (poly : BitVec w) : (generator poly).Monic :=
  monic_X_pow_add (degree_registerPoly_lt poly)

theorem degree_generator (poly : BitVec w) : (generator poly).degree = w := by
  rw [generator, degree_add_eq_left_of_degree_lt, degree_X_pow]
  rw [degree_X_pow]
  exact degree_registerPoly_lt poly

/-- The bits of a register and of the register shifted down. -/
theorem bitsOf_ushiftRight (reg : BitVec (w + 1)) :
    ∃ high, high.length = w ∧ bitsOf reg = reg.getLsbD 0 :: high ∧
      bitsOf (reg >>> 1) = high ++ [false] := by
  refine ⟨(List.range w).map fun i => reg.getLsbD (i + 1), by simp, ?_, ?_⟩
  · rw [bitsOf, List.range_succ_eq_map, List.map_cons, List.map_map]
    rfl
  · rw [bitsOf, List.range_succ, List.map_append]
    simp [BitVec.getLsbD_ushiftRight, Nat.add_comm 1]

/-- A shift multiplies by `X`, modulo the generator. -/
theorem registerPoly_shift (poly reg : BitVec (w + 1)) :
    registerPoly (shift poly reg) =
      registerPoly reg * X + C (coefficient (reg.getLsbD 0)) * generator poly := by
  obtain ⟨high, hlength, hreg, hdown⟩ := bitsOf_ushiftRight reg
  have hshifted : registerPoly (reg >>> 1) = bitPoly high * X := by
    rw [registerPoly, hdown, bitPoly_append]
    simp [bitPoly, coefficient]
  have hpoly : registerPoly reg =
      C (coefficient (reg.getLsbD 0)) * X ^ w + bitPoly high := by
    rw [registerPoly, hreg, bitPoly, hlength]
  have htwo : (X ^ (w + 1) + X ^ (w + 1) : (ZMod 2)[X]) = 0 := CharTwo.add_self_eq_zero _
  rw [shift, hpoly]
  cases reg.getLsbD 0
  · simp [coefficient, hshifted]
  · rw [if_pos rfl, registerPoly_xor, hshifted, generator]
    simp only [coefficient, if_true, C_1]
    linear_combination -htwo

/-- A bit is folded in at the highest power. -/
theorem registerPoly_word (bit : Bool) :
    registerPoly (word [bit] : BitVec (w + 1)) = C (coefficient bit) * X ^ w := by
  have hbits : bitsOf (word [bit] : BitVec (w + 1)) = bit :: List.replicate w false := by
    apply List.ext_getElem?
    intro i
    by_cases hi : i < w + 1
    · rw [bitsOf, List.getElem?_map, List.getElem?_range hi, Option.map_some, getLsbD_word]
      rcases i with _ | i
      · simp
      · simp [show i < w by omega]
    · rw [List.getElem?_eq_none (by simp; omega), List.getElem?_eq_none (by simp; omega)]
  rw [registerPoly, hbits, bitPoly, bitPoly_zeros, List.length_replicate, add_zero]

/-! ## Remainders -/

/-- The register after feeding `bits`, modulo the generator. -/
theorem generator_dvd_feed (poly reg : BitVec (w + 1)) (bits : List Bool) :
    generator poly ∣ registerPoly (feed poly reg bits) -
      (registerPoly reg * X ^ bits.length + bitPoly bits * X ^ (w + 1)) := by
  induction bits generalizing reg with
  | nil =>
    have hstart : feed poly reg [] = reg := rfl
    simp [hstart, bitPoly]
  | cons bit bits ih =>
    have hstep : registerPoly (feedBit poly reg bit) =
        (registerPoly reg + C (coefficient bit) * X ^ w) * X +
          C (coefficient ((reg ^^^ word [bit]).getLsbD 0)) * generator poly := by
      rw [feedBit, registerPoly_shift, registerPoly_xor, registerPoly_word]
    obtain ⟨quotient, hquotient⟩ := ih (feedBit poly reg bit)
    rw [hstep] at hquotient
    refine ⟨quotient +
      C (coefficient ((reg ^^^ word [bit]).getLsbD 0)) * X ^ bits.length, ?_⟩
    have hfeed : feed poly reg (bit :: bits) = feed poly (feedBit poly reg bit) bits := rfl
    rw [hfeed, bitPoly, List.length_cons]
    linear_combination hquotient

/-- Feeding leaves the remainder of start value and message. -/
theorem registerPoly_feed (poly reg : BitVec (w + 1)) (bits : List Bool) :
    registerPoly (feed poly reg bits) =
      (registerPoly reg * X ^ bits.length + bitPoly bits * X ^ (w + 1)) %ₘ generator poly := by
  have hdegree : (registerPoly (feed poly reg bits)).degree < (generator poly).degree := by
    rw [degree_generator]
    exact degree_registerPoly_lt _
  rw [← (modByMonic_eq_self_iff (monic_generator poly)).mpr hdegree]
  exact modByMonic_eq_of_dvd_sub (monic_generator poly) (generator_dvd_feed poly reg bits)

theorem bitPoly_map_not (bits : List Bool) :
    bitPoly (bits.map (! ·)) = bitPoly bits + bitPoly (List.replicate bits.length true) := by
  induction bits with
  | nil => simp [bitPoly]
  | cons bit bits ih =>
    have hnot : coefficient (!bit) = coefficient bit + coefficient true := by
      cases bit <;> decide
    rw [List.map_cons, bitPoly, bitPoly, List.length_cons, List.replicate_succ, bitPoly, ih, hnot,
      List.length_map, List.length_replicate, C_add]
    ring

theorem bitPoly_invertFirst {count : Nat} {bits : List Bool} (h : count ≤ bits.length) :
    bitPoly (invertFirst count bits) =
      bitPoly bits + bitPoly (List.replicate count true) * X ^ (bits.length - count) := by
  have hsplit := bitPoly_append (bits.take count) (bits.drop count)
  rw [List.take_append_drop] at hsplit
  rw [invertFirst, bitPoly_append, bitPoly_map_not, List.length_take_of_le h, hsplit,
    List.length_drop]
  ring

/-- The start value of ones inverts the first bits of the shifted message, also
of a message that is shorter than the register. -/
theorem bitPoly_start (message : List Bool) :
    bitPoly (invertFirst w (message ++ List.replicate w false)) =
      registerPoly (BitVec.allOnes w) * X ^ message.length + bitPoly message * X ^ w := by
  have hlength : (message ++ List.replicate w false).length = message.length + w := by simp
  have hones : bitsOf (BitVec.allOnes w) = List.replicate w true := by
    refine List.eq_replicate_iff.mpr ⟨bitsOf_length _, ?_⟩
    intro bit hbit
    obtain ⟨i, hi, rfl⟩ := List.mem_map.mp hbit
    rw [BitVec.getLsbD_allOnes]
    exact decide_eq_true (List.mem_range.mp hi)
  rw [bitPoly_invertFirst (by omega), hlength, Nat.add_sub_cancel, bitPoly_append, bitPoly_zeros,
    List.length_replicate, registerPoly, hones]
  ring

/-- A register of ones is left with the remainder of the message, shifted by the
width and with its first bits inverted. -/
theorem feed_ones (poly : BitVec (w + 1)) (message : List Bool) :
    feed poly (BitVec.allOnes (w + 1)) message =
      reflected (w + 1)
        (bitPoly (invertFirst (w + 1) (message ++ List.replicate (w + 1) false)) %ₘ
          generator poly) := by
  rw [bitPoly_start, ← registerPoly_feed, reflected_registerPoly]

end ShiftRegister
