import Mathlib.Data.Nat.Basic
import Mathlib.Tactic.Ring

/-!
# Little-endian byte strings

`value` reads a byte string of any length as a number and `bytes` writes the
low `width` bytes of a number.  `value_bytes` and `bytes_value` are the round
trips, so a codec that is shown to read with `value` and to write with `bytes`
needs no bit-level argument of its own.

`or_shiftLeft` is the one bit-level fact: an `or` of a byte and a shifted word
is a sum, because the two do not overlap.
-/

namespace LittleEndian

/-- The number that a byte string denotes. -/
def value : List UInt8 → Nat
  | [] => 0
  | b :: rest => b.toNat + 256 * value rest

/-- The low `width` bytes of a number. -/
def bytes : Nat → Nat → List UInt8
  | 0, _ => []
  | width + 1, n => UInt8.ofNat n :: bytes width (n / 256)

theorem value_bytes (width n : Nat) : value (bytes width n) = n % 256 ^ width := by
  induction width generalizing n with
  | zero => simp [bytes, value, Nat.mod_one]
  | succ width ih =>
    have hpow : 256 ^ (width + 1) = 256 * 256 ^ width := by ring
    rw [bytes, value, ih, UInt8.toNat_ofNat', hpow, Nat.mod_mul]

/-- The bytes of the number that a string denotes are the string. -/
theorem bytes_value (data : List UInt8) : bytes data.length (value data) = data := by
  induction data with
  | nil => rfl
  | cons b rest ih =>
    have hb := b.toNat_lt
    have hdiv : (b.toNat + 256 * value rest) / 256 = value rest := by omega
    have hmod : UInt8.ofNat (b.toNat + 256 * value rest) = b := by
      apply UInt8.toNat_inj.mp
      rw [UInt8.toNat_ofNat']
      omega
    rw [List.length_cons, value, bytes, hdiv, ih, hmod]

/-- A word above bit `k` and a number below it share no bit. -/
theorem or_shiftLeft {low k : Nat} (hlow : low < 2 ^ k) (high : Nat) :
    low ||| high <<< k = low + 2 ^ k * high := by
  rw [Nat.or_comm, ← Nat.shiftLeft_add_eq_or_of_lt hlow, Nat.shiftLeft_eq]
  ring

end LittleEndian
