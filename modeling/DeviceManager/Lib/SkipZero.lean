import Mathlib.Data.Nat.ModEq

/-!
# A wrapping counter that skips zero

A counter of modulus `M` that must never show zero goes from `M - 1` to `1`.
It has `M - 1` values, so two draws show the same value only when their
distance is a multiple of `M - 1`.  `iter_eq` is the closed form, and
`sub_one_le_of_iter_eq` is the freshness bound read off it: between two equal
draws lie at least `M - 1` steps.
-/

namespace SkipZero

/-- The value after `v`, for a counter of modulus `M`. -/
def next (M v : Nat) : Nat :=
  if v + 1 = M then 1 else v + 1

/-- The value `k` steps after `v`. -/
def iter (M : Nat) : Nat → Nat → Nat
  | 0, v => v
  | k + 1, v => next M (iter M k v)

variable {M v : Nat}

/-- Counted from one, a step is the successor modulo `M - 1`. -/
theorem next_eq_mod (hpos : 0 < v) (hv : v < M) :
    next M v = (v - 1 + 1) % (M - 1) + 1 := by
  rw [next]
  split
  · rename_i hwrap
    rw [show v - 1 + 1 = M - 1 from by omega, Nat.mod_self]
  · rename_i hwrap
    rw [Nat.mod_eq_of_lt (by omega)]
    omega

theorem iter_eq (hpos : 0 < v) (hv : v < M) (k : Nat) :
    iter M k v = (v - 1 + k) % (M - 1) + 1 := by
  induction k with
  | zero =>
    rw [iter, Nat.add_zero, Nat.mod_eq_of_lt (by omega)]
    omega
  | succ k ih =>
    have hmod : (v - 1 + k) % (M - 1) < M - 1 := Nat.mod_lt _ (by omega)
    rw [iter, ih, next_eq_mod (by omega) (by omega), Nat.add_sub_cancel,
      Nat.mod_add_mod, Nat.add_assoc]

/-- Two draws that show the same value are at least `M - 1` steps apart. -/
theorem sub_one_le_of_iter_eq (hpos : 0 < v) (hv : v < M) {i j : Nat} (hij : i < j)
    (h : iter M i v = iter M j v) : M - 1 ≤ j - i := by
  rw [iter_eq hpos hv, iter_eq hpos hv] at h
  have hmod : (v - 1 + i) % (M - 1) = (v - 1 + j) % (M - 1) := by omega
  have hdvd : M - 1 ∣ (v - 1 + j) - (v - 1 + i) :=
    (Nat.modEq_iff_dvd' (by omega)).mp hmod
  have hle := Nat.le_of_dvd (by omega) hdvd
  omega

/-- Fewer than `M - 1` steps apart, different draws show different values. -/
theorem iter_ne (hpos : 0 < v) (hv : v < M) {i j : Nat} (hij : i < j)
    (hclose : j - i < M - 1) : iter M i v ≠ iter M j v := by
  intro h
  have := sub_one_le_of_iter_eq hpos hv hij h
  omega

end SkipZero
