import Mathlib.Data.List.Basic
import Mathlib.Logic.Function.Iterate

/-!
# Feedback shift registers and burst errors

A register of `w` bits that shifts towards its low end, with a polynomial folded
in whenever a one leaves it: the reflected form of a cyclic redundancy check, for
any width, polynomial, start value and output mask.

The register is linear in exclusive or (`feed_xor`), and one whose polynomial has
its top bit set never shifts a non-zero value to zero (`shift_eq_zero`).  Up to
`w` bits fed one by one are the same as one word folded in before as many shifts
(`feed_eq_iterate`).  These three give the two results:

* `feed_check`: a message followed by its check bits leaves the register in a
  state that depends on the output mask alone;
* `burst_eq_zero`: two inputs that leave the same state do not differ in a burst
  of at most `w` bits.
-/

namespace ShiftRegister

variable {w : Nat}

/-- One shift, with `poly` folded in when a one leaves the register. -/
def shift (poly reg : BitVec w) : BitVec w :=
  if reg.getLsbD 0 then (reg >>> 1) ^^^ poly else reg >>> 1

/-- Bits as a word, the first one lowest. -/
def word (bits : List Bool) : BitVec w :=
  (BitVec.ofBoolListLE bits).setWidth w

/-- The bits of a word, the lowest first. -/
def bitsOf (x : BitVec w) : List Bool :=
  (List.range w).map x.getLsbD

/-- Fold one bit into the register and shift. -/
def feedBit (poly reg : BitVec w) (bit : Bool) : BitVec w :=
  shift poly (reg ^^^ word [bit])

/-- Feed bits in order. -/
def feed (poly reg : BitVec w) (bits : List Bool) : BitVec w :=
  bits.foldl (feedBit poly) reg

/-! ## Words and bits -/

theorem getLsbD_word (bits : List Bool) (i : Nat) :
    (word bits : BitVec w).getLsbD i = (decide (i < w) && bits.getD i false) := by
  rw [word, BitVec.getLsbD_setWidth, BitVec.getLsbD_ofBoolListLE]

@[simp] theorem word_nil : (word [] : BitVec w) = 0#w := by
  apply BitVec.eq_of_getLsbD_eq
  intro i _
  rw [getLsbD_word]
  simp

theorem word_append (low high : List Bool) :
    (word (low ++ high) : BitVec w) = word low ^^^ word high <<< low.length := by
  apply BitVec.eq_of_getLsbD_eq
  intro i hi
  simp only [BitVec.getLsbD_xor, BitVec.getLsbD_shiftLeft, getLsbD_word,
    List.getD_eq_getElem?_getD]
  by_cases hlow : i < low.length
  · rw [List.getElem?_append_left hlow]
    simp [hlow, hi]
  · have hsub : i - low.length < w := by omega
    rw [List.getElem?_append_right (Nat.le_of_not_lt hlow)]
    simp [hlow, hi, hsub]

@[simp] theorem bitsOf_length (x : BitVec w) : (bitsOf x).length = w := by
  rw [bitsOf, List.length_map, List.length_range]

theorem word_bitsOf {v : Nat} (x : BitVec v) : word (bitsOf x) = x.setWidth w := by
  apply BitVec.eq_of_getLsbD_eq
  intro i hi
  rw [getLsbD_word, BitVec.getLsbD_setWidth, bitsOf]
  by_cases hv : i < v
  · simp [hv]
  · simp [hv, BitVec.getLsbD_of_ge x i (Nat.le_of_not_lt hv)]

theorem bitsOf_xor (x y : BitVec w) :
    bitsOf (x ^^^ y) = List.zipWith (· ^^ ·) (bitsOf x) (bitsOf y) := by
  simp only [bitsOf, List.zipWith_map, List.zipWith_self]
  exact List.map_congr_left fun i _ => BitVec.getLsbD_xor

/-- A list of at most `w` bits whose word is zero has no one in it. -/
theorem eq_false_of_word_eq_zero {bits : List Bool} (hlength : bits.length ≤ w)
    (h : (word bits : BitVec w) = 0#w) : ∀ b ∈ bits, b = false := by
  intro b hb
  obtain ⟨i, hi, rfl⟩ := List.getElem_of_mem hb
  have hbit := congrArg (fun x => BitVec.getLsbD x i) h
  simp only [getLsbD_word, BitVec.getLsbD_zero] at hbit
  simpa [show i < w by omega, hi] using hbit

/-! ## The register is linear -/

theorem shift_xor (poly a b : BitVec w) :
    shift poly (a ^^^ b) = shift poly a ^^^ shift poly b := by
  unfold shift
  rw [BitVec.getLsbD_xor, BitVec.ushiftRight_xor_distrib]
  cases a.getLsbD 0 <;> cases b.getLsbD 0
  · simp
  · simp [BitVec.xor_assoc]
  · simp only [Bool.xor_false, if_true, Bool.false_eq_true, if_false]
    rw [BitVec.xor_assoc, BitVec.xor_assoc, BitVec.xor_comm poly]
  · -- The polynomial is folded in twice and cancels.
    simp only [Bool.xor_self, Bool.false_eq_true, if_false, if_true]
    rw [BitVec.xor_assoc, BitVec.xor_comm (b >>> 1) poly, ← BitVec.xor_assoc poly,
      BitVec.xor_self, BitVec.zero_xor]

@[simp] theorem shift_zero (poly : BitVec w) : shift poly 0#w = 0#w := by
  simp [shift]

/-- With the top bit of the polynomial set, no bit of the register is lost. -/
theorem shift_eq_zero {poly : BitVec w} (hpoly : poly.msb = true) {reg : BitVec w}
    (h : shift poly reg = 0#w) : reg = 0#w := by
  have hbit : ∀ i, (shift poly reg).getLsbD i = false := by
    intro i
    rw [h, BitVec.getLsbD_zero]
  unfold shift at hbit
  by_cases hlow : reg.getLsbD 0 = true
  · -- The polynomial sets the top bit, which the shift leaves clear.
    have htop := hbit (w - 1)
    have hclear : (reg >>> 1).getLsbD (w - 1) = false := by
      rw [BitVec.getLsbD_ushiftRight]
      exact BitVec.getLsbD_of_ge reg _ (by omega)
    rw [if_pos hlow, BitVec.getLsbD_xor, hclear, ← BitVec.msb_eq_getLsbD_last, hpoly] at htop
    cases htop
  · rw [if_neg hlow] at hbit
    apply BitVec.eq_of_getLsbD_eq
    intro i _
    rw [BitVec.getLsbD_zero]
    cases i with
    | zero => simpa using hlow
    | succ i =>
      have hi := hbit i
      rwa [BitVec.getLsbD_ushiftRight, Nat.add_comm] at hi

theorem iterate_shift_eq_zero {poly : BitVec w} (hpoly : poly.msb = true) {reg : BitVec w}
    (n : Nat) (h : (shift poly)^[n] reg = 0#w) : reg = 0#w := by
  induction n generalizing reg with
  | zero => exact h
  | succ n ih => exact shift_eq_zero hpoly (ih h)

/-! ## Feeding -/

theorem feed_append (poly reg : BitVec w) (xs ys : List Bool) :
    feed poly reg (xs ++ ys) = feed poly (feed poly reg xs) ys :=
  List.foldl_append

/-- A word without its top bit comes back from one place up. -/
theorem shift_shiftLeft (poly : BitVec w) {x : BitVec w} (h : x.msb = false) :
    shift poly (x <<< 1) = x := by
  have hlow : (x <<< 1).getLsbD 0 = false := by simp
  rw [shift, hlow, if_neg (by simp)]
  apply BitVec.eq_of_getLsbD_eq
  intro i hi
  rw [BitVec.getLsbD_ushiftRight, BitVec.getLsbD_shiftLeft]
  by_cases hlast : 1 + i < w
  · simp [hlast]
  · rw [BitVec.msb_eq_getLsbD_last, show w - 1 = i by omega] at h
    simp [h]

/-- Up to `w` bits, fed one by one, are folded in as one word. -/
theorem feed_eq_iterate (poly reg : BitVec w) {bits : List Bool} (h : bits.length ≤ w) :
    feed poly reg bits = (shift poly)^[bits.length] (reg ^^^ word bits) := by
  induction bits generalizing reg with
  | nil => simp [feed]
  | cons bit bits ih =>
    rw [List.length_cons] at h
    have hmsb : (word bits : BitVec w).msb = false := by
      rw [BitVec.msb_eq_getLsbD_last, getLsbD_word, List.getD_eq_getElem?_getD,
        List.getElem?_eq_none (by omega)]
      simp
    have hword : (word (bit :: bits) : BitVec w) = word [bit] ^^^ word bits <<< 1 :=
      word_append [bit] bits
    have hstep : shift poly (reg ^^^ word (bit :: bits)) = feedBit poly reg bit ^^^ word bits := by
      rw [hword, ← BitVec.xor_assoc, shift_xor, shift_shiftLeft poly hmsb, feedBit]
    rw [List.length_cons, Function.iterate_succ_apply, hstep, ← ih _ (by omega)]
    rfl

/-- The register is linear in its state and its input together. -/
theorem feed_xor (poly a b : BitVec w) {xs ys : List Bool} (h : xs.length = ys.length) :
    feed poly (a ^^^ b) (List.zipWith (· ^^ ·) xs ys) = feed poly a xs ^^^ feed poly b ys := by
  induction xs generalizing a b ys with
  | nil =>
    obtain rfl : ys = [] := List.length_eq_zero_iff.mp h.symm
    rfl
  | cons x xs ih =>
    rcases ys with _ | ⟨y, ys⟩
    · simp at h
    have hword : (word [x ^^ y] : BitVec w) = word [x] ^^^ word [y] := by
      apply BitVec.eq_of_getLsbD_eq
      intro i _
      rw [BitVec.getLsbD_xor, getLsbD_word, getLsbD_word, getLsbD_word]
      rcases i with _ | i
      · cases x <;> cases y <;> simp
      · simp
    have hstep : feedBit poly (a ^^^ b) (x ^^ y) = feedBit poly a x ^^^ feedBit poly b y := by
      rw [feedBit, feedBit, feedBit, ← shift_xor, hword]
      ac_rfl
    have hrest := ih (feedBit poly a x) (feedBit poly b y) (Nat.succ.inj h)
    rw [← hstep] at hrest
    exact hrest

/-- Zeros only shift. -/
theorem feed_zeros (poly reg : BitVec w) {bits : List Bool} (h : ∀ b ∈ bits, b = false) :
    feed poly reg bits = (shift poly)^[bits.length] reg := by
  induction bits generalizing reg with
  | nil => rfl
  | cons bit bits ih =>
    obtain rfl := h bit List.mem_cons_self
    have hword : (word [false] : BitVec w) = 0#w := by
      apply BitVec.eq_of_getLsbD_eq
      intro i _
      rw [getLsbD_word]
      rcases i with _ | i <;> simp
    have hstep : feedBit poly reg false = shift poly reg := by
      rw [feedBit, hword, BitVec.xor_zero]
    have hrest := ih (shift poly reg) fun b hb => h b (List.mem_cons_of_mem _ hb)
    rw [← hstep] at hrest
    rw [List.length_cons, Function.iterate_succ_apply, ← hstep, ← hrest]
    rfl

/-! ## Check words -/

/-- A message and its check word, masked with `out`, leave a state that depends
on `out` alone. -/
theorem feed_check (poly init out : BitVec w) (message : List Bool) :
    feed poly init (message ++ bitsOf (feed poly init message ^^^ out)) =
      (shift poly)^[w] out := by
  have hword : ∀ x : BitVec w, word (bitsOf x) = x := by
    intro x
    rw [word_bitsOf, BitVec.setWidth_eq]
  rw [feed_append, feed_eq_iterate _ _ (Nat.le_of_eq (bitsOf_length _)), bitsOf_length, hword,
    ← BitVec.xor_assoc, BitVec.xor_self, BitVec.zero_xor]

/-- All the ones of `bits` are in a window of `width` places. -/
def Burst (width : Nat) (bits : List Bool) : Prop :=
  ∃ start, ∀ i, bits[i]? = some true → start ≤ i ∧ i < start + width

theorem burst_of_bounded {width : Nat} {bits : List Bool} (start : Nat)
    (h : ∀ i < bits.length, bits[i]? = some true → start ≤ i ∧ i < start + width) :
    Burst width bits :=
  ⟨start, fun i hi => h i (List.getElem?_eq_some_iff.mp hi).1 hi⟩

theorem eq_false_of_not_mem_window {bits : List Bool} {P : Nat → Prop}
    (hones : ∀ i, bits[i]? = some true → P i) {part : List Bool} (start : Nat)
    (hpart : ∀ i, i < part.length → part[i]? = bits[start + i]? ∧ ¬ P (start + i)) :
    ∀ b ∈ part, b = false := by
  intro b hb
  obtain ⟨i, hi, rfl⟩ := List.getElem_of_mem hb
  obtain ⟨heq, hout⟩ := hpart i hi
  by_contra htrue
  have hone : bits[start + i]? = some true := by
    rw [← heq, List.getElem?_eq_getElem hi]
    simpa using htrue
  exact hout (hones _ hone)

/-- A burst of at most `w` bits that leaves an empty register empty is no error. -/
theorem eq_false_of_feed_eq_zero {poly : BitVec w} (hpoly : poly.msb = true)
    {bits : List Bool} (hburst : Burst w bits) (h : feed poly 0#w bits = 0#w) :
    ∀ b ∈ bits, b = false := by
  obtain ⟨start, hones⟩ := hburst
  -- Zeros up to the window, the window, zeros behind it.
  have hsplit : bits = bits.take start ++ ((bits.drop start).take w ++ bits.drop (start + w)) := by
    rw [← List.drop_drop, List.take_append_drop, List.take_append_drop]
  have hbefore : ∀ b ∈ bits.take start, b = false := by
    refine eq_false_of_not_mem_window hones 0 fun i hi => ?_
    rw [List.length_take] at hi
    rw [List.getElem?_take_of_lt (by omega), Nat.zero_add]
    exact ⟨rfl, by omega⟩
  have hafter : ∀ b ∈ bits.drop (start + w), b = false := by
    refine eq_false_of_not_mem_window hones (start + w) fun i _ => ?_
    rw [List.getElem?_drop]
    exact ⟨rfl, by omega⟩
  have hwindow : ∀ b ∈ (bits.drop start).take w, b = false := by
    have hlength : ((bits.drop start).take w).length ≤ w := List.length_take_le _ _
    rw [hsplit, feed_append, feed_append, feed_zeros _ _ hbefore, feed_zeros _ _ hafter] at h
    have hzero : (shift poly)^[(bits.take start).length] 0#w = 0#w :=
      Function.iterate_fixed (shift_zero poly) _
    have hmiddle := iterate_shift_eq_zero hpoly _ h
    rw [hzero, feed_eq_iterate _ _ hlength, BitVec.zero_xor] at hmiddle
    exact eq_false_of_word_eq_zero hlength (iterate_shift_eq_zero hpoly _ hmiddle)
  intro b hb
  rw [hsplit, List.mem_append, List.mem_append] at hb
  rcases hb with hb | hb | hb
  · exact hbefore b hb
  · exact hwindow b hb
  · exact hafter b hb

/-- Two inputs that leave the same state do not differ in a burst of at most `w`
bits. -/
theorem burst_eq_zero {poly : BitVec w} (hpoly : poly.msb = true) (init : BitVec w)
    {bits error : List Bool} (hlength : bits.length = error.length) (hburst : Burst w error)
    (h : feed poly init (List.zipWith (· ^^ ·) bits error) = feed poly init bits) :
    ∀ b ∈ error, b = false := by
  have hlinear := feed_xor poly init 0#w hlength
  rw [BitVec.xor_zero, h] at hlinear
  refine eq_false_of_feed_eq_zero hpoly hburst ?_
  have hcancel := congrArg (feed poly init bits ^^^ ·) hlinear
  simpa [← BitVec.xor_assoc] using hcancel.symm

end ShiftRegister
