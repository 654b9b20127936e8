import Mathlib.Data.List.Rotate

/-!
# Circular windows over a list of cells

A ring of cells is a list that is read from some position on and continues at
its start.  `List.rotate` says where reading starts; `window` cuts off a count
of cells.  The two operations on a ring are each made of two straight copies,
one up to the end of the list and one from its start:

* `splitRead_eq_window`: the two copies out of the ring are the window;
* `rotate_splitWrite`: the two copies into the ring put the source in front of
  the cells that it does not cover.

`window_add` and `window_splitWrite` are what a queue needs: to move the start
forward drops from the front, and to write behind the window appends to it.
-/

namespace Circular

variable {α : Type}

/-- The `count` cells from `start` on. -/
def window (cells : List α) (start count : Nat) : List α :=
  (cells.rotate start).take count

/-- Copy `src` over the cells from `pos` on. -/
def blit (cells : List α) (pos : Nat) (src : List α) : List α :=
  cells.take pos ++ src ++ cells.drop (pos + src.length)

/-- Copy `count` cells out of the ring, starting at `pos`. -/
def splitRead (cells : List α) (pos count : Nat) : List α :=
  let first := min count (cells.length - pos)
  (cells.drop pos).take first ++ cells.take (count - first)

/-- Copy `src` into the ring, starting at `pos`. -/
def splitWrite (cells : List α) (pos : Nat) (src : List α) : List α :=
  let first := min src.length (cells.length - pos)
  blit (blit cells pos (src.take first)) 0 (src.drop first)

variable {cells src : List α} {pos start size count k : Nat}

theorem blit_length (h : pos + src.length ≤ cells.length) :
    (blit cells pos src).length = cells.length := by
  simp only [blit, List.length_append, List.length_take, List.length_drop]
  omega

theorem splitWrite_length (hpos : pos ≤ cells.length) (hsrc : src.length ≤ cells.length) :
    (splitWrite cells pos src).length = cells.length := by
  have hfirst : (blit cells pos
      (src.take (min src.length (cells.length - pos)))).length = cells.length := by
    apply blit_length
    rw [List.length_take]
    omega
  rw [splitWrite, blit_length, hfirst]
  rw [hfirst, List.length_drop]
  omega

theorem window_length (hcount : count ≤ cells.length) :
    (window cells start count).length = count := by
  rw [window, List.length_take, List.length_rotate]
  omega

@[simp] theorem window_zero : window cells start 0 = [] := by
  simp [window]

theorem window_mod : window cells (start % cells.length) count = window cells start count := by
  rw [window, window, List.rotate_mod]

/-- The two copies out of the ring are the window. -/
theorem splitRead_eq_window (hpos : pos ≤ cells.length) (hcount : count ≤ cells.length) :
    splitRead cells pos count = window cells pos count := by
  rw [window, List.rotate_eq_drop_append_take hpos, List.take_append, splitRead,
    List.length_drop, List.take_take]
  rcases Nat.le_total count (cells.length - pos) with h | h
  · rw [min_eq_left h, Nat.sub_self, Nat.sub_eq_zero_of_le h]
    simp
  · rw [min_eq_right h, min_eq_left (show count - (cells.length - pos) ≤ pos by omega)]
    congr 1
    rw [List.take_of_length_le (by simp), List.take_of_length_le (by simp; omega)]

/-- To start later is to drop from the front. -/
theorem window_add (hk : k ≤ size) (hsize : size ≤ cells.length) :
    window cells (start + k) (size - k) = (window cells start size).drop k := by
  have hlen : (cells.rotate start).length = cells.length := List.length_rotate ..
  have hover : size - k - (cells.length - k) = 0 := by omega
  rw [window, window, ← List.rotate_rotate,
    List.rotate_eq_drop_append_take (by omega), List.take_append, List.length_drop,
    hlen, hover, List.take_zero, List.append_nil, List.drop_take]

/-- The two copies into the ring put `src` in front of the cells that it does
not cover. -/
theorem rotate_splitWrite (hpos : pos ≤ cells.length) (hsrc : src.length ≤ cells.length) :
    (splitWrite cells pos src).rotate pos = src ++ (cells.rotate pos).drop src.length := by
  rw [List.rotate_eq_drop_append_take (by rw [splitWrite_length hpos hsrc]; exact hpos),
    List.rotate_eq_drop_append_take hpos]
  rcases Nat.le_total src.length (cells.length - pos) with h | h
  · -- Everything fits before the end of the list.
    have hw : splitWrite cells pos src =
        cells.take pos ++ (src ++ cells.drop (pos + src.length)) := by
      simp [splitWrite, min_eq_left h, blit]
    have htake : (cells.take pos).length = pos := List.length_take_of_le hpos
    rw [hw, List.drop_left' htake, List.take_left' htake,
      List.drop_append_of_le_length (by simpa using h), List.drop_drop, List.append_assoc]
  · -- The source wraps: `tail` goes to the start of the list.
    have hsplit := List.take_append_drop (cells.length - pos) src
    have hhead : (src.take (cells.length - pos)).length = cells.length - pos :=
      List.length_take_of_le h
    have htail : (src.drop (cells.length - pos)).length = src.length - (cells.length - pos) := by
      simp
    generalize src.take (cells.length - pos) = head at hsplit hhead
    generalize hrest : src.drop (cells.length - pos) = tail at hsplit htail
    have hfirst : blit cells pos head = cells.take pos ++ head := by
      rw [blit, List.drop_of_length_le (by omega), List.append_nil]
    have hw : splitWrite cells pos src =
        tail ++ (cells.take pos).drop tail.length ++ head := by
      have htake : src.take (cells.length - pos) = head := by
        rw [← hsplit, List.take_left' hhead]
      rw [splitWrite, min_eq_right h, htake, hrest, hfirst, blit, List.take_zero,
        List.nil_append, Nat.zero_add,
        List.drop_append_of_le_length (by rw [List.length_take]; omega), List.append_assoc]
    have hfront : (tail ++ (cells.take pos).drop tail.length).length = pos := by
      rw [List.length_append, List.length_drop, List.length_take]
      omega
    have hcovered : (cells.drop pos ++ cells.take pos).drop src.length =
        (cells.take pos).drop tail.length := by
      have hend : (cells.drop pos).length ≤ src.length := by rwa [List.length_drop]
      rw [List.drop_append, List.drop_of_length_le hend, List.nil_append, List.length_drop, htail]
    rw [hw, List.drop_left' hfront, List.take_left' hfront, hcovered, ← List.append_assoc, hsplit]

/-- To write behind the window appends to it. -/
theorem window_splitWrite (hcells : 0 < cells.length) (hroom : size + src.length ≤ cells.length) :
    window (splitWrite cells ((start + size) % cells.length) src) start (size + src.length) =
      window cells start size ++ src := by
  have hpos : (start + size) % cells.length < cells.length := Nat.mod_lt _ hcells
  have hlen := splitWrite_length (Nat.le_of_lt hpos) (show src.length ≤ cells.length by omega)
  -- Turning `length - size` cells further than the write position leads back
  -- to `start`, in both rings.
  have hback : ∀ ring : List α, ring.length = cells.length →
      (ring.rotate ((start + size) % cells.length)).rotate (cells.length - size) =
        ring.rotate start := by
    intro ring hring
    rw [← hring, List.rotate_mod, List.rotate_rotate, ← List.rotate_mod ring start,
      ← List.rotate_mod, show start + size + (ring.length - size) = start + ring.length by omega,
      Nat.add_mod_right]
  have hwrite := rotate_splitWrite (Nat.le_of_lt hpos) (show src.length ≤ cells.length by omega)
  have hnew := hback _ hlen
  have hold := hback _ (rfl : cells.length = cells.length)
  have hrot : (cells.rotate ((start + size) % cells.length)).length = cells.length :=
    List.length_rotate ..
  generalize cells.rotate ((start + size) % cells.length) = old at hwrite hold hrot
  rw [hwrite, List.rotate_eq_drop_append_take (by simp; omega), List.drop_append,
    List.drop_of_length_le (by omega), List.nil_append, List.drop_drop,
    show src.length + (cells.length - size - src.length) = cells.length - size by omega] at hnew
  rw [List.rotate_eq_drop_append_take (by omega)] at hold
  have hdrop : (old.drop (cells.length - size)).length = size := by simp [hrot]; omega
  rw [window, window, ← hnew, ← hold, List.take_left' hdrop, List.take_append, hdrop,
    List.take_of_length_le (by omega), Nat.add_sub_cancel_left, List.take_take,
    min_eq_left (by omega), List.take_left]

end Circular
