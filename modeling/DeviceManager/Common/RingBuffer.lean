import Mathlib.Data.Nat.ModEq
import DeviceManager.Common.Primitives
import DeviceManager.Lib.Circular

/-!
# The byte ring of `src/common/ring_buffer.c`

A `RingBuffer` carries the bounds that the C code relies on: the read position
is inside the storage, the size does not exceed it, and the capacity is at most
half of `SIZE_MAX`, so that `read_pos + size` does not wrap.  `capacity` is the
length of the storage.

The abstract value of a ring is the queue `contents`, the `size` bytes from
`read_pos` on.  Each operation has one lemma that says what it does to the
queue (`ringWrite_contents`, `ringPeek_eq`, `ringDiscard_contents`), and no
later module looks at positions again.
-/

namespace Devmgr

open Circular

/-- `struct devmgr_ring_buffer`. -/
structure RingBuffer where
  storage : List UInt8
  readPos : Nat
  size : Nat
  readPos_lt : readPos < storage.length
  size_le : size ≤ storage.length
  capacity_le : storage.length ≤ 2 ^ 63

def RingBuffer.capacity (ring : RingBuffer) : Nat :=
  ring.storage.length

/-- Addition on `size_t`. -/
def sizeAdd (left right : Nat) : Nat :=
  (left + right) % 2 ^ 64

/-- `devmgr_ring_reset`. -/
def ringReset (ring : RingBuffer) : RingBuffer :=
  { ring with
    readPos := 0
    size := 0
    readPos_lt := by have := ring.readPos_lt; omega
    size_le := by omega }

/-- `devmgr_ring_size`. -/
def ringSize (ring : RingBuffer) : Nat :=
  ring.size

/-- `devmgr_ring_space`. -/
def ringSpace (ring : RingBuffer) : Nat :=
  ring.capacity - ring.size

/-- The position `offset` bytes after the read position. -/
def RingBuffer.position (ring : RingBuffer) (offset : Nat) : Nat :=
  sizeAdd ring.readPos offset % ring.capacity

theorem RingBuffer.capacity_pos (ring : RingBuffer) : 0 < ring.capacity := by
  have := ring.readPos_lt
  rw [capacity]
  omega

theorem RingBuffer.position_lt (ring : RingBuffer) (offset : Nat) :
    ring.position offset < ring.storage.length :=
  Nat.mod_lt _ ring.capacity_pos

theorem size_add_ringSpace (ring : RingBuffer) :
    ring.size + ringSpace ring = ring.storage.length := by
  have := ring.size_le
  rw [ringSpace, RingBuffer.capacity]
  omega

/-- `devmgr_ring_write`: the number of bytes taken and the new ring. -/
def ringWrite (ring : RingBuffer) (data : List UInt8) : Nat × RingBuffer :=
  if data.length = 0 then (0, ring)
  else
    let count := min data.length (ringSpace ring)
    let writePos := ring.position ring.size
    have hspace := size_add_ringSpace ring
    have hcount : (data.take count).length ≤ ring.storage.length := by
      rw [List.length_take]
      omega
    have hlen : (splitWrite ring.storage writePos (data.take count)).length =
        ring.storage.length :=
      splitWrite_length (Nat.le_of_lt (ring.position_lt _)) hcount
    (count,
      { storage := splitWrite ring.storage writePos (data.take count)
        readPos := ring.readPos
        size := ring.size + count
        readPos_lt := by rw [hlen]; exact ring.readPos_lt
        size_le := by rw [hlen]; omega
        capacity_le := by rw [hlen]; exact ring.capacity_le })

/-- `devmgr_ring_peek`: the bytes copied out. -/
def ringPeek (ring : RingBuffer) (offset length : Nat) : List UInt8 :=
  if offset ≥ ring.size ∨ length = 0 then []
  else
    let count := min length (ring.size - offset)
    splitRead ring.storage (ring.position offset) count

/-- `devmgr_ring_discard`: the number of bytes dropped and the new ring. -/
def ringDiscard (ring : RingBuffer) (length : Nat) : Nat × RingBuffer :=
  if length = 0 then (0, ring)
  else
    let count := min length ring.size
    let size := ring.size - count
    (count,
      { storage := ring.storage
        readPos := if size = 0 then 0 else ring.position count
        size := size
        readPos_lt := by
          have := ring.readPos_lt
          split
          · omega
          · exact ring.position_lt count
        size_le := by
          have := ring.size_le
          simp only [size]
          omega
        capacity_le := ring.capacity_le })

/-- `devmgr_ring_read`. -/
def ringRead (ring : RingBuffer) (length : Nat) : List UInt8 × RingBuffer :=
  let data := ringPeek ring 0 length
  (data, (ringDiscard ring data.length).2)

/-! ## The queue that a ring stores -/

/-- The `size` bytes from the read position on. -/
def RingBuffer.contents (ring : RingBuffer) : List UInt8 :=
  window ring.storage ring.readPos ring.size

@[simp] theorem RingBuffer.contents_length (ring : RingBuffer) :
    ring.contents.length = ring.size :=
  window_length ring.size_le

/-- No position wraps `size_t`. -/
theorem RingBuffer.position_eq (ring : RingBuffer) {offset : Nat}
    (h : offset ≤ ring.storage.length) :
    ring.position offset = (ring.readPos + offset) % ring.storage.length := by
  have hpos := ring.readPos_lt
  have hcap := ring.capacity_le
  have hsum : (ring.readPos + offset) % 2 ^ 64 = ring.readPos + offset :=
    Nat.mod_eq_of_lt (by omega)
  rw [position, sizeAdd, hsum, capacity]

@[simp] theorem ringReset_contents (ring : RingBuffer) : (ringReset ring).contents = [] :=
  window_zero

theorem ringWrite_count (ring : RingBuffer) (data : List UInt8) :
    (ringWrite ring data).1 = min data.length (ringSpace ring) := by
  rw [ringWrite]
  split
  · rename_i h
    simp [h]
  · rfl

/-- A write appends the bytes that it takes. -/
theorem ringWrite_contents (ring : RingBuffer) (data : List UInt8) :
    (ringWrite ring data).2.contents = ring.contents ++ data.take (ringWrite ring data).1 := by
  rw [ringWrite]
  split
  · simp
  · have hspace := size_add_ringSpace ring
    have hpos := ring.readPos_lt
    have htake : (data.take (min data.length (ringSpace ring))).length =
        min data.length (ringSpace ring) :=
      List.length_take_of_le (Nat.min_le_left _ _)
    have hroom : ring.size + (data.take (min data.length (ringSpace ring))).length ≤
        ring.storage.length := by
      rw [htake]
      omega
    have h := @window_splitWrite _ _ _ ring.readPos _ (by omega) hroom
    rw [htake, ← ring.position_eq ring.size_le] at h
    exact h

@[simp] theorem ringWrite_capacity (ring : RingBuffer) (data : List UInt8) :
    (ringWrite ring data).2.capacity = ring.capacity := by
  rw [ringWrite]
  split
  · rfl
  · have hspace := size_add_ringSpace ring
    refine splitWrite_length (Nat.le_of_lt (ring.position_lt _)) ?_
    rw [List.length_take]
    omega

/-- A peek copies out the part of the queue that is asked for and there. -/
theorem ringPeek_eq (ring : RingBuffer) (offset length : Nat) :
    ringPeek ring offset length = (ring.contents.drop offset).take length := by
  rw [ringPeek]
  split
  · rename_i h
    rcases h with h | rfl
    · rw [List.drop_of_length_le (by simpa using h), List.take_nil]
    · simp
  · rename_i h
    have hsize := ring.size_le
    have hoff : offset ≤ ring.size := by omega
    have hdrop : (ring.contents.drop offset).length = ring.size - offset := by simp
    rw [splitRead_eq_window (Nat.le_of_lt (ring.position_lt _)) (by omega),
      ring.position_eq (by omega), window_mod, RingBuffer.contents, ← window_add hoff hsize,
      window, window, List.take_take]

/-- A discard drops from the front of the queue. -/
theorem ringDiscard_contents (ring : RingBuffer) (length : Nat) :
    (ringDiscard ring length).2.contents = ring.contents.drop length := by
  rw [ringDiscard]
  split
  · rename_i h
    simp [h]
  · rename_i h
    have hsize := ring.size_le
    by_cases hall : ring.size ≤ length
    · have hzero : ring.size - min length ring.size = 0 := by omega
      rw [List.drop_of_length_le (by simpa using hall)]
      simp [RingBuffer.contents, hzero]
    · have hmin : min length ring.size = length := by omega
      have hne : ring.size - length ≠ 0 := by omega
      simp only [RingBuffer.contents, hmin, if_neg hne]
      rw [ring.position_eq (by omega), window_mod, window_add (by omega) hsize]

@[simp] theorem ringDiscard_capacity (ring : RingBuffer) (length : Nat) :
    (ringDiscard ring length).2.capacity = ring.capacity := by
  rw [ringDiscard]
  split <;> rfl

end Devmgr
