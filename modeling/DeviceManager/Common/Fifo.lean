import DeviceManager.Common.RingBuffer
import DeviceManager.Lib.BoundedQueue

/-!
# The ring as a queue

Three levels of one design.  `RawRing` has the fields of `struct devmgr_ring_buffer` and
nothing that is known about them; its operations compute on `size_t`, and a `memcpy` that
would leave the storage fails.  `RingBuffer` carries the bounds, and `BoundedQueue` has no
positions at all.

* `rawWrite_eq`, `rawPeek_eq`, `rawDiscard_eq` and `rawRead_eq`: on the fields of a
  `RingBuffer` no copy fails, and the operations are those of `RingBuffer`.
* `Represents` relates a raw ring to a queue, and `ringStep_simulates` is one operation.
* `ring_refines_fifo`: so do all sequences of operations after `devmgr_ring_init`.
-/

namespace Devmgr

open Circular BoundedQueue

/-! ## The fields alone -/

/-- The fields of `struct devmgr_ring_buffer`. -/
@[ext] structure RawRing where
  storage : List UInt8
  capacity : Nat
  readPos : Nat
  size : Nat

/-- Subtraction on `size_t`. -/
def sizeSub (left right : Nat) : Nat :=
  (left + 2 ^ 64 - right) % 2 ^ 64

/-- `memcpy` into the storage. -/
def RawRing.copyIn (ring : RawRing) (pos : Nat) (src : List UInt8) : Option RawRing :=
  if pos + src.length ≤ ring.capacity then
    some { ring with storage := blit ring.storage pos src }
  else none

/-- `memcpy` out of the storage. -/
def RawRing.copyOut (ring : RawRing) (pos count : Nat) : Option (List UInt8) :=
  if pos + count ≤ ring.capacity then some ((ring.storage.drop pos).take count) else none

/-- `devmgr_ring_init`. -/
def rawInit (storage : List UInt8) : Except Status RawRing :=
  if storage.length = 0 then .error .invalid
  else .ok ⟨storage, storage.length, 0, 0⟩

/-- `devmgr_ring_write`. -/
def rawWrite (ring : RawRing) (data : List UInt8) : Option (Nat × RawRing) :=
  if data.length = 0 then some (0, ring)
  else do
    let count := min data.length (sizeSub ring.capacity ring.size)
    let writePos := sizeAdd ring.readPos ring.size % ring.capacity
    let first := min count (sizeSub ring.capacity writePos)
    let ring ← ring.copyIn writePos (data.take first)
    let ring ← ring.copyIn 0 ((data.drop first).take (sizeSub count first))
    some (count, { ring with size := sizeAdd ring.size count })

/-- `devmgr_ring_peek`: the returned count, and the bytes copied out. -/
def rawPeek (ring : RawRing) (offset length : Nat) : Option (Nat × List UInt8) :=
  if offset ≥ ring.size ∨ length = 0 then some (0, [])
  else do
    let count := min length (sizeSub ring.size offset)
    let position := sizeAdd ring.readPos offset % ring.capacity
    let first := min count (sizeSub ring.capacity position)
    let head ← ring.copyOut position first
    let tail ← ring.copyOut 0 (sizeSub count first)
    some (count, head ++ tail)

/-- `devmgr_ring_discard`. -/
def rawDiscard (ring : RawRing) (length : Nat) : Nat × RawRing :=
  if length = 0 then (0, ring)
  else
    let count := min length ring.size
    let ring := { ring with
      readPos := sizeAdd ring.readPos count % ring.capacity
      size := sizeSub ring.size count }
    (count, if ring.size = 0 then { ring with readPos := 0 } else ring)

/-- `devmgr_ring_read`. -/
def rawRead (ring : RawRing) (length : Nat) : Option ((Nat × List UInt8) × RawRing) :=
  (rawPeek ring 0 length).map fun peeked => (peeked, (rawDiscard ring peeked.1).2)

/-- `devmgr_ring_reset`. -/
def rawReset (ring : RawRing) : RawRing :=
  { ring with readPos := 0, size := 0 }

/-- One operation on a ring. -/
def ringStep (ring : RawRing) : Op UInt8 → Option (Observation UInt8 × RawRing)
  | .write data => (rawWrite ring data).map fun (count, ring) => (⟨count, []⟩, ring)
  | .peek offset length =>
    (rawPeek ring offset length).map fun (count, bytes) => (⟨count, bytes⟩, ring)
  | .discard length =>
    let (count, ring) := rawDiscard ring length
    some (⟨count, []⟩, ring)
  | .read length =>
    (rawRead ring length).map fun ((count, bytes), ring) => (⟨count, bytes⟩, ring)
  | .reset => some (⟨0, []⟩, rawReset ring)

/-! ## The operations of a ring with its bounds -/

/-- The fields of a ring. -/
def RingBuffer.raw (ring : RingBuffer) : RawRing :=
  ⟨ring.storage, ring.capacity, ring.readPos, ring.size⟩

theorem sizeSub_eq {left right : Nat} (hle : right ≤ left) (hlt : left < 2 ^ 64) :
    sizeSub left right = left - right := by
  have hsum : left + 2 ^ 64 - right = left - right + 2 ^ 64 := by omega
  rw [sizeSub, hsum, Nat.add_mod_right, Nat.mod_eq_of_lt (by omega)]

theorem sizeAdd_eq {left right : Nat} (hlt : left + right < 2 ^ 64) :
    sizeAdd left right = left + right :=
  Nat.mod_eq_of_lt hlt

/-- The two copies into the storage stay inside, and are those of `splitWrite`. -/
theorem RawRing.copyIn_split {ring : RawRing} (hcap : ring.capacity = ring.storage.length)
    {pos : Nat} (hpos : pos ≤ ring.capacity) {src : List UInt8} (hsrc : src.length ≤ ring.capacity)
    {first : Nat} (hfirst : first = min src.length (ring.capacity - pos)) :
    ((ring.copyIn pos (src.take first)).bind fun ring => ring.copyIn 0 (src.drop first)) =
      some { ring with storage := splitWrite ring.storage pos src } := by
  have hhead : pos + (src.take first).length ≤ ring.capacity := by
    rw [List.length_take]
    omega
  have htail : 0 + (src.drop first).length ≤ ring.capacity := by
    rw [List.length_drop]
    omega
  rw [copyIn, if_pos hhead, Option.bind_some, copyIn, if_pos htail, splitWrite, ← hcap, hfirst]

/-- The two copies out of the storage stay inside, and are those of `splitRead`. -/
theorem RawRing.copyOut_split {ring : RawRing} (hcap : ring.capacity = ring.storage.length)
    {pos count : Nat} (hpos : pos ≤ ring.capacity) (hcount : count ≤ ring.capacity)
    {first : Nat} (hfirst : first = min count (ring.capacity - pos)) :
    ((ring.copyOut pos first).bind fun head =>
        (ring.copyOut 0 (count - first)).bind fun tail => some (count, head ++ tail)) =
      some (count, splitRead ring.storage pos count) := by
  have hhead : pos + first ≤ ring.capacity := by omega
  have htail : 0 + (count - first) ≤ ring.capacity := by omega
  rw [copyOut, if_pos hhead, Option.bind_some, copyOut, if_pos htail, Option.bind_some, splitRead,
    ← hcap, hfirst, List.drop_zero]

section Ring

variable (ring : RingBuffer)

theorem RingBuffer.sizeSub_position (offset : Nat) :
    sizeSub ring.raw.capacity (ring.position offset) =
      ring.raw.capacity - ring.position offset := by
  have hlt := ring.position_lt offset
  have hcap := ring.capacity_le
  exact sizeSub_eq (Nat.le_of_lt hlt) (show ring.storage.length < _ by omega)

theorem ringWrite_raw {data : List UInt8} (hdata : data.length ≠ 0) :
    (ringWrite ring data).2.raw =
      { ring.raw with
        storage := splitWrite ring.storage (ring.position ring.size)
          (data.take (ringWrite ring data).1)
        size := ring.size + (ringWrite ring data).1 } := by
  ext1
  · show (ringWrite ring data).2.storage = _
    rw [ringWrite, if_neg hdata]
  · exact ringWrite_capacity ring data
  · show (ringWrite ring data).2.readPos = _
    rw [ringWrite, if_neg hdata]
    rfl
  · show (ringWrite ring data).2.size = _
    rw [ringWrite, if_neg hdata]

theorem rawWrite_eq (data : List UInt8) :
    rawWrite ring.raw data = some ((ringWrite ring data).1, (ringWrite ring data).2.raw) := by
  rw [rawWrite]
  by_cases hnil : data.length = 0
  · rw [if_pos hnil, ringWrite, if_pos hnil]
  have hcap := ring.capacity_le
  have hsum := size_add_ringSpace ring
  have hspace : sizeSub ring.raw.capacity ring.raw.size = ringSpace ring :=
    sizeSub_eq ring.size_le (show ring.storage.length < _ by omega)
  have hpos : sizeAdd ring.raw.readPos ring.raw.size % ring.raw.capacity =
      ring.position ring.size := rfl
  have hcount := ringWrite_count ring data
  rw [if_neg hnil, ringWrite_raw ring hnil]
  simp only [hspace, hpos, ring.sizeSub_position, ← hcount]
  generalize (ringWrite ring data).1 = count at hcount ⊢
  have hlength : (data.take count).length = count := List.length_take_of_le (by omega)
  have hcopies := RawRing.copyIn_split
    (show ring.raw.capacity = ring.raw.storage.length from rfl)
    (Nat.le_of_lt (ring.position_lt ring.size))
    (show (data.take count).length ≤ ring.storage.length by omega) rfl
  rw [hlength] at hcopies
  generalize hfirst : min count (ring.raw.capacity - ring.position ring.size) = first at hcopies ⊢
  have hrest : sizeSub count first = count - first := sizeSub_eq (by omega) (by omega)
  have hsize : sizeAdd ring.size count = ring.size + count := sizeAdd_eq (by omega)
  rw [List.take_take, min_eq_left (show first ≤ count by omega), List.drop_take] at hcopies
  have hall := congrArg (fun copied => copied.bind fun ring =>
    some (count, { ring with size := sizeAdd ring.size count })) hcopies
  rw [Option.bind_assoc, Option.bind_some] at hall
  rw [hrest, ← hsize]
  exact hall

theorem rawPeek_eq (offset length : Nat) :
    rawPeek ring.raw offset length =
      some ((ringPeek ring offset length).length, ringPeek ring offset length) := by
  rw [rawPeek, ringPeek, show ring.raw.size = ring.size from rfl]
  by_cases hnone : offset ≥ ring.size ∨ length = 0
  · rw [if_pos hnone, if_pos hnone]
    rfl
  have hcap := ring.capacity_le
  have hle := ring.size_le
  have hsize : sizeSub ring.size offset = ring.size - offset :=
    sizeSub_eq (show offset ≤ ring.size by omega) (show ring.size < _ by omega)
  have hpos : sizeAdd ring.raw.readPos offset % ring.raw.capacity = ring.position offset := rfl
  rw [if_neg hnone, if_neg hnone]
  simp only [hsize, hpos, ring.sizeSub_position]
  generalize hcount : min length (ring.size - offset) = count
  have hcopies := RawRing.copyOut_split
    (show ring.raw.capacity = ring.raw.storage.length from rfl)
    (Nat.le_of_lt (ring.position_lt offset)) (show count ≤ ring.storage.length by omega) rfl
  generalize hfirst : min count (ring.raw.capacity - ring.position offset) = first at hcopies ⊢
  have hrest : sizeSub count first = count - first := sizeSub_eq (by omega) (by omega)
  have hlength : (splitRead ring.storage (ring.position offset) count).length = count := by
    rw [splitRead_eq_window (Nat.le_of_lt (ring.position_lt offset)) (by omega),
      window_length (by omega)]
  rw [hrest, hlength]
  exact hcopies

theorem rawDiscard_eq (length : Nat) :
    rawDiscard ring.raw length =
      ((ringDiscard ring length).1, (ringDiscard ring length).2.raw) := by
  rw [rawDiscard, ringDiscard]
  by_cases hnone : length = 0
  · rw [if_pos hnone, if_pos hnone]
  have hcap := ring.capacity_le
  have hle := ring.size_le
  have hsize : sizeSub ring.raw.size (min length ring.raw.size) =
      ring.size - min length ring.size :=
    sizeSub_eq (Nat.min_le_right _ _) (show ring.size < _ by omega)
  rw [if_neg hnone, if_neg hnone]
  simp only [hsize]
  by_cases hzero : ring.size - min length ring.size = 0
  · rw [if_pos hzero]
    exact Prod.ext rfl (RawRing.ext rfl rfl (if_pos hzero).symm rfl)
  · rw [if_neg hzero]
    exact Prod.ext rfl (RawRing.ext rfl rfl (if_neg hzero).symm rfl)

theorem rawRead_eq (length : Nat) :
    rawRead ring.raw length =
      some (((ringRead ring length).1.length, (ringRead ring length).1),
        (ringRead ring length).2.raw) := by
  rw [rawRead, rawPeek_eq, Option.map_some, rawDiscard_eq]
  rfl

end Ring

/-! ## The queue -/

/-- A raw ring stores a queue: its fields are those of a ring with the bounds, and the queue is
what stands in the window from `read_pos` on. -/
def Represents {capacity : Nat} (raw : RawRing) (queue : Queue UInt8 capacity) : Prop :=
  ∃ ring : RingBuffer, raw = ring.raw ∧ ring.capacity = capacity ∧ ring.contents = queue.items

theorem ringDiscard_count (ring : RingBuffer) (length : Nat) :
    (ringDiscard ring length).1 = min length ring.size := by
  rw [ringDiscard]
  split
  · rename_i hzero
    rw [hzero, Nat.zero_min]
  · rfl

theorem Represents.discard {capacity : Nat} {ring : RingBuffer} {queue : Queue UInt8 capacity}
    (hcapacity : ring.capacity = capacity) (hqueue : ring.contents = queue.items) (length : Nat) :
    Represents (ringDiscard ring length).2.raw
      (queue.drop (min length queue.items.length)) := by
  refine ⟨_, rfl, (ringDiscard_capacity ring length).trans hcapacity, ?_⟩
  rw [ringDiscard_contents, hqueue, List.drop_eq_drop_min, Queue.drop]

/-- Every operation does to the queue what a queue does, and returns what a queue returns. -/
theorem ringStep_simulates {capacity : Nat} (raw : RawRing) (queue : Queue UInt8 capacity)
    (op : Op UInt8) (h : Represents raw queue) :
    ∃ raw', ringStep raw op = some ((queue.step op).1, raw') ∧
      Represents raw' (queue.step op).2 := by
  obtain ⟨ring, rfl, hcapacity, hqueue⟩ := h
  have hsize : queue.items.length = ring.size := by rw [← hqueue, ring.contents_length]
  cases op with
  | write data =>
    have hspace : ringSpace ring = capacity - queue.items.length := by
      rw [ringSpace, hcapacity, hsize]
    have hcount := ringWrite_count ring data
    rw [hspace] at hcount
    refine ⟨(ringWrite ring data).2.raw, ?_, _, rfl,
      (ringWrite_capacity ring data).trans hcapacity, ?_⟩
    · rw [ringStep, rawWrite_eq, Option.map_some, hcount, Queue.step]
    · rw [ringWrite_contents, hqueue, hcount, Queue.step, Queue.append]
  | peek offset length =>
    refine ⟨ring.raw, ?_, ring, rfl, hcapacity, hqueue⟩
    rw [ringStep, rawPeek_eq, Option.map_some, ringPeek_eq, hqueue, Queue.step]
  | discard length =>
    refine ⟨(ringDiscard ring length).2.raw, ?_, .discard hcapacity hqueue length⟩
    rw [ringStep, rawDiscard_eq, ringDiscard_count, ← hsize, Queue.step]
  | read length =>
    have hread : (ringRead ring length).1 = queue.items.take length := by
      rw [ringRead, ringPeek_eq, List.drop_zero, hqueue]
    have hcount : (ringRead ring length).1.length = min length queue.items.length := by
      rw [hread, List.length_take]
    have hleft := Represents.discard hcapacity hqueue (min length queue.items.length)
    rw [min_assoc, min_self, ← hcount] at hleft
    refine ⟨(ringRead ring length).2.raw, ?_, ?_⟩
    · rw [ringStep, rawRead_eq, Option.map_some, hcount, hread, List.take_eq_take_min, Queue.step]
    · rw [Queue.step, ← hcount]
      exact hleft
  | reset => exact ⟨rawReset ring.raw, rfl, ringReset ring, rfl, hcapacity, ringReset_contents ring⟩

/-- `devmgr_ring_init` refuses an empty storage; after it, every sequence of operations copies
inside the storage, returns what a bounded queue returns, and leaves the queue in the window
from `read_pos` on. -/
theorem ring_refines_fifo (storage : List UInt8) (hcap : storage.length ≤ 2 ^ 63)
    (hpos : 1 ≤ storage.length) (ops : List (Op UInt8)) :
    ∃ init ring, rawInit storage = .ok init ∧
      BoundedQueue.run ringStep init ops =
        some (((Queue.empty : Queue UInt8 storage.length).run ops).1, ring) ∧
      ring.capacity = storage.length ∧ ring.storage.length = storage.length ∧
      ring.readPos < ring.capacity ∧ ring.size ≤ ring.capacity ∧
      window ring.storage ring.readPos ring.size =
        ((Queue.empty : Queue UInt8 storage.length).run ops).2.items := by
  let start : RingBuffer := ⟨storage, 0, 0, hpos, Nat.zero_le _, hcap⟩
  have hstart : Represents start.raw (Queue.empty : Queue UInt8 storage.length) :=
    ⟨start, rfl, rfl, window_zero⟩
  obtain ⟨raw, hrun, ring, rfl, hcapacity, hqueue⟩ :=
    run_simulates ringStep_simulates hstart ops
  refine ⟨start.raw, ring.raw, if_neg (by omega), hrun, hcapacity, hcapacity, ring.readPos_lt,
    ring.size_le, hqueue⟩

/-- A ring of four bytes: three written, two read, three more written across the end. -/
theorem ring_refines_fifo_wrapped :
    ∃ init ring, rawInit [0, 0, 0, 0] = .ok init ∧
      BoundedQueue.run ringStep init [.write [1, 2, 3], .read 2, .write [4, 5, 6, 7], .peek 1 5] =
        some ([⟨3, []⟩, ⟨2, [1, 2]⟩, ⟨3, []⟩, ⟨3, [4, 5, 6]⟩], ring) ∧
      ring.readPos = 2 ∧ ring.storage = [5, 6, 3, 4] := by
  obtain ⟨init, ring, hinit, hrun, _⟩ := ring_refines_fifo [0, 0, 0, 0] (by simp) (by simp)
    [.write [1, 2, 3], .read 2, .write [4, 5, 6, 7], .peek 1 5]
  have hfields : (BoundedQueue.run ringStep init
      [.write [1, 2, 3], .read 2, .write [4, 5, 6, 7], .peek 1 5]).map
        (fun last => (last.2.readPos, last.2.storage)) = some (2, [5, 6, 3, 4]) := by
    rw [← Except.ok.inj hinit]
    decide +kernel
  rw [hrun, Option.map_some] at hfields
  obtain ⟨hreadPos, hstorage⟩ := Prod.mk.inj (Option.some.inj hfields)
  exact ⟨init, ring, hinit, hrun, hreadPos, hstorage⟩

end Devmgr
