import Mathlib.Data.List.Basic

/-!
# Status codes, C strings and the CRC

The small vocabulary of `include/devmgr/error.h` and `src/common/crc32.c`, and
the two facts about C strings that the rest of the development uses.

A `CString n` is the contents of a `char[n]` up to its terminator: fewer than
`n` bytes, none of them zero.  `strcmp` on two such buffers is equality of the
`bytes`.
-/

namespace Devmgr

/-- `enum devmgr_status`. -/
inductive Status
  | ok
  | invalid
  | nomem
  | overflow
  | underflow
  | crc
  | protocol
  | timeout
  | disconnected
  | io
  | state
  | busy
  | notFound
  | limit
  deriving DecidableEq, Repr

/-- The integer that the C code returns for a status. -/
def Status.code : Status → Int
  | .ok => 0
  | .invalid => -1
  | .nomem => -2
  | .overflow => -3
  | .underflow => -4
  | .crc => -5
  | .protocol => -6
  | .timeout => -7
  | .disconnected => -8
  | .io => -9
  | .state => -10
  | .busy => -11
  | .notFound => -12
  | .limit => -13

theorem Status.code_eq_ok {status : Status} : status.code = Status.ok.code ↔ status = .ok := by
  cases status <;> simp [Status.code]

/-! ## C strings -/

/-- `memchr(memory, 0, length)`, as an offset. -/
def memchrNul (memory : List UInt8) : Option Nat :=
  memory.findIdx? (· == 0)

/-- The contents of a `char[capacity]` up to its terminator. -/
structure CString (capacity : Nat) where
  bytes : List UInt8
  length_lt : bytes.length < capacity
  nonzero : ∀ b ∈ bytes, b ≠ 0
  deriving DecidableEq

/-- The string of a zeroed `char[capacity + 1]`. -/
def CString.empty {capacity : Nat} : CString (capacity + 1) :=
  ⟨[], Nat.zero_lt_succ capacity, fun _ h => absurd h List.not_mem_nil⟩

@[ext] theorem CString.ext {capacity : Nat} {s t : CString capacity}
    (h : s.bytes = t.bytes) : s = t := by
  cases s
  cases t
  congr

/-- No byte before the first terminator is zero. -/
theorem ne_zero_of_mem_take_memchrNul {memory : List UInt8} {b : UInt8}
    (h : b ∈ memory.take ((memchrNul memory).getD 0)) : b ≠ 0 := by
  rcases hfind : memchrNul memory with _ | n
  · rw [hfind] at h
    simp at h
  · rw [hfind, Option.getD_some, List.mem_take_iff_getElem] at h
    obtain ⟨j, hj, rfl⟩ := h
    rw [memchrNul, List.findIdx?_eq_some_iff_getElem] at hfind
    obtain ⟨_, _, hbefore⟩ := hfind
    simpa using hbefore j (by omega)

/-- A terminated string is found at its own length, whatever follows it. -/
theorem memchrNul_cstring {capacity : Nat} (s : CString capacity) (tail : List UInt8) :
    memchrNul (s.bytes ++ 0 :: tail) = some s.bytes.length := by
  rw [memchrNul, List.findIdx?_eq_some_iff_getElem]
  refine ⟨by simp, by simp, ?_⟩
  intro j hj
  rw [List.getElem_append_left hj]
  simpa using s.nonzero _ (List.getElem_mem hj)

/-! ## `src/common/crc32.c` -/

/-- One round of the inner loop of `devmgr_crc32_update`. -/
def crc32Round (state : UInt32) : UInt32 :=
  let mask : UInt32 := 0 - (state &&& 1)
  (state >>> 1) ^^^ (0xEDB88320 &&& mask)

/-- The inner loop, `rounds` times. -/
def crc32Rounds : Nat → UInt32 → UInt32
  | 0, state => state
  | rounds + 1, state => crc32Rounds rounds (crc32Round state)

/-- `devmgr_crc32_update`. -/
def crc32Update (state : UInt32) (data : List UInt8) : UInt32 :=
  data.foldl (fun state byte => crc32Rounds 8 (state ^^^ byte.toUInt32)) state

/-- `devmgr_crc32_finish`. -/
def crc32Finish (state : UInt32) : UInt32 :=
  state ^^^ 0xFFFFFFFF

/-- `devmgr_crc32`. -/
def crc32 (data : List UInt8) : UInt32 :=
  crc32Finish (crc32Update 0xFFFFFFFF data)

/-- The check value of `docs/protocol.md`, for ASCII `123456789`. -/
example : crc32 [0x31, 0x32, 0x33, 0x34, 0x35, 0x36, 0x37, 0x38, 0x39] = 0xCBF43926 := by
  decide +kernel

end Devmgr
