import DeviceManager.Simulator.Replay
import DeviceManager.Stm32.Protocol
import DeviceManager.Stm32.Retransmission

/-!
# The two devices on `FW_DATA`

The simulator and the bootloader implement the same transfer.  `Corresponds` relates their
states: both receive, in the same session, at the same offset of the same bytes.

* `MemoryHooks`: the flash hooks read and write as a memory does on the range of the image.
* `duplicateMatches_iff`: the comparison in blocks of 32 bytes is one comparison of the whole
  range, as `memcmp` makes it.
* `dataExpected_iff`, `dataInRange_iff` and `conflicts_iff`: the checks agree, although one
  side computes in 32 bits.
* `fwData_agreement`: the same response, and states that correspond again.
-/

namespace Link

open Devmgr
open Simulator (State Reply dataOffset dataBytes fwData onFrame)
open Stm32 (FlashOps UpdateContext FrameView Handled readMemory writeMemory viewOf DataExpected
  DataInRange duplicateMatches handleData respond updateHandle)

variable {σ : Type}

/-- The hooks read and write as a memory does, on the first `size` bytes.  `contents` is what
the memory holds. -/
structure MemoryHooks (ops : FlashOps σ) (contents : σ → Nat → UInt8) (size : Nat) : Prop where
  read : ∀ flash (offset : UInt32) (count : Nat), offset.toNat + count ≤ size →
    (ops.read flash offset count).1 = 0 ∧
      (ops.read flash offset count).2.1.take count =
        readMemory (contents flash) offset.toNat count ∧
      contents (ops.read flash offset count).2.2 = contents flash
  write : ∀ flash (offset : UInt32) (data : List UInt8), offset.toNat + data.length ≤ size →
    (ops.write flash offset data).1 = 0 ∧
      contents (ops.write flash offset data).2 = writeMemory (contents flash) offset.toNat data

/-- Both devices receive the same image, and have the same part of it. -/
structure Corresponds (contents : σ → Nat → UInt8) (state : State) (update : UpdateContext)
    (flash : σ) : Prop where
  upgrading : state.firmwareUpgrading = true
  receiving : update.state = .receiving
  sessionId : state.firmwareSessionId = update.sessionId
  imageSize : state.flashSize = update.imageSize.toNat
  chunkSize : state.firmwareChunkSize = update.chunkSize
  offset : state.firmwareOffset = update.nextOffset
  flash : state.contents = readMemory (contents flash) 0 update.imageSize.toNat

section Memory

variable {ops : FlashOps σ} {contents : σ → Nat → UInt8} {size : Nat}

/-- The comparison in blocks is one comparison of the whole range. -/
theorem duplicateMatches_iff (hooks : MemoryHooks ops contents size) (hsize : size < 2 ^ 32)
    (flash : σ) (offset : UInt32) (data : List UInt8)
    (hinside : offset.toNat + data.length ≤ size) :
    ((duplicateMatches ops flash offset data).1 = true ↔
      readMemory (contents flash) offset.toNat data.length = data) ∧
    contents (duplicateMatches ops flash offset data).2 = contents flash := by
  fun_induction duplicateMatches ops flash offset data with
  | case1 flash offset data hnil =>
    obtain rfl : data = [] := List.length_eq_zero_iff.mp hnil
    exact ⟨iff_of_true rfl rfl, rfl⟩
  | case2 flash offset data hsome count read hdiffers =>
    obtain ⟨hzero, hread, hsame⟩ := hooks.read flash offset count (by omega)
    refine ⟨iff_of_false Bool.false_ne_true ?_, hsame⟩
    intro hequal
    rcases hdiffers with hfailed | hblock
    · exact hfailed hzero
    · refine hblock (hread.trans ?_)
      have hsplit := Stm32.readMemory_append (contents flash) offset.toNat count
        (data.length - count)
      rw [Nat.add_sub_cancel' (Nat.min_le_left _ _), hequal] at hsplit
      rw [hsplit, List.take_left' (Stm32.readMemory_length _ _ _)]
  | case3 flash offset data hsome count read hmatches ih =>
    obtain ⟨hzero, hread, hsame⟩ := hooks.read flash offset count (by omega)
    have hcount : count ≤ data.length := Nat.min_le_left _ _
    have hblock : readMemory (contents flash) offset.toNat count = data.take count := by
      rw [not_or, not_not, not_not] at hmatches
      exact hread.symm.trans hmatches.2
    have hnext : (offset + count.toUInt32).toNat = offset.toNat + count := by
      simp only [UInt32.toNat_add, Nat.toUInt32, UInt32.toNat_ofNat']
      omega
    obtain ⟨hrest, hkept⟩ := ih (by rw [hnext, List.length_drop]; omega)
    refine ⟨hrest.trans ?_, hkept.trans hsame⟩
    have hsplit := Stm32.readMemory_append (contents flash) offset.toNat count
      (data.length - count)
    rw [Nat.add_sub_cancel' hcount] at hsplit
    rw [hsplit, hblock, hnext, hsame, List.length_drop]
    constructor
    · intro hequal
      rw [hequal, List.take_append_drop]
    · intro hequal
      have hdrop := congrArg (List.drop count) hequal
      rwa [List.drop_left' (List.length_take_of_le hcount)] at hdrop

end Memory

section Checks

variable {contents : σ → Nat → UInt8} {state : State} {update : UpdateContext} {flash : σ}
  {frame : Frame}

theorem dataExpected_iff (h : Corresponds contents state update flash) :
    DataExpected update (viewOf frame) ↔ ¬ state.refusesData frame := by
  rw [DataExpected, State.refusesData, h.upgrading, h.receiving, h.sessionId]
  simp only [ne_eq, not_true_eq_false, false_or]
  rfl

theorem dataInRange_iff (h : Corresponds contents state update flash) :
    DataInRange update (viewOf frame) ↔ ¬ state.outOfRange frame := by
  have hpayload := frame.payload_le
  have hlength : (dataBytes frame).length.toUInt32.toNat = (dataBytes frame).length := by
    have hdata : (dataBytes frame).length = frame.payload.length - 8 := List.length_drop
    simp only [Nat.toUInt32, UInt32.toNat_ofNat']
    rw [maxPayload] at hpayload
    omega
  have hchunk : update.chunkSize.toUInt32.toNat = update.chunkSize.toNat := rfl
  rw [DataInRange, State.outOfRange, h.chunkSize, h.imageSize]
  show ¬ ((dataBytes frame).length.toUInt32 > update.chunkSize.toUInt32 ∨
    dataOffset frame > update.imageSize ∨
    (dataBytes frame).length.toUInt32 > update.imageSize - dataOffset frame) ↔ _
  simp only [gt_iff_lt, not_or, UInt32.not_lt, Nat.not_lt, UInt32.le_iff_toNat_le, hlength, hchunk]
  refine and_congr_right fun _ => and_congr_right fun hoffset => ?_
  rw [UInt32.toNat_sub_of_le _ _ (UInt32.le_iff_toNat_le.mpr hoffset)]

/-- The end of a chunk in range does not wrap. -/
theorem offset_end (h : Corresponds contents state update flash)
    (hrange : ¬ state.outOfRange frame) :
    (dataOffset frame + (dataBytes frame).length.toUInt32).toNat =
      (dataOffset frame).toNat + (dataBytes frame).length := by
  have hsize := update.imageSize.toNat_lt
  simp only [State.outOfRange, not_or, h.imageSize] at hrange
  simp only [UInt32.toNat_add, Nat.toUInt32, UInt32.toNat_ofNat']
  omega

/-- With room for it, a response is the encoding of its frame. -/
theorem respond_eq (update : UpdateContext) (flash : σ) {capacity : Nat} (hcapacity : 24 ≤ capacity)
    (answer : Frame) (hflags : answer.flags = Flag.response)
    (hsequence : answer.sequence = frame.sequence) (hpayload : answer.payload.length ≤ 8) :
    respond update flash (viewOf frame) capacity answer.type answer.payload =
      ⟨0, frameBytes answer, update, flash⟩ := by
  have hencode := Stm32.frameEncode_of_le answer
    (show headerSize + answer.payload.length + crcSize ≤ capacity by
      simp only [headerSize, crcSize]
      omega)
  rw [hflags, hsequence] at hencode
  show Handled.mk _ _ _ _ = _
  rw [show Stm32.frameEncode answer.type Flag.response (viewOf frame).sequence answer.payload
    capacity = _ from hencode]

end Checks

/-! ## One request -/

/-- The answer of the bootloader is that of the simulator, and the states correspond again. -/
structure Agrees (contents : σ → Nat → UInt8) (answer : Frame × State) (handled : Handled σ) :
    Prop where
  result : handled.result = 0
  response : handled.response = frameBytes answer.1
  states : Corresponds contents answer.2 handled.update handled.flash

section Data

variable {ops : FlashOps σ} {contents : σ → Nat → UInt8} {state : State} {update : UpdateContext}
  {flash : σ} {frame : Frame} {capacity : Nat}

/-- A read of the flash leaves the correspondence. -/
theorem Corresponds.reread (h : Corresponds contents state update flash) {flash' : σ}
    (hflash : contents flash' = contents flash) : Corresponds contents state update flash' :=
  ⟨h.upgrading, h.receiving, h.sessionId, h.imageSize, h.chunkSize, h.offset, hflash ▸ h.flash⟩

theorem Agrees.nack (h : Corresponds contents state update flash) (hcapacity : 24 ≤ capacity)
    {flash' : σ} (hflash : contents flash' = contents flash) (error : Stm32.NackError) :
    Agrees contents ((Reply.nack error.code).frame frame, state)
      (Stm32.nack update flash' (viewOf frame) capacity error) := by
  have hrespond := respond_eq update flash' hcapacity ((Reply.nack error.code).frame frame) rfl rfl
    (by simp [Reply.frame])
  rw [Stm32.nack, show respond update flash' (viewOf frame) capacity Msg.nack
    (putLe16 error.code) = _ from hrespond]
  exact ⟨rfl, rfl, h.reread hflash⟩

/-- The comparison in blocks is the `memcmp` of the simulator. -/
theorem duplicateMatches_contents (h : Corresponds contents state update flash)
    (hooks : MemoryHooks ops contents update.imageSize.toNat) {offset : UInt32} {data : List UInt8}
    (hinside : offset.toNat + data.length ≤ state.flashSize) :
    ((duplicateMatches ops flash offset data).1 = true ↔
      (state.contents.drop offset.toNat).take data.length = data) ∧
    contents (duplicateMatches ops flash offset data).2 = contents flash := by
  rw [h.imageSize] at hinside
  rw [h.flash, Stm32.readMemory_window _ hinside]
  exact duplicateMatches_iff hooks update.imageSize.toNat_lt flash offset data hinside

/-- An accepted request; the injected outage is not a part of what corresponds. -/
theorem Agrees.word (h : Corresponds contents state update flash) (hcapacity : 24 ≤ capacity)
    (env : Simulator.Env) (value : UInt32) :
    Agrees contents ((Reply.word value).frame frame, state.injectOutage env)
      (respond update flash (viewOf frame) capacity frame.type (putLe32 value)) := by
  have hrespond := respond_eq update flash hcapacity ((Reply.word value).frame frame) rfl rfl
    (by simp [Reply.frame, Reply.word])
  rw [show respond update flash (viewOf frame) capacity frame.type (putLe32 value) = _
    from hrespond]
  obtain ⟨injected, deadline, hinjected, _⟩ := Simulator.injectOutage_settled env env state
  rw [hinjected]
  exact ⟨rfl, rfl, h.upgrading, h.receiving, h.sessionId, h.imageSize, h.chunkSize, h.offset,
    h.flash⟩

/-- Both devices write the chunk. -/
theorem Corresponds.written (h : Corresponds contents state update flash)
    (hooks : MemoryHooks ops contents update.imageSize.toNat)
    (hexpected : ¬ state.refusesData frame) (hrange : ¬ state.outOfRange frame) :
    (ops.write flash (dataOffset frame) (dataBytes frame)).1 = 0 ∧
      Corresponds contents (state.written frame)
        { update with nextOffset := update.nextOffset + (dataBytes frame).length.toUInt32 }
        (ops.write flash (dataOffset frame) (dataBytes frame)).2 := by
  simp only [State.refusesData, not_or, not_le] at hexpected
  simp only [State.outOfRange, not_or] at hrange
  have hlength : (dataBytes frame).length = frame.payload.length - 8 := List.length_drop
  have hinside : (dataOffset frame).toNat + (dataBytes frame).length ≤ state.flashSize := by
    omega
  -- a chunk that is not empty fits, so there is a flash
  have hflash : state.flash.isSome = true := by
    rcases hsome : state.flash with _ | memory
    · simp only [State.flashSize, State.contents, hsome, Option.getD_none, List.length_nil]
        at hinside
      omega
    · rfl
  obtain ⟨hresult, hcontents⟩ := hooks.write flash (dataOffset frame) (dataBytes frame)
    (h.imageSize ▸ hinside)
  refine ⟨hresult, h.upgrading, h.receiving, h.sessionId, ?_, h.chunkSize, ?_, ?_⟩
  · exact (Simulator.program_contents hflash hinside).1.trans h.imageSize
  · exact congrArg (· + (dataBytes frame).length.toUInt32) h.offset
  · rw [State.written, Simulator.program_memory hflash, hcontents,
      Stm32.readMemory_writeMemory_within _ (h.imageSize ▸ hinside), h.flash]

/-- Both devices find the same conflicts between a chunk behind the offset and the flash. -/
theorem conflicts_iff (h : Corresponds contents state update flash)
    (hooks : MemoryHooks ops contents update.imageSize.toNat) (hrange : ¬ state.outOfRange frame) :
    (state.conflicts frame ↔
      dataOffset frame + (dataBytes frame).length.toUInt32 > state.firmwareOffset ∨
      ¬ (duplicateMatches ops flash (dataOffset frame) (dataBytes frame)).1 = true) ∧
    contents (duplicateMatches ops flash (dataOffset frame) (dataBytes frame)).2 =
      contents flash := by
  have hinside : (dataOffset frame).toNat + (dataBytes frame).length ≤ state.flashSize := by
    simp only [State.outOfRange, not_or] at hrange
    omega
  obtain ⟨hmatches, hkept⟩ := duplicateMatches_contents h hooks hinside
  have hend : dataOffset frame + (dataBytes frame).length.toUInt32 > state.firmwareOffset ↔
      (dataOffset frame).toNat + (dataBytes frame).length > state.firmwareOffset.toNat := by
    rw [gt_iff_lt, UInt32.lt_iff_toNat_lt, offset_end h hrange]
  exact ⟨or_congr hend.symm (not_congr hmatches.symm), hkept⟩

/-- The two handlers of `FW_DATA`. -/
theorem handleData_agrees (h : Corresponds contents state update flash)
    (hooks : MemoryHooks ops contents update.imageSize.toNat) (hcapacity : 24 ≤ capacity)
    (env : Simulator.Env) :
    Agrees contents ((fwData env frame state).1.frame frame, (fwData env frame state).2)
      (handleData ops update flash (viewOf frame) capacity) := by
  have hoffset := h.offset
  by_cases hrefused : state.refusesData frame
  · have hunexpected : ¬ DataExpected update (viewOf frame) := by
      rw [dataExpected_iff h]
      exact not_not.mpr hrefused
    rw [Simulator.fwData_refused hrefused, handleData, if_pos (not_not.mp hunexpected)]
    exact Agrees.nack h hcapacity rfl .invalidState
  have hexpected := (dataExpected_iff h).mpr hrefused
  unfold handleData
  rw [if_neg hexpected]
  dsimp only
  by_cases hrange : state.outOfRange frame
  · have houtside : ¬ DataInRange update (viewOf frame) := by
      rw [dataInRange_iff h]
      exact not_not.mpr hrange
    rw [Simulator.fwData_outside hrefused hrange, if_pos (not_not.mp houtside)]
    exact Agrees.nack h hcapacity rfl .offset
  rw [if_neg ((dataInRange_iff h).mpr hrange)]
  rw [show (viewOf frame).offset = dataOffset frame from rfl,
    show (viewOf frame).data = dataBytes frame from rfl, ← h.offset]
  by_cases hbehind : dataOffset frame < state.firmwareOffset
  · obtain ⟨hconflicts, hkept⟩ := conflicts_iff h hooks hrange
    rw [if_pos hbehind]
    by_cases hend : dataOffset frame + (dataBytes frame).length.toUInt32 > state.firmwareOffset
    · rw [if_pos hend, Simulator.fwData_conflict hrefused hrange hbehind
        (hconflicts.mpr (.inl hend))]
      exact Agrees.nack h hcapacity rfl .offset
    rw [if_neg hend]
    by_cases hsame : (duplicateMatches ops flash (dataOffset frame) (dataBytes frame)).1 = true
    · have hagree : ¬ state.conflicts frame := by
        rw [hconflicts, not_or, not_not]
        exact ⟨hend, hsame⟩
      rw [if_neg (not_not.mpr hsame), Simulator.fwData_duplicate hrefused hrange hbehind hagree]
      exact Agrees.word (h.reread hkept) hcapacity env _
    · rw [if_pos hsame, Simulator.fwData_conflict hrefused hrange hbehind
        (hconflicts.mpr (.inr hsame))]
      exact Agrees.nack h hcapacity hkept .offset
  rw [if_neg hbehind]
  by_cases hnext : dataOffset frame = state.firmwareOffset
  · obtain ⟨hresult, hwritten⟩ := h.written hooks hrefused hrange
    rw [if_pos hnext, if_neg (not_not.mpr hresult), Simulator.fwData_written hrefused hrange hnext]
    rw [hwritten.offset, h.offset]
    exact Agrees.word hwritten hcapacity env _
  · rw [if_neg hnext, Simulator.fwData_gap hrefused hrange hbehind hnext]
    exact Agrees.nack h hcapacity rfl .offset

/-- In corresponding states, the same `FW_DATA` gets the same response from both devices, the
type, the payload and the code of a refusal included, and leaves corresponding states.  The
comparison in blocks finds what the `memcmp` finds, for every range of the image. -/
theorem fwData_agreement (h : Corresponds contents state update flash)
    (hooks : MemoryHooks ops contents update.imageSize.toNat) (htype : frame.type = Msg.fwData)
    (hcapacity : 24 ≤ capacity) (env : Simulator.Env) :
    Agrees contents (onFrame env frame state)
      (updateHandle ops update flash (viewOf frame) capacity) ∧
    ∀ (offset : UInt32) (data : List UInt8), offset.toNat + data.length ≤ state.flashSize →
      ((duplicateMatches ops flash offset data).1 = true ↔
        (state.contents.drop offset.toNat).take data.length = data) := by
  refine ⟨?_, fun offset data hinside => (duplicateMatches_contents h hooks hinside).1⟩
  have hcounted : Corresponds contents { state with rxFrames := state.rxFrames + 1 } update flash :=
    ⟨h.upgrading, h.receiving, h.sessionId, h.imageSize, h.chunkSize, h.offset, h.flash⟩
  rw [(Stm32.updateHandle_dispatch ops update flash (viewOf frame) capacity).2.1 htype]
  show Agrees contents ((Simulator.handle env frame _).1.frame frame,
    (Simulator.handle env frame _).2) _
  rw [(Simulator.handle_dispatch env frame _).1 htype]
  exact handleData_agrees hcounted hooks hcapacity env

end Data

theorem memoryFlash_hooks (size : Nat) :
    MemoryHooks (Stm32.memoryFlash .none) Stm32.Flash.memory size where
  read flash offset count _ := by
    refine ⟨rfl, ?_, rfl⟩
    exact List.take_of_length_le (Stm32.readMemory_length _ _ _).le
  write _ _ _ _ := ⟨rfl, rfl⟩

/-- Both devices take the first of two bytes. -/
theorem fwData_agreement_first_byte :
    let state : State := { Simulator.init ⟨-1, false⟩ with
      firmwareUpgrading := true, flash := some [0, 0], firmwareSessionId := 1,
      firmwareChunkSize := 1 }
    let update : UpdateContext := { Stm32.updateInit with
      state := .receiving, sessionId := 1, imageSize := 2, chunkSize := 1 }
    let frame := (Simulator.byteEvent 1 0 0xAB).2
    let answer := onFrame ⟨0, none⟩ frame state
    let handled := updateHandle (Stm32.memoryFlash .none) update ⟨fun _ => 0, []⟩ (viewOf frame) 24
    handled.response = frameBytes answer.1 ∧ answer.2.contents = [0xAB, 0] ∧
      answer.2.contents =
        readMemory handled.flash.memory 0 handled.update.imageSize.toNat := by
  intro state update frame answer handled
  have hagrees := (fwData_agreement (⟨rfl, rfl, rfl, rfl, rfl, rfl, rfl⟩ :
    Corresponds Stm32.Flash.memory state update ⟨fun _ => 0, []⟩) (memoryFlash_hooks _)
    (show frame.type = Msg.fwData from rfl) (Nat.le_refl 24) ⟨0, none⟩).1
  exact ⟨hagrees.response, by decide +kernel, hagrees.states.flash⟩

end Link
