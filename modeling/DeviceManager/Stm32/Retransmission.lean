import DeviceManager.Stm32.Integrity

/-!
# Retransmitted requests at the bootloader

The host sends a request again when the response is lost, so the bootloader gets
it twice.  `Repeats` says that the second handling answers as the first did and
changes nothing.

A handler that changes nothing repeats (`Repeats.of_unchanged`).  Of those that
do, `handle_begin` recognises the transfer it has just started, `handle_data`
finds the chunk it has just written, and `FW_ACTIVATE` stays in `VERIFIED`.
`FW_END` and `FW_VERIFY` leave the state that their own guards ask for, and the
second copy is refused.  `updateHandle_repeats_iff` is the exact line between
the two.
-/

namespace Stm32

open Devmgr

/-- The same handler again, on what the first handling left, answers the same and
leaves the update context and the flash contents alone. -/
def Repeats (handler : UpdateContext → Flash → Handled Flash) (update : UpdateContext)
    (flash : Flash) : Prop :=
  let first := handler update flash
  let second := handler first.update first.flash
  second.result = first.result ∧ second.response = first.response ∧
    second.update = first.update ∧ second.flash.memory = first.flash.memory

theorem Repeats.of_unchanged {handler : UpdateContext → Flash → Handled Flash}
    {update : UpdateContext} {flash : Flash} (hupdate : (handler update flash).update = update)
    (hflash : (handler update flash).flash = flash) : Repeats handler update flash := by
  unfold Repeats
  dsimp only
  rw [hupdate, hflash]
  exact ⟨rfl, rfl, hupdate, congrArg Flash.memory hflash⟩

/-! ## The flash as memory -/

theorem readMemory_length (memory : Nat → UInt8) (offset length : Nat) :
    (readMemory memory offset length).length = length := by
  simp [readMemory]

/-- What was written is read back, from any position inside. -/
theorem readMemory_writeMemory (memory : Nat → UInt8) (offset : Nat) (data : List UInt8)
    {start count : Nat} (h : start + count ≤ data.length) :
    readMemory (writeMemory memory offset data) (offset + start) count =
      (data.drop start).take count := by
  have hlength : ((data.drop start).take count).length = count := by
    rw [List.length_take, List.length_drop]
    omega
  refine List.ext_getElem (by rw [readMemory_length, hlength]) ?_
  intro i hi _
  rw [readMemory_length] at hi
  have hinside : offset ≤ offset + start + i ∧ offset + start + i < offset + data.length := by
    omega
  have hindex : offset + start + i - offset = start + i := by omega
  simp only [readMemory, List.getElem_map, List.getElem_range, writeMemory, if_pos hinside,
    hindex, List.getElem_take, List.getElem_drop]
  rw [List.getD_eq_getElem?_getD, List.getElem?_eq_getElem (by omega), Option.getD_some]

theorem readMemory_append (memory : Nat → UInt8) (offset first second : Nat) :
    readMemory memory offset (first + second) =
      readMemory memory offset first ++ readMemory memory (offset + first) second := by
  simp [readMemory, List.range_add, Nat.add_assoc]

/-- A write leaves what is in front of it. -/
theorem readMemory_writeMemory_before (memory : Nat → UInt8) (offset : Nat) (data : List UInt8) :
    readMemory (writeMemory memory offset data) 0 offset = readMemory memory 0 offset := by
  refine List.map_congr_left fun i hi => ?_
  have hbefore : i < offset := List.mem_range.mp hi
  exact if_neg (by omega)

/-- A window of the first `size` bytes of a memory. -/
theorem readMemory_window (memory : Nat → UInt8) {offset count size : Nat}
    (h : offset + count ≤ size) :
    ((readMemory memory 0 size).drop offset).take count = readMemory memory offset count := by
  have hsplit := readMemory_append memory 0 offset (size - offset)
  rw [Nat.add_sub_cancel' (by omega), Nat.zero_add] at hsplit
  have hwindow := readMemory_append memory offset count (size - offset - count)
  rw [Nat.add_sub_cancel' (by omega)] at hwindow
  rw [hsplit, List.drop_left' (readMemory_length _ _ _), hwindow,
    List.take_left' (readMemory_length _ _ _)]

/-- A write leaves what is behind it. -/
theorem readMemory_writeMemory_behind (memory : Nat → UInt8) (offset count : Nat)
    (data : List UInt8) :
    readMemory (writeMemory memory offset data) (offset + data.length) count =
      readMemory memory (offset + data.length) count := by
  refine List.map_congr_left fun i _ => ?_
  exact if_neg (by omega)

/-- A write into the first `size` bytes of a memory. -/
theorem readMemory_writeMemory_within (memory : Nat → UInt8) {offset size : Nat}
    {data : List UInt8} (h : offset + data.length ≤ size) :
    readMemory (writeMemory memory offset data) 0 size =
      (readMemory memory 0 size).take offset ++ data ++
        (readMemory memory 0 size).drop (offset + data.length) := by
  have hsplit : ∀ memory, readMemory memory 0 size =
      readMemory memory 0 offset ++ readMemory memory offset data.length ++
        readMemory memory (offset + data.length) (size - (offset + data.length)) := by
    intro memory
    have hmiddle := readMemory_append memory 0 offset data.length
    have hall := readMemory_append memory 0 (offset + data.length)
      (size - (offset + data.length))
    rw [Nat.zero_add] at hmiddle hall
    rw [Nat.add_sub_cancel' h, hmiddle] at hall
    exact hall
  have hdata := readMemory_writeMemory memory offset data
    (show 0 + data.length ≤ data.length by omega)
  rw [Nat.add_zero, List.drop_zero, List.take_length] at hdata
  have hfront := readMemory_length memory 0 offset
  have hmiddle := readMemory_length memory offset data.length
  rw [hsplit (writeMemory memory offset data), readMemory_writeMemory_before, hdata,
    readMemory_writeMemory_behind, hsplit memory]
  congr 1
  · rw [List.append_assoc, List.take_left' hfront]
  · rw [List.drop_left' (by rw [List.length_append, hfront, hmiddle])]

/-- The bytes just written pass for a duplicate.  The induction is on what is left
to compare, `data.drop start`. -/
theorem duplicateMatches_written (flash : Flash) (memory : Nat → UInt8) (offset : UInt32)
    (data : List UInt8) (hflash : flash.memory = writeMemory memory offset.toNat data)
    (hrange : offset.toNat + data.length < 2 ^ 32) (start : Nat) (hstart : start ≤ data.length) :
    (duplicateMatches (memoryFlash .none) flash (offset + start.toUInt32) (data.drop start)).1 =
      true := by
  induction hleft : data.length - start using Nat.strong_induction_on generalizing start with
  | _ left ih =>
    rw [duplicateMatches]
    by_cases hdone : (data.drop start).length = 0
    · rw [if_pos hdone]
    · rw [if_neg hdone]
      rw [List.length_drop] at hdone
      have hcount : min (data.drop start).length 32 = min (data.length - start) 32 := by
        rw [List.length_drop]
      have hoffset : (offset + start.toUInt32).toNat = offset.toNat + start := by
        simp only [UInt32.toNat_add, Nat.toUInt32, UInt32.toNat_ofNat']
        omega
      have hread : readMemory flash.memory (offset + start.toUInt32).toNat
          (min (data.length - start) 32) =
          (data.drop start).take (min (data.length - start) 32) := by
        rw [hflash, hoffset]
        exact readMemory_writeMemory memory offset.toNat data (by omega)
      have hnext : offset + start.toUInt32 + (min (data.length - start) 32).toUInt32 =
          offset + (start + min (data.length - start) 32).toUInt32 := by
        rw [UInt32.add_assoc]
        exact congrArg _ (UInt32.ofNat_add _ _).symm
      simp only [memoryFlash, Faults.none, hcount, hread, List.take_take, Nat.min_self, ne_eq,
        not_true_eq_false, or_self, if_false, List.drop_drop]
      rw [hnext]
      exact ih (data.length - (start + min (data.length - start) 32)) (by omega) _ (by omega) rfl

/-! ## The handlers -/

section Handlers

variable (update : UpdateContext) (flash : Flash) (request : FrameView) (capacity : Nat)

theorem handleBegin_repeats :
    Repeats (fun update flash => handleBegin (memoryFlash .none) update flash request capacity)
      update flash := by
  rcases hparse : parseBegin request.payload with _ | begin
  · refine Repeats.of_unchanged ?_ ?_
    all_goals
      simp only [handleBegin, hparse]
      rfl
  by_cases hsame : update.state = .receiving ∧ begin.size = update.imageSize ∧
      begin.crc = update.imageCrc ∧ begin.version = update.pendingVersion
  · refine Repeats.of_unchanged ?_ ?_
    all_goals
      simp only [handleBegin, hparse, if_pos hsame]
      rfl
  · -- The first handling starts the transfer that the second one recognises.
    unfold Repeats
    simp only [handleBegin, hparse, if_neg hsame, memoryFlash, Faults.none, ne_eq,
      not_true_eq_false, if_false, respond, and_self, if_true]

/-- The guard of `handle_data` is passed. -/
def DataExpected : Prop :=
  ¬ (update.state ≠ .receiving ∨ request.payload.length ≤ 8 ∨
    getLe32 request.payload ≠ update.sessionId)

/-- The chunk lies inside the image and is not too long. -/
def DataInRange : Prop :=
  ¬ (request.data.length.toUInt32 > update.chunkSize.toUInt32 ∨
    request.offset > update.imageSize ∨
    request.data.length.toUInt32 > update.imageSize - request.offset)

variable {update request}

/-- A chunk in range has at least one byte, and the offset behind it does not
wrap. -/
theorem data_bounds (hexpected : DataExpected update request)
    (hrange : DataInRange update request) :
    0 < request.data.length ∧
      (request.offset + request.data.length.toUInt32).toNat =
        request.offset.toNat + request.data.length ∧
      request.offset.toNat + request.data.length < 2 ^ 32 := by
  have hpayload := request.payload_lt
  simp only [DataExpected, not_or] at hexpected
  have hdata : request.data.length = request.payload.length - 8 := List.length_drop
  have hlength : request.data.length.toUInt32.toNat = request.data.length := by
    simp only [Nat.toUInt32, UInt32.toNat_ofNat']
    omega
  simp only [DataInRange, not_or, gt_iff_lt, UInt32.not_lt] at hrange
  have hoffset := UInt32.le_iff_toNat_le.mp hrange.2.1
  have hroom := UInt32.le_iff_toNat_le.mp hrange.2.2
  rw [UInt32.toNat_sub_of_le _ _ hrange.2.1, hlength] at hroom
  have hsize := update.imageSize.toNat_lt
  refine ⟨by omega, ?_, by omega⟩
  rw [UInt32.toNat_add, hlength]
  omega

variable {flash}

/-- The first copy of a chunk at the next offset, over any hooks that write it. -/
theorem handleData_write {σ : Type} (ops : FlashOps σ) (flash : σ)
    (hexpected : DataExpected update request) (hrange : DataInRange update request)
    (hoffset : request.offset = update.nextOffset)
    (hwritten : (ops.write flash request.offset request.data).1 = 0) :
    handleData ops update flash request capacity =
      respond { update with nextOffset := update.nextOffset + request.data.length.toUInt32 }
        (ops.write flash request.offset request.data).2 request capacity request.type
        (putLe32 (update.nextOffset + request.data.length.toUInt32)) := by
  unfold handleData
  rw [if_neg hexpected]
  dsimp only
  rw [if_neg hrange, if_neg (by rw [hoffset]; exact UInt32.lt_irrefl _), if_pos hoffset,
    if_neg (not_not.mpr hwritten)]

/-- A copy of a chunk that is in the flash already. -/
theorem handleData_duplicate (hexpected : DataExpected update request)
    (hrange : DataInRange update request) (hbehind : request.offset < update.nextOffset)
    (hend : request.offset + request.data.length.toUInt32 ≤ update.nextOffset)
    (hmatches : (duplicateMatches (memoryFlash .none) flash request.offset request.data).1) :
    handleData (memoryFlash .none) update flash request capacity =
      respond update flash request capacity request.type (putLe32 update.nextOffset) := by
  unfold handleData
  rw [if_neg hexpected]
  dsimp only
  rw [if_neg hrange, if_pos hbehind, if_neg (UInt32.not_lt.mpr hend), if_neg (not_not.mpr hmatches),
    duplicateMatches_flash]

/-- The first copy writes the chunk, the second one finds it in the flash. -/
theorem handleData_repeats_written (hexpected : DataExpected update request)
    (hrange : DataInRange update request) (hoffset : request.offset = update.nextOffset) :
    Repeats (fun update flash => handleData (memoryFlash .none) update flash request capacity)
      update flash := by
  obtain ⟨hpositive, hnext, hbound⟩ := data_bounds hexpected hrange
  have hbehind : request.offset < update.nextOffset + request.data.length.toUInt32 := by
    rw [UInt32.lt_iff_toNat_lt, ← hoffset, hnext]
    omega
  have hmatches := duplicateMatches_written
    { flash with memory := writeMemory flash.memory request.offset.toNat request.data }
    flash.memory request.offset request.data rfl hbound 0 (Nat.zero_le _)
  have hzero : request.offset + (0 : Nat).toUInt32 = request.offset := UInt32.add_zero _
  rw [hzero, List.drop_zero] at hmatches
  have hsecond : handleData (memoryFlash .none)
      { update with nextOffset := update.nextOffset + request.data.length.toUInt32 }
      ((memoryFlash .none).write flash request.offset request.data).2 request capacity = _ :=
    handleData_duplicate capacity hexpected hrange hbehind
      (by rw [hoffset]; exact UInt32.le_refl _) hmatches
  unfold Repeats
  dsimp only
  rw [handleData_write capacity (memoryFlash .none) flash hexpected hrange hoffset rfl]
  dsimp only [respond]
  rw [hsecond]
  exact ⟨rfl, rfl, rfl, rfl⟩

variable (update flash request)

theorem handleData_repeats :
    Repeats (fun update flash => handleData (memoryFlash .none) update flash request capacity)
      update flash := by
  by_cases hexpected : DataExpected update request
  · by_cases hrange : DataInRange update request
    · by_cases hoffset : request.offset = update.nextOffset
      · exact handleData_repeats_written capacity hexpected hrange hoffset
      · refine Repeats.of_unchanged ?_ ?_
        all_goals
          simp only [handleData, if_neg hexpected, if_neg hrange, if_neg hoffset]
          split_ifs
          all_goals first | rfl | exact duplicateMatches_flash flash _ _
    · refine Repeats.of_unchanged ?_ ?_
      all_goals
        simp only [handleData, if_neg hexpected, if_pos (not_not.mp hrange)]
        rfl
  · refine Repeats.of_unchanged ?_ ?_
    all_goals
      simp only [handleData, if_pos (not_not.mp hexpected)]
      rfl

theorem handleStatus_repeats :
    Repeats (fun update flash => handleStatus update flash request capacity) update flash := by
  refine Repeats.of_unchanged ?_ ?_
  all_goals
    unfold handleStatus
    split
    all_goals rfl

theorem handleActivate_repeats :
    Repeats (fun update flash => handleActivate (memoryFlash .none) update flash request capacity)
      update flash := by
  by_cases hstate : update.state = .verified
  · unfold Repeats
    simp only [handleActivate, hstate, memoryFlash, Faults.none, ne_eq, not_true_eq_false,
      if_false, respond, and_self]
  · refine Repeats.of_unchanged ?_ ?_
    all_goals
      simp only [handleActivate, ne_eq, hstate, not_false_eq_true, if_true]
      rfl

/-- Enough room for any response of the bootloader: eight bytes of payload. -/
theorem respond_response (type : UInt8) {payload : List UInt8} (hcapacity : 24 ≤ capacity)
    (hpayload : payload.length ≤ 8) :
    byteAt (respond update flash request capacity type payload).response 3 = type := by
  have hfits : ¬ (payload.length > maxPayload ∨
      capacity < headerSize + payload.length + crcSize) := by
    simp only [maxPayload, headerSize, crcSize]
    omega
  simp only [respond, frameEncode, dif_neg hfits]
  have hfields := frameBytes_fields ⟨type, Flag.response, request.sequence, payload,
    Nat.le_of_not_lt (not_or.mp hfits).1⟩ []
  rw [List.append_nil] at hfields
  exact hfields.2.2.1

/-- A response and a NACK are told apart by their types. -/
theorem not_repeats_of_nack {handler : UpdateContext → Flash → Handled Flash}
    (first : UpdateContext) (payload : List UInt8) (error : NackError)
    (hcapacity : 24 ≤ capacity) (hpayload : payload.length ≤ 8) (htype : request.type ≠ Msg.nack)
    (hfirst : handler update flash = respond first flash request capacity request.type payload)
    (hsecond : handler first flash = nack first flash request capacity error) :
    ¬ Repeats handler update flash := by
  rintro ⟨_, hresponse, _⟩
  rw [hfirst] at hresponse
  dsimp only [respond] at hresponse
  rw [hsecond] at hresponse
  have hnack : byteAt (nack first flash request capacity error).response 3 = Msg.nack :=
    respond_response first flash request capacity Msg.nack hcapacity (by simp)
  have hanswer := respond_response first flash request capacity request.type hcapacity hpayload
  rw [hresponse] at hnack
  exact htype (hanswer.symm.trans hnack)

theorem handleEnd_repeats_iff (hcapacity : 24 ≤ capacity) (htype : request.type = Msg.fwEnd) :
    Repeats (fun update flash => handleEnd update flash request capacity) update flash ↔
      ¬ (update.state = .receiving ∧ update.nextOffset = update.imageSize) := by
  by_cases hcomplete : update.state = .receiving ∧ update.nextOffset = update.imageSize
  · refine iff_of_false ?_ (not_not.mpr hcomplete)
    refine not_repeats_of_nack update flash request capacity { update with state := .transferred }
      [] .offset hcapacity (by simp) (by rw [htype]; decide) ?_ ?_
    · simp only [handleEnd, hcomplete.1, hcomplete.2, ne_eq, not_true_eq_false, or_self, if_false]
    · simp [handleEnd]
  · refine iff_of_true (Repeats.of_unchanged ?_ ?_) hcomplete
    all_goals
      have hguard : update.state ≠ .receiving ∨ update.nextOffset ≠ update.imageSize := by
        rwa [← not_and_or]
      simp only [handleEnd, if_pos hguard]
      rfl

theorem handleVerify_repeats_iff (hcapacity : 24 ≤ capacity)
    (htype : request.type = Msg.fwVerify) :
    Repeats (fun update flash => handleVerify (memoryFlash .none) update flash request capacity)
        update flash ↔
      ¬ (update.state = .transferred ∧
        flashCrc flash.memory update.imageSize = update.imageCrc) := by
  by_cases hstate : update.state = .transferred
  · by_cases hcrc : flashCrc flash.memory update.imageSize = update.imageCrc
    · refine iff_of_false ?_ (not_not.mpr ⟨hstate, hcrc⟩)
      refine not_repeats_of_nack update flash request capacity { update with state := .verified }
        (putLe32 update.imageCrc) .verify hcapacity (by simp) (by rw [htype]; decide) ?_ ?_
      · simp only [handleVerify, hstate, ne_eq, not_true_eq_false, if_false, memoryFlash, hcrc]
      · simp [handleVerify]
    · refine iff_of_true (Repeats.of_unchanged ?_ ?_) (fun h => hcrc h.2)
      all_goals
        simp only [handleVerify, hstate, ne_eq, not_true_eq_false, if_false, memoryFlash, hcrc,
          not_false_eq_true, if_true]
        rfl
  · refine iff_of_true (Repeats.of_unchanged ?_ ?_) (fun h => hstate h.1)
    all_goals
      simp only [handleVerify, ne_eq, hstate, not_false_eq_true, if_true]
      rfl

end Handlers

/-- The requests of a firmware update, up to the reboot. -/
def isUpdateRequest (type : UInt8) : Prop :=
  type = Msg.enterBootloader ∨ type = Msg.fwBegin ∨ type = Msg.fwData ∨ type = Msg.fwStatus ∨
    type = Msg.fwEnd ∨ type = Msg.fwVerify ∨ type = Msg.fwActivate

/-- With hooks that work and room for the response, a retransmitted request is
answered as the first copy was, and leaves the update context and the flash as
they are, unless the first copy was an `FW_END` that completed the transfer or an
`FW_VERIFY` that confirmed the CRC. -/
theorem updateHandle_repeats_iff (update : UpdateContext) (flash : Flash) (request : FrameView)
    (capacity : Nat) (htype : isUpdateRequest request.type) (hcapacity : 24 ≤ capacity) :
    let first := updateHandle (memoryFlash .none) update flash request capacity
    let second := updateHandle (memoryFlash .none) first.update first.flash request capacity
    (second.result = first.result ∧ second.response = first.response ∧
        second.update = first.update ∧ second.flash.memory = first.flash.memory) ↔
      ¬ (request.type = Msg.fwEnd ∧ update.state = .receiving ∧
          update.nextOffset = update.imageSize) ∧
        ¬ (request.type = Msg.fwVerify ∧ update.state = .transferred ∧
          flashCrc flash.memory update.imageSize = update.imageCrc) := by
  show Repeats (fun update flash => updateHandle (memoryFlash .none) update flash request capacity)
    update flash ↔ _
  unfold updateHandle
  rcases htype with h | h | h | h | h | h | h
  all_goals
    simp +decide only [h, if_true, if_false, true_and, false_and, not_false_eq_true, and_true]
  · exact iff_of_true ⟨rfl, rfl, rfl, rfl⟩ trivial
  · exact iff_of_true (handleBegin_repeats update flash request capacity) trivial
  · exact iff_of_true (handleData_repeats update flash request capacity) trivial
  · exact iff_of_true (handleStatus_repeats update flash request capacity) trivial
  · exact handleEnd_repeats_iff update flash request capacity hcapacity h
  · exact handleVerify_repeats_iff update flash request capacity hcapacity h
  · exact iff_of_true (handleActivate_repeats update flash request capacity) trivial

/-- The chunk of the image `[0xAB]`, sent twice to a bootloader that waits for
it. -/
theorem updateHandle_repeats_fwData :
    let request : FrameView := ⟨Msg.fwData, Flag.ackRequired, 7,
      putLe32 2 ++ putLe32 0 ++ [0xAB], by decide⟩
    ∃ s, bootloaderSystem.runFrom freshBootloader (oneByteUpdate.take 1) = some s ∧
      let first := updateHandle (memoryFlash .none) s.update s.flash request 64
      let second := updateHandle (memoryFlash .none) first.update first.flash request 64
      second.result = first.result ∧ second.response = first.response ∧
        second.update = first.update ∧ second.flash.memory = first.flash.memory := by
  intro request
  refine ⟨_, rfl, ?_⟩
  exact (updateHandle_repeats_iff _ _ request 64 (.inr (.inr (.inl rfl))) (by decide)).mpr
    ⟨fun h => absurd h.1 (by decide), fun h => absurd h.1 (by decide)⟩

/-- With the whole image received, `FW_END` is sent twice: the first copy is
acknowledged, the second one is answered with a NACK. -/
theorem fwEnd_retransmission_refused :
    let request : FrameView := ⟨Msg.fwEnd, Flag.ackRequired, 8, putLe32 2, by decide⟩
    ∃ s, bootloaderSystem.runFrom freshBootloader (oneByteUpdate.take 2) = some s ∧
      let first := updateHandle (memoryFlash .none) s.update s.flash request 64
      let second := updateHandle (memoryFlash .none) first.update first.flash request 64
      byteAt first.response 3 = Msg.fwEnd ∧ byteAt second.response 3 = Msg.nack ∧
        ¬ (second.result = first.result ∧ second.response = first.response ∧
          second.update = first.update ∧ second.flash.memory = first.flash.memory) := by
  intro request
  refine ⟨_, rfl, ?_⟩
  intro first second
  have hfirst : byteAt first.response 3 = Msg.fwEnd := by decide +kernel
  have hsecond : byteAt second.response 3 = Msg.nack := by decide +kernel
  refine ⟨hfirst, hsecond, ?_⟩
  rintro ⟨_, hresponse, _⟩
  rw [hresponse, hfirst] at hsecond
  exact absurd hsecond (by decide)

end Stm32
