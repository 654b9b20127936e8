import DeviceManager.Stm32.Discipline

/-!
# Sessions at the bootloader

An `FW_BEGIN` opens a session with an id and a chunk size, and the requests behind it
carry the id.

* `session_isolation_iff`: a request without the current id is refused and touches
  nothing, unless it is an `FW_END`, `FW_VERIFY` or `FW_ACTIVATE` in the state that it
  waits for.  Those three handlers do not read the payload.
* `chunk_size_honoured_iff`: the chunks that a positive answer to `FW_BEGIN` allows are
  accepted, unless the request continued a session with smaller chunks and more than one
  of them is missing.  The resume path does not compare the chunk size.
-/

namespace Stm32

open Devmgr

variable {σ : Type}

/-- With room for it, a response decodes to what was encoded. -/
theorem respond_decodes (update : UpdateContext) (flash : σ) (request : FrameView)
    {capacity : Nat} (type : UInt8) {payload : List UInt8} (hle : payload.length ≤ maxPayload)
    (hcapacity : 16 + payload.length ≤ capacity) :
    frameDecode (respond update flash request capacity type payload).response =
      .ok ⟨type, Flag.response, request.sequence, payload, hle⟩ := by
  have hencode := frameEncode_of_le ⟨type, Flag.response, request.sequence, payload, hle⟩
    (show headerSize + payload.length + crcSize ≤ capacity by
      simp only [headerSize, crcSize]
      omega)
  show frameDecode (frameEncode type Flag.response request.sequence payload capacity).2 = _
  rw [hencode]
  exact frameDecode_frameBytes _

/-! ## Requests of another session -/

/-- The requests that carry a session id. -/
def isSessionRequest (type : UInt8) : Prop :=
  type = Msg.fwData ∨ type = Msg.fwStatus ∨ type = Msg.fwEnd ∨ type = Msg.fwVerify ∨
    type = Msg.fwActivate

/-- The payload begins with the current session id. -/
def UpdateContext.isAddressed (update : UpdateContext) (request : FrameView) : Prop :=
  request.payload.take 4 = putLe32 update.sessionId

/-- The call changes the flash or activates an image. -/
def FlashCall.isChange : FlashCall → Bool
  | .erase _ _ => true
  | .write _ _ _ => true
  | .crc32 _ _ => false
  | .activate _ _ _ _ => true

/-- A NACK, the same update context, and no change of the flash. -/
structure Refused (update : UpdateContext) (handled : Handled (σ × List FlashCall)) : Prop where
  nack : ∃ frame, frameDecode handled.response = .ok frame ∧ frame.type = Msg.nack
  update : handled.update = update
  calls : ∀ call ∈ handled.flash.2, call.isChange = false

/-- The request passes the guard of a handler that does not read the payload. -/
def UpdateContext.servesAny (update : UpdateContext) (ops : FlashOps σ) (flash : σ)
    (type : UInt8) : Prop :=
  (type = Msg.fwEnd ∧ update.state = .receiving ∧ update.nextOffset = update.imageSize) ∨
  (type = Msg.fwVerify ∧ update.state = .transferred ∧
    (ops.crc32 flash update.imageSize).1 = update.imageCrc) ∨
  (type = Msg.fwActivate ∧ update.state = .verified)

section Isolation

variable {ops : FlashOps σ} {update : UpdateContext} {flash : σ} {request : FrameView}
  {capacity : Nat}

theorem Refused.of_nack {flash : σ × List FlashCall} (hcapacity : 18 ≤ capacity)
    (hcalls : ∀ call ∈ flash.2, call.isChange = false) (error : NackError) :
    Refused update (Stm32.nack update flash request capacity error) where
  nack := ⟨_, respond_decodes update flash request Msg.nack (by simp [maxPayload]) hcapacity, rfl⟩
  update := rfl
  calls := hcalls

/-- The id that `handle_data` and `FW_STATUS` read is the one at the front of the payload. -/
theorem isAddressed_of_getLe32 (hlength : 4 ≤ request.payload.length)
    (hid : getLe32 request.payload = update.sessionId) : update.isAddressed request := by
  have hfront : (request.payload.take 4).length = 4 := by
    rw [List.length_take]
    omega
  rw [UpdateContext.isAddressed, ← hid, ← getLe32_take (Nat.le_refl 4), putLe32_getLe32 hfront]

theorem handleData_refuses (hcapacity : 18 ≤ capacity) (haddress : ¬ update.isAddressed request) :
    Refused update (handleData (recording ops) update (flash, []) request capacity) := by
  have hguard : update.state ≠ .receiving ∨ request.payload.length ≤ 8 ∨
      getLe32 request.payload ≠ update.sessionId := by
    by_cases hlength : request.payload.length ≤ 8
    · exact .inr (.inl hlength)
    · exact .inr (.inr fun hid => haddress (isAddressed_of_getLe32 (by omega) hid))
  rw [handleData, if_pos hguard]
  exact .of_nack hcapacity (List.forall_mem_nil _) _

theorem handleStatus_refuses (hcapacity : 18 ≤ capacity)
    (haddress : ¬ update.isAddressed request) :
    Refused update (handleStatus update ((flash, []) : σ × List FlashCall) request capacity) := by
  have hguard : request.payload.length ≠ 4 ∨ getLe32 request.payload ≠ update.sessionId := by
    by_cases hlength : request.payload.length = 4
    · exact .inr fun hid => haddress (isAddressed_of_getLe32 hlength.ge hid)
    · exact .inl hlength
  rw [handleStatus, if_pos hguard]
  exact .of_nack hcapacity (List.forall_mem_nil _) _

theorem handleEnd_refuses_iff (hcapacity : 18 ≤ capacity) :
    Refused update (handleEnd update ((flash, []) : σ × List FlashCall) request capacity) ↔
      ¬ (update.state = .receiving ∧ update.nextOffset = update.imageSize) := by
  unfold handleEnd
  split
  · rename_i hguard
    refine iff_of_true (.of_nack hcapacity (List.forall_mem_nil _) _) ?_
    rwa [not_and_or]
  · rename_i hready
    rw [not_or, not_not, not_not] at hready
    refine iff_of_false (fun hrefused => ?_) (not_not.mpr hready)
    have hstate : UpdateState.transferred = update.state :=
      congrArg UpdateContext.state hrefused.update
    exact absurd (hstate.trans hready.1) (by decide)

theorem handleVerify_refuses_iff (hcapacity : 18 ≤ capacity) :
    Refused update (handleVerify (recording ops) update (flash, []) request capacity) ↔
      ¬ (update.state = .transferred ∧
        (ops.crc32 flash update.imageSize).1 = update.imageCrc) := by
  unfold handleVerify
  split
  · rename_i hstate
    refine iff_of_true (.of_nack hcapacity (List.forall_mem_nil _) _) fun h => hstate h.1
  · rename_i hstate
    rw [not_not] at hstate
    dsimp only [recording]
    split
    · rename_i hcrc
      refine iff_of_true (.of_nack hcapacity ?_ _) fun h => hcrc h.2
      exact List.forall_mem_singleton.mpr rfl
    · rename_i hcrc
      refine iff_of_false (fun hrefused => ?_) (not_not.mpr ⟨hstate, not_not.mp hcrc⟩)
      have hverified : UpdateState.verified = update.state :=
        congrArg UpdateContext.state hrefused.update
      exact absurd (hverified.trans hstate) (by decide)

theorem handleActivate_refuses_iff (hcapacity : 18 ≤ capacity) :
    Refused update (handleActivate (recording ops) update (flash, []) request capacity) ↔
      ¬ update.state = .verified := by
  unfold handleActivate
  split
  · rename_i hstate
    exact iff_of_true (.of_nack hcapacity (List.forall_mem_nil _) _) hstate
  · rename_i hstate
    refine iff_of_false (fun hrefused => ?_) hstate
    -- the hook is called whatever it returns
    have hcalls := hrefused.calls
    dsimp only [recording] at hcalls
    split at hcalls
    all_goals exact absurd (hcalls _ (List.mem_singleton.mpr rfl)) (by simp [FlashCall.isChange])

/-- A request with a wrong, stale or missing session id is refused, leaves the update context
and makes no call that changes or activates the flash, exactly when it is not an `FW_END`,
`FW_VERIFY` or `FW_ACTIVATE` whose turn it is. -/
theorem session_isolation_iff (ops : FlashOps σ) (update : UpdateContext) (flash : σ)
    (request : FrameView) (capacity : Nat) (htype : isSessionRequest request.type)
    (haddress : ¬ update.isAddressed request) (hcapacity : 18 ≤ capacity) :
    Refused update (updateHandle (recording ops) update (flash, []) request capacity) ↔
      ¬ update.servesAny ops flash request.type := by
  obtain ⟨_, hdata, hend, hverify, hactivate, _⟩ :=
    updateHandle_dispatch (recording ops) update (flash, []) request capacity
  rw [UpdateContext.servesAny]
  rcases htype with h | h | h | h | h
  · rw [hdata h, h]
    exact iff_of_true (handleData_refuses hcapacity haddress) (by simp +decide)
  · rw [updateHandle_status _ _ _ _ _ h, h]
    exact iff_of_true (handleStatus_refuses hcapacity haddress) (by simp +decide)
  · rw [hend h, handleEnd_refuses_iff hcapacity, h]
    simp +decide
  · rw [hverify h, handleVerify_refuses_iff hcapacity, h]
    simp +decide
  · rw [hactivate h, handleActivate_refuses_iff hcapacity, h]
    simp +decide

end Isolation

/-- A request, with room for the response. -/
def sessionRequest (type : UInt8) (payload : List UInt8) (h : payload.length < 2 ^ 16) :
    FrameView × Nat :=
  (⟨type, Flag.ackRequired, 7, payload, h⟩, 64)

/-- `FW_BEGIN` for the image `[0xAB]`. -/
def versionBegin (version : UInt8) : FrameView × Nat :=
  sessionRequest Msg.fwBegin (putLe32 1 ++ putLe32 (crc32 [0xAB]) ++ putLe16 16 ++ [version, 0])
    (Nat.lt_of_sub_eq_succ rfl)

/-- A request with nothing but the id of a session. -/
def idRequest (type : UInt8) (session : UInt32) : FrameView × Nat :=
  sessionRequest type (putLe32 session) (Nat.lt_of_sub_eq_succ rfl)

/-- Session 2 is announced and superseded by session 3, whose image `[0xAB]` is sent.  The
requests behind it still carry the id of session 2. -/
def supersededSession : List (FrameView × Nat) :=
  [versionBegin 0x31, versionBegin 0x32,
    sessionRequest Msg.fwData (putLe32 3 ++ putLe32 0 ++ [0xAB]) (Nat.lt_of_sub_eq_succ rfl),
    idRequest Msg.fwEnd 2, idRequest Msg.fwVerify 2]

/-- The data of the superseded session are refused. -/
theorem session_isolation_stale_data :
    ∃ s, (recordedSystem (memoryFlash .none)).runFrom ⟨updateInit, ⟨fun _ => 0, []⟩, []⟩
        (supersededSession.take 2) = some s ∧ s.update.sessionId = 3 ∧
      Refused s.update (s.handle (memoryFlash .none)
        ⟨Msg.fwData, Flag.ackRequired, 8, putLe32 2 ++ putLe32 0 ++ [0xAB],
          Nat.lt_of_sub_eq_succ rfl⟩ 64) := by
  refine ⟨_, rfl, by decide +kernel, ?_⟩
  refine (session_isolation_iff (memoryFlash .none) _ _ _ 64 (.inl rfl) ?_ (by decide)).mpr ?_
  · show ¬ _ = _
    decide +kernel
  · rintro (h | h | h)
    all_goals exact absurd h.1 (by decide)

/-- With the id of the superseded session, `FW_END` and `FW_VERIFY` complete the current one,
and `FW_ACTIVATE` activates its image. -/
theorem stale_session_activates :
    ∃ s, (recordedSystem (memoryFlash .none)).runFrom ⟨updateInit, ⟨fun _ => 0, []⟩, []⟩
        supersededSession = some s ∧ s.update.sessionId = 3 ∧ s.update.state = .verified ∧
      let request : FrameView :=
        ⟨Msg.fwActivate, Flag.ackRequired, 8, putLe32 2, Nat.lt_of_sub_eq_succ rfl⟩
      let handled := s.handle (memoryFlash .none) request 64
      ¬ s.update.isAddressed request ∧ byteAt handled.response 3 = Msg.fwActivate ∧
        (handled.flash.2.any fun call => call.isChange) = true ∧ ¬ Refused s.update handled := by
  refine ⟨_, rfl, by decide +kernel, by decide +kernel, ?_⟩
  intro request handled
  have hchange : (handled.flash.2.any fun call => call.isChange) = true := by decide +kernel
  refine ⟨?_, by decide +kernel, hchange, fun hrefused => ?_⟩
  · show ¬ _ = _
    decide +kernel
  · obtain ⟨call, hcall, hchanges⟩ := List.any_eq_true.mp hchange
    exact absurd hchanges (by simp [hrefused.calls call hcall])

/-! ## The chunk size of a session -/

/-- `handle_begin` continues the session. -/
def UpdateContext.resumes (update : UpdateContext) (begin : BeginRequest) : Prop :=
  update.state = .receiving ∧ begin.size = update.imageSize ∧ begin.crc = update.imageCrc ∧
    begin.version = update.pendingVersion

/-- Every `FW_DATA` for the session at the offset, with between one byte and a chunk of them
that fit in the image, is accepted if the write succeeds. -/
def Honours (σ : Type) (update : UpdateContext) (session offset : UInt32) (chunk : UInt16) :
    Prop :=
  ∀ (ops : FlashOps σ) (flash : σ) (request : FrameView) (capacity : Nat), 24 ≤ capacity →
    request.type = Msg.fwData → getLe32 request.payload = session → request.offset = offset →
    1 ≤ request.data.length → request.data.length ≤ chunk.toNat →
    offset.toNat + request.data.length ≤ update.imageSize.toNat →
    (ops.write flash offset request.data).1 = 0 →
    let handled := updateHandle ops update flash request capacity
    handled.update =
        { update with nextOffset := offset + request.data.length.toUInt32 } ∧
      ∃ frame, frameDecode handled.response = .ok frame ∧ frame.type = Msg.fwData ∧
        frame.payload = putLe32 (offset + request.data.length.toUInt32)

section Chunks

variable {update : UpdateContext} {request : FrameView}

/-- Of the checks of `handle_data` on a chunk that fits in the image, the one on the chunk
size is left. -/
theorem dataInRange_iff_of_fits
    (hfits : request.offset.toNat + request.data.length ≤ update.imageSize.toNat) :
    DataInRange update request ↔ request.data.length ≤ update.chunkSize.toNat := by
  have hpayload := request.payload_lt
  have hdata : request.data.length = request.payload.length - 8 := List.length_drop
  have hlength : request.data.length.toUInt32.toNat = request.data.length := by
    simp only [Nat.toUInt32, UInt32.toNat_ofNat']
    omega
  have hchunk : update.chunkSize.toUInt32.toNat = update.chunkSize.toNat := rfl
  have hoffset : request.offset ≤ update.imageSize :=
    UInt32.le_iff_toNat_le.mpr (by omega)
  have hroom : request.data.length.toUInt32 ≤ update.imageSize - request.offset := by
    rw [UInt32.le_iff_toNat_le, UInt32.toNat_sub_of_le _ _ hoffset, hlength]
    omega
  rw [DataInRange, not_or, not_or, gt_iff_lt, gt_iff_lt, gt_iff_lt, UInt32.not_lt, UInt32.not_lt,
    UInt32.not_lt, UInt32.le_iff_toNat_le, hlength, hchunk]
  exact and_iff_left ⟨hoffset, hroom⟩

/-- A chunk of zeros. -/
def zeroChunk (session offset : UInt32) (count : Nat) (h : 8 + count < 2 ^ 16) : FrameView where
  type := Msg.fwData
  flags := Flag.ackRequired
  sequence := 1
  payload := putLe32 session ++ (putLe32 offset ++ List.replicate count 0)
  payload_lt := by
    rw [List.length_append, List.length_append, List.length_replicate, ← Nat.add_assoc]
    exact h

theorem zeroChunk_fields (session offset : UInt32) {count : Nat} (h : 8 + count < 2 ^ 16) :
    (zeroChunk session offset count h).type = Msg.fwData ∧
      getLe32 (zeroChunk session offset count h).payload = session ∧
      (zeroChunk session offset count h).offset = offset ∧
      (zeroChunk session offset count h).data.length = count :=
  ⟨rfl, getLe32_putLe32 _ _, getLe32_putLe32 _ _, List.length_replicate⟩

theorem handleBegin_resumed (ops : FlashOps σ) (flash : σ) {capacity : Nat} {begin : BeginRequest}
    (hparse : parseBegin request.payload = some begin) (h : update.resumes begin) :
    handleBegin ops update flash request capacity =
      respond update flash request capacity request.type
        (putLe32 update.sessionId ++ putLe32 update.nextOffset) := by
  rw [handleBegin, hparse]
  exact if_pos h

theorem handleBegin_begun (ops : FlashOps σ) (flash : σ) {capacity : Nat} {begin : BeginRequest}
    (hparse : parseBegin request.payload = some begin) (h : ¬ update.resumes begin) :
    handleBegin ops update flash request capacity =
      if (ops.erase flash begin.size).1 ≠ 0 then
        nack update (ops.erase flash begin.size).2 request capacity .storage
      else
        respond ⟨.receiving, sessionAfter update.sessionId, begin.size, begin.crc, 0, begin.chunk,
            begin.version⟩ (ops.erase flash begin.size).2 request capacity request.type
          (putLe32 (sessionAfter update.sessionId) ++ putLe32 0) := by
  rw [handleBegin, hparse]
  exact if_neg h

/-- The session and the offset in the answer to `FW_BEGIN`. -/
theorem answer_fields {flash : σ} {capacity : Nat} (hcapacity : 24 ≤ capacity) {type : UInt8}
    {session offset : UInt32} {answer : Frame}
    (h : frameDecode (respond update flash request capacity type
      (putLe32 session ++ putLe32 offset)).response = .ok answer) :
    getLe32 answer.payload = session ∧ getLe32 (answer.payload.drop 4) = offset := by
  have hlength : (putLe32 session ++ putLe32 offset).length = 8 := rfl
  rw [respond_decodes _ _ _ _ (by rw [hlength]; simp [maxPayload])
    (by rw [hlength]; exact hcapacity)] at h
  obtain rfl := Except.ok.inj h
  exact ⟨getLe32_putLe32 _ _, getLe32_putLe32_self _⟩

/-- A session takes the chunks up to its own chunk size, and the end of the image. -/
theorem honours_iff (ops : FlashOps σ) (flash : σ) (hstate : update.state = .receiving)
    {chunk : UInt16} (hchunk : chunk.toNat ≤ 4088) :
    Honours σ update update.sessionId update.nextOffset chunk ↔
      ¬ (update.chunkSize < chunk ∧
        update.chunkSize.toNat < update.imageSize.toNat - update.nextOffset.toNat) := by
  rw [UInt16.lt_iff_toNat_lt]
  constructor
  · rintro hhonours ⟨hsmaller, hroom⟩
    -- one byte more than the session takes
    have hlt : 8 + (update.chunkSize.toNat + 1) < 2 ^ 16 := by omega
    obtain ⟨htype, hsession, hoffset, hlength⟩ :=
      zeroChunk_fields update.sessionId update.nextOffset hlt
    generalize zeroChunk update.sessionId update.nextOffset _ hlt = request at *
    have hfits : request.offset.toNat + request.data.length ≤ update.imageSize.toNat := by
      rw [hoffset, hlength]
      omega
    have houtside : ¬ DataInRange update request := by
      rw [dataInRange_iff_of_fits hfits, hlength]
      omega
    have hdata : request.data.length = request.payload.length - 8 := List.length_drop
    have hexpected : DataExpected update request := by
      rw [DataExpected, not_or, not_or, not_not, not_not]
      exact ⟨hstate, by omega, hsession⟩
    obtain ⟨_, frame, hdecode, hpositive, _⟩ := hhonours
      { ops with write := fun flash _ _ => (0, flash) } flash request 24 (Nat.le_refl 24) htype
      hsession hoffset (by omega) (by omega) (hoffset ▸ hfits) rfl
    rw [(updateHandle_dispatch _ _ _ _ _).2.1 htype, handleData, if_neg hexpected] at hdecode
    dsimp only at hdecode
    rw [if_pos (not_not.mp houtside), nack,
      respond_decodes _ _ _ _ (by simp [maxPayload]) (by simp)] at hdecode
    obtain rfl := Except.ok.inj hdecode
    exact absurd (show Msg.nack = Msg.fwData from hpositive) (by decide)
  · intro hcovered ops flash request capacity hcapacity htype hsession hoffset hsome hmost hfits
      hwritten
    have hdata : request.data.length = request.payload.length - 8 := List.length_drop
    have hexpected : DataExpected update request := by
      rw [DataExpected, not_or, not_or, not_not, not_not]
      exact ⟨hstate, by omega, hsession⟩
    have hrange : DataInRange update request := by
      rw [dataInRange_iff_of_fits (hoffset ▸ hfits)]
      omega
    rw [← hoffset] at hwritten
    intro handled
    have hhandled : handled = _ :=
      ((updateHandle_dispatch ops update flash request capacity).2.1 htype).trans
        (handleData_write capacity ops flash hexpected hrange hoffset hwritten)
    rw [hhandled]
    refine ⟨rfl, _, respond_decodes _ _ _ _ (putLe32_le _) ?_, htype, rfl⟩
    rw [putLe32_length]
    omega

end Chunks

/-- An `FW_BEGIN` with a chunk size of at most 4088 that is not refused.  Every chunk up to
that size that fits in the image is accepted at the answered offset of the answered session,
exactly when the request did not continue a session with a smaller chunk size and more than
one of its chunks missing. -/
theorem chunk_size_honoured_iff (ops : FlashOps σ) (update : UpdateContext) (flash : σ)
    (request : FrameView) (capacity : Nat) (hcapacity : 24 ≤ capacity)
    (htype : request.type = Msg.fwBegin) {begin : BeginRequest}
    (hparse : parseBegin request.payload = some begin) (hchunk : begin.chunk.toNat ≤ 4088)
    {answer : Frame}
    (hanswer :
      frameDecode (updateHandle ops update flash request capacity).response = .ok answer)
    (hpositive : answer.type ≠ Msg.nack) :
    Honours σ (updateHandle ops update flash request capacity).update (getLe32 answer.payload)
        (getLe32 (answer.payload.drop 4)) begin.chunk ↔
      ¬ (update.resumes begin ∧ update.chunkSize < begin.chunk ∧
        update.chunkSize.toNat < update.imageSize.toNat - update.nextOffset.toNat) := by
  rw [(updateHandle_dispatch ops update flash request capacity).1 htype] at hanswer ⊢
  by_cases hresumes : update.resumes begin
  · rw [handleBegin_resumed ops flash hparse hresumes] at hanswer ⊢
    obtain ⟨hsession, hoffset⟩ := answer_fields hcapacity hanswer
    rw [hsession, hoffset]
    exact (honours_iff ops flash hresumes.1 hchunk).trans
      (not_congr (and_iff_right hresumes).symm)
  rw [handleBegin_begun ops flash hparse hresumes] at hanswer ⊢
  by_cases herased : (ops.erase flash begin.size).1 ≠ 0
  · rw [if_pos herased, nack, respond_decodes _ _ _ _ (by simp [maxPayload])
      (by rw [putLe16_length]; omega)] at hanswer
    obtain rfl := Except.ok.inj hanswer
    exact absurd rfl hpositive
  rw [if_neg herased] at hanswer ⊢
  obtain ⟨hsession, hoffset⟩ := answer_fields hcapacity hanswer
  rw [hsession, hoffset]
  refine iff_of_true ((honours_iff ops flash rfl hchunk).mpr ?_) fun h => hresumes h.1
  exact fun h => absurd h.1 (UInt16.lt_irrefl _)

/-- `FW_BEGIN` for an image of two bytes. -/
def twoByteBegin (chunk : UInt16) : FrameView × Nat :=
  sessionRequest Msg.fwBegin (putLe32 2 ++ putLe32 0 ++ putLe16 chunk ++ [0x31, 0])
    (Nat.lt_of_sub_eq_succ rfl)

def beginAnswer (session offset : UInt32) : Frame :=
  ⟨Msg.fwBegin, Flag.response, 7, putLe32 session ++ putLe32 offset, Nat.le_of_ble_eq_true rfl⟩

/-- The first `FW_BEGIN` gets a session in which its chunk size holds. -/
theorem chunk_size_honoured_fresh :
    let handled := updateHandle (memoryFlash .none) updateInit ⟨fun _ => 0, []⟩
      (twoByteBegin 2).1 64
    handled.response = frameBytes (beginAnswer 2 0) ∧ Honours Flash handled.update 2 0 2 := by
  intro handled
  have hresponse : handled.response = frameBytes (beginAnswer 2 0) := by decide +kernel
  refine ⟨hresponse, ?_⟩
  refine (chunk_size_honoured_iff (memoryFlash .none) updateInit ⟨fun _ => 0, []⟩
    (twoByteBegin 2).1 64 (by decide) rfl
    (show parseBegin (twoByteBegin 2).1.payload = some _ from rfl) (by decide +kernel)
    (hresponse ▸ frameDecode_frameBytes _) (by decide)).mpr ?_
  exact fun h => absurd h.1.1 (by decide)

/-- A session with chunks of one byte is continued by an `FW_BEGIN` that proposes two.  The
two bytes that the answer allows are then refused, with a flash that works. -/
theorem resumed_chunk_size_refused :
    ∃ s, (recordedSystem (memoryFlash .none)).runFrom ⟨updateInit, ⟨fun _ => 0, []⟩, []⟩
        [twoByteBegin 1] = some s ∧
      let first := updateHandle (memoryFlash .none) s.update s.flash (twoByteBegin 2).1 64
      let data := zeroChunk 2 0 2 (Nat.lt_of_sub_eq_succ rfl)
      let second := updateHandle (memoryFlash .none) first.update first.flash data 64
      first.response = frameBytes (beginAnswer 2 0) ∧
        ((memoryFlash .none).write first.flash 0 data.data).1 = 0 ∧
        second.response = frameBytes
          ⟨Msg.nack, Flag.response, 1, putLe16 NackError.offset.code,
            Nat.le_of_ble_eq_true rfl⟩ := by
  refine ⟨_, rfl, ?_⟩
  decide +kernel

end Stm32
