import Mathlib.Data.List.Induction
import DeviceManager.Upgrade.Upgrade

/-!
# Safety of the upgrade against any device

A started upgrade, driven in any order: requests are built, responses of any
content are accepted for any request type, and recovery is begun.  The device
chooses the offsets, and the machine stores them before it checks them, so the
bounds have to come from the states that the checks lead to.

`Upgrade.Safe` is the invariant, with one step lemma for each function.
`UpgradeRun` adds the list of the frames built so far, for what is said about
the history of a run: `UpgradeRun.Verified` holds where the CRC was confirmed
and no image data was sent since.  `upgradeRun_safe` collects the results.
-/

namespace Devmgr

/-- The offsets stay inside the image, and every state has the offset that its
request needs. -/
structure Upgrade.Safe (upgrade : Upgrade) : Prop where
  size_le : upgrade.imageSize ≤ 0xFFFFFFFF
  chunkSize_ne : upgrade.chunkSize ≠ 0
  lastChunkEnd_le : upgrade.lastChunkEnd.toNat ≤ upgrade.imageSize
  resumable : upgrade.state = .transfer ∨ upgrade.state = .recover →
    upgrade.offset.toNat < upgrade.imageSize ∧ upgrade.sessionId ≠ 0
  sent : upgrade.state = .end ∨ upgrade.state = .verify ∨ upgrade.state = .activate ∨
      upgrade.state = .reboot ∨ upgrade.state = .complete →
    upgrade.offset.toNat = upgrade.imageSize

/-- What an upgrade is started with, and no later function changes. -/
structure Upgrade.SameImage (started upgrade : Upgrade) : Prop where
  imageData : upgrade.imageData = started.imageData
  imageCrc : upgrade.imageCrc = started.imageCrc
  version : upgrade.version = started.version
  chunkSize : upgrade.chunkSize = started.chunkSize

theorem Upgrade.SameImage.trans {started upgrade upgrade' : Upgrade}
    (h : started.SameImage upgrade) (h' : upgrade.SameImage upgrade') :
    started.SameImage upgrade' :=
  ⟨h'.imageData.trans h.imageData, h'.imageCrc.trans h.imageCrc, h'.version.trans h.version,
    h'.chunkSize.trans h.chunkSize⟩

/-- An upgrade that was started. -/
theorem upgradeStart_eq_ok {capacity : Nat} {imageData : List UInt8} {imageCrc : UInt32}
    {version : CString capacity} {chunkSize : UInt16} {upgrade : Upgrade}
    (h : upgradeStart imageData imageCrc version chunkSize = .ok upgrade) :
    upgrade.Safe ∧ upgrade.state = .enterBootloader ∧ upgrade.imageData = imageData ∧
      upgrade.imageCrc = imageCrc ∧ upgrade.chunkSize = chunkSize ∧ imageData ≠ [] ∧
      upgrade.version.bytes = version.bytes ∧ upgrade.recoveryAttempts = 0 := by
  rw [upgradeStart] at h
  split_ifs at h with hbounds hversion
  obtain rfl := Except.ok.inj h
  simp only [not_or, Nat.not_lt] at hbounds
  refine ⟨⟨hbounds.2.1, hbounds.2.2.1, Nat.zero_le _, by simp, by simp⟩, rfl, rfl, rfl, rfl, ?_,
    rfl, rfl⟩
  exact fun hnil => hbounds.1 (List.length_eq_zero_iff.mpr hnil)

/-- An upgrade starts without progress. -/
theorem upgradeStart_fresh {capacity : Nat} {imageData : List UInt8} {imageCrc : UInt32}
    {version : CString capacity} {chunkSize : UInt16} {upgrade : Upgrade}
    (h : upgradeStart imageData imageCrc version chunkSize = .ok upgrade) :
    upgrade.offset = 0 ∧ upgrade.chunksSent = 0 := by
  rw [upgradeStart] at h
  split_ifs at h
  obtain rfl := Except.ok.inj h
  exact ⟨rfl, rfl⟩

theorem upgradeStart_failed {capacity : Nat} {imageData : List UInt8} {imageCrc : UInt32}
    {version : CString capacity} {chunkSize : UInt16} {error : Status}
    (h : upgradeStart imageData imageCrc version chunkSize = .error error) :
    error.code ≠ Status.ok.code := by
  rw [upgradeStart] at h
  split_ifs at h
  all_goals
    obtain rfl := Except.error.inj h
    decide

/-! ## Building requests -/

/-- The chunk of a transfer is not empty and ends inside the image. -/
theorem Upgrade.Safe.chunk_bounds {upgrade : Upgrade} (h : upgrade.Safe)
    (hstate : upgrade.state = .transfer) :
    0 < upgrade.chunk ∧
      upgrade.offset.toNat + upgrade.chunk =
        min (upgrade.offset.toNat + upgrade.chunkSize.toNat) upgrade.imageSize :=
  Upgrade.chunk_bounds (h.resumable (.inl hstate)).1 h.chunkSize_ne

theorem Upgrade.Safe.lastChunkEnd_eq {upgrade : Upgrade} (h : upgrade.Safe)
    (hstate : upgrade.state = .transfer) :
    (upgrade.offset + upgrade.chunk.toUInt32).toNat = upgrade.offset.toNat + upgrade.chunk := by
  have hbounds := h.chunk_bounds hstate
  have hsize := h.size_le
  simp only [UInt32.toNat_add, Nat.toUInt32, UInt32.toNat_ofNat']
  omega

/-- A built request is of the type that belongs to the state, and only the record
of the last chunk changes. -/
theorem upgradeBuildRequest_eq_ok {upgrade upgrade' : Upgrade} {frame : Frame}
    (h : upgradeBuildRequest upgrade = .ok (frame, upgrade')) :
    upgrade.state.requestType = some frame.type ∧ upgrade.SameImage upgrade' ∧
      upgrade'.state = upgrade.state ∧ upgrade'.offset = upgrade.offset ∧
      upgrade'.sessionId = upgrade.sessionId ∧
      upgrade'.recoveryAttempts = upgrade.recoveryAttempts ∧
      upgrade'.lastChunkEnd =
        if upgrade.state = .transfer then upgrade.offset + upgrade.chunk.toUInt32
        else upgrade.lastChunkEnd := by
  rw [upgradeBuildRequest] at h
  cases hstate : upgrade.state
  all_goals
    simp only [hstate] at h
    try split_ifs at h
    cases h
    all_goals exact ⟨rfl, ⟨rfl, rfl, rfl, rfl⟩, by simp [hstate], rfl, rfl, rfl, by simp⟩

/-- To build the request of a state again gives the same frame. -/
theorem upgradeBuildRequest_again {upgrade upgrade' : Upgrade} {frame : Frame}
    (h : upgradeBuildRequest upgrade = .ok (frame, upgrade')) :
    ∃ again, upgradeBuildRequest upgrade' = .ok (frame, again) := by
  by_cases htransfer : upgrade.state = .transfer
  · simp only [upgradeBuildRequest, htransfer] at h
    split_ifs at h with hoffset
    obtain ⟨rfl, rfl⟩ := Prod.mk.inj (Except.ok.inj h)
    exact ⟨_, if_neg hoffset⟩
  · -- The other requests leave the upgrade as it is.
    have hsame : upgrade' = upgrade := by
      rw [upgradeBuildRequest] at h
      split at h
      all_goals
        try split_ifs at h
        all_goals cases h
        all_goals first | rfl | contradiction
    rw [hsame]
    exact ⟨_, h⟩

theorem upgradeBuildRequest_error {upgrade : Upgrade} {error : Status}
    (h : upgradeBuildRequest upgrade = .error error) : error = .state := by
  rw [upgradeBuildRequest] at h
  split at h
  all_goals
    try split_ifs at h
    all_goals cases h
    all_goals rfl

theorem Upgrade.Safe.build {upgrade upgrade' : Upgrade} {frame : Frame} (h : upgrade.Safe)
    (hbuild : upgradeBuildRequest upgrade = .ok (frame, upgrade')) : upgrade'.Safe := by
  obtain ⟨_, hsame, hstate, hoffset, hsession, _, hlast⟩ := upgradeBuildRequest_eq_ok hbuild
  have hsize : upgrade'.imageSize = upgrade.imageSize := congrArg List.length hsame.imageData
  constructor
  · rw [hsize]
    exact h.size_le
  · rw [hsame.chunkSize]
    exact h.chunkSize_ne
  · rw [hsize, hlast]
    split
    · rename_i htransfer
      rw [h.lastChunkEnd_eq htransfer, (h.chunk_bounds htransfer).2]
      exact Nat.min_le_right _ _
    · exact h.lastChunkEnd_le
  · rw [hstate, hsize, hoffset, hsession]
    exact h.resumable
  · rw [hstate, hsize, hoffset]
    exact h.sent

/-- A safe upgrade builds a request in every state that has one. -/
theorem Upgrade.Safe.build_isOk {upgrade : Upgrade} (h : upgrade.Safe)
    (hstate : upgrade.state.requestType.isSome) :
    ∃ frame upgrade', upgradeBuildRequest upgrade = .ok (frame, upgrade') := by
  rw [upgradeBuildRequest]
  cases hs : upgrade.state
  case transfer =>
    simp only [if_neg (Nat.not_le.mpr (h.resumable (.inl hs)).1)]
    exact ⟨_, _, rfl⟩
  case recover =>
    simp only [if_neg (h.resumable (.inr hs)).2]
    exact ⟨_, _, rfl⟩
  all_goals
    first
    | exact ⟨_, _, rfl⟩
    | rw [hs] at hstate; cases hstate

/-- An `FW_DATA` frame is built in `TRANSFER` only, from the payload of the
transfer. -/
theorem upgradeBuildRequest_fwData {upgrade upgrade' : Upgrade} {frame : Frame}
    (h : upgradeBuildRequest upgrade = .ok (frame, upgrade')) (htype : frame.type = Msg.fwData) :
    upgrade.state = .transfer ∧ frame.payload = upgrade.dataPayload := by
  have hrequest := (upgradeBuildRequest_eq_ok h).1
  rw [htype] at hrequest
  rw [upgradeBuildRequest] at h
  cases hstate : upgrade.state
  case transfer =>
    simp only [hstate] at h
    split_ifs at h
    obtain ⟨rfl, -⟩ := Prod.mk.inj (Except.ok.inj h)
    exact ⟨rfl, rfl⟩
  all_goals
    rw [hstate] at hrequest
    cases hrequest

/-! ## Accepting responses -/

/-- What `devmgr_upgrade_accept_response` can do: refuse the response, or take
the one that the state waits for. -/
inductive Upgrade.Accepts (upgrade : Upgrade) (requestType : UInt8) (response : Frame) :
    Status × Upgrade → Prop
  | refused (sessionId offset : UInt32) :
      Accepts upgrade requestType response
        (.protocol,
          { upgrade with sessionId := sessionId, offset := offset, state := .error })
  | entered (hstate : upgrade.state = .enterBootloader)
      (htype : requestType = Msg.enterBootloader) :
      Accepts upgrade requestType response (.ok, { upgrade with state := .begin })
  | begun (hstate : upgrade.state = .begin) (htype : requestType = Msg.fwBegin)
      (hsession : getLe32 response.payload ≠ 0)
      (hoffset : (getLe32 (response.payload.drop 4)).toNat ≤ upgrade.imageSize) :
      Accepts upgrade requestType response
        (.ok, Upgrade.resume { upgrade with
          sessionId := getLe32 response.payload
          offset := getLe32 (response.payload.drop 4) })
  | transferred (hstate : upgrade.state = .transfer) (htype : requestType = Msg.fwData)
      (hoffset : getLe32 response.payload = upgrade.lastChunkEnd)
      (hsize : (getLe32 response.payload).toNat ≤ upgrade.imageSize) :
      Accepts upgrade requestType response
        (.ok, Upgrade.resume { upgrade with offset := getLe32 response.payload })
  | recovered (hstate : upgrade.state = .recover) (htype : requestType = Msg.fwStatus)
      (hoffset : (getLe32 (response.payload.drop 4)).toNat ≤ upgrade.imageSize) :
      Accepts upgrade requestType response
        (.ok, Upgrade.resume { upgrade with offset := getLe32 (response.payload.drop 4) })
  | ended (hstate : upgrade.state = .end) (htype : requestType = Msg.fwEnd) :
      Accepts upgrade requestType response (.ok, { upgrade with state := .verify })
  | verified (hstate : upgrade.state = .verify) (htype : requestType = Msg.fwVerify)
      (hlength : response.payload.length = 4)
      (hcrc : getLe32 response.payload = upgrade.imageCrc) :
      Accepts upgrade requestType response (.ok, { upgrade with state := .activate })
  | activated (hstate : upgrade.state = .activate) (htype : requestType = Msg.fwActivate) :
      Accepts upgrade requestType response (.ok, { upgrade with state := .reboot })
  | rebooted (hstate : upgrade.state = .reboot) (htype : requestType = Msg.reboot) :
      Accepts upgrade requestType response (.ok, { upgrade with state := .complete })

theorem upgradeAcceptResponse_accepts (upgrade : Upgrade) (requestType : UInt8)
    (response : Frame) :
    upgrade.Accepts requestType response
      (upgradeAcceptResponse upgrade requestType response) := by
  unfold upgradeAcceptResponse
  dsimp only
  split
  · exact .refused _ _
  · split
    all_goals rename_i hstate
    · split_ifs with hmatch
      · exact .refused _ _
      · exact .entered hstate (not_not.mp hmatch)
    · split_ifs with hmatch hrange
      · exact .refused _ _
      · exact .refused _ _
      · simp only [not_or, not_not, Nat.not_lt] at hmatch hrange
        exact .begun hstate hmatch.1 hrange.1 hrange.2
    · split_ifs with hmatch hrange
      · exact .refused _ _
      · exact .refused _ _
      · simp only [not_or, not_not, Nat.not_lt] at hmatch hrange
        exact .transferred hstate hmatch.1 hrange.1 hrange.2
    · split_ifs with hmatch hrange
      · exact .refused _ _
      · exact .refused _ _
      · simp only [not_or, not_not] at hmatch
        exact .recovered hstate hmatch.1 (Nat.le_of_not_lt hrange)
    · split_ifs with hmatch
      · exact .refused _ _
      · exact .ended hstate (not_not.mp hmatch)
    · split_ifs with hmatch
      · exact .refused _ _
      · simp only [not_or, not_not] at hmatch
        exact .verified hstate hmatch.1 hmatch.2.1 hmatch.2.2
    · split_ifs with hmatch
      · exact .refused _ _
      · exact .activated hstate (not_not.mp hmatch)
    · split_ifs with hmatch
      · exact .refused _ _
      · exact .rebooted hstate (not_not.mp hmatch)
    · exact .refused _ _

section Answered

variable {upgrade : Upgrade} {response : Frame}

/-- A payload of two words. -/
theorem words_of_payload {first second : UInt32}
    (h : response.payload = putLe32 first ++ putLe32 second) :
    getLe32 response.payload = first ∧ getLe32 (response.payload.drop 4) = second ∧
      response.payload.length = 8 := by
  rw [h, List.drop_left' (putLe32_length first)]
  exact ⟨getLe32_putLe32 _ _, getLe32_putLe32_self _, rfl⟩

/-- A payload of one word. -/
theorem word_of_payload {word : UInt32} (h : response.payload = putLe32 word) :
    getLe32 response.payload = word ∧ response.payload.length = 4 := by
  rw [h]
  exact ⟨getLe32_putLe32_self _, rfl⟩

variable (hanswer : ¬ (response.type = Msg.nack ∨ response.type = Msg.error))

include hanswer

/-- The answers that only move the state. -/
theorem upgradeAcceptResponse_moves :
    (upgrade.state = .enterBootloader →
      upgradeAcceptResponse upgrade Msg.enterBootloader response =
        (.ok, { upgrade with state := .begin })) ∧
    (upgrade.state = .end →
      upgradeAcceptResponse upgrade Msg.fwEnd response =
        (.ok, { upgrade with state := .verify })) ∧
    (upgrade.state = .activate →
      upgradeAcceptResponse upgrade Msg.fwActivate response =
        (.ok, { upgrade with state := .reboot })) ∧
    (upgrade.state = .reboot →
      upgradeAcceptResponse upgrade Msg.reboot response =
        (.ok, { upgrade with state := .complete })) := by
  refine ⟨?_, ?_, ?_, ?_⟩
  all_goals
    intro hstate
    rw [upgradeAcceptResponse, if_neg hanswer, hstate]
    exact if_neg (not_not.mpr rfl)

/-- `FW_BEGIN` is answered with a session and an offset in the image. -/
theorem upgradeAcceptResponse_begin (hstate : upgrade.state = .begin) {sessionId offset : UInt32}
    (hpayload : response.payload = putLe32 sessionId ++ putLe32 offset) (hsession : sessionId ≠ 0)
    (hoffset : offset.toNat ≤ upgrade.imageSize) :
    upgradeAcceptResponse upgrade Msg.fwBegin response =
      (.ok, Upgrade.resume { upgrade with sessionId := sessionId, offset := offset }) := by
  obtain ⟨hfirst, hsecond, hlength⟩ := words_of_payload hpayload
  have hmatch : ¬ (Msg.fwBegin ≠ Msg.fwBegin ∨ response.payload.length ≠ 8) := by
    simp [hlength]
  have hrange : ¬ (sessionId = 0 ∨ offset.toNat > upgrade.imageSize) :=
    not_or.mpr ⟨hsession, Nat.not_lt.mpr hoffset⟩
  rw [upgradeAcceptResponse, if_neg hanswer, hstate]
  dsimp only
  rw [if_neg hmatch, hfirst, hsecond]
  exact if_neg hrange

/-- `FW_DATA` is answered with the end of the chunk. -/
theorem upgradeAcceptResponse_data (hstate : upgrade.state = .transfer) {offset : UInt32}
    (hpayload : response.payload = putLe32 offset) (hlast : offset = upgrade.lastChunkEnd)
    (hoffset : offset.toNat ≤ upgrade.imageSize) :
    upgradeAcceptResponse upgrade Msg.fwData response =
      (.ok, Upgrade.resume { upgrade with offset := offset }) := by
  obtain ⟨hword, hlength⟩ := word_of_payload hpayload
  have hmatch : ¬ (Msg.fwData ≠ Msg.fwData ∨ response.payload.length ≠ 4) := by
    simp [hlength]
  have hrange : ¬ (offset ≠ upgrade.lastChunkEnd ∨ offset.toNat > upgrade.imageSize) :=
    not_or.mpr ⟨not_not.mpr hlast, Nat.not_lt.mpr hoffset⟩
  rw [upgradeAcceptResponse, if_neg hanswer, hstate]
  dsimp only
  rw [if_neg hmatch, hword]
  exact if_neg hrange

/-- `FW_STATUS` is answered with the session and an offset in the image. -/
theorem upgradeAcceptResponse_status (hstate : upgrade.state = .recover) {offset : UInt32}
    (hpayload : response.payload = putLe32 upgrade.sessionId ++ putLe32 offset)
    (hoffset : offset.toNat ≤ upgrade.imageSize) :
    upgradeAcceptResponse upgrade Msg.fwStatus response =
      (.ok, Upgrade.resume { upgrade with offset := offset }) := by
  obtain ⟨hfirst, hsecond, hlength⟩ := words_of_payload hpayload
  have hmatch : ¬ (Msg.fwStatus ≠ Msg.fwStatus ∨ response.payload.length ≠ 8 ∨
      getLe32 response.payload ≠ upgrade.sessionId) := by
    simp [hlength, hfirst]
  rw [upgradeAcceptResponse, if_neg hanswer, hstate]
  dsimp only
  rw [if_neg hmatch, hsecond]
  exact if_neg (Nat.not_lt.mpr hoffset)

/-- `FW_VERIFY` is answered with the CRC of the image. -/
theorem upgradeAcceptResponse_verify (hstate : upgrade.state = .verify)
    (hpayload : response.payload = putLe32 upgrade.imageCrc) :
    upgradeAcceptResponse upgrade Msg.fwVerify response =
      (.ok, { upgrade with state := .activate }) := by
  obtain ⟨hword, hlength⟩ := word_of_payload hpayload
  rw [upgradeAcceptResponse, if_neg hanswer, hstate]
  exact if_neg (by simp [hlength, hword])

end Answered

theorem Upgrade.Safe.refuse {upgrade : Upgrade} (h : upgrade.Safe) (sessionId offset : UInt32) :
    ({ upgrade with sessionId := sessionId, offset := offset, state := .error } :
      Upgrade).Safe :=
  ⟨h.size_le, h.chunkSize_ne, h.lastChunkEnd_le, by simp, by simp⟩

theorem Upgrade.resume_state (upgrade : Upgrade) :
    upgrade.resume.state =
      if upgrade.offset.toNat = upgrade.imageSize then .end else .transfer := rfl

theorem Upgrade.Safe.resume {upgrade : Upgrade} (h : upgrade.Safe) {sessionId offset : UInt32}
    (hsession : sessionId ≠ 0) (hoffset : offset.toNat ≤ upgrade.imageSize) :
    (Upgrade.resume { upgrade with sessionId := sessionId, offset := offset }).Safe := by
  have hsize : offset.toNat ≤
      ({ upgrade with sessionId := sessionId, offset := offset } : Upgrade).imageSize := hoffset
  refine ⟨h.size_le, h.chunkSize_ne, h.lastChunkEnd_le, ?_, ?_⟩
  all_goals rw [resume_state]
  · split
    · simp
    · rename_i hne
      exact fun _ => ⟨Nat.lt_of_le_of_ne hsize hne, hsession⟩
  · split
    · rename_i hsent
      exact fun _ => hsent
    · simp

/-- The next state after an answer without an offset. -/
theorem Upgrade.Safe.advance {upgrade : Upgrade} (h : upgrade.Safe) {state : UpgradeState}
    (hresumable : state ≠ .transfer ∧ state ≠ .recover)
    (hsent : state = .begin ∨ upgrade.offset.toNat = upgrade.imageSize) :
    ({ upgrade with state := state } : Upgrade).Safe := by
  refine ⟨h.size_le, h.chunkSize_ne, h.lastChunkEnd_le, ?_, ?_⟩
  · rintro (hstate | hstate)
    · exact absurd hstate hresumable.1
    · exact absurd hstate hresumable.2
  · intro hstate
    rcases hsent with rfl | hoffset
    · simp at hstate
    · exact hoffset

theorem Upgrade.Safe.accept {upgrade : Upgrade} (h : upgrade.Safe) (requestType : UInt8)
    (response : Frame) : (upgradeAcceptResponse upgrade requestType response).2.Safe := by
  have haccepts := upgradeAcceptResponse_accepts upgrade requestType response
  generalize upgradeAcceptResponse upgrade requestType response = result at haccepts ⊢
  cases haccepts with
  | refused sessionId offset => exact h.refuse sessionId offset
  | entered => exact h.advance (by simp) (.inl rfl)
  | begun _ _ hsession hoffset => exact h.resume hsession hoffset
  | transferred hstate _ _ hsize => exact h.resume (h.resumable (.inl hstate)).2 hsize
  | recovered hstate _ hoffset => exact h.resume (h.resumable (.inr hstate)).2 hoffset
  | ended hstate => exact h.advance (by simp) (.inr (h.sent (by simp [hstate])))
  | verified hstate => exact h.advance (by simp) (.inr (h.sent (by simp [hstate])))
  | activated hstate => exact h.advance (by simp) (.inr (h.sent (by simp [hstate])))
  | rebooted hstate => exact h.advance (by simp) (.inr (h.sent (by simp [hstate])))

theorem upgradeAcceptResponse_sameImage (upgrade : Upgrade) (requestType : UInt8)
    (response : Frame) :
    upgrade.SameImage (upgradeAcceptResponse upgrade requestType response).2 := by
  have haccepts := upgradeAcceptResponse_accepts upgrade requestType response
  generalize upgradeAcceptResponse upgrade requestType response = result at haccepts ⊢
  cases haccepts
  all_goals exact ⟨rfl, rfl, rfl, rfl⟩

/-! ## Recovery -/

theorem Upgrade.Safe.recovery {upgrade : Upgrade} (h : upgrade.Safe) :
    (upgradeBeginRecovery upgrade).2.Safe := by
  rw [upgradeBeginRecovery]
  split_ifs with hstate hattempts
  · exact h
  · exact h.refuse _ _
  · rw [not_or, not_and_or, not_not, not_not] at hstate
    exact ⟨h.size_le, h.chunkSize_ne, h.lastChunkEnd_le, fun _ => h.resumable hstate.2, by simp⟩

theorem upgradeBeginRecovery_sameImage (upgrade : Upgrade) :
    upgrade.SameImage (upgradeBeginRecovery upgrade).2 := by
  rw [upgradeBeginRecovery]
  split_ifs
  all_goals exact ⟨rfl, rfl, rfl, rfl⟩

/-! ## Runs -/

/-- The functions of `include/devmgr/upgrade.h` that drive a started upgrade. -/
inductive UpgradeOp
  | buildRequest
  | acceptResponse (requestType : UInt8) (response : Frame)
  | beginRecovery

/-- An upgrade and the frames that it has built. -/
structure UpgradeRun where
  upgrade : Upgrade
  built : List Frame

def UpgradeRun.step (run : UpgradeRun) : UpgradeOp → UpgradeRun
  | .buildRequest =>
    match upgradeBuildRequest run.upgrade with
    | .error _ => run
    | .ok (frame, upgrade) => ⟨upgrade, run.built ++ [frame]⟩
  | .acceptResponse requestType response =>
    { run with upgrade := (upgradeAcceptResponse run.upgrade requestType response).2 }
  | .beginRecovery => { run with upgrade := (upgradeBeginRecovery run.upgrade).2 }

/-- The run of a list of operations on a started upgrade. -/
def upgradeRun (started : Upgrade) (ops : List UpgradeOp) : UpgradeRun :=
  ops.foldl UpgradeRun.step ⟨started, []⟩

theorem upgradeRun_concat (started : Upgrade) (ops : List UpgradeOp) (op : UpgradeOp) :
    upgradeRun started (ops ++ [op]) = (upgradeRun started ops).step op := by
  rw [upgradeRun, List.foldl_append]
  rfl

theorem UpgradeRun.step_safe {started : Upgrade} {run : UpgradeRun}
    (h : run.upgrade.Safe ∧ started.SameImage run.upgrade) (op : UpgradeOp) :
    (run.step op).upgrade.Safe ∧ started.SameImage (run.step op).upgrade := by
  obtain ⟨hsafe, hsame⟩ := h
  cases op with
  | buildRequest =>
    rw [step]
    split
    · exact ⟨hsafe, hsame⟩
    · rename_i hbuild
      exact ⟨hsafe.build hbuild, hsame.trans (upgradeBuildRequest_eq_ok hbuild).2.1⟩
  | acceptResponse requestType response =>
    exact ⟨hsafe.accept requestType response,
      hsame.trans (upgradeAcceptResponse_sameImage _ requestType response)⟩
  | beginRecovery =>
    exact ⟨hsafe.recovery, hsame.trans (upgradeBeginRecovery_sameImage _)⟩

theorem upgradeRun_inv {started : Upgrade} (h : started.Safe) (ops : List UpgradeOp) :
    (upgradeRun started ops).upgrade.Safe ∧
      started.SameImage (upgradeRun started ops).upgrade := by
  refine List.foldlRecOn
    (motive := fun run : UpgradeRun => run.upgrade.Safe ∧ started.SameImage run.upgrade)
    ops _ ⟨h, ⟨rfl, rfl, rfl, rfl⟩⟩ ?_
  intro run hrun op _
  exact UpgradeRun.step_safe hrun op

/-- The states behind the verification. -/
def UpgradeState.verified (state : UpgradeState) : Prop :=
  state = .activate ∨ state = .reboot ∨ state = .complete

/-- In the history of the run, an `FW_VERIFY` response was accepted that confirms
the CRC, and no `FW_DATA` frame was built after it. -/
def UpgradeRun.Verified (started : Upgrade) (ops : List UpgradeOp) : Prop :=
  ∃ before response after sent,
    ops = before ++ .acceptResponse Msg.fwVerify response :: after ∧
    (upgradeAcceptResponse (upgradeRun started before).upgrade Msg.fwVerify response).1 = .ok ∧
    response.payload.length = 4 ∧ getLe32 response.payload = started.imageCrc ∧
    (upgradeRun started ops).built = (upgradeRun started before).built ++ sent ∧
    ∀ frame ∈ sent, frame.type ≠ Msg.fwData

/-- The frames that an operation builds are of the type that belongs to the
state. -/
theorem UpgradeRun.step_built (run : UpgradeRun) (op : UpgradeOp) :
    ∃ sent, (run.step op).built = run.built ++ sent ∧
      ∀ frame ∈ sent, run.upgrade.state.requestType = some frame.type := by
  cases op with
  | buildRequest =>
    rw [step]
    split
    · exact ⟨[], by simp, by simp⟩
    · rename_i hbuild
      refine ⟨[_], rfl, ?_⟩
      intro frame hmem
      rw [List.mem_singleton.mp hmem]
      exact (upgradeBuildRequest_eq_ok hbuild).1
  | acceptResponse _ _ => exact ⟨[], by simp [step], by simp⟩
  | beginRecovery => exact ⟨[], by simp [step], by simp⟩

/-- The only way to a state behind the verification is a confirmed CRC. -/
theorem UpgradeRun.step_verified {run : UpgradeRun} {op : UpgradeOp}
    (hbefore : ¬ run.upgrade.state.verified) (hafter : (run.step op).upgrade.state.verified) :
    ∃ response, op = .acceptResponse Msg.fwVerify response ∧
      (upgradeAcceptResponse run.upgrade Msg.fwVerify response).1 = .ok ∧
      response.payload.length = 4 ∧ getLe32 response.payload = run.upgrade.imageCrc := by
  cases op with
  | buildRequest =>
    rw [step] at hafter
    split at hafter
    · exact absurd hafter hbefore
    · rename_i hbuild
      rw [(upgradeBuildRequest_eq_ok hbuild).2.2.1] at hafter
      exact absurd hafter hbefore
  | acceptResponse requestType response =>
    rw [step] at hafter
    have haccepts := upgradeAcceptResponse_accepts run.upgrade requestType response
    generalize hresult : upgradeAcceptResponse run.upgrade requestType response = result
      at haccepts hafter
    unfold UpgradeState.verified at hbefore hafter
    cases haccepts with
    | verified hstate htype hlength hcrc =>
      subst htype
      exact ⟨response, rfl, by rw [hresult], hlength, hcrc⟩
    | activated hstate => exact absurd (.inl hstate) hbefore
    | rebooted hstate => exact absurd (.inr (.inl hstate)) hbefore
    | begun | transferred | recovered =>
      rw [Upgrade.resume_state] at hafter
      split at hafter <;> simp at hafter
    | refused | entered | ended => simp at hafter
  | beginRecovery =>
    rw [step, upgradeBeginRecovery] at hafter
    unfold UpgradeState.verified at hbefore hafter
    split_ifs at hafter
    · exact absurd hafter hbefore
    · simp at hafter
    · simp at hafter

theorem upgradeRun_verified {started : Upgrade} (hsafe : started.Safe)
    (hstarted : started.state = .enterBootloader) (ops : List UpgradeOp)
    (h : (upgradeRun started ops).upgrade.state.verified) :
    UpgradeRun.Verified started ops := by
  induction ops using List.reverseRecOn with
  | nil =>
    unfold UpgradeState.verified at h
    simp [upgradeRun, hstarted] at h
  | append_singleton ops op ih =>
    rw [upgradeRun_concat] at h
    by_cases hold : (upgradeRun started ops).upgrade.state.verified
    · -- Verified before: the new operation cannot build image data.
      obtain ⟨before, response, after, sent, hops, hok, hlength, hcrc, hbuilt, hsent⟩ := ih hold
      obtain ⟨more, hmore, htypes⟩ := (upgradeRun started ops).step_built op
      refine ⟨before, response, after ++ [op], sent ++ more, by simp [hops], hok, hlength, hcrc,
        ?_, ?_⟩
      · rw [upgradeRun_concat, hmore, hbuilt, List.append_assoc]
      · intro frame hmem
        rcases List.mem_append.mp hmem with hmem | hmem
        · exact hsent frame hmem
        · have htype := htypes frame hmem
          intro hdata
          rw [hdata] at htype
          rcases hold with hstate | hstate | hstate
          all_goals
            rw [hstate] at htype
            exact absurd htype (by decide)
    · obtain ⟨response, rfl, hok, hlength, hcrc⟩ := UpgradeRun.step_verified hold h
      refine ⟨ops, response, [], [], rfl, hok, hlength, ?_, ?_, by simp⟩
      · rw [hcrc, (upgradeRun_inv hsafe ops).2.imageCrc]
      · rw [upgradeRun_concat]
        simp [UpgradeRun.step]

/-- Whatever the device answers, in every state of a started upgrade the offsets
are inside the image, a request can be built, image data is sent as it stands in
the image, and activation has a confirmed CRC behind it. -/
theorem upgradeRun_safe {capacity : Nat} {imageData : List UInt8} {imageCrc : UInt32}
    {version : CString capacity} {chunkSize : UInt16} {started : Upgrade}
    (hstart : upgradeStart imageData imageCrc version chunkSize = .ok started)
    (ops : List UpgradeOp) :
    let upgrade := (upgradeRun started ops).upgrade
    upgrade.lastChunkEnd.toNat ≤ imageData.length ∧
    (upgrade.state = .transfer ∨ upgrade.state = .recover →
      upgrade.offset.toNat < imageData.length ∧ upgrade.sessionId ≠ 0) ∧
    (upgrade.state = .end ∨ upgrade.state = .verify ∨ upgrade.state = .activate ∨
        upgrade.state = .reboot ∨ upgrade.state = .complete →
      upgrade.offset.toNat = imageData.length) ∧
    (upgrade.state = .enterBootloader ∨ upgrade.state = .begin ∨ upgrade.state = .transfer ∨
        upgrade.state = .recover ∨ upgrade.state = .end ∨ upgrade.state = .verify ∨
        upgrade.state = .activate ∨ upgrade.state = .reboot →
      ∃ frame upgrade', upgradeBuildRequest upgrade = .ok (frame, upgrade')) ∧
    (∀ frame upgrade', upgradeBuildRequest upgrade = .ok (frame, upgrade') →
      frame.type = Msg.fwData →
      let start := upgrade.offset.toNat
      let stop := min (start + chunkSize.toNat) imageData.length
      frame.payload =
          putLe32 upgrade.sessionId ++ putLe32 upgrade.offset ++ imageData.extract start stop ∧
        start < stop ∧ stop ≤ imageData.length ∧ frame.payload.length ≤ 4096) ∧
    (upgrade.state = .activate ∨ upgrade.state = .reboot ∨ upgrade.state = .complete →
      UpgradeRun.Verified started ops) := by
  intro upgrade
  obtain ⟨hsafe, hstate, rfl, rfl, rfl, -⟩ := upgradeStart_eq_ok hstart
  obtain ⟨hinv, hsame⟩ : upgrade.Safe ∧ started.SameImage upgrade := upgradeRun_inv hsafe ops
  have hsize : upgrade.imageSize = started.imageData.length := congrArg List.length hsame.imageData
  rw [← hsize]
  refine ⟨hinv.lastChunkEnd_le, hinv.resumable, hinv.sent, ?_, ?_,
    upgradeRun_verified hsafe hstate ops⟩
  · intro hactive
    refine hinv.build_isOk ?_
    rcases hactive with h | h | h | h | h | h | h | h
    all_goals
      rw [h]
      rfl
  · intro frame upgrade' hbuild htype start stop
    obtain ⟨htransfer, hpayload⟩ := upgradeBuildRequest_fwData hbuild htype
    obtain ⟨hpos, hend⟩ := hinv.chunk_bounds htransfer
    rw [hsame.chunkSize] at hend
    have hstop : stop = start + upgrade.chunk := hend.symm
    have hle : stop ≤ upgrade.imageSize := Nat.min_le_right _ _
    refine ⟨?_, by omega, hle, frame.payload_le⟩
    rw [hpayload, Upgrade.dataPayload, hsame.imageData, hstop, List.extract_eq_take_drop,
      Nat.add_sub_cancel_left]

/-- A run to the end of a two-byte image, sent in one chunk. -/
theorem upgradeRun_safe_two_bytes :
    let answer (type : UInt8) (payload : List UInt8) (h : payload.length ≤ maxPayload) :
        UpgradeOp := .acceptResponse type ⟨type, Flag.response, 1, payload, h⟩
    let ops := [.buildRequest, answer Msg.enterBootloader [] (by decide),
      .buildRequest, answer Msg.fwBegin [1, 0, 0, 0, 0, 0, 0, 0] (by decide),
      .buildRequest, answer Msg.fwData [2, 0, 0, 0] (by decide),
      .buildRequest, answer Msg.fwEnd [] (by decide),
      .buildRequest, answer Msg.fwVerify [7, 0, 0, 0] (by decide)]
    let version : CString 8 := ⟨[0x31], by decide, by simp⟩
    ∃ started, upgradeStart [0xAB, 0xCD] 7 version 16 = .ok started ∧
      (upgradeRun started ops).upgrade.state = .activate ∧
      UpgradeRun.Verified started ops := by
  intro answer ops version
  refine ⟨_, rfl, by decide, ?_⟩
  have hsafe := upgradeRun_safe (show upgradeStart [0xAB, 0xCD] 7 version 16 = .ok _ from rfl) ops
  exact hsafe.2.2.2.2.2 (.inl (by decide))

end Devmgr
