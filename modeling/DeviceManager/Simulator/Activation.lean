import DeviceManager.Simulator.Sessions

/-!
# What the simulator verifies and activates

`FW_VERIFY` compares the CRC of the whole flash buffer with the one announced.  It does
not ask whether the transfer is complete, so it can succeed on bytes that `malloc` left in
the buffer.  `FW_DATA` does not take the verification back, and `FW_ACTIVATE` asks for
nothing else.

`prematureVerify` is an `FW_VERIFY` that succeeds that way.  In a run without one, a
verified image is complete and has its CRC: `verified_image_complete`.
`verify_before_transfer` is a run with one.
-/

namespace Simulator

open Devmgr

/-- An `FW_VERIFY` of the current session, before the end of the transfer, where the bytes
that are left in the buffer make up the CRC. -/
def State.prematureVerify (request : Frame) (state : State) : Prop :=
  request.type = Msg.fwVerify ∧ state.firmwareUpgrading = true ∧
    state.addressed request.payload ∧ state.failVerify = false ∧
    state.firmwareOffset.toNat < state.flashSize ∧
    crc32 state.contents = state.expectedFirmwareCrc

instance (request : Frame) (state : State) : Decidable (state.prematureVerify request) :=
  inferInstanceAs (Decidable (_ ∧ _ ∧ _ ∧ _ ∧ _ ∧ _))

/-- A verified image is complete and has its CRC. -/
def State.VerifiedComplete (state : State) : Prop :=
  state.firmwareVerified = true →
    state.firmwareOffset.toNat = state.flashSize ∧
      crc32 state.contents = state.expectedFirmwareCrc

theorem actualCrc_eq {state : State} (h : state.flash.isSome = true) :
    state.actualCrc = crc32 state.contents := by
  obtain ⟨flash, hflash⟩ := Option.isSome_iff_exists.mp h
  rw [State.actualCrc, State.contents, hflash]
  rfl

theorem Keeps.verifiedComplete {state state' : State} (h : Keeps state state')
    (hcomplete : state.firmwareOffset.toNat = state.flashSize ∧
      crc32 state.contents = state.expectedFirmwareCrc) : state'.VerifiedComplete := by
  intro _
  rw [State.flashSize, State.contents, h.flash, h.offset, h.expectedCrc]
  exact hcomplete

section Step

variable {env : Env} {request : Frame} {s : Recorded}

/-- One request that is no premature verification. -/
theorem Recorded.Sound.verifiedComplete (h : s.Sound) (hcomplete : s.device.VerifiedComplete)
    (hverify : ¬ s.device.prematureVerify request) :
    (s.next env request).device.VerifiedComplete := by
  rw [next_device]
  have hcase := @onFrame_cases env request s.device
  generalize (onFrame env request s.device).2 = device at hcase ⊢
  cases hcase with
  | kept _ _ hkeeps hverified =>
    intro hafter
    exact hkeeps.verifiedComplete (hcomplete (hverified hafter)) hafter
  | verified _ _ hkeeps htype hupgrading haddressed hfail hcrc =>
    obtain ⟨hflash, _⟩ := h.upgrading hupgrading
    rw [actualCrc_eq hflash] at hcrc
    have hend : ¬ s.device.firmwareOffset.toNat < s.device.flashSize := fun hbefore =>
      hverify ⟨htype, hupgrading, haddressed, hfail, hbefore, hcrc⟩
    have hle := h.offset_le
    exact hkeeps.verifiedComplete ⟨by omega, hcrc⟩
  | begun _ _ _ _ _ _ hverified =>
    intro hafter
    rw [hverified] at hafter
    cases hafter
  | programmed _ hcommits hkeeps hverified =>
    -- There is no room for another byte behind a complete image.
    intro hafter
    rw [hverified] at hafter
    obtain ⟨_, _, _, hend, _⟩ := h.commits hcommits
    simp only [State.commits, decide_eq_true_eq] at hcommits
    have hlong := hcommits.2.2.1
    have hlength : (dataBytes request).length = request.payload.length - 8 := List.length_drop
    have hfull := (hcomplete hafter).1
    omega

end Step

/-! ## The answers -/

section Answers

variable {env : Env} {request : Frame} {state : State}

/-- When `FW_VERIFY` is answered positively. -/
theorem fwVerify_accepts (htype : request.type = Msg.fwVerify) :
    (onFrame env request state).1.type ≠ Msg.nack ↔
      state.firmwareUpgrading = true ∧ state.addressed request.payload ∧
        state.failVerify = false ∧ state.actualCrc = state.expectedFirmwareCrc := by
  have hhandle := (handle_dispatch env request
    { state with rxFrames := state.rxFrames + 1 }).2.2.2.1 htype
  unfold onFrame
  rw [hhandle, fwVerify]
  split
  · rename_i hrefused
    refine ⟨fun h => absurd rfl h, ?_⟩
    rintro ⟨hupgrading, haddressed, hfail, hcrc⟩
    rcases hrefused with h | h | h | h
    · exact absurd hupgrading h
    · exact absurd haddressed h
    · exact absurd (hfail.symm.trans h) Bool.false_ne_true
    · exact absurd hcrc h
  · rename_i haccepted
    simp only [not_or, not_not] at haccepted
    refine ⟨fun _ => ⟨haccepted.1, haccepted.2.1,
      Bool.eq_false_of_not_eq_true haccepted.2.2.1, haccepted.2.2.2⟩, fun _ => ?_⟩
    show request.type ≠ Msg.nack
    rw [htype]
    decide

/-- `FW_ACTIVATE` is answered positively only for a verified image. -/
theorem fwActivate_accepts (htype : request.type = Msg.fwActivate)
    (h : (onFrame env request state).1.type ≠ Msg.nack) : state.firmwareVerified = true := by
  have hhandle := (handle_dispatch env request
    { state with rxFrames := state.rxFrames + 1 }).2.2.2.2 htype
  unfold onFrame at h
  rw [hhandle, fwActivate] at h
  split at h
  · exact absurd rfl h
  · rename_i haccepted
    exact not_not.mp (not_or.mp haccepted).1

end Answers

theorem complete_reachable {config : Config} {s : Recorded}
    (h : (recordedSystem config).ReachableBy
      (fun s e => ¬ s.device.prematureVerify e.2) s) : s.Sound ∧ s.device.VerifiedComplete := by
  induction h with
  | init hs =>
    obtain rfl := hs
    refine ⟨sound_init config, ?_⟩
    intro hverified
    cases hverified
  | step _ hverify hstep ih =>
    obtain rfl := Option.some.inj hstep
    exact ⟨ih.1.next, ih.1.verifiedComplete ih.2 hverify⟩

/-- In a run without a premature verification, a verified image has its CRC, and the
answers to `FW_VERIFY` and `FW_ACTIVATE` are positive only when every byte of the image
was committed; the next request keeps to that exactly if it is no premature verification
either. -/
theorem verified_image_complete {config : Config} {s : Recorded}
    (h : (recordedSystem config).ReachableBy
      (fun s e => ¬ s.device.prematureVerify e.2) s) :
    (s.device.firmwareVerified = true →
      crc32 s.device.contents = s.device.expectedFirmwareCrc) ∧
    ∀ env request,
      (request.type = Msg.fwVerify ∨ request.type = Msg.fwActivate →
        (onFrame env request s.device).1.type ≠ Msg.nack →
        s.device.firmwareOffset.toNat = s.device.flashSize ∧
          s.device.contents = s.committed.flatMap dataBytes) ↔
      ¬ s.device.prematureVerify request := by
  obtain ⟨hsound, hcomplete⟩ := complete_reachable h
  have hcommitted : s.device.firmwareOffset.toNat = s.device.flashSize →
      s.device.firmwareOffset.toNat = s.device.flashSize ∧
        s.device.contents = s.committed.flatMap dataBytes := by
    intro hend
    have hwritten := hsound.written
    rw [hend, State.flashSize, List.take_length] at hwritten
    exact ⟨hend, hwritten⟩
  refine ⟨fun hverified => (hcomplete hverified).2, fun env request => ⟨?_, ?_⟩⟩
  · rintro hanswers ⟨htype, hupgrading, haddressed, hfail, hbefore, hcrc⟩
    have hflash := (hsound.upgrading hupgrading).1
    have haccepts := (@fwVerify_accepts env request s.device htype).mpr
      ⟨hupgrading, haddressed, hfail, (actualCrc_eq hflash).trans hcrc⟩
    have hend := (hanswers (.inl htype) haccepts).1
    omega
  · rintro hverify (htype | htype) haccepts
    · obtain ⟨hupgrading, haddressed, hfail, hcrc⟩ := (fwVerify_accepts htype).mp haccepts
      have hflash := (hsound.upgrading hupgrading).1
      rw [actualCrc_eq hflash] at hcrc
      have hend : ¬ s.device.firmwareOffset.toNat < s.device.flashSize := fun hbefore =>
        hverify ⟨htype, hupgrading, haddressed, hfail, hbefore, hcrc⟩
      have hle := hsound.offset_le
      exact hcommitted (by omega)
    · exact hcommitted (hcomplete (fwActivate_accepts htype haccepts)).1

/-- `FW_VERIFY`, over fresh memory that is all zero. -/
def verifyEvent (session : UInt32) : Env × Frame :=
  zeroEvent Msg.fwVerify (putLe32 session) (putLe32_le _)

/-- An image of one byte is transferred and verified. -/
def transferAndVerify : List (Env × Frame) :=
  [zeroEvent Msg.enterBootloader [] (Nat.zero_le _), beginEvent 1 (crc32 [0xAB]),
    byteEvent 1 0 0xAB, verifyEvent 1]

/-- Its activation is answered positively, and the flash holds the byte that was sent. -/
theorem verified_image_complete_one_byte :
    ∃ s, (recordedSystem ⟨-1, false⟩).runBy (fun s e => ¬ s.device.prematureVerify e.2)
        ⟨init ⟨-1, false⟩, [], []⟩ transferAndVerify = some s ∧
      (onFrame ⟨0, none⟩ ⟨Msg.fwActivate, 0, 2, putLe32 1, by simp [maxPayload]⟩
        s.device).1.type ≠ Msg.nack ∧
      s.device.firmwareOffset.toNat = s.device.flashSize ∧
      s.device.contents = s.committed.flatMap dataBytes := by
  refine ⟨_, rfl, by decide +kernel, ?_⟩
  have hreach : (recordedSystem ⟨-1, false⟩).ReachableBy
      (fun s e => ¬ s.device.prematureVerify e.2) _ :=
    System.ReachableBy.runBy (.init rfl)
      (show (recordedSystem ⟨-1, false⟩).runBy (fun s e => ¬ s.device.prematureVerify e.2)
        ⟨init ⟨-1, false⟩, [], []⟩ transferAndVerify = some _ from rfl)
  exact ((verified_image_complete hreach).2 ⟨0, none⟩
    ⟨Msg.fwActivate, 0, 2, putLe32 1, by simp [maxPayload]⟩).mpr (by decide +kernel) (.inr rfl)
    (by decide +kernel)

/-- An image of one byte is announced, and then verified: no byte was sent. -/
def verifyFirst : List (Env × Frame) :=
  [zeroEvent Msg.enterBootloader [] (Nat.zero_le _), beginEvent 1 (crc32 [0]),
    verifyEvent 1]

/-- The transfer of another byte after that. -/
def otherByte : Env × Frame := byteEvent 1 0 0xAB

/-- Fresh memory holds a zero, and the CRC announced is that of a zero: the empty transfer
is verified and activated.  The byte that comes later differs, and the image stays
verified. -/
theorem verify_before_transfer :
    ∃ s t, (recordedSystem ⟨-1, false⟩).runFrom ⟨init ⟨-1, false⟩, [], []⟩ verifyFirst = some s ∧
      s.committed = [] ∧ s.device.flashSize = 1 ∧ s.device.firmwareVerified = true ∧
      (onFrame ⟨0, none⟩ ⟨Msg.fwActivate, 0, 2, putLe32 1, by simp [maxPayload]⟩
        s.device).1.type = Msg.fwActivate ∧
      (recordedSystem ⟨-1, false⟩).step s otherByte = some t ∧
      t.device.firmwareVerified = true ∧
      crc32 t.device.contents ≠ t.device.expectedFirmwareCrc := by
  refine ⟨_, _, rfl, ?_, ?_, ?_, ?_, rfl, ?_, ?_⟩
  all_goals decide +kernel

end Simulator
