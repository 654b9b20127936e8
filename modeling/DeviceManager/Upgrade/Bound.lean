import DeviceManager.Upgrade.Safety

/-!
# An upgrade ends

The daemon drives an upgrade in turns: it builds a request, and either the device
answers it or all its retries time out, in which case recovery is begun, and a
recovery that cannot be begun ends the upgrade.  The device chooses what it
answers, the offset to go on from included, so the offset can move back at the
beginning and at each recovery.

Two potentials bound what is left, `Upgrade.chunksLeft` for the `FW_DATA` requests
and `Upgrade.othersLeft` for all others.  Each request is paid from one of them
(`Upgrade.Pays`).  A recovery is paid by the attempts that are left, which
count for the whole image once more.
-/

namespace Devmgr

/-- What the daemon hears after a request. -/
inductive DeviceTurn
  | answers (requestType : UInt8) (response : Frame)
  | timeout

/-- An upgrade, with the numbers of the requests that were built, of the `FW_DATA`
requests among them, and of the recoveries that were begun. -/
structure UpgradeDrive where
  upgrade : Upgrade
  requests : Nat
  chunks : Nat
  recoveries : Nat

/-- What follows a request: a response, or a recovery whose failure ends the
upgrade. -/
def Upgrade.afterTurn (upgrade : Upgrade) : DeviceTurn → Bool × Upgrade
  | .answers requestType response =>
    (false, (upgradeAcceptResponse upgrade requestType response).2)
  | .timeout =>
    let recovery := upgradeBeginRecovery upgrade
    if recovery.1 = .ok then (true, recovery.2)
    else (false, { recovery.2 with state := .error })

/-- One turn of the daemon. -/
def UpgradeDrive.step (drive : UpgradeDrive) (turn : DeviceTurn) : UpgradeDrive :=
  if upgradeActive drive.upgrade then
    match upgradeBuildRequest drive.upgrade with
    | .error _ => drive
    | .ok (frame, upgrade) =>
      let after := upgrade.afterTurn turn
      { upgrade := after.2
        requests := drive.requests + 1
        chunks := if frame.type = Msg.fwData then drive.chunks + 1 else drive.chunks
        recoveries := if after.1 then drive.recoveries + 1 else drive.recoveries }
  else drive

/-- The turns of a started upgrade. -/
def upgradeDrive (started : Upgrade) (turns : List DeviceTurn) : UpgradeDrive :=
  turns.foldl UpgradeDrive.step ⟨started, 0, 0, 0⟩

/-! ## Chunks -/

/-- The number of chunks from an offset to the end of the image. -/
def chunksFrom (imageSize chunkSize offset : Nat) : Nat :=
  (imageSize - offset + chunkSize - 1) / chunkSize

theorem chunksFrom_le (imageSize chunkSize offset : Nat) :
    chunksFrom imageSize chunkSize offset ≤ chunksFrom imageSize chunkSize 0 :=
  Nat.div_le_div_right (by omega)

theorem chunksFrom_pos {imageSize chunkSize offset : Nat} (hsize : 0 < chunkSize)
    (hoffset : offset < imageSize) : 0 < chunksFrom imageSize chunkSize offset :=
  Nat.div_pos (by omega) hsize

/-- A chunk is one chunk less. -/
theorem chunksFrom_succ {imageSize chunkSize offset : Nat} (hsize : 0 < chunkSize)
    (hoffset : offset < imageSize) :
    chunksFrom imageSize chunkSize (min (offset + chunkSize) imageSize) + 1 =
      chunksFrom imageSize chunkSize offset := by
  have hthis : chunksFrom imageSize chunkSize offset =
      (imageSize - offset - 1) / chunkSize + 1 := by
    rw [chunksFrom, ← Nat.add_div_right _ hsize]
    congr 1
    omega
  have hnext : chunksFrom imageSize chunkSize (min (offset + chunkSize) imageSize) =
      (imageSize - offset - 1) / chunkSize := by
    rw [chunksFrom]
    rcases Nat.le_total (offset + chunkSize) imageSize with hwhole | hlast
    · rw [Nat.min_eq_left hwhole]
      congr 1
      omega
    · rw [Nat.min_eq_right hlast, Nat.div_eq_of_lt (by omega), Nat.div_eq_of_lt (by omega)]
  rw [hthis, hnext]

/-! ## What is left of an upgrade -/

namespace Upgrade

/-- The chunks of the whole image. -/
def wholeChunks (upgrade : Upgrade) : Nat :=
  chunksFrom upgrade.imageSize upgrade.chunkSize.toNat 0

/-- The recoveries that can still be begun. -/
def attemptsLeft (upgrade : Upgrade) : Nat := 3 - upgrade.recoveryAttempts.toNat

/-- A bound on the `FW_DATA` requests to come. -/
def chunksLeft (upgrade : Upgrade) : Nat :=
  match upgrade.state with
  | .enterBootloader | .begin | .recover =>
    upgrade.wholeChunks + upgrade.attemptsLeft * upgrade.wholeChunks
  | .transfer =>
    chunksFrom upgrade.imageSize upgrade.chunkSize.toNat upgrade.offset.toNat +
      upgrade.attemptsLeft * upgrade.wholeChunks
  | _ => 0

/-- A bound on the other requests to come. -/
def othersLeft (upgrade : Upgrade) : Nat :=
  match upgrade.state with
  | .enterBootloader => upgrade.attemptsLeft + 6
  | .begin => upgrade.attemptsLeft + 5
  | .recover => upgrade.attemptsLeft + 5
  | .transfer => upgrade.attemptsLeft + 4
  | .end => 4
  | .verify => 3
  | .activate => 2
  | .reboot => 1
  | _ => 0

/-- A request of `upgrade`, after which there is `after`, is paid. -/
def Pays (upgrade after : Upgrade) : Prop :=
  if upgrade.state = .transfer then
    after.chunksLeft + 1 ≤ upgrade.chunksLeft ∧ after.othersLeft ≤ upgrade.othersLeft
  else
    after.chunksLeft ≤ upgrade.chunksLeft ∧ after.othersLeft + 1 ≤ upgrade.othersLeft

/-- Where a transfer goes on, no more is left than the transfer needs. -/
theorem resume_left (upgrade : Upgrade) (sessionId offset : UInt32) :
    (resume { upgrade with sessionId := sessionId, offset := offset }).chunksLeft ≤
        chunksFrom upgrade.imageSize upgrade.chunkSize.toNat offset.toNat +
          upgrade.attemptsLeft * upgrade.wholeChunks ∧
      (resume { upgrade with sessionId := sessionId, offset := offset }).othersLeft ≤
        upgrade.attemptsLeft + 4 := by
  rw [chunksLeft, othersLeft, resume_state]
  split_ifs
  · exact ⟨Nat.zero_le _, Nat.le_add_left _ _⟩
  · exact ⟨Nat.le_refl _, Nat.le_refl _⟩

theorem left_of_transfer {upgrade : Upgrade} (h : upgrade.state = .transfer) :
    upgrade.chunksLeft =
        chunksFrom upgrade.imageSize upgrade.chunkSize.toNat upgrade.offset.toNat +
          upgrade.attemptsLeft * upgrade.wholeChunks ∧
      upgrade.othersLeft = upgrade.attemptsLeft + 4 := by
  rw [chunksLeft, othersLeft, h]
  exact ⟨rfl, rfl⟩

theorem left_of_resumes {upgrade : Upgrade}
    (h : upgrade.state = .begin ∨ upgrade.state = .recover) :
    upgrade.chunksLeft = upgrade.wholeChunks + upgrade.attemptsLeft * upgrade.wholeChunks ∧
      upgrade.othersLeft = upgrade.attemptsLeft + 5 := by
  rcases h with h | h
  · rw [chunksLeft, othersLeft, h]
    exact ⟨rfl, rfl⟩
  · rw [chunksLeft, othersLeft, h]
    exact ⟨rfl, rfl⟩

/-- An answer with an offset, taken where the whole image is still to be paid. -/
theorem pays_resume {upgrade : Upgrade} (h : upgrade.state = .begin ∨ upgrade.state = .recover)
    (sessionId offset : UInt32) :
    upgrade.Pays (resume { upgrade with sessionId := sessionId, offset := offset }) := by
  have hne : upgrade.state ≠ .transfer := by
    rcases h with h | h
    · rw [h]
      decide
    · rw [h]
      decide
  obtain ⟨hchunks, hothers⟩ := left_of_resumes h
  obtain ⟨hafterChunks, hafterOthers⟩ := resume_left upgrade sessionId offset
  have hle : chunksFrom upgrade.imageSize upgrade.chunkSize.toNat offset.toNat ≤
      upgrade.wholeChunks := chunksFrom_le _ _ _
  rw [Pays, if_neg hne, hchunks, hothers]
  omega

/-- An upgrade that has ended needs nothing. -/
theorem left_of_error {upgrade : Upgrade} (h : upgrade.state = .error) :
    upgrade.chunksLeft = 0 ∧ upgrade.othersLeft = 0 := by
  rw [chunksLeft, othersLeft, h]
  exact ⟨rfl, rfl⟩

theorem Safe.chunkSize_pos {upgrade : Upgrade} (h : upgrade.Safe) :
    0 < upgrade.chunkSize.toNat :=
  Nat.pos_of_ne_zero fun hzero => h.chunkSize_ne (UInt16.toNat_inj.mp hzero)

/-- There is something left for every request. -/
theorem Safe.pays_error {upgrade after : Upgrade} (h : upgrade.Safe)
    (hrequest : upgrade.state.requestType.isSome) (hafter : after.state = .error) :
    upgrade.Pays after := by
  obtain ⟨hchunks, hothers⟩ := left_of_error hafter
  rw [Pays, hchunks, hothers]
  cases hstate : upgrade.state with
  | transfer =>
    have hpos := chunksFrom_pos h.chunkSize_pos (h.resumable (.inl hstate)).1
    rw [if_pos rfl, chunksLeft, hstate]
    exact ⟨by dsimp only; omega, Nat.zero_le _⟩
  | idle | validating | complete | error => simp [hstate, UpgradeState.requestType] at hrequest
  | enterBootloader | begin | recover | «end» | verify | activate | reboot =>
    rw [if_neg (by simp), othersLeft, hstate]
    exact ⟨Nat.zero_le _, by dsimp only; omega⟩

/-- Building a request leaves the potentials alone, and the chunk of a transfer
ends where the next one starts. -/
theorem Safe.build_left {upgrade built : Upgrade} {frame : Frame} (h : upgrade.Safe)
    (hbuild : upgradeBuildRequest upgrade = .ok (frame, built)) :
    built.state = upgrade.state ∧ built.chunksLeft = upgrade.chunksLeft ∧
      built.othersLeft = upgrade.othersLeft ∧
      (built.state = .transfer → built.lastChunkEnd.toNat =
        min (built.offset.toNat + built.chunkSize.toNat) built.imageSize) := by
  obtain ⟨_, hsame, hstate, hoffset, _, hattempts, hlast⟩ := upgradeBuildRequest_eq_ok hbuild
  have hsize : built.imageSize = upgrade.imageSize := congrArg List.length hsame.imageData
  have hleft : built.attemptsLeft = upgrade.attemptsLeft := by
    rw [attemptsLeft, hattempts, attemptsLeft]
  have hwhole : built.wholeChunks = upgrade.wholeChunks := by
    rw [wholeChunks, hsize, hsame.chunkSize, wholeChunks]
  refine ⟨hstate, ?_, ?_, ?_⟩
  · rw [chunksLeft, hstate, hwhole, hleft, hsize, hsame.chunkSize, hoffset, chunksLeft]
  · rw [othersLeft, hstate, hleft, othersLeft]
  · intro htransfer
    rw [hstate] at htransfer
    rw [hlast, if_pos htransfer, h.lastChunkEnd_eq htransfer, (h.chunk_bounds htransfer).2,
      hoffset, hsame.chunkSize, hsize]

/-- Whatever the device answers is paid. -/
theorem Safe.pays_accept {upgrade : Upgrade} (h : upgrade.Safe)
    (hrequest : upgrade.state.requestType.isSome)
    (hlast : upgrade.state = .transfer → upgrade.lastChunkEnd.toNat =
      min (upgrade.offset.toNat + upgrade.chunkSize.toNat) upgrade.imageSize)
    (requestType : UInt8) (response : Frame) :
    upgrade.Pays (upgradeAcceptResponse upgrade requestType response).2 := by
  have haccepts := upgradeAcceptResponse_accepts upgrade requestType response
  generalize upgradeAcceptResponse upgrade requestType response = result at haccepts ⊢
  cases haccepts with
  | refused => exact h.pays_error hrequest rfl
  | begun hstate => exact pays_resume (.inl hstate) _ _
  | recovered hstate => exact pays_resume (.inr hstate) upgrade.sessionId _
  | transferred hstate _ hoffset =>
    obtain ⟨hchunks, hothers⟩ := left_of_transfer hstate
    obtain ⟨hafterChunks, hafterOthers⟩ :=
      resume_left upgrade upgrade.sessionId (getLe32 response.payload)
    have hend : (getLe32 response.payload).toNat =
        min (upgrade.offset.toNat + upgrade.chunkSize.toNat) upgrade.imageSize := by
      rw [hoffset, hlast hstate]
    rw [hend] at hafterChunks
    have hnext := chunksFrom_succ h.chunkSize_pos (h.resumable (.inl hstate)).1
    rw [Pays, if_pos hstate, hchunks, hothers]
    dsimp only
    omega
  | entered hstate | ended hstate | verified hstate | activated hstate | rebooted hstate =>
    rw [Pays, if_neg (by rw [hstate]; decide), chunksLeft, othersLeft, chunksLeft, othersLeft,
      hstate]
    exact ⟨Nat.le_refl _, Nat.le_refl _⟩

/-- A recovery that was begun is paid with the attempt that it takes. -/
theorem Safe.pays_recovery {upgrade : Upgrade} (h : upgrade.Safe)
    (hrecovery : (upgradeBeginRecovery upgrade).1 = .ok) :
    upgrade.Pays (upgradeBeginRecovery upgrade).2 ∧
      (upgradeBeginRecovery upgrade).2.recoveryAttempts.toNat =
        upgrade.recoveryAttempts.toNat + 1 ∧ upgrade.recoveryAttempts.toNat < 3 := by
  unfold upgradeBeginRecovery at hrecovery ⊢
  split_ifs at hrecovery ⊢ with hstate hattempts
  rw [not_or, not_and_or, not_not, not_not] at hstate
  have hlt : upgrade.recoveryAttempts.toNat < 3 :=
    UInt8.lt_iff_toNat_lt.mp (UInt8.not_le.mp hattempts)
  have hcount : (upgrade.recoveryAttempts + 1).toNat = upgrade.recoveryAttempts.toNat + 1 := by
    rw [UInt8.toNat_add, UInt8.toNat_one]
    exact Nat.mod_eq_of_lt (by omega)
  refine ⟨?_, hcount, hlt⟩
  set after : Upgrade := { upgrade with
    recoveryAttempts := upgrade.recoveryAttempts + 1
    state := .recover } with hafter
  have hleft : after.attemptsLeft + 1 = upgrade.attemptsLeft := by
    rw [attemptsLeft, attemptsLeft, hafter, hcount]
    omega
  obtain ⟨hchunks, hothers⟩ := @left_of_resumes after (.inr rfl)
  have hwhole : after.chunksLeft = upgrade.attemptsLeft * upgrade.wholeChunks := by
    rw [hchunks, ← hleft, Nat.succ_mul, Nat.add_comm]
    rfl
  rw [Pays, hwhole, hothers]
  rcases hstate.2 with htransfer | hrecover
  · have hpos := chunksFrom_pos h.chunkSize_pos (h.resumable (.inl htransfer)).1
    obtain ⟨hbefore, hbeforeOthers⟩ := left_of_transfer htransfer
    rw [if_pos htransfer, hbefore, hbeforeOthers]
    omega
  · obtain ⟨hbefore, hbeforeOthers⟩ := left_of_resumes (.inr hrecover)
    rw [if_neg (by rw [hrecover]; decide), hbefore, hbeforeOthers]
    omega

end Upgrade

/-! ## Turns -/

/-- What is paid and what is left is never more than at the start. -/
structure UpgradeDrive.Bounded (started : Upgrade) (drive : UpgradeDrive) : Prop where
  safe : drive.upgrade.Safe
  validated : drive.upgrade.state ≠ .validating
  recoveries : drive.recoveries = drive.upgrade.recoveryAttempts.toNat
  recoveries_le : drive.recoveries ≤ 3
  chunksSent : drive.upgrade.chunksSent = drive.chunks.toUInt32
  chunks : drive.chunks + drive.upgrade.chunksLeft ≤ started.chunksLeft
  requests : drive.requests + drive.upgrade.chunksLeft + drive.upgrade.othersLeft ≤
    started.chunksLeft + started.othersLeft

/-- Every active state of a started upgrade has a request. -/
theorem requestType_of_active {upgrade : Upgrade} (hactive : upgradeActive upgrade = true)
    (hvalidated : upgrade.state ≠ .validating) : upgrade.state.requestType.isSome := by
  rw [upgradeActive] at hactive
  cases hstate : upgrade.state with
  | idle | complete | error => simp [hstate] at hactive
  | validating => exact absurd hstate hvalidated
  | _ => rfl

/-- An `FW_DATA` request is one of a transfer, and is counted. -/
theorem upgradeBuildRequest_chunks {upgrade built : Upgrade} {frame : Frame}
    (h : upgradeBuildRequest upgrade = .ok (frame, built)) :
    (frame.type = Msg.fwData ↔ upgrade.state = .transfer) ∧
      built.chunksSent = if upgrade.state = .transfer then upgrade.chunksSent + 1
        else upgrade.chunksSent := by
  constructor
  · have hrequest := (upgradeBuildRequest_eq_ok h).1
    refine ⟨fun htype => (upgradeBuildRequest_fwData h htype).1, fun hstate => ?_⟩
    rw [hstate] at hrequest
    exact (Option.some.inj hrequest).symm
  · rw [upgradeBuildRequest] at h
    cases hstate : upgrade.state
    all_goals
      simp only [hstate] at h
      try split_ifs at h
      cases h
      all_goals rfl

/-- A response changes neither counter, and leads to no validation. -/
theorem upgradeAcceptResponse_counters (upgrade : Upgrade) (requestType : UInt8)
    (response : Frame) :
    (upgradeAcceptResponse upgrade requestType response).2.chunksSent = upgrade.chunksSent ∧
      (upgradeAcceptResponse upgrade requestType response).2.recoveryAttempts =
        upgrade.recoveryAttempts ∧
      (upgradeAcceptResponse upgrade requestType response).2.state ≠ .validating := by
  have haccepts := upgradeAcceptResponse_accepts upgrade requestType response
  generalize upgradeAcceptResponse upgrade requestType response = result at haccepts ⊢
  cases haccepts with
  | begun | transferred | recovered =>
    refine ⟨rfl, rfl, ?_⟩
    rw [Upgrade.resume_state]
    split_ifs
    · decide
    · decide
  | refused | entered | ended | verified | activated | rebooted =>
    exact ⟨rfl, rfl, UpgradeState.noConfusion⟩

theorem upgradeBeginRecovery_counters (upgrade : Upgrade) :
    (upgradeBeginRecovery upgrade).2.chunksSent = upgrade.chunksSent ∧
      ((upgradeBeginRecovery upgrade).1 = .ok → (upgradeBeginRecovery upgrade).2.state = .recover) ∧
      ((upgradeBeginRecovery upgrade).1 ≠ .ok →
        (upgradeBeginRecovery upgrade).2.recoveryAttempts = upgrade.recoveryAttempts) := by
  rw [upgradeBeginRecovery]
  split_ifs
  · exact ⟨rfl, False.elim, fun _ => rfl⟩
  · exact ⟨rfl, False.elim, fun _ => rfl⟩
  · exact ⟨rfl, fun _ => rfl, fun h => absurd rfl h⟩

/-- What may follow a request: it is paid, and a recovery takes an attempt. -/
structure Upgrade.Turned (upgrade : Upgrade) (recovered : Bool) (after : Upgrade) : Prop where
  pays : upgrade.Pays after
  safe : after.Safe
  validated : after.state ≠ .validating
  chunksSent : after.chunksSent = upgrade.chunksSent
  attempts_le : after.recoveryAttempts.toNat ≤ 3
  attempts : after.recoveryAttempts.toNat =
    if recovered then upgrade.recoveryAttempts.toNat + 1 else upgrade.recoveryAttempts.toNat

theorem Upgrade.Safe.turned {upgrade : Upgrade} (h : upgrade.Safe)
    (hrequest : upgrade.state.requestType.isSome)
    (hlast : upgrade.state = .transfer → upgrade.lastChunkEnd.toNat =
      min (upgrade.offset.toNat + upgrade.chunkSize.toNat) upgrade.imageSize)
    (hattempts : upgrade.recoveryAttempts.toNat ≤ 3) (turn : DeviceTurn) :
    upgrade.Turned (upgrade.afterTurn turn).1 (upgrade.afterTurn turn).2 := by
  cases turn with
  | answers requestType response =>
    obtain ⟨hsent, hsame, hvalidated⟩ :=
      upgradeAcceptResponse_counters upgrade requestType response
    have hcount := congrArg UInt8.toNat hsame
    exact ⟨h.pays_accept hrequest hlast requestType response, h.accept requestType response,
      hvalidated, hsent, hcount.trans_le hattempts, hcount⟩
  | timeout =>
    obtain ⟨hsent, hrecover, hsame⟩ := upgradeBeginRecovery_counters upgrade
    by_cases hrecovery : (upgradeBeginRecovery upgrade).1 = .ok
    · obtain ⟨hpays, hcount, hlt⟩ := h.pays_recovery hrecovery
      have hafter : upgrade.afterTurn .timeout = (true, (upgradeBeginRecovery upgrade).2) :=
        if_pos hrecovery
      rw [hafter]
      refine ⟨hpays, h.recovery, ?_, hsent, hcount.trans_le hlt, hcount⟩
      rw [hrecover hrecovery]
      decide
    · have hafter : upgrade.afterTurn .timeout =
          (false, { (upgradeBeginRecovery upgrade).2 with state := .error }) := if_neg hrecovery
      have hcount := congrArg UInt8.toNat (hsame hrecovery)
      rw [hafter]
      exact ⟨h.pays_error hrequest rfl, h.recovery.refuse _ _, UpgradeState.noConfusion, hsent,
        hcount.trans_le hattempts, hcount⟩

namespace UpgradeDrive

variable {started : Upgrade} {drive : UpgradeDrive}

/-- A turn of an active upgrade: a request is built and followed. -/
theorem Bounded.step_active (h : drive.Bounded started)
    (hactive : upgradeActive drive.upgrade = true) (turn : DeviceTurn) :
    (drive.step turn).Bounded started ∧ (drive.step turn).requests = drive.requests + 1 := by
  have hrequest := requestType_of_active hactive h.validated
  obtain ⟨frame, built, hbuild⟩ := h.safe.build_isOk hrequest
  obtain ⟨hstate, hchunksLeft, hothersLeft, hlast⟩ := h.safe.build_left hbuild
  obtain ⟨hdata, hcounted⟩ := upgradeBuildRequest_chunks hbuild
  have hattempts : built.recoveryAttempts = drive.upgrade.recoveryAttempts :=
    (upgradeBuildRequest_eq_ok hbuild).2.2.2.2.2.1
  have hrecoveries := h.recoveries
  have hle := h.recoveries_le
  have hturned := (h.safe.build hbuild).turned (by rw [hstate]; exact hrequest) hlast
    (by rw [hattempts, ← hrecoveries]; exact hle) turn
  have hpays := hturned.pays
  have hchunks := h.chunks
  have hrequests := h.requests
  have hcount := hturned.attempts
  rw [hattempts, ← hrecoveries] at hcount
  rw [Upgrade.Pays, hstate, hchunksLeft, hothersLeft] at hpays
  rw [step, if_pos hactive, hbuild]
  refine ⟨⟨hturned.safe, hturned.validated, ?_, ?_, ?_, ?_, ?_⟩, rfl⟩
  · exact hcount.symm
  · exact hcount.symm.trans_le hturned.attempts_le
  · simp only [hturned.chunksSent, hcounted, h.chunksSent, hdata]
    split_ifs
    · exact (UInt32.ofNat_add drive.chunks 1).symm
    · rfl
  · simp only [hdata]
    split_ifs at hpays ⊢ with htransfer
    · omega
    · omega
  · dsimp only
    split_ifs at hpays with htransfer
    · omega
    · omega

theorem Bounded.step (h : drive.Bounded started) (turn : DeviceTurn) :
    (drive.step turn).Bounded started := by
  by_cases hactive : upgradeActive drive.upgrade = true
  · exact (h.step_active hactive turn).1
  · have hsame : drive.step turn = drive := if_neg hactive
    rwa [hsame]

end UpgradeDrive

theorem upgradeDrive_concat (started : Upgrade) (turns : List DeviceTurn) (turn : DeviceTurn) :
    upgradeDrive started (turns ++ [turn]) = (upgradeDrive started turns).step turn := by
  rw [upgradeDrive, List.foldl_append]
  rfl

theorem upgradeDrive_bounded {started : Upgrade}
    (h : UpgradeDrive.Bounded started ⟨started, 0, 0, 0⟩) (turns : List DeviceTurn) :
    (upgradeDrive started turns).Bounded started :=
  List.foldlRecOn turns _ h fun _ hdrive turn _ => hdrive.step turn

/-- While the upgrade is active, every turn builds a request. -/
theorem upgradeDrive_requests {started : Upgrade}
    (h : UpgradeDrive.Bounded started ⟨started, 0, 0, 0⟩) (turns : List DeviceTurn)
    (hactive : upgradeActive (upgradeDrive started turns).upgrade = true) :
    (upgradeDrive started turns).requests = turns.length := by
  induction turns using List.reverseRecOn with
  | nil => rfl
  | append_singleton turns turn ih =>
    have hbounded := upgradeDrive_bounded h turns
    rw [upgradeDrive_concat] at hactive ⊢
    by_cases hbefore : upgradeActive (upgradeDrive started turns).upgrade = true
    · rw [(hbounded.step_active hbefore turn).2, ih hbefore, List.length_append,
        List.length_singleton]
    · -- An upgrade that has ended stays as it is.
      have hsame : (upgradeDrive started turns).step turn = upgradeDrive started turns :=
        if_neg hbefore
      rw [hsame] at hactive
      exact absurd hactive hbefore

/-- An active upgrade has something left. -/
theorem UpgradeDrive.Bounded.left_pos {started : Upgrade} {drive : UpgradeDrive}
    (h : drive.Bounded started) (hactive : upgradeActive drive.upgrade = true) :
    0 < drive.upgrade.chunksLeft + drive.upgrade.othersLeft := by
  have hpays := h.safe.pays_error (requestType_of_active hactive h.validated)
    (show ({ drive.upgrade with state := .error } : Upgrade).state = .error from rfl)
  rw [Upgrade.Pays] at hpays
  split_ifs at hpays
  · omega
  · omega

/-- A started upgrade, with four times the chunks of its image. -/
theorem upgradeStart_bounded {capacity : Nat} {imageData : List UInt8} {imageCrc : UInt32}
    {version : CString capacity} {chunkSize : UInt16} {started : Upgrade}
    (hstart : upgradeStart imageData imageCrc version chunkSize = .ok started) :
    UpgradeDrive.Bounded started ⟨started, 0, 0, 0⟩ ∧
      started.chunksLeft = 4 * ((imageData.length + chunkSize.toNat - 1) / chunkSize.toNat) ∧
      started.othersLeft = 9 := by
  obtain ⟨hsafe, hstate, himage, _, hchunk, _, _, hattempts⟩ := upgradeStart_eq_ok hstart
  have hsent := (upgradeStart_fresh hstart).2
  have hleft : started.attemptsLeft = 3 := by
    rw [Upgrade.attemptsLeft, hattempts]
    rfl
  refine ⟨⟨hsafe, ?_, ?_, Nat.zero_le _, hsent, ?_, ?_⟩, ?_, ?_⟩
  · rw [hstate]
    decide
  · rw [hattempts]
    rfl
  · exact (Nat.zero_add _).le
  · rw [Nat.zero_add]
  · have hwhole : started.wholeChunks =
        (imageData.length + chunkSize.toNat - 1) / chunkSize.toNat := by
      rw [Upgrade.wholeChunks, chunksFrom, Upgrade.imageSize, himage, hchunk, Nat.sub_zero]
    rw [Upgrade.chunksLeft, hstate, hleft, ← hwhole]
    dsimp only
    omega
  · rw [Upgrade.othersLeft, hstate, hleft]

/-- For every image, chunk size and device: the requests, the chunks among them and
the recoveries are bounded, every turn of an active upgrade builds a request, and
after as many turns as the bound has, the upgrade is not active. -/
theorem upgrade_bounded {capacity : Nat} {imageData : List UInt8} {imageCrc : UInt32}
    {version : CString capacity} {chunkSize : UInt16} {started : Upgrade}
    (hstart : upgradeStart imageData imageCrc version chunkSize = .ok started)
    (turns : List DeviceTurn) :
    let chunks := (imageData.length + chunkSize.toNat - 1) / chunkSize.toNat
    let drive := upgradeDrive started turns
    drive.upgrade.chunksSent.toNat ≤ 4 * chunks ∧ drive.chunks ≤ 4 * chunks ∧
      drive.recoveries ≤ 3 ∧ drive.requests ≤ 4 * chunks + 9 ∧
      (upgradeActive drive.upgrade = true → drive.requests = turns.length) ∧
      (4 * chunks + 9 ≤ turns.length → upgradeActive drive.upgrade = false) := by
  intro chunks drive
  obtain ⟨hstarted, hchunksLeft, hothersLeft⟩ := upgradeStart_bounded hstart
  have hdrive : drive.Bounded started := upgradeDrive_bounded hstarted turns
  have hchunks := hdrive.chunks
  have hrequests := hdrive.requests
  rw [hchunksLeft] at hchunks
  rw [hchunksLeft, hothersLeft] at hrequests
  have hcount : upgradeActive drive.upgrade = true → drive.requests = turns.length :=
    upgradeDrive_requests hstarted turns
  have hchunksLe : drive.chunks ≤ 4 * chunks := by omega
  refine ⟨?_, hchunksLe, hdrive.recoveries_le, by omega, hcount, ?_⟩
  · -- The counter has 32 bits, and so is at most the number of chunks.
    have hwrap : drive.upgrade.chunksSent.toNat ≤ drive.chunks := by
      rw [hdrive.chunksSent, Nat.toUInt32, UInt32.toNat_ofNat']
      exact Nat.mod_le _ _
    exact hwrap.trans hchunksLe
  · intro hturns
    by_contra hactive
    rw [Bool.not_eq_false] at hactive
    have hpos := hdrive.left_pos hactive
    have hall := hcount hactive
    omega

/-- Two chunks, and a device that stops answering after `FW_BEGIN`. -/
theorem upgrade_bounded_silent :
    ∃ started, upgradeStart [1, 2, 3] 7 (⟨[0x31], by decide, by simp⟩ : CString 32) 2 =
        .ok started ∧
      (upgradeDrive started
        [.answers Msg.enterBootloader ⟨Msg.ack, Flag.response, 1, [], Nat.zero_le _⟩,
          .answers Msg.fwBegin
            ⟨Msg.fwBegin, Flag.response, 2, putLe32 1 ++ putLe32 0, Nat.le_of_ble_eq_true rfl⟩,
          .timeout, .timeout, .timeout, .timeout]).requests ≤ 4 * 2 + 9 := by
  obtain ⟨started, hstart⟩ : ∃ started, upgradeStart [1, 2, 3] 7
      (⟨[0x31], by decide, by simp⟩ : CString 32) 2 = .ok started := ⟨_, rfl⟩
  exact ⟨started, hstart, (upgrade_bounded hstart _).2.2.2.1⟩

end Devmgr
