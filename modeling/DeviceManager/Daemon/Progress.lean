import DeviceManager.Daemon.Reactor
import DeviceManager.Upgrade.Safety

/-!
# The progress that `UPGRADE_STATUS` shows

`devmgr_upgrade_accept_response` stores the session and the offset of a response
before it checks them, so a response that it refuses can leave its values behind.
`Upgrade.Overwrites` says for which responses it does.  `acceptedProgress` is
what the accepted responses of a run say; it is what the upgrade holds, and what
the status shows, as long as no response overwrites it
(`rejected_keeps_progress_iff`).
-/

namespace Devmgr

/-- The session and the offset of an upgrade. -/
def Upgrade.progress (upgrade : Upgrade) : UInt32 × UInt32 :=
  (upgrade.sessionId, upgrade.offset)

/-- The response is refused after its values were stored, and they are new. -/
def Upgrade.Overwrites (upgrade : Upgrade) (requestType : UInt8) (response : Frame) : Prop :=
  ¬ (response.type = Msg.nack ∨ response.type = Msg.error) ∧
    match upgrade.state with
    | .begin =>
      requestType = Msg.fwBegin ∧ response.payload.length = 8 ∧
        (getLe32 response.payload = 0 ∨
          (getLe32 (response.payload.drop 4)).toNat > upgrade.imageSize) ∧
        (getLe32 response.payload, getLe32 (response.payload.drop 4)) ≠ upgrade.progress
    | .transfer =>
      requestType = Msg.fwData ∧ response.payload.length = 4 ∧
        (getLe32 response.payload ≠ upgrade.lastChunkEnd ∨
          (getLe32 response.payload).toNat > upgrade.imageSize) ∧
        getLe32 response.payload ≠ upgrade.offset
    | .recover =>
      requestType = Msg.fwStatus ∧ response.payload.length = 8 ∧
        getLe32 response.payload = upgrade.sessionId ∧
        (getLe32 (response.payload.drop 4)).toNat > upgrade.imageSize ∧
        getLe32 (response.payload.drop 4) ≠ upgrade.offset
    | _ => False

/-- The progress after an operation, as the accepted responses have it. -/
def UpgradeOp.accepted (upgrade : Upgrade) (progress : UInt32 × UInt32) :
    UpgradeOp → UInt32 × UInt32
  | .acceptResponse requestType response =>
    if (upgradeAcceptResponse upgrade requestType response).1 = .ok then
      match upgrade.state with
      | .begin => (getLe32 response.payload, getLe32 (response.payload.drop 4))
      | .transfer => (progress.1, getLe32 response.payload)
      | .recover => (progress.1, getLe32 (response.payload.drop 4))
      | _ => progress
    else progress
  | _ => progress

/-- What the accepted responses of a run say. -/
def acceptedProgress (started : Upgrade) (ops : List UpgradeOp) : UInt32 × UInt32 :=
  (ops.foldl (fun run op => (run.1.step op, op.accepted run.1.upgrade run.2))
    ((⟨started, []⟩ : UpgradeRun), started.progress)).2

/-- No response of a run overwrites the progress. -/
def UpgradeRun.Intact (started : Upgrade) (ops : List UpgradeOp) : Prop :=
  ∀ before requestType response after,
    ops = before ++ .acceptResponse requestType response :: after →
    ¬ (upgradeRun started before).upgrade.Overwrites requestType response

/-! ## One response -/

theorem upgradeAcceptResponse_progress {upgrade : Upgrade} {requestType : UInt8}
    {response : Frame} (h : (upgradeAcceptResponse upgrade requestType response).1 = .ok) :
    (upgradeAcceptResponse upgrade requestType response).2.progress =
      (UpgradeOp.acceptResponse requestType response).accepted upgrade upgrade.progress := by
  rw [UpgradeOp.accepted, if_pos h]
  have haccepts := upgradeAcceptResponse_accepts upgrade requestType response
  generalize upgradeAcceptResponse upgrade requestType response = result at haccepts h ⊢
  cases haccepts with
  | refused => cases h
  | entered hstate | begun hstate | transferred hstate | recovered hstate | ended hstate
  | verified hstate | activated hstate | rebooted hstate =>
    rw [hstate]
    rfl

/-- The two checks of a state that stores values between them. -/
theorem refused_progress {upgrade stored next : Upgrade} {mismatch outside : Prop}
    [Decidable mismatch] [Decidable outside]
    (h : (if mismatch then upgrade.refuse else
      if outside then stored.refuse else (.ok, next)).1 ≠ .ok) :
    (if mismatch then upgrade.refuse else
        if outside then stored.refuse else (.ok, next)).2.progress = upgrade.progress ↔
      ¬ (¬ mismatch ∧ outside ∧ stored.progress ≠ upgrade.progress) := by
  split_ifs at h ⊢ with hmismatch houtside
  · exact ⟨fun _ hover => hover.1 hmismatch, fun _ => rfl⟩
  · refine ⟨fun hsame hover => hover.2.2 hsame, fun hkeeps => ?_⟩
    by_contra hnew
    exact hkeeps ⟨hmismatch, houtside, hnew⟩
  · exact absurd rfl h

theorem refused_of_outside {upgrade stored next : Upgrade} {mismatch outside : Prop}
    [Decidable mismatch] [Decidable outside] (hmatch : ¬ mismatch) (houtside : outside) :
    (if mismatch then upgrade.refuse else
      if outside then stored.refuse else (.ok, next)).1 ≠ .ok := by
  rw [if_neg hmatch, if_pos houtside]
  exact fun h => Status.noConfusion h

/-- The one check of a state that stores nothing. -/
theorem refused_progress_of_mismatch {upgrade next : Upgrade} {mismatch : Prop}
    [Decidable mismatch] (h : (if mismatch then upgrade.refuse else (.ok, next)).1 ≠ .ok) :
    (if mismatch then upgrade.refuse else (.ok, next)).2.progress = upgrade.progress := by
  split_ifs at h ⊢
  · rfl
  · exact absurd rfl h

/-- A refused response leaves the progress alone unless it overwrites it. -/
theorem upgradeAcceptResponse_rejected {upgrade : Upgrade} {requestType : UInt8}
    {response : Frame} (h : (upgradeAcceptResponse upgrade requestType response).1 ≠ .ok) :
    (upgradeAcceptResponse upgrade requestType response).2.progress = upgrade.progress ↔
      ¬ upgrade.Overwrites requestType response := by
  unfold Upgrade.Overwrites
  unfold upgradeAcceptResponse at h ⊢
  by_cases hanswer : response.type = Msg.nack ∨ response.type = Msg.error
  · rw [if_pos hanswer]
    exact ⟨fun _ hover => hover.1 hanswer, fun _ => rfl⟩
  rw [if_neg hanswer] at h ⊢
  cases hstate : upgrade.state with
  | begin | transfer | recover =>
    simp only [hstate] at h ⊢
    rw [refused_progress h]
    simp [hanswer, and_assoc, Upgrade.progress, Upgrade.imageSize]
  | enterBootloader | «end» | verify | activate | reboot =>
    simp only [hstate] at h ⊢
    exact iff_of_true (refused_progress_of_mismatch h) (fun hover => hover.2)
  | idle | validating | complete | error =>
    exact iff_of_true rfl (fun hover => hover.2)

/-- A response that overwrites the progress is refused. -/
theorem Upgrade.Overwrites.rejected {upgrade : Upgrade} {requestType : UInt8} {response : Frame}
    (h : upgrade.Overwrites requestType response) :
    (upgradeAcceptResponse upgrade requestType response).1 ≠ .ok := by
  obtain ⟨hanswer, hstored⟩ := h
  rw [upgradeAcceptResponse, if_neg hanswer]
  cases hstate : upgrade.state with
  | begin | transfer =>
    simp only [hstate] at hstored ⊢
    obtain ⟨htype, hlength, houtside, _⟩ := hstored
    exact refused_of_outside (by simp [htype, hlength]) houtside
  | recover =>
    simp only [hstate] at hstored ⊢
    obtain ⟨htype, hlength, hsession, houtside, _⟩ := hstored
    exact refused_of_outside (by simp [htype, hlength, hsession]) houtside
  | _ =>
    simp only [hstate] at hstored

/-- A response is refused with no other change than that of the state unless it
overwrites the progress. -/
theorem upgradeAcceptResponse_keeps_iff (upgrade : Upgrade) (requestType : UInt8)
    (response : Frame) :
    ((upgradeAcceptResponse upgrade requestType response).1 ≠ .ok →
      (upgradeAcceptResponse upgrade requestType response).2 =
        { upgrade with state := .error }) ↔
      ¬ upgrade.Overwrites requestType response := by
  by_cases hok : (upgradeAcceptResponse upgrade requestType response).1 = .ok
  · exact iff_of_true (fun h => absurd hok h) (fun hover => hover.rejected hok)
  · rw [← upgradeAcceptResponse_rejected hok]
    refine ⟨fun h => by rw [h hok]; rfl, fun hsame _ => ?_⟩
    have haccepts := upgradeAcceptResponse_accepts upgrade requestType response
    generalize upgradeAcceptResponse upgrade requestType response = result at haccepts hok hsame ⊢
    cases haccepts with
    | refused sessionId offset =>
      obtain ⟨rfl, rfl⟩ := Prod.mk.inj hsame
      rfl
    | _ => exact absurd rfl hok

/-! ## Runs -/

theorem acceptedProgress_concat (started : Upgrade) (ops : List UpgradeOp) (op : UpgradeOp) :
    acceptedProgress started (ops ++ [op]) =
      op.accepted (upgradeRun started ops).upgrade (acceptedProgress started ops) := by
  have hrun : ∀ (ops : List UpgradeOp) (run : UpgradeRun) (progress : UInt32 × UInt32),
      (ops.foldl (fun run op => (run.1.step op, op.accepted run.1.upgrade run.2))
        (run, progress)).1 = ops.foldl UpgradeRun.step run := by
    intro ops
    induction ops with
    | nil => exact fun _ _ => rfl
    | cons op ops ih => exact fun run progress => ih (run.step op) _
  rw [acceptedProgress, List.foldl_append, List.foldl_cons, List.foldl_nil, hrun]
  rfl

/-- An operation moves the progress as the accepted responses do, unless it
overwrites it. -/
theorem UpgradeRun.step_progress (run : UpgradeRun) (op : UpgradeOp) :
    (run.step op).upgrade.progress = op.accepted run.upgrade run.upgrade.progress ↔
      ∀ requestType response, op = .acceptResponse requestType response →
        ¬ run.upgrade.Overwrites requestType response := by
  cases op with
  | buildRequest =>
    refine iff_of_true ?_ (fun _ _ hop => by cases hop)
    rw [step]
    split
    · rfl
    · rename_i hbuild
      obtain ⟨_, _, _, hoffset, hsession, _⟩ := upgradeBuildRequest_eq_ok hbuild
      exact Prod.ext hsession hoffset
  | beginRecovery =>
    refine iff_of_true ?_ (fun _ _ hop => by cases hop)
    rw [step, upgradeBeginRecovery]
    split_ifs
    all_goals rfl
  | acceptResponse requestType response =>
    have hcase : (∀ requestType' response',
        UpgradeOp.acceptResponse requestType response = .acceptResponse requestType' response' →
          ¬ run.upgrade.Overwrites requestType' response') ↔
        ¬ run.upgrade.Overwrites requestType response := by
      refine ⟨fun h => h _ _ rfl, fun h requestType' response' hop => ?_⟩
      obtain ⟨rfl, rfl⟩ := UpgradeOp.acceptResponse.inj hop
      exact h
    rw [hcase]
    by_cases hok : (upgradeAcceptResponse run.upgrade requestType response).1 = .ok
    · exact iff_of_true (upgradeAcceptResponse_progress hok) (fun hover => hover.rejected hok)
    · rw [← upgradeAcceptResponse_rejected hok, UpgradeOp.accepted, if_neg hok]
      rfl

theorem UpgradeRun.Intact.of_append {started : Upgrade} {ops more : List UpgradeOp}
    (h : Intact started (ops ++ more)) : Intact started ops := by
  intro before requestType response after hops
  refine h before requestType response (after ++ more) ?_
  rw [hops, List.append_assoc, List.cons_append]

theorem UpgradeRun.Intact.progress {started : Upgrade} {ops : List UpgradeOp}
    (h : Intact started ops) :
    (upgradeRun started ops).upgrade.progress = acceptedProgress started ops := by
  induction ops using List.reverseRecOn with
  | nil => rfl
  | append_singleton ops op ih =>
    rw [upgradeRun_concat, acceptedProgress_concat, ← ih h.of_append]
    refine ((upgradeRun started ops).step_progress op).mpr ?_
    rintro requestType response rfl
    exact h ops requestType response [] rfl

/-- The progress of every state of a run is that of the accepted responses exactly
if no response overwrites it. -/
theorem upgradeRun_progress_iff (started : Upgrade) (ops : List UpgradeOp) :
    (∀ before after, ops = before ++ after →
      (upgradeRun started before).upgrade.progress = acceptedProgress started before) ↔
      UpgradeRun.Intact started ops := by
  constructor
  · intro h before requestType response after hops
    have hbefore := h before _ hops
    have hafter := h (before ++ [.acceptResponse requestType response]) after (by simp [hops])
    rw [upgradeRun_concat, acceptedProgress_concat, ← hbefore] at hafter
    exact ((upgradeRun started before).step_progress _).mp hafter requestType response rfl
  · rintro h before after rfl
    exact h.of_append.progress

theorem UpgradeOp.accepted_le {upgrade : Upgrade} {progress : UInt32 × UInt32}
    (h : progress.2.toNat ≤ upgrade.imageSize) (op : UpgradeOp) :
    (op.accepted upgrade progress).2.toNat ≤ upgrade.imageSize := by
  cases op with
  | buildRequest | beginRecovery => exact h
  | acceptResponse requestType response =>
    rw [accepted]
    split_ifs with hok
    · have haccepts := upgradeAcceptResponse_accepts upgrade requestType response
      generalize upgradeAcceptResponse upgrade requestType response = result at haccepts hok
      cases haccepts with
      | refused => cases hok
      | begun hstate _ _ hoffset | recovered hstate _ hoffset =>
        rw [hstate]
        exact hoffset
      | transferred hstate _ _ hsize =>
        rw [hstate]
        exact hsize
      | entered hstate | ended hstate | verified hstate | activated hstate | rebooted hstate =>
        rw [hstate]
        exact h
    · exact h

/-- Accepted offsets are inside the image. -/
theorem acceptedProgress_le {started : Upgrade} (hsafe : started.Safe)
    (hstarted : started.offset = 0) (ops : List UpgradeOp) :
    (acceptedProgress started ops).2.toNat ≤ started.imageSize := by
  induction ops using List.reverseRecOn with
  | nil =>
    have hzero : (acceptedProgress started []).2 = 0 := hstarted
    rw [hzero]
    exact Nat.zero_le _
  | append_singleton ops op ih =>
    have hsize : (upgradeRun started ops).upgrade.imageSize = started.imageSize :=
      congrArg List.length (upgradeRun_inv hsafe ops).2.imageData
    rw [acceptedProgress_concat, ← hsize]
    rw [← hsize] at ih
    exact op.accepted_le ih

/-- A refused response changes nothing but the state exactly if it does not
overwrite the progress.  In every state of a run, the error state included, the
upgrade holds the values of the last accepted responses exactly if no response of
the run overwrites them; the offset is then inside the image, and it is the one
that the status shows. -/
theorem rejected_keeps_progress_iff {capacity : Nat} {imageData : List UInt8} {imageCrc : UInt32}
    {version : CString capacity} {chunkSize : UInt16} {started : Upgrade}
    (hstart : upgradeStart imageData imageCrc version chunkSize = .ok started)
    (ops : List UpgradeOp) :
    let upgrade := (upgradeRun started ops).upgrade
    (∀ requestType response,
      ((upgradeAcceptResponse upgrade requestType response).1 ≠ .ok →
        (upgradeAcceptResponse upgrade requestType response).2 =
          { upgrade with state := .error }) ↔
      ¬ upgrade.Overwrites requestType response) ∧
    ((∀ before after, ops = before ++ after →
        (upgradeRun started before).upgrade.progress = acceptedProgress started before) ↔
      UpgradeRun.Intact started ops) ∧
    (UpgradeRun.Intact started ops →
      upgrade.offset.toNat ≤ imageData.length ∧
      ∀ context : Daemon.Context, context.upgrade = upgrade →
        getLe32 ((Daemon.statusPayload context).drop 12) = (acceptedProgress started ops).2) := by
  intro upgrade
  obtain ⟨hsafe, _, himage, _⟩ := upgradeStart_eq_ok hstart
  obtain ⟨hfresh, _⟩ := upgradeStart_fresh hstart
  refine ⟨upgradeAcceptResponse_keeps_iff upgrade, upgradeRun_progress_iff started ops, ?_⟩
  intro hintact
  have hoffset : upgrade.offset = (acceptedProgress started ops).2 :=
    congrArg Prod.snd hintact.progress
  refine ⟨?_, ?_⟩
  · rw [hoffset, ← himage]
    exact acceptedProgress_le hsafe hfresh ops
  · intro context hupgrade
    rw [← hoffset, ← hupgrade]
    exact getLe32_putLe32 _ _

/-- A transfer of four bytes in chunks of two, up to the first chunk. -/
def firstChunkOps : List UpgradeOp :=
  [.acceptResponse Msg.enterBootloader ⟨Msg.ack, Flag.response, 1, [], Nat.zero_le _⟩,
    .acceptResponse Msg.fwBegin
      ⟨Msg.fwBegin, Flag.response, 2, putLe32 1 ++ putLe32 0, Nat.le_of_ble_eq_true rfl⟩,
    .buildRequest]

/-- The device refuses the first chunk, and the progress stays. -/
theorem rejected_keeps_progress_nack :
    ∃ started, upgradeStart [1, 2, 3, 4] 7 (⟨[0x31], by decide, by simp⟩ : CString 32) 2 =
        .ok started ∧
      ((upgradeAcceptResponse (upgradeRun started firstChunkOps).upgrade Msg.fwData
          ⟨Msg.nack, Flag.response, 3, [], Nat.zero_le _⟩).1 ≠ .ok →
        (upgradeAcceptResponse (upgradeRun started firstChunkOps).upgrade Msg.fwData
          ⟨Msg.nack, Flag.response, 3, [], Nat.zero_le _⟩).2 =
          { (upgradeRun started firstChunkOps).upgrade with state := .error }) := by
  obtain ⟨started, hstart⟩ : ∃ started, upgradeStart [1, 2, 3, 4] 7
      (⟨[0x31], by decide, by simp⟩ : CString 32) 2 = .ok started := ⟨_, rfl⟩
  refine ⟨started, hstart, ?_⟩
  exact ((rejected_keeps_progress_iff hstart firstChunkOps).1 _ _).mpr fun hover =>
    hover.1 (.inl rfl)

/-- The device acknowledges the first chunk with an offset behind the image.  The
response is refused, and the offset stays. -/
theorem rejected_response_moves_offset :
    ∃ started, upgradeStart [1, 2, 3, 4] 7 (⟨[0x31], by decide, by simp⟩ : CString 32) 2 =
        .ok started ∧
      let before := (upgradeRun started firstChunkOps).upgrade
      let after := upgradeAcceptResponse before Msg.fwData
        ⟨Msg.fwData, Flag.response, 3, putLe32 99, Nat.le_of_ble_eq_true rfl⟩
      before.offset = 0 ∧ after.1 = .protocol ∧ after.2.state = .error ∧ after.2.offset = 99 ∧
        after.2.imageSize = 4 := by
  refine ⟨_, rfl, ?_⟩
  decide

end Devmgr
