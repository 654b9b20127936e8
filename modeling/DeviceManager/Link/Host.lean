import DeviceManager.Link.Phases

/-!
# The host at its end of the link

What the host does with a right answer and with a timeout, phase by phase.

* `accept_right`: a right answer is never refused.  The upgrade is complete, or the
  host goes on to the request of the next phase (`GoesOn`).
* `recovery_goesOn`: after a timeout of a transfer the host asks for the offset of the
  device, with everything that is still in flight stale from then on.

`Phase.budget` bounds the number of requests that the host has begun: a phase, the
offset and the recoveries tell how many there can have been.
-/

namespace Link

open Devmgr

/-- With the offset and twice the number of recoveries, a bound on the requests begun
before the one of the phase. -/
def Phase.budget : Phase → Nat
  | .enterBootloader => 0
  | .begin => 1
  | .transfer => 2
  | .recover => 1
  | .end => 2
  | .verify => 3
  | .activate => 4
  | .reboot => 5

/-- The requests that the host can have begun. -/
def Phase.spent (phase : Phase) (upgrade : Upgrade) : Nat :=
  phase.budget + upgrade.offset.toNat + 2 * upgrade.recoveryAttempts.toNat

/-- The host goes on to the request of another phase, which it built. -/
structure GoesOn (upgrade : Upgrade) (firmware : Firmware) (phase next : Phase)
    (built : Frame × Upgrade) : Prop where
  same : upgrade.SameImage built.2
  state : built.2.state = next.state
  host : HostAt built.2 next
  device : DeviceAt built.2 firmware next
  copy : IsCopy built.2 next built.1
  stale : ∀ request, IsCopy upgrade phase request → StaleAt built.2 firmware next request
  pending : next = .reboot → firmware.upgrading = true
  spent : phase.spent upgrade < next.spent built.2
  attempts : upgrade.recoveryAttempts.toNat ≤ 3 → built.2.recoveryAttempts.toNat ≤ 3

/-! ## The same image -/

section SameImage

variable {upgrade upgrade' : Upgrade} (hsame : upgrade.SameImage upgrade')

include hsame

theorem sameImage_size : upgrade'.imageSize = upgrade.imageSize :=
  congrArg List.length hsame.imageData

theorem Servable.congr (h : Servable upgrade) : Servable upgrade' where
  size_pos := by rw [sameImage_size hsame]; exact h.size_pos
  size_le := by rw [sameImage_size hsame]; exact h.size_le
  crc := by rw [hsame.imageCrc, hsame.imageData]; exact h.crc
  chunkSize_ne := by rw [hsame.chunkSize]; exact h.chunkSize_ne
  version_pos := by rw [hsame.version]; exact h.version_pos

theorem Holds.congr {firmware : Firmware} (h : Holds upgrade firmware) :
    Holds upgrade' firmware where
  sessionId_ne := h.sessionId_ne
  size := by rw [sameImage_size hsame]; exact h.size
  crc := by rw [hsame.imageCrc]; exact h.crc
  chunkSize := by rw [hsame.chunkSize]; exact h.chunkSize
  version := by rw [hsame.version]; exact h.version
  offset_le := by rw [sameImage_size hsame]; exact h.offset_le
  written := by rw [hsame.imageData]; exact h.written

theorem sameImage_beginPayload : upgrade'.beginPayload = upgrade.beginPayload := by
  rw [Upgrade.beginPayload, Upgrade.beginPayload, sameImage_size hsame, hsame.imageCrc,
    hsame.chunkSize, hsame.version]

theorem IsData.congr {request : Frame} {first last : Nat}
    (h : IsData upgrade request first last) (hsession : upgrade'.sessionId = upgrade.sessionId) :
    IsData upgrade' request first last where
  type := h.type
  payload := by rw [hsession, hsame.imageData]; exact h.payload
  lt := h.lt
  le := by rw [sameImage_size hsame]; exact h.le
  chunk := by rw [hsame.chunkSize]; exact h.chunk

theorem Opened.congr {firmware : Firmware} (h : Opened upgrade firmware) :
    Opened upgrade' firmware :=
  ⟨h.holds.congr hsame, h.upgrading, h.offset⟩

end SameImage

/-! Nothing that belongs to a phase depends on the state of the upgrade. -/

section WithState

variable {upgrade : Upgrade} {firmware : Firmware} {phase : Phase} {frame : Frame}

theorem sameImage_withState (upgrade : Upgrade) (state : UpgradeState) :
    upgrade.SameImage { upgrade with state := state } :=
  ⟨rfl, rfl, rfl, rfl⟩

theorem HostAt.withState (h : HostAt upgrade phase) (state : UpgradeState) :
    HostAt { upgrade with state := state } phase :=
  ⟨h.early, h.session, h.moving, h.sent⟩

theorem DeviceAt.withState (h : DeviceAt upgrade firmware phase) (state : UpgradeState) :
    DeviceAt { upgrade with state := state } firmware phase := by
  have hsame := sameImage_withState upgrade state
  refine ⟨h.idle, ?_, fun hphase => (h.holds hphase).congr hsame, h.session, h.upgrading,
    h.moving, h.sent, h.verified, h.activated⟩
  intro hphase
  obtain ⟨hbootloader, hopened⟩ := h.opened hphase
  exact ⟨hbootloader, hopened.imp id (Opened.congr hsame)⟩

theorem IsCopy.withState (h : IsCopy upgrade phase frame) (state : UpgradeState) :
    IsCopy { upgrade with state := state } phase frame := by
  refine ⟨h.1, h.2.trans ?_⟩
  cases phase <;> rfl

theorem StaleAt.withState (h : StaleAt upgrade firmware phase frame) (state : UpgradeState) :
    StaleAt { upgrade with state := state } firmware phase frame := by
  cases h with
  | enterBootloader htype => exact .enterBootloader htype
  | begin hphase htype hpayload => exact .begin hphase htype hpayload
  | control hphase htype => exact .control hphase htype
  | data first last hphase hdata hoffset =>
    exact .data first last hphase (hdata.congr (sameImage_withState upgrade state) rfl) hoffset

theorem Right.withState (h : Right upgrade firmware phase frame) (state : UpgradeState) :
    Right { upgrade with state := state } firmware phase frame := by
  obtain ⟨htype, hreports⟩ := h
  refine ⟨htype, ?_⟩
  cases phase with
  | begin => exact ⟨hreports.1.congr (sameImage_withState upgrade state), hreports.2⟩
  | _ => exact hreports

end WithState

/-! ## To the next chunk -/

/-- The host takes a session and an offset from the device, which are the device's
own, and has no reason to send the request of the phase again. -/
structure Resumes (upgrade : Upgrade) (firmware : Firmware) (phase : Phase)
    (sessionId offset : UInt32) : Prop where
  servable : Servable upgrade
  holds : Holds upgrade firmware
  session_eq : firmware.sessionId = sessionId
  offset_eq : firmware.offset = offset
  upgrading : firmware.upgrading = true
  spent : phase.budget + upgrade.offset.toNat < 2 + offset.toNat
  stale : ∀ {upgrade' next}, upgrade.SameImage upgrade' → upgrade'.sessionId = sessionId →
    next.early = false → ∀ request, IsCopy upgrade phase request →
      StaleAt upgrade' firmware next request

section Resume

variable {upgrade : Upgrade} {firmware : Firmware} {phase : Phase} {sessionId offset : UInt32}

theorem Resumes.sessionId_ne (h : Resumes upgrade firmware phase sessionId offset) :
    sessionId ≠ 0 := by
  rw [← h.session_eq]
  exact h.holds.sessionId_ne

theorem Resumes.offset_le (h : Resumes upgrade firmware phase sessionId offset) :
    offset.toNat ≤ upgrade.imageSize := by
  rw [← h.offset_eq]
  exact h.holds.offset_le

/-- The device has the whole image: `FW_END` is next. -/
theorem Resumes.end (h : Resumes upgrade firmware phase sessionId offset)
    (hend : offset.toNat = upgrade.imageSize) :
    ∃ built, upgradeBuildRequest { upgrade with
        sessionId := sessionId, offset := offset, state := .end } = .ok built ∧
      GoesOn upgrade firmware phase .end built := by
  have hsame : upgrade.SameImage { upgrade with
      sessionId := sessionId, offset := offset, state := .end } := ⟨rfl, rfl, rfl, rfl⟩
  have hsent : Phase.end.Sent := ⟨rfl, rfl⟩
  refine ⟨_, rfl, hsame, rfl, .of_sent hsent h.sessionId_ne hend, ?_, ⟨rfl, rfl⟩,
    h.stale hsame rfl rfl, fun _ => h.upgrading, ?_, id⟩
  · refine .of_sent hsent (h.holds.congr hsame) h.session_eq h.upgrading h.offset_eq ?_ ?_
    · intro hphase
      cases hphase
    · intro hphase
      cases hphase
  · exact Nat.add_lt_add_right h.spent _

/-- A chunk is left: `FW_DATA` is next. -/
theorem Resumes.transfer (h : Resumes upgrade firmware phase sessionId offset)
    (hmore : offset.toNat < upgrade.imageSize) :
    ∃ built, upgradeBuildRequest { upgrade with
        sessionId := sessionId, offset := offset, state := .transfer } = .ok built ∧
      GoesOn upgrade firmware phase .transfer built := by
  generalize hresumed : ({ upgrade with
    sessionId := sessionId, offset := offset, state := .transfer } : Upgrade) = resumed
  have hsame : upgrade.SameImage resumed := by
    rw [← hresumed]
    exact ⟨rfl, rfl, rfl, rfl⟩
  have hat : resumed.sessionId = sessionId ∧ resumed.offset = offset ∧
      resumed.state = .transfer ∧ resumed.recoveryAttempts = upgrade.recoveryAttempts := by
    rw [← hresumed]
    exact ⟨rfl, rfl, rfl, rfl⟩
  obtain ⟨hsession, hoffset, hstate, hattempts⟩ := hat
  have hmore : resumed.offset.toNat < resumed.imageSize := by
    rw [hoffset, sameImage_size hsame]
    exact hmore
  have hbuild : upgradeBuildRequest resumed =
      .ok (upgradeRequest Msg.fwData resumed.dataPayload resumed.dataPayload_le,
        { resumed with
          lastChunkEnd := resumed.offset + resumed.chunk.toUInt32
          chunksSent := resumed.chunksSent + 1 }) := by
    unfold upgradeBuildRequest
    rw [hstate]
    exact if_neg (Nat.not_le.mpr hmore)
  have hlast : (resumed.offset + resumed.chunk.toUInt32).toNat =
      resumed.offset.toNat + resumed.chunk := by
    have hsize := (h.servable.congr hsame).size_le
    have hchunk : resumed.chunk ≤ resumed.imageSize - resumed.offset.toNat := by
      rw [Upgrade.chunk]
      split <;> omega
    simp only [firmwareMaxSize] at hsize
    simp only [UInt32.toNat_add, Nat.toUInt32, UInt32.toNat_ofNat']
    omega
  have hbuilt : upgrade.SameImage { resumed with
      lastChunkEnd := resumed.offset + resumed.chunk.toUInt32
      chunksSent := resumed.chunksSent + 1 } := hsame.trans ⟨rfl, rfl, rfl, rfl⟩
  refine ⟨_, hbuild, hbuilt, hstate, ?_, ?_, ⟨rfl, rfl⟩, h.stale hbuilt hsession rfl,
    fun _ => h.upgrading, ?_, ?_⟩
  · refine .of_moving rfl ?_ ⟨hmore, hlast⟩
    show resumed.sessionId ≠ 0
    rw [hsession]
    exact h.sessionId_ne
  · exact .of_moving rfl (h.holds.congr hbuilt) (h.session_eq.trans hsession.symm) h.upgrading
      (.inl (h.offset_eq.trans hoffset.symm))
  · show _ < 2 + resumed.offset.toNat + 2 * resumed.recoveryAttempts.toNat
    rw [hoffset, hattempts]
    exact Nat.add_lt_add_right h.spent _
  · show _ → resumed.recoveryAttempts.toNat ≤ 3
    rw [hattempts]
    exact id

/-- The host goes on with the next chunk, or with `FW_END` if there is none. -/
theorem Resumes.goesOn (h : Resumes upgrade firmware phase sessionId offset) :
    ∃ next built, upgradeBuildRequest (Upgrade.resume { upgrade with
        sessionId := sessionId
        offset := offset }) = .ok built ∧ GoesOn upgrade firmware phase next built := by
  have hresume : ∀ state, (if offset.toNat = upgrade.imageSize then UpgradeState.end
      else UpgradeState.transfer) = state →
      Upgrade.resume { upgrade with sessionId := sessionId, offset := offset } =
        { upgrade with sessionId := sessionId, offset := offset, state := state } := by
    rintro state rfl
    rfl
  by_cases hend : offset.toNat = upgrade.imageSize
  · obtain ⟨built, hbuilt⟩ := h.end hend
    rw [hresume .end (if_pos hend)]
    exact ⟨.end, built, hbuilt⟩
  · obtain ⟨built, hbuilt⟩ := h.transfer (Nat.lt_of_le_of_ne h.offset_le hend)
    rw [hresume .transfer (if_neg hend)]
    exact ⟨.transfer, built, hbuilt⟩

end Resume

/-! ## A right answer -/

/-- What the host does with a right answer: it builds the request of the next phase, or
is done. -/
inductive AcceptCase (upgrade : Upgrade) (firmware : Firmware) (phase : Phase) :
    Status × Upgrade → Prop
  | goesOn (upgrade' : Upgrade) (next : Phase) (built : Frame × Upgrade)
      (hbuild : upgradeBuildRequest upgrade' = .ok built)
      (hgoes : GoesOn upgrade firmware phase next built) :
      AcceptCase upgrade firmware phase (.ok, upgrade')
  | complete (hphase : phase = .reboot) :
      AcceptCase upgrade firmware phase (.ok, { upgrade with state := .complete })

section Accept

variable {upgrade : Upgrade} {firmware : Firmware} {phase next : Phase} {response : Frame}

theorem accept_enterBootloader (hhost : HostAt upgrade .enterBootloader)
    (hat : DeviceAt upgrade firmware .enterBootloader)
    (hreports : firmware.bootloaderActive = true) :
    AcceptCase upgrade firmware .enterBootloader (.ok, { upgrade with state := .begin }) := by
  obtain ⟨hsession, hoffset⟩ := hhost.early rfl
  refine .goesOn _ .begin _ rfl ⟨⟨rfl, rfl, rfl, rfl⟩, rfl, .of_early rfl hsession hoffset, ?_,
    ⟨rfl, rfl⟩, ?_, ?_, ?_, id⟩
  · refine ⟨?_, fun _ => ⟨hreports, .inl (hat.idle rfl)⟩, ?_, ?_, ?_, ?_, ?_, ?_, ?_⟩
    all_goals
      intro hphase
      cases hphase
  · exact fun _ hcopy => .enterBootloader hcopy.1
  · intro hphase
    cases hphase
  · exact Nat.add_lt_add_right (Nat.add_lt_add_right Nat.zero_lt_one _) _

theorem accept_begin (hservable : Servable upgrade) (hhost : HostAt upgrade .begin)
    (hopened : Opened upgrade firmware) :
    AcceptCase upgrade firmware .begin (.ok, Upgrade.resume { upgrade with
      sessionId := firmware.sessionId, offset := firmware.offset }) := by
  have hresumes : Resumes upgrade firmware .begin firmware.sessionId firmware.offset := by
    refine ⟨hservable, hopened.holds, rfl, rfl, hopened.upgrading, ?_, ?_⟩
    · rw [(hhost.early rfl).2]
      show 1 + 0 < _
      omega
    · intro upgrade' next hsame _ hnext request hcopy
      refine .begin hnext hcopy.1 ?_
      rw [sameImage_beginPayload hsame]
      exact hcopy.2
  obtain ⟨next, built, hbuild, hgoes⟩ := hresumes.goesOn
  exact .goesOn _ next built hbuild hgoes

theorem accept_transfer (hservable : Servable upgrade) (hhost : HostAt upgrade .transfer)
    (hat : DeviceAt upgrade firmware .transfer) (hoffset : firmware.offset = upgrade.lastChunkEnd) :
    AcceptCase upgrade firmware .transfer
      (.ok, Upgrade.resume { upgrade with offset := firmware.offset }) := by
  have hresumes : Resumes upgrade firmware .transfer upgrade.sessionId firmware.offset := by
    refine ⟨hservable, hat.holds rfl, hat.session rfl, rfl, hat.upgrading rfl (by decide), ?_, ?_⟩
    · have hdata : IsData upgrade
          (upgradeRequest Msg.fwData upgrade.dataPayload upgrade.dataPayload_le)
          upgrade.offset.toNat upgrade.lastChunkEnd.toNat :=
        isData_dataPayload hservable hhost rfl rfl
      have hlt := hdata.lt
      rw [hoffset]
      show 2 + upgrade.offset.toNat < _
      omega
    · intro upgrade' next hsame hsession hnext request hcopy
      have hdata := (isData_dataPayload hservable hhost hcopy.1 hcopy.2).congr hsame hsession
      refine .data _ _ hnext hdata (.inl ?_)
      rw [hoffset]
  obtain ⟨next, built, hbuild, hgoes⟩ := hresumes.goesOn
  exact .goesOn _ next built hbuild hgoes

theorem accept_recover (hservable : Servable upgrade) (hhost : HostAt upgrade .recover)
    (hat : DeviceAt upgrade firmware .recover) :
    AcceptCase upgrade firmware .recover
      (.ok, Upgrade.resume { upgrade with offset := firmware.offset }) := by
  obtain ⟨_, hlast⟩ := hhost.moving rfl
  have hresumes : Resumes upgrade firmware .recover upgrade.sessionId firmware.offset := by
    refine ⟨hservable, hat.holds rfl, hat.session rfl, rfl, hat.upgrading rfl (by decide), ?_, ?_⟩
    · have hle : upgrade.offset.toNat ≤ firmware.offset.toNat := by
        rcases hat.moving rfl with hsame | hend
        · rw [hsame]
        · rw [hend]
          omega
      show 1 + upgrade.offset.toNat < _
      omega
    · intro upgrade' next _ _ hnext request hcopy
      exact .control hnext (.inl hcopy.1)
  obtain ⟨next, built, hbuild, hgoes⟩ := hresumes.goesOn
  exact .goesOn _ next built hbuild hgoes

/-- Behind the transfer the phases follow one another, and nothing but the state
changes. -/
theorem accept_sent (hhost : HostAt upgrade phase) (hat : DeviceAt upgrade firmware phase)
    (hphase : phase.Sent) (hreboot : phase ≠ .reboot) (hnext : next.Sent) {request : Frame}
    (hbuild : upgradeBuildRequest { upgrade with state := next.state } =
      .ok (request, { upgrade with state := next.state }))
    (hcopy : IsCopy upgrade next request)
    (htype : phase.type = Msg.fwStatus ∨ phase.type = Msg.fwEnd ∨ phase.type = Msg.fwVerify ∨
      phase.type = Msg.fwActivate)
    (hbudget : phase.budget < next.budget) (hverified : next = .activate → firmware.verified = true)
    (hactivated : next = .reboot → firmware.version.bytes = upgrade.version.bytes) :
    AcceptCase upgrade firmware phase (.ok, { upgrade with state := next.state }) := by
  obtain ⟨hearly, hmoving⟩ := hphase
  have hupgrading := hat.upgrading hearly hreboot
  have hsame := sameImage_withState upgrade next.state
  refine .goesOn _ next _ hbuild ⟨hsame, rfl, ?_, ?_, hcopy.withState next.state, ?_,
    fun _ => hupgrading, ?_, id⟩
  · exact .of_sent hnext (hhost.session hearly) (hhost.sent hearly hmoving)
  · exact .of_sent hnext ((hat.holds hearly).congr hsame) (hat.session hearly) hupgrading
      (hat.sent hearly hmoving) hverified hactivated
  · intro other hother
    refine .control hnext.early ?_
    rw [hother.1]
    exact htype
  · exact Nat.add_lt_add_right (Nat.add_lt_add_right hbudget _) _

/-- A right answer is never refused. -/
theorem accept_right (hservable : Servable upgrade) (hstate : upgrade.state = phase.state)
    (hhost : HostAt upgrade phase) (hat : DeviceAt upgrade firmware phase)
    (hright : Right upgrade firmware phase response) :
    AcceptCase upgrade firmware phase (upgradeAcceptResponse upgrade phase.type response) := by
  obtain ⟨htype, hreports⟩ := hright
  have hanswer : ¬ (response.type = Msg.nack ∨ response.type = Msg.error) := by
    rw [htype]
    cases phase <;> decide
  obtain ⟨hentered, hended, hactivated, hrebooted⟩ := @upgradeAcceptResponse_moves upgrade _ hanswer
  cases phase with
  | enterBootloader =>
    have haccepted := hentered hstate
    exact haccepted ▸ accept_enterBootloader hhost hat hreports
  | begin =>
    obtain ⟨hopened, hpayload⟩ := hreports
    have haccepted := upgradeAcceptResponse_begin hanswer hstate hpayload
      hopened.holds.sessionId_ne hopened.holds.offset_le
    exact haccepted ▸ accept_begin hservable hhost hopened
  | transfer =>
    obtain ⟨hoffset, hpayload⟩ := hreports
    have haccepted := upgradeAcceptResponse_data hanswer hstate hpayload hoffset
      (hat.holds rfl).offset_le
    exact haccepted ▸ accept_transfer hservable hhost hat hoffset
  | recover =>
    have hpayload : response.payload = putLe32 upgrade.sessionId ++ putLe32 firmware.offset := by
      rw [← hat.session rfl]
      exact hreports
    have haccepted := upgradeAcceptResponse_status hanswer hstate hpayload
      (hat.holds rfl).offset_le
    exact haccepted ▸ accept_recover hservable hhost hat
  | «end» =>
    have h : AcceptCase upgrade firmware .end (.ok, { upgrade with state := Phase.verify.state }) :=
      accept_sent hhost hat ⟨rfl, rfl⟩ (by decide) ⟨rfl, rfl⟩ rfl ⟨rfl, rfl⟩ (by decide)
        (by decide) (fun hphase => absurd hphase (by decide))
        fun hphase => absurd hphase (by decide)
    have haccepted := hended hstate
    exact haccepted ▸ h
  | verify =>
    obtain ⟨hverified, hpayload⟩ := hreports
    have h : AcceptCase upgrade firmware .verify
        (.ok, { upgrade with state := Phase.activate.state }) :=
      accept_sent hhost hat ⟨rfl, rfl⟩ (by decide) ⟨rfl, rfl⟩ rfl ⟨rfl, rfl⟩ (by decide)
        (by decide) (fun _ => hverified) fun hphase => absurd hphase (by decide)
    have haccepted := upgradeAcceptResponse_verify hanswer hstate hpayload
    exact haccepted ▸ h
  | activate =>
    have h : AcceptCase upgrade firmware .activate
        (.ok, { upgrade with state := Phase.reboot.state }) :=
      accept_sent hhost hat ⟨rfl, rfl⟩ (by decide) ⟨rfl, rfl⟩ rfl ⟨rfl, rfl⟩ (by decide)
        (by decide) (fun hphase => absurd hphase (by decide)) fun _ => hreports
    have haccepted := hactivated hstate
    exact haccepted ▸ h
  | reboot =>
    have haccepted := hrebooted hstate
    exact haccepted ▸ .complete rfl

end Accept

/-! ## A timeout -/

/-- What the host does after a timeout: it asks for the offset of the device, with
everything in flight stale, or gives the upgrade up. -/
inductive RecoveryCase (upgrade : Upgrade) (firmware : Firmware) (phase : Phase) :
    Status × Upgrade → Prop
  | goesOn (upgrade' : Upgrade) (built : Frame × Upgrade)
      (hbuild : upgradeBuildRequest upgrade' = .ok built)
      (hgoes : GoesOn upgrade firmware phase .recover built)
      (hstale : ∀ request, StaleAt upgrade firmware phase request →
        StaleAt built.2 firmware .recover request) :
      RecoveryCase upgrade firmware phase (.ok, upgrade')
  | failed (status : Status) (state : UpgradeState) (hstatus : status ≠ .ok) :
      RecoveryCase upgrade firmware phase (status, { upgrade with state := state })

section Recovery

variable {upgrade : Upgrade} {firmware : Firmware} {phase : Phase}

/-- The requests of the transfer that are in flight when the host asks for the offset. -/
theorem stale_of_copy (hservable : Servable upgrade) (hhost : HostAt upgrade phase)
    (hat : DeviceAt upgrade firmware phase) (hmoving : phase.moving = true) {request : Frame}
    (hcopy : IsCopy upgrade phase request) : StaleAt upgrade firmware .recover request := by
  cases phase with
  | transfer =>
    refine .data _ _ rfl (isData_dataPayload hservable hhost hcopy.1 hcopy.2) ?_
    rcases hat.moving rfl with hoffset | hoffset
    · -- The device does not have the chunk, and may still get it.
      rw [hoffset]
      exact .inr ⟨rfl, rfl, rfl⟩
    · rw [hoffset]
      exact .inl le_rfl
  | recover => exact .control rfl (.inl hcopy.1)
  | _ => cases hmoving

/-- What is stale does not depend on the state of the host or on its recoveries. -/
theorem StaleAt.recover {request : Frame} (h : StaleAt upgrade firmware phase request)
    {upgrade' : Upgrade} (hsame : upgrade.SameImage upgrade')
    (hsession : upgrade'.sessionId = upgrade.sessionId)
    (hlast : upgrade'.lastChunkEnd = upgrade.lastChunkEnd) :
    StaleAt upgrade' firmware .recover request := by
  cases h with
  | enterBootloader htype => exact .enterBootloader htype
  | begin _ htype hpayload =>
    rw [← sameImage_beginPayload hsame] at hpayload
    exact .begin rfl htype hpayload
  | control _ htype => exact .control rfl htype
  | data first last _ hdata hoffset =>
    refine .data first last rfl (hdata.congr hsame hsession) (hoffset.imp id ?_)
    rintro ⟨_, hfirst, hend⟩
    rw [hlast]
    exact ⟨rfl, hfirst, hend⟩

theorem recovery_goesOn (hservable : Servable upgrade) (hhost : HostAt upgrade phase)
    (hat : DeviceAt upgrade firmware phase) (hmoving : phase.moving = true)
    (hattempts : ¬ upgrade.recoveryAttempts ≥ 3) :
    RecoveryCase upgrade firmware phase (.ok, { upgrade with
      recoveryAttempts := upgrade.recoveryAttempts + 1
      state := .recover }) := by
  generalize hrecovering : ({ upgrade with
    recoveryAttempts := upgrade.recoveryAttempts + 1
    state := .recover } : Upgrade) = recovering
  have hsame : upgrade.SameImage recovering := by
    rw [← hrecovering]
    exact ⟨rfl, rfl, rfl, rfl⟩
  have hkept : recovering.sessionId = upgrade.sessionId ∧ recovering.offset = upgrade.offset ∧
      recovering.lastChunkEnd = upgrade.lastChunkEnd ∧ recovering.chunk = upgrade.chunk ∧
      recovering.state = .recover := by
    rw [← hrecovering]
    exact ⟨rfl, rfl, rfl, rfl, rfl⟩
  obtain ⟨hsession, hoffset, hlast, hchunk, hstate⟩ := hkept
  have hcount : recovering.recoveryAttempts.toNat = upgrade.recoveryAttempts.toNat + 1 ∧
      upgrade.recoveryAttempts.toNat < 3 := by
    rw [← hrecovering]
    show (upgrade.recoveryAttempts + 1).toNat = _ ∧ _
    rw [ge_iff_le, UInt8.le_iff_toNat_le] at hattempts
    simp only [UInt8.toNat_add, UInt8.toNat_ofNat] at hattempts ⊢
    omega
  have hearly := Phase.early_of_moving hmoving
  have hbuild : upgradeBuildRequest recovering =
      .ok (upgradeRequest Msg.fwStatus (putLe32 recovering.sessionId) (putLe32_le _),
        recovering) := by
    unfold upgradeBuildRequest
    rw [hstate]
    refine if_neg ?_
    rw [hsession]
    exact hhost.session hearly
  have hrecover : ∀ request, StaleAt upgrade firmware phase request →
      StaleAt recovering firmware .recover request :=
    fun request hstale => hstale.recover hsame hsession hlast
  have hreboot : phase ≠ .reboot := by
    rintro rfl
    cases hmoving
  have hupgrading := hat.upgrading hearly hreboot
  refine .goesOn recovering _ hbuild
    ⟨hsame, hstate, .of_moving rfl ?_ ?_, ?_, ⟨rfl, rfl⟩, ?_, fun _ => hupgrading, ?_, ?_⟩ hrecover
  · show recovering.sessionId ≠ 0
    rw [hsession]
    exact hhost.session hearly
  · rw [hoffset, hlast, hchunk, sameImage_size hsame]
    exact hhost.moving hmoving
  · refine .of_moving rfl ((hat.holds hearly).congr hsame)
      ((hat.session hearly).trans hsession.symm) hupgrading ?_
    rw [hoffset, hlast]
    exact hat.moving hmoving
  · intro request hcopy
    exact (stale_of_copy hservable hhost hat hmoving hcopy).recover hsame hsession hlast
  · have hbudget : phase.budget ≤ 2 := by
      cases phase <;> first | decide | cases hmoving
    show phase.budget + _ + _ < 1 + recovering.offset.toNat + 2 * recovering.recoveryAttempts.toNat
    rw [hoffset, hcount.1]
    omega
  · intro _
    show recovering.recoveryAttempts.toNat ≤ 3
    omega

theorem recovery_cases (hservable : Servable upgrade) (hstate : upgrade.state = phase.state)
    (hhost : HostAt upgrade phase) (hat : DeviceAt upgrade firmware phase) :
    RecoveryCase upgrade firmware phase (upgradeBeginRecovery upgrade) := by
  unfold upgradeBeginRecovery
  split
  · exact .failed .state upgrade.state (by decide)
  · rename_i hresumable
    split
    · exact .failed .timeout .error (by decide)
    · rename_i hattempts
      have hmoving : phase.moving = true := by
        rw [hstate] at hresumable
        cases phase <;> first | rfl | simp [Phase.state] at hresumable
      exact recovery_goesOn hservable hhost hat hmoving hattempts

end Recovery

end Link
