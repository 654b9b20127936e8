import DeviceManager.Link.Device

/-!
# The phases of an upgrade, on both sides of the link

A phase is the request that the host is at: `ENTER_BOOTLOADER` to `REBOOT`.  For each
phase this module says what holds of the host (`HostAt`) and of the device
(`DeviceAt`), which answer is right (`Right`), and which copies of earlier requests may
still be on their way (`StaleAt`).

* `serve_copy`: the device answers a copy of the current request rightly, the first
  time and every time after it.
* `serve_stale`: a copy of an earlier request does no harm.  It may have an effect: the
  last `FW_DATA` before a recovery is programmed while the host waits for the
  `FW_STATUS` behind it.
-/

namespace Link

open Devmgr

/-- The request that the host is at. -/
inductive Phase
  | enterBootloader
  | begin
  | transfer
  | recover
  | end
  | verify
  | activate
  | reboot
  deriving DecidableEq

def Phase.state : Phase → UpgradeState
  | .enterBootloader => .enterBootloader
  | .begin => .begin
  | .transfer => .transfer
  | .recover => .recover
  | .end => .end
  | .verify => .verify
  | .activate => .activate
  | .reboot => .reboot

def Phase.type : Phase → UInt8
  | .enterBootloader => Msg.enterBootloader
  | .begin => Msg.fwBegin
  | .transfer => Msg.fwData
  | .recover => Msg.fwStatus
  | .end => Msg.fwEnd
  | .verify => Msg.fwVerify
  | .activate => Msg.fwActivate
  | .reboot => Msg.reboot

/-- The payload of the request of a phase. -/
def Phase.payload (phase : Phase) (upgrade : Upgrade) : List UInt8 :=
  match phase with
  | .enterBootloader => []
  | .begin => upgrade.beginPayload
  | .transfer => upgrade.dataPayload
  | .recover | .end | .verify | .activate => putLe32 upgrade.sessionId
  | .reboot => [0]

/-- The host has not accepted a session yet. -/
def Phase.early : Phase → Bool
  | .enterBootloader | .begin => true
  | _ => false

/-- The image is on its way. -/
def Phase.moving : Phase → Bool
  | .transfer | .recover => true
  | _ => false

/-- What holds of the host. -/
structure HostAt (upgrade : Upgrade) (phase : Phase) : Prop where
  early : phase.early = true → upgrade.sessionId = 0 ∧ upgrade.offset = 0
  session : phase.early = false → upgrade.sessionId ≠ 0
  moving : phase.moving = true → upgrade.offset.toNat < upgrade.imageSize ∧
    upgrade.lastChunkEnd.toNat = upgrade.offset.toNat + upgrade.chunk
  sent : phase.early = false → phase.moving = false →
    upgrade.offset.toNat = upgrade.imageSize

/-- The device has opened the session, and nothing was written yet. -/
structure Opened (upgrade : Upgrade) (firmware : Firmware) : Prop where
  holds : Holds upgrade firmware
  upgrading : firmware.upgrading = true
  offset : firmware.offset = 0

/-- What holds of the device. -/
structure DeviceAt (upgrade : Upgrade) (firmware : Firmware) (phase : Phase) : Prop where
  idle : phase = .enterBootloader → firmware.upgrading = false
  opened : phase = .begin →
    firmware.bootloaderActive = true ∧ (firmware.upgrading = false ∨ Opened upgrade firmware)
  holds : phase.early = false → Holds upgrade firmware
  session : phase.early = false → firmware.sessionId = upgrade.sessionId
  upgrading : phase.early = false → phase ≠ .reboot → firmware.upgrading = true
  moving : phase.moving = true →
    firmware.offset = upgrade.offset ∨ firmware.offset = upgrade.lastChunkEnd
  sent : phase.early = false → phase.moving = false → firmware.offset = upgrade.offset
  verified : phase = .activate → firmware.verified = true
  activated : phase = .reboot → firmware.version.bytes = upgrade.version.bytes

/-- A copy of the current request. -/
def IsCopy (upgrade : Upgrade) (phase : Phase) (request : Frame) : Prop :=
  request.type = phase.type ∧ request.payload = phase.payload upgrade

/-- What an answer says, and what it shows of the device. -/
def Phase.reports (phase : Phase) (upgrade : Upgrade) (firmware : Firmware)
    (payload : List UInt8) : Prop :=
  match phase with
  | .enterBootloader => firmware.bootloaderActive = true
  | .begin => Opened upgrade firmware ∧
      payload = putLe32 firmware.sessionId ++ putLe32 firmware.offset
  | .transfer => firmware.offset = upgrade.lastChunkEnd ∧ payload = putLe32 firmware.offset
  | .recover => payload = putLe32 firmware.sessionId ++ putLe32 firmware.offset
  | .verify => firmware.verified = true ∧ payload = putLe32 upgrade.imageCrc
  | .activate => firmware.version.bytes = upgrade.version.bytes
  | .end | .reboot => True

/-- A right answer to the current request. -/
structure Right (upgrade : Upgrade) (firmware : Firmware) (phase : Phase) (response : Frame) :
    Prop where
  type : response.type = phase.type
  reports : phase.reports upgrade firmware response.payload

/-- A copy of an earlier request: the device has seen what it asks for, or it is the
`FW_DATA` that the host has given up for a recovery. -/
inductive StaleAt (upgrade : Upgrade) (firmware : Firmware) (phase : Phase) (request : Frame) :
    Prop
  | enterBootloader (htype : request.type = Msg.enterBootloader)
  | begin (hphase : phase.early = false) (htype : request.type = Msg.fwBegin)
      (hpayload : request.payload = upgrade.beginPayload)
  | data (first last : Nat) (hphase : phase.early = false)
      (hdata : IsData upgrade request first last)
      (hoffset : last ≤ firmware.offset.toNat ∨ phase.moving = true ∧
        first = firmware.offset.toNat ∧ last = upgrade.lastChunkEnd.toNat)
  | control (hphase : phase.early = false) (htype : request.type = Msg.fwStatus ∨
      request.type = Msg.fwEnd ∨ request.type = Msg.fwVerify ∨ request.type = Msg.fwActivate)

/-! ## Early, moving and sent phases -/

theorem Phase.early_of_moving {phase : Phase} (h : phase.moving = true) :
    phase.early = false := by
  cases phase <;> first | rfl | cases h

/-- The whole image was sent. -/
structure Phase.Sent (phase : Phase) : Prop where
  early : phase.early = false
  moving : phase.moving = false

section At

variable {upgrade : Upgrade} {firmware : Firmware} {phase : Phase}

theorem HostAt.of_early (hphase : phase.early = true) (hsession : upgrade.sessionId = 0)
    (hoffset : upgrade.offset = 0) : HostAt upgrade phase := by
  have hlate : ¬ phase.early = false := by simp [hphase]
  refine ⟨fun _ => ⟨hsession, hoffset⟩, fun h => absurd h hlate, ?_, fun h => absurd h hlate⟩
  intro hmoving
  exact absurd (Phase.early_of_moving hmoving) hlate

theorem HostAt.of_moving (hphase : phase.moving = true) (hsession : upgrade.sessionId ≠ 0)
    (hoffset : upgrade.offset.toNat < upgrade.imageSize ∧
      upgrade.lastChunkEnd.toNat = upgrade.offset.toNat + upgrade.chunk) :
    HostAt upgrade phase := by
  refine ⟨?_, fun _ => hsession, fun _ => hoffset, ?_⟩
  · simp [Phase.early_of_moving hphase]
  · simp [hphase]

theorem HostAt.of_sent (hphase : phase.Sent) (hsession : upgrade.sessionId ≠ 0)
    (hoffset : upgrade.offset.toNat = upgrade.imageSize) : HostAt upgrade phase := by
  refine ⟨?_, fun _ => hsession, ?_, fun _ _ => hoffset⟩
  · simp [hphase.early]
  · simp [hphase.moving]

theorem DeviceAt.of_moving (hphase : phase.moving = true) (hholds : Holds upgrade firmware)
    (hsession : firmware.sessionId = upgrade.sessionId) (hupgrading : firmware.upgrading = true)
    (hoffset : firmware.offset = upgrade.offset ∨ firmware.offset = upgrade.lastChunkEnd) :
    DeviceAt upgrade firmware phase := by
  refine ⟨?_, ?_, fun _ => hholds, fun _ => hsession, fun _ _ => hupgrading, fun _ => hoffset,
    ?_, ?_, ?_⟩
  · rintro rfl
    cases hphase
  · rintro rfl
    cases hphase
  · simp [hphase]
  · rintro rfl
    cases hphase
  · rintro rfl
    cases hphase

theorem DeviceAt.of_sent (hphase : phase.Sent) (hholds : Holds upgrade firmware)
    (hsession : firmware.sessionId = upgrade.sessionId) (hupgrading : firmware.upgrading = true)
    (hoffset : firmware.offset = upgrade.offset)
    (hverified : phase = .activate → firmware.verified = true)
    (hactivated : phase = .reboot → firmware.version.bytes = upgrade.version.bytes) :
    DeviceAt upgrade firmware phase := by
  refine ⟨?_, ?_, fun _ => hholds, fun _ => hsession, fun _ _ => hupgrading, ?_,
    fun _ _ => hoffset, hverified, hactivated⟩
  · rintro rfl
    cases hphase.early
  · rintro rfl
    cases hphase.early
  · simp [hphase.moving]

end At

/-! ## Harmless changes -/

/-- A change of the device that no phase minds. -/
structure Harmless (upgrade : Upgrade) (phase : Phase) (before after : Firmware) : Prop where
  holds : Holds upgrade before → Holds upgrade after
  sessionId : after.sessionId = before.sessionId
  upgrading : after.upgrading = before.upgrading
  failVerify : after.failVerify = before.failVerify
  bootloaderActive : before.bootloaderActive = true → after.bootloaderActive = true
  offset : after.offset = before.offset ∨
    phase.moving = true ∧ before.offset.toNat ≤ after.offset.toNat ∧
      after.offset = upgrade.lastChunkEnd
  verified : before.verified = true → after.verified = true
  version : before.version.bytes = upgrade.version.bytes →
    after.version.bytes = upgrade.version.bytes

theorem Harmless.refl (upgrade : Upgrade) (phase : Phase) (firmware : Firmware) :
    Harmless upgrade phase firmware firmware :=
  ⟨id, rfl, rfl, rfl, id, .inl rfl, id, id⟩

theorem Harmless.deviceAt {upgrade : Upgrade} {phase : Phase} {before after : Firmware}
    (h : Harmless upgrade phase before after) (hat : DeviceAt upgrade before phase) :
    DeviceAt upgrade after phase := by
  have hoffset : phase.moving = false → after.offset = before.offset := by
    intro hmoving
    rcases h.offset with hsame | ⟨hmoves, _⟩
    · exact hsame
    · rw [hmoving] at hmoves
      cases hmoves
  refine ⟨?_, ?_, ?_, ?_, ?_, ?_, ?_, ?_, ?_⟩
  · rw [h.upgrading]
    exact hat.idle
  · intro hphase
    obtain ⟨hbootloader, hopened⟩ := hat.opened hphase
    refine ⟨h.bootloaderActive hbootloader, ?_⟩
    rw [h.upgrading]
    refine hopened.imp id fun hopened => ?_
    refine ⟨h.holds hopened.holds, h.upgrading.trans hopened.upgrading, ?_⟩
    rw [hoffset (by rw [hphase]; rfl)]
    exact hopened.offset
  · exact fun hphase => h.holds (hat.holds hphase)
  · rw [h.sessionId]
    exact hat.session
  · rw [h.upgrading]
    exact hat.upgrading
  · intro hmoving
    rcases h.offset with hsame | ⟨_, _, hlast⟩
    · rw [hsame]
      exact hat.moving hmoving
    · exact .inr hlast
  · intro hphase hmoving
    rw [hoffset hmoving]
    exact hat.sent hphase hmoving
  · exact fun hphase => h.verified (hat.verified hphase)
  · exact fun hphase => h.version (hat.activated hphase)

/-- What was stale stays stale: the offset only moves to the end of the chunk under
way. -/
theorem Harmless.staleAt {upgrade : Upgrade} {phase : Phase} {before after : Firmware}
    (h : Harmless upgrade phase before after) {request : Frame}
    (hstale : StaleAt upgrade before phase request) : StaleAt upgrade after phase request := by
  cases hstale with
  | enterBootloader htype => exact .enterBootloader htype
  | begin hphase htype hpayload => exact .begin hphase htype hpayload
  | control hphase htype => exact .control hphase htype
  | data first last hphase hdata hoffset =>
    refine .data first last hphase hdata ?_
    rcases h.offset with hsame | ⟨_, hle, hlast⟩
    · rw [hsame]
      exact hoffset
    · rcases hoffset with hbefore | ⟨_, _, hend⟩
      · exact .inl (hbefore.trans hle)
      · rw [hlast, hend]
        exact .inl le_rfl

/-! ## Stale copies -/

section Serve

variable {env : Simulator.Env} {request : Frame} {device : Simulator.State} {upgrade : Upgrade}
  {phase : Phase}

theorem fwVerify_harmless :
    Harmless upgrade phase (firmwareOf device)
      (firmwareOf (Simulator.fwVerify request device).2) := by
  unfold Simulator.fwVerify
  split
  · exact .refl _ _ _
  · exact ⟨fun h => ⟨h.sessionId_ne, h.size, h.crc, h.chunkSize, h.version, h.offset_le,
      h.written⟩, rfl, rfl, rfl, id, .inl rfl, fun _ => rfl, id⟩

theorem fwActivate_harmless (hholds : Holds upgrade (firmwareOf device)) :
    Harmless upgrade phase (firmwareOf device)
      (firmwareOf (Simulator.fwActivate request device).2) := by
  unfold Simulator.fwActivate
  split
  · exact .refl _ _ _
  · exact ⟨fun h => ⟨h.sessionId_ne, h.size, h.crc, h.chunkSize, h.version, h.offset_le,
      h.written⟩, rfl, rfl, rfl, id, .inl rfl, id, fun _ => hholds.version⟩

theorem fwData_harmless {first last : Nat} (hservable : Servable upgrade)
    (hdata : IsData upgrade request first last) (hholds : Holds upgrade (firmwareOf device))
    (hsession : device.firmwareSessionId = upgrade.sessionId)
    (hupgrading : device.firmwareUpgrading = true)
    (hoffset : last ≤ device.firmwareOffset.toNat ∨ phase.moving = true ∧
      first = device.firmwareOffset.toNat ∧ last = upgrade.lastChunkEnd.toNat) :
    Harmless upgrade phase (firmwareOf device)
      (firmwareOf (Simulator.fwData env request device).2) := by
  rcases hoffset with hbefore | ⟨hmoving, hfirst, hlast⟩
  · rw [fwData_repeats env hdata hservable hholds hsession hupgrading hbefore]
    show Harmless upgrade phase _ (firmwareOf (device.injectOutage env))
    rw [injectOutage_firmware]
    exact .refl _ _ _
  · obtain ⟨hprogrammed, hend⟩ := Holds.program hdata hservable hholds hfirst
    rw [fwData_programs env hdata hservable hholds hsession hupgrading hfirst]
    show Harmless upgrade phase _ (firmwareOf
      ((device.program first (request.payload.drop 8)).injectOutage env))
    rw [injectOutage_firmware]
    refine ⟨fun _ => hprogrammed, rfl, rfl, rfl, id, .inr ⟨hmoving, ?_, ?_⟩, id, id⟩
    · show device.firmwareOffset.toNat ≤
        (device.program first (request.payload.drop 8)).firmwareOffset.toNat
      rw [hend, ← hfirst]
      exact hdata.lt.le
    · exact UInt32.toNat_inj.mp (hend.trans hlast)

/-- A copy of an earlier request does no harm. -/
theorem serve_stale (hservable : Servable upgrade)
    (hat : DeviceAt upgrade (firmwareOf device) phase)
    (hrunning : phase = .reboot → device.firmwareUpgrading = true)
    (hstale : StaleAt upgrade (firmwareOf device) phase request) :
    Harmless upgrade phase (firmwareOf device)
      (firmwareOf (Simulator.handle env request device).2) := by
  have hupgrading : phase.early = false → device.firmwareUpgrading = true := by
    intro hphase
    by_cases hreboot : phase = .reboot
    · exact hrunning hreboot
    · exact hat.upgrading hphase hreboot
  unfold Simulator.handle
  cases hstale with
  | enterBootloader htype =>
    simp +decide only [htype, if_true, if_false]
    exact ⟨fun h => ⟨h.sessionId_ne, h.size, h.crc, h.chunkSize, h.version, h.offset_le,
      h.written⟩, rfl, rfl, rfl, fun _ => rfl, .inl rfl, id, id⟩
  | begin hphase htype hpayload =>
    simp +decide only [htype, if_true, if_false]
    rw [(fwBegin_continues env hservable hpayload (hat.holds hphase) (hupgrading hphase)).1]
    exact .refl _ _ _
  | data first last hphase hdata hoffset =>
    have htype := hdata.type
    simp +decide only [htype, if_true, if_false]
    exact fwData_harmless hservable hdata (hat.holds hphase) (hat.session hphase)
      (hupgrading hphase) hoffset
  | control hphase htype =>
    rcases htype with htype | htype | htype | htype
    · simp +decide only [htype, if_true, if_false]
      unfold Simulator.fwStatus
      split
      · exact .refl _ _ _
      · exact .refl _ _ _
    · simp +decide only [htype, if_true, if_false]
      unfold Simulator.fwEnd
      split
      · exact .refl _ _ _
      · exact .refl _ _ _
    · simp +decide only [htype, if_true, if_false]
      exact fwVerify_harmless
    · simp +decide only [htype, if_true, if_false]
      exact fwActivate_harmless (hat.holds hphase)

/-! ## Copies of the current request -/

/-- What the device owes a copy of the current request: it stays where it was or goes
on, the answer is right, and so are the earlier ones. -/
structure Served (upgrade : Upgrade) (phase : Phase) (request : Frame) (before : Firmware)
    (reply : Simulator.Reply) (after : Firmware) : Prop where
  deviceAt : DeviceAt upgrade after phase
  failVerify : after.failVerify = before.failVerify
  right : Right upgrade after phase (reply.frame request)
  keeps : ∀ response, Right upgrade before phase response → Right upgrade after phase response

theorem serve_enterBootloader (hat : DeviceAt upgrade (firmwareOf device) .enterBootloader)
    (htype : request.type = Msg.enterBootloader) :
    Served upgrade .enterBootloader request (firmwareOf device)
      (Simulator.enterBootloader device).1
      (firmwareOf (Simulator.enterBootloader device).2) where
  deviceAt := by
    refine ⟨hat.idle, ?_, ?_, ?_, ?_, ?_, ?_, ?_, ?_⟩
    all_goals
      intro h
      cases h
  failVerify := rfl
  right := ⟨htype, rfl⟩
  keeps _ h := ⟨h.type, rfl⟩

theorem serve_begin (hservable : Servable upgrade)
    (hat : DeviceAt upgrade (firmwareOf device) .begin) (htype : request.type = Msg.fwBegin)
    (hpayload : request.payload = upgrade.beginPayload) {memory : Nat → UInt8}
    (hmalloc : env.malloc = some memory) :
    Served upgrade .begin request (firmwareOf device) (Simulator.fwBegin env request device).1
      (firmwareOf (Simulator.fwBegin env request device).2) := by
  obtain ⟨hbootloader, hidle | hopened⟩ := hat.opened rfl
  · obtain ⟨sessionId, device', hserved, hsession, hholds, hoffset, hupgrading, hactive,
      hverify⟩ := fwBegin_opens hservable hpayload hbootloader hidle hmalloc
    rw [hserved]
    have hopened : Opened upgrade (firmwareOf device') := ⟨hholds, hupgrading, hoffset⟩
    refine ⟨?_, hverify, ⟨htype, hopened, ?_⟩, ?_⟩
    · refine ⟨?_, fun _ => ⟨hactive, .inr hopened⟩, ?_, ?_, ?_, ?_, ?_, ?_, ?_⟩
      all_goals
        intro h
        cases h
    · rw [hsession, hoffset]
      rfl
    · -- No answer was right before the session was opened.
      intro response hright
      have hbefore : Opened upgrade (firmwareOf device) := hright.reports.1
      exact absurd (hidle.symm.trans hbefore.upgrading) Bool.false_ne_true
  · have hserved := (fwBegin_continues env hservable hpayload hopened.holds
      hopened.upgrading).2 hbootloader
    rw [hserved]
    exact ⟨hat, rfl, ⟨htype, hopened, rfl⟩, fun _ h => h⟩

/-- The current `FW_DATA` has the chunk at the offset of the host. -/
theorem isData_dataPayload (hservable : Servable upgrade) (hhost : HostAt upgrade .transfer)
    (htype : request.type = Msg.fwData) (hpayload : request.payload = upgrade.dataPayload) :
    IsData upgrade request upgrade.offset.toNat upgrade.lastChunkEnd.toNat := by
  obtain ⟨hoffset, hlast⟩ := hhost.moving rfl
  have hchunk := upgrade.chunk_le
  have hbounds := Upgrade.chunk_bounds hoffset hservable.chunkSize_ne
  refine ⟨htype, ?_, by omega, by omega, by omega⟩
  rw [hpayload, Upgrade.dataPayload, hlast, Nat.add_sub_cancel_left]
  simp [Nat.toUInt32]

theorem serve_transfer (hservable : Servable upgrade) (hhost : HostAt upgrade .transfer)
    (hat : DeviceAt upgrade (firmwareOf device) .transfer) (htype : request.type = Msg.fwData)
    (hpayload : request.payload = upgrade.dataPayload) :
    Served upgrade .transfer request (firmwareOf device) (Simulator.fwData env request device).1
      (firmwareOf (Simulator.fwData env request device).2) := by
  have hdata := isData_dataPayload hservable hhost htype hpayload
  have hholds := hat.holds rfl
  have hsession : device.firmwareSessionId = upgrade.sessionId := hat.session rfl
  have hupgrading : device.firmwareUpgrading = true := hat.upgrading rfl (by decide)
  rcases hat.moving rfl with hoffset | hoffset
  · -- The chunk is new.
    have hfirst : upgrade.offset.toNat = device.firmwareOffset.toNat := by
      rw [← hoffset]
      rfl
    have hharmless : Harmless upgrade .transfer (firmwareOf device)
        (firmwareOf (Simulator.fwData env request device).2) :=
      fwData_harmless hservable hdata hholds hsession hupgrading (.inr ⟨rfl, hfirst, rfl⟩)
    obtain ⟨_, hend⟩ := Holds.program hdata hservable hholds hfirst
    have hserved := fwData_programs env hdata hservable hholds hsession hupgrading hfirst
    have hfirmware : (firmwareOf (Simulator.fwData env request device).2).offset =
        (device.program upgrade.offset.toNat (request.payload.drop 8)).firmwareOffset := by
      rw [hserved]
      exact congrArg Firmware.offset (injectOutage_firmware env _)
    have hdone : (firmwareOf (Simulator.fwData env request device).2).offset =
        upgrade.lastChunkEnd := by
      rw [hfirmware]
      exact UInt32.toNat_inj.mp hend
    refine ⟨hharmless.deviceAt hat, hharmless.failVerify, ⟨?_, hdone, ?_⟩, ?_⟩
    · rw [hserved]
      exact htype
    · rw [hfirmware, hserved]
      rfl
    · intro response hright
      obtain ⟨hbefore, _⟩ := hright.reports
      have hlt := hdata.lt
      rw [← hoffset, ← hbefore] at hlt
      exact absurd hlt (Nat.lt_irrefl _)
  · -- The device has the chunk already.
    have hlast : upgrade.lastChunkEnd.toNat ≤ device.firmwareOffset.toNat := by
      rw [← hoffset]
      exact le_rfl
    have hserved := fwData_repeats env hdata hservable hholds hsession hupgrading hlast
    rw [hserved]
    dsimp only
    rw [injectOutage_firmware]
    exact ⟨hat, rfl, ⟨htype, hoffset, rfl⟩, fun _ h => h⟩

/-- The session id is the payload of the requests behind the transfer. -/
theorem addressed_sessionId (hpayload : request.payload = putLe32 upgrade.sessionId)
    (hsession : device.firmwareSessionId = upgrade.sessionId) :
    device.addressed request.payload := by
  rw [hpayload]
  exact ⟨rfl, (getLe32_putLe32_self _).trans hsession.symm⟩

theorem serve_recover (hat : DeviceAt upgrade (firmwareOf device) .recover)
    (htype : request.type = Msg.fwStatus)
    (hpayload : request.payload = putLe32 upgrade.sessionId) :
    Served upgrade .recover request (firmwareOf device) (Simulator.fwStatus request device).1
      (firmwareOf (Simulator.fwStatus request device).2) := by
  have hupgrading : device.firmwareUpgrading = true := hat.upgrading rfl (by decide)
  have haddressed := addressed_sessionId hpayload (hat.session rfl)
  have hserved : Simulator.fwStatus request device =
      (.words device.firmwareSessionId device.firmwareOffset, device) := by
    unfold Simulator.fwStatus
    rw [if_neg]
    simp only [not_or, not_not]
    exact ⟨hupgrading, haddressed⟩
  rw [hserved]
  exact ⟨hat, rfl, ⟨htype, rfl⟩, fun _ h => h⟩

theorem serve_end (hhost : HostAt upgrade .end) (hat : DeviceAt upgrade (firmwareOf device) .end)
    (htype : request.type = Msg.fwEnd) (hpayload : request.payload = putLe32 upgrade.sessionId) :
    Served upgrade .end request (firmwareOf device) (Simulator.fwEnd request device).1
      (firmwareOf (Simulator.fwEnd request device).2) := by
  have hupgrading : device.firmwareUpgrading = true := hat.upgrading rfl (by decide)
  have haddressed := addressed_sessionId hpayload (hat.session rfl)
  have hoffset : device.firmwareOffset = upgrade.offset := hat.sent rfl rfl
  have hsize : device.flashSize = upgrade.imageSize := (hat.holds rfl).size
  have hserved : Simulator.fwEnd request device = (.empty, device) := by
    unfold Simulator.fwEnd
    rw [if_neg]
    simp only [not_or, not_not]
    refine ⟨hupgrading, haddressed, ?_⟩
    rw [hoffset, hsize]
    exact hhost.sent rfl rfl
  rw [hserved]
  exact ⟨hat, rfl, ⟨htype, trivial⟩, fun _ h => h⟩

/-- Behind the transfer the flash is the image. -/
theorem Holds.contents_eq {firmware : Firmware} (h : Holds upgrade firmware)
    (hoffset : firmware.offset.toNat = upgrade.imageSize) :
    firmware.contents = upgrade.imageData := by
  have hwritten := h.written
  rw [hoffset, List.take_of_length_le h.size.le] at hwritten
  rw [hwritten]
  exact List.take_of_length_le le_rfl

theorem serve_verify (hservable : Servable upgrade) (hhost : HostAt upgrade .verify)
    (hat : DeviceAt upgrade (firmwareOf device) .verify) (hverify : device.failVerify = false)
    (htype : request.type = Msg.fwVerify)
    (hpayload : request.payload = putLe32 upgrade.sessionId) :
    Served upgrade .verify request (firmwareOf device) (Simulator.fwVerify request device).1
      (firmwareOf (Simulator.fwVerify request device).2) := by
  have hupgrading : device.firmwareUpgrading = true := hat.upgrading rfl (by decide)
  have haddressed := addressed_sessionId hpayload (hat.session rfl)
  have hoffset : (firmwareOf device).offset.toNat = upgrade.imageSize := by
    rw [hat.sent rfl rfl]
    exact hhost.sent rfl rfl
  have hcontents : device.contents = upgrade.imageData := (hat.holds rfl).contents_eq hoffset
  have hactual : device.actualCrc = upgrade.imageCrc := by
    rw [hservable.crc, ← hcontents]
    have hpos := hservable.size_pos
    rw [Upgrade.imageSize, ← hcontents] at hpos
    unfold Simulator.State.actualCrc Simulator.State.contents
    unfold Simulator.State.contents at hpos
    cases hflash : device.flash with
    | none =>
      rw [hflash] at hpos
      exact absurd hpos (Nat.lt_irrefl _)
    | some flash => rfl
  have hexpected : device.expectedFirmwareCrc = upgrade.imageCrc := (hat.holds rfl).crc
  have hserved : Simulator.fwVerify request device =
      (.word device.actualCrc, { device with firmwareVerified := true }) := by
    unfold Simulator.fwVerify
    rw [if_neg]
    simp only [not_or, not_not]
    refine ⟨hupgrading, haddressed, ?_, hactual.trans hexpected.symm⟩
    rw [hverify]
    exact Bool.false_ne_true
  have hharmless : Harmless upgrade .verify (firmwareOf device)
    (firmwareOf (Simulator.fwVerify request device).2) := fwVerify_harmless
  refine ⟨hharmless.deviceAt hat, hharmless.failVerify, ?_, ?_⟩
  · rw [hserved]
    refine ⟨htype, rfl, ?_⟩
    show putLe32 device.actualCrc = _
    rw [hactual]
  · intro response hright
    obtain ⟨hverified, hreports⟩ := hright.reports
    exact ⟨hright.type, hharmless.verified hverified, hreports⟩

theorem serve_activate (hat : DeviceAt upgrade (firmwareOf device) .activate)
    (htype : request.type = Msg.fwActivate)
    (hpayload : request.payload = putLe32 upgrade.sessionId) :
    Served upgrade .activate request (firmwareOf device) (Simulator.fwActivate request device).1
      (firmwareOf (Simulator.fwActivate request device).2) := by
  have hverified : device.firmwareVerified = true := hat.verified rfl
  have haddressed := addressed_sessionId hpayload (hat.session rfl)
  have hserved : Simulator.fwActivate request device =
      (.empty, { device with firmwareVersion := device.pendingVersion }) := by
    unfold Simulator.fwActivate
    rw [if_neg]
    simp only [not_or, not_not]
    exact ⟨hverified, haddressed⟩
  have hharmless : Harmless upgrade .activate (firmwareOf device)
    (firmwareOf (Simulator.fwActivate request device).2) := fwActivate_harmless (hat.holds rfl)
  refine ⟨hharmless.deviceAt hat, hharmless.failVerify, ?_, ?_⟩
  · rw [hserved]
    exact ⟨htype, (hat.holds rfl).version⟩
  · intro response hright
    exact ⟨hright.type, hharmless.version hright.reports⟩

theorem serve_reboot (hat : DeviceAt upgrade (firmwareOf device) .reboot)
    (htype : request.type = Msg.reboot) :
    Served upgrade .reboot request (firmwareOf device) (Simulator.reboot device).1
      (firmwareOf (Simulator.reboot device).2) := by
  have hholds := hat.holds rfl
  refine ⟨?_, rfl, ⟨htype, trivial⟩, fun _ h => ⟨h.type, trivial⟩⟩
  refine ⟨?_, ?_, ?_, hat.session, ?_, ?_, hat.sent, ?_, hat.activated⟩
  · intro h
    cases h
  · intro h
    cases h
  · exact fun _ => ⟨hholds.sessionId_ne, hholds.size, hholds.crc, hholds.chunkSize,
      hholds.version, hholds.offset_le, hholds.written⟩
  · exact fun _ h => absurd rfl h
  · intro h
    cases h
  · intro h
    cases h

/-- The device answers every copy of the current request rightly. -/
theorem serve_copy (hservable : Servable upgrade) (hhost : HostAt upgrade phase)
    (hat : DeviceAt upgrade (firmwareOf device) phase) (hverify : device.failVerify = false)
    (hcopy : IsCopy upgrade phase request) {memory : Nat → UInt8}
    (hmalloc : env.malloc = some memory) :
    Served upgrade phase request (firmwareOf device) (Simulator.handle env request device).1
      (firmwareOf (Simulator.handle env request device).2) := by
  obtain ⟨htype, hpayload⟩ := hcopy
  unfold Simulator.handle
  cases phase with
  | enterBootloader =>
    simp +decide only [htype, Phase.type, if_true, if_false]
    exact serve_enterBootloader hat htype
  | begin =>
    simp +decide only [htype, Phase.type, if_true, if_false]
    exact serve_begin hservable hat htype hpayload hmalloc
  | transfer =>
    simp +decide only [htype, Phase.type, if_true, if_false]
    exact serve_transfer hservable hhost hat htype hpayload
  | recover =>
    simp +decide only [htype, Phase.type, if_true, if_false]
    exact serve_recover hat htype hpayload
  | «end» =>
    simp +decide only [htype, Phase.type, if_true, if_false]
    exact serve_end hhost hat htype hpayload
  | verify =>
    simp +decide only [htype, Phase.type, if_true, if_false]
    exact serve_verify hservable hhost hat hverify htype hpayload
  | activate =>
    simp +decide only [htype, Phase.type, if_true, if_false]
    exact serve_activate hat htype hpayload
  | reboot =>
    simp +decide only [htype, Phase.type, if_true, if_false]
    exact serve_reboot hat htype

end Serve

end Link
