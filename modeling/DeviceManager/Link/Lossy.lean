import DeviceManager.Lib.StopAndWait
import DeviceManager.Link.Daemon

/-!
# An upgrade over a lossy link

`Tracks` is the joint invariant of the host, the device and the two channels.  The
host is at a phase, both sides have what belongs to it, and the messages in flight are
ordered as those of a stop-and-wait protocol whose numbers are the sequences of the
session: behind a copy of the current request there are only such copies, and an answer
under the current sequence is right.

The sequences of the requests in flight differ because an upgrade begins far fewer
requests than there are sequences (`Tracks.fresh`).  `tracks_step` is the step lemma and
`tracks_reachable` the run lemma; `upgrade_over_lossy_link` reads the results off.
-/

namespace Link

open Devmgr StopAndWait

/-- Messages are numbered by their sequence. -/
def number (frame : Frame) : Nat := frame.sequence.toNat

/-- The sequence of a request, counted from the first. -/
def drawn (first count : Nat) : Nat := SkipZero.iter (2 ^ 32) count first

/-- What the messages in flight mean. -/
def meaning (upgrade : Upgrade) (firmware : Firmware) (phase : Phase) (current : Nat) :
    Meaning Frame Frame where
  current := current
  Stale := StaleAt upgrade firmware phase
  Copy := IsCopy upgrade phase
  Answer := Right upgrade firmware phase
  Executed := phase = .reboot ∧ firmware.upgrading = false

/-- The host is at a phase, with the request number `count`. -/
structure Tracks (started : Upgrade) (first : Nat) (phase : Phase) (count : Nat) (link : State) :
    Prop where
  first_pos : 0 < first
  first_lt : first < 2 ^ 32
  same : started.SameImage link.host.upgrade
  attempts : link.host.upgrade.recoveryAttempts.toNat ≤ 3
  spent : count ≤ phase.spent link.host.upgrade
  host : HostAt link.host.upgrade phase
  device : DeviceAt link.host.upgrade (firmwareOf link.device) phase
  failVerify : link.device.failVerify = false
  output : link.host.transportOutput = []
  waits : Live phase link.host ∨ Ended phase link.host
  sequence : number link.host.session.pending.frame = drawn first count
  nextSequence : link.host.session.nextSequence.toNat = drawn first (count + 1)
  flight : InFlight number number
    (meaning link.host.upgrade (firmwareOf link.device) phase (drawn first count))
    link.toDevice link.toHost
  numbers : ∀ frame, frame ∈ link.toDevice ∨ frame ∈ link.toHost →
    ∃ i ≤ count, number frame = drawn first i

section Steps

variable {started : Upgrade} {first count : Nat} {phase : Phase} {link : State}

theorem HostAt.offset_le {upgrade : Upgrade} (h : HostAt upgrade phase) :
    upgrade.offset.toNat ≤ upgrade.imageSize := by
  cases hearly : phase.early with
  | true =>
    rw [(h.early hearly).2]
    exact Nat.zero_le _
  | false =>
    cases hmoving : phase.moving with
    | true => exact (h.moving hmoving).1.le
    | false => exact (h.sent hearly hmoving).le

theorem Tracks.servable (h : Tracks started first phase count link)
    (hservable : Servable started) : Servable link.host.upgrade :=
  hservable.congr h.same

/-- The next sequence is in no message in flight. -/
theorem Tracks.fresh (h : Tracks started first phase count link) (hservable : Servable started)
    {frame : Frame} (hframe : frame ∈ link.toDevice ∨ frame ∈ link.toHost) :
    number frame ≠ drawn first (count + 1) := by
  obtain ⟨i, hi, hnumber⟩ := h.numbers frame hframe
  have hbudget : phase.budget ≤ 5 := by
    cases phase <;> decide
  have hspent := h.spent
  have hattempts := h.attempts
  have hoffset := h.host.offset_le
  have hsize := (h.servable hservable).size_le
  simp only [Phase.spent] at hspent
  simp only [firmwareMaxSize] at hsize
  rw [hnumber]
  apply SkipZero.iter_ne h.first_pos h.first_lt (Nat.lt_succ_of_le hi)
  omega

/-! ## Losses -/

theorem Tracks.lose (h : Tracks started first phase count link) {requests responses : List Frame}
    (hrequests : requests.Sublist link.toDevice) (hresponses : responses.Sublist link.toHost) :
    Tracks started first phase count
      { link with toDevice := requests, toHost := responses } :=
  { h with
    flight := (h.flight.loseRequests hrequests).loseResponses fun _ hmem => hresponses.subset hmem
    numbers := fun frame hframe =>
      h.numbers frame (hframe.imp (fun hmem => hrequests.subset hmem)
        fun hmem => hresponses.subset hmem) }

/-! ## The host -/

/-- The host keeps its request. -/
theorem Tracks.kept (h : Tracks started first phase count link) {host : Daemon.Context}
    (hkeeps : KeepsHost link.host host) :
    Tracks started first phase count { link with
      host := { host with transportOutput := [], transportOutputOffset := 0 } } := by
  have hupgrade := hkeeps.upgrade
  refine ⟨h.first_pos, h.first_lt, ?_, ?_, ?_, ?_, ?_, h.failVerify, rfl, ?_, ?_, ?_, ?_,
    h.numbers⟩
  · show started.SameImage host.upgrade
    rw [hupgrade]
    exact h.same
  · show host.upgrade.recoveryAttempts.toNat ≤ 3
    rw [hupgrade]
    exact h.attempts
  · show count ≤ phase.spent host.upgrade
    rw [hupgrade]
    exact h.spent
  · show HostAt host.upgrade phase
    rw [hupgrade]
    exact h.host
  · show DeviceAt host.upgrade _ phase
    rw [hupgrade]
    exact h.device
  · refine h.waits.imp (fun hlive => ?_) fun hended => ?_
    · refine ⟨?_, hkeeps.active.trans hlive.active, ⟨?_, ?_⟩, ?_⟩
      · show host.upgrade.state = phase.state
        rw [hupgrade]
        exact hlive.state
      · exact hkeeps.type.trans hlive.copy.1
      · show host.session.pending.frame.payload = phase.payload host.upgrade
        rw [hkeeps.payload, hupgrade]
        exact hlive.copy.2
      · show host.session.state ≠ .handshaking
        rw [hkeeps.state]
        exact hlive.session
    · refine ⟨hkeeps.active.trans hended.free, ?_⟩
      show host.upgrade.state = .complete ∧ _ ∧ host.upgradeResult = _ ∨
        host.upgrade.state = .error ∧ host.upgradeResult = _
      rw [hupgrade, hkeeps.upgradeResult]
      exact hended.result
  · show number host.session.pending.frame = _
    rw [number, hkeeps.sequence]
    exact h.sequence
  · show host.session.nextSequence.toNat = _
    rw [hkeeps.nextSequence]
    exact h.nextSequence
  · show InFlight number number (meaning host.upgrade _ phase _) _ _
    rw [hupgrade]
    exact h.flight

/-- The host transmits a further copy of its request. -/
theorem Tracks.resent (h : Tracks started first phase count link) {host : Daemon.Context}
    (hlive : Live phase link.host) (hkeeps : KeepsHost link.host host) :
    Tracks started first phase count { link with
      host := { host with transportOutput := [], transportOutputOffset := 0 }
      toDevice := link.toDevice ++ [host.session.pending.frame] } := by
  have hkept := h.kept hkeeps
  have hcopy : IsCopy host.upgrade phase host.session.pending.frame := by
    rw [hkeeps.upgrade]
    exact ⟨hkeeps.type.trans hlive.copy.1, hkeeps.payload.trans hlive.copy.2⟩
  refine { hkept with flight := hkept.flight.send hkept.sequence hcopy, numbers := ?_ }
  rintro frame (hframe | hframe)
  · rcases List.mem_append.mp hframe with hold | hnew
    · exact h.numbers frame (.inl hold)
    · rw [List.mem_singleton.mp hnew]
      exact ⟨count, le_rfl, hkept.sequence⟩
  · exact h.numbers frame (.inr hframe)

/-- The host goes on to the request of another phase. -/
theorem Tracks.begun (h : Tracks started first phase count link) (hservable : Servable started)
    (hlive : Live phase link.host) {next : Phase} {built : Frame × Upgrade} {request : Frame}
    {host : Daemon.Context}
    (hgoes : GoesOn link.host.upgrade (firmwareOf link.device) phase next built)
    (hbegins : Begins link.host built request host)
    (hstale : ∀ other ∈ link.toDevice, StaleAt built.2 (firmwareOf link.device) next other) :
    Tracks started first next (count + 1) { link with
      host := { host with transportOutput := [], transportOutputOffset := 0 }
      toDevice := link.toDevice ++ [request] } := by
  have hupgrade : built.2 = host.upgrade := hbegins.upgrade.symm
  have hnumber : number request = drawn first (count + 1) := by
    rw [number, hbegins.sequence]
    exact h.nextSequence
  have hcopy : IsCopy built.2 next request :=
    ⟨hbegins.type.trans hgoes.copy.1, hbegins.payload.trans hgoes.copy.2⟩
  have hpending : ¬ (next = .reboot ∧ (firmwareOf link.device).upgrading = false) := by
    rintro ⟨hphase, hidle⟩
    rw [hgoes.pending hphase] at hidle
    cases hidle
  have hfresh : InFlight number number
      (meaning built.2 (firmwareOf link.device) next (drawn first (count + 1)))
      link.toDevice link.toHost :=
    inFlight_of_fresh (fun _ hmem => h.fresh hservable (.inl hmem))
      (fun _ hmem => h.fresh hservable (.inr hmem)) hstale hpending
  obtain ⟨hsame, hstate, hhost, hdevice, _, _, _, hspent, hattempts⟩ := hgoes
  rw [hupgrade] at hsame hstate hhost hdevice hspent hattempts hcopy hfresh
  refine ⟨h.first_pos, h.first_lt, h.same.trans hsame, hattempts h.attempts,
    h.spent.trans_lt hspent, hhost, hdevice, h.failVerify, rfl,
    .inl ⟨hstate, hbegins.active, ?_, ?_⟩, ?_, ?_, hfresh.send hnumber hcopy, ?_⟩
  · show IsCopy host.upgrade next host.session.pending.frame
    rw [hbegins.frame]
    exact hcopy
  · show host.session.state ≠ .handshaking
    rw [hbegins.state]
    exact hlive.session
  · show number host.session.pending.frame = _
    rw [hbegins.frame]
    exact hnumber
  · show host.session.nextSequence.toNat = _
    rw [hbegins.nextSequence, sequenceAfter_toNat, h.nextSequence]
    rfl
  · rintro frame (hframe | hframe)
    · rcases List.mem_append.mp hframe with hold | hnew
      · obtain ⟨i, hi, hdrawn⟩ := h.numbers frame (.inl hold)
        exact ⟨i, hi.trans (Nat.le_succ _), hdrawn⟩
      · rw [List.mem_singleton.mp hnew]
        exact ⟨count + 1, le_rfl, hnumber⟩
    · obtain ⟨i, hi, hdrawn⟩ := h.numbers frame (.inr hframe)
      exact ⟨i, hi.trans (Nat.le_succ _), hdrawn⟩

/-- Only the state of an upgrade changes at its end. -/
theorem Tracks.ended (h : Tracks started first phase count link) {state : UpgradeState}
    {host : Daemon.Context} (hupgrade : host.upgrade = { link.host.upgrade with state := state })
    (hended : Ended phase host)
    (hframe : host.session.nextSequence = link.host.session.nextSequence ∧
      host.session.pending.frame = link.host.session.pending.frame) :
    Tracks started first phase count { link with
      host := { host with transportOutput := [], transportOutputOffset := 0 } } := by
  refine ⟨h.first_pos, h.first_lt, ?_, ?_, ?_, ?_, ?_, h.failVerify, rfl,
    .inr ⟨hended.free, hended.result⟩, ?_, ?_, ?_, h.numbers⟩
  all_goals dsimp only
  · rw [hupgrade]
    exact h.same.trans (sameImage_withState _ state)
  · rw [hupgrade]
    exact h.attempts
  · rw [hupgrade]
    exact h.spent
  · rw [hupgrade]
    exact h.host.withState state
  · rw [hupgrade]
    exact h.device.withState state
  · rw [hframe.2]
    exact h.sequence
  · rw [hframe.1]
    exact h.nextSequence
  · rw [hupgrade]
    exact h.flight.mono rfl (fun _ hstale => StaleAt.withState hstale state)
      (fun _ hcopy => IsCopy.withState hcopy state)
      (fun _ hright => Right.withState hright state) id

/-- Every move of the host keeps track. -/
theorem Tracks.move (h : Tracks started first phase count link) (hservable : Servable started)
    {link' : State} (hmove : HostMove (firmwareOf link.device) phase link link') :
    ∃ phase' count', Tracks started first phase' count' link' := by
  cases hmove with
  | kept host hkeeps => exact ⟨phase, count, h.kept hkeeps⟩
  | resent host hlive hkeeps => exact ⟨phase, count, h.resent hlive hkeeps⟩
  | begun next built request host hlive hgoes hbegins hstale =>
    exact ⟨next, count + 1, h.begun hservable hlive hgoes hbegins hstale⟩
  | ended state host hupgrade hended hframe =>
    exact ⟨phase, count, h.ended hupgrade hended hframe⟩

/-- The host takes a frame: its handler succeeds, and keeps track. -/
theorem Tracks.deliver (h : Tracks started first phase count link) (hservable : Servable started)
    (now : UInt64) {response : Frame} {rest : List Frame}
    (hresponses : link.toHost = response :: rest) :
    ∃ link' phase' count', step link (.deliverToHost now) = some link' ∧
      Tracks started first phase' count' link' := by
  have hlost : Tracks started first phase count { link with toHost := rest } := by
    refine h.lose (List.Sublist.refl _) ?_
    rw [hresponses]
    exact List.sublist_cons_self response rest
  have hhandled : ∃ after, Daemon.onDeviceFrame (hostEnv now) response link.host =
      (Status.ok.code, after) ∧ HostMove (firmwareOf link.device) phase
        { link with toHost := rest } (State.transmit { link with toHost := rest } after) := by
    rcases hlost.waits with hlive | hended
    · refine deliver_moves now (hlost.servable hservable) hlive hlost.output hlost.host
        hlost.device ?_
      intro hsequence
      have hmem : response ∈ link.toHost := by
        rw [hresponses]
        exact List.mem_cons_self
      have hnumber : number response = drawn first count := by
        rw [number, hsequence]
        exact h.sequence
      exact h.flight.copies_of_answer hmem hnumber
    · exact deliver_ended now hended hlost.output
  obtain ⟨after, hok, hmove⟩ := hhandled
  obtain ⟨phase', count', htracks⟩ := hlost.move hservable hmove
  refine ⟨_, phase', count', ?_, htracks⟩
  unfold step
  rw [hresponses]
  dsimp only
  rw [hok]
  exact proceed_ok after

/-- The timer of the host: its branch of the loop succeeds, and keeps track. -/
theorem Tracks.tick (h : Tracks started first phase count link) (hservable : Servable started)
    (now : UInt64) :
    ∃ link' phase' count', step link (.tick now) = some link' ∧
      Tracks started first phase' count' link' := by
  have hhandled : ∃ after, Daemon.handleTimer (hostEnv now) link.host = (Status.ok.code, after) ∧
      HostMove (firmwareOf link.device) phase link (link.transmit after) := by
    rcases h.waits with hlive | hended
    · refine tick_moves now (h.servable hservable) hlive h.output h.host h.device ?_
      intro other hother
      by_cases hcurrent : number other = drawn first count
      · exact .inl (h.flight.copies other hother hcurrent)
      · exact .inr (h.flight.stale other hother hcurrent)
    · exact tick_ended now hended h.output
  obtain ⟨after, hok, hmove⟩ := hhandled
  obtain ⟨phase', count', htracks⟩ := h.move hservable hmove
  refine ⟨_, phase', count', ?_, htracks⟩
  show link.proceed (Daemon.handleTimer (hostEnv now) link.host) = _
  rw [hok]
  exact proceed_ok after

/-! ## The device -/

/-- What the device is afterwards, and what is in flight. -/
theorem Tracks.served (h : Tracks started first phase count link) (hservable : Servable started)
    (env : Simulator.Env) {memory : Nat → UInt8} (hmalloc : env.malloc = some memory)
    {request : Frame} {rest : List Frame} (hrequests : link.toDevice = request :: rest)
    {device : Simulator.State} (hdevice : firmwareOf device = firmwareOf link.device)
    (responses : List Frame) (hresponses : ∀ response ∈ responses, response ∈ link.toHost ∨
      response = (Simulator.handle env request device).1.frame request) :
    DeviceAt link.host.upgrade (firmwareOf (Simulator.handle env request device).2) phase ∧
      (Simulator.handle env request device).2.failVerify = false ∧
      InFlight number number (meaning link.host.upgrade
        (firmwareOf (Simulator.handle env request device).2) phase (drawn first count))
        rest responses := by
  have hupgrade := h.servable hservable
  have hat := h.device
  have hflight := h.flight
  have hverify : device.failVerify = false :=
    (congrArg Firmware.failVerify hdevice).trans h.failVerify
  rw [hrequests] at hflight
  rw [← hdevice] at hat hflight
  by_cases hcurrent : number request = drawn first count
  · have hserved := serve_copy hupgrade h.host hat hverify
      (hflight.copies request List.mem_cons_self hcurrent) hmalloc
    refine ⟨hserved.deviceAt, hserved.failVerify.trans hverify, ?_⟩
    refine hflight.serveCopy hcurrent rfl (fun _ hcopy => hcopy) hserved.keeps ?_
    intro response hresponse
    refine (hresponses response hresponse).imp id ?_
    rintro rfl
    exact hserved.right
  · have hrunning : phase = .reboot → device.firmwareUpgrading = true := by
      -- A `REBOOT` that was served leaves only copies of it behind.
      intro hphase
      by_contra hidle
      exact hcurrent (hflight.executed ⟨hphase, eq_false_of_ne_true hidle⟩ request
        List.mem_cons_self)
    have hharmless : Harmless link.host.upgrade phase (firmwareOf device)
        (firmwareOf (Simulator.handle env request device).2) :=
      serve_stale hupgrade hat hrunning (hflight.stale request List.mem_cons_self hcurrent)
    refine ⟨hharmless.deviceAt hat, hharmless.failVerify.trans hverify, ?_⟩
    refine hflight.serveStale hcurrent rfl (fun _ _ hstale => hharmless.staleAt hstale)
      (fun _ hcopy => hcopy) ?_ ?_
    · rintro ⟨hphase, hidle⟩
      exact ⟨hphase, hharmless.upgrading.symm.trans hidle⟩
    · intro response hresponse
      refine (hresponses response hresponse).imp id ?_
      rintro rfl
      cases (Simulator.handle env request device).1 <;> rfl

/-- The device serves a request, and the answer may be lost at once. -/
theorem Tracks.serve (h : Tracks started first phase count link) (hservable : Servable started)
    (now : UInt64) (memory : Nat → UInt8) (written : Bool) {request : Frame} {rest : List Frame}
    (hrequests : link.toDevice = request :: rest) :
    Tracks started first phase count
      (State.serve { link with toDevice := rest } now memory written request) := by
  generalize hreceived : ({ link.device with rxFrames := link.device.rxFrames + 1 } :
    Simulator.State) = received
  have hdevice : firmwareOf received = firmwareOf link.device := by
    rw [← hreceived]
    simp only [firmwareOf]
  have hnumber : ∀ frame, frame ∈ rest ∨ frame ∈ link.toHost →
      ∃ i ≤ count, number frame = drawn first i := by
    rintro frame (hframe | hframe)
    · refine h.numbers frame (.inl ?_)
      rw [hrequests]
      exact List.mem_cons_of_mem request hframe
    · exact h.numbers frame (.inr hframe)
  unfold State.serve Simulator.onFrame
  dsimp only
  rw [hreceived]
  have hserved := h.served hservable ⟨now, some memory⟩ rfl hrequests hdevice
  generalize Simulator.handle ⟨now, some memory⟩ request received = handled at hserved ⊢
  split
  · have hmem : ∀ response ∈ link.toHost ++ [handled.1.frame request],
        response ∈ link.toHost ∨ response = handled.1.frame request := by
      intro response hresponse
      exact (List.mem_append.mp hresponse).imp id List.mem_singleton.mp
    obtain ⟨hat, hverify, hflight⟩ := hserved _ hmem
    have hsent : firmwareOf { handled.2 with txFrames := handled.2.txFrames + 1 } =
        firmwareOf handled.2 := by
      simp only [firmwareOf]
    rw [← hsent] at hat hflight
    refine { h with device := hat, failVerify := hverify, flight := hflight, numbers := ?_ }
    rintro frame (hframe | hframe)
    · exact hnumber frame (.inl hframe)
    · rcases hmem frame hframe with hold | rfl
      · exact hnumber frame (.inr hold)
      · have hsame : number (handled.1.frame request) = number request := by
          cases handled.1 <;> rfl
        rw [hsame]
        refine h.numbers request (.inl ?_)
        rw [hrequests]
        exact List.mem_cons_self
  · obtain ⟨hat, hverify, hflight⟩ := hserved link.toHost fun _ hmem => .inl hmem
    exact { h with device := hat, failVerify := hverify, flight := hflight, numbers := hnumber }

/-! ## Runs -/

theorem tracks_step (h : Tracks started first phase count link) (hservable : Servable started)
    {event : Event} {link' : State} (hstep : step link event = some link') :
    ∃ phase' count', Tracks started first phase' count' link' := by
  cases event with
  | deliverToDevice now memory written =>
    unfold step at hstep
    cases hrequests : link.toDevice with
    | nil =>
      rw [hrequests] at hstep
      cases hstep
    | cons request rest =>
      rw [hrequests] at hstep
      obtain rfl := Option.some.inj hstep
      exact ⟨phase, count, h.serve hservable now memory written hrequests⟩
  | deliverToHost now =>
    cases hresponses : link.toHost with
    | nil =>
      unfold step at hstep
      rw [hresponses] at hstep
      cases hstep
    | cons response rest =>
      obtain ⟨after, phase', count', hafter, htracks⟩ := h.deliver hservable now hresponses
      obtain rfl := Option.some.inj (hafter.symm.trans hstep)
      exact ⟨phase', count', htracks⟩
  | loseToDevice index =>
    obtain rfl := Option.some.inj hstep
    exact ⟨phase, count, h.lose (List.eraseIdx_sublist _ _) (List.Sublist.refl _)⟩
  | loseToHost index =>
    obtain rfl := Option.some.inj hstep
    exact ⟨phase, count, h.lose (List.Sublist.refl _) (List.eraseIdx_sublist _ _)⟩
  | tick now =>
    obtain ⟨after, phase', count', hafter, htracks⟩ := h.tick hservable now
    obtain rfl := Option.some.inj (hafter.symm.trans hstep)
    exact ⟨phase', count', htracks⟩

end Steps

/-- An upgrade as `devmgr_upgrade_start` leaves it. -/
structure Fresh (started : Upgrade) : Prop where
  servable : Servable started
  state : started.state = .enterBootloader
  sessionId : started.sessionId = 0
  offset : started.offset = 0
  recoveryAttempts : started.recoveryAttempts = 0

theorem fresh_of_start {capacity : Nat} {imageData : List UInt8} {version : CString capacity}
    {chunkSize : UInt16} {started : Upgrade}
    (h : upgradeStart imageData (crc32 imageData) version chunkSize = .ok started)
    (hsize : imageData.length ≤ firmwareMaxSize) :
    Fresh started ∧ started.imageData = imageData ∧ started.version.bytes = version.bytes := by
  unfold upgradeStart at h
  split_ifs at h with hbounds hversion
  obtain rfl := Except.ok.inj h
  simp only [not_or] at hbounds hversion
  refine ⟨⟨⟨?_, hsize, rfl, hbounds.2.2.1, ?_⟩, rfl, rfl, rfl, rfl⟩, rfl, rfl⟩
  · exact Nat.pos_of_ne_zero hbounds.1
  · exact Nat.pos_of_ne_zero hversion.1

theorem tracks_init {started : Upgrade} {link : State} (hfresh : Fresh started)
    (hinit : (system started).init link) :
    ∃ first phase count, Tracks started first phase count link := by
  obtain ⟨host, device, now, hprepared, hidle, hverify, hproceed⟩ := hinit
  have hbuild : upgradeBuildRequest host.upgrade =
      .ok (upgradeRequest Msg.enterBootloader [] (Nat.zero_le _), started) := by
    unfold upgradeBuildRequest
    rw [hprepared.upgrade, hfresh.state]
  obtain ⟨request, after, hqueue, hbytes, hoffset, hbegins⟩ :=
    queueUpgradeRequest_begins now hbuild hprepared.free hprepared.output
  rw [hqueue, proceed_ok, transmit_frame hbytes hoffset] at hproceed
  obtain rfl := Option.some.inj hproceed
  have hupgrade : after.upgrade = started := hbegins.upgrade
  have hcopy : IsCopy after.upgrade .enterBootloader request := ⟨hbegins.type, hbegins.payload⟩
  have hnumber : number request = drawn host.session.nextSequence.toNat 0 :=
    congrArg UInt32.toNat hbegins.sequence
  have hempty : InFlight number number
      (meaning after.upgrade (firmwareOf device) .enterBootloader
        (drawn host.session.nextSequence.toNat 0)) [] [] :=
    ⟨List.Pairwise.nil, by simp, by simp, by simp, by simp⟩
  have hpos : 0 < host.session.nextSequence.toNat :=
    Nat.pos_of_ne_zero fun hzero => hprepared.sequence (UInt32.toNat_inj.mp hzero)
  refine ⟨host.session.nextSequence.toNat, .enterBootloader, 0, hpos,
    host.session.nextSequence.toNat_lt, ?_, ?_, Nat.zero_le _, ?_, ?_, hverify, rfl,
    .inl ⟨?_, hbegins.active, ?_, ?_⟩, ?_, ?_, hempty.send hnumber hcopy, ?_⟩
  all_goals dsimp only
  · rw [hupgrade]
    exact ⟨rfl, rfl, rfl, rfl⟩
  · rw [hupgrade, hfresh.recoveryAttempts]
    decide
  · rw [hupgrade]
    exact .of_early rfl hfresh.sessionId hfresh.offset
  · refine ⟨fun _ => hidle, ?_, ?_, ?_, ?_, ?_, ?_, ?_, ?_⟩
    all_goals
      intro hphase
      cases hphase
  · rw [hupgrade]
    exact hfresh.state
  · rw [hbegins.frame]
    exact hcopy
  · rw [hbegins.state, hprepared.state]
    decide
  · rw [hbegins.frame]
    exact hnumber
  · rw [hbegins.nextSequence, sequenceAfter_toNat]
    rfl
  · rintro frame (hframe | hframe)
    · rw [List.mem_singleton.mp hframe]
      exact ⟨0, le_rfl, hnumber⟩
    · cases hframe

theorem tracks_reachable {started : Upgrade} {link : State} (hfresh : Fresh started)
    (hreachable : (system started).Reachable link) :
    ∃ first phase count, Tracks started first phase count link := by
  refine System.Reachable.invariant (fun link hinit => tracks_init hfresh hinit) ?_ hreachable
  rintro link event link' ⟨first, phase, count, htracks⟩ hstep
  obtain ⟨phase', count', htracks'⟩ := tracks_step htracks hfresh.servable hstep
  exact ⟨first, phase', count', htracks'⟩

/-! ## Results -/

section Results

variable {started : Upgrade} {first count : Nat} {phase : Phase} {link : State}

/-- Behind its early phases the host has the session of the device, and the device a
part of the image. -/
theorem Tracks.holds (h : Tracks started first phase count link)
    (hsession : link.host.upgrade.sessionId ≠ 0) :
    link.device.firmwareSessionId = link.host.upgrade.sessionId ∧
      Holds started (firmwareOf link.device) := by
  have hearly : phase.early = false := by
    cases hphase : phase.early with
    | true => exact absurd (h.host.early hphase).1 hsession
    | false => rfl
  have hsame : link.host.upgrade.SameImage started :=
    ⟨h.same.imageData.symm, h.same.imageCrc.symm, h.same.version.symm, h.same.chunkSize.symm⟩
  exact ⟨h.device.session hearly, (h.device.holds hearly).congr hsame⟩

theorem Phase.state_injective : Function.Injective Phase.state := by
  intro first second h
  cases first <;> cases second <;> first | rfl | cases h

/-- While the upgrade runs, its state tells the phase. -/
theorem Tracks.phase_eq (h : Tracks started first phase count link) (current : Phase)
    (hstate : link.host.upgrade.state = current.state) : phase = current := by
  rcases h.waits with hlive | hended
  · exact Phase.state_injective (hlive.state.symm.trans hstate)
  · rcases hended.result with ⟨hcomplete, _⟩ | ⟨herror, _⟩
    · rw [hcomplete] at hstate
      cases current <;> cases hstate
    · rw [herror] at hstate
      cases current <;> cases hstate

theorem Tracks.complete (h : Tracks started first phase count link)
    (hstate : link.host.upgrade.state = .complete) :
    phase = .reboot ∧ link.host.upgradeResult = Status.ok.code := by
  rcases h.waits with hlive | hended
  · rw [hlive.state] at hstate
    cases phase <;> cases hstate
  · rcases hended.result with ⟨_, hphase, hresult⟩ | ⟨herror, _⟩
    · exact ⟨hphase, hresult⟩
    · rw [herror] at hstate
      cases hstate

theorem Tracks.error (h : Tracks started first phase count link)
    (hstate : link.host.upgrade.state = .error) :
    link.host.upgradeResult = Status.timeout.code := by
  rcases h.waits with hlive | hended
  · rw [hlive.state] at hstate
    cases phase <;> cases hstate
  · rcases hended.result with ⟨hcomplete, _⟩ | ⟨_, hresult⟩
    · rw [hcomplete] at hstate
      cases hstate
    · exact hresult

/-- Behind the transfer the device has the whole image. -/
theorem Tracks.sent (h : Tracks started first phase count link)
    (hphase : phase.early = false ∧ phase.moving = false) :
    link.device.firmwareOffset.toNat = started.imageSize ∧
      link.device.contents = started.imageData := by
  have hoffset : (firmwareOf link.device).offset.toNat = link.host.upgrade.imageSize := by
    rw [h.device.sent hphase.1 hphase.2]
    exact h.host.sent hphase.1 hphase.2
  refine ⟨hoffset.trans (sameImage_size h.same), ?_⟩
  rw [← h.same.imageData]
  exact (h.device.holds hphase.1).contents_eq hoffset

end Results

/-- **An upgrade over a lossy link.**  The host is the daemon with an upgrade that was
started, the device is the simulator, and any frame may be lost, delayed behind copies of
it, or sent again, with ticks of the timer at any time.  In every state that is reached:

* once the host has a session it is the device's, the flash up to the offset of the
  device is the image up to it, and while the host transfers or recovers that offset is
  the host's own, or the end of the chunk that is under way;
* the upgrade fails by a timeout only, never by an answer;
* from `FW_END` on the device has the whole image;
* a complete upgrade has installed the image and its version;
* neither the timer nor an answer ends the loop of the daemon. -/
theorem upgrade_over_lossy_link {capacity : Nat} {imageData : List UInt8}
    {version : CString capacity} {chunkSize : UInt16} {started : Upgrade} {link : State}
    (hstart : upgradeStart imageData (crc32 imageData) version chunkSize = .ok started)
    (hsize : imageData.length ≤ firmwareMaxSize)
    (hreachable : (system started).Reachable link) :
    (link.host.upgrade.sessionId ≠ 0 →
      link.device.firmwareSessionId = link.host.upgrade.sessionId ∧
      link.device.firmwareOffset.toNat ≤ imageData.length ∧
      link.device.contents.take link.device.firmwareOffset.toNat =
        imageData.take link.device.firmwareOffset.toNat) ∧
    (link.host.upgrade.state = .transfer ∨ link.host.upgrade.state = .recover →
      link.host.upgrade.sessionId ≠ 0 ∧
      (link.device.firmwareOffset = link.host.upgrade.offset ∨
        link.device.firmwareOffset = link.host.upgrade.lastChunkEnd)) ∧
    (link.host.upgrade.state = .error → link.host.upgradeResult = Status.timeout.code) ∧
    (link.host.upgrade.state = .end ∨ link.host.upgrade.state = .verify ∨
        link.host.upgrade.state = .activate ∨ link.host.upgrade.state = .reboot ∨
        link.host.upgrade.state = .complete →
      link.device.firmwareOffset.toNat = imageData.length ∧
      link.device.contents = imageData) ∧
    (link.host.upgrade.state = .complete →
      link.host.upgradeResult = Status.ok.code ∧ link.device.contents = imageData ∧
      link.device.firmwareVersion.bytes = version.bytes) ∧
    ∀ now, (step link (.tick now)).isSome = true ∧
      (link.toHost ≠ [] → (step link (.deliverToHost now)).isSome = true) := by
  obtain ⟨hfresh, himage, hversion⟩ := fresh_of_start hstart hsize
  obtain ⟨first, phase, count, htracks⟩ := tracks_reachable hfresh hreachable
  have hsent : phase.early = false ∧ phase.moving = false →
      link.device.firmwareOffset.toNat = imageData.length ∧ link.device.contents = imageData := by
    rw [← himage]
    exact htracks.sent
  refine ⟨?_, ?_, htracks.error, ?_, ?_, ?_⟩
  · intro hsession
    obtain ⟨hsame, hholds⟩ := htracks.holds hsession
    rw [← himage]
    exact ⟨hsame, hholds.offset_le, hholds.written⟩
  · intro hstate
    have hmoving : phase.moving = true := by
      rcases hstate with hstate | hstate
      · rw [htracks.phase_eq .transfer hstate]
        rfl
      · rw [htracks.phase_eq .recover hstate]
        rfl
    exact ⟨htracks.host.session (Phase.early_of_moving hmoving), htracks.device.moving hmoving⟩
  · intro hstate
    apply hsent
    rcases hstate with hstate | hstate | hstate | hstate | hstate
    · rw [htracks.phase_eq .end hstate]
      exact ⟨rfl, rfl⟩
    · rw [htracks.phase_eq .verify hstate]
      exact ⟨rfl, rfl⟩
    · rw [htracks.phase_eq .activate hstate]
      exact ⟨rfl, rfl⟩
    · rw [htracks.phase_eq .reboot hstate]
      exact ⟨rfl, rfl⟩
    · rw [(htracks.complete hstate).1]
      exact ⟨rfl, rfl⟩
  · intro hstate
    obtain ⟨rfl, hresult⟩ := htracks.complete hstate
    refine ⟨hresult, (hsent ⟨rfl, rfl⟩).2, ?_⟩
    rw [← hversion, ← htracks.same.version]
    exact htracks.device.activated rfl
  · intro now
    constructor
    · obtain ⟨link', _, _, hstep, _⟩ := htracks.tick hfresh.servable now
      rw [hstep]
      rfl
    · intro hresponses
      obtain ⟨response, rest, hcons⟩ := List.exists_cons_of_ne_nil hresponses
      obtain ⟨link', _, _, hstep, _⟩ := htracks.deliver hfresh.servable now hcons
      rw [hstep]
      rfl

/-- An image of one byte. -/
def smallImage : List UInt8 := [0x5A]

def smallVersion : CString 32 := ⟨[0x32], by decide, by simp⟩

def smallUpgrade : Upgrade :=
  { upgradeInit with
    imageData := smallImage
    imageCrc := crc32 smallImage
    version := smallVersion
    chunkSize := 1
    chunkSize_le := by decide
    state := .enterBootloader }

/-- The daemon when the upgrade has been started. -/
def smallHost : Daemon.Context :=
  { Daemon.setupContext with
    session := { sessionInit with state := .upgrading }
    upgrade := smallUpgrade }

/-- The first request is under way. -/
def smallLink : State :=
  State.transmit ⟨smallHost, Simulator.init ⟨-1, false⟩, [], []⟩
    (Daemon.queueUpgradeRequest (hostEnv 0) smallHost).2

/-- One request and its answer. -/
def exchange (now : UInt64) : List Event :=
  [.deliverToDevice now (fun _ => 0xFF) true, .deliverToHost now]

/-- The answer to the `FW_DATA` is lost, four copies of it pile up in front of the
`FW_STATUS` of the recovery, and the upgrade goes on behind them. -/
def smallEvents : List Event :=
  exchange 0 ++ exchange 0 ++
    [.deliverToDevice 0 (fun _ => 0xFF) true, .loseToHost 0, .tick 2000000000, .tick 3000000000,
      .tick 4000000000, .tick 5000000000, .tick 6000000000] ++
    (List.replicate 5 (exchange 6000000000)).flatten ++
    (List.replicate 4 (exchange 6000000000)).flatten

theorem smallLink_init : (system smallUpgrade).init smallLink :=
  ⟨smallHost, Simulator.init ⟨-1, false⟩, 0, ⟨rfl, rfl, rfl, by decide, rfl, rfl⟩, rfl, rfl,
    if_pos (by decide +kernel)⟩

theorem upgrade_over_lossy_link_small :
    ∃ link, (system smallUpgrade).runFrom smallLink smallEvents = some link ∧
      link.host.upgrade.state = .complete ∧ link.device.contents = smallImage ∧
      link.device.firmwareVersion.bytes = smallVersion.bytes := by
  have hrun : (((system smallUpgrade).runFrom smallLink smallEvents).map
      fun link => link.host.upgrade.state) = some .complete := by
    decide +kernel
  obtain ⟨link, hlink, hcomplete⟩ := Option.map_eq_some_iff.mp hrun
  have hreachable : (system smallUpgrade).Reachable link :=
    System.Reachable.runFrom smallLink_init hlink
  have hstart : upgradeStart smallImage (crc32 smallImage) smallVersion 1 = .ok smallUpgrade := rfl
  obtain ⟨_, _, _, _, hinstalled, _⟩ :=
    upgrade_over_lossy_link hstart (by decide) hreachable
  exact ⟨link, hlink, hcomplete, (hinstalled hcomplete).2⟩

end Link
