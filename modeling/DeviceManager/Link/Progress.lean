import DeviceManager.Link.Reactor

/-!
# An upgrade that still can be completed

What becomes of an upgrade once the link loses nothing any more, and when it is too late for that.

* `Tracks.deliveries` is the step lemma: a delivery lowers `weight`, and as long as the current
  request or its answer is under way, so is the next one, up to the end of the upgrade.  Every
  order of deliveries therefore comes to its end in a bounded number of them, and is complete
  then (`deliveries_complete`).
* `Lost.step`: an upgrade whose request is not under way, with neither a retry nor a recovery
  left, stays lost.  Together the two decide from a state whether there is a way to the end
  (`upgrade_completable_iff`).
-/

namespace Link

open Devmgr

/-- A message is delivered, and the answer to it is not lost. -/
def Event.delivers : Event → Bool
  | .deliverToDevice _ _ written => written
  | .deliverToHost _ => true
  | _ => false

/-- The request that the host waits for, or an answer to it, is in flight. -/
def State.underway (link : State) : Prop :=
  ∃ frame, (frame ∈ link.toDevice ∨ frame ∈ link.toHost) ∧
    frame.sequence = link.host.session.pending.frame.sequence

/-- The host waits, and there is something to wait for. -/
def State.expects (link : State) : Prop :=
  link.host.session.pending.active = true ∧ link.underway

/-- All answers are marked as responses. -/
def State.marked (link : State) : Prop :=
  ∀ response ∈ link.toHost, response.flags = Flag.response

/-- How many deliveries there can be: three for every request that the host can still begin, two
for a request in flight and one for an answer. -/
def weight (started : Upgrade) (phase : Phase) (link : State) : Nat :=
  3 * (started.imageSize + 11 - phase.spent link.host.upgrade) + 2 * link.toDevice.length +
    link.toHost.length

section Deliveries

variable {started : Upgrade} {first count : Nat} {phase : Phase} {link link' : State}

/-! ## The messages in flight -/

theorem onFrame_marked (env : Simulator.Env) (request : Frame) (device : Simulator.State) :
    (Simulator.onFrame env request device).1.flags = Flag.response ∧
      (Simulator.onFrame env request device).1.sequence = request.sequence := by
  unfold Simulator.onFrame
  dsimp only
  cases (Simulator.handle env request { device with rxFrames := device.rxFrames + 1 }).1 <;>
    exact ⟨rfl, rfl⟩

theorem step_toDevice {now : UInt64} {memory : Nat → UInt8} {written : Bool}
    (hstep : step link (.deliverToDevice now memory written) = some link') :
    ∃ request rest, link.toDevice = request :: rest ∧
      link' = State.serve { link with toDevice := rest } now memory written request := by
  unfold step at hstep
  cases hrequests : link.toDevice with
  | nil =>
    rw [hrequests] at hstep
    cases hstep
  | cons request rest =>
    rw [hrequests] at hstep
    exact ⟨request, rest, rfl, (Option.some.inj hstep).symm⟩

theorem step_toHost {now : UInt64} (hstep : step link (.deliverToHost now) = some link') :
    ∃ response rest, link.toHost = response :: rest ∧
      State.proceed { link with toHost := rest }
        (Daemon.onDeviceFrame (hostEnv now) response link.host) = some link' := by
  unfold step at hstep
  cases hresponses : link.toHost with
  | nil =>
    rw [hresponses] at hstep
    cases hstep
  | cons response rest =>
    rw [hresponses] at hstep
    exact ⟨response, rest, rfl, hstep⟩

theorem marked_step (h : link.marked) {event : Event} (hstep : step link event = some link') :
    link'.marked := by
  have hproceed : ∀ {toHost : List Frame} {handled : Int × Daemon.Context},
      (∀ response ∈ toHost, response.flags = Flag.response) →
      State.proceed { link with toHost := toHost } handled = some link' → link'.marked := by
    intro toHost handled hmarked hproceed
    unfold State.proceed at hproceed
    split at hproceed
    · obtain rfl := Option.some.inj hproceed
      exact hmarked
    · cases hproceed
  cases event with
  | deliverToDevice now memory written =>
    obtain ⟨request, rest, _, rfl⟩ := step_toDevice hstep
    unfold State.serve
    dsimp only
    split
    · intro response hresponse
      rcases List.mem_append.mp hresponse with hold | hnew
      · exact h response hold
      · rw [List.mem_singleton.mp hnew]
        exact (onFrame_marked _ _ _).1
    · exact h
  | deliverToHost now =>
    obtain ⟨response, rest, hresponses, hhandled⟩ := step_toHost hstep
    refine hproceed (fun other hother => h other ?_) hhandled
    rw [hresponses]
    exact List.mem_cons_of_mem response hother
  | loseToDevice index =>
    obtain rfl := Option.some.inj hstep
    exact h
  | loseToHost index =>
    obtain rfl := Option.some.inj hstep
    exact fun response hresponse => h response ((List.eraseIdx_sublist _ _).subset hresponse)
  | tick now => exact hproceed h hstep

theorem marked_reachable (h : (system started).Reachable link) : link.marked := by
  refine @System.Reachable.invariant _ _ (system started) State.marked ?_
    (fun _ _ _ hmarked hstep => marked_step hmarked hstep) _ h
  rintro link ⟨host, device, now, _, _, _, hproceed⟩
  unfold State.proceed at hproceed
  split at hproceed
  · obtain rfl := Option.some.inj hproceed
    exact fun _ hnone => absurd hnone List.not_mem_nil
  · cases hproceed

theorem Tracks.current (h : Tracks started first phase count link) {frame : Frame}
    (hsequence : frame.sequence = link.host.session.pending.frame.sequence) :
    number frame = drawn first count := by
  rw [number, hsequence]
  exact h.sequence

theorem Tracks.live (h : Tracks started first phase count link)
    (hactive : link.host.session.pending.active = true) : Live phase link.host := by
  rcases h.waits with hlive | hended
  · exact hlive
  · exact absurd (hactive.symm.trans hended.free) (by decide)

theorem Tracks.live_of_running (h : Tracks started first phase count link)
    (hactive : upgradeActive link.host.upgrade = true) : Live phase link.host := by
  rcases h.waits with hlive | hended
  · exact hlive
  · rw [upgradeActive] at hactive
    rcases hended.result with ⟨hstate, _⟩ | ⟨hstate, _⟩
    all_goals
      rw [hstate] at hactive
      cases hactive

theorem Tracks.installed (h : Tracks started first phase count link)
    (hcomplete : link.host.upgrade.state = .complete) :
    link.host.upgradeResult = Status.ok.code ∧ link.device.contents = started.imageData ∧
      link.device.firmwareVersion.bytes = started.version.bytes := by
  obtain ⟨rfl, hresult⟩ := h.complete hcomplete
  refine ⟨hresult, (h.sent ⟨rfl, rfl⟩).2, ?_⟩
  rw [← h.same.version]
  exact h.device.activated rfl

/-- Nothing has to be begun beyond the last request. -/
theorem Tracks.spent_le (h : Tracks started first phase count link) :
    phase.spent link.host.upgrade ≤ started.imageSize + 11 := by
  have hbudget : phase.budget ≤ 5 := by
    cases phase <;> decide
  have hattempts := h.attempts
  have hoffset := h.host.offset_le
  rw [sameImage_size h.same] at hoffset
  simp only [Phase.spent]
  omega

/-- An answer under the current sequence is taken. -/
theorem Tracks.takes (h : Tracks started first phase count link) (hlive : Live phase link.host)
    {response : Frame} (hmem : response ∈ link.toHost) (hmarked : response.flags = Flag.response)
    (hsequence : response.sequence = link.host.session.pending.frame.sequence) :
    link.host.takes response := by
  have hright := (h.flight.copies_of_answer hmem (h.current hsequence)).1
  have htype : response.type = phase.type := hright.type
  refine ⟨fun htelemetry => ?_, ?_⟩
  · rw [htype] at htelemetry
    cases phase <;> exact absurd htelemetry.1 (by decide)
  · rw [sessionAcceptResponse_of_answers]
    refine ⟨hlive.active, hsequence, .inl ⟨htype.trans hlive.copy.1.symm, ?_⟩⟩
    rw [hmarked]
    decide

/-! ## Deliveries -/

/-- The host does not take a response. -/
theorem Tracks.ignore (h : Tracks started first phase count link) (now : UInt64)
    {response : Frame} {rest : List Frame} (hresponses : link.toHost = response :: rest)
    (hignored : ¬ link.host.takes response) :
    ∃ host, step link (.deliverToHost now) = some { link with host := host, toHost := rest } ∧
      Tracks started first phase count { link with host := host, toHost := rest } ∧
      host.upgrade = link.host.upgrade ∧ host.session.pending = link.host.session.pending := by
  obtain ⟨stats, telemetry, received, hquiet⟩ :=
    Daemon.onDeviceFrame_ignored (hostEnv now) hignored
  refine ⟨{ link.host with
    session := { link.host.session with stats := stats }
    latestTelemetry := telemetry
    telemetryFrames := received
    transportOutput := []
    transportOutputOffset := 0 }, ?_, ?_, rfl, rfl⟩
  · unfold step
    rw [hresponses]
    dsimp only
    rw [hquiet, proceed_ok]
    exact congrArg some (transmit_idle h.output)
  · have hlost : Tracks started first phase count { link with toHost := rest } := by
      refine h.lose (List.Sublist.refl _) ?_
      rw [hresponses]
      exact List.sublist_cons_self response rest
    exact hlost.kept (.quiet link.host stats telemetry received)

/-- The host takes the answer to its request: the upgrade is complete, or the host goes on and
its next request is under way. -/
theorem Tracks.advance (h : Tracks started first phase count link) (hservable : Servable started)
    (now : UInt64) {response : Frame} {rest : List Frame}
    (hresponses : link.toHost = response :: rest) (htaken : link.host.takes response) :
    ∃ link' phase' count', step link (.deliverToHost now) = some link' ∧
      Tracks started first phase' count' link' ∧
      weight started phase' link' < weight started phase link ∧
      (link'.host.upgrade.state = .complete ∨ link'.expects) := by
  have hanswers := sessionAcceptResponse_ok htaken.2
  have hlive := h.live hanswers.1
  have hmem : response ∈ link.toHost := by
    rw [hresponses]
    exact List.mem_cons_self
  obtain ⟨hright, hcopies⟩ := h.flight.copies_of_answer hmem (h.current hanswers.2.1)
  have hlost : Tracks started first phase count { link with toHost := rest } := by
    refine h.lose (List.Sublist.refl _) ?_
    rw [hresponses]
    exact List.sublist_cons_self response rest
  have hlength : link.toHost.length = rest.length + 1 := by
    rw [hresponses, List.length_cons]
  have hhandled := Daemon.onDeviceFrame_taken (hostEnv now) htaken
  dsimp only at hhandled
  rw [if_neg hlive.session, if_pos (upgradeActive_of_phase hlive.state), hlive.copy.1] at hhandled
  have hstep : step link (.deliverToHost now) = State.proceed { link with toHost := rest }
      (Daemon.onDeviceFrame (hostEnv now) response link.host) := by
    unfold step
    rw [hresponses]
  rw [hstep, hhandled]
  have haccept := accept_right (h.servable hservable) hlive.state h.host h.device hright
  unfold Daemon.onUpgradeResponse
  dsimp only
  generalize upgradeAcceptResponse link.host.upgrade phase.type response = accepted at haccept ⊢
  cases haccept with
  | complete hphase =>
    obtain ⟨hnext, hpending⟩ :=
      sessionTransition_upgradeDone_frame (link.host.session.completed response)
    obtain ⟨done, hdone⟩ : ∃ done : Daemon.Context, done = Daemon.finishUpgrade { link.host with
      session := link.host.session.completed response
      upgrade := { link.host.upgrade with state := .complete } } Status.ok.code := ⟨_, rfl⟩
    have hupgrade : done.upgrade = { link.host.upgrade with state := .complete } := by
      rw [hdone]
      rfl
    have hended : Ended phase done := by
      refine ⟨?_, .inl ⟨by rw [hupgrade], hphase, by rw [hdone]; rfl⟩⟩
      rw [hdone]
      exact congrArg PendingRequest.active hpending
    have hframe : done.session.nextSequence = link.host.session.nextSequence ∧
        done.session.pending.frame = link.host.session.pending.frame := by
      rw [hdone]
      exact ⟨hnext, Eq.trans (congrArg PendingRequest.frame hpending) rfl⟩
    have houtput : done.transportOutput = [] := by
      rw [hdone]
      exact h.output
    have htracks := hlost.ended hupgrade hended hframe
    rw [if_pos ⟨rfl, rfl⟩, ← hdone, proceed_ok, transmit_idle houtput]
    refine ⟨_, phase, count, rfl, htracks, ?_, .inl (congrArg Upgrade.state hupgrade)⟩
    simp only [weight]
    rw [show phase.spent done.upgrade = phase.spent link.host.upgrade by rw [hupgrade]; rfl]
    omega
  | goesOn upgrade' next built hbuild hgoes =>
    have hactive : upgrade'.state ≠ .complete := by
      intro hcomplete
      have htype := (upgradeBuildRequest_eq_ok hbuild).1
      rw [hcomplete] at htype
      cases htype
    dsimp only
    rw [if_neg (fun hdone => hactive hdone.2), if_neg (not_not.mpr rfl)]
    obtain ⟨asked, hasked⟩ : ∃ asked : Daemon.Context, asked = { link.host with
      session := link.host.session.completed response
      upgrade := upgrade' } := ⟨_, rfl⟩
    have hbuilt : upgradeBuildRequest asked.upgrade = .ok built := by rw [hasked]; exact hbuild
    have hfree : asked.session.pending.active = false := by rw [hasked]; rfl
    have hempty : asked.transportOutput = [] := by rw [hasked]; exact h.output
    obtain ⟨request, after, hqueue, hbytes, hoffset, hbegins⟩ :=
      queueUpgradeRequest_begins now hbuilt hfree hempty
    have hbegins' : Begins link.host built request after := by
      refine ⟨hbegins.upgrade, hbegins.type, hbegins.payload, ?_, ?_, ?_, hbegins.frame,
        hbegins.active⟩
      · rw [hbegins.sequence, hasked]
        rfl
      · rw [hbegins.state, hasked]
        rfl
      · rw [hbegins.nextSequence, hasked]
        rfl
    have htracks := hlost.begun hservable hlive hgoes hbegins'
      fun other hother => hgoes.stale other (hcopies other hother)
    have hspent := htracks.spent_le
    rw [← hasked, hqueue, proceed_ok, transmit_frame hbytes hoffset]
    refine ⟨_, next, count + 1, rfl, htracks, ?_, .inr ⟨hbegins.active, request, .inl ?_, ?_⟩⟩
    · have hmore := hgoes.spent
      simp only [weight, List.length_append, List.length_singleton] at hspent ⊢
      rw [hbegins.upgrade] at hspent ⊢
      omega
    · exact List.mem_append_right _ (List.mem_singleton_self request)
    · show request.sequence = after.session.pending.frame.sequence
      rw [hbegins.frame]

/-- The device serves the next request, and the answer is on its way. -/
theorem Tracks.answer (h : Tracks started first phase count link) (hservable : Servable started)
    (now : UInt64) (memory : Nat → UInt8) {request : Frame} {rest : List Frame}
    (hrequests : link.toDevice = request :: rest) :
    ∃ link', step link (.deliverToDevice now memory true) = some link' ∧
      Tracks started first phase count link' ∧ link'.host = link.host ∧
      weight started phase link' < weight started phase link ∧
      (link.underway → link'.underway) := by
  obtain ⟨answered, hanswered⟩ : ∃ answered, answered =
    Simulator.onFrame ⟨now, some memory⟩ request link.device := ⟨_, rfl⟩
  have hserve : State.serve { link with toDevice := rest } now memory true request =
      { link with
        toDevice := rest
        device := { answered.2 with txFrames := answered.2.txFrames + 1 }
        toHost := link.toHost ++ [answered.1] } := by
    unfold State.serve
    rw [hanswered, if_pos rfl]
  refine ⟨_, ?_, h.serve hservable now memory true hrequests, ?_, ?_, ?_⟩
  · unfold step
    rw [hrequests]
  · rw [hserve]
  · rw [hserve]
    simp only [weight, hrequests, List.length_append, List.length_cons, List.length_nil]
    omega
  · rw [hserve]
    rintro ⟨frame, hframe, hsequence⟩
    rw [hrequests] at hframe
    rcases hframe with hframe | hframe
    · rcases List.mem_cons.mp hframe with rfl | hrest
      · refine ⟨answered.1, .inr (List.mem_append_right _ (List.mem_singleton_self _)), ?_⟩
        rw [hanswered, (onFrame_marked _ _ _).2]
        exact hsequence
      · exact ⟨frame, .inl hrest, hsequence⟩
    · exact ⟨frame, .inr (List.mem_append_left _ hframe), hsequence⟩

/-- One delivery. -/
theorem Tracks.deliveries (h : Tracks started first phase count link)
    (hservable : Servable started) (hmarked : link.marked) {event : Event}
    (hdelivers : event.delivers = true) (hstep : step link event = some link') :
    ∃ phase' count', Tracks started first phase' count' link' ∧
      weight started phase' link' < weight started phase link ∧
      (link.host.upgrade.state = .complete ∨ link.expects →
        link'.host.upgrade.state = .complete ∨ link'.expects) := by
  cases event with
  | deliverToDevice now memory written =>
    obtain rfl : written = true := hdelivers
    obtain ⟨request, rest, hrequests, _⟩ := step_toDevice hstep
    obtain ⟨after, hafter, htracks, hhost, hweight, hunderway⟩ :=
      h.answer hservable now memory hrequests
    obtain rfl := Option.some.inj (hafter.symm.trans hstep)
    refine ⟨phase, count, htracks, hweight, ?_⟩
    rintro (hcomplete | hexpects)
    · exact .inl (hhost ▸ hcomplete)
    · exact .inr ⟨hhost ▸ hexpects.1, hunderway hexpects.2⟩
  | deliverToHost now =>
    obtain ⟨response, rest, hresponses, _⟩ := step_toHost hstep
    by_cases htaken : link.host.takes response
    · obtain ⟨after, phase', count', hafter, htracks, hweight, hgoes⟩ :=
        h.advance hservable now hresponses htaken
      obtain rfl := Option.some.inj (hafter.symm.trans hstep)
      exact ⟨phase', count', htracks, hweight, fun _ => hgoes⟩
    · obtain ⟨host, hafter, htracks, hupgrade, hpending⟩ := h.ignore now hresponses htaken
      obtain rfl := Option.some.inj (hafter.symm.trans hstep)
      refine ⟨phase, count, htracks, ?_, ?_⟩
      · simp only [weight, hupgrade, hresponses, List.length_cons]
        omega
      rintro (hcomplete | ⟨hactive, frame, hframe, hsequence⟩)
      · left
        show host.upgrade.state = .complete
        rw [hupgrade]
        exact hcomplete
      · right
        refine ⟨by rw [hpending]; exact hactive, frame, ?_, by rw [hpending]; exact hsequence⟩
        rcases hframe with hframe | hframe
        · exact .inl hframe
        · have hmem := hframe
          rw [hresponses] at hmem
          rcases List.mem_cons.mp hmem with rfl | hrest
          · -- An answer to the request would have been taken.
            exact absurd (h.takes (h.live hactive) hframe (hmarked frame hframe) hsequence) htaken
          · exact .inr hrest
  | loseToDevice index => cases hdelivers
  | loseToHost index => cases hdelivers
  | tick now => cases hdelivers

theorem Tracks.delivered (h : Tracks started first phase count link)
    (hservable : Servable started) (hmarked : link.marked) {events : List Event}
    (hdelivers : ∀ event ∈ events, event.delivers = true)
    (hrun : (system started).runFrom link events = some link') :
    ∃ phase' count', Tracks started first phase' count' link' ∧
      events.length + weight started phase' link' ≤ weight started phase link ∧
      (link.host.upgrade.state = .complete ∨ link.expects →
        link'.host.upgrade.state = .complete ∨ link'.expects) := by
  induction events generalizing link phase count with
  | nil =>
    obtain rfl : link = link' := by simpa using hrun
    exact ⟨phase, count, h, by simp, id⟩
  | cons event events ih =>
    rw [System.runFrom_cons, Option.bind_eq_some_iff] at hrun
    obtain ⟨next, hstep, hrest⟩ := hrun
    obtain ⟨phase', count', htracks, hweight, hgoes⟩ :=
      h.deliveries hservable hmarked (hdelivers event List.mem_cons_self) hstep
    obtain ⟨phase'', count'', htracks', hbound, hgoes'⟩ := ih htracks (marked_step hmarked hstep)
      (fun other hother => hdelivers other (List.mem_cons_of_mem event hother)) hrest
    refine ⟨phase'', count'', htracks', ?_, hgoes' ∘ hgoes⟩
    rw [List.length_cons]
    omega

end Deliveries

/-- Every order of deliveries completes the upgrade.  The request that the host waits for, or its
answer, is under way, and from now on nothing is lost.  Then there are not more than so many
deliveries, where a request in flight counts twice, for itself and for its answer; as long as a
message is in flight the next delivery succeeds; and when none is left, the upgrade is complete,
with the image and its version installed. -/
theorem deliveries_complete {capacity : Nat} {imageData : List UInt8} {version : CString capacity}
    {chunkSize : UInt16} {started : Upgrade} {link link' : State} {events : List Event}
    (hstart : upgradeStart imageData (crc32 imageData) version chunkSize = .ok started)
    (hsize : imageData.length ≤ firmwareMaxSize) (hreachable : (system started).Reachable link)
    (hactive : upgradeActive link.host.upgrade = true) (hunderway : link.underway)
    (hdelivers : ∀ event ∈ events, event.delivers = true)
    (hrun : (system started).runFrom link events = some link') :
    events.length ≤
        3 * (imageData.length + 11) + 2 * link.toDevice.length + link.toHost.length ∧
      (∀ now memory, (link'.toDevice ≠ [] →
          (step link' (.deliverToDevice now memory true)).isSome = true) ∧
        (link'.toHost ≠ [] → (step link' (.deliverToHost now)).isSome = true)) ∧
      (link'.toDevice = [] → link'.toHost = [] →
        link'.host.upgrade.state = .complete ∧ link'.host.upgradeResult = Status.ok.code ∧
        link'.device.contents = imageData ∧
        link'.device.firmwareVersion.bytes = version.bytes) := by
  obtain ⟨hfresh, himage, hversion⟩ := fresh_of_start hstart hsize
  obtain ⟨first, phase, count, htracks⟩ := tracks_reachable hfresh hreachable
  have hexpects : link.expects := ⟨(htracks.live_of_running hactive).active, hunderway⟩
  obtain ⟨phase', count', htracks', hbound, hgoes⟩ :=
    htracks.delivered hfresh.servable (marked_reachable hreachable) hdelivers hrun
  refine ⟨?_, fun now memory => ⟨fun hrequests => ?_, fun hresponses => ?_⟩, fun hnone hnone' => ?_⟩
  · have hspent : weight started phase link ≤
        3 * (imageData.length + 11) + 2 * link.toDevice.length + link.toHost.length := by
      simp only [weight, Upgrade.imageSize, himage]
      omega
    omega
  · obtain ⟨request, rest, hcons⟩ := List.exists_cons_of_ne_nil hrequests
    obtain ⟨after, hstep, _⟩ := htracks'.answer hfresh.servable now memory hcons
    rw [hstep]
    rfl
  · obtain ⟨response, rest, hcons⟩ := List.exists_cons_of_ne_nil hresponses
    obtain ⟨after, _, _, hstep, _⟩ := htracks'.deliver hfresh.servable now hcons
    rw [hstep]
    rfl
  · rcases hgoes (.inr hexpects) with hcomplete | ⟨_, frame, hframe, _⟩
    · exact ⟨hcomplete, himage ▸ hversion ▸ htracks'.installed hcomplete⟩
    · rw [hnone, hnone'] at hframe
      exact absurd hframe (by simp)

theorem smallLink_underway : smallLink.underway := by
  have hsequences : smallLink.toDevice.map Frame.sequence =
      [smallLink.host.session.pending.frame.sequence] := by
    decide +kernel
  have hmem : smallLink.host.session.pending.frame.sequence ∈
      smallLink.toDevice.map Frame.sequence := by
    rw [hsequences]
    exact List.mem_singleton_self _
  obtain ⟨frame, hframe, hsequence⟩ := List.mem_map.mp hmem
  exact ⟨frame, .inl hframe, hsequence⟩

/-- Seven requests and their answers, one after the other. -/
theorem deliveries_complete_small :
    ∃ link, (system smallUpgrade).runFrom smallLink (List.replicate 7 (exchange 0)).flatten =
        some link ∧
      link.host.upgrade.state = .complete ∧ link.device.contents = smallImage := by
  have hrun : ((system smallUpgrade).runFrom smallLink
      (List.replicate 7 (exchange 0)).flatten).map (fun link => (link.toDevice, link.toHost)) =
        some ([], []) := by
    decide +kernel
  obtain ⟨link, hlink, hflight⟩ := Option.map_eq_some_iff.mp hrun
  obtain ⟨hrequests, hresponses⟩ := Prod.mk.inj hflight
  have hdelivers : ∀ event ∈ (List.replicate 7 (exchange 0)).flatten, event.delivers = true := by
    intro event hevent
    obtain ⟨events, hevents, hmem⟩ := List.mem_flatten.mp hevent
    rw [List.eq_of_mem_replicate hevents, exchange] at hmem
    rcases List.mem_cons.mp hmem with rfl | hmem
    · rfl
    · rw [List.mem_singleton.mp hmem]
      rfl
  have hstart : upgradeStart smallImage (crc32 smallImage) smallVersion 1 = .ok smallUpgrade := rfl
  obtain ⟨_, _, hended⟩ := deliveries_complete hstart (by decide) (.init smallLink_init)
    (by decide +kernel) smallLink_underway hdelivers hlink
  obtain ⟨hcomplete, _, hcontents, _⟩ := hended hrequests hresponses
  exact ⟨link, hlink, hcomplete, hcontents⟩

/-! ## Upgrades that are lost -/

/-- Nothing is lost in an event. -/
def Event.lossless : Event → Bool
  | .deliverToDevice _ _ written => written
  | .deliverToHost _ => true
  | .tick _ => true
  | _ => false

/-- The upgrade runs, and its request is under way, or can be sent again, or the transfer can
be recovered. -/
def State.hopeful (link : State) : Prop :=
  upgradeActive link.host.upgrade = true ∧
    (link.underway ∨
      link.host.session.pending.retriesDone < link.host.session.pending.policy.maxRetries ∨
      (link.host.upgrade.state = .transfer ∨ link.host.upgrade.state = .recover) ∧
        link.host.upgrade.recoveryAttempts < 3)

/-- Neither complete nor hopeful. -/
structure Lost (link : State) : Prop where
  incomplete : link.host.upgrade.state ≠ .complete
  hopeless : ¬ link.hopeful

section Lost

variable {started : Upgrade} {first count : Nat} {phase : Phase} {link link' : State}

/-- The upgrade and its request stay, and nothing comes into flight for it. -/
theorem Lost.keep (h : Lost link) (hupgrade : link'.host.upgrade = link.host.upgrade)
    (hpending : link'.host.session.pending = link.host.session.pending)
    (hflight : upgradeActive link.host.upgrade = true → link'.underway → link.underway) :
    Lost link' := by
  refine ⟨by rw [hupgrade]; exact h.incomplete, ?_⟩
  rintro ⟨hactive, hways⟩
  rw [hupgrade] at hactive hways
  rw [hpending] at hways
  exact h.hopeless ⟨hactive, hways.imp_left (hflight hactive)⟩

/-- The tick of an upgrade without a way out. -/
theorem Lost.tick (h : Lost link) (htracks : Tracks started first phase count link) (now : UInt64)
    (hstep : step link (.tick now) = some link') : Lost link' := by
  have hproceed : link.proceed (Daemon.handleTimer (hostEnv now) link.host) = some link' := hstep
  by_cases hwaits : waiting link.host.session (hostEnv now).now
  · rw [handleTimer_waiting hwaits, proceed_ok, transmit_idle htracks.output] at hproceed
    obtain rfl := Option.some.inj hproceed
    exact h.keep rfl rfl fun _ hunderway => hunderway
  have hpending : link.host.session.pending.active = true := by
    by_contra hfree
    exact hwaits (.inl hfree)
  have hlive := htracks.live hpending
  have hactive := upgradeActive_of_phase hlive.state
  have hspent : link.host.session.pending.retriesDone ≥
      link.host.session.pending.policy.maxRetries := by
    by_contra hleft
    exact h.hopeless ⟨hactive, .inr (.inl (UInt8.not_le.mp hleft))⟩
  have hrecovery : (upgradeBeginRecovery link.host.upgrade).1 ≠ .ok := by
    unfold upgradeBeginRecovery
    split
    · exact show Status.state ≠ .ok by decide
    split
    · exact show Status.timeout ≠ .ok by decide
    · rename_i hresumable hattempts
      rw [not_or, not_and_or, not_not, not_not] at hresumable
      exact absurd ⟨hactive, .inr (.inr ⟨hresumable.2, UInt8.not_le.mp hattempts⟩)⟩ h.hopeless
  rw [handleTimer_expired hwaits hspent] at hproceed
  have hfailed : ∀ context : Daemon.Context, context.upgrade = link.host.upgrade →
      (Daemon.handleTimeout (hostEnv now) context).2.upgrade.state = .error := by
    intro context hsame
    have hcode : (Daemon.tryRecovery (hostEnv now) context).1 ≠ Status.ok.code := by
      unfold Daemon.tryRecovery
      dsimp only
      rw [hsame, if_neg hrecovery]
      exact mt Status.code_eq_ok.mp hrecovery
    unfold Daemon.handleTimeout
    rw [hsame, if_pos hactive]
    dsimp only
    rw [if_neg hcode]
  have herror := hfailed (link.host.expired
    { link.host.session.stats with timeouts := link.host.session.stats.timeouts + 1 }) rfl
  unfold State.proceed at hproceed
  split at hproceed
  · obtain rfl := Option.some.inj hproceed
    refine ⟨?_, ?_⟩
    · show (Daemon.handleTimeout _ _).2.upgrade.state ≠ .complete
      rw [herror]
      decide
    · rintro ⟨hrunning, _⟩
      have hended : upgradeActive (Daemon.handleTimeout _ _).2.upgrade = true := hrunning
      rw [upgradeActive, herror] at hended
      cases hended
  · cases hproceed

/-- An upgrade that is lost stays so. -/
theorem Lost.step (h : Lost link) (htracks : Tracks started first phase count link)
    {event : Event} (hstep : Link.step link event = some link') : Lost link' := by
  have hunderway : upgradeActive link.host.upgrade = true → ¬ link.underway :=
    fun hactive hunderway => h.hopeless ⟨hactive, .inl hunderway⟩
  cases event with
  | deliverToDevice now memory written =>
    obtain ⟨request, rest, hrequests, rfl⟩ := step_toDevice hstep
    have hmem : ∀ frame ∈ rest, frame ∈ link.toDevice := by
      intro frame hframe
      rw [hrequests]
      exact List.mem_cons_of_mem request hframe
    unfold State.serve
    dsimp only
    split
    · refine h.keep rfl rfl fun _ => ?_
      rintro ⟨frame, hframe | hframe, hsequence⟩
      · exact ⟨frame, .inl (hmem frame hframe), hsequence⟩
      · rcases List.mem_append.mp hframe with hold | hnew
        · exact ⟨frame, .inr hold, hsequence⟩
        · refine ⟨request, .inl (by rw [hrequests]; exact List.mem_cons_self), ?_⟩
          rw [List.mem_singleton.mp hnew, (onFrame_marked _ _ _).2] at hsequence
          exact hsequence
    · refine h.keep rfl rfl fun _ => ?_
      rintro ⟨frame, hframe, hsequence⟩
      exact ⟨frame, hframe.imp_left (hmem frame), hsequence⟩
  | deliverToHost now =>
    obtain ⟨response, rest, hresponses, _⟩ := step_toHost hstep
    have hmem : ∀ frame, frame = response ∨ frame ∈ rest → frame ∈ link.toHost := by
      intro frame hframe
      rw [hresponses]
      exact List.mem_cons.mpr hframe
    have hignored : ¬ link.host.takes response := by
      intro htaken
      have hanswers := sessionAcceptResponse_ok htaken.2
      have hlive := htracks.live hanswers.1
      exact hunderway (upgradeActive_of_phase hlive.state)
        ⟨response, .inr (hmem response (.inl rfl)), hanswers.2.1⟩
    obtain ⟨host, hafter, _, hupgrade, hpending⟩ := htracks.ignore now hresponses hignored
    obtain rfl := Option.some.inj (hafter.symm.trans hstep)
    refine h.keep hupgrade hpending fun _ => ?_
    rintro ⟨frame, hframe, hsequence⟩
    rw [hpending] at hsequence
    exact ⟨frame, hframe.imp_right fun hrest => hmem frame (.inr hrest), hsequence⟩
  | loseToDevice index =>
    obtain rfl := Option.some.inj hstep
    refine h.keep rfl rfl fun _ => ?_
    rintro ⟨frame, hframe, hsequence⟩
    exact ⟨frame, hframe.imp_left fun hrest => (List.eraseIdx_sublist _ _).subset hrest, hsequence⟩
  | loseToHost index =>
    obtain rfl := Option.some.inj hstep
    refine h.keep rfl rfl fun _ => ?_
    rintro ⟨frame, hframe, hsequence⟩
    exact ⟨frame, hframe.imp_right fun hrest => (List.eraseIdx_sublist _ _).subset hrest,
      hsequence⟩
  | tick now => exact h.tick htracks now hstep

theorem Lost.run (h : Lost link) (hservable : Servable started)
    (htracks : Tracks started first phase count link) {events : List Event}
    (hrun : (system started).runFrom link events = some link') : Lost link' := by
  induction events generalizing link phase count with
  | nil =>
    obtain rfl : link = link' := by simpa using hrun
    exact h
  | cons event events ih =>
    rw [System.runFrom_cons, Option.bind_eq_some_iff] at hrun
    obtain ⟨next, hstep, hrest⟩ := hrun
    obtain ⟨phase', count', htracks'⟩ := tracks_step htracks hservable hstep
    exact ih (h.step htracks hstep) htracks' hrest

/-! ## The way to the end -/

/-- A tick of a hopeful upgrade whose request is not under way: it is sent again, or the host
asks for the offset of the device. -/
theorem Tracks.revive (h : Tracks started first phase count link) (hservable : Servable started)
    (hhopeful : link.hopeful) :
    link.expects ∨ ∃ now link' phase' count', step link (.tick now) = some link' ∧
      Tracks started first phase' count' link' ∧ link'.expects := by
  obtain ⟨hactive, hways⟩ := hhopeful
  have hlive := h.live_of_running hactive
  rcases hways with hunderway | hways
  · exact .inl ⟨hlive.active, hunderway⟩
  right
  obtain ⟨now, hnow⟩ : ∃ now, now = link.host.session.pending.deadlineNs := ⟨_, rfl⟩
  have hdue : ¬ waiting link.host.session (hostEnv now).now := by
    rw [waiting, not_or, not_not]
    refine ⟨hlive.active, ?_⟩
    rw [hnow]
    exact UInt64.lt_irrefl _
  refine ⟨now, ?_⟩
  have hstep : step link (.tick now) =
    link.proceed (Daemon.handleTimer (hostEnv now) link.host) := rfl
  by_cases hretries : link.host.session.pending.retriesDone ≥
      link.host.session.pending.policy.maxRetries
  · -- No retry is left, so the transfer is recovered.
    obtain ⟨hstate, hattempts⟩ :=
      hways.resolve_left (fun hleft => absurd hretries (UInt8.not_le.mpr hleft))
    have hmoving : phase.moving = true := by
      rcases hstate with hstate | hstate
      · rw [h.phase_eq .transfer hstate]
        rfl
      · rw [h.phase_eq .recover hstate]
        rfl
    have hrecovery : (upgradeBeginRecovery link.host.upgrade).1 = .ok := by
      have hsession := h.host.session (Phase.early_of_moving hmoving)
      unfold upgradeBeginRecovery
      rw [if_neg, if_neg (UInt8.not_le.mpr hattempts)]
      rintro (hzero | ⟨htransfer, hrecover⟩)
      · exact hsession hzero
      · exact hstate.elim htransfer hrecover
    have hcase := recovery_cases (h.servable hservable) hlive.state h.host h.device
    obtain ⟨expired, hexpired⟩ : ∃ expired, expired = link.host.expired
      { link.host.session.stats with timeouts := link.host.session.stats.timeouts + 1 } := ⟨_, rfl⟩
    have hupgrade : expired.upgrade = link.host.upgrade := by rw [hexpired]; rfl
    rw [hstep, handleTimer_expired hdue hretries, ← hexpired]
    unfold Daemon.handleTimeout
    rw [hupgrade, if_pos hactive]
    unfold Daemon.tryRecovery
    rw [hupgrade]
    generalize upgradeBeginRecovery link.host.upgrade = recovery at hcase hrecovery ⊢
    cases hcase with
    | goesOn upgrade' built hbuild hgoes hstale =>
      obtain ⟨asked, hasked⟩ : ∃ asked : Daemon.Context,
        asked = { expired with upgrade := upgrade' } := ⟨_, rfl⟩
      have hbuilt : upgradeBuildRequest asked.upgrade = .ok built := by rw [hasked]; exact hbuild
      have hfree : asked.session.pending.active = false := by rw [hasked, hexpired]; rfl
      have hempty : asked.transportOutput = [] := by rw [hasked, hexpired]; exact h.output
      obtain ⟨request, after, hqueue, hbytes, hoffset, hbegins⟩ :=
        queueUpgradeRequest_begins now hbuilt hfree hempty
      have hbegins' : Begins link.host built request after := by
        refine ⟨hbegins.upgrade, hbegins.type, hbegins.payload, ?_, ?_, ?_, hbegins.frame,
          hbegins.active⟩
        · rw [hbegins.sequence, hasked, hexpired]
          rfl
        · rw [hbegins.state, hasked, hexpired]
          rfl
        · rw [hbegins.nextSequence, hasked, hexpired]
          rfl
      have hflight : ∀ other ∈ link.toDevice,
          StaleAt built.2 (firmwareOf link.device) .recover other := by
        intro other hother
        by_cases hcurrent : number other = drawn first count
        · exact hgoes.stale other (h.flight.copies other hother hcurrent)
        · exact hstale other (h.flight.stale other hother hcurrent)
      dsimp only
      rw [if_pos rfl, ← hasked, hqueue, if_pos rfl, proceed_ok, transmit_frame hbytes hoffset]
      refine ⟨_, .recover, count + 1, rfl, h.begun hservable hlive hgoes hbegins' hflight,
        hbegins.active, request, .inl ?_, ?_⟩
      · exact List.mem_append_right _ (List.mem_singleton_self request)
      · show request.sequence = after.session.pending.frame.sequence
        rw [hbegins.frame]
    | failed status state hstatus => exact absurd hrecovery hstatus
  · rw [hstep, handleTimer_resent hdue hretries, queueFrame_ok now _ h.output]
    dsimp only
    rw [if_pos rfl, proceed_ok, transmit_frame rfl rfl]
    refine ⟨_, phase, count, rfl, ?_, hlive.active, link.host.session.pending.frame.retried,
      .inl ?_, rfl⟩
    · exact h.resent hlive ⟨rfl, rfl, rfl, rfl, rfl, rfl, rfl, rfl⟩
    · exact List.mem_append_right _ (List.mem_singleton_self _)

/-- The deliveries that are left. -/
theorem Tracks.finish (h : Tracks started first phase count link) (hservable : Servable started)
    (hmarked : link.marked) (hexpects : link.expects) :
    ∃ events link', (∀ event ∈ events, event.lossless = true) ∧
      (system started).runFrom link events = some link' ∧
      link'.host.upgrade.state = .complete := by
  refine @System.runFrom_of_rank _ _ (system started)
    (fun rank link => link.marked ∧
      (link.host.upgrade.state = .complete ∨ link.expects) ∧ ∃ phase count,
        Tracks started first phase count link ∧ weight started phase link = rank)
    _ _ ?_ _ link ⟨hmarked, .inr hexpects, phase, count, h, rfl⟩
  rintro rank link ⟨hmarked, hgoes, phase, count, htracks, rfl⟩
  rcases hgoes with hcomplete | ⟨hactive, frame, hframe, hsequence⟩
  · exact .inl hcomplete
  right
  have hdeliver : ∀ event after, event.delivers = true → event.lossless = true →
      step link event = some after → ∃ e s' rank', Event.lossless e = true ∧
        (system started).step link e = some s' ∧ rank' < weight started phase link ∧
        s'.marked ∧ (s'.host.upgrade.state = .complete ∨ s'.expects) ∧ ∃ phase count,
          Tracks started first phase count s' ∧ weight started phase s' = rank' := by
    intro event after hdelivers hlossless hstep
    obtain ⟨phase', count', htracks', hweight, hnext⟩ :=
      htracks.deliveries hservable hmarked hdelivers hstep
    exact ⟨event, after, weight started phase' after, hlossless, hstep, hweight,
      marked_step hmarked hstep, hnext (.inr ⟨hactive, frame, hframe, hsequence⟩), phase', count',
      htracks', rfl⟩
  rcases hframe with hframe | hframe
  · obtain ⟨request, rest, hcons⟩ := List.exists_cons_of_ne_nil (List.ne_nil_of_mem hframe)
    obtain ⟨after, hstep, _⟩ := htracks.answer hservable 0 (fun _ => 0) hcons
    exact hdeliver _ after rfl rfl hstep
  · obtain ⟨response, rest, hcons⟩ := List.exists_cons_of_ne_nil (List.ne_nil_of_mem hframe)
    obtain ⟨after, _, _, hstep, _⟩ := htracks.deliver hservable 0 hcons
    exact hdeliver _ after rfl rfl hstep

theorem Tracks.completes (h : Tracks started first phase count link)
    (hservable : Servable started) (hmarked : link.marked)
    (hways : link.host.upgrade.state = .complete ∨ link.hopeful) :
    ∃ events link', (∀ event ∈ events, event.lossless = true) ∧
      (system started).runFrom link events = some link' ∧
      link'.host.upgrade.state = .complete := by
  rcases hways with hcomplete | hhopeful
  · exact ⟨[], link, by simp, rfl, hcomplete⟩
  rcases h.revive hservable hhopeful with hexpects | ⟨now, after, phase', count', hstep, htracks,
    hexpects⟩
  · exact h.finish hservable hmarked hexpects
  · obtain ⟨events, link', hlossless, hrun, hcomplete⟩ :=
      htracks.finish hservable (marked_step hmarked hstep) hexpects
    refine ⟨.tick now :: events, link', List.forall_mem_cons.mpr ⟨rfl, hlossless⟩, ?_, hcomplete⟩
    rw [System.runFrom_cons, show (system started).step link (.tick now) = _ from hstep]
    exact hrun

end Lost

/-- Whether an upgrade can still be completed shows in its state: it is complete, or it runs and
its request is under way, or there is a retry left, or the transfer can be recovered.  If so,
there is a way without any further loss; if not, there is none at all. -/
theorem upgrade_completable_iff {capacity : Nat} {imageData : List UInt8}
    {version : CString capacity} {chunkSize : UInt16} {started : Upgrade} {link : State}
    (hstart : upgradeStart imageData (crc32 imageData) version chunkSize = .ok started)
    (hsize : imageData.length ≤ firmwareMaxSize)
    (hreachable : (system started).Reachable link) :
    ((∃ events link', (system started).runFrom link events = some link' ∧
        link'.host.upgrade.state = .complete) ↔
      link.host.upgrade.state = .complete ∨ link.hopeful) ∧
    (link.host.upgrade.state = .complete ∨ link.hopeful →
      ∃ events link', (∀ event ∈ events, event.lossless = true) ∧
        (system started).runFrom link events = some link' ∧
        link'.host.upgrade.state = .complete ∧ link'.device.contents = imageData ∧
        link'.device.firmwareVersion.bytes = version.bytes) := by
  obtain ⟨hfresh, himage, hversion⟩ := fresh_of_start hstart hsize
  obtain ⟨first, phase, count, htracks⟩ := tracks_reachable hfresh hreachable
  have hmarked := marked_reachable hreachable
  constructor
  · constructor
    · rintro ⟨events, link', hrun, hcomplete⟩
      by_contra hnever
      rw [not_or] at hnever
      have hlost : Lost link := ⟨hnever.1, hnever.2⟩
      exact (hlost.run hfresh.servable htracks hrun).incomplete hcomplete
    · intro hways
      obtain ⟨events, link', _, hrun, hcomplete⟩ :=
        htracks.completes hfresh.servable hmarked hways
      exact ⟨events, link', hrun, hcomplete⟩
  · intro hways
    obtain ⟨events, link', hlossless, hrun, hcomplete⟩ :=
      htracks.completes hfresh.servable hmarked hways
    have hreached : (system started).Reachable link' :=
      System.ReachableBy.runFrom hreachable (fun _ _ _ => trivial) hrun
    obtain ⟨first', phase', count', htracks'⟩ := tracks_reachable hfresh hreached
    obtain ⟨_, hinstalled⟩ := htracks'.installed hcomplete
    rw [himage, hversion] at hinstalled
    exact ⟨events, link', hlossless, hrun, hcomplete, hinstalled⟩

/-- All copies of the first request are lost. -/
def lossEvents : List Event :=
  [.loseToDevice 0, .tick 2000000000, .loseToDevice 0, .tick 3000000000, .loseToDevice 0,
    .tick 4000000000, .loseToDevice 0, .tick 5000000000, .loseToDevice 0]

/-- From the first request there is a way to the end; when all its copies are lost, there is
none. -/
theorem upgrade_completable_iff_small :
    (∃ events link, (system smallUpgrade).runFrom smallLink events = some link ∧
      link.host.upgrade.state = .complete) ∧
    ∃ lost, (system smallUpgrade).runFrom smallLink lossEvents = some lost ∧
      ¬ ∃ events link, (system smallUpgrade).runFrom lost events = some link ∧
        link.host.upgrade.state = .complete := by
  have hstart : upgradeStart smallImage (crc32 smallImage) smallVersion 1 = .ok smallUpgrade := rfl
  have hfirst : (system smallUpgrade).Reachable smallLink := .init smallLink_init
  have hhopeful : smallLink.hopeful := ⟨by decide +kernel, .inl smallLink_underway⟩
  have hrun : ((system smallUpgrade).runFrom smallLink lossEvents).map (fun link =>
      (link.toDevice, link.toHost, link.host.upgrade.state,
        decide (link.host.session.pending.retriesDone <
          link.host.session.pending.policy.maxRetries))) =
        some ([], [], .enterBootloader, false) := by
    decide +kernel
  obtain ⟨lost, hlost, hstate⟩ := Option.map_eq_some_iff.mp hrun
  obtain ⟨hrequests, hrest⟩ := Prod.mk.inj hstate
  obtain ⟨hresponses, hrest⟩ := Prod.mk.inj hrest
  obtain ⟨hphase, hretries⟩ := Prod.mk.inj hrest
  have hreached : (system smallUpgrade).Reachable lost :=
    System.ReachableBy.runFrom hfirst (fun _ _ _ => trivial) hlost
  refine ⟨(upgrade_completable_iff hstart (by decide) hfirst).1.mpr (.inr hhopeful), lost, hlost,
    fun hway => ?_⟩
  rcases (upgrade_completable_iff hstart (by decide) hreached).1.mp hway with hcomplete | hhopeful
  · rw [hphase] at hcomplete
    cases hcomplete
  · rcases hhopeful.2 with ⟨frame, hframe, _⟩ | hleft | ⟨hmoving, _⟩
    · rw [hrequests, hresponses] at hframe
      exact absurd hframe (by simp)
    · exact absurd hleft (of_decide_eq_false hretries)
    · rw [hphase] at hmoving
      exact absurd hmoving (by decide)

end Link
