import DeviceManager.Device.Renumber
import DeviceManager.Daemon.Output

/-!
# An operation in two daemons

The upgrade of one daemon next to the upgrade of another, which had other requests before it.

* `Context.Copies`: the two have the same record and result, their sessions mirror each other
  (`Session.Mirrors`), and as many bytes are still to be written to the device.  Whatever the
  handlers do for an active upgrade, they do in both: they return the same codes and keep the
  relation.
* `Context.Mirrors`: the phases of an operation.  While the image is validated, the records may
  differ in what an earlier operation has left behind; a running upgrade is a copy; and when it is
  over, only what a status shows is the same.

`Context.Mirrors.frame`, `.timer`, `.flush` and `.validated` take the two daemons through the same
event.
-/

namespace Daemon

open Devmgr

/-! ## What is still to be written -/

/-- As many bytes are still to be written. -/
def Context.SameUnsent (context image : Context) : Prop :=
  image.unwritten.length = context.unwritten.length

theorem unsent_iff (context : Context) :
    context.transportOutputOffset < context.transportOutput.length ↔
      0 < context.unwritten.length := by
  rw [Context.unwritten, List.length_drop]
  omega

section Unsent

variable {context image : Context} (h : context.SameUnsent image)

include h

theorem Context.SameUnsent.iff :
    image.transportOutputOffset < image.transportOutput.length ↔
      context.transportOutputOffset < context.transportOutput.length := by
  rw [unsent_iff, unsent_iff, h]

/-- The length of a frame does not depend on its number. -/
theorem Context.SameUnsent.queueFrame (base : UInt32) (env : Env) (frame : Frame) :
    (queueFrame env image (frame.renumbered base)).1 = (queueFrame env context frame).1 ∧
      (Daemon.queueFrame env context frame).2.SameUnsent
        (Daemon.queueFrame env image (frame.renumbered base)).2 := by
  unfold Daemon.queueFrame
  simp only [h.iff]
  split
  · exact ⟨rfl, h⟩
  · rw [frameEncode_eq frame (Nat.le_refl _),
      frameEncode_eq (frame.renumbered base) (Nat.le_refl _)]
    refine ⟨rfl, ?_⟩
    show (frameBytes _).length = (frameBytes _).length
    rw [frameBytes_length, frameBytes_length]
    rfl

end Unsent

theorem Context.SameUnsent.flushLoop {context image : Context} (h : context.SameUnsent image)
    (writes : List WriteResult) :
    (flushLoop writes context).2.SameUnsent (flushLoop writes image).2 := by
  induction writes generalizing context image with
  | nil =>
    unfold Daemon.flushLoop
    simp only [h.iff]
    split
    · exact h
    · exact h
  | cons result writes ih =>
    unfold Daemon.flushLoop
    simp only [h.iff]
    split
    · cases result with
      | wrote more =>
        refine ih ?_
        simp only [Context.SameUnsent, Context.unwritten, List.length_drop] at h ⊢
        omega
      | again | failed => exact h
    · exact h

/-- The buffer is cleared when all of it is written. -/
theorem flushTransport_unsent (env : Env) (writes : List WriteResult) (context : Context) :
    (flushTransport env writes context).2.unwritten.length =
      (flushLoop writes context).2.unwritten.length := by
  unfold flushTransport
  dsimp only
  split
  · rfl
  split
  · rename_i hall
    rw [Context.unwritten, Context.unwritten, hall, List.drop_length]
    rfl
  · rfl

theorem Context.SameUnsent.flush {context image : Context} (h : context.SameUnsent image)
    (env : Env) (writes : List WriteResult) :
    (flushTransport env writes context).2.SameUnsent (flushTransport env writes image).2 := by
  rw [Context.SameUnsent, flushTransport_unsent, flushTransport_unsent]
  exact h.flushLoop writes

/-! ## Copies -/

/-- The same upgrade, with another number for every request. -/
structure Context.Copies (base : UInt32) (context image : Context) : Prop where
  upgrade : image.upgrade = context.upgrade
  result : image.upgradeResult = context.upgradeResult
  session : context.session.Mirrors base image.session
  unsent : context.SameUnsent image

section Copies

variable {base : UInt32} {context image : Context} (h : context.Copies base image)

include h

theorem Context.Copies.queueUpgradeRequest (env : Env) :
    (queueUpgradeRequest env image).1 = (queueUpgradeRequest env context).1 ∧
      (Daemon.queueUpgradeRequest env context).2.Copies base
        (Daemon.queueUpgradeRequest env image).2 := by
  unfold Daemon.queueUpgradeRequest
  rw [h.upgrade]
  rcases upgradeBuildRequest context.upgrade with error | ⟨frame, upgrade⟩
  · exact ⟨rfl, rfl, h.result, h.session.cancel, h.unsent⟩
  dsimp only
  rcases h.session.begin frame.type frame.flags frame.payload upgradePolicy env.now with
    ⟨error, herror, herror'⟩ | ⟨request, begun, begun', hbegun, hbegun', hmirrors⟩
  · rw [herror, herror']
    exact ⟨rfl, rfl, h.result, h.session.cancel, h.unsent⟩
  rw [hbegun, hbegun']
  dsimp only
  obtain ⟨hcode, hunsent⟩ := @Context.SameUnsent.queueFrame
    (Context.ownRequest { context with upgrade := upgrade } begun
      (.upgrade context.upgradeOperationId))
    (Context.ownRequest { image with upgrade := upgrade } begun'
      (.upgrade image.upgradeOperationId)) h.unsent base env request
  obtain ⟨output, offset, hqueued⟩ := queueFrame_eq env
    (Context.ownRequest { context with upgrade := upgrade } begun
      (.upgrade context.upgradeOperationId)) request
  obtain ⟨output', offset', hqueued'⟩ := queueFrame_eq env
    (Context.ownRequest { image with upgrade := upgrade } begun'
      (.upgrade image.upgradeOperationId)) (request.renumbered base)
  rw [hqueued, hqueued'] at hunsent
  rw [hcode]
  split
  · rw [hqueued, hqueued']
    exact ⟨rfl, rfl, h.result, hmirrors.cancel, hunsent⟩
  · refine ⟨hcode, ?_⟩
    rw [hqueued, hqueued']
    exact ⟨rfl, h.result, hmirrors, hunsent⟩

theorem Context.Copies.finishUpgrade (result : Int) :
    (finishUpgrade context result).Copies base (finishUpgrade image result) :=
  ⟨h.upgrade, rfl, (h.session.transition .upgradeDone).2, h.unsent⟩

theorem Context.Copies.onUpgradeResponse (env : Env) (requestType : UInt8) (frame : Frame) :
    (onUpgradeResponse env context requestType frame).2.Copies base
      (onUpgradeResponse env image requestType (frame.renumbered base)).2 := by
  have haccepted : upgradeAcceptResponse image.upgrade requestType (frame.renumbered base) =
      upgradeAcceptResponse context.upgrade requestType frame := by
    rw [h.upgrade]
    rfl
  unfold Daemon.onUpgradeResponse
  rw [haccepted]
  generalize upgradeAcceptResponse context.upgrade requestType frame = accepted
  have hcopies : Context.Copies base { context with upgrade := accepted.2 }
      { image with upgrade := accepted.2 } :=
    ⟨rfl, h.result, h.session, h.unsent⟩
  dsimp only
  split
  · exact hcopies.finishUpgrade _
  split
  · exact hcopies.finishUpgrade _
  · exact (hcopies.queueUpgradeRequest env).2

theorem Context.Copies.tryRecovery (env : Env) :
    (tryRecovery env image).1 = (tryRecovery env context).1 ∧
      (Daemon.tryRecovery env context).2.Copies base (Daemon.tryRecovery env image).2 := by
  unfold Daemon.tryRecovery
  rw [h.upgrade]
  generalize upgradeBeginRecovery context.upgrade = recovery
  have hcopies : Context.Copies base { context with upgrade := recovery.2 }
      { image with upgrade := recovery.2 } :=
    ⟨rfl, h.result, h.session, h.unsent⟩
  dsimp only
  split
  · exact hcopies.queueUpgradeRequest env
  · exact ⟨rfl, hcopies⟩

theorem Context.Copies.handleTimeout (env : Env) (hactive : upgradeActive context.upgrade = true) :
    (handleTimeout env context).2.Copies base (handleTimeout env image).2 := by
  obtain ⟨hcode, hcopies⟩ := h.tryRecovery env
  unfold Daemon.handleTimeout
  rw [h.upgrade, if_pos hactive, if_pos hactive]
  dsimp only
  rw [hcode]
  split
  · exact hcopies
  · refine ⟨?_, rfl, (hcopies.session.transition .upgradeDone).2, hcopies.unsent⟩
    show ({ (Daemon.tryRecovery env image).2.upgrade with state := .error } : Upgrade) = _
    rw [hcopies.upgrade]

theorem Context.Copies.tickSession (env : Env) :
    (tickSession env image).1 = (tickSession env context).1 ∧
      (Daemon.tickSession env context).2.Copies base (Daemon.tickSession env image).2 := by
  have hsend : ∀ frame, (queueFrame env image (frame.renumbered base)).1 =
      (queueFrame env context frame).1 ∧
      (((queueFrame env image (frame.renumbered base)).2.upgrade =
          (queueFrame env context frame).2.upgrade ∧
        (queueFrame env image (frame.renumbered base)).2.upgradeResult =
          (queueFrame env context frame).2.upgradeResult) ∧
        (queueFrame env context frame).2.SameUnsent
          (queueFrame env image (frame.renumbered base)).2) := by
    intro frame
    obtain ⟨hcode, hunsent⟩ := h.unsent.queueFrame base env frame
    obtain ⟨output, offset, hqueued⟩ := queueFrame_eq env context frame
    obtain ⟨output', offset', hqueued'⟩ := queueFrame_eq env image (frame.renumbered base)
    refine ⟨hcode, ?_, hunsent⟩
    rw [hqueued, hqueued']
    exact ⟨h.upgrade, h.result⟩
  obtain ⟨hcode, hsession, ⟨hupgrade, hresult⟩, hunsent⟩ := h.session.tick
    (fun frame context => queueFrame env context frame)
    (fun frame context => queueFrame env context frame)
    (R := fun (context image : Context) => (image.upgrade = context.upgrade ∧
      image.upgradeResult = context.upgradeResult) ∧ context.SameUnsent image)
    ⟨⟨h.upgrade, h.result⟩, h.unsent⟩ hsend env.now
  exact ⟨hcode, hupgrade, hresult, hsession, hunsent⟩

/-- A timeout is the one event of the timer that looks at the upgrade. -/
theorem Context.Copies.handleTimer (env : Env) (hactive : upgradeActive context.upgrade = true) :
    (handleTimer env context).2.Copies base (handleTimer env image).2 := by
  obtain ⟨hcode, hcopies⟩ := h.tickSession env
  have hupgrade : (Daemon.tickSession env context).2.upgrade = context.upgrade := by
    have hcase := tickSession_cases env context
    generalize Daemon.tickSession env context = ticked at hcase ⊢
    cases hcase with
    | idle | retried | expired => rfl
  unfold Daemon.handleTimer
  dsimp only
  rw [hcode]
  split
  · exact hcopies.handleTimeout env (by rw [hupgrade]; exact hactive)
  · exact hcopies

end Copies

/-! ## The state of a running upgrade -/

theorem upgradeAcceptResponse_ne_validating (upgrade : Upgrade) (requestType : UInt8)
    (response : Frame) :
    (upgradeAcceptResponse upgrade requestType response).2.state ≠ .validating := by
  have haccepts := upgradeAcceptResponse_accepts upgrade requestType response
  generalize upgradeAcceptResponse upgrade requestType response = result at haccepts ⊢
  have hresume : ∀ resumed : Upgrade, resumed.resume.state ≠ .validating := by
    intro resumed
    rw [Upgrade.resume_state]
    split
    · exact UpgradeState.noConfusion
    · exact UpgradeState.noConfusion
  cases haccepts with
  | refused | entered | ended | verified | activated | rebooted => exact UpgradeState.noConfusion
  | begun | transferred | recovered => exact hresume _

theorem onUpgradeResponse_ne_validating (env : Env) (context : Context) (requestType : UInt8)
    (frame : Frame) :
    (onUpgradeResponse env context requestType frame).2.upgrade.state ≠ .validating := by
  have hstate := upgradeAcceptResponse_ne_validating context.upgrade requestType frame
  unfold onUpgradeResponse
  dsimp only
  split
  · exact hstate
  split
  · exact hstate
  · rw [(queueUpgradeRequest_spec env _).upgradeState]
    exact hstate

theorem handleTimeout_ne_validating (env : Env) {context : Context}
    (hactive : upgradeActive context.upgrade = true)
    (hstate : context.upgrade.state ≠ .validating) :
    (handleTimeout env context).2.upgrade.state ≠ .validating := by
  have hrecovery : (upgradeBeginRecovery context.upgrade).2.state ≠ .validating := by
    unfold upgradeBeginRecovery
    split_ifs
    · exact hstate
    · exact UpgradeState.noConfusion
    · exact UpgradeState.noConfusion
  have htried : (tryRecovery env context).2.upgrade.state ≠ .validating := by
    unfold tryRecovery
    dsimp only
    split
    · rw [(queueUpgradeRequest_spec env _).upgradeState]
      exact hrecovery
    · exact hrecovery
  unfold handleTimeout
  rw [if_pos hactive]
  dsimp only
  split
  · exact htried
  · exact UpgradeState.noConfusion

theorem handleTimer_ne_validating (env : Env) {context : Context}
    (hactive : upgradeActive context.upgrade = true)
    (hstate : context.upgrade.state ≠ .validating) :
    (handleTimer env context).2.upgrade.state ≠ .validating := by
  have hcase := handleTimer_cases env context
  generalize handleTimer env context = handled at hcase ⊢
  cases hcase with
  | idle | retried | unclaimed => exact hstate
  | recovered stats => exact @handleTimeout_ne_validating env (context.expired stats) hactive hstate
  | answered =>
    rw [(queueClientResponse_sameDevice env _ _ _ _ _).upgrade]
    exact hstate

/-! ## An upgrade that is over -/

/-- The record and the result stay. -/
structure Context.SameRecord (before after : Context) : Prop where
  upgrade : after.upgrade = before.upgrade
  result : after.upgradeResult = before.upgradeResult

theorem queueClientResponse_sameRecord (env : Env) (context : Context) (index : Slot)
    (command : UInt8) (status : Int) (payload : List UInt8) :
    context.SameRecord (queueClientResponse env context index command status payload).2 := by
  rw [queueClientResponse_bytes]
  exact ⟨rfl, rfl⟩

theorem onDeviceFrame_inactive (env : Env) (frame : Frame) {context : Context}
    (h : upgradeActive context.upgrade = false) :
    context.SameRecord (onDeviceFrame env frame context).2 := by
  have hcase := onDeviceFrame_cases env frame context
  generalize onDeviceFrame env frame context = handled at hcase ⊢
  cases hcase with
  | quiet | handshake | orphan => exact ⟨rfl, rfl⟩
  | upgrade _ _ hactive => exact absurd (h.symm.trans hactive) Bool.false_ne_true
  | client =>
    have hsame := queueClientResponse_sameRecord env
    exact ⟨(hsame _ _ _ _ _).upgrade, (hsame _ _ _ _ _).result⟩

theorem handleTimer_inactive (env : Env) {context : Context}
    (h : upgradeActive context.upgrade = false) :
    context.SameRecord (handleTimer env context).2 := by
  have hcase := handleTimer_cases env context
  generalize handleTimer env context = handled at hcase ⊢
  cases hcase with
  | idle | retried | unclaimed => exact ⟨rfl, rfl⟩
  | recovered _ _ _ hactive => exact absurd (h.symm.trans hactive) Bool.false_ne_true
  | answered =>
    have hsame := queueClientResponse_sameRecord env
    exact ⟨(hsame _ _ _ _ _).upgrade, (hsame _ _ _ _ _).result⟩

/-! ## The phases of an operation -/

/-- A status shows the same for both. -/
structure Context.Shows (context image : Context) : Prop where
  state : image.upgrade.state = context.upgrade.state
  result : image.upgradeResult = context.upgradeResult
  offset : image.upgrade.offset = context.upgrade.offset
  total : image.upgrade.imageSize.toUInt32 = context.upgrade.imageSize.toUInt32

/-- An operation in two daemons: its image is validated and nothing is asked of the device, or the
upgrade runs, or it is over. -/
inductive Context.Mirrors (base : UInt32) (context image : Context) : Prop
  | validating (hstate : context.upgrade.state = .validating) (hshows : context.Shows image)
      (hversion : image.pendingUpgradeVersion = context.pendingUpgradeVersion)
      (hsession : context.session.Mirrors base image.session)
      (hunsent : context.SameUnsent image) (hidle : context.session.pending.active = false)
  | running (hactive : upgradeActive context.upgrade = true)
      (hstate : context.upgrade.state ≠ .validating) (hcopies : context.Copies base image)
  | settled (hinactive : upgradeActive context.upgrade = false) (hshows : context.Shows image)

theorem Context.Copies.shows {base : UInt32} {context image : Context}
    (h : context.Copies base image) : context.Shows image :=
  ⟨by rw [h.upgrade], h.result, by rw [h.upgrade], by rw [h.upgrade]⟩

theorem Context.Copies.mirrors {base : UInt32} {context image : Context}
    (h : context.Copies base image) (hstate : context.upgrade.state ≠ .validating) :
    context.Mirrors base image := by
  cases hactive : upgradeActive context.upgrade with
  | true => exact .running hactive hstate h
  | false => exact .settled hactive h.shows

theorem Context.Mirrors.shows {base : UInt32} {context image : Context}
    (h : context.Mirrors base image) : context.Shows image := by
  cases h with
  | validating _ hshows => exact hshows
  | running _ _ hcopies => exact hcopies.shows
  | settled _ hshows => exact hshows

theorem Context.Shows.of_same {context image after after' : Context} (h : context.Shows image)
    (hsame : context.SameRecord after) (hsame' : image.SameRecord after') :
    after.Shows after' := by
  refine ⟨?_, ?_, ?_, ?_⟩
  · rw [hsame.upgrade, hsame'.upgrade]
    exact h.state
  · rw [hsame.result, hsame'.result]
    exact h.result
  · rw [hsame.upgrade, hsame'.upgrade]
    exact h.offset
  · rw [hsame.upgrade, hsame'.upgrade]
    exact h.total

theorem Context.Shows.inactive {context image : Context} (h : context.Shows image)
    (hinactive : upgradeActive context.upgrade = false) : upgradeActive image.upgrade = false := by
  unfold upgradeActive at hinactive ⊢
  rw [h.state]
  exact hinactive

/-- What an operation consists of in a daemon. -/
structure Context.SameOperation (before after : Context) : Prop extends
    before.SameRecord after where
  version : after.pendingUpgradeVersion = before.pendingUpgradeVersion
  session : after.session = before.session
  unwritten : after.unwritten = before.unwritten

section Phases

variable {base : UInt32} {context image : Context} (h : context.Mirrors base image)

include h

/-- Neither the operation nor, while it is active, the device is touched. -/
theorem Context.Mirrors.of_same {after : Context} (hrecord : context.SameRecord after)
    (hsame : upgradeActive context.upgrade = true → context.SameOperation after) :
    after.Mirrors base image := by
  have hshows : after.Shows image := h.shows.of_same hrecord ⟨rfl, rfl⟩
  cases h with
  | validating hstate _ hversion hsession hunsent hidle =>
    have hoperation := hsame (by rw [upgradeActive, hstate]; rfl)
    refine .validating (by rw [hrecord.upgrade]; exact hstate) hshows ?_ ?_ ?_ ?_
    · rw [hoperation.version]
      exact hversion
    · rw [hoperation.session]
      exact hsession
    · rw [Context.SameUnsent, hoperation.unwritten]
      exact hunsent
    · rw [hoperation.session]
      exact hidle
  | running hactive hstate hcopies =>
    have hoperation := hsame hactive
    refine .running (by rw [hrecord.upgrade]; exact hactive)
      (by rw [hrecord.upgrade]; exact hstate) ⟨?_, hshows.result, ?_, ?_⟩
    · rw [hrecord.upgrade]
      exact hcopies.upgrade
    · rw [hoperation.session]
      exact hcopies.session
    · rw [Context.SameUnsent, hoperation.unwritten]
      exact hcopies.unsent
  | settled hinactive _ =>
    exact .settled (by rw [hrecord.upgrade]; exact hinactive) hshows

omit h in
/-- A frame is taken by both daemons or by none. -/
theorem Context.takes_renumbered (hsession : context.session.Mirrors base image.session)
    (frame : Frame) : image.takes (frame.renumbered base) ↔ context.takes frame := by
  have htelemetry : (frame.renumbered base).sequence = 0 ↔ frame.sequence = 0 :=
    renumber_eq_zero_iff
  have haccepted : ∀ (session : Session) (response : Frame),
      (sessionAcceptResponse session response).1 = .ok ↔ session.Answers response :=
    fun session response => ⟨sessionAcceptResponse_ok, fun hanswers => by
      rw [sessionAcceptResponse_of_answers hanswers]⟩
  unfold Context.takes
  rw [htelemetry, haccepted, haccepted, hsession.answers]
  rfl

/-- A frame that is not taken changes counters only. -/
theorem Context.Mirrors.ignored (env : Env) (frame : Frame)
    (hsession : context.session.Mirrors base image.session) (htakes : ¬ context.takes frame) :
    (onDeviceFrame env frame context).2.Mirrors base
      (onDeviceFrame env (frame.renumbered base) image).2 := by
  obtain ⟨stats, telemetry, count, hframe⟩ := onDeviceFrame_ignored env htakes
  obtain ⟨stats', telemetry', count', hframe'⟩ := onDeviceFrame_ignored env
    (mt (Context.takes_renumbered hsession frame).mp htakes)
  rw [hframe, hframe']
  cases h with
  | validating hstate hshows hversion hsession hunsent hidle =>
    exact .validating hstate ⟨hshows.state, hshows.result, hshows.offset, hshows.total⟩ hversion
      (hsession.counted stats stats') hunsent hidle
  | running hactive hstate hcopies =>
    exact .running hactive hstate ⟨hcopies.upgrade, hcopies.result,
      hsession.counted stats stats', hcopies.unsent⟩
  | settled hinactive hshows =>
    exact .settled hinactive ⟨hshows.state, hshows.result, hshows.offset, hshows.total⟩

omit h in
/-- A frame that is taken while the upgrade runs. -/
theorem Context.Copies.taken (h : context.Copies base image) (env : Env) {frame : Frame}
    (hactive : upgradeActive context.upgrade = true) (hstate : context.upgrade.state ≠ .validating)
    (htakes : context.takes frame) :
    (onDeviceFrame env frame context).2.Mirrors base
      (onDeviceFrame env (frame.renumbered base) image).2 := by
  have hcompleted : Context.Copies base
      { context with session := context.session.completed frame }
      { image with session := image.session.completed (frame.renumbered base) } :=
    ⟨h.upgrade, h.result, h.session.completed frame, h.unsent⟩
  have htype : image.session.pending.frame.type = context.session.pending.frame.type := by
    rw [h.session.pending (sessionAcceptResponse_ok htakes.2).1]
    rfl
  rw [onDeviceFrame_taken env htakes, onDeviceFrame_taken env
    ((Context.takes_renumbered h.session frame).mpr htakes)]
  dsimp only
  rw [h.session.state, htype]
  split
  · show Context.Mirrors base (Prod.snd (if isFailure frame.type then _ else _))
      (Prod.snd (if isFailure frame.type then _ else _))
    split
    · exact hcompleted.mirrors hstate
    · refine Context.Copies.mirrors ⟨h.upgrade, h.result, ?_, h.unsent⟩ hstate
      exact (hcompleted.session.transition .handshakeOk).2
  · have himage : upgradeActive image.upgrade = true := by
      rw [h.upgrade]
      exact hactive
    rw [if_pos himage]
    exact (hcompleted.onUpgradeResponse env _ frame).mirrors
      (onUpgradeResponse_ne_validating env _ _ frame)

/-- A frame from the device. -/
theorem Context.Mirrors.frame (env : Env) (frame : Frame) :
    (onDeviceFrame env frame context).2.Mirrors base
      (onDeviceFrame env (frame.renumbered base) image).2 := by
  have hignored := h.ignored env frame
  cases h with
  | validating hstate hshows hversion hsession hunsent hidle =>
    -- nothing is pending that the frame could answer
    refine hignored hsession fun htakes => ?_
    exact absurd (hidle.symm.trans (sessionAcceptResponse_ok htakes.2).1) Bool.false_ne_true
  | running hactive hstate hcopies =>
    by_cases htakes : context.takes frame
    · exact hcopies.taken env hactive hstate htakes
    · exact hignored hcopies.session htakes
  | settled hinactive hshows =>
    have hsame := onDeviceFrame_inactive env frame hinactive
    refine .settled (by rw [hsame.upgrade]; exact hinactive) (hshows.of_same hsame ?_)
    exact onDeviceFrame_inactive env _ (hshows.inactive hinactive)

/-- A tick. -/
theorem Context.Mirrors.timer (env : Env) :
    (handleTimer env context).2.Mirrors base (handleTimer env image).2 := by
  have hidle : ∀ context : Context, context.session.pending.active = false →
      (handleTimer env context).2 = context := by
    intro context hfree
    have hcase := handleTimer_cases env context
    generalize handleTimer env context = handled at hcase ⊢
    cases hcase with
    | idle => rfl
    | retried _ _ _ _ _ _ hactive | recovered _ hactive | answered _ _ hactive
    | unclaimed _ hactive => exact absurd (hfree.symm.trans hactive) Bool.false_ne_true
  cases h with
  | validating hstate hshows hversion hsession hunsent hfree =>
    rw [hidle context hfree, hidle image (hsession.active.trans hfree)]
    exact .validating hstate hshows hversion hsession hunsent hfree
  | running hactive hstate hcopies =>
    exact (hcopies.handleTimer env hactive).mirrors
      (handleTimer_ne_validating env hactive hstate)
  | settled hinactive hshows =>
    have hsame := handleTimer_inactive env hinactive
    refine .settled (by rw [hsame.upgrade]; exact hinactive) (hshows.of_same hsame ?_)
    exact handleTimer_inactive env (hshows.inactive hinactive)

/-- Writes to the device. -/
theorem Context.Mirrors.flush (env : Env) (writes : List WriteResult) :
    (flushTransport env writes context).2.Mirrors base (flushTransport env writes image).2 := by
  have hunsent : context.SameUnsent image → (flushTransport env writes context).2.SameUnsent
      (flushTransport env writes image).2 := fun hsame => hsame.flush env writes
  obtain ⟨output, offset, hflushed⟩ := flushTransport_eq env writes context
  obtain ⟨output', offset', hflushed'⟩ := flushTransport_eq env writes image
  rw [hflushed, hflushed'] at hunsent ⊢
  cases h with
  | validating hstate hshows hversion hsession hsame hidle =>
    exact .validating hstate ⟨hshows.state, hshows.result, hshows.offset, hshows.total⟩ hversion
      hsession (hunsent hsame) hidle
  | running hactive hstate hcopies =>
    exact .running hactive hstate ⟨hcopies.upgrade, hcopies.result, hcopies.session,
      hunsent hcopies.unsent⟩
  | settled hinactive hshows =>
    exact .settled hinactive ⟨hshows.state, hshows.result, hshows.offset, hshows.total⟩

end Phases

/-! ## The image is validated -/

section Validated

variable {base : UInt32} {context image : Context} (hshows : context.Shows image)
  (hversion : image.pendingUpgradeVersion = context.pendingUpgradeVersion)
  (hsession : context.session.Mirrors base image.session) (hunsent : context.SameUnsent image)

include hshows hversion hsession hunsent

/-- The calls that start the upgrade end in the same way.  Where `devmgr_upgrade_start` fails, the
record is left as it was. -/
theorem tryUpgrade_mirrors (env : Env) {opened opened' : FirmwareImage}
    (hdata : opened'.data = opened.data) (hcrc : opened'.crc32 = opened.crc32) :
    (tryUpgrade env image opened').1 = (tryUpgrade env context opened).1 ∧
      ((tryUpgrade env context opened).1 = Status.ok.code →
        (tryUpgrade env context opened).2.Copies base (tryUpgrade env image opened').2 ∧
          (tryUpgrade env context opened).2.upgrade.state ≠ .validating) ∧
      (tryUpgrade env context opened).2.Shows (tryUpgrade env image opened').2 := by
  have hsame : upgradeStart opened'.data opened'.crc32 image.pendingUpgradeVersion
      upgradeDefaultChunk = upgradeStart opened.data opened.crc32 context.pendingUpgradeVersion
      upgradeDefaultChunk := by
    rw [hdata, hcrc, hversion]
  unfold tryUpgrade
  rw [hsame]
  rcases hstart : upgradeStart opened.data opened.crc32 context.pendingUpgradeVersion
    upgradeDefaultChunk with error | upgrade
  · exact ⟨rfl, fun hok => absurd hok (upgradeStart_failed hstart), hshows⟩
  obtain ⟨hcode, htransition⟩ := hsession.transition .startUpgrade
  dsimp only
  rw [hcode]
  split
  · rename_i hrefused
    exact ⟨rfl, fun hok => absurd hok (mt Status.code_eq_ok.mp hrefused), rfl, hshows.result, rfl,
      rfl⟩
  have hcopies : Context.Copies base
      { context with
        upgrade := upgrade
        session := (sessionTransition context.session .startUpgrade).2 }
      { image with
        upgrade := upgrade
        session := (sessionTransition image.session .startUpgrade).2 } :=
    ⟨rfl, hshows.result, htransition, hunsent⟩
  obtain ⟨hqueued, hbegun⟩ := hcopies.queueUpgradeRequest env
  refine ⟨hqueued, fun _ => ⟨hbegun, ?_⟩, hbegun.shows⟩
  rw [(queueUpgradeRequest_spec env _).upgradeState, (upgradeStart_eq_ok hstart).2.1]
  exact UpgradeState.noConfusion

theorem beginUpgrade_mirrors (env : Env) {opened opened' : FirmwareImage}
    (hdata : opened'.data = opened.data) (hcrc : opened'.crc32 = opened.crc32) :
    (beginUpgrade env context opened).Mirrors base (beginUpgrade env image opened') := by
  obtain ⟨hcode, hbegun, hrecord⟩ := @tryUpgrade_mirrors base
    { context with firmware := some opened } { image with firmware := some opened' }
    ⟨hshows.state, hshows.result, hshows.offset, hshows.total⟩ hversion hsession hunsent env opened
    opened' hdata hcrc
  unfold beginUpgrade
  generalize tryUpgrade env { context with firmware := some opened } opened = begun at *
  generalize tryUpgrade env { image with firmware := some opened' } opened' = begun' at *
  dsimp only
  rw [hcode]
  split
  · exact .settled rfl ⟨rfl, rfl, hrecord.offset, hrecord.total⟩
  · rename_i hok
    obtain ⟨hcopies, hstate⟩ := hbegun (not_not.mp hok)
    exact hcopies.mirrors hstate

end Validated

/-- What `handle_worker_completion` makes of the result for its operation. -/
theorem takeWorkerResult_own (env : Env) {context : Context} {validation : ValidationResult}
    {worker : Worker} (htake : workerTakeResult context.worker = .ok (validation, worker))
    (hjob : validation.jobId = context.upgradeOperationId) :
    (takeWorkerResult env context).2 =
      if context.upgrade.state ≠ .validating then
        Context.release { context with worker := worker } validation.image
      else
        match validation.status, validation.image with
        | .ok, some image => beginUpgrade env { context with worker := worker } image
        | status, _ => { context with
            worker := worker
            upgradeResult := status.code
            upgrade := { context.upgrade with state := .error } } := by
  unfold takeWorkerResult
  rw [htake]
  dsimp only
  by_cases hstate : context.upgrade.state = .validating
  · rw [if_neg (not_or.mpr ⟨not_not.mpr hjob, not_not.mpr hstate⟩), if_neg (not_not.mpr hstate)]
    obtain ⟨jobId, status, opened⟩ := validation
    cases status with
    | ok =>
      cases opened with
      | some image => rfl
      | none => rfl
    | _ => rfl
  · rw [if_pos (.inr hstate), if_pos hstate]

/-- The result of the worker for the operation.  The two daemons may have mapped the image at
different places. -/
theorem Context.Mirrors.validated {base : UInt32} {context image : Context}
    (h : context.Mirrors base image) (env : Env) {validation validation' : ValidationResult}
    {worker worker' : Worker} (htake : workerTakeResult context.worker = .ok (validation, worker))
    (htake' : workerTakeResult image.worker = .ok (validation', worker'))
    (hjob : validation.jobId = context.upgradeOperationId)
    (hjob' : validation'.jobId = image.upgradeOperationId)
    (hstatus : validation'.status = validation.status)
    (hopened : validation'.image.map (fun image => (image.data, image.crc32)) =
      validation.image.map fun image => (image.data, image.crc32)) :
    (takeWorkerResult env context).2.Mirrors base (takeWorkerResult env image).2 := by
  rw [takeWorkerResult_own env htake hjob, takeWorkerResult_own env htake' hjob', h.shows.state]
  have hover : context.upgrade.state ≠ .validating → context.Mirrors base image →
      Context.Mirrors base (Context.release { context with worker := worker } validation.image)
        (Context.release { image with worker := worker' } validation'.image) := by
    rintro hstate (⟨hvalidating⟩ | ⟨hactive, _, hcopies⟩ | ⟨hinactive, hshows⟩)
    · exact absurd hvalidating hstate
    · exact .running hactive hstate ⟨hcopies.upgrade, hcopies.result, hcopies.session,
        hcopies.unsent⟩
    · exact .settled hinactive ⟨hshows.state, hshows.result, hshows.offset, hshows.total⟩
  split
  · rename_i hstate
    exact hover hstate h
  rename_i hstate
  have hrefused : ∀ status : Status, Context.Mirrors base
      { context with
        worker := worker
        upgradeResult := status.code
        upgrade := { context.upgrade with state := .error } }
      { image with
        worker := worker'
        upgradeResult := status.code
        upgrade := { image.upgrade with state := .error } } :=
    fun status => .settled rfl ⟨rfl, rfl, h.shows.offset, h.shows.total⟩
  cases h with
  | running _ hstarted => exact absurd hstarted hstate
  | settled hinactive =>
    rw [upgradeActive, not_not.mp hstate] at hinactive
    exact absurd hinactive (by decide)
  | validating _ hshows hversion hsession hunsent =>
    obtain ⟨jobId, status, opened⟩ := validation
    obtain ⟨jobId', status', opened'⟩ := validation'
    obtain rfl : status' = status := hstatus
    cases opened with
    | none =>
      obtain rfl : opened' = none := Option.map_eq_none_iff.mp hopened
      cases status' with
      | _ => exact hrefused _
    | some opened =>
      obtain ⟨opened', rfl, hpair⟩ := Option.map_eq_some_iff.mp hopened
      obtain ⟨hdata, hcrc⟩ := Prod.mk.inj hpair
      cases status' with
      | ok =>
        exact @beginUpgrade_mirrors base { context with worker := worker }
          { image with worker := worker' }
          ⟨hshows.state, hshows.result, hshows.offset, hshows.total⟩ hversion hsession hunsent env
          opened opened' hdata hcrc
      | _ => exact hrefused _

end Daemon
