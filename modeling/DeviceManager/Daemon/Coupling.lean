import DeviceManager.Daemon.Ownership

/-!
# The upgrade, the session and the image

An upgrade that talks to the device lives in three places: the state of the upgrade, the
state `UPGRADING` of the session, and the mapping of the image in `firmware`.  The completion
of the worker's job, a response, a timeout and the request of a client each change some of
them, on paths of their own for success and for failure.

* `Context.Attached`: the three agree.  `Context.Coupled`: besides, an upgrade that runs has its
  request in the slot.
* `Context.Balanced`: the ledger of the images.  What the worker opened is closed, or it is
  held: by the daemon in `firmware`, or by the worker until its result is taken.
* `Context.Outcome`: what a handler makes of an upgrade that it touches.  The upgrade runs on
  with the same image, or it is over and the image is closed.

A handler that ends the loop may leave the three apart: a request that could not be queued
leaves the upgrade in a running state with an empty slot.
-/

namespace Daemon

open Devmgr

/-! ## The invariants -/

/-- `DEVMGR_UPGRADE_ENTER_BOOTLOADER` to `DEVMGR_UPGRADE_REBOOT`. -/
def runsUpgrade (state : UpgradeState) : Prop :=
  UpgradeState.enterBootloader.code ≤ state.code ∧ state.code ≤ UpgradeState.reboot.code

/-- These are the states that have a request. -/
theorem runsUpgrade_iff (state : UpgradeState) :
    runsUpgrade state ↔ state.requestType.isSome = true := by
  unfold runsUpgrade
  cases state <;> decide

/-- The upgrade, the session and the image agree. -/
structure Context.Attached (context : Context) : Prop where
  session : context.session.state = .upgrading ↔
    context.upgrade.state.requestType.isSome = true
  firmware : context.firmware.isSome = true ↔ context.upgrade.state.requestType.isSome = true
  image : ∀ image ∈ context.firmware, context.upgrade.imageData = image.data

/-- The request that `devmgr_upgrade_build_request` issues for the upgrade is pending. -/
def Context.AwaitsDevice (context : Context) : Prop :=
  context.session.pending.active = true ∧
    ∃ frame upgrade, upgradeBuildRequest context.upgrade = .ok (frame, upgrade) ∧
      context.session.pending.frame.type = frame.type ∧
      context.session.pending.frame.payload = frame.payload

/-- The three agree, and the request of an upgrade that runs is pending. -/
structure Context.Coupled (context : Context) : Prop extends context.Attached where
  request : context.upgrade.state.requestType.isSome = true → context.AwaitsDevice

/-- The mappings that are open: the daemon's image, and the one in a result that was not
taken. -/
def Context.held (context : Context) : List Nat :=
  (context.firmware.map FirmwareImage.mapping).toList ++
    (context.worker.result.image.map FirmwareImage.mapping).toList

/-- Every image that was opened was closed once or is held, and the worker is idle while the
daemon holds one. -/
structure Context.Balanced (context : Context) : Prop where
  worker : context.worker.Sound
  idle : context.firmware.isSome = true → context.worker.Idle
  fresh : ∀ mapping ∈ context.history.opened, mapping < context.worker.mappings
  nodup : context.history.opened.Nodup
  ledger : context.history.opened.Perm (context.history.released ++ context.held)

/-- What holds between events. -/
structure Context.Consistent (context : Context) : Prop where
  coupled : context.Coupled
  balanced : context.Balanced

/-! ## Frame conditions -/

/-- Nothing about the images changes. -/
structure Context.SameImages (before after : Context) : Prop where
  firmware : after.firmware = before.firmware
  worker : after.worker = before.worker
  opened : after.history.opened = before.history.opened
  released : after.history.released = before.history.released

theorem Context.SameImages.trans {a b c : Context} (hab : a.SameImages b)
    (hbc : b.SameImages c) : a.SameImages c where
  firmware := hbc.firmware.trans hab.firmware
  worker := hbc.worker.trans hab.worker
  opened := hbc.opened.trans hab.opened
  released := hbc.released.trans hab.released

/-- The image of the daemon is closed. -/
structure Context.ClosesImage (before after : Context) : Prop where
  firmware : after.firmware = none
  worker : after.worker = before.worker
  opened : after.history.opened = before.history.opened
  released : after.history.released =
    before.history.released ++ (before.firmware.map FirmwareImage.mapping).toList

theorem Context.SameImages.closes {a b c : Context} (hab : a.SameImages b)
    (hbc : b.ClosesImage c) : a.ClosesImage c where
  firmware := hbc.firmware
  worker := hbc.worker.trans hab.worker
  opened := hbc.opened.trans hab.opened
  released := by rw [hbc.released, hab.released, hab.firmware]

/-- An upgrade runs on with the same image, or it is over and the image is closed. -/
inductive Context.Outcome (before after : Context) : Prop
  | running (hsame : before.SameImages after) (hfirmware : before.firmware.isSome = true)
      (himage : ∀ image ∈ before.firmware, after.upgrade.imageData = image.data)
      (hsession : after.session.state = .upgrading) (hrequest : after.AwaitsDevice)
  | ended (hcloses : before.ClosesImage after) (hsession : after.session.state ≠ .upgrading)
      (htype : after.upgrade.state.requestType = none)

theorem Context.SameImages.outcome {a b c : Context} (hab : a.SameImages b)
    (hbc : b.Outcome c) : a.Outcome c := by
  cases hbc with
  | running hsame hfirmware himage hsession hrequest =>
    rw [hab.firmware] at hfirmware himage
    exact .running (hab.trans hsame) hfirmware himage hsession hrequest
  | ended hcloses hsession htype => exact .ended (hab.closes hcloses) hsession htype

/-! ## Steps that keep the three together -/

/-- No upgrade runs. -/
theorem Context.Coupled.of_rest {context : Context}
    (htype : context.upgrade.state.requestType = none)
    (hsession : context.session.state ≠ .upgrading) (hfirmware : context.firmware = none) :
    context.Coupled := by
  refine ⟨⟨?_, ?_, ?_⟩, ?_⟩
  · rw [htype]
    exact ⟨fun h => absurd h hsession, fun h => nomatch h⟩
  · rw [htype, hfirmware]
    exact Iff.rfl
  · rw [hfirmware]
    intro image himage
    cases himage
  · rw [htype]
    intro h
    cases h

theorem Context.Attached.rest {context : Context} (h : context.Attached)
    (htype : context.upgrade.state.requestType = none) :
    context.session.state ≠ .upgrading ∧ context.firmware = none := by
  have hnot : ¬ context.upgrade.state.requestType.isSome = true := by
    rw [htype]
    exact Bool.false_ne_true
  refine ⟨fun hsession => hnot (h.session.mp hsession), ?_⟩
  exact Option.not_isSome_iff_eq_none.mp fun hsome => hnot (h.firmware.mp hsome)

/-- The session is in the same state, and a pending request is the same up to the mark of a
retry. -/
structure SameRequest (before after : Session) : Prop where
  state : after.state = before.state
  active : after.pending.active = before.pending.active
  type : after.pending.frame.type = before.pending.frame.type
  payload : after.pending.frame.payload = before.pending.frame.payload

/-- Nothing of the three changes. -/
theorem Context.Coupled.of_same {before after : Context} (h : before.Coupled)
    (hsession : SameRequest before.session after.session)
    (hupgrade : after.upgrade = before.upgrade) (hfirmware : after.firmware = before.firmware) :
    after.Coupled := by
  refine ⟨⟨?_, ?_, ?_⟩, ?_⟩
  · rw [hsession.state, hupgrade]
    exact h.session
  · rw [hfirmware, hupgrade]
    exact h.firmware
  · rw [hfirmware, hupgrade]
    exact h.image
  · rw [hupgrade, Context.AwaitsDevice, hupgrade, hsession.active, hsession.type,
      hsession.payload]
    exact h.request

theorem Context.Outcome.coupled {before after : Context} (h : before.Outcome after) :
    after.Coupled := by
  cases h with
  | running hsame hfirmware himage hsession hrequest =>
    have ⟨_, frame, upgrade, hbuild, _⟩ := hrequest
    have hruns := (upgradeBuildRequest_eq_ok hbuild).1
    refine ⟨⟨?_, ?_, ?_⟩, fun _ => hrequest⟩
    · rw [hsession, hruns]
      exact ⟨fun _ => rfl, fun _ => rfl⟩
    · rw [hsame.firmware, hfirmware, hruns]
      exact ⟨fun _ => rfl, fun _ => rfl⟩
    · rw [hsame.firmware]
      exact himage
  | ended hcloses hsession htype => exact .of_rest htype hsession hcloses.firmware

/-! ## Steps that keep the ledger -/

theorem Context.Balanced.of_same {before after : Context} (h : before.Balanced)
    (hsame : before.SameImages after) : after.Balanced := by
  refine ⟨?_, ?_, ?_, ?_, ?_⟩
  · rw [hsame.worker]
    exact h.worker
  · rw [hsame.firmware, hsame.worker]
    exact h.idle
  · rw [hsame.opened, hsame.worker]
    exact h.fresh
  · rw [hsame.opened]
    exact h.nodup
  · rw [hsame.opened, hsame.released, Context.held, hsame.firmware, hsame.worker]
    exact h.ledger

/-- The worker changes, and keeps its result. -/
theorem Context.Balanced.of_worker {before after : Context} (h : before.Balanced)
    (hsound : after.worker.Sound) (hidle : before.firmware.isSome = true → after.worker.Idle)
    (hresult : after.worker.result = before.worker.result)
    (hmappings : after.worker.mappings = before.worker.mappings)
    (hfirmware : after.firmware = before.firmware)
    (hopened : after.history.opened = before.history.opened)
    (hreleased : after.history.released = before.history.released) : after.Balanced := by
  refine ⟨hsound, ?_, ?_, ?_, ?_⟩
  · rw [hfirmware]
    exact hidle
  · rw [hopened, hmappings]
    exact h.fresh
  · rw [hopened]
    exact h.nodup
  · rw [hopened, hreleased, Context.held, hfirmware, hresult]
    exact h.ledger

theorem Context.Balanced.closes {before after : Context} (h : before.Balanced)
    (hcloses : before.ClosesImage after) : after.Balanced := by
  refine ⟨?_, ?_, ?_, ?_, ?_⟩
  · rw [hcloses.worker]
    exact h.worker
  · rw [hcloses.firmware]
    intro hsome
    cases hsome
  · rw [hcloses.opened, hcloses.worker]
    exact h.fresh
  · rw [hcloses.opened]
    exact h.nodup
  · rw [hcloses.opened, hcloses.released, Context.held, hcloses.firmware, hcloses.worker,
      List.append_assoc]
    exact h.ledger

theorem Context.Balanced.outcome {before after : Context} (h : before.Balanced)
    (houtcome : before.Outcome after) : after.Balanced := by
  cases houtcome with
  | running hsame => exact h.of_same hsame
  | ended hcloses => exact h.closes hcloses

/-- A result is taken, and its image closed. -/
theorem Context.Balanced.stale {context : Context} (h : context.Balanced) {worker : Worker}
    (htake : workerTakeResult context.worker = .ok (context.worker.result, worker)) :
    (Context.release { context with worker := worker }
      context.worker.result.image).Balanced := by
  obtain ⟨hsound, hidle, hmappings⟩ := h.worker.take htake
  refine ⟨hsound, fun _ => hidle, ?_, h.nodup, ?_⟩
  · intro mapping hmem
    show mapping < worker.mappings
    rw [hmappings]
    exact h.fresh mapping hmem
  · have hheld : (Context.release { context with worker := worker }
        context.worker.result.image).held =
        (context.firmware.map FirmwareImage.mapping).toList := by
      show _ ++ (worker.result.image.map FirmwareImage.mapping).toList = _
      rw [hidle.image hsound]
      exact List.append_nil _
    rw [hheld]
    show context.history.opened.Perm ((context.history.released ++
      (context.worker.result.image.map FirmwareImage.mapping).toList) ++
        (context.firmware.map FirmwareImage.mapping).toList)
    rw [List.append_assoc]
    exact h.ledger.trans (List.perm_append_comm.append_left _)

/-- A result is taken, and its image becomes the daemon's. -/
theorem Context.Balanced.take {context : Context} (h : context.Balanced)
    (hfirmware : context.firmware = none) {worker : Worker}
    (htake : workerTakeResult context.worker = .ok (context.worker.result, worker)) :
    Context.Balanced { context with
      worker := worker
      firmware := context.worker.result.image } := by
  obtain ⟨hsound, hidle, hmappings⟩ := h.worker.take htake
  refine ⟨hsound, fun _ => hidle, ?_, h.nodup, ?_⟩
  · intro mapping hmem
    show mapping < worker.mappings
    rw [hmappings]
    exact h.fresh mapping hmem
  · have hheld : Context.held { context with
        worker := worker
        firmware := context.worker.result.image } = context.held := by
      show _ ++ (worker.result.image.map FirmwareImage.mapping).toList =
        (context.firmware.map FirmwareImage.mapping).toList ++ _
      rw [hidle.image hsound, hfirmware]
      exact List.append_nil _
    rw [hheld]
    exact h.ledger

theorem mapping_nodup (image : Option FirmwareImage) :
    (image.map FirmwareImage.mapping).toList.Nodup := by
  cases image with
  | none => exact List.nodup_nil
  | some image => exact List.nodup_singleton image.mapping

/-- The worker thread has opened an image, or has failed to: none was held, and the mapping
is a new one. -/
theorem Context.Balanced.opened {context : Context} (h : context.Balanced) {worker : Worker}
    (hsound : worker.Sound) (hidle : context.firmware.isSome = true → worker.Idle)
    {jobId : UInt32} (hthread : context.worker.thread = .opening jobId)
    (hnone : context.worker.result.image = none)
    (hmappings : worker.mappings = context.worker.mappings + 1)
    (hmapping : ∀ image, worker.result.image = some image →
      image.mapping = context.worker.mappings) :
    (context.advanceWorker worker).Balanced := by
  have hopened : openedBy context.worker worker =
      (worker.result.image.map FirmwareImage.mapping).toList := by
    rw [openedBy, hthread]
  have hnew : ∀ mapping ∈ openedBy context.worker worker,
      mapping = context.worker.mappings := by
    rw [hopened]
    intro mapping hmem
    obtain ⟨image, himage, rfl⟩ := Option.map_eq_some_iff.mp (Option.mem_toList.mp hmem)
    exact hmapping image himage
  refine ⟨hsound, hidle, ?_, ?_, ?_⟩
  · intro mapping hmem
    show mapping < worker.mappings
    rw [hmappings]
    rcases List.mem_append.mp hmem with hold | hlast
    · exact (h.fresh mapping hold).trans (Nat.lt_succ_self _)
    · rw [hnew mapping hlast]
      exact Nat.lt_succ_self _
  · refine List.nodup_append.mpr ⟨h.nodup, ?_, ?_⟩
    · rw [hopened]
      exact mapping_nodup _
    · intro mapping hold other hlast heq
      have hlt := h.fresh mapping hold
      rw [heq, hnew other hlast] at hlt
      exact Nat.lt_irrefl _ hlt
  · have hledger := h.ledger
    rw [Context.held, hnone] at hledger
    show (context.history.opened ++ openedBy context.worker worker).Perm
      (context.history.released ++ ((context.firmware.map FirmwareImage.mapping).toList ++
        (worker.result.image.map FirmwareImage.mapping).toList))
    rw [hopened, ← List.append_assoc]
    refine List.Perm.append_right _ ?_
    simpa using hledger

/-- A step of the worker thread: it opens an image only while none is held. -/
theorem Context.Balanced.thread {context : Context} (h : context.Balanced) {worker : Worker}
    {file : FileView} (hstep : workerStep context.worker file = some worker) :
    (context.advanceWorker worker).Balanced := by
  have hidle : context.firmware.isSome = true → worker.Idle :=
    fun hsome => (h.idle hsome).step h.worker hstep
  obtain ⟨hsound, ⟨⟨jobId, hthread⟩, hnone, hmappings, hmapping⟩ | ⟨hthread, hresult, hmappings⟩⟩ :=
    h.worker.step hstep
  · exact h.opened hsound hidle hthread hnone hmappings hmapping
  · have hnothing : openedBy context.worker worker = [] := by
      unfold openedBy
      split
      · rename_i jobId hopening
        exact absurd hopening (hthread jobId)
      · rfl
    refine h.of_worker hsound hidle hresult hmappings rfl ?_ rfl
    show context.history.opened ++ openedBy context.worker worker = _
    rw [hnothing, List.append_nil]

/-! ## What the handlers make of an upgrade -/

/-- The end of an upgrade leaves `UPGRADING`. -/
theorem sessionTransition_leaves (session : Session) :
    (sessionTransition session .upgradeDone).2.state ≠ .upgrading := by
  rw [sessionTransition, if_neg (by decide)]
  cases hstate : session.state <;> simp [transitionTarget, hstate]

/-- A response is accepted in a state that has a request, and what is refused is over. -/
theorem upgradeAcceptResponse_state (upgrade : Upgrade) (requestType : UInt8) (frame : Frame) :
    ((upgradeAcceptResponse upgrade requestType frame).1 = .ok →
        upgrade.state.requestType.isSome = true) ∧
      ((upgradeAcceptResponse upgrade requestType frame).1 ≠ .ok →
        (upgradeAcceptResponse upgrade requestType frame).2.state.requestType = none) := by
  have haccepts := upgradeAcceptResponse_accepts upgrade requestType frame
  generalize upgradeAcceptResponse upgrade requestType frame = result at haccepts ⊢
  cases haccepts with
  | refused =>
    refine ⟨?_, fun _ => rfl⟩
    intro hok
    cases hok
  | _ hstate =>
    rw [hstate]
    exact ⟨fun _ => rfl, fun h => absurd rfl h⟩

theorem upgradeBeginRecovery_state {upgrade : Upgrade}
    (h : (upgradeBeginRecovery upgrade).1 = .ok) :
    upgrade.state.requestType.isSome = true := by
  unfold upgradeBeginRecovery at h
  split_ifs at h with hstate
  rw [not_or, not_and_or, not_not, not_not] at hstate
  rcases hstate.2 with htransfer | hrecover
  · rw [htransfer]
    rfl
  · rw [hrecover]
    rfl

theorem queueUpgradeRequest_images (env : Env) (context : Context) :
    context.SameImages (queueUpgradeRequest env context).2 := by
  have hspec := queueUpgradeRequest_spec env context
  exact ⟨hspec.firmware, hspec.worker, hspec.images.1, hspec.images.2⟩

/-- The next request is queued: the upgrade runs. -/
theorem Context.Outcome.queued {env : Env} {context : Context}
    (hok : (queueUpgradeRequest env context).1 = Status.ok.code)
    (hsession : context.session.state = .upgrading) (hfirmware : context.firmware.isSome = true)
    (himage : ∀ image ∈ context.firmware, context.upgrade.imageData = image.data) :
    context.Outcome (queueUpgradeRequest env context).2 := by
  have hspec := queueUpgradeRequest_spec env context
  refine .running (queueUpgradeRequest_images env context) hfirmware ?_ ?_
    ⟨(hspec.ok hok).2.1, hspec.built hok⟩
  · rw [hspec.imageData]
    exact himage
  · rw [hspec.sessionState]
    exact hsession

theorem onUpgradeResponse_outcome {env : Env} {context : Context} {requestType : UInt8}
    {frame : Frame} (h : context.Attached)
    (hok : (onUpgradeResponse env context requestType frame).1 = Status.ok.code) :
    context.Outcome (onUpgradeResponse env context requestType frame).2 := by
  have hstate := upgradeAcceptResponse_state context.upgrade requestType frame
  revert hok
  unfold onUpgradeResponse
  dsimp only
  split
  · rename_i hcomplete
    intro _
    refine .ended ⟨rfl, rfl, rfl, rfl⟩ (sessionTransition_leaves _) ?_
    show (upgradeAcceptResponse context.upgrade requestType frame).2.state.requestType = none
    rw [hcomplete.2]
    rfl
  split
  · rename_i hrefused
    exact fun _ => .ended ⟨rfl, rfl, rfl, rfl⟩ (sessionTransition_leaves _)
      (hstate.2 hrefused)
  · rename_i haccepted
    have hruns := hstate.1 (not_not.mp haccepted)
    intro hok
    have hsame : context.SameImages { context with
        upgrade := (upgradeAcceptResponse context.upgrade requestType frame).2 } :=
      ⟨rfl, rfl, rfl, rfl⟩
    refine hsame.outcome (Context.Outcome.queued hok (h.session.mpr hruns)
      (h.firmware.mpr hruns) ?_)
    intro image himage
    exact (upgradeAcceptResponse_sameImage _ _ _).imageData.trans (h.image image himage)

/-- The calls of `handle_worker_completion` leave the images alone; when all succeed, the
upgrade of the image runs. -/
theorem tryUpgrade_outcome (env : Env) {context : Context} {image : FirmwareImage}
    (hfirmware : context.firmware = some image) :
    context.SameImages (tryUpgrade env context image).2 ∧
      ((tryUpgrade env context image).1 = Status.ok.code →
        context.Outcome (tryUpgrade env context image).2) := by
  unfold tryUpgrade
  split
  · rename_i error hstart
    exact ⟨⟨rfl, rfl, rfl, rfl⟩, fun h => absurd h (upgradeStart_failed hstart)⟩
  rename_i upgrade hstart
  rcases sessionTransition_startUpgrade context.session with ⟨_, hupgrading⟩ | hrefused
  · rw [hupgrading]
    dsimp only
    rw [if_neg (not_not.mpr rfl)]
    have hsame : context.SameImages { context with
        upgrade := upgrade
        session := { context.session with state := .upgrading } } :=
      ⟨rfl, rfl, rfl, rfl⟩
    refine ⟨hsame.trans (queueUpgradeRequest_images env _), ?_⟩
    intro hok
    refine hsame.outcome (Context.Outcome.queued hok rfl ?_ ?_)
    · exact Option.isSome_iff_exists.mpr ⟨image, hfirmware⟩
    · intro held hheld
      obtain rfl : image = held := Option.some.inj (hfirmware.symm.trans hheld)
      obtain ⟨_, _, hdata, _⟩ := upgradeStart_eq_ok hstart
      exact hdata
  · rw [hrefused]
    refine ⟨⟨rfl, rfl, rfl, rfl⟩, ?_⟩
    intro hok
    exact absurd hok (show Status.state.code ≠ Status.ok.code by decide)

theorem beginUpgrade_outcome (env : Env) (context : Context) (image : FirmwareImage) :
    Context.Outcome { context with firmware := some image } (beginUpgrade env context image) := by
  obtain ⟨hsame, houtcome⟩ := tryUpgrade_outcome env
    (show Context.firmware { context with firmware := some image } = some image from rfl)
  unfold beginUpgrade
  dsimp only
  split
  · refine .ended (hsame.closes ⟨rfl, rfl, rfl, rfl⟩) ?_ rfl
    dsimp only
    split
    · exact sessionTransition_leaves _
    · assumption
  · rename_i hok
    exact houtcome (not_not.mp hok)

/-- The calls of the timer branch leave the images alone; when all succeed, the upgrade
runs. -/
theorem tryRecovery_outcome (env : Env) {context : Context} (h : context.Attached) :
    context.SameImages (tryRecovery env context).2 ∧
      ((tryRecovery env context).1 = Status.ok.code →
        context.Outcome (tryRecovery env context).2) := by
  have hsame : context.SameImages { context with
      upgrade := (upgradeBeginRecovery context.upgrade).2 } :=
    ⟨rfl, rfl, rfl, rfl⟩
  unfold tryRecovery
  dsimp only
  split
  · rename_i hrecovery
    have hruns := upgradeBeginRecovery_state hrecovery
    refine ⟨hsame.trans (queueUpgradeRequest_images env _), ?_⟩
    intro hok
    refine hsame.outcome (Context.Outcome.queued hok (h.session.mpr hruns)
      (h.firmware.mpr hruns) ?_)
    intro image himage
    exact (upgradeBeginRecovery_sameImage _).imageData.trans (h.image image himage)
  · rename_i hrecovery
    refine ⟨hsame, ?_⟩
    intro hok
    exact absurd (Status.code_eq_ok.mp hok) hrecovery

theorem handleTimeout_outcome (env : Env) {context : Context} (h : context.Attached)
    (hactive : upgradeActive context.upgrade = true) :
    context.Outcome (handleTimeout env context).2 := by
  obtain ⟨hsame, houtcome⟩ := tryRecovery_outcome env h
  unfold handleTimeout
  rw [if_pos hactive]
  dsimp only
  split
  · rename_i hok
    exact houtcome hok
  · exact .ended (hsame.closes ⟨rfl, rfl, rfl, rfl⟩) (sessionTransition_leaves _) rfl

/-! ## The device side -/

theorem Context.Consistent.of_same {before after : Context} (h : before.Consistent)
    (hsession : SameRequest before.session after.session)
    (hupgrade : after.upgrade = before.upgrade) (hsame : before.SameImages after) :
    after.Consistent :=
  ⟨h.coupled.of_same hsession hupgrade hsame.firmware, h.balanced.of_same hsame⟩

/-- No upgrade runs, and the session does not begin one. -/
theorem Context.Consistent.of_rest {before after : Context} (h : before.Consistent)
    (htype : before.upgrade.state.requestType = none)
    (hupgrade : after.upgrade.state.requestType = none)
    (hsession : after.session.state = .upgrading → before.session.state = .upgrading)
    (hsame : before.SameImages after) : after.Consistent := by
  obtain ⟨hstate, hfirmware⟩ := h.coupled.rest htype
  refine ⟨.of_rest hupgrade (fun hafter => hstate (hsession hafter)) ?_,
    h.balanced.of_same hsame⟩
  rw [hsame.firmware]
  exact hfirmware

theorem Context.Consistent.outcome {before after : Context} (h : before.Balanced)
    (houtcome : before.Outcome after) : after.Consistent :=
  ⟨houtcome.coupled, h.outcome houtcome⟩

theorem requestType_of_inactive {upgrade : Upgrade} (h : upgradeActive upgrade = false) :
    upgrade.state.requestType = none := by
  by_contra hsome
  rw [← ne_eq, Option.ne_none_iff_isSome] at hsome
  rw [upgradeActive_of_requestType hsome] at h
  cases h

theorem Context.Consistent.recordChange {handled : Int × Context} (h : handled.2.Consistent)
    (before : Context) (cause : ChangeCause) :
    (before.recordChange cause handled).2.Consistent := by
  obtain ⟨changes, hnoted⟩ := recordChange_eq before cause handled
  rw [hnoted]
  exact h.of_same ⟨rfl, rfl, rfl, rfl⟩ rfl ⟨rfl, rfl, rfl, rfl⟩

/-- A client is answered. -/
theorem Context.Consistent.response (env : Env) {context : Context} (h : context.Consistent)
    (index : Slot) (command : UInt8) (status : Int) (payload : List UInt8) :
    (queueClientResponse env context index command status payload).2.Consistent := by
  obtain ⟨bytes, _, hqueued⟩ := queueClientResponse_eq env context index command status payload
  rw [hqueued]
  exact h.of_same ⟨rfl, rfl, rfl, rfl⟩ rfl ⟨rfl, rfl, rfl, rfl⟩

theorem Context.Consistent.deviceFrame {env : Env} {frame : Frame} {context : Context}
    (h : context.Consistent)
    (hok : (observeDeviceFrame env frame context).1 = Status.ok.code) :
    (observeDeviceFrame env frame context).2.Consistent := by
  unfold observeDeviceFrame at hok ⊢
  dsimp only at hok ⊢
  rw [recordChange_result] at hok
  refine Context.Consistent.recordChange ?_ _ _
  have hcase := onDeviceFrame_cases env frame context
  generalize onDeviceFrame env frame context = handled at hcase hok ⊢
  cases hcase with
  | quiet stats telemetry count => exact h.of_same ⟨rfl, rfl, rfl, rfl⟩ rfl ⟨rfl, rfl, rfl, rfl⟩
  | handshake result session hanswers hstate hfree hready =>
    -- The session is not `UPGRADING`, so no upgrade runs; a handshake that is refused ends
    -- the loop.
    have htype : context.upgrade.state.requestType = none := by
      by_contra hsome
      rw [← ne_eq, Option.ne_none_iff_isSome] at hsome
      rw [h.coupled.session.mpr hsome] at hstate
      cases hstate
    refine h.of_rest htype htype ?_ ⟨rfl, rfl, rfl, rfl⟩
    intro hupgrading
    rw [show session.state = .ready from hready hok] at hupgrading
    cases hupgrading
  | upgrade hanswers hstate hactive =>
    have hattached : Context.Attached { context with
        session := context.session.completed frame } :=
      ⟨h.coupled.session, h.coupled.firmware, h.coupled.image⟩
    have hsame : context.SameImages { context with
        session := context.session.completed frame } :=
      ⟨rfl, rfl, rfl, rfl⟩
    exact .outcome h.balanced (hsame.outcome (onUpgradeResponse_outcome hattached hok))
  | client index session status hanswers hstate hinactive hclient hfree hupgrading =>
    have htype := requestType_of_inactive hinactive
    refine Context.Consistent.response env ?_ _ _ _ _
    exact h.of_rest htype htype hupgrading ⟨rfl, rfl, rfl, rfl⟩
  | orphan hanswers hstate hinactive hclient =>
    have htype := requestType_of_inactive hinactive
    exact h.of_rest htype htype id ⟨rfl, rfl, rfl, rfl⟩

theorem Context.Consistent.workerResult (env : Env) {context : Context} (h : context.Consistent) :
    (observeWorkerResult env context).2.Consistent := by
  refine Context.Consistent.recordChange ?_ _ _
  have hcase := takeWorkerResult_cases env context
  generalize takeWorkerResult env context = handled at hcase ⊢
  -- While the image is validated no upgrade runs, so its place in the daemon is free.
  have hrest : context.upgrade.state = .validating →
      context.session.state ≠ .upgrading ∧ context.firmware = none := by
    intro hstate
    refine h.coupled.rest ?_
    rw [hstate]
    rfl
  cases hcase with
  | empty result hresult => exact h
  | stale worker hworker =>
    exact ⟨h.coupled.of_same ⟨rfl, rfl, rfl, rfl⟩ rfl rfl, h.balanced.stale hworker⟩
  | begun worker image hworker hjob hstate himage =>
    have htaken := h.balanced.take (hrest hstate).2 hworker
    rw [himage] at htaken
    exact .outcome htaken (beginUpgrade_outcome env { context with worker := worker } image)
  | refused worker result hworker hjob hstate hrefused =>
    obtain ⟨hsession, hfirmware⟩ := hrest hstate
    have hnone : context.worker.result.image = none := by
      by_contra hsome
      have hvalid := h.balanced.worker.valid
        (Option.ne_none_iff_isSome.mp hsome)
      exact hsome (hrefused hvalid)
    have htaken := h.balanced.take hfirmware hworker
    rw [hnone] at htaken
    refine ⟨.of_rest rfl hsession hfirmware, htaken.of_same ⟨hfirmware, rfl, rfl, rfl⟩⟩

theorem Context.Consistent.timer (env : Env) {context : Context} (h : context.Consistent) :
    (observeTimer env context).2.Consistent := by
  refine Context.Consistent.recordChange ?_ _ _
  have hcase := handleTimer_cases env context
  generalize handleTimer env context = handled at hcase ⊢
  cases hcase with
  | idle => exact h
  | retried => exact h.of_same ⟨rfl, rfl, rfl, rfl⟩ rfl ⟨rfl, rfl, rfl, rfl⟩
  | recovered stats _ _ hupgrade =>
    have hattached : (context.expired stats).Attached :=
      ⟨h.coupled.session, h.coupled.firmware, h.coupled.image⟩
    have hsame : context.SameImages (context.expired stats) := ⟨rfl, rfl, rfl, rfl⟩
    exact .outcome h.balanced (hsame.outcome (handleTimeout_outcome env hattached hupgrade))
  | unclaimed stats _ _ hupgrade =>
    have htype := requestType_of_inactive hupgrade
    exact h.of_rest htype htype id ⟨rfl, rfl, rfl, rfl⟩
  | answered index stats _ _ hupgrade =>
    have htype := requestType_of_inactive hupgrade
    refine Context.Consistent.response env ?_ _ _ _ _
    exact h.of_rest htype htype id ⟨rfl, rfl, rfl, rfl⟩

/-! ## The client side -/

/-- `start_request`: an upgrade is accepted only while none is active, and goes to the
worker. -/
theorem Context.Consistent.start {env : Env} {context : Context} {index : Slot}
    {request : IpcRequest} {handled : Int × Context}
    (hcase : StartCase env context index request handled) (h : context.Consistent) :
    handled.2.Consistent := by
  cases hcase with
  | answered status payload => exact h.response env index _ status payload
  | upgraded upgradeRequest status worker payload hcommand hparse hallowed hsubmit =>
    refine Context.Consistent.response env ?_ _ _ _ _
    obtain ⟨hsession, hfirmware⟩ := h.coupled.rest (requestType_of_inactive hallowed.2.2)
    obtain ⟨hsound, hresult, hmappings⟩ := h.balanced.worker.submit
      (operationAfter context.upgradeOperationId) upgradeRequest.path
    rw [hsubmit] at hsound hresult hmappings
    refine ⟨.of_rest ?_ hsession hfirmware,
      h.balanced.of_worker hsound ?_ hresult hmappings rfl rfl rfl⟩
    · dsimp only
      split <;> rfl
    · rw [hfirmware]
      intro hsome
      cases hsome
  | cancelled session output offset status hfree hcancelled hsession hinactive hidle =>
    have htype := requestType_of_inactive hinactive
    refine Context.Consistent.response env ?_ _ _ _ _
    refine h.of_rest htype htype ?_ ⟨rfl, rfl, rfl, rfl⟩
    intro hupgrading
    exact hsession.symm.trans hupgrading
  | sent session output offset hfree hpending hsession hstate hinactive hidle =>
    have htype := requestType_of_inactive hinactive
    refine h.of_rest htype htype ?_ ⟨rfl, rfl, rfl, rfl⟩
    intro hupgrading
    exact hsession.symm.trans hupgrading

theorem consistent_preservesClient : PreservesClient Context.Consistent where
  setClient _ _ h := h.of_same ⟨rfl, rfl, rfl, rfl⟩ rfl ⟨rfl, rfl, rfl, rfl⟩
  close _ h := h.of_same ⟨rfl, rfl, rfl, rfl⟩ rfl ⟨rfl, rfl, rfl, rfl⟩
  noted _ _ h := h.of_same ⟨rfl, rfl, rfl, rfl⟩ rfl ⟨rfl, rfl, rfl, rfl⟩
  start hcase h := h.start hcase

/-! ## The loop -/

theorem Context.Consistent.admission {context : Context} (h : context.Consistent)
    (epoll : Bool) : (admitClient context epoll).Consistent := by
  obtain ⟨clients, activeClient, hadmitted⟩ := admitClient_eq context epoll
  rw [hadmitted]
  exact h.of_same ⟨rfl, rfl, rfl, rfl⟩ rfl ⟨rfl, rfl, rfl, rfl⟩

/-- The eventfd is read. -/
theorem Context.Consistent.notified {context : Context} (h : context.Consistent)
    {worker : Worker} (hread : workerReadEvent context.worker = some worker) :
    Context.Consistent { context with worker := worker } := by
  obtain ⟨hsound, hresult, hmappings⟩ := h.balanced.worker.readEvent hread
  refine ⟨h.coupled.of_same ⟨rfl, rfl, rfl, rfl⟩ rfl rfl, h.balanced.of_worker hsound ?_ hresult
    hmappings rfl rfl rfl⟩
  intro hsome
  exact (h.balanced.idle hsome).readEvent hread

theorem consistent_preserves : PreservesOk Context.Consistent where
  transport _ _ _ h := h.of_same ⟨rfl, rfl, rfl, rfl⟩ rfl ⟨rfl, rfl, rfl, rfl⟩
  stopped h := h.of_same ⟨rfl, rfl, rfl, rfl⟩ rfl ⟨rfl, rfl, rfl, rfl⟩
  notified hread h := h.notified hread
  thread hstep h := ⟨h.coupled.of_same ⟨rfl, rfl, rfl, rfl⟩ rfl rfl, h.balanced.thread hstep⟩
  admission epoll h := h.admission epoll
  frame _ _ h hok := h.deviceFrame hok
  completion env h _ := h.workerResult env
  timer env h _ := h.timer env

theorem consistent_of_init {context : Context} (h : daemonSystem.init context) :
    context.Consistent := by
  obtain ⟨env, hstart⟩ := h
  obtain ⟨session, output, offset, _, hstate, rfl⟩ := startHandshake_eq hstart
  refine ⟨.of_rest rfl ?_ rfl, ⟨.init, ?_, ?_, List.nodup_nil, .refl _⟩⟩
  · show session.state ≠ .upgrading
    rw [hstate]
    decide
  · intro hsome
    cases hsome
  · intro mapping hmem
    cases hmem

theorem consistent_of_reachable {context : Context} (h : daemonSystem.Reachable context) :
    context.Consistent := by
  refine h.invariant (fun _ => consistent_of_init) ?_
  intro before event after hinv hstep
  refine consistent_preserves.step ?_ hinv hstep
  intro env index clientEvent _ _
  exact consistent_preservesClient.event env hinv index clientEvent

/-- At most one image is open at any time. -/
theorem Context.Balanced.held_length {context : Context} (h : context.Balanced) :
    context.held.length ≤ 1 := by
  have hlength : ∀ image : Option FirmwareImage,
      (image.map FirmwareImage.mapping).toList.length ≤ 1 := by
    intro image
    cases image <;> simp
  unfold Context.held
  cases hfirmware : context.firmware with
  | none => exact hlength _
  | some image =>
    rw [(h.idle (by rw [hfirmware]; rfl)).image h.worker]
    exact hlength (some image)

/-- Between events, for any order of events: the upgrade is in one of the states
`ENTER_BOOTLOADER` to `REBOOT`, the session is `UPGRADING`, and the daemon holds an image, or
none of the three.  When they hold, the upgrade reads the bytes of that image, no client waits,
and the request that `devmgr_upgrade_build_request` issues for the state is pending.  The
images that the worker opened are told apart, each was closed once or is held, and at most
one is. -/
theorem upgrade_consistent {context : Context} (h : daemonSystem.Reachable context) :
    (runsUpgrade context.upgrade.state ↔ context.session.state = .upgrading) ∧
    (context.session.state = .upgrading ↔ context.firmware.isSome = true) ∧
    (∀ image, context.firmware = some image →
      context.upgrade.imageData = image.data ∧
      context.upgrade.imageSize = image.data.length ∧
      context.activeClient = none ∧
      context.session.pending.active = true ∧
      ∃ frame upgrade, upgradeBuildRequest context.upgrade = .ok (frame, upgrade) ∧
        context.session.pending.frame.type = frame.type ∧
        context.session.pending.frame.payload = frame.payload) ∧
    context.history.opened.Nodup ∧
    context.history.opened.Perm (context.history.released ++ context.held) ∧
    context.held.length ≤ 1 := by
  obtain ⟨hcoupled, hbalanced⟩ := consistent_of_reachable h
  refine ⟨?_, ?_, ?_, hbalanced.nodup, hbalanced.ledger, hbalanced.held_length⟩
  · rw [runsUpgrade_iff]
    exact hcoupled.session.symm
  · exact hcoupled.session.trans hcoupled.firmware.symm
  · intro image himage
    have hdata := hcoupled.image image himage
    have hruns : context.upgrade.state.requestType.isSome = true := by
      refine hcoupled.firmware.mp ?_
      rw [himage]
      rfl
    refine ⟨hdata, congrArg List.length hdata, ?_, hcoupled.request hruns⟩
    exact (routed_of_reachable h).inactive_of_upgrade (upgradeActive_of_requestType hruns)

/-- The worker has opened an image of one byte, and the upgrade waits for the response to
`ENTER_BOOTLOADER`. -/
theorem upgrade_consistent_begun :
    ∃ context, daemonSystem.runFrom handshakeContext
        (deviceSends handshakeReply :: upgradeEvents ++ validationEvents) = some context ∧
      context.upgrade.state = .enterBootloader ∧
      context.session.state = .upgrading ∧
      context.history.opened = [0] ∧ context.held = [0] ∧
      (runsUpgrade context.upgrade.state ↔ context.session.state = .upgrading) ∧
      (context.session.state = .upgrading ↔ context.firmware.isSome = true) ∧
      context.history.opened.Perm (context.history.released ++ context.held) := by
  have hrun : ((daemonSystem.runFrom handshakeContext
      (deviceSends handshakeReply :: upgradeEvents ++ validationEvents)).map
        fun context => (context.upgrade.state, context.session.state, context.history.opened,
          context.held)) =
      some (.enterBootloader, .upgrading, [0], [0]) := by
    decide +kernel
  obtain ⟨context, hcontext, hvalues⟩ := Option.map_eq_some_iff.mp hrun
  simp only [Prod.mk.injEq] at hvalues
  obtain ⟨hstate, hsession, hopened, hheld⟩ := hvalues
  obtain ⟨hruns, hfirmware, _, _, hledger, _⟩ :=
    upgrade_consistent (System.Reachable.runFrom handshakeContext_init hcontext)
  exact ⟨context, hcontext, hstate, hsession, hopened, hheld, hruns, hfirmware, hledger⟩

end Daemon
