import DeviceManager.Worker.Mailbox
import DeviceManager.Daemon.Coupling

/-!
# The daemon as the reactor of the mailbox

The worker of the daemon is the worker of a mailbox.  `Context.Tracked` says so of a
context, and `tracked_of_reachable` follows the loop: a request for an upgrade is a
`devmgr_worker_submit_firmware`, the completion of a job is a read of the eventfd and a
take, and every other handler leaves the worker alone.  So what holds of every mailbox
holds of the daemon, and a notification is never without a result.
-/

namespace Daemon

open Devmgr

/-- A mailbox whose reactor is in its loop has come to the worker of the context. -/
def Context.Tracked (context : Context) : Prop :=
  ∃ m, mailboxSystem.Reachable m ∧ m.reactor = .polling ∧ m.worker = context.worker

theorem Context.Tracked.of_same {before after : Context} (h : before.Tracked)
    (hworker : after.worker = before.worker) : after.Tracked := by
  obtain ⟨m, hm, hreactor, hsame⟩ := h
  exact ⟨m, hm, hreactor, hsame.trans hworker.symm⟩

/-! ## Handlers that leave the worker alone -/

theorem recordChange_worker (before : Context) (cause : ChangeCause) (handled : Int × Context) :
    (before.recordChange cause handled).2.worker = handled.2.worker := by
  obtain ⟨changes, hnoted⟩ := recordChange_eq before cause handled
  rw [hnoted]

theorem queueClientResponse_worker (env : Env) (context : Context) (index : Slot)
    (command : UInt8) (status : Int) (payload : List UInt8) :
    (queueClientResponse env context index command status payload).2.worker =
      context.worker := by
  obtain ⟨bytes, _, hqueued⟩ := queueClientResponse_eq env context index command status payload
  rw [hqueued]
  rfl

theorem onUpgradeResponse_worker (env : Env) (context : Context) (requestType : UInt8)
    (frame : Frame) :
    (onUpgradeResponse env context requestType frame).2.worker = context.worker := by
  unfold onUpgradeResponse
  dsimp only
  split
  · rfl
  split
  · rfl
  · exact (queueUpgradeRequest_spec env _).worker

theorem observeDeviceFrame_worker (env : Env) (frame : Frame) (context : Context) :
    (observeDeviceFrame env frame context).2.worker = context.worker := by
  refine (recordChange_worker _ _ _).trans ?_
  have hcase := onDeviceFrame_cases env frame context
  generalize onDeviceFrame env frame context = handled at hcase ⊢
  cases hcase with
  | quiet stats telemetry count => rfl
  | handshake result session hanswers hstate hfree hready => rfl
  | upgrade hanswers hstate hactive => exact onUpgradeResponse_worker env _ _ _
  | client index session status hanswers hstate hinactive hclient hfree hupgrading =>
    exact queueClientResponse_worker env _ _ _ _ _
  | orphan hanswers hstate hinactive hclient => rfl

theorem tryRecovery_worker (env : Env) (context : Context) :
    (tryRecovery env context).2.worker = context.worker := by
  unfold tryRecovery
  dsimp only
  split
  · exact (queueUpgradeRequest_spec env _).worker
  · rfl

theorem handleTimeout_worker (env : Env) (context : Context) :
    (handleTimeout env context).2.worker = context.worker := by
  unfold handleTimeout
  dsimp only
  split
  · split
    · exact tryRecovery_worker env context
    · exact tryRecovery_worker env context
  · split
    · exact queueClientResponse_worker env _ _ _ _ _
    · rfl

theorem observeTimer_worker (env : Env) (context : Context) :
    (observeTimer env context).2.worker = context.worker := by
  refine (recordChange_worker _ _ _).trans ?_
  unfold handleTimer
  dsimp only
  have hcase := tickSession_cases env context
  generalize tickSession env context = ticked at hcase ⊢
  cases hcase with
  | idle => rfl
  | retried result deadline retries stats output offset hactive hresult =>
    rw [if_neg hresult]
  | expired stats hactive =>
    rw [if_pos rfl]
    exact handleTimeout_worker env _

theorem beginUpgrade_worker (env : Env) (context : Context) (image : FirmwareImage) :
    (beginUpgrade env context image).worker = context.worker := by
  cases beginUpgrade_outcome env context image with
  | running hsame => exact hsame.worker
  | ended hcloses => exact hcloses.worker

/-! ## The steps of the mailbox -/

theorem takeWorkerResult_ok (env : Env) {context : Context}
    (hpending : context.worker.resultPending = true) :
    (takeWorkerResult env context).1 = Status.ok.code := by
  unfold takeWorkerResult
  rw [workerTakeResult, if_neg (not_not.mpr hpending)]
  dsimp only
  split
  · rfl
  · split
    · rfl
    · rfl

/-- A result is taken, whatever it is good for. -/
theorem observeWorkerResult_taken (env : Env) {context : Context}
    (hpending : context.worker.resultPending = true) :
    (observeWorkerResult env context).1 = Status.ok.code ∧
      ∃ result, workerTakeResult context.worker =
        .ok (result, (observeWorkerResult env context).2.worker) := by
  have hok := takeWorkerResult_ok env hpending
  unfold observeWorkerResult
  rw [recordChange_result, recordChange_worker]
  refine ⟨hok, ?_⟩
  have hcase := takeWorkerResult_cases env context
  generalize takeWorkerResult env context = handled at hcase hok ⊢
  cases hcase with
  | empty result hresult => exact absurd hok hresult
  | stale worker hworker => exact ⟨_, hworker⟩
  | begun worker image hworker hjob hstate himage =>
    rw [beginUpgrade_worker]
    exact ⟨_, hworker⟩
  | refused worker result hworker hjob hstate hrefused => exact ⟨_, hworker⟩

/-- A step of the thread is a step of the mailbox, in any file system with that file. -/
theorem Context.Tracked.thread {context : Context} (h : context.Tracked) {file : FileView}
    {worker : Worker} (hstep : workerStep context.worker file = some worker) :
    (context.advanceWorker worker).Tracked := by
  obtain ⟨m, hm, hreactor, hworker⟩ := h
  obtain ⟨done, stage, hat⟩ := mailbox_reachable hm
  obtain ⟨hstop, hexited⟩ := hat.live (.inl hreactor)
  have hthread : ∃ after, m.threadStep (fun _ => file) = some after ∧
      after.reactor = .polling ∧ after.worker = worker := by
    rw [← hworker] at hstep
    rw [Mailbox.threadStep, if_neg (by rw [hexited]; exact Bool.false_ne_true)]
    split
    · rw [if_neg (by rw [hstop]; exact Bool.false_ne_true), hstep]
      exact ⟨_, rfl, hreactor, rfl⟩
    · rw [hstep]
      exact ⟨_, rfl, hreactor, rfl⟩
    · rw [hstep]
      exact ⟨_, rfl, hreactor, rfl⟩
  obtain ⟨after, hafter, hpolling, hsame⟩ := hthread
  exact ⟨after, .step hm trivial (e := .thread fun _ => file) hafter, hpolling, hsame⟩

/-- A request for an upgrade is a job for the mailbox. -/
theorem Context.Tracked.submit {before after : Context} (h : before.Tracked) (jobId : UInt32)
    {capacity : Nat} (path : CString capacity)
    (hworker : after.worker = (workerSubmitFirmware before.worker jobId path).2) :
    after.Tracked := by
  obtain ⟨m, hm, hreactor, hsame⟩ := h
  obtain ⟨done, stage, hat⟩ := mailbox_reachable hm
  have hrunning : ¬ m.stop = true := by
    rw [(hat.live (.inl hreactor)).1]
    exact Bool.false_ne_true
  have hstep : mailboxSystem.step m (.submit jobId path) = some (m.submitFirmware jobId path).2 :=
    if_pos hreactor
  obtain ⟨hsubmitted, hpolling⟩ := Mailbox.submitFirmware_worker hrunning jobId path
  refine ⟨_, .step hm trivial hstep, hpolling.trans hreactor, ?_⟩
  rw [hsubmitted, hsame, hworker]

/-- The completion of a job is a read of the eventfd and a take, and the take succeeds. -/
theorem Context.Tracked.completion {context : Context} (h : context.Tracked) (env : Env)
    {worker : Worker} (hread : workerReadEvent context.worker = some worker) :
    (observeWorkerResult env { context with worker := worker }).1 = Status.ok.code ∧
      (observeWorkerResult env { context with worker := worker }).2.Tracked := by
  obtain ⟨m, hm, hreactor, hsame⟩ := h
  rw [← hsame] at hread
  have hnotified : mailboxSystem.step m .readEvent =
      some { m with worker := worker, reactor := .taking } := by
    show (if _ then (workerReadEvent m.worker).map _ else none) = _
    rw [if_pos hreactor, hread]
    rfl
  have hmiddle : mailboxSystem.Reachable { m with worker := worker, reactor := .taking } :=
    .step hm trivial hnotified
  obtain ⟨done, stage, hat⟩ := mailbox_reachable hmiddle
  obtain ⟨job, rfl⟩ := hat.of_taking rfl
  obtain ⟨hok, result, htake⟩ :=
    @observeWorkerResult_taken env { context with worker := worker } hat.resultPending
  refine ⟨hok, _, .step hmiddle trivial (mailboxStep_take rfl), ?_, ?_⟩
  all_goals
    unfold Mailbox.takeResult
    rw [show workerTakeResult worker = _ from htake]

/-! ## The loop -/

theorem Context.Tracked.start {env : Env} {context : Context} {index : Slot}
    {request : IpcRequest} {handled : Int × Context}
    (hcase : StartCase env context index request handled) (h : context.Tracked) :
    handled.2.Tracked := by
  cases hcase with
  | answered status payload => exact h.of_same (queueClientResponse_worker env _ _ _ _ _)
  | upgraded upgradeRequest status worker payload hcommand hparse hallowed hsubmit =>
    refine h.submit (operationAfter context.upgradeOperationId) upgradeRequest.path ?_
    rw [queueClientResponse_worker, hsubmit]
  | cancelled session output offset status hfree hcancelled hsession hinactive hidle =>
    exact h.of_same (queueClientResponse_worker env _ _ _ _ _)
  | sent session output offset hfree hpending hsession hstate hinactive hidle =>
    exact h.of_same rfl

theorem tracked_preservesClient : PreservesClient Context.Tracked where
  setClient _ _ h := h.of_same rfl
  close _ h := h.of_same rfl
  noted _ _ h := h.of_same rfl
  start hcase h := h.start hcase

theorem tracked_preserves : PreservesRest Context.Tracked where
  transport _ _ _ h := h.of_same rfl
  stopped h := h.of_same rfl
  thread hstep h := h.thread hstep
  admission := by
    intro context epoll h
    obtain ⟨clients, activeClient, hadmitted⟩ := admitClient_eq context epoll
    rw [hadmitted]
    exact h.of_same rfl
  frame env frame h _ := h.of_same (observeDeviceFrame_worker env frame _)
  timer env h _ := h.of_same (observeTimer_worker env _)

theorem tracked_of_reachable {context : Context} (h : daemonSystem.Reachable context) :
    context.Tracked := by
  refine h.invariant ?_ ?_
  · rintro context ⟨env, hstart⟩
    obtain ⟨session, output, offset, _, _, rfl⟩ := startHandshake_eq hstart
    exact ⟨mailboxInit, .init rfl, rfl, rfl⟩
  · intro before event after hinv hstep
    refine tracked_preserves.step ?_ ?_ hinv hstep
    · intro env index clientEvent _ _
      exact tracked_preservesClient.event env hinv index clientEvent
    · intro env worker _ hread _
      exact (hinv.completion env hread).2

/-- The mailbox over all interleavings of the worker thread and the reactor.  At most one of
the three flags is set, and the eventfd is at most 1.  The log is a list of jobs, each
submitted, published once and taken once, with a result under the job's id and from the
job's path, and behind it at most one job that is not taken yet; `Stage.entries` lists the
ways.  A job is accepted only when all jobs before it are taken.  Behind a read of the
eventfd the take succeeds, and what is left at the end is released.  The daemon is such a
reactor, and its completion handler never ends the loop. -/
theorem worker_exactly_once :
    (∀ m, mailboxSystem.Reachable m →
      m.worker.jobPending.toNat + m.worker.jobRunning.toNat + m.worker.resultPending.toNat ≤ 1 ∧
      m.worker.notifications ≤ 1 ∧
      (∃ (done : List Job) (stage : Stage),
        m.log = done.flatMap Job.entries ++ stage.entries ∧
        (m.reactor = .destroyed → m.worker.resultPending = true →
          m.worker.result.image = none ∧ ∃ job, stage = .released job)) ∧
      (∀ {capacity : Nat} (jobId : UInt32) (path : CString capacity),
        (m.submitFirmware jobId path).1 = .ok →
          ∃ done : List Job, m.log = done.flatMap Job.entries) ∧
      (m.reactor = .taking → m.takeResult.1 = .ok)) ∧
    ∀ context, daemonSystem.Reachable context →
      context.Tracked ∧
      ∀ env handled, handleEvent context (.worker env) = some handled →
        handled.1 = Status.ok.code := by
  refine ⟨fun m hm => ?_, fun context hcontext => ?_⟩
  · obtain ⟨done, stage, hat⟩ := mailbox_reachable hm
    refine ⟨?_, ?_, ⟨done, stage, hat.log, hat.of_destroyed⟩, fun jobId path hok => ?_,
      fun htaking => (hat.takeResult htaking).1⟩
    · have hflags := stage.flags_le_one
      rw [← hat.flags] at hflags
      exact hflags
    · rw [hat.notifications]
      exact stage.notifications_le_one
    · exact ⟨done, hat.submit_ok hok⟩
  · have htracked := tracked_of_reachable hcontext
    refine ⟨htracked, fun env handled hhandled => ?_⟩
    obtain ⟨worker, hread, rfl⟩ := Option.map_eq_some_iff.mp hhandled
    exact (htracked.completion env hread).1

/-- One job of the mailbox, up to the read of the eventfd. -/
def oneJob : List MailEvent :=
  [.submit 1 (⟨[0x66], by decide, by simp⟩ : CString 2), .thread fun _ => .missing,
    .thread fun _ => .regular [0xAB], .thread fun _ => .missing, .readEvent]

/-- The take of the one job succeeds, and so does the completion in the daemon. -/
theorem worker_exactly_once_one_job :
    (∃ m, mailboxSystem.runFrom mailboxInit oneJob = some m ∧ m.reactor = .taking ∧
      m.worker.notifications = 0 ∧ m.takeResult.1 = .ok) ∧
    ∃ context, daemonSystem.runFrom handshakeContext
        (deviceSends handshakeReply :: upgradeEvents ++ validationEvents.take 3) = some context ∧
      context.worker.notifications = 1 ∧
      ∃ handled, handleEvent context (.worker calmEnv) = some handled ∧
        handled.1 = Status.ok.code := by
  obtain ⟨hmailbox, hdaemon⟩ := worker_exactly_once
  constructor
  · refine ⟨_, rfl, by decide +kernel, by decide +kernel, ?_⟩
    have hreach : mailboxSystem.Reachable _ := System.Reachable.runFrom (s := mailboxInit) rfl
      (show mailboxSystem.runFrom mailboxInit oneJob = some _ from rfl)
    exact (hmailbox _ hreach).2.2.2.2 (by decide +kernel)
  · have hrun : ((daemonSystem.runFrom handshakeContext
        (deviceSends handshakeReply :: upgradeEvents ++ validationEvents.take 3)).map
          fun context => context.worker.notifications) = some 1 := by
      decide +kernel
    obtain ⟨context, hcontext, hnotified⟩ := Option.map_eq_some_iff.mp hrun
    have hreach : daemonSystem.Reachable context :=
      System.Reachable.runFrom handshakeContext_init hcontext
    have hread : workerReadEvent context.worker =
        some { context.worker with notifications := 0 } := by
      rw [workerReadEvent, if_neg (by rw [hnotified]; decide)]
    have hhandled : handleEvent context (.worker calmEnv) = some (observeWorkerResult calmEnv
        { context with worker := { context.worker with notifications := 0 } }) := by
      show (workerReadEvent context.worker).map _ = _
      rw [hread]
      rfl
    exact ⟨context, hcontext, hnotified, _, hhandled, (hdaemon context hreach).2 _ _ hhandled⟩

end Daemon
