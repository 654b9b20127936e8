import DeviceManager.Lib.Transition
import DeviceManager.Worker.Worker

/-!
# The mailbox between the reactor and the worker

The worker thread and the reactor share one slot for a job and one for its result.  Every
section under the mutex, the write to the eventfd and the read from it are atomic steps, and
`mailboxSystem` has all their interleavings.  The reactor takes a result only behind a read
of the eventfd, as `handle_worker_completion` does, and it ends with
`devmgr_worker_destroy`, whose join waits for the thread.

The log has what the two sides exchange.  `Stage` is the abstract mailbox: one job goes
around a cycle of six stages, and each stage says where the thread stands, which flag is set
and what the eventfd holds.  `Mailbox.At` relates the mailbox to a stage;
`mailbox_reachable` is the refinement, one lemma per step.
-/

namespace Devmgr

/-! ## The steps -/

/-- Where the reactor stands: in its loop, between the read of the eventfd and
`devmgr_worker_take_result`, in the join of `devmgr_worker_destroy`, or behind it. -/
inductive ReactorPoint
  | polling
  | taking
  | joining
  | destroyed
  deriving DecidableEq

/-- What the log notes: a job that was accepted, a result with the file system that the
thread found, a result that was handed out, and one that was released. -/
inductive MailEntry
  | submitted (jobId : UInt32) (path : List UInt8)
  | published (files : List UInt8 → FileView) (result : ValidationResult)
  | taken (result : ValidationResult)
  | released (result : ValidationResult)

/-- The worker with what its life needs: the copy of the path on the stack of `worker_main`,
`stop`, and whether the thread has returned. -/
structure Mailbox where
  worker : Worker
  path : CString workerPathMax
  stop : Bool
  exited : Bool
  reactor : ReactorPoint
  log : List MailEntry

/-- `devmgr_worker_init`. -/
def mailboxInit : Mailbox where
  worker := workerInit
  path := .empty
  stop := false
  exited := false
  reactor := .polling
  log := []

/-- `devmgr_worker_submit_firmware`, which also refuses a job behind `stop`. -/
def Mailbox.submitFirmware {capacity : Nat} (m : Mailbox) (jobId : UInt32)
    (path : CString capacity) : Status × Mailbox :=
  let submitted := workerSubmitFirmware m.worker jobId path
  if submitted.1 ≠ .ok then (submitted.1, m)
  else if m.stop then (.busy, m)
  else (.ok, { m with
    worker := submitted.2
    log := m.log ++ [.submitted jobId path.bytes] })

/-- `devmgr_worker_take_result`. -/
def Mailbox.takeResult (m : Mailbox) : Status × Mailbox :=
  match workerTakeResult m.worker with
  | .error status => (status, { m with reactor := .polling })
  | .ok (result, worker) =>
    (.ok, { m with
      worker := worker
      reactor := .polling
      log := m.log ++ [.taken result] })

/-- The next atomic step of `worker_main`; `files` is the file system. -/
def Mailbox.threadStep (m : Mailbox) (files : List UInt8 → FileView) : Option Mailbox :=
  if m.exited then none
  else
    match m.worker.thread with
    | .waiting =>
      -- the condition of the wait: `stop` goes before a job
      if m.stop then some { m with exited := true }
      else (workerStep m.worker (files m.path.bytes)).map fun worker =>
        { m with worker := worker, path := m.worker.jobPath }
    | .opening _ =>
      (workerStep m.worker (files m.path.bytes)).map fun worker =>
        { m with
          worker := worker
          log := m.log ++ [.published files worker.result] }
    | .notifying =>
      (workerStep m.worker (files m.path.bytes)).map fun worker => { m with worker := worker }

/-- `devmgr_worker_destroy`, behind the join. -/
def Mailbox.release (m : Mailbox) : Mailbox :=
  if m.worker.resultPending then
    { m with
      worker := { m.worker with result := { m.worker.result with image := none } }
      reactor := .destroyed
      log := m.log ++ [.released m.worker.result] }
  else { m with reactor := .destroyed }

/-- A step of the reactor or of the thread. -/
inductive MailEvent
  | submit {capacity : Nat} (jobId : UInt32) (path : CString capacity)
  | readEvent
  | take
  | stop
  | join
  | thread (files : List UInt8 → FileView)

def mailboxStep (m : Mailbox) : MailEvent → Option Mailbox
  | .submit jobId path =>
    if m.reactor = .polling then some (m.submitFirmware jobId path).2 else none
  | .readEvent =>
    if m.reactor = .polling then
      (workerReadEvent m.worker).map fun worker =>
        { m with worker := worker, reactor := .taking }
    else none
  | .take => if m.reactor = .taking then some m.takeResult.2 else none
  | .stop =>
    if m.reactor = .polling then some { m with stop := true, reactor := .joining } else none
  | .join => if m.reactor = .joining ∧ m.exited = true then some m.release else none
  | .thread files => m.threadStep files

def mailboxSystem : System Mailbox MailEvent where
  init m := m = mailboxInit
  step := mailboxStep

theorem mailboxStep_take {m : Mailbox} (h : m.reactor = .taking) :
    mailboxSystem.step m .take = some m.takeResult.2 :=
  if_pos h

/-! ## The stages of a job -/

/-- What the thread makes of a job, as `worker_main` fills it in. -/
def validate (jobId : UInt32) (file : FileView) (mapping : Nat) : ValidationResult :=
  match firmwareOpen file mapping with
  | .ok image => ⟨jobId, .ok, some image⟩
  | .error status => ⟨jobId, status, none⟩

/-- A job with the file system that its thread found. -/
structure Job where
  jobId : UInt32
  path : List UInt8
  files : List UInt8 → FileView
  mapping : Nat

/-- The outcome of the job's own path, under the job's id. -/
def Job.result (job : Job) : ValidationResult :=
  validate job.jobId (job.files job.path) job.mapping

/-- One result for the job. -/
def Job.published (job : Job) : List MailEntry :=
  [.submitted job.jobId job.path, .published job.files job.result]

/-- The job, its result, and the one take of it. -/
def Job.entries (job : Job) : List MailEntry :=
  job.published ++ [.taken job.result]

/-- Where the job stands that is with the worker. -/
inductive Stage
  | idle
  | pending (jobId : UInt32) (path : List UInt8)
  | running (jobId : UInt32) (path : List UInt8)
  | published (job : Job)
  | notified (job : Job)
  | read (job : Job)
  | released (job : Job)

/-- `job_pending`, `job_running` and `result_pending`. -/
def Worker.flags (worker : Worker) : Bool × Bool × Bool :=
  (worker.jobPending, worker.jobRunning, worker.resultPending)

def Stage.flags : Stage → Bool × Bool × Bool
  | .idle => (false, false, false)
  | .pending _ _ => (true, false, false)
  | .running _ _ => (false, true, false)
  | .published _ | .notified _ | .read _ | .released _ => (false, false, true)

def Stage.thread : Stage → WorkerThread
  | .running jobId _ => .opening jobId
  | .published _ => .notifying
  | .idle | .pending _ _ | .notified _ | .read _ | .released _ => .waiting

/-- The value of the eventfd. -/
def Stage.notifications : Stage → Nat
  | .notified _ | .released _ => 1
  | .idle | .pending _ _ | .running _ _ | .published _ | .read _ => 0

/-- What the log has of the job. -/
def Stage.entries : Stage → List MailEntry
  | .idle => []
  | .pending jobId path | .running jobId path => [.submitted jobId path]
  | .published job | .notified job | .read job => job.published
  | .released job => job.published ++ [.released job.result]

/-- The reactor is where the stage has it. -/
def Stage.admits : Stage → ReactorPoint → Prop
  | .read _, reactor => reactor = .taking
  | .released _, reactor => reactor = .destroyed
  | .notified _, reactor => reactor ≠ .taking ∧ reactor ≠ .destroyed
  | .idle, reactor | .pending _ _, reactor | .running _ _, reactor | .published _, reactor =>
    reactor ≠ .taking

/-- The job in the slots is the one of the stage. -/
def Stage.Holds (m : Mailbox) : Stage → Prop
  | .idle => True
  | .pending jobId path => m.worker.jobId = jobId ∧ m.worker.jobPath.bytes = path
  | .running _ path => m.path.bytes = path
  | .published job | .notified job | .read job =>
    m.worker.result = job.result
  | .released _ => m.worker.result.image = none

/-- The mailbox behind the jobs `done`, with the current job at a stage. -/
structure Mailbox.At (m : Mailbox) (done : List Job) (stage : Stage) : Prop where
  flags : m.worker.flags = stage.flags
  thread : m.worker.thread = stage.thread
  notifications : m.worker.notifications = stage.notifications
  holds : stage.Holds m
  reactor : stage.admits m.reactor
  log : m.log = done.flatMap Job.entries ++ stage.entries
  live : m.reactor = .polling ∨ m.reactor = .taking → m.stop = false ∧ m.exited = false
  exited : m.exited = true → m.worker.thread = .waiting
  destroyed : m.reactor = .destroyed → m.exited = true

/-! ## One step -/

theorem workerSubmitFirmware_cases (worker : Worker) (jobId : UInt32) {capacity : Nat}
    (path : CString capacity) :
    ((workerSubmitFirmware worker jobId path).1 ≠ .ok ∧
        (workerSubmitFirmware worker jobId path).2 = worker) ∨
      worker.flags = (false, false, false) ∧ ∃ jobPath : CString workerPathMax,
        jobPath.bytes = path.bytes ∧ workerSubmitFirmware worker jobId path =
          (.ok, { worker with jobPath := jobPath, jobId := jobId, jobPending := true }) := by
  unfold workerSubmitFirmware
  split_ifs with hid hpath hbusy
  · exact .inl ⟨Status.noConfusion, rfl⟩
  · exact .inl ⟨Status.noConfusion, rfl⟩
  · exact .inl ⟨Status.noConfusion, rfl⟩
  · simp only [not_or, Bool.not_eq_true] at hbusy
    obtain ⟨hpending, hrunning, hresult⟩ := hbusy
    refine .inr ⟨?_, _, rfl, rfl⟩
    rw [Worker.flags, hpending, hrunning, hresult]

/-- Before `stop`, the mailbox does what the worker does. -/
theorem Mailbox.submitFirmware_worker {m : Mailbox} (hstop : ¬ m.stop = true) (jobId : UInt32)
    {capacity : Nat} (path : CString capacity) :
    (m.submitFirmware jobId path).2.worker = (workerSubmitFirmware m.worker jobId path).2 ∧
      (m.submitFirmware jobId path).2.reactor = m.reactor := by
  unfold Mailbox.submitFirmware
  obtain ⟨hrefused, hkept⟩ | ⟨_, jobPath, _, hsubmit⟩ :=
    workerSubmitFirmware_cases m.worker jobId path
  · dsimp only
    rw [if_pos hrefused, hkept]
    exact ⟨rfl, rfl⟩
  · rw [hsubmit]
    dsimp only
    rw [if_neg (not_not.mpr rfl), if_neg hstop]
    exact ⟨rfl, rfl⟩

section Steps

variable {m : Mailbox} {done : List Job} {stage : Stage}

/-- A flag tells the stages apart. -/
theorem Mailbox.At.resultPending (h : m.At done stage) :
    m.worker.resultPending = stage.flags.2.2 :=
  congrArg (fun flags => flags.2.2) h.flags

theorem Mailbox.At.init : mailboxInit.At [] .idle where
  flags := rfl
  thread := rfl
  notifications := rfl
  holds := trivial
  reactor := ReactorPoint.noConfusion
  log := rfl
  live _ := ⟨rfl, rfl⟩
  exited h := by cases h
  destroyed h := by cases h

/-- A job is accepted only from a mailbox that is idle. -/
theorem Mailbox.At.submitFirmware (h : m.At done stage) (hreactor : m.reactor = .polling)
    {capacity : Nat} (jobId : UInt32) (path : CString capacity) :
    ∃ stage, (m.submitFirmware jobId path).2.At done stage := by
  unfold Mailbox.submitFirmware
  dsimp only
  split
  · exact ⟨stage, h⟩
  rename_i hok
  rw [if_neg (by rw [(h.live (.inl hreactor)).1]; exact Bool.false_ne_true)]
  obtain ⟨hrefused, _⟩ | ⟨hidle, jobPath, hpath, hsubmit⟩ :=
    workerSubmitFirmware_cases m.worker jobId path
  · exact absurd hrefused hok
  rw [hsubmit]
  obtain rfl : stage = .idle := by
    have hflags := h.flags.symm.trans hidle
    cases stage with
    | idle => rfl
    | _ => cases hflags
  refine ⟨.pending jobId path.bytes, ?_, h.thread, h.notifications, ⟨rfl, hpath⟩, h.reactor, ?_,
    h.live, h.exited, h.destroyed⟩
  · exact congrArg (fun flags => (true, flags.2)) hidle
  · show m.log ++ _ = _
    rw [h.log]
    exact congrArg (· ++ _) (List.append_nil _)

/-- The eventfd is ready only for a result that nobody has read of. -/
theorem Mailbox.At.readEvent (h : m.At done stage) (hreactor : m.reactor = .polling)
    {worker : Worker} (hread : workerReadEvent m.worker = some worker) :
    ∃ stage, Mailbox.At { m with worker := worker, reactor := .taking } done stage := by
  unfold workerReadEvent at hread
  split at hread
  · cases hread
  rename_i hsome
  obtain rfl := Option.some.inj hread
  rw [h.notifications] at hsome
  have hadmits := h.reactor
  rw [hreactor] at hadmits
  cases stage with
  | notified job =>
    exact ⟨.read job, h.flags, h.thread, rfl, h.holds, rfl, h.log,
      fun _ => h.live (.inl hreactor), h.exited, fun hdestroyed => by cases hdestroyed⟩
  | released => cases hadmits
  | _ => exact absurd rfl hsome

/-- Behind a read of the eventfd there is a result. -/
theorem Mailbox.At.of_taking (h : m.At done stage) (hreactor : m.reactor = .taking) :
    ∃ job, stage = .read job := by
  have hadmits := h.reactor
  rw [hreactor] at hadmits
  cases stage with
  | read job => exact ⟨job, rfl⟩
  | released => cases hadmits
  | notified => exact absurd rfl hadmits.1
  | _ => exact absurd rfl hadmits

/-- The result is taken, and the cycle is closed. -/
theorem Mailbox.At.takeResult (h : m.At done stage) (hreactor : m.reactor = .taking) :
    m.takeResult.1 = .ok ∧ ∃ done, m.takeResult.2.At done .idle := by
  obtain ⟨job, rfl⟩ := h.of_taking hreactor
  have hpending : m.worker.resultPending = true := h.resultPending
  have hresult : m.worker.result = job.result := h.holds
  have hlive := h.live (.inr hreactor)
  unfold Mailbox.takeResult
  rw [workerTakeResult, if_neg (not_not.mpr hpending)]
  refine ⟨rfl, done ++ [job], ?_, h.thread, h.notifications, trivial,
    ReactorPoint.noConfusion, ?_, fun _ => hlive, h.exited, fun hdestroyed => by cases hdestroyed⟩
  · have hflags := h.flags
    simp only [Worker.flags, Stage.flags, Prod.mk.injEq] at hflags ⊢
    exact ⟨hflags.1, hflags.2.1, trivial⟩
  · show m.log ++ _ = _
    rw [h.log, hresult, List.flatMap_append, List.flatMap_singleton, Job.entries,
      List.append_assoc, Stage.entries, Stage.entries, List.append_nil]

theorem Stage.eq_running {jobId : UInt32} (h : stage.thread = .opening jobId) :
    ∃ path, stage = .running jobId path := by
  cases stage with
  | running _ path =>
    obtain rfl := WorkerThread.opening.inj h
    exact ⟨path, rfl⟩
  | _ => cases h

theorem Stage.eq_published (h : stage.thread = .notifying) :
    ∃ job, stage = .published job := by
  cases stage with
  | published job => exact ⟨job, rfl⟩
  | _ => cases h

theorem Stage.eq_pending (h : stage.flags.1 = true) :
    ∃ jobId path, stage = .pending jobId path := by
  cases stage with
  | pending jobId path => exact ⟨jobId, path, rfl⟩
  | _ => cases h

/-- The thread takes the job and a copy of its path. -/
theorem Mailbox.At.accept (h : m.At done stage) (hrunning : ¬ m.exited = true)
    (hthread : m.worker.thread = .waiting) {file : FileView} {worker : Worker}
    (hstep : workerStep m.worker file = some worker) :
    ∃ stage, Mailbox.At { m with worker := worker, path := m.worker.jobPath } done stage := by
  rw [workerStep, hthread] at hstep
  obtain ⟨hpending, hworker⟩ := Option.ite_none_right_eq_some.mp hstep
  obtain rfl := Option.some.inj hworker
  obtain ⟨jobId, path, rfl⟩ :=
    Stage.eq_pending ((congrArg Prod.fst h.flags).symm.trans hpending)
  obtain ⟨hid, hpath⟩ := h.holds
  refine ⟨.running jobId path, ?_, congrArg WorkerThread.opening hid, h.notifications, hpath,
    h.reactor, h.log, h.live, fun hexited => absurd hexited hrunning, h.destroyed⟩
  exact congrArg (fun flags => (false, true, flags.2.2)) h.flags

/-- The result is the outcome of the path that came with the job. -/
theorem Mailbox.At.publish (h : m.At done stage) (hrunning : ¬ m.exited = true) {jobId : UInt32}
    (hthread : m.worker.thread = .opening jobId) {files : List UInt8 → FileView}
    {worker : Worker} (hstep : workerStep m.worker (files m.path.bytes) = some worker) :
    ∃ stage, Mailbox.At { m with
      worker := worker
      log := m.log ++ [.published files worker.result] } done stage := by
  rw [workerStep, hthread] at hstep
  obtain rfl := Option.some.inj hstep
  obtain ⟨path, rfl⟩ := Stage.eq_running (h.thread.symm.trans hthread)
  obtain rfl : m.path.bytes = path := h.holds
  refine ⟨.published ⟨jobId, m.path.bytes, files, m.worker.mappings⟩, ?_, rfl, h.notifications,
    rfl, h.reactor, ?_, h.live, fun hexited => absurd hexited hrunning, h.destroyed⟩
  · exact congrArg (fun flags => (flags.1, false, true)) h.flags
  · show m.log ++ _ = _
    rw [h.log, List.append_assoc]
    rfl

/-- One notification for the result. -/
theorem Mailbox.At.notify (h : m.At done stage) (hrunning : ¬ m.exited = true)
    (hthread : m.worker.thread = .notifying) {file : FileView} {worker : Worker}
    (hstep : workerStep m.worker file = some worker) :
    ∃ stage, Mailbox.At { m with worker := worker } done stage := by
  rw [workerStep, hthread] at hstep
  obtain rfl := Option.some.inj hstep
  obtain ⟨job, rfl⟩ := Stage.eq_published (h.thread.symm.trans hthread)
  refine ⟨.notified job, h.flags, rfl, congrArg (· + 1) h.notifications, h.holds,
    ⟨h.reactor, fun hdestroyed => hrunning (h.destroyed hdestroyed)⟩, h.log, h.live,
    fun hexited => absurd hexited hrunning, h.destroyed⟩

/-- A step of the thread takes the job, publishes its result or writes to the eventfd. -/
theorem Mailbox.At.threadStep (h : m.At done stage) {files : List UInt8 → FileView}
    {after : Mailbox} (hstep : m.threadStep files = some after) : ∃ stage, after.At done stage := by
  unfold Mailbox.threadStep at hstep
  split at hstep
  · cases hstep
  rename_i hrunning
  split at hstep
  · rename_i hthread
    split at hstep
    · rename_i hstop
      obtain rfl := Option.some.inj hstep
      refine ⟨stage, h.flags, h.thread, h.notifications, ?_, h.reactor, h.log, ?_,
        fun _ => hthread, fun _ => rfl⟩
      · exact h.holds
      · intro hlive
        rw [(h.live hlive).1] at hstop
        cases hstop
    · obtain ⟨worker, hworker, rfl⟩ := Option.map_eq_some_iff.mp hstep
      exact h.accept hrunning hthread hworker
  · rename_i hthread
    obtain ⟨worker, hworker, rfl⟩ := Option.map_eq_some_iff.mp hstep
    exact h.publish hrunning hthread hworker
  · rename_i hthread
    obtain ⟨worker, hworker, rfl⟩ := Option.map_eq_some_iff.mp hstep
    exact h.notify hrunning hthread hworker

theorem Mailbox.At.stop (h : m.At done stage) (hreactor : m.reactor = .polling) :
    ∃ stage, Mailbox.At { m with stop := true, reactor := .joining } done stage := by
  have hadmits : stage.admits .joining := by
    have hpolling := h.reactor
    rw [hreactor] at hpolling
    cases stage with
    | read => cases hpolling
    | released => cases hpolling
    | notified => exact ⟨ReactorPoint.noConfusion, ReactorPoint.noConfusion⟩
    | _ => exact ReactorPoint.noConfusion
  refine ⟨stage, h.flags, h.thread, h.notifications, ?_, hadmits, h.log, ?_, h.exited, ?_⟩
  · exact h.holds
  · rintro (hlive | hlive)
    all_goals cases hlive
  · intro hdestroyed
    cases hdestroyed

/-- The result that is left behind the join is released. -/
theorem Mailbox.At.release (h : m.At done stage) (hreactor : m.reactor = .joining)
    (hexited : m.exited = true) : ∃ stage, m.release.At done stage := by
  have hthread := h.thread.symm.trans (h.exited hexited)
  have hadmits := h.reactor
  rw [hreactor] at hadmits
  have hlive : ReactorPoint.destroyed = .polling ∨ ReactorPoint.destroyed = .taking →
      m.stop = false ∧ m.exited = false := by
    rintro (hlive | hlive)
    all_goals cases hlive
  unfold Mailbox.release
  rw [h.resultPending]
  cases stage with
  | idle =>
    exact ⟨.idle, h.flags, h.thread, h.notifications, trivial, ReactorPoint.noConfusion, h.log,
      hlive, h.exited, fun _ => hexited⟩
  | pending jobId path =>
    exact ⟨.pending jobId path, h.flags, h.thread, h.notifications, h.holds,
      ReactorPoint.noConfusion, h.log, hlive, h.exited, fun _ => hexited⟩
  | notified job =>
    refine ⟨.released job, h.flags, h.thread, h.notifications, rfl, rfl, ?_, hlive, h.exited,
      fun _ => hexited⟩
    have hresult : m.worker.result = job.result := h.holds
    show m.log ++ _ = _
    rw [h.log, hresult, List.append_assoc]
    rfl
  | running => cases hthread
  | published => cases hthread
  | read => cases hadmits
  | released => cases hadmits

/-! ## What a stage says -/

theorem Stage.flags_le_one (stage : Stage) :
    stage.flags.1.toNat + stage.flags.2.1.toNat + stage.flags.2.2.toNat ≤ 1 := by
  cases stage <;> exact Nat.le_of_ble_eq_true rfl

theorem Stage.notifications_le_one (stage : Stage) : stage.notifications ≤ 1 := by
  cases stage <;> exact Nat.le_of_ble_eq_true rfl

/-- A job is accepted only behind the take of the one before. -/
theorem Mailbox.At.submit_ok (h : m.At done stage) {capacity : Nat} {jobId : UInt32}
    {path : CString capacity} (hok : (m.submitFirmware jobId path).1 = .ok) :
    m.log = done.flatMap Job.entries := by
  have hidle : m.worker.flags = (false, false, false) := by
    obtain ⟨hrefused, _⟩ | ⟨hidle, _⟩ := workerSubmitFirmware_cases m.worker jobId path
    · unfold Mailbox.submitFirmware at hok
      dsimp only at hok
      rw [if_pos hrefused] at hok
      exact absurd hok hrefused
    · exact hidle
  have hflags := h.flags.symm.trans hidle
  cases stage with
  | idle => exact h.log.trans (List.append_nil _)
  | _ => cases hflags

/-- A result that is left at the end was released. -/
theorem Mailbox.At.of_destroyed (h : m.At done stage) (hdestroyed : m.reactor = .destroyed)
    (hpending : m.worker.resultPending = true) :
    m.worker.result.image = none ∧ ∃ job, stage = .released job := by
  have hthread := h.thread.symm.trans (h.exited (h.destroyed hdestroyed))
  have hadmits := h.reactor
  rw [hdestroyed] at hadmits
  rw [h.resultPending] at hpending
  cases stage with
  | released job => exact ⟨h.holds, job, rfl⟩
  | notified => exact absurd rfl hadmits.2
  | read => cases hadmits
  | published => cases hthread
  | _ => cases hpending

end Steps

/-- The mailbox is at a stage of the cycle after every step. -/
theorem mailbox_reachable {m : Mailbox} (h : mailboxSystem.Reachable m) :
    ∃ done stage, m.At done stage := by
  refine @System.Reachable.invariant _ _ _ (fun m => ∃ done stage, m.At done stage) ?_ ?_ _ h
  · rintro m rfl
    exact ⟨[], .idle, .init⟩
  · rintro m event after ⟨done, stage, hat⟩ hstep
    change mailboxStep m event = some after at hstep
    cases event with
    | submit jobId path =>
      obtain ⟨hreactor, hafter⟩ := Option.ite_none_right_eq_some.mp hstep
      obtain rfl := Option.some.inj hafter
      exact ⟨done, hat.submitFirmware hreactor jobId path⟩
    | readEvent =>
      obtain ⟨hreactor, hread⟩ := Option.ite_none_right_eq_some.mp hstep
      obtain ⟨worker, hworker, rfl⟩ := Option.map_eq_some_iff.mp hread
      exact ⟨done, hat.readEvent hreactor hworker⟩
    | take =>
      obtain ⟨hreactor, hafter⟩ := Option.ite_none_right_eq_some.mp hstep
      obtain rfl := Option.some.inj hafter
      obtain ⟨_, done, hidle⟩ := hat.takeResult hreactor
      exact ⟨done, .idle, hidle⟩
    | stop =>
      obtain ⟨hreactor, hafter⟩ := Option.ite_none_right_eq_some.mp hstep
      obtain rfl := Option.some.inj hafter
      exact ⟨done, hat.stop hreactor⟩
    | join =>
      obtain ⟨⟨hreactor, hexited⟩, hafter⟩ := Option.ite_none_right_eq_some.mp hstep
      obtain rfl := Option.some.inj hafter
      exact ⟨done, hat.release hreactor hexited⟩
    | thread files => exact ⟨done, hat.threadStep hstep⟩

end Devmgr
