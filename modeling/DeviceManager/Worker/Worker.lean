import DeviceManager.Upgrade.Firmware

/-!
# The validation worker of `src/worker/worker.c`

A thread that opens firmware images for the reactor.  Every section under the
mutex is one atomic step, and so are the write of the thread to the eventfd and
the read of the reactor from it.  `thread` is where the worker thread stands
between its sections.

`devmgr_worker_init` and `devmgr_worker_destroy` bracket the life of the daemon;
in between the worker is initialised and `stop` is false.
-/

namespace Devmgr

/-- `DEVMGR_WORKER_PATH_MAX`. -/
def workerPathMax : Nat := 4096

/-- `struct devmgr_validation_result`; the image is there when the status is
`DEVMGR_OK`. -/
structure ValidationResult where
  jobId : UInt32
  status : Status
  image : Option FirmwareImage
  deriving DecidableEq

/-- Where the worker thread stands: before the wait for a job, in
`devmgr_firmware_open`, or before the write to the eventfd. -/
inductive WorkerThread
  | waiting
  | opening (jobId : UInt32)
  | notifying
  deriving DecidableEq

/-- `struct devmgr_worker`, with the value of the eventfd.  `mappings` counts the
images opened so far. -/
structure Worker where
  jobPending : Bool
  jobRunning : Bool
  resultPending : Bool
  jobId : UInt32
  jobPath : CString workerPathMax
  result : ValidationResult
  thread : WorkerThread
  notifications : Nat
  mappings : Nat
  deriving DecidableEq

/-- `devmgr_worker_init`. -/
def workerInit : Worker where
  jobPending := false
  jobRunning := false
  resultPending := false
  jobId := 0
  jobPath := .empty
  result := ⟨0, .ok, none⟩
  thread := .waiting
  notifications := 0
  mappings := 0

/-- `devmgr_worker_submit_firmware`. -/
def workerSubmitFirmware {capacity : Nat} (worker : Worker) (jobId : UInt32)
    (path : CString capacity) : Status × Worker :=
  if jobId = 0 then (.invalid, worker)
  else if h : path.bytes.length = 0 ∨ path.bytes.length ≥ workerPathMax then (.limit, worker)
  else if worker.jobPending ∨ worker.jobRunning ∨ worker.resultPending then (.busy, worker)
  else
    (.ok, { worker with
      jobPath := ⟨path.bytes, by omega, path.nonzero⟩
      jobId := jobId
      jobPending := true })

/-- `devmgr_worker_take_result`. -/
def workerTakeResult (worker : Worker) : Except Status (ValidationResult × Worker) :=
  if ¬ worker.resultPending then .error .notFound
  else
    .ok (worker.result,
      { worker with
        result := { worker.result with image := none }
        resultPending := false })

/-- The next atomic step of `worker_main`; `file` is what the file system answers
if the step opens the image. -/
def workerStep (worker : Worker) (file : FileView) : Option Worker :=
  match worker.thread with
  | .waiting =>
    if worker.jobPending then
      some { worker with
        thread := .opening worker.jobId
        jobPending := false
        jobRunning := true }
    else none
  | .opening jobId =>
    let opened := firmwareOpen file worker.mappings
    let result : ValidationResult :=
      match opened with
      | .ok image => ⟨jobId, .ok, some image⟩
      | .error status => ⟨jobId, status, none⟩
    some { worker with
      thread := .notifying
      result := result
      jobRunning := false
      resultPending := true
      mappings := worker.mappings + 1 }
  | .notifying =>
    some { worker with
      thread := .waiting
      notifications := worker.notifications + 1 }

/-- The reactor's `read` from the eventfd, which resets it. -/
def workerReadEvent (worker : Worker) : Option Worker :=
  if worker.notifications = 0 then none else some { worker with notifications := 0 }

/-! ## One image at a time -/

/-- A job is submitted, running, or has a result to be taken, and never two of these; an
image that is not taken yet was opened. -/
structure Worker.Sound (worker : Worker) : Prop where
  pending : worker.jobPending = true →
    worker.jobRunning = false ∧ worker.resultPending = false
  running : worker.jobRunning = true →
    worker.jobPending = false ∧ worker.resultPending = false
  opening : ∀ jobId, worker.thread = .opening jobId → worker.jobRunning = true
  taken : worker.resultPending = false → worker.result.image = none
  valid : worker.result.image.isSome = true → worker.result.status = .ok

/-- No job is with the worker, and no result is left. -/
def Worker.Idle (worker : Worker) : Prop :=
  worker.jobPending = false ∧ worker.jobRunning = false ∧ worker.resultPending = false

theorem Worker.Sound.init : workerInit.Sound := by
  refine ⟨?_, ?_, ?_, fun _ => rfl, ?_⟩
  · intro h
    cases h
  · intro h
    cases h
  · intro _ h
    cases h
  · intro h
    cases h

/-- A job is submitted only to an idle worker. -/
theorem Worker.Sound.submit {worker : Worker} (h : worker.Sound) {capacity : Nat}
    (jobId : UInt32) (path : CString capacity) :
    (workerSubmitFirmware worker jobId path).2.Sound ∧
      (workerSubmitFirmware worker jobId path).2.result = worker.result ∧
      (workerSubmitFirmware worker jobId path).2.mappings = worker.mappings := by
  unfold workerSubmitFirmware
  split_ifs with hid hpath hbusy
  · exact ⟨h, rfl, rfl⟩
  · exact ⟨h, rfl, rfl⟩
  · exact ⟨h, rfl, rfl⟩
  · simp only [not_or, Bool.not_eq_true] at hbusy
    obtain ⟨_, hrunning, hresult⟩ := hbusy
    refine ⟨⟨fun _ => ⟨hrunning, hresult⟩, ?_, h.opening, h.taken, h.valid⟩, rfl, rfl⟩
    intro hjob
    exact absurd (hrunning.symm.trans hjob) Bool.false_ne_true

/-- A result is taken with its image, and the worker has nothing else to do. -/
theorem Worker.Sound.take {worker worker' : Worker} (h : worker.Sound)
    {validation : ValidationResult}
    (htake : workerTakeResult worker = .ok (validation, worker')) :
    worker'.Sound ∧ worker'.Idle ∧ worker'.mappings = worker.mappings := by
  unfold workerTakeResult at htake
  split at htake
  · cases htake
  rename_i hpending
  rw [not_not] at hpending
  obtain ⟨_, rfl⟩ := Prod.mk.inj (Except.ok.inj htake)
  refine ⟨⟨?_, ?_, h.opening, fun _ => rfl, ?_⟩, ⟨?_, ?_, rfl⟩, rfl⟩
  · exact fun hjob => ⟨(h.pending hjob).1, rfl⟩
  · exact fun hjob => ⟨(h.running hjob).1, rfl⟩
  · intro hsome
    cases hsome
  · by_contra hjob
    rw [Bool.not_eq_false] at hjob
    rw [(h.pending hjob).2] at hpending
    cases hpending
  · by_contra hjob
    rw [Bool.not_eq_false] at hjob
    rw [(h.running hjob).2] at hpending
    cases hpending

theorem Worker.Sound.readEvent {worker worker' : Worker} (h : worker.Sound)
    (hread : workerReadEvent worker = some worker') :
    worker'.Sound ∧ worker'.result = worker.result ∧ worker'.mappings = worker.mappings := by
  unfold workerReadEvent at hread
  split at hread
  · cases hread
  · obtain rfl := Option.some.inj hread
    exact ⟨⟨h.pending, h.running, h.opening, h.taken, h.valid⟩, rfl, rfl⟩

/-- A step of the thread opens an image where no image waits, with a mapping of its own, or
leaves the result alone. -/
theorem Worker.Sound.step {worker worker' : Worker} (h : worker.Sound) {file : FileView}
    (hstep : workerStep worker file = some worker') :
    worker'.Sound ∧
      ((∃ jobId, worker.thread = .opening jobId) ∧ worker.result.image = none ∧
          worker'.mappings = worker.mappings + 1 ∧
          (∀ image, worker'.result.image = some image → image.mapping = worker.mappings) ∨
        (∀ jobId, worker.thread ≠ .opening jobId) ∧ worker'.result = worker.result ∧
          worker'.mappings = worker.mappings) := by
  unfold workerStep at hstep
  split at hstep
  · rename_i hthread
    split at hstep
    · rename_i hpending
      obtain rfl := Option.some.inj hstep
      obtain ⟨_, hresult⟩ := h.pending hpending
      refine ⟨⟨?_, fun _ => ⟨rfl, hresult⟩, fun _ _ => rfl, h.taken, h.valid⟩,
        .inr ⟨?_, rfl, rfl⟩⟩
      · intro hjob
        cases hjob
      · intro jobId hopening
        rw [hthread] at hopening
        cases hopening
    · cases hstep
  · rename_i jobId hthread
    obtain rfl := Option.some.inj hstep
    obtain ⟨hjob, hresult⟩ := h.running (h.opening jobId hthread)
    refine ⟨⟨?_, ?_, ?_, ?_, ?_⟩, .inl ⟨⟨jobId, hthread⟩, h.taken hresult, rfl, ?_⟩⟩
    · intro hpending
      rw [hjob] at hpending
      cases hpending
    · intro hrunning
      cases hrunning
    · intro _ hopening
      cases hopening
    · intro hpending
      cases hpending
    · dsimp only
      split
      · exact fun _ => rfl
      · intro hsome
        cases hsome
    · intro image himage
      dsimp only at himage
      split at himage
      · rename_i opened hopened
        obtain rfl := Option.some.inj himage
        exact firmwareOpen_mapping hopened
      · cases himage
  · rename_i hthread
    obtain rfl := Option.some.inj hstep
    refine ⟨⟨h.pending, h.running, ?_, h.taken, h.valid⟩, .inr ⟨?_, rfl, rfl⟩⟩
    · intro _ hopening
      cases hopening
    · intro jobId hopening
      rw [hthread] at hopening
      cases hopening

theorem Worker.Idle.image {worker : Worker} (hidle : worker.Idle) (h : worker.Sound) :
    worker.result.image = none :=
  h.taken hidle.2.2

theorem Worker.Idle.readEvent {worker worker' : Worker} (hidle : worker.Idle)
    (hread : workerReadEvent worker = some worker') : worker'.Idle := by
  unfold workerReadEvent at hread
  split at hread
  · cases hread
  · obtain rfl := Option.some.inj hread
    exact hidle

/-- The thread of an idle worker has nothing to open. -/
theorem Worker.Idle.step {worker worker' : Worker} (hidle : worker.Idle) (h : worker.Sound)
    {file : FileView} (hstep : workerStep worker file = some worker') : worker'.Idle := by
  obtain ⟨hpending, hrunning, hresult⟩ := hidle
  unfold workerStep at hstep
  split at hstep
  · rw [if_neg (by simp [hpending])] at hstep
    cases hstep
  · rename_i jobId hthread
    rw [h.opening jobId hthread] at hrunning
    cases hrunning
  · obtain rfl := Option.some.inj hstep
    exact ⟨hpending, hrunning, hresult⟩

end Devmgr
