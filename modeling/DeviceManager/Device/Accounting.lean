import DeviceManager.Device.Lifecycle

/-!
# The counters of a session

`SessionLedger` is a run of `Device.Lifecycle` with three more records: how often
a pending request was dropped by a cancellation or a lost transport, what the
retransmit callback returned at each of its calls, and how many responses were
offered.  `SessionLedger.Balanced` says that the counters of the session agree
with them, modulo `2 ^ 64`: every request has ended in exactly one way or is
pending, and every response has moved exactly one counter.
-/

namespace Devmgr

structure SessionLedger where
  run : SessionRun
  dropped : Nat
  callbacks : List Int
  offered : Nat

def SessionLedger.init : SessionLedger := ⟨.init, 0, [], 0⟩

/-- The operation drops a request that is pending. -/
def SessionOp.drops : SessionOp → Bool
  | .cancelRequest => true
  | .transition event => event = .transportLost ∨ event = .fail
  | _ => false

/-- One operation. -/
def SessionLedger.step (ledger : SessionLedger) (op : SessionOp) : SessionLedger where
  run := ledger.run.step op
  dropped :=
    if op.drops ∧ ledger.run.session.pending.active then ledger.dropped + 1 else ledger.dropped
  callbacks :=
    match op with
    | .tick nowNs retransmit =>
      (sessionTick ledger.run.session nowNs
        (fun _ results => (retransmit, results ++ [retransmit])) ledger.callbacks).2.2
    | _ => ledger.callbacks
  offered :=
    match op with
    | .acceptResponse _ => ledger.offered + 1
    | _ => ledger.offered

/-- The ledger of a list of operations. -/
def sessionLedger (ops : List SessionOp) : SessionLedger :=
  ops.foldl SessionLedger.step .init

/-- One for a request that is pending. -/
def PendingRequest.count (pending : PendingRequest) : UInt64 :=
  if pending.active then 1 else 0

/-- The counters of a session against the records of its run. -/
structure SessionLedger.Balanced (ledger : SessionLedger) : Prop where
  requests : ledger.run.session.stats.requests =
    ledger.run.session.stats.responses + ledger.run.session.stats.timeouts +
      ledger.dropped.toUInt64 + ledger.run.session.pending.count
  retriesDone : ledger.run.session.pending.retriesDone ≤
    ledger.run.session.pending.policy.maxRetries
  retries : ledger.run.session.stats.retries =
    (ledger.callbacks.count Status.ok.code).toUInt64
  offered : ledger.offered.toUInt64 =
    ledger.run.session.stats.responses + ledger.run.session.stats.duplicateResponses +
      ledger.run.session.stats.unexpectedResponses + ledger.run.session.stats.sequenceMismatches

theorem SessionLedger.init_balanced : SessionLedger.init.Balanced where
  requests := rfl
  retriesDone := by decide
  retries := rfl
  offered := rfl

/-! ## What each function counts -/

/-- A response moves one of four counters, and ends the request if it is the first
of them. -/
theorem sessionAcceptResponse_counts (session : Session) (response : Frame) :
    let after := (sessionAcceptResponse session response).2
    after.stats.responses + after.pending.count =
        session.stats.responses + session.pending.count ∧
      after.stats.responses + after.stats.duplicateResponses + after.stats.unexpectedResponses +
        after.stats.sequenceMismatches =
        session.stats.responses + session.stats.duplicateResponses +
          session.stats.unexpectedResponses + session.stats.sequenceMismatches + 1 ∧
      after.stats.requests = session.stats.requests ∧
      after.stats.timeouts = session.stats.timeouts ∧
      after.stats.retries = session.stats.retries ∧
      after.pending.retriesDone = session.pending.retriesDone ∧
      after.pending.policy = session.pending.policy := by
  unfold sessionAcceptResponse
  dsimp only
  split_ifs with hactive hmismatch hflag htype hduplicate
  · refine ⟨rfl, ?_, rfl, rfl, rfl, rfl, rfl⟩
    dsimp only
    grind
  · refine ⟨rfl, ?_, rfl, rfl, rfl, rfl, rfl⟩
    dsimp only
    grind
  · refine ⟨rfl, ?_, rfl, rfl, rfl, rfl, rfl⟩
    dsimp only
    grind
  · refine ⟨?_, ?_, rfl, rfl, rfl, rfl, rfl⟩
    · simp [PendingRequest.count, hactive]
    · dsimp only
      grind
  · refine ⟨rfl, ?_, rfl, rfl, rfl, rfl, rfl⟩
    dsimp only
    grind
  · refine ⟨rfl, ?_, rfl, rfl, rfl, rfl, rfl⟩
    dsimp only
    grind

theorem toUInt64_succ (n : Nat) : (n + 1).toUInt64 = n.toUInt64 + 1 :=
  UInt64.ofNat_add n 1

/-- The session after a tick depends on the code of the callback only. -/
theorem sessionTick_session {κ κ' : Type} (session : Session) (nowNs : UInt64)
    {retransmit : Frame → κ → Int × κ} {retransmit' : Frame → κ' → Int × κ'} {context : κ}
    {context' : κ'} (h : ∀ frame, (retransmit frame context).1 = (retransmit' frame context').1) :
    (sessionTick session nowNs retransmit context).2.1 =
      (sessionTick session nowNs retransmit' context').2.1 := by
  simp only [sessionTick, h]
  split_ifs
  all_goals rfl

/-- What a tick counts: nothing, a timeout that ends the request, or a retry. -/
theorem sessionTick_counts {session : Session}
    (hle : session.pending.retriesDone ≤ session.pending.policy.maxRetries) (nowNs : UInt64)
    (code : Int) (results : List Int) :
    let ticked := sessionTick session nowNs
      (fun _ results => (code, results ++ [code])) results
    let after := ticked.2.1
    after.stats.timeouts + after.pending.count =
        session.stats.timeouts + session.pending.count ∧
      after.stats.retries + (results.count Status.ok.code).toUInt64 =
        session.stats.retries + (ticked.2.2.count Status.ok.code).toUInt64 ∧
      after.pending.retriesDone ≤ after.pending.policy.maxRetries ∧
      after.stats.requests = session.stats.requests ∧
      after.stats.responses = session.stats.responses ∧
      after.stats.duplicateResponses = session.stats.duplicateResponses ∧
      after.stats.unexpectedResponses = session.stats.unexpectedResponses ∧
      after.stats.sequenceMismatches = session.stats.sequenceMismatches := by
  by_cases hdue : session.Due nowNs
  · rcases UInt8.lt_or_le session.pending.retriesDone session.pending.policy.maxRetries with
      hretries | hretries
    · by_cases hsent : code = Status.ok.code
      · rw [sessionTick_of_sent _ _ hdue hretries hsent]
        refine ⟨rfl, ?_, ?_, rfl, rfl, rfl, rfl, rfl⟩
        · rw [List.count_append, hsent, List.count_singleton_self, toUInt64_succ]
          dsimp only [Session.resent]
          grind
        · have hmax := session.pending.policy.maxRetries.toNat_lt
          rw [UInt8.lt_iff_toNat_lt] at hretries
          rw [UInt8.le_iff_toNat_le, Session.resent, UInt8.toNat_add, UInt8.toNat_one]
          dsimp only
          omega
      · rw [sessionTick_of_failed _ _ hdue hretries hsent]
        refine ⟨rfl, ?_, hle, rfl, rfl, rfl, rfl, rfl⟩
        simp [Session.unsent, List.count_append, hsent]
    · rw [sessionTick_of_exhausted _ _ hdue hretries]
      refine ⟨?_, rfl, hle, rfl, rfl, rfl, rfl, rfl⟩
      simp [Session.timedOut, PendingRequest.count, hdue.1]
  · rw [sessionTick_of_not_due _ _ hdue]
    exact ⟨rfl, rfl, hle, rfl, rfl, rfl, rfl, rfl⟩

/-- Dropping a request moves it from the slot to the record. -/
theorem dropped_count (pending : PendingRequest) (dropped : Nat) :
    (if pending.active then dropped + 1 else dropped).toUInt64 =
      dropped.toUInt64 + pending.count := by
  rw [PendingRequest.count]
  split
  · exact toUInt64_succ dropped
  · exact (UInt64.add_zero _).symm

/-! ## Runs -/

namespace SessionLedger.Balanced

variable {ledger : SessionLedger}

theorem beginRequest (h : ledger.Balanced) (type flags : UInt8) (payload : List UInt8)
    (policy : RetryPolicy) (nowNs : UInt64) :
    (ledger.step (.beginRequest type flags payload policy nowNs)).Balanced := by
  rcases hbegin : sessionBeginRequest ledger.run.session type flags payload policy nowNs with
    error | ⟨request, session⟩
  · have hrun : ledger.run.step (.beginRequest type flags payload policy nowNs) = ledger.run := by
      rw [SessionRun.step, hbegin]
    have hstep : ledger.step (.beginRequest type flags payload policy nowNs) =
        { ledger with run := ledger.run.step (.beginRequest type flags payload policy nowNs) } :=
      rfl
    rwa [hstep, hrun]
  · have hrun : (ledger.run.step (.beginRequest type flags payload policy nowNs)).session =
        session := by
      rw [SessionRun.step, hbegin]
    rw [sessionBeginRequest] at hbegin
    split_ifs at hbegin with _ hbusy
    obtain ⟨_, rfl⟩ := Prod.mk.inj (Except.ok.inj hbegin)
    have hrequests := h.requests
    rw [PendingRequest.count, if_neg hbusy] at hrequests
    refine ⟨?_, ?_, ?_, ?_⟩
    · simp only [step, hrun, SessionOp.drops, PendingRequest.count]
      simp only [Bool.false_eq_true, false_and, if_false, if_true]
      grind
    · simp only [step, hrun]
      exact UInt8.zero_le
    · simp only [step, hrun]
      exact h.retries
    · simp only [step, hrun]
      exact h.offered

theorem acceptResponse (h : ledger.Balanced) (response : Frame) :
    (ledger.step (.acceptResponse response)).Balanced := by
  obtain ⟨hended, hmoved, hrequests, htimeouts, hretries, hdone, hpolicy⟩ :=
    sessionAcceptResponse_counts ledger.run.session response
  have hbalance := h.requests
  have hoffered := h.offered
  refine ⟨?_, ?_, ?_, ?_⟩
  · simp only [step, SessionRun.step, SessionOp.drops, Bool.false_eq_true, false_and, if_false]
    grind
  · simp only [step, SessionRun.step, hdone, hpolicy]
    exact h.retriesDone
  · simp only [step, SessionRun.step, hretries]
    exact h.retries
  · simp only [step, SessionRun.step, toUInt64_succ]
    grind

theorem tick (h : ledger.Balanced) (nowNs : UInt64) (code : Int) :
    (ledger.step (.tick nowNs code)).Balanced := by
  obtain ⟨hended, hcalls, hle, hrequests, hresponses, hduplicate, hunexpected, hmismatch⟩ :=
    sessionTick_counts h.retriesDone nowNs code ledger.callbacks
  have hsession : (ledger.run.step (.tick nowNs code)).session =
      (sessionTick ledger.run.session nowNs
        (fun _ results => (code, results ++ [code])) ledger.callbacks).2.1 :=
    sessionTick_session _ _ fun _ => rfl
  rw [← hsession] at hended hcalls hle hrequests hresponses hduplicate hunexpected hmismatch
  have hbalance := h.requests
  have hretries := h.retries
  have hoffered := h.offered
  refine ⟨?_, hle, ?_, ?_⟩
  · simp only [step, SessionOp.drops, Bool.false_eq_true, false_and, if_false]
    grind
  · simp only [step]
    grind
  · simp only [step]
    grind

/-- An operation that moves no counter and leaves the request alone. -/
theorem keep (h : ledger.Balanced) {run : SessionRun}
    (hstats : run.session.stats = ledger.run.session.stats)
    (hpending : run.session.pending = ledger.run.session.pending) :
    ({ ledger with run := run } : SessionLedger).Balanced := by
  refine ⟨?_, ?_, ?_, ?_⟩
  · simp only [hstats, hpending]
    exact h.requests
  · simp only [hpending]
    exact h.retriesDone
  · simp only [hstats]
    exact h.retries
  · simp only [hstats]
    exact h.offered

/-- An operation that drops the request. -/
theorem drop (h : ledger.Balanced) {run : SessionRun}
    (hstats : run.session.stats = ledger.run.session.stats)
    (hpending : run.session.pending = { ledger.run.session.pending with active := false }) :
    ({ ledger with
      run := run
      dropped := if ledger.run.session.pending.active then ledger.dropped + 1
        else ledger.dropped } : SessionLedger).Balanced := by
  have hbalance := h.requests
  have hdropped := dropped_count ledger.run.session.pending ledger.dropped
  have hfree : run.session.pending.count = 0 := by simp [PendingRequest.count, hpending]
  refine ⟨?_, ?_, ?_, ?_⟩
  · simp only [hstats, hfree]
    grind
  · simp only [hpending]
    exact h.retriesDone
  · simp only [hstats]
    exact h.retries
  · simp only [hstats]
    exact h.offered

theorem transition (h : ledger.Balanced) (event : SessionEvent) :
    (ledger.step (.transition event)).Balanced := by
  by_cases hlost : event = .transportLost ∨ event = .fail
  · have hsession : (ledger.run.step (.transition event)).session =
        sessionCancelRequest { ledger.run.session with state := .disconnected } := by
      rw [SessionRun.step, sessionTransition, if_pos hlost]
    have hstats : (ledger.run.step (.transition event)).session.stats =
        ledger.run.session.stats := by
      rw [hsession]
      rfl
    have hdrop := h.drop hstats (by rw [hsession]; rfl)
    simpa [step, SessionOp.drops, hlost] using hdrop
  · have hsession : (ledger.run.step (.transition event)).session.stats =
          ledger.run.session.stats ∧
        (ledger.run.step (.transition event)).session.pending = ledger.run.session.pending := by
      rw [SessionRun.step, sessionTransition, if_neg hlost]
      split
      · exact ⟨rfl, rfl⟩
      · exact ⟨rfl, rfl⟩
    have hkeep := h.keep hsession.1 hsession.2
    simpa [step, SessionOp.drops, hlost] using hkeep

theorem step (h : ledger.Balanced) (op : SessionOp) : (ledger.step op).Balanced := by
  cases op with
  | beginRequest type flags payload policy nowNs => exact h.beginRequest _ _ _ _ _
  | acceptResponse response => exact h.acceptResponse response
  | tick nowNs code => exact h.tick nowNs code
  | cancelRequest =>
    have hstats : (ledger.run.step .cancelRequest).session.stats = ledger.run.session.stats := rfl
    have hdrop := h.drop hstats rfl
    simpa [SessionLedger.step, SessionOp.drops] using hdrop
  | transition event => exact h.transition event

end SessionLedger.Balanced

theorem sessionLedger_balanced (ops : List SessionOp) : (sessionLedger ops).Balanced :=
  List.foldlRecOn ops _ SessionLedger.init_balanced fun _ h op _ => h.step op

/-- The ledger follows the run. -/
theorem sessionLedger_run (ops : List SessionOp) : (sessionLedger ops).run = sessionRun ops := by
  have hfold : ∀ ledger : SessionLedger,
      (ops.foldl SessionLedger.step ledger).run = ops.foldl SessionRun.step ledger.run := by
    induction ops with
    | nil => exact fun _ => rfl
    | cons op ops ih => exact fun ledger => ih (ledger.step op)
  exact hfold .init

/-- The accounts of every run of session operations. -/
theorem session_accounts (ops : List SessionOp) :
    let session := (sessionRun ops).session
    let ledger := sessionLedger ops
    session.stats.requests =
        session.stats.responses + session.stats.timeouts + ledger.dropped.toUInt64 +
          (if session.pending.active then 1 else 0) ∧
      session.pending.retriesDone ≤ session.pending.policy.maxRetries ∧
      session.stats.retries = (ledger.callbacks.count Status.ok.code).toUInt64 ∧
      ledger.offered.toUInt64 =
        session.stats.responses + session.stats.duplicateResponses +
          session.stats.unexpectedResponses + session.stats.sequenceMismatches := by
  have h := sessionLedger_balanced ops
  rw [← sessionLedger_run]
  exact ⟨h.requests, h.retriesDone, h.retries, h.offered⟩

end Devmgr
