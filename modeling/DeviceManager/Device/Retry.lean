import DeviceManager.Device.Session
import Mathlib.Data.Nat.ModEq

/-!
# The retry schedule

A request is begun, and then only the clock moves: `tickRun` ticks the session at
any times, with any retransmit callback, and records for every tick what the
callback was called with and what it returned.

`TickRecord.Scheduled` is the schedule that the source means, for a tick before
which the request was sent again `retries` times.  `Session.Retrying` is what the
slot remembers of these; one tick keeps the two together (`sessionTick_scheduled`)
and `tickRun_scheduled` is the same for whole runs.  Nothing here needs the times
to be in order.
-/

namespace Devmgr

/-! ## Deadlines -/

theorem saturatingAdd_toNat (left right : UInt64) :
    (saturatingAdd left right).toNat = min (left.toNat + right.toNat) (2 ^ 64 - 1) := by
  have hleft := left.toNat_lt
  have hright := right.toNat_lt
  have hroom : (0xFFFFFFFFFFFFFFFF - left).toNat = 2 ^ 64 - 1 - left.toNat := by
    rw [UInt64.toNat_sub_of_le _ _ (UInt64.le_iff_toNat_le.mpr (Nat.le_of_lt_succ hleft))]
    rfl
  rw [saturatingAdd]
  split_ifs with hover
  · rw [UInt64.lt_iff_toNat_lt, hroom] at hover
    rw [Nat.min_eq_right (by omega)]
    rfl
  · rw [UInt64.lt_iff_toNat_lt, hroom] at hover
    rw [UInt64.toNat_add, Nat.mod_eq_of_lt (by omega), Nat.min_eq_left (by omega)]

theorem millisecondsToNs_toNat (milliseconds : UInt32) :
    (millisecondsToNs milliseconds).toNat = milliseconds.toNat * 1000000 := by
  have hlt := milliseconds.toNat_lt
  rw [millisecondsToNs, UInt64.toNat_mul, UInt32.toNat_toUInt64,
    show (1000000 : UInt64).toNat = 1000000 from rfl]
  exact Nat.mod_eq_of_lt (by omega)

@[simp] theorem Frame.retried_retried (frame : Frame) : frame.retried.retried = frame.retried := by
  rw [retried, retried, UInt8.or_assoc, UInt8.or_self]

/-! ## Ticks -/

/-- A tick, with every call of the callback: the frame and the result. -/
structure TickRecord where
  nowNs : UInt64
  before : Session
  code : Int
  sent : List (Frame × Int)
  after : Session

/-- The request was sent again. -/
def TickRecord.retransmits (tick : TickRecord) : Bool :=
  tick.sent.any fun call => call.2 = Status.ok.code

/-- The request was given up. -/
def TickRecord.GivesUp (tick : TickRecord) : Prop :=
  tick.code = Status.timeout.code ∧ tick.sent = []

variable {κ : Type}

/-- A callback whose calls are recorded. -/
def noting (retransmit : Frame → κ → Int × κ) (frame : Frame)
    (calls : List (Frame × Int) × κ) : Int × List (Frame × Int) × κ :=
  let sent := retransmit frame calls.2
  (sent.1, calls.1 ++ [(frame, sent.1)], sent.2)

/-- One tick of a session. -/
def tickRecord (retransmit : Frame → κ → Int × κ) (session : Session) (context : κ)
    (nowNs : UInt64) : TickRecord × κ :=
  let ticked := sessionTick session nowNs (noting retransmit) ([], context)
  (⟨nowNs, session, ticked.1, ticked.2.2.1, ticked.2.1⟩, ticked.2.2.2)

/-- Ticks of a session, one after the other. -/
def tickRun (retransmit : Frame → κ → Int × κ) : Session → κ → List UInt64 → List TickRecord
  | _, _, [] => []
  | session, context, nowNs :: times =>
    let ticked := tickRecord retransmit session context nowNs
    ticked.1 :: tickRun retransmit ticked.1.after ticked.2 times

/-- The schedule of a request, at a tick before which it was sent again `retries`
times. -/
structure TickRecord.Scheduled (request : Frame) (policy : RetryPolicy) (retries : Nat)
    (tick : TickRecord) : Prop where
  /-- Before the deadline, or without a request, nothing happens. -/
  idle : ¬ tick.before.Due tick.nowNs →
    tick.code = Status.ok.code ∧ tick.sent = [] ∧ tick.after = tick.before
  /-- The callback gets the request with the retry flag, and its result is that of
  the tick. -/
  sends : tick.before.Due tick.nowNs → retries < policy.maxRetries.toNat →
    tick.sent = [(request.retried, tick.code)] ∧ tick.after.pending.active = true
  /-- A request that was sent again has a new deadline. -/
  sent : tick.before.Due tick.nowNs → retries < policy.maxRetries.toNat →
    tick.code = Status.ok.code →
    tick.after.pending.deadlineNs.toNat =
      min (tick.nowNs.toNat + policy.intervalMs.toNat * 1000000) (2 ^ 64 - 1) ∧
    tick.after.pending.retriesDone = tick.before.pending.retriesDone + 1 ∧
    tick.after.stats.retries = tick.before.stats.retries + 1
  /-- A failed callback counts no retry and keeps the deadline. -/
  failed : tick.before.Due tick.nowNs → retries < policy.maxRetries.toNat →
    tick.code ≠ Status.ok.code →
    tick.after.pending.deadlineNs = tick.before.pending.deadlineNs ∧
    tick.after.pending.retriesDone = tick.before.pending.retriesDone ∧
    tick.after.stats = tick.before.stats
  /-- After all retries the request is given up. -/
  gaveUp : tick.before.Due tick.nowNs → policy.maxRetries.toNat ≤ retries →
    retries = policy.maxRetries.toNat ∧ tick.GivesUp ∧ tick.after.pending.active = false

/-- What the slot knows of a request that was sent again `retries` times. -/
structure Session.Retrying (request : Frame) (policy : RetryPolicy) (retries : Nat)
    (session : Session) : Prop where
  policy_eq : session.pending.policy = policy
  retriesDone : session.pending.retriesDone.toNat = retries
  retries_le : retries ≤ policy.maxRetries.toNat
  frame : session.pending.frame.retried = request.retried

theorem Session.Retrying.begun {session session' : Session} {type flags : UInt8}
    {payload : List UInt8} {policy : RetryPolicy} {nowNs : UInt64} {request : Frame}
    (h : sessionBeginRequest session type flags payload policy nowNs = .ok (request, session')) :
    session'.Retrying request policy 0 ∧ session'.pending.active = true ∧
      session'.pending.deadlineNs = saturatingAdd nowNs (millisecondsToNs policy.timeoutMs) := by
  rw [sessionBeginRequest] at h
  split_ifs at h
  obtain ⟨rfl, rfl⟩ := Prod.mk.inj (Except.ok.inj h)
  exact ⟨⟨rfl, rfl, Nat.zero_le _, rfl⟩, rfl, rfl⟩

section Step

variable {request : Frame} {policy : RetryPolicy} {retries : Nat} {session : Session}
  {nowNs : UInt64} (retransmit : Frame → κ → Int × κ) (context : κ)

/-- What the schedule, the slot and the end of the request say of one tick. -/
def OnSchedule (request : Frame) (policy : RetryPolicy) (retries : Nat) (tick : TickRecord) :
    Prop :=
  tick.Scheduled request policy retries ∧
    tick.after.Retrying request policy (retries + if tick.retransmits then 1 else 0) ∧
    (tick.after.pending.active = false ↔ tick.before.pending.active = false ∨ tick.GivesUp)

/-- A tick that calls the callback leaves the request where it is. -/
theorem TickRecord.active_iff_of_sent {tick : TickRecord}
    (hbefore : tick.before.pending.active = true) (hafter : tick.after.pending.active = true)
    (hsent : tick.sent ≠ []) :
    tick.after.pending.active = false ↔ tick.before.pending.active = false ∨ tick.GivesUp := by
  rw [hbefore, hafter]
  exact ⟨.inl, fun h => h.resolve_right fun hgives => hsent hgives.2⟩

theorem onSchedule_idle (h : session.Retrying request policy retries)
    (hdue : ¬ session.Due nowNs) :
    OnSchedule request policy retries ⟨nowNs, session, Status.ok.code, [], session⟩ := by
  refine ⟨⟨fun _ => ⟨rfl, rfl, rfl⟩, ?_, ?_, ?_, ?_⟩, h, ?_⟩
  · exact fun h => absurd h hdue
  · exact fun h => absurd h hdue
  · exact fun h => absurd h hdue
  · exact fun h => absurd h hdue
  · have hcode : Status.ok.code ≠ Status.timeout.code := by decide
    exact ⟨.inl, fun hfree => hfree.resolve_right fun hgives => hcode hgives.1⟩

theorem onSchedule_timedOut (h : session.Retrying request policy retries)
    (hdue : session.Due nowNs) (hretries : policy.maxRetries.toNat ≤ retries) :
    OnSchedule request policy retries
      ⟨nowNs, session, Status.timeout.code, [], session.timedOut⟩ := by
  have hnone : ¬ retries < policy.maxRetries.toNat := Nat.not_lt.mpr hretries
  refine ⟨⟨fun hidle => absurd hdue hidle, ?_, ?_, ?_, ?_⟩, ?_, ?_⟩
  · exact fun _ hlt => absurd hlt hnone
  · exact fun _ hlt => absurd hlt hnone
  · exact fun _ hlt => absurd hlt hnone
  · exact fun _ _ => ⟨Nat.le_antisymm h.retries_le hretries, ⟨rfl, rfl⟩, rfl⟩
  · exact ⟨h.policy_eq, h.retriesDone, h.retries_le, h.frame⟩
  · exact ⟨fun _ => .inr ⟨rfl, rfl⟩, fun _ => rfl⟩

theorem onSchedule_sent (h : session.Retrying request policy retries)
    (hdue : session.Due nowNs) (hretries : retries < policy.maxRetries.toNat) :
    OnSchedule request policy retries
      ⟨nowNs, session, Status.ok.code, [(request.retried, Status.ok.code)],
        session.resent nowNs⟩ := by
  have hmax := policy.maxRetries.toNat_lt
  refine ⟨⟨fun hidle => absurd hdue hidle, fun _ _ => ⟨rfl, hdue.1⟩, ?_, ?_, ?_⟩, ?_, ?_⟩
  · intro _ _ _
    refine ⟨?_, rfl, rfl⟩
    rw [Session.resent, saturatingAdd_toNat, millisecondsToNs_toNat, h.policy_eq]
  · exact fun _ _ hcode => absurd rfl hcode
  · exact fun _ hle => absurd hretries (Nat.not_lt.mpr hle)
  · refine ⟨h.policy_eq, ?_, hretries, ?_⟩
    · have hcount : (session.pending.retriesDone + 1).toNat = retries + 1 := by
        rw [UInt8.toNat_add, h.retriesDone, UInt8.toNat_one]
        exact Nat.mod_eq_of_lt (by omega)
      exact hcount
    · exact (Frame.retried_retried _).trans h.frame
  · exact TickRecord.active_iff_of_sent hdue.1 hdue.1 (List.cons_ne_nil _ _)

theorem onSchedule_unsent (h : session.Retrying request policy retries)
    (hdue : session.Due nowNs) (hretries : retries < policy.maxRetries.toNat) {code : Int}
    (hcode : code ≠ Status.ok.code) :
    OnSchedule request policy retries
      ⟨nowNs, session, code, [(request.retried, code)], session.unsent⟩ := by
  refine ⟨⟨fun hidle => absurd hdue hidle, fun _ _ => ⟨rfl, hdue.1⟩, ?_, ?_, ?_⟩, ?_, ?_⟩
  · exact fun _ _ hok => absurd hok hcode
  · exact fun _ _ _ => ⟨rfl, rfl, rfl⟩
  · exact fun _ hle => absurd hretries (Nat.not_lt.mpr hle)
  · have hnone : (retries + if (TickRecord.mk nowNs session code [(request.retried, code)]
        session.unsent).retransmits then 1 else 0) = retries := by
      simp [TickRecord.retransmits, hcode]
    rw [hnone]
    exact ⟨h.policy_eq, h.retriesDone, h.retries_le, (Frame.retried_retried _).trans h.frame⟩
  · exact TickRecord.active_iff_of_sent hdue.1 hdue.1 (List.cons_ne_nil _ _)

variable (nowNs)

/-- One tick is on schedule, and the slot knows of it. -/
theorem tickRecord_onSchedule (h : session.Retrying request policy retries) :
    OnSchedule request policy retries (tickRecord retransmit session context nowNs).1 := by
  rw [tickRecord]
  by_cases hdue : session.Due nowNs
  · by_cases hretries : retries < policy.maxRetries.toNat
    · have hlt : session.pending.retriesDone < session.pending.policy.maxRetries := by
        rw [UInt8.lt_iff_toNat_lt, h.policy_eq, h.retriesDone]
        exact hretries
      by_cases hsent : (noting retransmit session.pending.frame.retried ([], context)).1 =
          Status.ok.code
      · have hresult : (retransmit request.retried context).1 = Status.ok.code := by
          rw [← h.frame]
          exact hsent
        rw [sessionTick_of_sent _ _ hdue hlt hsent]
        simp only [noting, List.nil_append, h.frame, hresult]
        exact onSchedule_sent h hdue hretries
      · rw [sessionTick_of_failed _ _ hdue hlt hsent]
        simp only [noting, List.nil_append, h.frame]
        rw [h.frame] at hsent
        exact onSchedule_unsent h hdue hretries hsent
    · have hge : session.pending.policy.maxRetries ≤ session.pending.retriesDone := by
        rw [UInt8.le_iff_toNat_le, h.policy_eq, h.retriesDone]
        exact Nat.le_of_not_lt hretries
      rw [sessionTick_of_exhausted _ _ hdue hge]
      exact onSchedule_timedOut h hdue (Nat.le_of_not_lt hretries)
  · rw [sessionTick_of_not_due _ _ hdue]
    exact onSchedule_idle h hdue

/-- The results in the record are those of the callback. -/
theorem tickRecord_calls (session : Session) :
    ∀ call ∈ (tickRecord retransmit session context nowNs).1.sent,
      call.2 = (retransmit call.1 context).1 := by
  intro call hcall
  rw [tickRecord] at hcall
  rcases sessionTick_cases session nowNs (noting retransmit) ([], context) with
    htick | ⟨_, _, htick⟩ | ⟨_, _, _, _, htick⟩
  · rw [htick] at hcall
    cases hcall
  · rw [htick] at hcall
    cases hcall
  · rw [htick] at hcall
    obtain rfl := List.mem_singleton.mp hcall
    rfl

theorem tickRun_calls (session : Session) (times : List UInt64) :
    ∀ tick ∈ tickRun retransmit session context times, ∀ call ∈ tick.sent,
      ∃ context, call.2 = (retransmit call.1 context).1 := by
  induction times generalizing session context with
  | nil => simp [tickRun]
  | cons nowNs times ih =>
    intro tick htick call hcall
    rcases List.mem_cons.mp htick with rfl | htick
    · exact ⟨context, tickRecord_calls nowNs retransmit context session call hcall⟩
    · exact ih _ _ tick htick call hcall

/-- Every tick of a run is on schedule for the retries before it, and finds the
slot empty only after a tick that gave the request up. -/
theorem tickRun_scheduled (h : session.Retrying request policy retries) (times : List UInt64)
    {i : Nat} {tick : TickRecord}
    (htick : (tickRun retransmit session context times)[i]? = some tick) :
    let earlier := (tickRun retransmit session context times).take i
    tick.Scheduled request policy (retries + earlier.countP TickRecord.retransmits) ∧
      (tick.before.pending.active = false ↔
        session.pending.active = false ∨ ∃ record ∈ earlier, record.GivesUp) := by
  induction times generalizing session context retries i with
  | nil => simp [tickRun] at htick
  | cons nowNs times ih =>
    obtain ⟨hscheduled, hafter, hactive⟩ := tickRecord_onSchedule nowNs retransmit context h
    rw [tickRun] at htick ⊢
    cases i with
    | zero =>
      obtain rfl := Option.some.inj htick
      refine ⟨hscheduled, ?_⟩
      simp [tickRecord]
    | succ i =>
      obtain ⟨hrest, hfree⟩ := ih _ hafter htick
      dsimp only
      rw [List.take_succ_cons, List.countP_cons]
      refine ⟨?_, ?_⟩
      · rw [Nat.add_comm (List.countP _ _), ← Nat.add_assoc]
        exact hrest
      · rw [hfree, hactive, or_assoc]
        simp [tickRecord]

end Step

section Scheduled

variable {request : Frame} {policy : RetryPolicy} {retries : Nat} {tick : TickRecord}

/-- A tick that gives up is one for which all retries are used. -/
theorem TickRecord.Scheduled.of_givesUp (h : tick.Scheduled request policy retries)
    (hgives : tick.GivesUp) :
    retries = policy.maxRetries.toNat ∧ tick.after.pending.active = false := by
  obtain ⟨hcode, hsent⟩ := hgives
  by_cases hdue : tick.before.Due tick.nowNs
  · by_cases hretries : retries < policy.maxRetries.toNat
    · have hcall := (h.sends hdue hretries).1
      rw [hsent] at hcall
      cases hcall
    · obtain ⟨hall, _, hfree⟩ := h.gaveUp hdue (Nat.le_of_not_lt hretries)
      exact ⟨hall, hfree⟩
  · have hok := (h.idle hdue).1
    rw [hcode] at hok
    exact absurd hok (by decide)

/-- The callback is called at most once, and its result is that of the tick. -/
theorem TickRecord.Scheduled.sent_eq (h : tick.Scheduled request policy retries) :
    tick.sent = [] ∨ tick.sent = [(request.retried, tick.code)] := by
  by_cases hdue : tick.before.Due tick.nowNs
  · by_cases hretries : retries < policy.maxRetries.toNat
    · exact .inr (h.sends hdue hretries).1
    · exact .inl (h.gaveUp hdue (Nat.le_of_not_lt hretries)).2.1.2
  · exact .inl (h.idle hdue).2.1

end Scheduled

/-- The retry schedule of every request that was begun, for ticks at any times and
any retransmit callback: every tick is on schedule, the tick that gives the
request up comes after `max_retries` retransmissions, and every later one does
nothing. -/
theorem retry_schedule {session session' : Session} {type flags : UInt8} {payload : List UInt8}
    {policy : RetryPolicy} {nowNs : UInt64} {request : Frame}
    (hbegin : sessionBeginRequest session type flags payload policy nowNs =
      .ok (request, session'))
    (retransmit : Frame → κ → Int × κ) (context : κ) (times : List UInt64) :
    let ticks := tickRun retransmit session' context times
    session'.pending.deadlineNs.toNat =
      min (nowNs.toNat + policy.timeoutMs.toNat * 1000000) (2 ^ 64 - 1) ∧
    ∀ i tick, ticks[i]? = some tick →
      tick.Scheduled request policy ((ticks.take i).countP TickRecord.retransmits) ∧
      -- The slot is empty only after the request was given up.
      (tick.before.pending.active = true ∨ ∃ earlier ∈ ticks.take i, earlier.GivesUp) ∧
      -- A callback that succeeds leaves the code of a timeout to that tick.
      ((∀ frame context, (retransmit frame context).1 = Status.ok.code) →
        tick.code = Status.timeout.code → tick.GivesUp) ∧
      (tick.GivesUp →
        (ticks.take i).countP TickRecord.retransmits = policy.maxRetries.toNat ∧
        tick.after.pending.active = false ∧
        ∀ j later, i < j → ticks[j]? = some later →
          later.before.pending.active = false ∧ later.code = Status.ok.code ∧ later.sent = [] ∧
            later.after = later.before) := by
  intro ticks
  obtain ⟨hretrying, hactive, hdeadline⟩ := Session.Retrying.begun hbegin
  have hrun : ∀ i tick, ticks[i]? = some tick →
      tick.Scheduled request policy ((ticks.take i).countP TickRecord.retransmits) ∧
      (tick.before.pending.active = false ↔ ∃ earlier ∈ ticks.take i, earlier.GivesUp) := by
    intro i tick htick
    have h := tickRun_scheduled retransmit context hretrying times htick
    simpa only [Nat.zero_add, hactive, Bool.true_eq_false, false_or] using h
  refine ⟨by rw [hdeadline, saturatingAdd_toNat, millisecondsToNs_toNat], ?_⟩
  intro i tick htick
  obtain ⟨hscheduled, hfree⟩ := hrun i tick htick
  refine ⟨hscheduled, ?_, ?_, ?_⟩
  · rw [← hfree]
    exact (Bool.eq_false_or_eq_true _)
  · intro hsucceeds hcode
    refine ⟨hcode, hscheduled.sent_eq.resolve_right fun hsent => ?_⟩
    obtain ⟨_, hresult⟩ := tickRun_calls retransmit context session' times tick
      (List.mem_of_getElem? htick) _ (hsent ▸ List.mem_singleton_self _)
    rw [hsucceeds, hcode] at hresult
    have hne : Status.timeout.code ≠ Status.ok.code := by decide
    exact hne hresult
  · intro hgives
    obtain ⟨hretries, hcleared⟩ := hscheduled.of_givesUp hgives
    refine ⟨hretries, hcleared, ?_⟩
    intro j later hij hlater
    obtain ⟨hlaterScheduled, hlaterFree⟩ := hrun j later hlater
    have hearlier : tick ∈ ticks.take j := by
      rw [List.mem_iff_getElem?]
      exact ⟨i, by rw [List.getElem?_take_of_lt hij, htick]⟩
    have hempty := hlaterFree.mpr ⟨tick, hearlier, hgives⟩
    have hidle : ¬ later.before.Due later.nowNs := by
      intro hdue
      rw [hdue.1] at hempty
      cases hempty
    exact ⟨hempty, hlaterScheduled.idle hidle⟩

/-- A ping with one retry, and a tick at its deadline. -/
theorem retry_schedule_ping :
    ∃ request session', sessionBeginRequest sessionInit Msg.ping 0 [] ⟨1, 0, 1⟩ 7 =
      .ok (request, session') ∧
      ∀ tick, (tickRun (fun _ calls => (Status.ok.code, calls + 1)) session' 0
        [1000007])[0]? = some tick → tick.Scheduled request ⟨1, 0, 1⟩ 0 := by
  obtain ⟨request, session', hbegin⟩ : ∃ request session',
      sessionBeginRequest sessionInit Msg.ping 0 [] ⟨1, 0, 1⟩ 7 = .ok (request, session') :=
    ⟨_, _, rfl⟩
  refine ⟨request, session', hbegin, fun tick htick => ?_⟩
  exact ((retry_schedule hbegin _ 0 [1000007]).2 0 tick htick).1

end Devmgr
