import DeviceManager.Device.Session

/-!
# Runs of a session

Any sequence of session operations from `devmgr_session_init`, with a record of
what the session handed out and took back: the requests that were begun, oldest
first, and the responses that were taken, each with the number of the request
that it completed.

`SessionRun.Inv` ties the two together.  The requests carry the successive
values of a counter that skips zero, the slot holds the newest request, and a
request that was completed is not in the slot.  `sessionRun_no_stale_response`
is what follows for whole runs.
-/

namespace Devmgr

/-- The operations of `include/devmgr/session.h`.  A tick carries the code that
the retransmit callback would return. -/
inductive SessionOp
  | beginRequest (type flags : UInt8) (payload : List UInt8) (policy : RetryPolicy)
      (nowNs : UInt64)
  | acceptResponse (response : Frame)
  | tick (nowNs : UInt64) (retransmit : Int)
  | cancelRequest
  | transition (event : SessionEvent)

/-- A session and what it has handed out and taken back. -/
structure SessionRun where
  session : Session
  begun : List Frame
  completions : List (Nat × Frame)

def SessionRun.init : SessionRun := ⟨sessionInit, [], []⟩

/-- One operation.  The request that a response completes is the newest one:
`SessionRun.Inv.slot` shows that this is the one in the slot. -/
def SessionRun.step (run : SessionRun) : SessionOp → SessionRun
  | .beginRequest type flags payload policy nowNs =>
    match sessionBeginRequest run.session type flags payload policy nowNs with
    | .error _ => run
    | .ok (request, session) => { run with session := session, begun := run.begun ++ [request] }
  | .acceptResponse response =>
    let accepted := sessionAcceptResponse run.session response
    { run with
      session := accepted.2
      completions :=
        if accepted.1 = .ok then run.completions ++ [(run.begun.length - 1, response)]
        else run.completions }
  | .tick nowNs retransmit =>
    { run with
      session := (sessionTick run.session nowNs (fun _ context => (retransmit, context)) ()).2.1 }
  | .cancelRequest => { run with session := sessionCancelRequest run.session }
  | .transition event => { run with session := (sessionTransition run.session event).2 }

/-- The run of a list of operations. -/
def sessionRun (ops : List SessionOp) : SessionRun :=
  ops.foldl SessionRun.step .init

/-- The sequence of the `k`-th request. -/
def sequenceAt (k : Nat) : Nat := SkipZero.iter (2 ^ 32) k 1

structure SessionRun.Inv (run : SessionRun) : Prop where
  next : run.session.nextSequence.toNat = sequenceAt run.begun.length
  sequences : ∀ k request, run.begun[k]? = some request →
    request.sequence.toNat = sequenceAt k
  /-- The slot holds the newest request, which is not completed. -/
  slot : run.session.pending.active = true →
    (∃ request, run.begun[run.begun.length - 1]? = some request ∧
      run.session.pending.frame.sequence = request.sequence ∧
      run.session.pending.frame.type = request.type) ∧
    ∀ completion ∈ run.completions, completion.1 + 1 < run.begun.length
  completed : ∀ completion ∈ run.completions,
    ∃ request, run.begun[completion.1]? = some request ∧
      completion.2.sequence = request.sequence
  nodup : (run.completions.map Prod.fst).Nodup

theorem SessionRun.init_inv : SessionRun.init.Inv where
  next := rfl
  sequences := by simp [init]
  slot := by simp [init, sessionInit]
  completed := by simp [init]
  nodup := by simp [init]

/-- An operation that begins and completes nothing keeps the invariant if it
leaves the counter and the request alone and does not fill the slot. -/
theorem SessionRun.Inv.of_session {run : SessionRun} (h : run.Inv) {session : Session}
    (hnext : session.nextSequence = run.session.nextSequence)
    (hslot : session.pending.active = true → run.session.pending.active = true ∧
      session.pending.frame.sequence = run.session.pending.frame.sequence ∧
      session.pending.frame.type = run.session.pending.frame.type) :
    ({ run with session := session } : SessionRun).Inv where
  next := by
    rw [hnext]
    exact h.next
  sequences := h.sequences
  slot := by
    intro hactive
    obtain ⟨hold, hsequence, htype⟩ := hslot hactive
    obtain ⟨⟨request, hnewest, hseq, hty⟩, hfresh⟩ := h.slot hold
    exact ⟨⟨request, hnewest, hsequence.trans hseq, htype.trans hty⟩, hfresh⟩
  completed := h.completed
  nodup := h.nodup

theorem SessionRun.Inv.beginRequest {run : SessionRun} (h : run.Inv) {type flags : UInt8}
    {payload : List UInt8} {policy : RetryPolicy} {nowNs : UInt64} {request : Frame}
    {session : Session}
    (hbegin : sessionBeginRequest run.session type flags payload policy nowNs =
      .ok (request, session)) :
    ({ run with session := session, begun := run.begun ++ [request] } : SessionRun).Inv := by
  obtain ⟨_, _, _, hsequence, _, hnext, hframe, _⟩ := sessionBeginRequest_eq_ok hbegin
  have hold : ∀ completion ∈ run.completions, completion.1 < run.begun.length := by
    intro completion hmem
    obtain ⟨_, hrequest, _⟩ := h.completed completion hmem
    exact (List.getElem?_eq_some_iff.mp hrequest).1
  refine ⟨?_, ?_, ?_, ?_, h.nodup⟩
  · rw [hnext, sequenceAfter_toNat, h.next, List.length_append, List.length_singleton]
    rfl
  · intro k other hother
    rcases Nat.lt_or_ge k run.begun.length with hk | hk
    · rw [List.getElem?_append_left hk] at hother
      exact h.sequences k other hother
    · -- Behind the old requests there is only the new one.
      obtain ⟨hlt, _⟩ := List.getElem?_eq_some_iff.mp hother
      rw [List.length_append, List.length_singleton] at hlt
      obtain rfl : k = run.begun.length := by omega
      rw [List.getElem?_concat_length] at hother
      rw [← Option.some.inj hother, hsequence, h.next]
  · intro _
    refine ⟨⟨request, ?_, by rw [hframe], by rw [hframe]⟩, ?_⟩
    · rw [List.length_append, List.length_singleton, Nat.add_sub_cancel,
        List.getElem?_concat_length]
    · intro completion hmem
      have := hold completion hmem
      rw [List.length_append, List.length_singleton]
      omega
  · intro completion hmem
    obtain ⟨other, hother, hseq⟩ := h.completed completion hmem
    exact ⟨other, by rw [List.getElem?_append_left (hold completion hmem), hother], hseq⟩

theorem SessionRun.Inv.acceptResponse {run : SessionRun} (h : run.Inv) {response : Frame}
    (haccept : (sessionAcceptResponse run.session response).1 = .ok) :
    ({ run with
      session := run.session.completed response
      completions := run.completions ++ [(run.begun.length - 1, response)] } :
      SessionRun).Inv := by
  obtain ⟨hactive, hsequence, _⟩ := sessionAcceptResponse_ok haccept
  obtain ⟨⟨request, hnewest, hseq, _⟩, hfresh⟩ := h.slot hactive
  refine ⟨h.next, h.sequences, fun hfree => absurd hfree Bool.false_ne_true, ?_, ?_⟩
  · intro completion hmem
    rcases List.mem_append.mp hmem with hold | hnew
    · exact h.completed completion hold
    · obtain rfl := List.mem_singleton.mp hnew
      exact ⟨request, hnewest, hsequence.trans hseq⟩
  · rw [List.map_append, List.nodup_append]
    refine ⟨h.nodup, by simp, ?_⟩
    intro i hi j hj
    obtain ⟨completion, hmem, rfl⟩ := List.mem_map.mp hi
    have hlt := hfresh completion hmem
    rw [List.map_singleton, List.mem_singleton] at hj
    simp only at hj
    omega

theorem SessionRun.step_inv {run : SessionRun} (h : run.Inv) (op : SessionOp) :
    (run.step op).Inv := by
  cases op with
  | beginRequest type flags payload policy nowNs =>
    rw [step]
    split
    · exact h
    · rename_i hbegin
      exact h.beginRequest hbegin
  | acceptResponse response =>
    rw [step]
    by_cases haccept : (sessionAcceptResponse run.session response).1 = .ok
    · simp only [sessionAcceptResponse_of_answers (sessionAcceptResponse_ok haccept)]
      exact h.acceptResponse haccept
    · simp only [if_neg haccept]
      rw [sessionAcceptResponse_rejected haccept]
      exact h.of_session rfl fun hactive => ⟨hactive, rfl, rfl⟩
  | tick nowNs retransmit =>
    rw [step]
    rcases sessionTick_cases run.session nowNs (fun _ context => (retransmit, context)) () with
      hidle | ⟨_, _, htimeout⟩ | ⟨hactive, _, _, _, hretry⟩
    · rw [hidle]
      exact h
    · rw [htimeout]
      exact h.of_session rfl fun hfree => absurd hfree Bool.false_ne_true
    · rw [hretry]
      exact h.of_session rfl fun _ => ⟨hactive, rfl, rfl⟩
  | cancelRequest =>
    exact h.of_session rfl fun hfree => absurd hfree Bool.false_ne_true
  | transition event =>
    obtain ⟨hnext, hframe, hactive⟩ := sessionTransition_frame run.session event
    exact h.of_session hnext fun h => ⟨hactive h, by rw [hframe], by rw [hframe]⟩

theorem sessionRun_inv (ops : List SessionOp) : (sessionRun ops).Inv :=
  List.foldlRecOn ops _ SessionRun.init_inv fun _ h op _ => SessionRun.step_inv h op

theorem sequenceAt_pos (k : Nat) : 0 < sequenceAt k := by
  rw [sequenceAt, SkipZero.iter_eq (by omega) (by omega)]
  omega

/-- No stale, duplicate or foreign response completes a request, over every run
of session operations. -/
theorem sessionRun_no_stale_response (ops : List SessionOp) :
    let run := sessionRun ops
    -- The counter and every allocated sequence are nonzero.
    (run.session.nextSequence ≠ 0 ∧ ∀ request ∈ run.begun, request.sequence ≠ 0) ∧
    -- What is taken answers the request in the slot, which is the newest one.
    (∀ response, (sessionAcceptResponse run.session response).1 = .ok →
      run.session.pending.active = true ∧
      response.sequence = run.session.pending.frame.sequence ∧
      ((response.type = run.session.pending.frame.type ∧
          response.flags &&& Flag.response ≠ 0) ∨
        response.type = Msg.ack ∨ response.type = Msg.nack ∨ response.type = Msg.error) ∧
      ∃ request, run.begun[run.begun.length - 1]? = some request ∧
        run.session.pending.frame.sequence = request.sequence ∧
        run.session.pending.frame.type = request.type) ∧
    -- No request is completed twice.
    (run.completions.map Prod.fst).Nodup ∧
    -- A sequence comes back only after all the others.
    (∀ i j earlier response, run.begun[i]? = some earlier → (j, response) ∈ run.completions →
      i < j → response.sequence = earlier.sequence → 2 ^ 32 - 1 ≤ j - i) ∧
    -- A rejected frame only moves a counter.
    (∀ response, (sessionAcceptResponse run.session response).1 ≠ .ok →
      (sessionAcceptResponse run.session response).2 =
        { run.session with stats := (sessionAcceptResponse run.session response).2.stats }) := by
  intro run
  have hinv : run.Inv := sessionRun_inv ops
  have hnonzero : ∀ {sequence : UInt32} {k : Nat},
      sequence.toNat = sequenceAt k → sequence ≠ 0 := by
    intro sequence k hk hzero
    have hpos := sequenceAt_pos k
    rw [← hk, hzero] at hpos
    exact absurd hpos (by decide)
  refine ⟨⟨hnonzero hinv.next, ?_⟩, ?_, hinv.nodup, ?_, fun _ => sessionAcceptResponse_rejected⟩
  · intro request hmem
    obtain ⟨k, hk⟩ := List.mem_iff_getElem?.mp hmem
    exact hnonzero (hinv.sequences k request hk)
  · intro response haccept
    obtain ⟨hactive, hsequence, hreply⟩ := sessionAcceptResponse_ok haccept
    exact ⟨hactive, hsequence, hreply, (hinv.slot hactive).1⟩
  · intro i j earlier response hearlier hcompleted hij hsame
    obtain ⟨later, hlater, hseq⟩ := hinv.completed _ hcompleted
    have hi := hinv.sequences i earlier hearlier
    have hj := hinv.sequences j later hlater
    have hrepeat : sequenceAt i = sequenceAt j := by rw [← hi, ← hj, ← hseq, hsame]
    exact SkipZero.sub_one_le_of_iter_eq (by omega) (by omega) hij hrepeat

end Devmgr
