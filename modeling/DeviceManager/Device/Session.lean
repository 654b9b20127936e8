import DeviceManager.Protocol.Frame
import DeviceManager.Lib.SkipZero

/-!
# The device session of `src/device/session.c`

A session has one slot for a pending request.  `sessionBeginRequest` fills the
slot and allocates a sequence number, `sessionAcceptResponse` clears it when a
matching response arrives, and `sessionTick` retransmits the request at its
deadline or gives it up.

The lemmas below say once what each function can do to the slot.  Everything
that is proved about runs of a session, here and in the daemon, starts from
them:

* `sessionBeginRequest_eq_ok`: the request, the slot and the next sequence;
* `sessionAcceptResponse_ok`, `sessionAcceptResponse_of_answers` and
  `sessionAcceptResponse_rejected`: a response is taken exactly when it answers
  the request, and a rejected one only moves a counter;
* `sessionTick_of_not_due` to `sessionTick_of_sent`: nothing, a timeout, or the
  callback's result; `sessionTick_cases` is what all of them have in common.
-/

namespace Devmgr

/-- `enum devmgr_device_state`. -/
inductive DeviceState
  | disconnected
  | connecting
  | handshaking
  | ready
  | streaming
  | upgrading
  | rebooting
  deriving DecidableEq

/-- `enum devmgr_session_event`. -/
inductive SessionEvent
  | connect
  | transportConnected
  | handshakeOk
  | startStream
  | stopStream
  | startUpgrade
  | upgradeDone
  | reboot
  | transportLost
  | fail
  deriving DecidableEq

/-- `struct devmgr_retry_policy`. -/
structure RetryPolicy where
  timeoutMs : UInt32
  retryIntervalMs : UInt32
  maxRetries : UInt8
  deriving DecidableEq

/-- `struct devmgr_session_stats`. -/
structure SessionStats where
  requests : UInt64
  responses : UInt64
  retries : UInt64
  timeouts : UInt64
  sequenceMismatches : UInt64
  duplicateResponses : UInt64
  unexpectedResponses : UInt64
  deriving DecidableEq

/-- `struct devmgr_pending_request`. -/
structure PendingRequest where
  frame : Frame
  policy : RetryPolicy
  deadlineNs : UInt64
  retriesDone : UInt8
  active : Bool
  deriving DecidableEq

/-- `struct devmgr_session`. -/
structure Session where
  state : DeviceState
  nextSequence : UInt32
  lastCompletedSequence : UInt32
  pending : PendingRequest
  stats : SessionStats
  deriving DecidableEq

def millisecondsToNs (milliseconds : UInt32) : UInt64 :=
  milliseconds.toUInt64 * 1000000

def saturatingAdd (left right : UInt64) : UInt64 :=
  if 0xFFFFFFFFFFFFFFFF - left < right then 0xFFFFFFFFFFFFFFFF else left + right

/-- `devmgr_session_init`. -/
def sessionInit : Session where
  state := .disconnected
  nextSequence := 1
  lastCompletedSequence := 0
  pending := ⟨⟨0, 0, 0, [], Nat.zero_le _⟩, ⟨0, 0, 0⟩, 0, 0, false⟩
  stats := ⟨0, 0, 0, 0, 0, 0, 0⟩

/-- `devmgr_session_cancel_request`. -/
def sessionCancelRequest (session : Session) : Session :=
  { session with pending := { session.pending with active := false } }

/-- The `switch` of `devmgr_session_transition`: the next state, or none where
the event is refused. -/
def transitionTarget : DeviceState → SessionEvent → Option DeviceState
  | .disconnected, .connect => some .connecting
  | .connecting, .transportConnected => some .handshaking
  | .handshaking, .handshakeOk => some .ready
  | .ready, .startStream => some .streaming
  | .ready, .startUpgrade => some .upgrading
  | .ready, .reboot => some .rebooting
  | .streaming, .stopStream => some .ready
  | .streaming, .reboot => some .rebooting
  | .upgrading, .upgradeDone => some .ready
  | .upgrading, .reboot => some .rebooting
  | .rebooting, .transportConnected => some .handshaking
  | _, _ => none

/-- `devmgr_session_transition`. -/
def sessionTransition (session : Session) (event : SessionEvent) : Status × Session :=
  if event = .transportLost ∨ event = .fail then
    (.ok, sessionCancelRequest { session with state := .disconnected })
  else
    match transitionTarget session.state event with
    | none => (.state, session)
    | some next => (.ok, { session with state := next })

/-- `++next_sequence`, with the zero skipped. -/
def sequenceAfter (sequence : UInt32) : UInt32 :=
  if sequence + 1 = 0 then 1 else sequence + 1

/-- `devmgr_session_begin_request`. -/
def sessionBeginRequest (session : Session) (type flags : UInt8) (payload : List UInt8)
    (policy : RetryPolicy) (nowNs : UInt64) : Except Status (Frame × Session) :=
  if h : payload.length > maxPayload ∨ policy.timeoutMs = 0 then .error .invalid
  else if session.pending.active then .error .busy
  else
    let request : Frame :=
      { type := type
        flags := flags
        sequence := session.nextSequence
        payload := payload
        payload_le := Nat.le_of_not_lt (not_or.mp h).1 }
    .ok (request,
      { session with
        nextSequence := sequenceAfter session.nextSequence
        pending :=
          { frame := request
            policy := policy
            deadlineNs := saturatingAdd nowNs (millisecondsToNs policy.timeoutMs)
            retriesDone := 0
            active := true }
        stats := { session.stats with requests := session.stats.requests + 1 } })

/-- The types that answer a request of any type. -/
def isGenericReply (type : UInt8) : Prop :=
  type = Msg.ack ∨ type = Msg.nack ∨ type = Msg.error

instance (type : UInt8) : Decidable (isGenericReply type) :=
  inferInstanceAs (Decidable (_ ∨ _ ∨ _))

/-- `devmgr_session_accept_response`. -/
def sessionAcceptResponse (session : Session) (response : Frame) : Status × Session :=
  let stats := session.stats
  if ¬ session.pending.active then
    if response.sequence = session.lastCompletedSequence then
      (.notFound, { session with
        stats := { stats with duplicateResponses := stats.duplicateResponses + 1 } })
    else
      (.notFound, { session with
        stats := { stats with unexpectedResponses := stats.unexpectedResponses + 1 } })
  else if response.sequence ≠ session.pending.frame.sequence then
    (.protocol, { session with
      stats := { stats with sequenceMismatches := stats.sequenceMismatches + 1 } })
  else if response.flags &&& Flag.response = 0 ∧ ¬ isGenericReply response.type then
    (.protocol, { session with
      stats := { stats with unexpectedResponses := stats.unexpectedResponses + 1 } })
  else if response.type ≠ session.pending.frame.type ∧ ¬ isGenericReply response.type then
    (.protocol, { session with
      stats := { stats with unexpectedResponses := stats.unexpectedResponses + 1 } })
  else
    (.ok, { session with
      lastCompletedSequence := response.sequence
      pending := { session.pending with active := false }
      stats := { stats with responses := stats.responses + 1 } })

/-- A frame with `DEVMGR_FRAME_RETRY` set. -/
def Frame.retried (frame : Frame) : Frame :=
  { frame with flags := frame.flags ||| Flag.retry }

/-- `devmgr_session_tick`.  The callback gets the frame to send again. -/
def sessionTick {κ : Type} (session : Session) (nowNs : UInt64)
    (retransmit : Frame → κ → Int × κ) (context : κ) : Int × Session × κ :=
  let pending := session.pending
  if ¬ pending.active ∨ nowNs < pending.deadlineNs then (Status.ok.code, session, context)
  else if pending.retriesDone ≥ pending.policy.maxRetries then
    (Status.timeout.code,
      { session with
        pending := { pending with active := false }
        stats := { session.stats with timeouts := session.stats.timeouts + 1 } },
      context)
  else
    let frame := pending.frame.retried
    let sent := retransmit frame context
    if sent.1 ≠ Status.ok.code then
      (sent.1, { session with pending := { pending with frame := frame } }, sent.2)
    else
      let interval := millisecondsToNs
        (if pending.policy.retryIntervalMs = 0 then pending.policy.timeoutMs
         else pending.policy.retryIntervalMs)
      (Status.ok.code,
        { session with
          pending :=
            { pending with
              frame := frame
              retriesDone := pending.retriesDone + 1
              deadlineNs := saturatingAdd nowNs interval }
          stats := { session.stats with retries := session.stats.retries + 1 } },
        sent.2)

/-! ## Sequence numbers -/

theorem sequenceAfter_toNat (sequence : UInt32) :
    (sequenceAfter sequence).toNat = SkipZero.next (2 ^ 32) sequence.toNat := by
  have hlt := sequence.toNat_lt
  have hwrap : sequence + 1 = 0 ↔ sequence.toNat + 1 = 2 ^ 32 := by
    rw [← UInt32.toNat_inj, UInt32.toNat_add]
    simp only [UInt32.toNat_one, UInt32.toNat_zero]
    omega
  rw [sequenceAfter, SkipZero.next]
  by_cases h : sequence.toNat + 1 = 2 ^ 32
  · rw [if_pos (hwrap.mpr h), if_pos h]
    rfl
  · rw [if_neg (mt hwrap.mp h), if_neg h, UInt32.toNat_add, UInt32.toNat_one,
      Nat.mod_eq_of_lt (by omega)]

/-! ## What each function does to the slot -/

/-- A request that was begun: it carries the next sequence and fills the slot. -/
theorem sessionBeginRequest_eq_ok {session session' : Session} {type flags : UInt8}
    {payload : List UInt8} {policy : RetryPolicy} {nowNs : UInt64} {request : Frame}
    (h : sessionBeginRequest session type flags payload policy nowNs = .ok (request, session')) :
    session.pending.active = false ∧
      request.type = type ∧ request.payload = payload ∧
      request.sequence = session.nextSequence ∧
      session'.state = session.state ∧
      session'.nextSequence = sequenceAfter session.nextSequence ∧
      session'.pending.frame = request ∧ session'.pending.active = true := by
  rw [sessionBeginRequest] at h
  split_ifs at h with hinvalid hbusy
  obtain ⟨rfl, rfl⟩ := Prod.mk.inj (Except.ok.inj h)
  exact ⟨eq_false_of_ne_true hbusy, rfl, rfl, rfl, rfl, rfl, rfl, rfl⟩

theorem sessionBeginRequest_error {session : Session} {type flags : UInt8}
    {payload : List UInt8} {policy : RetryPolicy} {nowNs : UInt64} {error : Status}
    (h : sessionBeginRequest session type flags payload policy nowNs = .error error) :
    error = .invalid ∨ error = .busy ∧ session.pending.active = true := by
  rw [sessionBeginRequest] at h
  split_ifs at h with hinvalid hbusy
  · exact .inl (Except.error.inj h).symm
  · exact .inr ⟨(Except.error.inj h).symm, hbusy⟩

theorem sessionBeginRequest_failed {session : Session} {type flags : UInt8}
    {payload : List UInt8} {policy : RetryPolicy} {nowNs : UInt64} {error : Status}
    (h : sessionBeginRequest session type flags payload policy nowNs = .error error) :
    error.code ≠ Status.ok.code := by
  rcases sessionBeginRequest_error h with rfl | ⟨rfl, _⟩
  · decide
  · decide

/-- A legal request is begun whenever the slot is free. -/
theorem sessionBeginRequest_isOk {session : Session} {payload : List UInt8}
    {policy : RetryPolicy} (type flags : UInt8) (nowNs : UInt64)
    (hlength : payload.length ≤ maxPayload) (htimeout : policy.timeoutMs ≠ 0)
    (hfree : session.pending.active = false) :
    ∃ request session',
      sessionBeginRequest session type flags payload policy nowNs = .ok (request, session') := by
  rw [sessionBeginRequest, dif_neg (not_or.mpr ⟨Nat.not_lt.mpr hlength, htimeout⟩),
    if_neg (by simp [hfree])]
  exact ⟨_, _, rfl⟩

/-- The slot has a request, and the response is one to it: the sequence, and
either the type with the response flag or a generic reply. -/
def Session.Answers (session : Session) (response : Frame) : Prop :=
  session.pending.active = true ∧
    response.sequence = session.pending.frame.sequence ∧
    ((response.type = session.pending.frame.type ∧ response.flags &&& Flag.response ≠ 0) ∨
      isGenericReply response.type)

/-- The session after a response was taken. -/
def Session.completed (session : Session) (response : Frame) : Session :=
  { session with
    lastCompletedSequence := response.sequence
    pending := { session.pending with active := false }
    stats := { session.stats with responses := session.stats.responses + 1 } }

/-- A response is taken only for the pending request. -/
theorem sessionAcceptResponse_ok {session : Session} {response : Frame}
    (h : (sessionAcceptResponse session response).1 = .ok) : session.Answers response := by
  unfold sessionAcceptResponse at h
  dsimp only at h
  split_ifs at h with hactive hsequence hflag htype
  refine ⟨hactive, not_not.mp hsequence, ?_⟩
  by_cases hgeneric : isGenericReply response.type
  · exact .inr hgeneric
  · exact .inl ⟨by_contra fun hne => htype ⟨hne, hgeneric⟩, fun hzero => hflag ⟨hzero, hgeneric⟩⟩

/-- A response to the pending request is taken, and clears the slot. -/
theorem sessionAcceptResponse_of_answers {session : Session} {response : Frame}
    (h : session.Answers response) :
    sessionAcceptResponse session response = (.ok, session.completed response) := by
  obtain ⟨hactive, hsequence, hreply⟩ := h
  have hflag : ¬ (response.flags &&& Flag.response = 0 ∧ ¬ isGenericReply response.type) := by
    rintro ⟨hzero, hgeneric⟩
    exact (hreply.resolve_right hgeneric).2 hzero
  have htype : ¬ (response.type ≠ session.pending.frame.type ∧
      ¬ isGenericReply response.type) := by
    rintro ⟨hne, hgeneric⟩
    exact hne (hreply.resolve_right hgeneric).1
  unfold sessionAcceptResponse
  dsimp only
  rw [if_neg (not_not.mpr hactive), if_neg (not_not.mpr hsequence), if_neg hflag, if_neg htype]
  rfl

/-- A rejected response changes nothing but the counters. -/
theorem sessionAcceptResponse_rejected {session : Session} {response : Frame}
    (h : (sessionAcceptResponse session response).1 ≠ .ok) :
    (sessionAcceptResponse session response).2 =
      { session with stats := (sessionAcceptResponse session response).2.stats } := by
  unfold sessionAcceptResponse at h ⊢
  dsimp only at h ⊢
  split_ifs at h ⊢
  all_goals first | rfl | exact absurd rfl h

/-- The request is pending and its deadline has come. -/
def Session.Due (session : Session) (nowNs : UInt64) : Prop :=
  session.pending.active = true ∧ session.pending.deadlineNs ≤ nowNs

/-- The session after the request was given up. -/
def Session.timedOut (session : Session) : Session :=
  { session with
    pending := { session.pending with active := false }
    stats := { session.stats with timeouts := session.stats.timeouts + 1 } }

/-- The session after the callback failed: only the retry flag has changed. -/
def Session.unsent (session : Session) : Session :=
  { session with pending := { session.pending with frame := session.pending.frame.retried } }

/-- The interval up to the next deadline. -/
def RetryPolicy.intervalMs (policy : RetryPolicy) : UInt32 :=
  if policy.retryIntervalMs = 0 then policy.timeoutMs else policy.retryIntervalMs

/-- The session after the callback sent the request again. -/
def Session.resent (session : Session) (nowNs : UInt64) : Session :=
  { session with
    pending :=
      { session.pending with
        frame := session.pending.frame.retried
        retriesDone := session.pending.retriesDone + 1
        deadlineNs := saturatingAdd nowNs (millisecondsToNs session.pending.policy.intervalMs) }
    stats := { session.stats with retries := session.stats.retries + 1 } }

section Tick

variable {κ : Type} {session : Session} {nowNs : UInt64} (retransmit : Frame → κ → Int × κ)
  (context : κ)

theorem Session.due_iff :
    session.Due nowNs ↔
      ¬ (¬ session.pending.active = true ∨ nowNs < session.pending.deadlineNs) := by
  rw [not_or, not_not, UInt64.not_lt, Due]

theorem sessionTick_of_not_due (h : ¬ session.Due nowNs) :
    sessionTick session nowNs retransmit context = (Status.ok.code, session, context) := by
  rw [Session.due_iff, not_not] at h
  exact if_pos h

theorem sessionTick_of_exhausted (h : session.Due nowNs)
    (hretries : session.pending.policy.maxRetries ≤ session.pending.retriesDone) :
    sessionTick session nowNs retransmit context =
      (Status.timeout.code, session.timedOut, context) := by
  rw [sessionTick, if_neg (Session.due_iff.mp h), if_pos hretries]
  rfl

theorem sessionTick_of_failed (h : session.Due nowNs)
    (hretries : session.pending.retriesDone < session.pending.policy.maxRetries)
    (hsent : (retransmit session.pending.frame.retried context).1 ≠ Status.ok.code) :
    sessionTick session nowNs retransmit context =
      ((retransmit session.pending.frame.retried context).1, session.unsent,
        (retransmit session.pending.frame.retried context).2) := by
  rw [sessionTick, if_neg (Session.due_iff.mp h), if_neg (UInt8.not_le.mpr hretries),
    if_pos hsent]
  rfl

theorem sessionTick_of_sent (h : session.Due nowNs)
    (hretries : session.pending.retriesDone < session.pending.policy.maxRetries)
    (hsent : (retransmit session.pending.frame.retried context).1 = Status.ok.code) :
    sessionTick session nowNs retransmit context =
      (Status.ok.code, session.resent nowNs,
        (retransmit session.pending.frame.retried context).2) := by
  rw [sessionTick, if_neg (Session.due_iff.mp h), if_neg (UInt8.not_le.mpr hretries),
    if_neg (not_not.mpr hsent)]
  rfl

variable (session nowNs)

/-- A tick does nothing, gives the request up, or sends it again with the retry
flag; the request itself stays what it was. -/
theorem sessionTick_cases :
    sessionTick session nowNs retransmit context = (Status.ok.code, session, context) ∨
    (session.pending.active = true ∧
      ∃ stats, sessionTick session nowNs retransmit context =
        (Status.timeout.code,
          { session with pending := { session.pending with active := false }, stats := stats },
          context)) ∨
    (session.pending.active = true ∧
      ∃ deadline retries stats, sessionTick session nowNs retransmit context =
        ((retransmit session.pending.frame.retried context).1,
          { session with
            pending := { session.pending with
              frame := session.pending.frame.retried
              deadlineNs := deadline
              retriesDone := retries }
            stats := stats },
          (retransmit session.pending.frame.retried context).2)) := by
  by_cases hdue : session.Due nowNs
  · rcases UInt8.lt_or_le session.pending.retriesDone session.pending.policy.maxRetries with
      hretries | hretries
    · by_cases hsent : (retransmit session.pending.frame.retried context).1 = Status.ok.code
      · rw [sessionTick_of_sent retransmit context hdue hretries hsent, ← hsent]
        exact .inr (.inr ⟨hdue.1, _, _, _, rfl⟩)
      · rw [sessionTick_of_failed retransmit context hdue hretries hsent]
        exact .inr (.inr ⟨hdue.1, _, _, _, rfl⟩)
    · rw [sessionTick_of_exhausted retransmit context hdue hretries]
      exact .inr (.inl ⟨hdue.1, _, rfl⟩)
  · exact .inl (sessionTick_of_not_due retransmit context hdue)

end Tick

/-- Neither a transition nor its refusal touches the request or its sequence. -/
theorem sessionTransition_frame (session : Session) (event : SessionEvent) :
    (sessionTransition session event).2.nextSequence = session.nextSequence ∧
      (sessionTransition session event).2.pending.frame = session.pending.frame ∧
      ((sessionTransition session event).2.pending.active = true →
        session.pending.active = true) := by
  rw [sessionTransition]
  split_ifs
  · exact ⟨rfl, rfl, fun h => absurd h Bool.false_ne_true⟩
  · split
    · exact ⟨rfl, rfl, id⟩
    · exact ⟨rfl, rfl, id⟩

end Devmgr
