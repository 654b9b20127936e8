import DeviceManager.Device.Session

/-!
# Sessions under other sequence numbers

The number of a request tells how many requests the session began before it.  `renumber base`
counts the numbers from `base` on, so that the first request behind a given point has the number
`1`, whatever came before.

`Session.Mirrors` relates a session to another one that is in the same state and waits for the
same response, under these numbers.  Every function of the session keeps the relation and returns
the same on both sides, if the frames that it is given differ in their numbers only.
-/

namespace Devmgr

/-! ## Numbers -/

/-- The place of a sequence number in the order of `next_sequence`, with `base` as the first. -/
def renumber (base sequence : UInt32) : UInt32 :=
  if sequence = 0 then 0
  else .ofNat ((sequence.toNat + (2 ^ 32 - 1) - base.toNat) % (2 ^ 32 - 1) + 1)

def Frame.renumbered (base : UInt32) (frame : Frame) : Frame :=
  { frame with sequence := renumber base frame.sequence }

section Renumber

variable {base sequence other : UInt32}

theorem toNat_pos_of_ne_zero (h : sequence ≠ 0) : 0 < sequence.toNat :=
  Nat.pos_of_ne_zero fun hzero => h (UInt32.toNat_inj.mp hzero)

theorem renumber_toNat (h : sequence ≠ 0) :
    (renumber base sequence).toNat =
      (sequence.toNat + (2 ^ 32 - 1) - base.toNat) % (2 ^ 32 - 1) + 1 := by
  have hlt := Nat.mod_lt (sequence.toNat + (2 ^ 32 - 1) - base.toNat) (by decide : 2 ^ 32 - 1 > 0)
  rw [renumber, if_neg h, UInt32.toNat_ofNat_of_lt']
  exact Nat.add_lt_of_lt_sub hlt

theorem renumber_eq_zero_iff : renumber base sequence = 0 ↔ sequence = 0 := by
  refine ⟨fun hzero => by_contra fun h => ?_, fun h => if_pos h⟩
  have hvalue := @renumber_toNat base sequence h
  rw [hzero, UInt32.toNat_zero] at hvalue
  exact absurd hvalue.symm (Nat.succ_ne_zero _)

theorem renumber_inj : renumber base sequence = renumber base other ↔ sequence = other := by
  refine ⟨fun hequal => ?_, fun h => by rw [h]⟩
  by_cases hzero : sequence = 0
  · rw [hzero, renumber, if_pos rfl] at hequal
    rw [hzero, renumber_eq_zero_iff.mp hequal.symm]
  have hother : other ≠ 0 := fun h => hzero (renumber_eq_zero_iff.mp
    (hequal.trans (renumber_eq_zero_iff.mpr h)))
  have hvalues := congrArg UInt32.toNat hequal
  rw [renumber_toNat hzero, renumber_toNat hother] at hvalues
  have := toNat_pos_of_ne_zero hzero
  have := toNat_pos_of_ne_zero hother
  have := sequence.toNat_lt
  have := other.toNat_lt
  have := base.toNat_lt
  exact UInt32.toNat_inj.mp (by omega)

theorem sequenceAfter_ne_zero (sequence : UInt32) : sequenceAfter sequence ≠ 0 := by
  unfold sequenceAfter
  split
  · decide
  · assumption

/-- The order of the numbers does not depend on where it is counted from. -/
theorem renumber_sequenceAfter (h : sequence ≠ 0) :
    renumber base (sequenceAfter sequence) = sequenceAfter (renumber base sequence) := by
  refine UInt32.toNat_inj.mp ?_
  rw [renumber_toNat (sequenceAfter_ne_zero sequence), sequenceAfter_toNat, sequenceAfter_toNat,
    renumber_toNat h, SkipZero.next, SkipZero.next]
  have := toNat_pos_of_ne_zero h
  have := sequence.toNat_lt
  have := base.toNat_lt
  split_ifs <;> omega

theorem renumber_self (h : base ≠ 0) : renumber base base = 1 := by
  refine UInt32.toNat_inj.mp ?_
  rw [renumber_toNat h, Nat.add_sub_cancel_left, Nat.mod_self]
  rfl

end Renumber

/-! ## Sessions -/

/-- The other session is in the same state, waits for the same response, and has counted its
requests from `base`. -/
structure Session.Mirrors (base : UInt32) (session image : Session) : Prop where
  state : image.state = session.state
  nonzero : session.nextSequence ≠ 0
  next : image.nextSequence = renumber base session.nextSequence
  active : image.pending.active = session.pending.active
  pending : session.pending.active = true →
    image.pending = { session.pending with frame := session.pending.frame.renumbered base }

section Mirrors

variable {base : UInt32} {session image : Session} (h : session.Mirrors base image)

include h

/-- What the session counts does not matter. -/
theorem Session.Mirrors.counted (stats stats' : SessionStats) :
    Session.Mirrors base { session with stats := stats } { image with stats := stats' } :=
  ⟨h.state, h.nonzero, h.next, h.active, h.pending⟩

theorem Session.Mirrors.cancel :
    (sessionCancelRequest session).Mirrors base (sessionCancelRequest image) :=
  ⟨h.state, h.nonzero, h.next, rfl, fun hactive => absurd hactive Bool.false_ne_true⟩

theorem Session.Mirrors.transition (event : SessionEvent) :
    (sessionTransition image event).1 = (sessionTransition session event).1 ∧
      (sessionTransition session event).2.Mirrors base (sessionTransition image event).2 := by
  unfold sessionTransition
  rw [h.state]
  split
  · exact ⟨rfl, rfl, h.nonzero, h.next, rfl, fun hactive => absurd hactive Bool.false_ne_true⟩
  split
  · exact ⟨rfl, h⟩
  · exact ⟨rfl, rfl, h.nonzero, h.next, h.active, h.pending⟩

/-- A request is refused on both sides, or begun with the next number. -/
theorem Session.Mirrors.begin (type flags : UInt8) (payload : List UInt8) (policy : RetryPolicy)
    (nowNs : UInt64) :
    (∃ error, sessionBeginRequest session type flags payload policy nowNs = .error error ∧
      sessionBeginRequest image type flags payload policy nowNs = .error error) ∨
    ∃ request begun begun',
      sessionBeginRequest session type flags payload policy nowNs = .ok (request, begun) ∧
      sessionBeginRequest image type flags payload policy nowNs =
        .ok (request.renumbered base, begun') ∧ begun.Mirrors base begun' := by
  unfold sessionBeginRequest
  rw [h.active, h.next]
  split
  · exact .inl ⟨_, rfl, rfl⟩
  split
  · exact .inl ⟨_, rfl, rfl⟩
  · exact .inr ⟨_, _, _, rfl, rfl, h.state, sequenceAfter_ne_zero _,
      (renumber_sequenceAfter h.nonzero).symm, rfl, fun _ => rfl⟩

/-- A response is one to both sessions or to none. -/
theorem Session.Mirrors.answers (response : Frame) :
    image.Answers (response.renumbered base) ↔ session.Answers response := by
  unfold Session.Answers
  rw [h.active]
  refine and_congr_right fun hactive => ?_
  rw [h.pending hactive]
  exact and_congr_left' renumber_inj

theorem Session.Mirrors.completed (response : Frame) :
    (session.completed response).Mirrors base (image.completed (response.renumbered base)) :=
  ⟨h.state, h.nonzero, h.next, rfl, fun hactive => absurd hactive Bool.false_ne_true⟩

/-- A tick does the same on both sides, if sending the frame again does. -/
theorem Session.Mirrors.tick {κ κ' : Type} {R : κ → κ' → Prop}
    (retransmit : Frame → κ → Int × κ) (retransmit' : Frame → κ' → Int × κ') {context : κ}
    {context' : κ'} (hcontext : R context context')
    (hsend : ∀ frame, (retransmit' (frame.renumbered base) context').1 =
        (retransmit frame context).1 ∧
      R (retransmit frame context).2 (retransmit' (frame.renumbered base) context').2)
    (nowNs : UInt64) :
    (sessionTick image nowNs retransmit' context').1 =
        (sessionTick session nowNs retransmit context).1 ∧
      (sessionTick session nowNs retransmit context).2.1.Mirrors base
        (sessionTick image nowNs retransmit' context').2.1 ∧
      R (sessionTick session nowNs retransmit context).2.2
        (sessionTick image nowNs retransmit' context').2.2 := by
  by_cases hactive : session.pending.active = true
  · obtain ⟨hcode, hrelated⟩ := hsend session.pending.frame.retried
    unfold sessionTick
    rw [h.pending hactive]
    dsimp only
    split
    · exact ⟨rfl, h, hcontext⟩
    split
    · exact ⟨rfl, ⟨h.state, h.nonzero, h.next, rfl, fun habsurd =>
        absurd habsurd Bool.false_ne_true⟩, hcontext⟩
    rw [show (session.pending.frame.renumbered base).retried =
      session.pending.frame.retried.renumbered base from rfl, hcode]
    split
    · exact ⟨rfl, ⟨h.state, h.nonzero, h.next, rfl, fun _ => rfl⟩, hrelated⟩
    · exact ⟨rfl, ⟨h.state, h.nonzero, h.next, rfl, fun _ => rfl⟩, hrelated⟩
  · unfold sessionTick
    dsimp only
    rw [h.active, if_pos (.inl hactive), if_pos (.inl hactive)]
    exact ⟨rfl, h, hcontext⟩

end Mirrors

end Devmgr
