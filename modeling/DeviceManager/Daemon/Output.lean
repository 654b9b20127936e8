import DeviceManager.Daemon.BackPressure

/-!
# The stream to the device

Requests, upgrade steps and retransmissions all go through `queue_frame` into one
buffer with two cursors, and `flush_transport` empties it in writes of any size.
`OutputRun` records which frames were taken and what was written.  One operation
keeps the two together (`OutputRun.Intact.step`): what was written and what is
still to be written are the encodings of the frames that were taken, in order.
-/

namespace Daemon

open Devmgr

/-- The bytes of the device buffer that are still to be written. -/
def Context.unwritten (context : Context) : List UInt8 :=
  context.transportOutput.drop context.transportOutputOffset

/-- The bytes that the writes of `flush_transport` take. -/
def flushBytes (writes : List WriteResult) (context : Context) : List UInt8 :=
  if context.transportOutputOffset < context.transportOutput.length then
    match writes with
    | [] => []
    | .again :: _ => []
    | .failed :: _ => []
    | .wrote more :: writes =>
      let count :=
        min (more + 1) (context.transportOutput.length - context.transportOutputOffset)
      context.unwritten.take count ++ flushBytes writes
        { context with transportOutputOffset := context.transportOutputOffset + count }
  else []

/-- What happens to the buffer.  Everything else that the daemon does leaves it
alone. -/
inductive OutputOp
  | queueFrame (env : Env) (frame : Frame)
  | flushTransport (env : Env) (writes : List WriteResult)
  | elsewhere (next : Context)

/-- The daemon, the frames that `queue_frame` took, and the bytes that went out. -/
structure OutputRun where
  context : Context
  taken : List Frame
  written : List UInt8

/-- One operation.  A frame is taken unless the result is `DEVMGR_ERROR_BUSY`. -/
def OutputRun.step (run : OutputRun) : OutputOp → OutputRun
  | .queueFrame env frame =>
    let queued := queueFrame env run.context frame
    { run with
      context := queued.2
      taken := if queued.1 = Status.busy.code then run.taken else run.taken ++ [frame] }
  | .flushTransport env writes =>
    { run with
      context := (flushTransport env writes run.context).2
      written := run.written ++ flushBytes writes run.context }
  | .elsewhere next =>
    { run with
      context := { next with
        transportOutput := run.context.transportOutput
        transportOutputOffset := run.context.transportOutputOffset } }

/-- The run of a list of operations. -/
def outputRun (context : Context) (ops : List OutputOp) : OutputRun :=
  ops.foldl OutputRun.step ⟨context, [], []⟩

/-- What was written and what is still to be written are the frames that were taken. -/
def OutputRun.Intact (run : OutputRun) : Prop :=
  run.written ++ run.context.unwritten = run.taken.flatMap frameBytes

/-! ## One operation -/

/-- The loop of `flush_transport` moves bytes from the buffer to the transport. -/
theorem flushLoop_unwritten (writes : List WriteResult) (context : Context) :
    flushBytes writes context ++ (flushLoop writes context).2.unwritten = context.unwritten := by
  fun_induction flushLoop writes context with
  | case4 context hmore more writes count ih =>
    have hrest : ({ context with
        transportOutputOffset := context.transportOutputOffset + count } : Context).unwritten =
          context.unwritten.drop count :=
      (List.drop_drop).symm
    rw [flushBytes, if_pos hmore, List.append_assoc, ih, hrest, List.take_append_drop]
  | case1 context hmore | case2 context hmore | case3 context hmore =>
    rw [flushBytes, if_pos hmore]
    rfl
  | case5 writes context hdone =>
    rw [flushBytes.eq_def, if_neg hdone]
    rfl

theorem flushTransport_unwritten (env : Env) (writes : List WriteResult) (context : Context) :
    flushBytes writes context ++ (flushTransport env writes context).2.unwritten =
      context.unwritten := by
  rw [← flushLoop_unwritten writes context, flushTransport]
  dsimp only
  split_ifs with hgone hall
  · -- The buffer is written to its end, and both cursors go back to the start.
    have hempty : (flushLoop writes context).2.unwritten = [] := by
      rw [Context.unwritten, hall, List.drop_length]
    rw [hempty]
    rfl
  · rfl
  · rfl

/-- A frame that is taken finds the buffer written, and fills it as a whole. -/
theorem queueFrame_unwritten (env : Env) (context : Context) (frame : Frame)
    (h : (queueFrame env context frame).1 ≠ Status.busy.code) :
    context.unwritten = [] ∧ (queueFrame env context frame).2.unwritten = frameBytes frame := by
  have hsent : ¬ context.transportOutputOffset < context.transportOutput.length :=
    mt (queueFrame_busy_iff env context frame).mpr h
  refine ⟨List.drop_eq_nil_of_le (Nat.le_of_not_lt hsent), ?_⟩
  rw [queueFrame, if_neg hsent, frameEncode_eq frame (Nat.le_refl _)]
  rfl

/-- A frame that is not taken changes nothing. -/
theorem queueFrame_busy (env : Env) (context : Context) (frame : Frame)
    (h : (queueFrame env context frame).1 = Status.busy.code) :
    (queueFrame env context frame).2 = context := by
  have hunsent : context.transportOutputOffset < context.transportOutput.length :=
    (queueFrame_busy_iff env context frame).mp h
  rw [queueFrame, if_pos hunsent]

theorem OutputRun.Intact.step {run : OutputRun} (h : run.Intact) (op : OutputOp) :
    (run.step op).Intact := by
  rw [Intact] at h ⊢
  cases op with
  | queueFrame env frame =>
    simp only [OutputRun.step]
    by_cases hbusy : (Daemon.queueFrame env run.context frame).1 = Status.busy.code
    · rw [if_pos hbusy, queueFrame_busy env run.context frame hbusy]
      exact h
    · obtain ⟨hnone, hheld⟩ := queueFrame_unwritten env run.context frame hbusy
      rw [hnone, List.append_nil] at h
      rw [if_neg hbusy, hheld, List.flatMap_append, ← h, List.flatMap_singleton]
  | flushTransport env writes =>
    simp only [OutputRun.step]
    rw [List.append_assoc, flushTransport_unwritten, h]
  | elsewhere next => exact h

theorem outputRun_intact {context : Context} (h : context.unwritten = []) (ops : List OutputOp) :
    (outputRun context ops).Intact :=
  List.foldlRecOn ops _ h fun _ hrun op _ => hrun.step op

/-- Whatever is queued and flushed, and however the writes are cut: the bytes that
were written are a part of the encodings of the frames that were taken, from their
start, and what is missing is what the buffer holds.  A frame that is not taken
leaves the buffer, and all of the daemon, as it is. -/
theorem device_stream_intact {context : Context} (hempty : context.transportOutput = [])
    (ops : List OutputOp) :
    let run := outputRun context ops
    run.written <+: run.taken.flatMap frameBytes ∧
      run.written ++ run.context.transportOutput.drop run.context.transportOutputOffset =
        run.taken.flatMap frameBytes ∧
      (∀ frame, frameEncode frame maxFrame = .ok (frameBytes frame)) ∧
      ∀ env frame, (queueFrame env run.context frame).1 = Status.busy.code →
        (queueFrame env run.context frame).2 = run.context := by
  intro run
  have hheld : context.unwritten = [] := by
    rw [Context.unwritten, hempty, List.drop_nil]
  have hintact : run.Intact := outputRun_intact hheld ops
  refine ⟨⟨_, hintact⟩, hintact, fun frame => frameEncode_eq frame (Nat.le_refl _), ?_⟩
  intro env frame hbusy
  exact queueFrame_busy env run.context frame hbusy

/-- A ping that goes out in two writes, with a retransmission refused between
them. -/
theorem device_stream_intact_ping :
    let ping : Frame := ⟨Msg.ping, 0, 1, [], Nat.zero_le _⟩
    let env : Env := ⟨0, true, true⟩
    let run := outputRun setupContext
      [.queueFrame env ping, .flushTransport env [.wrote 4, .again],
        .queueFrame env ping.retried, .flushTransport env [.wrote 20]]
    run.taken = [ping] ∧ run.written = frameBytes ping ∧
      run.written ++ run.context.transportOutput.drop run.context.transportOutputOffset =
        run.taken.flatMap frameBytes := by
  intro ping env run
  refine ⟨by decide +kernel, by decide +kernel, ?_⟩
  exact (device_stream_intact (show setupContext.transportOutput = [] from rfl) _).2.1

end Daemon
