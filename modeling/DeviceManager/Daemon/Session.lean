import DeviceManager.Device.Renumber
import DeviceManager.Daemon.Loop

/-!
# Invariants of the session

The daemon changes its session only through the functions of `src/device/session.c`.
`PreservesSession` lists what a property of sessions has to be shown against, and
`PreservesSession.reachable` is the rule for every context of a run: with the property after
`start_handshake`, it stays.

`nextSequence_ne_zero`: the next sequence number is never zero, the number of a frame that nobody
has asked for.
-/

namespace Daemon

open Devmgr

/-- A property of sessions that the functions of the session keep. -/
structure PreservesSession (P : Session → Prop) : Prop where
  counted : ∀ {session : Session} (stats : SessionStats), P session →
    P { session with stats := stats }
  cancelled : ∀ {session : Session}, P session → P (sessionCancelRequest session)
  completed : ∀ {session : Session} (response : Frame), P session → P (session.completed response)
  moved : ∀ {session : Session} (event : SessionEvent), P session →
    P (sessionTransition session event).2
  begun : ∀ {session begun : Session} {type flags : UInt8} {payload : List UInt8}
    {policy : RetryPolicy} {nowNs : UInt64} {request : Frame},
    sessionBeginRequest session type flags payload policy nowNs = .ok (request, begun) →
      P session → P begun
  ticked : ∀ {session : Session} (nowNs : UInt64) (retransmit : Frame → Context → Int × Context)
    (context : Context), P session → P (sessionTick session nowNs retransmit context).2.1

section PreservesSession

variable {P : Session → Prop} (h : PreservesSession P) (env : Env) {context : Context}

/-- To queue a frame leaves the session alone. -/
theorem queueFrame_session (env : Env) (context : Context) (frame : Frame) :
    (queueFrame env context frame).2.session = context.session := by
  obtain ⟨output, offset, hqueued⟩ := queueFrame_eq env context frame
  rw [hqueued]

include h

theorem PreservesSession.queueUpgradeRequest (hsession : P context.session) :
    P (queueUpgradeRequest env context).2.session := by
  unfold Daemon.queueUpgradeRequest
  rcases upgradeBuildRequest context.upgrade with error | ⟨frame, upgrade⟩
  · exact h.cancelled hsession
  dsimp only
  split
  · exact h.cancelled hsession
  rename_i request session hbegin
  have hbegun := h.begun hbegin hsession
  split
  · rw [queueFrame_session]
    exact h.cancelled hbegun
  · rw [queueFrame_session]
    exact hbegun

theorem PreservesSession.onUpgradeResponse (requestType : UInt8) (frame : Frame)
    (hsession : P context.session) :
    P (onUpgradeResponse env context requestType frame).2.session := by
  unfold Daemon.onUpgradeResponse
  dsimp only
  split
  · exact h.moved _ hsession
  split
  · exact h.moved _ hsession
  · exact h.queueUpgradeRequest env hsession

theorem PreservesSession.onClientResponse (index : Slot) (requestType : UInt8) (frame : Frame)
    (hsession : P context.session) :
    P (onClientResponse env context index requestType frame).2.session := by
  unfold Daemon.onClientResponse
  dsimp only
  rw [(queueClientResponse_sameDevice env _ _ _ _ _).session]
  dsimp only
  split_ifs
  · exact h.moved _ hsession
  · exact h.moved _ hsession
  · exact hsession

theorem PreservesSession.onDeviceFrame (frame : Frame) (hsession : P context.session) :
    P (onDeviceFrame env frame context).2.session := by
  by_cases htakes : context.takes frame
  · have hcompleted := h.completed frame hsession
    rw [onDeviceFrame_taken env htakes]
    dsimp only
    split
    · split
      · exact hcompleted
      · exact h.moved _ hcompleted
    split
    · exact h.onUpgradeResponse env _ frame hcompleted
    split
    · exact h.onClientResponse env _ _ frame hcompleted
    · exact hcompleted
  · obtain ⟨stats, telemetry, count, hignored⟩ := onDeviceFrame_ignored env htakes
    rw [hignored]
    exact h.counted stats hsession

theorem PreservesSession.tryUpgrade (image : FirmwareImage) (hsession : P context.session) :
    P (tryUpgrade env context image).2.session := by
  unfold Daemon.tryUpgrade
  split
  · exact hsession
  dsimp only
  split
  · exact hsession
  · exact h.queueUpgradeRequest env (h.moved _ hsession)

theorem PreservesSession.takeWorkerResult (hsession : P context.session) :
    P (takeWorkerResult env context).2.session := by
  have hcase := takeWorkerResult_cases env context
  generalize Daemon.takeWorkerResult env context = handled at hcase ⊢
  cases hcase with
  | empty | stale | refused => exact hsession
  | begun worker image =>
    have htried := @PreservesSession.tryUpgrade _ h env
      { context with worker := worker, firmware := some image } image hsession
    unfold beginUpgrade
    dsimp only
    split
    · dsimp only
      split
      · exact h.moved _ htried
      · exact htried
    · exact htried

theorem PreservesSession.handleTimer (hsession : P context.session) :
    P (handleTimer env context).2.session := by
  have hticked : P (tickSession env context).2.session := h.ticked _ _ _ hsession
  have hrecovered : ∀ {context : Context}, P context.session →
      P (tryRecovery env context).2.session := by
    intro context hsession
    unfold tryRecovery
    dsimp only
    split
    · exact h.queueUpgradeRequest env hsession
    · exact hsession
  unfold Daemon.handleTimer
  dsimp only
  split
  swap
  · exact hticked
  unfold handleTimeout
  split
  · dsimp only
    split
    · exact hrecovered hticked
    · exact h.moved _ (hrecovered hticked)
  split
  · rw [(queueClientResponse_sameDevice env _ _ _ _ _).session]
    exact hticked
  · exact hticked

theorem PreservesSession.startDeviceRequest (index : Slot) (request : IpcRequest)
    (hsession : P context.session) :
    P (startDeviceRequest env context index request).2.session := by
  have hresponse : ∀ {context : Context} {status : Int}, P context.session →
      P (queueClientResponse env context index request.command status []).2.session := by
    intro context status hsession
    rw [(queueClientResponse_sameDevice env _ _ _ _ _).session]
    exact hsession
  unfold Daemon.startDeviceRequest
  split
  · exact hresponse hsession
  split
  · exact hresponse hsession
  split
  · exact hresponse hsession
  split
  · exact hresponse hsession
  split
  · exact hresponse hsession
  split
  · exact hresponse hsession
  rename_i frame session hbegin
  have hqueued : P (queueFrame env (context.ownRequest session
      (.client (context.clients index).connection)) frame).2.session := by
    rw [queueFrame_session]
    exact h.begun hbegin hsession
  dsimp only
  split
  · exact hresponse (h.cancelled hqueued)
  · exact hqueued

theorem PreservesSession.startRequest (index : Slot) (request : IpcRequest)
    (hsession : P context.session) : P (startRequest env context index request).2.session := by
  have hresponse : ∀ {context : Context} {status : Int} {payload : List UInt8},
      P context.session →
      P (queueClientResponse env context index request.command status payload).2.session := by
    intro context status payload hsession
    rw [(queueClientResponse_sameDevice env _ _ _ _ _).session]
    exact hsession
  unfold Daemon.startRequest
  dsimp only
  split
  · unfold startGetTelemetry
    split
    · exact hresponse hsession
    · exact hresponse hsession
  split
  · unfold startUpgradeStatus
    split
    · exact hresponse hsession
    · exact hresponse hsession
  split
  · unfold startUpgrade
    split
    · exact hresponse hsession
    dsimp only
    split
    · exact hresponse hsession
    split
    · exact hresponse hsession
    · exact hresponse hsession
  · exact h.startDeviceRequest env index request hsession

theorem PreservesSession.preserves : Preserves fun context => P context.session where
  transport _ _ _ hsession := hsession
  stopped hsession := hsession
  worker _ hsession := hsession
  opened _ hsession := hsession
  admission epoll hsession := by
    obtain ⟨_, _, hadmitted⟩ := admitClient_eq _ epoll
    rw [hadmitted]
    exact hsession
  frame env frame hsession := by
    obtain ⟨changes, hnoted⟩ := recordChange_eq _ _ (Daemon.onDeviceFrame env frame _)
    rw [observeDeviceFrame, hnoted]
    exact h.onDeviceFrame env frame hsession
  completion env hsession := by
    obtain ⟨changes, hnoted⟩ := recordChange_eq _ _ (Daemon.takeWorkerResult env _)
    rw [observeWorkerResult, hnoted]
    exact h.takeWorkerResult env hsession
  timer env hsession := by
    obtain ⟨changes, hnoted⟩ := recordChange_eq _ _ (Daemon.handleTimer env _)
    rw [observeTimer, hnoted]
    exact h.handleTimer env hsession

theorem PreservesSession.init (hinit : P sessionInit) (hcontext : daemonSystem.init context) :
    P context.session := by
  obtain ⟨env, hstarted⟩ := hcontext
  have hsession : P (startHandshake env setupContext).2.session := by
    have hconnect := h.moved .connect hinit
    have hconnected := h.moved .transportConnected hconnect
    unfold startHandshake
    dsimp only
    split
    · exact hinit
    split
    · exact hconnect
    split
    · exact hconnected
    · rename_i frame session hbegin
      rw [queueFrame_session]
      exact h.begun hbegin hconnected
  rw [hstarted] at hsession
  exact hsession

/-- The rule for runs. -/
theorem PreservesSession.reachable (hinit : P sessionInit)
    (hreachable : daemonSystem.Reachable context) : P context.session := by
  have htable : PreservesTable fun context => P context.session :=
    ⟨fun _ _ hsession => hsession, fun _ hsession => hsession, fun _ _ hsession => hsession⟩
  refine @System.Reachable.invariant _ _ _ (fun context => P context.session)
    (fun _ => h.init hinit) ?_ _ hreachable
  intro before event after hbefore hstep
  refine h.preserves.step (fun env index event _ => ?_) hbefore hstep
  exact htable.event (fun request _ client => h.startRequest env index request hbefore) hbefore

end PreservesSession

/-- The next sequence number is not zero, at any time. -/
theorem nextSequence_ne_zero {context : Context} (h : daemonSystem.Reachable context) :
    context.session.nextSequence ≠ 0 := by
  have hpreserves : PreservesSession fun session => session.nextSequence ≠ 0 :=
    { counted := fun _ hsession => hsession
      cancelled := fun hsession => hsession
      completed := fun _ hsession => hsession
      moved := by
        intro session event hsession
        rw [(sessionTransition_frame session event).1]
        exact hsession
      begun := by
        intro session begun type flags payload policy nowNs request hbegin _
        obtain ⟨_, _, _, _, _, hnext, _⟩ := sessionBeginRequest_eq_ok hbegin
        rw [hnext]
        exact sequenceAfter_ne_zero _
      ticked := by
        intro session nowNs retransmit context hsession
        rcases sessionTick_cases session nowNs retransmit context with
          hticked | ⟨_, stats, hticked⟩ | ⟨_, deadline, retries, stats, hticked⟩
        · rw [hticked]
          exact hsession
        · rw [hticked]
          exact hsession
        · rw [hticked]
          exact hsession }
  exact hpreserves.reachable (by decide) h

end Daemon
