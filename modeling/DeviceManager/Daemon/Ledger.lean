import DeviceManager.Lib.SkipZero
import DeviceManager.Daemon.Answers
import DeviceManager.Daemon.Status

/-!
# What a run owes to its deeds

The deeds of a run say how many operations were begun, and what the device has acknowledged to
the current one.  The number of the operation and the state of the upgrade can be checked
against that.

* `Ledger`: the number of the current operation is the count of those begun, and the state of
  the upgrade has all acknowledgements that lead to it, in their order, since the operation was
  begun.
* `ledger_of_recorded`: this holds of every context of a run, and of the context that each request
  of the run was started in.
* `sameOperation`: two requests that saw the same number saw the same operation, or `2 ^ 32 - 1`
  others lie between them.
-/

namespace Daemon

open Devmgr
open scoped List

/-! ## Deeds of an upgrade -/

/-- The deed gives the next number to an operation. -/
def Deed.begins : Deed → Bool
  | .asked _ request context => decide (request.command = IpcCommand.upgrade ∧
      (parseUpgradeRequest request).isSome = true ∧ context.upgradeAllowed)
  | _ => false

/-- The type of the request that a frame acknowledges to the upgrade. -/
def Context.acknowledgedType (context : Context) (frame : Frame) : List UInt8 :=
  if context.takes frame ∧ context.session.state ≠ .handshaking ∧
      upgradeActive context.upgrade = true ∧ ¬ isFailure frame.type then
    [context.session.pending.frame.type]
  else []

def Deed.acknowledged : Deed → List UInt8
  | .heard context frame => context.acknowledgedType frame
  | _ => []

/-- The acknowledgements since the last operation was begun. -/
def acknowledgements (log : List Deed) : List UInt8 :=
  log.foldl (fun types deed => if deed.begins then [] else types ++ deed.acknowledged) []

theorem acknowledgements_append {more : List Deed} (h : ∀ deed ∈ more, deed.begins = false)
    (log : List Deed) : acknowledgements (log ++ more) =
      acknowledgements log ++ more.flatMap Deed.acknowledged := by
  induction more generalizing log with
  | nil => simp
  | cons deed more ih =>
    have hdeed : acknowledgements (log ++ [deed]) = acknowledgements log ++ deed.acknowledged := by
      unfold acknowledgements
      rw [List.foldl_append, List.foldl_cons, List.foldl_nil, h deed List.mem_cons_self]
      rfl
    rw [List.append_cons, ih (fun later hlater => h later (List.mem_cons_of_mem _ hlater)), hdeed,
      List.flatMap_cons, List.append_assoc]

theorem acknowledgements_begun {deed : Deed} (h : deed.begins = true) (log : List Deed) :
    acknowledgements (log ++ [deed]) = [] := by
  unfold acknowledgements
  rw [List.foldl_append, List.foldl_cons, List.foldl_nil, if_pos h]

/-! ## The way of an upgrade -/

/-- The requests that a device has acknowledged when the upgrade is in a state.  Those of the
data are left out: how many there are depends on the image. -/
def passed : UpgradeState → List UInt8
  | .idle | .validating | .enterBootloader | .error => []
  | .begin => [Msg.enterBootloader]
  | .transfer | .recover | .end => [Msg.enterBootloader, Msg.fwBegin]
  | .verify => [Msg.enterBootloader, Msg.fwBegin, Msg.fwEnd]
  | .activate => [Msg.enterBootloader, Msg.fwBegin, Msg.fwEnd, Msg.fwVerify]
  | .reboot => [Msg.enterBootloader, Msg.fwBegin, Msg.fwEnd, Msg.fwVerify, Msg.fwActivate]
  | .complete => [Msg.enterBootloader, Msg.fwBegin, Msg.fwEnd, Msg.fwVerify, Msg.fwActivate,
      Msg.reboot]

/-- A response moves the upgrade on by the request that it acknowledges. -/
theorem upgradeAcceptResponse_passed (upgrade : Upgrade) (requestType : UInt8)
    (response : Frame) :
    passed (upgradeAcceptResponse upgrade requestType response).2.state <+
      passed upgrade.state ++ if isFailure response.type then [] else [requestType] := by
  by_cases hfailure : isFailure response.type
  · have hrefused : upgradeAcceptResponse upgrade requestType response = upgrade.refuse :=
      if_pos hfailure
    rw [hrefused]
    exact List.nil_sublist _
  rw [if_neg hfailure]
  have haccepts := upgradeAcceptResponse_accepts upgrade requestType response
  generalize upgradeAcceptResponse upgrade requestType response = result at haccepts ⊢
  have hresume : ∀ resumed : Upgrade,
      passed resumed.resume.state = [Msg.enterBootloader, Msg.fwBegin] := by
    intro resumed
    rw [Upgrade.resume_state]
    split <;> rfl
  cases haccepts with
  | refused => exact List.nil_sublist _
  | entered hstate htype | ended hstate htype | verified hstate htype | activated hstate htype
  | rebooted hstate htype =>
    rw [hstate, htype]
    exact List.Sublist.refl _
  | begun hstate htype =>
    rw [hstate, htype, hresume]
    exact List.Sublist.refl _
  | transferred hstate | recovered hstate =>
    rw [hstate, hresume]
    exact List.sublist_append_left _ _

theorem onUpgradeResponse_passed (env : Env) (context : Context) (requestType : UInt8)
    (frame : Frame) :
    passed (onUpgradeResponse env context requestType frame).2.upgrade.state <+
      passed context.upgrade.state ++ if isFailure frame.type then [] else [requestType] := by
  have hpassed := upgradeAcceptResponse_passed context.upgrade requestType frame
  unfold onUpgradeResponse
  dsimp only
  split
  · exact hpassed
  split
  · exact hpassed
  · rw [(queueUpgradeRequest_spec env _).upgradeState]
    exact hpassed

/-- What is noted of a change is not in the upgrade. -/
theorem recordChange_upgrade (before : Context) (cause : ChangeCause) (handled : Int × Context) :
    (before.recordChange cause handled).2.upgrade = handled.2.upgrade := by
  obtain ⟨changes, hnoted⟩ := recordChange_eq before cause handled
  rw [hnoted]

theorem recordChange_operation (before : Context) (cause : ChangeCause)
    (handled : Int × Context) :
    (before.recordChange cause handled).2.upgradeOperationId = handled.2.upgradeOperationId := by
  obtain ⟨changes, hnoted⟩ := recordChange_eq before cause handled
  rw [hnoted]

theorem observeDeviceFrame_passed (env : Env) (frame : Frame) (context : Context) :
    passed (observeDeviceFrame env frame context).2.upgrade.state <+
      passed context.upgrade.state ++ context.acknowledgedType frame := by
  have hkept : (onDeviceFrame env frame context).2.upgrade = context.upgrade →
      passed (onDeviceFrame env frame context).2.upgrade.state <+
        passed context.upgrade.state ++ context.acknowledgedType frame := by
    intro hsame
    rw [hsame]
    exact List.sublist_append_left _ _
  unfold observeDeviceFrame
  rw [recordChange_upgrade]
  cases hactive : upgradeActive context.upgrade with
  | false => exact hkept (onDeviceFrame_inactive env frame hactive).upgrade
  | true =>
    by_cases htakes : context.takes frame
    swap
    · obtain ⟨stats, telemetry, count, hignored⟩ := onDeviceFrame_ignored env htakes
      exact hkept (by rw [hignored])
    by_cases hstate : context.session.state = .handshaking
    · refine hkept ?_
      rw [onDeviceFrame_taken env htakes]
      dsimp only
      rw [if_pos hstate]
      split
      · rfl
      · rfl
    · have hpassed := onUpgradeResponse_passed env
        { context with session := context.session.completed frame }
        context.session.pending.frame.type frame
      rw [onDeviceFrame_taken env htakes]
      dsimp only
      rw [if_neg hstate, if_pos hactive]
      refine hpassed.trans (List.Sublist.append_left ?_ _)
      unfold Context.acknowledgedType
      by_cases hfailure : isFailure frame.type
      · rw [if_pos hfailure]
        exact List.nil_sublist _
      · rw [if_neg hfailure, if_pos ⟨htakes, hstate, hactive, hfailure⟩]

/-- To resume needs no acknowledgement. -/
theorem tryRecovery_passed (env : Env) (context : Context) :
    passed (tryRecovery env context).2.upgrade.state <+ passed context.upgrade.state := by
  have hrecovery : passed (upgradeBeginRecovery context.upgrade).2.state <+
      passed context.upgrade.state := by
    unfold upgradeBeginRecovery
    split
    · exact List.Sublist.refl _
    rename_i hresumable
    split
    · exact List.nil_sublist _
    · obtain ⟨_, hstate⟩ := not_or.mp hresumable
      rw [not_and_or, not_not, not_not] at hstate
      rcases hstate with hstate | hstate
      · rw [hstate]
        exact List.Sublist.refl _
      · rw [hstate]
  unfold tryRecovery
  dsimp only
  split
  · rw [(queueUpgradeRequest_spec env _).upgradeState]
    exact hrecovery
  · exact hrecovery

theorem handleTimer_passed (env : Env) (context : Context) :
    passed (handleTimer env context).2.upgrade.state <+ passed context.upgrade.state := by
  have hcase := handleTimer_cases env context
  generalize handleTimer env context = handled at hcase ⊢
  cases hcase with
  | idle | retried | unclaimed => exact List.Sublist.refl _
  | answered =>
    rw [(queueClientResponse_sameDevice env _ _ _ _ _).upgrade]
    exact List.Sublist.refl _
  | recovered stats _ _ hupgrade =>
    have hactive : upgradeActive (context.expired stats).upgrade = true := hupgrade
    unfold handleTimeout
    rw [if_pos hactive]
    dsimp only
    split
    · exact tryRecovery_passed env (context.expired stats)
    · exact List.nil_sublist _

/-- An upgrade that starts has nothing acknowledged, nor has one that is given up. -/
theorem takeWorkerResult_passed (env : Env) (context : Context) :
    passed (takeWorkerResult env context).2.upgrade.state <+ passed context.upgrade.state := by
  have hcase := takeWorkerResult_cases env context
  generalize takeWorkerResult env context = handled at hcase ⊢
  cases hcase with
  | empty | stale => exact List.Sublist.refl _
  | refused => exact List.nil_sublist _
  | begun worker image =>
    have htried : passed (tryUpgrade env { context with worker := worker, firmware := some image }
        image).2.upgrade.state <+ passed context.upgrade.state := by
      unfold tryUpgrade
      split
      · exact List.Sublist.refl _
      rename_i upgrade hstart
      have hstarted : passed upgrade.state <+ passed context.upgrade.state := by
        rw [(upgradeStart_eq_ok hstart).2.1]
        exact List.nil_sublist _
      dsimp only
      split
      · exact hstarted
      · rw [(queueUpgradeRequest_spec env _).upgradeState]
        exact hstarted
    unfold beginUpgrade
    dsimp only
    split
    · exact List.nil_sublist _
    · exact htried

/-! ## The number of the operation -/

/-- Only a client can begin an operation. -/
theorem number_preserves (number : UInt32) :
    Preserves fun context => context.upgradeOperationId = number where
  transport _ _ _ h := h
  stopped h := h
  worker _ h := h
  opened _ h := h
  admission epoll h := by
    obtain ⟨_, _, hadmitted⟩ := admitClient_eq _ epoll
    rw [hadmitted]
    exact h
  frame {context} env frame h := by
    unfold observeDeviceFrame
    rw [recordChange_operation]
    have hcase := onDeviceFrame_cases env frame context
    generalize onDeviceFrame env frame context = handled at hcase ⊢
    cases hcase with
    | quiet | handshake | orphan => exact h
    | upgrade => exact (onUpgradeResponse_step env _ _ frame rfl).operation.trans h
    | client => exact (queueClientResponse_sameDevice env _ _ _ _ _).operation.trans h
  completion {context} env h := by
    unfold observeWorkerResult
    rw [recordChange_operation]
    have hcase := takeWorkerResult_cases env context
    generalize takeWorkerResult env context = handled at hcase ⊢
    cases hcase with
    | empty | refused | stale => exact h
    | begun => exact (beginUpgrade_step env _ _).operation.trans h
  timer {context} env h := by
    unfold observeTimer
    rw [recordChange_operation]
    have hcase := handleTimer_cases env context
    generalize handleTimer env context = handled at hcase ⊢
    cases hcase with
    | idle | retried | unclaimed => exact h
    | recovered stats _ _ hupgrade =>
      exact (handleTimeout_upgrade env (context.expired stats) rfl hupgrade).2.operation.trans h
    | answered => exact (queueClientResponse_sameDevice env _ _ _ _ _).operation.trans h

theorem startUpgrade_number (env : Env) {context : Context} (index : Slot) {request : IpcRequest}
    {upgradeRequest : UpgradeRequest} (hparse : parseUpgradeRequest request = some upgradeRequest)
    (hallowed : context.upgradeAllowed) :
    (startUpgrade env context index request).2.upgradeOperationId =
        operationAfter context.upgradeOperationId ∧
      passed (startUpgrade env context index request).2.upgrade.state = [] := by
  unfold startUpgrade
  rw [hparse]
  dsimp only
  rw [if_neg (not_not.mpr hallowed)]
  split
  · refine ⟨(queueClientResponse_sameDevice env _ _ _ _ _).operation, ?_⟩
    rw [(queueClientResponse_sameDevice env _ _ _ _ _).upgrade]
    rfl
  · refine ⟨(queueClientResponse_sameDevice env _ _ _ _ _).operation, ?_⟩
    rw [(queueClientResponse_sameDevice env _ _ _ _ _).upgrade]
    rfl

/-- A request that begins an operation gives it the next number and nothing to show yet; every
other request leaves number and record alone. -/
theorem startRequest_number (env : Env) (context : Context) (index : Slot) (request : IpcRequest)
    (client : Client) (connection : Nat) :
    let started := (startRequest env (context.setClient index client) index request).2
    if (Deed.asked connection request context).begins then
      started.upgradeOperationId = operationAfter context.upgradeOperationId ∧
        passed started.upgrade.state = []
    else
      started.upgradeOperationId = context.upgradeOperationId ∧
        started.upgrade = context.upgrade := by
  dsimp only
  have hcase := startRequest_cases env (context.setClient index client) index request
  by_cases hbegins : (Deed.asked connection request context).begins = true
  · rw [if_pos hbegins]
    obtain ⟨hcommand, hparsed, hallowed⟩ := of_decide_eq_true hbegins
    obtain ⟨upgradeRequest, hparse⟩ := Option.isSome_iff_exists.mp hparsed
    rw [startRequest_upgrade env _ index hcommand]
    exact startUpgrade_number env index hparse hallowed
  · rw [if_neg hbegins]
    generalize startRequest env (context.setClient index client) index request = handled
      at hcase ⊢
    cases hcase with
    | answered status payload =>
      exact ⟨(queueClientResponse_sameDevice env _ _ _ _ _).operation,
        (queueClientResponse_sameDevice env _ _ _ _ _).upgrade⟩
    | upgraded upgradeRequest status worker payload hcommand hparse hallowed hsubmit =>
      refine absurd (decide_eq_true ⟨hcommand, ?_, hallowed⟩) hbegins
      rw [hparse]
      rfl
    | cancelled session output offset status hfree hcancelled hsession hinactive hidle =>
      exact ⟨(queueClientResponse_sameDevice env _ _ _ _ _).operation,
        (queueClientResponse_sameDevice env _ _ _ _ _).upgrade⟩
    | sent session output offset hfree hpending hsession hstate hinactive hidle =>
      exact ⟨rfl, rfl⟩

/-! ## Runs -/

/-- What a context owes to the deeds before it. -/
structure Ledger (log : List Deed) (context : Context) : Prop where
  number : context.upgradeOperationId = operationAfter^[log.countP Deed.begins] 0
  state : passed context.upgrade.state <+ acknowledgements log

/-- Deeds that begin no operation. -/
theorem Ledger.goesOn {log deeds : List Deed} {context after : Context} (h : Ledger log context)
    (hnone : ∀ deed ∈ deeds, deed.begins = false)
    (hnumber : after.upgradeOperationId = context.upgradeOperationId)
    (hpassed : passed after.upgrade.state <+
      passed context.upgrade.state ++ deeds.flatMap Deed.acknowledged) :
    Ledger (log ++ deeds) after where
  number := by
    have hcount : deeds.countP Deed.begins = 0 := by
      rw [List.countP_eq_zero]
      exact fun deed hdeed => by rw [hnone deed hdeed]; decide
    rw [hnumber, h.number, List.countP_append, hcount, Nat.add_zero]
  state := by
    rw [acknowledgements_append hnone]
    exact hpassed.trans (h.state.append_right _)

theorem deeds_client {context : Context} {env : Env} {index : Slot} {event : ClientEvent}
    {requested : Option IpcRequest}
    (h : context.requested (.client env index event) = requested) :
    context.deeds (.client env index event) = (requested.map fun request =>
      .asked (context.clients index).connection request context).toList := by
  rw [← h]
  rfl

/-- The client table has neither the number nor the record. -/
theorem record_preservesTable (P : UInt32 → Upgrade → Prop) :
    PreservesTable fun context => P context.upgradeOperationId context.upgrade where
  setClient _ _ h := h
  close _ h := h
  noted _ _ h := h

theorem Ledger.clientEvent {log : List Deed} {context : Context} (h : Ledger log context)
    (env : Env) (index : Slot) (event : ClientEvent) :
    Ledger (log ++ context.deeds (.client env index event))
      (observeClientEvent env context index event).2 := by
  have htable := record_preservesTable
  rcases hrequested : context.requested (.client env index event) with _ | request
  · rw [deeds_client hrequested]
    have hkept := (htable fun number upgrade =>
      number = context.upgradeOperationId ∧ upgrade = context.upgrade).event
      (fun request hrequest => absurd (hrequested.symm.trans hrequest) nofun) ⟨rfl, rfl⟩
    refine h.goesOn (fun _ hdeed => absurd hdeed List.not_mem_nil) hkept.1 ?_
    rw [hkept.2]
    exact List.sublist_append_left _ _
  rw [deeds_client hrequested]
  show Ledger (log ++ [.asked (context.clients index).connection request context]) _
  obtain ⟨deed, hdeed⟩ : ∃ deed, deed = Deed.asked (context.clients index).connection request
    context := ⟨_, rfl⟩
  have hstarted := fun client => startRequest_number env context index request client
    (context.clients index).connection
  dsimp only at hstarted
  rw [← hdeed] at hstarted ⊢
  by_cases hbegins : deed.begins = true
  · have hbegun := (htable fun number upgrade =>
      number = operationAfter context.upgradeOperationId ∧ passed upgrade.state = []).started
      hrequested fun client => by
        have hclient := hstarted client
        rw [if_pos hbegins] at hclient
        exact hclient
    refine ⟨?_, ?_⟩
    · rw [hbegun.1, h.number, List.countP_append, List.countP_singleton, if_pos hbegins,
        Function.iterate_succ_apply']
    · rw [hbegun.2]
      exact List.nil_sublist _
  · have hkept := (htable fun number upgrade =>
      number = context.upgradeOperationId ∧ upgrade = context.upgrade).started
      hrequested fun client => by
        have hclient := hstarted client
        rw [if_neg hbegins] at hclient
        exact hclient
    refine h.goesOn ?_ hkept.1 ?_
    · intro other hother
      rw [List.mem_singleton.mp hother]
      exact Bool.eq_false_iff.mpr hbegins
    · rw [hkept.2]
      exact List.sublist_append_left _ _

/-- The other events begin nothing. -/
theorem deeds_of_device (context : Context) {event : Event}
    (h : ∀ env index clientEvent, event ≠ .client env index clientEvent) :
    ∀ deed ∈ context.deeds event, deed.begins = false := by
  intro deed hdeed
  cases event with
  | client env index clientEvent => exact absurd rfl (h env index clientEvent)
  | listener | signal | workerThread | worker => exact absurd hdeed List.not_mem_nil
  | timer env =>
    rw [(mem_deeds_timer.mp hdeed).1]
    rfl
  | transport env transportEvent =>
    obtain ⟨call, _, rfl⟩ := List.mem_map.mp hdeed
    rfl

/-- The frames of an event, one after the other, with what each acknowledges. -/
theorem passed_preservesCalls (before : List UInt8) :
    PreservesCalls fun calls context => passed context.upgrade.state <+
      before ++ calls.flatMap fun call => call.1.acknowledgedType call.2 where
  transport _ _ _ h := h
  frame := by
    intro calls context env frame h _
    rw [List.flatMap_append, List.flatMap_singleton, ← List.append_assoc]
    exact (observeDeviceFrame_passed env frame context).trans (h.append_right _)
  stopped h := h
  thread _ h := h
  admission epoll h := by
    obtain ⟨_, _, hadmitted⟩ := admitClient_eq _ epoll
    rw [hadmitted]
    exact h
  timer := by
    intro context env h _
    unfold observeTimer
    rw [recordChange_upgrade]
    exact (handleTimer_passed env context).trans h

/-- An event that is not of a client brings the operation what its deeds acknowledge. -/
theorem daemonStep_passed {context after : Context} {event : Event}
    (h : ∀ env index clientEvent, event ≠ .client env index clientEvent)
    (hstep : daemonStep context event = some after) :
    passed after.upgrade.state <+
      passed context.upgrade.state ++ (context.deeds event).flatMap Deed.acknowledged := by
  have hpassed := (passed_preservesCalls (passed context.upgrade.state)).step
    (fun env index clientEvent hevent => absurd hevent (h env index clientEvent))
    (fun env worker _ _ _ => by
      unfold observeWorkerResult
      rw [recordChange_upgrade]
      exact (takeWorkerResult_passed env { context with worker := worker }).trans
        (List.sublist_append_left _ _))
    (List.sublist_append_left _ _) hstep
  refine hpassed.trans (List.Sublist.append_left ?_ _)
  cases event with
  | transport env transportEvent =>
    rw [show context.deeds (.transport env transportEvent) =
      (context.deviceCalls _).map fun call => .heard call.1 call.2 from rfl, List.flatMap_map]
    exact List.Sublist.refl _
  | _ => exact List.nil_sublist _

theorem Ledger.daemonStep {log : List Deed} {context after : Context} {event : Event}
    (h : Ledger log context) (hstep : Daemon.daemonStep context event = some after) :
    Ledger (log ++ context.deeds event) after := by
  have hhandled := handleEvent_of_daemonStep hstep
  by_cases hclient : ∃ env index clientEvent, event = .client env index clientEvent
  · obtain ⟨env, index, clientEvent, rfl⟩ := hclient
    have hobserved : observeClientEvent env context index clientEvent = (_, after) :=
      Option.some.inj hhandled
    have hledger := h.clientEvent env index clientEvent
    rw [hobserved] at hledger
    exact hledger
  · have hdevice : ∀ env index clientEvent, event ≠ .client env index clientEvent :=
      fun env index clientEvent hevent => hclient ⟨env, index, clientEvent, hevent⟩
    have hnumber : after.upgradeOperationId = context.upgradeOperationId :=
      (number_preserves context.upgradeOperationId).step
        (fun env index clientEvent hevent => absurd hevent (hdevice env index clientEvent)) rfl
        hstep
    exact h.goesOn (deeds_of_device context hdevice) hnumber (daemonStep_passed hdevice hstep)

/-- The deeds of a run and the context it has come to. -/
def Recorded (log : List Deed) (context : Context) : Prop :=
  ∃ start, daemonSystem.init start ∧
    daemonSystem.Trace (fun _ _ => True) Context.deeds start log context

/-- The context that a request was started in owes what the run did before. -/
def Deed.Owes (before : List Deed) : Deed → Prop
  | .asked _ _ context => Ledger before context
  | _ => True

/-- An event starts at most one request, in the context it happens in. -/
theorem Ledger.deeds {log : List Deed} {context : Context} (h : Ledger log context)
    {event : Event} {before after : List Deed} {deed : Deed}
    (hdeeds : context.deeds event = before ++ deed :: after) : deed.Owes (log ++ before) := by
  cases deed with
  | heard | expired => trivial
  | asked connection request asked =>
    have hmem : Deed.asked connection request asked ∈ context.deeds event := by
      rw [hdeeds]
      exact List.mem_append_right _ List.mem_cons_self
    cases event with
    | listener | signal | workerThread | worker => exact absurd hmem List.not_mem_nil
    | timer => cases (mem_deeds_timer.mp hmem).1
    | transport =>
      obtain ⟨_, _, hheard⟩ := List.mem_map.mp hmem
      cases hheard
    | client env index event =>
      rcases hrequested : context.requested (.client env index event) with _ | started
      · rw [deeds_client hrequested] at hmem
        exact absurd hmem List.not_mem_nil
      · rw [deeds_client hrequested] at hdeeds
        cases before with
        | nil =>
          obtain ⟨hsame, _⟩ := List.cons.inj hdeeds
          cases hsame
          rw [List.append_nil]
          exact h
        | cons first before => exact absurd (List.cons.inj hdeeds).2 (by simp)

/-- The deeds before each request that was started, and those of the whole run, are what its
context owes. -/
theorem ledger_of_recorded {log : List Deed} {context : Context} (h : Recorded log context) :
    Ledger log context ∧ System.Historic Deed.Owes log := by
  obtain ⟨start, hinit, htrace⟩ := h
  refine htrace.invariant (R := fun log context => Ledger log context ∧
    System.Historic Deed.Owes log) ?_ ?_
  · obtain ⟨env, hstart⟩ := hinit
    obtain ⟨session, output, offset, _, _, rfl⟩ := startHandshake_eq hstart
    exact ⟨⟨rfl, List.nil_sublist _⟩, fun before deed after hlog => absurd hlog (by simp)⟩
  · rintro log context event next ⟨hledger, howes⟩ - hstep
    exact ⟨hledger.daemonStep hstep, howes.append fun _ _ _ hdeeds => hledger.deeds hdeeds⟩

/-! ## The same operation -/

theorem operationAfter_toNat (number : UInt32) :
    (operationAfter number).toNat = SkipZero.next (2 ^ 32) number.toNat := by
  have hbound := number.toNat_lt
  have hsum : (number + 1).toNat = (number.toNat + 1) % 2 ^ 32 := UInt32.toNat_add _ _
  unfold operationAfter SkipZero.next
  by_cases hwrap : number.toNat + 1 = 2 ^ 32
  · rw [hwrap, Nat.mod_self] at hsum
    rw [if_pos (UInt32.toNat_inj.mp hsum), if_pos hwrap]
    rfl
  · rw [Nat.mod_eq_of_lt (by omega)] at hsum
    rw [if_neg fun hzero => ?_, if_neg hwrap, hsum]
    rw [hzero] at hsum
    cases hsum

theorem operationAfter_iterate_toNat (steps : Nat) (number : UInt32) :
    (operationAfter^[steps] number).toNat = SkipZero.iter (2 ^ 32) steps number.toNat := by
  induction steps with
  | zero => rfl
  | succ steps ih =>
    rw [Function.iterate_succ_apply', operationAfter_toNat, ih]
    rfl

/-- A number comes back after all the others. -/
theorem operationAfter_iterate_back {steps : Nat} {number : UInt32} (hsteps : steps ≠ 0)
    (h : operationAfter^[steps] (operationAfter number) = operationAfter number) :
    2 ^ 32 - 1 ≤ steps := by
  have hpos : 0 < (operationAfter number).toNat := by
    rw [operationAfter_toNat, SkipZero.next]
    split <;> omega
  have hback := congrArg UInt32.toNat h
  rw [operationAfter_iterate_toNat] at hback
  have hle := SkipZero.sub_one_le_of_iter_eq hpos (operationAfter number).toNat_lt
    (Nat.pos_of_ne_zero hsteps) hback.symm
  exact hle

/-- A request that sees the number of the operation that another began sees that operation, and
the device has acknowledged since what its state says; or all other numbers were given away in
between. -/
theorem sameOperation {log front between rear : List Deed} (h : System.Historic Deed.Owes log)
    {first second : Nat} {request question : IpcRequest} {accepted status : Context}
    (hlog : log = front ++ .asked first request accepted ::
      (between ++ .asked second question status :: rear))
    (hbegins : (Deed.asked first request accepted).begins = true)
    (hnumber : status.upgradeOperationId = operationAfter accepted.upgradeOperationId) :
    2 ^ 32 - 1 ≤ between.countP Deed.begins ∨
      passed status.upgrade.state <+ between.flatMap Deed.acknowledged := by
  have haccepted : Ledger front accepted := h _ _ _ hlog
  have hstatus : Ledger (front ++ [.asked first request accepted] ++ between) status := by
    refine h (front ++ [.asked first request accepted] ++ between) (.asked second question status)
      rear ?_
    rw [hlog]
    simp only [List.append_assoc, List.cons_append, List.nil_append]
  by_cases hcount : between.countP Deed.begins = 0
  · have hnone : ∀ deed ∈ between, deed.begins = false := fun deed hdeed =>
      Bool.eq_false_iff.mpr (List.countP_eq_zero.mp hcount deed hdeed)
    have hstate := hstatus.state
    rw [acknowledgements_append hnone, acknowledgements_begun hbegins, List.nil_append] at hstate
    exact .inr hstate
  · refine .inl (@operationAfter_iterate_back _ accepted.upgradeOperationId hcount ?_)
    have hiterated := hstatus.number
    rw [List.countP_append, List.countP_append, List.countP_singleton, if_pos hbegins,
      Nat.add_comm, Function.iterate_add_apply, Function.iterate_succ_apply',
      ← haccepted.number] at hiterated
    rw [← hiterated, hnumber]

end Daemon
