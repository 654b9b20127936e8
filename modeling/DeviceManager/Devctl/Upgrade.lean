import DeviceManager.Daemon.Ledger
import DeviceManager.Devctl.Sockets
import DeviceManager.Devctl.Format

/-!
# What an exit code says

`devctl upgrade` sends its request on one connection and asks for the status on others, which
it makes afterwards, while the daemon serves whoever else there is.  `Asking` is such a process
in a run of the sockets.

* `booked_of_reachable`: the deeds of a run of the sockets are those of a run of the daemon, and
  a request in them came over a connection that was made.
* `upgrade_exit_zero`: the process exits with zero only if the daemon began its operation, and a
  later question found it complete.
-/

namespace Devctl

open Devmgr Daemon
open scoped List

/-! ## The log -/

structure Booked (sockets : Sockets) : Prop where
  sound : Sound sockets
  recorded : Recorded sockets.log sockets.daemon
  connected : ∀ connection request context, Deed.asked connection request context ∈ sockets.log →
    connection < sockets.peers.length

theorem emit_length (context : Context) (peers : List Peer) (event : Daemon.Event) :
    (emit context peers event).length = peers.length := by
  unfold emit
  split
  · exact List.length_modify _ _ _
  · rfl

/-- A request is started for a client that is there. -/
theorem asked_connected {sockets : Sockets} (h : Sound sockets) {event : Daemon.Event}
    {connection : Nat} {request : IpcRequest} {context : Context}
    (hasked : Deed.asked connection request context ∈ sockets.daemon.deeds event) :
    connection < sockets.peers.length := by
  cases event with
  | listener | signal | workerThread | worker => exact absurd hasked List.not_mem_nil
  | timer => cases (mem_deeds_timer.mp hasked).1
  | transport =>
    obtain ⟨_, _, hheard⟩ := List.mem_map.mp hasked
    cases hheard
  | client env index event =>
    rcases hrequested : sockets.daemon.requested (.client env index event) with _ | started
    · rw [deeds_client hrequested] at hasked
      exact absurd hasked List.not_mem_nil
    · rw [deeds_client hrequested] at hasked
      cases List.mem_singleton.mp hasked
      have hopen : (sockets.daemon.clients index).isOpen = true := by
        unfold Context.requested at hrequested
        dsimp only at hrequested
        split at hrequested
        · rename_i hread
          exact hread.1
        · cases hrequested
      obtain ⟨peer, hpeer, _⟩ := h.served.clients index hopen
      exact (List.getElem?_eq_some_iff.mp hpeer).1

theorem Booked.step {sockets after : Sockets} {event : SocketEvent} (h : Booked sockets)
    (hstep : sockets.step event = some after) : Booked after := by
  have hsound := h.sound.step hstep
  cases event with
  | daemon event =>
    rw [Sockets.step] at hstep
    split at hstep
    · obtain ⟨daemon, hdaemon, rfl⟩ := Option.map_eq_some_iff.mp hstep
      obtain ⟨start, hinit, htrace⟩ := h.recorded
      refine ⟨hsound, ⟨start, hinit, htrace.step trivial hdaemon⟩, ?_⟩
      intro connection request context hasked
      show connection < (emit sockets.daemon sockets.peers event).length
      rw [emit_length]
      rcases List.mem_append.mp hasked with hbefore | hnow
      · exact h.connected connection request context hbefore
      · exact asked_connected h.sound hnow
    · cases hstep
  | connect request =>
    obtain rfl := Option.some.inj hstep
    refine ⟨hsound, h.recorded, fun connection request context hasked => ?_⟩
    have hlength := h.connected connection request context hasked
    show connection < (sockets.peers ++ [_]).length
    rw [List.length_append]
    exact Nat.lt_add_right _ hlength
  | peer connection event =>
    obtain ⟨peer, _, hpeerStep⟩ := Option.bind_eq_some_iff.mp hstep
    obtain ⟨peer', _, rfl⟩ := Option.map_eq_some_iff.mp hpeerStep
    refine ⟨hsound, h.recorded, fun other request context hasked => ?_⟩
    show other < (sockets.peers.set connection peer').length
    rw [List.length_set]
    exact h.connected other request context hasked

theorem booked_of_init {sockets : Sockets} (h : socketSystem.init sockets) : Booked sockets := by
  have hsound := sound_of_init h
  obtain ⟨hdaemon, _, hlog⟩ := h
  refine ⟨hsound, ⟨sockets.daemon, hdaemon, ?_⟩, ?_⟩
  · rw [hlog]
    exact .start
  · rw [hlog]
    exact fun _ _ _ hasked => absurd hasked List.not_mem_nil

theorem booked_of_reachable {sockets : Sockets} (h : socketSystem.Reachable sockets) :
    Booked sockets :=
  h.invariant (fun _ => booked_of_init) fun _ _ _ hbooked hstep => hbooked.step hstep

/-- Nothing is struck from the log. -/
theorem log_grows {sockets later : Sockets} {events : List SocketEvent}
    (h : socketSystem.runFrom sockets events = some later) : sockets.log <+: later.log := by
  induction events generalizing sockets with
  | nil =>
    obtain rfl := Option.some.inj h
    exact List.prefix_refl _
  | cons event events ih =>
    obtain ⟨next, hstep, hrest⟩ := Option.bind_eq_some_iff.mp h
    refine List.IsPrefix.trans ?_ (ih hrest)
    change sockets.step event = some next at hstep
    cases event with
    | daemon event =>
      rw [Sockets.step] at hstep
      split at hstep
      · obtain ⟨daemon, _, rfl⟩ := Option.map_eq_some_iff.mp hstep
        exact List.prefix_append _ _
      · cases hstep
    | connect request =>
      obtain rfl := Option.some.inj hstep
      exact List.prefix_refl _
    | peer connection event =>
      obtain ⟨peer, _, hpeerStep⟩ := Option.bind_eq_some_iff.mp hstep
      obtain ⟨peer', _, rfl⟩ := Option.map_eq_some_iff.mp hpeerStep
      exact List.prefix_refl _

/-! ## Answers -/

/-- Four bytes and no error for an `IPC_UPGRADE`: the operation was begun. -/
theorem answers_upgrade {connection : Nat} {request : IpcRequest} {deed : Deed}
    {response : IpcResponse} (h : deed.Answers connection request response)
    (hcommand : request.command = IpcCommand.upgrade) (hlength : response.payload.length = 4) :
    ∃ context upgradeRequest, deed = .asked connection request context ∧
      parseUpgradeRequest request = some upgradeRequest ∧ context.upgradeAllowed ∧
      getLe32 response.payload = operationAfter context.upgradeOperationId := by
  cases h with
  | heard hsettles => exact absurd hcommand hsettles.sends.device.2.2
  | expired hsends => exact absurd hcommand hsends.device.2.2
  | @asked context status payload himmediate =>
    cases himmediate with
    | telemetry htelemetry => exact absurd (hcommand.symm.trans htelemetry) (by decide)
    | status hstatus => exact absurd (hcommand.symm.trans hstatus) (by decide)
    | refused | unwatched => cases hlength
    | upgrade upgradeRequest _ hparse hallowed =>
      exact ⟨context, upgradeRequest, rfl, hparse, hallowed, getLe32_putLe32_self _⟩

/-- Twenty bytes for a question: they are the status of the operation with its number. -/
theorem answers_status {connection : Nat} {operation : UInt32} {deed : Deed}
    {response : IpcResponse} (h : deed.Answers connection (statusRequest operation) response)
    (hlength : response.payload.length = 20) :
    ∃ context, deed = .asked connection (statusRequest operation) context ∧
      context.upgradeOperationId = operation ∧
      byteAt response.payload 4 = context.upgrade.state.code := by
  cases h with
  | heard hsettles => exact absurd rfl hsettles.sends.device.2.1
  | expired hsends => exact absurd rfl hsends.device.2.1
  | @asked context status payload himmediate =>
    cases himmediate with
    | telemetry htelemetry => exact absurd htelemetry nofun
    | upgrade _ hupgrade => exact absurd hupgrade nofun
    | refused | unwatched => cases hlength
    | status _ _ _ hsame =>
      exact ⟨context, rfl, hsame.symm.trans (getLe32_putLe32_self _), rfl⟩

/-! ## The process -/

theorem pollUpgrade_zero {operation : UInt32} {polls : List (CallResult IpcResponse)}
    {previousState : UInt8} {previousOffset : UInt32}
    (h : (pollUpgrade operation polls previousState previousOffset).exitCode = some 0) :
    ∃ response, CallResult.done response ∈ polls ∧ statusOf operation response ∧
      byteAt response.payload 4 = UpgradeState.complete.code := by
  fun_induction pollUpgrade operation polls previousState previousOffset with
  | case1 | case2 | case3 | case4 | case6 => cases h
  | case5 response polls _ _ hstatus _ _ _ _ hcomplete =>
    exact ⟨response, List.mem_cons_self, not_not.mp hstatus, hcomplete⟩
  | case7 response polls _ _ hstatus _ _ _ _ hcomplete herror _ ih =>
    obtain ⟨later, hmem, hlater⟩ := ih h
    exact ⟨later, List.mem_cons_of_mem _ hmem, hlater⟩

/-- What the exchange on a connection has come to. -/
def Sockets.outcome (sockets : Sockets) (connection : Nat) : CallResult IpcResponse :=
  (sockets.peers[connection]?.map Peer.outcome).getD .waiting

/-- A run of `devctl` with a request: by `started` it has sent the request on a connection, and
it asks for the status of the operation on connections that it makes afterwards. -/
structure Asking (started sockets : Sockets) (request : IpcRequest) (first : Nat)
    (polls : List Nat) : Prop where
  reachable : socketSystem.Reachable started
  later : ∃ events, socketSystem.runFrom started events = some sockets
  request : ∀ peer, started.peers[first]? = some peer → peer.request = request
  polls : ∀ response, started.outcome first = .done response → ∀ connection ∈ polls,
    started.peers.length ≤ connection ∧ ∀ peer, sockets.peers[connection]? = some peer →
      peer.request = statusRequest (getLe32 response.payload)

/-- A response on a connection is that of a deed in the log. -/
theorem outcome_told {sockets : Sockets} (h : socketSystem.Reachable sockets) {connection : Nat}
    {response : IpcResponse} (hdone : sockets.outcome connection = .done response) :
    ∃ peer, sockets.peers[connection]? = some peer ∧
      Told sockets.log connection peer.request response := by
  unfold Sockets.outcome at hdone
  rcases hpeer : sockets.peers[connection]? with _ | peer
  · rw [hpeer] at hdone
    cases hdone
  · rw [hpeer] at hdone
    change peer.outcome = .done response at hdone
    have hexchanged := (sound_of_reachable h).outcome hpeer
    rw [hdone] at hexchanged
    cases hexchanged with
    | done _ htold => exact ⟨peer, rfl, htold⟩

theorem main_zero {realpath : Argument → Option ResolvedPath} {operands : List Argument}
    {request : IpcRequest} (hasked : command realpath operands = .ok request)
    (hupgrade : request.command = IpcCommand.upgrade)
    {first : IpcRequest → CallResult IpcResponse} {polls : List (CallResult IpcResponse)}
    {elapsedNs : UInt64} (h : (main realpath operands first polls elapsedNs).exitCode = some 0) :
    ∃ response status, first request = .done response ∧ response.payload.length = 4 ∧
      CallResult.done status ∈ polls ∧ statusOf (getLe32 response.payload) status ∧
      byteAt status.payload 4 = UpgradeState.complete.code := by
  unfold main at h
  rw [hasked] at h
  dsimp only at h
  rcases hfirst : first request with _ | failure | response
  · rw [hfirst] at h
    cases h
  · rw [hfirst] at h
    cases h
  rw [hfirst] at h
  dsimp only at h
  by_cases hok : response.status = 0
  · rw [if_pos ⟨hupgrade, hok⟩] at h
    change (waitForUpgrade polls response).exitCode = some 0 at h
    unfold waitForUpgrade at h
    split at h
    · cases h
    · rename_i hanswer
      obtain ⟨_, hlength⟩ := not_or.mp hanswer
      obtain ⟨status, hmem, hstatus, hcomplete⟩ := pollUpgrade_zero h
      exact ⟨response, status, rfl, not_not.mp hlength, hmem, hstatus, hcomplete⟩
  · rw [if_neg fun hboth => hok hboth.2, if_neg hok] at h
    cases h

/-- The path of an upgrade is that of its operand. -/
theorem asked_path {realpath : Argument → Option ResolvedPath} {operands : List Argument}
    {request : IpcRequest} (hasked : command realpath operands = .ok request)
    (hupgrade : request.command = IpcCommand.upgrade) {upgradeRequest : UpgradeRequest}
    (hparse : parseUpgradeRequest request = some upgradeRequest) :
    ∃ operand ∈ operands, ∃ resolved, realpath operand = some resolved ∧
      upgradeRequest.path.bytes = resolved.bytes := by
  cases command_cases hasked with
  | plain _ hcommand =>
    rw [hupgrade] at hcommand
    exact absurd hcommand (by decide)
  | interval => exact absurd hupgrade nofun
  | operation => exact absurd hupgrade nofun
  | @upgrade _ name operand rest resolved version hoperands hresolved hversion _ hpayload =>
    refine ⟨operand, ?_, resolved, hresolved, ?_⟩
    · rw [hoperands]
      exact List.mem_cons_of_mem _ List.mem_cons_self
    · have hbuilt := parseUpgradeRequest_built resolved.nonzero resolved.nonempty
        (hversion ▸ version_nonzero rest) hpayload
      rw [hparse, Option.map_some] at hbuilt
      split at hbuilt
      · cases hbuilt
      · exact (Prod.mk.inj (Option.some.inj hbuilt)).1

/-- Only one state has the number of `COMPLETE`. -/
theorem complete_of_code {state : UpgradeState} (h : state.code = UpgradeState.complete.code) :
    state = .complete := by
  cases state <;> first | rfl | exact absurd h (by decide)

/-- In any run of the daemon with any number of clients: `devctl upgrade` exits with zero only
if the daemon read the path of its operand and began the operation, and a later question of the
same process found it complete.  In between the device has acknowledged every phase, in order,
unless the daemon has meanwhile begun `2 ^ 32 - 1` other operations. -/
theorem upgrade_exit_zero {realpath : Argument → Option ResolvedPath} {operands : List Argument}
    {request : IpcRequest} (hasked : command realpath operands = .ok request)
    (hupgrade : request.command = IpcCommand.upgrade) {started sockets : Sockets} {first : Nat}
    {polls : List Nat} (h : Asking started sockets request first polls) {elapsedNs : UInt64}
    (hexit : (main realpath operands (fun _ => started.outcome first)
      (polls.map sockets.outcome) elapsedNs).exitCode = some 0) :
    ∃ accepted status upgradeRequest front between rear, ∃ poll ∈ polls, ∃ operand ∈ operands,
      ∃ resolved, realpath operand = some resolved ∧
      parseUpgradeRequest request = some upgradeRequest ∧
      upgradeRequest.path.bytes = resolved.bytes ∧ accepted.upgradeAllowed ∧
      sockets.log = front ++ .asked first request accepted :: (between ++
        .asked poll (statusRequest (operationAfter accepted.upgradeOperationId)) status :: rear) ∧
      status.upgradeOperationId = operationAfter accepted.upgradeOperationId ∧
      status.upgrade.state = .complete ∧
      (2 ^ 32 - 1 ≤ between.countP Deed.begins ∨
        [Msg.enterBootloader, Msg.fwBegin, Msg.fwEnd, Msg.fwVerify, Msg.fwActivate, Msg.reboot] <+
          between.flatMap Deed.acknowledged) := by
  obtain ⟨response, answer, hfirst, hlength, hmem, ⟨_, htwenty, _⟩, hcode⟩ :=
    main_zero hasked hupgrade hexit
  -- the request, in the log up to `started`
  obtain ⟨peer, hpeer, deed, hdeed, hanswers⟩ := outcome_told h.reachable hfirst
  rw [h.request peer hpeer] at hanswers
  obtain ⟨accepted, upgradeRequest, rfl, hparse, hallowed, hoperation⟩ :=
    answers_upgrade hanswers hupgrade hlength
  -- the question, in the log up to now
  obtain ⟨poll, hpoll, hdone⟩ := List.mem_map.mp hmem
  obtain ⟨hnew, hquestion⟩ := h.polls response hfirst poll hpoll
  obtain ⟨events, hrun⟩ := h.later
  have hreachable : socketSystem.Reachable sockets :=
    System.ReachableBy.runFrom h.reachable (fun _ _ _ => trivial) hrun
  obtain ⟨asker, hasker, later, hlater, htold⟩ := outcome_told hreachable hdone
  rw [hquestion asker hasker, hoperation] at htold
  obtain ⟨status, rfl, hnumber, hstate⟩ := answers_status htold htwenty
  -- it is not among those before, which came over connections that were there
  obtain ⟨more, hlog⟩ := log_grows hrun
  rw [← hlog] at hlater
  have hafter := (List.mem_append.mp hlater).resolve_left fun hbefore => by
    have hconnected := (booked_of_reachable h.reachable).connected _ _ _ hbefore
    omega
  obtain ⟨front, rest, hfront⟩ := List.append_of_mem hdeed
  obtain ⟨between, rear, hrear⟩ := List.append_of_mem hafter
  have hwhole : sockets.log = front ++ .asked first request accepted :: ((rest ++ between) ++
      .asked poll (statusRequest (operationAfter accepted.upgradeOperationId)) status :: rear) := by
    rw [← hlog, hfront, hrear]
    simp only [List.append_assoc, List.cons_append]
  have hcomplete : status.upgrade.state = .complete := complete_of_code (hstate.symm.trans hcode)
  have hbegins : (Deed.asked first request accepted).begins = true :=
    decide_eq_true ⟨hupgrade, by rw [hparse]; rfl, hallowed⟩
  have hphases := sameOperation
    (ledger_of_recorded (booked_of_reachable hreachable).recorded).2 hwhole hbegins hnumber
  rw [hcomplete] at hphases
  obtain ⟨operand, hoperand, resolved, hresolved, hpath⟩ := asked_path hasked hupgrade hparse
  exact ⟨accepted, status, upgradeRequest, front, rest ++ between, rear, poll, hpoll, operand,
    hoperand, resolved, hresolved, hparse, hpath, hallowed, hwhole, hnumber, hcomplete, hphases⟩

/-- What `upgradeOperands` ask for. -/
def imageRequest : IpcRequest :=
  ⟨IpcCommand.upgrade, upgradePayload (text ['/', 'a']) defaultVersion,
    Nat.le_of_ble_eq_true rfl⟩

/-- A client sends its request whole, and is answered at once. -/
def serveClient (request : IpcRequest) : SocketEvent :=
  .daemon (.client calmEnv firstSlot
    ⟨true, [.ofBytes (ipcRequestBytes request)], true, [.wrote 40], false⟩)

/-- The daemon is connected to a device, and a process sends its request. -/
def requestEvents : List SocketEvent :=
  [.daemon (deviceSends handshakeReply), .connect imageRequest,
    .daemon (.listener [.accepted true]), .peer 0 (.write (.took 40)), serveClient imageRequest,
    .peer 0 (.arrive 40)]

/-- An image of one byte is installed, and the process asks how far it is. -/
def installEvents : List SocketEvent :=
  (validationEvents ++
    [deviceSends ⟨Msg.enterBootloader, Flag.response, 2, [], Nat.zero_le _⟩,
      deviceSends ⟨Msg.fwBegin, Flag.response, 3, putLe32 2 ++ putLe32 1,
        Nat.le_of_ble_eq_true rfl⟩,
      deviceSends ⟨Msg.fwEnd, Flag.response, 4, [], Nat.zero_le _⟩,
      deviceSends ⟨Msg.fwVerify, Flag.response, 5, putLe32 (crc32 [0xAB]),
        Nat.le_of_ble_eq_true rfl⟩,
      deviceSends ⟨Msg.fwActivate, Flag.response, 6, [], Nat.zero_le _⟩,
      deviceSends ⟨Msg.reboot, Flag.response, 7, [], Nat.zero_le _⟩]).map .daemon ++
    [.connect (statusRequest 1), .daemon (.listener [.accepted true]),
      .peer 1 (.write (.took 40)), serveClient (statusRequest 1), .peer 1 (.arrive 40)]

theorem upgrade_exit_zero_installed :
    ∃ started sockets, socketSystem.runFrom ⟨handshakeContext, [], []⟩ requestEvents =
        some started ∧
      socketSystem.runFrom started installEvents = some sockets ∧
      (main rootPath upgradeOperands (fun _ => started.outcome 0) ([1].map sockets.outcome)
        0).exitCode = some 0 ∧
      ∃ request status, Deed.asked 1 request status ∈ sockets.log ∧
        status.upgrade.state = .complete := by
  have hvalues : (socketSystem.runFrom ⟨handshakeContext, [], []⟩ requestEvents).bind
      (fun started => (socketSystem.runFrom started installEvents).map fun sockets =>
        (started.peers.map Peer.request, started.outcome 0, sockets.peers.map Peer.request,
          (main rootPath upgradeOperands (fun _ => started.outcome 0) ([1].map sockets.outcome)
            0).exitCode)) =
      some ([imageRequest],
        .done ⟨IpcCommand.upgrade, 0, putLe32 1, Nat.le_of_ble_eq_true rfl⟩,
        [imageRequest, statusRequest 1], some 0) := by
    decide +kernel
  obtain ⟨started, hstarted, hlater⟩ := Option.bind_eq_some_iff.mp hvalues
  obtain ⟨sockets, hrun, htuple⟩ := Option.map_eq_some_iff.mp hlater
  simp only [Prod.mk.injEq] at htuple
  obtain ⟨hfirst, hanswer, hpeers, hexit⟩ := htuple
  have hlength : started.peers.length = 1 := by
    have hone := congrArg List.length hfirst
    rwa [List.length_map] at hone
  have hasking : Asking started sockets imageRequest 0 [1] := by
    refine ⟨System.Reachable.runFrom ⟨handshakeContext_init, rfl, rfl⟩ hstarted, ⟨_, hrun⟩, ?_, ?_⟩
    · intro peer hpeer
      have hrequest := congrArg (·[0]?) hfirst
      rw [List.getElem?_map, hpeer] at hrequest
      exact Option.some.inj hrequest
    · intro response hdone connection hconnection
      obtain rfl := List.mem_singleton.mp hconnection
      cases hanswer.symm.trans hdone
      refine ⟨hlength.le, fun peer hpeer => ?_⟩
      have hrequest := congrArg (·[1]?) hpeers
      rw [List.getElem?_map, hpeer] at hrequest
      exact Option.some.inj hrequest
  have hasked : command rootPath upgradeOperands = .ok imageRequest := rfl
  obtain ⟨accepted, status, _, front, between, rear, poll, hpoll, _, _, _, _, _, _, _, hlog, _,
    hcomplete, _⟩ := upgrade_exit_zero hasked rfl hasking hexit
  obtain rfl := List.mem_singleton.mp hpoll
  refine ⟨started, sockets, hstarted, hrun, hexit,
    statusRequest (operationAfter accepted.upgradeOperationId), status, ?_, hcomplete⟩
  rw [hlog]
  exact List.mem_append_right _ (List.mem_cons_of_mem _ (List.mem_append_right _
    List.mem_cons_self))

end Devctl
