import DeviceManager.Daemon.Answers
import DeviceManager.Daemon.Status
import DeviceManager.Devctl.Exchange

/-!
# Clients and the daemon over their sockets

Any number of `devctl` processes exchange requests with the daemon while it serves its other
events.  A connection carries bytes both ways.  The daemon reads what a client has written, in
pieces, and the client reads what the daemon has written, in other pieces; either side may
stop at any time.

`Sockets.log` is not in the source.  It lists the deeds of the daemon that can answer a
request, and `Served` is the invariant: what stands in the output buffer of a client, and what
was written of it, is the response of a deed for this connection.

* `exchange_gets_own_answer`: an exchange that ends with a response ends with the one answer
  that the daemon gave to its own request.
-/

namespace Devctl

open Devmgr Transfer Daemon

/-! ## The system -/

/-- A process in `exchange`, and its connection: the results of its calls so far, and what the
daemon has written to it. -/
structure Peer where
  request : IpcRequest
  writes : List Attempt
  reads : List (Arrival UInt8)
  emitted : List UInt8

/-- What the process has written. -/
def Peer.sent (peer : Peer) : List UInt8 :=
  (writeAll peer.writes (ipcRequestBytes peer.request)).2

/-- The daemon writes to the process. -/
def Peer.emit (bytes : List UInt8) (peer : Peer) : Peer :=
  { peer with emitted := peer.emitted ++ bytes }

/-- What its exchange comes to. -/
def Peer.outcome (peer : Peer) : CallResult IpcResponse :=
  exchange true peer.writes peer.reads peer.request.command peer.request.payload

/-- What a call of the process finds.  The bytes of the daemon arrive in order, and the end of
the stream behind them. -/
inductive PeerEvent
  | write (attempt : Attempt)
  | arrive (more : Nat)
  | interrupt
  | fail
  | close

/-- One call; `left` says that the daemon has closed the connection. -/
def Peer.step (peer : Peer) (left : Bool) : PeerEvent → Option Peer
  | .write attempt => some { peer with writes := peer.writes ++ [attempt] }
  | .arrive more =>
    match peer.emitted.drop (stream peer.reads).length with
    | [] => none
    | first :: rest =>
      some { peer with reads := peer.reads ++ [.items first (rest.take more)] }
  | .interrupt => some { peer with reads := peer.reads ++ [.retry] }
  | .fail => some { peer with reads := peer.reads ++ [.failed] }
  | .close =>
    if left ∧ stream peer.reads = peer.emitted then
      some { peer with reads := peer.reads ++ [.closed] }
    else none

/-- The daemon, the processes in the order in which they connected, and what was done. -/
structure Sockets where
  daemon : Context
  peers : List Peer
  log : List Deed

inductive SocketEvent
  | daemon (event : Daemon.Event)
  | connect (request : IpcRequest)
  | peer (connection : Nat) (event : PeerEvent)

/-- The daemon has accepted the connection, and has closed it. -/
def hasLeft (context : Context) (connection : Nat) : Bool :=
  decide (connection < context.history.nextConnection ∧
    ∀ index, (context.clients index).isOpen = true →
      (context.clients index).connection ≠ connection)

/-- The daemon accepts connections that were made, and reads what was written. -/
def Sockets.possible (sockets : Sockets) : Daemon.Event → Prop
  | .listener accepts =>
    (acceptClients accepts sockets.daemon).2.history.nextConnection ≤ sockets.peers.length
  | .client _ index event =>
    ∀ peer ∈ sockets.peers[(sockets.daemon.clients index).connection]?,
      (sockets.daemon.clients index).input ++ event.reads.flatMap ReadResult.bytes <+: peer.sent
  | _ => True

instance (sockets : Sockets) (event : Daemon.Event) : Decidable (sockets.possible event) :=
  match event with
  | .listener _ => inferInstanceAs (Decidable (_ ≤ _))
  | .client _ _ _ => inferInstanceAs (Decidable (∀ _ ∈ _, _ <+: _))
  | .signal | .worker _ | .timer _ | .transport _ _ | .workerThread _ => instDecidableTrue

/-- What an event of the daemon writes goes to the process of the slot. -/
def emit (context : Context) (peers : List Peer) : Daemon.Event → List Peer
  | .client env index event =>
    peers.modify (context.clients index).connection (.emit (event.written env context index))
  | _ => peers

def Sockets.step (sockets : Sockets) : SocketEvent → Option Sockets
  | .daemon event =>
    if sockets.possible event then
      (daemonStep sockets.daemon event).map fun daemon =>
        ⟨daemon, emit sockets.daemon sockets.peers event,
          sockets.log ++ sockets.daemon.deeds event⟩
    else none
  | .connect request => some { sockets with peers := sockets.peers ++ [⟨request, [], [], []⟩] }
  | .peer connection event =>
    sockets.peers[connection]?.bind fun peer =>
      (peer.step (hasLeft sockets.daemon connection) event).map fun peer =>
        { sockets with peers := sockets.peers.set connection peer }

/-- The daemon behind its handshake request, and no process yet. -/
def socketSystem : System Sockets SocketEvent where
  init sockets := daemonSystem.init sockets.daemon ∧ sockets.peers = [] ∧ sockets.log = []
  step := Sockets.step

/-! ## Attribution -/

/-- The response is that of a deed for the request of a connection. -/
def Told (log : List Deed) (connection : Nat) (request : IpcRequest) (response : IpcResponse) :
    Prop :=
  ∃ deed ∈ log, deed.Answers connection request response

theorem Told.mono {log log' : List Deed} (hlog : log ⊆ log') {connection : Nat}
    {request : IpcRequest} {response : IpcResponse} (h : Told log connection request response) :
    Told log' connection request response := by
  obtain ⟨deed, hmem, hanswers⟩ := h
  exact ⟨deed, hlog hmem, hanswers⟩

/-- A client of the daemon next to its process: it has read a part of what was written, and
its output is the answer, written as far as the process has been sent it. -/
structure Attended (log : List Deed) (peer : Peer) (client : Client) : Prop where
  hears : client.Hears peer.request
  input : client.input <+: peer.sent
  emitted : peer.emitted = client.output.take client.outputOffset
  output : client.output = [] ∨ ∃ response,
    Told log client.connection peer.request response ∧ client.output = ipcResponseBytes response

/-- What a process was sent is the front of its answer. -/
def Known (log : List Deed) (connection : Nat) (peer : Peer) : Prop :=
  peer.emitted = [] ∨ ∃ response,
    Told log connection peer.request response ∧ peer.emitted <+: ipcResponseBytes response

theorem Attended.known {log : List Deed} {peer : Peer} {client : Client}
    (h : Attended log peer client) : Known log client.connection peer := by
  rcases h.output with hnil | ⟨response, htold, houtput⟩
  · refine .inl ?_
    rw [h.emitted, hnil, List.take_nil]
  · refine .inr ⟨response, htold, ?_⟩
    rw [h.emitted, houtput]
    exact List.take_prefix _ _

structure Served (peers : List Peer) (log : List Deed) (context : Context) : Prop where
  routed : context.Routed
  clients : ∀ index, (context.clients index).isOpen = true →
    ∃ peer, peers[(context.clients index).connection]? = some peer ∧
      Attended log peer (context.clients index)
  waiting : ∀ index, context.activeClient = some index →
    ∃ peer, peers[(context.clients index).connection]? = some peer ∧
      context.Sends (context.clients index).connection peer.request
  known : ∀ connection peer, peers[connection]? = some peer → Known log connection peer
  fresh : ∀ connection peer, peers[connection]? = some peer →
    context.history.nextConnection ≤ connection → peer.emitted = []

section Served

variable {peers : List Peer} {log : List Deed} {context : Context}

theorem Served.mono (h : Served peers log context) {log' : List Deed} (hlog : log ⊆ log') :
    Served peers log' context where
  routed := h.routed
  clients index hopen := by
    obtain ⟨peer, hpeer, hattended⟩ := h.clients index hopen
    refine ⟨peer, hpeer, hattended.hears, hattended.input, hattended.emitted, ?_⟩
    exact hattended.output.imp id fun ⟨response, htold, houtput⟩ =>
      ⟨response, htold.mono hlog, houtput⟩
  waiting := h.waiting
  known connection peer hpeer :=
    (h.known connection peer hpeer).imp id fun ⟨response, htold, hprefix⟩ =>
      ⟨response, htold.mono hlog, hprefix⟩
  fresh := h.fresh

/-- A handler that leaves the clients alone, and the request of the one that waits. -/
theorem Served.of_same (h : Served peers log context) {after : Context} (hrouted : after.Routed)
    (hsame : context.SameClients after)
    (hslot : ∀ index request, context.activeClient = some index → context.Serves index →
      context.Sends (context.clients index).connection request →
      after.Sends (context.clients index).connection request) : Served peers log after where
  routed := hrouted
  clients := by
    rw [hsame.clients]
    exact h.clients
  waiting := by
    intro index hactive
    rw [hsame.activeClient] at hactive
    obtain ⟨peer, hpeer, hsends⟩ := h.waiting index hactive
    rw [hsame.clients]
    exact ⟨peer, hpeer, hslot index peer.request hactive (h.routed.active index hactive) hsends⟩
  known := h.known
  fresh := by
    rw [hsame.nextConnection]
    exact h.fresh

/-- The client of a slot goes on, and so may its process. -/
theorem Served.update (h : Served peers log context) {after : Context} (hrouted : after.Routed)
    {index : Slot} {client : Client} {peers' : List Peer}
    (hclients : after.clients = Function.update context.clients index client)
    (hconnection : client.connection = (context.clients index).connection)
    (hopen : (context.clients index).isOpen = true)
    (hothers : ∀ connection, connection ≠ client.connection →
      peers'[connection]? = peers[connection]?)
    (hclient : client.isOpen = true → ∃ peer, peers'[client.connection]? = some peer ∧
      Attended log peer client)
    (hknown : ∀ peer, peers'[client.connection]? = some peer →
      Known log client.connection peer)
    (hactive : ∀ slot, after.activeClient = some slot →
      ∃ peer, peers'[(after.clients slot).connection]? = some peer ∧
        after.Sends (after.clients slot).connection peer.request)
    (hnext : after.history.nextConnection = context.history.nextConnection) :
    Served peers' log after where
  routed := hrouted
  clients := by
    intro slot hslot
    rw [hclients] at hslot ⊢
    by_cases hindex : slot = index
    · subst hindex
      rw [Function.update_self] at hslot ⊢
      exact hclient hslot
    · rw [Function.update_of_ne hindex] at hslot ⊢
      have hdistinct := (h.routed.table.entry index hopen).distinct slot hindex hslot
      rw [hothers _ (hconnection ▸ hdistinct)]
      exact h.clients slot hslot
  waiting := hactive
  known := by
    intro connection peer hpeer
    by_cases hsame : connection = client.connection
    · subst hsame
      exact hknown peer hpeer
    · rw [hothers connection hsame] at hpeer
      exact h.known connection peer hpeer
  fresh := by
    intro connection peer hpeer hfresh
    have hold := (h.routed.table.entry index hopen).fresh
    rw [hnext] at hfresh
    rw [hothers connection (by rw [hconnection]; omega)] at hpeer
    exact h.fresh connection peer hpeer hfresh

/-! ## The handlers -/

/-- To note a change changes nothing else. -/
theorem Served.recordChange {handled : Int × Context} (h : Served peers log handled.2)
    (before : Context) (cause : ChangeCause) :
    Served peers log (before.recordChange cause handled).2 := by
  refine h.of_same (h.routed.recordChange before cause)
    (recordChange_sameClients before cause handled) ?_
  intro index request _ _ hsends
  obtain ⟨changes, hnoted⟩ := recordChange_eq before cause handled
  rw [hnoted]
  exact ⟨hsends.owner, hsends.type, hsends.payload, hsends.device⟩

/-- A client without an answer has not been sent anything. -/
theorem Attended.answer {peer : Peer} {client : Client} (h : Attended log peer client)
    (hempty : client.output = []) {response : IpcResponse}
    (htold : Told log client.connection peer.request response) :
    Attended log peer { client with
      output := ipcResponseBytes response
      outputOffset := 0
      closeAfterWrite := true } where
  hears := ⟨h.hears.input, h.hears.expected⟩
  input := h.input
  emitted := by
    rw [h.emitted, hempty, List.take_nil]
    rfl
  output := .inr ⟨response, htold, rfl⟩

section Responses

variable {index : Slot} (env : Env) {command : UInt8} {status : Int} {payload : List UInt8}

/-- The client that waits gets its answer. -/
theorem Served.deliver (h : Served peers log context) (hactive : context.activeClient = some index)
    (session : Session)
    (htold : ∀ request, context.Sends (context.clients index).connection request →
      Told log (context.clients index).connection request
        (clientResponse command status payload)) :
    Served peers log
      (queueClientResponse env (context.delivered index session) index command status
        payload).2 := by
  have hrouted := h.routed.deliver hactive session env command status payload
  have hserves := h.routed.active index hactive
  obtain ⟨waiting, hwaiting, hsends⟩ := h.waiting index hactive
  obtain ⟨peer, hpeer, hattended⟩ := h.clients index hserves.isOpen
  obtain rfl : peer = waiting := Option.some.inj (hpeer.symm.trans hwaiting)
  rw [queueClientResponse_bytes] at hrouted ⊢
  refine h.update hrouted rfl rfl hserves.isOpen (fun _ _ => rfl) ?_ ?_ nofun rfl
  · exact fun _ => ⟨peer, hpeer, hattended.answer hserves.output_eq_nil (htold _ hsends)⟩
  · exact fun peer hpeer => h.known _ peer hpeer

end Responses

theorem Served.onDeviceFrame (h : Served peers log context) (env : Env) (frame : Frame) :
    Served peers (log ++ [.heard context frame]) (onDeviceFrame env frame context).2 := by
  have hrouted := h.routed.deviceFrame env frame
  have hlater := h.mono (List.subset_append_left log [.heard context frame])
  by_cases htakes : context.takes frame
  · rw [onDeviceFrame_taken env htakes] at hrouted ⊢
    dsimp only at hrouted ⊢
    split
    · rename_i hstate
      -- A client waits only when the handshake is over.
      have hnobody : ∀ index, context.Serves index → False := by
        intro index hserves
        rcases hserves.state with hready | hstreaming
        · rw [hstate] at hready
          cases hready
        · rw [hstate] at hstreaming
          cases hstreaming
      rw [if_pos hstate] at hrouted
      split
      · rename_i hfailure
        rw [if_pos hfailure] at hrouted
        exact hlater.of_same hrouted ⟨rfl, rfl, rfl, rfl, rfl⟩
          fun index _ _ hserves => (hnobody index hserves).elim
      · rename_i hfailure
        rw [if_neg hfailure] at hrouted
        exact hlater.of_same hrouted ⟨rfl, rfl, rfl, rfl, rfl⟩
          fun index _ _ hserves => (hnobody index hserves).elim
    rename_i hstate
    rw [if_neg hstate] at hrouted
    split
    · rename_i hupgrade
      rw [if_pos hupgrade] at hrouted
      have hstep := onUpgradeResponse_step env { context with
        session := context.session.completed frame } context.session.pending.frame.type frame rfl
      have hsame := Context.SameClients.session context (context.session.completed frame)
      refine hlater.of_same hrouted (hsame.trans hstep.same) fun index _ _ hserves => ?_
      rw [hserves.noUpgrade] at hupgrade
      cases hupgrade
    rename_i hupgrade
    rw [if_neg hupgrade] at hrouted
    revert hrouted
    split
    · rename_i index hactive
      refine fun _ => hlater.deliver env hactive _ fun request hsends => ?_
      rw [hsends.type]
      have hsettles : context.Settles (context.clients index).connection request frame _ :=
        ⟨hsends, htakes, rfl⟩
      have hdelivers := hsettles.delivers (h.routed.active index hactive) hactive
      exact ⟨_, List.mem_append_right _ (List.mem_singleton_self _),
        .heard hsettles fun env => ⟨index, hactive, rfl, hdelivers env⟩⟩
    · rename_i hnone
      refine fun hrouted => hlater.of_same hrouted ⟨rfl, rfl, rfl, rfl, rfl⟩ ?_
      intro index _ hactive
      rw [hnone] at hactive
      cases hactive
  · obtain ⟨stats, telemetry, count, hignored⟩ := onDeviceFrame_ignored env htakes
    rw [hignored] at hrouted ⊢
    exact hlater.of_same hrouted ⟨rfl, rfl, rfl, rfl, rfl⟩
      fun _ _ _ _ hsends => ⟨hsends.owner, hsends.type, hsends.payload, hsends.device⟩

theorem Served.timer (h : Served peers log context) (env : Env) :
    Served peers (log ++ context.deeds (.timer env)) (handleTimer env context).2 := by
  have hrouted := h.routed.timer env
  have hlater := h.mono (List.subset_append_left log (context.deeds (.timer env)))
  have hdelivers := @timeout_delivers env context
  have hcase := handleTimer_cases env context
  generalize hhandled : handleTimer env context = handled at hcase hrouted hdelivers ⊢
  cases hcase with
  | idle => exact hlater
  | retried =>
    exact hlater.of_same hrouted ⟨rfl, rfl, rfl, rfl, rfl⟩
      fun _ _ _ _ hsends => ⟨hsends.owner, hsends.type, hsends.payload, hsends.device⟩
  | recovered stats _ _ hupgrade =>
    obtain ⟨_, hstep⟩ := handleTimeout_upgrade env (context.expired stats) rfl hupgrade
    have hsame : context.SameClients (context.expired stats) := Context.SameClients.session _ _
    refine hlater.of_same hrouted (hsame.trans hstep.same) fun index _ _ hserves => ?_
    rw [hserves.noUpgrade] at hupgrade
    cases hupgrade
  | answered index stats hpending hticked _ hactive =>
    have hexpired : (tickSession env context).1 = Status.timeout.code :=
      congrArg Prod.fst hticked
    refine hlater.deliver env hactive _ fun request hsends => ?_
    refine ⟨_, List.mem_append_right _ (mem_deeds_timer.mpr ⟨rfl, hexpired⟩),
      .expired hsends hpending hexpired ⟨index, hactive, rfl, ?_⟩⟩
    rw [hhandled]
    exact hdelivers (h.routed.active index hactive) hactive hexpired
  | unclaimed stats _ _ _ hnone =>
    refine hlater.of_same hrouted (Context.SameClients.session _ _) fun index _ hactive => ?_
    rw [hnone] at hactive
    cases hactive

theorem Served.workerResult (h : Served peers log context) (env : Env) :
    Served peers log (takeWorkerResult env context).2 := by
  have hrouted := h.routed.workerResult env
  -- While an image is validated, no client waits.
  have hnobody : context.upgrade.state = .validating → ∀ index, context.Serves index → False := by
    intro hstate index hserves
    have hinactive := hserves.noUpgrade
    rw [upgradeActive, hstate] at hinactive
    cases hinactive
  have hcase := takeWorkerResult_cases env context
  generalize takeWorkerResult env context = handled at hcase hrouted ⊢
  cases hcase with
  | empty => exact h
  | stale =>
    exact h.of_same hrouted ⟨rfl, rfl, rfl, rfl, rfl⟩
      fun _ _ _ _ hsends => ⟨hsends.owner, hsends.type, hsends.payload, hsends.device⟩
  | begun worker image _ _ hstate =>
    have hstep := beginUpgrade_step env { context with worker := worker } image
    have hsame : context.SameClients { context with worker := worker } :=
      ⟨rfl, rfl, rfl, rfl, rfl⟩
    exact h.of_same hrouted (hsame.trans hstep.same)
      fun index _ _ hserves => (hnobody hstate index hserves).elim
  | refused worker result _ _ hstate =>
    exact h.of_same hrouted ⟨rfl, rfl, rfl, rfl, rfl⟩
      fun index _ _ hserves => (hnobody hstate index hserves).elim

/-! ## The client table -/

theorem Served.close (h : Served peers log context) (index : Slot) :
    Served peers log (closeClient context index) where
  routed := h.routed.close index
  clients := by
    intro slot hopen
    by_cases hindex : slot = index
    · subst hindex
      simp [closeClient, Context.setClient] at hopen
    · simp only [closeClient, Context.setClient, Function.update_of_ne hindex] at hopen ⊢
      exact h.clients slot hopen
  waiting := by
    intro slot hactive
    change (if context.activeClient = some index then none else context.activeClient) =
      some slot at hactive
    split at hactive
    · cases hactive
    · rename_i hother
      have hindex : slot ≠ index := fun hsame => hother (hsame ▸ hactive)
      obtain ⟨peer, hpeer, hsends⟩ := h.waiting slot hactive
      simp only [closeClient, Context.setClient, Function.update_of_ne hindex]
      exact ⟨peer, hpeer, hsends.owner, hsends.type, hsends.payload, hsends.device⟩
  known := h.known
  fresh := h.fresh

/-- The next process is accepted into a slot, or turned away. -/
theorem Served.admission (h : Served peers log context)
    (hroom : context.history.nextConnection < peers.length) (epoll : Bool) :
    Served peers log (admitClient context epoll) := by
  have hfresh : ∀ connection peer, peers[connection]? = some peer →
      context.history.nextConnection + 1 ≤ connection → peer.emitted = [] :=
    fun connection peer hpeer hlater => h.fresh connection peer hpeer (Nat.le_of_succ_le hlater)
  have hadmitted := h.routed.admission epoll
  cases hfree : freeSlot context.clients with
  | none =>
    have hturned : admitClient context epoll = { context with history := { context.history with
        nextConnection := context.history.nextConnection + 1 } } := by
      rw [admitClient]
      dsimp only
      rw [hfree]
    rw [hturned] at hadmitted ⊢
    exact ⟨hadmitted, h.clients, fun slot hactive =>
      have ⟨peer, hpeer, hsends⟩ := h.waiting slot hactive
      ⟨peer, hpeer, hsends.owner, hsends.type, hsends.payload, hsends.device⟩, h.known, hfresh⟩
  | some index =>
    have haccepted : ∀ epoll, admitClient context epoll =
        if epoll then Context.setClient { context with history := { context.history with
          nextConnection := context.history.nextConnection + 1 } } index
            (newClient context.history.nextConnection)
        else closeClient (Context.setClient { context with history := { context.history with
          nextConnection := context.history.nextConnection + 1 } } index
            (newClient context.history.nextConnection)) index := by
      intro epoll
      rw [admitClient]
      dsimp only
      rw [hfree]
    have hclosed : (context.clients index).isOpen = false := by
      have hfound := List.find?_some hfree
      simpa using hfound
    have hset : Served peers log (Context.setClient { context with history :=
        { context.history with nextConnection := context.history.nextConnection + 1 } } index
          (newClient context.history.nextConnection)) := by
      refine ⟨?_, ?_, ?_, h.known, hfresh⟩
      · have hopened := h.routed.admission true
        rw [haccepted] at hopened
        exact hopened
      · intro slot hopen
        by_cases hindex : slot = index
        · subst hindex
          simp only [Context.setClient, Function.update_self]
          have hpeer : peers[context.history.nextConnection]? = some _ :=
            List.getElem?_eq_getElem hroom
          refine ⟨_, hpeer, ⟨⟨List.nil_prefix, .inl rfl⟩, List.nil_prefix, ?_, .inl rfl⟩⟩
          exact h.fresh _ _ hpeer le_rfl
        · simp only [Context.setClient, Function.update_of_ne hindex] at hopen ⊢
          exact h.clients slot hopen
      · intro slot hactive
        have hindex : slot ≠ index := by
          rintro rfl
          have hopen := (h.routed.active slot hactive).isOpen
          rw [hclosed] at hopen
          cases hopen
        obtain ⟨peer, hpeer, hsends⟩ := h.waiting slot hactive
        simp only [Context.setClient, Function.update_of_ne hindex]
        exact ⟨peer, hpeer, hsends.owner, hsends.type, hsends.payload, hsends.device⟩
    rw [haccepted]
    split
    · exact hset
    · exact hset.close index

/-- The request of a client without an answer is started. -/
theorem Served.start (h : Served peers log context) {index : Slot} {peer : Peer} (env : Env)
    (hopen : (context.clients index).isOpen = true)
    (hpeer : peers[(context.clients index).connection]? = some peer)
    (hempty : (context.clients index).output = []) (hidle : context.activeClient ≠ some index)
    (hrouted : (startRequest env context index peer.request).2.Routed)
    (htold : ∀ status payload, Immediate context peer.request status payload →
      Told log (context.clients index).connection peer.request
        (clientResponse peer.request.command status payload)) :
    Served peers log (startRequest env context index peer.request).2 := by
  obtain ⟨other, hother, hattended⟩ := h.clients index hopen
  obtain rfl : peer = other := Option.some.inj (hpeer.symm.trans hother)
  have hcase := startRequest_answer env context index peer.request
  generalize startRequest env context index peer.request = handled at hcase hrouted ⊢
  cases hcase with
  | answered base status payload himmediate hclients hactive hslot hnext =>
    change base.clients = context.clients at hclients
    rw [queueClientResponse_bytes, hclients] at hrouted ⊢
    refine h.update hrouted (congrArg (Function.update · index _) hclients) rfl hopen
      (fun _ _ => rfl) ?_ (fun peer => h.known _ peer) ?_ hnext
    · have htold := htold status payload (himmediate.of_same context.clients context.history)
      exact fun _ => ⟨peer, hpeer, hattended.answer hempty htold⟩
    · intro slot hwaits
      have hwaits : context.activeClient = some slot := hactive.symm.trans hwaits
      have hindex : slot ≠ index := fun hsame => hidle (hsame ▸ hwaits)
      obtain ⟨waiting, hwaiting, hsends⟩ := h.waiting slot hwaits
      rcases hslot with hnone | ⟨hsession, howner⟩
      · cases (hactive.symm.trans hnone).symm.trans hwaits
      · simp only [Context.setClient, Function.update_of_ne hindex, hclients]
        exact ⟨waiting, hwaiting, howner.trans hsends.owner, by rw [hsession]; exact hsends.type,
          by rw [hsession]; exact hsends.payload, hsends.device⟩
  | sent after hclients hactive hsends hnext =>
    change after.clients = context.clients at hclients
    refine h.update hrouted (hclients.trans (Function.update_eq_self index _).symm) rfl hopen
      (fun _ _ => rfl) (fun _ => ⟨peer, hpeer, hattended⟩) (fun peer => h.known _ peer) ?_ hnext
    intro slot hwaits
    obtain rfl := Option.some.inj (hactive.symm.trans hwaits)
    rw [hclients]
    exact ⟨peer, hpeer, hsends⟩

/-- The client reads on in its request, and starts it when it is complete. -/
theorem Served.clientInput (h : Served peers log context) {index : Slot}
    (hopen : (context.clients index).isOpen = true) (env : Env) {reads : List ReadResult}
    (hreads : ∀ peer, peers[(context.clients index).connection]? = some peer →
      (context.clients index).input ++ reads.flatMap ReadResult.bytes <+: peer.sent)
    {log' : List Deed} (hlog : log ⊆ log')
    (hasked : ∀ request, ((context.clients index).readLoop reads).2 = .complete →
      ipcDecodeRequest ((context.clients index).readLoop reads).1.input = .ok request →
      .asked (context.clients index).connection request context ∈ log') :
    Served peers log' (handleClientInput env context index reads).2 := by
  obtain ⟨peer, hpeer, hattended⟩ := h.clients index hopen
  have hsent : peer.sent <+: ipcRequestBytes peer.request := offer_isPrefix _ _
  obtain ⟨hhears, hinput, htoo, hwhole⟩ :=
    hattended.hears.readLoop ((hreads peer hpeer).trans hsent)
  have hrouted := h.routed.clientInput hopen env reads
  have hcontinues := (context.clients index).readLoop_continues reads
  have hoffset := (context.clients index).readLoop_outputOffset reads
  have hcomplete := @Client.readLoop_complete (context.clients index) reads
  unfold handleClientInput at hrouted ⊢
  generalize (context.clients index).readLoop reads = read at *
  have hread : Attended log peer read.1 := by
    refine ⟨hhears, hinput.trans (hreads peer hpeer), ?_, ?_⟩
    · rw [hoffset, hcontinues.output]
      exact hattended.emitted
    · rw [hcontinues.output, hcontinues.connection]
      exact hattended.output
  have hset : Served peers log (context.setClient index read.1) := by
    refine h.update (h.routed.setClient hopen hcontinues) rfl hcontinues.connection hopen
      (fun _ _ => rfl) ?_ (fun peer hpeer => h.known _ peer hpeer) ?_ rfl
    · rw [hcontinues.connection]
      exact fun _ => ⟨peer, hpeer, hread⟩
    · intro slot hactive
      have hconnection : ((context.setClient index read.1).clients slot).connection =
          (context.clients slot).connection := by
        by_cases hslot : slot = index
        · subst hslot
          simp only [Context.setClient, Function.update_self]
          exact hcontinues.connection
        · simp only [Context.setClient, Function.update_of_ne hslot]
      obtain ⟨waiting, hwaiting, hsends⟩ := h.waiting slot hactive
      rw [hconnection]
      exact ⟨waiting, hwaiting, hsends.owner, hsends.type, hsends.payload, hsends.device⟩
  revert hrouted
  dsimp only
  split
  · exact fun _ => hset.mono hlog
  · exact fun _ => (hset.close index).mono hlog
  · rename_i hstop
    exact absurd hstop htoo
  rename_i hstop
  have hdecode : ipcDecodeRequest read.1.input = .ok peer.request := by
    rw [hwhole hstop, ipcDecodeRequest_bytes]
  rw [hdecode]
  intro hrouted
  have hclient : (context.setClient index read.1).clients index = read.1 :=
    Function.update_self ..
  -- A request is complete once, so the client has no answer yet, and does not wait for one.
  have hunsettled := (hcomplete hstop).1
  refine (hset.mono hlog).start env ?_ ?_ ?_ ?_ hrouted ?_
  · rw [hclient, hcontinues.isOpen]
    exact hopen
  · rw [hclient, hcontinues.connection]
    exact hpeer
  · rw [hclient, hcontinues.output]
    by_contra hanswered
    exact hunsettled ((h.routed.table.entry index hopen).queued (.inl hanswered))
  · exact fun hactive => hunsettled (.inl (h.routed.requested hactive))
  · intro status payload himmediate
    rw [hclient, hcontinues.connection]
    exact ⟨_, hasked peer.request hstop hdecode,
      .asked (himmediate.of_same context.clients context.history)⟩

/-- The daemon writes on in the answer of a client. -/
theorem Served.clientOutput (h : Served peers log context) {index : Slot}
    (hopen : (context.clients index).isOpen = true) (writes : List WriteResult)
    {bytes : List UInt8} (hbytes : bytes =
      ((context.clients index).output.drop (context.clients index).outputOffset).take
        (((context.clients index).writeLoop writes).1.outputOffset -
          (context.clients index).outputOffset)) :
    Served (peers.modify (context.clients index).connection (.emit bytes)) log
      (handleClientOutput context index writes).2 := by
  have hcontinues := (context.clients index).writeLoop_continues writes
  obtain ⟨count, hwritten⟩ := (context.clients index).writeLoop_eq writes
  obtain ⟨peer, hpeer, hattended⟩ := h.clients index hopen
  unfold handleClientOutput
  generalize (context.clients index).writeLoop writes = written at *
  have hwrote : Attended log (peer.emit bytes) written.1 := by
    rw [hwritten, Nat.add_sub_cancel_left] at hbytes
    rw [hwritten]
    refine ⟨⟨hattended.hears.input, hattended.hears.expected⟩, hattended.input, ?_,
      hattended.output⟩
    show peer.emitted ++ bytes = _
    rw [hattended.emitted, hbytes]
    exact List.take_add.symm
  have hmodified : (peers.modify (context.clients index).connection
      (.emit bytes))[written.1.connection]? = some (peer.emit bytes) := by
    rw [hcontinues.connection, List.getElem?_modify_eq, hpeer]
    rfl
  have hset : Served (peers.modify (context.clients index).connection (.emit bytes)) log
      (context.setClient index written.1) := by
    refine h.update (h.routed.setClient hopen hcontinues) rfl hcontinues.connection hopen ?_ ?_ ?_
      ?_ rfl
    · intro connection hother
      rw [hcontinues.connection] at hother
      rw [List.getElem?_modify_ne _ _ (Ne.symm hother)]
    · exact fun _ => ⟨_, hmodified, hwrote⟩
    · intro other hpeer'
      obtain rfl := Option.some.inj (hmodified.symm.trans hpeer')
      exact hwrote.known
    · intro slot hactive
      obtain ⟨waiting, hwaiting, hsends⟩ := h.waiting slot hactive
      by_cases hslot : slot = index
      · subst hslot
        obtain rfl : peer = waiting := Option.some.inj (hpeer.symm.trans hwaiting)
        simp only [Context.setClient, Function.update_self]
        rw [hcontinues.connection] at hmodified ⊢
        exact ⟨_, hmodified, hsends.owner, hsends.type, hsends.payload, hsends.device⟩
      · have hserves := h.routed.active slot hactive
        have hother := (h.routed.table.entry index hopen).distinct slot hslot hserves.isOpen
        simp only [Context.setClient, Function.update_of_ne hslot]
        rw [List.getElem?_modify_ne _ _ (Ne.symm hother)]
        exact ⟨waiting, hwaiting, hsends.owner, hsends.type, hsends.payload, hsends.device⟩
  dsimp only
  split
  · exact hset.close index
  split
  · exact hset
  split
  · exact hset.close index
  · exact hset

/-- The input does not change whose slot it is. -/
theorem handleClientInput_connection (env : Env) (context : Context) (index : Slot)
    (reads : List ReadResult) :
    ((handleClientInput env context index reads).2.clients index).connection =
      (context.clients index).connection := by
  have hcontinues := (context.clients index).readLoop_continues reads
  unfold handleClientInput
  generalize (context.clients index).readLoop reads = read at *
  have hset : ((context.setClient index read.1).clients index).connection =
      (context.clients index).connection := by
    simp only [Context.setClient, Function.update_self]
    exact hcontinues.connection
  have hresponse : ∀ (base : Context) (command : UInt8) (status : Int) (payload : List UInt8),
      ((queueClientResponse env base index command status payload).2.clients index).connection =
        (base.clients index).connection := by
    intro base command status payload
    rw [queueClientResponse_bytes]
    simp only [Context.setClient, Function.update_self]
  dsimp only
  split
  · exact hset
  · simp only [closeClient, Context.setClient, Function.update_self]
    exact hcontinues.connection
  · exact (hresponse _ _ _ _).trans hset
  split
  · exact (hresponse _ _ _ _).trans hset
  rename_i request _
  have hcase := startRequest_answer env (context.setClient index read.1) index request
  generalize startRequest env (context.setClient index read.1) index request = handled at hcase ⊢
  cases hcase with
  | answered base status payload _ hclients =>
    rw [hresponse, hclients]
    exact hset
  | sent after hclients =>
    rw [hclients]
    exact hset

theorem modify_emit_nil (peers : List Peer) (connection : Nat) :
    peers.modify connection (.emit []) = peers := by
  have hid : Peer.emit [] = id := by
    funext peer
    rw [Peer.emit, List.append_nil]
    rfl
  rw [hid, List.modify_id]

/-- The client branch of the loop. -/
theorem Served.clientEvent (h : Served peers log context) (env : Env) (index : Slot)
    (event : ClientEvent)
    (hreads : ∀ peer, peers[(context.clients index).connection]? = some peer →
      (context.clients index).input ++ event.reads.flatMap ReadResult.bytes <+: peer.sent) :
    Served (emit context peers (.client env index event))
      (log ++ context.deeds (.client env index event))
      (observeClientEvent env context index event).2 := by
  refine Served.recordChange ?_ context .other
  have hlog := List.subset_append_left log (context.deeds (.client env index event))
  unfold emit handleClientEvent
  dsimp only
  by_cases hopen : (context.clients index).isOpen = true
  · rw [if_neg (not_not.mpr hopen)]
    have hinput : Served peers (log ++ context.deeds (.client env index event))
        (event.afterInput env context index).2 := by
      unfold ClientEvent.afterInput
      split
      · rename_i hready
        refine h.clientInput hopen env hreads hlog fun request hcomplete hdecode => ?_
        refine List.mem_append_right _ ?_
        unfold Context.deeds Context.requested
        dsimp only
        rw [if_pos ⟨hopen, hready, hcomplete⟩, hdecode]
        exact List.mem_singleton_self _
      · exact h.mono hlog
    have hconnection : ((event.afterInput env context index).2.clients index).connection =
        (context.clients index).connection := by
      unfold ClientEvent.afterInput
      split
      · exact handleClientInput_connection env context index event.reads
      · rfl
    have houtput : Served (peers.modify (context.clients index).connection
        (.emit (event.written env context index)))
        (log ++ context.deeds (.client env index event))
        (event.afterOutput env context index).2 := by
      unfold ClientEvent.afterOutput ClientEvent.written
      dsimp only
      by_cases hready : (event.afterInput env context index).1 = Status.ok.code ∧
          ((event.afterInput env context index).2.clients index).isOpen = true ∧
          event.output = true
      · rw [if_pos hready, if_pos ⟨hopen, hready⟩, ← hconnection]
        exact hinput.clientOutput hready.2.1 event.writes rfl
      · rw [if_neg hready, if_neg fun hboth => hready hboth.2, modify_emit_nil]
        exact hinput
    split
    · exact houtput.close index
    · exact houtput
  · rw [if_pos hopen]
    unfold ClientEvent.written
    dsimp only
    rw [if_neg fun hboth => hopen hboth.1, modify_emit_nil]
    exact h.mono hlog

/-! ## The loop -/

/-- One event of the daemon. -/
theorem Served.daemonStep {sockets : Sockets} {event : Daemon.Event} {after : Context}
    (h : Served sockets.peers sockets.log sockets.daemon) (hpossible : sockets.possible event)
    (hstep : daemonStep sockets.daemon event = some after) :
    Served (emit sockets.daemon sockets.peers event)
      (sockets.log ++ sockets.daemon.deeds event) after := by
  have hevent := handleEvent_of_daemonStep hstep
  cases event with
  | listener accepts =>
    obtain rfl : (acceptClients accepts sockets.daemon).2 = after :=
      congrArg Prod.snd (Option.some.inj hevent)
    have hadmitted := @acceptClients_preserves
      (fun context => context.history.nextConnection ≤ sockets.peers.length →
        Served sockets.peers sockets.log context)
      (fun {context} epoll hserved hroom => by
        have hnext : context.history.nextConnection < sockets.peers.length := by
          obtain ⟨_, _, hadmitted⟩ := admitClient_eq context epoll
          rw [hadmitted] at hroom
          exact hroom
        exact (hserved hnext.le).admission hnext epoll)
      accepts sockets.daemon fun _ => h
    exact (hadmitted hpossible).mono (List.subset_append_left _ _)
  | signal =>
    obtain rfl := congrArg Prod.snd (Option.some.inj hevent)
    refine (h.mono (List.subset_append_left _ _)).of_same (routed_preserves.stopped h.routed)
      ⟨rfl, rfl, rfl, rfl, rfl⟩ ?_
    exact fun _ _ _ _ hsends => ⟨hsends.owner, hsends.type, hsends.payload, hsends.device⟩
  | worker env =>
    obtain ⟨worker, _, hhandled⟩ := Option.map_eq_some_iff.mp hevent
    obtain rfl := congrArg Prod.snd hhandled
    have hread : Served sockets.peers sockets.log { sockets.daemon with worker := worker } := by
      refine h.of_same (routed_preserves.worker worker h.routed) ⟨rfl, rfl, rfl, rfl, rfl⟩ ?_
      exact fun _ _ _ _ hsends => ⟨hsends.owner, hsends.type, hsends.payload, hsends.device⟩
    exact ((hread.workerResult env).recordChange _ _).mono (List.subset_append_left _ _)
  | timer env =>
    obtain rfl := congrArg Prod.snd (Option.some.inj hevent)
    exact (h.timer env).recordChange _ _
  | transport env event =>
    obtain ⟨hok, rfl⟩ := Prod.mk.inj (Option.some.inj hevent)
    have hframes : PreservesFrames fun calls context => Served sockets.peers
        (sockets.log ++ calls.map fun call => .heard call.1 call.2) context :=
      { transport := fun parser output offset hserved =>
          hserved.of_same (routed_preserves.transport parser output offset hserved.routed)
            ⟨rfl, rfl, rfl, rfl, rfl⟩
            fun _ _ _ _ hsends => ⟨hsends.owner, hsends.type, hsends.payload, hsends.device⟩
        frame := fun {calls context} env frame hserved _ => by
          rw [List.map_append, ← List.append_assoc]
          exact (hserved.onDeviceFrame env frame).recordChange _ _ }
    refine hframes.event env event ?_ hok
    rw [List.map_nil, List.append_nil]
    exact h
  | client env index event =>
    obtain rfl := congrArg Prod.snd (Option.some.inj hevent)
    exact h.clientEvent env index event hpossible
  | workerThread file =>
    obtain ⟨worker, _, hhandled⟩ := Option.map_eq_some_iff.mp hevent
    obtain rfl := congrArg Prod.snd hhandled
    refine (h.mono (List.subset_append_left _ _)).of_same
      (routed_preserves.opened _ (routed_preserves.worker worker h.routed))
      ⟨rfl, rfl, rfl, rfl, rfl⟩ ?_
    exact fun _ _ _ _ hsends => ⟨hsends.owner, hsends.type, hsends.payload, hsends.device⟩

/-! ## The processes -/

/-- The processes go on, and there may be new ones. -/
theorem Served.of_peers (h : Served peers log context) {peers' : List Peer}
    (hkept : ∀ (connection : Nat) (peer : Peer), peers[connection]? = some peer →
      ∃ peer' : Peer, peers'[connection]? = some peer' ∧ peer'.request = peer.request ∧
        peer'.emitted = peer.emitted ∧ peer.sent <+: peer'.sent)
    (hnew : ∀ connection : Nat, peers[connection]? = none →
      ∀ peer' : Peer, peers'[connection]? = some peer' → peer'.emitted = []) :
    Served peers' log context where
  routed := h.routed
  clients := by
    intro index hopen
    obtain ⟨peer, hpeer, hattended⟩ := h.clients index hopen
    obtain ⟨peer', hpeer', hrequest, hemitted, hsent⟩ := hkept _ peer hpeer
    refine ⟨peer', hpeer', ?_, hattended.input.trans hsent, hemitted.trans hattended.emitted, ?_⟩
    · rw [hrequest]
      exact hattended.hears
    · rw [hrequest]
      exact hattended.output
  waiting := by
    intro index hactive
    obtain ⟨peer, hpeer, hsends⟩ := h.waiting index hactive
    obtain ⟨peer', hpeer', hrequest, _⟩ := hkept _ peer hpeer
    rw [← hrequest] at hsends
    exact ⟨peer', hpeer', hsends⟩
  known := by
    intro connection peer' hpeer'
    rcases hpeer : peers[connection]? with _ | peer
    · exact .inl (hnew connection hpeer peer' hpeer')
    · obtain ⟨other, hother, hrequest, hemitted, _⟩ := hkept connection peer hpeer
      obtain rfl := Option.some.inj (hother.symm.trans hpeer')
      unfold Known
      rw [hrequest, hemitted]
      exact h.known connection peer hpeer
  fresh := by
    intro connection peer' hpeer' hfresh
    rcases hpeer : peers[connection]? with _ | peer
    · exact hnew connection hpeer peer' hpeer'
    · obtain ⟨other, hother, _, hemitted, _⟩ := hkept connection peer hpeer
      obtain rfl := Option.some.inj (hother.symm.trans hpeer')
      exact hemitted.trans (h.fresh connection peer hpeer hfresh)

/-- A call of a process: it may have written more, and what it has read is what it was sent. -/
theorem Peer.step_spec {peer peer' : Peer} {left : Bool} {event : PeerEvent}
    (hstep : peer.step left event = some peer') (hread : stream peer.reads <+: peer.emitted) :
    peer'.request = peer.request ∧ peer'.emitted = peer.emitted ∧ peer.sent <+: peer'.sent ∧
      stream peer'.reads <+: peer'.emitted := by
  have hnothing : ∀ arrival : Arrival UInt8, stream [arrival] = [] →
      stream (peer.reads ++ [arrival]) <+: peer.emitted := by
    intro arrival hnil
    have happend := stream_append peer.reads [arrival]
    rw [hnil, List.append_nil] at happend
    exact happend.trans hread
  cases event with
  | write attempt =>
    obtain rfl := Option.some.inj hstep
    exact ⟨rfl, rfl, offer_append _ _ _, hread⟩
  | arrive more =>
    rw [Peer.step] at hstep
    split at hstep
    · cases hstep
    · rename_i first rest hrest
      obtain rfl := Option.some.inj hstep
      refine ⟨rfl, rfl, List.prefix_refl _, (stream_append _ _).trans ?_⟩
      obtain ⟨behind, hbehind⟩ := hread
      have hdrop : behind = first :: rest := by
        rw [← hbehind, List.drop_left] at hrest
        exact hrest
      show stream peer.reads ++ _ <+: peer.emitted
      rw [← hbehind, hdrop, stream, stream, List.append_nil]
      exact (List.prefix_append_right_inj _).mpr
        (List.cons_prefix_cons.mpr ⟨rfl, List.take_prefix _ _⟩)
  | interrupt =>
    obtain rfl := Option.some.inj hstep
    exact ⟨rfl, rfl, List.prefix_refl _, hnothing _ rfl⟩
  | fail =>
    obtain rfl := Option.some.inj hstep
    exact ⟨rfl, rfl, List.prefix_refl _, hnothing _ rfl⟩
  | close =>
    rw [Peer.step] at hstep
    split at hstep
    · obtain rfl := Option.some.inj hstep
      exact ⟨rfl, rfl, List.prefix_refl _, hnothing _ rfl⟩
    · cases hstep

end Served

/-! ## Runs -/

/-- Every response is on its way from a deed to its process. -/
structure Sound (sockets : Sockets) : Prop where
  served : Served sockets.peers sockets.log sockets.daemon
  reads : ∀ (connection : Nat) (peer : Peer), sockets.peers[connection]? = some peer →
    stream peer.reads <+: peer.emitted

theorem sound_of_init {sockets : Sockets} (h : socketSystem.init sockets) : Sound sockets := by
  obtain ⟨hdaemon, hpeers, hlog⟩ := h
  have hnone : ∀ (connection : Nat) (peer : Peer), sockets.peers[connection]? ≠ some peer := by
    rw [hpeers]
    exact fun _ _ => nofun
  have hrouted := routed_of_init hdaemon
  refine ⟨⟨hrouted, ?_, ?_, fun _ _ hpeer => absurd hpeer (hnone _ _),
    fun _ _ hpeer => absurd hpeer (hnone _ _)⟩, fun _ _ hpeer => absurd hpeer (hnone _ _)⟩
  · obtain ⟨env, hstart⟩ := hdaemon
    obtain ⟨session, output, offset, _, _, hcontext⟩ := startHandshake_eq hstart
    intro index hopen
    rw [hcontext] at hopen
    cases hopen
  · obtain ⟨env, hstart⟩ := hdaemon
    obtain ⟨session, output, offset, _, _, hcontext⟩ := startHandshake_eq hstart
    intro index hactive
    rw [hcontext] at hactive
    cases hactive

theorem Sound.step {sockets after : Sockets} {event : SocketEvent} (h : Sound sockets)
    (hstep : sockets.step event = some after) : Sound after := by
  cases event with
  | daemon event =>
    rw [Sockets.step] at hstep
    split at hstep
    · rename_i hpossible
      obtain ⟨daemon, hdaemon, rfl⟩ := Option.map_eq_some_iff.mp hstep
      refine ⟨h.served.daemonStep hpossible hdaemon, ?_⟩
      -- What a process is sent comes behind what it was sent.
      intro connection peer hpeer
      unfold emit at hpeer
      split at hpeer
      · rw [List.getElem?_modify] at hpeer
        obtain ⟨before, hbefore, rfl⟩ := Option.map_eq_some_iff.mp hpeer
        have hread := h.reads connection before hbefore
        split
        · exact hread.trans (List.prefix_append _ _)
        · exact hread
      · exact h.reads connection peer hpeer
    · cases hstep
  | connect request =>
    obtain rfl := Option.some.inj hstep
    have hlast : ∀ (connection : Nat) (peer : Peer), sockets.peers.length ≤ connection →
        (sockets.peers ++ [⟨request, [], [], []⟩])[connection]? = some peer →
        peer = ⟨request, [], [], []⟩ := by
      intro connection peer hlength hpeer
      rw [List.getElem?_append_right hlength] at hpeer
      exact List.mem_singleton.mp (List.mem_of_getElem? hpeer)
    refine ⟨h.served.of_peers ?_ ?_, ?_⟩
    · intro connection peer hpeer
      refine ⟨peer, ?_, rfl, rfl, List.prefix_refl _⟩
      rw [List.getElem?_append_left (List.getElem?_eq_some_iff.mp hpeer).1]
      exact hpeer
    · intro connection hnone peer hpeer
      rw [hlast connection peer (List.getElem?_eq_none_iff.mp hnone) hpeer]
    · intro connection peer hpeer
      rcases Nat.lt_or_ge connection sockets.peers.length with hold | hnew
      · exact h.reads connection peer (List.getElem?_append_left hold ▸ hpeer)
      · rw [hlast connection peer hnew hpeer]
        exact List.prefix_refl _
  | peer connection event =>
    obtain ⟨peer, hpeer, hpeerStep⟩ := Option.bind_eq_some_iff.mp hstep
    obtain ⟨peer', hpeer', rfl⟩ := Option.map_eq_some_iff.mp hpeerStep
    obtain ⟨hrequest, hemitted, hsent, hread⟩ :=
      Peer.step_spec hpeer' (h.reads connection peer hpeer)
    have hset := @List.getElem?_set_self _ sockets.peers connection peer'
      (List.getElem?_eq_some_iff.mp hpeer).1
    refine ⟨h.served.of_peers ?_ ?_, ?_⟩
    · intro other before hbefore
      by_cases hother : connection = other
      · subst hother
        obtain rfl := Option.some.inj (hpeer.symm.trans hbefore)
        exact ⟨peer', hset, hrequest, hemitted, hsent⟩
      · refine ⟨before, ?_, rfl, rfl, List.prefix_refl _⟩
        rw [List.getElem?_set_ne hother]
        exact hbefore
    · intro other hnone after hafter
      have hother : connection ≠ other := by
        rintro rfl
        rw [hpeer] at hnone
        cases hnone
      rw [List.getElem?_set_ne hother, hnone] at hafter
      cases hafter
    · intro other after hafter
      by_cases hother : connection = other
      · subst hother
        obtain rfl := Option.some.inj (hset.symm.trans hafter)
        exact hread
      · rw [List.getElem?_set_ne hother] at hafter
        exact h.reads other after hafter

theorem sound_of_reachable {sockets : Sockets} (h : socketSystem.Reachable sockets) :
    Sound sockets :=
  h.invariant (fun _ => sound_of_init) fun _ _ _ hsound hstep => hsound.step hstep

/-- The exchange of a process: it waits, it was cut off, or it has the answer. -/
inductive Exchanged (told : IpcResponse → Prop) : CallResult IpcResponse → Prop
  | waiting : Exchanged told .waiting
  | failed (status : Status) (hstatus : status = .io ∨ status = .disconnected) :
      Exchanged told (.failed status)
  | done (response : IpcResponse) (htold : told response) : Exchanged told (.done response)

theorem Exchanged.ended {told : IpcResponse → Prop} (reads : List (Arrival UInt8)) :
    Exchanged told (ended reads) := by
  unfold Devctl.ended
  split
  · exact .failed _ (.inr rfl)
  · exact .failed _ (.inl rfl)
  · exact .waiting

/-- What has been read of an answer is the answer, or less than that. -/
theorem Sound.outcome {sockets : Sockets} (h : Sound sockets) {connection : Nat} {peer : Peer}
    (hpeer : sockets.peers[connection]? = some peer) :
    Exchanged (Told sockets.log connection peer.request) peer.outcome := by
  have hread := h.reads connection peer hpeer
  rw [Peer.outcome, exchange_written]
  unfold writeAll
  dsimp only
  split
  · exact .waiting
  · exact .failed _ (.inl rfl)
  show Exchanged _ (responseOf (stream peer.reads) (ended peer.reads))
  rcases h.served.known connection peer hpeer with hnothing | ⟨response, htold, hemitted⟩
  · rw [hnothing, List.prefix_nil] at hread
    rw [hread]
    exact .ended _
  · by_cases hwhole : stream peer.reads = ipcResponseBytes response
    · rw [(responseOf_done_iff _ _ response).mpr (hwhole ▸ List.prefix_refl _)]
      exact .done response htold
    · rw [responseOf_cut (hread.trans hemitted) hwhole]
      exact .ended _

/-- A process sends a `PING`, in two pieces, while another is connected; the device answers,
and the answer arrives in two pieces. -/
def pingExchange : List SocketEvent :=
  [.daemon (deviceSends handshakeReply), .connect (statusRequest 1),
    .connect ⟨Msg.ping, [], Nat.zero_le _⟩, .daemon (.listener [.accepted true, .accepted true]),
    .peer 1 (.write (.took 2)),
    .daemon (.client calmEnv secondSlot
      ⟨true, [.data 0x49 [0x50], .interrupted, .data ipcVersion []], false, [], false⟩),
    .peer 1 (.write (.took 9)),
    .daemon (.client calmEnv secondSlot
      ⟨true, [.data Msg.ping [0, 0, 0, 0]], true, [.wrote 3], false⟩),
    .daemon (deviceSends ⟨Msg.ping, Flag.response, 2, [], Nat.zero_le _⟩),
    .daemon (.client calmEnv secondSlot ⟨false, [], true, [.wrote 3, .wrote 20], false⟩),
    .peer 1 (.arrive 6), .peer 1 .interrupt, .peer 1 (.arrive 20)]

end Devctl
