import DeviceManager.Daemon.Loop

/-!
# Who gets the response

The daemon has one request in flight and up to sixteen clients.  `active_client`
names the slot whose client waits for the response, and five handlers have to keep
it in step with the client table and with the session's slot.

* `Table` is the invariant of the client table on its own: connections are told
  apart, a connection for which a request was started has its whole request in the
  buffer, and a response is queued only behind a request or a refusal.
* `Context.Serves` is what `active_client` promises about its slot.
* `Context.Routed` is the invariant of the daemon, and `routed_of_reachable` says
  that it holds between events.

Most handlers leave the clients alone.  `SameClients` says so, and
`Routed.of_same` is the one lemma that carries the invariant across them.
-/

namespace Daemon

open Devmgr

/-! ## The client table -/

/-- The whole request of the client is in its buffer. -/
def Client.Requested (client : Client) : Prop :=
  client.expectedSize ≠ 0 ∧ client.expectedSize ≤ client.input.length

/-- The header of the client announces too long a payload. -/
def Client.Oversized (client : Client) : Prop :=
  client.expectedSize = 0 ∧ ipcRequestHeaderSize ≤ client.input.length ∧
    ipcMaxPayload < (getLe32 (client.input.drop 4)).toNat

/-- Nothing that the client sends can start a request any more. -/
def Client.Settled (client : Client) : Prop :=
  client.Requested ∨ client.Oversized

/-- A response is queued for the client. -/
def Client.Answered (client : Client) : Prop :=
  client.output ≠ [] ∨ client.closeAfterWrite = true

/-- What has to hold of the client in a slot, next to those in the other slots. -/
structure Table.Entry (clients : Slot → Client) (history : History) (index : Slot)
    (client : Client) : Prop where
  fresh : client.connection < history.nextConnection
  distinct : ∀ other, other ≠ index → (clients other).isOpen = true →
    (clients other).connection ≠ client.connection
  started : client.connection ∈ history.started → client.Requested
  queued : client.Answered → client.Settled

/-- The client table, and the connections for which a request was started. -/
structure Table (clients : Slot → Client) (history : History) : Prop where
  entry : ∀ index, (clients index).isOpen = true →
    Table.Entry clients history index (clients index)
  startedFresh : ∀ connection ∈ history.started, connection < history.nextConnection
  startedNodup : history.started.Nodup

/-- One slot changes. -/
theorem Table.update {clients : Slot → Client} {history : History} (h : Table clients history)
    {index : Slot} {client : Client}
    (hentry : client.isOpen = true → Table.Entry clients history index client) :
    Table (Function.update clients index client) history := by
  refine ⟨?_, h.startedFresh, h.startedNodup⟩
  intro slot hopen
  by_cases hslot : slot = index
  · subst hslot
    rw [Function.update_self] at hopen ⊢
    have hnew := hentry hopen
    refine ⟨hnew.fresh, ?_, hnew.started, hnew.queued⟩
    intro other hother
    rw [Function.update_of_ne hother]
    exact hnew.distinct other hother
  · rw [Function.update_of_ne hslot] at hopen ⊢
    have hold := h.entry slot hopen
    refine ⟨hold.fresh, ?_, hold.started, hold.queued⟩
    intro other hother
    by_cases hindex : other = index
    · subst hindex
      rw [Function.update_self]
      intro hnew
      exact ((hentry hnew).distinct slot hslot hopen).symm
    · rw [Function.update_of_ne hindex]
      exact hold.distinct other hother

/-- The client of an open slot goes on with the same connection. -/
theorem Table.updateClient {clients : Slot → Client} {history : History}
    (h : Table clients history) {index : Slot} {client : Client}
    (hopen : (clients index).isOpen = true)
    (hconnection : client.connection = (clients index).connection)
    (hrequested : (clients index).Requested → client.Requested)
    (hqueued : client.Answered → client.Settled) :
    Table (Function.update clients index client) history := by
  refine h.update fun _ => ?_
  have hold := h.entry index hopen
  refine ⟨hconnection ▸ hold.fresh, ?_, ?_, hqueued⟩
  · rw [hconnection]
    exact hold.distinct
  · rw [hconnection]
    exact fun hstarted => hrequested (hold.started hstarted)

theorem Table.close {clients : Slot → Client} {history : History} (h : Table clients history)
    (index : Slot) {client : Client} (hclosed : client.isOpen = false) :
    Table (Function.update clients index client) history :=
  h.update fun hopen => absurd hopen (by simp [hclosed])

/-- A request is started for the connection in a slot. -/
theorem Table.start {clients : Slot → Client} {history : History} (h : Table clients history)
    {index : Slot} (hopen : (clients index).isOpen = true)
    (hnew : (clients index).connection ∉ history.started)
    (hrequested : (clients index).Requested) :
    Table clients { history with
      started := history.started ++ [(clients index).connection] } := by
  refine ⟨?_, ?_, ?_⟩
  · intro slot hslot
    have hold := h.entry slot hslot
    refine ⟨hold.fresh, hold.distinct, ?_, hold.queued⟩
    intro hstarted
    rcases List.mem_append.mp hstarted with hmem | hmem
    · exact hold.started hmem
    · -- Only the slot itself has this connection.
      have hsame := List.mem_singleton.mp hmem
      by_cases hindex : slot = index
      · rw [hindex]
        exact hrequested
      · exact absurd hsame.symm (hold.distinct index (Ne.symm hindex) hopen)
  · intro connection hmem
    rcases List.mem_append.mp hmem with hold | hnew'
    · exact h.startedFresh connection hold
    · rw [List.mem_singleton.mp hnew']
      exact (h.entry index hopen).fresh
  · rw [List.nodup_append]
    refine ⟨h.startedNodup, by simp, ?_⟩
    intro a ha b hb hab
    rw [hab, List.mem_singleton.mp hb] at ha
    exact hnew ha

/-- A new connection, in a closed slot or turned away. -/
theorem Table.connect {clients : Slot → Client} {history : History} (h : Table clients history) :
    Table clients { history with nextConnection := history.nextConnection + 1 } := by
  refine ⟨?_, ?_, h.startedNodup⟩
  · intro slot hslot
    have hold := h.entry slot hslot
    exact ⟨hold.fresh.trans (Nat.lt_succ_self _), hold.distinct, hold.started, hold.queued⟩
  · intro connection hmem
    exact (h.startedFresh connection hmem).trans (Nat.lt_succ_self _)

/-! ## Input -/

/-- The same client later: its connection and its response stay, and nothing that
it sent is undone. -/
structure Client.Continues (before after : Client) : Prop where
  isOpen : after.isOpen = before.isOpen
  connection : after.connection = before.connection
  output : after.output = before.output
  closeAfterWrite : after.closeAfterWrite = before.closeAfterWrite
  requested : before.Requested → after.Requested
  oversized : before.Oversized → after.Oversized

theorem Client.Continues.refl (client : Client) : client.Continues client :=
  ⟨rfl, rfl, rfl, rfl, id, id⟩

theorem Client.Continues.trans {a b c : Client} (hab : a.Continues b) (hbc : b.Continues c) :
    a.Continues c where
  isOpen := hbc.isOpen.trans hab.isOpen
  connection := hbc.connection.trans hab.connection
  output := hbc.output.trans hab.output
  closeAfterWrite := hbc.closeAfterWrite.trans hab.closeAfterWrite
  requested := hbc.requested ∘ hab.requested
  oversized := hbc.oversized ∘ hab.oversized

theorem Client.Continues.settled {a b : Client} (h : a.Continues b) (ha : a.Settled) :
    b.Settled :=
  ha.imp h.requested h.oversized

theorem Client.Continues.answered {a b : Client} (h : a.Continues b) :
    b.Answered ↔ a.Answered := by
  rw [Client.Answered, Client.Answered, h.output, h.closeAfterWrite]

/-- The announced length stands in the header, whatever follows. -/
theorem getLe32_announced {input : List UInt8} (h : ipcRequestHeaderSize ≤ input.length)
    (data : List UInt8) :
    getLe32 ((input ++ data).drop 4) = getLe32 (input.drop 4) := by
  rw [ipcRequestHeaderSize] at h
  rw [List.drop_append_of_le_length (by omega),
    getLe32_append (by rw [List.length_drop]; omega)]

theorem Client.receive_continues (client : Client) (data : List UInt8) :
    client.Continues (client.receive data).1 := by
  have hlength : (client.input ++ data).length = client.input.length + data.length :=
    List.length_append
  have hrequested : client.Requested →
      client.expectedSize ≠ 0 ∧ client.expectedSize ≤ (client.input ++ data).length := by
    rintro ⟨hsize, hle⟩
    exact ⟨hsize, by omega⟩
  have hoversized : client.Oversized → client.expectedSize = 0 ∧
      ipcRequestHeaderSize ≤ (client.input ++ data).length ∧
      ipcMaxPayload < (getLe32 ((client.input ++ data).drop 4)).toNat := by
    rintro ⟨hsize, hheader, hlong⟩
    rw [getLe32_announced hheader]
    exact ⟨hsize, by omega, hlong⟩
  unfold Client.receive
  dsimp only
  split_ifs with hheader hlong hcomplete
  · exact ⟨rfl, rfl, rfl, rfl, hrequested, hoversized⟩
  · exact ⟨rfl, rfl, rfl, rfl, fun h => absurd hheader.2 h.1,
      fun h => absurd (hoversized h).2.2 hlong⟩
  · exact ⟨rfl, rfl, rfl, rfl, fun h => absurd hheader.2 h.1,
      fun h => absurd (hoversized h).2.2 hlong⟩
  · exact ⟨rfl, rfl, rfl, rfl, hrequested, hoversized⟩
  · exact ⟨rfl, rfl, rfl, rfl, hrequested, hoversized⟩

/-- A request is complete once, and only where there was none. -/
theorem Client.receive_complete {client : Client} {data : List UInt8} (hdata : data ≠ [])
    (h : (client.receive data).2 = .complete) :
    ¬ client.Settled ∧ (client.receive data).1.Requested := by
  have hpos : 0 < data.length := List.length_pos_iff.mpr hdata
  have hlength : (client.input ++ data).length = client.input.length + data.length :=
    List.length_append
  unfold Client.receive at h ⊢
  dsimp only at h ⊢
  split_ifs at h ⊢ with hheader hlong hequal hexpected
  · refine ⟨?_, ?_, hequal.ge⟩
    · rintro (hrequested | ⟨_, hle, hover⟩)
      · exact hrequested.1 hheader.2
      · rw [← getLe32_announced hle data] at hover
        exact hlong hover
    · simp [ipcRequestHeaderSize]
  · refine ⟨?_, hexpected.1, hexpected.2.ge⟩
    rintro (hrequested | hoversized)
    · have hle := hrequested.2
      omega
    · exact hexpected.1 hoversized.1

/-- A refusal for its length only meets a client that has no request. -/
theorem Client.receive_tooLong {client : Client} {data : List UInt8}
    (h : (client.receive data).2 = .tooLong) :
    ¬ client.Requested ∧ (client.receive data).1.Oversized := by
  unfold Client.receive at h ⊢
  dsimp only at h ⊢
  split_ifs at h ⊢ with hheader hlong
  exact ⟨fun hrequested => hrequested.1 hheader.2, hheader.2, hheader.1, hlong⟩

theorem Client.readLoop_continues (client : Client) (reads : List ReadResult) :
    client.Continues (client.readLoop reads).1 := by
  fun_induction Client.readLoop client reads with
  | case6 client hroom reads ih => exact ih
  | case7 client hroom first more reads received hmore ih =>
    exact (client.receive_continues _).trans ih
  | case8 client hroom first more reads received htoo => exact client.receive_continues _
  | case9 client hroom first more reads received hcomplete => exact client.receive_continues _
  | _ => exact .refl _

theorem Client.readLoop_complete {client : Client} {reads : List ReadResult}
    (h : (client.readLoop reads).2 = .complete) :
    ¬ client.Settled ∧ (client.readLoop reads).1.Requested := by
  fun_induction Client.readLoop client reads with
  | case6 client hroom reads ih => exact ih h
  | case7 client hroom first more reads received hmore ih =>
    obtain ⟨hsettled, hrequested⟩ := ih h
    exact ⟨fun hold => hsettled ((client.receive_continues _).settled hold), hrequested⟩
  | case9 client hroom first more reads received hcomplete =>
    refine Client.receive_complete ?_ hcomplete
    rw [Ne, List.take_eq_nil_iff]
    rintro (hzero | hnil)
    · omega
    · cases hnil
  | _ => cases h

theorem Client.readLoop_tooLong {client : Client} {reads : List ReadResult}
    (h : (client.readLoop reads).2 = .tooLong) :
    ¬ client.Requested ∧ (client.readLoop reads).1.Oversized := by
  fun_induction Client.readLoop client reads with
  | case6 client hroom reads ih => exact ih h
  | case7 client hroom first more reads received hmore ih =>
    obtain ⟨hrequested, hoversized⟩ := ih h
    exact ⟨fun hold => hrequested ((client.receive_continues _).requested hold), hoversized⟩
  | case8 client hroom first more reads received htoo => exact Client.receive_tooLong htoo
  | _ => cases h

/-! ## The invariant of the daemon -/

/-- What `active_client` promises: the slot is open, its connection began the
pending request and has no response yet, and no upgrade is active. -/
structure Context.Serves (context : Context) (index : Slot) : Prop where
  isOpen : (context.clients index).isOpen = true
  pending : context.session.pending.active = true
  owner : context.history.owner = .client (context.clients index).connection
  unanswered : ¬ (context.clients index).Answered
  started : (context.clients index).connection ∈ context.history.started
  noUpgrade : upgradeActive context.upgrade = false
  state : context.session.state = .ready ∨ context.session.state = .streaming

theorem Context.Serves.output_eq_nil {context : Context} {index : Slot}
    (h : context.Serves index) : (context.clients index).output = [] := by
  by_contra hne
  exact h.unanswered (.inl hne)

structure Context.Routed (context : Context) : Prop where
  table : Table context.clients context.history
  active : ∀ index, context.activeClient = some index → context.Serves index
  deliveries : ∀ delivery ∈ context.history.deliveries,
    delivery.requester = .client delivery.connection

theorem Table.congr {clients : Slot → Client} {history history' : History}
    (h : Table clients history) (hnext : history'.nextConnection = history.nextConnection)
    (hstarted : history'.started = history.started) : Table clients history' := by
  refine ⟨?_, ?_, ?_⟩
  · intro index hopen
    have hold := h.entry index hopen
    exact ⟨hnext ▸ hold.fresh, hold.distinct, hstarted ▸ hold.started, hold.queued⟩
  · rw [hnext, hstarted]
    exact h.startedFresh
  · rw [hstarted]
    exact h.startedNodup

/-- The invariant across a handler that leaves the clients alone: if a client
waits, its request is still pending and its promise still holds. -/
theorem Context.Routed.of_same {before after : Context} (h : before.Routed)
    (hsame : before.SameClients after)
    (hserves : ∀ index, before.Serves index → before.activeClient = some index →
      after.session.pending.active = true ∧ after.history.owner = before.history.owner ∧
      upgradeActive after.upgrade = false ∧
      (after.session.state = .ready ∨ after.session.state = .streaming)) :
    after.Routed := by
  refine ⟨?_, ?_, ?_⟩
  · rw [hsame.clients]
    exact h.table.congr hsame.nextConnection hsame.started
  · intro index hactive
    rw [hsame.activeClient] at hactive
    have hold := h.active index hactive
    obtain ⟨hpending, howner, hupgrade, hstate⟩ := hserves index hold hactive
    refine ⟨?_, hpending, ?_, ?_, ?_, hupgrade, hstate⟩
    · rw [hsame.clients]
      exact hold.isOpen
    · rw [howner, hsame.clients]
      exact hold.owner
    · rw [hsame.clients]
      exact hold.unanswered
    · rw [hsame.clients, hsame.started]
      exact hold.started
  · rw [hsame.deliveries]
    exact h.deliveries

/-- While an upgrade is active, no client waits. -/
theorem Context.Routed.inactive_of_upgrade {context : Context} (h : context.Routed)
    (hupgrade : upgradeActive context.upgrade = true) : context.activeClient = none := by
  rcases hactive : context.activeClient with _ | index
  · rfl
  · have hserves := h.active index hactive
    rw [hserves.noUpgrade] at hupgrade
    cases hupgrade

/-- To note a change changes nothing else. -/
theorem Context.Routed.recordChange {handled : Int × Context} (h : handled.2.Routed)
    (before : Context) (cause : ChangeCause) :
    (before.recordChange cause handled).2.Routed := by
  refine h.of_same (recordChange_sameClients before cause handled) ?_
  intro index hserves _
  obtain ⟨changes, hnoted⟩ := recordChange_eq before cause handled
  rw [hnoted]
  exact ⟨hserves.pending, rfl, hserves.noUpgrade, hserves.state⟩

/-! ## The client side -/

theorem Client.writeLoop_continues (client : Client) (writes : List WriteResult) :
    client.Continues (client.writeLoop writes).1 := by
  fun_induction Client.writeLoop client writes with
  | case4 client hmore more writes count ih =>
    have hwritten : client.Continues { client with outputOffset := client.outputOffset + count } :=
      ⟨rfl, rfl, rfl, rfl, id, id⟩
    exact hwritten.trans ih
  | _ => exact .refl _

/-- The client in an open slot goes on. -/
theorem Context.Routed.setClient {context : Context} (h : context.Routed) {index : Slot}
    {client : Client} (hopen : (context.clients index).isOpen = true)
    (hclient : (context.clients index).Continues client) :
    (context.setClient index client).Routed := by
  refine ⟨?_, ?_, h.deliveries⟩
  · refine h.table.updateClient hopen hclient.connection hclient.requested ?_
    rw [hclient.answered]
    intro hanswered
    exact hclient.settled ((h.table.entry index hopen).queued hanswered)
  · intro active hactive
    have hserves := h.active active hactive
    by_cases hindex : active = index
    · subst hindex
      refine ⟨?_, hserves.pending, ?_, ?_, ?_, hserves.noUpgrade, hserves.state⟩
      all_goals simp only [Context.setClient, Function.update_self]
      · exact hclient.isOpen.trans hopen
      · rw [hclient.connection]
        exact hserves.owner
      · rw [hclient.answered]
        exact hserves.unanswered
      · rw [hclient.connection]
        exact hserves.started
    · refine ⟨?_, hserves.pending, ?_, ?_, ?_, hserves.noUpgrade, hserves.state⟩
      all_goals simp only [Context.setClient, Function.update_of_ne hindex]
      · exact hserves.isOpen
      · exact hserves.owner
      · exact hserves.unanswered
      · exact hserves.started

/-- A client that nobody waits for is replaced. -/
theorem Context.Serves.setClient {context : Context} {active index : Slot}
    (h : context.Serves active) (hindex : active ≠ index) (client : Client) :
    (context.setClient index client).Serves active := by
  refine ⟨?_, h.pending, ?_, ?_, ?_, h.noUpgrade, h.state⟩
  all_goals simp only [Context.setClient, Function.update_of_ne hindex]
  · exact h.isOpen
  · exact h.owner
  · exact h.unanswered
  · exact h.started

theorem Context.Routed.close {context : Context} (h : context.Routed) (index : Slot) :
    (closeClient context index).Routed := by
  refine ⟨h.table.close index rfl, ?_, h.deliveries⟩
  intro active hactive
  change (if context.activeClient = some index then none else context.activeClient) =
    some active at hactive
  split at hactive
  · cases hactive
  · rename_i hother
    have hindex : active ≠ index := by
      rintro rfl
      exact hother hactive
    have hserves := (h.active active hactive).setClient hindex
      { context.clients index with isOpen := false }
    exact ⟨hserves.isOpen, hserves.pending, hserves.owner, hserves.unanswered, hserves.started,
      hserves.noUpgrade, hserves.state⟩

/-- A client that nothing is pending for gets a response. -/
theorem Context.Routed.respond {context : Context} (h : context.Routed) {index : Slot}
    (hopen : (context.clients index).isOpen = true)
    (hsettled : (context.clients index).Settled) (hidle : context.activeClient ≠ some index)
    (env : Env) (command : UInt8) (status : Int) (payload : List UInt8) :
    (queueClientResponse env context index command status payload).2.Routed := by
  obtain ⟨bytes, _, hqueued⟩ := queueClientResponse_eq env context index command status payload
  rw [hqueued]
  refine ⟨?_, ?_, h.deliveries⟩
  · exact h.table.updateClient hopen rfl id fun _ => hsettled
  · intro active hactive
    have hindex : active ≠ index := by
      rintro rfl
      exact hidle hactive
    exact (h.active active hactive).setClient hindex _

/-- The client that waits gets the response or the timeout. -/
theorem Context.Routed.deliver {context : Context} (h : context.Routed) {index : Slot}
    (hactive : context.activeClient = some index) (session : Session) (env : Env)
    (command : UInt8) (status : Int) (payload : List UInt8) :
    (queueClientResponse env (context.delivered index session) index command status
      payload).2.Routed := by
  have hserves := h.active index hactive
  have hrequested := (h.table.entry index hserves.isOpen).started hserves.started
  have hdelivered : (context.delivered index session).Routed := by
    refine ⟨h.table.congr rfl rfl, ?_, ?_⟩
    · intro _ hnone
      cases hnone
    intro delivery hmem
    rcases List.mem_append.mp hmem with hold | hnew
    · exact h.deliveries delivery hold
    · rw [List.mem_singleton.mp hnew]
      exact hserves.owner
  exact hdelivered.respond hserves.isOpen (.inl hrequested) (by simp [Context.delivered]) env
    command status payload

/-- A request starts for a connection that had none. -/
theorem Context.Routed.noteStart {context : Context} (h : context.Routed) {index : Slot}
    (hopen : (context.clients index).isOpen = true)
    (hnew : (context.clients index).connection ∉ context.history.started)
    (hrequested : (context.clients index).Requested) : (context.noteStart index).Routed := by
  refine ⟨h.table.start hopen hnew hrequested, ?_, h.deliveries⟩
  intro active hactive
  have hserves := h.active active hactive
  exact ⟨hserves.isOpen, hserves.pending, hserves.owner, hserves.unanswered,
    List.mem_append_left _ hserves.started, hserves.noUpgrade, hserves.state⟩

/-- `start_request`, for a connection whose request was just noted. -/
theorem Context.Routed.start {env : Env} {context : Context} {index : Slot}
    {request : IpcRequest} {handled : Int × Context}
    (hcase : StartCase env context index request handled) (h : context.Routed)
    (hopen : (context.clients index).isOpen = true)
    (hrequested : (context.clients index).Requested)
    (hstarted : (context.clients index).connection ∈ context.history.started)
    (hunanswered : ¬ (context.clients index).Answered)
    (hidle : context.activeClient ≠ some index) : handled.2.Routed := by
  cases hcase with
  | answered status payload => exact h.respond hopen (.inl hrequested) hidle env _ _ _
  | upgraded upgradeRequest status worker payload hcommand hparse hallowed hsubmit =>
    have hcontext : Context.Routed { context with
        upgradeOperationId := operationAfter context.upgradeOperationId
        pendingUpgradeVersion := upgradeRequest.version
        worker := worker
        upgradeResult := status.code
        upgrade := { context.upgrade with
          state := if status = .ok then .validating else .error } } := by
      -- No client waits where an upgrade is allowed.
      refine h.of_same ⟨rfl, rfl, rfl, rfl, rfl⟩ ?_
      intro active _ hactive
      rw [hallowed.2.1] at hactive
      cases hactive
    exact hcontext.respond hopen (.inl hrequested) hidle env _ _ _
  | cancelled session output offset status hfree hcancelled hsession hinactive hnone =>
    have hcontext : Context.Routed
        { context.ownRequest session (.client (context.clients index).connection) with
          transportOutput := output
          transportOutputOffset := offset } := by
      refine h.of_same ⟨rfl, rfl, rfl, rfl, rfl⟩ ?_
      intro active _ hactive
      rw [hnone] at hactive
      cases hactive
    exact hcontext.respond hopen (.inl hrequested) hidle env _ _ _
  | sent session output offset hfree hpending hsession hstate hinactive hnone =>
    refine ⟨h.table.congr rfl rfl, ?_, h.deliveries⟩
    intro active hactive
    obtain rfl := Option.some.inj hactive
    refine ⟨hopen, hpending, rfl, hunanswered, hstarted, hinactive, ?_⟩
    rw [← hsession] at hstate
    exact hstate

/-- A connection that has a request started is settled. -/
theorem Context.Routed.requested {context : Context} (h : context.Routed) {index : Slot}
    (hactive : context.activeClient = some index) : (context.clients index).Requested := by
  have hserves := h.active index hactive
  exact (h.table.entry index hserves.isOpen).started hserves.started

theorem Context.Routed.clientInput {context : Context} (h : context.Routed) {index : Slot}
    (hopen : (context.clients index).isOpen = true) (env : Env) (reads : List ReadResult) :
    (handleClientInput env context index reads).2.Routed := by
  have hcontinues := (context.clients index).readLoop_continues reads
  generalize hread : (context.clients index).readLoop reads = read at hcontinues
  have hset := h.setClient hopen hcontinues
  have hclient : (context.setClient index read.1).clients index = read.1 :=
    Function.update_self ..
  have hopen' : ((context.setClient index read.1).clients index).isOpen = true := by
    rw [hclient, hcontinues.isOpen]
    exact hopen
  unfold handleClientInput
  rw [hread]
  dsimp only
  split
  · exact hset
  · exact hset.close index
  · rename_i hstop
    -- A client that waits has sent a request, and this one has not.
    rw [← hread] at hstop
    obtain ⟨hnone, hoversized⟩ := Client.readLoop_tooLong hstop
    rw [hread, ← hclient] at hoversized
    exact hset.respond hopen' (.inr hoversized) (fun hactive => hnone (h.requested hactive))
      env _ _ _
  · rename_i hstop
    rw [← hread] at hstop
    obtain ⟨hnone, hrequested⟩ := Client.readLoop_complete hstop
    rw [hread, ← hclient] at hrequested
    have hidle : context.activeClient ≠ some index := fun hactive =>
      hnone (.inl (h.requested hactive))
    split
    · exact hset.respond hopen' (.inl hrequested) hidle env _ _ _
    · rename_i request hdecode
      have hentry := h.table.entry index hopen
      have hnew : (context.clients index).connection ∉ context.history.started := fun hmem =>
        hnone (.inl (hentry.started hmem))
      have hunanswered : ¬ (context.clients index).Answered := fun hanswered =>
        hnone (hentry.queued hanswered)
      have hconnection : ((context.setClient index read.1).clients index).connection =
          (context.clients index).connection := by
        rw [hclient, hcontinues.connection]
      have hnoted := hset.noteStart hopen' (hconnection ▸ hnew) hrequested
      refine Context.Routed.start (startRequest_cases env _ index request) hnoted hopen' hrequested
        ?_ ?_ hidle
      · exact List.mem_append_right _ (List.mem_singleton_self _)
      · show ¬ ((context.setClient index read.1).clients index).Answered
        rw [hclient, hcontinues.answered]
        exact hunanswered

theorem Context.Routed.clientOutput {context : Context} (h : context.Routed) {index : Slot}
    (hopen : (context.clients index).isOpen = true) (writes : List WriteResult) :
    (handleClientOutput context index writes).2.Routed := by
  have hset := h.setClient hopen ((context.clients index).writeLoop_continues writes)
  unfold handleClientOutput
  dsimp only
  split
  · exact hset.close index
  split
  · exact hset
  split
  · exact hset.close index
  · exact hset

theorem Context.Routed.afterInput {context : Context} (h : context.Routed) {index : Slot}
    (hopen : (context.clients index).isOpen = true) (env : Env) (event : ClientEvent) :
    (event.afterInput env context index).2.Routed := by
  unfold ClientEvent.afterInput
  split
  · exact h.clientInput hopen env event.reads
  · exact h

theorem Context.Routed.clientEvent {context : Context} (h : context.Routed) (env : Env)
    (index : Slot) (event : ClientEvent) :
    (handleClientEvent env context index event).2.Routed := by
  unfold handleClientEvent
  split
  · exact h
  rename_i hopen
  rw [not_not] at hopen
  have hinput := h.afterInput hopen env event
  have houtput : (event.afterOutput env context index).2.Routed := by
    unfold ClientEvent.afterOutput
    dsimp only
    split
    · rename_i hready
      exact hinput.clientOutput hready.2.1 event.writes
    · exact hinput
  dsimp only
  split
  · exact houtput.close index
  · exact houtput

/-- A new client gets a closed slot. -/
theorem Context.Routed.admission {context : Context} (h : context.Routed) (epoll : Bool) :
    (admitClient context epoll).Routed := by
  have hconnect : Context.Routed { context with history := { context.history with
      nextConnection := context.history.nextConnection + 1 } } :=
    ⟨h.table.connect, fun active hactive =>
      have hserves := h.active active hactive
      ⟨hserves.isOpen, hserves.pending, hserves.owner, hserves.unanswered, hserves.started,
        hserves.noUpgrade, hserves.state⟩, h.deliveries⟩
  unfold admitClient
  dsimp only
  split
  · exact hconnect
  rename_i index hfree
  have hclosed : (context.clients index).isOpen = false := by
    have hfound := List.find?_some hfree
    simpa using hfound
  have hset : Context.Routed (Context.setClient { context with history := { context.history with
      nextConnection := context.history.nextConnection + 1 } } index
      (newClient context.history.nextConnection)) := by
    refine ⟨hconnect.table.update fun _ => ?_, ?_, h.deliveries⟩
    · refine ⟨Nat.lt_succ_self _, ?_, ?_, by simp [Client.Answered, newClient]⟩
      · intro other _ hopen
        exact ((h.table.entry other hopen).fresh).ne
      · intro hstarted
        exact absurd (h.table.startedFresh _ hstarted) (Nat.lt_irrefl _)
    · intro active hactive
      have hserves := hconnect.active active hactive
      refine hserves.setClient ?_ _
      rintro rfl
      have hopen := (h.active active hactive).isOpen
      rw [hclosed] at hopen
      cases hopen
  split
  · exact hset
  · exact hset.close index

/-! ## The device side -/

theorem Context.Routed.deviceFrame {context : Context} (h : context.Routed) (env : Env)
    (frame : Frame) : (onDeviceFrame env frame context).2.Routed := by
  have hcase := onDeviceFrame_cases env frame context
  generalize onDeviceFrame env frame context = handled at hcase ⊢
  cases hcase with
  | quiet stats telemetry count =>
    refine h.of_same ⟨rfl, rfl, rfl, rfl, rfl⟩ ?_
    intro index hserves _
    exact ⟨hserves.pending, rfl, hserves.noUpgrade, hserves.state⟩
  | handshake result session hanswers hstate hfree hready =>
    refine h.of_same ⟨rfl, rfl, rfl, rfl, rfl⟩ ?_
    intro index hserves _
    rcases hserves.state with hready | hstreaming
    · rw [hstate] at hready
      cases hready
    · rw [hstate] at hstreaming
      cases hstreaming
  | upgrade hanswers hstate hactive =>
    have hstep := onUpgradeResponse_step env { context with
      session := context.session.completed frame } context.session.pending.frame.type frame rfl
    have hsame := Context.SameClients.session context (context.session.completed frame)
    refine h.of_same (hsame.trans hstep.same) ?_
    intro index hserves _
    rw [hserves.noUpgrade] at hactive
    cases hactive
  | client index session status hanswers hstate hinactive hclient hfree =>
    exact h.deliver hclient session env _ _ _
  | orphan hanswers hstate hinactive hclient =>
    refine h.of_same ⟨rfl, rfl, rfl, rfl, rfl⟩ ?_
    intro index _ hactive
    rw [hclient] at hactive
    cases hactive

theorem Context.Routed.workerResult {context : Context} (h : context.Routed) (env : Env) :
    (takeWorkerResult env context).2.Routed := by
  have hnone : context.upgrade.state = .validating → context.activeClient = none := by
    intro hstate
    apply h.inactive_of_upgrade
    rw [upgradeActive, hstate]
    rfl
  have hcase := takeWorkerResult_cases env context
  generalize takeWorkerResult env context = handled at hcase ⊢
  cases hcase with
  | empty result hresult => exact h
  | stale worker hworker =>
    refine h.of_same ⟨rfl, rfl, rfl, rfl, rfl⟩ ?_
    intro index hserves _
    exact ⟨hserves.pending, rfl, hserves.noUpgrade, hserves.state⟩
  | begun worker image hworker hjob hstate =>
    have hstep := beginUpgrade_step env { context with worker := worker } image
    have hsame : context.SameClients { context with worker := worker } :=
      ⟨rfl, rfl, rfl, rfl, rfl⟩
    refine h.of_same (hsame.trans hstep.same) ?_
    intro index _ hactive
    rw [hnone hstate] at hactive
    cases hactive
  | refused worker result hworker hjob hstate =>
    refine h.of_same ⟨rfl, rfl, rfl, rfl, rfl⟩ ?_
    intro index _ hactive
    rw [hnone hstate] at hactive
    cases hactive

/-- A tick: a timeout is of the request that a client waits for, or of any other. -/
theorem Context.Routed.timer {context : Context} (h : context.Routed) (env : Env) :
    (handleTimer env context).2.Routed := by
  have hcase := handleTimer_cases env context
  generalize handleTimer env context = handled at hcase ⊢
  cases hcase with
  | idle => exact h
  | retried =>
    refine h.of_same ⟨rfl, rfl, rfl, rfl, rfl⟩ ?_
    intro index hserves _
    exact ⟨hserves.pending, rfl, hserves.noUpgrade, hserves.state⟩
  | recovered stats _ _ hupgrade =>
    obtain ⟨_, hstep⟩ := handleTimeout_upgrade env (context.expired stats) rfl hupgrade
    have hsame : context.SameClients (context.expired stats) := Context.SameClients.session _ _
    refine h.of_same (hsame.trans hstep.same) ?_
    intro index hserves _
    rw [hserves.noUpgrade] at hupgrade
    cases hupgrade
  | unclaimed stats _ _ _ hclient =>
    refine h.of_same (Context.SameClients.session _ _) ?_
    intro index _ hactive
    rw [hclient] at hactive
    cases hactive
  | answered index stats _ _ _ hclient => exact h.deliver hclient _ env _ _ _

/-! ## The loop -/

theorem routed_preserves : Preserves Context.Routed where
  transport parser output offset h := by
    refine h.of_same ⟨rfl, rfl, rfl, rfl, rfl⟩ ?_
    intro index hserves _
    exact ⟨hserves.pending, rfl, hserves.noUpgrade, hserves.state⟩
  stopped h := by
    refine h.of_same ⟨rfl, rfl, rfl, rfl, rfl⟩ ?_
    intro index hserves _
    exact ⟨hserves.pending, rfl, hserves.noUpgrade, hserves.state⟩
  worker worker h := by
    refine h.of_same ⟨rfl, rfl, rfl, rfl, rfl⟩ ?_
    intro index hserves _
    exact ⟨hserves.pending, rfl, hserves.noUpgrade, hserves.state⟩
  opened opened h := by
    refine h.of_same ⟨rfl, rfl, rfl, rfl, rfl⟩ ?_
    intro index hserves _
    exact ⟨hserves.pending, rfl, hserves.noUpgrade, hserves.state⟩
  admission epoll h := h.admission epoll
  frame env frame h := (h.deviceFrame env frame).recordChange _ _
  completion env h := (h.workerResult env).recordChange _ _
  timer env h := (h.timer env).recordChange _ _

theorem routed_of_init {context : Context} (h : daemonSystem.init context) : context.Routed := by
  obtain ⟨env, hstart⟩ := h
  obtain ⟨session, output, offset, _, _, rfl⟩ := startHandshake_eq hstart
  refine ⟨⟨?_, ?_, List.nodup_nil⟩, ?_, ?_⟩
  · intro index hopen
    cases hopen
  · intro connection hmem
    cases hmem
  · intro index hactive
    cases hactive
  · intro delivery hmem
    cases hmem

theorem routed_of_step {context context' : Context} {event : Event} (h : context.Routed)
    (hstep : daemonStep context event = some context') : context'.Routed := by
  refine routed_preserves.step ?_ h hstep
  intro env index clientEvent _
  exact (h.clientEvent env index clientEvent).recordChange _ _

theorem routed_of_reachable {context : Context} (h : daemonSystem.Reachable context) :
    context.Routed :=
  h.invariant (fun _ => routed_of_init) fun _ _ _ hrouted hstep => routed_of_step hrouted hstep

/-! ## Deliveries -/

/-- A response goes to one slot. -/
theorem queueClientResponse_other (env : Env) (context : Context) {index other : Slot}
    (hother : other ≠ index) (command : UInt8) (status : Int) (payload : List UInt8) :
    (queueClientResponse env context index command status payload).2.clients other =
      context.clients other := by
  obtain ⟨bytes, _, hqueued⟩ := queueClientResponse_eq env context index command status payload
  rw [hqueued]
  exact Function.update_of_ne hother ..

/-- A frame reaches a client only as the response to the client's own request. -/
theorem Context.Routed.frame_delivered {context : Context} (h : context.Routed) {env : Env}
    {frame : Frame} {index : Slot}
    (hchanged : (onDeviceFrame env frame context).2.clients index ≠ context.clients index) :
    context.session.Answers frame ∧
      context.history.owner = .client (context.clients index).connection := by
  have hcase := onDeviceFrame_cases env frame context
  generalize onDeviceFrame env frame context = handled at hcase hchanged
  cases hcase with
  | quiet stats telemetry count => exact absurd rfl hchanged
  | handshake result session hanswers hstate hfree hready => exact absurd rfl hchanged
  | upgrade hanswers hstate hactive =>
    have hstep := onUpgradeResponse_step env { context with
      session := context.session.completed frame } context.session.pending.frame.type frame rfl
    exact absurd (congrFun hstep.same.clients index) hchanged
  | client active session status hanswers hstate hinactive hclient hfree =>
    have hindex : index = active := by
      by_contra hother
      exact hchanged (queueClientResponse_other env _ hother _ _ _)
    rw [hindex]
    exact ⟨hanswers, (h.active active hclient).owner⟩
  | orphan hanswers hstate hinactive hclient => exact absurd rfl hchanged

/-- The timer reaches a client only with the timeout of the client's own request. -/
theorem Context.Routed.timeout_delivered {context : Context} (h : context.Routed) {env : Env}
    {index : Slot}
    (hchanged : (handleTimer env context).2.clients index ≠ context.clients index) :
    (tickSession env context).1 = Status.timeout.code ∧
      context.history.owner = .client (context.clients index).connection := by
  have hcase := handleTimer_cases env context
  generalize handleTimer env context = handled at hcase hchanged
  cases hcase with
  | idle => exact absurd rfl hchanged
  | retried => exact absurd rfl hchanged
  | recovered stats _ _ hupgrade =>
    obtain ⟨_, hstep⟩ := handleTimeout_upgrade env (context.expired stats) rfl hupgrade
    exact absurd (congrFun hstep.same.clients index) hchanged
  | unclaimed => exact absurd rfl hchanged
  | answered active stats _ hticked _ hclient =>
    have hindex : index = active := by
      by_contra hother
      exact hchanged (queueClientResponse_other env _ hother _ _ _)
    rw [hindex]
    exact ⟨congrArg Prod.fst hticked, (h.active active hclient).owner⟩

/-- Between events of the loop, a client that is waited for is in its slot, began
the request that is pending, and has no response yet; no upgrade is active, and the
session is `READY` or `STREAMING`.  A device response or a timeout changes only the
slot of the connection that began the request, every delivery of the run went to
the requester, and no connection had two requests started. -/
theorem responses_reach_requester {context : Context} (h : daemonSystem.Reachable context) :
    (∀ index, context.activeClient = some index →
      (context.clients index).isOpen = true ∧
      context.session.pending.active = true ∧
      context.history.owner = .client (context.clients index).connection ∧
      (context.clients index).connection ∈ context.history.started ∧
      (context.clients index).output = [] ∧
      upgradeActive context.upgrade = false ∧
      (context.session.state = .ready ∨ context.session.state = .streaming)) ∧
    (∀ env frame index,
      (onDeviceFrame env frame context).2.clients index ≠ context.clients index →
      context.session.Answers frame ∧
        context.history.owner = .client (context.clients index).connection) ∧
    (∀ env index, (handleTimer env context).2.clients index ≠ context.clients index →
      (tickSession env context).1 = Status.timeout.code ∧
        context.history.owner = .client (context.clients index).connection) ∧
    (∀ delivery ∈ context.history.deliveries,
      delivery.requester = .client delivery.connection) ∧
    context.history.started.Nodup := by
  have hrouted := routed_of_reachable h
  refine ⟨?_, fun env frame index => hrouted.frame_delivered,
    fun env index => hrouted.timeout_delivered, hrouted.deliveries, hrouted.table.startedNodup⟩
  intro index hactive
  have hserves := hrouted.active index hactive
  exact ⟨hserves.isOpen, hserves.pending, hserves.owner, hserves.started,
    hserves.output_eq_nil, hserves.noUpgrade, hserves.state⟩

/-! A run in which a client is waited for. -/

/-- One call of `read` that gets these bytes. -/
def ReadResult.ofBytes : List UInt8 → ReadResult
  | [] => .again
  | first :: more => .data first more

/-- The system calls succeed, at time zero. -/
def calmEnv : Env := ⟨0, true, true⟩

/-- The context at the entry of the loop. -/
def handshakeContext : Context := (startHandshake calmEnv setupContext).2

/-- The transport takes all output and brings a frame. -/
def deviceSends (frame : Frame) : Event :=
  .transport calmEnv ⟨true, [.wrote maxFrame], true, [.ofBytes (frameBytes frame)], false⟩

/-- A client sends bytes. -/
def clientSends (index : Slot) (bytes : List UInt8) : Event :=
  .client calmEnv index ⟨true, [.ofBytes bytes], false, [], false⟩

def firstSlot : Slot := ⟨0, by decide⟩

/-- The reply to the `PING` of the handshake. -/
def handshakeReply : Frame := ⟨Msg.ping, Flag.response, 1, [], Nat.zero_le _⟩

/-- A `PING` of a client. -/
def pingRequest : List UInt8 := [0x49, 0x50, ipcVersion, Msg.ping, 0, 0, 0, 0]

/-- The handshake completes, a client connects, and it sends a `PING`. -/
def pingEvents : List Event :=
  [deviceSends handshakeReply, .listener [.accepted true], clientSends firstSlot pingRequest]

theorem handshakeContext_init : daemonSystem.init handshakeContext :=
  ⟨calmEnv, Prod.ext (by decide +kernel) rfl⟩

theorem responses_reach_requester_ping :
    ∃ context, daemonSystem.runFrom handshakeContext pingEvents = some context ∧
      context.activeClient = some firstSlot ∧
      context.history.owner = .client (context.clients firstSlot).connection ∧
      context.history.started.Nodup := by
  have hrun : ((daemonSystem.runFrom handshakeContext pingEvents).map
      fun context => context.activeClient) = some (some firstSlot) := by
    decide +kernel
  obtain ⟨context, hcontext, hactive⟩ := Option.map_eq_some_iff.mp hrun
  have hreachable : daemonSystem.Reachable context :=
    System.Reachable.runFrom handshakeContext_init hcontext
  obtain ⟨hclient, _, _, _, hstarted⟩ := responses_reach_requester hreachable
  exact ⟨context, hcontext, hactive, (hclient firstSlot hactive).2.2.1, hstarted⟩

end Daemon
