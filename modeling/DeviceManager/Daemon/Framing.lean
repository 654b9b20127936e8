import DeviceManager.Daemon.Timeout

/-!
# Requests of clients, read in pieces

`handle_client_input` collects the bytes of a client over any number of reads and calls.
`Client.takeInput` is what a call does for its client, and `Client.actions` is what all calls for
a connection do, one after the other.

* `Client.Splits`: the ways in which the calls can take a stream from the socket.
* `streamAction`: what a stream asks for, in terms of its bytes.
* `Client.Awaits`: a client that has taken some bytes and needs more.  `Client.Awaits.receive`
  and `Client.Awaits.call` follow the bytes through one read and through one call.
* `Client.Awaits.actions`: where nothing stands behind the first request, the calls do what the
  stream asks for, once, and nothing else.
* `framing_independent_iff`: where something does, they do more, or it depends on the reads.  The
  comparison with `expected_size` is an equality, and a request that a read goes past is never
  answered; a refused header is refused again with every later read; and a request that fills the
  buffer leaves no room, so that the next call closes the connection.
-/

namespace Daemon

open Devmgr

/-! ## What the calls do -/

/-- What a call of `handle_client_input` does for its client. -/
inductive ClientAction
  | wait
  | close
  | refuse (status : Status)
  | start (request : IpcRequest)
  deriving DecidableEq

/-- The action in the context of the daemon. -/
def ClientAction.run (env : Env) (context : Context) (index : Slot) :
    ClientAction → Int × Context
  | .wait => (Status.ok.code, context)
  | .close => (Status.ok.code, closeClient context index)
  | .refuse status => queueClientResponse env context index 0 status.code []
  | .start request => startRequest env context index request

/-- A complete request is started, or refused where it does not decode. -/
def decodeAction (input : List UInt8) : ClientAction :=
  match ipcDecodeRequest input with
  | .error status => .refuse status
  | .ok request => .start request

/-- The client behind a call of `handle_client_input`, and the action. -/
def Client.takeInput (client : Client) (reads : List ReadResult) : Client × ClientAction :=
  let read := client.readLoop reads
  let action : ClientAction :=
    match read.2 with
    | .blocked => .wait
    | .closed => .close
    | .tooLong => .refuse .limit
    | .complete => decodeAction read.1.input
  (read.1, action)

theorem handleClientInput_eq (env : Env) (context : Context) (index : Slot)
    (reads : List ReadResult) :
    handleClientInput env context index reads =
      ((context.clients index).takeInput reads).2.run env
        (context.setClient index ((context.clients index).takeInput reads).1) index := by
  unfold handleClientInput Client.takeInput
  dsimp only
  generalize (context.clients index).readLoop reads = read
  rcases read with ⟨client, stop⟩
  cases stop with
  | blocked => rfl
  | closed => rfl
  | tooLong => rfl
  | complete =>
    dsimp only
    unfold decodeAction
    rcases ipcDecodeRequest client.input with status | request
    · rfl
    · rfl

/-- What successive calls do for a client, apart from waiting.  Behind a `close` the connection is
gone. -/
def Client.actions (client : Client) : List (List ReadResult) → List ClientAction
  | [] => []
  | reads :: calls =>
    match client.takeInput reads with
    | (client, .wait) => client.actions calls
    | (_, .close) => [.close]
    | (client, action) => action :: client.actions calls

/-! ## Streams -/

/-- The bytes of a read. -/
def ReadResult.bytes : ReadResult → List UInt8
  | .data first more => first :: more
  | .eof | .again | .interrupted | .failed => []

/-- The reads of one call until it returns: each brings bytes that there is room for, or was
interrupted, and behind all but the last the loop reads on. -/
def Client.Performs (client : Client) : List ReadResult → Prop
  | [] => True
  | .interrupted :: reads => client.Performs reads
  | .data first more :: reads =>
    client.input.length + (first :: more).length ≤ clientInputSize ∧
      (reads ≠ [] → (client.receive (first :: more)).2 = .more ∧
        (client.receive (first :: more)).1.Performs reads)
  | .eof :: _ | .again :: _ | .failed :: _ => False

/-- The calls take the stream from the socket of a client.  A call is made while there is
something to read, and takes some of it.  If the buffer is full, the `read` of no bytes returns
zero, and the connection is closed; what stands behind a close is not read. -/
inductive Client.Splits : Client → List UInt8 → List (List ReadResult) → Prop
  | done (client : Client) : Splits client [] []
  | call {client : Client} {reads : List ReadResult} {rest : List UInt8}
      {calls : List (List ReadResult)} (hperforms : client.Performs reads)
      (hbytes : reads.flatMap ReadResult.bytes ≠ [])
      (hopen : (client.takeInput reads).2 ≠ .close)
      (hrest : Splits (client.takeInput reads).1 rest calls) :
      Splits client (reads.flatMap ReadResult.bytes ++ rest) (reads :: calls)
  | closed {client : Client} {reads : List ReadResult} (rest : List UInt8)
      (hperforms : client.Performs reads) (hbytes : reads.flatMap ReadResult.bytes ≠ [])
      (hclose : (client.takeInput reads).2 = .close) :
      Splits client (reads.flatMap ReadResult.bytes ++ rest) [reads]
  | full {client : Client} {stream : List UInt8}
      (hfull : clientInputSize ≤ client.input.length) (hsome : stream ≠ []) :
      Splits client stream [[]]

/-- The length that the header announces. -/
def announced (stream : List UInt8) : Nat := (getLe32 (stream.drop 4)).toNat

/-- What a stream asks for: nothing yet, the refusal of its length, or its first request. -/
def streamAction (stream : List UInt8) : ClientAction :=
  if stream.length < ipcRequestHeaderSize then .wait
  else if announced stream > ipcMaxPayload then .refuse .limit
  else if stream.length < ipcRequestHeaderSize + announced stream then .wait
  else decodeAction (stream.take (ipcRequestHeaderSize + announced stream))

/-- What an action is to the connection: nothing, if it is to wait. -/
def ClientAction.taken : ClientAction → List ClientAction
  | .wait => []
  | action => [action]

/-- The end of the first request, or of a header that is refused. -/
def requestEnd (stream : List UInt8) : Nat :=
  if announced stream > ipcMaxPayload then ipcRequestHeaderSize
  else ipcRequestHeaderSize + announced stream

/-- There are bytes behind the first request, or behind a header that is refused. -/
def trails (stream : List UInt8) : Prop :=
  ipcRequestHeaderSize ≤ stream.length ∧ requestEnd stream < stream.length

theorem announced_append {stream : List UInt8} (h : ipcRequestHeaderSize ≤ stream.length)
    (rest : List UInt8) : announced (stream ++ rest) = announced stream :=
  congrArg UInt32.toNat (getLe32_announced h rest)

theorem streamAction_tooLong {input : List UInt8} (hheader : ipcRequestHeaderSize ≤ input.length)
    (hlong : announced input > ipcMaxPayload) (rest : List UInt8) :
    streamAction (input ++ rest) = .refuse .limit := by
  have hlength : ipcRequestHeaderSize ≤ (input ++ rest).length := by
    rw [List.length_append]
    omega
  rw [streamAction, if_neg (Nat.not_lt.mpr hlength), announced_append hheader, if_pos hlong]

theorem streamAction_complete {input : List UInt8}
    (hannounced : announced input ≤ ipcMaxPayload)
    (hlength : input.length = ipcRequestHeaderSize + announced input) (rest : List UInt8) :
    streamAction (input ++ rest) = decodeAction input := by
  have hheader : ipcRequestHeaderSize ≤ input.length := by omega
  have hlonger : (input ++ rest).length = input.length + rest.length := List.length_append
  rw [streamAction, if_neg (by omega), announced_append hheader,
    if_neg (Nat.not_lt.mpr hannounced), if_neg (by omega), ← hlength, List.take_left]

/-- A header that is refused, at the end of a stream. -/
theorem tail_of_tooLong {input rest : List UInt8} (hheader : ipcRequestHeaderSize ≤ input.length)
    (hlong : announced input > ipcMaxPayload) (hends : ¬ trails (input ++ rest)) : rest = [] := by
  rw [trails, requestEnd, announced_append hheader, if_pos hlong, List.length_append] at hends
  exact List.length_eq_zero_iff.mp (by omega)

/-- A request, at the end of a stream. -/
theorem tail_of_complete {input rest : List UInt8} (hannounced : announced input ≤ ipcMaxPayload)
    (hlength : input.length = ipcRequestHeaderSize + announced input)
    (hends : ¬ trails (input ++ rest)) : rest = [] := by
  rw [trails, requestEnd, announced_append (by omega), if_neg (Nat.not_lt.mpr hannounced),
    List.length_append] at hends
  exact List.length_eq_zero_iff.mp (by omega)

theorem trails_of_past {input : List UInt8} (hheader : ipcRequestHeaderSize ≤ input.length)
    (hannounced : announced input ≤ ipcMaxPayload)
    (hpast : ipcRequestHeaderSize + announced input < input.length) (rest : List UInt8) :
    trails (input ++ rest) := by
  rw [trails, requestEnd, announced_append hheader, if_neg (Nat.not_lt.mpr hannounced),
    List.length_append]
  omega

theorem decodeAction_ne_wait (input : List UInt8) :
    decodeAction input ≠ .wait ∧ decodeAction input ≠ .close := by
  unfold decodeAction
  split
  · exact ⟨ClientAction.noConfusion, ClientAction.noConfusion⟩
  · exact ⟨ClientAction.noConfusion, ClientAction.noConfusion⟩

/-! ## One read -/

/-- The client has taken the bytes `taken`, and they are not a request yet. -/
structure Client.Awaits (client : Client) (taken : List UInt8) : Prop where
  input : client.input = taken
  expected : client.expectedSize =
    if taken.length < ipcRequestHeaderSize then 0 else ipcRequestHeaderSize + announced taken
  short : ipcRequestHeaderSize ≤ taken.length →
    announced taken ≤ ipcMaxPayload ∧ taken.length < ipcRequestHeaderSize + announced taken

/-- What a client that has taken the bytes `input` is told. -/
inductive Receives (input : List UInt8) : Client × InputAction → Prop
  | more {client : Client} (hawaits : client.Awaits input) : Receives input (client, .more)
  | tooLong {client : Client} (hheader : ipcRequestHeaderSize ≤ input.length)
      (hlong : announced input > ipcMaxPayload) : Receives input (client, .tooLong)
  | complete {client : Client} (hinput : client.input = input)
      (hannounced : announced input ≤ ipcMaxPayload)
      (hlength : input.length = ipcRequestHeaderSize + announced input) :
      Receives input (client, .complete)
  | past {client : Client} (hheader : ipcRequestHeaderSize ≤ input.length)
      (hannounced : announced input ≤ ipcMaxPayload)
      (hlength : ipcRequestHeaderSize + announced input < input.length) :
      Receives input (client, .more)

theorem Client.Awaits.new (connection : Nat) : (newClient connection).Awaits [] :=
  ⟨rfl, rfl, fun h => absurd h (by decide)⟩

/-- The announced length is known, and no request ends here. -/
theorem Receives.of_incomplete {input : List UInt8} {client : Client}
    (hheader : ipcRequestHeaderSize ≤ input.length) (hinput : client.input = input)
    (hexpected : client.expectedSize = ipcRequestHeaderSize + announced input)
    (hannounced : announced input ≤ ipcMaxPayload)
    (hlength : input.length ≠ ipcRequestHeaderSize + announced input) :
    Receives input (client, .more) := by
  rcases Nat.lt_or_gt_of_ne hlength with hshort | hpast
  · exact .more ⟨hinput, by rw [if_neg (Nat.not_lt.mpr hheader), hexpected],
      fun _ => ⟨hannounced, hshort⟩⟩
  · exact .past hheader hannounced hpast

theorem Client.Awaits.receive {client : Client} {taken : List UInt8} (h : client.Awaits taken)
    (data : List UInt8) : Receives (taken ++ data) (client.receive data) := by
  have hlonger : taken.length ≤ (taken ++ data).length := by simp
  have hexpected := h.expected
  unfold Client.receive
  dsimp only
  rw [h.input]
  by_cases hknown : ipcRequestHeaderSize ≤ taken.length
  · -- the header was there before, so the length stands
    rw [if_neg (Nat.not_lt.mpr hknown), ← announced_append hknown data] at hexpected
    have hannounced := (h.short hknown).1
    rw [← announced_append hknown data] at hannounced
    have hsome : client.expectedSize ≠ 0 := by
      rw [hexpected, ipcRequestHeaderSize]
      omega
    rw [if_neg (fun hguard => hsome hguard.2)]
    split
    · rename_i hcomplete
      exact .complete rfl hannounced (hcomplete.2.trans hexpected)
    · rename_i hmore
      refine .of_incomplete (hknown.trans hlonger) rfl hexpected hannounced fun hlength => ?_
      exact hmore ⟨hsome, hlength.trans hexpected.symm⟩
  · rw [if_pos (Nat.lt_of_not_le hknown)] at hexpected
    by_cases hheader : ipcRequestHeaderSize ≤ (taken ++ data).length
    · rw [if_pos ⟨hheader, hexpected⟩]
      split
      · rename_i hlong
        exact .tooLong hheader hlong
      rename_i hannounced
      split
      · rename_i hlength
        exact .complete rfl (Nat.le_of_not_lt hannounced) hlength
      · rename_i hlength
        exact .of_incomplete hheader rfl rfl (Nat.le_of_not_lt hannounced) hlength
    · rw [if_neg (fun hguard => hheader hguard.1), if_neg (fun hguard => hguard.1 hexpected)]
      refine .more ⟨rfl, ?_, fun habsurd => absurd habsurd hheader⟩
      rw [if_pos (Nat.lt_of_not_le hheader)]
      exact hexpected

/-! ## One call, and all calls -/

/-- A client that waits has room in its buffer. -/
theorem Client.Awaits.length_lt {client : Client} {taken : List UInt8} (h : client.Awaits taken) :
    taken.length < clientInputSize := by
  rw [clientInputSize]
  by_cases hheader : ipcRequestHeaderSize ≤ taken.length
  · have hshort := h.short hheader
    omega
  · omega

/-- A client that waits has not got what its stream asks for. -/
theorem Client.Awaits.streamAction {client : Client} {taken : List UInt8}
    (h : client.Awaits taken) : streamAction taken = .wait := by
  unfold Daemon.streamAction
  split
  · rfl
  rename_i hheader
  obtain ⟨hannounced, hshort⟩ := h.short (Nat.le_of_not_lt hheader)
  rw [if_neg (Nat.not_lt.mpr hannounced), if_pos hshort]

section TakeInput

variable {client : Client} (hroom : client.input.length < clientInputSize)

include hroom

theorem takeInput_nil : client.takeInput [] = (client, .wait) := by
  rw [Client.takeInput, Client.readLoop, if_neg (Nat.not_le.mpr hroom)]

theorem takeInput_interrupted (reads : List ReadResult) :
    client.takeInput (.interrupted :: reads) = client.takeInput reads := by
  rw [Client.takeInput, Client.readLoop, if_neg (Nat.not_le.mpr hroom), Client.takeInput]

/-- `read` returns what fits into the buffer. -/
theorem takeInput_data (first : UInt8) (more : List UInt8) (reads : List ReadResult) :
    client.takeInput (.data first more :: reads) =
      match client.receive ((first :: more).take (clientInputSize - client.input.length)) with
      | (client, .more) => client.takeInput reads
      | (client, .tooLong) => (client, .refuse .limit)
      | (client, .complete) => (client, decodeAction client.input) := by
  rw [Client.takeInput, Client.readLoop, if_neg (Nat.not_le.mpr hroom)]
  dsimp only
  rcases client.receive ((first :: more).take (clientInputSize - client.input.length)) with
    ⟨received, action⟩
  cases action with
  | more => rfl
  | tooLong => rfl
  | complete => rfl

/-- A read of bytes that there is room for. -/
theorem takeInput_fits {first : UInt8} {more : List UInt8}
    (hfits : client.input.length + (first :: more).length ≤ clientInputSize)
    (reads : List ReadResult) :
    client.takeInput (.data first more :: reads) =
      match client.receive (first :: more) with
      | (client, .more) => client.takeInput reads
      | (client, .tooLong) => (client, .refuse .limit)
      | (client, .complete) => (client, decodeAction client.input) := by
  rw [takeInput_data hroom, List.take_of_length_le (by omega)]

end TakeInput

theorem Client.Performs.tail {client : Client} {first : UInt8} {more : List UInt8}
    {reads : List ReadResult} (h : client.Performs (.data first more :: reads)) :
    (client.receive (first :: more)).1.Performs reads := by
  cases reads with
  | nil => trivial
  | cons next reads => exact (h.2 (List.cons_ne_nil _ _)).2

/-- A call waits with all bytes taken, or does what the whole stream asks for, and leaves
nothing. -/
theorem Client.Awaits.call {client : Client} {taken : List UInt8} (h : client.Awaits taken)
    {reads : List ReadResult} (hperforms : client.Performs reads) {stream rest : List UInt8}
    (hstream : stream = taken ++ reads.flatMap ReadResult.bytes ++ rest) (hends : ¬ trails stream) :
    ((client.takeInput reads).2 = .wait ∧
      (client.takeInput reads).1.Awaits (taken ++ reads.flatMap ReadResult.bytes)) ∨
    ((client.takeInput reads).2 = Daemon.streamAction stream ∧
      Daemon.streamAction stream ≠ .wait ∧ Daemon.streamAction stream ≠ .close ∧ rest = []) := by
  -- The induction is on the reads; `taken` grows by the bytes of each.
  induction reads generalizing client taken with
  | nil =>
    rw [takeInput_nil (h.input ▸ h.length_lt), List.flatMap_nil, List.append_nil]
    exact .inl ⟨rfl, h⟩
  | cons result reads ih =>
    have hroom : client.input.length < clientInputSize := h.input ▸ h.length_lt
    cases result with
    | interrupted =>
      rw [takeInput_interrupted hroom]
      exact ih h hperforms hstream
    | data first more =>
      have htail := hperforms.tail
      rw [takeInput_fits hroom hperforms.1]
      rw [List.flatMap_cons, ReadResult.bytes, ← List.append_assoc] at hstream ⊢
      have hreceives := h.receive (first :: more)
      generalize client.receive (first :: more) = received at hreceives htail ⊢
      cases hreceives with
      | more hawaits => exact ih hawaits htail hstream
      | tooLong hheader hlong =>
        rw [List.append_assoc] at hstream
        rw [hstream] at hends ⊢
        have hnil := List.append_eq_nil_iff.mp (tail_of_tooLong hheader hlong hends)
        rw [streamAction_tooLong hheader hlong]
        exact .inr ⟨rfl, ClientAction.noConfusion, ClientAction.noConfusion, hnil.2⟩
      | complete hinput hannounced hlength =>
        rw [List.append_assoc] at hstream
        rw [hstream] at hends ⊢
        have hnil := List.append_eq_nil_iff.mp (tail_of_complete hannounced hlength hends)
        rw [streamAction_complete hannounced hlength, ← hinput]
        exact .inr ⟨rfl, (decodeAction_ne_wait _).1, (decodeAction_ne_wait _).2, hnil.2⟩
      | past hheader hannounced hlength =>
        rw [hstream, List.append_assoc] at hends
        exact absurd (trails_of_past hheader hannounced hlength _) hends
    | eof | again | failed => exact hperforms.elim

theorem Client.Splits.of_nil {client : Client} {calls : List (List ReadResult)}
    (h : client.Splits [] calls) : calls = [] := by
  generalize hstream : ([] : List UInt8) = stream at h
  cases h with
  | done => rfl
  | call _ hbytes => exact absurd (List.append_eq_nil_iff.mp hstream.symm).1 hbytes
  | closed _ _ hbytes => exact absurd (List.append_eq_nil_iff.mp hstream.symm).1 hbytes
  | full _ hsome => exact absurd hstream.symm hsome

theorem actions_wait {client : Client} {reads : List ReadResult}
    (h : (client.takeInput reads).2 = .wait) (calls : List (List ReadResult)) :
    client.actions (reads :: calls) = (client.takeInput reads).1.actions calls := by
  rw [Client.actions]
  generalize client.takeInput reads = taken at h ⊢
  obtain ⟨next, action⟩ := taken
  subst h
  rfl

theorem actions_close {client : Client} {reads : List ReadResult}
    (h : (client.takeInput reads).2 = .close) (calls : List (List ReadResult)) :
    client.actions (reads :: calls) = [.close] := by
  rw [Client.actions]
  generalize client.takeInput reads = taken at h ⊢
  obtain ⟨next, action⟩ := taken
  subst h
  rfl

theorem actions_cons {client : Client} {reads : List ReadResult}
    (hwait : (client.takeInput reads).2 ≠ .wait) (hclose : (client.takeInput reads).2 ≠ .close)
    (calls : List (List ReadResult)) :
    client.actions (reads :: calls) =
      (client.takeInput reads).2 :: (client.takeInput reads).1.actions calls := by
  rw [Client.actions]
  generalize client.takeInput reads = taken at hwait hclose ⊢
  obtain ⟨next, action⟩ := taken
  cases action with
  | wait => exact absurd rfl hwait
  | close => exact absurd rfl hclose
  | refuse status => rfl
  | start request => rfl

/-- Where nothing stands behind the first request, the calls do what the stream asks for. -/
theorem Client.Awaits.actions {client : Client} {taken rest stream : List UInt8}
    (h : client.Awaits taken) {calls : List (List ReadResult)} (hsplits : client.Splits rest calls)
    (hstream : stream = taken ++ rest) (hends : ¬ trails stream) :
    client.actions calls = (Daemon.streamAction stream).taken := by
  induction hsplits generalizing taken with
  | done client =>
    rw [hstream, List.append_nil, h.streamAction]
    rfl
  | call hperforms hbytes hopen hrest ih =>
    rw [← List.append_assoc] at hstream
    rcases h.call hperforms hstream hends with ⟨hwait, hawaits⟩ | ⟨haction, hwait, hclose, hnil⟩
    · rw [actions_wait hwait]
      exact ih hawaits hstream
    · subst hnil
      obtain rfl := hrest.of_nil
      rw [← haction] at hwait hclose ⊢
      rw [actions_cons hwait hclose]
      generalize (Client.takeInput _ _).2 = action at hwait
      cases action with
      | wait => exact absurd rfl hwait
      | close => rfl
      | refuse status => rfl
      | start request => rfl
  | closed rest hperforms hbytes hclosed =>
    rw [← List.append_assoc] at hstream
    rcases h.call hperforms hstream hends with ⟨hwait, _⟩ | ⟨haction, _, hclose, _⟩
    · exact absurd (hwait.symm.trans hclosed) ClientAction.noConfusion
    · exact absurd (haction.symm.trans hclosed) hclose
  | full hfull _ =>
    rw [h.input] at hfull
    exact absurd h.length_lt (Nat.not_lt.mpr hfull)

/-! ## Bytes behind a request -/

theorem ipcDecodeRequest_length {input : List UInt8} {request : IpcRequest}
    (h : ipcDecodeRequest input = .ok request) :
    announced input ≤ ipcMaxPayload ∧
      input.length = ipcRequestHeaderSize + announced input := by
  obtain ⟨_, hlimit, hlength, _⟩ := ipcDecodeRequest_eq_ok h
  exact ⟨hlimit, hlength⟩

/-- Every stream can be taken in some way. -/
theorem Client.exists_splits (client : Client) (stream : List UInt8) :
    ∃ calls, client.Splits stream calls := by
  induction stream generalizing client with
  | nil => exact ⟨[], .done client⟩
  | cons byte stream ih =>
    by_cases hfull : clientInputSize ≤ client.input.length
    · exact ⟨[[]], .full hfull (List.cons_ne_nil _ _)⟩
    have hperforms : client.Performs [.data byte []] :=
      ⟨by rw [List.length_singleton]; omega, fun hnil => absurd rfl hnil⟩
    have hbytes : [ReadResult.data byte []].flatMap ReadResult.bytes ≠ [] := List.cons_ne_nil _ _
    by_cases hclose : (client.takeInput [.data byte []]).2 = .close
    · exact ⟨_, .closed stream hperforms hbytes hclose⟩
    · obtain ⟨calls, hcalls⟩ := ih (client.takeInput [.data byte []]).1
      exact ⟨_, .call hperforms hbytes hclose hcalls⟩

section Once

variable {client : Client} {piece rest : List UInt8} {calls : List (List ReadResult)}

/-- A call of one read. -/
theorem Client.Splits.once (hpiece : piece ≠ [])
    (hfits : client.input.length + piece.length ≤ clientInputSize)
    (hopen : (client.takeInput [.ofBytes piece]).2 ≠ .close)
    (hrest : (client.takeInput [.ofBytes piece]).1.Splits rest calls) :
    client.Splits (piece ++ rest) ([.ofBytes piece] :: calls) := by
  obtain ⟨first, more, rfl⟩ := List.exists_cons_of_ne_nil hpiece
  have hbytes : [ReadResult.ofBytes (first :: more)].flatMap ReadResult.bytes = first :: more :=
    List.append_nil _
  have hcall := @Client.Splits.call client [.ofBytes (first :: more)] rest calls
    ⟨hfits, fun hnil => absurd rfl hnil⟩ (by rw [hbytes]; exact hpiece) hopen hrest
  rwa [hbytes] at hcall

/-- A call of one read that ends with a close. -/
theorem Client.Splits.last (hpiece : piece ≠ [])
    (hfits : client.input.length + piece.length ≤ clientInputSize)
    (hclose : (client.takeInput [.ofBytes piece]).2 = .close) (rest : List UInt8) :
    client.Splits (piece ++ rest) [[.ofBytes piece]] := by
  obtain ⟨first, more, rfl⟩ := List.exists_cons_of_ne_nil hpiece
  have hbytes : [ReadResult.ofBytes (first :: more)].flatMap ReadResult.bytes = first :: more :=
    List.append_nil _
  have hcall := @Client.Splits.closed client [.ofBytes (first :: more)] rest
    ⟨hfits, fun hnil => absurd rfl hnil⟩ (by rw [hbytes]; exact hpiece) hclose
  rwa [hbytes] at hcall

theorem takeInput_ofBytes (hpiece : piece ≠ [])
    (hfits : client.input.length + piece.length ≤ clientInputSize) :
    client.takeInput [.ofBytes piece] =
      match client.receive piece with
      | (client, .more) => client.takeInput []
      | (client, .tooLong) => (client, .refuse .limit)
      | (client, .complete) => (client, decodeAction client.input) := by
  obtain ⟨first, more, rfl⟩ := List.exists_cons_of_ne_nil hpiece
  rw [List.length_cons] at hfits
  exact takeInput_fits (by omega) hfits []

/-- A header that announces too much is refused with every read. -/
theorem takeInput_refused (hpiece : piece ≠ [])
    (hfits : client.input.length + piece.length ≤ clientInputSize)
    (hexpected : client.expectedSize = 0)
    (hheader : ipcRequestHeaderSize ≤ (client.input ++ piece).length)
    (hlong : announced (client.input ++ piece) > ipcMaxPayload) :
    client.takeInput [.ofBytes piece] =
      ({ client with input := client.input ++ piece }, .refuse .limit) := by
  have hreceive : client.receive piece =
      ({ client with input := client.input ++ piece }, .tooLong) := by
    unfold Client.receive
    dsimp only
    rw [if_pos ⟨hheader, hexpected⟩]
    exact if_pos hlong
  rw [takeInput_ofBytes hpiece hfits, hreceive]

/-- A refusal, and the calls behind it. -/
theorem Client.Splits.refused (hpiece : piece ≠ [])
    (hfits : client.input.length + piece.length ≤ clientInputSize)
    (hexpected : client.expectedSize = 0) {input : List UInt8}
    (hinput : client.input ++ piece = input) (hheader : ipcRequestHeaderSize ≤ input.length)
    (hlong : announced input > ipcMaxPayload)
    (hrest : Client.Splits { client with input := input } rest calls) :
    client.Splits (piece ++ rest) ([.ofBytes piece] :: calls) ∧
      client.actions ([.ofBytes piece] :: calls) =
        .refuse .limit :: Client.actions { client with input := input } calls := by
  subst hinput
  have htake := takeInput_refused hpiece hfits hexpected hheader hlong
  refine ⟨.once hpiece hfits ?_ ?_, ?_⟩
  · rw [htake]
    exact ClientAction.noConfusion
  · rwa [htake]
  · rw [Client.actions, htake]

end Once

/-- The front of a stream that has the header announces the same. -/
theorem announced_take {stream : List UInt8} {count : Nat} (h : ipcRequestHeaderSize ≤ count)
    (hlength : count ≤ stream.length) : announced (stream.take count) = announced stream := by
  conv_rhs => rw [← List.take_append_drop count stream]
  rw [announced_append (by rw [List.length_take]; omega)]

section Trailing

variable (connection : Nat) {stream : List UInt8}

/-- The header in a read of its own, and one byte behind it. -/
theorem refused_twice (h : trails stream) (hlong : announced stream > ipcMaxPayload) :
    ∃ calls more, (newClient connection).Splits stream calls ∧
      (newClient connection).actions calls = .refuse .limit :: .refuse .limit :: more := by
  obtain ⟨hheader, hpast⟩ := h
  rw [requestEnd, if_pos hlong] at hpast
  obtain ⟨byte, tail, hdrop⟩ : ∃ byte tail, stream.drop ipcRequestHeaderSize = byte :: tail :=
    List.exists_cons_of_ne_nil (by rw [ne_eq, List.drop_eq_nil_iff]; omega)
  have hlength : (stream.take ipcRequestHeaderSize).length = ipcRequestHeaderSize := by
    rw [List.length_take]
    omega
  have hannounced := announced_take (Nat.le_refl _) hheader
  have hstream : stream = stream.take ipcRequestHeaderSize ++ ([byte] ++ tail) := by
    conv_lhs => rw [← List.take_append_drop ipcRequestHeaderSize stream, hdrop]
    rfl
  generalize stream.take ipcRequestHeaderSize = front at hlength hannounced hstream
  have hsome : front ≠ [] := fun hnil => absurd (hnil ▸ hlength) (by decide)
  have hroom : front.length + 1 ≤ clientInputSize := by
    rw [hlength]
    decide
  rw [← hannounced] at hlong
  rw [hstream]
  obtain ⟨calls, hcalls⟩ := Client.exists_splits
    { newClient connection with input := front ++ [byte] } tail
  have hagain := @Client.Splits.refused { newClient connection with input := front } [byte] tail
    calls (List.cons_ne_nil _ _) hroom rfl _ rfl
    (by rw [List.length_append]; exact hlength.ge.trans (Nat.le_add_right _ _))
    (by rw [announced_append hlength.ge]; exact hlong) hcalls
  have hfirst := @Client.Splits.refused (newClient connection) front _ _ hsome
    (show 0 + front.length ≤ _ by omega) rfl front (List.nil_append _) hlength.ge hlong hagain.1
  exact ⟨_, _, hfirst.1, hfirst.2.trans (congrArg _ hagain.2)⟩

theorem receive_input (client : Client) (data : List UInt8) :
    (client.receive data).1.input = client.input ++ data := by
  unfold Client.receive
  dsimp only
  split_ifs
  · rfl
  · rfl
  · rfl
  · rfl
  · rfl

/-- A request in a read of its own. -/
theorem takeInput_complete (hannounced : announced stream ≤ ipcMaxPayload)
    (hlength : stream.length = ipcRequestHeaderSize + announced stream) :
    ((newClient connection).takeInput [.ofBytes stream]).2 = decodeAction stream ∧
      ((newClient connection).takeInput [.ofBytes stream]).1.input = stream := by
  have hsome : stream ≠ [] := fun hnil => absurd (hnil ▸ hlength) (by decide)
  have hfits : (newClient connection).input.length + stream.length ≤ clientInputSize := by
    show 0 + _ ≤ _
    rw [clientInputSize]
    omega
  have hreceives := (Client.Awaits.new connection).receive stream
  rw [List.nil_append] at hreceives
  rw [takeInput_ofBytes hsome hfits]
  generalize (newClient connection).receive stream = received at hreceives ⊢
  cases hreceives with
  | more hawaits => exact absurd (hawaits.short (by omega)).2 (by omega)
  | tooLong _ hlong => omega
  | complete hinput => exact ⟨congrArg decodeAction hinput, hinput⟩
  | past _ _ hpast => omega

/-- A read that goes past a request: nothing is done, or the connection is closed. -/
theorem takeInput_past (hheader : ipcRequestHeaderSize ≤ stream.length)
    (hannounced : announced stream ≤ ipcMaxPayload)
    (hpast : ipcRequestHeaderSize + announced stream < stream.length)
    (hfits : stream.length ≤ clientInputSize) :
    ((newClient connection).takeInput [.ofBytes stream]).2 =
      if stream.length < clientInputSize then .wait else .close := by
  have hsome : stream ≠ [] := fun hnil => by rw [hnil] at hpast; exact absurd hpast (by simp)
  have hinput : ((newClient connection).receive stream).1.input = stream :=
    receive_input (newClient connection) stream
  have hreceives := (Client.Awaits.new connection).receive stream
  rw [List.nil_append] at hreceives
  rw [takeInput_ofBytes hsome (show 0 + _ ≤ _ by omega)]
  generalize (newClient connection).receive stream = received at hreceives hinput ⊢
  cases hreceives with
  | more hawaits => exact absurd (hawaits.short hheader).2 (by omega)
  | tooLong _ hlong => omega
  | complete _ _ hlength => omega
  | past =>
    dsimp only at hinput ⊢
    split_ifs with hroom
    · rw [takeInput_nil (hinput.symm ▸ hroom)]
    · rw [Client.takeInput, Client.readLoop, hinput, if_pos (Nat.le_of_not_lt hroom)]

/-- The request in a read of its own, and what stands behind it. -/
theorem exists_first_apart (hannounced : announced stream ≤ ipcMaxPayload)
    (hlength : stream.length = ipcRequestHeaderSize + announced stream) (rest : List UInt8) :
    ∃ calls more, (newClient connection).Splits (stream ++ rest) calls ∧
      (newClient connection).actions calls = decodeAction stream :: more := by
  obtain ⟨haction, _⟩ := takeInput_complete connection hannounced hlength
  obtain ⟨hwait, hclose⟩ := decodeAction_ne_wait stream
  rw [← haction] at hwait hclose ⊢
  obtain ⟨calls, hcalls⟩ :=
    Client.exists_splits ((newClient connection).takeInput [.ofBytes stream]).1 rest
  refine ⟨_, _, .once ?_ ?_ hclose hcalls, actions_cons hwait hclose calls⟩
  · exact fun hnil => absurd (hnil ▸ hlength) (by decide)
  · show 0 + _ ≤ _
    rw [clientInputSize]
    omega

/-- The first read takes what there is room for, and goes past the request. -/
theorem exists_first_past (h : trails stream) (hannounced : announced stream < ipcMaxPayload) :
    ∃ calls, (newClient connection).Splits stream calls ∧
      ((newClient connection).actions calls = [] ∨
        (newClient connection).actions calls = [.close]) := by
  obtain ⟨hheader, hpast⟩ := h
  rw [requestEnd, if_neg (Nat.not_lt.mpr hannounced.le)] at hpast
  have hsize : clientInputSize = ipcRequestHeaderSize + ipcMaxPayload := rfl
  have hlength : (stream.take clientInputSize).length = min clientInputSize stream.length :=
    List.length_take
  have hsame : announced (stream.take clientInputSize) = announced stream := by
    rcases Nat.le_total clientInputSize stream.length with hle | hle
    · exact announced_take (by omega) hle
    · rw [List.take_of_length_le hle]
  have htake := @takeInput_past connection (stream.take clientInputSize) (by omega) (by omega)
    (by omega) (by omega)
  have hsome : stream.take clientInputSize ≠ [] := by
    intro hnil
    rw [hnil, List.length_nil] at hlength
    omega
  have hfits : (newClient connection).input.length + (stream.take clientInputSize).length ≤
      clientInputSize := by
    show 0 + _ ≤ _
    omega
  split_ifs at htake with hroom
  · have hall : stream.take clientInputSize = stream := List.take_of_length_le (by omega)
    have hsplits := Client.Splits.once hsome hfits (by rw [htake]; exact ClientAction.noConfusion)
      (.done _)
    rw [List.append_nil] at hsplits
    rw [hall] at hsplits htake
    exact ⟨_, hsplits, .inl (actions_wait htake [])⟩
  · have hsplits := Client.Splits.last hsome hfits htake (stream.drop clientInputSize)
    rw [List.take_append_drop] at hsplits
    exact ⟨_, hsplits, .inr (actions_close htake [])⟩

/-- A request that fills the buffer, and something behind it. -/
theorem exists_close_behind (hannounced : announced stream = ipcMaxPayload)
    (hlength : stream.length = ipcRequestHeaderSize + announced stream) {rest : List UInt8}
    (hrest : rest ≠ []) :
    ∃ calls, (newClient connection).Splits (stream ++ rest) calls ∧
      (newClient connection).actions calls = [decodeAction stream, .close] := by
  obtain ⟨haction, hinput⟩ := takeInput_complete connection hannounced.le hlength
  obtain ⟨hwait, hclose⟩ := decodeAction_ne_wait stream
  have hfull : clientInputSize ≤
      ((newClient connection).takeInput [.ofBytes stream]).1.input.length := by
    rw [hinput, hlength, hannounced]
    exact Nat.le_refl _
  rw [← haction] at hwait hclose ⊢
  refine ⟨_, .once ?_ ?_ hclose (.full hfull hrest), ?_⟩
  · exact fun hnil => absurd (hnil ▸ hlength) (by decide)
  · show 0 + _ ≤ _
    rw [clientInputSize]
    omega
  · rw [actions_cons hwait hclose, actions_close]
    rw [Client.takeInput, Client.readLoop, if_pos hfull]

end Trailing

/-! ## The calls of a connection -/

/-- The same bytes taken, and the same length expected. -/
structure Client.SameInput (client other : Client) : Prop where
  input : client.input = other.input
  expected : client.expectedSize = other.expectedSize

theorem Client.SameInput.receive {client other : Client} (h : client.SameInput other)
    (data : List UInt8) :
    (client.receive data).2 = (other.receive data).2 ∧
      (client.receive data).1.SameInput (other.receive data).1 := by
  unfold Client.receive
  dsimp only
  rw [h.input, h.expected]
  split_ifs
  · exact ⟨rfl, rfl, rfl⟩
  · exact ⟨rfl, rfl, rfl⟩
  · exact ⟨rfl, rfl, rfl⟩
  · exact ⟨rfl, rfl, rfl⟩
  · exact ⟨rfl, rfl, rfl⟩

theorem Client.SameInput.readLoop {client other : Client} (h : client.SameInput other)
    (reads : List ReadResult) :
    (client.readLoop reads).2 = (other.readLoop reads).2 ∧
      (client.readLoop reads).1.SameInput (other.readLoop reads).1 := by
  induction reads generalizing client other with
  | nil =>
    unfold Client.readLoop
    rw [h.input]
    split_ifs
    · exact ⟨rfl, h⟩
    · exact ⟨rfl, h⟩
  | cons result reads ih =>
    unfold Client.readLoop
    rw [h.input]
    split_ifs
    · exact ⟨rfl, h⟩
    cases result with
    | data first more =>
      dsimp only
      obtain ⟨haction, hsame⟩ :=
        h.receive ((first :: more).take (clientInputSize - other.input.length))
      rw [haction]
      split
      · exact ih hsame
      · exact ⟨rfl, hsame⟩
      · exact ⟨rfl, hsame⟩
    | interrupted => exact ih h
    | eof | again | failed => exact ⟨rfl, h⟩

theorem Client.SameInput.takeInput {client other : Client} (h : client.SameInput other)
    (reads : List ReadResult) :
    (client.takeInput reads).2 = (other.takeInput reads).2 ∧
      (client.takeInput reads).1.SameInput (other.takeInput reads).1 := by
  obtain ⟨hstop, hsame⟩ := h.readLoop reads
  unfold Client.takeInput
  dsimp only
  rw [hstop, hsame.input]
  exact ⟨rfl, hsame⟩

theorem Client.SameInput.actions {client other : Client} (h : client.SameInput other)
    (calls : List (List ReadResult)) : client.actions calls = other.actions calls := by
  induction calls generalizing client other with
  | nil => rfl
  | cons reads calls ih =>
    obtain ⟨haction, hsame⟩ := h.takeInput reads
    have hrest := ih hsame
    unfold Client.actions
    generalize client.takeInput reads = taken at haction hsame hrest ⊢
    generalize other.takeInput reads = taken' at haction hsame hrest ⊢
    obtain ⟨client, action⟩ := taken
    obtain ⟨other, action'⟩ := taken'
    obtain rfl : action = action' := haction
    cases action with
    | wait => exact hrest
    | close => rfl
    | refuse status => exact congrArg _ hrest
    | start request => exact congrArg _ hrest

theorem queueClientResponse_sameInput (env : Env) (context : Context) (index : Slot)
    (command : UInt8) (status : Int) (payload : List UInt8) :
    ((queueClientResponse env context index command status payload).2.clients index).SameInput
      (context.clients index) := by
  rw [queueClientResponse_bytes]
  simp only [Context.setClient, Function.update_self]
  exact ⟨rfl, rfl⟩

/-- Apart from a close, an action leaves the input of the client alone. -/
theorem ClientAction.run_sameInput (env : Env) (context : Context) (index : Slot)
    {action : ClientAction} (h : action ≠ .close) :
    ((action.run env context index).2.clients index).SameInput (context.clients index) := by
  cases action with
  | wait => exact ⟨rfl, rfl⟩
  | close => exact absurd rfl h
  | refuse status => exact queueClientResponse_sameInput env context index 0 status.code []
  | start request =>
    show ((startRequest env context index request).2.clients index).SameInput _
    have hcase := startRequest_cases env context index request
    generalize startRequest env context index request = handled at hcase ⊢
    cases hcase with
    | answered => exact queueClientResponse_sameInput ..
    | upgraded => exact queueClientResponse_sameInput ..
    | cancelled => exact queueClientResponse_sameInput ..
    | sent => exact ⟨rfl, rfl⟩

/-- The calls behind a call see what it has taken. -/
theorem handleClientInput_actions (env : Env) (context : Context) (index : Slot)
    (reads : List ReadResult) (calls : List (List ReadResult))
    (h : ((context.clients index).takeInput reads).2 ≠ .close) :
    ((handleClientInput env context index reads).2.clients index).actions calls =
      ((context.clients index).takeInput reads).1.actions calls := by
  rw [handleClientInput_eq]
  refine ((ClientAction.run_sameInput env _ index h).actions calls).trans ?_
  simp only [Context.setClient, Function.update_self]

/-- What is done for the connection does not depend on how its stream is read. -/
structure Client.Framed (client : Client) (stream : List UInt8) : Prop where
  /-- The same actions with any two ways to read. -/
  same : ∀ first second, client.Splits stream first → client.Splits stream second →
    client.actions first = client.actions second
  /-- One response or one request at most. -/
  single : ∀ calls, client.Splits stream calls →
    client.actions calls = [] ∨ (∃ status, client.actions calls = [.refuse status]) ∨
      ∃ request, client.actions calls = [.start request]
  /-- A well-formed request at the front is started. -/
  started : ∀ input rest request, stream = input ++ rest → ipcDecodeRequest input = .ok request →
    ∀ calls, client.Splits stream calls → client.actions calls = [.start request]

theorem streamAction_taken (stream : List UInt8) :
    (streamAction stream).taken = [] ∨ (∃ status, (streamAction stream).taken = [.refuse status]) ∨
      ∃ request, (streamAction stream).taken = [.start request] := by
  unfold streamAction decodeAction
  split_ifs
  · exact .inl rfl
  · exact .inr (.inl ⟨_, rfl⟩)
  · exact .inl rfl
  split
  · exact .inr (.inl ⟨_, rfl⟩)
  · exact .inr (.inr ⟨_, rfl⟩)

/-- The calls for a new connection do what its stream asks for. -/
theorem framed_of_ends (connection : Nat) {stream : List UInt8} (hends : ¬ trails stream) :
    (newClient connection).Framed stream := by
  have hactions : ∀ calls, (newClient connection).Splits stream calls →
      (newClient connection).actions calls = (streamAction stream).taken := fun calls hcalls =>
    (Client.Awaits.new connection).actions hcalls (List.nil_append _).symm hends
  refine ⟨?_, ?_, ?_⟩
  · intro first second hfirst hsecond
    rw [hactions first hfirst, hactions second hsecond]
  · intro calls hcalls
    rw [hactions calls hcalls]
    exact streamAction_taken stream
  · intro input rest request hstream hdecode calls hcalls
    obtain ⟨hannounced, hlength⟩ := ipcDecodeRequest_length hdecode
    rw [hactions calls hcalls, hstream, streamAction_complete hannounced hlength, decodeAction,
      hdecode]
    rfl

/-- Bytes behind the first request show. -/
theorem not_framed_of_trails (connection : Nat) {stream : List UInt8} (h : trails stream) :
    ¬ (newClient connection).Framed stream := by
  intro hframed
  by_cases hlong : announced stream > ipcMaxPayload
  · obtain ⟨calls, more, hcalls, hactions⟩ := refused_twice connection h hlong
    have hsingle := hframed.single calls hcalls
    simp [hactions] at hsingle
  obtain ⟨hheader, hpast⟩ := h
  rw [requestEnd, if_neg hlong] at hpast
  obtain ⟨count, hcount⟩ : ∃ count, count = ipcRequestHeaderSize + announced stream := ⟨_, rfl⟩
  rw [← hcount] at hpast
  have hannounced := announced_take (hcount ▸ Nat.le_add_right _ _) hpast.le
  have hlength : (stream.take count).length = ipcRequestHeaderSize + announced (stream.take count)
    := by
    rw [hannounced, List.length_take]
    omega
  have hstream := List.take_append_drop count stream
  have hbehind : stream.drop count ≠ [] := by
    rw [ne_eq, List.drop_eq_nil_iff]
    omega
  rcases Nat.lt_or_eq_of_le (Nat.le_of_not_lt hlong) with hless | hmax
  · -- the read that goes past the request against the one that ends with it
    obtain ⟨apart, more, hapart, hactions⟩ :=
      exists_first_apart connection (hannounced.trans_le hless.le) hlength (stream.drop count)
    rw [hstream] at hapart
    obtain ⟨past, hsplits, hnone⟩ := exists_first_past connection
      ⟨hheader, by rw [requestEnd, if_neg hlong, ← hcount]; exact hpast⟩ hless
    have hsame := hframed.same apart past hapart hsplits
    rw [hactions] at hsame
    rcases hnone with hnone | hnone
    · rw [hnone] at hsame
      exact absurd hsame (List.cons_ne_nil _ _)
    · rw [hnone] at hsame
      exact (decodeAction_ne_wait _).2 (List.cons.inj hsame).1
  · obtain ⟨calls, hcalls, hactions⟩ :=
      exists_close_behind connection (hannounced.trans hmax) hlength hbehind
    rw [hstream] at hcalls
    have hsingle := hframed.single calls hcalls
    simp [hactions] at hsingle

/-- A call of `handle_client_input` does the action of `Client.takeInput`, and the calls behind it
go on from there.  For every stream that a client sends, the calls do the same for the connection
however they read the stream, one request or one refusal at most, and a well-formed request at
the front is started, exactly when there are no bytes behind the first request or behind a header
that is refused. -/
theorem framing_independent_iff (connection : Nat) (stream : List UInt8) :
    (∀ env context index reads,
      handleClientInput env context index reads =
        ((context.clients index).takeInput reads).2.run env
          (context.setClient index ((context.clients index).takeInput reads).1) index ∧
      (((context.clients index).takeInput reads).2 ≠ .close → ∀ calls,
        ((handleClientInput env context index reads).2.clients index).actions calls =
          ((context.clients index).takeInput reads).1.actions calls)) ∧
    ((newClient connection).Framed stream ↔ ¬ trails stream) := by
  refine ⟨fun env context index reads => ⟨handleClientInput_eq env context index reads, ?_⟩, ?_, ?_⟩
  · intro hopen calls
    exact handleClientInput_actions env context index reads calls hopen
  · exact fun hframed htrails => not_framed_of_trails connection htrails hframed
  · exact framed_of_ends connection

/-- A `PING` whose first byte comes alone. -/
theorem framing_independent_ping :
    (newClient 0).actions [[.ofBytes [0x49]], [.ofBytes (pingRequest.drop 1)]] =
      [.start ⟨Msg.ping, [], Nat.zero_le _⟩] := by
  refine ((framing_independent_iff 0 pingRequest).2.mpr ?_).started pingRequest [] _
    (List.append_nil _).symm ?_ _ ?_
  · show ¬ (_ ∧ _)
    decide +kernel
  · decide +kernel
  · refine @Client.Splits.once _ [0x49] (pingRequest.drop 1) _ (by decide) (by decide)
      (by decide +kernel) ?_
    exact @Client.Splits.once _ (pingRequest.drop 1) [] _ (by decide) (by decide +kernel)
      (by decide +kernel) (.done _)

/-- A byte behind a `PING`: with a read of its own it does not matter, and in the same read it
keeps the `PING` from being started. -/
theorem trailing_byte_stalls :
    ∃ separate joined, daemonSystem.runFrom handshakeContext
        [deviceSends handshakeReply, .listener [.accepted true],
          clientSends firstSlot pingRequest, clientSends firstSlot [0]] = some separate ∧
      daemonSystem.runFrom handshakeContext
        [deviceSends handshakeReply, .listener [.accepted true],
          clientSends firstSlot (pingRequest ++ [0])] = some joined ∧
      separate.history.started = [0] ∧ separate.activeClient = some firstSlot ∧
      joined.history.started = [] ∧ joined.activeClient = none ∧
      (joined.clients firstSlot).output = [] := by
  have hseparate : ((daemonSystem.runFrom handshakeContext
      [deviceSends handshakeReply, .listener [.accepted true],
        clientSends firstSlot pingRequest, clientSends firstSlot [0]]).map
      fun context => (context.history.started, context.activeClient)) =
      some ([0], some firstSlot) := by
    decide +kernel
  have hjoined : ((daemonSystem.runFrom handshakeContext
      [deviceSends handshakeReply, .listener [.accepted true],
        clientSends firstSlot (pingRequest ++ [0])]).map fun context =>
          (context.history.started, context.activeClient, (context.clients firstSlot).output)) =
      some ([], none, []) := by
    decide +kernel
  obtain ⟨separate, hrun, hvalues⟩ := Option.map_eq_some_iff.mp hseparate
  obtain ⟨joined, hrun', hvalues'⟩ := Option.map_eq_some_iff.mp hjoined
  simp only [Prod.mk.injEq] at hvalues hvalues'
  exact ⟨separate, joined, hrun, hrun', hvalues.1, hvalues.2, hvalues'.1, hvalues'.2.1,
    hvalues'.2.2⟩

end Daemon
