import DeviceManager.Stm32.Retransmission

/-!
# How the bootloader uses the flash

The handlers over any hooks, with a record of every call.  `recording` wraps the
hooks: the hooks decide what a call returns, and the wrapper writes down the call
and its result.  Nothing is assumed of the hooks, so the results hold for a flash
that fails at any time.

There are three groups.

* The record.  `writesSinceErase`, `lastCheck` and `startedBy` read from it the
  successful writes since the last successful erase, the last CRC that was
  computed with no write after it, and the request that started the session.
* The cases of one request.  `HandleCase` lists what `stm32_update_handle` can do
  with the update context and which calls it makes for it; `updateHandle_cases`
  is the only place where the handlers are unfolded.
* The invariant `Disciplined`, one step of it, and `flash_write_discipline`.
-/

namespace Stm32

open Devmgr

variable {σ : Type}

/-! ## The record -/

/-- A call of a hook that changes, checks or activates the flash, with what it
returned. -/
inductive FlashCall
  | erase (size : UInt32) (result : Int)
  | write (offset : UInt32) (data : List UInt8) (result : Int)
  | crc32 (size : UInt32) (result : UInt32)
  | activate (size crc : UInt32) (version : CString 32) (result : Int)
  deriving DecidableEq

/-- The hooks `ops` with a record of their calls. -/
def recording (ops : FlashOps σ) : FlashOps (σ × List FlashCall) where
  erase flash size :=
    let done := ops.erase flash.1 size
    (done.1, done.2, flash.2 ++ [.erase size done.1])
  write flash offset data :=
    let done := ops.write flash.1 offset data
    (done.1, done.2, flash.2 ++ [.write offset data done.1])
  read flash offset length :=
    let done := ops.read flash.1 offset length
    (done.1, done.2.1, done.2.2, flash.2)
  crc32 flash size :=
    let done := ops.crc32 flash.1 size
    (done.1, done.2, flash.2 ++ [.crc32 size done.1])
  activate flash size crc version :=
    let done := ops.activate flash.1 size crc version
    (done.1, done.2, flash.2 ++ [.activate size crc version done.1])
  reboot flash := (ops.reboot flash.1, flash.2)

/-- A request and the calls that its handling made. -/
structure Handling where
  request : FrameView
  calls : List FlashCall

/-- The bootloader, the context of its hooks, and all handlings so far. -/
structure Recorded (σ : Type) where
  update : UpdateContext
  flash : σ
  history : List Handling

def Recorded.calls (s : Recorded σ) : List FlashCall :=
  s.history.flatMap Handling.calls

/-- `stm32_update_handle` over recorded hooks, with the record of this request. -/
def Recorded.handle (ops : FlashOps σ) (s : Recorded σ) (request : FrameView) (capacity : Nat) :
    Handled (σ × List FlashCall) :=
  updateHandle (recording ops) s.update (s.flash, []) request capacity

def Recorded.next (s : Recorded σ) (request : FrameView)
    (handled : Handled (σ × List FlashCall)) : Recorded σ :=
  ⟨handled.update, handled.flash.1, s.history ++ [⟨request, handled.flash.2⟩]⟩

/-- Any requests from `stm32_update_init`, over any hooks. -/
def recordedSystem (ops : FlashOps σ) : System (Recorded σ) (FrameView × Nat) where
  init s := s.update = updateInit ∧ s.history = []
  step s e := some (s.next e.1 (s.handle ops e.1 e.2))

/-- The successful writes since the last successful erase. -/
def writesSinceErase (calls : List FlashCall) : List (UInt32 × List UInt8) :=
  calls.foldl
    (fun writes call =>
      match call with
      | .erase _ result => if result = 0 then [] else writes
      | .write offset data result => if result = 0 then writes ++ [(offset, data)] else writes
      | .crc32 _ _ => writes
      | .activate _ _ _ _ => writes)
    []

/-- Size and result of the last call of `crc32`, if no write and no successful
erase came after it. -/
def lastCheck (calls : List FlashCall) : Option (UInt32 × UInt32) :=
  calls.foldl
    (fun check call =>
      match call with
      | .erase _ result => if result = 0 then none else check
      | .write _ _ _ => none
      | .crc32 size result => some (size, result)
      | .activate _ _ _ _ => check)
    none

/-- The handling erased the flash for a new session. -/
def Handling.starts (handling : Handling) : Bool :=
  handling.calls.any fun
    | .erase _ result => result == 0
    | _ => false

/-- The request that started the session. -/
def startedBy (history : List Handling) : Option FrameView :=
  history.foldl (fun last handling => if handling.starts then some handling.request else last) none

/-- Writes that follow one another without a gap from `start` to `stop`, each of
at least one and at most `limit` bytes. -/
def Adjacent (limit : Nat) : Nat → List (UInt32 × List UInt8) → Nat → Prop
  | start, [], stop => start = stop
  | start, (offset, data) :: writes, stop =>
    offset.toNat = start ∧ 0 < data.length ∧ data.length ≤ limit ∧
      Adjacent limit (start + data.length) writes stop

theorem Adjacent.snoc {limit start stop : Nat} {writes : List (UInt32 × List UInt8)}
    (h : Adjacent limit start writes stop) {offset : UInt32} {data : List UInt8}
    (hoffset : offset.toNat = stop) (hpos : 0 < data.length) (hlimit : data.length ≤ limit) :
    Adjacent limit start (writes ++ [(offset, data)]) (stop + data.length) := by
  induction writes generalizing start with
  | nil =>
    obtain rfl : start = stop := h
    exact ⟨hoffset, hpos, hlimit, rfl⟩
  | cons write writes ih =>
    obtain ⟨hstart, hsome, hmost, hrest⟩ := h
    exact ⟨hstart, hsome, hmost, ih hrest⟩

/-! ## The cases of one request -/

/-- Whatever response there is, it has the type `type`. -/
def AnswersAs (handled : Handled (σ × List FlashCall)) (type : UInt8) : Prop :=
  ∀ frame, frameDecode handled.response = .ok frame → frame.type = type

/-- What the handling of a request can do: the new update context and the calls.
Where the context changes, the answer is not a NACK. -/
inductive HandleCase (update : UpdateContext) (request : FrameView) :
    Handled (σ × List FlashCall) → Prop
  | unchanged {handled : Handled (σ × List FlashCall)}
      (hupdate : handled.update = update) (hcalls : handled.flash.2 = []) :
      HandleCase update request handled
  | eraseFailed {handled : Handled (σ × List FlashCall)} {size : UInt32} {result : Int}
      (hupdate : handled.update = update) (hcalls : handled.flash.2 = [.erase size result])
      (hresult : result ≠ 0) : HandleCase update request handled
  | begun {handled : Handled (σ × List FlashCall)} {begin : BeginRequest}
      (htype : request.type = Msg.fwBegin) (hparse : parseBegin request.payload = some begin)
      (hupdate : handled.update = ⟨.receiving, sessionAfter update.sessionId, begin.size,
        begin.crc, 0, begin.chunk, begin.version⟩)
      (hcalls : handled.flash.2 = [.erase begin.size 0])
      (hanswer : AnswersAs handled request.type) : HandleCase update request handled
  | writeFailed {handled : Handled (σ × List FlashCall)} {offset : UInt32} {data : List UInt8}
      {result : Int} (hstate : update.state = .receiving) (hupdate : handled.update = update)
      (hcalls : handled.flash.2 = [.write offset data result]) (hresult : result ≠ 0) :
      HandleCase update request handled
  | written {handled : Handled (σ × List FlashCall)} (htype : request.type = Msg.fwData)
      (hexpected : DataExpected update request) (hrange : DataInRange update request)
      (hoffset : request.offset = update.nextOffset)
      (hupdate : handled.update =
        { update with nextOffset := update.nextOffset + request.data.length.toUInt32 })
      (hcalls : handled.flash.2 = [.write request.offset request.data 0])
      (hanswer : AnswersAs handled request.type) : HandleCase update request handled
  | ended {handled : Handled (σ × List FlashCall)} (htype : request.type = Msg.fwEnd)
      (hstate : update.state = .receiving) (hcomplete : update.nextOffset = update.imageSize)
      (hupdate : handled.update = { update with state := .transferred })
      (hcalls : handled.flash.2 = []) (hanswer : AnswersAs handled request.type) :
      HandleCase update request handled
  | checkFailed {handled : Handled (σ × List FlashCall)} {crc : UInt32}
      (hstate : update.state = .transferred) (hupdate : handled.update = update)
      (hcalls : handled.flash.2 = [.crc32 update.imageSize crc]) :
      HandleCase update request handled
  | checked {handled : Handled (σ × List FlashCall)} (htype : request.type = Msg.fwVerify)
      (hstate : update.state = .transferred)
      (hupdate : handled.update = { update with state := .verified })
      (hcalls : handled.flash.2 = [.crc32 update.imageSize update.imageCrc])
      (hanswer : AnswersAs handled request.type) : HandleCase update request handled
  | activated {handled : Handled (σ × List FlashCall)} {result : Int}
      (hstate : update.state = .verified) (hupdate : handled.update = update)
      (hcalls : handled.flash.2 =
        [.activate update.imageSize update.imageCrc update.pendingVersion result]) :
      HandleCase update request handled

section Cases

variable (ops : FlashOps σ) (update : UpdateContext) (flash : σ) (request : FrameView)
  (capacity : Nat)

theorem respond_answersAs (update : UpdateContext) (flash : σ × List FlashCall) (type : UInt8)
    (payload : List UInt8) :
    AnswersAs (respond update flash request capacity type payload) type := by
  intro frame hdecode
  unfold respond frameEncode at hdecode
  dsimp only at hdecode
  split_ifs at hdecode
  · cases hdecode
  · rw [frameDecode_frameBytes] at hdecode
    obtain rfl := Except.ok.inj hdecode
    rfl

theorem duplicateMatches_record (flash : σ × List FlashCall) (offset : UInt32)
    (data : List UInt8) : (duplicateMatches (recording ops) flash offset data).2.2 = flash.2 := by
  fun_induction duplicateMatches (recording ops) flash offset data with
  | case1 => rfl
  | case2 => rfl
  | case3 flash offset data _ count read _ ih => exact ih

theorem handleBegin_cases (htype : request.type = Msg.fwBegin) :
    HandleCase update request
      (handleBegin (recording ops) update (flash, []) request capacity) := by
  unfold handleBegin
  split
  · exact .unchanged rfl rfl
  · rename_i begin hparse
    dsimp only [recording]
    split
    · exact .unchanged rfl rfl
    · split
      · rename_i hresult
        exact .eraseFailed rfl rfl hresult
      · rename_i hresult
        refine .begun htype hparse rfl ?_ (respond_answersAs _ _ _ _ _ _)
        show [FlashCall.erase begin.size (ops.erase flash begin.size).1] = _
        rw [not_not.mp hresult]

theorem handleData_cases (htype : request.type = Msg.fwData) :
    HandleCase update request
      (handleData (recording ops) update (flash, []) request capacity) := by
  unfold handleData
  by_cases hexpected : DataExpected update request
  · rw [if_neg hexpected]
    dsimp only
    by_cases hrange : DataInRange update request
    · rw [if_neg hrange]
      split_ifs with hbehind hend hmatches hoffset hresult
      · exact .unchanged rfl rfl
      · exact .unchanged rfl (duplicateMatches_record ops _ _ _)
      · exact .unchanged rfl (duplicateMatches_record ops _ _ _)
      · exact .writeFailed (not_not.mp (not_or.mp hexpected).1) rfl rfl hresult
      · refine .written htype hexpected hrange hoffset rfl ?_ (respond_answersAs _ _ _ _ _ _)
        have hzero : (ops.write flash request.offset request.data).1 = 0 := not_not.mp hresult
        show [FlashCall.write request.offset request.data
          (ops.write flash request.offset request.data).1] = _
        rw [hzero]
      · exact .unchanged rfl rfl
    · rw [if_pos (not_not.mp hrange)]
      exact .unchanged rfl rfl
  · rw [if_pos (not_not.mp hexpected)]
    exact .unchanged rfl rfl

theorem handleVerify_cases (htype : request.type = Msg.fwVerify) :
    HandleCase update request
      (handleVerify (recording ops) update (flash, []) request capacity) := by
  unfold handleVerify
  split
  · exact .unchanged rfl rfl
  · rename_i hstate
    dsimp only [recording]
    split
    · exact .checkFailed (not_not.mp hstate) rfl rfl
    · rename_i hcrc
      refine .checked htype (not_not.mp hstate) rfl ?_ (respond_answersAs _ _ _ _ _ _)
      show [FlashCall.crc32 update.imageSize (ops.crc32 flash update.imageSize).1] = _
      rw [not_not.mp hcrc]

theorem handleActivate_cases :
    HandleCase update request
      (handleActivate (recording ops) update (flash, []) request capacity) := by
  unfold handleActivate
  split
  · exact .unchanged rfl rfl
  · rename_i hstate
    dsimp only [recording]
    split
    · exact .activated (not_not.mp hstate) rfl rfl
    · exact .activated (not_not.mp hstate) rfl rfl

/-- Every request is one of the cases. -/
theorem updateHandle_cases :
    HandleCase update request
      (updateHandle (recording ops) update (flash, []) request capacity) := by
  unfold updateHandle
  split_ifs with _ hbegin hdata _ hend hverify
  · exact .unchanged rfl rfl
  · exact handleBegin_cases ops update flash request capacity hbegin
  · exact handleData_cases ops update flash request capacity hdata
  · unfold handleStatus
    split
    · exact .unchanged rfl rfl
    · exact .unchanged rfl rfl
  · unfold handleEnd
    split
    · exact .unchanged rfl rfl
    · rename_i hready
      rw [not_or, not_not, not_not] at hready
      exact .ended hend hready.1 hready.2 rfl rfl (respond_answersAs _ _ _ _ _ _)
  · exact handleVerify_cases ops update flash request capacity hverify
  · exact handleActivate_cases ops update flash request capacity
  · unfold handleReboot
    dsimp only
    split
    · exact .unchanged rfl rfl
    · exact .unchanged rfl rfl
  · exact .unchanged rfl rfl

end Cases

/-! ## The invariant -/

/-- The record and the update context tell the same story. -/
structure Disciplined (s : Recorded σ) : Prop where
  writes : s.update.state ≠ .idle →
    Adjacent s.update.chunkSize.toNat 0 (writesSinceErase s.calls) s.update.nextOffset.toNat ∧
      s.update.nextOffset.toNat ≤ s.update.imageSize.toNat
  complete : s.update.state = .transferred ∨ s.update.state = .verified →
    s.update.nextOffset = s.update.imageSize
  checked : s.update.state = .verified →
    lastCheck s.calls = some (s.update.imageSize, s.update.imageCrc)
  started : s.update.state ≠ .idle → ∃ request begin,
    startedBy s.history = some request ∧ request.type = Msg.fwBegin ∧
      parseBegin request.payload = some begin ∧ begin.size = s.update.imageSize ∧
      begin.crc = s.update.imageCrc ∧ begin.chunk = s.update.chunkSize ∧
      begin.version = s.update.pendingVersion

section Step

variable {s : Recorded σ} {request : FrameView} {handled : Handled (σ × List FlashCall)}

theorem next_calls : (s.next request handled).calls = s.calls ++ handled.flash.2 := by
  simp [Recorded.next, Recorded.calls]

theorem startedBy_next : startedBy (s.next request handled).history =
    if (Handling.mk request handled.flash.2).starts then some request
    else startedBy s.history := by
  rw [Recorded.next, startedBy, List.foldl_append]
  rfl

theorem writesSinceErase_snoc (calls : List FlashCall) (call : FlashCall) :
    writesSinceErase (calls ++ [call]) =
      match call with
      | .erase _ result => if result = 0 then [] else writesSinceErase calls
      | .write offset data result =>
        if result = 0 then writesSinceErase calls ++ [(offset, data)] else writesSinceErase calls
      | .crc32 _ _ => writesSinceErase calls
      | .activate _ _ _ _ => writesSinceErase calls := by
  rw [writesSinceErase, List.foldl_append]
  rfl

theorem lastCheck_snoc (calls : List FlashCall) (call : FlashCall) :
    lastCheck (calls ++ [call]) =
      match call with
      | .erase _ result => if result = 0 then none else lastCheck calls
      | .write _ _ _ => none
      | .crc32 size result => some (size, result)
      | .activate _ _ _ _ => lastCheck calls := by
  rw [lastCheck, List.foldl_append]
  rfl

/-- A request that leaves the update context alone, and whose calls leave the
readings of the record alone, keeps the invariant. -/
theorem Disciplined.of_same (h : Disciplined s) (hupdate : handled.update = s.update)
    (hwrites : writesSinceErase (s.next request handled).calls = writesSinceErase s.calls)
    (hcheck : s.update.state = .verified →
      lastCheck (s.next request handled).calls = lastCheck s.calls)
    (hstarted : startedBy (s.next request handled).history = startedBy s.history) :
    Disciplined (s.next request handled) := by
  have hnext : (s.next request handled).update = s.update := hupdate
  refine ⟨?_, ?_, ?_, ?_⟩
  · rw [hnext, hwrites]
    exact h.writes
  · rw [hnext]
    exact h.complete
  · rw [hnext]
    intro hverified
    rw [hcheck hverified]
    exact h.checked hverified
  · rw [hnext, hstarted]
    exact h.started

/-- A chunk in range is no longer than announced and ends inside the image. -/
theorem data_limits {update : UpdateContext} (hrange : DataInRange update request) :
    request.data.length ≤ update.chunkSize.toNat ∧
      request.offset.toNat + request.data.length ≤ update.imageSize.toNat := by
  have hpayload := request.payload_lt
  have hdata : request.data.length = request.payload.length - 8 := List.length_drop
  have hlength : request.data.length.toUInt32.toNat = request.data.length := by
    simp only [Nat.toUInt32, UInt32.toNat_ofNat']
    omega
  simp only [DataInRange, not_or, gt_iff_lt, UInt32.not_lt] at hrange
  have hchunk := UInt32.le_iff_toNat_le.mp hrange.1
  have hoffset := UInt32.le_iff_toNat_le.mp hrange.2.1
  have hroom := UInt32.le_iff_toNat_le.mp hrange.2.2
  rw [UInt32.toNat_sub_of_le _ _ hrange.2.1, hlength] at hroom
  rw [hlength, UInt16.toNat_toUInt32] at hchunk
  omega

/-- A new session has an empty record of writes. -/
theorem Disciplined.begun {begin : BeginRequest} (htype : request.type = Msg.fwBegin)
    (hparse : parseBegin request.payload = some begin)
    (hupdate : handled.update = ⟨.receiving, sessionAfter s.update.sessionId, begin.size,
      begin.crc, 0, begin.chunk, begin.version⟩)
    (hcalls : handled.flash.2 = [.erase begin.size 0]) : Disciplined (s.next request handled) := by
  have hnext : (s.next request handled).update = ⟨.receiving, sessionAfter s.update.sessionId,
      begin.size, begin.crc, 0, begin.chunk, begin.version⟩ := hupdate
  refine ⟨fun _ => ?_, ?_, ?_, fun _ => ⟨request, begin, ?_, htype, hparse, ?_⟩⟩
  · rw [hnext, next_calls, hcalls, writesSinceErase_snoc]
    exact ⟨rfl, Nat.zero_le _⟩
  · rw [hnext]
    rintro (hstate | hstate) <;> cases hstate
  · rw [hnext]
    intro hstate
    cases hstate
  · rw [startedBy_next, hcalls]
    rfl
  · rw [hnext]
    exact ⟨rfl, rfl, rfl, rfl⟩

/-- A chunk at the next offset continues the writes. -/
theorem Disciplined.written (h : Disciplined s) (hexpected : DataExpected s.update request)
    (hrange : DataInRange s.update request) (hoffset : request.offset = s.update.nextOffset)
    (hupdate : handled.update =
      { s.update with nextOffset := s.update.nextOffset + request.data.length.toUInt32 })
    (hcalls : handled.flash.2 = [.write request.offset request.data 0]) :
    Disciplined (s.next request handled) := by
  have hnext : (s.next request handled).update =
      { s.update with nextOffset := s.update.nextOffset + request.data.length.toUInt32 } :=
    hupdate
  have hreceiving : s.update.state = .receiving := not_not.mp (not_or.mp hexpected).1
  have hidle : s.update.state ≠ .idle := by simp [hreceiving]
  obtain ⟨hadjacent, _⟩ := h.writes hidle
  obtain ⟨hpos, hsum, _⟩ := data_bounds hexpected hrange
  obtain ⟨hchunk, hend⟩ := data_limits hrange
  rw [hoffset] at hsum hend
  refine ⟨fun _ => ?_, ?_, ?_, fun _ => ?_⟩
  · rw [hnext, next_calls, hcalls, writesSinceErase_snoc]
    dsimp only
    rw [hsum]
    exact ⟨hadjacent.snoc (congrArg UInt32.toNat hoffset) hpos hchunk, hend⟩
  · rw [hnext]
    rintro (hstate | hstate) <;> rw [hreceiving] at hstate <;> cases hstate
  · rw [hnext]
    intro hstate
    rw [hreceiving] at hstate
    cases hstate
  · rw [startedBy_next, hcalls, hnext]
    exact h.started hidle

/-- A complete transfer moves on to `TRANSFERRED` or `VERIFIED`. -/
theorem Disciplined.advanced (h : Disciplined s) {state : UpdateState}
    (hidle : s.update.state ≠ .idle) (hcomplete : s.update.nextOffset = s.update.imageSize)
    (hupdate : handled.update = { s.update with state := state })
    (hwrites : writesSinceErase (s.next request handled).calls = writesSinceErase s.calls)
    (hcheck : state = .verified → lastCheck (s.next request handled).calls =
      some (s.update.imageSize, s.update.imageCrc))
    (hstarted : startedBy (s.next request handled).history = startedBy s.history) :
    Disciplined (s.next request handled) := by
  have hnext : (s.next request handled).update = { s.update with state := state } := hupdate
  refine ⟨fun _ => ?_, fun _ => ?_, ?_, fun _ => ?_⟩
  · rw [hnext, hwrites]
    exact h.writes hidle
  · rw [hnext]
    exact hcomplete
  · rw [hnext]
    exact hcheck
  · rw [hnext, hstarted]
    exact h.started hidle

/-- One request keeps the invariant. -/
theorem Disciplined.step (h : Disciplined s) (hcase : HandleCase s.update request handled) :
    Disciplined (s.next request handled) := by
  cases hcase with
  | unchanged hupdate hcalls =>
    have hsame : (s.next request handled).calls = s.calls := by
      rw [next_calls, hcalls, List.append_nil]
    refine h.of_same hupdate (by rw [hsame]) (fun _ => by rw [hsame]) ?_
    rw [startedBy_next, hcalls]
    rfl
  | eraseFailed hupdate hcalls hresult =>
    refine h.of_same hupdate ?_ (fun _ => ?_) ?_
    · rw [next_calls, hcalls, writesSinceErase_snoc]
      exact if_neg hresult
    · rw [next_calls, hcalls, lastCheck_snoc]
      exact if_neg hresult
    · rw [startedBy_next, hcalls, if_neg]
      simpa [Handling.starts] using hresult
  | begun htype hparse hupdate hcalls _ => exact .begun htype hparse hupdate hcalls
  | writeFailed hstate hupdate hcalls hresult =>
    refine h.of_same hupdate ?_ (fun hverified => ?_) ?_
    · rw [next_calls, hcalls, writesSinceErase_snoc]
      exact if_neg hresult
    · rw [hstate] at hverified
      cases hverified
    · rw [startedBy_next, hcalls]
      rfl
  | written _ hexpected hrange hoffset hupdate hcalls _ =>
    exact h.written hexpected hrange hoffset hupdate hcalls
  | ended _ hstate hcomplete hupdate hcalls _ =>
    have hsame : (s.next request handled).calls = s.calls := by
      rw [next_calls, hcalls, List.append_nil]
    refine h.advanced (by simp [hstate]) hcomplete hupdate (by rw [hsame]) ?_ ?_
    · intro hverified
      cases hverified
    · rw [startedBy_next, hcalls]
      rfl
  | checkFailed hstate hupdate hcalls =>
    refine h.of_same hupdate ?_ (fun hverified => ?_) ?_
    · rw [next_calls, hcalls, writesSinceErase_snoc]
    · rw [hstate] at hverified
      cases hverified
    · rw [startedBy_next, hcalls]
      rfl
  | checked _ hstate hupdate hcalls _ =>
    refine h.advanced (by simp [hstate]) (h.complete (.inl hstate)) hupdate ?_ (fun _ => ?_) ?_
    · rw [next_calls, hcalls, writesSinceErase_snoc]
    · rw [next_calls, hcalls, lastCheck_snoc]
    · rw [startedBy_next, hcalls]
      rfl
  | activated hstate hupdate hcalls =>
    refine h.of_same hupdate ?_ (fun _ => ?_) ?_
    · rw [next_calls, hcalls, writesSinceErase_snoc]
    · rw [next_calls, hcalls, lastCheck_snoc]
    · rw [startedBy_next, hcalls]
      rfl

/-- Where the update context changes, the answer is no NACK. -/
theorem HandleCase.update_of_nack {update : UpdateContext}
    (hcase : HandleCase update request handled) {frame : Frame}
    (hdecode : frameDecode handled.response = .ok frame) (hnack : frame.type = Msg.nack) :
    handled.update = update := by
  have hrefused : ∀ type, request.type = type → type ≠ Msg.nack →
      ¬ AnswersAs handled request.type := by
    intro type htype hne hanswer
    rw [← htype, ← hanswer frame hdecode] at hne
    exact hne hnack
  cases hcase with
  | unchanged hupdate _ => exact hupdate
  | eraseFailed hupdate _ _ => exact hupdate
  | begun htype _ _ _ hanswer => exact absurd hanswer (hrefused _ htype (by decide))
  | writeFailed _ hupdate _ _ => exact hupdate
  | written htype _ _ _ _ _ hanswer => exact absurd hanswer (hrefused _ htype (by decide))
  | ended htype _ _ _ _ hanswer => exact absurd hanswer (hrefused _ htype (by decide))
  | checkFailed _ hupdate _ => exact hupdate
  | checked htype _ _ _ hanswer => exact absurd hanswer (hrefused _ htype (by decide))
  | activated _ hupdate _ => exact hupdate

/-- `activate` is called in `VERIFIED` only, with the fields of the context. -/
theorem HandleCase.of_activate {update : UpdateContext} (hcase : HandleCase update request handled)
    {size crc : UInt32} {version : CString 32} {result : Int}
    (hcall : .activate size crc version result ∈ handled.flash.2) :
    update.state = .verified ∧ size = update.imageSize ∧ crc = update.imageCrc ∧
      version = update.pendingVersion := by
  cases hcase with
  | activated hstate _ hcalls =>
    rw [hcalls, List.mem_singleton] at hcall
    cases hcall
    exact ⟨hstate, rfl, rfl, rfl⟩
  | _ => simp_all

end Step

theorem disciplined_reachable {ops : FlashOps σ} {s : Recorded σ}
    (h : (recordedSystem ops).Reachable s) : Disciplined s := by
  refine System.Reachable.invariant ?_ ?_ h
  · rintro s ⟨hupdate, hhistory⟩
    have hidle : s.update.state = .idle := by
      rw [hupdate]
      rfl
    refine ⟨fun hstate => absurd hidle hstate, ?_, ?_, fun hstate => absurd hidle hstate⟩
    · rw [hidle]
      rintro (hstate | hstate) <;> cases hstate
    · rw [hidle]
      intro hstate
      cases hstate
  · rintro s ⟨request, capacity⟩ s' hs hstep
    obtain rfl := Option.some.inj hstep
    exact hs.step (updateHandle_cases ops s.update s.flash request capacity)

/-- For any requests and any results of the hooks: the writes of a session follow
one another from the start of the image to the next offset, in chunks of at most
the announced size; a transfer that has ended is complete; `activate` is called
only for the image of the session, after all of it was written and checked with
no write since; and a NACK changes nothing. -/
theorem flash_write_discipline (ops : FlashOps σ) {s : Recorded σ}
    (h : (recordedSystem ops).Reachable s) :
    (s.update.state ≠ .idle →
      Adjacent s.update.chunkSize.toNat 0 (writesSinceErase s.calls) s.update.nextOffset.toNat ∧
        s.update.nextOffset.toNat ≤ s.update.imageSize.toNat) ∧
    (s.update.state = .transferred ∨ s.update.state = .verified →
      s.update.nextOffset = s.update.imageSize) ∧
    ∀ (request : FrameView) (capacity : Nat),
      let handled := s.handle ops request capacity
      (∀ size crc version result, .activate size crc version result ∈ handled.flash.2 →
        s.update.state = .verified ∧
          Adjacent s.update.chunkSize.toNat 0 (writesSinceErase s.calls) size.toNat ∧
          lastCheck s.calls = some (size, crc) ∧
          ∃ first begin, startedBy s.history = some first ∧ first.type = Msg.fwBegin ∧
            parseBegin first.payload = some begin ∧ begin.size = size ∧ begin.crc = crc ∧
            begin.version = version) ∧
      ∀ frame, frameDecode handled.response = .ok frame → frame.type = Msg.nack →
        handled.update = s.update := by
  have hs := disciplined_reachable h
  refine ⟨hs.writes, hs.complete, fun request capacity => ?_⟩
  have hcase := updateHandle_cases ops s.update s.flash request capacity
  refine ⟨?_, fun frame hdecode hnack => hcase.update_of_nack hdecode hnack⟩
  intro size crc version result hcall
  obtain ⟨hverified, rfl, rfl, rfl⟩ := hcase.of_activate hcall
  have hidle : s.update.state ≠ .idle := by simp [hverified]
  obtain ⟨first, begin, hfirst, htype, hparse, hsize, hcrc, _, hversion⟩ := hs.started hidle
  refine ⟨hverified, ?_, hs.checked hverified, first, begin, hfirst, htype, hparse, hsize, hcrc,
    hversion⟩
  rw [← hs.complete (.inr hverified)]
  exact (hs.writes hidle).1

/-- The one-byte image up to its verification: the next request activates it. -/
theorem flash_write_discipline_one_byte :
    ∃ s, (recordedSystem (memoryFlash .none)).runFrom ⟨updateInit, ⟨fun _ => 0, []⟩, []⟩
        (oneByteUpdate.map fun e => (e.request, e.capacity)) = some s ∧
      s.update.state = .verified ∧ writesSinceErase s.calls = [(0, [0xAB])] ∧
      .activate 1 (crc32 [0xAB]) ⟨[0x31], by decide, by simp⟩ 0 ∈
        (s.handle (memoryFlash .none) activateEvent.request activateEvent.capacity).flash.2 ∧
      lastCheck s.calls = some (1, crc32 [0xAB]) := by
  refine ⟨_, rfl, by decide +kernel, by decide +kernel, by decide +kernel, ?_⟩
  have hreach : (recordedSystem (memoryFlash .none)).Reachable _ :=
    System.Reachable.runFrom ⟨rfl, rfl⟩
      (show (recordedSystem (memoryFlash .none)).runFrom ⟨updateInit, ⟨fun _ => 0, []⟩, []⟩
        (oneByteUpdate.map fun e => (e.request, e.capacity)) = some _ from rfl)
  have hnext := (flash_write_discipline (memoryFlash .none) hreach).2.2 activateEvent.request
    activateEvent.capacity
  exact (hnext.1 1 (crc32 [0xAB]) ⟨[0x31], by decide, by simp⟩ 0 (by decide +kernel)).2.2.1

end Stm32
