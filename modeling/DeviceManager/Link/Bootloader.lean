import DeviceManager.Link.Host
import DeviceManager.Stm32.Protocol
import DeviceManager.Stm32.Discipline

/-!
# The bootloader at the other end of an upgrade

The upgrade machine of the host and `stm32_update_handle`, one request after the other,
with nothing lost between them.  The hooks are any that behave as a memory on the range
of the image, and their calls are recorded.

* `turn`: a request is built, handled, and its response decoded and accepted.
* `Smooth` and `Serving`: what the two ends agree on between two turns.  There is one
  lemma for the turn of each state.
* `transfer_completes`: the chunks, by induction on what is left of the image.
* `lossless_upgrade_completes`: the whole upgrade.
-/

namespace Link

open Devmgr
open Stm32 (FlashOps FlashCall UpdateContext UpdateState readMemory writeMemory flashCrc recording
  viewOf)

variable {σ : Type}

/-! ## Turns -/

/-- The host, the bootloader with the record of its hooks, and the responses so far. -/
structure Peers (σ : Type) where
  upgrade : Upgrade
  update : UpdateContext
  flash : σ × List FlashCall
  responses : List Frame

/-- One request of the host.  There is no next state where it cannot be built, or where
its response cannot be decoded or is refused. -/
def turn (ops : FlashOps σ) (capacity : Nat) (s : Peers σ) : Option (Peers σ) :=
  match upgradeBuildRequest s.upgrade with
  | .error _ => none
  | .ok (request, upgrade) =>
    let handled := Stm32.updateHandle (recording ops) s.update s.flash (viewOf request) capacity
    match frameDecode handled.response with
    | .error _ => none
    | .ok response =>
      let accepted := upgradeAcceptResponse upgrade request.type response
      if accepted.1 = .ok then
        some ⟨accepted.2, handled.update, handled.flash, s.responses ++ [response]⟩
      else none

def turns (ops : FlashOps σ) (capacity : Nat) : Nat → Peers σ → Option (Peers σ)
  | 0, s => some s
  | count + 1, s => (turn ops capacity s).bind (turns ops capacity count)

/-- The calls of `activate`. -/
def activations (calls : List FlashCall) : List FlashCall :=
  calls.filter fun
    | .activate _ _ _ _ => true
    | _ => false

/-- The hooks behave as a memory on the first `size` bytes, and the `crc32` hook computes
the CRC of the protocol.  `contents` is what the memory holds; what an erase leaves in it
does not matter. -/
structure BehavesAsMemory (ops : FlashOps σ) (contents : σ → Nat → UInt8) (size : Nat) :
    Prop where
  erase : ∀ flash (count : UInt32), count.toNat ≤ size → (ops.erase flash count).1 = 0
  write : ∀ flash (offset : UInt32) (data : List UInt8), offset.toNat + data.length ≤ size →
    (ops.write flash offset data).1 = 0 ∧
      contents (ops.write flash offset data).2 = writeMemory (contents flash) offset.toNat data
  crc32 : ∀ flash (count : UInt32), count.toNat ≤ size →
    (ops.crc32 flash count).1 = flashCrc (contents flash) count ∧
      contents (ops.crc32 flash count).2 = contents flash
  activate : ∀ flash (count crc : UInt32) (version : CString 32), count.toNat ≤ size →
    (ops.activate flash count crc version).1 = 0 ∧
      contents (ops.activate flash count crc version).2 = contents flash
  reboot : ∀ flash, contents (ops.reboot flash) = contents flash

/-- The turns so far were smooth: the host is in `state` with the image it was started
with, it has seen no NACK, and these are the calls of `activate`. -/
structure Smooth (started : Upgrade) (s : Peers σ) (state : UpgradeState)
    (activated : List FlashCall) : Prop where
  state : s.upgrade.state = state
  same : started.SameImage s.upgrade
  accepted : ∀ response ∈ s.responses, response.type ≠ Msg.nack
  calls : activations s.flash.2 = activated

/-- The bootloader has the session of the host, and the image up to its offset. -/
structure Serving (contents : σ → Nat → UInt8) (s : Peers σ) (state : UpdateState) : Prop where
  state : s.update.state = state
  sessionId : s.update.sessionId = s.upgrade.sessionId
  imageSize : s.update.imageSize = s.upgrade.imageSize.toUInt32
  imageCrc : s.update.imageCrc = s.upgrade.imageCrc
  chunkSize : s.update.chunkSize = s.upgrade.chunkSize
  version : s.update.pendingVersion.bytes = s.upgrade.version.bytes
  nextOffset : s.update.nextOffset = s.upgrade.offset
  written : readMemory (contents s.flash.1) 0 s.upgrade.offset.toNat =
    s.upgrade.imageData.take s.upgrade.offset.toNat

/-- The whole image was sent, in as few chunks as possible. -/
def Sent (started upgrade : Upgrade) : Prop :=
  upgrade.offset.toNat = started.imageSize ∧
    upgrade.chunksSent.toNat =
      (started.imageSize + started.chunkSize.toNat - 1) / started.chunkSize.toNat

section Turn

variable {ops : FlashOps σ} {capacity : Nat} {started : Upgrade} {s : Peers σ}
  {state : UpgradeState} {activated : List FlashCall} {contents : σ → Nat → UInt8}

theorem turns_add (first second : Nat) (s : Peers σ) :
    turns ops capacity (first + second) s =
      (turns ops capacity first s).bind (turns ops capacity second) := by
  induction first generalizing s with
  | zero => rw [Nat.zero_add, turns, Option.bind_some]
  | succ first ih =>
    rw [Nat.succ_add, turns, turns, Option.bind_assoc]
    exact congrArg _ (funext ih)

/-- The types of the requests are no NACK. -/
theorem requestType_ne_nack {type : UInt8} (h : state.requestType = some type) :
    type ≠ Msg.nack ∧ type ≠ Msg.error := by
  cases state <;> cases h <;> decide

/-- A turn whose request is answered with its own type, where the host accepts the
answer. -/
theorem Smooth.answered (ops : FlashOps σ) (h : Smooth started s state activated)
    (hcapacity : 24 ≤ capacity)
    {request : Frame} {built upgrade : Upgrade} {update : UpdateContext}
    {flash : σ × List FlashCall} {payload : List UInt8}
    (hbuild : upgradeBuildRequest s.upgrade = .ok (request, built))
    (hhandle : Stm32.updateHandle (recording ops) s.update s.flash (viewOf request) capacity =
      Stm32.respond update flash (viewOf request) capacity request.type payload)
    (hpayload : payload.length ≤ 8)
    (haccept : ∀ response : Frame, ¬ (response.type = Msg.nack ∨ response.type = Msg.error) →
      response.payload = payload →
      upgradeAcceptResponse built request.type response = (.ok, upgrade))
    (hsame : built.SameImage upgrade) {activated' : List FlashCall}
    (hcalls : activations flash.2 = activated') :
    ∃ s', turn ops capacity s = some s' ∧ s'.upgrade = upgrade ∧ s'.update = update ∧
      s'.flash = flash ∧ Smooth started s' upgrade.state activated' := by
  obtain ⟨htype, hsame', _⟩ := upgradeBuildRequest_eq_ok hbuild
  obtain ⟨hnack, herror⟩ := requestType_ne_nack htype
  have hle : payload.length ≤ maxPayload := by
    simp only [maxPayload]
    omega
  let response : Frame := ⟨request.type, Flag.response, request.sequence, payload, hle⟩
  have hresponse : frameDecode (Stm32.respond update flash (viewOf request) capacity request.type
      payload).response = .ok response := by
    have hencode := Stm32.frameEncode_of_le response
      (show headerSize + payload.length + crcSize ≤ capacity by
        simp only [headerSize, crcSize]
        omega)
    show frameDecode (Stm32.frameEncode response.type response.flags response.sequence
      response.payload capacity).2 = _
    rw [hencode]
    exact frameDecode_frameBytes response
  have haccepted := haccept response (not_or.mpr ⟨hnack, herror⟩) rfl
  refine ⟨⟨upgrade, update, flash, s.responses ++ [response]⟩, ?_, rfl, rfl, rfl,
    rfl, (h.same.trans hsame').trans hsame, ?_, hcalls⟩
  · simp only [turn, hbuild, hhandle, hresponse, haccepted, if_true]
    rfl
  · intro frame hmem
    rcases List.mem_append.mp hmem with hmem | hmem
    · exact h.accepted frame hmem
    · rw [List.mem_singleton.mp hmem]
      exact hnack

/-! ## Before the transfer -/

theorem turn_enterBootloader (ops : FlashOps σ) (hcapacity : 24 ≤ capacity)
    (h : Smooth started s .enterBootloader []) :
    ∃ s', turn ops capacity s = some s' ∧ Smooth started s' .begin [] ∧
      s'.update = s.update ∧ s'.upgrade.chunksSent = s.upgrade.chunksSent := by
  have hbuild : upgradeBuildRequest s.upgrade =
      .ok (upgradeRequest Msg.enterBootloader [] (Nat.zero_le _), s.upgrade) := by
    simp only [upgradeBuildRequest, h.state]
  have haccept : ∀ response : Frame, ¬ (response.type = Msg.nack ∨ response.type = Msg.error) →
      response.payload = [] → upgradeAcceptResponse s.upgrade Msg.enterBootloader response =
        (.ok, { s.upgrade with state := .begin }) := by
    intro response hanswer _
    exact (upgradeAcceptResponse_moves hanswer).1 h.state
  obtain ⟨⟨_, _, _, responses⟩, hturn, rfl, rfl, rfl, hsmooth⟩ :=
    h.answered ops hcapacity hbuild rfl (Nat.zero_le _) haccept ⟨rfl, rfl, rfl, rfl⟩ h.calls
  exact ⟨_, hturn, hsmooth, rfl, rfl⟩

/-- The bootloader reads the fields of an `FW_BEGIN` as the host wrote them. -/
theorem stm32_parseBegin_beginPayload {upgrade : Upgrade} (h : Servable upgrade) :
    ∃ begin, Stm32.parseBegin upgrade.beginPayload = some begin ∧
      begin.size = upgrade.imageSize.toUInt32 ∧ begin.crc = upgrade.imageCrc ∧
      begin.chunk = upgrade.chunkSize ∧ begin.version.bytes = upgrade.version.bytes := by
  obtain ⟨hsize, hcrc, hchunk, hdrop⟩ := upgrade.beginPayload_fields
  have hlength : (memchrNul (upgrade.beginPayload.drop 10)).getD 0 =
      upgrade.version.bytes.length := by
    rw [hdrop, memchrNul_cstring, Option.getD_some]
  have hversion : (upgrade.beginPayload.drop 10).take
      ((memchrNul (upgrade.beginPayload.drop 10)).getD 0) = upgrade.version.bytes := by
    rw [hlength, hdrop, List.take_left]
  have hzero : upgrade.imageSize.toUInt32 ≠ 0 := by
    intro hzero
    have htoNat := h.size_toNat
    rw [hzero] at htoNat
    exact absurd htoNat.symm h.size_pos.ne'
  have hlt : upgrade.version.bytes.length < 32 := upgrade.version.length_lt
  have hlegal : ¬ (getLe32 upgrade.beginPayload = 0 ∨
      getLe16 (upgrade.beginPayload.drop 8) = 0 ∨
      (memchrNul (upgrade.beginPayload.drop 10)).getD 0 = 0 ∨
      (memchrNul (upgrade.beginPayload.drop 10)).getD 0 ≥ 32) := by
    rw [hsize, hchunk, hlength]
    simp only [not_or]
    exact ⟨hzero, h.chunkSize_ne, h.version_pos.ne', by omega⟩
  unfold Stm32.parseBegin
  dsimp only
  rw [if_neg h.beginPayload_length, dif_neg hlegal]
  exact ⟨_, rfl, hsize, hcrc, hchunk, hversion⟩

theorem sessionAfter_ne (sessionId : UInt32) : Stm32.sessionAfter sessionId ≠ 0 := by
  unfold Stm32.sessionAfter
  split
  · decide
  · assumption

/-- Other calls do not count. -/
theorem activations_snoc (calls : List FlashCall) {call : FlashCall}
    (h : activations [call] = []) : activations (calls ++ [call]) = activations calls := by
  rw [activations, List.filter_append, ← activations, ← activations, h, List.append_nil]

theorem handleBegin_opens {τ : Type} (capacity : Nat) (ops : FlashOps τ)
    {update : UpdateContext} (flash : τ) (request : Stm32.FrameView) {begin : Stm32.BeginRequest}
    (hparse : Stm32.parseBegin request.payload = some begin)
    (hnew : ¬ (update.state = .receiving ∧ begin.size = update.imageSize ∧
      begin.crc = update.imageCrc ∧ begin.version = update.pendingVersion))
    (herase : (ops.erase flash begin.size).1 = 0) :
    Stm32.handleBegin ops update flash request capacity =
      Stm32.respond ⟨.receiving, Stm32.sessionAfter update.sessionId, begin.size, begin.crc, 0,
        begin.chunk, begin.version⟩ (ops.erase flash begin.size).2 request capacity request.type
        (putLe32 (Stm32.sessionAfter update.sessionId) ++ putLe32 0) := by
  unfold Stm32.handleBegin
  rw [hparse]
  dsimp only
  rw [if_neg hnew, if_neg (not_not.mpr herase)]

/-- `FW_BEGIN` opens a session at offset zero, unless the bootloader is receiving this
image already. -/
theorem turn_begin (hservable : Servable started)
    (hmemory : BehavesAsMemory ops contents started.imageSize) (hcapacity : 24 ≤ capacity)
    (h : Smooth started s .begin [])
    (hfresh : ¬ (s.update.state = .receiving ∧
      started.imageSize.toUInt32 = s.update.imageSize ∧ started.imageCrc = s.update.imageCrc ∧
      started.version.bytes = s.update.pendingVersion.bytes)) :
    ∃ s', turn ops capacity s = some s' ∧ Smooth started s' .transfer [] ∧
      Serving contents s' .receiving ∧ s'.upgrade.offset = 0 ∧
      s'.upgrade.chunksSent = s.upgrade.chunksSent := by
  have hservable' := hservable.congr h.same
  obtain ⟨begin, hparse, hsize, hcrc, hchunk, hversion⟩ :=
    stm32_parseBegin_beginPayload hservable'
  have hbuild : upgradeBuildRequest s.upgrade =
      .ok (upgradeRequest Msg.fwBegin s.upgrade.beginPayload s.upgrade.beginPayload_le,
        s.upgrade) := by
    simp only [upgradeBuildRequest, h.state]
  have hnew : ¬ (s.update.state = .receiving ∧ begin.size = s.update.imageSize ∧
      begin.crc = s.update.imageCrc ∧ begin.version = s.update.pendingVersion) := by
    rintro ⟨hreceiving, hsame⟩
    rw [hsize, hcrc, sameImage_size h.same, h.same.imageCrc] at hsame
    refine hfresh ⟨hreceiving, hsame.1, hsame.2.1, ?_⟩
    rw [← hsame.2.2, hversion, h.same.version]
  have herase : (ops.erase s.flash.1 begin.size).1 = 0 := by
    refine hmemory.erase _ _ ?_
    rw [hsize, hservable'.size_toNat, sameImage_size h.same]
  have hhandle : Stm32.updateHandle (recording ops) s.update s.flash
      (viewOf (upgradeRequest Msg.fwBegin s.upgrade.beginPayload s.upgrade.beginPayload_le))
      capacity = _ :=
    ((Stm32.updateHandle_dispatch _ _ _ _ _).1 rfl).trans
      (handleBegin_opens capacity (recording ops) s.flash _ hparse hnew herase)
  have haccept : ∀ response : Frame, ¬ (response.type = Msg.nack ∨ response.type = Msg.error) →
      response.payload = putLe32 (Stm32.sessionAfter s.update.sessionId) ++ putLe32 0 →
      upgradeAcceptResponse s.upgrade Msg.fwBegin response =
        (.ok, { s.upgrade with
          sessionId := Stm32.sessionAfter s.update.sessionId
          offset := 0
          state := .transfer }) := by
    intro response hanswer hpayload
    rw [upgradeAcceptResponse_begin hanswer h.state hpayload (sessionAfter_ne _) (Nat.zero_le _),
      Upgrade.resume]
    have hpos : ¬ (0 : UInt32).toNat = s.upgrade.imageSize := hservable'.size_pos.ne
    exact congrArg (fun state => (Status.ok, { s.upgrade with
      sessionId := Stm32.sessionAfter s.update.sessionId
      offset := 0
      state := state })) (if_neg hpos)
  obtain ⟨⟨_, _, _, responses⟩, hturn, rfl, rfl, rfl, hsmooth⟩ :=
    h.answered ops hcapacity hbuild hhandle (by simp) haccept ⟨rfl, rfl, rfl, rfl⟩
      ((activations_snoc _ rfl).trans h.calls)
  exact ⟨_, hturn, hsmooth, ⟨rfl, rfl, hsize, hcrc, hchunk, hversion, rfl, rfl⟩, rfl, rfl⟩

/-! ## The transfer -/

/-- The next chunk, as the bootloader sees it. -/
theorem data_fields {upgrade : Upgrade} (hservable : Servable upgrade)
    (hoffset : upgrade.offset.toNat < upgrade.imageSize) (request : Stm32.FrameView)
    (hpayload : request.payload = upgrade.dataPayload) :
    getLe32 request.payload = upgrade.sessionId ∧ request.offset = upgrade.offset ∧
      request.data = (upgrade.imageData.drop upgrade.offset.toNat).take upgrade.chunk ∧
      request.data.length = upgrade.chunk ∧ ¬ request.payload.length ≤ 8 := by
  obtain ⟨hsession, hfirst, hdata⟩ := upgrade.dataPayload_fields
  rw [← hpayload] at hsession hfirst hdata
  have hbounds := Upgrade.chunk_bounds hoffset hservable.chunkSize_ne
  have hlength : request.data.length = upgrade.chunk := by
    show (request.payload.drop 8).length = upgrade.chunk
    rw [hdata, List.length_take, List.length_drop]
    show min _ (upgrade.imageSize - _) = _
    omega
  refine ⟨hsession, hfirst, hdata, hlength, ?_⟩
  rw [Stm32.FrameView.data, List.length_drop] at hlength
  omega

/-- The bootloader takes the next chunk. -/
theorem Serving.data_expected (hservable : Servable s.upgrade)
    (hserving : Serving contents s .receiving)
    (hoffset : s.upgrade.offset.toNat < s.upgrade.imageSize) (request : Stm32.FrameView)
    (hpayload : request.payload = s.upgrade.dataPayload) :
    Stm32.DataExpected s.update request ∧ Stm32.DataInRange s.update request := by
  obtain ⟨hsession, hfirst, _, hlength, hlong⟩ := data_fields hservable hoffset request hpayload
  have hbounds := Upgrade.chunk_bounds hoffset hservable.chunkSize_ne
  have hchunk := s.upgrade.chunk_le
  have hcount := s.upgrade.chunkSize.toNat_lt
  have hsize := hservable.size_toNat
  have htoNat : s.upgrade.chunk.toUInt32.toNat = s.upgrade.chunk := by
    simp only [Nat.toUInt32, UInt32.toNat_ofNat']
    omega
  have hle : s.upgrade.offset ≤ s.upgrade.imageSize.toUInt32 := by
    rw [UInt32.le_iff_toNat_le, hsize]
    omega
  refine ⟨?_, ?_⟩
  · simp only [Stm32.DataExpected, not_or, not_not]
    exact ⟨hserving.state, hlong, hsession.trans hserving.sessionId.symm⟩
  · rw [Stm32.DataInRange, hlength, hfirst, hserving.imageSize, hserving.chunkSize]
    simp only [not_or, gt_iff_lt, UInt32.not_lt, UInt32.le_iff_toNat_le,
      UInt32.toNat_sub_of_le _ _ hle, htoNat, hsize, UInt16.toNat_toUInt32]
    omega

/-- A chunk written behind what is there extends it. -/
theorem readMemory_extend (memory : Nat → UInt8) {image data : List UInt8} {offset count : Nat}
    (hread : readMemory memory 0 offset = image.take offset)
    (hdata : data = (image.drop offset).take count) (hlength : data.length = count) :
    readMemory (writeMemory memory offset data) 0 (offset + count) =
      image.take (offset + count) := by
  have hwritten := Stm32.readMemory_writeMemory memory offset data
    (show 0 + count ≤ data.length by omega)
  rw [List.drop_zero, List.take_of_length_le (Nat.le_of_eq hlength)] at hwritten
  rw [Stm32.readMemory_append, Stm32.readMemory_writeMemory_before, hread, Nat.zero_add,
    List.take_add]
  rw [Nat.add_zero] at hwritten
  rw [hwritten, hdata]

/-- One chunk. -/
theorem turn_transfer (hservable : Servable started)
    (hmemory : BehavesAsMemory ops contents started.imageSize) (hcapacity : 24 ≤ capacity)
    (h : Smooth started s .transfer []) (hserving : Serving contents s .receiving)
    (hoffset : s.upgrade.offset.toNat < started.imageSize) :
    ∃ s', turn ops capacity s = some s' ∧ Serving contents s' .receiving ∧
      s'.upgrade.offset.toNat =
        min (s.upgrade.offset.toNat + started.chunkSize.toNat) started.imageSize ∧
      s'.upgrade.chunksSent = s.upgrade.chunksSent + 1 ∧
      Smooth started s'
        (if s'.upgrade.offset.toNat = started.imageSize then .end else .transfer) [] := by
  have hservable' := hservable.congr h.same
  rw [← sameImage_size h.same] at hoffset hmemory ⊢
  rw [← h.same.chunkSize]
  have hbuild : upgradeBuildRequest s.upgrade =
      .ok (upgradeRequest Msg.fwData s.upgrade.dataPayload s.upgrade.dataPayload_le,
        { s.upgrade with
          lastChunkEnd := s.upgrade.offset + s.upgrade.chunk.toUInt32
          chunksSent := s.upgrade.chunksSent + 1 }) := by
    simp only [upgradeBuildRequest, h.state, if_neg (Nat.not_le.mpr hoffset)]
  obtain ⟨hexpected, hrange⟩ := hserving.data_expected hservable' hoffset
    (viewOf (upgradeRequest Msg.fwData s.upgrade.dataPayload s.upgrade.dataPayload_le)) rfl
  obtain ⟨_, hfirst, hdata, hlength, _⟩ := data_fields hservable' hoffset
    (viewOf (upgradeRequest Msg.fwData s.upgrade.dataPayload s.upgrade.dataPayload_le)) rfl
  have hbounds := Upgrade.chunk_bounds hoffset hservable'.chunkSize_ne
  have hend : (s.upgrade.offset + s.upgrade.chunk.toUInt32).toNat =
      s.upgrade.offset.toNat + s.upgrade.chunk := by
    have hsum := (Stm32.data_bounds hexpected hrange).2.1
    rwa [hlength, hfirst] at hsum
  obtain ⟨hresult, hcontents⟩ := hmemory.write s.flash.1 s.upgrade.offset
    ((s.upgrade.imageData.drop s.upgrade.offset.toNat).take s.upgrade.chunk) (by
      rw [← hdata, hlength]
      omega)
  have hhandle : Stm32.updateHandle (recording ops) s.update s.flash
      (viewOf (upgradeRequest Msg.fwData s.upgrade.dataPayload s.upgrade.dataPayload_le))
      capacity = _ :=
    ((Stm32.updateHandle_dispatch _ _ _ _ _).2.1 rfl).trans
      (Stm32.handleData_write capacity (recording ops) s.flash hexpected hrange
        (hfirst.trans hserving.nextOffset.symm) (by
          rw [hfirst, hdata]
          exact hresult))
  rw [hlength, hfirst, hdata, hserving.nextOffset] at hhandle
  have haccept : ∀ response : Frame, ¬ (response.type = Msg.nack ∨ response.type = Msg.error) →
      response.payload = putLe32 (s.upgrade.offset + s.upgrade.chunk.toUInt32) →
      upgradeAcceptResponse
          { s.upgrade with
            lastChunkEnd := s.upgrade.offset + s.upgrade.chunk.toUInt32
            chunksSent := s.upgrade.chunksSent + 1 } Msg.fwData response =
        (.ok, Upgrade.resume { s.upgrade with
          lastChunkEnd := s.upgrade.offset + s.upgrade.chunk.toUInt32
          chunksSent := s.upgrade.chunksSent + 1
          offset := s.upgrade.offset + s.upgrade.chunk.toUInt32 }) := by
    intro response hanswer hpayload
    refine upgradeAcceptResponse_data hanswer ?_ hpayload rfl ?_
    · exact h.state
    · show (s.upgrade.offset + s.upgrade.chunk.toUInt32).toNat ≤ s.upgrade.imageSize
      rw [hend]
      omega
  obtain ⟨⟨_, _, _, responses⟩, hturn, rfl, rfl, rfl, hsmooth⟩ :=
    h.answered ops hcapacity hbuild hhandle (by simp) haccept ⟨rfl, rfl, rfl, rfl⟩
      ((activations_snoc _ rfl).trans h.calls)
  refine ⟨_, hturn, ⟨hserving.state, hserving.sessionId, hserving.imageSize, hserving.imageCrc,
    hserving.chunkSize, hserving.version, rfl, ?_⟩, hend.trans hbounds.2, rfl, hsmooth⟩
  show readMemory (contents (ops.write s.flash.1 s.upgrade.offset _).2) 0
    (s.upgrade.offset + s.upgrade.chunk.toUInt32).toNat =
      s.upgrade.imageData.take (s.upgrade.offset + s.upgrade.chunk.toUInt32).toNat
  rw [hcontents, hend]
  exact readMemory_extend _ hserving.written rfl (hdata ▸ hlength)

/-- All chunks, by induction on what is left of the image.  Before the last chunk, every
chunk has the full size. -/
theorem transfer_completes (hservable : Servable started)
    (hmemory : BehavesAsMemory ops contents started.imageSize) (hcapacity : 24 ≤ capacity)
    (h : Smooth started s .transfer []) (hserving : Serving contents s .receiving)
    (hoffset : s.upgrade.offset.toNat < started.imageSize)
    (hcount : s.upgrade.offset.toNat =
      s.upgrade.chunksSent.toNat * started.chunkSize.toNat) :
    ∃ count s', turns ops capacity count s = some s' ∧ Smooth started s' .end [] ∧
      Serving contents s' .receiving ∧ Sent started s'.upgrade := by
  induction hleft : started.imageSize - s.upgrade.offset.toNat using Nat.strong_induction_on
    generalizing s with
  | _ left ih =>
    obtain ⟨s', hturn, hserving', hoffset', hsent, hsmooth⟩ :=
      turn_transfer hservable hmemory hcapacity h hserving hoffset
    have hpos : 0 < started.chunkSize.toNat :=
      Nat.pos_of_ne_zero fun hzero => hservable.chunkSize_ne (UInt16.toNat_inj.mp hzero)
    have hle : s.upgrade.chunksSent.toNat ≤ s.upgrade.offset.toNat := by
      rw [hcount]
      exact Nat.le_mul_of_pos_right _ hpos
    have hsize := hservable.size_le
    have hnext : s'.upgrade.chunksSent.toNat = s.upgrade.chunksSent.toNat + 1 := by
      simp only [firmwareMaxSize] at hsize
      rw [hsent, UInt32.toNat_add]
      show (_ + 1) % _ = _
      omega
    by_cases hend : s'.upgrade.offset.toNat = started.imageSize
    · rw [if_pos hend] at hsmooth
      refine ⟨1, s', ?_, hsmooth, hserving', hend, ?_⟩
      · rw [turns, hturn]
        rfl
      · rw [hnext, eq_comm, Nat.div_eq_iff hpos]
        rw [Nat.add_mul]
        omega
    · rw [if_neg hend] at hsmooth
      have hfull : s'.upgrade.offset.toNat = s.upgrade.offset.toNat + started.chunkSize.toNat := by
        omega
      obtain ⟨count, final, hturns, hfinal⟩ := ih (started.imageSize - s'.upgrade.offset.toNat)
        (by omega) hsmooth hserving' (by omega)
        (by rw [hfull, hcount, hnext, Nat.add_mul, Nat.one_mul]) rfl
      refine ⟨count + 1, final, ?_, hfinal⟩
      rw [turns, hturn]
      exact hturns

/-! ## After the transfer -/

/-- A turn that moves both ends to their next states and leaves the image alone. -/
theorem Smooth.advance (ops : FlashOps σ) (h : Smooth started s state activated)
    (hcapacity : 24 ≤ capacity) {device device' : UpdateState}
    (hserving : Serving contents s device) (hsent : Sent started s.upgrade)
    {type : UInt8} {payload answer : List UInt8} (hle : payload.length ≤ maxPayload)
    (hbuild : upgradeBuildRequest s.upgrade = .ok (upgradeRequest type payload hle, s.upgrade))
    {update : UpdateContext} {flash : σ × List FlashCall}
    (hhandle : Stm32.updateHandle (recording ops) s.update s.flash
        (viewOf (upgradeRequest type payload hle)) capacity =
      Stm32.respond update flash (viewOf (upgradeRequest type payload hle)) capacity type answer)
    (hupdate : update = { s.update with state := device' })
    (hcontents : contents flash.1 = contents s.flash.1) (hanswer : answer.length ≤ 8)
    {next : UpgradeState}
    (haccept : ∀ response : Frame, ¬ (response.type = Msg.nack ∨ response.type = Msg.error) →
      response.payload = answer →
      upgradeAcceptResponse s.upgrade type response = (.ok, { s.upgrade with state := next }))
    {activated' : List FlashCall} (hcalls : activations flash.2 = activated') :
    ∃ s', turn ops capacity s = some s' ∧ Smooth started s' next activated' ∧
      Serving contents s' device' ∧ Sent started s'.upgrade := by
  obtain ⟨⟨_, _, _, responses⟩, hturn, rfl, rfl, rfl, hsmooth⟩ :=
    h.answered ops hcapacity hbuild hhandle hanswer haccept ⟨rfl, rfl, rfl, rfl⟩ hcalls
  subst hupdate
  refine ⟨_, hturn, hsmooth, ⟨rfl, hserving.sessionId, hserving.imageSize, hserving.imageCrc,
    hserving.chunkSize, hserving.version, hserving.nextOffset, ?_⟩, hsent⟩
  show readMemory (contents _) 0 _ = _
  rw [hcontents]
  exact hserving.written

theorem turn_end (ops : FlashOps σ) (hservable : Servable started) (hcapacity : 24 ≤ capacity)
    (h : Smooth started s .end []) (hserving : Serving contents s .receiving)
    (hsent : Sent started s.upgrade) :
    ∃ s', turn ops capacity s = some s' ∧ Smooth started s' .verify [] ∧
      Serving contents s' .transferred ∧ Sent started s'.upgrade := by
  have hcomplete : s.update.nextOffset = s.update.imageSize := by
    rw [hserving.nextOffset, hserving.imageSize]
    refine UInt32.toNat_inj.mp ?_
    rw [(hservable.congr h.same).size_toNat, sameImage_size h.same]
    exact hsent.1
  have hhandle : Stm32.updateHandle (recording ops) s.update s.flash
      (viewOf (upgradeRequest Msg.fwEnd (putLe32 s.upgrade.sessionId) (putLe32_le _))) capacity =
      Stm32.respond { s.update with state := .transferred } s.flash
        (viewOf (upgradeRequest Msg.fwEnd (putLe32 s.upgrade.sessionId) (putLe32_le _))) capacity
        Msg.fwEnd [] := by
    rw [(Stm32.updateHandle_dispatch _ _ _ _ _).2.2.1 rfl]
    simp only [Stm32.handleEnd, hserving.state, hcomplete, ne_eq, not_true_eq_false, or_self,
      if_false]
    rfl
  refine h.advance ops hcapacity hserving hsent (putLe32_le _) ?_ hhandle rfl rfl (Nat.zero_le _)
    ?_ h.calls
  · simp only [upgradeBuildRequest, h.state]
  · intro response hanswer _
    exact (upgradeAcceptResponse_moves hanswer).2.1 h.state

/-- The flash has the whole image. -/
theorem Serving.image {device : UpdateState} (hserving : Serving contents s device)
    (h : Smooth started s state activated) (hsent : Sent started s.upgrade) :
    readMemory (contents s.flash.1) 0 started.imageSize = started.imageData := by
  have hwritten := hserving.written
  rw [hsent.1, h.same.imageData] at hwritten
  rw [hwritten]
  exact List.take_length

theorem turn_verify (hservable : Servable started)
    (hmemory : BehavesAsMemory ops contents started.imageSize) (hcapacity : 24 ≤ capacity)
    (h : Smooth started s .verify []) (hserving : Serving contents s .transferred)
    (hsent : Sent started s.upgrade) :
    ∃ s', turn ops capacity s = some s' ∧ Smooth started s' .activate [] ∧
      Serving contents s' .verified ∧ Sent started s'.upgrade := by
  have hsize : s.update.imageSize.toNat = started.imageSize := by
    rw [hserving.imageSize, (hservable.congr h.same).size_toNat, sameImage_size h.same]
  obtain ⟨hresult, hcontents⟩ := hmemory.crc32 s.flash.1 s.update.imageSize hsize.le
  have hcrc : (ops.crc32 s.flash.1 s.update.imageSize).1 = s.update.imageCrc := by
    rw [hresult, flashCrc, hsize, hserving.image h hsent, ← hservable.crc, hserving.imageCrc,
      h.same.imageCrc]
  have hhandle : Stm32.updateHandle (recording ops) s.update s.flash
      (viewOf (upgradeRequest Msg.fwVerify (putLe32 s.upgrade.sessionId) (putLe32_le _)))
      capacity =
      Stm32.respond { s.update with state := .verified }
        ((recording ops).crc32 s.flash s.update.imageSize).2
        (viewOf (upgradeRequest Msg.fwVerify (putLe32 s.upgrade.sessionId) (putLe32_le _)))
        capacity Msg.fwVerify (putLe32 s.update.imageCrc) := by
    rw [(Stm32.updateHandle_dispatch _ _ _ _ _).2.2.2.1 rfl]
    simp only [Stm32.handleVerify, hserving.state, recording, hcrc, ne_eq, not_true_eq_false,
      if_false]
    rfl
  refine h.advance ops hcapacity hserving hsent (putLe32_le _) ?_ hhandle rfl hcontents (by simp)
    ?_ ((activations_snoc _ rfl).trans h.calls)
  · simp only [upgradeBuildRequest, h.state]
  · intro response hanswer hpayload
    rw [hserving.imageCrc] at hpayload
    exact upgradeAcceptResponse_verify hanswer h.state hpayload

theorem turn_activate (hservable : Servable started)
    (hmemory : BehavesAsMemory ops contents started.imageSize) (hcapacity : 24 ≤ capacity)
    (h : Smooth started s .activate []) (hserving : Serving contents s .verified)
    (hsent : Sent started s.upgrade) :
    ∃ s', turn ops capacity s = some s' ∧
      Smooth started s' .reboot
        [.activate s.update.imageSize s.update.imageCrc s.update.pendingVersion 0] ∧
      Serving contents s' .verified ∧ Sent started s'.upgrade := by
  have hsize : s.update.imageSize.toNat = started.imageSize := by
    rw [hserving.imageSize, (hservable.congr h.same).size_toNat, sameImage_size h.same]
  obtain ⟨hresult, hcontents⟩ := hmemory.activate s.flash.1 s.update.imageSize s.update.imageCrc
    s.update.pendingVersion hsize.le
  have hhandle : Stm32.updateHandle (recording ops) s.update s.flash
      (viewOf (upgradeRequest Msg.fwActivate (putLe32 s.upgrade.sessionId) (putLe32_le _)))
      capacity =
      Stm32.respond s.update
        ((recording ops).activate s.flash s.update.imageSize s.update.imageCrc
          s.update.pendingVersion).2
        (viewOf (upgradeRequest Msg.fwActivate (putLe32 s.upgrade.sessionId) (putLe32_le _)))
        capacity Msg.fwActivate [] := by
    rw [(Stm32.updateHandle_dispatch _ _ _ _ _).2.2.2.2.1 rfl]
    simp only [Stm32.handleActivate, hserving.state, recording, hresult, ne_eq,
      not_true_eq_false, if_false]
    rfl
  refine h.advance ops hcapacity hserving hsent (putLe32_le _) ?_ hhandle ?_ hcontents
    (Nat.zero_le _) ?_ ?_
  · simp only [upgradeBuildRequest, h.state]
  · rw [← hserving.state]
  · intro response hanswer _
    exact (upgradeAcceptResponse_moves hanswer).2.2.1 h.state
  · show activations (s.flash.2 ++ [.activate _ _ _ (ops.activate _ _ _ _).1]) = _
    rw [hresult, activations, List.filter_append, ← activations, h.calls]
    rfl

theorem turn_reboot (hmemory : BehavesAsMemory ops contents started.imageSize)
    (hcapacity : 24 ≤ capacity) (h : Smooth started s .reboot activated)
    (hserving : Serving contents s .verified) (hsent : Sent started s.upgrade) :
    ∃ s', turn ops capacity s = some s' ∧ Smooth started s' .complete activated ∧
      Serving contents s' .verified ∧ Sent started s'.upgrade := by
  have hencode : (Stm32.frameEncode Msg.reboot Flag.response 0 [] capacity).1 = 0 :=
    congrArg Prod.fst (Stm32.frameEncode_of_le ⟨Msg.reboot, Flag.response, 0, [], Nat.zero_le _⟩
      (show headerSize + 0 + crcSize ≤ capacity by
        simp only [headerSize, crcSize]
        omega))
  have hhandle : Stm32.updateHandle (recording ops) s.update s.flash
      (viewOf (upgradeRequest Msg.reboot [0] (by decide))) capacity =
      Stm32.respond s.update ((recording ops).reboot s.flash)
        (viewOf (upgradeRequest Msg.reboot [0] (by decide))) capacity Msg.reboot [] := by
    rw [(Stm32.updateHandle_dispatch _ _ _ _ _).2.2.2.2.2 rfl]
    exact if_pos hencode
  refine h.advance ops hcapacity hserving hsent _ ?_ hhandle ?_ (hmemory.reboot _)
    (Nat.zero_le _) ?_ h.calls
  · simp only [upgradeBuildRequest, h.state]
  · rw [← hserving.state]
  · intro response hanswer _
    exact (upgradeAcceptResponse_moves hanswer).2.2.2 h.state

end Turn

/-! ## The whole upgrade -/

theorem turns_succ {ops : FlashOps σ} {capacity count : Nat} {s s' final : Peers σ}
    (hturn : turn ops capacity s = some s') (hturns : turns ops capacity count s' = some final) :
    turns ops capacity (count + 1) s = some final := by
  rw [turns, hturn]
  exact hturns

/-- From a started upgrade to its end. -/
theorem turns_complete {ops : FlashOps σ} {contents : σ → Nat → UInt8} {capacity : Nat}
    {started : Upgrade} {s : Peers σ} (hservable : Servable started)
    (hmemory : BehavesAsMemory ops contents started.imageSize) (hcapacity : 24 ≤ capacity)
    (h : Smooth started s .enterBootloader []) (hnone : s.upgrade.chunksSent = 0)
    (hfresh : ¬ (s.update.state = .receiving ∧
      started.imageSize.toUInt32 = s.update.imageSize ∧ started.imageCrc = s.update.imageCrc ∧
      started.version.bytes = s.update.pendingVersion.bytes)) :
    ∃ count final version, turns ops capacity count s = some final ∧
      Smooth started final .complete
        [.activate started.imageSize.toUInt32 started.imageCrc version 0] ∧
      version.bytes = started.version.bytes ∧
      readMemory (contents final.flash.1) 0 started.imageSize = started.imageData ∧
      Sent started final.upgrade := by
  obtain ⟨s₁, hturn₁, h₁, hupdate₁, hnone₁⟩ := turn_enterBootloader ops hcapacity h
  obtain ⟨s₂, hturn₂, h₂, hserving₂, hoffset₂, hnone₂⟩ :=
    turn_begin hservable hmemory hcapacity h₁ (hupdate₁ ▸ hfresh)
  rw [hnone₁, hnone] at hnone₂
  obtain ⟨count, s₃, hturns₃, h₃, hserving₃, hsent₃⟩ :=
    transfer_completes hservable hmemory hcapacity h₂ hserving₂
      (by rw [hoffset₂]; exact hservable.size_pos)
      (by rw [hoffset₂, hnone₂]; exact (Nat.zero_mul _).symm)
  obtain ⟨s₄, hturn₄, h₄, hserving₄, hsent₄⟩ :=
    turn_end ops hservable hcapacity h₃ hserving₃ hsent₃
  obtain ⟨s₅, hturn₅, h₅, hserving₅, hsent₅⟩ :=
    turn_verify hservable hmemory hcapacity h₄ hserving₄ hsent₄
  obtain ⟨s₆, hturn₆, h₆, hserving₆, hsent₆⟩ :=
    turn_activate hservable hmemory hcapacity h₅ hserving₅ hsent₅
  obtain ⟨s₇, hturn₇, h₇, hserving₇, hsent₇⟩ :=
    turn_reboot hmemory hcapacity h₆ hserving₆ hsent₆
  have hclosing : turns ops capacity 4 s₃ = some s₇ :=
    turns_succ hturn₄ (turns_succ hturn₅ (turns_succ hturn₆ (turns_succ hturn₇ rfl)))
  rw [hserving₅.imageSize, hserving₅.imageCrc, sameImage_size h₅.same, h₅.same.imageCrc] at h₇
  refine ⟨count + 4 + 1 + 1, s₇, _, turns_succ hturn₁ (turns_succ hturn₂ ?_), h₇, ?_,
    hserving₇.image h₇ hsent₇, hsent₇⟩
  · rw [turns_add, hturns₃]
    exact hclosing
  · rw [hserving₅.version, h₅.same.version]

/-- An upgrade of any image runs to its end over a memory that does not fail, whatever the
bootloader was doing before, unless it was receiving the same image: no request is
refused, the flash has the image, `activate` was called for it once, and no chunk was
sent twice. -/
theorem lossless_upgrade_completes {ops : FlashOps σ} {contents : σ → Nat → UInt8}
    {image : List UInt8} {limit : Nat} {version : CString limit} {chunkSize : UInt16}
    {capacity : Nat} {update : UpdateContext} (flash : σ)
    (hmemory : BehavesAsMemory ops contents image.length) (hcapacity : 24 ≤ capacity)
    (himage : image ≠ []) (hsize : image.length ≤ firmwareMaxSize)
    (hversion : 1 ≤ version.bytes.length ∧ version.bytes.length ≤ 31)
    (hchunk : 1 ≤ chunkSize.toNat ∧ chunkSize.toNat ≤ 4088)
    (hfresh : ¬ (update.state = .receiving ∧ update.imageSize.toNat = image.length ∧
      update.imageCrc = crc32 image ∧ update.pendingVersion.bytes = version.bytes)) :
    ∃ upgrade count final activatedVersion,
      upgradeStart image (crc32 image) version chunkSize = .ok upgrade ∧
      turns ops capacity count ⟨upgrade, update, (flash, []), []⟩ = some final ∧
      final.upgrade.state = .complete ∧
      (∀ response ∈ final.responses, response.type ≠ Msg.nack) ∧
      readMemory (contents final.flash.1) 0 image.length = image ∧
      activations final.flash.2 =
        [.activate image.length.toUInt32 (crc32 image) activatedVersion 0] ∧
      activatedVersion.bytes = version.bytes ∧
      final.upgrade.chunksSent.toNat =
        (image.length + chunkSize.toNat - 1) / chunkSize.toNat := by
  have hmax := hsize
  simp only [firmwareMaxSize] at hmax
  have hpos : 0 < image.length := List.length_pos_of_ne_nil himage
  have hstart : ∃ upgrade, upgradeStart image (crc32 image) version chunkSize = .ok upgrade ∧
      upgrade.chunksSent = 0 := by
    have hlegal : ¬ (image.length = 0 ∨ image.length > 0xFFFFFFFF ∨ chunkSize = 0 ∨
        chunkSize.toNat > maxPayload - 8) := by
      simp only [not_or, maxPayload]
      refine ⟨hpos.ne', by omega, ?_, by omega⟩
      rintro rfl
      exact absurd hchunk.1 (by decide)
    have hterminated : ¬ (version.bytes.length = 0 ∨
        version.bytes.length > upgradeVersionMax) := by
      simp only [upgradeVersionMax]
      omega
    exact ⟨_, by rw [upgradeStart, dif_neg hlegal, dif_neg hterminated], rfl⟩
  obtain ⟨started, hstarted, hnone⟩ := hstart
  obtain ⟨hsafe, hstate, hdata, hcrc, hchunkSize, _, hstring, _⟩ := upgradeStart_eq_ok hstarted
  have hlength : started.imageSize = image.length := congrArg List.length hdata
  have hservable : Servable started := by
    refine ⟨by omega, by omega, by rw [hcrc, hdata], hsafe.chunkSize_ne, ?_⟩
    rw [hstring]
    exact hversion.1
  rw [← hlength] at hmemory
  have hsmooth : Smooth started (⟨started, update, (flash, []), []⟩ : Peers σ)
      .enterBootloader [] :=
    ⟨hstate, ⟨rfl, rfl, rfl, rfl⟩, by simp, rfl⟩
  obtain ⟨count, final, activated, hturns, hfinal, hactivated, hread, hsent⟩ :=
    turns_complete hservable hmemory hcapacity hsmooth hnone (by
      rintro ⟨hreceiving, hsameSize, hsameCrc, hsameVersion⟩
      refine hfresh ⟨hreceiving, ?_, hsameCrc.symm.trans hcrc, hsameVersion.symm.trans hstring⟩
      rw [← hsameSize, hservable.size_toNat, hlength])
  have hcalls := hfinal.calls
  have hcount := hsent.2
  rw [hlength, hcrc] at hcalls
  rw [hlength, hchunkSize] at hcount
  rw [hlength, hdata] at hread
  exact ⟨started, count, final, activated, hstarted, hturns, hfinal.state, hfinal.accepted, hread,
    hcalls, hactivated.trans hstring, hcount⟩

theorem memoryFlash_behavesAsMemory (size : Nat) :
    BehavesAsMemory (Stm32.memoryFlash .none) Stm32.Flash.memory size :=
  ⟨fun _ _ _ => rfl, fun _ _ _ _ => ⟨rfl, rfl⟩, fun _ _ _ => ⟨rfl, rfl⟩,
    fun _ _ _ _ _ => ⟨rfl, rfl⟩, fun _ => rfl⟩

/-- Three bytes in chunks of two, to a bootloader that has just started. -/
theorem lossless_upgrade_completes_three_bytes :
    ∃ upgrade count final,
      upgradeStart [1, 2, 3] (crc32 [1, 2, 3]) (⟨[0x31], by decide, by simp⟩ : CString 32) 2 =
        .ok upgrade ∧
      turns (Stm32.memoryFlash .none) 24 count
        ⟨upgrade, Stm32.updateInit, (⟨fun _ => 0, []⟩, []), []⟩ = some final ∧
      final.upgrade.state = .complete ∧
      readMemory final.flash.1.memory 0 3 = [1, 2, 3] ∧
      final.upgrade.chunksSent.toNat = 2 := by
  obtain ⟨upgrade, count, final, _, hstart, hturns, hcomplete, _, hread, _, _, hsent⟩ :=
    lossless_upgrade_completes (⟨fun _ => 0, []⟩ : Stm32.Flash)
      (memoryFlash_behavesAsMemory ([1, 2, 3] : List UInt8).length) (Nat.le_refl 24)
      (show ([1, 2, 3] : List UInt8) ≠ [] by simp) (by decide)
      (show 1 ≤ (⟨[0x31], by decide, by simp⟩ : CString 32).bytes.length ∧ _ by decide)
      (show 1 ≤ (2 : UInt16).toNat ∧ _ by decide)
      (show ¬ (Stm32.updateInit.state = .receiving ∧ _) by simp [Stm32.updateInit])
  exact ⟨upgrade, count, final, hstart, hturns, hcomplete, hread, hsent⟩

end Link
