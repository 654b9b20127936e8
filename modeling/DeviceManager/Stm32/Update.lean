import DeviceManager.Protocol.Frame

/-!
# The bootloader of `firmware/stm32f103/bootloader/update.c`

The device side of a firmware update on the STM32.  The flash is reached through
hooks only, so the handlers are generic in the hooks and in the context that
they thread.  A hook that can fail returns a code, and zero is success.

`firmware/stm32f103/common/protocol.c` has its own copies of the integer
accessors, of the CRC and of the frame layout, with the bodies of
`src/protocol/frame.c` and `src/common/crc32.c`; they are shared here.
`Stm32.Protocol` translates the copies and shows that they agree.
-/

namespace Stm32

open Devmgr

/-- `enum stm32_update_state`. -/
inductive UpdateState
  | idle
  | receiving
  | transferred
  | verified
  deriving DecidableEq

/-- `struct stm32_frame_view`. -/
structure FrameView where
  type : UInt8
  flags : UInt8
  sequence : UInt32
  payload : List UInt8
  payload_lt : payload.length < 2 ^ 16

/-- The offset field of an `FW_DATA` payload. -/
def FrameView.offset (request : FrameView) : UInt32 := getLe32 (request.payload.drop 4)

/-- The image bytes of an `FW_DATA` payload. -/
def FrameView.data (request : FrameView) : List UInt8 := request.payload.drop 8

/-- `struct stm32_flash_ops`. -/
structure FlashOps (σ : Type) where
  erase : σ → UInt32 → Int × σ
  write : σ → UInt32 → List UInt8 → Int × σ
  read : σ → UInt32 → Nat → Int × List UInt8 × σ
  crc32 : σ → UInt32 → UInt32 × σ
  activate : σ → UInt32 → UInt32 → CString 32 → Int × σ
  reboot : σ → σ

/-- `struct stm32_update_context`, without the hooks. -/
structure UpdateContext where
  state : UpdateState
  sessionId : UInt32
  imageSize : UInt32
  imageCrc : UInt32
  nextOffset : UInt32
  chunkSize : UInt16
  pendingVersion : CString 32
  deriving DecidableEq

/-- `stm32_update_init`, with all the hooks given. -/
def updateInit : UpdateContext where
  state := .idle
  sessionId := 1
  imageSize := 0
  imageCrc := 0
  nextOffset := 0
  chunkSize := 0
  pendingVersion := .empty

/-- What a handler returns and leaves behind. -/
structure Handled (σ : Type) where
  result : Int
  response : List UInt8
  update : UpdateContext
  flash : σ

/-- The error codes of a NACK. -/
inductive NackError
  | invalidState
  | invalidPayload
  | offset
  | storage
  | verify

def NackError.code : NackError → UInt16
  | .invalidState => 2
  | .invalidPayload => 3
  | .offset => 5
  | .storage => 6
  | .verify => 7

/-- `stm32_frame_encode`: the returned code and the bytes written. -/
def frameEncode (type flags : UInt8) (sequence : UInt32) (payload : List UInt8)
    (capacity : Nat) : Int × List UInt8 :=
  if h : payload.length > maxPayload ∨ capacity < headerSize + payload.length + crcSize then
    (-1, [])
  else (0, frameBytes ⟨type, flags, sequence, payload, Nat.le_of_not_lt (not_or.mp h).1⟩)

theorem frameEncode_of_le (frame : Frame) {capacity : Nat}
    (h : headerSize + frame.payload.length + crcSize ≤ capacity) :
    frameEncode frame.type frame.flags frame.sequence frame.payload capacity =
      (0, frameBytes frame) := by
  have hle := frame.payload_le
  exact dif_neg (by omega)

/-- `FW_BEGIN`, as far as the payload goes. -/
structure BeginRequest where
  size : UInt32
  crc : UInt32
  chunk : UInt16
  version : CString 32

/-- The checks of `handle_begin` on the payload: at least eleven bytes, a size, a
chunk size and a terminated version of 1 to 31 characters. -/
def parseBegin (payload : List UInt8) : Option BeginRequest :=
  let size := getLe32 payload
  let crc := getLe32 (payload.drop 4)
  let chunk := getLe16 (payload.drop 8)
  let versionLength := (memchrNul (payload.drop 10)).getD 0
  if payload.length < 11 then none
  else if h : size = 0 ∨ chunk = 0 ∨ versionLength = 0 ∨ versionLength ≥ 32 then none
  else
    some
      { size := size
        crc := crc
        chunk := chunk
        version :=
          { bytes := (payload.drop 10).take versionLength
            length_lt := (List.length_take_le _ _).trans_lt (by omega)
            nonzero := fun _ hb => ne_zero_of_mem_take_memchrNul hb } }

/-- `++session_id`, with the zero skipped. -/
def sessionAfter (sessionId : UInt32) : UInt32 :=
  if sessionId + 1 = 0 then 1 else sessionId + 1

variable {σ : Type} (ops : FlashOps σ)

/-- `duplicate_matches`: compare the flash with the data, 32 bytes at a time. -/
def duplicateMatches (flash : σ) (offset : UInt32) (data : List UInt8) : Bool × σ :=
  if data.length = 0 then (true, flash)
  else
    let count := min data.length 32
    let read := ops.read flash offset count
    if read.1 ≠ 0 ∨ read.2.1.take count ≠ data.take count then (false, read.2.2)
    else duplicateMatches read.2.2 (offset + count.toUInt32) (data.drop count)
termination_by data.length
decreasing_by
  simp only [List.length_drop]
  omega

section Handlers

variable (update : UpdateContext) (flash : σ) (request : FrameView) (capacity : Nat)

/-- `respond`. -/
def respond (type : UInt8) (payload : List UInt8) : Handled σ :=
  let encoded := frameEncode type Flag.response request.sequence payload capacity
  ⟨encoded.1, encoded.2, update, flash⟩

/-- `nack`. -/
def nack (error : NackError) : Handled σ :=
  respond update flash request capacity Msg.nack (putLe16 error.code)

/-- `handle_begin`. -/
def handleBegin : Handled σ :=
  match parseBegin request.payload with
  | none => nack update flash request capacity .invalidPayload
  | some begin =>
    if update.state = .receiving ∧ begin.size = update.imageSize ∧
        begin.crc = update.imageCrc ∧ begin.version = update.pendingVersion then
      respond update flash request capacity request.type
        (putLe32 update.sessionId ++ putLe32 update.nextOffset)
    else
      let erased := ops.erase flash begin.size
      if erased.1 ≠ 0 then nack update erased.2 request capacity .storage
      else
        let update : UpdateContext :=
          { state := .receiving
            sessionId := sessionAfter update.sessionId
            imageSize := begin.size
            imageCrc := begin.crc
            nextOffset := 0
            chunkSize := begin.chunk
            pendingVersion := begin.version }
        respond update erased.2 request capacity request.type
          (putLe32 update.sessionId ++ putLe32 0)

/-- `handle_data`. -/
def handleData : Handled σ :=
  if update.state ≠ .receiving ∨ request.payload.length ≤ 8 ∨
      getLe32 request.payload ≠ update.sessionId then
    nack update flash request capacity .invalidState
  else
    let offset := request.offset
    let data := request.data
    let dataLength := data.length.toUInt32
    if dataLength > update.chunkSize.toUInt32 ∨ offset > update.imageSize ∨
        dataLength > update.imageSize - offset then
      nack update flash request capacity .offset
    else if offset < update.nextOffset then
      if offset + dataLength > update.nextOffset then
        nack update flash request capacity .offset
      else
        let duplicate := duplicateMatches ops flash offset data
        if ¬ duplicate.1 then nack update duplicate.2 request capacity .offset
        else
          respond update duplicate.2 request capacity request.type (putLe32 update.nextOffset)
    else if offset = update.nextOffset then
      let written := ops.write flash offset data
      if written.1 ≠ 0 then nack update written.2 request capacity .storage
      else
        let update := { update with nextOffset := update.nextOffset + dataLength }
        respond update written.2 request capacity request.type (putLe32 update.nextOffset)
    else nack update flash request capacity .offset

/-- `FW_STATUS`. -/
def handleStatus : Handled σ :=
  if request.payload.length ≠ 4 ∨ getLe32 request.payload ≠ update.sessionId then
    nack update flash request capacity .invalidState
  else
    respond update flash request capacity request.type
      (putLe32 update.sessionId ++ putLe32 update.nextOffset)

/-- `FW_END`. -/
def handleEnd : Handled σ :=
  if update.state ≠ .receiving ∨ update.nextOffset ≠ update.imageSize then
    nack update flash request capacity .offset
  else respond { update with state := .transferred } flash request capacity request.type []

/-- `FW_VERIFY`. -/
def handleVerify : Handled σ :=
  if update.state ≠ .transferred then nack update flash request capacity .verify
  else
    let crc := ops.crc32 flash update.imageSize
    if crc.1 ≠ update.imageCrc then nack update crc.2 request capacity .verify
    else
      respond { update with state := .verified } crc.2 request capacity request.type
        (putLe32 update.imageCrc)

/-- `FW_ACTIVATE`. -/
def handleActivate : Handled σ :=
  if update.state ≠ .verified then nack update flash request capacity .invalidState
  else
    let activated :=
      ops.activate flash update.imageSize update.imageCrc update.pendingVersion
    if activated.1 ≠ 0 then nack update activated.2 request capacity .invalidState
    else respond update activated.2 request capacity request.type []

/-- `REBOOT`: only after the response was encoded. -/
def handleReboot : Handled σ :=
  let handled := respond update flash request capacity request.type []
  if handled.result = 0 then { handled with flash := ops.reboot handled.flash } else handled

/-- `stm32_update_handle`. -/
def updateHandle : Handled σ :=
  if request.type = Msg.enterBootloader then
    respond update flash request capacity request.type []
  else if request.type = Msg.fwBegin then handleBegin ops update flash request capacity
  else if request.type = Msg.fwData then handleData ops update flash request capacity
  else if request.type = Msg.fwStatus then handleStatus update flash request capacity
  else if request.type = Msg.fwEnd then handleEnd update flash request capacity
  else if request.type = Msg.fwVerify then handleVerify ops update flash request capacity
  else if request.type = Msg.fwActivate then handleActivate ops update flash request capacity
  else if request.type = Msg.reboot then handleReboot ops update flash request capacity
  else nack update flash request capacity .invalidPayload

/-- The requests of an upgrade and their handlers. -/
theorem updateHandle_dispatch :
    (request.type = Msg.fwBegin → updateHandle ops update flash request capacity =
      handleBegin ops update flash request capacity) ∧
    (request.type = Msg.fwData → updateHandle ops update flash request capacity =
      handleData ops update flash request capacity) ∧
    (request.type = Msg.fwEnd → updateHandle ops update flash request capacity =
      handleEnd update flash request capacity) ∧
    (request.type = Msg.fwVerify → updateHandle ops update flash request capacity =
      handleVerify ops update flash request capacity) ∧
    (request.type = Msg.fwActivate → updateHandle ops update flash request capacity =
      handleActivate ops update flash request capacity) ∧
    (request.type = Msg.reboot → updateHandle ops update flash request capacity =
      handleReboot ops update flash request capacity) := by
  refine ⟨?_, ?_, ?_, ?_, ?_, ?_⟩
  all_goals
    intro h
    rw [updateHandle, h]
    repeat rw [if_neg (by decide)]
    exact if_pos rfl

theorem updateHandle_status (h : request.type = Msg.fwStatus) :
    updateHandle ops update flash request capacity =
      handleStatus update flash request capacity := by
  rw [updateHandle, h]
  repeat rw [if_neg (by decide)]
  exact if_pos rfl

end Handlers

end Stm32
