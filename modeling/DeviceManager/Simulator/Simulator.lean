import DeviceManager.Protocol.Frame
import DeviceManager.Upgrade.Firmware

/-!
# The device simulator of `simulator/device/simulator.c`

`onFrame` handles one request, as the callback of the simulator's parser does.
Each request has its own function, which returns a `Reply` and the state that it
leaves; `onFrame` makes the response frame of the reply.

`Branches` is the rule for a proof about `handle`: what holds of every branch under its type
holds of the whole.

The contents of fresh memory are not determined, so `Env` has what `malloc`
returned.  `write_frame` may drop or corrupt the response: that is a property of
the link and not of `onFrame`, which returns the response that was to be written.
-/

namespace Simulator

open Devmgr

/-- The clock, and the contents of the memory that `malloc` returns, if it does. -/
structure Env where
  now : UInt64
  malloc : Option (Nat → UInt8)

/-- `struct simulator_state`, as far as `on_frame` reads and writes it.  `flash` is
`none` for the null pointer, and `flash_size` is the length of its contents. -/
structure State where
  rxFrames : UInt64
  txFrames : UInt64
  errors : UInt64
  deviceId : UInt32
  temperatureMillic : Int32
  voltageMv : UInt32
  telemetryIntervalMs : UInt32
  nextTelemetryNs : UInt64
  telemetryEnabled : Bool
  flash : Option (List UInt8)
  expectedFirmwareCrc : UInt32
  firmwareOffset : UInt32
  firmwareSessionId : UInt32
  firmwareChunkSize : UInt16
  firmwareVersion : CString 32
  pendingVersion : CString 32
  bootloaderActive : Bool
  firmwareUpgrading : Bool
  firmwareVerified : Bool
  disconnectAtPercent : Int
  outageUntilNs : UInt64
  outageInjected : Bool
  failVerify : Bool

/-- The bytes behind `flash`. -/
def State.contents (state : State) : List UInt8 := state.flash.getD []

/-- `flash_size`. -/
def State.flashSize (state : State) : Nat := state.contents.length

/-- `struct simulator_config`, as far as `on_frame` depends on it. -/
structure Config where
  disconnectAtPercent : Int
  failVerify : Bool

/-- `simulator_init`. -/
def init (config : Config) : State where
  rxFrames := 0
  txFrames := 0
  errors := 0
  deviceId := 0x53494D30
  temperatureMillic := 36500
  voltageMv := 3300
  telemetryIntervalMs := 0
  nextTelemetryNs := 0
  telemetryEnabled := false
  flash := none
  expectedFirmwareCrc := 0
  firmwareOffset := 0
  firmwareSessionId := 0
  firmwareChunkSize := 0
  firmwareVersion := ⟨[0x31, 0x2E, 0x30, 0x2E, 0x30], by decide, by simp⟩
  pendingVersion := .empty
  bootloaderActive := false
  firmwareUpgrading := false
  firmwareVerified := false
  disconnectAtPercent := config.disconnectAtPercent
  outageUntilNs := 0
  outageInjected := false
  failVerify := config.failVerify

/-! ## Replies -/

/-- The payload of a positive response, or the code of a NACK. -/
inductive Reply
  | accept (payload : List UInt8) (payload_le : payload.length ≤ maxPayload)
  | nack (code : UInt16)

/-- The response to a request. -/
def Reply.frame (request : Frame) : Reply → Frame
  | .accept payload payload_le =>
    ⟨request.type, Flag.response, request.sequence, payload, payload_le⟩
  | .nack code => ⟨Msg.nack, Flag.response, request.sequence, putLe16 code, by simp [maxPayload]⟩

/-- A positive response without a payload. -/
def Reply.empty : Reply := .accept [] (Nat.zero_le _)

/-- One, two or three integers. -/
def Reply.word (value : UInt32) : Reply := .accept (putLe32 value) (by simp [maxPayload])

def Reply.words (first second : UInt32) : Reply :=
  .accept (putLe32 first ++ putLe32 second) (by simp [maxPayload])

def Reply.threeWords (first second third : UInt32) : Reply :=
  .accept (putLe32 first ++ putLe32 second ++ putLe32 third) (by simp [maxPayload])

/-- `put_string`: a string that does not fit is left out. -/
def putString (payload value : List UInt8) : List UInt8 :=
  if payload.length + (value.length + 1) ≤ maxPayload then payload ++ value ++ [0] else payload

theorem putString_le {payload : List UInt8} (h : payload.length ≤ maxPayload)
    (value : List UInt8) : (putString payload value).length ≤ maxPayload := by
  unfold putString
  split
  · simp only [List.length_append, List.length_singleton]
    omega
  · exact h

/-! ## Requests -/

section Requests

variable (env : Env) (request : Frame) (state : State)

/-- `GET_INFO`: the device, its hardware, firmware, bootloader and serial number. -/
def getInfo : Reply × State :=
  let hardware : List UInt8 := [0x48, 0x57, 0x2D, 0x31, 0x2E, 0x30]
  let name : List UInt8 := [0x53, 0x54, 0x4D, 0x33, 0x32, 0x2D, 0x53, 0x49, 0x4D]
  let bootloader : List UInt8 := [0x42, 0x4C, 0x2D, 0x31, 0x2E, 0x30, 0x2E, 0x30]
  let serial : List UInt8 := [0x53, 0x49, 0x4D, 0x30, 0x30, 0x30, 0x30, 0x30, 0x30, 0x30, 0x31]
  (.accept
    (putString (putString (putString (putString (putString (putLe32 state.deviceId)
      name) hardware) state.firmwareVersion.bytes) bootloader) serial)
    (putString_le (putString_le (putString_le (putString_le (putString_le
      (by simp [maxPayload]) _) _) _) _) _),
    state)

/-- `GET_HEALTH`. -/
def getHealth : Reply × State :=
  (.threeWords state.temperatureMillic.toUInt32 state.voltageMv 0, state)

/-- `GET_STATS`. -/
def getStats : Reply × State :=
  (.threeWords state.rxFrames.toUInt32 state.txFrames.toUInt32 state.errors.toUInt32, state)

/-- `START_TELEMETRY`.  The interval is stored before it is checked. -/
def startTelemetry : Reply × State :=
  if request.payload.length ≠ 4 then (.nack 3, state)
  else
    let interval := getLe32 request.payload
    let state := { state with telemetryIntervalMs := interval }
    if interval < 100 ∨ interval > 60000 then (.nack 3, state)
    else
      (.word interval, { state with
        telemetryEnabled := true
        nextTelemetryNs := env.now + interval.toUInt64 * 1000000 })

/-- `STOP_TELEMETRY`. -/
def stopTelemetry : Reply × State :=
  (.empty, { state with telemetryEnabled := false })

/-- `ENTER_BOOTLOADER`. -/
def enterBootloader : Reply × State :=
  (.empty, { state with telemetryEnabled := false, bootloaderActive := true })

/-- The version of an `FW_BEGIN` payload, up to its terminator. -/
def versionBytes (payload : List UInt8) : List UInt8 :=
  (payload.drop 10).take ((memchrNul (payload.drop 10)).getD 0)

/-- The fields of an `FW_BEGIN` payload. -/
structure BeginRequest where
  imageSize : UInt32
  imageCrc : UInt32
  chunkSize : UInt16
  version : CString 32
  deriving DecidableEq

/-- The checks of `FW_BEGIN` on the fields: an image and a chunk of a legal size, and
a terminated version of 1 to 31 characters. -/
def parseBegin (payload : List UInt8) : Option BeginRequest :=
  let imageSize := getLe32 payload
  let chunkSize := getLe16 (payload.drop 8)
  if h : imageSize = 0 ∨ imageSize.toNat > firmwareMaxSize ∨ chunkSize = 0 ∨
      chunkSize.toNat > maxPayload - 8 ∨ (versionBytes payload).length = 0 ∨
      (versionBytes payload).length ≥ 32 then none
  else
    some
      { imageSize := imageSize
        imageCrc := getLe32 (payload.drop 4)
        chunkSize := chunkSize
        version := ⟨versionBytes payload, by omega, fun _ hb => ne_zero_of_mem_take_memchrNul hb⟩ }

/-- The session in progress is the one that the request asks for. -/
def State.continues (state : State) (begin : BeginRequest) : Prop :=
  state.firmwareUpgrading = true ∧ state.flashSize = begin.imageSize.toNat ∧
    state.expectedFirmwareCrc = begin.imageCrc ∧ state.firmwareChunkSize = begin.chunkSize ∧
    state.pendingVersion = begin.version

instance (begin : BeginRequest) : Decidable (state.continues begin) :=
  inferInstanceAs (Decidable (_ ∧ _ ∧ _ ∧ _ ∧ _))

/-- `++firmware_session_id`, with the zero skipped. -/
def sessionAfter (session : UInt32) : UInt32 :=
  if session + 1 = 0 then 1 else session + 1

/-- `FW_BEGIN`. -/
def fwBegin : Reply × State :=
  if ¬ state.bootloaderActive ∨ request.payload.length < 11 then (.nack 2, state)
  else
    match parseBegin request.payload with
    | none => (.nack 3, state)
    | some begin =>
      if state.continues begin then
        (.words state.firmwareSessionId state.firmwareOffset, state)
      else
        match env.malloc with
        | none => (.nack 6, state)
        | some memory =>
          let session := sessionAfter state.firmwareSessionId
          (.words session 0, { state with
            flash := some ((List.range begin.imageSize.toNat).map memory)
            expectedFirmwareCrc := begin.imageCrc
            firmwareChunkSize := begin.chunkSize
            firmwareOffset := 0
            firmwareSessionId := session
            pendingVersion := begin.version
            firmwareUpgrading := true
            firmwareVerified := false })

/-- The outage that `FW_DATA` injects once, at a share of the image. -/
def State.injectOutage (state : State) : State :=
  if ¬ state.outageInjected ∧ state.disconnectAtPercent ≥ 0 ∧ state.flashSize ≠ 0 ∧
      state.firmwareOffset.toNat * 100 / state.flashSize ≥ state.disconnectAtPercent.toNat then
    { state with outageInjected := true, outageUntilNs := env.now + 6000000000 }
  else state

/-- `memcpy` into the flash, and the offset behind it. -/
def State.program (state : State) (offset : Nat) (data : List UInt8) : State :=
  let memory := state.flash.map fun flash =>
    flash.take offset ++ data ++ flash.drop (offset + data.length)
  { state with
    flash := memory
    firmwareOffset := state.firmwareOffset + data.length.toUInt32 }

/-- `FW_DATA`. -/
def fwData : Reply × State :=
  if ¬ state.firmwareUpgrading ∨ request.payload.length ≤ 8 ∨
      getLe32 request.payload ≠ state.firmwareSessionId then (.nack 2, state)
  else
    let offset := getLe32 (request.payload.drop 4)
    let data := request.payload.drop 8
    if data.length > state.firmwareChunkSize.toNat ∨ offset.toNat > state.flashSize ∨
        data.length > state.flashSize - offset.toNat then (.nack 5, state)
    else if offset < state.firmwareOffset then
      if offset.toNat + data.length > state.firmwareOffset.toNat ∨
          (state.contents.drop offset.toNat).take data.length ≠ data then (.nack 5, state)
      else (.word state.firmwareOffset, state.injectOutage env)
    else if offset = state.firmwareOffset then
      let programmed := state.program offset.toNat data
      (.word programmed.firmwareOffset, programmed.injectOutage env)
    else (.nack 5, state)

/-- A payload that is the session in progress. -/
def State.addressed (state : State) (payload : List UInt8) : Prop :=
  payload.length = 4 ∧ getLe32 payload = state.firmwareSessionId

instance (payload : List UInt8) : Decidable (state.addressed payload) :=
  inferInstanceAs (Decidable (_ ∧ _))

/-- `FW_STATUS`. -/
def fwStatus : Reply × State :=
  if ¬ state.firmwareUpgrading ∨ ¬ state.addressed request.payload then (.nack 2, state)
  else (.words state.firmwareSessionId state.firmwareOffset, state)

/-- `FW_END`. -/
def fwEnd : Reply × State :=
  if ¬ state.firmwareUpgrading ∨ ¬ state.addressed request.payload ∨
      state.firmwareOffset.toNat ≠ state.flashSize then (.nack 5, state)
  else (.empty, state)

/-- `actual_crc` of `FW_VERIFY`. -/
def State.actualCrc (state : State) : UInt32 :=
  match state.flash with
  | none => 0
  | some flash => crc32 flash

/-- `FW_VERIFY`. -/
def fwVerify : Reply × State :=
  if ¬ state.firmwareUpgrading ∨ ¬ state.addressed request.payload ∨ state.failVerify ∨
      state.actualCrc ≠ state.expectedFirmwareCrc then (.nack 7, state)
  else (.word state.actualCrc, { state with firmwareVerified := true })

/-- `FW_ACTIVATE`. -/
def fwActivate : Reply × State :=
  if ¬ state.firmwareVerified ∨ ¬ state.addressed request.payload then (.nack 2, state)
  else (.empty, { state with firmwareVersion := state.pendingVersion })

/-- `REBOOT`. -/
def reboot : Reply × State :=
  (.empty, { state with
    bootloaderActive := false
    firmwareUpgrading := false
    firmwareVerified := false })

/-- The `switch` of `on_frame`. -/
def handle : Reply × State :=
  if request.type = Msg.ping then (.accept request.payload request.payload_le, state)
  else if request.type = Msg.getInfo then getInfo state
  else if request.type = Msg.getHealth then getHealth state
  else if request.type = Msg.getStats then getStats state
  else if request.type = Msg.startTelemetry then startTelemetry env request state
  else if request.type = Msg.stopTelemetry then stopTelemetry state
  else if request.type = Msg.enterBootloader then enterBootloader state
  else if request.type = Msg.fwBegin then fwBegin env request state
  else if request.type = Msg.fwData then fwData env request state
  else if request.type = Msg.fwStatus then fwStatus request state
  else if request.type = Msg.fwEnd then fwEnd request state
  else if request.type = Msg.fwVerify then fwVerify request state
  else if request.type = Msg.fwActivate then fwActivate request state
  else if request.type = Msg.reboot then reboot state
  else (.nack 1, state)

/-- `on_frame`, up to `write_frame`: the response and the state. -/
def onFrame : Frame × State :=
  let handled := handle env request { state with rxFrames := state.rxFrames + 1 }
  (handled.1.frame request, handled.2)

end Requests

/-! ## The branches of the `switch` -/

/-- The types of request that `on_frame` knows. -/
def requestTypes : List UInt8 :=
  [Msg.ping, Msg.getInfo, Msg.getHealth, Msg.getStats, Msg.startTelemetry, Msg.stopTelemetry,
    Msg.enterBootloader, Msg.fwBegin, Msg.fwData, Msg.fwStatus, Msg.fwEnd, Msg.fwVerify,
    Msg.fwActivate, Msg.reboot]

/-- What is to be shown of every branch of the `switch`. -/
structure Branches (env : Env) (request : Frame) (state : State) (motive : Reply × State → Prop) :
    Prop where
  ping : request.type = Msg.ping → motive (.accept request.payload request.payload_le, state)
  getInfo : request.type = Msg.getInfo → motive (getInfo state)
  getHealth : request.type = Msg.getHealth → motive (getHealth state)
  getStats : request.type = Msg.getStats → motive (getStats state)
  startTelemetry : request.type = Msg.startTelemetry → motive (startTelemetry env request state)
  stopTelemetry : request.type = Msg.stopTelemetry → motive (stopTelemetry state)
  enterBootloader : request.type = Msg.enterBootloader → motive (enterBootloader state)
  fwBegin : request.type = Msg.fwBegin → motive (fwBegin env request state)
  fwData : request.type = Msg.fwData → motive (fwData env request state)
  fwStatus : request.type = Msg.fwStatus → motive (fwStatus request state)
  fwEnd : request.type = Msg.fwEnd → motive (fwEnd request state)
  fwVerify : request.type = Msg.fwVerify → motive (fwVerify request state)
  fwActivate : request.type = Msg.fwActivate → motive (fwActivate request state)
  reboot : request.type = Msg.reboot → motive (reboot state)
  unknown : request.type ∉ requestTypes → motive (.nack 1, state)

theorem Branches.handle {env : Env} {request : Frame} {state : State}
    {motive : Reply × State → Prop} (h : Branches env request state motive) :
    motive (handle env request state) := by
  unfold Simulator.handle
  refine iteInduction h.ping fun hping => iteInduction h.getInfo fun hinfo =>
    iteInduction h.getHealth fun hhealth => iteInduction h.getStats fun hstats =>
    iteInduction h.startTelemetry fun hstart => iteInduction h.stopTelemetry fun hstop =>
    iteInduction h.enterBootloader fun henter => iteInduction h.fwBegin fun hbegin =>
    iteInduction h.fwData fun hdata => iteInduction h.fwStatus fun hstatus =>
    iteInduction h.fwEnd fun hend => iteInduction h.fwVerify fun hverify =>
    iteInduction h.fwActivate fun hactivate => iteInduction h.reboot fun hreboot =>
    h.unknown ?_
  simp only [requestTypes, List.mem_cons, List.not_mem_nil, or_false, not_or]
  exact ⟨hping, hinfo, hhealth, hstats, hstart, hstop, henter, hbegin, hdata, hstatus, hend,
    hverify, hactivate, hreboot⟩

end Simulator
