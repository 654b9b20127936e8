import DeviceManager.Protocol.Frame

/-!
# The upgrade state machine of `src/upgrade/upgrade.c`

The host side of a firmware update.  `upgradeBuildRequest` makes the request of
the current state, `upgradeAcceptResponse` takes the device's answer and moves
on, and `upgradeBeginRecovery` asks the device where to resume after a timeout.

The bound on the chunk size is a field of the structure: `devmgr_upgrade_start`
refuses a larger chunk, no other function changes the field, and the payload of
an `FW_DATA` frame fits because of it.
-/

namespace Devmgr

/-- `enum devmgr_upgrade_state`. -/
inductive UpgradeState
  | idle
  | validating
  | enterBootloader
  | begin
  | transfer
  | recover
  | end
  | verify
  | activate
  | reboot
  | complete
  | error
  deriving DecidableEq

/-- The number of the enumerator. -/
def UpgradeState.code : UpgradeState → UInt8
  | .idle => 0
  | .validating => 1
  | .enterBootloader => 2
  | .begin => 3
  | .transfer => 4
  | .recover => 5
  | .end => 6
  | .verify => 7
  | .activate => 8
  | .reboot => 9
  | .complete => 10
  | .error => 11

/-- The type of the request that belongs to a state. -/
def UpgradeState.requestType : UpgradeState → Option UInt8
  | .enterBootloader => some Msg.enterBootloader
  | .begin => some Msg.fwBegin
  | .transfer => some Msg.fwData
  | .recover => some Msg.fwStatus
  | .end => some Msg.fwEnd
  | .verify => some Msg.fwVerify
  | .activate => some Msg.fwActivate
  | .reboot => some Msg.reboot
  | _ => none

/-- `DEVMGR_UPGRADE_VERSION_MAX`. -/
def upgradeVersionMax : Nat := 31

/-- `DEVMGR_UPGRADE_DEFAULT_CHUNK`. -/
def upgradeDefaultChunk : UInt16 := 1024

/-- `struct devmgr_upgrade`. -/
structure Upgrade where
  state : UpgradeState
  imageData : List UInt8
  imageCrc : UInt32
  version : CString (upgradeVersionMax + 1)
  sessionId : UInt32
  offset : UInt32
  lastChunkEnd : UInt32
  chunkSize : UInt16
  chunksSent : UInt32
  recoveryAttempts : UInt8
  chunkSize_le : chunkSize.toNat ≤ maxPayload - 8

def Upgrade.imageSize (upgrade : Upgrade) : Nat := upgrade.imageData.length

/-- `devmgr_upgrade_init`. -/
def upgradeInit : Upgrade where
  state := .idle
  imageData := []
  imageCrc := 0
  version := .empty
  sessionId := 0
  offset := 0
  lastChunkEnd := 0
  chunkSize := 0
  chunksSent := 0
  recoveryAttempts := 0
  chunkSize_le := by decide

/-- `devmgr_upgrade_start`. -/
def upgradeStart {capacity : Nat} (imageData : List UInt8) (imageCrc : UInt32)
    (version : CString capacity) (chunkSize : UInt16) : Except Status Upgrade :=
  if h : imageData.length = 0 ∨ imageData.length > 0xFFFFFFFF ∨ chunkSize = 0 ∨
      chunkSize.toNat > maxPayload - 8 then .error .invalid
  else if hversion : version.bytes.length = 0 ∨ version.bytes.length > upgradeVersionMax then
    .error .invalid
  else
    .ok { upgradeInit with
      imageData := imageData
      imageCrc := imageCrc
      version := ⟨version.bytes, by omega, version.nonzero⟩
      chunkSize := chunkSize
      chunkSize_le := by omega
      state := .enterBootloader }

/-- The number of image bytes in the next `FW_DATA` frame. -/
def Upgrade.chunk (upgrade : Upgrade) : Nat :=
  let remaining := upgrade.imageSize - upgrade.offset.toNat
  if remaining < upgrade.chunkSize.toNat then remaining else upgrade.chunkSize.toNat

theorem Upgrade.chunk_le (upgrade : Upgrade) : upgrade.chunk ≤ upgrade.chunkSize.toNat := by
  rw [chunk]
  split <;> omega

/-- The chunk before the end of the image is not empty, and it ends inside. -/
theorem Upgrade.chunk_bounds {upgrade : Upgrade}
    (hoffset : upgrade.offset.toNat < upgrade.imageSize) (hsize : upgrade.chunkSize ≠ 0) :
    0 < upgrade.chunk ∧
      upgrade.offset.toNat + upgrade.chunk =
        min (upgrade.offset.toNat + upgrade.chunkSize.toNat) upgrade.imageSize := by
  have hpos : 0 < upgrade.chunkSize.toNat :=
    Nat.pos_of_ne_zero fun hzero => hsize (UInt16.toNat_inj.mp hzero)
  rw [chunk]
  split <;> omega

/-- The payload of `FW_BEGIN`: size, CRC, chunk size and the version with its
terminator. -/
def Upgrade.beginPayload (upgrade : Upgrade) : List UInt8 :=
  putLe32 upgrade.imageSize.toUInt32 ++ putLe32 upgrade.imageCrc ++
    putLe16 upgrade.chunkSize ++ upgrade.version.bytes ++ [0]

/-- The payload of `FW_DATA`: session, offset and the next piece of the image. -/
def Upgrade.dataPayload (upgrade : Upgrade) : List UInt8 :=
  putLe32 upgrade.sessionId ++ putLe32 upgrade.offset ++
    (upgrade.imageData.drop upgrade.offset.toNat).take upgrade.chunk

theorem Upgrade.beginPayload_le (upgrade : Upgrade) :
    upgrade.beginPayload.length ≤ maxPayload := by
  have hversion : upgrade.version.bytes.length < 32 := upgrade.version.length_lt
  simp only [beginPayload, List.length_append, putLe32_length, putLe16_length,
    List.length_singleton, maxPayload]
  omega

theorem Upgrade.dataPayload_le (upgrade : Upgrade) :
    upgrade.dataPayload.length ≤ maxPayload := by
  have hchunk := upgrade.chunk_le
  have hsize := upgrade.chunkSize_le
  simp only [maxPayload] at hsize ⊢
  simp only [dataPayload, List.length_append, putLe32_length, List.length_take]
  omega

/-- The fields of `FW_BEGIN`, where a device reads them. -/
theorem Upgrade.beginPayload_fields (upgrade : Upgrade) :
    getLe32 upgrade.beginPayload = upgrade.imageSize.toUInt32 ∧
      getLe32 (upgrade.beginPayload.drop 4) = upgrade.imageCrc ∧
      getLe16 (upgrade.beginPayload.drop 8) = upgrade.chunkSize ∧
      upgrade.beginPayload.drop 10 = upgrade.version.bytes ++ 0 :: [] := by
  have hsplit : upgrade.beginPayload =
      putLe32 upgrade.imageSize.toUInt32 ++ (putLe32 upgrade.imageCrc ++
        (putLe16 upgrade.chunkSize ++ (upgrade.version.bytes ++ 0 :: []))) := by
    simp [beginPayload]
  rw [hsplit]
  exact ⟨getLe32_putLe32 _ _, getLe32_putLe32 _ _, getLe16_putLe16 _ _, rfl⟩

/-- The fields of `FW_DATA`. -/
theorem Upgrade.dataPayload_fields (upgrade : Upgrade) :
    getLe32 upgrade.dataPayload = upgrade.sessionId ∧
      getLe32 (upgrade.dataPayload.drop 4) = upgrade.offset ∧
      upgrade.dataPayload.drop 8 =
        (upgrade.imageData.drop upgrade.offset.toNat).take upgrade.chunk := by
  have hsplit : upgrade.dataPayload = putLe32 upgrade.sessionId ++ (putLe32 upgrade.offset ++
      (upgrade.imageData.drop upgrade.offset.toNat).take upgrade.chunk) := by
    rw [dataPayload, List.append_assoc]
  rw [hsplit]
  exact ⟨getLe32_putLe32 _ _, getLe32_putLe32 _ _, rfl⟩

/-- A request, with `DEVMGR_FRAME_ACK_REQUIRED`; its sequence is set when the
session begins it. -/
def upgradeRequest (type : UInt8) (payload : List UInt8) (h : payload.length ≤ maxPayload) :
    Frame :=
  ⟨type, Flag.ackRequired, 0, payload, h⟩

/-- `devmgr_upgrade_build_request`. -/
def upgradeBuildRequest (upgrade : Upgrade) : Except Status (Frame × Upgrade) :=
  match upgrade.state with
  | .enterBootloader => .ok (upgradeRequest Msg.enterBootloader [] (Nat.zero_le _), upgrade)
  | .begin =>
    .ok (upgradeRequest Msg.fwBegin upgrade.beginPayload upgrade.beginPayload_le, upgrade)
  | .transfer =>
    if upgrade.offset.toNat ≥ upgrade.imageSize then .error .state
    else
      .ok (upgradeRequest Msg.fwData upgrade.dataPayload upgrade.dataPayload_le,
        { upgrade with
          lastChunkEnd := upgrade.offset + upgrade.chunk.toUInt32
          chunksSent := upgrade.chunksSent + 1 })
  | .recover =>
    if upgrade.sessionId = 0 then .error .state
    else .ok (upgradeRequest Msg.fwStatus (putLe32 upgrade.sessionId) (putLe32_le _), upgrade)
  | .end => .ok (upgradeRequest Msg.fwEnd (putLe32 upgrade.sessionId) (putLe32_le _), upgrade)
  | .verify => .ok (upgradeRequest Msg.fwVerify (putLe32 upgrade.sessionId) (putLe32_le _), upgrade)
  | .activate =>
    .ok (upgradeRequest Msg.fwActivate (putLe32 upgrade.sessionId) (putLe32_le _), upgrade)
  | .reboot => .ok (upgradeRequest Msg.reboot [0] (by decide), upgrade)
  | _ => .error .state

/-- Where a transfer goes on from an offset: to `END` when the device has the
whole image. -/
def Upgrade.resume (upgrade : Upgrade) : Upgrade :=
  { upgrade with
    state := if upgrade.offset.toNat = upgrade.imageSize then .end else .transfer }

/-- The `break` out of the `switch`. -/
def Upgrade.refuse (upgrade : Upgrade) : Status × Upgrade :=
  (.protocol, { upgrade with state := .error })

/-- `devmgr_upgrade_accept_response`. -/
def upgradeAcceptResponse (upgrade : Upgrade) (requestType : UInt8) (response : Frame) :
    Status × Upgrade :=
  if response.type = Msg.nack ∨ response.type = Msg.error then upgrade.refuse
  else
    match upgrade.state with
    | .enterBootloader =>
      if requestType ≠ Msg.enterBootloader then upgrade.refuse
      else (.ok, { upgrade with state := .begin })
    | .begin =>
      if requestType ≠ Msg.fwBegin ∨ response.payload.length ≠ 8 then upgrade.refuse
      else
        -- The fields are stored before they are checked.
        let upgrade : Upgrade := { upgrade with
          sessionId := getLe32 response.payload
          offset := getLe32 (response.payload.drop 4) }
        if upgrade.sessionId = 0 ∨ upgrade.offset.toNat > upgrade.imageSize then upgrade.refuse
        else (.ok, upgrade.resume)
    | .transfer =>
      if requestType ≠ Msg.fwData ∨ response.payload.length ≠ 4 then upgrade.refuse
      else
        let upgrade : Upgrade := { upgrade with offset := getLe32 response.payload }
        if upgrade.offset ≠ upgrade.lastChunkEnd ∨ upgrade.offset.toNat > upgrade.imageSize then
          upgrade.refuse
        else (.ok, upgrade.resume)
    | .recover =>
      if requestType ≠ Msg.fwStatus ∨ response.payload.length ≠ 8 ∨
          getLe32 response.payload ≠ upgrade.sessionId then upgrade.refuse
      else
        let upgrade : Upgrade := { upgrade with offset := getLe32 (response.payload.drop 4) }
        if upgrade.offset.toNat > upgrade.imageSize then upgrade.refuse
        else (.ok, upgrade.resume)
    | .end =>
      if requestType ≠ Msg.fwEnd then upgrade.refuse
      else (.ok, { upgrade with state := .verify })
    | .verify =>
      if requestType ≠ Msg.fwVerify ∨ response.payload.length ≠ 4 ∨
          getLe32 response.payload ≠ upgrade.imageCrc then upgrade.refuse
      else (.ok, { upgrade with state := .activate })
    | .activate =>
      if requestType ≠ Msg.fwActivate then upgrade.refuse
      else (.ok, { upgrade with state := .reboot })
    | .reboot =>
      if requestType ≠ Msg.reboot then upgrade.refuse
      else (.ok, { upgrade with state := .complete })
    | _ => upgrade.refuse

/-- `devmgr_upgrade_active`. -/
def upgradeActive (upgrade : Upgrade) : Bool :=
  upgrade.state ≠ .idle && upgrade.state ≠ .complete && upgrade.state ≠ .error

/-- `devmgr_upgrade_begin_recovery`. -/
def upgradeBeginRecovery (upgrade : Upgrade) : Status × Upgrade :=
  if upgrade.sessionId = 0 ∨ (upgrade.state ≠ .transfer ∧ upgrade.state ≠ .recover) then
    (.state, upgrade)
  else if upgrade.recoveryAttempts ≥ 3 then (.timeout, { upgrade with state := .error })
  else
    (.ok, { upgrade with
      recoveryAttempts := upgrade.recoveryAttempts + 1
      state := .recover })

end Devmgr
