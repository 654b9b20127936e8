import DeviceManager.Stm32.Protocol

/-!
# The application of `firmware/stm32f103/application/device_app.c`

The reference application answers `PING` and `GET_INFO`, and refuses every other request.
`applicationAnswer` is its answer as a frame of the host, and `applicationHandle_eq` says that
the bytes of this frame are what it writes.
-/

namespace Stm32

open Devmgr

/-- `STM32-REF`. -/
def applicationModel : List UInt8 := [0x53, 0x54, 0x4D, 0x33, 0x32, 0x2D, 0x52, 0x45, 0x46]

/-- `HW-1.0`. -/
def applicationHardware : List UInt8 := [0x48, 0x57, 0x2D, 0x31, 0x2E, 0x30]

/-- `1.0.0`. -/
def applicationFirmware : List UInt8 := [0x31, 0x2E, 0x30, 0x2E, 0x30]

/-- `BL-1.0.0`. -/
def applicationBootloader : List UInt8 := [0x42, 0x4C, 0x2D, 0x31, 0x2E, 0x30, 0x2E, 0x30]

/-- `REF00000001`. -/
def applicationSerial : List UInt8 :=
  [0x52, 0x45, 0x46, 0x30, 0x30, 0x30, 0x30, 0x30, 0x30, 0x30, 0x31]

/-- The table `info` of `stm32_application_handle`: the identifier, and five strings with their
terminators. -/
def applicationInfo : List UInt8 :=
  [0x30, 0x4D, 0x49, 0x53] ++ applicationModel ++ [0] ++ applicationHardware ++ [0] ++
    applicationFirmware ++ [0] ++ applicationBootloader ++ [0] ++ applicationSerial ++ [0]

/-- `stm32_application_handle`: the returned code and the bytes written. -/
def applicationHandle (request : FrameView) (capacity : Nat) : Int × List UInt8 :=
  if request.type = Msg.ping then
    frameEncode request.type Flag.response request.sequence request.payload capacity
  else if request.type = Msg.getInfo then
    frameEncode request.type Flag.response request.sequence applicationInfo capacity
  else frameEncode Msg.nack Flag.response request.sequence (putLe16 1) capacity

/-- The answer of the application to a request of the host. -/
def applicationAnswer (request : Frame) : Frame :=
  if request.type = Msg.ping then
    ⟨request.type, Flag.response, request.sequence, request.payload, request.payload_le⟩
  else if request.type = Msg.getInfo then
    ⟨request.type, Flag.response, request.sequence, applicationInfo,
      Nat.le_of_ble_eq_true rfl⟩
  else ⟨Msg.nack, Flag.response, request.sequence, putLe16 1, Nat.le_of_ble_eq_true rfl⟩

theorem applicationHandle_eq (request : Frame) {capacity : Nat}
    (h : headerSize + (applicationAnswer request).payload.length + crcSize ≤ capacity) :
    applicationHandle (viewOf request) capacity =
      (0, frameBytes (applicationAnswer request)) := by
  unfold applicationHandle
  unfold applicationAnswer at h ⊢
  show (if request.type = Msg.ping then _ else if request.type = Msg.getInfo then _ else _) = _
  split
  · rename_i hping
    rw [if_pos hping] at h
    exact frameEncode_of_le _ h
  rename_i hping
  rw [if_neg hping] at h
  split
  · rename_i hinfo
    rw [if_pos hinfo] at h
    exact frameEncode_of_le _ h
  · rename_i hinfo
    rw [if_neg hinfo] at h
    exact frameEncode_of_le _ h

end Stm32
