import DeviceManager.Protocol.Frame

/-!
# The IPC codec of `src/ipc/codec.c`

Requests and responses between the daemon and its clients.  The payload bound is
a field, as it is the size of the array in the C structures.
-/

namespace Devmgr

def ipcMagic : UInt16 := 0x5049
def ipcVersion : UInt8 := 1
def ipcRequestHeaderSize : Nat := 8
def ipcResponseHeaderSize : Nat := 12
def ipcMaxPayload : Nat := 4096

/-! The commands that the daemon answers itself. -/

namespace IpcCommand

abbrev getTelemetry : UInt8 := 0xF0
abbrev upgrade : UInt8 := 0xF1
abbrev upgradeStatus : UInt8 := 0xF2

end IpcCommand

/-- `struct devmgr_ipc_request`. -/
@[ext] structure IpcRequest where
  command : UInt8
  payload : List UInt8
  payload_le : payload.length ≤ ipcMaxPayload
  deriving DecidableEq

/-- `struct devmgr_ipc_response`. -/
@[ext] structure IpcResponse where
  command : UInt8
  status : Int32
  payload : List UInt8
  payload_le : payload.length ≤ ipcMaxPayload
  deriving DecidableEq

/-- `validate_header`. -/
def validateHeader (data : List UInt8) (headerSize : Nat) : Except Status Unit :=
  if data.length < headerSize then .error .invalid
  else if getLe16 data ≠ ipcMagic ∨ byteAt data 2 ≠ ipcVersion then .error .protocol
  else .ok ()

/-- `devmgr_ipc_encode_request`. -/
def ipcEncodeRequest (request : IpcRequest) (capacity : Nat) : Except Status (List UInt8) :=
  if capacity < ipcRequestHeaderSize + request.payload.length then .error .overflow
  else
    .ok (putLe16 ipcMagic ++ [ipcVersion, request.command] ++
      putLe32 request.payload.length.toUInt32 ++ request.payload)

/-- `devmgr_ipc_decode_request`. -/
def ipcDecodeRequest (data : List UInt8) : Except Status IpcRequest := do
  validateHeader data ipcRequestHeaderSize
  let payloadLength := (getLe32 (data.drop 4)).toNat
  if hlimit : payloadLength > ipcMaxPayload then .error .limit
  else if hlength : data.length ≠ ipcRequestHeaderSize + payloadLength then .error .invalid
  else
    .ok
      { command := byteAt data 3
        payload := data.drop ipcRequestHeaderSize
        payload_le := by rw [List.length_drop]; omega }

/-- `devmgr_ipc_encode_response`. -/
def ipcEncodeResponse (response : IpcResponse) (capacity : Nat) : Except Status (List UInt8) :=
  if capacity < ipcResponseHeaderSize + response.payload.length then .error .overflow
  else
    .ok (putLe16 ipcMagic ++ [ipcVersion, response.command] ++
      putLe32 response.status.toUInt32 ++ putLe32 response.payload.length.toUInt32 ++
      response.payload)

/-- `devmgr_ipc_decode_response`. -/
def ipcDecodeResponse (data : List UInt8) : Except Status IpcResponse := do
  validateHeader data ipcResponseHeaderSize
  let payloadLength := (getLe32 (data.drop 8)).toNat
  if hlimit : payloadLength > ipcMaxPayload then .error .limit
  else if hlength : data.length ≠ ipcResponseHeaderSize + payloadLength then .error .invalid
  else
    .ok
      { command := byteAt data 3
        status := (getLe32 (data.drop 4)).toInt32
        payload := data.drop ipcResponseHeaderSize
        payload_le := by rw [List.length_drop]; omega }

/-- What an accepted request looks like: the header is valid, and the length it declares is
within the limit and that of the bytes behind it. -/
theorem ipcDecodeRequest_eq_ok {data : List UInt8} {request : IpcRequest}
    (h : ipcDecodeRequest data = .ok request) :
    validateHeader data ipcRequestHeaderSize = .ok () ∧
      (getLe32 (data.drop 4)).toNat ≤ ipcMaxPayload ∧
      data.length = ipcRequestHeaderSize + (getLe32 (data.drop 4)).toNat ∧
      request.command = byteAt data 3 ∧ request.payload = data.drop ipcRequestHeaderSize := by
  rw [ipcDecodeRequest] at h
  rcases hvalid : validateHeader data ipcRequestHeaderSize with status | valid
  · rw [hvalid] at h
    cases h
  rw [hvalid] at h
  change (if _ : _ then _ else _) = _ at h
  split_ifs at h with hlimit hlength
  cases h
  exact ⟨rfl, Nat.le_of_not_lt hlimit, not_not.mp hlength, rfl, rfl⟩

/-! ## The bytes of a message -/

/-- Header and payload, as `devmgr_ipc_encode_request` writes them. -/
def ipcRequestBytes (request : IpcRequest) : List UInt8 :=
  putLe16 ipcMagic ++ [ipcVersion, request.command] ++
    putLe32 request.payload.length.toUInt32 ++ request.payload

/-- Header and payload, as `devmgr_ipc_encode_response` writes them. -/
def ipcResponseBytes (response : IpcResponse) : List UInt8 :=
  putLe16 ipcMagic ++ [ipcVersion, response.command] ++
    putLe32 response.status.toUInt32 ++ putLe32 response.payload.length.toUInt32 ++
    response.payload

theorem ipcEncodeRequest_eq (request : IpcRequest) {capacity : Nat}
    (h : ipcRequestHeaderSize + request.payload.length ≤ capacity) :
    ipcEncodeRequest request capacity = .ok (ipcRequestBytes request) := by
  rw [ipcEncodeRequest, if_neg (by omega)]
  rfl

theorem ipcEncodeResponse_eq (response : IpcResponse) {capacity : Nat}
    (h : ipcResponseHeaderSize + response.payload.length ≤ capacity) :
    ipcEncodeResponse response capacity = .ok (ipcResponseBytes response) := by
  rw [ipcEncodeResponse, if_neg (by omega)]
  rfl

theorem ipcResponseBytes_ne_nil (response : IpcResponse) : ipcResponseBytes response ≠ [] := by
  simp [ipcResponseBytes, putLe16]

end Devmgr
