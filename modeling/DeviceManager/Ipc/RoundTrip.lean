import DeviceManager.Ipc.Codec
import DeviceManager.Stm32.Protocol

/-!
# Encoding and decoding IPC messages

The two message kinds differ in their headers only: eight bytes for a request,
twelve for a response, with the declared length in the last four.

* `ipcDecodeRequest_bytes` and `ipcDecodeRequest_inv`: the decoder accepts
  exactly the encodings, each as the request it encodes; the same for responses;
* `ipcDecodeRequestChecked_eq` and `ipcDecodeResponseChecked_eq`: the decoders
  with every access checked, and with the 32-bit sum of the source, never fail
  and compute the same.
-/

namespace Devmgr

open Stm32 (readBytes readBytes_eq byteAt_drop_take)

/-! ## Checked accesses -/

/-- `validate_header` with checked reads: `none` is an access outside of the
input. -/
def validateHeaderChecked (data : List UInt8) (headerSize : Nat) :
    Option (Except Status Unit) :=
  if data.length < headerSize then some (.error .invalid)
  else do
    let magic ← readBytes data 0 2
    let version ← readBytes data 2 1
    if getLe16 magic ≠ ipcMagic ∨ byteAt version 0 ≠ ipcVersion then some (.error .protocol)
    else some (.ok ())

/-- `DEVMGR_IPC_REQUEST_HEADER_SIZE + payload_length`, or the same for a
response: both operands have 32 bits, and so has the sum. -/
def messageSize (headerSize : Nat) (payloadLength : UInt32) : Nat :=
  (headerSize.toUInt32 + payloadLength).toNat

/-- `devmgr_ipc_decode_request` with checked accesses.  The copy is one to the
array of the message, too. -/
def ipcDecodeRequestChecked (data : List UInt8) : Option (Except Status IpcRequest) := do
  match ← validateHeaderChecked data ipcRequestHeaderSize with
  | .error status => some (.error status)
  | .ok _ =>
    let payloadLength := getLe32 (← readBytes data 4 4)
    if payloadLength.toNat > ipcMaxPayload then some (.error .limit)
    else if data.length ≠ messageSize ipcRequestHeaderSize payloadLength then
      some (.error .invalid)
    else
      let command ← readBytes data 3 1
      let payload ← readBytes data ipcRequestHeaderSize payloadLength.toNat
      if hroom : payload.length ≤ ipcMaxPayload then
        some (.ok { command := byteAt command 0, payload, payload_le := hroom })
      else none

/-- `devmgr_ipc_decode_response` with checked accesses. -/
def ipcDecodeResponseChecked (data : List UInt8) : Option (Except Status IpcResponse) := do
  match ← validateHeaderChecked data ipcResponseHeaderSize with
  | .error status => some (.error status)
  | .ok _ =>
    let payloadLength := getLe32 (← readBytes data 8 4)
    if payloadLength.toNat > ipcMaxPayload then some (.error .limit)
    else if data.length ≠ messageSize ipcResponseHeaderSize payloadLength then
      some (.error .invalid)
    else
      let command ← readBytes data 3 1
      let status ← readBytes data 4 4
      let payload ← readBytes data ipcResponseHeaderSize payloadLength.toNat
      if hroom : payload.length ≤ ipcMaxPayload then
        some (.ok
          { command := byteAt command 0, status := (getLe32 status).toInt32, payload,
            payload_le := hroom })
      else none

/-! ## Headers -/

theorem validateHeader_eq_ok {data : List UInt8} {headerSize : Nat} :
    validateHeader data headerSize = .ok () ↔
      headerSize ≤ data.length ∧ getLe16 data = ipcMagic ∧ byteAt data 2 = ipcVersion := by
  rw [validateHeader]
  split_ifs with hshort hfields
  · simp [Nat.not_le.mpr hshort]
  · rw [← not_and_or] at hfields
    simp [hfields]
  · rw [not_or, not_not, not_not] at hfields
    simpa using ⟨Nat.le_of_not_lt hshort, hfields⟩

/-- The four bytes that open every message. -/
theorem message_opening {data : List UInt8} (hlength : 4 ≤ data.length)
    (hmagic : getLe16 data = ipcMagic) (hversion : byteAt data 2 = ipcVersion) :
    data.take 4 = putLe16 ipcMagic ++ [ipcVersion, byteAt data 3] := by
  have hpair : putLe16 ipcMagic = data.take 2 := by
    rw [← hmagic, ← getLe16_take (Nat.le_refl 2), putLe16_getLe16 (by rw [List.length_take]; omega)]
  have hbytes := @take_four_drop data 0 (by omega)
  rw [List.drop_zero] at hbytes
  rw [hpair, hbytes, ← hversion]
  rw [show data.take 2 = (data.take 4).take 2 by rw [List.take_take]; rfl, hbytes]
  rfl

/-- Four bytes of the input, read as a word and written back. -/
theorem putLe32_getLe32_drop {data : List UInt8} {offset : Nat} (h : offset + 4 ≤ data.length) :
    putLe32 (getLe32 (data.drop offset)) = (data.drop offset).take 4 := by
  rw [← getLe32_take (Nat.le_refl 4),
    putLe32_getLe32 (by rw [List.length_take, List.length_drop]; omega)]

/-- The declared length is that of the bytes behind the header, so the encoder
declares it again. -/
theorem putLe32_declared {data : List UInt8} {headerSize offset : Nat}
    (hinside : offset + 4 ≤ data.length)
    (hlength : data.length = headerSize + (getLe32 (data.drop offset)).toNat) :
    putLe32 (data.drop headerSize).length.toUInt32 = (data.drop offset).take 4 := by
  rw [← putLe32_getLe32_drop hinside, List.length_drop, hlength, Nat.add_sub_cancel_left]
  exact congrArg putLe32 UInt32.ofNat_toNat

/-- A length below the bound survives the 32-bit field. -/
theorem payloadLength_toNat {n : Nat} (h : n ≤ ipcMaxPayload) : n.toUInt32.toNat = n := by
  have hmax : ipcMaxPayload = 4096 := rfl
  simp only [Nat.toUInt32, UInt32.toNat_ofNat']
  omega

/-- The sum does not wrap for a declared length that passed the limit. -/
theorem messageSize_eq {headerSize : Nat} {payloadLength : UInt32}
    (hheader : headerSize ≤ ipcResponseHeaderSize) (h : payloadLength.toNat ≤ ipcMaxPayload) :
    messageSize headerSize payloadLength = headerSize + payloadLength.toNat := by
  have hmax : ipcMaxPayload = 4096 := rfl
  have hsize : ipcResponseHeaderSize = 12 := rfl
  rw [messageSize, UInt32.toNat_add]
  simp only [Nat.toUInt32, UInt32.toNat_ofNat']
  omega

/-! ## Round trips -/

@[simp] theorem ipcRequestBytes_length (request : IpcRequest) :
    (ipcRequestBytes request).length = ipcRequestHeaderSize + request.payload.length := by
  simp [ipcRequestBytes, ipcRequestHeaderSize]
  omega

@[simp] theorem ipcResponseBytes_length (response : IpcResponse) :
    (ipcResponseBytes response).length = ipcResponseHeaderSize + response.payload.length := by
  simp [ipcResponseBytes, ipcResponseHeaderSize]
  omega

/-- What the decoder sees in an encoded request. -/
theorem ipcRequestBytes_fields (request : IpcRequest) :
    validateHeader (ipcRequestBytes request) ipcRequestHeaderSize = .ok () ∧
      byteAt (ipcRequestBytes request) 3 = request.command ∧
      (getLe32 ((ipcRequestBytes request).drop 4)).toNat = request.payload.length ∧
      (ipcRequestBytes request).drop ipcRequestHeaderSize = request.payload := by
  have hmagic : getLe16 (ipcRequestBytes request) = ipcMagic := by
    rw [ipcRequestBytes, List.append_assoc, List.append_assoc, getLe16_putLe16]
  have hword : getLe32 ((ipcRequestBytes request).drop 4) = request.payload.length.toUInt32 :=
    getLe32_putLe32 _ request.payload
  refine ⟨validateHeader_eq_ok.mpr ⟨?_, hmagic, rfl⟩, rfl, ?_, rfl⟩
  · rw [ipcRequestBytes_length]
    exact Nat.le_add_right _ _
  · rw [hword, payloadLength_toNat request.payload_le]

/-- What the decoder sees in an encoded response. -/
theorem ipcResponseBytes_fields (response : IpcResponse) :
    validateHeader (ipcResponseBytes response) ipcResponseHeaderSize = .ok () ∧
      byteAt (ipcResponseBytes response) 3 = response.command ∧
      getLe32 ((ipcResponseBytes response).drop 4) = response.status.toUInt32 ∧
      (getLe32 ((ipcResponseBytes response).drop 8)).toNat = response.payload.length ∧
      (ipcResponseBytes response).drop ipcResponseHeaderSize = response.payload := by
  have hmagic : getLe16 (ipcResponseBytes response) = ipcMagic := by
    simp only [ipcResponseBytes, List.append_assoc, getLe16_putLe16]
  have hstatus : getLe32 ((ipcResponseBytes response).drop 4) = response.status.toUInt32 :=
    getLe32_putLe32 _ (putLe32 response.payload.length.toUInt32 ++ response.payload)
  have hword : getLe32 ((ipcResponseBytes response).drop 8) = response.payload.length.toUInt32 :=
    getLe32_putLe32 _ response.payload
  refine ⟨validateHeader_eq_ok.mpr ⟨?_, hmagic, rfl⟩, rfl, hstatus, ?_, rfl⟩
  · rw [ipcResponseBytes_length]
    exact Nat.le_add_right _ _
  · rw [hword, payloadLength_toNat response.payload_le]

theorem ipcDecodeRequest_bytes (request : IpcRequest) :
    ipcDecodeRequest (ipcRequestBytes request) = .ok request := by
  obtain ⟨hvalid, hcommand, hlength, hpayload⟩ := ipcRequestBytes_fields request
  have hle := request.payload_le
  simp only [ipcDecodeRequest, hvalid, hcommand, hlength, hpayload, ipcRequestBytes_length]
  change (if _ : _ then _ else _) = _
  rw [dif_neg (by omega), dif_neg (by omega)]

theorem ipcDecodeResponse_bytes (response : IpcResponse) :
    ipcDecodeResponse (ipcResponseBytes response) = .ok response := by
  obtain ⟨hvalid, hcommand, hstatus, hlength, hpayload⟩ := ipcResponseBytes_fields response
  have hle := response.payload_le
  simp only [ipcDecodeResponse, hvalid, hcommand, hstatus, hlength, hpayload,
    ipcResponseBytes_length]
  change (if _ : _ then _ else _) = _
  rw [dif_neg (by omega), dif_neg (by omega)]
  rfl

/-- Every field of an accepted request is written back as the bytes it was read
from. -/
theorem ipcDecodeRequest_inv {data : List UInt8} {request : IpcRequest}
    (h : ipcDecodeRequest data = .ok request) : data = ipcRequestBytes request := by
  have hsize : ipcRequestHeaderSize = 8 := rfl
  obtain ⟨hvalid, _, hlength, hcommand, hpayload⟩ := ipcDecodeRequest_eq_ok h
  obtain ⟨hshort, hmagic, hversion⟩ := validateHeader_eq_ok.mp hvalid
  have hopening := message_opening (by omega) hmagic hversion
  have hdeclared := putLe32_declared (by omega) hlength
  rw [ipcRequestBytes, hcommand, hpayload, ← hopening, hdeclared, ← List.take_add]
  exact (List.take_append_drop _ _).symm

theorem ipcDecodeResponse_inv {data : List UInt8} {response : IpcResponse}
    (h : ipcDecodeResponse data = .ok response) : data = ipcResponseBytes response := by
  have hsize : ipcResponseHeaderSize = 12 := rfl
  rw [ipcDecodeResponse] at h
  rcases hvalid : validateHeader data ipcResponseHeaderSize with status | valid
  · rw [hvalid] at h
    cases h
  obtain ⟨hshort, hmagic, hversion⟩ := validateHeader_eq_ok.mp hvalid
  rw [hvalid] at h
  change (if _ : _ then _ else _) = _ at h
  split_ifs at h with hlimit hlength
  cases h
  have hopening := message_opening (by omega) hmagic hversion
  have hstatus : putLe32 (getLe32 (data.drop 4)).toInt32.toUInt32 = (data.drop 4).take 4 :=
    putLe32_getLe32_drop (by omega)
  have hdeclared := putLe32_declared (by omega) (not_not.mp hlength)
  simp only [ipcResponseBytes]
  rw [← hopening, hstatus, hdeclared, ← List.take_add, ← List.take_add]
  exact (List.take_append_drop _ _).symm

/-! ## Reads inside the input -/

theorem validateHeaderChecked_eq {data : List UInt8} {headerSize : Nat} (h : 3 ≤ headerSize) :
    validateHeaderChecked data headerSize = some (validateHeader data headerSize) := by
  rw [validateHeaderChecked, validateHeader]
  by_cases hshort : data.length < headerSize
  · rw [if_pos hshort, if_pos hshort]
  rw [if_neg hshort, if_neg hshort, readBytes_eq (by omega), readBytes_eq (by omega)]
  simp only [Option.bind_eq_bind, Option.bind_some, byteAt_drop_take, List.drop_zero,
    getLe16_take (Nat.le_refl 2)]
  split_ifs
  · rfl
  · rfl

/-- The copy of everything behind the header. -/
theorem readBytes_rest {data : List UInt8} {headerSize count : Nat}
    (h : data.length = headerSize + count) :
    readBytes data headerSize count = some (data.drop headerSize) := by
  rw [readBytes_eq (Nat.le_of_eq h.symm), List.take_of_length_le]
  rw [List.length_drop]
  omega

theorem ipcDecodeRequestChecked_eq (data : List UInt8) :
    ipcDecodeRequestChecked data = some (ipcDecodeRequest data) := by
  have hsize : ipcRequestHeaderSize = 8 := rfl
  rw [ipcDecodeRequestChecked, ipcDecodeRequest, validateHeaderChecked_eq (by omega)]
  rcases hvalid : validateHeader data ipcRequestHeaderSize with status | valid
  · rfl
  have hshort := (validateHeader_eq_ok.mp hvalid).1
  rw [readBytes_eq (show 4 + 4 ≤ data.length by omega),
    readBytes_eq (show 3 + 1 ≤ data.length by omega)]
  simp only [Option.bind_eq_bind, Option.bind_some, byteAt_drop_take, getLe32_take (Nat.le_refl 4)]
  change _ = some (if _ : _ then _ else _)
  by_cases hlimit : (getLe32 (data.drop 4)).toNat > ipcMaxPayload
  · rw [if_pos hlimit, dif_pos hlimit]
  rw [if_neg hlimit, dif_neg hlimit, messageSize_eq (by decide) (Nat.le_of_not_lt hlimit)]
  by_cases hlength : data.length = ipcRequestHeaderSize + (getLe32 (data.drop 4)).toNat
  · rw [if_neg (not_not.mpr hlength), dif_neg (not_not.mpr hlength), readBytes_rest hlength]
    exact dif_pos (by rw [List.length_drop]; omega)
  · rw [if_pos hlength, dif_pos hlength]

theorem ipcDecodeResponseChecked_eq (data : List UInt8) :
    ipcDecodeResponseChecked data = some (ipcDecodeResponse data) := by
  have hsize : ipcResponseHeaderSize = 12 := rfl
  rw [ipcDecodeResponseChecked, ipcDecodeResponse, validateHeaderChecked_eq (by omega)]
  rcases hvalid : validateHeader data ipcResponseHeaderSize with status | valid
  · rfl
  have hshort := (validateHeader_eq_ok.mp hvalid).1
  rw [readBytes_eq (show 8 + 4 ≤ data.length by omega),
    readBytes_eq (show 3 + 1 ≤ data.length by omega),
    readBytes_eq (show 4 + 4 ≤ data.length by omega)]
  simp only [Option.bind_eq_bind, Option.bind_some, byteAt_drop_take, getLe32_take (Nat.le_refl 4)]
  change _ = some (if _ : _ then _ else _)
  by_cases hlimit : (getLe32 (data.drop 8)).toNat > ipcMaxPayload
  · rw [if_pos hlimit, dif_pos hlimit]
  rw [if_neg hlimit, dif_neg hlimit, messageSize_eq (by decide) (Nat.le_of_not_lt hlimit)]
  by_cases hlength : data.length = ipcResponseHeaderSize + (getLe32 (data.drop 8)).toNat
  · rw [if_neg (not_not.mpr hlength), dif_neg (not_not.mpr hlength), readBytes_rest hlength]
    exact dif_pos (by rw [List.length_drop]; omega)
  · rw [if_pos hlength, dif_pos hlength]

/-! ## The codecs -/

/-- Encoding into a buffer that is large enough and decoding gives the message
back, for requests and for responses with any status.  A string that a decoder
accepts is the encoding of the message it returns.  No access of a decoder is
outside of its input or of the message. -/
theorem ipc_codecs_inverse :
    (∀ (request : IpcRequest) (capacity : Nat),
      ipcRequestHeaderSize + request.payload.length ≤ capacity →
      ∃ encoded, ipcEncodeRequest request capacity = .ok encoded ∧
        ipcDecodeRequest encoded = .ok request) ∧
    (∀ (response : IpcResponse) (capacity : Nat),
      ipcResponseHeaderSize + response.payload.length ≤ capacity →
      ∃ encoded, ipcEncodeResponse response capacity = .ok encoded ∧
        ipcDecodeResponse encoded = .ok response) ∧
    (∀ (data : List UInt8) (request : IpcRequest), ipcDecodeRequest data = .ok request →
      ipcEncodeRequest request data.length = .ok data) ∧
    (∀ (data : List UInt8) (response : IpcResponse), ipcDecodeResponse data = .ok response →
      ipcEncodeResponse response data.length = .ok data) ∧
    ∀ data : List UInt8, ipcDecodeRequestChecked data = some (ipcDecodeRequest data) ∧
      ipcDecodeResponseChecked data = some (ipcDecodeResponse data) := by
  refine ⟨?_, ?_, ?_, ?_, ?_⟩
  · intro request capacity hcapacity
    exact ⟨_, ipcEncodeRequest_eq request hcapacity, ipcDecodeRequest_bytes request⟩
  · intro response capacity hcapacity
    exact ⟨_, ipcEncodeResponse_eq response hcapacity, ipcDecodeResponse_bytes response⟩
  · intro data request h
    obtain rfl := ipcDecodeRequest_inv h
    exact ipcEncodeRequest_eq request (ipcRequestBytes_length request).ge
  · intro data response h
    obtain rfl := ipcDecodeResponse_inv h
    exact ipcEncodeResponse_eq response (ipcResponseBytes_length response).ge
  · intro data
    exact ⟨ipcDecodeRequestChecked_eq data, ipcDecodeResponseChecked_eq data⟩

/-- A response with the status `DEVMGR_ERROR_TIMEOUT` and a payload of three
bytes. -/
theorem ipc_codecs_inverse_timeout :
    ∃ encoded, ipcEncodeResponse ⟨0x01, -7, [1, 2, 3], by decide⟩ 15 = .ok encoded ∧
      ipcDecodeResponse encoded = .ok ⟨0x01, -7, [1, 2, 3], by decide⟩ :=
  ipc_codecs_inverse.2.1 ⟨0x01, -7, [1, 2, 3], by decide⟩ 15 (by decide)

end Devmgr
