import DeviceManager.Ipc.RoundTrip
import DeviceManager.Devctl.Client

/-!
# One exchange, read in pieces

`read_all` is called twice for a response, for the header and for the payload it declares.
Neither call depends on how the bytes arrive, so `exchange` is a function of the stream and of
its end (`exchange_written`, `responseOf`).

* `exchange_done_iff`: it gives a response exactly if the request was written whole and the
  stream begins with the bytes of that response.
* `responseOf_cut`: behind a part of a response it waits, or fails as the stream ends.
-/

namespace Devctl

open Devmgr Transfer

/-! ## Reads -/

/-- What a read behind the stream comes to. -/
def ended {α : Type} (reads : List (Arrival UInt8)) : CallResult α :=
  match ending reads with
  | .closed => .failed .disconnected
  | .failed => .failed .io
  | _ => .waiting

/-- The end of a stream is never a result. -/
theorem ended_ne_done {α : Type} (reads : List (Arrival UInt8)) (value : α) :
    ended reads ≠ .done value := by
  unfold ended
  split
  · exact nofun
  · exact nofun
  · exact nofun

theorem readAll_short {reads : List (Arrival UInt8)} {length : Nat}
    (h : (stream reads).length < length) : readAll reads length = ended reads := by
  unfold readAll ended
  rw [fetch_short h]
  split
  · rename_i hwaiting
    rw [hwaiting]
  · rename_i hclosed
    rw [hclosed]
  · rename_i hfailed
    rw [hfailed]
  · rename_i data rest hwhole
    exact absurd hwhole (ending_ne_whole reads data rest)

theorem readAll_whole {reads : List (Arrival UInt8)} {length : Nat}
    (h : length ≤ (stream reads).length) :
    ∃ rest, readAll reads length = .done ((stream reads).take length, rest) ∧
      stream rest = (stream reads).drop length ∧ ending rest = ending reads := by
  obtain ⟨rest, hfetch, hstream, hending⟩ := fetch_whole h
  exact ⟨rest, by rw [readAll, hfetch], hstream, hending⟩

/-! ## The exchange -/

/-- The length that the header of a response declares. -/
def declared (bytes : List UInt8) : Nat := (getLe32 (bytes.drop 8)).toNat

/-- What a stream is as a response; `behind` is what comes behind a stream that is too short
for one. -/
def responseOf (bytes : List UInt8) (behind : CallResult IpcResponse) : CallResult IpcResponse :=
  if bytes.length < ipcResponseHeaderSize then behind
  else if declared bytes > ipcMaxPayload then .failed .limit
  else if bytes.length < ipcResponseHeaderSize + declared bytes then behind
  else .ofExcept (ipcDecodeResponse (bytes.take (ipcResponseHeaderSize + declared bytes)))

/-- The header alone declares the length. -/
theorem declared_append {bytes : List UInt8} (h : ipcResponseHeaderSize ≤ bytes.length)
    (rest : List UInt8) : declared (bytes ++ rest) = declared bytes := by
  rw [ipcResponseHeaderSize] at h
  rw [declared, List.drop_append_of_le_length (by omega),
    getLe32_append (by rw [List.length_drop]; omega)]
  rfl

/-- A request always fits into the buffer of `exchange`. -/
theorem exchange_written (request : IpcRequest) (writes : List Attempt)
    (reads : List (Arrival UInt8)) :
    exchange true writes reads request.command request.payload =
      (writeAll writes (ipcRequestBytes request)).1.bind fun _ =>
        responseOf (stream reads) (ended reads) := by
  have hsize := request.payload_le
  have hencode : ipcEncodeRequest request (ipcResponseHeaderSize + ipcMaxPayload) =
      .ok (ipcRequestBytes request) :=
    ipcEncodeRequest_eq request (by simp only [ipcRequestHeaderSize, ipcResponseHeaderSize]; omega)
  unfold exchange
  rw [dif_neg (Nat.not_lt.mpr hsize), if_neg (not_not.mpr rfl)]
  change ((CallResult.ofExcept (ipcEncodeRequest request _)).bind fun bytes =>
    (writeAll writes bytes).1.bind fun _ => (readAll reads ipcResponseHeaderSize).bind _) = _
  rw [hencode]
  change ((writeAll writes (ipcRequestBytes request)).1.bind fun _ =>
    (readAll reads ipcResponseHeaderSize).bind _) = _
  refine congrArg (CallResult.bind _) (funext fun _ => ?_)
  unfold responseOf
  by_cases hheader : (stream reads).length < ipcResponseHeaderSize
  · rw [readAll_short hheader, if_pos hheader]
    unfold ended
    split <;> rfl
  obtain ⟨rest, hread, hrest, hending⟩ := readAll_whole (Nat.le_of_not_lt hheader)
  rw [hread, if_neg hheader]
  change (if declared ((stream reads).take ipcResponseHeaderSize) > ipcMaxPayload then _
    else (readAll rest (declared ((stream reads).take ipcResponseHeaderSize))).bind _) = _
  have hdeclared : declared ((stream reads).take ipcResponseHeaderSize) =
      declared (stream reads) := by
    conv_rhs => rw [← List.take_append_drop ipcResponseHeaderSize (stream reads)]
    exact (declared_append (by rw [List.length_take]; omega) _).symm
  rw [hdeclared]
  by_cases hlimit : declared (stream reads) > ipcMaxPayload
  · rw [if_pos hlimit, if_pos hlimit]
  rw [if_neg hlimit, if_neg hlimit]
  by_cases hshort : (stream reads).length < ipcResponseHeaderSize + declared (stream reads)
  · have hbody : (stream rest).length < declared (stream reads) := by
      rw [hrest, List.length_drop]
      omega
    rw [readAll_short hbody, if_pos hshort, ended, ended, hending]
    split <;> rfl
  · have hbody : declared (stream reads) ≤ (stream rest).length := by
      rw [hrest, List.length_drop]
      omega
    obtain ⟨behind, hread', _⟩ := readAll_whole hbody
    rw [hread', if_neg hshort, hrest]
    exact congrArg (fun bytes => CallResult.ofExcept (ipcDecodeResponse bytes)) List.take_add.symm

/-- The bytes of a response declare its length, also as the front of a stream. -/
theorem declared_response (response : IpcResponse) (rest : List UInt8) :
    declared (ipcResponseBytes response ++ rest) = response.payload.length := by
  have hheader : ipcResponseHeaderSize ≤ (ipcResponseBytes response).length := by
    rw [ipcResponseBytes_length]
    exact Nat.le_add_right _ _
  rw [declared_append hheader]
  exact (ipcResponseBytes_fields response).2.2.2.1

theorem responseOf_done_iff (bytes : List UInt8) (reads : List (Arrival UInt8))
    (response : IpcResponse) :
    responseOf bytes (ended reads) = .done response ↔ ipcResponseBytes response <+: bytes := by
  constructor
  · intro h
    unfold responseOf at h
    split_ifs at h with hheader hlimit hshort
    · exact absurd h (ended_ne_done _ _)
    · exact absurd h (ended_ne_done _ _)
    · rcases hdecode : ipcDecodeResponse (bytes.take (ipcResponseHeaderSize + declared bytes))
        with status | decoded
      · rw [hdecode] at h
        cases h
      · rw [hdecode] at h
        cases h
        rw [← ipcDecodeResponse_inv hdecode]
        exact List.take_prefix _ _
  · rintro ⟨rest, rfl⟩
    have hsize := response.payload_le
    unfold responseOf
    rw [declared_response, ← ipcResponseBytes_length, List.take_left, ipcDecodeResponse_bytes,
      List.length_append, ipcResponseBytes_length, if_neg (by omega), if_neg (by omega),
      if_neg (by omega)]
    rfl

/-- A part of a response is too short for one. -/
theorem responseOf_cut {bytes : List UInt8} {response : IpcResponse}
    (h : bytes <+: ipcResponseBytes response) (hcut : bytes ≠ ipcResponseBytes response)
    (behind : CallResult IpcResponse) : responseOf bytes behind = behind := by
  have hlength : bytes.length < (ipcResponseBytes response).length :=
    Nat.lt_of_le_of_ne h.length_le fun hsame => hcut (h.eq_of_length hsame)
  obtain ⟨rest, hrest⟩ := h
  rw [ipcResponseBytes_length] at hlength
  unfold responseOf
  by_cases hheader : bytes.length < ipcResponseHeaderSize
  · rw [if_pos hheader]
  have hdeclared : declared bytes = response.payload.length := by
    have hwhole := declared_response response []
    rw [List.append_nil, ← hrest] at hwhole
    rw [← hwhole, declared_append (Nat.le_of_not_lt hheader)]
  have hsize := response.payload_le
  rw [if_neg hheader, hdeclared, if_neg (Nat.not_lt.mpr hsize), if_pos hlength]

/-- In whatever pieces the request is taken and the answer arrives: an exchange gives a response
exactly if all bytes of the request were written and the stream begins with the bytes of this
response. -/
theorem exchange_done_iff (request : IpcRequest) (writes : List Attempt)
    (reads : List (Arrival UInt8)) (response : IpcResponse) :
    exchange true writes reads request.command request.payload = .done response ↔
      (writeAll writes (ipcRequestBytes request)).2 = ipcRequestBytes request ∧
        ipcResponseBytes response <+: stream reads := by
  rw [exchange_written, ← responseOf_done_iff _ reads]
  show _ ↔ (offer writes (ipcRequestBytes request)).2 = _ ∧ _
  rw [← offer_whole_iff]
  unfold writeAll
  dsimp only
  split
  · rename_i hwaiting
    rw [hwaiting]
    exact iff_of_false nofun nofun
  · rename_i hfailed
    rw [hfailed]
    exact iff_of_false nofun fun h => nomatch h.1
  · rename_i hdone
    exact (and_iff_right hdone).symm

end Devctl
