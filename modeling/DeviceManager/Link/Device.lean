import DeviceManager.Upgrade.Safety
import DeviceManager.Link.Link

/-!
# The simulator at the other end of an upgrade

What the simulator does with each request of an upgrade, stated on `Firmware`, the part
of its state that an upgrade reads and writes.

* `Holds`: the device has the session that `FW_BEGIN` asked for, and the image up to
  its offset.
* `fwBegin_opens`, `fwBegin_continues`, `fwData_programs` and `fwData_repeats`: the reply
  and the firmware that one request leaves, the first time and when it comes again.
-/

namespace Link

open Devmgr

/-- The part of the simulator's state that an upgrade reads and writes. -/
structure Firmware where
  flash : Option (List UInt8)
  expectedCrc : UInt32
  offset : UInt32
  sessionId : UInt32
  chunkSize : UInt16
  version : CString 32
  pendingVersion : CString 32
  bootloaderActive : Bool
  upgrading : Bool
  verified : Bool
  failVerify : Bool

def firmwareOf (device : Simulator.State) : Firmware where
  flash := device.flash
  expectedCrc := device.expectedFirmwareCrc
  offset := device.firmwareOffset
  sessionId := device.firmwareSessionId
  chunkSize := device.firmwareChunkSize
  version := device.firmwareVersion
  pendingVersion := device.pendingVersion
  bootloaderActive := device.bootloaderActive
  upgrading := device.firmwareUpgrading
  verified := device.firmwareVerified
  failVerify := device.failVerify

def Firmware.contents (firmware : Firmware) : List UInt8 := firmware.flash.getD []

/-- The device has a session for the upgrade, with its parameters, and the image up to
the offset. -/
structure Holds (upgrade : Upgrade) (firmware : Firmware) : Prop where
  sessionId_ne : firmware.sessionId ≠ 0
  size : firmware.contents.length = upgrade.imageSize
  crc : firmware.expectedCrc = upgrade.imageCrc
  chunkSize : firmware.chunkSize = upgrade.chunkSize
  version : firmware.pendingVersion.bytes = upgrade.version.bytes
  offset_le : firmware.offset.toNat ≤ upgrade.imageSize
  written : firmware.contents.take firmware.offset.toNat =
    upgrade.imageData.take firmware.offset.toNat

/-- What the simulator needs an upgrade to be: an image of at most 16 MiB with its CRC,
and a version. -/
structure Servable (upgrade : Upgrade) : Prop where
  size_pos : 0 < upgrade.imageSize
  size_le : upgrade.imageSize ≤ firmwareMaxSize
  crc : upgrade.imageCrc = crc32 upgrade.imageData
  chunkSize_ne : upgrade.chunkSize ≠ 0
  version_pos : 0 < upgrade.version.bytes.length

theorem Servable.size_toNat {upgrade : Upgrade} (h : Servable upgrade) :
    upgrade.imageSize.toUInt32.toNat = upgrade.imageSize := by
  have hle := h.size_le
  simp only [firmwareMaxSize] at hle
  simp only [Nat.toUInt32, UInt32.toNat_ofNat']
  omega

/-! ## `FW_BEGIN` -/

/-- The simulator reads the fields of an `FW_BEGIN` as the host wrote them. -/
theorem parseBegin_beginPayload {upgrade : Upgrade} (h : Servable upgrade) :
    ∃ begin, Simulator.parseBegin upgrade.beginPayload = some begin ∧
      begin.imageSize.toNat = upgrade.imageSize ∧ begin.imageCrc = upgrade.imageCrc ∧
      begin.chunkSize = upgrade.chunkSize ∧ begin.version.bytes = upgrade.version.bytes := by
  obtain ⟨hsize, hcrc, hchunk, hdrop⟩ := upgrade.beginPayload_fields
  have hversion : Simulator.versionBytes upgrade.beginPayload = upgrade.version.bytes := by
    rw [Simulator.versionBytes, hdrop, memchrNul_cstring, Option.getD_some, List.take_left]
  have hzero : upgrade.imageSize.toUInt32 ≠ 0 := by
    intro hzero
    have htoNat := h.size_toNat
    rw [hzero] at htoNat
    exact absurd htoNat.symm h.size_pos.ne'
  have hpos := h.version_pos
  have hlt : upgrade.version.bytes.length < 32 := upgrade.version.length_lt
  have hle := upgrade.chunkSize_le
  have hmax := h.size_le
  have hlegal : ¬ (getLe32 upgrade.beginPayload = 0 ∨
      (getLe32 upgrade.beginPayload).toNat > firmwareMaxSize ∨
      getLe16 (upgrade.beginPayload.drop 8) = 0 ∨
      (getLe16 (upgrade.beginPayload.drop 8)).toNat > maxPayload - 8 ∨
      (Simulator.versionBytes upgrade.beginPayload).length = 0 ∨
      (Simulator.versionBytes upgrade.beginPayload).length ≥ 32) := by
    rw [hsize, hchunk, hversion, h.size_toNat]
    simp only [not_or]
    exact ⟨hzero, by omega, h.chunkSize_ne, by omega, by omega, by omega⟩
  unfold Simulator.parseBegin
  dsimp only
  rw [dif_neg hlegal]
  refine ⟨_, rfl, ?_, hcrc, hchunk, hversion⟩
  show (getLe32 upgrade.beginPayload).toNat = upgrade.imageSize
  rw [hsize, h.size_toNat]

/-- An `FW_BEGIN` has its eleven bytes. -/
theorem Servable.beginPayload_length {upgrade : Upgrade} (h : Servable upgrade) :
    ¬ upgrade.beginPayload.length < 11 := by
  have hpos := h.version_pos
  simp only [Upgrade.beginPayload, List.length_append, putLe32_length, putLe16_length,
    List.length_singleton]
  omega

section Serve

variable {env : Simulator.Env} {request : Frame} {device : Simulator.State} {upgrade : Upgrade}

/-- The first `FW_BEGIN` opens the session at offset zero. -/
theorem fwBegin_opens (h : Servable upgrade) (hpayload : request.payload = upgrade.beginPayload)
    (hbootloader : device.bootloaderActive = true) (hidle : device.firmwareUpgrading = false)
    {memory : Nat → UInt8} (hmalloc : env.malloc = some memory) :
    ∃ sessionId device', Simulator.fwBegin env request device = (.words sessionId 0, device') ∧
      (firmwareOf device').sessionId = sessionId ∧ Holds upgrade (firmwareOf device') ∧
      (firmwareOf device').offset = 0 ∧ (firmwareOf device').upgrading = true ∧
      (firmwareOf device').bootloaderActive = true ∧
      (firmwareOf device').failVerify = (firmwareOf device).failVerify := by
  obtain ⟨begin, hparse, hsize, hcrc, hchunk, hversion⟩ := parseBegin_beginPayload h
  have hready : ¬ (¬ device.bootloaderActive = true ∨ request.payload.length < 11) := by
    rw [hpayload]
    simp only [not_or, not_not]
    exact ⟨hbootloader, h.beginPayload_length⟩
  have hnew : ¬ device.continues begin := by
    intro hcontinues
    exact absurd (hidle.symm.trans hcontinues.1) Bool.false_ne_true
  unfold Simulator.fwBegin
  rw [if_neg hready, hpayload, hparse]
  dsimp only
  rw [if_neg hnew, hmalloc]
  refine ⟨_, _, rfl, rfl, ?_, rfl, rfl, hbootloader, rfl⟩
  refine ⟨?_, ?_, hcrc, hchunk, hversion, Nat.zero_le _, rfl⟩
  · show Simulator.sessionAfter device.firmwareSessionId ≠ 0
    unfold Simulator.sessionAfter
    split
    · decide
    · assumption
  · show ((List.range begin.imageSize.toNat).map memory).length = upgrade.imageSize
    rw [List.length_map, List.length_range, hsize]

variable (env) in
/-- A later copy finds the session in progress and changes nothing. -/
theorem fwBegin_continues (h : Servable upgrade)
    (hpayload : request.payload = upgrade.beginPayload)
    (hholds : Holds upgrade (firmwareOf device)) (hupgrading : device.firmwareUpgrading = true) :
    (Simulator.fwBegin env request device).2 = device ∧
      (device.bootloaderActive = true → Simulator.fwBegin env request device =
        (.words device.firmwareSessionId device.firmwareOffset, device)) := by
  obtain ⟨begin, hparse, hsize, hcrc, hchunk, hversion⟩ := parseBegin_beginPayload h
  have hcontinues : device.continues begin :=
    ⟨hupgrading, hholds.size.trans hsize.symm, hholds.crc.trans hcrc.symm,
      hholds.chunkSize.trans hchunk.symm, CString.ext (hholds.version.trans hversion.symm)⟩
  unfold Simulator.fwBegin
  by_cases hbootloader : device.bootloaderActive = true
  · have hready : ¬ (¬ device.bootloaderActive = true ∨ request.payload.length < 11) := by
      rw [hpayload]
      simp only [not_or, not_not]
      exact ⟨hbootloader, h.beginPayload_length⟩
    rw [if_neg hready, hpayload, hparse]
    dsimp only
    rw [if_pos hcontinues]
    exact ⟨rfl, fun _ => rfl⟩
  · rw [if_pos (.inl hbootloader)]
    exact ⟨rfl, fun hactive => absurd hactive hbootloader⟩

/-! ## `FW_DATA` -/

/-- An `FW_DATA` with the image between two offsets. -/
structure IsData (upgrade : Upgrade) (request : Frame) (first last : Nat) : Prop where
  type : request.type = Msg.fwData
  payload : request.payload = putLe32 upgrade.sessionId ++ putLe32 first.toUInt32 ++
    (upgrade.imageData.drop first).take (last - first)
  lt : first < last
  le : last ≤ upgrade.imageSize
  chunk : last - first ≤ upgrade.chunkSize.toNat

/-- The fields that the simulator reads. -/
theorem IsData.fields {first last : Nat} (h : IsData upgrade request first last)
    (hservable : Servable upgrade) :
    getLe32 request.payload = upgrade.sessionId ∧
      (getLe32 (request.payload.drop 4)).toNat = first ∧
      request.payload.drop 8 = (upgrade.imageData.drop first).take (last - first) ∧
      (request.payload.drop 8).length = last - first ∧ ¬ request.payload.length ≤ 8 := by
  have hlt := h.lt
  have hle := h.le
  have hmax := hservable.size_le
  have hsplit : request.payload = putLe32 upgrade.sessionId ++ (putLe32 first.toUInt32 ++
      (upgrade.imageData.drop first).take (last - first)) := by
    rw [h.payload, List.append_assoc]
  have hdata : request.payload.drop 8 = (upgrade.imageData.drop first).take (last - first) := by
    rw [hsplit]
    rfl
  have hlength : (request.payload.drop 8).length = last - first := by
    rw [hdata, List.length_take, List.length_drop]
    rw [Upgrade.imageSize] at hle
    omega
  refine ⟨?_, ?_, hdata, hlength, ?_⟩
  · rw [hsplit]
    exact getLe32_putLe32 _ _
  · rw [hsplit]
    have hoffset : getLe32 (putLe32 first.toUInt32 ++
        (upgrade.imageData.drop first).take (last - first)) = first.toUInt32 :=
      getLe32_putLe32 _ _
    show (getLe32 (putLe32 first.toUInt32 ++
      (upgrade.imageData.drop first).take (last - first))).toNat = first
    rw [hoffset]
    simp only [firmwareMaxSize] at hmax
    simp only [Nat.toUInt32, UInt32.toNat_ofNat']
    omega
  · rw [List.length_drop] at hlength
    omega

/-- Two memories that agree up to a bound agree on every piece before it. -/
theorem piece_eq_of_take_eq {memory image : List UInt8} {bound first last : Nat}
    (h : memory.take bound = image.take bound) (hlast : last ≤ bound) :
    (memory.drop first).take (last - first) = (image.drop first).take (last - first) := by
  have hpiece : ∀ bytes : List UInt8, (bytes.drop first).take (last - first) =
      ((bytes.take bound).take last).drop first := by
    intro bytes
    rw [List.take_take, Nat.min_eq_left hlast, List.drop_take]
  rw [hpiece, hpiece, h]

/-- A piece of the image written at the end of what is there already. -/
theorem take_program {memory image : List UInt8} {first last : Nat} (hlt : first ≤ last)
    (hle : last ≤ image.length) (hlength : memory.length = image.length)
    (h : memory.take first = image.take first) :
    (memory.take first ++ (image.drop first).take (last - first) ++ memory.drop last).take last =
      image.take last := by
  have hpiece : ((image.drop first).take (last - first)).length = last - first := by
    rw [List.length_take, List.length_drop]
    omega
  have hfront : (memory.take first ++ (image.drop first).take (last - first)).length = last := by
    rw [List.length_append, List.length_take, hpiece]
    omega
  rw [List.take_left' hfront, h, ← List.take_add, Nat.add_sub_cancel' hlt]

theorem injectOutage_firmware (env : Simulator.Env) (device : Simulator.State) :
    firmwareOf (device.injectOutage env) = firmwareOf device := by
  unfold Simulator.State.injectOutage
  split
  · simp only [firmwareOf]
  · rfl

/-- The checks of `FW_DATA` on a piece of the image. -/
theorem IsData.passes {first last : Nat} (h : IsData upgrade request first last)
    (hservable : Servable upgrade) (hholds : Holds upgrade (firmwareOf device))
    (hsession : device.firmwareSessionId = upgrade.sessionId)
    (hupgrading : device.firmwareUpgrading = true) :
    ¬ (¬ device.firmwareUpgrading = true ∨ request.payload.length ≤ 8 ∨
        getLe32 request.payload ≠ device.firmwareSessionId) ∧
      ¬ ((request.payload.drop 8).length > device.firmwareChunkSize.toNat ∨
        (getLe32 (request.payload.drop 4)).toNat > device.flashSize ∨
        (request.payload.drop 8).length >
          device.flashSize - (getLe32 (request.payload.drop 4)).toNat) := by
  obtain ⟨hid, hoffset, _, hlength, hlong⟩ := h.fields hservable
  have hlt := h.lt
  have hle := h.le
  have hchunk := h.chunk
  have hsize : device.flashSize = upgrade.imageSize := hholds.size
  have hdevice : device.firmwareChunkSize = upgrade.chunkSize := hholds.chunkSize
  refine ⟨?_, ?_⟩
  · simp only [not_or, not_not]
    exact ⟨hupgrading, hlong, hid.trans hsession.symm⟩
  · rw [hlength, hoffset, hsize, hdevice]
    simp only [not_or]
    exact ⟨by omega, by omega, by omega⟩

variable (env) in
/-- A piece that the device has already is answered with the offset. -/
theorem fwData_repeats {first last : Nat} (h : IsData upgrade request first last)
    (hservable : Servable upgrade) (hholds : Holds upgrade (firmwareOf device))
    (hsession : device.firmwareSessionId = upgrade.sessionId)
    (hupgrading : device.firmwareUpgrading = true)
    (hlast : last ≤ device.firmwareOffset.toNat) :
    Simulator.fwData env request device =
      (.word device.firmwareOffset, device.injectOutage env) := by
  obtain ⟨hready, hlegal⟩ := h.passes hservable hholds hsession hupgrading
  obtain ⟨_, hoffset, hdata, hlength, _⟩ := h.fields hservable
  have hlt := h.lt
  have hbefore : getLe32 (request.payload.drop 4) < device.firmwareOffset := by
    rw [UInt32.lt_iff_toNat_lt, hoffset]
    omega
  have hsame : ¬ ((getLe32 (request.payload.drop 4)).toNat + (request.payload.drop 8).length >
      device.firmwareOffset.toNat ∨
      (device.contents.drop (getLe32 (request.payload.drop 4)).toNat).take
        (request.payload.drop 8).length ≠ request.payload.drop 8) := by
    rw [hoffset, hlength, hdata]
    simp only [not_or, not_not]
    exact ⟨by omega, piece_eq_of_take_eq hholds.written hlast⟩
  unfold Simulator.fwData
  rw [if_neg hready]
  dsimp only
  rw [if_neg hlegal, if_pos hbefore, if_neg hsame]

/-- The flash after the next piece was written. -/
theorem Holds.program {first last : Nat} (h : IsData upgrade request first last)
    (hservable : Servable upgrade) (hholds : Holds upgrade (firmwareOf device))
    (hfirst : first = device.firmwareOffset.toNat) :
    Holds upgrade (firmwareOf (device.program first (request.payload.drop 8))) ∧
      (device.program first (request.payload.drop 8)).firmwareOffset.toNat = last := by
  obtain ⟨_, _, hdata, hlength, _⟩ := h.fields hservable
  have hlt := h.lt
  have hle := h.le
  have hmax := hservable.size_le
  have hsize : device.contents.length = upgrade.imageData.length := hholds.size
  have hlast : (device.program first (request.payload.drop 8)).firmwareOffset.toNat = last := by
    show (device.firmwareOffset + (request.payload.drop 8).length.toUInt32).toNat = last
    rw [hlength]
    simp only [firmwareMaxSize] at hmax
    simp only [UInt32.toNat_add, Nat.toUInt32, UInt32.toNat_ofNat']
    omega
  -- The image is not empty, so there is a flash.
  obtain ⟨flash, hflash⟩ : ∃ flash, device.flash = some flash := by
    have hpos := hservable.size_pos
    rcases hnone : device.flash with _ | flash
    · rw [Simulator.State.contents, hnone, Option.getD_none, List.length_nil] at hsize
      rw [Upgrade.imageSize] at hpos
      omega
    · exact ⟨flash, rfl⟩
  have hcontents : device.contents = flash := by
    rw [Simulator.State.contents, hflash, Option.getD_some]
  have hprogrammed : (firmwareOf (device.program first (request.payload.drop 8))).contents =
      flash.take first ++ (upgrade.imageData.drop first).take (last - first) ++
        flash.drop last := by
    show (device.flash.map fun flash => flash.take first ++ request.payload.drop 8 ++
      flash.drop (first + (request.payload.drop 8).length)).getD [] = _
    rw [hflash, hlength, hdata, Nat.add_sub_cancel' hlt.le]
    rfl
  have hwritten : flash.take first = upgrade.imageData.take first := by
    have hold : device.contents.take device.firmwareOffset.toNat =
      upgrade.imageData.take device.firmwareOffset.toNat := hholds.written
    rw [hcontents, ← hfirst] at hold
    exact hold
  rw [hcontents] at hsize
  rw [Upgrade.imageSize] at hle
  refine ⟨⟨hholds.sessionId_ne, ?_, hholds.crc, hholds.chunkSize, hholds.version, ?_, ?_⟩, hlast⟩
  · rw [hprogrammed]
    simp only [List.length_append, List.length_take, List.length_drop, Upgrade.imageSize]
    omega
  · show (device.program first (request.payload.drop 8)).firmwareOffset.toNat ≤ _
    rw [hlast]
    exact hle
  · show (firmwareOf (device.program first (request.payload.drop 8))).contents.take
      (device.program first (request.payload.drop 8)).firmwareOffset.toNat = _
    rw [hprogrammed, hlast]
    show _ = upgrade.imageData.take
      (device.program first (request.payload.drop 8)).firmwareOffset.toNat
    rw [hlast]
    exact take_program hlt.le hle hsize hwritten

variable (env) in
/-- The next piece is written. -/
theorem fwData_programs {first last : Nat} (h : IsData upgrade request first last)
    (hservable : Servable upgrade) (hholds : Holds upgrade (firmwareOf device))
    (hsession : device.firmwareSessionId = upgrade.sessionId)
    (hupgrading : device.firmwareUpgrading = true)
    (hfirst : first = device.firmwareOffset.toNat) :
    Simulator.fwData env request device =
      (.word (device.program first (request.payload.drop 8)).firmwareOffset,
        (device.program first (request.payload.drop 8)).injectOutage env) := by
  obtain ⟨hready, hlegal⟩ := h.passes hservable hholds hsession hupgrading
  obtain ⟨_, hoffset, _, _, _⟩ := h.fields hservable
  have hequal : getLe32 (request.payload.drop 4) = device.firmwareOffset :=
    UInt32.toNat_inj.mp (hoffset.trans hfirst)
  have hafter : ¬ getLe32 (request.payload.drop 4) < device.firmwareOffset := by
    rw [hequal]
    exact UInt32.lt_irrefl _
  unfold Simulator.fwData
  rw [if_neg hready]
  dsimp only
  rw [if_neg hlegal, if_neg hafter, if_pos hequal, hoffset]

end Serve

end Link
