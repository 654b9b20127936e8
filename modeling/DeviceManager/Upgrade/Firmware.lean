import DeviceManager.Common.Primitives

/-!
# Firmware images of `src/upgrade/firmware.c`

What the file system answers is a parameter, `FileView`.  An image that was
opened stands for a mapping of the file; `mapping` tells two mappings apart, in
the way that their addresses and descriptors do.
-/

namespace Devmgr

/-- `DEVMGR_FIRMWARE_MAX_SIZE`. -/
def firmwareMaxSize : Nat := 16 * 1024 * 1024

/-- What `open`, `fstat` and `mmap` find at a path. -/
inductive FileView
  | missing
  | notRegular
  | unmappable (size : Nat)
  | regular (contents : List UInt8)

/-- `struct devmgr_firmware_image`, open. -/
structure FirmwareImage where
  mapping : Nat
  data : List UInt8
  crc32 : UInt32
  deriving DecidableEq

/-- `devmgr_firmware_open`, for a path that is not empty. -/
def firmwareOpen (file : FileView) (mapping : Nat) : Except Status FirmwareImage :=
  match file with
  | .missing => .error .io
  | .notRegular => .error .limit
  | .unmappable size => if size = 0 ∨ size > firmwareMaxSize then .error .limit else .error .io
  | .regular contents =>
    if contents.length = 0 ∨ contents.length > firmwareMaxSize then .error .limit
    else .ok ⟨mapping, contents, Devmgr.crc32 contents⟩

theorem firmwareOpen_mapping {file : FileView} {mapping : Nat} {image : FirmwareImage}
    (h : firmwareOpen file mapping = .ok image) : image.mapping = mapping := by
  unfold firmwareOpen at h
  split at h
  · cases h
  · cases h
  · split at h <;> cases h
  · split at h
    · cases h
    · obtain rfl := Except.ok.inj h
      rfl

end Devmgr
