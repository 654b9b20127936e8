import DeviceManager.Lib.Transition
import DeviceManager.Stm32.Update

/-!
# What the bootloader activates

The flash as a memory behind the hooks, with hooks that may fail.  `Faults` says
for one request how the hooks end: a failed erase leaves any contents, a failed
write leaves any contents in its target range.  The memory keeps a record of
every call of `activate`, with the CRC that the flash has at that moment.

The invariant is `VerifiedIntact`: in `VERIFIED` the flash has the CRC that was
announced.  Every handler keeps it except `handle_begin`, whose failed erase
returns with the state untouched and the flash in pieces.
`activation_integrity` is therefore about the runs in which no failed erase
breaks a verified image, and `activation_after_failed_erase` is a run in which
one does.
-/

namespace Stm32

open Devmgr

/-- A call of `activate`: its arguments, and the CRC of the flash at the call. -/
structure Activation where
  imageSize : UInt32
  imageCrc : UInt32
  flashCrc : UInt32
  deriving DecidableEq

/-- The flash: its contents, and the calls of `activate` so far. -/
structure Flash where
  memory : Nat → UInt8
  activations : List Activation

/-- The bytes `memory[offset .. offset + length)`. -/
def readMemory (memory : Nat → UInt8) (offset length : Nat) : List UInt8 :=
  (List.range length).map fun i => memory (offset + i)

/-- `memory` with `data` at `offset`. -/
def writeMemory (memory : Nat → UInt8) (offset : Nat) (data : List UInt8) : Nat → UInt8 :=
  fun address =>
    if offset ≤ address ∧ address < offset + data.length then data.getD (address - offset) 0
    else memory address

/-- The CRC of the first `size` bytes. -/
def flashCrc (memory : Nat → UInt8) (size : UInt32) : UInt32 :=
  crc32 (readMemory memory 0 size.toNat)

/-- How the hooks end during one request: the returned codes, the contents that a
failed erase leaves, and what a failed write leaves in its target range. -/
structure Faults where
  erase : Int
  erased : Nat → UInt8
  write : Int
  written : Nat → UInt8
  read : UInt32 → Int
  activate : Int

/-- No hook fails. -/
def Faults.none : Faults := ⟨0, fun _ => 0, 0, fun _ => 0, fun _ => 0, 0⟩

/-- The hooks over the memory. -/
def memoryFlash (faults : Faults) : FlashOps Flash where
  erase flash size :=
    (faults.erase,
      { flash with
        memory :=
          if faults.erase = 0 then
            fun address => if address < size.toNat then 0xFF else flash.memory address
          else faults.erased })
  write flash offset data :=
    (faults.write,
      { flash with
        memory := writeMemory flash.memory offset.toNat
          (if faults.write = 0 then data
           else readMemory faults.written offset.toNat data.length) })
  read flash offset length :=
    (faults.read offset, readMemory flash.memory offset.toNat length, flash)
  crc32 flash size := (flashCrc flash.memory size, flash)
  activate flash size crc _ :=
    (faults.activate,
      { flash with
        activations := flash.activations ++ [⟨size, crc, flashCrc flash.memory size⟩] })
  reboot flash := flash

/-- The bootloader and its flash. -/
structure Bootloader where
  update : UpdateContext
  flash : Flash

/-- A request, the room for its response, and how the hooks end. -/
structure UpdateEvent where
  request : FrameView
  capacity : Nat
  faults : Faults

def Handled.bootloader (handled : Handled Flash) : Bootloader :=
  ⟨handled.update, handled.flash⟩

def Bootloader.handle (s : Bootloader) (e : UpdateEvent) : Bootloader :=
  (updateHandle (memoryFlash e.faults) s.update s.flash e.request e.capacity).bootloader

/-- Any requests from `stm32_update_init`, over a flash with any contents. -/
def bootloaderSystem : System Bootloader UpdateEvent where
  init s := s.update = updateInit ∧ s.flash.activations = []
  step s e := some (s.handle e)

/-! ## The invariant -/

/-- A verified image is in the flash, and so was every activated one. -/
structure Bootloader.VerifiedIntact (s : Bootloader) : Prop where
  verified : s.update.state = .verified →
    flashCrc s.flash.memory s.update.imageSize = s.update.imageCrc
  activated : ∀ activation ∈ s.flash.activations, activation.flashCrc = activation.imageCrc

/-- The step does not run a failing erase over a verified image whose CRC then
differs. -/
def KeepsVerifiedImage (s : Bootloader) (e : UpdateEvent) : Prop :=
  s.update.state = .verified → e.request.type = Msg.fwBegin →
    (parseBegin e.request.payload).isSome → e.faults.erase ≠ 0 →
    flashCrc e.faults.erased s.update.imageSize = s.update.imageCrc

section Handlers

variable {s : Bootloader} {request : FrameView} {capacity : Nat} {faults : Faults}

/-- A response on its own changes nothing. -/
theorem respond_intact (h : s.VerifiedIntact) (type : UInt8) (payload : List UInt8) :
    (respond s.update s.flash request capacity type payload).bootloader.VerifiedIntact :=
  h

/-- Outside of `VERIFIED`, the contents of the flash do not matter. -/
theorem respond_not_verified {update : UpdateContext} {flash : Flash}
    (h : s.VerifiedIntact) (hstate : update.state ≠ .verified)
    (hactivations : flash.activations = s.flash.activations) (type : UInt8)
    (payload : List UInt8) :
    (respond update flash request capacity type payload).bootloader.VerifiedIntact := by
  refine ⟨fun hverified => absurd hverified hstate, ?_⟩
  show ∀ activation ∈ flash.activations, activation.flashCrc = activation.imageCrc
  rw [hactivations]
  exact h.activated

theorem duplicateMatches_flash (flash : Flash) (offset : UInt32) (data : List UInt8) :
    (duplicateMatches (memoryFlash faults) flash offset data).2 = flash := by
  fun_induction duplicateMatches (memoryFlash faults) flash offset data with
  | case1 => rfl
  | case2 => rfl
  | case3 flash offset data _ count read _ ih => exact ih

theorem handleBegin_intact (h : s.VerifiedIntact)
    (hkeeps : s.update.state = .verified → (parseBegin request.payload).isSome →
      faults.erase ≠ 0 → flashCrc faults.erased s.update.imageSize = s.update.imageCrc) :
    (handleBegin (memoryFlash faults) s.update s.flash request
      capacity).bootloader.VerifiedIntact := by
  unfold handleBegin
  split
  · exact respond_intact h _ _
  · rename_i begin hparse
    dsimp only [memoryFlash]
    split
    · exact respond_intact h _ _
    · by_cases herase : faults.erase = 0
      · -- A new transfer starts, and nothing is verified any more.
        rw [if_neg (not_not.mpr herase)]
        refine respond_not_verified h ?_ ?_ _ _
        · simp
        · rfl
      · rw [if_pos herase, if_neg herase]
        refine ⟨fun hverified => ?_, h.activated⟩
        exact hkeeps hverified (by rw [hparse]; rfl) herase

theorem handleData_intact (h : s.VerifiedIntact) :
    (handleData (memoryFlash faults) s.update s.flash request
      capacity).bootloader.VerifiedIntact := by
  unfold handleData
  by_cases hguard : s.update.state ≠ .receiving ∨ request.payload.length ≤ 8 ∨
      getLe32 request.payload ≠ s.update.sessionId
  · rw [if_pos hguard]
    exact respond_intact h _ _
  rw [if_neg hguard]
  have hreceiving : s.update.state ≠ .verified := by
    rw [not_not.mp (not_or.mp hguard).1]
    simp
  dsimp only
  split_ifs
  · exact respond_intact h _ _
  · exact respond_intact h _ _
  · exact respond_not_verified h hreceiving
      (congrArg Flash.activations (duplicateMatches_flash s.flash _ _)) _ _
  · exact respond_not_verified h hreceiving
      (congrArg Flash.activations (duplicateMatches_flash s.flash _ _)) _ _
  · refine respond_not_verified h hreceiving ?_ _ _
    rfl
  · refine respond_not_verified h ?_ ?_ _ _
    · exact hreceiving
    · rfl
  · exact respond_intact h _ _

theorem handleEnd_intact (h : s.VerifiedIntact) :
    (handleEnd s.update s.flash request capacity).bootloader.VerifiedIntact := by
  unfold handleEnd
  split
  · exact respond_intact h _ _
  · exact respond_not_verified h (by simp) rfl _ _

theorem handleVerify_intact (h : s.VerifiedIntact) :
    (handleVerify (memoryFlash faults) s.update s.flash request
      capacity).bootloader.VerifiedIntact := by
  unfold handleVerify
  split
  · exact respond_intact h _ _
  · dsimp only [memoryFlash]
    by_cases hcrc : flashCrc s.flash.memory s.update.imageSize = s.update.imageCrc
    · rw [if_neg (not_not.mpr hcrc)]
      exact ⟨fun _ => hcrc, h.activated⟩
    · rw [if_pos hcrc]
      exact respond_intact h _ _

theorem handleActivate_intact (h : s.VerifiedIntact) :
    (handleActivate (memoryFlash faults) s.update s.flash request
      capacity).bootloader.VerifiedIntact := by
  unfold handleActivate
  by_cases hstate : s.update.state = .verified
  · rw [if_neg (not_not.mpr hstate)]
    have hactivated : ∀ activation ∈ s.flash.activations ++
        [⟨s.update.imageSize, s.update.imageCrc, flashCrc s.flash.memory s.update.imageSize⟩],
        activation.flashCrc = activation.imageCrc := by
      intro activation hmem
      rcases List.mem_append.mp hmem with hold | hnew
      · exact h.activated activation hold
      · rw [List.mem_singleton.mp hnew]
        exact h.verified hstate
    dsimp only
    split
    · exact ⟨h.verified, hactivated⟩
    · exact ⟨h.verified, hactivated⟩
  · rw [if_pos hstate]
    exact respond_intact h _ _

end Handlers

/-- One request keeps a verified image intact, unless its erase breaks it. -/
theorem handle_intact {s : Bootloader} {e : UpdateEvent} (h : s.VerifiedIntact)
    (hkeeps : KeepsVerifiedImage s e) : (s.handle e).VerifiedIntact := by
  unfold Bootloader.handle updateHandle
  split_ifs with henter hbegin hdata hstatus hend hverify hactivate hreboot
  · exact respond_intact h _ _
  · exact handleBegin_intact h fun hverified => hkeeps hverified hbegin
  · exact handleData_intact h
  · unfold handleStatus
    split
    · exact respond_intact h _ _
    · exact respond_intact h _ _
  · exact handleEnd_intact h
  · exact handleVerify_intact h
  · exact handleActivate_intact h
  · unfold handleReboot
    dsimp only
    split
    · exact respond_intact h _ _
    · exact respond_intact h _ _
  · exact respond_intact h _ _

/-- Where no failed erase breaks a verified image, every activated image had the
announced CRC when it was activated. -/
theorem activation_integrity {s : Bootloader}
    (h : bootloaderSystem.ReachableBy KeepsVerifiedImage s) :
    ∀ activation ∈ s.flash.activations, activation.flashCrc = activation.imageCrc := by
  have hintact : s.VerifiedIntact := by
    refine System.ReachableBy.invariant ?_ ?_ h
    · rintro s ⟨hupdate, hactivations⟩
      refine ⟨fun hverified => ?_, ?_⟩
      · rw [hupdate] at hverified
        cases hverified
      · rw [hactivations]
        simp
    · intro s e s' hs hkeeps hstep
      obtain rfl := Option.some.inj hstep
      exact handle_intact hs hkeeps
  exact hintact.activated

/-! ## A failed erase over a verified image -/

def updateEvent (faults : Faults) (type : UInt8) (payload : List UInt8)
    (h : payload.length < 2 ^ 16) : UpdateEvent :=
  ⟨⟨type, Flag.ackRequired, 1, payload, h⟩, 64, faults⟩

/-- The payload of an `FW_BEGIN` for the image `[0xAB]`, version `1`. -/
def oneByteBegin : List UInt8 :=
  putLe32 1 ++ putLe32 (crc32 [0xAB]) ++ putLe16 16 ++ [0x31, 0]

/-- The image `[0xAB]` is announced, sent and verified. -/
def oneByteUpdate : List UpdateEvent :=
  [updateEvent .none Msg.fwBegin oneByteBegin (by decide),
    updateEvent .none Msg.fwData (putLe32 2 ++ putLe32 0 ++ [0xAB]) (by decide),
    updateEvent .none Msg.fwEnd (putLe32 2) (by decide),
    updateEvent .none Msg.fwVerify (putLe32 2) (by decide)]

def activateEvent : UpdateEvent := updateEvent .none Msg.fwActivate (putLe32 2) (by decide)

/-- A blank flash behind a fresh bootloader. -/
def freshBootloader : Bootloader := ⟨updateInit, ⟨fun _ => 0, []⟩⟩

/-- The verified image is activated, and it has its CRC. -/
theorem activation_integrity_one_byte :
    ∃ s, bootloaderSystem.runFrom freshBootloader (oneByteUpdate ++ [activateEvent]) = some s ∧
      s.flash.activations.length = 1 ∧
      ∀ activation ∈ s.flash.activations, activation.flashCrc = activation.imageCrc := by
  refine ⟨_, rfl, by decide +kernel, activation_integrity ?_⟩
  refine System.ReachableBy.runFrom (.init ⟨rfl, rfl⟩) ?_
    (show bootloaderSystem.runFrom freshBootloader (oneByteUpdate ++ [activateEvent]) = some _
      from rfl)
  intro e he s _ _ _ hfails
  simp only [oneByteUpdate, List.cons_append, List.nil_append, List.mem_cons,
    List.not_mem_nil, or_false] at he
  rcases he with rfl | rfl | rfl | rfl | rfl
  all_goals exact absurd rfl hfails

/-- After the verification, a second `FW_BEGIN` whose erase fails and leaves
zeros: the bootloader stays in `VERIFIED` and activates what is left. -/
theorem activation_after_failed_erase :
    ∃ s, bootloaderSystem.runFrom freshBootloader
        (oneByteUpdate ++
          [updateEvent { Faults.none with erase := -1 } Msg.fwBegin oneByteBegin (by decide),
            activateEvent]) = some s ∧
      ∃ activation ∈ s.flash.activations, activation.flashCrc ≠ activation.imageCrc := by
  refine ⟨_, rfl, ⟨1, crc32 [0xAB], crc32 [0]⟩, ?_, ?_⟩
  · decide +kernel
  · decide +kernel

end Stm32
