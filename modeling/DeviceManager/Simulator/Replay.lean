import DeviceManager.Simulator.Sessions

/-!
# Retransmitted requests at the simulator

The host sends a request again when the response is lost.  `Replays` says that the second
handling answers as the first did and leaves the state alone, but for the counter of received
frames.

A handler that changes nothing replays.  Of those that do, `FW_BEGIN` recognises the session
that it has just started, `FW_DATA` finds the bytes that it has just written, and the other
requests of an upgrade set what is set already.
-/

namespace Simulator

open Devmgr

/-- Handling again what the first handling left, whatever the counter of frames is then. -/
def Replays (first again : State → Reply × State) (state : State) : Prop :=
  ∀ rxFrames, again { (first state).2 with rxFrames := rxFrames } =
    ((first state).1, { (first state).2 with rxFrames := rxFrames })

theorem Replays.of_eq {first again : State → Reply × State} {state after : State} {reply : Reply}
    (hfirst : first state = (reply, after))
    (hagain : ∀ rxFrames, again { after with rxFrames := rxFrames } =
      (reply, { after with rxFrames := rxFrames })) : Replays first again state := by
  intro rxFrames
  rw [hfirst]
  exact hagain rxFrames

/-- The requests of an upgrade. -/
def isUpgradeRequest (type : UInt8) : Prop :=
  type = Msg.enterBootloader ∨ type = Msg.fwBegin ∨ isSessionRequest type ∨ type = Msg.reboot

/-! ## The branches of `FW_BEGIN` and `FW_DATA` -/

section Branches

variable {env : Env} {request : Frame} {state : State}

/-- The first check of `FW_BEGIN` fails. -/
def State.refusesBegin (state : State) (request : Frame) : Prop :=
  ¬ state.bootloaderActive = true ∨ request.payload.length < 11

theorem fwBegin_refused (h : state.refusesBegin request) :
    fwBegin env request state = (.nack 2, state) :=
  if_pos h

theorem fwBegin_invalid (h : ¬ state.refusesBegin request)
    (hparse : parseBegin request.payload = none) :
    fwBegin env request state = (.nack 3, state) := by
  refine (if_neg h).trans ?_
  rw [hparse]

theorem fwBegin_resumed (h : ¬ state.refusesBegin request) {begin : BeginRequest}
    (hparse : parseBegin request.payload = some begin) (hcontinues : state.continues begin) :
    fwBegin env request state =
      (.words state.firmwareSessionId state.firmwareOffset, state) := by
  refine (if_neg h).trans ?_
  rw [hparse]
  exact if_pos hcontinues

/-- The state behind an `FW_BEGIN` that gets a new buffer. -/
def State.begun (state : State) (begin : BeginRequest) (memory : Nat → UInt8) : State :=
  { state with
    flash := some ((List.range begin.imageSize.toNat).map memory)
    expectedFirmwareCrc := begin.imageCrc
    firmwareChunkSize := begin.chunkSize
    firmwareOffset := 0
    firmwareSessionId := sessionAfter state.firmwareSessionId
    pendingVersion := begin.version
    firmwareUpgrading := true
    firmwareVerified := false }

theorem fwBegin_begun (h : ¬ state.refusesBegin request) {begin : BeginRequest}
    (hparse : parseBegin request.payload = some begin) (hcontinues : ¬ state.continues begin)
    {memory : Nat → UInt8} (hmalloc : env.malloc = some memory) :
    fwBegin env request state =
      (.words (sessionAfter state.firmwareSessionId) 0, state.begun begin memory) := by
  refine (if_neg h).trans ?_
  rw [hparse]
  dsimp only
  rw [if_neg hcontinues, hmalloc]
  rfl

theorem begun_continues (state : State) (begin : BeginRequest) (memory : Nat → UInt8) :
    (state.begun begin memory).continues begin := by
  refine ⟨rfl, ?_, rfl, rfl, rfl⟩
  simp [State.flashSize, State.contents, State.begun]

/-- The first check of `FW_DATA` fails. -/
def State.refusesData (state : State) (request : Frame) : Prop :=
  ¬ state.firmwareUpgrading = true ∨ request.payload.length ≤ 8 ∨
    getLe32 request.payload ≠ state.firmwareSessionId

/-- The chunk is too long or leaves the image. -/
def State.outOfRange (state : State) (request : Frame) : Prop :=
  (dataBytes request).length > state.firmwareChunkSize.toNat ∨
    (dataOffset request).toNat > state.flashSize ∨
    (dataBytes request).length > state.flashSize - (dataOffset request).toNat

/-- The chunk lies behind the offset, but not all of it, or it differs from the flash. -/
def State.conflicts (state : State) (request : Frame) : Prop :=
  (dataOffset request).toNat + (dataBytes request).length > state.firmwareOffset.toNat ∨
    (state.contents.drop (dataOffset request).toNat).take (dataBytes request).length ≠
      dataBytes request

theorem fwData_refused (h : state.refusesData request) :
    fwData env request state = (.nack 2, state) :=
  if_pos h

theorem fwData_outside (h : ¬ state.refusesData request) (hrange : state.outOfRange request) :
    fwData env request state = (.nack 5, state) :=
  (if_neg h).trans (if_pos hrange)

theorem fwData_conflict (h : ¬ state.refusesData request) (hrange : ¬ state.outOfRange request)
    (hbehind : dataOffset request < state.firmwareOffset) (hconflict : state.conflicts request) :
    fwData env request state = (.nack 5, state) :=
  (if_neg h).trans ((if_neg hrange).trans ((if_pos hbehind).trans (if_pos hconflict)))

theorem fwData_duplicate (h : ¬ state.refusesData request) (hrange : ¬ state.outOfRange request)
    (hbehind : dataOffset request < state.firmwareOffset)
    (hsame : ¬ state.conflicts request) :
    fwData env request state = (.word state.firmwareOffset, state.injectOutage env) :=
  (if_neg h).trans ((if_neg hrange).trans ((if_pos hbehind).trans (if_neg hsame)))

/-- The state behind an `FW_DATA` that is written. -/
def State.written (state : State) (request : Frame) : State :=
  state.program (dataOffset request).toNat (dataBytes request)

theorem fwData_written (h : ¬ state.refusesData request) (hrange : ¬ state.outOfRange request)
    (hnext : dataOffset request = state.firmwareOffset) :
    fwData env request state =
      (.word (state.written request).firmwareOffset, (state.written request).injectOutage env) := by
  have hbehind : ¬ dataOffset request < state.firmwareOffset := by
    rw [hnext]
    exact UInt32.lt_irrefl _
  exact (if_neg h).trans ((if_neg hrange).trans ((if_neg hbehind).trans (if_pos hnext)))

theorem fwData_gap (h : ¬ state.refusesData request) (hrange : ¬ state.outOfRange request)
    (hbehind : ¬ dataOffset request < state.firmwareOffset)
    (hnext : dataOffset request ≠ state.firmwareOffset) :
    fwData env request state = (.nack 5, state) :=
  (if_neg h).trans ((if_neg hrange).trans ((if_neg hbehind).trans (if_neg hnext)))

/-- A written chunk lies in the flash below the new offset, and the flash keeps its size. -/
theorem written_spec (h : ¬ state.refusesData request) (hrange : ¬ state.outOfRange request)
    (hnext : dataOffset request = state.firmwareOffset) (hflash : state.flash.isSome = true)
    (hmax : state.flashSize < 2 ^ 32) :
    (state.written request).flashSize = state.flashSize ∧
      (state.written request).firmwareOffset.toNat =
        (dataOffset request).toNat + (dataBytes request).length ∧
      dataOffset request < (state.written request).firmwareOffset ∧
      ¬ (state.written request).conflicts request := by
  simp only [State.refusesData, not_or] at h
  simp only [State.outOfRange, not_or] at hrange
  have hlong : 0 < (dataBytes request).length := by
    rw [dataBytes, List.length_drop]
    omega
  obtain ⟨hsize, htake⟩ := program_contents hflash
    (show (dataOffset request).toNat + (dataBytes request).length ≤ state.flashSize by omega)
  have hend : (state.written request).firmwareOffset.toNat =
      (dataOffset request).toNat + (dataBytes request).length := by
    show (state.firmwareOffset + (dataBytes request).length.toUInt32).toNat = _
    rw [← hnext]
    simp only [UInt32.toNat_add, Nat.toUInt32, UInt32.toNat_ofNat']
    omega
  refine ⟨hsize, hend, ?_, ?_⟩
  · rw [UInt32.lt_iff_toNat_lt, hend]
    exact Nat.lt_add_of_pos_right hlong
  · rw [State.conflicts, hend, not_or, not_not]
    refine ⟨Nat.lt_irrefl _, ?_⟩
    have hdrop := congrArg (List.drop (dataOffset request).toNat) htake
    rw [List.drop_take, Nat.add_sub_cancel_left, List.drop_left'] at hdrop
    · exact hdrop
    · rw [List.length_take, ← State.flashSize]
      omega

end Branches

/-! ## The handlers again -/

section Handlers

variable (env env' : Env) (request : Frame) (state : State)

theorem enterBootloader_replays : Replays enterBootloader enterBootloader state :=
  fun _ => rfl

theorem reboot_replays : Replays reboot reboot state :=
  fun _ => rfl

theorem fwStatus_replays : Replays (fwStatus request) (fwStatus request) state := by
  by_cases hrefused : ¬ state.firmwareUpgrading = true ∨ ¬ state.addressed request.payload
  · exact .of_eq (if_pos hrefused) fun _ => if_pos hrefused
  · exact .of_eq (if_neg hrefused) fun _ => if_neg hrefused

theorem fwEnd_replays : Replays (fwEnd request) (fwEnd request) state := by
  by_cases hrefused : ¬ state.firmwareUpgrading = true ∨ ¬ state.addressed request.payload ∨
      state.firmwareOffset.toNat ≠ state.flashSize
  · exact .of_eq (if_pos hrefused) fun _ => if_pos hrefused
  · exact .of_eq (if_neg hrefused) fun _ => if_neg hrefused

theorem fwVerify_replays : Replays (fwVerify request) (fwVerify request) state := by
  by_cases hrefused : ¬ state.firmwareUpgrading = true ∨ ¬ state.addressed request.payload ∨
      state.failVerify = true ∨ state.actualCrc ≠ state.expectedFirmwareCrc
  · exact .of_eq (if_pos hrefused) fun _ => if_pos hrefused
  · exact .of_eq (if_neg hrefused) fun _ => if_neg hrefused

theorem fwActivate_replays : Replays (fwActivate request) (fwActivate request) state := by
  by_cases hrefused : ¬ state.firmwareVerified = true ∨ ¬ state.addressed request.payload
  · exact .of_eq (if_pos hrefused) fun _ => if_pos hrefused
  · exact .of_eq (if_neg hrefused) fun _ => if_neg hrefused

/-- The session that the first copy starts is the one that the second copy asks for. -/
theorem fwBegin_replays (hmalloc : env.malloc.isSome = true) :
    Replays (fwBegin env request) (fwBegin env' request) state := by
  obtain ⟨memory, hmemory⟩ := Option.isSome_iff_exists.mp hmalloc
  by_cases hrefused : state.refusesBegin request
  · exact .of_eq (fwBegin_refused hrefused) fun _ => fwBegin_refused hrefused
  rcases hparse : parseBegin request.payload with _ | begin
  · exact .of_eq (fwBegin_invalid hrefused hparse) fun _ => fwBegin_invalid hrefused hparse
  by_cases hcontinues : state.continues begin
  · exact .of_eq (fwBegin_resumed hrefused hparse hcontinues)
      fun _ => fwBegin_resumed hrefused hparse hcontinues
  · exact .of_eq (fwBegin_begun hrefused hparse hcontinues hmemory)
      fun _ => fwBegin_resumed hrefused hparse (begun_continues state begin memory)

/-- The state with the outage and the counter of frames set. -/
def State.settled (state : State) (injected : Bool) (deadline rxFrames : UInt64) : State :=
  { state with outageInjected := injected, outageUntilNs := deadline, rxFrames := rxFrames }

/-- An outage is injected once: the flag and the deadline that it leaves are final. -/
theorem injectOutage_settled (state : State) :
    ∃ injected deadline,
      state.injectOutage env = state.settled injected deadline state.rxFrames ∧
      ∀ rxFrames, (state.settled injected deadline rxFrames).injectOutage env' =
        state.settled injected deadline rxFrames := by
  unfold State.injectOutage
  split
  · refine ⟨_, _, rfl, fun rxFrames => if_neg ?_⟩
    exact fun hagain => hagain.1 rfl
  · rename_i hnone
    exact ⟨state.outageInjected, state.outageUntilNs, rfl, fun rxFrames => if_neg hnone⟩

/-- The second copy of a chunk finds the first one in the flash. -/
theorem fwData_replays (hflash : state.firmwareUpgrading = true → state.flash.isSome = true)
    (hmax : state.firmwareUpgrading = true → state.flashSize < 2 ^ 32) :
    Replays (fwData env request) (fwData env' request) state := by
  by_cases hrefused : state.refusesData request
  · exact .of_eq (fwData_refused hrefused) fun _ => fwData_refused hrefused
  by_cases hrange : state.outOfRange request
  · exact .of_eq (fwData_outside hrefused hrange) fun _ => fwData_outside hrefused hrange
  by_cases hbehind : dataOffset request < state.firmwareOffset
  · by_cases hconflict : state.conflicts request
    · exact .of_eq (fwData_conflict hrefused hrange hbehind hconflict)
        fun _ => fwData_conflict hrefused hrange hbehind hconflict
    · obtain ⟨injected, deadline, hinjected, hsettled⟩ := injectOutage_settled env env' state
      have hfirst : fwData env request state = _ :=
        fwData_duplicate hrefused hrange hbehind hconflict
      rw [hinjected] at hfirst
      refine .of_eq hfirst fun rxFrames => ?_
      have hagain : fwData env' request (state.settled injected deadline rxFrames) = _ :=
        fwData_duplicate hrefused hrange hbehind hconflict
      rw [hsettled] at hagain
      exact hagain
  by_cases hnext : dataOffset request = state.firmwareOffset
  · have hupgrading : state.firmwareUpgrading = true := by
      rw [State.refusesData, not_or, not_not] at hrefused
      exact hrefused.1
    obtain ⟨hsize, _, hbelow, hfound⟩ := written_spec hrefused hrange hnext (hflash hupgrading)
      (hmax hupgrading)
    have hinside : ¬ (state.written request).outOfRange request := by
      rw [State.outOfRange, hsize]
      exact hrange
    obtain ⟨injected, deadline, hinjected, hsettled⟩ :=
      injectOutage_settled env env' (state.written request)
    have hfirst : fwData env request state = _ := fwData_written hrefused hrange hnext
    rw [hinjected] at hfirst
    refine .of_eq hfirst fun rxFrames => ?_
    have hagain : fwData env' request
        ((state.written request).settled injected deadline rxFrames) = _ :=
      fwData_duplicate hrefused hinside hbelow hfound
    rw [hsettled] at hagain
    exact hagain
  · exact .of_eq (fwData_gap hrefused hrange hbehind hnext)
      fun _ => fwData_gap hrefused hrange hbehind hnext

/-- The requests of an upgrade that do not carry a session id, and their handlers. -/
theorem handle_entry :
    (request.type = Msg.enterBootloader → handle env request state = enterBootloader state) ∧
    (request.type = Msg.fwBegin → handle env request state = fwBegin env request state) ∧
    (request.type = Msg.reboot → handle env request state = reboot state) := by
  refine ⟨?_, ?_, ?_⟩
  all_goals
    intro h
    rw [handle, h]
    rfl

end Handlers

/-- A copy of a request of an upgrade, with any flags, is answered as the request was, and
leaves the state as the request left it. -/
theorem handle_replays {env : Env} {request : Frame} {state : State}
    (htype : isUpgradeRequest request.type) (hmalloc : env.malloc.isSome = true)
    (hflash : state.firmwareUpgrading = true → state.flash.isSome = true)
    (hmax : state.firmwareUpgrading = true → state.flashSize < 2 ^ 32) (env' : Env) :
    Replays (handle env request) (handle env' request) state := by
  intro rxFrames
  rcases htype with h | h | (h | h | h | h | h) | h
  · rw [(handle_entry env request state).1 h, (handle_entry env' request _).1 h]
    exact enterBootloader_replays state rxFrames
  · rw [(handle_entry env request state).2.1 h, (handle_entry env' request _).2.1 h]
    exact fwBegin_replays env env' request state hmalloc rxFrames
  · rw [(handle_dispatch env request state).1 h, (handle_dispatch env' request _).1 h]
    exact fwData_replays env env' request state hflash hmax rxFrames
  · rw [(handle_dispatch env request state).2.1 h, (handle_dispatch env' request _).2.1 h]
    exact fwStatus_replays request state rxFrames
  · rw [(handle_dispatch env request state).2.2.1 h, (handle_dispatch env' request _).2.2.1 h]
    exact fwEnd_replays request state rxFrames
  · rw [(handle_dispatch env request state).2.2.2.1 h, (handle_dispatch env' request _).2.2.2.1 h]
    exact fwVerify_replays request state rxFrames
  · rw [(handle_dispatch env request state).2.2.2.2 h, (handle_dispatch env' request _).2.2.2.2 h]
    exact fwActivate_replays request state rxFrames
  · rw [(handle_entry env request state).2.2 h, (handle_entry env' request _).2.2 h]
    exact reboot_replays state rxFrames

/-- In every state that requests lead to, the same request of an upgrade twice in a row gets
the same response twice, and the second handling changes nothing but the counter of received
frames: neither the flash and its size, nor the offset, the session, the chunk size, the
versions, the CRC or a flag.  The copy may carry other flags, as a retransmission does. -/
theorem upgrade_request_idempotent {config : Config} {s : Recorded}
    (h : (recordedSystem config).Reachable s) {env : Env} {request : Frame}
    (htype : isUpgradeRequest request.type) (hmalloc : env.malloc.isSome = true) (env' : Env)
    (flags : UInt8) :
    let first := onFrame env request s.device
    onFrame env' { request with flags := flags } first.2 =
      (first.1, { first.2 with rxFrames := first.2.rxFrames + 1 }) := by
  have hs := sound_reachable h
  have hmax : s.device.firmwareUpgrading = true → s.device.flashSize < 2 ^ 32 := by
    intro hupgrading
    obtain ⟨_, _, hmax, _⟩ := hs.upgrading hupgrading
    simp only [firmwareMaxSize] at hmax
    omega
  have hreplays := @handle_replays env request
    { s.device with rxFrames := s.device.rxFrames + 1 } htype hmalloc
    (fun hupgrading => (hs.upgrading hupgrading).1) hmax env'
  intro first
  have hagain := hreplays (first.2.rxFrames + 1)
  show (Reply.frame { request with flags := flags } (handle env' request
    { first.2 with rxFrames := first.2.rxFrames + 1 }).1, (handle env' request
      { first.2 with rxFrames := first.2.rxFrames + 1 }).2) = _
  rw [show handle env' request { first.2 with rxFrames := first.2.rxFrames + 1 } = _ from hagain]
  refine Prod.ext ?_ rfl
  show Reply.frame { request with flags := flags } _ = Reply.frame request _
  cases (handle env request { s.device with rxFrames := s.device.rxFrames + 1 }).1 with
  | accept payload hpayload => rfl
  | nack code => rfl

/-- The second byte of an image, and its retransmission. -/
theorem upgrade_request_idempotent_second_byte :
    ∃ s, (recordedSystem ⟨-1, false⟩).runFrom ⟨init ⟨-1, false⟩, [], []⟩
        [zeroEvent Msg.enterBootloader [] (Nat.zero_le _), beginEvent 2 0, byteEvent 1 0 0xAB] =
        some s ∧
      let request := (byteEvent 1 1 0xCD).2
      let first := onFrame ⟨0, some fun _ => 0⟩ request s.device
      first.1.payload = [2, 0, 0, 0] ∧ first.2.contents = [0xAB, 0xCD] ∧
        onFrame ⟨0, none⟩ { request with flags := Flag.retry } first.2 =
          (first.1, { first.2 with rxFrames := first.2.rxFrames + 1 }) := by
  refine ⟨_, rfl, by decide +kernel, by decide +kernel, ?_⟩
  exact upgrade_request_idempotent
    (System.Reachable.runFrom (show (recordedSystem ⟨-1, false⟩).init _ from rfl)
      (show (recordedSystem ⟨-1, false⟩).runFrom ⟨init ⟨-1, false⟩, [], []⟩
        [zeroEvent Msg.enterBootloader [] (Nat.zero_le _), beginEvent 2 0, byteEvent 1 0 0xAB] =
        some _ from rfl))
    (.inr (.inr (.inl (.inl rfl)))) rfl ⟨0, none⟩ Flag.retry

end Simulator
