import DeviceManager.Lib.SkipZero
import DeviceManager.Lib.Transition
import DeviceManager.Simulator.Simulator

/-!
# The sessions of the simulator

A firmware session goes from one `FW_BEGIN` that allocates a flash buffer to the next one
that does.  `Recorded` is the simulator with a record beside it: the ids of all sessions,
and the `FW_DATA` requests that the current session has committed.

* `FrameCase`: what one request can do to the part of the state that belongs to the
  session.  `onFrame_cases` is the only place where the handlers are unfolded.
* `Recorded.Sound`: the record and the state agree.  The bytes below the offset are those
  of the committed requests, and the ids are the draws of a counter that skips zero.
* `Extends`: what the flash keeps as long as no new buffer is allocated, over one step and
  over a run.
* `flash_append_only` collects the results.
-/

namespace Simulator

open Devmgr

/-! ## The record -/

/-- The offset field of an `FW_DATA` payload. -/
def dataOffset (request : Frame) : UInt32 := getLe32 (request.payload.drop 4)

/-- The image bytes of an `FW_DATA` payload. -/
def dataBytes (request : Frame) : List UInt8 := request.payload.drop 8

/-- The request is an `FW_BEGIN` that gets a new flash buffer. -/
def State.allocates (env : Env) (request : Frame) (state : State) : Bool :=
  match parseBegin request.payload, env.malloc with
  | some begin, some _ =>
    request.type = Msg.fwBegin ∧ state.bootloaderActive = true ∧
      ¬ request.payload.length < 11 ∧ ¬ state.continues begin
  | _, _ => false

/-- The request is an `FW_DATA` that is written at the end of what is there. -/
def State.commits (request : Frame) (state : State) : Bool :=
  request.type = Msg.fwData ∧ state.firmwareUpgrading = true ∧ ¬ request.payload.length ≤ 8 ∧
    getLe32 request.payload = state.firmwareSessionId ∧
    (dataBytes request).length ≤ state.firmwareChunkSize.toNat ∧
    (dataOffset request).toNat + (dataBytes request).length ≤ state.flashSize ∧
    dataOffset request = state.firmwareOffset

/-- The simulator, the ids of its sessions from the oldest on, and the requests committed
in the current one. -/
structure Recorded where
  device : State
  issued : List UInt32
  committed : List Frame

/-- `on_frame`, with its record. -/
def Recorded.next (env : Env) (request : Frame) (s : Recorded) : Recorded :=
  let device := (onFrame env request s.device).2
  if s.device.allocates env request then
    ⟨device, s.issued ++ [device.firmwareSessionId], []⟩
  else if s.device.commits request then ⟨device, s.issued, s.committed ++ [request]⟩
  else ⟨device, s.issued, s.committed⟩

theorem next_device (env : Env) (request : Frame) (s : Recorded) :
    (s.next env request).device = (onFrame env request s.device).2 := by
  unfold Recorded.next
  dsimp only
  split_ifs <;> rfl

/-- Any requests from `simulator_init`. -/
def recordedSystem (config : Config) : System Recorded (Env × Frame) where
  init s := s = ⟨init config, [], []⟩
  step s e := some (s.next e.1 e.2)

/-- The requests are `FW_DATA` frames whose data follow one another from `start` to `stop`. -/
def InOrder : Nat → List Frame → Nat → Prop
  | start, [], stop => start = stop
  | start, request :: requests, stop =>
    request.type = Msg.fwData ∧ (dataOffset request).toNat = start ∧
      InOrder (start + (dataBytes request).length) requests stop

theorem InOrder.snoc {start stop : Nat} {requests : List Frame} (h : InOrder start requests stop)
    {request : Frame} (htype : request.type = Msg.fwData)
    (hoffset : (dataOffset request).toNat = stop) :
    InOrder start (requests ++ [request]) (stop + (dataBytes request).length) := by
  induction requests generalizing start with
  | nil =>
    obtain rfl : start = stop := h
    exact ⟨htype, hoffset, rfl⟩
  | cons first requests ih =>
    obtain ⟨hfirst, hstart, hrest⟩ := h
    exact ⟨hfirst, hstart, ih hrest⟩

/-! ## The cases of one request -/

/-- The session is left as it was, or ended. -/
structure Keeps (state state' : State) : Prop where
  flash : state'.flash = state.flash
  expectedCrc : state'.expectedFirmwareCrc = state.expectedFirmwareCrc
  offset : state'.firmwareOffset = state.firmwareOffset
  sessionId : state'.firmwareSessionId = state.firmwareSessionId
  chunkSize : state'.firmwareChunkSize = state.firmwareChunkSize
  upgrading : state'.firmwareUpgrading = true → state.firmwareUpgrading = true

/-- What a request can do to the session. -/
inductive FrameCase (env : Env) (request : Frame) (state : State) : State → Prop
  | kept {state' : State} (hallocates : state.allocates env request = false)
      (hcommits : state.commits request = false) (hkeeps : Keeps state state')
      (hverified : state'.firmwareVerified = true → state.firmwareVerified = true) :
      FrameCase env request state state'
  | verified {state' : State} (hallocates : state.allocates env request = false)
      (hcommits : state.commits request = false) (hkeeps : Keeps state state')
      (htype : request.type = Msg.fwVerify) (hupgrading : state.firmwareUpgrading = true)
      (haddressed : state.addressed request.payload) (hfail : state.failVerify = false)
      (hcrc : state.actualCrc = state.expectedFirmwareCrc) :
      FrameCase env request state state'
  | begun {state' : State} {begin : BeginRequest} {memory : Nat → UInt8}
      (hallocates : state.allocates env request = true)
      (hparse : parseBegin request.payload = some begin)
      (hflash : state'.flash = some ((List.range begin.imageSize.toNat).map memory))
      (hoffset : state'.firmwareOffset = 0)
      (hsession : state'.firmwareSessionId = sessionAfter state.firmwareSessionId)
      (hchunk : state'.firmwareChunkSize = begin.chunkSize)
      (hverified : state'.firmwareVerified = false) : FrameCase env request state state'
  | programmed {state' : State} (hallocates : state.allocates env request = false)
      (hcommits : state.commits request = true)
      (hkeeps : Keeps (state.program (dataOffset request).toNat (dataBytes request)) state')
      (hverified : state'.firmwareVerified = state.firmwareVerified) :
      FrameCase env request state state'

section Cases

variable (env : Env) (request : Frame) (state : State)

theorem injectOutage_keeps : Keeps state (state.injectOutage env) ∧
    (state.injectOutage env).firmwareVerified = state.firmwareVerified := by
  unfold State.injectOutage
  split
  · exact ⟨⟨rfl, rfl, rfl, rfl, rfl, id⟩, rfl⟩
  · exact ⟨⟨rfl, rfl, rfl, rfl, rfl, id⟩, rfl⟩

variable {env request state}

theorem allocates_of_type (htype : request.type ≠ Msg.fwBegin) :
    state.allocates env request = false := by
  unfold State.allocates
  split
  · simp [htype]
  · rfl

theorem commits_of_type (htype : request.type ≠ Msg.fwData) : state.commits request = false := by
  simp [State.commits, htype]

theorem Keeps.refl (state : State) : Keeps state state := ⟨rfl, rfl, rfl, rfl, rfl, id⟩

/-- A request of another type that leaves the session alone. -/
theorem FrameCase.of_type {state' : State} (hbegin : request.type ≠ Msg.fwBegin)
    (hdata : request.type ≠ Msg.fwData) (hkeeps : Keeps state state')
    (hverified : state'.firmwareVerified = true → state.firmwareVerified = true) :
    FrameCase env request state state' :=
  .kept (allocates_of_type hbegin) (commits_of_type hdata) hkeeps hverified

theorem fwBegin_cases (htype : request.type = Msg.fwBegin) :
    FrameCase env request state (fwBegin env request state).2 := by
  have hcommits : state.commits request = false :=
    commits_of_type (by rw [htype]; decide)
  unfold fwBegin
  split
  · rename_i hready
    refine .kept ?_ hcommits (.refl _) id
    unfold State.allocates
    split
    · rcases hready with hready | hready <;> simp [hready]
    · rfl
  · rename_i hready
    rw [not_or, not_not] at hready
    split
    · rename_i hparse
      refine .kept ?_ hcommits (.refl _) id
      rw [State.allocates, hparse]
    · rename_i begin hparse
      split
      · rename_i hcontinues
        refine .kept ?_ hcommits (.refl _) id
        rw [State.allocates, hparse]
        split
        · rename_i hbegin _
          obtain rfl := Option.some.inj hbegin
          simp [hcontinues]
        · rfl
      · rename_i hcontinues
        split
        · rename_i hmalloc
          refine .kept ?_ hcommits (.refl _) id
          rw [State.allocates, hparse, hmalloc]
        · rename_i memory hmalloc
          refine .begun ?_ hparse rfl rfl rfl rfl rfl
          simp [State.allocates, hparse, hmalloc, htype, hready, hcontinues]

/-- The checks of `FW_DATA` that a committed request passes. -/
theorem commits_iff (htype : request.type = Msg.fwData) :
    state.commits request = true ↔
      ¬ (¬ state.firmwareUpgrading = true ∨ request.payload.length ≤ 8 ∨
        getLe32 request.payload ≠ state.firmwareSessionId) ∧
      ¬ ((dataBytes request).length > state.firmwareChunkSize.toNat ∨
        (dataOffset request).toNat > state.flashSize ∨
        (dataBytes request).length > state.flashSize - (dataOffset request).toNat) ∧
      dataOffset request = state.firmwareOffset := by
  simp only [State.commits, htype, true_and, decide_eq_true_eq, not_or, not_not, Nat.not_lt,
    gt_iff_lt]
  constructor
  · rintro ⟨hupgrading, hlong, hsession, hchunk, hend, hoffset⟩
    exact ⟨⟨hupgrading, hlong, hsession⟩, ⟨hchunk, by omega, by omega⟩, hoffset⟩
  · rintro ⟨⟨hupgrading, hlong, hsession⟩, ⟨hchunk, hinside, hroom⟩, hoffset⟩
    exact ⟨hupgrading, hlong, hsession, hchunk, by omega, hoffset⟩

theorem fwData_cases (htype : request.type = Msg.fwData) :
    FrameCase env request state (fwData env request state).2 := by
  have hallocates : state.allocates env request = false :=
    allocates_of_type (by rw [htype]; decide)
  have hkept : ∀ {state' : State}, ¬ state.commits request = true → Keeps state state' →
      state'.firmwareVerified = state.firmwareVerified →
      FrameCase env request state state' := by
    intro state' hcommits hkeeps hverified
    exact .kept hallocates (Bool.not_eq_true _ ▸ hcommits) hkeeps fun h => hverified ▸ h
  rw [commits_iff htype] at hkept
  unfold fwData
  dsimp only
  split_ifs with hready hrange hbehind hsame hnext
  · exact hkept (fun h => h.1 hready) (.refl _) rfl
  · exact hkept (fun h => h.2.1 hrange) (.refl _) rfl
  · exact hkept (fun h => UInt32.ne_of_lt hbehind h.2.2) (.refl _) rfl
  · obtain ⟨hkeeps, hverified⟩ := injectOutage_keeps env state
    exact hkept (fun h => UInt32.ne_of_lt hbehind h.2.2) hkeeps hverified
  · obtain ⟨hkeeps, hverified⟩ :=
      injectOutage_keeps env (state.program (dataOffset request).toNat (dataBytes request))
    exact .programmed hallocates ((commits_iff htype).mpr ⟨hready, hrange, hnext⟩) hkeeps
      hverified
  · exact hkept (fun h => hnext h.2.2) (.refl _) rfl

theorem fwVerify_cases (htype : request.type = Msg.fwVerify) :
    FrameCase env request state (fwVerify request state).2 := by
  have hbegin : request.type ≠ Msg.fwBegin := by
    rw [htype]
    decide
  have hdata : request.type ≠ Msg.fwData := by
    rw [htype]
    decide
  unfold fwVerify
  split
  · exact .of_type hbegin hdata (.refl _) id
  · rename_i hready
    simp only [not_or, not_not] at hready
    exact .verified (allocates_of_type hbegin) (commits_of_type hdata)
      ⟨rfl, rfl, rfl, rfl, rfl, id⟩ htype hready.1 hready.2.1
      (Bool.eq_false_of_not_eq_true hready.2.2.1) hready.2.2.2

theorem handle_cases : FrameCase env request state (handle env request state).2 := by
  have hother : ∀ {type : UInt8} {state' : State}, request.type = type → type ≠ Msg.fwBegin →
      type ≠ Msg.fwData → Keeps state state' →
      (state'.firmwareVerified = true → state.firmwareVerified = true) →
      FrameCase env request state state' := by
    rintro _ state' rfl hbegin hdata hkeeps hverified
    exact .of_type hbegin hdata hkeeps hverified
  have hbranches : Branches env request state fun handled =>
      FrameCase env request state handled.2 := by
    constructor
    case ping => exact fun hping => hother hping (by decide) (by decide) (.refl _) id
    case getInfo => exact fun hinfo => hother hinfo (by decide) (by decide) (.refl _) id
    case getHealth => exact fun hhealth => hother hhealth (by decide) (by decide) (.refl _) id
    case getStats => exact fun hstats => hother hstats (by decide) (by decide) (.refl _) id
    case startTelemetry =>
      intro hstart
      unfold startTelemetry
      dsimp only
      split_ifs
      all_goals exact hother hstart (by decide) (by decide) ⟨rfl, rfl, rfl, rfl, rfl, id⟩ id
    case stopTelemetry =>
      exact fun hstop => hother hstop (by decide) (by decide) ⟨rfl, rfl, rfl, rfl, rfl, id⟩ id
    case enterBootloader =>
      exact fun henter => hother henter (by decide) (by decide) ⟨rfl, rfl, rfl, rfl, rfl, id⟩ id
    case fwBegin => exact fwBegin_cases
    case fwData => exact fwData_cases
    case fwStatus =>
      intro hstatus
      unfold fwStatus
      split
      all_goals exact hother hstatus (by decide) (by decide) (.refl _) id
    case fwEnd =>
      intro hend
      unfold fwEnd
      split
      all_goals exact hother hend (by decide) (by decide) (.refl _) id
    case fwVerify => exact fwVerify_cases
    case fwActivate =>
      intro hactivate
      unfold fwActivate
      split
      all_goals exact hother hactivate (by decide) (by decide) ⟨rfl, rfl, rfl, rfl, rfl, id⟩ id
    case reboot =>
      intro hreboot
      refine hother hreboot (by decide) (by decide) ⟨rfl, rfl, rfl, rfl, rfl, ?_⟩ ?_
      all_goals
        intro h
        cases h
    case unknown =>
      intro hunknown
      refine hother rfl ?_ ?_ (.refl _) id
      all_goals
        intro htype
        rw [htype] at hunknown
        exact hunknown (by decide)
  exact hbranches.handle

/-- Every request is one of the cases. -/
theorem onFrame_cases : FrameCase env request state (onFrame env request state).2 := by
  have h := @handle_cases env request { state with rxFrames := state.rxFrames + 1 }
  unfold onFrame
  dsimp only
  generalize (handle env request { state with rxFrames := state.rxFrames + 1 }).2 = state' at h ⊢
  -- The counter of received frames plays no part in the cases.
  cases h with
  | kept hallocates hcommits hkeeps hverified =>
    exact .kept hallocates hcommits ⟨hkeeps.1, hkeeps.2, hkeeps.3, hkeeps.4, hkeeps.5, hkeeps.6⟩
      hverified
  | verified hallocates hcommits hkeeps htype hupgrading haddressed hfail hcrc =>
    exact .verified hallocates hcommits
      ⟨hkeeps.1, hkeeps.2, hkeeps.3, hkeeps.4, hkeeps.5, hkeeps.6⟩ htype hupgrading haddressed
      hfail hcrc
  | begun hallocates hparse hflash hoffset hsession hchunk hverified =>
    exact .begun hallocates hparse hflash hoffset hsession hchunk hverified
  | programmed hallocates hcommits hkeeps hverified =>
    exact .programmed hallocates hcommits
      ⟨hkeeps.1, hkeeps.2, hkeeps.3, hkeeps.4, hkeeps.5, hkeeps.6⟩ hverified

end Cases

/-! ## The invariant -/

/-- The id of the current session, zero before the first one. -/
def Recorded.lastIssued (s : Recorded) : UInt32 := s.issued.getLast?.getD 0

/-- The record and the state agree. -/
structure Recorded.Sound (s : Recorded) : Prop where
  upgrading : s.device.firmwareUpgrading = true →
    s.device.flash.isSome = true ∧ 0 < s.device.flashSize ∧
      s.device.flashSize ≤ firmwareMaxSize ∧ 1 ≤ s.device.firmwareChunkSize.toNat ∧
      s.device.firmwareChunkSize.toNat ≤ maxPayload - 8
  offset_le : s.device.firmwareOffset.toNat ≤ s.device.flashSize
  written : s.device.contents.take s.device.firmwareOffset.toNat =
    s.committed.flatMap dataBytes
  ordered : InOrder 0 s.committed s.device.firmwareOffset.toNat
  current : s.device.firmwareSessionId = s.lastIssued
  draws : ∀ (i : Nat) (id : UInt32), s.issued[i]? = some id →
    id.toNat = SkipZero.iter (2 ^ 32) i 1

section Step

variable {env : Env} {request : Frame} {s : Recorded}

theorem parseBegin_bounds {payload : List UInt8} {begin : BeginRequest}
    (h : parseBegin payload = some begin) :
    0 < begin.imageSize.toNat ∧ begin.imageSize.toNat ≤ firmwareMaxSize ∧
      1 ≤ begin.chunkSize.toNat ∧ begin.chunkSize.toNat ≤ maxPayload - 8 := by
  unfold parseBegin at h
  dsimp only at h
  split_ifs at h with hlegal
  obtain rfl := Option.some.inj h
  simp only [not_or, Nat.not_lt, gt_iff_lt] at hlegal
  obtain ⟨hsize, hmax, hchunk, hlimit, _⟩ := hlegal
  refine ⟨Nat.pos_of_ne_zero fun hzero => hsize (UInt32.toNat_inj.mp hzero), hmax,
    Nat.pos_of_ne_zero fun hzero => hchunk (UInt16.toNat_inj.mp hzero), hlimit⟩

/-- A session that is left alone keeps its record. -/
theorem Recorded.Sound.of_keeps (h : s.Sound) {device : State} (hkeeps : Keeps s.device device) :
    Recorded.Sound ⟨device, s.issued, s.committed⟩ := by
  have hcontents : device.contents = s.device.contents := by
    rw [State.contents, hkeeps.flash]
    rfl
  have hsize : device.flashSize = s.device.flashSize := congrArg List.length hcontents
  constructor
  · intro hupgrading
    show device.flash.isSome = true ∧ 0 < device.flashSize ∧ _ ∧
      1 ≤ device.firmwareChunkSize.toNat ∧ device.firmwareChunkSize.toNat ≤ _
    rw [hkeeps.flash, hsize, hkeeps.chunkSize]
    exact h.upgrading (hkeeps.upgrading hupgrading)
  · show device.firmwareOffset.toNat ≤ device.flashSize
    rw [hkeeps.offset, hsize]
    exact h.offset_le
  · show device.contents.take device.firmwareOffset.toNat = _
    rw [hkeeps.offset, hcontents]
    exact h.written
  · show InOrder 0 s.committed device.firmwareOffset.toNat
    rw [hkeeps.offset]
    exact h.ordered
  · exact hkeeps.sessionId.trans h.current
  · exact h.draws

/-- What a committed request finds. -/
theorem Recorded.Sound.commits (h : s.Sound) (hcommits : s.device.commits request = true) :
    request.type = Msg.fwData ∧ s.device.flash.isSome = true ∧
      dataOffset request = s.device.firmwareOffset ∧
      s.device.firmwareOffset.toNat + (dataBytes request).length ≤ s.device.flashSize ∧
      (s.device.firmwareOffset + (dataBytes request).length.toUInt32).toNat =
        s.device.firmwareOffset.toNat + (dataBytes request).length := by
  simp only [State.commits, decide_eq_true_eq] at hcommits
  obtain ⟨htype, hupgrading, _, _, _, hend, hoffset⟩ := hcommits
  obtain ⟨hflash, _, hmax, _⟩ := h.upgrading hupgrading
  rw [hoffset] at hend
  refine ⟨htype, hflash, hoffset, hend, ?_⟩
  simp only [firmwareMaxSize] at hmax
  simp only [UInt32.toNat_add, Nat.toUInt32, UInt32.toNat_ofNat']
  omega

theorem program_memory {state : State} (hflash : state.flash.isSome = true) (offset : Nat)
    (data : List UInt8) :
    (state.program offset data).contents =
      state.contents.take offset ++ data ++ state.contents.drop (offset + data.length) := by
  obtain ⟨flash, hsome⟩ := Option.isSome_iff_exists.mp hflash
  simp only [State.contents, State.program, hsome, Option.map_some, Option.getD_some]

/-- The flash behind a committed request: the bytes below the offset stay, and the data
follow them. -/
theorem program_contents {state : State} {offset : Nat} {data : List UInt8}
    (hflash : state.flash.isSome = true) (hend : offset + data.length ≤ state.flashSize) :
    (state.program offset data).flashSize = state.flashSize ∧
      (state.program offset data).contents.take (offset + data.length) =
        state.contents.take offset ++ data := by
  rw [State.flashSize] at hend
  rw [State.flashSize, State.flashSize, program_memory hflash]
  have hfront : (state.contents.take offset ++ data).length = offset + data.length := by
    rw [List.length_append, List.length_take]
    omega
  refine ⟨?_, List.take_left' hfront⟩
  rw [List.length_append, hfront, List.length_drop]
  omega

/-- A committed request extends the record. -/
theorem Recorded.Sound.programmed (h : s.Sound) (hcommits : s.device.commits request = true) :
    Recorded.Sound ⟨s.device.program (dataOffset request).toNat (dataBytes request), s.issued,
      s.committed ++ [request]⟩ := by
  obtain ⟨htype, hflash, hoffset, hend, hsum⟩ := h.commits hcommits
  have hdata : (dataOffset request).toNat = s.device.firmwareOffset.toNat := by rw [hoffset]
  rw [← hdata] at hend
  obtain ⟨hsize, htake⟩ := program_contents hflash hend
  constructor
  · intro hupgrading
    show (Option.map _ s.device.flash).isSome = true ∧ 0 < (s.device.program _ _).flashSize ∧
      (s.device.program _ _).flashSize ≤ _ ∧ _
    rw [hsize, Option.isSome_map]
    exact h.upgrading hupgrading
  · show (s.device.firmwareOffset + (dataBytes request).length.toUInt32).toNat ≤
      (s.device.program _ _).flashSize
    rw [hsize, hsum]
    omega
  · show (s.device.program _ _).contents.take
      (s.device.firmwareOffset + (dataBytes request).length.toUInt32).toNat = _
    rw [hsum, ← hdata, htake, hdata, h.written, List.flatMap_append, List.flatMap_singleton]
  · show InOrder 0 _ (s.device.firmwareOffset + (dataBytes request).length.toUInt32).toNat
    rw [hsum]
    exact h.ordered.snoc htype hdata
  · exact h.current
  · exact h.draws

theorem sessionAfter_toNat (session : UInt32) :
    (sessionAfter session).toNat = SkipZero.next (2 ^ 32) session.toNat := by
  have hlt := session.toNat_lt
  have hsum : (session + 1).toNat = (session.toNat + 1) % 2 ^ 32 := UInt32.toNat_add session 1
  unfold sessionAfter SkipZero.next
  by_cases hwrap : session.toNat + 1 = 2 ^ 32
  · have hzero : session + 1 = 0 := UInt32.toNat_inj.mp (by rw [hsum, hwrap, Nat.mod_self]; rfl)
    rw [if_pos hzero, if_pos hwrap]
    rfl
  · have hne : session + 1 ≠ 0 := by
      intro hzero
      rw [hzero] at hsum
      have hzero' : (0 : UInt32).toNat = 0 := rfl
      omega
    rw [if_neg hne, if_neg hwrap, hsum]
    omega

/-- A new id is the next draw of the counter. -/
theorem Recorded.Sound.next_draw (h : s.Sound) :
    (sessionAfter s.lastIssued).toNat = SkipZero.iter (2 ^ 32) s.issued.length 1 := by
  rw [sessionAfter_toNat, lastIssued, List.getLast?_eq_getElem?]
  rcases hlength : s.issued.length with _ | n
  · rw [List.eq_nil_of_length_eq_zero hlength]
    rfl
  · obtain ⟨id, hid⟩ : ∃ id, s.issued[n]? = some id :=
      ⟨_, List.getElem?_eq_getElem (by omega)⟩
    rw [Nat.add_sub_cancel, hid, Option.getD_some, h.draws n id hid, SkipZero.iter]

/-- A new session has an empty record and the next id. -/
theorem Recorded.Sound.begun (h : s.Sound) {device : State} {begin : BeginRequest}
    {memory : Nat → UInt8} (hparse : parseBegin request.payload = some begin)
    (hflash : device.flash = some ((List.range begin.imageSize.toNat).map memory))
    (hoffset : device.firmwareOffset = 0)
    (hsession : device.firmwareSessionId = sessionAfter s.device.firmwareSessionId)
    (hchunk : device.firmwareChunkSize = begin.chunkSize) :
    Recorded.Sound ⟨device, s.issued ++ [device.firmwareSessionId], []⟩ := by
  obtain ⟨hpos, hmax, hsome, hlimit⟩ := parseBegin_bounds hparse
  have hsize : device.flashSize = begin.imageSize.toNat := by
    rw [State.flashSize, State.contents, hflash]
    simp
  constructor
  · intro _
    show device.flash.isSome = true ∧ 0 < device.flashSize ∧ device.flashSize ≤ _ ∧
      1 ≤ device.firmwareChunkSize.toNat ∧ device.firmwareChunkSize.toNat ≤ _
    rw [hsize, hchunk, hflash]
    exact ⟨rfl, hpos, hmax, hsome, hlimit⟩
  · show device.firmwareOffset.toNat ≤ _
    rw [hoffset]
    exact Nat.zero_le _
  · show device.contents.take device.firmwareOffset.toNat = []
    rw [hoffset]
    rfl
  · show 0 = device.firmwareOffset.toNat
    rw [hoffset]
    rfl
  · simp [lastIssued]
  · intro i id hid
    rcases Nat.lt_trichotomy i s.issued.length with hi | rfl | hi
    · rw [List.getElem?_append_left hi] at hid
      exact h.draws i id hid
    · rw [List.getElem?_concat_length, Option.some.injEq] at hid
      rw [← hid, hsession, h.current]
      exact h.next_draw
    · rw [List.getElem?_eq_none (by simp; omega)] at hid
      cases hid

/-- One request. -/
theorem Recorded.Sound.next (h : s.Sound) : (s.next env request).Sound := by
  have hcase := @onFrame_cases env request s.device
  unfold Recorded.next
  dsimp only
  generalize (onFrame env request s.device).2 = device at hcase ⊢
  cases hcase with
  | kept hallocates hcommits hkeeps _ =>
    rw [hallocates, hcommits]
    exact h.of_keeps hkeeps
  | verified hallocates hcommits hkeeps _ _ _ _ _ =>
    rw [hallocates, hcommits]
    exact h.of_keeps hkeeps
  | begun hallocates hparse hflash hoffset hsession hchunk _ =>
    rw [hallocates]
    exact h.begun hparse hflash hoffset hsession hchunk
  | programmed hallocates hcommits hkeeps _ =>
    rw [hallocates, hcommits]
    exact (h.programmed hcommits).of_keeps hkeeps

end Step

theorem sound_init (config : Config) : Recorded.Sound ⟨init config, [], []⟩ := by
  refine ⟨?_, Nat.zero_le _, rfl, rfl, rfl, ?_⟩
  · intro hupgrading
    cases hupgrading
  · intro i id hid
    cases hid

theorem sound_reachable {config : Config} {s : Recorded}
    (h : (recordedSystem config).Reachable s) : s.Sound := by
  refine System.Reachable.invariant ?_ ?_ h
  · rintro s rfl
    exact sound_init config
  · rintro s ⟨env, request⟩ s' hs hstep
    obtain rfl := Option.some.inj hstep
    exact hs.next

/-! ## The flash between two allocations -/

/-- The offset has not gone back, and the bytes below it are the same. -/
structure Extends (state state' : State) : Prop where
  offset : state.firmwareOffset.toNat ≤ state'.firmwareOffset.toNat
  contents : state'.contents.take state.firmwareOffset.toNat =
    state.contents.take state.firmwareOffset.toNat

theorem Extends.trans {first second third : State} (h : Extends first second)
    (h' : Extends second third) : Extends first third := by
  refine ⟨h.offset.trans h'.offset, ?_⟩
  have hstarts := congrArg (List.take first.firmwareOffset.toNat) h'.contents
  rw [List.take_take, List.take_take, Nat.min_eq_left h.offset] at hstarts
  exact hstarts.trans h.contents

theorem Keeps.extends {state state' : State} (h : Keeps state state') : Extends state state' := by
  refine ⟨Nat.le_of_eq (by rw [h.offset]), ?_⟩
  rw [State.contents, State.contents, h.flash]

/-- A request that allocates nothing extends the flash. -/
theorem Recorded.Sound.extends {env : Env} {request : Frame} {s : Recorded} (h : s.Sound)
    (hallocates : s.device.allocates env request = false) :
    Extends s.device (onFrame env request s.device).2 := by
  have hcase := @onFrame_cases env request s.device
  generalize (onFrame env request s.device).2 = device at hcase ⊢
  cases hcase with
  | kept _ _ hkeeps _ => exact hkeeps.extends
  | verified _ _ hkeeps _ _ _ _ _ => exact hkeeps.extends
  | begun hbegun _ _ _ _ _ _ =>
    rw [hallocates] at hbegun
    cases hbegun
  | programmed _ hcommits hkeeps _ =>
    obtain ⟨_, hflash, hoffset, hend, hsum⟩ := h.commits hcommits
    refine Extends.trans ?_ hkeeps.extends
    have hdata : (dataOffset request).toNat = s.device.firmwareOffset.toNat := by rw [hoffset]
    rw [← hdata] at hend
    obtain ⟨_, htake⟩ := program_contents hflash hend
    constructor
    · show _ ≤ (s.device.firmwareOffset + (dataBytes request).length.toUInt32).toNat
      rw [hsum]
      exact Nat.le_add_right _ _
    · have hstarts := congrArg (List.take s.device.firmwareOffset.toNat) htake
      rw [List.take_take, hdata, Nat.min_eq_left (Nat.le_add_right _ _)] at hstarts
      rw [hdata, hstarts]
      refine (List.take_append_of_le_length ?_).trans (by rw [List.take_take, Nat.min_self])
      rw [List.length_take]
      exact Nat.le_min.mpr ⟨Nat.le_refl _, h.offset_le⟩

/-- So does a run of such requests. -/
theorem Recorded.Sound.extends_run {config : Config} {events : List (Env × Frame)}
    {s t : Recorded} (h : s.Sound)
    (hrun : (recordedSystem config).runBy
      (fun s e => s.device.allocates e.1 e.2 = false) s events = some t) :
    Extends s.device t.device := by
  induction events generalizing s with
  | nil =>
    obtain rfl := Option.some.inj hrun
    exact (Keeps.refl _).extends
  | cons e events ih =>
    rw [System.runBy] at hrun
    split at hrun
    · rename_i hallocates
      have hnext : Extends s.device (s.next e.1 e.2).device := by
        rw [next_device]
        exact h.extends hallocates
      exact hnext.trans (ih h.next hrun)
    · cases hrun

/-! ## Requests for other sessions -/

/-- The requests that carry a session id. -/
def isSessionRequest (type : UInt8) : Prop :=
  type = Msg.fwData ∨ type = Msg.fwStatus ∨ type = Msg.fwEnd ∨ type = Msg.fwVerify ∨
    type = Msg.fwActivate

/-- Their handlers. -/
theorem handle_dispatch (env : Env) (request : Frame) (state : State) :
    (request.type = Msg.fwData → handle env request state = fwData env request state) ∧
    (request.type = Msg.fwStatus → handle env request state = fwStatus request state) ∧
    (request.type = Msg.fwEnd → handle env request state = fwEnd request state) ∧
    (request.type = Msg.fwVerify → handle env request state = fwVerify request state) ∧
    (request.type = Msg.fwActivate → handle env request state = fwActivate request state) := by
  refine ⟨?_, ?_, ?_, ?_, ?_⟩
  all_goals
    intro h
    rw [handle, h]
    rfl

theorem handle_refuses {env : Env} {request : Frame} {state : State}
    (htype : isSessionRequest request.type)
    (hid : getLe32 request.payload ≠ state.firmwareSessionId) :
    ∃ code, handle env request state = (.nack code, state) := by
  have haddressed : ¬ state.addressed request.payload := fun h => hid h.2
  obtain ⟨hdata, hstatus, hend, hverify, hactivate⟩ := handle_dispatch env request state
  rcases htype with h | h | h | h | h
  · rw [hdata h, fwData, if_pos (.inr (.inr hid))]
    exact ⟨_, rfl⟩
  · rw [hstatus h, fwStatus, if_pos (.inr haddressed)]
    exact ⟨_, rfl⟩
  · rw [hend h, fwEnd, if_pos (.inr (.inl haddressed))]
    exact ⟨_, rfl⟩
  · rw [hverify h, fwVerify, if_pos (.inr (.inl haddressed))]
    exact ⟨_, rfl⟩
  · rw [hactivate h, fwActivate, if_pos (.inr haddressed)]
    exact ⟨_, rfl⟩

/-- A request for another session gets a NACK, and only the counter of frames moves. -/
theorem onFrame_refuses {env : Env} {request : Frame} {state : State}
    (htype : isSessionRequest request.type)
    (hid : getLe32 request.payload ≠ state.firmwareSessionId) :
    (onFrame env request state).1.type = Msg.nack ∧
      (onFrame env request state).2 = { state with rxFrames := state.rxFrames + 1 } := by
  obtain ⟨code, hhandle⟩ :=
    @handle_refuses env request { state with rxFrames := state.rxFrames + 1 } htype hid
  unfold onFrame
  rw [hhandle]
  exact ⟨rfl, rfl⟩

/-- The id of an earlier session is not the current one, unless the counter has gone all
the way round. -/
theorem Recorded.Sound.earlier_ne {s : Recorded} (h : s.Sound) {i : Nat} {id : UInt32}
    (hid : s.issued[i]? = some id) (hearlier : i + 1 < s.issued.length)
    (hclose : s.issued.length - 1 - i < 2 ^ 32 - 1) : id ≠ s.device.firmwareSessionId := by
  obtain ⟨last, hlast⟩ : ∃ last, s.issued[s.issued.length - 1]? = some last :=
    ⟨_, List.getElem?_eq_getElem (by omega)⟩
  have hcurrent : s.device.firmwareSessionId = last := by
    rw [h.current, lastIssued, List.getLast?_eq_getElem?, hlast, Option.getD_some]
  intro hsame
  rw [hcurrent] at hsame
  have hdraw := h.draws i id hid
  have hdraw' := h.draws _ last hlast
  rw [hsame, hdraw'] at hdraw
  exact SkipZero.iter_ne Nat.one_pos (by decide) (by omega) hclose hdraw.symm

/-- For any requests: an upgrade in progress has a buffer of a legal size with the offset
inside; the bytes below the offset are those of the committed `FW_DATA` requests, one
behind the other; until the next buffer is allocated the offset does not go back and the
bytes below it do not change; and a request for another session, an earlier one among
them, is refused and changes nothing. -/
theorem flash_append_only {config : Config} {s : Recorded}
    (h : (recordedSystem config).Reachable s) :
    (s.device.firmwareUpgrading = true →
      s.device.flash.isSome = true ∧ 0 < s.device.flashSize ∧
        s.device.flashSize ≤ 16 * 1024 * 1024 ∧
        s.device.firmwareOffset.toNat ≤ s.device.flashSize ∧
        1 ≤ s.device.firmwareChunkSize.toNat ∧ s.device.firmwareChunkSize.toNat ≤ 4088) ∧
    (InOrder 0 s.committed s.device.firmwareOffset.toNat ∧
      s.device.contents.take s.device.firmwareOffset.toNat =
        s.committed.flatMap dataBytes) ∧
    (∀ events t,
      (recordedSystem config).runBy (fun s e => s.device.allocates e.1 e.2 = false) s events =
        some t →
      s.device.firmwareOffset.toNat ≤ t.device.firmwareOffset.toNat ∧
        t.device.contents.take s.device.firmwareOffset.toNat =
          s.device.contents.take s.device.firmwareOffset.toNat) ∧
    (∀ env request, isSessionRequest request.type →
      getLe32 request.payload ≠ s.device.firmwareSessionId →
      (onFrame env request s.device).1.type = Msg.nack ∧
        (onFrame env request s.device).2 =
          { s.device with rxFrames := s.device.rxFrames + 1 }) ∧
    ∀ i id, s.issued[i]? = some id → i + 1 < s.issued.length →
      s.issued.length - 1 - i < 2 ^ 32 - 1 → id ≠ s.device.firmwareSessionId := by
  have hs := sound_reachable h
  refine ⟨?_, ⟨hs.ordered, hs.written⟩, ?_, fun env request => onFrame_refuses, ?_⟩
  · intro hupgrading
    obtain ⟨hflash, hpos, hmax, hchunk, hlimit⟩ := hs.upgrading hupgrading
    exact ⟨hflash, hpos, hmax, hs.offset_le, hchunk, hlimit⟩
  · intro events t hrun
    have hextends := hs.extends_run hrun
    exact ⟨hextends.offset, hextends.contents⟩
  · intro i id hid hearlier hclose
    exact hs.earlier_ne hid hearlier hclose

/-- A request, over fresh memory that is all zero. -/
def zeroEvent (type : UInt8) (payload : List UInt8) (h : payload.length ≤ maxPayload) :
    Env × Frame :=
  (⟨0, some fun _ => 0⟩, ⟨type, Flag.ackRequired, 1, payload, h⟩)

/-- `FW_BEGIN` for an image of `size` bytes, in chunks of one byte. -/
def beginEvent (size crc : UInt32) : Env × Frame :=
  zeroEvent Msg.fwBegin (putLe32 size ++ putLe32 crc ++ [1, 0, 0x31, 0]) (by simp [maxPayload])

/-- `FW_DATA` with one byte. -/
def byteEvent (session offset : UInt32) (byte : UInt8) : Env × Frame :=
  zeroEvent Msg.fwData (putLe32 session ++ putLe32 offset ++ [byte]) (by simp [maxPayload])

/-- One byte of a first session, and then a second session. -/
def twoSessions : List (Env × Frame) :=
  [zeroEvent Msg.enterBootloader [] (Nat.zero_le _), beginEvent 2 0,
    byteEvent 1 0 0xAB, beginEvent 3 0]

/-- In the second session, the next byte of the first one is refused. -/
theorem flash_append_only_two_sessions :
    ∃ s, (recordedSystem ⟨-1, false⟩).runFrom ⟨init ⟨-1, false⟩, [], []⟩ twoSessions = some s ∧
      s.device.firmwareUpgrading = true ∧ s.issued = [1, 2] ∧ s.device.firmwareSessionId = 2 ∧
      (onFrame ⟨0, none⟩
        ⟨Msg.fwData, 0, 2, putLe32 1 ++ putLe32 1 ++ [0xCD], by simp [maxPayload]⟩
        s.device).1.type = Msg.nack := by
  refine ⟨_, rfl, by decide +kernel, by decide +kernel, by decide +kernel, ?_⟩
  have hreach : (recordedSystem ⟨-1, false⟩).Reachable _ :=
    System.Reachable.runFrom rfl
      (show (recordedSystem ⟨-1, false⟩).runFrom ⟨init ⟨-1, false⟩, [], []⟩ twoSessions = some _
        from rfl)
  exact ((flash_append_only hreach).2.2.2.1 ⟨0, none⟩
    ⟨Msg.fwData, 0, 2, putLe32 1 ++ putLe32 1 ++ [0xCD], by simp [maxPayload]⟩ (.inl rfl)
    (by decide +kernel)).1

end Simulator
