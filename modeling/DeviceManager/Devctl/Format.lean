import DeviceManager.Daemon.Answers
import DeviceManager.Simulator.Simulator
import DeviceManager.Stm32.Application
import DeviceManager.Devctl.Client

/-!
# The formats of `devctl`

`devctl` builds payloads that the daemon and the device read, and prints payloads that they
built, each with code of its own.

* `command_cases`: the requests that the operands can ask for.
* `upgrade_request_read`: the daemon reads the path and the version that `devctl` wrote, or
  refuses the version.
* `printInfo_strings`: five strings behind a word are printed as they are.
* `simulator_report` and `application_report`: the answer of a device is left in the output of the
  client that waits for it, and what is printed of it is the state of the device.
-/

namespace Devctl

open Devmgr Daemon

/-! ## Strings -/

/-- A string constant has no terminator inside. -/
theorem nonzero_of_all {bytes : List UInt8} (h : bytes.all (· != 0) = true) :
    ∀ b ∈ bytes, b ≠ 0 :=
  fun b hb => bne_iff_ne.mp (List.all_eq_true.mp h b hb)

/-- A string and its terminator, wherever they stand. -/
theorem memchrNul_terminated {value : List UInt8} (h : ∀ b ∈ value, b ≠ 0)
    (tail : List UInt8) : memchrNul (value ++ 0 :: tail) = some value.length :=
  memchrNul_cstring ⟨value, Nat.lt_succ_self _, h⟩ tail

theorem nextString_at (front : List UInt8) {value : List UInt8} (h : ∀ b ∈ value, b ≠ 0)
    (tail : List UInt8) :
    nextString (front ++ (value ++ 0 :: tail)) front.length =
      (some value, (front ++ (value ++ [0])).length) := by
  have hinside : ¬ front.length ≥ (front ++ (value ++ 0 :: tail)).length := by
    simp only [List.length_append, List.length_cons]
    omega
  rw [nextString, if_neg hinside, List.drop_left, memchrNul_terminated h]
  dsimp only
  rw [List.take_left, List.length_append, List.length_append, List.length_singleton, Nat.add_assoc]

theorem printInfo_strings (deviceId : UInt32)
    {model hardware firmware bootloader serial : List UInt8}
    (hmodel : ∀ b ∈ model, b ≠ 0) (hhardware : ∀ b ∈ hardware, b ≠ 0)
    (hfirmware : ∀ b ∈ firmware, b ≠ 0) (hbootloader : ∀ b ∈ bootloader, b ≠ 0)
    (hserial : ∀ b ∈ serial, b ≠ 0) {payload : List UInt8}
    (hpayload : payload = putLe32 deviceId ++ (model ++ 0 :: (hardware ++ 0 :: (firmware ++ 0 ::
      (bootloader ++ 0 :: (serial ++ [0])))))) :
    printInfo payload = .info deviceId model hardware firmware bootloader serial := by
  -- each string is read behind the ones before it
  have hnext : ∀ {front value tail : List UInt8}, payload = front ++ (value ++ 0 :: tail) →
      (∀ b ∈ value, b ≠ 0) →
      nextString payload front.length = (some value, (front ++ (value ++ [0])).length) ∧
        payload = (front ++ (value ++ [0])) ++ tail := by
    intro front value tail hfront hvalue
    rw [hfront, nextString_at front hvalue]
    exact ⟨rfl, by simp only [List.append_assoc, List.cons_append, List.nil_append]⟩
  obtain ⟨hfirst, hrest⟩ := hnext hpayload hmodel
  obtain ⟨hsecond, hrest⟩ := hnext hrest hhardware
  obtain ⟨hthird, hrest⟩ := hnext hrest hfirmware
  obtain ⟨hfourth, hrest⟩ := hnext hrest hbootloader
  obtain ⟨hfifth, _⟩ := hnext hrest hserial
  have hword : getLe32 payload = deviceId := by
    rw [hpayload]
    exact getLe32_putLe32 deviceId _
  rw [putLe32_length] at hfirst
  unfold printInfo
  rw [hfirst]
  dsimp only
  rw [hsecond]
  dsimp only
  rw [hthird]
  dsimp only
  rw [hfourth]
  dsimp only
  rw [hfifth, hword]

/-! ## Requests -/

/-- The payload of `upgrade`. -/
def upgradePayload (path version : List UInt8) : List UInt8 := path ++ [0] ++ (version ++ [0])

/-- The requests that the operands can ask for: a command alone, an interval, the number of an
operation, or a path and a version. -/
inductive Asks (realpath : Argument → Option ResolvedPath) (operands : List Argument) :
    IpcRequest → Prop
  | plain {request : IpcRequest} (hpayload : request.payload = [])
      (hcommand : request.command ∈ [Msg.ping, Msg.getInfo, Msg.getHealth, Msg.getStats,
        Msg.stopTelemetry, IpcCommand.getTelemetry]) : Asks realpath operands request
  | interval {interval : Nat} (hlow : 100 ≤ interval) (hhigh : interval ≤ 60000) :
      Asks realpath operands (wordRequest Msg.startTelemetry interval)
  | operation {operation : Nat} (hlow : 0 < operation) (hhigh : operation < 2 ^ 32) :
      Asks realpath operands (wordRequest IpcCommand.upgradeStatus operation)
  | upgrade {request : IpcRequest} {name operand : Argument} {rest : List Argument}
      {resolved : ResolvedPath} {version : List UInt8}
      (hoperands : operands = name :: operand :: rest)
      (hresolved : realpath operand = some resolved)
      (hversion : version = (rest.head?.map Argument.bytes).getD defaultVersion)
      (hcommand : request.command = IpcCommand.upgrade)
      (hpayload : request.payload = upgradePayload resolved.bytes version) :
      Asks realpath operands request

section Command

variable {realpath : Argument → Option ResolvedPath} {operands : List Argument}
  {request : IpcRequest}

theorem plain_asks {command : UInt8} {rest : List Argument}
    (hcommand : command ∈ [Msg.ping, Msg.getInfo, Msg.getHealth, Msg.getStats,
      Msg.stopTelemetry, IpcCommand.getTelemetry])
    (h : plain command rest = .ok request) : Asks realpath operands request := by
  unfold Devctl.plain at h
  split at h
  · cases h
    exact .plain rfl hcommand
  · cases h

theorem telemetryStart_asks {rest : List Argument} (h : telemetryStart rest = .ok request) :
    Asks realpath operands request := by
  unfold telemetryStart at h
  split at h
  · cases h
    exact .interval (by decide) (by decide)
  · dsimp only at h
    split at h
    · cases h
    · rename_i hbounds
      cases h
      exact .interval (by omega) (by omega)
  · cases h

theorem upgradeStatus_asks {rest : List Argument} (h : upgradeStatus rest = .ok request) :
    Asks realpath operands request := by
  unfold upgradeStatus at h
  split at h
  · dsimp only at h
    split at h
    · cases h
    · rename_i hbounds
      cases h
      exact .operation (by omega) (by omega)
  · cases h

theorem upgrade_asks {name : Argument} {rest : List Argument} (hoperands : operands = name :: rest)
    (h : upgrade realpath rest = .ok request) : Asks realpath operands request := by
  unfold Devctl.upgrade at h
  split at h
  · cases h
  · rename_i operand rest
    split at h
    · cases h
    · rename_i resolved hresolved
      dsimp only at h
      split at h
      · cases h
      · cases h
        exact .upgrade hoperands hresolved rfl rfl rfl

theorem branch_asks {test : Prop} [Decidable test] {first rest : Except Report IpcRequest}
    (hfirst : first = .ok request → Asks realpath operands request)
    (hrest : rest = .ok request → Asks realpath operands request) :
    (if test then first else rest) = .ok request → Asks realpath operands request := by
  split
  · exact hfirst
  · exact hrest

theorem command_cases (h : command realpath operands = .ok request) :
    Asks realpath operands request := by
  revert h
  unfold command
  split
  · exact nofun
  · exact branch_asks nofun <| branch_asks (plain_asks (by decide)) <|
      branch_asks (plain_asks (by decide)) <| branch_asks (plain_asks (by decide)) <|
      branch_asks (plain_asks (by decide)) <| branch_asks telemetryStart_asks <|
      branch_asks (plain_asks (by decide)) <| branch_asks (plain_asks (by decide)) <|
      branch_asks (upgrade_asks rfl) <| branch_asks upgradeStatus_asks nofun

end Command

/-- The daemon reads the path and the version that were written, or refuses the version. -/
theorem parseUpgradeRequest_built {request : IpcRequest} {path version : List UInt8}
    (hpath : ∀ b ∈ path, b ≠ 0) (hsome : path ≠ []) (hversion : ∀ b ∈ version, b ≠ 0)
    (hpayload : request.payload = upgradePayload path version) :
    (parseUpgradeRequest request).map (fun parsed => (parsed.path.bytes, parsed.version.bytes)) =
      if version = [] ∨ version.length > upgradeVersionMax then none else some (path, version) := by
  have hbytes : request.payload = path ++ 0 :: (version ++ [0]) := by
    rw [hpayload, upgradePayload, List.append_assoc]
    rfl
  have hfirst : memchrNul request.payload = some path.length := by
    rw [hbytes]
    exact memchrNul_terminated hpath _
  have hrest : request.payload.drop (path.length + 1) = version ++ [0] := by
    rw [hbytes, ← List.drop_drop, List.drop_left]
    rfl
  have hsecond : memchrNul (version ++ [0]) = some version.length :=
    memchrNul_terminated hversion []
  have hlength : request.payload.length = path.length + 1 + (version.length + 1) := by
    rw [hbytes]
    simp only [List.length_append, List.length_cons, List.length_nil]
    omega
  have hpos : path.length ≠ 0 := fun hzero => hsome (List.eq_nil_of_length_eq_zero hzero)
  have htake : request.payload.take path.length = path := by
    rw [hbytes, List.take_left]
  unfold parseUpgradeRequest
  simp only [hfirst, Option.getD_some, hrest, hsecond, hlength, List.take_left, htake]
  by_cases hrefused : version = [] ∨ version.length > upgradeVersionMax
  · rw [if_pos hrefused, dif_pos]
    · rfl
    · rcases hrefused with rfl | hlong
      · exact .inr (.inr (.inr (.inr (.inl rfl))))
      · exact .inr (.inr (.inr (.inr (.inr hlong))))
  · rw [if_neg hrefused, dif_neg]
    · rfl
    · rintro (hnone | hzero | hshort | hnone | hempty | hlong)
      · cases hnone
      · exact hpos hzero
      · omega
      · cases hnone
      · exact hrefused (.inl (List.eq_nil_of_length_eq_zero hempty))
      · exact hrefused (.inr hlong)

/-- The version that `upgrade` sends is a C string, given or not. -/
theorem version_nonzero (rest : List Argument) :
    ∀ b ∈ (rest.head?.map Argument.bytes).getD defaultVersion, b ≠ 0 := by
  cases rest with
  | nil => exact nonzero_of_all rfl
  | cons version rest => exact version.nonzero

/-- An upgrade that `devctl` sends is the resolved path of its first operand and the version of
its second.  The daemon reads these two, and refuses exactly the versions that are empty or that
do not fit. -/
theorem upgrade_request_read {realpath : Argument → Option ResolvedPath}
    {operands : List Argument} {request : IpcRequest}
    (hasked : command realpath operands = .ok request)
    (hupgrade : request.command = IpcCommand.upgrade) :
    ∃ name operand rest resolved, operands = name :: operand :: rest ∧
      realpath operand = some resolved ∧
      let version := (rest.head?.map Argument.bytes).getD defaultVersion
      (parseUpgradeRequest request).map
        (fun parsed => (parsed.path.bytes, parsed.version.bytes)) =
          if version = [] ∨ version.length > upgradeVersionMax then none
          else some (resolved.bytes, version) := by
  cases command_cases hasked with
  | plain _ hcommand =>
    rw [hupgrade] at hcommand
    exact absurd hcommand (by decide)
  | interval => exact absurd hupgrade nofun
  | operation => exact absurd hupgrade nofun
  | @upgrade _ name operand rest resolved version hoperands hresolved hversion _ hpayload =>
    subst hversion
    exact ⟨name, operand, rest, resolved, hoperands, hresolved,
      parseUpgradeRequest_built resolved.nonzero resolved.nonempty (version_nonzero rest) hpayload⟩

/-- `upgrade a`, where `a` is `/a`. -/
def upgradeOperands : List Argument :=
  [⟨text ['u', 'p', 'g', 'r', 'a', 'd', 'e'], nonzero_of_all rfl⟩,
    ⟨text ['a'], nonzero_of_all rfl⟩]

def rootPath (_ : Argument) : Option ResolvedPath :=
  some ⟨⟨text ['/', 'a'], Nat.lt_of_sub_eq_succ rfl, nonzero_of_all rfl⟩, List.cons_ne_nil _ _⟩

theorem upgrade_request_read_default :
    ∃ request, command rootPath upgradeOperands = .ok request ∧
      (parseUpgradeRequest request).map
        (fun parsed => (parsed.path.bytes, parsed.version.bytes)) =
          some (text ['/', 'a'], text ['1', '.', '1', '.', '0']) := by
  have hasked : command rootPath upgradeOperands =
      .ok ⟨IpcCommand.upgrade, upgradePayload (text ['/', 'a']) defaultVersion,
        Nat.le_of_ble_eq_true rfl⟩ := rfl
  obtain ⟨name, operand, rest, resolved, hoperands, hresolved, hread⟩ :=
    upgrade_request_read hasked rfl
  cases hoperands
  cases hresolved
  exact ⟨_, hasked, hread⟩

/-! ## Answers of a device -/

/-- A payload that a frame carried fits into a response. -/
theorem clientResponse_eq {payload : List UInt8} (h : payload.length ≤ ipcMaxPayload)
    (command : UInt8) (status : Int) :
    clientResponse command status payload = ⟨command, Int32.ofInt status, payload, h⟩ :=
  dif_neg (Nat.not_lt.mpr h)

/-- What `devctl` asks of a device: a command alone, or an interval that the device allows. -/
theorem forDevice_cases {realpath : Argument → Option ResolvedPath} {operands : List Argument}
    {request : IpcRequest} (h : command realpath operands = .ok request)
    (hdevice : forDevice request.command) :
    request.payload = [] ∧ request.command ∈ [Msg.ping, Msg.getInfo, Msg.getHealth, Msg.getStats,
      Msg.stopTelemetry] ∨
    ∃ interval, 100 ≤ interval ∧ interval ≤ 60000 ∧
      request = wordRequest Msg.startTelemetry interval := by
  obtain ⟨htelemetry, hstatus, hupgrade⟩ := hdevice
  cases command_cases h with
  | plain hpayload hcommand =>
    have hsplit : request.command ∈ [Msg.ping, Msg.getInfo, Msg.getHealth, Msg.getStats,
        Msg.stopTelemetry] ++ [IpcCommand.getTelemetry] := hcommand
    rcases List.mem_append.mp hsplit with hplain | hcached
    · exact .inl ⟨hpayload, hplain⟩
    · exact absurd (List.mem_singleton.mp hcached) htelemetry
  | interval hlow hhigh => exact .inr ⟨_, hlow, hhigh, rfl⟩
  | operation => exact absurd rfl hstatus
  | upgrade _ _ _ hcommand => exact absurd hcommand hupgrade

theorem forDevice_command {realpath : Argument → Option ResolvedPath} {operands : List Argument}
    {request : IpcRequest} (h : command realpath operands = .ok request)
    (hdevice : forDevice request.command) :
    request.command ∈ [Msg.ping, Msg.getInfo, Msg.getHealth, Msg.getStats, Msg.stopTelemetry,
      Msg.startTelemetry] := by
  rcases forDevice_cases h hdevice with ⟨_, hplain⟩ | ⟨interval, _, _, rfl⟩
  · exact List.mem_append_left [Msg.startTelemetry] hplain
  · show Msg.startTelemetry ∈ _
    decide

/-- A frame that the session takes for an answer settles the request in the slot. -/
theorem heard_settles {context : Context} {connection : Nat} {request : IpcRequest}
    {answer : Frame} (hsends : context.Sends connection request)
    (hanswers : context.session.Answers answer) (htype : answer.type ≠ Msg.telemetry) :
    context.Settles connection request answer
      (clientResponse request.command (frameStatus answer) answer.payload) where
  sends := hsends
  takes := ⟨fun htelemetry => htype htelemetry.1, by rw [sessionAcceptResponse_of_answers hanswers]⟩
  response := rfl

/-- A payload under the type of the request settles it with `DEVMGR_OK`. -/
theorem accepted_settles {realpath : Argument → Option ResolvedPath} {operands : List Argument}
    {request : IpcRequest} (hasked : command realpath operands = .ok request)
    {context : Context} {connection : Nat}
    (hsends : context.Sends connection request)
    (hpending : context.session.pending.active = true) (payload : List UInt8)
    (hle : payload.length ≤ maxPayload) :
    context.Settles connection request ⟨context.session.pending.frame.type, Flag.response,
      context.session.pending.frame.sequence, payload, hle⟩
      (clientResponse request.command Status.ok.code payload) := by
  obtain ⟨htelemetry, hfailure⟩ : request.command ≠ Msg.telemetry ∧
      ¬ isFailure request.command := by
    have hcommand := forDevice_command hasked hsends.device
    simp only [List.mem_cons, List.not_mem_nil, or_false] at hcommand
    rcases hcommand with hcommand | hcommand | hcommand | hcommand | hcommand | hcommand
    all_goals
      rw [hcommand]
      decide
  rw [← hsends.type] at htelemetry hfailure
  have hflag : Flag.response &&& Flag.response ≠ 0 := by decide
  have hsettles := @heard_settles _ _ _ ⟨_, Flag.response, _, payload, hle⟩ hsends
    ⟨hpending, rfl, .inl ⟨rfl, hflag⟩⟩ htelemetry
  rwa [frameStatus, if_neg hfailure] at hsettles

/-! ### The simulator -/

/-! The strings of its `GET_INFO`. -/

def simulatorModel : List UInt8 := text ['S', 'T', 'M', '3', '2', '-', 'S', 'I', 'M']
def simulatorHardware : List UInt8 := text ['H', 'W', '-', '1', '.', '0']
def simulatorBootloader : List UInt8 := text ['B', 'L', '-', '1', '.', '0', '.', '0']
def simulatorSerial : List UInt8 :=
  text ['S', 'I', 'M', '0', '0', '0', '0', '0', '0', '0', '1']

/-- A string that fits is written behind the payload. -/
theorem putString_fits {payload value : List UInt8}
    (h : payload.length + (value.length + 1) ≤ maxPayload) :
    Simulator.putString payload value = payload ++ value ++ [0] :=
  if_pos h

/-- Every version fits, so all five strings are there. -/
theorem getInfo_payload (state : Simulator.State) :
    ∃ hle, (Simulator.getInfo state).1 = .accept (putLe32 state.deviceId ++
      (simulatorModel ++ 0 :: (simulatorHardware ++ 0 :: (state.firmwareVersion.bytes ++ 0 ::
        (simulatorBootloader ++ 0 :: (simulatorSerial ++ [0])))))) hle := by
  have hversion : state.firmwareVersion.bytes.length < 32 := state.firmwareVersion.length_lt
  have hmodel : simulatorModel.length = 9 := rfl
  have hhardware : simulatorHardware.length = 6 := rfl
  have hbootloader : simulatorBootloader.length = 8 := rfl
  have hserial : simulatorSerial.length = 11 := rfl
  have hpayload : Simulator.putString (Simulator.putString (Simulator.putString
      (Simulator.putString (Simulator.putString (putLe32 state.deviceId) simulatorModel)
        simulatorHardware) state.firmwareVersion.bytes) simulatorBootloader) simulatorSerial =
      putLe32 state.deviceId ++ (simulatorModel ++ 0 :: (simulatorHardware ++ 0 ::
        (state.firmwareVersion.bytes ++ 0 :: (simulatorBootloader ++ 0 ::
          (simulatorSerial ++ [0]))))) := by
    -- from the inside out: the first string is the first to be written
    rw [@putString_fits (putLe32 state.deviceId), @putString_fits (_ ++ _ ++ _) simulatorHardware,
      @putString_fits (_ ++ _ ++ _) state.firmwareVersion.bytes,
      @putString_fits (_ ++ _ ++ _) simulatorBootloader,
      @putString_fits (_ ++ _ ++ _) simulatorSerial]
    · simp only [List.append_assoc, List.cons_append, List.nil_append]
    all_goals
      simp only [List.length_append, putLe32_length, List.length_singleton, maxPayload, hmodel,
        hhardware, hbootloader, hserial]
      omega
  refine ⟨?_, ?_⟩
  · rw [← hpayload]
    exact Simulator.putString_le (Simulator.putString_le (Simulator.putString_le
      (Simulator.putString_le (Simulator.putString_le (by simp [maxPayload]) _) _) _) _) _
  · simp only [← hpayload]
    rfl

/-- What a simulator in a state is to be reported with. -/
def simulatorReport (state : Simulator.State) (request : IpcRequest) (elapsedNs : UInt64) :
    Report :=
  if request.command = Msg.ping then .roundTrip elapsedNs
  else if request.command = Msg.getInfo then
    .info state.deviceId simulatorModel simulatorHardware state.firmwareVersion.bytes
      simulatorBootloader simulatorSerial
  else if request.command = Msg.getHealth then
    .health state.temperatureMillic state.voltageMv 0
  else if request.command = Msg.getStats then
    .stats state.rxFrames.toUInt32 state.txFrames.toUInt32 state.errors.toUInt32
  else if request.command = Msg.startTelemetry then .telemetryStarted (getLe32 request.payload)
  else .telemetryStopped

/-- What a simulator is to do about its telemetry. -/
def telemetryAfter (request : IpcRequest) (state : Simulator.State) : Bool × UInt32 :=
  if request.command = Msg.startTelemetry then (true, getLe32 request.payload)
  else if request.command = Msg.stopTelemetry then (false, state.telemetryIntervalMs)
  else (state.telemetryEnabled, state.telemetryIntervalMs)

/-- The simulator accepts the request, its answer is printed as its state, and it does what is
asked. -/
def Reported (env : Simulator.Env) (state : Simulator.State) (frame : Frame)
    (request : IpcRequest) (elapsedNs : UInt64) : Prop :=
  ∃ payload hle, (Simulator.handle env frame state).1 = .accept payload hle ∧
    printResponse request.command (clientResponse request.command Status.ok.code payload)
      elapsedNs = [simulatorReport state request elapsedNs] ∧
    ((Simulator.handle env frame state).2.telemetryEnabled,
      (Simulator.handle env frame state).2.telemetryIntervalMs) = telemetryAfter request state

section Simulator

variable {env : Simulator.Env} {state : Simulator.State} {frame : Frame} {request : IpcRequest}
  {elapsedNs : UInt64}

/-- The words of an answer of three. -/
theorem threeWords_drop (first second third : UInt32) :
    getLe32 ((putLe32 first ++ putLe32 second ++ putLe32 third).drop 0) = first ∧
    getLe32 ((putLe32 first ++ putLe32 second ++ putLe32 third).drop 4) = second ∧
    getLe32 ((putLe32 first ++ putLe32 second ++ putLe32 third).drop 8) = third := by
  refine ⟨?_, getLe32_putLe32 second (putLe32 third), getLe32_putLe32_self third⟩
  rw [List.drop_zero, List.append_assoc]
  exact getLe32_putLe32 _ _

theorem printResponse_info {payload : List UInt8} {report : Report} (hshort : 4 ≤ payload.length)
    (hfits : payload.length ≤ ipcMaxPayload) (h : printInfo payload = report) :
    printResponse Msg.getInfo (clientResponse Msg.getInfo Status.ok.code payload) elapsedNs =
      [report] := by
  rw [clientResponse_eq hfits, ← h]
  exact if_pos ⟨rfl, hshort⟩

theorem printResponse_health (temperature voltage flags : UInt32) :
    printResponse Msg.getHealth (clientResponse Msg.getHealth Status.ok.code
      (putLe32 temperature ++ putLe32 voltage ++ putLe32 flags)) elapsedNs =
      [.health temperature.toInt32 voltage flags] := by
  obtain ⟨hfirst, hsecond, hthird⟩ := threeWords_drop temperature voltage flags
  rw [clientResponse_eq (Nat.le_of_ble_eq_true rfl)]
  show [Report.health (getLe32 (List.drop 0 _)).toInt32 (getLe32 (List.drop 4 _))
    (getLe32 (List.drop 8 _))] = _
  rw [hfirst, hsecond, hthird]

theorem printResponse_stats (rxFrames txFrames errors : UInt32) :
    printResponse Msg.getStats (clientResponse Msg.getStats Status.ok.code
      (putLe32 rxFrames ++ putLe32 txFrames ++ putLe32 errors)) elapsedNs =
      [.stats rxFrames txFrames errors] := by
  obtain ⟨hfirst, hsecond, hthird⟩ := threeWords_drop rxFrames txFrames errors
  rw [clientResponse_eq (Nat.le_of_ble_eq_true rfl)]
  show [Report.stats (getLe32 (List.drop 0 _)) (getLe32 (List.drop 4 _))
    (getLe32 (List.drop 8 _))] = _
  rw [hfirst, hsecond, hthird]

theorem handle_plain (hcommand : request.command ∈ [Msg.ping, Msg.getInfo, Msg.getHealth,
      Msg.getStats, Msg.stopTelemetry]) (htype : frame.type = request.command) :
    Reported env state frame request elapsedNs := by
  obtain ⟨command, payload, hle⟩ := request
  simp only [List.mem_cons, List.not_mem_nil, or_false] at hcommand
  unfold Reported Simulator.handle
  rw [htype]
  rcases hcommand with rfl | rfl | rfl | rfl | rfl
  · refine ⟨frame.payload, frame.payload_le, rfl, ?_, rfl⟩
    rw [@clientResponse_eq frame.payload frame.payload_le]
    rfl
  · obtain ⟨hle, hinfo⟩ := getInfo_payload state
    refine ⟨_, hle, hinfo, ?_, rfl⟩
    refine printResponse_info ?_ hle (printInfo_strings state.deviceId (nonzero_of_all rfl)
      (nonzero_of_all rfl) state.firmwareVersion.nonzero (nonzero_of_all rfl) (nonzero_of_all rfl)
      rfl)
    rw [List.length_append, putLe32_length]
    exact Nat.le_add_right _ _
  · exact ⟨_, _, rfl, printResponse_health _ _ _, rfl⟩
  · exact ⟨_, _, rfl, printResponse_stats _ _ _, rfl⟩
  · exact ⟨[], Nat.zero_le _, rfl, rfl, rfl⟩

theorem handle_interval {interval : Nat} (hlow : 100 ≤ interval) (hhigh : interval ≤ 60000)
    (htype : frame.type = Msg.startTelemetry)
    (hsame : frame.payload = putLe32 interval.toUInt32) :
    Reported env state frame (wordRequest Msg.startTelemetry interval) elapsedNs := by
  have hword : getLe32 frame.payload = interval.toUInt32 := by
    rw [hsame, getLe32_putLe32_self]
  have hnat : interval.toUInt32.toNat = interval :=
    Nat.mod_eq_of_lt (by omega)
  have hallowed : ¬ (interval.toUInt32 < 100 ∨ interval.toUInt32 > 60000) := by
    simp only [UInt32.lt_iff_toNat_lt, gt_iff_lt, hnat, UInt32.toNat_ofNat]
    omega
  have hstart : Simulator.handle env frame state = Simulator.startTelemetry env frame state := by
    unfold Simulator.handle
    rw [htype]
    rfl
  unfold Reported
  rw [hstart, Simulator.startTelemetry, if_neg (by rw [hsame, putLe32_length]; decide)]
  dsimp only
  rw [hword, if_neg hallowed]
  have hrequest : getLe32 (wordRequest Msg.startTelemetry interval).payload =
      interval.toUInt32 := getLe32_putLe32_self _
  refine ⟨_, _, rfl, ?_, ?_⟩
  · rw [clientResponse_eq (Nat.le_of_ble_eq_true rfl)]
    show [Report.telemetryStarted (getLe32 (putLe32 _))] =
      [Report.telemetryStarted (getLe32 (wordRequest _ _).payload)]
    rw [hrequest, getLe32_putLe32_self]
  · show (true, interval.toUInt32) = (true, getLe32 (wordRequest _ _).payload)
    rw [hrequest]

end Simulator

/-- Whatever the simulator's state, a device command of `devctl` is accepted, the daemon leaves the
answer in the output of the client that waits for it, and what is printed is that state: the five
strings, the values and the counters are printed as the simulator has them, and telemetry runs as
asked. -/
theorem simulator_report {realpath : Argument → Option ResolvedPath} {operands : List Argument}
    {request : IpcRequest} (hasked : command realpath operands = .ok request)
    {context : Context} (hreachable : daemonSystem.Reachable context) {index : Slot}
    (hactive : context.activeClient = some index)
    (hsends : context.Sends (context.clients index).connection request) (env : Simulator.Env)
    (state : Simulator.State) (elapsedNs : UInt64) :
    let received := { state with rxFrames := state.rxFrames + 1 }
    let answered := Simulator.onFrame env context.session.pending.frame state
    ∃ response,
      (Deed.heard context answered.1).Answers (context.clients index).connection request response ∧
      (∀ env, ((onDeviceFrame env answered.1 context).2.clients index).output =
        ipcResponseBytes response) ∧
      printResponse request.command response elapsedNs =
        [simulatorReport received request elapsedNs] ∧
      (answered.2.telemetryEnabled, answered.2.telemetryIntervalMs) =
        telemetryAfter request received := by
  dsimp only
  have hserves := (routed_of_reachable hreachable).active index hactive
  have hreported : Reported env { state with rxFrames := state.rxFrames + 1 }
      context.session.pending.frame request elapsedNs := by
    rcases forDevice_cases hasked hsends.device with ⟨_, hplain⟩ | ⟨interval, hlow, hhigh, rfl⟩
    · exact handle_plain hplain hsends.type
    · exact handle_interval hlow hhigh hsends.type hsends.payload
  obtain ⟨payload, hle, haccept, hprinted, htelemetry⟩ := hreported
  have hframe : (Simulator.onFrame env context.session.pending.frame state).1 =
      ⟨context.session.pending.frame.type, Flag.response, context.session.pending.frame.sequence,
        payload, hle⟩ := by
    unfold Simulator.onFrame
    dsimp only
    rw [haccept]
    rfl
  rw [hframe]
  have hsettles := accepted_settles hasked hsends hserves.pending payload hle
  have hdelivers := hsettles.delivers hserves hactive
  exact ⟨_, .heard hsettles fun env => ⟨index, hactive, rfl, hdelivers env⟩, hdelivers, hprinted,
    htelemetry⟩

/-- `telemetry-start 500`. -/
def startOperands : List Argument :=
  [⟨text ['t', 'e', 'l', 'e', 'm', 'e', 't', 'r', 'y', '-', 's', 't', 'a', 'r', 't'],
      nonzero_of_all rfl⟩,
    ⟨text ['5', '0', '0'], nonzero_of_all rfl⟩]

theorem simulator_report_start :
    let simulator := Simulator.init ⟨-1, false⟩
    ∃ context response,
      daemonSystem.runFrom handshakeContext [deviceSends handshakeReply,
        .listener [.accepted true],
        clientSends firstSlot (ipcRequestBytes (wordRequest Msg.startTelemetry 500))] =
          some context ∧
      (∀ env, ((onDeviceFrame env (Simulator.onFrame ⟨0, none⟩ context.session.pending.frame
        simulator).1 context).2.clients firstSlot).output = ipcResponseBytes response) ∧
      printResponse Msg.startTelemetry response 0 = [.telemetryStarted 500] := by
  have hvalues : (daemonSystem.runFrom handshakeContext [deviceSends handshakeReply,
      .listener [.accepted true],
      clientSends firstSlot (ipcRequestBytes (wordRequest Msg.startTelemetry 500))]).map
      (fun context => (context.history.owner, context.session.pending.frame.type,
        context.session.pending.frame.payload, context.activeClient,
        (context.clients firstSlot).connection)) =
      some (.client 0, Msg.startTelemetry, putLe32 500, some firstSlot, 0) := by
    decide +kernel
  obtain ⟨context, hrun, hcontext⟩ := Option.map_eq_some_iff.mp hvalues
  simp only [Prod.mk.injEq] at hcontext
  obtain ⟨howner, htype, hpayload, hactive, hconnection⟩ := hcontext
  have hasked : command (fun _ => none) startOperands =
      .ok (wordRequest Msg.startTelemetry 500) := by
    rfl
  obtain ⟨response, _, hdelivered, hprinted, _⟩ := simulator_report hasked
    (System.Reachable.runFrom handshakeContext_init hrun) hactive
    ⟨hconnection ▸ howner, htype, hpayload, by decide⟩ ⟨0, none⟩ (Simulator.init ⟨-1, false⟩) 0
  exact ⟨context, response, hrun, hdelivered, hprinted⟩

/-! ### The STM32 application -/

/-- What the application is to be reported with: it knows two requests. -/
def applicationReport (request : IpcRequest) (elapsedNs : UInt64) : Report :=
  if request.command = Msg.ping then .roundTrip elapsedNs
  else if request.command = Msg.getInfo then
    .info 0x53494D30 Stm32.applicationModel Stm32.applicationHardware Stm32.applicationFirmware
      Stm32.applicationBootloader Stm32.applicationSerial
  else .commandFailed (Int32.ofInt Status.protocol.code)

/-- The application's answer settles the request, and is printed as that. -/
theorem applicationAnswer_report {realpath : Argument → Option ResolvedPath}
    {operands : List Argument} {request : IpcRequest}
    (hasked : command realpath operands = .ok request)
    {context : Context} {connection : Nat} (hsends : context.Sends connection request)
    (hpending : context.session.pending.active = true) (elapsedNs : UInt64) :
    ∃ response, context.Settles connection request
        (Stm32.applicationAnswer context.session.pending.frame) response ∧
      printResponse request.command response elapsedNs =
        [applicationReport request elapsedNs] := by
  have haccepted := accepted_settles hasked hsends hpending
  unfold Stm32.applicationAnswer applicationReport
  by_cases hping : request.command = Msg.ping
  · rw [if_pos (hsends.type.trans hping), if_pos hping]
    refine ⟨_, haccepted _ context.session.pending.frame.payload_le, ?_⟩
    rw [@clientResponse_eq context.session.pending.frame.payload
      context.session.pending.frame.payload_le, hping]
    rfl
  rw [if_neg (hsends.type ▸ hping), if_neg hping]
  by_cases hinfo : request.command = Msg.getInfo
  · rw [if_pos (hsends.type.trans hinfo), if_pos hinfo]
    refine ⟨_, haccepted Stm32.applicationInfo (Nat.le_of_ble_eq_true rfl), ?_⟩
    rw [hinfo]
    exact printResponse_info (Nat.le_of_ble_eq_true rfl) (Nat.le_of_ble_eq_true rfl)
      (printInfo_strings 0x53494D30 (nonzero_of_all rfl) (nonzero_of_all rfl)
        (nonzero_of_all rfl) (nonzero_of_all rfl) (nonzero_of_all rfl) rfl)
  · rw [if_neg (hsends.type ▸ hinfo), if_neg hinfo]
    have hgeneric : isGenericReply Msg.nack := by decide
    have htelemetry : Msg.nack ≠ Msg.telemetry := by decide
    exact ⟨_, heard_settles hsends ⟨hpending, rfl, .inr hgeneric⟩ htelemetry, rfl⟩

/-- The STM32 decodes the bytes of a request of `devctl`, its application answers into a buffer
of one frame, the host decodes the answer, and it settles the request.  The daemon leaves it in the
output of the client that asked, if that client still waits.  What is printed is the application's
table, or the refusal of what it does not know. -/
theorem application_report {realpath : Argument → Option ResolvedPath} {operands : List Argument}
    {request : IpcRequest} (hasked : command realpath operands = .ok request)
    {context : Context} {connection : Nat}
    (hsends : context.Sends connection request)
    (hpending : context.session.pending.active = true) (elapsedNs : UInt64) :
    ∃ view bytes answer response,
      Stm32.Protocol.frameDecode (frameBytes context.session.pending.frame) = .ok view ∧
      Stm32.applicationHandle view maxFrame = (0, bytes) ∧ frameDecode bytes = .ok answer ∧
      context.Settles connection request answer response ∧
      (daemonSystem.Reachable context → ∀ index, context.activeClient = some index →
        (context.clients index).connection = connection ∧
        ∀ env, ((onDeviceFrame env answer context).2.clients index).output =
          ipcResponseBytes response) ∧
      printResponse request.command response elapsedNs =
        [applicationReport request elapsedNs] := by
  obtain ⟨response, hsettles, hprinted⟩ :=
    applicationAnswer_report hasked hsends hpending elapsedNs
  refine ⟨Stm32.viewOf context.session.pending.frame, _,
    Stm32.applicationAnswer context.session.pending.frame, response,
    Stm32.Protocol.frameDecode_eq_ok.mpr ⟨_, frameDecode_frameBytes _, rfl⟩,
    Stm32.applicationHandle_eq _ ?_, frameDecode_frameBytes _, hsettles, ?_, hprinted⟩
  · have hle := (Stm32.applicationAnswer context.session.pending.frame).payload_le
    unfold maxFrame
    omega
  · intro hreachable index hactive
    have hserves := (routed_of_reachable hreachable).active index hactive
    exact ⟨Owner.client.inj (hserves.owner.symm.trans hsends.owner),
      hsettles.delivers hserves hactive⟩

theorem application_report_info :
    ∃ context bytes answer response,
      daemonSystem.runFrom handshakeContext [deviceSends handshakeReply,
        .listener [.accepted true],
        clientSends firstSlot (ipcRequestBytes ⟨Msg.getInfo, [], Nat.zero_le _⟩)] =
          some context ∧
      frameDecode bytes = .ok answer ∧
      context.Settles 0 ⟨Msg.getInfo, [], Nat.zero_le _⟩ answer response ∧
      (∀ env, ((onDeviceFrame env answer context).2.clients firstSlot).output =
        ipcResponseBytes response) ∧
      printResponse Msg.getInfo response 0 =
        [.info 0x53494D30 Stm32.applicationModel Stm32.applicationHardware
          Stm32.applicationFirmware Stm32.applicationBootloader Stm32.applicationSerial] := by
  have hvalues : (daemonSystem.runFrom handshakeContext [deviceSends handshakeReply,
      .listener [.accepted true],
      clientSends firstSlot (ipcRequestBytes ⟨Msg.getInfo, [], Nat.zero_le _⟩)]).map
      (fun context => (context.history.owner, context.session.pending.frame.type,
        context.session.pending.frame.payload, context.session.pending.active,
        context.activeClient)) =
      some (.client 0, Msg.getInfo, [], true, some firstSlot) := by
    decide +kernel
  obtain ⟨context, hrun, hcontext⟩ := Option.map_eq_some_iff.mp hvalues
  simp only [Prod.mk.injEq] at hcontext
  obtain ⟨howner, htype, hpayload, hpending, hactive⟩ := hcontext
  have hasked : command (fun _ => none) [⟨text ['i', 'n', 'f', 'o'], nonzero_of_all rfl⟩] =
      .ok ⟨Msg.getInfo, [], Nat.zero_le _⟩ := by
    rfl
  obtain ⟨_, bytes, answer, response, _, _, hdecoded, hsettles, hreaches, hprinted⟩ :=
    application_report hasked ⟨howner, htype, hpayload, by decide⟩ hpending 0
  obtain ⟨_, hdelivered⟩ :=
    hreaches (System.Reachable.runFrom handshakeContext_init hrun) firstSlot hactive
  exact ⟨context, bytes, answer, response, hrun, hdecoded, hsettles, hdelivered, hprinted⟩

end Devctl
