import DeviceManager.Lib.Transfer
import DeviceManager.Ipc.Codec
import DeviceManager.Upgrade.Upgrade

/-!
# The client of `apps/devctl/main.c`

`devctl` turns its operands into one request, exchanges it for a response over the socket of
the daemon, prints the response and, for an upgrade, asks for its status until it is over.

* `writeAll` and `readAll` are the two loops on the socket.  Their calls are scripts, and a
  call behind the end of its script has not returned: a `CallResult` may be to wait.  The five
  seconds of `SO_RCVTIMEO` and `SO_SNDTIMEO` end a call with an error, like any other.
* `exchange` is one connection.
* `command` is the part of `main` that reads the operands.  `getopt_long` has taken the
  options away; `strtoul` is that of the C library, for base ten.
* `printResponse` and `waitForUpgrade` give what they print as values, without the texts
  around them.
-/

namespace Devctl

open Devmgr Transfer

/-! ## The socket -/

/-- What a call that may block comes to. -/
inductive CallResult (α : Type)
  | waiting
  | failed (status : Status)
  | done (value : α)
  deriving DecidableEq

def CallResult.bind {α β : Type} : CallResult α → (α → CallResult β) → CallResult β
  | .waiting, _ => .waiting
  | .failed status, _ => .failed status
  | .done value, next => next value

instance : Monad CallResult where
  pure := .done
  bind := .bind

def CallResult.ofExcept {α : Type} : Except Status α → CallResult α
  | .error status => .failed status
  | .ok value => .done value

/-- `write_all`, with what it has written so far. -/
def writeAll (writes : List Attempt) (data : List UInt8) : CallResult Unit × List UInt8 :=
  let offered := offer writes data
  let result : CallResult Unit :=
    match offered.1 with
    | none => .waiting
    | some false => .failed .io
    | some true => .done ()
  (result, offered.2)

/-- `read_all`: the bytes, and what there is to read behind them. -/
def readAll (reads : List (Arrival UInt8)) (length : Nat) :
    CallResult (List UInt8 × List (Arrival UInt8)) :=
  match fetch reads length with
  | .waiting => .waiting
  | .closed => .failed .disconnected
  | .failed => .failed .io
  | .whole data rest => .done (data, rest)

/-- `exchange`; `connected` is whether `connect_socket` gives a descriptor. -/
def exchange (connected : Bool) (writes : List Attempt) (reads : List (Arrival UInt8))
    (command : UInt8) (payload : List UInt8) : CallResult IpcResponse :=
  if h : ipcMaxPayload < payload.length then .failed .invalid
  else if ¬ connected then .failed .io
  else do
    let bytes ← .ofExcept (ipcEncodeRequest ⟨command, payload, Nat.le_of_not_lt h⟩
      (ipcResponseHeaderSize + ipcMaxPayload))
    (writeAll writes bytes).1
    let (header, reads) ← readAll reads ipcResponseHeaderSize
    let payloadLength := (getLe32 (header.drop 8)).toNat
    if payloadLength > ipcMaxPayload then .failed .limit
    else
      let (body, _) ← readAll reads payloadLength
      .ofExcept (ipcDecodeResponse (header ++ body))

/-! ## Reports -/

/-- What `devctl` prints, to either stream. -/
inductive Report
  | commandFailed (status : Int32)
  | roundTrip (elapsedNs : UInt64)
  | info (deviceId : UInt32) (model hardware firmware bootloader serial : List UInt8)
  | malformedInfo
  | health (temperature : Int32) (voltage flags : UInt32)
  | stats (rxFrames txFrames errors : UInt32)
  | telemetryStarted (interval : UInt32)
  | telemetryStopped
  | telemetry (temperature : Int32) (voltage uptime sample : UInt32)
  | upgradeOperation (operation : UInt32)
  | upgradeStatus (operation : UInt32) (state : UInt8) (result : Int32) (offset total : UInt32)
  | progress (state : UInt8) (percent offset total : UInt32)
  | statusFailed (status : Int)
  | installed
  | upgradeFailed (result : Int32)
  | ipcFailed (status : Status)
  | usage
  | badInterval
  | unresolved
  | tooLong
  | badOperation
  deriving DecidableEq

/-- `next_string`: the string at an offset, and the offset behind its terminator. -/
def nextString (payload : List UInt8) (offset : Nat) : Option (List UInt8) × Nat :=
  if offset ≥ payload.length then (none, offset)
  else
    match memchrNul (payload.drop offset) with
    | none => (none, offset)
    | some length => (some ((payload.drop offset).take length), offset + length + 1)

/-- `GET_INFO` in `print_response`: five strings behind the identifier. -/
def printInfo (payload : List UInt8) : Report :=
  let (model, offset) := nextString payload 4
  let (hardware, offset) := nextString payload offset
  let (firmware, offset) := nextString payload offset
  let (bootloader, offset) := nextString payload offset
  let (serial, _) := nextString payload offset
  match model, hardware, firmware, bootloader, serial with
  | some model, some hardware, some firmware, some bootloader, some serial =>
    .info (getLe32 payload) model hardware firmware bootloader serial
  | _, _, _, _, _ => .malformedInfo

/-- `print_response`.  A payload of another size than the command's own is not printed. -/
def printResponse (command : UInt8) (response : IpcResponse) (elapsedNs : UInt64) : List Report :=
  let payload := response.payload
  let word (offset : Nat) : UInt32 := getLe32 (payload.drop offset)
  if response.status ≠ 0 then [.commandFailed response.status]
  else if command = Msg.ping then [.roundTrip elapsedNs]
  else if command = Msg.getInfo ∧ payload.length ≥ 4 then [printInfo payload]
  else if command = Msg.getHealth ∧ payload.length = 12 then
    [.health (word 0).toInt32 (word 4) (word 8)]
  else if command = Msg.getStats ∧ payload.length = 12 then [.stats (word 0) (word 4) (word 8)]
  else if command = Msg.startTelemetry ∧ payload.length = 4 then [.telemetryStarted (word 0)]
  else if command = Msg.stopTelemetry then [.telemetryStopped]
  else if command = IpcCommand.getTelemetry ∧ payload.length = 16 then
    [.telemetry (word 0).toInt32 (word 4) (word 8) (word 12)]
  else if command = IpcCommand.upgrade ∧ payload.length = 4 then [.upgradeOperation (word 0)]
  else if command = IpcCommand.upgradeStatus ∧ payload.length = 20 then
    [.upgradeStatus (word 0) (byteAt payload 4) (word 8).toInt32 (word 12) (word 16)]
  else []

/-! ## Operands -/

/-- A string of `argv`. -/
structure Argument where
  bytes : List UInt8
  nonzero : ∀ b ∈ bytes, b ≠ 0

/-- `PATH_MAX`. -/
def pathMax : Nat := 4096

/-- What `realpath` writes: an absolute path. -/
structure ResolvedPath extends CString pathMax where
  nonempty : bytes ≠ []

/-- `isspace` in the C locale. -/
def isSpace (byte : UInt8) : Bool := byte == 0x20 || (0x09 ≤ byte && byte ≤ 0x0D)

/-- `isdigit`. -/
def isDigit (byte : UInt8) : Bool := 0x30 ≤ byte && byte ≤ 0x39

def decimal (digits : List UInt8) : Nat :=
  digits.foldl (fun value digit => value * 10 + (digit.toNat - 0x30)) 0

/-- `ULONG_MAX`. -/
def ulongMax : Nat := 2 ^ 64 - 1

/-- `strtoul` with base ten: the value, and the text from `*end` on.  A minus sign negates
modulo `ULONG_MAX + 1`, and a text without digits is not converted at all. -/
def strtoul (text : List UInt8) : Nat × List UInt8 :=
  let trimmed := text.dropWhile isSpace
  let negative := trimmed.head? = some 0x2D
  let unsigned := if negative ∨ trimmed.head? = some 0x2B then trimmed.tail else trimmed
  let digits := unsigned.takeWhile isDigit
  let value := decimal digits
  if digits = [] then (0, text)
  else
    (if value > ulongMax then ulongMax
      else if negative then (ulongMax + 1 - value) % (ulongMax + 1)
      else value,
      unsigned.dropWhile isDigit)

/-- A string constant of the source. -/
def text (characters : List Char) : List UInt8 :=
  characters.map fun character => character.toNat.toUInt8

/-- A command without operands. -/
def plain (command : UInt8) (operands : List Argument) : Except Report IpcRequest :=
  if operands.isEmpty then .ok ⟨command, [], Nat.zero_le _⟩ else .error .usage

/-- A command with one word. -/
def wordRequest (command : UInt8) (value : Nat) : IpcRequest :=
  ⟨command, putLe32 value.toUInt32, Nat.le_of_ble_eq_true rfl⟩

/-- `telemetry-start`. -/
def telemetryStart (operands : List Argument) : Except Report IpcRequest :=
  match operands with
  | [] => .ok (wordRequest Msg.startTelemetry 1000)
  | [operand] =>
    let (interval, rest) := strtoul operand.bytes
    if rest ≠ [] ∨ interval < 100 ∨ interval > 60000 then .error .badInterval
    else .ok (wordRequest Msg.startTelemetry interval)
  | _ => .error .usage

/-- The version of an upgrade that names none. -/
def defaultVersion : List UInt8 := text ['1', '.', '1', '.', '0']

/-- `upgrade`: the resolved path and the version, both with their terminators. -/
def upgrade (realpath : Argument → Option ResolvedPath) (operands : List Argument) :
    Except Report IpcRequest :=
  match operands with
  | [] => .error .unresolved
  | operand :: rest =>
    match realpath operand with
    | none => .error .unresolved
    | some resolved =>
      let version := (rest.head?.map Argument.bytes).getD defaultVersion
      let payload := resolved.bytes ++ [0] ++ (version ++ [0])
      if h : payload.length > ipcMaxPayload then .error .tooLong
      else .ok ⟨IpcCommand.upgrade, payload, Nat.le_of_not_lt h⟩

/-- `upgrade-status`. -/
def upgradeStatus (operands : List Argument) : Except Report IpcRequest :=
  match operands with
  | [operand] =>
    let (operation, rest) := strtoul operand.bytes
    if operation = 0 ∨ operation > 2 ^ 32 - 1 ∨ rest ≠ [] then .error .badOperation
    else .ok (wordRequest IpcCommand.upgradeStatus operation)
  | _ => .error .usage

/-- The request that the operands of `main` ask for. -/
def command (realpath : Argument → Option ResolvedPath) (operands : List Argument) :
    Except Report IpcRequest :=
  match operands with
  | [] => .error .usage
  | name :: rest =>
    if rest.length > 2 then .error .usage
    else if name.bytes = text ['p', 'i', 'n', 'g'] then plain Msg.ping rest
    else if name.bytes = text ['i', 'n', 'f', 'o'] then plain Msg.getInfo rest
    else if name.bytes = text ['h', 'e', 'a', 'l', 't', 'h'] then plain Msg.getHealth rest
    else if name.bytes = text ['s', 't', 'a', 't', 's'] then plain Msg.getStats rest
    else if name.bytes = text ['t', 'e', 'l', 'e', 'm', 'e', 't', 'r', 'y', '-',
        's', 't', 'a', 'r', 't'] then telemetryStart rest
    else if name.bytes = text ['t', 'e', 'l', 'e', 'm', 'e', 't', 'r', 'y', '-',
        's', 't', 'o', 'p'] then plain Msg.stopTelemetry rest
    else if name.bytes = text ['t', 'e', 'l', 'e', 'm', 'e', 't', 'r', 'y'] then
      plain IpcCommand.getTelemetry rest
    else if name.bytes = text ['u', 'p', 'g', 'r', 'a', 'd', 'e'] then upgrade realpath rest
    else if name.bytes = text ['u', 'p', 'g', 'r', 'a', 'd', 'e', '-',
        's', 't', 'a', 't', 'u', 's'] then upgradeStatus rest
    else .error .usage

/-! ## Runs -/

/-- What a run printed, and its exit code if it is over. -/
structure Run where
  reports : List Report
  exitCode : Option Nat
  deriving DecidableEq

/-- The percentage in `wait_for_upgrade`. -/
def percent (offset total : UInt32) : UInt32 :=
  if total = 0 then 0 else (offset.toUInt64 * 100 / total.toUInt64).toUInt32

/-- The response is a status of the operation. -/
def statusOf (operation : UInt32) (response : IpcResponse) : Prop :=
  response.status = 0 ∧ response.payload.length = 20 ∧ getLe32 response.payload = operation

instance (operation : UInt32) (response : IpcResponse) : Decidable (statusOf operation response) :=
  inferInstanceAs (Decidable (_ ∧ _ ∧ _))

/-- The loop of `wait_for_upgrade` over what its exchanges come to. -/
def pollUpgrade (operation : UInt32) :
    List (CallResult IpcResponse) → UInt8 → UInt32 → Run
  | [], _, _ => ⟨[], none⟩
  | .waiting :: _, _, _ => ⟨[], none⟩
  | .failed status :: _, _, _ => ⟨[.statusFailed status.code], some 1⟩
  | .done response :: polls, previousState, previousOffset =>
    if ¬ statusOf operation response then ⟨[.statusFailed response.status.toInt], some 1⟩
    else
      let state := byteAt response.payload 4
      let result := (getLe32 (response.payload.drop 8)).toInt32
      let offset := getLe32 (response.payload.drop 12)
      let total := getLe32 (response.payload.drop 16)
      let line : List Report :=
        if state ≠ previousState ∨ offset ≠ previousOffset then
          [.progress state (percent offset total) offset total]
        else []
      if state = UpgradeState.complete.code then ⟨line ++ [.installed], some 0⟩
      else if state = UpgradeState.error.code then ⟨line ++ [.upgradeFailed result], some 1⟩
      else
        -- unchanged or not, they are the previous ones of the next round
        let rest := pollUpgrade operation polls state offset
        ⟨line ++ rest.reports, rest.exitCode⟩

/-- `wait_for_upgrade`. -/
def waitForUpgrade (polls : List (CallResult IpcResponse)) (started : IpcResponse) : Run :=
  if started.status ≠ 0 ∨ started.payload.length ≠ 4 then ⟨[], some 1⟩
  else pollUpgrade (getLe32 started.payload) polls UpgradeState.idle.code 0xFFFFFFFF

/-- The request of `wait_for_upgrade`. -/
def statusRequest (operation : UInt32) : IpcRequest :=
  ⟨IpcCommand.upgradeStatus, putLe32 operation, Nat.le_of_ble_eq_true rfl⟩

/-- `main` behind its operands: what the exchange of the request came to, and those of
`wait_for_upgrade`. -/
def main (realpath : Argument → Option ResolvedPath) (operands : List Argument)
    (first : IpcRequest → CallResult IpcResponse) (polls : List (CallResult IpcResponse))
    (elapsedNs : UInt64) : Run :=
  match command realpath operands with
  | .error refusal => ⟨[refusal], some 2⟩
  | .ok request =>
    match first request with
    | .waiting => ⟨[], none⟩
    | .failed status => ⟨[.ipcFailed status], some 1⟩
    | .done response =>
      let printed := printResponse request.command response elapsedNs
      if request.command = IpcCommand.upgrade ∧ response.status = 0 then
        let run := waitForUpgrade polls response
        ⟨printed ++ run.reports, run.exitCode⟩
      else ⟨printed, some (if response.status = 0 then 0 else 1)⟩

end Devctl
