import Mathlib.Algebra.Order.Field.Rat
import DeviceManager.Lib.Transfer
import DeviceManager.Protocol.Resume
import DeviceManager.Simulator.Telemetry

/-!
# The loop of the simulator and its line

`on_frame` and `emit_telemetry` hand their frames to `write_frame`, which may keep a frame
back, corrupt it, and write it in any number of pieces.  `Machine` is the simulator with its
parser, its fault injection and its line, and `Machine.turn` is one iteration of
`simulator_run`.

What the system calls answer is part of a `Turn`.  The frames that one read completes are
handled one after the other, so the answers for them are numbered by the requests that were
handled before.

`LineHistory` is not in the source: it has the reads that the parser was fed with and how the
feeds ended, the frames that were to be written, with the requests that they answer and what
became of them, and the bytes that went out.  Apart from the number of the requests nothing reads
it.

A rate of the configuration is a finite `double`, and so is a draw, which has 32 significant
bits; both are rational numbers here and compare alike.  `response_delay_ms` only delays.
-/

namespace Simulator

open Devmgr Transfer

/-! ## State -/

/-- What became of a frame that was handed to `write_frame`: an outage kept it back, it was
dropped, it was written, or the line failed after some of its bytes. -/
inductive Fate
  | silenced
  | dropped
  | sent (corrupted : Bool)
  | cut (corrupted : Bool) (count : Nat)
  deriving DecidableEq

/-- A frame that was handed to `write_frame`, and the request that it answers; telemetry
answers none. -/
structure Emission where
  request : Option Frame
  frame : Frame
  fate : Fate

/-- The bytes of a frame on the line; a corruption flips one bit behind the header. -/
def lineBytes (corrupted : Bool) (frame : Frame) : List UInt8 :=
  if corrupted then (frameBytes frame).modify headerSize (· ^^^ 0x40) else frameBytes frame

/-- The bytes that went out. -/
def Emission.bytes (emission : Emission) : List UInt8 :=
  match emission.fate with
  | .silenced => []
  | .dropped => []
  | .sent corrupted => lineBytes corrupted emission.frame
  | .cut corrupted count => (lineBytes corrupted emission.frame).take count

/-- A read that the parser was fed with: its bytes, the room that the ring had for them, and
whether the feed failed. -/
structure LineFeed where
  data : List UInt8
  room : Nat
  failed : Bool

/-- The record of a run. -/
structure LineHistory where
  feeds : List LineFeed
  emissions : List Emission
  output : List UInt8

/-- The bytes that were read. -/
def LineHistory.input (history : LineHistory) : List UInt8 :=
  history.feeds.flatMap LineFeed.data

/-- How often the parser failed. -/
def LineHistory.failures (history : LineHistory) : Nat :=
  history.feeds.countP LineFeed.failed

/-- `struct simulator_state`, with its line. -/
structure Machine extends Running where
  parser : Parser
  dropRate : Rat
  corruptRate : Rat
  randomState : UInt32
  history : LineHistory

/-- `struct simulator_config`. -/
structure FaultConfig extends Config where
  dropRate : Rat
  corruptRate : Rat
  randomSeed : UInt32

/-- What `simulator_init` assumes where there is no configuration. -/
def FaultConfig.default : FaultConfig := ⟨⟨-1, false⟩, 0, 0, 0⟩

/-- `simulator_init`; `startedNs` is the time of the call. -/
def simulatorInit (masterFd : Int) (config : Option FaultConfig) (startedNs : UInt64) :
    Except Status Machine :=
  if masterFd < 0 then .error .invalid
  else
    let config := config.getD .default
    .ok
      { state := init config.toConfig
        telemetrySamples := 0
        startedNs := startedNs
        parser := parserInit
        dropRate := config.dropRate
        corruptRate := config.corruptRate
        randomState := if config.randomSeed ≠ 0 then config.randomSeed else 0xC0FFEE01
        history := ⟨[], [], []⟩ }

/-! ## The line -/

/-- The result of one `write` of `write_frame`; where it would block, whether `poll` finds the
line ready again. -/
inductive LineWrite
  | wrote (more : Nat)
  | interrupted
  | again (ready : Bool)
  | failed

/-- What the loop of `write_frame` makes of a result. -/
def LineWrite.attempt : LineWrite → Attempt
  | .wrote more => .took more
  | .interrupted => .retry
  | .again true => .retry
  | .again false => .stop
  | .failed => .stop

/-- The clock of `write_frame`, and the results of its writes. -/
structure LineEnv where
  now : UInt64
  writes : List LineWrite

/-- The three shifts of `simulator_random`. -/
def xorshift (value : UInt32) : UInt32 :=
  let value := value ^^^ (value <<< 13)
  let value := value ^^^ (value >>> 17)
  value ^^^ (value <<< 5)

/-- `simulator_random`: a number from 0 up to 1, and the next `random_state`. -/
def simulatorRandom (randomState : UInt32) : Rat × UInt32 :=
  let value := xorshift randomState
  ((value.toNat : Rat) / 4294967296, value)

/-- The requests that were handled. -/
def Machine.requests (machine : Machine) : List Frame :=
  machine.history.emissions.filterMap Emission.request

/-- Note what became of a frame, and the bytes that went out. -/
def Machine.note (machine : Machine) (emission : Emission) (bytes : List UInt8) : Machine :=
  { machine with history := { machine.history with
    emissions := machine.history.emissions ++ [emission]
    output := machine.history.output ++ bytes } }

/-- `write_frame`; the request is for the record. -/
def writeFrame (env : LineEnv) (request : Option Frame) (frame : Frame) (machine : Machine) :
    Int × Machine :=
  if env.now < machine.state.outageUntilNs then
    (Status.ok.code, machine.note ⟨request, frame, .silenced⟩ [])
  else
    let dropDraw := simulatorRandom machine.randomState
    let machine := { machine with randomState := dropDraw.2 }
    if dropDraw.1 < machine.dropRate then
      (Status.ok.code, machine.note ⟨request, frame, .dropped⟩ [])
    else
      match frameEncode frame maxFrame with
      | .error error => (error.code, machine)
      | .ok encoded =>
        let corruptDraw := simulatorRandom machine.randomState
        let machine := { machine with randomState := corruptDraw.2 }
        let corrupted := decide (corruptDraw.1 < machine.corruptRate ∧ encoded.length > headerSize)
        let encoded := if corrupted then encoded.modify headerSize (· ^^^ 0x40) else encoded
        let written := transfer (env.writes.map LineWrite.attempt) encoded
        if written.2 = [] then
          (Status.ok.code,
            { machine.note ⟨request, frame, .sent corrupted⟩ written.1 with
              state := { machine.state with txFrames := machine.state.txFrames + 1 } })
        else
          (Status.io.code,
            machine.note ⟨request, frame, .cut corrupted written.1.length⟩ written.1)

/-- The answers of the system calls while one request is handled. -/
structure CallEnv where
  request : Env
  line : LineEnv

/-- `on_frame`. -/
def handleRequest (env : CallEnv) (request : Frame) (machine : Machine) : Int × Machine :=
  let handled := onFrame env.request request machine.state
  writeFrame env.line (some request) handled.1 { machine with state := handled.2 }

/-- `emit_telemetry`. -/
def sendTelemetry (now : UInt64) (env : LineEnv) (machine : Machine) : Int × Machine :=
  let emitted := emitTelemetry now machine.toRunning
  writeFrame env none emitted.1 { machine with toRunning := emitted.2 }

/-! ## The loop -/

/-- The result of `poll` in `simulator_run`, with the flags of a ready descriptor. -/
inductive PollResult
  | interrupted
  | failed
  | timeout
  | ready (error input : Bool)

/-- The result of `read` in `simulator_run`; an end of the input, and the errors that the loop
passes over, are `nothing`. -/
inductive LineRead
  | data (first : UInt8) (more : List UInt8)
  | nothing
  | failed

/-- The size of the buffer of `simulator_run`. -/
def lineInputSize : Nat := 2048

/-- What happens in one iteration of `simulator_run`.  `calls n` is for the request that `n`
requests were handled before. -/
structure Turn where
  poll : PollResult
  now : UInt64
  telemetry : LineEnv
  read : LineRead
  calls : Nat → CallEnv

/-- The callback of the parser. -/
def Turn.callback (turn : Turn) (request : Frame) (machine : Machine) : Int × Machine :=
  handleRequest (turn.calls machine.requests.length) request machine

/-- `devmgr_parser_feed` in `simulator_run`, and the count of its failures. -/
def Machine.feed (machine : Machine) (turn : Turn) (data : List UInt8) : Machine :=
  let fed := parserFeed turn.callback machine.parser data machine
  let noted : LineFeed :=
    ⟨data, ringSpace machine.parser.input, decide (fed.result ≠ Status.ok.code)⟩
  let machine := { fed.context with
    parser := fed.parser
    history := { fed.context.history with feeds := fed.context.history.feeds ++ [noted] } }
  if fed.result ≠ Status.ok.code then
    { machine with state := { machine.state with errors := machine.state.errors + 1 } }
  else machine

/-- The telemetry of `simulator_run`, if it is due. -/
def Machine.sample (machine : Machine) (turn : Turn) : Int × Machine :=
  if machine.state.telemetryEnabled ∧ turn.now ≥ machine.state.nextTelemetryNs then
    sendTelemetry turn.now turn.telemetry machine
  else (Status.ok.code, machine)

/-- The input of `simulator_run`. -/
def Machine.receive (machine : Machine) (turn : Turn) : Int × Machine :=
  match turn.read with
  | .data first more =>
    (Status.ok.code, machine.feed turn ((first :: more).take lineInputSize))
  | .nothing => (Status.ok.code, machine)
  | .failed => (Status.io.code, machine)

/-- One iteration of `simulator_run`.  The loop goes on while the code is `DEVMGR_OK`. -/
def Machine.turn (machine : Machine) (turn : Turn) : Int × Machine :=
  match turn.poll with
  | .interrupted => (Status.ok.code, machine)
  | .failed => (Status.io.code, machine)
  | .timeout =>
    let sampled := machine.sample turn
    if sampled.1 ≠ Status.ok.code then (Status.io.code, sampled.2) else sampled
  | .ready error input =>
    let sampled := machine.sample turn
    if sampled.1 ≠ Status.ok.code then (Status.io.code, sampled.2)
    else if error then (Status.io.code, sampled.2)
    else if input then sampled.2.receive turn
    else sampled

/-- `simulator_run` from `simulator_init` on; a signal may end the run after any turn. -/
def machineSystem (config : Option FaultConfig) : System Machine Turn where
  init machine := ∃ masterFd startedNs, simulatorInit masterFd config startedNs = .ok machine
  step machine turn :=
    let next := machine.turn turn
    if next.1 = Status.ok.code then some next.2 else none

end Simulator
