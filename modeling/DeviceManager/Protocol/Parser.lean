import DeviceManager.Common.RingBuffer
import DeviceManager.Protocol.Frame

/-!
# The stream parser of `src/protocol/parser.c`

`parserDrain` takes frames out of the ring and hands them to a callback;
`parserFeed` writes input into the ring and drains it, piece by piece.  The
callback threads a context of any type and returns an `int`, of which the
parser only asks whether it is `DEVMGR_OK`.

Both C loops are bounded here by a count of iterations that they cannot
exceed.  Every iteration of the drain loop drops at least one byte, so the
number of buffered bytes is enough; every iteration of the feed loop takes at
least one byte or returns.
-/

namespace Devmgr

/-- `DEVMGR_PARSER_CAPACITY`. -/
def parserCapacity : Nat := maxFrame * 2

/-- `struct devmgr_parser_stats`. -/
@[ext] structure ParserStats where
  bytesReceived : UInt64
  framesDecoded : UInt64
  crcErrors : UInt64
  lengthErrors : UInt64
  discardedBytes : UInt64
  overflowBytes : UInt64
  deriving DecidableEq

def ParserStats.zero : ParserStats := ⟨0, 0, 0, 0, 0, 0⟩

/-- `struct devmgr_parser`. -/
structure Parser where
  input : RingBuffer
  stats : ParserStats
  capacity_eq : input.capacity = parserCapacity

/-- `devmgr_parser_init`. -/
def parserInit : Parser where
  input :=
    { storage := List.replicate parserCapacity 0
      readPos := 0
      size := 0
      readPos_lt := by rw [List.length_replicate]; decide
      size_le := by omega
      capacity_le := by rw [List.length_replicate]; decide }
  stats := .zero
  capacity_eq := List.length_replicate

/-- `devmgr_parser_reset`. -/
def parserReset (parser : Parser) : Parser where
  input := ringReset parser.input
  stats := .zero
  capacity_eq := parser.capacity_eq

/-- Drop `count` bytes of the input and record them in `stats`. -/
def Parser.discard (parser : Parser) (count : Nat) (stats : ParserStats) : Parser where
  input := (ringDiscard parser.input count).2
  stats := stats
  capacity_eq := by rw [ringDiscard_capacity, parser.capacity_eq]

/-- Take input into the ring; the number of bytes taken is added to
`bytes_received`. -/
def Parser.receive (parser : Parser) (data : List UInt8) : Nat × Parser :=
  let written := ringWrite parser.input data
  (written.1,
    { input := written.2
      stats := { parser.stats with
        bytesReceived := parser.stats.bytesReceived + written.1.toUInt64 }
      capacity_eq := by rw [ringWrite_capacity, parser.capacity_eq] })

/-- What `parser_drain` and `devmgr_parser_feed` leave behind: the returned
code, the parser, the callback's context and `*frames_emitted`. -/
structure Outcome (κ : Type) where
  result : Int
  parser : Parser
  context : κ
  emitted : Nat

variable {κ : Type}

/-- The loop of `parser_drain`. -/
def drainLoop (callback : Frame → κ → Int × κ) : Nat → Parser → κ → Nat → Outcome κ
  | 0, parser, context, emitted => ⟨Status.ok.code, parser, context, emitted⟩
  | fuel + 1, parser, context, emitted =>
    let stats := parser.stats
    if ringSize parser.input < 2 then ⟨Status.ok.code, parser, context, emitted⟩
    else if getLe16 (ringPeek parser.input 0 2) ≠ protocolMagic then
      drainLoop callback fuel
        (parser.discard 1 { stats with discardedBytes := stats.discardedBytes + 1 })
        context emitted
    else if ringSize parser.input < headerSize then ⟨Status.ok.code, parser, context, emitted⟩
    else
      let header := ringPeek parser.input 0 headerSize
      if byteAt header 2 ≠ protocolVersion ∨ byteAt header 5 ≠ 0 then
        drainLoop callback fuel
          (parser.discard 1 { stats with discardedBytes := stats.discardedBytes + 1 })
          context emitted
      else
        let payloadLength := (getLe16 (header.drop 10)).toNat
        if payloadLength > maxPayload then
          drainLoop callback fuel
            (parser.discard 1 { stats with
              lengthErrors := stats.lengthErrors + 1
              discardedBytes := stats.discardedBytes + 1 })
            context emitted
        else
          let frameLength := headerSize + payloadLength + crcSize
          if ringSize parser.input < frameLength then
            ⟨Status.ok.code, parser, context, emitted⟩
          else
            match frameDecode (ringPeek parser.input 0 frameLength) with
            | .error .crc =>
              drainLoop callback fuel
                (parser.discard 1 { stats with
                  crcErrors := stats.crcErrors + 1
                  discardedBytes := stats.discardedBytes + 1 })
                context emitted
            | .error _ =>
              drainLoop callback fuel
                (parser.discard 1 { stats with discardedBytes := stats.discardedBytes + 1 })
                context emitted
            | .ok frame =>
              let parser := parser.discard frameLength
                { stats with framesDecoded := stats.framesDecoded + 1 }
              let reply := callback frame context
              if reply.1 ≠ Status.ok.code then ⟨reply.1, parser, reply.2, emitted + 1⟩
              else drainLoop callback fuel parser reply.2 (emitted + 1)

/-- `parser_drain`. -/
def parserDrain (callback : Frame → κ → Int × κ) (parser : Parser) (context : κ)
    (emitted : Nat) : Outcome κ :=
  drainLoop callback (ringSize parser.input) parser context emitted

/-- The loop of `devmgr_parser_feed`, with the input not yet taken. -/
def feedLoop (callback : Frame → κ → Int × κ) :
    Nat → Parser → List UInt8 → κ → Nat → Outcome κ
  | 0, parser, _, context, emitted => parserDrain callback parser context emitted
  | fuel + 1, parser, data, context, emitted =>
    if data.length = 0 then parserDrain callback parser context emitted
    else
      let (written, parser) := parser.receive data
      let drained := parserDrain callback parser context emitted
      if drained.result ≠ Status.ok.code then drained
      else if written = 0 then
        { drained with
          result := Status.overflow.code
          parser := { drained.parser with
            stats := { drained.parser.stats with
              overflowBytes := drained.parser.stats.overflowBytes +
                (data.length - written).toUInt64 } } }
      else feedLoop callback fuel drained.parser (data.drop written) drained.context
        drained.emitted

/-- `devmgr_parser_feed`. -/
def parserFeed (callback : Frame → κ → Int × κ) (parser : Parser) (data : List UInt8)
    (context : κ) : Outcome κ :=
  feedLoop callback data.length parser data context 0

end Devmgr
