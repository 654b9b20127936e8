import DeviceManager.Daemon.Reactor
import DeviceManager.Simulator.Simulator

/-!
# The daemon and the simulator, over a lossy link

An upgrade from end to end: the host is the daemon's context, driven by
`on_device_frame` and by the timer branch of the loop, the device is the simulator,
driven by `on_frame`.  Between them are two channels of frames, first in first out,
from which any frame may be lost.

The transport takes the output of the host at once, so that `queue_frame` never
finds it occupied.  A frame that the simulator's `write_frame` does not write, for an
outage or by its drop rate, never enters the channel.
-/

namespace Link

open Devmgr

/-- The host, the device, and the frames in flight. -/
structure State where
  host : Daemon.Context
  device : Simulator.State
  toDevice : List Frame
  toHost : List Frame

/-- What happens on the link.  `memory` is the contents of the memory that the
simulator's `malloc` returns, and `written` is false where `write_frame` drops the
response. -/
inductive Event
  | deliverToDevice (now : UInt64) (memory : Nat → UInt8) (written : Bool)
  | deliverToHost (now : UInt64)
  | loseToDevice (index : Nat)
  | loseToHost (index : Nat)
  | tick (now : UInt64)

/-- The system calls of the daemon succeed. -/
def hostEnv (now : UInt64) : Daemon.Env := ⟨now, true, true⟩

/-- The transport takes the output of the host. -/
def State.transmit (link : State) (host : Daemon.Context) : State :=
  let output := host.transportOutput.drop host.transportOutputOffset
  { link with
    host := { host with transportOutput := [], transportOutputOffset := 0 }
    toDevice := match frameDecode output with
      | .ok frame => link.toDevice ++ [frame]
      | .error _ => link.toDevice }

/-- The simulator handles a request. -/
def State.serve (link : State) (now : UInt64) (memory : Nat → UInt8) (written : Bool)
    (request : Frame) : State :=
  let handled := Simulator.onFrame ⟨now, some memory⟩ request link.device
  if written then
    { link with
      device := { handled.2 with txFrames := handled.2.txFrames + 1 }
      toHost := link.toHost ++ [handled.1] }
  else { link with device := handled.2 }

/-- What the daemon's loop does with a handled event. -/
def State.proceed (link : State) (handled : Int × Daemon.Context) : Option State :=
  if handled.1 = Status.ok.code then some (link.transmit handled.2) else none

/-- One event of the link, `none` where it cannot happen or ends the daemon's loop. -/
def step (link : State) : Event → Option State
  | .deliverToDevice now memory written =>
    match link.toDevice with
    | [] => none
    | request :: rest => some ({ link with toDevice := rest }.serve now memory written request)
  | .deliverToHost now =>
    match link.toHost with
    | [] => none
    | response :: rest =>
      { link with toHost := rest }.proceed
        (Daemon.onDeviceFrame (hostEnv now) response link.host)
  | .loseToDevice index => some { link with toDevice := link.toDevice.eraseIdx index }
  | .loseToHost index => some { link with toHost := link.toHost.eraseIdx index }
  | .tick now => link.proceed (Daemon.handleTimer (hostEnv now) link.host)

/-- The host before its first request: the session is `UPGRADING`, no request is
pending, the upgrade was started, and the transport has no output. -/
structure Prepared (started : Upgrade) (host : Daemon.Context) : Prop where
  upgrade : host.upgrade = started
  state : host.session.state = .upgrading
  free : host.session.pending.active = false
  sequence : host.session.nextSequence ≠ 0
  output : host.transportOutput = []
  outputOffset : host.transportOutputOffset = 0

/-- The link, from the first request of an upgrade on.  The channels are empty, and the
device has no session in progress and does not fail the verification. -/
def system (started : Upgrade) : System State Event where
  init link := ∃ host device now, Prepared started host ∧
    device.firmwareUpgrading = false ∧ device.failVerify = false ∧
    State.proceed ⟨host, device, [], []⟩ (Daemon.queueUpgradeRequest (hostEnv now) host) =
      some link
  step := step

end Link
