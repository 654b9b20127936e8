import DeviceManager.Lib.Transition
import DeviceManager.Lib.LittleEndian
import DeviceManager.Lib.SkipZero
import DeviceManager.Lib.StreamScan
import DeviceManager.Lib.StopAndWait
import DeviceManager.Lib.Circular
import DeviceManager.Lib.BoundedQueue
import DeviceManager.Lib.ShiftRegister
import DeviceManager.Lib.PolynomialCode
import DeviceManager.Lib.Transfer
import DeviceManager.Common.Primitives
import DeviceManager.Common.RingBuffer
import DeviceManager.Common.Fifo
import DeviceManager.Protocol.Frame
import DeviceManager.Protocol.Parser
import DeviceManager.Protocol.Stream
import DeviceManager.Protocol.Calls
import DeviceManager.Protocol.Intake
import DeviceManager.Protocol.Reference
import DeviceManager.Protocol.Accounting
import DeviceManager.Protocol.Resume
import DeviceManager.Protocol.Burst
import DeviceManager.Protocol.Resync
import DeviceManager.Device.Session
import DeviceManager.Device.Lifecycle
import DeviceManager.Device.Retry
import DeviceManager.Device.Accounting
import DeviceManager.Device.Renumber
import DeviceManager.Upgrade.Upgrade
import DeviceManager.Upgrade.Safety
import DeviceManager.Upgrade.Bound
import DeviceManager.Upgrade.Firmware
import DeviceManager.Ipc.Codec
import DeviceManager.Worker.Worker
import DeviceManager.Worker.Mailbox
import DeviceManager.Daemon.Context
import DeviceManager.Daemon.Reactor
import DeviceManager.Daemon.Handlers
import DeviceManager.Daemon.Loop
import DeviceManager.Daemon.Session
import DeviceManager.Daemon.Routing
import DeviceManager.Daemon.Timeout
import DeviceManager.Daemon.Ownership
import DeviceManager.Daemon.Coupling
import DeviceManager.Daemon.BackPressure
import DeviceManager.Daemon.Output
import DeviceManager.Daemon.Completion
import DeviceManager.Daemon.Framing
import DeviceManager.Daemon.Streaming
import DeviceManager.Daemon.Mirror
import DeviceManager.Daemon.Status
import DeviceManager.Daemon.Progress
import DeviceManager.Stm32.Update
import DeviceManager.Stm32.Protocol
import DeviceManager.Ipc.RoundTrip
import DeviceManager.Protocol.Crc
import DeviceManager.Stm32.Integrity
import DeviceManager.Stm32.Retransmission
import DeviceManager.Stm32.Discipline
import DeviceManager.Stm32.Sessions
import DeviceManager.Stm32.Application
import DeviceManager.Simulator.Simulator
import DeviceManager.Simulator.Sessions
import DeviceManager.Simulator.Activation
import DeviceManager.Simulator.Replay
import DeviceManager.Simulator.Telemetry
import DeviceManager.Simulator.Machine
import DeviceManager.Simulator.Server
import DeviceManager.Daemon.Answers
import DeviceManager.Daemon.Ledger
import DeviceManager.Devctl.Client
import DeviceManager.Devctl.Exchange
import DeviceManager.Devctl.Sockets
import DeviceManager.Devctl.Format
import DeviceManager.Devctl.Upgrade
import DeviceManager.Link.Link
import DeviceManager.Link.Device
import DeviceManager.Link.Phases
import DeviceManager.Link.Host
import DeviceManager.Link.Daemon
import DeviceManager.Link.Lossy
import DeviceManager.Link.Reactor
import DeviceManager.Link.Progress
import DeviceManager.Link.Wire
import DeviceManager.Link.Bootloader
import DeviceManager.Link.Agreement
