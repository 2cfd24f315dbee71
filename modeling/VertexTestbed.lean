import VertexTestbed.Lib.Rounding
import VertexTestbed.Lib.LittleEndian
import VertexTestbed.Lib.Runs
import VertexTestbed.Lib.DeadZone
import VertexTestbed.Lib.Averaging
import VertexTestbed.Numeric
import VertexTestbed.Firmware.Prng
import VertexTestbed.Firmware.AgentState
import VertexTestbed.Firmware.CoordinationTask
import VertexTestbed.Firmware.Proto
import VertexTestbed.Firmware.Agent
import VertexTestbed.Firmware.Atomicity
import VertexTestbed.Firmware.Divisors
import VertexTestbed.Host.BoundedGain
import VertexTestbed.Host.Fleet
import VertexTestbed.Host.Relay
import VertexTestbed.Firmware.Report
import VertexTestbed.Conformance.Configure
import VertexTestbed.Conformance.Watchdog
import VertexTestbed.Host.FrameParser
import VertexTestbed.Conformance.Framing
import VertexTestbed.Firmware.Control
import VertexTestbed.Conformance.Link
import VertexTestbed.Firmware.Observer
import VertexTestbed.Firmware.RunLoops
import VertexTestbed.Firmware.RunIsolation
import VertexTestbed.Firmware.SlotProvenance
import VertexTestbed.Host.AgentService
import VertexTestbed.Conformance.LiveReconfigure
import VertexTestbed.Host.Recording
import VertexTestbed.Conformance.Recording
import VertexTestbed.Host.Analysis
import VertexTestbed.Host.RowFiles
import VertexTestbed.Host.ControlClient
import VertexTestbed.Host.Runner
import VertexTestbed.Host.RunnerContract
import VertexTestbed.Firmware.AirWire
import VertexTestbed.Host.AdvertisingData
import VertexTestbed.Host.Codec
import VertexTestbed.Conformance.AirWire
import VertexTestbed.Conformance.Scalar
import VertexTestbed.Host.MicrogridLive
import VertexTestbed.Conformance.OnAir
import VertexTestbed.Host.LiveConfigure
import VertexTestbed.Lib.JsonModel
import VertexTestbed.Manifest.Models
import VertexTestbed.Host.LinkAccounting
import VertexTestbed.Conformance.AirRoundTrip
import VertexTestbed.Conformance.StateRoundTrip
import VertexTestbed.Firmware.Mailbox
import VertexTestbed.Conformance.Families
import VertexTestbed.Control.Protocol
import VertexTestbed.Lib.StreamReader
import VertexTestbed.Control.Transport
import VertexTestbed.Control.Server
import VertexTestbed.Conformance.ObserverTotals
import VertexTestbed.Conformance.Broadcast
import VertexTestbed.Host.BlePump
import VertexTestbed.Manifest.Loader
import VertexTestbed.Manifest.Assignment
import VertexTestbed.Manifest.Arms
import VertexTestbed.Conformance.Reference
import VertexTestbed.Firmware.Strength
import VertexTestbed.Host.HeldValues
import VertexTestbed.Host.PublishLoop
import VertexTestbed.Host.Effort
import VertexTestbed.Conformance.Effort
import VertexTestbed.Host.LinkDelivery
import VertexTestbed.Firmware.Cadence
import VertexTestbed.Host.PeriodicLoop
import VertexTestbed.Host.VirtualClock
import VertexTestbed.Firmware.UartLink
import VertexTestbed.Host.BleTransport
import VertexTestbed.Lib.Reachability
import VertexTestbed.Manifest.Validate
import VertexTestbed.Conformance.Timing
import VertexTestbed.Conformance.Resync
import VertexTestbed.Conformance.Integrity
import VertexTestbed.Host.HciReports
import VertexTestbed.Conformance.ElementWalk
import VertexTestbed.Lib.Circulant
import VertexTestbed.Manifest.Generators
import VertexTestbed.Conformance.Pcg32
import VertexTestbed.Lib.OrderStatistics
import VertexTestbed.Host.Percentiles
import VertexTestbed.Lib.Raising
import VertexTestbed.Host.BleLifecycle
import VertexTestbed.Host.MultiTransport
import VertexTestbed.Lib.Agenda
import VertexTestbed.Firmware.UartRx
import VertexTestbed.Host.LoopbackBus
import VertexTestbed.Conformance.BoardReceive
import VertexTestbed.Host.SerialReader
import VertexTestbed.Conformance.Telemetry
import VertexTestbed.Host.UdpMedium
import VertexTestbed.Host.SimulatedExperiment
import VertexTestbed.Host.FleetRefinement
import VertexTestbed.Host.LocalCommands
import VertexTestbed.Host.RunnerHistory
import VertexTestbed.Host.RunnerReturns
import VertexTestbed.Host.CommandFailure
import VertexTestbed.Conformance.Laws
import VertexTestbed.Host.FailureIsolation
import VertexTestbed.Conformance.Participation
