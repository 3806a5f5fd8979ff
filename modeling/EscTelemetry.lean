import EscTelemetry.Bench.Clock
import EscTelemetry.Bench.Fifo
import EscTelemetry.Bench.Hw4Esc
import EscTelemetry.Bench.KissBus
import EscTelemetry.Bench.Random
import EscTelemetry.Bench.Run
import EscTelemetry.Bytes
import EscTelemetry.CaptureBuffer
import EscTelemetry.Checksum
import EscTelemetry.Command.LogFilter
import EscTelemetry.Command.Options
import EscTelemetry.Command.Report
import EscTelemetry.Command.Run
import EscTelemetry.Config
import EscTelemetry.Config.Read
import EscTelemetry.Debug
import EscTelemetry.Effects
import EscTelemetry.FrameError
import EscTelemetry.Hw4.Calibration
import EscTelemetry.Hw4.Decoder
import EscTelemetry.Hw4.Packet
import EscTelemetry.Hw4.Sync
import EscTelemetry.JsonText.Error
import EscTelemetry.JsonText.Reader
import EscTelemetry.Kiss.Frame
import EscTelemetry.Kiss.Poller
import EscTelemetry.Link
import EscTelemetry.Log
import EscTelemetry.Main
import EscTelemetry.Metrics.Catalog
import EscTelemetry.Metrics.Publisher
import EscTelemetry.Metrics.Registry
import EscTelemetry.Numeric.Binary
import EscTelemetry.Numeric.Decimal
import EscTelemetry.Numeric.Fixed
import EscTelemetry.Numeric.Shortest
import EscTelemetry.Proofs.ArgumentScan
import EscTelemetry.Proofs.CaptureLaws
import EscTelemetry.Proofs.CounterGrowth
import EscTelemetry.Proofs.CrcDetection
import EscTelemetry.Proofs.CrcPolynomial
import EscTelemetry.Proofs.DebugMirror
import EscTelemetry.Proofs.FrameCodecs
import EscTelemetry.Proofs.Hw4Chunking
import EscTelemetry.Proofs.Hw4Freshness
import EscTelemetry.Proofs.Hw4Pacing
import EscTelemetry.Proofs.KissBusReplies
import EscTelemetry.Proofs.KissLoop
import EscTelemetry.Proofs.KissRecords
import EscTelemetry.Proofs.KissRun
import EscTelemetry.Proofs.KissSchedule
import EscTelemetry.Proofs.KissTiming
import EscTelemetry.Proofs.SettingsChecks
import EscTelemetry.Proofs.StoreLaws
import EscTelemetry.Proofs.StoreRebuilds
import EscTelemetry.Proofs.SyncRecovery
import EscTelemetry.Proofs.SyncStream
import EscTelemetry.Proofs.XorShiftPeriod
import EscTelemetry.Regex.Ast
import EscTelemetry.Regex.Compile
import EscTelemetry.Regex.Parser
import EscTelemetry.Sample
import EscTelemetry.Sensor
import EscTelemetry.Store
import EscTelemetry.Text.CharClass
import EscTelemetry.Text.Digits
import EscTelemetry.Text.GraphemeExtend
import EscTelemetry.Text.Printable
import EscTelemetry.Text.Quoted
