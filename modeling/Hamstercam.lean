import Hamstercam.Lib.HttpMessage
import Hamstercam.Lib.Interaction
import Hamstercam.Lib.Runs
import Hamstercam.Lib.SharedMemory
import Hamstercam.Capture.Device
import Hamstercam.Capture.Stats
import Hamstercam.Capture.Machine
import Hamstercam.Capture.StepCases
import Hamstercam.Capture.Runs
import Hamstercam.Capture.Stores
import Hamstercam.Capture.Protocol
import Hamstercam.Capture.Events
import Hamstercam.Capture.Formats
import Hamstercam.Capture.Sessions
import Hamstercam.Capture.Accounting
import Hamstercam.Device.Kernel
import Hamstercam.Device.Leaks
import Hamstercam.Lib.Contract
import Hamstercam.Device.Buffers
import Hamstercam.Device.Fake
import Hamstercam.Exporter.ProgressParser
import Hamstercam.Exporter.Chunking
import Hamstercam.Exporter.Connections
import Hamstercam.Exporter.OverlongLines
import Hamstercam.Capture.Pacing
import Hamstercam.Capture.Published
import Hamstercam.Capture.Noninterference
import Hamstercam.Lib.Segments
import Hamstercam.Capture.ArrivalRate
import Hamstercam.Lib.Decimal
import Hamstercam.Exporter.Counters
import Hamstercam.Lib.Json
import Hamstercam.Logging.JsonLogger
import Hamstercam.Logging.Reading
import Hamstercam.Lib.Exposition
import Hamstercam.Lib.PlainExposition
import Hamstercam.Lib.GeneralFormat
import Hamstercam.Lib.SignificantDigits
import Hamstercam.Lib.NumberText
import Hamstercam.Metrics.Primitives
import Hamstercam.Metrics.Render
import Hamstercam.Metrics.Pages
import Hamstercam.Lib.Unsigned
import Hamstercam.Main.Flags
import Hamstercam.Main.Values
import Hamstercam.Main.Settings
import Hamstercam.Http.RequestLine
import Hamstercam.Http.Response
import Hamstercam.Lib.Descriptors
import Hamstercam.Lib.Parties
import Hamstercam.Http.Server
import Hamstercam.Exporter.SocketFile
import Hamstercam.Exporter.Servers
import Hamstercam.Lib.Buckets
import Hamstercam.Metrics.Distribution
import Hamstercam.Metrics.WholeSeconds
import Hamstercam.Metrics.CounterSeries
import Hamstercam.Metrics.Scraping
import Hamstercam.Metrics.ProcessInfo
import Hamstercam.Exporter.Scraping
import Hamstercam.Main.Handlers
import Hamstercam.Main.Daemon
import Hamstercam.Main.LogAndPage
import Hamstercam.Main.Exporter
import Hamstercam.Capture.Backoffs
import Hamstercam.Capture.Waits
import Hamstercam.Capture.LossReasons
import Hamstercam.Capture.Checked
import Hamstercam.Main.Overflow
