import NearRtRic.Library.Runs
import NearRtRic.Library.Program
import NearRtRic.Library.Pool
import NearRtRic.Library.Text
import NearRtRic.Library.Json
import NearRtRic.Library.KeyValue
import NearRtRic.A1.Service
import NearRtRic.A1.Keys
import NearRtRic.A1.Data
import NearRtRic.A1.Sequential
import NearRtRic.A1.Registry
import NearRtRic.A1.Refinement
import NearRtRic.A1.Listing
import NearRtRic.A1.Statuses
import NearRtRic.A1.StatusIsolation
import NearRtRic.A1.DelayedDelete
import NearRtRic.A1.Interleaving
import NearRtRic.A1.Points
import NearRtRic.A1.OrphanInstances
import NearRtRic.A1.MetadataAgreement
import NearRtRic.A1.StaleStatus
import NearRtRic.Library.Failure
import NearRtRic.A1.Controller
import NearRtRic.A1.Southbound
import NearRtRic.A1.RmrLoop
import NearRtRic.A1.MailboxSurvival
import NearRtRic.E2T.RanName
import NearRtRic.E2T.NameUniqueness
import NearRtRic.E2T.Connections
import NearRtRic.E2T.ConnectionMap
import NearRtRic.E2T.Teardown
import NearRtRic.Kpimon.ResponseTimers
import NearRtRic.E2T.Counters
import NearRtRic.Kpimon.SubscribeLoop
import NearRtRic.Kpimon.SubscriptionProtocol
import NearRtRic.Kpimon.IndicationHeader
import NearRtRic.Kpimon.HeaderAssertions
import NearRtRic.Kpimon.HeaderDecoding
import NearRtRic.Kpimon.IndicationMessage
import NearRtRic.Kpimon.MessageDecoding
import NearRtRic.Kpimon.IndicationMetrics
import NearRtRic.Kpimon.CellAttribution
import NearRtRic.Kpimon.PlmnReading
import NearRtRic.Kpimon.SubscriptionRequest
import NearRtRic.E2T.AcceptLoop
import NearRtRic.E2T.SocketDrain
import NearRtRic.E2T.SetupRegistration
import NearRtRic.E2T.InstanceMetrics
import NearRtRic.E2T.EventBatch
import NearRtRic.A1.Conformance
import NearRtRic.E2T.ClearAll
import NearRtRic.E2T.SendFailure
import NearRtRic.E2T.RequestForwarding
import NearRtRic.E2T.Base64
import NearRtRic.E2T.ConfigFile
import NearRtRic.E2T.Configuration
import NearRtRic.E2T.LogLevelFile
import NearRtRic.E2T.SetupEncoding
import NearRtRic.Kpimon.ItemRecords
import NearRtRic.Kpimon.MetricsJson
import NearRtRic.Kpimon.IdUniqueness
import NearRtRic.Kpimon.E2apPdu
import NearRtRic.Kpimon.IeOrder
import NearRtRic.Kpimon.SequenceNumbers
import NearRtRic.A1.Resthooks
import NearRtRic.A1.PolicyTypes
import NearRtRic.A1.PolicyTypeListing
import NearRtRic.Library.FirstListed
import NearRtRic.Sca.Dependencies
import NearRtRic.Library.Dict
import NearRtRic.Sca.Severity
import NearRtRic.Sca.SeverityClasses
import NearRtRic.Sca.UniqueCves
import NearRtRic.Library.Grouping
import NearRtRic.Sca.ReportFiles
import NearRtRic.E2like.ReceiveLoop
import NearRtRic.E2like.BackToAccept
import NearRtRic.Kpimon.OctetNumbers
import NearRtRic.E2T.HexDump
import NearRtRic.Asn1.BitReader
import NearRtRic.Asn1.E2apPdu
import NearRtRic.Asn1.E2apContents
import NearRtRic.Kpimon.SubscriptionEncoding
