import VerdictRisk.Library.Checks
import VerdictRisk.Library.Documents
import VerdictRisk.Library.Effects
import VerdictRisk.Library.Fallible
import VerdictRisk.Library.FloatGrid
import VerdictRisk.Library.Interleavings
import VerdictRisk.Library.Ledger
import VerdictRisk.Library.MemberWise
import VerdictRisk.Library.Notices
import VerdictRisk.Library.Ranks
import VerdictRisk.Library.Refinement
import VerdictRisk.Library.Roundoff
import VerdictRisk.Library.Runs
import VerdictRisk.Library.Scans
import VerdictRisk.Library.StableOrder
import VerdictRisk.Library.Streaks
import VerdictRisk.Library.Validation
import VerdictRisk.Python.Number
import VerdictRisk.Python.Datetime
import VerdictRisk.Python.Chronology
import VerdictRisk.Python.Text
import VerdictRisk.Python.Json
import VerdictRisk.Python.Slots
import VerdictRisk.Python.Value
import VerdictRisk.Python.Dumps
import VerdictRisk.Python.Serializable
import VerdictRisk.Python.Documents
import VerdictRisk.Python.Alike
import VerdictRisk.Python.Yaml
import VerdictRisk.Python.Rounding
import VerdictRisk.Python.Binary64
import VerdictRisk.Python.Roundoff
import VerdictRisk.State
import VerdictRisk.Gates
import VerdictRisk.DeskGates
import VerdictRisk.Engine
import VerdictRisk.Session
import VerdictRisk.Snapshot
import VerdictRisk.Records
import VerdictRisk.ProviderReceipts
import VerdictRisk.Provider
import VerdictRisk.Request
import VerdictRisk.Kelly
import VerdictRisk.Config
import VerdictRisk.Tracing
import VerdictRisk.Webhook
import VerdictRisk.Benchmark
import VerdictRisk.Verif.Advisory
import VerdictRisk.Verif.Aftermath
import VerdictRisk.Verif.Alerts
import VerdictRisk.Verif.Benchmark
import VerdictRisk.Verif.BreakerStates
import VerdictRisk.Verif.Chain
import VerdictRisk.Verif.ClusterCost
import VerdictRisk.Verif.DeskHalt
import VerdictRisk.Verif.Dominance
import VerdictRisk.Verif.EdgeFloats
import VerdictRisk.Verif.EqualReceipts
import VerdictRisk.Verif.ExactGates
import VerdictRisk.Verif.Exposure
import VerdictRisk.Verif.ExposureDrift
import VerdictRisk.Verif.FailClosed
import VerdictRisk.Verif.FreshDesk
import VerdictRisk.Verif.Interleaving
import VerdictRisk.Verif.Kelly
import VerdictRisk.Verif.LoadedConfig
import VerdictRisk.Verif.Loader
import VerdictRisk.Verif.LossOrder
import VerdictRisk.Verif.LossRules
import VerdictRisk.Verif.LossRuns
import VerdictRisk.Verif.LossWindow
import VerdictRisk.Verif.Observation
import VerdictRisk.Verif.PreciseDesk
import VerdictRisk.Verif.Precision
import VerdictRisk.Verif.ReceiptBinding
import VerdictRisk.Verif.Receivable
import VerdictRisk.Verif.Recovery
import VerdictRisk.Verif.Replay
import VerdictRisk.Verif.Report
import VerdictRisk.Verif.Request
import VerdictRisk.Verif.Restarts
import VerdictRisk.Verif.RoundedExposure
import VerdictRisk.Verif.RoundedGates
import VerdictRisk.Verif.RoundedKelly
import VerdictRisk.Verif.SaferCall
import VerdictRisk.Verif.SamePolicy
import VerdictRisk.Verif.Secrets
import VerdictRisk.Verif.SessionDominance
import VerdictRisk.Verif.SnapshotCodec
import VerdictRisk.Verif.SnapshotRestore
import VerdictRisk.Verif.Spellings
import VerdictRisk.Verif.Tracing
import VerdictRisk.Verif.Webhook
import VerdictRisk.Verif.Zones
