import OptionProject.Contracts.Canonical
import OptionProject.Contracts.FuturesMaster
import OptionProject.Contracts.IdentityReconciliation
import OptionProject.Contracts.Types
import OptionProject.Decision.Arbiter
import OptionProject.Decision.Commands
import OptionProject.Decision.Envelopes
import OptionProject.Decision.InstrumentKeys
import OptionProject.Decision.Provenance
import OptionProject.Decision.RiskKeys
import OptionProject.Decision.Runtime
import OptionProject.Decision.SignalAdapters
import OptionProject.HighSpeed.Replay
import OptionProject.Infrastructure.AuthTokens
import OptionProject.Infrastructure.HolidayProvider
import OptionProject.Infrastructure.TokenHistory
import OptionProject.Infrastructure.TradingCalendar
import OptionProject.Library.Consume
import OptionProject.Library.Delivery
import OptionProject.Library.Dict
import OptionProject.Library.Fields
import OptionProject.Library.FirstClaim
import OptionProject.Library.Isolation
import OptionProject.Library.Machine
import OptionProject.Library.Numerals
import OptionProject.Library.Registered
import OptionProject.Library.Related
import OptionProject.Library.Tally
import OptionProject.Library.Watermark
import OptionProject.Library.WriteLog
import OptionProject.Lifecycle.Coordinator
import OptionProject.Lifecycle.Effects
import OptionProject.Lifecycle.FailClosed
import OptionProject.Lifecycle.Interleavings
import OptionProject.Lifecycle.Ownership
import OptionProject.Lifecycle.Receives
import OptionProject.Lifecycle.TransportRelease
import OptionProject.Live.CrossSource
import OptionProject.Live.Disarming
import OptionProject.Live.ExecutionTransport
import OptionProject.Live.MarketData
import OptionProject.Live.MarketFrames
import OptionProject.Live.NoticeAdapter
import OptionProject.Live.OrderPayload
import OptionProject.Live.Reconciliation
import OptionProject.Live.RecoveryAccounts
import OptionProject.Live.RecoveryAdapter
import OptionProject.Live.RecoveryService
import OptionProject.Live.RecoverySettlement
import OptionProject.Live.RecoveryTransport
import OptionProject.Live.Resubmission
import OptionProject.Live.RuntimeComposition
import OptionProject.Live.SentOnce
import OptionProject.Live.Settlement
import OptionProject.Live.Submission
import OptionProject.Oms.Correlation
import OptionProject.Oms.MultiLegMaterializer
import OptionProject.Oms.MultiLegSubmission
import OptionProject.Oms.OrderIntentFactory
import OptionProject.Oms.OrderStateMachine
import OptionProject.Oms.PairPlans
import OptionProject.Oms.Runs
import OptionProject.Options.Expiry
import OptionProject.Options.ExpiryDates
import OptionProject.Options.FailedLoads
import OptionProject.Options.MasterDates
import OptionProject.Options.MasterFile
import OptionProject.Options.MasterHistory
import OptionProject.Options.OptionMaster
import OptionProject.Options.Registries
import OptionProject.Position.LivePositionAggregate
import OptionProject.Position.Projection
import OptionProject.Position.RiskSource
import OptionProject.Risk.Approvals
import OptionProject.Risk.Config
import OptionProject.Risk.Engine
import OptionProject.Risk.MarginLimit
import OptionProject.Risk.MultiLeg
import OptionProject.Risk.PositionLimit
import OptionProject.Risk.Reevaluation
import OptionProject.Risk.Routing
import OptionProject.Risk.Sensor
import OptionProject.Risk.Session
import OptionProject.Settlement
import OptionProject.Strategies.CallOrder
import OptionProject.Strategies.ExecutionPlans
import OptionProject.Strategies.GapCycle
import OptionProject.Strategies.GapTrades
import OptionProject.Strategies.HedgeCycle
import OptionProject.Strategies.InsuranceDays
import OptionProject.Strategies.Isolation
import OptionProject.Strategies.RefusedSelections
import OptionProject.Strategies.SkewCycle
import OptionProject.Strategies.SpreadGroups
import OptionProject.Strategies.SpreadState
import OptionProject.Strategies.StrangleCycle
import OptionProject.Strategies.TailInsurance
import OptionProject.Strategies.TailPeaks
import OptionProject.Strategies.Track1
import OptionProject.Strategies.Track6
import OptionProject.Strategies.Track7
import OptionProject.Strategies.Track8
import OptionProject.Strategies.Track9
import OptionProject.Strategies.TrailingStop
import OptionProject.Virtual.Aggregates
import OptionProject.Virtual.AuditTrail
import OptionProject.Virtual.Books
import OptionProject.Virtual.Clock
import OptionProject.Virtual.CommandContext
import OptionProject.Virtual.Deliveries
import OptionProject.Virtual.Equity
import OptionProject.Virtual.MarginGate
import OptionProject.Virtual.PaperAccount
import OptionProject.Virtual.Settlement
import OptionProject.Virtual.Simulator
import OptionProject.Virtual.Snapshots
