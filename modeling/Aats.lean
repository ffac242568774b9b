import Aats.Lib.Holdings
import Aats.Lib.KeyedList
import Aats.Lib.Checks
import Aats.FillOrdering
import Aats.Execution.CancelOrder
import Aats.Execution.CommandWorkers
import Aats.Execution.ObligationRace
import Aats.Execution.ObligationLifecycle
import Aats.Execution.ReservationRelease
import Aats.Execution.SubmitCancelRace
import Aats.Execution.CancelCommands
import Aats.Execution.OkxAdapter
import Aats.Execution.OrderQuantities
import Aats.Execution.OrderFlow
import Aats.Execution.OrderFlowInvariant
import Aats.Execution.OrderFlowSteps
import Aats.Execution.LiveOrders
import Aats.Execution.PostOnlyFallback
import Aats.Execution.MergeRuns
import Aats.Execution.Redelivery
import Aats.Execution.ConvergedStore
import Aats.Execution.ReservationMirror
import Aats.Execution.ReservationBound
import Aats.Portfolio.FillHandler
import Aats.Portfolio.CashFlow
import Aats.Portfolio.LotBook
import Aats.Portfolio.FifoAndAverage
import Aats.Portfolio.SettlementPosting
import Aats.Portfolio.LedgerPortfolio
import Aats.Portfolio.LotKeys
import Aats.Portfolio.LedgerAndMemory
import Aats.Portfolio.Snapshots
import Aats.Lib.Rounding
import Aats.Portfolio.Rounding
import Aats.Portfolio.MirrorPosting
import Aats.Portfolio.ReservedCash
import Aats.Portfolio.DoubleEntry
import Aats.Portfolio.MarkedEquity
import Aats.Governance.KillSwitch
import Aats.Governance.SwitchTasks
import Aats.Governance.HaltKept
import Aats.Governance.SubmissionFence
import Aats.Lib.CrashTriple
import Aats.Governance.ProfileApplySaga
import Aats.Governance.SagaResumption
import Aats.Governance.AccountExposure
import Aats.Governance.RiskEngine
import Aats.Governance.LegLimits
import Aats.Governance.ReductionsPass
import Aats.Governance.LegOrderRisk
import Aats.Governance.PretradeLimits
import Aats.Recovery.BundleRecovery
import Aats.Recovery.ExchangeOrderReconciler
import Aats.Recovery.RecoveredExecution
import Aats.Recovery.BaselineReplay
import Aats.Recovery.SnapshotRepair
import Aats.Recovery.RecoveryStatus
import Aats.Recovery.PortfolioRecovery
import Aats.Recovery.FillGaps
import Aats.Recovery.RestoredPortfolio
import Aats.Recovery.OneTruth
import Aats.Recovery.StartupRecovery
import Aats.Recovery.UnresolvedOrders
import Aats.Recovery.OverlaysTighten
import Aats.Reconciliation.Comparator
import Aats.Reconciliation.Findings
import Aats.Reconciliation.Divergences
import Aats.Reconciliation.OpenOrders
import Aats.Reconciliation.ArrivalOrder
import Aats.Lib.Worklist
import Aats.Reconciliation.ReplayEngine
import Aats.Reconciliation.IncrementalReplay
import Aats.Lib.KWayMerge
import Aats.Replay.EventMerge
import Aats.Exits.Aggregation
import Aats.Exits.Writer
import Aats.Exits.StoredAggregates
import Aats.Exits.SerialExit
import Aats.Exits.SerialExitBound
import Aats.Lib.LastWriter
import Aats.Execution.HotStateCaches
import Aats.Execution.ObligationCache
import Aats.Lib.LastWindow
import Aats.Execution.FillCache
import Aats.Execution.OutboxDelivery
import Aats.Lib.Calendar
import Aats.Lib.DecimalContext
import Aats.Lib.DecimalText
import Aats.Lib.Fallible
import Aats.Replay.Wire
import Aats.Replay.SnapshotRefs
import Aats.Replay.Events
import Aats.Replay.EventCodec
import Aats.Replay.EngineBarriers
import Aats.Lib.Windows
import Aats.Replay.FundingPlan
import Aats.Replay.FundingValidation
import Aats.Domain.InstrumentContract
import Aats.Domain.ContractArithmetic
import Aats.Domain.DiscreteArithmetic
import Aats.Domain.ExactSum
import Aats.Execution.QuantityRules
import Aats.Replay.LiquidationPrice
import Aats.Lib.Restoring
import Aats.Replay.PositionTracker
import Aats.Replay.BacktestEquity
import Aats.Replay.EquityMetrics
import Aats.Portfolio.LotLabels
import Aats.Lib.Grouping
import Aats.Portfolio.PersistentLots
import Aats.Portfolio.SleeveInventory
import Aats.Allocation.Intents
import Aats.Allocation.Budgets
import Aats.Allocation.Allocator
import Aats.Allocation.DeRisk
import Aats.Allocation.SleeveBudgetController
import Aats.SmartArbitrage.StateMachine
import Aats.Execution.QuantityRules
import Aats.Lib.FifoQueue
import Aats.Portfolio.LotStructure
import Aats.Portfolio.LotIdentity
import Aats.Portfolio.FundingAttribution
import Aats.Allocation.CapDistribution
import Aats.Allocation.CapByPriority
import Aats.Exits.ReviewFindings
import Aats.Lib.BinaryRounding
import Aats.Lib.StableSort
import Aats.Operations.WorkflowScheduler
import Aats.Operations.WorkflowTicks
import Aats.ExecutionRealism.L2EventReplay
import Aats.ExecutionRealism.L2Liquidity
import Aats.ExecutionRealism.L2NoLookahead
import Aats.Storage.EventStore
import Aats.Storage.Archiving
import Aats.Governance.TypedJsonIdentity
import Aats.Bus.DeliveryGate
import Aats.Gold.FundingAligner
import Aats.Research.WalkForward
import Aats.Governance.DataGaps
