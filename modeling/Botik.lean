import Botik.Library.BoundedSet
import Botik.Library.Dict
import Botik.Library.Program
import Botik.Library.Runs
import Botik.Library.Sums
import Botik.Library.Text
import Botik.Library.OpenItems
import Botik.Library.Upserts
import Botik.Library.Listing
import Botik.Risk.Position
import Botik.Risk.FuturesRules
import Botik.Storage.FuturesStore
import Botik.Storage.LifecycleStore
import Botik.Storage.SqliteStore
import Botik.Storage.SpotStore
import Botik.Storage.CoreStore
import Botik.Risk.ExitRules
import Botik.Learning.Bandit
import Botik.Execution.Executor
import Botik.Main.World
import Botik.Main.Executions
import Botik.Main.Protection
import Botik.Main.Outcome
import Botik.Main.Refresh
import Botik.Main.RefreshFrames
import Botik.Main.RefreshFacts
import Botik.Theorems.ExactlyOnce
import Botik.Main.EntryGate
import Botik.Main.ProtectionFacts
import Botik.Theorems.Accounting
import Botik.Theorems.EntrySafety
import Botik.Theorems.Verification
import Botik.Theorems.ProtectionRuns
import Botik.Main.RefreshRaises
import Botik.Theorems.PositionTable
import Botik.Theorems.Retry
import Botik.Main.Recovery
import Botik.Theorems.Restart
import Botik.Execution.Paper
import Botik.Theorems.FillOrder
import Botik.Main.OutcomeFacts
import Botik.Theorems.OneReward
import Botik.Theorems.RealisedProfit
import Botik.Execution.ReconciliationService
import Botik.Execution.ReconciliationFacts
import Botik.Execution.ReconciliationTables
import Botik.Execution.ReconciliationRuns
import Botik.Execution.RepeatedWallet
import Botik.Theorems.EntryLocks
import Botik.Theorems.VanishedPositions
import Botik.Main.Orders
import Botik.Risk.Manager
import Botik.Main.ForceExit
import Botik.Main.ExitQuote
import Botik.Theorems.RecoveredHoldings
import Botik.Theorems.RepeatedReconciliation
import Botik.Main.Intents
import Botik.Main.TradingLoop
import Botik.Main.TradingLoopFacts
import Botik.Theorems.LeverageCap
import Botik.Execution.SpotPaper
import Botik.Theorems.SpotPaperMoney
import Botik.Theorems.SpotPaperRestart
import Botik.Execution.FuturesPaper
import Botik.Backtest.BacktestRun
import Botik.Execution.FuturesPaperFacts
import Botik.Theorems.BacktestRefinement
import Botik.Theorems.OwnProtection
import Botik.Theorems.PaperLedger
import Botik.Marketdata.WsPublic
import Botik.Theorems.PublishedBook
import Botik.Theorems.SnapshotReadiness
import Botik.Strategy.PairAdmission
import Botik.Theorems.PairGate
import Botik.Main.RefreshSteps
import Botik.Main.Traces
import Botik.Theorems.PositionCount
import Botik.Strategy.MicroSpread
import Botik.Strategy.SpikeReversal
import Botik.Theorems.QuoteCancellation
import Botik.Main.Steps
import Botik.Main.ExitFacts
import Botik.Theorems.ExitControl
import Botik.Theorems.HeldCoins
import Botik.Library.Json
import Botik.Marketdata.OhlcvWorker
import Botik.Theorems.StoredCandles
import Botik.Execution.PaperStats
import Botik.Theorems.PaperStatistics
import Botik.AppService.OutputLines
import Botik.Theorems.OutputConsumers
import Botik.AppService.RuntimeControl
import Botik.Theorems.RuntimeProcesses
import Botik.AppService.JobSupervisor
import Botik.Theorems.JobStates
import Botik.Theorems.JobStops
import Botik.AppService.FileTail
import Botik.Theorems.LogTail
import Botik.AppService.HomeSummary
import Botik.Theorems.HomeScreen
import Botik.Theorems.LatestModels
import Botik.AppService.AnalyticsRead
import Botik.Theorems.AnalyticsTotals
import Botik.Theorems.MissingOrders
import Botik.Strategy.MicroSpreadFacts
import Botik.Theorems.QuoteLadder
import Botik.Library.Rounding
import Botik.Theorems.QuoteEdge
import Botik.Theorems.RepricedQuotes
import Botik.Execution.BybitRest
import Botik.Theorems.Resending
import Botik.Theorems.OrderQuantity
import Botik.Library.Connection
import Botik.MlService.TrainOnce
import Botik.Theorems.ModelActivation
import Botik.Storage.MigrationScripts
import Botik.Storage.Migrations
import Botik.Theorems.RestartedMigrations
import Botik.Tools.ExportDataset
import Botik.Learning.Policy
import Botik.Theorems.ExportedOutcomes
import Botik.Main.SignalRecords
import Botik.MlService.Dataset
import Botik.Theorems.FeatureParity
import Botik.Library.RunningStatistics
import Botik.Theorems.BanditStatistics
import Botik.Theorems.ExitDecisions
import Botik.Theorems.PassiveQuotes
import Botik.Theorems.AverageCost
import Botik.Position.Sizer
import Botik.Theorems.PositionSizing
import Botik.Library.SlidingWindow
import Botik.Theorems.OrderRate
import Botik.Library.GreedyFill
import Botik.Strategy.PairMarket
import Botik.Theorems.VwapExact
import Botik.Theorems.PairExecutable
import Botik.Ml.FeatureEngine
import Botik.Ml.Labeler
import Botik.Theorems.Labelling
import Botik.Storage.RetriedWrites
import Botik.Theorems.FailedWrites
import Botik.Ml.OutcomeLearner
import Botik.Theorems.ReadingLearner
import Botik.Theorems.PaperAccounting
import Botik.Theorems.SpikeDiscipline
import Botik.Theorems.BacktestBookkeeping
import Botik.Theorems.BacktestRules
import Botik.Theorems.NewestSignals
import Botik.Library.Glob
import Botik.Library.Pages
import Botik.Library.NumberedFiles
import Botik.Marketdata.KlineServer
import Botik.Ml.Registry
import Botik.Theorems.BackfillComplete
import Botik.Theorems.ModelVersions
import Botik.AppService.EventPublisher
import Botik.Library.Tasks
import Botik.State.MarketState
import Botik.Strategy.FuturesSpikeReversal
import Botik.Theorems.DocumentedSpike
import Botik.Theorems.EventSubscribers
import Botik.Theorems.HistoryWindows
import Botik.Library.StockClaims
import Botik.Main.ExchangeAccount
import Botik.Main.LoopTurns
import Botik.Main.ClosingSends
import Botik.Theorems.ClosingOrders
import Botik.Ml.Models
import Botik.Ml.Trainer
import Botik.Theorems.Deployments
import Botik.Runners.PriceFeed
import Botik.Runners.Learning
import Botik.Runners.SpotRunner
import Botik.Theorems.SpotRunnerRuns
import Botik.Runners.FuturesRunner
import Botik.Theorems.FuturesRunnerRuns
import Botik.AppService.Settings
import Botik.Theorems.SavedSettings
import Botik.Marketdata.UniverseDiscovery
import Botik.Main.UniverseLoop
import Botik.Theorems.UniverseRefresh
import Botik.Control.TelegramBot
import Botik.Theorems.UpdateControl
import Botik.MlService.Autocalibration
import Botik.Theorems.CalibratedGate
import Botik.Theorems.ScannerSelection
import Botik.Theorems.ActiveProfiles
import Botik.Main.ExecutionSync
import Botik.Theorems.ExecutionReach
