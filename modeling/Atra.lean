import Atra.Approval
import Atra.AverageCost
import Atra.Backing
import Atra.Base64
import Atra.ByteReader
import Atra.BinaryLog
import Atra.SlidingWindow
import Atra.CommandRouter
import Atra.CommandWall
import Atra.Connection
import Atra.CostBasis
import Atra.DailyLoss
import Atra.Database
import Atra.Decimal
import Atra.Engine
import Atra.EngineChecks
import Atra.EngineSound
import Atra.EngineSoundLp
import Atra.EngineSpec
import Atra.EngineTotal
import Atra.Ensures
import Atra.Exits
import Atra.Exposure
import Atra.FailedTrades
import Atra.Gate
import Atra.GatewayLinks
import Atra.GatewayPairing
import Atra.GatewayRevocation
import Atra.History
import Atra.Ledger
import Atra.LiquidityStore
import Atra.LiveBooking
import Atra.LiveLp
import Atra.LiveLpRuns
import Atra.LiveProcess
import Atra.LiveSwap
import Atra.Lockout
import Atra.LpAccount
import Atra.LpBooks
import Atra.LpProposal
import Atra.MarketLiquidity
import Atra.Money
import Atra.OwnQuotes
import Atra.PairingSafety
import Atra.Paper
import Atra.PaperFaults
import Atra.Pacing
import Atra.PaperAgreement
import Atra.PlanFunding
import Atra.Policy
import Atra.Proposal
import Atra.Quotes
import Atra.RangeBooks
import Atra.RangePlan
import Atra.RangePositions
import Atra.Rebalances
import Atra.Reconcile
import Atra.BootPasses
import Atra.Registry
import Atra.RemoteControl
import Atra.Replays
import Atra.RiskTypes
import Atra.Rounding
import Atra.SigningGate
import Atra.SolanaAgreement
import Atra.SolanaMessage
import Atra.StateStore
import Atra.Table
import Atra.TelegramPairing
import Atra.TickInversion
import Atra.TickMath
import Atra.TickRatio
import Atra.Trades
import Atra.Transaction
import Atra.TwoRuns
import Atra.KeyMaterial
import Atra.Vault
import Atra.VaultSystem
import Atra.VaultHistory
import Atra.VaultSlots
import Atra.OnePassword
import Atra.Statements
import Atra.EmergencyStop
import Atra.Redaction
import Atra.Json
import Atra.RpcProxy
import Atra.RpcSecrecy
import Atra.GatewayHub
import Atra.HubIsolation
import Atra.GuessRate
import Atra.MoneyText
import Atra.ResearchEvidence
import Atra.ResearchFigures
import Atra.Research
import Atra.Figures
import Atra.PolicyHash
import Atra.Utf16
import Atra.WithdrawalQuotes
import Atra.Mutex
import Atra.ExportSafety
import Atra.TreasuryExport
import Atra.Transfers
import Atra.Withdrawal
import Atra.WithdrawalRuns
import Atra.WithdrawalSafety
import Atra.WithdrawalTruth
import Atra.GatewayTransport
import Atra.TransportSound
import Atra.Calendar
import Atra.TreasurySpend
import Atra.CheckList
import Atra.TickAlignment
import Atra.Composition
import Atra.ProRata
import Atra.V2Pool
import Atra.Sizing
import Atra.Notifier
import Atra.NotifierLimits
import Atra.NotifierCounts
import Atra.IntentKeys
import Atra.Delimited
import Atra.MarketCache
import Atra.MarketTruth
import Atra.JsonText
import Atra.RpcReplies
import Atra.RpcCache
import Atra.LiveCrashes
import Atra.Wire
import Atra.WireAgreement
import Atra.HubBudgets
import Atra.DeployedCap
import Atra.Sessions
import Atra.Judging
import Atra.Cycles
import Atra.LpAgent
import Atra.LpEffects
import Atra.LpCycles
import Atra.StructuredReply
import Atra.TreasuryReviews
import Atra.Automation
