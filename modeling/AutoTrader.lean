import AutoTrader.Trader.EmergencyClose
import AutoTrader.Execution.Orders
import AutoTrader.Dispatch.AtMostOnce
import AutoTrader.Dispatch.FinalAnswer
import AutoTrader.Dispatch.GateAgreement
import AutoTrader.Binance.SinglePost
import AutoTrader.Binance.ProtectionService
import AutoTrader.Binance.StopMove
import AutoTrader.Binance.TradeSettlement
import AutoTrader.Numeric.Rounding
import AutoTrader.Ledger.PositionRisk
import AutoTrader.Ledger.Conservation
import AutoTrader.Ledger.TerminalStatus
import AutoTrader.Ledger.Anchors
import AutoTrader.Numeric.Sums
import AutoTrader.Ledger.StreamLaw
import AutoTrader.Ledger.DeliveryOrder
import AutoTrader.Trader.EntryRisk
import AutoTrader.Ledger.FilledStatus
import AutoTrader.Execution.Reconciliation
import AutoTrader.Ledger.ReplacedStops
import AutoTrader.Operations.LeaseSafety
import AutoTrader.Operations.LeaseRenewal
import AutoTrader.Binance.FailSafe
import AutoTrader.Binance.MakeBeforeBreak
import AutoTrader.Operations.StopAcceptance
import AutoTrader.Binance.LiveSubmitter
import AutoTrader.Trader.LiveSettlement
import AutoTrader.Trader.EntryProtection
import AutoTrader.Ledger.Lineage
import AutoTrader.Operations.ManagedPositions
import AutoTrader.Ledger.OrderRows
import AutoTrader.Trader.ProtectedPositions
import AutoTrader.Operations.ManagerSafety
import AutoTrader.Kis.CashWriter
import AutoTrader.Dispatch.RecoveryWindows
import AutoTrader.Paper.Orders
import AutoTrader.Paper.Journal
import AutoTrader.Paper.Submitter
import AutoTrader.Paper.NextBarFills
import AutoTrader.Paper.Resolution
import AutoTrader.Paper.WorkingCommands
import AutoTrader.Domain.DecimalColumns
import AutoTrader.Trader.EntryCommands
import AutoTrader.Trader.WorkingStops
import AutoTrader.Strategy.Facts
import AutoTrader.Strategy.Evidence
import AutoTrader.Strategy.Grading
import AutoTrader.Strategy.RiskV6
import AutoTrader.Strategy.Decision
import AutoTrader.Strategy.Engine
import AutoTrader.Strategy.Clearance
import AutoTrader.Strategy.Totality
import AutoTrader.Strategy.Tradeable
import AutoTrader.Strategy.Sizing
import AutoTrader.Risk.Engine
import AutoTrader.Risk.EngineSoundness
import AutoTrader.Ledger.CostLaw
import AutoTrader.Ledger.FillReplay
import AutoTrader.Operations.StopTriggers
import AutoTrader.Operations.RebuiltRisk
import AutoTrader.Promotion.Sessions
import AutoTrader.Promotion.EvidenceScope
import AutoTrader.Kis.OrderAttribution
import AutoTrader.Events.EffectivelyOnce
import AutoTrader.MarketData.TapeIntegrity
import AutoTrader.Trader.PositionFacts
import AutoTrader.Trader.Loop
import AutoTrader.Trader.ManagedExposure
import AutoTrader.Strategy.EventCalendar
import AutoTrader.MarketData.EconomicCalendar
import AutoTrader.MarketData.Blackouts
import AutoTrader.Execution.ComparisonSoundness
import AutoTrader.Binance.CumulativeFacts
import AutoTrader.Strategy.OrderFlow
import AutoTrader.Strategy.DistinctTrades
import AutoTrader.Strategy.BigTrades
import AutoTrader.Runtime.Pointwise
import AutoTrader.Runtime.Sequences
import AutoTrader.Strategy.ProfileLaw
import AutoTrader.Strategy.Pivots
import AutoTrader.Strategy.Regime
import AutoTrader.Strategy.NoRepaint
import AutoTrader.Strategy.Zones
import AutoTrader.Strategy.ZoneLaw
import AutoTrader.Strategy.Hlit
import AutoTrader.Strategy.HlitAnchors
import AutoTrader.Strategy.HlitLevels
import AutoTrader.Domain.DecimalText
import AutoTrader.Domain.DecimalRounding
import AutoTrader.Domain.Timestamps
import AutoTrader.Domain.JsonText
import AutoTrader.Paper.FillSoundness
import AutoTrader.Paper.CommandIdentity
import AutoTrader.Paper.FillReceipts
import AutoTrader.Strategy.ThirtySecondAtr
import AutoTrader.Strategy.Metodo
import AutoTrader.Strategy.Exhaustion
import AutoTrader.Runtime.DistinctKeys
import AutoTrader.MarketData.TapeBars
import AutoTrader.MarketData.Klines
import AutoTrader.Events.Redelivery
import AutoTrader.Domain.PyText
import AutoTrader.Domain.PyJson
import AutoTrader.Events.MalformedEntries
import AutoTrader.Paper.ReadBack
import AutoTrader.Domain.PyJsonText
import AutoTrader.Universe.Manifest
import AutoTrader.Universe.Digest
import AutoTrader.Domain.PyRender
import AutoTrader.Strategy.DecisionHash
import AutoTrader.Runtime.Alike
import AutoTrader.Research.WalkForward
import AutoTrader.Research.WalkForwardWindows
import AutoTrader.Research.WalkForwardLaw
import AutoTrader.Kis.CashReconciliation
import AutoTrader.Kis.StableReading
import AutoTrader.Runtime.Served
import AutoTrader.Toss.UsCaptures
import AutoTrader.Toss.UsReconciliation
import AutoTrader.Toss.UsStability
import AutoTrader.Toss.UsStableReading
import AutoTrader.Binance.AccountFacts
import AutoTrader.Binance.Reconciliation
import AutoTrader.Runtime.Origins
import AutoTrader.Backoffice.Arming
import AutoTrader.Backoffice.Reopening
import AutoTrader.Runtime.Timelines
import AutoTrader.Universe.Publications
import AutoTrader.Risk.PolicyHistory
import AutoTrader.Promotion.Progress
import AutoTrader.Backoffice.SignIns
import AutoTrader.Binance.RateLimiter
