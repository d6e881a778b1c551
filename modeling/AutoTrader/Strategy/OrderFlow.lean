import AutoTrader.Numeric.Sums
import AutoTrader.Runtime.Dict
import AutoTrader.Strategy.Facts
import Mathlib.Data.List.Sort
import Mathlib.Data.String.Basic

/-! The order flow of a window of public trades: its notional by aggressor, its big trades, and what its
thirty-second bars show. -/

namespace AutoTrader.Strategy

open AutoTrader.Domain AutoTrader.Numeric AutoTrader.Runtime

/-! ### Trades -/

@[ext] structure TradePrint where
  providerTradeId : String
  occurredAt : Instant
  price : Option ℚ
  quantity : Option ℚ
  buyerMaker : Option Bool
  trimmed : untrimmed providerTradeId = false
  positivePrice : ∀ value ∈ price, 0 < value
  positiveQuantity : ∀ value ∈ quantity, 0 < value

instance : DecidableEq TradePrint := fun _ _ => decidable_of_iff _ TradePrint.ext_iff.symm

namespace TradePrint

/-- The side that took liquidity. -/
def side (trade : TradePrint) : Option AggressorSide :=
  trade.buyerMaker.map fun maker => if maker then .sell else .buy

def notional (trade : TradePrint) : Option ℚ :=
  match trade.price, trade.quantity with
  | some price, some quantity => some (rounded (price * quantity))
  | _, _ => none

/-- `cast(Decimal, trade.notional)`, of a trade that has one. -/
def worth (trade : TradePrint) : ℚ := trade.notional.getD 0

/-- `cast(Decimal, trade.price)`. -/
def level (trade : TradePrint) : ℚ := trade.price.getD 0

/-- `(occurred_at, provider_trade_id)` in order. -/
def Precedes (a b : TradePrint) : Prop :=
  a.occurredAt < b.occurredAt ∨ a.occurredAt = b.occurredAt ∧ a.providerTradeId ≤ b.providerTradeId

instance (a b : TradePrint) : Decidable (a.Precedes b) := inferInstanceAs (Decidable (_ ∨ _ ∧ _))

end TradePrint

def collectTrade (byId : List (String × TradePrint)) (trade : TradePrint) : Except PyError (List (String × TradePrint)) :=
  match Dict.get? byId trade.providerTradeId with
  | some existing =>
    if existing ≠ trade then .error ⟨.valueError, "provider trade identity payload collision"⟩
    else .ok (Dict.set byId trade.providerTradeId trade)
  | none => .ok (Dict.set byId trade.providerTradeId trade)

/-- `_deduplicate`, the same in both modules that have it. -/
def deduplicateTrades (trades : List TradePrint) : Except PyError (List TradePrint) := do
  let byId ← trades.foldlM collectTrade []
  pure ((byId.map (·.2)).insertionSort TradePrint.Precedes)

/-! ### Big trades -/

structure OrderFlowThresholds where
  tickSize : ℚ
  atr30s : ℚ
  cerosNearZeroNotional : Option ℚ
  cerosLargeNotional : Option ℚ
  positiveTick : 0 < tickSize
  positiveAtr : 0 < atr30s

/-- `_CLUSTER_GAP`, in microseconds. -/
def clusterGap : Int := 150000

/-- The test of `_events`: the aggressor of the last trade, soon after it, and the group within two ticks. -/
def joinsGroup (thresholds : OrderFlowThresholds) (group : List TradePrint) (trade : TradePrint) : Bool :=
  match group.getLast? with
  | none => false
  | some last =>
    let prices := (group ++ [trade]).map (·.level)
    decide (trade.side = last.side) && decide (trade.occurredAt - last.occurredAt ≤ clusterGap) &&
      decide (rounded (prices.max?.getD 0 - prices.min?.getD 0) ≤ rounded (2 * thresholds.tickSize))

def addToEvents (thresholds : OrderFlowThresholds) (groups : List (List TradePrint)) (trade : TradePrint) :
    List (List TradePrint) :=
  match groups.getLast? with
  | none => [[trade]]
  | some group =>
    if joinsGroup thresholds group trade then groups.dropLast ++ [group ++ [trade]] else groups ++ [[trade]]

/-- `_events`. -/
def events (thresholds : OrderFlowThresholds) (trades : List TradePrint) : List (List TradePrint) :=
  trades.foldl (addToEvents thresholds) []

/-- `_event_notional`. -/
def eventNotional (group : List TradePrint) : ℚ :=
  sumSig 28 (group.map (·.worth))

/-- The nearest-rank value. -/
def bigTradeQuantile (notionals : List ℚ) (quantile : ℚ) : Except PyError ℚ :=
  let ordered := notionals.insertionSort (· ≤ ·)
  if ordered = [] then .error ⟨.valueError, "a quantile needs at least one value"⟩
  else
    let rank := ⌈rounded (quantile * ordered.length)⌉
    let index := max 1 (min (ordered.length : Int) rank)
    .ok (ordered.getD (index - 1).toNat 0)

def bigTradeNormalQuantile : ℚ := 995 / 1000

def bigTradeExtremeQuantile : ℚ := 999 / 1000

def minimumBigTradeEvents : Nat := 200

def bigTradeEventsPerLiquiditySession : Nat := 20

/-- `LIQUIDITY_SESSION` and `BIG_TRADE_WINDOW`, in minutes. -/
def liquiditySession : Nat := 240

def bigTradeWindow : Nat := 30

/-- `math.ceil` of the share of a session that a window is. -/
def maximumBigTradeMarkers : Nat :=
  (⌈(bigTradeEventsPerLiquiditySession : ℚ) * (bigTradeWindow / liquiditySession)⌉).toNat

/-- A larger event before a smaller one, the later of two equal ones first. -/
def Outranks (a b : ℚ × Nat) : Prop :=
  b.1 < a.1 ∨ a.1 = b.1 ∧ b.2 ≤ a.2

instance (a b : ℚ × Nat) : Decidable (Outranks a b) := inferInstanceAs (Decidable (_ ∨ _ ∧ _))

/-- The indexes of the events that stay: the largest of those that reach `normal`. -/
def keptIndexes (notionals : List ℚ) (normal : ℚ) : List Nat :=
  let selected := (notionals.zipIdx.filter fun entry => normal ≤ entry.1).insertionSort Outranks
  (selected.take maximumBigTradeMarkers).map (·.2)

def clusterOf (extreme : ℚ) (group : List TradePrint) (summed : ℚ) : Except PyError BigTradeCluster :=
  match group.head?, group.getLast? with
  | some first, some last =>
    match first.side with
    | none => .error ⟨.assertionError, ""⟩
    | some side =>
      let prices := group.map (·.level)
      .ok { side := side
            startedAt := first.occurredAt
            endedAt := last.occurredAt
            lowPrice := prices.min?.getD 0
            highPrice := prices.max?.getD 0
            tradeCount := group.length
            summedNotional := summed
            classification := if extreme ≤ summed then .extreme else .normal }
  | _, _ => .error ⟨.lookupError, "tuple index out of range"⟩

/-- `_big_trades`: `none` when the window cannot say. -/
def bigTrades (trades : List TradePrint) (thresholds : OrderFlowThresholds) :
    Except PyError (Option (List BigTradeCluster)) :=
  let groups := events thresholds trades
  if groups.length < minimumBigTradeEvents then .ok none
  else do
    let notionals := groups.map eventNotional
    let normal ← bigTradeQuantile notionals bigTradeNormalQuantile
    let extreme ← bigTradeQuantile notionals bigTradeExtremeQuantile
    let keep := keptIndexes notionals normal
    let clusters ← ((groups.zip notionals).zipIdx.filter fun entry => entry.2 ∈ keep).mapM fun entry =>
      clusterOf extreme entry.1.1 entry.1.2
    pure (some clusters)

/-! ### Thirty-second bars -/

structure FlowBar where
  index : Int
  openPrice : ℚ
  high : ℚ
  low : ℚ
  close : ℚ
  volume : ℚ
  delta : Option ℚ
  pointOfControl : ℚ

/-- `_THIRTY_SECONDS`, in microseconds. -/
def thirtySeconds : Int := 30 * 10 ^ 6

/-- The bar a trade falls into. -/
def barIndex (start : Instant) (trade : TradePrint) : Int := (trade.occurredAt - start) / thirtySeconds

/-- The notional of a group at each price it traded at. -/
def notionalAt (group : List TradePrint) (price : ℚ) : ℚ :=
  sumSig 28 ((group.filter (·.level = price)).map (·.worth))

def flowBar (index : Int) (group : List TradePrint) : FlowBar where
  index := index
  openPrice := (group.head?.map (·.level)).getD 0
  high := ((group.map (·.level)).max?).getD 0
  low := ((group.map (·.level)).min?).getD 0
  close := (group.getLast?.map (·.level)).getD 0
  volume := sumSig 28 (group.map fun trade => trade.quantity.getD 0)
  delta :=
    if group.all fun trade => trade.side.isSome then
      some (sumSig 28 (group.map fun trade => if trade.side = some .buy then trade.worth else -trade.worth))
    else none
  pointOfControl :=
    let prices := (group.map (·.level)).dedup
    let most := ((prices.map (notionalAt group)).max?).getD 0
    ((prices.filter fun price => notionalAt group price = most).min?).getD 0

/-- `_flow_bars`: the bars that end inside the window. -/
def flowBars (trades : List TradePrint) (start windowEnd : Instant) : List FlowBar :=
  let indexes := (trades.map (barIndex start)).dedup.insertionSort (· ≤ ·)
  (indexes.filter fun index => start + (index + 1) * thirtySeconds ≤ windowEnd).map fun index =>
    flowBar index (trades.filter (barIndex start · = index))

def deltaQuantile : ℚ := 9 / 10

def minimumDeltaBars : Nat := 20

/-- `_delta_threshold`. -/
def deltaThreshold (bars : List FlowBar) : Except PyError (Option ℚ) :=
  let magnitudes := (bars.filterMap (·.delta)).map fun delta => |delta|
  if magnitudes.length < minimumDeltaBars then .ok none
  else (bigTradeQuantile magnitudes deltaQuantile).map some

/-- Every bar knows its delta, and there are two at least. -/
def deltasComplete (bars : List FlowBar) : Bool :=
  decide (2 ≤ bars.length) && bars.all fun bar => bar.delta.isSome

def FlowBar.span (bar : FlowBar) : ℚ := rounded (bar.high - bar.low)

/-- Where the close lies in the bar. -/
def FlowBar.closeLocation (bar : FlowBar) : ℚ := rounded (rounded (bar.close - bar.low) / bar.span)

def reversesAt (thresholds : OrderFlowThresholds) (threshold : ℚ) (event confirmation : FlowBar) : Bool :=
  match event.delta with
  | none => false
  | some delta =>
    if confirmation.index ≠ event.index + 1 then false
    else if event.span ≤ 0 ∨ |delta| < threshold then false
    else if rounded (15 / 100 * thresholds.atr30s) < |rounded (event.close - event.openPrice)| then false
    else if delta < 0 then
      let wick := rounded (rounded (min event.openPrice event.close - event.low) / event.span)
      decide (35 / 100 ≤ wick) && decide (65 / 100 ≤ event.closeLocation) && decide (event.high < confirmation.high)
    else
      let wick := rounded (rounded (event.high - max event.openPrice event.close) / event.span)
      decide (35 / 100 ≤ wick) && decide (event.closeLocation ≤ 35 / 100) && decide (confirmation.low < event.low)

/-- `_reversal_mig`. -/
def reversalMig (bars : List FlowBar) (thresholds : OrderFlowThresholds) (threshold : Option ℚ) : Option Bool :=
  match threshold with
  | none => none
  | some threshold =>
    if deltasComplete bars then
      some ((bars.zip bars.tail).any fun (event, confirmation) => reversesAt thresholds threshold event confirmation)
    else none

def continuesAt (event confirmation : FlowBar) : Bool :=
  match event.delta with
  | none => false
  | some delta =>
    let body := |rounded (event.close - event.openPrice)|
    if confirmation.index ≠ event.index + 1 then false
    else if event.span ≤ 0 ∨ rounded (body / event.span) < 60 / 100 then false
    else if event.openPrice < event.close ∧ 0 < delta ∧
        rounded (rounded (event.high - event.close) / event.span) ≤ 15 / 100 ∧
        rounded (event.close - rounded (50 / 100 * body)) ≤ confirmation.low then true
    else decide (event.close < event.openPrice) && decide (delta < 0) &&
      decide (event.closeLocation ≤ 15 / 100) &&
      decide (confirmation.high ≤ rounded (event.close + rounded (50 / 100 * body)))

/-- `_continuation_mig`. -/
def continuationMig (bars : List FlowBar) : Option Bool :=
  if deltasComplete bars then some ((bars.zip bars.tail).any fun (event, confirmation) => continuesAt event confirmation)
  else none

/-- A bar of an extreme delta, the weaker one after it, and the two bars that may reclaim its point of
control. -/
def driesAt (thresholds : OrderFlowThresholds) (threshold : ℚ) (event second : FlowBar) (reclaim : List FlowBar) : Bool :=
  match event.delta, second.delta with
  | some delta, some secondDelta =>
    let progressLimit := max (rounded (2 * thresholds.tickSize)) (rounded (15 / 100 * thresholds.atr30s))
    if second.index ≠ event.index + 1 then false
    else if |delta| < threshold ∨ progressLimit < |rounded (event.close - event.openPrice)| ∨
        rounded (65 / 100 * |delta|) < |secondDelta| ∨ rounded (75 / 100 * event.volume) < second.volume then false
    else (decide (delta < 0) && reclaim.any fun bar => event.pointOfControl ≤ bar.high) ||
      (decide (0 < delta) && reclaim.any fun bar => bar.low ≤ event.pointOfControl)
  | _, _ => false

/-- `_secado`. -/
def secado (bars : List FlowBar) (thresholds : OrderFlowThresholds) (threshold : Option ℚ) : Option Bool :=
  match threshold with
  | none => none
  | some threshold =>
    if deltasComplete bars then
      some (bars.tails.any fun rest =>
        match rest with
        | event :: second :: later => driesAt thresholds threshold event second (second :: later.take 1)
        | _ => false)
    else none

def sideNotional (trades : List TradePrint) (side : AggressorSide) : ℚ :=
  sumSig 28 ((trades.filter (·.side = some side)).map (·.worth))

/-- A level in the outer third whose one side is large and whose other is next to nothing. -/
def isCeros (thresholds : OrderFlowThresholds) (trades : List TradePrint) (minimum span price : ℚ) : Bool :=
  match thresholds.cerosNearZeroNotional, thresholds.cerosLargeNotional with
  | some nearZero, some large =>
    let atPrice := trades.filter (·.level = price)
    let smaller := min (sideNotional atPrice .buy) (sideNotional atPrice .sell)
    let larger := max (sideNotional atPrice .buy) (sideNotional atPrice .sell)
    let maximum := ((trades.map (·.level)).max?).getD 0
    decide (smaller ≤ nearZero) && decide (large ≤ larger) &&
      (decide (smaller ≤ 0) || decide (4 ≤ rounded (larger / smaller))) &&
      (decide (price ≤ rounded (minimum + rounded (30 / 100 * span))) ||
        decide (rounded (maximum - rounded (30 / 100 * span)) ≤ price))
  | _, _ => false

/-- `_ceros`. -/
def ceros (trades : List TradePrint) (thresholds : OrderFlowThresholds) : Option Bool :=
  if trades = [] ∨ trades.any fun trade => trade.side.isNone then none
  else
    let prices := (trades.map (·.level)).dedup
    let minimum := (prices.min?).getD 0
    let span := rounded ((prices.max?).getD 0 - minimum)
    let ordered := (prices.filter (isCeros thresholds trades minimum span)).insertionSort (· ≤ ·)
    some ((ordered.zip ordered.tail).any fun (previous, current) => rounded (current - previous) = thresholds.tickSize)

/-! ### The window -/

/-- `_unavailable`. -/
def unavailableOrderFlow : OrderFlowFacts where
  state := .unavailable
  tradeCount := 0
  unknownAggressorCount := 0
  buyNotional := 0
  sellNotional := 0
  deltaNotional := none
  bigTrades := some []
  reversalMig := none
  continuationMig := none
  secado := none
  ceros := none
  telemetryOnly := true

/-- The trades that have an aggressor. -/
def knownTrades (trades : List TradePrint) : List TradePrint :=
  trades.filter fun trade => trade.side.isSome

def aggregateOrderFlow (trades : List TradePrint) (windowStart windowEnd : Instant) (thresholds : OrderFlowThresholds) :
    Except PyError OrderFlowFacts :=
  if windowEnd ≤ windowStart then .error ⟨.valueError, "order-flow window must be positive"⟩
  else do
    let deduplicated ← deduplicateTrades (trades.filter fun trade => windowStart ≤ trade.occurredAt ∧ trade.occurredAt < windowEnd)
    if deduplicated.any fun trade => trade.notional.isNone then pure unavailableOrderFlow
    else
      let known := knownTrades deduplicated
      let unknownCount := deduplicated.length - known.length
      let bars := flowBars deduplicated windowStart windowEnd
      let threshold ← deltaThreshold bars
      let markers ← bigTrades known thresholds
      pure
        { state := if unknownCount ≠ 0 then .unknown else .available
          tradeCount := deduplicated.length
          unknownAggressorCount := unknownCount
          buyNotional := sideNotional known .buy
          sellNotional := sideNotional known .sell
          deltaNotional :=
            if unknownCount ≠ 0 then none else some (rounded (sideNotional known .buy - sideNotional known .sell))
          bigTrades := markers
          reversalMig := reversalMig bars thresholds threshold
          continuationMig := continuationMig bars
          secado := secado bars thresholds threshold
          ceros := ceros deduplicated thresholds
          telemetryOnly := true }

end AutoTrader.Strategy
