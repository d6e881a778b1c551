import AutoTrader.Binance.AccountFacts
import AutoTrader.Dispatch.System
import AutoTrader.Domain.DecimalRounding
import AutoTrader.Domain.JsonText
import AutoTrader.Runtime.Alike
import Mathlib.Data.String.Basic

/-! `reconcile_binance_usdm`. An account is captured twice, and the captures are compared by the digest of a projection
in which every list is in the order of its identities and every number has one text. -/

namespace AutoTrader.Binance.Account

open AutoTrader.Dispatch AutoTrader.Domain AutoTrader.Execution AutoTrader.Runtime

/-! ### The projection -/

/-- `_decimal_text`. -/
def canonicalDecimal (value : Decimal) : JsonTree := .str (String.ofList value.decimalText)

/-- `isoformat` of a moment in UTC. -/
def momentText (value : Moment) : JsonTree := .str (isoformat value.instant)

def algoOrderTree (value : BinanceUsdmOpenAlgoOrder Decimal) : JsonTree :=
  .obj
    [("clientId", .str value.clientAlgoId),
      ("closePosition", .bool value.closePosition),
      ("id", .int value.algoId),
      ("quantity", canonicalDecimal value.quantity),
      ("side", .str value.side),
      ("status", .str value.status),
      ("symbol", .str value.symbol),
      ("triggerPrice", canonicalDecimal value.triggerPrice),
      ("type", .str value.orderType)]

def balanceTree (value : BinanceUsdmBalance Decimal) : JsonTree :=
  .obj
    [("asset", .str value.asset),
      ("available", canonicalDecimal value.availableBalance),
      ("balance", canonicalDecimal value.balance),
      ("maximumWithdraw", canonicalDecimal value.maximumWithdrawAmount),
      ("updatedAt", momentText value.updatedAt)]

def configurationTree (configuration : BinanceUsdmConfigurationValues Decimal) : JsonTree :=
  .obj
    [("autoAddMargin", .bool configuration.autoAddMargin),
      ("leverage", .int configuration.leverage),
      ("canTrade", .bool configuration.canTrade),
      ("marginType", .str configuration.marginType),
      ("maximumNotional", canonicalDecimal configuration.maximumNotional),
      ("minimumNotional", canonicalDecimal configuration.minimumNotional),
      ("positionMode", .str configuration.positionMode),
      ("priceTick", canonicalDecimal configuration.priceTickSize),
      ("minimumQuantity", canonicalDecimal configuration.minimumQuantity),
      ("multiAssetsMargin", .bool configuration.multiAssetsMargin),
      ("quantityStep", canonicalDecimal configuration.quantityStepSize),
      ("transferOutEnabled", .bool configuration.transferOutEnabled)]

def incomeTree (value : BinanceUsdmIncomeFact Decimal) : JsonTree :=
  .obj
    [("asset", .str value.asset),
      ("income", canonicalDecimal value.income),
      ("tradeId", .str value.tradeId),
      ("symbol", .str value.symbol),
      ("time", momentText value.occurredAt),
      ("transactionId", .int value.transactionId),
      ("type", .str value.incomeType)]

def normalOrderTree (value : BinanceUsdmOpenOrder Decimal) : JsonTree :=
  .obj
    [("clientId", .str value.clientOrderId),
      ("closePosition", .bool value.closePosition),
      ("executed", canonicalDecimal value.executedQuantity),
      ("id", .int value.orderId),
      ("original", canonicalDecimal value.originalQuantity),
      ("reduceOnly", .bool value.reduceOnly),
      ("side", .str value.side),
      ("status", .str value.status),
      ("symbol", .str value.symbol),
      ("type", .str value.orderType)]

def positionTree (value : BinanceUsdmPosition Decimal) : JsonTree :=
  .obj
    [("amount", canonicalDecimal value.amount),
      ("entryPrice", canonicalDecimal value.entryPrice),
      ("initialMargin", canonicalDecimal value.initialMargin),
      ("isolatedMargin", canonicalDecimal value.isolatedMargin),
      ("maintenanceMargin", canonicalDecimal value.maintenanceMargin),
      ("marginAsset", .str value.marginAsset),
      ("markPrice", canonicalDecimal value.markPrice),
      ("notional", canonicalDecimal value.notional),
      ("openOrderInitialMargin", canonicalDecimal value.openOrderInitialMargin),
      ("positionInitialMargin", canonicalDecimal value.positionInitialMargin),
      ("positionSide", .str value.positionSide),
      ("symbol", .str value.symbol),
      ("unrealizedPnl", canonicalDecimal value.unrealizedPnl),
      ("updatedAt", momentText value.updatedAt)]

def tradeTree (value : BinanceUsdmTradeFact Decimal) : JsonTree :=
  .obj
    [("commission", canonicalDecimal value.commission),
      ("commissionAsset", .str value.commissionAsset),
      ("id", .int value.tradeId),
      ("orderId", .int value.orderId),
      ("price", canonicalDecimal value.price),
      ("quantity", canonicalDecimal value.quantity),
      ("realizedPnl", canonicalDecimal value.realizedPnl),
      ("side", .str value.side),
      ("symbol", .str value.symbol),
      ("time", momentText value.occurredAt)]

/-- The payload of `_projection_digest`. -/
def projection (capture : BinanceUsdmReconciliationCapture) : JsonTree :=
  .obj
    [("algoOrders", .arr ((inOrder (·.algoId) capture.account.algoOrders).map algoOrderTree)),
      ("balances", .arr ((inOrder (·.asset) capture.account.balances).map balanceTree)),
      ("configuration", configurationTree capture.configuration.toBinanceUsdmConfigurationValues),
      ("income", .arr ((inOrder (·.transactionId) capture.account.income).map incomeTree)),
      ("normalOrders", .arr ((inOrder (·.orderId) capture.account.normalOrders).map normalOrderTree)),
      ("positions", .arr ((inOrder positionIdentity capture.account.positions).map positionTree)),
      ("providerAsOf", momentText capture.account.asOf),
      ("trades", .arr ((inOrder (·.tradeId) capture.account.trades).map tradeTree))]

/-- `_projection_digest`. -/
def projectionDigest (sha256 : String → Digest) (capture : BinanceUsdmReconciliationCapture) : Digest :=
  sha256 (projection capture).dumps

/-! ### What the projection tells -/

theorem canonicalDecimal_iff {a b : Decimal} :
    (canonicalDecimal a).sorted = (canonicalDecimal b).sorted ↔ a.toRat = b.toRat := by
  rw [canonicalDecimal, canonicalDecimal, JsonTree.sorted_str_iff, String.ofList_inj, Decimal.decimalText_eq_iff]

theorem momentText_iff {a b : Moment} (ha : a.Utc) (hb : b.Utc) :
    (momentText a).sorted = (momentText b).sorted ↔ a = b := by
  have hazone : a.zone = .utc := of_decide_eq_true ha
  have hbzone : b.zone = .utc := of_decide_eq_true hb
  rw [momentText, momentText, JsonTree.sorted_str_iff]
  constructor
  · intro h
    exact Moment.ext (isoformat_injective (a.held hazone) (b.held hbzone) h) (hazone.trans hbzone.symm)
  · rintro rfl
    rfl

theorem algoOrderTree_iff {a b : BinanceUsdmOpenAlgoOrder Decimal} :
    (algoOrderTree a).sorted = (algoOrderTree b).sorted ↔ a.map Decimal.toRat = b.map Decimal.toRat := by
  unfold algoOrderTree
  rw [JsonTree.sorted_obj_eq_iff]
  · simp only [List.map_cons, List.map_nil, List.cons.injEq, and_true, canonicalDecimal_iff, JsonTree.sorted_str_iff,
      JsonTree.sorted_int_iff, JsonTree.sorted_bool_iff, BinanceUsdmOpenAlgoOrder.map,
      BinanceUsdmOpenAlgoOrder.mk.injEq]
    constructor <;> intro h <;> simp only [h, and_self]
  · simp only [List.map_cons, List.map_nil]
  · simp only [List.map_cons, List.map_nil]
    decide

theorem balanceTree_iff {a b : BinanceUsdmBalance Decimal} (ha : a.updatedAt.Utc) (hb : b.updatedAt.Utc) :
    (balanceTree a).sorted = (balanceTree b).sorted ↔ a.map Decimal.toRat = b.map Decimal.toRat := by
  unfold balanceTree
  rw [JsonTree.sorted_obj_eq_iff]
  · simp only [List.map_cons, List.map_nil, List.cons.injEq, and_true, canonicalDecimal_iff, JsonTree.sorted_str_iff,
      momentText_iff ha hb, BinanceUsdmBalance.map, BinanceUsdmBalance.mk.injEq]
    constructor <;> intro h <;> simp only [h, and_self]
  · simp only [List.map_cons, List.map_nil]
  · simp only [List.map_cons, List.map_nil]
    decide

theorem configurationTree_iff {a b : BinanceUsdmConfigurationValues Decimal} :
    (configurationTree a).sorted = (configurationTree b).sorted ↔ a.map Decimal.toRat = b.map Decimal.toRat := by
  unfold configurationTree
  rw [JsonTree.sorted_obj_eq_iff]
  · simp only [List.map_cons, List.map_nil, List.cons.injEq, and_true, canonicalDecimal_iff, JsonTree.sorted_str_iff,
      JsonTree.sorted_int_iff, JsonTree.sorted_bool_iff, BinanceUsdmConfigurationValues.map,
      BinanceUsdmConfigurationValues.mk.injEq]
    constructor <;> intro h <;> simp only [h, and_self]
  · simp only [List.map_cons, List.map_nil]
  · simp only [List.map_cons, List.map_nil]
    decide

theorem incomeTree_iff {a b : BinanceUsdmIncomeFact Decimal} (ha : a.occurredAt.Utc) (hb : b.occurredAt.Utc) :
    (incomeTree a).sorted = (incomeTree b).sorted ↔ a.map Decimal.toRat = b.map Decimal.toRat := by
  unfold incomeTree
  rw [JsonTree.sorted_obj_eq_iff]
  · simp only [List.map_cons, List.map_nil, List.cons.injEq, and_true, canonicalDecimal_iff, JsonTree.sorted_str_iff,
      JsonTree.sorted_int_iff, momentText_iff ha hb, BinanceUsdmIncomeFact.map, BinanceUsdmIncomeFact.mk.injEq]
    constructor <;> intro h <;> simp only [h, and_self]
  · simp only [List.map_cons, List.map_nil]
  · simp only [List.map_cons, List.map_nil]
    decide

theorem normalOrderTree_iff {a b : BinanceUsdmOpenOrder Decimal} :
    (normalOrderTree a).sorted = (normalOrderTree b).sorted ↔ a.map Decimal.toRat = b.map Decimal.toRat := by
  unfold normalOrderTree
  rw [JsonTree.sorted_obj_eq_iff]
  · simp only [List.map_cons, List.map_nil, List.cons.injEq, and_true, canonicalDecimal_iff, JsonTree.sorted_str_iff,
      JsonTree.sorted_int_iff, JsonTree.sorted_bool_iff, BinanceUsdmOpenOrder.map, BinanceUsdmOpenOrder.mk.injEq]
    constructor <;> intro h <;> simp only [h, and_self]
  · simp only [List.map_cons, List.map_nil]
  · simp only [List.map_cons, List.map_nil]
    decide

theorem positionTree_iff {a b : BinanceUsdmPosition Decimal} (ha : a.updatedAt.Utc) (hb : b.updatedAt.Utc) :
    (positionTree a).sorted = (positionTree b).sorted ↔ a.map Decimal.toRat = b.map Decimal.toRat := by
  unfold positionTree
  rw [JsonTree.sorted_obj_eq_iff]
  · simp only [List.map_cons, List.map_nil, List.cons.injEq, and_true, canonicalDecimal_iff, JsonTree.sorted_str_iff,
      momentText_iff ha hb, BinanceUsdmPosition.map, BinanceUsdmPosition.mk.injEq]
    constructor <;> intro h <;> simp only [h, and_self]
  · simp only [List.map_cons, List.map_nil]
  · simp only [List.map_cons, List.map_nil]
    decide

theorem tradeTree_iff {a b : BinanceUsdmTradeFact Decimal} (ha : a.occurredAt.Utc) (hb : b.occurredAt.Utc) :
    (tradeTree a).sorted = (tradeTree b).sorted ↔ a.map Decimal.toRat = b.map Decimal.toRat := by
  unfold tradeTree
  rw [JsonTree.sorted_obj_eq_iff]
  · simp only [List.map_cons, List.map_nil, List.cons.injEq, and_true, canonicalDecimal_iff, JsonTree.sorted_str_iff,
      JsonTree.sorted_int_iff, momentText_iff ha hb, BinanceUsdmTradeFact.map, BinanceUsdmTradeFact.mk.injEq]
    constructor <;> intro h <;> simp only [h, and_self]
  · simp only [List.map_cons, List.map_nil]
  · simp only [List.map_cons, List.map_nil]
    decide

/-! ### Captures of the same facts -/

/-- Captures of the same facts: as sets, whatever their order and the notation of their numbers. -/
structure SameFacts (a b : BinanceUsdmReconciliationCapture) : Prop where
  asOf : a.account.asOf = b.account.asOf
  balances : (a.account.balances.map (·.map Decimal.toRat)).Perm (b.account.balances.map (·.map Decimal.toRat))
  positions : (a.account.positions.map (·.map Decimal.toRat)).Perm (b.account.positions.map (·.map Decimal.toRat))
  normalOrders :
    (a.account.normalOrders.map (·.map Decimal.toRat)).Perm (b.account.normalOrders.map (·.map Decimal.toRat))
  algoOrders : (a.account.algoOrders.map (·.map Decimal.toRat)).Perm (b.account.algoOrders.map (·.map Decimal.toRat))
  trades : (a.account.trades.map (·.map Decimal.toRat)).Perm (b.account.trades.map (·.map Decimal.toRat))
  income : (a.account.income.map (·.map Decimal.toRat)).Perm (b.account.income.map (·.map Decimal.toRat))
  configuration : a.configuration.toBinanceUsdmConfigurationValues.map Decimal.toRat =
    b.configuration.toBinanceUsdmConfigurationValues.map Decimal.toRat

/-- A list in the order of its identities is rendered as the set of its values. -/
theorem listed_iff {α κ ω : Type} [LinearOrder ω] {tree : α → JsonTree} {key : α → κ} {identity : α → ω}
    (named : κ → ω) (hnamed : ∀ x, named (key x) = identity x) {xs ys : List α}
    (htree : ∀ x ∈ xs, ∀ y ∈ ys, (tree x).sorted = (tree y).sorted ↔ key x = key y)
    (hdistinct : (xs.map identity).Nodup) :
    (JsonTree.arr ((inOrder identity xs).map tree)).sorted = (JsonTree.arr ((inOrder identity ys).map tree)).sorted ↔
      (xs.map key).Perm (ys.map key) := by
  rw [← inOrder_keys_iff hnamed hdistinct, ← List.forall₂_eq_eq_eq, List.forall₂_map_left_iff,
    List.forall₂_map_right_iff]
  exact JsonTree.sorted_arr_iff fun x hx y hy => htree x (mem_inOrder.mp hx) y (mem_inOrder.mp hy)

section Projection

variable {a b : BinanceUsdmReconciliationCapture} (ha : a.Checked) (hb : b.Checked)

include ha

theorem algoOrders_iff :
    (JsonTree.arr ((inOrder (·.algoId) a.account.algoOrders).map algoOrderTree)).sorted =
        (JsonTree.arr ((inOrder (·.algoId) b.account.algoOrders).map algoOrderTree)).sorted ↔
      (a.account.algoOrders.map (·.map Decimal.toRat)).Perm (b.account.algoOrders.map (·.map Decimal.toRat)) :=
  listed_iff (fun value : BinanceUsdmOpenAlgoOrder ℚ => value.algoId) (fun _ => rfl)
    (fun _ _ _ _ => algoOrderTree_iff) ha.algoOrders

theorem normalOrders_iff :
    (JsonTree.arr ((inOrder (·.orderId) a.account.normalOrders).map normalOrderTree)).sorted =
        (JsonTree.arr ((inOrder (·.orderId) b.account.normalOrders).map normalOrderTree)).sorted ↔
      (a.account.normalOrders.map (·.map Decimal.toRat)).Perm (b.account.normalOrders.map (·.map Decimal.toRat)) :=
  listed_iff (fun value : BinanceUsdmOpenOrder ℚ => value.orderId) (fun _ => rfl)
    (fun _ _ _ _ => normalOrderTree_iff) ha.normalOrders

include hb

theorem balances_iff :
    (JsonTree.arr ((inOrder (·.asset) a.account.balances).map balanceTree)).sorted =
        (JsonTree.arr ((inOrder (·.asset) b.account.balances).map balanceTree)).sorted ↔
      (a.account.balances.map (·.map Decimal.toRat)).Perm (b.account.balances.map (·.map Decimal.toRat)) := by
  apply listed_iff fun value : BinanceUsdmBalance ℚ => value.asset
  · exact fun _ => rfl
  · exact fun x hx y hy => balanceTree_iff (ha.balanceTimes x hx) (hb.balanceTimes y hy)
  · exact ha.balances

theorem positions_iff :
    (JsonTree.arr ((inOrder positionIdentity a.account.positions).map positionTree)).sorted =
        (JsonTree.arr ((inOrder positionIdentity b.account.positions).map positionTree)).sorted ↔
      (a.account.positions.map (·.map Decimal.toRat)).Perm (b.account.positions.map (·.map Decimal.toRat)) :=
  listed_iff positionIdentity (fun _ => rfl)
    (fun x hx y hy => positionTree_iff (ha.positionTimes x hx) (hb.positionTimes y hy)) ha.positions

theorem trades_iff :
    (JsonTree.arr ((inOrder (·.tradeId) a.account.trades).map tradeTree)).sorted =
        (JsonTree.arr ((inOrder (·.tradeId) b.account.trades).map tradeTree)).sorted ↔
      (a.account.trades.map (·.map Decimal.toRat)).Perm (b.account.trades.map (·.map Decimal.toRat)) :=
  listed_iff (fun value : BinanceUsdmTradeFact ℚ => value.tradeId) (fun _ => rfl)
    (fun x hx y hy => tradeTree_iff (ha.tradeTimes x hx) (hb.tradeTimes y hy)) ha.trades

theorem income_iff :
    (JsonTree.arr ((inOrder (·.transactionId) a.account.income).map incomeTree)).sorted =
        (JsonTree.arr ((inOrder (·.transactionId) b.account.income).map incomeTree)).sorted ↔
      (a.account.income.map (·.map Decimal.toRat)).Perm (b.account.income.map (·.map Decimal.toRat)) :=
  listed_iff (fun value : BinanceUsdmIncomeFact ℚ => value.transactionId) (fun _ => rfl)
    (fun x hx y hy => incomeTree_iff (ha.incomeTimes x hx) (hb.incomeTimes y hy)) ha.income

/-- Captures have one projection if and only if they are of the same facts. -/
theorem projection_iff : (projection a).dumps = (projection b).dumps ↔ SameFacts a b := by
  rw [JsonTree.dumps_eq_iff]
  unfold projection
  rw [JsonTree.sorted_obj_eq_iff]
  · simp only [List.map_cons, List.map_nil, List.cons.injEq, and_true, algoOrders_iff ha, balances_iff ha hb,
      configurationTree_iff, income_iff ha hb, normalOrders_iff ha, positions_iff ha hb, momentText_iff ha.asOf hb.asOf,
      trades_iff ha hb]
    exact ⟨fun ⟨halgo, hbalances, hconfiguration, hincome, hnormal, hpositions, hasOf, htrades⟩ =>
        ⟨hasOf, hbalances, hpositions, hnormal, halgo, htrades, hincome, hconfiguration⟩,
      fun h => ⟨h.algoOrders, h.balances, h.configuration, h.income, h.normalOrders, h.positions, h.asOf, h.trades⟩⟩
  · simp only [List.map_cons, List.map_nil]
  · simp only [List.map_cons, List.map_nil]
    decide

end Projection

/-! ### Results -/

inductive BinanceUsdmReconciliationState
  | complete
  | incomplete
  deriving DecidableEq

/-- `BinanceUsdmReconciliationResult`. The state `PARTIAL` is the incomplete one. -/
structure BinanceUsdmReconciliationResult where
  runId : UUID
  bindingId : UUID
  accountId : UUID
  providerAsOf : Moment
  startedAt : Moment
  completedAt : Moment
  state : BinanceUsdmReconciliationState
  stable : Bool
  factDigest : Digest
  blockers : List String
  capture : Option BinanceUsdmReconciliationCapture

/-- `BinanceUsdmReconciliationResult.__post_init__`. -/
def BinanceUsdmReconciliationResult.postInit (result : BinanceUsdmReconciliationResult) : Except PyError Unit := do
  requireUuid7 result.runId "run_id"
  requireUuid7 result.bindingId "binding_id"
  requireUuid7 result.accountId "account_id"
  requireExactUtc result.providerAsOf "provider_as_of"
  requireExactUtc result.startedAt "started_at"
  requireExactUtc result.completedAt "completed_at"
  require (decide (result.providerAsOf.instant ≤ result.startedAt.instant) &&
    decide (result.startedAt.instant < result.completedAt.instant))
    (valueError "Binance USD-M reconciliation times are invalid")
  require (result.blockers.all (fun code => decide (code ≠ "")) &&
    decide (result.blockers.dedup.insertionSort (· ≤ ·) = result.blockers))
    (valueError "Binance USD-M blockers must be canonical")
  match result.state with
  | .complete =>
    require (result.stable && result.blockers.isEmpty && result.capture.isSome)
      (valueError "complete Binance USD-M reconciliation is invalid")
  | .incomplete =>
    require (!result.stable && !result.blockers.isEmpty && result.capture.isNone)
      (valueError "partial Binance USD-M reconciliation is invalid")

/-! ### The reconciliation -/

/-- `_MAX_CAPTURE_DURATION`. -/
def maxCaptureDuration : Instant := 30000000

/-- What the parts of a context answer. A capture that the deadline interrupts is a `TimeoutError`. -/
structure BinanceUsdmReconciliationAnswers where
  newRunId : Except PyError UUID
  firstCapture : Except PyError BinanceUsdmReconciliationCapture
  secondCapture : Except PyError BinanceUsdmReconciliationCapture
  clock : Except PyError Moment
  persist : BinanceUsdmReconciliationResult → Except PyError Unit

/-- `_capture_once`. -/
def captureOnce (asOf : Moment) (answer : Except PyError BinanceUsdmReconciliationCapture) :
    Except PyError BinanceUsdmReconciliationCapture := do
  let capture ← answer
  capture.postInit
  require (decide (capture.account.asOf = asOf)) (valueError "Binance USD-M provider as-of differs")
  pure capture

/-- `_capture_time`. -/
def captureTime (asOf : Moment) (clock : Except PyError Moment) : Except PyError Moment := do
  let capturedAt ← clock
  requireExactUtc capturedAt "reconciliation clock"
  require (decide (asOf.instant < capturedAt.instant)) (valueError "Binance USD-M reconciliation time is invalid")
  pure capturedAt

/-- Both captures, or what was raised and the first capture if it was made. -/
def captureTwice (asOf : Moment) (answers : BinanceUsdmReconciliationAnswers) :
    Except (PyError × Option BinanceUsdmReconciliationCapture)
      (BinanceUsdmReconciliationCapture × BinanceUsdmReconciliationCapture) :=
  match captureOnce asOf answers.firstCapture with
  | .error e => .error (e, none)
  | .ok first =>
    match captureOnce asOf answers.secondCapture with
    | .error e => .error (e, some first)
    | .ok second => .ok (first, second)

/-- A result is built, which checks it, and persisted. -/
def persistResult (answers : BinanceUsdmReconciliationAnswers) (result : BinanceUsdmReconciliationResult) :
    Except PyError BinanceUsdmReconciliationResult := do
  result.postInit
  answers.persist result
  pure result

section Reconciliation

variable (sha256 : String → Digest) (factDigest : Moment → Digest → Digest)
  (blockedDigest : String → List Digest → Digest) (bindingId accountId : UUID) (asOf : Moment)

/-- `_partial_result`. -/
def incompleteResult (runId : UUID) (blocker : String) (values : List Digest) (completedAt : Moment) :
    BinanceUsdmReconciliationResult where
  runId := runId
  bindingId := bindingId
  accountId := accountId
  providerAsOf := asOf
  startedAt := asOf
  completedAt := completedAt
  state := .incomplete
  stable := false
  factDigest := blockedDigest blocker values
  blockers := [blocker]
  capture := none

def completeResult (runId : UUID) (second : BinanceUsdmReconciliationCapture) (completedAt : Moment) :
    BinanceUsdmReconciliationResult where
  runId := runId
  bindingId := bindingId
  accountId := accountId
  providerAsOf := asOf
  startedAt := asOf
  completedAt := completedAt
  state := .complete
  stable := true
  factDigest := factDigest asOf (projectionDigest sha256 second)
  blockers := []
  capture := some second

/-- The result of captures that were made by a time. -/
def comparedResult (runId : UUID) (first second : BinanceUsdmReconciliationCapture) (completedAt : Moment) :
    BinanceUsdmReconciliationResult :=
  if asOf.instant + maxCaptureDuration < completedAt.instant then
    incompleteResult blockedDigest bindingId accountId asOf runId "CAPTURE_DEADLINE_EXCEEDED"
      [projectionDigest sha256 first, projectionDigest sha256 second] completedAt
  else if projectionDigest sha256 first ≠ projectionDigest sha256 second then
    incompleteResult blockedDigest bindingId accountId asOf runId "SNAPSHOT_DRIFT"
      [projectionDigest sha256 first, projectionDigest sha256 second] completedAt
  else completeResult sha256 factDigest bindingId accountId asOf runId second completedAt

/-- `reconcile_binance_usdm`. -/
def reconcileBinanceUsdm (answers : BinanceUsdmReconciliationAnswers) :
    Except PyError BinanceUsdmReconciliationResult := do
  require (bindingId.isVersion7 && accountId.isVersion7 && asOf.isExactUtc)
    ⟨.binanceUsdmReconciliationUnavailable, "Binance USD-M reconciliation input is invalid"⟩
  let runId ← answers.newRunId
  requireUuid7 runId "run_id"
  match captureTwice asOf answers with
  | .error (e, first) =>
    if e.kind.isControl then .error e
    else
      let completedAt ← captureTime asOf answers.clock
      let blocker := if e.kind = .timeoutError then "CAPTURE_DEADLINE_EXCEEDED" else "PROVIDER_UNAVAILABLE"
      persistResult answers
        (incompleteResult blockedDigest bindingId accountId asOf runId blocker
          (first.toList.map (projectionDigest sha256)) completedAt)
  | .ok (first, second) =>
    let completedAt ← captureTime asOf answers.clock
    persistResult answers
      (comparedResult sha256 factDigest blockedDigest bindingId accountId asOf runId first second completedAt)

end Reconciliation

/-! ### Complete results -/

variable {sha256 : String → Digest} {factDigest : Moment → Digest → Digest}
  {blockedDigest : String → List Digest → Digest} {bindingId accountId runId : UUID} {asOf completedAt : Moment}
  {answers : BinanceUsdmReconciliationAnswers}
  {first second : BinanceUsdmReconciliationCapture} {result : BinanceUsdmReconciliationResult}

/-- The captures are made, checked and in time, and the complete result is stored. -/
structure CapturedTwice (sha256 : String → Digest) (factDigest : Moment → Digest → Digest) (bindingId accountId : UUID)
    (asOf : Moment) (answers : BinanceUsdmReconciliationAnswers) (runId : UUID)
    (first second : BinanceUsdmReconciliationCapture) (completedAt : Moment) : Prop where
  input : bindingId.isVersion7 = true ∧ accountId.isVersion7 = true ∧ asOf.Utc
  newRunId : answers.newRunId = .ok runId
  version7 : runId.isVersion7 = true
  readFirst : captureOnce asOf answers.firstCapture = .ok first
  readSecond : captureOnce asOf answers.secondCapture = .ok second
  clock : captureTime asOf answers.clock = .ok completedAt
  inTime : completedAt.instant ≤ asOf.instant + maxCaptureDuration
  persisted :
    answers.persist (completeResult sha256 factDigest bindingId accountId asOf runId second completedAt) = .ok ()

theorem captureTwice_ok :
    captureTwice asOf answers = .ok (first, second) ↔
      captureOnce asOf answers.firstCapture = .ok first ∧ captureOnce asOf answers.secondCapture = .ok second := by
  unfold captureTwice
  cases captureOnce asOf answers.firstCapture with
  | error e => simp
  | ok a =>
    cases captureOnce asOf answers.secondCapture with
    | error e => simp
    | ok b => simp

theorem captureOnce_checked {answer : Except PyError BinanceUsdmReconciliationCapture}
    {capture : BinanceUsdmReconciliationCapture} (h : captureOnce asOf answer = .ok capture) : capture.Checked := by
  obtain ⟨captured, -, h⟩ := bind_ok.mp h
  obtain ⟨_, hvalid, h⟩ := bind_ok.mp h
  obtain ⟨_, -, h⟩ := bind_ok.mp h
  cases h
  exact checked_of_postInit hvalid

theorem captureTime_ok {clock : Except PyError Moment} :
    captureTime asOf clock = .ok completedAt ↔
      clock = .ok completedAt ∧ completedAt.Utc ∧ asOf.instant < completedAt.instant := by
  simp only [captureTime, bind_ok, requireExactUtc_ok, require_ok, decide_eq_true_eq]
  constructor
  · rintro ⟨_, hclock, _, hutc, _, hlt, h⟩
    cases h
    exact ⟨hclock, hutc, hlt⟩
  · rintro ⟨hclock, hutc, hlt⟩
    exact ⟨completedAt, hclock, (), hutc, (), hlt, rfl⟩

theorem persistResult_ok {built : BinanceUsdmReconciliationResult} :
    persistResult answers built = .ok result ↔
      built.postInit = .ok () ∧ answers.persist built = .ok () ∧ result = built := by
  simp only [persistResult, bind_ok]
  constructor
  · rintro ⟨_, hvalid, _, hpersist, h⟩
    cases h
    exact ⟨hvalid, hpersist, rfl⟩
  · rintro ⟨hvalid, hpersist, rfl⟩
    exact ⟨(), hvalid, (), hpersist, rfl⟩

theorem completeResult_valid (hinput : bindingId.isVersion7 = true ∧ accountId.isVersion7 = true ∧ asOf.Utc)
    (hrun : runId.isVersion7 = true) (hutc : completedAt.Utc) (hlt : asOf.instant < completedAt.instant) :
    (completeResult sha256 factDigest bindingId accountId asOf runId second completedAt).postInit = .ok () := by
  obtain ⟨hbinding, haccount, hasOf⟩ := hinput
  simp only [BinanceUsdmReconciliationResult.postInit, completeResult, bind_ok, requireUuid7, requireExactUtc_ok,
    require_ok]
  exact ⟨(), hrun, (), hbinding, (), haccount, (), hasOf, (), hasOf, (), hutc, (), by simp [hlt], (), rfl, rfl⟩

/-- A complete result is of captures with one digest. -/
theorem comparedResult_complete
    (h : (comparedResult sha256 factDigest blockedDigest bindingId accountId asOf runId first second completedAt).state =
      .complete) :
    completedAt.instant ≤ asOf.instant + maxCaptureDuration ∧
      projectionDigest sha256 first = projectionDigest sha256 second := by
  unfold comparedResult at h
  split at h
  · cases h
  rename_i hlate
  split at h
  · cases h
  rename_i hsame
  exact ⟨not_lt.mp hlate, not_ne_iff.mp hsame⟩

theorem comparedResult_of_same (hin : completedAt.instant ≤ asOf.instant + maxCaptureDuration)
    (hsame : projectionDigest sha256 first = projectionDigest sha256 second) :
    comparedResult sha256 factDigest blockedDigest bindingId accountId asOf runId first second completedAt =
      completeResult sha256 factDigest bindingId accountId asOf runId second completedAt := by
  rw [comparedResult, if_neg (not_lt.mpr hin), if_neg (not_ne_iff.mpr hsame)]

/-- A reconciliation is complete if and only if both captures are made in time and are of the same facts. -/
theorem reconcile_complete_iff (sha256 : String → Digest) (factDigest : Moment → Digest → Digest)
    (blockedDigest : String → List Digest → Digest) (bindingId accountId : UUID) (asOf : Moment)
    (answers : BinanceUsdmReconciliationAnswers) (result : BinanceUsdmReconciliationResult)
    (hcollision : ∀ first second, captureOnce asOf answers.firstCapture = .ok first →
      captureOnce asOf answers.secondCapture = .ok second →
      projectionDigest sha256 first = projectionDigest sha256 second →
      (projection first).dumps = (projection second).dumps) :
    reconcileBinanceUsdm sha256 factDigest blockedDigest bindingId accountId asOf answers = .ok result ∧
        result.state = .complete ↔
      ∃ runId first second completedAt,
        CapturedTwice sha256 factDigest bindingId accountId asOf answers runId first second completedAt ∧
        SameFacts first second ∧
        result = completeResult sha256 factDigest bindingId accountId asOf runId second completedAt := by
  constructor
  · rintro ⟨h, hcomplete⟩
    obtain ⟨_, hinput, h⟩ := bind_ok.mp h
    obtain ⟨runId, hrunId, h⟩ := bind_ok.mp h
    obtain ⟨_, hversion7, h⟩ := bind_ok.mp h
    rw [require_ok, Bool.and_eq_true, Bool.and_eq_true] at hinput
    split at h
    · split at h
      · cases h
      · obtain ⟨completedAt, -, h⟩ := bind_ok.mp h
        obtain ⟨-, -, rfl⟩ := persistResult_ok.mp h
        cases hcomplete
    · rename_i first second hcaptures
      obtain ⟨hfirst, hsecond⟩ := captureTwice_ok.mp hcaptures
      obtain ⟨completedAt, hclock, h⟩ := bind_ok.mp h
      obtain ⟨-, hpersist, rfl⟩ := persistResult_ok.mp h
      obtain ⟨hin, hsame⟩ := comparedResult_complete hcomplete
      rw [comparedResult_of_same hin hsame] at hpersist ⊢
      exact ⟨runId, first, second, completedAt,
        ⟨⟨hinput.1.1, hinput.1.2, hinput.2⟩, hrunId, require_ok.mp hversion7, hfirst, hsecond, hclock, hin, hpersist⟩,
        (projection_iff (captureOnce_checked hfirst) (captureOnce_checked hsecond)).mp
          (hcollision first second hfirst hsecond hsame), rfl⟩
  · rintro ⟨runId, first, second, completedAt, hcaptured, hfacts, rfl⟩
    refine ⟨?_, rfl⟩
    have hsame : projectionDigest sha256 first = projectionDigest sha256 second :=
      congrArg sha256 ((projection_iff (captureOnce_checked hcaptured.readFirst)
        (captureOnce_checked hcaptured.readSecond)).mpr hfacts)
    obtain ⟨-, hutc, hlt⟩ := captureTime_ok.mp hcaptured.clock
    unfold reconcileBinanceUsdm
    rw [captureTwice_ok.mpr ⟨hcaptured.readFirst, hcaptured.readSecond⟩]
    refine bind_ok.mpr ⟨(), require_ok.mpr ?_, bind_ok.mpr ⟨runId, hcaptured.newRunId, bind_ok.mpr ⟨(),
      require_ok.mpr hcaptured.version7, bind_ok.mpr ⟨completedAt, hcaptured.clock, persistResult_ok.mpr ?_⟩⟩⟩⟩
    · rw [Bool.and_eq_true, Bool.and_eq_true]
      exact ⟨⟨hcaptured.input.1, hcaptured.input.2.1⟩, hcaptured.input.2.2⟩
    · rw [comparedResult_of_same hcaptured.inTime hsame]
      exact ⟨completeResult_valid hcaptured.input hcaptured.version7 hutc hlt, hcaptured.persisted, rfl⟩

/-! ### Samples -/

theorem momentAt_valid (n : Fin 256) : IsDatetime (n : ℤ) := ⟨by omega, by omega⟩

/-- A moment in UTC, so many microseconds after the epoch. -/
def momentAt (n : Fin 256) : Moment := ⟨⟨n, .utc⟩, fun _ => momentAt_valid n⟩

def boughtAt (tradeId : ℤ) (quantity : Decimal) : BinanceUsdmTradeFact Decimal where
  tradeId := tradeId
  orderId := 1
  symbol := "BTCUSDT"
  side := "BUY"
  quantity := quantity
  price := ⟨false, 100, 0⟩
  commission := ⟨false, 0, 0⟩
  commissionAsset := "USDT"
  realizedPnl := ⟨false, 0, 0⟩
  occurredAt := momentAt 0

/-- An account with these trades and nothing else. -/
def tradedCapture (trades : List (BinanceUsdmTradeFact Decimal)) : BinanceUsdmReconciliationCapture where
  account :=
    { asOf := momentAt 1
      balances := [⟨"USDT", ⟨false, 500, 0⟩, ⟨false, 500, 0⟩, ⟨false, 500, 0⟩, momentAt 0⟩]
      positions := []
      normalOrders := []
      algoOrders := []
      trades := trades
      income := [] }
  configuration :=
    { positionMode := "ONE_WAY"
      marginType := "ISOLATED"
      autoAddMargin := false
      leverage := 1
      canTrade := true
      multiAssetsMargin := false
      transferOutEnabled := false
      maximumNotional := ⟨false, 1000, 0⟩
      priceTickSize := ⟨false, 1, -1⟩
      minimumQuantity := ⟨false, 1, -3⟩
      quantityStepSize := ⟨false, 1, -3⟩
      minimumNotional := ⟨false, 5, 0⟩
      capturedAt := momentAt 1 }
  capturedAt := momentAt 2

/-- Two trades, and the same in the other order and in another notation. -/
def firstTrades : BinanceUsdmReconciliationCapture :=
  tradedCapture [boughtAt 7 ⟨false, 1, 0⟩, boughtAt 8 ⟨false, 2, 0⟩]

def secondTrades : BinanceUsdmReconciliationCapture :=
  tradedCapture [boughtAt 8 ⟨false, 200, -2⟩, boughtAt 7 ⟨false, 10, -1⟩]

theorem firstTrades_valid : firstTrades.postInit = .ok () := by decide +kernel

theorem secondTrades_valid : secondTrades.postInit = .ok () := by decide +kernel

def tradedAnswers : BinanceUsdmReconciliationAnswers where
  newRunId := .ok (sampleId 3)
  firstCapture := .ok firstTrades
  secondCapture := .ok secondTrades
  clock := .ok (momentAt 2)
  persist _ := .ok ()

theorem captureOnce_valid {capture : BinanceUsdmReconciliationCapture} (hvalid : capture.postInit = .ok ())
    (hasOf : capture.account.asOf = asOf) : captureOnce asOf (.ok capture) = .ok capture :=
  bind_ok.mpr ⟨capture, rfl, bind_ok.mpr ⟨(), hvalid, bind_ok.mpr ⟨(), require_ok.mpr (decide_eq_true hasOf), rfl⟩⟩⟩

theorem trades_sameFacts : SameFacts firstTrades secondTrades where
  asOf := rfl
  balances := .refl _
  positions := .refl _
  normalOrders := .refl _
  algoOrders := .refl _
  trades := by
    have hone : Decimal.toRat ⟨false, 10, -1⟩ = Decimal.toRat ⟨false, 1, 0⟩ := by norm_num [Decimal.toRat]
    have htwo : Decimal.toRat ⟨false, 200, -2⟩ = Decimal.toRat ⟨false, 2, 0⟩ := by norm_num [Decimal.toRat]
    simp only [firstTrades, secondTrades, tradedCapture, boughtAt, List.map_cons, List.map_nil,
      BinanceUsdmTradeFact.map, hone, htwo]
    exact .swap _ _ _
  income := .refl _
  configuration := rfl

/-- Both trades are read in both captures. -/
theorem reconcile_complete_reordered :
    ∃ result, reconcileBinanceUsdm (fun text => BitVec.ofNat 256 text.length) (fun _ _ => 0) (fun _ _ => 0)
      (sampleId 1) (sampleId 2) (momentAt 1) tradedAnswers = .ok result ∧ result.state = .complete := by
  have hfirst : captureOnce (momentAt 1) tradedAnswers.firstCapture = .ok firstTrades :=
    captureOnce_valid firstTrades_valid rfl
  have hsecond : captureOnce (momentAt 1) tradedAnswers.secondCapture = .ok secondTrades :=
    captureOnce_valid secondTrades_valid rfl
  have hinput : (sampleId 1).isVersion7 = true ∧ (sampleId 2).isVersion7 = true ∧ (momentAt 1).Utc :=
    ⟨by decide +kernel, by decide +kernel, rfl⟩
  have hclock : captureTime (momentAt 1) tradedAnswers.clock = .ok (momentAt 2) :=
    captureTime_ok.mpr ⟨rfl, rfl, by decide⟩
  refine ⟨_, (reconcile_complete_iff _ _ _ _ _ _ _ _ fun a b ha hb _ => ?_).mpr
    ⟨sampleId 3, firstTrades, secondTrades, momentAt 2,
      ⟨hinput, rfl, by decide +kernel, hfirst, hsecond, hclock, by decide, rfl⟩, trades_sameFacts, rfl⟩⟩
  obtain rfl : firstTrades = a := Except.ok.inj (hfirst.symm.trans ha)
  obtain rfl : secondTrades = b := Except.ok.inj (hsecond.symm.trans hb)
  exact (projection_iff (captureOnce_checked hfirst) (captureOnce_checked hsecond)).mpr trades_sameFacts

end AutoTrader.Binance.Account
