import AutoTrader.Binance.OrderModels
import AutoTrader.Domain.Timestamps
import Mathlib.Data.Prod.Lex

/-! The facts of an account as the provider reports them, and the checks a capture of them has to pass. The records
are generic in their numbers, which are decimals as they are reported. -/

namespace AutoTrader.Binance.Account

open AutoTrader.Domain

/-! ### Facts -/

/-- A `datetime`; one in UTC is within its years. -/
@[ext] structure Moment extends DateTime where
  held : zone = .utc → IsDatetime instant
  deriving DecidableEq

structure BinanceUsdmBalance (ν : Type) where
  asset : String
  balance : ν
  availableBalance : ν
  maximumWithdrawAmount : ν
  updatedAt : Moment
  deriving DecidableEq

structure BinanceUsdmPosition (ν : Type) where
  symbol : String
  positionSide : String
  amount : ν
  entryPrice : ν
  markPrice : ν
  unrealizedPnl : ν
  isolatedMargin : ν
  notional : ν
  marginAsset : String
  initialMargin : ν
  maintenanceMargin : ν
  positionInitialMargin : ν
  openOrderInitialMargin : ν
  updatedAt : Moment
  deriving DecidableEq

structure BinanceUsdmOpenOrder (ν : Type) where
  orderId : ℤ
  clientOrderId : String
  symbol : String
  status : String
  side : String
  orderType : String
  executedQuantity : ν
  originalQuantity : ν
  reduceOnly : Bool
  closePosition : Bool
  deriving DecidableEq

structure BinanceUsdmOpenAlgoOrder (ν : Type) where
  algoId : ℤ
  clientAlgoId : String
  symbol : String
  status : String
  side : String
  orderType : String
  quantity : ν
  triggerPrice : ν
  closePosition : Bool
  deriving DecidableEq

structure BinanceUsdmTradeFact (ν : Type) where
  tradeId : ℤ
  orderId : ℤ
  symbol : String
  side : String
  quantity : ν
  price : ν
  commission : ν
  commissionAsset : String
  realizedPnl : ν
  occurredAt : Moment
  deriving DecidableEq

structure BinanceUsdmIncomeFact (ν : Type) where
  transactionId : ℤ
  tradeId : String
  symbol : String
  incomeType : String
  income : ν
  asset : String
  occurredAt : Moment
  deriving DecidableEq

structure BinanceUsdmAccountSnapshot (ν : Type) where
  asOf : Moment
  balances : List (BinanceUsdmBalance ν)
  positions : List (BinanceUsdmPosition ν)
  normalOrders : List (BinanceUsdmOpenOrder ν)
  algoOrders : List (BinanceUsdmOpenAlgoOrder ν)
  trades : List (BinanceUsdmTradeFact ν)
  income : List (BinanceUsdmIncomeFact ν)

/-- The values of a configuration. -/
structure BinanceUsdmConfigurationValues (ν : Type) where
  positionMode : String
  marginType : String
  autoAddMargin : Bool
  leverage : ℤ
  canTrade : Bool
  multiAssetsMargin : Bool
  transferOutEnabled : Bool
  maximumNotional : ν
  priceTickSize : ν
  minimumQuantity : ν
  quantityStepSize : ν
  minimumNotional : ν
  deriving DecidableEq

structure BinanceUsdmConfigurationFact (ν : Type) extends BinanceUsdmConfigurationValues ν where
  capturedAt : Moment

structure BinanceUsdmReconciliationCapture where
  account : BinanceUsdmAccountSnapshot Decimal
  configuration : BinanceUsdmConfigurationFact Decimal
  capturedAt : Moment

/-! ### The same facts in other numbers -/

variable {ν μ : Type}

def BinanceUsdmBalance.map (f : ν → μ) (b : BinanceUsdmBalance ν) : BinanceUsdmBalance μ where
  asset := b.asset
  balance := f b.balance
  availableBalance := f b.availableBalance
  maximumWithdrawAmount := f b.maximumWithdrawAmount
  updatedAt := b.updatedAt

def BinanceUsdmPosition.map (f : ν → μ) (p : BinanceUsdmPosition ν) : BinanceUsdmPosition μ where
  symbol := p.symbol
  positionSide := p.positionSide
  amount := f p.amount
  entryPrice := f p.entryPrice
  markPrice := f p.markPrice
  unrealizedPnl := f p.unrealizedPnl
  isolatedMargin := f p.isolatedMargin
  notional := f p.notional
  marginAsset := p.marginAsset
  initialMargin := f p.initialMargin
  maintenanceMargin := f p.maintenanceMargin
  positionInitialMargin := f p.positionInitialMargin
  openOrderInitialMargin := f p.openOrderInitialMargin
  updatedAt := p.updatedAt

def BinanceUsdmOpenOrder.map (f : ν → μ) (o : BinanceUsdmOpenOrder ν) : BinanceUsdmOpenOrder μ where
  orderId := o.orderId
  clientOrderId := o.clientOrderId
  symbol := o.symbol
  status := o.status
  side := o.side
  orderType := o.orderType
  executedQuantity := f o.executedQuantity
  originalQuantity := f o.originalQuantity
  reduceOnly := o.reduceOnly
  closePosition := o.closePosition

def BinanceUsdmOpenAlgoOrder.map (f : ν → μ) (o : BinanceUsdmOpenAlgoOrder ν) : BinanceUsdmOpenAlgoOrder μ where
  algoId := o.algoId
  clientAlgoId := o.clientAlgoId
  symbol := o.symbol
  status := o.status
  side := o.side
  orderType := o.orderType
  quantity := f o.quantity
  triggerPrice := f o.triggerPrice
  closePosition := o.closePosition

def BinanceUsdmTradeFact.map (f : ν → μ) (t : BinanceUsdmTradeFact ν) : BinanceUsdmTradeFact μ where
  tradeId := t.tradeId
  orderId := t.orderId
  symbol := t.symbol
  side := t.side
  quantity := f t.quantity
  price := f t.price
  commission := f t.commission
  commissionAsset := t.commissionAsset
  realizedPnl := f t.realizedPnl
  occurredAt := t.occurredAt

def BinanceUsdmIncomeFact.map (f : ν → μ) (i : BinanceUsdmIncomeFact ν) : BinanceUsdmIncomeFact μ where
  transactionId := i.transactionId
  tradeId := i.tradeId
  symbol := i.symbol
  incomeType := i.incomeType
  income := f i.income
  asset := i.asset
  occurredAt := i.occurredAt

def BinanceUsdmConfigurationValues.map (f : ν → μ) (c : BinanceUsdmConfigurationValues ν) :
    BinanceUsdmConfigurationValues μ where
  positionMode := c.positionMode
  marginType := c.marginType
  autoAddMargin := c.autoAddMargin
  leverage := c.leverage
  canTrade := c.canTrade
  multiAssetsMargin := c.multiAssetsMargin
  transferOutEnabled := c.transferOutEnabled
  maximumNotional := f c.maximumNotional
  priceTickSize := f c.priceTickSize
  minimumQuantity := f c.minimumQuantity
  quantityStepSize := f c.quantityStepSize
  minimumNotional := f c.minimumNotional

/-! ### Checks -/

/-- `_utc` and `_require_utc`. -/
def requireExactUtc (value : Moment) (name : String) : Except PyError Unit :=
  require value.isExactUtc (valueError ("Binance USD-M " ++ name ++ " must use exact UTC"))

/-- `_asset` and `_symbol`. -/
def isAsset (value : String) : Bool := decide (value ≠ "") && value.toList.all Char.isAlphanum

def requireNonNegative (value : Decimal) (name : String) : Except PyError Unit :=
  require (decide (0 ≤ value.toRat)) (valueError (name ++ " must be non-negative"))

/-- `BinanceUsdmBalance.__post_init__`. -/
def BinanceUsdmBalance.postInit (b : BinanceUsdmBalance Decimal) : Except PyError Unit := do
  require (isAsset b.asset) (valueError "asset is invalid")
  requireNonNegative b.balance "balance"
  requireNonNegative b.availableBalance "available_balance"
  requireNonNegative b.maximumWithdrawAmount "maximum_withdraw_amount"
  requireExactUtc b.updatedAt "balance updated_at"

/-- `BinanceUsdmPosition.__post_init__`. -/
def BinanceUsdmPosition.postInit (p : BinanceUsdmPosition Decimal) : Except PyError Unit := do
  require (isAsset p.symbol) (valueError "symbol is invalid")
  require (decide (p.positionSide ∈ ["BOTH", "LONG", "SHORT"])) (valueError "position_side is invalid")
  require (isAsset p.marginAsset) (valueError "asset is invalid")
  require ([p.entryPrice, p.markPrice].all fun value => decide (0 ≤ value.toRat))
    (valueError "position prices must be non-negative")
  require ([p.isolatedMargin, p.initialMargin, p.maintenanceMargin, p.positionInitialMargin,
    p.openOrderInitialMargin].all fun value => decide (0 ≤ value.toRat))
    (valueError "position margins must be non-negative")
  requireExactUtc p.updatedAt "position updated_at"

/-- `BinanceUsdmAccountSnapshot.__post_init__`. -/
def BinanceUsdmAccountSnapshot.postInit (s : BinanceUsdmAccountSnapshot Decimal) : Except PyError Unit := do
  requireExactUtc s.asOf "account snapshot as_of"
  require (decide (s.balances.countP (fun balance => balance.asset = "USDT") = 1))
    (valueError "account snapshot requires exactly one USDT balance")

def requirePositive (value : Decimal) (name : String) : Except PyError Unit :=
  require (decide (0 < value.toRat)) (valueError ("Binance USD-M " ++ name ++ " must be positive"))

/-- `BinanceUsdmConfigurationFact.__post_init__`. -/
def BinanceUsdmConfigurationFact.postInit (c : BinanceUsdmConfigurationFact Decimal) : Except PyError Unit := do
  require (decide (c.positionMode ∈ ["ONE_WAY", "HEDGE"])) (valueError "Binance USD-M position mode fact is invalid")
  require (decide (c.marginType ∈ ["ISOLATED", "CROSSED"])) (valueError "Binance USD-M margin type fact is invalid")
  require (decide (0 < c.leverage)) (valueError "Binance USD-M leverage fact must be positive")
  requirePositive c.maximumNotional "maximum_notional"
  requirePositive c.priceTickSize "price_tick_size"
  requirePositive c.minimumQuantity "minimum_quantity"
  requirePositive c.quantityStepSize "quantity_step_size"
  requirePositive c.minimumNotional "minimum_notional"
  requireExactUtc c.capturedAt "configuration captured_at"

/-- `_text`. -/
def requireText (value name : String) (maximum : ℕ) (empty : Bool) : Except PyError Unit :=
  require ((empty || decide (value ≠ "")) && decide (value.length ≤ maximum) && (decide (value = "") || !untrimmed value) &&
    value.toList.all fun c => decide (c.toNat < 128)) (valueError ("Binance USD-M " ++ name ++ " is invalid"))

/-- `_validate_normal_orders`. -/
def validateNormalOrders (values : List (BinanceUsdmOpenOrder Decimal)) : Except PyError Unit := do
  require (decide ((values.map (·.orderId)).Nodup) && decide ((values.map (·.clientOrderId)).Nodup))
    (valueError "duplicate Binance USD-M normal order identity")
  values.forM fun value => do
    requireText value.clientOrderId "normal client order ID" 36 false
    requireText value.status "normal order status" 32 false
    requireText value.orderType "normal order type" 32 false
    require (decide (value.symbol = "BTCUSDT") && decide (value.side ∈ ["BUY", "SELL"]) &&
      decide (value.status ∈ ["NEW", "PARTIALLY_FILLED", "FILLED", "CANCELED", "REJECTED", "EXPIRED",
        "EXPIRED_IN_MATCH"]) && decide (0 < value.orderId) && decide (0 < value.originalQuantity.toRat) &&
      decide (0 ≤ value.executedQuantity.toRat) &&
      decide (value.executedQuantity.toRat ≤ value.originalQuantity.toRat))
      (valueError "Binance USD-M normal order fact is invalid")

/-- `_validate_algo_orders`. -/
def validateAlgoOrders (values : List (BinanceUsdmOpenAlgoOrder Decimal)) : Except PyError Unit := do
  require (decide ((values.map (·.algoId)).Nodup) && decide ((values.map (·.clientAlgoId)).Nodup))
    (valueError "duplicate Binance USD-M algo order identity")
  values.forM fun value => do
    requireText value.clientAlgoId "algo client order ID" 36 false
    requireText value.status "algo order status" 32 false
    requireText value.orderType "algo order type" 32 false
    require (decide (value.symbol = "BTCUSDT") && decide (value.side ∈ ["BUY", "SELL"]) &&
      decide (value.status ∈ ["NEW", "CANCELED", "TRIGGERED", "FINISHED"]) && decide (0 < value.algoId) &&
      decide (0 ≤ value.quantity.toRat) && decide (0 < value.triggerPrice.toRat))
      (valueError "Binance USD-M algo order fact is invalid")

/-- `_validate_trades`. -/
def validateTrades (values : List (BinanceUsdmTradeFact Decimal)) (capturedAt : Instant) : Except PyError Unit := do
  require (decide ((values.map (·.tradeId)).Nodup)) (valueError "duplicate Binance USD-M trade identity")
  values.forM fun value => do
    require (decide (0 < value.tradeId) && decide (0 < value.orderId) && decide (value.symbol = "BTCUSDT") &&
      decide (value.side ∈ ["BUY", "SELL"]) && decide (0 < value.quantity.toRat) && decide (0 < value.price.toRat) &&
      decide (0 ≤ value.commission.toRat) && decide (value.commissionAsset = "USDT"))
      (valueError "Binance USD-M trade fact is invalid")
    requireExactUtc value.occurredAt "trade occurred_at"
    require (decide (value.occurredAt.instant ≤ capturedAt)) (valueError "Binance USD-M trade fact is invalid")

/-- `_validate_income`. -/
def validateIncome (values : List (BinanceUsdmIncomeFact Decimal)) (capturedAt : Instant) : Except PyError Unit := do
  require (decide ((values.map (·.transactionId)).Nodup)) (valueError "duplicate Binance USD-M income identity")
  values.forM fun value => do
    requireText value.tradeId "income trade_id" 64 true
    requireText value.incomeType "income type" 32 false
    require (decide (0 < value.transactionId) && decide (value.symbol ∈ ["", "BTCUSDT"]) && decide (value.asset = "USDT"))
      (valueError "Binance USD-M income fact is invalid")
    requireExactUtc value.occurredAt "income occurred_at"
    require (decide (value.occurredAt.instant ≤ capturedAt)) (valueError "Binance USD-M income fact is invalid")

/-- `_validate_account_scope`. -/
def validateAccountScope (s : BinanceUsdmAccountSnapshot Decimal) (capturedAt : Instant) : Except PyError Unit := do
  s.balances.forM fun balance => do
    balance.postInit
    require (decide (balance.asset = "USDT") && decide (balance.updatedAt.instant ≤ capturedAt))
      (valueError "Binance USD-M balance fact is invalid")
  require (decide ((s.positions.map fun position => (position.symbol, position.positionSide)).Nodup))
    (valueError "duplicate Binance USD-M position identity")
  s.positions.forM fun position => do
    position.postInit
    require (decide (position.symbol = "BTCUSDT") && decide (position.positionSide = "BOTH") &&
      decide (position.marginAsset = "USDT") && decide (position.updatedAt.instant ≤ capturedAt))
      (valueError "Binance USD-M position fact is invalid")
  validateNormalOrders s.normalOrders
  validateAlgoOrders s.algoOrders
  validateTrades s.trades capturedAt
  validateIncome s.income capturedAt

/-- `BinanceUsdmReconciliationCapture.__post_init__`. -/
def BinanceUsdmReconciliationCapture.postInit (c : BinanceUsdmReconciliationCapture) : Except PyError Unit := do
  c.account.postInit
  c.configuration.postInit
  requireExactUtc c.capturedAt "reconciliation captured_at"
  require (decide (c.account.asOf.instant ≤ c.capturedAt.instant))
    (valueError "Binance USD-M capture predates provider as-of")
  require (decide (c.configuration.capturedAt.instant ≤ c.capturedAt.instant))
    (valueError "Binance USD-M capture predates configuration")
  validateAccountScope c.account c.capturedAt.instant

/-! ### What the checks leave -/

/-- A moment in exact UTC. -/
def Moment.Utc (value : Moment) : Prop := value.isExactUtc = true

/-- The identity of a position, as the tuple it is sorted by. -/
def positionIdentity {ν : Type} (value : BinanceUsdmPosition ν) : String ×ₗ String :=
  toLex (value.symbol, value.positionSide)

/-- What the checks of a capture leave of its lists: identities are distinct, and moments are in exact UTC. -/
structure BinanceUsdmReconciliationCapture.Checked (capture : BinanceUsdmReconciliationCapture) : Prop where
  asOf : capture.account.asOf.Utc
  balances : (capture.account.balances.map (·.asset)).Nodup
  balanceTimes : ∀ value ∈ capture.account.balances, value.updatedAt.Utc
  positions : (capture.account.positions.map positionIdentity).Nodup
  positionTimes : ∀ value ∈ capture.account.positions, value.updatedAt.Utc
  normalOrders : (capture.account.normalOrders.map (·.orderId)).Nodup
  algoOrders : (capture.account.algoOrders.map (·.algoId)).Nodup
  trades : (capture.account.trades.map (·.tradeId)).Nodup
  tradeTimes : ∀ value ∈ capture.account.trades, value.occurredAt.Utc
  income : (capture.account.income.map (·.transactionId)).Nodup
  incomeTimes : ∀ value ∈ capture.account.income, value.occurredAt.Utc

theorem forM_ok {α ε : Type} {f : α → Except ε Unit} {xs : List α} {u : Unit} :
    xs.forM f = .ok u ↔ ∀ x ∈ xs, f x = .ok () := by
  induction xs with
  | nil => exact iff_of_true rfl (List.forall_mem_nil _)
  | cons x xs ih =>
    rw [List.forall_mem_cons, ← ih]
    show (f x >>= fun _ => xs.forM f) = .ok u ↔ _
    rw [bind_ok]
    exact ⟨fun ⟨_, hx, hxs⟩ => ⟨hx, hxs⟩, fun ⟨hx, hxs⟩ => ⟨(), hx, hxs⟩⟩

theorem requireExactUtc_ok {value : Moment} {name : String} {u : Unit} : requireExactUtc value name = .ok u ↔ value.Utc :=
  require_ok

variable {capture : BinanceUsdmReconciliationCapture} {capturedAt : Instant} {u : Unit}

theorem balance_utc {value : BinanceUsdmBalance Decimal} (h : value.postInit = .ok u) : value.updatedAt.Utc := by
  simp only [BinanceUsdmBalance.postInit, bind_ok, requireExactUtc_ok] at h
  obtain ⟨_, _, _, _, _, _, _, _, hutc⟩ := h
  exact hutc

theorem position_utc {value : BinanceUsdmPosition Decimal} (h : value.postInit = .ok u) : value.updatedAt.Utc := by
  simp only [BinanceUsdmPosition.postInit, bind_ok, requireExactUtc_ok] at h
  obtain ⟨_, _, _, _, _, _, _, _, _, _, hutc⟩ := h
  exact hutc

theorem normalOrders_distinct {values : List (BinanceUsdmOpenOrder Decimal)} (h : validateNormalOrders values = .ok u) :
    (values.map (·.orderId)).Nodup := by
  obtain ⟨_, hdistinct, -⟩ := bind_ok.mp h
  rw [require_ok, Bool.and_eq_true, decide_eq_true_eq] at hdistinct
  exact hdistinct.1

theorem algoOrders_distinct {values : List (BinanceUsdmOpenAlgoOrder Decimal)} (h : validateAlgoOrders values = .ok u) :
    (values.map (·.algoId)).Nodup := by
  obtain ⟨_, hdistinct, -⟩ := bind_ok.mp h
  rw [require_ok, Bool.and_eq_true, decide_eq_true_eq] at hdistinct
  exact hdistinct.1

theorem validateTrades_ok {values : List (BinanceUsdmTradeFact Decimal)} (h : validateTrades values capturedAt = .ok u) :
    (values.map (·.tradeId)).Nodup ∧ ∀ value ∈ values, value.occurredAt.Utc := by
  obtain ⟨_, hdistinct, hvalues⟩ := bind_ok.mp h
  rw [forM_ok] at hvalues
  refine ⟨of_decide_eq_true (require_ok.mp hdistinct), fun value hvalue => ?_⟩
  obtain ⟨_, -, hvalid⟩ := bind_ok.mp (hvalues value hvalue)
  obtain ⟨_, hutc, -⟩ := bind_ok.mp hvalid
  exact requireExactUtc_ok.mp hutc

theorem validateIncome_ok {values : List (BinanceUsdmIncomeFact Decimal)} (h : validateIncome values capturedAt = .ok u) :
    (values.map (·.transactionId)).Nodup ∧ ∀ value ∈ values, value.occurredAt.Utc := by
  obtain ⟨_, hdistinct, hvalues⟩ := bind_ok.mp h
  rw [forM_ok] at hvalues
  refine ⟨of_decide_eq_true (require_ok.mp hdistinct), fun value hvalue => ?_⟩
  have hvalid := hvalues value hvalue
  simp only [bind_ok, requireExactUtc_ok] at hvalid
  obtain ⟨_, _, _, _, _, _, _, hutc, _⟩ := hvalid
  exact hutc

/-- The one balance is in USDT, and there is no other. -/
theorem balances_distinct {values : List (BinanceUsdmBalance Decimal)}
    (hone : values.countP (fun value => value.asset = "USDT") = 1) (hall : ∀ value ∈ values, value.asset = "USDT") :
    (values.map (·.asset)).Nodup := by
  rw [List.countP_eq_length.mpr fun value hvalue => decide_eq_true (hall value hvalue)] at hone
  obtain ⟨value, rfl⟩ := List.length_eq_one_iff.mp hone
  exact List.nodup_singleton _

theorem positions_distinct {values : List (BinanceUsdmPosition Decimal)}
    (h : (values.map fun value => (value.symbol, value.positionSide)).Nodup) : (values.map positionIdentity).Nodup := by
  have hmapped := h.map toLex.injective
  rwa [List.map_map] at hmapped

theorem checked_of_postInit (h : capture.postInit = .ok u) : capture.Checked := by
  obtain ⟨_, haccount, h⟩ := bind_ok.mp h
  obtain ⟨_, _, h⟩ := bind_ok.mp h
  obtain ⟨_, _, h⟩ := bind_ok.mp h
  obtain ⟨_, _, h⟩ := bind_ok.mp h
  obtain ⟨_, _, h⟩ := bind_ok.mp h
  obtain ⟨_, hbalances, h⟩ := bind_ok.mp h
  obtain ⟨_, hpositions, h⟩ := bind_ok.mp h
  obtain ⟨_, hpositionFacts, h⟩ := bind_ok.mp h
  obtain ⟨_, hnormal, h⟩ := bind_ok.mp h
  obtain ⟨_, halgo, h⟩ := bind_ok.mp h
  obtain ⟨_, htrades, hincome⟩ := bind_ok.mp h
  obtain ⟨_, hasOf, hone⟩ := bind_ok.mp haccount
  rw [forM_ok] at hbalances hpositionFacts
  have hbalance (value : BinanceUsdmBalance Decimal) (hvalue : value ∈ capture.account.balances) :
      value.updatedAt.Utc ∧ value.asset = "USDT" := by
    obtain ⟨_, hvalid, hscope⟩ := bind_ok.mp (hbalances value hvalue)
    rw [require_ok, Bool.and_eq_true, decide_eq_true_eq] at hscope
    exact ⟨balance_utc hvalid, hscope.1⟩
  exact {
    asOf := requireExactUtc_ok.mp hasOf
    balances := balances_distinct (of_decide_eq_true (require_ok.mp hone)) fun value hvalue => (hbalance value hvalue).2
    balanceTimes := fun value hvalue => (hbalance value hvalue).1
    positions := positions_distinct (of_decide_eq_true (require_ok.mp hpositions))
    positionTimes := fun value hvalue => by
      obtain ⟨_, hvalid, -⟩ := bind_ok.mp (hpositionFacts value hvalue)
      exact position_utc hvalid
    normalOrders := normalOrders_distinct hnormal
    algoOrders := algoOrders_distinct halgo
    trades := (validateTrades_ok htrades).1
    tradeTimes := (validateTrades_ok htrades).2
    income := (validateIncome_ok hincome).1
    incomeTimes := (validateIncome_ok hincome).2 }

end AutoTrader.Binance.Account
