import AutoTrader.Binance.OrderRequests

/-! Matching an ambiguous cash dispatch against the provider's daily orders. A date is the
number of its day since the epoch, and a day is a Korean one. -/

namespace AutoTrader.Kis

open AutoTrader.Domain AutoTrader.Execution AutoTrader.Binance

/-- `astimezone(_KST).date()`: Korea is nine hours ahead of UTC the whole year. -/
def kstDate (t : Instant) : Int :=
  (t + 32400000000) / 86400000000

theorem kstDate_mono {a b : Instant} (h : a ≤ b) : kstDate a ≤ kstDate b :=
  Int.ediv_le_ediv (by decide) (Int.add_le_add_right h _)

/-! ### Field checks -/

/-- `_digits`. -/
def requireDigits (text : String) (width : Nat) (name : String) : Except PyError Unit :=
  require (text.length = width && text.toList.all Char.isDigit)
    (valueError (name ++ " must be " ++ toString width ++ " ASCII digits"))

/-- `_non_negative_integer`. -/
def requireNonNegativeInteger (value : ℚ) (name : String) : Except PyError Unit :=
  require (decide (0 ≤ value) && decide (value.den = 1)) (valueError (name ++ " must be a non-negative integer"))

/-- `_positive_integer`. -/
def requirePositiveInteger (value : ℚ) (name : String) : Except PyError Unit := do
  requireNonNegativeInteger value name
  require (0 < value) (valueError (name ++ " must be positive"))

/-- `_order_price`. -/
def requireOrderPrice : OrderStyle → Option ℚ → Except PyError Unit
  | .market, price => require price.isNone (valueError "market order must not have a limit price")
  | .limit, none => .error (valueError "limit order requires a limit price")
  | .limit, some price => requirePositiveInteger price "limit_price"

def requireVersion7 (id : UUID) (name : String) : Except PyError Unit :=
  require id.isVersion7 (valueError (name ++ " must be UUIDv7"))

def requireWholeSecond (value : Instant) (name : String) : Except PyError Unit :=
  require (wholeSecond value) (valueError (name ++ " must be whole-second timezone-aware"))

/-! ### Records -/

structure KisAmbiguousDispatch where
  dispatchId : UUID
  bindingId : UUID
  side : Side
  symbol : String
  orderStyle : OrderStyle
  quantity : ℚ
  limitPrice : Option ℚ
  providerWindowStart : Instant
  providerWindowEnd : Instant
  requestDigest : Digest
  deriving DecidableEq

/-- `KisAmbiguousDispatch.__post_init__`. -/
def KisAmbiguousDispatch.validate (dispatch : KisAmbiguousDispatch) : Except PyError Unit := do
  requireVersion7 dispatch.dispatchId "dispatch_id"
  requireVersion7 dispatch.bindingId "binding_id"
  requireDigits dispatch.symbol 6 "symbol"
  requirePositiveInteger dispatch.quantity "quantity"
  requireOrderPrice dispatch.orderStyle dispatch.limitPrice
  requireWholeSecond dispatch.providerWindowStart "provider_window_start"
  requireWholeSecond dispatch.providerWindowEnd "provider_window_end"
  require (dispatch.providerWindowStart ≤ dispatch.providerWindowEnd)
    (valueError "provider recovery window is invalid")

structure KisDailyOrder where
  bindingId : UUID
  orderDate : Int
  organizationNumber : String
  orderNumber : String
  originalOrderNumber : String
  providerTimestamp : Instant
  side : Side
  symbol : String
  orderStyle : OrderStyle
  orderQuantity : ℚ
  limitPrice : Option ℚ
  cumulativeFilledQuantity : ℚ
  averageFillPrice : ℚ
  totalFilledAmount : ℚ
  confirmedCancelledQuantity : ℚ
  remainingQuantity : ℚ
  rejectedQuantity : ℚ
  feeAmount : Option ℚ
  exchangeDivisionCode : String
  exchangeIdDivisionCode : String
  deriving DecidableEq

/-- `KisDailyOrder.__post_init__`. -/
def KisDailyOrder.validate (order : KisDailyOrder) : Except PyError Unit := do
  requireVersion7 order.bindingId "binding_id"
  requireDigits order.organizationNumber 5 "organization_number"
  requireDigits order.orderNumber 10 "order_number"
  requireDigits order.originalOrderNumber 10 "original_order_number"
  requireWholeSecond order.providerTimestamp "provider_timestamp"
  require (kstDate order.providerTimestamp = order.orderDate)
    (valueError "provider timestamp and order date do not match")
  requireDigits order.symbol 6 "symbol"
  requireDigits order.exchangeDivisionCode 2 "exchange_division_code"
  require (order.exchangeIdDivisionCode = "KRX") (valueError "exchange_id_division_code must be KRX")
  requirePositiveInteger order.orderQuantity "order_quantity"
  requireOrderPrice order.orderStyle order.limitPrice
  requireNonNegativeInteger order.cumulativeFilledQuantity "cumulative_filled_quantity"
  requireNonNegativeInteger order.averageFillPrice "average_fill_price"
  requireNonNegativeInteger order.totalFilledAmount "total_filled_amount"
  requireNonNegativeInteger order.confirmedCancelledQuantity "confirmed_cancelled_quantity"
  requireNonNegativeInteger order.remainingQuantity "remaining_quantity"
  requireNonNegativeInteger order.rejectedQuantity "rejected_quantity"
  match order.feeAmount with
  | none => .ok ()
  | some fee => requireNonNegativeInteger fee "fee_amount"
  require (order.cumulativeFilledQuantity + order.confirmedCancelledQuantity + order.remainingQuantity +
      order.rejectedQuantity = order.orderQuantity)
    (valueError "daily order quantity accounting is inconsistent")
  require (if order.cumulativeFilledQuantity = 0 then
      decide (order.averageFillPrice = 0) && decide (order.totalFilledAmount = 0)
    else decide (0 < order.averageFillPrice) &&
      decide (order.totalFilledAmount = order.averageFillPrice * order.cumulativeFilledQuantity))
    (valueError "daily order cumulative fill values are inconsistent")

/-! ### The decision -/

/-- The order fell into the dispatch's window. -/
def KisAmbiguousDispatch.covers (dispatch : KisAmbiguousDispatch) (order : KisDailyOrder) : Bool :=
  decide (dispatch.providerWindowStart ≤ order.providerTimestamp) &&
    decide (order.providerTimestamp ≤ dispatch.providerWindowEnd)

/-- `_matches`. -/
def KisAmbiguousDispatch.matches (dispatch : KisAmbiguousDispatch) (order : KisDailyOrder) : Bool :=
  order.bindingId = dispatch.bindingId && order.side = dispatch.side && order.symbol = dispatch.symbol &&
    order.orderStyle = dispatch.orderStyle && order.orderQuantity = dispatch.quantity &&
    order.limitPrice = dispatch.limitPrice && dispatch.covers order

/-- Why an order was adopted, or that none was. -/
inductive KisRecoveryDecision
  | adopted (order : KisDailyOrder)
  | zeroExactCandidates
  | nonUniqueExactCandidates

/-- `recover_ambiguous_cash_order`. -/
def recoverAmbiguousCashOrder (dispatch : KisAmbiguousDispatch) (orders : List KisDailyOrder) :
    Except PyError KisRecoveryDecision := do
  dispatch.validate
  orders.forM KisDailyOrder.validate
  match orders.filter dispatch.matches with
  | [] => pure .zeroExactCandidates
  | [order] => pure (.adopted order)
  | _ => pure .nonUniqueExactCandidates

end AutoTrader.Kis

/-! `KisCashWriter.recover_submit`. A dispatch that stayed ambiguous is looked for among the
provider's orders of the trade date of the recorded attempt. -/

namespace AutoTrader.Kis

open AutoTrader.Domain AutoTrader.Execution AutoTrader.Binance

structure KisCashAccount where
  accountId : UUID
  accountAlias : String
  live : Bool
  accountNumber : String
  productCode : String
  enabled : Bool

/-- `KisCashAccount.__post_init__`. -/
def KisCashAccount.validate (account : KisCashAccount) : Except PyError Unit := do
  requireVersion7 account.accountId "account_id"
  require (account.accountAlias = if account.live then "kis-real-cash" else "kis-paper-cash")
    (valueError "exact KIS cash account alias is required")
  require (account.accountNumber.length = 8 && account.accountNumber.toList.all Char.isDigit &&
      account.productCode.length = 2 && account.productCode.toList.all Char.isDigit)
    (valueError "KIS cash account number shape is invalid")
  require (!account.enabled) (valueError "KIS cash contract construction requires a disabled account")

structure LockedOrderIntent where
  id : UUID
  v6DecisionId : UUID
  accountId : UUID
  symbol : String
  side : Side
  orderStyle : OrderStyle
  quantity : ℚ
  limitPrice : Option ℚ
  opensExposure : Bool
  commonStockAuthorized : Bool
  bindingGeneration : Nat
  locked : Bool

/-- `LockedOrderIntent.__post_init__`. -/
def LockedOrderIntent.validate (intent : LockedOrderIntent) : Except PyError Unit := do
  requireVersion7 intent.id "id"
  requireVersion7 intent.v6DecisionId "v6_decision_id"
  requireVersion7 intent.accountId "account_id"
  require (intent.symbol.length = 6 && intent.symbol.toList.all Char.isDigit)
    (valueError "KRX symbol must contain six digits")
  require (decide (0 < intent.quantity) && decide (intent.quantity.den = 1))
    (valueError "quantity must be a positive integer")
  match intent.orderStyle, intent.limitPrice with
  | .limit, none => .error (valueError "limit intent requires a limit price")
  | .limit, some price =>
    require (decide (0 < price) && decide (price.den = 1)) (valueError "limit price must be a positive integer")
  | .market, price => require price.isNone (valueError "market intent cannot carry a limit price")
  require (!(intent.side = .sell && intent.opensExposure)) (valueError "KIS cash short-opening sell is unsupported")
  require intent.commonStockAuthorized (valueError "KRX common-stock authority is required")
  require (0 < intent.bindingGeneration) (valueError "binding_generation must be positive")
  require intent.locked (valueError "KIS cash intent must be locked")

/-- `target_order` only matters for its presence: a submission has none. -/
structure KisCashWriteContext where
  commandId : UUID
  instrumentId : UUID
  intent : LockedOrderIntent
  account : KisCashAccount
  providerBindingId : UUID
  bindingGeneration : Nat
  policyVersionId : UUID
  strategyVersion : String
  writerCapability : Bool
  hasTargetOrder : Bool

/-- `KisCashWriteContext.__post_init__`. -/
def KisCashWriteContext.validate (context : KisCashWriteContext) : Except PyError Unit := do
  requireVersion7 context.commandId "command_id"
  requireVersion7 context.instrumentId "instrument_id"
  requireVersion7 context.providerBindingId "provider_binding_id"
  requireVersion7 context.policyVersionId "policy_version_id"
  context.intent.validate
  context.account.validate
  require (0 < context.bindingGeneration) (valueError "binding_generation must be positive")
  require (context.strategyVersion = "david-trullas-v6.0") (valueError "exact David v6 strategy version is required")

inductive KisDispatchState
  | prepared
  | notSent
  | acknowledged
  | rejected
  | ambiguous
  deriving DecidableEq

structure KisDispatchResult where
  state : KisDispatchState
  organizationNumber : Option String
  orderNumber : Option String

structure BrokerWriteResult where
  orderDate : Int
  organizationNumber : String
  orderNumber : String
  recovered : Bool

/-- What the writer is built with: the write authority, the transport for a request of an intent
and an account, the source of the daily orders, and the digest of a request. -/
structure KisCashWriter where
  load : BrokerOrderCommand → Except PyError KisCashWriteContext
  dispatchOnce : UUID → LockedOrderIntent → KisCashAccount → Except PyError KisDispatchResult
  dailyOrders : UUID → Int → Except PyError (List KisDailyOrder)
  requestDigest : LockedOrderIntent → KisCashAccount → Digest

/-- The checks of `_load_context` on the context it was given. -/
def authorizes (context : KisCashWriteContext) (command : BrokerOrderCommand) : Bool :=
  let intent := context.intent
  context.commandId = command.id && context.instrumentId = command.instrumentId &&
    context.account.accountId = command.accountId && intent.accountId = command.accountId &&
    intent.bindingGeneration = context.bindingGeneration && command.fencingToken = context.bindingGeneration &&
    writesToAVenue command.originType command.authorityClass && command.side = intent.side &&
    command.orderStyle = intent.orderStyle && command.quantity.toRat = intent.quantity &&
    command.limitPrice.map (·.toRat) = intent.limitPrice && command.timeInForce = "DAY" &&
    command.dispatchAttemptedAt.any (fun attemptedAt => wholeSecond attemptedAt && decide (attemptedAt < command.notAfter)) &&
    wholeSecond command.notAfter

variable (writer : KisCashWriter)

/-- `_load_context` for a submission. -/
def loadSubmitContext (command : BrokerOrderCommand) : Except PyError KisCashWriteContext := do
  require (command.commandType = .submit) (writeDisabled "KIS cash command type is not approved")
  let context ← writer.load command
  require (context.validate.toBool) (writeDisabled "exact KIS write authority is invalid")
  require context.writerCapability (writeDisabled "KIS writer capability is absent")
  require (authorizes context command) (writeDisabled "exact KIS write authority does not match")
  require (!context.hasTargetOrder) (writeDisabled "KIS submit cannot carry a provider target")
  pure context

/-- `build_cash_order_request`, as far as it can refuse. -/
def checkCashOrderRequest (intent : LockedOrderIntent) (account : KisCashAccount) : Except PyError Unit := do
  intent.validate
  account.validate
  require (intent.accountId = account.accountId) (valueError "KIS cash intent account scope does not match")

/-- `_require_write_result` for an acknowledgement. -/
def acknowledgedResult (attemptedAt : Instant) (dispatch : KisDispatchResult) : Except PyError BrokerWriteResult :=
  match dispatch.organizationNumber, dispatch.orderNumber with
  | some organization, some number => .ok ⟨kstDate attemptedAt, organization, number, false⟩
  | _, _ => .error ⟨.runtimeError, "KIS cash acknowledgement identity is incomplete"⟩

/-- The dispatch `recover_submit` looks for among the daily orders. -/
def ambiguousDispatch (context : KisCashWriteContext) (command : BrokerOrderCommand) (attemptedAt now : Instant) :
    KisAmbiguousDispatch where
  dispatchId := command.id
  bindingId := context.providerBindingId
  side := command.side
  symbol := context.intent.symbol
  orderStyle := command.orderStyle
  quantity := command.quantity.toRat
  limitPrice := command.limitPrice.map (·.toRat)
  providerWindowStart := attemptedAt
  providerWindowEnd := now
  requestDigest := writer.requestDigest context.intent context.account

/-- `recover_submit` up to the dispatch and the daily orders it compares it with: the answer
where it ends before, and `none` where the orders cannot be read. -/
def recoveryOf (command : BrokerOrderCommand) (now : DateTime) :
    Except PyError (Option BrokerWriteResult ⊕ KisAmbiguousDispatch × List KisDailyOrder) := do
  let context ← loadSubmitContext writer command
  let moment ← now.requireUtc
  require (wholeSecond moment) (valueError "now must be exact whole-second UTC")
  match command.dispatchAttemptedAt with
  | none => pure (.inl none)
  | some attemptedAt =>
    if attemptedAt ≤ moment ∧ moment < command.notAfter then do
      checkCashOrderRequest context.intent context.account
      let dispatch ← writer.dispatchOnce command.id context.intent context.account
      match dispatch.state with
      | .acknowledged => (fun result => .inl (some result)) <$> acknowledgedResult attemptedAt dispatch
      | .rejected => .error ⟨.brokerSubmissionRejected, "KIS cash write was rejected"⟩
      | .prepared | .notSent => pure (.inl none)
      | .ambiguous =>
        match writer.dailyOrders context.providerBindingId (kstDate attemptedAt) with
        | .error _ => pure (.inl none)
        | .ok orders => pure (.inr (ambiguousDispatch writer context command attemptedAt moment, orders))
    else pure (.inl none)

/-- `KisCashWriter.recover_submit`. -/
def recoverSubmit (command : BrokerOrderCommand) (now : DateTime) : Except PyError (Option BrokerWriteResult) := do
  match ← recoveryOf writer command now with
  | .inl result => pure result
  | .inr (dispatch, orders) =>
    match recoverAmbiguousCashOrder dispatch orders with
    | .ok (.adopted order) => pure (some ⟨order.orderDate, order.organizationNumber, order.orderNumber, true⟩)
    | _ => pure none

/-- The recovery looks for the dispatch among the orders of the Korean day of the recorded attempt,
from the attempt on. -/
theorem recoveryOf_window {writer : KisCashWriter} {command : BrokerOrderCommand} {now : DateTime}
    {dispatch : KisAmbiguousDispatch} {orders : List KisDailyOrder}
    (h : recoveryOf writer command now = .ok (.inr (dispatch, orders))) :
    ∃ attemptedAt, command.dispatchAttemptedAt = some attemptedAt ∧ dispatch.providerWindowStart = attemptedAt ∧
      dispatch.providerWindowEnd = now.instant ∧
      writer.dailyOrders dispatch.bindingId (kstDate attemptedAt) = .ok orders := by
  obtain ⟨context, -, h⟩ := bind_ok.mp h
  obtain ⟨moment, hmoment, h⟩ := bind_ok.mp h
  obtain ⟨_, -, h⟩ := bind_ok.mp h
  have hnow : now.instant = moment := by
    unfold DateTime.requireUtc at hmoment
    cases hzone : now.zone <;> rw [hzone] at hmoment <;> cases hmoment <;> rfl
  cases hattempted : command.dispatchAttemptedAt with
  | none =>
    rw [hattempted] at h
    cases h
  | some attemptedAt =>
    rw [hattempted] at h
    dsimp only at h
    split at h
    · obtain ⟨_, -, h⟩ := bind_ok.mp h
      obtain ⟨result, -, h⟩ := bind_ok.mp h
      split at h
      · obtain ⟨_, -, h⟩ := bind_ok.mp h
        cases h
      · cases h
      · cases h
      · cases h
      · split at h
        · cases h
        · rename_i found hfound
          cases h
          exact ⟨attemptedAt, rfl, rfl, hnow.symm, hfound⟩
    · cases h

end AutoTrader.Kis
