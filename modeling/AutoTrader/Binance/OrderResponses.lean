import AutoTrader.Binance.OrderRequests

/-! What the venue answers about a normal order, and how the adapter reads it: the order
itself, its fills, and the error codes that decide whether a refusal is final. -/

namespace AutoTrader.Binance

open AutoTrader.Domain AutoTrader.Execution AutoTrader.Numeric

/-! ### JSON fields -/

def invalidField (name : String) : PyError := valueError ("Binance USD-M " ++ name ++ " is invalid")

/-- `_json` and `_object`. -/
def BrokerResponse.object (response : BrokerResponse) : Except PyError (List (String × Json)) :=
  match response.body with
  | none => .error (valueError "Binance USD-M response is invalid")
  | some (.obj fields) => .ok fields
  | some _ => .error (valueError "Binance USD-M response object is invalid")

/-- `_text`. -/
def textField (value : Json) (name : String) : Except PyError String :=
  match value with
  | .str text => if isText text then .ok text else .error (invalidField name)
  | _ => .error (invalidField name)

/-- `_boolean`. -/
def booleanField (value : Json) (name : String) : Except PyError Bool :=
  match value with
  | .bool b => .ok b
  | _ => .error (invalidField name)

/-- `_integer`, at least `minimum`. -/
def integerField (value : Json) (name : String) (minimum : Nat) : Except PyError Nat :=
  match value with
  | .int n => if (minimum : Int) ≤ n then .ok n.toNat else .error (invalidField name)
  | _ => .error (invalidField name)

/-- `_provider_decimal` of a text. -/
def providerDecimalText (text : String) (name : String) : Except PyError Decimal :=
  if untrimmed text then .error (invalidField name)
  else match Decimal.parse text with
    | some d => .ok d
    | none => .error (invalidField name)

/-- `_provider_decimal`. -/
def providerDecimal (value : Json) (name : String) : Except PyError Decimal :=
  match value with
  | .str text => providerDecimalText text name
  | _ => .error (invalidField name)

/-- The last millisecond `datetime` can hold. -/
def lastProviderTime : Int := 253402300799999

/-- `_provider_time`: milliseconds since the epoch. -/
def providerTime (value : Json) : Except PyError Instant :=
  match value with
  | .int n =>
    if 0 ≤ n ∧ n ≤ lastProviderTime then .ok (n * 1000) else .error (invalidField "provider time")
  | _ => .error (invalidField "provider time")

/-- `Side(text)`. -/
def sideOf (text : String) : Except PyError Side :=
  if text = Side.buy.value then .ok .buy
  else if text = Side.sell.value then .ok .sell
  else .error (valueError (text ++ " is not a valid Side"))

/-- `OrderStyle(text)`. -/
def orderStyleOf (text : String) : Except PyError OrderStyle :=
  if text = OrderStyle.market.value then .ok .market
  else if text = OrderStyle.limit.value then .ok .limit
  else .error (valueError (text ++ " is not a valid OrderStyle"))

/-- `_asset`: ASCII letters and digits without a lower-case letter. -/
def isAsset (text : String) : Bool :=
  isText text && text.toList.all fun c => c.isUpper || c.isDigit

/-! ### Orders -/

def allowedOrderStatuses : List String :=
  ["NEW", "PARTIALLY_FILLED", "FILLED", "CANCELED", "REJECTED", "EXPIRED", "EXPIRED_IN_MATCH"]

structure ProviderOrder where
  orderId : Nat
  clientOrderId : String
  symbol : String
  status : String
  side : Side
  orderType : OrderStyle
  originalQuantity : Decimal
  executedQuantity : Decimal
  cumulativeQuote : Decimal
  averagePrice : Decimal
  reduceOnly : Bool
  positionSide : String

/-- `_decode_provider_order`: the response must describe the order of the stored body. -/
def decodeProviderOrder (response : BrokerResponse) (record : NormalOrderRecord) :
    Except PyError ProviderOrder := do
  let payload ← response.object
  let expected ← parseQsl record.requestBody
  let orderId ← integerField (Json.get payload "orderId") "orderId" 1
  let clientOrderId ← textField (Json.get payload "clientOrderId") "clientOrderId"
  let symbol ← textField (Json.get payload "symbol") "symbol"
  let status ← textField (Json.get payload "status") "status"
  let side ← sideOf (← textField (Json.get payload "side") "side")
  let orderType ← orderStyleOf (← textField (Json.get payload "type") "type")
  let originalQuantity ← providerDecimal (Json.get payload "origQty") "origQty"
  let executedQuantity ← providerDecimal (Json.get payload "executedQty") "executedQty"
  let cumulativeQuote ← providerDecimal (Json.get payload "cumQuote") "cumQuote"
  let averagePrice ← providerDecimal (Json.get payload "avgPrice") "avgPrice"
  let reduceOnly ← booleanField (Json.get payload "reduceOnly") "reduceOnly"
  let positionSide ← textField (Json.get payload "positionSide") "positionSide"
  let mismatch := valueError "Binance USD-M normal order response is invalid"
  require (clientOrderId = record.clientOrderId && expected.lookup "symbol" = some symbol &&
    expected.lookup "side" = some side.value && expected.lookup "type" = some orderType.value) mismatch
  let quantity ← match expected.lookup "quantity" with
    | some text => providerDecimalText text "expected quantity"
    | none => .error (invalidField "expected quantity")
  require (originalQuantity.toRat = quantity.toRat &&
    reduceOnly = (expected.lookup "reduceOnly" = some "true") &&
    positionSide = "BOTH" && decide (status ∈ allowedOrderStatuses) &&
    decide (0 ≤ executedQuantity.toRat) &&
    decide (executedQuantity.toRat ≤ originalQuantity.toRat) &&
    decide (0 ≤ cumulativeQuote.toRat) && decide (0 ≤ averagePrice.toRat)) mismatch
  pure { orderId, clientOrderId, symbol, status, side, orderType, originalQuantity,
         executedQuantity, cumulativeQuote, averagePrice, reduceOnly, positionSide }

/-! ### Fills -/

/-- `BinanceUsdmFill.__post_init__`. -/
def Fill.validate (fill : Fill) : Except PyError Unit := do
  require (0 < fill.orderId) (valueError "Binance USD-M fill order ID is invalid")
  require (0 < fill.quantity.toRat) (valueError "Binance USD-M fill quantity must be positive")
  require (0 < fill.price.toRat) (valueError "Binance USD-M fill price must be positive")
  require (0 ≤ fill.commission.toRat) (valueError "Binance USD-M commission cannot be negative")
  require (isAsset fill.commissionAsset) (valueError "Binance USD-M asset is invalid")

/-- One row of the answer to `userTrades`. -/
def decodeFill (order : ProviderOrder) (raw : Json) : Except PyError Fill := do
  let row ← match raw with
    | .obj fields => .ok fields
    | _ => .error (valueError "Binance USD-M response object is invalid")
  let tradeId ← integerField (Json.get row "id") "trade id" 0
  let orderId ← integerField (Json.get row "orderId") "orderId" 1
  let side ← sideOf (← textField (Json.get row "side") "side")
  let quantity ← providerDecimal (Json.get row "qty") "qty"
  let price ← providerDecimal (Json.get row "price") "price"
  let commission ← providerDecimal (Json.get row "commission") "commission"
  let commissionAsset ← textField (Json.get row "commissionAsset") "commissionAsset"
  let realizedPnl ← providerDecimal (Json.get row "realizedPnl") "realizedPnl"
  let occurredAt ← providerTime (Json.get row "time")
  let fill : Fill :=
    { tradeId, orderId, side, quantity, price, commission, commissionAsset, realizedPnl, occurredAt }
  fill.validate
  let named : Bool := match Json.get row "symbol" with
    | .str text => text = symbol
    | _ => false
  require (named && orderId = order.orderId && side = order.side)
    (valueError "Binance USD-M fill identity is invalid")
  pure fill

/-- `_decode_fills`: in the order of their trade ids, each once. -/
def decodeFills (response : BrokerResponse) (order : ProviderOrder) : Except PyError (List Fill) := do
  let rows ← match response.body with
    | none => .error (valueError "Binance USD-M response is invalid")
    | some (.arr rows) => .ok rows
    | some _ => .error (valueError "Binance USD-M fill response is invalid")
  let fills ← rows.mapM (decodeFill order)
  let result := fills.insertionSort fun a b => a.tradeId ≤ b.tradeId
  require (decide (result.map (·.tradeId)).Nodup) (valueError "duplicate Binance USD-M trade ID")
  pure result

/-- `sum(values, start=Decimal())` in the context of 28 digits. -/
def decimalSum (values : List ℚ) : ℚ :=
  values.foldl (fun total value => roundSig 28 (total + value)) 0

/-- `_match_cumulative_order_facts`. -/
def matchCumulativeOrderFacts (order : ProviderOrder) (fills : List Fill) : Except PyError Unit := do
  let filledQuantity := decimalSum (fills.map (·.quantity.toRat))
  let quoteQuantity := decimalSum (fills.map fun fill =>
    roundSig 28 (fill.quantity.toRat * fill.price.toRat))
  require (filledQuantity = order.executedQuantity.toRat && quoteQuantity = order.cumulativeQuote.toRat)
    (valueError "Binance USD-M cumulative fill evidence does not match")
  let expectedAverage := if filledQuantity = 0 then 0 else roundSig 28 (quoteQuantity / filledQuantity)
  require (order.averagePrice.toRat = expectedAverage)
    (valueError "Binance USD-M average fill price does not match")

/-- Sums in the order of the fills, the assets in the order of their names. -/
def commissionsOf (fills : List Fill) : List (String × Decimal) :=
  let assets := (fills.map (·.commissionAsset)).dedup.insertionSort fun a b => a ≤ b
  assets.map fun asset =>
    (asset, (fills.filter (·.commissionAsset = asset)).foldl (fun total fill => total.add fill.commission) (.ofNat 0))

/-- `binance_provider_order_id`. -/
def binanceProviderOrderId (orderId : Nat) : String :=
  "BINANCE-USDM:" ++ toString orderId

/-- `_provider_order_id`. -/
def isProviderOrderId (text : String) : Bool :=
  let order := "BINANCE-USDM:".toList
  let digits := text.toList.drop order.length
  isText text && order.isPrefixOf text.toList && !digits.isEmpty && digits.all Char.isDigit

/-- `BrokerWriteResult.__post_init__`. -/
def BrokerWriteResult.validate (result : BrokerWriteResult) : Except PyError Unit := do
  require (isProviderOrderId result.brokerOrderId) (valueError "Binance USD-M provider order ID is invalid")
  require (isClientOrderId result.clientOrderId) (valueError "Binance USD-M client order ID is invalid")
  require (decide (result.providerState ∈ allowedOrderStatuses)) (valueError "Binance USD-M provider state is invalid")
  require (0 ≤ result.cumulativeFilledQuantity.toRat)
    (valueError "Binance USD-M cumulative_filled_quantity cannot be negative")
  require (0 ≤ result.cumulativeQuoteQuantity.toRat)
    (valueError "Binance USD-M cumulative_quote_quantity cannot be negative")
  require (0 ≤ result.averageFillPrice.toRat) (valueError "Binance USD-M average_fill_price cannot be negative")
  result.commissions.forM fun (asset, amount) => do
    require (isAsset asset) (valueError "Binance USD-M asset is invalid")
    require (0 ≤ amount.toRat) (valueError "Binance USD-M commission cannot be negative")

/-! ### Error codes -/

def ambiguousPostErrorCodes : List Int := [-1000, -1006, -1007, -4116]

def authoritativePostErrorCodes : List Int := [-1008]

def authoritativePostErrorRanges : List (Int × Int) := [(-1999, -1100), (-2999, -2000), (-4999, -4000)]

/-- The integer under `code`, if the body is an object that has one. -/
def BrokerResponse.code? (response : BrokerResponse) : Option Int :=
  match response.object with
  | .error _ => none
  | .ok payload =>
    match Json.get payload "code" with
    | .int code => some code
    | _ => none

/-- `_is_order_not_found`. -/
def isOrderNotFound (response : BrokerResponse) : Bool :=
  (response.status = 400 || response.status = 404) && response.code? = some (-2013)

def isClientError (response : BrokerResponse) : Bool :=
  decide (400 ≤ response.status) && decide (response.status < 500)

/-- `_post_response_is_authoritative_rejection`. -/
def postResponseIsAuthoritativeRejection (response : BrokerResponse) : Bool :=
  isClientError response && match response.code? with
    | none => false
    | some code =>
      decide (code ∉ ambiguousPostErrorCodes) && (decide (code ∈ authoritativePostErrorCodes) ||
        authoritativePostErrorRanges.any fun (lower, upper) => decide (lower ≤ code) && decide (code ≤ upper))

end AutoTrader.Binance
