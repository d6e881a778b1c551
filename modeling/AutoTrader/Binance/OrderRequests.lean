import AutoTrader.Binance.OrderModels
import AutoTrader.Numeric.Rounding

/-! What the order service sends and what it checks before it does: the deterministic
client order id, the canonical request, and the write authority. -/

namespace AutoTrader.Binance

open AutoTrader.Domain AutoTrader.Execution AutoTrader.Numeric

/-- `"v6-" + command_id.hex`. -/
def clientOrderIdText (commandId : UUID) : String :=
  String.ofList ('v' :: '6' :: '-' :: commandId.hex)

theorem clientOrderIdText_injective {a b : UUID} (h : clientOrderIdText a = clientOrderIdText b) :
    a = b := by
  have htext := congrArg String.toList h
  simp only [clientOrderIdText, String.toList_ofList, List.cons.injEq, true_and] at htext
  exact UUID.hex_injective htext

def binanceNormalClientOrderId (commandId : UUID) : Except PyError String := do
  requireUuid7 commandId "command_id"
  pure (clientOrderIdText commandId)

/-- `_SYMBOL`. -/
def symbol : String := "BTCUSDT"

/-- `_STRATEGY_VERSION`. -/
def strategyVersion : String := "david-trullas-v6.0"

def maxLeverage : Int := 50

/-- `_AUTHORITY_MAX_AGE`, thirty seconds. -/
def authorityMaxAge : Int := 30000000

/-- `_decimal_text` of a price that may be missing. -/
def decimalText? : Option Decimal → Except PyError String
  | none => .error (valueError "Binance USD-M request decimal must be an exact Decimal")
  | some d => .ok (String.ofList d.decimalText)

/-- The parameters only a limit order has. -/
def limitParameters (command : BrokerOrderCommand) : Except PyError (List (String × String)) :=
  match command.orderStyle with
  | .limit => do
    let price ← decimalText? command.limitPrice
    pure [("price", price), ("timeInForce", command.timeInForce)]
  | .market => pure []

/-- The parameters of the request, in the order they are sent. -/
def orderParameters (command : BrokerOrderCommand) (authority : NormalOrderAuthority) :
    Except PyError (List (String × String)) := do
  let limit ← limitParameters command
  pure <|
    [("symbol", authority.symbol), ("side", command.side.value), ("positionSide", "BOTH"),
      ("type", command.orderStyle.value), ("quantity", String.ofList command.quantity.decimalText)] ++
    limit ++
    (if authority.role.opensExposure then [] else [("reduceOnly", "true")]) ++
    [("newClientOrderId", command.brokerClientOrderId), ("newOrderRespType", "RESULT")]

def buildOrderRequest (command : BrokerOrderCommand) (authority : NormalOrderAuthority) :
    Except PyError BrokerRequest := do
  let parameters ← orderParameters command authority
  pure ⟨.post, "/fapi/v1/order", some (urlencode parameters)⟩

/-- The request asks for a new order under the client order id. -/
def BrokerRequest.Creates (request : BrokerRequest) (clientOrderId : String) : Prop :=
  request.method = .post ∧ request.path = "/fapi/v1/order" ∧
    ∃ parameters, request.body = some (urlencode parameters) ∧
      parameters.lookup "newClientOrderId" = some clientOrderId

theorem orderParameters_clientOrderId {command : BrokerOrderCommand} {authority : NormalOrderAuthority}
    {parameters : List (String × String)} (h : orderParameters command authority = .ok parameters) :
    parameters.lookup "newClientOrderId" = some command.brokerClientOrderId := by
  obtain ⟨limit, hlimit, h⟩ := bind_ok.mp h
  cases h
  have hskips : limit.lookup "newClientOrderId" = none := by
    unfold limitParameters at hlimit
    split at hlimit
    · obtain ⟨price, -, hprice⟩ := bind_ok.mp hlimit
      cases hprice
      rfl
    · cases hlimit
      rfl
  cases hrole : authority.role.opensExposure <;>
    simp [List.lookup_cons, List.lookup_append, hskips]

theorem buildOrderRequest_creates {command : BrokerOrderCommand} {authority : NormalOrderAuthority}
    {request : BrokerRequest} (h : buildOrderRequest command authority = .ok request) :
    request.Creates command.brokerClientOrderId := by
  obtain ⟨parameters, hparameters, h⟩ := bind_ok.mp h
  cases h
  exact ⟨rfl, rfl, parameters, rfl, orderParameters_clientOrderId hparameters⟩

/-! ### Checks on the command -/

def writesToAVenue (origin : IntentOrigin) (authority : AuthorityClass) : Bool :=
  (origin = .strategy || origin = .protection) &&
    (authority = .submitNewExposure || authority = .submitStrictReduction)

/-- `_validate_recovery_command`. -/
def validateRecoveryCommand (command : BrokerOrderCommand) : Except PyError Unit := do
  let invalid := writeDisabled "Binance USD-M recovery command is invalid"
  require (command.id.isVersion7 && command.accountId.isVersion7) invalid
  match command.dispatchAttemptedAt with
  | none => throw invalid
  | some attemptedAt =>
    require (wholeSecond attemptedAt && wholeSecond command.notAfter) invalid
    require (command.brokerClientOrderId = clientOrderIdText command.id)
      (writeDisabled "Binance USD-M deterministic client ID does not match")
    require (command.commandType = .submit && command.targetBrokerOrderId.isNone &&
      command.replacesCommandId.isNone && writesToAVenue command.originType command.authorityClass &&
      decide (attemptedAt < command.notAfter)) invalid

/-- `_validate_persisted_command`. -/
def validatePersistedCommand (sha256 : String → Digest) (command : BrokerOrderCommand)
    (record : NormalOrderRecord) : Except PyError Unit := do
  record.validate sha256
  require (record.commandId = command.id && record.accountId = command.accountId &&
      record.clientOrderId = command.brokerClientOrderId &&
      record.requestDigest = command.canonicalPayloadHash &&
      some record.preparedAt = command.dispatchAttemptedAt && record.notAfter = command.notAfter)
    (writeDisabled "Binance USD-M persisted command identity does not match")

/-! ### Checks on the authority -/

/-- `_fresh`. -/
def isFresh (capturedAt now : Instant) : Except PyError Bool := do
  let captured ← requireUtcSecond capturedAt "authority captured_at"
  pure (decide (0 ≤ now - captured) && decide (now - captured ≤ authorityMaxAge))

/-- `value % quantum == 0`; the remainder is undefined when the integer quotient has more
digits than the context. -/
def aligned (value quantum : Decimal) : Except PyError Bool :=
  let quotient := value.toRat / quantum.toRat
  let whole := if 0 ≤ quotient then ⌊quotient⌋ else ⌈quotient⌉
  if 10 ^ 28 ≤ |whole| then .error ⟨.invalidOperation, ""⟩
  else .ok (whole * quantum.toRat = value.toRat)

/-- `_validate_entry_authority`. -/
def validateEntryAuthority (authority : NormalOrderAuthority) (now : Instant) : Except PyError Unit := do
  let invalidLeverage := writeDisabled "Binance USD-M leverage authority is invalid"
  require (decide (1 ≤ authority.expectedLeverage) && decide (authority.expectedLeverage ≤ maxLeverage) &&
      authority.verifiedLeverage = authority.expectedLeverage) invalidLeverage
  require (← isFresh authority.leverageVerifiedAt now) invalidLeverage
  require (authority.positionMode = "ONE_WAY")
    (writeDisabled "Binance USD-M ONE_WAY authority is required")
  require (authority.marginType = "ISOLATED")
    (writeDisabled "Binance USD-M ISOLATED authority is required")
  require (!authority.autoAddMargin)
    (writeDisabled "Binance USD-M automatic margin addition is invalid")
  require (authority.authorizedReduceQuantity.toRat = 0)
    (writeDisabled "Binance USD-M entry cannot carry reduce authority")

/-- `_validate_close_authority`. -/
def validateCloseAuthority (command : BrokerOrderCommand) (authority : NormalOrderAuthority) :
    Except PyError Unit := do
  require (authority.positionMode = "ONE_WAY")
    (writeDisabled "Binance USD-M ONE_WAY authority is required")
  require (command.orderStyle = .market)
    (writeDisabled "Binance USD-M close must be a market order")
  let authorized := authority.authorizedReduceQuantity.toRat
  require (decide (0 < authorized) && command.quantity.toRat = authorized)
    (writeDisabled "Binance USD-M close must cover full position")

/-- The price the notional filter uses, after the checks on it. -/
def notionalPrice (command : BrokerOrderCommand) (authority : NormalOrderAuthority) :
    Except PyError ℚ :=
  match command.orderStyle, command.limitPrice with
  | .limit, limitPrice => do
    require (command.timeInForce = "GTC")
      (writeDisabled "Binance USD-M limit time in force is invalid")
    match limitPrice with
    | none => throw (valueError "Binance USD-M limit_price must be an exact Decimal")
    | some price =>
      let offTick := writeDisabled "Binance USD-M price tick filter failed"
      require (0 < price.toRat) offTick
      require (← aligned price authority.filters.tickSize) offTick
      pure price.toRat
  | .market, limitPrice => do
    require (command.timeInForce = "NONE" && limitPrice.isNone)
      (writeDisabled "Binance USD-M market order is invalid")
    require (0 < authority.notionalReferencePrice.toRat)
      (writeDisabled "Binance USD-M notional reference is invalid")
    pure authority.notionalReferencePrice.toRat

/-- The body of `_validate_write_authority`'s `try`. -/
def checkWriteAuthority (command : BrokerOrderCommand) (authority : NormalOrderAuthority)
    (now : Instant) : Except PyError Unit := do
  requireUuid7 authority.commandId "command_id"
  requireUuid7 authority.accountId "account_id"
  requireUuid7 authority.instrumentId "instrument_id"
  requireUuid7 authority.bindingId "binding_id"
  requireUuid7 authority.policyVersionId "policy_version_id"
  require (command.commandType = .submit && command.targetBrokerOrderId.isNone &&
      command.replacesCommandId.isNone && writesToAVenue command.originType command.authorityClass &&
      authority.commandId = command.id && authority.accountId = command.accountId &&
      authority.instrumentId = command.instrumentId && decide (0 < authority.bindingGeneration) &&
      authority.strategyVersion = strategyVersion && authority.writerCapability &&
      authority.accountEnabled && authority.bindingActive && authority.intentLocked)
    (writeDisabled "exact Binance USD-M write authority does not match")
  require (authority.symbol = symbol) (writeDisabled "Binance USD-M supports BTCUSDT only")
  require (command.side = authority.side && command.orderStyle = authority.orderStyle &&
      command.quantity.toRat = authority.quantity.toRat &&
      command.limitPrice.map Decimal.toRat = authority.limitPrice.map Decimal.toRat)
    (writeDisabled "Binance USD-M locked intent does not match")
  let clientOrderId ← binanceNormalClientOrderId command.id
  require (command.brokerClientOrderId = clientOrderId)
    (writeDisabled "Binance USD-M deterministic client ID does not match")
  let attemptedAt ← requireUtcSecond? command.dispatchAttemptedAt "dispatch_attempted_at"
  let notAfter ← requireUtcSecond command.notAfter "not_after"
  require (decide (attemptedAt ≤ now) && decide (now < notAfter))
    (writeDisabled "Binance USD-M command window is invalid")
  authority.filters.validate
  require (← isFresh authority.filters.capturedAt now)
    (writeDisabled "Binance USD-M exchange filter authority is stale")
  require (decide (0 < command.quantity.toRat) &&
      decide (authority.filters.minimumQuantity.toRat ≤ command.quantity.toRat))
    (writeDisabled "Binance USD-M quantity filter failed")
  require (← aligned command.quantity authority.filters.stepSize)
    (writeDisabled "Binance USD-M quantity step filter failed")
  let price ← notionalPrice command authority
  require (!(authority.role.opensExposure &&
      decide (roundSig 28 (command.quantity.toRat * price) < authority.filters.minimumNotional.toRat)))
    (writeDisabled "Binance USD-M minimum notional filter failed")
  if authority.role.opensExposure then validateEntryAuthority authority now
  else validateCloseAuthority command authority

/-- `_validate_write_authority`: everything that is not a refusal already becomes one. -/
def validateWriteAuthority (command : BrokerOrderCommand) (authority : NormalOrderAuthority)
    (now : Instant) : Except PyError Unit :=
  match checkWriteAuthority command authority now with
  | .ok () => .ok ()
  | .error e =>
    if e.kind = .brokerWriteDisabled then .error e
    else .error (writeDisabled "exact Binance USD-M write authority is invalid")

/-! ### A sample order -/

def sampleUuid (n : Fin 256) : UUID :=
  ⟨7 * 2 ^ 76 + 2 * 2 ^ 62 + n, sampleInt_lt n⟩

/-- The body of the market close of two contracts under the sample command. -/
def sampleBody : String :=
  "symbol=BTCUSDT&side=SELL&positionSide=BOTH&type=MARKET&quantity=2&reduceOnly=true" ++
    "&newClientOrderId=v6-00000000000070008000000000000001&newOrderRespType=RESULT"

/-- SHA-256 on the sample body. -/
def sampleSha256 (text : String) : Digest :=
  if text = sampleBody then 0x37d82ab1c0033145a8e2c9e753ea1287acb01e03f428c9d68294fac2986e6cc9 else 0

/-- A close attempted at 0 s that may be sent until 60 s. -/
def sampleCommand : BrokerOrderCommand where
  id := sampleUuid 1
  orderId := sampleUuid 2
  accountId := sampleUuid 3
  instrumentId := sampleUuid 4
  commandType := .submit
  targetAggregateVersion := 1
  idempotencyKey := "00000000000070008000000000000002:submit:1"
  commandSequence := 1
  canonicalPayloadHash := sampleSha256 sampleBody
  brokerClientOrderId := clientOrderIdText (sampleUuid 1)
  targetBrokerOrderId := none
  replacesCommandId := none
  originType := .protection
  authorityClass := .submitStrictReduction
  ownerRuntimeInstanceId := some (sampleUuid 9)
  fencingToken := 1
  notAfter := 60000000
  side := .sell
  orderStyle := .market
  quantity := Decimal.ofNat 2
  limitPrice := none
  timeInForce := "NONE"
  triggerPrice := none
  status := "PENDING"
  dispatchAttemptedAt := some 0

def sampleAuthority : NormalOrderAuthority where
  commandId := sampleUuid 1
  accountId := sampleUuid 3
  instrumentId := sampleUuid 4
  bindingId := sampleUuid 5
  bindingGeneration := 1
  policyVersionId := sampleUuid 6
  strategyVersion := strategyVersion
  writerCapability := true
  accountEnabled := true
  bindingActive := true
  intentLocked := true
  symbol := symbol
  role := .sessionClose
  side := .sell
  orderStyle := .market
  quantity := Decimal.ofNat 2
  limitPrice := none
  expectedLeverage := 1
  verifiedLeverage := 1
  leverageVerifiedAt := 0
  positionMode := "ONE_WAY"
  marginType := "ISOLATED"
  autoAddMargin := false
  filters := ⟨Decimal.ofNat 1, Decimal.ofNat 1, Decimal.ofNat 1, Decimal.ofNat 1, 0⟩
  notionalReferencePrice := Decimal.ofNat 100
  authorizedReduceQuantity := Decimal.ofNat 2

end AutoTrader.Binance
