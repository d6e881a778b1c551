import AutoTrader.Binance.OrderResponses
import AutoTrader.Binance.ProtectionModels

/-! What the protection service sends, what it checks before it does, and how it reads
the venue's answers about a stop. -/

namespace AutoTrader.Binance

open AutoTrader.Domain AutoTrader.Execution AutoTrader.Numeric

/-! ### Requests -/

def algoOrderPath : String := "/fapi/v1/algoOrder"

/-- The parameters of a stop, in the order they are sent. -/
def protectionParameters (fill : EntryFill) (trigger : Decimal) (clientAlgoId : String) :
    List (String × String) :=
  [("algoType", "CONDITIONAL"), ("symbol", symbol), ("side", fill.side.opposite.value),
    ("positionSide", "BOTH"), ("type", "STOP_MARKET"),
    ("triggerPrice", String.ofList trigger.decimalText), ("workingType", "MARK_PRICE"),
    ("closePosition", "true"), ("priceProtect", "false"), ("clientAlgoId", clientAlgoId),
    ("newOrderRespType", "RESULT")]

/-- `build_binance_usdm_protection_request`. -/
def buildProtectionRequest (fill : EntryFill) (trigger : Decimal) (placementCommandId : Option UUID) :
    Except PyError BrokerRequest := do
  let offTick := valueError "Binance USD-M trigger price is not tick aligned"
  fill.validate
  require (0 < trigger.toRat) offTick
  require (← aligned trigger fill.tickSize) offTick
  let clientAlgoId ← binanceProtectionClientAlgoId (placementCommandId.getD fill.entryCommandId)
  pure ⟨.post, algoOrderPath, some (urlencode (protectionParameters fill trigger clientAlgoId))⟩

/-- The query and the withdrawal of one stop. -/
def algoOrderRequest (method : Method) (clientAlgoId : String) : BrokerRequest :=
  ⟨method, algoOrderPath ++ "?" ++ urlencode [("clientAlgoId", clientAlgoId)], none⟩

/-- `build_binance_usdm_protection_cancel`. -/
def buildProtectionCancel (clientAlgoId : String) : Except PyError BrokerRequest := do
  requireClientAlgoId clientAlgoId
  pure (algoOrderRequest .delete clientAlgoId)

theorem buildProtectionRequest_method {fill : EntryFill} {trigger : Decimal} {placementCommandId : Option UUID}
    {request : BrokerRequest} (h : buildProtectionRequest fill trigger placementCommandId = .ok request) :
    request.method = .post := by
  obtain ⟨_, -, h⟩ := bind_ok.mp h
  obtain ⟨_, -, h⟩ := bind_ok.mp h
  obtain ⟨_, -, h⟩ := bind_ok.mp h
  obtain ⟨_, -, h⟩ := bind_ok.mp h
  obtain ⟨_, -, h⟩ := bind_ok.mp h
  cases h
  rfl

theorem buildProtectionCancel_ok {clientAlgoId : String} {request : BrokerRequest}
    (h : buildProtectionCancel clientAlgoId = .ok request) :
    request = algoOrderRequest .delete clientAlgoId := by
  obtain ⟨_, -, h⟩ := bind_ok.mp h
  cases h
  rfl

/-! ### Checks -/

structure ProtectionAuthority where
  allowed : Bool
  blockerCodes : List String
  stopPrice : Decimal
  quantity : Decimal

/-- `ProtectionAuthority.approved`. -/
def ProtectionAuthority.approved (stopPrice quantity : Decimal) : ProtectionAuthority :=
  ⟨true, [], stopPrice, quantity⟩

/-- The stop on its protective side of the fill. -/
def protectiveSide (side : Side) (stop fillPrice : ℚ) : Bool :=
  match side with
  | .buy => decide (stop < fillPrice)
  | .sell => decide (fillPrice < stop)

/-- `_validate_risk_authority`: the trigger is the stop moved to a tick away from the
fill. -/
def validateRiskAuthority (fill : EntryFill) (authority : ProtectionAuthority) : Except PyError Decimal := do
  let invalid := writeDisabled "exact Binance USD-M v6 risk authority is invalid"
  let stop := authority.stopPrice.toRat
  require (authority.allowed && authority.blockerCodes.isEmpty &&
    decide (fill.firstFillQuantity.toRat ≤ authority.quantity.toRat) && decide (0 < stop) &&
    protectiveSide fill.side stop fill.averageFillPrice.toRat) invalid
  let ticks := roundSig 28 (stop / fill.tickSize.toRat)
  let trigger := Decimal.mulInt (if fill.side = .buy then ⌊ticks⌋ else ⌈ticks⌉) fill.tickSize
  require (0 < trigger.toRat) invalid
  pure trigger

/-- `_validate_initial_fill`. -/
def validateInitialFill (fill : EntryFill) : Except PyError Unit :=
  require (fill.cumulativeQuantityBefore.toRat = 0)
    (writeDisabled "Binance USD-M protection requires the first non-zero fill")

/-- `_validate_persisted_fill`. -/
def validatePersistedFill (sha256 : String → Digest) (fill : EntryFill) (record : AlgoOrderRecord) :
    Except PyError Unit := do
  record.validate sha256
  require (record.entryFill.same fill)
    (writeDisabled "Binance USD-M persisted protection identity does not match")

/-- `_validate_emergency_command`. -/
def validateEmergencyCommand (fill : EntryFill) (command : BrokerOrderCommand) : Except PyError Unit := do
  let invalid := valueError "Binance USD-M emergency close command is invalid"
  require (command.id = fill.emergencyCloseCommandId && command.accountId = fill.accountId &&
    command.instrumentId = fill.instrumentId && command.commandType = .submit &&
    command.side = fill.side.opposite && command.orderStyle = .market && command.limitPrice.isNone &&
    command.timeInForce = "NONE" && command.targetBrokerOrderId.isNone &&
    command.replacesCommandId.isNone &&
    (command.originType = .strategy || command.originType = .protection) &&
    command.authorityClass = .submitStrictReduction) invalid
  let clientOrderId ← binanceNormalClientOrderId command.id
  require (command.brokerClientOrderId = clientOrderId && decide (0 < command.quantity.toRat)) invalid

/-- `_validate_emergency_result`. -/
def validateEmergencyResult (command : BrokerOrderCommand) (result : BrokerWriteResult) :
    Except PyError Unit :=
  require (result.clientOrderId = command.brokerClientOrderId && result.providerState = "FILLED" &&
      result.cumulativeFilledQuantity.toRat = command.quantity.toRat)
    (valueError "Binance USD-M emergency close is not fully reconciled")

/-! ### Answers -/

/-- The fields of an answer that are texts and switches; `side` is that of the stored
body. -/
def describesActiveStop (payload : List (String × Json)) (side : Option String) : Bool :=
  let isText := fun (name : String) (expected : Option String) =>
    match Json.get payload name, expected with
    | .str text, some expected => decide (text = expected)
    | .null, none => true
    | _, _ => false
  let isBool := fun (name : String) (expected : Bool) =>
    match Json.get payload name with
    | .bool b => b = expected
    | _ => false
  isText "algoType" "CONDITIONAL" && isText "orderType" "STOP_MARKET" && isText "symbol" symbol &&
    isText "side" side && isText "positionSide" "BOTH" && isText "algoStatus" "NEW" &&
    isText "workingType" "MARK_PRICE" && isBool "closePosition" true && isBool "priceProtect" false &&
    -- `in {None, False}`, where the number zero is equal to `False`
    match Json.get payload "reduceOnly" with
    | .null | .bool false | .int 0 => true
    | _ => false

/-- `_decode_active_protection`: the answer must describe the stop of the stored body. -/
def decodeActiveProtection (response : BrokerResponse) (record : AlgoOrderRecord) (recovered : Bool) :
    Except PyError ProtectionResult := do
  let payload ← response.object
  let expected ← parseQsl record.requestBody
  let algoId ← integerField (Json.get payload "algoId") "algoId" 1
  let clientAlgoId ← textField (Json.get payload "clientAlgoId") "clientAlgoId"
  let triggerPrice ← providerDecimal (Json.get payload "triggerPrice") "triggerPrice"
  require (clientAlgoId = record.clientAlgoId && describesActiveStop payload (expected.lookup "side") &&
      triggerPrice.toRat = record.triggerPrice.toRat)
    (valueError "Binance USD-M active protection response is invalid")
  let providerAlgoId ← binanceProviderAlgoId algoId
  let result : ProtectionResult :=
    { providerAlgoId := some providerAlgoId
      clientAlgoId := clientAlgoId
      state := .active
      triggerPrice := triggerPrice
      recovered := recovered
      emergencyClose := none }
  result.validate
  pure result

theorem decodeActiveProtection_ok {response : BrokerResponse} {record : AlgoOrderRecord} {recovered : Bool}
    {result : ProtectionResult} (h : decodeActiveProtection response record recovered = .ok result) :
    result.state = .active ∧ result.clientAlgoId = record.clientAlgoId := by
  obtain ⟨_, -, h⟩ := bind_ok.mp h
  obtain ⟨_, -, h⟩ := bind_ok.mp h
  obtain ⟨_, -, h⟩ := bind_ok.mp h
  obtain ⟨clientAlgoId, -, h⟩ := bind_ok.mp h
  obtain ⟨_, -, h⟩ := bind_ok.mp h
  obtain ⟨_, hsame, h⟩ := bind_ok.mp h
  obtain ⟨_, -, h⟩ := bind_ok.mp h
  obtain ⟨_, -, h⟩ := bind_ok.mp h
  cases h
  have hfields := require_ok.mp hsame
  simp only [Bool.and_eq_true, decide_eq_true_eq] at hfields
  exact ⟨rfl, hfields.1.1⟩

/-- `_is_algo_not_found`. -/
def isAlgoNotFound (response : BrokerResponse) : Bool := isOrderNotFound response

/-- `_is_algo_order_absent`; a list or an object is not hashable, so `in` refuses it. -/
def isAlgoOrderAbsent (response : BrokerResponse) : Except PyError Bool :=
  if response.status ≠ 400 ∧ response.status ≠ 404 then pure false
  else match response.object with
    | .error _ => pure false
    | .ok payload =>
      match Json.get payload "code" with
      | .int code => pure (code = -2011 || code = -2013)
      | .arr _ | .obj _ => .error ⟨.typeError, "unhashable type"⟩
      | _ => pure false

end AutoTrader.Binance
