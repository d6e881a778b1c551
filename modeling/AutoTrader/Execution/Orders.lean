import AutoTrader.Domain.Wire
import AutoTrader.Execution.Commands

/-! Intents, orders and the commands built from them. The command factory hashes the
canonical JSON of an order's terms; SHA-256 itself is a parameter. -/

namespace AutoTrader.Execution

open AutoTrader.Domain

private def invalid (message : String) : PyError := ⟨.valueError, message⟩

/-! ### Intents -/

structure AccountCandidate where
  id : UUID
  enabled : Bool
  policyActive : Bool
  deriving DecidableEq

structure MarketQuote where
  bid : Decimal
  ask : Decimal
  fresh : Bool
  deriving DecidableEq

structure OrderTerms where
  requestedQuantity : Decimal
  limitPrice : Option Decimal
  triggerPrice : Option Decimal

structure OrderIntent where
  id : UUID
  origin : IntentOrigin
  sourceId : UUID
  accountId : UUID
  instrumentId : UUID
  intentType : IntentType
  side : Side
  orderStyle : OrderStyle
  quantity : Decimal
  limitPrice : Option Decimal
  idempotencyKey : String
  triggerPrice : Option Decimal
  deriving DecidableEq

/-- `OrderIntent.__post_init__`. -/
def OrderIntent.validate (intent : OrderIntent) : Except PyError Unit :=
  match intent.triggerPrice with
  | none => pure ()
  | some trigger =>
    if intent.orderStyle ≠ .market then throw (invalid "a triggered intent must be a market order")
    else if trigger.toRat ≤ 0 then throw (invalid "trigger_price must be positive")
    else pure ()

structure ProtectionRequest where
  lockedPositionId : UUID
  reasonCode : String
  instrumentId : UUID
  intentType : IntentType
  side : Side
  orderStyle : OrderStyle
  terms : OrderTerms
  quote : Option MarketQuote

/-- `reason_code.strip()` is not empty. -/
def hasText (text : String) : Bool :=
  text.toList.any fun c => !isSpace c

private def hexText (id : UUID) : String := String.ofList id.hex

/-- `OrderIntentFactory.identity`. -/
def intentIdentity (origin : IntentOrigin) (sourceId accountId : UUID) (discriminator : Option String) :
    String :=
  let key := origin.value.toLower ++ ":" ++ hexText sourceId ++ ":" ++ hexText accountId
  match discriminator with
  | none => key
  | some text => key ++ ":" ++ text

/-- The quote a market order without a trigger needs. -/
def requireQuote (side : Side) (quote : Option MarketQuote) : Except PyError Unit :=
  match quote with
  | none => throw (invalid "fresh side-specific quote is required")
  | some quote =>
    let sideQuote := if side = .buy then quote.ask else quote.bid
    if !quote.fresh then throw (invalid "fresh side-specific quote is required")
    else if sideQuote.toRat ≤ 0 then
      throw (invalid "positive side-specific quote is required")
    else pure ()

/-- `_require_enabled_account`. -/
def requireEnabledAccount (account : AccountCandidate) : Except PyError Unit :=
  if account.enabled && account.policyActive then pure ()
  else throw (invalid "enabled account with active policy is required")

/-- The checks of `_from_non_strategy` on the terms. -/
def requireTerms (side : Side) (orderStyle : OrderStyle) (terms : OrderTerms) (quote : Option MarketQuote) :
    Except PyError Unit :=
  if terms.requestedQuantity.toRat ≤ 0 then throw (invalid "requested quantity must be positive")
  else match orderStyle, terms.limitPrice, terms.triggerPrice with
    | .limit, none, _ => throw (invalid "positive limit price is required")
    | .limit, some price, _ =>
      if price.toRat ≤ 0 then throw (invalid "positive limit price is required") else pure ()
    | .market, _, none => requireQuote side quote
    | .market, _, some _ => pure ()

/-- `OrderIntentFactory.from_protection`, under an id drawn for the intent. -/
def fromProtection (id : UUID) (request : ProtectionRequest) (account : AccountCandidate) :
    Except PyError OrderIntent := do
  if !hasText request.reasonCode then throw (invalid "protection reason_code is required")
  requireEnabledAccount account
  requireTerms request.side request.orderStyle request.terms request.quote
  let intent : OrderIntent :=
    { id := id
      origin := .protection
      sourceId := request.lockedPositionId
      accountId := account.id
      instrumentId := request.instrumentId
      intentType := request.intentType
      side := request.side
      orderStyle := request.orderStyle
      quantity := request.terms.requestedQuantity
      limitPrice := request.terms.limitPrice
      idempotencyKey := intentIdentity .protection request.lockedPositionId account.id request.reasonCode
      triggerPrice := request.terms.triggerPrice }
  intent.validate
  pure intent

/-! ### Orders -/

structure Order where
  id : UUID
  orderIntentId : UUID
  riskDecisionId : UUID
  accountId : UUID
  instrumentId : UUID
  side : Side
  orderStyle : OrderStyle
  requestedQuantity : Decimal
  limitPrice : Option Decimal
  aggregateVersion : Nat
  brokerClientOrderId : String
  createdAt : Instant
  triggerPrice : Option Decimal
  deriving DecidableEq

/-- `Order.__post_init__`; the aggregate version is a natural number already. -/
def Order.validate (order : Order) : Except PyError Unit := do
  if order.requestedQuantity.toRat ≤ 0 then
    throw (invalid "order requested quantity must be positive")
  match order.orderStyle, order.limitPrice with
  | .limit, none => throw (invalid "limit order requires a positive limit price")
  | .limit, some price =>
    if price.toRat ≤ 0 then throw (invalid "limit order requires a positive limit price")
  | .market, some _ => throw (invalid "market order cannot carry a limit price")
  | .market, none => pure ()
  match order.triggerPrice with
  | none => pure ()
  | some trigger =>
    if order.orderStyle ≠ .market then throw (invalid "a triggered order must be a market order")
    else if trigger.toRat ≤ 0 then throw (invalid "trigger_price must be positive")
    else pure ()

structure OrderSubmissionContext where
  brokerClientOrderId : String
  ownerRuntimeInstanceId : Option UUID
  fencingToken : Nat
  notAfter : Instant
  timeInForce : String
  authorityClass : AuthorityClass
  createdAt : Instant
  commandId : Option UUID
  deriving DecidableEq

/-- `OrderSubmissionContext.__post_init__`, on timestamps that are UTC already. -/
def OrderSubmissionContext.validate (submission : OrderSubmissionContext) : Except PyError Unit :=
  if submission.brokerClientOrderId.isEmpty ∨
      submission.brokerClientOrderId.toList.any (fun c => decide (128 ≤ c.toNat)) then
    throw (invalid "broker_client_order_id must be non-empty ASCII")
  else if submission.fencingToken = 0 then throw (invalid "fencing_token must be positive")
  else if submission.notAfter ≤ submission.createdAt then
    throw (invalid "not_after must be after created_at")
  else if submission.timeInForce.isEmpty then
    throw (invalid "time_in_force and authority_class are required")
  else pure ()

/-! ### Commands -/

private def uuidText (id : UUID) : JsonScalar := .str (String.ofList id.str)

/-- `str(price) if price else None`. -/
private def priceText (price : Option Decimal) : JsonScalar :=
  match price with
  | some d => if d.coefficient = 0 then .null else .str (String.ofList d.str)
  | none => .null

/-- The canonical payload of a command. -/
def canonicalPayload (order : Order) (commandType : CommandType) (submission : OrderSubmissionContext)
    (origin : IntentOrigin) (targetBrokerOrderId : Option String) : List (String × JsonScalar) :=
  [("authority_class", .str submission.authorityClass.value),
    ("account_id", uuidText order.accountId),
    ("broker_client_order_id", .str submission.brokerClientOrderId),
    ("command_type", .str commandType.value),
    ("fencing_token", .int submission.fencingToken),
    ("limit_price", priceText order.limitPrice),
    ("not_after", .str (isoformat submission.notAfter)),
    ("instrument_id", uuidText order.instrumentId),
    ("order_id", uuidText order.id),
    ("order_style", .str order.orderStyle.value),
    ("origin_type", .str origin.value),
    ("owner_runtime_instance_id",
      match submission.ownerRuntimeInstanceId with
      | some id => uuidText id
      | none => .null),
    ("quantity", .str (String.ofList order.requestedQuantity.str)),
    ("side", .str order.side.value),
    ("target_broker_order_id",
      match targetBrokerOrderId with
      | some id => .str id
      | none => .null),
    ("target_aggregate_version", .int order.aggregateVersion),
    ("time_in_force", .str submission.timeInForce),
    ("trigger_price", priceText order.triggerPrice)]

/-- `OrderCommandFactory.create`; `freshId` is what `new_uuid7` gives when the context
names no command. -/
def OrderCommandFactory.create (sha256 : String → Digest) (freshId : UUID) (order : Order) (commandType : CommandType)
    (submission : OrderSubmissionContext) (origin : IntentOrigin) (targetBrokerOrderId : Option String) :
    Except PyError BrokerOrderCommand :=
  if commandType.admits submission.authorityClass then
    .ok
      { id := submission.commandId.getD freshId
        orderId := order.id
        accountId := order.accountId
        instrumentId := order.instrumentId
        commandType := commandType
        targetAggregateVersion := order.aggregateVersion
        idempotencyKey := hexText order.id ++ ":" ++ commandType.value.toLower ++ ":" ++
          toString order.aggregateVersion
        commandSequence := order.aggregateVersion
        canonicalPayloadHash :=
          sha256 (canonicalJson (canonicalPayload order commandType submission origin targetBrokerOrderId))
        brokerClientOrderId := submission.brokerClientOrderId
        targetBrokerOrderId := targetBrokerOrderId
        replacesCommandId := none
        originType := origin
        authorityClass := submission.authorityClass
        ownerRuntimeInstanceId := submission.ownerRuntimeInstanceId
        fencingToken := submission.fencingToken
        notAfter := submission.notAfter
        side := order.side
        orderStyle := order.orderStyle
        quantity := order.requestedQuantity
        limitPrice := order.limitPrice
        timeInForce := submission.timeInForce
        triggerPrice := order.triggerPrice
        status := "PENDING"
        dispatchAttemptedAt := none }
  else .error (invalid "command authority does not permit its command type")

/-! ### Risk decisions -/

inductive RiskOutcome
  | approve
  | reject
  | reduce
  | observedBlocking
  deriving DecidableEq

structure RiskDecision where
  id : UUID
  orderIntentId : UUID
  outcome : RiskOutcome
  approvedQuantity : Decimal
  approvedLimitPrice : Option Decimal
  deriving DecidableEq

/-- The checks `create_from_risk_decision` makes before it builds an order. -/
def requireAgreement (decision : RiskDecision) (intent : OrderIntent)
    (submission : OrderSubmissionContext) : Except PyError Unit :=
  if decide (decision.outcome = .reduce) ≠ decide (submission.authorityClass = .submitStrictReduction) then
    throw (invalid "risk outcome and command authority must agree")
  else if decision.orderIntentId ≠ intent.id then
    throw (invalid "risk decision must belong to the order intent")
  else pure ()

/-- The order of an approved decision. -/
def orderOf (id : UUID) (decision : RiskDecision) (intent : OrderIntent)
    (submission : OrderSubmissionContext) : Order where
  id := id
  orderIntentId := decision.orderIntentId
  riskDecisionId := decision.id
  accountId := intent.accountId
  instrumentId := intent.instrumentId
  side := intent.side
  orderStyle := intent.orderStyle
  requestedQuantity := decision.approvedQuantity
  limitPrice := if intent.orderStyle = .limit then decision.approvedLimitPrice else none
  aggregateVersion := 1
  brokerClientOrderId := submission.brokerClientOrderId
  createdAt := submission.createdAt
  triggerPrice := intent.triggerPrice

end AutoTrader.Execution
