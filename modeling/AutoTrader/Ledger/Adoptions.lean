import AutoTrader.Ledger.Approvals

/-! Adopting an order that is open at the broker and unknown here: it is booked with a
reservation of its own, once per broker order. -/

namespace AutoTrader.Ledger

open AutoTrader.Dispatch AutoTrader.Domain AutoTrader.Execution AutoTrader.Runtime

/-- An observed open order; what the constructor checks of its amounts is kept. -/
structure BrokerOpenOrderAdoption where
  reconciliationDiffId : UUID
  accountId : UUID
  brokerId : UUID
  brokerOrderId : String
  brokerClientOrderId : String
  instrumentId : UUID
  side : Side
  orderStyle : OrderStyle
  requestedQuantity : ℚ
  limitPrice : Option ℚ
  currency : String
  reservedRiskAmount : ℚ
  policyVersionId : UUID
  riskSnapshotId : UUID
  observedAt : Instant
  terms : 0 < requestedQuantity ∧ 0 < reservedRiskAmount

/-- The ids an adoption draws. -/
structure AdoptionIds where
  intentId : UUID
  decisionId : UUID
  orderId : UUID
  linkId : UUID

structure BrokerOpenOrderAdoptionResult where
  orderId : UUID
  brokerOrderId : String
  created : Bool
  deriving DecidableEq

/-- The two digests of an adoption: of its canonical terms, and of the decision under them. -/
structure AdoptionHashes where
  canonical : BrokerOpenOrderAdoption → Digest
  observed : BrokerOpenOrderAdoption → Digest

variable (arith : Arithmetic) (hashes : AdoptionHashes)

private def conflicting : PyError :=
  ⟨.valueError, "broker order adoption payload conflicts with existing evidence"⟩

/-- `_existing_result`. -/
def existingResult (t : Tables) (link : BrokerOrderLink) (a : BrokerOpenOrderAdoption) :
    Except PyError BrokerOpenOrderAdoptionResult :=
  match t.order? link.orderId with
  | none => .error conflicting
  | some order =>
    if order.accountId ≠ a.accountId ∨ order.instrumentId ≠ a.instrumentId ∨
        order.brokerClientOrderId ≠ a.brokerClientOrderId ∨ order.side ≠ a.side ∨ order.orderStyle ≠ a.orderStyle ∨
        order.requestedQuantity ≠ a.requestedQuantity ∨ order.limitPrice ≠ a.limitPrice then
      .error conflicting
    else match t.intents.find? (·.id = order.orderIntentId), t.decisions.find? (·.id = order.riskDecisionId) with
      | some intent, some decision =>
        if intent.originType ≠ .reconciliation ∨ intent.reconciliationDiffId ≠ some a.reconciliationDiffId ∨
            intent.canonicalPayloadHash ≠ hashes.canonical a ∨ decision.outcome ≠ .observedBlocking ∨
            decision.currency ≠ a.currency ∨ decision.reservedRiskAmount ≠ a.reservedRiskAmount then
          .error conflicting
        else if (t.reservation? order.riskDecisionId).isNone then
          .error ⟨.runtimeError, "adopted order has no reservation"⟩
        else .ok ⟨order.id, link.brokerOrderId, false⟩
      | _, _ => .error conflicting

def adoptedDecision (a : BrokerOpenOrderAdoption) (ids : AdoptionIds) (requested reserved : ℚ) :
    PersistedRiskDecision :=
  { id := ids.decisionId
    orderIntentId := ids.intentId
    outcome := .observedBlocking
    requestedQuantity := requested
    approvedQuantity := 0
    reservedRiskAmount := reserved
    currency := a.currency
    decisionHash := hashes.observed a }

def adoptedReservation (a : BrokerOpenOrderAdoption) (ids : AdoptionIds) (reserved : ℚ) : PersistedRiskReservation :=
  { riskDecisionId := ids.decisionId
    orderIntentId := ids.intentId
    accountId := a.accountId
    currency := some a.currency
    settlementAsset := none
    initialRiskAmount := reserved
    consumedRiskAmount := 0
    remainingRiskAmount := reserved
    releasedRiskAmount := 0
    status := .active
    releaseReason := none }

def adoptedOrder (a : BrokerOpenOrderAdoption) (ids : AdoptionIds) (requested : ℚ) (limitPrice : Option ℚ) :
    PersistedOrder :=
  { id := ids.orderId
    orderIntentId := ids.intentId
    riskDecisionId := ids.decisionId
    accountId := a.accountId
    instrumentId := a.instrumentId
    brokerClientOrderId := a.brokerClientOrderId
    side := a.side
    orderStyle := a.orderStyle
    requestedQuantity := requested
    filledQuantity := 0
    limitPrice := limitPrice
    triggerPrice := none
    status := .unknown
    aggregateVersion := 1
    createdAt := a.observedAt }

def adoptedLink (a : BrokerOpenOrderAdoption) (ids : AdoptionIds) : BrokerOrderLink :=
  { id := ids.linkId
    orderId := ids.orderId
    brokerId := a.brokerId
    brokerOrderId := a.brokerOrderId
    linkSequence := 1
    exposureBearing := true
    status := OrderStatus.unknown.value }

/-- The column of a price that may be absent. -/
def storePrice (price : Option ℚ) : Except PyError (Option ℚ) :=
  match price with
  | none => .ok none
  | some price => do
    let stored ← arith.store price
    pure (some stored)

/-- The rows of a first adoption; a row that breaks a key or a check is refused. -/
def bookAdoption (t : Tables) (anchors : RiskBudgetAnchor × RiskBudgetAnchor) (a : BrokerOpenOrderAdoption)
    (ids : AdoptionIds) : Except PyError Tables := do
  let requested ← arith.store a.requestedQuantity
  let reserved ← arith.store a.reservedRiskAmount
  let limitPrice ← storePrice arith a.limitPrice
  let decision := adoptedDecision hashes a ids requested reserved
  let reservation := adoptedReservation a ids reserved
  let order := adoptedOrder a ids requested limitPrice
  if t.intents.any (·.id = ids.intentId) ∨ !decision.passes ∨
      t.decisions.any (fun d => d.id = ids.decisionId || d.orderIntentId = ids.intentId) ∨
      t.reservations.any reservation.clashes ∨ t.orders.any order.clashes then
    .error ⟨.databaseError, "adoption breaks a key or a check"⟩
  else
    let written ← writeAnchors arith t.anchors anchors (·.reserve arith a.reservedRiskAmount)
    pure
      { t with
        intents := t.intents ++ [⟨ids.intentId, .reconciliation, hashes.canonical a, some a.reconciliationDiffId⟩]
        diffs := Rows.update PersistedReconciliationDiff.id t.diffs a.reconciliationDiffId
          ({ · with isOpen := false })
        orders := t.orders ++ [order]
        orderEvents := t.orderEvents ++ [⟨ids.orderId, 1, .unknown, "ADOPTED_BROKER_OPEN", a.observedAt⟩]
        links := t.links ++ [adoptedLink a ids]
        decisions := t.decisions ++ [decision]
        reservations := t.reservations ++ [reservation]
        anchors := written }

/-- `MySqlBrokerOpenOrderAdoptionStore.adopt_open_order`. -/
def adoptOpenOrder (t : Tables) (a : BrokerOpenOrderAdoption) (ids : AdoptionIds) :
    Except PyError (Tables × BrokerOpenOrderAdoptionResult) :=
  let diff := t.diffs.find? fun d =>
    d.id = a.reconciliationDiffId && d.accountId = a.accountId && d.brokerId = a.brokerId
  match diff with
  | none => .error ⟨.valueError, "adoption requires a blocking reconciliation diff"⟩
  | some diff =>
    if diff.severity ≠ .blocking ∨ diff.internalOrderId.isSome ∨ diff.brokerOrderId ≠ some a.brokerOrderId then
      .error ⟨.valueError, "adoption requires a blocking reconciliation diff"⟩
    else match t.links.find? fun link => link.brokerId = a.brokerId && link.brokerOrderId = a.brokerOrderId with
      | some link => do
        let result ← existingResult hashes t link a
        pure (t, result)
      | none =>
        if diff.isOpen = false then .error ⟨.valueError, "resolved reconciliation diff has no adopted order"⟩
        else match lockGlobalAndAccount t.anchors a.accountId a.currency with
          | none => .error ⟨.runtimeError, "adoption requires global and account risk anchors"⟩
          | some anchors => do
            let t ← bookAdoption arith hashes t anchors a ids
            pure (t, ⟨ids.orderId, a.brokerOrderId, true⟩)

end AutoTrader.Ledger
