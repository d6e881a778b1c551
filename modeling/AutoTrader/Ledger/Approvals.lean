import AutoTrader.Ledger.Tables

/-! Reserving risk: an approval stores its decision and its reservation once and charges two
anchors, an order is created under a decision, and its broker order is linked to it. -/

namespace AutoTrader.Ledger

open AutoTrader.Dispatch AutoTrader.Domain AutoTrader.Execution AutoTrader.Runtime

variable (arith : Arithmetic)

/-! ### Decisions -/

/-- The columns of a decision as `INSERT IGNORE` writes them. -/
def PersistedRiskDecision.row (d : PersistedRiskDecision) : PersistedRiskDecision :=
  { d with
    requestedQuantity := arith.clamp d.requestedQuantity
    approvedQuantity := arith.clamp d.approvedQuantity
    reservedRiskAmount := arith.clamp d.reservedRiskAmount }

/-- `ck_risk_decision_quantities` and `ck_risk_decision_outcome_observed`. -/
def PersistedRiskDecision.passes (d : PersistedRiskDecision) : Bool :=
  decide (0 < d.requestedQuantity ∧ 0 ≤ d.approvedQuantity ∧ d.approvedQuantity ≤ d.requestedQuantity ∧
    0 ≤ d.reservedRiskAmount ∧
    (d.outcome = .observedBlocking → d.approvedQuantity = 0 ∧ 0 < d.reservedRiskAmount))

/-- `RiskDecisionRepository.persist`. -/
def persistDecision (decisions : List PersistedRiskDecision) (decision : PersistedRiskDecision) :
    Except PyError (List PersistedRiskDecision × PersistedRiskDecision) :=
  let row := decision.row arith
  let decisions :=
    if row.passes && !decisions.any (fun d => d.id = row.id || d.orderIntentId = row.orderIntentId) then
      decisions ++ [row]
    else decisions
  match decisions.find? (·.orderIntentId = decision.orderIntentId) with
  | none => .error ⟨.runtimeError, "inserted risk decision cannot be read"⟩
  | some existing =>
    if existing.decisionHash ≠ decision.decisionHash then
      .error ⟨.valueError, "risk decision identity payload collision"⟩
    else .ok (decisions, existing)

/-! ### Reservations -/

def ReservationStatus.isActive : ReservationStatus → Bool
  | .active | .partiallyConsumed => true
  | .consumed | .released => false

/-- `reservation.currency or denomination`. -/
def denominated (currency : Option String) (denomination : String) : String :=
  match currency with
  | none => denomination
  | some text => if text = "" then denomination else text

/-- The columns of a reservation as `INSERT IGNORE` writes them. -/
def PersistedRiskReservation.row (r : PersistedRiskReservation) (denomination : String) : PersistedRiskReservation :=
  { r with
    currency := some (denominated r.currency denomination)
    initialRiskAmount := arith.clamp r.initialRiskAmount
    consumedRiskAmount := arith.clamp r.consumedRiskAmount
    remainingRiskAmount := arith.clamp r.remainingRiskAmount
    releasedRiskAmount := arith.clamp r.releasedRiskAmount }

/-- The checks of a reservation row. -/
def PersistedRiskReservation.passes (r : PersistedRiskReservation) : Bool :=
  decide (0 ≤ r.initialRiskAmount ∧ 0 ≤ r.consumedRiskAmount ∧ 0 ≤ r.remainingRiskAmount ∧
    0 ≤ r.releasedRiskAmount ∧
    r.consumedRiskAmount + r.remainingRiskAmount + r.releasedRiskAmount = r.initialRiskAmount ∧
    (r.currency.isSome ↔ r.settlementAsset.isNone))

/-- Another row has the same decision, or is active for the same intent. -/
def PersistedRiskReservation.clashes (r other : PersistedRiskReservation) : Bool :=
  other.riskDecisionId = r.riskDecisionId ||
    (other.orderIntentId = r.orderIntentId && other.status.isActive && r.status.isActive)

/-- `RiskReservationRepository.persist`: the rows, and whether one was inserted. -/
def persistReservation (decisions : List PersistedRiskDecision) (reservations : List PersistedRiskReservation)
    (reservation : PersistedRiskReservation) : Except PyError (List PersistedRiskReservation × Bool) :=
  match decisions.find? (·.id = reservation.riskDecisionId) with
  | none => .error ⟨.valueError, "risk reservation requires denomination authority"⟩
  | some decision =>
    let row := reservation.row arith decision.currency
    let inserted := row.passes && !reservations.any row.clashes
    let reservations := if inserted then reservations ++ [row] else reservations
    match Rows.lookup PersistedRiskReservation.riskDecisionId reservations reservation.riskDecisionId with
    | none => .error ⟨.runtimeError, "inserted risk reservation cannot be read"⟩
    | some existing =>
      if existing.orderIntentId ≠ reservation.orderIntentId ∨
          existing.initialRiskAmount ≠ reservation.initialRiskAmount ∨ existing.currency ≠ row.currency ∨
          existing.settlementAsset ≠ reservation.settlementAsset then
        .error ⟨.valueError, "risk reservation identity payload collision"⟩
      else .ok (reservations, inserted)

/-! ### Approvals -/

/-- The checks of an approval against what it was given. -/
def checkApproval (decision : PersistedRiskDecision) (reservation : PersistedRiskReservation) (accountId : UUID)
    (currency : String) : Except PyError Unit :=
  if reservation.riskDecisionId ≠ decision.id then
    .error ⟨.valueError, "reservation must belong to the risk decision"⟩
  else if reservation.accountId ≠ accountId ∨ decision.currency ≠ currency then
    .error ⟨.valueError, "reservation account and decision currency must match"⟩
  else match decision.outcome with
    | .approve =>
      if reservation.remainingRiskAmount ≠ decision.reservedRiskAmount then
        .error ⟨.valueError, "reservation amount must equal the approved risk"⟩
      else .ok ()
    | .reduce =>
      if decision.reservedRiskAmount ≠ 0 ∨ reservation.initialRiskAmount ≠ 0 ∨ reservation.remainingRiskAmount ≠ 0 ∨
          reservation.status ≠ .consumed then
        .error ⟨.valueError, "reduction requires a zero-risk consumed reservation"⟩
      else .ok ()
    | .reject | .observedBlocking =>
      .error ⟨.valueError, "only approved or reduce decisions create a reservation"⟩

/-- An anchor takes a reservation, before it is written. -/
def RiskBudgetAnchor.reserve (anchor : RiskBudgetAnchor) (amount : ℚ) : RiskBudgetAnchor :=
  { anchor with
    remainingReservationAmount := arith.fix (anchor.remainingReservationAmount + amount)
    rowVersion := anchor.rowVersion + 1 }

/-- The anchor would pass its limit. -/
def RiskBudgetAnchor.exceeds (anchor : RiskBudgetAnchor) (amount : ℚ) : Bool :=
  decide (anchor.hardLimitAmount <
    arith.fix (arith.fix (anchor.positionRiskAmount + anchor.remainingReservationAmount) + amount))

/-- `RiskReservationService.persist_approval`. -/
def persistApproval (t : Tables) (decision : PersistedRiskDecision) (reservation : PersistedRiskReservation)
    (accountId : UUID) (currency : String) : Except PyError Tables :=
  match lockGlobalAndAccount t.anchors accountId currency with
  | none => .error ⟨.valueError, "locked GLOBAL and ACCOUNT budget anchors are required"⟩
  | some anchors => do
    checkApproval decision reservation accountId currency
    let (decisions, stored) ← persistDecision arith t.decisions decision
    let (reservations, created) ← persistReservation arith decisions t.reservations
      { reservation with riskDecisionId := stored.id }
    let t := { t with decisions := decisions, reservations := reservations }
    if created ∧ decision.outcome = .approve then
      let amount := reservation.remainingRiskAmount
      if anchors.1.exceeds arith amount || anchors.2.exceeds arith amount then
        .error ⟨.valueError, "risk budget anchor limit exceeded"⟩
      else do
        let written ← writeAnchors arith t.anchors anchors (·.reserve arith amount)
        pure { t with anchors := written }
    else pure t

/-! ### Orders and their links -/

/-- The columns of an order as `INSERT IGNORE` writes them. -/
def PersistedOrder.row (order : PersistedOrder) : PersistedOrder :=
  { order with
    requestedQuantity := arith.clamp order.requestedQuantity
    filledQuantity := arith.clamp order.filledQuantity
    limitPrice := order.limitPrice.map arith.clamp
    triggerPrice := order.triggerPrice.map arith.clamp }

/-- The rows an order row may not meet: one with its id, its intent, or its client id at the
account. -/
def PersistedOrder.clashes (order other : PersistedOrder) : Bool :=
  other.id = order.id || other.orderIntentId = order.orderIntentId ||
    (other.accountId = order.accountId && other.brokerClientOrderId = order.brokerClientOrderId)

/-- The fields in which a stored order must agree with the one to be created. -/
def PersistedOrder.sameTerms (a b : PersistedOrder) : Prop :=
  a.riskDecisionId = b.riskDecisionId ∧ a.accountId = b.accountId ∧ a.instrumentId = b.instrumentId ∧
    a.brokerClientOrderId = b.brokerClientOrderId ∧ a.side = b.side ∧ a.orderStyle = b.orderStyle ∧
    a.requestedQuantity = b.requestedQuantity ∧ a.limitPrice = b.limitPrice ∧ a.triggerPrice = b.triggerPrice

instance (a b : PersistedOrder) : Decidable (a.sameTerms b) :=
  inferInstanceAs (Decidable (_ ∧ _))

/-- `OrderRepository.create_order_once`; the decision must belong to the intent of the order. -/
def createOrderOnce (t : Tables) (order : PersistedOrder) : Except PyError (Tables × PersistedOrder) :=
  let row := order.row arith
  let owned := t.decisions.any fun d => d.id = row.riskDecisionId && d.orderIntentId = row.orderIntentId
  let t := if decide (0 < row.requestedQuantity ∧ 0 ≤ row.filledQuantity) && owned && !t.orders.any row.clashes then
      { t with orders := t.orders ++ [row] }
    else t
  match t.orders.find? (·.orderIntentId = order.orderIntentId) with
  | none => .error ⟨.runtimeError, "inserted order cannot be read"⟩
  | some existing =>
    if existing.sameTerms order then .ok (t, existing)
    else .error ⟨.orderIdentityCollisionError, "order intent identity payload collision"⟩

/-- `OrderRepository.create_event_once`. -/
def createEventOnce (t : Tables) (event : PersistedOrderEvent) : Except PyError Tables :=
  match t.orderEvents.find? fun e => e.orderId = event.orderId && e.aggregateVersion = event.aggregateVersion with
  | none => .ok { t with orderEvents := t.orderEvents ++ [event] }
  | some existing =>
    if existing.status ≠ event.status ∨ existing.rawStatus ≠ event.rawStatus ∨
        existing.occurredAt ≠ event.occurredAt then
      .error ⟨.orderIdentityCollisionError, "order event identity payload collision"⟩
    else .ok t

/-- The order and its event, as `create_approved_once` stores them beside the command. -/
def createApprovedOrder (t : Tables) (order : PersistedOrder) (event : PersistedOrderEvent) :
    Except PyError Tables := do
  let (t, stored) ← createOrderOnce arith t { order with filledQuantity := 0 }
  createEventOnce t { event with orderId := stored.id }

/-- A broker order that a dispatched command was accepted under. -/
structure Acceptance where
  linkId : UUID
  orderId : UUID
  brokerId : UUID
  brokerOrderId : String
  commandType : CommandType

/-- The link of an accepted command, when the broker order has none yet; broker order ids are
unique at a broker. -/
def linkAccepted (t : Tables) (a : Acceptance) : Except PyError Tables :=
  if (t.linksOf a.orderId).any fun link => link.brokerId = a.brokerId && link.brokerOrderId = a.brokerOrderId then
    .ok t
  else if t.links.any fun link => link.brokerId = a.brokerId && link.brokerOrderId = a.brokerOrderId then
    .error ⟨.databaseError, "uq_exec_broker_link_broker_order"⟩
  else
    .ok
      { t with
        links := t.links ++ [
          { id := a.linkId
            orderId := a.orderId
            brokerId := a.brokerId
            brokerOrderId := a.brokerOrderId
            linkSequence := (StoreOp.highest (t.linksOf a.orderId)).getD 0 + 1
            exposureBearing := a.commandType = .submit
            status := "ACTIVE" }] }

end AutoTrader.Ledger
