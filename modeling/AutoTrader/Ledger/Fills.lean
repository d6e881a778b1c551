import AutoTrader.Ledger.Tables

/-! Applying one execution in one transaction: the fill is recorded once, then order, stream,
position and reservation follow from it. -/

namespace AutoTrader.Ledger

open AutoTrader.Dispatch AutoTrader.Domain AutoTrader.Execution AutoTrader.Runtime

inductive FillInsertResult
  | inserted
  | duplicate
  | payloadConflict
  deriving DecidableEq

/-- What is returned for an execution that was applied. -/
structure FillApplication where
  fill : PersistedFill
  totalFilledQuantity : ℚ
  overfill : Bool

variable (arith : Arithmetic)

/-- The row recorded under the identity of an execution. -/
def Tables.fill? (t : Tables) (event : BrokerExecutionEvent) : Option PersistedFill :=
  t.fills.find? fun f => f.brokerId = event.brokerId && f.accountId = event.accountId &&
    f.brokerExecutionId = event.brokerExecutionId

/-- The row of an execution as `INSERT IGNORE` writes it. -/
def fillRow (id : RowId) (event : BrokerExecutionEvent) : PersistedFill :=
  { id := id
    orderId := event.orderId
    accountId := event.accountId
    instrumentId := event.instrumentId
    brokerId := event.brokerId
    brokerExecutionId := event.brokerExecutionId
    brokerOrderId := event.brokerOrderId
    sourcePartition := event.sourcePartition
    sourceSequence := event.sourceSequence
    side := event.side
    quantity := arith.clamp event.quantity
    price := arith.clamp event.price
    currency := event.currency
    executedAt := event.executedAt
    observedAt := event.observedAt
    canonicalPayloadHash := event.payloadHash }

/-- `FillRepository.persist_once`; a row that fails its check is ignored like a duplicate. -/
def persistOnce (t : Tables) (event : BrokerExecutionEvent) :
    Except PyError (Tables × PersistedFill × FillInsertResult) :=
  match t.fill? event with
  | some existing =>
    if existing.canonicalPayloadHash ≠ event.payloadHash then
      .ok (t.report (blockingIncident "BROKER_EXECUTION_IDENTITY_PAYLOAD_CONFLICT" (some existing.orderId)
        event.observedAt), existing, .payloadConflict)
    else .ok (t, existing, .duplicate)
  | none =>
    let row := fillRow arith t.book.drawn event
    if 0 < row.quantity ∧ 0 < row.price then
      .ok ({ t with fills := t.fills ++ [row], book := { t.book with drawn := t.book.drawn + 1 } }, row, .inserted)
    else .error ⟨.runtimeError, "inserted fill cannot be read"⟩

/-- The anchors and the order an execution is checked against before it is recorded. -/
def lockForFill (t : Tables) (event : BrokerExecutionEvent) :
    Except PyError ((RiskBudgetAnchor × RiskBudgetAnchor) × PersistedOrder) :=
  match lockGlobalAndAccount t.anchors event.accountId event.currency with
  | none => .error ⟨.valueError, "risk budget anchors are required before a fill applies"⟩
  | some anchors =>
    match t.order? event.orderId with
    | none => .error ⟨.lookupError, "canonical order not found"⟩
    | some order =>
      if order.accountId ≠ event.accountId ∨ order.instrumentId ≠ event.instrumentId ∨ order.side ≠ event.side then
        .error ⟨.valueError, "broker execution does not match canonical order"⟩
      else if (t.linksOf order.id).any (·.brokerOrderId = event.brokerOrderId) then .ok (anchors, order)
      else .error ⟨.valueError, "broker execution is not linked to the canonical order"⟩

/-- The status an order takes from the quantity filled so far. -/
def filledStatus (requested total : ℚ) : OrderStatus :=
  if requested < total then .unknown else if total = requested then .filled else .partiallyFilled

/-- What an order has filled with an execution. -/
def filledTotal (order : PersistedOrder) (event : BrokerExecutionEvent) : ℚ :=
  arith.fix (order.filledQuantity + event.quantity)

/-- An order that filled `total`, of which its column keeps `stored`. -/
def PersistedOrder.fill (order : PersistedOrder) (total stored : ℚ) : PersistedOrder :=
  { order with
    filledQuantity := stored
    aggregateVersion := order.aggregateVersion + 1
    status := filledStatus order.requestedQuantity total }

def overfillIncidents (order : PersistedOrder) (total : ℚ) (observedAt : Instant) : List OpsIncident :=
  if order.requestedQuantity < total then [blockingIncident "ORDER_OVERFILL" (some order.id) observedAt] else []

/-- The order row of a fill, with the incident of an overfill. -/
def fillOrder (t : Tables) (order : PersistedOrder) (event : BrokerExecutionEvent) : Except PyError Tables := do
  let total := filledTotal arith order event
  let stored ← arith.store total
  let t := t.updateOrder order.id (·.fill total stored)
  pure { t with incidents := t.incidents ++ overfillIncidents order total event.observedAt }

def BrokerExecutionEvent.streamKey (event : BrokerExecutionEvent) : StreamKey :=
  ⟨event.brokerId, event.accountId, event.sourcePartition⟩

/-- `observed_at.replace(hour=23, minute=59)`, seconds and microseconds kept. -/
def endOfDay (t : Instant) : Instant :=
  t - t % 86400000000 + (23 * 60 + 59) * 60000000 + t % 60000000

/-- Advance the stream of a sequenced execution; of the rows an unordered query returns, the
first one in the table stands first. -/
def advanceStream (t : Tables) (event : BrokerExecutionEvent) : Tables :=
  match event.sourceSequence with
  | none => t
  | some sequence =>
    let key := event.streamKey
    let stream := advanceStreamSequence List.head? (t.received key) (t.streams key)
      ⟨sequence, event.observedAt, endOfDay event.observedAt, event.payloadHash⟩
    { t with streams := Function.update t.streams key stream }

/-- The part of a fill that opens or adds to a long exposure. -/
def riskIncreaseQuantity (event : BrokerExecutionEvent) (previous : ℚ) : ℚ :=
  lotQuantity arith event.side previous event.quantity

/-- What a fill takes from a reservation: released amounts first, then remaining ones. -/
structure Consumption where
  attributable : ℚ
  reclaimed : ℚ
  fromRemaining : ℚ

def consumption (r : PersistedRiskReservation) (price quantity : ℚ) : Consumption :=
  let attributable := arith.fix (price * quantity)
  let reclaimed := min r.releasedRiskAmount attributable
  ⟨attributable, reclaimed, min r.remainingRiskAmount (arith.fix (attributable - reclaimed))⟩

def Consumption.consumed (c : Consumption) : ℚ :=
  arith.fix (c.reclaimed + c.fromRemaining)

/-- The reservation after a fill, before it is written. -/
def PersistedRiskReservation.consume (r : PersistedRiskReservation) (c : Consumption) : PersistedRiskReservation :=
  let remaining := arith.fix (r.remainingRiskAmount - c.fromRemaining)
  let released := arith.fix (r.releasedRiskAmount - c.reclaimed)
  { r with
    consumedRiskAmount := arith.fix (r.consumedRiskAmount + c.consumed arith)
    releasedRiskAmount := released
    remainingRiskAmount := remaining
    status := if remaining ≠ 0 ∨ released ≠ 0 then .partiallyConsumed else .consumed }

/-- An anchor after a fill, before it is written. -/
def RiskBudgetAnchor.consume (anchor : RiskBudgetAnchor) (c : Consumption) : RiskBudgetAnchor :=
  { anchor with
    remainingReservationAmount := arith.fix (anchor.remainingReservationAmount - c.fromRemaining)
    positionRiskAmount := arith.fix (anchor.positionRiskAmount + c.attributable)
    rowVersion := anchor.rowVersion + 1 }

/-- The incidents of a fill that reclaims what was released or exceeds what was reserved. -/
def consumptionIncidents (orderId : UUID) (c : Consumption) (observedAt : Instant) : List OpsIncident :=
  (if c.reclaimed ≠ 0 then [blockingIncident "LATE_FILL_AFTER_RESERVATION_RELEASE" (some orderId) observedAt] else []) ++
    (if c.consumed arith < c.attributable then
      [blockingIncident "FILL_RISK_EXCEEDS_RESERVATION" (some orderId) observedAt] else [])

/-- The reservation of an order and its two anchors after a fill that found `previous` held. -/
def consumeReservation (t : Tables) (anchors : RiskBudgetAnchor × RiskBudgetAnchor) (order : PersistedOrder)
    (event : BrokerExecutionEvent) (previous : ℚ) : Except PyError Tables :=
  match t.reservation? order.riskDecisionId with
  | none => .ok t
  | some reservation => do
    let c := consumption arith reservation event.price (riskIncreaseQuantity arith event previous)
    let stored ← (reservation.consume arith c).store arith
    let written ← writeAnchors arith t.anchors anchors (·.consume arith c)
    pure
      { t with
        reservations := Rows.update PersistedRiskReservation.riskDecisionId t.reservations order.riskDecisionId
          fun _ => stored
        anchors := written
        incidents := t.incidents ++ consumptionIncidents arith order.id c event.observedAt }

/-- The event row of an order that took a fill. -/
def fillApplied (order : PersistedOrder) (total : ℚ) (event : BrokerExecutionEvent) : PersistedOrderEvent :=
  ⟨order.id, order.aggregateVersion + 1, filledStatus order.requestedQuantity total, "FILL_APPLIED",
    event.executedAt⟩

/-- `MySqlFillStore.apply_event_once`. -/
def applyEventOnce (t : Tables) (event : BrokerExecutionEvent) : Except PyError (Tables × Option FillApplication) := do
  let (anchors, order) ← lockForFill t event
  let (t, persisted, result) ← persistOnce arith t event
  if result ≠ .inserted then pure (t, none)
  else
    let total := filledTotal arith order event
    let t ← fillOrder arith t order event
    let t := advanceStream t event
    let previous := t.book.held event.accountId event.instrumentId
    let book ← applyToPosition arith t.book persisted.id event
    let t ← consumeReservation arith { t with book := book } anchors order event previous
    pure ({ t with orderEvents := t.orderEvents ++ [fillApplied order total event] },
      some ⟨persisted, total, decide (order.requestedQuantity < total)⟩)

end AutoTrader.Ledger
