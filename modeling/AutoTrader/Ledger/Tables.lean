import AutoTrader.Dispatch.Store
import AutoTrader.Ledger.Book
import AutoTrader.Ledger.Streams

/-! The tables that executions, status events, approvals, adoptions and releases share. -/

namespace AutoTrader.Ledger

open AutoTrader.Dispatch AutoTrader.Domain AutoTrader.Execution AutoTrader.Runtime

inductive OrderStatus
  | created
  | submitted
  | acknowledged
  | partiallyFilled
  | filled
  | cancelPending
  | canceled
  | rejected
  | expired
  | unknown
  deriving DecidableEq

namespace OrderStatus

def all : List OrderStatus :=
  [.created, .submitted, .acknowledged, .partiallyFilled, .filled, .cancelPending, .canceled, .rejected, .expired,
    .unknown]

def value : OrderStatus → String
  | .created => "CREATED"
  | .submitted => "SUBMITTED"
  | .acknowledged => "ACKNOWLEDGED"
  | .partiallyFilled => "PARTIALLY_FILLED"
  | .filled => "FILLED"
  | .cancelPending => "CANCEL_PENDING"
  | .canceled => "CANCELED"
  | .rejected => "REJECTED"
  | .expired => "EXPIRED"
  | .unknown => "UNKNOWN"

/-- The member with this text, if there is one. -/
def ofValue? (text : String) : Option OrderStatus :=
  all.find? (·.value = text)

/-- `OrderStatus(text)`. -/
def ofValue (text : String) : Except PyError OrderStatus :=
  match ofValue? text with
  | some status => .ok status
  | none => .error ⟨.valueError, "'" ++ text ++ "' is not a valid OrderStatus"⟩

/-- `TERMINAL_ORDER_STATUSES`. -/
def isTerminal : OrderStatus → Bool
  | .filled | .canceled | .rejected | .expired => true
  | _ => false

/-- `WORKING_ORDER_STATUSES`. -/
def isWorking (status : OrderStatus) : Bool :=
  !status.isTerminal && !decide (status = .unknown)

theorem ofValue?_value (status : OrderStatus) : ofValue? status.value = some status := by
  cases status <;> rfl

theorem ofValue_value (status : OrderStatus) : ofValue status.value = .ok status := by
  unfold ofValue
  rw [ofValue?_value]

theorem ofValue_error {text : String} {e : PyError} (h : ofValue text = .error e) :
    e.message.toList.head? = "'".toList.head? := by
  unfold ofValue at h
  split at h
  · cases h
  · rw [← Except.error.inj h]
    simp [String.toList_append]

theorem value_of_ofValue? {text : String} {status : OrderStatus} (h : ofValue? text = some status) :
    status.value = text := by
  have hfound := List.find?_some h
  simpa using hfound

end OrderStatus

structure PersistedOrder where
  id : UUID
  orderIntentId : UUID
  riskDecisionId : UUID
  accountId : UUID
  instrumentId : UUID
  brokerClientOrderId : String
  side : Side
  orderStyle : OrderStyle
  requestedQuantity : ℚ
  filledQuantity : ℚ
  limitPrice : Option ℚ
  triggerPrice : Option ℚ
  status : OrderStatus
  aggregateVersion : Nat
  createdAt : Instant
  deriving DecidableEq

structure PersistedOrderEvent where
  orderId : UUID
  aggregateVersion : Nat
  status : OrderStatus
  rawStatus : String
  occurredAt : Instant
  deriving DecidableEq

structure PersistedFill where
  id : RowId
  orderId : UUID
  accountId : UUID
  instrumentId : UUID
  brokerId : UUID
  brokerExecutionId : String
  brokerOrderId : String
  sourcePartition : String
  sourceSequence : Option Nat
  side : Side
  quantity : ℚ
  price : ℚ
  currency : String
  executedAt : Instant
  observedAt : Instant
  canonicalPayloadHash : Digest
  deriving DecidableEq

inductive DecisionOutcome
  | approve
  | reject
  | reduce
  | observedBlocking
  deriving DecidableEq

structure PersistedRiskDecision where
  id : UUID
  orderIntentId : UUID
  outcome : DecisionOutcome
  requestedQuantity : ℚ
  approvedQuantity : ℚ
  reservedRiskAmount : ℚ
  currency : String
  decisionHash : Digest
  deriving DecidableEq

inductive ReservationStatus
  | active
  | partiallyConsumed
  | consumed
  | released
  deriving DecidableEq

structure PersistedRiskReservation where
  riskDecisionId : UUID
  orderIntentId : UUID
  accountId : UUID
  currency : Option String
  settlementAsset : Option String
  initialRiskAmount : ℚ
  consumedRiskAmount : ℚ
  remainingRiskAmount : ℚ
  releasedRiskAmount : ℚ
  status : ReservationStatus
  releaseReason : Option String
  deriving DecidableEq

inductive AnchorScope
  | global
  | account (id : UUID)
  deriving DecidableEq

structure RiskBudgetAnchor where
  scope : AnchorScope
  currency : String
  positionRiskAmount : ℚ
  remainingReservationAmount : ℚ
  hardLimitAmount : ℚ
  rowVersion : Nat
  deriving DecidableEq

/-- An incident under an order, or under nothing. -/
structure OpsIncident extends Finding where
  reasonCode : String
  order : Option UUID
  createdAt : Instant

/-- A blocking incident that was just opened. -/
def blockingIncident (reasonCode : String) (order : Option UUID) (createdAt : Instant) : OpsIncident :=
  { severity := .blocking, isOpen := true, reasonCode := reasonCode, order := order, createdAt := createdAt }

structure PersistedBrokerOrderStatusEvent where
  orderId : UUID
  brokerId : UUID
  accountId : UUID
  sourcePartition : String
  dedupeKey : String
  canonicalPayloadHash : Digest
  brokerOrderId : String
  rawStatus : String
  sourceSequence : Option Nat
  occurredAt : Instant
  observedAt : Instant
  deriving DecidableEq

/-- What a checkpoint covered exactly. -/
inductive CheckpointScope
  | brokerOrderId (text : String)
  | brokerClientOrderId (text : String)
  deriving DecidableEq

/-- A difference of a reconciliation run of one account at its broker. -/
structure PersistedReconciliationDiff extends Finding where
  id : UUID
  accountId : UUID
  brokerId : UUID
  internalOrderId : Option UUID
  brokerOrderId : Option String

/-- An intent, as far as an adoption compares it. -/
structure PersistedOrderIntent where
  id : UUID
  originType : IntentOrigin
  canonicalPayloadHash : Digest
  reconciliationDiffId : Option UUID
  deriving DecidableEq

/-- The store; status marks are per order and partition. -/
structure Tables where
  intents : List PersistedOrderIntent
  diffs : List PersistedReconciliationDiff
  orders : List PersistedOrder
  orderEvents : List PersistedOrderEvent
  links : List BrokerOrderLink
  fills : List PersistedFill
  statusEvents : List PersistedBrokerOrderStatusEvent
  statusMarks : UUID → String → Option Nat
  streams : StreamKey → Stream
  scopes : StreamKey → List CheckpointScope
  book : Book
  decisions : List PersistedRiskDecision
  reservations : List PersistedRiskReservation
  anchors : List RiskBudgetAnchor
  incidents : List OpsIncident

namespace Tables

def order? (t : Tables) (id : UUID) : Option PersistedOrder :=
  Rows.lookup PersistedOrder.id t.orders id

def linksOf (t : Tables) (orderId : UUID) : List BrokerOrderLink :=
  t.links.filter (·.orderId = orderId)

def reservation? (t : Tables) (riskDecisionId : UUID) : Option PersistedRiskReservation :=
  Rows.lookup PersistedRiskReservation.riskDecisionId t.reservations riskDecisionId

def updateOrder (t : Tables) (id : UUID) (values : PersistedOrder → PersistedOrder) : Tables :=
  { t with orders := Rows.update PersistedOrder.id t.orders id values }

def report (t : Tables) (incident : OpsIncident) : Tables :=
  { t with incidents := t.incidents ++ [incident] }

/-- The sequences of the fills recorded in a partition. -/
def received (t : Tables) (key : StreamKey) : List Nat :=
  (t.fills.filter fun f => f.brokerId = key.brokerId && f.accountId = key.accountId &&
    f.sourcePartition = key.sourcePartition).filterMap (·.sourceSequence)

end Tables

/-- The key of an anchor row. -/
def RiskBudgetAnchor.key (anchor : RiskBudgetAnchor) : AnchorScope × String :=
  (anchor.scope, anchor.currency)

/-- `RiskBudgetAnchorRepository.lock_global_and_account`. -/
def lockGlobalAndAccount (anchors : List RiskBudgetAnchor) (accountId : UUID) (currency : String) :
    Option (RiskBudgetAnchor × RiskBudgetAnchor) := do
  let globalAnchor ← Rows.lookup RiskBudgetAnchor.key anchors (.global, currency)
  let accountAnchor ← Rows.lookup RiskBudgetAnchor.key anchors (.account accountId, currency)
  pure (globalAnchor, accountAnchor)

variable (arith : Arithmetic)

/-! ### Column writes -/

/-- The columns of a reservation, and its accounting check. -/
def PersistedRiskReservation.store (r : PersistedRiskReservation) : Except PyError PersistedRiskReservation := do
  let consumed ← arith.store r.consumedRiskAmount
  let remaining ← arith.store r.remainingRiskAmount
  let released ← arith.store r.releasedRiskAmount
  if consumed < 0 ∨ remaining < 0 ∨ released < 0 ∨ consumed + remaining + released ≠ r.initialRiskAmount then
    .error ⟨.databaseError, "ck_risk_budget_reservation_accounting"⟩
  else
    pure { r with consumedRiskAmount := consumed, remainingRiskAmount := remaining, releasedRiskAmount := released }

/-- The columns of an anchor, and the check of its amounts. -/
def RiskBudgetAnchor.store (anchor : RiskBudgetAnchor) : Except PyError RiskBudgetAnchor := do
  let position ← arith.store anchor.positionRiskAmount
  let remaining ← arith.store anchor.remainingReservationAmount
  if position < 0 ∨ remaining < 0 then .error ⟨.databaseError, "ck_risk_budget_anchor_amounts"⟩
  else pure { anchor with positionRiskAmount := position, remainingReservationAmount := remaining }

/-- Write back two locked anchors. -/
def writeAnchors (anchors : List RiskBudgetAnchor) (locked : RiskBudgetAnchor × RiskBudgetAnchor)
    (change : RiskBudgetAnchor → RiskBudgetAnchor) : Except PyError (List RiskBudgetAnchor) := do
  let globalAnchor ← (change locked.1).store arith
  let accountAnchor ← (change locked.2).store arith
  pure (Rows.update RiskBudgetAnchor.key (Rows.update RiskBudgetAnchor.key anchors locked.1.key fun _ => globalAnchor)
    locked.2.key fun _ => accountAnchor)

end AutoTrader.Ledger
