import AutoTrader.Ledger.Adoptions
import AutoTrader.Ledger.FillEffects
import AutoTrader.Ledger.Releases
import AutoTrader.Runtime.Runs

/-! The writers of the tables, one transaction at a time in any order. A transaction that
raises leaves the tables as they were. -/

namespace AutoTrader.Ledger

open AutoTrader.Dispatch AutoTrader.Domain AutoTrader.Execution AutoTrader.Runtime

inductive LedgerEvent
  | fill (event : BrokerExecutionEvent)
  | status (event : BrokerOrderStatusEvent)
  | release (orderId brokerId : UUID) (sourcePartition : String) (now : Instant)
  | checkpoint (key : StreamKey) (checkpoint : Checkpoint)
  | approve (decision : PersistedRiskDecision) (reservation : PersistedRiskReservation) (accountId : UUID)
      (currency : String)
  | createOrder (order : PersistedOrder) (event : PersistedOrderEvent)
  | accept (acceptance : Acceptance)
  | adopt (adoption : BrokerOpenOrderAdoption) (ids : AdoptionIds)

variable (arith : Arithmetic) (hashes : AdoptionHashes)

def perform (t : Tables) : LedgerEvent → Except PyError Tables
  | .fill event => (·.1) <$> applyEventOnce arith t event
  | .status event => (·.1) <$> applyStatusOnce t event
  | .release orderId brokerId sourcePartition now =>
    (·.1) <$> releaseIfComplete arith t orderId brokerId sourcePartition now
  | .checkpoint key checkpoint => recordClosedIntervalCheckpoint t key checkpoint
  | .approve decision reservation accountId currency => persistApproval arith t decision reservation accountId currency
  | .createOrder order event => createApprovedOrder arith t order event
  | .accept acceptance => linkAccepted t acceptance
  | .adopt adoption ids => (·.1) <$> adoptOpenOrder arith hashes t adoption ids

def step (t : Tables) (event : LedgerEvent) : Tables :=
  match perform arith hashes t event with
  | .ok after => after
  | .error _ => t

variable {arith hashes}

/-- A property of the tables that every transaction that succeeds keeps, every step keeps. -/
theorem step_keeps {I : Tables → Prop} {t : Tables} {event : LedgerEvent} (hs : I t)
    (h : ∀ after, perform arith hashes t event = .ok after → I after) : I (step arith hashes t event) := by
  unfold step
  split
  · rename_i after hafter
    exact h after hafter
  · exact hs

theorem step_ok {t after : Tables} {event : LedgerEvent} (h : perform arith hashes t event = .ok after) :
    step arith hashes t event = after := by
  unfold step
  rw [h]

theorem map_ok {ε α β : Type} {f : α → β} {x : Except ε α} {b : β} (h : f <$> x = .ok b) :
    ∃ a, x = .ok a ∧ f a = b := by
  cases x with
  | error e => cases h
  | ok a => exact ⟨a, rfl, Except.ok.inj h⟩

/-! ### A sample ledger -/

def rowUuid (n : Fin 256) : UUID := ⟨n, by have := n.isLt; omega⟩

theorem rat_three_pos : (0 : ℚ) < 3 := by norm_num

theorem rat_four_pos : (0 : ℚ) < 4 := by norm_num

theorem rat_five_pos : (0 : ℚ) < 5 := by norm_num

/-- An order of account 2 in instrument 4, under decision 5, that its broker acknowledged. -/
def sampleOrder (side : Side) (quantity : ℚ) : PersistedOrder where
  id := rowUuid 3
  orderIntentId := rowUuid 6
  riskDecisionId := rowUuid 5
  accountId := rowUuid 2
  instrumentId := rowUuid 4
  brokerClientOrderId := "client-1"
  side := side
  orderStyle := .market
  requestedQuantity := quantity
  filledQuantity := 0
  limitPrice := none
  triggerPrice := none
  status := .acknowledged
  aggregateVersion := 2
  createdAt := 0

def sampleLink (orderId : UUID) (status : String) : BrokerOrderLink where
  id := rowUuid 7
  orderId := orderId
  brokerId := rowUuid 1
  brokerOrderId := "B1"
  linkSequence := 1
  exposureBearing := true
  status := status

def sampleAnchor (scope : AnchorScope) (remaining : ℚ) : RiskBudgetAnchor where
  scope := scope
  currency := "USD"
  positionRiskAmount := 0
  remainingReservationAmount := remaining
  hardLimitAmount := 1000000
  rowVersion := 1

/-- An approved reservation of the sample decision. -/
def sampleReservation (amount : ℚ) : PersistedRiskReservation where
  riskDecisionId := rowUuid 5
  orderIntentId := rowUuid 6
  accountId := rowUuid 2
  currency := some "USD"
  settlementAsset := none
  initialRiskAmount := amount
  consumedRiskAmount := 0
  remainingRiskAmount := amount
  releasedRiskAmount := 0
  status := .active
  releaseReason := none

def sampleDecision (amount : ℚ) : PersistedRiskDecision where
  id := rowUuid 5
  orderIntentId := rowUuid 6
  outcome := .approve
  requestedQuantity := 1
  approvedQuantity := 1
  reservedRiskAmount := amount
  currency := "USD"
  decisionHash := 0

def noHashes : AdoptionHashes := ⟨fun _ => 0, fun _ => 0⟩

def noTables : Tables where
  intents := []
  diffs := []
  orders := []
  orderEvents := []
  links := []
  fills := []
  statusEvents := []
  statusMarks _ _ := none
  streams _ := .empty
  scopes _ := []
  book := ⟨[], [], [], 0⟩
  decisions := []
  reservations := []
  anchors := []
  incidents := []

/-- The orders with their links and the anchors of one account, and nothing else. -/
def sampleTables (orders : List PersistedOrder) (links : List BrokerOrderLink) : Tables :=
  { noTables with
    orders := orders
    links := links
    anchors := [sampleAnchor .global 0, sampleAnchor (.account (rowUuid 2)) 0] }

/-- The sample order with a reservation of the amount, charged to both anchors. -/
def sampleReserved (order : PersistedOrder) (amount : ℚ) : Tables :=
  { sampleTables [order] [sampleLink order.id "ACKNOWLEDGED"] with
    decisions := [sampleDecision amount]
    reservations := [sampleReservation amount]
    anchors := [sampleAnchor .global amount, sampleAnchor (.account (rowUuid 2)) amount] }

/-- A fill of an order of the sample account, at price one. -/
def sampleFill (orderId : UUID) (executionId : String) (side : Side) (quantity : ℚ) (h : 0 < quantity) :
    BrokerExecutionEvent where
  brokerId := rowUuid 1
  accountId := rowUuid 2
  orderId := orderId
  brokerOrderId := "B1"
  brokerExecutionId := executionId
  sourcePartition := "fills"
  sourceSequence := none
  instrumentId := rowUuid 4
  side := side
  quantity := quantity
  price := 1
  currency := "USD"
  executedAt := 10
  observedAt := 10
  payloadHash := 0
  terms := ⟨h, one_pos⟩

end AutoTrader.Ledger
