import AutoTrader.Execution.Orders
import AutoTrader.Ledger.Amounts

/-! The risk engine of the cash accounts: what it reads, what it refuses and what it reserves. -/

namespace AutoTrader.Risk

open AutoTrader.Domain AutoTrader.Execution AutoTrader.Ledger

structure LockedAccountSnapshot where
  accountId : UUID
  cash : ℚ
  buyingPower : ℚ
  currency : String
  capturedAt : Instant
  deriving DecidableEq

structure LockedPosition where
  instrumentId : UUID
  quantity : ℚ
  availableQuantity : ℚ
  averageCost : ℚ
  deriving DecidableEq

structure RiskBudgetAnchorView where
  scopeType : String
  scopeKey : String
  currency : String
  positionRiskAmount : ℚ
  remainingReservationAmount : ℚ
  hardLimitAmount : ℚ
  deriving DecidableEq

structure RiskSnapshotView where
  id : UUID
  accountId : UUID
  asOf : Instant
  currency : Option String
  dailyRealizedPnl : ℚ
  dailyUnrealizedPnl : ℚ
  drawdown : ℚ
  positionHash : Digest
  openOrderHash : Digest
  deriving DecidableEq

structure RiskQuote where
  instrumentId : UUID
  bid : ℚ
  ask : ℚ
  currency : String
  asOf : Instant
  deriving DecidableEq

/-- The ages are lengths of time in microseconds. -/
structure RiskPolicySnapshot where
  policyVersionId : UUID
  active : Bool
  maxTotalRisk : ℚ
  maxPositionValue : ℚ
  maxDailyLoss : ℚ
  maxDrawdown : ℚ
  maxSlippageBps : ℚ
  maxAccountSnapshotAge : Int
  maxRiskSnapshotAge : Int
  maxMarketDataAge : Int
  deriving DecidableEq

structure TradingControlSnapshot where
  tradingEnabled : Bool
  deriving DecidableEq

/-- The open orders and the reservations of the context are not read by the engine. -/
structure RiskContext where
  decisionAt : Instant
  accountSnapshot : LockedAccountSnapshot
  riskSnapshot : RiskSnapshotView
  positions : List LockedPosition
  budgetAnchors : List RiskBudgetAnchorView
  quote : RiskQuote
  activePolicy : RiskPolicySnapshot
  tradingControl : TradingControlSnapshot
  blockingIncidentCount : Int
  unresolvedUnknownCount : Int
  blockingReconciliationCount : Int
  positionHash : Digest
  openOrderHash : Digest
  deriving DecidableEq

/-- The hash stands for the canonical payload of the decision. -/
structure RiskDecision where
  id : UUID
  orderIntentId : UUID
  riskSnapshotId : UUID
  outcome : RiskOutcome
  requestedQuantity : ℚ
  reasonCodes : List String
  approvedQuantity : ℚ
  approvedLimitPrice : Option ℚ
  reservedRiskAmount : ℚ
  currency : String
  policyVersionId : UUID
  decidedAt : Instant
  decisionHash : Digest
  deriving DecidableEq

/-- The outcomes a reservation is made for. -/
def permits : RiskOutcome → Bool
  | .approve | .reduce => true
  | .reject | .observedBlocking => false

section Evaluation

variable (arith : Arithmetic) (intent : OrderIntent) (context : RiskContext)

/-- `_price`: the limit, or the quote moved by the slippage the policy grants. -/
def price : Except PyError ℚ :=
  if intent.orderStyle = .limit then
    match intent.limitPrice with
    | none => .error ⟨.assertionError, ""⟩
    | some limit => .ok limit.toRat
  else
    let slippage := arith.fix (context.activePolicy.maxSlippageBps / 10000)
    match intent.side with
    | .buy => .ok (arith.fix (context.quote.ask * arith.fix (1 + slippage)))
    | .sell => .ok (arith.fix (context.quote.bid * arith.fix (1 - slippage)))

/-- `item.instrument_id == intent.instrument_id`, the first of them. -/
def heldPosition : Option LockedPosition :=
  context.positions.find? fun item => item.instrumentId = intent.instrumentId

def globalAnchors : List RiskBudgetAnchorView :=
  context.budgetAnchors.filter fun anchor => anchor.scopeType = "GLOBAL" ∧ anchor.scopeKey = "GLOBAL"

def accountAnchors : List RiskBudgetAnchorView :=
  context.budgetAnchors.filter fun anchor =>
    anchor.scopeType = "ACCOUNT" ∧ anchor.scopeKey = String.ofList context.accountSnapshot.accountId.str

/-- `_matching_anchors`: one anchor of each scope, both in the currency of the snapshot. -/
def matchingAnchors : Option (RiskBudgetAnchorView × RiskBudgetAnchorView) :=
  match globalAnchors context, accountAnchors context with
  | [globalAnchor], [accountAnchor] =>
    if some globalAnchor.currency = context.riskSnapshot.currency ∧
        some accountAnchor.currency = context.riskSnapshot.currency then
      some (globalAnchor, accountAnchor)
    else none
  | _, _ => none

/-- The reason of the first condition that holds. -/
def firstReason (checks : List (Bool × String)) : Option String :=
  (checks.find? (·.1)).map (·.2)

/-- `_context_rejection`. -/
def contextRejection : Option String :=
  let policy := context.activePolicy
  firstReason [
    (intent.accountId ≠ context.accountSnapshot.accountId ∨ context.riskSnapshot.accountId ≠ intent.accountId,
      "ACCOUNT_SNAPSHOT_MISMATCH"),
    (policy.active = false, "INACTIVE_POLICY"),
    (min (min context.blockingIncidentCount context.blockingReconciliationCount) context.unresolvedUnknownCount < 0,
      "INVALID_BLOCKER_COUNT"),
    (context.tradingControl.tradingEnabled = false, "TRADING_CONTROL_BLOCKED"),
    (0 < context.blockingIncidentCount, "BLOCKING_INCIDENT"),
    (0 < context.blockingReconciliationCount, "BLOCKING_RECONCILIATION"),
    (0 < context.unresolvedUnknownCount, "UNRESOLVED_UNKNOWN"),
    (policy.maxAccountSnapshotAge < context.decisionAt - context.accountSnapshot.capturedAt, "STALE_ACCOUNT_SNAPSHOT"),
    (policy.maxRiskSnapshotAge < context.decisionAt - context.riskSnapshot.asOf, "STALE_RISK_SNAPSHOT"),
    (policy.maxMarketDataAge < context.decisionAt - context.quote.asOf, "STALE_QUOTE"),
    (context.quote.instrumentId ≠ intent.instrumentId, "QUOTE_INSTRUMENT_MISMATCH"),
    (context.quote.bid ≤ 0 ∨ context.quote.ask ≤ 0, "INVALID_QUOTE"),
    (policy.maxSlippageBps < 0 ∨ 10000 ≤ policy.maxSlippageBps, "INVALID_SLIPPAGE_POLICY"),
    (context.riskSnapshot.positionHash ≠ context.positionHash ∨
      context.riskSnapshot.openOrderHash ≠ context.openOrderHash, "RISK_SNAPSHOT_HASH_MISMATCH"),
    (some context.accountSnapshot.currency ≠ context.riskSnapshot.currency ∨
      some context.quote.currency ≠ context.riskSnapshot.currency, "CURRENCY_MISMATCH"),
    (matchingAnchors context = none, "BUDGET_ANCHOR_MISMATCH"),
    (policy.maxDailyLoss < -arith.fix (context.riskSnapshot.dailyRealizedPnl + context.riskSnapshot.dailyUnrealizedPnl),
      "DAILY_LOSS_LIMIT"),
    (policy.maxDrawdown < context.riskSnapshot.drawdown, "DRAWDOWN_LIMIT")]

/-- What an anchor comes to with the proposed amount, against the smaller of its limits. -/
def overAnchorLimit (proposed policyLimit : ℚ) (anchor : RiskBudgetAnchorView) : Bool :=
  min anchor.hardLimitAmount policyLimit <
    arith.fix (arith.fix (anchor.positionRiskAmount + anchor.remainingReservationAmount) + proposed)

/-- `_exceeds_anchor_limit`: any but two anchors exceed it. -/
def exceedsAnchorLimit (anchors : List RiskBudgetAnchorView) (proposed policyLimit : ℚ) : Bool :=
  anchors.length ≠ 2 || anchors.any (overAnchorLimit arith proposed policyLimit)

variable (newId : UUID) (hashOf : RiskOutcome → List String → ℚ → Digest)

def approvedQuantity (outcome : RiskOutcome) : ℚ :=
  if permits outcome then intent.quantity.toRat else 0

def approvedPrice (outcome : RiskOutcome) : Except PyError (Option ℚ) :=
  if 0 < approvedQuantity intent outcome then (price arith intent context).map some else .ok none

/-- `_decision`. -/
def decisionFor (outcome : RiskOutcome) (reason : Option String) (reserved : ℚ) : Except PyError RiskDecision :=
  (approvedPrice arith intent context outcome).map fun approvedPrice =>
    { id := newId
      orderIntentId := intent.id
      riskSnapshotId := context.riskSnapshot.id
      outcome := outcome
      requestedQuantity := intent.quantity.toRat
      reasonCodes := reason.toList
      approvedQuantity := approvedQuantity intent outcome
      approvedLimitPrice := approvedPrice
      reservedRiskAmount := reserved
      currency := context.riskSnapshot.currency.getD context.accountSnapshot.currency
      policyVersionId := context.activePolicy.policyVersionId
      decidedAt := context.decisionAt
      decisionHash := hashOf outcome reason.toList reserved }

/-- What the position is worth at the price. -/
def currentValue (price : ℚ) : ℚ :=
  match heldPosition intent context with
  | none => 0
  | some position => arith.fix (position.quantity * price)

/-- What refuses a purchase of the reserved amount at the price. -/
def purchaseRejection (price reserved : ℚ) : Option String :=
  firstReason [
    (match heldPosition intent context with
      | none => false
      | some position => 0 < position.quantity ∧ price < position.averageCost, "AVERAGING_DOWN_BLOCKED"),
    (context.accountSnapshot.cash < reserved ∨ context.accountSnapshot.buyingPower < reserved, "INSUFFICIENT_CASH"),
    (context.activePolicy.maxPositionValue < arith.fix (currentValue arith intent context price + reserved),
      "CONCENTRATION_LIMIT"),
    (exceedsAnchorLimit arith context.budgetAnchors reserved context.activePolicy.maxTotalRisk, "TOTAL_OPEN_RISK_LIMIT")]

/-- The position of a sale that has the quantity to sell. -/
def sellable : Bool :=
  (heldPosition intent context).any fun position => intent.quantity.toRat ≤ position.availableQuantity

def evaluate : Except PyError RiskDecision :=
  match contextRejection arith intent context with
  | some reason => decisionFor arith intent context newId hashOf .reject (some reason) 0
  | none =>
    price arith intent context >>= fun price =>
      match intent.side with
      | .sell =>
        if sellable intent context then decisionFor arith intent context newId hashOf .reduce none 0
        else decisionFor arith intent context newId hashOf .reject (some "INSUFFICIENT_SELLABLE_QUANTITY") 0
      | .buy =>
        let reserved := arith.fix (intent.quantity.toRat * price)
        match purchaseRejection arith intent context price reserved with
        | some reason => decisionFor arith intent context newId hashOf .reject (some reason) 0
        | none => decisionFor arith intent context newId hashOf .approve none reserved

end Evaluation

end AutoTrader.Risk
