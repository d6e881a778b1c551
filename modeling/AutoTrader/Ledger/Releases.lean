import AutoTrader.Ledger.StatusEvents

/-! Releasing what a finished order left reserved, on fresh proof that every execution of it
is known. -/

namespace AutoTrader.Ledger

open AutoTrader.Dispatch AutoTrader.Domain AutoTrader.Execution AutoTrader.Runtime

structure ExecutionCompletenessProof where
  brokerOrderIds : List String
  brokerClientOrderIds : List String
  coveredFromAt : Option Instant
  coveredThroughAt : Option Instant
  paginationComplete : Bool
  hasGap : Bool
  expiresAt : Instant

def isTerminalWindowComplete (proof : Option ExecutionCompletenessProof) (brokerOrderIds : List String)
    (brokerClientOrderIds : List String) (firstPossibleAcceptanceAt terminalAt now : Instant) : Bool :=
  match proof with
  | none => false
  | some proof =>
    if proof.hasGap || !proof.paginationComplete then false
    else if proof.expiresAt ≤ now then false
    else match proof.coveredFromAt, proof.coveredThroughAt with
      | some coveredFrom, some coveredThrough =>
        if firstPossibleAcceptanceAt < coveredFrom ∨ coveredThrough < terminalAt then false
        else
          brokerOrderIds.all (proof.brokerOrderIds.contains ·) &&
            brokerClientOrderIds.all (proof.brokerClientOrderIds.contains ·)
      | _, _ => false

/-- The reason not to release, `none` when there is none. -/
def decideTerminalRelease (links : List BrokerOrderLinkState) (proof : Option ExecutionCompletenessProof)
    (brokerClientOrderIds : List String) (firstPossibleAcceptanceAt terminalAt now : Instant) : Option String :=
  let exposure := links.filter (·.exposureBearing)
  if exposure.isEmpty || !allExposureLinksTerminal links then some "LIVE_EXPOSURE_LINK"
  else if isTerminalWindowComplete proof (exposure.map (·.brokerOrderId)) brokerClientOrderIds
      firstPossibleAcceptanceAt terminalAt now then none
  else some "TERMINAL_RELEASE_PENDING"

/-- `ExecutionWatermarkRepository.terminal_completeness_proof`. -/
def terminalCompletenessProof (t : Tables) (key : StreamKey) : Option ExecutionCompletenessProof :=
  (t.streams key).watermark.map fun w =>
    { brokerOrderIds := (t.scopes key).filterMap fun | .brokerOrderId text => some text | _ => none
      brokerClientOrderIds := (t.scopes key).filterMap fun | .brokerClientOrderId text => some text | _ => none
      coveredFromAt := w.coveredFromAt
      coveredThroughAt := w.coveredThroughAt
      paginationComplete := w.paginationComplete
      hasGap := w.hasGap
      expiresAt := w.expiresAt }

/-- A checkpoint of a closed interval, with the exact ids it asked for. -/
structure Checkpoint where
  brokerOrderIds : List String
  brokerClientOrderIds : List String
  coveredFromAt : Instant
  coveredThroughAt : Instant
  paginationComplete : Bool
  hasGap : Bool
  expiresAt : Instant
  evidenceHash : Digest

/-- `ExecutionWatermarkRepository.record_closed_interval_checkpoint`. -/
def recordClosedIntervalCheckpoint (t : Tables) (key : StreamKey) (c : Checkpoint) : Except PyError Tables :=
  let accept := fun (w : PersistedExecutionWatermark) =>
    { t with
      streams := Function.update t.streams key { t.streams key with watermark := some w }
      scopes := Function.update t.scopes key
        (c.brokerOrderIds.map .brokerOrderId ++ c.brokerClientOrderIds.map .brokerClientOrderId) }
  let fresh : PersistedExecutionWatermark :=
    { contiguousThroughSequence := none
      hasGap := c.hasGap
      coveredFromAt := some c.coveredFromAt
      coveredThroughAt := some c.coveredThroughAt
      paginationComplete := c.paginationComplete
      evidenceHash := c.evidenceHash
      expiresAt := c.expiresAt
      rowVersion := 1 }
  if c.coveredThroughAt < c.coveredFromAt ∨ c.expiresAt ≤ c.coveredThroughAt then
    .error ⟨.valueError, "checkpoint interval and expiry are invalid"⟩
  else if c.paginationComplete && c.brokerOrderIds.isEmpty && c.brokerClientOrderIds.isEmpty then
    .error ⟨.valueError, "complete checkpoint requires exact broker or client scope"⟩
  else match (t.streams key).watermark with
    | none => .ok (accept fresh)
    | some w =>
      if w.coveredThroughAt.any fun through => c.coveredThroughAt < through then .ok t
      else
        .ok (accept
          { fresh with
            contiguousThroughSequence := w.contiguousThroughSequence
            hasGap := c.hasGap || hasOpenGap (t.streams key).gaps
            rowVersion := w.rowVersion + 1 })

structure TerminalReleaseApplication where
  released : Bool
  reason : Option String
  deriving DecidableEq

/-- When an order ended last, by its event rows. -/
def terminalAt (t : Tables) (orderId : UUID) : Option Instant :=
  ((t.orderEvents.filter fun e => e.orderId = orderId && e.status.isTerminal).map (·.occurredAt)).max?

/-- An anchor after a release, before it is written. -/
def RiskBudgetAnchor.release (anchor : RiskBudgetAnchor) (arith : Arithmetic) (released : ℚ) : RiskBudgetAnchor :=
  { anchor with
    remainingReservationAmount := arith.fix (anchor.remainingReservationAmount - released)
    rowVersion := anchor.rowVersion + 1 }

/-- The error of a release the anchors do not cover. -/
def anchorUnderflow : PyError :=
  ⟨.valueError, "risk budget anchor cannot release more than reserved"⟩

variable (arith : Arithmetic)

/-- The writes of a release. -/
def release (t : Tables) (anchors : RiskBudgetAnchor × RiskBudgetAnchor) (reservation : PersistedRiskReservation) :
    Except PyError Tables := do
  let released := reservation.remainingRiskAmount
  if anchors.1.remainingReservationAmount < released ∨ anchors.2.remainingReservationAmount < released then
    throw anchorUnderflow
  let written ← writeAnchors arith t.anchors anchors (·.release arith released)
  let stored ← PersistedRiskReservation.store arith
    { reservation with
      remainingRiskAmount := 0
      releasedRiskAmount := arith.fix (reservation.releasedRiskAmount + released)
      status := .released
      releaseReason := some "BROKER_TERMINAL_EXECUTION_COMPLETE" }
  pure
    { t with
      anchors := written
      reservations := Rows.update PersistedRiskReservation.riskDecisionId t.reservations reservation.riskDecisionId
        fun _ => stored }

/-- `MySqlTerminalReleaseStore.release_if_complete`. -/
def releaseIfComplete (t : Tables) (orderId brokerId : UUID) (sourcePartition : String) (now : Instant) :
    Except PyError (Tables × TerminalReleaseApplication) :=
  match t.order? orderId with
  | none => .error ⟨.lookupError, "canonical order not found"⟩
  | some order =>
    match t.decisions.find? (·.id = order.riskDecisionId) with
    | none => .error ⟨.lookupError, "risk decision not found"⟩
    | some decision =>
      match lockGlobalAndAccount t.anchors order.accountId decision.currency with
      | none => .error ⟨.valueError, "risk budget anchors are required for terminal release"⟩
      | some anchors =>
        let links := t.linksInOrder order.id
        if links.isEmpty || links.any (·.brokerId ≠ brokerId) then .ok (t, ⟨false, some "LINK_SCOPE_UNPROVEN"⟩)
        else match t.reservation? order.riskDecisionId with
          | none => .error ⟨.lookupError, "risk reservation not found"⟩
          | some reservation =>
            match terminalAt t order.id with
            | none => .ok (t, ⟨false, some "LIVE_EXPOSURE_LINK"⟩)
            | some endedAt => do
              let states ← links.mapM linkState
              match decideTerminalRelease states
                  (terminalCompletenessProof t ⟨brokerId, order.accountId, sourcePartition⟩)
                  [order.brokerClientOrderId] order.createdAt endedAt now with
              | some reason => pure (t, ⟨false, some reason⟩)
              | none =>
                if reservation.remainingRiskAmount = 0 then pure (t, ⟨false, none⟩)
                else
                  let t ← release arith t anchors reservation
                  pure (t, ⟨true, none⟩)

end AutoTrader.Ledger
