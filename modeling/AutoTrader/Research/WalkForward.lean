import AutoTrader.Domain.CompletedOhlcv
import AutoTrader.Runtime.Alike
import AutoTrader.Runtime.Pointwise
import AutoTrader.Strategy.DecisionHash
import Mathlib.Data.Prod.Lex

/-! Walk-forward evidence of the V6 strategy: decisions are filled at the exact next bar, window by window, and the
profits and costs of the windows are summed in the digits of the context. -/

namespace AutoTrader.Research

open AutoTrader.Domain AutoTrader.Execution AutoTrader.Numeric AutoTrader.Runtime AutoTrader.Strategy AutoTrader.Trader

open PyText (points)

/-! ### The records -/

/-- What a decision was filled at. -/
structure BacktestFill where
  filledAt : Instant
  price : Decimal
  closePrice : Decimal
  sourceDigest : Digest

/-- A fill, or the instant at which a bar was missing. -/
inductive BarFill
  | filled (fill : BacktestFill)
  | noFill (expectedAt : Instant)

namespace BarFill

def fill? : BarFill → Option BacktestFill
  | .filled fill => some fill
  | .noFill _ => none

end BarFill

/-- A `CostModel`: a cost comes with the digest of its source. -/
structure CostModel where
  timeframe : ℤ
  roundTripCostPerUnit : Option Decimal
  costSourceDigest : Option Digest
  barSourceDigest : Digest
  timeframe_pos : 0 < timeframe
  cost_nonneg : ∀ cost ∈ roundTripCostPerUnit, 0 ≤ cost.toRat
  supported : roundTripCostPerUnit.isSome = costSourceDigest.isSome

/-- A `WalkForwardWindow`. -/
structure WalkForwardWindow where
  trainStartedAt : UtcDatetime
  trainEndedAt : UtcDatetime
  testStartedAt : UtcDatetime
  testEndedAt : UtcDatetime
  train_positive : trainStartedAt.instant < trainEndedAt.instant
  test_positive : testStartedAt.instant < testEndedAt.instant
  apart : trainEndedAt.instant ≤ testStartedAt.instant

structure WalkForwardResult where
  window : WalkForwardWindow
  state : EvidenceState
  sampleCount : ℕ
  grossPnl : Option Decimal
  totalCost : Option Decimal
  netPnl : Option Decimal
  unsupportedReasonCodes : List String
  sourceDigest : Digest

/-- `WalkForwardPromotionEvidence`. The two quotients are kept as their numbers. -/
structure WalkForwardPromotionEvidence where
  state : EvidenceState
  windows : List WalkForwardResult
  sampleCount : ℕ
  grossPnl : Option Decimal
  totalCost : Option Decimal
  netPnl : Option Decimal
  positiveWindowFraction : Option ℚ
  profitFactor : Option ℚ
  unsupportedReasonCodes : List String
  sourceDigests : List Digest
  artifactDigest : Digest
  capturedAt : UtcDatetime

/-! ### Documents -/

/-- `canonical_v6_hash`. -/
def canonicalV6Hash (sha256 : String → Digest) (document : PyJson) : Except PyError Digest := do
  let text ← document.dumps.encode
  pure (sha256 text)

def canonicalBar (bar : CompletedOhlcvBar) : PyJson :=
  .obj
    [(points "timestamp", .str (points (isoformat bar.timestamp))),
      (points "open", canonicalDecimal bar.open_),
      (points "high", canonicalDecimal bar.high),
      (points "low", canonicalDecimal bar.low),
      (points "close", canonicalDecimal bar.close),
      (points "volume", canonicalDecimal bar.volume)]

def canonicalWindow (window : WalkForwardWindow) : PyJson :=
  .obj
    [(points "train_started_at", canonicalDatetime window.trainStartedAt),
      (points "train_ended_at", canonicalDatetime window.trainEndedAt),
      (points "test_started_at", canonicalDatetime window.testStartedAt),
      (points "test_ended_at", canonicalDatetime window.testEndedAt)]

def canonicalText (value : String) : PyJson := .str (points value)

def canonicalResult (result : WalkForwardResult) : PyJson :=
  .obj
    [(points "window", canonicalWindow result.window),
      (points "state", canonicalEnum result.state.value),
      (points "sample_count", .int result.sampleCount),
      (points "gross_pnl", PyJson.optional canonicalDecimal result.grossPnl),
      (points "total_cost", PyJson.optional canonicalDecimal result.totalCost),
      (points "net_pnl", PyJson.optional canonicalDecimal result.netPnl),
      (points "unsupported_reason_codes", PyJson.tuple canonicalText result.unsupportedReasonCodes),
      (points "source_digest", canonicalBytes result.sourceDigest)]

/-! ### Canonical inputs -/

/-- `a == b` of bars. -/
@[mk_iff] structure BarsEqual (a b : CompletedOhlcvBar) : Prop where
  timestamp : a.timestamp = b.timestamp
  open_ : a.open_.toRat = b.open_.toRat
  high : a.high.toRat = b.high.toRat
  low : a.low.toRat = b.low.toRat
  close : a.close.toRat = b.close.toRat
  volume : a.volume.toRat = b.volume.toRat

instance (a b : CompletedOhlcvBar) : Decidable (BarsEqual a b) := decidable_of_iff _ (barsEqual_iff a b).symm

/-- `a == b` of decisions. -/
@[mk_iff] structure DecisionsEqual (a b : ValidDecision) : Prop where
  id : a.id = b.id
  strategyVersionId : a.strategyVersionId = b.strategyVersionId
  setupId : a.setupId = b.setupId
  featureSnapshotId : a.featureSnapshotId = b.featureSnapshotId
  instrumentId : a.instrumentId = b.instrumentId
  market : a.market = b.market
  family : a.family = b.family
  grade : a.grade = b.grade
  side : a.side = b.side
  orderStyle : a.orderStyle = b.orderStyle
  matchedIndicators : a.matchedIndicators = b.matchedIndicators
  blockers : a.blockers = b.blockers
  plannedEntry : a.plannedEntry.map Decimal.toRat = b.plannedEntry.map Decimal.toRat
  structuralStop : a.structuralStop.map Decimal.toRat = b.structuralStop.map Decimal.toRat
  targetPrice : a.targetPrice.map Decimal.toRat = b.targetPrice.map Decimal.toRat
  riskFraction : a.riskFraction.toRat = b.riskFraction.toRat
  calculatedQuantity : a.calculatedQuantity.toRat = b.calculatedQuantity.toRat
  expectedCost : a.expectedCost.map Decimal.toRat = b.expectedCost.map Decimal.toRat
  sourceEvidenceHashes : a.sourceEvidenceHashes = b.sourceEvidenceHashes
  exhaustionTimeframe : a.exhaustionTimeframe = b.exhaustionTimeframe
  completedEvidenceAt : a.completedEvidenceAt = b.completedEvidenceAt
  generatedAt : a.generatedAt = b.generatedAt
  validUntil : a.validUntil = b.validUntil

instance (a b : ValidDecision) : Decidable (DecisionsEqual a b) := decidable_of_iff _ (decisionsEqual_iff a b).symm

def barCollision : PyError := ⟨.valueError, "completed bar timestamp payload collision"⟩

def decisionCollision : PyError := ⟨.valueError, "v6 decision identity payload collision"⟩

def windowsOverlap : PyError := ⟨.valueError, "walk-forward test windows cannot overlap"⟩

/-- `_bars`. -/
def canonicalBars (values : List CompletedOhlcvBar) : Except PyError (List CompletedOhlcvBar) :=
  arrange CompletedOhlcvBar.timestamp BarsEqual CompletedOhlcvBar.timestamp barCollision values

/-- What decisions are sorted by. -/
def decisionOrder (decision : ValidDecision) : Instant ×ₗ ℕ := toLex (decision.generatedAt.instant, decision.id.int)

/-- `_decisions`. -/
def canonicalDecisions (values : List ValidDecision) : Except PyError (List ValidDecision) :=
  arrange (fun decision => decision.id) DecisionsEqual decisionOrder decisionCollision values

/-- Two neighbours overlap. -/
def anyOverlap : List WalkForwardWindow → Bool
  | previous :: current :: rest =>
    decide (current.testStartedAt.instant < previous.testEndedAt.instant) || anyOverlap (current :: rest)
  | _ => false

/-- `_windows`. -/
def canonicalWindows (values : List WalkForwardWindow) : Except PyError (List WalkForwardWindow) :=
  let canonical := inOrder (fun window : WalkForwardWindow => window.testStartedAt.instant) values
  if anyOverlap canonical then .error windowsOverlap else .ok canonical

/-- `_source_digests`. -/
def sourceDigests (decisions : List ValidDecision) (cost : CostModel) : List Digest :=
  inOrder BitVec.toNat (cost.barSourceDigest :: (decisions.flatMap (·.sourceEvidenceHashes) ++
    cost.costSourceDigest.toList)).dedup

/-! ### Fills -/

/-- `moment + delta`. -/
def addDelta (moment : Instant) (delta : ℤ) : Except PyError Instant :=
  if IsDatetime (moment + delta) then .ok (moment + delta) else .error ⟨.overflowError, "date value out of range"⟩

section Evidence

variable (sha256 : String → Digest)

def exactNextBarFill (signalAt : Instant) (timeframe : ℤ) (bars : List CompletedOhlcvBar) : Except PyError BarFill := do
  let canonical ← canonicalBars bars
  let expected ← addDelta signalAt timeframe
  match canonical.find? fun bar => decide (bar.timestamp = expected) with
  | none => pure (.noFill expected)
  | some bar => do
    let digest ← canonicalV6Hash sha256 (canonicalBar bar)
    pure (.filled
      { filledAt := bar.timestamp
        price := bar.open_
        closePrice := bar.close
        sourceDigest := digest })

/-- The decision was generated in the test window. -/
def InTest (window : WalkForwardWindow) (decision : ValidDecision) : Prop :=
  window.testStartedAt.instant ≤ decision.generatedAt.instant ∧
    decision.generatedAt.instant < window.testEndedAt.instant

instance (window : WalkForwardWindow) (decision : ValidDecision) : Decidable (InTest window decision) :=
  inferInstanceAs (Decidable (_ ∧ _))

/-- The condition on the decisions of a window. The deadline is only computed for those generated in it. -/
def selects (cost : CostModel) (window : WalkForwardWindow) (decision : ValidDecision) : Except PyError Bool :=
  if decision.grade ≠ .reject ∧ InTest window decision then do
    let deadline ← addDelta decision.generatedAt.instant cost.timeframe
    pure (decide (deadline ≤ window.testEndedAt.instant))
  else .ok false

/-- The decisions of a window. -/
def selectDecisions (cost : CostModel) (window : WalkForwardWindow) :
    List ValidDecision → Except PyError (List ValidDecision)
  | [] => .ok []
  | decision :: decisions => do
    let selected ← selects cost window decision
    let rest ← selectDecisions cost window decisions
    pure (if selected then decision :: rest else rest)

/-- `sum(values, start=Decimal(0))`. -/
def decimalSum (values : List Decimal) : Decimal := values.foldl Decimal.add (.ofNat 0)

def grossPnl (decision : ValidDecision) (fill : BacktestFill) : Decimal :=
  let direction := if decision.side = .buy then Decimal.ofNat 1 else ⟨true, 1, 0⟩
  ((fill.closePrice.sub fill.price).mul direction).mul decision.calculatedQuantity

def unsupportedResult (window : WalkForwardWindow) (state : EvidenceState) (reason : String) :
    Except PyError WalkForwardResult := do
  let digest ← canonicalV6Hash sha256 (.arr [canonicalWindow window, canonicalEnum state.value, canonicalText reason])
  pure
    { window := window
      state := state
      sampleCount := 0
      grossPnl := none
      totalCost := none
      netPnl := none
      unsupportedReasonCodes := [reason]
      sourceDigest := digest }

/-- A decision with what it was filled at. -/
def fillDecision (cost : CostModel) (bars : List CompletedOhlcvBar) (decision : ValidDecision) :
    Except PyError (ValidDecision × BarFill) := do
  let fill ← exactNextBarFill sha256 decision.generatedAt.instant cost.timeframe bars
  pure (decision, fill)

/-- The fills, when none is missing. -/
def typedFills (fills : List (ValidDecision × BarFill)) : Option (List (ValidDecision × BacktestFill)) :=
  fills.mapM fun pair => pair.2.fill?.map fun fill => (pair.1, fill)

/-- The result of a window whose decisions were all filled. -/
def filledResult (window : WalkForwardWindow) (cost : CostModel) (costPerUnit : Decimal)
    (typed : List (ValidDecision × BacktestFill)) : Except PyError WalkForwardResult := do
  let gross := decimalSum (typed.map fun pair => grossPnl pair.1 pair.2)
  let costs := decimalSum (typed.map fun pair => costPerUnit.mul pair.1.calculatedQuantity)
  let hashes ← typed.mapM fun pair => pair.1.decisionHash sha256
  let digest ← canonicalV6Hash sha256
    (.arr
      [canonicalWindow window,
        PyJson.tuple canonicalBytes hashes,
        PyJson.tuple canonicalBytes (typed.map fun pair => pair.2.sourceDigest),
        PyJson.optional canonicalBytes cost.costSourceDigest,
        canonicalDecimal gross,
        canonicalDecimal costs])
  pure
    { window := window
      state := .available
      sampleCount := typed.length
      grossPnl := some gross
      totalCost := some costs
      netPnl := some (gross.sub costs)
      unsupportedReasonCodes := []
      sourceDigest := digest }

/-- `_run_window`, once the cost of a unit is known. -/
def runWindow (decisions : List ValidDecision) (bars : List CompletedOhlcvBar) (cost : CostModel)
    (costPerUnit : Decimal) (window : WalkForwardWindow) : Except PyError WalkForwardResult := do
  let selected ← selectDecisions cost window decisions
  if selected.isEmpty then unsupportedResult sha256 window .notApplicable "NO_TEST_DECISIONS"
  else do
    let fills ← selected.mapM (fillDecision sha256 cost bars)
    match typedFills fills with
    | none => unsupportedResult sha256 window .unknown "MISSING_EXACT_NEXT_BAR"
    | some typed => filledResult sha256 window cost costPerUnit typed

/-! ### The evidence -/

def unsupportedEvidence (state : EvidenceState) (windows : List WalkForwardResult) (reasons : List String)
    (digests : List Digest) (capturedAt : UtcDatetime) : Except PyError WalkForwardPromotionEvidence := do
  let artifact ← canonicalV6Hash sha256
    (.arr
      [canonicalEnum state.value,
        PyJson.tuple canonicalResult windows,
        PyJson.tuple canonicalText reasons,
        PyJson.tuple canonicalBytes digests,
        canonicalDatetime capturedAt])
  pure
    { state := state
      windows := windows
      sampleCount := 0
      grossPnl := none
      totalCost := none
      netPnl := none
      positiveWindowFraction := none
      profitFactor := none
      unsupportedReasonCodes := reasons
      sourceDigests := digests
      artifactDigest := artifact
      capturedAt := capturedAt }

/-- The decimals of results that have them. -/
def present (read : WalkForwardResult → Option Decimal) (results : List WalkForwardResult) : List Decimal :=
  results.filterMap read

/-- The evidence of windows that are all available. -/
def availableEvidence (results : List WalkForwardResult) (digests : List Digest) (capturedAt : UtcDatetime) :
    Except PyError WalkForwardPromotionEvidence := do
  let gross := decimalSum (present (·.grossPnl) results)
  let costs := decimalSum (present (·.totalCost) results)
  let windowNet := present (·.netPnl) results
  let winners := windowNet.filter fun value => decide (0 < value.toRat)
  let positive := (decimalSum winners).toRat
  let negative := |(decimalSum (windowNet.filter fun value => decide (value.toRat < 0))).toRat|
  let artifact ← canonicalV6Hash sha256
    (.arr
      [canonicalEnum EvidenceState.available.value,
        PyJson.tuple canonicalResult results,
        PyJson.tuple canonicalBytes digests,
        canonicalDatetime capturedAt])
  pure
    { state := .available
      windows := results
      sampleCount := (results.map (·.sampleCount)).sum
      grossPnl := some gross
      totalCost := some costs
      netPnl := some (gross.sub costs)
      positiveWindowFraction := some (roundSig 28 ((winners.length : ℚ) / results.length))
      profitFactor := if 0 < negative then some (roundSig 28 (positive / negative)) else none
      unsupportedReasonCodes := []
      sourceDigests := digests
      artifactDigest := artifact
      capturedAt := capturedAt }

/-- The state of the evidence, by the states of its windows. -/
def overallState (results : List WalkForwardResult) : EvidenceState :=
  if results.any fun result => decide (result.state = .unknown) then .unknown
  else if results.any fun result => decide (result.state ≠ .available) then .notApplicable
  else .available

/-- The evidence of the results. -/
def evidenceOf (results : List WalkForwardResult) (digests : List Digest) (capturedAt : UtcDatetime) :
    Except PyError WalkForwardPromotionEvidence :=
  if overallState results ≠ .available then
    unsupportedEvidence sha256 (overallState results) results
      (inOrder id (results.flatMap (·.unsupportedReasonCodes)).dedup) digests capturedAt
  else availableEvidence sha256 results digests capturedAt

/-- The evidence when one thing keeps every window from being run. -/
def nothingRun (windows : List WalkForwardWindow) (reason : String) (digests : List Digest) (capturedAt : UtcDatetime) :
    Except PyError WalkForwardPromotionEvidence := do
  let results ← windows.mapM fun window => unsupportedResult sha256 window .notApplicable reason
  unsupportedEvidence sha256 .notApplicable results [reason] digests capturedAt

theorem datetimeMin_valid : IsDatetime (-62135596800000000) := by decide

/-- `datetime.min.replace(tzinfo=UTC)`. -/
def datetimeMin : UtcDatetime := ⟨_, datetimeMin_valid⟩

def runWalkForward (decisions : List ValidDecision) (bars : List CompletedOhlcvBar) (windows : List WalkForwardWindow)
    (cost : CostModel) : Except PyError WalkForwardPromotionEvidence := do
  let decisions ← canonicalDecisions decisions
  let bars ← canonicalBars bars
  let windows ← canonicalWindows windows
  let capturedAt := (windows.getLast?.map (·.testEndedAt)).getD datetimeMin
  let digests := sourceDigests decisions cost
  if windows.isEmpty then
    unsupportedEvidence sha256 .notApplicable [] ["NO_WALK_FORWARD_WINDOWS"] digests capturedAt
  else
    match cost.roundTripCostPerUnit with
    | none => nothingRun sha256 windows "UNSUPPORTED_COST_MODEL" digests capturedAt
    | some costPerUnit =>
      if bars.isEmpty then nothingRun sha256 windows "UNSUPPORTED_BAR_DATA" digests capturedAt
      else do
        let results ← windows.mapM (runWindow sha256 decisions bars cost costPerUnit)
        evidenceOf sha256 results digests capturedAt

end Evidence

end AutoTrader.Research
