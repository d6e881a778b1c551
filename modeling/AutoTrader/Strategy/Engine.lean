import AutoTrader.Strategy.Decision

/-! `evaluate_v6`: the blockers of the evidence, the grade, the risk, and the decision. -/

namespace AutoTrader.Strategy

open AutoTrader.Domain AutoTrader.Execution AutoTrader.Ledger AutoTrader.Trader

/-! ### The manifest -/

def v6SourceSha256 : Digest := 0x202f7727b1625a07652e6f5c0d826229e4afaa9ab50ab9012bf69138d85fe684

def v6DesignSha256 : Digest := 0x6eb312fddb74db395806015463606db0968877d459db65053bec7bbca9e848a2

/-- `v6_configuration_hash()` of the configuration manifest. -/
def v6ConfigurationHash : Digest := 0xad704c7128f9c60d844924305419cb4fbda0094118e60ead6f92c37d04d36088

structure V6Manifest where
  id : UUID
  strategyVersionId : UUID
  sourceSha256 : Digest
  designSha256 : Digest
  configurationHash : Digest
  registeredAt : Instant
  id_version : id.isVersion7 = true
  strategy_version : strategyVersionId.isVersion7 = true
  source_hash : sourceSha256 = v6SourceSha256
  design_hash : designSha256 = v6DesignSha256
  configuration_hash : configurationHash = v6ConfigurationHash
  whole_second : registeredAt % 10 ^ 6 = 0

/-! ### The evidence a decision needs -/

/-- `_required_keys`. -/
def requiredKeys (market : V6Market) (family : StrategyFamily) : List FactKey :=
  [.regime, .calendar, .session, .costs] ++
    match family, market with
    | .metodo, _ => [.universe, .metodo]
    | .hlit, .binanceUsdm => [.zones, .divergence, .exhaustion, .orderFlow, .profile]
    | .hlit, _ => [.universe, .zones, .divergence, .exhaustion]

/-- `sorted(required)`. -/
def sortedKeys (required : List FactKey) : List FactKey :=
  FactKey.inOrder.filter fun key => key ∈ required

/-- `valid_values.get(key)`: the value of a required item that is available and has its type. -/
def validValue (bundle : V6EvidenceBundle) (required : List FactKey) (key : FactKey) : Option FactValue :=
  if key ∈ required ∧ (bundle.item key).state = .available then
    (bundle.item key).value.filter fun value => value.key = some key
  else none

def stateBlockers (bundle : V6EvidenceBundle) (required : List FactKey) : List String :=
  (sortedKeys required).flatMap fun key =>
    let item := bundle.item key
    blockIf (item.state ≠ .available) (item.blockerCode.getD (key.upper ++ "_" ++ item.state.value))

def typeBlockers (bundle : V6EvidenceBundle) (required : List FactKey) : List String :=
  (sortedKeys required).flatMap fun key =>
    blockIf ((bundle.item key).state = .available ∧ validValue bundle required key = none)
      (key.upper ++ "_VALUE_INVALID")

/-- The facts whose own state is read. -/
def statefulKeys : List FactKey := [.regime, .orderFlow, .profile, .calendar, .session, .costs]

def innerBlockers (bundle : V6EvidenceBundle) (required : List FactKey) : List String :=
  statefulKeys.flatMap fun key =>
    match (validValue bundle required key).bind FactValue.innerState with
    | none => []
    | some state => blockIf (state ≠ .available) (key.upper ++ "_FACT_" ++ state.value)

/-- The table `checks`. -/
def checkBlockers (bundle : V6EvidenceBundle) (required : List FactKey) : List String :=
  (match validValue bundle required .universe with
    | some (.universe facts) => blockIf (facts.eligible ≠ true) "UNIVERSE_INELIGIBLE"
    | _ => []) ++
  (match validValue bundle required .regime with
    | some (.regime facts) => blockIf (facts.excluded ≠ false) "REGIME_EXCLUDED"
    | _ => []) ++
  (match validValue bundle required .calendar with
    | some (.calendar facts) => blockIf (facts.blockNewExposure ≠ false) "CALENDAR_BLOCKED"
    | _ => []) ++
  (match validValue bundle required .session with
    | some (.session facts) => blockIf (facts.entryAllowed ≠ true) "SESSION_ENTRY_BLOCKED"
    | _ => [])

/-- Whether the regime is at a pessimism extreme. -/
def pessimismExtreme (bundle : V6EvidenceBundle) (required : List FactKey) : Bool :=
  match validValue bundle required .regime with
  | some (.regime facts) => facts.pessimismExtreme = some true
  | _ => false

/-- `_metodo_blocker`: signals A and B always, signal C at a pessimism extreme. -/
def metodoBlockers (bundle : V6EvidenceBundle) (required : List FactKey) : List String :=
  match validValue bundle required .metodo with
  | some (.metodo facts) =>
    blockIf (¬(facts.normalTechnicalConfirmation = true ∨
      (facts.trendUp = true ∧ facts.macdCrossUpBelowZero = true ∧ pessimismExtreme bundle required = true)))
      "METODO_GATE_FAILED"
  | _ => []

/-- `_REGULAR_KIND`. -/
def regularKind : Side → DivergenceKind
  | .buy => .regularBullish
  | .sell => .regularBearish

def divergenceBlockers (bundle : V6EvidenceBundle) (required : List FactKey) (side : Side) : List String :=
  match validValue bundle required .divergence with
  | some (.divergence facts) =>
    blockIf (¬∃ signal ∈ facts.regular, signal.kind = regularKind side) "REGULAR_DIVERGENCE_ABSENT"
  | _ => []

def zoneBlockers (bundle : V6EvidenceBundle) (required : List FactKey) : List String :=
  match validValue bundle required .zones with
  | some (.zones facts) => blockIf (facts.zones = []) "NO_MARKED_ZONE"
  | _ => []

/-- The sequence of the side that is traded. -/
def ExhaustionFacts.sequence (facts : ExhaustionFacts) : Side → Option ExhaustionSequence
  | .buy => facts.bullish
  | .sell => facts.bearish

def exhaustionBlockers (bundle : V6EvidenceBundle) (required : List FactKey) (side : Side) : List String :=
  match validValue bundle required .exhaustion with
  | some (.exhaustion facts) =>
    match facts.sequence side with
    | none => ["EXHAUSTION_ABSENT"]
    | some sequence =>
      if sequence.direction ≠ side then ["EXHAUSTION_DIRECTION_MISMATCH"]
      else blockIf (sequence.confirmed = false) "EXHAUSTION_UNCONFIRMED"
  | _ => []

/-- An opposing aggressor in the direction of travel. -/
def BigTradeCluster.opposes (cluster : BigTradeCluster) (side : Side) (price : ℚ) : Bool :=
  match side with
  | .buy => cluster.side = .sell && decide (price ≤ cluster.highPrice)
  | .sell => cluster.side = .buy && decide (cluster.lowPrice ≤ price)

def blockingBigTradeAhead (facts : OrderFlowFacts) (side : Side) (referencePrice : ℚ) : Except PyError Bool :=
  if referencePrice ≤ 0 then .error ⟨.valueError, "reference_price must be positive"⟩
  else
    match facts.bigTrades with
    | none => .error ⟨.bigTradesUnmeasured, "this window held too few events to rank"⟩
    | some clusters => .ok (clusters.any fun cluster => cluster.opposes side referencePrice)

def orderFlowBlockers (bundle : V6EvidenceBundle) (required : List FactKey) (side : Side) (entryPrice : ℚ) :
    Except PyError (List String) :=
  match validValue bundle required .orderFlow with
  | some (.orderFlow facts) =>
    match blockingBigTradeAhead facts side entryPrice with
    | .ok obstacle => .ok (blockIf (obstacle = true) "BLOCKING_BIG_TRADE_AHEAD")
    | .error error =>
      if error.kind = .bigTradesUnmeasured then .ok ["BIG_TRADE_SAMPLE_INSUFFICIENT"] else .error error
  | _ => .ok []

/-- `_semantic_blockers`. -/
def semanticBlockers (bundle : V6EvidenceBundle) (required : List FactKey) (side : Side) (entryPrice : ℚ) :
    Except PyError (List String) := do
  let orderFlow ← orderFlowBlockers bundle required side entryPrice
  .ok (typeBlockers bundle required ++ innerBlockers bundle required ++ checkBlockers bundle required ++
    metodoBlockers bundle required ++ divergenceBlockers bundle required side ++ zoneBlockers bundle required ++
    exhaustionBlockers bundle required side ++ orderFlow)

/-! ### Where the evidence came from -/

/-- `_provenance`: what backs the items that are available. -/
def EvidenceItem.backing {α : Type} (item : EvidenceItem α) : Option EvidenceProvenance :=
  if item.state = .available then item.provenance else none

def provenances (bundle : V6EvidenceBundle) : List EvidenceProvenance :=
  (Timeframe.all.filterMap bundle.bars).filterMap EvidenceItem.backing ++
    (FactKey.all.map bundle.item).filterMap EvidenceItem.backing

def provenanceHashes (bundle : V6EvidenceBundle) : List Digest :=
  (provenances bundle).map (·.digestSha256)

def completedAt (bundle : V6EvidenceBundle) : Instant :=
  ((provenances bundle).map (·.observedAt)).max?.getD bundle.decisionAt

/-- The indicators whose evidence is in the bundle. -/
def backedIndicators (bundle : V6EvidenceBundle) (context : V6RiskContext) : List MatchedIndicator :=
  context.matchedIndicators.filter fun indicator => indicator.evidenceHash ∈ provenanceHashes bundle

def unbackedBlockers (bundle : V6EvidenceBundle) (context : V6RiskContext) : List String :=
  (context.matchedIndicators.filter fun indicator => indicator.evidenceHash ∉ provenanceHashes bundle).map
    fun indicator => "INDICATOR_PROVENANCE_MISSING:" ++ indicator.key

def directionCode : Side → String
  | .buy => directionLong
  | .sell => directionShort

/-- The backed indicators in the order of their keys. -/
def sortedIndicators (bundle : V6EvidenceBundle) (context : V6RiskContext) : List MatchedIndicator :=
  (backedIndicators bundle context).insertionSort fun a b => a.key ≤ b.key

/-! ### The session and the calendar -/

/-- `_session_size_multiplier`. -/
def sessionSizeMultiplier (bundle : V6EvidenceBundle) : ℚ :=
  if bundle.session.state = .available then
    match bundle.session.value with
    | some (.session facts) => facts.sizeMultiplier
    | _ => 1
  else 1

/-- `_monday_penalty`. -/
def mondayPenalty (bundle : V6EvidenceBundle) : Int :=
  if bundle.calendar.state = .available then
    match bundle.calendar.value with
    | some (.calendar facts) => facts.mondayScorePenalty
    | _ => 0
  else 0

/-! ### The evaluation -/

/-- `SPOT_ONLY_MARKETS`. -/
def spotOnlyMarkets : List V6Market := [.krxCash, .usCash]

/-- What the venue refuses. -/
def venueBlockers (bundle : V6EvidenceBundle) (context : V6RiskContext) : List String :=
  blockIf (context.riskRequest.market ≠ bundle.market) "RISK_MARKET_MISMATCH" ++
    blockIf (context.family = .metodo ∧ bundle.market = .binanceUsdm) "METODO_CASH_ONLY" ++
    blockIf (bundle.market ∈ spotOnlyMarkets ∧ context.riskRequest.side = .sell) "SPOT_VENUE_CANNOT_SHORT"

/-- The blockers before the setup is graded. -/
def evidenceBlockers (bundle : V6EvidenceBundle) (context : V6RiskContext) : Except PyError (List String) := do
  let required := requiredKeys bundle.market context.family
  let semantic ← semanticBlockers bundle required context.riskRequest.side context.riskRequest.entryPrice
  .ok (venueBlockers bundle context ++ stateBlockers bundle required ++ semantic ++ unbackedBlockers bundle context ++
    blockIf (directionCode context.riskRequest.side ∉ (backedIndicators bundle context).map (·.key))
      "DIRECTION_EVIDENCE_MISSING")

/-- The grade of the indicators, with the penalty of a Monday. -/
def setupGrade (bundle : V6EvidenceBundle) (context : V6RiskContext) : Except PyError SetupGrade :=
  gradeSetup (sortedIndicators bundle context) context.mandatoryIndicatorCodes (-mondayPenalty bundle)

/-- The cash markets have no candidate grade. -/
def marketGrade (market : V6Market) (grade : SetupGrade) : SetupGrade :=
  if market ∈ [V6Market.krxCash, .usCash] ∧ grade = .aCandidate then .normal else grade

/-- `{source, design, configuration, *provenance_hashes}`, sorted. -/
def sourceHashes (manifest : V6Manifest) (bundle : V6EvidenceBundle) : List Digest :=
  ([manifest.sourceSha256, manifest.designSha256, manifest.configurationHash] ++ provenanceHashes bundle).dedup.insertionSort
    fun a b => a.toNat ≤ b.toNat

/-- What the decision carries once its blockers are known. -/
def decisionFields (arith : Arithmetic) (bundle : V6EvidenceBundle) (manifest : V6Manifest) (context : V6RiskContext)
    (grade : SetupGrade) (authority : V6RiskAuthority) (blockers : List String) : V6DecisionFields :=
  let tradeable := blockers.isEmpty && decide (grade ≠ .reject)
  let quantity := if tradeable then authority.quantity else 0
  { id := context.decisionId
    strategyVersionId := manifest.strategyVersionId
    setupId := context.setupId
    featureSnapshotId := context.featureSnapshotId
    instrumentId := bundle.instrumentId
    market := bundle.market
    family := context.family
    grade := if blockers.isEmpty then grade else .reject
    side := context.riskRequest.side
    orderStyle := context.orderStyle
    matchedIndicators := sortedIndicators bundle context
    blockers := blockers
    plannedEntry := if tradeable then some context.riskRequest.entryPrice else none
    structuralStop := if tradeable then some authority.stopPrice else none
    targetPrice := if tradeable then some context.targetPrice else none
    riskFraction := if tradeable then authority.riskFraction else 0
    calculatedQuantity := quantity
    expectedCost := if tradeable then some (arith.fix (context.riskRequest.costPerUnit * quantity)) else none
    sourceEvidenceHashes := sourceHashes manifest bundle
    exhaustionTimeframe := bundle.exhaustionTimeframe.map (·.key)
    completedEvidenceAt := completedAt bundle
    generatedAt := bundle.decisionAt
    validUntil := context.validUntil }

def evaluateV6 (arith : Arithmetic) (bundle : V6EvidenceBundle) (manifest : V6Manifest) (context : V6RiskContext) :
    Except PyError V6Decision := do
  let evidence ← evidenceBlockers bundle context
  let graded ← setupGrade bundle context
  let blockers := evidence ++ blockIf (graded = .reject) "CONTRADICTORY_DIRECTION_EVIDENCE"
  let grade := marketGrade bundle.market graded
  let preliminaryGrade := if blockers.isEmpty then grade else .reject
  let request ← context.riskRequest.regraded preliminaryGrade (sessionSizeMultiplier bundle)
  let authority ← evaluateV6Risk arith request context.policy
  V6Decision.create (decisionFields arith bundle manifest context grade authority
    (canonical (blockers ++ authority.blockerCodes)))

end AutoTrader.Strategy
