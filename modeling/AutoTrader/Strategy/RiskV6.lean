import AutoTrader.Ledger.Amounts
import AutoTrader.Strategy.Grading

/-! How much a setup may risk, and everything that refuses it. -/

namespace AutoTrader.Strategy

open AutoTrader.Domain AutoTrader.Execution AutoTrader.Ledger AutoTrader.Trader

/-- `_MAX_SPREAD_TICKS`. -/
def maxSpreadTicks : ℚ := 3

def sessionTradeUpperBound : Nat := 8

def stopDistanceMinimumAtr : ℚ := 2 / 5

def stopDistanceMaximumAtr : ℚ := 3 / 2

def maxLeverage : Nat := 50

def tradeRiskCeiling : ℚ := 1 / 100

inductive ScoreAuthority
  | scoreOnly
  | decidesSize
  deriving DecidableEq

def researchScoreAuthority : ScoreAuthority := .scoreOnly

structure V6RiskRequest where
  market : V6Market
  grade : SetupGrade
  side : Side
  entryPrice : ℚ
  structuralReference : ℚ
  tickSize : ℚ
  spread : ℚ
  atr30s : Option ℚ
  atr5m : ℚ
  sessionStartEquity : ℚ
  currentEquity : ℚ
  dailyNetPnl : ℚ
  weeklyNetPnl : ℚ
  consecutiveNetLosses : Nat
  currentOpenStructuralRisk : ℚ
  quantityStep : ℚ
  costPerUnit : ℚ
  leverage : Option Nat
  sessionTradeCount : Nat
  sessionObjectiveReached : Bool
  sizeMultiplier : ℚ
  maxQuantity : Option ℚ
  entry_pos : 0 < entryPrice
  reference_pos : 0 < structuralReference
  tick_pos : 0 < tickSize
  atr5m_pos : 0 < atr5m
  start_pos : 0 < sessionStartEquity
  current_pos : 0 < currentEquity
  step_pos : 0 < quantityStep
  spread_nonneg : 0 ≤ spread
  open_nonneg : 0 ≤ currentOpenStructuralRisk
  cost_nonneg : 0 ≤ costPerUnit
  atr30s_pos : ∀ atr, atr30s = some atr → 0 < atr
  leverage_pos : ∀ value, leverage = some value → 0 < value
  multiplier_range : 0 < sizeMultiplier ∧ sizeMultiplier ≤ 1
  cap_pos : ∀ cap, maxQuantity = some cap → 0 < cap

/-- `replace` with another grade and another multiplier, which is checked again. -/
def V6RiskRequest.regraded (request : V6RiskRequest) (grade : SetupGrade) (multiplier : ℚ) :
    Except PyError V6RiskRequest :=
  if h : 0 < multiplier ∧ multiplier ≤ 1 then
    .ok { request with grade := grade, sizeMultiplier := multiplier, multiplier_range := h }
  else .error ⟨.valueError, "size_multiplier must be within zero and one"⟩

/-- The ages of the snapshot gate other checks and are left out. -/
structure V6RiskPolicySnapshot where
  policyVersionId : UUID
  market : V6Market
  normalRiskFraction : ℚ
  aCandidateRiskFraction : Option ℚ
  aRiskFraction : ℚ
  absoluteTradeRiskFraction : ℚ
  dailyLossFraction : ℚ
  weeklyLossFraction : ℚ
  maxConsecutiveLosses : Nat
  maxOpenStructuralRiskFraction : ℚ
  version : policyVersionId.isVersion7 = true
  normal_range : 0 < normalRiskFraction ∧ normalRiskFraction ≤ 1
  a_range : 0 < aRiskFraction ∧ aRiskFraction ≤ 1
  absolute_range : 0 < absoluteTradeRiskFraction ∧ absoluteTradeRiskFraction ≤ 1
  daily_range : 0 < dailyLossFraction ∧ dailyLossFraction ≤ 1
  weekly_range : 0 < weeklyLossFraction ∧ weeklyLossFraction ≤ 1
  open_range : 0 < maxOpenStructuralRiskFraction ∧ maxOpenStructuralRiskFraction ≤ 1
  candidate_range : ∀ fraction, aCandidateRiskFraction = some fraction → 0 < fraction ∧ fraction ≤ 1
  losses_pos : 0 < maxConsecutiveLosses
  normal_ceiling : normalRiskFraction ≤ absoluteTradeRiskFraction
  a_ceiling : aRiskFraction ≤ absoluteTradeRiskFraction
  candidate_ceiling : ∀ fraction, aCandidateRiskFraction = some fraction → fraction ≤ absoluteTradeRiskFraction
  absolute_ceiling : absoluteTradeRiskFraction ≤ tradeRiskCeiling
  candidate_market : market = .binanceUsdm ↔ aCandidateRiskFraction.isSome = true

structure V6RiskAuthority where
  allowed : Bool
  blockerCodes : List String
  riskBase : ℚ
  riskFraction : ℚ
  riskBudget : ℚ
  structuralReference : ℚ
  stopPrice : ℚ
  quantity : ℚ
  stopDistanceAtr5m : ℚ
  deriving DecidableEq

/-- What a decision is asked for, beside the evidence. -/
structure V6RiskContext where
  decisionId : UUID
  setupId : UUID
  featureSnapshotId : UUID
  family : StrategyFamily
  orderStyle : OrderStyle
  matchedIndicators : List MatchedIndicator
  mandatoryIndicatorCodes : List String
  riskRequest : V6RiskRequest
  policy : V6RiskPolicySnapshot
  targetPrice : ℚ
  validUntil : Instant
  decision_version : decisionId.isVersion7 = true
  setup_version : setupId.isVersion7 = true
  snapshot_version : featureSnapshotId.isVersion7 = true
  codes_trimmed : ∀ code ∈ mandatoryIndicatorCodes, untrimmed code = false
  codes_disclosed : ∀ code ∈ mandatoryIndicatorCodes, code ∉ hypothesisCodes
  same_market : policy.market = riskRequest.market
  target_pos : 0 < targetPrice

/-! ### The amounts of a request -/

/-- `_allowed`. -/
def allowedFraction (fraction : ℚ) (policy : V6RiskPolicySnapshot) : ℚ :=
  match researchScoreAuthority with
  | .scoreOnly => min fraction policy.normalRiskFraction
  | .decidesSize => fraction

/-- `_risk_fraction`: the fraction, and the blocker that comes with a zero one. -/
def gradeFraction (policy : V6RiskPolicySnapshot) : SetupGrade → ℚ × List String
  | .reject => (0, ["SETUP_REJECTED"])
  | .aCandidate =>
    match policy.aCandidateRiskFraction with
    | none => (0, ["CASH_A_CANDIDATE_UNSUPPORTED"])
    | some fraction => (allowedFraction fraction policy, [])
  | .a => (allowedFraction policy.aRiskFraction policy, [])
  | .normal => (policy.normalRiskFraction, [])

section Amounts

variable (arith : Arithmetic) (request : V6RiskRequest) (policy : V6RiskPolicySnapshot)

/-- The smaller of the equities at the start of the session and now. -/
def riskBase : ℚ := min request.sessionStartEquity request.currentEquity

def riskBudget : ℚ := arith.fix (riskBase request * (gradeFraction policy request.grade).1)

/-- How far behind the structural reference the stop lies. -/
def stopBuffer : ℚ :=
  let buffer := max (arith.fix (4 * request.tickSize)) (arith.fix (2 * request.spread))
  match request.market, request.atr30s with
  | .binanceUsdm, some atr => max buffer (arith.fix (1 / 10 * atr))
  | _, _ => buffer

def stopPrice : ℚ :=
  match request.side with
  | .buy => arith.fix (request.structuralReference - stopBuffer arith request)
  | .sell => arith.fix (request.structuralReference + stopBuffer arith request)

def stopDistance : ℚ := |arith.fix (request.entryPrice - stopPrice arith request)|

def distanceAtr : ℚ := arith.fix (stopDistance arith request / request.atr5m)

/-- The budget over what a unit can lose, halved at the open, at most the cap, in whole steps. -/
def sizedQuantity : ℚ :=
  let perUnitLoss := arith.fix (stopDistance arith request + request.costPerUnit)
  let budgeted := if 0 < perUnitLoss then arith.fix (riskBudget arith request policy / perUnitLoss) else 0
  let scaled := arith.fix (budgeted * request.sizeMultiplier)
  let capped := (request.maxQuantity.map (min scaled)).getD scaled
  arith.fix (⌊arith.fix (capped / request.quantityStep)⌋ * request.quantityStep)

/-! ### What refuses a request -/

def marketBlockers : List String :=
  if request.market = .binanceUsdm then
    blockIf (request.atr30s = none) "BINANCE_ATR30S_REQUIRED" ++
      (match request.leverage with
        | none => ["BINANCE_LEVERAGE_REQUIRED"]
        | some leverage => blockIf (maxLeverage < leverage) "BINANCE_LEVERAGE_LIMIT")
  else
    blockIf (request.atr30s ≠ none) "CASH_ATR30S_NOT_APPLICABLE" ++
      blockIf (request.leverage ≠ none) "CASH_LEVERAGE_NOT_APPLICABLE"

def referenceBlockers : List String :=
  match request.side with
  | .buy => blockIf (request.entryPrice ≤ request.structuralReference) "INVALID_LONG_STRUCTURAL_REFERENCE"
  | .sell => blockIf (request.structuralReference ≤ request.entryPrice) "INVALID_SHORT_STRUCTURAL_REFERENCE"

def stopBlockers : List String :=
  blockIf (stopPrice arith request ≤ 0) "NON_POSITIVE_STOP" ++
    blockIf (arith.fix (maxSpreadTicks * request.tickSize) < request.spread) "SPREAD_ABOVE_THREE_TICKS" ++
    blockIf (distanceAtr arith request < stopDistanceMinimumAtr) "STOP_DISTANCE_BELOW_0_40_ATR5M" ++
    blockIf (stopDistanceMaximumAtr < distanceAtr arith request) "STOP_DISTANCE_ABOVE_1_50_ATR5M"

def limitBlockers : List String :=
  blockIf (request.dailyNetPnl ≤ -arith.fix (riskBase request * policy.dailyLossFraction)) "DAILY_LOSS_LIMIT" ++
    blockIf (request.weeklyNetPnl ≤ -arith.fix (riskBase request * policy.weeklyLossFraction)) "WEEKLY_LOSS_LIMIT" ++
    blockIf (policy.maxConsecutiveLosses ≤ request.consecutiveNetLosses) "CONSECUTIVE_LOSS_LIMIT" ++
    blockIf (sessionTradeUpperBound ≤ request.sessionTradeCount) "SESSION_TRADE_UPPER_BOUND" ++
    blockIf (request.sessionObjectiveReached = true) "SESSION_OBJECTIVE_REACHED" ++
    blockIf (arith.fix (riskBase request * policy.maxOpenStructuralRiskFraction) <
      arith.fix (request.currentOpenStructuralRisk + riskBudget arith request policy)) "OPEN_RISK_LIMIT"

def sizeBlockers : List String :=
  blockIf (sizedQuantity arith request policy ≤ 0 ∧ 0 < (gradeFraction policy request.grade).1) "ROUNDED_QUANTITY_ZERO"

def riskBlockers : List String :=
  (gradeFraction policy request.grade).2 ++ marketBlockers request ++ referenceBlockers request ++
    stopBlockers arith request ++ limitBlockers arith request policy ++ sizeBlockers arith request policy

def evaluateV6Risk : Except PyError V6RiskAuthority :=
  if policy.market ≠ request.market then
    .error ⟨.valueError, "the policy and the request must name the same market"⟩
  else
    let blockers := canonical (riskBlockers arith request policy)
    .ok {
      allowed := blockers.isEmpty
      blockerCodes := blockers
      riskBase := riskBase request
      riskFraction := (gradeFraction policy request.grade).1
      riskBudget := riskBudget arith request policy
      structuralReference := request.structuralReference
      stopPrice := stopPrice arith request
      quantity := if blockers.isEmpty then sizedQuantity arith request policy else 0
      stopDistanceAtr5m := distanceAtr arith request }

/-! ### When nothing refuses it -/

/-- A futures request names its short volatility and a leverage within bounds, a cash request
neither. -/
def MarketTerms : Prop :=
  if request.market = .binanceUsdm then
    request.atr30s ≠ none ∧ ∃ leverage, request.leverage = some leverage ∧ leverage ≤ maxLeverage
  else request.atr30s = none ∧ request.leverage = none

/-- The structural reference lies behind the entry. -/
def ReferenceBehind : Prop :=
  match request.side with
  | .buy => request.structuralReference < request.entryPrice
  | .sell => request.entryPrice < request.structuralReference

structure RiskAllows : Prop where
  fraction : (gradeFraction policy request.grade).2 = []
  market : MarketTerms request
  reference : ReferenceBehind request
  stop : 0 < stopPrice arith request
  spread : request.spread ≤ arith.fix (maxSpreadTicks * request.tickSize)
  near : stopDistanceMinimumAtr ≤ distanceAtr arith request
  far : distanceAtr arith request ≤ stopDistanceMaximumAtr
  daily : -arith.fix (riskBase request * policy.dailyLossFraction) < request.dailyNetPnl
  weekly : -arith.fix (riskBase request * policy.weeklyLossFraction) < request.weeklyNetPnl
  losses : request.consecutiveNetLosses < policy.maxConsecutiveLosses
  trades : request.sessionTradeCount < sessionTradeUpperBound
  objective : request.sessionObjectiveReached = false
  openRisk : arith.fix (request.currentOpenStructuralRisk + riskBudget arith request policy) ≤
    arith.fix (riskBase request * policy.maxOpenStructuralRiskFraction)
  quantity : 0 < sizedQuantity arith request policy

end Amounts

/-- A grade that is not refused has a fraction of its own, which is positive. -/
theorem gradeFraction_pos {policy : V6RiskPolicySnapshot} {grade : SetupGrade} :
    (gradeFraction policy grade).2 = [] ↔ 0 < (gradeFraction policy grade).1 := by
  have hnormal := policy.normal_range.1
  have hallowed : ∀ fraction, 0 < fraction → 0 < allowedFraction fraction policy := fun fraction h => lt_min h hnormal
  cases grade with
  | reject => simp [gradeFraction]
  | normal => simp [gradeFraction, hnormal]
  | a => simp [gradeFraction, hallowed _ policy.a_range.1]
  | aCandidate =>
    unfold gradeFraction
    cases hcandidate : policy.aCandidateRiskFraction with
    | none => simp
    | some fraction => simp [hallowed _ (policy.candidate_range fraction hcandidate).1]

theorem marketBlockers_nil {request : V6RiskRequest} : marketBlockers request = [] ↔ MarketTerms request := by
  unfold marketBlockers MarketTerms
  split
  · cases request.leverage <;> simp
  · simp

theorem referenceBlockers_nil {request : V6RiskRequest} : referenceBlockers request = [] ↔ ReferenceBehind request := by
  unfold referenceBlockers ReferenceBehind
  cases request.side <;> simp

theorem riskBlockers_nil {arith : Arithmetic} {request : V6RiskRequest} {policy : V6RiskPolicySnapshot} :
    riskBlockers arith request policy = [] ↔ RiskAllows arith request policy := by
  unfold riskBlockers stopBlockers limitBlockers sizeBlockers
  simp only [List.append_eq_nil_iff, blockIf_eq_nil, marketBlockers_nil, referenceBlockers_nil, not_le, not_lt,
    Bool.not_eq_true]
  constructor
  · rintro ⟨⟨⟨⟨⟨hfraction, hmarket⟩, hreference⟩, ⟨⟨hstop, hspread⟩, hnear⟩, hfar⟩,
      ⟨⟨⟨⟨hdaily, hweekly⟩, hlosses⟩, htrades⟩, hobjective⟩, hopen⟩, hsize⟩
    have hquantity : 0 < sizedQuantity arith request policy :=
      not_le.mp fun h => hsize ⟨h, gradeFraction_pos.mp hfraction⟩
    exact ⟨hfraction, hmarket, hreference, hstop, hspread, hnear, hfar, hdaily, hweekly, hlosses, htrades, hobjective,
      hopen, hquantity⟩
  · intro h
    exact ⟨⟨⟨⟨⟨h.fraction, h.market⟩, h.reference⟩, ⟨⟨h.stop, h.spread⟩, h.near⟩, h.far⟩,
      ⟨⟨⟨⟨h.daily, h.weekly⟩, h.losses⟩, h.trades⟩, h.objective⟩, h.openRisk⟩,
      fun hzero => absurd hzero.1 (not_le.mpr h.quantity)⟩

theorem riskBlockers_trimmed (arith : Arithmetic) (request : V6RiskRequest) (policy : V6RiskPolicySnapshot) :
    Trimmed (riskBlockers arith request policy) := by
  have hfraction : Trimmed (gradeFraction policy request.grade).2 := by
    cases request.grade with
    | reject => exact .single (by decide)
    | aCandidate =>
      unfold gradeFraction
      cases policy.aCandidateRiskFraction with
      | none => exact .single (by decide)
      | some fraction => exact .nil
    | a => exact .nil
    | normal => exact .nil
  have hmarket : Trimmed (marketBlockers request) := by
    unfold marketBlockers
    split
    · refine .append (.blockIf (by decide)) ?_
      cases request.leverage with
      | none => exact .single (by decide)
      | some leverage => exact .blockIf (by decide)
    · exact .append (.blockIf (by decide)) (.blockIf (by decide))
  have hreference : Trimmed (referenceBlockers request) := by
    unfold referenceBlockers
    cases request.side with
    | buy => exact .blockIf (by decide)
    | sell => exact .blockIf (by decide)
  have hstop : Trimmed (stopBlockers arith request) :=
    .append (.append (.append (.blockIf (by decide)) (.blockIf (by decide))) (.blockIf (by decide))) (.blockIf (by decide))
  have hlimit : Trimmed (limitBlockers arith request policy) :=
    .append (.append (.append (.append (.append (.blockIf (by decide)) (.blockIf (by decide))) (.blockIf (by decide)))
      (.blockIf (by decide))) (.blockIf (by decide))) (.blockIf (by decide))
  exact .append (.append (.append (.append (.append hfraction hmarket) hreference) hstop) hlimit) (.blockIf (by decide))

/-- What the authority says, and when it allows the trade. -/
theorem evaluateV6Risk_ok (arith : Arithmetic) {request : V6RiskRequest} {policy : V6RiskPolicySnapshot}
    (hmarket : policy.market = request.market) :
    ∃ authority, evaluateV6Risk arith request policy = .ok authority ∧
      authority.blockerCodes = canonical (riskBlockers arith request policy) ∧
      (authority.allowed = true ↔ RiskAllows arith request policy) ∧
      authority.riskFraction = (gradeFraction policy request.grade).1 ∧
      authority.stopPrice = stopPrice arith request ∧
      (RiskAllows arith request policy → authority.quantity = sizedQuantity arith request policy) := by
  unfold evaluateV6Risk
  rw [if_neg (not_not.mpr hmarket)]
  have hallowed : (canonical (riskBlockers arith request policy)).isEmpty = true ↔ RiskAllows arith request policy := by
    rw [List.isEmpty_iff, canonical_eq_nil, riskBlockers_nil]
  exact ⟨_, rfl, rfl, hallowed, rfl, rfl, fun h => if_pos (hallowed.mpr h)⟩

end AutoTrader.Strategy
