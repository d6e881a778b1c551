import AutoTrader.Domain.Basic
import AutoTrader.Trader.Markets
import Mathlib.Data.Rat.Defs

/-! The facts the evaluators of the strategy report. Fields nothing reads are left out. -/

namespace AutoTrader.Strategy

open AutoTrader.Domain AutoTrader.Trader

inductive EvidenceState
  | available
  | unavailable
  | stale
  | notApplicable
  | unknown
  deriving DecidableEq

def EvidenceState.value : EvidenceState → String
  | .available => "AVAILABLE"
  | .unavailable => "UNAVAILABLE"
  | .stale => "STALE"
  | .notApplicable => "N/A"
  | .unknown => "UNKNOWN"

structure UniverseFacts where
  eligible : Bool
  deriving DecidableEq

inductive RegimeLabel
  | trendUp
  | trendDown
  | balance
  deriving DecidableEq

structure RegimeFacts where
  state : EvidenceState
  trend : Option RegimeLabel
  sideways : Option Bool
  lowVolatility : Option Bool
  pessimismExtreme : Option Bool
  excluded : Bool
  deriving DecidableEq

structure MetodoFacts where
  trendUp : Bool
  trendDown : Bool
  sma670CrossUp : Bool
  sma670CrossDown : Bool
  macdCrossUpAboveZero : Bool
  macdCrossUpBelowZero : Bool
  normalTechnicalConfirmation : Bool
  sameBarAConfirmation : Bool
  deriving DecidableEq

structure HlitZone where
  lowerBoundary : ℚ
  upperBoundary : ℚ
  touchCount : Nat
  strength : Nat
  touchedAt : List Instant
  ordered : lowerBoundary ≤ upperBoundary
  touched : 1 ≤ touchCount
  capped : strength = min touchCount 5
  counted : touchedAt.length = touchCount
  ascending : touchedAt.Pairwise (· < ·)
  deriving DecidableEq

/-- The dates are numbered by their days. -/
structure ZoneFacts where
  observedAt : Instant
  sourceTimezone : String
  selectedDates : List Int
  binCount : Nat
  zones : List HlitZone
  bins : 1 ≤ binCount
  deriving DecidableEq

inductive PivotKind
  | high
  | low
  deriving DecidableEq

structure Pivot where
  index : Nat
  confirmationIndex : Nat
  kind : PivotKind
  price : ℚ
  timestamp : Instant
  confirmed : Bool
  later : index ≤ confirmationIndex
  positive : 0 < price
  deriving DecidableEq

inductive DivergenceKind
  | regularBullish
  | regularBearish
  | hiddenBullish
  | hiddenBearish
  deriving DecidableEq

structure DivergenceSignal where
  kind : DivergenceKind
  first : Pivot
  second : Pivot
  firstOscillator : ℚ
  secondOscillator : ℚ
  deriving DecidableEq

structure DivergenceFacts where
  observedAt : Option Instant
  regular : List DivergenceSignal
  hidden : List DivergenceSignal
  deriving DecidableEq

structure ExhaustionSequence where
  direction : Side
  confirmed : Bool
  researchOnly : Bool
  history : List Pivot
  evaluationPivots : List Pivot
  structuralReferencePrice : ℚ
  confirmedAt : Instant
  deriving DecidableEq

structure ExhaustionFacts where
  observedAt : Option Instant
  bullish : Option ExhaustionSequence
  bearish : Option ExhaustionSequence
  deriving DecidableEq

inductive AggressorSide
  | buy
  | sell
  deriving DecidableEq

inductive BigTradeClass
  | normal
  | extreme
  deriving DecidableEq

structure BigTradeCluster where
  side : AggressorSide
  startedAt : Instant
  endedAt : Instant
  lowPrice : ℚ
  highPrice : ℚ
  tradeCount : Nat
  summedNotional : ℚ
  classification : BigTradeClass
  deriving DecidableEq

/-- No big trades is `some []`; a window too short to rank its events has `none`. -/
structure OrderFlowFacts where
  state : EvidenceState
  tradeCount : Nat
  unknownAggressorCount : Nat
  buyNotional : ℚ
  sellNotional : ℚ
  deltaNotional : Option ℚ
  bigTrades : Option (List BigTradeCluster)
  reversalMig : Option Bool
  continuationMig : Option Bool
  secado : Option Bool
  ceros : Option Bool
  telemetryOnly : Bool
  deriving DecidableEq

structure ProfileLevel where
  price : ℚ
  buyNotional : ℚ
  sellNotional : ℚ
  unknownNotional : ℚ
  totalNotional : ℚ
  deltaNotional : ℚ
  imbalanceRatio : Option ℚ
  deriving DecidableEq

structure ProfileFacts where
  state : EvidenceState
  levels : List ProfileLevel
  pointOfControl : Option ℚ
  valueAreaLow : Option ℚ
  valueAreaHigh : Option ℚ
  totalNotional : ℚ
  deriving DecidableEq

structure CalendarFacts where
  state : EvidenceState
  blockNewExposure : Bool
  closeIntradayPositions : Bool
  activeEventIds : List String
  blackoutEndsAt : Option Instant
  mondayScorePenalty : Int
  deriving DecidableEq

structure SessionFacts where
  state : EvidenceState
  entryAllowed : Bool
  mustBeFlat : Bool
  sizeMultiplier : ℚ
  deriving DecidableEq

structure CostFacts where
  state : EvidenceState
  deriving DecidableEq

/-- The names of the facts of a bundle. -/
inductive FactKey
  | universe
  | regime
  | metodo
  | zones
  | divergence
  | exhaustion
  | orderFlow
  | profile
  | calendar
  | session
  | costs
  deriving DecidableEq

namespace FactKey

def name : FactKey → String
  | .universe => "universe"
  | .regime => "regime"
  | .metodo => "metodo"
  | .zones => "zones"
  | .divergence => "divergence"
  | .exhaustion => "exhaustion"
  | .orderFlow => "order_flow"
  | .profile => "profile"
  | .calendar => "calendar"
  | .session => "session"
  | .costs => "costs"

/-- `key.upper()`. -/
def upper : FactKey → String
  | .universe => "UNIVERSE"
  | .regime => "REGIME"
  | .metodo => "METODO"
  | .zones => "ZONES"
  | .divergence => "DIVERGENCE"
  | .exhaustion => "EXHAUSTION"
  | .orderFlow => "ORDER_FLOW"
  | .profile => "PROFILE"
  | .calendar => "CALENDAR"
  | .session => "SESSION"
  | .costs => "COSTS"

/-- In the order of `_facts`. -/
def all : List FactKey :=
  [.universe, .regime, .metodo, .zones, .divergence, .exhaustion, .orderFlow, .profile, .calendar, .session, .costs]

/-- In the order of `sorted`. -/
def inOrder : List FactKey :=
  [.calendar, .costs, .divergence, .exhaustion, .metodo, .orderFlow, .profile, .regime, .session, .universe, .zones]

theorem mem_all (key : FactKey) : key ∈ all := by
  cases key <;> decide

theorem mem_inOrder (key : FactKey) : key ∈ inOrder := by
  cases key <;> decide

end FactKey

/-- What an item of evidence carries: one of the facts, or anything else. -/
inductive FactValue
  | universe (facts : UniverseFacts)
  | regime (facts : RegimeFacts)
  | metodo (facts : MetodoFacts)
  | zones (facts : ZoneFacts)
  | divergence (facts : DivergenceFacts)
  | exhaustion (facts : ExhaustionFacts)
  | orderFlow (facts : OrderFlowFacts)
  | profile (facts : ProfileFacts)
  | calendar (facts : CalendarFacts)
  | session (facts : SessionFacts)
  | costs (facts : CostFacts)
  | other
  deriving DecidableEq

namespace FactValue

/-- The key whose type in `_FACT_TYPES` the value has. -/
def key : FactValue → Option FactKey
  | .universe _ => some .universe
  | .regime _ => some .regime
  | .metodo _ => some .metodo
  | .zones _ => some .zones
  | .divergence _ => some .divergence
  | .exhaustion _ => some .exhaustion
  | .orderFlow _ => some .orderFlow
  | .profile _ => some .profile
  | .calendar _ => some .calendar
  | .session _ => some .session
  | .costs _ => some .costs
  | .other => none

/-- `value.state`, for the facts that have one. -/
def innerState : FactValue → Option EvidenceState
  | .regime facts => some facts.state
  | .orderFlow facts => some facts.state
  | .profile facts => some facts.state
  | .calendar facts => some facts.state
  | .session facts => some facts.state
  | .costs facts => some facts.state
  | _ => none

end FactValue

end AutoTrader.Strategy
