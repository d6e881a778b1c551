import AutoTrader.Domain.CompletedOhlcv
import AutoTrader.Execution.Commands
import AutoTrader.Strategy.Facts

/-! The evidence one decision is taken on. An item that is available carries a value and where
it came from; any other item carries neither. -/

namespace AutoTrader.Strategy

open AutoTrader.Domain AutoTrader.Execution AutoTrader.Trader

inductive Timeframe
  | fiveSeconds
  | thirtySeconds
  | oneMinute
  | fiveMinutes
  | fifteenMinutes
  | oneHour
  | oneDay
  deriving DecidableEq

namespace Timeframe

def key : Timeframe → String
  | .fiveSeconds => "5s"
  | .thirtySeconds => "30s"
  | .oneMinute => "1m"
  | .fiveMinutes => "5m"
  | .fifteenMinutes => "15m"
  | .oneHour => "1h"
  | .oneDay => "1d"

/-- `TIMEFRAMES`, in microseconds. -/
def duration : Timeframe → Int
  | .fiveSeconds => 5 * 10 ^ 6
  | .thirtySeconds => 30 * 10 ^ 6
  | .oneMinute => 60 * 10 ^ 6
  | .fiveMinutes => 300 * 10 ^ 6
  | .fifteenMinutes => 900 * 10 ^ 6
  | .oneHour => 3600 * 10 ^ 6
  | .oneDay => 86400 * 10 ^ 6

def all : List Timeframe :=
  [.fiveSeconds, .thirtySeconds, .oneMinute, .fiveMinutes, .fifteenMinutes, .oneHour, .oneDay]

theorem mem_all (timeframe : Timeframe) : timeframe ∈ all := by
  cases timeframe <;> decide

/-- `_CASH_FORBIDDEN_TIMEFRAMES`. -/
def cashForbidden : Timeframe → Bool
  | .fiveSeconds | .thirtySeconds => true
  | _ => false

end Timeframe

/-- `_require_text`: not empty, trimmed, on one line. -/
def singleLine (text : String) : Bool :=
  !untrimmed text && !text.toList.contains '\r' && !text.toList.contains '\n'

structure EvidenceProvenance where
  source : String
  sourceKey : String
  sourceTimezone : String
  observedAt : Instant
  capturedAt : Instant
  digestSha256 : Digest
  source_text : singleLine source = true
  key_text : singleLine sourceKey = true
  timezone_text : singleLine sourceTimezone = true
  captured_after : observedAt ≤ capturedAt
  deriving DecidableEq

structure EvidenceItem (α : Type) where
  state : EvidenceState
  value : Option α
  provenance : Option EvidenceProvenance
  blockerCode : Option String
  code_text : ∀ code, blockerCode = some code → singleLine code = true
  paired : value.isSome = provenance.isSome
  available : state = .available ↔ value.isSome = true
  silent : state = .available → blockerCode = none

/-- A timeframe without bars in the bundle has no item. -/
structure V6EvidenceBundle where
  market : V6Market
  instrumentId : UUID
  decisionAt : Instant
  bars : Timeframe → Option (EvidenceItem (List CompletedOhlcvBar))
  universe_ : EvidenceItem FactValue
  regime : EvidenceItem FactValue
  metodo : EvidenceItem FactValue
  zones : EvidenceItem FactValue
  divergence : EvidenceItem FactValue
  exhaustion : EvidenceItem FactValue
  orderFlow : EvidenceItem FactValue
  profile : EvidenceItem FactValue
  calendar : EvidenceItem FactValue
  session : EvidenceItem FactValue
  costs : EvidenceItem FactValue
  exhaustionTimeframe : Option Timeframe
  version : instrumentId.isVersion7 = true
  scales : market ≠ .binanceUsdm → ∀ timeframe, timeframe.cashForbidden = true → bars timeframe = none
  completed : ∀ timeframe item values, bars timeframe = some item → item.value = some values →
    ∀ bar ∈ values, bar.timestamp + timeframe.duration ≤ decisionAt

namespace V6EvidenceBundle

/-- `_facts`. -/
def item (bundle : V6EvidenceBundle) : FactKey → EvidenceItem FactValue
  | .universe => bundle.universe_
  | .regime => bundle.regime
  | .metodo => bundle.metodo
  | .zones => bundle.zones
  | .divergence => bundle.divergence
  | .exhaustion => bundle.exhaustion
  | .orderFlow => bundle.orderFlow
  | .profile => bundle.profile
  | .calendar => bundle.calendar
  | .session => bundle.session
  | .costs => bundle.costs

end V6EvidenceBundle

theorem EvidenceItem.value_of_available {α : Type} {item : EvidenceItem α} (h : item.state = .available) :
    ∃ value provenance, item.value = some value ∧ item.provenance = some provenance := by
  have hvalue : item.value.isSome = true := item.available.mp h
  have hprovenance : item.provenance.isSome = true := item.paired.symm.trans hvalue
  obtain ⟨value, hvalue⟩ := Option.isSome_iff_exists.mp hvalue
  obtain ⟨provenance, hprovenance⟩ := Option.isSome_iff_exists.mp hprovenance
  exact ⟨value, provenance, hvalue, hprovenance⟩

/-- What a value or a provenance is there for is available. -/
theorem EvidenceItem.available_of_provenance {α : Type} {item : EvidenceItem α} {provenance : EvidenceProvenance}
    (h : item.provenance = some provenance) : item.state = .available := by
  refine item.available.mpr ?_
  rw [item.paired, h]
  rfl

/-- An item with a value. -/
def EvidenceItem.of {α : Type} (value : α) (provenance : EvidenceProvenance) : EvidenceItem α where
  state := .available
  value := some value
  provenance := some provenance
  blockerCode := none
  code_text code h := absurd h.symm (Option.some_ne_none code)
  paired := rfl
  available := iff_of_true rfl rfl
  silent _ := rfl

/-- An item without one, and why. -/
def EvidenceItem.missing {α : Type} (state : EvidenceState) (code : String) (hstate : state ≠ .available)
    (hcode : singleLine code = true) : EvidenceItem α where
  state := state
  value := none
  provenance := none
  blockerCode := some code
  code_text _ h := Option.some.inj h ▸ hcode
  paired := rfl
  available := iff_of_false hstate Bool.false_ne_true
  silent h := absurd h hstate

theorem singleLine_trimmed {text : String} (h : singleLine text = true) : untrimmed text = false := by
  unfold singleLine at h
  simp only [Bool.and_eq_true, Bool.not_eq_true'] at h
  exact h.1.1

end AutoTrader.Strategy
