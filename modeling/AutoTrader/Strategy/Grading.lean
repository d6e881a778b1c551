import AutoTrader.Domain.Basic
import AutoTrader.Strategy.Evidence
import Mathlib.Data.List.Dedup
import Mathlib.Data.List.Sort
import Mathlib.Data.String.Basic

/-! The grade of a setup, from the weighted score of the indicators that matched. -/

namespace AutoTrader.Strategy

open AutoTrader.Domain AutoTrader.Execution AutoTrader.Trader

structure MatchedIndicator where
  key : String
  mandatory : Bool
  evidenceState : EvidenceState
  evidenceHash : Digest
  trimmed : untrimmed key = false
  available : evidenceState = .available
  deriving DecidableEq

def directionLong : String := "direction:LONG"

def directionShort : String := "direction:SHORT"

def v1Secado : String := "v1_secado"

def v1CeroOsmotico : String := "v1_cero_osmotico"

def v1MigReversal : String := "v1_mig_reversal"

def supportingBigTradeBehind : String := "supporting_big_trade_behind"

def blockingBigTradeAheadCode : String := "blocking_big_trade_ahead"

/-- `_RESEARCH_WEIGHTS`. -/
def researchWeights : List (String × Int) :=
  [("higher_timeframe_bias_aligned", 2), ("regular_hlit_divergence", 2), ("hidden_divergence", 1),
    ("fibonacci_extension_cluster", 2), ("profile_value_confluence", 1), (v1Secado, 2), (v1CeroOsmotico, 1),
    (v1MigReversal, 2), (supportingBigTradeBehind, 1), (blockingBigTradeAheadCode, -2),
    ("high_impact_news_risk", -3), ("abnormal_spread_or_slippage", -2)]

/-- `_TELEMETRY_ONLY`. -/
def telemetryOnly : List String := [v1CeroOsmotico]

/-- The reverse-engineered indicators, which may not be mandatory. -/
def hypothesisCodes : List String :=
  [v1Secado, v1CeroOsmotico, v1MigReversal, supportingBigTradeBehind, blockingBigTradeAheadCode]

def candidateScore : Int := 7

def highConfidenceScore : Int := 9

def indicatorWeight (key : String) : Int :=
  if telemetryOnly.contains key then 0 else (researchWeights.lookup key).getD 0

/-- `_matched_codes`. -/
def matchedCodes (indicators : List MatchedIndicator) : List String :=
  ((indicators.filter fun indicator => indicator.evidenceState = .available).map (·.key)).dedup

def gradeSetup (indicators : List MatchedIndicator) (mandatoryCodes : List String) (scoreAdjustment : Int) :
    Except PyError SetupGrade :=
  if mandatoryCodes.any untrimmed then
    .error ⟨.valueError, "mandatory_codes must contain non-empty trimmed text"⟩
  else
    let codes := matchedCodes indicators
    let score := (codes.map indicatorWeight).sum + scoreAdjustment
    .ok (if directionLong ∈ codes ∧ directionShort ∈ codes then .reject
      else if ¬∀ code ∈ mandatoryCodes, code ∈ codes then .normal
      else if highConfidenceScore ≤ score then .a
      else if candidateScore ≤ score then .aCandidate
      else .normal)

theorem mem_matchedCodes {indicators : List MatchedIndicator} {code : String} :
    code ∈ matchedCodes indicators ↔ ∃ indicator ∈ indicators, indicator.key = code := by
  unfold matchedCodes
  rw [List.mem_dedup, List.mem_map]
  constructor
  · rintro ⟨indicator, hindicator, rfl⟩
    exact ⟨indicator, List.mem_of_mem_filter hindicator, rfl⟩
  · rintro ⟨indicator, hindicator, rfl⟩
    exact ⟨indicator, List.mem_filter.mpr ⟨hindicator, by simp [indicator.available]⟩, rfl⟩

/-- With codes its caller may pass it always answers. -/
theorem gradeSetup_ok (indicators : List MatchedIndicator) {mandatoryCodes : List String}
    (h : ∀ code ∈ mandatoryCodes, untrimmed code = false) (scoreAdjustment : Int) :
    ∃ grade, gradeSetup indicators mandatoryCodes scoreAdjustment = .ok grade := by
  unfold gradeSetup
  have hnone : ¬mandatoryCodes.any untrimmed = true := by
    rw [List.any_eq_true]
    rintro ⟨code, hcode, huntrimmed⟩
    rw [h code hcode] at huntrimmed
    cases huntrimmed
  rw [if_neg hnone]
  exact ⟨_, rfl⟩

/-- Evidence for both directions is refused, and nothing else is. -/
theorem gradeSetup_reject {indicators : List MatchedIndicator} {mandatoryCodes : List String} {scoreAdjustment : Int}
    {grade : SetupGrade} (h : gradeSetup indicators mandatoryCodes scoreAdjustment = .ok grade) :
    grade = .reject ↔ directionLong ∈ matchedCodes indicators ∧ directionShort ∈ matchedCodes indicators := by
  unfold gradeSetup at h
  split at h
  · cases h
  dsimp only at h
  have hgrade := Except.ok.inj h
  subst hgrade
  split_ifs with hboth <;> simp [hboth]

end AutoTrader.Strategy

/-! Codes that stand against a trade, as they are collected and as they are reported. -/

namespace AutoTrader.Strategy

open AutoTrader.Domain

/-- `if condition: blockers.append(code)`. -/
def blockIf (condition : Prop) [Decidable condition] (code : String) : List String :=
  if condition then [code] else []

@[simp] theorem blockIf_eq_nil {condition : Prop} [Decidable condition] {code : String} :
    blockIf condition code = [] ↔ ¬condition := by
  unfold blockIf
  split <;> simp [*]

theorem mem_blockIf {condition : Prop} [Decidable condition] {code blocker : String} :
    blocker ∈ blockIf condition code ↔ condition ∧ blocker = code := by
  unfold blockIf
  split <;> simp [*]

/-- `tuple(sorted(set(codes)))`. -/
def canonical (codes : List String) : List String :=
  codes.dedup.insertionSort (· ≤ ·)

theorem mem_canonical {codes : List String} {code : String} : code ∈ canonical codes ↔ code ∈ codes := by
  unfold canonical
  rw [List.mem_insertionSort, List.mem_dedup]

theorem canonical_sorted (codes : List String) : (canonical codes).Pairwise (· ≤ ·) :=
  List.pairwise_insertionSort (· ≤ ·) codes.dedup

theorem canonical_nodup (codes : List String) : (canonical codes).Nodup :=
  (List.perm_insertionSort (· ≤ ·) codes.dedup).nodup_iff.mpr (List.nodup_dedup codes)

@[simp] theorem canonical_eq_nil {codes : List String} : canonical codes = [] ↔ codes = [] := by
  simp only [List.eq_nil_iff_forall_not_mem, mem_canonical]

/-! ### Codes without surrounding space -/

/-- A text that starts trimmed and ends trimmed is trimmed. -/
theorem untrimmed_append {a b : String} (ha : untrimmed a = false) (hb : untrimmed b = false) :
    untrimmed (a ++ b) = false := by
  unfold untrimmed at ha hb ⊢
  simp only [Bool.or_eq_false_iff, List.isEmpty_eq_false_iff] at ha hb
  rw [String.toList_append, List.head?_append_of_ne_nil _ ha.1.1, List.getLast?_append_of_ne_nil _ hb.1.1, ha.1.2, hb.2]
  simp [ha.1.1]

def Trimmed (codes : List String) : Prop := ∀ code ∈ codes, untrimmed code = false

theorem Trimmed.append {codes others : List String} (h : Trimmed codes) (hothers : Trimmed others) :
    Trimmed (codes ++ others) := by
  intro code hcode
  rcases List.mem_append.mp hcode with hfirst | hsecond
  · exact h code hfirst
  · exact hothers code hsecond

theorem Trimmed.blockIf {condition : Prop} [Decidable condition] {code : String} (h : untrimmed code = false) :
    Trimmed (blockIf condition code) := by
  intro blocker hblocker
  rw [(mem_blockIf.mp hblocker).2]
  exact h

theorem Trimmed.flatMap {α : Type} {items : List α} {f : α → List String} (h : ∀ item ∈ items, Trimmed (f item)) :
    Trimmed (items.flatMap f) := by
  intro code hcode
  obtain ⟨item, hitem, hcode⟩ := List.mem_flatMap.mp hcode
  exact h item hitem code hcode

theorem Trimmed.nil : Trimmed [] := by
  intro code hcode
  cases hcode

theorem Trimmed.single {code : String} (h : untrimmed code = false) : Trimmed [code] := by
  intro blocker hblocker
  rw [List.mem_singleton.mp hblocker]
  exact h

theorem Trimmed.canonical {codes : List String} (h : Trimmed codes) : Trimmed (canonical codes) :=
  fun code hcode => h code (mem_canonical.mp hcode)

end AutoTrader.Strategy
