import AutoTrader.Strategy.Regime
import AutoTrader.Trader.Markets
import Mathlib.Algebra.BigOperators.Ring.List
import Mathlib.Tactic.FieldSimp
import Mathlib.Tactic.Ring

/-! The method of the cash markets: its trend, its crosses and its confirmations, from completed daily bars. -/

namespace AutoTrader.Strategy

open AutoTrader.Domain AutoTrader.Numeric AutoTrader.Runtime AutoTrader.Trader

def smaFast : ℕ := 6
def smaMid : ℕ := 70
def smaSlow : ℕ := 200

/-- `_REQUIRED_DAILY_BARS`. -/
def requiredDailyBars : ℕ := smaSlow + 1

section

variable (round : ℚ → ℚ)

/-- `_sma`. -/
def sma (closes : List ℚ) (period offset : ℕ) : ℚ :=
  let stop : ℤ := closes.length - offset
  round (sumOf round (slice (stop - period) stop closes) / period)

/-- `trend_up`. -/
def metodoTrendUp (closes : List ℚ) : Bool :=
  decide (sma round closes smaSlow 1 < sma round closes smaSlow 0) &&
    decide (sma round closes smaSlow 0 < sma round closes smaMid 0) &&
    decide (sma round closes smaMid 1 < sma round closes smaMid 0)

/-- `trend_down`. -/
def metodoTrendDown (closes : List ℚ) : Bool :=
  decide (sma round closes smaSlow 0 < sma round closes smaSlow 1) &&
    decide (sma round closes smaMid 0 < sma round closes smaSlow 0) &&
    decide (sma round closes smaMid 0 < sma round closes smaMid 1)

end

/-- The last value of a line, or the one before it. -/
def fromEnd (line : List (Option ℚ)) (back : ℕ) : ℚ := (line.getD (line.length - back) none).getD 0

def metodoFacts (closes : List ℚ) : Except PyError MetodoFacts := do
  let (macdValues, signalValues) ← macdSeries closes
  let trendUp := metodoTrendUp rounded closes
  let crossUp := decide (sma rounded closes smaFast 1 ≤ sma rounded closes smaMid 1) &&
    decide (sma rounded closes smaMid 0 < sma rounded closes smaFast 0)
  let crossDown := decide (sma rounded closes smaMid 1 ≤ sma rounded closes smaFast 1) &&
    decide (sma rounded closes smaFast 0 < sma rounded closes smaMid 0)
  let currentMacd := fromEnd macdValues 1
  let macdCrossesUp := decide (fromEnd macdValues 2 ≤ fromEnd signalValues 2) &&
    decide (fromEnd signalValues 1 < currentMacd)
  let macdCrossUp := macdCrossesUp && decide (0 < currentMacd)
  pure
    { trendUp := trendUp
      trendDown := metodoTrendDown rounded closes
      sma670CrossUp := crossUp
      sma670CrossDown := crossDown
      macdCrossUpAboveZero := macdCrossUp
      macdCrossUpBelowZero := macdCrossesUp && decide (currentMacd < 0)
      normalTechnicalConfirmation := trendUp && (crossUp || macdCrossUp)
      sameBarAConfirmation := trendUp && crossUp && macdCrossUp }

/-- `_completed_before`. -/
def completedBefore (values : List CompletedOhlcvBar) (decisionAt : Instant) : Option (List CompletedOhlcvBar) :=
  let completed := values.filter (·.timestamp < decisionAt)
  if completed.IsChain fun earlier later => earlier.timestamp < later.timestamp then some completed else none

/-- The state of the evidence and its value. -/
def evaluateMetodo (market : V6Market) (dailyBars : List CompletedOhlcvBar) (decisionAt : Instant) :
    Except PyError (EvidenceState × Option MetodoFacts) :=
  if market = .binanceUsdm then .ok (.notApplicable, none)
  else
    match completedBefore dailyBars decisionAt with
    | none => .ok (.unavailable, none)
    | some bars =>
      if bars.length < requiredDailyBars then .ok (.unavailable, none)
      else (metodoFacts (bars.map (·.close.toRat))).map fun facts => (.available, some facts)

/-! ### One trend

In exact arithmetic the levels of an index are the closes over the first of them, and an average of so many of
them is the average of the closes over the first. -/

theorem sumOf_id (amounts : List ℚ) : sumOf id amounts = amounts.sum := by
  rw [List.sum_eq_foldl]
  rfl

/-- The trend the averages of the closes show. -/
def metodoTrend (round : ℚ → ℚ) (closes : List ℚ) : RegimeLabel :=
  if metodoTrendUp round closes then .trendUp else if metodoTrendDown round closes then .trendDown else .balance

theorem metodoTrend_eq (round : ℚ → ℚ) (closes : List ℚ) :
    metodoTrend round closes = trendOf (sma round closes smaSlow 0) (sma round closes smaSlow 1)
      (sma round closes smaMid 0) (sma round closes smaMid 1) := by
  unfold metodoTrend trendOf metodoTrendUp metodoTrendDown
  simp only [Bool.and_eq_true, decide_eq_true_eq, and_assoc]

/-- A trend does not change with the scale. -/
theorem trendOf_scale {scale : ℚ} (hscale : 0 < scale) (a b c d : ℚ) :
    trendOf (a * scale) (b * scale) (c * scale) (d * scale) = trendOf a b c d := by
  unfold trendOf
  simp only [mul_lt_mul_iff_left₀ hscale]

/-- Compounding the returns of a list of closes gives the closes, at the scale of where it starts. -/
theorem scanl_returns (first : ℚ) (rest : List ℚ) (level : ℚ) (hpos : ∀ close ∈ first :: rest, 0 < close) :
    (((first :: rest).zip rest).map fun (earlier, later) => (later - earlier) / earlier).scanl
        (fun level dailyReturn => level * (1 + dailyReturn)) level =
      (first :: rest).map (· * (level / first)) := by
  have hfirst : first ≠ 0 := (hpos first List.mem_cons_self).ne'
  induction rest generalizing first level with
  | nil => simp [mul_div_cancel₀ level hfirst]
  | cons second rest ih =>
    have hsecond : second ≠ 0 := (hpos second (by simp)).ne'
    have hscale : level * (1 + (second - first) / first) / second = level / first := by
      field_simp
      ring
    rw [List.zip_cons_cons, List.map_cons, List.scanl_cons,
      ih second _ (fun close hclose => hpos close (List.mem_cons_of_mem _ hclose)) hsecond, hscale]
    simp [mul_div_cancel₀ level hfirst]

theorem levelsOf_dailyReturns {closes returns : List ℚ} {first : ℚ} {rest : List ℚ} (hcloses : closes = first :: rest)
    (h : dailyReturns id closes = .ok returns) :
    0 < first ∧ levelsOf id returns = closes.map (· * (1 / first)) ∧ returns.length + 1 = closes.length := by
  subst hcloses
  unfold dailyReturns at h
  split at h
  · cases h
  · rename_i hany
    have hpos : ∀ close ∈ first :: rest, 0 < close := by
      intro close hclose
      by_contra hle
      exact hany (List.any_eq_true.mpr ⟨close, hclose, decide_eq_true (not_lt.mp hle)⟩)
    cases h
    refine ⟨hpos first List.mem_cons_self, scanl_returns first rest 1 hpos, ?_⟩
    simp

/-- A window of the levels averages as the same window of the closes does. -/
theorem average_levels (closes : List ℚ) (scale : ℚ) (period : ℕ) (start stop : ℤ) :
    sumOf id (slice start stop (closes.map (· * scale))) / period =
      sumOf id (slice start stop closes) / period * scale := by
  rw [sumOf_id, sumOf_id, slice_map, List.sum_map_mul_right, List.map_id']
  ring

theorem average_latest (closes : List ℚ) (scale : ℚ) (period : ℕ) (start : ℤ) :
    sumOf id (sliceFrom start (closes.map (· * scale))) / period = sumOf id (sliceFrom start closes) / period * scale := by
  rw [sumOf_id, sumOf_id, sliceFrom_map, List.sum_map_mul_right, List.map_id']
  ring

theorem sma_latest {closes : List ℚ} {period : ℕ} (hpos : 0 < period) (hlen : period < closes.length) :
    sma id closes period 0 = sumOf id (sliceFrom (-(period : ℤ)) closes) / period := by
  have hstart : sliceIndex closes.length (-(period : ℤ)) = sliceIndex closes.length ((closes.length : ℤ) - period) :=
    sliceIndex_of_end hlen.le hpos
  have hslice : slice ((closes.length : ℤ) - (0 : ℕ) - period) ((closes.length : ℤ) - (0 : ℕ)) closes =
      sliceFrom (-(period : ℤ)) closes := by
    rw [Nat.cast_zero, sub_zero, slice_length, sliceFrom, sliceFrom, hstart]
  exact congrArg (fun window => sumOf id window / (period : ℚ)) hslice

theorem sma_before {closes : List ℚ} {period : ℕ} (hlen : period < closes.length) :
    sma id closes period 1 = sumOf id (slice (-((period + 1 : ℕ) : ℤ)) (-1) closes) / period := by
  have hstart : sliceIndex closes.length (-((period + 1 : ℕ) : ℤ)) =
      sliceIndex closes.length ((closes.length : ℤ) - (period + 1 : ℕ)) := sliceIndex_of_end hlen (Nat.succ_pos period)
  have hstop : sliceIndex closes.length (-((1 : ℕ) : ℤ)) = sliceIndex closes.length ((closes.length : ℤ) - (1 : ℕ)) :=
    sliceIndex_of_end (Nat.one_le_of_lt hlen) Nat.one_pos
  have hsub : (closes.length : ℤ) - (1 : ℕ) - period = closes.length - (period + 1 : ℕ) := by
    push_cast
    ring
  have hslice : slice ((closes.length : ℤ) - (1 : ℕ) - period) ((closes.length : ℤ) - (1 : ℕ)) closes =
      slice (-((period + 1 : ℕ) : ℤ)) (-((1 : ℕ) : ℤ)) closes := by
    simp only [slice, hstart, hstop, hsub]
  exact congrArg (fun window => sumOf id window / (period : ℚ)) hslice

theorem benchmarkReturns_dailyReturns {closes returns : List ℚ} (h : dailyReturns id closes = .ok returns) :
    benchmarkReturns returns = .ok returns := by
  unfold dailyReturns at h
  split at h
  · cases h
  · rename_i hany
    cases h
    refine if_neg fun hlow => ?_
    obtain ⟨dailyReturn, hmem, hle⟩ := List.any_eq_true.mp hlow
    obtain ⟨⟨earlier, later⟩, hpair, rfl⟩ := List.mem_map.mp hmem
    have hpos : ∀ close ∈ closes, 0 < close := by
      intro close hclose
      by_contra hle
      exact hany (List.any_eq_true.mpr ⟨close, hclose, decide_eq_true (not_lt.mp hle)⟩)
    have hearlier : 0 < earlier := hpos earlier (List.of_mem_zip hpair).1
    have hlater : 0 < later := hpos later (List.mem_of_mem_tail (List.of_mem_zip hpair).2)
    have hsum : (later - earlier) / earlier + 1 = later / earlier := by
      field_simp
      ring
    have hratio : 0 < later / earlier := div_pos hlater hearlier
    have hbound : (later - earlier) / earlier ≤ -1 := of_decide_eq_true hle
    linarith

theorem optionalPercentile_ok {name : String} {found : Option ℚ} (h : ∀ value ∈ found, IsPercentile value) :
    optionalPercentile name found = .ok found := by
  cases found with
  | none => rfl
  | some value =>
    rw [optionalPercentile, percentile, if_pos (h value rfl)]
    rfl

/-- In exact arithmetic the trend of the returns is the trend of the averages of the closes. -/
theorem trends_agree {closes : List ℚ} {atrRatio rangeEfficiency : Option ℚ} (pessimismInputs : Option PessimismInputs)
    (hlen : 201 ≤ closes.length) (hpos : ∀ close ∈ closes, 0 < close) (hatr : ∀ value ∈ atrRatio, IsPercentile value)
    (hrange : ∀ value ∈ rangeEfficiency, IsPercentile value) :
    ∃ returns facts, dailyReturns id closes = .ok returns ∧
      evaluateRegime id returns atrRatio rangeEfficiency pessimismInputs = .ok facts ∧
      facts.trend = some (metodoTrend id closes) := by
  obtain ⟨first, rest, hcloses⟩ := List.exists_cons_of_length_pos (Nat.lt_of_lt_of_le (by decide) hlen)
  obtain ⟨returns, hreturns⟩ : ∃ returns, dailyReturns id closes = .ok returns := by
    refine ⟨_, if_neg fun hany => ?_⟩
    obtain ⟨close, hmem, hle⟩ := List.any_eq_true.mp hany
    exact absurd (of_decide_eq_true hle) (not_le.mpr (hpos close hmem))
  obtain ⟨hfirst, hlevels, hlength⟩ := levelsOf_dailyReturns hcloses hreturns
  have hfacts : ∃ facts, evaluateRegime id returns atrRatio rangeEfficiency pessimismInputs = .ok facts ∧
      facts.trend = trend id returns := by
    unfold evaluateRegime
    rw [optionalPercentile_ok hatr, optionalPercentile_ok hrange, benchmarkReturns_dailyReturns hreturns]
    exact ⟨_, rfl, rfl⟩
  obtain ⟨facts, hrun, htrend⟩ := hfacts
  refine ⟨returns, facts, hreturns, hrun, htrend.trans ?_⟩
  have hslow : smaSlow < closes.length := hlen
  have hmid : smaMid < closes.length := lt_trans (by decide) hslow
  have hlatest : ∀ period : ℕ, 0 < period → period < closes.length →
      sumOf id (sliceFrom (-(period : ℤ)) (levelsOf id returns)) / period = sma id closes period 0 * (1 / first) := by
    intro period hperiod hshort
    rw [sma_latest hperiod hshort, hlevels, average_latest]
  have hbefore : ∀ period : ℕ, period < closes.length →
      sumOf id (slice (-((period + 1 : ℕ) : ℤ)) (-1) (levelsOf id returns)) / period =
        sma id closes period 1 * (1 / first) := by
    intro period hshort
    rw [sma_before hshort, hlevels, average_levels]
  unfold trend
  rw [if_neg (by omega), metodoTrend_eq, ← trendOf_scale (one_div_pos.mpr hfirst), ← hlatest smaSlow (by decide) hslow,
    ← hlatest smaMid (by decide) hmid, ← hbefore smaSlow hslow, ← hbefore smaMid hmid]
  rfl

/-- Closes that rise by one a day. -/
def risingCloses : List ℚ := (List.range 201).map fun (day : ℕ) => (day : ℚ) + 1

theorem trends_agree_rising :
    ∃ returns facts, dailyReturns id risingCloses = .ok returns ∧ evaluateRegime id returns none none none = .ok facts ∧
      facts.trend = some (metodoTrend id risingCloses) := by
  refine trends_agree none (by rw [risingCloses, List.length_map, List.length_range]) (fun close hclose => ?_) nofun nofun
  obtain ⟨day, -, rfl⟩ := List.mem_map.mp hclose
  exact Nat.cast_add_one_pos day

end AutoTrader.Strategy
