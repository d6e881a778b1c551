import AutoTrader.Domain.Basic
import AutoTrader.Domain.CompletedOhlcv
import AutoTrader.Numeric.Sums
import AutoTrader.Runtime.Sequences
import AutoTrader.Strategy.Facts

/-! The regime of an instrument, from its own daily returns. The rules are written over the rounding of the
arithmetic they run in: the code's is `rounded`, and `id` makes them exact. -/

namespace AutoTrader.Strategy

open AutoTrader.Domain AutoTrader.Numeric AutoTrader.Runtime

/-! ### Inputs -/

/-- `0 <= percentile <= 1`. -/
def IsPercentile (value : ℚ) : Prop := 0 ≤ value ∧ value ≤ 1

instance (value : ℚ) : Decidable (IsPercentile value) := inferInstanceAs (Decidable (_ ∧ _))

/-- The date is numbered by its day. -/
structure PessimismInputs where
  completedDate : Option Int
  volatilityPercentile : Option ℚ
  putCallPercentile : Option ℚ
  breadthPercentile : Option ℚ
  volatility : ∀ value ∈ volatilityPercentile, IsPercentile value
  putCall : ∀ value ∈ putCallPercentile, IsPercentile value
  breadth : ∀ value ∈ breadthPercentile, IsPercentile value

def bottomQuintile : ℚ := 20 / 100
def upperDecile : ℚ := 90 / 100
def lowerDecile : ℚ := 10 / 100

/-- `_percentile`. -/
def percentile (name : String) (value : ℚ) : Except PyError ℚ :=
  if IsPercentile value then .ok value else .error ⟨.valueError, s!"{name} must be a point-in-time percentile"⟩

/-- Of a value that may be absent. -/
def optionalPercentile (name : String) : Option ℚ → Except PyError (Option ℚ)
  | none => .ok none
  | some value => (percentile name value).map some

/-- `_pessimism_extreme`. -/
def pessimismExtremeOf (inputs : PessimismInputs) : Option Bool :=
  if inputs.completedDate.isNone then none
  else
    let high := [inputs.volatilityPercentile, inputs.putCallPercentile].filterMap fun found =>
      found.map fun value => decide (upperDecile ≤ value)
    let low := inputs.breadthPercentile.toList.map fun value => decide (value ≤ lowerDecile)
    let matched := high ++ low
    if matched.length < 2 then none else some (decide (2 ≤ matched.count true))

/-! ### The trend -/

section

variable (round : ℚ → ℚ)

/-- `sum(amounts, start=Decimal(0))`. -/
def sumOf (amounts : List ℚ) : ℚ := amounts.foldl (fun total amount => round (total + amount)) 0

def dailyReturns (closes : List ℚ) : Except PyError (List ℚ) :=
  if closes.any (· ≤ 0) then .error ⟨.valueError, "a close must be positive"⟩
  else .ok ((closes.zip closes.tail).map fun (earlier, later) => round (round (later - earlier) / earlier))

/-- `_returns`. -/
def benchmarkReturns (values : List ℚ) : Except PyError (List ℚ) :=
  if values.any (· ≤ -1) then .error ⟨.valueError, "benchmark return must be greater than negative one"⟩
  else .ok values

/-- The levels of an index that starts at one. -/
def levelsOf (returns : List ℚ) : List ℚ :=
  returns.scanl (fun level dailyReturn => round (level * round (1 + dailyReturn))) 1

/-- Which trend two averages and the ones before them show. -/
def trendOf (sma200 previousSma200 sma70 previousSma70 : ℚ) : RegimeLabel :=
  if previousSma200 < sma200 ∧ sma200 < sma70 ∧ previousSma70 < sma70 then .trendUp
  else if sma200 < previousSma200 ∧ sma70 < sma200 ∧ sma70 < previousSma70 then .trendDown
  else .balance

/-- `_trend`. -/
def trend (returns : List ℚ) : Option RegimeLabel :=
  if returns.length < 200 then none
  else
    let levels := levelsOf round returns
    let sma200 := round (sumOf round (sliceFrom (-200) levels) / 200)
    let previousSma200 := round (sumOf round (slice (-201) (-1) levels) / 200)
    let sma70 := round (sumOf round (sliceFrom (-70) levels) / 70)
    let previousSma70 := round (sumOf round (slice (-71) (-1) levels) / 70)
    some (trendOf sma200 previousSma200 sma70 previousSma70)

def evaluateRegime (values : List ℚ) (atrRatio rangeEfficiency : Option ℚ) (pessimismInputs : Option PessimismInputs) :
    Except PyError RegimeFacts := do
  let volatilityPercentile ← optionalPercentile "atr_ratio" atrRatio
  let efficiencyPercentile ← optionalPercentile "range_efficiency" rangeEfficiency
  let returns ← benchmarkReturns values
  let trend := trend round returns
  pure
    { state := if trend.isSome then .available else .unavailable
      trend := trend
      sideways := efficiencyPercentile.map fun value => decide (value ≤ bottomQuintile)
      lowVolatility := volatilityPercentile.map fun value => decide (value ≤ bottomQuintile)
      pessimismExtreme := pessimismInputs.bind pessimismExtremeOf
      excluded := !trend.isSome }

end

end AutoTrader.Strategy

/-! The MACD of the daily swing and of the divergence: two exponential averages of the closes, their difference
and the average of that. Each average is seeded with the mean of its first values. -/

namespace AutoTrader.Strategy

open AutoTrader.Domain AutoTrader.Numeric

def macdFast : Nat := 12
def macdSlow : Nat := 26
def macdSignal : Nat := 9

/-- `MACD_WARMUP_BARS`. -/
def macdWarmupBars : Nat := macdSlow + macdSignal - 1

/-- `seed += multiplier * (value - seed)`. -/
def smooth (multiplier seed value : ℚ) : ℚ :=
  rounded (seed + rounded (multiplier * rounded (value - seed)))

/-- The average of a period from its first full window on. -/
def exponential (period : Nat) (values : List ℚ) : List ℚ :=
  (values.drop period).scanl (smooth (rounded (2 / (period + 1)))) (rounded (sumSig 28 (values.take period) / period))

/-- `_ema`. -/
def ema (closes : List ℚ) (period : Nat) : Except PyError (List (Option ℚ)) :=
  if closes.length < period then .error ⟨.indexError, "list assignment index out of range"⟩
  else .ok (List.replicate (period - 1) none ++ (exponential period closes).map some)

/-- `fast_value - slow_value`, where both are there. -/
def macdValue : Option ℚ → Option ℚ → Option ℚ
  | some fast, some slow => some (rounded (fast - slow))
  | _, _ => none

/-- The average of the MACD; from the first slow average on none of its values is missing. -/
def signalLine (macd : List (Option ℚ)) : List (Option ℚ) :=
  List.replicate (macdWarmupBars - 1) none ++
    (exponential macdSignal ((macd.drop (macdSlow - 1)).map (·.getD 0))).map some

def macdSeries (closes : List ℚ) : Except PyError (List (Option ℚ) × List (Option ℚ)) := do
  let fast ← ema closes macdFast
  let slow ← ema closes macdSlow
  let macd := List.zipWith macdValue fast slow
  if macd.length < macdWarmupBars then throw ⟨.indexError, "list index out of range"⟩
  pure (macd, signalLine macd)

/-! ### The histogram -/

/-- Both lines have a value. -/
def bothThere (entry : Option ℚ × Option ℚ) : Bool := entry.1.isSome && entry.2.isSome

def difference (entry : Option ℚ × Option ℚ) : ℚ := rounded (entry.1.getD 0 - entry.2.getD 0)

/-- `aligned_macd_histogram`: the bars and the histogram without the bars of the warm-up. -/
def alignedMacdHistogram (bars : List CompletedOhlcvBar) : Except PyError (Option (List CompletedOhlcvBar × List ℚ)) :=
  if bars.length < macdWarmupBars then pure none
  else do
    let (macd, signal) ← macdSeries (bars.map (·.close.toRat))
    pure <| ((macd.zip signal).findIdx? bothThere).map fun start =>
      (bars.drop start, ((macd.zip signal).drop start).map difference)

end AutoTrader.Strategy
