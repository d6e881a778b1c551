import AutoTrader.Numeric.Rounding
import AutoTrader.Runtime.Sequences
import AutoTrader.Strategy.Pivots

/-! The retracement of section 3. It is drawn for a regular divergence only, from the extreme of its segment to
the second pivot, and a setup whose levels are out of order cannot be built. -/

namespace AutoTrader.Strategy

open AutoTrader.Domain AutoTrader.Numeric AutoTrader.Runtime

def fib25 : ℚ := 25 / 100
def fib50 : ℚ := 50 / 100
def fib66 : ℚ := 66 / 100
def fib127 : ℚ := 1272 / 1000
def fib162 : ℚ := 1618 / 1000

structure HlitFields where
  direction : Side
  divergenceKind : DivergenceKind
  anchorA : ℚ
  anchorB : ℚ
  fib25 : ℚ
  fib50 : ℚ
  fib66 : ℚ
  targetPrice : ℚ
  invalidationPrice : ℚ
  firstPivotIndex : Nat
  secondPivotIndex : Nat
  observedAt : Instant
  deriving DecidableEq

namespace HlitFields

/-- The prices under their names. -/
def prices (fields : HlitFields) : List (String × ℚ) :=
  [("anchor_a", fields.anchorA), ("anchor_b", fields.anchorB), ("fib_25", fields.fib25), ("fib_50", fields.fib50),
    ("fib_66", fields.fib66), ("target_price", fields.targetPrice), ("invalidation_price", fields.invalidationPrice)]

/-- The levels lie in order between the anchors. -/
def checkLevels (fields : HlitFields) : Except PyError Unit :=
  match fields.direction with
  | .buy =>
    if ¬(fields.anchorB < fields.fib25 ∧ fields.fib25 < fields.fib50 ∧ fields.fib50 < fields.fib66) then
      .error ⟨.valueError, "bullish HLIT levels must ascend from the low anchor"⟩
    else if fields.anchorA ≤ fields.fib66 then
      .error ⟨.valueError, "bullish 66 percent must stay below the high anchor"⟩
    else pure ()
  | .sell =>
    if ¬(fields.fib25 < fields.anchorB ∧ fields.fib50 < fields.fib25 ∧ fields.fib66 < fields.fib50) then
      .error ⟨.valueError, "bearish HLIT levels must descend from the high anchor"⟩
    else if fields.fib66 ≤ fields.anchorA then
      .error ⟨.valueError, "bearish 66 percent must stay above the low anchor"⟩
    else pure ()

/-- `__post_init__`. -/
def postInit (fields : HlitFields) : Except PyError Unit :=
  match fields.prices.find? fun entry => entry.2 ≤ 0 with
  | some entry => .error ⟨.valueError, entry.1 ++ " must be positive"⟩
  | none =>
    if fields.secondPivotIndex ≤ fields.firstPivotIndex then
      .error ⟨.valueError, "HLIT pivots must be ordered non-negative indices"⟩
    else if fields.targetPrice ≠ fields.fib66 then
      .error ⟨.valueError, "HLIT target must be the 66 percent level"⟩
    else if fields.invalidationPrice ≠ fields.anchorB then
      .error ⟨.valueError, "HLIT invalidation must be the extreme anchor"⟩
    else fields.checkLevels

end HlitFields

/-- One drawn retracement. -/
def HlitSetup := { fields : HlitFields // fields.postInit = .ok () }

def hlitSetup (fields : HlitFields) : Except PyError HlitSetup :=
  match h : fields.postInit with
  | .error e => .error e
  | .ok () => .ok ⟨fields, h⟩

structure HlitFacts where
  observedAt : Option Instant
  bullish : Option HlitSetup
  bearish : Option HlitSetup

def HlitFacts.forSide (facts : HlitFacts) : Side → Option HlitSetup
  | .buy => facts.bullish
  | .sell => facts.bearish

/-- `extension_prices`. -/
def extensionPrices (setup : HlitSetup) : ℚ × ℚ :=
  let span := rounded (rounded (setup.1.fib66 - setup.1.anchorB) / fib66)
  match setup.1.direction with
  | .buy => (rounded (setup.1.anchorB + rounded (span * fib127)), rounded (setup.1.anchorB + rounded (span * fib162)))
  | .sell =>
    (rounded (setup.1.anchorB - rounded (rounded |span| * fib127)), rounded (setup.1.anchorB - rounded (rounded |span| * fib162)))

/-! ### Drawing -/

/-- `_segment`: the bars from the first pivot to the second, when they are the pivots' own. -/
def segment (bars : List CompletedOhlcvBar) (signal : DivergenceSignal) : Option (List CompletedOhlcvBar) := do
  let first ← bars[signal.first.index]?
  let second ← bars[signal.second.index]?
  if signal.first.index < signal.second.index ∧ signal.first.timestamp = first.timestamp ∧
      signal.second.timestamp = second.timestamp then
    some ((bars.take (signal.second.index + 1)).drop signal.first.index)
  else none

/-- The setup of a bullish divergence, upwards from its second low. -/
def bullishFields (signal : DivergenceSignal) (anchorA : ℚ) (observedAt : Instant) : HlitFields :=
  let anchorB := signal.second.price
  let span := rounded (anchorA - anchorB)
  let level (fib : ℚ) := rounded (anchorB + rounded (span * fib))
  { direction := .buy
    divergenceKind := .regularBullish
    anchorA := anchorA
    anchorB := anchorB
    fib25 := level fib25
    fib50 := level fib50
    fib66 := level fib66
    targetPrice := level fib66
    invalidationPrice := anchorB
    firstPivotIndex := signal.first.index
    secondPivotIndex := signal.second.index
    observedAt := observedAt }

/-- The setup of a bearish divergence, downwards from its second high. -/
def bearishFields (signal : DivergenceSignal) (anchorA : ℚ) (observedAt : Instant) : HlitFields :=
  let anchorB := signal.second.price
  let span := rounded (anchorB - anchorA)
  let level (fib : ℚ) := rounded (anchorB - rounded (span * fib))
  { direction := .sell
    divergenceKind := .regularBearish
    anchorA := anchorA
    anchorB := anchorB
    fib25 := level fib25
    fib50 := level fib50
    fib66 := level fib66
    targetPrice := level fib66
    invalidationPrice := anchorB
    firstPivotIndex := signal.first.index
    secondPivotIndex := signal.second.index
    observedAt := observedAt }

/-- `max(bar.high for bar in segment)`. -/
def highestHigh (first : CompletedOhlcvBar) (rest : List CompletedOhlcvBar) : ℚ :=
  (maxBy (fun bar => bar.high.toRat) first rest).high.toRat

/-- `min(bar.low for bar in segment)`. -/
def lowestLow (first : CompletedOhlcvBar) (rest : List CompletedOhlcvBar) : ℚ :=
  (minBy (fun bar => bar.low.toRat) first rest).low.toRat

/-- `_setup` for a regular bullish divergence. -/
def bullishSetup (bars : List CompletedOhlcvBar) (observedAt : Instant) (divergence : DivergenceFacts) :
    Except PyError (Option HlitSetup) :=
  match divergence.regular.find? fun candidate => candidate.kind = .regularBullish with
  | none => pure none
  | some signal =>
    match segment bars signal with
    | none | some [] => pure none
    | some (first :: rest) =>
      let anchorA := highestHigh first rest
      if rounded (anchorA - signal.second.price) ≤ 0 then pure none
      else (hlitSetup (bullishFields signal anchorA observedAt)).map some

/-- `_setup` for a regular bearish divergence. -/
def bearishSetup (bars : List CompletedOhlcvBar) (observedAt : Instant) (divergence : DivergenceFacts) :
    Except PyError (Option HlitSetup) :=
  match divergence.regular.find? fun candidate => candidate.kind = .regularBearish with
  | none => pure none
  | some signal =>
    match segment bars signal with
    | none | some [] => pure none
    | some (first :: rest) =>
      let anchorA := lowestLow first rest
      if rounded (signal.second.price - anchorA) ≤ 0 then pure none
      else (hlitSetup (bearishFields signal anchorA observedAt)).map some

def buildHlitSetups (bars : List CompletedOhlcvBar) (divergence : DivergenceFacts) : Except PyError HlitFacts :=
  if ¬InOrder bars then .error ⟨.valueError, "HLIT bars must be strictly ascending"⟩
  else
    match bars.getLast? with
    -- without bars there is no segment
    | none => pure ⟨none, none, none⟩
    | some last => do
      let bullish ← bullishSetup bars last.timestamp divergence
      let bearish ← bearishSetup bars last.timestamp divergence
      pure ⟨some last.timestamp, bullish, bearish⟩

end AutoTrader.Strategy
