import AutoTrader.Domain.CompletedOhlcv
import AutoTrader.Strategy.Facts

/-! Swing highs and lows, and the divergence between the last two of a kind and an oscillator. A bar is a
pivot when it exceeds every neighbour of its window, so a tie leaves none. -/

namespace AutoTrader.Strategy

open AutoTrader.Domain

structure PivotConfig where
  left : Nat
  right : Nat
  left_pos : 0 < left
  deriving DecidableEq

/-- `PivotConfig()`. -/
def defaultPivotConfig : PivotConfig := ⟨3, 0, by decide⟩

/-- The bars of `_bars` follow one another in time. -/
def InOrder (bars : List CompletedOhlcvBar) : Prop := bars.IsChain fun earlier later => earlier.timestamp < later.timestamp

instance (bars : List CompletedOhlcvBar) : Decidable (InOrder bars) := inferInstanceAs (Decidable (List.IsChain _ _))

theorem low_le_high (bar : CompletedOhlcvBar) : bar.low.toRat ≤ bar.high.toRat :=
  bar.low_le_open.trans bar.open_le_high

/-- The other bars of the window around an index. -/
def neighbours (values : List CompletedOhlcvBar) (config : PivotConfig) (index : Nat) : List CompletedOhlcvBar :=
  let first := index - config.left
  ((List.range' first (index + config.right + 1 - first)).filter (· ≠ index)).filterMap (values[·]?)

def highPivotAt (config : PivotConfig) (index : Nat) (candidate : CompletedOhlcvBar) : Pivot where
  index := index
  confirmationIndex := index + config.right
  kind := .high
  price := candidate.high.toRat
  timestamp := candidate.timestamp
  confirmed := true
  later := Nat.le_add_right _ _
  positive := candidate.low_pos.trans_le (low_le_high candidate)

def lowPivotAt (config : PivotConfig) (index : Nat) (candidate : CompletedOhlcvBar) : Pivot where
  index := index
  confirmationIndex := index + config.right
  kind := .low
  price := candidate.low.toRat
  timestamp := candidate.timestamp
  confirmed := true
  later := Nat.le_add_right _ _
  positive := candidate.low_pos

/-- The pivots at an index: a bar may be both. -/
def pivotsAt (values : List CompletedOhlcvBar) (config : PivotConfig) (index : Nat) : List Pivot :=
  match values[index]? with
  | none => []
  | some candidate =>
    (if ∀ other ∈ neighbours values config index, other.high.toRat < candidate.high.toRat then
      [highPivotAt config index candidate] else []) ++
    (if ∀ other ∈ neighbours values config index, candidate.low.toRat < other.low.toRat then
      [lowPivotAt config index candidate] else [])

def confirmedPivots (bars : List CompletedOhlcvBar) (config : PivotConfig) : Except PyError (List Pivot) :=
  if InOrder bars then
    .ok ((List.range' config.left (bars.length - config.right - config.left)).flatMap (pivotsAt bars config))
  else .error ⟨.valueError, "pivot bars must be strictly ascending"⟩

/-! ### Divergence -/

/-- `_kind`. -/
def divergenceKind (pivotKind : PivotKind) (firstPrice secondPrice firstOscillator secondOscillator : ℚ) :
    Option DivergenceKind :=
  match pivotKind with
  | .low =>
    if secondPrice < firstPrice ∧ firstOscillator < secondOscillator then some .regularBullish
    else if firstPrice < secondPrice ∧ secondOscillator < firstOscillator then some .hiddenBullish
    else none
  | .high =>
    if firstPrice < secondPrice ∧ secondOscillator < firstOscillator then some .regularBearish
    else if secondPrice < firstPrice ∧ firstOscillator < secondOscillator then some .hiddenBearish
    else none

/-- The last two of a list. -/
def lastPair {α : Type} (values : List α) : Option (α × α) :=
  match values.reverse with
  | second :: first :: _ => some (first, second)
  | _ => none

/-- The signal of the last two pivots of a kind. -/
def signalOf (pivots : List Pivot) (oscillator : List ℚ) (kind : PivotKind) : Option DivergenceSignal := do
  let (first, second) ← lastPair (pivots.filter (·.kind = kind))
  let firstOscillator ← oscillator[first.index]?
  let secondOscillator ← oscillator[second.index]?
  let divergence ← divergenceKind kind first.price second.price firstOscillator secondOscillator
  pure ⟨divergence, first, second, firstOscillator, secondOscillator⟩

/-- The name starts with `REGULAR_`. -/
def DivergenceKind.isRegular : DivergenceKind → Bool
  | .regularBullish | .regularBearish => true
  | .hiddenBullish | .hiddenBearish => false

def evaluateDivergence (prices : List CompletedOhlcvBar) (oscillator : List ℚ) (config : Option PivotConfig) :
    Except PyError DivergenceFacts :=
  if ¬InOrder prices then .error ⟨.valueError, "pivot bars must be strictly ascending"⟩
  else if oscillator.length ≠ prices.length then .error ⟨.valueError, "oscillator must align with completed bars"⟩
  else do
    let pivots ← confirmedPivots prices (config.getD defaultPivotConfig)
    let signals := [PivotKind.low, .high].filterMap (signalOf pivots oscillator)
    pure
      { observedAt := prices.getLast?.map (·.timestamp)
        regular := signals.filter (·.kind.isRegular)
        hidden := signals.filter fun signal => ¬signal.kind.isRegular }

end AutoTrader.Strategy
