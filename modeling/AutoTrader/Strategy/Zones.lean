import AutoTrader.Runtime.Sequences
import AutoTrader.Strategy.Pivots
import Mathlib.Data.List.Dedup
import Mathlib.Data.List.Sort
import Mathlib.Data.Rat.Floor

/-! The zones of section 10: the prices of the last dates are put into bins, and a bin that was touched at three
moments is a zone. Which day a moment falls on is for the zone of the source to say. -/

namespace AutoTrader.Strategy

open AutoTrader.Domain AutoTrader.Runtime

/-- A price and the bar it was seen on. -/
abbrev Mark := Instant × ℚ

def minimumDistinctTouches : Nat := 3

def allTimeHighDates : Nat := 3

def ordinaryDates : Nat := 10

structure ZoneConfig where
  sourceTimezone : String
  deriving DecidableEq

/-- `_zone_info`; `zones` has the local day of a moment for the names that are known. -/
def zoneInfo (zones : String → Option (Instant → Int)) (value : String) : Except PyError (Instant → Int) :=
  if untrimmed value then .error ⟨.valueError, "source_timezone must be an IANA timezone"⟩
  else
    match zones value with
    | none => .error ⟨.valueError, "source_timezone must be an IANA timezone"⟩
    | some dateOf => .ok dateOf

/-- `_observations`: the swings, and the open and the close of every bar. -/
def observations (selected : List CompletedOhlcvBar) : Except PyError (List Mark) := do
  let pivots ← confirmedPivots selected defaultPivotConfig
  pure <| (pivots.map fun pivot => (pivot.timestamp, pivot.price)) ++
    selected.flatMap fun bar => [(bar.timestamp, bar.open_.toRat), (bar.timestamp, bar.close.toRat)]

def atObservedAllTimeHigh (bars : List CompletedOhlcvBar) : Bool :=
  match bars.getLast? with
  | none => false
  | some last => bars.all fun bar => bar.high.toRat ≤ last.close.toRat

/-! ### Bins -/

/-- `while candidate**3 < value: candidate += 1`. -/
def cubeRootFrom (value candidate : Nat) : Nat :=
  if candidate ^ 3 < value then cubeRootFrom value (candidate + 1) else candidate
termination_by value - candidate
decreasing_by
  rename_i h
  have hle : candidate ≤ candidate ^ 3 := Nat.le_self_pow (by decide) candidate
  omega

/-- `_cube_root_ceiling`. -/
def cubeRootCeiling (value : Nat) : Nat := cubeRootFrom value 1

/-- `_bin_index`. -/
def binIndex (value minimum span : ℚ) (binCount : Nat) : Int :=
  min ⌊(value - minimum) * binCount / span⌋ (binCount - 1)

def lowest (first : Mark) (rest : List Mark) : ℚ := (minBy Prod.snd first rest).2

def highest (first : Mark) (rest : List Mark) : ℚ := (maxBy Prod.snd first rest).2

/-- `min(observations) == max(observations)`. -/
def degenerate : List Mark → Bool
  | [] => true
  | first :: rest => lowest first rest = highest first rest

/-- The bin of a mark among all the marks. -/
def markIndex : List Mark → Mark → Int
  | [], _ => 0
  | first :: rest, mark =>
    binIndex mark.2 (lowest first rest) (highest first rest - lowest first rest) (cubeRootCeiling (first :: rest).length)

/-- The bins with their marks. -/
def binsOf (marks : List Mark) : List (List Mark) :=
  distribute (fun mark => (markIndex marks mark).toNat) (cubeRootCeiling marks.length) marks

/-! ### Zones -/

/-- The distinct moments of a bin. -/
def touches (bin : List Mark) : List Instant := (bin.map (·.1)).dedup.insertionSort (· ≤ ·)

theorem lowest_le_highest (first : Mark) (rest : List Mark) : lowest first rest ≤ highest first rest :=
  minBy_le Prod.snd first rest _ (maxBy_mem Prod.snd first rest)

theorem one_le_touches (first : Mark) (rest : List Mark) : 1 ≤ (touches (first :: rest)).length := by
  have hmem : first.1 ∈ touches (first :: rest) :=
    (List.mem_insertionSort _).mpr (List.mem_dedup.mpr (List.mem_map_of_mem List.mem_cons_self))
  exact List.length_pos_of_mem hmem

theorem touches_ascending (bin : List Mark) : (touches bin).Pairwise (· < ·) := by
  have hsorted := List.pairwise_insertionSort (· ≤ ·) (bin.map (·.1)).dedup
  have hnodup : (touches bin).Nodup := (List.perm_insertionSort _ _).nodup_iff.mpr (List.nodup_dedup _)
  exact (hsorted.and hnodup).imp fun h => lt_of_le_of_ne h.1 h.2

def hlitZone (first : Mark) (rest : List Mark) : HlitZone where
  lowerBoundary := lowest first rest
  upperBoundary := highest first rest
  touchCount := (touches (first :: rest)).length
  strength := min (touches (first :: rest)).length 5
  touchedAt := touches (first :: rest)
  ordered := lowest_le_highest first rest
  touched := one_le_touches first rest
  capped := rfl
  counted := rfl
  ascending := touches_ascending _

/-- A bin with enough touches. -/
def zoneOf : List Mark → Option HlitZone
  | [] => none
  | first :: rest =>
    if minimumDistinctTouches ≤ (touches (first :: rest)).length then some (hlitZone first rest) else none

/-- The bars of a day lie five minutes apart. -/
def Contiguous (bars : List CompletedOhlcvBar) : Prop :=
  bars.IsChain fun earlier later => later.timestamp - earlier.timestamp = 300000000

instance (bars : List CompletedOhlcvBar) : Decidable (Contiguous bars) := inferInstanceAs (Decidable (List.IsChain _ _))

/-- `by_date`. -/
def byDate (dateOf : Instant → Int) (bars : List CompletedOhlcvBar) : List (Int × List CompletedOhlcvBar) :=
  (bars.map fun bar => dateOf bar.timestamp).eraseDups.map fun day =>
    (day, bars.filter fun bar => dateOf bar.timestamp = day)

def requiredDates (bars : List CompletedOhlcvBar) : Nat :=
  if atObservedAllTimeHigh bars then allTimeHighDates else ordinaryDates

/-- The last dates, as many as are required. -/
def selectedDays (dateOf : Instant → Int) (bars : List CompletedOhlcvBar) : List (Int × List CompletedOhlcvBar) :=
  (byDate dateOf bars).drop ((byDate dateOf bars).length - requiredDates bars)

theorem one_le_cubeRootFrom {value candidate : Nat} (h : 1 ≤ candidate) : 1 ≤ cubeRootFrom value candidate := by
  induction candidate using cubeRootFrom.induct value with
  | case1 candidate hlt ih =>
    rw [cubeRootFrom, if_pos hlt]
    exact ih (by omega)
  | case2 candidate hge =>
    rw [cubeRootFrom, if_neg hge]
    exact h

theorem one_le_cubeRootCeiling (value : Nat) : 1 ≤ cubeRootCeiling value := one_le_cubeRootFrom le_rfl

def buildHlitZones (zones : String → Option (Instant → Int)) (bars : List CompletedOhlcvBar) (config : ZoneConfig) :
    Except PyError ZoneFacts :=
  match bars.getLast? with
  | none => .error ⟨.valueError, "zones require completed OHLCV bars"⟩
  | some last =>
    if ¬InOrder bars then .error ⟨.valueError, "zone bars must be strictly ascending"⟩
    else do
      let dateOf ← zoneInfo zones config.sourceTimezone
      if ∃ day ∈ byDate dateOf bars, ¬Contiguous day.2 then
        throw ⟨.valueError, "zone evidence must be contiguous five-minute bars"⟩
      let marks ← observations ((selectedDays dateOf bars).flatMap (·.2))
      pure
        { observedAt := last.timestamp
          sourceTimezone := config.sourceTimezone
          selectedDates := (selectedDays dateOf bars).map (·.1)
          binCount := cubeRootCeiling marks.length
          zones :=
            if (byDate dateOf bars).length < requiredDates bars ∨ degenerate marks then []
            else (binsOf marks).filterMap zoneOf
          bins := one_le_cubeRootCeiling _ }

end AutoTrader.Strategy
