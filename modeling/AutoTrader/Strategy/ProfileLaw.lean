import AutoTrader.Runtime.Pointwise
import AutoTrader.Runtime.Sequences
import AutoTrader.Strategy.DistinctTrades
import AutoTrader.Strategy.OrderFlow
import Mathlib.Algebra.BigOperators.Intervals
import Mathlib.Algebra.Order.BigOperators.Group.Finset
import Mathlib.Data.Prod.Lex
import Mathlib.Order.Interval.Finset.Nat

/-! The volume profile of public trades: their notional by price bucket, the point of control and the value
area around it. -/

namespace AutoTrader.Strategy

open AutoTrader.Domain AutoTrader.Numeric AutoTrader.Runtime

/-- `_VALUE_AREA_FRACTION`. -/
def valueAreaFraction : ℚ := 70 / 100

/-- `_round_to_bucket`: rounded half up to a number of ticks, which has to fit into the context. -/
def roundToBucket (price tickSize : ℚ) : Except PyError ℚ :=
  let units := ⌊rounded (price / tickSize) + 1 / 2⌋
  if 10 ^ 28 ≤ |units| then .error ⟨.invalidOperation, "[<class 'decimal.InvalidOperation'>]"⟩
  else .ok (rounded (units * tickSize))

/-- What was traded in a bucket by one side, or by none that is known. -/
def bucketNotional (placed : List (ℚ × TradePrint)) (price : ℚ) (side : Option AggressorSide) : ℚ :=
  sumSig 28 ((placed.filter fun entry => entry.1 = price ∧ entry.2.side = side).map (·.2.worth))

/-- `_level`. -/
def profileLevel (placed : List (ℚ × TradePrint)) (price : ℚ) : ProfileLevel :=
  let buy := bucketNotional placed price (some .buy)
  let sell := bucketNotional placed price (some .sell)
  let unknown := bucketNotional placed price none
  { price := price
    buyNotional := buy
    sellNotional := sell
    unknownNotional := unknown
    totalNotional := rounded (rounded (buy + sell) + unknown)
    deltaNotional := rounded (buy - sell)
    imbalanceRatio := if 0 < min buy sell then some (rounded (max buy sell / min buy sell)) else none }

/-- The levels of the buckets, by price. -/
def profileLevels (placed : List (ℚ × TradePrint)) : List ProfileLevel :=
  (((placed.map (·.1)).dedup).insertionSort (· ≤ ·)).map (profileLevel placed)

/-- The notional of the level at an index. -/
def notionalOf (levels : List ProfileLevel) (index : Nat) : ℚ := (levels[index]?.map (·.totalNotional)).getD 0

def priceOf (levels : List ProfileLevel) (index : Nat) : ℚ := (levels[index]?.map (·.price)).getD 0

/-- The largest first, then the nearest to the current price, then the lowest. -/
def levelKey (levels : List ProfileLevel) (currentPrice : ℚ) (index : Nat) : ℚ ×ₗ ℚ ×ₗ ℚ :=
  toLex (-notionalOf levels index, toLex (|rounded (priceOf levels index - currentPrice)|, priceOf levels index))

/-! ### The value area -/

structure ValueArea where
  low : Nat
  high : Nat
  included : ℚ
  deriving DecidableEq

/-- The levels next to the area. -/
def ValueArea.candidates (levels : List ProfileLevel) (area : ValueArea) : List Nat :=
  (if 0 < area.low then [area.low - 1] else []) ++ (if area.high + 1 < levels.length then [area.high + 1] else [])

/-- One turn of the loop of `_value_area`, or nothing when it has ended. -/
def ValueArea.grow (levels : List ProfileLevel) (currentPrice target : ℚ) (area : ValueArea) : Option ValueArea :=
  match area.candidates levels with
  | [] => none
  | first :: rest =>
    if area.included < target then
      let selected := minBy (levelKey levels currentPrice) first rest
      some
        { low := min area.low selected
          high := max area.high selected
          included := rounded (area.included + notionalOf levels selected) }
    else none

/-- The loop, turned `fuel` times at most. -/
def ValueArea.growAll (levels : List ProfileLevel) (currentPrice target : ℚ) : Nat → ValueArea → ValueArea
  | 0, area => area
  | fuel + 1, area =>
    match area.grow levels currentPrice target with
    | none => area
    | some area => area.growAll levels currentPrice target fuel

/-- `_value_area`; a turn takes in one more level. -/
def valueArea (levels : List ProfileLevel) (pocIndex : Nat) (currentPrice totalNotional : ℚ) : ValueArea :=
  ValueArea.growAll levels currentPrice (rounded (valueAreaFraction * totalNotional)) levels.length
    ⟨pocIndex, pocIndex, notionalOf levels pocIndex⟩

/-! ### The profile -/

def unavailableProfile : ProfileFacts where
  state := .unavailable
  levels := []
  pointOfControl := none
  valueAreaLow := none
  valueAreaHigh := none
  totalNotional := 0

/-- `range(len(levels))` under the key of the point of control. -/
def pocIndex (levels : List ProfileLevel) (currentPrice : ℚ) : Nat :=
  match List.range levels.length with
  | [] => 0
  | first :: rest => minBy (levelKey levels currentPrice) first rest

/-- The profile of the trades in their buckets. -/
def profileOf (placed : List (ℚ × TradePrint)) (currentPrice : ℚ) : ProfileFacts :=
  let levels := profileLevels placed
  let total := sumSig 28 (levels.map (·.totalNotional))
  let poc := pocIndex levels currentPrice
  let area := valueArea levels poc currentPrice total
  { state := if levels.any fun level => 0 < level.unknownNotional then .unknown else .available
    levels := levels
    pointOfControl := some (priceOf levels poc)
    valueAreaLow := some (priceOf levels area.low)
    valueAreaHigh := some (priceOf levels area.high)
    totalNotional := total }

def buildProfile (trades : List TradePrint) (tickSize : ℚ) : Except PyError ProfileFacts :=
  if tickSize ≤ 0 then .error ⟨.valueError, "tick_size must be positive"⟩
  else do
    let deduplicated ← deduplicateTrades trades
    match deduplicated.getLast? with
    | none => pure unavailableProfile
    | some last =>
      if deduplicated.any fun trade => trade.notional.isNone then pure unavailableProfile
      else
        let placed ← deduplicated.mapM fun trade => (roundToBucket trade.level tickSize).map fun price => (price, trade)
        let currentPrice ← roundToBucket last.level tickSize
        pure (profileOf placed currentPrice)

end AutoTrader.Strategy

/-! What a volume profile says of its trades. The value area starts at the point of control and takes in one
adjacent level after the other until it holds its share; amounts of few decimals are added up exactly. -/

namespace AutoTrader.Strategy

open AutoTrader.Domain AutoTrader.Numeric AutoTrader.Runtime

variable {levels : List ProfileLevel} {currentPrice target : ℚ} {area next : ValueArea}

/-! ### The loop -/

/-- One turn takes in the level below the area or the one above. -/
theorem grow_some (h : area.grow levels currentPrice target = some next) :
    ∃ selected, next.included = rounded (area.included + notionalOf levels selected) ∧
      (selected + 1 = area.low ∧ next.low = selected ∧ next.high = max area.high selected ∨
        selected = area.high + 1 ∧ selected < levels.length ∧ next.low = min area.low selected ∧ next.high = selected) := by
  unfold ValueArea.grow at h
  split at h
  · cases h
  · rename_i first rest hcandidates
    split at h
    · cases h
      refine ⟨_, rfl, ?_⟩
      have hmem := minBy_mem (levelKey levels currentPrice) first rest
      rw [← hcandidates] at hmem
      generalize minBy (levelKey levels currentPrice) first rest = selected at hmem ⊢
      rcases List.mem_append.mp hmem with hbelow | habove
      · left
        split at hbelow
        · rw [List.mem_singleton] at hbelow
          dsimp only
          omega
        · cases hbelow
      · right
        split at habove
        · rw [List.mem_singleton] at habove
          dsimp only
          omega
        · cases habove
    · cases h

/-- The loop ends when the share is reached or every level is taken in. -/
theorem grow_none (h : area.grow levels currentPrice target = none) :
    target ≤ area.included ∨ area.low = 0 ∧ levels.length ≤ area.high + 1 := by
  unfold ValueArea.grow at h
  split at h
  · rename_i hcandidates
    right
    unfold ValueArea.candidates at hcandidates
    rw [List.append_eq_nil_iff] at hcandidates
    constructor
    · by_contra hlow
      simp [Nat.pos_of_ne_zero hlow] at hcandidates
    · by_contra hhigh
      simp [not_le.mp hhigh] at hcandidates
  · split at h
    · cases h
    · rename_i hreached
      exact .inl (not_lt.mp hreached)

/-- The levels outside the area. -/
def ValueArea.outside (levels : List ProfileLevel) (area : ValueArea) : Nat :=
  area.low + (levels.length - (area.high + 1))

/-- An area around an index. -/
structure ValueArea.Around (levels : List ProfileLevel) (poc : Nat) (area : ValueArea) : Prop where
  low : area.low ≤ poc
  high : poc ≤ area.high
  inside : area.high < levels.length

theorem ValueArea.Around.grow {poc : Nat} (hinv : area.Around levels poc)
    (h : area.grow levels currentPrice target = some next) :
    next.Around levels poc ∧ next.outside levels < area.outside levels := by
  obtain ⟨selected, -, hside⟩ := grow_some h
  obtain ⟨hlow, hhigh, hinside⟩ := hinv
  unfold ValueArea.outside
  rcases hside with ⟨hselected, hnextLow, hnextHigh⟩ | ⟨hselected, hlt, hnextLow, hnextHigh⟩
  · refine ⟨⟨?_, ?_, ?_⟩, ?_⟩ <;> omega
  · refine ⟨⟨?_, ?_, ?_⟩, ?_⟩ <;> omega

/-- What every turn keeps, the loop keeps. -/
theorem growAll_keeps {I : ValueArea → Prop}
    (hstep : ∀ {area next}, I area → area.grow levels currentPrice target = some next → I next) (fuel : Nat)
    (h : I area) : I (area.growAll levels currentPrice target fuel) := by
  induction fuel generalizing area with
  | zero => exact h
  | succ fuel ih =>
    unfold ValueArea.growAll
    split
    · exact h
    · rename_i hgrow
      exact ih (hstep h hgrow)

/-- With a turn for every level outside, the loop has ended. -/
theorem growAll_ends {poc : Nat} (hinv : area.Around levels poc) {fuel : Nat} (hfuel : area.outside levels ≤ fuel) :
    (area.growAll levels currentPrice target fuel).grow levels currentPrice target = none := by
  induction fuel generalizing area with
  | zero =>
    cases hgrow : area.grow levels currentPrice target with
    | none => exact hgrow
    | some next => exact absurd (hinv.grow hgrow).2 (by omega)
  | succ fuel ih =>
    unfold ValueArea.growAll
    split
    · rename_i hgrow
      exact hgrow
    · rename_i next hgrow
      obtain ⟨hnext, hless⟩ := hinv.grow hgrow
      exact ih hnext (by omega)

/-! ### What the area holds -/

/-- The notional of a range of levels. -/
def rangeNotional (levels : List ProfileLevel) (low high : Nat) : ℚ :=
  ∑ index ∈ Finset.Icc low high, notionalOf levels index

theorem rangeNotional_below (levels : List ProfileLevel) {low high : Nat} (hle : low + 1 ≤ high) :
    rangeNotional levels low high = rangeNotional levels (low + 1) high + notionalOf levels low := by
  have hrange : Finset.Ioc low high = Finset.Icc (low + 1) high := by
    ext index
    rw [Finset.mem_Ioc, Finset.mem_Icc]
    omega
  unfold rangeNotional
  rw [← Finset.sum_Ioc_add_eq_sum_Icc (by omega : low ≤ high), hrange]

theorem rangeNotional_above (levels : List ProfileLevel) {low high : Nat} (hle : low ≤ high + 1) :
    rangeNotional levels low (high + 1) = rangeNotional levels low high + notionalOf levels (high + 1) :=
  Finset.sum_Icc_succ_top hle _

theorem sum_notionalOf (levels : List ProfileLevel) :
    ∑ index ∈ Finset.range levels.length, notionalOf levels index = (levels.map (·.totalNotional)).sum := by
  induction levels with
  | nil => rfl
  | cons level levels ih =>
    rw [List.length_cons, Finset.sum_range_succ', List.map_cons, List.sum_cons, ← ih, add_comm]
    rfl

theorem rangeNotional_all {high : Nat} (h : high + 1 = levels.length) :
    rangeNotional levels 0 high = (levels.map (·.totalNotional)).sum := by
  have hrange : Finset.Icc 0 high = Finset.range levels.length := by
    ext index
    rw [Finset.mem_Icc, Finset.mem_range]
    omega
  rw [rangeNotional, hrange, sum_notionalOf]

/-- Level totals of few decimals whose sum fits into the context. -/
structure FewDecimals (levels : List ProfileLevel) (places : Nat) : Prop where
  totals : ∀ level ∈ levels, HasPlaces places level.totalNotional
  fits : (levels.map (·.totalNotional)).sum * 10 ^ places < 10 ^ 27

theorem FewDecimals.notionalOf {places : Nat} (h : FewDecimals levels places) (index : Nat) :
    HasPlaces places (notionalOf levels index) := by
  unfold Strategy.notionalOf
  cases hlevel : levels[index]? with
  | none => exact hasPlaces_zero
  | some level => exact h.totals level (List.mem_of_getElem? hlevel)

/-- Every range of the levels is added up exactly. -/
theorem FewDecimals.range {places : Nat} (h : FewDecimals levels places) {low high : Nat} (hhigh : high < levels.length) :
    rounded (rangeNotional levels low high) = rangeNotional levels low high := by
  have hplaces : HasPlaces places (rangeNotional levels low high) := by
    unfold rangeNotional
    induction Finset.Icc low high using Finset.induction with
    | empty => exact hasPlaces_zero
    | insert index indexes hnot ih =>
      rw [Finset.sum_insert hnot]
      exact (h.notionalOf index).add ih
  refine hplaces.roundSig (lt_of_le_of_lt ?_ (h.fits.trans (by norm_num)))
  refine mul_le_mul_of_nonneg_right ?_ (by positivity)
  rw [← sum_notionalOf, rangeNotional]
  refine Finset.sum_le_sum_of_subset_of_nonneg ?_ fun index _ _ => (h.notionalOf index).nonneg
  intro index hindex
  rw [Finset.mem_Icc] at hindex
  rw [Finset.mem_range]
  omega

/-- The loop keeps count of what the area holds. -/
structure ValueArea.Counted (levels : List ProfileLevel) (poc : Nat) (area : ValueArea) : Prop extends
    area.Around levels poc where
  counted : area.included = rangeNotional levels area.low area.high

theorem ValueArea.Counted.grow {places poc : Nat} (hfew : FewDecimals levels places) (hinv : area.Counted levels poc)
    (h : area.grow levels currentPrice target = some next) : next.Counted levels poc := by
  have haround := (hinv.toAround.grow h).1
  refine ⟨haround, ?_⟩
  obtain ⟨selected, hincluded, hside⟩ := grow_some h
  obtain ⟨⟨hlow, hhigh, hinside⟩, hcounted⟩ := hinv
  rw [hincluded, hcounted]
  rcases hside with ⟨hselected, hnextLow, hnextHigh⟩ | ⟨hselected, hlt, hnextLow, hnextHigh⟩
  · have hsame : next.high = area.high := by omega
    have hbelow : selected + 1 ≤ area.high := by omega
    have hsum := rangeNotional_below levels hbelow
    rw [hnextLow, hsame, ← hselected, ← hsum]
    exact hfew.range hinside
  · have hsame : next.low = area.low := by omega
    have habove : area.low ≤ area.high + 1 := by omega
    have hsum := rangeNotional_above levels habove
    rw [hsame, hnextHigh, hselected, ← hsum]
    exact hfew.range (by omega)

section Area

variable {poc : Nat} (hpoc : poc < levels.length) (currentPrice total : ℚ)

include hpoc

theorem valueArea_around : (valueArea levels poc currentPrice total).Around levels poc :=
  growAll_keeps (fun hinv hgrow => (hinv.grow hgrow).1) _ ⟨le_rfl, le_rfl, hpoc⟩

/-- The loop of the value area has ended. -/
theorem valueArea_ends :
    (valueArea levels poc currentPrice total).grow levels currentPrice (rounded (valueAreaFraction * total)) = none := by
  refine growAll_ends (⟨le_rfl, le_rfl, hpoc⟩ : ValueArea.Around levels poc _) ?_
  unfold ValueArea.outside
  dsimp only
  omega

theorem valueArea_counted {places : Nat} (hfew : FewDecimals levels places) :
    (valueArea levels poc currentPrice total).Counted levels poc := by
  refine growAll_keeps (fun hinv hgrow => hinv.grow hfew hgrow) _ ⟨⟨le_rfl, le_rfl, hpoc⟩, ?_⟩
  rw [rangeNotional, Finset.Icc_self, Finset.sum_singleton]

/-- The area holds its share of the total. -/
theorem valueArea_share {places : Nat} (hfew : FewDecimals levels places) {area : ValueArea}
    (harea : area = valueArea levels poc currentPrice (levels.map (·.totalNotional)).sum) :
    valueAreaFraction * (levels.map (·.totalNotional)).sum ≤ rangeNotional levels area.low area.high := by
  have hcounted := valueArea_counted hpoc currentPrice (levels.map (·.totalNotional)).sum hfew
  have hend := valueArea_ends hpoc currentPrice (levels.map (·.totalNotional)).sum
  rw [← harea] at hcounted hend
  have htotal : HasPlaces places (levels.map (·.totalNotional)).sum := by
    refine HasPlaces.sum fun amount hamount => ?_
    obtain ⟨level, hlevel, rfl⟩ := List.mem_map.mp hamount
    exact hfew.totals level hlevel
  have htarget : rounded (valueAreaFraction * (levels.map (·.totalNotional)).sum) =
      valueAreaFraction * (levels.map (·.totalNotional)).sum := by
    have hfraction : HasPlaces 1 valueAreaFraction := ⟨7, by norm_num [valueAreaFraction]⟩
    refine (hfraction.mul htotal).roundSig ?_
    calc valueAreaFraction * (levels.map (·.totalNotional)).sum * 10 ^ (1 + places)
        = 7 * ((levels.map (·.totalNotional)).sum * 10 ^ places) := by
          rw [valueAreaFraction, pow_add]
          ring
      _ < 10 ^ 28 := by
          have hfits := hfew.fits
          linarith
  rw [htarget] at hend
  rcases grow_none hend with hreached | ⟨hlow, hhigh⟩
  · rwa [← hcounted.counted]
  · have hall : area.high + 1 = levels.length := by
      have hinside := hcounted.inside
      omega
    rw [hlow, rangeNotional_all hall, valueAreaFraction]
    have hnonneg := htotal.nonneg
    linarith

end Area

/-! ### The point of control -/

theorem pocIndex_spec (hne : levels ≠ []) (currentPrice : ℚ) :
    pocIndex levels currentPrice < levels.length ∧
      ∀ index < levels.length, notionalOf levels index ≤ notionalOf levels (pocIndex levels currentPrice) := by
  have hmost : ∀ a b : Nat, levelKey levels currentPrice a ≤ levelKey levels currentPrice b →
      notionalOf levels b ≤ notionalOf levels a := by
    intro a b hle
    rcases Prod.Lex.toLex_le_toLex.mp hle with hlt | ⟨heq, -⟩
    · exact (neg_lt_neg_iff.mp hlt).le
    · exact (neg_injective heq).ge
  unfold pocIndex
  cases hrange : List.range levels.length with
  | nil => exact absurd (List.length_eq_zero_iff.mp (List.range_eq_nil.mp hrange)) hne
  | cons first rest =>
    have hin : ∀ index, index ∈ first :: rest ↔ index < levels.length := fun index => by rw [← hrange, List.mem_range]
    exact ⟨(hin _).mp (minBy_mem _ _ _), fun index hindex => hmost _ _ (minBy_le _ _ _ index ((hin index).mpr hindex))⟩

/-! ### Levels -/

/-- Amounts under their keys, added up key by key. -/
theorem sum_by_key {α : Type} (key : α → ℚ) (amount : α → ℚ) {keys : List ℚ} (hnodup : keys.Nodup) {entries : List α}
    (hkeys : ∀ entry ∈ entries, key entry ∈ keys) :
    (keys.map fun k => ((entries.filter (key · = k)).map amount).sum).sum = (entries.map amount).sum := by
  induction entries with
  | nil => simp
  | cons entry entries ih =>
    have hsplit : (fun k => (((entry :: entries).filter (key · = k)).map amount).sum) =
        fun k => (if k = key entry then amount entry else 0) + ((entries.filter (key · = k)).map amount).sum := by
      funext k
      by_cases hkey : key entry = k
      · rw [List.filter_cons_of_pos (by simpa using hkey), if_pos hkey.symm, List.map_cons, List.sum_cons]
      · rw [List.filter_cons_of_neg (by simpa using hkey), if_neg (Ne.symm hkey), zero_add]
    rw [hsplit, List.sum_map_add, ih fun other hother => hkeys other (List.mem_cons_of_mem _ hother), List.map_cons,
      List.sum_cons, List.sum_map_ite_eq keys (fun _ => amount entry) (fun _ => 0),
      List.count_eq_one_of_mem hnodup (hkeys entry List.mem_cons_self)]
    simp

/-- A trade is a buy, a sell, or neither is known. -/
theorem sum_by_side (entries : List (ℚ × TradePrint)) (price : ℚ) :
    ((entries.filter fun entry => entry.1 = price ∧ entry.2.side = some .buy).map (·.2.worth)).sum +
        ((entries.filter fun entry => entry.1 = price ∧ entry.2.side = some .sell).map (·.2.worth)).sum +
        ((entries.filter fun entry => entry.1 = price ∧ entry.2.side = none).map (·.2.worth)).sum =
      ((entries.filter (·.1 = price)).map (·.2.worth)).sum := by
  induction entries with
  | nil => simp
  | cons entry entries ih =>
    by_cases hprice : entry.1 = price
    · rcases hside : entry.2.side with _ | _ | _
      all_goals
        simp only [List.filter_cons, hprice, hside, true_and, decide_true, reduceCtorEq, decide_false, if_true,
          Option.some.injEq, List.map_cons, List.sum_cons, Bool.false_eq_true, if_false]
        rw [← ih]
        ring
    · simpa [List.filter_cons, hprice] using ih

/-- Trades of few decimals whose total fits into the context. -/
structure FewDecimalTrades (trades : List TradePrint) (places : Nat) : Prop where
  worths : ∀ trade ∈ trades, HasPlaces places trade.worth
  fits : (trades.map (·.worth)).sum * 10 ^ places < 10 ^ 27

section Placed

variable {placed : List (ℚ × TradePrint)} {places : Nat} (hfew : FewDecimalTrades (placed.map (·.2)) places)

include hfew

theorem placed_worth {entry : ℚ × TradePrint} (hentry : entry ∈ placed) : HasPlaces places entry.2.worth :=
  hfew.worths _ (List.mem_map_of_mem hentry)

/-- A part of the trades is added up exactly. -/
theorem part_few {part : List (ℚ × TradePrint)} (hpart : part.Sublist placed) :
    HasPlaces places (part.map (·.2.worth)).sum ∧ (part.map (·.2.worth)).sum * 10 ^ places < 10 ^ 28 := by
  have hall : ∀ amount ∈ placed.map (·.2.worth), HasPlaces places amount := by
    intro amount hamount
    obtain ⟨entry, hentry, rfl⟩ := List.mem_map.mp hamount
    exact placed_worth hfew hentry
  have hsub := hpart.map fun entry => entry.2.worth
  refine ⟨HasPlaces.sum fun amount hamount => hall amount (hsub.subset hamount), ?_⟩
  have hle := hsub.sum_le_sum fun amount hamount => (hall amount hamount).nonneg
  have hfits := hfew.fits
  rw [List.map_map] at hfits
  calc (part.map (·.2.worth)).sum * 10 ^ places ≤ (placed.map (·.2.worth)).sum * 10 ^ places :=
        mul_le_mul_of_nonneg_right hle (by positivity)
    _ < 10 ^ 27 := hfits
    _ < 10 ^ 28 := by norm_num

theorem part_sum {part : List (ℚ × TradePrint)} (hpart : part.Sublist placed) :
    sumSig 28 (part.map (·.2.worth)) = (part.map (·.2.worth)).sum := by
  have hworth : ∀ amount ∈ part.map (·.2.worth), HasPlaces places amount := fun amount hamount => by
    obtain ⟨entry, hentry, rfl⟩ := List.mem_map.mp hamount
    exact placed_worth hfew (hpart.subset hentry)
  exact sumSig_eq_sum hworth (part_few hfew hpart).2

/-- The total of a level is what was traded in its bucket. -/
theorem profileLevel_total (price : ℚ) :
    (profileLevel placed price).totalNotional = ((placed.filter (·.1 = price)).map (·.2.worth)).sum := by
  have hside : ∀ side, bucketNotional placed price side =
      ((placed.filter fun entry => entry.1 = price ∧ entry.2.side = side).map (·.2.worth)).sum :=
    fun side => part_sum hfew List.filter_sublist
  have hplaces : ∀ side, HasPlaces places (bucketNotional placed price side) := by
    intro side
    rw [hside]
    exact (part_few hfew List.filter_sublist).1
  have htotal : bucketNotional placed price (some .buy) + bucketNotional placed price (some .sell) +
      bucketNotional placed price none = ((placed.filter (·.1 = price)).map (·.2.worth)).sum := by
    rw [hside, hside, hside, sum_by_side]
  obtain ⟨hall, hfits⟩ := part_few hfew (List.filter_sublist (p := fun entry => entry.1 = price) (l := placed))
  rw [← htotal] at hall hfits ⊢
  have hknown : rounded (bucketNotional placed price (some .buy) + bucketNotional placed price (some .sell)) =
      bucketNotional placed price (some .buy) + bucketNotional placed price (some .sell) := by
    refine ((hplaces _).add (hplaces _)).roundSig (lt_of_le_of_lt ?_ hfits)
    exact mul_le_mul_of_nonneg_right (le_add_of_nonneg_right (hplaces none).nonneg) (by positivity)
  show rounded (rounded _ + _) = _
  rw [hknown]
  exact hall.roundSig hfits

/-- The levels add up to the trades. -/
theorem profileLevels_sum :
    ((profileLevels placed).map (·.totalNotional)).sum = (placed.map (·.2.worth)).sum := by
  have hnodup : ((placed.map (·.1)).dedup.insertionSort (· ≤ ·)).Nodup :=
    (List.perm_insertionSort _ _).nodup_iff.mpr (List.nodup_dedup _)
  have hkeys : ∀ entry ∈ placed, entry.1 ∈ (placed.map (·.1)).dedup.insertionSort (· ≤ ·) := by
    intro entry hentry
    rw [List.mem_insertionSort, List.mem_dedup]
    exact List.mem_map_of_mem hentry
  rw [← sum_by_key (fun entry : ℚ × TradePrint => entry.1) (fun entry => entry.2.worth) hnodup hkeys, profileLevels,
    List.map_map]
  exact congrArg List.sum (List.map_congr_left fun price _ => profileLevel_total hfew price)

theorem profileLevels_few : FewDecimals (profileLevels placed) places := by
  refine ⟨fun level hlevel => ?_, ?_⟩
  · obtain ⟨price, -, rfl⟩ := List.mem_map.mp hlevel
    rw [profileLevel_total hfew]
    exact (part_few hfew List.filter_sublist).1
  · rw [profileLevels_sum hfew]
    have hfits := hfew.fits
    rwa [List.map_map] at hfits

end Placed

theorem profileLevels_ordered (placed : List (ℚ × TradePrint)) :
    (profileLevels placed).Pairwise fun a b => a.price < b.price := by
  unfold profileLevels
  rw [List.pairwise_map]
  have hordered := List.pairwise_insertionSort (· ≤ ·) (placed.map (·.1)).dedup
  have hnodup : ((placed.map (·.1)).dedup.insertionSort (· ≤ ·)).Nodup :=
    (List.perm_insertionSort _ _).nodup_iff.mpr (List.nodup_dedup _)
  exact (hordered.and hnodup).imp fun ⟨hle, hne⟩ => lt_of_le_of_ne hle hne

/-! ### The profile -/

/-- What a profile says of the distinct trades it is of. -/
structure ProfileLaw (distinct : List TradePrint) (facts : ProfileFacts) : Prop where
  ordered : facts.levels.Pairwise fun a b => a.price < b.price
  area : ∃ poc low high, low ≤ poc ∧ poc ≤ high ∧ high < facts.levels.length ∧
    facts.pointOfControl = some (priceOf facts.levels poc) ∧
    facts.valueAreaLow = some (priceOf facts.levels low) ∧ facts.valueAreaHigh = some (priceOf facts.levels high) ∧
    (∀ index < facts.levels.length, notionalOf facts.levels index ≤ notionalOf facts.levels poc) ∧
    ∀ places, FewDecimalTrades distinct places →
      (facts.levels.map (·.totalNotional)).sum = (distinct.map (·.worth)).sum ∧
      facts.totalNotional = (distinct.map (·.worth)).sum ∧
      valueAreaFraction * facts.totalNotional ≤ rangeNotional facts.levels low high

theorem profileOf_law {placed : List (ℚ × TradePrint)} (hne : placed ≠ []) (currentPrice : ℚ) :
    ProfileLaw (placed.map (·.2)) (profileOf placed currentPrice) := by
  have hlevels : profileLevels placed ≠ [] := by
    intro hnil
    obtain ⟨entry, hentry⟩ := List.exists_mem_of_ne_nil _ hne
    have hprice : entry.1 ∈ (placed.map (·.1)).dedup.insertionSort (· ≤ ·) := by
      rw [List.mem_insertionSort, List.mem_dedup]
      exact List.mem_map_of_mem hentry
    rw [List.map_eq_nil_iff.mp hnil] at hprice
    cases hprice
  obtain ⟨hpoc, hmost⟩ := pocIndex_spec hlevels currentPrice
  refine ⟨profileLevels_ordered placed, pocIndex (profileLevels placed) currentPrice, _, _,
    (valueArea_around hpoc currentPrice _).low, (valueArea_around hpoc currentPrice _).high,
    (valueArea_around hpoc currentPrice _).inside, rfl, rfl, rfl, hmost, fun places hfew => ?_⟩
  have hsum := profileLevels_sum hfew
  have hlevelsFew := profileLevels_few hfew
  have htotal : sumSig 28 ((profileLevels placed).map (·.totalNotional)) =
      ((profileLevels placed).map (·.totalNotional)).sum := by
    have hplaces : ∀ amount ∈ (profileLevels placed).map (·.totalNotional), HasPlaces places amount :=
      fun amount hamount => by
        obtain ⟨level, hlevel, rfl⟩ := List.mem_map.mp hamount
        exact hlevelsFew.totals level hlevel
    exact sumSig_eq_sum hplaces (hlevelsFew.fits.trans (by norm_num))
  rw [List.map_map]
  refine ⟨hsum, htotal.trans hsum, ?_⟩
  show valueAreaFraction * sumSig 28 ((profileLevels placed).map (·.totalNotional)) ≤ _
  rw [htotal]
  exact valueArea_share hpoc currentPrice hlevelsFew rfl

/-- The loop of a profile has ended where it stopped. -/
theorem valueArea_stopped (levels : List ProfileLevel) (hne : levels ≠ []) (currentPrice total : ℚ) :
    (valueArea levels (pocIndex levels currentPrice) currentPrice total).grow levels currentPrice
      (rounded (valueAreaFraction * total)) = none :=
  valueArea_ends (pocIndex_spec hne currentPrice).1 currentPrice total

/-- A profile depends on its distinct trades alone. Where it is available its point of control has the largest
notional, and the value area is a range of levels around it; amounts of few decimals add up to the total, of which the
area holds its share. -/
theorem volume_profile_law (trades : List TradePrint) (tickSize : ℚ) :
    (∀ supplied : List TradePrint, (∀ trade, trade ∈ supplied ↔ trade ∈ trades) →
        buildProfile supplied tickSize = buildProfile trades tickSize) ∧
      (∀ levels : List ProfileLevel, levels ≠ [] → ∀ currentPrice total : ℚ,
        (valueArea levels (pocIndex levels currentPrice) currentPrice total).grow levels currentPrice
          (rounded (valueAreaFraction * total)) = none) ∧
      ∀ facts, buildProfile trades tickSize = .ok facts → facts.state ≠ .unavailable →
        ∃ distinct, Distinct trades distinct ∧ ProfileLaw distinct facts := by
  refine ⟨fun supplied hsame => ?_, valueArea_stopped, fun facts h hstate => ?_⟩
  · unfold buildProfile
    rw [deduplicateTrades_congr hsame]
  · unfold buildProfile at h
    split at h
    · cases h
    obtain ⟨distinct, hdistinct, h⟩ := bind_ok.mp h
    refine ⟨distinct, deduplicateTrades_ok hdistinct, ?_⟩
    split at h
    · cases h
      exact absurd rfl hstate
    rename_i last hlast
    split at h
    · cases h
      exact absurd rfl hstate
    obtain ⟨placed, hplaced, h⟩ := bind_ok.mp h
    obtain ⟨current, -, h⟩ := bind_ok.mp h
    cases h
    have htrades : placed.map (·.2) = distinct := by
      refine Eq.symm ?_
      rw [← List.forall₂_eq_eq_eq, List.forall₂_map_right_iff]
      refine (forall₂_of_mapM_ok hplaced).imp fun trade entry hentry => ?_
      obtain ⟨price, -, rfl⟩ := exceptMap_ok.mp hentry
      rfl
    rw [← htrades]
    refine profileOf_law ?_ current
    rintro rfl
    rw [← htrades] at hlast
    cases hlast

/-! ### A total of twenty-nine digits -/

theorem bulkTrade_trimmed : untrimmed "1" = false := by decide

theorem oddTrade_trimmed : untrimmed "2" = false := by decide

theorem lotPrice_positive : ∀ value ∈ (some 1 : Option ℚ), 0 < value := by simp

theorem bulkQuantity_positive : ∀ value ∈ (some (10 ^ 28) : Option ℚ), 0 < value := by simp

def bulkTrade : TradePrint where
  providerTradeId := "1"
  occurredAt := 0
  price := some 1
  quantity := some (10 ^ 28)
  buyerMaker := some false
  trimmed := bulkTrade_trimmed
  positivePrice := lotPrice_positive
  positiveQuantity := bulkQuantity_positive

def oddTrade : TradePrint where
  providerTradeId := "2"
  occurredAt := 0
  price := some 1
  quantity := some 1
  buyerMaker := some false
  trimmed := oddTrade_trimmed
  positivePrice := lotPrice_positive
  positiveQuantity := lotPrice_positive

/-- The one level of the two trades misses the smaller one. -/
theorem odd_trade_rounded_off :
    deduplicateTrades [bulkTrade, oddTrade] = .ok [bulkTrade, oddTrade] ∧
      (buildProfile [bulkTrade, oddTrade] 1).map (fun facts => (facts.state, (facts.levels.map (·.totalNotional)).sum)) =
        .ok (.available, 10 ^ 28) ∧
      ([bulkTrade, oddTrade].map (·.worth)).sum = 10 ^ 28 + 1 := by
  refine ⟨rfl, by decide +kernel, by decide +kernel⟩

end AutoTrader.Strategy
