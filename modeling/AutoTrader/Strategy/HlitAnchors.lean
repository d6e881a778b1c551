import AutoTrader.Strategy.Hlit
import AutoTrader.Strategy.NoRepaint

/-! Where a retracement is anchored. The second pivot of a regular divergence is beyond every earlier bar of its
segment: the first bar that went as far would have been a pivot itself, between the last two. -/

namespace AutoTrader.Strategy

open AutoTrader.Domain AutoTrader.Numeric AutoTrader.Runtime

/-- How far a bar goes against its kind: a pivot is lower than its neighbours. -/
def depth : PivotKind → CompletedOhlcvBar → ℚ
  | .low, bar => bar.low.toRat
  | .high, bar => -bar.high.toRat

def pivotOf (config : PivotConfig) (index : ℕ) (candidate : CompletedOhlcvBar) : PivotKind → Pivot
  | .low => lowPivotAt config index candidate
  | .high => highPivotAt config index candidate

section Pivots

variable {values : List CompletedOhlcvBar} {config : PivotConfig} {index : ℕ} {candidate : CompletedOhlcvBar}

@[simp] theorem pivotOf_kind (config : PivotConfig) (index : ℕ) (candidate : CompletedOhlcvBar) (kind : PivotKind) :
    (pivotOf config index candidate kind).kind = kind := by
  cases kind <;> rfl

@[simp] theorem pivotOf_index (config : PivotConfig) (index : ℕ) (candidate : CompletedOhlcvBar) (kind : PivotKind) :
    (pivotOf config index candidate kind).index = index := by
  cases kind <;> rfl

/-- The pivots of an index, kind by kind. -/
theorem mem_pivotsAt {pivot : Pivot} : pivot ∈ pivotsAt values config index ↔
    ∃ candidate, values[index]? = some candidate ∧ pivot = pivotOf config index candidate pivot.kind ∧
      ∀ other ∈ neighbours values config index, depth pivot.kind candidate < depth pivot.kind other := by
  rw [pivotsAt]
  cases hcandidate : values[index]? with
  | none => simp
  | some candidate =>
    simp only [List.mem_append, List.mem_ite_nil_right, List.mem_singleton, Option.some.injEq, exists_eq_left']
    constructor
    · rintro (⟨hhigher, rfl⟩ | ⟨hlower, rfl⟩)
      · exact ⟨rfl, fun other hother => neg_lt_neg (hhigher other hother)⟩
      · exact ⟨rfl, hlower⟩
    · rintro ⟨hpivot, hdeeper⟩
      cases hkind : pivot.kind with
      | high =>
        rw [hkind] at hpivot hdeeper
        exact .inl ⟨fun other hother => neg_lt_neg_iff.mp (hdeeper other hother), hpivot⟩
      | low =>
        rw [hkind] at hpivot hdeeper
        exact .inr ⟨hdeeper, hpivot⟩

theorem mem_neighbours {other : CompletedOhlcvBar} : other ∈ neighbours values config index ↔
    ∃ j, index - config.left ≤ j ∧ j ≤ index + config.right ∧ j ≠ index ∧ values[j]? = some other := by
  simp only [neighbours, List.mem_filterMap, List.mem_filter, List.mem_range'_1, decide_eq_true_eq]
  constructor
  · rintro ⟨j, ⟨hrange, hne⟩, hj⟩
    exact ⟨j, hrange.1, by omega, hne, hj⟩
  · rintro ⟨j, hfrom, hto, hne, hj⟩
    exact ⟨j, ⟨⟨hfrom, by omega⟩, hne⟩, hj⟩

theorem confirmedPivots_ok {bars : List CompletedOhlcvBar} {pivots : List Pivot}
    (h : confirmedPivots bars config = .ok pivots) : InOrder bars ∧
      pivots = (List.range' config.left (bars.length - config.right - config.left)).flatMap (pivotsAt bars config) := by
  rw [confirmedPivots] at h
  split at h
  next horder => exact ⟨horder, (Except.ok.inj h).symm⟩
  next => cases h

theorem mem_confirmedPivots {bars : List CompletedOhlcvBar} {pivots : List Pivot}
    (h : confirmedPivots bars config = .ok pivots) {pivot : Pivot} : pivot ∈ pivots ↔
      (config.left ≤ pivot.index ∧ pivot.index + config.right < bars.length) ∧ pivot ∈ pivotsAt bars config pivot.index := by
  obtain ⟨-, rfl⟩ := confirmedPivots_ok h
  rw [List.mem_flatMap]
  constructor
  · rintro ⟨index, hindex, hpivot⟩
    have hrange := List.mem_range'_1.mp hindex
    obtain ⟨candidate, -, heq, -⟩ := mem_pivotsAt.mp hpivot
    have hsame : pivot.index = index := by rw [heq, pivotOf_index]
    rw [hsame]
    exact ⟨by omega, hpivot⟩
  · rintro ⟨hrange, hpivot⟩
    exact ⟨pivot.index, List.mem_range'_1.mpr (by omega), hpivot⟩

/-- Two pivots of a kind are at different bars, in their order. -/
theorem pivotsAt_kinds (values : List CompletedOhlcvBar) (config : PivotConfig) (index : ℕ) :
    (pivotsAt values config index).Pairwise fun a b => a.kind ≠ b.kind := by
  rw [pivotsAt]
  cases values[index]? with
  | none => exact List.Pairwise.nil
  | some candidate =>
    dsimp only
    split <;> split <;> simp [highPivotAt, lowPivotAt]

theorem confirmedPivots_ascending {bars : List CompletedOhlcvBar} {pivots : List Pivot}
    (h : confirmedPivots bars config = .ok pivots) :
    pivots.Pairwise fun a b => a.kind = b.kind → a.index < b.index := by
  obtain ⟨-, rfl⟩ := confirmedPivots_ok h
  refine List.pairwise_flatMap.mpr ⟨fun index _ => ?_, ?_⟩
  · exact (pivotsAt_kinds bars config index).imp fun hne heq => absurd heq hne
  · refine (List.pairwise_lt_range' 1).imp fun {i j} hij a ha b hb _ => ?_
    obtain ⟨_, -, heqA, -⟩ := mem_pivotsAt.mp ha
    obtain ⟨_, -, heqB, -⟩ := mem_pivotsAt.mp hb
    rw [heqA, heqB, pivotOf_index, pivotOf_index]
    exact hij

end Pivots

theorem lastPair_some {α : Type} {values : List α} {first second : α} (h : lastPair values = some (first, second)) :
    ∃ before, values = before ++ [first, second] := by
  rw [lastPair] at h
  split at h
  next b a rest hreverse =>
    cases h
    refine ⟨rest.reverse, ?_⟩
    rw [← List.reverse_reverse values, hreverse]
    simp
  next => cases h

/-! ### The last two pivots of a kind -/

/-- Two pivots of a kind with none of it between them or after. -/
structure LastPivots (pivots : List Pivot) (kind : PivotKind) (first second : Pivot) : Prop where
  first_mem : first ∈ pivots
  second_mem : second ∈ pivots
  first_kind : first.kind = kind
  second_kind : second.kind = kind
  ordered : first.index < second.index
  others : ∀ pivot ∈ pivots, pivot.kind = kind → pivot.index ≤ first.index ∨ pivot.index = second.index

theorem lastPivots {config : PivotConfig} {bars : List CompletedOhlcvBar} {pivots : List Pivot} {kind : PivotKind}
    {first second : Pivot} (h : confirmedPivots bars config = .ok pivots)
    (hlast : lastPair (pivots.filter (·.kind = kind)) = some (first, second)) : LastPivots pivots kind first second := by
  obtain ⟨before, hbefore⟩ := lastPair_some hlast
  have hmem (pivot : Pivot) : pivot ∈ before ++ [first, second] ↔ pivot ∈ pivots ∧ pivot.kind = kind := by
    rw [← hbefore, List.mem_filter, decide_eq_true_eq]
  have hfirst := (hmem first).mp (by simp)
  have hsecond := (hmem second).mp (by simp)
  have hascending : (before ++ [first, second]).Pairwise fun a b => a.kind = b.kind → a.index < b.index :=
    hbefore ▸ (confirmedPivots_ascending h).filter _
  obtain ⟨-, hlastTwo, hacross⟩ := List.pairwise_append.mp hascending
  refine ⟨hfirst.1, hsecond.1, hfirst.2, hsecond.2, ?_, fun pivot hpivot hkind => ?_⟩
  · exact List.rel_of_pairwise_cons hlastTwo (by simp) (hfirst.2.trans hsecond.2.symm)
  · rcases List.mem_append.mp ((hmem pivot).mpr ⟨hpivot, hkind⟩) with hearlier | hlater
    · exact .inl (hacross pivot hearlier first (by simp) (hkind.trans hfirst.2.symm)).le
    · rcases List.mem_pair.mp hlater with rfl | rfl
      · exact .inl le_rfl
      · exact .inr rfl

/-- With nothing to wait for after a bar, the second of the last two pivots lies beyond all before it. -/
theorem LastPivots.beyond {config : PivotConfig} (hright : config.right = 0) {bars : List CompletedOhlcvBar}
    {pivots : List Pivot} (hpivots : confirmedPivots bars config = .ok pivots) {kind : PivotKind} {first second : Pivot}
    (h : LastPivots pivots kind first second) {firstBar secondBar : CompletedOhlcvBar}
    (hfirst : bars[first.index]? = some firstBar)
    (hdeeper : depth kind secondBar < depth kind firstBar) {j : ℕ} {bar : CompletedOhlcvBar} (hfrom : first.index ≤ j)
    (hto : j < second.index) (hbar : bars[j]? = some bar) : depth kind secondBar < depth kind bar := by
  classical
  rcases hfrom.eq_or_lt with rfl | hafter
  · rw [hfirst] at hbar
    exact Option.some.inj hbar ▸ hdeeper
  by_contra hnot
  -- the first bar after the first pivot that goes as far as the second
  let reaches (i : ℕ) : Prop := first.index < i ∧ i < second.index ∧
    ∃ other, bars[i]? = some other ∧ depth kind other ≤ depth kind secondBar
  have hexists : ∃ i, reaches i := ⟨j, hafter, hto, bar, hbar, not_lt.mp hnot⟩
  obtain ⟨hlater, hbefore, reached, hreached, hdepth⟩ := Nat.find_spec hexists
  have hfirstPivot := (mem_confirmedPivots hpivots).mp h.first_mem
  have hsecondPivot := (mem_confirmedPivots hpivots).mp h.second_mem
  obtain ⟨own, hown, -, hunder⟩ := mem_pivotsAt.mp hfirstPivot.2
  rw [h.first_kind, Option.some.inj (hown.symm.trans hfirst)] at hunder
  have hpivot : pivotOf config (Nat.find hexists) reached kind ∈ pivots := by
    refine (mem_confirmedPivots hpivots).mpr ⟨?_, mem_pivotsAt.mpr ⟨reached, ?_, ?_, fun other hother => ?_⟩⟩
    · rw [pivotOf_index]
      omega
    · rw [pivotOf_index, hreached]
    · rw [pivotOf_index, pivotOf_kind]
    · rw [pivotOf_index] at hother
      rw [pivotOf_kind]
      obtain ⟨i, hleft, hi, hne, hother⟩ := mem_neighbours.mp hother
      rcases lt_trichotomy i first.index with hlt | rfl | hgt
      · -- a neighbour of the first pivot too
        have hneighbour := hunder other (mem_neighbours.mpr ⟨i, by omega, by omega, hlt.ne, hother⟩)
        exact hdepth.trans_lt (hdeeper.trans hneighbour)
      · rw [hfirst] at hother
        exact hdepth.trans_lt (Option.some.inj hother ▸ hdeeper)
      · have hshort : ¬reaches i := Nat.find_min hexists (by omega)
        have hi' : i < second.index := by omega
        refine hdepth.trans_lt (lt_of_not_ge fun hle => hshort ⟨hgt, hi', other, hother, hle⟩)
  have hothers := h.others _ hpivot (pivotOf_kind _ _ _ _)
  rw [pivotOf_index] at hothers
  omega

/-! ### Regular divergences -/

theorem evaluateDivergence_ok {prices : List CompletedOhlcvBar} {oscillator : List ℚ} {config : Option PivotConfig}
    {divergence : DivergenceFacts} (h : evaluateDivergence prices oscillator config = .ok divergence) :
    InOrder prices ∧ ∃ pivots, confirmedPivots prices (config.getD defaultPivotConfig) = .ok pivots ∧
      divergence.regular = ([PivotKind.low, .high].filterMap (signalOf pivots oscillator)).filter (·.kind.isRegular) := by
  rw [evaluateDivergence] at h
  split at h
  next => cases h
  next horder =>
    split at h
    next => cases h
    next =>
      obtain ⟨pivots, hpivots, h⟩ := bind_ok.mp h
      cases h
      exact ⟨not_not.mp horder, pivots, hpivots, rfl⟩

theorem signalOf_some {pivots : List Pivot} {oscillator : List ℚ} {kind : PivotKind} {signal : DivergenceSignal}
    (h : signalOf pivots oscillator kind = some signal) :
    lastPair (pivots.filter (·.kind = kind)) = some (signal.first, signal.second) ∧
      divergenceKind kind signal.first.price signal.second.price signal.firstOscillator signal.secondOscillator =
        some signal.kind := by
  obtain ⟨⟨first, second⟩, hlast, h⟩ := Option.bind_eq_some_iff.mp h
  obtain ⟨firstOscillator, -, h⟩ := Option.bind_eq_some_iff.mp h
  obtain ⟨secondOscillator, -, h⟩ := Option.bind_eq_some_iff.mp h
  obtain ⟨divergence, hkind, h⟩ := Option.bind_eq_some_iff.mp h
  cases h
  exact ⟨hlast, hkind⟩

theorem divergenceKind_bullish {kind : PivotKind} {a b x y : ℚ} (h : divergenceKind kind a b x y = some .regularBullish) :
    kind = .low ∧ b < a := by
  cases kind with
  | low =>
    simp only [divergenceKind] at h
    split at h
    next hless => exact ⟨rfl, hless.1⟩
    next => split at h <;> cases h
  | high =>
    simp only [divergenceKind] at h
    split at h
    next => cases h
    next => split at h <;> cases h

theorem divergenceKind_bearish {kind : PivotKind} {a b x y : ℚ} (h : divergenceKind kind a b x y = some .regularBearish) :
    kind = .high ∧ a < b := by
  cases kind with
  | low =>
    simp only [divergenceKind] at h
    split at h
    next => cases h
    next => split at h <;> cases h
  | high =>
    simp only [divergenceKind] at h
    split at h
    next hless => exact ⟨rfl, hless.1⟩
    next => split at h <;> cases h

/-- The bar of a pivot. -/
theorem bar_of_pivot {config : PivotConfig} {bars : List CompletedOhlcvBar} {pivots : List Pivot}
    (h : confirmedPivots bars config = .ok pivots) {pivot : Pivot} (hpivot : pivot ∈ pivots) :
    ∃ bar, bars[pivot.index]? = some bar ∧ pivot.timestamp = bar.timestamp ∧
      (pivot.kind = .low → pivot.price = bar.low.toRat) ∧ (pivot.kind = .high → pivot.price = bar.high.toRat) := by
  obtain ⟨bar, hbar, heq, -⟩ := mem_pivotsAt.mp ((mem_confirmedPivots h).mp hpivot).2
  refine ⟨bar, hbar, ?_, fun hkind => ?_, fun hkind => ?_⟩
  · rw [heq]
    cases pivot.kind <;> rfl
  · rw [heq, hkind]
    rfl
  · rw [heq, hkind]
    rfl

/-- The bars of a signal, the second of them beyond all of the segment. -/
structure Signalled (bars : List CompletedOhlcvBar) (kind : PivotKind) (signal : DivergenceSignal)
    (firstBar secondBar : CompletedOhlcvBar) : Prop where
  first : bars[signal.first.index]? = some firstBar
  second : bars[signal.second.index]? = some secondBar
  firstAt : signal.first.timestamp = firstBar.timestamp
  secondAt : signal.second.timestamp = secondBar.timestamp
  ordered : signal.first.index < signal.second.index
  deeper : depth kind secondBar < depth kind firstBar
  extreme : ∀ j bar, signal.first.index ≤ j → j ≤ signal.second.index → bars[j]? = some bar →
    depth kind secondBar ≤ depth kind bar

section Signals

variable {bars : List CompletedOhlcvBar} {oscillator : List ℚ} {divergence : DivergenceFacts} {signal : DivergenceSignal}

theorem signalled {pivots : List Pivot} (hpivots : confirmedPivots bars defaultPivotConfig = .ok pivots) {kind : PivotKind}
    (hlast : LastPivots pivots kind signal.first signal.second) {firstBar secondBar : CompletedOhlcvBar}
    (hfirst : bars[signal.first.index]? = some firstBar) (hsecond : bars[signal.second.index]? = some secondBar)
    (hfirstAt : signal.first.timestamp = firstBar.timestamp) (hsecondAt : signal.second.timestamp = secondBar.timestamp)
    (hdeeper : depth kind secondBar < depth kind firstBar) : Signalled bars kind signal firstBar secondBar where
  first := hfirst
  second := hsecond
  firstAt := hfirstAt
  secondAt := hsecondAt
  ordered := hlast.ordered
  deeper := hdeeper
  extreme j bar hfrom hto hbar := by
    rcases hto.eq_or_lt with rfl | hlt
    · rw [hsecond] at hbar
      exact Option.some.inj hbar ▸ le_rfl
    · exact (hlast.beyond rfl hpivots hfirst hdeeper hfrom hlt hbar).le

/-- The bars of a regular bullish divergence. -/
theorem bullish_signalled (h : evaluateDivergence bars oscillator none = .ok divergence) (hsignal : signal ∈ divergence.regular)
    (hkind : signal.kind = .regularBullish) :
    ∃ firstBar secondBar, Signalled bars .low signal firstBar secondBar ∧ signal.second.price = secondBar.low.toRat := by
  obtain ⟨-, pivots, hpivots, hregular⟩ := evaluateDivergence_ok h
  obtain ⟨kind, -, hsome⟩ := List.mem_filterMap.mp (List.mem_filter.mp (hregular ▸ hsignal)).1
  obtain ⟨hlast, hdivergence⟩ := signalOf_some hsome
  obtain ⟨rfl, hless⟩ := divergenceKind_bullish (hdivergence.trans (congrArg some hkind))
  have hpair := lastPivots hpivots hlast
  obtain ⟨firstBar, hfirst, hfirstAt, hlow, -⟩ := bar_of_pivot hpivots hpair.first_mem
  obtain ⟨secondBar, hsecond, hsecondAt, hlow', -⟩ := bar_of_pivot hpivots hpair.second_mem
  have hdeeper : depth .low secondBar < depth .low firstBar := by
    rwa [hlow hpair.first_kind, hlow' hpair.second_kind] at hless
  exact ⟨firstBar, secondBar, signalled hpivots hpair hfirst hsecond hfirstAt hsecondAt hdeeper, hlow' hpair.second_kind⟩

/-- The bars of a regular bearish divergence. -/
theorem bearish_signalled (h : evaluateDivergence bars oscillator none = .ok divergence) (hsignal : signal ∈ divergence.regular)
    (hkind : signal.kind = .regularBearish) :
    ∃ firstBar secondBar, Signalled bars .high signal firstBar secondBar ∧ signal.second.price = secondBar.high.toRat := by
  obtain ⟨-, pivots, hpivots, hregular⟩ := evaluateDivergence_ok h
  obtain ⟨kind, -, hsome⟩ := List.mem_filterMap.mp (List.mem_filter.mp (hregular ▸ hsignal)).1
  obtain ⟨hlast, hdivergence⟩ := signalOf_some hsome
  obtain ⟨rfl, hless⟩ := divergenceKind_bearish (hdivergence.trans (congrArg some hkind))
  have hpair := lastPivots hpivots hlast
  obtain ⟨firstBar, hfirst, hfirstAt, -, hhigh⟩ := bar_of_pivot hpivots hpair.first_mem
  obtain ⟨secondBar, hsecond, hsecondAt, -, hhigh'⟩ := bar_of_pivot hpivots hpair.second_mem
  have hdeeper : depth .high secondBar < depth .high firstBar := by
    rw [hhigh hpair.first_kind, hhigh' hpair.second_kind] at hless
    exact neg_lt_neg hless
  exact ⟨firstBar, secondBar, signalled hpivots hpair hfirst hsecond hfirstAt hsecondAt hdeeper, hhigh' hpair.second_kind⟩

/-- The bars from one index to another. -/
def barsBetween (bars : List CompletedOhlcvBar) (first second : ℕ) : List CompletedOhlcvBar :=
  (bars.take (second + 1)).drop first

theorem mem_barsBetween {first second : ℕ} {bar : CompletedOhlcvBar} :
    bar ∈ barsBetween bars first second ↔ ∃ j, first ≤ j ∧ j ≤ second ∧ bars[j]? = some bar := by
  rw [barsBetween, List.mem_iff_getElem?]
  simp only [List.getElem?_drop, List.getElem?_take]
  constructor
  · rintro ⟨j, hj⟩
    split at hj
    · exact ⟨first + j, by omega, by omega, hj⟩
    · cases hj
  · rintro ⟨j, hfrom, hto, hj⟩
    refine ⟨j - first, ?_⟩
    rw [Nat.add_sub_cancel' hfrom, if_pos (by omega), hj]

variable {kind : PivotKind} {firstBar secondBar : CompletedOhlcvBar}

theorem Signalled.segment_eq (h : Signalled bars kind signal firstBar secondBar) :
    segment bars signal = some (barsBetween bars signal.first.index signal.second.index) := by
  simp only [segment, h.first, h.second, Option.bind_eq_bind, Option.bind_some]
  exact if_pos ⟨h.ordered, h.firstAt, h.secondAt⟩

theorem Signalled.first_mem (h : Signalled bars kind signal firstBar secondBar) :
    firstBar ∈ barsBetween bars signal.first.index signal.second.index :=
  mem_barsBetween.mpr ⟨_, le_rfl, h.ordered.le, h.first⟩

theorem Signalled.extreme_of_mem (h : Signalled bars kind signal firstBar secondBar) {bar : CompletedOhlcvBar}
    (hbar : bar ∈ barsBetween bars signal.first.index signal.second.index) : depth kind secondBar ≤ depth kind bar := by
  obtain ⟨j, hfrom, hto, hj⟩ := mem_barsBetween.mp hbar
  exact h.extreme j bar hfrom hto hj

end Signals

end AutoTrader.Strategy
