import AutoTrader.Strategy.Regime
import AutoTrader.Strategy.Pivots

/-! Nothing repaints. A series that grows keeps the pivots it had, with those that are confirmed later after
them, and keeps every value of its MACD, of the signal and of the histogram. -/

namespace AutoTrader.Strategy

open AutoTrader.Domain AutoTrader.Numeric

/-! ### Pivots -/

section Pivots

variable {earlier later : List CompletedOhlcvBar} {config : PivotConfig}

theorem InOrder.of_append (h : InOrder (earlier ++ later)) : InOrder earlier :=
  (List.isChain_append.mp h).1

/-- The window of an index that is confirmed does not see what comes after. -/
theorem neighbours_append {index : Nat} (h : index + config.right < earlier.length) :
    neighbours (earlier ++ later) config index = neighbours earlier config index := by
  refine List.filterMap_congr fun other hother => ?_
  have hrange := List.mem_range'_1.mp (List.mem_filter.mp hother).1
  exact List.getElem?_append_left (by omega)

theorem pivotsAt_append {index : Nat} (h : index + config.right < earlier.length) :
    pivotsAt (earlier ++ later) config index = pivotsAt earlier config index := by
  have hcandidate : (earlier ++ later)[index]? = earlier[index]? := List.getElem?_append_left (by omega)
  rw [pivotsAt, pivotsAt, hcandidate, neighbours_append h]

theorem confirmationIndex_of_pivotsAt {values : List CompletedOhlcvBar} {index : Nat} {pivot : Pivot}
    (h : pivot ∈ pivotsAt values config index) : pivot.confirmationIndex = index + config.right := by
  rw [pivotsAt] at h
  split at h
  · cases h
  · rcases List.mem_append.mp h with h | h
    · split at h
      · rw [List.mem_singleton.mp h]; rfl
      · cases h
    · split at h
      · rw [List.mem_singleton.mp h]; rfl
      · cases h

/-- The indices of a longer series are those of the series, then later ones. -/
theorem pivotIndices_append (config : PivotConfig) (earlier later : List CompletedOhlcvBar) :
    ∃ others, List.range' config.left ((earlier ++ later).length - config.right - config.left) =
        List.range' config.left (earlier.length - config.right - config.left) ++ others ∧
      ∀ index ∈ others, earlier.length ≤ index + config.right := by
  have hlength : (earlier ++ later).length = earlier.length + later.length := List.length_append
  refine ⟨List.range' (config.left + (earlier.length - config.right - config.left))
    ((earlier ++ later).length - config.right - config.left - (earlier.length - config.right - config.left)), ?_,
    fun index hindex => ?_⟩
  · rw [List.range'_append_1]
    congr 1
    omega
  · have hrange := List.mem_range'_1.mp hindex
    omega

theorem filter_pivotsAt_confirmed {index : Nat} (h : index + config.right < earlier.length) :
    (pivotsAt (earlier ++ later) config index).filter (fun pivot => pivot.confirmationIndex < earlier.length) =
      pivotsAt earlier config index := by
  rw [pivotsAt_append h]
  refine List.filter_eq_self.mpr fun pivot hpivot => ?_
  rw [confirmationIndex_of_pivotsAt hpivot]
  exact decide_eq_true h

theorem filter_pivotsAt_unconfirmed {index : Nat} (h : earlier.length ≤ index + config.right) :
    (pivotsAt (earlier ++ later) config index).filter (fun pivot => pivot.confirmationIndex < earlier.length) = [] := by
  refine List.filter_eq_nil_iff.mpr fun pivot hpivot => ?_
  rw [confirmationIndex_of_pivotsAt hpivot]
  simpa using h

theorem confirmedPivots_append {pivots : List Pivot} (h : confirmedPivots (earlier ++ later) config = .ok pivots) :
    confirmedPivots earlier config = .ok (pivots.filter fun pivot => pivot.confirmationIndex < earlier.length) := by
  rw [confirmedPivots] at h
  split at h
  next horder =>
    obtain ⟨others, hindices, hothers⟩ := pivotIndices_append config earlier later
    cases h
    rw [confirmedPivots, if_pos horder.of_append, hindices, List.flatMap_append, List.filter_append,
      List.filter_flatMap, List.filter_flatMap]
    have hlater : others.flatMap (fun index => (pivotsAt (earlier ++ later) config index).filter
        fun pivot => pivot.confirmationIndex < earlier.length) = [] :=
      List.flatMap_eq_nil_iff.mpr fun index hindex => filter_pivotsAt_unconfirmed (hothers index hindex)
    rw [hlater, List.append_nil]
    congr 1
    refine List.flatMap_congr fun index hindex => (filter_pivotsAt_confirmed ?_).symm
    have hrange := List.mem_range'_1.mp hindex
    omega
  next => cases h

end Pivots

/-! ### Averages -/

section Averages

variable {closes : List ℚ} {period : ℕ}

theorem exponential_append (h : period ≤ closes.length) (more : List ℚ) :
    ∃ later, exponential period (closes ++ more) = exponential period closes ++ later := by
  rw [exponential, exponential, List.drop_append_of_le_length h, List.take_append_of_le_length h, List.scanl_append]
  exact ⟨_, rfl⟩

theorem exponential_length (period : ℕ) (values : List ℚ) :
    (exponential period values).length = values.length - period + 1 := by
  rw [exponential, List.length_scanl, List.length_drop]

theorem ema_ok {averages : List (Option ℚ)} : ema closes period = .ok averages ↔
    period ≤ closes.length ∧ averages = List.replicate (period - 1) none ++ (exponential period closes).map some := by
  unfold ema
  split
  · simp only [reduceCtorEq, false_iff]
    omega
  · simp only [Except.ok.injEq]
    exact ⟨fun h => ⟨by omega, h.symm⟩, fun h => h.2.symm⟩

theorem ema_length (hperiod : 0 < period) {averages : List (Option ℚ)} (h : ema closes period = .ok averages) :
    averages.length = closes.length := by
  obtain ⟨hle, rfl⟩ := ema_ok.mp h
  rw [List.length_append, List.length_replicate, List.length_map, exponential_length]
  omega

theorem ema_append {averages : List (Option ℚ)} (h : ema closes period = .ok averages) (more : List ℚ) :
    ∃ later, ema (closes ++ more) period = .ok (averages ++ later) := by
  obtain ⟨hle, rfl⟩ := ema_ok.mp h
  obtain ⟨later, hlater⟩ := exponential_append hle more
  refine ⟨later.map some, ema_ok.mpr ⟨?_, ?_⟩⟩
  · rw [List.length_append]
    omega
  · rw [hlater, List.map_append, List.append_assoc]

/-! ### The MACD, its signal and the histogram -/

theorem macdSeries_ok {macd signal : List (Option ℚ)} : macdSeries closes = .ok (macd, signal) ↔
    ∃ fast slow, ema closes macdFast = .ok fast ∧ ema closes macdSlow = .ok slow ∧
      macd = List.zipWith macdValue fast slow ∧ macdWarmupBars ≤ macd.length ∧ signal = signalLine macd := by
  rw [macdSeries, bind_ok]
  constructor
  · rintro ⟨fast, hfast, h⟩
    obtain ⟨slow, hslow, h⟩ := bind_ok.mp h
    dsimp only at h
    split at h
    next => cases h
    next hwarm =>
      cases h
      exact ⟨fast, slow, hfast, hslow, rfl, not_lt.mp hwarm, rfl⟩
  · rintro ⟨fast, slow, hfast, hslow, rfl, hwarm, rfl⟩
    refine ⟨fast, hfast, bind_ok.mpr ⟨slow, hslow, ?_⟩⟩
    dsimp only
    rw [if_neg (not_lt.mpr hwarm)]
    rfl

theorem signalLine_append {macd : List (Option ℚ)} (h : macdWarmupBars ≤ macd.length) (later : List (Option ℚ)) :
    ∃ others, signalLine (macd ++ later) = signalLine macd ++ others := by
  have hseed : macdSignal ≤ ((macd.drop (macdSlow - 1)).map (·.getD 0)).length := by
    rw [List.length_map, List.length_drop]
    simp only [macdWarmupBars, macdSlow, macdSignal] at h ⊢
    omega
  have hslow : macdSlow - 1 ≤ macd.length := le_trans (by decide) h
  obtain ⟨others, hothers⟩ := exponential_append hseed (later.map (·.getD 0))
  refine ⟨others.map some, ?_⟩
  rw [signalLine, List.drop_append_of_le_length hslow, List.map_append, hothers, List.map_append,
    ← List.append_assoc, signalLine]

theorem macdSeries_append {macd signal : List (Option ℚ)} (h : macdSeries closes = .ok (macd, signal)) (more : List ℚ) :
    ∃ macd' signal', macdSeries (closes ++ more) = .ok (macd ++ macd', signal ++ signal') := by
  obtain ⟨fast, slow, hfast, hslow, rfl, hwarm, rfl⟩ := macdSeries_ok.mp h
  obtain ⟨fast', hfast'⟩ := ema_append hfast more
  obtain ⟨slow', hslow'⟩ := ema_append hslow more
  have hlength : fast.length = slow.length := by
    rw [ema_length (by decide) hfast, ema_length (by decide) hslow]
  obtain ⟨signal', hsignal'⟩ := signalLine_append hwarm (List.zipWith macdValue fast' slow')
  refine ⟨List.zipWith macdValue fast' slow', signal', macdSeries_ok.mpr ⟨_, _, hfast', hslow', ?_, ?_, hsignal'.symm⟩⟩
  · exact (List.zipWith_append hlength).symm
  · rw [List.length_append]
    omega

theorem macdSeries_length {macd signal : List (Option ℚ)} (h : macdSeries closes = .ok (macd, signal)) :
    macd.length = closes.length ∧ signal.length = closes.length ∧ macdWarmupBars ≤ closes.length := by
  obtain ⟨fast, slow, hfast, hslow, rfl, hwarm, rfl⟩ := macdSeries_ok.mp h
  have hlength : (List.zipWith macdValue fast slow).length = closes.length := by
    rw [List.length_zipWith, ema_length (by decide) hfast, ema_length (by decide) hslow, min_self]
  refine ⟨hlength, ?_, hlength ▸ hwarm⟩
  rw [signalLine, List.length_append, List.length_replicate, List.length_map, exponential_length, List.length_map,
    List.length_drop, hlength]
  rw [hlength] at hwarm
  simp only [macdWarmupBars, macdSlow, macdSignal] at hwarm ⊢
  omega

/-- There is a series as soon as the signal has its first value. -/
theorem exists_macdSeries (h : macdWarmupBars ≤ closes.length) : ∃ series, macdSeries closes = .ok series := by
  have hfast : ema closes macdFast = .ok _ := ema_ok.mpr ⟨le_trans (by decide) h, rfl⟩
  have hslow : ema closes macdSlow = .ok _ := ema_ok.mpr ⟨le_trans (by decide) h, rfl⟩
  refine ⟨(_, _), macdSeries_ok.mpr ⟨_, _, hfast, hslow, rfl, ?_, rfl⟩⟩
  rw [List.length_zipWith, ema_length (by decide) hfast, ema_length (by decide) hslow, min_self]
  exact h

theorem ema_there {averages : List (Option ℚ)} (h : ema closes period = .ok averages) {index : ℕ}
    (hfrom : period - 1 ≤ index) (hlt : index < averages.length) : ∃ value, averages[index]? = some (some value) := by
  obtain ⟨-, rfl⟩ := ema_ok.mp h
  rw [List.length_append, List.length_replicate, List.length_map] at hlt
  have hin : index - (period - 1) < (exponential period closes).length := by omega
  refine ⟨(exponential period closes)[index - (period - 1)], ?_⟩
  rw [List.getElem?_append_right (by rwa [List.length_replicate]), List.length_replicate, List.getElem?_map,
    List.getElem?_eq_getElem hin]
  rfl

/-- From the first slow average on the MACD has its values, so none of those cast is missing. -/
theorem macd_there {macd signal : List (Option ℚ)} (h : macdSeries closes = .ok (macd, signal)) {index : ℕ}
    (hfrom : macdSlow - 1 ≤ index) (hlt : index < macd.length) : ∃ value, macd[index]? = some (some value) := by
  obtain ⟨fast, slow, hfast, hslow, rfl, -, -⟩ := macdSeries_ok.mp h
  rw [List.length_zipWith] at hlt
  obtain ⟨x, hx⟩ := ema_there hfast (le_trans (by decide) hfrom : macdFast - 1 ≤ index) (by omega)
  obtain ⟨y, hy⟩ := ema_there hslow hfrom (by omega)
  refine ⟨rounded (x - y), ?_⟩
  rw [List.getElem?_zipWith, hx, hy]
  rfl

theorem signal_there {macd signal : List (Option ℚ)} (h : macdSeries closes = .ok (macd, signal)) :
    ∃ value, signal[macdWarmupBars - 1]? = some (some value) := by
  obtain ⟨fast, slow, -, -, -, -, rfl⟩ := macdSeries_ok.mp h
  rw [signalLine, List.getElem?_append_right (by rw [List.length_replicate]), List.length_replicate, Nat.sub_self,
    List.getElem?_map, exponential, List.getElem?_scanl_zero]
  exact ⟨_, rfl⟩

end Averages

section Histogram

variable {earlier later : List CompletedOhlcvBar}

theorem alignedMacdHistogram_some {bars : List CompletedOhlcvBar} {histogram : List ℚ} :
    alignedMacdHistogram earlier = .ok (some (bars, histogram)) ↔
      macdWarmupBars ≤ earlier.length ∧ ∃ macd signal start, macdSeries (earlier.map (·.close.toRat)) = .ok (macd, signal) ∧
        (macd.zip signal).findIdx? bothThere = some start ∧ bars = earlier.drop start ∧
          histogram = ((macd.zip signal).drop start).map difference := by
  unfold alignedMacdHistogram
  split
  next hshort =>
    constructor
    · intro h
      cases h
    · rintro ⟨hwarm, -⟩
      omega
  next hwarm =>
    rw [bind_ok]
    constructor
    · rintro ⟨⟨macd, signal⟩, hseries, h⟩
      obtain ⟨start, hstart, h⟩ := Option.map_eq_some_iff.mp (Except.ok.inj h)
      cases h
      exact ⟨not_lt.mp hwarm, macd, signal, start, hseries, hstart, rfl, rfl⟩
    · rintro ⟨-, macd, signal, start, hseries, hstart, rfl, rfl⟩
      exact ⟨(macd, signal), hseries, congrArg Except.ok (Option.map_eq_some_iff.mpr ⟨start, hstart, rfl⟩)⟩

theorem alignedMacdHistogram_append {bars : List CompletedOhlcvBar} {histogram : List ℚ}
    (h : alignedMacdHistogram earlier = .ok (some (bars, histogram))) :
    ∃ others, alignedMacdHistogram (earlier ++ later) = .ok (some (bars ++ later, histogram ++ others)) := by
  obtain ⟨hwarm, macd, signal, start, hseries, hstart, rfl, rfl⟩ := alignedMacdHistogram_some.mp h
  obtain ⟨hmacd, hsignal, -⟩ := macdSeries_length hseries
  obtain ⟨macd', signal', hseries'⟩ := macdSeries_append hseries (later.map (·.close.toRat))
  have hzip : (macd ++ macd').zip (signal ++ signal') = macd.zip signal ++ macd'.zip signal' :=
    List.zip_append (hmacd.trans hsignal.symm)
  have hlt : start < (macd.zip signal).length := (List.findIdx?_eq_some_iff_getElem.mp hstart).1
  have hbars : start ≤ earlier.length := by
    rw [List.length_zip, hmacd, hsignal, List.length_map] at hlt
    omega
  refine ⟨((macd'.zip signal').map difference), alignedMacdHistogram_some.mpr
    ⟨?_, macd ++ macd', signal ++ signal', start, ?_, ?_, ?_, ?_⟩⟩
  · rw [List.length_append]
    omega
  · rw [List.map_append, hseries']
  · rw [hzip, List.findIdx?_append, hstart]
    rfl
  · rw [List.drop_append_of_le_length hbars]
  · rw [hzip, List.drop_append_of_le_length hlt.le, List.map_append]

/-- The histogram is there as soon as the MACD is. -/
theorem exists_alignedMacdHistogram (h : macdWarmupBars ≤ earlier.length) :
    ∃ bars histogram, alignedMacdHistogram earlier = .ok (some (bars, histogram)) := by
  have hlength : (earlier.map (·.close.toRat)).length = earlier.length := List.length_map _
  obtain ⟨⟨macd, signal⟩, hseries⟩ := exists_macdSeries (hlength.symm ▸ h)
  obtain ⟨hmacd, -, -⟩ := macdSeries_length hseries
  rw [List.length_map] at hmacd
  have hlast : macdWarmupBars - 1 < macd.length := hmacd ▸ lt_of_lt_of_le (by decide) h
  obtain ⟨x, hx⟩ := macd_there hseries (by decide) hlast
  obtain ⟨y, hy⟩ := signal_there hseries
  have hboth : (some x, some y) ∈ macd.zip signal :=
    List.mem_of_getElem? (List.getElem?_zip_eq_some.mpr ⟨hx, hy⟩)
  obtain ⟨start, hstart⟩ := Option.isSome_iff_exists.mp
    (List.findIdx?_isSome.trans (List.any_eq_true.mpr ⟨_, hboth, rfl⟩) : ((macd.zip signal).findIdx? bothThere).isSome)
  exact ⟨_, _, alignedMacdHistogram_some.mpr ⟨h, macd, signal, start, hseries, hstart, rfl, rfl⟩⟩

end Histogram

/-! ### No repaint -/

/-- A series keeps what it showed when it was shorter: its confirmed pivots, its MACD, the signal and the
histogram. -/
theorem no_repaint (config : PivotConfig) (earlier later : List CompletedOhlcvBar) (closes more : List ℚ) :
    (∀ pivots, confirmedPivots (earlier ++ later) config = .ok pivots → confirmedPivots earlier config =
      .ok (pivots.filter fun pivot => pivot.confirmationIndex < earlier.length)) ∧
    (macdWarmupBars ≤ closes.length → ∃ macd signal, macdSeries closes = .ok (macd, signal)) ∧
    (∀ macd signal, macdSeries closes = .ok (macd, signal) → macd.length = closes.length ∧
      signal.length = closes.length ∧ ∃ macd' signal', macdSeries (closes ++ more) = .ok (macd ++ macd', signal ++ signal')) ∧
    (macdWarmupBars ≤ earlier.length → ∃ bars histogram, alignedMacdHistogram earlier = .ok (some (bars, histogram))) ∧
    ∀ bars histogram, alignedMacdHistogram earlier = .ok (some (bars, histogram)) →
      ∃ others, alignedMacdHistogram (earlier ++ later) = .ok (some (bars ++ later, histogram ++ others)) := by
  refine ⟨fun pivots => confirmedPivots_append, fun hwarm => ?_, fun macd signal hseries => ?_,
    exists_alignedMacdHistogram, fun bars histogram => alignedMacdHistogram_append⟩
  · obtain ⟨series, hseries⟩ := exists_macdSeries hwarm
    exact ⟨series.1, series.2, hseries⟩
  · obtain ⟨hmacd, hsignal, -⟩ := macdSeries_length hseries
    exact ⟨hmacd, hsignal, macdSeries_append hseries more⟩

theorem swing_pos : 0 < (Decimal.ofNat 1).toRat := by norm_num [Decimal.ofNat, Decimal.toRat]

theorem swing_low_le (minute : ℕ) : (Decimal.ofNat 1).toRat ≤ (Decimal.ofNat (minute % 3 + 1)).toRat := by
  simp only [Decimal.ofNat, Decimal.toRat]
  norm_num

theorem swing_low_le_low : (Decimal.ofNat 1).toRat ≤ (Decimal.ofNat 1).toRat := le_rfl

theorem swing_nonneg : 0 ≤ (Decimal.ofNat 1).toRat := swing_pos.le

/-- The bar of a minute of a market that swings up and down. -/
def minuteBar (minute : ℕ) : CompletedOhlcvBar where
  timestamp := 60000000 * minute
  open_ := Decimal.ofNat 1
  high := Decimal.ofNat (minute % 3 + 1)
  low := Decimal.ofNat 1
  close := Decimal.ofNat 1
  volume := Decimal.ofNat 1
  low_pos := swing_pos
  low_le_open := swing_low_le_low
  open_le_high := swing_low_le minute
  low_le_close := swing_low_le_low
  close_le_high := swing_low_le minute
  volume_nonneg := swing_nonneg

theorem minuteBars_inOrder (minutes : ℕ) : InOrder ((List.range minutes).map minuteBar) := by
  refine (List.isChain_map _).mpr (List.isChain_iff_pairwise.mpr (List.pairwise_lt_range.imp fun {a b} hab => ?_))
  have htime : (60000000 : ℤ) * a < 60000000 * b := by omega
  exact htime

theorem no_repaint_hour :
    (∃ pivots, confirmedPivots ((List.range 34).map minuteBar ++ (List.range' 34 26).map minuteBar) defaultPivotConfig =
        .ok pivots ∧ confirmedPivots ((List.range 34).map minuteBar) defaultPivotConfig =
          .ok (pivots.filter fun pivot => pivot.confirmationIndex < ((List.range 34).map minuteBar).length)) ∧
    (∃ macd signal macd' signal', macdSeries (List.replicate 34 100) = .ok (macd, signal) ∧
      macdSeries (List.replicate 34 100 ++ [101]) = .ok (macd ++ macd', signal ++ signal')) ∧
    ∃ bars histogram others, alignedMacdHistogram ((List.range 34).map minuteBar) = .ok (some (bars, histogram)) ∧
      alignedMacdHistogram ((List.range 34).map minuteBar ++ (List.range' 34 26).map minuteBar) =
        .ok (some (bars ++ (List.range' 34 26).map minuteBar, histogram ++ others)) := by
  obtain ⟨hpivots, hseries, hlonger, hhistogram, haligned⟩ := no_repaint defaultPivotConfig
    ((List.range 34).map minuteBar) ((List.range' 34 26).map minuteBar) (List.replicate 34 100) [101]
  have horder : InOrder ((List.range 34).map minuteBar ++ (List.range' 34 26).map minuteBar) := by
    rw [← List.map_append]
    exact minuteBars_inOrder 60
  obtain ⟨macd, signal, hmacd⟩ := hseries le_rfl
  obtain ⟨-, -, macd', signal', hmore⟩ := hlonger macd signal hmacd
  obtain ⟨bars, histogram, hbars⟩ := hhistogram le_rfl
  obtain ⟨others, hothers⟩ := haligned bars histogram hbars
  exact ⟨⟨_, if_pos horder, hpivots _ (if_pos horder)⟩, ⟨macd, signal, macd', signal', hmacd, hmore⟩,
    bars, histogram, others, hbars, hothers⟩

end AutoTrader.Strategy
