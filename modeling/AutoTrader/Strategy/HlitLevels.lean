import AutoTrader.Strategy.HlitAnchors

/-! The levels of a retracement. On a grid of few enough digits nothing is rounded, so that every setup is built and
its extensions carry the span beyond its origin. -/

namespace AutoTrader.Strategy

open AutoTrader.Domain AutoTrader.Numeric AutoTrader.Runtime

/-! ### What is drawn -/

theorem hlitSetup_ok {fields : HlitFields} (h : fields.postInit = .ok ()) : hlitSetup fields = .ok ⟨fields, h⟩ := by
  unfold hlitSetup
  split
  next e herror =>
    rw [h] at herror
    cases herror
  next => rfl

theorem hlitSetup_fields {fields : HlitFields} {setup : HlitSetup} (h : hlitSetup fields = .ok setup) : setup.1 = fields := by
  unfold hlitSetup at h
  split at h
  next => cases h
  next =>
    cases h
    rfl

section Drawing

variable {bars : List CompletedOhlcvBar} {observedAt : Instant} {divergence : DivergenceFacts} {setup : HlitSetup}

theorem bullishSetup_some (h : bullishSetup bars observedAt divergence = .ok (some setup)) :
    ∃ signal ∈ divergence.regular, signal.kind = .regularBullish ∧ ∃ first rest, segment bars signal = some (first :: rest) ∧
      setup.1 = bullishFields signal (highestHigh first rest) observedAt := by
  rw [bullishSetup] at h
  split at h
  next => cases h
  next signal hfind =>
    refine ⟨signal, List.mem_of_find?_eq_some hfind, by simpa using List.find?_some hfind, ?_⟩
    split at h
    next => cases h
    next => cases h
    next first rest hsegment =>
      dsimp only at h
      split at h
      next => cases h
      next =>
        obtain ⟨drawn, hdrawn, heq⟩ := exceptMap_ok.mp h
        cases heq
        exact ⟨first, rest, hsegment, hlitSetup_fields hdrawn⟩

theorem bearishSetup_some (h : bearishSetup bars observedAt divergence = .ok (some setup)) :
    ∃ signal ∈ divergence.regular, signal.kind = .regularBearish ∧ ∃ first rest, segment bars signal = some (first :: rest) ∧
      setup.1 = bearishFields signal (lowestLow first rest) observedAt := by
  rw [bearishSetup] at h
  split at h
  next => cases h
  next signal hfind =>
    refine ⟨signal, List.mem_of_find?_eq_some hfind, by simpa using List.find?_some hfind, ?_⟩
    split at h
    next => cases h
    next => cases h
    next first rest hsegment =>
      dsimp only at h
      split at h
      next => cases h
      next =>
        obtain ⟨drawn, hdrawn, heq⟩ := exceptMap_ok.mp h
        cases heq
        exact ⟨first, rest, hsegment, hlitSetup_fields hdrawn⟩

theorem buildHlitSetups_ok {facts : HlitFacts} (h : buildHlitSetups bars divergence = .ok facts) :
    (facts.bullish = none ∧ facts.bearish = none) ∨ ∃ observedAt,
      bullishSetup bars observedAt divergence = .ok facts.bullish ∧
        bearishSetup bars observedAt divergence = .ok facts.bearish := by
  rw [buildHlitSetups] at h
  split at h
  next => cases h
  next =>
    split at h
    next =>
      cases h
      exact .inl ⟨rfl, rfl⟩
    next last _ =>
      obtain ⟨bullish, hbullish, h⟩ := bind_ok.mp h
      obtain ⟨bearish, hbearish, h⟩ := bind_ok.mp h
      cases h
      exact .inr ⟨last.timestamp, hbullish, hbearish⟩

end Drawing

/-- The bars of a setup, from its first pivot to its second. -/
def HlitSetup.bars (setup : HlitSetup) (bars : List CompletedOhlcvBar) : List CompletedOhlcvBar :=
  barsBetween bars setup.1.firstPivotIndex setup.1.secondPivotIndex

/-- The anchors are the extremes of the segment, and the second pivot is at one of them. -/
def Anchored (bars : List CompletedOhlcvBar) (setup : HlitSetup) : Prop :=
  match setup.1.direction with
  | .buy =>
    (∃ bar, bars[setup.1.secondPivotIndex]? = some bar ∧ setup.1.anchorB = bar.low.toRat) ∧
      (∀ bar ∈ setup.bars bars, setup.1.anchorB ≤ bar.low.toRat) ∧
      (∃ bar ∈ setup.bars bars, setup.1.anchorA = bar.high.toRat) ∧ ∀ bar ∈ setup.bars bars, bar.high.toRat ≤ setup.1.anchorA
  | .sell =>
    (∃ bar, bars[setup.1.secondPivotIndex]? = some bar ∧ setup.1.anchorB = bar.high.toRat) ∧
      (∀ bar ∈ setup.bars bars, bar.high.toRat ≤ setup.1.anchorB) ∧
      (∃ bar ∈ setup.bars bars, setup.1.anchorA = bar.low.toRat) ∧ ∀ bar ∈ setup.bars bars, setup.1.anchorA ≤ bar.low.toRat

section Anchors

variable {bars : List CompletedOhlcvBar} {oscillator : List ℚ} {divergence : DivergenceFacts} {observedAt : Instant}
  {setup : HlitSetup}

theorem bullish_anchored (h : evaluateDivergence bars oscillator none = .ok divergence)
    (hsetup : bullishSetup bars observedAt divergence = .ok (some setup)) : setup.1.direction = .buy ∧ Anchored bars setup := by
  obtain ⟨signal, hsignal, hkind, first, rest, hsegment, hfields⟩ := bullishSetup_some hsetup
  obtain ⟨firstBar, secondBar, hsignalled, hprice⟩ := bullish_signalled h hsignal hkind
  have hbars : barsBetween bars signal.first.index signal.second.index = first :: rest :=
    Option.some.inj (hsignalled.segment_eq.symm.trans hsegment)
  unfold Anchored HlitSetup.bars
  rw [hfields]
  refine ⟨rfl, ⟨secondBar, hsignalled.second, hprice⟩, fun bar hbar => ?_, ?_, fun bar hbar => ?_⟩
  · exact hprice.trans_le (hsignalled.extreme_of_mem hbar)
  · exact ⟨_, hbars ▸ maxBy_mem _ first rest, rfl⟩
  · exact le_maxBy (fun bar : CompletedOhlcvBar => bar.high.toRat) first rest bar (hbars ▸ hbar)

theorem bearish_anchored (h : evaluateDivergence bars oscillator none = .ok divergence)
    (hsetup : bearishSetup bars observedAt divergence = .ok (some setup)) : setup.1.direction = .sell ∧ Anchored bars setup := by
  obtain ⟨signal, hsignal, hkind, first, rest, hsegment, hfields⟩ := bearishSetup_some hsetup
  obtain ⟨firstBar, secondBar, hsignalled, hprice⟩ := bearish_signalled h hsignal hkind
  have hbars : barsBetween bars signal.first.index signal.second.index = first :: rest :=
    Option.some.inj (hsignalled.segment_eq.symm.trans hsegment)
  unfold Anchored HlitSetup.bars
  rw [hfields]
  refine ⟨rfl, ⟨secondBar, hsignalled.second, hprice⟩, fun bar hbar => ?_, ?_, fun bar hbar => ?_⟩
  · exact (neg_le_neg_iff.mp (hsignalled.extreme_of_mem hbar)).trans_eq hprice.symm
  · exact ⟨_, hbars ▸ minBy_mem _ first rest, rfl⟩
  · exact minBy_le (fun bar : CompletedOhlcvBar => bar.low.toRat) first rest bar (hbars ▸ hbar)

end Anchors

/-! ### Levels on a grid -/

section Grid

variable {e : ℤ} {a b x d : ℚ}

theorem onGrid_span (ha : OnGrid 24 e a) (hb : OnGrid 24 e b) (hpos : 0 < b) (hlt : b < a) : OnGrid 24 e (a - b) := by
  obtain ⟨n, rfl, hn⟩ := ha
  obtain ⟨m, rfl, hm⟩ := hb
  have hunit : (0 : ℚ) < 10 ^ e := zpow_pos (by norm_num) e
  have hm0 : 0 < m := by exact_mod_cast pos_of_mul_pos_left hpos hunit.le
  have hnm : m < n := by exact_mod_cast lt_of_mul_lt_mul_right hlt hunit.le
  refine ⟨n - m, by push_cast; ring, ?_⟩
  rw [abs_lt] at hn ⊢
  omega

/-- A level of three decimals is a number of the context. -/
theorem scaled_exact (hx : OnGrid 24 e x) (hd : OnGrid 24 e d) {k : ℤ} (hk : |k| ≤ 1618) :
    rounded (d * (k / 1000)) = d * (k / 1000) ∧ rounded (x + d * (k / 1000)) = x + d * (k / 1000) := by
  obtain ⟨n, rfl, hn⟩ := hx
  obtain ⟨m, rfl, hm⟩ := hd
  have hthousandth : (10 : ℚ) ^ e = 1000 * 10 ^ (e - 3) := by
    rw [zpow_sub₀ (by norm_num)]
    norm_num
    ring
  have hscaled : |m * k| ≤ 10 ^ 24 * 1618 := by
    rw [abs_mul]
    exact mul_le_mul hm.le hk (abs_nonneg _) (by norm_num)
  constructor
  · refine roundSig_of_onGrid (e := e - 3) ⟨m * k, ?_, hscaled.trans_lt (by norm_num)⟩
    rw [hthousandth]
    push_cast
    ring
  · refine roundSig_of_onGrid (e := e - 3) ⟨1000 * n + m * k, ?_, ?_⟩
    · rw [hthousandth]
      push_cast
      ring
    · calc |1000 * n + m * k| ≤ |1000 * n| + |m * k| := abs_add_le _ _
        _ ≤ 1000 * 10 ^ 24 + 10 ^ 24 * 1618 := by
          rw [abs_mul]
          exact add_le_add (mul_le_mul_of_nonneg_left hn.le (by norm_num)) hscaled
        _ < 10 ^ 28 := by norm_num

theorem rounded_onGrid (hx : OnGrid 24 e x) : rounded x = x := by
  obtain ⟨n, rfl, hn⟩ := hx
  exact roundSig_of_onGrid ⟨n, rfl, hn.trans (by norm_num)⟩

theorem fib25_eq : fib25 = (250 : ℤ) / 1000 := by norm_num [fib25]
theorem fib50_eq : fib50 = (500 : ℤ) / 1000 := by norm_num [fib50]
theorem fib66_eq : fib66 = (660 : ℤ) / 1000 := by norm_num [fib66]
theorem fib127_eq : fib127 = (1272 : ℤ) / 1000 := by norm_num [fib127]
theorem fib162_eq : fib162 = (1618 : ℤ) / 1000 := by norm_num [fib162]

/-- A level above its anchor is not rounded. -/
theorem level_above (hx : OnGrid 24 e x) (hd : OnGrid 24 e d) {k : ℤ} (hk : |k| ≤ 1618) :
    rounded (x + rounded (rounded d * (k / 1000))) = x + d * (k / 1000) := by
  rw [rounded_onGrid hd, (scaled_exact hx hd hk).1, (scaled_exact hx hd hk).2]

/-- Nor is one below. -/
theorem level_below (hx : OnGrid 24 e x) (hd : OnGrid 24 e d) {k : ℤ} (hk : |k| ≤ 1618) :
    rounded (x - rounded (rounded d * (k / 1000))) = x - d * (k / 1000) := by
  have hneg := (scaled_exact hx hd (k := -k) (by rwa [abs_neg])).2
  have hminus : x + d * ((-k : ℤ) / 1000) = x - d * (k / 1000) := by
    push_cast
    ring
  rw [hminus] at hneg
  rw [rounded_onGrid hd, (scaled_exact hx hd hk).1, hneg]

end Grid

/-- The extensions carry the span of the anchors on, away from the extreme anchor. -/
def Extended (setup : HlitSetup) : Prop :=
  match setup.1.direction with
  | .buy =>
    let span := setup.1.anchorA - setup.1.anchorB
    extensionPrices setup = (setup.1.anchorB + span * fib127, setup.1.anchorB + span * fib162) ∧
      setup.1.anchorB < setup.1.anchorA ∧ setup.1.anchorA < (extensionPrices setup).1 ∧
        (extensionPrices setup).1 < (extensionPrices setup).2
  | .sell =>
    let span := setup.1.anchorB - setup.1.anchorA
    extensionPrices setup = (setup.1.anchorB - span * fib127, setup.1.anchorB - span * fib162) ∧
      setup.1.anchorA < setup.1.anchorB ∧ (extensionPrices setup).1 < setup.1.anchorA ∧
        (extensionPrices setup).2 < (extensionPrices setup).1

theorem HlitFields.postInit_ok {fields : HlitFields} (hpositive : ∀ entry ∈ fields.prices, 0 < entry.2)
    (hordered : fields.firstPivotIndex < fields.secondPivotIndex) (htarget : fields.targetPrice = fields.fib66)
    (hinvalidation : fields.invalidationPrice = fields.anchorB) (hlevels : fields.checkLevels = .ok ()) :
    fields.postInit = .ok () := by
  have hfind : fields.prices.find? (fun entry => entry.2 ≤ 0) = none :=
    List.find?_eq_none.mpr fun entry hentry => by simpa using hpositive entry hentry
  rw [HlitFields.postInit, hfind]
  dsimp only
  rw [if_neg (not_le.mpr hordered), if_neg (not_not.mpr htarget), if_neg (not_not.mpr hinvalidation), hlevels]

theorem HlitFields.checkLevels_buy {fields : HlitFields} (hdirection : fields.direction = .buy)
    (h25 : fields.anchorB < fields.fib25) (h50 : fields.fib25 < fields.fib50) (h66 : fields.fib50 < fields.fib66)
    (hanchor : fields.fib66 < fields.anchorA) : fields.checkLevels = .ok () := by
  rw [HlitFields.checkLevels, hdirection]
  dsimp only
  rw [if_neg (not_not.mpr ⟨h25, h50, h66⟩), if_neg (not_le.mpr hanchor)]
  rfl

theorem HlitFields.checkLevels_sell {fields : HlitFields} (hdirection : fields.direction = .sell)
    (h25 : fields.fib25 < fields.anchorB) (h50 : fields.fib50 < fields.fib25) (h66 : fields.fib66 < fields.fib50)
    (hanchor : fields.anchorA < fields.fib66) : fields.checkLevels = .ok () := by
  rw [HlitFields.checkLevels, hdirection]
  dsimp only
  rw [if_neg (not_not.mpr ⟨h25, h50, h66⟩), if_neg (not_le.mpr hanchor)]
  rfl

section Setups

variable {e : ℤ} {signal : DivergenceSignal} {anchorA : ℚ} {setup : HlitSetup}

section Bullish

variable (ha : OnGrid 24 e anchorA) (hb : OnGrid 24 e signal.second.price) (hlt : signal.second.price < anchorA)

include ha hb hlt

theorem bullishFields_levels (observedAt : Instant) :
    (bullishFields signal anchorA observedAt).fib25 = signal.second.price + (anchorA - signal.second.price) * fib25 ∧
      (bullishFields signal anchorA observedAt).fib50 = signal.second.price + (anchorA - signal.second.price) * fib50 ∧
        (bullishFields signal anchorA observedAt).fib66 = signal.second.price + (anchorA - signal.second.price) * fib66 := by
  have hspan := onGrid_span ha hb signal.second.positive hlt
  rw [fib25_eq, fib50_eq, fib66_eq]
  refine ⟨?_, ?_, ?_⟩
  · rw [← level_above hb hspan (by decide), ← fib25_eq]
    rfl
  · rw [← level_above hb hspan (by decide), ← fib50_eq]
    rfl
  · rw [← level_above hb hspan (by decide), ← fib66_eq]
    rfl

theorem bullishFields_valid (hordered : signal.first.index < signal.second.index) (observedAt : Instant) :
    (bullishFields signal anchorA observedAt).postInit = .ok () := by
  obtain ⟨h25, h50, h66⟩ := bullishFields_levels ha hb hlt observedAt
  have hpos := signal.second.positive
  have hspan : 0 < anchorA - signal.second.price := sub_pos.mpr hlt
  simp only [fib25, fib50, fib66] at h25 h50 h66
  refine HlitFields.postInit_ok ?_ hordered rfl rfl ?_
  · have htarget : (bullishFields signal anchorA observedAt).targetPrice = _ := h66
    simp only [HlitFields.prices, List.forall_mem_cons, h25, h50, h66, htarget]
    refine ⟨hpos.trans hlt, hpos, ?_, ?_, ?_, ?_, hpos, by simp⟩ <;> linarith
  · have hanchorA : (bullishFields signal anchorA observedAt).anchorA = anchorA := rfl
    have hanchorB : (bullishFields signal anchorA observedAt).anchorB = signal.second.price := rfl
    apply HlitFields.checkLevels_buy rfl
    · rw [h25, hanchorB]
      linarith
    · rw [h25, h50]
      linarith
    · rw [h50, h66]
      linarith
    · rw [h66, hanchorA]
      linarith

theorem bullish_extended {observedAt : Instant} (hsetup : setup.1 = bullishFields signal anchorA observedAt) :
    Extended setup := by
  have hspan := onGrid_span ha hb signal.second.positive hlt
  have hpos : 0 < anchorA - signal.second.price := sub_pos.mpr hlt
  have h66 := (bullishFields_levels ha hb hlt observedAt).2.2
  have hback : rounded (rounded ((bullishFields signal anchorA observedAt).fib66 - signal.second.price) / fib66) =
      anchorA - signal.second.price := by
    have hfib := (scaled_exact hb hspan (k := 660) (by decide)).1
    rw [h66, add_sub_cancel_left, fib66_eq, hfib, ← fib66_eq, mul_div_cancel_right₀ _ (by norm_num [fib66]),
      rounded_onGrid hspan]
  have hprices : extensionPrices setup = (signal.second.price + (anchorA - signal.second.price) * fib127,
      signal.second.price + (anchorA - signal.second.price) * fib162) := by
    have h127 := scaled_exact hb hspan (k := 1272) (by decide)
    have h162 := scaled_exact hb hspan (k := 1618) (by decide)
    rw [← fib127_eq] at h127
    rw [← fib162_eq] at h162
    rw [extensionPrices, hsetup]
    simp only [bullishFields] at hback ⊢
    rw [hback, h127.1, h127.2, h162.1, h162.2]
  unfold Extended
  rw [hprices, hsetup]
  simp only [bullishFields, fib127, fib162]
  refine ⟨trivial, hlt, ?_, ?_⟩ <;> linarith

end Bullish

section Bearish

variable (ha : OnGrid 24 e anchorA) (hb : OnGrid 24 e signal.second.price) (hpos : 0 < anchorA)
  (hlt : anchorA < signal.second.price)

include ha hb hpos hlt

theorem bearishFields_levels (observedAt : Instant) :
    (bearishFields signal anchorA observedAt).fib25 = signal.second.price - (signal.second.price - anchorA) * fib25 ∧
      (bearishFields signal anchorA observedAt).fib50 = signal.second.price - (signal.second.price - anchorA) * fib50 ∧
        (bearishFields signal anchorA observedAt).fib66 = signal.second.price - (signal.second.price - anchorA) * fib66 := by
  have hspan := onGrid_span hb ha hpos hlt
  rw [fib25_eq, fib50_eq, fib66_eq]
  refine ⟨?_, ?_, ?_⟩
  · rw [← level_below hb hspan (by decide), ← fib25_eq]
    rfl
  · rw [← level_below hb hspan (by decide), ← fib50_eq]
    rfl
  · rw [← level_below hb hspan (by decide), ← fib66_eq]
    rfl

theorem bearishFields_valid (hordered : signal.first.index < signal.second.index) (observedAt : Instant) :
    (bearishFields signal anchorA observedAt).postInit = .ok () := by
  obtain ⟨h25, h50, h66⟩ := bearishFields_levels ha hb hpos hlt observedAt
  have hprice := signal.second.positive
  simp only [fib25, fib50, fib66] at h25 h50 h66
  refine HlitFields.postInit_ok ?_ hordered rfl rfl ?_
  · have htarget : (bearishFields signal anchorA observedAt).targetPrice = _ := h66
    simp only [HlitFields.prices, List.forall_mem_cons, h25, h50, h66, htarget]
    refine ⟨hpos, hprice, ?_, ?_, ?_, ?_, hprice, by simp⟩ <;> linarith
  · have hanchorA : (bearishFields signal anchorA observedAt).anchorA = anchorA := rfl
    have hanchorB : (bearishFields signal anchorA observedAt).anchorB = signal.second.price := rfl
    apply HlitFields.checkLevels_sell rfl
    · rw [h25, hanchorB]
      linarith
    · rw [h25, h50]
      linarith
    · rw [h50, h66]
      linarith
    · rw [h66, hanchorA]
      linarith

theorem bearish_extended {observedAt : Instant} (hsetup : setup.1 = bearishFields signal anchorA observedAt) :
    Extended setup := by
  have hspan := onGrid_span hb ha hpos hlt
  have hpositive : 0 < signal.second.price - anchorA := sub_pos.mpr hlt
  have h66 := (bearishFields_levels ha hb hpos hlt observedAt).2.2
  have hback : rounded |rounded (rounded ((bearishFields signal anchorA observedAt).fib66 - signal.second.price) / fib66)| =
      signal.second.price - anchorA := by
    have hfib := (scaled_exact hb hspan (k := -660) (by decide)).1
    have hminus : (signal.second.price - anchorA) * ((-660 : ℤ) / 1000) = -((signal.second.price - anchorA) * fib66) := by
      rw [fib66_eq]
      push_cast
      ring
    rw [hminus] at hfib
    rw [h66, sub_sub_cancel_left, hfib, neg_div, mul_div_cancel_right₀ _ (by norm_num [fib66]), rounded_onGrid hspan.neg,
      abs_neg, abs_of_pos hpositive, rounded_onGrid hspan]
  have hprices : extensionPrices setup = (signal.second.price - (signal.second.price - anchorA) * fib127,
      signal.second.price - (signal.second.price - anchorA) * fib162) := by
    have h127 := level_below hb hspan (k := 1272) (by decide)
    have h162 := level_below hb hspan (k := 1618) (by decide)
    rw [rounded_onGrid hspan, ← fib127_eq] at h127
    rw [rounded_onGrid hspan, ← fib162_eq] at h162
    rw [extensionPrices, hsetup]
    simp only [bearishFields] at hback ⊢
    rw [hback, h127, h162]
  unfold Extended
  rw [hprices, hsetup]
  simp only [bearishFields, fib127, fib162]
  refine ⟨trivial, hlt, ?_, ?_⟩ <;> linarith

end Bearish

end Setups

/-! ### Building -/

/-- The highs and the lows share a grid of few enough digits. -/
def PricesOnGrid (e : ℤ) (bars : List CompletedOhlcvBar) : Prop :=
  ∀ bar ∈ bars, OnGrid 24 e bar.low.toRat ∧ OnGrid 24 e bar.high.toRat

/-- A setup is the drawing of a signal. -/
def Draws (setup : HlitSetup) (signal : DivergenceSignal) : Prop :=
  setup.1.divergenceKind = signal.kind ∧ setup.1.anchorB = signal.second.price ∧
    setup.1.firstPivotIndex = signal.first.index ∧ setup.1.secondPivotIndex = signal.second.index

section Building

variable {e : ℤ} {bars : List CompletedOhlcvBar} {oscillator : List ℚ} {divergence : DivergenceFacts}

theorem bar_of_mem_barsBetween {first second : ℕ} {bar : CompletedOhlcvBar} (h : bar ∈ barsBetween bars first second) :
    bar ∈ bars := by
  obtain ⟨j, -, -, hj⟩ := mem_barsBetween.mp h
  exact List.mem_of_getElem? hj

/-- There is one signal of a kind at most. -/
theorem regular_unique (h : evaluateDivergence bars oscillator none = .ok divergence) {signal other : DivergenceSignal}
    (hsignal : signal ∈ divergence.regular) (hother : other ∈ divergence.regular) (hkind : signal.kind = other.kind) :
    signal = other := by
  obtain ⟨-, pivots, -, hregular⟩ := evaluateDivergence_ok h
  obtain ⟨hsignal, hregularKind⟩ := List.mem_filter.mp (hregular ▸ hsignal)
  obtain ⟨kind, -, hsome⟩ := List.mem_filterMap.mp hsignal
  obtain ⟨kind', -, hsome'⟩ := List.mem_filterMap.mp (List.mem_filter.mp (hregular ▸ hother)).1
  have hdivergence := (signalOf_some hsome).2
  have hdivergence' := (signalOf_some hsome').2
  have hsame : kind = kind' := by
    cases hsignalKind : signal.kind with
    | regularBullish =>
      rw [hsignalKind] at hdivergence
      rw [← hkind, hsignalKind] at hdivergence'
      exact (divergenceKind_bullish hdivergence).1.trans (divergenceKind_bullish hdivergence').1.symm
    | regularBearish =>
      rw [hsignalKind] at hdivergence
      rw [← hkind, hsignalKind] at hdivergence'
      exact (divergenceKind_bearish hdivergence).1.trans (divergenceKind_bearish hdivergence').1.symm
    | hiddenBullish => simp [hsignalKind, DivergenceKind.isRegular] at hregularKind
    | hiddenBearish => simp [hsignalKind, DivergenceKind.isRegular] at hregularKind
  subst hsame
  exact Option.some.inj (hsome.symm.trans hsome')

theorem bullishSetup_built (h : evaluateDivergence bars oscillator none = .ok divergence) (hgrid : PricesOnGrid e bars)
    (observedAt : Instant) : ∃ result, bullishSetup bars observedAt divergence = .ok result ∧
      (∀ setup, result = some setup → Extended setup) ∧
      ∀ signal ∈ divergence.regular, signal.kind = .regularBullish → ∃ setup, result = some setup ∧ Draws setup signal := by
  unfold bullishSetup
  cases hfind : divergence.regular.find? fun candidate => candidate.kind = .regularBullish with
  | none =>
    refine ⟨none, rfl, by simp, fun signal hsignal hkind => ?_⟩
    exact absurd hkind (by simpa using List.find?_eq_none.mp hfind signal hsignal)
  | some signal =>
    have hsignal := List.mem_of_find?_eq_some hfind
    have hkind : signal.kind = .regularBullish := by simpa using List.find?_some hfind
    obtain ⟨firstBar, secondBar, hsignalled, hprice⟩ := bullish_signalled h hsignal hkind
    have hfirstMem := hsignalled.first_mem
    obtain ⟨first, rest, hbars⟩ := List.exists_cons_of_ne_nil (List.ne_nil_of_mem hfirstMem)
    have hhighest : highestHigh first rest ∈ (first :: rest).map (·.high.toRat) :=
      List.mem_map_of_mem (maxBy_mem (fun bar : CompletedOhlcvBar => bar.high.toRat) first rest)
    obtain ⟨top, htop, htopHigh⟩ := List.mem_map.mp hhighest
    have ha : OnGrid 24 e (highestHigh first rest) := htopHigh ▸ (hgrid top (bar_of_mem_barsBetween (hbars ▸ htop))).2
    have hb : OnGrid 24 e signal.second.price := hprice ▸ (hgrid secondBar (List.mem_of_getElem? hsignalled.second)).1
    have hlt : signal.second.price < highestHigh first rest :=
      calc signal.second.price = secondBar.low.toRat := hprice
        _ < firstBar.low.toRat := hsignalled.deeper
        _ ≤ firstBar.high.toRat := low_le_high firstBar
        _ ≤ highestHigh first rest :=
          le_maxBy (fun bar : CompletedOhlcvBar => bar.high.toRat) first rest firstBar (hbars ▸ hfirstMem)
    have hspan : ¬rounded (highestHigh first rest - signal.second.price) ≤ 0 := by
      rw [rounded_onGrid (onGrid_span ha hb signal.second.positive hlt)]
      exact not_le.mpr (sub_pos.mpr hlt)
    have hvalid := bullishFields_valid ha hb hlt hsignalled.ordered observedAt
    refine ⟨some ⟨_, hvalid⟩, ?_, fun setup hsome => ?_, fun other hother hotherKind => ?_⟩
    · dsimp only
      rw [hsignalled.segment_eq, hbars]
      dsimp only
      rw [if_neg hspan, hlitSetup_ok hvalid]
      rfl
    · cases hsome
      exact bullish_extended ha hb hlt rfl
    · rw [regular_unique h hother hsignal (hotherKind.trans hkind.symm)]
      exact ⟨_, rfl, hkind.symm, rfl, rfl, rfl⟩

theorem bearishSetup_built (h : evaluateDivergence bars oscillator none = .ok divergence) (hgrid : PricesOnGrid e bars)
    (observedAt : Instant) : ∃ result, bearishSetup bars observedAt divergence = .ok result ∧
      (∀ setup, result = some setup → Extended setup) ∧
      ∀ signal ∈ divergence.regular, signal.kind = .regularBearish → ∃ setup, result = some setup ∧ Draws setup signal := by
  unfold bearishSetup
  cases hfind : divergence.regular.find? fun candidate => candidate.kind = .regularBearish with
  | none =>
    refine ⟨none, rfl, by simp, fun signal hsignal hkind => ?_⟩
    exact absurd hkind (by simpa using List.find?_eq_none.mp hfind signal hsignal)
  | some signal =>
    have hsignal := List.mem_of_find?_eq_some hfind
    have hkind : signal.kind = .regularBearish := by simpa using List.find?_some hfind
    obtain ⟨firstBar, secondBar, hsignalled, hprice⟩ := bearish_signalled h hsignal hkind
    have hfirstMem := hsignalled.first_mem
    obtain ⟨first, rest, hbars⟩ := List.exists_cons_of_ne_nil (List.ne_nil_of_mem hfirstMem)
    have hlowest : lowestLow first rest ∈ (first :: rest).map (·.low.toRat) :=
      List.mem_map_of_mem (minBy_mem (fun bar : CompletedOhlcvBar => bar.low.toRat) first rest)
    obtain ⟨bottom, hbottom, hbottomLow⟩ := List.mem_map.mp hlowest
    have ha : OnGrid 24 e (lowestLow first rest) := hbottomLow ▸ (hgrid bottom (bar_of_mem_barsBetween (hbars ▸ hbottom))).1
    have hb : OnGrid 24 e signal.second.price := hprice ▸ (hgrid secondBar (List.mem_of_getElem? hsignalled.second)).2
    have hpos : 0 < lowestLow first rest := hbottomLow ▸ bottom.low_pos
    have hlt : lowestLow first rest < signal.second.price :=
      calc lowestLow first rest ≤ firstBar.low.toRat :=
          minBy_le (fun bar : CompletedOhlcvBar => bar.low.toRat) first rest firstBar (hbars ▸ hfirstMem)
        _ ≤ firstBar.high.toRat := low_le_high firstBar
        _ < secondBar.high.toRat := neg_lt_neg_iff.mp hsignalled.deeper
        _ = signal.second.price := hprice.symm
    have hspan : ¬rounded (signal.second.price - lowestLow first rest) ≤ 0 := by
      rw [rounded_onGrid (onGrid_span hb ha hpos hlt)]
      exact not_le.mpr (sub_pos.mpr hlt)
    have hvalid := bearishFields_valid ha hb hpos hlt hsignalled.ordered observedAt
    refine ⟨some ⟨_, hvalid⟩, ?_, fun setup hsome => ?_, fun other hother hotherKind => ?_⟩
    · dsimp only
      rw [hsignalled.segment_eq, hbars]
      dsimp only
      rw [if_neg hspan, hlitSetup_ok hvalid]
      rfl
    · cases hsome
      exact bearish_extended ha hb hpos hlt rfl
    · rw [regular_unique h hother hsignal (hotherKind.trans hkind.symm)]
      exact ⟨_, rfl, hkind.symm, rfl, rfl, rfl⟩

theorem setups_anchored (h : evaluateDivergence bars oscillator none = .ok divergence) {facts : HlitFacts}
    (hfacts : buildHlitSetups bars divergence = .ok facts) {side : Side} {setup : HlitSetup}
    (hsetup : facts.forSide side = some setup) : setup.1.direction = side ∧ Anchored bars setup := by
  rcases buildHlitSetups_ok hfacts with ⟨hbullish, hbearish⟩ | ⟨observedAt, hbullish, hbearish⟩
  · cases side with
    | buy => exact absurd (hbullish.symm.trans hsetup) (by simp)
    | sell => exact absurd (hbearish.symm.trans hsetup) (by simp)
  · cases side with
    | buy =>
      rw [show facts.bullish = some setup from hsetup] at hbullish
      exact bullish_anchored h hbullish
    | sell =>
      rw [show facts.bearish = some setup from hsetup] at hbearish
      exact bearish_anchored h hbearish

theorem setups_built (h : evaluateDivergence bars oscillator none = .ok divergence) (hgrid : PricesOnGrid e bars) :
    ∃ facts, buildHlitSetups bars divergence = .ok facts ∧
      (∀ signal ∈ divergence.regular, ∃ side setup, facts.forSide side = some setup ∧ Draws setup signal) ∧
      ∀ side setup, facts.forSide side = some setup → Extended setup := by
  obtain ⟨horder, pivots, hpivots, hregular⟩ := evaluateDivergence_ok h
  unfold buildHlitSetups
  rw [if_neg (not_not.mpr horder)]
  cases hlast : bars.getLast? with
  | none =>
    refine ⟨_, rfl, fun signal hsignal => ?_, fun side setup hsetup => ?_⟩
    · -- a signal has bars
      rw [List.getLast?_eq_none_iff.mp hlast] at hpivots
      cases hpivots
      rw [hregular] at hsignal
      cases hsignal
    · cases side <;> cases hsetup
  | some last =>
    obtain ⟨bullish, hbullish, hbullishExtended, hbullishDrawn⟩ := bullishSetup_built h hgrid last.timestamp
    obtain ⟨bearish, hbearish, hbearishExtended, hbearishDrawn⟩ := bearishSetup_built h hgrid last.timestamp
    refine ⟨⟨some last.timestamp, bullish, bearish⟩, ?_, fun signal hsignal => ?_, fun side setup hsetup => ?_⟩
    · dsimp only
      rw [hbullish, hbearish]
      rfl
    · have hregularKind := (List.mem_filter.mp (hregular ▸ hsignal)).2
      cases hkind : signal.kind with
      | regularBullish => exact ⟨.buy, hbullishDrawn signal hsignal hkind⟩
      | regularBearish => exact ⟨.sell, hbearishDrawn signal hsignal hkind⟩
      | hiddenBullish => simp [hkind, DivergenceKind.isRegular] at hregularKind
      | hiddenBearish => simp [hkind, DivergenceKind.isRegular] at hregularKind
    · cases side with
      | buy => exact hbullishExtended setup hsetup
      | sell => exact hbearishExtended setup hsetup

end Building

/-- The setups of the regular divergences of a series are anchored at the extremes of their segments. Prices of a
grid of few enough digits leave none of them out and put their extensions where the span says. -/
theorem hlit_anchoring {bars : List CompletedOhlcvBar} {oscillator : List ℚ} {divergence : DivergenceFacts}
    (h : evaluateDivergence bars oscillator none = .ok divergence) :
    (∀ facts, buildHlitSetups bars divergence = .ok facts → ∀ side setup, facts.forSide side = some setup →
      setup.1.direction = side ∧ Anchored bars setup) ∧
    ∀ e, PricesOnGrid e bars → ∃ facts, buildHlitSetups bars divergence = .ok facts ∧
      (∀ signal ∈ divergence.regular, ∃ side setup, facts.forSide side = some setup ∧ Draws setup signal) ∧
      ∀ side setup, facts.forSide side = some setup → Extended setup :=
  ⟨fun _ hfacts _ _ => setups_anchored h hfacts, fun _ => setups_built h⟩

/-! ### Sample bars -/

/-- A bar that trades at one price. -/
def levelBar (start : Instant) (price : Decimal) (h : 0 < price.toRat) : CompletedOhlcvBar where
  timestamp := start
  open_ := price
  high := price
  low := price
  close := price
  volume := price
  low_pos := h
  low_le_open := le_rfl
  open_le_high := le_rfl
  low_le_close := le_rfl
  close_le_high := le_rfl
  volume_nonneg := h.le

theorem above_pos (base : ℕ) (steps : ℕ) : 0 < (Decimal.ofNat (base + steps + 1)).toRat := by
  have hvalue : (Decimal.ofNat (base + steps + 1)).toRat = (base + steps + 1 : ℕ) := by
    simp [Decimal.ofNat, Decimal.toRat]
  rw [hvalue]
  exact_mod_cast Nat.succ_pos (base + steps)

/-- Three bars two steps above the base, then one a step above, then the base. -/
def fallingBars (base : ℕ) : List CompletedOhlcvBar :=
  [levelBar 0 (.ofNat (base + 2 + 1)) (above_pos base 2), levelBar 1 (.ofNat (base + 2 + 1)) (above_pos base 2),
    levelBar 2 (.ofNat (base + 2 + 1)) (above_pos base 2), levelBar 3 (.ofNat (base + 1 + 1)) (above_pos base 1),
    levelBar 4 (.ofNat (base + 0 + 1)) (above_pos base 0)]

/-- The oscillator rises at the last bar. -/
def risingOscillator : List ℚ := [0, 0, 0, 0, 1]

/-- Anchors one unit of the last digit apart leave no room for a level between them. -/
theorem hlit_levels_collide : ∃ divergence error,
    evaluateDivergence (fallingBars (10 ^ 27)) risingOscillator none = .ok divergence ∧
      buildHlitSetups (fallingBars (10 ^ 27)) divergence = .error error := by
  have hfound : (evaluateDivergence (fallingBars (10 ^ 27)) risingOscillator none).toOption.map (·.regular.length) =
      some 1 := by decide +kernel
  have hraised : (evaluateDivergence (fallingBars (10 ^ 27)) risingOscillator none >>=
      buildHlitSetups (fallingBars (10 ^ 27))).toOption.isNone := by decide +kernel
  obtain ⟨divergence, hdivergence, -⟩ := exists_of_toOption hfound
  rw [hdivergence, ok_bind] at hraised
  cases hbuilt : buildHlitSetups (fallingBars (10 ^ 27)) divergence with
  | error error => exact ⟨divergence, error, hdivergence, hbuilt⟩
  | ok facts =>
    rw [hbuilt] at hraised
    cases hraised

theorem hlit_anchoring_falling : ∃ divergence facts setup,
    evaluateDivergence (fallingBars 9) risingOscillator none = .ok divergence ∧
      buildHlitSetups (fallingBars 9) divergence = .ok facts ∧ (facts.bullish = some setup ∨ facts.bearish = some setup) ∧
        Anchored (fallingBars 9) setup ∧ Extended setup := by
  have hfound : (evaluateDivergence (fallingBars 9) risingOscillator none).toOption.map (·.regular.length) = some 1 := by
    decide +kernel
  obtain ⟨divergence, hdivergence, hlength⟩ := exists_of_toOption hfound
  obtain ⟨hanchored, hbuilt⟩ := hlit_anchoring hdivergence
  have hprice (n : ℕ) (hn : n < 10 ^ 24) : OnGrid 24 0 (Decimal.ofNat n).toRat :=
    ⟨n, by simp [Decimal.ofNat, Decimal.toRat], by rw [Nat.abs_cast]; exact_mod_cast hn⟩
  have hgrid : PricesOnGrid 0 (fallingBars 9) := by
    simp only [PricesOnGrid, fallingBars, levelBar, List.forall_mem_cons]
    refine ⟨?_, ?_, ?_, ?_, ?_, by simp⟩ <;> exact ⟨hprice _ (by norm_num), hprice _ (by norm_num)⟩
  obtain ⟨facts, hfacts, hdrawn, hextended⟩ := hbuilt 0 hgrid
  obtain ⟨signal, hsignal⟩ := List.exists_mem_of_length_pos (hlength ▸ Nat.one_pos : 0 < divergence.regular.length)
  obtain ⟨side, setup, hsetup, -⟩ := hdrawn signal hsignal
  refine ⟨divergence, facts, setup, hdivergence, hfacts, ?_, (hanchored facts hfacts side setup hsetup).2,
    hextended side setup hsetup⟩
  cases side with
  | buy => exact .inl hsetup
  | sell => exact .inr hsetup

end AutoTrader.Strategy
