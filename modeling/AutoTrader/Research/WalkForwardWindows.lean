import AutoTrader.Research.WalkForward

/-! The windows of a walk-forward run. The result of a window is made of the decisions generated in it and of the bars up
to its end, whatever order and copies they come in. -/

namespace AutoTrader.Research

open AutoTrader.Domain AutoTrader.Execution AutoTrader.Numeric AutoTrader.Runtime AutoTrader.Strategy AutoTrader.Trader

/-! ### Equal records -/

theorem barsEqual_equivalence : Equivalence BarsEqual where
  refl _ := ⟨rfl, rfl, rfl, rfl, rfl, rfl⟩
  symm h := ⟨h.timestamp.symm, h.open_.symm, h.high.symm, h.low.symm, h.close.symm, h.volume.symm⟩
  trans h h' :=
    ⟨h.timestamp.trans h'.timestamp, h.open_.trans h'.open_, h.high.trans h'.high, h.low.trans h'.low,
      h.close.trans h'.close, h.volume.trans h'.volume⟩

theorem decisionsEqual_equivalence : Equivalence DecisionsEqual where
  refl _ := by constructor <;> rfl
  symm h := by
    obtain ⟨h₁, h₂, h₃, h₄, h₅, h₆, h₇, h₈, h₉, h₁₀, h₁₁, h₁₂, h₁₃, h₁₄, h₁₅, h₁₆, h₁₇, h₁₈, h₁₉, h₂₀, h₂₁, h₂₂, h₂₃⟩ := h
    constructor <;> apply Eq.symm <;> assumption
  trans h h' := by
    obtain ⟨h₁, h₂, h₃, h₄, h₅, h₆, h₇, h₈, h₉, h₁₀, h₁₁, h₁₂, h₁₃, h₁₄, h₁₅, h₁₆, h₁₇, h₁₈, h₁₉, h₂₀, h₂₁, h₂₂, h₂₃⟩ := h
    constructor <;> simp only [*, h'.id, h'.strategyVersionId, h'.setupId, h'.featureSnapshotId, h'.instrumentId,
      h'.market, h'.family, h'.grade, h'.side, h'.orderStyle, h'.matchedIndicators, h'.blockers, h'.plannedEntry,
      h'.structuralStop, h'.targetPrice, h'.riskFraction, h'.calculatedQuantity, h'.expectedCost,
      h'.sourceEvidenceHashes, h'.exhaustionTimeframe, h'.completedEvidenceAt, h'.generatedAt, h'.validUntil]

theorem bars_ranks : Ranks CompletedOhlcvBar.timestamp BarsEqual CompletedOhlcvBar.timestamp :=
  ⟨fun _ _ h => h.timestamp, fun _ _ h => h⟩

theorem uuid_ext {a b : UUID} (h : a.int = b.int) : a = b := by
  cases a
  cases b
  cases h
  rfl

theorem decisions_ranks : Ranks (fun decision : ValidDecision => decision.id) DecisionsEqual decisionOrder where
  alike a b h := by rw [decisionOrder, decisionOrder, h.generatedAt, h.id]
  key a b h := uuid_ext (Prod.mk.inj (toLex.injective h)).2

theorem canonicalDecimal_congr {a b : Decimal} (h : a.toRat = b.toRat) : canonicalDecimal a = canonicalDecimal b := by
  rw [canonicalDecimal, canonicalDecimal, Decimal.plainText_eq_iff.mpr (congrArg (roundSig 28) h)]

theorem optionalDecimal_congr {a b : Option Decimal} (h : a.map Decimal.toRat = b.map Decimal.toRat) :
    PyJson.optional canonicalDecimal a = PyJson.optional canonicalDecimal b := by
  cases a with
  | none =>
    cases b with
    | none => rfl
    | some b => cases h
  | some a =>
    cases b with
    | none => cases h
    | some b => exact canonicalDecimal_congr (Option.some.inj h)

theorem canonicalBar_congr {a b : CompletedOhlcvBar} (h : BarsEqual a b) : canonicalBar a = canonicalBar b := by
  rw [canonicalBar, canonicalBar, h.timestamp, canonicalDecimal_congr h.open_, canonicalDecimal_congr h.high,
    canonicalDecimal_congr h.low, canonicalDecimal_congr h.close, canonicalDecimal_congr h.volume]

theorem optionalNumber_congr {a b : Option Decimal} (h : a.map Decimal.toRat = b.map Decimal.toRat) :
    a.map number = b.map number := by
  have hnumber : number = roundSig 28 ∘ Decimal.toRat := rfl
  rw [hnumber, ← Option.map_map, ← Option.map_map, h]

theorem DecisionsEqual.sameFields {a b : ValidDecision} (h : DecisionsEqual a b) :
    a.SameFields b.toV6DecisionRecord where
  id := h.id
  strategyVersionId := h.strategyVersionId
  setupId := h.setupId
  featureSnapshotId := h.featureSnapshotId
  instrumentId := h.instrumentId
  market := h.market
  family := h.family
  grade := h.grade
  side := h.side
  orderStyle := h.orderStyle
  matchedIndicators := h.matchedIndicators
  blockers := h.blockers
  plannedEntry := optionalNumber_congr h.plannedEntry
  structuralStop := optionalNumber_congr h.structuralStop
  targetPrice := optionalNumber_congr h.targetPrice
  riskFraction := congrArg (roundSig 28) h.riskFraction
  calculatedQuantity := congrArg (roundSig 28) h.calculatedQuantity
  expectedCost := optionalNumber_congr h.expectedCost
  sourceEvidenceHashes := h.sourceEvidenceHashes
  exhaustionTimeframe := h.exhaustionTimeframe
  completedEvidenceAt := h.completedEvidenceAt
  generatedAt := h.generatedAt
  validUntil := h.validUntil

theorem decisionHash_congr {a b : ValidDecision} (h : DecisionsEqual a b) (sha256 : String → Digest) :
    a.decisionHash sha256 = b.decisionHash sha256 := by
  rw [V6DecisionRecord.decisionHash, V6DecisionRecord.decisionHash, V6DecisionRecord.canonicalText_congr h.sameFields]

/-- `a == b` of the results of windows. -/
structure WalkForwardResult.Same (a b : WalkForwardResult) : Prop where
  window : a.window = b.window
  state : a.state = b.state
  sampleCount : a.sampleCount = b.sampleCount
  grossPnl : a.grossPnl.map Decimal.toRat = b.grossPnl.map Decimal.toRat
  totalCost : a.totalCost.map Decimal.toRat = b.totalCost.map Decimal.toRat
  netPnl : a.netPnl.map Decimal.toRat = b.netPnl.map Decimal.toRat
  unsupportedReasonCodes : a.unsupportedReasonCodes = b.unsupportedReasonCodes
  sourceDigest : a.sourceDigest = b.sourceDigest

theorem WalkForwardResult.Same.refl (a : WalkForwardResult) : a.Same a := ⟨rfl, rfl, rfl, rfl, rfl, rfl, rfl, rfl⟩

theorem canonicalResult_congr {a b : WalkForwardResult} (h : a.Same b) : canonicalResult a = canonicalResult b := by
  rw [canonicalResult, canonicalResult, h.window, h.state, h.sampleCount, optionalDecimal_congr h.grossPnl,
    optionalDecimal_congr h.totalCost, optionalDecimal_congr h.netPnl, h.unsupportedReasonCodes, h.sourceDigest]

/-- `a == b` of evidence. -/
structure WalkForwardPromotionEvidence.Same (a b : WalkForwardPromotionEvidence) : Prop where
  state : a.state = b.state
  windows : List.Forall₂ WalkForwardResult.Same a.windows b.windows
  sampleCount : a.sampleCount = b.sampleCount
  grossPnl : a.grossPnl.map Decimal.toRat = b.grossPnl.map Decimal.toRat
  totalCost : a.totalCost.map Decimal.toRat = b.totalCost.map Decimal.toRat
  netPnl : a.netPnl.map Decimal.toRat = b.netPnl.map Decimal.toRat
  positiveWindowFraction : a.positiveWindowFraction = b.positiveWindowFraction
  profitFactor : a.profitFactor = b.profitFactor
  unsupportedReasonCodes : a.unsupportedReasonCodes = b.unsupportedReasonCodes
  sourceDigests : a.sourceDigests = b.sourceDigests
  artifactDigest : a.artifactDigest = b.artifactDigest
  capturedAt : a.capturedAt = b.capturedAt

/-! ### The bar of a decision -/

/-- Fills of equal bars. -/
structure BacktestFill.Same (a b : BacktestFill) : Prop where
  filledAt : a.filledAt = b.filledAt
  price : a.price.toRat = b.price.toRat
  closePrice : a.closePrice.toRat = b.closePrice.toRat
  sourceDigest : a.sourceDigest = b.sourceDigest

inductive BarFill.Same : BarFill → BarFill → Prop
  | filled {a b : BacktestFill} (h : a.Same b) : BarFill.Same (.filled a) (.filled b)
  | noFill (expectedAt : Instant) : BarFill.Same (.noFill expectedAt) (.noFill expectedAt)

/-- The fill at a bar. -/
def fillAt (sha256 : String → Digest) (bar : CompletedOhlcvBar) : Except PyError BarFill := do
  let digest ← canonicalV6Hash sha256 (canonicalBar bar)
  pure (.filled
    { filledAt := bar.timestamp
      price := bar.open_
      closePrice := bar.close
      sourceDigest := digest })

variable {sha256 : String → Digest} {bars bars' arranged arranged' : List CompletedOhlcvBar}

theorem fillAt_same {a b : CompletedOhlcvBar} (h : BarsEqual a b) :
    Outcomes BarFill.Same (fillAt sha256 a) (fillAt sha256 b) := by
  unfold fillAt
  rw [canonicalBar_congr h]
  cases canonicalV6Hash sha256 (canonicalBar b) with
  | error e => exact .raises e
  | ok digest => exact .returns (.filled ⟨h.timestamp, h.open_, h.close, rfl⟩)

variable (sha256) in
/-- A decision is filled at a bar that closes one timeframe after it, and only at such a bar. -/
theorem exactNextBarFill_cases (h : canonicalBars bars = .ok arranged) {signalAt : Instant} {timeframe : ℤ}
    (hrange : IsDatetime (signalAt + timeframe)) :
    ((∀ bar ∈ bars, bar.timestamp ≠ signalAt + timeframe) ∧
        exactNextBarFill sha256 signalAt timeframe arranged = .ok (.noFill (signalAt + timeframe))) ∨
      ∃ bar ∈ bars, bar.timestamp = signalAt + timeframe ∧
        exactNextBarFill sha256 signalAt timeframe arranged = fillAt sha256 bar := by
  have heach := arrange_each barsEqual_equivalence h
  have hknown {bar : CompletedOhlcvBar} (hbar : bar ∈ arranged) : bar ∈ bars :=
    arrange_known barsEqual_equivalence h hbar
  obtain ⟨again, hagain⟩ := arrange_ok barsEqual_equivalence
    (fun a ha b hb => heach a (hknown ha) b (hknown hb)) CompletedOhlcvBar.timestamp barCollision
  unfold exactNextBarFill
  rw [canonicalBars, hagain, ok_bind, addDelta, if_pos hrange, ok_bind]
  cases hfind : again.find? fun bar => decide (bar.timestamp = signalAt + timeframe) with
  | none =>
    refine .inl ⟨fun bar hbar heq => ?_, rfl⟩
    obtain ⟨once, honce, hlike⟩ := arrange_covers barsEqual_equivalence h hbar
    obtain ⟨twice, htwice, hlike'⟩ := arrange_covers barsEqual_equivalence hagain honce
    have htime : twice.timestamp = signalAt + timeframe :=
      (hlike.timestamp.trans hlike'.timestamp).symm.trans heq
    exact absurd (decide_eq_true htime) (List.find?_eq_none.mp hfind twice htwice)
  | some bar =>
    have hmem := hknown (arrange_known barsEqual_equivalence hagain (List.mem_of_find?_eq_some hfind))
    exact .inr ⟨bar, hmem, by simpa using List.find?_some hfind, rfl⟩

/-- Bars that agree up to an instant fill a decision in the same way up to it. -/
theorem exactNextBarFill_same (h : canonicalBars bars = .ok arranged) (h' : canonicalBars bars' = .ok arranged')
    {limit : Instant} (hmem : ∀ bar, bar.timestamp ≤ limit → (bar ∈ bars ↔ bar ∈ bars')) {signalAt : Instant}
    {timeframe : ℤ} (hrange : IsDatetime (signalAt + timeframe)) (hlimit : signalAt + timeframe ≤ limit) :
    Outcomes BarFill.Same (exactNextBarFill sha256 signalAt timeframe arranged)
      (exactNextBarFill sha256 signalAt timeframe arranged') := by
  rcases exactNextBarFill_cases sha256 h hrange with ⟨hnone, hfill⟩ | ⟨bar, hbar, htime, hfill⟩
  · rcases exactNextBarFill_cases sha256 h' hrange with ⟨-, hfill'⟩ | ⟨bar', hbar', htime', -⟩
    · rw [hfill, hfill']
      exact .returns (.noFill _)
    · exact absurd htime' (hnone bar' ((hmem bar' (htime' ▸ hlimit)).mpr hbar'))
  · rcases exactNextBarFill_cases sha256 h' hrange with ⟨hnone', -⟩ | ⟨bar', hbar', htime', hfill'⟩
    · exact absurd htime (hnone' bar ((hmem bar (htime ▸ hlimit)).mp hbar))
    · rw [hfill, hfill']
      refine fillAt_same ?_
      exact arrange_each barsEqual_equivalence h' bar ((hmem bar (htime ▸ hlimit)).mp hbar) bar' hbar'
        (htime.trans htime'.symm)

/-! ### The decisions of a window -/

variable {cost : CostModel} {window : WalkForwardWindow}

/-- The window counts the decision. -/
structure Counted (cost : CostModel) (window : WalkForwardWindow) (decision : ValidDecision) : Prop where
  grade : decision.grade ≠ .reject
  inTest : InTest window decision
  inTime : decision.generatedAt.instant + cost.timeframe ≤ window.testEndedAt.instant

instance (cost : CostModel) (window : WalkForwardWindow) (decision : ValidDecision) :
    Decidable (Counted cost window decision) :=
  decidable_of_iff (decision.grade ≠ .reject ∧ InTest window decision ∧
      decision.generatedAt.instant + cost.timeframe ≤ window.testEndedAt.instant)
    ⟨fun h => ⟨h.1, h.2.1, h.2.2⟩, fun h => ⟨h.grade, h.inTest, h.inTime⟩⟩

theorem InTest.congr {a b : ValidDecision} (h : DecisionsEqual a b) : InTest window a ↔ InTest window b := by
  unfold InTest
  rw [h.generatedAt]

theorem Counted.congr {a b : ValidDecision} (h : DecisionsEqual a b) (ha : Counted cost window a) :
    Counted cost window b :=
  ⟨h.grade ▸ ha.grade, (InTest.congr h).mp ha.inTest, h.generatedAt ▸ ha.inTime⟩

theorem selects_congr {a b : ValidDecision} (h : DecisionsEqual a b) : selects cost window a = selects cost window b := by
  unfold selects
  simp only [h.grade, InTest.congr h, h.generatedAt]

/-- A decision is selected when the window counts it, and its next bar closes at an instant there is. -/
theorem selects_ok {decision : ValidDecision} {selected : Bool} (h : selects cost window decision = .ok selected) :
    (selected = true ↔ Counted cost window decision) ∧
      (selected = true → IsDatetime (decision.generatedAt.instant + cost.timeframe)) := by
  unfold selects at h
  split at h
  · rename_i hinside
    unfold addDelta at h
    split at h
    · rename_i hrange
      cases h
      rw [decide_eq_true_eq]
      exact ⟨⟨fun htime => ⟨hinside.1, hinside.2, htime⟩, Counted.inTime⟩, fun _ => hrange⟩
    · cases h
  · rename_i hinside
    cases h
    exact ⟨iff_of_false Bool.false_ne_true fun hcounted => hinside ⟨hcounted.grade, hcounted.inTest⟩,
      fun hselected => absurd hselected Bool.false_ne_true⟩

/-- Decisions from outside the test window are passed over. -/
theorem selectDecisions_filter (decisions : List ValidDecision) :
    selectDecisions cost window decisions =
      selectDecisions cost window (decisions.filter fun decision => decide (InTest window decision)) := by
  induction decisions with
  | nil => rfl
  | cons decision decisions ih =>
    rw [List.filter_cons, selectDecisions]
    by_cases hinside : InTest window decision
    · rw [if_pos (decide_eq_true hinside), selectDecisions, ih]
    · have hpassed : selects cost window decision = .ok false := by
        unfold selects
        rw [if_neg fun h => hinside h.2]
      rw [if_neg (by simpa using hinside), hpassed, ok_bind, ih]
      cases selectDecisions cost window (decisions.filter fun decision => decide (InTest window decision)) <;> rfl

/-- A decision that was selected, with its twin. -/
structure SelectedTwins (cost : CostModel) (window : WalkForwardWindow) (a b : ValidDecision) : Prop where
  equal : DecisionsEqual a b
  counted : Counted cost window a
  range : IsDatetime (a.generatedAt.instant + cost.timeframe)

theorem selectDecisions_twins {decisions decisions' : List ValidDecision}
    (h : List.Forall₂ DecisionsEqual decisions decisions') :
    Outcomes (List.Forall₂ (SelectedTwins cost window)) (selectDecisions cost window decisions)
      (selectDecisions cost window decisions') := by
  induction h with
  | nil => exact .returns .nil
  | cons hequal _ ih =>
    rename_i decision decision' _ _ _
    rw [selectDecisions, selectDecisions, ← selects_congr hequal]
    cases hselect : selects cost window decision with
    | error e => exact .raises e
    | ok selected =>
      obtain ⟨hcounted, hrange⟩ := selects_ok hselect
      refine ih.bind fun rest rest' hrest => ?_
      cases selected with
      | false => exact .returns hrest
      | true => exact .returns (.cons ⟨hequal, hcounted.mp rfl, hrange rfl⟩ hrest)

/-- What a window selects are the decisions it counts. -/
theorem selectDecisions_ok {decisions selected : List ValidDecision}
    (h : selectDecisions cost window decisions = .ok selected) :
    (∀ decision, decision ∈ selected ↔ decision ∈ decisions ∧ Counted cost window decision) ∧
      selected.Sublist decisions ∧
      ∀ decision ∈ selected, IsDatetime (decision.generatedAt.instant + cost.timeframe) := by
  induction decisions generalizing selected with
  | nil =>
    cases h
    exact ⟨fun decision => iff_of_false List.not_mem_nil fun h => List.not_mem_nil h.1, .slnil,
      fun _ h => absurd h List.not_mem_nil⟩
  | cons first decisions ih =>
    obtain ⟨chosen, hchosen, h⟩ := bind_ok.mp h
    obtain ⟨rest, hrest, h⟩ := bind_ok.mp h
    obtain ⟨hmem, hsublist, hranges⟩ := ih hrest
    obtain ⟨hcounted, hrange⟩ := selects_ok hchosen
    cases chosen with
    | false =>
      cases h
      refine ⟨fun decision => ?_, hsublist.cons _, hranges⟩
      rw [if_neg Bool.false_ne_true, List.mem_cons, hmem]
      exact ⟨fun h => ⟨.inr h.1, h.2⟩, fun ⟨hin, hcount⟩ => ⟨hin.resolve_left fun heq =>
        Bool.false_ne_true (hcounted.mpr (heq ▸ hcount)), hcount⟩⟩
    | true =>
      cases h
      refine ⟨fun decision => ?_, hsublist.cons_cons _, fun decision hdecision => ?_⟩
      · rw [if_pos rfl, List.mem_cons, List.mem_cons, hmem]
        constructor
        · rintro (rfl | ⟨hin, hcount⟩)
          · exact ⟨.inl rfl, hcounted.mp rfl⟩
          · exact ⟨.inr hin, hcount⟩
        · rintro ⟨heq | hin, hcount⟩
          · exact .inl heq
          · exact .inr ⟨hin, hcount⟩
      · rw [if_pos rfl] at hdecision
        rcases List.mem_cons.mp hdecision with rfl | hin
        · exact hrange rfl
        · exact hranges decision hin

/-! ### The result of a window -/

theorem foldl_add_congr {xs ys : List Decimal} (h : List.Forall₂ (fun x y => x.toRat = y.toRat) xs ys) {a b : Decimal}
    (hstart : a.toRat = b.toRat) : (xs.foldl Decimal.add a).toRat = (ys.foldl Decimal.add b).toRat := by
  induction h generalizing a b with
  | nil => exact hstart
  | cons hxy _ ih => exact ih (by rw [Decimal.toRat_add, Decimal.toRat_add, hstart, hxy])

theorem decimalSum_congr {xs ys : List Decimal} (h : List.Forall₂ (fun x y => x.toRat = y.toRat) xs ys) :
    (decimalSum xs).toRat = (decimalSum ys).toRat := foldl_add_congr h rfl

/-- Equal decisions with fills of equal bars. -/
def PairsSame (p q : ValidDecision × BacktestFill) : Prop := DecisionsEqual p.1 q.1 ∧ p.2.Same q.2

theorem grossPnl_congr {p q : ValidDecision × BacktestFill} (h : PairsSame p q) :
    (grossPnl p.1 p.2).toRat = (grossPnl q.1 q.2).toRat := by
  unfold grossPnl
  simp only [Decimal.toRat_mul, Decimal.toRat_sub, h.1.side, h.1.calculatedQuantity, h.2.price, h.2.closePrice]

theorem map_congr_forall₂ {α β γ : Type} {R : α → β → Prop} {f : α → γ} {g : β → γ} {xs : List α} {ys : List β}
    (h : List.Forall₂ R xs ys) (hstep : ∀ x y, R x y → f x = g y) : xs.map f = ys.map g := by
  induction h with
  | nil => rfl
  | cons hxy _ ih => rw [List.map_cons, List.map_cons, hstep _ _ hxy, ih]

theorem mapM_congr_forall₂ {ε α β γ : Type} {R : α → β → Prop} {f : α → Except ε γ} {g : β → Except ε γ} {xs : List α}
    {ys : List β} (h : List.Forall₂ R xs ys) (hstep : ∀ x y, R x y → f x = g y) : xs.mapM f = ys.mapM g := by
  induction h with
  | nil => rfl
  | cons hxy _ ih => rw [List.mapM_cons, List.mapM_cons, hstep _ _ hxy, ih]

theorem unsupportedResult_same (window : WalkForwardWindow) (state : EvidenceState) (reason : String) :
    Outcomes WalkForwardResult.Same (unsupportedResult sha256 window state reason)
      (unsupportedResult sha256 window state reason) := .refl WalkForwardResult.Same.refl _

theorem filledResult_same {typed typed' : List (ValidDecision × BacktestFill)} (h : List.Forall₂ PairsSame typed typed')
    (costPerUnit : Decimal) :
    Outcomes WalkForwardResult.Same (filledResult sha256 window cost costPerUnit typed)
      (filledResult sha256 window cost costPerUnit typed') := by
  have hgross : (decimalSum (typed.map fun pair => grossPnl pair.1 pair.2)).toRat =
      (decimalSum (typed'.map fun pair => grossPnl pair.1 pair.2)).toRat := by
    refine decimalSum_congr (List.forall₂_map_left_iff.mpr (List.forall₂_map_right_iff.mpr ?_))
    exact h.imp fun p q => grossPnl_congr
  have hcosts : (decimalSum (typed.map fun pair => costPerUnit.mul pair.1.calculatedQuantity)).toRat =
      (decimalSum (typed'.map fun pair => costPerUnit.mul pair.1.calculatedQuantity)).toRat := by
    refine decimalSum_congr (List.forall₂_map_left_iff.mpr (List.forall₂_map_right_iff.mpr ?_))
    exact h.imp fun p q hpq => by rw [Decimal.toRat_mul, Decimal.toRat_mul, hpq.1.calculatedQuantity]
  have hhashes : (typed.mapM fun pair => pair.1.decisionHash sha256) =
      typed'.mapM fun pair => pair.1.decisionHash sha256 :=
    mapM_congr_forall₂ h fun p q hpq => decisionHash_congr hpq.1 sha256
  have hdigests : (typed.map fun pair => pair.2.sourceDigest) = typed'.map fun pair => pair.2.sourceDigest :=
    map_congr_forall₂ h fun p q hpq => hpq.2.sourceDigest
  unfold filledResult
  dsimp only
  rw [hhashes, hdigests, canonicalDecimal_congr hgross, canonicalDecimal_congr hcosts]
  cases typed'.mapM fun pair => pair.1.decisionHash sha256 with
  | error e => exact .raises e
  | ok hashes =>
    rw [ok_bind, ok_bind]
    generalize canonicalV6Hash sha256 _ = hashed
    cases hashed with
    | error e => exact .raises e
    | ok digest =>
      refine .returns ⟨rfl, rfl, h.length_eq, congrArg some hgross, congrArg some hcosts, ?_, rfl, rfl⟩
      rw [Option.map_some, Option.map_some, Decimal.toRat_sub, Decimal.toRat_sub, hgross, hcosts]

theorem typedFills_same {fills fills' : List (ValidDecision × BarFill)}
    (h : List.Forall₂ (fun p q => DecisionsEqual p.1 q.1 ∧ BarFill.Same p.2 q.2) fills fills') :
    (typedFills fills = none ∧ typedFills fills' = none) ∨
      ∃ typed typed', typedFills fills = some typed ∧ typedFills fills' = some typed' ∧
        List.Forall₂ PairsSame typed typed' := by
  induction h with
  | nil => exact .inr ⟨[], [], rfl, rfl, .nil⟩
  | cons hpq _ ih =>
    rename_i p q fills fills' _
    obtain ⟨decision, fill⟩ := p
    obtain ⟨decision', fill'⟩ := q
    unfold typedFills at ih ⊢
    rw [List.mapM_cons, List.mapM_cons]
    obtain ⟨hdecisions, hfills⟩ := hpq
    cases hfills with
    | noFill t => exact .inl ⟨rfl, rfl⟩
    | filled hfill =>
      rename_i a b
      rcases ih with ⟨hnone, hnone'⟩ | ⟨typed, typed', htyped, htyped', hsame⟩
      · exact .inl ⟨by rw [hnone]; rfl, by rw [hnone']; rfl⟩
      · exact .inr ⟨(decision, a) :: typed, (decision', b) :: typed', by rw [htyped]; rfl, by rw [htyped']; rfl,
          .cons ⟨hdecisions, hfill⟩ hsame⟩

/-- A window sees the decisions generated in it, and the bars up to its end. -/
theorem runWindow_same {decisions decisions' : List ValidDecision}
    (hdecisions : List.Forall₂ DecisionsEqual (decisions.filter fun decision => decide (InTest window decision))
      (decisions'.filter fun decision => decide (InTest window decision)))
    (h : canonicalBars bars = .ok arranged) (h' : canonicalBars bars' = .ok arranged')
    (hmem : ∀ bar, bar.timestamp ≤ window.testEndedAt.instant → (bar ∈ bars ↔ bar ∈ bars')) (costPerUnit : Decimal) :
    Outcomes WalkForwardResult.Same (runWindow sha256 decisions arranged cost costPerUnit window)
      (runWindow sha256 decisions' arranged' cost costPerUnit window) := by
  unfold runWindow
  rw [selectDecisions_filter decisions, selectDecisions_filter decisions']
  refine (selectDecisions_twins hdecisions).bind fun selected selected' hselected => ?_
  have hempty : selected.isEmpty = selected'.isEmpty := by
    cases hselected <;> rfl
  rw [hempty]
  cases selected'.isEmpty with
  | true =>
    rw [if_pos rfl, if_pos rfl]
    exact unsupportedResult_same window .notApplicable "NO_TEST_DECISIONS"
  | false =>
    rw [if_neg Bool.false_ne_true, if_neg Bool.false_ne_true]
    have hfills : Outcomes (List.Forall₂ fun p q => DecisionsEqual p.1 q.1 ∧ BarFill.Same p.2 q.2)
        (selected.mapM (fillDecision sha256 cost arranged)) (selected'.mapM (fillDecision sha256 cost arranged')) := by
      refine Outcomes.mapM hselected fun decision decision' htwins => ?_
      unfold fillDecision
      rw [← htwins.equal.generatedAt]
      refine (exactNextBarFill_same h h' hmem htwins.range htwins.counted.inTime).bind fun fill fill' hfill => ?_
      exact .returns ⟨htwins.equal, hfill⟩
    refine hfills.bind fun fills fills' hsame => ?_
    rcases typedFills_same hsame with ⟨hnone, hnone'⟩ | ⟨typed, typed', htyped, htyped', hpairs⟩
    · rw [hnone, hnone']
      exact unsupportedResult_same window .unknown "MISSING_EXACT_NEXT_BAR"
    · rw [htyped, htyped']
      exact filledResult_same hpairs costPerUnit

/-! ### The windows -/

/-- What a window starts its tests at. -/
def testStart (window : WalkForwardWindow) : Instant := window.testStartedAt.instant

/-- One window ends its tests before the other starts its own. -/
def Before (a b : WalkForwardWindow) : Prop := a.testEndedAt.instant ≤ b.testStartedAt.instant

theorem before_pairwise {windows : List WalkForwardWindow} (h : anyOverlap windows = false) : windows.Pairwise Before := by
  have htrans : IsTrans WalkForwardWindow Before :=
    ⟨fun a b c hab hbc => hab.trans (b.test_positive.le.trans hbc)⟩
  refine List.isChain_iff_pairwise.mp ?_
  induction windows with
  | nil => exact .nil
  | cons first windows ih =>
    cases windows with
    | nil => exact .singleton first
    | cons second windows =>
      rw [anyOverlap, Bool.or_eq_false_iff, decide_eq_false_iff_not, not_lt] at h
      exact .cons_cons h.1 (ih h.2)

theorem canonicalWindows_ok {windows canonical : List WalkForwardWindow} (h : canonicalWindows windows = .ok canonical) :
    canonical = inOrder testStart windows ∧ canonical.Pairwise Before := by
  unfold canonicalWindows at h
  dsimp only at h
  split at h
  · cases h
  · rename_i hfree
    cases h
    exact ⟨rfl, before_pairwise (by simpa using hfree)⟩

theorem Before.starts {a b : WalkForwardWindow} (h : Before a b) : testStart a < testStart b :=
  a.test_positive.trans_le h

/-- Windows in another order are the same windows in order. -/
theorem canonicalWindows_perm {windows windows' canonical : List WalkForwardWindow}
    (h : canonicalWindows windows = .ok canonical) (hperm : windows'.Perm windows) :
    canonicalWindows windows' = .ok canonical := by
  obtain ⟨hcanonical, hbefore⟩ := canonicalWindows_ok h
  have hstarts : (canonical.map testStart).Nodup :=
    (List.pairwise_map.mpr (hbefore.imp Before.starts)).imp ne_of_lt
  have hsame : inOrder testStart windows' = inOrder testStart windows := by
    refine List.Perm.eq_of_pairwise (fun a b ha hb hab hba => ?_) inOrder_sorted inOrder_sorted ?_
    · rw [← hcanonical] at hb
      have ha' : a ∈ canonical := by
        rw [hcanonical, mem_inOrder]
        exact hperm.mem_iff.mp (mem_inOrder.mp ha)
      exact List.inj_on_of_nodup_map hstarts ha' hb (le_antisymm hab hba)
    · exact (List.perm_insertionSort _ _).trans (hperm.trans (List.perm_insertionSort _ _).symm)
  unfold canonicalWindows at h ⊢
  show (if anyOverlap (inOrder testStart windows') = true then _ else Except.ok (inOrder testStart windows')) = _
  rw [hsame]
  exact h

/-- Windows one after the other count no decision twice. -/
theorem Before.counted_once {a b : WalkForwardWindow} (h : Before a b) {decision : ValidDecision}
    (ha : Counted cost a decision) (hb : Counted cost b decision) : False :=
  absurd (ha.inTest.2.trans_le h) (not_lt.mpr hb.inTest.1)

/-! ### The evidence -/

/-- The result of a window of a run. -/
def windowOutcome (sha256 : String → Digest) (cost : CostModel) (decisions : List ValidDecision)
    (bars : List CompletedOhlcvBar) (window : WalkForwardWindow) : Except PyError WalkForwardResult :=
  match cost.roundTripCostPerUnit with
  | none => unsupportedResult sha256 window .notApplicable "UNSUPPORTED_COST_MODEL"
  | some costPerUnit =>
    if bars.isEmpty then unsupportedResult sha256 window .notApplicable "UNSUPPORTED_BAR_DATA"
    else runWindow sha256 decisions bars cost costPerUnit window

/-- The evidence of the results of a run. -/
def finishRun (sha256 : String → Digest) (cost : CostModel) (noBars : Bool) (results : List WalkForwardResult)
    (digests : List Digest) (capturedAt : UtcDatetime) : Except PyError WalkForwardPromotionEvidence :=
  if results.isEmpty then
    unsupportedEvidence sha256 .notApplicable [] ["NO_WALK_FORWARD_WINDOWS"] digests capturedAt
  else
    match cost.roundTripCostPerUnit with
    | none => unsupportedEvidence sha256 .notApplicable results ["UNSUPPORTED_COST_MODEL"] digests capturedAt
    | some _ =>
      if noBars then unsupportedEvidence sha256 .notApplicable results ["UNSUPPORTED_BAR_DATA"] digests capturedAt
      else evidenceOf sha256 results digests capturedAt

/-- The instant the evidence is of. -/
def capturedAtOf (windows : List WalkForwardWindow) : UtcDatetime :=
  (windows.getLast?.map (·.testEndedAt)).getD datetimeMin

theorem mapM_isEmpty {ε α β : Type} {f : α → Except ε β} {xs : List α} {ys : List β} (h : xs.mapM f = .ok ys) :
    ys.isEmpty = xs.isEmpty := by
  cases forall₂_of_mapM_ok h <;> rfl

/-- A run is its windows, one by one, and what is made of their results. -/
theorem runWalkForward_eq (decisions : List ValidDecision) (bars : List CompletedOhlcvBar)
    (windows : List WalkForwardWindow) (cost : CostModel) :
    runWalkForward sha256 decisions bars windows cost = (do
      let decisions ← canonicalDecisions decisions
      let bars ← canonicalBars bars
      let windows ← canonicalWindows windows
      let results ← windows.mapM (windowOutcome sha256 cost decisions bars)
      finishRun sha256 cost bars.isEmpty results (sourceDigests decisions cost) (capturedAtOf windows)) := by
  unfold runWalkForward
  refine bind_congr fun decisions => bind_congr fun bars => bind_congr fun windows => ?_
  cases windows with
  | nil => rfl
  | cons window windows =>
    have hnonempty (f : WalkForwardWindow → Except PyError WalkForwardResult)
        (g : List WalkForwardResult → Except PyError WalkForwardPromotionEvidence)
        (hg : ∀ results, results.isEmpty = false → g results =
          finishRun sha256 cost bars.isEmpty results (sourceDigests decisions cost) (capturedAtOf (window :: windows))) :
        ((window :: windows).mapM f >>= g) = (window :: windows).mapM f >>= fun results =>
          finishRun sha256 cost bars.isEmpty results (sourceDigests decisions cost)
            (capturedAtOf (window :: windows)) := by
      cases hresults : (window :: windows).mapM f with
      | error e => rfl
      | ok results => exact hg results (mapM_isEmpty hresults)
    rw [List.isEmpty_cons, if_neg Bool.false_ne_true]
    unfold windowOutcome
    cases hcost : cost.roundTripCostPerUnit with
    | none =>
      refine hnonempty _ _ fun results hresults => ?_
      unfold finishRun
      rw [hresults, if_neg Bool.false_ne_true, hcost]
      rfl
    | some costPerUnit =>
      dsimp only
      cases hbars : bars.isEmpty with
      | true =>
        simp only [↓reduceIte]
        rw [hbars] at hnonempty
        refine hnonempty _ _ fun results hresults => ?_
        unfold finishRun
        rw [hresults, if_neg Bool.false_ne_true, hcost]
        rfl
      | false =>
        simp only [Bool.false_eq_true, ↓reduceIte]
        rw [hbars] at hnonempty
        refine hnonempty _ _ fun results hresults => ?_
        unfold finishRun
        rw [hresults, if_neg Bool.false_ne_true, hcost]
        rfl

end AutoTrader.Research
