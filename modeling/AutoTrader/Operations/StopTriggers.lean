import AutoTrader.Operations.StopAcceptance

/-! Whether a stop the manager moves would trigger at once. The thresholds of an add and of a move
look at the favorable move alone; the stop they lead to stands off the average entry by what
leaving costs. -/

namespace AutoTrader.Operations

open AutoTrader.Domain AutoTrader.Numeric AutoTrader.Binance

/-- A stop the price has not reached, which is a price. -/
def Untriggered (side : Side) (price stop : ℚ) : Prop :=
  match side with
  | .buy => stop < price
  | .sell => price < stop ∧ 0 < stop

/-- Every move asks for a stop that does not trigger at once. -/
def MovesUntriggered (position : V6ManagedPosition) (facts : V6PositionFacts) (mode : RuntimeMode) : Prop :=
  ∀ actions, manageV6Position position facts mode = .ok actions → ∀ action ∈ actions,
    action.kind = .moveStopToBreakEven ∨ action.kind = .addAndMoveStop →
      ∃ stop, action.stopPrice = some stop ∧ Untriggered position.side facts.currentPrice stop

/-- Fees, slippage and a tick, in whole ticks. -/
def costOffset (facts : V6PositionFacts) : ℚ :=
  let rawOffset := roundSig 28 (roundSig 28 (roundSig 28 (facts.actualEntryFeePerUnit + facts.takerExitFeePerUnit) +
    facts.q95AdverseStopSlippage) + facts.tickSize)
  roundSig 28 (⌈roundSig 28 (rawOffset / facts.tickSize)⌉ * facts.tickSize)

/-- The price is beyond the working stop, and beyond the entry and its costs. -/
def Covers (side : Side) (active entry : ℚ) (facts : V6PositionFacts) : Prop :=
  match side with
  | .buy => active < facts.currentPrice ∧ roundSig 28 (entry + costOffset facts) < facts.currentPrice
  | .sell => facts.currentPrice < active ∧ facts.currentPrice < roundSig 28 (entry - costOffset facts)

/-- The add is free, and the move is large enough for it. -/
def AddDue (position : V6ManagedPosition) (facts : V6PositionFacts) : Prop :=
  position.addCount = 0 ∧ facts.slippageSampleSufficient = true ∧
    max (roundSig 28 (position.initialEntryPrice * (1 / 1000))) (roundSig 28 (facts.atr5m * (35 / 100))) ≤
      favorableMove position.side position.initialEntryPrice facts.currentPrice ∧
    0 < favorableMove position.side position.initialEntryPrice facts.currentPrice

/-- The stop was not moved yet, and three tenths of the risk are reached. -/
def MoveDue (position : V6ManagedPosition) (facts : V6PositionFacts) : Prop :=
  position.breakEvenActive = false ∧ facts.slippageSampleSufficient = true ∧
    roundSig 28 (|roundSig 28 (position.initialEntryPrice - position.initialStopPrice)| * (30 / 100)) ≤
      favorableMove position.side position.initialEntryPrice facts.currentPrice

instance decidableExitCondition (position : V6ManagedPosition) (facts : V6PositionFacts) :
    Decidable (ExitCondition position facts) :=
  inferInstanceAs (Decidable (_ ∨ _))

instance decidableCovers (side : Side) (active entry : ℚ) (facts : V6PositionFacts) :
    Decidable (Covers side active entry facts) :=
  match side with
  | .buy => inferInstanceAs (Decidable (_ ∧ _))
  | .sell => inferInstanceAs (Decidable (_ ∧ _))

instance decidableAddDue (position : V6ManagedPosition) (facts : V6PositionFacts) : Decidable (AddDue position facts) :=
  inferInstanceAs (Decidable (_ ∧ _))

instance decidableMoveDue (position : V6ManagedPosition) (facts : V6PositionFacts) : Decidable (MoveDue position facts) :=
  inferInstanceAs (Decidable (_ ∧ _))

/-! ### The stop of a move -/

section Stop

variable {position : V6ManagedPosition} {facts : V6PositionFacts} {mode : RuntimeMode}

theorem costOffset_nonneg (hfacts : facts.validate = .ok ()) : 0 ≤ costOffset facts := by
  obtain ⟨-, htick, hentry, hexit, hslippage⟩ := V6PositionFacts.validate_ok hfacts
  have hdigits : 1 ≤ 28 := by decide
  have hraw := roundSig_nonneg hdigits (add_nonneg (roundSig_nonneg hdigits
    (add_nonneg (roundSig_nonneg hdigits (add_nonneg hentry hexit)) hslippage)) htick.le)
  have hticks : (0 : ℤ) ≤ ⌈roundSig 28 (roundSig 28 (roundSig 28 (roundSig 28 (facts.actualEntryFeePerUnit +
      facts.takerExitFeePerUnit) + facts.q95AdverseStopSlippage) + facts.tickSize) / facts.tickSize)⌉ :=
    Int.ceil_nonneg (roundSig_nonneg hdigits (div_nonneg hraw htick.le))
  exact roundSig_nonneg hdigits (mul_nonneg (by exact_mod_cast hticks) htick.le)

/-- A rounded entry is not worse than the break-even price. -/
theorem breakEvenStop_beyond (hfacts : facts.validate = .ok ()) (side : Side) {entry : ℚ}
    (hentry : 0 ≤ roundSig 28 entry) :
    match side with
    | .buy => roundSig 28 entry ≤ breakEvenStop side (roundSig 28 entry) facts
    | .sell => breakEvenStop side (roundSig 28 entry) facts ≤ roundSig 28 entry := by
  have hoffset := costOffset_nonneg hfacts
  obtain ⟨e, hgrid⟩ := onGrid_roundSig (p := 28) (by decide) entry
  cases side with
  | buy => exact le_roundSig (by decide) hgrid (add_nonneg hentry hoffset) (le_add_of_nonneg_right hoffset)
  | sell =>
    show roundSig 28 (roundSig 28 entry - costOffset facts) ≤ roundSig 28 entry
    by_cases hneg : roundSig 28 entry - costOffset facts < 0
    · exact ((roundSig_neg (by decide) _).mpr hneg).le.trans hentry
    · exact roundSig_le hgrid (not_lt.mp hneg) (sub_le_self _ hoffset)

/-- At a stop beyond the entry nothing is at risk. -/
theorem worstCaseRisk_eq_zero {side : Side} {entry stop quantity : ℚ}
    (h : match side with
      | .buy => entry ≤ stop
      | .sell => stop ≤ entry) : worstCaseRisk side entry stop quantity = 0 := by
  have hloss : ∀ loss : ℚ, loss ≤ 0 → max (roundSig 28 loss) 0 = 0 := by
    intro loss hle
    refine max_eq_right (not_lt.mp fun hpos => ?_)
    rcases hle.lt_or_eq with hlt | rfl
    · exact absurd ((roundSig_neg (by decide) _).mpr hlt) (not_lt.mpr hpos.le)
    · rw [roundSig_zero] at hpos
      exact lt_irrefl _ hpos
  cases side with
  | buy =>
    show roundSig 28 (max (roundSig 28 (entry - stop)) 0 * quantity) = 0
    rw [hloss _ (sub_nonpos.mpr h), zero_mul, roundSig_zero]
  | sell =>
    show roundSig 28 (max (roundSig 28 (stop - entry)) 0 * quantity) = 0
    rw [hloss _ (sub_nonpos.mpr h), zero_mul, roundSig_zero]

theorem untriggered_nonWidening {side : Side} {active entry : ℚ} (hprice : 0 < facts.currentPrice) :
    Untriggered side facts.currentPrice (nonWideningStop side (some active) (breakEvenStop side entry facts)) ↔
      Covers side active entry facts := by
  cases side with
  | buy => exact max_lt_iff
  | sell =>
    constructor
    · rintro ⟨hprice, -⟩
      exact lt_min_iff.mp hprice
    · intro hcovers
      have hbeyond := lt_min_iff.mpr hcovers
      exact ⟨hbeyond, hprice.trans hbeyond⟩

/-- An add that is due is asked for: behind its break-even price nothing is at risk. -/
theorem addAction_isSome_iff (hposition : position.validate = .ok ()) (hfacts : facts.validate = .ok ()) :
    (addAction position facts).isSome ↔ AddDue position facts := by
  obtain ⟨-, haverage, hinitial, hremaining, -, happroved, hcurrent, -⟩ := V6ManagedPosition.validate_ok.mp hposition
  obtain ⟨hprice, -⟩ := V6PositionFacts.validate_ok hfacts
  have hfix : ∀ {x : ℚ}, 0 ≤ x → 0 ≤ roundSig 28 x := roundSig_nonneg (by decide)
  have haverageAfter : 0 ≤ averageAfterAdd position facts :=
    hfix (div_nonneg (hfix (add_nonneg (hfix (mul_nonneg haverage.le hremaining.le))
      (hfix (mul_nonneg hprice.le hinitial.le)))) (hfix (add_nonneg hremaining.le hinitial.le)))
  have hrisk : ∀ quantity, worstCaseRisk position.side (averageAfterAdd position facts)
      (nonWideningStop position.side position.activeStopPrice
        (breakEvenStop position.side (averageAfterAdd position facts) facts)) quantity = 0 := by
    intro quantity
    have hbeyond := breakEvenStop_beyond hfacts position.side haverageAfter
    apply worstCaseRisk_eq_zero
    unfold nonWideningStop
    cases hside : position.side with
    | buy =>
      rw [hside] at hbeyond
      cases position.activeStopPrice with
      | none => exact hbeyond
      | some active => exact hbeyond.trans (le_max_right _ _)
    | sell =>
      rw [hside] at hbeyond
      cases position.activeStopPrice with
      | none => exact hbeyond
      | some active => exact (min_le_right _ _).trans hbeyond
  unfold addAction AddDue
  dsimp only
  rw [hrisk]
  constructor
  · intro hsome
    split at hsome
    · cases hsome
    rename_i hfree
    split at hsome
    · cases hsome
    rename_i hmove
    obtain ⟨hcount, hsample⟩ := not_or.mp hfree
    obtain ⟨hthreshold, hfavorable⟩ := not_or.mp hmove
    exact ⟨not_not.mp hcount, not_not.mp hsample, not_lt.mp hthreshold, not_le.mp hfavorable⟩
  · rintro ⟨hcount, hsample, hthreshold, hfavorable⟩
    rw [if_neg (not_or.mpr ⟨not_not.mpr hcount, not_not.mpr hsample⟩), if_neg,
      if_neg (not_lt.mpr (le_min hcurrent happroved))]
    · rfl
    · exact not_or.mpr ⟨not_lt.mpr hthreshold, not_le.mpr hfavorable⟩

theorem breakEvenAction_isSome_iff : (breakEvenAction position facts).isSome ↔ MoveDue position facts := by
  unfold breakEvenAction MoveDue
  dsimp only
  constructor
  · intro hsome
    split at hsome
    · cases hsome
    rename_i hfree
    split at hsome
    · cases hsome
    rename_i hmove
    obtain ⟨hmoved, hsample⟩ := not_or.mp hfree
    exact ⟨Bool.eq_false_iff.mpr hmoved, not_not.mp hsample, not_lt.mp hmove⟩
  · rintro ⟨hmoved, hsample, hmove⟩
    rw [if_neg (not_or.mpr ⟨Bool.eq_false_iff.mp hmoved, not_not.mpr hsample⟩), if_neg]
    · rfl
    · exact not_lt.mpr hmove

/-- What is answered while nothing asks for the position to be left. -/
theorem manageV6Position_held (mode : RuntimeMode) (hposition : position.validate = .ok ()) (hfacts : facts.validate = .ok ())
    (hexit : ¬ExitCondition position facts) (hactive : position.activeStopPrice.isSome) :
    manageV6Position position facts mode = .ok ((addAction position facts).elim
      ((breakEvenAction position facts).toList ++ marks position facts mode) fun add => [add]) := by
  obtain ⟨-, -, -, -, -, -, -, -, hagree, -⟩ := V6ManagedPosition.validate_ok.mp hposition
  unfold ExitCondition at hexit
  simp only [not_or] at hexit
  obtain ⟨hprotection, hflat, htrade, hmetodo, hfib⟩ := hexit
  unfold manageV6Position
  rw [hposition, hfacts, ok_bind, ok_bind, if_neg hprotection, if_neg hflat, if_neg htrade, if_neg hmetodo, if_neg hfib,
    hagree, hactive, if_neg (by decide)]
  cases addAction position facts with
  | none => rfl
  | some add => rfl

/-- Wherever an add or else a move is due, the price is beyond the working stop and beyond the average
entry with its costs. -/
def CoversMoves (position : V6ManagedPosition) (facts : V6PositionFacts) : Prop :=
  ∀ active, position.activeStopPrice = some active →
    (AddDue position facts → Covers position.side active (averageAfterAdd position facts) facts) ∧
    (¬AddDue position facts → MoveDue position facts → Covers position.side active position.averageEntryPrice facts)

theorem MovesUntriggered.covers (h : MovesUntriggered position facts mode) (hposition : position.validate = .ok ())
    (hfacts : facts.validate = .ok ()) (hexit : ¬ExitCondition position facts) : CoversMoves position facts := by
  intro active hactive
  obtain ⟨hprice, -⟩ := V6PositionFacts.validate_ok hfacts
  have hmanage := manageV6Position_held mode hposition hfacts hexit (hactive ▸ rfl)
  constructor
  · intro hdue
    obtain ⟨add, hadd⟩ := Option.isSome_iff_exists.mp ((addAction_isSome_iff hposition hfacts).mpr hdue)
    obtain ⟨hkind, hstop⟩ := addAction_some hadd
    rw [hadd] at hmanage
    obtain ⟨stop, hasked, huntriggered⟩ := h _ hmanage add (List.mem_singleton_self add) (.inr hkind)
    rw [hstop, hactive] at hasked
    cases hasked
    exact (untriggered_nonWidening hprice).mp huntriggered
  · intro hnot hdue
    have hadd : addAction position facts = none :=
      Option.not_isSome_iff_eq_none.mp fun hsome => hnot ((addAction_isSome_iff hposition hfacts).mp hsome)
    obtain ⟨move, hmove⟩ := Option.isSome_iff_exists.mp (breakEvenAction_isSome_iff.mpr hdue)
    obtain ⟨hkind, hstop⟩ := breakEvenAction_some hmove
    rw [hadd, hmove] at hmanage
    obtain ⟨stop, hasked, huntriggered⟩ := h _ hmanage move List.mem_cons_self (.inl hkind)
    rw [hstop, hactive] at hasked
    cases hasked
    exact (untriggered_nonWidening hprice).mp huntriggered

end Stop

/-- A move never asks for a stop that triggers at once exactly when, wherever a move of an evaluation
without an exit is due, the price covers the working stop and the costs. -/
theorem movesUntriggered_iff (position : V6ManagedPosition) (facts : V6PositionFacts) (mode : RuntimeMode) :
    MovesUntriggered position facts mode ↔
      (position.validate = .ok () → facts.validate = .ok () → ¬ExitCondition position facts →
        CoversMoves position facts) := by
  constructor
  · exact fun h hposition hfacts hexit => h.covers hposition hfacts hexit
  · intro h actions hmanage action hmem hkind
    obtain ⟨⟨active, hactive, -⟩, hstop⟩ := manageV6Position_stop hmanage hmem hkind
    obtain ⟨hposition, hmanaged⟩ := manageV6Position_managed hmanage
    obtain ⟨_, -, hrest⟩ := bind_ok.mp hmanage
    obtain ⟨_, hfacts, -⟩ := bind_ok.mp hrest
    obtain ⟨hprice, -⟩ := V6PositionFacts.validate_ok hfacts
    refine ⟨_, hstop, ?_⟩
    rw [hactive, untriggered_nonWidening hprice]
    cases hmanaged with
    | exit kind halt hexit =>
      rw [List.mem_singleton.mp hmem] at hkind
      rcases hkind with hmove | hadd
      · rw [show kind = .moveStopToBreakEven from hmove] at hexit
        cases hexit
      · rw [show kind = .addAndMoveStop from hadd] at hexit
        cases hexit
    | activate _ hnone =>
      rw [hactive] at hnone
      cases hnone
    | add add hexit _ hadd =>
      have hdue := (addAction_isSome_iff hposition hfacts).mp (hadd ▸ rfl)
      rw [List.mem_singleton.mp hmem, (addAction_some hadd).1]
      exact (h hposition hfacts hexit active hactive).1 hdue
    | hold hexit _ hadd =>
      have hnot : ¬AddDue position facts := by
        intro hdue
        have hsome := (addAction_isSome_iff hposition hfacts).mpr hdue
        rw [hadd] at hsome
        cases hsome
      rcases List.mem_append.mp hmem with hmove | hmark
      · have hmove := Option.mem_toList.mp hmove
        rw [(breakEvenAction_some hmove).1]
        exact (h hposition hfacts hexit active hactive).2 hnot (breakEvenAction_isSome_iff.mp (hmove ▸ rfl))
      · exact absurd hkind (marks_kind hmark)

/-! ### A stop at once -/

/-- A long of two contracts at 100, protected at 99. -/
def closelyManaged : V6ManagedPosition :=
  { sampleManaged with
    initialStopPrice := 99, activeStopPrice := some 99, originalApprovedRisk := 2, currentWorstCaseRisk := 2 }

/-- Three tenths of the risk are reached, and less than a tick. -/
def slightFacts : V6PositionFacts := { sampleFacts with currentPrice := 1003 / 10 }

/-- The stop moves to 102 while the price is 100.3. -/
theorem moves_trigger_at_once : ¬MovesUntriggered closelyManaged slightFacts .paper := by
  intro h
  have hcovers := (h.covers (by decide +kernel) (by decide +kernel) (by decide +kernel) 99 rfl).2 (by decide +kernel)
    (by decide +kernel)
  revert hcovers
  decide +kernel

end AutoTrader.Operations
