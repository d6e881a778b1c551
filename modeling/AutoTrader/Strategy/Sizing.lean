import AutoTrader.Strategy.Totality

/-! In exact arithmetic a trade that is allowed loses no more than its budget at the stop, and its
grade sizes it no larger than the normal one. -/

namespace AutoTrader.Strategy

open AutoTrader.Domain AutoTrader.Execution AutoTrader.Ledger AutoTrader.Trader

/-- What the authority of an allowed trade stands for. -/
structure SoundlySized (request : V6RiskRequest) (policy : V6RiskPolicySnapshot) (authority : V6RiskAuthority) :
    Prop where
  positive : 0 < authority.quantity
  stepped : ∃ steps : ℤ, authority.quantity = steps * request.quantityStep
  capped : ∀ cap, request.maxQuantity = some cap → authority.quantity ≤ cap
  base : authority.riskBase = min request.sessionStartEquity request.currentEquity
  budgeted : authority.quantity * (|request.entryPrice - authority.stopPrice| + request.costPerUnit) ≤
    authority.riskBudget
  ceiling : authority.riskBudget ≤ 1 / 100 * authority.riskBase
  stop_pos : 0 < authority.stopPrice
  protective : match request.side with
    | .buy => authority.stopPrice < request.structuralReference
    | .sell => request.structuralReference < authority.stopPrice
  openRisk : request.currentOpenStructuralRisk + authority.riskBudget ≤
    authority.riskBase * policy.maxOpenStructuralRiskFraction

/-- The request at the normal grade. -/
def V6RiskRequest.atNormal (request : V6RiskRequest) : V6RiskRequest := { request with grade := .normal }

section Budget

variable {request : V6RiskRequest} {policy : V6RiskPolicySnapshot}

theorem riskBase_pos (request : V6RiskRequest) : 0 < riskBase request := lt_min request.start_pos request.current_pos

theorem gradeFraction_le_normal (policy : V6RiskPolicySnapshot) (grade : SetupGrade) :
    (gradeFraction policy grade).1 ≤ policy.normalRiskFraction := by
  cases grade with
  | reject => exact policy.normal_range.1.le
  | normal => exact le_rfl
  | a => exact min_le_right _ _
  | aCandidate =>
    unfold gradeFraction
    cases policy.aCandidateRiskFraction with
    | none => exact policy.normal_range.1.le
    | some fraction => exact min_le_right _ _

theorem riskBudget_le_normal (request : V6RiskRequest) (policy : V6RiskPolicySnapshot) :
    riskBudget .exact request policy ≤ riskBudget .exact request.atNormal policy :=
  mul_le_mul_of_nonneg_left (gradeFraction_le_normal policy request.grade) (riskBase_pos request).le

/-- Every fraction lies at or below the normal one, which lies below the ceiling of a trade. -/
theorem riskBudget_le_ceiling (request : V6RiskRequest) (policy : V6RiskPolicySnapshot) :
    riskBudget .exact request policy ≤ 1 / 100 * riskBase request := by
  have hceiling : (gradeFraction policy request.grade).1 ≤ 1 / 100 :=
    (gradeFraction_le_normal policy request.grade).trans (policy.normal_ceiling.trans policy.absolute_ceiling)
  rw [mul_comm (1 / 100 : ℚ)]
  exact mul_le_mul_of_nonneg_left hceiling (riskBase_pos request).le

theorem riskBudget_nonneg (h : 0 < (gradeFraction policy request.grade).1) : 0 ≤ riskBudget .exact request policy :=
  mul_nonneg (riskBase_pos request).le h.le

end Budget

section Stop

variable {request : V6RiskRequest}

/-- Four ticks at least lie between the reference and the stop. -/
theorem stopBuffer_pos (request : V6RiskRequest) : 0 < stopBuffer .exact request := by
  have hticks : 0 < max (4 * request.tickSize) (2 * request.spread) :=
    lt_max_of_lt_left (mul_pos (by norm_num) request.tick_pos)
  unfold stopBuffer
  dsimp only
  split
  · exact lt_max_of_lt_left hticks
  · exact hticks

theorem stopPrice_protective (request : V6RiskRequest) :
    match request.side with
    | .buy => stopPrice .exact request < request.structuralReference
    | .sell => request.structuralReference < stopPrice .exact request := by
  have hbuffer := stopBuffer_pos request
  unfold stopPrice
  cases request.side with
  | buy => exact sub_lt_self _ hbuffer
  | sell => exact lt_add_of_pos_right _ hbuffer

/-- A stop that is not too near lies at some distance. -/
theorem stopDistance_pos (h : stopDistanceMinimumAtr ≤ distanceAtr .exact request) :
    0 < stopDistance .exact request := by
  have hmin : (0 : ℚ) < stopDistanceMinimumAtr := by
    unfold stopDistanceMinimumAtr
    norm_num
  have hdistance : 0 < stopDistance .exact request / request.atr5m := hmin.trans_le h
  exact (div_pos_iff_of_pos_right request.atr5m_pos).mp hdistance

end Stop

section Quantity

variable {request : V6RiskRequest} {policy : V6RiskPolicySnapshot}

/-- Whole steps of an amount are at most the amount. -/
theorem floor_steps_le {step : ℚ} (hstep : 0 < step) (amount : ℚ) : ⌊amount / step⌋ * step ≤ amount :=
  (le_div_iff₀ hstep).mp (Int.floor_le _)

theorem floor_steps_mono {step : ℚ} (hstep : 0 < step) {amount larger : ℚ} (h : amount ≤ larger) :
    (⌊amount / step⌋ : ℚ) * step ≤ ⌊larger / step⌋ * step := by
  have hfloor : ⌊amount / step⌋ ≤ ⌊larger / step⌋ := Int.floor_le_floor (div_le_div_of_nonneg_right h hstep.le)
  exact mul_le_mul_of_nonneg_right (Int.cast_le.mpr hfloor) hstep.le

/-- The quantity before it is cut to whole steps. -/
def cappedQuantity (request : V6RiskRequest) (budget : ℚ) : ℚ :=
  let scaled := budget / (stopDistance .exact request + request.costPerUnit) * request.sizeMultiplier
  (request.maxQuantity.map (min scaled)).getD scaled

theorem cappedQuantity_le (request : V6RiskRequest) (budget : ℚ) :
    cappedQuantity request budget ≤
      budget / (stopDistance .exact request + request.costPerUnit) * request.sizeMultiplier := by
  unfold cappedQuantity
  cases request.maxQuantity with
  | none => exact le_rfl
  | some cap => exact min_le_left _ _

theorem cappedQuantity_le_cap {cap : ℚ} (h : request.maxQuantity = some cap) (budget : ℚ) :
    cappedQuantity request budget ≤ cap := by
  unfold cappedQuantity
  rw [h]
  exact min_le_right _ _

theorem cappedQuantity_mono (hloss : 0 < stopDistance .exact request + request.costPerUnit) {budget larger : ℚ}
    (h : budget ≤ larger) : cappedQuantity request budget ≤ cappedQuantity request larger := by
  have hscaled := mul_le_mul_of_nonneg_right (div_le_div_of_nonneg_right h hloss.le) request.multiplier_range.1.le
  unfold cappedQuantity
  cases request.maxQuantity with
  | none => exact hscaled
  | some cap => exact min_le_min_right cap hscaled

theorem sizedQuantity_exact (request : V6RiskRequest) (policy : V6RiskPolicySnapshot)
    (hloss : 0 < stopDistance .exact request + request.costPerUnit) :
    sizedQuantity .exact request policy =
      ⌊cappedQuantity request (riskBudget .exact request policy) / request.quantityStep⌋ * request.quantityStep := by
  have hfix : ∀ x, Arithmetic.exact.fix x = x := fun _ => rfl
  unfold sizedQuantity cappedQuantity
  simp only [hfix, if_pos hloss]

/-- Cutting to steps, the cap and the multiplier all lower the quantity the budget pays for. -/
theorem sizedQuantity_budgeted (hloss : 0 < stopDistance .exact request + request.costPerUnit)
    (hbudget : 0 ≤ riskBudget .exact request policy) :
    sizedQuantity .exact request policy * (stopDistance .exact request + request.costPerUnit) ≤
      riskBudget .exact request policy := by
  rw [← le_div_iff₀ hloss, sizedQuantity_exact request policy hloss]
  calc (⌊cappedQuantity request (riskBudget .exact request policy) / request.quantityStep⌋ : ℚ) * request.quantityStep
      ≤ cappedQuantity request (riskBudget .exact request policy) := floor_steps_le request.step_pos _
    _ ≤ riskBudget .exact request policy / (stopDistance .exact request + request.costPerUnit) *
          request.sizeMultiplier := cappedQuantity_le _ _
    _ ≤ riskBudget .exact request policy / (stopDistance .exact request + request.costPerUnit) :=
      mul_le_of_le_one_right (div_nonneg hbudget hloss.le) request.multiplier_range.2

theorem sizedQuantity_le_normal (hloss : 0 < stopDistance .exact request + request.costPerUnit) :
    sizedQuantity .exact request policy ≤ sizedQuantity .exact request.atNormal policy := by
  rw [sizedQuantity_exact request policy hloss, sizedQuantity_exact request.atNormal policy hloss]
  exact floor_steps_mono request.step_pos (cappedQuantity_mono hloss (riskBudget_le_normal request policy))

end Quantity

section Allowed

variable {request : V6RiskRequest} {policy : V6RiskPolicySnapshot}

theorem RiskAllows.loss_pos (h : RiskAllows .exact request policy) :
    0 < stopDistance .exact request + request.costPerUnit :=
  add_pos_of_pos_of_nonneg (stopDistance_pos h.near) request.cost_nonneg

/-- The normal grade is refused, where another one is not, for its share of the open risk alone. -/
theorem RiskAllows.normal_blockers (h : RiskAllows .exact request policy) :
    canonical (riskBlockers .exact request.atNormal policy) = [] ∨
      canonical (riskBlockers .exact request.atNormal policy) = ["OPEN_RISK_LIMIT"] := by
  have hmarket : marketBlockers request.atNormal = [] := marketBlockers_nil.mpr h.market
  have hreference : referenceBlockers request.atNormal = [] := referenceBlockers_nil.mpr h.reference
  have hstop : stopBlockers .exact request.atNormal = [] := by
    unfold stopBlockers
    simp only [List.append_eq_nil_iff, blockIf_eq_nil, not_le, not_lt]
    exact ⟨⟨⟨h.stop, h.spread⟩, h.near⟩, h.far⟩
  have hsize : sizeBlockers .exact request.atNormal policy = [] := by
    unfold sizeBlockers
    rw [blockIf_eq_nil]
    rintro ⟨hzero, -⟩
    exact absurd (h.quantity.trans_le (sizedQuantity_le_normal h.loss_pos)) (not_lt.mpr hzero)
  have hlimit : limitBlockers .exact request.atNormal policy = [] ∨
      limitBlockers .exact request.atNormal policy = ["OPEN_RISK_LIMIT"] := by
    unfold limitBlockers
    have hdaily : ¬request.atNormal.dailyNetPnl ≤
        -Arithmetic.exact.fix (riskBase request.atNormal * policy.dailyLossFraction) := not_le.mpr h.daily
    have hweekly : ¬request.atNormal.weeklyNetPnl ≤
        -Arithmetic.exact.fix (riskBase request.atNormal * policy.weeklyLossFraction) := not_le.mpr h.weekly
    have hlosses : ¬policy.maxConsecutiveLosses ≤ request.atNormal.consecutiveNetLosses := not_le.mpr h.losses
    have htrades : ¬sessionTradeUpperBound ≤ request.atNormal.sessionTradeCount := not_le.mpr h.trades
    have hobjective : ¬request.atNormal.sessionObjectiveReached = true := ne_true_of_eq_false h.objective
    rw [blockIf_eq_nil.mpr hdaily, blockIf_eq_nil.mpr hweekly, blockIf_eq_nil.mpr hlosses,
      blockIf_eq_nil.mpr htrades, blockIf_eq_nil.mpr hobjective]
    unfold blockIf
    split
    · exact .inr rfl
    · exact .inl rfl
  unfold riskBlockers
  rw [hmarket, hreference, hstop, hsize]
  rcases hlimit with hlimit | hlimit
  · left
    rw [hlimit]
    rfl
  · right
    rw [hlimit]
    rfl

end Allowed

/-- In exact arithmetic the authority of an allowed trade is sound, and its quantity is at most
the one the normal grade is sized at and at most the one it is given, unless the normal grade is
refused for the open risk alone. -/
theorem evaluateV6Risk_sound {request : V6RiskRequest} {policy : V6RiskPolicySnapshot} {authority : V6RiskAuthority}
    (h : evaluateV6Risk .exact request policy = .ok authority) (hallowed : authority.allowed = true) :
    SoundlySized request policy authority ∧
      authority.quantity ≤ sizedQuantity .exact request.atNormal policy ∧
      ∃ normal, evaluateV6Risk .exact request.atNormal policy = .ok normal ∧
        (authority.quantity ≤ normal.quantity ∨ normal.blockerCodes = ["OPEN_RISK_LIMIT"]) := by
  have hmarket : policy.market = request.market := by
    by_contra hother
    rw [evaluateV6Risk, if_pos hother] at h
    cases h
  rw [evaluateV6Risk, if_neg (not_not.mpr hmarket)] at h
  cases h
  have hempty := hallowed
  dsimp only at hempty
  have hallows : RiskAllows .exact request policy := by
    rwa [List.isEmpty_iff, canonical_eq_nil, riskBlockers_nil] at hempty
  have hbudget := riskBudget_nonneg (gradeFraction_pos.mp hallows.fraction)
  have hnormal : sizedQuantity .exact request policy ≤ sizedQuantity .exact request.atNormal policy :=
    sizedQuantity_le_normal hallows.loss_pos
  dsimp only
  rw [if_pos hempty]
  refine ⟨⟨?_, ?_, ?_, rfl, ?_, riskBudget_le_ceiling request policy, hallows.stop, stopPrice_protective request,
    hallows.openRisk⟩, hnormal, ?_⟩
  · exact hallows.quantity
  · exact ⟨_, sizedQuantity_exact request policy hallows.loss_pos⟩
  · intro cap hcap
    rw [sizedQuantity_exact request policy hallows.loss_pos]
    exact (floor_steps_le request.step_pos _).trans (cappedQuantity_le_cap hcap _)
  · exact sizedQuantity_budgeted hallows.loss_pos hbudget
  · refine ⟨_, if_neg (not_not.mpr hmarket), ?_⟩
    rcases hallows.normal_blockers with hnone | hopen
    · left
      dsimp only
      rw [hnone]
      exact hnormal
    · exact .inr hopen

theorem crowdedAmounts : (0 : ℚ) ≤ 90 ∧ ((0 : ℚ) < 1 / 2000 ∧ (1 / 2000 : ℚ) ≤ 1) ∧ (1 / 2000 : ℚ) ≤ 1 / 100 := by
  norm_num

/-- The sample purchase at grade A, in an account with ninety at risk already. -/
def crowdedRequest : V6RiskRequest :=
  { sampleRequest with grade := .a, currentOpenStructuralRisk := 90, open_nonneg := crowdedAmounts.1 }

/-- The sample policy with a grade A that risks a third of what the normal one does. -/
def cautiousPolicy : V6RiskPolicySnapshot :=
  { samplePolicy with
    aRiskFraction := 1 / 2000
    a_range := crowdedAmounts.2.1
    a_ceiling := crowdedAmounts.2.2 }

theorem evaluateV6Risk_sound_crowded :
    ∃ authority, evaluateV6Risk .exact crowdedRequest cautiousPolicy = .ok authority ∧ authority.allowed = true ∧
      SoundlySized crowdedRequest cautiousPolicy authority := by
  have hallowed : RiskAllows .exact crowdedRequest cautiousPolicy := riskBlockers_nil.mp (by decide +kernel)
  have hmarket : cautiousPolicy.market = crowdedRequest.market := rfl
  obtain ⟨authority, hevaluated, -, hiff, -⟩ := evaluateV6Risk_ok .exact hmarket
  exact ⟨authority, hevaluated, hiff.mpr hallowed, (evaluateV6Risk_sound hevaluated (hiff.mpr hallowed)).1⟩

/-- There grade A buys two and the normal grade nothing. -/
theorem smaller_grade_outsizes_normal :
    ¬∀ (request : V6RiskRequest) (policy : V6RiskPolicySnapshot) (authority normal : V6RiskAuthority),
      evaluateV6Risk .exact request policy = .ok authority → authority.allowed = true →
      evaluateV6Risk .exact request.atNormal policy = .ok normal → authority.quantity ≤ normal.quantity := by
  intro h
  have hquantity : (evaluateV6Risk .exact crowdedRequest cautiousPolicy).map (fun a => (a.allowed, a.quantity)) =
      .ok (true, 2) := by decide +kernel
  have hnormal : (evaluateV6Risk .exact crowdedRequest.atNormal cautiousPolicy).map (·.quantity) = .ok 0 := by
    decide +kernel
  cases hauthority : evaluateV6Risk .exact crowdedRequest cautiousPolicy with
  | error e =>
    rw [hauthority] at hquantity
    cases hquantity
  | ok authority =>
    cases hother : evaluateV6Risk .exact crowdedRequest.atNormal cautiousPolicy with
    | error e =>
      rw [hother] at hnormal
      cases hnormal
    | ok normal =>
      rw [hauthority] at hquantity
      rw [hother] at hnormal
      obtain ⟨hallowed, hbought⟩ := Prod.mk.inj (Except.ok.inj hquantity)
      have hnothing : normal.quantity = 0 := Except.ok.inj hnormal
      have hle := h _ _ authority normal hauthority hallowed hother
      rw [hbought, hnothing] at hle
      norm_num at hle

end AutoTrader.Strategy
