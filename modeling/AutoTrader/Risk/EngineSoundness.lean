import AutoTrader.Ledger.System
import AutoTrader.Risk.Engine

/-! What an outcome of the risk engine that permits an order stands for. -/

namespace AutoTrader.Risk

open AutoTrader.Domain AutoTrader.Execution AutoTrader.Ledger

section Statements

variable (arith : Arithmetic) (intent : OrderIntent) (context : RiskContext)

/-- No condition that blocks orders holds; the loss of the day is the one the arithmetic adds up. -/
structure Unblocked : Prop where
  account : context.accountSnapshot.accountId = intent.accountId ∧ context.riskSnapshot.accountId = intent.accountId
  policy : context.activePolicy.active = true
  control : context.tradingControl.tradingEnabled = true
  incidents : context.blockingIncidentCount = 0
  reconciliations : context.blockingReconciliationCount = 0
  unknowns : context.unresolvedUnknownCount = 0
  accountAge : context.decisionAt - context.accountSnapshot.capturedAt ≤ context.activePolicy.maxAccountSnapshotAge
  riskAge : context.decisionAt - context.riskSnapshot.asOf ≤ context.activePolicy.maxRiskSnapshotAge
  quoteAge : context.decisionAt - context.quote.asOf ≤ context.activePolicy.maxMarketDataAge
  quoted : context.quote.instrumentId = intent.instrumentId ∧ 0 < context.quote.bid ∧ 0 < context.quote.ask
  slippage : 0 ≤ context.activePolicy.maxSlippageBps ∧ context.activePolicy.maxSlippageBps < 10000
  hashes : context.riskSnapshot.positionHash = context.positionHash ∧
    context.riskSnapshot.openOrderHash = context.openOrderHash
  currency : context.riskSnapshot.currency = some context.accountSnapshot.currency ∧
    context.riskSnapshot.currency = some context.quote.currency
  anchored : matchingAnchors context ≠ none
  dailyLoss : -arith.fix (context.riskSnapshot.dailyRealizedPnl + context.riskSnapshot.dailyUnrealizedPnl) ≤
    context.activePolicy.maxDailyLoss
  drawdown : context.riskSnapshot.drawdown ≤ context.activePolicy.maxDrawdown

/-- The reserved amount of a purchase is what the quantity costs, and every limit holds with it. -/
structure Funded (reserved : ℚ) : Prop where
  cash : reserved ≤ context.accountSnapshot.cash
  buyingPower : reserved ≤ context.accountSnapshot.buyingPower
  concentration : ∃ paid, price arith intent context = .ok paid ∧ reserved = arith.fix (intent.quantity.toRat * paid) ∧
    arith.fix (currentValue arith intent context paid + reserved) ≤ context.activePolicy.maxPositionValue ∧
    ∀ position, heldPosition intent context = some position → 0 < position.quantity → position.averageCost ≤ paid
  anchors : ∃ globalAnchor accountAnchor, matchingAnchors context = some (globalAnchor, accountAnchor) ∧
    context.budgetAnchors.Perm [globalAnchor, accountAnchor] ∧
    ∀ anchor ∈ [globalAnchor, accountAnchor],
      arith.fix (arith.fix (anchor.positionRiskAmount + anchor.remainingReservationAmount) + reserved) ≤
        min anchor.hardLimitAmount context.activePolicy.maxTotalRisk

/-- The position that is sold from has the quantity. -/
def Sellable : Prop :=
  ∃ position, heldPosition intent context = some position ∧ intent.quantity.toRat ≤ position.availableQuantity

end Statements

theorem firstReason_eq_none {checks : List (Bool × String)} :
    firstReason checks = none ↔ ∀ check ∈ checks, check.1 = false := by
  unfold firstReason
  rw [Option.map_eq_none_iff, List.find?_eq_none]
  simp only [Bool.not_eq_true]

/-- A list of two has one element for each of two tests that exclude each other. -/
theorem perm_of_filters {α : Type} {p q : α → Bool} {items : List α} {x y : α}
    (hexclude : ∀ item, q item = true → p item = false) (hp : items.filter p = [x]) (hq : items.filter q = [y])
    (hlength : items.length = 2) : items.Perm [x, y] := by
  have hsplit := List.filter_append_perm p items
  rw [hp] at hsplit
  have hone : (items.filter fun item => !p item).length = 1 := by
    have hsum := hsplit.length_eq
    rw [List.length_append, List.length_singleton, hlength] at hsum
    omega
  obtain ⟨z, hz⟩ := List.length_eq_one_iff.mp hone
  have hy : y ∈ items.filter fun item => !p item := by
    obtain ⟨hmem, htest⟩ := List.mem_filter.mp (hq ▸ List.mem_singleton_self y)
    exact List.mem_filter.mpr ⟨hmem, by rw [hexclude y htest]; rfl⟩
  rw [hz, List.mem_singleton] at hy
  rw [hz, ← hy] at hsplit
  exact hsplit.symm

section Blockers

variable {arith : Arithmetic} {intent : OrderIntent} {context : RiskContext}

theorem contextRejection_eq_none (h : contextRejection arith intent context = none) :
    Unblocked arith intent context := by
  unfold contextRejection at h
  dsimp only at h
  rw [firstReason_eq_none] at h
  simp only [List.forall_mem_cons, List.not_mem_nil, false_imp_iff, implies_true, and_true, decide_eq_false_iff_not,
    not_or, not_lt, not_le, ne_eq, not_not, Bool.not_eq_false] at h
  obtain ⟨haccount, hpolicy, hcounts, hcontrol, hincidents, hreconciliations, hunknowns, haccountAge, hriskAge,
    hquoteAge, hinstrument, hquote, hslippage, hhashes, hcurrency, hanchored, hdaily, hdrawdown⟩ := h
  have hnonneg := le_min_iff.mp hcounts
  have hothers := le_min_iff.mp hnonneg.1
  exact
    { account := ⟨haccount.1.symm, haccount.2⟩, policy := hpolicy, control := hcontrol
      incidents := le_antisymm hincidents hothers.1, reconciliations := le_antisymm hreconciliations hothers.2
      unknowns := le_antisymm hunknowns hnonneg.2, accountAge := haccountAge, riskAge := hriskAge
      quoteAge := hquoteAge, quoted := ⟨hinstrument, hquote⟩, slippage := hslippage, hashes := hhashes
      currency := ⟨hcurrency.1.symm, hcurrency.2.symm⟩, anchored := hanchored, dailyLoss := hdaily
      drawdown := hdrawdown }

/-- Two anchors, one of them of each scope, are those two. -/
theorem anchors_perm {globalAnchor accountAnchor : RiskBudgetAnchorView} (hlength : context.budgetAnchors.length = 2)
    (h : matchingAnchors context = some (globalAnchor, accountAnchor)) :
    context.budgetAnchors.Perm [globalAnchor, accountAnchor] := by
  unfold matchingAnchors at h
  split at h
  · rename_i hglobal haccount
    split at h
    · obtain ⟨rfl, rfl⟩ := Prod.mk.inj (Option.some.inj h)
      refine perm_of_filters (fun anchor hscope => ?_) hglobal haccount hlength
      have haccountScope := (of_decide_eq_true hscope).1
      refine decide_eq_false fun hglobalScope => ?_
      rw [haccountScope] at hglobalScope
      exact absurd hglobalScope.1 (by decide)
    · cases h
  · cases h

theorem exceedsAnchorLimit_eq_false {anchors : List RiskBudgetAnchorView} {proposed policyLimit : ℚ} :
    exceedsAnchorLimit arith anchors proposed policyLimit = false ↔
      anchors.length = 2 ∧ ∀ anchor ∈ anchors,
        arith.fix (arith.fix (anchor.positionRiskAmount + anchor.remainingReservationAmount) + proposed) ≤
          min anchor.hardLimitAmount policyLimit := by
  unfold exceedsAnchorLimit overAnchorLimit
  rw [Bool.or_eq_false_iff, List.any_eq_false]
  simp only [decide_eq_false_iff_not, ne_eq, not_not, decide_eq_true_eq, not_lt]

theorem purchaseRejection_eq_none (hanchored : matchingAnchors context ≠ none) {paid reserved : ℚ}
    (hpaid : price arith intent context = .ok paid) (hreserved : reserved = arith.fix (intent.quantity.toRat * paid))
    (h : purchaseRejection arith intent context paid reserved = none) : Funded arith intent context reserved := by
  unfold purchaseRejection at h
  rw [firstReason_eq_none] at h
  simp only [List.forall_mem_cons, List.not_mem_nil, false_imp_iff, implies_true, and_true, decide_eq_false_iff_not,
    not_or, not_lt] at h
  obtain ⟨haverage, ⟨hcash, hpower⟩, hconcentration, hexceeds⟩ := h
  obtain ⟨hlength, hlimits⟩ := exceedsAnchorLimit_eq_false.mp hexceeds
  obtain ⟨⟨globalAnchor, accountAnchor⟩, hmatching⟩ := Option.ne_none_iff_exists'.mp hanchored
  have hperm := anchors_perm hlength hmatching
  refine ⟨hcash, hpower, ⟨paid, hpaid, hreserved, hconcentration, ?_⟩, globalAnchor, accountAnchor, hmatching, hperm,
    fun anchor hmem => hlimits anchor (hperm.mem_iff.mpr hmem)⟩
  intro position hheld hlong
  rw [hheld] at haverage
  dsimp only at haverage
  by_contra hbelow
  exact of_decide_eq_false haverage ⟨hlong, not_le.mp hbelow⟩

end Blockers

section Decisions

variable {arith : Arithmetic} {intent : OrderIntent} {context : RiskContext} {newId : UUID}
  {hashOf : RiskOutcome → List String → ℚ → Digest} {decision : RiskDecision}

/-- A decision has the outcome and the reserved amount it is made with, and approves the whole
quantity or none. -/
theorem decisionFor_ok {outcome : RiskOutcome} {reason : Option String} {reserved : ℚ}
    (h : decisionFor arith intent context newId hashOf outcome reason reserved = .ok decision) :
    decision.outcome = outcome ∧ decision.reservedRiskAmount = reserved ∧
      decision.approvedQuantity = approvedQuantity intent outcome := by
  unfold decisionFor at h
  obtain ⟨approved, -, rfl⟩ := exceptMap_ok.mp h
  exact ⟨rfl, rfl, rfl⟩

theorem not_rejected {reason : String}
    (h : decisionFor arith intent context newId hashOf .reject (some reason) 0 = .ok decision)
    (hpermits : permits decision.outcome = true) : False := by
  rw [(decisionFor_ok h).1] at hpermits
  cases hpermits

/-- An outcome that permits an order is returned while no blocker holds. A purchase is approved
within every limit as the arithmetic adds it up, and a sale is a reduction of what may be sold,
which reserves nothing. -/
theorem evaluate_sound (h : evaluate arith intent context newId hashOf = .ok decision)
    (hpermits : permits decision.outcome = true) :
    Unblocked arith intent context ∧ decision.approvedQuantity = intent.quantity.toRat ∧
      match intent.side with
      | .buy => decision.outcome = .approve ∧ Funded arith intent context decision.reservedRiskAmount
      | .sell => decision.outcome = .reduce ∧ Sellable intent context ∧ decision.reservedRiskAmount = 0 := by
  unfold evaluate at h
  cases hrejection : contextRejection arith intent context with
  | some reason =>
    rw [hrejection] at h
    exact (not_rejected h hpermits).elim
  | none =>
    rw [hrejection] at h
    have hunblocked := contextRejection_eq_none hrejection
    obtain ⟨paid, hpaid, h⟩ := bind_ok.mp h
    refine ⟨hunblocked, ?_⟩
    cases hside : intent.side with
    | sell =>
      rw [hside] at h
      dsimp only at h ⊢
      split at h
      · rename_i hsellable
        obtain ⟨houtcome, hreserved, hquantity⟩ := decisionFor_ok h
        refine ⟨hquantity, houtcome, ?_, hreserved⟩
        unfold sellable at hsellable
        cases hheld : heldPosition intent context with
        | none =>
          rw [hheld] at hsellable
          cases hsellable
        | some position =>
          rw [hheld] at hsellable
          exact ⟨position, hheld, of_decide_eq_true hsellable⟩
      · exact (not_rejected h hpermits).elim
    | buy =>
      rw [hside] at h
      dsimp only at h ⊢
      split at h
      · exact (not_rejected h hpermits).elim
      · rename_i hnone
        obtain ⟨houtcome, hreserved, hquantity⟩ := decisionFor_ok h
        refine ⟨hquantity, houtcome, ?_⟩
        rw [hreserved]
        exact purchaseRejection_eq_none hunblocked.anchored hpaid rfl hnone

end Decisions

/-! ### A purchase of ten billion -/

/-- A hundred thousand at a hundred thousand each. -/
def sampleIntent : OrderIntent where
  id := rowUuid 1
  origin := .strategy
  sourceId := rowUuid 2
  accountId := rowUuid 3
  instrumentId := rowUuid 4
  intentType := .entry
  side := .buy
  orderStyle := .limit
  quantity := Decimal.ofNat 100000
  limitPrice := some (Decimal.ofNat 100000)
  idempotencyKey := "entry"
  triggerPrice := none

def sampleAnchor (scopeType scopeKey : String) (positionRiskAmount : ℚ) : RiskBudgetAnchorView where
  scopeType := scopeType
  scopeKey := scopeKey
  currency := "KRW"
  positionRiskAmount := positionRiskAmount
  remainingReservationAmount := 0
  hardLimitAmount := 20000000000

def samplePolicy (maxPositionValue : ℚ) : RiskPolicySnapshot where
  policyVersionId := rowUuid 5
  active := true
  maxTotalRisk := 20000000000
  maxPositionValue := maxPositionValue
  maxDailyLoss := 0
  maxDrawdown := 0
  maxSlippageBps := 0
  maxAccountSnapshotAge := 0
  maxRiskSnapshotAge := 0
  maxMarketDataAge := 0

/-- An account with the positions, the amount at risk and the limit, and ten billion to spend. -/
def sampleContext (positions : List LockedPosition) (positionRiskAmount maxPositionValue : ℚ) : RiskContext where
  decisionAt := 0
  accountSnapshot := ⟨rowUuid 3, 10000000000, 10000000000, "KRW", 0⟩
  riskSnapshot := ⟨rowUuid 6, rowUuid 3, 0, some "KRW", 0, 0, 0, 0, 0⟩
  positions := positions
  budgetAnchors := [sampleAnchor "GLOBAL" "GLOBAL" positionRiskAmount,
    sampleAnchor "ACCOUNT" (String.ofList (rowUuid 3).str) positionRiskAmount]
  quote := ⟨rowUuid 4, 100000, 100000, "KRW", 0⟩
  activePolicy := samplePolicy maxPositionValue
  tradingControl := ⟨true⟩
  blockingIncidentCount := 0
  unresolvedUnknownCount := 0
  blockingReconciliationCount := 0
  positionHash := 0
  openOrderHash := 0

def noHash (_ : RiskOutcome) (_ : List String) (_ : ℚ) : Digest := 0

/-- The sample purchase is approved for ten billion. -/
def SampleApproved (context : RiskContext) : Prop :=
  ∃ decision, evaluate .decimal28 sampleIntent context (rowUuid 7) noHash = .ok decision ∧
    decision.outcome = .approve ∧ decision.reservedRiskAmount = 10000000000

theorem sampleApproved_of_evaluated {context : RiskContext}
    (h : (evaluate .decimal28 sampleIntent context (rowUuid 7) noHash).map
      (fun decision => (decision.outcome, decision.reservedRiskAmount)) = .ok (.approve, 10000000000)) :
    SampleApproved context := by
  cases hdecision : evaluate .decimal28 sampleIntent context (rowUuid 7) noHash with
  | error e =>
    rw [hdecision] at h
    cases h
  | ok decision =>
    rw [hdecision] at h
    obtain ⟨houtcome, hreserved⟩ := Prod.mk.inj (Except.ok.inj h)
    exact ⟨decision, hdecision, houtcome, hreserved⟩

theorem evaluate_sound_approved :
    ∃ reserved, Funded .decimal28 sampleIntent (sampleContext [] 0 10000000000) reserved := by
  obtain ⟨decision, hdecision, houtcome, -⟩ :
      SampleApproved (sampleContext [] 0 10000000000) := sampleApproved_of_evaluated (by decide +kernel)
  have hpermits : permits decision.outcome = true := by
    rw [houtcome]
    rfl
  exact ⟨_, (evaluate_sound hdecision hpermits).2.2.2⟩

/-- A short position makes room above the concentration limit, and a risk of twenty-nine digits is
rounded before it is compared. -/
theorem approval_exceeds_limits :
    (¬∀ (intent : OrderIntent) (context : RiskContext) (newId : UUID) (hashOf : RiskOutcome → List String → ℚ → Digest)
      (decision : RiskDecision), evaluate .decimal28 intent context newId hashOf = .ok decision →
      decision.outcome = .approve → decision.reservedRiskAmount ≤ context.activePolicy.maxPositionValue) ∧
    ¬∀ (intent : OrderIntent) (context : RiskContext) (newId : UUID) (hashOf : RiskOutcome → List String → ℚ → Digest)
      (decision : RiskDecision), evaluate .decimal28 intent context newId hashOf = .ok decision →
      decision.outcome = .approve → ∀ anchor ∈ context.budgetAnchors,
        anchor.positionRiskAmount + anchor.remainingReservationAmount + decision.reservedRiskAmount ≤
          min anchor.hardLimitAmount context.activePolicy.maxTotalRisk := by
  constructor
  · intro h
    obtain ⟨decision, hdecision, houtcome, hreserved⟩ :
        SampleApproved (sampleContext [⟨rowUuid 4, -100000, 0, 0⟩] 0 5000000000) :=
      sampleApproved_of_evaluated (by decide +kernel)
    have hle := h _ _ _ _ decision hdecision houtcome
    rw [hreserved] at hle
    norm_num [sampleContext, samplePolicy] at hle
  · intro h
    obtain ⟨decision, hdecision, houtcome, hreserved⟩ :
        SampleApproved (sampleContext [] (10000000000 + 1 / 10 ^ 18) 10000000000) :=
      sampleApproved_of_evaluated (by decide +kernel)
    have hle := h _ _ _ _ decision hdecision houtcome _ (List.mem_cons_self ..)
    rw [hreserved] at hle
    norm_num [sampleContext, sampleAnchor, samplePolicy] at hle

end AutoTrader.Risk
