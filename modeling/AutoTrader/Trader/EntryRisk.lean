import AutoTrader.Ledger.OrderFillRuns
import AutoTrader.Trader.Markets

/-! What an entry reserves and what its fills take. The composition reserves a fraction of the
quantity; the ledger charges price times quantity, and for a sale nothing. -/

namespace AutoTrader.Trader

open AutoTrader.Domain AutoTrader.Execution AutoTrader.Ledger AutoTrader.Numeric AutoTrader.Runtime

/-- The terms of a decision, before they are checked. -/
structure V6DecisionTerms where
  id : UUID
  market : V6Market
  family : StrategyFamily
  grade : SetupGrade
  side : Side
  orderStyle : OrderStyle
  blockers : List String
  plannedEntry : Option ℚ
  structuralStop : Option ℚ
  targetPrice : Option ℚ
  riskFraction : ℚ
  calculatedQuantity : ℚ
  expectedCost : Option ℚ
  completedEvidenceAt : Instant
  generatedAt : Instant
  validUntil : Instant

/-- `_MAXIMUM_RISK_FRACTION`. -/
def maximumRiskFraction : ℚ := 75 / 10000

namespace V6DecisionTerms

/-- `_validate_rejected`. -/
def validateRejected (d : V6DecisionTerms) : Except PyError Unit :=
  let invalid := fun message => Except.error (PyError.mk .valueError message)
  if d.blockers.isEmpty then invalid "REJECT decision requires a blocker"
  else if d.riskFraction ≠ 0 then invalid "REJECT decision requires zero risk"
  else if d.calculatedQuantity ≠ 0 then invalid "REJECT decision requires zero quantity"
  else if d.plannedEntry.isSome || d.structuralStop.isSome || d.targetPrice.isSome || d.expectedCost.isSome then
    invalid "REJECT decision cannot carry order terms"
  else .ok ()

/-- `_validate_tradeable`. -/
def validateTradeable (d : V6DecisionTerms) : Except PyError Unit :=
  let invalid := fun message => Except.error (PyError.mk .valueError message)
  if !d.blockers.isEmpty then invalid "tradeable decision cannot carry blockers"
  else if d.riskFraction ≤ 0 then invalid "tradeable decision requires positive risk"
  else if d.calculatedQuantity ≤ 0 then invalid "tradeable decision requires positive quantity"
  else if d.expectedCost.all (· < 0) then invalid "tradeable decision requires non-negative expected cost"
  else match d.plannedEntry, d.structuralStop, d.targetPrice with
    | some entry, some stop, some target =>
      if min (min entry stop) target ≤ 0 then invalid "tradeable decision prices must be positive"
      else match d.side with
        | .buy =>
          if stop < entry ∧ entry < target then .ok ()
          else invalid "BUY decision requires stop below entry below target"
        | .sell =>
          if target < entry ∧ entry < stop then .ok ()
          else invalid "SELL decision requires target below entry below stop"
    | _, _, _ => invalid "tradeable decision prices must be positive"

/-- `_require_sorted_unique_text` of the blockers. -/
def requireBlockers (d : V6DecisionTerms) : Except PyError Unit :=
  if d.blockers.any untrimmed then .error ⟨.typeError, "blockers must contain non-empty strings"⟩
  else if ¬d.blockers.Pairwise (· ≤ ·) then .error ⟨.valueError, "blockers must be sorted"⟩
  else if ¬d.blockers.Nodup then .error ⟨.valueError, "blockers must be unique"⟩
  else .ok ()

/-- The amounts, the times, and what the grade asks for. -/
def validateTerms (d : V6DecisionTerms) : Except PyError Unit :=
  let invalid := fun message => Except.error (PyError.mk .valueError message)
  if ¬(0 ≤ d.riskFraction ∧ d.riskFraction ≤ maximumRiskFraction) then
    invalid "risk fraction exceeds the absolute ceiling"
  else if d.calculatedQuantity < 0 then invalid "calculated quantity must be non-negative"
  else if d.generatedAt < d.completedEvidenceAt then invalid "completed evidence cannot be later than generation"
  else if d.validUntil ≤ d.generatedAt then invalid "valid_until must be after generated_at"
  else match d.grade with
    | .reject => d.validateRejected
    | .normal | .aCandidate | .a => d.validateTradeable

/-- What `V6Decision.__post_init__` checks of the terms. -/
def postInit (d : V6DecisionTerms) : Except PyError Unit :=
  if d.family = .metodo ∧ d.market = .binanceUsdm then
    .error ⟨.valueError, "METODO is available only for cash markets"⟩
  else do
    d.requireBlockers
    d.validateTerms

end V6DecisionTerms

structure V6Decision extends V6DecisionTerms where
  valid : toV6DecisionTerms.postInit = .ok ()

/-- `_risk_decision`. -/
def riskDecision (arith : Arithmetic) (decision : V6Decision) (id intentId : UUID) (currency : String) :
    PersistedRiskDecision where
  id := id
  orderIntentId := intentId
  outcome := .approve
  requestedQuantity := decision.calculatedQuantity
  approvedQuantity := decision.calculatedQuantity
  reservedRiskAmount := arith.fix (decision.riskFraction * decision.calculatedQuantity)
  currency := currency
  -- the sixteen bytes of the decision, twice
  decisionHash := BitVec.ofNat 256 (decision.id.int * 2 ^ 128 + decision.id.int)

/-- `_reservation`. -/
def reservation (decision : PersistedRiskDecision) (accountId : UUID) : PersistedRiskReservation where
  riskDecisionId := decision.id
  orderIntentId := decision.orderIntentId
  accountId := accountId
  currency := none
  settlementAsset := none
  initialRiskAmount := decision.reservedRiskAmount
  consumedRiskAmount := 0
  remainingRiskAmount := decision.reservedRiskAmount
  releasedRiskAmount := 0
  status := .active
  releaseReason := none

theorem V6DecisionTerms.validateTradeable_ok {d : V6DecisionTerms} (h : d.validateTradeable = .ok ()) :
    0 < d.riskFraction ∧ 0 < d.calculatedQuantity := by
  unfold validateTradeable at h
  dsimp only at h
  split at h
  · cases h
  split at h
  · cases h
  rename_i hrisk
  split at h
  · cases h
  rename_i hquantity
  exact ⟨not_le.mp hrisk, not_le.mp hquantity⟩

/-- A decision that may be traded has a positive risk and a positive quantity. -/
theorem V6Decision.tradeable {decision : V6Decision} (h : decision.grade ≠ .reject) :
    0 < decision.riskFraction ∧ decision.riskFraction ≤ maximumRiskFraction ∧ 0 < decision.calculatedQuantity := by
  have hvalid := decision.valid
  unfold V6DecisionTerms.postInit at hvalid
  split at hvalid
  · cases hvalid
  obtain ⟨_, -, hterms⟩ := bind_ok.mp hvalid
  unfold V6DecisionTerms.validateTerms at hterms
  dsimp only at hterms
  split at hterms
  · cases hterms
  rename_i hceiling
  rw [not_not] at hceiling
  split at hterms
  · cases hterms
  split at hterms
  · cases hterms
  split at hterms
  · cases hterms
  have hok : decision.validateTradeable = .ok () := by
    split at hterms
    · rename_i hgrade
      exact absurd hgrade h
    · exact hterms
    · exact hterms
    · exact hterms
  obtain ⟨hrisk, hquantity⟩ := V6DecisionTerms.validateTradeable_ok hok
  exact ⟨hrisk, hceiling.2, hquantity⟩

/-! ### The entry and its fills -/

/-- The order of a decision before its first fill: its reservation is the one of its decision,
nothing is held, and the order can take executions. -/
structure EntryOrder (t : Tables) (decision : V6Decision) (order : Ledger.PersistedOrder) (currency : String) : Prop where
  ready : Ready t order currency
  side : order.side = decision.side
  unfilled : order.filledQuantity = 0
  requested : order.requestedQuantity = decision.calculatedQuantity
  flat : t.book.held order.accountId order.instrumentId = 0
  reserved : ∃ id intentId, t.reservation? order.riskDecisionId =
    some { reservation (riskDecision .decimal28 decision id intentId currency) order.accountId with
      currency := some currency }

/-- No price is worse than the one the entry was planned at. -/
def NoWorse (decision : V6Decision) (fills : List BrokerExecutionEvent) : Prop :=
  ∀ entry, decision.plannedEntry = some entry → ∀ event ∈ fills,
    match decision.side with
    | .buy => event.price ≤ entry
    | .sell => entry ≤ event.price

/-- No fill was reported to exceed the reservation, and the reservation is consumed. -/
structure EntryCovered (t after : Tables) (order : Ledger.PersistedOrder) : Prop where
  silent : ¬Reports (after.incidents.drop t.incidents.length) "FILL_RISK_EXCEEDS_RESERVATION"
  consumed : ∃ r, after.reservation? order.riskDecisionId = some r ∧ 0 < r.consumedRiskAmount

/-- What the fills of an entry cost. -/
def entryCost (fills : List BrokerExecutionEvent) : ℚ :=
  (fills.map fun event => event.price * event.quantity).sum

theorem openedRisks_bought {held : ℚ} {fills : List BrokerExecutionEvent} (hheld : 0 ≤ held)
    (hbuy : ∀ event ∈ fills, event.side = .buy) : (openedRisks held fills).sum = entryCost fills := by
  induction fills generalizing held with
  | nil => rfl
  | cons event fills ih =>
    have hside := hbuy event List.mem_cons_self
    have hopened : openedAmount event.side held event.quantity = event.quantity := by
      rw [hside]
      exact if_pos hheld
    have hnext : 0 ≤ exactNext held event.side event.quantity := by
      rw [hside]
      exact add_nonneg hheld event.terms.1.le
    have hrest := ih hnext fun other hother => hbuy other (List.mem_cons_of_mem event hother)
    unfold entryCost at hrest ⊢
    rw [openedRisks, List.sum_cons, List.map_cons, List.sum_cons, hopened, hrest]

/-- A sale opens no risk. -/
theorem openedRisks_sold {held : ℚ} {fills : List BrokerExecutionEvent} (hsell : ∀ event ∈ fills, event.side = .sell) :
    (openedRisks held fills).sum = 0 := by
  induction fills generalizing held with
  | nil => rfl
  | cons event fills ih =>
    have hopened : openedAmount event.side held event.quantity = 0 := by
      rw [hsell event List.mem_cons_self]
      rfl
    rw [openedRisks, List.sum_cons, hopened, mul_zero, zero_add]
    exact ih fun other hother => hsell other (List.mem_cons_of_mem event hother)

/-- The fills of an entry keep within its reservation and consume it exactly when it is bought
and costs no more than was reserved. -/
theorem entryCovered_iff (hashes : AdoptionHashes) (t : Tables) (decision : V6Decision)
    (htradeable : decision.grade ≠ .reject) (order : Ledger.PersistedOrder) (currency : String)
    (hentry : EntryOrder t decision order currency) (fills : List BrokerExecutionEvent)
    (hfills : FillsOf t order currency fills)
    (hsplit : (fills.map (·.quantity)).sum = decision.calculatedQuantity)
    (hfits : RunMeets (step .decimal28 hashes) FillFits t (fills.map .fill)) :
    EntryCovered t (runFrom (step .decimal28 hashes) t (fills.map .fill)) order ↔
      decision.side = .buy ∧
        entryCost fills ≤ Arithmetic.decimal28.fix (decision.riskFraction * decision.calculatedQuantity) := by
  obtain ⟨-, later, new, hrun, -⟩ := fills_run hentry.ready hfills hfits
  obtain ⟨id, intentId, hreserved⟩ := hentry.reserved
  obtain ⟨r, hr, hdrained, hexceeds, -⟩ := hrun.reserved _ hreserved
  generalize runFrom (step .decimal28 hashes) t (fills.map .fill) = after at hrun hr ⊢
  set reserved := Arithmetic.decimal28.fix (decision.riskFraction * decision.calculatedQuantity) with hamount
  have hpool : PersistedRiskReservation.pool
      { reservation (riskDecision .decimal28 decision id intentId currency) order.accountId with
        currency := some currency } = reserved := zero_add reserved
  have hconsumed : r.consumedRiskAmount = min (openedRisks 0 fills).sum reserved := by
    rw [hdrained.consumed, hpool, hentry.flat]
    exact zero_add _
  have hnew : after.incidents.drop t.incidents.length = new := by
    rw [hrun.incidents, List.drop_left]
  have hcovered : EntryCovered t after order ↔ (openedRisks 0 fills).sum ≤ reserved ∧ 0 < r.consumedRiskAmount := by
    rw [hpool, hentry.flat] at hexceeds
    constructor
    · rintro ⟨hsilent, r', hr', hpos⟩
      rw [hnew, hexceeds, not_lt] at hsilent
      rw [hr, Option.some.injEq] at hr'
      exact ⟨hsilent, hr' ▸ hpos⟩
    · rintro ⟨hle, hpos⟩
      refine ⟨?_, r, hr, hpos⟩
      rw [hnew, hexceeds]
      exact not_lt.mpr hle
  rw [hcovered, hconsumed]
  have hside : ∀ event ∈ fills, event.side = decision.side := by
    intro event hevent
    rw [← hentry.side, (hfills.belong event hevent).side]
  cases hdecision : decision.side with
  | sell =>
    rw [hdecision] at hside
    rw [openedRisks_sold hside]
    refine iff_of_false ?_ (by simp)
    rintro ⟨-, hpos⟩
    exact absurd (lt_of_lt_of_le hpos (min_le_left _ _)) (lt_irrefl _)
  | buy =>
    rw [hdecision] at hside
    rw [openedRisks_bought le_rfl hside]
    have hcost : 0 < entryCost fills := by
      have hquantity := (V6Decision.tradeable htradeable).2.2
      cases fills with
      | nil =>
        rw [← hsplit] at hquantity
        exact absurd hquantity (lt_irrefl _)
      | cons event fills =>
        have hfirst : 0 < event.price * event.quantity := mul_pos event.terms.2 event.terms.1
        have hrest : 0 ≤ entryCost fills := by
          refine List.sum_nonneg fun cost hcost => ?_
          obtain ⟨other, -, rfl⟩ := List.mem_map.mp hcost
          exact (mul_pos other.terms.2 other.terms.1).le
        unfold entryCost at hrest ⊢
        rw [List.map_cons, List.sum_cons]
        exact add_pos_of_pos_of_nonneg hfirst hrest
    constructor
    · rintro ⟨hle, -⟩
      exact ⟨rfl, hle⟩
    · rintro ⟨-, hle⟩
      exact ⟨hle, lt_min hcost (lt_of_lt_of_le hcost hle)⟩

/-- A long entry planned at a price, with its stop and its target below and above. -/
private def planned (entry stop target fraction quantity : ℚ) : V6DecisionTerms where
  id := rowUuid 20
  market := .binanceUsdm
  family := .hlit
  grade := .a
  side := .buy
  orderStyle := .market
  blockers := []
  plannedEntry := some entry
  structuralStop := some stop
  targetPrice := some target
  riskFraction := fraction
  calculatedQuantity := quantity
  expectedCost := some 0
  completedEvidenceAt := 0
  generatedAt := 0
  validUntil := 1

private def pricedFill (quantity price : ℚ) (h : 0 < quantity ∧ 0 < price) : BrokerExecutionEvent :=
  { sampleFill (rowUuid 3) "1" .buy quantity h.1 with price := price, terms := h }

private theorem tenCheap_pos : (0 : ℚ) < 10 ∧ (0 : ℚ) < 1 / 200 := by norm_num

/-- Ten at half a cent cost less than three quarters of a percent of ten. -/
theorem entryCovered_iff_cheap :
    EntryCovered (sampleReserved (sampleOrder .buy 10) (3 / 40))
      (runFrom (step .decimal28 noHashes) (sampleReserved (sampleOrder .buy 10) (3 / 40))
        [.fill (pricedFill 10 (1 / 200) tenCheap_pos)]) (sampleOrder .buy 10) := by
  have hten : OnGrid 28 (-18) 10 := by exact_mod_cast onGrid_natCast (n := 10) (by norm_num)
  have hprice : OnGrid 28 (-18) (1 / 200) := ⟨5 * 10 ^ 15, by norm_num, by norm_num⟩
  have hrisk : OnGrid 28 (-18) (1 / 20) := ⟨5 * 10 ^ 16, by norm_num, by norm_num⟩
  have hopened : openedRisk (sampleReserved (sampleOrder .buy 10) (3 / 40)) (pricedFill 10 (1 / 200) tenCheap_pos) =
      1 / 20 := by decide +kernel
  refine (entryCovered_iff noHashes (sampleReserved (sampleOrder .buy 10) (3 / 40))
    ⟨planned (1 / 200) (1 / 250) (1 / 100) (3 / 400) 10, by decide +kernel⟩ (by decide) (sampleOrder .buy 10) "USD"
    ⟨sampleReserved_ready ⟨75 * 10 ^ 15, by norm_num, by norm_num⟩ (by norm_num), rfl, rfl, rfl, rfl, rowUuid 5,
      rowUuid 6, by decide +kernel⟩
    [pricedFill 10 (1 / 200) tenCheap_pos] ⟨?_, ?_, by decide⟩ (by decide +kernel)
    ⟨⟨fun _ => ⟨hten, hprice, ?_, ?_, ?_⟩, ?_⟩, trivial⟩).mpr ⟨rfl, by decide +kernel⟩
  · intro event hevent
    rw [List.mem_singleton.mp hevent]
    exact ⟨rfl, rfl, rfl, rfl, rfl, by decide⟩
  · intro event hevent
    rw [List.mem_singleton.mp hevent]
    rfl
  · show OnGrid 28 (-18) (0 + 10)
    rw [zero_add]
    exact hten
  · rw [hopened]
    exact hrisk
  · intro a ha _
    have hzero : a.positionRiskAmount = 0 := by
      revert a
      decide
    rw [hzero, zero_add, hopened]
    exact hrisk
  · intro order horder
    rw [← Option.some.inj horder]
    show OnGrid 28 (-18) (0 + 10)
    rw [zero_add]
    exact hten

/-- One at ninety-nine, planned at a hundred, exceeds half a percent of one. -/
theorem entryCovered_fails_bought :
    ¬∀ (t : Tables) (decision : V6Decision) (order : Ledger.PersistedOrder) (currency : String)
        (fills : List BrokerExecutionEvent), decision.grade ≠ .reject → EntryOrder t decision order currency →
      FillsOf t order currency fills → (fills.map (·.quantity)).sum = decision.calculatedQuantity →
      NoWorse decision fills →
        EntryCovered t (runFrom (step .decimal28 noHashes) t (fills.map .fill)) order := by
  intro h
  have hsilent := (h (sampleReserved (sampleOrder .buy 1) (1 / 200))
    ⟨planned 100 95 110 (1 / 200) 1, by decide +kernel⟩ (sampleOrder .buy 1) "USD"
    [pricedFill 1 99 (by norm_num)] (by decide)
    ⟨sampleReserved_ready ⟨5 * 10 ^ 15, by norm_num, by norm_num⟩ (by norm_num), rfl, rfl, rfl, rfl, rowUuid 5,
      rowUuid 6, by decide +kernel⟩ ⟨?_, ?_, by decide⟩ (by decide +kernel) ?_).silent
  · revert hsilent
    decide +kernel
  · intro event hevent
    rw [List.mem_singleton.mp hevent]
    exact ⟨rfl, rfl, rfl, rfl, rfl, by decide⟩
  · intro event hevent
    rw [List.mem_singleton.mp hevent]
    rfl
  · intro entry hentry event hevent
    rw [List.mem_singleton.mp hevent, ← Option.some.inj hentry]
    show (99 : ℚ) ≤ 100
    norm_num

end AutoTrader.Trader
