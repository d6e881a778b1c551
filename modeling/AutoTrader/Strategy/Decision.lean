import AutoTrader.Strategy.RiskV6
import AutoTrader.Trader.EntryRisk

/-! The decision on a setup. It carries everything it was taken on, and a decision that
contradicts itself cannot be built. -/

namespace AutoTrader.Strategy

open AutoTrader.Domain AutoTrader.Execution AutoTrader.Ledger AutoTrader.Trader

/-- The fields of a decision, before they are checked. -/
structure V6DecisionFields extends V6DecisionTerms where
  strategyVersionId : UUID
  setupId : UUID
  featureSnapshotId : UUID
  instrumentId : UUID
  matchedIndicators : List MatchedIndicator
  sourceEvidenceHashes : List Digest
  exhaustionTimeframe : Option String

/-- `_require_uuid7`. -/
def requireUuid7 (id : UUID) (name : String) : Except PyError Unit :=
  if id.isVersion7 = true then .ok () else .error ⟨.valueError, name ++ " must be UUIDv7"⟩

/-- `_require_canonical_indicators`. -/
def requireCanonicalIndicators (indicators : List MatchedIndicator) : Except PyError Unit :=
  if ¬(indicators.map (·.key)).Pairwise (· ≤ ·) then .error ⟨.valueError, "matched indicator keys must be sorted"⟩
  else if ¬(indicators.map (·.key)).Nodup then .error ⟨.valueError, "matched indicator keys must be unique"⟩
  else .ok ()

/-- `_require_canonical_hashes`. -/
def requireCanonicalHashes (values : List Digest) : Except PyError Unit :=
  if values.isEmpty then .error ⟨.valueError, "source_evidence_hashes must be a non-empty tuple"⟩
  else if ¬values.Pairwise (fun a b => a.toNat ≤ b.toNat) then
    .error ⟨.valueError, "source_evidence_hashes must be sorted"⟩
  else if ¬values.Nodup then .error ⟨.valueError, "source_evidence_hashes must be unique"⟩
  else .ok ()

namespace V6DecisionFields

/-- `V6Decision.__post_init__`. -/
def postInit (d : V6DecisionFields) : Except PyError Unit := do
  requireUuid7 d.id "id"
  requireUuid7 d.strategyVersionId "strategy_version_id"
  requireUuid7 d.setupId "setup_id"
  requireUuid7 d.featureSnapshotId "feature_snapshot_id"
  requireUuid7 d.instrumentId "instrument_id"
  if d.family = .metodo ∧ d.market = .binanceUsdm then
    .error ⟨.valueError, "METODO is available only for cash markets"⟩
  else do
    requireCanonicalIndicators d.matchedIndicators
    d.requireBlockers
    requireCanonicalHashes d.sourceEvidenceHashes
    d.validateTerms

end V6DecisionFields

structure V6Decision extends V6DecisionFields where
  valid : toV6DecisionFields.postInit = .ok ()

/-- The constructor. -/
def V6Decision.create (d : V6DecisionFields) : Except PyError V6Decision :=
  match h : d.postInit with
  | .ok () => .ok ⟨d, h⟩
  | .error error => .error error

theorem V6Decision.create_ok {d : V6DecisionFields} {decision : V6Decision} (h : V6Decision.create d = .ok decision) :
    decision.toV6DecisionFields = d := by
  unfold V6Decision.create at h
  split at h
  · cases h
    rfl
  · cases h

theorem V6Decision.create_returns {d : V6DecisionFields} :
    (∃ decision, V6Decision.create d = .ok decision) ↔ d.postInit = .ok () := by
  constructor
  · rintro ⟨decision, h⟩
    rw [← V6Decision.create_ok h]
    exact decision.valid
  · intro h
    unfold V6Decision.create
    split
    · exact ⟨_, rfl⟩
    · rename_i herror
      rw [h] at herror
      cases herror

theorem requireUuid7_ok {id : UUID} {name : String} {u : Unit} :
    requireUuid7 id name = .ok u ↔ id.isVersion7 = true := by
  unfold requireUuid7
  split <;> simp [*]

theorem requireCanonicalIndicators_ok {indicators : List MatchedIndicator} {u : Unit} :
    requireCanonicalIndicators indicators = .ok u ↔
      (indicators.map (·.key)).Pairwise (· ≤ ·) ∧ (indicators.map (·.key)).Nodup := by
  unfold requireCanonicalIndicators
  split_ifs with hsorted hunique <;> simp_all

theorem requireCanonicalHashes_ok {values : List Digest} {u : Unit} :
    requireCanonicalHashes values = .ok u ↔
      values ≠ [] ∧ values.Pairwise (fun a b => a.toNat ≤ b.toNat) ∧ values.Nodup := by
  unfold requireCanonicalHashes
  split_ifs with hempty hsorted hunique <;> simp_all

/-! ### The terms -/

theorem requireBlockers_ok {d : V6DecisionTerms} {u : Unit} :
    d.requireBlockers = .ok u ↔
      (∀ code ∈ d.blockers, untrimmed code = false) ∧ d.blockers.Pairwise (· ≤ ·) ∧ d.blockers.Nodup := by
  unfold V6DecisionTerms.requireBlockers
  split_ifs with htrimmed hsorted hunique <;> simp_all

/-- What a rejected decision carries. -/
theorem validateRejected_ok {d : V6DecisionTerms} {u : Unit} :
    d.validateRejected = .ok u ↔
      d.blockers ≠ [] ∧ d.riskFraction = 0 ∧ d.calculatedQuantity = 0 ∧ d.plannedEntry = none ∧
        d.structuralStop = none ∧ d.targetPrice = none ∧ d.expectedCost = none := by
  unfold V6DecisionTerms.validateRejected
  dsimp only
  cases d.plannedEntry <;> cases d.structuralStop <;> cases d.targetPrice <;> cases d.expectedCost <;>
    split_ifs <;> simp_all

/-- The stop behind the entry and the target ahead of it. -/
def PricesOrdered (side : Side) (entry stop target : ℚ) : Prop :=
  match side with
  | .buy => stop < entry ∧ entry < target
  | .sell => target < entry ∧ entry < stop

/-- What a tradeable decision carries. -/
theorem tradeable_ok {d : V6DecisionTerms} {cost entry stop target : ℚ} {u : Unit}
    (hcost : d.expectedCost = some cost) (hentry : d.plannedEntry = some entry) (hstop : d.structuralStop = some stop)
    (htarget : d.targetPrice = some target) :
    d.validateTradeable = .ok u ↔
      d.blockers = [] ∧ 0 < d.riskFraction ∧ 0 < d.calculatedQuantity ∧ 0 ≤ cost ∧
        0 < entry ∧ 0 < stop ∧ 0 < target ∧ PricesOrdered d.side entry stop target := by
  unfold V6DecisionTerms.validateTradeable
  rw [hcost, hentry, hstop, htarget]
  simp only [Option.all_some, decide_eq_true_eq]
  by_cases hblockers : d.blockers = []
  swap
  · rw [if_pos (by simpa using hblockers)]
    exact iff_of_false (by simp) fun h => hblockers h.1
  rw [if_neg (by simp [hblockers])]
  by_cases hrisk : d.riskFraction ≤ 0
  · rw [if_pos hrisk]
    exact iff_of_false (by simp) fun h => absurd h.2.1 (not_lt.mpr hrisk)
  rw [if_neg hrisk]
  by_cases hquantity : d.calculatedQuantity ≤ 0
  · rw [if_pos hquantity]
    exact iff_of_false (by simp) fun h => absurd h.2.2.1 (not_lt.mpr hquantity)
  rw [if_neg hquantity]
  by_cases hnegative : cost < 0
  · rw [if_pos hnegative]
    exact iff_of_false (by simp) fun h => absurd h.2.2.2.1 (not_le.mpr hnegative)
  rw [if_neg hnegative]
  by_cases hprices : min (min entry stop) target ≤ 0
  · rw [if_pos hprices]
    refine iff_of_false (by simp) fun h => not_lt.mpr hprices ?_
    exact lt_min (lt_min h.2.2.2.2.1 h.2.2.2.2.2.1) h.2.2.2.2.2.2.1
  rw [if_neg hprices]
  have hpositive : (0 < entry ∧ 0 < stop) ∧ 0 < target := by
    rwa [not_le, lt_min_iff, lt_min_iff] at hprices
  unfold PricesOrdered
  have hterms : d.blockers = [] ∧ 0 < d.riskFraction ∧ 0 < d.calculatedQuantity ∧ 0 ≤ cost :=
    ⟨hblockers, not_le.mp hrisk, not_le.mp hquantity, not_lt.mp hnegative⟩
  cases d.side with
  | buy =>
    by_cases horder : stop < entry ∧ entry < target <;> simp [hterms, hpositive, horder]
  | sell =>
    by_cases horder : target < entry ∧ entry < stop <;> simp [hterms, hpositive, horder]

theorem validateTerms_ok {d : V6DecisionTerms} {u : Unit} :
    d.validateTerms = .ok u ↔
      (0 ≤ d.riskFraction ∧ d.riskFraction ≤ maximumRiskFraction) ∧ 0 ≤ d.calculatedQuantity ∧
        d.completedEvidenceAt ≤ d.generatedAt ∧ d.generatedAt < d.validUntil ∧
        (if d.grade = .reject then d.validateRejected else d.validateTradeable) = .ok u := by
  unfold V6DecisionTerms.validateTerms
  dsimp only
  by_cases hrisk : 0 ≤ d.riskFraction ∧ d.riskFraction ≤ maximumRiskFraction
  swap
  · rw [if_pos hrisk]
    exact iff_of_false (by simp) fun h => hrisk h.1
  rw [if_neg (not_not.mpr hrisk)]
  by_cases hquantity : d.calculatedQuantity < 0
  · rw [if_pos hquantity]
    exact iff_of_false (by simp) fun h => absurd h.2.1 (not_le.mpr hquantity)
  rw [if_neg hquantity]
  by_cases hlate : d.generatedAt < d.completedEvidenceAt
  · rw [if_pos hlate]
    exact iff_of_false (by simp) fun h => absurd h.2.2.1 (not_le.mpr hlate)
  rw [if_neg hlate]
  by_cases hexpired : d.validUntil ≤ d.generatedAt
  · rw [if_pos hexpired]
    exact iff_of_false (by simp) fun h => absurd h.2.2.2.1 (not_lt.mpr hexpired)
  rw [if_neg hexpired]
  have hterms : 0 ≤ d.calculatedQuantity ∧ d.completedEvidenceAt ≤ d.generatedAt ∧ d.generatedAt < d.validUntil :=
    ⟨not_lt.mp hquantity, not_lt.mp hlate, not_le.mp hexpired⟩
  cases d.grade <;> simp [hrisk, hterms]

theorem V6DecisionFields.postInit_ok {d : V6DecisionFields} {u : Unit} :
    d.postInit = .ok u ↔
      (d.id.isVersion7 = true ∧ d.strategyVersionId.isVersion7 = true ∧ d.setupId.isVersion7 = true ∧
        d.featureSnapshotId.isVersion7 = true ∧ d.instrumentId.isVersion7 = true) ∧
      ¬(d.family = .metodo ∧ d.market = .binanceUsdm) ∧
      requireCanonicalIndicators d.matchedIndicators = .ok () ∧ d.requireBlockers = .ok () ∧
      requireCanonicalHashes d.sourceEvidenceHashes = .ok () ∧ d.validateTerms = .ok () := by
  unfold V6DecisionFields.postInit
  simp only [bind_ok, requireUuid7_ok, exists_const]
  by_cases hcash : d.family = .metodo ∧ d.market = .binanceUsdm
  · simp [hcash]
  · rw [if_neg hcash]
    simp only [bind_ok, hcash]
    tauto

/-- A decision is one of the terms the trader works with. -/
def V6Decision.terms (decision : V6Decision) : Trader.V6Decision where
  toV6DecisionTerms := decision.toV6DecisionTerms
  valid := by
    obtain ⟨-, hcash, -, hblockers, -, hterms⟩ := V6DecisionFields.postInit_ok.mp decision.valid
    unfold V6DecisionTerms.postInit
    rw [if_neg hcash, hblockers]
    exact hterms

end AutoTrader.Strategy
