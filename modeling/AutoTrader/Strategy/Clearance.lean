import AutoTrader.Strategy.Engine

/-! What the blockers of the evidence say. None is left exactly when every required item is
supplied and nothing in it speaks against the side that is traded. -/

namespace AutoTrader.Strategy

open AutoTrader.Domain AutoTrader.Execution AutoTrader.Ledger AutoTrader.Trader

theorem mem_sortedKeys {required : List FactKey} {key : FactKey} : key ∈ sortedKeys required ↔ key ∈ required := by
  unfold sortedKeys
  rw [List.mem_filter, decide_eq_true_eq]
  exact ⟨fun h => h.2, fun h => ⟨FactKey.mem_inOrder key, h⟩⟩

theorem validValue_some {bundle : V6EvidenceBundle} {required : List FactKey} {key : FactKey} {value : FactValue} :
    validValue bundle required key = some value ↔
      (key ∈ required ∧ (bundle.item key).state = .available) ∧ (bundle.item key).value = some value ∧
        value.key = some key := by
  unfold validValue
  split
  · rename_i h
    rw [Option.filter_eq_some_iff, decide_eq_true_eq]
    exact ⟨fun hvalue => ⟨h, hvalue⟩, fun hvalue => hvalue.2⟩
  · rename_i h
    exact iff_of_false (by simp) fun hvalue => h hvalue.1

section Evidence

variable {bundle : V6EvidenceBundle} {required : List FactKey}

/-- Every required item is available and carries a fact of its type, whose own state is available
too. -/
def Supplied (bundle : V6EvidenceBundle) (required : List FactKey) : Prop :=
  ∀ key ∈ required, (bundle.item key).state = .available ∧
    ∃ value, (bundle.item key).value = some value ∧ value.key = some key ∧
      ∀ state, value.innerState = some state → state = .available

theorem Supplied.read (h : Supplied bundle required) {key : FactKey} (hkey : key ∈ required) :
    ∃ value, validValue bundle required key = some value ∧ (bundle.item key).value = some value ∧
      value.key = some key := by
  obtain ⟨hstate, value, hvalue, htype, -⟩ := h key hkey
  exact ⟨value, validValue_some.mpr ⟨⟨hkey, hstate⟩, hvalue, htype⟩, hvalue, htype⟩

theorem stateBlockers_nil :
    stateBlockers bundle required = [] ↔ ∀ key ∈ required, (bundle.item key).state = .available := by
  unfold stateBlockers
  simp only [List.flatMap_eq_nil_iff, blockIf_eq_nil, mem_sortedKeys, ne_eq, not_not]

theorem typeBlockers_nil :
    typeBlockers bundle required = [] ↔
      ∀ key ∈ required, (bundle.item key).state = .available → ∃ value, validValue bundle required key = some value := by
  unfold typeBlockers
  simp only [List.flatMap_eq_nil_iff, blockIf_eq_nil, mem_sortedKeys, not_and, ← ne_eq, Option.ne_none_iff_exists']

/-- Only the facts of the listed keys have a state of their own. -/
theorem mem_statefulKeys {value : FactValue} {key : FactKey} {state : EvidenceState} (htype : value.key = some key)
    (hstate : value.innerState = some state) : key ∈ statefulKeys := by
  cases value <;> cases hstate <;> cases htype <;> decide

theorem innerBlockers_nil :
    innerBlockers bundle required = [] ↔
      ∀ key value state, validValue bundle required key = some value → value.innerState = some state →
        state = .available := by
  unfold innerBlockers
  rw [List.flatMap_eq_nil_iff]
  constructor
  · intro h key value state hvalue hstate
    have hkey := h key (mem_statefulKeys (validValue_some.mp hvalue).2.2 hstate)
    rw [hvalue, Option.bind_some, hstate] at hkey
    exact not_not.mp (blockIf_eq_nil.mp hkey)
  · intro h key _
    cases hvalue : validValue bundle required key with
    | none => rfl
    | some value =>
      rw [Option.bind_some]
      cases hstate : value.innerState with
      | none => rfl
      | some state => exact blockIf_eq_nil.mpr (not_not.mpr (h key value state hvalue hstate))

/-- The blockers of the items themselves. -/
theorem supplied_iff :
    stateBlockers bundle required = [] ∧ typeBlockers bundle required = [] ∧ innerBlockers bundle required = [] ↔
      Supplied bundle required := by
  rw [stateBlockers_nil, typeBlockers_nil, innerBlockers_nil]
  constructor
  · rintro ⟨hstate, htype, hinner⟩ key hkey
    obtain ⟨value, hvalue⟩ := htype key hkey (hstate key hkey)
    obtain ⟨-, hitem, hkind⟩ := validValue_some.mp hvalue
    exact ⟨hstate key hkey, value, hitem, hkind, fun state hown => hinner key value state hvalue hown⟩
  · intro h
    refine ⟨fun key hkey => (h key hkey).1, fun key hkey _ => ?_, fun key value state hvalue hown => ?_⟩
    · obtain ⟨value, hvalue, -⟩ := h.read hkey
      exact ⟨value, hvalue⟩
    · obtain ⟨⟨hkey, -⟩, hitem, -⟩ := validValue_some.mp hvalue
      obtain ⟨-, found, hfound, -, havailable⟩ := h key hkey
      rw [hitem] at hfound
      cases hfound
      exact havailable state hown

/-- What the required facts say for an entry. A fact that is not required is not read. -/
structure Favourable (bundle : V6EvidenceBundle) (required : List FactKey) (side : Side) (entryPrice : ℚ) : Prop where
  universe_ : ∀ facts, validValue bundle required .universe = some (.universe facts) → facts.eligible = true
  regime : ∀ facts, validValue bundle required .regime = some (.regime facts) → facts.excluded = false
  calendar : ∀ facts, validValue bundle required .calendar = some (.calendar facts) → facts.blockNewExposure = false
  session : ∀ facts, validValue bundle required .session = some (.session facts) → facts.entryAllowed = true
  metodo : ∀ facts, validValue bundle required .metodo = some (.metodo facts) →
    facts.normalTechnicalConfirmation = true ∨
      (facts.trendUp = true ∧ facts.macdCrossUpBelowZero = true ∧ pessimismExtreme bundle required = true)
  divergence : ∀ facts, validValue bundle required .divergence = some (.divergence facts) →
    ∃ signal ∈ facts.regular, signal.kind = regularKind side
  zones : ∀ facts, validValue bundle required .zones = some (.zones facts) → facts.zones ≠ []
  exhaustion : ∀ facts, validValue bundle required .exhaustion = some (.exhaustion facts) →
    ∃ sequence, facts.sequence side = some sequence ∧ sequence.direction = side ∧ sequence.confirmed = true
  orderFlow : ∀ facts, validValue bundle required .orderFlow = some (.orderFlow facts) →
    ∃ clusters, facts.bigTrades = some clusters ∧ ∀ cluster ∈ clusters, cluster.opposes side entryPrice = false

theorem checkBlockers_nil :
    checkBlockers bundle required = [] ↔
      (∀ facts, validValue bundle required .universe = some (.universe facts) → facts.eligible = true) ∧
      (∀ facts, validValue bundle required .regime = some (.regime facts) → facts.excluded = false) ∧
      (∀ facts, validValue bundle required .calendar = some (.calendar facts) → facts.blockNewExposure = false) ∧
      ∀ facts, validValue bundle required .session = some (.session facts) → facts.entryAllowed = true := by
  unfold checkBlockers
  simp only [List.append_eq_nil_iff, and_assoc]
  refine and_congr ?_ (and_congr ?_ (and_congr ?_ ?_))
  · split <;> simp_all
  · split <;> simp_all
  · split <;> simp_all
  · split <;> simp_all

theorem metodoBlockers_nil :
    metodoBlockers bundle required = [] ↔
      ∀ facts, validValue bundle required .metodo = some (.metodo facts) →
        facts.normalTechnicalConfirmation = true ∨
          (facts.trendUp = true ∧ facts.macdCrossUpBelowZero = true ∧ pessimismExtreme bundle required = true) := by
  unfold metodoBlockers
  split
  · rename_i facts hvalue
    rw [blockIf_eq_nil, not_not, hvalue]
    simp only [Option.some.injEq, FactValue.metodo.injEq, forall_eq']
  · rename_i hnone
    simp_all

theorem divergenceBlockers_nil {side : Side} :
    divergenceBlockers bundle required side = [] ↔
      ∀ facts, validValue bundle required .divergence = some (.divergence facts) →
        ∃ signal ∈ facts.regular, signal.kind = regularKind side := by
  unfold divergenceBlockers
  split <;> simp_all

theorem zoneBlockers_nil :
    zoneBlockers bundle required = [] ↔
      ∀ facts, validValue bundle required .zones = some (.zones facts) → facts.zones ≠ [] := by
  unfold zoneBlockers
  split <;> simp_all

theorem exhaustionBlockers_nil {side : Side} :
    exhaustionBlockers bundle required side = [] ↔
      ∀ facts, validValue bundle required .exhaustion = some (.exhaustion facts) →
        ∃ sequence, facts.sequence side = some sequence ∧ sequence.direction = side ∧ sequence.confirmed = true := by
  unfold exhaustionBlockers
  split
  · rename_i facts hvalue
    cases hsequence : facts.sequence side with
    | none => simp [hvalue, hsequence]
    | some sequence =>
      by_cases hside : sequence.direction = side <;> simp [hvalue, hsequence, hside]
  · rename_i hnone
    simp_all

/-- The tape is read at a price that is positive, so it always gets an answer. -/
theorem orderFlowBlockers_ok (bundle : V6EvidenceBundle) (required : List FactKey) (side : Side) {entryPrice : ℚ}
    (hentry : 0 < entryPrice) :
    ∃ codes, orderFlowBlockers bundle required side entryPrice = .ok codes ∧ Trimmed codes ∧
      (codes = [] ↔ ∀ facts, validValue bundle required .orderFlow = some (.orderFlow facts) →
        ∃ clusters, facts.bigTrades = some clusters ∧ ∀ cluster ∈ clusters, cluster.opposes side entryPrice = false) := by
  unfold orderFlowBlockers
  split
  · rename_i facts hvalue
    unfold blockingBigTradeAhead
    rw [if_neg (not_le.mpr hentry)]
    cases hclusters : facts.bigTrades with
    | none =>
      refine ⟨_, rfl, .single (by decide), ?_⟩
      simp [hvalue, hclusters]
    | some clusters =>
      refine ⟨_, rfl, .blockIf (by decide), ?_⟩
      simp [hvalue, hclusters]
  · rename_i hnone
    exact ⟨[], rfl, .nil, by simp_all⟩

/-! ### Their texts -/

theorem FactKey.upper_trimmed (key : FactKey) : untrimmed key.upper = false := by
  cases key <;> decide

theorem EvidenceState.value_trimmed (state : EvidenceState) : untrimmed state.value = false := by
  cases state <;> decide

theorem stateBlockers_trimmed (bundle : V6EvidenceBundle) (required : List FactKey) :
    Trimmed (stateBlockers bundle required) := by
  refine .flatMap fun key _ => .blockIf ?_
  cases hcode : (bundle.item key).blockerCode with
  | none => exact untrimmed_append (untrimmed_append key.upper_trimmed (by decide)) (EvidenceState.value_trimmed _)
  | some code => exact singleLine_trimmed ((bundle.item key).code_text code hcode)

theorem typeBlockers_trimmed (bundle : V6EvidenceBundle) (required : List FactKey) :
    Trimmed (typeBlockers bundle required) :=
  .flatMap fun key _ => .blockIf (untrimmed_append key.upper_trimmed (by decide))

theorem innerBlockers_trimmed (bundle : V6EvidenceBundle) (required : List FactKey) :
    Trimmed (innerBlockers bundle required) := by
  refine .flatMap fun key _ => ?_
  split
  · exact .nil
  · exact .blockIf (untrimmed_append (untrimmed_append key.upper_trimmed (by decide)) (EvidenceState.value_trimmed _))

theorem checkBlockers_trimmed (bundle : V6EvidenceBundle) (required : List FactKey) :
    Trimmed (checkBlockers bundle required) := by
  refine .append (.append (.append ?_ ?_) ?_) ?_
  · split
    · exact .blockIf (by decide)
    · exact .nil
  · split
    · exact .blockIf (by decide)
    · exact .nil
  · split
    · exact .blockIf (by decide)
    · exact .nil
  · split
    · exact .blockIf (by decide)
    · exact .nil

/-- The blockers of one method or the other. -/
theorem methodBlockers_trimmed (bundle : V6EvidenceBundle) (required : List FactKey) (side : Side) :
    Trimmed (metodoBlockers bundle required) ∧ Trimmed (divergenceBlockers bundle required side) ∧
      Trimmed (zoneBlockers bundle required) ∧ Trimmed (exhaustionBlockers bundle required side) := by
  refine ⟨?_, ?_, ?_, ?_⟩
  · unfold metodoBlockers
    split
    · exact .blockIf (by decide)
    · exact .nil
  · unfold divergenceBlockers
    split
    · exact .blockIf (by decide)
    · exact .nil
  · unfold zoneBlockers
    split
    · exact .blockIf (by decide)
    · exact .nil
  · unfold exhaustionBlockers
    split
    · split
      · exact .single (by decide)
      · split
        · exact .single (by decide)
        · exact .blockIf (by decide)
    · exact .nil

theorem semanticBlockers_ok (bundle : V6EvidenceBundle) (required : List FactKey) (side : Side) {entryPrice : ℚ}
    (hentry : 0 < entryPrice) :
    ∃ codes, semanticBlockers bundle required side entryPrice = .ok codes ∧ Trimmed codes ∧
      (codes = [] ↔ (typeBlockers bundle required = [] ∧ innerBlockers bundle required = []) ∧
        Favourable bundle required side entryPrice) := by
  obtain ⟨orderFlow, hok, htrimmed, hnil⟩ := orderFlowBlockers_ok bundle required side hentry
  unfold semanticBlockers
  rw [hok]
  refine ⟨_, rfl, ?_, ?_⟩
  · obtain ⟨hmetodo, hdivergence, hzones, hexhaustion⟩ := methodBlockers_trimmed bundle required side
    exact .append (.append (.append (.append (.append (.append (.append (typeBlockers_trimmed bundle required)
      (innerBlockers_trimmed bundle required)) (checkBlockers_trimmed bundle required)) hmetodo) hdivergence) hzones)
      hexhaustion) htrimmed
  · simp only [List.append_eq_nil_iff, checkBlockers_nil, metodoBlockers_nil, divergenceBlockers_nil, zoneBlockers_nil,
      exhaustionBlockers_nil, hnil]
    constructor
    · rintro ⟨⟨⟨⟨⟨⟨hitems, huniverse, hregime, hcalendar, hsession⟩, hmetodo⟩, hdivergence⟩, hzones⟩, hexhaustion⟩, hflow⟩
      exact ⟨hitems, huniverse, hregime, hcalendar, hsession, hmetodo, hdivergence, hzones, hexhaustion, hflow⟩
    · rintro ⟨hitems, h⟩
      exact ⟨⟨⟨⟨⟨⟨hitems, h.universe_, h.regime, h.calendar, h.session⟩, h.metodo⟩, h.divergence⟩, h.zones⟩,
        h.exhaustion⟩, h.orderFlow⟩

end Evidence

/-! ### All of it -/

/-- The venue takes the trade. -/
structure VenueTakes (bundle : V6EvidenceBundle) (context : V6RiskContext) : Prop where
  market : context.riskRequest.market = bundle.market
  family : ¬(context.family = .metodo ∧ bundle.market = .binanceUsdm)
  spot : bundle.market ∈ spotOnlyMarkets → context.riskRequest.side ≠ .sell

/-- Every indicator is backed by the bundle, and one of them names the direction. -/
structure Backed (bundle : V6EvidenceBundle) (context : V6RiskContext) : Prop where
  indicators : ∀ indicator ∈ context.matchedIndicators, indicator.evidenceHash ∈ provenanceHashes bundle
  direction : ∃ indicator ∈ context.matchedIndicators, indicator.key = directionCode context.riskRequest.side

/-- The evidence speaks for the trade. -/
structure EvidenceClear (bundle : V6EvidenceBundle) (context : V6RiskContext) : Prop where
  venue : VenueTakes bundle context
  supplied : Supplied bundle (requiredKeys bundle.market context.family)
  favourable : Favourable bundle (requiredKeys bundle.market context.family) context.riskRequest.side
    context.riskRequest.entryPrice
  backed : Backed bundle context

theorem venueBlockers_nil {bundle : V6EvidenceBundle} {context : V6RiskContext} :
    venueBlockers bundle context = [] ↔ VenueTakes bundle context := by
  unfold venueBlockers
  simp only [List.append_eq_nil_iff, blockIf_eq_nil, ne_eq, not_not]
  constructor
  · rintro ⟨⟨hmarket, hfamily⟩, hspot⟩
    exact ⟨hmarket, hfamily, fun hmember hsell => hspot ⟨hmember, hsell⟩⟩
  · intro h
    exact ⟨⟨h.market, h.family⟩, fun hspot => h.spot hspot.1 hspot.2⟩

theorem unbackedBlockers_nil {bundle : V6EvidenceBundle} {context : V6RiskContext} :
    unbackedBlockers bundle context = [] ↔
      ∀ indicator ∈ context.matchedIndicators, indicator.evidenceHash ∈ provenanceHashes bundle := by
  unfold unbackedBlockers
  simp [List.filter_eq_nil_iff]

theorem unbackedBlockers_trimmed (bundle : V6EvidenceBundle) (context : V6RiskContext) :
    Trimmed (unbackedBlockers bundle context) := by
  intro code hcode
  obtain ⟨indicator, -, rfl⟩ := List.mem_map.mp hcode
  exact untrimmed_append (by decide) indicator.trimmed

theorem mem_backedIndicators {bundle : V6EvidenceBundle} {context : V6RiskContext} {indicator : MatchedIndicator} :
    indicator ∈ backedIndicators bundle context ↔
      indicator ∈ context.matchedIndicators ∧ indicator.evidenceHash ∈ provenanceHashes bundle := by
  unfold backedIndicators
  rw [List.mem_filter, decide_eq_true_eq]

theorem evidenceBlockers_ok (bundle : V6EvidenceBundle) (context : V6RiskContext) :
    ∃ codes, evidenceBlockers bundle context = .ok codes ∧ Trimmed codes ∧
      (codes = [] ↔ EvidenceClear bundle context) := by
  obtain ⟨semantic, hok, htrimmed, hnil⟩ := semanticBlockers_ok bundle
    (requiredKeys bundle.market context.family) context.riskRequest.side context.riskRequest.entry_pos
  unfold evidenceBlockers
  dsimp only
  rw [hok]
  refine ⟨_, rfl, ?_, ?_⟩
  · have hvenue : Trimmed (venueBlockers bundle context) :=
      .append (.append (.blockIf (by decide)) (.blockIf (by decide))) (.blockIf (by decide))
    exact .append (.append (.append (.append hvenue (stateBlockers_trimmed _ _)) htrimmed)
      (unbackedBlockers_trimmed bundle context)) (.blockIf (by decide))
  · simp only [List.append_eq_nil_iff, venueBlockers_nil, hnil, unbackedBlockers_nil, blockIf_eq_nil, not_not,
      List.mem_map, mem_backedIndicators]
    constructor
    · rintro ⟨⟨⟨⟨hvenue, hstate⟩, ⟨htype, hinner⟩, hfavourable⟩, hbacked⟩, indicator, ⟨hindicator, -⟩, hkey⟩
      exact ⟨hvenue, supplied_iff.mp ⟨hstate, htype, hinner⟩, hfavourable, hbacked, indicator, hindicator, hkey⟩
    · rintro ⟨hvenue, hsupplied, hfavourable, hbacked, indicator, hindicator, hkey⟩
      obtain ⟨hstate, htype, hinner⟩ := supplied_iff.mpr hsupplied
      exact ⟨⟨⟨⟨hvenue, hstate⟩, ⟨htype, hinner⟩, hfavourable⟩, hbacked⟩, indicator,
        ⟨hindicator, hbacked indicator hindicator⟩, hkey⟩

end AutoTrader.Strategy
