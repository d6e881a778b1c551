import AutoTrader.Strategy.Totality

/-! A decision that may be traded is evidenced: what its method requires is in the bundle, none of
it speaks against the side, and the risk was allowed at its quantity and its stop. -/

namespace AutoTrader.Strategy

open AutoTrader.Domain AutoTrader.Execution AutoTrader.Ledger AutoTrader.Trader

/-- What stands behind a decision. Only the HLIT family reads an exhaustion, and only on the
futures market does it read the tape. -/
structure FullyEvidenced (arith : Arithmetic) (bundle : V6EvidenceBundle) (context : V6RiskContext)
    (decision : V6Decision) : Prop where
  required : Supplied bundle (requiredKeys decision.market decision.family)
  direction : ∃ indicator ∈ decision.matchedIndicators, indicator.key = directionCode decision.side
  backed : ∀ indicator ∈ decision.matchedIndicators, indicator.evidenceHash ∈ provenanceHashes bundle
  exhaustion : decision.family = .hlit → ∃ facts sequence, bundle.exhaustion.value = some (.exhaustion facts) ∧
    facts.sequence decision.side = some sequence ∧ sequence.direction = decision.side ∧ sequence.confirmed = true
  tape : decision.family = .hlit → decision.market = .binanceUsdm → ∃ facts clusters entry,
    bundle.orderFlow.value = some (.orderFlow facts) ∧ facts.bigTrades = some clusters ∧
      decision.plannedEntry = some entry ∧ ∀ cluster ∈ clusters, cluster.opposes decision.side entry = false
  news : ∃ facts, bundle.calendar.value = some (.calendar facts) ∧ facts.blockNewExposure = false
  session : ∃ facts, bundle.session.value = some (.session facts) ∧ facts.entryAllowed = true
  regime : ∃ facts, bundle.regime.value = some (.regime facts) ∧ facts.excluded = false
  spot : decision.market ∈ spotOnlyMarkets → decision.side ≠ .sell
  risk : ∃ request authority,
    context.riskRequest.regraded decision.grade (sessionSizeMultiplier bundle) = .ok request ∧
      evaluateV6Risk arith request context.policy = .ok authority ∧ authority.allowed = true ∧
      decision.calculatedQuantity = authority.quantity ∧ decision.structuralStop = some authority.stopPrice

section Required

variable {bundle : V6EvidenceBundle} {required : List FactKey}

/-! The facts of a required item, by the type it has. -/

theorem supplied_calendar (h : Supplied bundle required) (hkey : FactKey.calendar ∈ required) :
    ∃ facts, validValue bundle required .calendar = some (.calendar facts) ∧
      bundle.calendar.value = some (.calendar facts) := by
  obtain ⟨value, hvalid, hvalue, htype⟩ := h.read hkey
  cases value <;> cases htype
  exact ⟨_, hvalid, hvalue⟩

theorem supplied_session (h : Supplied bundle required) (hkey : FactKey.session ∈ required) :
    ∃ facts, validValue bundle required .session = some (.session facts) ∧
      bundle.session.value = some (.session facts) := by
  obtain ⟨value, hvalid, hvalue, htype⟩ := h.read hkey
  cases value <;> cases htype
  exact ⟨_, hvalid, hvalue⟩

theorem supplied_regime (h : Supplied bundle required) (hkey : FactKey.regime ∈ required) :
    ∃ facts, validValue bundle required .regime = some (.regime facts) ∧
      bundle.regime.value = some (.regime facts) := by
  obtain ⟨value, hvalid, hvalue, htype⟩ := h.read hkey
  cases value <;> cases htype
  exact ⟨_, hvalid, hvalue⟩

theorem supplied_exhaustion (h : Supplied bundle required) (hkey : FactKey.exhaustion ∈ required) :
    ∃ facts, validValue bundle required .exhaustion = some (.exhaustion facts) ∧
      bundle.exhaustion.value = some (.exhaustion facts) := by
  obtain ⟨value, hvalid, hvalue, htype⟩ := h.read hkey
  cases value <;> cases htype
  exact ⟨_, hvalid, hvalue⟩

theorem supplied_orderFlow (h : Supplied bundle required) (hkey : FactKey.orderFlow ∈ required) :
    ∃ facts, validValue bundle required .orderFlow = some (.orderFlow facts) ∧
      bundle.orderFlow.value = some (.orderFlow facts) := by
  obtain ⟨value, hvalid, hvalue, htype⟩ := h.read hkey
  cases value <;> cases htype
  exact ⟨_, hvalid, hvalue⟩

end Required

theorem required_common (market : V6Market) (family : StrategyFamily) {key : FactKey}
    (h : key ∈ [FactKey.regime, .calendar, .session, .costs]) : key ∈ requiredKeys market family :=
  List.mem_append_left _ h

theorem required_exhaustion (market : V6Market) : FactKey.exhaustion ∈ requiredKeys market .hlit := by
  cases market <;> decide

/-- What an evaluation that returned a tradeable decision went through. -/
theorem evaluateV6_cleared {arith : Arithmetic} {bundle : V6EvidenceBundle} {manifest : V6Manifest}
    {context : V6RiskContext} {decision : V6Decision} (h : evaluateV6 arith bundle manifest context = .ok decision)
    (htradeable : decision.grade ≠ .reject) :
    ∃ grade request authority, Cleared arith bundle context grade request ∧
      evaluateV6Risk arith request context.policy = .ok authority ∧
      decision.toV6DecisionFields = decisionFields arith bundle manifest context grade authority [] := by
  have hmultiplier : 0 < sessionSizeMultiplier bundle ∧ sessionSizeMultiplier bundle ≤ 1 := by
    unfold evaluateV6 at h
    obtain ⟨_, -, h⟩ := bind_ok.mp h
    obtain ⟨_, -, h⟩ := bind_ok.mp h
    obtain ⟨request, hrequest, -⟩ := bind_ok.mp h
    exact (regraded_ok.mp hrequest).1
  obtain ⟨grade, authority, codes, hevaluated⟩ := evaluateV6_evaluated arith manifest context hmultiplier
  rw [hevaluated.create] at h
  have hfields := V6Decision.create_ok h
  have hcodes : codes = [] := by
    by_contra hne
    refine htradeable ?_
    have hblocked : canonical codes ≠ [] := fun hnil => hne (canonical_eq_nil.mp hnil)
    rw [hfields]
    simp [decisionFields, hblocked]
  obtain ⟨request, hcleared, hauthority⟩ := hevaluated.cleared hcodes
  rw [hcodes, canonical_eq_nil.mpr rfl] at hfields
  exact ⟨grade, request, authority, hcleared, hauthority, hfields⟩

/-- A tradeable decision is fully evidenced. -/
theorem evaluateV6_fully_evidenced (arith : Arithmetic) (bundle : V6EvidenceBundle) (manifest : V6Manifest)
    (context : V6RiskContext) (decision : V6Decision) (h : evaluateV6 arith bundle manifest context = .ok decision)
    (htradeable : decision.grade ≠ .reject) : FullyEvidenced arith bundle context decision := by
  obtain ⟨grade, request, authority, hcleared, hauthority, hfields⟩ := evaluateV6_cleared h htradeable
  have hne := hcleared.grade_ne
  have hmarket : decision.market = bundle.market := by rw [hfields]; rfl
  have hfamily : decision.family = context.family := by rw [hfields]; rfl
  have hside : decision.side = context.riskRequest.side := by rw [hfields]; rfl
  have hgrade : decision.grade = grade := by rw [hfields]; rfl
  have hindicators : decision.matchedIndicators = sortedIndicators bundle context := by rw [hfields]; rfl
  have hentry : decision.plannedEntry = some context.riskRequest.entryPrice := by
    rw [hfields]
    simp [decisionFields, hne]
  have hmem : ∀ indicator, indicator ∈ decision.matchedIndicators ↔
      indicator ∈ context.matchedIndicators ∧ indicator.evidenceHash ∈ provenanceHashes bundle := by
    intro indicator
    rw [hindicators, sortedIndicators, List.mem_insertionSort, mem_backedIndicators]
  have hsupplied := hcleared.evidence.supplied
  have hfavourable := hcleared.evidence.favourable
  have hcommon : ∀ {key : FactKey}, key ∈ [FactKey.regime, .calendar, .session, .costs] →
      key ∈ requiredKeys bundle.market context.family := fun h => required_common _ _ h
  constructor
  · rw [hmarket, hfamily]
    exact hsupplied
  · obtain ⟨indicator, hindicator, hkey⟩ := hcleared.evidence.backed.direction
    rw [hside]
    exact ⟨indicator, (hmem indicator).mpr ⟨hindicator, hcleared.evidence.backed.indicators indicator hindicator⟩, hkey⟩
  · exact fun indicator hindicator => ((hmem indicator).mp hindicator).2
  · intro hhlit
    rw [hfamily] at hhlit
    rw [hside]
    have hrequired : FactKey.exhaustion ∈ requiredKeys bundle.market context.family := by
      rw [hhlit]
      exact required_exhaustion bundle.market
    obtain ⟨facts, hvalid, hvalue⟩ := supplied_exhaustion hsupplied hrequired
    obtain ⟨sequence, hsequence⟩ := hfavourable.exhaustion facts hvalid
    exact ⟨facts, sequence, hvalue, hsequence⟩
  · intro hhlit hfutures
    rw [hfamily] at hhlit
    rw [hmarket] at hfutures
    rw [hside]
    have hrequired : FactKey.orderFlow ∈ requiredKeys bundle.market context.family := by
      rw [hhlit, hfutures]
      decide
    obtain ⟨facts, hvalid, hvalue⟩ := supplied_orderFlow hsupplied hrequired
    obtain ⟨clusters, hclusters, hahead⟩ := hfavourable.orderFlow facts hvalid
    exact ⟨facts, clusters, context.riskRequest.entryPrice, hvalue, hclusters, hentry, hahead⟩
  · obtain ⟨facts, hvalid, hvalue⟩ := supplied_calendar hsupplied (hcommon (by decide))
    exact ⟨facts, hvalue, hfavourable.calendar facts hvalid⟩
  · obtain ⟨facts, hvalid, hvalue⟩ := supplied_session hsupplied (hcommon (by decide))
    exact ⟨facts, hvalue, hfavourable.session facts hvalid⟩
  · obtain ⟨facts, hvalid, hvalue⟩ := supplied_regime hsupplied (hcommon (by decide))
    exact ⟨facts, hvalue, hfavourable.regime facts hvalid⟩
  · rw [hmarket, hside]
    exact hcleared.evidence.venue.spot
  · obtain ⟨hsizedMarket, -, -⟩ := regraded_keeps hcleared.sized arith
    obtain ⟨found, hfound, -, hallowed, -⟩ :=
      evaluateV6Risk_ok arith (context.same_market.trans hsizedMarket.symm)
    rw [hauthority] at hfound
    cases hfound
    refine ⟨request, authority, ?_, hauthority, hallowed.mpr hcleared.risk, ?_, ?_⟩
    · rw [hgrade]
      exact hcleared.sized
    · rw [hfields]
      simp [decisionFields, hne]
    · rw [hfields]
      simp [decisionFields, hne]

/-! ### Two trades of a cash account -/

def sampleItem (value : FactValue) : EvidenceItem FactValue := .of value (sampleProvenance 0 1)

/-- A bundle of a cash market with the facts both methods read. -/
def cashBundle (metodo zones divergence exhaustion orderFlow : EvidenceItem FactValue) : V6EvidenceBundle where
  market := .krxCash
  instrumentId := sampleId 3
  decisionAt := 0
  bars _ := none
  universe_ := sampleItem (.universe ⟨true⟩)
  regime := sampleItem (.regime ⟨.available, some .trendUp, none, none, none, false⟩)
  metodo := metodo
  zones := zones
  divergence := divergence
  exhaustion := exhaustion
  orderFlow := orderFlow
  profile := absent
  calendar := sampleItem (.calendar ⟨.available, false, false, [], none, 0⟩)
  session := sampleItem (.session ⟨.available, true, false, 1⟩)
  costs := sampleItem (.costs ⟨.available⟩)
  exhaustionTimeframe := none
  version := sampleId_three
  scales := no_scales
  completed := no_bars

/-- Método with its confirmation, and no exhaustion anywhere. -/
def metodoBundle : V6EvidenceBundle :=
  cashBundle (sampleItem (.metodo ⟨true, false, true, false, false, false, true, false⟩)) absent absent absent absent

theorem sampleZone : (97 : ℚ) ≤ 99 ∧ 1 = min 1 5 ∧ [(0 : Instant)].length = 1 ∧
    [(0 : Instant)].Pairwise (· < ·) := by
  norm_num

theorem sampleZone_single : 1 ≤ 1 := le_rfl

theorem samplePivot : (0 : ℚ) < 98 := by norm_num

def lowPivot : Pivot := ⟨0, 0, .low, 98, 0, true, le_rfl, samplePivot⟩

/-- A seller above the entry. -/
def sellerAhead : BigTradeCluster := ⟨.sell, 0, 0, 105, 105, 1, 105, .normal⟩

/-- HLIT with its divergence, its zone and its exhaustion, and a seller on the tape. -/
def hlitBundle : V6EvidenceBundle :=
  cashBundle absent
    (sampleItem (.zones ⟨0, "UTC", [0], 1, [⟨97, 99, 1, 1, [0], sampleZone.1, sampleZone_single, sampleZone.2.1,
      sampleZone.2.2.1, sampleZone.2.2.2⟩], sampleZone_single⟩))
    (sampleItem (.divergence ⟨some 0, [⟨.regularBullish, lowPivot, lowPivot, 0, 0⟩], []⟩))
    (sampleItem (.exhaustion ⟨some 0, some ⟨.buy, true, false, [lowPivot], [lowPivot], 98, 0⟩, none⟩))
    (sampleItem (.orderFlow ⟨.available, 1, 0, 0, 105, some (-105), some [sellerAhead], none, none, none, none, true⟩))

/-- The sample purchase under the other family. -/
def hlitContext : V6RiskContext := { sampleContext with family := .hlit }

theorem decision_of_grade {result : Except PyError V6Decision} {grade : SetupGrade}
    (h : result.toOption.map (fun decision => decision.grade) = some grade) :
    ∃ decision, result = .ok decision ∧ decision.grade = grade := by
  cases result with
  | error error => cases h
  | ok decision => exact ⟨decision, rfl, Option.some.inj h⟩

theorem metodo_grade : (evaluateV6 .decimal28 metodoBundle sampleManifest sampleContext).toOption.map
    (fun decision => decision.grade) = some .normal := by
  decide +kernel

theorem hlit_grade : (evaluateV6 .decimal28 hlitBundle sampleManifest hlitContext).toOption.map
    (fun decision => decision.grade) = some .normal := by
  decide +kernel

/-- The Método purchase is tradeable and fully evidenced. -/
theorem evaluateV6_fully_evidenced_metodo :
    ∃ decision, FullyEvidenced .decimal28 metodoBundle sampleContext decision := by
  obtain ⟨decision, hdecision, hgrade⟩ := decision_of_grade metodo_grade
  have htradeable : decision.grade ≠ .reject := by
    rw [hgrade]
    decide
  exact ⟨decision, evaluateV6_fully_evidenced .decimal28 metodoBundle sampleManifest sampleContext decision hdecision
    htradeable⟩

/-- A Método purchase is tradeable without an exhaustion, and an HLIT purchase on a cash market
with an opposing big trade ahead of it. -/
theorem tradeable_unexhausted_and_opposed :
    (∃ decision, evaluateV6 .decimal28 metodoBundle sampleManifest sampleContext = .ok decision ∧
      decision.grade ≠ .reject ∧ metodoBundle.exhaustion.value = none) ∧
    ∃ decision facts, evaluateV6 .decimal28 hlitBundle sampleManifest hlitContext = .ok decision ∧
      decision.grade ≠ .reject ∧ hlitBundle.orderFlow.value = some (.orderFlow facts) ∧
      blockingBigTradeAhead facts hlitContext.riskRequest.side hlitContext.riskRequest.entryPrice = .ok true := by
  obtain ⟨metodo, hmetodo, hnormal⟩ := decision_of_grade metodo_grade
  obtain ⟨hlit, hhlit, hgrade⟩ := decision_of_grade hlit_grade
  refine ⟨⟨metodo, hmetodo, ?_, rfl⟩, hlit, _, hhlit, ?_, rfl, ?_⟩
  · rw [hnormal]
    decide
  · rw [hgrade]
    decide
  · decide +kernel

end AutoTrader.Strategy
