import AutoTrader.Strategy.Clearance

/-! When the evaluation returns a decision. The constructor of the decision checks relations that
no blocker stands for; the evaluation raises where one of them fails. -/

namespace AutoTrader.Strategy

open AutoTrader.Domain AutoTrader.Execution AutoTrader.Ledger AutoTrader.Trader

theorem regraded_ok {request sized : V6RiskRequest} {grade : SetupGrade} {multiplier : ℚ} :
    request.regraded grade multiplier = .ok sized ↔
      ∃ h : 0 < multiplier ∧ multiplier ≤ 1,
        sized = { request with grade := grade, sizeMultiplier := multiplier, multiplier_range := h } := by
  unfold V6RiskRequest.regraded
  split
  · rename_i h
    exact ⟨fun hok => ⟨h, (Except.ok.inj hok).symm⟩, fun ⟨_, hsized⟩ => by rw [hsized]⟩
  · rename_i h
    exact iff_of_false (by simp) fun ⟨hrange, _⟩ => h hrange

/-- The grade and the multiplier do not move the stop. -/
theorem regraded_keeps {request sized : V6RiskRequest} {grade : SetupGrade} {multiplier : ℚ}
    (h : request.regraded grade multiplier = .ok sized) (arith : Arithmetic) :
    sized.market = request.market ∧ sized.grade = grade ∧ stopPrice arith sized = stopPrice arith request := by
  obtain ⟨_, rfl⟩ := regraded_ok.mp h
  exact ⟨rfl, rfl, rfl⟩

/-- Nothing stands against the trade: not the evidence, not the grade, not the risk of the
request as it is sized. -/
structure Cleared (arith : Arithmetic) (bundle : V6EvidenceBundle) (context : V6RiskContext) (grade : SetupGrade)
    (request : V6RiskRequest) : Prop where
  evidence : EvidenceClear bundle context
  graded : ∃ graded, setupGrade bundle context = .ok graded ∧ graded ≠ .reject ∧
    grade = marketGrade bundle.market graded
  sized : context.riskRequest.regraded grade (sessionSizeMultiplier bundle) = .ok request
  risk : RiskAllows arith request context.policy

theorem marketGrade_reject {market : V6Market} {grade : SetupGrade} :
    marketGrade market grade = .reject ↔ grade = .reject := by
  unfold marketGrade
  split
  · rename_i h
    simp [h.2]
  · rfl

theorem Cleared.grade_ne {arith : Arithmetic} {bundle : V6EvidenceBundle} {context : V6RiskContext}
    {grade : SetupGrade} {request : V6RiskRequest} (h : Cleared arith bundle context grade request) :
    grade ≠ .reject := by
  obtain ⟨graded, -, hgraded, rfl⟩ := h.graded
  exact fun hreject => hgraded (marketGrade_reject.mp hreject)

theorem setupGrade_ok (bundle : V6EvidenceBundle) (context : V6RiskContext) :
    ∃ graded, setupGrade bundle context = .ok graded :=
  gradeSetup_ok _ context.codes_trimmed _

/-- The decision that is built, and what its blockers say. -/
structure Evaluated (arith : Arithmetic) (bundle : V6EvidenceBundle) (manifest : V6Manifest) (context : V6RiskContext)
    (grade : SetupGrade) (authority : V6RiskAuthority) (codes : List String) : Prop where
  create : evaluateV6 arith bundle manifest context =
    V6Decision.create (decisionFields arith bundle manifest context grade authority (canonical codes))
  trimmed : Trimmed codes
  cleared : codes = [] → ∃ request, Cleared arith bundle context grade request ∧
    evaluateV6Risk arith request context.policy = .ok authority
  complete : ∀ grade request, Cleared arith bundle context grade request → codes = []

theorem evaluateV6_evaluated (arith : Arithmetic) {bundle : V6EvidenceBundle} (manifest : V6Manifest)
    (context : V6RiskContext) (h : 0 < sessionSizeMultiplier bundle ∧ sessionSizeMultiplier bundle ≤ 1) :
    ∃ grade authority codes, Evaluated arith bundle manifest context grade authority codes := by
  obtain ⟨evidence, hevidence, htrimmed, hclear⟩ := evidenceBlockers_ok bundle context
  obtain ⟨graded, hgraded⟩ := setupGrade_ok bundle context
  set blockers := evidence ++ blockIf (graded = .reject) "CONTRADICTORY_DIRECTION_EVIDENCE" with hblockers
  set preliminary := if blockers.isEmpty then marketGrade bundle.market graded else .reject with hpreliminary
  obtain ⟨request, hrequest⟩ : ∃ request,
      context.riskRequest.regraded preliminary (sessionSizeMultiplier bundle) = .ok request :=
    ⟨_, regraded_ok.mpr ⟨h, rfl⟩⟩
  obtain ⟨hmarket, hgrade, -⟩ := regraded_keeps hrequest arith
  obtain ⟨authority, hauthority, hcodes, -⟩ :=
    evaluateV6Risk_ok arith (context.same_market.trans hmarket.symm)
  refine ⟨marketGrade bundle.market graded, authority, blockers ++ authority.blockerCodes, ?_, ?_, ?_, ?_⟩
  · unfold evaluateV6
    rw [hevidence, hgraded]
    simp only [ok_bind]
    rw [← hblockers, ← hpreliminary, hrequest]
    simp only [ok_bind]
    rw [hauthority]
    rfl
  · rw [hcodes]
    exact (htrimmed.append (.blockIf (by decide))).append (riskBlockers_trimmed arith request context.policy).canonical
  · intro hnone
    obtain ⟨hempty, hrisk⟩ := List.append_eq_nil_iff.mp hnone
    obtain ⟨hnoEvidence, hnoReject⟩ := List.append_eq_nil_iff.mp hempty
    rw [hcodes, canonical_eq_nil, riskBlockers_nil] at hrisk
    have hkeep : preliminary = marketGrade bundle.market graded := if_pos (List.isEmpty_iff.mpr hempty)
    rw [hkeep] at hrequest
    exact ⟨request, ⟨hclear.mp hnoEvidence, ⟨graded, hgraded, blockIf_eq_nil.mp hnoReject, rfl⟩, hrequest, hrisk⟩,
      hauthority⟩
  · rintro grade cleared hcleared
    obtain ⟨found, hfound, hne, rfl⟩ := hcleared.graded
    rw [hgraded] at hfound
    cases hfound
    have hempty : blockers = [] :=
      List.append_eq_nil_iff.mpr ⟨hclear.mpr hcleared.evidence, blockIf_eq_nil.mpr hne⟩
    have hkeep : preliminary = marketGrade bundle.market graded := if_pos (List.isEmpty_iff.mpr hempty)
    have hsame := hcleared.sized
    rw [← hkeep, hrequest] at hsame
    cases hsame
    rw [hempty, hcodes, List.nil_append, canonical_eq_nil, riskBlockers_nil]
    exact hcleared.risk

/-! ### What the constructor checks -/

instance : Std.Total fun a b : MatchedIndicator => a.key ≤ b.key := ⟨fun a b => le_total a.key b.key⟩

instance : IsTrans MatchedIndicator fun a b => a.key ≤ b.key := ⟨fun _ _ _ hab hbc => le_trans hab hbc⟩

instance : Std.Total fun a b : Digest => a.toNat ≤ b.toNat := ⟨fun a b => le_total a.toNat b.toNat⟩

instance : IsTrans Digest fun a b => a.toNat ≤ b.toNat := ⟨fun _ _ _ hab hbc => le_trans hab hbc⟩

/-- The indicators are sorted; two of one key stay two. -/
theorem sortedIndicators_canonical {bundle : V6EvidenceBundle} {context : V6RiskContext} :
    requireCanonicalIndicators (sortedIndicators bundle context) = .ok () ↔
      ((backedIndicators bundle context).map (·.key)).Nodup := by
  have hperm : (sortedIndicators bundle context).Perm (backedIndicators bundle context) := List.perm_insertionSort _ _
  have hsorted : ((sortedIndicators bundle context).map (·.key)).Pairwise (· ≤ ·) :=
    List.pairwise_map.mpr (List.pairwise_insertionSort (fun a b : MatchedIndicator => a.key ≤ b.key) _)
  rw [requireCanonicalIndicators_ok, (hperm.map _).nodup_iff]
  exact ⟨fun h => h.2, fun h => ⟨hsorted, h⟩⟩

theorem sourceHashes_canonical (manifest : V6Manifest) (bundle : V6EvidenceBundle) :
    requireCanonicalHashes (sourceHashes manifest bundle) = .ok () := by
  rw [requireCanonicalHashes_ok]
  refine ⟨?_, List.pairwise_insertionSort (fun a b : Digest => a.toNat ≤ b.toNat) _, ?_⟩
  · have hmem : manifest.sourceSha256 ∈ sourceHashes manifest bundle := by
      unfold sourceHashes
      rw [List.mem_insertionSort, List.mem_dedup]
      exact List.mem_append_left _ List.mem_cons_self
    exact List.ne_nil_of_mem hmem
  · exact (List.perm_insertionSort _ _).nodup_iff.mpr (List.nodup_dedup _)

/-- Evidence is complete by the decision when none of it was observed later. -/
theorem completedAt_le {bundle : V6EvidenceBundle} :
    completedAt bundle ≤ bundle.decisionAt ↔
      ∀ provenance ∈ provenances bundle, provenance.observedAt ≤ bundle.decisionAt := by
  unfold completedAt
  cases hmax : ((provenances bundle).map (·.observedAt)).max? with
  | none =>
    have hnil : provenances bundle = [] := by simpa using hmax
    simp [hnil]
  | some latest =>
    rw [Option.getD_some, List.max?_le_iff hmax]
    simp

/-- What the constructor asks of the terms that no blocker stands for. -/
structure DecisionFits (arith : Arithmetic) (bundle : V6EvidenceBundle) (context : V6RiskContext) : Prop where
  family : ¬(context.family = .metodo ∧ bundle.market = .binanceUsdm)
  multiplier : 0 < sessionSizeMultiplier bundle ∧ sessionSizeMultiplier bundle ≤ 1
  keys : ((backedIndicators bundle context).map (·.key)).Nodup
  timely : ∀ provenance ∈ provenances bundle, provenance.observedAt ≤ bundle.decisionAt
  lasting : bundle.decisionAt < context.validUntil
  terms : ∀ grade request, Cleared arith bundle context grade request →
    (gradeFraction context.policy grade).1 ≤ maximumRiskFraction ∧
      PricesOrdered context.riskRequest.side context.riskRequest.entryPrice (stopPrice arith context.riskRequest)
        context.targetPrice

section Fields

variable {arith : Arithmetic} {bundle : V6EvidenceBundle} {manifest : V6Manifest} {context : V6RiskContext}
  {grade : SetupGrade} {authority : V6RiskAuthority}

/-- A decision with a blocker carries no terms, and none are asked of it. -/
theorem blocked_terms {blockers : List String} (h : blockers ≠ []) :
    (decisionFields arith bundle manifest context grade authority blockers).validateTerms = .ok () ↔
      completedAt bundle ≤ bundle.decisionAt ∧ bundle.decisionAt < context.validUntil := by
  have hempty : blockers.isEmpty = false := by simpa using h
  rw [validateTerms_ok]
  have hrejected : (decisionFields arith bundle manifest context grade authority blockers).validateRejected = .ok () := by
    rw [validateRejected_ok]
    simp [decisionFields, h]
  have hreject : (decisionFields arith bundle manifest context grade authority blockers).grade = .reject := by
    simp [decisionFields, h]
  rw [if_pos hreject, hrejected]
  simp [decisionFields, hempty, maximumRiskFraction]
  norm_num

/-- A trade nothing stands against is asked for its fraction and its prices. -/
theorem cleared_terms {request : V6RiskRequest} (hcleared : Cleared arith bundle context grade request)
    (hauthority : evaluateV6Risk arith request context.policy = .ok authority) :
    (decisionFields arith bundle manifest context grade authority []).validateTerms = .ok () ↔
      completedAt bundle ≤ bundle.decisionAt ∧ bundle.decisionAt < context.validUntil ∧
        (gradeFraction context.policy grade).1 ≤ maximumRiskFraction ∧
        PricesOrdered context.riskRequest.side context.riskRequest.entryPrice (stopPrice arith context.riskRequest)
          context.targetPrice := by
  obtain ⟨hmarket, hgrade, hstop⟩ := regraded_keeps hcleared.sized arith
  obtain ⟨found, hfound, -, -, hfraction, hstopPrice, hquantity⟩ :=
    evaluateV6Risk_ok arith (context.same_market.trans hmarket.symm)
  rw [hauthority] at hfound
  cases hfound
  rw [hgrade] at hfraction
  rw [hstop] at hstopPrice
  have hne := hcleared.grade_ne
  have hpositive : 0 < authority.riskFraction := by
    have hallowed := hcleared.risk.fraction
    rw [hgrade] at hallowed
    rw [hfraction]
    exact gradeFraction_pos.mp hallowed
  have hsized : 0 < authority.quantity := by
    rw [hquantity hcleared.risk]
    exact hcleared.risk.quantity
  have hstopPos : 0 < authority.stopPrice := by
    rw [hstopPrice, ← hstop]
    exact hcleared.risk.stop
  have hcost : 0 ≤ arith.fix (context.riskRequest.costPerUnit * authority.quantity) :=
    not_lt.mp fun h => absurd ((arith.fix_neg _).mp h)
      (not_lt.mpr (mul_nonneg context.riskRequest.cost_nonneg hsized.le))
  have hkeep : (decisionFields arith bundle manifest context grade authority []).grade ≠ .reject := hne
  rw [validateTerms_ok, if_neg hkeep]
  have hentry : (decisionFields arith bundle manifest context grade authority []).plannedEntry =
      some context.riskRequest.entryPrice := by simp [decisionFields, hne]
  have hplaced : (decisionFields arith bundle manifest context grade authority []).structuralStop =
      some authority.stopPrice := by simp [decisionFields, hne]
  have htarget : (decisionFields arith bundle manifest context grade authority []).targetPrice =
      some context.targetPrice := by simp [decisionFields, hne]
  have hexpected : (decisionFields arith bundle manifest context grade authority []).expectedCost =
      some (arith.fix (context.riskRequest.costPerUnit * authority.quantity)) := by simp [decisionFields, hne]
  rw [tradeable_ok hexpected hentry hplaced htarget, ← hfraction, ← hstopPrice]
  simp only [decisionFields, List.isEmpty_nil, Bool.true_and, hne, ne_eq, not_false_eq_true, decide_true, if_true]
  constructor
  · rintro ⟨⟨-, hmax⟩, -, htime, hlasting, -, -, -, -, -, -, -, horder⟩
    exact ⟨htime, hlasting, hmax, horder⟩
  · rintro ⟨htime, hlasting, hmax, horder⟩
    exact ⟨⟨hpositive.le, hmax⟩, hsized.le, htime, hlasting, trivial, hpositive, hsized, hcost,
      context.riskRequest.entry_pos, hstopPos, context.target_pos, horder⟩

/-- The checks that do not concern the terms. -/
theorem decisionFields_postInit {codes : List String} (htrimmed : Trimmed codes) :
    (decisionFields arith bundle manifest context grade authority (canonical codes)).postInit = .ok () ↔
      ¬(context.family = .metodo ∧ bundle.market = .binanceUsdm) ∧
        ((backedIndicators bundle context).map (·.key)).Nodup ∧
        (decisionFields arith bundle manifest context grade authority (canonical codes)).validateTerms = .ok () := by
  rw [V6DecisionFields.postInit_ok]
  have hids : context.decisionId.isVersion7 = true ∧ manifest.strategyVersionId.isVersion7 = true ∧
      context.setupId.isVersion7 = true ∧ context.featureSnapshotId.isVersion7 = true ∧
      bundle.instrumentId.isVersion7 = true :=
    ⟨context.decision_version, manifest.strategy_version, context.setup_version, context.snapshot_version, bundle.version⟩
  have hblockers : (decisionFields arith bundle manifest context grade authority (canonical codes)).requireBlockers =
      .ok () :=
    requireBlockers_ok.mpr ⟨htrimmed.canonical, canonical_sorted codes, canonical_nodup codes⟩
  constructor
  · rintro ⟨-, hfamily, hkeys, -, -, hterms⟩
    exact ⟨hfamily, sortedIndicators_canonical.mp hkeys, hterms⟩
  · rintro ⟨hfamily, hkeys, hterms⟩
    exact ⟨hids, hfamily, sortedIndicators_canonical.mpr hkeys, hblockers, sourceHashes_canonical manifest bundle, hterms⟩

end Fields

/-- The evaluation returns a decision exactly when the relations hold that the constructor checks
and no blocker stands for. -/
theorem evaluateV6_returns_iff (arith : Arithmetic) (bundle : V6EvidenceBundle) (manifest : V6Manifest)
    (context : V6RiskContext) :
    (∃ decision, evaluateV6 arith bundle manifest context = .ok decision) ↔ DecisionFits arith bundle context := by
  by_cases hmultiplier : 0 < sessionSizeMultiplier bundle ∧ sessionSizeMultiplier bundle ≤ 1
  swap
  · refine iff_of_false ?_ fun h => hmultiplier h.multiplier
    rintro ⟨decision, h⟩
    unfold evaluateV6 at h
    obtain ⟨_, -, h⟩ := bind_ok.mp h
    obtain ⟨_, -, h⟩ := bind_ok.mp h
    obtain ⟨request, hrequest, -⟩ := bind_ok.mp h
    obtain ⟨hrange, -⟩ := regraded_ok.mp hrequest
    exact hmultiplier hrange
  obtain ⟨grade, authority, codes, hevaluated⟩ := evaluateV6_evaluated arith manifest context hmultiplier
  rw [hevaluated.create, V6Decision.create_returns, decisionFields_postInit hevaluated.trimmed]
  by_cases hcodes : codes = []
  · obtain ⟨request, hcleared, hauthority⟩ := hevaluated.cleared hcodes
    rw [hcodes, canonical_eq_nil.mpr rfl, cleared_terms hcleared hauthority, completedAt_le]
    constructor
    · rintro ⟨hfamily, hkeys, htime, hlasting, hterms⟩
      refine ⟨hfamily, hmultiplier, hkeys, htime, hlasting, fun other sized hother => ?_⟩
      obtain ⟨found, hfound, -, rfl⟩ := hcleared.graded
      obtain ⟨again, hagain, -, rfl⟩ := hother.graded
      rw [hfound] at hagain
      cases hagain
      exact hterms
    · intro h
      exact ⟨h.family, h.keys, h.timely, h.lasting, h.terms grade request hcleared⟩
  · have hblocked : canonical codes ≠ [] := fun h => hcodes (canonical_eq_nil.mp h)
    rw [blocked_terms hblocked, completedAt_le]
    constructor
    · rintro ⟨hfamily, hkeys, htime, hlasting⟩
      exact ⟨hfamily, hmultiplier, hkeys, htime, hlasting,
        fun other sized hother => absurd (hevaluated.complete other sized hother) hcodes⟩
    · intro h
      exact ⟨h.family, h.keys, h.timely, h.lasting⟩

/-! ### Evidence observed after the decision -/

def sampleId (n : Fin 256) : UUID := ⟨7 * 2 ^ 76 + 2 * 2 ^ 62 + n, sampleInt_lt n⟩

theorem sampleId_version (n : Fin 256) : (sampleId n).isVersion7 = true := by
  revert n
  decide +kernel

def sampleManifest : V6Manifest where
  id := sampleId 1
  strategyVersionId := sampleId 2
  sourceSha256 := v6SourceSha256
  designSha256 := v6DesignSha256
  configurationHash := v6ConfigurationHash
  registeredAt := 0
  id_version := sampleId_version 1
  strategy_version := sampleId_version 2
  source_hash := rfl
  design_hash := rfl
  configuration_hash := rfl
  whole_second := rfl

theorem sampleText : singleLine "TAPE" = true ∧ singleLine "UTC" = true := by decide

/-- Where a sample fact came from. -/
def sampleProvenance (observedAt : Instant) (digest : Digest) : EvidenceProvenance where
  source := "TAPE"
  sourceKey := "TAPE"
  sourceTimezone := "UTC"
  observedAt := observedAt
  capturedAt := observedAt
  digestSha256 := digest
  source_text := sampleText.1
  key_text := sampleText.1
  timezone_text := sampleText.2
  captured_after := le_rfl

theorem absentText : singleLine "NOT_MEASURED" = true := by decide

theorem absent_state : EvidenceState.unavailable ≠ .available := by decide

def absent : EvidenceItem FactValue := .missing .unavailable "NOT_MEASURED" absent_state absentText

theorem no_bars : ∀ (timeframe : Timeframe) (item : EvidenceItem (List CompletedOhlcvBar))
    (values : List CompletedOhlcvBar), none = some item → item.value = some values →
      ∀ bar ∈ values, bar.timestamp + timeframe.duration ≤ 0 := by
  intro _ _ _ h
  cases h

theorem sampleId_three : (sampleId 3).isVersion7 = true := sampleId_version 3

theorem no_scales : V6Market.krxCash ≠ .binanceUsdm → ∀ timeframe : Timeframe, timeframe.cashForbidden = true →
    (none : Option (EvidenceItem (List CompletedOhlcvBar))) = none :=
  fun _ _ _ => rfl

/-- A bundle of a cash market with a regime that was read at a time, and nothing else. -/
def regimeOnly (observedAt : Instant) : V6EvidenceBundle where
  market := .krxCash
  instrumentId := sampleId 3
  decisionAt := 0
  bars _ := none
  universe_ := absent
  regime := .of (.regime ⟨.available, some .trendUp, none, none, none, false⟩) (sampleProvenance observedAt 1)
  metodo := absent
  zones := absent
  divergence := absent
  exhaustion := absent
  orderFlow := absent
  profile := absent
  calendar := absent
  session := absent
  costs := absent
  exhaustionTimeframe := none
  version := sampleId_three
  scales := no_scales
  completed := no_bars

theorem sampleAmounts : (0 : ℚ) < 100 ∧ (0 : ℚ) < 98 ∧ (0 : ℚ) < 1 / 10 ∧ (0 : ℚ) < 3 ∧ (0 : ℚ) < 10000 ∧
    ((0 : ℚ) < 1 ∧ (1 : ℚ) ≤ 1) := by
  norm_num

theorem no_amount : ∀ amount : ℚ, (none : Option ℚ) = some amount → 0 < amount := by
  intro amount h
  cases h

theorem no_leverage : ∀ leverage : Nat, (none : Option Nat) = some leverage → 0 < leverage := by
  intro leverage h
  cases h

/-- A purchase at one hundred with a structural reference at ninety-eight. -/
def sampleRequest : V6RiskRequest where
  market := .krxCash
  grade := .normal
  side := .buy
  entryPrice := 100
  structuralReference := 98
  tickSize := 1 / 10
  spread := 1 / 10
  atr30s := none
  atr5m := 3
  sessionStartEquity := 10000
  currentEquity := 10000
  dailyNetPnl := 0
  weeklyNetPnl := 0
  consecutiveNetLosses := 0
  currentOpenStructuralRisk := 0
  quantityStep := 1
  costPerUnit := 1 / 10
  leverage := none
  sessionTradeCount := 0
  sessionObjectiveReached := false
  sizeMultiplier := 1
  maxQuantity := none
  entry_pos := sampleAmounts.1
  reference_pos := sampleAmounts.2.1
  tick_pos := sampleAmounts.2.2.1
  atr5m_pos := sampleAmounts.2.2.2.1
  start_pos := sampleAmounts.2.2.2.2.1
  current_pos := sampleAmounts.2.2.2.2.1
  step_pos := sampleAmounts.2.2.2.2.2.1
  spread_nonneg := sampleAmounts.2.2.1.le
  open_nonneg := le_rfl
  cost_nonneg := sampleAmounts.2.2.1.le
  atr30s_pos := no_amount
  leverage_pos := no_leverage
  multiplier_range := sampleAmounts.2.2.2.2.2
  cap_pos := no_amount

theorem sampleFractions : ((0 : ℚ) < 3 / 2000 ∧ (3 / 2000 : ℚ) ≤ 1) ∧ ((0 : ℚ) < 1 / 100 ∧ (1 / 100 : ℚ) ≤ 1) ∧
    (3 / 2000 : ℚ) ≤ 1 / 100 ∧ (1 / 100 : ℚ) ≤ tradeRiskCeiling := by
  unfold tradeRiskCeiling
  norm_num

theorem no_candidate {p : ℚ → Prop} : ∀ fraction : ℚ, (none : Option ℚ) = some fraction → p fraction := by
  intro fraction h
  cases h

theorem cash_candidate : V6Market.krxCash = .binanceUsdm ↔ (none : Option ℚ).isSome = true := by
  simp

/-- The policy of a cash account. -/
def samplePolicy : V6RiskPolicySnapshot where
  policyVersionId := sampleId 4
  market := .krxCash
  normalRiskFraction := 3 / 2000
  aCandidateRiskFraction := none
  aRiskFraction := 3 / 2000
  absoluteTradeRiskFraction := 1 / 100
  dailyLossFraction := 1 / 100
  weeklyLossFraction := 1 / 100
  maxConsecutiveLosses := 3
  maxOpenStructuralRiskFraction := 1 / 100
  version := sampleId_version 4
  normal_range := sampleFractions.1
  a_range := sampleFractions.1
  absolute_range := sampleFractions.2.1
  daily_range := sampleFractions.2.1
  weekly_range := sampleFractions.2.1
  open_range := sampleFractions.2.1
  candidate_range := no_candidate
  losses_pos := Nat.succ_pos 2
  normal_ceiling := sampleFractions.2.2.1
  a_ceiling := sampleFractions.2.2.1
  candidate_ceiling := no_candidate
  absolute_ceiling := sampleFractions.2.2.2
  candidate_market := cash_candidate

theorem longText : untrimmed directionLong = false := by decide

/-- The direction, read from the evidence with a digest. -/
def longIndicator (digest : Digest) : MatchedIndicator where
  key := directionLong
  mandatory := false
  evidenceState := .available
  evidenceHash := digest
  trimmed := longText
  available := rfl

theorem sampleTarget : (0 : ℚ) < 110 := by norm_num

/-- A Método purchase with a target at one hundred and ten. -/
def sampleContext : V6RiskContext where
  decisionId := sampleId 5
  setupId := sampleId 6
  featureSnapshotId := sampleId 7
  family := .metodo
  orderStyle := .limit
  matchedIndicators := [longIndicator 1]
  mandatoryIndicatorCodes := []
  riskRequest := sampleRequest
  policy := samplePolicy
  targetPrice := 110
  validUntil := 60 * 10 ^ 6
  decision_version := sampleId_version 5
  setup_version := sampleId_version 6
  snapshot_version := sampleId_version 7
  codes_trimmed _ h := absurd h List.not_mem_nil
  codes_disclosed _ h := absurd h List.not_mem_nil
  same_market := rfl
  target_pos := sampleTarget

/-- A regime read one second after the decision is no blocker, and no decision comes back. -/
theorem late_evidence_raises :
    ¬∀ (bundle : V6EvidenceBundle) (manifest : V6Manifest) (context : V6RiskContext),
      ∃ decision, evaluateV6 .decimal28 bundle manifest context = .ok decision := by
  intro h
  obtain ⟨decision, hdecision⟩ := h (regimeOnly (10 ^ 6)) sampleManifest sampleContext
  have hraised : (evaluateV6 .decimal28 (regimeOnly (10 ^ 6)) sampleManifest sampleContext).toOption.isSome = false := by
    decide +kernel
  rw [hdecision] at hraised
  cases hraised

end AutoTrader.Strategy
