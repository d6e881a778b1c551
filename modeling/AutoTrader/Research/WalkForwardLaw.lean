import AutoTrader.Research.WalkForwardWindows

/-! The evidence of a walk-forward run. It is the same for the same decisions, bars and windows in any order, and it is
available only when every window counted decisions and filled all of them. -/

namespace AutoTrader.Research

open AutoTrader.Domain AutoTrader.Execution AutoTrader.Numeric AutoTrader.Runtime AutoTrader.Strategy AutoTrader.Trader

variable {sha256 : String → Digest} {cost : CostModel} {window : WalkForwardWindow}

/-! ### Equal results -/

theorem overallState_congr {results results' : List WalkForwardResult}
    (h : List.Forall₂ WalkForwardResult.Same results results') : overallState results = overallState results' := by
  have hstates : results.map (·.state) = results'.map (·.state) := map_congr_forall₂ h fun _ _ hsame => hsame.state
  have hany (p : EvidenceState → Bool) : (results.any fun result => p result.state) =
      results'.any fun result => p result.state := by
    have hmapped := congrArg (fun states => List.any states p) hstates
    rwa [List.any_map, List.any_map] at hmapped
  unfold overallState
  rw [hany fun state => decide (state = .unknown), hany fun state => decide (state ≠ .available)]

theorem present_congr (read : WalkForwardResult → Option Decimal)
    (hread : ∀ a b : WalkForwardResult, a.Same b → (read a).map Decimal.toRat = (read b).map Decimal.toRat)
    {results results' : List WalkForwardResult} (h : List.Forall₂ WalkForwardResult.Same results results') :
    List.Forall₂ (fun x y => x.toRat = y.toRat) (present read results) (present read results') := by
  unfold present
  induction h with
  | nil => exact .nil
  | cons hsame _ ih =>
    rename_i a b _ _ _
    have hvalue := hread a b hsame
    rw [List.filterMap_cons, List.filterMap_cons]
    cases ha : read a with
    | none =>
      cases hb : read b with
      | none => exact ih
      | some y =>
        rw [ha, hb] at hvalue
        cases hvalue
    | some x =>
      cases hb : read b with
      | none =>
        rw [ha, hb] at hvalue
        cases hvalue
      | some y =>
        rw [ha, hb] at hvalue
        exact .cons (Option.some.inj hvalue) ih

theorem filter_congr_forall₂ {xs ys : List Decimal} (p : ℚ → Bool)
    (h : List.Forall₂ (fun x y => x.toRat = y.toRat) xs ys) :
    List.Forall₂ (fun x y => x.toRat = y.toRat) (xs.filter fun x => p x.toRat) (ys.filter fun y => p y.toRat) := by
  induction h with
  | nil => exact .nil
  | cons hxy _ ih =>
    rw [List.filter_cons, List.filter_cons, hxy]
    split
    · exact .cons hxy ih
    · exact ih

theorem tuple_results_congr {results results' : List WalkForwardResult}
    (h : List.Forall₂ WalkForwardResult.Same results results') :
    PyJson.tuple canonicalResult results = PyJson.tuple canonicalResult results' :=
  congrArg PyJson.arr (map_congr_forall₂ h fun _ _ => canonicalResult_congr)

theorem unsupportedEvidence_same (state : EvidenceState) {results results' : List WalkForwardResult}
    (h : List.Forall₂ WalkForwardResult.Same results results') (reasons : List String) (digests : List Digest)
    (capturedAt : UtcDatetime) :
    Outcomes WalkForwardPromotionEvidence.Same (unsupportedEvidence sha256 state results reasons digests capturedAt)
      (unsupportedEvidence sha256 state results' reasons digests capturedAt) := by
  unfold unsupportedEvidence
  rw [tuple_results_congr h]
  generalize canonicalV6Hash sha256 _ = hashed
  cases hashed with
  | error e => exact .raises e
  | ok digest => exact .returns ⟨rfl, h, rfl, rfl, rfl, rfl, rfl, rfl, rfl, rfl, rfl, rfl⟩

theorem availableEvidence_same {results results' : List WalkForwardResult}
    (h : List.Forall₂ WalkForwardResult.Same results results') (digests : List Digest) (capturedAt : UtcDatetime) :
    Outcomes WalkForwardPromotionEvidence.Same (availableEvidence sha256 results digests capturedAt)
      (availableEvidence sha256 results' digests capturedAt) := by
  have hgross := decimalSum_congr (present_congr (·.grossPnl) (fun _ _ => WalkForwardResult.Same.grossPnl) h)
  have hcosts := decimalSum_congr (present_congr (·.totalCost) (fun _ _ => WalkForwardResult.Same.totalCost) h)
  have hnet := present_congr (·.netPnl) (fun _ _ => WalkForwardResult.Same.netPnl) h
  have hwinners := filter_congr_forall₂ (fun x => decide (0 < x)) hnet
  have hlosers := filter_congr_forall₂ (fun x => decide (x < 0)) hnet
  have hcounts : results.map (·.sampleCount) = results'.map (·.sampleCount) :=
    map_congr_forall₂ h fun _ _ => WalkForwardResult.Same.sampleCount
  unfold availableEvidence
  dsimp only
  rw [tuple_results_congr h]
  generalize canonicalV6Hash sha256 _ = hashed
  cases hashed with
  | error e => exact .raises e
  | ok digest =>
    refine .returns ⟨rfl, h, congrArg List.sum hcounts, congrArg some hgross, congrArg some hcosts, ?_, ?_, ?_, rfl,
      rfl, rfl, rfl⟩
    · rw [Option.map_some, Option.map_some, Decimal.toRat_sub, Decimal.toRat_sub, hgross, hcosts]
    · dsimp only
      rw [hwinners.length_eq, h.length_eq]
    · dsimp only
      rw [decimalSum_congr hwinners, decimalSum_congr hlosers]

theorem evidenceOf_same {results results' : List WalkForwardResult}
    (h : List.Forall₂ WalkForwardResult.Same results results') (digests : List Digest) (capturedAt : UtcDatetime) :
    Outcomes WalkForwardPromotionEvidence.Same (evidenceOf sha256 results digests capturedAt)
      (evidenceOf sha256 results' digests capturedAt) := by
  have hreasons : results.flatMap (·.unsupportedReasonCodes) = results'.flatMap (·.unsupportedReasonCodes) :=
    congrArg List.flatten (map_congr_forall₂ h fun _ _ => WalkForwardResult.Same.unsupportedReasonCodes)
  unfold evidenceOf
  rw [overallState_congr h, hreasons]
  split
  · exact unsupportedEvidence_same _ h _ _ _
  · exact availableEvidence_same h _ _

theorem finishRun_same {results results' : List WalkForwardResult} (noBars : Bool)
    (h : List.Forall₂ WalkForwardResult.Same results results') (digests : List Digest) (capturedAt : UtcDatetime) :
    Outcomes WalkForwardPromotionEvidence.Same (finishRun sha256 cost noBars results digests capturedAt)
      (finishRun sha256 cost noBars results' digests capturedAt) := by
  have hempty : results.isEmpty = results'.isEmpty := by
    cases h <;> rfl
  unfold finishRun
  rw [hempty]
  split
  · exact unsupportedEvidence_same _ .nil _ _ _
  cases cost.roundTripCostPerUnit with
  | none => exact unsupportedEvidence_same _ h _ _ _
  | some costPerUnit =>
    dsimp only
    split
    · exact unsupportedEvidence_same _ h _ _ _
    · exact evidenceOf_same h _ _

theorem sourceDigests_congr {decisions decisions' : List ValidDecision}
    (h : List.Forall₂ DecisionsEqual decisions decisions') : sourceDigests decisions cost = sourceDigests decisions' cost := by
  have hhashes : decisions.flatMap (·.sourceEvidenceHashes) = decisions'.flatMap (·.sourceEvidenceHashes) :=
    congrArg List.flatten (map_congr_forall₂ h fun _ _ => DecisionsEqual.sourceEvidenceHashes)
  rw [sourceDigests, hhashes, sourceDigests]

/-! ### What a window tells -/

theorem unsupportedResult_ok {state : EvidenceState} {reason : String} {result : WalkForwardResult}
    (h : unsupportedResult sha256 window state reason = .ok result) : result.window = window ∧ result.state = state := by
  obtain ⟨digest, -, h⟩ := bind_ok.mp h
  cases h
  exact ⟨rfl, rfl⟩

theorem typedFills_some {fills : List (ValidDecision × BarFill)} {typed : List (ValidDecision × BacktestFill)}
    (h : typedFills fills = some typed) :
    List.Forall₂ (fun p q => p.1 = q.1 ∧ p.2 = .filled q.2) fills typed := by
  unfold typedFills at h
  induction fills generalizing typed with
  | nil =>
    cases h
    exact .nil
  | cons pair fills ih =>
    obtain ⟨decision, fill⟩ := pair
    rw [List.mapM_cons] at h
    obtain ⟨first, hfirst, h⟩ := Option.bind_eq_some_iff.mp h
    obtain ⟨rest, hrest, h⟩ := Option.bind_eq_some_iff.mp h
    cases h
    cases fill with
    | noFill expectedAt => cases hfirst
    | filled fill =>
      cases hfirst
      exact .cons ⟨rfl, rfl⟩ (ih hrest)

/-- What an available result tells of the decisions and bars. -/
structure Tallied (cost : CostModel) (decisions : List ValidDecision) (bars : List CompletedOhlcvBar)
    (result : WalkForwardResult) : Prop where
  counted : ∃ decision ∈ decisions, Counted cost result.window decision
  filled : ∀ decision ∈ decisions, Counted cost result.window decision →
    ∃ bar ∈ bars, bar.timestamp = decision.generatedAt.instant + cost.timeframe
  samples : result.sampleCount =
    ((decisions.filter fun decision => decide (Counted cost result.window decision)).map (·.id)).toFinset.card
  net : ∃ gross costs, result.grossPnl = some gross ∧ result.totalCost = some costs ∧
    result.netPnl = some (gross.sub costs)

section Tally

variable {decisions canonical : List ValidDecision} {bars arranged : List CompletedOhlcvBar}

/-- The decisions a window selects are one of each that it counts. -/
theorem selectDecisions_card (h : canonicalDecisions decisions = .ok canonical) {selected : List ValidDecision}
    (hselected : selectDecisions cost window canonical = .ok selected) :
    selected.length =
      ((decisions.filter fun decision => decide (Counted cost window decision)).map (·.id)).toFinset.card := by
  obtain ⟨hmem, hsublist, -⟩ := selectDecisions_ok hselected
  have hnodup : (selected.map (·.id)).Nodup :=
    (hsublist.map _).nodup (arrange_nodup decisionsEqual_equivalence h)
  have hids : (selected.map (·.id)).toFinset =
      ((decisions.filter fun decision => decide (Counted cost window decision)).map (·.id)).toFinset := by
    ext id
    simp only [List.mem_toFinset, List.mem_map, List.mem_filter, decide_eq_true_eq]
    constructor
    · rintro ⟨decision, hdecision, rfl⟩
      obtain ⟨hin, hcounted⟩ := (hmem decision).mp hdecision
      exact ⟨decision, ⟨arrange_known decisionsEqual_equivalence h hin, hcounted⟩, rfl⟩
    · rintro ⟨decision, ⟨hin, hcounted⟩, rfl⟩
      obtain ⟨other, hother, hequal⟩ := arrange_covers decisionsEqual_equivalence h hin
      exact ⟨other, (hmem other).mpr ⟨hother, hcounted.congr hequal⟩, hequal.id.symm⟩
  rw [← hids, List.toFinset_card_of_nodup hnodup, List.length_map]

theorem runWindow_window {result : WalkForwardResult} {costPerUnit : Decimal}
    (h : runWindow sha256 canonical arranged cost costPerUnit window = .ok result) : result.window = window := by
  obtain ⟨selected, -, h⟩ := bind_ok.mp h
  split at h
  · exact (unsupportedResult_ok h).1
  obtain ⟨fills, -, h⟩ := bind_ok.mp h
  split at h
  · exact (unsupportedResult_ok h).1
  · obtain ⟨hashes, -, h⟩ := bind_ok.mp h
    obtain ⟨digest, -, h⟩ := bind_ok.mp h
    cases h
    rfl

theorem windowOutcome_window {result : WalkForwardResult}
    (h : windowOutcome sha256 cost canonical arranged window = .ok result) : result.window = window := by
  unfold windowOutcome at h
  split at h
  · exact (unsupportedResult_ok h).1
  split at h
  · exact (unsupportedResult_ok h).1
  · exact runWindow_window h

theorem runWindow_tallied (hdecisions : canonicalDecisions decisions = .ok canonical)
    (hbars : canonicalBars bars = .ok arranged) {result : WalkForwardResult} {costPerUnit : Decimal}
    (h : runWindow sha256 canonical arranged cost costPerUnit window = .ok result) (havailable : result.state = .available) :
    Tallied cost decisions bars result := by
  have hwindow := runWindow_window h
  obtain ⟨selected, hselected, h⟩ := bind_ok.mp h
  obtain ⟨hmem, hsublist, hrange⟩ := selectDecisions_ok hselected
  have hcard := selectDecisions_card hdecisions hselected
  split at h
  · rw [(unsupportedResult_ok h).2] at havailable
    cases havailable
  rename_i hsome
  obtain ⟨fills, hfills, h⟩ := bind_ok.mp h
  split at h
  · rw [(unsupportedResult_ok h).2] at havailable
    cases havailable
  rename_i typed htyped
  have hpairs := typedFills_some htyped
  have hlength : typed.length = selected.length :=
    hpairs.length_eq.symm.trans (forall₂_of_mapM_ok hfills).length_eq.symm
  obtain ⟨hashes, -, h⟩ := bind_ok.mp h
  obtain ⟨digest, -, h⟩ := bind_ok.mp h
  cases h
  refine ⟨?_, fun decision hdecision hcounted => ?_, hlength.trans hcard, _, _, rfl, rfl, rfl⟩
  · obtain ⟨first, hfirst⟩ := List.exists_mem_of_ne_nil selected fun h => hsome (h ▸ rfl)
    obtain ⟨hin, hcounted⟩ := (hmem first).mp hfirst
    exact ⟨first, arrange_known decisionsEqual_equivalence hdecisions hin, hcounted⟩
  · obtain ⟨other, hother, hequal⟩ := arrange_covers decisionsEqual_equivalence hdecisions hdecision
    have hchosen := (hmem other).mpr ⟨hother, hcounted.congr hequal⟩
    rw [hequal.generatedAt]
    rcases exactNextBarFill_cases sha256 hbars (hrange other hchosen) with ⟨-, hnone⟩ | ⟨bar, hbar, htime, -⟩
    · have hfill : fillDecision sha256 cost arranged other =
          .ok (other, .noFill (other.generatedAt.instant + cost.timeframe)) := by
        rw [fillDecision, hnone, ok_bind]
        rfl
      obtain ⟨_, -, -, hfilled⟩ := exists_of_mem_right hpairs.flip (result_mem_of_mapM_ok hfills hchosen hfill)
      cases hfilled
    · exact ⟨bar, hbar, htime⟩

theorem windowOutcome_tallied (hdecisions : canonicalDecisions decisions = .ok canonical)
    (hbars : canonicalBars bars = .ok arranged) {result : WalkForwardResult}
    (h : windowOutcome sha256 cost canonical arranged window = .ok result) (havailable : result.state = .available) :
    Tallied cost decisions bars result := by
  unfold windowOutcome at h
  split at h
  · rw [(unsupportedResult_ok h).2] at havailable
    cases havailable
  split at h
  · rw [(unsupportedResult_ok h).2] at havailable
    cases havailable
  · exact runWindow_tallied hdecisions hbars h havailable

end Tally

/-! ### What the evidence tells -/

theorem overallState_available {results : List WalkForwardResult} (h : overallState results = .available) :
    ∀ result ∈ results, result.state = .available := by
  unfold overallState at h
  split at h
  · cases h
  split at h
  · cases h
  · rename_i hall
    intro result hresult
    by_contra hstate
    exact hall (List.any_eq_true.mpr ⟨result, hresult, decide_eq_true hstate⟩)

theorem present_all {read : WalkForwardResult → Option Decimal} {results : List WalkForwardResult}
    (h : ∀ result ∈ results, ∃ value, read result = some value) : results.map read = (present read results).map some := by
  unfold present
  induction results with
  | nil => rfl
  | cons first results ih =>
    obtain ⟨⟨value, hvalue⟩, hrest⟩ := List.forall_mem_cons.mp h
    rw [List.map_cons, List.filterMap_cons, hvalue, ih hrest]
    rfl

theorem unsupportedEvidence_ok {state : EvidenceState} {results : List WalkForwardResult} {reasons : List String}
    {digests : List Digest} {capturedAt : UtcDatetime} {evidence : WalkForwardPromotionEvidence}
    (h : unsupportedEvidence sha256 state results reasons digests capturedAt = .ok evidence) :
    evidence.state = state ∧ evidence.windows = results := by
  obtain ⟨digest, -, h⟩ := bind_ok.mp h
  cases h
  exact ⟨rfl, rfl⟩

/-- Evidence that is available sums windows that all are. -/
structure Summed (evidence : WalkForwardPromotionEvidence) : Prop where
  states : ∀ result ∈ evidence.windows, result.state = .available
  gross : evidence.grossPnl = some (decimalSum (present (·.grossPnl) evidence.windows))
  costs : evidence.totalCost = some (decimalSum (present (·.totalCost) evidence.windows))
  net : evidence.netPnl = some ((decimalSum (present (·.grossPnl) evidence.windows)).sub
    (decimalSum (present (·.totalCost) evidence.windows)))
  samples : evidence.sampleCount = (evidence.windows.map (·.sampleCount)).sum

theorem availableEvidence_ok {results : List WalkForwardResult} {digests : List Digest} {capturedAt : UtcDatetime}
    {evidence : WalkForwardPromotionEvidence} (h : availableEvidence sha256 results digests capturedAt = .ok evidence)
    (hstates : ∀ result ∈ results, result.state = .available) : evidence.windows = results ∧ Summed evidence := by
  obtain ⟨digest, -, h⟩ := bind_ok.mp h
  cases h
  exact ⟨rfl, hstates, rfl, rfl, rfl, rfl⟩

theorem finishRun_ok {noBars : Bool} {results : List WalkForwardResult} {digests : List Digest}
    {capturedAt : UtcDatetime} {evidence : WalkForwardPromotionEvidence}
    (h : finishRun sha256 cost noBars results digests capturedAt = .ok evidence) :
    evidence.windows = results ∧ (evidence.state = .available → Summed evidence) := by
  have hunsupported {state : EvidenceState} {windows : List WalkForwardResult} {reasons : List String}
      (hstate : state ≠ .available)
      (h : unsupportedEvidence sha256 state windows reasons digests capturedAt = .ok evidence) :
      evidence.windows = windows ∧ (evidence.state = .available → Summed evidence) := by
    obtain ⟨hkept, hwindows⟩ := unsupportedEvidence_ok h
    exact ⟨hwindows, fun havailable => absurd (hkept.symm.trans havailable) hstate⟩
  unfold finishRun at h
  split at h
  · rename_i hempty
    rw [List.isEmpty_iff.mp hempty]
    exact hunsupported (by decide) h
  split at h
  · exact hunsupported (by decide) h
  split at h
  · exact hunsupported (by decide) h
  unfold evidenceOf at h
  split at h
  · rename_i hstate
    exact hunsupported hstate h
  · rename_i hstate
    obtain ⟨hwindows, hsummed⟩ := availableEvidence_ok h (overallState_available (not_not.mp hstate))
    exact ⟨hwindows, fun _ => hsummed⟩

/-! ### Runs -/

section Runs

variable {decisions decisions' : List ValidDecision} {bars bars' : List CompletedOhlcvBar}
  {windows windows' : List WalkForwardWindow} {evidence evidence' : WalkForwardPromotionEvidence}

/-- What a run that returns went through. -/
structure Walked (sha256 : String → Digest) (cost : CostModel) (decisions : List ValidDecision)
    (bars : List CompletedOhlcvBar) (windows : List WalkForwardWindow) (evidence : WalkForwardPromotionEvidence)
    (canonical : List ValidDecision) (arranged : List CompletedOhlcvBar) (ordered : List WalkForwardWindow) : Prop where
  decisions : canonicalDecisions decisions = .ok canonical
  bars : canonicalBars bars = .ok arranged
  windows : canonicalWindows windows = .ok ordered
  results : ordered.mapM (windowOutcome sha256 cost canonical arranged) = .ok evidence.windows
  finished : finishRun sha256 cost arranged.isEmpty evidence.windows (sourceDigests canonical cost)
    (capturedAtOf ordered) = .ok evidence

theorem runWalkForward_walked (h : runWalkForward sha256 decisions bars windows cost = .ok evidence) :
    ∃ canonical arranged ordered, Walked sha256 cost decisions bars windows evidence canonical arranged ordered := by
  rw [runWalkForward_eq] at h
  obtain ⟨canonical, hcanonical, h⟩ := bind_ok.mp h
  obtain ⟨arranged, harranged, h⟩ := bind_ok.mp h
  obtain ⟨ordered, hordered, h⟩ := bind_ok.mp h
  obtain ⟨results, hresults, h⟩ := bind_ok.mp h
  have hwindows := (finishRun_ok h).1
  exact ⟨canonical, arranged, ordered, hcanonical, harranged, hordered, hwindows ▸ hresults, hwindows ▸ h⟩

theorem windowOutcome_same {canonical canonical' : List ValidDecision} {arranged arranged' : List CompletedOhlcvBar}
    (hdecisions : List.Forall₂ DecisionsEqual (canonical.filter fun decision => decide (InTest window decision))
      (canonical'.filter fun decision => decide (InTest window decision)))
    (h : canonicalBars bars = .ok arranged) (h' : canonicalBars bars' = .ok arranged')
    (hempty : arranged.isEmpty = arranged'.isEmpty)
    (hmem : ∀ bar, bar.timestamp ≤ window.testEndedAt.instant → (bar ∈ bars ↔ bar ∈ bars')) :
    Outcomes WalkForwardResult.Same (windowOutcome sha256 cost canonical arranged window)
      (windowOutcome sha256 cost canonical' arranged' window) := by
  unfold windowOutcome
  cases cost.roundTripCostPerUnit with
  | none => exact unsupportedResult_same _ _ _
  | some costPerUnit =>
    dsimp only
    rw [hempty]
    split
    · exact unsupportedResult_same _ _ _
    · exact runWindow_same hdecisions h h' hmem costPerUnit

theorem arranged_isEmpty {arranged : List CompletedOhlcvBar} (h : canonicalBars bars = .ok arranged) :
    arranged.isEmpty = bars.isEmpty := by
  cases bars with
  | nil =>
    cases h
    rfl
  | cons bar bars =>
    obtain ⟨other, hother, -⟩ := arrange_covers barsEqual_equivalence h List.mem_cons_self
    rw [List.isEmpty_cons, List.isEmpty_eq_false_iff_exists_mem]
    exact ⟨other, hother⟩

/-- The same decisions, bars and windows give the same evidence. -/
theorem runWalkForward_same (h : runWalkForward sha256 decisions bars windows cost = .ok evidence)
    (hdecisions : ∀ decision, decision ∈ decisions' ↔ decision ∈ decisions) (hbars : ∀ bar, bar ∈ bars' ↔ bar ∈ bars)
    (hwindows : windows'.Perm windows) :
    ∃ evidence', runWalkForward sha256 decisions' bars' windows' cost = .ok evidence' ∧ evidence.Same evidence' := by
  obtain ⟨canonical, arranged, ordered, hrun⟩ := runWalkForward_walked h
  obtain ⟨canonical', hcanonical', htwins⟩ :=
    arrange_same decisionsEqual_equivalence decisions_ranks hrun.decisions hdecisions
  obtain ⟨arranged', harranged', hlike⟩ := arrange_same barsEqual_equivalence bars_ranks hrun.bars hbars
  have hordered' := canonicalWindows_perm hrun.windows hwindows
  have hempty : arranged.isEmpty = arranged'.isEmpty := by
    cases hlike <;> rfl
  have houtcomes : Outcomes (List.Forall₂ WalkForwardResult.Same)
      (ordered.mapM (windowOutcome sha256 cost canonical arranged))
      (ordered.mapM (windowOutcome sha256 cost canonical' arranged')) := by
    refine Outcomes.mapM (List.forall₂_same.mpr fun _ _ => rfl) fun window window' heq => ?_
    cases heq
    refine windowOutcome_same ?_ hrun.bars harranged' hempty fun bar _ => (hbars bar).symm
    exact arrange_alike decisionsEqual_equivalence decisions_ranks hrun.decisions hcanonical'
      (fun a b hab => decide_eq_decide.mpr (InTest.congr hab)) fun decision _ => (hdecisions decision).symm
  obtain ⟨results', hresults', hsame⟩ := houtcomes.ok hrun.results
  obtain ⟨evidence', hfinished', hevidence⟩ :=
    (finishRun_same arranged.isEmpty hsame (sourceDigests canonical cost) (capturedAtOf ordered)).ok hrun.finished
  refine ⟨evidence', ?_, ?_⟩
  · rw [runWalkForward_eq]
    refine bind_ok.mpr ⟨canonical', hcanonical', bind_ok.mpr ⟨arranged', harranged', bind_ok.mpr ⟨ordered, hordered',
      bind_ok.mpr ⟨results', hresults', ?_⟩⟩⟩⟩
    rw [← hempty, ← sourceDigests_congr htwins]
    exact hfinished'
  · exact hevidence

theorem Walked.result {canonical : List ValidDecision} {arranged : List CompletedOhlcvBar}
    {ordered : List WalkForwardWindow} (h : Walked sha256 cost decisions bars windows evidence canonical arranged ordered)
    {result : WalkForwardResult} (hresult : result ∈ evidence.windows) :
    result.window ∈ ordered ∧ windowOutcome sha256 cost canonical arranged result.window = .ok result := by
  obtain ⟨window, hwindow, houtcome⟩ := mem_of_mapM_ok h.results hresult
  have hkept := windowOutcome_window houtcome
  exact ⟨hkept ▸ hwindow, hkept ▸ houtcome⟩

theorem Walked.windows_eq {canonical : List ValidDecision} {arranged : List CompletedOhlcvBar}
    {ordered : List WalkForwardWindow} (h : Walked sha256 cost decisions bars windows evidence canonical arranged ordered) :
    evidence.windows.map (·.window) = ordered := by
  have hpairs := (forall₂_of_mapM_ok h.results).imp fun _ _ => windowOutcome_window
  have hmapped := map_congr_forall₂ hpairs.flip (f := fun result => result.window) (g := id) fun _ _ heq => heq
  rwa [List.map_id] at hmapped

/-- The results are of the windows, and no decision is counted in two of them. -/
theorem runWalkForward_once (h : runWalkForward sha256 decisions bars windows cost = .ok evidence) :
    (evidence.windows.map (·.window)).Perm windows ∧
      evidence.windows.Pairwise fun a b =>
        ∀ decision, Counted cost a.window decision → ¬Counted cost b.window decision := by
  obtain ⟨canonical, arranged, ordered, hrun⟩ := runWalkForward_walked h
  obtain ⟨hordered, hbefore⟩ := canonicalWindows_ok hrun.windows
  refine ⟨?_, ?_⟩
  · rw [hrun.windows_eq, hordered]
    exact List.perm_insertionSort _ windows
  · rw [← hrun.windows_eq, List.pairwise_map] at hbefore
    exact hbefore.imp fun hab decision => hab.counted_once

/-- A result is made of the decisions generated in its window and of the bars up to the window's end. -/
theorem runWalkForward_local (h : runWalkForward sha256 decisions bars windows cost = .ok evidence)
    (h' : runWalkForward sha256 decisions' bars' windows' cost = .ok evidence') (hbars : bars ≠ []) (hbars' : bars' ≠ [])
    {result result' : WalkForwardResult} (hresult : result ∈ evidence.windows) (hresult' : result' ∈ evidence'.windows)
    (hwindow : result'.window = result.window)
    (hdecisions : ∀ decision, InTest result.window decision → (decision ∈ decisions ↔ decision ∈ decisions'))
    (hmem : ∀ bar, bar.timestamp ≤ result.window.testEndedAt.instant → (bar ∈ bars ↔ bar ∈ bars')) :
    result.Same result' := by
  obtain ⟨canonical, arranged, ordered, hrun⟩ := runWalkForward_walked h
  obtain ⟨canonical', arranged', ordered', hrun'⟩ := runWalkForward_walked h'
  obtain ⟨-, houtcome⟩ := hrun.result hresult
  obtain ⟨-, houtcome'⟩ := hrun'.result hresult'
  rw [hwindow] at houtcome'
  have hempty : arranged.isEmpty = arranged'.isEmpty := by
    rw [arranged_isEmpty hrun.bars, arranged_isEmpty hrun'.bars, List.isEmpty_eq_false_iff.mpr hbars,
      List.isEmpty_eq_false_iff.mpr hbars']
  have hfiltered := arrange_alike decisionsEqual_equivalence decisions_ranks hrun.decisions hrun'.decisions
    (p := fun decision => decide (InTest result.window decision))
    (fun a b hab => decide_eq_decide.mpr (InTest.congr hab)) fun decision hinside =>
      hdecisions decision (of_decide_eq_true hinside)
  obtain ⟨other, hother, hsame⟩ := (windowOutcome_same hfiltered hrun.bars hrun'.bars hempty hmem).ok houtcome
  rw [houtcome'] at hother
  cases hother
  exact hsame

/-- Evidence that is available has a tally of every window, and sums them. -/
theorem runWalkForward_available (h : runWalkForward sha256 decisions bars windows cost = .ok evidence)
    (havailable : evidence.state = .available) :
    Summed evidence ∧ ∀ result ∈ evidence.windows, Tallied cost decisions bars result := by
  obtain ⟨canonical, arranged, ordered, hrun⟩ := runWalkForward_walked h
  have hsummed := (finishRun_ok hrun.finished).2 havailable
  refine ⟨hsummed, fun result hresult => ?_⟩
  exact windowOutcome_tallied hrun.decisions hrun.bars (hrun.result hresult).2 (hsummed.states result hresult)

/-! ### Runs that return -/

open PyText (points) in
theorem clean_points (value : String) : (PyJson.str (points value)).Clean := .str (PyJson.scalar_points value)

theorem clean_optional {α : Type} {tree : α → PyJson} (h : ∀ a, (tree a).Clean) (value : Option α) :
    (PyJson.optional tree value).Clean := by
  cases value with
  | none => exact .null
  | some a => exact h a

theorem clean_tuple {α : Type} {tree : α → PyJson} (h : ∀ a, (tree a).Clean) (values : List α) :
    (PyJson.tuple tree values).Clean := .arr (List.forall_mem_map.mpr fun a _ => h a)

theorem clean_fields (fields : List (String × PyJson)) (h : ∀ field ∈ fields, field.2.Clean) :
    (PyJson.obj (fields.map fun field => (PyText.points field.1, field.2))).Clean :=
  .obj (List.forall_mem_map.mpr fun field _ => PyJson.scalar_points field.1) (List.forall_mem_map.mpr h)

theorem clean_canonicalDecimal (value : Decimal) : (canonicalDecimal value).Clean := clean_points _

theorem clean_canonicalWindow (window : WalkForwardWindow) : (canonicalWindow window).Clean :=
  clean_fields [("train_started_at", _), ("train_ended_at", _), ("test_started_at", _), ("test_ended_at", _)] (by
    simp only [List.forall_mem_cons, List.not_mem_nil, false_imp_iff, implies_true, and_true]
    exact ⟨clean_points _, clean_points _, clean_points _, clean_points _⟩)

theorem clean_canonicalBar (bar : CompletedOhlcvBar) : (canonicalBar bar).Clean :=
  clean_fields [("timestamp", _), ("open", _), ("high", _), ("low", _), ("close", _), ("volume", _)] (by
    simp only [List.forall_mem_cons, List.not_mem_nil, false_imp_iff, implies_true, and_true]
    exact ⟨clean_points _, clean_points _, clean_points _, clean_points _, clean_points _, clean_points _⟩)

theorem clean_canonicalResult (result : WalkForwardResult) : (canonicalResult result).Clean :=
  clean_fields [("window", _), ("state", _), ("sample_count", _), ("gross_pnl", _), ("total_cost", _),
    ("net_pnl", _), ("unsupported_reason_codes", _), ("source_digest", _)] (by
    simp only [List.forall_mem_cons, List.not_mem_nil, false_imp_iff, implies_true, and_true]
    exact ⟨clean_canonicalWindow _, clean_points _, .int _, clean_optional clean_canonicalDecimal _,
      clean_optional clean_canonicalDecimal _, clean_optional clean_canonicalDecimal _, clean_tuple clean_points _,
      clean_points _⟩)

theorem canonicalV6Hash_returns (sha256 : String → Digest) {document : PyJson} (h : document.Clean) :
    ∃ digest, canonicalV6Hash sha256 document = .ok digest := by
  obtain ⟨bytes, hbytes⟩ := h.encodes
  exact ⟨sha256 bytes, bind_ok.mpr ⟨bytes, hbytes, rfl⟩⟩

theorem unsupportedResult_returns (window : WalkForwardWindow) (state : EvidenceState) (reason : String) :
    ∃ result, unsupportedResult sha256 window state reason = .ok result := by
  have hclean : (PyJson.arr [canonicalWindow window, canonicalEnum state.value, canonicalText reason]).Clean := by
    refine .arr ?_
    simp only [List.forall_mem_cons, List.not_mem_nil, false_imp_iff, implies_true, and_true]
    exact ⟨clean_canonicalWindow _, clean_points _, clean_points _⟩
  obtain ⟨digest, hdigest⟩ := canonicalV6Hash_returns sha256 hclean
  exact ⟨_, bind_ok.mpr ⟨digest, hdigest, rfl⟩⟩

theorem fillAt_returns (sha256 : String → Digest) (bar : CompletedOhlcvBar) : ∃ fill, fillAt sha256 bar = .ok fill := by
  obtain ⟨digest, hdigest⟩ := canonicalV6Hash_returns sha256 (clean_canonicalBar bar)
  exact ⟨_, bind_ok.mpr ⟨digest, hdigest, rfl⟩⟩

theorem filledResult_returns {typed : List (ValidDecision × BacktestFill)} (h : ∀ pair ∈ typed, pair.1.Encodable)
    (costPerUnit : Decimal) : ∃ result, filledResult sha256 window cost costPerUnit typed = .ok result := by
  obtain ⟨hashes, hhashes⟩ : ∃ hashes, (typed.mapM fun pair => pair.1.decisionHash sha256) = .ok hashes :=
    mapM_ok_of_forall fun pair hpair => by
      obtain ⟨text, htext⟩ := V6DecisionRecord.canonicalText_returns.mpr (h pair hpair)
      exact ⟨sha256 text, V6DecisionRecord.decisionHash_ok.mpr ⟨text, htext, rfl⟩⟩
  have hclean : (PyJson.arr
      [canonicalWindow window, PyJson.tuple canonicalBytes hashes,
        PyJson.tuple canonicalBytes (typed.map fun pair => pair.2.sourceDigest),
        PyJson.optional canonicalBytes cost.costSourceDigest,
        canonicalDecimal (decimalSum (typed.map fun pair => grossPnl pair.1 pair.2)),
        canonicalDecimal (decimalSum (typed.map fun pair => costPerUnit.mul pair.1.calculatedQuantity))]).Clean := by
    refine .arr ?_
    simp only [List.forall_mem_cons, List.not_mem_nil, false_imp_iff, implies_true, and_true]
    exact ⟨clean_canonicalWindow _, clean_tuple (fun _ => clean_points _) _, clean_tuple (fun _ => clean_points _) _,
      clean_optional (fun _ => clean_points _) _, clean_points _, clean_points _⟩
  obtain ⟨digest, hdigest⟩ := canonicalV6Hash_returns sha256 hclean
  unfold filledResult
  dsimp only
  rw [hhashes, ok_bind, hdigest]
  exact ⟨_, rfl⟩

theorem unsupportedEvidence_returns (state : EvidenceState) (results : List WalkForwardResult) (reasons : List String)
    (digests : List Digest) (capturedAt : UtcDatetime) :
    ∃ evidence, unsupportedEvidence sha256 state results reasons digests capturedAt = .ok evidence := by
  have hclean : (PyJson.arr [canonicalEnum state.value, PyJson.tuple canonicalResult results,
      PyJson.tuple canonicalText reasons, PyJson.tuple canonicalBytes digests, canonicalDatetime capturedAt]).Clean := by
    refine .arr ?_
    simp only [List.forall_mem_cons, List.not_mem_nil, false_imp_iff, implies_true, and_true]
    exact ⟨clean_points _, clean_tuple clean_canonicalResult _, clean_tuple clean_points _,
      clean_tuple (fun _ => clean_points _) _, clean_points _⟩
  obtain ⟨digest, hdigest⟩ := canonicalV6Hash_returns sha256 hclean
  exact ⟨_, bind_ok.mpr ⟨digest, hdigest, rfl⟩⟩

theorem availableEvidence_returns (results : List WalkForwardResult) (digests : List Digest)
    (capturedAt : UtcDatetime) : ∃ evidence, availableEvidence sha256 results digests capturedAt = .ok evidence := by
  have hclean : (PyJson.arr [canonicalEnum EvidenceState.available.value, PyJson.tuple canonicalResult results,
      PyJson.tuple canonicalBytes digests, canonicalDatetime capturedAt]).Clean := by
    refine .arr ?_
    simp only [List.forall_mem_cons, List.not_mem_nil, false_imp_iff, implies_true, and_true]
    exact ⟨clean_points _, clean_tuple clean_canonicalResult _, clean_tuple (fun _ => clean_points _) _, clean_points _⟩
  obtain ⟨digest, hdigest⟩ := canonicalV6Hash_returns sha256 hclean
  exact ⟨_, bind_ok.mpr ⟨digest, hdigest, rfl⟩⟩

theorem finishRun_returns (sha256 : String → Digest) (cost : CostModel) (noBars : Bool) (results : List WalkForwardResult) (digests : List Digest)
    (capturedAt : UtcDatetime) :
    ∃ evidence, finishRun sha256 cost noBars results digests capturedAt = .ok evidence := by
  unfold finishRun
  split
  · exact unsupportedEvidence_returns _ _ _ _ _
  split
  · exact unsupportedEvidence_returns _ _ _ _ _
  split
  · exact unsupportedEvidence_returns _ _ _ _ _
  unfold evidenceOf
  split
  · exact unsupportedEvidence_returns _ _ _ _ _
  · exact availableEvidence_returns _ _ _

theorem selectDecisions_returns (window : WalkForwardWindow) {decisions : List ValidDecision}
    (h : ∀ decision ∈ decisions, IsDatetime (decision.generatedAt.instant + cost.timeframe)) :
    ∃ selected, selectDecisions cost window decisions = .ok selected := by
  induction decisions with
  | nil => exact ⟨[], rfl⟩
  | cons decision decisions ih =>
    obtain ⟨hdecision, hrest⟩ := List.forall_mem_cons.mp h
    obtain ⟨rest, hselected⟩ := ih hrest
    obtain ⟨chosen, hchosen⟩ : ∃ chosen, selects cost window decision = .ok chosen := by
      unfold selects
      split
      · rw [addDelta, if_pos hdecision, ok_bind]
        exact ⟨_, rfl⟩
      · exact ⟨false, rfl⟩
    exact ⟨_, bind_ok.mpr ⟨chosen, hchosen, bind_ok.mpr ⟨rest, hselected, rfl⟩⟩⟩

theorem runWindow_returns {canonical : List ValidDecision} {arranged : List CompletedOhlcvBar}
    (hbars : canonicalBars bars = .ok arranged) (hencodable : ∀ decision ∈ canonical, decision.Encodable)
    (hrange : ∀ decision ∈ canonical, IsDatetime (decision.generatedAt.instant + cost.timeframe))
    (costPerUnit : Decimal) : ∃ result, runWindow sha256 canonical arranged cost costPerUnit window = .ok result := by
  obtain ⟨selected, hselected⟩ := selectDecisions_returns window hrange
  obtain ⟨hmem, -, -⟩ := selectDecisions_ok hselected
  unfold runWindow
  rw [hselected, ok_bind]
  split
  · exact unsupportedResult_returns _ _ _
  obtain ⟨fills, hfills⟩ : ∃ fills, selected.mapM (fillDecision sha256 cost arranged) = .ok fills := by
    refine mapM_ok_of_forall fun decision hdecision => ?_
    unfold fillDecision
    rcases exactNextBarFill_cases sha256 hbars (hrange decision ((hmem decision).mp hdecision).1) with
      ⟨-, hfill⟩ | ⟨bar, -, -, hfill⟩
    · rw [hfill]
      exact ⟨_, rfl⟩
    · obtain ⟨fill, hfilled⟩ := fillAt_returns sha256 bar
      rw [hfill, hfilled]
      exact ⟨_, rfl⟩
  rw [hfills, ok_bind]
  split
  · exact unsupportedResult_returns _ _ _
  · rename_i typed htyped
    refine filledResult_returns (fun pair hpair => ?_) costPerUnit
    obtain ⟨filled, hfilled, heq, -⟩ := exists_of_mem_right (typedFills_some htyped) hpair
    obtain ⟨decision, hdecision, hfill⟩ := mem_of_mapM_ok hfills hfilled
    obtain ⟨fill, -, hpaired⟩ := bind_ok.mp hfill
    cases hpaired
    exact heq ▸ hencodable decision ((hmem decision).mp hdecision).1

/-- A run of decisions, bars and windows that do not collide returns, where the decisions can be hashed and their next
bars close at instants there are. -/
theorem runWalkForward_returns {canonical : List ValidDecision} {arranged : List CompletedOhlcvBar}
    {ordered : List WalkForwardWindow} (hdecisions : canonicalDecisions decisions = .ok canonical)
    (hbars : canonicalBars bars = .ok arranged) (hwindows : canonicalWindows windows = .ok ordered)
    (hencodable : ∀ decision ∈ decisions, decision.Encodable)
    (hrange : ∀ decision ∈ decisions, IsDatetime (decision.generatedAt.instant + cost.timeframe)) :
    ∃ evidence, runWalkForward sha256 decisions bars windows cost = .ok evidence := by
  have hknown {decision : ValidDecision} (h : decision ∈ canonical) : decision ∈ decisions :=
    arrange_known decisionsEqual_equivalence hdecisions h
  obtain ⟨results, hresults⟩ : ∃ results, ordered.mapM (windowOutcome sha256 cost canonical arranged) = .ok results := by
    refine mapM_ok_of_forall fun window _ => ?_
    unfold windowOutcome
    split
    · exact unsupportedResult_returns _ _ _
    split
    · exact unsupportedResult_returns _ _ _
    · exact runWindow_returns hbars (fun decision h => hencodable decision (hknown h))
        (fun decision h => hrange decision (hknown h)) _
  obtain ⟨evidence, hevidence⟩ := finishRun_returns sha256 cost arranged.isEmpty results
    (sourceDigests canonical cost) (capturedAtOf ordered)
  rw [runWalkForward_eq]
  exact ⟨evidence, bind_ok.mpr ⟨canonical, hdecisions, bind_ok.mpr ⟨arranged, hbars, bind_ok.mpr ⟨ordered, hwindows,
    bind_ok.mpr ⟨results, hresults, hevidence⟩⟩⟩⟩⟩

/-- The evidence of a run is that of its decisions, bars and windows in whatever order and copies they come; no decision
is counted twice; a result looks at nothing outside its window; and what is available was filled and summed. -/
theorem walk_forward_evidence_law (hbars : bars ≠ [])
    (h : runWalkForward sha256 decisions bars windows cost = .ok evidence) :
    (∀ decisions' bars' windows', (∀ decision, decision ∈ decisions' ↔ decision ∈ decisions) →
        (∀ bar, bar ∈ bars' ↔ bar ∈ bars) → windows'.Perm windows →
        ∃ evidence', runWalkForward sha256 decisions' bars' windows' cost = .ok evidence' ∧ evidence.Same evidence') ∧
      ((evidence.windows.map (·.window)).Perm windows ∧
        evidence.windows.Pairwise fun a b =>
          ∀ decision, Counted cost a.window decision → ¬Counted cost b.window decision) ∧
      (∀ decisions' bars' windows' evidence', bars' ≠ [] →
        runWalkForward sha256 decisions' bars' windows' cost = .ok evidence' →
        ∀ result ∈ evidence.windows, ∀ result' ∈ evidence'.windows, result'.window = result.window →
          (∀ decision, InTest result.window decision → (decision ∈ decisions ↔ decision ∈ decisions')) →
          (∀ bar, bar.timestamp ≤ result.window.testEndedAt.instant → (bar ∈ bars ↔ bar ∈ bars')) →
          result.Same result') ∧
      (evidence.state = .available →
        Summed evidence ∧ ∀ result ∈ evidence.windows, Tallied cost decisions bars result) :=
  ⟨fun _ _ _ => runWalkForward_same h, runWalkForward_once h,
    fun _ _ _ _ hbars' h' _ hresult _ => runWalkForward_local h h' hbars hbars' hresult, runWalkForward_available h⟩

end Runs

/-! One purchase, the bar that closes a microsecond after it, and a window around them. -/

theorem low_positive : 0 < (Decimal.ofNat 90).toRat := by norm_num [Decimal.ofNat, Decimal.toRat]

theorem low_least : (Decimal.ofNat 90).toRat ≤ (Decimal.ofNat 100).toRat := by norm_num [Decimal.ofNat, Decimal.toRat]

theorem high_greatest : (Decimal.ofNat 100).toRat ≤ (Decimal.ofNat 110).toRat := by norm_num [Decimal.ofNat, Decimal.toRat]

theorem close_above : (Decimal.ofNat 90).toRat ≤ (Decimal.ofNat 110).toRat := by norm_num [Decimal.ofNat, Decimal.toRat]

theorem close_highest : (Decimal.ofNat 110).toRat ≤ (Decimal.ofNat 110).toRat := by norm_num [Decimal.ofNat, Decimal.toRat]

theorem volume_some : 0 ≤ (Decimal.ofNat 7).toRat := by norm_num [Decimal.ofNat, Decimal.toRat]

def nextBar : CompletedOhlcvBar where
  timestamp := 1
  open_ := .ofNat 100
  high := .ofNat 110
  low := .ofNat 90
  close := .ofNat 110
  volume := .ofNat 7
  low_pos := low_positive
  low_le_open := low_least
  open_le_high := high_greatest
  low_le_close := close_above
  close_le_high := close_highest
  volume_nonneg := volume_some

theorem microsecond_positive : (0 : ℤ) < 1 := by decide

theorem microsecond_cost : ∀ cost ∈ some (Decimal.ofNat 2), 0 ≤ cost.toRat := by
  rintro _ ⟨⟩
  norm_num [Decimal.ofNat, Decimal.toRat]

def microsecondCost : CostModel where
  timeframe := 1
  roundTripCostPerUnit := some (.ofNat 2)
  costSourceDigest := some 5
  barSourceDigest := 6
  timeframe_pos := microsecond_positive
  cost_nonneg := microsecond_cost
  supported := rfl

theorem trainStart_valid : IsDatetime (-2) := by decide

theorem testEnd_valid : IsDatetime ((2 : Fin 256) : ℤ) := purchase_datetime 2

theorem train_before : (-2 : Instant) < ((0 : Fin 256) : ℤ) := by decide

theorem test_forward : (((0 : Fin 256) : ℕ) : Instant) < (((2 : Fin 256) : ℕ) : ℤ) := by decide

theorem train_apart : (((0 : Fin 256) : ℕ) : Instant) ≤ (((0 : Fin 256) : ℕ) : ℤ) := by decide

def microsecondWindow : WalkForwardWindow where
  trainStartedAt := ⟨_, trainStart_valid⟩
  trainEndedAt := ⟨_, purchased_datetime⟩
  testStartedAt := ⟨_, purchased_datetime⟩
  testEndedAt := ⟨_, testEnd_valid⟩
  train_positive := train_before
  test_positive := test_forward
  apart := train_apart

theorem microsecondRun_returns :
    ∃ evidence, runWalkForward (fun text => BitVec.ofNat 256 text.length) [shortPurchase] [nextBar] [microsecondWindow]
      microsecondCost = .ok evidence := by
  have hdecisions : canonicalDecisions [shortPurchase] = .ok [shortPurchase] := rfl
  have hbars : canonicalBars [nextBar] = .ok [nextBar] := rfl
  have hwindows : canonicalWindows [microsecondWindow] = .ok [microsecondWindow] := rfl
  refine runWalkForward_returns hdecisions hbars hwindows (fun decision hdecision => ?_) fun decision hdecision => ?_
  · rw [List.mem_singleton.mp hdecision]
    exact purchase_encodable _
  · rw [List.mem_singleton.mp hdecision]
    exact purchase_datetime 1

theorem walk_forward_evidence_law_duplicates :
    ∃ evidence evidence', runWalkForward (fun text => BitVec.ofNat 256 text.length) [shortPurchase] [nextBar]
        [microsecondWindow] microsecondCost = .ok evidence ∧
      runWalkForward (fun text => BitVec.ofNat 256 text.length) [shortPurchase, shortPurchase] [nextBar, nextBar]
        [microsecondWindow] microsecondCost = .ok evidence' ∧ evidence.Same evidence' := by
  obtain ⟨evidence, hrun⟩ := microsecondRun_returns
  have hlaw := walk_forward_evidence_law (List.cons_ne_nil _ _) hrun
  obtain ⟨evidence', hrun', hsame⟩ := hlaw.1 [shortPurchase, shortPurchase] [nextBar, nextBar] [microsecondWindow]
    (fun _ => by simp) (fun _ => by simp) (.refl _)
  exact ⟨evidence, evidence', hrun, hrun', hsame⟩

end AutoTrader.Research
