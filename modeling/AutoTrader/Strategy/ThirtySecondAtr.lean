import AutoTrader.Domain.DecimalRounding
import AutoTrader.Runtime.Pointwise
import AutoTrader.Runtime.Sequences
import AutoTrader.Strategy.BigTrades

/-! The average true range of the thirty-second bars, and on which of the tapes whose order flow is unavailable
it is unavailable too. -/

namespace AutoTrader.Strategy

open AutoTrader.Domain AutoTrader.Numeric AutoTrader.Runtime

/-! ### The bars of prints that may lack a field -/

/-- `Decimal + None`. -/
def missingNotional : PyError :=
  ⟨.typeError, "unsupported operand type(s) for +: 'decimal.Decimal' and 'NoneType'"⟩

/-- The bar of a group; its profile adds up the notional of every print. -/
def checkedFlowBar (index : Int) (group : List TradePrint) : Except PyError FlowBar :=
  if group.any fun trade => trade.notional.isNone then .error missingNotional else .ok (flowBar index group)

/-- The half-minutes that hold a print and end inside the window. -/
def halfMinutes (trades : List TradePrint) (start windowEnd : Instant) : List Int :=
  ((trades.map (barIndex start)).dedup.insertionSort (· ≤ ·)).filter fun index =>
    start + (index + 1) * thirtySeconds ≤ windowEnd

/-- The prints of a half-minute. -/
def printsOf (trades : List TradePrint) (start : Instant) (index : Int) : List TradePrint :=
  trades.filter (barIndex start · = index)

/-- `_flow_bars`. -/
def checkedFlowBars (trades : List TradePrint) (start windowEnd : Instant) : Except PyError (List FlowBar) :=
  (halfMinutes trades start windowEnd).mapM fun index => checkedFlowBar index (printsOf trades start index)

/-! ### The average -/

def thirtySecondAtrWindow : Int := 14

def trueRange (previous current : FlowBar) : ℚ :=
  max (max (rounded (current.high - current.low)) |rounded (current.high - previous.close)|)
    |rounded (current.low - previous.close)|

/-- The prints inside the window. -/
def inWindow (trades : List TradePrint) (windowStart windowEnd : Instant) : List TradePrint :=
  trades.filter fun trade => windowStart ≤ trade.occurredAt ∧ trade.occurredAt < windowEnd

/-- The average true range of the last bars. -/
def averageRange (window : Int) (bars : List FlowBar) : Except PyError (Option ℚ) :=
  if bars.length ≤ window then pure none
  else
    let recent := sliceFrom (-window - 1) bars
    let ranges := (recent.zip recent.tail).map fun (previous, current) => trueRange previous current
    if ranges = [] then .error ⟨.invalidOperation, "[<class 'decimal.DivisionUndefined'>]"⟩
    else
      let average := rounded (sumSig 28 ranges / ranges.length)
      pure (if 0 < average then some average else none)

def thirtySecondAtr (trades : List TradePrint) (windowStart windowEnd : Instant) (window : Int) :
    Except PyError (Option ℚ) :=
  if windowEnd ≤ windowStart then .error ⟨.valueError, "the thirty-second window must be positive"⟩
  else do
    let deduplicated ← deduplicateTrades (inWindow trades windowStart windowEnd)
    let bars ← checkedFlowBars deduplicated windowStart windowEnd
    averageRange window bars

variable {trades group : List TradePrint} {start windowEnd : Instant}

theorem mem_printsOf {index : Int} {trade : TradePrint} :
    trade ∈ printsOf trades start index ↔ trade ∈ trades ∧ barIndex start trade = index := by
  rw [printsOf, List.mem_filter, decide_eq_true_eq]

/-- A print of a half-minute that ends inside the window. -/
def InBar (start windowEnd : Instant) (trade : TradePrint) : Prop :=
  start + (barIndex start trade + 1) * thirtySeconds ≤ windowEnd

instance (start windowEnd : Instant) (trade : TradePrint) : Decidable (InBar start windowEnd trade) :=
  inferInstanceAs (Decidable (_ ≤ _))

theorem mem_halfMinutes {index : Int} :
    index ∈ halfMinutes trades start windowEnd ↔
      ∃ trade ∈ trades, barIndex start trade = index ∧ InBar start windowEnd trade := by
  rw [halfMinutes, List.mem_filter, List.mem_insertionSort, List.mem_dedup, List.mem_map, decide_eq_true_eq]
  constructor
  · rintro ⟨⟨trade, hmem, rfl⟩, hend⟩
    exact ⟨trade, hmem, rfl, hend⟩
  · rintro ⟨trade, hmem, rfl, hend⟩
    exact ⟨⟨trade, hmem, rfl⟩, hend⟩

theorem checkedFlowBar_ok {index : Int} {bar : FlowBar} :
    checkedFlowBar index group = .ok bar ↔ (∀ trade ∈ group, trade.notional ≠ none) ∧ flowBar index group = bar := by
  have hcheck : (group.any fun trade => trade.notional.isNone) = true ↔ ¬∀ trade ∈ group, trade.notional ≠ none := by
    simp
  unfold checkedFlowBar
  split
  · rename_i hany
    constructor
    · intro h
      cases h
    · rintro ⟨hall, -⟩
      exact absurd hall (hcheck.mp hany)
  · rename_i hany
    rw [hcheck, not_not] at hany
    rw [Except.ok.injEq]
    exact (and_iff_right hany).symm

/-- The bars are built exactly when every print in one of them has its notional. -/
theorem checkedFlowBars_ok {bars : List FlowBar} :
    checkedFlowBars trades start windowEnd = .ok bars ↔
      (∀ trade ∈ trades, InBar start windowEnd trade → trade.notional ≠ none) ∧
        flowBars trades start windowEnd = bars := by
  by_cases hfull : ∀ trade ∈ trades, InBar start windowEnd trade → trade.notional ≠ none
  · have hbuilt : checkedFlowBars trades start windowEnd = .ok (flowBars trades start windowEnd) := by
      refine mapM_ok_map fun index hindex => checkedFlowBar_ok.mpr ⟨fun trade htrade => ?_, rfl⟩
      obtain ⟨other, -, hother, hend⟩ := mem_halfMinutes.mp hindex
      obtain ⟨hmem, hbar⟩ := mem_printsOf.mp htrade
      refine hfull trade hmem ?_
      unfold InBar at hend ⊢
      rwa [hbar, ← hother]
    rw [hbuilt, Except.ok.injEq]
    exact (and_iff_right hfull).symm
  · refine ⟨fun h => absurd (fun trade hmem hin => ?_) hfull, fun h => absurd h.1 hfull⟩
    obtain ⟨bar, hbar⟩ := exists_of_mapM_ok h (mem_halfMinutes.mpr ⟨trade, hmem, rfl, hin⟩)
    exact (checkedFlowBar_ok.mp hbar).1 trade (mem_printsOf.mpr ⟨hmem, rfl⟩)

/-! ### Ranges of nothing -/

theorem trueRange_nonneg (previous current : FlowBar) : 0 ≤ trueRange previous current :=
  (abs_nonneg _).trans (le_max_right _ _)

theorem rounded_sub_eq_zero {a b : ℚ} : rounded (a - b) = 0 ↔ a = b :=
  Decimal.roundSig_eq_zero.trans sub_eq_zero

theorem trueRange_eq_zero {previous current : FlowBar} :
    trueRange previous current = 0 ↔ current.high = previous.close ∧ current.low = previous.close := by
  constructor
  · intro h
    have hhigh : |rounded (current.high - previous.close)| ≤ 0 := h ▸ (le_max_right _ _).trans (le_max_left _ _)
    have hlow : |rounded (current.low - previous.close)| ≤ 0 := h ▸ le_max_right _ _
    exact ⟨rounded_sub_eq_zero.mp (abs_nonpos_iff.mp hhigh), rounded_sub_eq_zero.mp (abs_nonpos_iff.mp hlow)⟩
  · rintro ⟨hhigh, hlow⟩
    rw [trueRange, hhigh, hlow, sub_self, rounded, roundSig_zero, abs_zero, max_self, max_self]

/-- Amounts that are not negative add up to nothing only when each of them is nothing. -/
theorem sumSig_eq_zero {amounts : List ℚ} (h : ∀ amount ∈ amounts, 0 ≤ amount) :
    sumSig 28 amounts = 0 ↔ ∀ amount ∈ amounts, amount = 0 := by
  induction amounts using List.reverseRecOn with
  | nil => exact ⟨fun _ amount hamount => absurd hamount List.not_mem_nil, fun _ => rfl⟩
  | append_singleton amounts amount ih =>
    have hbefore : ∀ other ∈ amounts, 0 ≤ other := fun other hother => h other (List.mem_append_left _ hother)
    rw [sumSig_concat, Decimal.roundSig_eq_zero,
      add_eq_zero_iff_of_nonneg (sumSig_nonneg (by decide) hbefore) (h amount (by simp)), ih hbefore]
    simp only [List.mem_append, List.mem_singleton, or_imp, forall_and, forall_eq]

/-- A group trades at one price throughout. -/
theorem flowBar_flat {index : Int} {price : ℚ} (hne : group ≠ []) :
    (flowBar index group).high = price ∧ (flowBar index group).low = price ↔ ∀ trade ∈ group, trade.level = price := by
  have hlevels : group.map (·.level) ≠ [] := fun h => hne (List.map_eq_nil_iff.mp h)
  obtain ⟨top, htop⟩ := Option.ne_none_iff_exists'.mp (mt List.max?_eq_none_iff.mp hlevels)
  obtain ⟨bottom, hbottom⟩ := Option.ne_none_iff_exists'.mp (mt List.min?_eq_none_iff.mp hlevels)
  have hhigh : (flowBar index group).high = top := by
    simp only [flowBar, htop, Option.getD_some]
  have hlow : (flowBar index group).low = bottom := by
    simp only [flowBar, hbottom, Option.getD_some]
  obtain ⟨htopMem, hle⟩ := List.max?_eq_some_iff.mp htop
  obtain ⟨hbottomMem, hge⟩ := List.min?_eq_some_iff.mp hbottom
  rw [hhigh, hlow]
  constructor
  · rintro ⟨rfl, rfl⟩ trade htrade
    have hmem := List.mem_map_of_mem (f := (·.level)) htrade
    exact le_antisymm (hle _ hmem) (hge _ hmem)
  · intro hall
    obtain ⟨highest, hhighest, rfl⟩ := List.mem_map.mp htopMem
    obtain ⟨lowest, hlowest, rfl⟩ := List.mem_map.mp hbottomMem
    exact ⟨hall highest hhighest, hall lowest hlowest⟩

theorem flowBar_close {index : Int} {price : ℚ} (hne : group ≠ []) (h : ∀ trade ∈ group, trade.level = price) :
    (flowBar index group).close = price := by
  simp only [flowBar, List.getLast?_eq_some_getLast hne, Option.map_some, Option.getD_some]
  exact h _ (List.getLast_mem hne)

/-- Bar after bar there is no range: from the first close on the price stays. -/
theorem flat_from_first {groups : Int → List TradePrint} {first : Int} {rest : List Int}
    (hne : ∀ index ∈ first :: rest, groups index ≠ []) :
    (∀ pair ∈ (first :: rest).zip rest, ∀ trade ∈ groups pair.2,
        trade.level = (flowBar pair.1 (groups pair.1)).close) ↔
      ∀ index ∈ rest, ∀ trade ∈ groups index, trade.level = (flowBar first (groups first)).close := by
  induction rest generalizing first with
  | nil => simp
  | cons second rest ih =>
    have ih := ih fun index hindex => hne index (List.mem_cons_of_mem _ hindex)
    have hsecond : groups second ≠ [] := hne second (by simp)
    rw [List.zip_cons_cons]
    constructor
    · intro h
      have hflat := h (first, second) List.mem_cons_self
      have hclose : (flowBar second (groups second)).close = (flowBar first (groups first)).close :=
        flowBar_close hsecond hflat
      intro index hindex
      rcases List.mem_cons.mp hindex with rfl | hindex
      · exact hflat
      · rw [← hclose]
        exact ih.mp (fun pair hpair => h pair (List.mem_cons_of_mem _ hpair)) index hindex
    · intro h pair hpair
      have hclose : (flowBar second (groups second)).close = (flowBar first (groups first)).close :=
        flowBar_close hsecond (h second List.mem_cons_self)
      rcases List.mem_cons.mp hpair with rfl | hpair
      · exact h second List.mem_cons_self
      · refine ih.mpr (fun index hindex => ?_) pair hpair
        rw [hclose]
        exact h index (List.mem_cons_of_mem _ hindex)

/-! ### The tapes on which the average is unavailable -/

theorem averageRange_none {window : Int} {bars : List FlowBar} :
    averageRange window bars = .ok none ↔
      bars.length ≤ window ∨ (sliceFrom (-window - 1) bars).tail ≠ [] ∧
        ∀ pair ∈ (sliceFrom (-window - 1) bars).zip (sliceFrom (-window - 1) bars).tail, trueRange pair.1 pair.2 = 0 := by
  unfold averageRange
  by_cases hfew : bars.length ≤ window
  · rw [if_pos hfew]
    exact ⟨fun _ => .inl hfew, fun _ => rfl⟩
  rw [if_neg hfew, or_iff_right hfew]
  generalize sliceFrom (-window - 1) bars = recent
  set ranges := (recent.zip recent.tail).map fun (previous, current) => trueRange previous current with hranges
  have hempty : ranges = [] ↔ recent.tail = [] := by
    cases recent <;> simp [hranges, List.zip_eq_nil_iff]
  dsimp only
  by_cases hnone : ranges = []
  · rw [if_pos hnone]
    exact ⟨fun h => (nomatch h), fun h => absurd (hempty.mp hnone) h.1⟩
  have hnonneg : ∀ range ∈ ranges, 0 ≤ range := by
    intro range hrange
    obtain ⟨pair, -, rfl⟩ := List.mem_map.mp hrange
    exact trueRange_nonneg _ _
  have hlength : (0 : ℚ) < ranges.length := by exact_mod_cast List.length_pos_iff.mpr hnone
  have haverage : 0 < rounded (sumSig 28 ranges / ranges.length) ↔ ¬∀ range ∈ ranges, range = 0 := by
    have hsum : 0 ≤ sumSig 28 ranges / ranges.length := div_nonneg (sumSig_nonneg (by decide) hnonneg) hlength.le
    have hround : 0 ≤ rounded (sumSig 28 ranges / ranges.length) := roundSig_nonneg (by decide) hsum
    have hzero : rounded (sumSig 28 ranges / ranges.length) = 0 ↔ ∀ range ∈ ranges, range = 0 := by
      rw [← sumSig_eq_zero hnonneg]
      exact Decimal.roundSig_eq_zero.trans (div_eq_zero_iff.trans (or_iff_left hlength.ne'))
    rw [hround.lt_iff_ne', ne_eq, hzero]
  rw [if_neg hnone, and_iff_right (mt hempty.mpr hnone)]
  have hall : (∀ range ∈ ranges, range = 0) ↔ ∀ pair ∈ recent.zip recent.tail, trueRange pair.1 pair.2 = 0 :=
    List.forall_mem_map
  rw [← hall]
  by_cases hzero : ∀ range ∈ ranges, range = 0
  · rw [if_neg (haverage.not.mpr (not_not.mpr hzero))]
    exact ⟨fun _ => hzero, fun _ => rfl⟩
  · rw [if_pos (haverage.mpr hzero)]
    exact ⟨fun h => (nomatch h), fun h => absurd h hzero⟩

/-- There is a half-minute after the first, and from the closing print of the first on the price stays. -/
def OnePrice (tape : List TradePrint) (start : Instant) (indexes : List Int) : Prop :=
  indexes.tail ≠ [] ∧ ∃ closing ∈ tape, indexes.head? = some (barIndex start closing) ∧
    (∀ trade ∈ tape, barIndex start trade = barIndex start closing → trade.Precedes closing) ∧
    ∀ trade ∈ tape, barIndex start trade ∈ indexes.tail → trade.price = closing.price

theorem halfMinutes_congr {tape : List TradePrint} (h : ∀ trade, trade ∈ trades ↔ trade ∈ tape) :
    halfMinutes trades start windowEnd = halfMinutes tape start windowEnd := by
  refine congrArg (List.filter _) (List.Perm.eq_of_pairwise (fun a b _ _ => le_antisymm)
    (List.pairwise_insertionSort _ _) (List.pairwise_insertionSort _ _) ?_)
  refine (List.perm_insertionSort _ _).trans (List.Perm.trans ?_ (List.perm_insertionSort _ _).symm)
  rw [List.perm_ext_iff_of_nodup (List.nodup_dedup _) (List.nodup_dedup _)]
  intro index
  simp only [List.mem_dedup, List.mem_map, h]

theorem price_of_notional {trade : TradePrint} (h : trade.notional ≠ none) : trade.price = some trade.level := by
  unfold TradePrint.notional at h
  unfold TradePrint.level
  cases hprice : trade.price with
  | none =>
    rw [hprice] at h
    exact absurd rfl h
  | some price => rfl

/-- The close of a half-minute is the level of the print no other one of it follows. -/
theorem close_of_closing {tape : List TradePrint} (hname : OneName tape) (hdistinct : Distinct tape trades)
    {closing : TradePrint} (hmem : closing ∈ tape)
    (hlast : ∀ trade ∈ tape, barIndex start trade = barIndex start closing → trade.Precedes closing) :
    (flowBar (barIndex start closing) (printsOf trades start (barIndex start closing))).close = closing.level := by
  have hin : closing ∈ printsOf trades start (barIndex start closing) :=
    mem_printsOf.mpr ⟨(hdistinct.mem closing).mpr hmem, rfl⟩
  have hne : printsOf trades start (barIndex start closing) ≠ [] := List.ne_nil_of_mem hin
  have hafter : closing.Precedes ((printsOf trades start (barIndex start closing)).getLast hne) :=
    (hdistinct.ordered.filter _).rel_getLast_of_rel_getLast_getLast hin (.inr ⟨rfl, le_rfl⟩)
  obtain ⟨hlastMem, hlastBar⟩ := mem_printsOf.mp (List.getLast_mem hne)
  have hsame : (printsOf trades start (barIndex start closing)).getLast hne = closing :=
    hname _ ((hdistinct.mem _).mp hlastMem) _ hmem
      ((hlast _ ((hdistinct.mem _).mp hlastMem) hlastBar).antisymm hafter)
  simp only [flowBar, List.getLast?_eq_some_getLast hne, Option.map_some, Option.getD_some, hsame]

/-- No range among these bars means one price in the tape. -/
theorem noRange_iff {tape : List TradePrint} (hname : OneName tape) (hdistinct : Distinct tape trades)
    (hfull : ∀ trade ∈ tape, InBar start windowEnd trade → trade.notional ≠ none) {indexes : List Int}
    (hindexes : ∀ index ∈ indexes, index ∈ halfMinutes tape start windowEnd) :
    (indexes.tail ≠ [] ∧ ∀ pair ∈ indexes.zip indexes.tail,
        trueRange (flowBar pair.1 (printsOf trades start pair.1)) (flowBar pair.2 (printsOf trades start pair.2)) = 0) ↔
      OnePrice tape start indexes := by
  cases indexes with
  | nil => exact ⟨fun h => absurd rfl h.1, fun h => absurd rfl h.1⟩
  | cons first rest =>
    have hne : ∀ index ∈ first :: rest, printsOf trades start index ≠ [] := by
      intro index hindex
      obtain ⟨trade, hmem, hbar, -⟩ := mem_halfMinutes.mp (hindexes index hindex)
      exact List.ne_nil_of_mem (mem_printsOf.mpr ⟨(hdistinct.mem trade).mpr hmem, hbar⟩)
    have hprice : ∀ trade ∈ tape, barIndex start trade ∈ first :: rest → trade.price = some trade.level := by
      intro trade hmem hbar
      obtain ⟨other, -, hother, hend⟩ := mem_halfMinutes.mp (hindexes _ hbar)
      refine price_of_notional (hfull trade hmem ?_)
      unfold InBar at hend ⊢
      rwa [← hother]
    have hflat : (∀ pair ∈ (first :: rest).zip rest,
          trueRange (flowBar pair.1 (printsOf trades start pair.1)) (flowBar pair.2 (printsOf trades start pair.2)) = 0) ↔
        ∀ index ∈ rest, ∀ trade ∈ printsOf trades start index,
          trade.level = (flowBar first (printsOf trades start first)).close := by
      rw [← flat_from_first hne]
      refine forall₂_congr fun pair hpair => ?_
      rw [trueRange_eq_zero]
      exact flowBar_flat (hne _ (List.mem_cons_of_mem _ (List.of_mem_zip hpair).2))
    refine and_congr_right fun _ => ?_
    rw [List.tail_cons, hflat]
    constructor
    · intro h
      have hfirst : printsOf trades start first ≠ [] := hne first List.mem_cons_self
      obtain ⟨hmem, hbar⟩ := mem_printsOf.mp (List.getLast_mem hfirst)
      have hclosing := (hdistinct.mem _).mp hmem
      refine ⟨_, hclosing, ?_, ?_, ?_⟩
      · rw [hbar, List.head?_cons]
      · rw [hbar]
        intro trade htrade hsame
        exact (hdistinct.ordered.filter _).rel_getLast_of_rel_getLast_getLast
          (mem_printsOf.mpr ⟨(hdistinct.mem trade).mpr htrade, hsame⟩) (.inr ⟨rfl, le_rfl⟩)
      · intro trade htrade hrest
        have hclosingPrice := hprice _ hclosing (by rw [hbar]; exact List.mem_cons_self)
        rw [hprice trade htrade (List.mem_cons_of_mem _ hrest), hclosingPrice]
        refine congrArg some ((h _ hrest trade (mem_printsOf.mpr ⟨(hdistinct.mem trade).mpr htrade, rfl⟩)).trans ?_)
        simp only [flowBar, List.getLast?_eq_some_getLast hfirst, Option.map_some, Option.getD_some]
    · rintro ⟨closing, hclosing, hhead, hlast, hone⟩ index hindex trade htrade
      obtain ⟨hmem, rfl⟩ := mem_printsOf.mp htrade
      have htape := (hdistinct.mem trade).mp hmem
      have hfirst : first = barIndex start closing := Option.some.inj hhead
      have heq := hone trade htape hindex
      rw [hprice trade htape (List.mem_cons_of_mem _ hindex),
        hprice closing hclosing (hfirst ▸ List.mem_cons_self)] at heq
      rw [hfirst, close_of_closing hname hdistinct hclosing hlast]
      exact Option.some.inj heq

/-- An order flow is unavailable only where a print of the window lacks a field. -/
theorem aggregateOrderFlow_unavailable {windowStart : Instant} {thresholds : OrderFlowThresholds} {facts : OrderFlowFacts}
    (h : aggregateOrderFlow trades windowStart windowEnd thresholds = .ok facts) (hstate : facts.state = .unavailable) :
    windowStart < windowEnd ∧ OneName (inWindow trades windowStart windowEnd) ∧
      ∃ trade ∈ inWindow trades windowStart windowEnd, trade.notional = none := by
  unfold aggregateOrderFlow at h
  split at h
  · cases h
  · rename_i hwindow
    obtain ⟨deduplicated, hdedup, h⟩ := bind_ok.mp h
    refine ⟨not_le.mp hwindow, ?_, ?_⟩
    · by_contra hname
      rw [inWindow] at hname
      rw [deduplicateTrades_collision hname] at hdedup
      cases hdedup
    · split at h
      · rename_i hmissing
        obtain ⟨trade, hmem, hnone⟩ := List.any_eq_true.mp hmissing
        exact ⟨trade, ((deduplicateTrades_ok hdedup).mem trade).mp hmem, Option.isNone_iff_eq_none.mp hnone⟩
      · obtain ⟨threshold, -, h⟩ := bind_ok.mp h
        obtain ⟨markers, -, h⟩ := bind_ok.mp h
        cases h
        dsimp only at hstate
        split at hstate <;> cases hstate

/-- The average of a tape whose order flow is unavailable is unavailable exactly when the prints that lack a field
lie behind the last whole half-minute and either too few half-minutes are left or their price stands still. -/
theorem thirtySecondAtr_unavailable_iff {windowStart : Instant} {thresholds : OrderFlowThresholds} {facts : OrderFlowFacts}
    {window : Int} (h : aggregateOrderFlow trades windowStart windowEnd thresholds = .ok facts)
    (hstate : facts.state = .unavailable) :
    (∃ trade ∈ inWindow trades windowStart windowEnd, trade.notional = none) ∧
      (thirtySecondAtr trades windowStart windowEnd window = .ok none ↔
        (∀ trade ∈ inWindow trades windowStart windowEnd, InBar windowStart windowEnd trade → trade.notional ≠ none) ∧
          ((halfMinutes (inWindow trades windowStart windowEnd) windowStart windowEnd).length ≤ window ∨
            OnePrice (inWindow trades windowStart windowEnd) windowStart
              (sliceFrom (-window - 1) (halfMinutes (inWindow trades windowStart windowEnd) windowStart windowEnd)))) := by
  obtain ⟨hwindow, hname, hmissing⟩ := aggregateOrderFlow_unavailable h hstate
  refine ⟨hmissing, ?_⟩
  have hdistinct := deduplicateTrades_ok (deduplicateTrades_eq hname)
  set tape := inWindow trades windowStart windowEnd
  set deduplicated := tape.dedup.insertionSort TradePrint.Precedes
  have hindexes : halfMinutes deduplicated windowStart windowEnd = halfMinutes tape windowStart windowEnd :=
    halfMinutes_congr hdistinct.mem
  have hrun : thirtySecondAtr trades windowStart windowEnd window = .ok none ↔
      ∃ bars, checkedFlowBars deduplicated windowStart windowEnd = .ok bars ∧ averageRange window bars = .ok none := by
    unfold thirtySecondAtr
    rw [if_neg (not_le.mpr hwindow), deduplicateTrades_eq hname, ok_bind, bind_ok]
  rw [hrun]
  simp only [checkedFlowBars_ok, hdistinct.mem, and_assoc, exists_and_left, exists_eq_left']
  refine and_congr_right fun hfull => ?_
  have hbars : flowBars deduplicated windowStart windowEnd =
      (halfMinutes tape windowStart windowEnd).map fun index => flowBar index (printsOf deduplicated windowStart index) := by
    rw [← hindexes]
    rfl
  rw [hbars, averageRange_none, List.length_map, sliceFrom_map, ← List.map_tail, List.zip_map, List.forall_mem_map]
  refine or_congr_right ?_
  rw [ne_eq, List.map_eq_nil_iff]
  exact noRange_iff hname hdistinct hfull fun index hindex => mem_of_mem_sliceFrom hindex

theorem unpriced_trimmed : untrimmed "1" = false := by decide

theorem unpriced_none : ∀ value ∈ (none : Option ℚ), 0 < value := nofun

/-- A print the venue sent neither a price nor a quantity for. -/
def unpricedPrint : TradePrint where
  providerTradeId := "1"
  occurredAt := 0
  price := none
  quantity := none
  buyerMaker := some true
  trimmed := unpriced_trimmed
  positivePrice := unpriced_none
  positiveQuantity := unpriced_none

/-- Fifteen seconds hold no whole half-minute. -/
theorem thirtySecondAtr_unavailable_clipped :
    thirtySecondAtr [unpricedPrint] 0 (15 * 10 ^ 6) thirtySecondAtrWindow = .ok none := by
  have hflow : aggregateOrderFlow [unpricedPrint] 0 (15 * 10 ^ 6) unitThresholds = .ok unavailableOrderFlow := by
    decide +kernel
  refine (thirtySecondAtr_unavailable_iff hflow rfl).2.mpr ⟨?_, .inl ?_⟩ <;> decide +kernel

/-- Thirty seconds do, and the average raises. -/
theorem thirtySecondAtr_raises :
    aggregateOrderFlow [unpricedPrint] 0 (30 * 10 ^ 6) unitThresholds = .ok unavailableOrderFlow ∧
      unavailableOrderFlow.state = .unavailable ∧
      thirtySecondAtr [unpricedPrint] 0 (30 * 10 ^ 6) thirtySecondAtrWindow = .error missingNotional := by
  refine ⟨?_, rfl, ?_⟩ <;> decide +kernel

end AutoTrader.Strategy
