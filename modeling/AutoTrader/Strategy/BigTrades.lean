import AutoTrader.Runtime.Pointwise
import AutoTrader.Strategy.DistinctTrades

/-! The big trades of a window. Its events are consecutive parts of the tape of trades with an aggressor, and
the markers stand for the largest events that qualify, in the order of time. -/

namespace AutoTrader.Strategy

open AutoTrader.Domain AutoTrader.Numeric AutoTrader.Runtime

variable {thresholds : OrderFlowThresholds}

/-! ### Events -/

theorem addToEvents_flatten (groups : List (List TradePrint)) (trade : TradePrint) :
    (addToEvents thresholds groups trade).flatten = groups.flatten ++ [trade] := by
  unfold addToEvents
  cases hlast : groups.getLast? with
  | none =>
    rw [List.getLast?_eq_none_iff.mp hlast]
    rfl
  | some group =>
    dsimp only
    split
    · obtain ⟨before, rfl⟩ := List.getLast?_eq_some_iff.mp hlast
      rw [List.dropLast_concat, List.flatten_append, List.flatten_append, List.flatten_singleton, List.flatten_singleton,
        List.append_assoc]
    · rw [List.flatten_append, List.flatten_singleton]

/-- Every trade of the tape is in one event, where it stood. -/
theorem events_flatten (thresholds : OrderFlowThresholds) (tape : List TradePrint) : (events thresholds tape).flatten = tape := by
  induction tape using List.reverseRecOn with
  | nil => rfl
  | append_singleton tape trade ih =>
    unfold events at ih ⊢
    rw [List.foldl_append]
    exact (addToEvents_flatten _ trade).trans (by rw [ih])

theorem events_ne_nil (tape : List TradePrint) : ∀ event ∈ events thresholds tape, event ≠ [] := by
  induction tape using List.reverseRecOn with
  | nil => exact fun event hevent => absurd hevent List.not_mem_nil
  | append_singleton tape trade ih =>
    unfold events at ih ⊢
    rw [List.foldl_append]
    generalize tape.foldl (addToEvents thresholds) [] = groups at ih ⊢
    show ∀ event ∈ addToEvents thresholds groups trade, event ≠ []
    unfold addToEvents
    cases hlast : groups.getLast? with
    | none => simp
    | some group =>
      dsimp only
      split
      · intro event hevent
        rcases List.mem_append.mp hevent with hevent | hevent
        · exact ih event (List.mem_of_mem_dropLast hevent)
        · rw [List.mem_singleton.mp hevent]
          exact List.append_ne_nil_of_right_ne_nil _ (List.cons_ne_nil _ _)
      · intro event hevent
        rcases List.mem_append.mp hevent with hevent | hevent
        · exact ih event hevent
        · rw [List.mem_singleton.mp hevent]
          exact List.cons_ne_nil _ _

/-! ### The cut -/

/-- Of a list in order, what is cut off comes after what is kept. -/
theorem rel_of_take {α : Type} {r : α → α → Prop} {ranked : List α} (h : ranked.Pairwise r) {k : Nat} {kept cut : α}
    (hkept : kept ∈ ranked.take k) (hcut : cut ∈ ranked) (hnot : cut ∉ ranked.take k) : r kept cut := by
  rw [← List.take_append_drop k ranked] at h hcut
  exact (List.pairwise_append.mp h).2.2 kept hkept cut ((List.mem_append.mp hcut).resolve_left hnot)

instance : Std.Total Outranks where
  total a b := by
    rcases lt_trichotomy a.1 b.1 with h | h | h
    · exact .inr (.inl h)
    · exact (le_total a.2 b.2).elim (fun hle => .inr (.inr ⟨h.symm, hle⟩)) fun hle => .inl (.inr ⟨h, hle⟩)
    · exact .inl (.inl h)

instance : IsTrans (ℚ × Nat) Outranks where
  trans a b c := by
    rintro (hab | ⟨hab, hle⟩) (hbc | ⟨hbc, hle'⟩)
    · exact .inl (hbc.trans hab)
    · exact .inl (hbc ▸ hab)
    · exact .inl (hab ▸ hbc)
    · exact .inr ⟨hab.trans hbc, hle'.trans hle⟩

/-- What is kept: at most the cap, qualifying, and not smaller than what qualifies and is not kept. -/
theorem keptIndexes_spec (notionals : List ℚ) (normal : ℚ) :
    (keptIndexes notionals normal).length ≤ maximumBigTradeMarkers ∧
      ∀ i ∈ keptIndexes notionals normal, ∃ kept, notionals[i]? = some kept ∧ normal ≤ kept ∧
        ∀ j cut, notionals[j]? = some cut → j ∉ keptIndexes notionals normal → normal ≤ cut → cut ≤ kept := by
  unfold keptIndexes
  dsimp only
  generalize hselected : (notionals.zipIdx.filter fun entry => normal ≤ entry.1).insertionSort Outranks = selected
  have hmem : ∀ entry, entry ∈ selected ↔ notionals[entry.2]? = some entry.1 ∧ normal ≤ entry.1 := by
    intro entry
    rw [← hselected, List.mem_insertionSort, List.mem_filter, List.mem_zipIdx_iff_getElem?, decide_eq_true_eq]
  have hordered : selected.Pairwise Outranks := hselected ▸ List.pairwise_insertionSort _ _
  refine ⟨by rw [List.length_map, List.length_take]; exact min_le_left _ _, fun i hi => ?_⟩
  obtain ⟨⟨kept, _⟩, hkept, rfl⟩ := List.mem_map.mp hi
  obtain ⟨hat, hreaches⟩ := (hmem _).mp (List.mem_of_mem_take hkept)
  refine ⟨kept, hat, hreaches, fun j cut hcut hnot hqualifies => ?_⟩
  have hrank : Outranks _ (cut, j) := rel_of_take hordered hkept ((hmem _).mpr ⟨hcut, hqualifies⟩)
    fun htake => hnot (List.mem_map.mpr ⟨_, htake, rfl⟩)
  rcases hrank with hlt | ⟨heq, -⟩
  · exact hlt.le
  · exact heq.ge

/-! ### Markers -/

/-- What a marker says of its event. -/
structure Marks (event : List TradePrint) (marker : BigTradeCluster) : Prop where
  notional : marker.summedNotional = eventNotional event
  started : ∃ first, event.head? = some first ∧ marker.startedAt = first.occurredAt ∧ first.side = some marker.side
  ended : ∃ last, event.getLast? = some last ∧ marker.endedAt = last.occurredAt
  count : marker.tradeCount = event.length

theorem clusterOf_marks {extreme : ℚ} {event : List TradePrint} {marker : BigTradeCluster}
    (h : clusterOf extreme event (eventNotional event) = .ok marker) : Marks event marker := by
  unfold clusterOf at h
  split at h
  · rename_i first last hfirst hlast
    split at h
    · cases h
    · rename_i side hside
      cases h
      exact ⟨rfl, ⟨first, hfirst, rfl, hside⟩, ⟨last, hlast, rfl⟩, rfl⟩
  · cases h

/-- What a window's event has to reach. -/
def qualifyingNotional (groups : List (List TradePrint)) : Except PyError ℚ :=
  bigTradeQuantile (groups.map eventNotional) bigTradeNormalQuantile

/-- The events that stay: in their order, at most the cap, and none smaller than one that qualifies and does
not stay. -/
structure Selection (groups kept : List (List TradePrint)) : Prop where
  sublist : kept.Sublist groups
  capped : kept.length ≤ maximumBigTradeMarkers
  qualify : ∀ normal, qualifyingNotional groups = .ok normal → ∀ event ∈ kept, normal ≤ eventNotional event
  largest : ∀ normal, qualifyingNotional groups = .ok normal → ∀ event ∈ kept, ∀ cut ∈ groups, cut ∉ kept →
    normal ≤ eventNotional cut → eventNotional cut ≤ eventNotional event

/-- The events at the kept indexes. -/
def keptEvents (groups : List (List TradePrint)) (keep : List Nat) : List (List TradePrint) :=
  (groups.zipIdx.filter fun entry => entry.2 ∈ keep).map (·.1)

theorem mem_keptEvents {groups : List (List TradePrint)} {keep : List Nat} {event : List TradePrint} :
    event ∈ keptEvents groups keep ↔ ∃ i ∈ keep, groups[i]? = some event := by
  unfold keptEvents
  rw [List.mem_map]
  constructor
  · rintro ⟨⟨found, i⟩, hentry, rfl⟩
    obtain ⟨hat, hkeep⟩ := List.mem_filter.mp hentry
    exact ⟨i, by simpa using hkeep, List.mem_zipIdx_iff_getElem?.mp hat⟩
  · rintro ⟨i, hkeep, hat⟩
    exact ⟨(event, i), List.mem_filter.mpr ⟨List.mem_zipIdx_iff_getElem?.mpr hat, by simpa using hkeep⟩, rfl⟩

theorem keptEvents_length (groups : List (List TradePrint)) (keep : List Nat) :
    (keptEvents groups keep).length ≤ keep.length := by
  have hnodup : ((groups.zipIdx.filter fun entry => entry.2 ∈ keep).map (·.2)).Nodup := by
    refine List.Nodup.sublist (List.filter_sublist.map _) ?_
    rw [List.zipIdx_map_snd]
    exact List.nodup_range'
  have hsubset : (groups.zipIdx.filter fun entry => entry.2 ∈ keep).map (·.2) ⊆ keep := by
    intro i hi
    obtain ⟨entry, hentry, rfl⟩ := List.mem_map.mp hi
    simpa using (List.mem_filter.mp hentry).2
  have hle := (hnodup.subperm hsubset).length_le
  rw [List.length_map] at hle
  rwa [keptEvents, List.length_map]

theorem keptEvents_selection {groups : List (List TradePrint)} {normal : ℚ} (hnormal : qualifyingNotional groups = .ok normal) :
    Selection groups (keptEvents groups (keptIndexes (groups.map eventNotional) normal)) := by
  obtain ⟨hcap, hspec⟩ := keptIndexes_spec (groups.map eventNotional) normal
  have hat : ∀ {i : Nat} {event}, groups[i]? = some event →
      (groups.map eventNotional)[i]? = some (eventNotional event) := by
    intro i event h
    rw [List.getElem?_map, h]
    rfl
  refine ⟨?_, (keptEvents_length _ _).trans hcap, fun other hother event hevent => ?_,
    fun other hother event hevent cut hcut hnot hqualifies => ?_⟩
  · have hsublist := (List.filter_sublist (p := fun entry : List TradePrint × Nat =>
      entry.2 ∈ keptIndexes (groups.map eventNotional) normal) (l := groups.zipIdx)).map Prod.fst
    rwa [List.zipIdx_map_fst] at hsublist
  · obtain ⟨i, hkeep, hevent⟩ := mem_keptEvents.mp hevent
    obtain ⟨kept, hkept, hreaches, -⟩ := hspec i hkeep
    rw [hat hevent] at hkept
    cases hkept
    cases hnormal.symm.trans hother
    exact hreaches
  · obtain ⟨i, hkeep, hevent⟩ := mem_keptEvents.mp hevent
    obtain ⟨kept, hkept, -, hlargest⟩ := hspec i hkeep
    rw [hat hevent] at hkept
    cases hkept
    cases hnormal.symm.trans hother
    obtain ⟨j, hj⟩ := List.mem_iff_getElem?.mp hcut
    exact hlargest j _ (hat hj) (fun hin => hnot (mem_keptEvents.mpr ⟨j, hin, hj⟩)) hqualifies

/-- The markers of a tape that has enough events. -/
theorem bigTrades_some {tape : List TradePrint} {markers : List BigTradeCluster}
    (h : bigTrades tape thresholds = .ok (some markers)) :
    ∃ kept, Selection (events thresholds tape) kept ∧ List.Forall₂ Marks kept markers := by
  unfold bigTrades at h
  dsimp only at h
  split at h
  · cases h
  obtain ⟨normal, hnormal, h⟩ := bind_ok.mp h
  obtain ⟨extreme, -, h⟩ := bind_ok.mp h
  obtain ⟨clusters, hclusters, h⟩ := bind_ok.mp h
  cases h
  refine ⟨_, keptEvents_selection hnormal, ?_⟩
  have hzip : ∀ groups : List (List TradePrint),
      groups.zip (groups.map eventNotional) = groups.map fun event => (event, eventNotional event) := by
    intro groups
    induction groups with
    | nil => rfl
    | cons event groups ih => rw [List.map_cons, List.map_cons, List.zip_cons_cons, ih]
  have hmarks := forall₂_of_mapM_ok hclusters
  rw [hzip, List.zipIdx_map, List.filter_map, List.forall₂_map_left_iff] at hmarks
  rw [keptEvents, List.forall₂_map_left_iff]
  exact hmarks.imp fun _ _ hcluster => clusterOf_marks hcluster

/-! ### A window -/

/-- The tape of a window: its distinct trades with an aggressor, by time and then by name. -/
structure Tape (trades : List TradePrint) (windowStart windowEnd : Instant) (tape : List TradePrint) : Prop where
  ordered : tape.Pairwise TradePrint.Precedes
  nodup : tape.Nodup
  mem : ∀ trade, trade ∈ tape ↔
    trade ∈ trades ∧ (windowStart ≤ trade.occurredAt ∧ trade.occurredAt < windowEnd) ∧ trade.side.isSome = true

theorem tape_of_distinct {trades distinct : List TradePrint} {windowStart windowEnd : Instant}
    (h : Distinct (trades.filter fun trade => windowStart ≤ trade.occurredAt ∧ trade.occurredAt < windowEnd) distinct) :
    Tape trades windowStart windowEnd (knownTrades distinct) := by
  refine ⟨h.ordered.filter _, h.nodup.filter _, fun trade => ?_⟩
  rw [knownTrades, List.mem_filter, h.mem, List.mem_filter, decide_eq_true_eq, and_assoc]

/-- Kept events begin one after the other. -/
theorem markers_ordered {tape : List TradePrint} (hordered : tape.Pairwise TradePrint.Precedes)
    {kept : List (List TradePrint)} (hkept : kept.Sublist (events thresholds tape)) {markers : List BigTradeCluster}
    (hmarks : List.Forall₂ Marks kept markers) : markers.Pairwise fun a b => a.startedAt ≤ b.startedAt := by
  rw [← events_flatten thresholds tape, List.pairwise_flatten] at hordered
  refine pairwise_of_forall₂ ?_ hmarks (hordered.2.sublist hkept)
  intro event event' marker marker' hmarker hmarker' hbefore
  obtain ⟨first, hfirst, hstarted, -⟩ := hmarker.started
  obtain ⟨first', hfirst', hstarted', -⟩ := hmarker'.started
  rw [hstarted, hstarted']
  rcases hbefore first (List.mem_of_mem_head? hfirst) first' (List.mem_of_mem_head? hfirst') with hlt | ⟨heq, -⟩
  · exact hlt.le
  · exact heq.le

/-- The big trades of a window depend on its trades alone. Its events take its tape apart, and the markers stand
for the largest of those that qualify, at most as many as the cap, in the order of time. -/
theorem big_trades_of_window (trades : List TradePrint) (windowStart windowEnd : Instant)
    (thresholds : OrderFlowThresholds) :
    (∀ supplied : List TradePrint, supplied.Perm trades →
        aggregateOrderFlow supplied windowStart windowEnd thresholds =
          aggregateOrderFlow trades windowStart windowEnd thresholds) ∧
      ∀ facts, aggregateOrderFlow trades windowStart windowEnd thresholds = .ok facts →
        ∃ tape, Tape trades windowStart windowEnd tape ∧ (events thresholds tape).flatten = tape ∧
          (∀ event ∈ events thresholds tape, event ≠ []) ∧
          ∀ markers, facts.bigTrades = some markers →
            ∃ kept, Selection (events thresholds tape) kept ∧ List.Forall₂ Marks kept markers ∧
              markers.Pairwise fun a b => a.startedAt ≤ b.startedAt := by
  constructor
  · intro supplied hperm
    unfold aggregateOrderFlow
    rw [deduplicateTrades_congr fun trade => (hperm.filter _).mem_iff]
  · intro facts h
    unfold aggregateOrderFlow at h
    split at h
    · cases h
    obtain ⟨distinct, hdistinct, h⟩ := bind_ok.mp h
    have htape := tape_of_distinct (deduplicateTrades_ok hdistinct)
    refine ⟨_, htape, events_flatten _ _, events_ne_nil _, fun markers hmarkers => ?_⟩
    split at h
    · cases h
      cases hmarkers
      exact ⟨[], ⟨List.nil_sublist _, Nat.zero_le _, nofun, nofun⟩, .nil, List.Pairwise.nil⟩
    · obtain ⟨threshold, -, h⟩ := bind_ok.mp h
      obtain ⟨found, hfound, h⟩ := bind_ok.mp h
      cases h
      obtain rfl : found = some markers := hmarkers
      obtain ⟨kept, hselection, hmarks⟩ := bigTrades_some hfound
      exact ⟨kept, hselection, hmarks, markers_ordered htape.ordered hselection.sublist hmarks⟩

/-! ### A trade without an aggressor -/

theorem anonymousTrade_trimmed : untrimmed "1" = false := by decide

theorem one_positive : ∀ value ∈ (some 1 : Option ℚ), 0 < value := by simp

def anonymousTrade : TradePrint where
  providerTradeId := "1"
  occurredAt := 0
  price := some 1
  quantity := some 1
  buyerMaker := none
  trimmed := anonymousTrade_trimmed
  positivePrice := one_positive
  positiveQuantity := one_positive

theorem unit_positive : (0 : ℚ) < 1 := by decide

def unitThresholds : OrderFlowThresholds where
  tickSize := 1
  atr30s := 1
  cerosNearZeroNotional := none
  cerosLargeNotional := none
  positiveTick := unit_positive
  positiveAtr := unit_positive

/-- It is one of the window's trades and in none of its events. -/
theorem anonymous_trade_in_no_event : deduplicateTrades [anonymousTrade] = .ok [anonymousTrade] ∧
    ¬(events unitThresholds (knownTrades [anonymousTrade])).flatten.Perm [anonymousTrade] := by
  refine ⟨rfl, fun hperm => ?_⟩
  rw [events_flatten] at hperm
  exact absurd hperm.length_eq (by decide)

end AutoTrader.Strategy
