import AutoTrader.MarketData.Tape

/-! The stored tape is one interval of trades, whatever pages come and however calls end, as long as the
reader knows what is stored. -/

namespace AutoTrader.MarketData

open AutoTrader.Binance AutoTrader.Domain AutoTrader.Runtime

/-! ### Trades that follow each other -/

section Chains

variable {stored trades : List TradePrint} {trade : TradePrint}

theorem follows_increasing (h : trades.IsChain Follows) : trades.Pairwise fun a b => a.tradeId < b.tradeId := by
  have hids : (trades.map TradePrint.tradeId).IsChain (· < ·) :=
    List.isChain_map_of_isChain _ (fun a b hfollows => hfollows.1 ▸ Nat.lt_succ_self _) h
  exact List.pairwise_map.mp (List.isChain_iff_pairwise.mp hids)

theorem follows_unique (h : trades.IsChain Follows) {a b : TradePrint} (ha : a ∈ trades) (hb : b ∈ trades)
    (hid : a.tradeId = b.tradeId) : a = b := by
  have hnodup : (trades.map TradePrint.tradeId).Nodup :=
    List.pairwise_map.mpr ((follows_increasing h).imp fun hlt => Nat.ne_of_lt hlt)
  exact List.inj_on_of_nodup_map hnodup ha hb hid

/-- A trade is the last one, or the next one is there as well. -/
theorem follows_next (h : trades.IsChain Follows) (hmem : trade ∈ trades) :
    trades.getLast? = some trade ∨ ∃ next ∈ trades, Follows trade next := by
  induction trades with
  | nil => exact absurd hmem List.not_mem_nil
  | cons first trades ih =>
    cases trades with
    | nil => exact .inl (by rw [List.mem_singleton.mp hmem]; rfl)
    | cons second trades =>
      obtain ⟨hfollows, hrest⟩ := List.isChain_cons_cons.mp h
      rcases List.mem_cons.mp hmem with rfl | hmem
      · exact .inr ⟨second, List.mem_cons_of_mem _ List.mem_cons_self, hfollows⟩
      · rcases ih hrest hmem with hlast | ⟨next, hnext, hfollows⟩
        · exact .inl hlast
        · exact .inr ⟨next, List.mem_cons_of_mem _ hnext, hfollows⟩

theorem le_last {last : TradePrint} (h : trades.IsChain Follows) (hlast : trades.getLast? = some last)
    (hmem : trade ∈ trades) : trade.tradeId ≤ last.tradeId := by
  obtain ⟨before, rfl⟩ := List.getLast?_eq_some_iff.mp hlast
  rcases List.mem_append.mp hmem with hbefore | hsame
  · exact Nat.le_of_lt ((List.pairwise_append.mp (follows_increasing h)).2.2 trade hbefore last (List.mem_singleton_self _))
  · rw [List.mem_singleton.mp hsame]

/-- Where a page may begin: at a stored trade, or right behind the last one. -/
def Attaches (stored : List TradePrint) (trade : TradePrint) : Prop :=
  (∃ known ∈ stored, known.tradeId = trade.tradeId) ∨ stored = [] ∨ ∃ last, stored.getLast? = some last ∧ Follows last trade

/-- The trades of a page that are not stored continue what is stored, when the page begins at a stored trade
or behind the last one and repeats the stored ones unchanged. -/
theorem missing_continues (hstored : stored.IsChain Follows) (htrades : trades.IsChain Follows)
    (hagree : ∀ trade ∈ trades, ∀ known ∈ stored, known.tradeId = trade.tradeId → known = trade)
    (hhead : ∀ trade, trades.head? = some trade → Attaches stored trade) :
    (stored ++ TapeStore.missing ⟨stored, none⟩ trades).IsChain Follows := by
  induction trades generalizing stored with
  | nil => rwa [show TapeStore.missing ⟨stored, none⟩ [] = [] from rfl, List.append_nil]
  | cons trade trades ih =>
    obtain ⟨hnext, hrest⟩ := List.isChain_cons.mp htrades
    by_cases hknown : ∃ known ∈ stored, known.tradeId = trade.tradeId
    · obtain ⟨known, hmem, hid⟩ := hknown
      obtain rfl := hagree trade List.mem_cons_self known hmem hid
      have hskip : TapeStore.missing ⟨stored, none⟩ (known :: trades) = TapeStore.missing ⟨stored, none⟩ trades := by
        unfold TapeStore.missing
        rw [List.filter_cons_of_neg]
        simpa using ⟨known, hmem, rfl⟩
      rw [hskip]
      refine ih hstored hrest (fun t ht => hagree t (List.mem_cons_of_mem _ ht)) fun next hhead' => ?_
      have hfollows := hnext next hhead'
      rcases follows_next hstored hmem with hlast | ⟨after, hafter, hthen⟩
      · exact .inr (.inr ⟨known, hlast, hfollows⟩)
      · exact .inl ⟨after, hafter, hthen.1.trans hfollows.1.symm⟩
    · have hgrown : (stored ++ [trade]).IsChain Follows := by
        refine List.isChain_append.mpr ⟨hstored, .singleton _, fun last hlast next hsame => ?_⟩
        cases hsame
        rcases hhead trade rfl with hmem | hnil | ⟨found, hfound, hfollows⟩
        · exact absurd hmem hknown
        · rw [hnil] at hlast
          cases hlast
        · cases hfound.symm.trans hlast
          exact hfollows
      have hlater : ∀ t ∈ trades, trade.tradeId < t.tradeId := fun t ht =>
        List.rel_of_pairwise_cons (follows_increasing htrades) ht
      have hsame : TapeStore.missing ⟨stored, none⟩ (trade :: trades) =
          trade :: TapeStore.missing ⟨stored ++ [trade], none⟩ trades := by
        unfold TapeStore.missing
        rw [List.filter_cons_of_pos (by simpa using hknown)]
        refine congrArg (trade :: ·) (List.filter_congr fun t ht => ?_)
        have hne : t.tradeId ≠ trade.tradeId := Nat.ne_of_gt (hlater t ht)
        simp [hne]
      rw [hsame, List.append_cons]
      refine ih hgrown hrest (fun t ht known hmem hid => ?_) fun next hhead' => ?_
      · rcases List.mem_append.mp hmem with hold | hnew
        · exact hagree t (List.mem_cons_of_mem _ ht) known hold hid
        · rw [List.mem_singleton.mp hnew] at hid
          exact absurd hid (Nat.ne_of_lt (hlater t ht))
      · exact .inr (.inr ⟨trade, List.getLast?_concat, hnext next hhead'⟩)

end Chains

/-! ### The tape -/

/-- The stored trades are one interval of ids that ends at the checkpoint, at times that do not go back. -/
structure OneInterval (store : TapeStore) : Prop where
  ids : ∃ first, store.trades.map TradePrint.tradeId = List.range' first store.trades.length
  times : (store.trades.map TradePrint.occurredAt).Pairwise (· ≤ ·)
  checkpoint : store.checkpoint = store.trades.getLast?.map TradePrint.checkpoint

structure TapeIntact (store : TapeStore) : Prop where
  follows : store.trades.IsChain Follows
  checkpoint : store.checkpoint = store.trades.getLast?.map TradePrint.checkpoint

/-- The checkpoint a call starts from. -/
def TapeState.checkpoint (s : TapeState) : Option MarketCheckpoint :=
  if s.reader.checkpointLoaded then s.reader.checkpoint else s.store.checkpoint

/-- A trade of a page, or one that the venue sends for its gap. -/
def Sent (symbol : String) (answers : TapeAnswers) (page : List TradePrint) (trade : TradePrint) : Prop :=
  trade ∈ page ∨ ∃ fromId limit rows found, answers.aggregateTrades fromId limit = .ok rows ∧
    decodePage symbol false rows = .ok found ∧ trade ∈ found

/-- The page, or one of its trades, was refused before anything was persisted. -/
def TapeState.Refuses (symbol : String) (s : TapeState) (event : TapeEvent) : Prop :=
  (∃ e, event.page symbol = .error e) ∨
    ∃ page reader e, event.page symbol = .ok page ∧
      s.reader.loadCheckpoint s.store event.answers.loadCheckpoint = .ok reader ∧
      reader.newTrades s.store event.answers symbol page = .error e

/-- What one call does to the tape: it stays one interval, no stored trade changes, what was accepted is
stored as it was sent, and a refusal changes nothing. -/
structure TapeKept (symbol : String) (s : TapeState) (event : TapeEvent) : Prop where
  interval : OneInterval (s.step symbol event).store
  stored : s.store.trades <+: (s.step symbol event).store.trades
  accepted : ∀ page, event.page symbol = .ok page → (s.call symbol event).1 = .ok () → ∀ trade ∈ page,
    trade ∈ (s.step symbol event).store.trades ∨
      ∀ known ∈ (s.step symbol event).store.trades, known.tradeId ≠ trade.tradeId
  refused : s.Refuses symbol event →
    (s.step symbol event).store = s.store ∧ (s.step symbol event).checkpoint = s.checkpoint

/-- The condition: prices and quantities fit their columns, and the reader's checkpoint is the stored one, or
else the page begins at a stored trade and repeats the stored ones unchanged. -/
structure KnowsTape (symbol : String) (s : TapeState) (event : TapeEvent) : Prop where
  columns : ∀ page trade, event.page symbol = .ok page → Sent symbol event.answers page trade → trade.row = trade
  current : s.checkpoint = s.store.checkpoint ∨ ∀ page, event.page symbol = .ok page →
    (∀ trade, Sent symbol event.answers page trade → ∀ known ∈ s.store.trades, known.tradeId = trade.tradeId →
      known = trade) ∧
      (s.checkpoint = none → ∀ first, page.head? = some first → ∃ known ∈ s.store.trades, known.tradeId = first.tradeId)

/-- The cache and the reader's checkpoint speak of stored trades. -/
structure TapeInv (s : TapeState) : Prop where
  intact : TapeIntact s.store
  cached : ∀ entry ∈ s.reader.trades, entry.2 ∈ s.store.trades
  seen : s.reader.checkpointLoaded = true → ∀ checkpoint, s.reader.checkpoint = some checkpoint →
    ∃ trade ∈ s.store.trades, trade.checkpoint = checkpoint
  unseen : s.reader.checkpoint = none → s.reader.trades = []
  unloaded : s.reader.checkpointLoaded = false → s.reader.checkpoint = none

section Integrity

variable {symbol : String} {store : TapeStore} {reader : TapeReader} {answers : TapeAnswers} {s : TapeState}
  {trades : List TradePrint} {last : TradePrint}

theorem TapeIntact.oneInterval (h : TapeIntact store) : OneInterval store where
  ids := by
    cases hstored : store.trades with
    | nil => exact ⟨0, rfl⟩
    | cons first later => exact ⟨first.tradeId, follows_ids (hstored ▸ h.follows)⟩
  times := follows_times h.follows
  checkpoint := h.checkpoint

/-- Storing what attaches keeps the interval, and everything of the page is stored then. -/
theorem TapeIntact.persist (h : TapeIntact store) (htrades : trades.IsChain Follows)
    (hlast : trades.getLast? = some last)
    (hagree : ∀ trade ∈ trades, ∀ known ∈ store.trades, known.tradeId = trade.tradeId → known = trade)
    (hhead : ∀ trade, trades.head? = some trade → Attaches store.trades trade)
    (hcolumns : ∀ trade ∈ trades, trade.row = trade) {store' : TapeStore}
    (hpersist : store.persist trades last.checkpoint = .ok store') :
    TapeIntact store' ∧ store'.trades = store.trades ++ store.missing trades ∧ trades ⊆ store'.trades := by
  obtain ⟨_, -, hpersist⟩ := bind_ok.mp hpersist
  obtain ⟨_, -, hpersist⟩ := bind_ok.mp hpersist
  cases hpersist
  have hrows : (store.missing trades).map TradePrint.row = store.missing trades := by
    refine (List.map_congr_left fun trade hmem => ?_).trans (List.map_id _)
    exact hcolumns trade (List.mem_of_mem_filter hmem)
  dsimp only
  rw [hrows]
  have hfollows : (store.trades ++ store.missing trades).IsChain Follows :=
    missing_continues h.follows htrades hagree hhead
  have hall : trades ⊆ store.trades ++ store.missing trades := by
    intro trade hmem
    by_cases hknown : ∃ known ∈ store.trades, known.tradeId = trade.tradeId
    · obtain ⟨known, hstored, hid⟩ := hknown
      exact List.mem_append_left _ (hagree trade hmem known hstored hid ▸ hstored)
    · refine List.mem_append_right _ (List.mem_filter.mpr ⟨hmem, ?_⟩)
      simpa using hknown
  refine ⟨⟨hfollows, ?_⟩, rfl, hall⟩
  have hmemLast : last ∈ trades := List.mem_of_getLast? hlast
  have hincreasing := List.pairwise_append.mp (follows_increasing hfollows)
  dsimp only
  rw [h.checkpoint]
  by_cases hnew : last ∈ store.missing trades
  · have hend : (store.trades ++ store.missing trades).getLast? = some last := by
      obtain ⟨before, rfl⟩ := List.getLast?_eq_some_iff.mp hlast
      have hsplit : store.missing (before ++ [last]) = store.missing before ++ [last] := by
        unfold TapeStore.missing
        rw [List.filter_append]
        exact congrArg _ (List.filter_cons_of_pos (List.mem_filter.mp hnew).2)
      rw [hsplit, ← List.append_assoc, List.getLast?_concat]
    rw [hend]
    cases hstored : store.trades.getLast? with
    | none => rfl
    | some known =>
      have hle : known.tradeId ≤ last.tradeId :=
        Nat.le_of_lt (hincreasing.2.2 known (List.mem_of_getLast? hstored) last hnew)
      exact congrArg some (if_pos hle)
  · have hold : last ∈ store.trades := by
      rcases List.mem_append.mp (hall hmemLast) with hold | hnew'
      · exact hold
      · exact absurd hnew' hnew
    have hnone : store.missing trades = [] := by
      refine List.eq_nil_iff_forall_not_mem.mpr fun trade hmem => ?_
      have hlater := hincreasing.2.2 last hold trade hmem
      exact absurd hlater (Nat.not_lt.mpr (le_last htrades hlast (List.mem_of_mem_filter hmem)))
    rw [hnone, List.append_nil]
    cases hstored : store.trades.getLast? with
    | none =>
      rw [List.getLast?_eq_none_iff.mp hstored] at hold
      exact absurd hold List.not_mem_nil
    | some known =>
      refine congrArg some ?_
      unfold TapeStore.nextCheckpoint
      dsimp only [Option.map_some]
      split
      · rename_i hge
        have hle := le_last h.follows hstored hold
        exact congrArg TradePrint.checkpoint
          (follows_unique h.follows hold (List.mem_of_getLast? hstored) (Nat.le_antisymm hle hge))
      · rfl

/-! ### What a call takes for fresh -/

theorem loadCheckpoint_ok (h : TapeInv s) {raised : Option PyError} {reader : TapeReader}
    (hload : s.reader.loadCheckpoint s.store raised = .ok reader) :
    TapeInv ⟨reader, s.store⟩ ∧ reader.checkpoint = s.checkpoint ∧ reader.checkpointLoaded = true ∧
      reader.trades = s.reader.trades := by
  unfold TapeReader.loadCheckpoint at hload
  unfold TapeState.checkpoint
  split at hload
  · rename_i hloaded
    cases hload
    exact ⟨h, by rw [if_pos hloaded], hloaded, rfl⟩
  · rename_i hunloaded
    split at hload
    · cases hload
    · cases hload
      rw [if_neg hunloaded]
      have hempty : s.reader.trades = [] := h.unseen (h.unloaded (by simpa using hunloaded))
      refine ⟨⟨h.intact, h.cached, fun _ checkpoint hcheckpoint => ?_, fun _ => hempty, nofun⟩, rfl, rfl, rfl⟩
      have hlast : s.store.trades.getLast?.map TradePrint.checkpoint = some checkpoint :=
        h.intact.checkpoint.symm.trans hcheckpoint
      obtain ⟨trade, htrade, hsame⟩ := Option.map_eq_some_iff.mp hlast
      exact ⟨trade, List.mem_of_getLast? htrade, hsame⟩

/-- Every trade of a page is fresh, or it is stored as it was sent, or it lies before what is stored. -/
theorem alreadyStored_true (hcached : ∀ entry ∈ reader.trades, entry.2 ∈ store.trades) {trade : TradePrint}
    (h : reader.alreadyStored store answers trade = .ok true) :
    trade ∈ store.trades ∨ (∀ known ∈ store.trades, known.tradeId ≠ trade.tradeId) ∧
      ∃ checkpoint, reader.checkpoint = some checkpoint ∧ trade.tradeId ≤ checkpoint.lastAggregateTradeId := by
  unfold TapeReader.alreadyStored at h
  split at h
  · rename_i cached hfound
    split at h
    · rename_i hsame
      obtain ⟨entry, hentry, hvalue⟩ := Option.map_eq_some_iff.mp hfound
      exact .inl (hsame ▸ hvalue ▸ hcached entry (List.mem_of_find?_eq_some hentry))
    · cases h
  split at h
  · cases h
  rename_i checkpoint hcheckpoint
  split at h
  · cases h
  rename_i hseen
  split at h
  · cases h
  split at h
  · rename_i persisted hfound
    split at h
    · rename_i hsame
      exact .inl (hsame ▸ List.mem_of_find?_eq_some hfound)
    · cases h
  · rename_i hnone
    refine .inr ⟨fun known hknown hid => ?_, checkpoint, hcheckpoint, Nat.le_of_not_lt hseen⟩
    have hnot := List.find?_eq_none.mp hnone known hknown
    simp [hid] at hnot

theorem freshTrades_ok {incoming fresh : List TradePrint} (h : reader.freshTrades store answers incoming = .ok fresh) :
    fresh ⊆ incoming ∧ ∀ trade ∈ incoming, trade ∈ fresh ∨ reader.alreadyStored store answers trade = .ok true := by
  induction incoming generalizing fresh with
  | nil =>
    cases h
    exact ⟨List.Subset.refl _, fun _ hmem => absurd hmem List.not_mem_nil⟩
  | cons trade incoming ih =>
    obtain ⟨known, hknown, h⟩ := bind_ok.mp h
    obtain ⟨later, hlater, h⟩ := bind_ok.mp h
    obtain ⟨hsubset, hrest⟩ := ih hlater
    cases known with
    | true =>
      cases h
      refine ⟨fun t ht => List.mem_cons_of_mem _ (hsubset ht), fun t ht => ?_⟩
      rcases List.mem_cons.mp ht with rfl | ht
      · exact .inr hknown
      · exact hrest t ht
    | false =>
      cases h
      refine ⟨List.cons_subset_cons _ hsubset, fun t ht => ?_⟩
      rcases List.mem_cons.mp ht with rfl | ht
      · exact .inl List.mem_cons_self
      · exact (hrest t ht).imp_left (List.mem_cons_of_mem _)

/-- A reader that has seen nothing takes a page as it is. -/
theorem freshTrades_unseen {incoming fresh : List TradePrint} (hcheckpoint : reader.checkpoint = none)
    (hcache : reader.trades = []) (h : reader.freshTrades store answers incoming = .ok fresh) : fresh = incoming := by
  induction incoming generalizing fresh with
  | nil =>
    cases h
    rfl
  | cons trade incoming ih =>
    obtain ⟨known, hknown, h⟩ := bind_ok.mp h
    obtain ⟨later, hlater, h⟩ := bind_ok.mp h
    unfold TapeReader.alreadyStored at hknown
    rw [hcache, hcheckpoint] at hknown
    cases hknown
    cases h
    exact congrArg (trade :: ·) (ih hlater)

/-- What is persisted is in sequence, begins behind the reader's checkpoint, holds all that is fresh, and was
sent. -/
theorem newTrades_ok {incoming : List TradePrint} (h : reader.newTrades store answers symbol incoming = .ok trades) :
    trades.IsChain Follows ∧
      (∀ first checkpoint, trades.head? = some first → reader.checkpoint = some checkpoint →
        first.tradeId = checkpoint.lastAggregateTradeId + 1 ∧ checkpoint.lastTradeAt ≤ first.occurredAt) ∧
      (∀ trade ∈ incoming, trade ∈ trades ∨ reader.alreadyStored store answers trade = .ok true) ∧
      (∀ trade ∈ trades, Sent symbol answers incoming trade) ∧
      (reader.checkpoint = none → reader.trades = [] → trades = incoming) := by
  obtain ⟨fresh, hfresh, h⟩ := bind_ok.mp h
  obtain ⟨hsubset, hstored⟩ := freshTrades_ok hfresh
  split at h
  · cases h
    exact ⟨.nil, fun _ _ hhead => absurd hhead nofun, hstored, fun _ hmem => absurd hmem List.not_mem_nil,
      fun hnone hempty => freshTrades_unseen hnone hempty hfresh⟩
  · rename_i first later
    obtain ⟨gap, hgap, h⟩ := bind_ok.mp h
    obtain ⟨_, hsequence, h⟩ := bind_ok.mp h
    cases h
    obtain ⟨hchain, hhead⟩ := requireSequence_ok hsequence
    refine ⟨hchain, fun head checkpoint hfirst hcheckpoint => ?_, fun trade hmem => ?_, fun trade hmem => ?_,
      fun hnone hempty => ?_⟩
    · rw [hcheckpoint] at hhead
      obtain ⟨hid, hat⟩ := hhead head hfirst
      exact ⟨hid _ rfl, hat _ rfl⟩
    · exact (hstored trade hmem).imp_left (List.mem_append_right _)
    · rcases List.mem_append.mp hmem with hgapMem | hfreshMem
      · unfold TapeReader.recovered at hgap
        split at hgap
        · cases hgap
          exact absurd hgapMem List.not_mem_nil
        · dsimp only at hgap
          split at hgap
          · exact .inr (recoverGap_sent hgap trade hgapMem)
          · cases hgap
            exact absurd hgapMem List.not_mem_nil
      · exact .inl (hsubset hfreshMem)
    · unfold TapeReader.recovered at hgap
      rw [hnone] at hgap
      cases hgap
      exact freshTrades_unseen hnone hempty hfresh

/-- What the reader remembers it remembered before or was just persisted. -/
theorem mem_remember {entry : Nat × TradePrint} (h : entry ∈ reader.remember trades) :
    entry ∈ reader.trades ∨ entry.2 ∈ trades := by
  have hset : ∀ (d : List (Nat × TradePrint)) (trade : TradePrint), entry ∈ Dict.set d trade.tradeId trade →
      entry ∈ d ∨ entry.2 = trade := by
    intro d trade
    induction d with
    | nil =>
      intro hmem
      rw [List.mem_singleton.mp hmem]
      exact .inr rfl
    | cons head d ih =>
      intro hmem
      unfold Dict.set at hmem
      split at hmem
      · rcases List.mem_cons.mp hmem with rfl | hmem
        · exact .inr rfl
        · exact .inl (List.mem_cons_of_mem _ hmem)
      · rcases List.mem_cons.mp hmem with rfl | hmem
        · exact .inl List.mem_cons_self
        · exact (ih hmem).imp_left (List.mem_cons_of_mem _)
  have hfold : ∀ (d : List (Nat × TradePrint)), entry ∈ trades.foldl (fun d trade => Dict.set d trade.tradeId trade) d →
      entry ∈ d ∨ entry.2 ∈ trades := by
    clear h
    induction trades with
    | nil => exact fun d hmem => .inl hmem
    | cons trade trades ih =>
      intro d hmem
      rcases ih _ hmem with hmem | hmem
      · rcases hset d trade hmem with hmem | hsame
        · exact .inl hmem
        · exact .inr (hsame ▸ List.mem_cons_self)
      · exact .inr (List.mem_cons_of_mem _ hmem)
  exact hfold reader.trades (List.mem_of_mem_filter h)

/-! ### One call -/

/-- Under the condition the new trades repeat stored ones unchanged and begin where the tape goes on. -/
theorem newTrades_attach (h : TapeInv ⟨reader, store⟩) (hloaded : reader.checkpointLoaded = true)
    {incoming : List TradePrint} (hnew : reader.newTrades store answers symbol incoming = .ok trades)
    (hcurrent : reader.checkpoint = store.checkpoint ∨
      (∀ trade ∈ trades, ∀ known ∈ store.trades, known.tradeId = trade.tradeId → known = trade) ∧
        (reader.checkpoint = none → ∀ first, incoming.head? = some first →
          ∃ known ∈ store.trades, known.tradeId = first.tradeId)) :
    (∀ trade ∈ trades, ∀ known ∈ store.trades, known.tradeId = trade.tradeId → known = trade) ∧
      ∀ first, trades.head? = some first → Attaches store.trades first := by
  obtain ⟨hchain, hhead, -, -, hunseen⟩ := newTrades_ok hnew
  have hfirst : ∀ first, trades.head? = some first → ∀ trade ∈ trades, first.tradeId ≤ trade.tradeId := by
    intro first hfirst trade hmem
    cases trades with
    | nil => cases hfirst
    | cons head later =>
      cases hfirst
      rcases List.mem_cons.mp hmem with rfl | hmem
      · exact Nat.le_refl _
      · exact Nat.le_of_lt (List.rel_of_pairwise_cons (follows_increasing hchain) hmem)
  rcases hcurrent with hsame | ⟨hagree, hbegins⟩
  · rw [h.intact.checkpoint] at hsame
    cases hstored : store.trades.getLast? with
    | none =>
      have hempty := List.getLast?_eq_none_iff.mp hstored
      rw [hempty]
      exact ⟨fun _ _ _ hmem => absurd hmem List.not_mem_nil, fun _ _ => .inr (.inl rfl)⟩
    | some last =>
      rw [hstored] at hsame
      refine ⟨fun trade hmem known hknown hid => ?_, fun first hfirst' => ?_⟩
      · obtain ⟨first, hfirst'⟩ := Option.isSome_iff_exists.mp (List.isSome_head?.mpr (List.ne_nil_of_mem hmem))
        have hle := le_last h.intact.follows hstored hknown
        have hlater := hfirst first hfirst' trade hmem
        have hnext : first.tradeId = last.tradeId + 1 := (hhead first _ hfirst' hsame).1
        omega
      · exact .inr (.inr ⟨last, hstored, hhead first _ hfirst' hsame⟩)
  · refine ⟨hagree, fun first hfirst' => ?_⟩
    cases hcheckpoint : reader.checkpoint with
    | none =>
      rw [hunseen hcheckpoint (h.unseen hcheckpoint)] at hfirst'
      exact .inl (hbegins hcheckpoint first hfirst')
    | some checkpoint =>
      obtain ⟨trade, hmem, rfl⟩ := h.seen hloaded checkpoint hcheckpoint
      obtain ⟨hid, hat⟩ := hhead first _ hfirst' hcheckpoint
      rcases follows_next h.intact.follows hmem with hlast | ⟨next, hnext, hthen⟩
      · exact .inr (.inr ⟨trade, hlast, hid, hat⟩)
      · exact .inl ⟨next, hnext, hthen.1.trans hid.symm⟩

/-- A store that grew by what attaches keeps the invariant of a reader. -/
theorem TapeInv.grow (h : TapeInv ⟨reader, store⟩) {store' : TapeStore} (hintact : TapeIntact store')
    (hgrown : store.trades ⊆ store'.trades) : TapeInv ⟨reader, store'⟩ where
  intact := hintact
  cached entry hentry := hgrown (h.cached entry hentry)
  seen hloaded checkpoint hcheckpoint := by
    obtain ⟨trade, htrade, hsame⟩ := h.seen hloaded checkpoint hcheckpoint
    exact ⟨trade, hgrown htrade, hsame⟩
  unseen := h.unseen
  unloaded := h.unloaded

/-- After a persist that worked the reader knows the last of the trades. -/
theorem TapeInv.advance (h : TapeInv ⟨reader, store⟩) (hloaded : reader.checkpointLoaded = true)
    (hlast : trades.getLast? = some last) (hstored : trades ⊆ store.trades) :
    TapeInv ⟨{ reader with checkpoint := some last.checkpoint, trades := reader.remember trades }, store⟩ where
  intact := h.intact
  cached entry hentry := (mem_remember hentry).elim (h.cached entry) fun hmem => hstored hmem
  seen _ checkpoint hcheckpoint := by
    cases hcheckpoint
    exact ⟨last, hstored (List.mem_of_getLast? hlast), rfl⟩
  unseen := nofun
  unloaded hunloaded := absurd (hloaded.symm.trans hunloaded) nofun

end Integrity

/-! ### One event -/

section Step

variable {symbol : String} {s : TapeState} {event : TapeEvent}

/-- What a call that brings no page leaves of the tape. -/
theorem tapeKept_still (hinv : TapeInv s) (hstore : (s.step symbol event).store = s.store)
    (hpage : event.page symbol = .ok []) : TapeKept symbol s event where
  interval := hstore ▸ hinv.intact.oneInterval
  stored := hstore ▸ List.prefix_refl _
  accepted page hok _ trade hmem := by
    cases hok.symm.trans hpage
    exact absurd hmem List.not_mem_nil
  refused hrefuses := by
    rcases hrefuses with ⟨e, he⟩ | ⟨page, reader, e, hok, -, he⟩
    · cases he.symm.trans hpage
    · cases hok.symm.trans hpage
      cases he

/-- A page that brings nothing new leaves the tape alone. -/
theorem held_of_alreadyStored {reader : TapeReader} {store : TapeStore} {answers : TapeAnswers} (h : TapeInv ⟨reader, store⟩)
    {trades : List TradePrint} {trade : TradePrint} (hstored : reader.alreadyStored store answers trade = .ok true)
    (hbehind : ∀ first checkpoint, trades.head? = some first → reader.checkpoint = some checkpoint →
      first.tradeId = checkpoint.lastAggregateTradeId + 1)
    (hchain : trades.IsChain Follows) :
    trade ∈ store.trades ∨ ∀ known ∈ store.trades ++ store.missing trades, known.tradeId ≠ trade.tradeId := by
  refine (alreadyStored_true h.cached hstored).imp_right ?_
  rintro ⟨hunstored, checkpoint, hcheckpoint, hle⟩ known hknown
  rcases List.mem_append.mp hknown with hold | hnew
  · exact hunstored known hold
  · have hmem := List.mem_of_mem_filter hnew
    cases trades with
    | nil => exact absurd hmem List.not_mem_nil
    | cons first later =>
      have hfirst := hbehind first checkpoint rfl hcheckpoint
      have hge : first.tradeId ≤ known.tradeId := by
        rcases List.mem_cons.mp hmem with rfl | hmem
        · exact Nat.le_refl _
        · exact Nat.le_of_lt (List.rel_of_pairwise_cons (follows_increasing hchain) hmem)
      omega

/-- What is persisted attaches, or nothing is persisted and the call raises. -/
theorem persistNew_kept (answers : TapeAnswers) {reader : TapeReader} {store : TapeStore} {trades : List TradePrint}
    {last : TradePrint} (h : TapeInv ⟨reader, store⟩) (hloaded : reader.checkpointLoaded = true)
    (htrades : trades.IsChain Follows) (hlast : trades.getLast? = some last)
    (hagree : ∀ trade ∈ trades, ∀ known ∈ store.trades, known.tradeId = trade.tradeId → known = trade)
    (hhead : ∀ first, trades.head? = some first → Attaches store.trades first)
    (hcolumns : ∀ trade ∈ trades, trade.row = trade) :
    TapeInv (TapeState.persistNew ⟨reader, store⟩ answers trades last).2 ∧
      (((TapeState.persistNew ⟨reader, store⟩ answers trades last).2.store = store ∧
          (TapeState.persistNew ⟨reader, store⟩ answers trades last).1 ≠ .ok ()) ∨
        ((TapeState.persistNew ⟨reader, store⟩ answers trades last).2.store.trades = store.trades ++ store.missing trades ∧
          trades ⊆ (TapeState.persistNew ⟨reader, store⟩ answers trades last).2.store.trades)) := by
  unfold TapeState.persistNew
  dsimp only
  split
  · exact ⟨h, .inl ⟨rfl, nofun⟩⟩
  · exact ⟨h, .inl ⟨rfl, nofun⟩⟩
  · rename_i store' hpersist
    obtain ⟨hintact, hstored, hall⟩ := h.intact.persist htrades hlast hagree hhead hcolumns hpersist
    exact ⟨h.grow hintact (hstored ▸ List.subset_append_left _ _), .inr ⟨hstored, hall⟩⟩
  · rename_i store' hpersist
    obtain ⟨hintact, hstored, hall⟩ := h.intact.persist htrades hlast hagree hhead hcolumns hpersist
    have hgrown := h.grow hintact (hstored ▸ List.subset_append_left _ _)
    exact ⟨hgrown.advance hloaded hlast hall, .inr ⟨hstored, hall⟩⟩

/-- One page of trades. -/
theorem ingestPage_kept (h : TapeInv s) {answers : TapeAnswers} {incoming : List TradePrint}
    (hcolumns : ∀ trade, Sent symbol answers incoming trade → trade.row = trade)
    (hcurrent : s.checkpoint = s.store.checkpoint ∨
      (∀ trade, Sent symbol answers incoming trade →
        ∀ known ∈ s.store.trades, known.tradeId = trade.tradeId → known = trade) ∧
        (s.checkpoint = none → ∀ first, incoming.head? = some first →
          ∃ known ∈ s.store.trades, known.tradeId = first.tradeId)) :
    TapeInv (s.ingestPage symbol answers incoming).2 ∧
      s.store.trades <+: (s.ingestPage symbol answers incoming).2.store.trades ∧
      ((s.ingestPage symbol answers incoming).1 = .ok () → ∀ trade ∈ incoming,
        trade ∈ (s.ingestPage symbol answers incoming).2.store.trades ∨
          ∀ known ∈ (s.ingestPage symbol answers incoming).2.store.trades, known.tradeId ≠ trade.tradeId) ∧
      ∀ reader e, s.reader.loadCheckpoint s.store answers.loadCheckpoint = .ok reader →
        reader.newTrades s.store answers symbol incoming = .error e →
        (s.ingestPage symbol answers incoming).2.store = s.store ∧
          (s.ingestPage symbol answers incoming).2.checkpoint = s.checkpoint := by
  unfold TapeState.ingestPage
  split
  · rename_i hempty
    rw [List.isEmpty_iff.mp hempty]
    exact ⟨h, List.prefix_refl _, fun _ _ hmem => absurd hmem List.not_mem_nil, fun _ _ _ _ => ⟨rfl, rfl⟩⟩
  cases hload : s.reader.loadCheckpoint s.store answers.loadCheckpoint with
  | error e => exact ⟨h, List.prefix_refl _, nofun, fun _ _ hnot => absurd hnot nofun⟩
  | ok reader =>
    obtain ⟨hinv, hcheckpoint, hloaded, -⟩ := loadCheckpoint_ok h hload
    have hheld : TapeState.checkpoint ⟨reader, s.store⟩ = s.checkpoint := (if_pos hloaded).trans hcheckpoint
    dsimp only
    cases hnew : reader.newTrades s.store answers symbol incoming with
    | error e => exact ⟨hinv, List.prefix_refl _, nofun, fun _ _ _ _ => ⟨rfl, hheld⟩⟩
    | ok trades =>
      obtain ⟨hchain, hhead, hall, hsent, -⟩ := newTrades_ok hnew
      have hstill := fun trade hmem => (hall trade hmem).imp_right fun hstored =>
        held_of_alreadyStored hinv hstored (fun first checkpoint hfirst hsome => (hhead first checkpoint hfirst hsome).1)
          hchain
      dsimp only
      cases hlast : trades.getLast? with
      | none =>
        have hnone := List.getLast?_eq_none_iff.mp hlast
        refine ⟨hinv, List.prefix_refl _, fun _ trade hmem => ?_, fun r e hr he => ?_⟩
        · rcases hstill trade hmem with hfresh | hheld
          · exact absurd (hnone ▸ hfresh) List.not_mem_nil
          · rw [hnone] at hheld
            simpa [TapeStore.missing] using hheld
        · cases hr
          cases hnew.symm.trans he
      | some last =>
        obtain ⟨hagree, hbegins⟩ := newTrades_attach hinv hloaded hnew (hcheckpoint ▸ hcurrent.imp_right
          fun ⟨hagree, hbegins⟩ => ⟨fun trade hmem => hagree trade (hsent trade hmem), hbegins⟩)
        obtain ⟨hnext, hwrote⟩ := persistNew_kept answers hinv hloaded hchain hlast hagree hbegins
          fun trade hmem => hcolumns trade (hsent trade hmem)
        dsimp only
        refine ⟨hnext, ?_, fun hok trade hmem => ?_, fun r e hr he => ?_⟩
        · rcases hwrote with ⟨hsame, -⟩ | ⟨hstored, -⟩
          · exact ⟨[], by rw [hsame, List.append_nil]⟩
          · rw [hstored]
            exact List.prefix_append _ _
        · rcases hwrote with ⟨-, hraised⟩ | ⟨hstored, hcontains⟩
          · exact absurd hok hraised
          · rcases hstill trade hmem with hfresh | hold | hunstored
            · exact .inl (hcontains hfresh)
            · exact .inl (hstored ▸ List.mem_append_left _ hold)
            · exact .inr (hstored ▸ hunstored)
        · cases hr
          cases hnew.symm.trans he

/-- A call that brings a page. -/
theorem tape_page (h : TapeInv s) (hknows : KnowsTape symbol s event)
    (herror : ∀ e, event.page symbol = .error e → s.call symbol event = (.error e, s))
    (hok : ∀ page, event.page symbol = .ok page → s.call symbol event = s.ingestPage symbol event.answers page) :
    TapeInv (s.step symbol event) ∧ TapeKept symbol s event := by
  cases hpage : event.page symbol with
  | error e =>
    have hstep : s.step symbol event = s := congrArg Prod.snd (herror e hpage)
    have hkept : TapeKept symbol s event := by
      refine ⟨?_, ?_, fun page hok' => ?_, fun _ => ?_⟩
      · rw [hstep]
        exact h.intact.oneInterval
      · exact ⟨[], by rw [hstep, List.append_nil]⟩
      · cases hok'.symm.trans hpage
      · rw [hstep]
        exact ⟨rfl, rfl⟩
    rw [hstep]
    exact ⟨h, hkept⟩
  | ok page =>
    have hcall := hok page hpage
    have hstep : s.step symbol event = (s.ingestPage symbol event.answers page).2 := congrArg Prod.snd hcall
    obtain ⟨hinv, hlead, haccepted, hrefused⟩ := ingestPage_kept h (fun trade => hknows.columns page trade hpage)
      (hknows.current.imp_right fun hrepeats => hrepeats page hpage)
    refine ⟨by rwa [hstep], ⟨?_, ?_, fun page' hpage' hreturned => ?_, fun hrefuses => ?_⟩⟩
    · rw [hstep]
      exact hinv.intact.oneInterval
    · rwa [hstep]
    · cases hpage'.symm.trans hpage
      rw [hcall] at hreturned
      rw [hstep]
      exact haccepted hreturned
    · rcases hrefuses with ⟨e, he⟩ | ⟨page', reader, e, hpage', hload, hnew⟩
      · cases he.symm.trans hpage
      · cases hpage'.symm.trans hpage
        rw [hstep]
        exact hrefused reader e hload hnew

/-- Every event that meets the condition. -/
theorem tape_step (h : TapeInv s) (hknows : KnowsTape symbol s event) :
    TapeInv (s.step symbol event) ∧ TapeKept symbol s event := by
  cases event with
  | aggTrade frame answers =>
    refine tape_page h hknows (fun e he => ?_) fun page hpage => ?_
    · unfold TapeState.call
      dsimp only
      rw [he]
    · unfold TapeState.call
      dsimp only
      rw [hpage]
  | restAggTrades rows answers =>
    refine tape_page h hknows (fun e he => ?_) fun page hpage => ?_
    · unfold TapeState.call
      dsimp only
      rw [he]
    · unfold TapeState.call
      dsimp only
      rw [hpage]
  | checkpointTradeId raised =>
    cases hload : s.reader.loadCheckpoint s.store raised with
    | error e =>
      have hstep : s.step symbol (.checkpointTradeId raised) = s := by
        unfold TapeState.step TapeState.call
        dsimp only
        rw [hload]
      exact ⟨by rwa [hstep], tapeKept_still h (by rw [hstep]) rfl⟩
    | ok reader =>
      have hstep : s.step symbol (.checkpointTradeId raised) = ⟨reader, s.store⟩ := by
        unfold TapeState.step TapeState.call
        dsimp only
        rw [hload]
      refine ⟨?_, tapeKept_still h (by rw [hstep]) rfl⟩
      rw [hstep]
      exact (loadCheckpoint_ok h hload).1
  | restarted =>
    exact ⟨⟨h.intact, fun _ hmem => absurd hmem List.not_mem_nil, nofun, fun _ => rfl, fun _ => rfl⟩,
      tapeKept_still h rfl rfl⟩

theorem tapeInv_initial : TapeInv .initial where
  intact := ⟨.nil, rfl⟩
  cached _ hmem := absurd hmem List.not_mem_nil
  seen := nofun
  unseen _ := rfl
  unloaded _ := rfl

end Step

theorem TapeInv.run {symbol : String} {s : TapeState} {events : List TapeEvent} (h : TapeInv s)
    (hknows : RunMeets (TapeState.step symbol) (KnowsTape symbol) s events) :
    RunMeets (TapeState.step symbol) (TapeKept symbol) s events := by
  induction events generalizing s with
  | nil => trivial
  | cons event events ih =>
    obtain ⟨hevent, hrest⟩ := hknows
    obtain ⟨hinv, hkept⟩ := tape_step h hevent
    exact ⟨hkept, ih hinv hrest⟩

/-- From an empty store every run of pages, restarts and failures in which the reader knows the stored tape
keeps it one interval, stores each trade once as it was first accepted, and changes nothing on a refusal. -/
theorem tape_kept (symbol : String) (events : List TapeEvent)
    (hknows : RunMeets (TapeState.step symbol) (KnowsTape symbol) .initial events) :
    RunMeets (TapeState.step symbol) (TapeKept symbol) .initial events :=
  tapeInv_initial.run hknows

/-- A trade of the REST endpoint, at its id in milliseconds. -/
def sampleRow (id : Int) : RawTrade :=
  [("a", .int id), ("f", .int id), ("l", .int id), ("T", .int id), ("p", .str "100"), ("q", .str "1"), ("m", .bool true)]

def sampleTrade (id : Nat) : TradePrint := ⟨id, 1000 * id, 100, 1, true⟩

def sampleAnswers (persist : PersistFate) : TapeAnswers :=
  ⟨none, fun _ => none, fun _ _ => .error gapUnresolved, persist⟩

theorem knowsTape_sample {s : TapeState} {rows : List RawTrade} (page : List TradePrint) {persist : PersistFate}
    (hpage : decodePage "BTCUSDT" false rows = .ok page) (hcolumns : ∀ trade ∈ page, trade.row = trade)
    (hcurrent : s.checkpoint = s.store.checkpoint) :
    KnowsTape "BTCUSDT" s (.restAggTrades rows (sampleAnswers persist)) where
  columns found trade hfound hsent := by
    cases hfound.symm.trans hpage
    rcases hsent with hmem | ⟨_, _, _, _, hanswer, -⟩
    · exact hcolumns trade hmem
    · cases hanswer
  current := .inl hcurrent

theorem tape_kept_two_pages :
    RunMeets (TapeState.step "BTCUSDT") (TapeKept "BTCUSDT") .initial
      [.restAggTrades [sampleRow 100, sampleRow 101] (sampleAnswers .works),
        .restAggTrades [sampleRow 101, sampleRow 102] (sampleAnswers (.failsAfter gapUnresolved))] :=
  tape_kept "BTCUSDT" _
    ⟨knowsTape_sample [sampleTrade 100, sampleTrade 101] (by decide +kernel) (by decide +kernel) rfl,
      knowsTape_sample [sampleTrade 101, sampleTrade 102] (by decide +kernel) (by decide +kernel)
        (by decide +kernel), trivial⟩

/-- The first page is persisted by a call that fails after its commit. The reader goes on without a
checkpoint, and the next page leaves a gap behind it. -/
theorem tape_not_one_interval :
    ¬ ∀ (symbol : String) (events : List TapeEvent),
      RunMeets (TapeState.step symbol) (TapeKept symbol) .initial events := by
  intro h
  obtain ⟨-, hkept, -⟩ := h "BTCUSDT"
    [.restAggTrades [sampleRow 100] (sampleAnswers (.failsAfter gapUnresolved)),
      .restAggTrades [sampleRow 200] (sampleAnswers .works)]
  obtain ⟨first, hids⟩ := hkept.interval.ids
  have hstored : (runFrom (TapeState.step "BTCUSDT") .initial
      [.restAggTrades [sampleRow 100] (sampleAnswers (.failsAfter gapUnresolved)),
        .restAggTrades [sampleRow 200] (sampleAnswers .works)]).store.trades.map TradePrint.tradeId = [100, 200] := by
    decide +kernel
  have hinterval : [100, 200] = List.range' first 2 := by
    have hlength := congrArg List.length hstored
    rw [List.length_map] at hlength
    exact hstored.symm.trans (hids.trans (congrArg (List.range' first) hlength))
  obtain ⟨h100, h200⟩ : 100 = first ∧ 200 = first + 1 := by simpa [List.range'] using hinterval
  omega

end AutoTrader.MarketData
