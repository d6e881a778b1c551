import AutoTrader.Ledger.FillEffects
import AutoTrader.Ledger.System

/-! Binance trades as executions of the ledger. The id of a trade is its sequence too, so the
watermark of the partition is told numbers that other traders' trades lie between. -/

namespace AutoTrader.Binance

open AutoTrader.Dispatch AutoTrader.Domain AutoTrader.Execution AutoTrader.Ledger AutoTrader.Runtime

structure BinanceUsdmTradeFact where
  tradeId : Nat
  symbol : String
  side : String
  quantity : ℚ
  price : ℚ
  commission : ℚ
  commissionAsset : String
  occurredAt : Instant

/-- What the settlement adds to a trade: where its order stands. -/
structure TradeContext where
  accountId : UUID
  instrumentId : UUID
  brokerId : UUID
  orderId : UUID
  brokerOrderId : String
  currency : String
  observedAt : Instant

/-- `SOURCE_PARTITION`. -/
def sourcePartition : String := "binance-usdm:BTCUSDT"

/-- The partition the trades of a context are told to. -/
def TradeContext.streamKey (context : TradeContext) : StreamKey :=
  ⟨context.brokerId, context.accountId, sourcePartition⟩

def binanceTradeExecutionId (tradeId : Nat) : String :=
  "BINANCE-USDM-TRADE:" ++ toString tradeId

/-- `_side`. -/
def tradeSide (text : String) : Except PyError Side :=
  if text = Side.buy.value then .ok .buy
  else if text = Side.sell.value then .ok .sell
  else .error ⟨.valueError, "Binance USD-M fill side is invalid"⟩

/-- `binance_execution_event`; `tradeHash` is the digest of what the venue said. -/
def binanceExecutionEvent (tradeHash : BinanceUsdmTradeFact → Digest) (trade : BinanceUsdmTradeFact)
    (context : TradeContext) : Except PyError BrokerExecutionEvent :=
  if trade.symbol ≠ "BTCUSDT" then .error ⟨.valueError, "Binance USD-M settlement supports BTCUSDT"⟩
  else if h : 0 < trade.quantity ∧ 0 < trade.price then do
    let side ← tradeSide trade.side
    if 0 < trade.commission ∧ trade.commissionAsset ≠ "USDT" then
      throw ⟨.valueError, "Binance USD-M commission in " ++ trade.commissionAsset ++
        " cannot be recorded against a " ++ context.currency ++ " ledger"⟩
    pure
      { brokerId := context.brokerId
        accountId := context.accountId
        orderId := context.orderId
        brokerOrderId := context.brokerOrderId
        brokerExecutionId := binanceTradeExecutionId trade.tradeId
        sourcePartition := sourcePartition
        sourceSequence := some trade.tradeId
        instrumentId := context.instrumentId
        side := side
        quantity := trade.quantity
        price := trade.price
        currency := context.currency
        executedAt := trade.occurredAt
        observedAt := context.observedAt
        payloadHash := tradeHash trade
        terms := h }
  else .error ⟨.valueError, "a Binance USD-M fill needs size and price"⟩

variable {arith : Arithmetic} {tradeHash : BinanceUsdmTradeFact → Digest}

theorem binanceExecutionEvent_ok {trade : BinanceUsdmTradeFact} {context : TradeContext}
    {event : BrokerExecutionEvent} (h : binanceExecutionEvent tradeHash trade context = .ok event) :
    event.sourceSequence = some trade.tradeId ∧
      event.streamKey = context.streamKey ∧ event.brokerExecutionId = binanceTradeExecutionId trade.tradeId := by
  unfold binanceExecutionEvent at h
  split at h
  · cases h
  split at h
  · obtain ⟨side, -, h⟩ := bind_ok.mp h
    split at h
    · cases h
    · rw [← Except.ok.inj h]
      exact ⟨rfl, rfl, rfl⟩
  · cases h

/-- The trades were applied one after the other, and none of them was found recorded. -/
def AppliedTrades (arith : Arithmetic) (tradeHash : BinanceUsdmTradeFact → Digest)
    (context : BinanceUsdmTradeFact → TradeContext) : Tables → List BinanceUsdmTradeFact → Tables → Prop
  | t, [], after => after = t
  | t, trade :: trades, after =>
    ∃ event mid application, binanceExecutionEvent tradeHash trade (context trade) = .ok event ∧
      applyEventOnce arith t event = .ok (mid, some application) ∧
      AppliedTrades arith tradeHash context mid trades after

/-! ### Streams told ascending numbers -/

/-- Everything through `n` arrived, and nothing else. -/
def Complete (s : Stream) (n : Nat) : Prop :=
  (n = 0 ∧ s = .empty) ∨
    ∃ w, s = ⟨some w, []⟩ ∧ w.contiguousThroughSequence = some n ∧ w.hasGap = false

/-- A gap is reported, and none of the numbers past `last` continues the mark. -/
def Gapped (s : Stream) (last : Nat) : Prop :=
  ∃ w, s.watermark = some w ∧ w.hasGap = true ∧ hasOpenGap s.gaps = true ∧
    w.contiguousThroughSequence.getD 0 + 1 ≤ last

variable {pick : List PersistedExecutionGap → Option PersistedExecutionGap} {received : List Nat} {s : Stream}
  {a : Arrival}

theorem laterSequences_of_le {n : Nat} (h : ∀ m ∈ received, m ≤ n) : laterSequences received n = [] := by
  have hnone : received.filter (n < ·) = [] := by
    refine List.filter_eq_nil_iff.mpr fun m hm => ?_
    have hle := h m hm
    simpa using hle
  unfold laterSequences
  rw [hnone]
  rfl

theorem hasOpenGap_addGap {gaps : List PersistedExecutionGap} (low high : Nat) (h : hasOpenGap gaps = true) :
    hasOpenGap (addGap gaps low high) = true := by
  unfold addGap
  split
  · unfold hasOpenGap at h ⊢
    rw [List.any_append, h, Bool.true_or]
  · exact h

theorem complete_next {n : Nat} (h : Complete s n) (hreceived : ∀ m ∈ received, m ≤ n + 1)
    (ha : a.sequence = n + 1) : Complete (advanceStreamSequence pick received s a) (n + 1) := by
  refine .inr ?_
  rcases h with ⟨rfl, rfl⟩ | ⟨w, rfl, hthrough, -⟩
  · have ha : a.sequence = 1 := by omega
    unfold advanceStreamSequence
    simp [Stream.empty, ha]
  · have hlater : laterSequences received (n + 1) = [] := laterSequences_of_le hreceived
    unfold advanceStreamSequence
    simp [hthrough, ha, hlater, drain, hasOpenGap]

theorem complete_skip {n : Nat} (h : Complete s n) (ha : n + 1 < a.sequence) :
    Gapped (advanceStreamSequence pick received s a) a.sequence := by
  rcases h with ⟨rfl, rfl⟩ | ⟨w, rfl, hthrough, -⟩
  · have hne : a.sequence ≠ 1 := by omega
    have hlt : 1 < a.sequence := by omega
    unfold advanceStreamSequence Gapped
    simp [Stream.empty, hne, hlt, hasOpenGap]
    omega
  · have hne : a.sequence ≠ n + 1 := by omega
    have hne' : n ≠ a.sequence := by omega
    have hle : n + 1 ≤ a.sequence - 1 := by omega
    unfold advanceStreamSequence Gapped
    simp [hthrough, hne, hne', hle, addGap, hasOpenGap]
    omega

/-- A number past the one that continues the mark. -/
theorem advance_past {w : PersistedExecutionWatermark} (hw : s.watermark = some w)
    (ha : w.contiguousThroughSequence.getD 0 + 1 < a.sequence) :
    advanceStreamSequence pick received s a =
      ⟨some { w with
          hasGap := true, evidenceHash := a.evidenceHash, expiresAt := a.expiresAt, rowVersion := w.rowVersion + 1 },
        addGap s.gaps (w.contiguousThroughSequence.getD 0 + 1) (a.sequence - 1)⟩ := by
  unfold advanceStreamSequence
  rw [hw]
  cases hthrough : w.contiguousThroughSequence with
  | none =>
    rw [hthrough] at ha
    have hne : a.sequence ≠ 1 := ne_of_gt ha
    simp [hthrough, hne]
  | some n =>
    rw [hthrough] at ha
    have ha : n + 1 < a.sequence := ha
    have hne : a.sequence ≠ n + 1 := by omega
    have hne' : n ≠ a.sequence := by omega
    simp [hthrough, hne, hne']

theorem gapped_advance {last : Nat} (h : Gapped s last) (ha : last < a.sequence) :
    Gapped (advanceStreamSequence pick received s a) a.sequence := by
  obtain ⟨w, hw, -, hopen, hlast⟩ := h
  rw [advance_past hw (by omega)]
  exact ⟨_, rfl, rfl, hasOpenGap_addGap _ _ hopen, by show w.contiguousThroughSequence.getD 0 + 1 ≤ _; omega⟩

theorem Complete.reports {n : Nat} (h : Complete s n) : s.reportsGap = false ∧ hasOpenGap s.gaps = false := by
  rcases h with ⟨-, rfl⟩ | ⟨w, rfl, -, hgap⟩
  · exact ⟨rfl, rfl⟩
  · exact ⟨hgap, rfl⟩

theorem Gapped.reports {last : Nat} (h : Gapped s last) : s.reportsGap = true ∧ hasOpenGap s.gaps = true := by
  obtain ⟨w, hw, hgap, hopen, -⟩ := h
  refine ⟨?_, hopen⟩
  unfold Stream.reportsGap
  rw [hw]
  exact hgap

/-! ### Runs -/

variable {context : BinanceUsdmTradeFact → TradeContext} {key : StreamKey}

/-- The stream and the recorded sequences of the partition after a trade. -/
theorem applied_stream {t mid : Tables} {trade : BinanceUsdmTradeFact} {event : BrokerExecutionEvent}
    {application : FillApplication} (hkey : (context trade).streamKey = key)
    (hevent : binanceExecutionEvent tradeHash trade (context trade) = .ok event)
    (happly : applyEventOnce arith t event = .ok (mid, some application)) :
    mid.received key =
        t.received key ++ [trade.tradeId] ∧
      ∃ arrival : Arrival, arrival.sequence = trade.tradeId ∧
        mid.streams key =
          advanceStreamSequence List.head? (mid.received key)
            (t.streams key) arrival := by
  obtain ⟨hsequence, hstream, -⟩ := binanceExecutionEvent_ok hevent
  have hkey : event.streamKey = key := hstream.trans hkey
  obtain ⟨hresult, -⟩ | ⟨-, anchors, order, stored, happlied⟩ := applyEventOnce_ok happly
  · cases hresult
  have hreceived : mid.received key =
      t.received key ++ [trade.tradeId] := by
    unfold Tables.received
    rw [happlied.fills, List.filter_append, List.filterMap_append]
    rw [← hkey]
    simp [fillRow, BrokerExecutionEvent.streamKey, hsequence]
  refine ⟨hreceived, ⟨trade.tradeId, event.observedAt, endOfDay event.observedAt, event.payloadHash⟩, rfl, ?_⟩
  rw [happlied.streams]
  unfold advanceStream
  rw [hsequence]
  dsimp only
  rw [hkey, Function.update_self]
  rfl

theorem gapped_run {t after : Tables} {trades : List BinanceUsdmTradeFact} {last : Nat}
    (hcontext : ∀ trade ∈ trades, (context trade).streamKey = key)
    (hsorted : (last :: trades.map (·.tradeId)).Pairwise (· < ·))
    (hgapped : Gapped (t.streams key) last)
    (happlied : AppliedTrades arith tradeHash context t trades after) :
    ∃ last, Gapped (after.streams key) last := by
  induction trades generalizing t last with
  | nil =>
    have happlied : after = t := happlied
    rw [happlied]
    exact ⟨last, hgapped⟩
  | cons trade trades ih =>
    obtain ⟨event, mid, application, hevent, happly, hrest⟩ := happlied
    obtain ⟨-, arrival, hsequence, hstream⟩ := applied_stream (hcontext trade List.mem_cons_self) hevent happly
    obtain ⟨hlast, hsorted⟩ := List.pairwise_cons.mp hsorted
    have hlt : last < arrival.sequence := by
      rw [hsequence]
      exact hlast _ List.mem_cons_self
    have hmid : Gapped (mid.streams key) trade.tradeId := by
      rw [hstream, ← hsequence]
      exact gapped_advance hgapped hlt
    exact ih (fun other hother => hcontext other (List.mem_cons_of_mem trade hother)) hsorted hmid hrest

theorem ascending_run {t after : Tables} {trades : List BinanceUsdmTradeFact} {n : Nat}
    (hcontext : ∀ trade ∈ trades, (context trade).streamKey = key)
    (hsorted : (n :: trades.map (·.tradeId)).Pairwise (· < ·))
    (hreceived : ∀ m ∈ t.received key, m ≤ n)
    (hcomplete : Complete (t.streams key) n)
    (happlied : AppliedTrades arith tradeHash context t trades after) :
    if trades.map (·.tradeId) = List.range' (n + 1) trades.length then
      ∃ n, Complete (after.streams key) n
    else ∃ last, Gapped (after.streams key) last := by
  induction trades generalizing t n with
  | nil =>
    have happlied : after = t := happlied
    have hnil : ([] : List BinanceUsdmTradeFact).map (·.tradeId) = List.range' (n + 1) 0 := rfl
    rw [List.length_nil, if_pos hnil, happlied]
    exact ⟨n, hcomplete⟩
  | cons trade trades ih =>
    obtain ⟨event, mid, application, hevent, happly, hrest⟩ := happlied
    obtain ⟨hrows, arrival, hsequence, hstream⟩ := applied_stream (hcontext trade List.mem_cons_self) hevent happly
    obtain ⟨hlast, hsorted⟩ := List.pairwise_cons.mp hsorted
    have hothers := fun other hother => hcontext other (List.mem_cons_of_mem trade hother)
    have hlt : n < trade.tradeId := hlast _ List.mem_cons_self
    have hids : (trade :: trades).map (·.tradeId) = List.range' (n + 1) (trade :: trades).length ↔
        trade.tradeId = n + 1 ∧ trades.map (·.tradeId) = List.range' (n + 1 + 1) trades.length := by
      rw [List.map_cons, List.length_cons, List.range'_succ, List.cons.injEq]
    by_cases hnext : trade.tradeId = n + 1
    · have hrows' : ∀ m ∈ mid.received key, m ≤ n + 1 := by
        intro m hm
        rw [hrows] at hm
        rcases List.mem_append.mp hm with hm | hm
        · have hle := hreceived m hm
          omega
        · rw [List.mem_singleton.mp hm]
          omega
      have hmid : Complete (mid.streams key) (n + 1) := by
        rw [hstream]
        exact complete_next hcomplete hrows' (hsequence.trans hnext)
      have hrun := ih hothers (hnext ▸ hsorted) hrows' hmid hrest
      simp only [hids, hnext, true_and]
      exact hrun
    · have hskip : n + 1 < arrival.sequence := by omega
      have hmid : Gapped (mid.streams key) trade.tradeId := by
        rw [hstream, ← hsequence]
        exact complete_skip hcomplete hskip
      rw [if_neg fun h => hnext (hids.mp h).1]
      exact gapped_run hothers hsorted hmid hrest

/-- A partition that was told all its trades reports no gap exactly when their ids count from
one; otherwise a gap row stays open, which every later checkpoint reports again. -/
theorem tradeWatermark_complete_iff (arith : Arithmetic) (tradeHash : BinanceUsdmTradeFact → Digest)
    (context : BinanceUsdmTradeFact → TradeContext) (key : StreamKey) (t after : Tables)
    (trades : List BinanceUsdmTradeFact)
    (hcontext : ∀ trade ∈ trades, (context trade).streamKey = key)
    (hfresh : t.streams key = .empty ∧
      t.received key = [])
    (hpositive : ∀ trade ∈ trades, 0 < trade.tradeId)
    (hascending : (trades.map (·.tradeId)).Pairwise (· < ·))
    (happlied : AppliedTrades arith tradeHash context t trades after) :
    ((after.streams key).reportsGap = false ↔
        trades.map (·.tradeId) = List.range' 1 trades.length) ∧
      (hasOpenGap (after.streams key).gaps = false ↔
        trades.map (·.tradeId) = List.range' 1 trades.length) := by
  have hsorted : (0 :: trades.map (·.tradeId)).Pairwise (· < ·) := by
    refine List.pairwise_cons.mpr ⟨fun m hm => ?_, hascending⟩
    obtain ⟨trade, htrade, rfl⟩ := List.mem_map.mp hm
    exact hpositive trade htrade
  have hrun := ascending_run hcontext hsorted (by simp [hfresh.2]) (.inl ⟨rfl, hfresh.1⟩) happlied
  split at hrun
  · rename_i hids
    obtain ⟨n, hcomplete⟩ := hrun
    exact ⟨iff_of_true hcomplete.reports.1 hids, iff_of_true hcomplete.reports.2 hids⟩
  · rename_i hids
    obtain ⟨last, hgapped⟩ := hrun
    refine ⟨iff_of_false ?_ hids, iff_of_false ?_ hids⟩
    · rw [hgapped.reports.1]
      decide
    · rw [hgapped.reports.2]
      decide

/-! ### One trade -/

private def bitcoinTrade (tradeId : Nat) : BinanceUsdmTradeFact :=
  ⟨tradeId, "BTCUSDT", "BUY", 1, 1, 0, "USDT", 10⟩

private def tradeContext : TradeContext :=
  ⟨rowUuid 2, rowUuid 4, rowUuid 1, rowUuid 3, "B1", "USD", 10⟩

private def beforeTrades : Tables :=
  sampleTables [sampleOrder .buy 3] [sampleLink (rowUuid 3) "ACKNOWLEDGED"]

/-- What the ledger says after one trade: whether it was applied, and whether a gap is reported. -/
private def oneTrade (tradeId : Nat) : Option (Bool × Bool) :=
  match binanceExecutionEvent (fun _ => 0) (bitcoinTrade tradeId) tradeContext with
  | .error _ => none
  | .ok event =>
    match applyEventOnce .exact beforeTrades event with
    | .error _ => none
    | .ok (after, result) => some (result.isSome, (after.streams tradeContext.streamKey).reportsGap)

private theorem oneTrade_applied {tradeId : Nat} {gap : Bool} (h : oneTrade tradeId = some (true, gap)) :
    ∃ after, AppliedTrades .exact (fun _ => 0) (fun _ => tradeContext) beforeTrades [bitcoinTrade tradeId] after ∧
      (after.streams tradeContext.streamKey).reportsGap = gap := by
  unfold oneTrade at h
  split at h
  · cases h
  rename_i event hevent
  split at h
  · cases h
  rename_i after result happly
  obtain ⟨hresult, hgap⟩ := Prod.mk.inj (Option.some.inj h)
  obtain ⟨application, rfl⟩ := Option.isSome_iff_exists.mp hresult
  exact ⟨after, ⟨event, after, application, hevent, happly, rfl⟩, hgap⟩

/-- Trade number one alone. -/
theorem tradeWatermark_complete_iff_first : ∃ after,
    AppliedTrades .exact (fun _ => 0) (fun _ => tradeContext) beforeTrades [bitcoinTrade 1] after ∧
      ((after.streams tradeContext.streamKey).reportsGap = false ↔ [1] = List.range' 1 1) ∧
      (hasOpenGap (after.streams tradeContext.streamKey).gaps = false ↔ [1] = List.range' 1 1) := by
  obtain ⟨after, happlied, -⟩ := oneTrade_applied (by decide +kernel : oneTrade 1 = some (true, false))
  refine ⟨after, happlied, ?_⟩
  exact tradeWatermark_complete_iff .exact (fun _ => 0) (fun _ => tradeContext) tradeContext.streamKey beforeTrades
    after [bitcoinTrade 1] (fun _ _ => rfl) ⟨rfl, rfl⟩ (by decide) (by decide) happlied

/-- The first trade of an account is number 7 of its symbol: six trades seem to be missing. -/
theorem tradeWatermark_fails_sparse :
    ¬∀ (context : BinanceUsdmTradeFact → TradeContext) (key : StreamKey) (t after : Tables)
      (trades : List BinanceUsdmTradeFact), (∀ trade ∈ trades, (context trade).streamKey = key) →
      t.streams key = .empty ∧ t.received key = [] → (∀ trade ∈ trades, 0 < trade.tradeId) →
      (trades.map (·.tradeId)).Pairwise (· < ·) → AppliedTrades .exact (fun _ => 0) context t trades after →
      (after.streams key).reportsGap = false := by
  intro h
  obtain ⟨after, happlied, hgap⟩ := oneTrade_applied (by decide +kernel : oneTrade 7 = some (true, true))
  have hnone := h (fun _ => tradeContext) tradeContext.streamKey beforeTrades after [bitcoinTrade 7] (fun _ _ => rfl)
    ⟨rfl, rfl⟩ (by decide) (by decide) happlied
  rw [hgap] at hnone
  cases hnone

end AutoTrader.Binance
