import AutoTrader.Binance.OrderResponses
import AutoTrader.Binance.ProtectionModels
import AutoTrader.Binance.TradeSettlement

/-! The live settlement: the venue's trades become fills of the ledger, and the highest id among the
fills is where the next pass resumes. A trade whose order has no link yet is skipped, and is lost
once a newer trade was applied. -/

namespace AutoTrader.Trader

open AutoTrader.Binance AutoTrader.Dispatch AutoTrader.Domain AutoTrader.Execution AutoTrader.Ledger
  AutoTrader.Runtime

/-- A trade with the venue's id of the order it filled. -/
structure VenueTrade extends BinanceUsdmTradeFact where
  orderId : Nat

structure SettlementAccount where
  accountId : UUID
  brokerId : UUID
  currency : String

/-- What became of one trade. -/
inductive TradeOutcome
  | unmatched
  | recorded (opened : Option (UUID × ℚ))

/-- What a pass leaves, and the exception that ended it early. -/
structure SettlementPass where
  tables : Tables
  unmatched : Nat
  opened : List (UUID × ℚ)
  raised : Option PyError

section Settlement

variable (arith : Arithmetic) (tradeHash : BinanceUsdmTradeFact → Digest)
  (intentType : Ledger.PersistedOrder → Option IntentType) (account : SettlementAccount)

/-- The sequences of the account's fills from the venue. -/
def SettlementAccount.sequences (t : Tables) : List Nat :=
  (t.fills.filter fun f => f.accountId = account.accountId && f.sourcePartition = sourcePartition).filterMap
    (·.sourceSequence)

/-- `_cursor`. -/
def SettlementAccount.cursor (t : Tables) : Option Nat := (account.sequences t).max?

/-- The link a trade is found under. -/
def tradeLink (t : Tables) (trade : VenueTrade) : Option BrokerOrderLink :=
  t.links.find? (·.brokerOrderId = binanceProviderOrderId trade.orderId)

/-- `_apply`; `intentType` reads the intent of an order. -/
def applyTrade (t : Tables) (trade : VenueTrade) (now : Instant) : Except PyError (Tables × TradeOutcome) :=
  match tradeLink t trade with
  | none => .ok (t, .unmatched)
  | some link =>
    match t.order? link.orderId with
    | none => .error ⟨.lookupError, "a linked Binance USD-M fill has no canonical order"⟩
    | some order =>
      match intentType order with
      | none => .error ⟨.lookupError, "a linked Binance USD-M fill has no intent"⟩
      | some kind => do
        let event ← binanceExecutionEvent tradeHash trade.toBinanceUsdmTradeFact
          { accountId := order.accountId
            instrumentId := order.instrumentId
            brokerId := account.brokerId
            orderId := order.id
            brokerOrderId := binanceProviderOrderId trade.orderId
            currency := account.currency
            observedAt := now }
        let (after, _) ← applyEventOnce arith t event
        pure (after, .recorded (if kind = .entry then some (order.id, trade.quantity) else none))

/-- The loop of `settle`, one transaction for each trade. -/
def settleTrades (cursor : Option Nat) (now : Instant) : Tables → List VenueTrade → SettlementPass
  | t, [] => ⟨t, 0, [], none⟩
  | t, trade :: rest =>
    if cursor.any (trade.tradeId ≤ ·) then settleTrades cursor now t rest
    else
      match applyTrade arith tradeHash intentType account t trade now with
      | .error e => ⟨t, 0, [], some e⟩
      | .ok (after, .unmatched) =>
        let pass := settleTrades cursor now after rest
        { pass with unmatched := pass.unmatched + 1 }
      | .ok (after, .recorded opened) =>
        let pass := settleTrades cursor now after rest
        { pass with opened := opened.toList ++ pass.opened }

/-- `settle`, up to the protection of what opened. -/
def settle (t : Tables) (facts : List VenueTrade) (now : Instant) : SettlementPass :=
  settleTrades arith tradeHash intentType account (account.cursor t) now t
    (facts.insertionSort fun a b => a.tradeId ≤ b.tradeId)

end Settlement

/-! ### Trades in the ledger -/

section Recorded

variable {arith : Arithmetic} {tradeHash : BinanceUsdmTradeFact → Digest}
  {intentType : Ledger.PersistedOrder → Option IntentType} {account : SettlementAccount}

/-- The fills recorded for a trade. -/
def SettlementAccount.fillsOf (account : SettlementAccount) (t : Tables) (tradeId : Nat) : List PersistedFill :=
  t.fills.filter fun f => f.brokerId = account.brokerId && f.accountId = account.accountId &&
    f.brokerExecutionId = binanceTradeExecutionId tradeId

/-- The trade's order has a link, and is one of the account. -/
def SettlementAccount.isLinked (account : SettlementAccount) (t : Tables) (trade : VenueTrade) : Bool :=
  ((tradeLink t trade).bind fun link => t.order? link.orderId).any (·.accountId = account.accountId)

theorem tradeExecutionId_injective {m n : Nat} (h : binanceTradeExecutionId m = binanceTradeExecutionId n) : m = n := by
  have htexts := congrArg String.toList h
  unfold binanceTradeExecutionId at htexts
  rw [String.toList_append, String.toList_append] at htexts
  have hnumbers := List.append_cancel_left htexts
  rw [Nat.toString_eq_repr, Nat.toString_eq_repr, Nat.toList_repr, Nat.toList_repr] at hnumbers
  calc m = Nat.ofDigitChars 10 (Nat.toDigits 10 m) 0 := Nat.ofDigitChars_ten_toDigits.symm
    _ = Nat.ofDigitChars 10 (Nat.toDigits 10 n) 0 := by rw [hnumbers]
    _ = n := Nat.ofDigitChars_ten_toDigits

/-- Whether the cursor is at or past an id. -/
theorem cursor_reaches {t : Tables} {n : Nat} :
    (account.cursor t).any (n ≤ ·) = true ↔ ∃ m ∈ account.sequences t, n ≤ m := by
  unfold SettlementAccount.cursor
  cases hmax : (account.sequences t).max? with
  | none =>
    rw [List.max?_eq_none_iff] at hmax
    simp [hmax]
  | some m =>
    obtain ⟨hmem, hle⟩ := List.max?_eq_some_iff.mp hmax
    simp only [Option.any_some, decide_eq_true_eq]
    exact ⟨fun h => ⟨m, hmem, h⟩, fun ⟨k, hk, hn⟩ => hn.trans (hle k hk)⟩

/-- An execution is told apart from the fills of a trade by nothing. -/
theorem fillsOf_event {t : Tables} {event : BrokerExecutionEvent} {tradeId : Nat}
    (hbroker : event.brokerId = account.brokerId) (haccount : event.accountId = account.accountId)
    (hexecution : event.brokerExecutionId = binanceTradeExecutionId tradeId) :
    (t.fill? event = none → account.fillsOf t tradeId = []) ∧
      (∀ existing, t.fill? event = some existing → account.fillsOf t tradeId ≠ []) := by
  unfold Tables.fill? SettlementAccount.fillsOf
  rw [hbroker, haccount, hexecution]
  constructor
  · intro hnone
    exact List.filter_eq_nil_iff.mpr fun f hf => List.find?_eq_none.mp hnone f hf
  · intro existing hfound hempty
    have hmem := List.mem_filter.mpr ⟨List.mem_of_find?_eq_some hfound, List.find?_some hfound⟩
    rw [hempty] at hmem
    exact absurd hmem List.not_mem_nil

theorem fillsOf_append {t after : Tables} {row : PersistedFill} (h : after.fills = t.fills ++ [row]) (n : Nat) :
    account.fillsOf after n = account.fillsOf t n ++
      if row.brokerId = account.brokerId && row.accountId = account.accountId &&
        row.brokerExecutionId = binanceTradeExecutionId n then [row] else [] := by
  unfold SettlementAccount.fillsOf
  rw [h, List.filter_append, List.filter_singleton, Bool.cond_eq_ite]

theorem sequences_append {t after : Tables} {row : PersistedFill} (h : after.fills = t.fills ++ [row]) :
    account.sequences after = account.sequences t ++
      if row.accountId = account.accountId && row.sourcePartition = sourcePartition then row.sourceSequence.toList
      else [] := by
  unfold SettlementAccount.sequences
  rw [h, List.filter_append, List.filterMap_append, List.filter_singleton, Bool.cond_eq_ite]
  split
  · cases hsequence : row.sourceSequence <;> simp [hsequence]
  · rfl

/-- What one transaction does to the fills and the links. -/
inductive TradeApplied (account : SettlementAccount) (t after : Tables) (trade : VenueTrade) : Prop
  | skipped (unlinked : account.isLinked t trade = false) (fills : ∀ n, account.fillsOf after n = account.fillsOf t n)
      (sequences : account.sequences after = account.sequences t)
  | found (linked : account.isLinked t trade) (once : account.fillsOf t trade.tradeId ≠ [])
      (fills : after.fills = t.fills)
  | added (linked : account.isLinked t trade) (unrecorded : account.fillsOf t trade.tradeId = [])
      (row : PersistedFill) (own : account.fillsOf after trade.tradeId = [row])
      (others : ∀ n, n ≠ trade.tradeId → account.fillsOf after n = account.fillsOf t n)
      (sequences : account.sequences after = account.sequences t ++ [trade.tradeId])

theorem isLinked_congr {t after : Tables} (hlinks : after.links = t.links)
    (horders : ∀ id, (after.order? id).map (·.accountId) = (t.order? id).map (·.accountId)) (trade : VenueTrade) :
    account.isLinked after trade = account.isLinked t trade := by
  have hany : ∀ order : Option Ledger.PersistedOrder, order.any (·.accountId = account.accountId) =
      (order.map (·.accountId)).any (· = account.accountId) := by
    intro order
    cases order <;> rfl
  unfold SettlementAccount.isLinked tradeLink
  rw [hlinks]
  cases t.links.find? (·.brokerOrderId = binanceProviderOrderId trade.orderId) with
  | none => rfl
  | some link => rw [Option.bind_some, Option.bind_some, hany, hany, horders]

/-- The link of a protective stop carries the venue's id of the stop, and no trade is found under it. -/
theorem algoLink_unfound {t : Tables} {link : BrokerOrderLink}
    (hlink : providerAlgoPrefix <+: link.brokerOrderId.toList) (trade : VenueTrade) : tradeLink t trade ≠ some link := by
  intro hfound
  unfold tradeLink at hfound
  have hid := List.find?_some hfound
  rw [decide_eq_true_eq] at hid
  obtain ⟨digits, hdigits⟩ := hlink
  have halgo : providerAlgoPrefix = "BINANCE-USDM".toList ++ '-' :: "ALGO:".toList := by decide
  have horder : "BINANCE-USDM:".toList = "BINANCE-USDM".toList ++ [':'] := by decide
  rw [hid, binanceProviderOrderId, String.toList_append, halgo, horder, List.append_assoc, List.append_assoc] at hdigits
  have hseparators := (List.cons.inj (List.append_cancel_left hdigits)).1
  exact absurd hseparators (by decide)

/-- Writing a link takes none away. -/
theorem isLinked_addLink {t : Tables} (link : BrokerOrderLink) {trade : VenueTrade} (h : account.isLinked t trade) :
    account.isLinked { t with links := t.links ++ [link] } trade := by
  unfold SettlementAccount.isLinked tradeLink at h ⊢
  rw [List.find?_append]
  cases hlink : t.links.find? (·.brokerOrderId = binanceProviderOrderId trade.orderId) with
  | none =>
    rw [hlink] at h
    cases h
  | some old =>
    rw [hlink] at h
    exact h

theorem order_account_applied {t after : Tables} {anchors : RiskBudgetAnchor × RiskBudgetAnchor}
    {order : Ledger.PersistedOrder} {stored : ℚ} {event : BrokerExecutionEvent}
    (h : Applied arith t after anchors order stored event) (id : UUID) :
    (after.order? id).map (·.accountId) = (t.order? id).map (·.accountId) := by
  have hid : ∀ row : Ledger.PersistedOrder, (row.fill (filledTotal arith order event) stored).id = row.id := fun _ => rfl
  unfold Tables.order?
  rw [h.orders, Rows.lookup_update hid, Option.map_map]
  congr 1
  funext row
  dsimp only [Function.comp]
  split <;> rfl

theorem applyTrade_ok {t after : Tables} {trade : VenueTrade} {now : Instant} {outcome : TradeOutcome}
    (h : applyTrade arith tradeHash intentType account t trade now = .ok (after, outcome)) :
    TradeApplied account t after trade ∧
      ∀ other, account.isLinked after other = account.isLinked t other := by
  unfold applyTrade at h
  split at h
  · rename_i hlink
    cases h
    refine ⟨.skipped ?_ (fun _ => rfl) rfl, fun _ => rfl⟩
    unfold SettlementAccount.isLinked
    rw [hlink]
    rfl
  rename_i link hlink
  split at h
  · cases h
  rename_i order horder
  split at h
  · cases h
  rename_i kind hkind
  obtain ⟨event, hevent, h⟩ := bind_ok.mp h
  obtain ⟨⟨t', result⟩, happly, h⟩ := bind_ok.mp h
  cases h
  have hlinked : account.isLinked t trade = decide (order.accountId = account.accountId) := by
    unfold SettlementAccount.isLinked
    rw [hlink, Option.bind_some, horder]
    rfl
  obtain ⟨hsequence, hstream, hexecution⟩ := binanceExecutionEvent_ok hevent
  obtain ⟨hbroker, haccount, hpartition⟩ := StreamKey.mk.inj hstream
  obtain ⟨-, existing, hfill, hafter⟩ | ⟨-, anchors, locked, stored, happlied⟩ := applyEventOnce_ok happly
  · have hsame : after.fills = t.fills ∧ ∀ other, account.isLinked after other = account.isLinked t other := by
      rcases hafter with rfl | rfl
      · exact ⟨rfl, fun _ => rfl⟩
      · exact ⟨rfl, fun _ => rfl⟩
    refine ⟨?_, hsame.2⟩
    by_cases hown : order.accountId = account.accountId
    · exact .found (by rw [hlinked, decide_eq_true hown])
        ((fillsOf_event hbroker (haccount.trans hown) hexecution).2 existing hfill) hsame.1
    · refine .skipped (by rw [hlinked, decide_eq_false hown]) (fun n => ?_) ?_
      · rw [SettlementAccount.fillsOf, hsame.1]
        rfl
      · rw [SettlementAccount.sequences, hsame.1]
        rfl
  · refine ⟨?_, fun other => ?_⟩
    · by_cases hown : order.accountId = account.accountId
      · refine .added (by rw [hlinked, decide_eq_true hown])
          ((fillsOf_event hbroker (haccount.trans hown) hexecution).1 happlied.unrecorded)
          (fillRow arith t.book.drawn event) ?_ (fun n hn => ?_) ?_
        · rw [fillsOf_append happlied.fills, if_pos (by simp [fillRow, hbroker, haccount, hown, hexecution]),
            (fillsOf_event hbroker (haccount.trans hown) hexecution).1 happlied.unrecorded]
          rfl
        · rw [fillsOf_append happlied.fills, if_neg, List.append_nil]
          simp only [fillRow, hexecution, Bool.and_eq_true, decide_eq_true_eq]
          exact fun hrow => hn (tradeExecutionId_injective hrow.2).symm
        · rw [sequences_append happlied.fills, if_pos (by simp [fillRow, haccount, hown, hpartition])]
          simp [fillRow, hsequence]
      · refine .skipped (by rw [hlinked, decide_eq_false hown]) (fun n => ?_) ?_
        · rw [fillsOf_append happlied.fills, if_neg (by simp [fillRow, haccount, hown]), List.append_nil]
        · rw [sequences_append happlied.fills, if_neg (by simp [fillRow, haccount, hown]), List.append_nil]
    · exact isLinked_congr happlied.links (order_account_applied happlied) other

end Recorded

/-! ### One pass -/

section Pass

variable {arith : Arithmetic} {tradeHash : BinanceUsdmTradeFact → Digest}
  {intentType : Ledger.PersistedOrder → Option IntentType} {account : SettlementAccount} {placed : Nat → Bool}
  {history rest : List VenueTrade} {t after : Tables} {trade : VenueTrade}

variable (account placed history) in
/-- How the ledger stands to the venue's history: the trades of placed orders behind the cursor are
recorded, and recorded ones are linked. -/
structure Ledgered (t : Tables) : Prop where
  once : ∀ n, (account.fillsOf t n).length ≤ 1
  behind : ∀ trade ∈ history, placed trade.orderId → (∃ m ∈ account.sequences t, trade.tradeId ≤ m) →
    account.fillsOf t trade.tradeId ≠ []
  linked : ∀ trade ∈ history, placed trade.orderId → account.fillsOf t trade.tradeId ≠ [] → account.isLinked t trade
  known : ∀ n, n ∈ account.sequences t ∨ account.fillsOf t n ≠ [] → ∃ trade ∈ history, trade.tradeId = n

variable (account placed history) in
/-- A trade of a placed order that is not recorded yet is linked and still to come, or it is not
linked and newer than every linked one to come. -/
def Awaits (t : Tables) (rest : List VenueTrade) : Prop :=
  ∀ trade ∈ history, placed trade.orderId → account.fillsOf t trade.tradeId = [] →
    (account.isLinked t trade ∧ trade ∈ rest) ∨
      (account.isLinked t trade = false ∧
        ∀ other ∈ rest, account.isLinked t other → other.tradeId < trade.tradeId)

theorem Awaits.next (h : Awaits account placed history t (trade :: rest))
    (hhead : placed trade.orderId → account.isLinked t trade → account.fillsOf t trade.tradeId ≠ []) :
    Awaits account placed history t rest := by
  intro other hother hplaced hunrecorded
  rcases h other hother hplaced hunrecorded with ⟨hlinked, hmem⟩ | ⟨hunlinked, hnewer⟩
  · rcases List.mem_cons.mp hmem with rfl | hmem
    · exact absurd hunrecorded (hhead hplaced hlinked)
    · exact .inl ⟨hlinked, hmem⟩
  · exact .inr ⟨hunlinked, fun next hnext => hnewer next (List.mem_cons_of_mem _ hnext)⟩

/-- One transaction of a pass. -/
theorem Ledgered.next (h : Ledgered account placed history t)
    (hascending : history.Pairwise fun a b => a.tradeId < b.tradeId) (hmem : trade ∈ history)
    (hsorted : ∀ other ∈ rest, trade.tradeId ≤ other.tradeId)
    (hawaits : Awaits account placed history t (trade :: rest)) (happlied : TradeApplied account t after trade)
    (hlinks : ∀ other, account.isLinked after other = account.isLinked t other) :
    Ledgered account placed history after ∧ Awaits account placed history after rest ∧
      ∀ n, account.fillsOf t n ≠ [] → account.fillsOf after n ≠ [] := by
  have hsame : (∀ n, account.fillsOf after n = account.fillsOf t n) → account.sequences after = account.sequences t →
      (placed trade.orderId → account.isLinked t trade → account.fillsOf t trade.tradeId ≠ []) →
      Ledgered account placed history after ∧ Awaits account placed history after rest ∧
        ∀ n, account.fillsOf t n ≠ [] → account.fillsOf after n ≠ [] := by
    intro hfills hsequences hhead
    refine ⟨⟨fun n => ?_, ?_, ?_, ?_⟩, fun other hother hplaced hunrecorded => ?_, fun n hn => ?_⟩
    · rw [hfills]
      exact h.once n
    · rw [hsequences]
      intro other
      rw [hfills]
      exact h.behind other
    · intro other
      rw [hfills, hlinks]
      exact h.linked other
    · intro n
      rw [hsequences, hfills]
      exact h.known n
    · rw [hfills] at hunrecorded
      have hnext := hawaits.next hhead other hother hplaced hunrecorded
      simp only [hlinks]
      exact hnext
    · rw [hfills]
      exact hn
  cases happlied with
  | skipped unlinked fills sequences =>
    refine hsame fills sequences fun _ hlinked => ?_
    rw [unlinked] at hlinked
    cases hlinked
  | found linked once fills =>
    refine hsame (fun n => ?_) ?_ fun _ _ => once
    · rw [SettlementAccount.fillsOf, fills]
      rfl
    · rw [SettlementAccount.sequences, fills]
      rfl
  | added linked unrecorded row own others sequences =>
    have hrecorded : ∀ n, account.fillsOf t n ≠ [] → account.fillsOf after n ≠ [] := by
      intro n hn
      by_cases hown : n = trade.tradeId
      · rw [hown, own]
        exact List.cons_ne_nil _ _
      · rw [others n hown]
        exact hn
    have hids : (history.map (·.tradeId)).Nodup :=
      List.pairwise_map.mpr (hascending.imp fun hlt => ne_of_lt hlt)
    have hunique : ∀ other ∈ history, other.tradeId = trade.tradeId → other = trade :=
      fun other hother heq => List.inj_on_of_nodup_map hids hother hmem heq
    have hstill : ∀ other : VenueTrade, account.fillsOf after other.tradeId = [] →
        other.tradeId ≠ trade.tradeId ∧ account.fillsOf t other.tradeId = [] := by
      intro other hempty
      have hne : other.tradeId ≠ trade.tradeId := by
        intro heq
        rw [heq, own] at hempty
        cases hempty
      exact ⟨hne, by rw [← others _ hne, hempty]⟩
    have hawaits' : Awaits account placed history after rest := by
      intro other hother hplaced hempty
      obtain ⟨hne, hempty⟩ := hstill other hempty
      simp only [hlinks]
      rcases hawaits other hother hplaced hempty with ⟨hlinked, hin⟩ | ⟨hunlinked, hnewer⟩
      · refine .inl ⟨hlinked, (List.mem_cons.mp hin).resolve_left fun heq => hne ?_⟩
        rw [heq]
      · exact .inr ⟨hunlinked, fun next hnext => hnewer next (List.mem_cons_of_mem _ hnext)⟩
    refine ⟨⟨fun n => ?_, ?_, ?_, ?_⟩, hawaits', hrecorded⟩
    · by_cases hown : n = trade.tradeId
      · rw [hown, own]
        rfl
      · rw [others n hown]
        exact h.once n
    · rintro other hother hplaced ⟨m, hm, hle⟩ hempty
      obtain ⟨hne, hempty⟩ := hstill other hempty
      rw [sequences] at hm
      rcases List.mem_append.mp hm with hold | hnew
      · exact h.behind other hother hplaced ⟨m, hold, hle⟩ hempty
      · -- the cursor moved to this trade, which no unrecorded one is behind
        rw [List.mem_singleton.mp hnew] at hle
        rcases hawaits other hother hplaced hempty with ⟨-, hin⟩ | ⟨-, hnewer⟩
        · rcases List.mem_cons.mp hin with heq | hin
          · exact hne (congrArg (·.tradeId) heq)
          · exact hne (le_antisymm hle (hsorted other hin))
        · exact absurd (hnewer trade List.mem_cons_self linked) (not_lt.mpr hle)
    · intro other hother hplaced hnonempty
      rw [hlinks]
      by_cases hown : other.tradeId = trade.tradeId
      · rw [hunique other hother hown]
        exact linked
      · rw [others _ hown] at hnonempty
        exact h.linked other hother hplaced hnonempty
    · intro n hn
      rw [sequences] at hn
      by_cases hown : n = trade.tradeId
      · exact ⟨trade, hmem, hown.symm⟩
      · rw [others n hown] at hn
        refine h.known n (hn.imp_left fun hin => ?_)
        exact (List.mem_append.mp hin).resolve_right fun hnew => hown (List.mem_singleton.mp hnew)

/-- What a pass has done, wherever it ended. -/
theorem settleTrades_keeps {cursor : Option Nat} {now : Instant}
    (hascending : history.Pairwise fun a b => a.tradeId < b.tradeId) (h : Ledgered account placed history t)
    (hmem : ∀ trade ∈ rest, trade ∈ history) (hsorted : rest.Pairwise fun a b => a.tradeId ≤ b.tradeId)
    (hawaits : Awaits account placed history t rest)
    (hskipped : ∀ trade ∈ history, placed trade.orderId → cursor.any (trade.tradeId ≤ ·) →
      account.fillsOf t trade.tradeId ≠ []) :
    let pass := settleTrades arith tradeHash intentType account cursor now t rest
    Ledgered account placed history pass.tables ∧
      (pass.raised = none → Awaits account placed history pass.tables []) ∧
      (∀ n, account.fillsOf t n ≠ [] → account.fillsOf pass.tables n ≠ []) ∧
      ∀ other, account.isLinked pass.tables other = account.isLinked t other := by
  induction rest generalizing t with
  | nil => exact ⟨h, fun _ => hawaits, fun _ hn => hn, fun _ => rfl⟩
  | cons trade rest ih =>
    obtain ⟨hhead, hsorted⟩ := List.pairwise_cons.mp hsorted
    have hrest : ∀ other ∈ rest, other ∈ history := fun other hother => hmem other (List.mem_cons_of_mem _ hother)
    have hin : trade ∈ history := hmem trade List.mem_cons_self
    unfold settleTrades
    by_cases hcursor : cursor.any (trade.tradeId ≤ ·) = true
    · rw [if_pos hcursor]
      exact ih h hrest hsorted (hawaits.next fun hplaced _ => hskipped trade hin hplaced hcursor) hskipped
    · rw [if_neg hcursor]
      cases happly : applyTrade arith tradeHash intentType account t trade now with
      | error e => exact ⟨h, nofun, fun _ hn => hn, fun _ => rfl⟩
      | ok p =>
        obtain ⟨after, outcome⟩ := p
        obtain ⟨happlied, hlinks⟩ := applyTrade_ok happly
        obtain ⟨hafter, hawaits, hmore⟩ := h.next hascending hin hhead hawaits happlied hlinks
        obtain ⟨hledgered, hended, hkept, hlinked⟩ := ih hafter hrest hsorted hawaits
          fun other hother hplaced hbehind => hmore _ (hskipped other hother hplaced hbehind)
        have hkept : ∀ n, account.fillsOf t n ≠ [] → account.fillsOf
            (settleTrades arith tradeHash intentType account cursor now after rest).tables n ≠ [] :=
          fun n hn => hkept n (hmore n hn)
        have hlinked : ∀ other, account.isLinked
            (settleTrades arith tradeHash intentType account cursor now after rest).tables other =
              account.isLinked t other := fun other => (hlinked other).trans (hlinks other)
        cases outcome with
        | unmatched => exact ⟨hledgered, hended, hkept, hlinked⟩
        | recorded opened => exact ⟨hledgered, hended, hkept, hlinked⟩

variable (arith tradeHash intentType) in
theorem settle_keeps {facts : List VenueTrade} (now : Instant)
    (hascending : history.Pairwise fun a b => a.tradeId < b.tradeId) (h : Ledgered account placed history t)
    (hmem : ∀ trade ∈ facts, trade ∈ history) (hawaits : Awaits account placed history t facts) :
    let pass := settle arith tradeHash intentType account t facts now
    Ledgered account placed history pass.tables ∧
      (pass.raised = none → Awaits account placed history pass.tables []) ∧
      (∀ n, account.fillsOf t n ≠ [] → account.fillsOf pass.tables n ≠ []) ∧
      ∀ other, account.isLinked pass.tables other = account.isLinked t other := by
  have hsame : ∀ trade, trade ∈ facts.insertionSort (fun a b => a.tradeId ≤ b.tradeId) ↔ trade ∈ facts :=
    fun trade => List.mem_insertionSort _
  refine settleTrades_keeps hascending h (fun trade htrade => hmem trade ((hsame trade).mp htrade))
    (List.pairwise_insertionSort _ facts) ?_
    fun trade htrade hplaced hbehind => h.behind trade htrade hplaced (cursor_reaches.mp hbehind)
  intro trade htrade hplaced hunrecorded
  simp only [hsame]
  exact hawaits trade htrade hplaced hunrecorded

end Pass

/-! ### Runs of passes -/

/-- `due` are the trades of placed orders that were linked when a pass came to its end. -/
structure LiveWorld where
  tables : Tables
  history : List VenueTrade
  due : List VenueTrade

inductive LiveEvent
  | trade (trade : VenueTrade)
  | elsewhere (tables : Tables)
  | pass (facts : List VenueTrade) (now : Instant)

section Runs

variable (arith : Arithmetic) (tradeHash : BinanceUsdmTradeFact → Digest)
  (intentType : Ledger.PersistedOrder → Option IntentType) (account : SettlementAccount) (placed : Nat → Bool)

def liveStep (w : LiveWorld) : LiveEvent → LiveWorld
  | .trade trade => { w with history := w.history ++ [trade] }
  | .elsewhere tables => { w with tables := tables }
  | .pass facts now =>
    let pass := settle arith tradeHash intentType account w.tables facts now
    let dueNow := w.history.filter fun trade => placed trade.orderId && account.isLinked w.tables trade
    ⟨pass.tables, w.history, if pass.raised.isNone then w.due ++ dueNow else w.due⟩

/-- The venue numbers the trades of a symbol in ascending order and answers with some of them; the
other transactions write no fills of the account, and take no link away. -/
def Surrounding (w : LiveWorld) : LiveEvent → Prop
  | .trade trade => ∀ old ∈ w.history, old.tradeId < trade.tradeId
  | .elsewhere tables => (∀ n, account.fillsOf tables n = account.fillsOf w.tables n) ∧
      account.sequences tables = account.sequences w.tables ∧
      ∀ trade, account.isLinked w.tables trade → account.isLinked tables trade
  | .pass facts _ => ∀ trade ∈ facts, trade ∈ w.history

/-- The condition on a pass: every trade of a placed order that is not recorded yet is linked and
answered, or is not linked and newer than every linked one that is answered. -/
def Orderly (w : LiveWorld) : LiveEvent → Prop
  | .pass facts _ => Awaits account placed w.history w.tables facts
  | _ => True

/-- Nothing happened yet. -/
structure Unsettled (w : LiveWorld) : Prop where
  history : w.history = []
  due : w.due = []
  sequences : account.sequences w.tables = []
  fills : ∀ n, account.fillsOf w.tables n = []

/-- Every trade of a placed order is recorded once by the first pass that ends after its link exists,
and the cursor is not past one that is unlinked. -/
structure NoLostFill (w : LiveWorld) : Prop where
  due : ∀ trade ∈ w.due, (account.fillsOf w.tables trade.tradeId).length = 1
  once : ∀ trade ∈ w.history, (account.fillsOf w.tables trade.tradeId).length ≤ 1
  cursor : ∀ trade ∈ w.history, placed trade.orderId → account.isLinked w.tables trade = false →
    (account.cursor w.tables).any (trade.tradeId ≤ ·) = false

/-- What a run keeps. -/
structure LiveKept (w : LiveWorld) : Prop where
  ascending : w.history.Pairwise fun a b => a.tradeId < b.tradeId
  ledgered : Ledgered account placed w.history w.tables
  due : ∀ trade ∈ w.due, account.fillsOf w.tables trade.tradeId ≠ []

variable {arith tradeHash intentType account placed} {w : LiveWorld}

theorem LiveKept.noLostFill (h : LiveKept account placed w) : NoLostFill account placed w := by
  refine ⟨fun trade hdue => ?_, fun trade _ => h.ledgered.once _, fun trade hmem hplaced hunlinked => ?_⟩
  · have hsome := List.length_pos_iff.mpr (h.due trade hdue)
    have hone := h.ledgered.once trade.tradeId
    omega
  · rw [Bool.eq_false_iff]
    intro hreached
    have hrecorded := h.ledgered.behind trade hmem hplaced (cursor_reaches.mp hreached)
    have hlinked := h.ledgered.linked trade hmem hplaced hrecorded
    rw [hunlinked] at hlinked
    cases hlinked

theorem LiveKept.start (h : Unsettled account w) : LiveKept account placed w := by
  obtain ⟨hhistory, hdue, hsequences, hfills⟩ := h
  refine ⟨by rw [hhistory]; exact List.Pairwise.nil, ⟨fun n => ?_, ?_, ?_, fun n hn => ?_⟩, ?_⟩
  · rw [hfills]
    exact Nat.zero_le _
  · rw [hhistory]
    exact fun trade hmem => absurd hmem List.not_mem_nil
  · rw [hhistory]
    exact fun trade hmem => absurd hmem List.not_mem_nil
  · rw [hsequences, hfills] at hn
    rcases hn with hn | hn
    · exact absurd hn List.not_mem_nil
    · exact absurd rfl hn
  · rw [hdue]
    exact fun trade hmem => absurd hmem List.not_mem_nil

theorem LiveKept.step {event : LiveEvent} (h : LiveKept account placed w) (hsurrounding : Surrounding account w event)
    (horderly : Orderly account placed w event) :
    LiveKept account placed (liveStep arith tradeHash intentType account placed w event) := by
  obtain ⟨hascending, hledgered, hdue⟩ := h
  cases event with
  | trade trade =>
    have hnew : account.fillsOf w.tables trade.tradeId = [] := by
      by_contra hsome
      obtain ⟨old, hold, heq⟩ := hledgered.known trade.tradeId (.inr hsome)
      exact absurd (hsurrounding old hold) (by omega)
    refine ⟨?_, ⟨hledgered.once, ?_, ?_, fun n hn => ?_⟩, hdue⟩
    · refine List.pairwise_append.mpr ⟨hascending, List.pairwise_singleton _ _, fun old hold fresh hfresh => ?_⟩
      rw [List.mem_singleton.mp hfresh]
      exact hsurrounding old hold
    · rintro other hother hplaced ⟨m, hm, hle⟩
      rcases List.mem_append.mp hother with hold | hfresh
      · exact hledgered.behind other hold hplaced ⟨m, hm, hle⟩
      · rw [List.mem_singleton.mp hfresh] at hle
        obtain ⟨old, hold, heq⟩ := hledgered.known m (.inl hm)
        exact absurd (hsurrounding old hold) (by omega)
    · intro other hother hplaced hsome
      rcases List.mem_append.mp hother with hold | hfresh
      · exact hledgered.linked other hold hplaced hsome
      · rw [List.mem_singleton.mp hfresh] at hsome
        exact absurd hnew hsome
    · obtain ⟨old, hold, heq⟩ := hledgered.known n hn
      exact ⟨old, List.mem_append_left _ hold, heq⟩
  | elsewhere tables =>
    obtain ⟨hfills, hsequences, hlinks⟩ := hsurrounding
    refine ⟨hascending, ⟨fun n => ?_, ?_, ?_, fun n => ?_⟩, fun trade htrade => ?_⟩
    · rw [liveStep, hfills]
      exact hledgered.once n
    · intro other
      rw [liveStep, hsequences, hfills]
      exact hledgered.behind other
    · intro other hother hplaced hsome
      rw [liveStep, hfills] at hsome
      exact hlinks other (hledgered.linked other hother hplaced hsome)
    · rw [liveStep, hsequences, hfills]
      exact hledgered.known n
    · rw [liveStep, hfills]
      exact hdue trade htrade
  | pass facts now =>
    obtain ⟨hafter, hended, hkept, hlinked⟩ :=
      settle_keeps arith tradeHash intentType now hascending hledgered hsurrounding horderly
    refine ⟨hascending, hafter, fun trade htrade => ?_⟩
    dsimp only [liveStep] at htrade ⊢
    split at htrade
    · rename_i hnone
      rcases List.mem_append.mp htrade with hold | hnow
      · exact hkept _ (hdue trade hold)
      · intro hunrecorded
        obtain ⟨hmem, hnow⟩ := List.mem_filter.mp hnow
        rw [Bool.and_eq_true] at hnow
        rcases hended (Option.isNone_iff_eq_none.mp hnone) trade hmem hnow.1 hunrecorded with ⟨-, hin⟩ | ⟨hunlinked, -⟩
        · exact absurd hin List.not_mem_nil
        · rw [hlinked, hnow.2] at hunlinked
          cases hunlinked
    · exact hkept _ (hdue trade htrade)

/-- In every run whose passes meet the condition no fill is lost. -/
theorem no_lost_live_fill {events : List LiveEvent} (hstart : Unsettled account w)
    (hrun : RunMeets (liveStep arith tradeHash intentType account placed)
      (fun w event => Surrounding account w event ∧ Orderly account placed w event) w events) :
    NoLostFill account placed (runFrom (liveStep arith tradeHash intentType account placed) w events) := by
  have hkept : LiveKept account placed (runFrom (liveStep arith tradeHash intentType account placed) w events) :=
    run_invariant (fun _ _ hw hevent => hw.step hevent.1 hevent.2) (LiveKept.start hstart) hrun
  exact hkept.noLostFill

/-! ### Two orders -/

private def liveAccount : SettlementAccount := ⟨rowUuid 2, rowUuid 1, "USD"⟩

private def liveTrade (tradeId : Nat) : VenueTrade :=
  { tradeId := tradeId, symbol := "BTCUSDT", side := "BUY", quantity := 1, price := 1, commission := 0
    commissionAsset := "USDT", occurredAt := 10, orderId := 500 + tradeId }

/-- The link of the order that the trade of the number filled. -/
private def liveLink (tradeId : Nat) : BrokerOrderLink :=
  { sampleLink (rowUuid 3) "ACKNOWLEDGED" with brokerOrderId := binanceProviderOrderId (500 + tradeId) }

private def liveTables (links : List BrokerOrderLink) : Tables := sampleTables [Ledger.sampleOrder .buy 3] links

private abbrev sampleStep : LiveWorld → LiveEvent → LiveWorld :=
  liveStep .exact (fun _ => 0) (fun _ => some .entry) liveAccount fun _ => true

/-- An order is filled, its link is written, and a pass follows. -/
theorem no_lost_live_fill_one :
    let w := runFrom sampleStep ⟨liveTables [], [], []⟩
      [.trade (liveTrade 1), .elsewhere (liveTables [liveLink 1]), .pass [liveTrade 1] 20]
    NoLostFill liveAccount (fun _ => true) w ∧ w.due.map (·.tradeId) = [1] := by
  intro w
  refine ⟨no_lost_live_fill ⟨rfl, rfl, rfl, fun _ => rfl⟩ ⟨⟨?_, trivial⟩, ⟨⟨fun _ => rfl, rfl, fun trade h => ?_⟩, trivial⟩,
    ⟨fun trade h => h, fun trade h _ _ => .inl ⟨?_, h⟩⟩, trivial⟩, by decide +kernel⟩
  · exact fun old hold => absurd hold List.not_mem_nil
  · exact isLinked_addLink (liveLink 1) h
  · rw [List.mem_singleton.mp h]
    decide +kernel

/-- The link of a later trade's order is there and that of an earlier one's is not: the pass moves the
cursor past the earlier trade, and it is skipped when its link was written. -/
theorem no_lost_live_fill_fails :
    ¬∀ (w : LiveWorld) (events : List LiveEvent), Unsettled liveAccount w →
      RunMeets sampleStep (Surrounding liveAccount) w events →
      NoLostFill liveAccount (fun _ => true) (runFrom sampleStep w events) := by
  intro h
  let before : LiveWorld := ⟨liveTables [liveLink 2], [], []⟩
  let trades : List LiveEvent := [.trade (liveTrade 1), .trade (liveTrade 2), .pass [liveTrade 1, liveTrade 2] 20]
  let passed : LiveWorld := runFrom sampleStep before trades
  let linked : Tables := { passed.tables with links := passed.tables.links ++ [liveLink 1] }
  have hmeets : RunMeets sampleStep (Surrounding liveAccount) before
      (trades ++ [.elsewhere linked, .pass [liveTrade 1, liveTrade 2] 30]) := by
    refine RunMeets.append ⟨?_, ?_, fun trade htrade => htrade, trivial⟩
      ⟨⟨fun _ => rfl, rfl, fun trade htrade => isLinked_addLink (liveLink 1) htrade⟩, fun trade htrade => htrade, trivial⟩
    · exact fun old hold => absurd hold List.not_mem_nil
    · intro old hold
      rw [List.mem_singleton.mp hold]
      decide
  have hone := (h before _ ⟨rfl, rfl, rfl, fun _ => rfl⟩ hmeets).due
  have hlost : ((runFrom sampleStep before (trades ++ [.elsewhere linked, .pass [liveTrade 1, liveTrade 2] 30])).due.all
      fun trade => ((liveAccount.fillsOf (runFrom sampleStep before
        (trades ++ [.elsewhere linked, .pass [liveTrade 1, liveTrade 2] 30])).tables trade.tradeId).length = 1)) = false := by
    decide +kernel
  exact absurd (List.all_eq_true.mpr fun trade hdue => decide_eq_true (hone trade hdue)) (Bool.eq_false_iff.mp hlost)

end Runs

end AutoTrader.Trader
