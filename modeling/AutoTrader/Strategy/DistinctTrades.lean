import AutoTrader.Runtime.DistinctKeys
import AutoTrader.Strategy.OrderFlow

/-! What is left of the trades that are supplied: each distinct one once, by time and then by name, whatever
the order and the copies they came in. -/

namespace AutoTrader.Strategy

open AutoTrader.Domain AutoTrader.Runtime

/-- One name is one trade. -/
def OneName (trades : List TradePrint) : Prop :=
  ∀ a ∈ trades, ∀ b ∈ trades, a.providerTradeId = b.providerTradeId → a = b

def tradeCollision : PyError := ⟨.valueError, "provider trade identity payload collision"⟩

/-- The dict of trades under their names. -/
def tradesById (trades : List TradePrint) : List (String × TradePrint) :=
  trades.map fun trade => (trade.providerTradeId, trade)

/-- Trades are collected under their names. -/
theorem collectTrade_eq : collectTrade = collectBy TradePrint.providerTradeId tradeCollision := by
  funext byId trade
  unfold collectTrade collectBy
  cases Dict.get? byId trade.providerTradeId <;> rfl

/-- While the names are one trade's each, the dict holds the distinct trades. -/
theorem collect_ok {trades : List TradePrint} (h : OneName trades) :
    ∃ distinct : List TradePrint, trades.foldlM collectTrade [] = .ok (tradesById distinct) ∧ distinct.Nodup ∧
      ∀ trade, trade ∈ distinct ↔ trade ∈ trades :=
  collectTrade_eq ▸ collectBy_ok h

/-- And a name of two trades is a collision. -/
theorem collect_collision {trades : List TradePrint} (h : ¬OneName trades) :
    trades.foldlM collectTrade [] = .error tradeCollision :=
  collectTrade_eq ▸ collectBy_collision h

/-! ### In order -/

instance : Std.Total TradePrint.Precedes where
  total a b := by
    rcases lt_trichotomy a.occurredAt b.occurredAt with h | h | h
    · exact .inl (.inl h)
    · exact (le_total a.providerTradeId b.providerTradeId).imp (fun hid => .inr ⟨h, hid⟩) fun hid => .inr ⟨h.symm, hid⟩
    · exact .inr (.inl h)

instance : IsTrans TradePrint TradePrint.Precedes where
  trans a b c := by
    rintro (hab | ⟨hab, hid⟩) (hbc | ⟨hbc, hid'⟩)
    · exact .inl (hab.trans hbc)
    · exact .inl (hbc ▸ hab)
    · exact .inl (hab ▸ hbc)
    · exact .inr ⟨hab.trans hbc, hid.trans hid'⟩

/-- Two trades before each other have one name. -/
theorem TradePrint.Precedes.antisymm {a b : TradePrint} (hab : a.Precedes b) (hba : b.Precedes a) :
    a.providerTradeId = b.providerTradeId := by
  rcases hab with hab | ⟨hab, hid⟩ <;> rcases hba with hba | ⟨hba, hid'⟩
  · exact absurd hab (not_lt.mpr hba.le)
  · exact absurd hab (not_lt.mpr hba.le)
  · exact absurd hba (not_lt.mpr hab.le)
  · exact le_antisymm hid hid'

theorem deduplicateTrades_eq {trades : List TradePrint} (h : OneName trades) :
    deduplicateTrades trades = .ok (trades.dedup.insertionSort TradePrint.Precedes) := by
  obtain ⟨distinct, hfold, hnodup, hmem⟩ := collect_ok h
  have hvalues : (tradesById distinct).map (·.2) = distinct := by
    rw [tradesById, List.map_map]
    exact List.map_id _
  have hperm : distinct.Perm trades.dedup := by
    rw [List.perm_ext_iff_of_nodup hnodup (List.nodup_dedup _)]
    intro trade
    rw [hmem, List.mem_dedup]
  unfold deduplicateTrades
  rw [hfold, ok_bind, hvalues]
  refine congrArg Except.ok (List.Perm.eq_of_pairwise ?_ (List.pairwise_insertionSort _ _) (List.pairwise_insertionSort _ _) ?_)
  · intro a b ha hb hab hba
    rw [List.mem_insertionSort, hmem] at ha
    rw [List.mem_insertionSort, List.mem_dedup] at hb
    exact h a ha b hb (hab.antisymm hba)
  · exact (List.perm_insertionSort _ _).trans (hperm.trans (List.perm_insertionSort _ _).symm)

theorem deduplicateTrades_collision {trades : List TradePrint} (h : ¬OneName trades) : deduplicateTrades trades = .error tradeCollision := by
  unfold deduplicateTrades
  rw [collect_collision h]
  rfl

/-- What a deduplication returns. -/
structure Distinct (trades result : List TradePrint) : Prop where
  ordered : result.Pairwise TradePrint.Precedes
  nodup : result.Nodup
  mem : ∀ trade, trade ∈ result ↔ trade ∈ trades

theorem deduplicateTrades_ok {trades result : List TradePrint} (h : deduplicateTrades trades = .ok result) :
    Distinct trades result := by
  by_cases hname : OneName trades
  · rw [deduplicateTrades_eq hname] at h
    cases h
    refine ⟨List.pairwise_insertionSort _ _, (List.perm_insertionSort _ _).nodup_iff.mpr (List.nodup_dedup _), fun trade => ?_⟩
    rw [List.mem_insertionSort, List.mem_dedup]
  · rw [deduplicateTrades_collision hname] at h
    cases h

/-- Neither the order nor the copies of the trades matter. -/
theorem deduplicateTrades_congr {trades trades' : List TradePrint} (h : ∀ trade, trade ∈ trades ↔ trade ∈ trades') :
    deduplicateTrades trades = deduplicateTrades trades' := by
  have hname : OneName trades ↔ OneName trades' := by
    unfold OneName
    simp only [h]
  by_cases hone : OneName trades
  · rw [deduplicateTrades_eq hone, deduplicateTrades_eq (hname.mp hone)]
    refine congrArg Except.ok (List.Perm.eq_of_pairwise ?_ (List.pairwise_insertionSort _ _) (List.pairwise_insertionSort _ _) ?_)
    · intro a b ha hb hab hba
      rw [List.mem_insertionSort, List.mem_dedup] at ha hb
      exact hone a ha b ((h b).mpr hb) (hab.antisymm hba)
    · refine (List.perm_insertionSort _ _).trans (List.Perm.trans ?_ (List.perm_insertionSort _ _).symm)
      rw [List.perm_ext_iff_of_nodup (List.nodup_dedup _) (List.nodup_dedup _)]
      intro trade
      rw [List.mem_dedup, List.mem_dedup, h]
  · rw [deduplicateTrades_collision hone, deduplicateTrades_collision fun h' => hone (hname.mpr h')]

end AutoTrader.Strategy
