import AutoTrader.Ledger.PositionMoves
import AutoTrader.Ledger.PositionRuns
import Mathlib.Algebra.BigOperators.Ring.List

/-! The average cost of a position over whole runs, in exact arithmetic: the mean price of the
fills that increased it, each with the part of it that is still held. -/

namespace AutoTrader.Ledger

open AutoTrader.Domain AutoTrader.Execution AutoTrader.Runtime

/-- A price, and what is still held of what was dealt at it. -/
structure Stake where
  price : ℚ
  quantity : ℚ

namespace Stake

def weight (stakes : List Stake) : ℚ := (stakes.map Stake.quantity).sum

def paid (stakes : List Stake) : ℚ := (stakes.map fun stake => stake.price * stake.quantity).sum

def scale (ratio : ℚ) (stakes : List Stake) : List Stake :=
  stakes.map fun stake => { stake with quantity := stake.quantity * ratio }

/-- The mean price, zero without a stake. -/
def mean (stakes : List Stake) : ℚ := paid stakes / weight stakes

theorem weight_append (stakes : List Stake) (stake : Stake) : weight (stakes ++ [stake]) = weight stakes + stake.quantity := by
  simp [weight]

theorem paid_append (stakes : List Stake) (stake : Stake) :
    paid (stakes ++ [stake]) = paid stakes + stake.price * stake.quantity := by
  simp [paid]

theorem weight_scale (ratio : ℚ) (stakes : List Stake) : weight (scale ratio stakes) = weight stakes * ratio := by
  unfold weight scale
  rw [List.map_map, ← List.sum_map_mul_right]
  rfl

theorem paid_scale (ratio : ℚ) (stakes : List Stake) : paid (scale ratio stakes) = paid stakes * ratio := by
  unfold paid scale
  rw [List.map_map, ← List.sum_map_mul_right]
  exact congrArg List.sum (List.map_congr_left fun stake _ => (mul_assoc _ _ _).symm)

/-- The mean stays what it was when every stake keeps the same share. -/
theorem mean_scale {ratio : ℚ} (hratio : ratio ≠ 0) (stakes : List Stake) : mean (scale ratio stakes) = mean stakes := by
  unfold mean
  rw [weight_scale, paid_scale, mul_div_mul_right _ _ hratio]

theorem mean_single (price : ℚ) {quantity : ℚ} (hquantity : quantity ≠ 0) : mean [⟨price, quantity⟩] = price := by
  simp [mean, paid, weight, hquantity]

end Stake

/-- A signed quantity, the stakes that make it up, and whether a sale added to it while it was
short. -/
structure Holding where
  held : ℚ
  stakes : List Stake
  addedShort : Bool

namespace Holding

def flat : Holding := ⟨0, [], false⟩

/-- A fill that increases the quantity adds its stake, one that opens it or takes it through zero
leaves its remainder as the only stake, and one that reduces it leaves `kept ratio` of each. -/
def take (kept : ℚ → ℚ) (h : Holding) (side : Side) (price quantity : ℚ) : Holding :=
  let next := exactNext h.held side quantity
  if next = 0 then flat
  else if h.held * next ≤ 0 then ⟨next, [⟨price, |next|⟩], false⟩
  else if |h.held| < |next| then ⟨next, h.stakes ++ [⟨price, quantity⟩], h.addedShort || decide (h.held < 0)⟩
  else ⟨next, Stake.scale (kept (|next| / |h.held|)) h.stakes, h.addedShort⟩

/-- What a list of fills leaves. -/
def after (kept : ℚ → ℚ) (fills : List PersistedFill) : Holding :=
  fills.foldl (fun h fill => h.take kept fill.side fill.price fill.quantity) flat

/-- The stakes make up the size of the quantity. -/
def Backed (h : Holding) : Prop := Stake.weight h.stakes = |h.held|

variable {h : Holding} {side : Side} {price quantity : ℚ}

theorem take_held (kept : ℚ → ℚ) : (h.take kept side price quantity).held = exactNext h.held side quantity := by
  unfold take
  dsimp only
  split_ifs with hzero
  · exact hzero.symm
  · rfl
  · rfl
  · rfl

theorem after_append (kept : ℚ → ℚ) (fills : List PersistedFill) (fill : PersistedFill) :
    after kept (fills ++ [fill]) = (after kept fills).take kept fill.side fill.price fill.quantity :=
  List.foldl_concat ..

/-- Nothing is left to count when nothing is held. -/
theorem after_flat {kept : ℚ → ℚ} {fills : List PersistedFill} (h : (after kept fills).held = 0) :
    after kept fills = flat := by
  induction fills using List.reverseRecOn with
  | nil => rfl
  | append_singleton fills fill _ =>
    rw [after_append] at h ⊢
    rw [take_held] at h
    exact if_pos h

/-- On one side of zero, what makes a quantity larger is what was dealt. -/
theorem grown {held : ℚ} (hsame : 0 < held * exactNext held side quantity)
    (hgrows : |held| < |exactNext held side quantity|) (hquantity : 0 < quantity) :
    |exactNext held side quantity| = |held| + quantity := by
  rcases pos_and_pos_or_neg_and_neg_of_mul_pos hsame with ⟨hheld, hnext⟩ | ⟨hheld, hnext⟩
  · rw [abs_of_pos hheld, abs_of_pos hnext] at hgrows ⊢
    cases side with
    | buy => rfl
    | sell => exact absurd hgrows (not_lt.mpr (sub_le_self _ hquantity.le))
  · rw [abs_of_neg hheld, abs_of_neg hnext] at hgrows ⊢
    cases side with
    | buy =>
      unfold exactNext at hgrows
      linarith
    | sell =>
      unfold exactNext
      ring

theorem Backed.take (hbacked : h.Backed) (hquantity : 0 < quantity) : (h.take id side price quantity).Backed := by
  unfold Holding.take Backed at *
  dsimp only [id]
  split_ifs with hzero hcross hgrows
  · exact abs_zero.symm
  · exact add_zero _
  · rw [Stake.weight_append, hbacked]
    exact (grown (not_le.mp hcross) hgrows hquantity).symm
  · have hheld : |h.held| ≠ 0 := abs_ne_zero.mpr (left_ne_zero_of_mul (not_le.mp hcross).ne')
    rw [Stake.weight_scale, hbacked, mul_div_cancel₀ _ hheld]

end Holding

/-! ### One fill -/

section Fill

variable {p : Position} {event : BrokerExecutionEvent} {h : Holding}

theorem fill_exact (p : Position) (event : BrokerExecutionEvent) :
    (p.fill .exact event).averageCost =
      if event.side = .buy ∧ 0 ≤ p.quantity then
        (p.averageCost * p.quantity + event.price * event.quantity) / exactNext p.quantity event.side event.quantity
      else if exactNext p.quantity event.side event.quantity = 0 then 0
      else if p.quantity = 0 ∨ p.quantity * exactNext p.quantity event.side event.quantity < 0 then event.price
      else p.averageCost := by
  unfold Position.fill
  dsimp only
  rw [nextQuantity_exact Carries.exact trivial trivial]
  rfl

/-- The average cost stays the mean of the stakes as long as no sale adds to a short position. -/
theorem fill_mean (hheld : p.quantity = h.held) (hbacked : h.Backed)
    (hcost : h.addedShort = false → p.averageCost = Stake.mean h.stakes)
    (hadded : (h.take id event.side event.price event.quantity).addedShort = false) :
    (p.fill .exact event).averageCost = Stake.mean (h.take id event.side event.price event.quantity).stakes := by
  have hquantity : 0 < event.quantity := event.terms.1
  rw [fill_exact, hheld]
  unfold Holding.take at hadded ⊢
  dsimp only [id] at hadded ⊢
  by_cases hzero : exactNext h.held event.side event.quantity = 0
  · have hbuy : ¬(event.side = .buy ∧ 0 ≤ h.held) := by
      rintro ⟨hside, hlong⟩
      rw [hside] at hzero
      exact (add_pos_of_nonneg_of_pos hlong hquantity).ne' hzero
    rw [if_neg hbuy, if_pos hzero, if_pos hzero]
    exact (zero_div _).symm
  rw [if_neg hzero] at hadded ⊢
  rw [if_neg hzero]
  by_cases hcross : h.held * exactNext h.held event.side event.quantity ≤ 0
  · rw [if_pos hcross, Stake.mean_single _ (abs_ne_zero.mpr hzero)]
    by_cases hbuy : event.side = .buy ∧ 0 ≤ h.held
    · rw [if_pos hbuy]
      have hnone : h.held = 0 := by
        refine le_antisymm (not_lt.mp fun hlong => ?_) hbuy.2
        rw [hbuy.1] at hcross
        exact absurd (mul_pos hlong (add_pos hlong hquantity)) (not_lt.mpr hcross)
      rw [hbuy.1, hnone]
      unfold exactNext
      rw [mul_zero, zero_add, zero_add, mul_div_cancel_right₀ _ hquantity.ne']
    · rw [if_neg hbuy, if_pos]
      rcases hcross.lt_or_eq with hlt | heq
      · exact .inr hlt
      · exact .inl ((mul_eq_zero.mp heq).resolve_right hzero)
  have hsame := not_le.mp hcross
  have hopen : h.held ≠ 0 := left_ne_zero_of_mul hsame.ne'
  rw [if_neg hcross] at hadded ⊢
  have hkeeps : ¬(h.held = 0 ∨ h.held * exactNext h.held event.side event.quantity < 0) :=
    not_or.mpr ⟨hopen, not_lt.mpr hsame.le⟩
  by_cases hgrows : |h.held| < |exactNext h.held event.side event.quantity|
  · rw [if_pos hgrows] at hadded ⊢
    obtain ⟨hclean, hlong⟩ := Bool.or_eq_false_iff.mp hadded
    have hlong : 0 < h.held := (not_lt.mp (of_decide_eq_false hlong)).lt_of_ne' hopen
    have hbuy : event.side = .buy := by
      cases hside : event.side with
      | buy => rfl
      | sell =>
        have hlarger := Holding.grown hsame hgrows hquantity
        rw [hside] at hlarger hsame
        rw [abs_of_pos hlong, abs_of_pos ((pos_iff_pos_of_mul_pos hsame).mp hlong)] at hlarger
        unfold exactNext at hlarger
        linarith
    have hweight : Stake.weight h.stakes = h.held := hbacked.trans (abs_of_pos hlong)
    rw [if_pos ⟨hbuy, hlong.le⟩, hcost hclean, hbuy]
    unfold Stake.mean
    rw [Stake.weight_append, Stake.paid_append, hweight, div_mul_cancel₀ _ hopen]
    rfl
  · rw [if_neg hgrows] at hadded ⊢
    have hbuy : ¬(event.side = .buy ∧ 0 ≤ h.held) := by
      rintro ⟨hside, hlong⟩
      refine hgrows ?_
      rw [hside]
      have hnext : 0 < exactNext h.held .buy event.quantity := add_pos_of_nonneg_of_pos hlong hquantity
      rw [abs_of_nonneg hlong, abs_of_pos hnext]
      exact lt_add_of_pos_right _ hquantity
    have hratio : |exactNext h.held event.side event.quantity| / |h.held| ≠ 0 :=
      div_ne_zero (abs_ne_zero.mpr hzero) (abs_ne_zero.mpr hopen)
    rw [if_neg hbuy, if_neg hkeeps, hcost hadded, Stake.mean_scale hratio]

end Fill

/-! ### Runs -/

/-- The fills of an account in an instrument, in the order they were recorded. -/
def Tables.fillsIn (t : Tables) (accountId instrumentId : UUID) : List PersistedFill :=
  t.fills.filter fun fill => fill.accountId = accountId && fill.instrumentId = instrumentId

/-- The average cost; nothing is held without a row. -/
def Book.cost (b : Book) (accountId instrumentId : UUID) : ℚ :=
  ((b.position? accountId instrumentId).map Position.averageCost).getD 0

/-- A quantity and an average cost that are those of fills. -/
structure CostOf (fills : List PersistedFill) (held cost : ℚ) : Prop where
  held : held = (Holding.after id fills).held
  backed : (Holding.after id fills).Backed
  cost : (Holding.after id fills).addedShort = false → cost = Stake.mean (Holding.after id fills).stakes

/-- Quantity and cost of every position are those of the fills recorded for it. -/
structure CostTracked (t : Tables) : Prop where
  sound : t.book.Sound fun _ => True
  position : ∀ accountId instrumentId, CostOf (t.fillsIn accountId instrumentId) (t.book.held accountId instrumentId)
    (t.book.cost accountId instrumentId)

theorem positionFor_terms (b : Book) (event : BrokerExecutionEvent) :
    (positionFor b event).1.quantity = b.held event.accountId event.instrumentId ∧
      (positionFor b event).1.averageCost = b.cost event.accountId event.instrumentId := by
  unfold positionFor Book.held Book.cost
  cases b.position? event.accountId event.instrumentId with
  | none => exact ⟨rfl, rfl⟩
  | some p =>
    dsimp only
    split
    · exact ⟨rfl, rfl⟩
    · exact ⟨rfl, rfl⟩

theorem CostTracked.congr {t after : Tables} (h : CostTracked t) (hbook : after.book = t.book)
    (hfills : after.fills = t.fills) : CostTracked after := by
  refine ⟨hbook ▸ h.sound, fun accountId instrumentId => ?_⟩
  unfold Tables.fillsIn
  rw [hbook, hfills]
  exact h.position accountId instrumentId

section Step

variable {hashes : AdoptionHashes} {t after : Tables} {event : BrokerExecutionEvent}

theorem CostTracked.applied {anchors : RiskBudgetAnchor × RiskBudgetAnchor} {order : PersistedOrder} {stored : ℚ}
    (h : CostTracked t) (happlied : Applied .exact t after anchors order stored event) : CostTracked after := by
  have hbook := happlied.book
  obtain ⟨⟨p, hp, -, hquantity, hstored⟩, hothers⟩ :=
    applyToPosition_writes Carries.exact h.sound.draw trivial trivial hbook
  refine ⟨applyToPosition_sound Carries.exact h.sound.draw trivial trivial hbook, fun accountId instrumentId => ?_⟩
  by_cases hkey : accountId = event.accountId ∧ instrumentId = event.instrumentId
  · obtain ⟨rfl, rfl⟩ := hkey
    have hfills : after.fillsIn event.accountId event.instrumentId =
        t.fillsIn event.accountId event.instrumentId ++ [fillRow .exact t.book.drawn event] := by
      unfold Tables.fillsIn
      rw [happlied.fills, List.filter_append, List.filter_cons_of_pos, List.filter_nil]
      simp [fillRow]
    obtain ⟨hheld, hbacked, hcost⟩ := h.position event.accountId event.instrumentId
    obtain ⟨hread, hpaid⟩ := positionFor_terms { t.book with drawn := t.book.drawn + 1 } event
    rw [hfills]
    constructor
    · rw [Holding.after_append, Holding.take_held]
      unfold Book.held
      rw [hp]
      show p.quantity = _
      rw [hquantity, ← hheld]
      rfl
    · rw [Holding.after_append]
      exact hbacked.take event.terms.1
    · rw [Holding.after_append]
      intro hadded
      unfold Book.cost
      rw [hp]
      show p.averageCost = _
      rw [← Except.ok.inj hstored]
      exact fill_mean (hread.trans hheld) hbacked (fun hclean => hpaid.trans (hcost hclean)) hadded
  · have hfills : after.fillsIn accountId instrumentId = t.fillsIn accountId instrumentId := by
      unfold Tables.fillsIn
      rw [happlied.fills, List.filter_append, List.filter_cons_of_neg, List.filter_nil, List.append_nil]
      simp only [fillRow, Bool.and_eq_true]
      exact fun hrow => hkey ⟨(of_decide_eq_true hrow.1).symm, (of_decide_eq_true hrow.2).symm⟩
    have hread : after.book.position? accountId instrumentId = t.book.position? accountId instrumentId :=
      hothers accountId instrumentId hkey
    unfold Book.held Book.cost
    rw [hfills, hread]
    exact h.position accountId instrumentId

theorem CostTracked.step (h : CostTracked t) (event : LedgerEvent) : CostTracked (step .exact hashes t event) := by
  refine step_keeps h fun after hafter => ?_
  by_cases hfill : ∃ fill, event = .fill fill
  · obtain ⟨fill, rfl⟩ := hfill
    obtain ⟨⟨after, result⟩, happly, rfl⟩ := map_ok hafter
    rcases applyEventOnce_ok happly with ⟨-, existing, -, rfl | rfl⟩ | ⟨-, anchors, order, stored, happlied⟩
    · exact h
    · exact h.congr rfl rfl
    · exact h.applied happlied
  · obtain ⟨hfills, hbook⟩ := perform_fills_book (fun fill heq => hfill ⟨fill, heq⟩) hafter
    exact h.congr hbook hfills

end Step

theorem CostTracked.start {t : Tables} (hnothing : NothingHeld t.book) (hfills : t.fills = []) : CostTracked t := by
  refine ⟨hnothing.sound, fun accountId instrumentId => ?_⟩
  have hnone : t.fillsIn accountId instrumentId = [] := by
    unfold Tables.fillsIn
    rw [hfills]
    rfl
  have hrow : t.book.position? accountId instrumentId = none := by
    unfold Book.position?
    rw [hnothing.1]
    rfl
  unfold Book.held Book.cost
  rw [hnone, hrow]
  exact ⟨rfl, abs_zero.symm, fun _ => (zero_div _).symm⟩

/-- From a ledger without fills, in any order of transactions. While no sale added to a position
since it went short, its average cost is the mean price of the fills that increased it since it was
flat or crossed zero, weighed with what is still held of each when a reduction takes the same share
of all of them. -/
theorem averageCost_run (hashes : AdoptionHashes) (t : Tables) (hnothing : NothingHeld t.book) (hfills : t.fills = [])
    (events : List LedgerEvent) (accountId instrumentId : UUID) :
    let after := runFrom (step .exact hashes) t events
    let holding := Holding.after id (after.fillsIn accountId instrumentId)
    after.book.held accountId instrumentId = holding.held ∧ Stake.weight holding.stakes = |holding.held| ∧
      (holding.addedShort = false → after.book.cost accountId instrumentId = Stake.mean holding.stakes) ∧
      (after.book.held accountId instrumentId = 0 → after.book.cost accountId instrumentId = 0) := by
  intro after holding
  have htracked : CostTracked after :=
    List.foldlRecOn events _ (CostTracked.start hnothing hfills) fun _ h event _ => h.step event
  obtain ⟨hheld, hbacked, hcost⟩ := htracked.position accountId instrumentId
  refine ⟨hheld, hbacked, hcost, fun hflat => ?_⟩
  have hnone : holding = Holding.flat := Holding.after_flat (hheld.symm.trans hflat)
  refine (hcost (congrArg Holding.addedShort hnone)).trans ?_
  show Stake.mean holding.stakes = 0
  rw [hnone]
  exact zero_div _

/-- A buying and a selling order of the sample account. -/
private def ordersBothWays : Tables :=
  sampleTables
    [sampleOrder .buy 10,
      { sampleOrder .sell 10 with
        id := rowUuid 13, orderIntentId := rowUuid 16, brokerClientOrderId := "client-2" }]
    [sampleLink (rowUuid 3) "ACKNOWLEDGED",
      { sampleLink (rowUuid 13) "ACKNOWLEDGED" with id := rowUuid 17, brokerOrderId := "B2" }]

private def boughtAt (executionId : String) (quantity price : ℚ) (hquantity : 0 < quantity) (hprice : 0 < price) :
    LedgerEvent :=
  .fill { sampleFill (rowUuid 3) executionId .buy quantity hquantity with price := price, terms := ⟨hquantity, hprice⟩ }

private def soldAt (executionId : String) (quantity price : ℚ) (hquantity : 0 < quantity) (hprice : 0 < price) :
    LedgerEvent :=
  .fill { sampleFill (rowUuid 13) executionId .sell quantity hquantity with
    brokerOrderId := "B2", price := price, terms := ⟨hquantity, hprice⟩ }

theorem rat_one_pos : (0 : ℚ) < 1 := one_pos

theorem rat_two_pos : (0 : ℚ) < 2 := by norm_num

/-- Half of what was bought is sold before more is bought. -/
private def boughtSoldBought : List LedgerEvent :=
  [boughtAt "1" 2 1 rat_two_pos rat_one_pos, soldAt "2" 1 1 rat_one_pos rat_one_pos, boughtAt "3" 1 3 rat_one_pos rat_three_pos]

theorem averageCost_run_half_sold :
    (runFrom (step .exact noHashes) ordersBothWays boughtSoldBought).book.cost (rowUuid 2) (rowUuid 4) = 2 := by
  have hrun := (averageCost_run noHashes ordersBothWays ⟨rfl, rfl, rfl⟩ rfl boughtSoldBought (rowUuid 2) (rowUuid 4)).2.2.1
    (by decide +kernel)
  exact hrun.trans (by decide +kernel)

/-- The mean of whole fills is missed once a part of them was sold, and a sale that adds to a short
position leaves the cost where it was. -/
theorem averageCost_not_literal :
    ¬ (∀ (hashes : AdoptionHashes) (t : Tables) (events : List LedgerEvent) (accountId instrumentId : UUID),
      NothingHeld t.book → t.fills = [] →
        let after := runFrom (step .exact hashes) t events
        after.book.cost accountId instrumentId =
          Stake.mean (Holding.after (fun _ => 1) (after.fillsIn accountId instrumentId)).stakes) ∧
    let shorted := runFrom (step .exact noHashes) ordersBothWays
      [soldAt "1" 1 1 rat_one_pos rat_one_pos, soldAt "2" 1 3 rat_one_pos rat_three_pos]
    shorted.book.cost (rowUuid 2) (rowUuid 4) = 1 ∧
      Stake.mean (Holding.after id (shorted.fillsIn (rowUuid 2) (rowUuid 4))).stakes = 2 := by
  constructor
  · intro h
    have hcost := h noHashes ordersBothWays boughtSoldBought (rowUuid 2) (rowUuid 4) ⟨rfl, rfl, rfl⟩ rfl
    have hmissed : (runFrom (step .exact noHashes) ordersBothWays boughtSoldBought).book.cost (rowUuid 2) (rowUuid 4) ≠
        Stake.mean (Holding.after (fun _ => 1)
          ((runFrom (step .exact noHashes) ordersBothWays boughtSoldBought).fillsIn (rowUuid 2) (rowUuid 4))).stakes := by
      decide +kernel
    exact hmissed hcost
  · decide +kernel

end AutoTrader.Ledger
