import AutoTrader.Ledger.Anchors
import AutoTrader.Ledger.PositionRuns

/-! The position risk of the anchors. An execution adds what it opens and no writer ever takes
anything off, so the amount follows the positions as long as nothing is sold out of a long one. -/

namespace AutoTrader.Ledger

open AutoTrader.Dispatch AutoTrader.Domain AutoTrader.Execution AutoTrader.Numeric AutoTrader.Runtime

variable {arith : Arithmetic} {hashes : AdoptionHashes} {carried : ℚ → Prop}

/-- What an anchor should count for a lot: the price of the fill that opened it, times what is
left. -/
def RiskBudgetAnchor.exposure (anchor : RiskBudgetAnchor) (fills : List PersistedFill) (lot : PersistedPositionLot) :
    ℚ :=
  match Rows.lookup PersistedFill.id fills lot.openingFillId with
  | some fill => if anchor.charged fill.accountId fill.currency then fill.price * lot.remainingQuantity else 0
  | none => 0

/-- The exposure still held, at the prices it was opened at. -/
def heldRisk (t : Tables) (anchor : RiskBudgetAnchor) : ℚ :=
  (t.book.lots.map (anchor.exposure t.fills)).sum

/-- Position risk follows the positions. -/
structure PositionRiskLaw (t : Tables) (anchor : RiskBudgetAnchor) : Prop where
  flat : (∀ p ∈ t.book.positions, anchor.covers p.accountId → p.quantity = 0) → anchor.positionRiskAmount = 0
  bounded : anchor.positionRiskAmount ≤ heldRisk t anchor

theorem RiskBudgetAnchor.exposure_congr {a b : RiskBudgetAnchor} (h : a.key = b.key) (fills : List PersistedFill)
    (lot : PersistedPositionLot) : a.exposure fills lot = b.exposure fills lot := by
  unfold exposure
  split
  · rename_i fill _
    exact if_congr (charged_congr h fill.accountId fill.currency) rfl rfl
  · rfl

theorem heldRisk_congr {a b : RiskBudgetAnchor} (h : a.key = b.key) (t : Tables) : heldRisk t a = heldRisk t b := by
  have hexposure : a.exposure t.fills = b.exposure t.fills := funext (RiskBudgetAnchor.exposure_congr h t.fills)
  unfold heldRisk
  rw [hexposure]

/-! ### What an execution opens -/

/-- The position an execution finds or adds, under its account. -/
theorem positionFor_owner (b : Book) (event : BrokerExecutionEvent) :
    (∃ row ∈ (positionFor b event).2.positions, row.id = (positionFor b event).1.id ∧
      row.accountId = event.accountId) ∧
    (positionFor b event).1.accountId = event.accountId ∧
    (∀ p ∈ b.positions, p ∈ (positionFor b event).2.positions) ∧
    (positionFor b event).2.lots = b.lots ∧ b.drawn ≤ (positionFor b event).2.drawn := by
  unfold positionFor
  cases hfound : b.position? event.accountId event.instrumentId with
  | some p =>
    have hmem : p ∈ b.positions := List.mem_of_find?_eq_some hfound
    have hkey := List.find?_some hfound
    simp only [Bool.and_eq_true, decide_eq_true_eq] at hkey
    dsimp only
    split
    · exact ⟨⟨p, hmem, rfl, hkey.1⟩, hkey.1, fun _ h => h, rfl, le_rfl⟩
    · exact ⟨⟨p, hmem, rfl, hkey.1⟩, hkey.1, fun _ h => h, rfl, le_rfl⟩
  | none =>
    exact ⟨⟨_, List.mem_append_right _ List.mem_cons_self, rfl, rfl⟩, rfl, fun p hp => List.mem_append_left _ hp,
      rfl, Nat.le_succ _⟩

theorem writeTransition_eq (b : Book) (positionId fillId : RowId) (executedAt : Instant)
    (transition : PositionLifecycleTransition) :
    (writeTransition b positionId fillId executedAt transition).positions = b.positions ∧
      (writeTransition b positionId fillId executedAt transition).lots = b.lots ∧
      b.drawn ≤ (writeTransition b positionId fillId executedAt transition).drawn := by
  unfold writeTransition
  dsimp only
  split
  · exact ⟨rfl, rfl, Nat.le_succ _⟩
  · exact ⟨rfl, rfl, le_rfl⟩

/-- What an execution leaves that sells nothing out of a long position: one lot more of what
it opened, if it opened anything. -/
structure Opens (b after : Book) (fillId : RowId) (event : BrokerExecutionEvent) (opened : ℚ) : Prop where
  drawn : b.drawn ≤ after.drawn
  owners : ∀ p ∈ b.positions, ∃ row ∈ after.positions, row.id = p.id ∧ row.accountId = p.accountId
  lots : (after.lots = b.lots ∧ opened = 0) ∨
    ∃ lot, after.lots = b.lots ++ [lot] ∧ lot.openingFillId = fillId ∧ lot.remainingQuantity = opened ∧
      ∃ row ∈ after.positions, row.id = lot.positionId ∧ row.accountId = event.accountId

/-- The lot of an execution, when its quantity is not rounded. -/
theorem openLot_lots (hc : Carries arith carried) {b after : Book} {positionId fillId : RowId} {quantity : ℚ}
    {openedAt : Instant} (hquantity : 0 < quantity → carried quantity) (hnonneg : 0 ≤ quantity)
    (h : openLot arith b positionId fillId quantity openedAt = .ok after) :
    after.positions = b.positions ∧ b.drawn ≤ after.drawn ∧
      ((after.lots = b.lots ∧ quantity = 0) ∨
        ∃ lot, after.lots = b.lots ++ [lot] ∧ lot.openingFillId = fillId ∧ lot.remainingQuantity = quantity ∧
          lot.positionId = positionId) := by
  unfold openLot at h
  split at h
  · rename_i hpos
    obtain ⟨stored, hstored, h⟩ := bind_ok.mp h
    rw [hc.store _ (hquantity hpos)] at hstored
    rw [← Except.ok.inj hstored, if_neg (not_le.mpr hpos)] at h
    rw [← Except.ok.inj h]
    exact ⟨rfl, Nat.le_succ _, .inr ⟨_, rfl, rfl, rfl, rfl⟩⟩
  · rename_i hzero
    rw [← Except.ok.inj h]
    exact ⟨rfl, le_rfl, .inl ⟨rfl, le_antisymm (not_lt.mp hzero) hnonneg⟩⟩

/-- A written position keeps the accounts of the rows, when ids are used once. -/
theorem writePosition_owners {positions written : List Position} {p row : Position}
    (hids : (positions.map Position.id).Nodup) (hrow : row ∈ positions) (hid : row.id = p.id)
    (haccount : row.accountId = p.accountId) (h : writePosition arith positions p = .ok written) :
    ∀ old ∈ positions, ∃ new ∈ written, new.id = old.id ∧ new.accountId = old.accountId := by
  obtain ⟨quantity, -, h⟩ := bind_ok.mp h
  obtain ⟨averageCost, -, h⟩ := bind_ok.mp h
  rw [← Except.ok.inj h]
  intro old hold
  refine ⟨_, Rows.mem_update.mpr ⟨old, hold, rfl⟩, ?_⟩
  by_cases heq : old.id = p.id
  · have hsame : old = row := List.inj_on_of_nodup_map hids hold hrow (heq.trans hid.symm)
    rw [if_pos heq, hsame]
    exact ⟨hid.symm, haccount.symm⟩
  · rw [if_neg heq]
    exact ⟨rfl, rfl⟩

theorem applyToPosition_opens (hc : Carries arith carried) {b after : Book} {fillId : RowId}
    {event : BrokerExecutionEvent} (hs : b.Sound carried) (hquantity : carried event.quantity)
    (hnext : carried (exactNext (b.held event.accountId event.instrumentId) event.side event.quantity))
    (hopens : ¬(event.side = .sell ∧ 0 < b.held event.accountId event.instrumentId))
    (h : applyToPosition arith b fillId event = .ok after) :
    Opens b after fillId event
      (openedAmount event.side (b.held event.accountId event.instrumentId) event.quantity) := by
  have hpos : 0 ≤ event.quantity := event.terms.1.le
  have hfound : Found carried b event (positionFor b event).1 (positionFor b event).2 :=
    positionFor_found hs (hc.zero hquantity hpos)
  obtain ⟨⟨row, hrow, hrowId, hrowAccount⟩, haccount, hkept, hlots₁, hdrawn₁⟩ := positionFor_owner b event
  unfold applyToPosition at h
  generalize positionFor b event = found at h hfound hrow hrowId haccount hkept hlots₁ hdrawn₁
  obtain ⟨p, b₁⟩ := found
  dsimp only at h hfound hrow hrowId haccount hkept hlots₁ hdrawn₁
  obtain ⟨positions, hpositions, h⟩ := bind_ok.mp h
  obtain ⟨lots, hlots, h⟩ := bind_ok.mp h
  rw [hfound.quantity, if_neg hopens] at hlots
  obtain ⟨transition, htransition, h⟩ := bind_ok.mp h
  obtain ⟨hprevious, -⟩ := transition_shape htransition
  rw [hprevious, hfound.quantity, lotQuantity_exact hc hnext] at h
  obtain ⟨hwrittenPositions, hwrittenLots, hwrittenDrawn⟩ :=
    writeTransition_eq { b₁ with positions := positions, lots := lots } p.id fillId event.executedAt transition
  obtain ⟨hafterPositions, hafterDrawn, hafterLots⟩ := openLot_lots hc
    (fun _ => openedAmount_carried hc hpos hquantity hnext) (openedAmount_nonneg hpos) h
  rw [hwrittenPositions] at hafterPositions
  rw [hwrittenLots] at hafterLots
  have howners := writePosition_owners hfound.sound.positionIds hrow (p := p.fill arith event) hrowId
    (hrowAccount.trans haccount.symm) hpositions
  have hlotsEq : lots = b.lots := (Except.ok.inj hlots).symm.trans hlots₁
  constructor
  · exact hdrawn₁.trans (hwrittenDrawn.trans hafterDrawn)
  · intro old hold
    rw [hafterPositions]
    exact howners old (hkept old hold)
  · rcases hafterLots with ⟨hnone, hzero⟩ | ⟨lot, hadded, hfill, hremaining, hposition⟩
    · exact .inl ⟨hnone.trans hlotsEq, hzero⟩
    · obtain ⟨owner, howner, hid, hownerAccount⟩ := howners row hrow
      refine .inr ⟨lot, ?_, hfill, hremaining, owner, ?_, ?_, hownerAccount.trans hrowAccount⟩
      · rw [hadded, ← hlotsEq]
      · rw [hafterPositions]
        exact howner
      · rw [hposition, hid, hrowId]

/-! ### What the anchors count -/

theorem clamp_decimal28 {x : ℚ} (h : OnGrid 28 (-18) x) : Arithmetic.decimal28.clamp x = x := by
  obtain ⟨n, rfl, hn⟩ := h
  have hbound : |(n : ℚ) * 10 ^ (-18 : ℤ)| ≤ numericLargest := by
    have hcast : |(n : ℚ)| < 10 ^ 28 := by exact_mod_cast hn
    rw [abs_mul]
    unfold numericLargest
    norm_num
    linarith
  obtain ⟨hlow, hhigh⟩ := abs_le.mp hbound
  show max (-numericLargest) (min numericLargest (numericRound _)) = _
  rw [numericRound_multiple, min_eq_right hhigh, max_eq_right hlow]

/-- Every lot is under the fill that opened it and a position of the account of that fill, and
no anchor counts more than is held. -/
structure RiskTracked (t : Tables) : Prop where
  book : t.book.Sound (OnGrid 28 (-18))
  fillDrawn : ∀ f ∈ t.fills, f.id < t.book.drawn
  opened : ∀ lot ∈ t.book.lots, ∃ f, Rows.lookup PersistedFill.id t.fills lot.openingFillId = some f ∧
    ∃ p ∈ t.book.positions, p.id = lot.positionId ∧ p.accountId = f.accountId
  amounts : ∀ a ∈ t.anchors, OnGrid 28 (-18) a.positionRiskAmount ∧ 0 ≤ a.positionRiskAmount
  bounded : ∀ a ∈ t.anchors, a.positionRiskAmount ≤ heldRisk t a

/-- A flat account holds no exposure, so its anchors count none. -/
theorem RiskTracked.law {t : Tables} (h : RiskTracked t) {a : RiskBudgetAnchor} (ha : a ∈ t.anchors) :
    PositionRiskLaw t a := by
  refine ⟨fun hflat => ?_, h.bounded a ha⟩
  have hnothing : heldRisk t a = 0 := by
    refine List.sum_eq_zero fun risk hrisk => ?_
    obtain ⟨lot, hlot, rfl⟩ := List.mem_map.mp hrisk
    obtain ⟨f, hf, p, hp, hid, haccount⟩ := h.opened lot hlot
    unfold RiskBudgetAnchor.exposure
    rw [hf]
    dsimp only
    split
    · rename_i hcharged
      have hcons := h.book.positions p hp
      have hzero : p.quantity = 0 := hflat p hp (haccount ▸ hcharged.2)
      have hlotOf : lot ∈ t.book.lotsOf p.id := List.mem_filter.mpr ⟨hlot, by simpa using hid.symm⟩
      have hsum : (remaining (t.book.lotsOf p.id)).sum = 0 := by rw [hcons.lots, hzero, max_self]
      have hle : lot.remainingQuantity ≤ (remaining (t.book.lotsOf p.id)).sum := by
        refine List.single_le_sum ?_ _ (List.mem_map_of_mem hlotOf)
        intro left hleft
        obtain ⟨other, hother, rfl⟩ := List.mem_map.mp hleft
        exact (hcons.lot other hother).2
      have hleft : lot.remainingQuantity = 0 := le_antisymm (hsum ▸ hle) (hcons.lot lot hlotOf).2
      rw [hleft, mul_zero]
    · rfl
  exact le_antisymm (hnothing ▸ h.bounded a ha) (h.amounts a ha).2

/-- The risk of an execution: its price times what it opens. -/
def openedRisk (t : Tables) (event : BrokerExecutionEvent) : ℚ :=
  event.price * openedAmount event.side (t.book.held event.accountId event.instrumentId) event.quantity

/-- Nothing is sold out of a long position. -/
def OpensOnly (t : Tables) : LedgerEvent → Prop
  | .fill event => t.fill? event = none →
      ¬(event.side = .sell ∧ 0 < t.book.held event.accountId event.instrumentId)
  | _ => True

/-- The amounts of an execution that is new fit twenty-eight digits and eighteen decimals, and
so do the amounts it leads to. -/
def RiskCarried (t : Tables) : LedgerEvent → Prop
  | .fill event => t.fill? event = none →
      OnGrid 28 (-18) event.quantity ∧ OnGrid 28 (-18) event.price ∧
      OnGrid 28 (-18) (exactNext (t.book.held event.accountId event.instrumentId) event.side event.quantity) ∧
      OnGrid 28 (-18) (openedRisk t event) ∧
      ∀ a ∈ t.anchors, a.charged event.accountId event.currency →
        OnGrid 28 (-18) (a.positionRiskAmount + openedRisk t event)
  | _ => True

/-- What is held after an execution that sells nothing out of a long position. -/
theorem heldRisk_opens {t after : Tables} {event : BrokerExecutionEvent} {row : PersistedFill}
    (htracked : RiskTracked t) (hrow : row.id = t.book.drawn) (haccount : row.accountId = event.accountId)
    (hcurrency : row.currency = event.currency) (hprice : row.price = event.price)
    (hfills : after.fills = t.fills ++ [row])
    (hopens : Opens { t.book with drawn := t.book.drawn + 1 } after.book t.book.drawn event
      (openedAmount event.side (t.book.held event.accountId event.instrumentId) event.quantity))
    (a : RiskBudgetAnchor) :
    heldRisk after a =
      heldRisk t a + if a.charged event.accountId event.currency then openedRisk t event else 0 := by
  have hfresh : Rows.lookup PersistedFill.id t.fills row.id = none :=
    Rows.lookup_eq_none.mpr fun f hf => hrow ▸ (htracked.fillDrawn f hf).ne
  have hold : ∀ lot ∈ t.book.lots, a.exposure after.fills lot = a.exposure t.fills lot := by
    intro lot hlot
    obtain ⟨f, hf, -⟩ := htracked.opened lot hlot
    have hne : lot.openingFillId ≠ row.id := by
      intro heq
      rw [heq, hfresh] at hf
      cases hf
    unfold RiskBudgetAnchor.exposure
    rw [hfills, Rows.lookup_add hfresh, if_neg hne]
  have hsum : (t.book.lots.map (a.exposure after.fills)).sum = heldRisk t a :=
    congrArg List.sum (List.map_congr_left hold)
  unfold heldRisk openedRisk at *
  rcases hopens.lots with ⟨hlots, hzero⟩ | ⟨lot, hlots, hfill, hremaining, -⟩
  · rw [hlots, hsum, hzero, mul_zero, ite_self, add_zero]
  · have hnew : a.exposure after.fills lot = if a.charged event.accountId event.currency then
        event.price * openedAmount event.side (t.book.held event.accountId event.instrumentId) event.quantity
        else 0 := by
      unfold RiskBudgetAnchor.exposure
      rw [hfills, Rows.lookup_add hfresh, if_pos (hfill.trans hrow.symm)]
      dsimp only
      rw [haccount, hcurrency, hprice, hremaining]
    rw [hlots, List.map_append, List.sum_append, hsum, List.map_singleton, List.sum_singleton, hnew]

/-! ### Steps -/

/-- Anchors whose position risk a writer leaves alone, as they are written back. -/
theorem writeAnchors_position {anchors written : List RiskBudgetAnchor} {accountId : UUID} {currency : String}
    {locked : RiskBudgetAnchor × RiskBudgetAnchor} {change : RiskBudgetAnchor → RiskBudgetAnchor}
    (hlocked : lockGlobalAndAccount anchors accountId currency = some locked)
    (h : writeAnchors arith anchors locked change = .ok written) (hkey : ∀ a, (change a).key = a.key)
    (hsame : ∀ a, (change a).positionRiskAmount = a.positionRiskAmount) :
    ∀ a ∈ written, a ∈ anchors ∨
      ∃ old ∈ anchors, old.key = a.key ∧ arith.store old.positionRiskAmount = .ok a.positionRiskAmount := by
  intro a ha
  rcases writeAnchors_ok hlocked h hkey a ha with ⟨hold, -⟩ | ⟨-, old, hold, holdKey, hstored⟩
  · exact .inl hold
  · have hposition := (RiskBudgetAnchor.store_ok hstored).1
    rw [hsame] at hposition
    exact .inr ⟨old, hold, holdKey, hposition⟩

/-- Without an execution fills stay, and an anchor's position risk is at most written again. -/
theorem perform_anchors {t after : Tables} {event : LedgerEvent} (hother : ∀ fill, event ≠ .fill fill)
    (h : perform arith hashes t event = .ok after) :
    after.fills = t.fills ∧ ∀ a ∈ after.anchors, a ∈ t.anchors ∨
      ∃ old ∈ t.anchors, old.key = a.key ∧ arith.store old.positionRiskAmount = .ok a.positionRiskAmount := by
  cases event with
  | fill fill => exact absurd rfl (hother fill)
  | status event =>
    obtain ⟨⟨after, outcome⟩, happly, rfl⟩ := map_ok h
    have hstatus := StatusOnly.event happly
    refine ⟨hstatus.fills, fun a ha => .inl ?_⟩
    rw [← hstatus.anchors]
    exact ha
  | release orderId brokerId sourcePartition now =>
    obtain ⟨⟨after, result⟩, hrelease, rfl⟩ := map_ok h
    rcases releaseIfComplete_ok hrelease with rfl | ⟨order, decision, anchors, reservation, -, -, hlocked, -, hreleased⟩
    · exact ⟨rfl, fun a ha => .inl ha⟩
    · obtain ⟨written, stored, hwritten, -, rfl⟩ := release_ok hreleased
      exact ⟨rfl, writeAnchors_position hlocked hwritten (fun _ => rfl) fun _ => rfl⟩
  | checkpoint key checkpoint =>
    obtain ⟨streams, scopes, rfl⟩ := recordClosedIntervalCheckpoint_ok h
    exact ⟨rfl, fun a ha => .inl ha⟩
  | approve decision reservation accountId currency =>
    obtain ⟨anchors, _, _, _, _, hlocked, -, -, -, ⟨-, -, written, hwritten, rfl⟩ | ⟨-, rfl⟩⟩ := persistApproval_ok h
    · exact ⟨rfl, writeAnchors_position hlocked hwritten (fun _ => rfl) fun _ => rfl⟩
    · exact ⟨rfl, fun a ha => .inl ha⟩
  | createOrder order event =>
    obtain ⟨_, rfl | ⟨rfl, -⟩⟩ := createApprovedOrder_ok h <;> exact ⟨rfl, fun a ha => .inl ha⟩
  | accept acceptance =>
    obtain rfl | ⟨_, rfl, -⟩ := linkAccepted_ok h <;> exact ⟨rfl, fun a ha => .inl ha⟩
  | adopt adoption ids =>
    obtain ⟨⟨after, result⟩, hadopt, rfl⟩ := map_ok h
    obtain rfl | ⟨anchors, _, _, _, hbooked⟩ := adoptOpenOrder_ok hadopt
    · exact ⟨rfl, fun a ha => .inl ha⟩
    · exact ⟨hbooked.fills, writeAnchors_position hbooked.locked hbooked.moved (fun _ => rfl) fun _ => rfl⟩

theorem RiskTracked.other {t after : Tables} {event : LedgerEvent} (ht : RiskTracked t)
    (hother : ∀ fill, event ≠ .fill fill) (h : perform .decimal28 hashes t event = .ok after) :
    RiskTracked after := by
  have hbook := perform_book hother h
  obtain ⟨hfills, hanchors⟩ := perform_anchors hother h
  have hheld : ∀ a, heldRisk after a = heldRisk t a := by
    intro a
    unfold heldRisk
    rw [hbook, hfills]
  -- a stored amount that fits is the amount
  have hsource : ∀ a ∈ after.anchors, ∃ old ∈ t.anchors, old.key = a.key ∧
      a.positionRiskAmount = old.positionRiskAmount := by
    intro a ha
    rcases hanchors a ha with hold | ⟨old, hold, hkey, hstored⟩
    · exact ⟨a, hold, rfl, rfl⟩
    · rw [Carries.decimal28.store _ (ht.amounts old hold).1] at hstored
      exact ⟨old, hold, hkey, (Except.ok.inj hstored).symm⟩
  refine ⟨hbook ▸ ht.book, ?_, ?_, ?_, ?_⟩
  · rw [hfills, hbook]
    exact ht.fillDrawn
  · rw [hfills, hbook]
    exact ht.opened
  · intro a ha
    obtain ⟨old, hold, -, heq⟩ := hsource a ha
    rw [heq]
    exact ht.amounts old hold
  · intro a ha
    obtain ⟨old, hold, hkey, heq⟩ := hsource a ha
    rw [heq, hheld, ← heldRisk_congr hkey]
    exact ht.bounded old hold

/-- The anchors after an execution: the charged ones count at most its risk more. -/
theorem charged_amounts {t after : Tables} {event : BrokerExecutionEvent}
    {anchors : RiskBudgetAnchor × RiskBudgetAnchor} {order : PersistedOrder} {stored : ℚ}
    (happlied : Applied .decimal28 t after anchors order stored event) (hpositive : 0 ≤ openedRisk t event)
    (hnext : OnGrid 28 (-18)
      (exactNext (t.book.held event.accountId event.instrumentId) event.side event.quantity))
    (hrisk : OnGrid 28 (-18) (openedRisk t event))
    (hanchors : ∀ a ∈ t.anchors, OnGrid 28 (-18) a.positionRiskAmount ∧ 0 ≤ a.positionRiskAmount)
    (hcharged : ∀ a ∈ t.anchors, a.charged event.accountId event.currency →
      OnGrid 28 (-18) (a.positionRiskAmount + openedRisk t event)) :
    ∀ a ∈ after.anchors, ∃ old ∈ t.anchors, old.key = a.key ∧ OnGrid 28 (-18) a.positionRiskAmount ∧
      0 ≤ a.positionRiskAmount ∧ a.positionRiskAmount ≤ old.positionRiskAmount +
        if a.charged event.accountId event.currency then openedRisk t event else 0 := by
  have hkept : ∀ a ∈ t.anchors, ∃ old ∈ t.anchors, old.key = a.key ∧ OnGrid 28 (-18) a.positionRiskAmount ∧
      0 ≤ a.positionRiskAmount ∧ a.positionRiskAmount ≤ old.positionRiskAmount +
        if a.charged event.accountId event.currency then openedRisk t event else 0 := by
    intro a ha
    refine ⟨a, ha, rfl, (hanchors a ha).1, (hanchors a ha).2, le_add_of_nonneg_right ?_⟩
    split
    · exact hpositive
    · exact le_rfl
  intro a ha
  cases happlied.charged with
  | unreserved _ _ hunmoved _ => exact hkept a (hunmoved ▸ ha)
  | reserved r kept _ _ _ hmoved _ =>
    rcases writeAnchors_ok (lockForFill_ok happlied.locked).budget hmoved (fun _ => rfl) a ha with
      ⟨hold, -⟩ | ⟨hisCharged, old, hold, hkey, hstored⟩
    · exact hkept a hold
    obtain ⟨hposition, -, -, hnonneg, -⟩ := RiskBudgetAnchor.store_ok hstored
    have hattributable : (charge .decimal28 r event (t.book.held event.accountId event.instrumentId)).attributable =
        openedRisk t event := by
      show roundSig 28 (event.price * lotQuantity .decimal28 _ _ _) = _
      rw [lotQuantity_exact Carries.decimal28 hnext]
      exact Carries.decimal28.fix _ hrisk
    have hsum := hcharged old hold ((RiskBudgetAnchor.charged_congr hkey _ _).mpr hisCharged)
    have hchange : (old.consume .decimal28
        (charge .decimal28 r event (t.book.held event.accountId event.instrumentId))).positionRiskAmount =
        old.positionRiskAmount + openedRisk t event := by
      show Arithmetic.decimal28.fix (old.positionRiskAmount + _) = _
      rw [hattributable]
      exact Carries.decimal28.fix _ hsum
    rw [hchange, Carries.decimal28.store _ hsum] at hposition
    have heq := Except.ok.inj hposition
    refine ⟨old, hold, hkey, heq ▸ hsum, hnonneg, ?_⟩
    rw [if_pos hisCharged, heq]

theorem RiskTracked.fill {t after : Tables} {event : BrokerExecutionEvent} {result : Option FillApplication}
    (ht : RiskTracked t) (hopens : OpensOnly t (.fill event)) (hcarried : RiskCarried t (.fill event))
    (h : applyEventOnce .decimal28 t event = .ok (after, result)) : RiskTracked after := by
  rcases applyEventOnce_ok h with ⟨-, existing, -, rfl | rfl⟩ | ⟨-, anchors, order, stored, happlied⟩
  · exact ht
  · exact ⟨ht.book, ht.fillDrawn, ht.opened, ht.amounts, ht.bounded⟩
  obtain ⟨hquantity, hprice, hnext, hrisk, hcharged⟩ := hcarried happlied.unrecorded
  have hopens := applyToPosition_opens Carries.decimal28 ht.book.draw hquantity hnext (hopens happlied.unrecorded)
    happlied.book
  have hrowPrice : (fillRow .decimal28 t.book.drawn event).price = event.price := clamp_decimal28 hprice
  have hheld := heldRisk_opens ht rfl rfl rfl hrowPrice happlied.fills hopens
  have hpositive : 0 ≤ openedRisk t event := mul_nonneg event.terms.2.le (openedAmount_nonneg event.terms.1.le)
  have hamounts := charged_amounts happlied hpositive hnext hrisk ht.amounts hcharged
  have hfresh : Rows.lookup PersistedFill.id t.fills (fillRow .decimal28 t.book.drawn event).id = none :=
    Rows.lookup_eq_none.mpr fun f hf => (ht.fillDrawn f hf).ne
  have hlookup : ∀ id, Rows.lookup PersistedFill.id after.fills id =
      if id = t.book.drawn then some (fillRow .decimal28 t.book.drawn event)
      else Rows.lookup PersistedFill.id t.fills id := by
    intro id
    rw [happlied.fills]
    exact Rows.lookup_add hfresh id
  have hdrawn : t.book.drawn < after.book.drawn := hopens.drawn
  refine ⟨applyToPosition_sound Carries.decimal28 ht.book.draw hquantity hnext happlied.book, ?_, ?_, ?_, ?_⟩
  · intro f hf
    rw [happlied.fills] at hf
    rcases List.mem_append.mp hf with hf | hf
    · exact (ht.fillDrawn f hf).trans hdrawn
    · rw [List.mem_singleton.mp hf]
      exact hdrawn
  · have hold : ∀ lot ∈ t.book.lots, ∃ f, Rows.lookup PersistedFill.id after.fills lot.openingFillId = some f ∧
        ∃ p ∈ after.book.positions, p.id = lot.positionId ∧ p.accountId = f.accountId := by
      intro lot hlot
      obtain ⟨f, hf, p, hp, hid, haccount⟩ := ht.opened lot hlot
      have hne : lot.openingFillId ≠ t.book.drawn := by
        intro heq
        exact (ht.fillDrawn f (List.mem_of_find?_eq_some hf)).ne ((Rows.lookup_key hf).trans heq)
      obtain ⟨row, hrow, hrowId, hrowAccount⟩ := hopens.owners p hp
      refine ⟨f, ?_, row, hrow, hrowId.trans hid, hrowAccount.trans haccount⟩
      rw [hlookup, if_neg hne, hf]
    intro lot hlot
    rcases hopens.lots with ⟨hlots, -⟩ | ⟨new, hlots, hfill, -, row, hrow, hrowId, hrowAccount⟩
    · rw [hlots] at hlot
      exact hold lot hlot
    · rw [hlots] at hlot
      rcases List.mem_append.mp hlot with hlot | hlot
      · exact hold lot hlot
      · rw [List.mem_singleton.mp hlot]
        refine ⟨fillRow .decimal28 t.book.drawn event, ?_, row, hrow, hrowId, hrowAccount⟩
        rw [hlookup, if_pos hfill]
  · intro a ha
    obtain ⟨-, -, -, hgrid, hnonneg, -⟩ := hamounts a ha
    exact ⟨hgrid, hnonneg⟩
  · intro a ha
    obtain ⟨old, hold, hkey, -, -, hle⟩ := hamounts a ha
    rw [hheld, ← heldRisk_congr hkey]
    exact hle.trans (add_le_add_left (ht.bounded old hold) _)

/-! ### Runs -/

/-- From a ledger without positions, fills and position risk, in any order of transactions, as
long as nothing is sold out of a long position and the amounts fit. -/
theorem positionRiskLaw_run (hashes : AdoptionHashes) (t : Tables) (hnothing : NothingHeld t.book)
    (hfills : t.fills = []) (hanchors : ∀ a ∈ t.anchors, a.positionRiskAmount = 0) (events : List LedgerEvent)
    (hmeets : RunMeets (step .decimal28 hashes) (fun t event => OpensOnly t event ∧ RiskCarried t event) t events) :
    ∀ a ∈ (runFrom (step .decimal28 hashes) t events).anchors,
      PositionRiskLaw (runFrom (step .decimal28 hashes) t events) a := by
  have hstart : RiskTracked t := by
    have hlots := hnothing.2.1
    refine ⟨hnothing.sound, ?_, ?_, ?_, ?_⟩
    · simp [hfills]
    · simp [hlots]
    · intro a ha
      rw [hanchors a ha]
      exact ⟨onGrid_zero, le_rfl⟩
    · intro a ha
      rw [hanchors a ha]
      simp [heldRisk, hlots]
  have hstep : ∀ t event, RiskTracked t → OpensOnly t event ∧ RiskCarried t event →
      RiskTracked (step .decimal28 hashes t event) := by
    intro t event ht ⟨hopens, hcarried⟩
    refine step_keeps ht fun after h => ?_
    by_cases hfill : ∃ fill, event = .fill fill
    · obtain ⟨fill, rfl⟩ := hfill
      obtain ⟨⟨after, result⟩, happly, rfl⟩ := map_ok h
      exact ht.fill hopens hcarried happly
    · exact ht.other (fun fill heq => hfill ⟨fill, heq⟩) h
  exact fun a ha => (run_invariant hstep hstart hmeets).law ha

theorem onGrid_natCast {n : ℕ} (h : n < 10 ^ 10) : OnGrid 28 (-18) n := by
  refine ⟨n * 10 ^ 18, ?_, ?_⟩
  · push_cast
    norm_num
    ring
  · rw [abs_of_nonneg (by positivity)]
    have : (n : ℤ) < 10 ^ 10 := by exact_mod_cast h
    linarith

/-- Three are bought into a reservation of ten, at price one. -/
theorem positionRiskLaw_run_bought :
    (runFrom (step .decimal28 noHashes) (sampleReserved (sampleOrder .buy 10) 10)
      [.fill (sampleFill (rowUuid 3) "1" .buy 3 rat_three_pos)]).anchors.map (·.positionRiskAmount) = [3, 3] ∧
    ∀ a ∈ (runFrom (step .decimal28 noHashes) (sampleReserved (sampleOrder .buy 10) 10)
      [.fill (sampleFill (rowUuid 3) "1" .buy 3 rat_three_pos)]).anchors,
      PositionRiskLaw (runFrom (step .decimal28 noHashes) (sampleReserved (sampleOrder .buy 10) 10)
        [.fill (sampleFill (rowUuid 3) "1" .buy 3 rat_three_pos)]) a := by
  have hthree : OnGrid 28 (-18) 3 := by exact_mod_cast onGrid_natCast (n := 3) (by norm_num)
  have hone : OnGrid 28 (-18) 1 := by exact_mod_cast onGrid_natCast (n := 1) (by norm_num)
  refine ⟨by decide +kernel, positionRiskLaw_run noHashes (sampleReserved (sampleOrder .buy 10) 10) ⟨rfl, rfl, rfl⟩ rfl
    (by decide) [.fill (sampleFill (rowUuid 3) "1" .buy 3 rat_three_pos)]
    ⟨⟨fun _ => by decide, fun _ => ⟨hthree, hone, ?_, ?_, ?_⟩⟩, trivial⟩⟩
  · simpa [exactNext, sampleFill, Book.held, Book.position?, sampleReserved, sampleTables, noTables] using hthree
  · simpa [openedRisk, openedAmount, longOpened, sampleFill, Book.held, Book.position?, sampleReserved, sampleTables,
      noTables] using hthree
  · intro a ha _
    have hzero : a.positionRiskAmount = 0 := by
      revert a
      decide
    rw [hzero, zero_add]
    simpa [openedRisk, openedAmount, longOpened, sampleFill, Book.held, Book.position?, sampleReserved, sampleTables,
      noTables] using hthree

/-- Three are bought and three sold: the position is flat, and three stay counted. -/
theorem positionRiskLaw_fails_sold :
    ¬∀ (t : Tables) (events : List LedgerEvent), NothingHeld t.book → t.fills = [] →
      (∀ a ∈ t.anchors, a.positionRiskAmount = 0) →
      ∀ a ∈ (runFrom (step .decimal28 noHashes) t events).anchors,
        PositionRiskLaw (runFrom (step .decimal28 noHashes) t events) a := by
  intro h
  let selling : PersistedOrder :=
    { sampleOrder .sell 10 with
      id := rowUuid 13
      orderIntentId := rowUuid 16
      riskDecisionId := rowUuid 15
      brokerClientOrderId := "client-2" }
  let t : Tables :=
    { sampleReserved (sampleOrder .buy 10) 10 with
      orders := [sampleOrder .buy 10, selling]
      links := [sampleLink (rowUuid 3) "ACKNOWLEDGED",
        { sampleLink (rowUuid 13) "ACKNOWLEDGED" with id := rowUuid 17, brokerOrderId := "B2" }] }
  let events : List LedgerEvent :=
    [.fill (sampleFill (rowUuid 3) "1" .buy 3 rat_three_pos),
      .fill { sampleFill (rowUuid 13) "2" .sell 3 rat_three_pos with brokerOrderId := "B2" }]
  have hflat : ∀ a ∈ (runFrom (step .decimal28 noHashes) t events).anchors,
      (∀ p ∈ (runFrom (step .decimal28 noHashes) t events).book.positions, a.covers p.accountId → p.quantity = 0) →
        a.positionRiskAmount = 0 :=
    fun a ha => (h t events ⟨rfl, rfl, rfl⟩ rfl (by decide) a ha).flat
  revert hflat
  decide +kernel

end AutoTrader.Ledger
