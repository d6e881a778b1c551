import AutoTrader.Ledger.BookInvariant
import AutoTrader.Ledger.Conservation
import AutoTrader.Ledger.PositionRisk

/-! Executions that go through. When the amounts fit and the budget holds what an order reserved,
no column and no check refuses an execution of the order. -/

/-! The average cost of a position stays among the prices it was bought and sold at, in spite of
the roundings of its mean, so its column never refuses it. -/

namespace AutoTrader.Ledger

open AutoTrader.Domain AutoTrader.Numeric

/-- No price on the grid of the ledger reaches the bound. -/
def CostBounded (x : ℚ) : Prop :=
  0 ≤ x ∧ x ≤ 10 ^ 10

theorem costBounded_of_onGrid {x : ℚ} (h : OnGrid 28 (-18) x) (hx : 0 ≤ x) : CostBounded x :=
  ⟨hx, h.lt.le.trans (by norm_num)⟩

/-- Ten places up, as the largest cost of a quantity is. -/
theorem onGrid_cost {q : ℚ} (h : OnGrid 28 (-18) q) : OnGrid 28 (-8) (10 ^ 10 * q) := by
  have hscaled := h.scale 10
  norm_num at hscaled
  exact_mod_cast hscaled

theorem numericColumn_cost {x : ℚ} (h : CostBounded x) : ∃ c, numericColumn x = .ok c ∧ CostBounded c := by
  obtain ⟨hx, hle⟩ := h
  have hlow : 0 ≤ ⌊|x| * 10 ^ 18 + 1 / 2⌋ := Int.floor_nonneg.mpr (by positivity)
  have hhigh : ⌊|x| * 10 ^ 18 + 1 / 2⌋ ≤ 10 ^ 28 := by
    rw [abs_of_nonneg hx, ← Int.lt_add_one_iff, Int.floor_lt]
    push_cast
    linarith
  have hround : numericRound x = ⌊|x| * 10 ^ 18 + 1 / 2⌋ / 10 ^ 18 := by
    unfold numericRound
    dsimp only
    rw [if_neg (not_lt.mpr hx)]
  have hbounded : CostBounded (numericRound x) := by
    have hlow' : (0 : ℚ) ≤ ⌊|x| * 10 ^ 18 + 1 / 2⌋ := by exact_mod_cast hlow
    have hhigh' : (⌊|x| * 10 ^ 18 + 1 / 2⌋ : ℚ) ≤ 10 ^ 28 := by exact_mod_cast hhigh
    rw [hround]
    refine ⟨div_nonneg hlow' (by norm_num), ?_⟩
    rw [div_le_iff₀ (by norm_num)]
    linarith
  refine ⟨numericRound x, ?_, hbounded⟩
  unfold numericColumn
  rw [if_neg]
  rw [not_lt, abs_of_nonneg hbounded.1]
  refine hbounded.2.trans ?_
  unfold numericLargest
  norm_num

/-- What a quantity cost, rounded, is at most the quantity at the largest price. -/
theorem cost_le {price q : ℚ} (hprice : CostBounded price) (hq : OnGrid 28 (-18) q) (hq0 : 0 ≤ q) :
    0 ≤ roundSig 28 (price * q) ∧ roundSig 28 (price * q) ≤ 10 ^ 10 * q := by
  have hpos : 0 ≤ price * q := mul_nonneg hprice.1 hq0
  exact ⟨roundSig_nonneg (by norm_num) hpos, roundSig_le (onGrid_cost hq) hpos (mul_le_mul_of_nonneg_right hprice.2 hq0)⟩

/-- The rounded mean of two bounded costs. -/
theorem mean_bounded {price cost q quantity : ℚ} (hcost : CostBounded cost) (hprice : CostBounded price)
    (hq : OnGrid 28 (-18) q) (hq0 : 0 ≤ q) (hquantity : OnGrid 28 (-18) quantity) (hpos : 0 < quantity)
    (hsum : OnGrid 28 (-18) (q + quantity)) :
    CostBounded (roundSig 28
      (roundSig 28 (roundSig 28 (cost * q) + roundSig 28 (price * quantity)) / (q + quantity))) := by
  obtain ⟨hheld, hheldLe⟩ := cost_le hcost hq hq0
  obtain ⟨hbought, hboughtLe⟩ := cost_le hprice hquantity hpos.le
  have hnext : 0 < q + quantity := by linarith
  have htotal : 0 ≤ roundSig 28 (cost * q) + roundSig 28 (price * quantity) := add_nonneg hheld hbought
  have htotalLe : roundSig 28 (roundSig 28 (cost * q) + roundSig 28 (price * quantity)) ≤
      10 ^ 10 * (q + quantity) :=
    roundSig_le (onGrid_cost hsum) htotal (by linarith)
  have hquot : 0 ≤ roundSig 28 (roundSig 28 (cost * q) + roundSig 28 (price * quantity)) / (q + quantity) :=
    div_nonneg (roundSig_nonneg (by norm_num) htotal) hnext.le
  have hlimit : OnGrid 28 10 ((10 : ℚ) ^ 10) := ⟨1, by norm_num, by norm_num⟩
  exact ⟨roundSig_nonneg (by norm_num) hquot, roundSig_le hlimit hquot ((div_le_iff₀ hnext).mpr htotalLe)⟩

/-- A fill keeps the average cost among the prices. -/
theorem Position.fill_cost {p : Position} {event : BrokerExecutionEvent} (hcost : CostBounded p.averageCost)
    (hprice : OnGrid 28 (-18) event.price) (hheld : OnGrid 28 (-18) p.quantity)
    (hquantity : OnGrid 28 (-18) event.quantity)
    (hnext : OnGrid 28 (-18) (exactNext p.quantity event.side event.quantity)) :
    CostBounded (p.fill .decimal28 event).averageCost := by
  have hbounded : CostBounded event.price := costBounded_of_onGrid hprice event.terms.2.le
  have hexact : nextQuantity .decimal28 p.quantity event.side event.quantity =
      exactNext p.quantity event.side event.quantity := nextQuantity_exact Carries.decimal28 hquantity hnext
  unfold Position.fill
  dsimp only
  rw [hexact]
  split
  · rename_i hbuy
    rw [hbuy.1] at hnext ⊢
    exact mean_bounded hcost hbounded hheld hbuy.2 hquantity event.terms.1 hnext
  split
  · exact ⟨le_rfl, by norm_num⟩
  split
  · exact hbounded
  · exact hcost

end AutoTrader.Ledger

namespace AutoTrader.Ledger

open AutoTrader.Dispatch AutoTrader.Domain AutoTrader.Execution AutoTrader.Numeric AutoTrader.Runtime

variable {arith : Arithmetic} {hashes : AdoptionHashes} {carried : ℚ → Prop}

/-- A sum of two carried numbers below a third. -/
theorem Carries.add (hc : Carries arith carried) {x y z : ℚ} (hx : carried x) (hy : carried y) (hz : carried z)
    (hx0 : 0 ≤ x) (hy0 : 0 ≤ y) (hle : x + y ≤ z) : carried (x + y) := by
  have hfirst : carried (z - x) := hc.sub z x hz hx hx0 (by linarith)
  have hsecond : carried (z - x - y) := hc.sub (z - x) y hfirst hy hy0 (by linarith)
  have hsum : carried (z - (z - x - y)) := hc.sub z (z - x - y) hz hsecond (by linarith) (by linarith)
  rwa [show z - (z - x - y) = x + y by ring] at hsum

/-! ### The position -/

theorem closeInOrder_exists (hc : Carries arith carried) {lots : List PersistedPositionLot} {n : ℚ}
    (hlots : ∀ lot ∈ lots, carried lot.remainingQuantity ∧ 0 ≤ lot.remainingQuantity) (hn : carried n)
    (hn0 : 0 ≤ n) : ∃ closed, closeInOrder arith lots n = .ok closed := by
  induction lots generalizing n with
  | nil => exact ⟨[], rfl⟩
  | cons lot rest ih =>
    obtain ⟨hlot, hlot0⟩ := hlots lot List.mem_cons_self
    have hclosed : carried (min lot.remainingQuantity n) := hc.min hlot hn
    have hclosed0 : 0 ≤ min lot.remainingQuantity n := le_min hlot0 hn0
    have hkept : carried (lot.remainingQuantity - min lot.remainingQuantity n) :=
      hc.sub _ _ hlot hclosed hclosed0 (min_le_left _ _)
    have hleft : carried (n - min lot.remainingQuantity n) := hc.sub _ _ hn hclosed hclosed0 (min_le_right _ _)
    have hstored : arith.store (arith.fix (lot.remainingQuantity - min lot.remainingQuantity n)) =
        .ok (lot.remainingQuantity - min lot.remainingQuantity n) := by
      rw [hc.fix _ hkept]
      exact hc.store _ hkept
    have hrest : ∃ others, (if arith.fix (n - min lot.remainingQuantity n) = 0 then .ok rest
        else closeInOrder arith rest (arith.fix (n - min lot.remainingQuantity n))) = .ok others := by
      rw [hc.fix _ hleft]
      split
      · exact ⟨rest, rfl⟩
      · exact ih (fun other hother => hlots other (List.mem_cons_of_mem lot hother)) hleft
          (sub_nonneg.mpr (min_le_right _ _))
    obtain ⟨others, hothers⟩ := hrest
    exact ⟨_, bind_ok.mpr ⟨_, hstored, bind_ok.mpr ⟨others, hothers, rfl⟩⟩⟩

theorem openLot_exists (hc : Carries arith carried) (b : Book) (positionId fillId : RowId) {quantity : ℚ}
    (openedAt : Instant) (hquantity : 0 < quantity → carried quantity) :
    ∃ after, openLot arith b positionId fillId quantity openedAt = .ok after := by
  unfold openLot
  split
  · rename_i hpos
    rw [hc.store _ (hquantity hpos), ok_bind, if_neg (not_le.mpr hpos)]
    exact ⟨_, rfl⟩
  · exact ⟨b, rfl⟩

/-- The row of the position, and the cost it carries. -/
theorem positionFor_row (b : Book) (event : BrokerExecutionEvent) :
    (∃ row, (positionFor b event).2.position? event.accountId event.instrumentId = some row ∧
      row.id = (positionFor b event).1.id) ∧
    (positionFor b event).1.accountId = event.accountId ∧
    (positionFor b event).1.instrumentId = event.instrumentId ∧
    ((∀ p ∈ b.positions, CostBounded p.averageCost) →
      CostBounded (positionFor b event).1.averageCost ∧
        ∀ p ∈ (positionFor b event).2.positions, CostBounded p.averageCost) := by
  unfold positionFor
  cases hfound : b.position? event.accountId event.instrumentId with
  | some p =>
    have hmem : p ∈ b.positions := List.mem_of_find?_eq_some hfound
    have hkey := List.find?_some hfound
    simp only [Bool.and_eq_true, decide_eq_true_eq] at hkey
    dsimp only
    split
    · exact ⟨⟨p, hfound, rfl⟩, hkey.1, hkey.2, fun h => ⟨h p hmem, h⟩⟩
    · exact ⟨⟨p, hfound, rfl⟩, hkey.1, hkey.2, fun h => ⟨h p hmem, h⟩⟩
  | none =>
    have hzero : CostBounded 0 := ⟨le_rfl, by norm_num⟩
    refine ⟨⟨_, ?_, rfl⟩, rfl, rfl, fun h => ⟨hzero, fun p hp => ?_⟩⟩
    · unfold Book.position? at hfound ⊢
      rw [List.find?_append, hfound]
      simp
    · rcases List.mem_append.mp hp with hp | hp
      · exact h p hp
      · rw [List.mem_singleton.mp hp]
        exact hzero

/-- A sale out of a consistent position closes lots. -/
theorem closing_exists (hc : Carries arith carried) {b : Book} {positionId : RowId} {previous quantity : ℚ} {side : Side}
    (hcons : Consistent carried b positionId previous) (hquantity : carried quantity) (hpos : 0 ≤ quantity) :
    ∃ lots, (if side = .sell ∧ 0 < previous then closeLots arith b.lots positionId (min previous quantity)
      else .ok b.lots) = .ok lots := by
  split
  · rename_i hsell
    have hselected : ∀ lot ∈ (b.lots.filter (selected positionId)).insertionSort LotOrder,
        carried lot.remainingQuantity ∧ 0 ≤ lot.remainingQuantity := by
      intro lot hlot
      obtain ⟨hlot, hchosen⟩ := List.mem_filter.mp ((List.mem_insertionSort _).mp hlot)
      simp only [selected, Bool.and_eq_true, decide_eq_true_eq] at hchosen
      exact hcons.lot lot (List.mem_filter.mpr ⟨hlot, by simpa using hchosen.1⟩)
    obtain ⟨closed, hclosed⟩ :=
      closeInOrder_exists hc hselected (hc.min hcons.exact hquantity) (le_min hsell.2.le hpos)
    exact ⟨_, bind_ok.mpr ⟨closed, hclosed, rfl⟩⟩
  · exact ⟨_, rfl⟩

/-- The lineage of an execution of a consistent position is recorded. -/
theorem recordPositionLineage_exists (hc : Carries arith carried) {b : Book} {positionId : RowId}
    {previous quantity : ℚ} {side : Side} (hcons : Consistent carried b positionId previous)
    (positions : List Position) (lots : List PersistedPositionLot) (fillId : RowId) (executedAt : Instant)
    (hquantity : carried quantity) (hpos : 0 ≤ quantity) (hnext : carried (exactNext previous side quantity)) :
    ∃ after, recordPositionLineage arith { b with positions := positions, lots := lots } positionId previous fillId
      side quantity executedAt = .ok after ∧ after.positions = positions := by
  set b₂ : Book := { b with positions := positions, lots := lots } with hb₂
  have htransition : ∃ transition, applyLifecycleTransition arith positionId previous side quantity fillId executedAt
      (currentOrdinal (b₂.lifecyclesOf positionId) + 1)
      ((b₂.openLifecycles positionId).head?.map (·.toPositionLifecycle)) = .ok transition := by
    cases h : applyLifecycleTransition arith positionId previous side quantity fillId executedAt
        (currentOrdinal (b₂.lifecyclesOf positionId) + 1)
        ((b₂.openLifecycles positionId).head?.map (·.toPositionLifecycle)) with
    | ok transition => exact ⟨transition, rfl⟩
    | error e =>
      -- an open position has its lifecycle
      obtain ⟨hopen, hnone⟩ := transition_error h
      have hactive : (b.openLifecycles positionId).length = 1 := hcons.one_active hopen
      have hempty : b.openLifecycles positionId = [] := List.head?_eq_none_iff.mp (Option.map_eq_none_iff.mp hnone)
      rw [hempty] at hactive
      cases hactive
  obtain ⟨transition, htransition⟩ := htransition
  obtain ⟨hprevious, -⟩ := transition_shape htransition
  have hopened : lotQuantity arith side transition.previousQuantity quantity = openedAmount side previous quantity := by
    rw [hprevious]
    exact lotQuantity_exact hc hnext
  have hcarried : 0 < openedAmount side previous quantity → carried (openedAmount side previous quantity) :=
    fun _ => openedAmount_carried hc hpos hquantity hnext
  obtain ⟨after, hafter⟩ :=
    openLot_exists hc (writeTransition b₂ positionId fillId executedAt transition) positionId fillId executedAt hcarried
  obtain ⟨hpositions, -⟩ := openLot_lots hc hcarried (openedAmount_nonneg hpos) hafter
  refine ⟨after, bind_ok.mpr ⟨transition, htransition, ?_⟩, ?_⟩
  · rw [hopened]
    exact hafter
  · rw [hpositions, (writeTransition_eq b₂ positionId fillId executedAt transition).1]

/-- What is held is what was written under the id of the position. -/
theorem held_written {b after : Book} {accountId instrumentId : UUID} {row written : Position}
    (hids : (b.positions.map Position.id).Nodup) (hrow : b.position? accountId instrumentId = some row)
    (haccount : written.accountId = accountId) (hinstrument : written.instrumentId = instrumentId)
    (hpositions : after.positions = Rows.update Position.id b.positions row.id fun _ => written) :
    after.held accountId instrumentId = written.quantity := by
  have hmem : row ∈ b.positions := List.mem_of_find?_eq_some hrow
  have hkey := List.find?_some hrow
  have hfind : after.position? accountId instrumentId =
      (b.position? accountId instrumentId).map fun old => if old.id = row.id then written else old := by
    unfold Book.position?
    rw [hpositions]
    refine Rows.find?_update fun old hold hid => ?_
    rw [List.inj_on_of_nodup_map hids hold hmem hid, hkey]
    simp [haccount, hinstrument]
  unfold Book.held
  rw [hfind, hrow, Option.map_some, if_pos rfl]
  rfl

/-- What an execution leaves of positions. -/
structure Held (after : Book) (event : BrokerExecutionEvent) (next : ℚ) : Prop where
  costs : ∀ p ∈ after.positions, CostBounded p.averageCost
  held : after.held event.accountId event.instrumentId = next

theorem applyToPosition_exists {b : Book} (fillId : RowId) {event : BrokerExecutionEvent}
    (hs : b.Sound (OnGrid 28 (-18))) (hcosts : ∀ p ∈ b.positions, CostBounded p.averageCost)
    (hprice : OnGrid 28 (-18) event.price) (hquantity : OnGrid 28 (-18) event.quantity)
    (hnext : OnGrid 28 (-18) (exactNext (b.held event.accountId event.instrumentId) event.side event.quantity)) :
    ∃ after, applyToPosition .decimal28 b fillId event = .ok after ∧
      Held after event (exactNext (b.held event.accountId event.instrumentId) event.side event.quantity) := by
  have hpos : 0 ≤ event.quantity := event.terms.1.le
  have hfound : Found (OnGrid 28 (-18)) b event (positionFor b event).1 (positionFor b event).2 :=
    positionFor_found hs onGrid_zero
  obtain ⟨⟨row, hrow, hid⟩, haccount, hinstrument, hcost⟩ := positionFor_row b event
  obtain ⟨hcost, hcosts⟩ := hcost hcosts
  unfold applyToPosition
  generalize positionFor b event = found at hfound hrow hid haccount hinstrument hcost hcosts
  obtain ⟨p, b₁⟩ := found
  dsimp only at hfound hrow hid haccount hinstrument hcost hcosts ⊢
  obtain ⟨hsound, hheld, source, hsource, hsourceId, hsourceQuantity⟩ := hfound
  rw [← hheld] at hnext ⊢
  have hcons : Consistent (OnGrid 28 (-18)) b₁ p.id p.quantity := by
    have hcons := hsound.positions source hsource
    rwa [hsourceId, hsourceQuantity] at hcons
  have hfill : (p.fill .decimal28 event).quantity = exactNext p.quantity event.side event.quantity :=
    nextQuantity_exact Carries.decimal28 hquantity hnext
  obtain ⟨averageCost, hstoredCost, hbounded⟩ :=
    numericColumn_cost (Position.fill_cost hcost hprice hcons.exact hquantity hnext)
  have hstoredQuantity : numericColumn (p.fill .decimal28 event).quantity =
      .ok (exactNext p.quantity event.side event.quantity) := by
    rw [hfill]
    exact Carries.decimal28.store _ hnext
  set written : Position :=
    { p.fill .decimal28 event with
      quantity := exactNext p.quantity event.side event.quantity
      averageCost := averageCost } with hwritten
  have hpositions : writePosition .decimal28 b₁.positions (p.fill .decimal28 event) =
      .ok (Rows.update Position.id b₁.positions p.id fun _ => written) :=
    bind_ok.mpr ⟨_, hstoredQuantity, bind_ok.mpr ⟨_, hstoredCost, rfl⟩⟩
  have hclosing : ∃ lots, (if event.side = .sell ∧ 0 < p.quantity then
      closeLots .decimal28 b₁.lots p.id (min p.quantity event.quantity) else .ok b₁.lots) = .ok lots :=
    closing_exists Carries.decimal28 hcons hquantity hpos
  obtain ⟨lots, hlots⟩ := hclosing
  obtain ⟨after, hafter, hrows⟩ := recordPositionLineage_exists Carries.decimal28 hcons
    (Rows.update Position.id b₁.positions p.id fun _ => written) lots fillId event.executedAt hquantity hpos hnext
  refine ⟨after, bind_ok.mpr ⟨_, hpositions, bind_ok.mpr ⟨lots, hlots, hafter⟩⟩, ?_, ?_⟩
  · rw [hrows]
    intro q hq
    obtain ⟨old, hold, rfl⟩ := Rows.mem_update.mp hq
    split
    · exact hbounded
    · exact hcosts old hold
  · rw [← hid] at hrows
    have hafterHeld : after.held event.accountId event.instrumentId = written.quantity :=
      held_written hsound.positionIds hrow haccount hinstrument hrows
    exact hafterHeld

/-! ### The charge -/

/-- A reservation that accounts for its amounts, none of which is rounded. -/
structure PersistedRiskReservation.Exact (r : PersistedRiskReservation) : Prop where
  conserved : r.Conserved
  initial : OnGrid 28 (-18) r.initialRiskAmount
  consumed : OnGrid 28 (-18) r.consumedRiskAmount
  remaining : OnGrid 28 (-18) r.remainingRiskAmount
  released : OnGrid 28 (-18) r.releasedRiskAmount

/-- A charge that is not rounded and takes no more than there is. -/
structure Consumption.Taken (c : Consumption) (r : PersistedRiskReservation) : Prop where
  reclaimed : OnGrid 28 (-18) c.reclaimed ∧ 0 ≤ c.reclaimed ∧ c.reclaimed ≤ r.releasedRiskAmount
  fromRemaining : OnGrid 28 (-18) c.fromRemaining ∧ 0 ≤ c.fromRemaining ∧ c.fromRemaining ≤ r.remainingRiskAmount

section Charge

variable {r : PersistedRiskReservation} {event : BrokerExecutionEvent} {previous : ℚ}

theorem charge_attributable :
    (charge .exact r event previous).attributable =
      event.price * openedAmount event.side previous event.quantity := by
  show event.price * lotQuantity .exact event.side previous event.quantity = _
  rw [lotQuantity_exact Carries.exact trivial]

theorem charge_taken (hr : r.Exact)
    (hrisk : OnGrid 28 (-18) (event.price * openedAmount event.side previous event.quantity)) :
    (charge .exact r event previous).Taken r := by
  have hc := Carries.decimal28
  have hpos : 0 ≤ event.price * openedAmount event.side previous event.quantity :=
    mul_nonneg event.terms.2.le (openedAmount_nonneg event.terms.1.le)
  rw [← charge_attributable (r := r)] at hrisk hpos
  set a := (charge .exact r event previous).attributable
  have hreclaimed : OnGrid 28 (-18) (min r.releasedRiskAmount a) := hc.min hr.released hrisk
  have hreclaimed0 : 0 ≤ min r.releasedRiskAmount a := le_min hr.conserved.released hpos
  have hrest : OnGrid 28 (-18) (a - min r.releasedRiskAmount a) :=
    hc.sub _ _ hrisk hreclaimed hreclaimed0 (min_le_right _ _)
  have hrest0 : 0 ≤ a - min r.releasedRiskAmount a := sub_nonneg.mpr (min_le_right _ _)
  exact ⟨⟨hreclaimed, hreclaimed0, min_le_left _ _⟩,
    ⟨hc.min hr.remaining hrest, le_min hr.conserved.remaining hrest0, min_le_left _ _⟩⟩

/-- No operation of the charge rounds. -/
theorem charge_exact (hr : r.Exact) (hnext : OnGrid 28 (-18) (exactNext previous event.side event.quantity))
    (hrisk : OnGrid 28 (-18) (event.price * openedAmount event.side previous event.quantity)) :
    charge .decimal28 r event previous = charge .exact r event previous := by
  have hc := Carries.decimal28
  have hpos : 0 ≤ event.price * openedAmount event.side previous event.quantity :=
    mul_nonneg event.terms.2.le (openedAmount_nonneg event.terms.1.le)
  have hrest : OnGrid 28 (-18) (event.price * openedAmount event.side previous event.quantity -
      min r.releasedRiskAmount (event.price * openedAmount event.side previous event.quantity)) :=
    hc.sub _ _ hrisk (hc.min hr.released hrisk) (le_min hr.conserved.released hpos) (min_le_right _ _)
  unfold charge consumption riskIncreaseQuantity
  rw [lotQuantity_exact hc hnext, lotQuantity_exact Carries.exact trivial]
  dsimp only
  rw [hc.fix _ hrisk, hc.fix _ hrest]
  rfl

variable {c : Consumption}

theorem Consumption.Taken.sum (h : c.Taken r) (hr : r.Exact) : OnGrid 28 (-18) (c.reclaimed + c.fromRemaining) := by
  obtain ⟨hreclaimed, hreclaimed0, hreclaimedLe⟩ := h.reclaimed
  obtain ⟨hremaining, hremaining0, hremainingLe⟩ := h.fromRemaining
  have hparts := hr.conserved.parts
  have hconsumed := hr.conserved.consumed
  exact Carries.decimal28.add hreclaimed hremaining hr.initial hreclaimed0 hremaining0 (by linarith)

theorem Consumption.Taken.consumed (h : c.Taken r) (hr : r.Exact) : c.consumed .decimal28 = c.consumed .exact :=
  Carries.decimal28.fix _ (h.sum hr)

theorem Consumption.Taken.incidents (h : c.Taken r) (hr : r.Exact) (orderId : UUID) (observedAt : Instant) :
    consumptionIncidents .decimal28 orderId c observedAt = consumptionIncidents .exact orderId c observedAt := by
  unfold consumptionIncidents
  rw [h.consumed hr]

/-- The reservation after the charge is written as it is. -/
theorem Consumption.Taken.stored (h : c.Taken r) (hr : r.Exact) :
    (r.consume .decimal28 c).store .decimal28 = .ok (r.consume .exact c) ∧ (r.consume .exact c).Exact := by
  have hc := Carries.decimal28
  obtain ⟨hreclaimed, hreclaimed0, hreclaimedLe⟩ := h.reclaimed
  obtain ⟨hfrom, hfrom0, hfromLe⟩ := h.fromRemaining
  obtain ⟨hparts, hconsumed0, hremaining0, hreleased0⟩ := hr.conserved
  have hremaining : OnGrid 28 (-18) (r.remainingRiskAmount - c.fromRemaining) :=
    hc.sub _ _ hr.remaining hfrom hfrom0 hfromLe
  have hreleased : OnGrid 28 (-18) (r.releasedRiskAmount - c.reclaimed) :=
    hc.sub _ _ hr.released hreclaimed hreclaimed0 hreclaimedLe
  have hconsumed : OnGrid 28 (-18) (r.consumedRiskAmount + (c.reclaimed + c.fromRemaining)) :=
    hc.add hr.consumed (h.sum hr) hr.initial hconsumed0 (by linarith) (by linarith)
  have hsame : r.consume .decimal28 c = r.consume .exact c := by
    unfold PersistedRiskReservation.consume
    rw [h.consumed hr, hc.fix _ hremaining, hc.fix _ hreleased]
    have hfix : Arithmetic.decimal28.fix (r.consumedRiskAmount + c.consumed .exact) =
        r.consumedRiskAmount + c.consumed .exact := hc.fix _ hconsumed
    rw [hfix]
    rfl
  have hexact : (r.consume .exact c).Exact := by
    refine ⟨⟨?_, ?_, ?_, ?_⟩, hr.initial, hconsumed, hremaining, hreleased⟩
    · show r.initialRiskAmount = r.consumedRiskAmount + (c.reclaimed + c.fromRemaining) +
        (r.remainingRiskAmount - c.fromRemaining) + (r.releasedRiskAmount - c.reclaimed)
      linarith
    · show 0 ≤ r.consumedRiskAmount + (c.reclaimed + c.fromRemaining)
      linarith
    · exact sub_nonneg.mpr hfromLe
    · exact sub_nonneg.mpr hreclaimedLe
  refine ⟨?_, hexact⟩
  rw [hsame]
  unfold PersistedRiskReservation.store
  rw [hc.store _ hexact.consumed, hc.store _ hexact.remaining, hc.store _ hexact.released]
  simp only [ok_bind]
  rw [if_neg]
  · rfl
  · rintro (hneg | hneg | hneg | hneg)
    · exact absurd hexact.conserved.consumed (not_le.mpr hneg)
    · exact absurd hexact.conserved.remaining (not_le.mpr hneg)
    · exact absurd hexact.conserved.released (not_le.mpr hneg)
    · exact hneg hexact.conserved.parts.symm

/-- An anchor with room for the charge takes it. -/
theorem Consumption.Taken.anchor (h : c.Taken r) {anchor : RiskBudgetAnchor}
    (hremaining : OnGrid 28 (-18) anchor.remainingReservationAmount)
    (hcovers : r.remainingRiskAmount ≤ anchor.remainingReservationAmount)
    (hposition : OnGrid 28 (-18) (anchor.positionRiskAmount + c.attributable))
    (hposition0 : 0 ≤ anchor.positionRiskAmount + c.attributable) :
    (anchor.consume .decimal28 c).store .decimal28 = .ok (anchor.consume .exact c) := by
  have hc := Carries.decimal28
  obtain ⟨hfrom, hfrom0, hfromLe⟩ := h.fromRemaining
  have hleft : OnGrid 28 (-18) (anchor.remainingReservationAmount - c.fromRemaining) :=
    hc.sub _ _ hremaining hfrom hfrom0 (hfromLe.trans hcovers)
  have hsame : anchor.consume .decimal28 c = anchor.consume .exact c := by
    unfold RiskBudgetAnchor.consume
    rw [hc.fix _ hleft, hc.fix _ hposition]
    rfl
  have hstoredPosition : Arithmetic.decimal28.store (anchor.consume .exact c).positionRiskAmount =
      .ok (anchor.positionRiskAmount + c.attributable) := hc.store _ hposition
  have hstoredRemaining : Arithmetic.decimal28.store (anchor.consume .exact c).remainingReservationAmount =
      .ok (anchor.remainingReservationAmount - c.fromRemaining) := hc.store _ hleft
  rw [hsame]
  unfold RiskBudgetAnchor.store
  rw [hstoredPosition, hstoredRemaining]
  simp only [ok_bind]
  rw [if_neg]
  · rfl
  · rintro (hneg | hneg)
    · linarith
    · linarith

end Charge

end AutoTrader.Ledger
