import AutoTrader.Ledger.BookInvariant
import AutoTrader.Ledger.WriterEffects
import Mathlib.Tactic.NormNum

/-! The position ledger over whole runs. Of all transactions only an execution that is new
moves positions, lots and lifecycles, and it keeps them in step. -/

namespace AutoTrader.Ledger

open AutoTrader.Dispatch AutoTrader.Domain AutoTrader.Execution AutoTrader.Numeric AutoTrader.Runtime

variable {arith : Arithmetic} {hashes : AdoptionHashes} {carried : ℚ → Prop}

/-- Only an execution adds fills and moves the book. -/
theorem perform_fills_book {t after : Tables} {event : LedgerEvent} (hother : ∀ fill, event ≠ .fill fill)
    (h : perform arith hashes t event = .ok after) : after.fills = t.fills ∧ after.book = t.book := by
  cases event with
  | fill fill => exact absurd rfl (hother fill)
  | status event =>
    obtain ⟨⟨after, outcome⟩, happly, rfl⟩ := map_ok h
    exact ⟨(StatusOnly.event happly).fills, (StatusOnly.event happly).book⟩
  | release orderId brokerId sourcePartition now =>
    obtain ⟨⟨after, result⟩, hrelease, rfl⟩ := map_ok h
    rcases releaseIfComplete_ok hrelease with rfl | ⟨_, _, _, _, -, -, -, -, hreleased⟩
    · exact ⟨rfl, rfl⟩
    · obtain ⟨_, _, -, -, rfl⟩ := release_ok hreleased
      exact ⟨rfl, rfl⟩
  | checkpoint key checkpoint =>
    obtain ⟨streams, scopes, rfl⟩ := recordClosedIntervalCheckpoint_ok h
    exact ⟨rfl, rfl⟩
  | approve decision reservation accountId currency =>
    obtain ⟨_, _, _, _, _, -, -, -, -, ⟨-, -, _, -, rfl⟩ | ⟨-, rfl⟩⟩ := persistApproval_ok h <;> exact ⟨rfl, rfl⟩
  | createOrder order event =>
    obtain ⟨_, rfl | ⟨rfl, -⟩⟩ := createApprovedOrder_ok h <;> exact ⟨rfl, rfl⟩
  | accept acceptance =>
    obtain rfl | ⟨_, rfl, -⟩ := linkAccepted_ok h <;> exact ⟨rfl, rfl⟩
  | adopt adoption ids =>
    obtain ⟨⟨after, result⟩, hadopt, rfl⟩ := map_ok h
    obtain rfl | ⟨_, _, _, _, hbooked⟩ := adoptOpenOrder_ok hadopt
    · exact ⟨rfl, rfl⟩
    · exact ⟨hbooked.fills, hbooked.book⟩

theorem perform_book {t after : Tables} {event : LedgerEvent} (hother : ∀ fill, event ≠ .fill fill)
    (h : perform arith hashes t event = .ok after) : after.book = t.book :=
  (perform_fills_book hother h).2

/-! ### Executions -/

theorem Book.Sound.draw {b : Book} (h : b.Sound carried) : { b with drawn := b.drawn + 1 }.Sound carried where
  positions p hp := (h.positions p hp).congr rfl rfl
  positionIds := h.positionIds
  lifecycleIds := h.lifecycleIds
  positionDrawn p hp := Nat.lt_succ_of_lt (h.positionDrawn p hp)
  lotDrawn lot hlot := Nat.lt_succ_of_lt (h.lotDrawn lot hlot)
  lifecycleDrawn row hrow :=
    ⟨Nat.lt_succ_of_lt (h.lifecycleDrawn row hrow).1, Nat.lt_succ_of_lt (h.lifecycleDrawn row hrow).2⟩

/-- An execution that is new has a size and leads to a quantity that are carried. -/
def FillCarried (carried : ℚ → Prop) (t : Tables) : LedgerEvent → Prop
  | .fill event => t.fill? event = none → carried event.quantity ∧
      carried (exactNext (t.book.held event.accountId event.instrumentId) event.side event.quantity)
  | _ => True

theorem perform_sound (hc : Carries arith carried) {t after : Tables} {event : LedgerEvent}
    (hs : t.book.Sound carried) (hcarried : FillCarried carried t event)
    (h : perform arith hashes t event = .ok after) : after.book.Sound carried := by
  by_cases hfill : ∃ fill, event = .fill fill
  · obtain ⟨fill, rfl⟩ := hfill
    obtain ⟨⟨after, result⟩, happly, rfl⟩ := map_ok h
    rcases applyEventOnce_ok happly with ⟨-, existing, -, rfl | rfl⟩ | ⟨-, anchors, order, stored, happlied⟩
    · exact hs
    · exact hs
    · obtain ⟨hquantity, hnext⟩ := hcarried happlied.unrecorded
      exact applyToPosition_sound hc hs.draw hquantity hnext happlied.book
  · rw [perform_book (fun fill heq => hfill ⟨fill, heq⟩) h]
    exact hs

theorem runFrom_sound (hc : Carries arith carried) {t : Tables} {events : List LedgerEvent}
    (hs : t.book.Sound carried) (hcarried : RunMeets (step arith hashes) (FillCarried carried) t events) :
    (runFrom (step arith hashes) t events).book.Sound carried :=
  run_invariant (fun _ _ hs hcarried => step_keeps hs fun _ => perform_sound hc hs hcarried) hs hcarried

/-! ### The missing lifecycle -/

theorem closeInOrder_error {lots : List PersistedPositionLot} {n : ℚ} {e : PyError}
    (h : closeInOrder arith lots n = .error e) : e.kind = .databaseError := by
  induction lots generalizing n with
  | nil => cases h
  | cons lot rest ih =>
    rcases bind_error.mp h with hstore | ⟨stored, -, h⟩
    · exact arith.store_error _ _ hstore
    rcases bind_error.mp h with hrest | ⟨others, -, h⟩
    · split at hrest
      · cases hrest
      · exact ih hrest
    · cases h

theorem openLot_error {b : Book} {positionId fillId : RowId} {quantity : ℚ} {openedAt : Instant} {e : PyError}
    (h : openLot arith b positionId fillId quantity openedAt = .error e) : e.kind = .databaseError := by
  unfold openLot at h
  split at h
  · rcases bind_error.mp h with hstore | ⟨stored, -, h⟩
    · exact arith.store_error _ _ hstore
    · split at h
      · rw [← Except.error.inj h]
      · cases h
  · cases h

/-- In a sound book only a column refuses an execution: an open position has its lifecycle. -/
theorem applyToPosition_error {b : Book} {fillId : RowId} {event : BrokerExecutionEvent} {e : PyError}
    (hs : b.Sound carried) (hzero : carried 0) (h : applyToPosition arith b fillId event = .error e) :
    e.kind = .databaseError := by
  have hposition : Found carried b event (positionFor b event).1 (positionFor b event).2 := positionFor_found hs hzero
  obtain ⟨hfound, -, row, hrow, hrowId, hrowQuantity⟩ := hposition
  unfold applyToPosition at h
  generalize positionFor b event = found at h hfound hrow hrowId hrowQuantity
  obtain ⟨p, b₁⟩ := found
  dsimp only at h hfound hrow hrowId hrowQuantity
  have hcons : Consistent carried b₁ p.id p.quantity := by
    have hcons := hfound.positions row hrow
    rwa [hrowId, hrowQuantity] at hcons
  rcases bind_error.mp h with hposition | ⟨positions, -, h⟩
  · rcases bind_error.mp hposition with hstore | ⟨quantity, -, hposition⟩
    · exact arith.store_error _ _ hstore
    rcases bind_error.mp hposition with hstore | ⟨averageCost, -, hposition⟩
    · exact arith.store_error _ _ hstore
    · cases hposition
  rcases bind_error.mp h with hlots | ⟨lots, -, h⟩
  · split at hlots
    · rcases bind_error.mp hlots with hclose | ⟨closed, -, hlots⟩
      · exact closeInOrder_error hclose
      · cases hlots
    · cases hlots
  rcases bind_error.mp h with htransition | ⟨transition, -, h⟩
  · obtain ⟨hopen, hnone⟩ := transition_error htransition
    have hactive : (b₁.openLifecycles p.id).length = 1 := hcons.one_active hopen
    have hempty : b₁.openLifecycles p.id = [] := List.head?_eq_none_iff.mp (Option.map_eq_none_iff.mp hnone)
    rw [hempty] at hactive
    cases hactive
  · exact openLot_error h

theorem PersistedRiskReservation.store_error {r : PersistedRiskReservation} {e : PyError}
    (h : r.store arith = .error e) : e.kind = .databaseError := by
  rcases bind_error.mp h with hstore | ⟨_, -, h⟩
  · exact arith.store_error _ _ hstore
  rcases bind_error.mp h with hstore | ⟨_, -, h⟩
  · exact arith.store_error _ _ hstore
  rcases bind_error.mp h with hstore | ⟨_, -, h⟩
  · exact arith.store_error _ _ hstore
  split at h
  · rw [← Except.error.inj h]
  · cases h

theorem writeAnchors_error {anchors : List RiskBudgetAnchor} {locked : RiskBudgetAnchor × RiskBudgetAnchor}
    {change : RiskBudgetAnchor → RiskBudgetAnchor} {e : PyError}
    (h : writeAnchors arith anchors locked change = .error e) : e.kind = .databaseError := by
  have hanchor : ∀ {anchor : RiskBudgetAnchor}, anchor.store arith = .error e → e.kind = .databaseError := by
    intro anchor h
    rcases bind_error.mp h with hstore | ⟨_, -, h⟩
    · exact arith.store_error _ _ hstore
    rcases bind_error.mp h with hstore | ⟨_, -, h⟩
    · exact arith.store_error _ _ hstore
    split at h
    · rw [← Except.error.inj h]
    · cases h
  rcases bind_error.mp h with hglobal | ⟨_, -, h⟩
  · exact hanchor hglobal
  rcases bind_error.mp h with haccount | ⟨_, -, h⟩
  · exact hanchor haccount
  · cases h

/-- No execution finds an open position without its lifecycle. -/
theorem applyEventOnce_lifecycle {t : Tables} {event : BrokerExecutionEvent} (hs : t.book.Sound carried)
    (hzero : carried 0) : applyEventOnce arith t event ≠ .error missingLifecycle := by
  have hkind : missingLifecycle.kind ≠ .databaseError := by decide
  intro h
  rcases bind_error.mp h with hlock | ⟨⟨anchors, order⟩, -, h⟩
  · unfold lockForFill at hlock
    split at hlock
    · simp [missingLifecycle] at hlock
    split at hlock
    · simp [missingLifecycle] at hlock
    split at hlock
    · simp [missingLifecycle] at hlock
    split at hlock
    · cases hlock
    · simp [missingLifecycle] at hlock
  rcases bind_error.mp h with hpersist | ⟨⟨t₁, persisted, outcome⟩, hpersist, h⟩
  · unfold persistOnce at hpersist
    split at hpersist
    · split at hpersist <;> cases hpersist
    · dsimp only at hpersist
      split at hpersist
      · cases hpersist
      · simp [missingLifecycle] at hpersist
  dsimp only at h
  split at h
  · cases h
  rename_i hinserted
  have hsound : t₁.book.Sound carried := by
    rcases persistOnce_ok hpersist with ⟨-, -, -, rfl⟩ | ⟨hseen, -⟩
    · exact hs.draw
    · exact absurd hseen hinserted
  rcases bind_error.mp h with hfill | ⟨t₂, hfill, h⟩
  · rcases bind_error.mp hfill with hstore | ⟨stored, -, hfill⟩
    · exact hkind (arith.store_error _ _ hstore)
    · cases hfill
  have hbook : (advanceStream t₂ event).book = t₁.book := by
    obtain ⟨stored, -, hfill⟩ := bind_ok.mp hfill
    rw [advanceStream_eq, ← Except.ok.inj hfill]
    rfl
  rcases bind_error.mp h with hposition | ⟨book, -, h⟩
  · rw [hbook] at hposition
    exact hkind (applyToPosition_error hsound hzero hposition)
  rcases bind_error.mp h with hconsume | ⟨t₃, -, h⟩
  · unfold consumeReservation at hconsume
    split at hconsume
    · cases hconsume
    rcases bind_error.mp hconsume with hstore | ⟨kept, -, hconsume⟩
    · exact hkind (PersistedRiskReservation.store_error hstore)
    rcases bind_error.mp hconsume with hwritten | ⟨written, -, hconsume⟩
    · exact hkind (writeAnchors_error hwritten)
    · cases hconsume
  · cases h

/-! ### Runs -/

/-- Lots, lifecycles and quantity of every position agree. -/
structure PositionLedger (b : Book) : Prop where
  lots : ∀ p ∈ b.positions, (remaining (b.lotsOf p.id)).sum = max 0 p.quantity
  active : ∀ p ∈ b.positions, (b.openLifecycles p.id).length = if p.quantity = 0 then 0 else 1
  ordinals : ∀ p ∈ b.positions, ((b.lifecyclesOf p.id).map (·.lifecycleOrdinal)).Pairwise (· < ·)

theorem Book.Sound.ledger {b : Book} (h : b.Sound carried) : PositionLedger b where
  lots p hp := (h.positions p hp).lots
  active p hp := (h.positions p hp).active
  ordinals p hp := (h.positions p hp).ordinals

def NothingHeld (b : Book) : Prop :=
  b.positions = [] ∧ b.lots = [] ∧ b.lifecycles = []

theorem NothingHeld.sound {b : Book} (h : NothingHeld b) : b.Sound carried := by
  obtain ⟨hpositions, hlots, hlifecycles⟩ := h
  constructor <;> simp [hpositions, hlots, hlifecycles]

theorem onGrid_zero : OnGrid 28 (-18) 0 := ⟨0, by norm_num, by norm_num⟩

/-- From a book without rows, in any order of transactions, as long as the sizes and the
quantities they lead to fit twenty-eight digits and eighteen decimals. -/
theorem positionLedger_run (hashes : AdoptionHashes) (t : Tables) (hnothing : NothingHeld t.book)
    (events : List LedgerEvent)
    (hcarried : RunMeets (step .decimal28 hashes) (FillCarried (OnGrid 28 (-18))) t events) :
    PositionLedger (runFrom (step .decimal28 hashes) t events).book ∧
      ∀ event, applyEventOnce .decimal28 (runFrom (step .decimal28 hashes) t events) event ≠
        .error missingLifecycle := by
  have hsound := runFrom_sound Carries.decimal28 (hnothing.sound) hcarried
  exact ⟨hsound.ledger, fun event => applyEventOnce_lifecycle hsound onGrid_zero⟩

/-- A buying and a selling order of the sample account. -/
private def bothSides (quantity : ℚ) : Tables :=
  sampleTables
    [sampleOrder .buy quantity,
      { sampleOrder .sell quantity with
        id := rowUuid 13, orderIntentId := rowUuid 16, brokerClientOrderId := "client-2" }]
    [sampleLink (rowUuid 3) "ACKNOWLEDGED",
      { sampleLink (rowUuid 13) "ACKNOWLEDGED" with id := rowUuid 17, brokerOrderId := "B2" }]

private def bought (executionId : String) (quantity : ℚ) (h : 0 < quantity) : LedgerEvent :=
  .fill (sampleFill (rowUuid 3) executionId .buy quantity h)

private def sold (executionId : String) (quantity : ℚ) (h : 0 < quantity) : LedgerEvent :=
  .fill { sampleFill (rowUuid 13) executionId .sell quantity h with brokerOrderId := "B2" }

/-- Three are bought and five sold, through zero. -/
theorem positionLedger_run_through_zero :
    PositionLedger (runFrom (step .decimal28 noHashes) (bothSides 10)
      [bought "1" 3 rat_three_pos, sold "2" 5 rat_five_pos]).book := by
  have hheld : (step .decimal28 noHashes (bothSides 10) (bought "1" 3 rat_three_pos)).book.held (rowUuid 2)
      (rowUuid 4) = 3 := by decide +kernel
  refine (positionLedger_run noHashes (bothSides 10) ⟨rfl, rfl, rfl⟩
    [bought "1" 3 rat_three_pos, sold "2" 5 rat_five_pos] ⟨fun _ => ⟨?_, ?_⟩, fun _ => ⟨?_, ?_⟩, trivial⟩).1
  · exact ⟨3 * 10 ^ 18, by norm_num [sampleFill], by norm_num⟩
  · exact ⟨3 * 10 ^ 18, by norm_num [sampleFill, bothSides, sampleTables, noTables, Book.held, Book.position?, exactNext], by norm_num⟩
  · exact ⟨5 * 10 ^ 18, by norm_num [sampleFill], by norm_num⟩
  · refine ⟨-2 * 10 ^ 18, ?_, by norm_num⟩
    show exactNext ((step .decimal28 noHashes (bothSides 10) (bought "1" 3 rat_three_pos)).book.held (rowUuid 2)
      (rowUuid 4)) .sell 5 = _
    rw [hheld]
    norm_num [exactNext]

/-- After `10 ^ 11` the last of eighteen decimals is lost in the quantity and kept in the lots. -/
theorem positionLedger_fails_rounded :
    ¬∀ (t : Tables) (events : List LedgerEvent), NothingHeld t.book →
      PositionLedger (runFrom (step .decimal28 noHashes) t events).book := by
  intro h
  have hlots := (h (bothSides (10 ^ 12))
    [bought "1" (10 ^ 11) (by norm_num), bought "2" (1 / 10 ^ 18) (by norm_num)] ⟨rfl, rfl, rfl⟩).lots
  revert hlots
  decide +kernel

end AutoTrader.Ledger
