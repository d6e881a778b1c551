import AutoTrader.Ledger.PositionMoves
import AutoTrader.Ledger.PositionRuns

/-! Which fills the lots and the lifecycles of a position go back to, over whole runs. A lot is under
the fill that bought it and never leaves its position, so the lots of a row outlive the lifecycle
they were bought in. -/

namespace AutoTrader.Ledger

open AutoTrader.Dispatch AutoTrader.Domain AutoTrader.Execution AutoTrader.Numeric AutoTrader.Runtime

variable {arith : Arithmetic} {carried : ℚ → Prop} {b after : Book} {event : BrokerExecutionEvent}

/-- The position of a lot and the fill that opened it. -/
def PersistedPositionLot.origin (lot : PersistedPositionLot) : RowId × RowId :=
  (lot.positionId, lot.openingFillId)

/-! ### Lots -/

theorem closeInOrder_origins {lots closed : List PersistedPositionLot} {n : ℚ}
    (h : closeInOrder arith lots n = .ok closed) :
    closed.map PersistedPositionLot.origin = lots.map PersistedPositionLot.origin := by
  induction lots generalizing n closed with
  | nil =>
    rw [← Except.ok.inj h]
  | cons lot rest ih =>
    obtain ⟨stored, -, h⟩ := bind_ok.mp h
    obtain ⟨others, hothers, h⟩ := bind_ok.mp h
    rw [← Except.ok.inj h, List.map_cons, List.map_cons]
    have hrest : others.map PersistedPositionLot.origin = rest.map PersistedPositionLot.origin := by
      split at hothers
      · rw [← Except.ok.inj hothers]
      · exact ih hothers
    rw [hrest]
    rfl

/-- Closing lots takes none away and gives none another origin. -/
theorem closeLots_origins {lots closed : List PersistedPositionLot} {positionId : RowId} {n : ℚ}
    (h : closeLots arith lots positionId n = .ok closed) (origin : RowId × RowId) :
    origin ∈ closed.map PersistedPositionLot.origin ↔ origin ∈ lots.map PersistedPositionLot.origin := by
  obtain ⟨taken, htaken, h⟩ := bind_ok.mp h
  have hperm := (List.perm_insertionSort LotOrder (lots.filter (selected positionId))).map PersistedPositionLot.origin
  rw [← Except.ok.inj h, List.map_append, List.mem_append, closeInOrder_origins htaken, hperm.mem_iff]
  simp only [List.mem_map, List.mem_filter]
  constructor
  · rintro (⟨lot, ⟨hlot, -⟩, rfl⟩ | ⟨lot, ⟨hlot, -⟩, rfl⟩)
    · exact ⟨lot, hlot, rfl⟩
    · exact ⟨lot, hlot, rfl⟩
  · rintro ⟨lot, hlot, rfl⟩
    by_cases hselected : selected positionId lot = true
    · exact .inr ⟨lot, ⟨hlot, hselected⟩, rfl⟩
    · exact .inl ⟨lot, ⟨hlot, by simp [hselected]⟩, rfl⟩

theorem openLot_origins (hc : Carries arith carried) {positionId fillId : RowId} {quantity : ℚ} {openedAt : Instant}
    (hquantity : 0 < quantity → carried quantity)
    (h : openLot arith b positionId fillId quantity openedAt = .ok after) (origin : RowId × RowId) :
    after.lifecycles = b.lifecycles ∧
      (origin ∈ after.lots.map PersistedPositionLot.origin ↔
        origin ∈ b.lots.map PersistedPositionLot.origin ∨ (0 < quantity ∧ origin = (positionId, fillId))) := by
  unfold openLot at h
  split at h
  · rename_i hpos
    obtain ⟨stored, hstored, h⟩ := bind_ok.mp h
    rw [hc.store _ (hquantity hpos)] at hstored
    rw [← Except.ok.inj hstored, if_neg (not_le.mpr hpos)] at h
    rw [← Except.ok.inj h]
    refine ⟨rfl, ?_⟩
    rw [List.map_append, List.mem_append, List.map_singleton, List.mem_singleton]
    exact or_congr_right ⟨fun horigin => ⟨hpos, horigin⟩, fun horigin => horigin.2⟩
  · rename_i hzero
    rw [← Except.ok.inj h]
    exact ⟨rfl, iff_of_eq (by simp [hzero])⟩

/-! ### Lifecycles -/

/-- The rows of lifecycles after an execution: those there were, closed or as they were, and perhaps
one that opened. -/
structure Continued (b after : Book) (positionId fillId : RowId) (opens : Prop) : Prop where
  rows : ∃ write : PersistedPositionLifecycle → PersistedPositionLifecycle,
    (∀ row, (write row).positionId = row.positionId ∧ (write row).openingFillId = row.openingFillId ∧
      ((write row).closedAt = none → row.closedAt = none)) ∧
    ((¬opens ∧ after.lifecycles = b.lifecycles.map write) ∨
      ∃ opened, opens ∧ after.lifecycles = b.lifecycles.map write ++ [opened] ∧ opened.positionId = positionId ∧
        opened.openingFillId = fillId ∧ opened.closedAt = none)

theorem closeActive_writes (b : Book) (positionId fillId : RowId) (executedAt : Instant) :
    ∃ write : PersistedPositionLifecycle → PersistedPositionLifecycle,
      (∀ row, (write row).positionId = row.positionId ∧ (write row).openingFillId = row.openingFillId ∧
        ((write row).closedAt = none → row.closedAt = none)) ∧
      closeActive b positionId fillId executedAt = b.lifecycles.map write := by
  unfold closeActive
  split
  · rename_i active _
    refine ⟨fun row => if row.id = active.id then row.closedBy fillId executedAt else row, fun row => ?_, rfl⟩
    dsimp only
    split
    · exact ⟨rfl, rfl, nofun⟩
    · exact ⟨rfl, rfl, id⟩
  · exact ⟨id, fun _ => ⟨rfl, rfl, id⟩, (List.map_id _).symm⟩

theorem transition_openingFill {positionId fillId : RowId} {previous quantity : ℚ} {side : Side} {executedAt : Instant}
    {nextOrdinal : Nat} {active : Option PositionLifecycle} {transition : PositionLifecycleTransition}
    {opened : PositionLifecycle}
    (h : applyLifecycleTransition arith positionId previous side quantity fillId executedAt nextOrdinal active =
      .ok transition) (hopened : transition.opened = some opened) : opened.openingFillId = fillId := by
  unfold applyLifecycleTransition at h
  dsimp only at h
  split at h
  · rw [← Except.ok.inj h] at hopened
    rw [← Option.some.inj hopened]
  split at h
  · split at h
    · cases h
    · rw [← Except.ok.inj h] at hopened
      dsimp only at hopened
      split at hopened
      · rw [← Option.some.inj hopened]
      · cases hopened
  · rw [← Except.ok.inj h] at hopened
    cases hopened

theorem writeTransition_continued (b : Book) {positionId fillId : RowId} (executedAt : Instant)
    {transition : PositionLifecycleTransition} (hopened : ∀ opened, transition.opened = some opened →
      opened.positionId = positionId ∧ opened.openingFillId = fillId ∧ opened.closedAt = none) :
    Continued b (writeTransition b positionId fillId executedAt transition) positionId fillId
      transition.opened.isSome := by
  obtain ⟨write, hwrite, hrows⟩ : ∃ write : PersistedPositionLifecycle → PersistedPositionLifecycle,
      (∀ row, (write row).positionId = row.positionId ∧ (write row).openingFillId = row.openingFillId ∧
        ((write row).closedAt = none → row.closedAt = none)) ∧
      (if transition.closed.isSome then closeActive b positionId fillId executedAt else b.lifecycles) =
        b.lifecycles.map write := by
    split
    · exact closeActive_writes b positionId fillId executedAt
    · exact ⟨id, fun _ => ⟨rfl, rfl, id⟩, (List.map_id _).symm⟩
  refine ⟨write, hwrite, ?_⟩
  unfold writeTransition
  dsimp only
  rw [hrows]
  cases hnew : transition.opened with
  | none => exact .inl ⟨by simp, rfl⟩
  | some opened =>
    obtain ⟨hposition, hfill, hclosed⟩ := hopened opened hnew
    exact .inr ⟨_, rfl, rfl, hposition, hfill, hclosed⟩

/-! ### One execution -/

/-- What an execution does to lots and lifecycles, by where they go back to. -/
theorem applyToPosition_lineage (hc : Carries arith carried) {fillId : RowId} (hs : b.Sound carried)
    (hquantity : carried event.quantity)
    (hnext : carried (exactNext (b.held event.accountId event.instrumentId) event.side event.quantity))
    (h : applyToPosition arith b fillId event = .ok after) :
    (∀ origin, origin ∈ after.lots.map PersistedPositionLot.origin ↔ origin ∈ b.lots.map PersistedPositionLot.origin ∨
      (0 < openedAmount event.side (b.held event.accountId event.instrumentId) event.quantity ∧
        origin = ((positionFor b event).1.id, fillId))) ∧
    Continued b after (positionFor b event).1.id fillId
      (exactNext (b.held event.accountId event.instrumentId) event.side event.quantity ≠ 0 ∧
        (b.held event.accountId event.instrumentId = 0 ∨ b.held event.accountId event.instrumentId *
          exactNext (b.held event.accountId event.instrumentId) event.side event.quantity < 0)) := by
  have hpos : 0 ≤ event.quantity := event.terms.1.le
  have hfound : Found carried b event (positionFor b event).1 (positionFor b event).2 :=
    positionFor_found hs (hc.zero hquantity hpos)
  have hkept : (positionFor b event).2.lots = b.lots ∧ (positionFor b event).2.lifecycles = b.lifecycles := by
    unfold positionFor
    split <;> exact ⟨rfl, rfl⟩
  unfold applyToPosition at h
  generalize positionFor b event = found at h hfound hkept ⊢
  obtain ⟨p, b₁⟩ := found
  dsimp only at h hfound hkept ⊢
  obtain ⟨positions, -, h⟩ := bind_ok.mp h
  obtain ⟨lots, hlots, h⟩ := bind_ok.mp h
  obtain ⟨transition, htransition, h⟩ := bind_ok.mp h
  obtain ⟨hprevious, -, hopens, -⟩ := transition_shape htransition
  rw [← hfound.quantity] at hnext ⊢
  rw [hprevious, lotQuantity_exact hc hnext] at h
  rw [nextQuantity_exact hc hquantity hnext] at hopens
  obtain ⟨-, hwrittenLots, -⟩ :=
    writeTransition_eq { b₁ with positions := positions, lots := lots } p.id fillId event.executedAt transition
  have horigins := openLot_origins hc (fun _ => openedAmount_carried hc hpos hquantity hnext) h
  have hlotOrigins : ∀ origin, origin ∈ lots.map PersistedPositionLot.origin ↔
      origin ∈ b.lots.map PersistedPositionLot.origin := by
    intro origin
    rw [← hkept.1]
    split at hlots
    · exact closeLots_origins hlots origin
    · rw [Except.ok.inj hlots]
  have hcontinued := writeTransition_continued { b₁ with positions := positions, lots := lots } event.executedAt
    fun opened hopened => ⟨(transition_opened htransition hopened).1, transition_openingFill htransition hopened,
      (transition_opened htransition hopened).2.2⟩
  have hends : transition.opened.isSome ↔ exactNext p.quantity event.side event.quantity ≠ 0 ∧
      (p.quantity = 0 ∨ p.quantity * exactNext p.quantity event.side event.quantity < 0) := by
    rw [hopens]
    refine and_congr_right fun hnonzero => or_congr_right ?_
    unfold ends
    rw [arith.fix_neg]
    refine ⟨fun hends => hends.2.resolve_left hnonzero, fun hneg => ⟨?_, .inr hneg⟩⟩
    intro hzero
    rw [hzero, zero_mul] at hneg
    exact lt_irrefl _ hneg
  refine ⟨fun origin => ?_, ?_⟩
  · rw [(horigins origin).2, hwrittenLots]
    exact or_congr_left (hlotOrigins origin)
  · obtain ⟨write, hwrite, hrows⟩ := hcontinued.rows
    refine ⟨write, hwrite, ?_⟩
    rw [(horigins (p.id, fillId)).1, ← hkept.2, ← hends]
    exact hrows

/-! ### What runs keep -/

/-- The fill of an id is a purchase. -/
def Bought (fills : List PersistedFill) (fillId : RowId) : Prop :=
  ∃ f ∈ fills, f.id = fillId ∧ f.side = .buy

/-- Lots and lifecycles go back to fills, and the lots of a position to its long lifecycles. -/
structure Lineage (carried : ℚ → Prop) (t : Tables) : Prop where
  sound : t.book.Sound carried
  fillDrawn : ∀ f ∈ t.fills, f.id < t.book.drawn
  openingDrawn : ∀ row ∈ t.book.lifecycles, row.openingFillId < t.book.drawn
  lotFill : ∀ lot ∈ t.book.lots, ∃ f ∈ t.fills, f.id = lot.openingFillId
  lotLifecycle : ∀ lot ∈ t.book.lots, ∃ row ∈ t.book.lifecycles, row.positionId = lot.positionId ∧
    row.openingFillId ≤ lot.openingFillId ∧ Bought t.fills row.openingFillId
  longLot : ∀ row ∈ t.book.lifecycles, Bought t.fills row.openingFillId →
    (row.positionId, row.openingFillId) ∈ t.book.lots.map PersistedPositionLot.origin
  ordered : ∀ closed ∈ t.book.lifecycles, ∀ active ∈ t.book.lifecycles, closed.positionId = active.positionId →
    closed.closedAt ≠ none → active.closedAt = none → closed.openingFillId < active.openingFillId
  long : ∀ p ∈ t.book.positions, 0 < p.quantity → ∀ active ∈ t.book.lifecycles, active.positionId = p.id →
    active.closedAt = none → Bought t.fills active.openingFillId

theorem Bought.append {fills : List PersistedFill} {fillId : RowId} (h : Bought fills fillId) (row : PersistedFill) :
    Bought (fills ++ [row]) fillId := by
  obtain ⟨f, hf, hid, hside⟩ := h
  exact ⟨f, List.mem_append_left _ hf, hid, hside⟩

/-- A fill under an id drawn now says nothing of older ids. -/
theorem Bought.of_append {fills : List PersistedFill} {fillId : RowId} {row : PersistedFill}
    (h : Bought (fills ++ [row]) fillId) (hne : fillId ≠ row.id) : Bought fills fillId := by
  obtain ⟨f, hf, hid, hside⟩ := h
  rcases List.mem_append.mp hf with hold | hnew
  · exact ⟨f, hold, hid, hside⟩
  · rw [List.mem_singleton.mp hnew] at hid
    exact absurd hid.symm hne

/-- A purchase that leaves a long position opened a lot. -/
theorem openedAmount_pos {side : Side} {previous quantity : ℚ} (hquantity : 0 < quantity)
    (hbuy : side = .buy) (hnext : 0 < exactNext previous side quantity) : 0 < openedAmount side previous quantity := by
  subst hbuy
  simp only [exactNext, openedAmount, longOpened] at hnext ⊢
  split
  · exact hquantity
  · rw [add_comm]
    exact lt_max_of_lt_right hnext

/-- Only a purchase opens a lot, and it leaves a long position. -/
theorem of_openedAmount_pos {side : Side} {previous quantity : ℚ} (h : 0 < openedAmount side previous quantity) :
    side = .buy ∧ 0 < exactNext previous side quantity := by
  cases side with
  | sell => exact absurd h (lt_irrefl _)
  | buy =>
    refine ⟨rfl, ?_⟩
    simp only [exactNext, openedAmount, longOpened] at h ⊢
    split at h
    · rename_i hprevious
      exact add_pos_of_nonneg_of_pos hprevious h
    · rw [add_comm]
      exact (lt_max_iff.mp h).resolve_left (lt_irrefl _)

/-- The row an execution is about, as it was before: flat when there was none. -/
theorem positionFor_rows (b : Book) (event : BrokerExecutionEvent) :
    ((positionFor b event).2.lifecycles = b.lifecycles ∧ (positionFor b event).2.lots = b.lots) ∧
    (∀ p ∈ (positionFor b event).2.positions, p.id ≠ (positionFor b event).1.id → p ∈ b.positions) ∧
    (b.held event.accountId event.instrumentId ≠ 0 →
      ∃ p ∈ b.positions, p.id = (positionFor b event).1.id ∧ p.quantity = b.held event.accountId event.instrumentId) := by
  unfold positionFor Book.held
  cases hfound : b.position? event.accountId event.instrumentId with
  | some p =>
    have hmem : p ∈ b.positions := List.mem_of_find?_eq_some hfound
    dsimp only
    split
    · exact ⟨⟨rfl, rfl⟩, fun _ hp _ => hp, fun _ => ⟨p, hmem, rfl, rfl⟩⟩
    · exact ⟨⟨rfl, rfl⟩, fun _ hp _ => hp, fun _ => ⟨p, hmem, rfl, rfl⟩⟩
  | none =>
    refine ⟨⟨rfl, rfl⟩, fun other hother hne => ?_, fun hheld => absurd rfl hheld⟩
    rcases List.mem_append.mp hother with hold | hnew
    · exact hold
    · exact absurd (by rw [List.mem_singleton.mp hnew]) hne

/-- An execution of exact amounts, by what it does to the rows of its position. -/
structure Executed (carried : ℚ → Prop) (t after : Tables) (event : BrokerExecutionEvent) (positionId : RowId)
    (held : ℚ) (row : PersistedFill) : Prop where
  id : row.id = t.book.drawn
  side : row.side = event.side
  fills : after.fills = t.fills ++ [row]
  drawn : t.book.drawn < after.book.drawn
  sound : after.book.Sound carried
  lots : ∀ origin, origin ∈ after.book.lots.map PersistedPositionLot.origin ↔
    origin ∈ t.book.lots.map PersistedPositionLot.origin ∨
      (0 < openedAmount event.side held event.quantity ∧ origin = (positionId, t.book.drawn))
  continued : Continued t.book after.book positionId t.book.drawn
    (exactNext held event.side event.quantity ≠ 0 ∧
      (held = 0 ∨ held * exactNext held event.side event.quantity < 0))
  other : ∀ other, other ≠ positionId → after.book.lifecyclesOf other = t.book.lifecyclesOf other
  before : (t.book.openLifecycles positionId).length = if held = 0 then 0 else 1
  active : (after.book.openLifecycles positionId).length =
    if exactNext held event.side event.quantity = 0 then 0 else 1
  positions : ∀ p ∈ after.book.positions, (p.id = positionId ∧ p.quantity = exactNext held event.side event.quantity) ∨
    (p.id ≠ positionId ∧ p ∈ t.book.positions)
  held : held ≠ 0 → ∃ p ∈ t.book.positions, p.id = positionId ∧ p.quantity = held

theorem executed (hc : Carries arith carried) {t after : Tables} (hs : t.book.Sound carried)
    (hquantity : carried event.quantity)
    (hnext : carried (exactNext (t.book.held event.accountId event.instrumentId) event.side event.quantity))
    (hbook : applyToPosition arith { t.book with drawn := t.book.drawn + 1 } t.book.drawn event = .ok after.book)
    {row : PersistedFill} (hid : row.id = t.book.drawn) (hside : row.side = event.side)
    (hfills : after.fills = t.fills ++ [row]) :
    ∃ positionId, Executed carried t after event positionId (t.book.held event.accountId event.instrumentId) row := by
  set b : Book := { t.book with drawn := t.book.drawn + 1 } with hb
  have hsound : b.Sound carried := hs.draw
  have hfound : Found carried b event (positionFor b event).1 (positionFor b event).2 :=
    positionFor_found hsound (hc.zero hquantity event.terms.1.le)
  obtain ⟨⟨hlifecycles, hlots⟩, hrows, hheld⟩ := positionFor_rows b event
  obtain ⟨hlotOrigins, hcontinued⟩ := applyToPosition_lineage hc hsound hquantity hnext hbook
  have hmoved := applyToPosition_moved hc hsound hquantity hnext hbook
  obtain ⟨p, hp, hpId, hpQuantity⟩ := hfound.row
  refine ⟨(positionFor b event).1.id, hid, hside, hfills, ?_, hmoved.sound hfound.sound, hlotOrigins, ⟨hcontinued.rows⟩, ?_, ?_,
    hmoved.consistent.active, ?_, hheld⟩
  · have hdrawn := hmoved.drawn
    have hmore := (positionFor_owner b event).2.2.2.2
    show t.book.drawn + 1 ≤ _
    exact hmore.trans hdrawn
  · intro other hother
    rw [hmoved.lifecycles other hother, Book.lifecyclesOf, hlifecycles]
    rfl
  · have hactive := (hfound.sound.positions p hp).active
    rw [hpId, hpQuantity, hfound.quantity, Book.openLifecycles, Book.lifecyclesOf, hlifecycles] at hactive
    exact hactive
  · intro other hother
    exact (hmoved.positions other hother).imp_right fun hkept => ⟨hkept.1, hrows other hkept.2 hkept.1⟩

section Step

variable {t next : Tables} {positionId : RowId} {held : ℚ} {row : PersistedFill}

/-- The rows after an execution, from those before. -/
theorem Executed.writes (he : Executed carried t next event positionId held row) :
    ∃ write : PersistedPositionLifecycle → PersistedPositionLifecycle,
      (∀ old, (write old).positionId = old.positionId ∧ (write old).openingFillId = old.openingFillId ∧
        ((write old).closedAt = none → old.closedAt = none)) ∧
      ∀ lifecycle ∈ next.book.lifecycles,
        (lifecycle.positionId = positionId ∧ lifecycle.openingFillId = t.book.drawn ∧ lifecycle.closedAt = none ∧
          exactNext held event.side event.quantity ≠ 0 ∧
          (held = 0 ∨ held * exactNext held event.side event.quantity < 0)) ∨
        ∃ old ∈ t.book.lifecycles, lifecycle = write old := by
  obtain ⟨write, hwrite, ⟨-, hrows⟩ | ⟨opened, hopens, hrows, hposition, hfill, hclosed⟩⟩ := he.continued.rows
  · refine ⟨write, hwrite, fun lifecycle hmem => ?_⟩
    rw [hrows] at hmem
    obtain ⟨old, hold, heq⟩ := List.mem_map.mp hmem
    exact .inr ⟨old, hold, heq.symm⟩
  · refine ⟨write, hwrite, fun lifecycle hmem => ?_⟩
    rw [hrows] at hmem
    rcases List.mem_append.mp hmem with hin | hnew
    · obtain ⟨old, hold, heq⟩ := List.mem_map.mp hin
      exact .inr ⟨old, hold, heq.symm⟩
    · rw [List.mem_singleton.mp hnew]
      exact .inl ⟨hposition, hfill, hclosed, hopens⟩

theorem Executed.row_cases (he : Executed carried t next event positionId held row) :
    ∀ lifecycle ∈ next.book.lifecycles,
      (lifecycle.positionId = positionId ∧ lifecycle.openingFillId = t.book.drawn ∧ lifecycle.closedAt = none ∧
        exactNext held event.side event.quantity ≠ 0 ∧
        (held = 0 ∨ held * exactNext held event.side event.quantity < 0)) ∨
      ∃ old ∈ t.book.lifecycles, lifecycle.positionId = old.positionId ∧ lifecycle.openingFillId = old.openingFillId ∧
        (lifecycle.closedAt = none → old.closedAt = none) := by
  obtain ⟨write, hwrite, hrows⟩ := he.writes
  intro lifecycle hmem
  refine (hrows lifecycle hmem).imp_right ?_
  rintro ⟨old, hold, rfl⟩
  exact ⟨old, hold, hwrite old⟩

theorem Executed.row_kept (he : Executed carried t next event positionId held row) :
    ∀ old ∈ t.book.lifecycles, ∃ lifecycle ∈ next.book.lifecycles, lifecycle.positionId = old.positionId ∧
      lifecycle.openingFillId = old.openingFillId := by
  obtain ⟨write, hwrite, hrows⟩ := he.continued.rows
  intro old hold
  refine ⟨write old, ?_, (hwrite old).1, (hwrite old).2.1⟩
  rcases hrows with ⟨-, hrows⟩ | ⟨opened, -, hrows, -⟩
  · rw [hrows]
    exact List.mem_map_of_mem hold
  · rw [hrows]
    exact List.mem_append_left _ (List.mem_map_of_mem hold)

theorem Executed.bought (he : Executed carried t next event positionId held row) {fillId : RowId} :
    Bought next.fills fillId ↔ Bought t.fills fillId ∨ (fillId = t.book.drawn ∧ event.side = .buy) := by
  rw [he.fills]
  constructor
  · intro h
    obtain ⟨f, hf, hid, hside⟩ := h
    rcases List.mem_append.mp hf with hold | hnew
    · exact .inl ⟨f, hold, hid, hside⟩
    · rw [List.mem_singleton.mp hnew] at hid hside
      exact .inr ⟨hid.symm.trans he.id, he.side.symm.trans hside⟩
  · rintro (h | ⟨rfl, hbuy⟩)
    · exact h.append row
    · exact ⟨row, List.mem_append_right _ List.mem_cons_self, he.id, he.side.trans hbuy⟩

theorem mem_openLifecycles {b : Book} {lifecycle : PersistedPositionLifecycle} (hmem : lifecycle ∈ b.lifecycles)
    (hposition : lifecycle.positionId = positionId) (hopen : lifecycle.closedAt = none) :
    lifecycle ∈ b.openLifecycles positionId := by
  refine List.mem_filter.mpr ⟨List.mem_filter.mpr ⟨hmem, by simpa using hposition⟩, ?_⟩
  rw [hopen]
  rfl

/-- Two open lifecycles of a position that has at most one are the same. -/
theorem openLifecycles_unique {b : Book} {quantity : ℚ} {first second : PersistedPositionLifecycle}
    (hlength : (b.openLifecycles positionId).length = if quantity = 0 then 0 else 1)
    (hfirst : first ∈ b.openLifecycles positionId) (hsecond : second ∈ b.openLifecycles positionId) : first = second := by
  split at hlength
  · rw [List.length_eq_zero_iff.mp hlength] at hfirst
    exact absurd hfirst List.not_mem_nil
  · obtain ⟨only, honly⟩ := List.length_eq_one_iff.mp hlength
    rw [honly] at hfirst hsecond
    exact (List.mem_singleton.mp hfirst).trans (List.mem_singleton.mp hsecond).symm

/-- An execution that opens a lifecycle leaves it open under its own fill. -/
theorem Executed.fresh (he : Executed carried t next event positionId held row)
    (hnonzero : exactNext held event.side event.quantity ≠ 0)
    (hopens : held = 0 ∨ held * exactNext held event.side event.quantity < 0) :
    ∃ opened ∈ next.book.openLifecycles positionId, opened.openingFillId = t.book.drawn := by
  obtain ⟨write, -, ⟨hnot, -⟩ | ⟨opened, -, hrows, hposition, hfill, hclosed⟩⟩ := he.continued.rows
  · exact absurd ⟨hnonzero, hopens⟩ hnot
  · refine ⟨opened, mem_openLifecycles ?_ hposition hclosed, hfill⟩
    rw [hrows]
    exact List.mem_append_right _ List.mem_cons_self

/-- The open lifecycle of a position left long was opened by a purchase. -/
theorem Executed.long (he : Executed carried t next event positionId held row) (h : Lineage carried t)
    (hlong : 0 < exactNext held event.side event.quantity) {active : PersistedPositionLifecycle}
    (hactive : active ∈ next.book.lifecycles) (hposition : active.positionId = positionId)
    (hopen : active.closedAt = none) : Bought next.fills active.openingFillId := by
  rcases he.row_cases active hactive with ⟨-, hfill, -, -, hopens⟩ | ⟨old, hold, holdPosition, holdFill, holdOpen⟩
  · refine he.bought.mpr (.inr ⟨hfill, ?_⟩)
    by_contra hsell
    have hside : event.side = .sell := by
      cases hcase : event.side with
      | buy => exact absurd hcase hsell
      | sell => rfl
    rw [hside] at hlong hopens
    have hpositive : 0 < held := by
      have hquantity := event.terms.1
      simp only [exactNext] at hlong
      linarith
    rcases hopens with hzero | hcross
    · exact hpositive.ne' hzero
    · exact absurd (mul_pos hpositive hlong) (not_lt.mpr hcross.le)
  · have hcontinues : ¬(held = 0 ∨ held * exactNext held event.side event.quantity < 0) := by
      intro hopens
      obtain ⟨opened, hopened, hopenedFill⟩ := he.fresh hlong.ne' hopens
      have hsame := openLifecycles_unique he.active hopened (mem_openLifecycles hactive hposition hopen)
      rw [hsame, holdFill] at hopenedFill
      exact absurd hopenedFill (h.openingDrawn old hold).ne
    rw [not_or, not_lt] at hcontinues
    obtain ⟨hnonzero, hcross⟩ := hcontinues
    have hpositive : 0 < held := lt_of_le_of_ne (le_of_mul_le_mul_right (by rwa [zero_mul]) hlong) (Ne.symm hnonzero)
    obtain ⟨p, hp, hpId, hpQuantity⟩ := he.held hnonzero
    rw [holdFill]
    exact he.bought.mpr (.inl (h.long p hp (hpQuantity ▸ hpositive) old hold
      (holdPosition.symm.trans (hposition.trans hpId.symm)) (holdOpen hopen)))

theorem Executed.ordered (he : Executed carried t next event positionId held row) (h : Lineage carried t)
    {closed active : PersistedPositionLifecycle} (hclosed : closed ∈ next.book.lifecycles)
    (hactive : active ∈ next.book.lifecycles) (hsame : closed.positionId = active.positionId)
    (hends : closed.closedAt ≠ none) (hopen : active.closedAt = none) :
    closed.openingFillId < active.openingFillId := by
  by_cases hposition : active.positionId = positionId
  · obtain ⟨write, hwrite, hrows⟩ := he.writes
    obtain ⟨old, hold, rfl⟩ := (hrows closed hclosed).resolve_left fun hfresh => hends hfresh.2.2.1
    rcases hrows active hactive with ⟨-, hfill, -⟩ | ⟨other, hother, rfl⟩
    · rw [(hwrite old).2.1, hfill]
      exact h.openingDrawn old hold
    · have hotherOpen := (hwrite other).2.2 hopen
      have hpositions : old.positionId = other.positionId := by
        rw [← (hwrite old).1, ← (hwrite other).1]
        exact hsame
      rw [(hwrite old).2.1, (hwrite other).2.1]
      refine h.ordered old hold other hother hpositions (fun holdOpen => ?_) hotherOpen
      -- the one that closed was the open one, and so is the one that is open
      have hotherPosition : other.positionId = positionId := (hwrite other).1.symm.trans hposition
      have hone := openLifecycles_unique he.before (mem_openLifecycles hold (hpositions.trans hotherPosition) holdOpen)
        (mem_openLifecycles hother hotherPosition hotherOpen)
      rw [hone] at hends
      exact hends hopen
  · have hrows := he.other _ hposition
    have hin : ∀ lifecycle ∈ next.book.lifecycles, lifecycle.positionId = active.positionId →
        lifecycle ∈ t.book.lifecycles := by
      intro lifecycle hmem heq
      have hfiltered : lifecycle ∈ next.book.lifecyclesOf active.positionId :=
        List.mem_filter.mpr ⟨hmem, by simpa using heq⟩
      rw [hrows] at hfiltered
      exact (List.mem_filter.mp hfiltered).1
    exact h.ordered closed (hin closed hclosed hsame) active (hin active hactive rfl) hsame hends hopen

/-- An execution keeps the lineage. -/
theorem Lineage.executed (h : Lineage carried t) (he : Executed carried t next event positionId held row) :
    Lineage carried next := by
  have hlotOld : ∀ lot ∈ next.book.lots, lot.origin ∈ t.book.lots.map PersistedPositionLot.origin ∨
      (0 < openedAmount event.side held event.quantity ∧ lot.origin = (positionId, t.book.drawn)) :=
    fun lot hlot => (he.lots _).mp (List.mem_map_of_mem hlot)
  refine ⟨he.sound, ?_, ?_, ?_, ?_, ?_, ?_, ?_⟩
  · rw [he.fills]
    intro f hf
    rcases List.mem_append.mp hf with hold | hnew
    · exact (h.fillDrawn f hold).trans he.drawn
    · rw [List.mem_singleton.mp hnew, he.id]
      exact he.drawn
  · intro lifecycle hmem
    rcases he.row_cases lifecycle hmem with ⟨-, hfill, -⟩ | ⟨old, hold, -, hfill, -⟩
    · rw [hfill]
      exact he.drawn
    · rw [hfill]
      exact (h.openingDrawn old hold).trans he.drawn
  · intro lot hlot
    rw [he.fills]
    rcases hlotOld lot hlot with hin | ⟨-, hnew⟩
    · obtain ⟨old, hold, horigin⟩ := List.mem_map.mp hin
      obtain ⟨f, hf, hid⟩ := h.lotFill old hold
      exact ⟨f, List.mem_append_left _ hf, hid.trans (Prod.mk.inj horigin).2⟩
    · exact ⟨row, List.mem_append_right _ List.mem_cons_self, he.id.trans (Prod.mk.inj hnew).2.symm⟩
  · intro lot hlot
    rcases hlotOld lot hlot with hin | ⟨hopened, hnew⟩
    · obtain ⟨old, hold, horigin⟩ := List.mem_map.mp hin
      obtain ⟨hposition, hfill⟩ := Prod.mk.inj horigin
      obtain ⟨lifecycle, hmem, hof, hbefore, hbought⟩ := h.lotLifecycle old hold
      obtain ⟨kept, hkept, hkeptPosition, hkeptFill⟩ := he.row_kept lifecycle hmem
      refine ⟨kept, hkept, hkeptPosition.trans (hof.trans hposition), ?_, ?_⟩
      · rw [hkeptFill, ← hfill]
        exact hbefore
      · rw [hkeptFill]
        exact he.bought.mpr (.inl hbought)
    · obtain ⟨hposition, hfill⟩ := Prod.mk.inj hnew
      obtain ⟨-, hlong⟩ := of_openedAmount_pos hopened
      have hone := he.active
      rw [if_neg hlong.ne'] at hone
      obtain ⟨active, honly⟩ := List.length_eq_one_iff.mp hone
      obtain ⟨hmem, hopen⟩ := List.mem_filter.mp (honly ▸ List.mem_singleton_self active)
      obtain ⟨hmem, hof⟩ := List.mem_filter.mp hmem
      have hof : active.positionId = positionId := by simpa using hof
      refine ⟨active, hmem, hof.trans hposition.symm, ?_, he.long h hlong hmem hof (Option.isNone_iff_eq_none.mp hopen)⟩
      rw [hfill]
      rcases he.row_cases active hmem with ⟨-, hactive, -⟩ | ⟨old, hold, -, hactive, -⟩
      · exact hactive.le
      · rw [hactive]
        exact (h.openingDrawn old hold).le
  · intro lifecycle hmem hbought
    rw [he.lots]
    rcases he.row_cases lifecycle hmem with ⟨hposition, hfill, -, hnonzero, hopens⟩ | ⟨old, hold, hposition, hfill, -⟩
    · rw [hposition, hfill]
      refine .inr ⟨?_, rfl⟩
      rw [hfill] at hbought
      have hbuy : event.side = .buy := by
        rcases he.bought.mp hbought with ⟨f, hf, hid, -⟩ | ⟨-, hbuy⟩
        · exact absurd hid (h.fillDrawn f hf).ne
        · exact hbuy
      refine openedAmount_pos event.terms.1 hbuy ?_
      rw [hbuy] at hopens ⊢
      rcases hopens with hzero | hcross
      · rw [hzero, exactNext, zero_add]
        exact event.terms.1
      · by_contra hnot
        simp only [exactNext] at hcross hnot
        have hquantity := event.terms.1
        exact absurd (mul_nonneg_of_nonpos_of_nonpos (by linarith) (not_lt.mp hnot)) (not_le.mpr hcross)
    · rw [hposition, hfill]
      rw [hfill] at hbought
      refine .inl (h.longLot old hold ?_)
      rcases he.bought.mp hbought with hbefore | ⟨hid, -⟩
      · exact hbefore
      · exact absurd hid (h.openingDrawn old hold).ne
  · exact fun closed hclosed active hactive hsame hends hopen => he.ordered h hclosed hactive hsame hends hopen
  · intro p hp hlong active hactive hof hopen
    rcases he.positions p hp with ⟨hid, hquantity⟩ | ⟨hne, hold⟩
    · exact he.long h (hquantity ▸ hlong) hactive (hof.trans hid) hopen
    · rcases he.row_cases active hactive with ⟨hposition, -⟩ | ⟨old, holdMem, hposition, hfill, holdOpen⟩
      · exact absurd (hof.symm.trans hposition) hne
      · rw [hfill]
        exact he.bought.mpr (.inl (h.long p hold hlong old holdMem (hposition.symm.trans hof) (holdOpen hopen)))

end Step

/-! ### Positions an execution continues -/

/-- An execution is of another account or instrument, or leaves the position open on its side. -/
def Continues (b : Book) (event : BrokerExecutionEvent) (accountId instrumentId : UUID) : Prop :=
  accountId = event.accountId → instrumentId = event.instrumentId →
    b.held accountId instrumentId ≠ 0 ∧ exactNext (b.held accountId instrumentId) event.side event.quantity ≠ 0 ∧
      ¬b.held accountId instrumentId * exactNext (b.held accountId instrumentId) event.side event.quantity < 0

/-- The row of a position that is continued, and the lifecycles it has open. -/
theorem Applied.continues {t next : Tables} {anchors : RiskBudgetAnchor × RiskBudgetAnchor} {order : PersistedOrder}
    {stored : ℚ} (hc : Carries arith carried) (hs : t.book.Sound carried)
    (h : Applied arith t next anchors order stored event) (hquantity : carried event.quantity)
    (hnext : carried (exactNext (t.book.held event.accountId event.instrumentId) event.side event.quantity))
    {accountId instrumentId : UUID} {p : Position} (hp : t.book.position? accountId instrumentId = some p)
    (hcontinues : Continues t.book event accountId instrumentId) :
    ∃ p', next.book.position? accountId instrumentId = some p' ∧ p'.id = p.id ∧
      next.book.openLifecycles p.id = t.book.openLifecycles p.id := by
  have hsound := hs.draw
  obtain ⟨⟨own, hown, hownId, -⟩, hothers⟩ := applyToPosition_moves hc hsound hquantity hnext h.book
  unfold Book.openLifecycles Book.lifecyclesOf
  by_cases hmine : accountId = event.accountId ∧ instrumentId = event.instrumentId
  · obtain ⟨rfl, rfl⟩ := hmine
    obtain ⟨hheld, hopen, hside⟩ := hcontinues rfl rfl
    refine ⟨own, hown, hownId.trans (positionFor_id hp), ?_⟩
    rw [applyToPosition_continues hc hsound hquantity hnext hheld hopen hside h.book]
  · refine ⟨p, (hothers accountId instrumentId hmine).trans hp, rfl, ?_⟩
    have hne : p.id ≠ (positionFor { t.book with drawn := t.book.drawn + 1 } event).1.id :=
      positionFor_id_ne (hc.zero hquantity event.terms.1.le) hsound hp hmine
    have hkept := (applyToPosition_moved hc hsound hquantity hnext h.book).lifecycles p.id hne
    unfold Book.lifecyclesOf at hkept
    rw [hkept, (positionFor_rows _ event).1.1]

/-! ### Runs -/

theorem NothingHeld.lineage {t : Tables} (h : NothingHeld t.book) (hfills : t.fills = []) : Lineage carried t := by
  have hsound : t.book.Sound carried := h.sound
  obtain ⟨hpositions, hlots, hlifecycles⟩ := h
  constructor
  · exact hsound
  all_goals simp [hpositions, hlots, hlifecycles, hfills]

theorem perform_lineage {hashes : AdoptionHashes} (hc : Carries arith carried) {t next : Tables} {event : LedgerEvent}
    (h : Lineage carried t) (hcarried : FillCarried carried t event) (hperform : perform arith hashes t event = .ok next) :
    Lineage carried next := by
  by_cases hfill : ∃ fill, event = .fill fill
  · obtain ⟨fill, rfl⟩ := hfill
    obtain ⟨⟨_, result⟩, happly, rfl⟩ := map_ok hperform
    rcases applyEventOnce_ok happly with ⟨-, existing, -, rfl | rfl⟩ | ⟨-, anchors, order, stored, happlied⟩
    · exact h
    · exact ⟨h.sound, h.fillDrawn, h.openingDrawn, h.lotFill, h.lotLifecycle, h.longLot, h.ordered, h.long⟩
    · obtain ⟨hquantity, hnext⟩ := hcarried happlied.unrecorded
      obtain ⟨positionId, hexecuted⟩ := executed hc h.sound hquantity hnext happlied.book rfl rfl happlied.fills
      exact h.executed hexecuted
  · obtain ⟨hfills, hbook⟩ := perform_fills_book (fun fill heq => hfill ⟨fill, heq⟩) hperform
    constructor
    · rw [hbook]
      exact h.sound
    · rw [hfills, hbook]
      exact h.fillDrawn
    · rw [hbook]
      exact h.openingDrawn
    · rw [hfills, hbook]
      exact h.lotFill
    · rw [hfills, hbook]
      exact h.lotLifecycle
    · rw [hfills, hbook]
      exact h.longLot
    · rw [hbook]
      exact h.ordered
    · rw [hfills, hbook]
      exact h.long

theorem runFrom_lineage {hashes : AdoptionHashes} (hc : Carries arith carried) {t : Tables} {events : List LedgerEvent}
    (h : Lineage carried t) (hcarried : RunMeets (step arith hashes) (FillCarried carried) t events) :
    Lineage carried (runFrom (step arith hashes) t events) :=
  run_invariant (fun _ _ hs hcarried => step_keeps hs fun _ => perform_lineage hc hs hcarried) h hcarried

end AutoTrader.Ledger
