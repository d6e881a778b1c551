import AutoTrader.Ledger.PositionRisk

/-! Where an execution leaves the position of its account and instrument: under the row it had, or a
new one, by the exact amount. -/

namespace AutoTrader.Ledger

open AutoTrader.Domain AutoTrader.Execution AutoTrader.Runtime

variable {arith : Arithmetic} {carried : ℚ → Prop} {b after : Book} {event : BrokerExecutionEvent}

/-- The row an execution is about is the one its account and instrument are read under. -/
theorem positionFor_position? (b : Book) (event : BrokerExecutionEvent) :
    (∃ row, (positionFor b event).2.position? event.accountId event.instrumentId = some row ∧
      row.id = (positionFor b event).1.id) ∧
    (positionFor b event).1.accountId = event.accountId ∧
    (positionFor b event).1.instrumentId = event.instrumentId ∧
    ∀ account instrument, ¬(account = event.accountId ∧ instrument = event.instrumentId) →
      (positionFor b event).2.position? account instrument = b.position? account instrument := by
  unfold positionFor
  cases hfound : b.position? event.accountId event.instrumentId with
  | some p =>
    have hkey := List.find?_some hfound
    simp only [Bool.and_eq_true, decide_eq_true_eq] at hkey
    dsimp only
    split
    · exact ⟨⟨p, hfound, rfl⟩, hkey.1, hkey.2, fun _ _ _ => rfl⟩
    · exact ⟨⟨p, hfound, rfl⟩, hkey.1, hkey.2, fun _ _ _ => rfl⟩
  | none =>
    unfold Book.position? at hfound
    refine ⟨⟨_, ?_, rfl⟩, rfl, rfl, fun account instrument hother => ?_⟩
    · unfold Book.position?
      dsimp only
      rw [List.find?_append, hfound, List.find?_singleton, if_pos (by simp)]
      rfl
    · unfold Book.position?
      dsimp only
      rw [List.find?_append, List.find?_singleton, if_neg, Option.or_none]
      simp only [Bool.and_eq_true, decide_eq_true_eq]
      exact fun hkey => hother ⟨hkey.1.symm, hkey.2.symm⟩

theorem openLot_keeps {positionId fillId : RowId} {quantity : ℚ} {openedAt : Instant}
    (h : openLot arith b positionId fillId quantity openedAt = .ok after) :
    after.positions = b.positions ∧ after.lifecycles = b.lifecycles := by
  unfold openLot at h
  split at h
  · obtain ⟨stored, -, h⟩ := bind_ok.mp h
    split at h
    · cases h
    · rw [← Except.ok.inj h]
      exact ⟨rfl, rfl⟩
  · rw [← Except.ok.inj h]
    exact ⟨rfl, rfl⟩

theorem lineage_positions {positionId fillId : RowId} {previous quantity : ℚ} {side : Side} {executedAt : Instant}
    (h : recordPositionLineage arith b positionId previous fillId side quantity executedAt = .ok after) :
    after.positions = b.positions := by
  obtain ⟨transition, -, h⟩ := bind_ok.mp h
  exact (openLot_keeps h).1.trans (writeTransition_eq b positionId fillId executedAt transition).1

/-- The row an execution writes when its amounts are not rounded, and all the others as they were. -/
theorem applyToPosition_writes (hc : Carries arith carried) {fillId : RowId} (hs : b.Sound carried)
    (hquantity : carried event.quantity)
    (hnext : carried (exactNext (b.held event.accountId event.instrumentId) event.side event.quantity))
    (h : applyToPosition arith b fillId event = .ok after) :
    (∃ p, after.position? event.accountId event.instrumentId = some p ∧ p.id = (positionFor b event).1.id ∧
      p.quantity = exactNext (b.held event.accountId event.instrumentId) event.side event.quantity ∧
      arith.store ((positionFor b event).1.fill arith event).averageCost = .ok p.averageCost) ∧
    ∀ account instrument, ¬(account = event.accountId ∧ instrument = event.instrumentId) →
      after.position? account instrument = b.position? account instrument := by
  have hfound : Found carried b event (positionFor b event).1 (positionFor b event).2 :=
    positionFor_found hs (hc.zero hquantity event.terms.1.le)
  obtain ⟨⟨row, hrow, hrowId⟩, haccount, hinstrument, hothers⟩ := positionFor_position? b event
  unfold applyToPosition at h
  generalize positionFor b event = found at h hfound hrow hrowId haccount hinstrument hothers ⊢
  obtain ⟨p, b₁⟩ := found
  dsimp only at h hfound hrow hrowId haccount hinstrument hothers ⊢
  obtain ⟨positions, hpositions, h⟩ := bind_ok.mp h
  obtain ⟨lots, -, h⟩ := bind_ok.mp h
  rw [← hfound.quantity] at hnext ⊢
  have hfill : (p.fill arith event).quantity = exactNext p.quantity event.side event.quantity :=
    nextQuantity_exact hc hquantity hnext
  obtain ⟨quantity, hstored, hpositions⟩ := bind_ok.mp hpositions
  obtain ⟨averageCost, hcost, hpositions⟩ := bind_ok.mp hpositions
  rw [hfill, hc.store _ hnext] at hstored
  -- rows of one id are one row, so the update changes no row's account or instrument
  have hkey : row.accountId = p.accountId ∧ row.instrumentId = p.instrumentId := by
    have hfirst := List.find?_some hrow
    simp only [Bool.and_eq_true, decide_eq_true_eq] at hfirst
    exact ⟨hfirst.1.trans haccount.symm, hfirst.2.trans hinstrument.symm⟩
  have hsame : ∀ old ∈ b₁.positions, old.id = p.id → old = row := fun old hold hid =>
    List.inj_on_of_nodup_map hfound.sound.positionIds hold (List.mem_of_find?_eq_some hrow) (hid.trans hrowId.symm)
  have hread : ∀ account instrument, after.position? account instrument =
      (b₁.position? account instrument).map fun old =>
        if old.id = p.id then { p.fill arith event with quantity := quantity, averageCost := averageCost } else old := by
    intro account instrument
    unfold Book.position?
    rw [lineage_positions h, ← Except.ok.inj hpositions]
    refine Rows.find?_update fun old hold hid => ?_
    rw [hsame old hold hid, hkey.1, hkey.2]
    rfl
  constructor
  · refine ⟨{ p.fill arith event with quantity := quantity, averageCost := averageCost }, ?_, rfl,
      (Except.ok.inj hstored).symm, hcost⟩
    rw [hread, hrow, Option.map_some, if_pos hrowId]
  · intro account instrument hother
    rw [hread, hothers account instrument hother]
    cases hold : b.position? account instrument with
    | none => rfl
    | some old =>
      rw [Option.map_some, if_neg]
      intro hid
      have hmem : old ∈ b₁.positions := List.mem_of_find?_eq_some ((hothers account instrument hother).trans hold)
      have hfirst := List.find?_some hold
      simp only [Bool.and_eq_true, decide_eq_true_eq] at hfirst
      rw [hsame old hmem hid, hkey.1, hkey.2, haccount, hinstrument] at hfirst
      exact hother ⟨hfirst.1.symm, hfirst.2.symm⟩

/-- The position after an execution whose amounts are not rounded. -/
theorem applyToPosition_moves (hc : Carries arith carried) {fillId : RowId} (hs : b.Sound carried)
    (hquantity : carried event.quantity)
    (hnext : carried (exactNext (b.held event.accountId event.instrumentId) event.side event.quantity))
    (h : applyToPosition arith b fillId event = .ok after) :
    (∃ p, after.position? event.accountId event.instrumentId = some p ∧ p.id = (positionFor b event).1.id ∧
      p.quantity = exactNext (b.held event.accountId event.instrumentId) event.side event.quantity) ∧
    ∀ account instrument, ¬(account = event.accountId ∧ instrument = event.instrumentId) →
      after.position? account instrument = b.position? account instrument := by
  obtain ⟨⟨p, hp, hid, hq, -⟩, hothers⟩ := applyToPosition_writes hc hs hquantity hnext h
  exact ⟨⟨p, hp, hid, hq⟩, hothers⟩

theorem positionFor_id {p : Position} (h : b.position? event.accountId event.instrumentId = some p) :
    (positionFor b event).1.id = p.id := by
  unfold positionFor
  rw [h]
  dsimp only
  split <;> rfl

/-- The row of another account or instrument is another row. -/
theorem positionFor_id_ne (hzero : carried 0) (hs : b.Sound carried) {account instrument : UUID} {p : Position}
    (hp : b.position? account instrument = some p)
    (hother : ¬(account = event.accountId ∧ instrument = event.instrumentId)) : p.id ≠ (positionFor b event).1.id := by
  intro hid
  obtain ⟨⟨row, hrow, hrowId⟩, -, -, hothers⟩ := positionFor_position? b event
  rw [← hothers account instrument hother] at hp
  have hsame : p = row := List.inj_on_of_nodup_map (positionFor_found hs hzero).sound.positionIds
    (List.mem_of_find?_eq_some hp) (List.mem_of_find?_eq_some hrow) (hid.trans hrowId.symm)
  have hkey := List.find?_some hp
  have hrowKey := List.find?_some hrow
  rw [hsame] at hkey
  simp only [Bool.and_eq_true, decide_eq_true_eq] at hkey hrowKey
  exact hother ⟨hkey.1.symm.trans hrowKey.1, hkey.2.symm.trans hrowKey.2⟩

/-- An execution that leaves a position open on its side opens and closes no lifecycle. -/
theorem applyToPosition_continues (hc : Carries arith carried) {fillId : RowId} (hs : b.Sound carried)
    (hquantity : carried event.quantity)
    (hnext : carried (exactNext (b.held event.accountId event.instrumentId) event.side event.quantity))
    (hheld : b.held event.accountId event.instrumentId ≠ 0)
    (hopen : exactNext (b.held event.accountId event.instrumentId) event.side event.quantity ≠ 0)
    (hside : ¬b.held event.accountId event.instrumentId *
      exactNext (b.held event.accountId event.instrumentId) event.side event.quantity < 0)
    (h : applyToPosition arith b fillId event = .ok after) : after.lifecycles = b.lifecycles := by
  have hfound : Found carried b event (positionFor b event).1 (positionFor b event).2 :=
    positionFor_found hs (hc.zero hquantity event.terms.1.le)
  have hkept : (positionFor b event).2.lifecycles = b.lifecycles := by
    unfold positionFor
    split <;> rfl
  unfold applyToPosition at h
  generalize positionFor b event = found at h hfound hkept
  obtain ⟨p, b₁⟩ := found
  dsimp only at h hfound hkept
  obtain ⟨positions, -, h⟩ := bind_ok.mp h
  obtain ⟨lots, -, h⟩ := bind_ok.mp h
  obtain ⟨transition, htransition, h⟩ := bind_ok.mp h
  obtain ⟨-, hcloses, hopens, -⟩ := transition_shape htransition
  rw [← hfound.quantity] at hnext hheld hopen hside
  rw [nextQuantity_exact hc hquantity hnext] at hcloses hopens
  have hends : ¬ends arith p.quantity (exactNext p.quantity event.side event.quantity) := by
    rintro ⟨-, hzero | hcross⟩
    · exact hopen hzero
    · exact hside ((arith.fix_neg _).mp hcross)
  have hclosed : transition.closed.isSome = false := by
    rw [← Bool.not_eq_true, hcloses]
    exact hends
  have hopened : transition.opened = none := by
    rw [← Option.not_isSome_iff_eq_none, hopens]
    rintro ⟨-, hzero | hcross⟩
    · exact hheld hzero
    · exact hends hcross
  rw [(openLot_keeps h).2]
  unfold writeTransition
  rw [hclosed, hopened]
  exact hkept

end AutoTrader.Ledger
