import AutoTrader.Ledger.Book
import AutoTrader.Numeric.Sums

/-! Lots, lifecycles and quantity of one position say the same: the open lots hold its long
part, and one lifecycle is open while it is not flat. Every execution keeps this, as long
as no amount it moves is rounded. -/

namespace AutoTrader.Ledger

open AutoTrader.Domain AutoTrader.Numeric AutoTrader.Runtime

variable {arith : Arithmetic} {carried : ℚ → Prop}

abbrev remaining (lots : List PersistedPositionLot) : List ℚ :=
  lots.map (·.remainingQuantity)

/-- The rows under the id of a position that holds `quantity`. -/
structure Consistent (carried : ℚ → Prop) (b : Book) (positionId : RowId) (quantity : ℚ) : Prop where
  exact : carried quantity
  lot : ∀ lot ∈ b.lotsOf positionId, carried lot.remainingQuantity ∧ 0 ≤ lot.remainingQuantity
  lots : (remaining (b.lotsOf positionId)).sum = max 0 quantity
  active : (b.openLifecycles positionId).length = if quantity = 0 then 0 else 1
  ordinals : ((b.lifecyclesOf positionId).map (·.lifecycleOrdinal)).Pairwise (· < ·)

/-- Every position is consistent, and ids are used once. -/
structure Book.Sound (carried : ℚ → Prop) (b : Book) : Prop where
  positions : ∀ p ∈ b.positions, Consistent carried b p.id p.quantity
  positionIds : (b.positions.map Position.id).Nodup
  lifecycleIds : (b.lifecycles.map PersistedPositionLifecycle.id).Nodup
  positionDrawn : ∀ p ∈ b.positions, p.id < b.drawn
  lotDrawn : ∀ lot ∈ b.lots, lot.positionId < b.drawn
  lifecycleDrawn : ∀ row ∈ b.lifecycles, row.id < b.drawn ∧ row.positionId < b.drawn

theorem Consistent.congr {b b' : Book} {positionId : RowId} {quantity : ℚ}
    (h : Consistent carried b positionId quantity) (hlots : b'.lotsOf positionId = b.lotsOf positionId)
    (hlifecycles : b'.lifecyclesOf positionId = b.lifecyclesOf positionId) :
    Consistent carried b' positionId quantity where
  exact := h.exact
  lot := by
    rw [hlots]
    exact h.lot
  lots := by
    rw [hlots]
    exact h.lots
  active := by
    unfold Book.openLifecycles
    rw [hlifecycles]
    exact h.active
  ordinals := by
    rw [hlifecycles]
    exact h.ordinals

theorem Carries.zero (hc : Carries arith carried) {x : ℚ} (hx : carried x) (h0 : 0 ≤ x) : carried 0 := by
  have h := hc.sub x x hx hx h0 le_rfl
  rwa [sub_self] at h

theorem Carries.min (_ : Carries arith carried) {x y : ℚ} (hx : carried x) (hy : carried y) :
    carried (min x y) := by
  rcases le_total x y with h | h
  · rwa [min_eq_left h]
  · rwa [min_eq_right h]

/-! ### Closing lots -/

/-- The loop takes the amount from the front. -/
theorem closeInOrder_ok (hc : Carries arith carried) {lots closed : List PersistedPositionLot} {n : ℚ}
    (hlots : ∀ lot ∈ lots, carried lot.remainingQuantity ∧ 0 ≤ lot.remainingQuantity) (hn : carried n)
    (hn0 : 0 ≤ n) (h : closeInOrder arith lots n = .ok closed) :
    remaining closed = takeFront (remaining lots) n ∧
      closed.map (·.positionId) = lots.map (·.positionId) ∧
      ∀ lot ∈ closed, carried lot.remainingQuantity := by
  induction lots generalizing n closed with
  | nil =>
    cases h
    exact ⟨rfl, rfl, fun _ hmem => absurd hmem List.not_mem_nil⟩
  | cons lot rest ih =>
    obtain ⟨stored, hstored, h⟩ := bind_ok.mp h
    obtain ⟨others, hothers, h⟩ := bind_ok.mp h
    obtain ⟨hlot, hlot0⟩ := hlots lot List.mem_cons_self
    have hrest := fun other hother => hlots other (List.mem_cons_of_mem lot hother)
    have hmin : carried (min lot.remainingQuantity n) := hc.min hlot hn
    have hmin0 : 0 ≤ min lot.remainingQuantity n := le_min hlot0 hn0
    have hkeep : carried (lot.remainingQuantity - min lot.remainingQuantity n) :=
      hc.sub _ _ hlot hmin hmin0 (min_le_left _ _)
    have hleft : carried (n - min lot.remainingQuantity n) := hc.sub _ _ hn hmin hmin0 (min_le_right _ _)
    rw [hc.fix _ hkeep, hc.store _ hkeep] at hstored
    rw [hc.fix _ hleft] at hothers
    rw [← Except.ok.inj h, ← Except.ok.inj hstored]
    have hmain : remaining others = takeFront (remaining rest) (n - min lot.remainingQuantity n) ∧
        others.map (·.positionId) = rest.map (·.positionId) ∧
        ∀ other ∈ others, carried other.remainingQuantity := by
      split at hothers
      · rename_i hzero
        rw [← Except.ok.inj hothers, hzero]
        refine ⟨(takeFront_zero ?_).symm, rfl, fun other hother => (hrest other hother).1⟩
        intro a ha
        obtain ⟨other, hother, rfl⟩ := List.mem_map.mp ha
        exact (hrest other hother).2
      · exact ih hrest hleft (sub_nonneg.mpr (min_le_right _ _)) hothers
    obtain ⟨hremaining, hids, hall⟩ := hmain
    refine ⟨?_, ?_, ?_⟩
    · simp only [remaining, List.map_cons, takeFront] at hremaining ⊢
      rw [hremaining]
    · simp only [List.map_cons, hids]
    · intro other hother
      rcases List.mem_cons.mp hother with rfl | hother
      · exact hkeep
      · exact hall other hother

/-- Lots that are not selected hold nothing of the position. -/
theorem sum_selected {positionId : RowId} {lots : List PersistedPositionLot}
    (hlots : ∀ lot ∈ lots.filter (·.positionId = positionId), 0 ≤ lot.remainingQuantity) :
    (remaining (lots.filter (selected positionId))).sum =
      (remaining (lots.filter (·.positionId = positionId))).sum := by
  induction lots with
  | nil => rfl
  | cons lot rest ih =>
    have hrest : ∀ other ∈ rest.filter (·.positionId = positionId), 0 ≤ other.remainingQuantity := by
      intro other hother
      obtain ⟨hmem, hid⟩ := List.mem_filter.mp hother
      exact hlots other (List.mem_filter.mpr ⟨List.mem_cons_of_mem lot hmem, hid⟩)
    have ih := ih hrest
    simp only [remaining] at ih ⊢
    by_cases hid : lot.positionId = positionId
    · have hlot : 0 ≤ lot.remainingQuantity := hlots lot (by simp [hid])
      by_cases hpos : 0 < lot.remainingQuantity
      · simpa [selected, hid, hpos] using ih
      · have hzero : lot.remainingQuantity = 0 := le_antisymm (not_lt.mp hpos) hlot
        simpa [selected, hid, hzero] using ih
    · simpa [selected, hid] using ih

/-- What closing lots leaves: the amount less under the position, the rest as it was. -/
structure Closed (carried : ℚ → Prop) (lots closed : List PersistedPositionLot) (positionId : RowId)
    (n : ℚ) : Prop where
  sum : (remaining (closed.filter (·.positionId = positionId))).sum =
    (remaining (lots.filter (·.positionId = positionId))).sum - n
  lot : ∀ lot ∈ closed.filter (·.positionId = positionId),
    carried lot.remainingQuantity ∧ 0 ≤ lot.remainingQuantity
  other : ∀ other, other ≠ positionId →
    closed.filter (·.positionId = other) = lots.filter (·.positionId = other)
  source : ∀ lot ∈ closed, ∃ old ∈ lots, lot.positionId = old.positionId

theorem closeLots_ok (hc : Carries arith carried) {lots closed : List PersistedPositionLot}
    {positionId : RowId} {n : ℚ}
    (hlots : ∀ lot ∈ lots.filter (·.positionId = positionId),
      carried lot.remainingQuantity ∧ 0 ≤ lot.remainingQuantity)
    (hn : carried n) (hn0 : 0 ≤ n)
    (hle : n ≤ (remaining (lots.filter (·.positionId = positionId))).sum)
    (h : closeLots arith lots positionId n = .ok closed) : Closed carried lots closed positionId n := by
  obtain ⟨taken, htaken, h⟩ := bind_ok.mp h
  rw [← Except.ok.inj h]
  have hperm := List.perm_insertionSort LotOrder (lots.filter (selected positionId))
  -- a selected lot is one of the position
  have hmem : ∀ lot ∈ lots, selected positionId lot = true →
      lot ∈ lots.filter (·.positionId = positionId) := by
    intro lot hlot hsel
    simp only [selected, Bool.and_eq_true, decide_eq_true_eq] at hsel
    simp [hlot, hsel.1]
  have hsorted : ∀ lot ∈ (lots.filter (selected positionId)).insertionSort LotOrder,
      lot ∈ lots.filter (·.positionId = positionId) := by
    intro lot hlot
    obtain ⟨hlot, hsel⟩ := List.mem_filter.mp (hperm.mem_iff.mp hlot)
    exact hmem lot hlot hsel
  obtain ⟨hremaining, hids, hall⟩ :=
    closeInOrder_ok hc (fun lot hlot => hlots lot (hsorted lot hlot)) hn hn0 htaken
  have hpositive : ∀ a ∈ remaining ((lots.filter (selected positionId)).insertionSort LotOrder), 0 ≤ a := by
    intro a ha
    obtain ⟨lot, hlot, rfl⟩ := List.mem_map.mp ha
    exact (hlots lot (hsorted lot hlot)).2
  have hsum : (remaining ((lots.filter (selected positionId)).insertionSort LotOrder)).sum =
      (remaining (lots.filter (·.positionId = positionId))).sum := by
    rw [← sum_selected fun lot hlot => (hlots lot hlot).2]
    exact (hperm.map _).sum_eq
  have htakenId : ∀ lot ∈ taken, lot.positionId = positionId := by
    intro lot hlot
    have hin : lot.positionId ∈ taken.map (·.positionId) := List.mem_map_of_mem hlot
    rw [hids] at hin
    obtain ⟨old, hold, heq⟩ := List.mem_map.mp hin
    have hold := (List.mem_filter.mp (hsorted old hold)).2
    rw [← heq]
    simpa using hold
  have htakenFilter : taken.filter (·.positionId = positionId) = taken :=
    List.filter_eq_self.mpr fun lot hlot => by simp [htakenId lot hlot]
  -- what was not selected under the position is empty
  have hrest : ∀ lot ∈ (lots.filter (fun lot => !selected positionId lot)).filter
      (·.positionId = positionId), carried lot.remainingQuantity ∧ lot.remainingQuantity = 0 := by
    intro lot hlot
    obtain ⟨hlot, hid⟩ := List.mem_filter.mp hlot
    obtain ⟨hlot, hsel⟩ := List.mem_filter.mp hlot
    obtain ⟨hcarried, hnonneg⟩ := hlots lot (List.mem_filter.mpr ⟨hlot, hid⟩)
    refine ⟨hcarried, le_antisymm ?_ hnonneg⟩
    simp only [decide_eq_true_eq] at hid
    simpa [selected, hid] using hsel
  refine ⟨?_, ?_, ?_, ?_⟩
  · have hzero : (remaining ((lots.filter (fun lot => !selected positionId lot)).filter
        (·.positionId = positionId))).sum = 0 := by
      refine List.sum_eq_zero fun a ha => ?_
      obtain ⟨lot, hlot, rfl⟩ := List.mem_map.mp ha
      exact (hrest lot hlot).2
    rw [List.filter_append, htakenFilter]
    simp only [remaining, List.map_append, List.sum_append] at hzero hremaining hsum ⊢
    rw [hzero, hremaining, zero_add, ← hsum]
    exact takeFront_sum hpositive hn0 (by simpa [remaining, hsum] using hle)
  · intro lot hlot
    rw [List.filter_append, htakenFilter] at hlot
    rcases List.mem_append.mp hlot with hlot | hlot
    · obtain ⟨hcarried, hzero⟩ := hrest lot hlot
      exact ⟨hcarried, hzero.ge⟩
    · refine ⟨hall lot hlot, ?_⟩
      have hin : lot.remainingQuantity ∈ remaining taken := List.mem_map_of_mem hlot
      rw [hremaining] at hin
      exact takeFront_nonneg _ hin
  · intro other hother
    have hnone : taken.filter (·.positionId = other) = [] :=
      List.filter_eq_nil_iff.mpr fun lot hlot => by simp [htakenId lot hlot, Ne.symm hother]
    rw [List.filter_append, hnone, List.append_nil, List.filter_filter]
    refine List.filter_congr fun lot _ => ?_
    by_cases hid : lot.positionId = other
    · have hsel : selected positionId lot = false := by simp [selected, hid, hother]
      simp [hid, hsel]
    · simp [hid]
  · intro lot hlot
    rcases List.mem_append.mp hlot with hlot | hlot
    · exact ⟨lot, (List.mem_filter.mp hlot).1, rfl⟩
    · have hin : lot.positionId ∈ taken.map (·.positionId) := List.mem_map_of_mem hlot
      rw [hids] at hin
      obtain ⟨old, hold, heq⟩ := List.mem_map.mp hin
      exact ⟨old, (List.mem_filter.mp (hsorted old hold)).1, heq.symm⟩

/-! ### Lifecycles -/

theorem le_currentOrdinal {rows : List PersistedPositionLifecycle} :
    ∀ row ∈ rows, row.lifecycleOrdinal ≤ currentOrdinal rows := by
  induction rows with
  | nil => exact fun _ h => absurd h List.not_mem_nil
  | cons row rest ih =>
    intro other hother
    rcases List.mem_cons.mp hother with rfl | hother
    · exact le_max_left _ _
    · exact (ih other hother).trans (le_max_right _ _)

/-- The lifecycles with `active` open ones left to a position: no other column of its rows is
read differently. -/
structure Closing (b : Book) (rows : List PersistedPositionLifecycle) (positionId : RowId) (active : Nat) :
    Prop where
  other : ∀ other, other ≠ positionId → rows.filter (·.positionId = other) = b.lifecyclesOf other
  active : ((rows.filter (·.positionId = positionId)).filter (·.closedAt.isNone)).length = active
  ordinals : (rows.filter (·.positionId = positionId)).map (·.lifecycleOrdinal) =
    (b.lifecyclesOf positionId).map (·.lifecycleOrdinal)
  ids : rows.map PersistedPositionLifecycle.id = b.lifecycles.map PersistedPositionLifecycle.id
  positionIds : rows.map (·.positionId) = b.lifecycles.map (·.positionId)

theorem closing_closeActive {b : Book} {positionId fillId : RowId} {executedAt : Instant}
    (hids : (b.lifecycles.map PersistedPositionLifecycle.id).Nodup)
    (hone : (b.openLifecycles positionId).length = 1) :
    Closing b (closeActive b positionId fillId executedAt) positionId 0 := by
  obtain ⟨row, hopen⟩ := List.length_eq_one_iff.mp hone
  have hrow : row ∈ b.openLifecycles positionId := by simp [hopen]
  obtain ⟨hmem, hactive⟩ := List.mem_filter.mp hrow
  obtain ⟨hin, hid⟩ := List.mem_filter.mp hmem
  have hid : row.positionId = positionId := by simpa using hid
  -- ids are used once, so the update reaches this row alone
  have honly : ∀ other ∈ b.lifecycles, other.id = row.id → other = row :=
    fun other hother heq => List.inj_on_of_nodup_map hids hother hin heq
  have hclosed : closeActive b positionId fillId executedAt =
      Rows.update PersistedPositionLifecycle.id b.lifecycles row.id (·.closedBy fillId executedAt) := by
    unfold closeActive
    rw [hopen]
    rfl
  rw [hclosed]
  constructor
  · intro other hother
    unfold Rows.update Book.lifecyclesOf
    rw [List.filter_map]
    have hfilter : b.lifecycles.filter ((fun row => decide (row.positionId = other)) ∘ fun old =>
        if old.id = row.id then old.closedBy fillId executedAt else old) =
        b.lifecycles.filter (·.positionId = other) := by
      refine List.filter_congr fun old _ => ?_
      by_cases heq : old.id = row.id <;> simp [heq, PersistedPositionLifecycle.closedBy]
    rw [hfilter]
    refine (List.map_congr_left fun old hold => ?_).trans (List.map_id _)
    obtain ⟨hold, hpos⟩ := List.mem_filter.mp hold
    have hpos : old.positionId = other := by simpa using hpos
    refine if_neg fun heq => ?_
    rw [honly old hold heq] at hpos
    exact hother (hpos.symm.trans hid)
  · refine List.length_eq_zero_iff.mpr (List.filter_eq_nil_iff.mpr fun new hnew => ?_)
    obtain ⟨hnew, hpos⟩ := List.mem_filter.mp hnew
    obtain ⟨old, hold, rfl⟩ := Rows.mem_update.mp hnew
    by_cases heq : old.id = row.id
    · simp [heq, PersistedPositionLifecycle.closedBy]
    · rw [if_neg heq] at hpos ⊢
      intro hnone
      have hactive : old ∈ b.openLifecycles positionId :=
        List.mem_filter.mpr ⟨List.mem_filter.mpr ⟨hold, hpos⟩, hnone⟩
      rw [hopen, List.mem_singleton] at hactive
      exact heq (congrArg _ hactive)
  · have hsame : ∀ row : PersistedPositionLifecycle,
        (row.closedBy fillId executedAt).lifecycleOrdinal = row.lifecycleOrdinal := fun _ => rfl
    have hchosen : ∀ row : PersistedPositionLifecycle,
        decide ((row.closedBy fillId executedAt).positionId = positionId) =
          decide (row.positionId = positionId) := fun _ => rfl
    exact Rows.map_filter_update hchosen hsame _ _
  · have hsame : ∀ row : PersistedPositionLifecycle, (row.closedBy fillId executedAt).id = row.id :=
      fun _ => rfl
    exact Rows.map_update hsame _ _
  · have hsame : ∀ row : PersistedPositionLifecycle,
        (row.closedBy fillId executedAt).positionId = row.positionId := fun _ => rfl
    exact Rows.map_update hsame _ _

/-- A transition writes the lifecycles of its position only: it closes the open one when it
closes, and adds the next ordinal when it opens. -/
structure Written (b after : Book) (positionId : RowId) (transition : PositionLifecycleTransition) : Prop where
  positions : after.positions = b.positions
  lots : after.lots = b.lots
  drawn : b.drawn ≤ after.drawn
  other : ∀ other, other ≠ positionId → after.lifecyclesOf other = b.lifecyclesOf other
  active : (after.openLifecycles positionId).length =
    (if transition.closed.isSome then 0 else (b.openLifecycles positionId).length) +
      (if transition.opened.isSome then 1 else 0)
  ordinals : ((after.lifecyclesOf positionId).map (·.lifecycleOrdinal)).Pairwise (· < ·)
  ids : (after.lifecycles.map PersistedPositionLifecycle.id).Nodup
  lifecycleDrawn : ∀ row ∈ after.lifecycles, row.id < after.drawn ∧ row.positionId < after.drawn

/-- What is written, from the rows before anything is opened. -/
theorem written_of_closing {b : Book} {rows : List PersistedPositionLifecycle} {positionId : RowId}
    {transition : PositionLifecycleTransition}
    (hrows : Closing b rows positionId
      (if transition.closed.isSome then 0 else (b.openLifecycles positionId).length))
    (hids : (b.lifecycles.map PersistedPositionLifecycle.id).Nodup)
    (hdrawn : ∀ row ∈ b.lifecycles, row.id < b.drawn ∧ row.positionId < b.drawn)
    (hordinals : ((b.lifecyclesOf positionId).map (·.lifecycleOrdinal)).Pairwise (· < ·))
    (hposition : positionId < b.drawn)
    (hopened : ∀ opened, transition.opened = some opened → opened.positionId = positionId ∧
      opened.lifecycleOrdinal = currentOrdinal (b.lifecyclesOf positionId) + 1 ∧ opened.closedAt = none) :
    Written b
      (match transition.opened with
        | some opened =>
          { b with lifecycles := rows ++ [PersistedPositionLifecycle.mk opened b.drawn], drawn := b.drawn + 1 }
        | none => { b with lifecycles := rows })
      positionId transition := by
  have hbound : ∀ row ∈ rows, row.id < b.drawn ∧ row.positionId < b.drawn := by
    intro row hrow
    have hid : row.id ∈ b.lifecycles.map PersistedPositionLifecycle.id :=
      hrows.ids ▸ List.mem_map_of_mem hrow
    have hpos : row.positionId ∈ b.lifecycles.map (·.positionId) :=
      hrows.positionIds ▸ List.mem_map_of_mem hrow
    obtain ⟨old, hold, heq⟩ := List.mem_map.mp hid
    obtain ⟨old', hold', heq'⟩ := List.mem_map.mp hpos
    rw [← heq, ← heq']
    exact ⟨(hdrawn old hold).1, (hdrawn old' hold').2⟩
  have hrowIds : (rows.map PersistedPositionLifecycle.id).Nodup := by
    rw [hrows.ids]
    exact hids
  have hrowOrdinals : ((rows.filter (·.positionId = positionId)).map (·.lifecycleOrdinal)).Pairwise (· < ·) := by
    rw [hrows.ordinals]
    exact hordinals
  cases hnew : transition.opened with
  | none =>
    have hactive : (transition.opened.isSome : Bool) = false := by rw [hnew]; rfl
    refine ⟨rfl, rfl, le_rfl, hrows.other, ?_, hrowOrdinals, hrowIds, hbound⟩
    rw [hactive]
    exact hrows.active
  | some opened =>
    obtain ⟨hpos, hordinal, hclosed⟩ := hopened opened hnew
    refine ⟨rfl, rfl, Nat.le_succ _, ?_, ?_, ?_, ?_, ?_⟩
    · intro other hother
      have hne : positionId ≠ other := Ne.symm hother
      show (rows ++ [_]).filter _ = _
      rw [List.filter_append, hrows.other other hother]
      simp [hpos, hne]
    · show (((rows ++ [_]).filter _).filter _).length = _
      rw [List.filter_append, List.filter_append, List.length_append, hrows.active]
      simp [hnew, hpos, hclosed]
    · show (((rows ++ [_]).filter _).map _).Pairwise _
      have hlast : ([PersistedPositionLifecycle.mk opened b.drawn].filter (·.positionId = positionId)) =
          [PersistedPositionLifecycle.mk opened b.drawn] := by simp [hpos]
      rw [List.filter_append, List.map_append, List.pairwise_append, hlast]
      refine ⟨hrowOrdinals, List.pairwise_singleton _ _, ?_⟩
      intro ordinal hin other hother
      rw [hrows.ordinals] at hin
      obtain ⟨row, hrow, rfl⟩ := List.mem_map.mp hin
      have hle := le_currentOrdinal row hrow
      have hother : other = opened.lifecycleOrdinal := by simpa using hother
      omega
    · show ((rows ++ [_]).map _).Nodup
      rw [List.map_append, List.nodup_append]
      refine ⟨hrowIds, List.nodup_singleton _, ?_⟩
      rintro id hin other hother rfl
      obtain ⟨row, hrow, rfl⟩ := List.mem_map.mp hin
      have heq : row.id = b.drawn := by simpa using hother
      exact absurd heq (hbound row hrow).1.ne
    · intro row hrow
      show row.id < b.drawn + 1 ∧ row.positionId < b.drawn + 1
      rcases List.mem_append.mp hrow with hrow | hrow
      · obtain ⟨hid, hpos⟩ := hbound row hrow
        exact ⟨Nat.lt_succ_of_lt hid, Nat.lt_succ_of_lt hpos⟩
      · rw [List.mem_singleton.mp hrow]
        refine ⟨Nat.lt_succ_self _, ?_⟩
        show opened.positionId < b.drawn + 1
        rw [hpos]
        exact Nat.lt_succ_of_lt hposition

/-! ### One execution -/

/-- The quantity after an execution, without rounding. -/
def exactNext (previous : ℚ) (side : Side) (quantity : ℚ) : ℚ :=
  match side with
  | .buy => previous + quantity
  | .sell => previous - quantity

theorem nextQuantity_exact (hc : Carries arith carried) {previous quantity : ℚ} {side : Side}
    (hquantity : carried quantity) (hnext : carried (exactNext previous side quantity)) :
    nextQuantity arith previous side quantity = exactNext previous side quantity := by
  cases side with
  | buy => exact hc.fix _ hnext
  | sell =>
    have hneg : arith.fix (-quantity) = -quantity := hc.fix _ (hc.neg _ hquantity)
    simp only [nextQuantity, signedFill, hneg, ← sub_eq_add_neg]
    exact hc.fix _ hnext

/-- What an execution takes out of the open lots, and the lot it adds. -/
def closedAmount (side : Side) (previous quantity : ℚ) : ℚ :=
  match side with
  | .buy => 0
  | .sell => longClosed previous quantity

def openedAmount (side : Side) (previous quantity : ℚ) : ℚ :=
  match side with
  | .buy => longOpened previous quantity
  | .sell => 0

theorem max_zero_exactNext {side : Side} {previous quantity : ℚ} (hquantity : 0 ≤ quantity) :
    max 0 (exactNext previous side quantity) =
      max 0 previous - closedAmount side previous quantity + openedAmount side previous quantity := by
  cases side with
  | buy => simp only [exactNext, closedAmount, openedAmount, max_zero_buy hquantity, sub_zero]
  | sell => simp only [exactNext, closedAmount, openedAmount, max_zero_sell hquantity, add_zero]

theorem lotQuantity_exact (hc : Carries arith carried) {previous quantity : ℚ} {side : Side}
    (hnext : carried (exactNext previous side quantity)) :
    lotQuantity arith side previous quantity = openedAmount side previous quantity := by
  cases side with
  | buy =>
    have hfix : arith.fix (quantity + previous) = quantity + previous := by
      rw [add_comm]
      exact hc.fix _ hnext
    simp only [lotQuantity, openedAmount, longOpened, hfix]
  | sell => rfl

/-- The lots once the sold ones are closed; a buy closes none. -/
theorem closing_lots (hc : Carries arith carried) {b : Book} {positionId : RowId} {previous quantity : ℚ}
    {side : Side} {lots : List PersistedPositionLot} (hcons : Consistent carried b positionId previous)
    (hquantity : carried quantity) (hpos : 0 ≤ quantity)
    (h : (if side = .sell ∧ 0 < previous then closeLots arith b.lots positionId (min previous quantity)
      else .ok b.lots) = .ok lots) :
    Closed carried b.lots lots positionId (closedAmount side previous quantity) := by
  split at h
  · rename_i hsell
    obtain ⟨rfl, hprevious⟩ := hsell
    have hamount : closedAmount .sell previous quantity = min previous quantity := if_pos hprevious
    rw [hamount]
    refine closeLots_ok hc hcons.lot (hc.min hcons.exact hquantity) (le_min hprevious.le hpos) ?_ h
    rw [show (remaining (b.lots.filter (·.positionId = positionId))).sum = max 0 previous from hcons.lots]
    exact (min_le_left _ _).trans (le_max_right _ _)
  · rename_i hnot
    have hamount : closedAmount side previous quantity = 0 := by
      cases side with
      | buy => rfl
      | sell => exact if_neg fun hprevious => hnot ⟨rfl, hprevious⟩
    rw [← Except.ok.inj h, hamount]
    exact ⟨(sub_zero _).symm, hcons.lot, fun _ _ => rfl, fun lot hlot => ⟨lot, hlot, rfl⟩⟩

/-- What adding a lot does. -/
structure OpenedLot (carried : ℚ → Prop) (b after : Book) (positionId : RowId) (quantity : ℚ) : Prop where
  positions : after.positions = b.positions
  lifecycles : after.lifecycles = b.lifecycles
  drawn : b.drawn ≤ after.drawn
  other : ∀ other, other ≠ positionId → after.lotsOf other = b.lotsOf other
  sum : (remaining (after.lotsOf positionId)).sum = (remaining (b.lotsOf positionId)).sum + quantity
  lot : ∀ lot ∈ after.lots, lot ∈ b.lots ∨
    (lot.positionId = positionId ∧ carried lot.remainingQuantity ∧ 0 ≤ lot.remainingQuantity)

theorem openLot_ok (hc : Carries arith carried) {b after : Book} {positionId fillId : RowId} {quantity : ℚ}
    {openedAt : Instant} (hquantity : 0 < quantity → carried quantity) (hnonneg : 0 ≤ quantity)
    (h : openLot arith b positionId fillId quantity openedAt = .ok after) :
    OpenedLot carried b after positionId quantity := by
  unfold openLot at h
  split at h
  · rename_i hpos
    obtain ⟨stored, hstored, h⟩ := bind_ok.mp h
    rw [hc.store _ (hquantity hpos)] at hstored
    rw [← Except.ok.inj hstored, if_neg (not_le.mpr hpos)] at h
    rw [← Except.ok.inj h]
    refine ⟨rfl, rfl, Nat.le_succ _, ?_, ?_, ?_⟩
    · intro other hother
      show (b.lots ++ [_]).filter _ = _
      rw [List.filter_append]
      simp [Book.lotsOf, Ne.symm hother]
    · show (remaining ((b.lots ++ [_]).filter _)).sum = _
      rw [List.filter_append]
      simp [remaining, Book.lotsOf]
    · intro lot hlot
      rcases List.mem_append.mp hlot with hlot | hlot
      · exact .inl hlot
      · rw [List.mem_singleton.mp hlot]
        exact .inr ⟨rfl, hquantity hpos, hnonneg⟩
  · rename_i hzero
    have hzero : quantity = 0 := le_antisymm (not_lt.mp hzero) hnonneg
    rw [← Except.ok.inj h]
    exact ⟨rfl, rfl, le_rfl, fun _ _ => rfl, by rw [hzero, add_zero], fun lot hlot => .inl hlot⟩

/-- The row an execution finds or adds. -/
structure Found (carried : ℚ → Prop) (b : Book) (event : BrokerExecutionEvent) (p : Position) (after : Book) :
    Prop where
  sound : after.Sound carried
  quantity : p.quantity = b.held event.accountId event.instrumentId
  row : ∃ row ∈ after.positions, row.id = p.id ∧ row.quantity = p.quantity

theorem positionFor_found {b : Book} {event : BrokerExecutionEvent} (hs : b.Sound carried)
    (hzero : carried 0) : Found carried b event (positionFor b event).1 (positionFor b event).2 := by
  unfold positionFor
  cases hfound : b.position? event.accountId event.instrumentId with
  | some p =>
    have hmem : p ∈ b.positions := List.mem_of_find?_eq_some hfound
    have hheld : b.held event.accountId event.instrumentId = p.quantity := by
      unfold Book.held
      rw [hfound]
      rfl
    dsimp only
    split
    · exact ⟨hs, hheld.symm, p, hmem, rfl, rfl⟩
    · exact ⟨hs, hheld.symm, p, hmem, rfl, rfl⟩
  | none =>
    have hheld : b.held event.accountId event.instrumentId = 0 := by
      unfold Book.held
      rw [hfound]
      rfl
    -- no row of any table is under an id that was not drawn yet
    have hlots : b.lotsOf b.drawn = [] := by
      refine List.filter_eq_nil_iff.mpr fun lot hlot heq => ?_
      have heq : lot.positionId = b.drawn := by simpa using heq
      exact (hs.lotDrawn lot hlot).ne heq
    have hlifecycles : b.lifecyclesOf b.drawn = [] := by
      refine List.filter_eq_nil_iff.mpr fun row hrow heq => ?_
      have heq : row.positionId = b.drawn := by simpa using heq
      exact (hs.lifecycleDrawn row hrow).2.ne heq
    refine ⟨⟨?_, ?_, hs.lifecycleIds, ?_, ?_, ?_⟩, hheld.symm, _, List.mem_append_right _ List.mem_cons_self,
      rfl, rfl⟩
    · intro p hp
      rcases List.mem_append.mp hp with hp | hp
      · exact (hs.positions p hp).congr rfl rfl
      · rw [List.mem_singleton.mp hp]
        refine ⟨hzero, ?_, ?_, ?_, ?_⟩
        · show ∀ lot ∈ b.lotsOf b.drawn, _
          rw [hlots]
          exact fun lot hlot => absurd hlot List.not_mem_nil
        · show (remaining (b.lotsOf b.drawn)).sum = _
          rw [hlots]
          simp
        · show ((b.lifecyclesOf b.drawn).filter _).length = _
          rw [hlifecycles]
          simp
        · show ((b.lifecyclesOf b.drawn).map _).Pairwise _
          rw [hlifecycles]
          exact List.Pairwise.nil
    · show ((b.positions ++ [_]).map Position.id).Nodup
      rw [List.map_append, List.nodup_append]
      refine ⟨hs.positionIds, List.nodup_singleton _, ?_⟩
      rintro id hin other hother rfl
      obtain ⟨p, hp, rfl⟩ := List.mem_map.mp hin
      have heq : p.id = b.drawn := by simpa using hother
      exact absurd heq (hs.positionDrawn p hp).ne
    · intro p hp
      rcases List.mem_append.mp hp with hp | hp
      · exact Nat.lt_succ_of_lt (hs.positionDrawn p hp)
      · rw [List.mem_singleton.mp hp]
        exact Nat.lt_succ_self _
    · exact fun lot hlot => Nat.lt_succ_of_lt (hs.lotDrawn lot hlot)
    · intro row hrow
      obtain ⟨hid, hpos⟩ := hs.lifecycleDrawn row hrow
      exact ⟨Nat.lt_succ_of_lt hid, Nat.lt_succ_of_lt hpos⟩

/-- A position that is open has its one active lifecycle. -/
theorem Consistent.one_active {b : Book} {positionId : RowId} {quantity : ℚ}
    (h : Consistent carried b positionId quantity) (hquantity : quantity ≠ 0) :
    (b.openLifecycles positionId).length = 1 := by
  rw [h.active, if_neg hquantity]

/-- The lifecycles left open by the transition of a consistent position. -/
theorem active_after {previous next : ℚ} {opens closes : Bool}
    (hcloses : closes = true ↔ ends arith previous next)
    (hopens : opens = true ↔ next ≠ 0 ∧ (previous = 0 ∨ ends arith previous next)) :
    (if closes = true then 0 else if previous = 0 then 0 else 1) + (if opens = true then 1 else 0) =
      if next = 0 then 0 else 1 := by
  by_cases hends : ends arith previous next
  · have hclosed : closes = true := hcloses.mpr hends
    by_cases hnext : next = 0 <;> simp [hclosed, hopens, hends, hnext]
  · have hclosed : ¬closes = true := fun h => hends (hcloses.mp h)
    rw [if_neg hclosed]
    by_cases hprevious : previous = 0
    · by_cases hnext : next = 0 <;> simp [hopens, hprevious, hnext]
    · have hnext : next ≠ 0 := fun hnext => hends ⟨hprevious, .inl hnext⟩
      simp [hopens, hprevious, hnext, hends]

theorem openedAmount_nonneg {side : Side} {previous quantity : ℚ} (hquantity : 0 ≤ quantity) :
    0 ≤ openedAmount side previous quantity := by
  cases side with
  | buy => exact longOpened_nonneg hquantity
  | sell => exact le_rfl

theorem openedAmount_carried (hc : Carries arith carried) {side : Side} {previous quantity : ℚ}
    (hpos : 0 ≤ quantity) (hquantity : carried quantity) (hnext : carried (exactNext previous side quantity)) :
    carried (openedAmount side previous quantity) := by
  have hzero : carried 0 := hc.zero hquantity hpos
  cases side with
  | sell => exact hzero
  | buy =>
    simp only [openedAmount, longOpened]
    split
    · exact hquantity
    · rcases max_choice 0 (quantity + previous) with hmax | hmax
      · rw [hmax]
        exact hzero
      · rw [hmax, add_comm]
        exact hnext

/-- The position row as it is written: under its own id, with the quantity it was given. -/
theorem writePosition_ok (hc : Carries arith carried) {positions written : List Position} {p : Position}
    (hquantity : carried p.quantity) (h : writePosition arith positions p = .ok written) :
    (∀ row ∈ written, (row.id = p.id ∧ row.quantity = p.quantity) ∨ (row.id ≠ p.id ∧ row ∈ positions)) ∧
      written.map Position.id = positions.map Position.id := by
  obtain ⟨quantity, hstored, h⟩ := bind_ok.mp h
  obtain ⟨averageCost, hcost, h⟩ := bind_ok.mp h
  rw [hc.store _ hquantity] at hstored
  rw [← Except.ok.inj h, ← Except.ok.inj hstored]
  constructor
  · intro row hrow
    obtain ⟨old, hold, rfl⟩ := Rows.mem_update.mp hrow
    split
    · exact .inl ⟨rfl, rfl⟩
    · rename_i hne
      exact .inr ⟨hne, hold⟩
  · unfold Rows.update
    rw [List.map_map]
    refine List.map_congr_left fun old _ => ?_
    by_cases hold : old.id = p.id <;> simp [hold]

/-- What an execution leaves: the new quantity under the position, everything else as it
was. -/
structure Moved (carried : ℚ → Prop) (b after : Book) (positionId : RowId) (next : ℚ) : Prop where
  consistent : Consistent carried after positionId next
  lots : ∀ other, other ≠ positionId → after.lotsOf other = b.lotsOf other
  lifecycles : ∀ other, other ≠ positionId → after.lifecyclesOf other = b.lifecyclesOf other
  drawn : b.drawn ≤ after.drawn
  positions : ∀ row ∈ after.positions,
    (row.id = positionId ∧ row.quantity = next) ∨ (row.id ≠ positionId ∧ row ∈ b.positions)
  positionIds : after.positions.map Position.id = b.positions.map Position.id
  lifecycleIds : (after.lifecycles.map PersistedPositionLifecycle.id).Nodup
  lotDrawn : ∀ lot ∈ after.lots, lot.positionId < after.drawn
  lifecycleDrawn : ∀ row ∈ after.lifecycles, row.id < after.drawn ∧ row.positionId < after.drawn

theorem Moved.sound {b after : Book} {positionId : RowId} {next : ℚ} (hs : b.Sound carried)
    (h : Moved carried b after positionId next) : after.Sound carried := by
  refine ⟨?_, h.positionIds ▸ hs.positionIds, h.lifecycleIds, ?_, h.lotDrawn, h.lifecycleDrawn⟩
  · intro row hrow
    rcases h.positions row hrow with ⟨hid, hquantity⟩ | ⟨hne, hold⟩
    · rw [hid, hquantity]
      exact h.consistent
    · exact (hs.positions row hold).congr (h.lots _ hne) (h.lifecycles _ hne)
  · intro row hrow
    have hid : row.id ∈ b.positions.map Position.id := h.positionIds ▸ List.mem_map_of_mem hrow
    obtain ⟨old, hold, heq⟩ := List.mem_map.mp hid
    rw [← heq]
    exact lt_of_lt_of_le (hs.positionDrawn old hold) h.drawn

/-- The lineage of an execution of the exact amounts, from the lots already closed. -/
theorem lineage_moved (hc : Carries arith carried) {b after : Book} {positions : List Position}
    {lots : List PersistedPositionLot} {positionId fillId : RowId} {previous quantity : ℚ} {side : Side}
    {executedAt : Instant} (hs : b.Sound carried) (hcons : Consistent carried b positionId previous)
    (hdrawn : positionId < b.drawn) (hpos : 0 ≤ quantity) (hquantity : carried quantity)
    (hnext : carried (exactNext previous side quantity))
    (hpositions : ∀ row ∈ positions, (row.id = positionId ∧ row.quantity = exactNext previous side quantity) ∨
      (row.id ≠ positionId ∧ row ∈ b.positions))
    (hpositionIds : positions.map Position.id = b.positions.map Position.id)
    (hclosed : Closed carried b.lots lots positionId (closedAmount side previous quantity))
    (h : recordPositionLineage arith { b with positions := positions, lots := lots } positionId previous fillId
      side quantity executedAt = .ok after) :
    Moved carried b after positionId (exactNext previous side quantity) := by
  obtain ⟨transition, htransition, h⟩ := bind_ok.mp h
  obtain ⟨hprevious, hcloses, hopens, -⟩ := transition_shape htransition
  rw [nextQuantity_exact hc hquantity hnext] at hcloses hopens
  set b₂ : Book := { b with positions := positions, lots := lots }
  have hclosing : Closing b₂
      (if transition.closed.isSome then closeActive b₂ positionId fillId executedAt else b₂.lifecycles) positionId
      (if transition.closed.isSome then 0 else (b₂.openLifecycles positionId).length) := by
    split
    · rename_i hends
      exact closing_closeActive hs.lifecycleIds (hcons.one_active (hcloses.mp hends).1)
    · exact ⟨fun _ _ => rfl, rfl, rfl, rfl, rfl⟩
  have hwritten : Written b₂ (writeTransition b₂ positionId fillId executedAt transition) positionId transition :=
    written_of_closing hclosing hs.lifecycleIds hs.lifecycleDrawn hcons.ordinals hdrawn
      fun opened hopened => transition_opened htransition hopened
  generalize writeTransition b₂ positionId fillId executedAt transition = b₃ at h hwritten
  rw [hprevious, lotQuantity_exact hc hnext] at h
  have hlot := openLot_ok hc (fun _ => openedAmount_carried hc hpos hquantity hnext)
    (openedAmount_nonneg hpos) h
  have hlots : b₃.lots = lots := hwritten.lots
  have hafterDrawn : b.drawn ≤ after.drawn := hwritten.drawn.trans hlot.drawn
  refine ⟨⟨hnext, ?_, ?_, ?_, ?_⟩, ?_, ?_, hafterDrawn, ?_, ?_, ?_, ?_, ?_⟩
  · intro lot hmem
    obtain ⟨hmem, hid⟩ := List.mem_filter.mp hmem
    rcases hlot.lot lot hmem with hold | ⟨-, hnew⟩
    · rw [hlots] at hold
      exact hclosed.lot lot (List.mem_filter.mpr ⟨hold, hid⟩)
    · exact hnew
  · rw [hlot.sum, max_zero_exactNext hpos, ← hcons.lots]
    show (remaining (b₃.lots.filter _)).sum + _ = _
    rw [hlots, hclosed.sum]
    rfl
  · show ((after.lifecycles.filter _).filter _).length = _
    rw [hlot.lifecycles]
    show (b₃.openLifecycles positionId).length = _
    rw [hwritten.active, ← active_after hcloses hopens]
    show (if transition.closed.isSome then 0 else (b.openLifecycles positionId).length) + _ = _
    rw [hcons.active]
  · show ((after.lifecycles.filter _).map _).Pairwise _
    rw [hlot.lifecycles]
    exact hwritten.ordinals
  · intro other hother
    rw [hlot.other other hother]
    show b₃.lots.filter _ = _
    rw [hlots]
    exact hclosed.other other hother
  · intro other hother
    show after.lifecycles.filter _ = _
    rw [hlot.lifecycles]
    exact hwritten.other other hother
  · rw [hlot.positions, hwritten.positions]
    exact hpositions
  · rw [hlot.positions, hwritten.positions]
    exact hpositionIds
  · rw [hlot.lifecycles]
    exact hwritten.ids
  · intro lot hmem
    rcases hlot.lot lot hmem with hold | ⟨hid, -⟩
    · rw [hlots] at hold
      obtain ⟨source, hsource, heq⟩ := hclosed.source lot hold
      rw [heq]
      exact lt_of_lt_of_le (hs.lotDrawn source hsource) hafterDrawn
    · rw [hid]
      exact lt_of_lt_of_le hdrawn hafterDrawn
  · intro row hrow
    rw [hlot.lifecycles] at hrow
    obtain ⟨hid, hposition⟩ := hwritten.lifecycleDrawn row hrow
    exact ⟨lt_of_lt_of_le hid hlot.drawn, lt_of_lt_of_le hposition hlot.drawn⟩

/-- What an execution leaves when neither its size nor the quantity it leads to is rounded. -/
theorem applyToPosition_moved (hc : Carries arith carried) {b after : Book} {fillId : RowId}
    {event : BrokerExecutionEvent} (hs : b.Sound carried) (hquantity : carried event.quantity)
    (hnext : carried (exactNext (b.held event.accountId event.instrumentId) event.side event.quantity))
    (h : applyToPosition arith b fillId event = .ok after) :
    Moved carried (positionFor b event).2 after (positionFor b event).1.id
      (exactNext (b.held event.accountId event.instrumentId) event.side event.quantity) := by
  have hpos : 0 ≤ event.quantity := event.terms.1.le
  have hposition : Found carried b event (positionFor b event).1 (positionFor b event).2 :=
    positionFor_found hs (hc.zero hquantity hpos)
  obtain ⟨hfound, hheld, row, hrow, hrowId, hrowQuantity⟩ := hposition
  unfold applyToPosition at h
  generalize positionFor b event = found at h hfound hheld hrow hrowId hrowQuantity ⊢
  obtain ⟨p, b₁⟩ := found
  dsimp only at h hfound hheld hrow hrowId hrowQuantity ⊢
  rw [← hheld] at hnext ⊢
  obtain ⟨positions, hpositions, h⟩ := bind_ok.mp h
  obtain ⟨lots, hlots, h⟩ := bind_ok.mp h
  have hcons : Consistent carried b₁ p.id p.quantity := by
    have hcons := hfound.positions row hrow
    rwa [hrowId, hrowQuantity] at hcons
  have hfill : (p.fill arith event).quantity = exactNext p.quantity event.side event.quantity :=
    nextQuantity_exact hc hquantity hnext
  obtain ⟨hrows, hids⟩ := writePosition_ok hc (hfill.symm ▸ hnext) hpositions
  rw [hfill] at hrows
  exact lineage_moved hc hfound hcons (hrowId ▸ hfound.positionDrawn row hrow) hpos hquantity hnext hrows hids
    (closing_lots hc hcons hquantity hpos hlots) h

/-- Such an execution keeps the book sound. -/
theorem applyToPosition_sound (hc : Carries arith carried) {b after : Book} {fillId : RowId}
    {event : BrokerExecutionEvent} (hs : b.Sound carried) (hquantity : carried event.quantity)
    (hnext : carried (exactNext (b.held event.accountId event.instrumentId) event.side event.quantity))
    (h : applyToPosition arith b fillId event = .ok after) : after.Sound carried := by
  have hposition : Found carried b event (positionFor b event).1 (positionFor b event).2 :=
    positionFor_found hs (hc.zero hquantity event.terms.1.le)
  exact (applyToPosition_moved hc hs hquantity hnext h).sound hposition.sound

end AutoTrader.Ledger
