import AutoTrader.Ledger.PositionRuns

/-! The rows of orders over whole runs. Rows are added under ids of their own and never taken away;
only executions and status events write them. -/

namespace AutoTrader.Ledger

open AutoTrader.Dispatch AutoTrader.Domain AutoTrader.Execution AutoTrader.Runtime

variable {arith : Arithmetic} {hashes : AdoptionHashes} {t after : Tables}

/-- The ids of the order rows are used once. -/
def OrderIds (t : Tables) : Prop :=
  (t.orders.map PersistedOrder.id).Nodup

theorem OrderIds.order? (h : OrderIds t) {order : PersistedOrder} (hmem : order ∈ t.orders) :
    t.order? order.id = some order :=
  Rows.lookup_of_mem h hmem

/-- A row that meets no other has an id of its own. -/
theorem order?_of_clashes {row : PersistedOrder} (h : t.orders.any row.clashes = false) : t.order? row.id = none := by
  refine Rows.lookup_eq_none.mpr fun other hother hid => ?_
  have hfree := List.any_eq_false.mp h other hother
  simp [PersistedOrder.clashes, hid] at hfree

/-- Transactions that are no executions and no status events add at most one row. -/
theorem perform_orders {event : LedgerEvent} (hfill : ∀ fill, event ≠ .fill fill) (hstatus : ∀ report, event ≠ .status report)
    (h : perform arith hashes t event = .ok after) :
    after.orders = t.orders ∨ ∃ row, after.orders = t.orders ++ [row] ∧ t.order? row.id = none := by
  cases event with
  | fill fill => exact absurd rfl (hfill fill)
  | status report => exact absurd rfl (hstatus report)
  | release orderId brokerId sourcePartition now =>
    obtain ⟨⟨after, result⟩, hrelease, rfl⟩ := map_ok h
    rcases releaseIfComplete_ok hrelease with rfl | ⟨_, _, _, _, -, -, -, -, hreleased⟩
    · exact .inl rfl
    · obtain ⟨_, _, -, -, rfl⟩ := release_ok hreleased
      exact .inl rfl
  | checkpoint key checkpoint =>
    obtain ⟨streams, scopes, rfl⟩ := recordClosedIntervalCheckpoint_ok h
    exact .inl rfl
  | approve decision reservation accountId currency =>
    obtain ⟨_, _, _, _, _, -, -, -, -, ⟨-, -, _, -, rfl⟩ | ⟨-, rfl⟩⟩ := persistApproval_ok h
    · exact .inl rfl
    · exact .inl rfl
  | createOrder order event =>
    obtain ⟨_, rfl | ⟨rfl, hclash, -⟩⟩ := createApprovedOrder_ok h
    · exact .inl rfl
    · exact .inr ⟨_, rfl, order?_of_clashes hclash⟩
  | accept acceptance =>
    obtain rfl | ⟨_, rfl, -⟩ := linkAccepted_ok h
    · exact .inl rfl
    · exact .inl rfl
  | adopt adoption ids =>
    obtain ⟨⟨after, result⟩, hadopt, rfl⟩ := map_ok h
    obtain rfl | ⟨_, _, _, _, hbooked⟩ := adoptOpenOrder_ok hadopt
    · exact .inl rfl
    · exact .inr ⟨_, hbooked.orders, order?_of_clashes hbooked.freshOrder⟩

/-- What a status event leaves of a row. -/
theorem StatusOnly.order? (h : StatusOnly t after) (id : UUID) :
    (after.order? id).map PersistedOrder.terms = (t.order? id).map PersistedOrder.terms := by
  have hrows : ∀ rows : List PersistedOrder, (Rows.lookup PersistedOrder.id rows id).map PersistedOrder.terms =
      Rows.lookup PersistedOrder.id (rows.map PersistedOrder.terms) id := by
    intro rows
    unfold Rows.lookup
    rw [List.find?_map]
    rfl
  unfold Tables.order?
  rw [hrows, hrows, h.orders]

/-- An execution writes the row of its order alone. -/
theorem Applied.order? {anchors : RiskBudgetAnchor × RiskBudgetAnchor} {order : PersistedOrder} {stored : ℚ}
    {event : BrokerExecutionEvent} (h : Applied arith t after anchors order stored event) (id : UUID) :
    after.order? id = (t.order? id).map fun row =>
      if id = event.orderId then row.fill (filledTotal arith order event) stored else row := by
  have hid : ∀ row : PersistedOrder, (row.fill (filledTotal arith order event) stored).id = row.id := fun _ => rfl
  have horder : order.id = event.orderId := Rows.lookup_key (lockForFill_ok h.locked).found
  unfold Tables.order?
  rw [h.orders, Rows.lookup_update hid, horder]

theorem OrderIds.of_added {row : PersistedOrder} (h : OrderIds t) (hrow : after.orders = t.orders ++ [row])
    (hfree : t.order? row.id = none) : OrderIds after := by
  unfold OrderIds at h ⊢
  rw [hrow, List.map_append, List.map_singleton]
  refine List.nodup_append.mpr ⟨h, List.nodup_singleton _, ?_⟩
  intro id hid other hother heq
  obtain ⟨old, hold, rfl⟩ := List.mem_map.mp hid
  rw [List.mem_singleton.mp hother] at heq
  exact Rows.lookup_eq_none.mp hfree old hold heq

theorem OrderIds.status (h : OrderIds t) (honly : StatusOnly t after) : OrderIds after := by
  have hids : ∀ rows : List PersistedOrder, rows.map PersistedOrder.id = (rows.map PersistedOrder.terms).map PersistedOrder.id := by
    intro rows
    rw [List.map_map]
    rfl
  unfold OrderIds at h ⊢
  rw [hids, honly.orders, ← hids]
  exact h

theorem OrderIds.applied {anchors : RiskBudgetAnchor × RiskBudgetAnchor} {order : PersistedOrder} {stored : ℚ}
    {event : BrokerExecutionEvent} (h : OrderIds t) (happlied : Applied arith t after anchors order stored event) :
    OrderIds after := by
  have hids : ∀ row : PersistedOrder, (row.fill (filledTotal arith order event) stored).id = row.id := fun _ => rfl
  unfold OrderIds at h ⊢
  rw [happlied.orders, Rows.map_update hids]
  exact h

end AutoTrader.Ledger
