import AutoTrader.Ledger.Fills

/-! What one execution does to every table, said once. -/

namespace AutoTrader.Ledger

open AutoTrader.Dispatch AutoTrader.Domain AutoTrader.Execution AutoTrader.Runtime

variable {arith : Arithmetic}

/-- The charge of a fill that found `previous` held. -/
def charge (arith : Arithmetic) (r : PersistedRiskReservation) (event : BrokerExecutionEvent) (previous : ℚ) :
    Consumption :=
  consumption arith r event.price (riskIncreaseQuantity arith event previous)

/-- How reservations, anchors and incidents stand after a charge. -/
inductive Charged (arith : Arithmetic) (t after : Tables) (anchors : RiskBudgetAnchor × RiskBudgetAnchor)
    (order : PersistedOrder) (event : BrokerExecutionEvent) (previous : ℚ) : Prop
  | unreserved (absent : t.reservation? order.riskDecisionId = none) (reservations : after.reservations = t.reservations)
      (unmoved : after.anchors = t.anchors)
      (incidents : after.incidents = t.incidents ++
        overfillIncidents order (filledTotal arith order event) event.observedAt)
  | reserved (r stored : PersistedRiskReservation) (found : t.reservation? order.riskDecisionId = some r)
      (kept : (r.consume arith (charge arith r event previous)).store arith = .ok stored)
      (reservations : after.reservations =
        Rows.update PersistedRiskReservation.riskDecisionId t.reservations order.riskDecisionId fun _ => stored)
      (moved : writeAnchors arith t.anchors anchors (·.consume arith (charge arith r event previous)) =
        .ok after.anchors)
      (incidents : after.incidents = t.incidents ++
        overfillIncidents order (filledTotal arith order event) event.observedAt ++
        consumptionIncidents arith order.id (charge arith r event previous) event.observedAt)

/-- The tables after an execution that was recorded. -/
structure Applied (arith : Arithmetic) (t after : Tables) (anchors : RiskBudgetAnchor × RiskBudgetAnchor)
    (order : PersistedOrder) (stored : ℚ) (event : BrokerExecutionEvent) : Prop where
  locked : lockForFill t event = .ok (anchors, order)
  unrecorded : t.fill? event = none
  total : arith.store (filledTotal arith order event) = .ok stored
  orders : after.orders =
    Rows.update PersistedOrder.id t.orders order.id (·.fill (filledTotal arith order event) stored)
  orderEvents : after.orderEvents = t.orderEvents ++ [fillApplied order (filledTotal arith order event) event]
  links : after.links = t.links
  fills : after.fills = t.fills ++ [fillRow arith t.book.drawn event]
  statusEvents : after.statusEvents = t.statusEvents
  statusMarks : after.statusMarks = t.statusMarks
  streams : after.streams = (advanceStream { t with fills := after.fills } event).streams
  scopes : after.scopes = t.scopes
  book : applyToPosition arith { t.book with drawn := t.book.drawn + 1 } t.book.drawn event = .ok after.book
  decisions : after.decisions = t.decisions
  charged : Charged arith t after anchors order event (t.book.held event.accountId event.instrumentId)

/-- What an execution was checked against. -/
structure Locked (t : Tables) (event : BrokerExecutionEvent) (anchors : RiskBudgetAnchor × RiskBudgetAnchor)
    (order : PersistedOrder) : Prop where
  budget : lockGlobalAndAccount t.anchors event.accountId event.currency = some anchors
  found : t.order? event.orderId = some order
  account : order.accountId = event.accountId
  instrument : order.instrumentId = event.instrumentId
  side : order.side = event.side
  linked : (t.linksOf order.id).any (·.brokerOrderId = event.brokerOrderId) = true

theorem lockForFill_ok {t : Tables} {event : BrokerExecutionEvent} {anchors : RiskBudgetAnchor × RiskBudgetAnchor}
    {order : PersistedOrder} (h : lockForFill t event = .ok (anchors, order)) : Locked t event anchors order := by
  unfold lockForFill at h
  split at h
  · cases h
  rename_i found hanchors
  split at h
  · cases h
  rename_i row horder
  split at h
  · cases h
  rename_i hmatch
  simp only [ne_eq, not_or, not_not] at hmatch
  split at h
  · rename_i hlinked
    obtain ⟨rfl, rfl⟩ := Prod.mk.inj (Except.ok.inj h)
    exact ⟨hanchors, horder, hmatch.1, hmatch.2.1, hmatch.2.2, hlinked⟩
  · cases h

theorem persistOnce_ok {t after : Tables} {event : BrokerExecutionEvent} {row : PersistedFill}
    {result : FillInsertResult} (h : persistOnce arith t event = .ok (after, row, result)) :
    (result = .inserted ∧ t.fill? event = none ∧ row = fillRow arith t.book.drawn event ∧
      after = { t with fills := t.fills ++ [row], book := { t.book with drawn := t.book.drawn + 1 } }) ∨
    (result ≠ .inserted ∧ ∃ existing, t.fill? event = some existing ∧
      (after = t ∨ after = t.report (blockingIncident "BROKER_EXECUTION_IDENTITY_PAYLOAD_CONFLICT"
        (some existing.orderId) event.observedAt))) := by
  unfold persistOnce at h
  cases hfill : t.fill? event with
  | some existing =>
    rw [hfill] at h
    dsimp only at h
    refine .inr ?_
    split at h
    · obtain ⟨rfl, -, rfl⟩ := Prod.mk.injEq .. ▸ Prod.mk.injEq .. ▸ Except.ok.inj h
      exact ⟨by decide, existing, rfl, .inr rfl⟩
    · obtain ⟨rfl, -, rfl⟩ := Prod.mk.injEq .. ▸ Prod.mk.injEq .. ▸ Except.ok.inj h
      exact ⟨by decide, existing, rfl, .inl rfl⟩
  | none =>
    rw [hfill] at h
    dsimp only at h
    split at h
    · obtain ⟨rfl, rfl, rfl⟩ := Prod.mk.injEq .. ▸ Prod.mk.injEq .. ▸ Except.ok.inj h
      exact .inl ⟨rfl, rfl, rfl, rfl⟩
    · cases h

/-- Advancing a stream changes streams alone. -/
theorem advanceStream_eq (t : Tables) (event : BrokerExecutionEvent) :
    advanceStream t event = { t with streams := (advanceStream t event).streams } := by
  unfold advanceStream
  split <;> rfl

theorem advanceStream_congr {t t' : Tables} (event : BrokerExecutionEvent) (hfills : t.fills = t'.fills)
    (hstreams : t.streams = t'.streams) : (advanceStream t event).streams = (advanceStream t' event).streams := by
  unfold advanceStream Tables.received
  split
  · exact hstreams
  · rw [hfills, hstreams]

/-- An execution is found recorded, or recorded and applied. -/
theorem applyEventOnce_ok {t after : Tables} {event : BrokerExecutionEvent} {result : Option FillApplication}
    (h : applyEventOnce arith t event = .ok (after, result)) :
    (result = none ∧ ∃ existing, t.fill? event = some existing ∧
      (after = t ∨ after = t.report (blockingIncident "BROKER_EXECUTION_IDENTITY_PAYLOAD_CONFLICT"
        (some existing.orderId) event.observedAt))) ∨
    (result.isSome ∧ ∃ anchors order stored, Applied arith t after anchors order stored event) := by
  obtain ⟨⟨anchors, order⟩, hlock, h⟩ := bind_ok.mp h
  obtain ⟨⟨t₁, persisted, outcome⟩, hpersist, h⟩ := bind_ok.mp h
  dsimp only at h
  rcases persistOnce_ok hpersist with ⟨rfl, hnew, rfl, rfl⟩ | ⟨hseen, existing, hfill, hafter⟩
  · rw [if_neg (by decide)] at h
    obtain ⟨t₂, hfilled, h⟩ := bind_ok.mp h
    obtain ⟨book, hbook, h⟩ := bind_ok.mp h
    obtain ⟨t₃, hcharge, h⟩ := bind_ok.mp h
    obtain ⟨stored, hstored, hfilled⟩ := bind_ok.mp hfilled
    obtain ⟨rfl, rfl⟩ := Prod.mk.inj (Except.ok.inj h)
    refine .inr ⟨rfl, anchors, order, stored, ?_⟩
    rw [← Except.ok.inj hfilled] at hbook hcharge
    rw [advanceStream_eq] at hbook hcharge
    unfold consumeReservation at hcharge
    split at hcharge
    · rename_i habsent
      rw [← Except.ok.inj hcharge]
      exact
        { locked := hlock, unrecorded := hnew, total := hstored, orders := rfl, orderEvents := rfl, links := rfl
          fills := rfl, statusEvents := rfl, statusMarks := rfl
          streams := advanceStream_congr event rfl rfl, scopes := rfl, book := hbook
          decisions := rfl, charged := .unreserved habsent rfl rfl rfl }
    · rename_i r hfound
      obtain ⟨kept, hkept, hcharge⟩ := bind_ok.mp hcharge
      obtain ⟨written, hwritten, hcharge⟩ := bind_ok.mp hcharge
      rw [← Except.ok.inj hcharge]
      exact
        { locked := hlock, unrecorded := hnew, total := hstored, orders := rfl, orderEvents := rfl, links := rfl
          fills := rfl, statusEvents := rfl, statusMarks := rfl
          streams := advanceStream_congr event rfl rfl, scopes := rfl, book := hbook
          decisions := rfl, charged := .reserved r kept hfound hkept rfl hwritten rfl }
  · rw [if_pos hseen] at h
    obtain ⟨rfl, rfl⟩ := Prod.mk.inj (Except.ok.inj h)
    exact .inl ⟨rfl, existing, hfill, hafter⟩

end AutoTrader.Ledger
