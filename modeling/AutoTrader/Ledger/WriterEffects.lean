import AutoTrader.Ledger.StatusEffects
import AutoTrader.Ledger.System

/-! What approvals, order creations, acceptances, adoptions, checkpoints and releases do to the
tables, each said once. -/

namespace AutoTrader.Ledger

open AutoTrader.Dispatch AutoTrader.Domain AutoTrader.Execution AutoTrader.Runtime

variable {arith : Arithmetic} {hashes : AdoptionHashes}

/-! ### Approvals -/

/-- A decision is found stored, or stored under an id and an intent that no row has. -/
theorem persistDecision_ok {decisions after : List PersistedRiskDecision} {decision stored : PersistedRiskDecision}
    (h : persistDecision arith decisions decision = .ok (after, stored)) :
    (after = decisions ∧ stored ∈ decisions) ∨
      (after = decisions ++ [decision.row arith] ∧ stored = decision.row arith ∧
        ∀ d ∈ decisions, d.id ≠ decision.id) := by
  unfold persistDecision at h
  dsimp only at h
  split at h
  · cases h
  rename_i existing hfound
  split at h
  · cases h
  obtain ⟨rfl, rfl⟩ := Prod.mk.inj (Except.ok.inj h)
  by_cases hinserted : ((decision.row arith).passes && !decisions.any fun d =>
      d.id = (decision.row arith).id || d.orderIntentId = (decision.row arith).orderIntentId) = true
  · rw [if_pos hinserted] at hfound ⊢
    simp only [Bool.and_eq_true, Bool.not_eq_true', List.any_eq_false, Bool.or_eq_true, decide_eq_true_eq,
      not_or] at hinserted
    have habsent : decisions.find? (·.orderIntentId = decision.orderIntentId) = none := by
      refine List.find?_eq_none.mpr fun d hd hsame => ?_
      exact (hinserted.2 d hd).2 (of_decide_eq_true hsame)
    rw [List.find?_append, habsent, Option.none_or] at hfound
    exact .inr ⟨rfl, List.mem_singleton.mp (List.mem_of_find?_eq_some hfound), fun d hd => (hinserted.2 d hd).1⟩
  · rw [if_neg hinserted] at hfound ⊢
    exact .inl ⟨rfl, List.mem_of_find?_eq_some hfound⟩

/-- A reservation is found stored, or stored under a decision that has none. -/
theorem persistReservation_ok {decisions : List PersistedRiskDecision}
    {reservations after : List PersistedRiskReservation} {reservation : PersistedRiskReservation} {created : Bool}
    (h : persistReservation arith decisions reservations reservation = .ok (after, created)) :
    ∃ decision, decisions.find? (·.id = reservation.riskDecisionId) = some decision ∧
      ((created = true ∧ after = reservations ++ [reservation.row arith decision.currency] ∧
          (reservation.row arith decision.currency).passes = true ∧
          ∀ r ∈ reservations, r.riskDecisionId ≠ reservation.riskDecisionId) ∨
        (created = false ∧ after = reservations ∧
          ∃ r ∈ reservations, r.riskDecisionId = reservation.riskDecisionId)) := by
  unfold persistReservation at h
  split at h
  · cases h
  rename_i decision hdecision
  refine ⟨decision, hdecision, ?_⟩
  dsimp only at h
  split at h
  · cases h
  rename_i existing hfound
  split at h
  · cases h
  obtain ⟨rfl, rfl⟩ := Prod.mk.inj (Except.ok.inj h)
  by_cases hinserted : ((reservation.row arith decision.currency).passes &&
      !reservations.any (reservation.row arith decision.currency).clashes) = true
  · rw [if_pos hinserted]
    refine .inl ⟨hinserted, rfl, ?_⟩
    simp only [Bool.and_eq_true, Bool.not_eq_true', List.any_eq_false] at hinserted
    refine ⟨hinserted.1, fun r hr heq => hinserted.2 r hr ?_⟩
    have hsame : r.riskDecisionId = (reservation.row arith decision.currency).riskDecisionId := heq
    simp [PersistedRiskReservation.clashes, hsame]
  · rw [if_neg hinserted] at hfound ⊢
    exact .inr ⟨by simpa using hinserted, rfl, existing, List.mem_of_find?_eq_some hfound, Rows.lookup_key hfound⟩

/-- What an approval was checked for: a reduction reserves nothing. -/
theorem checkApproval_ok {decision : PersistedRiskDecision} {reservation : PersistedRiskReservation}
    {accountId : UUID} {currency : String} (h : checkApproval decision reservation accountId currency = .ok ()) :
    reservation.riskDecisionId = decision.id ∧ reservation.accountId = accountId ∧ decision.currency = currency ∧
      (decision.outcome = .approve ∨ (decision.outcome = .reduce ∧ reservation.remainingRiskAmount = 0)) := by
  unfold checkApproval at h
  split at h
  · cases h
  rename_i hid
  split at h
  · cases h
  rename_i hmatch
  rw [not_or, not_not, not_not] at hmatch
  refine ⟨not_not.mp hid, hmatch.1, hmatch.2, ?_⟩
  cases houtcome : decision.outcome with
  | approve => exact .inl rfl
  | reduce =>
    rw [houtcome] at h
    dsimp only at h
    split at h
    · cases h
    · rename_i hzero
      simp only [not_or, ne_eq, not_not] at hzero
      exact .inr ⟨rfl, hzero.2.2.1⟩
  | reject =>
    rw [houtcome] at h
    cases h
  | observedBlocking =>
    rw [houtcome] at h
    cases h

/-- An approval stores decision and reservation, and charges the anchors when the reservation
is new and approved. -/
theorem persistApproval_ok {t after : Tables} {decision : PersistedRiskDecision}
    {reservation : PersistedRiskReservation} {accountId : UUID} {currency : String}
    (h : persistApproval arith t decision reservation accountId currency = .ok after) :
    ∃ anchors decisions stored reservations created,
      lockGlobalAndAccount t.anchors accountId currency = some anchors ∧
      checkApproval decision reservation accountId currency = .ok () ∧
      persistDecision arith t.decisions decision = .ok (decisions, stored) ∧
      persistReservation arith decisions t.reservations { reservation with riskDecisionId := stored.id } =
        .ok (reservations, created) ∧
      ((created = true ∧ decision.outcome = .approve ∧ ∃ written,
          writeAnchors arith t.anchors anchors (·.reserve arith reservation.remainingRiskAmount) = .ok written ∧
          after = { t with decisions := decisions, reservations := reservations, anchors := written }) ∨
        (¬(created = true ∧ decision.outcome = .approve) ∧
          after = { t with decisions := decisions, reservations := reservations })) := by
  unfold persistApproval at h
  split at h
  · cases h
  rename_i anchors hanchors
  obtain ⟨_, hcheck, h⟩ := bind_ok.mp h
  obtain ⟨⟨decisions, stored⟩, hdecision, h⟩ := bind_ok.mp h
  obtain ⟨⟨reservations, created⟩, hreservation, h⟩ := bind_ok.mp h
  refine ⟨anchors, decisions, stored, reservations, created, hanchors, hcheck, hdecision, hreservation, ?_⟩
  dsimp only at h
  split at h
  · rename_i hcharge
    split at h
    · cases h
    · obtain ⟨written, hwritten, h⟩ := bind_ok.mp h
      exact .inl ⟨hcharge.1, hcharge.2, written, hwritten, (Except.ok.inj h).symm⟩
  · rename_i hkept
    exact .inr ⟨hkept, (Except.ok.inj h).symm⟩

/-! ### Orders -/

/-- A creation adds at most the row of its order, under a decision of its intent. -/
theorem createApprovedOrder_ok {t after : Tables} {order : PersistedOrder} {event : PersistedOrderEvent}
    (h : createApprovedOrder arith t order event = .ok after) :
    ∃ events, after = { t with orderEvents := events } ∨
      (after = { t with orders := t.orders ++ [{ order with filledQuantity := 0 }.row arith], orderEvents := events } ∧
        t.orders.any ({ order with filledQuantity := 0 }.row arith).clashes = false ∧
        ∃ d ∈ t.decisions, d.id = order.riskDecisionId ∧ d.orderIntentId = order.orderIntentId) := by
  obtain ⟨⟨t₁, stored⟩, hcreated, h⟩ := bind_ok.mp h
  dsimp only at h
  have hevent : ∃ events, after = { t₁ with orderEvents := events } := by
    unfold createEventOnce at h
    split at h
    · exact ⟨_, (Except.ok.inj h).symm⟩
    · split at h
      · cases h
      · exact ⟨t₁.orderEvents, (Except.ok.inj h).symm⟩
  obtain ⟨events, rfl⟩ := hevent
  refine ⟨events, ?_⟩
  unfold createOrderOnce at hcreated
  dsimp only at hcreated
  split at hcreated
  · cases hcreated
  split at hcreated
  · obtain ⟨rfl, -⟩ := Prod.mk.inj (Except.ok.inj hcreated)
    split
    · rename_i hinserted
      simp only [Bool.and_eq_true, Bool.not_eq_true', List.any_eq_true, decide_eq_true_eq] at hinserted
      obtain ⟨⟨-, d, hd, hid, hintent⟩, hclash⟩ := hinserted
      exact .inr ⟨rfl, hclash, d, hd, hid, hintent⟩
    · exact .inl rfl
  · cases hcreated

/-- An acceptance adds at most its own link. -/
theorem linkAccepted_ok {t after : Tables} {a : Acceptance} (h : linkAccepted t a = .ok after) :
    after = t ∨ ∃ link, after = { t with links := t.links ++ [link] } ∧ link.orderId = a.orderId ∧
      link.brokerId = a.brokerId ∧ link.brokerOrderId = a.brokerOrderId ∧ link.status = "ACTIVE" ∧
      ¬∃ other ∈ t.links, other.brokerId = a.brokerId ∧ other.brokerOrderId = a.brokerOrderId := by
  unfold linkAccepted at h
  split at h
  · exact .inl (Except.ok.inj h).symm
  split at h
  · cases h
  · rename_i hnew
    refine .inr ⟨_, (Except.ok.inj h).symm, rfl, rfl, rfl, rfl, ?_⟩
    simpa using hnew

/-! ### Adoptions -/

/-- The rows of a first adoption. -/
structure Booked (arith : Arithmetic) (hashes : AdoptionHashes) (t after : Tables)
    (anchors : RiskBudgetAnchor × RiskBudgetAnchor) (a : BrokerOpenOrderAdoption) (ids : AdoptionIds)
    (requested reserved : ℚ) (limitPrice : Option ℚ) : Prop where
  locked : lockGlobalAndAccount t.anchors a.accountId a.currency = some anchors
  amount : arith.store a.reservedRiskAmount = .ok reserved
  unlinked : ¬∃ link ∈ t.links, link.brokerId = a.brokerId ∧ link.brokerOrderId = a.brokerOrderId
  freshDecision : ∀ d ∈ t.decisions, d.id ≠ ids.decisionId ∧ d.orderIntentId ≠ ids.intentId
  freshReservation : t.reservations.any (adoptedReservation a ids reserved).clashes = false
  freshOrder : t.orders.any (adoptedOrder a ids requested limitPrice).clashes = false
  moved : writeAnchors arith t.anchors anchors (·.reserve arith a.reservedRiskAmount) = .ok after.anchors
  orders : after.orders = t.orders ++ [adoptedOrder a ids requested limitPrice]
  orderEvents : after.orderEvents =
    t.orderEvents ++ [⟨ids.orderId, 1, .unknown, "ADOPTED_BROKER_OPEN", a.observedAt⟩]
  links : after.links = t.links ++ [adoptedLink a ids]
  fills : after.fills = t.fills
  statusEvents : after.statusEvents = t.statusEvents
  statusMarks : after.statusMarks = t.statusMarks
  streams : after.streams = t.streams
  scopes : after.scopes = t.scopes
  book : after.book = t.book
  decisions : after.decisions = t.decisions ++ [adoptedDecision hashes a ids requested reserved]
  reservations : after.reservations = t.reservations ++ [adoptedReservation a ids reserved]
  incidents : after.incidents = t.incidents

theorem bookAdoption_ok {t after : Tables} {anchors : RiskBudgetAnchor × RiskBudgetAnchor}
    {a : BrokerOpenOrderAdoption} {ids : AdoptionIds}
    (hlocked : lockGlobalAndAccount t.anchors a.accountId a.currency = some anchors)
    (hunlinked : ¬∃ link ∈ t.links, link.brokerId = a.brokerId ∧ link.brokerOrderId = a.brokerOrderId)
    (h : bookAdoption arith hashes t anchors a ids = .ok after) :
    ∃ requested reserved limitPrice, Booked arith hashes t after anchors a ids requested reserved limitPrice := by
  obtain ⟨requested, -, h⟩ := bind_ok.mp h
  obtain ⟨reserved, hreserved, h⟩ := bind_ok.mp h
  obtain ⟨limitPrice, -, h⟩ := bind_ok.mp h
  dsimp only at h
  split at h
  · cases h
  rename_i hfresh
  simp only [not_or, Bool.not_eq_true] at hfresh
  obtain ⟨-, -, hdecisions, hreservations, horders⟩ := hfresh
  obtain ⟨written, hwritten, h⟩ := bind_ok.mp h
  rw [← Except.ok.inj h]
  refine ⟨requested, reserved, limitPrice, ?_⟩
  exact
    { locked := hlocked, amount := hreserved, unlinked := hunlinked, freshDecision := by simpa using hdecisions
      freshReservation := hreservations, freshOrder := horders, moved := hwritten, orders := rfl
      orderEvents := rfl, links := rfl, fills := rfl, statusEvents := rfl, statusMarks := rfl, streams := rfl
      scopes := rfl, book := rfl, decisions := rfl, reservations := rfl, incidents := rfl }

theorem adoptOpenOrder_ok {t after : Tables} {a : BrokerOpenOrderAdoption} {ids : AdoptionIds}
    {result : BrokerOpenOrderAdoptionResult} (h : adoptOpenOrder arith hashes t a ids = .ok (after, result)) :
    after = t ∨ ∃ anchors requested reserved limitPrice,
      Booked arith hashes t after anchors a ids requested reserved limitPrice := by
  unfold adoptOpenOrder at h
  dsimp only at h
  split at h
  · cases h
  split at h
  · cases h
  split at h
  · obtain ⟨_, -, h⟩ := bind_ok.mp h
    exact .inl (Prod.mk.inj (Except.ok.inj h)).1.symm
  rename_i hunlinked
  split at h
  · cases h
  split at h
  · cases h
  rename_i anchors hlocked
  obtain ⟨t₁, hbooked, h⟩ := bind_ok.mp h
  obtain ⟨rfl, -⟩ := Prod.mk.inj (Except.ok.inj h)
  exact .inr ⟨anchors, bookAdoption_ok hlocked (by simpa [List.find?_eq_none] using hunlinked) hbooked⟩

/-! ### Checkpoints and releases -/

theorem recordClosedIntervalCheckpoint_ok {t after : Tables} {key : StreamKey} {c : Checkpoint}
    (h : recordClosedIntervalCheckpoint t key c = .ok after) :
    ∃ streams scopes, after = { t with streams := streams, scopes := scopes } := by
  unfold recordClosedIntervalCheckpoint at h
  dsimp only at h
  split at h
  · cases h
  split at h
  · cases h
  split at h
  · exact ⟨_, _, (Except.ok.inj h).symm⟩
  split at h
  · exact ⟨t.streams, t.scopes, (Except.ok.inj h).symm⟩
  · exact ⟨_, _, (Except.ok.inj h).symm⟩

/-- What a release that happens found, and what it writes. -/
theorem releaseIfComplete_ok {t after : Tables} {orderId brokerId : UUID} {sourcePartition : String} {now : Instant}
    {result : TerminalReleaseApplication}
    (h : releaseIfComplete arith t orderId brokerId sourcePartition now = .ok (after, result)) :
    after = t ∨ ∃ order decision anchors reservation, t.order? orderId = some order ∧
      t.decisions.find? (·.id = order.riskDecisionId) = some decision ∧
      lockGlobalAndAccount t.anchors order.accountId decision.currency = some anchors ∧
      t.reservation? order.riskDecisionId = some reservation ∧
      release arith t anchors reservation = .ok after := by
  unfold releaseIfComplete at h
  split at h
  · cases h
  rename_i order horder
  split at h
  · cases h
  rename_i decision hdecision
  split at h
  · cases h
  rename_i anchors hanchors
  dsimp only at h
  split at h
  · exact .inl (Prod.mk.inj (Except.ok.inj h)).1.symm
  split at h
  · cases h
  rename_i reservation hreservation
  split at h
  · exact .inl (Prod.mk.inj (Except.ok.inj h)).1.symm
  obtain ⟨states, -, h⟩ := bind_ok.mp h
  split at h
  · exact .inl (Prod.mk.inj (Except.ok.inj h)).1.symm
  split at h
  · exact .inl (Prod.mk.inj (Except.ok.inj h)).1.symm
  obtain ⟨t₁, hreleased, h⟩ := bind_ok.mp h
  obtain ⟨rfl, -⟩ := Prod.mk.inj (Except.ok.inj h)
  exact .inr ⟨order, decision, anchors, reservation, horder, hdecision, hanchors, hreservation, hreleased⟩

/-- The row of a reservation whose remaining amount is given back. -/
def PersistedRiskReservation.released (arith : Arithmetic) (r : PersistedRiskReservation) : PersistedRiskReservation :=
  { r with
    remainingRiskAmount := 0
    releasedRiskAmount := arith.fix (r.releasedRiskAmount + r.remainingRiskAmount)
    status := .released
    releaseReason := some "BROKER_TERMINAL_EXECUTION_COMPLETE" }

/-- A stored reservation passed the accounting check. -/
theorem PersistedRiskReservation.store_ok {r stored : PersistedRiskReservation} (h : r.store arith = .ok stored) :
    arith.store r.remainingRiskAmount = .ok stored.remainingRiskAmount ∧
      stored.consumedRiskAmount + stored.remainingRiskAmount + stored.releasedRiskAmount =
        stored.initialRiskAmount ∧
      0 ≤ stored.consumedRiskAmount ∧ 0 ≤ stored.remainingRiskAmount ∧ 0 ≤ stored.releasedRiskAmount ∧
      stored.riskDecisionId = r.riskDecisionId ∧ stored.accountId = r.accountId ∧ stored.currency = r.currency := by
  obtain ⟨consumed, -, h⟩ := bind_ok.mp h
  obtain ⟨remaining, hremaining, h⟩ := bind_ok.mp h
  obtain ⟨released, -, h⟩ := bind_ok.mp h
  split at h
  · cases h
  rename_i hchecks
  simp only [not_or, not_lt, ne_eq, not_not] at hchecks
  rw [← Except.ok.inj h]
  exact ⟨hremaining, hchecks.2.2.2, hchecks.1, hchecks.2.1, hchecks.2.2.1, rfl, rfl, rfl⟩

theorem release_ok {t after : Tables} {anchors : RiskBudgetAnchor × RiskBudgetAnchor}
    {reservation : PersistedRiskReservation} (h : release arith t anchors reservation = .ok after) :
    ∃ written stored, writeAnchors arith t.anchors anchors (·.release arith reservation.remainingRiskAmount) =
        .ok written ∧
      (reservation.released arith).store arith = .ok stored ∧
      after = { t with
        anchors := written
        reservations := Rows.update PersistedRiskReservation.riskDecisionId t.reservations
          reservation.riskDecisionId fun _ => stored } := by
  unfold release at h
  dsimp only at h
  split at h
  · cases h
  obtain ⟨written, hwritten, h⟩ := bind_ok.mp h
  obtain ⟨stored, hstored, h⟩ := bind_ok.mp h
  exact ⟨written, stored, hwritten, hstored, (Except.ok.inj h).symm⟩

end AutoTrader.Ledger
