import AutoTrader.Ledger.StatusEvents

/-! A status event writes statuses, versions and marks, and nothing else. -/

namespace AutoTrader.Ledger

open AutoTrader.Dispatch AutoTrader.Domain AutoTrader.Execution AutoTrader.Runtime

/-- What a status event does not change of an order. -/
def PersistedOrder.terms (order : PersistedOrder) : PersistedOrder :=
  { order with status := .unknown, aggregateVersion := 0 }

/-- What it does not change of a link. -/
def linkTerms (link : BrokerOrderLink) : BrokerOrderLink :=
  { link with status := "" }

structure StatusOnly (t after : Tables) : Prop where
  intents : after.intents = t.intents
  diffs : after.diffs = t.diffs
  orders : after.orders.map PersistedOrder.terms = t.orders.map PersistedOrder.terms
  links : after.links.map linkTerms = t.links.map linkTerms
  fills : after.fills = t.fills
  streams : after.streams = t.streams
  scopes : after.scopes = t.scopes
  book : after.book = t.book
  decisions : after.decisions = t.decisions
  reservations : after.reservations = t.reservations
  anchors : after.anchors = t.anchors

theorem StatusOnly.refl (t : Tables) : StatusOnly t t :=
  ⟨rfl, rfl, rfl, rfl, rfl, rfl, rfl, rfl, rfl, rfl, rfl⟩

theorem StatusOnly.trans {a b c : Tables} (hab : StatusOnly a b) (hbc : StatusOnly b c) : StatusOnly a c where
  intents := hbc.intents.trans hab.intents
  diffs := hbc.diffs.trans hab.diffs
  orders := hbc.orders.trans hab.orders
  links := hbc.links.trans hab.links
  fills := hbc.fills.trans hab.fills
  streams := hbc.streams.trans hab.streams
  scopes := hbc.scopes.trans hab.scopes
  book := hbc.book.trans hab.book
  decisions := hbc.decisions.trans hab.decisions
  reservations := hbc.reservations.trans hab.reservations
  anchors := hbc.anchors.trans hab.anchors

theorem StatusOnly.updateOrder (t : Tables) (id : UUID) {values : PersistedOrder → PersistedOrder}
    (hvalues : ∀ row, (values row).terms = row.terms) : StatusOnly t (t.updateOrder id values) :=
  { StatusOnly.refl t with orders := Rows.map_update hvalues t.orders id }

theorem setLinkStatus_ok {t after : Tables} {orderId : UUID} {brokerOrderId status : String}
    (h : setLinkStatus t orderId brokerOrderId status = .ok after) :
    ∃ link, (t.linksOf orderId).find? (·.brokerOrderId = brokerOrderId) = some link ∧
      after = { t with links := Rows.update BrokerOrderLink.id t.links link.id ({ · with status := status }) } := by
  unfold setLinkStatus at h
  split at h
  · cases h
  · rename_i link hlink
    exact ⟨link, hlink, (Except.ok.inj h).symm⟩

theorem advanceMark_ok {t after : Tables} {orderId : UUID} {sourcePartition : String} {sequence : Option Nat}
    (h : advanceMark t orderId sourcePartition sequence = .ok after) :
    ∃ marks, after = { t with statusMarks := marks } := by
  unfold advanceMark advanceStatusWatermark at h
  dsimp only at h
  split at h
  · exact ⟨t.statusMarks, (Except.ok.inj h).symm⟩
  split at h
  · split at h
    · cases h
    · exact ⟨_, (Except.ok.inj h).symm⟩
  split at h
  · exact ⟨_, (Except.ok.inj h).symm⟩
  split at h
  · cases h
  · exact ⟨t.statusMarks, (Except.ok.inj h).symm⟩

theorem StatusOnly.setLinkStatus {t after : Tables} {orderId : UUID} {brokerOrderId status : String}
    (h : setLinkStatus t orderId brokerOrderId status = .ok after) : StatusOnly t after := by
  obtain ⟨link, -, rfl⟩ := setLinkStatus_ok h
  have hlinks : (Rows.update BrokerOrderLink.id t.links link.id ({ · with status := status })).map linkTerms =
      t.links.map linkTerms := by
    apply Rows.map_update
    exact fun _ => rfl
  exact { StatusOnly.refl t with links := hlinks }

theorem StatusOnly.advanceMark {t after : Tables} {orderId : UUID} {sourcePartition : String}
    {sequence : Option Nat} (h : advanceMark t orderId sourcePartition sequence = .ok after) :
    StatusOnly t after := by
  obtain ⟨marks, rfl⟩ := advanceMark_ok h
  exact { StatusOnly.refl t with }

theorem StatusOnly.report (t : Tables) (incident : OpsIncident) : StatusOnly t (t.report incident) :=
  { StatusOnly.refl t with }

theorem StatusOnly.ambiguity {t after : Tables} {order : PersistedOrder}
    {persisted : PersistedBrokerOrderStatusEvent} {outcome : BrokerStatusApplication}
    (h : recordUnsequencedOrderingAmbiguity t order persisted = .ok (after, outcome)) : StatusOnly t after := by
  obtain ⟨t₁, hlink, h⟩ := bind_ok.mp h
  obtain ⟨rfl, -⟩ := Prod.mk.inj (Except.ok.inj h)
  refine (StatusOnly.setLinkStatus hlink).trans ?_
  dsimp only
  split
  · exact .report t₁ _
  · have horder : StatusOnly t₁ (t₁.updateOrder order.id fun row =>
        { row with status := .unknown, aggregateVersion := row.aggregateVersion + 1 }) :=
      .updateOrder t₁ _ fun _ => rfl
    exact { horder with }

theorem StatusOnly.deferral {t after : Tables} {order : PersistedOrder}
    {persisted : PersistedBrokerOrderStatusEvent} {reason : DeferralReason} {outcome : BrokerStatusApplication}
    (h : applyDeferral t order persisted reason = .ok (after, outcome)) : StatusOnly t after := by
  cases reason with
  | liveSuccessorLink =>
    obtain ⟨t₁, hlink, h⟩ := bind_ok.mp h
    obtain ⟨t₂, hmark, h⟩ := bind_ok.mp h
    obtain ⟨rfl, -⟩ := Prod.mk.inj (Except.ok.inj h)
    exact (StatusOnly.setLinkStatus hlink).trans (.advanceMark hmark)
  | staleStatus =>
    obtain ⟨t₁, hmark, h⟩ := bind_ok.mp h
    obtain ⟨rfl, -⟩ := Prod.mk.inj (Except.ok.inj h)
    exact .advanceMark hmark
  | staleSequence =>
    obtain ⟨rfl, -⟩ := Prod.mk.inj (Except.ok.inj h)
    exact .refl t
  | sequenceGap =>
    obtain ⟨rfl, -⟩ := Prod.mk.inj (Except.ok.inj h)
    exact .refl t

theorem StatusOnly.transition {t after : Tables} {persisted : PersistedBrokerOrderStatusEvent}
    {transition : OrderTransition} {outcome : BrokerStatusApplication}
    (h : applyTransition t persisted transition = .ok (after, outcome)) : StatusOnly t after := by
  obtain ⟨t₁, hlink, h⟩ := bind_ok.mp h
  obtain ⟨t₂, hmark, h⟩ := bind_ok.mp h
  obtain ⟨rfl, -⟩ := Prod.mk.inj (Except.ok.inj h)
  refine (StatusOnly.trans ?_ (StatusOnly.setLinkStatus hlink)).trans { StatusOnly.advanceMark hmark with }
  exact .updateOrder t _ fun _ => rfl

/-- One recorded event is refused, set aside, or moves its order. -/
theorem applyOne_ok {t after : Tables} {persisted : PersistedBrokerOrderStatusEvent}
    {outcome : BrokerStatusApplication} (h : applyOne t persisted = .ok (after, outcome)) :
    ∃ order links, t.order? persisted.orderId = some order ∧ (t.linksInOrder order.id).mapM linkState = .ok links ∧
      ((persisted.sourceSequence = none ∧
          recordUnsequencedOrderingAmbiguity t order persisted = .ok (after, outcome)) ∨
        (∃ deferred, OrderStateMachine.apply order persisted links
            (t.statusMarks order.id persisted.sourcePartition) = .ok (.inl deferred) ∧
          applyDeferral t order persisted deferred.reason = .ok (after, outcome)) ∨
        (∃ transition, OrderStateMachine.apply order persisted links
            (t.statusMarks order.id persisted.sourcePartition) = .ok (.inr transition) ∧
          applyTransition t persisted transition = .ok (after, outcome))) := by
  unfold applyOne at h
  cases horder : t.order? persisted.orderId with
  | none =>
    rw [horder] at h
    cases h
  | some order =>
    rw [horder] at h
    dsimp only at h
    split at h
    · cases h
    obtain ⟨links, hlinks, h⟩ := bind_ok.mp h
    refine ⟨order, links, rfl, hlinks, ?_⟩
    split at h
    · obtain ⟨_, -, h⟩ := bind_ok.mp h
      split at h
      · split at h
        · cases h
        · rename_i hunsequenced
          exact .inl ⟨by simpa using hunsequenced, h⟩
      · rename_i deferred hdeferred
        exact .inr (.inl ⟨deferred, hdeferred, h⟩)
      · rename_i transition htransition
        exact .inr (.inr ⟨transition, htransition, h⟩)
    · cases h

/-- A transition the state machine grants. -/
theorem apply_transition {order : PersistedOrder} {event : PersistedBrokerOrderStatusEvent}
    {links : List BrokerOrderLinkState} {watermark : Option Nat} {transition : OrderTransition}
    (h : OrderStateMachine.apply order event links watermark = .ok (.inr transition)) :
    OrderStateMachine.target event.rawStatus ∈ OrderStateMachine.allowed order.status ∧
      transition = .create order (OrderStateMachine.target event.rawStatus) event.rawStatus event.occurredAt
        event.sourceSequence := by
  unfold OrderStateMachine.apply at h
  dsimp only at h
  split at h
  · cases h
  split at h
  · cases h
  split at h
  · cases h
  split at h
  · cases h
  split at h
  · split at h <;> cases h
  · rename_i hallowed
    exact ⟨not_not.mp hallowed, (Sum.inr.inj (Except.ok.inj h)).symm⟩

/-- A status set aside for a live link is one an order ends in. -/
theorem apply_deferred {order : PersistedOrder} {event : PersistedBrokerOrderStatusEvent}
    {links : List BrokerOrderLinkState} {watermark : Option Nat} {deferred : DeferredBrokerStatus}
    (h : OrderStateMachine.apply order event links watermark = .ok (.inl deferred))
    (hreason : deferred.reason = .liveSuccessorLink) :
    (OrderStateMachine.target event.rawStatus).isTerminal = true := by
  unfold OrderStateMachine.apply at h
  dsimp only at h
  split at h
  · cases h
  split at h
  · rw [← Sum.inl.inj (Except.ok.inj h)] at hreason
    cases hreason
  split at h
  · rw [← Sum.inl.inj (Except.ok.inj h)] at hreason
    cases hreason
  split at h
  · rename_i hterminal
    exact hterminal.1
  split at h
  · split at h
    · rw [← Sum.inl.inj (Except.ok.inj h)] at hreason
      cases hreason
    · cases h
  · cases h

/-- A text that names a status an order ends in is a status. -/
theorem target_terminal {text : String} (h : (OrderStateMachine.target text).isTerminal = true) :
    (OrderStatus.ofValue? text).isSome = true := by
  unfold OrderStateMachine.target at h
  cases hstatus : OrderStatus.ofValue? text with
  | none =>
    rw [hstatus] at h
    cases h
  | some status => rfl

/-- What applying one event writes: the order's status, if any, is `UNKNOWN` or one the state
machine allows, and a link's is one that can be read. -/
theorem applyOne_writes {t after : Tables} {persisted : PersistedBrokerOrderStatusEvent}
    {outcome : BrokerStatusApplication} (h : applyOne t persisted = .ok (after, outcome)) :
    ∃ order, t.order? persisted.orderId = some order ∧
      (after.orders = t.orders ∨ ∃ (status : OrderStatus) (version : PersistedOrder → Nat),
        after.orders = Rows.update PersistedOrder.id t.orders order.id (fun row =>
          { row with status := status, aggregateVersion := version row }) ∧
        (status = .unknown ∨ status ∈ OrderStateMachine.allowed order.status)) ∧
      (after.links = t.links ∨ ∃ id text,
        after.links = Rows.update BrokerOrderLink.id t.links id ({ · with status := text }) ∧
        (OrderStatus.ofValue? text).isSome = true) := by
  obtain ⟨order, links, horder, -, ⟨-, hcase⟩ | ⟨deferred, hdeferred, hcase⟩ | ⟨transition, hgranted, hcase⟩⟩ :=
    applyOne_ok h
  · obtain ⟨t₁, hlink, hcase⟩ := bind_ok.mp hcase
    obtain ⟨link, -, rfl⟩ := setLinkStatus_ok hlink
    obtain ⟨rfl, -⟩ := Prod.mk.inj (Except.ok.inj hcase)
    refine ⟨order, horder, ?_, .inr ⟨link.id, OrderStatus.unknown.value, ?_, rfl⟩⟩
    · dsimp only
      split
      · exact .inl rfl
      · exact .inr ⟨.unknown, fun row => row.aggregateVersion + 1, rfl, .inl rfl⟩
    · dsimp only
      split <;> rfl
  · cases hreason : deferred.reason with
    | liveSuccessorLink =>
      rw [hreason] at hcase
      obtain ⟨t₁, hlink, hcase⟩ := bind_ok.mp hcase
      obtain ⟨t₂, hmark, hcase⟩ := bind_ok.mp hcase
      obtain ⟨link, -, rfl⟩ := setLinkStatus_ok hlink
      obtain ⟨marks, rfl⟩ := advanceMark_ok hmark
      obtain ⟨rfl, -⟩ := Prod.mk.inj (Except.ok.inj hcase)
      exact ⟨order, horder, .inl rfl, .inr ⟨link.id, persisted.rawStatus, rfl,
        target_terminal (apply_deferred hdeferred hreason)⟩⟩
    | staleStatus =>
      rw [hreason] at hcase
      obtain ⟨t₁, hmark, hcase⟩ := bind_ok.mp hcase
      obtain ⟨marks, rfl⟩ := advanceMark_ok hmark
      obtain ⟨rfl, -⟩ := Prod.mk.inj (Except.ok.inj hcase)
      exact ⟨order, horder, .inl rfl, .inl rfl⟩
    | staleSequence =>
      rw [hreason] at hcase
      obtain ⟨rfl, -⟩ := Prod.mk.inj (Except.ok.inj hcase)
      exact ⟨order, horder, .inl rfl, .inl rfl⟩
    | sequenceGap =>
      rw [hreason] at hcase
      obtain ⟨rfl, -⟩ := Prod.mk.inj (Except.ok.inj hcase)
      exact ⟨order, horder, .inl rfl, .inl rfl⟩
  · obtain ⟨hallowed, rfl⟩ := apply_transition hgranted
    obtain ⟨t₁, hlink, hcase⟩ := bind_ok.mp hcase
    obtain ⟨t₂, hmark, hcase⟩ := bind_ok.mp hcase
    obtain ⟨link, -, rfl⟩ := setLinkStatus_ok hlink
    obtain ⟨marks, rfl⟩ := advanceMark_ok hmark
    obtain ⟨rfl, -⟩ := Prod.mk.inj (Except.ok.inj hcase)
    refine ⟨order, horder, .inr ⟨_, fun _ => order.aggregateVersion + 1, rfl, .inr hallowed⟩,
      .inr ⟨link.id, _, rfl, ?_⟩⟩
    show (OrderStatus.ofValue? (OrderStateMachine.target persisted.rawStatus).value).isSome = true
    rw [OrderStatus.ofValue?_value]
    rfl

theorem StatusOnly.one {t after : Tables} {persisted : PersistedBrokerOrderStatusEvent}
    {outcome : BrokerStatusApplication} (h : applyOne t persisted = .ok (after, outcome)) : StatusOnly t after := by
  obtain ⟨order, links, -, -, ⟨-, h⟩ | ⟨deferred, -, h⟩ | ⟨transition, -, h⟩⟩ := applyOne_ok h
  · exact .ambiguity h
  · exact .deferral h
  · exact .transition h

/-- What every application of one event keeps, the loop keeps. -/
theorem applyContiguous_keeps {R : Tables → Tables → Prop} (hrefl : ∀ t, R t t)
    (htrans : ∀ a b c, R a b → R b c → R a c)
    (hone : ∀ t after persisted outcome, applyOne t persisted = .ok (after, outcome) → R t after)
    {orderId : UUID} {sourcePartition : String} {rounds : Nat} {t after : Tables}
    {seen outcome : BrokerStatusApplication}
    (h : applyContiguous orderId sourcePartition rounds t seen = .ok (after, outcome)) : R t after := by
  induction rounds generalizing t seen with
  | zero =>
    obtain ⟨rfl, -⟩ := Prod.mk.inj (Except.ok.inj h)
    exact hrefl t
  | succ rounds ih =>
    unfold applyContiguous at h
    split at h
    · obtain ⟨rfl, -⟩ := Prod.mk.inj (Except.ok.inj h)
      exact hrefl t
    · obtain ⟨⟨t₁, one⟩, happly, h⟩ := bind_ok.mp h
      dsimp only at h
      split at h
      · exact htrans _ _ _ (hone _ _ _ _ happly) (ih h)
      · obtain ⟨rfl, -⟩ := Prod.mk.inj (Except.ok.inj h)
        exact hone _ _ _ _ happly

/-- What recording keeps and every application of one event keeps, a status event keeps. -/
theorem applyStatusOnce_keeps {R : Tables → Tables → Prop} (hrefl : ∀ t, R t t)
    (htrans : ∀ a b c, R a b → R b c → R a c)
    (hone : ∀ t after persisted outcome, applyOne t persisted = .ok (after, outcome) → R t after)
    (hreport : ∀ t incident, R t (t.report incident))
    (hrecord : ∀ t event, R t { t with statusEvents := t.statusEvents ++ [event] })
    {t after : Tables} {event : BrokerOrderStatusEvent} {outcome : BrokerStatusApplication}
    (h : applyStatusOnce t event = .ok (after, outcome)) : R t after := by
  obtain ⟨persisted, -, h⟩ := bind_ok.mp h
  obtain ⟨⟨t₁, result⟩, hrecorded, h⟩ := bind_ok.mp h
  have hfirst : R t t₁ := by
    unfold recordBrokerStatusOnce at hrecorded
    split at hrecorded
    · split at hrecorded
      · obtain ⟨rfl, -⟩ := Prod.mk.inj (Except.ok.inj hrecorded)
        exact hreport t _
      · obtain ⟨rfl, -⟩ := Prod.mk.inj (Except.ok.inj hrecorded)
        exact hrefl t
    · split at hrecorded
      · cases hrecorded
      · obtain ⟨rfl, -⟩ := Prod.mk.inj (Except.ok.inj hrecorded)
        exact hrecord t _
  dsimp only at h
  split at h
  · obtain ⟨rfl, -⟩ := Prod.mk.inj (Except.ok.inj h)
    exact hfirst
  split at h
  · exact htrans _ _ _ hfirst (hone _ _ _ _ h)
  · exact htrans _ _ _ hfirst (applyContiguous_keeps hrefl htrans hone h)

theorem StatusOnly.event {t after : Tables} {event : BrokerOrderStatusEvent} {outcome : BrokerStatusApplication}
    (h : applyStatusOnce t event = .ok (after, outcome)) : StatusOnly t after :=
  applyStatusOnce_keeps StatusOnly.refl (fun _ _ _ => StatusOnly.trans) (fun _ _ _ _ => StatusOnly.one)
    StatusOnly.report (fun t _ => { StatusOnly.refl t with }) h

end AutoTrader.Ledger
