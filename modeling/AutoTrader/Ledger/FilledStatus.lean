import AutoTrader.Ledger.DeliveryOrder
import AutoTrader.Ledger.OrderFillRuns

/-! The executions of an acknowledged order and the broker's `FILLED` event, in any order. The
event is legal as long as an execution is still to come; after the last one the order is filled
already, and nothing follows from `FILLED`. -/

namespace AutoTrader.Ledger

open AutoTrader.Dispatch AutoTrader.Domain AutoTrader.Execution AutoTrader.Numeric AutoTrader.Runtime

variable {hashes : AdoptionHashes}

/-! ### The event -/

/-- A new `FILLED` event of an order, at a broker order linked to it; in its turn, when it has a
sequence, and with nothing that waits for it. -/
structure FilledReport (t : Tables) (order : PersistedOrder) (event : BrokerOrderStatusEvent)
    (row : PersistedBrokerOrderStatusEvent) : Prop where
  resolved : event.resolved = .ok row
  orderId : row.orderId = order.id
  account : row.accountId = order.accountId
  status : row.rawStatus = OrderStatus.filled.value
  linked : (t.linksOf order.id).any (·.brokerOrderId = row.brokerOrderId) = true
  unrecorded : t.statusEvent? row = none
  next : ∀ s, row.sourceSequence = some s → ∃ m, s = m + 1 ∧ t.statusMarks order.id row.sourcePartition = markOf m
  last : ∀ s, row.sourceSequence = some s → ∀ old ∈ t.statusEvents, old.orderId = order.id →
    old.sourcePartition = row.sourcePartition → ∀ s', old.sourceSequence = some s' → s' < s

section Report

variable {t : Tables} {order : PersistedOrder} {event : BrokerOrderStatusEvent}
  {row : PersistedBrokerOrderStatusEvent} {states : List BrokerOrderLinkState}

theorem linkStates_ids {links : List BrokerOrderLink} (h : links.mapM linkState = .ok states) :
    states.map (·.brokerOrderId) = links.map (·.brokerOrderId) := by
  induction links generalizing states with
  | nil =>
    rw [← Except.ok.inj h]
    rfl
  | cons link links ih =>
    rw [List.mapM_cons] at h
    obtain ⟨state, hstate, h⟩ := bind_ok.mp h
    obtain ⟨rest, hrest, h⟩ := bind_ok.mp h
    obtain ⟨status, -, hstate⟩ := bind_ok.mp hstate
    rw [← Except.ok.inj h, ← Except.ok.inj hstate, List.map_cons, List.map_cons, ih hrest]

/-- A link of the order is among the states that were read. -/
theorem linkStates_linked (h : (t.linksInOrder order.id).mapM linkState = .ok states)
    (hlinked : (t.linksOf order.id).any (·.brokerOrderId = row.brokerOrderId) = true) :
    states.any (·.brokerOrderId = row.brokerOrderId) = true := by
  obtain ⟨link, hlink, hid⟩ := List.any_eq_true.mp hlinked
  have hmem : row.brokerOrderId ∈ states.map (·.brokerOrderId) := by
    rw [linkStates_ids h]
    exact List.mem_map.mpr ⟨link, (List.mem_insertionSort _).mpr hlink, by simpa using hid⟩
  obtain ⟨state, hstate, heq⟩ := List.mem_map.mp hmem
  exact List.any_eq_true.mpr ⟨state, hstate, by simpa using heq⟩

/-- What the state machine makes of the event. -/
theorem apply_filled (haccount : row.accountId = order.accountId) (hstatus : row.rawStatus = OrderStatus.filled.value)
    {watermark : Option Nat}
    (hnext : ∀ s, row.sourceSequence = some s → ∃ m, s = m + 1 ∧ watermark = markOf m) :
    OrderStateMachine.apply order row states watermark =
      if OrderStateMachine.canTerminalize row.brokerOrderId .filled states = false then
        .ok (.inl ⟨.liveSuccessorLink, some (watermark.getD 0 + 1)⟩)
      else if OrderStatus.filled ∉ OrderStateMachine.allowed order.status then
        .error ⟨.invalidOrderTransitionError,
          order.status.value ++ " cannot transition to " ++ OrderStatus.filled.value⟩
      else .ok (.inr (.create order .filled row.rawStatus row.occurredAt row.sourceSequence)) := by
  have htarget : OrderStateMachine.target row.rawStatus = .filled := by
    rw [hstatus]
    rfl
  have hstale : (row.sourceSequence.any fun sequence => watermark.any fun last => sequence ≤ last) = false := by
    cases hsequence : row.sourceSequence with
    | none => rfl
    | some s =>
      obtain ⟨m, rfl, rfl⟩ := hnext s hsequence
      unfold markOf
      split <;> simp
  have hahead : (row.sourceSequence.any fun sequence => watermark.getD 0 + 1 < sequence) = false := by
    cases hsequence : row.sourceSequence with
    | none => rfl
    | some s =>
      obtain ⟨m, rfl, rfl⟩ := hnext s hsequence
      simp [markOf_getD]
  unfold OrderStateMachine.apply
  dsimp only
  rw [if_neg (not_not.mpr haccount), hstale, hahead, htarget]
  simp [OrderStatus.isTerminal]

theorem setLinkStatus_exists {orderId : UUID} {brokerOrderId : String} (status : String)
    (hlinked : (t.linksOf orderId).any (·.brokerOrderId = brokerOrderId) = true) :
    ∃ after, setLinkStatus t orderId brokerOrderId status = .ok after := by
  unfold setLinkStatus
  cases hfound : (t.linksOf orderId).find? (·.brokerOrderId = brokerOrderId) with
  | none =>
    obtain ⟨link, hlink, hid⟩ := List.any_eq_true.mp hlinked
    exact absurd hid (List.find?_eq_none.mp hfound link hlink)
  | some link => exact ⟨_, rfl⟩

theorem advanceMark_exists {orderId : UUID} {sourcePartition : String} {sequence : Option Nat}
    (hnext : ∀ s, sequence = some s → ∃ m, s = m + 1 ∧ t.statusMarks orderId sourcePartition = markOf m) :
    ∃ after, advanceMark t orderId sourcePartition sequence = .ok after := by
  cases sequence with
  | none => exact ⟨t, rfl⟩
  | some s =>
    obtain ⟨m, rfl, hmark⟩ := hnext s rfl
    simp only [advanceMark, advanceStatusWatermark, hmark, markOf]
    split
    · rename_i hlast
      split at hlast
      · rename_i hzero
        rw [hzero]
        exact ⟨_, rfl⟩
      · cases hlast
    · rename_i last hlast
      split at hlast
      · cases hlast
      · rw [← Option.some.inj hlast, if_pos rfl]
        exact ⟨_, rfl⟩

/-- What applying the event meets. -/
structure Applicable (t : Tables) (order : PersistedOrder) (row : PersistedBrokerOrderStatusEvent)
    (states : List BrokerOrderLinkState) : Prop where
  found : t.order? row.orderId = some order
  account : row.accountId = order.accountId
  status : row.rawStatus = OrderStatus.filled.value
  linked : (t.linksOf order.id).any (·.brokerOrderId = row.brokerOrderId) = true
  read : (t.linksInOrder order.id).mapM linkState = .ok states
  domain : checkDomainOrder order = .ok ()
  next : ∀ s, row.sourceSequence = some s → ∃ m, s = m + 1 ∧ t.statusMarks order.id row.sourcePartition = markOf m

theorem Applicable.applyOne_eq (h : Applicable t order row states) :
    applyOne t row =
      match OrderStateMachine.apply order row states (t.statusMarks order.id row.sourcePartition) with
      | .error e => if row.sourceSequence.isSome then .error e else recordUnsequencedOrderingAmbiguity t order row
      | .ok (.inl deferred) => applyDeferral t order row deferred.reason
      | .ok (.inr transition) => applyTransition t row transition := by
  unfold applyOne
  rw [h.found]
  dsimp only
  rw [if_neg (not_not.mpr h.account.symm), h.read, ok_bind, if_pos (linkStates_linked h.read h.linked), h.domain]
  rfl

/-- A link that is not the event's is live: the event only ends its own link. -/
theorem Applicable.set_aside (h : Applicable t order row states)
    (hlive : OrderStateMachine.canTerminalize row.brokerOrderId .filled states = false) :
    ∃ after outcome, applyOne t row = .ok (after, outcome) ∧ after.orders = t.orders ∧
      after.incidents = t.incidents := by
  have hdeferred : OrderStateMachine.apply order row states (t.statusMarks order.id row.sourcePartition) = _ :=
    apply_filled h.account h.status h.next
  rw [if_pos hlive] at hdeferred
  obtain ⟨t₁, hlink⟩ := setLinkStatus_exists row.rawStatus h.linked
  have hnext : ∀ s, row.sourceSequence = some s → ∃ m, s = m + 1 ∧
      t₁.statusMarks order.id row.sourcePartition = markOf m := by
    rw [setLinkStatus_marks hlink]
    exact h.next
  obtain ⟨t₂, hmark⟩ := advanceMark_exists hnext
  refine ⟨t₂, ⟨true, false⟩, ?_, ?_, ?_⟩
  · rw [h.applyOne_eq, hdeferred]
    exact bind_ok.mpr ⟨t₁, hlink, bind_ok.mpr ⟨t₂, hmark, rfl⟩⟩
  · obtain ⟨link, -, rfl⟩ := setLinkStatus_ok hlink
    obtain ⟨marks, rfl⟩ := advanceMark_ok hmark
    rfl
  · obtain ⟨link, -, rfl⟩ := setLinkStatus_ok hlink
    obtain ⟨marks, rfl⟩ := advanceMark_ok hmark
    rfl

/-- The order is filled by the event. -/
theorem Applicable.granted (h : Applicable t order row states)
    (hended : OrderStateMachine.canTerminalize row.brokerOrderId .filled states = true)
    (hallowed : OrderStatus.filled ∈ OrderStateMachine.allowed order.status) :
    ∃ after outcome, applyOne t row = .ok (after, outcome) ∧
      after.orders = Rows.update PersistedOrder.id t.orders order.id (fun old =>
        { old with status := .filled, aggregateVersion := order.aggregateVersion + 1 }) ∧
      after.incidents = t.incidents := by
  have hgranted : OrderStateMachine.apply order row states (t.statusMarks order.id row.sourcePartition) = _ :=
    apply_filled h.account h.status h.next
  rw [if_neg (by rw [hended]; decide), if_neg (not_not.mpr hallowed)] at hgranted
  set updated : Tables := t.updateOrder order.id fun old =>
    { old with status := .filled, aggregateVersion := order.aggregateVersion + 1 } with hupdated
  have hlinked : (updated.linksOf order.id).any (·.brokerOrderId = row.brokerOrderId) = true := h.linked
  obtain ⟨t₁, hlink⟩ := setLinkStatus_exists OrderStatus.filled.value hlinked
  have hnext : ∀ s, row.sourceSequence = some s → ∃ m, s = m + 1 ∧
      t₁.statusMarks order.id row.sourcePartition = markOf m := by
    rw [setLinkStatus_marks hlink]
    exact h.next
  obtain ⟨t₂, hmark⟩ := advanceMark_exists hnext
  refine ⟨{ t₂ with orderEvents := t₂.orderEvents ++
      [⟨order.id, order.aggregateVersion + 1, .filled, row.rawStatus, row.occurredAt⟩] },
    ⟨true, linksTerminal (t₂.linksOf order.id)⟩, ?_, ?_, ?_⟩
  · rw [h.applyOne_eq, hgranted]
    exact bind_ok.mpr ⟨t₁, hlink, bind_ok.mpr ⟨t₂, hmark, rfl⟩⟩
  · obtain ⟨link, -, rfl⟩ := setLinkStatus_ok hlink
    obtain ⟨marks, rfl⟩ := advanceMark_ok hmark
    rfl
  · obtain ⟨link, -, rfl⟩ := setLinkStatus_ok hlink
    obtain ⟨marks, rfl⟩ := advanceMark_ok hmark
    rfl

/-- No transition leads to `FILLED`: a sequenced event is refused, any other opens an incident. -/
theorem Applicable.refused (h : Applicable t order row states)
    (hended : OrderStateMachine.canTerminalize row.brokerOrderId .filled states = true)
    (hnot : OrderStatus.filled ∉ OrderStateMachine.allowed order.status) {after : Tables}
    {outcome : BrokerStatusApplication} (happly : applyOne t row = .ok (after, outcome)) :
    row.sourceSequence = none ∧ ∃ incident, incident.severity = .blocking ∧ incident.isOpen = true ∧
      after.incidents = t.incidents ++ [incident] := by
  have hrefused : OrderStateMachine.apply order row states (t.statusMarks order.id row.sourcePartition) = _ :=
    apply_filled h.account h.status h.next
  rw [if_neg (by rw [hended]; decide), if_pos hnot] at hrefused
  rw [h.applyOne_eq, hrefused] at happly
  dsimp only at happly
  split at happly
  · cases happly
  rename_i hsequence
  obtain ⟨t₁, hlink, happly⟩ := bind_ok.mp happly
  obtain ⟨rfl, -⟩ := Prod.mk.inj (Except.ok.inj happly)
  obtain ⟨link, -, rfl⟩ := setLinkStatus_ok hlink
  refine ⟨by simpa using hsequence, blockingIncident "UNSEQUENCED_BROKER_STATUS_ORDERING_AMBIGUITY" (some order.id)
    row.observedAt, rfl, rfl, ?_⟩
  dsimp only
  split <;> rfl

/-- The event is recorded. -/
theorem FilledReport.records (h : FilledReport t order event row) (hfound : t.order? order.id = some order) :
    recordBrokerStatusOnce t row = .ok (t.withStatusEvents (t.statusEvents ++ [row]), .inserted) := by
  have hpresent : (t.order? row.orderId).isNone = false := by
    rw [h.orderId, hfound]
    rfl
  unfold recordBrokerStatusOnce
  rw [h.unrecorded]
  dsimp only
  rw [hpresent, if_neg Bool.false_ne_true]
  rfl

/-- The recorded event is the one the loop finds first, and then it finds none. -/
theorem FilledReport.finds (h : FilledReport t order event row) {m : Nat} (hsequence : row.sourceSequence = some (m + 1)) :
    (t.statusMarks order.id row.sourcePartition = markOf m →
      nextStatusEvent (t.withStatusEvents (t.statusEvents ++ [row])) order.id row.sourcePartition = some row) ∧
    ∀ after : Tables, after.statusEvents = t.statusEvents ++ [row] →
      after.statusMarks order.id row.sourcePartition = markOf (m + 1) →
        nextStatusEvent after order.id row.sourcePartition = none := by
  constructor
  · intro hmark
    unfold nextStatusEvent
    change (t.statusEvents ++ [row]).find? (fun old => old.orderId = order.id &&
      old.sourcePartition = row.sourcePartition &&
        decide (old.sourceSequence = some ((t.statusMarks order.id row.sourcePartition).getD 0 + 1))) = _
    rw [hmark, markOf_getD, List.find?_append]
    have hnone : t.statusEvents.find? (fun old => old.orderId = order.id &&
        old.sourcePartition = row.sourcePartition && decide (old.sourceSequence = some (m + 1))) = none := by
      refine List.find?_eq_none.mpr fun old hold hfound => ?_
      simp only [Bool.and_eq_true, decide_eq_true_eq] at hfound
      exact absurd (h.last _ hsequence old hold hfound.1.1 hfound.1.2 _ hfound.2) (lt_irrefl _)
    rw [hnone]
    simp [h.orderId, hsequence]
  · intro after hevents hmark
    unfold nextStatusEvent
    rw [hevents, hmark, markOf_getD]
    refine List.find?_eq_none.mpr fun old hold hfound => ?_
    simp only [Bool.and_eq_true, decide_eq_true_eq] at hfound
    rcases List.mem_append.mp hold with hold | hold
    · have hlt := h.last _ hsequence old hold hfound.1.1 hfound.1.2 _ hfound.2
      omega
    · rw [List.mem_singleton.mp hold, hsequence] at hfound
      simp at hfound

/-- The handler applies the event once, and raises what its application raises. -/
theorem FilledReport.handled (h : FilledReport t order event row) (hfound : t.order? order.id = some order) :
    (∀ e, applyOne (t.withStatusEvents (t.statusEvents ++ [row])) row = .error e →
      applyStatusOnce t event = .error e) ∧
    ∀ after outcome, applyOne (t.withStatusEvents (t.statusEvents ++ [row])) row = .ok (after, outcome) →
      ∃ total, applyStatusOnce t event = .ok (after, total) := by
  have hhandler : applyStatusOnce t event =
      if row.sourceSequence.isNone then applyOne (t.withStatusEvents (t.statusEvents ++ [row])) row
      else applyContiguous row.orderId row.sourcePartition ((t.statusEvents ++ [row]).length + 1)
        (t.withStatusEvents (t.statusEvents ++ [row])) ⟨false, false⟩ := by
    unfold applyStatusOnce
    rw [h.resolved, ok_bind, h.records hfound, ok_bind]
    rfl
  rw [hhandler]
  cases hsequence : row.sourceSequence with
  | none => exact ⟨fun e he => he, fun after outcome happly => ⟨outcome, happly⟩⟩
  | some s =>
    obtain ⟨m, rfl, hmark⟩ := h.next s hsequence
    obtain ⟨hfirst, hthen⟩ := h.finds hsequence
    rw [if_neg (by simp), h.orderId]
    constructor
    · intro e he
      unfold applyContiguous
      rw [hfirst hmark]
      dsimp only
      rw [he]
      rfl
    · intro after outcome happly
      have hevents : after.statusEvents = t.statusEvents ++ [row] := applyOne_statusEvents happly
      have hnext : outcome.applied = true ∧
          after.statusMarks row.orderId row.sourcePartition = markOf (m + 1) := by
        refine applyOne_next hsequence ?_ happly
        rw [h.orderId]
        exact hmark
      rw [h.orderId] at hnext
      unfold applyContiguous
      rw [hfirst hmark]
      dsimp only
      rw [happly, ok_bind]
      dsimp only
      rw [if_pos hnext.1, List.length_append]
      change ∃ total, applyContiguous order.id row.sourcePartition (t.statusEvents.length + 0 + 1) after _ = _
      unfold applyContiguous
      rw [hthen after hevents hnext.2]
      exact ⟨_, rfl⟩

end Report

/-! ### What the event leaves -/

section Frame

variable {t after : Tables} {order later : PersistedOrder} {currency : String}

theorem StatusOnly.linksOf_any (h : StatusOnly t after) (orderId : UUID) (brokerOrderId : String) :
    (after.linksOf orderId).any (·.brokerOrderId = brokerOrderId) =
      (t.linksOf orderId).any (·.brokerOrderId = brokerOrderId) := by
  have hany : ∀ links : List BrokerOrderLink,
      (links.filter (·.orderId = orderId)).any (·.brokerOrderId = brokerOrderId) =
        (links.map linkTerms).any fun link => link.orderId = orderId && link.brokerOrderId = brokerOrderId := by
    intro links
    rw [List.any_filter, List.any_map]
    rfl
  unfold Tables.linksOf
  rw [hany, hany, h.links]

/-- Equal terms agree on what is part of them. -/
theorem terms_agree {α : Type} (field : PersistedOrder → α) (hfield : ∀ order, field order.terms = field order)
    (hterms : later.terms = order.terms) : field later = field order := by
  rw [← hfield, hterms, hfield]

/-- A status event leaves an order ready. -/
theorem Ready.statusOnly (h : Ready t order currency) (honly : StatusOnly t after)
    (hfound : after.order? later.id = some later) (hterms : later.terms = order.terms) : Ready after later currency := by
  have haccount : later.accountId = order.accountId := terms_agree PersistedOrder.accountId (fun _ => rfl) hterms
  have hdecision : later.riskDecisionId = order.riskDecisionId := terms_agree PersistedOrder.riskDecisionId (fun _ => rfl) hterms
  refine ⟨hfound, honly.book ▸ h.book, honly.book ▸ h.costs, ?_, ?_⟩
  · rw [honly.anchors, haccount]
    exact h.locked
  · unfold Budgeted Tables.reservation?
    rw [honly.anchors, honly.reservations, haccount, hdecision]
    exact h.budgeted

theorem FillsOf.statusOnly {fills : List BrokerExecutionEvent} (h : FillsOf t order currency fills)
    (honly : StatusOnly t after) (hterms : later.terms = order.terms) : FillsOf after later currency fills := by
  have hid : later.id = order.id := terms_agree PersistedOrder.id (fun _ => rfl) hterms
  refine ⟨fun event hevent => ?_, fun event hevent => ?_, h.distinct⟩
  · have hof := h.belong event hevent
    refine ⟨hof.orderId.trans hid.symm, (terms_agree PersistedOrder.accountId (fun _ => rfl) hterms).trans hof.account,
      (terms_agree PersistedOrder.instrumentId (fun _ => rfl) hterms).trans hof.instrument,
      (terms_agree PersistedOrder.side (fun _ => rfl) hterms).trans hof.side, hof.currency, ?_⟩
    rw [honly.linksOf_any, hid]
    exact hof.linked
  · unfold Tables.fill?
    rw [honly.fills]
    exact h.unrecorded event hevent

/-- Executions leave the event to be reported. -/
theorem FilledReport.afterFills {event : BrokerOrderStatusEvent} {row : PersistedBrokerOrderStatusEvent}
    {fills : List BrokerExecutionEvent} {new : List OpsIncident} (h : FilledReport t order event row)
    (hrun : FillRun t after order later fills new) : FilledReport after later event row := by
  have hterms := hrun.terms
  have hid : later.id = order.id := by rw [hterms]
  have haccount : later.accountId = order.accountId := by rw [hterms]
  refine ⟨h.resolved, h.orderId.trans hid.symm, h.account.trans haccount.symm, h.status, ?_, ?_, ?_, ?_⟩
  · unfold Tables.linksOf
    rw [hrun.links, hid]
    exact h.linked
  · unfold Tables.statusEvent?
    rw [hrun.statusEvents]
    exact h.unrecorded
  · rw [hrun.statusMarks, hid]
    exact h.next
  · rw [hrun.statusEvents, hid]
    exact h.last

end Frame

section Delivery

variable {t : Tables} {order : PersistedOrder} {event : BrokerOrderStatusEvent}
  {row : PersistedBrokerOrderStatusEvent} {states : List BrokerOrderLinkState}

theorem FilledReport.applicable (h : FilledReport t order event row) (hfound : t.order? order.id = some order)
    (hdomain : checkDomainOrder order = .ok ()) (hread : (t.linksInOrder order.id).mapM linkState = .ok states) :
    Applicable (t.withStatusEvents (t.statusEvents ++ [row])) order row states where
  found := h.orderId ▸ hfound
  account := h.account
  status := h.status
  linked := h.linked
  read := hread
  domain := hdomain
  next := h.next

/-- Links that cannot be read stop the event. -/
theorem FilledReport.unread (h : FilledReport t order event row) (hfound : t.order? order.id = some order)
    (hread : ¬∃ states, (t.linksInOrder order.id).mapM linkState = .ok states) :
    ¬Accepted hashes t (.status event) := by
  rintro ⟨after, hperform⟩
  obtain ⟨e, he⟩ : ∃ e, (t.linksInOrder order.id).mapM linkState = .error e := by
    cases hlinks : (t.linksInOrder order.id).mapM linkState with
    | error e => exact ⟨e, rfl⟩
    | ok states => exact absurd ⟨states, hlinks⟩ hread
  have hone : applyOne (t.withStatusEvents (t.statusEvents ++ [row])) row = .error e := by
    have hstored : (t.withStatusEvents (t.statusEvents ++ [row])).order? row.orderId = some order := h.orderId ▸ hfound
    have hlinks : ((t.withStatusEvents (t.statusEvents ++ [row])).linksInOrder order.id).mapM linkState = .error e := he
    unfold applyOne
    rw [hstored]
    dsimp only
    rw [if_neg (not_not.mpr h.account.symm), hlinks]
    rfl
  obtain ⟨⟨after, outcome⟩, happly, -⟩ := map_ok hperform
  rw [(h.handled hfound).1 e hone] at happly
  cases happly

variable (hashes) in
/-- The event goes through when it ends the order legally, and when another link is live. -/
theorem FilledReport.passes (h : FilledReport t order event row) (hfound : t.order? order.id = some order)
    (hdomain : checkDomainOrder order = .ok ()) (hread : (t.linksInOrder order.id).mapM linkState = .ok states)
    (hlegal : OrderStateMachine.canTerminalize row.brokerOrderId .filled states = false ∨
      OrderStatus.filled ∈ OrderStateMachine.allowed order.status) :
    ∃ after later, perform .decimal28 hashes t (.status event) = .ok after ∧ StatusOnly t after ∧
      after.incidents = t.incidents ∧ after.order? order.id = some later ∧ later.terms = order.terms ∧
        (later.status = order.status ∨ later.status = .filled) := by
  have happlicable := h.applicable hfound hdomain hread
  have hdone : ∀ after outcome, applyOne (t.withStatusEvents (t.statusEvents ++ [row])) row = .ok (after, outcome) →
      perform .decimal28 hashes t (.status event) = .ok after ∧ StatusOnly t after := by
    intro after outcome hone
    obtain ⟨total, happly⟩ := (h.handled hfound).2 after outcome hone
    refine ⟨?_, StatusOnly.event happly⟩
    change (·.1) <$> applyStatusOnce t event = _
    rw [happly]
    rfl
  by_cases hended : OrderStateMachine.canTerminalize row.brokerOrderId .filled states = true
  · have hallowed := hlegal.resolve_left (by rw [hended]; decide)
    obtain ⟨after, outcome, hone, horders, hincidents⟩ := happlicable.granted hended hallowed
    obtain ⟨hperform, honly⟩ := hdone after outcome hone
    refine ⟨after, { order with status := .filled, aggregateVersion := order.aggregateVersion + 1 }, hperform, honly,
      hincidents, ?_, rfl, .inr rfl⟩
    have hkey : ∀ old : PersistedOrder,
        ({ old with status := .filled, aggregateVersion := order.aggregateVersion + 1 } : PersistedOrder).id = old.id :=
      fun _ => rfl
    have hstored : Rows.lookup PersistedOrder.id t.orders order.id = some order := hfound
    unfold Tables.order?
    rw [horders, Rows.lookup_update hkey]
    change (Rows.lookup PersistedOrder.id t.orders order.id).map _ = _
    rw [hstored, Option.map_some, if_pos rfl]
  · rw [Bool.not_eq_true] at hended
    obtain ⟨after, outcome, hone, horders, hincidents⟩ := happlicable.set_aside hended
    obtain ⟨hperform, honly⟩ := hdone after outcome hone
    refine ⟨after, order, hperform, honly, hincidents, ?_, rfl, .inl rfl⟩
    change after.orders.find? _ = _
    rw [horders]
    exact hfound

/-- The event is refused or opens an incident when nothing leads to `FILLED` any more. -/
theorem FilledReport.refused (h : FilledReport t order event row) (hfound : t.order? order.id = some order)
    (hdomain : checkDomainOrder order = .ok ()) (hread : (t.linksInOrder order.id).mapM linkState = .ok states)
    (hended : OrderStateMachine.canTerminalize row.brokerOrderId .filled states = true)
    (hnot : OrderStatus.filled ∉ OrderStateMachine.allowed order.status) {after : Tables}
    (hperform : perform .decimal28 hashes t (.status event) = .ok after) :
    ∃ incident, incident.severity = .blocking ∧ incident.isOpen = true ∧
      after.incidents = t.incidents ++ [incident] := by
  have happlicable := h.applicable hfound hdomain hread
  obtain ⟨⟨after, total⟩, happly, rfl⟩ := map_ok hperform
  cases hone : applyOne (t.withStatusEvents (t.statusEvents ++ [row])) row with
  | error e =>
    rw [(h.handled hfound).1 e hone] at happly
    cases happly
  | ok applied =>
    obtain ⟨total', happly'⟩ := (h.handled hfound).2 applied.1 applied.2 hone
    rw [happly', Except.ok.injEq, Prod.mk.injEq] at happly
    obtain ⟨-, incident, hseverity, hopen, hincidents⟩ := happlicable.refused hended hnot hone
    exact ⟨incident, hseverity, hopen, happly.1 ▸ hincidents⟩

end Delivery

section Runs

variable {t after final : Tables} {order later last : PersistedOrder} {currency : String}
  {fills before rest : List BrokerExecutionEvent} {new : List OpsIncident}

theorem quantities_nonneg (fills : List BrokerExecutionEvent) : 0 ≤ (fills.map (·.quantity)).sum :=
  List.sum_nonneg fun q hq => by
    obtain ⟨f, -, rfl⟩ := List.mem_map.mp hq
    exact f.terms.1.le

theorem quantities_pos (h : fills ≠ []) : 0 < (fills.map (·.quantity)).sum := by
  obtain ⟨event, fills, rfl⟩ := List.exists_cons_of_ne_nil h
  rw [List.map_cons, List.sum_cons]
  exact add_pos_of_pos_of_nonneg event.terms.1 (quantities_nonneg fills)

theorem FillsOf.left (h : FillsOf t order currency (before ++ rest)) : FillsOf t order currency before := by
  refine ⟨fun event hevent => h.belong event (List.mem_append_left _ hevent),
    fun event hevent => h.unrecorded event (List.mem_append_left _ hevent), ?_⟩
  have hdistinct := h.distinct
  rw [List.map_append] at hdistinct
  exact hdistinct.of_append_left

/-- After the first executions the others are still new. -/
theorem FillsOf.right (h : FillsOf t order currency (before ++ rest)) (hrun : FillRun t final order later before new) :
    FillsOf final later currency rest := by
  have hdistinct := h.distinct
  rw [List.map_append, List.nodup_append] at hdistinct
  have hterms := hrun.terms
  refine ⟨fun event hevent => ?_, fun event hevent => ?_, hdistinct.2.1⟩
  · have hof := h.belong event (List.mem_append_right _ hevent)
    rw [hterms]
    refine ⟨hof.orderId, hof.account, hof.instrument, hof.side, hof.currency, ?_⟩
    unfold Tables.linksOf
    rw [hrun.links]
    exact hof.linked
  · refine hrun.unrecorded event (h.unrecorded event (List.mem_append_right _ hevent)) fun f hf hsame => ?_
    exact hdistinct.2.2 _ (List.mem_map_of_mem hf) _ (List.mem_map_of_mem hevent) hsame

theorem FillRun.filledQuantity (hrun : FillRun t final order later fills new) :
    later.filledQuantity = order.filledQuantity + (fills.map (·.quantity)).sum := by
  rw [hrun.terms]

/-- The execution that completes an order fills it. -/
theorem FillRun.completed (hrun : FillRun t final order later fills new) (hne : fills ≠ [])
    (hsum : order.filledQuantity + (fills.map (·.quantity)).sum = order.requestedQuantity) : later.status = .filled := by
  rw [hrun.status hne, hrun.filledQuantity, hsum]
  unfold filledStatus
  rw [if_neg (lt_irrefl _), if_pos rfl]

/-- Until then the order can be filled by its broker's report. -/
theorem FillRun.fillable (hrun : FillRun t final order later fills new) (hacknowledged : order.status = .acknowledged)
    (hlt : order.filledQuantity + (fills.map (·.quantity)).sum < order.requestedQuantity) :
    OrderStatus.filled ∈ OrderStateMachine.allowed later.status := by
  by_cases hempty : fills = []
  · rw [hrun.idle hempty, hacknowledged]
    decide
  · rw [hrun.status hempty, hrun.filledQuantity]
    unfold filledStatus
    rw [if_neg (not_lt.mpr hlt.le), if_neg hlt.ne]
    decide

/-- Executions that do not overfill open an incident for their charge or none. -/
theorem FillRun.silent_iff (hrun : FillRun t final order later fills new)
    (hle : order.filledQuantity + (fills.map (·.quantity)).sum ≤ order.requestedQuantity) :
    new = [] ↔ ¬Reports new "FILL_RISK_EXCEEDS_RESERVATION" ∧ ¬Reports new "LATE_FILL_AFTER_RESERVATION_RELEASE" := by
  constructor
  · rintro rfl
    simp [Reports]
  · rintro ⟨hexceeds, hlate⟩
    refine List.eq_nil_iff_forall_not_mem.mpr fun incident hmem => ?_
    rcases hrun.overfill hle incident hmem with hcode | hcode
    · exact hexceeds ⟨incident, hmem, hcode⟩
    · exact hlate ⟨incident, hmem, hcode⟩

/-! ### Settlement -/

/-- Every delivery goes through, the order is filled, and no blocking incident was opened. -/
structure Settled (hashes : AdoptionHashes) (t : Tables) (order : PersistedOrder) (events : List LedgerEvent) :
    Prop where
  accepted : RunMeets (step .decimal28 hashes) (Accepted hashes) t events
  filled : ∃ later, (runFrom (step .decimal28 hashes) t events).order? order.id = some later ∧
    later.status = .filled ∧ later.filledQuantity = order.requestedQuantity
  silent : ∀ incident ∈ (runFrom (step .decimal28 hashes) t events).incidents.drop t.incidents.length,
    ¬(incident.severity = .blocking ∧ incident.isOpen = true)

/-- The reservation of an order, if it has one, covers a risk, and nothing that was released is
taken back for it. -/
def Covered (t : Tables) (order : PersistedOrder) (risk : ℚ) : Prop :=
  ∀ r, t.reservation? order.riskDecisionId = some r →
    risk ≤ r.remainingRiskAmount ∧ (risk = 0 ∨ r.releasedRiskAmount = 0)

theorem covers_iff {r : PersistedRiskReservation} {risk : ℚ} (hr : r.Conserved) (hrisk : 0 ≤ risk) :
    (¬r.pool < risk ∧ ¬0 < min risk r.releasedRiskAmount) ↔
      risk ≤ r.remainingRiskAmount ∧ (risk = 0 ∨ r.releasedRiskAmount = 0) := by
  have hreleased := hr.released
  have hremaining := hr.remaining
  unfold PersistedRiskReservation.pool
  rw [not_lt, not_lt, min_le_iff]
  constructor
  · rintro ⟨hle, hzero | hzero⟩
    · exact ⟨hzero.trans hremaining, .inl (le_antisymm hzero hrisk)⟩
    · exact ⟨by linarith, .inr (le_antisymm hzero hreleased)⟩
  · rintro ⟨hle, hzero | hzero⟩
    · exact ⟨by linarith, .inl hzero.le⟩
    · exact ⟨by linarith, .inr hzero.le⟩

/-- Executions before the event and after it open no incident exactly when the reservation covers
the risk of them all. -/
theorem silent_iff_covered {middle : Tables} {halfway : PersistedOrder} {new₁ new₂ : List OpsIncident}
    (hfirst : FillRun t middle order later before new₁) (honly : StatusOnly middle after)
    (hterms : halfway.terms = later.terms) (hsecond : FillRun after final halfway last rest new₂)
    (hconserving : Conserving t order)
    (hle : order.filledQuantity + ((before ++ rest).map (·.quantity)).sum ≤ order.requestedQuantity) :
    new₁ = [] ∧ new₂ = [] ↔
      Covered t order (openedRisks (t.book.held order.accountId order.instrumentId) (before ++ rest)).sum := by
  rw [List.map_append, List.sum_append] at hle
  have hrest : 0 ≤ (rest.map (·.quantity)).sum := quantities_nonneg rest
  have hlater := hfirst.terms
  have hrequested : halfway.requestedQuantity = order.requestedQuantity := by
    rw [terms_agree PersistedOrder.requestedQuantity (fun _ => rfl) hterms, hlater]
  have hfilled : halfway.filledQuantity = order.filledQuantity + (before.map (·.quantity)).sum := by
    rw [terms_agree PersistedOrder.filledQuantity (fun _ => rfl) hterms, hlater]
  have hdecision : halfway.riskDecisionId = order.riskDecisionId := by
    rw [terms_agree PersistedOrder.riskDecisionId (fun _ => rfl) hterms, hlater]
  have hheld : after.book.held halfway.accountId halfway.instrumentId =
      heldAfter (t.book.held order.accountId order.instrumentId) before := by
    rw [terms_agree PersistedOrder.accountId (fun _ => rfl) hterms,
      terms_agree PersistedOrder.instrumentId (fun _ => rfl) hterms, honly.book, ← hfirst.held, hlater]
  have hreservation : after.reservation? order.riskDecisionId = middle.reservation? order.riskDecisionId := by
    unfold Tables.reservation?
    rw [honly.reservations]
  rw [hfirst.silent_iff (by linarith), hsecond.silent_iff (by rw [hrequested, hfilled]; linarith), openedRisks_append]
  cases hr : t.reservation? order.riskDecisionId with
  | none =>
    obtain ⟨hmiddle, hexceeds₁, hlate₁⟩ := hfirst.unreserved hr
    have hnone : after.reservation? halfway.riskDecisionId = none := by rw [hdecision, hreservation, hmiddle]
    obtain ⟨-, hexceeds₂, hlate₂⟩ := hsecond.unreserved hnone
    refine iff_of_true ⟨⟨hexceeds₁, hlate₁⟩, hexceeds₂, hlate₂⟩ fun r hsome => ?_
    rw [hr] at hsome
    cases hsome
  | some r =>
    have hconserved := hconserving r hr
    obtain ⟨r', hmiddle, hdrained, hexceeds₁, hlate₁⟩ := hfirst.reserved r hr
    have hsome : after.reservation? halfway.riskDecisionId = some r' := by rw [hdecision, hreservation, hmiddle]
    obtain ⟨r'', -, -, hexceeds₂, hlate₂⟩ := hsecond.reserved r' hsome
    have hcovered : ∀ risk, Covered t order risk ↔
        risk ≤ r.remainingRiskAmount ∧ (risk = 0 ∨ r.releasedRiskAmount = 0) := by
      intro risk
      unfold Covered
      rw [hr]
      exact ⟨fun h => h r rfl, fun h _ heq => Option.some.inj heq ▸ h⟩
    have hrest : ∀ held, 0 ≤ (openedRisks held rest).sum := fun _ => openedRisks_nonneg
    rw [hcovered, hexceeds₁, hlate₁, hexceeds₂, hlate₂, hheld, hdrained.pool, hdrained.released,
      ← covers_iff hconserved (add_nonneg openedRisks_nonneg openedRisks_nonneg),
      ← exceeds_either (hrest _),
      ← reclaims_either openedRisks_nonneg (hrest _) hconserved.released]
    rw [not_or, not_or]
    exact and_and_and_comm

end Runs

/-- The executions of an acknowledged order and its `FILLED` event settle exactly when the event
comes before the last of them, or another broker order is live; when the order's links can be
read; and when its reservation covers what the executions open. -/
theorem settled_iff (hashes : AdoptionHashes) (t : Tables) (order : PersistedOrder) (currency : String)
    (before rest : List BrokerExecutionEvent) (event : BrokerOrderStatusEvent)
    (row : PersistedBrokerOrderStatusEvent) (hready : Ready t order currency)
    (hacknowledged : order.status = .acknowledged) (hunfilled : order.filledQuantity = 0)
    (hdomain : checkDomainOrder order = .ok ()) (hfills : FillsOf t order currency (before ++ rest))
    (hsum : ((before ++ rest).map (·.quantity)).sum = order.requestedQuantity)
    (hreport : FilledReport t order event row)
    (hfits : RunMeets (step .decimal28 hashes) FillFits t (before.map .fill ++ .status event :: rest.map .fill)) :
    Settled hashes t order (before.map .fill ++ .status event :: rest.map .fill) ↔
      Covered t order (openedRisks (t.book.held order.accountId order.instrumentId) (before ++ rest)).sum ∧
        ∃ states, (t.linksInOrder order.id).mapM linkState = .ok states ∧
          (rest ≠ [] ∨ OrderStateMachine.canTerminalize row.brokerOrderId .filled states = false) := by
  have hpositive : 0 < order.requestedQuantity := by
    unfold checkDomainOrder at hdomain
    dsimp only at hdomain
    split at hdomain
    · cases hdomain
    · rename_i hrequested
      exact not_le.mp hrequested
  obtain ⟨haccepted, later, new₁, hfirst, hlater⟩ := fills_run hready hfills.left hfits.append_left
  have hrest := hfits.append_right
  have hreported := hreport.afterFills hfirst
  have hright := hfills.right hfirst
  have hid : later.id = order.id := by rw [hfirst.terms]
  have hlinks : (runFrom (step .decimal28 hashes) t (before.map .fill)).linksInOrder later.id =
      t.linksInOrder order.id := by
    unfold Tables.linksInOrder Tables.linksOf
    rw [hfirst.links, hid]
  have hlaterDomain : checkDomainOrder later = .ok () := by
    rw [hfirst.terms]
    exact hdomain
  have hbefore : order.filledQuantity + (before.map (·.quantity)).sum + (rest.map (·.quantity)).sum =
      order.requestedQuantity := by
    rw [List.map_append, List.sum_append] at hsum
    rw [hunfilled, zero_add, hsum]
  have hcompleted : rest = [] → later.status = .filled := by
    rintro rfl
    rw [List.map_nil, List.sum_nil, add_zero] at hbefore
    refine hfirst.completed ?_ hbefore
    rintro rfl
    rw [hunfilled, List.map_nil, List.sum_nil, add_zero] at hbefore
    exact absurd hbefore hpositive.ne
  by_cases hread : ∃ states, (t.linksInOrder order.id).mapM linkState = .ok states
  swap
  · refine iff_of_false (fun h => ?_) fun ⟨_, states, hstates, _⟩ => hread ⟨states, hstates⟩
    rw [← hlinks] at hread
    exact hreported.unread hlater.found hread h.accepted.append_right.1
  obtain ⟨states, hstates⟩ := hread
  have hconditions : (∃ states, (t.linksInOrder order.id).mapM linkState = .ok states ∧
      (rest ≠ [] ∨ OrderStateMachine.canTerminalize row.brokerOrderId .filled states = false)) ↔
        rest ≠ [] ∨ OrderStateMachine.canTerminalize row.brokerOrderId .filled states = false := by
    rw [hstates]
    exact ⟨fun ⟨_, heq, h⟩ => Except.ok.inj heq ▸ h, fun h => ⟨states, rfl, h⟩⟩
  rw [hconditions]
  rw [← hlinks] at hstates
  by_cases hgoes : rest ≠ [] ∨ OrderStateMachine.canTerminalize row.brokerOrderId .filled states = false
  swap
  -- the last execution has filled the order
  · refine iff_of_false (fun h => ?_) fun h => hgoes h.2
    obtain ⟨hnone, hended⟩ := not_or.mp hgoes
    rw [not_not] at hnone
    rw [Bool.not_eq_false] at hended
    have hnot : OrderStatus.filled ∉ OrderStateMachine.allowed later.status := by
      rw [hcompleted hnone]
      decide
    obtain ⟨⟨after, hperform⟩, -⟩ := h.accepted.append_right
    obtain ⟨incident, hseverity, hopen, hincidents⟩ :=
      hreported.refused hlater.found hlaterDomain hstates hended hnot hperform
    refine h.silent incident ?_ ⟨hseverity, hopen⟩
    rw [runFrom_append, runFrom_cons, step_ok hperform, hnone, List.map_nil, runFrom_nil, hincidents, hfirst.incidents,
      List.append_assoc, List.drop_left]
    exact List.mem_append_right _ List.mem_cons_self
  rw [and_iff_left hgoes]
  have hlegal : OrderStateMachine.canTerminalize row.brokerOrderId .filled states = false ∨
      OrderStatus.filled ∈ OrderStateMachine.allowed later.status := by
    refine hgoes.symm.imp_right fun hne => hfirst.fillable hacknowledged ?_
    have hpos := quantities_pos hne
    linarith
  obtain ⟨after, halfway, hperform, honly, hkept, hfound, hterms, hstatus⟩ :=
    hreported.passes hashes hlater.found hlaterDomain hstates hlegal
  have hhalfway : halfway.id = later.id := terms_agree PersistedOrder.id (fun _ => rfl) hterms
  rw [← hhalfway] at hfound
  obtain ⟨-, hrest⟩ := hrest
  rw [step_ok hperform] at hrest
  obtain ⟨haccepted', last, new₂, hsecond, hlast⟩ :=
    fills_run (hlater.statusOnly honly hfound hterms) (hright.statusOnly honly hterms) hrest
  rw [← silent_iff_covered hfirst honly hterms hsecond hready.conserving (by rw [hsum, hunfilled, zero_add])]
  have hrequested : halfway.requestedQuantity = order.requestedQuantity := by
    rw [terms_agree PersistedOrder.requestedQuantity (fun _ => rfl) hterms, hfirst.terms]
  have htotal : halfway.filledQuantity + (rest.map (·.quantity)).sum = halfway.requestedQuantity := by
    rw [terms_agree PersistedOrder.filledQuantity (fun _ => rfl) hterms, hfirst.filledQuantity, hbefore, hrequested]
  have hfilled : last.status = .filled := by
    by_cases hnone : rest = []
    · rw [hsecond.idle hnone]
      exact hstatus.elim (fun h => h.trans (hcompleted hnone)) id
    · exact hsecond.completed hnone htotal
  have hfinal : runFrom (step .decimal28 hashes) t (before.map .fill ++ .status event :: rest.map .fill) =
      runFrom (step .decimal28 hashes) after (rest.map .fill) := by
    rw [runFrom_append, runFrom_cons, step_ok hperform]
  have hincidents : (runFrom (step .decimal28 hashes) after (rest.map .fill)).incidents =
      t.incidents ++ (new₁ ++ new₂) := by
    rw [hsecond.incidents, hkept, hfirst.incidents, List.append_assoc]
  constructor
  · intro h
    have hsilent := h.silent
    rw [hfinal, hincidents, List.drop_left] at hsilent
    refine List.append_eq_nil_iff.mp (List.eq_nil_iff_forall_not_mem.mpr fun incident hmem => hsilent incident hmem ?_)
    rcases List.mem_append.mp hmem with hmem | hmem
    · exact hfirst.blocking incident hmem
    · exact hsecond.blocking incident hmem
  · rintro ⟨rfl, rfl⟩
    refine ⟨haccepted.append ⟨⟨after, hperform⟩, ?_⟩, ⟨last, ?_, ?_, ?_⟩, ?_⟩
    · rw [step_ok hperform]
      exact haccepted'
    · have hlastId : last.id = order.id := by rw [hsecond.terms, ← hid, ← hhalfway]
      rw [hfinal, ← hlastId]
      exact hlast.found
    · exact hfilled
    · rw [hsecond.filledQuantity, htotal, hrequested]
    · rw [hfinal, hincidents, List.drop_left]
      exact fun _ hmem => absurd hmem List.not_mem_nil

private def filledEvent (sequence : Option Nat) : BrokerOrderStatusEvent where
  brokerId := rowUuid 1
  accountId := rowUuid 2
  sourcePartition := "status"
  dedupeKey := "filled"
  rawStatus := "FILLED"
  occurredAt := 20
  sourceSequence := sequence
  brokerOrderId := some "B1"
  orderId := some (rowUuid 3)
  brokerClientOrderId := some "client-1"
  requestedQuantity := some 1
  cumulativeFilledQuantity := some 1
  observedAt := some 20
  payloadHash := 1

private def filledRow (sequence : Option Nat) : PersistedBrokerOrderStatusEvent where
  orderId := rowUuid 3
  brokerId := rowUuid 1
  accountId := rowUuid 2
  sourcePartition := "status"
  dedupeKey := "filled"
  canonicalPayloadHash := 1
  brokerOrderId := "B1"
  rawStatus := "FILLED"
  sourceSequence := sequence
  occurredAt := 20
  observedAt := 20

private theorem filledReport (amount : ℚ) : FilledReport (sampleReserved (sampleOrder .buy 1) amount)
    (sampleOrder .buy 1) (filledEvent (some 1)) (filledRow (some 1)) where
  resolved := rfl
  orderId := rfl
  account := rfl
  status := rfl
  linked := rfl
  unrecorded := rfl
  next := fun _ hs => ⟨0, (Option.some.inj hs).symm, rfl⟩
  last := fun _ _ _ hold => absurd hold List.not_mem_nil

private def reportedFirst : Tables :=
  step .decimal28 noHashes (sampleReserved (sampleOrder .buy 1) 1) (.status (filledEvent (some 1)))

private theorem reportedFirst_fits (hone : OnGrid 28 (-18) 1) :
    FillFits reportedFirst (.fill (sampleFill (rowUuid 3) "1" .buy 1 one_pos)) := by
  have hheld : exactNext (reportedFirst.book.held (rowUuid 2) (rowUuid 4)) .buy 1 = 1 := by decide +kernel
  have hopened : openedRisk reportedFirst (sampleFill (rowUuid 3) "1" .buy 1 one_pos) = 1 := by decide +kernel
  have hflat : ∀ a ∈ reportedFirst.anchors, a.positionRiskAmount = 0 := by decide +kernel
  have hunfilled : (reportedFirst.order? (rowUuid 3)).map (·.filledQuantity) = some 0 := by decide +kernel
  refine ⟨fun _ => ⟨hone, hone, ?_, ?_, fun a ha _ => ?_⟩, fun order horder => ?_⟩
  · show OnGrid 28 (-18) (exactNext (reportedFirst.book.held (rowUuid 2) (rowUuid 4)) .buy 1)
    rw [hheld]
    exact hone
  · rw [hopened]
    exact hone
  · rw [hflat a ha, zero_add, hopened]
    exact hone
  · have horder : reportedFirst.order? (rowUuid 3) = some order := horder
    rw [horder, Option.map_some, Option.some.injEq] at hunfilled
    rw [hunfilled, zero_add]
    exact hone

/-- The broker reports the order filled before its only execution arrives. -/
theorem settled_iff_early :
    Settled noHashes (sampleReserved (sampleOrder .buy 1) 1) (sampleOrder .buy 1)
      [.status (filledEvent (some 1)), .fill (sampleFill (rowUuid 3) "1" .buy 1 one_pos)] := by
  have hone : OnGrid 28 (-18) 1 := by exact_mod_cast onGrid_natCast (n := 1) (by norm_num)
  refine (settled_iff noHashes (sampleReserved (sampleOrder .buy 1) 1) (sampleOrder .buy 1) "USD" []
    [sampleFill (rowUuid 3) "1" .buy 1 one_pos] (filledEvent (some 1)) (filledRow (some 1))
    (sampleReserved_ready hone zero_le_one) rfl rfl (by decide +kernel) ⟨?_, ?_, by decide⟩ (by decide +kernel)
    (filledReport 1) ⟨trivial, reportedFirst_fits hone, trivial⟩).mpr ⟨?_, _, rfl, .inl (List.cons_ne_nil _ _)⟩
  · intro event hevent
    rw [List.mem_singleton.mp hevent]
    exact ⟨rfl, rfl, rfl, rfl, rfl, by decide⟩
  · intro event hevent
    rw [List.mem_singleton.mp hevent]
    rfl
  · intro r hr
    rw [← Option.some.inj hr]
    exact ⟨by decide +kernel, .inr rfl⟩

/-- After the only execution the report is refused. -/
theorem settled_fails_late :
    ¬∀ (t : Tables) (order : PersistedOrder) (currency : String) (before rest : List BrokerExecutionEvent)
        (event : BrokerOrderStatusEvent) (row : PersistedBrokerOrderStatusEvent), Ready t order currency →
      order.status = .acknowledged → order.filledQuantity = 0 → checkDomainOrder order = .ok () →
      FillsOf t order currency (before ++ rest) →
      ((before ++ rest).map (·.quantity)).sum = order.requestedQuantity → FilledReport t order event row →
        Settled noHashes t order (before.map .fill ++ .status event :: rest.map .fill) := by
  intro h
  have hone : OnGrid 28 (-18) 1 := by exact_mod_cast onGrid_natCast (n := 1) (by norm_num)
  have hsettled := (h (sampleReserved (sampleOrder .buy 1) 1) (sampleOrder .buy 1) "USD"
    [sampleFill (rowUuid 3) "1" .buy 1 one_pos] [] (filledEvent (some 1)) (filledRow (some 1))
    (sampleReserved_ready hone zero_le_one) rfl rfl (by decide +kernel) ⟨?_, ?_, by decide⟩ (by decide +kernel)
    (filledReport 1)).accepted
  · obtain ⟨-, ⟨after, hperform⟩, -⟩ := hsettled
    have hraises : (perform .decimal28 noHashes (step .decimal28 noHashes (sampleReserved (sampleOrder .buy 1) 1)
        (.fill (sampleFill (rowUuid 3) "1" .buy 1 one_pos))) (.status (filledEvent (some 1)))).isOk = false := by
      decide +kernel
    rw [hperform] at hraises
    cases hraises
  · intro event hevent
    rw [List.mem_singleton.mp hevent]
    exact ⟨rfl, rfl, rfl, rfl, rfl, by decide⟩
  · intro event hevent
    rw [List.mem_singleton.mp hevent]
    rfl

end AutoTrader.Ledger
