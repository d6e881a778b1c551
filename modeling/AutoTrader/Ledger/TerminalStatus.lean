import AutoTrader.Ledger.Anchors

/-! An order that ended. The state machine moves it to `UNKNOWN` at most, but an execution
writes the status its total gives, whatever the order was. -/

namespace AutoTrader.Ledger

open AutoTrader.Dispatch AutoTrader.Domain AutoTrader.Execution AutoTrader.Runtime

variable {arith : Arithmetic} {hashes : AdoptionHashes}

/-- The order stands as it ended, or nobody knows. -/
def StillEnded (t : Tables) (id : UUID) (s : OrderStatus) : Prop :=
  ∃ order, t.order? id = some order ∧ (order.status = s ∨ order.status = .unknown)

theorem StillEnded.of_orders {t after : Tables} {id : UUID} {s : OrderStatus} (h : StillEnded t id s)
    (horders : after.orders = t.orders) : StillEnded after id s := by
  unfold StillEnded Tables.order?
  rw [horders]
  exact h

/-- A row of the orders is written: the order stays ended when the row of its id does. -/
theorem StillEnded.of_update {t after : Tables} {id other : UUID} {s : OrderStatus}
    {values : PersistedOrder → PersistedOrder} (h : StillEnded t id s)
    (horders : after.orders = Rows.update PersistedOrder.id t.orders other values)
    (hid : ∀ row, (values row).id = row.id)
    (hvalues : ∀ order, t.order? id = some order → id = other → (order.status = s ∨ order.status = .unknown) →
      (values order).status = s ∨ (values order).status = .unknown) : StillEnded after id s := by
  obtain ⟨order, horder, hstatus⟩ := h
  have hlookup : after.order? id = (t.order? id).map fun row => if id = other then values row else row := by
    unfold Tables.order?
    rw [horders]
    exact Rows.lookup_update hid t.orders other id
  rw [horder, Option.map_some] at hlookup
  by_cases heq : id = other
  · rw [if_pos heq] at hlookup
    exact ⟨_, hlookup, hvalues order horder heq hstatus⟩
  · rw [if_neg heq] at hlookup
    exact ⟨_, hlookup, hstatus⟩

/-- A row is added behind the others. -/
theorem StillEnded.of_append {t after : Tables} {id : UUID} {s : OrderStatus} {row : PersistedOrder}
    (h : StillEnded t id s) (horders : after.orders = t.orders ++ [row]) : StillEnded after id s := by
  obtain ⟨order, horder, hstatus⟩ := h
  refine ⟨order, ?_, hstatus⟩
  unfold Tables.order? Rows.lookup at horder ⊢
  rw [horders, List.find?_append, horder, Option.some_or]

/-! ### Status events -/

/-- From where an order ended the state machine leads to `UNKNOWN` alone. -/
theorem allowed_ended {s status : OrderStatus} (hs : s.isTerminal = true) (h : status = s ∨ status = .unknown)
    {next : OrderStatus} (hnext : next ∈ OrderStateMachine.allowed status) : next = .unknown := by
  rcases h with rfl | rfl
  · cases status <;> simp_all [OrderStateMachine.allowed, OrderStatus.isTerminal]
  · simpa [OrderStateMachine.allowed] using hnext

theorem StillEnded.one {t after : Tables} {persisted : PersistedBrokerOrderStatusEvent}
    {outcome : BrokerStatusApplication} {id : UUID} {s : OrderStatus} (hs : s.isTerminal = true)
    (happly : applyOne t persisted = .ok (after, outcome)) (h : StillEnded t id s) : StillEnded after id s := by
  obtain ⟨order, hfound, hkept | ⟨status, version, horders, hstatus⟩, -⟩ := applyOne_writes happly
  · exact h.of_orders hkept
  refine h.of_update horders (fun _ => rfl) fun row hrow heq hrowStatus => .inr ?_
  show status = .unknown
  rcases hstatus with hunknown | hallowed
  · exact hunknown
  · have horderId : order.id = persisted.orderId := Rows.lookup_key hfound
    have hsame : row = order := by
      rw [heq, horderId, hfound] at hrow
      exact (Option.some.inj hrow).symm
    rw [hsame] at hrowStatus
    exact allowed_ended hs hrowStatus hallowed

theorem StillEnded.status {t after : Tables} {event : BrokerOrderStatusEvent} {outcome : BrokerStatusApplication}
    {id : UUID} {s : OrderStatus} (hs : s.isTerminal = true) (happly : applyStatusOnce t event = .ok (after, outcome))
    (h : StillEnded t id s) : StillEnded after id s :=
  applyStatusOnce_keeps (R := fun t after => StillEnded t id s → StillEnded after id s) (fun _ h => h)
    (fun _ _ _ hab hbc h => hbc (hab h)) (fun _ _ _ _ hone => StillEnded.one hs hone) (fun _ _ h => h.of_orders rfl)
    (fun _ _ h => h.of_orders rfl) happly h

/-! ### Executions -/

/-- An execution of the order that is new overfills it, or completes one that ended filled. -/
def FillsPast (arith : Arithmetic) (id : UUID) (s : OrderStatus) (t : Tables) : LedgerEvent → Prop
  | .fill event => event.orderId = id → t.fill? event = none → ∀ order, t.order? id = some order →
      order.requestedQuantity < filledTotal arith order event ∨
        (s = .filled ∧ filledTotal arith order event = order.requestedQuantity)
  | _ => True

theorem StillEnded.fill {t after : Tables} {event : BrokerExecutionEvent} {result : Option FillApplication} {id : UUID}
    {s : OrderStatus} (h : StillEnded t id s) (hpast : FillsPast arith id s t (.fill event))
    (happly : applyEventOnce arith t event = .ok (after, result)) : StillEnded after id s := by
  rcases applyEventOnce_ok happly with ⟨-, existing, -, rfl | rfl⟩ | ⟨-, anchors, order, stored, happlied⟩
  · exact h
  · exact h.of_orders rfl
  have hfound := (lockForFill_ok happlied.locked).found
  refine h.of_update happlied.orders (fun _ => rfl) fun row hrow heq hstatus => ?_
  have horderId : order.id = event.orderId := Rows.lookup_key hfound
  have hid : event.orderId = id := horderId.symm.trans heq.symm
  have hsame : row = order := by
    rw [← hid, hfound] at hrow
    exact (Option.some.inj hrow).symm
  rw [hsame]
  show filledStatus order.requestedQuantity (filledTotal arith order event) = s ∨ _
  unfold filledStatus
  rcases hpast hid happlied.unrecorded order (hsame ▸ hrow) with hover | ⟨rfl, hcomplete⟩
  · exact .inr (if_pos hover)
  · rw [hcomplete, if_neg (lt_irrefl _), if_pos rfl]
    exact .inl rfl

/-! ### Runs -/

theorem StillEnded.perform {t after : Tables} {event : LedgerEvent} {id : UUID} {s : OrderStatus}
    (hs : s.isTerminal = true) (h : StillEnded t id s) (hpast : FillsPast arith id s t event)
    (hperform : perform arith hashes t event = .ok after) : StillEnded after id s := by
  cases event with
  | fill fill =>
    obtain ⟨⟨after, result⟩, happly, rfl⟩ := map_ok hperform
    exact h.fill hpast happly
  | status event =>
    obtain ⟨⟨after, outcome⟩, happly, rfl⟩ := map_ok hperform
    exact h.status hs happly
  | release orderId brokerId sourcePartition now =>
    obtain ⟨⟨after, result⟩, hrelease, rfl⟩ := map_ok hperform
    rcases releaseIfComplete_ok hrelease with rfl | ⟨_, _, _, _, -, -, -, -, hreleased⟩
    · exact h
    · obtain ⟨_, _, -, -, rfl⟩ := release_ok hreleased
      exact h.of_orders rfl
  | checkpoint key checkpoint =>
    obtain ⟨streams, scopes, rfl⟩ := recordClosedIntervalCheckpoint_ok hperform
    exact h.of_orders rfl
  | approve decision reservation accountId currency =>
    obtain ⟨_, _, _, _, _, -, -, -, -, ⟨-, -, _, -, rfl⟩ | ⟨-, rfl⟩⟩ := persistApproval_ok hperform
    · exact h.of_orders rfl
    · exact h.of_orders rfl
  | createOrder order event =>
    obtain ⟨_, rfl | ⟨rfl, -⟩⟩ := createApprovedOrder_ok hperform
    · exact h.of_orders rfl
    · exact h.of_append rfl
  | accept acceptance =>
    obtain rfl | ⟨_, rfl, -⟩ := linkAccepted_ok hperform
    · exact h
    · exact h.of_orders rfl
  | adopt adoption ids =>
    obtain ⟨⟨after, result⟩, hadopt, rfl⟩ := map_ok hperform
    obtain rfl | ⟨_, _, _, _, hbooked⟩ := adoptOpenOrder_ok hadopt
    · exact h
    · exact h.of_append hbooked.orders

/-- An order that ended keeps its status or becomes `UNKNOWN`, in any order of transactions, as
long as no execution of it leaves it short of what was requested. -/
theorem terminal_run (arith : Arithmetic) (hashes : AdoptionHashes) (t : Tables) (order : PersistedOrder)
    (horder : t.order? order.id = some order) (hended : order.status.isTerminal = true) (events : List LedgerEvent)
    (hmeets : RunMeets (step arith hashes) (FillsPast arith order.id order.status) t events) :
    ∃ later, (runFrom (step arith hashes) t events).order? order.id = some later ∧
      (later.status = order.status ∨ later.status = .unknown) :=
  run_invariant (I := fun t => StillEnded t order.id order.status)
    (fun _ _ h hpast => step_keeps h fun _ => h.perform hended hpast) ⟨order, horder, .inl rfl⟩ hmeets

private def ended (status : OrderStatus) : PersistedOrder :=
  { sampleOrder .buy 3 with status := status }

private def reported (order : PersistedOrder) : Tables :=
  sampleTables [order] [sampleLink order.id "CANCELED"]

/-- Four are filled of an order of three that was canceled. -/
theorem terminal_run_overfilled :
    ∃ later, (runFrom (step .decimal28 noHashes) (reported (ended .canceled))
      [.fill (sampleFill (rowUuid 3) "1" .buy 4 rat_four_pos)]).order? (ended .canceled).id = some later ∧
        (later.status = .canceled ∨ later.status = .unknown) := by
  refine terminal_run .decimal28 noHashes (reported (ended .canceled)) (ended .canceled) rfl rfl
    [.fill (sampleFill (rowUuid 3) "1" .buy 4 rat_four_pos)] ⟨fun _ _ order horder => .inl ?_, trivial⟩
  rw [← Option.some.inj horder]
  decide +kernel

/-- Two are filled of an order of three that was canceled, and it is partially filled. -/
theorem terminal_fails_late :
    ¬∀ (t : Tables) (order : PersistedOrder) (events : List LedgerEvent), t.order? order.id = some order →
      order.status.isTerminal = true →
      ∃ later, (runFrom (step .decimal28 noHashes) t events).order? order.id = some later ∧
        (later.status = order.status ∨ later.status = .unknown) := by
  intro h
  obtain ⟨later, hlater, hstatus⟩ := h (reported (ended .canceled)) (ended .canceled)
    [.fill (sampleFill (rowUuid 3) "1" .buy 2 (by norm_num))] rfl rfl
  have hsome : ((runFrom (step .decimal28 noHashes) (reported (ended .canceled))
      [.fill (sampleFill (rowUuid 3) "1" .buy 2 (by norm_num))]).order? (ended .canceled).id).map
        PersistedOrder.status = some .partiallyFilled := by decide +kernel
  rw [hlater, Option.map_some, Option.some.injEq] at hsome
  rw [hsome] at hstatus
  rcases hstatus with hstatus | hstatus <;> cases hstatus

end AutoTrader.Ledger
