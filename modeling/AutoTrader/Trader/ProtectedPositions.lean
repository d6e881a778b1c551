import AutoTrader.Dispatch.System
import AutoTrader.Ledger.Lineage
import AutoTrader.Ledger.OrderRows
import AutoTrader.Operations.ManagedPositions
import AutoTrader.Trader.Journal

/-! Which positions have a stop standing behind them. What is counted is an accepted command of a
protective order that is not used up; what should stand there is a stop of the open lifecycle that
still works. -/

namespace AutoTrader.Trader

open AutoTrader.Dispatch AutoTrader.Domain AutoTrader.Execution AutoTrader.Ledger AutoTrader.Numeric AutoTrader.Operations
  AutoTrader.Runtime

/-- The ledger and the commands of its orders. -/
structure ProtectionStore where
  tables : Tables
  commands : List PersistedOrderCommand

/-- A transaction of the ledger, a new command, or a venue's answer to one. -/
inductive StoreEvent
  | ledger (event : LedgerEvent)
  | commanded (command : BrokerOrderCommand)
  | answered (commandId : UUID) (state : ResultState) (moment : Instant)

/-- The commands with a new one, unless its order is missing or a unique key is taken. -/
def withCommand (s : ProtectionStore) (command : BrokerOrderCommand) : List PersistedOrderCommand :=
  match commandRow command with
  | none => s.commands
  | some row =>
    if (s.tables.order? row.orderId).isSome && !commandTaken s.commands row then s.commands ++ [row] else s.commands

def storeStep (arith : Arithmetic) (hashes : AdoptionHashes) (s : ProtectionStore) : StoreEvent → ProtectionStore
  | .ledger event => { s with tables := step arith hashes s.tables event }
  | .commanded command => { s with commands := withCommand s command }
  | .answered commandId state moment =>
    { s with commands := (OrderTables.update ⟨s.commands, s.tables.links⟩ commandId (StoreOp.answerRow state moment)).commands }

/-! ### `ProtectionRepository` -/

section Repository

variable (intentType : UUID → Option IntentType) (s : ProtectionStore)

/-- Instruments the account is not flat in. -/
def exposedInstruments (accountId : UUID) : List UUID :=
  ((s.tables.book.positions.filter fun p => p.accountId = accountId && decide (p.quantity ≠ 0)).map (·.instrumentId)).eraseDups

/-- A command of the order came back accepted. -/
def isAccepted (orderId : UUID) : Bool :=
  s.commands.any fun row => row.orderId = orderId && row.resultState = some .accepted

/-- Instruments with a protective order that reached the broker and has not been used up. -/
def protectedInstruments (accountId : UUID) (among : Option (List UUID)) : List UUID :=
  ((s.tables.orders.filter fun order => order.accountId = accountId &&
    intentType order.orderIntentId = some .protective && isAccepted s order.id &&
    decide (order.filledQuantity < order.requestedQuantity) &&
    among.all (·.contains order.instrumentId)).map (·.instrumentId)).eraseDups

/-- Open positions with nothing behind them, in a stable order. -/
def unprotectedInstruments (accountId : UUID) : List UUID :=
  let exposed := exposedInstruments s accountId
  (exposed.filter fun instrumentId => !(protectedInstruments intentType s accountId (some exposed)).contains instrumentId).insertionSort
    fun a b => a.int ≤ b.int

end Repository

/-! ### Working stops -/

section Stops

variable (intentType : UUID → Option IntentType) (s : ProtectionStore) (accountId instrumentId : UUID)

/-- A protective order of the instrument that the broker accepted. -/
structure AcceptedStop (order : Ledger.PersistedOrder) : Prop where
  stored : s.tables.order? order.id = some order
  account : order.accountId = accountId
  instrument : order.instrumentId = instrumentId
  protective : intentType order.orderIntentId = some .protective
  accepted : isAccepted s order.id = true

/-- One that counts as protection. -/
structure CountedStop (order : Ledger.PersistedOrder) : Prop extends AcceptedStop intentType s accountId instrumentId order where
  unused : order.filledQuantity < order.requestedQuantity

/-- One that was created in the open lifecycle of the position and did not end. -/
structure WorkingStop (positionId : RowId) (order : Ledger.PersistedOrder) : Prop
    extends AcceptedStop intentType s accountId instrumentId order where
  lifecycle : createdInOpenLifecycle s.tables positionId order = true
  working : order.status.isTerminal = false

end Stops

/-- Every open position that is not reported has a working stop. -/
def ProtectedByWorkingStop (intentType : UUID → Option IntentType) (s : ProtectionStore) : Prop :=
  ∀ accountId instrumentId p, s.tables.book.position? accountId instrumentId = some p → p.quantity ≠ 0 →
    instrumentId ∉ unprotectedInstruments intentType s accountId →
    ∃ order, WorkingStop intentType s accountId instrumentId p.id order

/-! ### The condition -/

section Condition

variable (carried : ℚ → Prop) (intentType : UUID → Option IntentType) (s : ProtectionStore)

/-- An execution leaves an open lifecycle that it opened itself. -/
def opensLifecycle (held next : ℚ) : Prop :=
  next ≠ 0 ∧ (held = 0 ∨ held * next < 0)

/-- What an execution that is new leaves of the stops: a lifecycle opens over none that counts, and
the last working one is not used up while another counts. -/
structure FillLeavesStops (event : BrokerExecutionEvent) (order : Ledger.PersistedOrder) : Prop where
  total : carried (order.filledQuantity + event.quantity)
  opening : opensLifecycle (s.tables.book.held event.accountId event.instrumentId)
      (exactNext (s.tables.book.held event.accountId event.instrumentId) event.side event.quantity) →
    ∀ stop, CountedStop intentType s event.accountId event.instrumentId stop →
      stop = order ∧ order.requestedQuantity ≤ order.filledQuantity + event.quantity
  completing : intentType order.orderIntentId = some .protective →
    order.filledQuantity + event.quantity = order.requestedQuantity →
    ∀ p, s.tables.book.position? event.accountId event.instrumentId = some p → p.quantity ≠ 0 →
      (∀ stop, CountedStop intentType s event.accountId event.instrumentId stop → stop = order) ∨
      ∃ stop, WorkingStop intentType s event.accountId event.instrumentId p.id stop ∧ stop ≠ order

/-- The condition: executions leave the stops in step with the lifecycles, no status event ends the
last working stop of an open position, a stop is accepted while it works in the lifecycle it was
created in, and an accepted command is not answered otherwise. -/
def StopsKept : StoreEvent → Prop
  | .ledger (.fill event) => FillCarried carried s.tables (.fill event) ∧ (s.tables.fill? event = none →
      ∀ order, s.tables.order? event.orderId = some order → FillLeavesStops carried intentType s event order)
  | .ledger (.status event) => ∀ after outcome, applyStatusOnce s.tables event = .ok (after, outcome) →
      ∀ accountId instrumentId p, s.tables.book.position? accountId instrumentId = some p → p.quantity ≠ 0 →
        (∃ stop, WorkingStop intentType s accountId instrumentId p.id stop) →
        ∃ stop row, WorkingStop intentType s accountId instrumentId p.id stop ∧ after.order? stop.id = some row ∧
          row.status.isTerminal = false
  | .ledger _ | .commanded _ => True
  | .answered commandId .accepted _ => ∀ row ∈ s.commands, row.id = commandId →
      ∀ stop, s.tables.order? row.orderId = some stop → intentType stop.orderIntentId = some .protective →
        stop.filledQuantity < stop.requestedQuantity →
        ∀ p, s.tables.book.position? stop.accountId stop.instrumentId = some p → p.quantity ≠ 0 →
          (createdInOpenLifecycle s.tables p.id stop = true ∧ stop.status.isTerminal = false) ∨
          ∃ other, WorkingStop intentType s stop.accountId stop.instrumentId p.id other
  | .answered commandId _ _ => ∀ row ∈ s.commands, row.id = commandId → row.resultState ≠ some .accepted

end Condition

/-! ### What is counted -/

section Counted

variable {carried : ℚ → Prop} {arith : Arithmetic} {hashes : AdoptionHashes} {intentType : UUID → Option IntentType}
  {s s' : ProtectionStore} {accountId instrumentId : UUID}

theorem mem_exposedInstruments : instrumentId ∈ exposedInstruments s accountId ↔
    ∃ p ∈ s.tables.book.positions, p.accountId = accountId ∧ p.quantity ≠ 0 ∧ p.instrumentId = instrumentId := by
  unfold exposedInstruments
  simp only [List.mem_eraseDups, List.mem_map, List.mem_filter, Bool.and_eq_true, decide_eq_true_eq, and_assoc]

theorem mem_protectedInstruments {among : Option (List UUID)} :
    instrumentId ∈ protectedInstruments intentType s accountId among ↔ ∃ order ∈ s.tables.orders,
      order.accountId = accountId ∧ intentType order.orderIntentId = some .protective ∧ isAccepted s order.id = true ∧
      order.filledQuantity < order.requestedQuantity ∧ among.all (·.contains order.instrumentId) = true ∧
      order.instrumentId = instrumentId := by
  unfold protectedInstruments
  simp only [List.mem_eraseDups, List.mem_map, List.mem_filter, Bool.and_eq_true, decide_eq_true_eq, and_assoc]

/-- An open position that is not reported has an order that counts. -/
theorem counted_of_unreported (hids : OrderIds s.tables) {p : Position}
    (hposition : s.tables.book.position? accountId instrumentId = some p) (hopen : p.quantity ≠ 0)
    (hunreported : instrumentId ∉ unprotectedInstruments intentType s accountId) :
    ∃ order, CountedStop intentType s accountId instrumentId order := by
  have hkey := List.find?_some hposition
  simp only [Bool.and_eq_true, decide_eq_true_eq] at hkey
  have hexposed : instrumentId ∈ exposedInstruments s accountId :=
    mem_exposedInstruments.mpr ⟨p, List.mem_of_find?_eq_some hposition, hkey.1, hopen, hkey.2⟩
  have hprotected : instrumentId ∈ protectedInstruments intentType s accountId (some (exposedInstruments s accountId)) := by
    by_contra hnot
    refine hunreported ?_
    unfold unprotectedInstruments
    rw [List.mem_insertionSort]
    exact List.mem_filter.mpr ⟨hexposed, by simpa using hnot⟩
  obtain ⟨order, hmem, haccount, hprotective, haccepted, hunused, -, hinstrument⟩ := mem_protectedInstruments.mp hprotected
  exact ⟨order, ⟨hids.order? hmem, haccount, hinstrument, hprotective, haccepted⟩, hunused⟩

/-- What no transaction changes of an order. -/
structure SameOrder (row row' : Ledger.PersistedOrder) : Prop where
  id : row'.id = row.id
  intent : row'.orderIntentId = row.orderIntentId
  account : row'.accountId = row.accountId
  instrument : row'.instrumentId = row.instrumentId
  requested : row'.requestedQuantity = row.requestedQuantity
  createdAt : row'.createdAt = row.createdAt

theorem SameOrder.refl (row : Ledger.PersistedOrder) : SameOrder row row :=
  ⟨rfl, rfl, rfl, rfl, rfl, rfl⟩

/-- A status event leaves the terms of a row. -/
theorem sameOrder_of_terms {row row' : Ledger.PersistedOrder} (h : row'.terms = row.terms) :
    SameOrder row row' ∧ row'.filledQuantity = row.filledQuantity := by
  have hid := congrArg Ledger.PersistedOrder.id h
  have hintent := congrArg Ledger.PersistedOrder.orderIntentId h
  have haccount := congrArg Ledger.PersistedOrder.accountId h
  have hinstrument := congrArg Ledger.PersistedOrder.instrumentId h
  have hrequested := congrArg Ledger.PersistedOrder.requestedQuantity h
  have hcreated := congrArg Ledger.PersistedOrder.createdAt h
  have hfilled := congrArg Ledger.PersistedOrder.filledQuantity h
  exact ⟨⟨hid, hintent, haccount, hinstrument, hrequested, hcreated⟩, hfilled⟩

theorem AcceptedStop.moved {row row' : Ledger.PersistedOrder} (h : AcceptedStop intentType s accountId instrumentId row)
    (hstored : s'.tables.order? row'.id = some row') (hsame : SameOrder row row')
    (haccepted : isAccepted s' row.id = true) : AcceptedStop intentType s' accountId instrumentId row' where
  stored := hstored
  account := hsame.account.trans h.account
  instrument := hsame.instrument.trans h.instrument
  protective := by
    rw [hsame.intent]
    exact h.protective
  accepted := by
    rw [hsame.id]
    exact haccepted

theorem createdInOpenLifecycle_moved {t after : Tables} {positionId : RowId} {row row' : Ledger.PersistedOrder}
    (hopen : after.book.openLifecycles positionId = t.book.openLifecycles positionId) (hsame : SameOrder row row') :
    createdInOpenLifecycle after positionId row' = createdInOpenLifecycle t positionId row := by
  unfold createdInOpenLifecycle
  rw [hopen, hsame.createdAt]

variable (carried intentType) in
/-- What a run keeps: where a stop counts as protection, one works. -/
structure StopsTracked (s : ProtectionStore) : Prop where
  sound : s.tables.book.Sound carried
  ids : OrderIds s.tables
  ordered : ∀ row ∈ s.commands, s.tables.order? row.orderId ≠ none
  backed : ∀ accountId instrumentId p, s.tables.book.position? accountId instrumentId = some p → p.quantity ≠ 0 →
    ∀ counted, CountedStop intentType s accountId instrumentId counted →
      ∃ stop, WorkingStop intentType s accountId instrumentId p.id stop

theorem StopsTracked.protected (h : StopsTracked carried intentType s) : ProtectedByWorkingStop intentType s := by
  intro accountId instrumentId p hposition hopen hunreported
  obtain ⟨counted, hcounted⟩ := counted_of_unreported h.ids hposition hopen hunreported
  exact h.backed accountId instrumentId p hposition hopen counted hcounted

theorem isAccepted_iff {orderId : UUID} :
    isAccepted s orderId = true ↔ ∃ row ∈ s.commands, row.orderId = orderId ∧ row.resultState = some .accepted := by
  unfold isAccepted
  simp only [List.any_eq_true, Bool.and_eq_true, decide_eq_true_eq]

/-- An accepted order is stored. -/
theorem StopsTracked.stored (h : StopsTracked carried intentType s) {orderId : UUID} (haccepted : isAccepted s orderId = true) :
    ∃ order, s.tables.order? orderId = some order := by
  obtain ⟨row, hrow, rfl, -⟩ := isAccepted_iff.mp haccepted
  exact Option.ne_none_iff_exists'.mp (h.ordered row hrow)

/-! ### One step -/

/-- A transaction that moves no position and writes no order. -/
theorem StopsTracked.kept (h : StopsTracked carried intentType s) {after : Tables} (hids : OrderIds after)
    (hbook : after.book = s.tables.book)
    (hread : ∀ id order, s.tables.order? id = some order → after.order? id = some order) :
    StopsTracked carried intentType { s with tables := after } := by
  refine ⟨hbook ▸ h.sound, hids, ?_, ?_⟩
  · intro row hrow
    obtain ⟨order, horder⟩ := Option.ne_none_iff_exists'.mp (h.ordered row hrow)
    rw [hread _ _ horder]
    exact Option.some_ne_none _
  · intro accountId instrumentId p hposition hopen counted hcounted
    obtain ⟨order, horder⟩ := h.stored hcounted.accepted
    have hsame : order = counted := Option.some.inj ((hread _ _ horder).symm.trans hcounted.stored)
    rw [hsame] at horder
    have hbefore : CountedStop intentType s accountId instrumentId counted :=
      ⟨⟨horder, hcounted.account, hcounted.instrument, hcounted.protective, hcounted.accepted⟩, hcounted.unused⟩
    obtain ⟨stop, hstop⟩ := h.backed accountId instrumentId p (hbook ▸ hposition) hopen counted hbefore
    exact ⟨stop, hstop.toAcceptedStop.moved (hread _ _ hstop.stored) (.refl stop) hstop.accepted,
      (createdInOpenLifecycle_moved (by rw [hbook]) (.refl stop)).trans hstop.lifecycle, hstop.working⟩

/-- A transaction that is neither an execution nor a status event. -/
theorem StopsTracked.other (h : StopsTracked carried intentType s) {event : LedgerEvent} {after : Tables}
    (hfill : ∀ fill, event ≠ .fill fill) (hstatus : ∀ report, event ≠ .status report)
    (hperform : perform arith hashes s.tables event = .ok after) :
    StopsTracked carried intentType { s with tables := after } := by
  rcases perform_orders hfill hstatus hperform with hsame | ⟨row, hrow, hfree⟩
  · have hids : OrderIds after := by
      unfold OrderIds
      rw [hsame]
      exact h.ids
    refine h.kept hids (perform_book hfill hperform) fun id order horder => ?_
    unfold Tables.order? at horder ⊢
    rw [hsame]
    exact horder
  · refine h.kept (h.ids.of_added hrow hfree) (perform_book hfill hperform) fun id order horder => ?_
    unfold Tables.order? Rows.lookup at horder ⊢
    rw [hrow, List.find?_append, horder, Option.some_or]

/-- A status event that ends no last working stop. -/
theorem StopsTracked.status (h : StopsTracked carried intentType s) {event : BrokerOrderStatusEvent} {after : Tables}
    {outcome : BrokerStatusApplication} (hkept : StopsKept carried intentType s (.ledger (.status event)))
    (happly : applyStatusOnce s.tables event = .ok (after, outcome)) :
    StopsTracked carried intentType { s with tables := after } := by
  have honly := StatusOnly.event happly
  refine ⟨honly.book ▸ h.sound, h.ids.status honly, ?_, ?_⟩
  · intro row hrow
    have hread := honly.order? row.orderId
    intro hnone
    rw [hnone, Option.map_none] at hread
    exact h.ordered row hrow (Option.map_eq_none_iff.mp hread.symm)
  · intro accountId instrumentId p hposition hopen counted hcounted
    have hread := honly.order? counted.id
    rw [show after.order? counted.id = some counted from hcounted.stored, Option.map_some] at hread
    obtain ⟨order, horder, hterms⟩ := Option.map_eq_some_iff.mp hread.symm
    obtain ⟨hsame, hfilled⟩ := sameOrder_of_terms hterms.symm
    have hbefore : CountedStop intentType s accountId instrumentId order := by
      refine ⟨⟨by rw [← hsame.id]; exact horder, hsame.account.symm.trans hcounted.account,
        hsame.instrument.symm.trans hcounted.instrument, ?_, ?_⟩, ?_⟩
      · rw [← hsame.intent]
        exact hcounted.protective
      · rw [← hsame.id]
        exact hcounted.accepted
      · rw [← hsame.requested, ← hfilled]
        exact hcounted.unused
    have hposition : s.tables.book.position? accountId instrumentId = some p := honly.book ▸ hposition
    obtain ⟨stop, row, hstop, hrow, hworking⟩ := hkept after outcome happly accountId instrumentId p hposition hopen
      (h.backed accountId instrumentId p hposition hopen order hbefore)
    have hread := honly.order? stop.id
    rw [hrow, hstop.stored, Option.map_some, Option.map_some] at hread
    obtain ⟨hsame, -⟩ := sameOrder_of_terms (Option.some.inj hread)
    exact ⟨row, hstop.toAcceptedStop.moved (by rw [hsame.id]; exact hrow) hsame hstop.accepted,
      (createdInOpenLifecycle_moved (by rw [honly.book]) hsame).trans hstop.lifecycle, hworking⟩

theorem filledStatus_working {requested total : ℚ} (h : total ≠ requested) : (filledStatus requested total).isTerminal = false := by
  unfold filledStatus
  split
  · rfl
  · rfl

/-- A working stop that an execution is not of. -/
theorem WorkingStop.unfilled {anchors : RiskBudgetAnchor × RiskBudgetAnchor} {order stop : Ledger.PersistedOrder} {stored : ℚ}
    {event : BrokerExecutionEvent} {after : Tables} {positionId : RowId}
    (hstop : WorkingStop intentType s accountId instrumentId positionId stop)
    (happlied : Applied arith s.tables after anchors order stored event) (hother : stop.id ≠ event.orderId)
    (hopen : after.book.openLifecycles positionId = s.tables.book.openLifecycles positionId) :
    WorkingStop intentType { s with tables := after } accountId instrumentId positionId stop := by
  have hread : after.order? stop.id = some stop := by
    rw [happlied.order?, hstop.stored, Option.map_some, if_neg hother]
  exact ⟨hstop.toAcceptedStop.moved hread (.refl stop) hstop.accepted,
    (createdInOpenLifecycle_moved hopen (.refl stop)).trans hstop.lifecycle, hstop.working⟩

/-- An execution that leaves the stops in step with the lifecycles. -/
theorem StopsTracked.applied (hc : Carries arith carried) (h : StopsTracked carried intentType s)
    {event : BrokerExecutionEvent} {after : Tables} {anchors : RiskBudgetAnchor × RiskBudgetAnchor}
    {order : Ledger.PersistedOrder} {stored : ℚ} (happlied : Applied arith s.tables after anchors order stored event)
    (hcarried : FillCarried carried s.tables (.fill event)) (hleaves : FillLeavesStops carried intentType s event order) :
    StopsTracked carried intentType { s with tables := after } := by
  obtain ⟨hquantity, hnext⟩ := hcarried happlied.unrecorded
  have hlocked := lockForFill_ok happlied.locked
  have horderId : order.id = event.orderId := Rows.lookup_key hlocked.found
  have htotal : filledTotal arith order event = order.filledQuantity + event.quantity := hc.fix _ hleaves.total
  have hstored : stored = order.filledQuantity + event.quantity := by
    have hcolumn := happlied.total
    rw [htotal, hc.store _ hleaves.total] at hcolumn
    exact (Except.ok.inj hcolumn).symm
  have hsound := h.sound.draw
  have hmoved := applyToPosition_moved hc hsound hquantity hnext happlied.book
  obtain ⟨⟨own, hown, hownId, hownQuantity⟩, hothers⟩ := applyToPosition_moves hc hsound hquantity hnext happlied.book
  refine ⟨applyToPosition_sound hc hsound hquantity hnext happlied.book, h.ids.applied happlied, ?_, ?_⟩
  · intro row hrow
    obtain ⟨found, hfound⟩ := Option.ne_none_iff_exists'.mp (h.ordered row hrow)
    rw [happlied.order?, hfound]
    exact Option.some_ne_none _
  intro accountId instrumentId p hposition hopen counted hcounted
  -- a stop that counts afterwards counted before
  have hread : after.order? counted.id = some counted := hcounted.stored
  rw [happlied.order?] at hread
  obtain ⟨row, hrow, hfilled⟩ := Option.map_eq_some_iff.mp hread
  have hbefore : CountedStop intentType s accountId instrumentId row ∧
      (row = order → order.filledQuantity + event.quantity < order.requestedQuantity) := by
    by_cases hid : counted.id = event.orderId
    · have hsame : row = order := by
        rw [hid, hlocked.found] at hrow
        exact (Option.some.inj hrow).symm
      rw [if_pos hid] at hfilled
      have hunused := hcounted.unused
      have haccount := hcounted.account
      have hinstrument := hcounted.instrument
      have hprotective := hcounted.protective
      have haccepted := hcounted.accepted
      rw [← hfilled] at hunused haccount hinstrument hprotective haccepted
      have hless : order.filledQuantity + event.quantity < order.requestedQuantity := by
        rw [← hstored, ← hsame]
        exact hunused
      refine ⟨⟨⟨?_, haccount, hinstrument, hprotective, haccepted⟩, ?_⟩, fun _ => hless⟩
      · rw [hsame, horderId]
        exact hlocked.found
      · rw [hsame]
        exact lt_trans (lt_add_of_pos_right _ event.terms.1) hless
    · rw [if_neg hid] at hfilled
      rw [hfilled] at hrow ⊢
      refine ⟨⟨⟨hrow, hcounted.account, hcounted.instrument, hcounted.protective, hcounted.accepted⟩, hcounted.unused⟩,
        fun hsame => absurd ?_ hid⟩
      rw [hsame]
      exact horderId
  obtain ⟨hbefore, hless⟩ := hbefore
  by_cases hmine : accountId = event.accountId ∧ instrumentId = event.instrumentId
  · obtain ⟨rfl, rfl⟩ := hmine
    have hsame : own = p := Option.some.inj (hown.symm.trans hposition)
    rw [hsame] at hownId hownQuantity
    by_cases hopens : opensLifecycle (s.tables.book.held event.accountId event.instrumentId)
        (exactNext (s.tables.book.held event.accountId event.instrumentId) event.side event.quantity)
    · obtain ⟨hrowOrder, hused⟩ := hleaves.opening hopens row hbefore
      exact absurd (hless hrowOrder) (not_lt.mpr hused)
    · have hnonzero : exactNext (s.tables.book.held event.accountId event.instrumentId) event.side event.quantity ≠ 0 := by
        intro hzero
        exact hopen (hownQuantity.trans hzero)
      unfold opensLifecycle at hopens
      rw [not_and, not_or] at hopens
      obtain ⟨hheld, hside⟩ := hopens hnonzero
      obtain ⟨before, hbeforePosition, hbeforeQuantity⟩ : ∃ before,
          s.tables.book.position? event.accountId event.instrumentId = some before ∧
          before.quantity = s.tables.book.held event.accountId event.instrumentId := by
        unfold Book.held at hheld ⊢
        cases hfound : s.tables.book.position? event.accountId event.instrumentId with
        | none =>
          rw [hfound] at hheld
          exact absurd rfl hheld
        | some before => exact ⟨before, rfl, rfl⟩
      have hid : p.id = before.id := hownId.trans (positionFor_id hbeforePosition)
      have hbeforeOpen : before.quantity ≠ 0 := by
        rw [hbeforeQuantity]
        exact hheld
      have hlifecycles : after.book.openLifecycles before.id = s.tables.book.openLifecycles before.id := by
        unfold Book.openLifecycles Book.lifecyclesOf
        rw [applyToPosition_continues hc hsound hquantity hnext hheld hnonzero hside happlied.book]
      rw [hid]
      obtain ⟨stop, hstop⟩ := h.backed _ _ before hbeforePosition hbeforeOpen row hbefore
      by_cases hfills : stop.id = event.orderId
      · have hstopOrder : stop = order := by
          have hstopStored := hstop.stored
          rw [hfills, hlocked.found] at hstopStored
          exact (Option.some.inj hstopStored).symm
        by_cases hcomplete : order.filledQuantity + event.quantity = order.requestedQuantity
        · rcases hleaves.completing (hstopOrder ▸ hstop.protective) hcomplete before hbeforePosition hbeforeOpen with
            halone | ⟨other, hother, hne⟩
          · exact absurd hcomplete (hless (halone row hbefore)).ne
          · refine ⟨other, hother.unfilled happlied (fun hotherId => hne ?_) hlifecycles⟩
            have hotherStored := hother.stored
            rw [hotherId, hlocked.found] at hotherStored
            exact (Option.some.inj hotherStored).symm
        · have hfilledRow : after.order? stop.id = some (stop.fill (filledTotal arith order event) stored) := by
            rw [happlied.order?, hstop.stored, Option.map_some, if_pos hfills]
          have hsameOrder : SameOrder stop (stop.fill (filledTotal arith order event) stored) := ⟨rfl, rfl, rfl, rfl, rfl, rfl⟩
          refine ⟨_, hstop.toAcceptedStop.moved hfilledRow hsameOrder hstop.accepted,
            (createdInOpenLifecycle_moved hlifecycles hsameOrder).trans hstop.lifecycle, filledStatus_working ?_⟩
          rw [htotal, hstopOrder]
          exact hcomplete
      · exact ⟨stop, hstop.unfilled happlied hfills hlifecycles⟩
  · have hbeforePosition : s.tables.book.position? accountId instrumentId = some p :=
      (hothers accountId instrumentId hmine).symm.trans hposition
    have hne : p.id ≠ (positionFor { s.tables.book with drawn := s.tables.book.drawn + 1 } event).1.id :=
      positionFor_id_ne (hc.zero hquantity event.terms.1.le) hsound hbeforePosition hmine
    have hlifecycles : after.book.openLifecycles p.id = s.tables.book.openLifecycles p.id := by
      unfold Book.openLifecycles
      rw [hmoved.lifecycles p.id hne]
      unfold Book.lifecyclesOf
      rw [(positionFor_rows _ event).1.1]
    obtain ⟨stop, hstop⟩ := h.backed accountId instrumentId p hbeforePosition hopen row hbefore
    refine ⟨stop, hstop.unfilled happlied (fun hfills => hmine ?_) hlifecycles⟩
    have hstopStored := hstop.stored
    rw [hfills, hlocked.found] at hstopStored
    have hstopOrder := Option.some.inj hstopStored
    exact ⟨hstop.account.symm.trans (hstopOrder ▸ hlocked.account), hstop.instrument.symm.trans (hstopOrder ▸ hlocked.instrument)⟩

theorem AcceptedStop.recommanded {commands : List PersistedOrderCommand} {order : Ledger.PersistedOrder}
    (h : AcceptedStop intentType s accountId instrumentId order)
    (haccepted : isAccepted { s with commands := commands } order.id = true) :
    AcceptedStop intentType { s with commands := commands } accountId instrumentId order :=
  ⟨h.stored, h.account, h.instrument, h.protective, haccepted⟩

theorem WorkingStop.recommanded {commands : List PersistedOrderCommand} {positionId : RowId} {order : Ledger.PersistedOrder}
    (h : WorkingStop intentType s accountId instrumentId positionId order)
    (haccepted : isAccepted { s with commands := commands } order.id = true) :
    WorkingStop intentType { s with commands := commands } accountId instrumentId positionId order :=
  ⟨h.toAcceptedStop.recommanded haccepted, h.lifecycle, h.working⟩

/-- Commands in which the same orders are accepted. -/
theorem StopsTracked.recommanded (h : StopsTracked carried intentType s) {commands : List PersistedOrderCommand}
    (hordered : ∀ row ∈ commands, s.tables.order? row.orderId ≠ none)
    (hsame : ∀ orderId, isAccepted { s with commands := commands } orderId = isAccepted s orderId) :
    StopsTracked carried intentType { s with commands := commands } := by
  refine ⟨h.sound, h.ids, hordered, fun accountId instrumentId p hposition hopen counted hcounted => ?_⟩
  have hbefore : CountedStop intentType s accountId instrumentId counted :=
    ⟨⟨hcounted.stored, hcounted.account, hcounted.instrument, hcounted.protective,
      (hsame _).symm.trans hcounted.accepted⟩, hcounted.unused⟩
  obtain ⟨stop, hstop⟩ := h.backed accountId instrumentId p hposition hopen counted hbefore
  exact ⟨stop, hstop.recommanded ((hsame _).trans hstop.accepted)⟩

theorem commandRow_unanswered {command : BrokerOrderCommand} {row : PersistedOrderCommand} (h : commandRow command = some row) :
    row.resultState = none := by
  unfold commandRow at h
  split at h
  · rw [← Option.some.inj h]
  · cases h

theorem StopsTracked.commanded (h : StopsTracked carried intentType s) (command : BrokerOrderCommand) :
    StopsTracked carried intentType { s with commands := withCommand s command } := by
  unfold withCommand
  split
  · exact h
  rename_i row hrow
  split
  · rename_i hnew
    simp only [Bool.and_eq_true] at hnew
    refine h.recommanded (fun other hother => ?_) fun orderId => ?_
    · rcases List.mem_append.mp hother with hold | hadded
      · exact h.ordered other hold
      · rw [List.mem_singleton.mp hadded]
        exact Option.ne_none_iff_isSome.mpr hnew.1
    · unfold isAccepted
      rw [List.any_append, List.any_cons, commandRow_unanswered hrow]
      simp
  · exact h

/-- The rows of an answer, from those before it. -/
theorem mem_answered {commandId : UUID} {state : ResultState} {moment : Instant} {row : PersistedOrderCommand} :
    row ∈ (OrderTables.update ⟨s.commands, s.tables.links⟩ commandId (StoreOp.answerRow state moment)).commands ↔
      ∃ old ∈ s.commands, (old.id = commandId ∧ row = StoreOp.answerRow state moment old) ∨ (old.id ≠ commandId ∧ row = old) := by
  unfold OrderTables.update
  simp only [List.mem_map]
  refine exists_congr fun old => and_congr_right fun _ => ?_
  by_cases hid : old.id = commandId
  · simp [hid, eq_comm]
  · simp [hid, eq_comm]

theorem answered_ordered (h : StopsTracked carried intentType s) {commandId : UUID} {state : ResultState} {moment : Instant} :
    ∀ row ∈ (OrderTables.update ⟨s.commands, s.tables.links⟩ commandId (StoreOp.answerRow state moment)).commands,
      s.tables.order? row.orderId ≠ none := by
  intro row hrow
  obtain ⟨old, hold, ⟨-, rfl⟩ | ⟨-, rfl⟩⟩ := mem_answered.mp hrow
  · exact h.ordered old hold
  · exact h.ordered row hold

/-- An answer that accepts a stop that works, or any other beside a working one. -/
theorem StopsTracked.accepted (h : StopsTracked carried intentType s) {commandId : UUID} {moment : Instant}
    (hkept : StopsKept carried intentType s (.answered commandId .accepted moment)) :
    StopsTracked carried intentType
      { s with commands := (OrderTables.update ⟨s.commands, s.tables.links⟩ commandId (StoreOp.answerRow .accepted moment)).commands } := by
  set commands := (OrderTables.update ⟨s.commands, s.tables.links⟩ commandId (StoreOp.answerRow .accepted moment)).commands
    with hcommands
  have hstill : ∀ orderId, isAccepted s orderId = true → isAccepted { s with commands := commands } orderId = true := by
    intro orderId haccepted
    obtain ⟨row, hrow, horder, hstate⟩ := isAccepted_iff.mp haccepted
    by_cases hid : row.id = commandId
    · exact isAccepted_iff.mpr ⟨_, mem_answered.mpr ⟨row, hrow, .inl ⟨hid, rfl⟩⟩, horder, rfl⟩
    · exact isAccepted_iff.mpr ⟨row, mem_answered.mpr ⟨row, hrow, .inr ⟨hid, rfl⟩⟩, horder, hstate⟩
  refine ⟨h.sound, h.ids, answered_ordered h, fun accountId instrumentId p hposition hopen counted hcounted => ?_⟩
  by_cases hbefore : isAccepted s counted.id = true
  · have hcountedBefore : CountedStop intentType s accountId instrumentId counted :=
      ⟨⟨hcounted.stored, hcounted.account, hcounted.instrument, hcounted.protective, hbefore⟩, hcounted.unused⟩
    obtain ⟨stop, hstop⟩ := h.backed accountId instrumentId p hposition hopen counted hcountedBefore
    exact ⟨stop, hstop.recommanded (hstill _ hstop.accepted)⟩
  · obtain ⟨row, hrow, horder, hstate⟩ := isAccepted_iff.mp hcounted.accepted
    obtain ⟨old, hold, ⟨hid, rfl⟩ | ⟨-, rfl⟩⟩ := mem_answered.mp hrow
    · have hstored : s.tables.order? old.orderId = some counted := by
        rw [show old.orderId = counted.id from horder]
        exact hcounted.stored
      have hown : s.tables.book.position? counted.accountId counted.instrumentId = some p := by
        rw [hcounted.account, hcounted.instrument]
        exact hposition
      rcases hkept old hold hid counted hstored hcounted.protective hcounted.unused p hown hopen with
        ⟨hcreated, hworking⟩ | ⟨stop, hstop⟩
      · exact ⟨counted, hcounted.toAcceptedStop, hcreated, hworking⟩
      · rw [hcounted.account, hcounted.instrument] at hstop
        exact ⟨stop, hstop.recommanded (hstill _ hstop.accepted)⟩
    · exact absurd (isAccepted_iff.mpr ⟨row, hold, horder, hstate⟩) hbefore

/-- Another answer, to a command that was not accepted. -/
theorem StopsTracked.unaccepted (h : StopsTracked carried intentType s) {commandId : UUID} {state : ResultState} {moment : Instant}
    (hstate : state ≠ .accepted) (hkept : ∀ row ∈ s.commands, row.id = commandId → row.resultState ≠ some .accepted) :
    StopsTracked carried intentType
      { s with commands := (OrderTables.update ⟨s.commands, s.tables.links⟩ commandId (StoreOp.answerRow state moment)).commands } := by
  refine h.recommanded (answered_ordered h) fun orderId => ?_
  rw [Bool.eq_iff_iff, isAccepted_iff, isAccepted_iff]
  constructor
  · rintro ⟨row, hrow, horder, haccepted⟩
    obtain ⟨old, hold, ⟨-, rfl⟩ | ⟨-, rfl⟩⟩ := mem_answered.mp hrow
    · exact absurd (Option.some.inj haccepted) hstate
    · exact ⟨row, hold, horder, haccepted⟩
  · rintro ⟨row, hrow, horder, haccepted⟩
    exact ⟨row, mem_answered.mpr ⟨row, hrow, .inr ⟨fun hid => hkept row hrow hid haccepted, rfl⟩⟩, horder, haccepted⟩

/-! ### Runs -/

theorem StopsTracked.step (hc : Carries arith carried) (h : StopsTracked carried intentType s) {event : StoreEvent}
    (hkept : StopsKept carried intentType s event) : StopsTracked carried intentType (storeStep arith hashes s event) := by
  cases event with
  | commanded command => exact h.commanded command
  | answered commandId state moment =>
    cases state with
    | accepted => exact h.accepted hkept
    | rejected => exact h.unaccepted (by decide) hkept
    | unknown => exact h.unaccepted (by decide) hkept
  | ledger event =>
    refine step_keeps (I := fun tables => StopsTracked carried intentType { s with tables := tables }) h fun after hperform => ?_
    by_cases hfill : ∃ fill, event = .fill fill
    · obtain ⟨fill, rfl⟩ := hfill
      obtain ⟨⟨_, result⟩, happly, rfl⟩ := map_ok hperform
      rcases applyEventOnce_ok happly with ⟨-, existing, -, rfl | rfl⟩ | ⟨-, anchors, order, stored, happlied⟩
      · exact h
      · exact h.kept h.ids rfl fun _ _ horder => horder
      · exact h.applied hc happlied hkept.1 (hkept.2 happlied.unrecorded order (lockForFill_ok happlied.locked).found)
    by_cases hstatus : ∃ report, event = .status report
    · obtain ⟨report, rfl⟩ := hstatus
      obtain ⟨⟨_, outcome⟩, happly, rfl⟩ := map_ok hperform
      exact h.status hkept happly
    · exact h.other (fun fill heq => hfill ⟨fill, heq⟩) (fun report heq => hstatus ⟨report, heq⟩) hperform

end Counted

/-- In every store a history leaves that began without positions and commands. -/
theorem protected_by_working_stop (hashes : AdoptionHashes) (intentType : UUID → Option IntentType) (s : ProtectionStore)
    (hnothing : NothingHeld s.tables.book) (hids : OrderIds s.tables) (hcommands : s.commands = []) (events : List StoreEvent)
    (hkept : RunMeets (storeStep .decimal28 hashes) (StopsKept (OnGrid 28 (-18)) intentType) s events) :
    ProtectedByWorkingStop intentType (runFrom (storeStep .decimal28 hashes) s events) := by
  have hstart : StopsTracked (OnGrid 28 (-18)) intentType s := by
    refine ⟨hnothing.sound, hids, ?_, ?_⟩
    · rw [hcommands]
      exact fun row hrow => absurd hrow List.not_mem_nil
    · intro accountId instrumentId p hposition
      have hmem : p ∈ s.tables.book.positions := List.mem_of_find?_eq_some hposition
      rw [hnothing.1] at hmem
      exact absurd hmem List.not_mem_nil
  exact (run_invariant (fun _ _ h hkept => h.step Carries.decimal28 hkept) hstart hkept).protected

/-- The stop behind an entry of three, and the entry. -/
private def stopOrder : Ledger.PersistedOrder :=
  { Ledger.sampleOrder .sell 3 with
    id := rowUuid 13, orderIntentId := rowUuid 16, brokerClientOrderId := "client-2", triggerPrice := some (1 / 2), createdAt := 20 }

private def entryAndStop : ProtectionStore where
  tables := sampleTables [Ledger.sampleOrder .buy 3, stopOrder]
    [sampleLink (rowUuid 3) "ACKNOWLEDGED",
      { sampleLink (rowUuid 13) "ACKNOWLEDGED" with id := rowUuid 17, brokerOrderId := "B2" }]
  commands := []

private theorem entryAndStop_ids : OrderIds entryAndStop.tables := by
  unfold OrderIds
  decide +kernel

private def intentKinds (intentId : UUID) : Option IntentType :=
  if intentId = rowUuid 16 then some .protective else some .entry

private def stopCommand : BrokerOrderCommand :=
  { (sampleRow .submit .submitStrictReduction submits_reduction).toBrokerOrderCommand with orderId := rowUuid 13 }

private def stopPlaced : List StoreEvent :=
  [.ledger (.fill (Ledger.sampleFill (rowUuid 3) "1" .buy 3 rat_three_pos)), .commanded stopCommand,
    .answered (sampleId 10) .accepted 30]

private def stopCanceled : StoreEvent :=
  .ledger (.status
    { brokerId := rowUuid 1
      accountId := rowUuid 2
      sourcePartition := "status"
      dedupeKey := "canceled"
      rawStatus := "CANCELED"
      occurredAt := 40
      sourceSequence := none
      brokerOrderId := some "B2"
      orderId := some (rowUuid 13)
      brokerClientOrderId := some "client-2"
      requestedQuantity := some 3
      cumulativeFilledQuantity := some 0
      observedAt := some 40
      payloadHash := 1 })

/-- The entry fills, and its stop is accepted. -/
theorem protected_by_working_stop_placed :
    ProtectedByWorkingStop intentKinds (runFrom (storeStep .decimal28 noHashes) entryAndStop stopPlaced) := by
  refine protected_by_working_stop noHashes intentKinds entryAndStop ⟨rfl, rfl, rfl⟩ entryAndStop_ids rfl stopPlaced
    ⟨⟨fun _ => ⟨?_, ?_⟩, fun _ order horder => ?_⟩, trivial, ?_, trivial⟩
  · exact ⟨3 * 10 ^ 18, by norm_num [Ledger.sampleFill], by norm_num⟩
  · exact ⟨3 * 10 ^ 18, by norm_num [Ledger.sampleFill, entryAndStop, sampleTables, noTables, Book.held, Book.position?, exactNext],
      by norm_num⟩
  · have hentry : entryAndStop.tables.order? (rowUuid 3) = some (Ledger.sampleOrder .buy 3) := by decide +kernel
    have hsame : Ledger.sampleOrder .buy 3 = order := Option.some.inj (hentry.symm.trans horder)
    rw [← hsame]
    refine ⟨⟨3 * 10 ^ 18, by norm_num [Ledger.sampleOrder, Ledger.sampleFill], by norm_num⟩, fun _ stop hstop => ?_, fun hkind => ?_⟩
    · exact absurd hstop.accepted (by simp [isAccepted, entryAndStop])
    · exact absurd hkind (by decide +kernel)
  · intro row hrow _ stop hstop _ _ p hposition _
    set before := storeStep .decimal28 noHashes (storeStep .decimal28 noHashes entryAndStop
      (.ledger (.fill (Ledger.sampleFill (rowUuid 3) "1" .buy 3 rat_three_pos)))) (.commanded stopCommand) with hbefore
    have horders : ∀ row ∈ before.commands, row.orderId = rowUuid 13 := by decide +kernel
    have hstored : before.tables.order? (rowUuid 13) = some stopOrder := by decide +kernel
    have hlifecycle : ∀ p ∈ before.tables.book.positions, createdInOpenLifecycle before.tables p.id stopOrder = true := by
      decide +kernel
    rw [horders row hrow] at hstop
    have hsame : stopOrder = stop := Option.some.inj (hstored.symm.trans hstop)
    rw [← hsame] at hposition ⊢
    exact .inl ⟨hlifecycle p (List.mem_of_find?_eq_some hposition), rfl⟩

/-- The stop is canceled, and the position is not reported. -/
theorem protected_by_working_stop_fails :
    ¬∀ (intentType : UUID → Option IntentType) (s : ProtectionStore) (events : List StoreEvent), NothingHeld s.tables.book →
      OrderIds s.tables → s.commands = [] →
      ProtectedByWorkingStop intentType (runFrom (storeStep .decimal28 noHashes) s events) := by
  intro h
  have hprotected := h intentKinds entryAndStop (stopPlaced ++ [stopCanceled]) ⟨rfl, rfl, rfl⟩ entryAndStop_ids rfl
  set after := runFrom (storeStep .decimal28 noHashes) entryAndStop (stopPlaced ++ [stopCanceled]) with hafter
  have hposition : (after.tables.book.position? (rowUuid 2) (rowUuid 4)).map (·.quantity) = some 3 := by decide +kernel
  have hunreported : rowUuid 4 ∉ unprotectedInstruments intentKinds after (rowUuid 2) := by decide +kernel
  have hended : ∀ order ∈ after.tables.orders, intentKinds order.orderIntentId = some .protective →
      order.status.isTerminal = true := by decide +kernel
  obtain ⟨p, hp, hquantity⟩ := Option.map_eq_some_iff.mp hposition
  obtain ⟨stop, hstop⟩ := hprotected (rowUuid 2) (rowUuid 4) p hp (by rw [hquantity]; norm_num) hunreported
  have hterminal := hended stop (List.mem_of_find?_eq_some hstop.stored) hstop.protective
  rw [hstop.working] at hterminal
  cases hterminal

end AutoTrader.Trader
