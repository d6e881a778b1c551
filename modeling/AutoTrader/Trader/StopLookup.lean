import AutoTrader.Trader.ProtectedPositions

/-! `MySqlPositionActions._working_stop`: the stop a move is about. It is read from the orders of the
instrument and every link they ever had, the newest order first; what a broker still works is what
its answers left standing. -/

namespace AutoTrader.Trader

open AutoTrader.Dispatch AutoTrader.Domain AutoTrader.Execution AutoTrader.Ledger AutoTrader.Numeric AutoTrader.Operations
  AutoTrader.Runtime

/-- An order with a broker order linked to it. -/
abbrev StopRow := Ledger.PersistedOrder × String

/-- The ledger, and the broker orders that are accepted and not replaced, canceled or filled since,
each under the order it is of. -/
structure StopLedger extends ProtectionStore where
  standing : List (UUID × String)

section Lookup

variable (intentType : UUID → Option IntentType) (prefers : StopRow → StopRow → Bool) (s : ProtectionStore)
  (accountId instrumentId : UUID)

/-- The join of `_working_stop`. -/
def stopRows : List StopRow :=
  (s.tables.orders.filter fun order => order.accountId = accountId && order.instrumentId = instrumentId &&
      (intentType order.orderIntentId = some .protective && decide (order.filledQuantity = 0))).flatMap
    fun order => (s.tables.linksOf order.id).map fun link => (order, link.brokerOrderId)

/-- A row comes before another; `prefers` is the database's choice among rows of one moment. -/
def precedes (row other : StopRow) : Bool :=
  decide (other.1.createdAt < row.1.createdAt) || decide (other.1.createdAt = row.1.createdAt) && prefers row other

/-- `_working_stop`. -/
def workingStop : Option StopRow :=
  (stopRows intentType s accountId instrumentId).foldl
    (fun first row => if first.all (precedes prefers row) then some row else first) none

end Lookup

/-! ### The broker -/

/-- What a broker has standing when it accepted a command. -/
def brokerAccepts (row : PersistedOrderCommand) (brokerOrderId : String) (standing : List (UUID × String)) :
    List (UUID × String) :=
  let others := standing.filter fun w => !(w.1 = row.orderId && some w.2 = row.targetBrokerOrderId)
  match row.commandType with
  | .submit => standing ++ [(row.orderId, brokerOrderId)]
  | .cancel => others
  | .replace => others ++ [(row.orderId, brokerOrderId)]

/-- An order that ended stands nowhere. -/
def StopLedger.settled (s : StopLedger) : StopLedger :=
  { s with standing := s.standing.filter fun w => (s.tables.order? w.1).any fun order => !order.status.isTerminal }

/-! ### Histories -/

/-- A transaction of the ledger, a new command, and what a broker answered to one: it accepted the
command under a broker order id, or rejected it, or gave no answer. -/
inductive WorkingStopEvent
  | ledger (event : LedgerEvent)
  | commanded (command : BrokerOrderCommand)
  | accepted (commandId linkId brokerId : UUID) (brokerOrderId : String) (moment : Instant)
  | refused (commandId : UUID) (state : ResultState) (moment : Instant)

namespace ProtectionStore

def command? (s : ProtectionStore) (commandId : UUID) : Option PersistedOrderCommand :=
  OrderTables.command? ⟨s.commands, s.tables.links⟩ commandId

def answer (s : ProtectionStore) (commandId : UUID) (state : ResultState) (moment : Instant) : List PersistedOrderCommand :=
  (OrderTables.update ⟨s.commands, s.tables.links⟩ commandId (StoreOp.answerRow state moment)).commands

/-- `record_accepted`, once the command is read and was not accepted before. -/
def recordAccepted (s : ProtectionStore) (row : PersistedOrderCommand) (linkId brokerId : UUID) (brokerOrderId : String)
    (moment : Instant) : Except PyError ProtectionStore :=
  if untrimmed brokerOrderId then .error ⟨.valueError, "broker_order_id must be non-empty trimmed text"⟩
  else do
    let tables ← linkAccepted s.tables ⟨linkId, row.orderId, brokerId, brokerOrderId, row.commandType⟩
    pure ⟨tables, s.answer row.id .accepted moment⟩

/-- `_record_terminal`. -/
def recordTerminal (s : ProtectionStore) (commandId : UUID) (state : ResultState) (moment : Instant) : ProtectionStore :=
  match s.command? commandId with
  | none => s
  | some row =>
    if row.resultState = some .accepted ∨ row.resultState = some state then s
    else { s with commands := s.answer commandId state moment }

end ProtectionStore

def StopLedger.step (arith : Arithmetic) (hashes : AdoptionHashes) (s : StopLedger) : WorkingStopEvent → StopLedger
  | .ledger event => StopLedger.settled { s with tables := Ledger.step arith hashes s.tables event }
  | .commanded command => { s with commands := withCommand s.toProtectionStore command }
  | .accepted commandId linkId brokerId brokerOrderId moment =>
    match s.command? commandId with
    | none => s
    | some row =>
      if row.resultState = some .accepted then s
      else
        -- the broker has accepted, whether or not that can be recorded
        let recorded := match s.recordAccepted row linkId brokerId brokerOrderId moment with
          | .ok recorded => recorded
          | .error _ => s.toProtectionStore
        StopLedger.settled ⟨recorded, brokerAccepts row brokerOrderId s.standing⟩
  | .refused commandId state moment => { s with toProtectionStore := s.recordTerminal commandId state moment }

/-! ### The law -/

section Law

variable (intentType : UUID → Option IntentType) (s : StopLedger) (accountId instrumentId : UUID)

/-- A protective order of the open lifecycle, under the broker order that stands for it. -/
structure StandingStop (row : StopRow) : Prop where
  stored : s.tables.order? row.1.id = some row.1
  account : row.1.accountId = accountId
  instrument : row.1.instrumentId = instrumentId
  protective : intentType row.1.orderIntentId = some .protective
  lifecycle : ∃ p, s.tables.book.position? accountId instrumentId = some p ∧
    createdInOpenLifecycle s.tables p.id row.1 = true
  standing : (row.1.id, row.2) ∈ s.standing

/-- What is found is such a stop, and nothing is found when there is none. -/
def FindsWorkingStop (prefers : StopRow → StopRow → Bool) : Prop :=
  (∀ row, workingStop intentType prefers s.toProtectionStore accountId instrumentId = some row →
    StandingStop intentType s accountId instrumentId row) ∧
  (workingStop intentType prefers s.toProtectionStore accountId instrumentId = none ↔
    ¬∃ row, StandingStop intentType s accountId instrumentId row)

end Law

/-! ### The condition -/

section Condition

variable (carried : ℚ → Prop) (intentType : UUID → Option IntentType) (s : StopLedger)

/-- An execution of an order leaves no stop half filled, and no other unfilled one behind when it ends
a lifecycle. -/
structure ExecutionKeepsStops (event : BrokerExecutionEvent) (order : Ledger.PersistedOrder) : Prop where
  total : carried (order.filledQuantity + event.quantity)
  whole : intentType order.orderIntentId = some .protective → order.filledQuantity = 0 →
    event.quantity = order.requestedQuantity
  ending : ¬Continues s.tables.book event event.accountId event.instrumentId →
    ∀ row ∈ stopRows intentType s.toProtectionStore event.accountId event.instrumentId, row.1.id = order.id

/-- A stop that is accepted while nothing of it is filled: it works in the open lifecycle it was
created in, under the first broker order of its own; a replacement keeps the broker order id of the
stop that stands; and it is not canceled. -/
def AcceptanceKeepsStop (row : PersistedOrderCommand) (brokerId : UUID) (brokerOrderId : String)
    (order : Ledger.PersistedOrder) : Prop :=
  match row.commandType with
  | .submit => untrimmed brokerOrderId = false ∧ order.status.isTerminal = false ∧
      (∃ p, s.tables.book.position? order.accountId order.instrumentId = some p ∧
        createdInOpenLifecycle s.tables p.id order = true) ∧
      (∀ link ∈ s.tables.links, link.orderId = order.id → link.brokerOrderId = brokerOrderId) ∧
      ∀ link ∈ s.tables.links, link.brokerId = brokerId → link.brokerOrderId = brokerOrderId → link.orderId = order.id
  | .replace => row.targetBrokerOrderId = some brokerOrderId ∧ (order.id, brokerOrderId) ∈ s.standing
  | .cancel => False

/-- The condition: no unfilled stop outlives its lifecycle or is ended by the broker, no stop is half
filled, and acceptances keep the stop they are of. -/
def WorkingStopKept : WorkingStopEvent → Prop
  | .ledger (.fill event) => FillCarried carried s.tables (.fill event) ∧ (s.tables.fill? event = none →
      ∀ order, s.tables.order? event.orderId = some order → ExecutionKeepsStops carried intentType s event order)
  | .ledger (.status event) => ∀ after outcome, applyStatusOnce s.tables event = .ok (after, outcome) →
      ∀ accountId instrumentId, ∀ row ∈ stopRows intentType s.toProtectionStore accountId instrumentId,
        ∀ stored, after.order? row.1.id = some stored → stored.status.isTerminal = false
  | .ledger (.accept acceptance) => ∃ order, s.tables.order? acceptance.orderId = some order ∧
      intentType order.orderIntentId ≠ some .protective
  | .ledger (.adopt _ ids) => intentType ids.intentId ≠ some .protective
  | .ledger _ | .commanded _ | .refused _ _ _ => True
  | .accepted commandId _ brokerId brokerOrderId _ => ∀ row, s.command? commandId = some row →
      row.resultState ≠ some .accepted → ∀ order, s.tables.order? row.orderId = some order →
        intentType order.orderIntentId = some .protective →
        (order.filledQuantity = 0 → AcceptanceKeepsStop s row brokerId brokerOrderId order) ∧
        (order.filledQuantity ≠ 0 → order.status.isTerminal = true ∨ row.commandType = .cancel)

end Condition

/-! ### What is looked up -/

section Rows

variable {intentType : UUID → Option IntentType} {prefers : StopRow → StopRow → Bool} {s : ProtectionStore}
  {accountId instrumentId : UUID}

theorem mem_stopRows {row : StopRow} : row ∈ stopRows intentType s accountId instrumentId ↔
    row.1 ∈ s.tables.orders ∧ row.1.accountId = accountId ∧ row.1.instrumentId = instrumentId ∧
      intentType row.1.orderIntentId = some .protective ∧ row.1.filledQuantity = 0 ∧
      ∃ link ∈ s.tables.links, link.orderId = row.1.id ∧ link.brokerOrderId = row.2 := by
  obtain ⟨order, brokerOrderId⟩ := row
  unfold stopRows Tables.linksOf
  simp only [List.mem_flatMap, List.mem_map, List.mem_filter, Bool.and_eq_true, decide_eq_true_eq, Prod.mk.injEq]
  constructor
  · rintro ⟨_, ⟨hmem, ⟨haccount, hinstrument⟩, hprotective, hunfilled⟩, link, ⟨hlink, horder⟩, rfl, hid⟩
    exact ⟨hmem, haccount, hinstrument, hprotective, hunfilled, link, hlink, horder, hid⟩
  · rintro ⟨hmem, haccount, hinstrument, hprotective, hunfilled, link, hlink, horder, hid⟩
    exact ⟨order, ⟨hmem, ⟨haccount, hinstrument⟩, hprotective, hunfilled⟩, link, ⟨hlink, horder⟩, rfl, hid⟩

/-- The row that is first is one of the rows. -/
theorem first_mem {rows : List StopRow} {first : Option StopRow} {row : StopRow}
    (h : rows.foldl (fun first row => if first.all (precedes prefers row) then some row else first) first = some row) :
    first = some row ∨ row ∈ rows := by
  induction rows generalizing first with
  | nil => exact .inl h
  | cons head rows ih =>
    rw [List.foldl_cons] at h
    rcases ih h with hfirst | hmem
    · split at hfirst
      · rw [← Option.some.inj hfirst]
        exact .inr List.mem_cons_self
      · exact .inl hfirst
    · exact .inr (List.mem_cons_of_mem _ hmem)

/-- Where there is a row, one is first. -/
theorem first_isSome (prefers : StopRow → StopRow → Bool) (rows : List StopRow) {first : Option StopRow} (h : first.isSome = true) :
    (rows.foldl (fun first row => if first.all (precedes prefers row) then some row else first) first).isSome = true := by
  induction rows generalizing first with
  | nil => exact h
  | cons head rows ih =>
    rw [List.foldl_cons]
    refine ih ?_
    split
    · rfl
    · exact h

theorem workingStop_mem {row : StopRow} (h : workingStop intentType prefers s accountId instrumentId = some row) :
    row ∈ stopRows intentType s accountId instrumentId := by
  rcases first_mem h with hnone | hmem
  · cases hnone
  · exact hmem

theorem workingStop_eq_none : workingStop intentType prefers s accountId instrumentId = none ↔
    stopRows intentType s accountId instrumentId = [] := by
  unfold workingStop
  cases hrows : stopRows intentType s accountId instrumentId with
  | nil => exact ⟨fun _ => rfl, fun _ => rfl⟩
  | cons head rows =>
    rw [List.foldl_cons, if_pos (by rfl)]
    refine iff_of_false (fun hnone => ?_) (List.cons_ne_nil _ _)
    have hsome := first_isSome prefers rows (rfl : (some head).isSome = true)
    rw [hnone] at hsome
    cases hsome

end Rows

end AutoTrader.Trader
