import AutoTrader.Binance.OrderRequests
import AutoTrader.Execution.Orders

/-! The journal of intents, orders and commands, and the store methods that write it. One
session is one computation: an exception drops everything it wrote. Fresh ids come from
a supply whose position the journal remembers. -/

namespace AutoTrader.Trader

open AutoTrader.Domain AutoTrader.Execution AutoTrader.Binance

structure PersistedOrderIntent where
  id : UUID
  idempotencyKey : String
  canonicalPayloadHash : Digest
  intentType : IntentType
  strategySignalId : Option UUID
  protectionPositionId : Option UUID
  protectionReasonCode : Option String
  deriving DecidableEq

structure PersistedOrder extends Order where
  filledQuantity : ℚ
  deriving DecidableEq

/-- `anchored`: the global and the account budget rows exist. -/
structure Journal where
  intents : List PersistedOrderIntent
  orders : List PersistedOrder
  commands : List PersistedOrderCommand
  anchored : Bool
  drawn : Nat

namespace Journal

def order? (j : Journal) (id : UUID) : Option PersistedOrder :=
  j.orders.find? (·.id = id)

/-- The command of an order. -/
def commandOf? (j : Journal) (orderId : UUID) : Option PersistedOrderCommand :=
  j.commands.find? (·.orderId = orderId)

def command? (j : Journal) (id : UUID) : Option PersistedOrderCommand :=
  j.commands.find? (·.id = id)

end Journal

abbrev JournalAct := StateT Journal (Except PyError)

/-- A sequence ends well exactly when both of its parts do. -/
theorem journal_bind_ok {α β : Type} {x : JournalAct α} {f : α → JournalAct β} {j j' : Journal} {b : β} :
    (x >>= f) j = .ok (b, j') ↔ ∃ a j₁, x j = .ok (a, j₁) ∧ f a j₁ = .ok (b, j') := by
  show (x j >>= fun p => f p.1 p.2) = _ ↔ _
  rw [bind_ok]
  exact ⟨fun ⟨⟨a, j₁⟩, h⟩ => ⟨a, j₁, h⟩, fun ⟨a, j₁, h⟩ => ⟨(a, j₁), h⟩⟩

theorem journal_lift_ok {α : Type} {x : Except PyError α} {j j' : Journal} {a : α} :
    (liftM x : JournalAct α) j = .ok (a, j') ↔ x = .ok a ∧ j' = j := by
  cases x with
  | error e =>
    constructor
    · intro h
      cases h
    · rintro ⟨h, -⟩
      cases h
  | ok b =>
    constructor
    · intro h
      cases h
      exact ⟨rfl, rfl⟩
    · rintro ⟨h, rfl⟩
      cases h
      rfl

/-- The journal only grows, ids are only drawn once, and every command added satisfies a
property of the commands and the ids drawn for them. -/
structure Extends (added : Nat → Nat → PersistedOrderCommand → Prop) (j j' : Journal) : Prop where
  drawn : j.drawn ≤ j'.drawn
  commands : ∀ row ∈ j'.commands, row ∈ j.commands ∨ added j.drawn j'.drawn row

variable {added : Nat → Nat → PersistedOrderCommand → Prop}

theorem Extends.refl (j : Journal) : Extends added j j :=
  ⟨le_rfl, fun _ h => .inl h⟩

theorem Extends.trans {j₁ j₂ j₃ : Journal}
    (hmono : ∀ a a' b b' row, a' ≤ a → b ≤ b' → added a b row → added a' b' row)
    (h : Extends added j₁ j₂) (h' : Extends added j₂ j₃) : Extends added j₁ j₃ := by
  refine ⟨h.drawn.trans h'.drawn, fun row hrow => ?_⟩
  rcases h'.commands row hrow with hold | hnew
  · rcases h.commands row hold with hold | hnew
    · exact .inl hold
    · exact .inr (hmono _ _ _ _ row le_rfl h'.drawn hnew)
  · exact .inr (hmono _ _ _ _ row h.drawn le_rfl hnew)

section Stores

variable (ids : Nat → UUID) (sha256 : String → Digest)

/-- `new_uuid7`. -/
def newUuid7 : JournalAct UUID :=
  fun j => .ok (ids j.drawn, { j with drawn := j.drawn + 1 })

/-! ### Intents -/

/-- `_canonical_hash`. The trigger is not part of it. -/
def intentHash (intent : OrderIntent) : Digest :=
  let plain := fun d : Decimal => JsonScalar.str (String.ofList d.normalize.formatF)
  sha256 (canonicalJson
    [("account_id", .str (String.ofList intent.accountId.hex)),
      ("instrument_id", .str (String.ofList intent.instrumentId.hex)),
      ("intent_type", .str intent.intentType.value),
      ("side", .str intent.side.value),
      ("order_style", .str intent.orderStyle.value),
      ("quantity", plain intent.quantity),
      ("limit_price", (intent.limitPrice.map plain).getD .null)])

/-- `OrderIntentRepository.create_or_get`. -/
def createOrGet (intent : PersistedOrderIntent) : JournalAct PersistedOrderIntent := fun j =>
  let taken := j.intents.any fun row => row.id = intent.id || row.idempotencyKey = intent.idempotencyKey
  let intents := if taken then j.intents else j.intents ++ [intent]
  match intents.find? (·.idempotencyKey = intent.idempotencyKey) with
  | none => .error ⟨.runtimeError, "inserted order intent cannot be read"⟩
  | some existing =>
    if existing.canonicalPayloadHash ≠ intent.canonicalPayloadHash ∨
        existing.strategySignalId ≠ intent.strategySignalId then
      .error ⟨.intentIdentityCollisionError, "order intent identity payload collision"⟩
    else .ok (existing, { j with intents := intents })

/-! ### Orders -/

/-- The row an order becomes. -/
def orderRow (order : Order) : PersistedOrder :=
  { order with
    requestedQuantity := order.requestedQuantity.column
    limitPrice := order.limitPrice.map Decimal.column
    triggerPrice := order.triggerPrice.map Decimal.column
    filledQuantity := 0 }

/-- The fields `create_order_once` compares, prices and quantities as numbers. -/
def sameOrder (existing : PersistedOrder) (order : Order) : Bool :=
  existing.riskDecisionId = order.riskDecisionId && existing.accountId = order.accountId &&
    existing.instrumentId = order.instrumentId &&
    existing.brokerClientOrderId = order.brokerClientOrderId && existing.side = order.side &&
    existing.orderStyle = order.orderStyle &&
    existing.requestedQuantity.toRat = order.requestedQuantity.toRat &&
    existing.limitPrice.map Decimal.toRat = order.limitPrice.map Decimal.toRat &&
    existing.triggerPrice.map Decimal.toRat = order.triggerPrice.map Decimal.toRat

/-- `OrderRepository.create_order_once`. A row that breaks a unique key or the check on
its quantity is ignored by the insert. -/
def createOrderOnce (order : Order) : JournalAct PersistedOrder := fun j =>
  let row := orderRow order
  let refused := decide (row.requestedQuantity.toRat ≤ 0) || j.orders.any fun other =>
    other.id = row.id || other.orderIntentId = row.orderIntentId ||
      (other.accountId = row.accountId && other.brokerClientOrderId = row.brokerClientOrderId)
  let orders := if refused then j.orders else j.orders ++ [row]
  match orders.find? (·.orderIntentId = order.orderIntentId) with
  | none => .error ⟨.runtimeError, "inserted order cannot be read"⟩
  | some existing =>
    if sameOrder existing order then .ok (existing, { j with orders := orders })
    else .error ⟨.orderIdentityCollisionError, "order intent identity payload collision"⟩

/-- `_to_domain_order`. -/
def toDomainOrder (row : PersistedOrder) : Except PyError Order := do
  row.toOrder.validate
  pure row.toOrder

/-! ### Commands -/

/-- The row of a new command; `none` when the check on its authority refuses it. -/
def commandRow (command : BrokerOrderCommand) : Option PersistedOrderCommand :=
  if h : command.commandType.admits command.authorityClass then
    some
      { command with
        quantity := command.quantity.column
        limitPrice := command.limitPrice.map Decimal.column
        triggerPrice := command.triggerPrice.map Decimal.column
        resultState := none
        authorityTerms := h }
  else none

/-- A unique key of the command table is taken. -/
def commandTaken (commands : List PersistedOrderCommand) (row : PersistedOrderCommand) : Bool :=
  commands.any fun other =>
    other.id = row.id || other.idempotencyKey = row.idempotencyKey ||
      (other.orderId = row.orderId && (other.commandSequence = row.commandSequence ||
        (other.commandType = .submit && row.commandType = .submit)))

/-- `OrderRepository.create_command_once`. -/
def createCommandOnce (command : BrokerOrderCommand) : JournalAct PersistedOrderCommand := fun j =>
  match commandRow command with
  | none => .error ⟨.databaseError, "ck_exec_order_command_authority_terms"⟩
  | some row =>
    let commands := if commandTaken j.commands row then j.commands else j.commands ++ [row]
    match commands.find? (·.idempotencyKey = row.idempotencyKey) with
    | none => .error ⟨.runtimeError, "inserted order command cannot be read"⟩
    | some existing =>
      if existing.canonicalPayloadHash = row.canonicalPayloadHash then
        .ok (existing, { j with commands := commands })
      else .error ⟨.orderIdentityCollisionError, "order command identity payload collision"⟩

/-- The context `create_approved_once` rebuilds from a command. It names no command. -/
def rebuiltContext (command : BrokerOrderCommand) (createdAt : Instant) : OrderSubmissionContext where
  brokerClientOrderId := command.brokerClientOrderId
  ownerRuntimeInstanceId := command.ownerRuntimeInstanceId
  fencingToken := command.fencingToken
  notAfter := command.notAfter
  timeInForce := command.timeInForce
  authorityClass := command.authorityClass
  createdAt := createdAt
  commandId := none

/-- `MySqlOrderStore.create_approved_once`. -/
def createApprovedOnce (order : Order) (command : BrokerOrderCommand) : JournalAct Order := do
  let persisted ← createOrderOnce order
  let canonicalOrder ← liftM (toDomainOrder persisted)
  let submission := rebuiltContext command canonicalOrder.createdAt
  liftM submission.validate
  let freshId ← newUuid7 ids
  let canonicalCommand ← liftM (OrderCommandFactory.create sha256 freshId canonicalOrder
    command.commandType submission command.originType none)
  let _ ← createCommandOnce canonicalCommand
  pure canonicalOrder

/-- `submission.command_id or new_uuid7()`. -/
def chosenId (submission : OrderSubmissionContext) : JournalAct UUID :=
  match submission.commandId with
  | some id => pure id
  | none => newUuid7 ids

/-- `OrderService.create_from_risk_decision`. -/
def createFromRiskDecision (decision : RiskDecision) (intent : OrderIntent)
    (submission : OrderSubmissionContext) : JournalAct (Option Order) :=
  if decision.outcome ≠ .approve ∧ decision.outcome ≠ .reduce then pure none
  else do
    liftM (requireAgreement decision intent submission)
    let orderId ← newUuid7 ids
    let order := orderOf orderId decision intent submission
    liftM order.validate
    let freshId ← chosenId ids submission
    let command ← liftM (OrderCommandFactory.create sha256 freshId order .submit submission
      intent.origin none)
    let stored ← createApprovedOnce ids sha256 order command
    pure (some stored)

end Stores

/-! ### What a creation leaves in the journal -/

variable {ids : Nat → UUID} {sha256 : String → Digest}

/-- A command row of a creation under a client order id: its own id was drawn in the
store, and its hash is of a canonical JSON text. -/
structure CreatedUnder (ids : Nat → UUID) (sha256 : String → Digest) (clientOrderId : String)
    (lower upper : Nat) (row : PersistedOrderCommand) : Prop where
  id : ∃ n, lower ≤ n ∧ n < upper ∧ row.id = ids n
  clientOrderId : row.brokerClientOrderId = clientOrderId
  hash : ∃ payload, row.canonicalPayloadHash = sha256 (canonicalJson payload)

theorem CreatedUnder.mono {clientOrderId : String} (a a' b b' : Nat) (row : PersistedOrderCommand)
    (ha : a' ≤ a) (hb : b ≤ b') (h : CreatedUnder ids sha256 clientOrderId a b row) :
    CreatedUnder ids sha256 clientOrderId a' b' row := by
  obtain ⟨n, hlow, hup, hid⟩ := h.id
  exact ⟨⟨n, by omega, by omega, hid⟩, h.clientOrderId, h.hash⟩

theorem createOrGet_ok {intent existing : PersistedOrderIntent} {j j' : Journal}
    (h : createOrGet intent j = .ok (existing, j')) :
    j'.commands = j.commands ∧ j'.drawn = j.drawn := by
  unfold createOrGet at h
  dsimp only at h
  split at h
  · cases h
  · split at h <;> cases h
    exact ⟨rfl, rfl⟩

theorem createOrderOnce_ok {order : Order} {row : PersistedOrder} {j j' : Journal}
    (h : createOrderOnce order j = .ok (row, j')) :
    j'.commands = j.commands ∧ j'.drawn = j.drawn := by
  unfold createOrderOnce at h
  dsimp only at h
  split at h
  · cases h
  · split at h <;> cases h
    exact ⟨rfl, rfl⟩

theorem newUuid7_ok {id : UUID} {j j' : Journal} (h : newUuid7 ids j = .ok (id, j')) :
    id = ids j.drawn ∧ j' = { j with drawn := j.drawn + 1 } := by
  cases h
  exact ⟨rfl, rfl⟩

/-- At most one row is added, and it is the row of the command. -/
theorem createCommandOnce_ok {command : BrokerOrderCommand} {existing : PersistedOrderCommand}
    {j j' : Journal} (h : createCommandOnce command j = .ok (existing, j')) :
    existing ∈ j'.commands ∧ j'.drawn = j.drawn ∧ ∀ row ∈ j'.commands, row ∈ j.commands ∨
      (row.id = command.id ∧ row.brokerClientOrderId = command.brokerClientOrderId ∧
        row.canonicalPayloadHash = command.canonicalPayloadHash) := by
  unfold createCommandOnce at h
  split at h
  · cases h
  rename_i row hrow
  dsimp only at h
  split at h
  · cases h
  rename_i found hfound
  split at h <;> cases h
  refine ⟨List.mem_of_find?_eq_some hfound, rfl, fun other hother => ?_⟩
  dsimp only at hother
  split at hother
  · exact .inl hother
  · rcases List.mem_append.mp hother with hold | hnew
    · exact .inl hold
    · rw [List.mem_singleton.mp hnew]
      unfold commandRow at hrow
      split at hrow <;> cases hrow
      exact .inr ⟨rfl, rfl, rfl⟩

theorem create_ok {freshId : UUID} {order : Order} {commandType : CommandType}
    {submission : OrderSubmissionContext} {origin : IntentOrigin} {target : Option String}
    {command : BrokerOrderCommand}
    (h : OrderCommandFactory.create sha256 freshId order commandType submission origin target = .ok command) :
    command.id = submission.commandId.getD freshId ∧
      command.brokerClientOrderId = submission.brokerClientOrderId ∧
      command.canonicalPayloadHash =
        sha256 (canonicalJson (canonicalPayload order commandType submission origin target)) := by
  unfold OrderCommandFactory.create at h
  split at h <;> cases h
  exact ⟨rfl, rfl, rfl⟩

theorem createApprovedOnce_extends {order stored : Order} {command : BrokerOrderCommand}
    {j j' : Journal} (h : createApprovedOnce ids sha256 order command j = .ok (stored, j')) :
    Extends (CreatedUnder ids sha256 command.brokerClientOrderId) j j' := by
  obtain ⟨persisted, j₁, horder, h⟩ := journal_bind_ok.mp h
  obtain ⟨canonicalOrder, j₂, hdomain, h⟩ := journal_bind_ok.mp h
  obtain ⟨_, j₃, hvalid, h⟩ := journal_bind_ok.mp h
  obtain ⟨freshId, j₄, hfresh, h⟩ := journal_bind_ok.mp h
  obtain ⟨canonicalCommand, j₅, hcommand, h⟩ := journal_bind_ok.mp h
  obtain ⟨existing, j₆, hinsert, h⟩ := journal_bind_ok.mp h
  cases h
  obtain ⟨-, rfl⟩ := journal_lift_ok.mp hdomain
  obtain ⟨-, rfl⟩ := journal_lift_ok.mp hvalid
  obtain ⟨rfl, rfl⟩ := newUuid7_ok hfresh
  obtain ⟨hcreate, rfl⟩ := journal_lift_ok.mp hcommand
  obtain ⟨hcommands, hdrawn⟩ := createOrderOnce_ok horder
  obtain ⟨hid, hclient, hhash⟩ := create_ok hcreate
  obtain ⟨-, hdrawn', hrows⟩ := createCommandOnce_ok hinsert
  have hcount : j'.drawn = j.drawn + 1 := by
    rw [hdrawn', ← hdrawn]
  refine ⟨by omega, fun row hrow => ?_⟩
  rcases hrows row hrow with hold | ⟨hrowId, hrowClient, hrowHash⟩
  · exact .inl (hcommands ▸ hold)
  · refine .inr ⟨⟨j.drawn, le_rfl, by omega, ?_⟩, ?_, ⟨_, hrowHash.trans hhash⟩⟩
    · rw [hrowId, hid, ← hdrawn]
      rfl
    · rw [hrowClient, hclient]
      rfl

end AutoTrader.Trader
