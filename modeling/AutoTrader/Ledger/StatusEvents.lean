import AutoTrader.Ledger.Tables

/-! The order state machine: which status a broker event moves an order to, and when the
event waits. -/

namespace AutoTrader.Ledger

open AutoTrader.Domain AutoTrader.Execution

/-- A broker's report about an order, as far as it was resolved. -/
structure BrokerOrderStatusEvent where
  brokerId : UUID
  accountId : UUID
  sourcePartition : String
  dedupeKey : String
  rawStatus : String
  occurredAt : Instant
  sourceSequence : Option Nat
  brokerOrderId : Option String
  orderId : Option UUID
  brokerClientOrderId : Option String
  requestedQuantity : Option ℚ
  cumulativeFilledQuantity : Option ℚ
  observedAt : Option Instant
  payloadHash : Digest

structure BrokerOrderLinkState where
  id : UUID
  brokerOrderId : String
  linkSequence : Nat
  exposureBearing : Bool
  status : OrderStatus
  deriving DecidableEq

def BrokerOrderLinkState.isTerminal (link : BrokerOrderLinkState) : Bool :=
  link.status.isTerminal

def allExposureLinksTerminal (links : List BrokerOrderLinkState) : Bool :=
  links.all fun link => !link.exposureBearing || link.isTerminal

inductive DeferralReason
  | staleSequence
  | sequenceGap
  | liveSuccessorLink
  | staleStatus
  deriving DecidableEq

structure DeferredBrokerStatus where
  reason : DeferralReason
  missingFromSequence : Option Nat

/-- The order after an event, its event row, and the mark a sequenced event sets. -/
structure OrderTransition where
  order : PersistedOrder
  event : PersistedOrderEvent
  watermark : Option Nat

def OrderTransition.create (order : PersistedOrder) (status : OrderStatus) (rawStatus : String)
    (occurredAt : Instant) (watermark : Option Nat) : OrderTransition :=
  { order := { order with status := status, aggregateVersion := order.aggregateVersion + 1 }
    event := ⟨order.id, order.aggregateVersion + 1, status, rawStatus, occurredAt⟩
    watermark := watermark }

namespace OrderStateMachine

/-- `_ALLOWED`. -/
def allowed : OrderStatus → List OrderStatus
  | .created => [.submitted, .expired, .unknown]
  | .submitted => [.acknowledged, .rejected, .cancelPending, .canceled, .expired, .unknown]
  | .acknowledged => [.partiallyFilled, .filled, .cancelPending, .canceled, .unknown]
  | .partiallyFilled => [.partiallyFilled, .filled, .cancelPending, .canceled, .unknown]
  | .cancelPending => [.canceled, .partiallyFilled, .filled, .unknown]
  | .unknown => [.unknown]
  | .filled | .canceled | .rejected | .expired => []

/-- The status an event names; a text that is no status names `UNKNOWN`. -/
def target (rawStatus : String) : OrderStatus :=
  (OrderStatus.ofValue? rawStatus).getD .unknown

/-- `_can_terminalize`: with the event's own link ended, every link that bears exposure is. -/
def canTerminalize (brokerOrderId : String) (status : OrderStatus) (links : List BrokerOrderLinkState) : Bool :=
  match links.find? (·.brokerOrderId = brokerOrderId) with
  | none => false
  | some matching =>
    allExposureLinksTerminal
      (links.map fun link => if link.id = matching.id then { link with status := status } else link)

/-- `OrderStateMachine.apply`, with the mark of the event's partition. -/
def apply (order : PersistedOrder) (event : PersistedBrokerOrderStatusEvent) (links : List BrokerOrderLinkState)
    (watermark : Option Nat) : Except PyError (DeferredBrokerStatus ⊕ OrderTransition) :=
  if event.accountId ≠ order.accountId then
    .error ⟨.invalidOrderTransitionError, "broker event account does not match order"⟩
  else
    let expected := watermark.getD 0 + 1
    if event.sourceSequence.any fun sequence => watermark.any fun last => sequence ≤ last then
      .ok (.inl ⟨.staleSequence, none⟩)
    else if event.sourceSequence.any fun sequence => expected < sequence then
      .ok (.inl ⟨.sequenceGap, some expected⟩)
    else
      let status := target event.rawStatus
      if status.isTerminal ∧ canTerminalize event.brokerOrderId status links = false then
        .ok (.inl ⟨.liveSuccessorLink, some expected⟩)
      else if status ∉ allowed order.status then
        if order.status = .partiallyFilled ∧ status = .acknowledged ∧ event.sourceSequence.isSome then
          .ok (.inl ⟨.staleStatus, none⟩)
        else
          .error ⟨.invalidOrderTransitionError,
            order.status.value ++ " cannot transition to " ++ status.value⟩
      else
        .ok (.inr (.create order status event.rawStatus event.occurredAt event.sourceSequence))

end OrderStateMachine

end AutoTrader.Ledger

/-! Handling a broker status event: it is recorded once, and applied at once when it has no
sequence, or together with what waited for it when it has one. -/

namespace AutoTrader.Ledger

open AutoTrader.Dispatch AutoTrader.Domain AutoTrader.Execution AutoTrader.Runtime

structure BrokerStatusApplication where
  applied : Bool
  terminalReleasePending : Bool
  deriving DecidableEq

inductive BrokerStatusInsertResult
  | inserted
  | duplicate
  | payloadConflict
  deriving DecidableEq

/-- The row recorded under the identity of an event. -/
def Tables.statusEvent? (t : Tables) (event : PersistedBrokerOrderStatusEvent) :
    Option PersistedBrokerOrderStatusEvent :=
  t.statusEvents.find? fun row => row.brokerId = event.brokerId && row.accountId = event.accountId &&
    row.sourcePartition = event.sourcePartition && row.dedupeKey = event.dedupeKey

/-- `OrderRepository.record_broker_status_once`; a row without its order is ignored. -/
def recordBrokerStatusOnce (t : Tables) (event : PersistedBrokerOrderStatusEvent) :
    Except PyError (Tables × BrokerStatusInsertResult) :=
  match t.statusEvent? event with
  | some existing =>
    if existing.canonicalPayloadHash ≠ event.canonicalPayloadHash then
      .ok (t.report (blockingIncident "BROKER_STATUS_IDENTITY_PAYLOAD_CONFLICT" none event.observedAt),
        .payloadConflict)
    else .ok (t, .duplicate)
  | none =>
    if (t.order? event.orderId).isNone then .error ⟨.runtimeError, "inserted broker status cannot be read"⟩
    else .ok ({ t with statusEvents := t.statusEvents ++ [event] }, .inserted)

def Tables.setStatusMark (t : Tables) (orderId : UUID) (sourcePartition : String) (sequence : Nat) : Tables :=
  { t with statusMarks := fun id source =>
      if id = orderId ∧ source = sourcePartition then some sequence else t.statusMarks id source }

/-- `OrderRepository.advance_status_watermark`. -/
def advanceStatusWatermark (t : Tables) (orderId : UUID) (sourcePartition : String) (sequence : Nat) :
    Except PyError Tables :=
  let refused : PyError := ⟨.valueError, "cannot advance a non-contiguous status watermark"⟩
  match t.statusMarks orderId sourcePartition with
  | none => if sequence ≠ 1 then .error refused else .ok (t.setStatusMark orderId sourcePartition sequence)
  | some last =>
    if sequence = last + 1 then .ok (t.setStatusMark orderId sourcePartition sequence)
    else if sequence ≠ last then .error refused
    else .ok t

/-- The mark a sequenced event sets. -/
def advanceMark (t : Tables) (orderId : UUID) (sourcePartition : String) (sequence : Option Nat) :
    Except PyError Tables :=
  match sequence with
  | none => .ok t
  | some sequence => advanceStatusWatermark t orderId sourcePartition sequence

/-- The links of an order, oldest first. -/
def Tables.linksInOrder (t : Tables) (orderId : UUID) : List BrokerOrderLink :=
  (t.linksOf orderId).insertionSort (·.linkSequence ≤ ·.linkSequence)

def linkState (link : BrokerOrderLink) : Except PyError BrokerOrderLinkState := do
  let status ← OrderStatus.ofValue link.status
  pure ⟨link.id, link.brokerOrderId, link.linkSequence, link.exposureBearing, status⟩

/-- Write the status of the link an event names. -/
def setLinkStatus (t : Tables) (orderId : UUID) (brokerOrderId status : String) : Except PyError Tables :=
  match (t.linksOf orderId).find? (·.brokerOrderId = brokerOrderId) with
  | none => .error ⟨.runtimeError, "locked broker link cannot be read"⟩
  | some link => .ok { t with links := Rows.update BrokerOrderLink.id t.links link.id ({ · with status := status }) }

/-- The checks of `_to_domain_order` on a stored order. -/
def checkDomainOrder (order : PersistedOrder) : Except PyError Unit :=
  let invalid := fun message => Except.error (PyError.mk .valueError message)
  if order.requestedQuantity ≤ 0 then invalid "order requested quantity must be positive"
  else match order.orderStyle, order.limitPrice with
    | .limit, none => invalid "limit order requires a positive limit price"
    | .limit, some price =>
      if price ≤ 0 then invalid "limit order requires a positive limit price" else .ok ()
    | .market, some _ => invalid "market order cannot carry a limit price"
    | .market, none => .ok ()

/-- Some link bears exposure and all that do are stored as ended. -/
def linksTerminal (links : List BrokerOrderLink) : Bool :=
  let statuses := (links.filter (·.exposureBearing)).map (·.status)
  !statuses.isEmpty && statuses.all fun status =>
    [OrderStatus.filled.value, OrderStatus.canceled.value, OrderStatus.rejected.value,
      OrderStatus.expired.value].contains status

/-- `_record_unsequenced_ordering_ambiguity`. -/
def recordUnsequencedOrderingAmbiguity (t : Tables) (order : PersistedOrder)
    (persisted : PersistedBrokerOrderStatusEvent) : Except PyError (Tables × BrokerStatusApplication) := do
  let t ← setLinkStatus t order.id persisted.brokerOrderId OrderStatus.unknown.value
  let t : Tables := if order.status = .unknown then t else
    { t.updateOrder order.id fun row =>
        { row with status := .unknown, aggregateVersion := row.aggregateVersion + 1 } with
      orderEvents := t.orderEvents ++ [⟨order.id, order.aggregateVersion + 1, .unknown,
        "UNSEQUENCED_STATUS_ORDERING_AMBIGUITY", persisted.occurredAt⟩] }
  pure (t.report (blockingIncident "UNSEQUENCED_BROKER_STATUS_ORDERING_AMBIGUITY" (some order.id)
    persisted.observedAt), ⟨true, false⟩)

/-- What a deferral leaves: a status told about a link that ended is kept under the link, and
the event counts as seen. -/
def applyDeferral (t : Tables) (order : PersistedOrder) (persisted : PersistedBrokerOrderStatusEvent)
    (reason : DeferralReason) : Except PyError (Tables × BrokerStatusApplication) :=
  match reason with
  | .liveSuccessorLink => do
    let t ← setLinkStatus t order.id persisted.brokerOrderId persisted.rawStatus
    let t ← advanceMark t order.id persisted.sourcePartition persisted.sourceSequence
    pure (t, ⟨true, false⟩)
  | .staleStatus => do
    let t ← advanceMark t order.id persisted.sourcePartition persisted.sourceSequence
    pure (t, ⟨true, false⟩)
  | .staleSequence | .sequenceGap => .ok (t, ⟨false, false⟩)

/-- What a transition leaves. -/
def applyTransition (t : Tables) (persisted : PersistedBrokerOrderStatusEvent) (transition : OrderTransition) :
    Except PyError (Tables × BrokerStatusApplication) := do
  let order := transition.order
  let t := t.updateOrder order.id fun row =>
    { row with status := order.status, aggregateVersion := order.aggregateVersion }
  let t ← setLinkStatus t order.id persisted.brokerOrderId order.status.value
  let t ← advanceMark t order.id persisted.sourcePartition transition.watermark
  pure ({ t with orderEvents := t.orderEvents ++ [transition.event] }, ⟨true, linksTerminal (t.linksOf order.id)⟩)

/-- `_apply_one`. -/
def applyOne (t : Tables) (persisted : PersistedBrokerOrderStatusEvent) :
    Except PyError (Tables × BrokerStatusApplication) :=
  match t.order? persisted.orderId with
  | none => .error ⟨.lookupError, "canonical order not found"⟩
  | some order =>
    if order.accountId ≠ persisted.accountId then
      .error ⟨.valueError, "broker status account does not match canonical order"⟩
    else do
      let links ← (t.linksInOrder order.id).mapM linkState
      if links.any (·.brokerOrderId = persisted.brokerOrderId) then
        checkDomainOrder order
        match OrderStateMachine.apply order persisted links (t.statusMarks order.id persisted.sourcePartition) with
        | .error e =>
          if persisted.sourceSequence.isSome then .error e
          else recordUnsequencedOrderingAmbiguity t order persisted
        | .ok (.inl deferred) => applyDeferral t order persisted deferred.reason
        | .ok (.inr transition) => applyTransition t persisted transition
      else .error ⟨.valueError, "broker status is not linked to the canonical order"⟩

/-- The recorded event an order waits for in a partition. -/
def nextStatusEvent (t : Tables) (orderId : UUID) (sourcePartition : String) :
    Option PersistedBrokerOrderStatusEvent :=
  let expected := (t.statusMarks orderId sourcePartition).getD 0 + 1
  t.statusEvents.find? fun row =>
    row.orderId = orderId && row.sourcePartition = sourcePartition && decide (row.sourceSequence = some expected)

/-- `_apply_contiguous`: the loop, and what the rounds before found. -/
def applyContiguous (orderId : UUID) (sourcePartition : String) :
    Nat → Tables → BrokerStatusApplication → Except PyError (Tables × BrokerStatusApplication)
  | 0, t, seen => .ok (t, seen)
  | rounds + 1, t, seen =>
    match nextStatusEvent t orderId sourcePartition with
    | none => .ok (t, seen)
    | some persisted => do
      let (t, outcome) ← applyOne t persisted
      let seen : BrokerStatusApplication :=
        ⟨seen.applied || outcome.applied, seen.terminalReleasePending || outcome.terminalReleasePending⟩
      if outcome.applied then applyContiguous orderId sourcePartition rounds t seen else pure (t, seen)

/-- The row of a resolved event. -/
def BrokerOrderStatusEvent.resolved (event : BrokerOrderStatusEvent) : Except PyError PersistedBrokerOrderStatusEvent :=
  match event.orderId, event.brokerOrderId, event.brokerClientOrderId, event.requestedQuantity,
    event.cumulativeFilledQuantity, event.observedAt with
  | some orderId, some brokerOrderId, some _, some _, some _, some observedAt =>
    .ok
      { orderId := orderId
        brokerId := event.brokerId
        accountId := event.accountId
        sourcePartition := event.sourcePartition
        dedupeKey := event.dedupeKey
        canonicalPayloadHash := event.payloadHash
        brokerOrderId := brokerOrderId
        rawStatus := event.rawStatus
        sourceSequence := event.sourceSequence
        occurredAt := event.occurredAt
        observedAt := observedAt }
  | _, _, _, _, _, _ => .error ⟨.valueError, "resolved broker status evidence is required"⟩

/-- `MySqlBrokerStatusStore.apply_event_once`; every round applies another recorded event, so
there are no more rounds than those. -/
def applyStatusOnce (t : Tables) (event : BrokerOrderStatusEvent) :
    Except PyError (Tables × BrokerStatusApplication) := do
  let persisted ← event.resolved
  let (t, result) ← recordBrokerStatusOnce t persisted
  if result ≠ .inserted then pure (t, ⟨false, false⟩)
  else if persisted.sourceSequence.isNone then applyOne t persisted
  else
    applyContiguous persisted.orderId persisted.sourcePartition (t.statusEvents.length + 1) t ⟨false, false⟩

end AutoTrader.Ledger
