import AutoTrader.Binance.OrderModels

/-! The outbox table. A worker claims a batch of events for a time, and marks an event published
while the claim is its own. -/

namespace AutoTrader.Events

open AutoTrader.Binance AutoTrader.Domain AutoTrader.Execution

structure EventEnvelope (β : Type) where
  eventId : UUID
  eventType : String
  schemaVersion : Nat
  occurredAt : Instant
  observedAt : Instant
  producer : String
  partitionKey : String
  aggregateType : String
  aggregateId : UUID
  aggregateVersion : Nat
  correlationId : UUID
  causationId : Option UUID
  traceId : String
  payload : β

/-- `model_dump`, `sha256` and the parser of an envelope of one payload type. -/
structure EnvelopeCodec (Body β : Type) where
  modelDump : EventEnvelope β → Body
  sha256 : EventEnvelope β → Digest
  parseEnvelope : Body → Except PyError (EventEnvelope β)

structure OutboxRow (Body : Type) where
  eventId : UUID
  producer : String
  aggregateType : String
  aggregateId : UUID
  aggregateVersion : Nat
  payload : Body
  payloadHash : Digest
  nextAttemptAt : Instant
  claimedBy : Option String
  claimExpiresAt : Option Instant
  publishedAt : Option Instant
  createdAt : Instant

variable {Body β : Type}

/-! ### Enqueuing -/

def newOutboxRow (codec : EnvelopeCodec Body β) (envelope : EventEnvelope β) (nextAttemptAt createdAt : Instant) :
    OutboxRow Body where
  eventId := envelope.eventId
  producer := envelope.producer
  aggregateType := envelope.aggregateType
  aggregateId := envelope.aggregateId
  aggregateVersion := envelope.aggregateVersion
  payload := codec.modelDump envelope
  payloadHash := codec.sha256 envelope
  nextAttemptAt := nextAttemptAt
  claimedBy := none
  claimExpiresAt := none
  publishedAt := none
  createdAt := createdAt

/-- The unique constraints of the table. -/
def OutboxRow.collides (a b : OutboxRow Body) : Bool :=
  a.eventId = b.eventId ||
    (a.producer = b.producer && a.aggregateType = b.aggregateType && a.aggregateId = b.aggregateId &&
      a.aggregateVersion = b.aggregateVersion)

/-- `OutboxRepository.enqueue`. -/
def enqueue (codec : EnvelopeCodec Body β) (rows : List (OutboxRow Body)) (envelope : EventEnvelope β)
    (nextAttemptAt createdAt : Instant) : Except PyError (List (OutboxRow Body)) :=
  let row := newOutboxRow codec envelope nextAttemptAt createdAt
  if rows.any row.collides then .error ⟨.databaseError, "Duplicate entry"⟩ else .ok (rows ++ [row])

/-- `OutboxRepository.enqueue_once`. -/
def enqueueOnce (codec : EnvelopeCodec Body β) (rows : List (OutboxRow Body)) (envelope : EventEnvelope β)
    (nextAttemptAt createdAt : Instant) : Except PyError (List (OutboxRow Body)) :=
  let row := newOutboxRow codec envelope nextAttemptAt createdAt
  let inserted := if rows.any row.collides then rows else rows ++ [row]
  match inserted.find? fun existing => decide (existing.eventId = envelope.eventId) with
  | none => .error ⟨.runtimeError, "inserted outbox event cannot be read"⟩
  | some existing =>
    if existing.payloadHash = codec.sha256 envelope then .ok inserted
    else .error (valueError "outbox event identity payload collision")

/-- An event enters the table once, unclaimed and unpublished. -/
theorem enqueue_rows {codec : EnvelopeCodec Body β} {rows rows' : List (OutboxRow Body)} {envelope : EventEnvelope β}
    {nextAttemptAt createdAt : Instant} (h : enqueue codec rows envelope nextAttemptAt createdAt = .ok rows') :
    rows' = rows ++ [newOutboxRow codec envelope nextAttemptAt createdAt] ∧
      ∀ row ∈ rows, row.eventId ≠ envelope.eventId := by
  unfold enqueue at h
  dsimp only at h
  split at h
  · cases h
  · rename_i hfree
    cases h
    refine ⟨rfl, fun row hrow heq => hfree (List.any_eq_true.mpr ⟨row, hrow, ?_⟩)⟩
    simp [OutboxRow.collides, newOutboxRow, heq]

theorem enqueueOnce_rows {codec : EnvelopeCodec Body β} {rows rows' : List (OutboxRow Body)} {envelope : EventEnvelope β}
    {nextAttemptAt createdAt : Instant} (h : enqueueOnce codec rows envelope nextAttemptAt createdAt = .ok rows') :
    rows' = rows ∨ rows' = rows ++ [newOutboxRow codec envelope nextAttemptAt createdAt] ∧
      ∀ row ∈ rows, row.eventId ≠ envelope.eventId := by
  unfold enqueueOnce at h
  dsimp only at h
  split at h
  · cases h
  split at h
  · cases h
    split
    · exact .inl rfl
    · rename_i hfree
      refine .inr ⟨rfl, fun row hrow heq => hfree (List.any_eq_true.mpr ⟨row, hrow, ?_⟩)⟩
      simp [OutboxRow.collides, newOutboxRow, heq]
  · cases h

/-! ### Claiming and publishing -/

/-- Neither published nor claimed for now. -/
def OutboxRow.claimable (row : OutboxRow Body) (now : Instant) : Bool :=
  row.publishedAt.isNone && decide (row.nextAttemptAt ≤ now) && row.claimExpiresAt.all fun expiry => decide (expiry ≤ now)

/-- `OutboxRepository.claim_batch`. The rows another transaction has locked are skipped. -/
def claimBatch (rows : List (OutboxRow Body)) (locked : List UUID) (limit : Int) (now : Instant) (claimOwner : String)
    (claimExpiresAt : Instant) : Except PyError (List (OutboxRow Body) × List (OutboxRow Body)) := do
  require (0 < limit) (valueError "limit must be positive")
  require (now < claimExpiresAt) (valueError "claim_expires_at must be after now")
  let claim (row : OutboxRow Body) : OutboxRow Body :=
    { row with claimedBy := some claimOwner, claimExpiresAt := some claimExpiresAt }
  let free := rows.filter fun row => row.claimable now && !locked.contains row.eventId
  let events := (free.mergeSort fun a b => decide (a.createdAt ≤ b.createdAt)).take limit.toNat
  pure (rows.map fun row => if row.eventId ∈ events.map OutboxRow.eventId then claim row else row, events.map claim)

/-- The row of an event that a worker reads back under its claim. -/
def claimedRow (rows : List (OutboxRow Body)) (eventId : UUID) (claimOwner : String) : Except PyError (OutboxRow Body) :=
  match rows.find? fun row => decide (row.eventId = eventId) with
  | none => .error ⟨.lookupError, "outbox event not found"⟩
  | some row =>
    if row.claimedBy = some claimOwner then .ok row else .error ⟨.permissionError, "outbox claim owner mismatch"⟩

def OutboxRow.requireClaim (row : OutboxRow Body) (now : Instant) : Except PyError Unit :=
  require (row.claimExpiresAt.any fun expiry => decide (now < expiry)) ⟨.permissionError, "outbox claim expired"⟩

/-- What `publish_then_acknowledge` reads before it publishes: the event, and whether it is published. -/
def loadClaimed (rows : List (OutboxRow Body)) (eventId : UUID) (claimOwner : String) (now : Instant) :
    Except PyError (OutboxRow Body × Bool) := do
  let row ← claimedRow rows eventId claimOwner
  if row.publishedAt.isSome then pure (row, true)
  else do
    row.requireClaim now
    pure (row, false)

/-- `OutboxRepository.mark_published`. -/
def markPublished (rows : List (OutboxRow Body)) (eventId : UUID) (claimOwner : String) (now publishedAt : Instant) :
    Except PyError (List (OutboxRow Body) × OutboxRow Body) := do
  let row ← claimedRow rows eventId claimOwner
  row.requireClaim now
  if row.publishedAt.isSome then pure (rows, row)
  else
    let published := { row with publishedAt := some publishedAt }
    pure (rows.map fun other => if other.eventId = eventId then published else other, published)

section Facts

variable {rows rows' : List (OutboxRow Body)} {eventId : UUID} {owner : String} {now : Instant}

theorem claimedRow_ok {row : OutboxRow Body} (h : claimedRow rows eventId owner = .ok row) :
    row ∈ rows ∧ row.eventId = eventId ∧ row.claimedBy = some owner := by
  unfold claimedRow at h
  split at h
  · cases h
  · rename_i found hfound
    split at h
    · rename_i hclaimed
      cases h
      exact ⟨List.mem_of_find?_eq_some hfound, by simpa using List.find?_some hfound, hclaimed⟩
    · cases h

theorem loadClaimed_ok {event : OutboxRow Body × Bool} (h : loadClaimed rows eventId owner now = .ok event) :
    event.1 ∈ rows ∧ event.1.eventId = eventId := by
  obtain ⟨row, hrow, h⟩ := bind_ok.mp h
  have hclaimed := claimedRow_ok hrow
  split at h
  · cases h
    exact ⟨hclaimed.1, hclaimed.2.1⟩
  · obtain ⟨_, -, h⟩ := bind_ok.mp h
    cases h
    exact ⟨hclaimed.1, hclaimed.2.1⟩

/-- A claim changes whose a row is, and nothing of the event. -/
theorem claimBatch_ok {locked : List UUID} {limit : Int} {claimExpiresAt : Instant}
    {answer : List (OutboxRow Body) × List (OutboxRow Body)}
    (h : claimBatch rows locked limit now owner claimExpiresAt = .ok answer) :
    answer.1 = (rows.map fun row => if row.eventId ∈ answer.2.map OutboxRow.eventId then
      { row with claimedBy := some owner, claimExpiresAt := some claimExpiresAt } else row) ∧
      ∀ event ∈ answer.2, ∃ row ∈ rows, row.eventId = event.eventId := by
  obtain ⟨_, -, h⟩ := bind_ok.mp h
  obtain ⟨_, -, h⟩ := bind_ok.mp h
  cases h
  refine ⟨?_, fun event hevent => ?_⟩
  · simp only [List.map_map]
    rfl
  · obtain ⟨row, hrow, rfl⟩ := List.mem_map.mp hevent
    exact ⟨row, List.mem_of_mem_filter (List.mem_mergeSort.mp (List.mem_of_mem_take hrow)), rfl⟩

/-- An event is marked under a claim of the worker's own. -/
theorem markPublished_ok {publishedAt : Instant} {answer : List (OutboxRow Body) × OutboxRow Body}
    (h : markPublished rows eventId owner now publishedAt = .ok answer) :
    ∃ row ∈ rows, row.eventId = eventId ∧ row.claimedBy = some owner ∧
      ((row.publishedAt.isSome ∧ answer = (rows, row)) ∨
        (row.publishedAt = none ∧ answer = (rows.map fun other =>
          if other.eventId = eventId then { row with publishedAt := some publishedAt } else other,
          { row with publishedAt := some publishedAt }))) := by
  obtain ⟨row, hrow, h⟩ := bind_ok.mp h
  obtain ⟨hmem, hid, hclaimed⟩ := claimedRow_ok hrow
  obtain ⟨_, -, h⟩ := bind_ok.mp h
  refine ⟨row, hmem, hid, hclaimed, ?_⟩
  split at h
  · rename_i hpublished
    cases h
    exact .inl ⟨hpublished, rfl⟩
  · rename_i hunpublished
    cases h
    exact .inr ⟨by simpa using hunpublished, rfl⟩

end Facts

end AutoTrader.Events
