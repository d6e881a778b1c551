import AutoTrader.Events.Inbox
import AutoTrader.Runtime.Pool

/-! Publishers and consumers over the tables and one stream. A transaction locks every row from its first
read to its commit, so a transaction is one operation, and so is a command to Redis. Between two operations
of a call anything may happen, and a call that is not continued has crashed. -/

namespace AutoTrader.Events

open AutoTrader.Binance AutoTrader.Domain AutoTrader.Execution AutoTrader.Runtime

variable {Body β : Type}

structure StreamEntry (Body : Type) where
  entryId : Nat
  eventId : String
  body : Body

/-- How far a group has read the stream, and the entries it has not acknowledged. -/
structure ConsumerGroup where
  name : String
  delivered : Nat
  pending : List Nat

/-- `InboxConsumer`, with the name its handler writes into the inbox. -/
structure InboxConsumer where
  group : String
  consumerName : String
  claimCursor : Nat

/-- What took effect. `recorded` is an inbox row. -/
inductive DeliveryFact (Body : Type)
  | claimed (owner : String) (eventId : UUID)
  | appended (eventId : String) (body : Body)
  | published (owner : String) (eventId : UUID) (payload : Body)
  | recorded (consumerName : String) (eventId : UUID)
  | acknowledged (consumerName : String) (eventId : String)

/-- The tables, the stream with its groups, and what took effect, latest first. -/
structure DeliveryWorld (Body β : Type) where
  outbox : List (OutboxRow Body)
  inbox : InboxTables β
  stream : List (StreamEntry Body)
  groups : List ConsumerGroup
  history : List (DeliveryFact Body)

inductive DeliveryOp (Body β : Type)
  | enqueue (envelope : EventEnvelope β) (nextAttemptAt createdAt : Instant)
  | enqueueOnce (envelope : EventEnvelope β) (nextAttemptAt createdAt : Instant)
  | claimBatch (limit : Int) (now : Instant) (claimOwner : String) (claimExpiresAt : Instant)
  | loadClaimed (eventId : UUID) (claimOwner : String) (now : Instant)
  | xadd (eventId : String) (body : Body)
  | markPublished (eventId : UUID) (claimOwner : String) (now publishedAt : Instant)
  | xgroupCreate (group : String)
  | xreadgroup (group : String) (count : Nat)
  | xautoclaim (group : String) (startId count : Nat)
  | handle (consumerName eventId : String) (body : Body)
  | xack (consumer : InboxConsumer) (entry : StreamEntry Body)

abbrev DeliveryOp.Result : DeliveryOp Body β → Type
  | enqueue _ _ _ | enqueueOnce _ _ _ | xadd _ _ | xgroupCreate _ | handle _ _ _ | xack _ _ => Unit
  | claimBatch _ _ _ _ => List (OutboxRow Body)
  | loadClaimed _ _ _ => OutboxRow Body × Bool
  | markPublished _ _ _ _ => OutboxRow Body
  | xreadgroup _ _ => List (StreamEntry Body)
  | xautoclaim _ _ _ => Nat × List (StreamEntry Body)

abbrev DeliveryAct (Body β : Type) := Action PyError (DeliveryOp Body β) DeliveryOp.Result

/-! ### Publishing -/

/-- `OutboxDispatcher.publish_then_acknowledge`. -/
def publishThenAcknowledge (eventId : UUID) (claimOwner : String) (now publishedAt : Instant)
    (publish acknowledge : OutboxRow Body → DeliveryAct Body β Unit) : DeliveryAct Body β Unit := do
  let (event, alreadyPublished) ←
    (Action.perform (DeliveryOp.loadClaimed eventId claimOwner now) : DeliveryAct Body β (OutboxRow Body × Bool))
  if alreadyPublished then acknowledge event
  else do
    publish event
    let published ← (Action.perform (DeliveryOp.markPublished eventId claimOwner now publishedAt) :
      DeliveryAct Body β (OutboxRow Body))
    acknowledge published

/-- `RedisStreams.publish`. -/
def publishEvent (event : OutboxRow Body) : DeliveryAct Body β Unit :=
  Action.perform (DeliveryOp.xadd (String.ofList event.eventId.str) event.payload)

/-- The events of a batch, one after the other. -/
def publishEach (owner : String) (now : Instant) : List (OutboxRow Body) → DeliveryAct Body β Unit
  | [] => pure ()
  | event :: events => do
    publishThenAcknowledge event.eventId owner now now publishEvent fun _ => pure ()
    publishEach owner now events

/-- `OutboxPublisher.publish_available`. -/
def publishAvailable (owner : String) (now : Instant) (limit : Int) : DeliveryAct Body β Nat := do
  let claimed ← (Action.perform (DeliveryOp.claimBatch limit now owner (now + 60000000)) :
    DeliveryAct Body β (List (OutboxRow Body)))
  publishEach owner now claimed
  pure claimed.length

/-! ### Consuming -/

/-- The loop of `InboxConsumer._handle`. An entry that fails does not keep the next ones from being handled. -/
def handleEntries (consumer : InboxConsumer) :
    List (StreamEntry Body) → Option PyError → Nat → DeliveryAct Body β Nat
  | [], none, handled => pure handled
  | [], some firstError, _ => throw firstError
  | entry :: entries, firstError, handled => do
    let failed ← ((do
        (Action.perform (DeliveryOp.handle consumer.consumerName entry.eventId entry.body) : DeliveryAct Body β Unit)
        (Action.perform (DeliveryOp.xack consumer entry) : DeliveryAct Body β Unit)
        pure none : DeliveryAct Body β (Option PyError)).tryCatch fun error =>
      if error.kind.isControl then throw error else pure (some error))
    match failed with
    | none => handleEntries consumer entries firstError (handled + 1)
    | some error => handleEntries consumer entries (firstError.or (some error)) handled

/-- `InboxConsumer.consume_new`. -/
def consumeNew (consumer : InboxConsumer) (count : Int) : DeliveryAct Body β Nat := do
  (Action.perform (DeliveryOp.xgroupCreate consumer.group) : DeliveryAct Body β Unit)
  Action.ofExcept (require (0 < count) (valueError "count must be positive"))
  let entries ← (Action.perform (DeliveryOp.xreadgroup consumer.group count.toNat) :
    DeliveryAct Body β (List (StreamEntry Body)))
  handleEntries consumer entries none 0

/-- `InboxConsumer.recover_pending`. -/
def recoverPending (consumer : InboxConsumer) (minIdleMs count : Int) : DeliveryAct Body β Nat := do
  (Action.perform (DeliveryOp.xgroupCreate consumer.group) : DeliveryAct Body β Unit)
  Action.ofExcept (require (0 < minIdleMs) (valueError "min_idle_ms must be positive"))
  Action.ofExcept (require (0 < count) (valueError "count must be positive"))
  let (_, entries) ← (Action.perform (DeliveryOp.xautoclaim consumer.group consumer.claimCursor count.toNat) :
    DeliveryAct Body β (Nat × List (StreamEntry Body)))
  handleEntries consumer entries none 0

/-! ### The world -/

/-- An operation works, raises before it took effect, or takes effect and its answer is lost. -/
inductive Fate
  | works
  | fails (e : PyError)
  | answerLost (e : PyError)

/-- What the environment decides about an operation: its fate, the outbox rows that are locked, the entries
that are idle for long enough, and where `XAUTOCLAIM` goes on. -/
structure DeliveryChoice where
  fate : Fate
  locked : List UUID
  idle : List Nat
  nextStartId : Nat

namespace DeliveryWorld

def empty : DeliveryWorld Body β := ⟨[], ⟨[], [], []⟩, [], [], []⟩

def group? (w : DeliveryWorld Body β) (name : String) : Except PyError ConsumerGroup :=
  match w.groups.find? fun group => decide (group.name = name) with
  | some group => .ok group
  | none => .error ⟨.runtimeError, "NOGROUP"⟩

def setGroup (w : DeliveryWorld Body β) (group : ConsumerGroup) : DeliveryWorld Body β :=
  { w with groups := w.groups.map fun other => if other.name = group.name then group else other }

variable (codec : EnvelopeCodec Body β) (w : DeliveryWorld Body β) (choice : DeliveryChoice)

/-- What an operation that works does. -/
def perform : (o : DeliveryOp Body β) → Except PyError (DeliveryWorld Body β × o.Result)
  | .enqueue envelope nextAttemptAt createdAt => do
    let rows ← enqueue codec w.outbox envelope nextAttemptAt createdAt
    pure ({ w with outbox := rows }, ())
  | .enqueueOnce envelope nextAttemptAt createdAt => do
    let rows ← enqueueOnce codec w.outbox envelope nextAttemptAt createdAt
    pure ({ w with outbox := rows }, ())
  | .claimBatch limit now claimOwner claimExpiresAt => do
    let (rows, events) ← claimBatch w.outbox choice.locked limit now claimOwner claimExpiresAt
    pure ({ w with
      outbox := rows
      history := events.map (fun event => .claimed claimOwner event.eventId) ++ w.history }, events)
  | .loadClaimed eventId claimOwner now => do
    let event ← loadClaimed w.outbox eventId claimOwner now
    pure (w, event)
  | .xadd eventId body =>
    .ok ({ w with
      stream := w.stream ++ [⟨w.stream.length, eventId, body⟩]
      history := .appended eventId body :: w.history }, ())
  | .markPublished eventId claimOwner now publishedAt => do
    let (rows, event) ← markPublished w.outbox eventId claimOwner now publishedAt
    let fresh := w.outbox.any fun row => decide (row.eventId = eventId) && row.publishedAt.isNone
    pure ({ w with
      outbox := rows
      history := if fresh then .published claimOwner eventId event.payload :: w.history else w.history }, event)
  | .xgroupCreate group =>
    if w.groups.any fun other => decide (other.name = group) then .ok (w, ())
    else .ok ({ w with groups := w.groups ++ [⟨group, 0, []⟩] }, ())
  | .xreadgroup group count => do
    let found ← w.group? group
    let entries := (w.stream.drop found.delivered).take count
    pure (w.setGroup { found with
      delivered := found.delivered + entries.length
      pending := found.pending ++ entries.map StreamEntry.entryId }, entries)
  | .xautoclaim group startId count => do
    let found ← w.group? group
    let due (entry : StreamEntry Body) : Bool :=
      decide (startId ≤ entry.entryId) && found.pending.contains entry.entryId && choice.idle.contains entry.entryId
    pure (w, choice.nextStartId, (w.stream.filter due).take count)
  | .handle consumerName eventId body => do
    let tables ← w.inbox.handle codec consumerName eventId body
    let recorded := (tables.rows.drop w.inbox.rows.length).map fun row => .recorded row.consumerName row.eventId
    pure ({ w with inbox := tables, history := recorded ++ w.history }, ())
  | .xack consumer entry =>
    .ok ({ w with
      groups := w.groups.map fun group =>
        if group.name = consumer.group then
          { group with pending := group.pending.filter fun id => decide (id ≠ entry.entryId) }
        else group
      history := .acknowledged consumer.consumerName entry.eventId :: w.history }, ())

/-- The answer to an operation under its fate. -/
def answer (o : DeliveryOp Body β) : Option (DeliveryWorld Body β × Except PyError o.Result) :=
  match choice.fate, w.perform codec choice o with
  | .fails e, _ => some (w, .error e)
  | _, .error e => some (w, .error e)
  | .works, .ok (w', result) => some (w', .ok result)
  | .answerLost e, .ok (w', _) => some (w', .error e)

/-- An operation took effect, whatever the caller is told, or changed nothing. -/
theorem answer_cases {codec : EnvelopeCodec Body β} {w w' : DeliveryWorld Body β} {choice : DeliveryChoice}
    {o : DeliveryOp Body β} {r : Except PyError o.Result} (h : w.answer codec choice o = some (w', r)) :
    (w' = w ∧ ∃ e, r = .error e) ∨
      ∃ result, w.perform codec choice o = .ok (w', result) ∧ (r = .ok result ∨ ∃ e, r = .error e) := by
  unfold answer at h
  split at h
  · cases h
    exact .inl ⟨rfl, _, rfl⟩
  · cases h
    exact .inl ⟨rfl, _, rfl⟩
  · rename_i hperform
    cases h
    exact .inr ⟨_, hperform, .inl rfl⟩
  · rename_i hperform
    cases h
    exact .inr ⟨_, hperform, .inr ⟨_, rfl⟩⟩

end DeliveryWorld

/-! ### The system -/

inductive DeliveryCall (β : Type)
  | enqueue (envelope : EventEnvelope β) (nextAttemptAt createdAt : Instant)
  | enqueueOnce (envelope : EventEnvelope β) (nextAttemptAt createdAt : Instant)
  | publishAvailable (owner : String) (now : Instant) (limit : Int)
  | consumeNew (consumer : InboxConsumer) (count : Int)
  | recoverPending (consumer : InboxConsumer) (minIdleMs count : Int)

def DeliveryCall.act : DeliveryCall β → DeliveryAct Body β Unit
  | enqueue envelope nextAttemptAt createdAt => Action.perform (DeliveryOp.enqueue envelope nextAttemptAt createdAt)
  | enqueueOnce envelope nextAttemptAt createdAt =>
    Action.perform (DeliveryOp.enqueueOnce envelope nextAttemptAt createdAt)
  | publishAvailable owner now limit => do
    let _ ← (Events.publishAvailable owner now limit : DeliveryAct Body β Nat)
    pure ()
  | consumeNew consumer count => do
    let _ ← (Events.consumeNew consumer count : DeliveryAct Body β Nat)
    pure ()
  | recoverPending consumer minIdleMs count => do
    let _ ← (Events.recoverPending consumer minIdleMs count : DeliveryAct Body β Nat)
    pure ()

abbrev DeliveryPool (Body β : Type) :=
  Pool PyError (DeliveryOp Body β) DeliveryOp.Result (DeliveryWorld Body β) (DeliveryCall β) DeliveryChoice

def deliveryPool (codec : EnvelopeCodec Body β) : DeliveryPool Body β where
  body := fun call => do
    let _ ← call.act.run
    pure ()
  answer := fun w _ o choice => w.answer codec choice o

abbrev DeliveryConfig (Body β : Type) :=
  Pool.Config PyError (DeliveryOp Body β) DeliveryOp.Result (DeliveryWorld Body β)

def DeliveryConfig.initial : DeliveryConfig Body β := ⟨.empty, []⟩

end AutoTrader.Events
