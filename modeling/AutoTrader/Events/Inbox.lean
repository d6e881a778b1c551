import AutoTrader.Events.Outbox

/-! The inbox table. An event is new to a consumer once, and its row and its domain effect are committed
together. -/

namespace AutoTrader.Events

open AutoTrader.Binance AutoTrader.Domain AutoTrader.Execution

structure InboxRow where
  consumerName : String
  eventId : UUID
  producer : String
  aggregateType : String
  aggregateId : UUID
  aggregateVersion : Nat
  payloadHash : Digest

inductive InboxResult
  | new
  | alreadyProcessed
  | payloadConflict
  deriving DecidableEq

structure DeadLetter where
  consumerName : String
  eventId : UUID
  payloadHash : Digest
  deriving DecidableEq

/-- The inbox, the dead letters, and the domain effects with the consumer they were applied for. -/
structure InboxTables (β : Type) where
  rows : List InboxRow
  deadLetters : List DeadLetter
  effects : List (String × EventEnvelope β)

variable {Body β : Type} (codec : EnvelopeCodec Body β)

def newInboxRow (consumerName : String) (envelope : EventEnvelope β) : InboxRow where
  consumerName := consumerName
  eventId := envelope.eventId
  producer := envelope.producer
  aggregateType := envelope.aggregateType
  aggregateId := envelope.aggregateId
  aggregateVersion := envelope.aggregateVersion
  payloadHash := codec.sha256 envelope

namespace InboxTables

def row? (t : InboxTables β) (consumerName : String) (eventId : UUID) : Option InboxRow :=
  t.rows.find? fun row => decide (row.consumerName = consumerName) && decide (row.eventId = eventId)

/-- `InboxRepository.begin_once`. A name too long for its column is cut by `INSERT IGNORE` and not found. -/
def beginOnce (t : InboxTables β) (consumerName : String) (envelope : EventEnvelope β) :
    Except PyError (InboxTables β × InboxResult) :=
  if 128 < consumerName.length then .error ⟨.runtimeError, "inbox insert did not persist an identity row"⟩
  else
    match t.row? consumerName envelope.eventId with
    | none => .ok ({ t with rows := t.rows ++ [newInboxRow codec consumerName envelope] }, .new)
    | some existing =>
      .ok (t, if existing.payloadHash = codec.sha256 envelope then .alreadyProcessed else .payloadConflict)

/-- `record_payload_conflict`. -/
def recordPayloadConflict (t : InboxTables β) (consumerName : String) (envelope : EventEnvelope β) :
    Except PyError (InboxTables β) :=
  let letter : DeadLetter := ⟨consumerName, envelope.eventId, codec.sha256 envelope⟩
  if letter ∈ t.deadLetters then .error ⟨.databaseError, "Duplicate entry"⟩
  else .ok { t with deadLetters := t.deadLetters ++ [letter] }

/-- `MySqlInboxHandler.__call__`, as one transaction: the key of the row is locked from the insert to the
commit. -/
def handle (t : InboxTables β) (consumerName eventId : String) (body : Body) : Except PyError (InboxTables β) := do
  let envelope ← codec.parseEnvelope body
  require (String.ofList envelope.eventId.str = eventId) (valueError "Redis event_id does not match envelope event_id")
  let (begun, result) ← t.beginOnce codec consumerName envelope
  match result with
  | .new => pure { begun with effects := begun.effects ++ [(consumerName, envelope)] }
  | .alreadyProcessed => pure begun
  | .payloadConflict => begun.recordPayloadConflict codec consumerName envelope

/-! ### Once -/

/-- For every effect there is the row it was committed with, and no event has two effects for one consumer. -/
structure Once (t : InboxTables β) : Prop where
  recorded : ∀ effect ∈ t.effects, ∃ row ∈ t.rows, row.consumerName = effect.1 ∧ row.eventId = effect.2.eventId
  effects : (t.effects.map fun effect => (effect.1, effect.2.eventId)).Nodup

variable {codec} {t t' : InboxTables β} {consumerName eventId : String} {body : Body}

/-- A handled entry has its row, every row stays, and an effect is applied with a new row only. -/
theorem handle_ok (h : t.handle codec consumerName eventId body = .ok t') :
    ∃ envelope : EventEnvelope β, String.ofList envelope.eventId.str = eventId ∧
      ((t.row? consumerName envelope.eventId = none ∧ t'.rows = t.rows ++ [newInboxRow codec consumerName envelope] ∧
          t'.effects = t.effects ++ [(consumerName, envelope)]) ∨
        ((t.row? consumerName envelope.eventId).isSome ∧ t'.rows = t.rows ∧ t'.effects = t.effects)) := by
  obtain ⟨envelope, -, h⟩ := bind_ok.mp h
  obtain ⟨_, hid, h⟩ := bind_ok.mp h
  obtain ⟨⟨begun, result⟩, hbegun, h⟩ := bind_ok.mp h
  refine ⟨envelope, by simpa using require_ok.mp hid, ?_⟩
  unfold beginOnce at hbegun
  split at hbegun
  · cases hbegun
  split at hbegun
  · rename_i hnone
    cases hbegun
    cases h
    exact .inl ⟨hnone, rfl, rfl⟩
  · rename_i existing hsome
    refine .inr ⟨by rw [hsome]; rfl, ?_⟩
    split at hbegun
    · cases hbegun
      cases h
      exact ⟨rfl, rfl⟩
    · cases hbegun
      dsimp only at h
      unfold recordPayloadConflict at h
      dsimp only at h
      split at h
      · cases h
      · cases h
        exact ⟨rfl, rfl⟩

theorem row?_none {id : UUID} (h : t.row? consumerName id = none) :
    ∀ row ∈ t.rows, row.consumerName = consumerName → row.eventId ≠ id := by
  intro row hrow hname heq
  have hnot := List.find?_eq_none.mp h row hrow
  simp [hname, heq] at hnot

theorem row?_some {id : UUID} {row : InboxRow} (h : t.row? consumerName id = some row) :
    row ∈ t.rows ∧ row.consumerName = consumerName ∧ row.eventId = id := by
  have hfound := List.find?_some h
  exact ⟨List.mem_of_find?_eq_some h, by simpa using hfound⟩

theorem Once.handle (ht : t.Once) (h : t.handle codec consumerName eventId body = .ok t') : t'.Once := by
  obtain ⟨envelope, -, ⟨hnone, hrows, heffects⟩ | ⟨-, hrows, heffects⟩⟩ := handle_ok h
  · refine ⟨fun effect heffect => ?_, ?_⟩
    · rw [heffects] at heffect
      rw [hrows]
      rcases List.mem_append.mp heffect with hold | hnew
      · obtain ⟨row, hrow, hrest⟩ := ht.recorded effect hold
        exact ⟨row, List.mem_append_left _ hrow, hrest⟩
      · rw [List.mem_singleton.mp hnew]
        exact ⟨_, List.mem_append_right _ (List.mem_singleton_self _), rfl, rfl⟩
    · rw [heffects, List.map_append]
      refine List.nodup_append.mpr ⟨ht.effects, List.nodup_singleton _, ?_⟩
      rintro key hold _ hnew rfl
      obtain ⟨effect, heffect, rfl⟩ := List.mem_map.mp hold
      obtain ⟨row, hrow, hname, hid⟩ := ht.recorded effect heffect
      have hkey : (effect.1, effect.2.eventId) = (consumerName, envelope.eventId) := List.mem_singleton.mp hnew
      obtain ⟨hconsumer, hevent⟩ := Prod.mk.inj hkey
      exact row?_none hnone row hrow (hname.trans hconsumer) (hid.trans hevent)
  · refine ⟨?_, ?_⟩
    · rw [hrows, heffects]
      exact ht.recorded
    · rw [heffects]
      exact ht.effects

end InboxTables

end AutoTrader.Events
