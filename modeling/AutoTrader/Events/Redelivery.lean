import AutoTrader.Events.Inbox
import Mathlib.Logic.Relation

/-! Entries that are delivered again after their handling was committed. A new event and a repeated one are
found in the inbox and pass. A payload conflict writes its dead letter a second time and is refused. -/

namespace AutoTrader.Events

open AutoTrader.Binance AutoTrader.Domain AutoTrader.Execution Relation

namespace InboxTables

variable {Body β : Type}

/-- What handlers commit from here on, whatever consumers they are for and whatever entries they are at. -/
def Later : InboxTables β → InboxTables β → Prop :=
  ReflTransGen fun t t' =>
    ∃ (Body : Type) (codec : EnvelopeCodec Body β) (consumerName eventId : String) (body : Body),
      t.handle codec consumerName eventId body = .ok t'

/-- Handling the entry again raises nothing and changes nothing, now and after any other commits. -/
def Settled (codec : EnvelopeCodec Body β) (t : InboxTables β) (consumerName eventId : String) (body : Body) : Prop :=
  ∀ t', t.Later t' → t'.handle codec consumerName eventId body = .ok t'

/-- The event of the entry is in the inbox of the consumer with another payload. -/
def Conflicting (codec : EnvelopeCodec Body β) (t : InboxTables β) (consumerName : String) (body : Body) : Prop :=
  ∃ envelope row, codec.parseEnvelope body = .ok envelope ∧ t.row? consumerName envelope.eventId = some row ∧
    row.payloadHash ≠ codec.sha256 envelope

section Redelivery

variable {codec : EnvelopeCodec Body β} {t t' : InboxTables β} {consumerName eventId : String} {body : Body}
  {envelope : EventEnvelope β} {row : InboxRow}

/-- A row that is found stays found. -/
theorem Later.row? (h : t.Later t') {name : String} {id : UUID} (hrow : t.row? name id = some row) :
    t'.row? name id = some row := by
  induction h with
  | refl => exact hrow
  | tail _ hstep ih =>
    obtain ⟨_, _, _, _, _, hhandle⟩ := hstep
    obtain ⟨envelope, -, ⟨-, hrows, -⟩ | ⟨-, hrows, -⟩⟩ := handle_ok hhandle
    · unfold InboxTables.row? at ih ⊢
      rw [hrows, List.find?_append, ih, Option.some_or]
    · unfold InboxTables.row? at ih ⊢
      rw [hrows, ih]

/-- An entry of a new event writes its row, and the row is found. -/
theorem handle_new (hparse : codec.parseEnvelope body = .ok envelope)
    (hrow : t.row? consumerName envelope.eventId = none) (h : t.handle codec consumerName eventId body = .ok t') :
    t'.row? consumerName envelope.eventId = some (newInboxRow codec consumerName envelope) := by
  obtain ⟨other, hother, h⟩ := bind_ok.mp h
  obtain rfl : envelope = other := Except.ok.inj (hparse.symm.trans hother)
  obtain ⟨_, -, h⟩ := bind_ok.mp h
  obtain ⟨⟨begun, result⟩, hbegun, h⟩ := bind_ok.mp h
  unfold beginOnce at hbegun
  split at hbegun
  · cases hbegun
  rw [hrow] at hbegun
  cases hbegun
  cases h
  unfold InboxTables.row? at hrow ⊢
  rw [List.find?_append, hrow, Option.none_or]
  simp [newInboxRow]

/-- An entry whose event is in the inbox with its payload passes. -/
theorem handle_processed (hparse : codec.parseEnvelope body = .ok envelope)
    (hid : String.ofList envelope.eventId.str = eventId) (hname : consumerName.length ≤ 128)
    (hrow : t.row? consumerName envelope.eventId = some row) (hhash : row.payloadHash = codec.sha256 envelope) :
    t.handle codec consumerName eventId body = .ok t := by
  have hsame : decide (String.ofList envelope.eventId.str = eventId) = true := decide_eq_true hid
  unfold handle beginOnce
  rw [hparse, ok_bind, hsame, if_neg (Nat.not_lt.mpr hname), hrow]
  dsimp only
  rw [if_pos hhash]
  rfl

/-- An entry that conflicts with the inbox writes its dead letter, once. -/
theorem handle_conflict (hparse : codec.parseEnvelope body = .ok envelope)
    (hid : String.ofList envelope.eventId.str = eventId) (hname : consumerName.length ≤ 128)
    (hrow : t.row? consumerName envelope.eventId = some row) (hhash : row.payloadHash ≠ codec.sha256 envelope) :
    t.handle codec consumerName eventId body = t.recordPayloadConflict codec consumerName envelope := by
  have hsame : decide (String.ofList envelope.eventId.str = eventId) = true := decide_eq_true hid
  unfold handle beginOnce
  rw [hparse, ok_bind, hsame, if_neg (Nat.not_lt.mpr hname), hrow]
  dsimp only
  rw [if_neg hhash]
  rfl

theorem recordPayloadConflict_twice (h : t.recordPayloadConflict codec consumerName envelope = .ok t') :
    t'.recordPayloadConflict codec consumerName envelope = .error ⟨.databaseError, "Duplicate entry"⟩ := by
  unfold recordPayloadConflict at h
  dsimp only at h
  split at h
  · cases h
  · cases h
    exact if_pos (List.mem_append_right _ (List.mem_singleton_self _))

/-- What a handler that committed has read. -/
theorem handle_inversion (h : t.handle codec consumerName eventId body = .ok t') :
    ∃ envelope, codec.parseEnvelope body = .ok envelope ∧ String.ofList envelope.eventId.str = eventId ∧
      consumerName.length ≤ 128 := by
  obtain ⟨envelope, hparse, h⟩ := bind_ok.mp h
  obtain ⟨_, hid, h⟩ := bind_ok.mp h
  obtain ⟨_, hbegun, -⟩ := bind_ok.mp h
  refine ⟨envelope, hparse, by simpa using require_ok.mp hid, ?_⟩
  unfold beginOnce at hbegun
  split at hbegun
  · cases hbegun
  · omega

/-- After the commit the event is in the inbox, with the payload of the entry unless the two conflict. -/
theorem row?_handled (hparse : codec.parseEnvelope body = .ok envelope)
    (h : t.handle codec consumerName eventId body = .ok t') (hagrees : ¬ t.Conflicting codec consumerName body) :
    ∃ row, t'.row? consumerName envelope.eventId = some row ∧ row.payloadHash = codec.sha256 envelope := by
  cases hrow : t.row? consumerName envelope.eventId with
  | none => exact ⟨_, handle_new hparse hrow h, rfl⟩
  | some row =>
    refine ⟨row, Later.row? (.single ⟨_, codec, consumerName, eventId, body, h⟩) hrow, ?_⟩
    by_contra hhash
    exact hagrees ⟨envelope, row, hparse, hrow, hhash⟩

/-- A committed entry passes from then on, if and only if it was no payload conflict. -/
theorem redelivery_settled_iff (h : t.handle codec consumerName eventId body = .ok t') :
    t'.Settled codec consumerName eventId body ↔ ¬ t.Conflicting codec consumerName body := by
  obtain ⟨envelope, hparse, hid, hname⟩ := handle_inversion h
  constructor
  · rintro hsettled ⟨other, row, hother, hrow, hhash⟩
    obtain rfl : envelope = other := Except.ok.inj (hparse.symm.trans hother)
    have hkept : t'.row? consumerName envelope.eventId = some row :=
      Later.row? (.single ⟨_, codec, consumerName, eventId, body, h⟩) hrow
    have hagain := hsettled t' .refl
    -- the same handling a second time, where the first one left its dead letter
    rw [handle_conflict hparse hid hname hrow hhash] at h
    rw [handle_conflict hparse hid hname hkept hhash, recordPayloadConflict_twice h] at hagain
    cases hagain
  · intro hagrees later hlater
    obtain ⟨row, hrow, hhash⟩ := row?_handled hparse h hagrees
    exact handle_processed hparse hid hname (hlater.row? hrow) hhash

end Redelivery

/-! ### An event that comes with two payloads -/

/-- `ReservationReleasedPayload`, of whole units. -/
structure ReservationReleased where
  releasedRiskAmount : Nat
  releaseReason : String

/-- SHA-256 on the two sample envelopes, which travel as they are. -/
def releasedCodec : EnvelopeCodec (EventEnvelope ReservationReleased) ReservationReleased where
  modelDump := id
  sha256 envelope :=
    if envelope.payload.releasedRiskAmount = 5 then 0x44b8bb3abf02e1a1bdacc8091cec081b8acb3badcc81344f44dda2db447afa03
    else 0xf546b9b5e58a79688958b04acfaf068c58ce6d57c4cc0e3d66127ea04dab44d4
  parseEnvelope := .ok

def releasedUuid (n : Fin 256) : UUID := ⟨7 * 2 ^ 76 + 2 * 2 ^ 62 + n, sampleInt_lt n⟩

def released (amount : Nat) : EventEnvelope ReservationReleased where
  eventId := releasedUuid 1
  eventType := "execution.reservation.released"
  schemaVersion := 1
  occurredAt := 0
  observedAt := 0
  producer := "execution-terminal-release"
  partitionKey := "00000000-0000-7000-8000-000000000002"
  aggregateType := "Order"
  aggregateId := releasedUuid 3
  aggregateVersion := 1
  correlationId := releasedUuid 4
  causationId := none
  traceId := "00000000000070008000000000000003"
  payload := ⟨amount, "BROKER_TERMINAL_EXECUTION_COMPLETE"⟩

/-- The event came with five and was handled. -/
def fiveReleased : InboxTables ReservationReleased where
  rows := [newInboxRow releasedCodec "ledger" (released 5)]
  deadLetters := []
  effects := [("ledger", released 5)]

/-- It came again with six: the conflict is in the dead letters. -/
def sixRefused : InboxTables ReservationReleased :=
  { fiveReleased with deadLetters := [⟨"ledger", releasedUuid 1, releasedCodec.sha256 (released 6)⟩] }

def releasedEventId : String := "00000000-0000-7000-8000-000000000001"

theorem five_handled :
    (⟨[], [], []⟩ : InboxTables ReservationReleased).handle releasedCodec "ledger" releasedEventId (released 5) =
      .ok fiveReleased := by
  rfl

theorem six_handled :
    fiveReleased.handle releasedCodec "ledger" releasedEventId (released 6) = .ok sixRefused := by
  rfl

theorem five_settled : fiveReleased.Settled releasedCodec "ledger" releasedEventId (released 5) := by
  refine (redelivery_settled_iff five_handled).mpr ?_
  rintro ⟨_, _, -, hrow, -⟩
  cases hrow

/-- The conflict is committed, its acknowledgement is lost, and the entry is refused ever after. -/
theorem six_refused_again :
    fiveReleased.handle releasedCodec "ledger" releasedEventId (released 6) = .ok sixRefused ∧
      ¬ sixRefused.Settled releasedCodec "ledger" releasedEventId (released 6) := by
  refine ⟨six_handled, fun hsettled => ?_⟩
  have hagain : sixRefused.handle releasedCodec "ledger" releasedEventId (released 6) =
      .error ⟨.databaseError, "Duplicate entry"⟩ := by
    rfl
  cases hagain.symm.trans (hsettled sixRefused .refl)

end InboxTables

end AutoTrader.Events
