import AutoTrader.Events.Delivery

/-! From the outbox to the inbox every event has its effect once for a consumer, however publishers and
consumers interleave, fail and repeat. -/

namespace AutoTrader.Events

open AutoTrader.Binance AutoTrader.Domain AutoTrader.Execution AutoTrader.Runtime

variable {Body β : Type}

/-! ### What the history has to look like -/

/-- The worker of an event's last claim. -/
def lastOwner : List (DeliveryFact Body) → UUID → Option String
  | [], _ => none
  | .claimed owner id :: older, eventId => if id = eventId then some owner else lastOwner older eventId
  | _ :: older, eventId => lastOwner older eventId

/-- An event is published by the worker that claimed it last and after it was appended to the stream, and
an entry is acknowledged after its inbox row was written. -/
def DeliveryFact.Justified (older : List (DeliveryFact Body)) : DeliveryFact Body → Prop
  | .published owner eventId payload =>
    lastOwner older eventId = some owner ∧ .appended (String.ofList eventId.str) payload ∈ older
  | .acknowledged consumerName eventId =>
    ∃ id : UUID, String.ofList id.str = eventId ∧ .recorded consumerName id ∈ older
  | _ => True

def Lawful : List (DeliveryFact Body) → Prop
  | [] => True
  | fact :: older => fact.Justified older ∧ Lawful older

/-- What publishers and consumers together keep. -/
structure EffectivelyOnce (w : DeliveryWorld Body β) : Prop where
  effects : ∀ consumerName eventId,
    (w.inbox.effects.map fun effect => (effect.1, effect.2.eventId)).count (consumerName, eventId) ≤ 1
  published : ∀ row ∈ w.outbox, row.publishedAt.isSome →
    ∃ entry ∈ w.stream, entry.eventId = String.ofList row.eventId.str ∧ entry.body = row.payload
  recorded : ∀ consumerName eventId, .recorded consumerName eventId ∈ w.history →
    ∃ row ∈ w.inbox.rows, row.consumerName = consumerName ∧ row.eventId = eventId
  history : Lawful w.history

/-! ### The protocol of a call -/

/-- What a call has done for the event or the entry it is at. -/
inductive DeliveryPhase (Body : Type)
  | idle
  | loaded (eventId : UUID) (payload : Body)
  | appended (eventId : UUID) (payload : Body)
  | handled (consumerName eventId : String)

def deliveryProtocol : Protocol PyError (DeliveryOp Body β) DeliveryOp.Result (DeliveryPhase Body) where
  allows s
    | .xadd eventId body => ∃ id : UUID, eventId = String.ofList id.str ∧ s = .loaded id body
    | .markPublished id _ _ _ => ∃ payload, s = .appended id payload
    | .xack consumer entry => s = .handled consumer.consumerName entry.eventId
    | _ => True
  moves s o r s' :=
    match o, r with
    | .loadClaimed id _ _, .ok event => event.1.eventId = id ∧ s' = .loaded id event.1.payload
    | .xadd _ body, .ok _ => ∀ id, s = .loaded id body → s' = .appended id body
    | .handle consumerName eventId _, .ok _ => s' = .handled consumerName eventId
    | _, _ => s' = s
  ends _ := True

theorem bind_keeps {α : Type} {s : DeliveryPhase Body} {o : DeliveryOp Body β} {f : o.Result → DeliveryAct Body β α}
    (h : deliveryProtocol.allows s o)
    (hf : ∀ s' v, deliveryProtocol.moves s o (.ok v) s' →
      (f v).Keeps deliveryProtocol s' (fun _ _ => True) (fun _ _ => True)) :
    (Action.perform o >>= f).Keeps deliveryProtocol s (fun _ _ => True) (fun _ _ => True) :=
  .bind ((Action.keeps_perform ..).mpr ⟨h, fun _ _ hmove => hmove, fun _ _ _ => trivial⟩) hf

theorem publishThenAcknowledge_keeps (eventId : UUID) (owner : String) (now : Instant) (s : DeliveryPhase Body) :
    (publishThenAcknowledge eventId owner now now publishEvent fun _ => pure () : DeliveryAct Body β Unit).Keeps
      deliveryProtocol s (fun _ _ => True) (fun _ _ => True) := by
  refine bind_keeps trivial fun s' event hloaded => ?_
  obtain ⟨hid, rfl⟩ := hloaded
  obtain ⟨event, alreadyPublished⟩ := event
  cases alreadyPublished with
  | true => trivial
  | false =>
    refine bind_keeps ⟨eventId, congrArg (fun id : UUID => String.ofList id.str) hid, rfl⟩ fun s'' _ happended => ?_
    rw [happended eventId rfl]
    exact bind_keeps ⟨_, rfl⟩ fun _ _ _ => trivial

theorem publishEach_keeps (owner : String) (now : Instant) (events : List (OutboxRow Body)) (s : DeliveryPhase Body) :
    (publishEach owner now events : DeliveryAct Body β Unit).Keeps deliveryProtocol s (fun _ _ => True)
      (fun _ _ => True) := by
  induction events generalizing s with
  | nil => trivial
  | cons event events ih => exact (publishThenAcknowledge_keeps event.eventId owner now s).bind fun s' _ _ => ih s'

/-- Whatever the entries before did, an entry is acknowledged after it was handled. -/
theorem handleEntries_keeps (consumer : InboxConsumer) (entries : List (StreamEntry Body)) (firstError : Option PyError)
    (handled : Nat) (s : DeliveryPhase Body) :
    (handleEntries consumer entries firstError handled : DeliveryAct Body β Nat).Keeps deliveryProtocol s
      (fun _ _ => True) (fun _ _ => True) := by
  induction entries generalizing firstError handled s with
  | nil => cases firstError <;> trivial
  | cons entry entries ih =>
    refine .bind (m := fun _ _ => True) ?_ fun s' failed _ => ?_
    · refine .tryCatch (c := fun _ _ => True) ?_ fun s' error _ => ?_
      · refine bind_keeps trivial fun s' _ hhandled => ?_
        exact bind_keeps hhandled fun _ _ _ => trivial
      · split <;> trivial
    · cases failed with
      | none => exact ih _ _ s'
      | some error => exact ih _ _ s'

theorem check_keeps {α : Type} {x : Except PyError Unit} {s : DeliveryPhase Body} {f : Unit → DeliveryAct Body β α}
    (hf : (f ()).Keeps deliveryProtocol s (fun _ _ => True) (fun _ _ => True)) :
    (Action.ofExcept x >>= f).Keeps deliveryProtocol s (fun _ _ => True) (fun _ _ => True) := by
  refine .bind (m := fun s' _ => s' = s) ((Action.keeps_ofExcept ..).mpr ⟨fun _ _ => rfl, fun _ _ => trivial⟩) ?_
  rintro _ ⟨⟩ rfl
  exact hf

theorem publishAvailable_keeps (owner : String) (now : Instant) (limit : Int) (s : DeliveryPhase Body) :
    (publishAvailable owner now limit : DeliveryAct Body β Nat).Keeps deliveryProtocol s (fun _ _ => True)
      (fun _ _ => True) :=
  bind_keeps trivial fun s claimed _ => (publishEach_keeps owner now claimed s).bind fun _ _ _ => trivial

theorem consumeNew_keeps (consumer : InboxConsumer) (count : Int) (s : DeliveryPhase Body) :
    (consumeNew consumer count : DeliveryAct Body β Nat).Keeps deliveryProtocol s (fun _ _ => True)
      (fun _ _ => True) := by
  refine bind_keeps trivial fun s _ _ => check_keeps ?_
  exact bind_keeps trivial fun s entries _ => handleEntries_keeps consumer entries none 0 s

theorem recoverPending_keeps (consumer : InboxConsumer) (minIdleMs count : Int) (s : DeliveryPhase Body) :
    (recoverPending consumer minIdleMs count : DeliveryAct Body β Nat).Keeps deliveryProtocol s (fun _ _ => True)
      (fun _ _ => True) := by
  refine bind_keeps trivial fun s _ _ => check_keeps (check_keeps ?_)
  exact bind_keeps trivial fun s claimed _ => handleEntries_keeps consumer claimed.2 none 0 s

theorem deliveryCall_keeps (call : DeliveryCall β) :
    (call.act : DeliveryAct Body β Unit).Keeps deliveryProtocol .idle (fun _ _ => True) (fun _ _ => True) := by
  cases call with
  | enqueue envelope nextAttemptAt createdAt =>
    exact (Action.keeps_perform ..).mpr ⟨trivial, fun _ _ _ => trivial, fun _ _ _ => trivial⟩
  | enqueueOnce envelope nextAttemptAt createdAt =>
    exact (Action.keeps_perform ..).mpr ⟨trivial, fun _ _ _ => trivial, fun _ _ _ => trivial⟩
  | publishAvailable owner now limit => exact (publishAvailable_keeps owner now limit _).bind fun _ _ _ => trivial
  | consumeNew consumer count => exact (consumeNew_keeps consumer count _).bind fun _ _ _ => trivial
  | recoverPending consumer minIdleMs count =>
    exact (recoverPending_keeps consumer minIdleMs count _).bind fun _ _ _ => trivial

/-! ### The invariant -/

structure DeliveryInv (w : DeliveryWorld Body β) : Prop where
  ids : (w.outbox.map OutboxRow.eventId).Nodup
  owners : ∀ row ∈ w.outbox, row.claimedBy = lastOwner w.history row.eventId
  known : ∀ owner id, .claimed owner id ∈ w.history → ∃ row ∈ w.outbox, row.eventId = id
  published : ∀ row ∈ w.outbox, row.publishedAt.isSome →
    .appended (String.ofList row.eventId.str) row.payload ∈ w.history
  streamed : ∀ eventId body, .appended eventId body ∈ w.history →
    ∃ entry ∈ w.stream, entry.eventId = eventId ∧ entry.body = body
  once : w.inbox.Once
  recorded : ∀ name id, .recorded name id ∈ w.history ↔ ∃ row ∈ w.inbox.rows, row.consumerName = name ∧ row.eventId = id
  lawful : Lawful w.history

/-- What a call has done is still there. -/
def DeliveryPhase.Holds (w : DeliveryWorld Body β) : DeliveryPhase Body → Prop
  | .idle => True
  | .loaded id payload => ∃ row ∈ w.outbox, row.eventId = id ∧ row.payload = payload
  | .appended id payload => (∃ row ∈ w.outbox, row.eventId = id ∧ row.payload = payload) ∧
    .appended (String.ofList id.str) payload ∈ w.history
  | .handled consumerName eventId => ∃ id : UUID, String.ofList id.str = eventId ∧ .recorded consumerName id ∈ w.history

/-- Events stay in the outbox with their payload, and what took effect stays in the history. -/
structure Grows (w w' : DeliveryWorld Body β) : Prop where
  outbox : ∀ row ∈ w.outbox, ∃ row' ∈ w'.outbox, row'.eventId = row.eventId ∧ row'.payload = row.payload
  history : w.history ⊆ w'.history

section Invariant

variable {codec : EnvelopeCodec Body β} {w w' : DeliveryWorld Body β} {rows : List (OutboxRow Body)}

theorem Grows.of_outbox (h : w'.outbox = w.outbox) (hhistory : w.history ⊆ w'.history) : Grows w w' :=
  ⟨fun row hrow => ⟨row, h ▸ hrow, rfl, rfl⟩, hhistory⟩

theorem DeliveryPhase.Holds.grows {s : DeliveryPhase Body} (h : s.Holds w) (hgrows : Grows w w') : s.Holds w' := by
  cases s with
  | idle => trivial
  | loaded id payload =>
    obtain ⟨row, hrow, rfl, rfl⟩ := h
    exact hgrows.outbox row hrow
  | appended id payload =>
    obtain ⟨⟨row, hrow, rfl, rfl⟩, happended⟩ := h
    exact ⟨hgrows.outbox row hrow, hgrows.history happended⟩
  | handled consumerName eventId =>
    obtain ⟨id, hid, hrecorded⟩ := h
    exact ⟨id, hid, hgrows.history hrecorded⟩

theorem deliveryInv_empty : DeliveryInv (.empty : DeliveryWorld Body β) where
  ids := List.nodup_nil
  owners _ h := absurd h List.not_mem_nil
  known _ _ h := absurd h List.not_mem_nil
  published _ h := absurd h List.not_mem_nil
  streamed _ _ h := absurd h List.not_mem_nil
  once := ⟨fun _ h => absurd h List.not_mem_nil, List.nodup_nil⟩
  recorded _ _ := ⟨fun h => absurd h List.not_mem_nil, fun ⟨_, h, _⟩ => absurd h List.not_mem_nil⟩
  lawful := trivial

theorem DeliveryInv.row_unique (h : DeliveryInv w) {a b : OutboxRow Body} (ha : a ∈ w.outbox) (hb : b ∈ w.outbox)
    (hid : a.eventId = b.eventId) : a = b :=
  List.inj_on_of_nodup_map h.ids ha hb hid

/-- An event that was never enqueued was never claimed. -/
theorem lastOwner_none {history : List (DeliveryFact Body)} {id : UUID}
    (h : ∀ owner, .claimed owner id ∉ history) : lastOwner history id = none := by
  induction history with
  | nil => rfl
  | cons fact older ih =>
    have hrest := ih fun owner hmem => h owner (List.mem_cons_of_mem _ hmem)
    cases fact with
    | claimed owner other =>
      have hne : other ≠ id := by
        rintro rfl
        exact h owner List.mem_cons_self
      simpa [lastOwner, hne] using hrest
    | _ => exact hrest

/-- The group tables are no part of the invariant. -/
theorem DeliveryInv.groups (h : DeliveryInv w) (groups : List ConsumerGroup) : DeliveryInv { w with groups := groups } :=
  ⟨h.ids, h.owners, h.known, h.published, h.streamed, h.once, h.recorded, h.lawful⟩

theorem DeliveryInv.enqueue (h : DeliveryInv w) {row : OutboxRow Body} (hclaimed : row.claimedBy = none)
    (hpublished : row.publishedAt = none) (hfresh : ∀ other ∈ w.outbox, other.eventId ≠ row.eventId) :
    DeliveryInv { w with outbox := w.outbox ++ [row] } := by
  refine ⟨?_, fun other hother => ?_, fun owner id hclaim => ?_, fun other hother hsome => ?_, h.streamed, h.once,
    h.recorded, h.lawful⟩
  · rw [List.map_append]
    refine List.nodup_append.mpr ⟨h.ids, List.nodup_singleton _, ?_⟩
    rintro id hold _ hnew rfl
    obtain ⟨other, hother, rfl⟩ := List.mem_map.mp hold
    exact hfresh other hother (List.mem_singleton.mp hnew)
  · rcases List.mem_append.mp hother with hold | hnew
    · exact h.owners other hold
    · rw [List.mem_singleton.mp hnew, hclaimed]
      refine (lastOwner_none fun owner hclaim => ?_).symm
      obtain ⟨old, hold, hid⟩ := h.known owner row.eventId hclaim
      exact hfresh old hold hid
  · obtain ⟨old, hold, hid⟩ := h.known owner id hclaim
    exact ⟨old, List.mem_append_left _ hold, hid⟩
  · rcases List.mem_append.mp hother with hold | hnew
    · exact h.published other hold hsome
    · rw [List.mem_singleton.mp hnew, hpublished] at hsome
      cases hsome

/-- Claims of a batch are put before what is there. -/
theorem lastOwner_claims (owner : String) (ids : List UUID) (older : List (DeliveryFact Body)) (id : UUID) :
    lastOwner (ids.map (.claimed owner) ++ older) id = if id ∈ ids then some owner else lastOwner older id := by
  induction ids with
  | nil => rfl
  | cons first ids ih =>
    by_cases heq : first = id
    · simp [lastOwner, heq]
    · have hne : id ≠ first := fun h => heq h.symm
      simp [lastOwner, heq, hne, ih]

theorem lawful_claims (owner : String) (ids : List UUID) {older : List (DeliveryFact Body)} (h : Lawful older) :
    Lawful (ids.map (.claimed owner) ++ older) := by
  induction ids with
  | nil => exact h
  | cons first ids ih => exact ⟨trivial, ih⟩

theorem DeliveryInv.claim (h : DeliveryInv w) (owner : String) (expiry : Instant) (ids : List UUID)
    (hids : ∀ id ∈ ids, ∃ row ∈ w.outbox, row.eventId = id) :
    DeliveryInv { w with
      outbox := w.outbox.map fun row =>
        if row.eventId ∈ ids then { row with claimedBy := some owner, claimExpiresAt := some expiry } else row
      history := ids.map (.claimed owner) ++ w.history } := by
  have hkept : ∀ row : OutboxRow Body,
      (if row.eventId ∈ ids then { row with claimedBy := some owner, claimExpiresAt := some expiry } else row).eventId =
        row.eventId := by
    intro row
    split <;> rfl
  have hclaims : ∀ fact, (∀ id, fact ≠ .claimed owner id) → fact ∈ ids.map (.claimed owner) ++ w.history →
      fact ∈ w.history := by
    intro fact hfact hmem
    rcases List.mem_append.mp hmem with hnew | hold
    · obtain ⟨id, -, rfl⟩ := List.mem_map.mp hnew
      exact absurd rfl (hfact id)
    · exact hold
  refine ⟨?_, fun row hrow => ?_, fun other id hclaim => ?_, fun row hrow hsome => ?_, fun eventId body happended => ?_,
    h.once, fun name id => ?_, lawful_claims owner ids h.lawful⟩
  · have hsame : (w.outbox.map fun row =>
        if row.eventId ∈ ids then { row with claimedBy := some owner, claimExpiresAt := some expiry } else row).map
        OutboxRow.eventId = w.outbox.map OutboxRow.eventId := by
      rw [List.map_map]
      exact List.map_congr_left fun row _ => hkept row
    exact hsame ▸ h.ids
  · obtain ⟨old, hold, rfl⟩ := List.mem_map.mp hrow
    rw [hkept, lastOwner_claims]
    split
    · rfl
    · exact h.owners old hold
  · have hknown : ∃ row ∈ w.outbox, row.eventId = id := by
      rcases List.mem_append.mp hclaim with hnew | hold
      · obtain ⟨found, hfound, heq⟩ := List.mem_map.mp hnew
        cases heq
        exact hids _ hfound
      · exact h.known other id hold
    obtain ⟨row, hrow, hid⟩ := hknown
    exact ⟨_, List.mem_map_of_mem hrow, (hkept row).trans hid⟩
  · obtain ⟨old, hold, rfl⟩ := List.mem_map.mp hrow
    refine List.mem_append_right _ ?_
    by_cases hmem : old.eventId ∈ ids
    · rw [if_pos hmem] at hsome ⊢
      exact h.published old hold hsome
    · rw [if_neg hmem] at hsome ⊢
      exact h.published old hold hsome
  · exact h.streamed eventId body (hclaims _ (fun id => nofun) happended)
  · refine ⟨fun hmem => (h.recorded name id).mp (hclaims _ (fun id => nofun) hmem), fun hrow => ?_⟩
    exact List.mem_append_right _ ((h.recorded name id).mpr hrow)

theorem DeliveryInv.append (h : DeliveryInv w) (eventId : String) (body : Body) :
    DeliveryInv { w with
      stream := w.stream ++ [⟨w.stream.length, eventId, body⟩]
      history := .appended eventId body :: w.history } := by
  refine ⟨h.ids, h.owners, fun owner id hclaim => ?_, fun row hrow hsome => ?_, fun other otherBody happended => ?_,
    h.once, fun name id => ?_, trivial, h.lawful⟩
  · rcases List.mem_cons.mp hclaim with heq | hold
    · cases heq
    · exact h.known owner id hold
  · exact List.mem_cons_of_mem _ (h.published row hrow hsome)
  · rcases List.mem_cons.mp happended with heq | hold
    · cases heq
      exact ⟨_, List.mem_append_right _ (List.mem_singleton_self _), rfl, rfl⟩
    · obtain ⟨entry, hentry, hrest⟩ := h.streamed other otherBody hold
      exact ⟨entry, List.mem_append_left _ hentry, hrest⟩
  · refine ⟨fun hmem => ?_, fun hrow => List.mem_cons_of_mem _ ((h.recorded name id).mpr hrow)⟩
    rcases List.mem_cons.mp hmem with heq | hold
    · cases heq
    · exact (h.recorded name id).mp hold

/-- An unpublished event that was appended is marked by the worker whose claim it is. -/
theorem DeliveryInv.publish (h : DeliveryInv w) {row : OutboxRow Body} {owner : String} (publishedAt : Instant)
    (hrow : row ∈ w.outbox) (hclaimed : row.claimedBy = some owner)
    (happended : .appended (String.ofList row.eventId.str) row.payload ∈ w.history) :
    DeliveryInv { w with
      outbox := w.outbox.map fun other =>
        if other.eventId = row.eventId then { row with publishedAt := some publishedAt } else other
      history := .published owner row.eventId row.payload :: w.history } := by
  have hkept : ∀ other : OutboxRow Body,
      (if other.eventId = row.eventId then { row with publishedAt := some publishedAt } else other).eventId =
        other.eventId := by
    intro other
    split
    · rename_i heq
      exact heq.symm
    · rfl
  refine ⟨?_, fun other hother => ?_, fun other id hclaim => ?_, fun other hother hsome => ?_,
    fun eventId body hmem => ?_, h.once, fun name id => ?_, ⟨?_, happended⟩, h.lawful⟩
  · have hsame : (w.outbox.map fun other =>
        if other.eventId = row.eventId then { row with publishedAt := some publishedAt } else other).map
        OutboxRow.eventId = w.outbox.map OutboxRow.eventId := by
      rw [List.map_map]
      exact List.map_congr_left fun other _ => hkept other
    exact hsame ▸ h.ids
  · obtain ⟨old, hold, rfl⟩ := List.mem_map.mp hother
    split
    · exact h.owners row hrow
    · exact h.owners old hold
  · rcases List.mem_cons.mp hclaim with heq | hold
    · cases heq
    · obtain ⟨old, hmem, hid⟩ := h.known other id hold
      exact ⟨_, List.mem_map_of_mem hmem, (hkept old).trans hid⟩
  · obtain ⟨old, hold, rfl⟩ := List.mem_map.mp hother
    refine List.mem_cons_of_mem _ ?_
    by_cases heq : old.eventId = row.eventId
    · rw [if_pos heq]
      exact happended
    · rw [if_neg heq] at hsome ⊢
      exact h.published old hold hsome
  · rcases List.mem_cons.mp hmem with heq | hold
    · cases heq
    · exact h.streamed eventId body hold
  · refine ⟨fun hmem => ?_, fun hfound => List.mem_cons_of_mem _ ((h.recorded name id).mpr hfound)⟩
    rcases List.mem_cons.mp hmem with heq | hold
    · cases heq
    · exact (h.recorded name id).mp hold
  · rw [← hclaimed]
    exact (h.owners row hrow).symm

theorem DeliveryInv.handle (h : DeliveryInv w) {tables : InboxTables β} {consumerName eventId : String} {body : Body}
    (hhandle : w.inbox.handle codec consumerName eventId body = .ok tables) :
    let recorded := (tables.rows.drop w.inbox.rows.length).map fun row => .recorded row.consumerName row.eventId
    DeliveryInv { w with inbox := tables, history := recorded ++ w.history } ∧
      ∃ id : UUID, String.ofList id.str = eventId ∧ .recorded consumerName id ∈ recorded ++ w.history := by
  have honce := h.once.handle hhandle
  obtain ⟨envelope, hid, ⟨-, hrows, -⟩ | ⟨hsome, hrows, -⟩⟩ := InboxTables.handle_ok hhandle
  · rw [hrows, List.drop_left]
    refine ⟨⟨h.ids, h.owners, fun owner id hclaim => ?_, fun row hrow hpublished => ?_, fun other otherBody hmem => ?_,
      honce, fun name id => ?_, trivial, h.lawful⟩, envelope.eventId, hid, List.mem_cons_self⟩
    · rcases List.mem_cons.mp hclaim with heq | hold
      · cases heq
      · exact h.known owner id hold
    · exact List.mem_cons_of_mem _ (h.published row hrow hpublished)
    · rcases List.mem_cons.mp hmem with heq | hold
      · cases heq
      · exact h.streamed other otherBody hold
    · rw [hrows]
      refine ⟨fun hmem => ?_, ?_⟩
      · rcases List.mem_cons.mp hmem with heq | hold
        · cases heq
          exact ⟨_, List.mem_append_right _ (List.mem_singleton_self _), rfl, rfl⟩
        · obtain ⟨row, hrow, hrest⟩ := (h.recorded name id).mp hold
          exact ⟨row, List.mem_append_left _ hrow, hrest⟩
      · rintro ⟨row, hrow, rfl, rfl⟩
        rcases List.mem_append.mp hrow with hold | hnew
        · exact List.mem_cons_of_mem _ ((h.recorded _ _).mpr ⟨row, hold, rfl, rfl⟩)
        · rw [List.mem_singleton.mp hnew]
          exact List.mem_cons_self
  · rw [hrows, List.drop_length]
    refine ⟨⟨h.ids, h.owners, h.known, h.published, h.streamed, honce, fun name id => ?_, h.lawful⟩, ?_⟩
    · rw [hrows]
      exact h.recorded name id
    · obtain ⟨row, hrow⟩ := Option.isSome_iff_exists.mp hsome
      obtain ⟨hmem, hname, hevent⟩ := InboxTables.row?_some hrow
      exact ⟨envelope.eventId, hid, (h.recorded _ _).mpr ⟨row, hmem, hname, hevent⟩⟩

theorem DeliveryInv.acknowledge (h : DeliveryInv w) {consumerName eventId : String} {id : UUID}
    (hid : String.ofList id.str = eventId) (hrecorded : .recorded consumerName id ∈ w.history) :
    DeliveryInv { w with history := .acknowledged consumerName eventId :: w.history } := by
  refine ⟨h.ids, h.owners, fun owner id hclaim => ?_, fun row hrow hsome => ?_, fun other otherBody hmem => ?_, h.once,
    fun name id => ?_, ⟨id, hid, hrecorded⟩, h.lawful⟩
  · rcases List.mem_cons.mp hclaim with heq | hold
    · cases heq
    · exact h.known owner id hold
  · exact List.mem_cons_of_mem _ (h.published row hrow hsome)
  · rcases List.mem_cons.mp hmem with heq | hold
    · cases heq
    · exact h.streamed other otherBody hold
  · refine ⟨fun hmem => ?_, fun hrow => List.mem_cons_of_mem _ ((h.recorded name id).mpr hrow)⟩
    rcases List.mem_cons.mp hmem with heq | hold
    · cases heq
    · exact (h.recorded name id).mp hold

/-! ### One operation -/

variable {choice : DeliveryChoice} {s : DeliveryPhase Body}

/-- An operation the protocol allows keeps the invariant, takes nothing away, and leads to a phase that holds. -/
def Sustains (w : DeliveryWorld Body β) (s : DeliveryPhase Body) (o : DeliveryOp Body β) (w' : DeliveryWorld Body β)
    (result : o.Result) : Prop :=
  DeliveryInv w' ∧ Grows w w' ∧ ∃ s', deliveryProtocol.moves s o (.ok result) s' ∧ s'.Holds w'

theorem sustains_still {o : DeliveryOp Body β} {result : o.Result} (hs : s.Holds w) (hinv : DeliveryInv w')
    (hgrows : Grows w w') (hmoves : deliveryProtocol.moves s o (.ok result) s) : Sustains w s o w' result :=
  ⟨hinv, hgrows, s, hmoves, hs.grows hgrows⟩

theorem perform_sustains (h : DeliveryInv w) (hs : s.Holds w) {o : DeliveryOp Body β}
    (hallows : deliveryProtocol.allows s o) {result : o.Result} (hperform : w.perform codec choice o = .ok (w', result)) :
    Sustains w s o w' result := by
  cases o with
  | enqueue envelope nextAttemptAt createdAt =>
    obtain ⟨rows, hrows, hperform⟩ := bind_ok.mp hperform
    cases hperform
    obtain ⟨rfl, hfresh⟩ := enqueue_rows hrows
    exact sustains_still hs (h.enqueue rfl rfl hfresh)
      ⟨fun row hrow => ⟨row, List.mem_append_left _ hrow, rfl, rfl⟩, List.Subset.refl _⟩ rfl
  | enqueueOnce envelope nextAttemptAt createdAt =>
    obtain ⟨rows, hrows, hperform⟩ := bind_ok.mp hperform
    cases hperform
    rcases enqueueOnce_rows hrows with rfl | ⟨rfl, hfresh⟩
    · exact sustains_still hs h (.of_outbox rfl (List.Subset.refl _)) rfl
    · exact sustains_still hs (h.enqueue rfl rfl hfresh)
        ⟨fun row hrow => ⟨row, List.mem_append_left _ hrow, rfl, rfl⟩, List.Subset.refl _⟩ rfl
  | claimBatch limit now claimOwner claimExpiresAt =>
    obtain ⟨⟨rows, events⟩, hclaim, hperform⟩ := bind_ok.mp hperform
    cases hperform
    obtain ⟨hrows, hevents⟩ := claimBatch_ok hclaim
    have hinv := h.claim claimOwner claimExpiresAt (result.map OutboxRow.eventId) fun id hid => by
      obtain ⟨event, hevent, rfl⟩ := List.mem_map.mp hid
      exact hevents event hevent
    rw [List.map_map, ← hrows] at hinv
    refine sustains_still hs hinv ⟨fun row hrow => ?_, List.subset_append_right _ _⟩ rfl
    refine ⟨_, hrows ▸ List.mem_map_of_mem hrow, ?_⟩
    split <;> exact ⟨rfl, rfl⟩
  | loadClaimed eventId claimOwner now =>
    obtain ⟨event, hload, hperform⟩ := bind_ok.mp hperform
    cases hperform
    obtain ⟨hmem, hid⟩ := loadClaimed_ok hload
    exact ⟨h, .of_outbox rfl (List.Subset.refl _), _, ⟨hid, rfl⟩, _, hmem, hid, rfl⟩
  | xadd eventId body =>
    cases hperform
    obtain ⟨id, rfl, rfl⟩ := hallows
    have hgrows : Grows w { w with
        stream := w.stream ++ [⟨w.stream.length, String.ofList id.str, body⟩]
        history := .appended (String.ofList id.str) body :: w.history } :=
      .of_outbox rfl (List.subset_cons_self _ _)
    refine ⟨h.append _ _, hgrows, .appended id body, fun other heq => ?_, hs.grows hgrows, List.mem_cons_self⟩
    cases heq
    rfl
  | markPublished eventId claimOwner now publishedAt =>
    obtain ⟨⟨rows, event⟩, hmark, hperform⟩ := bind_ok.mp hperform
    cases hperform
    obtain ⟨payload, rfl⟩ := hallows
    obtain ⟨row, hrow, rfl, hclaimed, ⟨hpublished, hanswer⟩ | ⟨hunpublished, hanswer⟩⟩ := markPublished_ok hmark
    · cases hanswer
      have hnot : (w.outbox.any fun other => decide (other.eventId = row.eventId) && other.publishedAt.isNone) = false := by
        refine List.any_eq_false.mpr fun other hother => ?_
        by_cases heq : other.eventId = row.eventId
        · rw [h.row_unique hother hrow heq]
          simpa using Option.isSome_iff_ne_none.mp hpublished
        · simp [heq]
      rw [hnot]
      exact sustains_still hs h (.of_outbox rfl (List.Subset.refl _)) rfl
    · cases hanswer
      have hfresh : (w.outbox.any fun other => decide (other.eventId = row.eventId) && other.publishedAt.isNone) = true :=
        List.any_eq_true.mpr ⟨row, hrow, by simp [hunpublished]⟩
      rw [hfresh]
      have hheld := hs
      obtain ⟨⟨loaded, hloaded, hid, rfl⟩, happended⟩ := hheld
      rw [h.row_unique hloaded hrow hid] at happended
      refine sustains_still hs (h.publish publishedAt hrow hclaimed happended) ⟨fun other hother => ?_,
        List.subset_cons_self _ _⟩ rfl
      refine ⟨_, List.mem_map_of_mem hother, ?_⟩
      split
      · rename_i heq
        rw [h.row_unique hother hrow heq]
        exact ⟨rfl, rfl⟩
      · exact ⟨rfl, rfl⟩
  | xgroupCreate group =>
    unfold DeliveryWorld.perform at hperform
    dsimp only at hperform
    split at hperform
    · cases hperform
      exact sustains_still hs h (.of_outbox rfl (List.Subset.refl _)) rfl
    · cases hperform
      exact sustains_still hs (h.groups _) (.of_outbox rfl (List.Subset.refl _)) rfl
  | xreadgroup group count =>
    obtain ⟨found, -, hperform⟩ := bind_ok.mp hperform
    cases hperform
    exact sustains_still hs (h.groups _) (.of_outbox rfl (List.Subset.refl _)) rfl
  | xautoclaim group startId count =>
    obtain ⟨found, -, hperform⟩ := bind_ok.mp hperform
    cases hperform
    exact sustains_still hs h (.of_outbox rfl (List.Subset.refl _)) rfl
  | handle consumerName eventId body =>
    obtain ⟨tables, hhandle, hperform⟩ := bind_ok.mp hperform
    cases hperform
    obtain ⟨hinv, id, hid, hrecorded⟩ := h.handle hhandle
    exact ⟨hinv, .of_outbox rfl (List.subset_append_right _ _), _, rfl, id, hid, hrecorded⟩
  | xack consumer entry =>
    cases hperform
    have hhandled : DeliveryPhase.Holds w (.handled consumer.consumerName entry.eventId) := hallows ▸ hs
    obtain ⟨id, hid, hrecorded⟩ := hhandled
    exact sustains_still hs ((h.acknowledge hid hrecorded).groups _) (.of_outbox rfl (List.subset_cons_self _ _)) rfl

theorem moves_error (s : DeliveryPhase Body) (o : DeliveryOp Body β) (e : PyError) :
    deliveryProtocol.moves s o (.error e) s := by
  cases o <;> rfl

theorem answer_sustains (h : DeliveryInv w) (hs : s.Holds w) {o : DeliveryOp Body β} (hallows : deliveryProtocol.allows s o)
    {r : Except PyError o.Result} (hanswer : w.answer codec choice o = some (w', r)) :
    DeliveryInv w' ∧ Grows w w' ∧ ∃ s', deliveryProtocol.moves s o r s' ∧ s'.Holds w' := by
  rcases DeliveryWorld.answer_cases hanswer with ⟨rfl, e, rfl⟩ | ⟨result, hperform, hr⟩
  · exact ⟨h, .of_outbox rfl (List.Subset.refl _), s, moves_error s o e, hs⟩
  · obtain ⟨hinv, hgrows, s', hmove, hs'⟩ := perform_sustains h hs hallows hperform
    rcases hr with rfl | ⟨e, rfl⟩
    · exact ⟨hinv, hgrows, s', hmove, hs'⟩
    · exact ⟨hinv, hgrows, s, moves_error s o e, hs.grows hgrows⟩

/-- The invariant, and what every call has done is still there. -/
def DeliveryFits (w : DeliveryWorld Body β) (phases : List (DeliveryPhase Body)) : Prop :=
  DeliveryInv w ∧ ∀ s ∈ phases, s.Holds w

theorem delivery_sound (codec : EnvelopeCodec Body β) :
    (deliveryPool codec).Sound deliveryProtocol DeliveryFits .idle where
  body call := (Program.obeys_bind _ _ _).mpr (Program.Obeys.mono (fun _ _ _ => trivial) (deliveryCall_keeps call))
  call w phases hfits := by
    refine ⟨hfits.1, fun s hs => ?_⟩
    rcases List.mem_append.mp hs with hold | hnew
    · exact hfits.2 s hold
    · rw [List.mem_singleton.mp hnew]
      trivial
  answer w phases i s o choice w' r hfits hi hallows hanswer := by
    obtain ⟨hinv, hgrows, s', hmove, hs'⟩ :=
      answer_sustains hfits.1 (hfits.2 s (List.mem_of_getElem? hi)) hallows hanswer
    refine ⟨s', hmove, hinv, fun t ht => ?_⟩
    rcases List.mem_or_eq_of_mem_set ht with hold | rfl
    · exact (hfits.2 t hold).grows hgrows
    · exact hs'

theorem DeliveryInv.effectivelyOnce (h : DeliveryInv w) : EffectivelyOnce w where
  effects name id := List.nodup_iff_count_le_one.mp h.once.effects (name, id)
  published row hrow hsome := h.streamed _ _ (h.published row hrow hsome)
  recorded name id hmem := (h.recorded name id).mp hmem
  history := h.lawful

end Invariant

/-- Every run of publishers and consumers from empty stores is effectively once, in every interleaving and
with every crash, lost answer, take-over of a claim and redelivery. -/
theorem delivery_effectively_once (codec : EnvelopeCodec Body β) (events : List (Pool.Event (DeliveryCall β) DeliveryChoice)) :
    EffectivelyOnce (runFrom (deliveryPool codec).step DeliveryConfig.initial events).world := by
  obtain ⟨phases, hfits, -⟩ := (delivery_sound codec).run
    (c := DeliveryConfig.initial) ⟨[], ⟨deliveryInv_empty, fun _ h => absurd h List.not_mem_nil⟩, .nil⟩ events
  exact hfits.1.effectivelyOnce

/-- The next operations of a call all work. -/
def working (thread n : Nat) : List (Pool.Event (DeliveryCall β) DeliveryChoice) :=
  List.replicate n (.answer thread ⟨.works, [], [0, 1], 0⟩)

/-- The first publisher appends the event and crashes, the second one takes it over and appends it again:
the consumer reads it twice. -/
example :
    let codec : EnvelopeCodec (EventEnvelope Nat) Nat := ⟨id, fun _ => 0, .ok⟩
    let envelope : EventEnvelope Nat := ⟨⟨1, by decide⟩, "order.created.v1", 1, 0, 0, "trader", "order", "order",
      ⟨2, by decide⟩, 1, ⟨3, by decide⟩, none, "trace", 0⟩
    let events : List (Pool.Event (DeliveryCall Nat) DeliveryChoice) :=
      .call (.enqueue envelope 0 0) :: working 0 1 ++
      .call (.publishAvailable "first" 0 10) :: working 1 3 ++
      .call (.publishAvailable "second" 60000000 10) :: working 2 4 ++
      .call (.consumeNew ⟨"group", "consumer", 0⟩ 10) :: working 3 6
    let w := (runFrom (deliveryPool codec).step DeliveryConfig.initial events).world
    w.stream.length = 2 ∧ w.inbox.effects.length = 1 ∧ w.groups.map ConsumerGroup.pending = [[]] := by
  decide +kernel

end AutoTrader.Events
