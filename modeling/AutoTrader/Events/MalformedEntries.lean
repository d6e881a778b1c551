import AutoTrader.Binance.OrderModels
import AutoTrader.Domain.PyJson
import AutoTrader.Runtime.Execution
import AutoTrader.Runtime.Pointwise
import Mathlib.Data.List.Infix

/-! Stream entries as Redis returns them. A whole batch is decoded before its first entry is handled, so one entry
that cannot be decoded keeps every other one from the handler, and the claim cursor where it is. -/

namespace AutoTrader.Events

open AutoTrader.Binance AutoTrader.Domain AutoTrader.Runtime

/-! ### Decoding -/

/-- `str | bytes`. -/
inductive RedisText
  | str (text : PyText)
  | bytes (value : ByteArray)

/-- `_text`. -/
def RedisText.text : RedisText → Except PyError PyText
  | .str text => .ok text
  | .bytes value =>
    match String.fromUTF8? value with
    | some text => .ok (PyText.points text)
    | none => .error (valueError "invalid utf-8")

/-- An entry with its fields, whose id is ASCII. -/
structure RawEntry where
  entryId : PyText
  fields : List (RedisText × RedisText)

structure DecodedEntry where
  entryId : PyText
  eventId : PyText
  body : List (PyText × PyJson)

/-- `normalized.get(key)`: of fields of one name the last one is the one. -/
def field? (fields : List (PyText × PyText)) (key : String) : Option PyText :=
  (fields.reverse.find? fun field => decide (field.1 = PyText.points key)).map Prod.snd

/-- `_entry`. -/
def entryOf (raw : RawEntry) : Except PyError DecodedEntry := do
  let normalized ← raw.fields.mapM fun (key, value) => do
    let key ← key.text
    let value ← value.text
    pure (key, value)
  match field? normalized "event_id", field? normalized "body" with
  | some (c :: eventId), some bodyJson => do
    let decoded ← PyJson.loads bodyJson
    match decoded with
    | .obj members => pure ⟨raw.entryId, c :: eventId, members⟩
    | _ => .error (valueError "Redis stream body must be a JSON object")
  | _, _ => .error (valueError "Redis stream entry is missing event_id or body")

/-- Fields are missing, the body is no JSON, or it is no object. -/
def RawEntry.Malformed (raw : RawEntry) : Prop := ∃ e, entryOf raw = .error e

/-! ### The consumer -/

/-- The commands to Redis, and the handler. -/
inductive StreamOp
  | xgroupCreate (stream group : PyText)
  | xreadgroup (group consumer stream : PyText) (count : ℤ)
  | xautoclaim (stream group consumer : PyText) (minIdleMs : ℤ) (startId : PyText) (count : ℤ)
  | handler (eventId : PyText) (body : List (PyText × PyJson))
  | xack (stream group entryId : PyText)

abbrev StreamOp.Result : StreamOp → Type
  | xgroupCreate _ _ | handler _ _ | xack _ _ _ => Unit
  | xreadgroup _ _ _ _ => List (PyText × List RawEntry)
  | xautoclaim _ _ _ _ _ _ => PyText × List RawEntry

abbrev StreamAct := Action PyError StreamOp StreamOp.Result

structure StreamConsumer where
  stream : PyText
  group : PyText
  consumer : PyText
  claimCursor : PyText

/-- `RedisStreams.ensure_group`. -/
def ensureGroup (stream group : PyText) : StreamAct Unit :=
  (Action.perform (StreamOp.xgroupCreate stream group) : StreamAct Unit).tryCatch fun error =>
    if error.kind.isControl = false ∧ "BUSYGROUP".toList <:+: error.message.toList then pure () else throw error

/-- `RedisStreams.read_group`. -/
def readGroup (consumer : StreamConsumer) (count : ℤ) : StreamAct (List DecodedEntry) := do
  Action.ofExcept (require (0 < count) (valueError "count must be positive"))
  let rows ← (Action.perform (StreamOp.xreadgroup consumer.group consumer.consumer consumer.stream count) :
    StreamAct (List (PyText × List RawEntry)))
  Action.ofExcept ((rows.flatMap Prod.snd).mapM entryOf)

/-- `RedisStreams.claim_pending`. -/
def claimPending (consumer : StreamConsumer) (minIdleMs count : ℤ) : StreamAct (PyText × List DecodedEntry) := do
  Action.ofExcept (require (0 < minIdleMs) (valueError "min_idle_ms must be positive"))
  Action.ofExcept (require (0 < count) (valueError "count must be positive"))
  let (nextStartId, rows) ← (Action.perform (StreamOp.xautoclaim consumer.stream consumer.group consumer.consumer
    minIdleMs consumer.claimCursor count) : StreamAct (PyText × List RawEntry))
  let entries ← Action.ofExcept (rows.mapM entryOf)
  pure (nextStartId, entries)

/-- The body of the loop: what an entry raised, unless the task itself was ended. -/
def tryEntry (consumer : StreamConsumer) (entry : DecodedEntry) : StreamAct (Option PyError) :=
  (do
    (Action.perform (StreamOp.handler entry.eventId entry.body) : StreamAct Unit)
    (Action.perform (StreamOp.xack consumer.stream consumer.group entry.entryId) : StreamAct Unit)
    pure none : StreamAct (Option PyError)).tryCatch fun error =>
      if error.kind.isControl then throw error else pure (some error)

/-- `InboxConsumer._handle`. -/
def handleEach (consumer : StreamConsumer) : List DecodedEntry → Option PyError → ℕ → StreamAct ℕ
  | [], none, handled => pure handled
  | [], some firstError, _ => throw firstError
  | entry :: entries, firstError, handled => do
    match ← tryEntry consumer entry with
    | none => handleEach consumer entries firstError (handled + 1)
    | some error => handleEach consumer entries (firstError.or (some error)) handled

namespace StreamConsumer

/-- `InboxConsumer.consume_new`. -/
def consumeNew (consumer : StreamConsumer) (count : ℤ) : StreamAct ℕ := do
  ensureGroup consumer.stream consumer.group
  let entries ← readGroup consumer count
  handleEach consumer entries none 0

/-- `InboxConsumer.recover_pending`: the consumer afterwards, with its cursor, and the outcome. -/
def recoverPending (consumer : StreamConsumer) (minIdleMs count : ℤ) :
    Program PyError StreamOp StreamOp.Result (StreamConsumer × Except PyError ℕ) := do
  let claimed ← (do
    ensureGroup consumer.stream consumer.group
    claimPending consumer minIdleMs count : StreamAct (PyText × List DecodedEntry)).run
  match claimed with
  | .error error => pure (consumer, .error error)
  | .ok (nextStartId, entries) =>
    let advanced : StreamConsumer := { consumer with claimCursor := nextStartId }
    let handled ← (handleEach advanced entries none 0).run
    pure (advanced, handled)

end StreamConsumer

/-! ### What a batch gets -/

section Batches

variable {World : Type} {answer : World → (o : StreamOp) → Except PyError o.Result × World}
  {w w' : World} {consumer : StreamConsumer}

/-- Every entry that can be decoded is handed to the handler. -/
def HandsOver (trace : List ((o : StreamOp) × Except PyError o.Result)) (batch : List RawEntry) : Prop :=
  ∀ raw ∈ batch, ∀ entry, entryOf raw = .ok entry →
    ∃ answered, ⟨.handler entry.eventId entry.body, answered⟩ ∈ trace

/-- The call was cancelled, or its process ends. -/
def Ended {α : Type} (outcome : Except PyError α) : Prop :=
  ∃ e, outcome = .error e ∧ e.kind.isControl = true

theorem entryOf_error {raw : RawEntry} {e : PyError} (h : entryOf raw = .error e) : e.kind = .valueError := by
  have htext {value : RedisText} {e : PyError} (h : value.text = .error e) : e.kind = .valueError := by
    unfold RedisText.text at h
    split at h
    · cases h
    · split at h <;> cases h
      rfl
  unfold entryOf at h
  rcases bind_error.mp h with hfields | ⟨normalized, -, h⟩
  · obtain ⟨⟨key, value⟩, -, hfield⟩ := mapM_error hfields
    rcases bind_error.mp hfield with hkey | ⟨_, -, hfield⟩
    · exact htext hkey
    rcases bind_error.mp hfield with hvalue | ⟨_, -, hfield⟩
    · exact htext hvalue
    · cases hfield
  split at h
  · rcases bind_error.mp h with hloads | ⟨decoded, -, h⟩
    · unfold PyJson.loads at hloads
      split at hloads
      · cases hloads
        rfl
      split at hloads
      · cases hloads
        rfl
      split at hloads <;> cases hloads
      rfl
    · split at h <;> cases h
      rfl
  · cases h
    rfl

/-- An entry is handed to the handler, and the loop goes on unless the task is ended. -/
theorem tryEntry_hands (consumer : StreamConsumer) (entry : DecodedEntry) (w : World) :
    (∃ answered, ⟨.handler entry.eventId entry.body, answered⟩ ∈ (tryEntry consumer entry).trace answer w) ∧
      ((∃ failed w', (tryEntry consumer entry).exec answer w = (.ok failed, w')) ∨
        ∃ e w', (tryEntry consumer entry).exec answer w = (.error e, w') ∧ e.kind.isControl = true) := by
  unfold tryEntry
  rcases hbody : ((do
      (Action.perform (StreamOp.handler entry.eventId entry.body) : StreamAct Unit)
      (Action.perform (StreamOp.xack consumer.stream consumer.group entry.entryId) : StreamAct Unit)
      pure none : StreamAct (Option PyError)).exec answer w) with ⟨e | failed, w'⟩
  · rw [Action.trace_tryCatch_error _ hbody, Action.exec_tryCatch_error _ hbody]
    refine ⟨⟨_, List.mem_append_left _ (Action.mem_trace_perform.mpr (.inl rfl))⟩, ?_⟩
    split
    next hcontrol => exact .inr ⟨e, w', rfl, hcontrol⟩
    next => exact .inl ⟨some e, w', rfl⟩
  · rw [Action.trace_tryCatch_ok _ hbody, Action.exec_tryCatch_ok _ hbody]
    exact ⟨⟨_, Action.mem_trace_perform.mpr (.inl rfl)⟩, .inl ⟨failed, w', rfl⟩⟩

/-- Every entry of the loop is handed to the handler, unless the task is ended. -/
theorem handleEach_hands (entries : List DecodedEntry) (firstError : Option PyError) (handled : ℕ) (w : World) :
    (∀ entry ∈ entries, ∃ answered, ⟨.handler entry.eventId entry.body, answered⟩ ∈
        (handleEach consumer entries firstError handled).trace answer w) ∨
      Ended ((handleEach consumer entries firstError handled).exec answer w).1 := by
  induction entries generalizing firstError handled w with
  | nil => exact .inl (List.forall_mem_nil _)
  | cons entry entries ih =>
    obtain ⟨⟨answered, hhanded⟩, ⟨failed, w', hexec⟩ | ⟨e, w', hexec, hcontrol⟩⟩ :=
      @tryEntry_hands World answer consumer entry w
    · have hboth {rest : StreamAct ℕ} (hrest : ∀ other ∈ entries, ∃ answered,
          ⟨.handler other.eventId other.body, answered⟩ ∈ rest.trace answer w') :
          ∀ other ∈ entry :: entries, ∃ answered, ⟨.handler other.eventId other.body, answered⟩ ∈
            (tryEntry consumer entry).trace answer w ++ rest.trace answer w' := by
        refine List.forall_mem_cons.mpr ⟨⟨answered, List.mem_append_left _ hhanded⟩, fun other hother => ?_⟩
        obtain ⟨answered, hmem⟩ := hrest other hother
        exact ⟨answered, List.mem_append_right _ hmem⟩
      rw [handleEach, Action.trace_bind_ok _ hexec, Action.exec_bind_ok _ hexec]
      cases failed with
      | none => exact (ih firstError (handled + 1) w').imp_left hboth
      | some error => exact (ih (firstError.or (some error)) handled w').imp_left hboth
    · rw [handleEach, Action.exec_bind_error _ hexec]
      exact .inr ⟨e, rfl, hcontrol⟩

/-- A batch is decoded where none of its entries is malformed. -/
theorem decodes_or_malformed (batch : List RawEntry) :
    (∃ entries, batch.mapM entryOf = .ok entries ∧ ∀ raw ∈ batch, ¬ raw.Malformed) ∨
      ∃ e, batch.mapM entryOf = .error e ∧ e.kind.isControl = false ∧ ∃ raw ∈ batch, raw.Malformed := by
  cases hbatch : batch.mapM entryOf with
  | ok entries =>
    refine .inl ⟨entries, rfl, ?_⟩
    rintro raw hraw ⟨e, herror⟩
    obtain ⟨entry, hentry⟩ := exists_of_mapM_ok hbatch hraw
    rw [hentry] at herror
    cases herror
  | error e =>
    obtain ⟨raw, hraw, herror⟩ := mapM_error hbatch
    refine .inr ⟨e, rfl, ?_, raw, hraw, e, herror⟩
    rw [entryOf_error herror]
    rfl

/-- An operation other than a call of the handler. -/
def StreamOp.Unhandled (o : StreamOp) : Prop := ∀ eventId body, o ≠ .handler eventId body

theorem ensureGroup_unhandled (stream group : PyText) : (ensureGroup stream group).Within StreamOp.Unhandled := by
  refine .tryCatch (Action.within_perform fun _ _ => nofun) fun error => ?_
  split
  · exact Action.within_pure ()
  · exact Action.within_throw error

theorem readGroup_unhandled (consumer : StreamConsumer) (count : ℤ) :
    (readGroup consumer count).Within StreamOp.Unhandled :=
  .bind (Action.within_ofExcept _) fun _ =>
    .bind (Action.within_perform fun _ _ => nofun) fun _ => Action.within_ofExcept _

theorem claimPending_unhandled (consumer : StreamConsumer) (minIdleMs count : ℤ) :
    (claimPending consumer minIdleMs count).Within StreamOp.Unhandled :=
  .bind (Action.within_ofExcept _) fun _ => .bind (Action.within_ofExcept _) fun _ =>
    .bind (Action.within_perform fun _ _ => nofun) fun _ =>
      .bind (Action.within_ofExcept _) fun _ => Action.within_pure _

theorem HandsOver.mono {batch : List RawEntry} {trace trace' : List ((o : StreamOp) × Except PyError o.Result)}
    (h : HandsOver trace batch) (hsub : trace ⊆ trace') : HandsOver trace' batch := by
  intro raw hraw entry hentry
  obtain ⟨answered, hmem⟩ := h raw hraw entry hentry
  exact ⟨answered, hsub hmem⟩

/-- The entries of a decoded batch are those of the loop. -/
theorem handsOver_decoded {batch : List RawEntry} {entries : List DecodedEntry}
    {trace : List ((o : StreamOp) × Except PyError o.Result)} (hentries : batch.mapM entryOf = .ok entries)
    (hhanded : ∀ entry ∈ entries, ∃ answered, ⟨.handler entry.eventId entry.body, answered⟩ ∈ trace) :
    HandsOver trace batch :=
  fun _ hraw entry hentry => hhanded entry (result_mem_of_mapM_ok hentries hraw hentry)

/-- Without a call of the handler only a batch without a well-formed entry is handed over. -/
theorem handsOver_unhandled {batch : List RawEntry} {trace : List ((o : StreamOp) × Except PyError o.Result)}
    (htrace : ∀ event ∈ trace, event.1.Unhandled) :
    HandsOver trace batch ↔ ∀ raw ∈ batch, raw.Malformed := by
  constructor
  · intro hhands raw hraw
    cases hentry : entryOf raw with
    | error e => exact ⟨e, hentry⟩
    | ok entry =>
      obtain ⟨answered, hmem⟩ := hhands raw hraw entry hentry
      exact absurd rfl (htrace _ hmem _ _)
  · intro hall raw hraw entry hentry
    obtain ⟨e, herror⟩ := hall raw hraw
    rw [hentry] at herror
    cases herror

variable {w₁ w₂ w₃ : World} {count minIdleMs : ℤ} {rows : List (PyText × List RawEntry)} {nextStartId : PyText}
  {claimed : List RawEntry}

theorem readGroup_exec (hcount : 0 < count)
    (hread : answer w₁ (.xreadgroup consumer.group consumer.consumer consumer.stream count) = (.ok rows, w₂)) :
    (readGroup consumer count).exec answer w₁ = ((rows.flatMap Prod.snd).mapM entryOf, w₂) := by
  have hrows : (Action.perform (StreamOp.xreadgroup consumer.group consumer.consumer consumer.stream count) :
      StreamAct (List (PyText × List RawEntry))).exec answer w₁ = (.ok rows, w₂) := hread
  have hchecked : require (0 < count) (valueError "count must be positive") = .ok () := if_pos (decide_eq_true hcount)
  unfold readGroup
  rw [Action.exec_ofExcept_bind hchecked, Action.exec_bind_ok _ hrows]
  rfl

theorem claimPending_exec (hidle : 0 < minIdleMs) (hcount : 0 < count)
    (hclaim : answer w₁ (.xautoclaim consumer.stream consumer.group consumer.consumer minIdleMs consumer.claimCursor
      count) = (.ok (nextStartId, claimed), w₃)) :
    (claimPending consumer minIdleMs count).exec answer w₁ =
      ((claimed.mapM entryOf).map fun entries => (nextStartId, entries), w₃) := by
  have hrows : (Action.perform (StreamOp.xautoclaim consumer.stream consumer.group consumer.consumer minIdleMs
      consumer.claimCursor count) : StreamAct (PyText × List RawEntry)).exec answer w₁ =
        (.ok (nextStartId, claimed), w₃) := hclaim
  have hidleChecked : require (0 < minIdleMs) (valueError "min_idle_ms must be positive") = .ok () :=
    if_pos (decide_eq_true hidle)
  have hchecked : require (0 < count) (valueError "count must be positive") = .ok () := if_pos (decide_eq_true hcount)
  unfold claimPending
  rw [Action.exec_ofExcept_bind hidleChecked, Action.exec_ofExcept_bind hchecked, Action.exec_bind_ok _ hrows]
  dsimp only
  cases claimed.mapM entryOf <;> rfl

theorem consumeNew_iff (hgroup : (ensureGroup consumer.stream consumer.group).exec answer w = (.ok (), w₁))
    (hcount : 0 < count)
    (hread : answer w₁ (.xreadgroup consumer.group consumer.consumer consumer.stream count) = (.ok rows, w₂)) :
    (HandsOver ((consumer.consumeNew count).trace answer w) (rows.flatMap Prod.snd) ∨
        Ended ((consumer.consumeNew count).exec answer w).1) ↔
      (∀ raw ∈ rows.flatMap Prod.snd, ¬ raw.Malformed) ∨ ∀ raw ∈ rows.flatMap Prod.snd, raw.Malformed := by
  have hfetch := readGroup_exec hcount hread
  unfold StreamConsumer.consumeNew
  rw [Action.exec_bind_ok _ hgroup, Action.trace_bind_ok _ hgroup]
  obtain ⟨entries, hentries, hnone⟩ | ⟨e, herror, hcontrol, raw, hraw, hmalformed⟩ :=
    decodes_or_malformed (rows.flatMap Prod.snd)
  · rw [hentries] at hfetch
    rw [Action.exec_bind_ok _ hfetch, Action.trace_bind_ok _ hfetch, ← List.append_assoc]
    refine iff_of_true ((handleEach_hands entries none 0 w₂).imp_left fun hhanded => ?_) (.inl hnone)
    exact (handsOver_decoded hentries hhanded).mono (List.subset_append_right _ _)
  · rw [herror] at hfetch
    rw [Action.exec_bind_error _ hfetch, Action.trace_bind_error _ hfetch, handsOver_unhandled fun event hevent => ?_]
    · constructor
      · rintro (hall | ⟨_, heq, hended⟩)
        · exact .inr hall
        · cases heq
          rw [hcontrol] at hended
          cases hended
      · rintro (hnone | hall)
        · exact absurd hmalformed (hnone raw hraw)
        · exact .inl hall
    · rcases List.mem_append.mp hevent with hgroup | hread
      · exact Action.trace_within (ensureGroup_unhandled _ _) w hgroup
      · exact Action.trace_within (readGroup_unhandled consumer count) w₁ hread

theorem recoverPending_iff (hgroup : (ensureGroup consumer.stream consumer.group).exec answer w = (.ok (), w₁))
    (hidle : 0 < minIdleMs) (hcount : 0 < count)
    (hclaim : answer w₁ (.xautoclaim consumer.stream consumer.group consumer.consumer minIdleMs consumer.claimCursor
      count) = (.ok (nextStartId, claimed), w₃)) :
    ((HandsOver ((consumer.recoverPending minIdleMs count).trace answer w) claimed ∨
          Ended ((consumer.recoverPending minIdleMs count).exec answer w).1.2) ∧
        ((consumer.recoverPending minIdleMs count).exec answer w).1.1.claimCursor = nextStartId) ↔
      (∀ raw ∈ claimed, ¬ raw.Malformed) ∨
        (∀ raw ∈ claimed, raw.Malformed) ∧ consumer.claimCursor = nextStartId := by
  have hfetch : (ensureGroup consumer.stream consumer.group >>= fun _ => claimPending consumer minIdleMs count).exec
      answer w = ((claimed.mapM entryOf).map fun entries => (nextStartId, entries), w₃) := by
    rw [Action.exec_bind_ok _ hgroup, claimPending_exec hidle hcount hclaim]
  have hfetching : ∀ event ∈ (ensureGroup consumer.stream consumer.group >>= fun _ =>
      claimPending consumer minIdleMs count).trace answer w, event.1.Unhandled := fun event =>
    Action.trace_within ((ensureGroup_unhandled _ _).bind fun _ => claimPending_unhandled consumer minIdleMs count) w
  unfold Action.exec at hfetch
  unfold StreamConsumer.recoverPending
  rw [Program.exec_bind, Program.trace_bind, hfetch]
  obtain ⟨entries, hentries, hnone⟩ | ⟨e, herror, hcontrol, raw, hraw, hmalformed⟩ := decodes_or_malformed claimed
  · rw [hentries]
    dsimp only [Except.map]
    rw [Program.exec_bind, Program.trace_bind]
    refine iff_of_true ⟨(handleEach_hands entries none 0 w₃).imp_left fun hhanded => ?_, rfl⟩ (.inl hnone)
    refine (handsOver_decoded hentries hhanded).mono fun event hevent => ?_
    exact List.mem_append_right _ (List.mem_append_left _ hevent)
  · rw [herror]
    have hnothing : Program.trace answer w ((ensureGroup consumer.stream consumer.group >>= fun _ =>
        claimPending consumer minIdleMs count).run) ++ [] = Action.trace answer w
          (ensureGroup consumer.stream consumer.group >>= fun _ => claimPending consumer minIdleMs count) :=
      List.append_nil _
    show (HandsOver (_ ++ []) claimed ∨ Ended (.error e : Except PyError ℕ)) ∧ consumer.claimCursor = nextStartId ↔ _
    rw [hnothing, handsOver_unhandled hfetching]
    constructor
    · rintro ⟨hall | ⟨_, heq, hended⟩, hcursor⟩
      · exact .inr ⟨hall, hcursor⟩
      · cases heq
        rw [hcontrol] at hended
        cases hended
    · rintro (hnone | ⟨hall, hcursor⟩)
      · exact absurd hmalformed (hnone raw hraw)
      · exact ⟨.inl hall, hcursor⟩

/-- New entries reach the handler whatever stands beside them, and the claim cursor advances, if and only if the
batch holds no malformed entry, or nothing but malformed ones with a cursor that has nowhere to go. -/
theorem malformed_entries_isolated_iff
    (hgroup : (ensureGroup consumer.stream consumer.group).exec answer w = (.ok (), w₁))
    (hidle : 0 < minIdleMs) (hcount : 0 < count)
    (hread : answer w₁ (.xreadgroup consumer.group consumer.consumer consumer.stream count) = (.ok rows, w₂))
    (hclaim : answer w₁ (.xautoclaim consumer.stream consumer.group consumer.consumer minIdleMs consumer.claimCursor
      count) = (.ok (nextStartId, claimed), w₃)) :
    ((HandsOver ((consumer.consumeNew count).trace answer w) (rows.flatMap Prod.snd) ∨
          Ended ((consumer.consumeNew count).exec answer w).1) ↔
        (∀ raw ∈ rows.flatMap Prod.snd, ¬ raw.Malformed) ∨ ∀ raw ∈ rows.flatMap Prod.snd, raw.Malformed) ∧
      (((HandsOver ((consumer.recoverPending minIdleMs count).trace answer w) claimed ∨
            Ended ((consumer.recoverPending minIdleMs count).exec answer w).1.2) ∧
          ((consumer.recoverPending minIdleMs count).exec answer w).1.1.claimCursor = nextStartId) ↔
        (∀ raw ∈ claimed, ¬ raw.Malformed) ∨
          (∀ raw ∈ claimed, raw.Malformed) ∧ consumer.claimCursor = nextStartId) :=
  ⟨consumeNew_iff hgroup hcount hread, recoverPending_iff hgroup hidle hcount hclaim⟩

end Batches

/-! ### A batch with one malformed entry -/

/-- Redis with one batch to return, new or pending. -/
def batchRedis (batch : List RawEntry) (w : Unit) (o : StreamOp) : Except PyError o.Result × Unit :=
  match o with
  | .xgroupCreate _ _ => (.ok (), w)
  | .xreadgroup _ _ stream _ => (.ok [(stream, batch)], w)
  | .xautoclaim _ _ _ _ _ _ => (.ok (PyText.points "7-0", batch), w)
  | .handler _ _ => (.ok (), w)
  | .xack _ _ _ => (.ok (), w)

def batchConsumer : StreamConsumer where
  stream := PyText.points "events"
  group := PyText.points "ledger"
  consumer := PyText.points "one"
  claimCursor := PyText.points "0-0"

theorem batchRedis_group (batch : List RawEntry) :
    (ensureGroup batchConsumer.stream batchConsumer.group).exec (batchRedis batch) () = (.ok (), ()) := rfl

theorem batchRedis_read (batch : List RawEntry) :
    batchRedis batch () (.xreadgroup batchConsumer.group batchConsumer.consumer batchConsumer.stream 10) =
      (.ok [(batchConsumer.stream, batch)], ()) := rfl

theorem batchRedis_claim (batch : List RawEntry) :
    batchRedis batch () (.xautoclaim batchConsumer.stream batchConsumer.group batchConsumer.consumer 1
      batchConsumer.claimCursor 10) = (.ok (PyText.points "7-0", batch), ()) := rfl

/-- An entry with an event id and a body. -/
def bodyEntry (entryId body : String) : RawEntry where
  entryId := PyText.points entryId
  fields := [(.str (PyText.points "event_id"), .str (PyText.points "event")),
    (.str (PyText.points "body"), .str (PyText.points body))]

theorem bodyEntry_decoded : (entryOf (bodyEntry "5-0" "\x7b\x7d")).isOk = true := by decide +kernel

theorem bodyEntry_malformed : (entryOf (bodyEntry "6-0" "[]")).isOk = false := by decide +kernel

theorem entryOf_isOk {raw : RawEntry} (h : (entryOf raw).isOk = true) : ¬ raw.Malformed := by
  rintro ⟨e, herror⟩
  rw [herror] at h
  cases h

theorem malformed_entries_isolated_one :
    HandsOver ((batchConsumer.consumeNew 10).trace (batchRedis [bodyEntry "5-0" "\x7b\x7d"]) ())
        [bodyEntry "5-0" "\x7b\x7d"] ∨
      Ended ((batchConsumer.consumeNew 10).exec (batchRedis [bodyEntry "5-0" "\x7b\x7d"]) ()).1 := by
  refine (malformed_entries_isolated_iff (batchRedis_group _) (by decide) (by decide) (batchRedis_read _)
    (batchRedis_claim _)).1.mpr (.inl fun raw hraw => ?_)
  rw [List.mem_singleton.mp hraw]
  exact entryOf_isOk bodyEntry_decoded

/-- The first entry is well formed, the body of the second one is a list. -/
def mixedBatch : List RawEntry := [bodyEntry "5-0" "\x7b\x7d", bodyEntry "6-0" "[]"]

theorem mixedBatch_mixed : ¬ ((∀ raw ∈ mixedBatch, ¬ raw.Malformed) ∨ ∀ raw ∈ mixedBatch, raw.Malformed) := by
  rintro (hnone | hall)
  · refine hnone _ (List.mem_cons_of_mem _ List.mem_cons_self) ?_
    cases hentry : entryOf (bodyEntry "6-0" "[]") with
    | error e => exact ⟨e, hentry⟩
    | ok entry =>
      have hrefused := bodyEntry_malformed
      rw [hentry] at hrefused
      cases hrefused
  · exact entryOf_isOk bodyEntry_decoded (hall _ List.mem_cons_self)

/-- Nothing of the batch is handed over, by a new read or a recovery, and the cursor stays. -/
theorem malformed_entry_holds_back :
    ¬ (HandsOver ((batchConsumer.consumeNew 10).trace (batchRedis mixedBatch) ()) mixedBatch ∨
        Ended ((batchConsumer.consumeNew 10).exec (batchRedis mixedBatch) ()).1) ∧
      ¬ ((HandsOver ((batchConsumer.recoverPending 1 10).trace (batchRedis mixedBatch) ()) mixedBatch ∨
          Ended ((batchConsumer.recoverPending 1 10).exec (batchRedis mixedBatch) ()).1.2) ∧
        ((batchConsumer.recoverPending 1 10).exec (batchRedis mixedBatch) ()).1.1.claimCursor =
          PyText.points "7-0") := by
  constructor
  · intro h
    exact mixedBatch_mixed ((consumeNew_iff (batchRedis_group _) (by decide) (batchRedis_read _)).mp h)
  · intro h
    have hcondition := (recoverPending_iff (batchRedis_group _) (by decide) (by decide) (batchRedis_claim _)).mp h
    exact mixedBatch_mixed (hcondition.imp_right And.left)

end AutoTrader.Events
