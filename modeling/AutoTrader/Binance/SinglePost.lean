import AutoTrader.Binance.OrderService
import AutoTrader.Runtime.Pool

/-! How often an order is posted. Any number of submissions and recoveries interleave on
one durable table; a client order id is posted again only after its last attempt failed
before the send and was recorded as not sent. -/

namespace AutoTrader.Binance

open AutoTrader.Domain AutoTrader.Execution AutoTrader.Runtime

/-! ### The log of attempts -/

/-- `ended` carries the exception the transport raised, if it raised one. -/
inductive PostEvent
  | posted (thread : Nat) (clientOrderId : String) (request : BrokerRequest)
  | ended (thread : Nat) (raised : Option PyError)
  | recordedNotSent (thread : Nat) (clientOrderId : String)
  deriving DecidableEq

namespace PostEvent

def postOf (clientOrderId : String) : PostEvent → Option Nat
  | posted thread other _ => if other = clientOrderId then some thread else none
  | _ => none

/-- The thread of the last attempt for a client order id, and what happened since. -/
def lastAttempt (clientOrderId : String) (log : List PostEvent) : Option (Nat × List PostEvent) :=
  log.foldl (fun last e =>
    match e.postOf clientOrderId with
    | some thread => some (thread, [])
    | none => last.map fun (thread, since) => (thread, since ++ [e])) none

/-- The last attempt, if there was one, ended before the send and was recorded so. -/
def MayPost (clientOrderId : String) (log : List PostEvent) : Prop :=
  ∀ thread since, lastAttempt clientOrderId log = some (thread, since) →
    ∃ e : PyError, e.kind = .binanceUsdmPreSendFailure ∧
      [ended thread (some e), recordedNotSent thread clientOrderId].Sublist since

variable {clientOrderId : String} {log : List PostEvent}

@[simp] theorem lastAttempt_concat (e : PostEvent) :
    lastAttempt clientOrderId (log ++ [e]) =
      match e.postOf clientOrderId with
      | some thread => some (thread, [])
      | none => (lastAttempt clientOrderId log).map fun (thread, since) => (thread, since ++ [e]) := by
  simp [lastAttempt, List.foldl_append]

theorem lastAttempt_append {before between : List PostEvent} {thread : Nat} {request : BrokerRequest}
    (h : ∀ e ∈ between, e.postOf clientOrderId = none) :
    lastAttempt clientOrderId (before ++ posted thread clientOrderId request :: between) =
      some (thread, between) := by
  induction between using List.reverseRecOn with
  | nil => simp [postOf]
  | append_singleton between e ih =>
    have hassoc : before ++ posted thread clientOrderId request :: (between ++ [e]) =
        (before ++ posted thread clientOrderId request :: between) ++ [e] := by simp
    have hbetween := ih fun e' he' => h e' (by simp [he'])
    rw [hassoc, lastAttempt_concat, h e (by simp), hbetween]
    rfl

theorem MayPost.concat {e : PostEvent} (h : MayPost clientOrderId log)
    (he : e.postOf clientOrderId = none) : MayPost clientOrderId (log ++ [e]) := by
  intro thread since hlast
  rw [lastAttempt_concat, he] at hlast
  obtain ⟨⟨u, before⟩, hlast', heq⟩ := Option.map_eq_some_iff.mp hlast
  cases heq
  obtain ⟨error, hkind, hsub⟩ := h _ _ hlast'
  exact ⟨error, hkind, hsub.trans (List.sublist_append_left before [e])⟩

end PostEvent

open PostEvent

/-- Every attempt in the log was allowed when it started. -/
def EachAllowed (log : List PostEvent) : Prop :=
  ∀ before thread clientOrderId request after,
    log = before ++ posted thread clientOrderId request :: after → MayPost clientOrderId before

theorem EachAllowed.concat {log : List PostEvent} {e : PostEvent} (h : EachAllowed log)
    (he : ∀ thread clientOrderId request, e = posted thread clientOrderId request →
      MayPost clientOrderId log) : EachAllowed (log ++ [e]) := by
  intro before thread clientOrderId request after heq
  rcases List.eq_nil_or_concat after with rfl | ⟨after', last, rfl⟩
  · obtain ⟨hlog, hlast⟩ := List.append_inj' heq rfl
    rw [← hlog]
    exact he thread clientOrderId request (List.singleton_inj.mp hlast)
  · have hassoc : before ++ posted thread clientOrderId request :: (after' ++ [last]) =
        (before ++ posted thread clientOrderId request :: after') ++ [last] := by simp
    rw [List.concat_eq_append, hassoc] at heq
    exact h before thread clientOrderId request after' (List.append_inj' heq rfl).1

/-! ### The world -/

structure PostWorld where
  orders : OrderTable
  log : List PostEvent

/-- What the environment decides about an operation. A store operation raises before or
after it took effect, or does what the store does. -/
inductive PostChoice
  | proceed
  | failBefore (e : PyError)
  | failAfter (e : PyError)
  | clock (value : DateTime)
  | authority (value : NormalOrderAuthority)
  | response (answer : Except PyError BrokerResponse)

namespace PostWorld

/-- One atomic store operation, with what it leaves in the log when it takes effect. -/
def transact {α : Type} (w : PostWorld) (entries : List PostEvent)
    (outcome : Except PyError (OrderTable × α)) : PostChoice → Option (PostWorld × Except PyError α)
  | .proceed =>
    match outcome with
    | .ok (t, a) => some (⟨t, w.log ++ entries⟩, .ok a)
    | .error e => some (w, .error e)
  | .failBefore e => some (w, .error e)
  | .failAfter e =>
    match outcome with
    | .ok (t, _) => some (⟨t, w.log ++ entries⟩, .error e)
    | .error _ => some (w, .error e)
  | _ => none

/-- A store operation took effect, whatever the caller is told, or changed nothing. -/
theorem transact_cases {α : Type} {w w' : PostWorld} {entries : List PostEvent}
    {outcome : Except PyError (OrderTable × α)} {choice : PostChoice} {r : Except PyError α}
    (h : w.transact entries outcome choice = some (w', r)) :
    (w' = w ∧ ∃ e, r = .error e) ∨
    (∃ t a, outcome = .ok (t, a) ∧ w' = ⟨t, w.log ++ entries⟩ ∧ (r = .ok a ∨ ∃ e, r = .error e)) := by
  cases choice <;> simp only [transact] at h
  · split at h <;> cases h
    · exact .inr ⟨_, _, rfl, rfl, .inl rfl⟩
    · exact .inl ⟨rfl, _, rfl⟩
  · cases h
    exact .inl ⟨rfl, _, rfl⟩
  · split at h <;> cases h
    · exact .inr ⟨_, _, rfl, rfl, .inr ⟨_, rfl⟩⟩
    · exact .inl ⟨rfl, _, rfl⟩
  all_goals cases h

def record (w : PostWorld) (e : PostEvent) : PostWorld :=
  { w with log := w.log ++ [e] }

end PostWorld

/-- The exception an operation ended with. -/
def raised? {α : Type} : Except PyError α → Option PyError
  | .ok _ => none
  | .error e => some e

section System

variable (sha256 : String → Digest)

def answerOrder (w : PostWorld) (thread : Nat) :
    (o : OrderOp) → PostChoice → Option (PostWorld × Except PyError o.Result)
  | .clock, .clock value => some (w, .ok value)
  | .clock, .failBefore e => some (w, .error e)
  | .loadAuthority _, .authority value => some (w, .ok value)
  | .loadAuthority _, .failBefore e => some (w, .error e)
  | .prepare record, choice => w.transact [] (prepare sha256 w.orders record) choice
  | .loadByClientId id, choice =>
    w.transact [] ((loadByClientId sha256 w.orders id).map fun record => (w.orders, record)) choice
  | .markNotSent id digest, choice =>
    w.transact [recordedNotSent thread id] (markNotSent sha256 w.orders id digest) choice
  | .finish id state result, choice => w.transact [] (finish sha256 w.orders id state result) choice
  | .startPost id request, .proceed => some (w.record (posted thread id request), .ok ())
  | .endPost, .response r => some (w.record (ended thread (raised? r)), r)
  | .get _, .response r => some (w, r)
  | _, _ => none

inductive OrderCall
  | submitLocked (command : BrokerOrderCommand)
  | recoverByClientId (clientOrderId : String)

def OrderCall.act : OrderCall → OrderAct BrokerWriteResult
  | submitLocked command => Binance.submitLocked sha256 command
  | recoverByClientId clientOrderId => Binance.recoverByClientId sha256 clientOrderId

/-- Calls of the order service on one table, interleaved at every operation. -/
def orderPool : Pool PyError OrderOp OrderOp.Result PostWorld OrderCall PostChoice where
  body := fun call => do
    let _ ← (call.act sha256).run
    pure ()
  answer := answerOrder sha256

end System

abbrev OrderConfig := Pool.Config PyError OrderOp OrderOp.Result PostWorld

abbrev OrderEvent := Pool.Event OrderCall PostChoice

/-- Nobody is calling and nothing was posted yet. -/
def OrderConfig.Fresh (c : OrderConfig) : Prop :=
  c.threads = [] ∧ c.world.log = []

/-! ### The protocol of a call -/

/-- A call owns a client order id from its claim until the attempt is recorded as not
sent, and otherwise for ever. -/
inductive PostPhase
  | idle
  | claimed (clientOrderId : String)
  | posted (clientOrderId : String)
  | failedBeforeSend (clientOrderId : String)

def PostPhase.owned : PostPhase → Option String
  | idle => none
  | claimed id | posted id | failedBeforeSend id => some id

def postProtocol : Protocol PyError OrderOp OrderOp.Result PostPhase where
  allows s
    | .prepare _ => s = .idle
    | .startPost id request => s = .claimed id ∧ request.Creates id
    | .endPost => ∃ id, s = .posted id
    | .markNotSent id _ => s = .failedBeforeSend id
    | .finish _ state _ => state ≠ .notSent
    | _ => True
  moves s o r s' :=
    match o, r with
    | .prepare record, .ok claim =>
      if claim.acquired then
        claim.record.clientOrderId = record.clientOrderId ∧ s' = .claimed record.clientOrderId
      else s' = s
    | .startPost id _, _ => s' = .posted id
    | .endPost, .error e =>
      ∀ id, s = .posted id → s' = if e.kind = .binanceUsdmPreSendFailure then .failedBeforeSend id else s
    | .markNotSent _ _, _ => s' = .idle ∨ s' = s
    | _, _ => s' = s
  ends _ := True

/-- The operations that neither claim, nor post, nor record an attempt as not sent. -/
def readsOrAnswers : OrderOp → Prop
  | .prepare _ | .startPost _ _ | .endPost | .markNotSent _ _ => False
  | .finish _ state _ => state ≠ .notSent
  | _ => True

theorem postProtocol_neutral (s : PostPhase) (o : OrderOp) (h : readsOrAnswers o) :
    postProtocol.allows s o ∧ ∀ r s', postProtocol.moves s o r s' → s' = s := by
  cases o with
  | prepare record => exact h.elim
  | startPost id request => exact h.elim
  | endPost => exact h.elim
  | markNotSent id digest => exact h.elim
  | finish id state result => exact ⟨h, fun _ _ hmove => hmove⟩
  | _ => exact ⟨trivial, fun _ _ hmove => hmove⟩

/-! ### What the parts of a call do -/

variable {sha256 : String → Digest} {record : NormalOrderRecord} {response : BrokerResponse}
  {clientOrderId : String}

theorem markAmbiguous_within : (markAmbiguous clientOrderId).Within readsOrAnswers :=
  Action.Within.bind (Action.within_perform (by simp [readsOrAnswers])) fun _ => Action.within_pure _

theorem acknowledge_within {result : BrokerWriteResult} :
    (acknowledge clientOrderId result).Within readsOrAnswers :=
  Action.Within.bind (Action.within_perform (by simp [readsOrAnswers])) fun _ => Action.within_pure _

theorem readResult_within {recovered : Bool} :
    (readResult response record recovered).Within readsOrAnswers := by
  refine Action.Within.bind (Action.within_ofExcept _) fun order => ?_
  refine Action.Within.bind (Action.within_perform trivial) fun trades => ?_
  refine Action.Within.bind (Action.within_ofExcept _) fun _ => ?_
  refine Action.Within.bind (Action.within_ofExcept _) fun fills => ?_
  exact Action.Within.bind (Action.within_ofExcept _) fun _ => Action.within_pure _

theorem acceptPostResponse_within : (acceptPostResponse record response).Within readsOrAnswers := by
  unfold acceptPostResponse
  have hunknown : ∀ e : PyError, (do markAmbiguous record.clientOrderId; throw e :
      OrderAct BrokerWriteResult).Within readsOrAnswers :=
    fun e => markAmbiguous_within.bind fun _ => Action.within_throw e
  split
  · exact hunknown _
  split
  · exact Action.Within.bind (Action.within_perform (by simp [readsOrAnswers]))
      fun _ => Action.within_throw _
  split
  · exact hunknown _
  · exact (readResult_within.tryCatch fun _ => hunknown _).bind fun _ => acknowledge_within

theorem recoverFromVenue_within : (recoverFromVenue record clientOrderId).Within readsOrAnswers := by
  refine Action.Within.bind (Action.Within.tryCatch (Action.within_perform trivial)
    fun _ => Action.within_throw _) fun response => ?_
  split
  · exact Action.within_throw _
  split
  · exact Action.within_throw _
  · exact (readResult_within.tryCatch fun _ => Action.within_throw _).bind fun _ => acknowledge_within

theorem recoverByClientId_within :
    (recoverByClientId sha256 clientOrderId).Within readsOrAnswers := by
  refine Action.Within.bind (Action.within_ofExcept _) fun _ => ?_
  refine Action.Within.bind (Action.within_perform trivial) fun found => ?_
  cases found with
  | none => exact Action.within_throw _
  | some record =>
    refine Action.Within.bind (Action.within_ofExcept _) fun _ => ?_
    refine Action.Within.bind (Action.within_ofExcept _) fun known => ?_
    cases known with
    | none => exact recoverFromVenue_within
    | some result => exact Action.within_pure _

theorem existingOrRecover_within : (existingOrRecover sha256 record).Within readsOrAnswers := by
  refine Action.Within.bind (Action.within_ofExcept _) fun known => ?_
  cases known with
  | none => exact recoverByClientId_within
  | some result => exact Action.within_pure _

/-- Once nothing but reading and answering is left, the call stays where it is. -/
theorem keeps_of_within {α : Type} {x : OrderAct α} (hx : x.Within readsOrAnswers) (s : PostPhase) :
    x.Keeps postProtocol s (fun s' _ => s' = s) (fun _ _ => True) :=
  (hx.keeps (postProtocol_neutral s)).mono (fun _ _ h => h) fun _ _ _ => trivial

theorem ends_of_within {α : Type} {x : OrderAct α} (hx : x.Within readsOrAnswers) (s : PostPhase) :
    x.Keeps postProtocol s (fun _ _ => True) (fun _ _ => True) :=
  (keeps_of_within hx s).mono (fun _ _ _ => trivial) fun _ _ h => h

theorem postFailed_keeps (caught : PyError) {s : PostPhase}
    (hs : caught.kind = .binanceUsdmPreSendFailure → s = .failedBeforeSend record.clientOrderId) :
    (postFailed record caught).Keeps postProtocol s (fun _ _ => True) (fun _ _ => True) := by
  unfold postFailed
  split
  · rename_i hkind
    rw [hs hkind]
    refine .bind (m := fun _ _ => True) ?_ fun _ _ _ => trivial
    exact (Action.keeps_perform ..).mpr ⟨rfl, fun _ _ _ => trivial, fun _ _ _ => trivial⟩
  · exact ends_of_within (markAmbiguous_within.bind fun _ => Action.within_throw _) s

theorem postClaimed_keeps {request : BrokerRequest} (hrequest : request.Creates record.clientOrderId) :
    (postClaimed record request).Keeps postProtocol (.claimed record.clientOrderId)
      (fun _ _ => True) (fun _ _ => True) := by
  refine .bind (m := fun s _ => s = .posted record.clientOrderId) ?_ fun s _ hs => ?_
  · exact (Action.keeps_perform ..).mpr ⟨⟨rfl, hrequest⟩, fun _ _ hmove => hmove, fun _ _ _ => trivial⟩
  subst hs
  refine .bind (m := fun _ _ => True) ?_ fun s response _ => ends_of_within acceptPostResponse_within s
  refine .tryCatch (c := fun s e => e.kind = .binanceUsdmPreSendFailure →
    s = .failedBeforeSend record.clientOrderId) ?_ fun s e hs => postFailed_keeps e hs
  refine (Action.keeps_perform ..).mpr ⟨⟨_, rfl⟩, fun _ _ _ => trivial, fun e s' hmove hkind => ?_⟩
  have hs' := hmove _ rfl
  rwa [if_pos hkind] at hs'

theorem claimAndPost_keeps (command : BrokerOrderCommand) (now : Instant) :
    (claimAndPost sha256 command now).Keeps postProtocol .idle (fun _ _ => True) (fun _ _ => True) := by
  refine (keeps_of_within (Action.within_perform (show readsOrAnswers (.loadAuthority command) from trivial)) _).bind
    fun s authority hs => ?_
  subst hs
  refine .bind (m := fun s prepared => s = .idle ∧ prepared.1.Creates prepared.2.clientOrderId) ?_
    fun s prepared hprepared => ?_
  · exact (Action.keeps_ofExcept ..).mpr
      ⟨fun prepared hprepared => ⟨rfl, preparedRequest_creates hprepared⟩, fun _ _ => trivial⟩
  obtain ⟨rfl, hcreates⟩ := hprepared
  refine .bind (m := fun s claim => claim.acquired = true →
    claim.record.clientOrderId = prepared.2.clientOrderId ∧ s = .claimed prepared.2.clientOrderId)
    ?_ fun s claim hs => ?_
  · refine (Action.keeps_perform ..).mpr ⟨rfl, fun claim s' hmove hacquired => ?_, fun _ _ _ => trivial⟩
    simpa only [postProtocol, if_pos hacquired] using hmove
  · split
    · rename_i hacquired
      obtain ⟨hid, hs⟩ := hs hacquired
      rw [hs, ← hid]
      exact postClaimed_keeps (hid ▸ hcreates)
    · exact ends_of_within existingOrRecover_within s

theorem submitLocked_keeps (command : BrokerOrderCommand) :
    (submitLocked sha256 command).Keeps postProtocol .idle (fun _ _ => True) (fun _ _ => True) := by
  refine (keeps_of_within (Action.within_perform (show readsOrAnswers .clock from trivial)) _).bind fun s clock hs => ?_
  subst hs
  refine (keeps_of_within (Action.within_ofExcept _) _).bind fun s now hs => ?_
  subst hs
  refine (keeps_of_within (Action.within_ofExcept _) _).bind fun s _ hs => ?_
  subst hs
  refine (keeps_of_within (Action.within_perform (show readsOrAnswers (.loadByClientId _) from trivial)) _).bind
    fun s found hs => ?_
  subst hs
  cases found with
  | none => exact claimAndPost_keeps command now
  | some existing =>
    refine (keeps_of_within (Action.within_ofExcept _) _).bind fun s _ hs => ?_
    subst hs
    split
    · exact ends_of_within existingOrRecover_within _
    · exact claimAndPost_keeps command now

theorem call_obeys (call : OrderCall) :
    ((orderPool sha256).body call).Obeys postProtocol (fun _ _ => True) .idle := by
  have hcall : (call.act sha256).Keeps postProtocol .idle (fun _ _ => True) (fun _ _ => True) := by
    cases call with
    | submitLocked command => exact submitLocked_keeps command
    | recoverByClientId id => exact ends_of_within recoverByClientId_within _
  exact (Program.obeys_bind _ _ _).mpr (Program.Obeys.mono (fun _ _ _ => trivial) hcall)

/-! ### The invariant -/

/-- At most one call owns a client order id, and nobody does while its row is missing or
not sent. What an owner has done so far is what the log says. -/
structure Fits (w : PostWorld) (phases : List PostPhase) : Prop where
  allowed : EachAllowed w.log
  creates : ∀ thread id request, posted thread id request ∈ w.log → request.Creates id
  unique : ∀ (i j : Nat) (s s' : PostPhase) (id : String), phases[i]? = some s → phases[j]? = some s' →
    s.owned = some id → s'.owned = some id → i = j
  free : ∀ id, (∀ row, w.orders.row? id = some row → row.state = .notSent) →
    MayPost id w.log ∧ ∀ (i : Nat) (s : PostPhase), phases[i]? = some s → s.owned ≠ some id
  claimed : ∀ (i : Nat) (id : String), phases[i]? = some (.claimed id) → MayPost id w.log
  posted : ∀ (i : Nat) (id : String), phases[i]? = some (.posted id) → ∃ since, lastAttempt id w.log = some (i, since)
  failed : ∀ (i : Nat) (id : String), phases[i]? = some (.failedBeforeSend id) → ∃ since, ∃ e : PyError,
    lastAttempt id w.log = some (i, since) ∧ e.kind = .binanceUsdmPreSendFailure ∧
      ended i (some e) ∈ since

variable {w : PostWorld} {phases : List PostPhase} {i : Nat} {s : PostPhase}

theorem getElem?_set_iff (hi : phases[i]? = some s) (s' : PostPhase) (j : Nat) (x : PostPhase) :
    (phases.set i s')[j]? = some x ↔ (j = i ∧ x = s') ∨ (j ≠ i ∧ phases[j]? = some x) := by
  obtain ⟨hlt, -⟩ := List.getElem?_eq_some_iff.mp hi
  by_cases h : j = i
  · simp [h, hlt, eq_comm]
  · have h' : i ≠ j := fun heq => h heq.symm
    simp [h, h', List.getElem?_set_ne]

theorem set_self (hi : phases[i]? = some s) : phases.set i s = phases := by
  obtain ⟨hlt, rfl⟩ := List.getElem?_eq_some_iff.mp hi
  exact List.set_getElem_self hlt

theorem Fits.start (h : Fits w phases) : Fits w (phases ++ [.idle]) := by
  have hold : ∀ (j : Nat) (s : PostPhase) (id : String), (phases ++ [PostPhase.idle])[j]? = some s → s.owned = some id →
      phases[j]? = some s := by
    intro j s id hj hs
    rw [List.getElem?_append] at hj
    split at hj
    · exact hj
    · have hidle : s = .idle := by simpa using List.mem_of_getElem? hj
      rw [hidle] at hs
      cases hs
  refine ⟨h.allowed, h.creates, ?_, fun id hid => ?_, fun j id hj => ?_, fun j id hj => ?_, fun j id hj => ?_⟩
  · intro j k s s' id hj hk hs hs'
    exact h.unique j k s s' id (hold j s id hj hs) (hold k s' id hk hs') hs hs'
  · obtain ⟨hmay, hno⟩ := h.free id hid
    exact ⟨hmay, fun j s hj hs => hno j s (hold j s id hj hs) hs⟩
  · exact h.claimed j id (hold j _ id hj rfl)
  · exact h.posted j id (hold j _ id hj rfl)
  · exact h.failed j id (hold j _ id hj rfl)

/-- The table may change as long as no further row becomes missing or not sent. -/
theorem Fits.store (h : Fits w phases) {t : OrderTable}
    (ht : ∀ id, (∀ row, t.row? id = some row → row.state = .notSent) →
      ∀ row, w.orders.row? id = some row → row.state = .notSent) :
    Fits ⟨t, w.log⟩ phases :=
  ⟨h.allowed, h.creates, h.unique, fun id hid => h.free id (ht id hid), h.claimed, h.posted, h.failed⟩

/-- An entry that is no attempt keeps everything. -/
theorem Fits.log (h : Fits w phases) {e : PostEvent} (he : ∀ id, e.postOf id = none) :
    Fits (w.record e) phases := by
  have hne : ∀ thread id request, PostEvent.posted thread id request ≠ e := by
    rintro thread id request rfl
    simpa [postOf] using he id
  refine ⟨h.allowed.concat fun thread id request heq => absurd heq.symm (hne thread id request),
    fun thread id request hmem => ?_, h.unique, fun id hid => ?_, fun j id hj => (h.claimed j id hj).concat (he id), fun j id hj => ?_, fun j id hj => ?_⟩
  · rcases List.mem_append.mp hmem with hmem | hmem
    · exact h.creates thread id request hmem
    · exact absurd (List.mem_singleton.mp hmem) (hne thread id request)
  · obtain ⟨hmay, hno⟩ := h.free id hid
    exact ⟨hmay.concat (he id), hno⟩
  · obtain ⟨since, hlast⟩ := h.posted j id hj
    exact ⟨since ++ [e], by simp [PostWorld.record, he, hlast]⟩
  · obtain ⟨since, error, hlast, hkind, hmem⟩ := h.failed j id hj
    exact ⟨since ++ [e], error, by simp [PostWorld.record, he, hlast], hkind, by simp [hmem]⟩

/-- A thread that owned nothing claims an id nobody owns. -/
theorem Fits.claim (h : Fits w phases) (hi : phases[i]? = some .idle) {id : String}
    (hrow : ∃ row, w.orders.row? id = some row ∧ row.state = .prepared)
    (hmay : MayPost id w.log) (hno : ∀ (j : Nat) (s : PostPhase), phases[j]? = some s → s.owned ≠ some id) :
    Fits w (phases.set i (.claimed id)) := by
  have hset := getElem?_set_iff hi (.claimed id)
  refine ⟨h.allowed, h.creates, ?_, fun other hother => ?_, fun j other hj => ?_, fun j other hj => ?_,
    fun j other hj => ?_⟩
  · intro j k s s' other hj hk hs hs'
    rcases (hset j s).mp hj with ⟨rfl, rfl⟩ | ⟨hji, hj'⟩ <;>
      rcases (hset k s').mp hk with ⟨rfl, rfl⟩ | ⟨hki, hk'⟩
    · rfl
    · cases hs
      exact absurd hs' (hno k s' hk')
    · cases hs'
      exact absurd hs (hno j s hj')
    · exact h.unique j k s s' other hj' hk' hs hs'
  · refine ⟨(h.free other hother).1, fun j s hj hs => ?_⟩
    rcases (hset j s).mp hj with ⟨rfl, rfl⟩ | ⟨hji, hj'⟩
    · cases hs
      obtain ⟨row, hrow, hstate⟩ := hrow
      have hnotSent := hother row hrow
      rw [hstate] at hnotSent
      cases hnotSent
    · exact (h.free other hother).2 j s hj' hs
  · rcases (hset j _).mp hj with ⟨rfl, heq⟩ | ⟨hji, hj'⟩
    · cases heq
      exact hmay
    · exact h.claimed j other hj'
  · rcases (hset j _).mp hj with ⟨rfl, heq⟩ | ⟨hji, hj'⟩
    · cases heq
    · exact h.posted j other hj'
  · rcases (hset j _).mp hj with ⟨rfl, heq⟩ | ⟨hji, hj'⟩
    · cases heq
    · exact h.failed j other hj'

/-- The owner of an id is the only one, also after it moved on with the same id. -/
theorem Fits.unique_set (h : Fits w phases) (hi : phases[i]? = some s) {s' : PostPhase}
    (hs' : s'.owned = s.owned) (j k : Nat) (x x' : PostPhase) (id : String)
    (hj : (phases.set i s')[j]? = some x) (hk : (phases.set i s')[k]? = some x')
    (hx : x.owned = some id) (hx' : x'.owned = some id) : j = k := by
  have hset := getElem?_set_iff hi s'
  rcases (hset j x).mp hj with ⟨rfl, rfl⟩ | ⟨hji, hj'⟩ <;>
    rcases (hset k x').mp hk with ⟨rfl, rfl⟩ | ⟨hki, hk'⟩
  · rfl
  · exact h.unique _ _ _ _ id hi hk' (hs' ▸ hx) hx'
  · exact h.unique _ _ _ _ id hj' hi hx (hs' ▸ hx')
  · exact h.unique _ _ _ _ id hj' hk' hx hx'

theorem Fits.owned_not_free (h : Fits w phases) (hi : phases[i]? = some s) {id : String}
    (hs : s.owned = some id) :
    ¬ ∀ row, w.orders.row? id = some row → row.state = .notSent :=
  fun hid => (h.free id hid).2 i s hi hs

/-- The claimed order is posted. -/
theorem Fits.post (h : Fits w phases) {id : String} (hi : phases[i]? = some (.claimed id))
    {request : BrokerRequest} (hrequest : request.Creates id) :
    Fits (w.record (PostEvent.posted i id request)) (phases.set i (.posted id)) := by
  have hset := getElem?_set_iff hi (.posted id)
  have hother : ∀ {j : Nat} {x : PostPhase} {other : String}, j ≠ i → phases[j]? = some x → x.owned = some other →
      (PostEvent.posted i id request).postOf other = none := by
    intro j x other hji hj hx
    have hne : id ≠ other := by
      rintro rfl
      exact hji (h.unique j i x _ id hj hi hx rfl)
    simp [postOf, hne]
  refine ⟨h.allowed.concat fun thread other request' heq => ?_, fun thread other request' hmem => ?_,
    h.unique_set hi rfl, fun other hfree => ?_, fun j other hj => ?_, fun j other hj => ?_,
    fun j other hj => ?_⟩
  · cases heq
    exact h.claimed i id hi
  · rcases List.mem_append.mp hmem with hmem | hmem
    · exact h.creates thread other request' hmem
    · cases List.mem_singleton.mp hmem
      exact hrequest
  · have hne : id ≠ other := by
      rintro rfl
      exact h.owned_not_free hi rfl hfree
    obtain ⟨hmay, hno⟩ := h.free other hfree
    refine ⟨hmay.concat (by simp [postOf, hne]), fun j x hj hx => ?_⟩
    rcases (hset j x).mp hj with ⟨rfl, rfl⟩ | ⟨hji, hj'⟩
    · exact hne (Option.some.inj hx)
    · exact hno j x hj' hx
  · rcases (hset j _).mp hj with ⟨rfl, heq⟩ | ⟨hji, hj'⟩
    · cases heq
    · exact (h.claimed j other hj').concat (hother hji hj' rfl)
  · rcases (hset j _).mp hj with ⟨rfl, heq⟩ | ⟨hji, hj'⟩
    · cases heq
      exact ⟨[], by simp [PostWorld.record, postOf]⟩
    · obtain ⟨since, hlast⟩ := h.posted j other hj'
      refine ⟨since ++ [PostEvent.posted i id request], ?_⟩
      simp only [PostWorld.record, lastAttempt_concat, hother hji hj' rfl, hlast, Option.map_some]
  · rcases (hset j _).mp hj with ⟨rfl, heq⟩ | ⟨hji, hj'⟩
    · cases heq
    · obtain ⟨since, e, hlast, hkind, hmem⟩ := h.failed j other hj'
      refine ⟨since ++ [PostEvent.posted i id request], e, ?_, hkind, by simp [hmem]⟩
      simp only [PostWorld.record, lastAttempt_concat, hother hji hj' rfl, hlast, Option.map_some]

/-- The transport says the posted order never left. -/
theorem Fits.fail (h : Fits w phases) {id : String} (hi : phases[i]? = some (.posted id)) {e : PyError}
    (he : e.kind = .binanceUsdmPreSendFailure) :
    Fits (w.record (ended i (some e))) (phases.set i (.failedBeforeSend id)) := by
  have hset := getElem?_set_iff hi (.failedBeforeSend id)
  have hlog := h.log (e := ended i (some e)) fun _ => rfl
  refine ⟨hlog.allowed, hlog.creates, h.unique_set hi rfl, fun other hfree => ?_, fun j other hj => ?_,
    fun j other hj => ?_, fun j other hj => ?_⟩
  · refine ⟨(hlog.free other hfree).1, fun j x hj hx => ?_⟩
    rcases (hset j x).mp hj with ⟨rfl, rfl⟩ | ⟨hji, hj'⟩
    · cases hx
      exact h.owned_not_free hi rfl hfree
    · exact (h.free other hfree).2 j x hj' hx
  · rcases (hset j _).mp hj with ⟨rfl, heq⟩ | ⟨hji, hj'⟩
    · cases heq
    · exact hlog.claimed j other hj'
  · rcases (hset j _).mp hj with ⟨rfl, heq⟩ | ⟨hji, hj'⟩
    · cases heq
    · exact hlog.posted j other hj'
  · rcases (hset j _).mp hj with ⟨rfl, heq⟩ | ⟨hji, hj'⟩
    · cases heq
      obtain ⟨since, hlast⟩ := h.posted j id hi
      exact ⟨since ++ [ended j (some e)], e, by simp [PostWorld.record, postOf, hlast], he, by simp⟩
    · exact hlog.failed j other hj'

/-- The failed attempt is recorded, which opens the id for the next one. -/
theorem Fits.release (h : Fits w phases) {id : String}
    (hi : phases[i]? = some (.failedBeforeSend id)) {t : OrderTable}
    (ht : Writes w.orders t id .notSent) :
    Fits ⟨t, w.log ++ [recordedNotSent i id]⟩ (phases.set i .idle) := by
  have hset := getElem?_set_iff hi .idle
  have hlog := h.log (e := recordedNotSent i id) fun _ => rfl
  have hkept : ∀ {j : Nat} {x : PostPhase} {other : String}, (phases.set i .idle)[j]? = some x → x.owned = some other →
      j ≠ i ∧ phases[j]? = some x := by
    intro j x other hj hx
    rcases (hset j x).mp hj with ⟨rfl, rfl⟩ | hold
    · cases hx
    · exact hold
  refine ⟨hlog.allowed, hlog.creates, ?_, fun other hfree => ?_, fun j other hj => hlog.claimed j other (hkept hj rfl).2,
    fun j other hj => hlog.posted j other (hkept hj rfl).2,
    fun j other hj => hlog.failed j other (hkept hj rfl).2⟩
  · intro j k x x' other hj hk hx hx'
    exact h.unique j k x x' other (hkept hj hx).2 (hkept hk hx').2 hx hx'
  · by_cases hother : other = id
    · subst hother
      obtain ⟨since, e, hlast, hkind, hmem⟩ := h.failed i other hi
      refine ⟨fun thread since' hlast' => ⟨e, hkind, ?_⟩, fun j x hj hx => ?_⟩
      · rw [lastAttempt_concat, hlast] at hlast'
        simp only [postOf, Option.map_some, Option.some.injEq, Prod.mk.injEq] at hlast'
        obtain ⟨rfl, rfl⟩ := hlast'
        exact (List.singleton_sublist.mpr hmem).append (.refl [recordedNotSent i other])
      · exact (hkept hj hx).1 (h.unique j i x _ other (hkept hj hx).2 hi hx rfl)
    · have hrows := ht.2.2 other hother
      rw [show (PostWorld.mk t (w.log ++ [recordedNotSent i id])).orders.row? other =
        w.orders.row? other from hrows] at hfree
      obtain ⟨hmay, hno⟩ := hlog.free other hfree
      exact ⟨hmay, fun j x hj hx => hno j x (hkept hj hx).2 hx⟩

/-! ### Runs -/

/-- What an answer does to a world, at the level of the invariant. -/
theorem answerOrder_fits {w w' : PostWorld} {o : OrderOp} {choice : PostChoice}
    {r : Except PyError o.Result} (h : Fits w phases) (hi : phases[i]? = some s)
    (hallows : postProtocol.allows s o) (hanswer : answerOrder sha256 w i o choice = some (w', r)) :
    ∃ s', postProtocol.moves s o r s' ∧ Fits w' (phases.set i s') := by
  have hstay : Fits w (phases.set i s) := by rwa [set_self hi]
  cases o with
  | clock => cases choice <;> cases hanswer <;> exact ⟨s, rfl, hstay⟩
  | loadAuthority command => cases choice <;> cases hanswer <;> exact ⟨s, rfl, hstay⟩
  | get request =>
    cases choice <;> cases hanswer
    exact ⟨s, rfl, hstay⟩
  | loadByClientId id =>
    rcases PostWorld.transact_cases hanswer with ⟨rfl, e, rfl⟩ | ⟨t, found, hload, rfl, hr⟩
    · exact ⟨s, rfl, hstay⟩
    · have ht : t = w.orders := by
        cases hfound : loadByClientId sha256 w.orders id with
        | error e => simp [hfound, Except.map] at hload
        | ok found =>
          simp only [hfound, Except.map, Except.ok.injEq, Prod.mk.injEq] at hload
          exact hload.1.symm
      subst ht
      rw [List.append_nil]
      rcases hr with rfl | ⟨e, rfl⟩ <;> exact ⟨s, rfl, hstay⟩
  | prepare record =>
    cases (hallows : s = .idle)
    rcases PostWorld.transact_cases hanswer with ⟨rfl, e, rfl⟩ | ⟨t, claim, hprepare, rfl, hr⟩
    · exact ⟨.idle, rfl, hstay⟩
    rw [List.append_nil]
    rcases prepare_ok hprepare with ⟨hacquired, rfl⟩ | ⟨hacquired, hid, hbefore, hrow, hothers⟩
    · rcases hr with rfl | ⟨e, rfl⟩
      · exact ⟨.idle, by simp [postProtocol, hacquired], hstay⟩
      · exact ⟨.idle, rfl, hstay⟩
    · have hstored : Fits ⟨t, w.log⟩ phases := by
        refine h.store fun id hnotSent => ?_
        by_cases hsame : id = record.clientOrderId
        · subst hsame
          exact hbefore
        · rwa [hothers id hsame] at hnotSent
      rcases hr with rfl | ⟨e, rfl⟩
      · obtain ⟨hmay, hno⟩ := h.free record.clientOrderId hbefore
        refine ⟨.claimed record.clientOrderId, by simp [postProtocol, hacquired, hid], ?_⟩
        exact hstored.claim hi hrow hmay hno
      · exact ⟨.idle, rfl, by rwa [set_self hi]⟩
  | markNotSent id digest =>
    cases (hallows : s = .failedBeforeSend id)
    rcases PostWorld.transact_cases hanswer with ⟨rfl, e, rfl⟩ | ⟨t, record, hmark, rfl, -⟩
    · exact ⟨.failedBeforeSend id, .inr rfl, hstay⟩
    · exact ⟨.idle, .inl rfl, h.release hi (markNotSent_ok hmark)⟩
  | finish id state result =>
    rcases PostWorld.transact_cases hanswer with ⟨rfl, e, rfl⟩ | ⟨t, record, hfinish, rfl, hr⟩
    · exact ⟨s, rfl, hstay⟩
    · obtain ⟨⟨row, hrow, hstate⟩, -, hothers⟩ := finish_ok hfinish
      rw [List.append_nil, ← set_self hi]
      refine ⟨s, by rcases hr with rfl | ⟨e, rfl⟩ <;> rfl, ?_⟩
      rw [set_self hi, set_self hi]
      refine h.store fun other hnotSent => ?_
      by_cases hsame : other = id
      · subst hsame
        exact absurd (hstate ▸ hnotSent row hrow) hallows
      · rwa [hothers other hsame] at hnotSent
  | startPost id request =>
    obtain ⟨rfl, hcreates⟩ := hallows
    cases choice <;> cases hanswer
    exact ⟨.posted id, rfl, h.post hi hcreates⟩
  | endPost =>
    obtain ⟨id, rfl⟩ := hallows
    cases choice <;> cases hanswer
    have hlog : ∀ x, Fits (w.record (ended i x)) (phases.set i (.posted id)) := fun x => by
      rw [set_self hi]
      exact h.log fun _ => rfl
    cases r with
    | ok response => exact ⟨.posted id, rfl, hlog none⟩
    | error e =>
      by_cases hkind : e.kind = .binanceUsdmPreSendFailure
      · refine ⟨.failedBeforeSend id, fun id' heq => ?_, h.fail hi hkind⟩
        cases heq
        rw [if_pos hkind]
      · refine ⟨.posted id, fun id' heq => ?_, hlog (some e)⟩
        rw [if_neg hkind]

theorem orderPool_sound : (orderPool sha256).Sound postProtocol Fits .idle where
  body := call_obeys
  call := fun _ _ h => h.start
  answer := fun _ _ _ _ _ _ _ _ h hi hallows hanswer => answerOrder_fits h hi hallows hanswer

theorem fits_fresh {c : OrderConfig} (hc : c.Fresh) : Pool.Follows postProtocol Fits c := by
  obtain ⟨hthreads, hlog⟩ := hc
  refine ⟨[], ?_, hthreads ▸ .nil⟩
  refine ⟨fun before thread id request after heq => ?_, fun thread id request hmem => ?_, nofun,
    fun id _ => ⟨fun thread since hlast => ?_, nofun⟩, nofun, nofun, nofun⟩
  · rw [hlog] at heq
    simp at heq
  · rw [hlog] at hmem
    cases hmem
  · rw [hlog] at hlast
    cases hlast

/-- Every attempt asks for a new order under the client order id it is logged with. -/
theorem posted_creates (sha256 : String → Digest) (c : OrderConfig) (hc : c.Fresh)
    (events : List OrderEvent) (thread : Nat) (clientOrderId : String) (request : BrokerRequest)
    (h : posted thread clientOrderId request ∈ (runFrom (orderPool sha256).step c events).world.log) :
    request.Creates clientOrderId := by
  obtain ⟨phases, hfits, -⟩ := orderPool_sound.run (fits_fresh hc) events
  exact hfits.creates thread clientOrderId request h

/-- Between two attempts with one client order id, the first failed before anything was
sent and was then recorded as not sent by its own call. -/
theorem posted_again_only_after_not_sent (sha256 : String → Digest) (c : OrderConfig) (hc : c.Fresh)
    (events : List OrderEvent) (clientOrderId : String) (before between after : List PostEvent)
    (first second : Nat) (firstRequest secondRequest : BrokerRequest)
    (hlog : (runFrom (orderPool sha256).step c events).world.log =
      before ++ posted first clientOrderId firstRequest ::
        (between ++ posted second clientOrderId secondRequest :: after))
    (hbetween : ∀ e ∈ between, e.postOf clientOrderId = none) :
    ∃ e : PyError, e.kind = .binanceUsdmPreSendFailure ∧
      [ended first (some e), recordedNotSent first clientOrderId].Sublist between := by
  obtain ⟨phases, hfits, -⟩ := orderPool_sound.run (fits_fresh hc) events
  have hsplit : before ++ posted first clientOrderId firstRequest ::
      (between ++ posted second clientOrderId secondRequest :: after) =
      (before ++ posted first clientOrderId firstRequest :: between) ++
        posted second clientOrderId secondRequest :: after := by simp
  have hmay : MayPost clientOrderId (before ++ posted first clientOrderId firstRequest :: between) :=
    hfits.allowed _ second clientOrderId secondRequest after (hlog.trans hsplit)
  exact hmay first between (lastAttempt_append hbetween)

/-- Two submissions of the sample command: the first is refused by the transport before
the send, the second claims the row again and posts. -/
def retryEvents : List OrderEvent :=
  let preSend : PyError := ⟨.binanceUsdmPreSendFailure, ""⟩
  let claims (i : Nat) : List OrderEvent :=
    [.call (.submitLocked sampleCommand), .answer i (.clock ⟨0, .utc⟩), .answer i .proceed,
      .answer i (.authority sampleAuthority), .answer i .proceed, .answer i .proceed]
  claims 0 ++ [.answer 0 (.response (.error preSend)), .answer 0 .proceed] ++ claims 1

def retryRequest : BrokerRequest := ⟨.post, "/fapi/v1/order", some sampleBody⟩

theorem posted_again_only_after_not_sent_retry :
    ∃ e : PyError, e.kind = .binanceUsdmPreSendFailure ∧
      [ended 0 (some e), recordedNotSent 0 sampleCommand.brokerClientOrderId].Sublist
        [ended 0 (some ⟨.binanceUsdmPreSendFailure, ""⟩),
          recordedNotSent 0 sampleCommand.brokerClientOrderId] :=
  posted_again_only_after_not_sent sampleSha256 ⟨⟨[], []⟩, []⟩ ⟨rfl, rfl⟩ retryEvents
    sampleCommand.brokerClientOrderId [] _ [] 0 1 retryRequest retryRequest
    (by decide +kernel) (by decide +kernel)

end AutoTrader.Binance
