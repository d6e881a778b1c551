import AutoTrader.Binance.StopMove
import AutoTrader.Runtime.Program

/-! Make before break. Whatever the venue, the store and the clock answer, and wherever a move
is interrupted, the old stop is withdrawn only after an answer that proves the new one
active; but a move that is run again finds its placement claimed and withdraws nothing. -/

namespace AutoTrader.Binance

open AutoTrader.Domain AutoTrader.Execution AutoTrader.Runtime

/-! ### Runs -/

/-- An operation and how it was answered. -/
abbrev AlgoStep := (op : AlgoOp) × Except PyError op.Result

structure MoveWorld where
  table : AlgoTable
  steps : List AlgoStep

/-- What the surroundings decide about an operation. One that raises may have taken effect
in the store before. -/
inductive AlgoChoice
  | proceed
  | raise (e : PyError) (tookEffect : Bool)
  | clock (now : DateTime)
  | response (answer : BrokerResponse)
  | command (answer : BrokerOrderCommand)
  | written (answer : BrokerWriteResult)
  | flat (answer : Bool)

/-- The table after a store operation that took effect. -/
def AlgoOp.effect (sha256 : String → Digest) (t : AlgoTable) : AlgoOp → AlgoTable
  | .prepare record => tableAfter t (AlgoTable.prepare sha256 t record)
  | .finish clientAlgoId state result => tableAfter t (AlgoTable.finish sha256 t clientAlgoId state result)
  | _ => t

/-- The table after the write of a store operation, whatever the rest of it raised. -/
def AlgoOp.written (t : AlgoTable) : AlgoOp → AlgoTable
  | .prepare record => (t.insertIfAbsent record).getD t
  | .finish clientAlgoId state result => t.apply clientAlgoId state result
  | _ => t

/-- The answer of a choice; one that does not fit the operation is a failure of it. -/
def AlgoTable.reply (sha256 : String → Digest) (t : AlgoTable) :
    (op : AlgoOp) → AlgoChoice → Except PyError op.Result
  | _, .raise e _ => .error e
  | .prepare record, _ => (AlgoTable.prepare sha256 t record).map Prod.snd
  | .loadByClientAlgoId clientAlgoId, _ => AlgoTable.loadByClientAlgoId sha256 t clientAlgoId
  | .finish clientAlgoId state result, _ => (AlgoTable.finish sha256 t clientAlgoId state result).map Prod.snd
  | .clock, .clock now => .ok now
  | .send _, .response answer => .ok answer
  | .prepareFullClose _, .command answer => .ok answer
  | .submitLocked _, .written answer | .recoverByClientId _, .written answer => .ok answer
  | .confirmZeroPosition _, .flat answer => .ok answer
  | .cancelEntryAndAdds _, .proceed | .haltAccount _ _, .proceed => .ok ()
  | _, _ => .error ⟨.runtimeError, "the answer does not fit the operation"⟩

def MoveWorld.answer (sha256 : String → Digest) (w : MoveWorld) (op : AlgoOp) (choice : AlgoChoice) :
    Except PyError op.Result × MoveWorld :=
  let reply := w.table.reply sha256 op choice
  let table :=
    match choice with
    | .raise _ tookEffect => if tookEffect then op.written w.table else w.table
    | _ => op.effect sha256 w.table
  (reply, ⟨table, w.steps ++ [⟨op, reply⟩]⟩)

section

variable (sha256 : String → Digest) (fill : EntryFill) (authority : ProtectionAuthority)
  (placementCommandId : UUID) (superseded : String)

/-- A run of a move, which ends where the choices end. -/
def runMove (t : AlgoTable) (choices : List AlgoChoice) : MoveWorld × Option (Except PyError ProtectionResult) :=
  (moveStop sha256 fill authority placementCommandId superseded).run.follow (MoveWorld.answer sha256) ⟨t, []⟩ choices

/-! ### What the claim is about -/

/-- An answer that proves the replacement active with the trigger that was asked for. -/
def ProvesActive (response : BrokerResponse) : Prop :=
  response.status = 200 ∧ ∃ record trigger result, validateRiskAuthority fill authority = .ok trigger ∧
    decodeActiveProtection response record false = .ok result ∧ result.state = .active ∧
    result.clientAlgoId = clientAlgoIdText placementCommandId ∧ result.triggerPrice.toRat = trigger.toRat

/-- The POST was answered with such a proof. -/
def Proved (steps : List AlgoStep) : Prop :=
  ∃ request response, ⟨.send request, .ok response⟩ ∈ steps ∧ request.method = .post ∧
    ProvesActive fill authority placementCommandId response

def MakesBeforeBreaks (steps : List AlgoStep) : Prop :=
  ∀ before request answer after, steps = before ++ ⟨.send request, answer⟩ :: after → request.method = .delete →
    Proved fill authority placementCommandId before

end

/-- Some request of a method was sent. -/
def Sent (method : Method) (steps : List AlgoStep) : Prop :=
  ∃ request answer, ⟨.send request, answer⟩ ∈ steps ∧ request.method = method

/-! ### Operations that neither claim a stop nor send one nor withdraw one -/

def AlgoOp.isHarmless : AlgoOp → Prop
  | .send request => request.method = .get
  | .prepare _ => False
  | _ => True

theorem markAmbiguous_harmless (clientAlgoId : String) :
    (protectionMarkAmbiguous clientAlgoId).Within AlgoOp.isHarmless := by
  have hfinish : (Action.perform (AlgoOp.finish clientAlgoId .ambiguous none) : AlgoAct AlgoOrderRecord).Within
      AlgoOp.isHarmless := Action.within_perform trivial
  exact hfinish.bind fun _ => Action.within_pure _

theorem noteFailure_harmless {α : Type} {x : AlgoAct α} (hx : x.Within AlgoOp.isHarmless) :
    (noteFailure x).Within AlgoOp.isHarmless := by
  have hmap : (some <$> x).Within AlgoOp.isHarmless := hx.bind fun _ => Action.within_pure _
  refine hmap.tryCatch fun caught => ?_
  split
  · exact Action.within_throw _
  · exact Action.within_pure _

theorem perform_harmless (op : AlgoOp) (h : op.isHarmless) :
    (Action.perform op : AlgoAct op.Result).Within AlgoOp.isHarmless := Action.within_perform h

theorem close_harmless (fill : EntryFill) : (closeForFailSafe fill).Within AlgoOp.isHarmless := by
  refine (perform_harmless (.prepareFullClose fill) trivial).bind fun command => ?_
  refine (Action.within_ofExcept _).bind fun _ => Action.Within.bind ?_ fun result => ?_
  · refine (perform_harmless (.submitLocked command) trivial).tryCatch fun caught => ?_
    split
    · exact perform_harmless (.recoverByClientId _) trivial
    · exact Action.within_throw _
  · exact (Action.within_ofExcept _).bind fun _ => Action.within_pure _

theorem failSafe_harmless (record : AlgoOrderRecord) (reason : String) (observedAlgoId : Option String) :
    (failSafe record reason observedAlgoId).Within AlgoOp.isHarmless := by
  unfold failSafe
  split
  · exact Action.within_ofExcept _
  refine (noteFailure_harmless (close_harmless _)).bind fun closed => ?_
  refine (noteFailure_harmless (perform_harmless (.cancelEntryAndAdds _) trivial)).bind fun blocked => ?_
  refine (noteFailure_harmless (perform_harmless (.confirmZeroPosition _) trivial)).bind fun flat => ?_
  refine (noteFailure_harmless (perform_harmless (.haltAccount _ _) trivial)).bind fun halted => ?_
  split
  · refine (Action.within_ofExcept _).bind fun _ => ?_
    exact (perform_harmless (.finish _ _ _) trivial).bind fun _ => Action.within_pure _
  · exact (perform_harmless (.finish _ _ _) trivial).bind fun _ => Action.within_throw _

theorem failSafeIfOverdue_harmless (record : AlgoOrderRecord) (observedAlgoId : Option String) (message : String) :
    (failSafeIfOverdue record observedAlgoId message).Within AlgoOp.isHarmless := by
  refine (perform_harmless (.clock) trivial).bind fun clock => (Action.within_ofExcept _).bind fun late => ?_
  split
  · exact (failSafe_harmless _ _ _).bind fun _ => Action.within_throw _
  · exact Action.within_pure _

theorem unresolved_harmless {α : Type} (record : AlgoOrderRecord) (message : String) :
    (unresolved record message : AlgoAct α).Within AlgoOp.isHarmless :=
  (failSafeIfOverdue_harmless _ _ _).bind fun _ => Action.within_throw _

theorem acceptActive_harmless (record : AlgoOrderRecord) (result : ProtectionResult) :
    (acceptActive record result).Within AlgoOp.isHarmless := by
  refine (failSafeIfOverdue_harmless _ _ _).bind fun _ => ?_
  exact (perform_harmless (.finish _ _ _) trivial).bind fun _ => Action.within_pure _

theorem queryProtection_harmless (record : AlgoOrderRecord) :
    (queryProtection record).Within AlgoOp.isHarmless := by
  have hsend : (Action.perform (AlgoOp.send (algoOrderRequest .get record.clientAlgoId)) :
      AlgoAct BrokerResponse).Within AlgoOp.isHarmless := Action.within_perform rfl
  refine Action.Within.bind (hsend.tryCatch fun caught => ?_) fun response => ?_
  · split
    · exact Action.within_throw _
    · exact unresolved_harmless _ _
  · unfold acceptQueryResponse
    split
    · exact unresolved_harmless _ _
    split
    · exact unresolved_harmless _ _
    split
    · exact unresolved_harmless _ _
    · exact acceptActive_harmless _ _

theorem existingOrRecoverStop_harmless (sha256 : String → Digest) (record : AlgoOrderRecord) :
    (existingOrRecoverStop sha256 record).Within AlgoOp.isHarmless := by
  unfold existingOrRecoverStop
  split
  · exact Action.within_ofExcept _
  refine (Action.within_ofExcept _).bind fun _ => ?_
  refine (perform_harmless (.loadByClientAlgoId _) trivial).bind fun found => ?_
  cases found with
  | none => exact Action.within_throw _
  | some row =>
    refine (Action.within_ofExcept _).bind fun _ => ?_
    unfold recoverRecord
    split
    · exact Action.within_ofExcept _
    · exact Action.within_ofExcept _
    · exact Action.within_throw _
    · exact failSafe_harmless _ _ _
    all_goals exact queryProtection_harmless _

/-! ### The first run -/

section

variable {sha256 : String → Digest} {fill : EntryFill} {authority : ProtectionAuthority}
  {placementCommandId : UUID} {superseded : String} {start : AlgoTable}

/-- The placement is claimed. -/
def AlgoTable.Claims (t : AlgoTable) (placementCommandId : UUID) : Prop :=
  (t.row? (clientAlgoIdText placementCommandId)).isSome

variable (sha256 fill authority placementCommandId start) in
/-- A stop is posted under a claim of this run, and withdrawn after the proof. -/
def moveProtocol : Protocol PyError AlgoOp AlgoOp.Result MoveWorld where
  allows w
    | .send request => (request.method = .post →
          w.table.Claims placementCommandId ∧ ¬ start.Claims placementCommandId) ∧
        (request.method = .delete → Proved fill authority placementCommandId w.steps)
    | _ => True
  moves w op r w' := ∃ choice, MoveWorld.answer sha256 w op choice = (r, w')
  ends _ := True

variable (fill authority placementCommandId start) in
/-- What the protocol makes of the runs. -/
structure InOrder (w : MoveWorld) : Prop where
  order : MakesBeforeBreaks fill authority placementCommandId w.steps
  claims : Sent .post w.steps → w.table.Claims placementCommandId ∧ ¬ start.Claims placementCommandId

theorem claims_written {t : AlgoTable} (h : t.Claims placementCommandId) (op : AlgoOp) :
    (op.written t).Claims placementCommandId := by
  unfold AlgoTable.Claims at h ⊢
  cases op with
  | prepare record =>
    simp only [AlgoOp.written, AlgoTable.insertIfAbsent]
    split
    · exact h
    · obtain ⟨row, hrow⟩ := Option.isSome_iff_exists.mp h
      have hfound : AlgoTable.row? (t ++ [record.row]) (clientAlgoIdText placementCommandId) = some row := by
        unfold AlgoTable.row? Rows.lookup at hrow ⊢
        rw [List.find?_append, hrow]
        rfl
      simp [hfound]
  | finish clientAlgoId state result =>
    simp only [AlgoOp.written, AlgoTable.row?_apply, Option.isSome_map]
    exact h
  | _ => exact h

theorem claims_effect {t : AlgoTable} (h : t.Claims placementCommandId) (op : AlgoOp) :
    (op.effect sha256 t).Claims placementCommandId := by
  cases op with
  | prepare record =>
    simp only [AlgoOp.effect]
    cases hprepare : AlgoTable.prepare sha256 t record with
    | error e => exact h
    | ok p =>
      obtain ⟨t', claim⟩ := p
      have hclaimed := AlgoTable.prepare_ok hprepare
      cases hclaimed with
      | acquired fresh valid checks absent rows =>
        change (t'.row? _).isSome
        rw [rows]
        split
        · rfl
        · exact h
      | existing present readable => exact h
  | finish clientAlgoId state result =>
    simp only [AlgoOp.effect]
    cases hfinish : AlgoTable.finish sha256 t clientAlgoId state result with
    | error e => exact h
    | ok p =>
      obtain ⟨⟨row, hrow, -⟩, hothers⟩ := AlgoTable.finish_ok hfinish
      change (p.1.row? _).isSome
      by_cases hsame : clientAlgoIdText placementCommandId = clientAlgoId
      · rw [hsame, hrow]
        rfl
      · rw [hothers _ hsame]
        exact h
  | _ => exact h

theorem claims_answer {w : MoveWorld} (h : w.table.Claims placementCommandId) (op : AlgoOp) (choice : AlgoChoice) :
    (MoveWorld.answer sha256 w op choice).2.table.Claims placementCommandId := by
  unfold MoveWorld.answer
  cases choice with
  | raise e tookEffect =>
    cases tookEffect
    · exact h
    · exact claims_written h op
  | _ => exact claims_effect h op

theorem mem_steps_answer (w : MoveWorld) (op : AlgoOp) (choice : AlgoChoice) {step : AlgoStep} (h : step ∈ w.steps) :
    step ∈ (MoveWorld.answer sha256 w op choice).2.steps := List.mem_append_left _ h

theorem InOrder.answer {w : MoveWorld} {op : AlgoOp} (h : InOrder fill authority placementCommandId start w)
    (hallows : (moveProtocol sha256 fill authority placementCommandId start).allows w op) (choice : AlgoChoice) :
    InOrder fill authority placementCommandId start (MoveWorld.answer sha256 w op choice).2 := by
  constructor
  · intro before request answer after hsteps hdelete
    have hlast : w.steps ++ [⟨op, w.table.reply sha256 op choice⟩] = before ++ ⟨.send request, answer⟩ :: after := hsteps
    rcases List.eq_nil_or_concat after with rfl | ⟨rest, last, rfl⟩
    · obtain ⟨rfl, hstep⟩ := List.append_inj' hlast rfl
      obtain rfl : op = .send request := congrArg Sigma.fst (List.singleton_inj.mp hstep)
      exact hallows.2 hdelete
    · rw [List.concat_eq_append, ← List.cons_append, ← List.append_assoc] at hlast
      exact h.order before request answer rest (List.append_inj' hlast rfl).1 hdelete
  · rintro ⟨request, answer, hmem, hpost⟩
    have hclaims : w.table.Claims placementCommandId ∧ ¬ start.Claims placementCommandId → _ :=
      fun h => (⟨claims_answer h.1 op choice, h.2⟩ : (MoveWorld.answer sha256 w op choice).2.table.Claims
        placementCommandId ∧ ¬ start.Claims placementCommandId)
    refine hclaims ?_
    rcases List.mem_append.mp hmem with hold | hnew
    · exact h.claims ⟨request, answer, hold, hpost⟩
    · obtain rfl : AlgoOp.send request = op := congrArg Sigma.fst (List.mem_singleton.mp hnew)
      exact hallows.1 hpost

/-- Harmless operations are allowed, and keep what is kept by every operation. -/
theorem harmless_keeps {α : Type} {x : AlgoAct α} (hx : x.Within AlgoOp.isHarmless) {J : MoveWorld → Prop}
    (hJ : ∀ w op choice, J w → J (MoveWorld.answer sha256 w op choice).2) {w : MoveWorld} (h : J w) :
    x.Keeps (moveProtocol sha256 fill authority placementCommandId start) w (fun w' _ => J w') (fun w' _ => J w') := by
  refine hx.keeps_invariant (fun w op hw hop => ⟨?_, ?_⟩) h
  · cases op with
    | send request =>
      have hget : request.method = .get := hop
      exact ⟨fun hpost => by simp [hget] at hpost, fun hdelete => by simp [hget] at hdelete⟩
    | _ => trivial
  · rintro r w' ⟨choice, hanswer⟩
    obtain rfl : (MoveWorld.answer sha256 w op choice).2 = w' := congrArg Prod.snd hanswer
    exact hJ w op choice hw

/-- One operation of the store or the clock. -/
theorem perform_keeps (op : AlgoOp) (hop : ∀ request, op ≠ .send request) {w : MoveWorld}
    {ok : MoveWorld → op.Result → Prop}
    (hok : ∀ choice value, (MoveWorld.answer sha256 w op choice).1 = .ok value →
      ok (MoveWorld.answer sha256 w op choice).2 value) :
    (Action.perform op : AlgoAct op.Result).Keeps (moveProtocol sha256 fill authority placementCommandId start) w ok
      (fun _ _ => True) := by
  refine (Action.keeps_perform w op).mpr ⟨?_, ?_, fun _ _ _ => trivial⟩
  · cases op with
    | send request => exact absurd rfl (hop request)
    | _ => trivial
  · rintro value w' ⟨choice, hanswer⟩
    obtain rfl : (MoveWorld.answer sha256 w op choice).2 = w' := congrArg Prod.snd hanswer
    exact hok choice value (congrArg Prod.fst hanswer)

/-- The trigger an active stop was acknowledged with is that of its record. -/
theorem decodeActiveProtection_trigger {response : BrokerResponse} {record : AlgoOrderRecord} {recovered : Bool}
    {result : ProtectionResult} (h : decodeActiveProtection response record recovered = .ok result) :
    result.triggerPrice.toRat = record.triggerPrice.toRat := by
  obtain ⟨_, -, h⟩ := bind_ok.mp h
  obtain ⟨_, -, h⟩ := bind_ok.mp h
  obtain ⟨_, -, h⟩ := bind_ok.mp h
  obtain ⟨clientAlgoId, -, h⟩ := bind_ok.mp h
  obtain ⟨trigger, -, h⟩ := bind_ok.mp h
  obtain ⟨_, hsame, h⟩ := bind_ok.mp h
  obtain ⟨_, -, h⟩ := bind_ok.mp h
  obtain ⟨_, -, h⟩ := bind_ok.mp h
  cases h
  have hfields := require_ok.mp hsame
  simp only [Bool.and_eq_true, decide_eq_true_eq] at hfields
  exact hfields.2

/-- Harmless operations and then an exception. -/
theorem harmless_throws {α β : Type} {x : AlgoAct α} (hx : x.Within AlgoOp.isHarmless) {f : α → AlgoAct β}
    {w : MoveWorld} {ok : MoveWorld → β → Prop}
    (hf : ∀ w a, (f a).Keeps (moveProtocol sha256 fill authority placementCommandId start) w ok fun _ _ => True) :
    (x >>= f).Keeps (moveProtocol sha256 fill authority placementCommandId start) w ok fun _ _ => True := by
  have hrun : x.Keeps (moveProtocol sha256 fill authority placementCommandId start) w (fun _ _ => True)
      (fun _ _ => True) := harmless_keeps hx (fun _ _ _ h => h) trivial
  exact hrun.bind fun w' a _ => hf w' a

/-- A move response that is accepted proved the replacement active. -/
theorem acceptMoveResponse_proves {record : AlgoOrderRecord} {request : BrokerRequest} {response : BrokerResponse}
    {w : MoveWorld} (hheard : (⟨.send request, .ok response⟩ : AlgoStep) ∈ w.steps) (hpost : request.method = .post)
    (hrecord : record.clientAlgoId = clientAlgoIdText placementCommandId) {trigger : Decimal}
    (htrigger : validateRiskAuthority fill authority = .ok trigger) (hsame : record.triggerPrice = trigger) :
    (acceptMoveResponse record response).Keeps (moveProtocol sha256 fill authority placementCommandId start) w
      (fun w' _ => Proved fill authority placementCommandId w'.steps) (fun _ _ => True) := by
  unfold acceptMoveResponse
  split
  · exact harmless_throws (markAmbiguous_harmless _) fun _ _ => trivial
  rename_i hknown
  split
  · exact harmless_throws (perform_harmless (.finish _ _ _) trivial) fun _ _ => trivial
  rename_i hclient
  rw [acceptPlacementResponse, if_neg hknown, if_neg hclient]
  split
  · exact harmless_throws (markAmbiguous_harmless _) fun _ _ => trivial
  rename_i hstatus
  split
  · refine harmless_throws (markAmbiguous_harmless _) fun _ _ => ?_
    exact harmless_throws (failSafeIfOverdue_harmless _ _ _) fun _ _ => trivial
  · rename_i result hdecode
    obtain ⟨hactive, hclientId⟩ := decodeActiveProtection_ok hdecode
    have hproves : ProvesActive fill authority placementCommandId response :=
      ⟨by simpa using hstatus, record, trigger, result, htrigger, hdecode, hactive, hclientId.trans hrecord,
        by rw [decodeActiveProtection_trigger hdecode, hsame]⟩
    have hkept : (acceptActive record result).Keeps (moveProtocol sha256 fill authority placementCommandId start) w
        (fun w' _ => (⟨.send request, .ok response⟩ : AlgoStep) ∈ w'.steps)
        (fun w' _ => (⟨.send request, .ok response⟩ : AlgoStep) ∈ w'.steps) :=
      harmless_keeps (acceptActive_harmless record result) (fun w op choice h => mem_steps_answer w op choice h) hheard
    exact hkept.mono (fun w' _ h => ⟨request, response, h, hpost, hproves⟩) fun _ _ _ => trivial

/-- Sending a request the protocol allows. -/
theorem send_keeps {request : BrokerRequest} {w : MoveWorld} {ok : MoveWorld → BrokerResponse → Prop}
    {raised : MoveWorld → PyError → Prop}
    (hpost : request.method = .post → w.table.Claims placementCommandId ∧ ¬ start.Claims placementCommandId)
    (hdelete : request.method = .delete → Proved fill authority placementCommandId w.steps)
    (hok : ∀ w' response, (⟨.send request, .ok response⟩ : AlgoStep) ∈ w'.steps → ok w' response)
    (hraised : ∀ w' e, raised w' e) :
    (Action.perform (AlgoOp.send request) : AlgoAct BrokerResponse).Keeps
      (moveProtocol sha256 fill authority placementCommandId start) w ok raised := by
  refine (Action.keeps_perform w (AlgoOp.send request)).mpr ⟨⟨hpost, hdelete⟩, ?_, fun e w' _ => hraised w' e⟩
  rintro response w' ⟨choice, hanswer⟩
  obtain rfl : (MoveWorld.answer sha256 w (.send request) choice).2 = w' := congrArg Prod.snd hanswer
  have hreply : w.table.reply sha256 (.send request) choice = .ok response := congrArg Prod.fst hanswer
  refine hok _ response (List.mem_append_right _ ?_)
  rw [hreply]
  exact List.mem_singleton_self _

theorem withdraw_keeps {w : MoveWorld} (hproved : Proved fill authority placementCommandId w.steps) :
    (withdraw superseded).Keeps (moveProtocol sha256 fill authority placementCommandId start) w
      (fun _ _ => True) (fun _ _ => True) := by
  have hbuilt : (Action.ofExcept (buildProtectionCancel superseded) : AlgoAct BrokerRequest).Keeps
      (moveProtocol sha256 fill authority placementCommandId start) w
      (fun w' request => w' = w ∧ request.method = .delete) (fun _ _ => True) := by
    refine (Action.keeps_ofExcept w _).mpr ⟨fun request h => ⟨rfl, ?_⟩, fun _ _ => trivial⟩
    obtain ⟨_, -, h⟩ := bind_ok.mp h
    cases h
    rfl
  refine hbuilt.bind fun w' request hrequest => ?_
  obtain ⟨rfl, hdelete⟩ := hrequest
  have hanswered : (Action.perform (AlgoOp.send request) : AlgoAct BrokerResponse).Keeps
      (moveProtocol sha256 fill authority placementCommandId start) w' (fun _ _ => True) (fun _ _ => True) := by
    refine send_keeps (fun hpost => ?_) (fun _ => hproved) (fun _ _ _ => trivial) fun _ _ => trivial
    simp [hdelete] at hpost
  have hsend : (some <$> (Action.perform (AlgoOp.send request) : AlgoAct BrokerResponse)).Keeps
      (moveProtocol sha256 fill authority placementCommandId start) w' (fun _ _ => True) (fun _ _ => True) :=
    hanswered.bind fun _ _ _ => trivial
  have hmarked : ∀ w, (protectionMarkAmbiguous superseded).Keeps (moveProtocol sha256 fill authority placementCommandId start) w
      (fun _ _ => True) (fun _ _ => True) := fun w =>
    harmless_keeps (markAmbiguous_harmless superseded) (fun _ _ _ h => h) trivial
  refine Action.Keeps.bind (hsend.tryCatch fun w' caught _ => (hmarked w').bind fun w'' _ _ => ?_)
    fun w' response _ => ?_
  · split <;> trivial
  · cases response with
    | none => trivial
    | some response =>
      refine Action.Keeps.bind (m := fun _ _ => True)
        ((Action.keeps_ofExcept w' _).mpr ⟨fun _ _ => trivial, fun _ _ => trivial⟩) fun w'' absent _ => ?_
      split
      · exact harmless_throws (perform_harmless (.finish _ _ _) trivial) fun _ _ => trivial
      · exact hmarked w''

theorem placeMove_keeps_order {record : AlgoOrderRecord} {request : BrokerRequest} {w : MoveWorld}
    (hclaims : w.table.Claims placementCommandId ∧ ¬ start.Claims placementCommandId) (hpost : request.method = .post)
    (hrecord : record.clientAlgoId = clientAlgoIdText placementCommandId) {trigger : Decimal}
    (htrigger : validateRiskAuthority fill authority = .ok trigger) (hsame : record.triggerPrice = trigger) :
    (placeMove record request superseded).Keeps (moveProtocol sha256 fill authority placementCommandId start) w
      (fun _ _ => True) (fun _ _ => True) := by
  have hsend : (Action.perform (AlgoOp.send request) : AlgoAct BrokerResponse).Keeps
      (moveProtocol sha256 fill authority placementCommandId start) w
      (fun w' response => (⟨.send request, .ok response⟩ : AlgoStep) ∈ w'.steps) (fun _ _ => True) := by
    refine send_keeps (fun _ => hclaims) (fun hdelete => ?_) (fun _ _ h => h) fun _ _ => trivial
    simp [hpost] at hdelete
  refine Action.Keeps.bind (hsend.tryCatch fun w' caught _ => ?_) fun w' response hheard => ?_
  · exact harmless_throws (markAmbiguous_harmless _) fun _ _ => trivial
  · refine (acceptMoveResponse_proves hheard hpost hrecord htrigger hsame).bind fun w'' placed hproved => ?_
    exact (withdraw_keeps hproved).bind fun _ _ _ => trivial

/-- What a prepared placement says. -/
theorem placementRecord_ok {trigger : Decimal} {request : BrokerRequest} {clock : DateTime} {prepared : AlgoOrderRecord}
    (h : placementRecord sha256 fill trigger request (some placementCommandId) clock = .ok prepared) :
    prepared.clientAlgoId = clientAlgoIdText placementCommandId ∧ prepared.triggerPrice = trigger := by
  obtain ⟨_, -, h⟩ := bind_ok.mp h
  obtain ⟨_, -, h⟩ := bind_ok.mp h
  have hid := AlgoOrderRecord.prepared_ok h
  rw [Option.getD_some] at hid
  exact ⟨hid, AlgoOrderRecord.prepared_triggerPrice h⟩

theorem moveRequest_ok {working : Option AlgoOrderRecord} {trigger : Decimal} {request : BrokerRequest}
    (h : moveRequest sha256 fill authority placementCommandId working = .ok (trigger, request)) :
    validateRiskAuthority fill authority = .ok trigger ∧ request.method = .post := by
  obtain ⟨_, -, h⟩ := bind_ok.mp h
  obtain ⟨_, htrigger, h⟩ := bind_ok.mp h
  obtain ⟨_, hrequest, h⟩ := bind_ok.mp h
  cases h
  exact ⟨htrigger, buildProtectionRequest_method hrequest⟩

/-- A claim that was acquired is for the record that was prepared, whose row is in the table now. -/
theorem prepare_claims {w : MoveWorld} {prepared : AlgoOrderRecord} {choice : AlgoChoice} {claim : AlgoOrderClaim}
    (hid : prepared.clientAlgoId = clientAlgoIdText placementCommandId)
    (h : (MoveWorld.answer sha256 w (.prepare prepared) choice).1 = .ok claim) :
    (claim.acquired = true → claim.record = prepared ∧
      (MoveWorld.answer sha256 w (.prepare prepared) choice).2.table.Claims placementCommandId) ∧
    (w.table.Claims placementCommandId → claim.acquired = false) := by
  have hordinary : (∀ e took, choice ≠ .raise e took) ∧
      (AlgoTable.prepare sha256 w.table prepared).map Prod.snd = .ok claim := by
    cases choice with
    | raise e took => cases h
    | _ => exact ⟨fun _ _ => nofun, h⟩
  obtain ⟨hchoice, hprepare⟩ := hordinary
  cases hresult : AlgoTable.prepare sha256 w.table prepared with
  | error e =>
    rw [hresult] at hprepare
    cases hprepare
  | ok p =>
    obtain ⟨t', found⟩ := p
    rw [hresult] at hprepare
    obtain rfl : found = claim := Except.ok.inj hprepare
    have htable : (MoveWorld.answer sha256 w (.prepare prepared) choice).2.table = t' := by
      have heffect : (AlgoOp.prepare prepared).effect sha256 w.table = t' := by
        simp only [AlgoOp.effect, hresult]
        rfl
      cases choice with
      | raise e took => exact absurd rfl (hchoice e took)
      | _ => exact heffect
    have hclaimed := AlgoTable.prepare_ok hresult
    cases hclaimed with
    | acquired fresh valid checks absent rows =>
      refine ⟨fun _ => ⟨rfl, ?_⟩, fun hpresent => ?_⟩
      · rw [htable]
        unfold AlgoTable.Claims
        rw [rows, if_pos hid.symm]
        rfl
      · unfold AlgoTable.Claims at hpresent
        rw [← hid, absent] at hpresent
        cases hpresent
    | existing present readable =>
      exact ⟨nofun, fun _ => rfl⟩

/-- What an operation of the store or the clock leaves of a claim. -/
theorem perform_keeps_claim (op : AlgoOp) (hop : ∀ request, op ≠ .send request) {w : MoveWorld}
    (h : start.Claims placementCommandId → w.table.Claims placementCommandId) :
    (Action.perform op : AlgoAct op.Result).Keeps (moveProtocol sha256 fill authority placementCommandId start) w
      (fun w' _ => start.Claims placementCommandId → w'.table.Claims placementCommandId) (fun _ _ => True) :=
  perform_keeps op hop fun choice _ _ hclaims => claims_answer (h hclaims) op choice

/-- What a check leaves of it. -/
theorem ofExcept_keeps_claim {α : Type} {x : Except PyError α} {Q : α → Prop} (hx : ∀ a, x = .ok a → Q a)
    {w : MoveWorld} (h : start.Claims placementCommandId → w.table.Claims placementCommandId) :
    (Action.ofExcept x : AlgoAct α).Keeps (moveProtocol sha256 fill authority placementCommandId start) w
      (fun w' a => (start.Claims placementCommandId → w'.table.Claims placementCommandId) ∧ Q a) (fun _ _ => True) :=
  (Action.keeps_ofExcept w x).mpr ⟨fun a ha => ⟨h, hx a ha⟩, fun _ _ => trivial⟩

theorem moveStop_keeps_order {w : MoveWorld}
    (h : start.Claims placementCommandId → w.table.Claims placementCommandId) :
    (moveStop sha256 fill authority placementCommandId superseded).Keeps
      (moveProtocol sha256 fill authority placementCommandId start) w (fun _ _ => True) (fun _ _ => True) := by
  unfold moveStop
  refine (ofExcept_keeps_claim (Q := fun _ => True) (fun _ _ => trivial) h).bind fun w _ h => ?_
  refine (perform_keeps_claim (.loadByClientAlgoId superseded) (fun _ => by simp) h.1).bind fun w working h => ?_
  refine (ofExcept_keeps_claim (fun _ hp => moveRequest_ok hp) h).bind fun w p h => ?_
  obtain ⟨trigger, request⟩ := p
  obtain ⟨h, htrigger, hpost⟩ := h
  refine (perform_keeps_claim .clock (fun _ => by simp) h).bind fun w clock h => ?_
  refine (ofExcept_keeps_claim (fun _ hp => placementRecord_ok hp) h).bind fun w prepared h => ?_
  obtain ⟨h, hid, hsame⟩ := h
  refine Action.Keeps.bind (m := fun w' (claim : AlgoOrderClaim) => claim.acquired = true → claim.record = prepared ∧
      w'.table.Claims placementCommandId ∧ ¬ start.Claims placementCommandId)
    (perform_keeps (.prepare prepared) (fun _ => by simp) fun choice claim hclaim hacquired => ?_) fun w claim hclaim => ?_
  · obtain ⟨hnew, hold⟩ := prepare_claims hid hclaim
    obtain ⟨hrecord, hclaims⟩ := hnew hacquired
    refine ⟨hrecord, hclaims, fun hstart => ?_⟩
    have hfalse := hold (h hstart)
    rw [hacquired] at hfalse
    cases hfalse
  · split
    · rename_i hacquired
      obtain ⟨hrecord, hclaims⟩ := hclaim hacquired
      rw [hrecord]
      exact placeMove_keeps_order hclaims hpost hid htrigger hsame
    · exact harmless_keeps (existingOrRecoverStop_harmless sha256 claim.record) (fun _ _ _ h => h) trivial

variable (sha256 fill authority placementCommandId superseded) in
/-- So a run keeps to the order wherever it ends. -/
theorem runMove_inOrder (t : AlgoTable) (choices : List AlgoChoice) :
    InOrder fill authority placementCommandId t
      (runMove sha256 fill authority placementCommandId superseded t choices).1 := by
  have hkeeps : (moveStop sha256 fill authority placementCommandId superseded).Keeps
      (moveProtocol sha256 fill authority placementCommandId t) ⟨t, []⟩ (fun _ _ => True) (fun _ _ => True) :=
    moveStop_keeps_order fun h => h
  have hempty : InOrder fill authority placementCommandId t ⟨t, []⟩ := by
    constructor
    · intro before request answer after hsteps
      simp at hsteps
    · rintro ⟨request, answer, hmem, -⟩
      exact absurd hmem List.not_mem_nil
  have hmoves : ∀ w op choice, (moveProtocol sha256 fill authority placementCommandId t).moves w op
      (MoveWorld.answer sha256 w op choice).1 (MoveWorld.answer sha256 w op choice).2 :=
    fun w op choice => ⟨choice, rfl⟩
  exact Action.follow_keeps hmoves (fun w op choice h hallows => h.answer hallows choice) hkeeps hempty choices

/-! ### Runs of a placement that is claimed -/

theorem claims_runMove {t : AlgoTable} (h : t.Claims placementCommandId) (choices : List AlgoChoice) :
    (runMove sha256 fill authority placementCommandId superseded t choices).1.table.Claims placementCommandId := by
  have hkept : ∀ (p : Program PyError AlgoOp AlgoOp.Result (Except PyError ProtectionResult)) (w : MoveWorld),
      w.table.Claims placementCommandId →
      (p.follow (MoveWorld.answer sha256) w choices).1.table.Claims placementCommandId := by
    intro p
    induction choices generalizing p with
    | nil => cases p <;> exact fun _ h => h
    | cons choice choices ih =>
      cases p with
      | done a => exact fun _ h => h
      | perform o next => exact fun w h => ih _ _ (claims_answer h o choice)
  exact hkept _ _ h

theorem Proved.posted {steps : List AlgoStep} (h : Proved fill authority placementCommandId steps) :
    Sent .post steps := by
  obtain ⟨request, response, hmem, hpost, -⟩ := h
  exact ⟨request, .ok response, hmem, hpost⟩

theorem rerun_posts_nothing {t : AlgoTable} (h : t.Claims placementCommandId) (choices : List AlgoChoice) :
    ¬ Sent .post (runMove sha256 fill authority placementCommandId superseded t choices).1.steps :=
  fun hsent => ((runMove_inOrder sha256 fill authority placementCommandId superseded t choices).claims hsent).2 h

theorem rerun_withdraws_nothing {t : AlgoTable} (h : t.Claims placementCommandId) (choices : List AlgoChoice) :
    ¬ Sent .delete (runMove sha256 fill authority placementCommandId superseded t choices).1.steps := by
  rintro ⟨request, answer, hmem, hdelete⟩
  obtain ⟨before, after, hsteps⟩ := List.append_of_mem hmem
  have hproved := (runMove_inOrder sha256 fill authority placementCommandId superseded t choices).order before request answer after hsteps hdelete
  obtain ⟨request', answer', hmem', hpost⟩ := hproved.posted
  have hsent : Sent .post (runMove sha256 fill authority placementCommandId superseded t choices).1.steps := by
    refine ⟨request', answer', ?_, hpost⟩
    rw [hsteps]
    exact List.mem_append_left _ hmem'
  exact rerun_posts_nothing h choices hsent

/-! ### Moves that are run again -/

variable (sha256 fill authority placementCommandId superseded) in
/-- The attempts at one move, each ended or interrupted anywhere. Between two of them others may
write the table, but nothing takes a placement away. -/
inductive MoveHistory : AlgoTable → List AlgoStep → Prop
  | start (t : AlgoTable) : MoveHistory t []
  | attempt {t : AlgoTable} {steps : List AlgoStep} (choices : List AlgoChoice) : MoveHistory t steps →
      MoveHistory (runMove sha256 fill authority placementCommandId superseded t choices).1.table
        (steps ++ (runMove sha256 fill authority placementCommandId superseded t choices).1.steps)
  | elsewhere {t : AlgoTable} {steps : List AlgoStep} (t' : AlgoTable) : MoveHistory t steps →
      (t.Claims placementCommandId → t'.Claims placementCommandId) → MoveHistory t' steps

variable (fill authority placementCommandId) in
/-- The replacement became active: the table says so, or the venue did. -/
def BecameActive (t : AlgoTable) (steps : List AlgoStep) : Prop :=
  t.Active (clientAlgoIdText placementCommandId) ∨ Proved fill authority placementCommandId steps

/-- The superseded stop was withdrawn. -/
def Withdrawn (superseded : String) (steps : List AlgoStep) : Prop :=
  ∃ request answer, ⟨.send request, answer⟩ ∈ steps ∧ buildProtectionCancel superseded = .ok request

theorem Withdrawn.sent {steps : List AlgoStep} (h : Withdrawn superseded steps) : Sent .delete steps := by
  obtain ⟨request, answer, hmem, hcancel⟩ := h
  obtain ⟨_, -, hrequest⟩ := bind_ok.mp hcancel
  cases hrequest
  exact ⟨_, answer, hmem, rfl⟩

theorem withdrawn_append {steps more : List AlgoStep} (h : Withdrawn superseded (steps ++ more)) :
    Withdrawn superseded steps ∨ Withdrawn superseded more := by
  obtain ⟨request, answer, hmem, hcancel⟩ := h
  rcases List.mem_append.mp hmem with hold | hnew
  · exact .inl ⟨request, answer, hold, hcancel⟩
  · exact .inr ⟨request, answer, hnew, hcancel⟩

theorem Withdrawn.append {steps : List AlgoStep} (h : Withdrawn superseded steps) (more : List AlgoStep) :
    Withdrawn superseded (steps ++ more) := by
  obtain ⟨request, answer, hmem, hcancel⟩ := h
  exact ⟨request, answer, List.mem_append_left _ hmem, hcancel⟩

theorem sent_append {method : Method} {steps more : List AlgoStep} (h : Sent method (steps ++ more)) :
    Sent method steps ∨ Sent method more := by
  obtain ⟨request, answer, hmem, hmethod⟩ := h
  rcases List.mem_append.mp hmem with hold | hnew
  · exact .inl ⟨request, answer, hold, hmethod⟩
  · exact .inr ⟨request, answer, hnew, hmethod⟩

theorem Proved.mono {steps more : List AlgoStep} (h : Proved fill authority placementCommandId steps)
    (hsub : steps ⊆ more) : Proved fill authority placementCommandId more := by
  obtain ⟨request, response, hmem, hproof⟩ := h
  exact ⟨request, response, hsub hmem, hproof⟩

theorem MakesBeforeBreaks.append {steps more : List AlgoStep}
    (h : MakesBeforeBreaks fill authority placementCommandId steps)
    (hmore : MakesBeforeBreaks fill authority placementCommandId more) :
    MakesBeforeBreaks fill authority placementCommandId (steps ++ more) := by
  intro before request answer after hsteps hdelete
  rcases List.append_eq_append_iff.mp hsteps with ⟨middle, hbefore, hrest⟩ | ⟨middle, hbefore, hrest⟩
  · have hproved := hmore middle request answer after hrest hdelete
    exact hproved.mono (by rw [hbefore]; exact List.subset_append_right _ _)
  · cases middle with
    | nil =>
      have hproved := hmore [] request answer after hrest.symm hdelete
      exact hproved.mono (List.nil_subset _)
    | cons step middle =>
      obtain ⟨rfl, -⟩ := List.cons_eq_cons.mp hrest
      exact h before request answer middle hbefore hdelete

/-- What the attempts keep: the order, and the claim of what was posted. -/
theorem MoveHistory.inOrder {t : AlgoTable} {steps : List AlgoStep}
    (h : MoveHistory sha256 fill authority placementCommandId superseded t steps) :
    MakesBeforeBreaks fill authority placementCommandId steps ∧
      (Sent .post steps → t.Claims placementCommandId) := by
  induction h with
  | start t =>
    refine ⟨fun before request answer after hsteps => ?_, fun ⟨_, _, hmem, _⟩ => absurd hmem List.not_mem_nil⟩
    simp at hsteps
  | @attempt t steps choices _ ih =>
    obtain ⟨horder, hclaims⟩ := ih
    have hrun := runMove_inOrder sha256 fill authority placementCommandId superseded t choices
    refine ⟨horder.append hrun.order, fun hsent => ?_⟩
    rcases sent_append hsent with hold | hnew
    · exact claims_runMove (hclaims hold) choices
    · exact (hrun.claims hnew).1
  | elsewhere t' _ hkept ih => exact ⟨ih.1, fun hsent => hkept (ih.2 hsent)⟩

theorem MoveHistory.claims {t : AlgoTable} {steps : List AlgoStep}
    (h : MoveHistory sha256 fill authority placementCommandId superseded t steps)
    (hactive : BecameActive fill authority placementCommandId t steps) : t.Claims placementCommandId := by
  rcases hactive with ⟨row, hrow, -⟩ | hproved
  · unfold AlgoTable.Claims
    rw [hrow]
    rfl
  · exact h.inOrder.2 hproved.posted

end

/-- In every history of a move the old stop is withdrawn after the new one was proved active,
and once it is active no other is placed; but a move that is run again leaves the old stop
withdrawn exactly when an earlier attempt withdrew it. -/
theorem make_before_break_iff {sha256 : String → Digest} {fill : EntryFill} {authority : ProtectionAuthority}
    {placementCommandId : UUID} {superseded : String} {t : AlgoTable} {steps : List AlgoStep}
    (h : MoveHistory sha256 fill authority placementCommandId superseded t steps) :
    MakesBeforeBreaks fill authority placementCommandId steps ∧ ∀ choices,
      let again := runMove sha256 fill authority placementCommandId superseded t choices
      MakesBeforeBreaks fill authority placementCommandId (steps ++ again.1.steps) ∧
      (BecameActive fill authority placementCommandId t steps → ¬ Sent .post again.1.steps) ∧
      ∀ result, again.2 = some (.ok result) →
        ((BecameActive fill authority placementCommandId t steps → Withdrawn superseded (steps ++ again.1.steps)) ↔
          (BecameActive fill authority placementCommandId t steps → Withdrawn superseded steps)) := by
  refine ⟨h.inOrder.1, fun choices => ⟨(h.attempt choices).inOrder.1, fun hactive => ?_, fun result _ => ?_⟩⟩
  · exact rerun_posts_nothing (h.claims hactive) choices
  · constructor
    · intro hproperty hactive
      rcases withdrawn_append (hproperty hactive) with hearlier | hagain
      · exact hearlier
      · exact absurd hagain.sent (rerun_withdraws_nothing (h.claims hactive) choices)
    · exact fun hcondition hactive => (hcondition hactive).append _

/-! ### A sample move that is interrupted before it withdraws the old stop -/

def sampleSecond : DateTime := ⟨1000000, .utc⟩

/-- One run of the sample move. -/
def sampleRun (t : AlgoTable) (choices : List AlgoChoice) : MoveWorld × Option (Except PyError ProtectionResult) :=
  runMove sampleStopSha256 sampleStopFill (.approved (Decimal.ofNat 95) (Decimal.ofNat 2)) (sampleUuid 12)
    (clientAlgoIdText (sampleUuid 10)) t choices

/-- The replacement is posted and the process ends before it hears of it. -/
def sampleInterrupted : MoveWorld :=
  (sampleRun [sampleStop] [.proceed, .clock sampleSecond, .proceed, .raise ⟨.cancelledError, ""⟩ false]).1

def sampleRecovered : ProtectionResult where
  providerAlgoId := some "BINANCE-USDM-ALGO:2"
  clientAlgoId := clientAlgoIdText (sampleUuid 12)
  state := .active
  triggerPrice := Decimal.ofNat 95
  recovered := true
  emergencyClose := none

/-- The recovery finds the replacement active. -/
def sampleTable : AlgoTable :=
  AlgoOp.effect sampleStopSha256 sampleInterrupted.table
    (.finish (clientAlgoIdText (sampleUuid 12)) .active (some sampleRecovered))

def sampleRerun : MoveWorld × Option (Except PyError ProtectionResult) :=
  sampleRun sampleTable [.proceed, .clock sampleSecond, .proceed]

/-- No request of the steps is a withdrawal. -/
def keepsAll (steps : List AlgoStep) : Bool := steps.all fun step => !step.1.isWithdrawal

theorem not_withdrawn_of_keepsAll {superseded : String} {steps : List AlgoStep} (h : keepsAll steps = true) :
    ¬ Withdrawn superseded steps := by
  intro hwithdrawn
  obtain ⟨request, answer, hmem, hdelete⟩ := hwithdrawn.sent
  have hkept := List.all_eq_true.mp h _ hmem
  simp [AlgoOp.isWithdrawal, hdelete] at hkept

/-- The replacement is active, the re-run returns it, and nothing was withdrawn. -/
def sampleLeavesBoth : Bool :=
  (sampleTable.row? (clientAlgoIdText (sampleUuid 12))).any (fun row => decide (row.state = .active)) &&
    (match sampleRerun.2 with
      | some (.ok _) => true
      | _ => false) &&
    keepsAll (sampleInterrupted.steps ++ sampleRerun.1.steps)

theorem sampleLeavesBoth_eq : sampleLeavesBoth = true := by decide +kernel

theorem sampleTable_history :
    MoveHistory sampleStopSha256 sampleStopFill (.approved (Decimal.ofNat 95) (Decimal.ofNat 2)) (sampleUuid 12)
      (clientAlgoIdText (sampleUuid 10)) sampleTable sampleInterrupted.steps :=
  ((MoveHistory.start [sampleStop]).attempt _).elsewhere sampleTable fun h => claims_effect h _

theorem sampleTable_active : sampleTable.Active (clientAlgoIdText (sampleUuid 12)) := by
  have hboth := sampleLeavesBoth_eq
  simp only [sampleLeavesBoth, Bool.and_eq_true] at hboth
  cases hrow : sampleTable.row? (clientAlgoIdText (sampleUuid 12)) with
  | none =>
    rw [hrow] at hboth
    exact absurd hboth.1.1 Bool.false_ne_true
  | some row =>
    rw [hrow] at hboth
    exact ⟨row, hrow, of_decide_eq_true hboth.1.1⟩

theorem sampleRerun_returned : ∃ result, sampleRerun.2 = some (.ok result) := by
  have hboth := sampleLeavesBoth_eq
  simp only [sampleLeavesBoth, Bool.and_eq_true] at hboth
  have hreturned := hboth.1.2
  split at hreturned
  · exact ⟨_, by assumption⟩
  · cases hreturned

theorem sampleRerun_keepsAll : keepsAll (sampleInterrupted.steps ++ sampleRerun.1.steps) = true := by
  have hboth := sampleLeavesBoth_eq
  simp only [sampleLeavesBoth, Bool.and_eq_true] at hboth
  exact hboth.2

/-- The interrupted attempt sent no withdrawal, and so the run after it leaves the old stop. -/
theorem make_before_break_iff_interrupted :
    ¬ Withdrawn (clientAlgoIdText (sampleUuid 10)) (sampleInterrupted.steps ++ sampleRerun.1.steps) := by
  obtain ⟨result, hreturned⟩ := sampleRerun_returned
  have hiff := ((make_before_break_iff sampleTable_history).2 _).2.2 result hreturned
  intro hwithdrawn
  have hearlier := hiff.mp (fun _ => hwithdrawn) (.inl sampleTable_active)
  exact not_withdrawn_of_keepsAll sampleRerun_keepsAll (hearlier.append _)

/-- The re-run returns the active replacement and leaves the old stop beside it. -/
theorem make_before_break_fails :
    MoveHistory sampleStopSha256 sampleStopFill (.approved (Decimal.ofNat 95) (Decimal.ofNat 2)) (sampleUuid 12)
        (clientAlgoIdText (sampleUuid 10)) sampleTable sampleInterrupted.steps ∧
      sampleTable.Active (clientAlgoIdText (sampleUuid 12)) ∧ (∃ result, sampleRerun.2 = some (.ok result)) ∧
      ¬ Withdrawn (clientAlgoIdText (sampleUuid 10)) (sampleInterrupted.steps ++ sampleRerun.1.steps) :=
  ⟨sampleTable_history, sampleTable_active, sampleRerun_returned, not_withdrawn_of_keepsAll sampleRerun_keepsAll⟩

end AutoTrader.Binance
