import AutoTrader.Binance.MakeBeforeBreak

/-! `LiveBrokerSubmitter`: the dispatch protocol on behalf of the venue's account. Which stop a
protective command places, the first one of an entry or a move, is read from the table of stops;
a recovery reads it again, from a table the submission itself has changed. -/

namespace AutoTrader.Binance

open AutoTrader.Domain AutoTrader.Execution AutoTrader.Runtime

structure ProtectionPlacement where
  fill : EntryFill
  authority : ProtectionAuthority
  supersededClientAlgoId : Option String

structure LiveSubmission where
  brokerOrderId : String
  deriving DecidableEq

/-- The later of two rows of the query, the first on a tie. -/
def laterPrepared (best : Option AlgoOrderRecord) (row : AlgoOrderRecord) : Option AlgoOrderRecord :=
  match best with
  | none => some row
  | some best => if best.preparedAt < row.preparedAt then some row else some best

def isWorkingStop (entryCommandId : UUID) (row : AlgoOrderRecord) : Bool :=
  row.entryFill.entryCommandId = entryCommandId && row.state = .active

/-- `_working_stop`: the active stop of an entry that was prepared last. -/
def AlgoTable.workingStop (t : AlgoTable) (entryCommandId : UUID) : Option String :=
  ((t.filter (isWorkingStop entryCommandId)).foldl laterPrepared none).map (·.clientAlgoId)

/-- `placement_for`, on the entry fill that was read for the command. -/
def placementFor (fill : EntryFill) (t : AlgoTable) (command : BrokerOrderCommand) :
    Except PyError ProtectionPlacement :=
  match command.triggerPrice with
  | none => .error ⟨.protectionContextUnavailable, "a command with no trigger price is not a protective stop"⟩
  | some triggerPrice => .ok
    { fill := fill
      authority := .approved triggerPrice command.quantity
      supersededClientAlgoId := t.workingStop fill.entryCommandId }

def submissionUnsupported (message : String) : PyError := ⟨.runtimeError, message⟩

/-- `_receipt`. -/
def liveReceipt (result : ProtectionResult) : Except PyError LiveSubmission :=
  match result.providerAlgoId with
  | none => .error (submissionUnsupported "Binance USD-M protection ended in an emergency close, not an order")
  | some provider => .ok ⟨provider⟩

/-- `_protection_client_algo_id`: a first placement is filed under the entry's id, a move under
its own. -/
def protectionClientAlgoId (command : BrokerOrderCommand) (placement : ProtectionPlacement) : Except PyError String :=
  match placement.supersededClientAlgoId with
  | none => binanceProtectionClientAlgoId placement.fill.entryCommandId
  | some _ => binanceProtectionClientAlgoId command.id

/-- `_require`. -/
def requireCommandType (command : BrokerOrderCommand) (expected : CommandType) : Except PyError Unit :=
  require (command.commandType = expected)
    (valueError ("Binance USD-M dispatch expected a " ++ expected.value ++ " command"))

section

variable (sha256 : String → Digest) (context : BrokerOrderCommand → Except PyError ProtectionPlacement)

/-- `_place`. -/
def placeStop (command : BrokerOrderCommand) : AlgoAct LiveSubmission := do
  let placement ← Action.ofExcept (context command)
  let placed : AlgoAct ProtectionResult :=
    match placement.supersededClientAlgoId with
    | none => protectFirstFill sha256 placement.fill placement.authority
    | some superseded => moveStop sha256 placement.fill placement.authority command.id superseded
  let result ← placed.tryCatch fun caught =>
    if caught.kind = .binanceUsdmProtectionRejected then throw ⟨.brokerSubmissionRejected, caught.message⟩
    else throw caught
  Action.ofExcept (liveReceipt result)

def liveSubmit (command : BrokerOrderCommand) : AlgoAct LiveSubmission := do
  Action.ofExcept (requireCommandType command .submit)
  if command.triggerPrice.isNone then
    let result ← (Action.perform (AlgoOp.submitLocked command) : AlgoAct BrokerWriteResult)
    pure ⟨result.brokerOrderId⟩
  else placeStop sha256 context command

def liveCancel (command : BrokerOrderCommand) : AlgoAct LiveSubmission := do
  Action.ofExcept (requireCommandType command .cancel)
  if command.triggerPrice.isNone then
    throw (submissionUnsupported "a Binance USD-M market order has no working state to cancel")
  else throw (submissionUnsupported
    "a Binance USD-M protective stop is withdrawn by the move that replaces it, never on its own")

def liveReplace (command : BrokerOrderCommand) : AlgoAct LiveSubmission := do
  Action.ofExcept (requireCommandType command .replace)
  if command.triggerPrice.isNone then
    throw (submissionUnsupported "a Binance USD-M market order has no working state to replace")
  else placeStop sha256 context command

def liveRecoverSubmit (command : BrokerOrderCommand) : AlgoAct LiveSubmission :=
  if command.triggerPrice.isNone then do
    let result ← (Action.perform (AlgoOp.recoverByClientId command.brokerClientOrderId) : AlgoAct BrokerWriteResult)
    pure ⟨result.brokerOrderId⟩
  else do
    let placement ← Action.ofExcept (context command)
    let clientAlgoId ← Action.ofExcept (protectionClientAlgoId command placement)
    let recovered ← recoverByClientAlgoId sha256 clientAlgoId
    Action.ofExcept (liveReceipt recovered)

end

/-- The dispatch of a command, by its type. -/
def liveDispatch (sha256 : String → Digest) (context : BrokerOrderCommand → Except PyError ProtectionPlacement)
    (command : BrokerOrderCommand) : AlgoAct LiveSubmission :=
  match command.commandType with
  | .submit => liveSubmit sha256 context command
  | .cancel => liveCancel command
  | .replace => liveReplace sha256 context command

/-! ### The stops a submission claims -/

/-- The command whose id a placement is filed under. -/
def placementIdOf (command : BrokerOrderCommand) (placement : ProtectionPlacement) : UUID :=
  match placement.supersededClientAlgoId with
  | none => placement.fill.entryCommandId
  | some _ => command.id

theorem protectionClientAlgoId_eq (command : BrokerOrderCommand) (placement : ProtectionPlacement) :
    protectionClientAlgoId command placement = binanceProtectionClientAlgoId (placementIdOf command placement) := by
  unfold protectionClientAlgoId placementIdOf
  cases placement.supersededClientAlgoId <;> rfl

/-- Whatever is claimed is claimed under the id of one command. -/
def AlgoOp.claimsFor (placementId : UUID) : AlgoOp → Prop
  | .prepare record => binanceProtectionClientAlgoId placementId = .ok record.clientAlgoId
  | _ => True

section Claims

variable {sha256 : String → Digest} {placementId : UUID}

theorem claimsFor_of_harmless {α : Type} {x : AlgoAct α} (h : x.Within AlgoOp.isHarmless) :
    x.Within (AlgoOp.claimsFor placementId) := by
  refine h.mono fun op hop => ?_
  cases op with
  | prepare record => exact absurd hop id
  | _ => trivial

theorem send_claimsFor (request : BrokerRequest) :
    (Action.perform (AlgoOp.send request) : AlgoAct BrokerResponse).Within (AlgoOp.claimsFor placementId) :=
  Action.within_perform trivial

theorem finish_claimsFor (id : String) (state : AlgoOrderState) (result : Option ProtectionResult) :
    (Action.perform (AlgoOp.finish id state result) : AlgoAct AlgoOrderRecord).Within
      (AlgoOp.claimsFor placementId) :=
  Action.within_perform trivial

theorem acceptPlacementResponse_claimsFor (record : AlgoOrderRecord) (response : BrokerResponse) :
    (acceptPlacementResponse record response).Within (AlgoOp.claimsFor placementId) := by
  have hmark : (protectionMarkAmbiguous record.clientAlgoId).Within (AlgoOp.claimsFor placementId) :=
    claimsFor_of_harmless (markAmbiguous_harmless _)
  unfold acceptPlacementResponse
  split
  · exact hmark.bind fun _ => claimsFor_of_harmless (unresolved_harmless _ _)
  split
  · refine (finish_claimsFor _ _ _).bind fun _ => ?_
    exact (claimsFor_of_harmless (failSafe_harmless _ _ _)).bind fun _ => Action.within_throw _
  split
  · exact hmark.bind fun _ => Action.within_throw _
  split
  · exact hmark.bind fun _ => claimsFor_of_harmless (unresolved_harmless _ _)
  · exact claimsFor_of_harmless (acceptActive_harmless _ _)

theorem acceptMoveResponse_claimsFor (record : AlgoOrderRecord) (response : BrokerResponse) :
    (acceptMoveResponse record response).Within (AlgoOp.claimsFor placementId) := by
  unfold acceptMoveResponse
  split
  · exact (claimsFor_of_harmless (markAmbiguous_harmless _)).bind fun _ => Action.within_throw _
  split
  · exact (finish_claimsFor _ _ _).bind fun _ => Action.within_throw _
  · exact acceptPlacementResponse_claimsFor _ _

theorem withdraw_claimsFor (superseded : String) : (withdraw superseded).Within (AlgoOp.claimsFor placementId) := by
  have hmark : (protectionMarkAmbiguous superseded).Within (AlgoOp.claimsFor placementId) :=
    claimsFor_of_harmless (markAmbiguous_harmless _)
  refine (Action.within_ofExcept _).bind fun request => Action.Within.bind ?_ fun response => ?_
  · refine Action.Within.tryCatch ((send_claimsFor request).bind fun _ => Action.within_pure _) fun caught => ?_
    refine hmark.bind fun _ => ?_
    split
    · exact Action.within_throw _
    · exact Action.within_pure _
  · cases response with
    | none => exact Action.within_pure _
    | some response =>
      refine (Action.within_ofExcept _).bind fun absent => ?_
      split
      · exact (finish_claimsFor _ _ _).bind fun _ => Action.within_pure _
      · exact hmark

theorem placeMove_claimsFor (record : AlgoOrderRecord) (request : BrokerRequest) (superseded : String) :
    (placeMove record request superseded).Within (AlgoOp.claimsFor placementId) := by
  refine Action.Within.bind ?_ fun response => ?_
  · refine (send_claimsFor request).tryCatch fun caught => ?_
    exact (claimsFor_of_harmless (markAmbiguous_harmless _)).bind fun _ => Action.within_throw _
  · refine (acceptMoveResponse_claimsFor _ _).bind fun placed => ?_
    exact (withdraw_claimsFor _).bind fun _ => Action.within_pure _

theorem placeFirstStop_claimsFor (record : AlgoOrderRecord) (request : BrokerRequest) :
    (placeFirstStop record request).Within (AlgoOp.claimsFor placementId) := by
  refine Action.Within.bind ?_ fun response => acceptPlacementResponse_claimsFor _ _
  refine (send_claimsFor request).tryCatch fun caught => ?_
  refine (claimsFor_of_harmless (markAmbiguous_harmless _)).bind fun _ => ?_
  split
  · exact Action.within_throw _
  · exact claimsFor_of_harmless (unresolved_harmless _ _)

theorem placementRecord_id {fill : EntryFill} {trigger : Decimal} {request : BrokerRequest}
    {placementCommandId : Option UUID} {clock : DateTime} {prepared : AlgoOrderRecord}
    (h : placementRecord sha256 fill trigger request placementCommandId clock = .ok prepared) :
    binanceProtectionClientAlgoId (placementCommandId.getD fill.entryCommandId) = .ok prepared.clientAlgoId := by
  obtain ⟨_, -, h⟩ := bind_ok.mp h
  obtain ⟨_, -, h⟩ := bind_ok.mp h
  exact AlgoOrderRecord.prepared_id h

theorem prepare_claimsFor {prepared : AlgoOrderRecord}
    (h : binanceProtectionClientAlgoId placementId = .ok prepared.clientAlgoId) :
    (Action.perform (AlgoOp.prepare prepared) : AlgoAct AlgoOrderClaim).Within (AlgoOp.claimsFor placementId) :=
  Action.within_perform h

theorem moveStop_claimsFor (fill : EntryFill) (authority : ProtectionAuthority) (placementCommandId : UUID)
    (superseded : String) :
    (moveStop sha256 fill authority placementCommandId superseded).Within (AlgoOp.claimsFor placementCommandId) := by
  refine (Action.within_ofExcept _).bind fun _ => ?_
  refine (claimsFor_of_harmless (perform_harmless (.loadByClientAlgoId superseded) trivial)).bind fun working => ?_
  refine (Action.within_ofExcept _).bind fun p => ?_
  refine (claimsFor_of_harmless (perform_harmless .clock trivial)).bind fun clock => ?_
  refine Action.Within.ofExcept_bind fun prepared hprepared => ?_
  refine (prepare_claimsFor (placementRecord_id hprepared)).bind fun claim => ?_
  split
  · exact placeMove_claimsFor _ _ _
  · exact claimsFor_of_harmless (existingOrRecoverStop_harmless _ _)

theorem claimFirstStop_claimsFor (fill : EntryFill) (authority : ProtectionAuthority) :
    (claimFirstStop sha256 fill authority).Within (AlgoOp.claimsFor fill.entryCommandId) := by
  refine (Action.within_ofExcept _).bind fun _ => (Action.within_ofExcept _).bind fun trigger => ?_
  refine (Action.within_ofExcept _).bind fun request => ?_
  refine (claimsFor_of_harmless (perform_harmless .clock trivial)).bind fun clock => ?_
  refine Action.Within.ofExcept_bind fun prepared hprepared => ?_
  refine (prepare_claimsFor (placementRecord_id hprepared)).bind fun claim => ?_
  split
  · refine (Action.within_ofExcept _).bind fun _ => ?_
    exact claimsFor_of_harmless (existingOrRecoverStop_harmless _ _)
  · refine (Action.within_ofExcept _).bind fun late => ?_
    split
    · exact (claimsFor_of_harmless (failSafe_harmless _ _ _)).bind fun _ => Action.within_throw _
    · exact placeFirstStop_claimsFor _ _

theorem protectFirstFill_claimsFor (fill : EntryFill) (authority : ProtectionAuthority) :
    (protectFirstFill sha256 fill authority).Within (AlgoOp.claimsFor fill.entryCommandId) := by
  refine (Action.within_ofExcept _).bind fun _ => (Action.within_ofExcept _).bind fun clientAlgoId => ?_
  refine (claimsFor_of_harmless (perform_harmless (.loadByClientAlgoId clientAlgoId) trivial)).bind fun found => ?_
  cases found with
  | some existing =>
    refine (Action.within_ofExcept _).bind fun _ => ?_
    exact claimsFor_of_harmless (existingOrRecoverStop_harmless _ _)
  | none => exact claimFirstStop_claimsFor _ _

/-- A protective command claims its stop under the id that its placement says. -/
theorem placeStop_claimsFor {context : BrokerOrderCommand → Except PyError ProtectionPlacement}
    {command : BrokerOrderCommand} {placement : ProtectionPlacement} (h : context command = .ok placement) :
    (placeStop sha256 context command).Within
      (AlgoOp.claimsFor (placementIdOf command placement)) := by
  refine Action.Within.ofExcept_bind fun placement' hplacement => ?_
  obtain rfl : placement' = placement := Except.ok.inj (hplacement.symm.trans h)
  refine Action.Within.bind (Action.Within.tryCatch ?_ fun caught => ?_) fun result => Action.within_ofExcept _
  · unfold placementIdOf
    split
    · exact protectFirstFill_claimsFor _ _
    · exact moveStop_claimsFor _ _ _ _
  · split
    · exact Action.within_throw _
    · exact Action.within_throw _

theorem liveDispatch_claimsFor {context : BrokerOrderCommand → Except PyError ProtectionPlacement}
    {command : BrokerOrderCommand} {placement : ProtectionPlacement} (h : context command = .ok placement) :
    (liveDispatch sha256 context command).Within
      (AlgoOp.claimsFor (placementIdOf command placement)) := by
  unfold liveDispatch
  split
  · refine (Action.within_ofExcept _).bind fun _ => ?_
    split
    · exact (Action.within_perform trivial).bind fun _ => Action.within_pure _
    · exact placeStop_claimsFor h
  · refine (Action.within_ofExcept _).bind fun _ => ?_
    split
    · exact Action.within_throw _
    · exact Action.within_throw _
  · refine (Action.within_ofExcept _).bind fun _ => ?_
    split
    · exact Action.within_throw _
    · exact placeStop_claimsFor h

end Claims

/-! ### What a recovery asks about -/

section Recovery

variable (sha256 : String → Digest)

/-- A submission or a recovery against the table, which ends where the choices end. -/
def runLive (x : AlgoAct LiveSubmission) (t : AlgoTable) (choices : List AlgoChoice) :
    MoveWorld × Option (Except PyError LiveSubmission) :=
  x.run.follow (MoveWorld.answer sha256) ⟨t, []⟩ choices

/-- The placement was claimed under a client algo id. -/
def ClaimedUnder (clientAlgoId : String) (steps : List AlgoStep) : Prop :=
  ∃ record answer, ⟨.prepare record, answer⟩ ∈ steps ∧ record.clientAlgoId = clientAlgoId

/-- The first thing every run does is to look up a client algo id. -/
def LooksUp (clientAlgoId : String) (t : AlgoTable) (x : AlgoAct LiveSubmission) : Prop :=
  ∀ choice choices, ∃ answer rest,
    (runLive sha256 x t (choice :: choices)).1.steps = ⟨.loadByClientAlgoId clientAlgoId, answer⟩ :: rest

variable {sha256}

theorem claimed_id {x : AlgoAct LiveSubmission} {placementId : UUID} (hx : x.Within (AlgoOp.claimsFor placementId))
    {t : AlgoTable} {choices : List AlgoChoice} {clientAlgoId : String}
    (h : ClaimedUnder clientAlgoId (runLive sha256 x t choices).1.steps) :
    binanceProtectionClientAlgoId placementId = .ok clientAlgoId := by
  have hall : ∀ step ∈ (runLive sha256 x t choices).1.steps, AlgoOp.claimsFor placementId step.1 := by
    have hstep : ∀ (w : MoveWorld) op choice, (∀ step ∈ w.steps, AlgoOp.claimsFor placementId step.1) →
        AlgoOp.claimsFor placementId op →
        ∀ step ∈ (MoveWorld.answer sha256 w op choice).2.steps, AlgoOp.claimsFor placementId step.1 := by
      intro w op choice hw hop step hmem
      rcases List.mem_append.mp hmem with hold | hnew
      · exact hw step hold
      · rw [List.mem_singleton.mp hnew]
        exact hop
    exact Program.Within.follow hstep hx (fun step hmem => absurd hmem List.not_mem_nil) choices
  obtain ⟨record, answer, hmem, rfl⟩ := h
  exact hall _ hmem

variable (sha256) in
theorem steps_prefix {α : Type} (p : Program PyError AlgoOp AlgoOp.Result α) (w : MoveWorld)
    (choices : List AlgoChoice) : w.steps <+: (p.follow (MoveWorld.answer sha256) w choices).1.steps := by
  induction choices generalizing p w with
  | nil => cases p <;> exact List.prefix_refl _
  | cons choice choices ih =>
    cases p with
    | done a => exact List.prefix_refl _
    | perform o next =>
      have hstep : w.steps <+: (MoveWorld.answer sha256 w o choice).2.steps := List.prefix_append _ _
      exact hstep.trans (ih _ _)

variable (sha256) in
/-- A recovery that knows its placement starts with the look-up of one stop, or it ends. -/
theorem liveRecoverSubmit_run {context : BrokerOrderCommand → Except PyError ProtectionPlacement}
    {command : BrokerOrderCommand} {placement : ProtectionPlacement} (htrigger : command.triggerPrice.isSome)
    (hcontext : context command = .ok placement) :
    match binanceProtectionClientAlgoId (placementIdOf command placement) with
    | .error e => (liveRecoverSubmit sha256 context command).run = .done (.error e)
    | .ok asked => ∃ next, (liveRecoverSubmit sha256 context command).run = .perform (.loadByClientAlgoId asked) next := by
  have hprotective : ¬ command.triggerPrice.isNone := by
    rw [Option.isNone_iff_eq_none]
    intro hnone
    rw [hnone] at htrigger
    cases htrigger
  unfold liveRecoverSubmit
  rw [if_neg hprotective, hcontext]
  rw [← protectionClientAlgoId_eq]
  cases hid : protectionClientAlgoId command placement with
  | error e =>
    show (Action.ofExcept (protectionClientAlgoId command placement) >>= _ : AlgoAct LiveSubmission).run = _
    rw [hid]
    rfl
  | ok asked =>
    have hasked := binanceProtectionClientAlgoId_ok.mp ((protectionClientAlgoId_eq command placement).symm.trans hid)
    have hvalid : requireClientAlgoId asked = .ok () := by
      rw [hasked.2]
      exact require_ok.mpr (clientAlgoIdText_isClientOrderId _)
    show ∃ next, (Action.ofExcept (protectionClientAlgoId command placement) >>= _ : AlgoAct LiveSubmission).run = _
    rw [hid]
    show ∃ next, (recoverByClientAlgoId sha256 asked >>= _ : AlgoAct LiveSubmission).run = _
    unfold recoverByClientAlgoId
    rw [hvalid]
    exact ⟨_, rfl⟩

theorem looksUp_iff {context : BrokerOrderCommand → Except PyError ProtectionPlacement}
    {command : BrokerOrderCommand} {placement : ProtectionPlacement} (htrigger : command.triggerPrice.isSome)
    (hcontext : context command = .ok placement) {t : AlgoTable} {clientAlgoId : String} :
    LooksUp sha256 clientAlgoId t (liveRecoverSubmit sha256 context command) ↔
      binanceProtectionClientAlgoId (placementIdOf command placement) = .ok clientAlgoId := by
  have hrun := liveRecoverSubmit_run sha256 htrigger hcontext
  cases hid : binanceProtectionClientAlgoId (placementIdOf command placement) with
  | error e =>
    rw [hid] at hrun
    constructor
    · intro hlooks
      obtain ⟨answer, rest, hsteps⟩ := hlooks .proceed []
      unfold runLive at hsteps
      rw [hrun] at hsteps
      cases hsteps
    · exact fun h => by cases h
  | ok asked =>
    rw [hid] at hrun
    obtain ⟨next, hnext⟩ := hrun
    have hfirst : ∀ choice choices, ∃ answer rest,
        (runLive sha256 (liveRecoverSubmit sha256 context command) t (choice :: choices)).1.steps =
          ⟨.loadByClientAlgoId asked, answer⟩ :: rest := by
      intro choice choices
      unfold runLive
      rw [hnext]
      obtain ⟨rest, hrest⟩ := steps_prefix sha256
        (next (MoveWorld.answer sha256 ⟨t, []⟩ (.loadByClientAlgoId asked) choice).1)
        (MoveWorld.answer sha256 ⟨t, []⟩ (.loadByClientAlgoId asked) choice).2 choices
      exact ⟨_, rest, hrest.symm⟩
    constructor
    · intro hlooks
      obtain ⟨answer, rest, hsteps⟩ := hlooks .proceed []
      obtain ⟨answer', rest', hsteps'⟩ := hfirst .proceed []
      have hsame := hsteps'.symm.trans hsteps
      have hop : AlgoOp.loadByClientAlgoId asked = .loadByClientAlgoId clientAlgoId :=
        congrArg Sigma.fst (List.cons_eq_cons.mp hsame).1
      injection hop with hask
      rw [hask]
    · intro hsame
      obtain rfl := Except.ok.inj hsame
      exact hfirst

theorem clientAlgoIdText_injective {a b : UUID} (h : clientAlgoIdText a = clientAlgoIdText b) : a = b := by
  have hchars := congrArg String.toList h
  simp only [clientAlgoIdText, String.toList_ofList, List.cons.injEq, true_and] at hchars
  exact UUID.hex_injective hchars

end Recovery

/-- A recovery asks about the stop that was claimed exactly when a stop of the entry works then if and only
if one worked at the submission, and a first placement is still asked for under the same entry. -/
theorem recovery_asks_iff {sha256 : String → Digest} {command : BrokerOrderCommand}
    (htrigger : command.triggerPrice.isSome) {fill fill' : EntryFill} (hown : command.id ≠ fill.entryCommandId)
    (hown' : command.id ≠ fill'.entryCommandId) {t : AlgoTable} {choices : List AlgoChoice} {clientAlgoId : String}
    (hclaimed : ClaimedUnder clientAlgoId
      (runLive sha256 (liveDispatch sha256 (placementFor fill t) command) t choices).1.steps) (t' : AlgoTable) :
    LooksUp sha256 clientAlgoId t' (liveRecoverSubmit sha256 (placementFor fill' t') command) ↔
      ((t.workingStop fill.entryCommandId).isSome ↔ (t'.workingStop fill'.entryCommandId).isSome) ∧
      (t.workingStop fill.entryCommandId = none → fill'.entryCommandId = fill.entryCommandId) := by
  obtain ⟨trigger, hprice⟩ := Option.isSome_iff_exists.mp htrigger
  have hplaced : ∀ fill t, placementFor fill t command =
      .ok ⟨fill, .approved trigger command.quantity, t.workingStop fill.entryCommandId⟩ := by
    intro fill t
    rw [placementFor, hprice]
  have hsubmitted := claimed_id (liveDispatch_claimsFor (hplaced fill t)) hclaimed
  rw [looksUp_iff htrigger (hplaced fill' t')]
  have hsame : binanceProtectionClientAlgoId (placementIdOf command
        ⟨fill', .approved trigger command.quantity, t'.workingStop fill'.entryCommandId⟩) = .ok clientAlgoId ↔
      placementIdOf command ⟨fill', .approved trigger command.quantity, t'.workingStop fill'.entryCommandId⟩ =
        placementIdOf command ⟨fill, .approved trigger command.quantity, t.workingStop fill.entryCommandId⟩ := by
    constructor
    · intro hrecovered
      have hid := (binanceProtectionClientAlgoId_ok.mp hrecovered).2
      exact clientAlgoIdText_injective (hid.symm.trans (binanceProtectionClientAlgoId_ok.mp hsubmitted).2)
    · intro heq
      rw [heq]
      exact hsubmitted
  rw [hsame]
  unfold placementIdOf
  cases t.workingStop fill.entryCommandId with
  | none =>
    cases t'.workingStop fill'.entryCommandId with
    | none => simp
    | some superseded' => simpa using hown
  | some superseded =>
    cases t'.workingStop fill'.entryCommandId with
    | none => simpa using hown'.symm
    | some superseded' => simp

/-! ### A first stop that is recovered after it became active -/

/-- The stop at 90 of the sample fill. -/
def sampleProtective : BrokerOrderCommand :=
  { sampleCommand with
    id := sampleUuid 12
    commandType := .submit
    quantity := Decimal.ofNat 2
    triggerPrice := some (Decimal.ofNat 90) }

/-- The submission, up to its claim. -/
def sampleSubmission : MoveWorld × Option (Except PyError LiveSubmission) :=
  runLive sampleStopSha256 (liveDispatch sampleStopSha256 (placementFor sampleStopFill []) sampleProtective) []
    [.proceed, .clock sampleSecond, .proceed]

def sampleActivated : ProtectionResult :=
  { sampleRecovered with
    providerAlgoId := some "BINANCE-USDM-ALGO:1"
    clientAlgoId := clientAlgoIdText (sampleUuid 10)
    triggerPrice := Decimal.ofNat 90
    recovered := false }

/-- The table once the stop is active. -/
def sampleActiveTable : AlgoTable :=
  AlgoOp.effect sampleStopSha256 sampleSubmission.1.table
    (.finish (clientAlgoIdText (sampleUuid 10)) .active (some sampleActivated))

def sampleClaims (clientAlgoId : String) : Bool :=
  sampleSubmission.1.steps.any fun step =>
    match step.1 with
    | .prepare record => record.clientAlgoId = clientAlgoId
    | _ => false

theorem sampleSubmission_claimed : ClaimedUnder (clientAlgoIdText (sampleUuid 10)) sampleSubmission.1.steps := by
  have hclaims : sampleClaims (clientAlgoIdText (sampleUuid 10)) = true := by decide +kernel
  obtain ⟨⟨op, answer⟩, hmem, hstep⟩ := List.any_eq_true.mp hclaims
  cases op with
  | prepare record => exact ⟨record, answer, hmem, of_decide_eq_true hstep⟩
  | _ => cases hstep

theorem sampleActiveTable_works : (sampleActiveTable.workingStop sampleStopFill.entryCommandId).isSome := by
  decide +kernel

theorem recovery_asks_iff_first : ¬ LooksUp sampleStopSha256 (clientAlgoIdText (sampleUuid 10)) sampleActiveTable
    (liveRecoverSubmit sampleStopSha256 (placementFor sampleStopFill sampleActiveTable) sampleProtective) := by
  rw [recovery_asks_iff rfl (by decide) (by decide) sampleSubmission_claimed sampleActiveTable]
  intro hsame
  have hworked := hsame.1.mpr sampleActiveTable_works
  exact absurd hworked (by decide)

/-- The stop was claimed under the entry's id; once it is active, the recovery asks for one under the
command's. -/
theorem recovery_asks_fails :
    ClaimedUnder (clientAlgoIdText (sampleUuid 10)) sampleSubmission.1.steps ∧
      ¬ LooksUp sampleStopSha256 (clientAlgoIdText (sampleUuid 10)) sampleActiveTable
        (liveRecoverSubmit sampleStopSha256 (placementFor sampleStopFill sampleActiveTable) sampleProtective) := by
  refine ⟨sampleSubmission_claimed, fun hlooks => ?_⟩
  obtain ⟨superseded, hworks⟩ := Option.isSome_iff_exists.mp sampleActiveTable_works
  have hplaced : placementFor sampleStopFill sampleActiveTable sampleProtective =
      .ok ⟨sampleStopFill, .approved (Decimal.ofNat 90) (Decimal.ofNat 2), some superseded⟩ := by
    rw [← hworks]
    rfl
  have hasked := (binanceProtectionClientAlgoId_ok.mp ((looksUp_iff rfl hplaced).mp hlooks)).2
  have hsame : sampleUuid 10 = sampleUuid 12 := clientAlgoIdText_injective hasked
  exact absurd hsame (by decide)

end AutoTrader.Binance
