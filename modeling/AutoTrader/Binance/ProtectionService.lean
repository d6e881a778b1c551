import AutoTrader.Binance.ProtectionStore
import AutoTrader.Runtime.Program

/-! `BinanceUsdmProtectionService` over its clock, its store, its sender, the emergency
order service and the safety actions. -/

namespace AutoTrader.Binance

open AutoTrader.Domain AutoTrader.Execution AutoTrader.Runtime

inductive AlgoOp
  | clock
  | prepare (record : AlgoOrderRecord)
  | loadByClientAlgoId (clientAlgoId : String)
  | finish (clientAlgoId : String) (state : AlgoOrderState) (result : Option ProtectionResult)
  | send (request : BrokerRequest)
  | prepareFullClose (fill : EntryFill)
  | submitLocked (command : BrokerOrderCommand)
  | recoverByClientId (clientOrderId : String)
  | confirmZeroPosition (fill : EntryFill)
  | cancelEntryAndAdds (bindingId : UUID)
  | haltAccount (bindingId : UUID) (reason : String)

abbrev AlgoOp.Result : AlgoOp → Type
  | clock => DateTime
  | prepare _ => AlgoOrderClaim
  | loadByClientAlgoId _ => Option AlgoOrderRecord
  | finish _ _ _ => AlgoOrderRecord
  | send _ => BrokerResponse
  | prepareFullClose _ => BrokerOrderCommand
  | submitLocked _ | recoverByClientId _ => BrokerWriteResult
  | confirmZeroPosition _ => Bool
  | cancelEntryAndAdds _ | haltAccount _ _ => Unit

abbrev AlgoAct := Action PyError AlgoOp AlgoOp.Result

def protectionUnknown (message : String) : PyError := ⟨.binanceUsdmProtectionUnknown, message⟩

def notMoved (message : String) : PyError := ⟨.binanceUsdmProtectionNotMoved, message⟩

def protectionRejected : PyError :=
  ⟨.binanceUsdmProtectionRejected, "Binance USD-M protection rejection required emergency close"⟩

def emergencyUnknown : PyError :=
  ⟨.binanceUsdmProtectionEmergencyUnknown, "Binance USD-M emergency protection outcome is unknown"⟩

def protectionMarkAmbiguous (clientAlgoId : String) : AlgoAct Unit := do
  let _ ← (Action.perform (AlgoOp.finish clientAlgoId .ambiguous none) : AlgoAct AlgoOrderRecord)
  pure ()

/-! ### The fail-safe -/

/-- A `try` whose exceptions are noted instead of raised, unless they are control
exceptions. -/
def noteFailure {α : Type} (body : AlgoAct α) : AlgoAct (Option α) :=
  (some <$> body).tryCatch fun caught => if caught.kind.isControl then throw caught else pure none

/-- The close of the position and its result. -/
def closeForFailSafe (fill : EntryFill) : AlgoAct BrokerWriteResult := do
  let command ← (Action.perform (AlgoOp.prepareFullClose fill) : AlgoAct BrokerOrderCommand)
  Action.ofExcept (validateEmergencyCommand fill command)
  let result ← (Action.perform (AlgoOp.submitLocked command) : AlgoAct BrokerWriteResult).tryCatch
    fun caught =>
      if caught.kind = .binanceUsdmOrderUnknown then
        Action.perform (AlgoOp.recoverByClientId command.brokerClientOrderId)
      else throw caught
  Action.ofExcept (validateEmergencyResult command result)
  pure result

/-- `_fail_safe` of a record that is not closed already. -/
def runFailSafe (record : AlgoOrderRecord) (reason : String) (observedAlgoId : Option String) :
    AlgoAct ProtectionResult := do
  let fill := record.entryFill
  let closed ← noteFailure (closeForFailSafe fill)
  let blocked ← noteFailure (Action.perform (AlgoOp.cancelEntryAndAdds fill.bindingId) : AlgoAct Unit)
  let flat ← noteFailure (Action.perform (AlgoOp.confirmZeroPosition fill) : AlgoAct Bool)
  let halted ← noteFailure (Action.perform (AlgoOp.haltAccount fill.bindingId reason) : AlgoAct Unit)
  if closed.isSome && blocked.isSome && flat = some true && halted.isSome then
    let result : ProtectionResult :=
      { providerAlgoId := observedAlgoId
        clientAlgoId := record.clientAlgoId
        state := .emergencyClosed
        triggerPrice := record.triggerPrice
        recovered := false
        emergencyClose := closed }
    Action.ofExcept result.validate
    let _ ← (Action.perform (AlgoOp.finish record.clientAlgoId .emergencyClosed (some result)) :
      AlgoAct AlgoOrderRecord)
    pure result
  else
    let _ ← (Action.perform (AlgoOp.finish record.clientAlgoId .unknown none) : AlgoAct AlgoOrderRecord)
    throw emergencyUnknown

/-- `record.result` under an `assert`. -/
def assertedResult (record : AlgoOrderRecord) : Except PyError ProtectionResult :=
  match record.result with
  | some result => .ok result
  | none => .error ⟨.assertionError, ""⟩

/-- `_fail_safe`. -/
def failSafe (record : AlgoOrderRecord) (reason : String) (observedAlgoId : Option String) :
    AlgoAct ProtectionResult :=
  if record.state = .emergencyClosed then Action.ofExcept (assertedResult record)
  else runFailSafe record reason observedAlgoId

def deadlineReason : String := "BINANCE_PROTECTION_DEADLINE"

/-- `_deadline_reached`, on a reading of the clock. -/
def overdue (record : AlgoOrderRecord) (clock : DateTime) : Except PyError Bool := do
  let now ← requireUtcClock clock "protection clock"
  pure (decide (record.entryFill.protectionDeadline ≤ now))

/-- `if self._deadline_reached(record)`: fail safe and raise. -/
def failSafeIfOverdue (record : AlgoOrderRecord) (observedAlgoId : Option String) (message : String) :
    AlgoAct Unit := do
  let clock ← (Action.perform AlgoOp.clock : AlgoAct DateTime)
  if ← Action.ofExcept (overdue record clock) then
    let _ ← failSafe record deadlineReason observedAlgoId
    throw (protectionUnknown message)

def deadlineMessage : String := "Binance USD-M protection deadline required emergency close"

/-- Either way the caller is told that the protection is unknown. -/
def unresolved {α : Type} (record : AlgoOrderRecord) (message : String) : AlgoAct α := do
  failSafeIfOverdue record none deadlineMessage
  throw (protectionUnknown message)

/-- What both acceptances end with: the stop is active, unless it came too late. -/
def acceptActive (record : AlgoOrderRecord) (result : ProtectionResult) : AlgoAct ProtectionResult := do
  failSafeIfOverdue record result.providerAlgoId "Binance USD-M late protection required emergency close"
  let _ ← (Action.perform (AlgoOp.finish record.clientAlgoId .active (some result)) : AlgoAct AlgoOrderRecord)
  pure result

/-! ### Recovery -/

/-- The answer to the query of a stop. -/
def acceptQueryResponse (record : AlgoOrderRecord) (response : BrokerResponse) : AlgoAct ProtectionResult :=
  if isAlgoNotFound response then unresolved record "Binance USD-M protection is not yet found"
  else if response.status ≠ 200 then unresolved record "Binance USD-M protection recovery is unavailable"
  else
    match decodeActiveProtection response record true with
    | .error _ => unresolved record "Binance USD-M recovered protection evidence is invalid"
    | .ok result => acceptActive record result

/-- The query of a stop nobody knows the outcome of. -/
def queryProtection (record : AlgoOrderRecord) : AlgoAct ProtectionResult := do
  let response ← (Action.perform (AlgoOp.send (algoOrderRequest .get record.clientAlgoId)) :
      AlgoAct BrokerResponse).tryCatch fun caught =>
    if caught.kind.isControl then throw caught
    else unresolved record "Binance USD-M protection recovery is unavailable"
  acceptQueryResponse record response

/-- `recover_by_client_algo_id` once the record is read. -/
def recoverRecord (record : AlgoOrderRecord) : AlgoAct ProtectionResult :=
  match record.state with
  | .active | .emergencyClosed => Action.ofExcept (assertedResult record)
  | .superseded => throw (notMoved "Binance USD-M protection was superseded by a later stop")
  | .unknown => failSafe record "BINANCE_PROTECTION_RESTART" none
  | .prepared | .ambiguous | .rejected => queryProtection record

section Service

variable (sha256 : String → Digest)

/-- `recover_by_client_algo_id`. -/
def recoverByClientAlgoId (clientAlgoId : String) : AlgoAct ProtectionResult := do
  Action.ofExcept (requireClientAlgoId clientAlgoId)
  match ← (Action.perform (AlgoOp.loadByClientAlgoId clientAlgoId) : AlgoAct (Option AlgoOrderRecord)) with
  | none => throw (protectionUnknown "Binance USD-M durable protection record is unavailable")
  | some record =>
    Action.ofExcept (record.validate sha256)
    recoverRecord record

/-- `_existing_or_recover`. -/
def existingOrRecoverStop (record : AlgoOrderRecord) : AlgoAct ProtectionResult :=
  if record.state.isSafe then Action.ofExcept (assertedResult record)
  else recoverByClientAlgoId sha256 record.clientAlgoId

/-! ### Placement -/

/-- The answers to a POST after which its outcome is unknown. -/
def leavesUnknown (response : BrokerResponse) : Bool :=
  response.status = 408 || decide (500 ≤ response.status) ||
    (isClientError response && !postResponseIsAuthoritativeRejection response)

/-- `_accept_post_response`. -/
def acceptPlacementResponse (record : AlgoOrderRecord) (response : BrokerResponse) :
    AlgoAct ProtectionResult := do
  if leavesUnknown response then
    protectionMarkAmbiguous record.clientAlgoId
    unresolved record "Binance USD-M protection dispatch outcome is unknown"
  else if isClientError response then
    let _ ← (Action.perform (AlgoOp.finish record.clientAlgoId .rejected none) : AlgoAct AlgoOrderRecord)
    let _ ← failSafe record "BINANCE_PROTECTION_REJECTED" none
    throw protectionRejected
  else if response.status ≠ 200 then
    protectionMarkAmbiguous record.clientAlgoId
    throw (protectionUnknown "Binance USD-M protection dispatch outcome is unknown")
  else
    match decodeActiveProtection response record false with
    | .error _ =>
      protectionMarkAmbiguous record.clientAlgoId
      unresolved record "Binance USD-M protection acknowledgement is unknown"
    | .ok result => acceptActive record result

/-- `_accept_move_response`. -/
def acceptMoveResponse (record : AlgoOrderRecord) (response : BrokerResponse) :
    AlgoAct ProtectionResult := do
  if leavesUnknown response then
    protectionMarkAmbiguous record.clientAlgoId
    throw (notMoved "Binance USD-M stop move outcome is unknown")
  else if isClientError response then
    let _ ← (Action.perform (AlgoOp.finish record.clientAlgoId .rejected none) : AlgoAct AlgoOrderRecord)
    throw (notMoved "Binance USD-M stop move was rejected")
  else acceptPlacementResponse record response

/-- `_withdraw`. -/
def withdraw (clientAlgoId : String) : AlgoAct Unit := do
  let request ← Action.ofExcept (buildProtectionCancel clientAlgoId)
  let response ← (some <$> (Action.perform (AlgoOp.send request) : AlgoAct BrokerResponse)).tryCatch
    fun caught => do
      protectionMarkAmbiguous clientAlgoId
      if caught.kind.isControl then throw caught else pure none
  match response with
  | none => pure ()
  | some response =>
    let absent ← Action.ofExcept (isAlgoOrderAbsent response)
    if response.status = 200 || absent then
      let _ ← (Action.perform (AlgoOp.finish clientAlgoId .superseded none) : AlgoAct AlgoOrderRecord)
      pure ()
    else protectionMarkAmbiguous clientAlgoId

/-- The record of a placement prepared at a reading of the clock. -/
def placementRecord (fill : EntryFill) (trigger : Decimal) (request : BrokerRequest)
    (placementCommandId : Option UUID) (clock : DateTime) : Except PyError AlgoOrderRecord := do
  let now ← requireUtcClock clock "protection clock"
  require (fill.filledAt ≤ now) (writeDisabled "Binance USD-M protection clock predates fill")
  AlgoOrderRecord.prepared sha256 fill trigger request now placementCommandId

/-! ### Moving a stop -/

/-- The checks of `move_stop` on its own arguments. -/
def checkMove (fill : EntryFill) (placementCommandId : UUID) (supersededClientAlgoId : String) :
    Except PyError Unit := do
  fill.validate
  requireUuid7 placementCommandId "placement_command_id"
  requireClientAlgoId supersededClientAlgoId
  require (placementCommandId ≠ fill.entryCommandId)
    (writeDisabled "a moved Binance USD-M stop needs its own id")

/-- The checks on the stop that is to be replaced. -/
def checkWorking (fill : EntryFill) (working : Option AlgoOrderRecord) : Except PyError Unit :=
  match working with
  | none => .error (notMoved "Binance USD-M superseded protection record is unavailable")
  | some working => do
    working.validate sha256
    require (working.state = .active) (notMoved "Binance USD-M protection to supersede is not active")
    require (working.entryFill.entryCommandId = fill.entryCommandId)
      (writeDisabled "Binance USD-M stop belongs to another entry")

/-- The trigger a move asks for, and its request. -/
def moveRequest (fill : EntryFill) (authority : ProtectionAuthority) (placementCommandId : UUID)
    (working : Option AlgoOrderRecord) : Except PyError (Decimal × BrokerRequest) := do
  checkWorking sha256 fill working
  let trigger ← validateRiskAuthority fill authority
  let request ← buildProtectionRequest fill trigger (some placementCommandId)
  pure (trigger, request)

/-- The POST of a move that was claimed, then the withdrawal of the stop it replaces. -/
def placeMove (record : AlgoOrderRecord) (request : BrokerRequest) (supersededClientAlgoId : String) :
    AlgoAct ProtectionResult := do
  let response ← (Action.perform (AlgoOp.send request) : AlgoAct BrokerResponse).tryCatch fun caught => do
    protectionMarkAmbiguous record.clientAlgoId
    throw (if caught.kind.isControl then caught
      else notMoved "Binance USD-M stop move outcome is unknown")
  let placed ← acceptMoveResponse record response
  withdraw supersededClientAlgoId
  pure placed

/-- `move_stop`. -/
def moveStop (fill : EntryFill) (authority : ProtectionAuthority) (placementCommandId : UUID)
    (supersededClientAlgoId : String) : AlgoAct ProtectionResult := do
  Action.ofExcept (checkMove fill placementCommandId supersededClientAlgoId)
  let working ← (Action.perform (AlgoOp.loadByClientAlgoId supersededClientAlgoId) :
    AlgoAct (Option AlgoOrderRecord))
  let (trigger, request) ← Action.ofExcept (moveRequest sha256 fill authority placementCommandId working)
  let clock ← (Action.perform AlgoOp.clock : AlgoAct DateTime)
  let prepared ← Action.ofExcept
    (placementRecord sha256 fill trigger request (some placementCommandId) clock)
  let claim ← (Action.perform (AlgoOp.prepare prepared) : AlgoAct AlgoOrderClaim)
  if claim.acquired then placeMove claim.record request supersededClientAlgoId
  else existingOrRecoverStop sha256 claim.record

/-! ### The first stop -/

/-- The POST of a first stop that was claimed. -/
def placeFirstStop (record : AlgoOrderRecord) (request : BrokerRequest) : AlgoAct ProtectionResult := do
  let response ← (Action.perform (AlgoOp.send request) : AlgoAct BrokerResponse).tryCatch fun caught => do
    protectionMarkAmbiguous record.clientAlgoId
    if caught.kind.isControl then throw caught
    else unresolved record "Binance USD-M protection dispatch outcome is unknown"
  acceptPlacementResponse record response

/-- `protect_first_fill` of a fill that has no record yet. -/
def claimFirstStop (fill : EntryFill) (authority : ProtectionAuthority) : AlgoAct ProtectionResult := do
  Action.ofExcept (validateInitialFill fill)
  let trigger ← Action.ofExcept (validateRiskAuthority fill authority)
  let request ← Action.ofExcept (buildProtectionRequest fill trigger none)
  let clock ← (Action.perform AlgoOp.clock : AlgoAct DateTime)
  let prepared ← Action.ofExcept (placementRecord sha256 fill trigger request none clock)
  let claim ← (Action.perform (AlgoOp.prepare prepared) : AlgoAct AlgoOrderClaim)
  if !claim.acquired then
    Action.ofExcept (validatePersistedFill sha256 fill claim.record)
    existingOrRecoverStop sha256 claim.record
  else if ← Action.ofExcept (overdue prepared clock) then
    let _ ← failSafe claim.record deadlineReason none
    throw (protectionUnknown deadlineMessage)
  else placeFirstStop claim.record request

/-- `protect_first_fill`. -/
def protectFirstFill (fill : EntryFill) (authority : ProtectionAuthority) : AlgoAct ProtectionResult := do
  Action.ofExcept fill.validate
  let clientAlgoId ← Action.ofExcept (binanceProtectionClientAlgoId fill.entryCommandId)
  match ← (Action.perform (AlgoOp.loadByClientAlgoId clientAlgoId) : AlgoAct (Option AlgoOrderRecord)) with
  | some existing =>
    Action.ofExcept (validatePersistedFill sha256 fill existing)
    existingOrRecoverStop sha256 existing
  | none => claimFirstStop sha256 fill authority

end Service

end AutoTrader.Binance
