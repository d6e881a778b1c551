import AutoTrader.Binance.OrderStore
import AutoTrader.Runtime.Program

/-! `BinanceUsdmOrderService` over its clock, its authority source, its store and its
sender. A POST is two operations, its start and its end: a request that has started may
reach the venue whatever the end says. -/

namespace AutoTrader.Binance

open AutoTrader.Domain AutoTrader.Execution AutoTrader.Runtime

inductive OrderOp
  | clock
  | loadAuthority (command : BrokerOrderCommand)
  | prepare (record : NormalOrderRecord)
  | loadByClientId (clientOrderId : String)
  | markNotSent (clientOrderId : String) (requestDigest : Digest)
  | finish (clientOrderId : String) (state : NormalOrderState) (result : Option BrokerWriteResult)
  | startPost (clientOrderId : String) (request : BrokerRequest)
  | endPost
  | get (request : BrokerRequest)

abbrev OrderOp.Result : OrderOp → Type
  | clock => DateTime
  | loadAuthority _ => NormalOrderAuthority
  | prepare _ => NormalOrderClaim
  | loadByClientId _ => Option NormalOrderRecord
  | markNotSent _ _ | finish _ _ _ => NormalOrderRecord
  | startPost _ _ => Unit
  | endPost | get _ => BrokerResponse

abbrev OrderAct := Action PyError OrderOp OrderOp.Result

def orderUnknown (message : String) : PyError := ⟨.binanceUsdmOrderUnknown, message⟩

def orderRejected : PyError := ⟨.binanceUsdmOrderRejected, "Binance USD-M order was rejected"⟩

def orderNotSent : PyError := ⟨.binanceUsdmOrderNotSent, "Binance USD-M order request was not sent"⟩

/-- `except (CancelledError, KeyboardInterrupt, SystemExit): raise`, and any other
exception becomes `BinanceUsdmOrderUnknown`. -/
def controlOrUnknown (caught : PyError) (message : String) : PyError :=
  if caught.kind.isControl then caught else orderUnknown message

/-- `_mark_ambiguous`. -/
def markAmbiguous (clientOrderId : String) : OrderAct Unit := do
  let _ ← (Action.perform (OrderOp.finish clientOrderId .ambiguous none) : OrderAct NormalOrderRecord)
  pure ()

/-- `_result_with_fills`. -/
def resultWithFills (order : ProviderOrder) (recovered : Bool) : OrderAct BrokerWriteResult := do
  let parameters := [("symbol", symbol), ("orderId", toString order.orderId), ("limit", "1000")]
  let response ← (Action.perform (OrderOp.get
    ⟨.get, "/fapi/v1/userTrades?" ++ urlencode parameters, none⟩) : OrderAct BrokerResponse)
  Action.ofExcept (require (response.status = 200) (valueError "Binance USD-M fills are unavailable"))
  let fills ← Action.ofExcept (decodeFills response order)
  Action.ofExcept (matchCumulativeOrderFacts order fills)
  pure
    { brokerOrderId := binanceProviderOrderId order.orderId
      clientOrderId := order.clientOrderId
      providerState := order.status
      cumulativeFilledQuantity := order.executedQuantity
      cumulativeQuoteQuantity := order.cumulativeQuote
      averageFillPrice := order.averagePrice
      commissions := commissionsOf fills
      fills := fills
      recovered := recovered }

/-- The answer of a 200 response: the order it describes with its fills. -/
def readResult (response : BrokerResponse) (record : NormalOrderRecord) (recovered : Bool) :
    OrderAct BrokerWriteResult := do
  let order ← Action.ofExcept (decodeProviderOrder response record)
  resultWithFills order recovered

def acknowledge (clientOrderId : String) (result : BrokerWriteResult) : OrderAct BrokerWriteResult := do
  let _ ← (Action.perform (OrderOp.finish clientOrderId .acknowledged (some result)) :
    OrderAct NormalOrderRecord)
  pure result

/-- `_accept_post_response`. -/
def acceptPostResponse (record : NormalOrderRecord) (response : BrokerResponse) :
    OrderAct BrokerWriteResult := do
  let unknownOutcome := orderUnknown "Binance USD-M order dispatch outcome is unknown"
  if response.status = 408 ∨ 500 ≤ response.status ∨
      (isClientError response ∧ ¬ postResponseIsAuthoritativeRejection response) then
    markAmbiguous record.clientOrderId
    throw unknownOutcome
  else if isClientError response then
    let _ ← (Action.perform (OrderOp.finish record.clientOrderId .rejected none) :
      OrderAct NormalOrderRecord)
    throw orderRejected
  else if response.status ≠ 200 then
    markAmbiguous record.clientOrderId
    throw unknownOutcome
  else
    let result ← (readResult response record false).tryCatch fun caught => do
      markAmbiguous record.clientOrderId
      throw (controlOrUnknown caught "Binance USD-M order acknowledgement is invalid")
    acknowledge record.clientOrderId result

/-- What a stored record says by itself: its answer, or `none` when only the venue knows. -/
def settled? (record : NormalOrderRecord) : Except PyError (Option BrokerWriteResult) :=
  match record.state with
  | .acknowledged =>
    match record.result with
    | some result => .ok (some result)
    | none => .error ⟨.assertionError, ""⟩
  | .rejected => .error orderRejected
  | .unknown => .error (orderUnknown "Binance USD-M order is terminal unknown")
  | .notSent => .error orderNotSent
  | .prepared | .ambiguous => .ok none

section Recovery

variable (sha256 : String → Digest)

/-- The query of `recover_by_client_id` for a record that is not settled. -/
def recoverFromVenue (record : NormalOrderRecord) (clientOrderId : String) :
    OrderAct BrokerWriteResult := do
  let unavailable := "Binance USD-M order recovery is unavailable"
  let parameters := [("symbol", symbol), ("origClientOrderId", clientOrderId)]
  let response ← (Action.perform (OrderOp.get
    ⟨.get, "/fapi/v1/order?" ++ urlencode parameters, none⟩) : OrderAct BrokerResponse).tryCatch
      fun caught => throw (controlOrUnknown caught unavailable)
  if isOrderNotFound response then
    throw (orderUnknown "Binance USD-M order is not yet found")
  else if response.status ≠ 200 then throw (orderUnknown unavailable)
  else
    let result ← (readResult response record true).tryCatch fun caught =>
      throw (controlOrUnknown caught "Binance USD-M recovered order evidence is invalid")
    acknowledge clientOrderId result

def recoverByClientId (clientOrderId : String) : OrderAct BrokerWriteResult := do
  Action.ofExcept (require (isClientOrderId clientOrderId)
    (valueError "Binance USD-M client order ID is invalid"))
  match ← (Action.perform (OrderOp.loadByClientId clientOrderId) : OrderAct (Option NormalOrderRecord)) with
  | none => throw (orderUnknown "Binance USD-M durable order record is unavailable")
  | some record =>
    Action.ofExcept (record.validate sha256)
    match ← Action.ofExcept (settled? record) with
    | some result => pure result
    | none => recoverFromVenue record clientOrderId

/-- `_existing_or_recover`. -/
def existingOrRecover (record : NormalOrderRecord) : OrderAct BrokerWriteResult := do
  match ← Action.ofExcept (settled? record) with
  | some result => pure result
  | none => recoverByClientId sha256 record.clientOrderId

end Recovery

/-! ### Submission -/

/-- The handlers around the POST. -/
def postFailed (record : NormalOrderRecord) (caught : PyError) : OrderAct BrokerResponse := do
  if caught.kind = .binanceUsdmPreSendFailure then
    let _ ← (Action.perform (OrderOp.markNotSent record.clientOrderId record.requestDigest) :
      OrderAct NormalOrderRecord)
    throw orderNotSent
  else
    markAmbiguous record.clientOrderId
    throw (controlOrUnknown caught "Binance USD-M order dispatch outcome is unknown")

/-- The POST of an acquired claim. -/
def postClaimed (record : NormalOrderRecord) (request : BrokerRequest) : OrderAct BrokerWriteResult := do
  (Action.perform (OrderOp.startPost record.clientOrderId request) : OrderAct Unit)
  let response ← (Action.perform OrderOp.endPost : OrderAct BrokerResponse).tryCatch (postFailed record)
  acceptPostResponse record response

variable (sha256 : String → Digest)

/-- `BinanceUsdmNormalOrderRecord.prepared`. -/
def NormalOrderRecord.prepared (command : BrokerOrderCommand) (authority : NormalOrderAuthority)
    (request : BrokerRequest) : Except PyError NormalOrderRecord := do
  let attemptedAt ← requireUtcSecond? command.dispatchAttemptedAt "dispatch_attempted_at"
  require (request.method = .post && request.path = "/fapi/v1/order")
    (valueError "Binance USD-M canonical order request is invalid")
  match request.body with
  | none => throw (valueError "Binance USD-M canonical order body is invalid")
  | some body =>
    require (!body.isEmpty) (valueError "Binance USD-M canonical order body is invalid")
    let result : NormalOrderRecord :=
      { commandId := command.id
        accountId := command.accountId
        bindingId := authority.bindingId
        clientOrderId := command.brokerClientOrderId
        requestBody := body
        requestDigest := sha256 body
        preparedAt := attemptedAt
        notAfter := command.notAfter
        dispatchCount := 1
        state := .prepared
        result := none }
    result.validate sha256
    pure result

/-- The request of a command whose hash it matches, with the record of the attempt. -/
def preparedRequest (command : BrokerOrderCommand) (authority : NormalOrderAuthority) (now : Instant) :
    Except PyError (BrokerRequest × NormalOrderRecord) := do
  validateWriteAuthority command authority now
  let request ← buildOrderRequest command authority
  require (command.canonicalPayloadHash = sha256 (request.body.getD ""))
    (writeDisabled "Binance USD-M canonical payload hash does not match")
  let prepared ← NormalOrderRecord.prepared sha256 command authority request
  pure (request, prepared)

variable {sha256} in
theorem preparedRequest_creates {command : BrokerOrderCommand} {authority : NormalOrderAuthority}
    {now : Instant} {request : BrokerRequest} {prepared : NormalOrderRecord}
    (h : preparedRequest sha256 command authority now = .ok (request, prepared)) :
    request.Creates prepared.clientOrderId := by
  obtain ⟨_, -, h⟩ := bind_ok.mp h
  obtain ⟨built, hbuilt, h⟩ := bind_ok.mp h
  obtain ⟨_, -, h⟩ := bind_ok.mp h
  obtain ⟨record, hrecord, h⟩ := bind_ok.mp h
  cases h
  have hid : prepared.clientOrderId = command.brokerClientOrderId := by
    obtain ⟨_, -, hrecord⟩ := bind_ok.mp hrecord
    obtain ⟨_, -, hrecord⟩ := bind_ok.mp hrecord
    split at hrecord
    · cases hrecord
    · obtain ⟨_, -, hrecord⟩ := bind_ok.mp hrecord
      obtain ⟨_, -, hrecord⟩ := bind_ok.mp hrecord
      cases hrecord
      rfl
  rw [hid]
  exact buildOrderRequest_creates hbuilt

/-- `submit_locked` from the load of the authority on. -/
def claimAndPost (command : BrokerOrderCommand) (now : Instant) : OrderAct BrokerWriteResult := do
  let authority ← (Action.perform (OrderOp.loadAuthority command) : OrderAct NormalOrderAuthority)
  let (request, prepared) ← Action.ofExcept (preparedRequest sha256 command authority now)
  let claim ← (Action.perform (OrderOp.prepare prepared) : OrderAct NormalOrderClaim)
  if claim.acquired then postClaimed claim.record request
  else existingOrRecover sha256 claim.record

def submitLocked (command : BrokerOrderCommand) : OrderAct BrokerWriteResult := do
  let clock ← (Action.perform OrderOp.clock : OrderAct DateTime)
  let now ← Action.ofExcept (requireUtcClock clock "order service clock")
  Action.ofExcept (validateRecoveryCommand command)
  match ← (Action.perform (OrderOp.loadByClientId command.brokerClientOrderId) :
      OrderAct (Option NormalOrderRecord)) with
  | some existing =>
    Action.ofExcept (validatePersistedCommand sha256 command existing)
    if existing.state ≠ .notSent then existingOrRecover sha256 existing
    else claimAndPost sha256 command now
  | none => claimAndPost sha256 command now

end AutoTrader.Binance
