import AutoTrader.Binance.OrderModels
import AutoTrader.Domain.Wire

/-! The records of the protection path: the fill a stop stands behind, the durable record
of one placement, and the result of a placement that is safe. -/

namespace AutoTrader.Binance

open AutoTrader.Domain AutoTrader.Execution

inductive AlgoOrderState
  | prepared
  | ambiguous
  | active
  | rejected
  | emergencyClosed
  | unknown
  | superseded
  deriving DecidableEq

/-- The states that carry a result. -/
def AlgoOrderState.isSafe : AlgoOrderState → Bool
  | .active | .emergencyClosed => true
  | _ => false

/-- `f"v6s-{entry_command_id.hex}"`. -/
def clientAlgoIdText (entryCommandId : UUID) : String :=
  String.ofList ('v' :: '6' :: 's' :: '-' :: entryCommandId.hex)

def binanceProtectionClientAlgoId (entryCommandId : UUID) : Except PyError String := do
  requireUuid7 entryCommandId "entry_command_id"
  pure (clientAlgoIdText entryCommandId)

theorem binanceProtectionClientAlgoId_ok {id : UUID} {text : String} :
    binanceProtectionClientAlgoId id = .ok text ↔ id.isVersion7 ∧ text = clientAlgoIdText id := by
  unfold binanceProtectionClientAlgoId
  rw [bind_ok]
  constructor
  · rintro ⟨_, h, htext⟩
    exact ⟨requireUuid7_ok.mp h, (Except.ok.inj htext).symm⟩
  · rintro ⟨h, rfl⟩
    exact ⟨(), requireUuid7_ok.mpr h, rfl⟩

theorem clientAlgoIdText_isClientOrderId (id : UUID) : isClientOrderId (clientAlgoIdText id) := by
  refine isClientOrderId_of_plain (by simp) (by simp [UUID.hex]) fun c hc => ?_
  simp only [List.mem_cons] at hc
  rcases hc with rfl | rfl | rfl | rfl | hc
  · decide
  · decide
  · decide
  · decide
  · obtain ⟨d, hd, rfl⟩ := mem_hexDigits hc
    exact hexDigit_plain hd

/-- `_client_algo_id`. -/
def requireClientAlgoId (clientAlgoId : String) : Except PyError Unit :=
  require (isClientOrderId clientAlgoId) (valueError "Binance USD-M client algo ID is invalid")

/-! ### Entry fills -/

structure EntryFill where
  entryCommandId : UUID
  accountId : UUID
  instrumentId : UUID
  bindingId : UUID
  side : Side
  firstFillQuantity : Decimal
  cumulativeQuantityBefore : Decimal
  averageFillPrice : Decimal
  symbol : String
  tickSize : Decimal
  filledAt : Instant
  protectionDeadline : Instant
  emergencyCloseCommandId : UUID
  deriving DecidableEq

/-- `EntryFill.__post_init__`. -/
def EntryFill.validate (fill : EntryFill) : Except PyError Unit := do
  requireUuid7 fill.entryCommandId "entry_command_id"
  requireUuid7 fill.accountId "account_id"
  requireUuid7 fill.instrumentId "instrument_id"
  requireUuid7 fill.bindingId "binding_id"
  require (0 < fill.firstFillQuantity.toRat) (valueError "Binance USD-M first fill quantity must be positive")
  require (0 ≤ fill.cumulativeQuantityBefore.toRat)
    (valueError "Binance USD-M prior fill quantity cannot be negative")
  require (0 < fill.averageFillPrice.toRat) (valueError "Binance USD-M average fill price must be positive")
  require (fill.symbol = "BTCUSDT") (valueError "Binance USD-M protection supports BTCUSDT only")
  require (0 < fill.tickSize.toRat) (valueError "Binance USD-M tick size must be positive")
  let filledAt ← requireUtcSecond fill.filledAt "fill time"
  let deadline ← requireUtcSecond fill.protectionDeadline "protection deadline"
  require (filledAt < deadline) (valueError "Binance USD-M protection deadline is invalid")
  requireUuid7 fill.emergencyCloseCommandId "emergency_close_command_id"

/-- A fill that could be constructed. -/
structure EntryFill.Valid (fill : EntryFill) : Prop where
  ids : fill.entryCommandId.isVersion7 ∧ fill.accountId.isVersion7 ∧ fill.instrumentId.isVersion7 ∧
    fill.bindingId.isVersion7 ∧ fill.emergencyCloseCommandId.isVersion7
  firstFillQuantity : 0 < fill.firstFillQuantity.toRat
  cumulativeQuantityBefore : 0 ≤ fill.cumulativeQuantityBefore.toRat
  averageFillPrice : 0 < fill.averageFillPrice.toRat
  symbol : fill.symbol = "BTCUSDT"
  tickSize : 0 < fill.tickSize.toRat
  window : wholeSecond fill.filledAt ∧ wholeSecond fill.protectionDeadline ∧
    fill.filledAt < fill.protectionDeadline

theorem EntryFill.validate_ok {fill : EntryFill} {u : Unit} : fill.validate = .ok u ↔ fill.Valid := by
  simp only [EntryFill.validate, bind_ok, requireUuid7_ok, require_ok, requireUtcSecond_ok, exists_const,
    decide_eq_true_eq]
  constructor
  · rintro ⟨h1, h2, h3, h4, hfirst, hbefore, hprice, hsymbol, htick, _, ⟨hf, rfl⟩, _, ⟨hd, rfl⟩, hlt, h5⟩
    exact ⟨⟨h1, h2, h3, h4, h5⟩, hfirst, hbefore, hprice, hsymbol, htick, hf, hd, hlt⟩
  · rintro ⟨⟨h1, h2, h3, h4, h5⟩, hfirst, hbefore, hprice, hsymbol, htick, hf, hd, hlt⟩
    exact ⟨h1, h2, h3, h4, hfirst, hbefore, hprice, hsymbol, htick, _, ⟨hf, rfl⟩, _, ⟨hd, rfl⟩, hlt, h5⟩

/-- The numbers of two fills are compared by value. -/
def EntryFill.same (a b : EntryFill) : Bool :=
  a.entryCommandId = b.entryCommandId && a.accountId = b.accountId &&
    a.instrumentId = b.instrumentId && a.bindingId = b.bindingId && a.side = b.side &&
    a.firstFillQuantity.toRat = b.firstFillQuantity.toRat &&
    a.cumulativeQuantityBefore.toRat = b.cumulativeQuantityBefore.toRat &&
    a.averageFillPrice.toRat = b.averageFillPrice.toRat && a.symbol = b.symbol &&
    a.tickSize.toRat = b.tickSize.toRat && a.filledAt = b.filledAt &&
    a.protectionDeadline = b.protectionDeadline &&
    a.emergencyCloseCommandId = b.emergencyCloseCommandId

/-! ### Results -/

structure ProtectionResult where
  providerAlgoId : Option String
  clientAlgoId : String
  state : AlgoOrderState
  triggerPrice : Decimal
  recovered : Bool
  emergencyClose : Option BrokerWriteResult
  deriving DecidableEq

def providerAlgoPrefix : List Char := "BINANCE-USDM-ALGO:".toList

/-- `binance_provider_algo_id`. -/
def binanceProviderAlgoId (algoId : Nat) : Except PyError String := do
  require (decide (0 < algoId)) (valueError "Binance provider algo id is invalid")
  pure (String.ofList (providerAlgoPrefix ++ Nat.toDigits 10 algoId))

/-- `_provider_algo_id`. -/
def requireProviderAlgoId (id : Option String) : Except PyError Unit :=
  match id with
  | none => .error (valueError "Binance USD-M provider algo ID is invalid")
  | some text =>
    let digits := text.toList.drop providerAlgoPrefix.length
    require (isText text && providerAlgoPrefix.isPrefixOf text.toList && !digits.isEmpty &&
        digits.all Char.isDigit)
      (valueError "Binance USD-M provider algo ID is invalid")

/-- `ProtectionResult.__post_init__`. -/
def ProtectionResult.validate (result : ProtectionResult) : Except PyError Unit := do
  requireClientAlgoId result.clientAlgoId
  require (0 < result.triggerPrice.toRat) (valueError "Binance USD-M trigger price must be positive")
  match result.state with
  | .active =>
    requireProviderAlgoId result.providerAlgoId
    require result.emergencyClose.isNone (valueError "active protection cannot have an emergency close")
  | .emergencyClosed =>
    if result.providerAlgoId.isSome then requireProviderAlgoId result.providerAlgoId
    require result.emergencyClose.isSome (valueError "emergency protection needs an exact close result")
  | _ => throw (valueError "Binance USD-M protection result is not terminal safe")

/-! ### Records -/

/-- `placementCommandId` is absent for the first stop of an entry. -/
structure AlgoOrderRecord where
  entryFill : EntryFill
  clientAlgoId : String
  triggerPrice : Decimal
  requestBody : String
  requestDigest : Digest
  preparedAt : Instant
  state : AlgoOrderState
  result : Option ProtectionResult
  placementCommandId : Option UUID
  deriving DecidableEq

namespace AlgoOrderRecord

def placementId (record : AlgoOrderRecord) : UUID :=
  record.placementCommandId.getD record.entryFill.entryCommandId

/-- The checks of `validate` on the result a state carries. -/
def validateResult (record : AlgoOrderRecord) : Except PyError Unit :=
  if record.state.isSafe then
    match record.result with
    | none => throw (valueError "safe Binance USD-M protection needs a result")
    | some result => do
      require (result.state = record.state) (valueError "Binance USD-M protection result state differs")
      require (result.clientAlgoId = record.clientAlgoId)
        (valueError "Binance USD-M protection result identity differs")
  else require record.result.isNone (valueError "unsafe Binance USD-M protection cannot have a result")

def validate (sha256 : String → Digest) (record : AlgoOrderRecord) : Except PyError Unit := do
  record.entryFill.validate
  record.placementCommandId.forM (requireUuid7 · "placement_command_id")
  let clientAlgoId ← binanceProtectionClientAlgoId record.placementId
  require (record.clientAlgoId = clientAlgoId)
    (valueError "Binance USD-M persisted client algo ID is invalid")
  require (0 < record.triggerPrice.toRat) (valueError "Binance USD-M persisted trigger price is invalid")
  require (!record.requestBody.isEmpty) (valueError "Binance USD-M persisted algo body is invalid")
  require (sha256 record.requestBody = record.requestDigest)
    (valueError "Binance USD-M persisted algo digest is invalid")
  let preparedAt ← requireUtcSecond record.preparedAt "algo prepared_at"
  require (record.entryFill.filledAt ≤ preparedAt)
    (valueError "Binance USD-M algo preparation predates the fill")
  record.validateResult

/-- What `validate` admits. -/
structure Valid (sha256 : String → Digest) (record : AlgoOrderRecord) : Prop where
  entryFill : record.entryFill.Valid
  placementId : record.placementId.isVersion7
  clientAlgoId : record.clientAlgoId = clientAlgoIdText record.placementId
  triggerPrice : 0 < record.triggerPrice.toRat
  requestBody : record.requestBody.isEmpty = false
  requestDigest : sha256 record.requestBody = record.requestDigest
  preparedAt : wholeSecond record.preparedAt ∧ record.entryFill.filledAt ≤ record.preparedAt
  result : record.validateResult = .ok ()

theorem placementCommandId_ok {id : Option UUID} {entryCommandId : UUID} {u : Unit}
    (hentry : entryCommandId.isVersion7) :
    id.forM (requireUuid7 · "placement_command_id") = .ok u ↔ (id.getD entryCommandId).isVersion7 := by
  cases id with
  | none => exact ⟨fun _ => hentry, fun _ => rfl⟩
  | some id => exact requireUuid7_ok

theorem validate_ok {sha256 : String → Digest} {record : AlgoOrderRecord} :
    record.validate sha256 = .ok () ↔ record.Valid sha256 := by
  simp only [validate, binanceProtectionClientAlgoId_ok, bind_ok, EntryFill.validate_ok,
    require_ok, requireUtcSecond_ok, exists_const, decide_eq_true_eq, Bool.not_eq_true']
  constructor
  · rintro ⟨hfill, _, -, _, ⟨hid, rfl⟩, hclient, htrigger, hbody, hdigest, _, ⟨hsecond, rfl⟩, hafter, hresult⟩
    exact ⟨hfill, hid, hclient, htrigger, hbody, hdigest, ⟨hsecond, hafter⟩, hresult⟩
  · rintro ⟨hfill, hid, hclient, htrigger, hbody, hdigest, ⟨hsecond, hafter⟩, hresult⟩
    exact ⟨hfill, (), (placementCommandId_ok hfill.ids.1).mpr hid, _, ⟨hid, rfl⟩, hclient, htrigger, hbody,
      hdigest, _, ⟨hsecond, rfl⟩, hafter, hresult⟩

/-- A record in a safe state has a result, and it says the same state. -/
theorem Valid.safe_result {sha256 : String → Digest} {record : AlgoOrderRecord} (h : record.Valid sha256)
    (hsafe : record.state.isSafe) : ∃ result, record.result = some result ∧ result.state = record.state := by
  have hresult := h.result
  rw [validateResult, if_pos hsafe] at hresult
  split at hresult
  · cases hresult
  · rename_i result hsome
    obtain ⟨_, hstate, -⟩ := bind_ok.mp hresult
    exact ⟨result, hsome, by simpa using require_ok.mp hstate⟩

/-- `BinanceUsdmAlgoOrderRecord.prepared`. -/
def prepared (sha256 : String → Digest) (fill : EntryFill) (triggerPrice : Decimal)
    (request : BrokerRequest) (preparedAt : Instant) (placementCommandId : Option UUID) :
    Except PyError AlgoOrderRecord := do
  require (request.method = .post && request.path = "/fapi/v1/algoOrder")
    (valueError "Binance USD-M canonical algo request is invalid")
  match request.body with
  | none => throw (valueError "Binance USD-M canonical algo body is invalid")
  | some body =>
    require (!body.isEmpty) (valueError "Binance USD-M canonical algo body is invalid")
    let clientAlgoId ← binanceProtectionClientAlgoId (placementCommandId.getD fill.entryCommandId)
    let result : AlgoOrderRecord :=
      { entryFill := fill
        clientAlgoId := clientAlgoId
        triggerPrice := triggerPrice
        requestBody := body
        requestDigest := sha256 body
        preparedAt := preparedAt
        state := .prepared
        result := none
        placementCommandId := placementCommandId }
    result.validate sha256
    pure result

theorem prepared_id {sha256 : String → Digest} {fill : EntryFill} {triggerPrice : Decimal}
    {request : BrokerRequest} {preparedAt : Instant} {placementCommandId : Option UUID} {record : AlgoOrderRecord}
    (h : prepared sha256 fill triggerPrice request preparedAt placementCommandId = .ok record) :
    binanceProtectionClientAlgoId (placementCommandId.getD fill.entryCommandId) = .ok record.clientAlgoId := by
  obtain ⟨_, -, h⟩ := bind_ok.mp h
  split at h
  · cases h
  · obtain ⟨_, -, h⟩ := bind_ok.mp h
    obtain ⟨clientAlgoId, hid, h⟩ := bind_ok.mp h
    obtain ⟨_, -, h⟩ := bind_ok.mp h
    obtain rfl := Except.ok.inj h
    exact hid

theorem prepared_ok {sha256 : String → Digest} {fill : EntryFill} {triggerPrice : Decimal}
    {request : BrokerRequest} {preparedAt : Instant} {placementCommandId : Option UUID} {record : AlgoOrderRecord}
    (h : prepared sha256 fill triggerPrice request preparedAt placementCommandId = .ok record) :
    record.clientAlgoId = clientAlgoIdText (placementCommandId.getD fill.entryCommandId) :=
  (binanceProtectionClientAlgoId_ok.mp (prepared_id h)).2

theorem prepared_triggerPrice {sha256 : String → Digest} {fill : EntryFill} {triggerPrice : Decimal}
    {request : BrokerRequest} {preparedAt : Instant} {placementCommandId : Option UUID} {record : AlgoOrderRecord}
    (h : prepared sha256 fill triggerPrice request preparedAt placementCommandId = .ok record) :
    record.triggerPrice = triggerPrice := by
  obtain ⟨_, -, h⟩ := bind_ok.mp h
  split at h
  · cases h
  · obtain ⟨_, -, h⟩ := bind_ok.mp h
    obtain ⟨_, -, h⟩ := bind_ok.mp h
    obtain ⟨_, -, h⟩ := bind_ok.mp h
    obtain rfl := Except.ok.inj h
    rfl

end AlgoOrderRecord

/-- A record that passed `validate`, and whether its caller now owns the send. -/
structure AlgoOrderClaim where
  record : AlgoOrderRecord
  acquired : Bool

end AutoTrader.Binance
