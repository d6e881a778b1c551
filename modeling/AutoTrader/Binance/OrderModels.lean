import AutoTrader.Domain.Wire
import AutoTrader.Execution.Commands

/-! The records of the Binance USD-M order path: the authority a write needs, the
durable record of an attempt and the result of an acknowledged order. SHA-256 is a
parameter of everything that digests a request. -/

namespace AutoTrader.Binance

open AutoTrader.Domain AutoTrader.Execution

def valueError (message : String) : PyError := ⟨.valueError, message⟩

def writeDisabled (message : String) : PyError := ⟨.brokerWriteDisabled, message⟩

/-- `if not condition: raise error`. -/
def require (condition : Bool) (error : PyError) : Except PyError Unit :=
  if condition then .ok () else .error error

theorem require_ok {condition : Bool} {error : PyError} {u : Unit} :
    require condition error = .ok u ↔ condition := by
  cases condition <;> simp [require]

/-! ### Field checks -/

/-- `_text`: non-empty, trimmed, ASCII, one line. -/
def isText (text : String) : Bool :=
  !untrimmed text && text.toList.all fun c =>
    decide (c.toNat < 128) && decide (c.toNat ≠ 10) && decide (c.toNat ≠ 13)

def isClientOrderIdChar (c : Char) : Bool :=
  c ∈ ".:/_-".toList || c.isAlphanum

/-- `_client_order_id`. -/
def isClientOrderId (text : String) : Bool :=
  isText text && decide (text.length ≤ 36) && text.toList.all isClientOrderIdChar

/-- A character that may stand anywhere in a client order id. -/
def isPlain (c : Char) : Bool :=
  isClientOrderIdChar c && !isSpace c &&
    (decide (c.toNat < 128) && decide (c.toNat ≠ 10) && decide (c.toNat ≠ 13))

theorem hexDigit_plain {d : Nat} (h : d < 16) : isPlain (hexDigit d) := by
  have key : ∀ i : Fin 16, isPlain (hexDigit i) := by decide +kernel
  exact key ⟨d, h⟩

theorem isClientOrderId_of_plain {text : List Char} (hne : text ≠ []) (hlength : text.length ≤ 36)
    (hplain : ∀ c ∈ text, isPlain c) : isClientOrderId (String.ofList text) := by
  simp only [isPlain, Bool.and_eq_true, Bool.not_eq_true'] at hplain
  have hhead : text.head?.any isSpace = false := by
    rw [List.head?_eq_some_head hne]
    exact (hplain _ (List.head_mem hne)).1.2
  have hlast : text.getLast?.any isSpace = false := by
    rw [List.getLast?_eq_some_getLast hne]
    exact (hplain _ (List.getLast_mem hne)).1.2
  have htrim : untrimmed (String.ofList text) = false := by
    simp [untrimmed, hne, hhead, hlast]
  have hascii : isText (String.ofList text) := by
    simp only [isText, htrim, String.toList_ofList, Bool.not_false, Bool.true_and, List.all_eq_true,
      Bool.and_eq_true]
    exact fun c hc => (hplain c hc).2
  simp only [isClientOrderId, hascii, String.toList_ofList, String.length_ofList, Bool.true_and,
    Bool.and_eq_true, decide_eq_true_eq, List.all_eq_true]
  exact ⟨hlength, fun c hc => (hplain c hc).1.1⟩

/-- `_uuid7`. -/
def requireUuid7 (id : UUID) (name : String) : Except PyError Unit :=
  require id.isVersion7 (valueError (name ++ " must be UUIDv7"))

/-- `_utc` of a stored instant, which is UTC already. -/
def requireUtcSecond (value : Instant) (name : String) : Except PyError Instant := do
  require (wholeSecond value) (valueError ("Binance USD-M " ++ name ++ " must use whole-second UTC"))
  pure value

theorem requireUuid7_ok {id : UUID} {name : String} {u : Unit} :
    requireUuid7 id name = .ok u ↔ id.isVersion7 := require_ok

theorem requireUtcSecond_ok {value result : Instant} {name : String} :
    requireUtcSecond value name = .ok result ↔ wholeSecond value ∧ result = value := by
  unfold requireUtcSecond
  rw [bind_ok]
  constructor
  · rintro ⟨_, h, hvalue⟩
    cases hvalue
    exact ⟨require_ok.mp h, rfl⟩
  · rintro ⟨h, rfl⟩
    exact ⟨(), require_ok.mpr h, rfl⟩

/-- `_utc` of an optional stored instant. -/
def requireUtcSecond? (value : Option Instant) (name : String) : Except PyError Instant :=
  match value with
  | none => .error (valueError ("Binance USD-M " ++ name ++ " must use whole-second UTC"))
  | some value => requireUtcSecond value name

/-- `_utc` of a clock reading. -/
def requireUtcClock (value : DateTime) (name : String) : Except PyError Instant := do
  require (value.isExactUtc && wholeSecond value.instant)
    (valueError ("Binance USD-M " ++ name ++ " must use whole-second UTC"))
  pure value.instant

/-! ### Authority -/

inductive OrderRole
  | entry
  | add
  | sessionClose
  | riskClose
  | emergencyClose
  deriving DecidableEq

def OrderRole.opensExposure : OrderRole → Bool
  | .entry | .add => true
  | _ => false

structure SymbolFilters where
  tickSize : Decimal
  stepSize : Decimal
  minimumQuantity : Decimal
  minimumNotional : Decimal
  capturedAt : Instant

/-- `BinanceUsdmSymbolFilters.__post_init__`. -/
def SymbolFilters.validate (filters : SymbolFilters) : Except PyError Unit := do
  require (0 < filters.tickSize.toRat) (valueError "Binance USD-M tick_size must be positive")
  require (0 < filters.stepSize.toRat) (valueError "Binance USD-M step_size must be positive")
  require (0 < filters.minimumQuantity.toRat) (valueError "Binance USD-M minimum_quantity must be positive")
  require (0 < filters.minimumNotional.toRat) (valueError "Binance USD-M minimum_notional must be positive")
  let _ ← requireUtcSecond filters.capturedAt "symbol filter captured_at"
  pure ()

structure NormalOrderAuthority where
  commandId : UUID
  accountId : UUID
  instrumentId : UUID
  bindingId : UUID
  bindingGeneration : Int
  policyVersionId : UUID
  strategyVersion : String
  writerCapability : Bool
  accountEnabled : Bool
  bindingActive : Bool
  intentLocked : Bool
  symbol : String
  role : OrderRole
  side : Side
  orderStyle : OrderStyle
  quantity : Decimal
  limitPrice : Option Decimal
  expectedLeverage : Int
  verifiedLeverage : Int
  leverageVerifiedAt : Instant
  positionMode : String
  marginType : String
  autoAddMargin : Bool
  filters : SymbolFilters
  notionalReferencePrice : Decimal
  authorizedReduceQuantity : Decimal

/-! ### Results and records -/

structure Fill where
  tradeId : Nat
  orderId : Nat
  side : Side
  quantity : Decimal
  price : Decimal
  commission : Decimal
  commissionAsset : String
  realizedPnl : Decimal
  occurredAt : Instant
  deriving DecidableEq

structure BrokerWriteResult where
  brokerOrderId : String
  clientOrderId : String
  providerState : String
  cumulativeFilledQuantity : Decimal
  cumulativeQuoteQuantity : Decimal
  averageFillPrice : Decimal
  commissions : List (String × Decimal)
  fills : List Fill
  recovered : Bool
  deriving DecidableEq

inductive NormalOrderState
  | prepared
  | notSent
  | ambiguous
  | acknowledged
  | rejected
  | unknown
  deriving DecidableEq

structure NormalOrderRecord where
  commandId : UUID
  accountId : UUID
  bindingId : UUID
  clientOrderId : String
  requestBody : String
  requestDigest : Digest
  preparedAt : Instant
  notAfter : Instant
  dispatchCount : Nat
  state : NormalOrderState
  result : Option BrokerWriteResult
  deriving DecidableEq

/-- `BinanceUsdmNormalOrderRecord.validate`. -/
def NormalOrderRecord.validate (sha256 : String → Digest) (record : NormalOrderRecord) :
    Except PyError Unit := do
  requireUuid7 record.commandId "command_id"
  requireUuid7 record.accountId "account_id"
  requireUuid7 record.bindingId "binding_id"
  require (isClientOrderId record.clientOrderId) (valueError "Binance USD-M client order ID is invalid")
  require (!record.requestBody.isEmpty) (valueError "Binance USD-M persisted request body is invalid")
  require (sha256 record.requestBody = record.requestDigest)
    (valueError "Binance USD-M persisted request digest is invalid")
  let preparedAt ← requireUtcSecond record.preparedAt "prepared_at"
  let notAfter ← requireUtcSecond record.notAfter "not_after"
  require (preparedAt < notAfter) (valueError "Binance USD-M persisted request window is invalid")
  require (0 < record.dispatchCount) (valueError "Binance USD-M dispatch count is invalid")
  if record.state = .acknowledged then
    require record.result.isSome (valueError "acknowledged Binance USD-M order needs a result")
  else
    require record.result.isNone (valueError "only acknowledged Binance USD-M order has a result")

/-- A record that passed `validate`, and whether its caller now owns the send. -/
structure NormalOrderClaim where
  record : NormalOrderRecord
  acquired : Bool

/-! ### Requests and responses -/

inductive Method
  | get
  | post
  | delete
  deriving DecidableEq

/-- `BrokerRequest`; the body is the text whose ASCII encoding is sent. -/
structure BrokerRequest where
  method : Method
  path : String
  body : Option String
  deriving DecidableEq

/-- `BrokerResponse`, its body already through `json.loads` (`none` when that fails). -/
structure BrokerResponse where
  status : Nat
  body : Option Json

end AutoTrader.Binance
