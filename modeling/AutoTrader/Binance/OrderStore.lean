import AutoTrader.Binance.OrderResponses
import AutoTrader.Domain.Timestamps
import AutoTrader.Runtime.Rows

/-! The durable order table. Every operation is one transaction: it either takes effect
as a whole or raises and changes nothing. Client order ids are unique, and command ids
are the primary key. A result is kept as JSON and read back as it was. -/

namespace AutoTrader.Binance

open AutoTrader.Domain AutoTrader.Execution AutoTrader.Runtime

abbrev OrderTable := List NormalOrderRecord

def recordMissing (message : String) : PyError := ⟨.binanceUsdmOrderRecordMissing, message⟩

namespace OrderTable

/-- The row under a client order id. -/
def row? (t : OrderTable) (clientOrderId : String) : Option NormalOrderRecord :=
  t.find? (·.clientOrderId = clientOrderId)

/-- `apply`: the `UPDATE` of the row under a client order id. -/
def apply (t : OrderTable) (clientOrderId : String) (values : NormalOrderRecord → NormalOrderRecord) :
    OrderTable :=
  t.map fun row => if row.clientOrderId = clientOrderId then values row else row

/-- `INSERT IGNORE`: `none` when a unique key is taken. -/
def insertIfAbsent (t : OrderTable) (record : NormalOrderRecord) : Option OrderTable :=
  if t.any fun row => row.clientOrderId = record.clientOrderId || row.commandId = record.commandId then none
  else some (t ++ [record])

theorem row?_clientOrderId {t : OrderTable} {clientOrderId : String} {row : NormalOrderRecord}
    (h : t.row? clientOrderId = some row) : row.clientOrderId = clientOrderId :=
  Rows.lookup_key h

theorem row?_apply (t : OrderTable) (clientOrderId other : String)
    {values : NormalOrderRecord → NormalOrderRecord}
    (hvalues : ∀ row, (values row).clientOrderId = row.clientOrderId) :
    (t.apply clientOrderId values).row? other =
      (t.row? other).map fun row => if other = clientOrderId then values row else row :=
  Rows.lookup_update hvalues t clientOrderId other

theorem row?_insert {t t' : OrderTable} {record : NormalOrderRecord}
    (h : t.insertIfAbsent record = some t') :
    t.row? record.clientOrderId = none ∧
      ∀ other, t'.row? other = if other = record.clientOrderId then some record else t.row? other := by
  unfold insertIfAbsent at h
  split at h
  · cases h
  · rename_i hany
    cases h
    have habsent : t.row? record.clientOrderId = none := by
      refine Rows.lookup_eq_none.mpr fun row hrow heq => ?_
      exact hany (List.any_eq_true.mpr ⟨row, hrow, by simp [heq]⟩)
    exact ⟨habsent, Rows.lookup_add habsent⟩

end OrderTable

variable (sha256 : String → Digest)

/-- `_record`: the row as a record that passed `validate`. -/
def recordOf (row : NormalOrderRecord) : Except PyError NormalOrderRecord := do
  row.validate sha256
  pure row

/-- `_require_same_request`. -/
def requireSameRequest (row record : NormalOrderRecord) : Except PyError Unit :=
  require (row.requestDigest = record.requestDigest && row.commandId = record.commandId &&
      row.accountId = record.accountId && row.bindingId = record.bindingId)
    (valueError "Binance USD-M client order id names a different request")

/-- The row of an attempt that follows one that never reached the socket. -/
def retried (record row : NormalOrderRecord) : NormalOrderRecord :=
  { row with
    state := .prepared
    dispatchCount := row.dispatchCount + 1
    preparedAt := record.preparedAt
    notAfter := record.notAfter
    result := none }

def answered (state : NormalOrderState) (result : Option BrokerWriteResult) (row : NormalOrderRecord) :
    NormalOrderRecord :=
  { row with state := state, result := result }

def prepare (t : OrderTable) (record : NormalOrderRecord) : Except PyError (OrderTable × NormalOrderClaim) := do
  record.validate sha256
  require (record.state = .prepared) (valueError "only a prepared Binance USD-M order may be claimed")
  match t.insertIfAbsent record with
  | some t' => pure (t', ⟨record, true⟩)
  | none =>
    match t.row? record.clientOrderId with
    | none => throw (recordMissing "Binance USD-M order record vanished between claim and read")
    | some row =>
      requireSameRequest row record
      if row.state = .notSent then
        let record' ← recordOf sha256 (retried record row)
        pure (t.apply record.clientOrderId (retried record), ⟨record', true⟩)
      else
        let record' ← recordOf sha256 row
        pure (t, ⟨record', false⟩)

def loadByClientId (t : OrderTable) (clientOrderId : String) : Except PyError (Option NormalOrderRecord) :=
  match t.row? clientOrderId with
  | none => pure none
  | some row => some <$> recordOf sha256 row

def markNotSent (t : OrderTable) (clientOrderId : String) (requestDigest : Digest) :
    Except PyError (OrderTable × NormalOrderRecord) := do
  match t.row? clientOrderId with
  | none => throw (recordMissing "Binance USD-M order record to mark is absent")
  | some row =>
    require (row.requestDigest = requestDigest)
      (valueError "Binance USD-M order digest does not match the record")
    let record ← recordOf sha256 (answered .notSent none row)
    pure (t.apply clientOrderId (answered .notSent none), record)

/-- The checks on the arguments of `finish`. -/
def checkResult (state : NormalOrderState) (result : Option BrokerWriteResult) : Except PyError Unit :=
  if state = .acknowledged then
    require result.isSome (valueError "an acknowledged Binance USD-M order needs a result")
  else
    require result.isNone (valueError "only an acknowledged Binance USD-M order has a result")

def finish (t : OrderTable) (clientOrderId : String) (state : NormalOrderState)
    (result : Option BrokerWriteResult) : Except PyError (OrderTable × NormalOrderRecord) := do
  checkResult state result
  match t.row? clientOrderId with
  | none => throw (recordMissing "Binance USD-M order record to finish is absent")
  | some row =>
    let record ← recordOf sha256 (answered state result row)
    pure (t.apply clientOrderId (answered state result), record)

/-! ### What the operations change -/

variable {sha256}

theorem recordOf_ok {row record : NormalOrderRecord} (h : recordOf sha256 row = .ok record) :
    record = row := by
  obtain ⟨_, -, hrow⟩ := bind_ok.mp h
  cases hrow
  rfl

/-- A claim that was acquired is of the prepared row, which was absent or never sent
before. Without one the table is as it was. -/
theorem prepare_ok {t t' : OrderTable} {record : NormalOrderRecord} {claim : NormalOrderClaim}
    (h : prepare sha256 t record = .ok (t', claim)) :
    (claim.acquired = false ∧ t' = t) ∨
    (claim.acquired = true ∧ claim.record.clientOrderId = record.clientOrderId ∧
      (∀ row, t.row? record.clientOrderId = some row → row.state = .notSent) ∧
      (∃ row, t'.row? record.clientOrderId = some row ∧ row.state = .prepared) ∧
      ∀ other, other ≠ record.clientOrderId → t'.row? other = t.row? other) := by
  obtain ⟨_, -, h⟩ := bind_ok.mp h
  obtain ⟨_, hstate, h⟩ := bind_ok.mp h
  have hprepared : record.state = .prepared := by simpa using require_ok.mp hstate
  cases hinsert : t.insertIfAbsent record with
  | some t₁ =>
    simp only [hinsert] at h
    cases h
    obtain ⟨habsent, hrows⟩ := OrderTable.row?_insert hinsert
    refine .inr ⟨rfl, rfl, fun row hrow => ?_, ⟨record, by simp [hrows], hprepared⟩, fun other hother => ?_⟩
    · rw [habsent] at hrow
      cases hrow
    · simp [hrows, hother]
  | none =>
    simp only [hinsert] at h
    cases hrow : t.row? record.clientOrderId with
    | none =>
      simp only [hrow] at h
      cases h
    | some row =>
      simp only [hrow] at h
      obtain ⟨_, -, h⟩ := bind_ok.mp h
      by_cases hnotSent : row.state = .notSent
      · rw [if_pos hnotSent] at h
        obtain ⟨record', hrecord, h⟩ := bind_ok.mp h
        cases h
        rw [recordOf_ok hrecord]
        have hvalues : ∀ r, (retried record r).clientOrderId = r.clientOrderId := fun _ => rfl
        have hid : row.clientOrderId = record.clientOrderId := OrderTable.row?_clientOrderId hrow
        refine .inr ⟨rfl, hid, fun row' hrow' => ?_,
          ⟨retried record row, ?_, rfl⟩, fun other hother => ?_⟩
        · cases hrow'
          exact hnotSent
        · simp [OrderTable.row?_apply _ _ _ hvalues, hrow]
        · simp [OrderTable.row?_apply _ _ _ hvalues, hother]
      · rw [if_neg hnotSent] at h
        obtain ⟨_, -, h⟩ := bind_ok.mp h
        cases h
        exact .inl ⟨rfl, rfl⟩

/-- What `mark_not_sent` and `finish` change: one row, which exists, gets the state. -/
def Writes (t t' : OrderTable) (clientOrderId : String) (state : NormalOrderState) : Prop :=
  (∃ row, t'.row? clientOrderId = some row ∧ row.state = state) ∧
    (t.row? clientOrderId).isSome ∧ ∀ other, other ≠ clientOrderId → t'.row? other = t.row? other

theorem writes_answered {t : OrderTable} {clientOrderId : String} {row : NormalOrderRecord}
    (hrow : t.row? clientOrderId = some row) (state : NormalOrderState)
    (result : Option BrokerWriteResult) :
    Writes t (t.apply clientOrderId (answered state result)) clientOrderId state := by
  have hvalues : ∀ r, (answered state result r).clientOrderId = r.clientOrderId := fun _ => rfl
  refine ⟨⟨answered state result row, ?_, rfl⟩, by simp [hrow], fun other hother => ?_⟩
  · simp [OrderTable.row?_apply _ _ _ hvalues, hrow]
  · simp [OrderTable.row?_apply _ _ _ hvalues, hother]

theorem markNotSent_ok {t t' : OrderTable} {clientOrderId : String} {digest : Digest}
    {record : NormalOrderRecord} (h : markNotSent sha256 t clientOrderId digest = .ok (t', record)) :
    Writes t t' clientOrderId .notSent := by
  unfold markNotSent at h
  cases hrow : t.row? clientOrderId with
  | none =>
    simp only [hrow] at h
    cases h
  | some row =>
    simp only [hrow] at h
    obtain ⟨_, -, h⟩ := bind_ok.mp h
    obtain ⟨_, -, h⟩ := bind_ok.mp h
    cases h
    exact writes_answered hrow .notSent none

theorem finish_ok {t t' : OrderTable} {clientOrderId : String} {state : NormalOrderState}
    {result : Option BrokerWriteResult} {record : NormalOrderRecord}
    (h : finish sha256 t clientOrderId state result = .ok (t', record)) :
    Writes t t' clientOrderId state := by
  obtain ⟨_, -, h⟩ := bind_ok.mp h
  cases hrow : t.row? clientOrderId with
  | none =>
    simp only [hrow] at h
    cases h
  | some row =>
    simp only [hrow] at h
    obtain ⟨_, -, h⟩ := bind_ok.mp h
    cases h
    exact writes_answered hrow state result

/-! ### Results as JSON -/

/-- `entry[key]` of a document that should be an object. -/
def entryItem (entry : Json) (key : String) : Except PyError Json :=
  match entry with
  | .obj fields => Json.item fields key
  | .arr _ => .error ⟨.typeError, "list indices must be integers or slices, not str"⟩
  | .str _ => .error ⟨.typeError, "string indices must be integers, not 'str'"⟩
  | _ => .error ⟨.typeError, "object is not subscriptable"⟩

/-- `pair[index]` of a document that should be a list. -/
def pairItem (pair : Json) (index : Nat) : Except PyError Json :=
  match pair with
  | .arr values =>
    match values[index]? with
    | some value => .ok value
    | none => .error ⟨.indexError, "list index out of range"⟩
  | .str text =>
    match text.toList[index]? with
    | some c => .ok (.str (String.singleton c))
    | none => .error ⟨.indexError, "string index out of range"⟩
  | .obj _ => .error ⟨.lookupError, toString index⟩
  | _ => .error ⟨.typeError, "object is not subscriptable"⟩

/-- `_text` of a persisted order or protection. -/
def persistedText (record : String) : Json → Except PyError String
  | .str text => .ok text
  | _ => .error (valueError ("Binance USD-M persisted " ++ record ++ " text is invalid"))

/-- `Decimal(text)`. -/
def decimalOf (text : String) : Except PyError Decimal :=
  match Decimal.parse text with
  | some value => .ok value
  | none => .error ⟨.invalidOperation, "[<class 'decimal.ConversionSyntax'>]"⟩

/-- `_decimal`. -/
def persistedDecimal : Json → Except PyError Decimal
  | .str text => decimalOf text
  | _ => .error (valueError "Binance USD-M persisted order decimal is invalid")

/-- `_integer`. -/
def persistedInteger : Json → Except PyError Int
  | .int value => .ok value
  | _ => .error (valueError "Binance USD-M persisted order integer is invalid")

/-- `_boolean` of a persisted order or protection. -/
def persistedBoolean (record : String) : Json → Except PyError Bool
  | .bool value => .ok value
  | _ => .error (valueError ("Binance USD-M persisted " ++ record ++ " boolean is invalid"))

/-- `datetime.fromisoformat(text)` in UTC, which every other instant is refused for. -/
def instantOf (text : String) : Except PyError Instant :=
  match fromisoformat text with
  | some value => .ok value
  | none => .error (valueError "Binance USD-M fill occurred_at must use exact UTC")

/-- `str(value)`. -/
def decimalJson (value : Decimal) : Json := .str (String.ofList value.str)

def encodeFill (fill : Fill) : Json :=
  .obj
    [("trade_id", .int fill.tradeId),
      ("order_id", .int fill.orderId),
      ("side", .str fill.side.value),
      ("quantity", decimalJson fill.quantity),
      ("price", decimalJson fill.price),
      ("commission", decimalJson fill.commission),
      ("commission_asset", .str fill.commissionAsset),
      ("realized_pnl", decimalJson fill.realizedPnl),
      ("occurred_at", .str (isoformat fill.occurredAt))]

def encodeCommission (commission : String × Decimal) : Json :=
  .arr [.str commission.1, decimalJson commission.2]

def encodeWriteResult (result : BrokerWriteResult) : Json :=
  .obj
    [("broker_order_id", .str result.brokerOrderId),
      ("client_order_id", .str result.clientOrderId),
      ("provider_state", .str result.providerState),
      ("cumulative_filled_quantity", decimalJson result.cumulativeFilledQuantity),
      ("cumulative_quote_quantity", decimalJson result.cumulativeQuoteQuantity),
      ("average_fill_price", decimalJson result.averageFillPrice),
      ("commissions", .arr (result.commissions.map encodeCommission)),
      ("fills", .arr (result.fills.map encodeFill)),
      ("recovered", .bool result.recovered)]

/-- `_fill`. -/
def persistedFill (entry : Json) : Except PyError Fill := do
  let tradeId ← persistedInteger (← entryItem entry "trade_id")
  let orderId ← persistedInteger (← entryItem entry "order_id")
  let side ← sideOf (← persistedText "order" (← entryItem entry "side"))
  let quantity ← persistedDecimal (← entryItem entry "quantity")
  let price ← persistedDecimal (← entryItem entry "price")
  let commission ← persistedDecimal (← entryItem entry "commission")
  let commissionAsset ← persistedText "order" (← entryItem entry "commission_asset")
  let realizedPnl ← persistedDecimal (← entryItem entry "realized_pnl")
  let occurredAt ← instantOf (← persistedText "order" (← entryItem entry "occurred_at"))
  require (0 ≤ tradeId) (valueError "Binance USD-M trade ID is invalid")
  require (0 < orderId) (valueError "Binance USD-M fill order ID is invalid")
  let fill : Fill :=
    { tradeId := tradeId.toNat
      orderId := orderId.toNat
      side, quantity, price, commission, commissionAsset, realizedPnl, occurredAt }
  fill.validate
  pure fill

def persistedCommission (pair : Json) : Except PyError (String × Decimal) := do
  let asset ← persistedText "order" (← pairItem pair 0)
  let amount ← persistedDecimal (← pairItem pair 1)
  pure (asset, amount)

def decodeWriteResult (payload : Json) : Except PyError BrokerWriteResult :=
  match payload with
  | .obj body => do
    let fills ← match ← Json.item body "fills" with
      | .arr fills => .ok fills
      | _ => .error (valueError "Binance USD-M persisted order fills are invalid")
    let commissions ← match ← Json.item body "commissions" with
      | .arr commissions => .ok commissions
      | _ => .error (valueError "Binance USD-M persisted order commissions are invalid")
    let brokerOrderId ← persistedText "order" (← Json.item body "broker_order_id")
    let clientOrderId ← persistedText "order" (← Json.item body "client_order_id")
    let providerState ← persistedText "order" (← Json.item body "provider_state")
    let cumulativeFilledQuantity ← persistedDecimal (← Json.item body "cumulative_filled_quantity")
    let cumulativeQuoteQuantity ← persistedDecimal (← Json.item body "cumulative_quote_quantity")
    let averageFillPrice ← persistedDecimal (← Json.item body "average_fill_price")
    let commissions ← commissions.mapM persistedCommission
    let fills ← fills.mapM persistedFill
    let recovered ← persistedBoolean "order" (← Json.item body "recovered")
    let result : BrokerWriteResult :=
      { brokerOrderId, clientOrderId, providerState, cumulativeFilledQuantity, cumulativeQuoteQuantity,
        averageFillPrice, commissions, fills, recovered }
    result.validate
    pure result
  | _ => .error (valueError "Binance USD-M persisted order result is invalid")

/-- A fill that could be constructed. -/
def Fill.Constructed (fill : Fill) : Prop := fill.validate = .ok () ∧ IsDatetime fill.occurredAt

/-- A result that could be constructed. -/
def BrokerWriteResult.Constructed (result : BrokerWriteResult) : Prop :=
  result.validate = .ok () ∧ ∀ fill ∈ result.fills, fill.Constructed

/-- The medium holds the ids of the fill. -/
def Fill.Held (keeps : Int → Bool) (fill : Fill) : Prop := keeps fill.tradeId ∧ keeps fill.orderId

section Codec

theorem decimalOf_str (value : Decimal) : decimalOf (String.ofList value.str) = .ok value := by
  rw [decimalOf, Decimal.parse_str]

theorem sideOf_value (side : Side) : sideOf side.value = .ok side := by
  cases side <;> rfl

theorem instantOf_isoformat {t : Instant} (h : IsDatetime t) : instantOf (isoformat t) = .ok t := by
  rw [instantOf, fromisoformat_isoformat h]

theorem persistedInteger_keeping {keeps : Int → Bool} {value read : Int} :
    persistedInteger (if keeps value then .int value else .float) = .ok read ↔ keeps value ∧ read = value := by
  split <;> rename_i hkeeps
  · simp [persistedInteger, hkeeps, eq_comm]
  · simp [persistedInteger, hkeeps]

variable (keeps : Int → Bool)

theorem encodeFill_roundTrips {fill : Fill} (h : fill.Constructed) :
    RoundTrips (fun fill => (encodeFill fill).keeping keeps) persistedFill (Fill.Held keeps) fill := by
  obtain ⟨hvalid, hdatetime⟩ := h
  have horder : 0 < fill.orderId := by
    obtain ⟨_, horder, -⟩ := bind_ok.mp hvalid
    simpa using require_ok.mp horder
  intro read
  show persistedFill ((encodeFill fill).keeping keeps) = .ok read ↔ _
  simp only [encodeFill, Json.keeping, Json.keepingMembers, decimalJson, persistedFill, entryItem, Json.item,
    List.lookup_cons, String.reduceBEq, beq_self_eq_true, ok_bind, persistedDecimal, persistedText,
    decimalOf_str, sideOf_value, instantOf_isoformat hdatetime, bind_ok, persistedInteger_keeping, require_ok]
  constructor
  · rintro ⟨_, ⟨htrade, rfl⟩, _, ⟨hordered, rfl⟩, _, -, _, -, _, -, hread⟩
    exact ⟨⟨htrade, hordered⟩, (Except.ok.inj hread).symm⟩
  · rintro ⟨⟨htrade, hordered⟩, rfl⟩
    exact ⟨_, ⟨htrade, rfl⟩, _, ⟨hordered, rfl⟩, (), by simp, (), by simpa using horder, (), hvalid, rfl⟩

theorem encodeCommission_roundTrips (commission : String × Decimal) :
    RoundTrips (fun commission => (encodeCommission commission).keeping keeps) persistedCommission (fun _ => True)
      commission := by
  intro read
  show persistedCommission ((encodeCommission commission).keeping keeps) = .ok read ↔ _
  simp only [encodeCommission, Json.keeping, Json.keepingAll, decimalJson,
    persistedCommission, pairItem, List.getElem?_cons_zero, List.getElem?_cons_succ, ok_bind, persistedText,
    persistedDecimal, decimalOf_str, true_and]
  exact ⟨fun h => (Except.ok.inj h).symm, fun h => congrArg Except.ok h.symm⟩

/-- A result is read back where the medium holds the ids of its fills. -/
theorem encodeWriteResult_roundTrips {result : BrokerWriteResult} (h : result.Constructed) :
    RoundTrips (fun result => (encodeWriteResult result).keeping keeps) decodeWriteResult
      (fun result => ∀ fill ∈ result.fills, fill.Held keeps) result := by
  obtain ⟨hvalid, hfills⟩ := h
  have hcommissions := RoundTrips.list fun commission (_ : commission ∈ result.commissions) =>
    encodeCommission_roundTrips keeps commission
  have hfills := RoundTrips.list fun fill hfill => encodeFill_roundTrips keeps (hfills fill hfill)
  intro read
  show decodeWriteResult ((encodeWriteResult result).keeping keeps) = .ok read ↔ _
  simp only [encodeWriteResult, Json.keeping, Json.keepingMembers, Json.keepingAll_eq, List.map_map, decimalJson,
    decodeWriteResult, Json.item, List.lookup_cons, String.reduceBEq, beq_self_eq_true, ok_bind, persistedDecimal,
    persistedText, persistedBoolean, decimalOf_str, bind_ok]
  constructor
  · rintro ⟨commissions, hcommission, fills, hfill, _, -, hread⟩
    obtain ⟨-, rfl⟩ := (hcommissions commissions).mp hcommission
    obtain ⟨hheld, rfl⟩ := (hfills fills).mp hfill
    exact ⟨hheld, (Except.ok.inj hread).symm⟩
  · rintro ⟨hheld, rfl⟩
    exact ⟨_, hcommissions.ok fun _ _ => trivial, _, hfills.ok hheld, (), hvalid, rfl⟩

theorem decodeWriteResult_encode {result : BrokerWriteResult} (h : result.Constructed) :
    decodeWriteResult (encodeWriteResult result) = .ok result := by
  have hread := (encodeWriteResult_roundTrips (fun _ => true) h).ok fun _ _ => ⟨rfl, rfl⟩
  rwa [Json.keeping_all] at hread

end Codec

end AutoTrader.Binance
