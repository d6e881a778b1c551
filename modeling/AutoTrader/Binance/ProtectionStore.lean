import AutoTrader.Binance.OrderStore
import AutoTrader.Binance.ProtectionRequests
import AutoTrader.Domain.DecimalRounding

/-! The durable table of protective stops, one row for each placement. Its numbers are
`NUMERIC(38,18)` columns; a row that breaks a unique key or a check is ignored by the
insert. -/

namespace AutoTrader.Binance

open AutoTrader.Domain AutoTrader.Execution AutoTrader.Numeric AutoTrader.Runtime

abbrev AlgoTable := List AlgoOrderRecord

/-- The row once an outcome is written. -/
def AlgoOrderRecord.finished (state : AlgoOrderState) (result : Option ProtectionResult)
    (row : AlgoOrderRecord) : AlgoOrderRecord :=
  { row with state := state, result := result }

namespace AlgoTable

def row? (t : AlgoTable) (clientAlgoId : String) : Option AlgoOrderRecord :=
  Rows.lookup (·.clientAlgoId) t clientAlgoId

/-- The `UPDATE` of the row under a client algo id. -/
def apply (t : AlgoTable) (clientAlgoId : String) (state : AlgoOrderState) (result : Option ProtectionResult) :
    AlgoTable :=
  Rows.update (·.clientAlgoId) t clientAlgoId (.finished state result)

theorem row?_apply (t : AlgoTable) (clientAlgoId other : String) (state : AlgoOrderState)
    (result : Option ProtectionResult) :
    (t.apply clientAlgoId state result).row? other = (t.row? other).map fun row =>
      if other = clientAlgoId then row.finished state result else row := by
  have hid : ∀ row : AlgoOrderRecord, (row.finished state result).clientAlgoId = row.clientAlgoId :=
    fun _ => rfl
  exact Rows.lookup_update hid t clientAlgoId other

end AlgoTable

/-- The columns of the fill. -/
def EntryFill.columns (fill : EntryFill) : EntryFill :=
  { fill with
    firstFillQuantity := fill.firstFillQuantity.column
    cumulativeQuantityBefore := fill.cumulativeQuantityBefore.column
    averageFillPrice := fill.averageFillPrice.column
    tickSize := fill.tickSize.column }

/-- The row of a record. The placement id is a column of its own, and read back as absent
when it is the entry's. -/
def AlgoOrderRecord.row (record : AlgoOrderRecord) : AlgoOrderRecord :=
  { record with
    entryFill := record.entryFill.columns
    triggerPrice := record.triggerPrice.column
    placementCommandId :=
      if record.placementId = record.entryFill.entryCommandId then none else record.placementCommandId }

/-- `ck_binance_usdm_algo_order_values`, on what its columns keep of the numbers. -/
def AlgoOrderRecord.meetsChecks (row : AlgoOrderRecord) : Bool :=
  decide (0 < row.entryFill.firstFillQuantity.toRat) && decide (0 ≤ row.entryFill.cumulativeQuantityBefore.toRat) &&
    decide (0 < row.entryFill.averageFillPrice.toRat) && decide (0 < row.entryFill.tickSize.toRat) &&
    decide (0 < row.triggerPrice.toRat)

/-- `insert_if_absent`. -/
def AlgoTable.insertIfAbsent (t : AlgoTable) (record : AlgoOrderRecord) : Option AlgoTable :=
  if !record.row.meetsChecks || t.any fun row =>
      row.clientAlgoId = record.clientAlgoId || row.placementId = record.placementId then none
  else some (t ++ [record.row])

/-- `_require_same_request`. -/
def requireSameStop (row record : AlgoOrderRecord) : Except PyError Unit :=
  require (row.requestDigest = record.requestDigest &&
      row.entryFill.entryCommandId = record.entryFill.entryCommandId &&
      row.entryFill.accountId = record.entryFill.accountId &&
      row.entryFill.bindingId = record.entryFill.bindingId)
    (valueError "Binance USD-M client algo id names a different stop")

/-- The checks of `finish` on its arguments. -/
def checkProtectionResult (clientAlgoId : String) (state : AlgoOrderState) (result : Option ProtectionResult) :
    Except PyError Unit :=
  if state.isSafe then
    match result with
    | none => throw (valueError "safe Binance USD-M protection needs a result")
    | some result => do
      require (result.state = state) (valueError "Binance USD-M protection result state differs")
      require (result.clientAlgoId = clientAlgoId)
        (valueError "Binance USD-M protection result identity differs")
  else require result.isNone (valueError "unsafe Binance USD-M protection cannot have a result")

namespace AlgoTable

variable (sha256 : String → Digest)

/-- `_record`: the row as a record, its fill and its result checked like any other. -/
def recordOf (row : AlgoOrderRecord) : Except PyError AlgoOrderRecord := do
  row.entryFill.validate
  row.result.forM ProtectionResult.validate
  row.validate sha256
  pure row

def prepare (t : AlgoTable) (record : AlgoOrderRecord) : Except PyError (AlgoTable × AlgoOrderClaim) := do
  record.validate sha256
  require (record.state = .prepared) (valueError "only prepared Binance USD-M protection may be claimed")
  match t.insertIfAbsent record with
  | some t' => pure (t', ⟨record, true⟩)
  | none =>
    match t.row? record.clientAlgoId with
    | none => throw ⟨.binanceUsdmOrderRecordMissing,
        "Binance USD-M protection record vanished between claim and read"⟩
    | some row =>
      requireSameStop row record
      let record' ← recordOf sha256 row
      pure (t, ⟨record', false⟩)

def loadByClientAlgoId (t : AlgoTable) (clientAlgoId : String) : Except PyError (Option AlgoOrderRecord) :=
  match t.row? clientAlgoId with
  | none => pure none
  | some row => some <$> recordOf sha256 row

def finish (t : AlgoTable) (clientAlgoId : String) (state : AlgoOrderState) (result : Option ProtectionResult) :
    Except PyError (AlgoTable × AlgoOrderRecord) := do
  checkProtectionResult clientAlgoId state result
  let t' := t.apply clientAlgoId state result
  match t'.row? clientAlgoId with
  | none => throw ⟨.binanceUsdmOrderRecordMissing, "Binance USD-M protection record to finish is absent"⟩
  | some row =>
    let record ← recordOf sha256 row
    pure (t', record)

/-! ### What the operations change -/

variable {sha256}

theorem recordOf_ok {row record : AlgoOrderRecord} (h : recordOf sha256 row = .ok record) : record = row := by
  obtain ⟨_, -, h⟩ := bind_ok.mp h
  obtain ⟨_, -, h⟩ := bind_ok.mp h
  obtain ⟨_, -, h⟩ := bind_ok.mp h
  cases h
  rfl

theorem recordOf_valid {row record : AlgoOrderRecord} (h : recordOf sha256 row = .ok record) :
    row.Valid sha256 := by
  obtain ⟨_, -, h⟩ := bind_ok.mp h
  obtain ⟨_, -, h⟩ := bind_ok.mp h
  obtain ⟨_, hvalid, -⟩ := bind_ok.mp h
  exact AlgoOrderRecord.validate_ok.mp hvalid

/-- The claim of `prepare`: the record was absent and its row is in the table now, or it
was there and the table is as it was. -/
inductive Claimed (sha256 : String → Digest) (t : AlgoTable) (record : AlgoOrderRecord) :
    AlgoTable → AlgoOrderClaim → Prop
  | acquired {t' : AlgoTable} (fresh : record.state = .prepared) (valid : record.Valid sha256)
      (checks : record.row.meetsChecks) (absent : t.row? record.clientAlgoId = none)
      (rows : ∀ other, t'.row? other = if other = record.clientAlgoId then some record.row else t.row? other) :
      Claimed sha256 t record t' ⟨record, true⟩
  | existing {row : AlgoOrderRecord} (present : t.row? record.clientAlgoId = some row)
      (readable : recordOf sha256 row = .ok row) : Claimed sha256 t record t ⟨row, false⟩

theorem prepare_ok {t t' : AlgoTable} {record : AlgoOrderRecord} {claim : AlgoOrderClaim}
    (h : prepare sha256 t record = .ok (t', claim)) : Claimed sha256 t record t' claim := by
  obtain ⟨_, hvalid, h⟩ := bind_ok.mp h
  obtain ⟨_, hstate, h⟩ := bind_ok.mp h
  have hfresh : record.state = .prepared := by simpa using require_ok.mp hstate
  cases hinsert : t.insertIfAbsent record with
  | some t₁ =>
    simp only [hinsert] at h
    cases h
    unfold insertIfAbsent at hinsert
    split at hinsert
    · cases hinsert
    · rename_i hrefused
      cases hinsert
      simp only [Bool.or_eq_true, Bool.not_eq_true', not_or, Bool.not_eq_false] at hrefused
      obtain ⟨hchecks, hany⟩ := hrefused
      have habsent : t.row? record.row.clientAlgoId = none := by
        refine Rows.lookup_eq_none.mpr fun row hrow heq => hany (List.any_eq_true.mpr ⟨row, hrow, ?_⟩)
        have hid : row.clientAlgoId = record.clientAlgoId := heq
        simp [hid]
      exact .acquired hfresh (AlgoOrderRecord.validate_ok.mp hvalid) hchecks habsent (Rows.lookup_add habsent)
  | none =>
    simp only [hinsert] at h
    cases hrow : t.row? record.clientAlgoId with
    | none =>
      simp only [hrow] at h
      cases h
    | some row =>
      simp only [hrow] at h
      obtain ⟨_, -, h⟩ := bind_ok.mp h
      obtain ⟨record', hrecord, h⟩ := bind_ok.mp h
      cases h
      obtain rfl := recordOf_ok hrecord
      exact .existing hrow hrecord

theorem loadByClientAlgoId_some {t : AlgoTable} {clientAlgoId : String} {row : AlgoOrderRecord}
    (hrow : t.row? clientAlgoId = some row) (hreadable : recordOf sha256 row = .ok row) :
    loadByClientAlgoId sha256 t clientAlgoId = .ok (some row) := by
  simp only [loadByClientAlgoId, hrow, hreadable]
  rfl

theorem loadByClientAlgoId_ok {t : AlgoTable} {clientAlgoId : String} {record : AlgoOrderRecord}
    (h : loadByClientAlgoId sha256 t clientAlgoId = .ok (some record)) :
    t.row? clientAlgoId = some record := by
  unfold loadByClientAlgoId at h
  cases hrow : t.row? clientAlgoId with
  | none =>
    simp only [hrow] at h
    cases h
  | some row =>
    simp only [hrow] at h
    cases hrecord : recordOf sha256 row with
    | error e =>
      rw [hrecord] at h
      cases h
    | ok record' =>
      rw [hrecord] at h
      cases h
      rw [recordOf_ok hrecord]

/-- `finish` writes the row under the client algo id, which exists, and no other. -/
theorem finish_ok {t t' : AlgoTable} {clientAlgoId : String} {state : AlgoOrderState}
    {result : Option ProtectionResult} {record : AlgoOrderRecord}
    (h : finish sha256 t clientAlgoId state result = .ok (t', record)) :
    (∃ row, t'.row? clientAlgoId = some row ∧ row.state = state) ∧
      ∀ other, other ≠ clientAlgoId → t'.row? other = t.row? other := by
  obtain ⟨_, -, h⟩ := bind_ok.mp h
  have hrows : ∀ other, (t.apply clientAlgoId state result).row? other = _ :=
    fun other => row?_apply t clientAlgoId other state result
  cases hrow : t.row? clientAlgoId with
  | none =>
    simp only [hrows, hrow, Option.map_none] at h
    cases h
  | some row =>
    simp only [hrows, hrow, Option.map_some] at h
    obtain ⟨_, -, h⟩ := bind_ok.mp h
    cases h
    refine ⟨⟨row.finished state result, by simp [hrows, hrow], rfl⟩, fun other hother => ?_⟩
    simp [hrows, hother]

end AlgoTable

/-! ### Rows of claimed records -/

theorem AlgoOrderRecord.row_placementId (record : AlgoOrderRecord) :
    record.row.placementId = record.placementId := by
  show (if record.placementId = record.entryFill.entryCommandId then none
    else record.placementCommandId).getD record.entryFill.entryCommandId = record.placementId
  split
  · rename_i hfirst
    exact hfirst.symm
  · rfl

/-- Rounding to the columns keeps a record valid as long as the checks of the table hold. -/
theorem AlgoOrderRecord.Valid.row {sha256 : String → Digest} {record : AlgoOrderRecord}
    (h : record.Valid sha256) (hchecks : record.row.meetsChecks) {state : AlgoOrderState}
    (hstate : state.isSafe = false) : (record.row.finished state none).Valid sha256 := by
  simp only [meetsChecks, Bool.and_eq_true, decide_eq_true_eq] at hchecks
  obtain ⟨⟨⟨⟨hfirst, hbefore⟩, hprice⟩, htick⟩, htrigger⟩ := hchecks
  have hplacement : (record.row.finished state none).placementId = record.placementId := record.row_placementId
  exact {
    entryFill := ⟨h.entryFill.ids, hfirst, hbefore, hprice, h.entryFill.symbol, htick, h.entryFill.window⟩
    placementId := by
      rw [hplacement]
      exact h.placementId
    clientAlgoId := by
      rw [hplacement]
      exact h.clientAlgoId
    triggerPrice := htrigger
    requestBody := h.requestBody
    requestDigest := h.requestDigest
    preparedAt := h.preparedAt
    result := by simp [validateResult, finished, hstate, require] }

/-- Whatever becomes of a claimed placement without a result can be written. -/
theorem AlgoTable.finish_claimed {sha256 : String → Digest} {t : AlgoTable} {record : AlgoOrderRecord}
    {state : AlgoOrderState} (hvalid : record.Valid sha256) (hchecks : record.row.meetsChecks)
    (hrow : t.row? record.clientAlgoId = some record.row) (hstate : state.isSafe = false) :
    ∃ t' row, AlgoTable.finish sha256 t record.clientAlgoId state none = .ok (t', row) := by
  have hrow' := hvalid.row hchecks hstate
  have hfill := EntryFill.validate_ok (u := ()) |>.mpr hrow'.entryFill
  have hrecord := AlgoOrderRecord.validate_ok.mpr hrow'
  have hread : recordOf sha256 (record.row.finished state none) = .ok (record.row.finished state none) := by
    simp only [recordOf, hfill, hrecord]
    rfl
  have hcheck : checkProtectionResult record.clientAlgoId state none = .ok () := by
    simp [checkProtectionResult, hstate, require]
  refine ⟨t.apply record.clientAlgoId state none, record.row.finished state none, ?_⟩
  simp only [finish, hcheck, row?_apply, hrow, Option.map_some, if_true, hread]
  rfl

/-! ### Columns and JSON -/

def AlgoOrderState.value : AlgoOrderState → String
  | .prepared => "PREPARED"
  | .ambiguous => "AMBIGUOUS"
  | .active => "ACTIVE"
  | .rejected => "REJECTED"
  | .emergencyClosed => "EMERGENCY_CLOSED"
  | .unknown => "UNKNOWN"
  | .superseded => "SUPERSEDED"

/-- `BinanceUsdmAlgoOrderState(text)`. -/
def algoOrderStateOf (text : String) : Except PyError AlgoOrderState :=
  match text with
  | "PREPARED" => .ok .prepared
  | "AMBIGUOUS" => .ok .ambiguous
  | "ACTIVE" => .ok .active
  | "REJECTED" => .ok .rejected
  | "EMERGENCY_CLOSED" => .ok .emergencyClosed
  | "UNKNOWN" => .ok .unknown
  | "SUPERSEDED" => .ok .superseded
  | _ => .error (valueError (text ++ " is not a valid BinanceUsdmAlgoOrderState"))

/-- `_encode`. -/
def encodeProtectionResult (result : ProtectionResult) : Json :=
  .obj
    [("provider_algo_id", (result.providerAlgoId.map Json.str).getD .null),
      ("client_algo_id", .str result.clientAlgoId),
      ("state", .str result.state.value),
      ("trigger_price", decimalJson result.triggerPrice),
      ("recovered", .bool result.recovered),
      ("emergency_close", (result.emergencyClose.map encodeWriteResult).getD .null)]

/-- `None if value is None else read(value)`. -/
def unlessNull {α : Type} (value : Json) (read : Json → Except PyError α) : Except PyError (Option α) :=
  match value with
  | .null => .ok none
  | value => some <$> read value

/-- `_decode`. -/
def decodeProtectionResult (payload : Json) : Except PyError ProtectionResult :=
  match payload with
  | .obj body => do
    let close ← Json.item body "emergency_close"
    let providerAlgoId ← unlessNull (← Json.item body "provider_algo_id") fun provider =>
      match provider with
      | .str text => .ok text
      | _ => .error (valueError "Binance USD-M persisted provider algo id is invalid")
    let clientAlgoId ← persistedText "protection" (← Json.item body "client_algo_id")
    let state ← algoOrderStateOf (← persistedText "protection" (← Json.item body "state"))
    let triggerPrice ← decimalOf (← persistedText "protection" (← Json.item body "trigger_price"))
    let recovered ← persistedBoolean "protection" (← Json.item body "recovered")
    let emergencyClose ← unlessNull close decodeWriteResult
    let result : ProtectionResult :=
      { providerAlgoId, clientAlgoId, state, triggerPrice, recovered, emergencyClose }
    result.validate
    pure result
  | _ => .error (valueError "Binance USD-M persisted protection result is invalid")

/-- `BinanceUsdmAlgoOrderRow`. -/
structure AlgoOrderRow where
  placementCommandId : UUID
  entryCommandId : UUID
  clientAlgoId : String
  bindingId : UUID
  accountId : UUID
  instrumentId : UUID
  emergencyCloseCommandId : UUID
  side : String
  symbol : String
  firstFillQuantity : Decimal
  cumulativeQuantityBefore : Decimal
  averageFillPrice : Decimal
  tickSize : Decimal
  triggerPrice : Decimal
  filledAt : Instant
  protectionDeadline : Instant
  preparedAt : Instant
  requestBody : String
  requestDigest : Digest
  state : String
  result : Option Json

/-- The row `prepare` and `finish` write of a record, its numbers in `NUMERIC(38,18)` columns, its body, one byte a
character, in `VARBINARY(2048)`. -/
def AlgoOrderRecord.toRow (record : AlgoOrderRecord) : AlgoOrderRow where
  placementCommandId := record.placementId
  entryCommandId := record.entryFill.entryCommandId
  clientAlgoId := record.clientAlgoId
  bindingId := record.entryFill.bindingId
  accountId := record.entryFill.accountId
  instrumentId := record.entryFill.instrumentId
  emergencyCloseCommandId := record.entryFill.emergencyCloseCommandId
  side := record.entryFill.side.value
  symbol := record.entryFill.symbol
  firstFillQuantity := record.entryFill.firstFillQuantity.column
  cumulativeQuantityBefore := record.entryFill.cumulativeQuantityBefore.column
  averageFillPrice := record.entryFill.averageFillPrice.column
  tickSize := record.entryFill.tickSize.column
  triggerPrice := record.triggerPrice.column
  filledAt := record.entryFill.filledAt
  protectionDeadline := record.entryFill.protectionDeadline
  preparedAt := record.preparedAt
  requestBody := String.ofList (record.requestBody.toList.take 2048)
  requestDigest := record.requestDigest
  state := record.state.value
  result := record.result.map fun result => (encodeProtectionResult result).column

/-- `_record`. -/
def AlgoOrderRow.toRecord (sha256 : String → Digest) (row : AlgoOrderRow) : Except PyError AlgoOrderRecord := do
  let side ← sideOf row.side
  let entryFill : EntryFill :=
    { entryCommandId := row.entryCommandId
      accountId := row.accountId
      instrumentId := row.instrumentId
      bindingId := row.bindingId
      side := side
      firstFillQuantity := row.firstFillQuantity
      cumulativeQuantityBefore := row.cumulativeQuantityBefore
      averageFillPrice := row.averageFillPrice
      symbol := row.symbol
      tickSize := row.tickSize
      filledAt := row.filledAt
      protectionDeadline := row.protectionDeadline
      emergencyCloseCommandId := row.emergencyCloseCommandId }
  entryFill.validate
  let state ← algoOrderStateOf row.state
  let result ← row.result.mapM decodeProtectionResult
  let record : AlgoOrderRecord :=
    { entryFill := entryFill
      clientAlgoId := row.clientAlgoId
      triggerPrice := row.triggerPrice
      requestBody := row.requestBody
      requestDigest := row.requestDigest
      preparedAt := row.preparedAt
      state := state
      result := result
      placementCommandId := if row.placementCommandId = row.entryCommandId then none else some row.placementCommandId }
  record.validate sha256
  pure record

/-- A protection result that could be constructed. -/
def ProtectionResult.Constructed (result : ProtectionResult) : Prop :=
  result.validate = .ok () ∧ ∀ close ∈ result.emergencyClose, close.Constructed

/-- The medium holds every id of the emergency close. -/
def ProtectionResult.Held (keeps : Int → Bool) (result : ProtectionResult) : Prop :=
  ∀ close ∈ result.emergencyClose, ∀ fill ∈ close.fills, fill.Held keeps

theorem algoOrderStateOf_value (state : AlgoOrderState) : algoOrderStateOf state.value = .ok state := by
  cases state <;> rfl

theorem unlessNull_text (text : Option String) :
    unlessNull ((text.map Json.str).getD .null) (fun provider =>
      match provider with
      | .str text => .ok text
      | _ => .error (valueError "Binance USD-M persisted provider algo id is invalid")) = .ok text := by
  cases text <;> rfl

variable (keeps : Int → Bool)

theorem emergencyClose_roundTrips {close : Option BrokerWriteResult} (h : ∀ c ∈ close, c.Constructed) :
    RoundTrips (fun close => ((close.map encodeWriteResult).getD .null).keeping keeps)
      (unlessNull · decodeWriteResult) (fun close => ∀ c ∈ close, ∀ fill ∈ c.fills, fill.Held keeps) close := by
  intro read
  cases close with
  | none =>
    show Except.ok none = Except.ok read ↔ _
    simp [eq_comm]
  | some c =>
    have hclose := encodeWriteResult_roundTrips keeps (h c rfl)
    show (decodeWriteResult ((encodeWriteResult c).keeping keeps)).map some = .ok read ↔ _
    rw [exceptMap_ok]
    constructor
    · rintro ⟨_, hread, rfl⟩
      obtain ⟨hheld, rfl⟩ := (hclose _).mp hread
      exact ⟨fun _ hmem => Option.mem_some_iff.mp hmem ▸ hheld, rfl⟩
    · rintro ⟨hheld, rfl⟩
      exact ⟨c, hclose.ok (hheld c rfl), rfl⟩

/-- A protection result is read back where the medium holds the ids of its emergency close. -/
theorem encodeProtectionResult_roundTrips {result : ProtectionResult} (h : result.Constructed) :
    RoundTrips (fun result => (encodeProtectionResult result).keeping keeps) decodeProtectionResult
      (ProtectionResult.Held keeps) result := by
  obtain ⟨hvalid, hclose⟩ := h
  have hclose := emergencyClose_roundTrips keeps hclose
  have hprovider : ((result.providerAlgoId.map Json.str).getD .null).keeping keeps =
      (result.providerAlgoId.map Json.str).getD .null := by
    cases result.providerAlgoId <;> rfl
  intro read
  show decodeProtectionResult ((encodeProtectionResult result).keeping keeps) = .ok read ↔ _
  simp only [encodeProtectionResult, Json.keeping, Json.keepingMembers, decimalJson, decodeProtectionResult, Json.item,
    List.lookup_cons, String.reduceBEq, beq_self_eq_true, ok_bind, persistedText, persistedBoolean, decimalOf_str,
    algoOrderStateOf_value, hprovider, unlessNull_text, bind_ok]
  constructor
  · rintro ⟨close, hread, _, -, hresult⟩
    obtain ⟨hheld, rfl⟩ := (hclose close).mp hread
    exact ⟨hheld, (Except.ok.inj hresult).symm⟩
  · rintro ⟨hheld, rfl⟩
    exact ⟨_, hclose.ok hheld, (), hvalid, rfl⟩

theorem decodeProtectionResult_encode {result : ProtectionResult} (h : result.Constructed) :
    decodeProtectionResult (encodeProtectionResult result) = .ok result := by
  have hread := (encodeProtectionResult_roundTrips (fun _ => true) h).ok fun _ _ _ _ => ⟨rfl, rfl⟩
  rwa [Json.keeping_all] at hread

/-! ### Rows read back -/

/-- What `==` compares of a fill: decimals by their values. -/
def Fill.fields (fill : Fill) : (Nat × Nat × Side × String × Instant) × List ℚ :=
  ((fill.tradeId, fill.orderId, fill.side, fill.commissionAsset, fill.occurredAt),
    [fill.quantity.toRat, fill.price.toRat, fill.commission.toRat, fill.realizedPnl.toRat])

def BrokerWriteResult.fields (result : BrokerWriteResult) :=
  ((result.brokerOrderId, result.clientOrderId, result.providerState, result.recovered),
    [result.cumulativeFilledQuantity.toRat, result.cumulativeQuoteQuantity.toRat, result.averageFillPrice.toRat],
    result.commissions.map (fun commission => (commission.1, commission.2.toRat)), result.fills.map Fill.fields)

def ProtectionResult.fields (result : ProtectionResult) :=
  ((result.providerAlgoId, result.clientAlgoId, result.state, result.recovered), result.triggerPrice.toRat,
    result.emergencyClose.map BrokerWriteResult.fields)

namespace AlgoOrderRecord

/-- Equal as dataclasses. -/
structure SameFields (a b : AlgoOrderRecord) : Prop where
  entryFill : a.entryFill.same b.entryFill
  clientAlgoId : a.clientAlgoId = b.clientAlgoId
  triggerPrice : a.triggerPrice.toRat = b.triggerPrice.toRat
  requestBody : a.requestBody = b.requestBody
  requestDigest : a.requestDigest = b.requestDigest
  preparedAt : a.preparedAt = b.preparedAt
  state : a.state = b.state
  result : a.result.map ProtectionResult.fields = b.result.map ProtectionResult.fields
  placementCommandId : a.placementCommandId = b.placementCommandId

/-- A record that could be constructed and passed `validate`. -/
def Constructed (sha256 : String → Digest) (record : AlgoOrderRecord) : Prop :=
  record.Valid sha256 ∧ ∀ result ∈ record.result, result.Constructed

/-- The row written for the record gives back an equal record. -/
def ReadsBack (sha256 : String → Digest) (record : AlgoOrderRecord) : Prop :=
  ∃ read, record.toRow.toRecord sha256 = .ok read ∧ read.SameFields record

def numbers (record : AlgoOrderRecord) : List Decimal :=
  [record.entryFill.firstFillQuantity, record.entryFill.cumulativeQuantityBefore, record.entryFill.averageFillPrice,
    record.entryFill.tickSize, record.triggerPrice]

/-- The columns hold the record. -/
structure FitsRow (record : AlgoOrderRecord) : Prop where
  numbers : ∀ d ∈ record.numbers, OnGrid 38 (-18) d.toRat
  requestBody : record.requestBody.length ≤ 2048
  placementCommandId : record.placementCommandId ≠ some record.entryFill.entryCommandId
  result : ∀ result ∈ record.result, result.Held Json.wordSized

/-- The record as its columns hold it. -/
def stored (record : AlgoOrderRecord) : AlgoOrderRecord :=
  { record.row with requestBody := String.ofList (record.requestBody.toList.take 2048) }

variable {sha256 : String → Digest} {record read : AlgoOrderRecord}

theorem row_placementCommandId (record : AlgoOrderRecord) : record.row.placementCommandId =
    if record.placementId = record.entryFill.entryCommandId then none else some record.placementId := by
  show (if record.placementId = record.entryFill.entryCommandId then none else record.placementCommandId) = _
  split
  · rfl
  · rename_i hmoved
    unfold placementId at hmoved ⊢
    cases hplacement : record.placementCommandId with
    | none => exact absurd (by rw [hplacement]; rfl) hmoved
    | some id => rfl

/-- What is read from the row of a record, where anything is. -/
theorem toRecord_toRow (h : record.Constructed sha256) : record.toRow.toRecord sha256 = .ok read ↔
    (∀ result ∈ record.result, result.Held Json.wordSized) ∧ record.stored.Valid sha256 ∧ read = record.stored := by
  have hresult := RoundTrips.option fun result hresult =>
    encodeProtectionResult_roundTrips Json.wordSized (h.2 result hresult)
  unfold AlgoOrderRow.toRecord toRow
  simp only [sideOf_value, algoOrderStateOf_value, ok_bind, bind_ok, ← row_placementCommandId]
  constructor
  · rintro ⟨_, -, result, hread, _, hvalid, hrecord⟩
    obtain ⟨hheld, rfl⟩ := (hresult result).mp hread
    exact ⟨hheld, validate_ok.mp hvalid, (Except.ok.inj hrecord).symm⟩
  · rintro ⟨hheld, hvalid, rfl⟩
    exact ⟨(), EntryFill.validate_ok.mpr hvalid.entryFill, _, hresult.ok hheld, (), validate_ok.mpr hvalid, rfl⟩

/-- A body of at most 2048 characters is kept. -/
theorem stored_requestBody (record : AlgoOrderRecord) :
    record.stored.requestBody = record.requestBody ↔ record.requestBody.length ≤ 2048 := by
  show String.ofList (record.requestBody.toList.take 2048) = record.requestBody ↔ _
  rw [← String.length_toList]
  constructor
  · intro h
    have htake := congrArg String.toList h
    rw [String.toList_ofList] at htake
    exact List.take_eq_self_iff _ |>.mp htake
  · intro h
    rw [List.take_of_length_le h, String.ofList_toList]

/-- The placement id reads back unless it names the entry. -/
theorem stored_placementCommandId (record : AlgoOrderRecord) :
    record.stored.placementCommandId = record.placementCommandId ↔
      record.placementCommandId ≠ some record.entryFill.entryCommandId := by
  show record.row.placementCommandId = record.placementCommandId ↔ _
  rw [row_placementCommandId, placementId]
  cases hplacement : record.placementCommandId with
  | none => simp
  | some id => by_cases hentry : id = record.entryFill.entryCommandId <;> simp [hentry]

/-- The columns hold an equal record exactly where they hold every part of it. -/
theorem stored_sameFields : record.stored.SameFields record ↔
    (∀ d ∈ record.numbers, OnGrid 38 (-18) d.toRat) ∧ record.requestBody.length ≤ 2048 ∧
      record.placementCommandId ≠ some record.entryFill.entryCommandId := by
  rw [← stored_requestBody, ← stored_placementCommandId]
  simp only [numbers, List.forall_mem_cons, ← toRat_column_iff]
  constructor
  · intro h
    have hfill := h.entryFill
    simp only [EntryFill.same, Bool.and_eq_true, decide_eq_true_eq] at hfill
    obtain ⟨⟨⟨⟨⟨⟨⟨⟨-, hfirst⟩, hbefore⟩, hprice⟩, -⟩, htick⟩, -⟩, -⟩, -⟩ := hfill
    exact ⟨⟨hfirst, hbefore, hprice, htick, h.triggerPrice, List.forall_mem_nil _⟩, h.requestBody,
      h.placementCommandId⟩
  · rintro ⟨⟨hfirst, hbefore, hprice, htick, htrigger, -⟩, hbody, hplacement⟩
    have hfill : record.stored.entryFill.same record.entryFill := by
      show record.entryFill.columns.same record.entryFill
      simp [EntryFill.same, EntryFill.columns, hfirst, hbefore, hprice, htick]
    exact ⟨hfill, rfl, htrigger, hbody, rfl, rfl, rfl, rfl, hplacement⟩

/-- What the columns hold passes `validate` as the record did. -/
theorem stored_valid (h : record.Valid sha256) (hfits : record.FitsRow) : record.stored.Valid sha256 := by
  have hkept : ∀ d ∈ record.numbers, d.column.toRat = d.toRat := fun d hd => toRat_column_iff.mpr (hfits.numbers d hd)
  simp only [numbers, List.forall_mem_cons] at hkept
  obtain ⟨hfirst, hbefore, hprice, htick, htrigger, -⟩ := hkept
  have hbody := (stored_requestBody record).mpr hfits.requestBody
  have hplacement : record.stored.placementId = record.placementId := record.row_placementId
  exact {
    entryFill := ⟨h.entryFill.ids, hfirst.symm ▸ h.entryFill.firstFillQuantity,
      hbefore.symm ▸ h.entryFill.cumulativeQuantityBefore, hprice.symm ▸ h.entryFill.averageFillPrice,
      h.entryFill.symbol, htick.symm ▸ h.entryFill.tickSize, h.entryFill.window⟩
    placementId := hplacement ▸ h.placementId
    clientAlgoId := hplacement ▸ h.clientAlgoId
    triggerPrice := htrigger.symm ▸ h.triggerPrice
    requestBody := hbody ▸ h.requestBody
    requestDigest := hbody ▸ h.requestDigest
    preparedAt := h.preparedAt
    result := h.result }

theorem readsBack_iff (h : record.Constructed sha256) : record.ReadsBack sha256 ↔ record.FitsRow := by
  constructor
  · rintro ⟨read, hread, hsame⟩
    obtain ⟨hheld, -, rfl⟩ := (toRecord_toRow h).mp hread
    obtain ⟨hnumbers, hbody, hplacement⟩ := stored_sameFields.mp hsame
    exact ⟨hnumbers, hbody, hplacement, hheld⟩
  · intro hfits
    exact ⟨record.stored, (toRecord_toRow h).mpr ⟨hfits.result, stored_valid h.1 hfits, rfl⟩,
      stored_sameFields.mpr ⟨hfits.numbers, hfits.requestBody, hfits.placementCommandId⟩⟩

/-- A row that keeps the body and the result is read as the table reads it. -/
theorem toRecord_eq_recordOf (h : record.Constructed sha256) (hbody : record.requestBody.length ≤ 2048)
    (hheld : ∀ result ∈ record.result, result.Held Json.wordSized) :
    record.toRow.toRecord sha256 = .ok read ↔ AlgoTable.recordOf sha256 record.row = .ok read := by
  have hstored : record.stored = record.row :=
    congrArg (fun body => { record.row with requestBody := body }) ((stored_requestBody record).mpr hbody)
  rw [toRecord_toRow h, hstored]
  constructor
  · rintro ⟨-, hvalid, rfl⟩
    have hresult : record.row.result.forM ProtectionResult.validate = .ok () := by
      show record.result.forM ProtectionResult.validate = .ok ()
      cases hresult : record.result with
      | none => rfl
      | some result => exact (h.2 result hresult).1
    have hfill : record.row.entryFill.validate = .ok () := EntryFill.validate_ok.mpr hvalid.entryFill
    simp only [AlgoTable.recordOf, hfill, hresult, validate_ok.mpr hvalid]
    rfl
  · intro hread
    exact ⟨hheld, AlgoTable.recordOf_valid hread, AlgoTable.recordOf_ok hread⟩

end AlgoOrderRecord

/-- Every order result and every protection result is decoded as it was encoded, and a row gives back an equal record
exactly where its columns hold the record. -/
theorem durable_round_trip_iff (sha256 : String → Digest) :
    (∀ result : BrokerWriteResult, result.Constructed → decodeWriteResult (encodeWriteResult result) = .ok result) ∧
      (∀ result : ProtectionResult, result.Constructed →
        decodeProtectionResult (encodeProtectionResult result) = .ok result) ∧
      ∀ record : AlgoOrderRecord, record.Constructed sha256 → (record.ReadsBack sha256 ↔ record.FitsRow) :=
  ⟨fun _ h => decodeWriteResult_encode h, fun _ h => decodeProtectionResult_encode h,
    fun _ h => AlgoOrderRecord.readsBack_iff h⟩

/-! ### An average of three fills -/

/-- An emergency close in one fill. -/
def closedResult : BrokerWriteResult where
  brokerOrderId := "BINANCE-USDM:7"
  clientOrderId := "v6-close"
  providerState := "FILLED"
  cumulativeFilledQuantity := .ofNat 2
  cumulativeQuoteQuantity := .ofNat 180
  averageFillPrice := .ofNat 90
  commissions := [("USDT", ⟨false, 72, -3⟩)]
  fills := [⟨4321, 7, .sell, .ofNat 2, .ofNat 90, ⟨false, 72, -3⟩, "USDT", ⟨true, 20, 0⟩, 60000000⟩]
  recovered := false

theorem closedResult_constructed : closedResult.Constructed := by
  refine ⟨by decide +kernel, List.forall_mem_singleton.mpr ⟨?_, ?_⟩⟩
  · decide +kernel
  · decide

def averagedFill (averageFillPrice : Decimal) : EntryFill where
  entryCommandId := sampleUuid 1
  accountId := sampleUuid 2
  instrumentId := sampleUuid 3
  bindingId := sampleUuid 4
  side := .buy
  firstFillQuantity := ⟨false, 3, -3⟩
  cumulativeQuantityBefore := .ofNat 0
  averageFillPrice := averageFillPrice
  symbol := "BTCUSDT"
  tickSize := ⟨false, 1, -1⟩
  filledAt := 0
  protectionDeadline := 30000000
  emergencyCloseCommandId := sampleUuid 5

/-- The first stop of the entry. -/
def averagedStop (averageFillPrice : Decimal) : AlgoOrderRecord where
  entryFill := averagedFill averageFillPrice
  clientAlgoId := clientAlgoIdText (sampleUuid 1)
  triggerPrice := .ofNat 32000
  requestBody := "type=STOP_MARKET"
  requestDigest := 0
  preparedAt := 0
  state := .prepared
  result := none
  placementCommandId := none

theorem sampleUuid_isVersion7 (n : Fin 256) : (sampleUuid n).isVersion7 := by
  have hn := n.isLt
  simp only [UUID.isVersion7, sampleUuid, Bool.and_eq_true]
  constructor <;> norm_num <;> omega

theorem averagedStop_constructed {averageFillPrice : Decimal} (h : 0 < averageFillPrice.toRat) :
    (averagedStop averageFillPrice).Constructed (fun _ => 0) := by
  have hwindow : wholeSecond 0 ∧ wholeSecond 30000000 ∧ (0 : Instant) < 30000000 := by decide
  have hprepared : wholeSecond 0 ∧ (0 : Instant) ≤ 0 := by decide
  refine ⟨?_, fun _ hnone => (nomatch hnone)⟩
  exact {
    entryFill := ⟨⟨sampleUuid_isVersion7 1, sampleUuid_isVersion7 2, sampleUuid_isVersion7 3, sampleUuid_isVersion7 4,
      sampleUuid_isVersion7 5⟩, by norm_num [averagedStop, averagedFill, Decimal.toRat],
      by norm_num [averagedStop, averagedFill, Decimal.ofNat, Decimal.toRat], h, rfl,
      by norm_num [averagedStop, averagedFill, Decimal.toRat], hwindow⟩
    placementId := sampleUuid_isVersion7 1
    clientAlgoId := rfl
    triggerPrice := by norm_num [averagedStop, Decimal.ofNat, Decimal.toRat]
    requestBody := rfl
    requestDigest := rfl
    preparedAt := hprepared
    result := rfl }

theorem durable_round_trip_closed :
    decodeWriteResult (encodeWriteResult closedResult) = .ok closedResult ∧
      (averagedStop (.ofNat 33333)).ReadsBack (fun _ => 0) := by
  have hprice : 0 < (Decimal.ofNat 33333).toRat := by norm_num [Decimal.ofNat, Decimal.toRat]
  refine ⟨(durable_round_trip_iff fun _ => 0).1 _ closedResult_constructed,
    ((durable_round_trip_iff fun _ => 0).2.2 _ (averagedStop_constructed hprice)).mpr ⟨?_, ?_, ?_, ?_⟩⟩
  · intro d hd
    simp only [AlgoOrderRecord.numbers, averagedStop, averagedFill, List.mem_cons, List.not_mem_nil, or_false] at hd
    rcases hd with rfl | rfl | rfl | rfl | rfl
    · exact ⟨3 * 10 ^ 15, by norm_num [Decimal.toRat], by norm_num⟩
    · exact ⟨0, by norm_num [Decimal.ofNat, Decimal.toRat], by norm_num⟩
    · exact ⟨33333 * 10 ^ 18, by norm_num [Decimal.ofNat, Decimal.toRat], by norm_num⟩
    · exact ⟨10 ^ 17, by norm_num [Decimal.toRat], by norm_num⟩
    · exact ⟨32000 * 10 ^ 18, by norm_num [Decimal.ofNat, Decimal.toRat], by norm_num⟩
  · decide
  · intro hnone
    cases hnone
  · intro _ hnone
    cases hnone

/-- 0.003 contracts for 100.0001: the average of 28 digits loses its last five in the column. -/
theorem averaged_price_cut :
    ¬∀ (sha256 : String → Digest) (record : AlgoOrderRecord), record.Constructed sha256 → record.ReadsBack sha256 := by
  intro h
  have hprice : 0 < Decimal.toRat ⟨false, 3333336666666666666666666667, -23⟩ := by norm_num [Decimal.toRat]
  have hconstructed := averagedStop_constructed hprice
  have hfits := (AlgoOrderRecord.readsBack_iff hconstructed).mp (h _ _ hconstructed)
  obtain ⟨n, hvalue, -⟩ := hfits.numbers ⟨false, 3333336666666666666666666667, -23⟩
    (List.mem_cons_of_mem _ (List.mem_cons_of_mem _ List.mem_cons_self))
  have hscaled : (3333336666666666666666666667 : ℚ) = n * 10 ^ 5 := by
    have hunit : (10 : ℚ) ^ (-18 : ℤ) = 10 ^ 5 * 10 ^ (-23 : ℤ) := by norm_num
    rw [hunit, ← mul_assoc] at hvalue
    have hpositive : (10 : ℚ) ^ (-23 : ℤ) ≠ 0 := by norm_num
    refine mul_right_cancel₀ hpositive (Eq.trans ?_ hvalue)
    norm_num [Decimal.toRat]
  have hwhole : (3333336666666666666666666667 : ℤ) = n * 10 ^ 5 := by exact_mod_cast hscaled
  omega

end AutoTrader.Binance
