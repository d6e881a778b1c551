import AutoTrader.Domain.DecimalRounding
import AutoTrader.Domain.PyRender
import AutoTrader.Domain.Timestamps
import AutoTrader.Strategy.Decision

/-! The hash of a decision. Every field is folded into one document, a decimal as the text of its number in the digits
of the context; a text that has no UTF-8 form keeps the hash from being taken. -/

namespace AutoTrader.Strategy

open AutoTrader.Domain AutoTrader.Execution AutoTrader.Numeric AutoTrader.Trader

open PyText (points)

open PyJson (Plain Renders Scalar)

/-! ### Decisions -/

/-- A `datetime` in UTC. -/
@[ext] structure UtcDatetime where
  instant : Instant
  valid : IsDatetime instant
  deriving DecidableEq

/-- A text that is not empty and has no space around it. -/
def TrimmedText (value : PyText) : Prop := value ≠ [] ∧ value.strip = value

instance (value : PyText) : Decidable (TrimmedText value) := inferInstanceAs (Decidable (_ ∧ _))

/-- A `MatchedIndicator` with the text of its key. -/
@[ext] structure IndicatorRecord where
  key : PyText
  mandatory : Bool
  evidenceState : EvidenceState
  evidenceHash : Digest
  trimmed : TrimmedText key
  available : evidenceState = .available

instance : DecidableEq IndicatorRecord := fun _ _ => decidable_of_iff _ IndicatorRecord.ext_iff.symm

/-- The fields of a `V6Decision`, with its decimals and texts as they are written. -/
structure V6DecisionRecord where
  id : UUID
  strategyVersionId : UUID
  setupId : UUID
  featureSnapshotId : UUID
  instrumentId : UUID
  market : V6Market
  family : StrategyFamily
  grade : SetupGrade
  side : Side
  orderStyle : OrderStyle
  matchedIndicators : List IndicatorRecord
  blockers : List PyText
  plannedEntry : Option Decimal
  structuralStop : Option Decimal
  targetPrice : Option Decimal
  riskFraction : Decimal
  calculatedQuantity : Decimal
  expectedCost : Option Decimal
  sourceEvidenceHashes : List Digest
  exhaustionTimeframe : Option PyText
  completedEvidenceAt : UtcDatetime
  generatedAt : UtcDatetime
  validUntil : UtcDatetime

namespace V6DecisionRecord

/-- The terms by their numbers. -/
def terms (d : V6DecisionRecord) : V6DecisionTerms where
  id := d.id
  market := d.market
  family := d.family
  grade := d.grade
  side := d.side
  orderStyle := d.orderStyle
  blockers := d.blockers.map fun code => String.ofList (code.map CodePoint.char)
  plannedEntry := d.plannedEntry.map Decimal.toRat
  structuralStop := d.structuralStop.map Decimal.toRat
  targetPrice := d.targetPrice.map Decimal.toRat
  riskFraction := d.riskFraction.toRat
  calculatedQuantity := d.calculatedQuantity.toRat
  expectedCost := d.expectedCost.map Decimal.toRat
  completedEvidenceAt := d.completedEvidenceAt.instant
  generatedAt := d.generatedAt.instant
  validUntil := d.validUntil.instant

/-- `_require_canonical_indicators`. -/
def requireIndicators (d : V6DecisionRecord) : Except PyError Unit :=
  let keys := d.matchedIndicators.map (·.key)
  if ¬keys.Pairwise (· ≤ ·) then .error ⟨.valueError, "matched indicator keys must be sorted"⟩
  else if ¬keys.Nodup then .error ⟨.valueError, "matched indicator keys must be unique"⟩
  else .ok ()

/-- `_require_sorted_unique_text` of the blockers. -/
def requireBlockers (d : V6DecisionRecord) : Except PyError Unit :=
  if d.blockers.any fun code => decide (¬TrimmedText code) then
    .error ⟨.typeError, "blockers must contain non-empty strings"⟩
  else if ¬d.blockers.Pairwise (· ≤ ·) then .error ⟨.valueError, "blockers must be sorted"⟩
  else if ¬d.blockers.Nodup then .error ⟨.valueError, "blockers must be unique"⟩
  else .ok ()

/-- `V6Decision.__post_init__`. Of the blockers the terms only ask whether there are any. -/
def postInit (d : V6DecisionRecord) : Except PyError Unit := do
  requireUuid7 d.id "id"
  requireUuid7 d.strategyVersionId "strategy_version_id"
  requireUuid7 d.setupId "setup_id"
  requireUuid7 d.featureSnapshotId "feature_snapshot_id"
  requireUuid7 d.instrumentId "instrument_id"
  if d.family = .metodo ∧ d.market = .binanceUsdm then
    .error ⟨.valueError, "METODO is available only for cash markets"⟩
  else do
    d.requireIndicators
    d.requireBlockers
    requireCanonicalHashes d.sourceEvidenceHashes
    d.terms.validateTerms

end V6DecisionRecord

/-- A decision the constructor accepted. -/
structure ValidDecision extends V6DecisionRecord where
  valid : toV6DecisionRecord.postInit = .ok ()

/-! ### The canonical document -/

/-- `_canonical_decimal`. -/
def canonicalDecimal (value : Decimal) : PyJson := .str (points (String.ofList value.plainText))

/-- `value.isoformat()`. -/
def canonicalDatetime (value : UtcDatetime) : PyJson := .str (points (isoformat value.instant))

/-- `str(value)`. -/
def canonicalUuid (value : UUID) : PyJson := .str (points (String.ofList value.str))

/-- `value.hex()`. -/
def canonicalBytes (value : Digest) : PyJson := .str (points (String.ofList (hexDigits 64 value.toNat)))

/-- `value.value` of an enumeration. -/
def canonicalEnum (value : String) : PyJson := .str (points value)

def indicatorFields (i : IndicatorRecord) : List (PyText × PyJson) :=
  [(points "key", .str i.key), (points "mandatory", .bool i.mandatory),
    (points "evidence_state", canonicalEnum i.evidenceState.value),
    (points "evidence_hash", canonicalBytes i.evidenceHash)]

def canonicalIndicator (i : IndicatorRecord) : PyJson := .obj (indicatorFields i)

namespace V6DecisionRecord

def canonicalFields (d : V6DecisionRecord) : List (PyText × PyJson) :=
  [(points "id", canonicalUuid d.id),
    (points "strategy_version_id", canonicalUuid d.strategyVersionId),
    (points "setup_id", canonicalUuid d.setupId),
    (points "feature_snapshot_id", canonicalUuid d.featureSnapshotId),
    (points "instrument_id", canonicalUuid d.instrumentId),
    (points "market", canonicalEnum d.market.value),
    (points "family", canonicalEnum d.family.value),
    (points "grade", canonicalEnum d.grade.value),
    (points "side", canonicalEnum d.side.value),
    (points "order_style", canonicalEnum d.orderStyle.value),
    (points "matched_indicators", PyJson.tuple canonicalIndicator d.matchedIndicators),
    (points "blockers", PyJson.tuple PyJson.str d.blockers),
    (points "planned_entry", PyJson.optional canonicalDecimal d.plannedEntry),
    (points "structural_stop", PyJson.optional canonicalDecimal d.structuralStop),
    (points "target_price", PyJson.optional canonicalDecimal d.targetPrice),
    (points "risk_fraction", canonicalDecimal d.riskFraction),
    (points "calculated_quantity", canonicalDecimal d.calculatedQuantity),
    (points "expected_cost", PyJson.optional canonicalDecimal d.expectedCost),
    (points "source_evidence_hashes", PyJson.tuple canonicalBytes d.sourceEvidenceHashes),
    (points "exhaustion_timeframe", PyJson.optional PyJson.str d.exhaustionTimeframe),
    (points "completed_evidence_at", canonicalDatetime d.completedEvidenceAt),
    (points "generated_at", canonicalDatetime d.generatedAt),
    (points "valid_until", canonicalDatetime d.validUntil)]

/-- `_canonical_value` of a decision. -/
def canonicalValue (d : V6DecisionRecord) : PyJson := .obj d.canonicalFields

/-- The bytes that are hashed, told by the string they spell. -/
def canonicalText (d : V6DecisionRecord) : Except PyError String := d.canonicalValue.dumps.encode

def decisionHash (sha256 : String → Digest) (d : V6DecisionRecord) : Except PyError Digest := do
  let text ← d.canonicalText
  pure (sha256 text)

end V6DecisionRecord

/-! ### What the documents of the fields tell -/

/-- The number of a decimal in the digits of the context. -/
def number (d : Decimal) : ℚ := roundSig 28 d.toRat

theorem number_exact {d : Decimal} (h : d.coefficient < 10 ^ 28) : number d = d.toRat := by
  rw [number, ← Decimal.toRat_fix, Decimal.fix_eq h]

theorem renders_decimal : Renders canonicalDecimal number fun _ => True :=
  .written fun x y => by rw [String.ofList_inj, Decimal.plainText_eq_iff]; rfl

theorem renders_datetime : Renders canonicalDatetime id fun _ => True :=
  .injective fun x y h => UtcDatetime.ext (isoformat_injective x.valid y.valid h)

theorem renders_uuid : Renders canonicalUuid id fun _ => True :=
  .injective fun _ _ h => UUID.str_injective (String.ofList_inj.mp h)

theorem renders_bytes : Renders canonicalBytes id fun _ => True :=
  .injective fun x y h => BitVec.eq_of_toNat_eq (hexDigits_injective x.isLt y.isLt (String.ofList_inj.mp h))

theorem renders_market : Renders (fun x : V6Market => canonicalEnum x.value) id fun _ => True :=
  .injective fun x y => by cases x <;> cases y <;> decide

theorem renders_family : Renders (fun x : StrategyFamily => canonicalEnum x.value) id fun _ => True :=
  .injective fun x y => by cases x <;> cases y <;> decide

theorem renders_grade : Renders (fun x : SetupGrade => canonicalEnum x.value) id fun _ => True :=
  .injective fun x y => by cases x <;> cases y <;> decide

theorem renders_side : Renders (fun x : Side => canonicalEnum x.value) id fun _ => True :=
  .injective fun x y => by cases x <;> cases y <;> decide

theorem renders_orderStyle : Renders (fun x : OrderStyle => canonicalEnum x.value) id fun _ => True :=
  .injective fun x y => by cases x <;> cases y <;> decide

theorem renders_evidenceState : Renders (fun x : EvidenceState => canonicalEnum x.value) id fun _ => True :=
  .injective fun x y => by cases x <;> cases y <;> decide

theorem indicatorFields_keys (i i' : IndicatorRecord) :
    (indicatorFields i).map Prod.fst = (indicatorFields i').map Prod.fst := by
  simp only [indicatorFields, List.map_cons, List.map_nil]

theorem indicatorKeys_nodup (i : IndicatorRecord) : ((indicatorFields i).map Prod.fst).Nodup := by
  show [points "key", points "mandatory", points "evidence_state", points "evidence_hash"].Nodup
  decide +kernel

theorem renders_indicator : Renders canonicalIndicator id fun i => Scalar i.key where
  plain i := by
    refine .obj ?_
    simp only [indicatorFields, List.forall_mem_cons, List.not_mem_nil, false_implies, implies_true, and_true]
    exact ⟨.str _, .bool _, .str _, .str _⟩
  eq_iff i i' := by
    rw [canonicalIndicator, canonicalIndicator,
      PyJson.sortKeys_obj_eq_iff (indicatorFields_keys i i') (indicatorKeys_nodup i)]
    simp only [indicatorFields, List.map_cons, List.map_nil, List.cons.injEq, and_true, Renders.text.eq_iff,
      Renders.bool.eq_iff, renders_evidenceState.eq_iff, renders_bytes.eq_iff, id]
    exact (IndicatorRecord.ext_iff).symm
  encodable_iff i := by
    rw [canonicalIndicator, PyJson.encodable_obj]
    simp only [indicatorFields, List.forall_mem_cons, List.not_mem_nil, false_implies, implies_true, and_true,
      PyJson.scalar_points, true_and, Renders.text.encodable_iff, Renders.bool.encodable_iff,
      renders_evidenceState.encodable_iff, renders_bytes.encodable_iff]

theorem renders_prices : Renders (PyJson.optional canonicalDecimal) (Option.map number) fun _ => True := by
  have h := renders_decimal.optional fun d => by rw [canonicalDecimal, PyJson.sortKeys_str]; exact fun h => nomatch h
  exact ⟨h.plain, h.eq_iff, fun x => (h.encodable_iff x).trans (iff_true_intro fun _ _ => trivial)⟩

theorem renders_timeframe :
    Renders (PyJson.optional PyJson.str) (Option.map id) fun x => ∀ y ∈ x, Scalar y :=
  Renders.text.optional fun s => by rw [PyJson.sortKeys_str]; exact fun h => nomatch h

namespace V6DecisionRecord

theorem canonicalFields_keys (d d' : V6DecisionRecord) :
    d.canonicalFields.map Prod.fst = d'.canonicalFields.map Prod.fst := by
  simp only [canonicalFields, List.map_cons, List.map_nil]

/-- The names of the fields. -/
def fieldNames : List String :=
  ["id", "strategy_version_id", "setup_id", "feature_snapshot_id", "instrument_id", "market", "family", "grade", "side",
    "order_style", "matched_indicators", "blockers", "planned_entry", "structural_stop", "target_price",
    "risk_fraction", "calculated_quantity", "expected_cost", "source_evidence_hashes", "exhaustion_timeframe",
    "completed_evidence_at", "generated_at", "valid_until"]

theorem canonicalFields_names (d : V6DecisionRecord) : d.canonicalFields.map Prod.fst = fieldNames.map points := by
  simp only [canonicalFields, fieldNames, List.map_cons, List.map_nil]

theorem canonicalKeys_nodup (d : V6DecisionRecord) : (d.canonicalFields.map Prod.fst).Nodup := by
  rw [canonicalFields_names]
  exact List.Nodup.map PyText.points_injective (by decide)

/-- Equal field by field, decimals by their numbers in the digits of the context. -/
@[mk_iff] structure SameFields (a b : V6DecisionRecord) : Prop where
  id : a.id = b.id
  strategyVersionId : a.strategyVersionId = b.strategyVersionId
  setupId : a.setupId = b.setupId
  featureSnapshotId : a.featureSnapshotId = b.featureSnapshotId
  instrumentId : a.instrumentId = b.instrumentId
  market : a.market = b.market
  family : a.family = b.family
  grade : a.grade = b.grade
  side : a.side = b.side
  orderStyle : a.orderStyle = b.orderStyle
  matchedIndicators : a.matchedIndicators = b.matchedIndicators
  blockers : a.blockers = b.blockers
  plannedEntry : a.plannedEntry.map number = b.plannedEntry.map number
  structuralStop : a.structuralStop.map number = b.structuralStop.map number
  targetPrice : a.targetPrice.map number = b.targetPrice.map number
  riskFraction : number a.riskFraction = number b.riskFraction
  calculatedQuantity : number a.calculatedQuantity = number b.calculatedQuantity
  expectedCost : a.expectedCost.map number = b.expectedCost.map number
  sourceEvidenceHashes : a.sourceEvidenceHashes = b.sourceEvidenceHashes
  exhaustionTimeframe : a.exhaustionTimeframe = b.exhaustionTimeframe
  completedEvidenceAt : a.completedEvidenceAt = b.completedEvidenceAt
  generatedAt : a.generatedAt = b.generatedAt
  validUntil : a.validUntil = b.validUntil

/-- No text of the decision holds a lone surrogate. -/
@[mk_iff] structure Encodable (d : V6DecisionRecord) : Prop where
  matchedIndicators : ∀ i ∈ d.matchedIndicators, Scalar i.key
  blockers : ∀ code ∈ d.blockers, Scalar code
  exhaustionTimeframe : ∀ timeframe ∈ d.exhaustionTimeframe, Scalar timeframe

theorem plain_canonicalValue (d : V6DecisionRecord) : d.canonicalValue.Plain := by
  refine .obj ?_
  simp only [canonicalFields, List.forall_mem_cons, List.not_mem_nil, false_implies, implies_true, and_true,
    renders_uuid.plain, renders_market.plain, renders_family.plain, renders_grade.plain, renders_side.plain,
    renders_orderStyle.plain, renders_indicator.tuple.plain, Renders.text.tuple.plain, renders_prices.plain,
    renders_decimal.plain, renders_bytes.tuple.plain, renders_timeframe.plain, renders_datetime.plain]

theorem canonicalValue_eq_iff {a b : V6DecisionRecord} :
    a.canonicalValue.sortKeys = b.canonicalValue.sortKeys ↔ a.SameFields b := by
  rw [canonicalValue, canonicalValue, PyJson.sortKeys_obj_eq_iff (canonicalFields_keys a b) a.canonicalKeys_nodup,
    sameFields_iff]
  simp only [canonicalFields, List.map_cons, List.map_nil, List.cons.injEq, and_true, renders_uuid.eq_iff,
    renders_market.eq_iff, renders_family.eq_iff, renders_grade.eq_iff, renders_side.eq_iff,
    renders_orderStyle.eq_iff, renders_indicator.tuple.eq_iff, Renders.text.tuple.eq_iff, renders_prices.eq_iff,
    renders_decimal.eq_iff, renders_bytes.tuple.eq_iff, renders_timeframe.eq_iff, renders_datetime.eq_iff, List.map_id,
    Option.map_id, id_eq]

theorem encodable_canonicalValue {d : V6DecisionRecord} : d.canonicalValue.Encodable ↔ d.Encodable := by
  rw [canonicalValue, PyJson.encodable_obj, encodable_iff]
  simp only [canonicalFields, List.forall_mem_cons, List.not_mem_nil, false_implies, implies_true, and_true, true_and,
    PyJson.scalar_points, renders_uuid.encodable_iff, renders_market.encodable_iff, renders_family.encodable_iff,
    renders_grade.encodable_iff, renders_side.encodable_iff, renders_orderStyle.encodable_iff,
    renders_indicator.tuple.encodable_iff, Renders.text.tuple.encodable_iff, renders_prices.encodable_iff,
    renders_decimal.encodable_iff, renders_bytes.tuple.encodable_iff, renders_timeframe.encodable_iff,
    renders_datetime.encodable_iff]

theorem decisionHash_ok {sha256 : String → Digest} {d : V6DecisionRecord} {digest : Digest} :
    d.decisionHash sha256 = .ok digest ↔ ∃ text, d.canonicalText = .ok text ∧ sha256 text = digest := by
  unfold decisionHash
  rw [bind_ok]
  exact exists_congr fun text => and_congr_right fun _ => ⟨Except.ok.inj, congrArg Except.ok⟩

/-- Decisions with the same fields have the same bytes. -/
theorem canonicalText_congr {a b : V6DecisionRecord} (h : a.SameFields b) : a.canonicalText = b.canonicalText := by
  rw [canonicalText, canonicalText, PyJson.dumps, PyJson.dumps, canonicalValue_eq_iff.mpr h]

/-- The bytes of a decision are there exactly where its texts can be encoded. -/
theorem canonicalText_returns {d : V6DecisionRecord} : (∃ text, d.canonicalText = .ok text) ↔ d.Encodable := by
  rw [canonicalText, PyJson.encode_dumps_returns d.plain_canonicalValue, encodable_canonicalValue]

end V6DecisionRecord

/-- Decisions whose texts can be encoded have a hash, and two hashes are equal exactly when the decisions are, field by
field. -/
theorem decision_hash_identity {sha256 : String → Digest} {a b : ValidDecision} (ha : a.Encodable) (hb : b.Encodable)
    (hcollision : ∀ x y, a.canonicalText = .ok x → b.canonicalText = .ok y → sha256 x = sha256 y → x = y) :
    ∃ digest digest', a.decisionHash sha256 = .ok digest ∧ b.decisionHash sha256 = .ok digest' ∧
      (digest = digest' ↔ a.SameFields b.toV6DecisionRecord) := by
  obtain ⟨x, hx⟩ := V6DecisionRecord.canonicalText_returns.mpr ha
  obtain ⟨y, hy⟩ := V6DecisionRecord.canonicalText_returns.mpr hb
  refine ⟨sha256 x, sha256 y, V6DecisionRecord.decisionHash_ok.mpr ⟨x, hx, rfl⟩,
    V6DecisionRecord.decisionHash_ok.mpr ⟨y, hy, rfl⟩, ?_⟩
  rw [← V6DecisionRecord.canonicalValue_eq_iff,
    ← PyJson.encode_dumps_eq_iff a.plain_canonicalValue b.plain_canonicalValue hx hy]
  exact ⟨hcollision x y hx hy, congrArg sha256⟩

/-! A purchase of a cash share, of this quantity and on this timeframe. -/

def purchaseId (n : Fin 256) : UUID := ⟨7 * 2 ^ 76 + 2 * 2 ^ 62 + n, sampleInt_lt n⟩

theorem purchase_datetime (n : Fin 256) : IsDatetime (n : ℤ) := by
  have hlt := n.isLt
  exact ⟨by omega, by omega⟩

theorem purchased_datetime : IsDatetime ((0 : Fin 256) : ℤ) := purchase_datetime 0

def purchase (quantity : Decimal) (timeframe : Option PyText) : V6DecisionRecord where
  id := purchaseId 0
  strategyVersionId := purchaseId 1
  setupId := purchaseId 2
  featureSnapshotId := purchaseId 3
  instrumentId := purchaseId 4
  market := .krxCash
  family := .hlit
  grade := .normal
  side := .buy
  orderStyle := .limit
  matchedIndicators := []
  blockers := []
  plannedEntry := some ⟨false, 100, 0⟩
  structuralStop := some ⟨false, 95, 0⟩
  targetPrice := some ⟨false, 110, 0⟩
  riskFraction := ⟨false, 5, -3⟩
  calculatedQuantity := quantity
  expectedCost := some ⟨false, 0, 0⟩
  sourceEvidenceHashes := [1]
  exhaustionTimeframe := timeframe
  completedEvidenceAt := ⟨_, purchase_datetime 0⟩
  generatedAt := ⟨_, purchase_datetime 0⟩
  validUntil := ⟨_, purchase_datetime 1⟩

theorem purchase_same {quantity quantity' : Decimal} (h : number quantity = number quantity')
    (timeframe : Option PyText) : (purchase quantity timeframe).SameFields (purchase quantity' timeframe) :=
  ⟨rfl, rfl, rfl, rfl, rfl, rfl, rfl, rfl, rfl, rfl, rfl, rfl, rfl, rfl, rfl, rfl, h, rfl, rfl, rfl, rfl, rfl, rfl⟩

theorem purchase_encodable (quantity : Decimal) : (purchase quantity none).Encodable :=
  ⟨List.forall_mem_nil _, List.forall_mem_nil _, fun _ hnone => (nomatch hnone)⟩

/-- A quantity of twenty-nine digits, and the one of its first twenty-eight. -/
def longQuantity : Decimal := ⟨false, 10 ^ 28 + 1, -20⟩

def shortQuantity : Decimal := ⟨false, 10 ^ 27, -19⟩

theorem purchases_valid : (purchase longQuantity none).postInit = .ok () ∧
    (purchase shortQuantity none).postInit = .ok () ∧ (purchase (.ofNat 100000000) none).postInit = .ok () ∧
    (purchase shortQuantity (some [55296])).postInit = .ok () := by
  decide +kernel

theorem longPurchase_valid : (purchase longQuantity none).postInit = .ok () := purchases_valid.1

theorem shortPurchase_valid : (purchase shortQuantity none).postInit = .ok () := purchases_valid.2.1

theorem wholePurchase_valid : (purchase (.ofNat 100000000) none).postInit = .ok () := purchases_valid.2.2.1

theorem brokenPurchase_valid : (purchase shortQuantity (some [55296])).postInit = .ok () := purchases_valid.2.2.2

theorem quantities_plain : shortQuantity.plainText = (Decimal.ofNat 100000000).plainText ∧
    longQuantity.plainText = shortQuantity.plainText := by
  decide +kernel

def longPurchase : ValidDecision := ⟨purchase longQuantity none, longPurchase_valid⟩

def shortPurchase : ValidDecision := ⟨purchase shortQuantity none, shortPurchase_valid⟩

/-- The short quantity in another notation. -/
def wholePurchase : ValidDecision := ⟨purchase (.ofNat 100000000) none, wholePurchase_valid⟩

/-- A timeframe that is half a surrogate pair. -/
def brokenPurchase : ValidDecision := ⟨purchase shortQuantity (some [55296]), brokenPurchase_valid⟩

theorem decision_hash_identity_notations :
    ∃ digest digest', shortPurchase.decisionHash (fun text => BitVec.ofNat 256 text.length) = .ok digest ∧
      wholePurchase.decisionHash (fun text => BitVec.ofNat 256 text.length) = .ok digest' ∧
      (digest = digest' ↔ shortPurchase.SameFields wholePurchase.toV6DecisionRecord) := by
  have hnumber : number shortQuantity = number (.ofNat 100000000) := Decimal.plainText_eq_iff.mp quantities_plain.1
  refine decision_hash_identity (purchase_encodable _) (purchase_encodable _) fun x y hx hy _ => ?_
  have hsame := V6DecisionRecord.canonicalText_congr (purchase_same hnumber none)
  exact Except.ok.inj (hx.symm.trans (hsame.trans hy))

/-- A text with half a pair keeps the hash from being taken, and a digit past the twenty-eighth does not change it. -/
theorem decision_hash_fails :
    (∀ sha256 : String → Digest, ¬ ∃ digest, brokenPurchase.decisionHash sha256 = .ok digest) ∧
      (∀ sha256 : String → Digest, ∃ digest, longPurchase.decisionHash sha256 = .ok digest ∧
        shortPurchase.decisionHash sha256 = .ok digest) ∧
      longPurchase.calculatedQuantity.toRat ≠ shortPurchase.calculatedQuantity.toRat := by
  refine ⟨fun sha256 ⟨digest, hdigest⟩ => ?_, fun sha256 => ?_, ?_⟩
  · obtain ⟨text, hread, -⟩ := V6DecisionRecord.decisionHash_ok.mp hdigest
    have hclean := V6DecisionRecord.canonicalText_returns.mp ⟨text, hread⟩
    have hsurrogate := hclean.exhaustionTimeframe [55296] rfl 55296 List.mem_cons_self
    revert hsurrogate
    decide
  · have hnumber : number longQuantity = number shortQuantity := Decimal.plainText_eq_iff.mp quantities_plain.2
    obtain ⟨text, hread⟩ := V6DecisionRecord.canonicalText_returns.mpr (purchase_encodable shortQuantity)
    have hsame := V6DecisionRecord.canonicalText_congr (purchase_same hnumber none)
    exact ⟨sha256 text, V6DecisionRecord.decisionHash_ok.mpr ⟨text, hsame.trans hread, rfl⟩,
      V6DecisionRecord.decisionHash_ok.mpr ⟨text, hread, rfl⟩⟩
  · show longQuantity.toRat ≠ shortQuantity.toRat
    norm_num [longQuantity, shortQuantity, Decimal.toRat]

end AutoTrader.Strategy
