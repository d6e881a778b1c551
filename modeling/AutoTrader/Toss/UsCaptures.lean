import AutoTrader.Domain.JsonText
import AutoTrader.Execution.Commands

/-! Captures of a Toss US account, and the digest they are compared by. The digest is taken of a projection of the facts:
two captures with one projection have the same cash, commission rate and positions, and of their orders the same
identities, quantities, states and costs. -/

namespace AutoTrader.Toss

open AutoTrader.Domain AutoTrader.Execution

/-! ### Facts -/

/-- `_ORDER_STATES`. -/
inductive TossUsOrderState
  | pending
  | pendingCancel
  | pendingReplace
  | partialFilled
  | filled
  | canceled
  | rejected
  | cancelRejected
  | replaceRejected
  | replaced
  deriving DecidableEq

def TossUsOrderState.value : TossUsOrderState → String
  | .pending => "PENDING"
  | .pendingCancel => "PENDING_CANCEL"
  | .pendingReplace => "PENDING_REPLACE"
  | .partialFilled => "PARTIAL_FILLED"
  | .filled => "FILLED"
  | .canceled => "CANCELED"
  | .rejected => "REJECTED"
  | .cancelRejected => "CANCEL_REJECTED"
  | .replaceRejected => "REPLACE_REJECTED"
  | .replaced => "REPLACED"

structure TossUsOrderFact where
  providerOrderId : String
  symbol : String
  side : Side
  quantity : Decimal
  cumulativeFillQuantity : Decimal
  state : TossUsOrderState
  limitPrice : Option Decimal
  commission : Option Decimal
  tax : Option Decimal
  orderedAt : Instant
  filledAt : Option Instant
  canceledAt : Option Instant
  providerAsOf : Instant
  capturedAt : Instant
  sourceDigest : Digest

structure TossUsCashFact where
  state : String
  availableCash : Decimal
  settledCash : Option Decimal
  sourceField : String
  providerAsOf : Instant
  capturedAt : Instant
  sourceDigest : Digest

structure TossUsPositionFact where
  symbol : String
  totalQuantity : Decimal
  sellableQuantity : Decimal
  averagePrice : Decimal
  marketValue : Decimal
  providerAsOf : Instant
  capturedAt : Instant
  sourceDigest : Digest

structure TossUsAccountSnapshot where
  accountScopeDigest : Digest
  cashFact : TossUsCashFact
  positions : List TossUsPositionFact
  holdingsPageCount : ℕ
  sellablePageCount : ℕ
  sourceDigest : Digest

/-- What `_capture_once` decoded from the provider's answers, of which there is at least one for every kind of page. -/
structure TossUsReading where
  snapshot : TossUsAccountSnapshot
  orders : List TossUsOrderFact
  commissionRate : Decimal
  commissionDigest : Digest
  openOrderPageCount : ℕ
  closedOrderPageCount : ℕ
  holdingsPage : 1 ≤ snapshot.holdingsPageCount
  openOrderPage : 1 ≤ openOrderPageCount
  closedOrderPage : 1 ≤ closedOrderPageCount

/-! ### The projection -/

/-- `decimal_to_string`. -/
def decimalToString (value : Decimal) : JsonTree := .str (String.ofList value.formatF)

/-- `_decimal_text`. -/
def decimalText : Option Decimal → JsonTree
  | none => .null
  | some value => decimalToString value

def projectedOrder (order : TossUsOrderFact) : JsonTree :=
  .obj
    [("commission", decimalText order.commission),
      ("filled", decimalToString order.cumulativeFillQuantity),
      ("id", .str order.providerOrderId),
      ("quantity", decimalToString order.quantity),
      ("state", .str order.state.value),
      ("tax", decimalText order.tax)]

def projectedPosition (position : TossUsPositionFact) : JsonTree :=
  .obj
    [("averagePrice", decimalToString position.averagePrice),
      ("marketValue", decimalToString position.marketValue),
      ("sellable", decimalToString position.sellableQuantity),
      ("symbol", .str position.symbol),
      ("total", decimalToString position.totalQuantity)]

/-- The payload of `_projection_digest`. -/
def projection (reading : TossUsReading) : JsonTree :=
  .obj
    [("cash", decimalToString reading.snapshot.cashFact.availableCash),
      ("commissionRate", decimalToString reading.commissionRate),
      ("orders", .arr (reading.orders.map projectedOrder)),
      ("positions", .arr (reading.snapshot.positions.map projectedPosition)),
      ("settlementAsset", .str "USD")]

/-- `_projection_digest`. -/
def projectionDigest (sha256 : String → Digest) (reading : TossUsReading) : Digest := sha256 (projection reading).dumps

/-! ### What the projection tells -/

/-- Numbers of one text. -/
def SameText (a b : Decimal) : Prop := a.formatF = b.formatF

/-- The same numbers, whatever their notation. -/
def SameNumber (a b : Decimal) : Prop := a.toRat = b.toRat

/-- Orders that agree in what is projected of them. -/
structure SameProjectedOrder (Same : Decimal → Decimal → Prop) (a b : TossUsOrderFact) : Prop where
  id : a.providerOrderId = b.providerOrderId
  quantity : Same a.quantity b.quantity
  filled : Same a.cumulativeFillQuantity b.cumulativeFillQuantity
  state : a.state = b.state
  commission : Option.Rel Same a.commission b.commission
  tax : Option.Rel Same a.tax b.tax

/-- Orders that agree in the facts the projection leaves out. -/
structure SameOmitted (a b : TossUsOrderFact) : Prop where
  symbol : a.symbol = b.symbol
  side : a.side = b.side
  limitPrice : Option.Rel SameNumber a.limitPrice b.limitPrice
  orderedAt : a.orderedAt = b.orderedAt
  filledAt : a.filledAt = b.filledAt
  canceledAt : a.canceledAt = b.canceledAt

structure SamePosition (Same : Decimal → Decimal → Prop) (a b : TossUsPositionFact) : Prop where
  symbol : a.symbol = b.symbol
  totalQuantity : Same a.totalQuantity b.totalQuantity
  sellableQuantity : Same a.sellableQuantity b.sellableQuantity
  averagePrice : Same a.averagePrice b.averagePrice
  marketValue : Same a.marketValue b.marketValue

/-- Readings that agree in what is projected of them. -/
structure SameProjected (Same : Decimal → Decimal → Prop) (a b : TossUsReading) : Prop where
  cash : Same a.snapshot.cashFact.availableCash b.snapshot.cashFact.availableCash
  commissionRate : Same a.commissionRate b.commissionRate
  orders : List.Forall₂ (SameProjectedOrder Same) a.orders b.orders
  positions : List.Forall₂ (SamePosition Same) a.snapshot.positions b.snapshot.positions

/-- Readings of the same cash, positions, commission rate and orders. -/
structure SameFacts (a b : TossUsReading) : Prop extends SameProjected SameNumber a b where
  omitted : List.Forall₂ SameOmitted a.orders b.orders

theorem SameText.number {a b : Decimal} (h : SameText a b) : SameNumber a b := by
  have hvalues := congrArg Decimal.textValue h
  rw [Decimal.textValue_formatF, Decimal.textValue_formatF] at hvalues
  exact Option.some.inj hvalues

section Mono

variable {R S : Decimal → Decimal → Prop} (hRS : ∀ x y, R x y → S x y)

include hRS

theorem optionRel_mono {a b : Option Decimal} (h : Option.Rel R a b) : Option.Rel S a b := by
  cases h with
  | some h => exact .some (hRS _ _ h)
  | none => exact .none

theorem SameProjectedOrder.mono {a b : TossUsOrderFact} (h : SameProjectedOrder R a b) : SameProjectedOrder S a b where
  id := h.id
  quantity := hRS _ _ h.quantity
  filled := hRS _ _ h.filled
  state := h.state
  commission := optionRel_mono hRS h.commission
  tax := optionRel_mono hRS h.tax

theorem SamePosition.mono {a b : TossUsPositionFact} (h : SamePosition R a b) : SamePosition S a b where
  symbol := h.symbol
  totalQuantity := hRS _ _ h.totalQuantity
  sellableQuantity := hRS _ _ h.sellableQuantity
  averagePrice := hRS _ _ h.averagePrice
  marketValue := hRS _ _ h.marketValue

theorem SameProjected.mono {a b : TossUsReading} (h : SameProjected R a b) : SameProjected S a b where
  cash := hRS _ _ h.cash
  commissionRate := hRS _ _ h.commissionRate
  orders := h.orders.imp fun _ _ horder => horder.mono hRS
  positions := h.positions.imp fun _ _ hposition => hposition.mono hRS

end Mono

theorem decimalToString_sorted_iff {a b : Decimal} :
    (decimalToString a).sorted = (decimalToString b).sorted ↔ SameText a b := by
  rw [decimalToString, decimalToString, JsonTree.sorted, JsonTree.sorted, JsonTree.str.injEq, String.ofList_inj,
    SameText]

theorem decimalText_sorted_iff {a b : Option Decimal} :
    (decimalText a).sorted = (decimalText b).sorted ↔ Option.Rel SameText a b := by
  cases a with
  | none =>
    cases b with
    | none => exact ⟨fun _ => .none, fun _ => rfl⟩
    | some b =>
      rw [decimalText, decimalText, decimalToString, JsonTree.sorted, JsonTree.sorted]
      refine iff_of_false (fun h => ?_) fun h => ?_
      · cases h
      · cases h
  | some a =>
    cases b with
    | none =>
      rw [decimalText, decimalText, decimalToString, JsonTree.sorted, JsonTree.sorted]
      refine iff_of_false (fun h => ?_) fun h => ?_
      · cases h
      · cases h
    | some b =>
      refine decimalToString_sorted_iff.trans ⟨.some, fun h => ?_⟩
      cases h with
      | some h => exact h

theorem TossUsOrderState.value_inj {a b : TossUsOrderState} : a.value = b.value ↔ a = b := by
  cases a <;> cases b <;> decide

theorem projectedOrder_sorted_iff (a b : TossUsOrderFact) :
    (projectedOrder a).sorted = (projectedOrder b).sorted ↔ SameProjectedOrder SameText a b := by
  unfold projectedOrder
  rw [JsonTree.sorted_obj_eq_iff]
  · simp only [List.map_cons, List.map_nil, List.cons.injEq, and_true, decimalToString_sorted_iff,
      decimalText_sorted_iff, JsonTree.sorted_str_iff, TossUsOrderState.value_inj]
    exact ⟨fun ⟨hcommission, hfilled, hid, hquantity, hstate, htax⟩ =>
        ⟨hid, hquantity, hfilled, hstate, hcommission, htax⟩,
      fun h => ⟨h.commission, h.filled, h.id, h.quantity, h.state, h.tax⟩⟩
  · rfl
  · simp only [List.map_cons, List.map_nil]
    decide

theorem projectedPosition_sorted_iff (a b : TossUsPositionFact) :
    (projectedPosition a).sorted = (projectedPosition b).sorted ↔ SamePosition SameText a b := by
  unfold projectedPosition
  rw [JsonTree.sorted_obj_eq_iff]
  · simp only [List.map_cons, List.map_nil, List.cons.injEq, and_true, decimalToString_sorted_iff, JsonTree.sorted_str_iff]
    exact ⟨fun ⟨haverage, hmarket, hsellable, hsymbol, htotal⟩ => ⟨hsymbol, htotal, hsellable, haverage, hmarket⟩,
      fun h => ⟨h.averagePrice, h.marketValue, h.sellableQuantity, h.symbol, h.totalQuantity⟩⟩
  · rfl
  · simp only [List.map_cons, List.map_nil]
    decide

/-- Readings have one projection if and only if everything that is projected has one text. -/
theorem projection_eq_iff {a b : TossUsReading} :
    (projection a).dumps = (projection b).dumps ↔ SameProjected SameText a b := by
  rw [JsonTree.dumps_eq_iff]
  unfold projection
  rw [JsonTree.sorted_obj_eq_iff]
  · simp only [List.map_cons, List.map_nil, List.cons.injEq, and_true, decimalToString_sorted_iff,
      JsonTree.sorted_arr_iff fun a _ b _ => projectedOrder_sorted_iff a b, JsonTree.sorted_arr_iff fun a _ b _ => projectedPosition_sorted_iff a b]
    exact ⟨fun ⟨hcash, hrate, horders, hpositions⟩ => ⟨hcash, hrate, horders, hpositions⟩,
      fun h => ⟨h.cash, h.commissionRate, h.orders, h.positions⟩⟩
  · rfl
  · simp only [List.map_cons, List.map_nil]
    decide

end AutoTrader.Toss
