import AutoTrader.Domain.DecimalRounding
import AutoTrader.Domain.JsonText
import AutoTrader.Domain.Timestamps
import AutoTrader.Paper.Orders

/-! The digest a paper command is known by. Two commands have the same payload exactly when they agree in every field,
numbers compared in the 28 digits of the context. -/

namespace AutoTrader.Paper

open AutoTrader.Domain AutoTrader.Execution AutoTrader.Numeric AutoTrader.Trader

namespace PaperOrderTerms

/-- A decimal in the payload. -/
def plain (d : Decimal) : JsonScalar := .str (String.ofList d.plainText)

def plainOptional (d : Option Decimal) : JsonScalar := (d.map plain).getD .null

/-- The payload of the digest. -/
def payload (terms : PaperOrderTerms) : List (String × JsonScalar) :=
  [("id", .str (String.ofList terms.id.str)),
    ("order_id", .str (String.ofList terms.orderId.str)),
    ("account_alias", .str terms.accountAlias),
    ("market", .str terms.market.value),
    ("side", .str terms.side.value),
    ("order_style", .str terms.orderStyle.value),
    ("quantity", plain terms.quantity),
    ("limit_price", plainOptional terms.limitPrice),
    ("signal_at", .str (isoformat terms.signalAt)),
    ("timeframe_seconds", plain ⟨false, terms.timeframe.natAbs, -6⟩),
    ("fee_per_unit", plain terms.feePerUnit),
    ("slippage_per_unit", plain terms.slippagePerUnit),
    ("trigger_price", plainOptional terms.triggerPrice)]

def payloadKeys : List String :=
  ["id", "order_id", "account_alias", "market", "side", "order_style", "quantity", "limit_price", "signal_at",
    "timeframe_seconds", "fee_per_unit", "slippage_per_unit", "trigger_price"]

theorem payload_keys (terms : PaperOrderTerms) : terms.payload.map Prod.fst = payloadKeys := rfl

theorem payloadKeys_nodup : payloadKeys.Nodup := by decide

/-- The text that is hashed. -/
def digestText (terms : PaperOrderTerms) : String := canonicalJson terms.payload

theorem commandDigest_eq (sha256 : String → Digest) (terms : PaperOrderTerms) :
    terms.commandDigest sha256 = sha256 terms.digestText := rfl

/-- The same command, with numbers compared in 28 digits. -/
@[mk_iff] structure Matches (a b : PaperOrderTerms) : Prop where
  id : a.id = b.id
  orderId : a.orderId = b.orderId
  accountAlias : a.accountAlias = b.accountAlias
  market : a.market = b.market
  side : a.side = b.side
  orderStyle : a.orderStyle = b.orderStyle
  quantity : rounded a.quantity.toRat = rounded b.quantity.toRat
  limitPrice : a.limitPrice.map (rounded ·.toRat) = b.limitPrice.map (rounded ·.toRat)
  signalAt : a.signalAt = b.signalAt
  timeframe : a.timeframe = b.timeframe
  feePerUnit : rounded a.feePerUnit.toRat = rounded b.feePerUnit.toRat
  slippagePerUnit : rounded a.slippagePerUnit.toRat = rounded b.slippagePerUnit.toRat
  triggerPrice : a.triggerPrice.map (rounded ·.toRat) = b.triggerPrice.map (rounded ·.toRat)

instance decidableMatches (a b : PaperOrderTerms) : Decidable (a.Matches b) := decidable_of_iff _ (matches_iff a b).symm

/-- A signal that a `datetime` holds, and a timeframe whose seconds a float holds exactly: up to 31 years. -/
structure Representable (terms : PaperOrderTerms) : Prop where
  signalAt : IsDatetime terms.signalAt
  timeframe : 0 < terms.timeframe ∧ terms.timeframe < 10 ^ 15

theorem plain_eq_iff {a b : Decimal} : plain a = plain b ↔ rounded a.toRat = rounded b.toRat := by
  rw [plain, plain, JsonScalar.str.injEq, String.ofList_inj, Decimal.plainText_eq_iff]

theorem plainOptional_eq_iff {a b : Option Decimal} :
    plainOptional a = plainOptional b ↔ a.map (rounded ·.toRat) = b.map (rounded ·.toRat) := by
  unfold plainOptional
  cases a <;> cases b
  · simp
  · simp [plain]
  · simp [plain]
  · simpa using plain_eq_iff

theorem market_value_injective {a b : V6Market} (h : a.value = b.value) : a = b := by
  revert h
  cases a <;> cases b <;> decide

theorem side_value_injective {a b : Side} (h : a.value = b.value) : a = b := by
  revert h
  cases a <;> cases b <;> decide

theorem orderStyle_value_injective {a b : OrderStyle} (h : a.value = b.value) : a = b := by
  revert h
  cases a <;> cases b <;> decide

theorem rounded_micros {n : ℕ} (h : n < 10 ^ 15) : rounded (Decimal.toRat ⟨false, n, -6⟩) = n * 10 ^ (-6 : ℤ) := by
  rw [rounded, roundSig_of_onGrid (Decimal.onGrid_toRat (d := ⟨false, n, -6⟩) (h.trans (by decide)))]
  simp [Decimal.toRat]

theorem payload_of_matches {a b : PaperOrderTerms} (h : a.Matches b) : a.payload = b.payload := by
  unfold payload
  rw [h.id, h.orderId, h.accountAlias, h.market, h.side, h.orderStyle, plain_eq_iff.mpr h.quantity,
    plainOptional_eq_iff.mpr h.limitPrice, h.signalAt, h.timeframe, plain_eq_iff.mpr h.feePerUnit,
    plain_eq_iff.mpr h.slippagePerUnit, plainOptional_eq_iff.mpr h.triggerPrice]

/-- Different commands are hashed from different texts. -/
theorem matches_of_digestText {a b : PaperOrderTerms} (ha : a.Representable) (hb : b.Representable)
    (h : a.digestText = b.digestText) : a.Matches b := by
  have hkeys : a.payload.map Prod.fst = b.payload.map Prod.fst := (payload_keys a).trans (payload_keys b).symm
  have hnodup : (a.payload.map Prod.fst).Nodup := (payload_keys a).symm ▸ payloadKeys_nodup
  have hvalues := canonicalJson_injective hkeys hnodup h
  simp only [payload, List.map_cons, List.map_nil, List.cons.injEq, JsonScalar.str.injEq, String.ofList_inj, plain_eq_iff,
    plainOptional_eq_iff, and_true] at hvalues
  obtain ⟨hid, horder, halias, hmarket, hside, hstyle, hquantity, hlimit, hsignal, htimeframe, hfee, hslippage, htrigger⟩ :=
    hvalues
  obtain ⟨hpos, hshort⟩ := ha.timeframe
  obtain ⟨hpos', hshort'⟩ := hb.timeframe
  rw [rounded_micros (by omega), rounded_micros (by omega), mul_left_inj' (zpow_pos (by norm_num) _).ne', Nat.cast_inj]
    at htimeframe
  exact
    { id := UUID.str_injective hid
      orderId := UUID.str_injective horder
      accountAlias := halias
      market := market_value_injective hmarket
      side := side_value_injective hside
      orderStyle := orderStyle_value_injective hstyle
      quantity := hquantity
      limitPrice := hlimit
      signalAt := isoformat_injective ha.signalAt hb.signalAt hsignal
      timeframe := by omega
      feePerUnit := hfee
      slippagePerUnit := hslippage
      triggerPrice := htrigger }

end PaperOrderTerms

end AutoTrader.Paper
