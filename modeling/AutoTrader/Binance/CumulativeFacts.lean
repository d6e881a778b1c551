import AutoTrader.Binance.OrderService
import AutoTrader.Numeric.Sums
import AutoTrader.Runtime.Execution
import Mathlib.Tactic.NormNum

/-! When the fills of an order count as evidence for it. The venue prints the average price with a finite
number of decimals, the check computes it with 28 digits, and the two have to be equal. -/

namespace AutoTrader.Binance

open AutoTrader.Domain AutoTrader.Execution AutoTrader.Numeric AutoTrader.Runtime

section Report

variable (places : ℕ) (order : ProviderOrder) (fills : List Fill)

/-- `exact` rounded to `places` decimals, up or down. -/
structure Printed (exact printed : ℚ) : Prop where
  decimals : ∃ n : ℤ, printed = n * 10 ^ (-places : ℤ)
  near : |printed - exact| < 10 ^ (-places : ℤ)

/-- What the venue says of an order it filled with these fills. -/
structure Reported : Prop where
  executed : order.executedQuantity.toRat = (fills.map (·.quantity.toRat)).sum
  quote : order.cumulativeQuote.toRat = (fills.map fun fill => fill.quantity.toRat * fill.price.toRat).sum
  average : Printed places (order.cumulativeQuote.toRat / order.executedQuantity.toRat) order.averagePrice.toRat

/-- The amounts add up in 28 digits, and their quotient in 28 digits is the average as it is printed. -/
structure CountsExactly : Prop where
  quantities : decimalSum (fills.map (·.quantity.toRat)) = (fills.map (·.quantity.toRat)).sum
  quotes : decimalSum (fills.map fun fill => roundSig 28 (fill.quantity.toRat * fill.price.toRat)) =
    (fills.map fun fill => fill.quantity.toRat * fill.price.toRat).sum
  average : roundSig 28 (order.cumulativeQuote.toRat / order.executedQuantity.toRat) = order.averagePrice.toRat

end Report

variable {places : ℕ} {order : ProviderOrder} {fills : List Fill}

/-- The evidence is accepted exactly when it counts in 28 digits. -/
theorem matchCumulativeOrderFacts_ok (h : Reported places order fills) :
    matchCumulativeOrderFacts order fills = .ok () ↔ CountsExactly order fills := by
  have haverage : ∀ quantity quote : ℚ,
      (if quantity = 0 then 0 else roundSig 28 (quote / quantity)) = roundSig 28 (quote / quantity) := by
    intro quantity quote
    split
    · rename_i hzero
      rw [hzero, div_zero, roundSig_zero]
    · rfl
  unfold matchCumulativeOrderFacts
  simp only [haverage, bind_ok, require_ok, Bool.and_eq_true, decide_eq_true_eq]
  constructor
  · rintro ⟨_, ⟨hquantity, hquote⟩, hprinted⟩
    exact ⟨hquantity.trans h.executed, hquote.trans h.quote, by rw [← hquantity, ← hquote, hprinted]⟩
  · rintro ⟨hquantity, hquote, hprinted⟩
    rw [hquantity, hquote, ← h.executed, ← h.quote]
    exact ⟨(), ⟨rfl, rfl⟩, hprinted.symm⟩

/-- For amounts of few digits the average has to be the exact quotient: it counts only if the quotient needs
no more decimals than are printed. -/
theorem average_counts_iff {quote quantity : ℕ} {quotePlaces quantityPlaces : ℕ}
    (hquote : order.cumulativeQuote.toRat = quote * 10 ^ (-quotePlaces : ℤ))
    (hquantity : order.executedQuantity.toRat = quantity * 10 ^ (-quantityPlaces : ℤ))
    (hsize : quote * 10 ^ (quantityPlaces + places) < 10 ^ 27) (h : Reported places order fills) :
    roundSig 28 (order.cumulativeQuote.toRat / order.executedQuantity.toRat) = order.averagePrice.toRat ↔
      order.averagePrice.toRat = order.cumulativeQuote.toRat / order.executedQuantity.toRat := by
  obtain ⟨n, hn⟩ := h.average.decimals
  generalize hx : order.cumulativeQuote.toRat / order.executedQuantity.toRat = x
  generalize order.averagePrice.toRat = printed at hn
  rw [hquote, hquantity] at hx
  by_cases hzero : x = 0
  · rw [hzero, roundSig_zero, eq_comm]
  have hquantityPos : (0 : ℚ) < quantity := by
    rcases Nat.eq_zero_or_pos quantity with rfl | hpos
    · simp [← hx] at hzero
    · exact_mod_cast hpos
  -- the denominator that turns the quotient and the printed number into integers
  have hscale : (quantity * 10 ^ (quotePlaces + places) : ℚ) * x = (quote * 10 ^ (quantityPlaces + places) : ℕ) := by
    rw [← hx]
    push_cast
    rw [zpow_neg, zpow_neg, zpow_natCast, zpow_natCast, pow_add, pow_add]
    field_simp
  have hprinted : (quantity * 10 ^ (quotePlaces + places) : ℚ) * printed = (n * quantity * 10 ^ quotePlaces : ℤ) := by
    rw [hn]
    push_cast
    rw [zpow_neg, zpow_natCast, pow_add]
    field_simp
  have hxPos : 0 < x := by
    refine lt_of_le_of_ne ?_ (Ne.symm hzero)
    rw [← hx]
    have htenPos : ∀ k : ℤ, (0 : ℚ) ≤ 10 ^ k := fun k => zpow_nonneg (by norm_num) k
    exact div_nonneg (mul_nonneg (Nat.cast_nonneg _) (htenPos _)) (mul_nonneg hquantityPos.le (htenPos _))
  have hscalePos : (0 : ℚ) < quantity * 10 ^ (quotePlaces + places) := by positivity
  have hsizeRat : ((quote * 10 ^ (quantityPlaces + places) : ℕ) : ℚ) < 10 ^ 27 := by exact_mod_cast hsize
  constructor
  · intro hround
    by_contra hne
    have hunit : unit 28 x ≤ x / 10 ^ 27 := by
      have hself : (10 : ℚ) ^ Int.log 10 |x| ≤ |x| := Int.zpow_log_le_self (by norm_num) (abs_pos.mpr hzero)
      rw [abs_of_pos hxPos] at hself
      have hexponent : Int.log 10 x + 1 - (28 : ℕ) + (27 : ℕ) = Int.log 10 x := by
        push_cast
        ring
      rw [unit, abs_of_pos hxPos, le_div_iff₀ (by positivity), ← zpow_natCast, ← zpow_add₀ (by norm_num), hexponent]
      exact hself
    have hclose : |x - printed| ≤ x / 10 ^ 27 / 2 := by
      have hhalf := abs_sub_roundSig 28 x
      rw [hround] at hhalf
      linarith
    -- two different integers are at least one apart
    have hapart : (1 : ℚ) ≤ quantity * 10 ^ (quotePlaces + places) * |x - printed| := by
      have hmul : quantity * 10 ^ (quotePlaces + places) * |x - printed| =
          |quantity * 10 ^ (quotePlaces + places) * (x - printed)| := by
        rw [abs_mul, abs_of_pos hscalePos]
      rw [hmul, mul_sub, hscale, hprinted, ← Int.cast_natCast, ← Int.cast_sub, ← Int.cast_abs]
      have hdiffer : ((quote * 10 ^ (quantityPlaces + places) : ℕ) : ℤ) - n * quantity * 10 ^ quotePlaces ≠ 0 := by
        intro heq
        have hcast := congrArg (Int.cast (R := ℚ)) (sub_eq_zero.mp heq)
        rw [Int.cast_natCast, ← hscale, ← hprinted] at hcast
        exact hne (mul_left_cancel₀ hscalePos.ne' hcast).symm
      exact_mod_cast Int.one_le_abs hdiffer
    have hbelow : quantity * 10 ^ (quotePlaces + places) * |x - printed| ≤
        quantity * 10 ^ (quotePlaces + places) * x / 10 ^ 27 / 2 :=
      (mul_le_mul_of_nonneg_left hclose hscalePos.le).trans_eq (by ring)
    rw [hscale] at hbelow
    linarith
  · rintro rfl
    refine roundSig_of_onGrid (e := -places) ⟨n, hn, ?_⟩
    have hnPos : 0 < n := by
      rw [hn] at hxPos
      exact_mod_cast pos_of_mul_pos_left hxPos (zpow_nonneg (by norm_num) _)
    have hwhole : n * quantity * 10 ^ quotePlaces = ((quote * 10 ^ (quantityPlaces + places) : ℕ) : ℤ) := by
      rw [hscale] at hprinted
      exact_mod_cast hprinted.symm
    have hfactor : (1 : ℤ) ≤ quantity * 10 ^ quotePlaces := by
      have hpos : 0 < quantity := by exact_mod_cast hquantityPos
      exact_mod_cast Nat.mul_pos hpos (by positivity)
    rw [abs_of_pos hnPos]
    calc n ≤ n * (quantity * 10 ^ quotePlaces) := le_mul_of_one_le_right hnPos.le hfactor
      _ = ((quote * 10 ^ (quantityPlaces + places) : ℕ) : ℤ) := by rw [← hwhole, mul_assoc]
      _ < 10 ^ 28 := by exact_mod_cast hsize.trans (by norm_num)

/-! ### Amounts of few decimals -/

/-- Fills of few decimals count exactly if and only if their average needs no more decimals than are printed. -/
theorem countsExactly_iff (quantityPlaces pricePlaces : ℕ) (h : Reported places order fills)
    (hquantity : ∀ fill ∈ fills, HasPlaces quantityPlaces fill.quantity.toRat)
    (hprice : ∀ fill ∈ fills, HasPlaces pricePlaces fill.price.toRat)
    (hfilled : order.executedQuantity.toRat * 10 ^ quantityPlaces < 10 ^ 28)
    (hsize : order.cumulativeQuote.toRat * 10 ^ (quantityPlaces + pricePlaces) * 10 ^ (quantityPlaces + places) < 10 ^ 27) :
    CountsExactly order fills ↔
      order.averagePrice.toRat = order.cumulativeQuote.toRat / order.executedQuantity.toRat := by
  have hquantities : ∀ amount ∈ fills.map fun fill => fill.quantity.toRat, HasPlaces quantityPlaces amount := by
    intro amount hamount
    obtain ⟨fill, hfill, rfl⟩ := List.mem_map.mp hamount
    exact hquantity fill hfill
  have hquotes : ∀ amount ∈ fills.map fun fill => fill.quantity.toRat * fill.price.toRat,
      HasPlaces (quantityPlaces + pricePlaces) amount := by
    intro amount hamount
    obtain ⟨fill, hfill, rfl⟩ := List.mem_map.mp hamount
    exact (hquantity fill hfill).mul (hprice fill hfill)
  obtain ⟨quantity, hquantitySum⟩ := HasPlaces.sum hquantities
  obtain ⟨quote, hquoteSum⟩ := HasPlaces.sum hquotes
  rw [← h.executed] at hquantitySum
  rw [← h.quote] at hquoteSum
  have hquote : (quote : ℚ) * 10 ^ (quantityPlaces + places) < 10 ^ 27 := by
    rwa [hquoteSum, zpow_neg, zpow_natCast, inv_mul_cancel_right₀ (by positivity)] at hsize
  have htotal : order.cumulativeQuote.toRat * 10 ^ (quantityPlaces + pricePlaces) < 10 ^ 28 := by
    rw [hquoteSum, zpow_neg, zpow_natCast, inv_mul_cancel_right₀ (by positivity)]
    have hone : (quote : ℚ) * 1 ≤ quote * 10 ^ (quantityPlaces + places) :=
      mul_le_mul_of_nonneg_left (one_le_pow₀ (by norm_num)) (Nat.cast_nonneg _)
    linarith
  rw [← average_counts_iff hquoteSum hquantitySum (by exact_mod_cast hquote) h]
  refine ⟨fun hcounts => hcounts.average, fun haverage => ⟨?_, ?_, haverage⟩⟩
  · exact sumSig_eq_sum hquantities (h.executed ▸ hfilled)
  · have hexact : (fills.map fun fill => roundSig 28 (fill.quantity.toRat * fill.price.toRat)) =
        fills.map fun fill => fill.quantity.toRat * fill.price.toRat := by
      refine List.map_congr_left fun fill hfill => (hquotes _ (List.mem_map_of_mem hfill)).roundSig ?_
      have hle := List.single_le_sum (fun amount hamount => (hquotes amount hamount).nonneg) _ (List.mem_map_of_mem hfill)
      exact (mul_le_mul_of_nonneg_right hle (by positivity)).trans_lt (h.quote ▸ htotal)
    rw [hexact]
    exact sumSig_eq_sum hquotes (h.quote ▸ htotal)

/-! ### The service -/

/-- The request for the fills of an order. -/
def fillsRequest (order : ProviderOrder) : BrokerRequest :=
  ⟨.get, "/fapi/v1/userTrades?" ++
    urlencode [("symbol", symbol), ("orderId", toString order.orderId), ("limit", "1000")], none⟩

/-- A 200 response that describes the order, and the fills the venue answers with. -/
structure Answered {World : Type} (answer : World → (o : OrderOp) → Except PyError o.Result × World) (w : World)
    (record : NormalOrderRecord) (response : BrokerResponse) (order : ProviderOrder) (fills : List Fill) : Prop where
  accepted : response.status = 200
  describes : decodeProviderOrder response record = .ok order
  filled : ∃ evidence : BrokerResponse, (answer w (.get (fillsRequest order))).1 = .ok evidence ∧
    evidence.status = 200 ∧ decodeFills evidence order = .ok fills

section Service

variable {World : Type} {answer : World → (o : OrderOp) → Except PyError o.Result × World} {w : World}
  {record : NormalOrderRecord} {response : BrokerResponse}

/-- Reading the order asks for the fills and nothing else, and ends as the check of them does. -/
theorem readResult_answered (h : Answered answer w record response order fills) (recovered : Bool) :
    (readResult response record recovered).trace answer w =
        [⟨.get (fillsRequest order), (answer w (.get (fillsRequest order))).1⟩] ∧
      (matchCumulativeOrderFacts order fills = .ok () → ∃ result,
        (readResult response record recovered).exec answer w = (.ok result, (answer w (.get (fillsRequest order))).2)) ∧
      ∀ error, matchCumulativeOrderFacts order fills = .error error →
        (readResult response record recovered).exec answer w = (.error error, (answer w (.get (fillsRequest order))).2) := by
  obtain ⟨evidence, hevidence, hstatus, hfills⟩ := h.filled
  have hget : (Action.perform (OrderOp.get (fillsRequest order)) : OrderAct BrokerResponse).exec answer w =
      (.ok evidence, (answer w (.get (fillsRequest order))).2) := Prod.ext hevidence rfl
  have hread : readResult response record recovered = resultWithFills order recovered := by
    unfold readResult
    rw [h.describes]
    rfl
  have hrequire : require (evidence.status = 200) (valueError "Binance USD-M fills are unavailable") = .ok () := by
    rw [require_ok, hstatus]
    rfl
  rw [hread]
  unfold resultWithFills
  refine ⟨?_, fun hmatch => ?_, fun error hmatch => ?_⟩
  · refine Action.trace_perform_bind fun response w' => Action.Within.trace_eq_nil ?_ w'
    exact (Action.within_ofExcept _).bind fun _ => (Action.within_ofExcept _).bind fun _ =>
      (Action.within_ofExcept _).bind fun _ => Action.within_pure _
  · exact ⟨_, (Action.exec_bind_ok _ hget).trans <| (Action.exec_ofExcept_bind hrequire _ _).trans <|
      (Action.exec_ofExcept_bind hfills _ _).trans <| (Action.exec_ofExcept_bind hmatch _ _).trans <| Action.exec_pure _ _⟩
  · refine (Action.exec_bind_ok _ hget).trans ?_
    refine (Action.exec_ofExcept_bind hrequire _ _).trans ?_
    refine (Action.exec_ofExcept_bind hfills _ _).trans ?_
    rw [hmatch]
    rfl

theorem markAmbiguous_trace (clientOrderId : String) (w : World) :
    (markAmbiguous clientOrderId).trace answer w =
      [⟨.finish clientOrderId .ambiguous none, (answer w (.finish clientOrderId .ambiguous none)).1⟩] :=
  Action.trace_perform_bind fun _ _ => rfl

theorem acknowledge_trace (clientOrderId : String) (result : BrokerWriteResult) (w : World) :
    (acknowledge clientOrderId result).trace answer w = [⟨.finish clientOrderId .acknowledged (some result),
      (answer w (.finish clientOrderId .acknowledged (some result))).1⟩] :=
  Action.trace_perform_bind fun _ _ => rfl

/-- The order is acknowledged if the evidence is accepted, and left ambiguous otherwise. -/
theorem acceptPostResponse_answered (h : Answered answer w record response order fills) :
    (matchCumulativeOrderFacts order fills = .ok () → ∃ result,
        ((acceptPostResponse record response).trace answer w).map Sigma.fst =
          [.get (fillsRequest order), .finish record.clientOrderId .acknowledged (some result)]) ∧
      (matchCumulativeOrderFacts order fills ≠ .ok () →
        ((acceptPostResponse record response).trace answer w).map Sigma.fst =
          [.get (fillsRequest order), .finish record.clientOrderId .ambiguous none]) := by
  obtain ⟨htrace, hok, herror⟩ := readResult_answered h false
  have hclient : isClientError response = false := by simp [isClientError, h.accepted]
  unfold acceptPostResponse
  rw [if_neg (by simp [hclient, h.accepted]), if_neg (by simp [hclient]), if_neg (by simp [h.accepted])]
  constructor
  · intro hmatch
    obtain ⟨result, hresult⟩ := hok hmatch
    refine ⟨result, ?_⟩
    rw [Action.trace_bind_ok _ (Action.exec_tryCatch_ok _ hresult), Action.trace_tryCatch_ok _ hresult, htrace,
      acknowledge_trace]
    rfl
  · intro hmatch
    cases hraised : matchCumulativeOrderFacts order fills with
    | ok u => exact absurd hraised hmatch
    | error error =>
      have hexec := herror error hraised
      -- whatever becomes of the mark, nothing is returned
      have hhandler : ∀ e w', ∃ raised w'', (do markAmbiguous record.clientOrderId; throw e :
          OrderAct BrokerWriteResult).exec answer w' = (.error raised, w'') := by
        intro e w'
        rcases hmark : (markAmbiguous record.clientOrderId).exec answer w' with ⟨_ | _, w''⟩
        · exact ⟨_, _, Action.exec_bind_error _ hmark⟩
        · exact ⟨_, _, Action.exec_bind_ok _ hmark⟩
      obtain ⟨raised, w'', hcaught⟩ := hhandler (controlOrUnknown error "Binance USD-M order acknowledgement is invalid")
        (answer w (.get (fillsRequest order))).2
      rw [Action.trace_bind_error _ ((Action.exec_tryCatch_error _ hexec).trans hcaught),
        Action.trace_tryCatch_error _ hexec, htrace]
      have hmarked : ∀ e w', (do markAmbiguous record.clientOrderId; throw e :
          OrderAct BrokerWriteResult).trace answer w' = (markAmbiguous record.clientOrderId).trace answer w' := by
        intro e w'
        rcases hmark : (markAmbiguous record.clientOrderId).exec answer w' with ⟨_ | _, w''⟩
        · exact Action.trace_bind_error _ hmark
        · exact (Action.trace_bind_ok _ hmark).trans (List.append_nil _)
      rw [hmarked, markAmbiguous_trace]
      rfl

end Service

/-- Reported fills are accepted as evidence, and their order acknowledged, exactly when they count in 28 digits. -/
theorem acknowledged_iff (places : ℕ) (order : ProviderOrder) (fills : List Fill) (h : Reported places order fills) :
    (matchCumulativeOrderFacts order fills = .ok () ↔ CountsExactly order fills) ∧
      ∀ {World : Type} (answer : World → (o : OrderOp) → Except PyError o.Result × World) (w : World)
        (record : NormalOrderRecord) (response : BrokerResponse), Answered answer w record response order fills →
        ((∃ result, .finish record.clientOrderId .acknowledged (some result) ∈
            ((acceptPostResponse record response).trace answer w).map Sigma.fst) ↔ CountsExactly order fills) ∧
          (.finish record.clientOrderId .ambiguous none ∈
            ((acceptPostResponse record response).trace answer w).map Sigma.fst ↔ ¬CountsExactly order fills) := by
  have hmatch := matchCumulativeOrderFacts_ok h
  refine ⟨hmatch, fun answer w record response hanswered => ?_⟩
  obtain ⟨haccepted, hrefused⟩ := acceptPostResponse_answered hanswered
  by_cases hcounts : CountsExactly order fills
  · obtain ⟨result, htrace⟩ := haccepted (hmatch.mpr hcounts)
    rw [htrace]
    simp [hcounts]
  · rw [hrefused fun hok => hcounts (hmatch.mp hok)]
    simp [hcounts]

/-! ### Two fills and three -/

def unitFill (tradeId : Nat) (price : Decimal) : Fill where
  tradeId := tradeId
  orderId := 5
  side := .buy
  quantity := .ofNat 1
  price := price
  commission := .ofNat 0
  commissionAsset := "USDT"
  realizedPnl := .ofNat 0
  occurredAt := 0

def filledOrder (quantity quote average : Decimal) : ProviderOrder where
  orderId := 5
  clientOrderId := "v6-5"
  symbol := "BTCUSDT"
  status := "FILLED"
  side := .buy
  orderType := .market
  originalQuantity := quantity
  executedQuantity := quantity
  cumulativeQuote := quote
  averagePrice := average
  reduceOnly := false
  positionSide := "BOTH"

/-- One at 100 and one at 101, on average 100.5. -/
theorem halves_reported : Reported 2 (filledOrder (.ofNat 2) (.ofNat 201) ⟨false, 1005, -1⟩)
    [unitFill 1 (.ofNat 100), unitFill 2 (.ofNat 101)] where
  executed := by norm_num [filledOrder, unitFill, Decimal.toRat, Decimal.ofNat]
  quote := by norm_num [filledOrder, unitFill, Decimal.toRat, Decimal.ofNat]
  average := ⟨⟨10050, by norm_num [filledOrder, Decimal.toRat]⟩, by norm_num [filledOrder, Decimal.toRat, Decimal.ofNat]⟩

theorem hasPlaces_ofNat (n : ℕ) : HasPlaces 0 (Decimal.ofNat n).toRat :=
  ⟨n, by simp [Decimal.toRat, Decimal.ofNat]⟩

theorem acknowledged_iff_halves : matchCumulativeOrderFacts (filledOrder (.ofNat 2) (.ofNat 201) ⟨false, 1005, -1⟩)
    [unitFill 1 (.ofNat 100), unitFill 2 (.ofNat 101)] = .ok () := by
  refine (acknowledged_iff 2 _ _ halves_reported).1.mpr ?_
  rw [countsExactly_iff 0 0 halves_reported (by simp [unitFill, hasPlaces_ofNat])
    (by simp [unitFill, hasPlaces_ofNat]) (by norm_num [filledOrder, Decimal.toRat, Decimal.ofNat])
    (by norm_num [filledOrder, Decimal.toRat, Decimal.ofNat])]
  norm_num [filledOrder, Decimal.toRat, Decimal.ofNat]

/-- Two at 100 and one at 101, on average 100.33 with two decimals. -/
theorem thirds_reported : Reported 2 (filledOrder (.ofNat 3) (.ofNat 301) ⟨false, 10033, -2⟩)
    [unitFill 1 (.ofNat 100), unitFill 2 (.ofNat 100), unitFill 3 (.ofNat 101)] where
  executed := by norm_num [filledOrder, unitFill, Decimal.toRat, Decimal.ofNat]
  quote := by norm_num [filledOrder, unitFill, Decimal.toRat, Decimal.ofNat]
  average := ⟨⟨10033, by norm_num [filledOrder, Decimal.toRat]⟩, by norm_num [filledOrder, Decimal.toRat, Decimal.ofNat]⟩

theorem thirds_refused : ¬(Reported 2 (filledOrder (.ofNat 3) (.ofNat 301) ⟨false, 10033, -2⟩)
      [unitFill 1 (.ofNat 100), unitFill 2 (.ofNat 100), unitFill 3 (.ofNat 101)] →
    matchCumulativeOrderFacts (filledOrder (.ofNat 3) (.ofNat 301) ⟨false, 10033, -2⟩)
      [unitFill 1 (.ofNat 100), unitFill 2 (.ofNat 100), unitFill 3 (.ofNat 101)] = .ok ()) := by
  intro h
  have hcounts := (matchCumulativeOrderFacts_ok thirds_reported).mp (h thirds_reported)
  rw [countsExactly_iff 0 0 thirds_reported (by simp [unitFill, hasPlaces_ofNat])
    (by simp [unitFill, hasPlaces_ofNat]) (by norm_num [filledOrder, Decimal.toRat, Decimal.ofNat])
    (by norm_num [filledOrder, Decimal.toRat, Decimal.ofNat])] at hcounts
  norm_num [filledOrder, Decimal.toRat, Decimal.ofNat] at hcounts

end AutoTrader.Binance
