import AutoTrader.Domain.DecimalRounding
import AutoTrader.Paper.Orders

/-! What a fill may do, whatever the bar. Quantities and limits hold exactly; what the context computes (the remainder,
the fee, a price with slippage) is the exact number rounded to its 28 digits. -/

namespace AutoTrader.Paper

open AutoTrader.Domain AutoTrader.Execution AutoTrader.Numeric

/-- No better for a trader on this side than the reference. -/
def NoBetter (side : Side) (reference price : ℚ) : Prop :=
  match side with
  | .buy => reference ≤ price
  | .sell => price ≤ reference

/-- The one of two prices that is worse for this side. -/
def worse (side : Side) (a b : ℚ) : ℚ :=
  match side with
  | .buy => max a b
  | .sell => min a b

/-- A price with slippage against the trader. -/
def slipped (side : Side) (price slippage : ℚ) : ℚ :=
  match side with
  | .buy => price + slippage
  | .sell => price - slippage

/-- A receipt of the command against the bar, if there was one. -/
structure FillSound (command : PaperOrderCommand) (bar : Option PaperExecutionBar) (receipt : PaperOrderReceipt) : Prop where
  identity : receipt.commandId = command.id ∧ receipt.orderId = command.orderId ∧
    receipt.requestedQuantity = command.quantity
  withinQuantity : 0 ≤ receipt.filledQuantity.toRat ∧ receipt.filledQuantity.toRat ≤ command.quantity.toRat
  withinAvailable : receipt.filledQuantity.toRat = 0 ∨
    ∃ execution ∈ bar, receipt.filledQuantity.toRat ≤ execution.availableQuantity.toRat
  remainder : receipt.filledQuantity.toRat = 0 ∧ receipt.remainingQuantity = command.quantity ∨
    receipt.remainingQuantity.toRat = rounded (command.quantity.toRat - receipt.filledQuantity.toRat)
  limit : ∀ limit ∈ command.limitPrice, ∀ price ∈ receipt.fillPrice, NoBetter command.side price.toRat limit.toRat
  stop : ∀ trigger ∈ command.triggerPrice, ∀ price ∈ receipt.fillPrice, ∃ execution ∈ bar,
    price.toRat = rounded (slipped command.side (worse command.side execution.bar.open_.toRat trigger.toRat)
      command.slippagePerUnit.toRat) ∧
    NoBetter command.side (rounded trigger.toRat) price.toRat ∧
    NoBetter command.side (rounded execution.bar.open_.toRat) price.toRat
  fee : receipt.fee.toRat = rounded (command.feePerUnit.toRat * receipt.filledQuantity.toRat)

theorem toRat_least (a b : Decimal) : (a.least b).toRat = min a.toRat b.toRat := by
  unfold Decimal.least
  split
  next h => rw [min_eq_right h.le]
  next h => rw [min_eq_left (not_lt.mp h)]

theorem toRat_greatest (a b : Decimal) : (a.greatest b).toRat = max a.toRat b.toRat := by
  unfold Decimal.greatest
  split
  next h => rw [max_eq_right h.le]
  next h => rw [max_eq_left (not_lt.mp h)]

theorem toRat_zeroDecimal : zeroDecimal.toRat = 0 := by norm_num [zeroDecimal, Decimal.ofNat, Decimal.toRat]

/-- The worse price with slippage is no better than either price, after rounding too. -/
theorem noBetter_slipped (side : Side) {a b reference slippage : ℚ} (hslippage : 0 ≤ slippage)
    (href : reference = a ∨ reference = b) : NoBetter side (rounded reference) (rounded (slipped side (worse side a b) slippage)) := by
  cases side with
  | buy =>
    refine rounded_mono ?_
    have hle : reference ≤ max a b := by
      rcases href with rfl | rfl
      · exact le_max_left _ _
      · exact le_max_right _ _
    exact hle.trans (le_add_of_nonneg_right hslippage)
  | sell =>
    refine rounded_mono ?_
    have hle : min a b ≤ reference := by
      rcases href with rfl | rfl
      · exact min_le_left _ _
      · exact min_le_right _ _
    exact (sub_le_self _ hslippage).trans hle

section Price

variable {command : PaperOrderCommand} {bar : CompletedOhlcvBar} {price : Decimal}

/-- A limit order fills at its limit or better. -/
theorem eligiblePrice_limit (h : eligiblePrice command bar = some price) {limit : Decimal}
    (hlimit : command.limitPrice = some limit) : NoBetter command.side price.toRat limit.toRat := by
  have hvalid := command.isValid.limit
  unfold PaperOrderTerms.validateLimit at hvalid
  rw [hlimit] at hvalid
  unfold eligiblePrice at h
  rw [hlimit] at h
  cases hstyle : command.orderStyle with
  | market =>
    rw [hstyle] at hvalid
    cases hvalid
  | limit =>
    rw [hstyle] at h
    dsimp only at h
    cases hside : command.side with
    | buy =>
      rw [hside] at h
      dsimp only at h
      split at h
      · cases h
      · cases h
        show Decimal.toRat _ ≤ _
        rw [toRat_least]
        exact min_le_right _ _
    | sell =>
      rw [hside] at h
      dsimp only at h
      split at h
      · cases h
      · cases h
        show _ ≤ Decimal.toRat _
        rw [toRat_greatest]
        exact le_max_right _ _

/-- A stop fills at the worse of its trigger and the open, with slippage. -/
theorem eligiblePrice_stop (h : eligiblePrice command bar = some price) {trigger : Decimal}
    (htrigger : command.triggerPrice = some trigger) :
    price.toRat = rounded (slipped command.side (worse command.side bar.open_.toRat trigger.toRat)
      command.slippagePerUnit.toRat) := by
  have hvalid := command.isValid.trigger
  unfold PaperOrderTerms.validateTrigger at hvalid
  rw [htrigger] at hvalid
  unfold eligiblePrice at h
  rw [htrigger] at h
  cases hstyle : command.orderStyle with
  | limit =>
    rw [hstyle] at hvalid
    cases hvalid
  | market =>
    rw [hstyle] at h
    dsimp only at h
    cases hside : command.side with
    | buy =>
      rw [hside] at h
      cases h
      rw [Decimal.toRat_add, toRat_greatest]
      rfl
    | sell =>
      rw [hside] at h
      cases h
      rw [Decimal.toRat_sub, toRat_least]
      rfl

end Price

theorem noFill_sound (command : PaperOrderCommand) (digest : Digest) (reason : String) (source : Option Digest)
    (bar : Option PaperExecutionBar) : FillSound command bar (noFill command digest reason source) where
  identity := ⟨rfl, rfl, rfl⟩
  withinQuantity := ⟨toRat_zeroDecimal.ge, toRat_zeroDecimal.le.trans command.isValid.quantity_pos.le⟩
  withinAvailable := .inl toRat_zeroDecimal
  remainder := .inl ⟨toRat_zeroDecimal, rfl⟩
  limit _ _ _ hprice := nomatch hprice
  stop _ _ _ hprice := nomatch hprice
  fee := by
    show zeroDecimal.toRat = rounded (_ * zeroDecimal.toRat)
    rw [toRat_zeroDecimal, mul_zero, rounded, roundSig_zero]

/-- Every fill is sound. -/
theorem fill_sound (command : PaperOrderCommand) (digest : Digest) (bar : Option PaperExecutionBar) :
    FillSound command bar (fill command digest bar) := by
  unfold fill
  cases bar with
  | none => exact noFill_sound ..
  | some execution =>
    dsimp only
    split
    · exact noFill_sound ..
    · cases hprice : eligiblePrice command execution.bar with
      | none => exact noFill_sound ..
      | some price =>
        dsimp only
        split
        · exact noFill_sound ..
        · have hfilled := toRat_least command.quantity execution.availableQuantity
          exact
            { identity := ⟨rfl, rfl, rfl⟩
              withinQuantity :=
                ⟨hfilled ▸ le_min command.isValid.quantity_pos.le execution.available_nonneg, hfilled ▸ min_le_left _ _⟩
              withinAvailable := .inr ⟨execution, rfl, hfilled ▸ min_le_right _ _⟩
              remainder := .inr (Decimal.toRat_sub _ _)
              limit := fun limit hlimit _ hmem => Option.mem_some.mp hmem ▸ eligiblePrice_limit hprice hlimit
              stop := fun trigger htrigger filled hmem => by
                obtain rfl := Option.mem_some.mp hmem
                have hstop := eligiblePrice_stop hprice htrigger
                have hslippage := command.isValid.slippage_nonneg
                exact ⟨execution, rfl, hstop, hstop ▸ noBetter_slipped _ hslippage (.inr rfl),
                  hstop ▸ noBetter_slipped _ hslippage (.inl rfl)⟩
              fee := Decimal.toRat_mul _ _ }

end AutoTrader.Paper
