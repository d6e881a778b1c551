import AutoTrader.Domain.CompletedOhlcv
import AutoTrader.Execution.Commands
import AutoTrader.Domain.Wire
import AutoTrader.Trader.Markets

/-! Commands of the internal paper broker, the bars that execute them and the receipts they
end with. A command that breaks a check of its constructor cannot be built. -/

namespace AutoTrader.Paper

open AutoTrader.Domain AutoTrader.Execution AutoTrader.Trader

private def invalidTerms {α : Type} (message : String) : Except PyError α := .error ⟨.valueError, message⟩

private def refuseIf (condition : Prop) [Decidable condition] (message : String) : Except PyError Unit :=
  if condition then invalidTerms message else pure ()

/-- `PAPER_ACCOUNT_BINDINGS`. -/
def paperAccountBindings : List (String × V6Market) :=
  [("internal-krx-paper", .krxCash), ("internal-us-paper", .usCash),
    ("internal-binance-usdm-paper", .binanceUsdm)]

inductive PaperOrderStatus
  | filled
  | partiallyFilled
  | noFill
  | unknown
  deriving DecidableEq

structure PaperExecutionBar where
  bar : CompletedOhlcvBar
  availableQuantity : Decimal
  sourceDigest : Digest
  available_nonneg : 0 ≤ availableQuantity.toRat

/-! ### Commands -/

/-- The fields of a command, before they are checked. The timeframe is in microseconds. -/
structure PaperOrderTerms where
  id : UUID
  orderId : UUID
  accountAlias : String
  market : V6Market
  side : Side
  orderStyle : OrderStyle
  quantity : Decimal
  limitPrice : Option Decimal
  signalAt : Instant
  timeframe : Int
  feePerUnit : Decimal
  slippagePerUnit : Decimal
  triggerPrice : Option Decimal
  deriving DecidableEq

namespace PaperOrderTerms

/-- The checks on the limit price. -/
def validateLimit (terms : PaperOrderTerms) : Except PyError Unit :=
  match terms.orderStyle, terms.limitPrice with
  | .limit, none => invalidTerms "limit order requires limit_price"
  | .limit, some price =>
    if price.toRat ≤ 0 then invalidTerms "limit_price must be positive" else .ok ()
  | .market, some _ => invalidTerms "market order cannot carry limit_price"
  | .market, none => .ok ()

/-- The checks on the trigger. -/
def validateTrigger (terms : PaperOrderTerms) : Except PyError Unit :=
  match terms.triggerPrice with
  | none => .ok ()
  | some trigger =>
    if terms.orderStyle ≠ .market then invalidTerms "a triggered order must be a market order"
    else if trigger.toRat ≤ 0 then invalidTerms "trigger_price must be positive"
    else .ok ()

/-- `PaperOrderCommand.__post_init__`. -/
def validate (terms : PaperOrderTerms) : Except PyError Unit := do
  refuseIf (terms.id.isVersion7 = false) "id must be UUIDv7"
  refuseIf (terms.orderId.isVersion7 = false) "order_id must be UUIDv7"
  refuseIf (paperAccountBindings.lookup terms.accountAlias ≠ some terms.market)
    "exact internal paper account binding is required"
  refuseIf (terms.quantity.toRat ≤ 0) "quantity must be positive"
  terms.validateLimit
  refuseIf (terms.timeframe ≤ 0) "timeframe must be positive"
  refuseIf (terms.feePerUnit.toRat < 0) "fee_per_unit must not be negative"
  refuseIf (terms.slippagePerUnit.toRat < 0) "slippage_per_unit must not be negative"
  terms.validateTrigger

/-- What the constructor asks of the fields. -/
structure Valid (terms : PaperOrderTerms) : Prop where
  id : terms.id.isVersion7 = true
  orderId : terms.orderId.isVersion7 = true
  bound : paperAccountBindings.lookup terms.accountAlias = some terms.market
  quantity_pos : 0 < terms.quantity.toRat
  limit : terms.validateLimit = .ok ()
  timeframe_pos : 0 < terms.timeframe
  fee_nonneg : 0 ≤ terms.feePerUnit.toRat
  slippage_nonneg : 0 ≤ terms.slippagePerUnit.toRat
  trigger : terms.validateTrigger = .ok ()

theorem validate_ok {terms : PaperOrderTerms} : terms.validate = .ok () ↔ terms.Valid := by
  unfold validate refuseIf invalidTerms
  simp only [bind_ok, raiseIf_ok, Bool.not_eq_false]
  constructor
  · rintro ⟨_, hid, _, horder, _, hbound, _, hquantity, _, hlimit, _, htimeframe, _, hfee, _, hslippage, htrigger⟩
    exact ⟨hid, horder, not_not.mp hbound, not_le.mp hquantity, hlimit,
      not_le.mp htimeframe, not_lt.mp hfee, not_lt.mp hslippage, htrigger⟩
  · rintro ⟨hid, horder, hbound, hquantity, hlimit, htimeframe, hfee, hslippage, htrigger⟩
    exact ⟨(), hid, (), horder, (), not_not.mpr hbound, (), not_le.mpr hquantity, (),
      hlimit, (), not_le.mpr htimeframe, (), not_lt.mpr hfee, (), not_lt.mpr hslippage, htrigger⟩

end PaperOrderTerms

structure PaperOrderCommand extends PaperOrderTerms where
  valid : toPaperOrderTerms.validate = .ok ()
  deriving DecidableEq

/-- `PaperOrderCommand(...)`. -/
def PaperOrderTerms.command (terms : PaperOrderTerms) : Except PyError PaperOrderCommand :=
  match h : terms.validate with
  | .ok () => .ok ⟨terms, h⟩
  | .error e => .error e

theorem PaperOrderCommand.isValid (command : PaperOrderCommand) : command.Valid :=
  PaperOrderTerms.validate_ok.mp command.valid

/-- Fields that pass the checks make a command. -/
theorem PaperOrderTerms.command_of_valid {terms : PaperOrderTerms} (h : terms.Valid) :
    ∃ command, terms.command = .ok command ∧ command.toPaperOrderTerms = terms := by
  have hvalid := PaperOrderTerms.validate_ok.mpr h
  unfold PaperOrderTerms.command
  split
  · exact ⟨_, rfl, rfl⟩
  · rename_i e herror
    rw [hvalid] at herror
    cases herror

theorem PaperOrderTerms.command_ok {terms : PaperOrderTerms} {command : PaperOrderCommand}
    (h : terms.command = .ok command) : command.toPaperOrderTerms = terms := by
  unfold PaperOrderTerms.command at h
  split at h
  · cases h
    rfl
  · cases h

/-- `expected_at`: the instant of the bar after the signal. -/
def PaperOrderTerms.expectedAt (terms : PaperOrderTerms) : Instant :=
  terms.signalAt + terms.timeframe

/-- `PaperOrderCommand.command_digest`. -/
def PaperOrderTerms.commandDigest (sha256 : String → Digest) (terms : PaperOrderTerms) : Digest :=
  let plain := fun d : Decimal => JsonScalar.str (String.ofList d.plainText)
  sha256 (canonicalJson
    [("id", .str (String.ofList terms.id.str)),
      ("order_id", .str (String.ofList terms.orderId.str)),
      ("account_alias", .str terms.accountAlias),
      ("market", .str terms.market.value),
      ("side", .str terms.side.value),
      ("order_style", .str terms.orderStyle.value),
      ("quantity", plain terms.quantity),
      ("limit_price", (terms.limitPrice.map plain).getD .null),
      ("signal_at", .str (isoformat terms.signalAt)),
      ("timeframe_seconds", plain ⟨false, terms.timeframe.natAbs, -6⟩),
      ("fee_per_unit", plain terms.feePerUnit),
      ("slippage_per_unit", plain terms.slippagePerUnit),
      ("trigger_price", (terms.triggerPrice.map plain).getD .null)])

/-! ### Receipts -/

structure PaperOrderReceipt where
  commandId : UUID
  orderId : UUID
  status : PaperOrderStatus
  requestedQuantity : Decimal
  filledQuantity : Decimal
  remainingQuantity : Decimal
  fillPrice : Option Decimal
  fee : Decimal
  slippageCost : Decimal
  filledAt : Option Instant
  reasonCode : Option String
  sourceDigest : Option Digest
  commandDigest : Digest
  deriving DecidableEq

def zeroDecimal : Decimal := .ofNat 0

/-- `_no_fill`, and the receipt of a voided command. -/
def noFill (command : PaperOrderCommand) (commandDigest : Digest) (reason : String)
    (sourceDigest : Option Digest) : PaperOrderReceipt where
  commandId := command.id
  orderId := command.orderId
  status := .noFill
  requestedQuantity := command.quantity
  filledQuantity := zeroDecimal
  remainingQuantity := command.quantity
  fillPrice := none
  fee := zeroDecimal
  slippageCost := zeroDecimal
  filledAt := none
  reasonCode := some reason
  sourceDigest := sourceDigest
  commandDigest := commandDigest

/-- `_resolves`. A command without a trigger is settled by exactly the bar after its signal. -/
def resolves (command : PaperOrderCommand) (bar : PaperExecutionBar) (expectedAt : Instant) : Bool :=
  match command.triggerPrice with
  | none => bar.bar.timestamp = expectedAt
  | some _ => decide (expectedAt ≤ bar.bar.timestamp)

/-- `_eligible_price`. -/
def eligiblePrice (command : PaperOrderCommand) (bar : CompletedOhlcvBar) : Option Decimal :=
  let slippage := command.slippagePerUnit
  match command.orderStyle, command.limitPrice with
  | .market, _ =>
    match command.triggerPrice, command.side with
    | none, .buy => some (bar.open_.add slippage)
    | none, .sell => some (bar.open_.sub slippage)
    | some trigger, .buy => some ((bar.open_.greatest trigger).add slippage)
    | some trigger, .sell => some ((bar.open_.least trigger).sub slippage)
  | .limit, none => none
  | .limit, some limit =>
    match command.side with
    | .buy =>
      if limit.toRat < bar.low.toRat then none
      else some (((bar.open_.least limit).add slippage).least limit)
    | .sell =>
      if bar.high.toRat < limit.toRat then none
      else some (((bar.open_.greatest limit).sub slippage).greatest limit)

/-- `_fill`. -/
def fill (command : PaperOrderCommand) (commandDigest : Digest) (executionBar : Option PaperExecutionBar) :
    PaperOrderReceipt :=
  match executionBar with
  | none => noFill command commandDigest "MISSING_EXACT_NEXT_BAR" none
  | some execution =>
    if !resolves command execution command.expectedAt then
      noFill command commandDigest "MISSING_EXACT_NEXT_BAR" (some execution.sourceDigest)
    else match eligiblePrice command execution.bar with
      | none => noFill command commandDigest "LIMIT_NOT_REACHED" (some execution.sourceDigest)
      | some price =>
        let filledQuantity := command.quantity.least execution.availableQuantity
        if filledQuantity.toRat = 0 then
          noFill command commandDigest "INSUFFICIENT_NEXT_BAR_LIQUIDITY" (some execution.sourceDigest)
        else
          let remaining := command.quantity.sub filledQuantity
          { commandId := command.id
            orderId := command.orderId
            status := if remaining.toRat = 0 then .filled else .partiallyFilled
            requestedQuantity := command.quantity
            filledQuantity := filledQuantity
            remainingQuantity := remaining
            fillPrice := some price
            fee := command.feePerUnit.mul filledQuantity
            slippageCost := command.slippagePerUnit.mul filledQuantity
            filledAt := some execution.bar.timestamp
            reasonCode := none
            sourceDigest := some execution.sourceDigest
            commandDigest := commandDigest }

/-- A receipt names the command, its order and its digest. -/
theorem fill_identity (command : PaperOrderCommand) (digest : Digest) (bar : Option PaperExecutionBar) :
    (fill command digest bar).commandId = command.id ∧ (fill command digest bar).orderId = command.orderId ∧
      (fill command digest bar).commandDigest = digest := by
  unfold fill
  split
  · exact ⟨rfl, rfl, rfl⟩
  · split
    · exact ⟨rfl, rfl, rfl⟩
    · split
      · exact ⟨rfl, rfl, rfl⟩
      · dsimp only
        split <;> exact ⟨rfl, rfl, rfl⟩

end AutoTrader.Paper
