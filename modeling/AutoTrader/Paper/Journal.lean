import AutoTrader.Paper.Orders
import AutoTrader.Runtime.Rows

/-! The journal of paper orders: one row a command, with the receipt once the command is
resolved. Each method runs in a session; an exception drops what it wrote. -/

namespace AutoTrader.Paper

open AutoTrader.Domain AutoTrader.Execution AutoTrader.Trader AutoTrader.Runtime

private def invalidRow {α : Type} (message : String) : Except PyError α := .error ⟨.valueError, message⟩

private def refused {α : Type} (constraint : String) : Except PyError α := .error ⟨.databaseError, constraint⟩

/-- A `NUMERIC(38,18)` column under the strict mode of the server. -/
def storeDecimal (d : Decimal) : Except PyError Decimal :=
  if (10 : ℚ) ^ 20 - 1 / (2 * 10 ^ 18) ≤ |d.toRat| then .error ⟨.databaseError, "Out of range value for column"⟩
  else .ok d.column

/-- A nullable column. -/
def storeOptional (d : Option Decimal) : Except PyError (Option Decimal) :=
  match d with
  | none => .ok none
  | some d => (storeDecimal d).map some

/-- The receipt columns of a row. -/
structure PaperSettlement where
  status : PaperOrderStatus
  filledQuantity : Decimal
  remainingQuantity : Decimal
  fillPrice : Option Decimal
  fee : Decimal
  slippageCost : Decimal
  filledAt : Option Instant
  reasonCode : Option String
  sourceDigest : Option Digest
  deriving DecidableEq

/-- `ck_exec_paper_order_receipt` and `ck_exec_paper_order_fill`. A comparison with a missing
price refuses nothing. -/
def PaperSettlement.Fits (quantity : Decimal) (s : PaperSettlement) : Prop :=
  (0 ≤ s.filledQuantity.toRat ∧ 0 ≤ s.remainingQuantity.toRat ∧ 0 ≤ s.fee.toRat ∧ 0 ≤ s.slippageCost.toRat ∧
      s.filledQuantity.toRat + s.remainingQuantity.toRat = quantity.toRat) ∧
    ((s.status = .noFill ∧ s.fillPrice = none ∧ s.filledAt = none ∧ s.reasonCode ≠ none ∧
        s.filledQuantity.toRat = 0) ∨
      ((s.status = .filled ∨ s.status = .partiallyFilled) ∧ (∀ price ∈ s.fillPrice, 0 < price.toRat) ∧
        s.filledAt ≠ none ∧ 0 < s.filledQuantity.toRat))

instance decidableFits (quantity : Decimal) (s : PaperSettlement) : Decidable (s.Fits quantity) :=
  inferInstanceAs (Decidable (_ ∧ _))

/-- A row of `exec_paper_order` with its check constraints. -/
structure PaperOrderRow where
  commandId : UUID
  orderId : UUID
  accountAlias : String
  market : V6Market
  side : Side
  orderStyle : OrderStyle
  quantity : Decimal
  limitPrice : Option Decimal
  triggerPrice : Option Decimal
  signalAt : Instant
  timeframeSeconds : Int
  feePerUnit : Decimal
  slippagePerUnit : Decimal
  commandDigest : Digest
  stagedAt : Instant
  settlement : Option PaperSettlement
  terms : 0 < quantity.toRat ∧ 0 < timeframeSeconds ∧ 0 ≤ feePerUnit.toRat ∧ 0 ≤ slippagePerUnit.toRat
  receipt : ∀ s ∈ settlement, s.Fits quantity
  deriving DecidableEq

namespace PaperOrderRow

/-- `status IS NULL`. -/
def unresolved (row : PaperOrderRow) : Bool := row.settlement.isNone

/-- `_to_command`. -/
def toCommand (row : PaperOrderRow) : Except PyError PaperOrderCommand :=
  PaperOrderTerms.command
    { id := row.commandId
      orderId := row.orderId
      accountAlias := row.accountAlias
      market := row.market
      side := row.side
      orderStyle := row.orderStyle
      quantity := row.quantity
      limitPrice := row.limitPrice
      triggerPrice := row.triggerPrice
      signalAt := row.signalAt
      timeframe := row.timeframeSeconds * 1000000
      feePerUnit := row.feePerUnit
      slippagePerUnit := row.slippagePerUnit }

/-- `_to_receipt`, of a resolved row. -/
def toReceipt (row : PaperOrderRow) (s : PaperSettlement) : PaperOrderReceipt where
  commandId := row.commandId
  orderId := row.orderId
  status := s.status
  requestedQuantity := row.quantity
  filledQuantity := s.filledQuantity
  remainingQuantity := s.remainingQuantity
  fillPrice := s.fillPrice
  fee := s.fee
  slippageCost := s.slippageCost
  filledAt := s.filledAt
  reasonCode := s.reasonCode
  sourceDigest := s.sourceDigest
  commandDigest := row.commandDigest

end PaperOrderRow

/-- The row of a new command, as its columns give it back. -/
def stagedRow (command : PaperOrderCommand) (digest : Digest) : Except PyError PaperOrderRow := do
  let quantity ← storeDecimal command.quantity
  let limitPrice ← storeOptional command.limitPrice
  let triggerPrice ← storeOptional command.triggerPrice
  let feePerUnit ← storeDecimal command.feePerUnit
  let slippagePerUnit ← storeDecimal command.slippagePerUnit
  let timeframeSeconds := command.timeframe / 1000000
  if h : 0 < quantity.toRat ∧ 0 < timeframeSeconds ∧ 0 ≤ feePerUnit.toRat ∧ 0 ≤ slippagePerUnit.toRat then
    .ok
      { commandId := command.id
        orderId := command.orderId
        accountAlias := command.accountAlias
        market := command.market
        side := command.side
        orderStyle := command.orderStyle
        quantity := quantity
        limitPrice := limitPrice
        triggerPrice := triggerPrice
        signalAt := command.signalAt
        timeframeSeconds := timeframeSeconds
        feePerUnit := feePerUnit
        slippagePerUnit := slippagePerUnit
        commandDigest := digest
        stagedAt := command.signalAt
        settlement := none
        terms := h
        receipt := fun _ hs => absurd hs (Option.not_mem_none _) }
  else refused "ck_exec_paper_order_terms"

/-- The row with a receipt written to it. -/
def PaperOrderRow.settle (row : PaperOrderRow) (receipt : PaperOrderReceipt) : Except PyError PaperOrderRow := do
  let filledQuantity ← storeDecimal receipt.filledQuantity
  let remainingQuantity ← storeDecimal receipt.remainingQuantity
  let fillPrice ← storeOptional receipt.fillPrice
  let fee ← storeDecimal receipt.fee
  let slippageCost ← storeDecimal receipt.slippageCost
  let s : PaperSettlement :=
    { status := receipt.status
      filledQuantity := filledQuantity
      remainingQuantity := remainingQuantity
      fillPrice := fillPrice
      fee := fee
      slippageCost := slippageCost
      filledAt := receipt.filledAt
      reasonCode := receipt.reasonCode
      sourceDigest := receipt.sourceDigest }
  if h : s.Fits row.quantity then
    .ok { row with
      settlement := some s
      receipt := fun _ hs => Option.mem_some.mp hs ▸ h }
  else refused "ck_exec_paper_order_receipt"

/-! ### The journal -/

abbrev Journal := List PaperOrderRow

namespace Journal

def row? (j : Journal) (commandId : UUID) : Option PaperOrderRow :=
  Rows.lookup PaperOrderRow.commandId j commandId

/-- The commands of an order that may still fill. -/
def working (j : Journal) (orderId : UUID) : List PaperOrderRow :=
  j.filter fun row => row.unresolved && row.orderId = orderId

/-- `load_receipt`. -/
def loadReceipt (j : Journal) (commandId : UUID) : Option PaperOrderReceipt :=
  (j.row? commandId).bind fun row => row.settlement.map row.toReceipt

/-- `stage_command`. A command staged again under the same digest is left as it is. -/
def stageCommand (j : Journal) (command : PaperOrderCommand) (digest : Digest) : Except PyError Journal :=
  match j.row? command.id with
  | some existing =>
    if existing.commandDigest ≠ digest then invalidRow "paper command identity payload collision" else .ok j
  | none => (stagedRow command digest).map fun row => j ++ [row]

/-- `persist_receipt`. A resolved row is settled, and the method returns without a word. -/
def persistReceipt (j : Journal) (receipt : PaperOrderReceipt) : Except PyError Journal :=
  match j.row? receipt.commandId with
  | none => invalidRow "a receipt requires the staged paper command"
  | some row =>
    if row.commandDigest ≠ receipt.commandDigest then invalidRow "paper receipt does not match the staged command"
    else if row.settlement.isSome then .ok j
    else (row.settle receipt).map fun settled =>
      Rows.update PaperOrderRow.commandId j receipt.commandId fun _ => settled

/-- `staged_command`: the command as sent, whether or not it is resolved. -/
def stagedCommand (j : Journal) (commandId : UUID) : Except PyError (Option PaperOrderCommand) :=
  match j.row? commandId with
  | none => .ok none
  | some row => row.toCommand.map some

/-- `void_and_stage`, in one transaction. -/
def voidAndStage (j : Journal) (voided : PaperOrderReceipt) (staged : PaperOrderCommand) (digest : Digest) :
    Except PyError Journal := do
  let persisted ← j.persistReceipt voided
  persisted.stageCommand staged digest

/-- `unresolved_commands`. -/
def unresolvedCommands (j : Journal) (orderId : Option UUID) : Except PyError (List PaperOrderCommand) :=
  (j.filter fun row => row.unresolved && orderId.all (row.orderId = ·)).mapM PaperOrderRow.toCommand

end Journal

/-! ### The broker over the journal -/

section Broker

variable (sha256 : String → Digest)

/-- `InternalPaperBroker.submit`, with the bar its market data answers. -/
def brokerSubmit (j : Journal) (command : PaperOrderCommand)
    (nextBar : PaperOrderCommand → Except PyError (Option PaperExecutionBar)) :
    Except PyError (PaperOrderReceipt × Journal) :=
  let digest := command.commandDigest sha256
  match j.loadReceipt command.id with
  | some existing =>
    if existing.commandDigest ≠ digest then invalidRow "paper command identity payload collision"
    else .ok (existing, j)
  | none => do
    let staged ← j.stageCommand command digest
    let executionBar ← nextBar command
    let receipt := fill command digest executionBar
    let persisted ← staged.persistReceipt receipt
    pure (receipt, persisted)

/-- The loop of `resolve_paper_fills` over the commands it read. -/
def resolveEach (barAt nextBar : PaperOrderCommand → Except PyError (Option PaperExecutionBar)) :
    Journal → List PaperOrderCommand → Except PyError (List PaperOrderReceipt × Journal)
  | j, [] => .ok ([], j)
  | j, command :: commands => do
    match ← barAt command with
    | none => resolveEach barAt nextBar j commands
    | some _ =>
      let (receipt, submitted) ← brokerSubmit sha256 j command nextBar
      let (receipts, resolved) ← resolveEach barAt nextBar submitted commands
      pure (receipt :: receipts, resolved)

/-- `resolve_paper_fills`. The bars are read twice, once to see whether there is one and once
by the broker. -/
def resolvePaperFills (barAt nextBar : PaperOrderCommand → Except PyError (Option PaperExecutionBar))
    (j : Journal) (orderId : Option UUID) : Except PyError (List PaperOrderReceipt × Journal) := do
  let commands ← j.unresolvedCommands orderId
  resolveEach sha256 barAt nextBar j commands

end Broker

end AutoTrader.Paper
