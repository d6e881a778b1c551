import AutoTrader.Paper.Journal
import AutoTrader.Runtime.Program

/-! `PaperBrokerSubmitter`: the dispatch protocol on behalf of the internal paper broker. A
command is staged when it is sent and resolved by a later pass; each call of the journal runs in
a session of its own. -/

namespace AutoTrader.Paper

open AutoTrader.Domain AutoTrader.Execution AutoTrader.Trader AutoTrader.Runtime

private def invalidCommand (message : String) : PyError := ⟨.valueError, message⟩

/-- What the paper broker needs that an order command does not carry. -/
structure PaperAccount where
  accountAlias : String
  market : V6Market
  timeframe : Int
  feePerUnit : Decimal
  slippagePerUnit : Decimal
  bound : paperAccountBindings.lookup accountAlias = some market
  timeframe_pos : 0 < timeframe
  fee_nonneg : 0 ≤ feePerUnit.toRat
  slippage_nonneg : 0 ≤ slippagePerUnit.toRat

structure StagedSubmission where
  brokerOrderId : String
  deriving DecidableEq

def cancelled : String := "CANCELLED"

def replaced : String := "REPLACED"

/-! ### The targeted command -/

private def hexDigitValue (c : Char) : Option Nat :=
  if '0' ≤ c ∧ c ≤ '9' then some (c.toNat - 48)
  else if 'a' ≤ c ∧ c ≤ 'f' then some (c.toNat - 87)
  else if 'A' ≤ c ∧ c ≤ 'F' then some (c.toNat - 55)
  else none

/-- The digits of a numeral in base sixteen; a single underscore may stand between two. -/
private def hexNumeral : (afterDigit : Bool) → Nat → List Char → Option Nat
  | afterDigit, value, [] => if afterDigit then some value else none
  | afterDigit, value, c :: rest =>
    if c = '_' then if afterDigit then hexNumeral false value rest else none
    else (hexDigitValue c).bind fun d => hexNumeral true (16 * value + d) rest

/-- `int(text, 16)`. -/
private def intBase16 (text : List Char) : Option Int :=
  let trimmed := ((text.dropWhile isSpace).reverse.dropWhile isSpace).reverse
  let (negative, digits) := match trimmed with
    | '-' :: rest => (true, rest)
    | '+' :: rest => (false, rest)
    | rest => (false, rest)
  let magnitude := match digits with
    | '0' :: x :: '_' :: rest =>
      if x = 'x' ∨ x = 'X' then hexNumeral false 0 rest else hexNumeral false 0 digits
    | '0' :: x :: rest => if x = 'x' ∨ x = 'X' then hexNumeral false 0 rest else hexNumeral false 0 digits
    | _ => hexNumeral false 0 digits
  magnitude.map fun n => if negative then -(n : Int) else n

/-- `text.replace(word, "")`; `skip` characters of a word that was found are still to go. -/
private def removeWord (word : List Char) : (skip : Nat) → List Char → List Char
  | _, [] => []
  | skip + 1, _ :: rest => removeWord word skip rest
  | 0, c :: rest =>
    if word.isPrefixOf (c :: rest) then removeWord word (word.length - 1) rest
    else c :: removeWord word 0 rest

/-- `UUID(hex=text)`. -/
def uuidOfHex (text : List Char) : Option UUID :=
  let plain := removeWord ['u', 'u', 'i', 'd', ':'] 0 (removeWord ['u', 'r', 'n', ':'] 0 text)
  let bare := ((plain.dropWhile (· ∈ ['\x7b', '\x7d'])).reverse.dropWhile (· ∈ ['\x7b', '\x7d'])).reverse
  let digits := bare.filter (· ≠ '-')
  if digits.length ≠ 32 then none
  else (intBase16 digits).bind fun n =>
    if h : 0 ≤ n ∧ n.toNat < 16 ^ 32 then some ⟨n.toNat, h.2⟩ else none

/-- `paper_broker_order_id`. -/
def paperBrokerOrderId (commandId : UUID) : String :=
  "paper:" ++ String.ofList commandId.hex

/-- `_target_command_id`. -/
def targetCommandId (command : BrokerOrderCommand) : Except PyError UUID :=
  let unnamed := invalidCommand "a cancel or replace must name the paper order it targets"
  match command.targetBrokerOrderId with
  | none => .error unnamed
  | some target =>
    match target.toList with
    | 'p' :: 'a' :: 'p' :: 'e' :: 'r' :: ':' :: digits =>
      match uuidOfHex digits with
      | none => .error (invalidCommand "the targeted paper order id is not a uuid")
      | some id => .ok id
    | _ => .error unnamed

/-! ### The journal the submitter is given -/

/-- The calls of `SessionPaperJournal`, and the session in which a settlement resolves fills. -/
inductive PaperOp
  | loadReceipt (commandId : UUID)
  | stageCommand (command : PaperOrderCommand) (digest : Digest)
  | persistReceipt (receipt : PaperOrderReceipt)
  | unresolvedCommands (orderId : Option UUID)
  | stagedCommand (commandId : UUID)
  | voidAndStage (voided : PaperOrderReceipt) (staged : PaperOrderCommand) (digest : Digest)
  | settle

def PaperOp.Result : PaperOp → Type
  | loadReceipt _ => Option PaperOrderReceipt
  | unresolvedCommands _ => List PaperOrderCommand
  | stagedCommand _ => Option PaperOrderCommand
  | settle => Nat
  | _ => Unit

abbrev PaperAct := Action PyError PaperOp PaperOp.Result

section Submitter

variable (sha256 : String → Digest) (account : PaperAccount)

/-- `_paper_command`. The signal is one timeframe before the deadline of the command. -/
def paperCommand (command : BrokerOrderCommand) : Except PyError PaperOrderCommand :=
  PaperOrderTerms.command
    { id := command.id
      orderId := command.orderId
      accountAlias := account.accountAlias
      market := account.market
      side := command.side
      orderStyle := command.orderStyle
      quantity := command.quantity
      limitPrice := if command.orderStyle = .limit then command.limitPrice else none
      signalAt := command.notAfter - account.timeframe
      timeframe := account.timeframe
      feePerUnit := account.feePerUnit
      slippagePerUnit := account.slippagePerUnit
      triggerPrice := command.triggerPrice }

def submit (command : BrokerOrderCommand) : PaperAct StagedSubmission := do
  if command.commandType ≠ .submit then throw (invalidCommand "the paper broker only accepts SUBMIT commands")
  let paper ← Action.ofExcept (paperCommand account command)
  Action.perform (PaperOp.stageCommand paper (paper.commandDigest sha256))
  pure ⟨paperBrokerOrderId paper.id⟩

/-- `_voided_receipt`. -/
def voidedReceipt (command : BrokerOrderCommand) (reason : String) : PaperAct PaperOrderReceipt := do
  let target ← Action.ofExcept (targetCommandId command)
  match ← Action.perform (PaperOp.stagedCommand target) with
  | none => throw ⟨.paperCommandNotStagedError, "the command to void is not staged"⟩
  | some staged => pure (noFill staged (staged.commandDigest sha256) reason none)

def cancel (command : BrokerOrderCommand) : PaperAct StagedSubmission := do
  if command.commandType ≠ .cancel then throw (invalidCommand "cancel needs a CANCEL command")
  let receipt ← voidedReceipt sha256 command cancelled
  Action.perform (PaperOp.persistReceipt receipt)
  pure ⟨paperBrokerOrderId receipt.commandId⟩

def replace (command : BrokerOrderCommand) : PaperAct StagedSubmission := do
  if command.commandType ≠ .replace then throw (invalidCommand "replace needs a REPLACE command")
  let paper ← Action.ofExcept (paperCommand account command)
  let voided ← voidedReceipt sha256 command replaced
  Action.perform (PaperOp.voidAndStage voided paper (paper.commandDigest sha256))
  pure ⟨paperBrokerOrderId paper.id⟩

def recoverSubmit (command : BrokerOrderCommand) : PaperAct (Option StagedSubmission) := do
  let paper ← Action.ofExcept (paperCommand account command)
  let receipt ← Action.perform (PaperOp.loadReceipt paper.id)
  let staged ← Action.perform (PaperOp.unresolvedCommands (some command.orderId))
  if receipt.isNone && staged.isEmpty then pure none
  else pure (some ⟨paperBrokerOrderId paper.id⟩)

end Submitter

end AutoTrader.Paper
