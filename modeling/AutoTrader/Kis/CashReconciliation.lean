import AutoTrader.Kis.OrderAttribution

/-! Reconciliation of a KIS cash account. The provider's daily orders are read page by page, the account's facts in
between, and the pages once more; what nothing blocks is complete, and is persisted. -/

namespace AutoTrader.Kis

open AutoTrader.Binance AutoTrader.Dispatch AutoTrader.Domain AutoTrader.Execution

/-! ### Records -/

/-- `_utc_second`. -/
def requireUtcSecond (value : Instant) (name : String) : Except PyError Unit :=
  require (wholeSecond value) (valueError (name ++ " must be exact whole-second UTC"))

structure KisCashHolding where
  symbol : String
  totalQuantity : ℚ
  sellableQuantity : ℚ

/-- `KisCashHolding.__post_init__`. -/
def KisCashHolding.validate (holding : KisCashHolding) : Except PyError Unit := do
  requireDigits holding.symbol 6 "holding symbol"
  requireNonNegativeInteger holding.totalQuantity "total_quantity"
  requireNonNegativeInteger holding.sellableQuantity "sellable_quantity"
  require (decide (0 < holding.totalQuantity) && decide (holding.sellableQuantity ≤ holding.totalQuantity))
    (valueError "KIS cash holding quantities are invalid")

structure KisAccountFacts where
  bindingId : UUID
  observedAt : Instant
  cashBuyingPower : ℚ
  holdings : List KisCashHolding
  sourceDigest : Digest

/-- `KisAccountFacts.__post_init__`. -/
def KisAccountFacts.validate (account : KisAccountFacts) : Except PyError Unit := do
  requireVersion7 account.bindingId "binding_id"
  requireUtcSecond account.observedAt "observed_at"
  requireNonNegativeInteger account.cashBuyingPower "cash_buying_power"
  account.holdings.forM KisCashHolding.validate
  require (decide ((account.holdings.map (·.symbol)).Pairwise (· < ·)))
    (valueError "KIS cash holdings must be unique and sorted")

structure KisDailyOrderPage where
  bindingId : UUID
  providerTradeDate : Int
  orders : List KisDailyOrder
  nextCursor : Option String

/-- `KisDailyOrderPage.__post_init__`. -/
def KisDailyOrderPage.validate (page : KisDailyOrderPage) : Except PyError Unit := do
  requireVersion7 page.bindingId "binding_id"
  page.orders.forM KisDailyOrder.validate
  match page.nextCursor with
  | none => .ok ()
  | some cursor =>
    require (cursor ≠ "" && cursor.length ≤ 256 && !cursor.toList.contains '\n' && !cursor.toList.contains '\r')
      (valueError "KIS daily order continuation cursor is invalid")

/-- A page that could be built. -/
structure BuiltPage extends KisDailyOrderPage where
  valid : toKisDailyOrderPage.validate = .ok ()

/-- Facts that could be built. -/
structure BuiltFacts extends KisAccountFacts where
  valid : toKisAccountFacts.validate = .ok ()

inductive KisCashReconciliationStatus
  | complete
  | nonPassing
  deriving DecidableEq

/-- What the digest of a result is taken of. -/
structure KisCashReconciliationContent where
  bindingId : UUID
  asOf : Instant
  providerTradeDate : Int
  status : KisCashReconciliationStatus
  blockers : List String
  pageCount : ℕ
  orders : List KisDailyOrder
  cashBuyingPower : ℚ
  holdings : List KisCashHolding
  accountSourceDigest : Option Digest
  accountObservedAt : Option Instant

structure KisCashReconciliationResult extends KisCashReconciliationContent where
  reconciliationId : UUID
  resultDigest : Digest

/-- `_PAGE_LIMIT`. -/
def pageLimit : ℕ := 10

/-- The order was filled, and has no fee. -/
def KisDailyOrder.feeMissing (order : KisDailyOrder) : Bool :=
  decide (0 < order.cumulativeFilledQuantity) && order.feeAmount.isNone

section Reconciliation

variable (digestOf : KisCashReconciliationContent → Digest)

/-- `KisCashReconciliationResult.__post_init__`. -/
def KisCashReconciliationResult.validate (result : KisCashReconciliationResult) : Except PyError Unit := do
  requireVersion7 result.reconciliationId "reconciliation_id"
  requireVersion7 result.bindingId "binding_id"
  requireUtcSecond result.asOf "as_of"
  require (result.blockers.all (· ≠ "")) ⟨.typeError, "blockers must be exact stable codes"⟩
  match result.status with
  | .complete =>
    require (result.blockers.isEmpty && result.accountSourceDigest.isSome && result.accountObservedAt.isSome &&
        !result.orders.any KisDailyOrder.feeMissing)
      (valueError "complete KIS reconciliation has blockers")
  | .nonPassing => require (!result.blockers.isEmpty) (valueError "non-passing KIS reconciliation requires blockers")
  require (result.pageCount ≤ pageLimit) (valueError "page_count is invalid")
  requireNonNegativeInteger result.cashBuyingPower "cash_buying_power"
  match result.accountObservedAt with
  | none => .ok ()
  | some observedAt => requireUtcSecond observedAt "account_observed_at"
  require (result.accountSourceDigest.isNone = result.accountObservedAt.isNone)
    (valueError "account fact time and digest must be present together")
  require (result.resultDigest = digestOf result.toKisCashReconciliationContent)
    (valueError "KIS reconciliation result digest is invalid")

/-! ### The source and the store -/

variable {σ : Type}

/-- An `Exception`. What cancels a task is none, and ends the reconciliation where it is. -/
structure Failure where
  error : PyError
  ordinary : error.kind.isControl = false

/-- A `KisCashReconciliationSource`: what it answers may depend on all that happened before. -/
structure KisCashReconciliationSource (σ : Type) where
  readDailyOrderPage : UUID → Int → Option String → σ → Except Failure BuiltPage × σ
  readAccountFacts : UUID → Instant → σ → Except Failure BuiltFacts × σ

/-- `persist_complete`. -/
abbrev KisCashReconciliationStore (σ : Type) := KisCashReconciliationResult → σ → Except PyError Unit × σ

/-! ### A pass over the pages -/

/-- What `_collect_order_pass` returns. -/
structure OrderPass where
  orders : List KisDailyOrder
  pageCount : ℕ
  blocker : Option String

variable (source : KisCashReconciliationSource σ) (bindingId : UUID) (providerTradeDate : Int)

/-- The loop of `_collect_order_pass`, with so many rounds left. -/
def collectPages : ℕ → List String → Option String → List KisDailyOrder → ℕ → σ → OrderPass × σ
  | 0, _, _, orders, pageCount, s => (⟨orders, pageCount, some "PROVIDER_PAGE_LIMIT_EXHAUSTED"⟩, s)
  | rounds + 1, seenCursors, cursor, orders, pageCount, s =>
    match source.readDailyOrderPage bindingId providerTradeDate cursor s with
    | (.error _, s) => (⟨orders, pageCount, some "PROVIDER_PAGE_FAILURE"⟩, s)
    | (.ok page, s) =>
      if page.bindingId ≠ bindingId then (⟨orders, pageCount + 1, some "ACCOUNT_SCOPE_MISMATCH"⟩, s)
      else if page.providerTradeDate ≠ providerTradeDate then
        (⟨orders, pageCount + 1, some "PROVIDER_DAY_MISMATCH"⟩, s)
      else if page.orders.any fun order => decide (order.bindingId ≠ bindingId) then
        (⟨orders, pageCount + 1, some "ORDER_ACCOUNT_SCOPE_MISMATCH"⟩, s)
      else
        match page.nextCursor with
        | none =>
          if ((orders ++ page.orders).map KisDailyOrder.identity).Nodup then
            (⟨orders ++ page.orders, pageCount + 1, none⟩, s)
          else (⟨orders ++ page.orders, pageCount + 1, some "DUPLICATE_PROVIDER_ORDER_IDENTITY"⟩, s)
        | some next =>
          if next ∈ seenCursors then (⟨orders ++ page.orders, pageCount + 1, some "REPEATED_PROVIDER_CURSOR"⟩, s)
          else collectPages rounds (next :: seenCursors) (some next) (orders ++ page.orders) (pageCount + 1) s

/-- `_collect_order_pass`. -/
def collectOrderPass (s : σ) : OrderPass × σ :=
  collectPages source bindingId providerTradeDate pageLimit [] none [] 0 s

/-! ### The reconciliation -/

/-- `_ACCOUNT_FACT_MAX_AGE`. -/
def accountFactMaxAge : Instant := 30000000

variable (asOf : Instant)

/-- What is wrong with the facts of the account. -/
def accountBlockers (account : KisAccountFacts) : List String :=
  (if account.bindingId ≠ bindingId then ["ACCOUNT_FACT_SCOPE_MISMATCH"] else []) ++
    if account.observedAt > asOf then ["ACCOUNT_FACT_TIME_INVALID"]
    else if asOf - account.observedAt > accountFactMaxAge then ["ACCOUNT_FACT_STALE"] else []

/-- The facts of the account, read when nothing blocks yet. -/
def readAccount (blockers : List String) (s : σ) : (Option KisAccountFacts × List String) × σ :=
  if blockers.isEmpty then
    match source.readAccountFacts bindingId asOf s with
    | (.error _, s) => ((none, ["ACCOUNT_FACT_FAILURE"]), s)
    | (.ok account, s) => ((some account.toKisAccountFacts, accountBlockers bindingId asOf account.toKisAccountFacts), s)
  else ((none, blockers), s)

/-- The second pass, when nothing blocks yet. -/
def readAgain (first : OrderPass) (blockers : List String) (s : σ) : List String × σ :=
  if blockers.isEmpty then
    match collectOrderPass source bindingId providerTradeDate s with
    | (second, s) =>
      match second.blocker with
      | some blocker => ([blocker], s)
      | none =>
        if second.pageCount ≠ first.pageCount ∨ second.orders ≠ first.orders then (["UNSTABLE_ORDER_SNAPSHOT"], s)
        else ([], s)
  else (blockers, s)

/-- The fees, when nothing blocks yet. -/
def feeBlockers (orders : List KisDailyOrder) (blockers : List String) : List String :=
  if blockers.isEmpty && orders.any KisDailyOrder.feeMissing then ["FILL_FEE_EVIDENCE_MISSING"] else blockers

/-- The content `_build_result` gives a result. -/
def resultContent (blockers : List String) (pageCount : ℕ) (orders : List KisDailyOrder)
    (account : Option KisAccountFacts) : KisCashReconciliationContent where
  bindingId := bindingId
  asOf := asOf
  providerTradeDate := providerTradeDate
  status := if blockers.isEmpty then .complete else .nonPassing
  blockers := blockers
  pageCount := pageCount
  orders := orders
  cashBuyingPower := (account.map (·.cashBuyingPower)).getD 0
  holdings := (account.map (·.holdings)).getD []
  accountSourceDigest := account.map (·.sourceDigest)
  accountObservedAt := account.map (·.observedAt)

/-- `_build_result`. -/
def buildResult (reconciliationId : UUID) (blockers : List String) (pageCount : ℕ) (orders : List KisDailyOrder)
    (account : Option KisAccountFacts) : Except PyError KisCashReconciliationResult := do
  let content := resultContent bindingId providerTradeDate asOf blockers pageCount orders account
  let result : KisCashReconciliationResult :=
    { content with
      reconciliationId := reconciliationId
      resultDigest := digestOf content }
  result.validate digestOf
  pure result

/-- What `new_uuid7` returns. -/
structure GeneratedId where
  id : UUID
  version7 : id.isVersion7 = true

/-- What a reconciliation returns, and the results it had persisted. -/
structure Reconciled (σ : Type) where
  outcome : Except PyError KisCashReconciliationResult
  persisted : List KisCashReconciliationResult
  world : σ

/-- The end of `reconcile_kis_cash`: a complete result is persisted. -/
def persistResult (store : KisCashReconciliationStore σ) (outcome : Except PyError KisCashReconciliationResult) (s : σ) :
    Reconciled σ :=
  match outcome with
  | .error e => ⟨.error e, [], s⟩
  | .ok result =>
    if result.status = .complete then
      match store result s with
      | (answer, s) => ⟨answer.map fun _ => result, [result], s⟩
    else ⟨.ok result, [], s⟩

/-- The checks of the arguments of `reconcile_kis_cash`. -/
def checkArguments : Except PyError Unit := do
  requireVersion7 bindingId "binding_id"
  requireUtcSecond asOf "as_of"

/-- `reconcile_kis_cash`, with the identifier that is generated. -/
def reconcileKisCash (store : KisCashReconciliationStore σ) (reconciliationId : GeneratedId) (s : σ) : Reconciled σ :=
  match checkArguments bindingId asOf with
  | .error e => ⟨.error e, [], s⟩
  | .ok () =>
    let tradeDate := kstDate asOf
    match collectOrderPass source bindingId tradeDate s with
    | (first, s) =>
      match readAccount source bindingId asOf first.blocker.toList s with
      | ((account, blockers), s) =>
        match readAgain source bindingId tradeDate first blockers s with
        | (blockers, s) =>
          persistResult store (buildResult digestOf bindingId tradeDate asOf reconciliationId.id
            (feeBlockers first.orders blockers) first.pageCount first.orders account) s

end Reconciliation

end AutoTrader.Kis
