import AutoTrader.Trader.Journal
import AutoTrader.Runtime.Runs

/-! How the composition creates orders, and what the Binance adapter makes of the commands.
The context names the command before the order exists; the store builds the command a
second time and draws its id anew. -/

namespace AutoTrader.Trader

open AutoTrader.Domain AutoTrader.Execution AutoTrader.Binance AutoTrader.Runtime

structure ExecutionAccount where
  account : AccountCandidate
  runtimeInstanceId : UUID
  fencingToken : Nat

/-- `_RESERVATION_WINDOW`, five minutes. -/
def reservationWindow : Int := 300000000

/-- `MARKET_TIME_IN_FORCE`. -/
def marketTimeInForce : String := "NONE"

/-- The context of a creation: its client order id names the command. -/
def submissionContext (account : ExecutionAccount) (commandId : UUID) (authorityClass : AuthorityClass)
    (timeInForce : String) (now : Instant) : OrderSubmissionContext where
  brokerClientOrderId := clientOrderIdText commandId
  ownerRuntimeInstanceId := some account.runtimeInstanceId
  fencingToken := account.fencingToken
  notAfter := now + reservationWindow
  timeInForce := timeInForce
  authorityClass := authorityClass
  createdAt := now
  commandId := some commandId

/-- The id the context named, and the command the journal holds for the order. -/
structure Created where
  namedId : UUID
  command : PersistedOrderCommand
  deriving DecidableEq

section Creation

variable (ids : Nat → UUID) (sha256 : String → Digest)

/-- What entries, protective orders, exits and adds end with: a fresh command id, the
context that names it, the order service, and the command read back. -/
def createNamedOrder (account : ExecutionAccount) (decision : RiskDecision) (intent : OrderIntent)
    (authorityClass : AuthorityClass) (timeInForce : String) (now : Instant) :
    JournalAct (Option Created) := do
  let commandId ← newUuid7 ids
  liftM (requireUuid7 commandId "command_id")
  let submission := submissionContext account commandId authorityClass timeInForce now
  liftM submission.validate
  let order ← createFromRiskDecision ids sha256 decision intent submission
  let j ← get
  pure (order.bind fun order => (j.commandOf? order.id).map fun command => ⟨commandId, command⟩)

/-- `ProtectionPlan`. -/
structure ProtectionPlan where
  positionId : UUID
  instrumentId : UUID
  entrySide : Side
  quantity : Decimal
  structuralStop : Decimal

/-- `STRUCTURAL_STOP`. -/
def structuralStopReason : String := "STRUCTURAL_STOP"

/-- `EMERGENCY_CLOSE`. -/
def emergencyCloseReason : String := "EMERGENCY_CLOSE"

/-- `RiskReservationService.persist_approval` of a reduction, whose reservation is zero
and consumed already: only the budget rows can be missing. -/
def persistReduction : JournalAct Unit := fun j =>
  if j.anchored then .ok ((), j)
  else .error ⟨.valueError, "locked GLOBAL and ACCOUNT budget anchors are required"⟩

/-- An order that only ever closes, behind a position: its intent, the reduction and the
order. `create_protective_order` and `_create_exit_order` are this. -/
def createReducingOrder (account : ExecutionAccount) (request : ProtectionRequest) (timeInForce : String)
    (now : Instant) : JournalAct (Option Created) := do
  let intentId ← newUuid7 ids
  let intent ← liftM (fromProtection intentId request account.account)
  let stored ← createOrGet
    { id := intent.id
      idempotencyKey := intent.idempotencyKey
      canonicalPayloadHash := intentHash sha256 intent
      intentType := intent.intentType
      strategySignalId := none
      protectionPositionId := some request.lockedPositionId
      protectionReasonCode := some request.reasonCode }
  let decisionId ← newUuid7 ids
  persistReduction
  let decision : RiskDecision :=
    { id := decisionId
      orderIntentId := stored.id
      outcome := .reduce
      approvedQuantity := request.terms.requestedQuantity
      approvedLimitPrice := none }
  createNamedOrder ids sha256 account decision intent .submitStrictReduction timeInForce now

/-- `create_protective_order`. A trigger that is not given is the structural stop. -/
def createProtectiveOrder (account : ExecutionAccount) (plan : ProtectionPlan) (now : Instant)
    (reasonCode : String) (intentType : IntentType) (triggerPrice : Option Decimal)
    (quote : Option MarketQuote) (timeInForce : String) : JournalAct (Option Created) :=
  createReducingOrder ids sha256 account
    { lockedPositionId := plan.positionId
      reasonCode := reasonCode
      instrumentId := plan.instrumentId
      intentType := intentType
      side := plan.entrySide.opposite
      orderStyle := .market
      terms :=
        { requestedQuantity := plan.quantity
          limitPrice := none
          triggerPrice := some (triggerPrice.getD plan.structuralStop) }
      quote := quote }
    timeInForce now

/-- `create_emergency_close_order`, with the quote its source gave. -/
def createEmergencyCloseOrder (account : ExecutionAccount) (plan : ProtectionPlan) (quote : MarketQuote)
    (now : Instant) : JournalAct (Option Created) :=
  createProtectiveOrder ids sha256 account plan now emergencyCloseReason .exit none (some quote) "NONE"

/-- One creation: any approved decision, or a closing order behind a position. -/
inductive CreateCall
  | approved (account : ExecutionAccount) (decision : RiskDecision) (intent : OrderIntent)
      (authorityClass : AuthorityClass) (timeInForce : String) (now : Instant)
  | reducing (account : ExecutionAccount) (request : ProtectionRequest) (timeInForce : String)
      (now : Instant)

def CreateCall.act : CreateCall → JournalAct (Option Created)
  | approved account decision intent authorityClass timeInForce now =>
    createNamedOrder ids sha256 account decision intent authorityClass timeInForce now
  | reducing account request timeInForce now =>
    createReducingOrder ids sha256 account request timeInForce now

/-- A session commits when the call returned and drops everything otherwise. -/
def Journal.after (j : Journal) (call : CreateCall) : Journal :=
  match call.act ids sha256 j with
  | .ok (_, j') => j'
  | .error _ => j

def Journal.empty (anchored : Bool) : Journal := ⟨[], [], [], anchored, 0⟩

end Creation

/-! ### Two ids for one command -/

variable {ids : Nat → UUID} {sha256 : String → Digest}

/-- Every command was drawn an id of its own, after the id its client order id names. -/
def Named (ids : Nat → UUID) (sha256 : String → Digest) (j : Journal) : Prop :=
  ∀ row ∈ j.commands, ∃ m n, m < n ∧ n < j.drawn ∧
    row.id = ids n ∧ row.brokerClientOrderId = clientOrderIdText (ids m) ∧
    ∃ payload, row.canonicalPayloadHash = sha256 (canonicalJson payload)

theorem Named.extends {j j' : Journal} {m : Nat} (h : Named ids sha256 j)
    (hext : Extends (CreatedUnder ids sha256 (clientOrderIdText (ids m))) j j') (hm : m < j.drawn) :
    Named ids sha256 j' := by
  intro row hrow
  rcases hext.commands row hrow with hold | hnew
  · obtain ⟨k, n, hkn, hn, hrest⟩ := h row hold
    have hdrawn := hext.drawn
    exact ⟨k, n, hkn, by omega, hrest⟩
  · obtain ⟨n, hlow, hup, hid⟩ := hnew.id
    exact ⟨m, n, by omega, hup, hid, hnew.clientOrderId, hnew.hash⟩

theorem Named.sameCommands {j j' : Journal} (h : Named ids sha256 j) (hcommands : j'.commands = j.commands)
    (hdrawn : j.drawn ≤ j'.drawn) : Named ids sha256 j' := by
  intro row hrow
  obtain ⟨m, n, hmn, hn, hrest⟩ := h row (hcommands ▸ hrow)
  exact ⟨m, n, hmn, by omega, hrest⟩

theorem createFromRiskDecision_extends {decision : RiskDecision} {intent : OrderIntent}
    {submission : OrderSubmissionContext} {commandId : UUID} {j j' : Journal} {order : Option Order}
    (hid : submission.commandId = some commandId)
    (h : createFromRiskDecision ids sha256 decision intent submission j = .ok (order, j')) :
    Extends (CreatedUnder ids sha256 submission.brokerClientOrderId) j j' := by
  unfold createFromRiskDecision at h
  split at h
  · cases h
    exact .refl _
  obtain ⟨_, j₁, hagree, h⟩ := journal_bind_ok.mp h
  obtain ⟨orderId, j₂, hdraw, h⟩ := journal_bind_ok.mp h
  obtain ⟨_, j₃, hvalid, h⟩ := journal_bind_ok.mp h
  obtain ⟨freshId, j₄, hchosen, h⟩ := journal_bind_ok.mp h
  obtain ⟨command, j₅, hcreate, h⟩ := journal_bind_ok.mp h
  obtain ⟨stored, j₆, hstore, h⟩ := journal_bind_ok.mp h
  cases h
  obtain ⟨-, rfl⟩ := journal_lift_ok.mp hagree
  obtain ⟨rfl, rfl⟩ := newUuid7_ok hdraw
  obtain ⟨-, rfl⟩ := journal_lift_ok.mp hvalid
  have hsame : j₄ = { j₁ with drawn := j₁.drawn + 1 } := by
    simp only [chosenId, hid] at hchosen
    cases hchosen
    rfl
  obtain ⟨hcreated, rfl⟩ := journal_lift_ok.mp hcreate
  have hclient : command.brokerClientOrderId = submission.brokerClientOrderId := (create_ok hcreated).2.1
  have hext := createApprovedOnce_extends hstore
  rw [hclient, hsame] at hext
  have hdrawn : Extends (CreatedUnder ids sha256 submission.brokerClientOrderId) j₁
      { j₁ with drawn := j₁.drawn + 1 } := ⟨by simp, fun _ hrow => .inl hrow⟩
  exact hdrawn.trans CreatedUnder.mono hext

/-- A creation keeps the ids apart, and hands back a command of the journal. -/
theorem createNamedOrder_named {account : ExecutionAccount} {decision : RiskDecision} {intent : OrderIntent}
    {authorityClass : AuthorityClass} {timeInForce : String} {now : Instant} {j j' : Journal}
    {created : Option Created} (hj : Named ids sha256 j)
    (h : createNamedOrder ids sha256 account decision intent authorityClass timeInForce now j =
      .ok (created, j')) :
    Named ids sha256 j' ∧ ∀ c, created = some c → c.command ∈ j'.commands := by
  obtain ⟨commandId, j₁, hdraw, h⟩ := journal_bind_ok.mp h
  obtain ⟨_, j₂, hversion, h⟩ := journal_bind_ok.mp h
  obtain ⟨_, j₃, hvalid, h⟩ := journal_bind_ok.mp h
  obtain ⟨order, j₄, hcreate, h⟩ := journal_bind_ok.mp h
  obtain ⟨j₅, j₆, hget, h⟩ := journal_bind_ok.mp h
  cases hget
  cases h
  obtain ⟨-, rfl⟩ := journal_lift_ok.mp hversion
  obtain ⟨-, rfl⟩ := journal_lift_ok.mp hvalid
  obtain ⟨rfl, rfl⟩ := newUuid7_ok hdraw
  have hext := createFromRiskDecision_extends rfl hcreate
  have hbase : Named ids sha256 { j with drawn := j.drawn + 1 } := hj.sameCommands rfl (by simp)
  refine ⟨hbase.extends hext (by simp), fun c hc => ?_⟩
  obtain ⟨order, rfl, hcommand⟩ := Option.bind_eq_some_iff.mp hc
  obtain ⟨command, hfind, rfl⟩ := Option.map_eq_some_iff.mp hcommand
  exact List.mem_of_find?_eq_some hfind

theorem createReducingOrder_named {account : ExecutionAccount} {request : ProtectionRequest}
    {timeInForce : String} {now : Instant} {j j' : Journal} {created : Option Created}
    (hj : Named ids sha256 j)
    (h : createReducingOrder ids sha256 account request timeInForce now j = .ok (created, j')) :
    Named ids sha256 j' ∧ ∀ c, created = some c → c.command ∈ j'.commands := by
  obtain ⟨intentId, j₁, hdraw, h⟩ := journal_bind_ok.mp h
  obtain ⟨intent, j₂, hintent, h⟩ := journal_bind_ok.mp h
  obtain ⟨stored, j₃, hstored, h⟩ := journal_bind_ok.mp h
  obtain ⟨decisionId, j₄, hdraw', h⟩ := journal_bind_ok.mp h
  obtain ⟨_, j₅, hreserve, hcreate⟩ := journal_bind_ok.mp h
  have hsame : j₅ = j₄ := by
    unfold persistReduction at hreserve
    split at hreserve <;> cases hreserve
    rfl
  subst hsame
  obtain ⟨-, rfl⟩ := newUuid7_ok hdraw'
  obtain ⟨hcommands, hdrawn⟩ := createOrGet_ok hstored
  obtain ⟨-, rfl⟩ := journal_lift_ok.mp hintent
  obtain ⟨-, rfl⟩ := newUuid7_ok hdraw
  have hbase : Named ids sha256 { j₃ with drawn := j₃.drawn + 1 } := by
    refine hj.sameCommands hcommands ?_
    simp only [hdrawn]
    omega
  exact createNamedOrder_named hbase hcreate

theorem createCall_named {call : CreateCall} {j j' : Journal} {created : Option Created}
    (hj : Named ids sha256 j) (h : call.act ids sha256 j = .ok (created, j')) :
    Named ids sha256 j' ∧ ∀ c, created = some c → c.command ∈ j'.commands := by
  cases call with
  | approved => exact createNamedOrder_named hj h
  | reducing => exact createReducingOrder_named hj h

theorem named_after (j : Journal) (call : CreateCall) (hj : Named ids sha256 j) :
    Named ids sha256 (j.after ids sha256 call) := by
  unfold Journal.after
  split
  · rename_i created j' h
    exact (createCall_named hj h).1
  · exact hj

/-- Every journal a run of creations leaves keeps the two ids of each command apart. -/
theorem named_run (anchored : Bool) (calls : List CreateCall) :
    Named ids sha256 (runFrom (Journal.after ids sha256) (.empty anchored) calls) := by
  have hempty : Named ids sha256 (.empty anchored) := fun _ hrow => absurd hrow List.not_mem_nil
  have hmeets : RunMeets (Journal.after ids sha256) (fun _ _ => True) (.empty anchored) calls := by
    generalize Journal.empty anchored = j
    induction calls generalizing j with
    | nil => trivial
    | cons call calls ih => exact ⟨trivial, ih _⟩
  exact run_invariant (fun j call hj _ => named_after j call hj) hempty hmeets

/-- As long as no id was drawn twice. -/
theorem Named.clientOrderId_ne {j : Journal} (h : Named ids sha256 j)
    (hids : Set.InjOn ids (Set.Iio j.drawn)) {row : PersistedOrderCommand} (hrow : row ∈ j.commands) :
    row.brokerClientOrderId ≠ clientOrderIdText row.id := by
  obtain ⟨m, n, hmn, hn, hid, hclient, -⟩ := h row hrow
  rw [hid, hclient]
  intro heq
  have hm : m < j.drawn := by omega
  have hsame := hids (Set.mem_Iio.mpr hm) (Set.mem_Iio.mpr hn) (clientOrderIdText_injective heq)
  omega

/-! ### What the adapter asks of a command -/

/-- The identity the Binance adapter checks: the command is the one the context named,
its client order id names it, and its hash is of the body the adapter builds. -/
structure AgreesWithAdapter (sha256 : String → Digest) (namedId : UUID) (command : BrokerOrderCommand) :
    Prop where
  id : command.id = namedId
  clientOrderId : binanceNormalClientOrderId command.id = .ok command.brokerClientOrderId
  hash : ∀ authority request, buildOrderRequest command authority = .ok request →
    command.canonicalPayloadHash = sha256 (request.body.getD "")

/-- The body starts with the symbol parameter. -/
theorem body_head {command : BrokerOrderCommand} {authority : NormalOrderAuthority} {request : BrokerRequest}
    (h : buildOrderRequest command authority = .ok request) :
    ∃ body, request.body = some body ∧ body.toList.head? = some 's' := by
  obtain ⟨parameters, hparameters, h⟩ := bind_ok.mp h
  cases h
  obtain ⟨limit, -, hparameters⟩ := bind_ok.mp hparameters
  cases hparameters
  refine ⟨_, rfl, ?_⟩
  simp [urlencode, String.intercalate_cons_cons, quotePlus, isUrlSafe]

theorem canonicalJson_head (payload : List (String × JsonScalar)) :
    (canonicalJson payload).toList.head? = some (Char.ofNat 123) := by
  simp [canonicalJson]

/-- The stored hash is of a text that no order the adapter builds has for a body. -/
theorem created_hash_of_other_text (calls : List CreateCall) (anchored : Bool)
    {row : PersistedOrderCommand}
    (hrow : row ∈ (runFrom (Journal.after ids sha256) (.empty anchored) calls).commands) :
    ∃ text, row.canonicalPayloadHash = sha256 text ∧ ∀ (command : BrokerOrderCommand) authority request,
      buildOrderRequest command authority = .ok request → request.body ≠ some text := by
  obtain ⟨m, n, -, -, -, -, payload, hhash⟩ := named_run anchored calls row hrow
  refine ⟨_, hhash, fun command authority request hbuild hbody => ?_⟩
  obtain ⟨body, hsome, hhead⟩ := body_head hbuild
  rw [hsome, Option.some.injEq] at hbody
  rw [hbody, canonicalJson_head] at hhead
  exact absurd hhead (by decide)

/-- However many orders were created before, the command of a created order never is what
the adapter takes it for. -/
theorem created_command_never_agrees (ids : Nat → UUID) (sha256 : String → Digest)
    (anchored : Bool) (calls : List CreateCall) (call : CreateCall) (created : Created) (j' : Journal)
    (hids : Set.InjOn ids (Set.Iio j'.drawn))
    (h : call.act ids sha256 (runFrom (Journal.after ids sha256) (.empty anchored) calls) =
      .ok (some created, j')) :
    ¬ AgreesWithAdapter sha256 created.namedId created.command.toBrokerOrderCommand := by
  intro hagrees
  obtain ⟨hnamed, hmem⟩ := createCall_named (named_run anchored calls) h
  have hne := hnamed.clientOrderId_ne hids (hmem created rfl)
  obtain ⟨_, -, htext⟩ := bind_ok.mp hagrees.clientOrderId
  exact hne (Except.ok.inj htext).symm

/-! ### A sample entry -/

def sampleIds (n : Nat) : UUID := sampleUuid (Fin.ofNat 256 n)

theorem sampleIds_injOn : Set.InjOn sampleIds (Set.Iio 16) := by
  have hids : ∀ m < 16, ∀ n < 16, sampleIds m = sampleIds n → m = n := by decide +kernel
  intro m hm n hn heq
  exact hids m hm n hn heq

/-- SHA-256 of the canonical JSON the sample entry is stored with. No other digest of its
creation is looked at. -/
def sampleDigest (_ : String) : Digest :=
  0xd8faa641b61ea36c208a1c1f3823f39dcb5377eb8cde0dadaa3c75a36bdfc5e2

def sampleAccount : ExecutionAccount :=
  ⟨⟨sampleUuid 201, true, true⟩, sampleUuid 202, 1⟩

/-- 2024-01-01. -/
def sampleNow : Instant := 1704067200000000

/-- An approved market entry of two contracts. -/
def sampleEntry : CreateCall :=
  .approved sampleAccount
    { id := sampleUuid 203
      orderIntentId := sampleUuid 204
      outcome := .approve
      approvedQuantity := Decimal.ofNat 2
      approvedLimitPrice := none }
    { id := sampleUuid 204
      origin := .strategy
      sourceId := sampleUuid 205
      accountId := sampleUuid 201
      instrumentId := sampleUuid 206
      intentType := .entry
      side := .buy
      orderStyle := .market
      quantity := Decimal.ofNat 2
      limitPrice := none
      idempotencyKey := "strategy"
      triggerPrice := none }
    .submitNewExposure marketTimeInForce sampleNow

/-- The two ids of a created command and how many ids were drawn. -/
def Created.outline (result : Except PyError (Option Created × Journal)) : Option (UUID × UUID × Nat) :=
  match result with
  | .ok (some created, j) => some (created.namedId, created.command.id, j.drawn)
  | _ => none

theorem Created.of_outline {result : Except PyError (Option Created × Journal)} {namedId id : UUID} {n : Nat}
    (h : Created.outline result = some (namedId, id, n)) :
    ∃ created j, result = .ok (some created, j) ∧ created.namedId = namedId ∧
      created.command.id = id ∧ j.drawn = n := by
  unfold Created.outline at h
  split at h
  · cases h
    exact ⟨_, _, rfl, rfl, rfl, rfl⟩
  · cases h

theorem sampleEntry_outline :
    Created.outline (sampleEntry.act sampleIds sampleDigest (.empty true)) =
      some (sampleUuid 0, sampleUuid 2, 3) := by decide +kernel

theorem entry_command_disagrees :
    ∃ created j, sampleEntry.act sampleIds sampleDigest (.empty true) = .ok (some created, j) ∧
      ¬ AgreesWithAdapter sampleDigest created.namedId created.command.toBrokerOrderCommand := by
  obtain ⟨created, j, hok, hnamed, hid, -⟩ := Created.of_outline sampleEntry_outline
  refine ⟨created, j, hok, fun hagrees => ?_⟩
  have hsame : sampleUuid 2 = sampleUuid 0 := by
    rw [← hid, ← hnamed]
    exact hagrees.id
  exact absurd hsame (by decide +kernel)

theorem created_command_never_agrees_entry :
    ∃ created j, sampleEntry.act sampleIds sampleDigest (.empty true) = .ok (some created, j) ∧
      ¬ AgreesWithAdapter sampleDigest created.namedId created.command.toBrokerOrderCommand := by
  obtain ⟨created, j, hok, -, -, hdrawn⟩ := Created.of_outline sampleEntry_outline
  refine ⟨created, j, hok, created_command_never_agrees sampleIds sampleDigest true []
    sampleEntry created j (sampleIds_injOn.mono ?_) hok⟩
  rw [hdrawn]
  exact Set.Iio_subset_Iio (by omega)

end AutoTrader.Trader
