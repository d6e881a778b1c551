import AutoTrader.Execution.Gates
import AutoTrader.Runtime.Program
import AutoTrader.Runtime.Rows

/-! The dispatch store. `MySqlDispatchStore` is written over the statements its session
executes; what the statements do to the tables is `StoreOp.apply`. Every statement only
changes the transaction's view: making it durable is left to the caller's commit. -/

namespace AutoTrader.Dispatch

open AutoTrader.Domain AutoTrader.Execution AutoTrader.Runtime

/-! ### Tables -/

structure SchedulerLease where
  ownerRuntimeInstanceId : Option UUID
  expiresAt : Option Instant
  fencingToken : Nat

inductive KillSwitchLevel
  | none
  | blockNewExposure
  | emergency
  deriving DecidableEq

structure TradingControl where
  armed : Bool
  killSwitchLevel : KillSwitchLevel
  ownerRuntimeInstanceId : Option UUID
  acquiredAt : Option Instant
  expiresAt : Option Instant
  fencingToken : Nat
  rowVersion : Int

inductive Severity
  | info
  | warning
  | blocking
  deriving DecidableEq

/-- An incident or a reconciliation difference, as far as the gates count them. -/
structure Finding where
  severity : Severity
  isOpen : Bool

def Finding.blocks (f : Finding) : Bool :=
  f.severity = .blocking && f.isOpen

structure Account where
  id : UUID
  brokerId : UUID

structure BrokerOrderLink where
  id : UUID
  orderId : UUID
  brokerId : UUID
  brokerOrderId : String
  linkSequence : Nat
  exposureBearing : Bool
  status : String
  deriving DecidableEq

/-- What dispatch reads and other processes write. -/
structure SharedTables where
  leases : List SchedulerLease
  controls : List TradingControl
  incidents : List Finding
  reconciliationDiffs : List Finding
  accounts : List Account

/-- What dispatch writes. -/
structure OrderTables where
  commands : List PersistedOrderCommand
  links : List BrokerOrderLink

namespace OrderTables

def command? (t : OrderTables) (id : UUID) : Option PersistedOrderCommand :=
  t.commands.find? (·.id = id)

def update (t : OrderTables) (id : UUID) (f : PersistedOrderCommand → PersistedOrderCommand) :
    OrderTables :=
  { t with commands := t.commands.map fun row => if row.id = id then f row else row }

/-- The stored answer of a command, `none` when there is no such command. -/
def result? (t : OrderTables) (id : UUID) : Option (Option ResultState) :=
  (t.command? id).map (·.resultState)

/-- The command exists and carries the irreversible marker. -/
def attempted (t : OrderTables) (id : UUID) : Bool :=
  match t.command? id with
  | some row => row.dispatchAttemptedAt.isSome
  | none => false

theorem command?_update (t : OrderTables) (id other : UUID)
    {f : PersistedOrderCommand → PersistedOrderCommand} (hf : ∀ row, (f row).id = row.id) :
    (t.update id f).command? other = (t.command? other).map fun row => if other = id then f row else row :=
  Rows.lookup_update hf t.commands id other

theorem command?_update_self (t : OrderTables) (id : UUID)
    (f : PersistedOrderCommand → PersistedOrderCommand) (hf : ∀ row, (f row).id = row.id) :
    (t.update id f).command? id = (t.command? id).map f := by
  simp [command?_update t id id hf]

theorem command?_update_of_ne (t : OrderTables) {id other : UUID} (hne : other ≠ id)
    (f : PersistedOrderCommand → PersistedOrderCommand) (hf : ∀ row, (f row).id = row.id) :
    (t.update id f).command? other = t.command? other := by
  simp [command?_update t id other hf, hne]

end OrderTables

/-! ### Statements -/

inductive StoreOp
  | getCommand (id : UUID)
  | schedulerLeases
  | tradingControls
  | blockingIncidents
  | unresolvedUnknowns
  | blockingReconciliations
  | claim (id : UUID) (moment : Instant)
  | touchAttempt (id : UUID) (moment : Instant)
  | setResult (id : UUID) (state : ResultState) (moment : Instant)
  | account (id : UUID)
  | linkFor (orderId brokerId : UUID) (brokerOrderId : String)
  | highestLinkSequence (orderId : UUID)
  | addLink (link : BrokerOrderLink)
  | flush

namespace StoreOp

abbrev Result : StoreOp → Type
  | getCommand _ => Option PersistedOrderCommand
  | schedulerLeases => List SchedulerLease
  | tradingControls => List TradingControl
  | blockingIncidents | unresolvedUnknowns | blockingReconciliations => Nat
  | claim _ _ => Nat
  | account _ => Option Account
  | linkFor _ _ _ => Option BrokerOrderLink
  | highestLinkSequence _ => Option Nat
  | touchAttempt _ _ | setResult _ _ _ | addLink _ | flush => Unit

/-- The row meets the `WHERE` clause of the claim. -/
def claimable (row : PersistedOrderCommand) (moment : Instant) : Bool :=
  row.dispatchAttemptedAt.isNone && row.resultState.isNone && decide (moment < row.notAfter)

def claimRow (moment : Instant) (row : PersistedOrderCommand) : PersistedOrderCommand :=
  { row with dispatchAttemptedAt := some moment }

def touchRow (moment : Instant) (row : PersistedOrderCommand) : PersistedOrderCommand :=
  if row.resultState = some .accepted then row else { row with dispatchAttemptedAt := some moment }

def answerRow (state : ResultState) (moment : Instant) (row : PersistedOrderCommand) :
    PersistedOrderCommand :=
  { row with
    resultState := some state
    dispatchAttemptedAt := some (row.dispatchAttemptedAt.getD moment) }

@[simp] theorem touchRow_id (moment : Instant) (row : PersistedOrderCommand) :
    (touchRow moment row).id = row.id := by
  unfold touchRow
  split <;> rfl

@[simp] theorem touchRow_resultState (moment : Instant) (row : PersistedOrderCommand) :
    (touchRow moment row).resultState = row.resultState := by
  unfold touchRow
  split <;> rfl

def highest (links : List BrokerOrderLink) : Option Nat :=
  links.foldl (fun best link => some (max (best.getD 0) link.linkSequence)) none

/-- What a statement does to the transaction's view, and its result. -/
def apply (shared : SharedTables) : (o : StoreOp) → OrderTables → OrderTables × o.Result
  | getCommand id, t => (t, t.command? id)
  | schedulerLeases, t => (t, shared.leases)
  | tradingControls, t => (t, shared.controls)
  | blockingIncidents, t => (t, shared.incidents.countP Finding.blocks)
  | unresolvedUnknowns, t => (t, t.commands.countP (·.resultState = some .unknown))
  | blockingReconciliations, t => (t, shared.reconciliationDiffs.countP Finding.blocks)
  | claim id moment, t =>
    match t.command? id with
    | some row =>
      if claimable row moment then (t.update id (claimRow moment), 1) else (t, 0)
    | none => (t, 0)
  | touchAttempt id moment, t => (t.update id (touchRow moment), ())
  | setResult id state moment, t => (t.update id (answerRow state moment), ())
  | account id, t => (t, shared.accounts.find? (·.id = id))
  | linkFor orderId brokerId brokerOrderId, t =>
    (t, t.links.find? fun link =>
      link.orderId = orderId && link.brokerId = brokerId && link.brokerOrderId = brokerOrderId)
  | highestLinkSequence orderId, t => (t, highest (t.links.filter (·.orderId = orderId)))
  | addLink link, t => ({ t with links := t.links ++ [link] }, ())
  | flush, t => (t, ())

end StoreOp

/-- A venue's answer to a submission. -/
structure BrokerSubmission where
  brokerOrderId : String

/-- Everything a dispatch does outside its own code. -/
inductive DispatchOp
  | store (o : StoreOp)
  | commit
  | close
  | newUuid7
  | marketDataFresh
  | submit (command : BrokerOrderCommand)
  | cancel (command : BrokerOrderCommand)
  | replace (command : BrokerOrderCommand)
  | recoverSubmit (command : BrokerOrderCommand) (now : DateTime)

abbrev DispatchOp.Result : DispatchOp → Type
  | store o => o.Result
  | commit | close => Unit
  | newUuid7 => UUID
  | marketDataFresh => Bool
  | submit _ | cancel _ | replace _ => BrokerSubmission
  | recoverSubmit _ _ => Option BrokerSubmission

abbrev Act := Action PyError DispatchOp DispatchOp.Result

def statement (o : StoreOp) : Act o.Result := Action.perform (DispatchOp.store o)

/-! ### `MySqlDispatchStore` -/

/-- What the gates need and no table holds. -/
structure RuntimeFacts where
  runtimeMode : RuntimeMode
  allowLive : Bool
  accountEnvironment : RuntimeMode
  localRuntimeInstanceId : UUID

def closingAuthority : AuthorityClass := .submitStrictReduction

def armLease (control : TradingControl) : Option ArmLease :=
  match control.ownerRuntimeInstanceId, control.acquiredAt, control.expiresAt with
  | some owner, some acquiredAt, some expiresAt =>
    some ⟨owner, acquiredAt, expiresAt, control.fencingToken, control.rowVersion⟩
  | _, _, _ => none

/-- The one owned scheduler lease; none and several are alike not held. -/
def heldLease (leases : List SchedulerLease) : Option SchedulerLease :=
  match leases.filter (·.ownerRuntimeInstanceId.isSome) with
  | [lease] => some lease
  | _ => none

def authorizationState (row : PersistedOrderCommand) (leases : List SchedulerLease)
    (control : TradingControl) (blocking unknown : Nat) (now : Instant) :
    DispatchAuthorizationState where
  now := now
  notAfter := row.notAfter
  attemptRecorded := row.dispatchAttemptedAt.isSome
  commandOwner := row.ownerRuntimeInstanceId
  commandFencingToken := row.fencingToken
  leaseOwner := (heldLease leases).bind (·.ownerRuntimeInstanceId)
  leaseFencingToken := (heldLease leases).map (·.fencingToken)
  leaseExpiresAt := (heldLease leases).bind (·.expiresAt)
  controlOwner := control.ownerRuntimeInstanceId
  controlFencingToken := some control.fencingToken
  controlExpiresAt := control.expiresAt
  controlArmed := control.armed
  killSwitchActive := control.killSwitchLevel ≠ .none
  blockingIncidentCount := blocking
  unresolvedUnknownCount := unknown
  strictReductionProven := row.authorityClass = closingAuthority
  cancelAuthorized := row.commandType = .cancel

def mayDispatch (commandId : UUID) (now : Instant) : Act Bool := do
  match ← statement (.getCommand commandId) with
  | none => pure false
  | some row =>
    let leases ← statement .schedulerLeases
    let controls ← statement .tradingControls
    -- nobody armed anything, which is not armed
    if controls.isEmpty then pure false
    else
      let blocking ← statement .blockingIncidents
      let unknown ← statement .unresolvedUnknowns
      pure (controls.all fun control =>
        (decideDispatch (authorizationState row leases control blocking unknown now)).allowed)

def gateAction : CommandType → GateAction
  | .submit => .submit
  | .cancel => .cancel
  | .replace => .replace

def submissionContext (facts : RuntimeFacts) (row : PersistedOrderCommand) (control : TradingControl)
    (blocking unknown reconciling : Nat) (fresh : Bool) (now : Instant) : SubmissionContext where
  now := now
  action := gateAction row.commandType
  runtimeMode := facts.runtimeMode
  allowLive := facts.allowLive
  accountEnvironment := facts.accountEnvironment
  localRuntimeInstanceId := facts.localRuntimeInstanceId
  locallyArmed := control.armed
  armLease := armLease control
  databaseWritable := true
  marketDataFresh := fresh
  activeKillSwitch := control.killSwitchLevel ≠ .none
  blockingIncidentCount := blocking
  unresolvedUnknownCount := unknown
  blockingReconciliationCount := reconciling
  exposureEffect := if row.authorityClass = closingAuthority then .reduce else .increase

def maySubmit (facts : Option RuntimeFacts) (commandId : UUID) (now : Instant) : Act Bool :=
  match facts with
  | none => pure false
  | some facts => do
    match ← statement (.getCommand commandId) with
    | none => pure false
    | some row =>
      let controls ← statement .tradingControls
      if controls.isEmpty then pure false
      else
        let blocking ← statement .blockingIncidents
        let unknown ← statement .unresolvedUnknowns
        let reconciling ← statement .blockingReconciliations
        let fresh ← (Action.perform DispatchOp.marketDataFresh : Act Bool)
        pure (controls.all fun control =>
          (SubmissionGate.evaluate
            (submissionContext facts row control blocking unknown reconciling fresh now)).allowed)

/-- `_command`. -/
def loadCommand (commandId : UUID) : Act (Option BrokerOrderCommand) := do
  let row ← statement (.getCommand commandId)
  pure (row.map (·.toBrokerOrderCommand))

/-- Claims a command exactly once, and only if both gates still let it be sent. -/
def authorizeAndRecordAttempt (facts : Option RuntimeFacts) (commandId : UUID) (now : DateTime) :
    Act (Option BrokerOrderCommand) := do
  let moment ← Action.ofExcept now.requireUtc
  if ← mayDispatch commandId moment then
    if ← maySubmit facts commandId moment then
      let rowcount ← statement (.claim commandId moment)
      if rowcount = 1 then
        statement .flush
        loadCommand commandId
      else pure none
    else pure none
  else pure none

/-- `_TERMINAL`: once a broker has accepted, nothing may overwrite that fact. -/
def terminal : List ResultState := [.accepted]

/-- A command already sent whose outcome is still unresolved. -/
def recoverableCommand (commandId : UUID) : Act (Option BrokerOrderCommand) := do
  match ← statement (.getCommand commandId) with
  | none => pure none
  | some row =>
    if row.dispatchAttemptedAt.isNone then pure none
    else match row.resultState with
      | some state =>
        if state ∈ terminal ∨ state = .rejected then pure none
        else pure (some row.toBrokerOrderCommand)
      | none => pure (some row.toBrokerOrderCommand)

def commandForRecovery (commandId : UUID) : Act BrokerOrderCommand := do
  match ← loadCommand commandId with
  | none => throw ⟨.valueError, "dispatch recovery requires an existing command"⟩
  | some command => pure command

def recordRecoveryAttempt (commandId : UUID) (now : DateTime) : Act Unit := do
  let moment ← Action.ofExcept now.requireUtc
  statement (.touchAttempt commandId moment)
  statement .flush

/-- `_link_broker_order`. -/
def linkBrokerOrder (row : PersistedOrderCommand) (brokerOrderId : String) : Act Unit := do
  match ← statement (.account row.accountId) with
  | none => throw ⟨.valueError, "dispatch result requires an existing account"⟩
  | some account =>
    match ← statement (.linkFor row.orderId account.brokerId brokerOrderId) with
    | some _ => pure ()
    | none =>
      let highest ← statement (.highestLinkSequence row.orderId)
      let id ← (Action.perform DispatchOp.newUuid7 : Act UUID)
      statement (.addLink
        { id := id
          orderId := row.orderId
          brokerId := account.brokerId
          brokerOrderId := brokerOrderId
          linkSequence := highest.getD 0 + 1
          exposureBearing := row.commandType = .submit
          status := "ACTIVE" })

def recordAccepted (commandId : UUID) (brokerOrderId : String) (now : DateTime) : Act Unit := do
  if untrimmed brokerOrderId then
    throw ⟨.valueError, "broker_order_id must be non-empty trimmed text"⟩
  else
    let moment ← Action.ofExcept now.requireUtc
    match ← statement (.getCommand commandId) with
    | none => throw ⟨.valueError, "dispatch result requires an existing command"⟩
    | some row =>
      if row.resultState = some .accepted then pure ()
      else
        statement (.setResult commandId .accepted moment)
        linkBrokerOrder row brokerOrderId
        statement .flush

/-- `_record_terminal`. -/
def recordTerminal (commandId : UUID) (state : ResultState) (now : DateTime) : Act Unit := do
  let moment ← Action.ofExcept now.requireUtc
  match ← statement (.getCommand commandId) with
  | none => throw ⟨.valueError, "dispatch result requires an existing command"⟩
  | some row =>
    -- an accepted send is the ground truth and outranks a later report
    if (∃ s ∈ terminal, row.resultState = some s) ∨ row.resultState = some state then pure ()
    else
      statement (.setResult commandId state moment)
      statement .flush

def recordRejected (commandId : UUID) (now : DateTime) : Act Unit :=
  recordTerminal commandId .rejected now

/-- The deadline is a stored UTC instant here, so `require_utc(deadline)` cannot fail. -/
def recordUnknown (commandId : UUID) (now : DateTime) (_deadline : Instant) : Act Unit :=
  recordTerminal commandId .unknown now

end AutoTrader.Dispatch
