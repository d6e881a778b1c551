import AutoTrader.Backoffice.Approvals
import AutoTrader.Operations.RuntimeControl
import AutoTrader.Trader.LiveSafety

/-! Who writes the control rows. Stopping asks for nothing but the rows; starting spends an approval of exactly what
the rows and the account say. The strategy and the protection of positions only raise the kill switch, the latter from
a reading that can be old by the time it is written. Every event is one transaction, and one that raises leaves the
tables as they were. -/

namespace AutoTrader.Backoffice

open AutoTrader.Dispatch AutoTrader.Domain AutoTrader.Execution AutoTrader.Operations AutoTrader.Runtime
  AutoTrader.Trader

/-! ### What the controls say -/

def levelValue : KillSwitchLevel → String
  | .none => "NONE"
  | .blockNewExposure => "BLOCK_NEW_EXPOSURE"
  | .emergency => "EMERGENCY"

/-- What the controls say, collapsed to the two facts that matter. -/
structure ControlState where
  armed : Bool
  killSwitchLevel : KillSwitchLevel

/-- `_strongest`. -/
def strongest (controls : List OpsTradingControl) : KillSwitchLevel :=
  if controls.any (·.killSwitchLevel = .emergency) then .emergency
  else if controls.any (·.killSwitchLevel = .blockNewExposure) then .blockNewExposure
  else .none

def controlState (controls : List OpsTradingControl) : ControlState := ⟨controls.all (·.armed), strongest controls⟩

inductive RecordDetails
  | armed
  | raised (before after : KillSwitchLevel)
  | operator (commandId : UUID) (operatorEmail sourceIp correlationId : String) (authorityDigest : Option Digest)
      (before after : ControlState)

/-- A row of the audit log that is written beside a control row. -/
structure ControlRecord where
  action : String
  scopeType : String
  scopeKey : String
  actorRuntimeInstanceId : Option UUID
  fencingToken : ℕ
  details : RecordDetails
  occurredAt : Instant

/-- The account that arming names, with its broker's row if it has one. -/
structure ArmingAccount where
  accountAlias : String
  brokerCode : Option String
  environment : String

structure ControlRoom where
  approvals : ApprovalStore
  tables : RuntimeTables
  history : List ControlRecord
  account : Option ArmingAccount
  policyVersion : Option String
  /-- What transactions have read that did not lock. -/
  readings : List (List OpsTradingControl)

def ControlRoom.write (w : ControlRoom) (controls : List OpsTradingControl) (records : List ControlRecord) :
    ControlRoom :=
  { w with tables := { w.tables with controls := controls }, history := w.history ++ records }

/-- The counters fit their columns. -/
def versionsFit (controls : List OpsTradingControl) : Bool :=
  controls.all fun control => decide (control.rowVersion ≤ integerLargest)

/-- Which runtime generation a command was applied against. -/
def highestFencingToken (controls : List OpsTradingControl) : ℕ :=
  controls.foldl (fun highest control => max highest control.fencingToken) 0

/-! ### Stopping -/

inductive SafetyAction
  | disarm
  | halt
  | emergency
  deriving DecidableEq

def SafetyAction.value : SafetyAction → String
  | .disarm => "DISARM"
  | .halt => "HALT"
  | .emergency => "EMERGENCY"

/-- `_KILL_SWITCH`. -/
def SafetyAction.killSwitch : SafetyAction → Option KillSwitchLevel
  | .disarm => none
  | .halt => some .blockNewExposure
  | .emergency => some .emergency

structure SafetyCommand where
  id : UUID
  action : SafetyAction
  operatorEmail : String
  sourceIp : String
  correlationId : String
  requestedAt : Instant

/-- `_apply_to`, with the version. -/
def stopControl (action : SafetyAction) (control : OpsTradingControl) : OpsTradingControl :=
  { control with
    armed := false
    killSwitchLevel := action.killSwitch.getD control.killSwitchLevel
    rowVersion := control.rowVersion + 1 }

def nothingToControl (message : String) : PyError := ⟨.runtimeError, message⟩

/-- `MySqlSafetyControls._apply`. -/
def ControlRoom.stop (w : ControlRoom) (command : SafetyCommand) : Except PyError ControlRoom :=
  let controls := w.tables.controls
  if controls.isEmpty then .error (nothingToControl "there are no controls to act on")
  else
    let after := controls.map (stopControl command.action)
    if !versionsFit after then .error outOfRange
    else .ok (w.write after
      [{ action := "BACKOFFICE_" ++ command.action.value
         scopeType := "GLOBAL"
         scopeKey := "ALL"
         actorRuntimeInstanceId := none
         fencingToken := highestFencingToken controls
         details := .operator command.id command.operatorEmail command.sourceIp command.correlationId none
           (controlState controls) (controlState after)
         occurredAt := command.requestedAt }])

/-! ### Starting -/

inductive DangerousAction
  | clearHalt
  | arm
  deriving DecidableEq

def DangerousAction.value : DangerousAction → String
  | .clearHalt => "CLEAR_HALT"
  | .arm => "ARM"

structure ArmingFacts where
  accountAlias : String
  brokerCode : String
  environment : String
  policyVersion : Option String
  armed : Bool
  killSwitchLevel : KillSwitchLevel

def policyTree : Option String → JsonTree
  | some version => .str version
  | none => .null

/-- `as_details`. -/
def ArmingFacts.tree (facts : ArmingFacts) : JsonTree := .obj
  [("account_alias", .str facts.accountAlias), ("broker_code", .str facts.brokerCode),
    ("environment", .str facts.environment), ("policy_version", policyTree facts.policyVersion),
    ("armed", .bool facts.armed), ("kill_switch_level", .str (levelValue facts.killSwitchLevel))]

def ArmingFacts.digest (sha256 : String → Digest) (facts : ArmingFacts) : Digest := sha256 facts.tree.dumps

structure ExposureCommand where
  id : UUID
  action : DangerousAction
  operatorEmail : String
  sourceIp : String
  correlationId : String
  approvalId : String
  requestedAt : Instant

/-- `_arming_facts`. -/
def ControlRoom.facts (w : ControlRoom) : Except PyError ArmingFacts :=
  match w.account with
  | none => .error (nothingToControl "the account named for arming does not exist")
  | some account =>
    let state : ControlState := if w.tables.controls.isEmpty then ⟨false, .none⟩ else controlState w.tables.controls
    .ok
      { accountAlias := account.accountAlias
        brokerCode := account.brokerCode.getD "UNKNOWN"
        environment := account.environment
        policyVersion := w.policyVersion
        armed := state.armed
        killSwitchLevel := state.killSwitchLevel }

/-- `approval_for`; an empty session or operator is refused by the request. -/
def approvalFor (sha256 : String → Digest) (sessionId operatorEmail : String) (action : DangerousAction)
    (facts : ArmingFacts) : Except PyError ApprovalRequest :=
  if h : sessionId ≠ "" ∧ operatorEmail ≠ "" ∧ action.value ≠ "" ∧ "GLOBAL" ≠ "" then
    .ok ⟨sessionId, operatorEmail, action.value, "GLOBAL", "ALL", facts.digest sha256, h⟩
  else .error ⟨.valueError, if sessionId = "" then "session_id is required" else "operator_email is required"⟩

def startControl (action : DangerousAction) (control : OpsTradingControl) : OpsTradingControl :=
  match action with
  | .arm => { control with armed := true, rowVersion := control.rowVersion + 1 }
  | .clearHalt => { control with killSwitchLevel := .none, rowVersion := control.rowVersion + 1 }

/-- The rows a dangerous action leaves; arming through a halt would make the halt advisory. -/
def started (action : DangerousAction) (controls : List OpsTradingControl) : Except PyError (List OpsTradingControl) :=
  if action = .arm ∧ (controlState controls).killSwitchLevel ≠ .none then
    .error ⟨.runtimeError, "clear the halt before arming"⟩
  else
    let after := controls.map (startControl action)
    if !versionsFit after then .error outOfRange else .ok after

def startRecord (sha256 : String → Digest) (command : ExposureCommand) (facts : ArmingFacts)
    (before after : List OpsTradingControl) : ControlRecord where
  action := "BACKOFFICE_" ++ command.action.value
  scopeType := "GLOBAL"
  scopeKey := "ALL"
  actorRuntimeInstanceId := none
  fencingToken := highestFencingToken before
  details := .operator command.id command.operatorEmail command.sourceIp command.correlationId
    (some (facts.digest sha256)) (controlState before) (controlState after)
  occurredAt := command.requestedAt

/-- What is asked of the approval of a command, where the rows and the account are there. -/
def ControlRoom.demanded (sha256 : String → Digest) (w : ControlRoom) (sessionId : String) (command : ExposureCommand) :
    Except PyError (ArmingFacts × ApprovalRequest) :=
  if w.tables.controls.isEmpty then .error (nothingToControl "there are no controls to act on")
  else do
    let facts ← w.facts
    let request ← approvalFor sha256 sessionId command.operatorEmail command.action facts
    pure (facts, request)

/-- `MySqlExposureControls._apply`. The approval is spent even where the rows are not written afterwards. -/
def ControlRoom.start (sha256 : String → Digest) (w : ControlRoom) (sessionId : String) (command : ExposureCommand) :
    ControlRoom × Except PyError Unit :=
  match w.demanded sha256 sessionId command with
  | .error error => (w, .error error)
  | .ok (facts, request) =>
    let (approvals, answer) := w.approvals.consume sha256 command.approvalId request
    let spent : ControlRoom := { w with approvals := approvals }
    match answer with
    | .error error => (spent, .error error)
    | .ok () =>
      match started command.action w.tables.controls with
      | .error error => (spent, .error error)
      | .ok after =>
        (spent.write after [startRecord sha256 command facts w.tables.controls after], .ok ())

/-! ### The strategy and the protection of positions -/

def raisedControl (level : KillSwitchLevel) (control : OpsTradingControl) : OpsTradingControl :=
  if levelRank level ≤ levelRank control.killSwitchLevel then control
  else { control with killSwitchLevel := level, rowVersion := control.rowVersion + 1 }

/-- `trip_kill_switch`. -/
def ControlRoom.trip (w : ControlRoom) (level : KillSwitchLevel) (now : Instant) : Except PyError ControlRoom :=
  let lower := w.tables.controls.filter fun control => decide (levelRank control.killSwitchLevel < levelRank level)
  let after := w.tables.controls.map (raisedControl level)
  if !versionsFit after then .error outOfRange
  else .ok (w.write after (lower.map fun control =>
    { action := "STRATEGY_KILL_SWITCH_RAISED"
      scopeType := control.scopeType
      scopeKey := control.scopeKey
      actorRuntimeInstanceId := control.ownerRuntimeInstanceId
      fencingToken := control.fencingToken
      details := .raised control.killSwitchLevel level
      occurredAt := now }))

/-- What `_raise_to` makes of a row it has read: the columns it changes are written over the row as it is by then. -/
def raisedFrom (level : KillSwitchLevel) (disarm : Bool) (read control : OpsTradingControl) : OpsTradingControl :=
  let raised : OpsTradingControl :=
    if levelRank read.killSwitchLevel < levelRank level then
      { control with killSwitchLevel := level, rowVersion := read.rowVersion + 1 }
    else if disarm && read.armed then { control with rowVersion := read.rowVersion + 1 }
    else control
  if disarm && read.armed then { raised with armed := false } else raised

section

variable {Key : Type} [DecidableEq Key] (collate : String → Key)

def scope (control : OpsTradingControl) : Key × Key := (collate control.scopeType, collate control.scopeKey)

/-- The second half of `_raise_to`, by one of the readings, which is then over. -/
def ControlRoom.raiseFrom (w : ControlRoom) (reading : ℕ) (level : KillSwitchLevel) (disarm : Bool) :
    Except PyError ControlRoom :=
  let read := (w.readings[reading]?).getD []
  let after := w.tables.controls.map fun control =>
    match Rows.lookup (scope collate) read (scope collate control) with
    | some old => raisedFrom level disarm old control
    | none => control
  if !versionsFit after then .error outOfRange
  else .ok { w.write after [] with readings := w.readings.set reading [] }

/-! ### The runtime -/

/-- `lock_global_dispatch_guard`. -/
def ControlRoom.guardDispatch (w : ControlRoom) : ControlRoom :=
  if w.tables.controls.any (globalControl collate) then w
  else w.write (w.tables.controls ++
    [{ scopeType := "GLOBAL"
       scopeKey := "GLOBAL"
       armed := false
       killSwitchLevel := .none
       ownerRuntimeInstanceId := none
       acquiredAt := none
       expiresAt := none
       fencingToken := 0
       rowVersion := 1 }]) []

/-- What `create_control` is given. -/
structure ControlTerms where
  scopeType : String
  scopeKey : String
  ownerRuntimeInstanceId : UUID
  armed : Bool
  killSwitchLevel : KillSwitchLevel
  acquiredAt : DateTime
  expiresAt : DateTime

def ControlRoom.createControl (w : ControlRoom) (terms : ControlTerms) : Except PyError ControlRoom := do
  let owner ← bindUuid terms.ownerRuntimeInstanceId
  let acquiredAt ← terms.acquiredAt.requireUtc
  let expiresAt ← terms.expiresAt.requireUtc
  let record (fencingToken : ℕ) : List ControlRecord :=
    if terms.armed then
      [{ action := "INITIAL_ARMED_CONTROL_CREATED"
         scopeType := terms.scopeType
         scopeKey := terms.scopeKey
         actorRuntimeInstanceId := some owner
         fencingToken := fencingToken
         details := .armed
         occurredAt := acquiredAt }]
    else []
  match Rows.lookup (scope collate) w.tables.controls (collate terms.scopeType, collate terms.scopeKey) with
  | none =>
    if terms.scopeType = "" ∨ terms.scopeKey = "" then .error ⟨.databaseError, "ck_ops_trading_control_scope"⟩
    else .ok (w.write (w.tables.controls ++
      [{ scopeType := terms.scopeType
         scopeKey := terms.scopeKey
         armed := terms.armed
         killSwitchLevel := terms.killSwitchLevel
         ownerRuntimeInstanceId := some owner
         acquiredAt := some acquiredAt
         expiresAt := some expiresAt
         fencingToken := 1
         rowVersion := 1 }]) (record 1))
  | some control => do
    let fencingToken ← increment control.fencingToken
    let taken : OpsTradingControl :=
      { control with
        armed := terms.armed
        killSwitchLevel := terms.killSwitchLevel
        ownerRuntimeInstanceId := some owner
        acquiredAt := some acquiredAt
        expiresAt := some expiresAt
        fencingToken := fencingToken
        rowVersion := control.rowVersion + 1 }
    if !versionsFit [taken] then .error outOfRange
    else .ok (w.write (Rows.update (scope collate) w.tables.controls (scope collate control) fun _ => taken)
      (record fencingToken))

/-! ### Events -/

/-- What the processes do, in any order. A command that does not commit has spent its approval all the same. -/
inductive ControlEvent
  | approve (event : ApprovalStore.Event)
  | stop (command : SafetyCommand)
  | start (sessionId : String) (command : ExposureCommand) (commits : Bool)
  | trip (level : KillSwitchLevel) (now : Instant)
  | read
  | raiseFrom (reading : ℕ) (level : KillSwitchLevel) (disarm : Bool)
  | guardDispatch
  | startExecution (runtimeInstanceId : UUID) (now leaseExpiresAt : DateTime)
  | createControl (terms : ControlTerms)
  | rename (account : Option ArmingAccount) (policyVersion : Option String)

/-- A transaction that raises is rolled back. -/
def orRolledBack {ε : Type} (w : ControlRoom) (after : Except ε ControlRoom) : ControlRoom :=
  match after with
  | .ok w' => w'
  | .error _ => w

/-- `start_execution_control`, of which nothing is kept that raises. -/
def ControlRoom.startExecution (w : ControlRoom) (runtimeInstanceId : UUID) (now leaseExpiresAt : DateTime) :
    ControlRoom :=
  match startExecutionControl collate w.tables runtimeInstanceId now leaseExpiresAt with
  | .ok (tables, _) => { w with tables := tables }
  | .error _ => w

def ControlRoom.step (sha256 : String → Digest) (w : ControlRoom) : ControlEvent → ControlRoom
  | .approve event => { w with approvals := w.approvals.step sha256 event }
  | .stop command => orRolledBack w (w.stop command)
  | .start sessionId command commits =>
    let after := (w.start sha256 sessionId command).1
    if commits then after else { w with approvals := after.approvals }
  | .trip level now => orRolledBack w (w.trip level now)
  | .read => { w with readings := w.readings ++ [w.tables.controls] }
  | .raiseFrom reading level disarm => orRolledBack w (w.raiseFrom collate reading level disarm)
  | .guardDispatch => w.guardDispatch collate
  | .startExecution runtimeInstanceId now leaseExpiresAt =>
    w.startExecution collate runtimeInstanceId now leaseExpiresAt
  | .createControl terms => orRolledBack w (w.createControl collate terms)
  | .rename account policyVersion => { w with account := account, policyVersion := policyVersion }

end

end AutoTrader.Backoffice
