import AutoTrader.Runtime.Pool
import AutoTrader.Toss.UsCaptures

/-! `reconcile_toss_us_cash`. An account is captured twice. Between the captures only a checkpoint with the digest of the
first is kept, so that a later call can go on from it. -/

namespace AutoTrader.Toss

open AutoTrader.Domain AutoTrader.Execution AutoTrader.Runtime

/-! ### Checkpoints and results -/

/-- The binding, account and instant a reconciliation is of. -/
structure TossUsScope where
  bindingId : UUID
  accountId : UUID
  providerAsOf : Instant
  deriving DecidableEq

/-- The phase of a checkpoint. The second has the digest of the first capture. -/
inductive TossUsPhase
  | firstCapture
  | secondCapture (firstProjectionDigest : Digest)
  deriving DecidableEq

structure TossUsReconciliationCheckpoint where
  runId : UUID
  scope : TossUsScope
  startedAt : Instant
  updatedAt : Instant
  phase : TossUsPhase

/-- `TossUsReconciliationCheckpoint.__post_init__`. -/
def TossUsReconciliationCheckpoint.validate (checkpoint : TossUsReconciliationCheckpoint) : Except PyError Unit :=
  if checkpoint.startedAt < checkpoint.scope.providerAsOf ∨ checkpoint.updatedAt < checkpoint.startedAt then
    .error ⟨.valueError, "checkpoint starts before provider as-of"⟩
  else .ok ()

inductive TossUsReconciliationState
  | complete
  | incomplete
  deriving DecidableEq

/-- `TossUsReconciliationResult`. The state `PARTIAL` is the incomplete one. -/
structure TossUsReconciliationResult where
  runId : UUID
  scope : TossUsScope
  startedAt : Instant
  completedAt : Instant
  state : TossUsReconciliationState
  holdingsPageCount : ℕ
  openOrderPageCount : ℕ
  closedOrderPageCount : ℕ
  snapshot : Option TossUsAccountSnapshot
  orders : List TossUsOrderFact
  commissionDigest : Option Digest
  factDigest : Option Digest
  blockers : List String

/-! ### The rows -/

/-- The facts that are appended with a completed run. -/
structure TossUsBundle where
  completedAt : Instant
  holdingsPageCount : ℕ
  openOrderPageCount : ℕ
  closedOrderPageCount : ℕ
  factDigest : Digest
  snapshot : TossUsAccountSnapshot
  orders : List TossUsOrderFact

/-- The result of a run: still in progress, with its checkpoint, or complete, with its facts. -/
inductive TossUsRunStatus
  | inProgress (phase : TossUsPhase)
  | complete (bundle : TossUsBundle)

def TossUsRunStatus.isInProgress : TossUsRunStatus → Bool
  | .inProgress _ => true
  | .complete _ => false

structure TossUsReconciliationRunRow where
  id : UUID
  scope : TossUsScope
  startedAt : Instant
  updatedAt : Instant
  status : TossUsRunStatus

/-- The row is the one of its binding and instant. -/
def TossUsReconciliationRunRow.isOf (row : TossUsReconciliationRunRow) (bindingId : UUID) (providerAsOf : Instant) :
    Bool :=
  decide (row.scope.bindingId = bindingId ∧ row.scope.providerAsOf = providerAsOf)

def appendOnly : PyError := ⟨.valueError, "Toss US completed reconciliation is append-only"⟩

def duplicateRun : PyError := ⟨.databaseError, "Duplicate entry"⟩

/-- `load_checkpoint`. -/
def loadCheckpoint (rows : List TossUsReconciliationRunRow) (bindingId : UUID) (providerAsOf : Instant) :
    Option TossUsReconciliationCheckpoint :=
  match rows.find? fun row => row.isOf bindingId providerAsOf && row.status.isInProgress with
  | none => none
  | some row =>
    match row.status with
    | .inProgress phase => some ⟨row.id, row.scope, row.startedAt, row.updatedAt, phase⟩
    | .complete _ => none

/-- The rows with this one in the place of the row of its identifier. -/
def replaceRun (rows : List TossUsReconciliationRunRow) (run : TossUsReconciliationRunRow) :
    List TossUsReconciliationRunRow :=
  rows.map fun row => if row.id = run.id then run else row

/-- `persist_checkpoint`. -/
def persistCheckpoint (rows : List TossUsReconciliationRunRow) (checkpoint : TossUsReconciliationCheckpoint) :
    Except PyError (List TossUsReconciliationRunRow) :=
  match rows.find? fun row => row.isOf checkpoint.scope.bindingId checkpoint.scope.providerAsOf with
  | none =>
    if rows.any fun row => decide (row.id = checkpoint.runId) then .error duplicateRun
    else
      .ok (rows ++
        [⟨checkpoint.runId, checkpoint.scope, checkpoint.startedAt, checkpoint.updatedAt, .inProgress checkpoint.phase⟩])
  | some existing =>
    if !existing.status.isInProgress ∨ existing.id ≠ checkpoint.runId ∨
        existing.scope.accountId ≠ checkpoint.scope.accountId ∨ existing.startedAt ≠ checkpoint.startedAt ∨
        existing.updatedAt > checkpoint.updatedAt then .error appendOnly
    else
      .ok (replaceRun rows
        { existing with
          updatedAt := checkpoint.updatedAt
          status := .inProgress checkpoint.phase })

/-- `persist_completed_run`, with the check that the run ended after it started. -/
def persistCompletedRun (rows : List TossUsReconciliationRunRow) (id : UUID) (scope : TossUsScope)
    (startedAt : Instant) (bundle : TossUsBundle) : Except PyError (List TossUsReconciliationRunRow) :=
  if bundle.holdingsPageCount < 1 ∨ bundle.openOrderPageCount < 1 ∨ bundle.closedOrderPageCount < 1 then
    .error ⟨.valueError, "missing page or blocker makes reconciliation non-passing"⟩
  else if bundle.completedAt ≤ startedAt then
    .error ⟨.databaseError, "Check constraint 'ck_toss_us_reconciliation_result' is violated"⟩
  else
    let completed : TossUsReconciliationRunRow := ⟨id, scope, startedAt, bundle.completedAt, .complete bundle⟩
    match rows.find? fun row => decide (row.id = id) with
    | none =>
      if rows.any fun row => row.isOf scope.bindingId scope.providerAsOf then .error duplicateRun
      else .ok (rows ++ [completed])
    | some existing =>
      if !existing.status.isInProgress ∨ existing.scope ≠ scope ∨ existing.startedAt ≠ startedAt then .error appendOnly
      else .ok (replaceRun rows completed)

/-- `MySqlTossUsReconciliationStore.persist_complete`. -/
def persistComplete (rows : List TossUsReconciliationRunRow) (result : TossUsReconciliationResult) :
    Except PyError (List TossUsReconciliationRunRow) :=
  match result.state, result.snapshot with
  | .complete, some snapshot =>
    match result.factDigest with
    | none => .error ⟨.typeError, "fact digest must be SHA-256 bytes"⟩
    | some factDigest =>
      persistCompletedRun rows result.runId result.scope result.startedAt
        { completedAt := result.completedAt
          holdingsPageCount := result.holdingsPageCount
          openOrderPageCount := result.openOrderPageCount
          closedOrderPageCount := result.closedOrderPageCount
          factDigest := factDigest
          snapshot := snapshot
          orders := result.orders }
  | _, _ => .error ⟨.valueError, "only complete Toss US reconciliation can persist"⟩

/-! ### The reconciliation -/

/-- Everything a reconciliation does outside its own code. -/
inductive TossUsOp
  | loadCheckpoint (bindingId : UUID) (providerAsOf : Instant)
  | saveCheckpoint (checkpoint : TossUsReconciliationCheckpoint)
  | persistComplete (result : TossUsReconciliationResult)
  | newRunId
  | clock
  | captureOnce (scope : TossUsScope)

abbrev TossUsOp.Result : TossUsOp → Type
  | loadCheckpoint _ _ => Option TossUsReconciliationCheckpoint
  | saveCheckpoint _ | persistComplete _ => Unit
  | newRunId => UUID
  | clock => Instant
  | captureOnce _ => TossUsReading

abbrev TossUsAct := Action PyError TossUsOp TossUsOp.Result

def tossUs (o : TossUsOp) : TossUsAct o.Result := Action.perform o

def unavailable (message : String) : PyError := ⟨.tossUsReconciliationUnavailable, message⟩

/-- `_MAX_CAPTURE_SECONDS`. -/
def maxCapture : Instant := 30000000

/-- `_capture_time`. -/
def captureTime (providerAsOf : Instant) : TossUsAct Instant := do
  let capturedAt ← tossUs .clock
  if providerAsOf ≤ capturedAt ∧ capturedAt ≤ providerAsOf + maxCapture then pure capturedAt
  else throw ⟨.valueError, "Toss US reconciliation capture time is unbounded"⟩

/-- `_capture_once`, when nothing is raised that `except Exception` catches. -/
def captureOnce (scope : TossUsScope) : TossUsAct (Option TossUsReading) :=
  Action.tryCatch (do let reading ← tossUs (.captureOnce scope); pure (some reading))
    fun e => if e.kind.isControl then throw e else pure none

/-- `_partial`. -/
def incompleteResult (factDigest : TossUsReading → Digest) (checkpoint : TossUsReconciliationCheckpoint)
    (completedAt : Instant) (blocker : String) (capture : Option TossUsReading) : TossUsReconciliationResult where
  runId := checkpoint.runId
  scope := checkpoint.scope
  startedAt := checkpoint.startedAt
  completedAt := completedAt
  state := .incomplete
  holdingsPageCount := (capture.map (·.snapshot.holdingsPageCount)).getD 0
  openOrderPageCount := (capture.map (·.openOrderPageCount)).getD 0
  closedOrderPageCount := (capture.map (·.closedOrderPageCount)).getD 0
  snapshot := capture.map (·.snapshot)
  orders := (capture.map (·.orders)).getD []
  commissionDigest := capture.map (·.commissionDigest)
  factDigest := capture.map factDigest
  blockers := [blocker]

/-- The result of two captures that were compared. -/
def completeResult (factDigest : TossUsReading → Digest) (scope : TossUsScope)
    (checkpoint : TossUsReconciliationCheckpoint) (completedAt : Instant) (second : TossUsReading) :
    TossUsReconciliationResult where
  runId := checkpoint.runId
  scope := scope
  startedAt := checkpoint.startedAt
  completedAt := completedAt
  state := .complete
  holdingsPageCount := second.snapshot.holdingsPageCount
  openOrderPageCount := second.openOrderPageCount
  closedOrderPageCount := second.closedOrderPageCount
  snapshot := some second.snapshot
  orders := second.orders
  commissionDigest := some second.commissionDigest
  factDigest := some (factDigest second)
  blockers := []

section Reconciliation

variable (sha256 : String → Digest) (factDigest : TossUsReading → Digest) (scope : TossUsScope)

/-- What is left to do when the provider did not answer. -/
def providerUnavailable (checkpoint : TossUsReconciliationCheckpoint) : TossUsAct TossUsReconciliationResult := do
  tossUs (.saveCheckpoint checkpoint)
  let completedAt ← captureTime scope.providerAsOf
  pure (incompleteResult factDigest checkpoint completedAt "PROVIDER_UNAVAILABLE" none)

/-- The second capture, compared with the digest of the first. -/
def secondCapture (checkpoint : TossUsReconciliationCheckpoint) (firstProjectionDigest : Digest) :
    TossUsAct TossUsReconciliationResult := do
  match ← captureOnce scope with
  | none => providerUnavailable factDigest scope checkpoint
  | some second =>
    if firstProjectionDigest ≠ projectionDigest sha256 second then
      let updatedAt ← captureTime scope.providerAsOf
      let reset := { checkpoint with updatedAt := updatedAt, phase := .firstCapture }
      Action.ofExcept reset.validate
      tossUs (.saveCheckpoint reset)
      let completedAt ← captureTime scope.providerAsOf
      pure (incompleteResult factDigest reset completedAt "SNAPSHOT_DRIFT" (some second))
    else
      let completedAt ← captureTime scope.providerAsOf
      let result := completeResult factDigest scope checkpoint completedAt second
      tossUs (.persistComplete result)
      pure result

/-- The first capture, whose digest is kept in the checkpoint. -/
def firstCapture (checkpoint : TossUsReconciliationCheckpoint) : TossUsAct TossUsReconciliationResult := do
  match ← captureOnce scope with
  | none => providerUnavailable factDigest scope checkpoint
  | some first =>
    let updatedAt ← captureTime scope.providerAsOf
    let captured :=
      { checkpoint with updatedAt := updatedAt, phase := .secondCapture (projectionDigest sha256 first) }
    Action.ofExcept captured.validate
    tossUs (.saveCheckpoint captured)
    secondCapture sha256 factDigest scope captured (projectionDigest sha256 first)

/-- The checkpoint to go on from: the stored one, or a new one. -/
def startCheckpoint : TossUsAct TossUsReconciliationCheckpoint := do
  match ← tossUs (.loadCheckpoint scope.bindingId scope.providerAsOf) with
  | some checkpoint => pure checkpoint
  | none =>
    let runId ← tossUs .newRunId
    let updatedAt ← captureTime scope.providerAsOf
    let checkpoint : TossUsReconciliationCheckpoint := ⟨runId, scope, scope.providerAsOf, updatedAt, .firstCapture⟩
    Action.ofExcept checkpoint.validate
    tossUs (.saveCheckpoint checkpoint)
    pure checkpoint

/-- The body of `reconcile_toss_us_cash`. -/
def reconcileBody : TossUsAct TossUsReconciliationResult := do
  let checkpoint ← startCheckpoint scope
  if checkpoint.scope.bindingId ≠ scope.bindingId ∨ checkpoint.scope.accountId ≠ scope.accountId then
    throw (unavailable "Toss US reconciliation checkpoint scope is invalid")
  else
    match checkpoint.phase with
    | .firstCapture => firstCapture sha256 factDigest scope checkpoint
    | .secondCapture digest => secondCapture sha256 factDigest scope checkpoint digest

/-- `reconcile_toss_us_cash`, of a context with this account. -/
def reconcileTossUsCash : TossUsAct TossUsReconciliationResult :=
  Action.tryCatch (reconcileBody sha256 factDigest scope) fun e =>
    if e.kind = .tossUsReconciliationUnavailable ∨ e.kind.isControl then throw e
    else throw (unavailable "Toss US reconciliation checkpoint is unavailable")

end Reconciliation

/-! ### Any number of calls -/

/-- A capture that was made. -/
structure TossUsCaptured where
  scope : TossUsScope
  reading : TossUsReading

/-- The captures made so far, and the run rows. The rows may go back to what they were before when a transaction is
rolled back, and a transaction may read what they were before, so all they have been is kept, the newest first. -/
structure TossUsWorld where
  captures : List TossUsCaptured
  tables : List (List TossUsReconciliationRunRow)

/-- What an operation is answered with. A store operation works on one of the tables there have been; its answer may be
lost after it took effect. -/
inductive TossUsChoice
  | on (table : ℕ)
  | lost (table : ℕ) (error : PyError)
  | raised (error : PyError)
  | read (reading : TossUsReading)
  | time (instant : Instant)
  | id (id : UUID)

/-- A write to a table, if there has been such a table. -/
def TossUsWorld.write (w : TossUsWorld) (table : ℕ)
    (change : List TossUsReconciliationRunRow → Except PyError (List TossUsReconciliationRunRow)) :
    Option (TossUsWorld × Except PyError Unit) :=
  match w.tables[table]? with
  | none => none
  | some rows =>
    match change rows with
    | .error e => some (w, .error e)
    | .ok written => some ({ w with tables := written :: w.tables }, .ok ())

/-- The same, with the answer lost. -/
def answerLost (error : PyError) (answered : Option (TossUsWorld × Except PyError Unit)) :
    Option (TossUsWorld × Except PyError Unit) := answered.map fun done => (done.1, .error error)

def tossUsAnswer (w : TossUsWorld) : (o : TossUsOp) → TossUsChoice → Option (TossUsWorld × Except PyError o.Result)
  | _, .raised e => some (w, .error e)
  | .loadCheckpoint bindingId providerAsOf, .on table =>
    w.tables[table]?.map fun rows => (w, .ok (loadCheckpoint rows bindingId providerAsOf))
  | .saveCheckpoint checkpoint, .on table => w.write table fun rows => persistCheckpoint rows checkpoint
  | .saveCheckpoint checkpoint, .lost table e =>
    answerLost e (w.write table fun rows => persistCheckpoint rows checkpoint)
  | .persistComplete result, .on table => w.write table fun rows => persistComplete rows result
  | .persistComplete result, .lost table e => answerLost e (w.write table fun rows => persistComplete rows result)
  | .newRunId, .id id => some (w, .ok id)
  | .clock, .time instant => some (w, .ok instant)
  | .captureOnce scope, .read reading => some ({ w with captures := w.captures ++ [⟨scope, reading⟩] }, .ok reading)
  | _, _ => none

/-- Calls for any scopes, in any interleaving. -/
def tossUsPool (sha256 : String → Digest) (factDigest : TossUsReading → Digest) :
    Pool PyError TossUsOp TossUsOp.Result TossUsWorld TossUsScope TossUsChoice where
  body scope := (reconcileTossUsCash sha256 factDigest scope).run >>= fun _ => .done ()
  answer w _ o choice := tossUsAnswer w o choice

/-- No capture was made, and there are no runs. -/
def tossUsStart : Pool.Config PyError TossUsOp TossUsOp.Result TossUsWorld := ⟨⟨[], [[]]⟩, []⟩

end AutoTrader.Toss
