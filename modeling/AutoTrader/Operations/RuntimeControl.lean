import AutoTrader.Dispatch.Store

/-! `RuntimeControlRepository`: the named scheduler leases and the start of the execution
control. A row's name is compared under the collation of its column, a parameter here, and
every call is one transaction, whose exceptions leave the tables as they were. -/

namespace AutoTrader.Operations

open AutoTrader.Domain AutoTrader.Dispatch AutoTrader.Runtime

/-! ### Tables -/

structure OpsRuntimeInstance where
  id : UUID
  localState : String
  startedAt : Instant
  stoppedAt : Option Instant
  deriving DecidableEq

structure OpsSchedulerLease extends SchedulerLease where
  leaseName : String
  acquiredAt : Option Instant
  rowVersion : Nat

structure OpsTradingControl extends TradingControl where
  scopeType : String
  scopeKey : String

structure OpsAuditLog where
  action : String
  scopeType : String
  scopeKey : String
  actorRuntimeInstanceId : Option UUID
  fencingToken : Nat
  schedulerFencingToken : Nat
  occurredAt : Instant

structure RuntimeTables where
  instances : List OpsRuntimeInstance
  leases : List OpsSchedulerLease
  controls : List OpsTradingControl
  audit : List OpsAuditLog

/-! ### Columns -/

/-- The largest value of an `INTEGER` column. -/
def integerLargest : Nat := 2147483647

def outOfRange : PyError := ⟨.databaseError, "Out of range value for column"⟩

/-- `UuidBinary.process_bind_param`. -/
def bindUuid (id : UUID) : Except PyError UUID :=
  if id.isVersion7 then .ok id else .error ⟨.valueError, "UUIDv7 is required"⟩

/-- A counter column after `+= 1`. -/
def increment (n : Nat) : Except PyError Nat :=
  if n < integerLargest then .ok (n + 1) else .error outOfRange

/-- `a <= b`. -/
def atMost (a b : DateTime) : Except PyError Bool :=
  if (a.zone == .naive) != (b.zone == .naive) then
    .error ⟨.typeError, "can't compare offset-naive and offset-aware datetimes"⟩
  else .ok (a.instant ≤ b.instant)

/-- `lease.expires_at is not None and lease.expires_at > now`. -/
def OpsSchedulerLease.runs (lease : OpsSchedulerLease) (now : DateTime) : Except PyError Bool :=
  match lease.expiresAt with
  | none => .ok false
  | some expiresAt => (!·) <$> atMost ⟨expiresAt, .utc⟩ now

/-! ### Leases -/

section

variable {Key : Type} [DecidableEq Key] (collate : String → Key)

def RuntimeTables.lease? (t : RuntimeTables) (leaseName : String) : Option OpsSchedulerLease :=
  Rows.lookup (fun row => collate row.leaseName) t.leases (collate leaseName)

/-- The row of the name is written in place. -/
def RuntimeTables.writeLease (t : RuntimeTables) (row : OpsSchedulerLease) : RuntimeTables :=
  { t with leases := Rows.update (fun row => collate row.leaseName) t.leases (collate row.leaseName) fun _ => row }

end

/-- A first row under the name. -/
def OpsSchedulerLease.create (leaseName : String) (owner : UUID) (now expiresAt : DateTime) :
    Except PyError OpsSchedulerLease := do
  let owner ← bindUuid owner
  let acquiredAt ← now.requireUtc
  let expiresAt ← expiresAt.requireUtc
  .ok
    { leaseName := leaseName
      ownerRuntimeInstanceId := some owner
      acquiredAt := some acquiredAt
      expiresAt := some expiresAt
      fencingToken := 1
      rowVersion := 1 }

/-- The row under a new owner, or under the same one again. -/
def OpsSchedulerLease.take (lease : OpsSchedulerLease) (owner : UUID) (now expiresAt : DateTime) :
    Except PyError OpsSchedulerLease := do
  let owner ← bindUuid owner
  let acquiredAt ← now.requireUtc
  let expiresAt ← expiresAt.requireUtc
  let fencingToken ← increment lease.fencingToken
  let rowVersion ← increment lease.rowVersion
  .ok
    { lease with
      ownerRuntimeInstanceId := some owner
      acquiredAt := some acquiredAt
      expiresAt := some expiresAt
      fencingToken := fencingToken
      rowVersion := rowVersion }

def OpsSchedulerLease.free (lease : OpsSchedulerLease) (now : DateTime) : Except PyError OpsSchedulerLease := do
  let expiresAt ← now.requireUtc
  let rowVersion ← increment lease.rowVersion
  .ok
    { lease with
      ownerRuntimeInstanceId := none
      acquiredAt := none
      expiresAt := some expiresAt
      rowVersion := rowVersion }

section

variable {Key : Type} [DecidableEq Key] (collate : String → Key)

def acquireNamedSchedulerLease (t : RuntimeTables) (leaseName : String) (runtimeInstanceId : UUID)
    (now leaseExpiresAt : DateTime) : Except PyError (RuntimeTables × Option OpsSchedulerLease) := do
  let invalid : PyError := ⟨.valueError, "named scheduler lease input is invalid"⟩
  if untrimmed leaseName || 64 < leaseName.length then .error invalid
  else if ← atMost leaseExpiresAt now then .error invalid
  else match t.lease? collate leaseName with
    | none =>
      let lease ← OpsSchedulerLease.create leaseName runtimeInstanceId now leaseExpiresAt
      .ok ({ t with leases := t.leases ++ [lease] }, some lease)
    | some lease =>
      let running ← lease.runs now
      if running && lease.ownerRuntimeInstanceId ≠ some runtimeInstanceId then .ok (t, none)
      else
        let lease ← lease.take runtimeInstanceId now leaseExpiresAt
        .ok (t.writeLease collate lease, some lease)

def releaseNamedSchedulerLease (t : RuntimeTables) (leaseName : String) (runtimeInstanceId : UUID)
    (fencingToken : Nat) (now : DateTime) : Except PyError (RuntimeTables × Bool) :=
  match t.lease? collate leaseName with
  | none => .ok (t, false)
  | some lease =>
    if lease.ownerRuntimeInstanceId ≠ some runtimeInstanceId ∨ lease.fencingToken ≠ fencingToken then
      .ok (t, false)
    else do
      let lease ← lease.free now
      .ok (t.writeLease collate lease, true)

/-! ### The execution control -/

def executionControl : String := "execution-control"

/-- The new runtime row, flushed before the lease is read. -/
def RuntimeTables.addInstance (t : RuntimeTables) (id : UUID) (now : DateTime) :
    Except PyError RuntimeTables := do
  let id ← bindUuid id
  let startedAt ← now.requireUtc
  if t.instances.any (·.id = id) then .error ⟨.databaseError, "Duplicate entry for key 'PRIMARY'"⟩
  else
    .ok
      { t with
        instances := t.instances ++
          [{ id := id, localState := "DISARMED", startedAt := startedAt, stoppedAt := none }] }

def globalControl (row : OpsTradingControl) : Bool :=
  collate row.scopeType = collate "GLOBAL" && collate row.scopeKey = collate "GLOBAL"

/-- Taking over an existing lease disarms the global control, if there is one. -/
def RuntimeTables.disarm (t : RuntimeTables) (owner : UUID) (now expiresAt : DateTime) (schedulerFencingToken : Nat) :
    Except PyError RuntimeTables :=
  match t.controls.find? (globalControl collate) with
  | none => .ok t
  | some control => do
    let acquiredAt ← now.requireUtc
    let expiresAt ← expiresAt.requireUtc
    let fencingToken ← increment control.fencingToken
    if integerLargest ≤ control.rowVersion then .error outOfRange
    else
      let disarmed : OpsTradingControl :=
        { control with
          ownerRuntimeInstanceId := some owner
          acquiredAt := some acquiredAt
          expiresAt := some expiresAt
          armed := false
          fencingToken := fencingToken
          rowVersion := control.rowVersion + 1 }
      .ok
        { t with
          controls := t.controls.map fun row => if globalControl collate row then disarmed else row
          audit := t.audit ++
            [{ action := "SCHEDULER_LEASE_TAKEOVER_DISARMED"
               scopeType := "GLOBAL"
               scopeKey := "GLOBAL"
               actorRuntimeInstanceId := some owner
               fencingToken := fencingToken
               schedulerFencingToken := schedulerFencingToken
               occurredAt := acquiredAt }] }

def startExecutionControl (t : RuntimeTables) (runtimeInstanceId : UUID) (now leaseExpiresAt : DateTime) :
    Except PyError (RuntimeTables × Bool) := do
  if ← atMost leaseExpiresAt now then .error ⟨.valueError, "lease_expires_at must be after now"⟩
  else
    let t ← t.addInstance runtimeInstanceId now
    match t.lease? collate executionControl with
    | none =>
      let lease ← OpsSchedulerLease.create executionControl runtimeInstanceId now leaseExpiresAt
      .ok ({ t with leases := t.leases ++ [lease] }, true)
    | some lease =>
      -- unlike a named acquisition, its own running lease refuses an instance too
      if ← lease.runs now then .ok (t, false)
      else
        let lease ← lease.take runtimeInstanceId now leaseExpiresAt
        let t ← (t.writeLease collate lease).disarm collate runtimeInstanceId now leaseExpiresAt lease.fencingToken
        .ok (t, true)

end

end AutoTrader.Operations
