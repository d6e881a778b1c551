import AutoTrader.Execution.Commands

/-! The two gates in front of every venue write: `decide_dispatch`, which looks at the
execution lease and the control, and `SubmissionGate`, which looks at the arming lease
and the runtime facts. -/

namespace AutoTrader.Execution

open AutoTrader.Domain

structure GateDecision where
  allowed : Bool
  reasonCodes : List String
  deriving DecidableEq

private def deny (code : String) : GateDecision := ⟨false, [code]⟩

private def allow : GateDecision := ⟨true, []⟩

/-! ### Dispatch authorization -/

structure DispatchAuthorizationState where
  now : Instant
  notAfter : Instant
  attemptRecorded : Bool
  commandOwner : Option UUID
  commandFencingToken : Nat
  leaseOwner : Option UUID
  leaseFencingToken : Option Nat
  leaseExpiresAt : Option Instant
  controlOwner : Option UUID
  controlFencingToken : Option Nat
  controlExpiresAt : Option Instant
  controlArmed : Bool
  killSwitchActive : Bool
  blockingIncidentCount : Nat
  unresolvedUnknownCount : Nat
  strictReductionProven : Bool
  cancelAuthorized : Bool

/-- The checks on the execution lease, in the source's order. -/
def leaseFailure (state : DispatchAuthorizationState) : Option String :=
  match state.leaseOwner, state.leaseExpiresAt, state.leaseFencingToken with
  | some owner, some expiresAt, some token =>
    if expiresAt ≤ state.now then some "EXECUTION_LEASE_EXPIRED"
    else if some owner ≠ state.commandOwner then some "LEASE_OWNER_MISMATCH"
    else if token ≠ state.commandFencingToken then some "LEASE_FENCING_MISMATCH"
    else none
  | _, _, _ => some "EXECUTION_LEASE_MISSING"

/-- The checks on the control row, in the source's order. -/
def controlFailure (state : DispatchAuthorizationState) : Option String :=
  match state.controlOwner, state.controlExpiresAt, state.controlFencingToken with
  | some owner, some expiresAt, some token =>
    if expiresAt ≤ state.now then some "ARM_CONTROL_EXPIRED"
    else if some owner ≠ state.commandOwner then some "ARM_CONTROL_OWNER_MISMATCH"
    else if token ≠ state.commandFencingToken then some "ARM_CONTROL_FENCING_MISMATCH"
    else if ¬ state.controlArmed then some "GLOBAL_DISARMED"
    else if state.killSwitchActive then some "KILL_SWITCH_ACTIVE"
    else if state.blockingIncidentCount ≠ 0 then some "BLOCKING_INCIDENT_ACTIVE"
    else if state.unresolvedUnknownCount ≠ 0 then some "UNKNOWN_ORDER_ACTIVE"
    else none
  | _, _, _ => some "ARM_CONTROL_MISSING"

/-- Fail closed from one locked state snapshot before broker I/O. -/
def decideDispatch (state : DispatchAuthorizationState) : GateDecision :=
  if state.attemptRecorded then deny "DISPATCH_ALREADY_ATTEMPTED"
  else if state.notAfter ≤ state.now then deny "COMMAND_EXPIRED"
  else match leaseFailure state with
    | some code => deny code
    | none =>
      -- a cancel or a proven reduction passes without looking at the control
      if state.cancelAuthorized then allow
      else if state.strictReductionProven then allow
      else match controlFailure state with
        | some code => deny code
        | none => allow

/-- The one code a refused dispatch is given. -/
def dispatchRefusal (state : DispatchAuthorizationState) : Option String :=
  if state.attemptRecorded then some "DISPATCH_ALREADY_ATTEMPTED"
  else if state.notAfter ≤ state.now then some "COMMAND_EXPIRED"
  else (leaseFailure state).or
    (if state.cancelAuthorized || state.strictReductionProven then none else controlFailure state)

theorem decideDispatch_reasonCodes (state : DispatchAuthorizationState) :
    (decideDispatch state).reasonCodes = (dispatchRefusal state).toList := by
  unfold decideDispatch dispatchRefusal
  cases state.attemptRecorded with
  | true => rfl
  | false =>
    by_cases hlate : state.notAfter ≤ state.now
    · simp [hlate, deny]
    · cases leaseFailure state with
      | some code => simp [hlate, deny]
      | none =>
        cases state.cancelAuthorized <;> cases state.strictReductionProven <;>
          cases controlFailure state <;> simp [hlate, deny, allow]

/-! ### Submission gate -/

inductive ExposureEffect
  | increase
  | reduce
  | flat
  | flip
  | readOnly
  | unknown
  deriving DecidableEq

inductive GateAction
  | submit
  | cancel
  | replace
  deriving DecidableEq

structure ArmLease where
  ownerRuntimeInstanceId : UUID
  acquiredAt : Instant
  expiresAt : Instant
  fencingToken : Nat
  rowVersion : Int
  deriving DecidableEq

structure SubmissionContext where
  now : Instant
  action : GateAction
  runtimeMode : RuntimeMode
  allowLive : Bool
  accountEnvironment : RuntimeMode
  localRuntimeInstanceId : UUID
  locallyArmed : Bool
  armLease : Option ArmLease
  databaseWritable : Bool
  marketDataFresh : Bool
  activeKillSwitch : Bool
  blockingIncidentCount : Int
  unresolvedUnknownCount : Int
  blockingReconciliationCount : Int
  exposureEffect : ExposureEffect

private def reasonIf (condition : Bool) (code : String) : List String :=
  if condition then [code] else []

def authorityFailures (context : SubmissionContext) : List String :=
  reasonIf (!context.databaseWritable) "DATABASE_UNWRITABLE" ++
  match context.armLease with
  | none => ["ARM_LEASE_MISSING"]
  | some lease =>
    reasonIf (lease.expiresAt ≤ context.now) "ARM_LEASE_EXPIRED" ++
    reasonIf (lease.ownerRuntimeInstanceId ≠ context.localRuntimeInstanceId) "ARM_LEASE_NOT_OWNED" ++
    reasonIf (context.now < lease.acquiredAt ∨ lease.fencingToken = 0 ∨ lease.rowVersion ≤ 0)
      "ARM_LEASE_INVALID"

/-- The three count checks: a negative count is invalid, a positive one blocks. -/
private def countFailures (count : Int) (invalid active : String) : List String :=
  if count < 0 then [invalid] else reasonIf (0 < count) active

def increaseFailures (context : SubmissionContext) : List String :=
  reasonIf (!context.locallyArmed) "LOCAL_DISARMED" ++
  (match context.runtimeMode with
  | .live =>
    reasonIf (!context.allowLive) "LIVE_NOT_ALLOWED" ++
    reasonIf (context.accountEnvironment ≠ .live) "ACCOUNT_ENVIRONMENT_MISMATCH"
  | .paper => reasonIf (context.accountEnvironment ≠ .paper) "ACCOUNT_ENVIRONMENT_MISMATCH"
  | .shadow => ["RUNTIME_MODE_DENIED"]) ++
  reasonIf (!context.marketDataFresh) "MARKET_DATA_STALE" ++
  reasonIf context.activeKillSwitch "KILL_SWITCH_ACTIVE" ++
  countFailures context.blockingIncidentCount "BLOCKING_INCIDENT_STATE_INVALID"
    "BLOCKING_INCIDENT_ACTIVE" ++
  countFailures context.unresolvedUnknownCount "UNKNOWN_ORDER_STATE_INVALID" "UNKNOWN_ORDER_ACTIVE" ++
  countFailures context.blockingReconciliationCount "RECONCILIATION_STATE_INVALID"
    "RECONCILIATION_BLOCKING" ++
  (match context.exposureEffect with
  | .unknown => ["EXPOSURE_EFFECT_UNKNOWN"]
  | .increase => []
  | _ => ["EXPOSURE_EFFECT_NOT_ALLOWED"])

namespace SubmissionGate

def evaluate (context : SubmissionContext) : GateDecision :=
  match authorityFailures context with
  | [] =>
    if context.action = .cancel ∧ context.exposureEffect = .reduce then allow
    else ⟨(increaseFailures context).isEmpty, increaseFailures context⟩
  | reasons => ⟨false, reasons⟩

end SubmissionGate

/-! ### What the submission gate lets through -/

/-- The runtime mode and the account environment permit venue writes. -/
def writesPermitted (mode environment : RuntimeMode) (allowLive : Bool) : Bool :=
  match mode with
  | .live => allowLive && environment = .live
  | .paper => environment = .paper
  | .shadow => false

/-- The arming lease is the local runtime's, running and well formed. -/
def ArmLease.heldBy (lease : ArmLease) (runtime : UUID) (now : Instant) : Prop :=
  now < lease.expiresAt ∧ lease.ownerRuntimeInstanceId = runtime ∧ lease.acquiredAt ≤ now ∧
    lease.fencingToken ≠ 0 ∧ 0 < lease.rowVersion

instance (lease : ArmLease) (runtime : UUID) (now : Instant) : Decidable (lease.heldBy runtime now) :=
  inferInstanceAs (Decidable (_ ∧ _))

private theorem reasonIf_nil (condition : Bool) (code : String) :
    reasonIf condition code = [] ↔ condition = false := by
  cases condition <;> simp [reasonIf]

private theorem countFailures_nil (count : Int) (invalid active : String) :
    countFailures count invalid active = [] ↔ count = 0 := by
  unfold countFailures
  split
  · simp only [List.cons_ne_nil, false_iff]
    omega
  · rw [reasonIf_nil, decide_eq_false_iff_not]
    omega

theorem authorityFailures_nil (context : SubmissionContext) :
    authorityFailures context = [] ↔ context.databaseWritable ∧
      ∃ lease, context.armLease = some lease ∧
        lease.heldBy context.localRuntimeInstanceId context.now := by
  unfold authorityFailures
  cases context.armLease with
  | none => simp
  | some lease =>
    simp only [List.append_eq_nil_iff, reasonIf_nil, ArmLease.heldBy, Option.some.injEq,
      exists_eq_left', decide_eq_false_iff_not, not_or, not_lt, not_le, Bool.not_eq_false',
      ne_eq, not_not, and_assoc]

theorem increaseFailures_nil (context : SubmissionContext) :
    increaseFailures context = [] ↔ context.locallyArmed ∧
      writesPermitted context.runtimeMode context.accountEnvironment context.allowLive ∧
      context.marketDataFresh ∧ context.activeKillSwitch = false ∧
      context.blockingIncidentCount = 0 ∧ context.unresolvedUnknownCount = 0 ∧
      context.blockingReconciliationCount = 0 ∧ context.exposureEffect = .increase := by
  unfold increaseFailures
  cases context.runtimeMode <;> cases context.exposureEffect <;>
    simp [reasonIf_nil, countFailures_nil, writesPermitted, and_assoc]

theorem evaluate_allowed (context : SubmissionContext) :
    (SubmissionGate.evaluate context).allowed ↔ authorityFailures context = [] ∧
      (context.action = .cancel ∧ context.exposureEffect = .reduce ∨
        increaseFailures context = []) := by
  unfold SubmissionGate.evaluate
  cases hauthority : authorityFailures context with
  | nil =>
    dsimp only
    split
    · rename_i h
      simp [allow, h]
    · rename_i h
      simp [h]
  | cons reason reasons => simp

end AutoTrader.Execution
