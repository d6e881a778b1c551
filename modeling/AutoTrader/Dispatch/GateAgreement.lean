import AutoTrader.Dispatch.System
import Mathlib.Tactic.Tauto

/-! The two gates on one snapshot of the tables. `decide_dispatch` lets a cancel and a
strict reduction past the arming checks; `SubmissionGate` never lets a strict reduction
through, and a cancel only where it would let an opening order through. -/

namespace AutoTrader.Dispatch

open AutoTrader.Domain AutoTrader.Execution AutoTrader.Runtime

/-- Every statement reads one unchanging snapshot. -/
def snapshot (shared : SharedTables) (t : OrderTables) (fresh : Bool) :
    (o : DispatchOp) → Except PyError o.Result
  | .store o => .ok (o.apply shared t).2
  | .marketDataFresh => .ok fresh
  | .commit | .close => .ok ()
  | .newUuid7 => .error ⟨.runtimeError, "no identifier in a snapshot"⟩
  | .submit _ | .cancel _ | .replace _ | .recoverSubmit _ _ =>
    .error ⟨.brokerTransportError, "no venue in a snapshot"⟩

variable {shared : SharedTables} {t : OrderTables} {fresh : Bool} {facts : RuntimeFacts}
  {commandId : UUID} {now : Instant} {row : PersistedOrderCommand}

def blockingIncidents (shared : SharedTables) : Nat := shared.incidents.countP Finding.blocks

def blockingReconciliations (shared : SharedTables) : Nat :=
  shared.reconciliationDiffs.countP Finding.blocks

def unresolvedUnknowns (t : OrderTables) : Nat := t.commands.countP (·.resultState = some .unknown)

theorem mayDispatch_eval (hrow : t.command? commandId = some row) :
    (mayDispatch commandId now).eval (snapshot shared t fresh) = .ok
      (!shared.controls.isEmpty && shared.controls.all fun control =>
        (decideDispatch (authorizationState row shared.leases control (blockingIncidents shared)
          (unresolvedUnknowns t) now)).allowed) := by
  simp only [mayDispatch, statement, Action.eval_bind, Action.eval_perform, snapshot,
    StoreOp.apply, Except.bind, hrow]
  split
  · rename_i h
    simp [h]
  · rename_i h
    simp [Action.eval_bind, snapshot, StoreOp.apply, Except.bind, blockingIncidents, unresolvedUnknowns, h]

theorem maySubmit_eval (hrow : t.command? commandId = some row) :
    (maySubmit (some facts) commandId now).eval (snapshot shared t fresh) = .ok
      (!shared.controls.isEmpty && shared.controls.all fun control =>
        (SubmissionGate.evaluate (submissionContext facts row control (blockingIncidents shared)
          (unresolvedUnknowns t) (blockingReconciliations shared) fresh now)).allowed) := by
  simp only [maySubmit, statement, Action.eval_bind, Action.eval_perform, snapshot,
    StoreOp.apply, Except.bind, hrow]
  split
  · rename_i h
    simp [h]
  · rename_i h
    simp [Action.eval_bind, snapshot, StoreOp.apply, Except.bind, blockingIncidents, unresolvedUnknowns,
      blockingReconciliations, h]

/-- What the submission gate asks of a control row before it lets a cancel through. -/
def cancelPasses (facts : RuntimeFacts) (now : Instant) (control : TradingControl) : Prop :=
  control.armed ∧ control.killSwitchLevel = .none ∧
    ∃ lease ∈ armLease control, lease.heldBy facts.localRuntimeInstanceId now

/-- The state in which the submission gate lets a cancel through. -/
structure CancelAdmitted (shared : SharedTables) (t : OrderTables) (fresh : Bool) (facts : RuntimeFacts)
    (now : Instant) : Prop where
  marketDataFresh : fresh = true
  noIncident : blockingIncidents shared = 0
  noUnknown : unresolvedUnknowns t = 0
  noDifference : blockingReconciliations shared = 0
  controls : ∀ control ∈ shared.controls, cancelPasses facts now control

/-- On a row a strict reduction never passes: its effect is `REDUCE`, which the gate only
accepts together with a `CANCEL` action. -/
theorem evaluate_reduction (hclass : row.authorityClass = .submitStrictReduction)
    (control : TradingControl) (blocking unknown reconciling : Nat) :
    (SubmissionGate.evaluate
      (submissionContext facts row control blocking unknown reconciling fresh now)).allowed = false := by
  have htype : row.commandType = .submit := PersistedOrderCommand.submit_of_strictReduction hclass
  rw [Bool.eq_false_iff, ne_eq, evaluate_allowed, increaseFailures_nil]
  simp [submissionContext, hclass, htype, closingAuthority, gateAction]

/-- A cancel is judged like an opening order: its authority is not the closing one. -/
theorem evaluate_cancel (htype : row.commandType = .cancel)
    (hpermitted : writesPermitted facts.runtimeMode facts.accountEnvironment facts.allowLive)
    (control : TradingControl) (blocking unknown reconciling : Nat) :
    (SubmissionGate.evaluate
      (submissionContext facts row control blocking unknown reconciling fresh now)).allowed ↔
      cancelPasses facts now control ∧ fresh = true ∧ blocking = 0 ∧ unknown = 0 ∧ reconciling = 0 := by
  have hclass : row.authorityClass = .cancel := PersistedOrderCommand.authority_of_cancel htype
  rw [evaluate_allowed, increaseFailures_nil, authorityFailures_nil]
  simp only [submissionContext, hclass, htype, closingAuthority, gateAction, cancelPasses, hpermitted,
    Option.mem_def]
  simp
  tauto

/-- Of the commands `decide_dispatch` lets past the arming checks, the store's submission
check authorizes exactly the cancels in a state that admits them. -/
theorem maySubmit_iff (hrow : t.command? commandId = some row)
    (hreducing : row.authorityClass = .submitStrictReduction ∨ row.commandType = .cancel)
    (hpermitted : writesPermitted facts.runtimeMode facts.accountEnvironment facts.allowLive)
    (hdispatch : (mayDispatch commandId now).eval (snapshot shared t fresh) = .ok true) :
    (maySubmit (some facts) commandId now).eval (snapshot shared t fresh) = .ok true ↔
      row.commandType = .cancel ∧ CancelAdmitted shared t fresh facts now := by
  rw [mayDispatch_eval hrow] at hdispatch
  rw [maySubmit_eval hrow]
  simp only [Except.ok.injEq, Bool.and_eq_true, Bool.not_eq_true', List.isEmpty_eq_false_iff,
    List.all_eq_true] at hdispatch ⊢
  obtain ⟨control, hcontrol⟩ := List.exists_mem_of_ne_nil _ hdispatch.1
  rcases hreducing with hclass | htype
  · have htype := PersistedOrderCommand.submit_of_strictReduction hclass
    constructor
    · rintro ⟨-, hall⟩
      have hpass := hall control hcontrol
      rw [evaluate_reduction hclass] at hpass
      cases hpass
    · rintro ⟨hcancel, -⟩
      rw [htype] at hcancel
      cases hcancel
  · simp only [evaluate_cancel htype hpermitted]
    constructor
    · rintro ⟨-, hall⟩
      obtain ⟨-, hfresh, hincident, hunknown, hdifference⟩ := hall control hcontrol
      exact ⟨htype, hfresh, hincident, hunknown, hdifference, fun other hother => (hall other hother).1⟩
    · rintro ⟨-, hadmitted⟩
      exact ⟨hdispatch.1, fun other hother => ⟨hadmitted.controls other hother,
        hadmitted.marketDataFresh, hadmitted.noIncident, hadmitted.noUnknown, hadmitted.noDifference⟩⟩

/-- A cancel on the sample store, which nothing troubles. -/
theorem maySubmit_iff_cancel :
    (maySubmit (some sampleFacts) (sampleId 10) sampleNow.instant).eval
        (snapshot sampleShared ⟨[sampleRow .cancel .cancel rfl], []⟩ true) = .ok true ↔
      CommandType.cancel = .cancel ∧
        CancelAdmitted sampleShared ⟨[sampleRow .cancel .cancel rfl], []⟩ true sampleFacts
          sampleNow.instant :=
  maySubmit_iff (show _ = some (sampleRow .cancel .cancel rfl) from rfl) (.inr rfl) rfl (by decide +kernel)

/-- A strict reduction that `decide_dispatch` authorizes, on a store in no trouble at all,
is refused by the submission gate. -/
theorem reduction_refused :
    ¬ ∀ (shared : SharedTables) (t : OrderTables) (fresh : Bool) (facts : RuntimeFacts)
      (commandId : UUID) (now : Instant) (row : PersistedOrderCommand),
      t.command? commandId = some row →
      (row.authorityClass = .submitStrictReduction ∨ row.commandType = .cancel) →
      writesPermitted facts.runtimeMode facts.accountEnvironment facts.allowLive →
      (mayDispatch commandId now).eval (snapshot shared t fresh) = .ok true →
      (maySubmit (some facts) commandId now).eval (snapshot shared t fresh) = .ok true := by
  intro h
  have hrun := h sampleShared ⟨[sampleRow .submit .submitStrictReduction rfl], []⟩ true sampleFacts
    (sampleId 10) sampleNow.instant (sampleRow .submit .submitStrictReduction rfl) rfl (.inl rfl) rfl
    (by decide +kernel)
  revert hrun
  decide +kernel

end AutoTrader.Dispatch
