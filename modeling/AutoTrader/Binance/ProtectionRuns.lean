import AutoTrader.Binance.ProtectionService
import AutoTrader.Runtime.Execution

/-! Runs of the protection service against one table, a clock, a venue and an emergency
path that may answer anything. -/

namespace AutoTrader.Binance

open AutoTrader.Domain AutoTrader.Execution AutoTrader.Runtime

/-! ### Surroundings -/

/-- What a run meets: the readings of the clock in their order, the venue's answer to each
request, and what the emergency path answers. -/
structure Surroundings where
  clock : Nat → DateTime
  venue : BrokerRequest → Except PyError BrokerResponse
  prepareFullClose : EntryFill → Except PyError BrokerOrderCommand
  submitLocked : BrokerOrderCommand → Except PyError BrokerWriteResult
  recoverByClientId : String → Except PyError BrokerWriteResult
  confirmZeroPosition : EntryFill → Except PyError Bool
  cancelEntryAndAdds : UUID → Except PyError Unit
  haltAccount : UUID → String → Except PyError Unit

/-- `readings` is how often the clock was read. -/
structure AlgoWorld where
  table : AlgoTable
  readings : Nat
  performed : List AlgoOp

/-- The operations of the fail-safe. -/
def AlgoOp.isFailSafe : AlgoOp → Bool
  | .prepareFullClose _ | .submitLocked _ | .recoverByClientId _ | .confirmZeroPosition _
  | .cancelEntryAndAdds _ | .haltAccount _ _ => true
  | _ => false

def AlgoOp.isWithdrawal : AlgoOp → Bool
  | .send request => request.method = .delete
  | _ => false

/-- A store operation that raised left the table as it was. -/
def tableAfter {α : Type} (t : AlgoTable) : Except PyError (AlgoTable × α) → AlgoTable
  | .ok (t', _) => t'
  | .error _ => t

section World

variable (sha256 : String → Digest) (s : Surroundings)

def AlgoWorld.reply (w : AlgoWorld) : (op : AlgoOp) → Except PyError op.Result
  | .clock => .ok (s.clock w.readings)
  | .prepare record => (AlgoTable.prepare sha256 w.table record).map Prod.snd
  | .loadByClientAlgoId clientAlgoId => AlgoTable.loadByClientAlgoId sha256 w.table clientAlgoId
  | .finish clientAlgoId state result =>
    (AlgoTable.finish sha256 w.table clientAlgoId state result).map Prod.snd
  | .send request => s.venue request
  | .prepareFullClose fill => s.prepareFullClose fill
  | .submitLocked command => s.submitLocked command
  | .recoverByClientId clientOrderId => s.recoverByClientId clientOrderId
  | .confirmZeroPosition fill => s.confirmZeroPosition fill
  | .cancelEntryAndAdds bindingId => s.cancelEntryAndAdds bindingId
  | .haltAccount bindingId reason => s.haltAccount bindingId reason

def AlgoWorld.after (w : AlgoWorld) (op : AlgoOp) : AlgoWorld where
  table :=
    match op with
    | .prepare record => tableAfter w.table (AlgoTable.prepare sha256 w.table record)
    | .finish clientAlgoId state result =>
      tableAfter w.table (AlgoTable.finish sha256 w.table clientAlgoId state result)
    | _ => w.table
  readings :=
    match op with
    | .clock => w.readings + 1
    | _ => w.readings
  performed := w.performed ++ [op]

def AlgoWorld.answer (w : AlgoWorld) (op : AlgoOp) : Except PyError op.Result × AlgoWorld :=
  (w.reply sha256 s op, w.after sha256 op)

/-- A run of an action in a world. -/
def AlgoWorld.exec {α : Type} (w : AlgoWorld) (x : AlgoAct α) : Except PyError α × AlgoWorld :=
  x.exec (AlgoWorld.answer sha256 s) w

/-- Nothing happened yet. -/
def AlgoWorld.start (t : AlgoTable) : AlgoWorld := ⟨t, 0, []⟩

end World

/-! ### Running -/

section Running

variable {sha256 : String → Digest} {s : Surroundings} {w : AlgoWorld}

theorem run_bind_ok {α β : Type} {w' : AlgoWorld} {x : AlgoAct α} {a : α}
    (hx : w.exec sha256 s x = (.ok a, w')) (f : α → AlgoAct β) :
    w.exec sha256 s (x >>= f) = w'.exec sha256 s (f a) :=
  Action.exec_bind_ok f hx

theorem run_bind_error {α β : Type} {w' : AlgoWorld} {x : AlgoAct α} {e : PyError}
    (hx : w.exec sha256 s x = (.error e, w')) (f : α → AlgoAct β) :
    w.exec sha256 s (x >>= f) = (.error e, w') :=
  Action.exec_bind_error f hx

theorem run_ofExcept {α β : Type} {x : Except PyError α} {a : α} (h : x = .ok a) (f : α → AlgoAct β) :
    w.exec sha256 s (Action.ofExcept x >>= f) = w.exec sha256 s (f a) := by
  subst h
  rfl

theorem run_ofExcept_error {α β : Type} {x : Except PyError α} {e : PyError} (h : x = .error e)
    (f : α → AlgoAct β) : w.exec sha256 s (Action.ofExcept x >>= f) = (.error e, w) := by
  subst h
  rfl

theorem run_perform {β : Type} {op : AlgoOp} {r : op.Result} (h : w.reply sha256 s op = .ok r)
    (f : op.Result → AlgoAct β) :
    w.exec sha256 s (Action.perform op >>= f) = (w.after sha256 op).exec sha256 s (f r) :=
  Action.exec_bind_ok f (by rw [Action.exec_perform, AlgoWorld.answer, h])

theorem run_perform_error {β : Type} {op : AlgoOp} {e : PyError} (h : w.reply sha256 s op = .error e)
    (f : op.Result → AlgoAct β) :
    w.exec sha256 s (Action.perform op >>= f) = (.error e, w.after sha256 op) :=
  Action.exec_bind_error f (by rw [Action.exec_perform, AlgoWorld.answer, h])

theorem run_try {β : Type} {op : AlgoOp} {r : op.Result} (h : w.reply sha256 s op = .ok r)
    (handler : PyError → AlgoAct op.Result) (f : op.Result → AlgoAct β) :
    w.exec sha256 s ((Action.perform op).tryCatch handler >>= f) = (w.after sha256 op).exec sha256 s (f r) :=
  run_bind_ok (Action.exec_tryCatch_ok handler (by rw [Action.exec_perform, AlgoWorld.answer, h])) f

theorem run_try_error {β : Type} {op : AlgoOp} {e : PyError} (h : w.reply sha256 s op = .error e)
    (handler : PyError → AlgoAct op.Result) (f : op.Result → AlgoAct β) :
    w.exec sha256 s ((Action.perform op).tryCatch handler >>= f) =
      (w.after sha256 op).exec sha256 s (handler e >>= f) := by
  have hcaught : w.exec sha256 s ((Action.perform op).tryCatch handler) =
      (w.after sha256 op).exec sha256 s (handler e) :=
    Action.exec_tryCatch_error handler (by rw [Action.exec_perform, AlgoWorld.answer, h])
  obtain ⟨r, w', hrun⟩ : ∃ r w', (w.after sha256 op).exec sha256 s (handler e) = (r, w') := ⟨_, _, rfl⟩
  cases r with
  | error e' => rw [run_bind_error (hcaught.trans hrun), run_bind_error hrun]
  | ok a => rw [run_bind_ok (hcaught.trans hrun), run_bind_ok hrun]

/-! ### The fail-safe leaves its mark -/

/-- The fail-safe was reached. -/
def AlgoWorld.Alarmed (w : AlgoWorld) : Prop := ∃ op ∈ w.performed, op.isFailSafe

theorem Alarmed.exec {α : Type} (h : w.Alarmed) (x : AlgoAct α) : (w.exec sha256 s x).2.Alarmed := by
  refine Action.exec_keeps (fun w op hw => ?_) x h
  obtain ⟨other, hother, halarm⟩ := hw
  exact ⟨other, List.mem_append_left _ hother, halarm⟩

/-- Once the first part of an action reached the fail-safe, the whole did. -/
theorem Alarmed.bind {α β : Type} {x : AlgoAct α} (h : (w.exec sha256 s x).2.Alarmed) (f : α → AlgoAct β) :
    (w.exec sha256 s (x >>= f)).2.Alarmed := by
  obtain ⟨r, w', hx⟩ : ∃ r w', w.exec sha256 s x = (r, w') := ⟨_, _, rfl⟩
  rw [hx] at h
  cases r with
  | error e =>
    rw [run_bind_error hx]
    exact h
  | ok a =>
    rw [run_bind_ok hx]
    exact Alarmed.exec h (f a)

theorem failSafe_alarmed {record : AlgoOrderRecord} (hopen : record.state ≠ .emergencyClosed)
    (reason : String) (observedAlgoId : Option String) :
    (w.exec sha256 s (failSafe record reason observedAlgoId)).2.Alarmed := by
  obtain ⟨next, hnext⟩ : ∃ next, (runFailSafe record reason observedAlgoId).run =
      .perform (.prepareFullClose record.entryFill) next := ⟨_, rfl⟩
  have hfirst : (w.after sha256 (.prepareFullClose record.entryFill)).Alarmed :=
    ⟨_, List.mem_append_right _ (List.mem_singleton_self _), rfl⟩
  rw [failSafe, if_neg hopen, AlgoWorld.exec, Action.exec, hnext]
  exact Alarmed.exec hfirst (ExceptT.mk (next _))

/-! ### The deadline -/

variable {record : AlgoOrderRecord}

/-- Past the deadline the fail-safe runs. -/
theorem failSafeIfOverdue_late (hlate : overdue record (s.clock w.readings) = .ok true)
    (hopen : record.state ≠ .emergencyClosed) (observedAlgoId : Option String) (message : String) :
    (w.exec sha256 s (failSafeIfOverdue record observedAlgoId message)).2.Alarmed := by
  rw [failSafeIfOverdue, run_perform (r := s.clock w.readings) rfl, run_ofExcept hlate]
  exact Alarmed.bind (failSafe_alarmed hopen _ _) _

variable (sha256) in
/-- Before it the clock was read, and that is all. -/
theorem failSafeIfOverdue_inTime (hlate : overdue record (s.clock w.readings) ≠ .ok true)
    (observedAlgoId : Option String) (message : String) :
    ∃ r, w.exec sha256 s (failSafeIfOverdue record observedAlgoId message) = (r, w.after sha256 .clock) := by
  rw [failSafeIfOverdue, run_perform (r := s.clock w.readings) rfl]
  cases hover : overdue record (s.clock w.readings) with
  | error e => exact ⟨.error e, rfl⟩
  | ok late =>
    cases late with
    | true => exact absurd hover hlate
    | false => exact ⟨.ok (), rfl⟩

theorem unresolved_late {α : Type} (hlate : overdue record (s.clock w.readings) = .ok true)
    (hopen : record.state ≠ .emergencyClosed) (message : String) :
    (w.exec sha256 s (unresolved record message : AlgoAct α)).2.Alarmed :=
  Alarmed.bind (failSafeIfOverdue_late hlate hopen _ _) _

variable (sha256) in
theorem unresolved_inTime {α : Type} (hlate : overdue record (s.clock w.readings) ≠ .ok true)
    (message : String) :
    ∃ e, w.exec sha256 s (unresolved record message : AlgoAct α) = (.error e, w.after sha256 .clock) := by
  obtain ⟨r, hr⟩ := failSafeIfOverdue_inTime sha256 hlate none deadlineMessage
  cases r with
  | error e => exact ⟨e, run_bind_error hr _⟩
  | ok u => exact ⟨_, run_bind_ok hr _⟩

theorem acceptActive_late {result : ProtectionResult}
    (hlate : overdue record (s.clock w.readings) = .ok true) (hopen : record.state ≠ .emergencyClosed) :
    (w.exec sha256 s (acceptActive record result)).2.Alarmed :=
  Alarmed.bind (failSafeIfOverdue_late hlate hopen _ _) _

theorem queryProtection_late
    (hanswered : ∀ e, s.venue (algoOrderRequest .get record.clientAlgoId) = .error e → e.kind.isControl = false)
    (hlate : overdue record (s.clock w.readings) = .ok true) (hopen : record.state ≠ .emergencyClosed) :
    (w.exec sha256 s (queryProtection record)).2.Alarmed := by
  have hsent : overdue record (s.clock
      (w.after sha256 (.send (algoOrderRequest .get record.clientAlgoId))).readings) = .ok true := hlate
  unfold queryProtection
  cases hanswer : s.venue (algoOrderRequest .get record.clientAlgoId) with
  | error e =>
    have hreply : w.reply sha256 s (.send (algoOrderRequest .get record.clientAlgoId)) = .error e := hanswer
    rw [run_try_error hreply, if_neg (by simp [hanswered e hanswer])]
    exact Alarmed.bind (unresolved_late hsent hopen _) _
  | ok response =>
    have hreply : w.reply sha256 s (.send (algoOrderRequest .get record.clientAlgoId)) = .ok response := hanswer
    rw [run_try hreply]
    unfold acceptQueryResponse
    split
    · exact unresolved_late hsent hopen _
    split
    · exact unresolved_late hsent hopen _
    split
    · exact unresolved_late hsent hopen _
    · exact acceptActive_late hsent hopen

/-! ### Records that are there already -/

/-- The recovery of a readable record reads it again. -/
theorem run_recover (hrow : w.table.row? record.clientAlgoId = some record)
    (hreadable : AlgoTable.recordOf sha256 record = .ok record) :
    w.exec sha256 s (recoverByClientAlgoId sha256 record.clientAlgoId) =
      (w.after sha256 (.loadByClientAlgoId record.clientAlgoId)).exec sha256 s (recoverRecord record) := by
  have hvalid := AlgoTable.recordOf_valid hreadable
  have hid : requireClientAlgoId record.clientAlgoId = .ok () := by
    rw [hvalid.clientAlgoId]
    exact require_ok.mpr (clientAlgoIdText_isClientOrderId _)
  have hload : w.reply sha256 s (.loadByClientAlgoId record.clientAlgoId) = .ok (some record) :=
    AlgoTable.loadByClientAlgoId_some hrow hreadable
  rw [recoverByClientAlgoId, run_ofExcept hid, run_perform hload]
  exact run_ofExcept (AlgoOrderRecord.validate_ok.mpr hvalid) _

theorem run_existingOrRecoverStop (hrow : w.table.row? record.clientAlgoId = some record)
    (hreadable : AlgoTable.recordOf sha256 record = .ok record) (hsafe : record.state.isSafe = false) :
    w.exec sha256 s (existingOrRecoverStop sha256 record) =
      (w.after sha256 (.loadByClientAlgoId record.clientAlgoId)).exec sha256 s (recoverRecord record) := by
  rw [existingOrRecoverStop, if_neg (by simp [hsafe]), run_recover hrow hreadable]

/-- A safe record is answered with its result. -/
theorem run_existingOrRecoverStop_safe (hreadable : AlgoTable.recordOf sha256 record = .ok record)
    (hsafe : record.state.isSafe) :
    ∃ result, result.state = record.state ∧
      w.exec sha256 s (existingOrRecoverStop sha256 record) = (.ok result, w) := by
  obtain ⟨result, hsome, hstate⟩ := (AlgoTable.recordOf_valid hreadable).safe_result hsafe
  refine ⟨result, hstate, ?_⟩
  rw [existingOrRecoverStop, if_pos hsafe, assertedResult, hsome]
  rfl

end Running

end AutoTrader.Binance
