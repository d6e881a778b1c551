import AutoTrader.Binance.ProtectionRuns

/-! What a move of a stop does to the position behind it. -/

namespace AutoTrader.Binance

open AutoTrader.Domain AutoTrader.Execution AutoTrader.Runtime

/-! ### What a move promises -/

def AlgoTable.Active (t : AlgoTable) (clientAlgoId : String) : Prop :=
  ∃ row, t.row? clientAlgoId = some row ∧ row.state = .active

/-- The fail-safe was not reached, and either the replacement is active or the caller got
an error and the stop it was to replace still stands. -/
structure KeepsPosition (before : AlgoTable) (clientAlgoId superseded : String)
    (out : Except PyError ProtectionResult × AlgoWorld) : Prop where
  noFailSafe : ∀ op ∈ out.2.performed, op.isFailSafe = false
  ended : match out.1 with
    | .ok result => result.state = .active ∧ out.2.table.Active clientAlgoId
    | .error _ => out.2.table.Active clientAlgoId ∨
      (out.2.table.row? superseded = before.row? superseded ∧
        ∀ op ∈ out.2.performed, op.isWithdrawal = false)

/-- The checks of a move and its claim, on a table and a first reading of the clock. -/
def claimMove (sha256 : String → Digest) (t : AlgoTable) (clock : DateTime) (fill : EntryFill)
    (authority : ProtectionAuthority) (placementCommandId : UUID) (superseded : String) :
    Except PyError (BrokerRequest × AlgoTable × AlgoOrderClaim) := do
  checkMove fill placementCommandId superseded
  let working ← AlgoTable.loadByClientAlgoId sha256 t superseded
  let (trigger, request) ← moveRequest sha256 fill authority placementCommandId working
  let prepared ← placementRecord sha256 fill trigger request (some placementCommandId) clock
  let (t', claim) ← AlgoTable.prepare sha256 t prepared
  pure (request, t', claim)

/-- The states of a placement whose outcome is still asked for. -/
def AlgoOrderState.isOpen : AlgoOrderState → Bool
  | .prepared | .ambiguous | .rejected => true
  | _ => false

/-- The condition on a claimed move: its own placement was not accepted after the deadline;
and an earlier attempt at it did not end in the fail-safe, and is not asked for after
the deadline. -/
def MoveInTime (s : Surroundings) (request : BrokerRequest) (claim : AlgoOrderClaim) : Prop :=
  let late := overdue claim.record (s.clock 1) = .ok true
  if claim.acquired then ∀ response, s.venue request = .ok response → response.status = 200 → ¬late
  else
    claim.record.state ≠ .unknown ∧ claim.record.state ≠ .emergencyClosed ∧
      (claim.record.state.isOpen →
        (∀ e, s.venue (algoOrderRequest .get claim.record.clientAlgoId) = .error e → e.kind.isControl = false) →
        ¬late)

/-! ### Steps that leave the old stop alone -/

section Runs

variable {sha256 : String → Digest} {s : Surroundings} {before : AlgoTable} {superseded clientAlgoId : String}
  {w : AlgoWorld} {record : AlgoOrderRecord} {response : BrokerResponse}

/-- So far no fail-safe and no withdrawal. -/
def AlgoWorld.Quiet (w : AlgoWorld) : Prop :=
  ∀ op ∈ w.performed, op.isFailSafe = false ∧ op.isWithdrawal = false

theorem quiet_after {op : AlgoOp} (h : w.Quiet) (hop : op.isFailSafe = false ∧ op.isWithdrawal = false) :
    (w.after sha256 op).Quiet := by
  intro other hother
  rcases List.mem_append.mp hother with hold | hnew
  · exact h other hold
  · rw [List.mem_singleton.mp hnew]
    exact hop

/-- Nor was the old stop written. -/
structure Untouched (before : AlgoTable) (superseded : String) (w : AlgoWorld) : Prop where
  performed : w.Quiet
  row : w.table.row? superseded = before.row? superseded

theorem Untouched.error (h : Untouched before superseded w) (e : PyError) :
    KeepsPosition before clientAlgoId superseded (.error e, w) :=
  ⟨fun op hop => (h.performed op hop).1, .inr ⟨h.row, fun op hop => (h.performed op hop).2⟩⟩

theorem Untouched.step (h : Untouched before superseded w) {op : AlgoOp}
    (hop : op.isFailSafe = false ∧ op.isWithdrawal = false)
    (hrow : (w.after sha256 op).table.row? superseded = w.table.row? superseded) :
    Untouched before superseded (w.after sha256 op) :=
  ⟨quiet_after h.performed hop, hrow.trans h.row⟩

theorem Untouched.clock (h : Untouched before superseded w) :
    Untouched before superseded (w.after sha256 .clock) := h.step ⟨rfl, rfl⟩ rfl

theorem Untouched.send (h : Untouched before superseded w) {request : BrokerRequest}
    (hmethod : request.method ≠ .delete) : Untouched before superseded (w.after sha256 (.send request)) :=
  h.step ⟨rfl, decide_eq_false hmethod⟩ rfl

theorem Untouched.finish (h : Untouched before superseded w) (hne : superseded ≠ clientAlgoId)
    (state : AlgoOrderState) (result : Option ProtectionResult) :
    Untouched before superseded (w.after sha256 (.finish clientAlgoId state result)) := by
  refine h.step ⟨rfl, rfl⟩ ?_
  show (tableAfter w.table (AlgoTable.finish sha256 w.table clientAlgoId state result)).row? superseded = _
  cases hfinish : AlgoTable.finish sha256 w.table clientAlgoId state result with
  | error e => rfl
  | ok p => exact (AlgoTable.finish_ok hfinish).2 superseded hne

/-- A `finish` that raised left the table as it was. -/
theorem Untouched.finish_error (h : Untouched before superseded w) {state : AlgoOrderState}
    {result : Option ProtectionResult} {e : PyError}
    (hfinish : AlgoTable.finish sha256 w.table clientAlgoId state result = .error e) :
    Untouched before superseded (w.after sha256 (.finish clientAlgoId state result)) := by
  refine h.step ⟨rfl, rfl⟩ ?_
  show (tableAfter w.table (AlgoTable.finish sha256 w.table clientAlgoId state result)).row? superseded = _
  rw [hfinish]
  rfl

variable (sha256) in
/-- An outcome written in passing: the write may raise, and otherwise the run goes on. -/
theorem run_finish {β : Type} (clientAlgoId : String) (state : AlgoOrderState)
    (result : Option ProtectionResult) (next : AlgoAct β) :
    let run := w.exec sha256 s ((Action.perform (AlgoOp.finish clientAlgoId state result) :
      AlgoAct AlgoOrderRecord) >>= fun _ => next)
    let w' := w.after sha256 (.finish clientAlgoId state result)
    (∃ e, run = (.error e, w')) ∨ run = w'.exec sha256 s next := by
  cases hfinish : w.reply sha256 s (.finish clientAlgoId state result) with
  | error e => exact .inl ⟨e, run_perform_error hfinish _⟩
  | ok r => exact .inr (run_perform hfinish _)

variable (sha256) in
theorem run_markAmbiguous {β : Type} (clientAlgoId : String) (next : AlgoAct β) :
    let run := w.exec sha256 s (protectionMarkAmbiguous clientAlgoId >>= fun _ => next)
    let w' := w.after sha256 (.finish clientAlgoId .ambiguous none)
    (∃ e, run = (.error e, w')) ∨ run = w'.exec sha256 s next := by
  cases hfinish : w.reply sha256 s (.finish clientAlgoId .ambiguous none) with
  | error e => exact .inl ⟨e, run_bind_error (run_perform_error hfinish _) _⟩
  | ok r => exact .inr (run_bind_ok (run_perform hfinish _) _)

theorem run_markAmbiguous_ok {β : Type} {clientAlgoId : String} {p : AlgoTable × AlgoOrderRecord}
    (hfinish : AlgoTable.finish sha256 w.table clientAlgoId .ambiguous none = .ok p) (next : AlgoAct β) :
    w.exec sha256 s (protectionMarkAmbiguous clientAlgoId >>= fun _ => next) =
      (w.after sha256 (.finish clientAlgoId .ambiguous none)).exec sha256 s next := by
  have hreply : w.reply sha256 s (.finish clientAlgoId .ambiguous none) = .ok p.2 := by
    simp only [AlgoWorld.reply, hfinish]
    rfl
  exact run_bind_ok (run_perform hreply _) _

/-! ### Acceptance before the deadline -/

theorem unresolved_keeps (h : Untouched before superseded w)
    (hlate : overdue record (s.clock w.readings) ≠ .ok true) (message : String) :
    KeepsPosition before clientAlgoId superseded (w.exec sha256 s (unresolved record message)) := by
  obtain ⟨e, he⟩ := unresolved_inTime sha256 (α := ProtectionResult) hlate message
  rw [he]
  exact h.clock.error e

theorem acceptActive_keeps (h : Untouched before superseded w)
    (hlate : overdue record (s.clock w.readings) ≠ .ok true) {result : ProtectionResult}
    (hstate : result.state = .active) :
    KeepsPosition before record.clientAlgoId superseded (w.exec sha256 s (acceptActive record result)) := by
  obtain ⟨r, hr⟩ := failSafeIfOverdue_inTime sha256 hlate result.providerAlgoId
    "Binance USD-M late protection required emergency close"
  cases r with
  | error e =>
    rw [acceptActive, run_bind_error hr]
    exact h.clock.error e
  | ok u =>
    rw [acceptActive, run_bind_ok hr]
    cases hfinish : AlgoTable.finish sha256 w.table record.clientAlgoId .active (some result) with
    | error e =>
      have hreply : (w.after sha256 .clock).reply sha256 s
          (.finish record.clientAlgoId .active (some result)) = .error e := by
        simp only [AlgoWorld.reply, AlgoWorld.after, hfinish]
        rfl
      rw [run_perform_error hreply]
      exact (h.clock.finish_error hfinish).error e
    | ok p =>
      have hreply : (w.after sha256 .clock).reply sha256 s
          (.finish record.clientAlgoId .active (some result)) = .ok p.2 := by
        simp only [AlgoWorld.reply, AlgoWorld.after, hfinish]
        rfl
      rw [run_perform hreply]
      refine ⟨fun op hop => ?_, hstate, ?_⟩
      · rcases List.mem_append.mp hop with hold | hnew
        · exact (h.clock.performed op hold).1
        · rw [List.mem_singleton.mp hnew]
          rfl
      · show (tableAfter w.table (AlgoTable.finish sha256 w.table _ _ _)).Active _
        rw [hfinish]
        exact (AlgoTable.finish_ok hfinish).1

/-! ### Recovery before the deadline -/

theorem acceptQueryResponse_keeps (h : Untouched before superseded w)
    (hlate : overdue record (s.clock w.readings) ≠ .ok true) :
    KeepsPosition before record.clientAlgoId superseded (w.exec sha256 s (acceptQueryResponse record response)) := by
  unfold acceptQueryResponse
  split
  · exact unresolved_keeps h hlate _
  split
  · exact unresolved_keeps h hlate _
  split
  · exact unresolved_keeps h hlate _
  · rename_i result hdecode
    exact acceptActive_keeps h hlate (decodeActiveProtection_ok hdecode).1

/-- The query is not a withdrawal. -/
theorem queryProtection_keeps (h : Untouched before superseded w)
    (hlate : (∀ e, s.venue (algoOrderRequest .get record.clientAlgoId) = .error e → e.kind.isControl = false) →
      overdue record (s.clock w.readings) ≠ .ok true) :
    KeepsPosition before record.clientAlgoId superseded (w.exec sha256 s (queryProtection record)) := by
  have hsent : Untouched before superseded
      (w.after sha256 (.send (algoOrderRequest .get record.clientAlgoId))) := h.send fun hmethod => by cases hmethod
  unfold queryProtection
  cases hanswer : s.venue (algoOrderRequest .get record.clientAlgoId) with
  | ok response =>
    have hreply : w.reply sha256 s (.send (algoOrderRequest .get record.clientAlgoId)) = .ok response := hanswer
    rw [run_try hreply]
    exact acceptQueryResponse_keeps hsent (hlate fun e he => by rw [hanswer] at he; cases he)
  | error e =>
    have hreply : w.reply sha256 s (.send (algoOrderRequest .get record.clientAlgoId)) = .error e := hanswer
    rw [run_try_error hreply]
    cases hcontrol : e.kind.isControl with
    | true =>
      rw [if_pos rfl]
      exact hsent.error e
    | false =>
      rw [if_neg Bool.false_ne_true]
      have hintime := hlate fun e' he' => by
        rw [hanswer] at he'
        cases he'
        exact hcontrol
      obtain ⟨e', hrun⟩ := unresolved_inTime sha256 (α := BrokerResponse)
        (w := w.after sha256 (.send (algoOrderRequest .get record.clientAlgoId))) hintime
        "Binance USD-M protection recovery is unavailable"
      rw [run_bind_error hrun]
      exact hsent.clock.error e'

/-- A record that was there already, before the deadline. -/
theorem existingOrRecoverStop_keeps (h : Untouched before superseded w)
    (hrow : w.table.row? record.clientAlgoId = some record)
    (hreadable : AlgoTable.recordOf sha256 record = .ok record)
    (hunknown : record.state ≠ .unknown) (hclosed : record.state ≠ .emergencyClosed)
    (hlate : record.state.isOpen →
      (∀ e, s.venue (algoOrderRequest .get record.clientAlgoId) = .error e → e.kind.isControl = false) →
      overdue record (s.clock w.readings) ≠ .ok true) :
    KeepsPosition before record.clientAlgoId superseded
      (w.exec sha256 s (existingOrRecoverStop sha256 record)) := by
  have hread : Untouched before superseded (w.after sha256 (.loadByClientAlgoId record.clientAlgoId)) :=
    h.step ⟨rfl, rfl⟩ rfl
  have hopen : record.state.isOpen → KeepsPosition before record.clientAlgoId superseded
      ((w.after sha256 (.loadByClientAlgoId record.clientAlgoId)).exec sha256 s (queryProtection record)) :=
    fun hopen => queryProtection_keeps hread (hlate hopen)
  cases hstate : record.state with
  | unknown => exact absurd hstate hunknown
  | emergencyClosed => exact absurd hstate hclosed
  | active =>
    obtain ⟨result, hresult, hrun⟩ := run_existingOrRecoverStop_safe (w := w) (s := s) hreadable (by rw [hstate]; rfl)
    rw [hrun]
    exact ⟨fun op hop => (h.performed op hop).1, hresult.trans hstate, record, hrow, hstate⟩
  | superseded =>
    rw [run_existingOrRecoverStop hrow hreadable (by rw [hstate]; rfl), recoverRecord, hstate]
    exact hread.error _
  | prepared | ambiguous | rejected =>
    rw [run_existingOrRecoverStop hrow hreadable (by rw [hstate]; rfl), recoverRecord, hstate]
    exact hopen (by rw [hstate]; rfl)

/-! ### Placement before the deadline -/

theorem markAmbiguous_keeps (h : Untouched before superseded w) (hne : superseded ≠ record.clientAlgoId)
    {next : AlgoAct ProtectionResult}
    (hnext : ∀ w', w'.readings = w.readings → Untouched before superseded w' →
      KeepsPosition before clientAlgoId superseded (w'.exec sha256 s next)) :
    KeepsPosition before clientAlgoId superseded
      (w.exec sha256 s (protectionMarkAmbiguous record.clientAlgoId >>= fun _ => next)) := by
  have hmarked : Untouched before superseded (w.after sha256 (.finish record.clientAlgoId .ambiguous none)) :=
    h.finish hne .ambiguous none
  rcases run_markAmbiguous sha256 (s := s) (w := w) record.clientAlgoId next with ⟨e, hrun⟩ | hrun
  · rw [hrun]
    exact hmarked.error e
  · rw [hrun]
    exact hnext _ rfl hmarked

theorem acceptMoveResponse_keeps (h : Untouched before superseded w) (hne : superseded ≠ record.clientAlgoId)
    (hlate : response.status = 200 → overdue record (s.clock w.readings) ≠ .ok true) :
    KeepsPosition before record.clientAlgoId superseded (w.exec sha256 s (acceptMoveResponse record response)) := by
  unfold acceptMoveResponse
  split
  · exact markAmbiguous_keeps h hne fun w' _ h' => h'.error _
  rename_i hknown
  split
  · have hrejected : Untouched before superseded (w.after sha256 (.finish record.clientAlgoId .rejected none)) :=
      h.finish hne .rejected none
    rcases run_finish sha256 (s := s) (w := w) record.clientAlgoId .rejected none
      (throw (notMoved "Binance USD-M stop move was rejected")) with ⟨e, hrun⟩ | hrun
    · rw [hrun]
      exact hrejected.error e
    · rw [hrun]
      exact hrejected.error _
  rename_i hclient
  rw [acceptPlacementResponse, if_neg hknown, if_neg hclient]
  split
  · exact markAmbiguous_keeps h hne fun w' _ h' => h'.error _
  rename_i hstatus
  have hintime := hlate (by simpa using hstatus)
  split
  · exact markAmbiguous_keeps h hne fun w' hreadings h' => unresolved_keeps h' (by rwa [hreadings]) _
  · rename_i result hdecode
    exact acceptActive_keeps h hintime (decodeActiveProtection_ok hdecode).1

/-! ### The withdrawal -/

/-- No fail-safe so far, and the stop is active. -/
structure Covered (clientAlgoId : String) (w : AlgoWorld) : Prop where
  noFailSafe : ∀ op ∈ w.performed, op.isFailSafe = false
  active : w.table.Active clientAlgoId

theorem Covered.keepsPosition (h : Covered clientAlgoId w) {r : Except PyError ProtectionResult}
    (hr : ∀ result, r = .ok result → result.state = .active) :
    KeepsPosition before clientAlgoId superseded (r, w) := by
  refine ⟨h.noFailSafe, ?_⟩
  cases r with
  | ok result => exact ⟨hr result rfl, h.active⟩
  | error e => exact .inl h.active

/-- The operations of a withdrawal. -/
def AlgoOp.withdraws (superseded : String) : AlgoOp → Prop
  | .send _ => True
  | .finish clientAlgoId _ _ => clientAlgoId = superseded
  | _ => False

theorem withdraw_within (superseded : String) : (withdraw superseded).Within (AlgoOp.withdraws superseded) := by
  have hmark : (protectionMarkAmbiguous superseded).Within (AlgoOp.withdraws superseded) := by
    have hfinish : (Action.perform (AlgoOp.finish superseded .ambiguous none) : AlgoAct AlgoOrderRecord).Within
        (AlgoOp.withdraws superseded) := Action.within_perform rfl
    exact hfinish.bind fun _ => Action.within_pure _
  refine (Action.within_ofExcept _).bind fun request => Action.Within.bind ?_ fun response => ?_
  · have hsend : (Action.perform (AlgoOp.send request) : AlgoAct BrokerResponse).Within
        (AlgoOp.withdraws superseded) := Action.within_perform trivial
    refine Action.Within.tryCatch (hsend.bind fun _ => Action.within_pure _) fun caught => hmark.bind fun _ => ?_
    split
    · exact Action.within_throw _
    · exact Action.within_pure _
  · cases response with
    | none => exact Action.within_pure _
    | some response =>
      refine (Action.within_ofExcept _).bind fun absent => ?_
      split
      · have hfinish : (Action.perform (AlgoOp.finish superseded .superseded none) :
            AlgoAct AlgoOrderRecord).Within (AlgoOp.withdraws superseded) := Action.within_perform rfl
        exact hfinish.bind fun _ => Action.within_pure _
      · exact hmark

theorem Covered.withdraws (hne : clientAlgoId ≠ superseded) {w : AlgoWorld} {op : AlgoOp}
    (h : Covered clientAlgoId w) (hop : op.withdraws superseded) :
    Covered clientAlgoId (AlgoWorld.answer sha256 s w op).2 := by
  have hlog : ∀ other ∈ w.performed ++ [op], other.isFailSafe = false := by
    intro other hother
    rcases List.mem_append.mp hother with hold | hnew
    · exact h.noFailSafe other hold
    · rw [List.mem_singleton.mp hnew]
      cases op <;> first | rfl | exact hop.elim
  refine ⟨hlog, ?_⟩
  cases op with
  | send request => exact h.active
  | finish other state result =>
    show (tableAfter w.table (AlgoTable.finish sha256 w.table other state result)).Active clientAlgoId
    cases hfinish : AlgoTable.finish sha256 w.table other state result with
    | error e => exact h.active
    | ok p =>
      obtain ⟨row, hrow, hactive⟩ := h.active
      refine ⟨row, ?_, hactive⟩
      rw [← hrow]
      exact (AlgoTable.finish_ok hfinish).2 clientAlgoId (hop ▸ hne)
  | _ => exact hop.elim

/-- A withdrawal cannot take the replacement down. -/
theorem Covered.withdraw (h : Covered clientAlgoId w) (hne : clientAlgoId ≠ superseded) :
    Covered clientAlgoId (w.exec sha256 s (Binance.withdraw superseded)).2 := by
  have hstep : ∀ w op, Covered clientAlgoId w → AlgoOp.withdraws superseded op →
      Covered clientAlgoId (AlgoWorld.answer sha256 s w op).2 := fun _ _ hw hop => hw.withdraws hne hop
  exact Action.exec_preserves hstep (withdraw_within superseded) h

/-! ### A whole move -/

theorem placeMove_keeps (h : Untouched before superseded w) (hne : superseded ≠ record.clientAlgoId)
    {request : BrokerRequest} (hmethod : request.method = .post)
    (hlate : ∀ response, s.venue request = .ok response → response.status = 200 →
      overdue record (s.clock w.readings) ≠ .ok true) :
    KeepsPosition before record.clientAlgoId superseded
      (w.exec sha256 s (placeMove record request superseded)) := by
  have hsent : Untouched before superseded (w.after sha256 (.send request)) :=
    h.send (by rw [hmethod]; decide)
  unfold placeMove
  cases hanswer : s.venue request with
  | error e =>
    have hreply : w.reply sha256 s (.send request) = .error e := hanswer
    rw [run_try_error hreply]
    have hmarked : Untouched before superseded
        ((w.after sha256 (.send request)).after sha256 (.finish record.clientAlgoId .ambiguous none)) :=
      hsent.finish hne .ambiguous none
    obtain ⟨e', hfailed⟩ : ∃ e', (w.after sha256 (.send request)).exec sha256 s
        (protectionMarkAmbiguous record.clientAlgoId >>= fun _ =>
          (throw (if e.kind.isControl then e else notMoved "Binance USD-M stop move outcome is unknown") :
            AlgoAct BrokerResponse)) =
        (.error e', (w.after sha256 (.send request)).after sha256 (.finish record.clientAlgoId .ambiguous none)) := by
      rcases run_markAmbiguous sha256 (s := s) (w := w.after sha256 (.send request)) record.clientAlgoId
        (throw (if e.kind.isControl then e else notMoved "Binance USD-M stop move outcome is unknown") :
          AlgoAct BrokerResponse) with ⟨e', hrun⟩ | hrun
      · exact ⟨e', hrun⟩
      · exact ⟨_, hrun⟩
    rw [run_bind_error hfailed]
    exact hmarked.error e'
  | ok response =>
    have hreply : w.reply sha256 s (.send request) = .ok response := hanswer
    rw [run_try hreply]
    have haccept : KeepsPosition before record.clientAlgoId superseded
        ((w.after sha256 (.send request)).exec sha256 s (acceptMoveResponse record response)) :=
      acceptMoveResponse_keeps hsent hne (hlate response hanswer)
    obtain ⟨r, w', hrun⟩ : ∃ r w', (w.after sha256 (.send request)).exec sha256 s
      (acceptMoveResponse record response) = (r, w') := ⟨_, _, rfl⟩
    rw [hrun] at haccept
    cases r with
    | error e =>
      rw [run_bind_error hrun]
      exact haccept
    | ok placed =>
      rw [run_bind_ok hrun]
      obtain ⟨hplaced, hactive⟩ := haccept.ended
      have hcovered : Covered record.clientAlgoId (w'.exec sha256 s (withdraw superseded)).2 :=
        Covered.withdraw ⟨haccept.noFailSafe, hactive⟩ hne.symm
      obtain ⟨r', w'', hwithdrawn⟩ : ∃ r' w'', w'.exec sha256 s (withdraw superseded) = (r', w'') := ⟨_, _, rfl⟩
      rw [hwithdrawn] at hcovered
      cases r' with
      | error e =>
        rw [run_bind_error hwithdrawn]
        exact hcovered.keepsPosition fun result hresult => by cases hresult
      | ok u =>
        rw [run_bind_ok hwithdrawn]
        exact hcovered.keepsPosition fun result hresult => by
          cases hresult
          exact hplaced

/-! ### After the deadline -/

/-- An accepted placement that comes too late ends in the fail-safe, readable or not. -/
theorem placeMove_late (hfresh : record.state = .prepared) (hvalid : record.Valid sha256)
    (hchecks : record.row.meetsChecks) (hrow : w.table.row? record.clientAlgoId = some record.row)
    {request : BrokerRequest} (hanswer : s.venue request = .ok response) (hstatus : response.status = 200)
    (hlate : overdue record (s.clock w.readings) = .ok true) :
    (w.exec sha256 s (placeMove record request superseded)).2.Alarmed := by
  have hopen : record.state ≠ .emergencyClosed := by
    rw [hfresh]
    decide
  have hknown : leavesUnknown response = false := by simp [leavesUnknown, isClientError, hstatus]
  have hclient : isClientError response = false := by simp [isClientError, hstatus]
  have hreply : w.reply sha256 s (.send request) = .ok response := hanswer
  rw [placeMove, run_try hreply]
  refine Alarmed.bind ?_ _
  rw [acceptMoveResponse, if_neg (by simp [hknown]), if_neg (by simp [hclient]), acceptPlacementResponse,
    if_neg (by simp [hknown]), if_neg (by simp [hclient]), if_neg (by simp [hstatus])]
  split
  · obtain ⟨t', row, hfinish⟩ := AlgoTable.finish_claimed hvalid hchecks hrow
      (show AlgoOrderState.ambiguous.isSafe = false from rfl)
    have hmarked : overdue record (s.clock ((w.after sha256 (.send request)).after sha256
      (.finish record.clientAlgoId .ambiguous none)).readings) = .ok true := hlate
    have hwritten : AlgoTable.finish sha256 (w.after sha256 (.send request)).table record.clientAlgoId
      .ambiguous none = .ok (t', row) := hfinish
    rw [run_markAmbiguous_ok hwritten]
    exact unresolved_late hmarked hopen _
  · have hsent : overdue record (s.clock (w.after sha256 (.send request)).readings) = .ok true := hlate
    exact acceptActive_late hsent hopen

/-- A record that ended in the fail-safe, or is asked for too late. -/
theorem existingOrRecoverStop_fails (hrow : w.table.row? record.clientAlgoId = some record)
    (hreadable : AlgoTable.recordOf sha256 record = .ok record)
    (hcondition : record.state ≠ .unknown → record.state ≠ .emergencyClosed → record.state.isOpen ∧
      (∀ e, s.venue (algoOrderRequest .get record.clientAlgoId) = .error e → e.kind.isControl = false) ∧
      overdue record (s.clock w.readings) = .ok true) :
    ¬KeepsPosition before clientAlgoId superseded (w.exec sha256 s (existingOrRecoverStop sha256 record)) := by
  have halarmed : (w.exec sha256 s (existingOrRecoverStop sha256 record)).2.Alarmed →
      ¬KeepsPosition before clientAlgoId superseded (w.exec sha256 s (existingOrRecoverStop sha256 record)) := by
    rintro ⟨op, hop, halarm⟩ hkeeps
    rw [hkeeps.noFailSafe op hop] at halarm
    cases halarm
  cases hstate : record.state with
  | unknown =>
    refine halarmed ?_
    rw [run_existingOrRecoverStop hrow hreadable (by rw [hstate]; rfl), recoverRecord, hstate]
    exact failSafe_alarmed (by rw [hstate]; decide) _ _
  | emergencyClosed =>
    obtain ⟨result, hresult, hrun⟩ := run_existingOrRecoverStop_safe (w := w) (s := s) hreadable (by rw [hstate]; rfl)
    rw [hrun]
    intro hkeeps
    have hactive := hresult.symm.trans hkeeps.ended.1
    rw [hstate] at hactive
    cases hactive
  | active | superseded =>
    obtain ⟨hopen, -⟩ := hcondition (by rw [hstate]; decide) (by rw [hstate]; decide)
    rw [hstate] at hopen
    cases hopen
  | prepared | ambiguous | rejected =>
    obtain ⟨-, hanswered, hlate⟩ := hcondition (by rw [hstate]; decide) (by rw [hstate]; decide)
    refine halarmed ?_
    rw [run_existingOrRecoverStop hrow hreadable (by rw [hstate]; rfl), recoverRecord, hstate]
    have hread : overdue record (s.clock
      (w.after sha256 (.loadByClientAlgoId record.clientAlgoId)).readings) = .ok true := hlate
    exact queryProtection_late hanswered hread (by rw [hstate]; decide)

/-! ### The move as a whole -/

section Move

variable {t : AlgoTable} {fill : EntryFill} {authority : ProtectionAuthority} {placementCommandId : UUID}

/-- What a claimed move knows. -/
theorem claimMove_ok {clock : DateTime} {request : BrokerRequest} {t' : AlgoTable} {claim : AlgoOrderClaim}
    (h : claimMove sha256 t clock fill authority placementCommandId superseded = .ok (request, t', claim)) :
    ∃ prepared, AlgoTable.Claimed sha256 t prepared t' claim ∧
      prepared.clientAlgoId = clientAlgoIdText placementCommandId ∧ request.method = .post ∧
      (t.row? superseded).isSome := by
  obtain ⟨_, -, h⟩ := bind_ok.mp h
  obtain ⟨working, hload, h⟩ := bind_ok.mp h
  obtain ⟨⟨trigger, request'⟩, hrequest, h⟩ := bind_ok.mp h
  obtain ⟨prepared, hprepared, h⟩ := bind_ok.mp h
  obtain ⟨⟨t₁, claim'⟩, hprepare, h⟩ := bind_ok.mp h
  cases h
  refine ⟨prepared, AlgoTable.prepare_ok hprepare, ?_, ?_, ?_⟩
  · obtain ⟨_, -, hprepared⟩ := bind_ok.mp hprepared
    obtain ⟨_, -, hprepared⟩ := bind_ok.mp hprepared
    have hid := AlgoOrderRecord.prepared_ok hprepared
    rwa [Option.getD_some] at hid
  · obtain ⟨_, -, hrequest⟩ := bind_ok.mp hrequest
    obtain ⟨_, -, hrequest⟩ := bind_ok.mp hrequest
    obtain ⟨_, hbuild, hrequest⟩ := bind_ok.mp hrequest
    cases hrequest
    exact buildProtectionRequest_method hbuild
  · obtain ⟨_, hworking, -⟩ := bind_ok.mp hrequest
    cases working with
    | none => cases hworking
    | some row =>
      rw [AlgoTable.loadByClientAlgoId_ok hload]
      rfl

/-- Up to its claim a move reads the clock once and does what `claimMove` says. -/
theorem moveStop_run (sha256 : String → Digest) (s : Surroundings) (t : AlgoTable) (fill : EntryFill)
    (authority : ProtectionAuthority) (placementCommandId : UUID) (superseded : String) :
    ∃ w : AlgoWorld, w.Quiet ∧
      let run := (AlgoWorld.start t).exec sha256 s
        (moveStop sha256 fill authority placementCommandId superseded)
      match claimMove sha256 t (s.clock 0) fill authority placementCommandId superseded with
      | .error e => w.table = t ∧ run = (.error e, w)
      | .ok (request, t', claim) => w.table = t' ∧ w.readings = 1 ∧
        run = w.exec sha256 s (if claim.acquired then placeMove claim.record request superseded
          else existingOrRecoverStop sha256 claim.record) := by
  have hstart : (AlgoWorld.start t).Quiet := fun op hop => (List.not_mem_nil hop).elim
  have hloaded : ((AlgoWorld.start t).after sha256 (.loadByClientAlgoId superseded)).Quiet :=
    quiet_after hstart ⟨rfl, rfl⟩
  have hread : (((AlgoWorld.start t).after sha256 (.loadByClientAlgoId superseded)).after sha256 .clock).Quiet :=
    quiet_after hloaded ⟨rfl, rfl⟩
  unfold moveStop claimMove
  cases hcheck : checkMove fill placementCommandId superseded with
  | error e => exact ⟨_, hstart, rfl, rfl⟩
  | ok _ =>
  cases hworking : AlgoTable.loadByClientAlgoId sha256 t superseded with
  | error e => 
    have hreply : (AlgoWorld.start t).reply sha256 s (.loadByClientAlgoId superseded) = .error e := hworking
    exact ⟨_, hloaded, rfl, run_perform_error hreply _⟩
  | ok working =>
  have hload : (AlgoWorld.start t).reply sha256 s (.loadByClientAlgoId superseded) = .ok working := hworking
  simp only [ok_bind, run_ofExcept rfl, run_perform hload]
  cases hrequest : moveRequest sha256 fill authority placementCommandId working with
  | error e => exact ⟨_, hloaded, rfl, rfl⟩
  | ok p =>
  obtain ⟨trigger, request⟩ := p
  have hclock : ((AlgoWorld.start t).after sha256 (.loadByClientAlgoId superseded)).reply sha256 s .clock =
    .ok (s.clock 0) := rfl
  simp only [ok_bind, run_ofExcept rfl, run_perform hclock]
  cases hprepared : placementRecord sha256 fill trigger request (some placementCommandId) (s.clock 0) with
  | error e => exact ⟨_, hread, rfl, rfl⟩
  | ok prepared =>
  have hclaimed : ((((AlgoWorld.start t).after sha256 (.loadByClientAlgoId superseded)).after sha256
    .clock).after sha256 (.prepare prepared)).Quiet := quiet_after hread ⟨rfl, rfl⟩
  have hprepare : (((AlgoWorld.start t).after sha256 (.loadByClientAlgoId superseded)).after sha256
    .clock).reply sha256 s (.prepare prepared) = (AlgoTable.prepare sha256 t prepared).map Prod.snd := rfl
  simp only [ok_bind, run_ofExcept rfl]
  cases hclaim : AlgoTable.prepare sha256 t prepared with
  | error e =>
    rw [hclaim] at hprepare
    refine ⟨_, hclaimed, ?_, run_perform_error hprepare _⟩
    show tableAfter t (AlgoTable.prepare sha256 t prepared) = t
    rw [hclaim]
    rfl
  | ok p =>
    rw [hclaim] at hprepare
    refine ⟨_, hclaimed, ?_, rfl, run_perform hprepare _⟩
    show tableAfter t (AlgoTable.prepare sha256 t prepared) = p.1
    rw [hclaim]
    rfl

/-- A move that the venue accepts after the deadline reaches the fail-safe. -/
theorem moveStop_late {request : BrokerRequest} {t' : AlgoTable} {claim : AlgoOrderClaim}
    (hclaim : claimMove sha256 t (s.clock 0) fill authority placementCommandId superseded =
      .ok (request, t', claim))
    (hacquired : claim.acquired = true) (hanswer : s.venue request = .ok response)
    (hstatus : response.status = 200) (hlate : overdue claim.record (s.clock 1) = .ok true) :
    ((AlgoWorld.start t).exec sha256 s
      (moveStop sha256 fill authority placementCommandId superseded)).2.Alarmed := by
  obtain ⟨w, -, hrun⟩ := moveStop_run sha256 s t fill authority placementCommandId superseded
  rw [hclaim] at hrun
  obtain ⟨htable, hreadings, hrun⟩ := hrun
  obtain ⟨prepared, hclaimed, -⟩ := claimMove_ok hclaim
  cases hclaimed with
  | acquired fresh valid checks absent rows =>
    have hrow : w.table.row? prepared.clientAlgoId = some prepared.row := by rw [htable, rows, if_pos rfl]
    rw [hrun, if_pos rfl]
    rw [← hreadings] at hlate
    exact placeMove_late fresh valid checks hrow hanswer hstatus hlate
  | existing present readable => cases hacquired

end Move

end Runs

/-- A move keeps the position as it is exactly when it is in time. -/
theorem moveStop_keepsPosition_iff (sha256 : String → Digest) (s : Surroundings) (t : AlgoTable)
    (fill : EntryFill) (authority : ProtectionAuthority) (placementCommandId : UUID) (superseded : String) :
    KeepsPosition t (clientAlgoIdText placementCommandId) superseded
        ((AlgoWorld.start t).exec sha256 s (moveStop sha256 fill authority placementCommandId superseded)) ↔
      ∀ request t' claim, claimMove sha256 t (s.clock 0) fill authority placementCommandId superseded =
        .ok (request, t', claim) → MoveInTime s request claim := by
  obtain ⟨w, hquiet, hrun⟩ := moveStop_run sha256 s t fill authority placementCommandId superseded
  cases hclaim : claimMove sha256 t (s.clock 0) fill authority placementCommandId superseded with
  | error e =>
    rw [hclaim] at hrun
    obtain ⟨htable, hrun⟩ := hrun
    rw [hrun]
    have huntouched : Untouched t superseded w := ⟨hquiet, by rw [htable]⟩
    exact ⟨fun _ _ _ _ h => by (cases h), fun _ => huntouched.error e⟩
  | ok claimed =>
    obtain ⟨request, t', claim⟩ := claimed
    have hone : (∀ request' t'' claim', (Except.ok (request, t', claim) : Except PyError _) =
        .ok (request', t'', claim') → MoveInTime s request' claim') ↔ MoveInTime s request claim :=
      ⟨fun h => h _ _ _ rfl, fun h _ _ _ heq => by (cases heq; exact h)⟩
    rw [hone]
    have hlateRun : ∀ response, claim.acquired = true → s.venue request = .ok response →
        response.status = 200 → overdue claim.record (s.clock 1) = .ok true →
        ((AlgoWorld.start t).exec sha256 s
          (moveStop sha256 fill authority placementCommandId superseded)).2.Alarmed :=
      fun _ => moveStop_late hclaim
    rw [hclaim] at hrun
    obtain ⟨htable, hreadings, hrun⟩ := hrun
    obtain ⟨prepared, hclaimed, hid, hmethod, hsuperseded⟩ := claimMove_ok hclaim
    rw [hrun, ← hid]
    rw [hrun] at hlateRun
    cases hclaimed with
    | acquired fresh valid checks absent rows =>
      have hne : superseded ≠ prepared.clientAlgoId := by
        rintro rfl
        rw [absent] at hsuperseded
        cases hsuperseded
      have huntouched : Untouched t superseded w := ⟨hquiet, by rw [htable, rows, if_neg hne]⟩
      rw [if_pos rfl] at hlateRun ⊢
      rw [MoveInTime, if_pos rfl]
      constructor
      · intro hkeeps response hanswer hstatus hlate
        obtain ⟨op, hop, halarm⟩ := hlateRun response rfl hanswer hstatus hlate
        rw [hkeeps.noFailSafe op hop] at halarm
        cases halarm
      · rw [← hreadings]
        exact placeMove_keeps huntouched hne hmethod
    | existing present readable =>
      rename_i row
      have huntouched : Untouched t superseded w := ⟨hquiet, by rw [htable]⟩
      have hsame : row.clientAlgoId = prepared.clientAlgoId := Rows.lookup_key present
      have hrow : w.table.row? row.clientAlgoId = some row := by rw [htable, hsame, present]
      rw [if_neg Bool.false_ne_true, MoveInTime, if_neg Bool.false_ne_true, ← hreadings, ← hsame]
      constructor
      · intro hkeeps
        by_contra hfails
        refine existingOrRecoverStop_fails hrow readable (fun hunknown hclosed => ?_) hkeeps
        by_contra hopen
        refine hfails ⟨hunknown, hclosed, fun h hanswered hlate => hopen ⟨h, hanswered, hlate⟩⟩
      · rintro ⟨hunknown, hclosed, hlate⟩
        exact existingOrRecoverStop_keeps huntouched hrow readable hunknown hclosed hlate

/-! ### A sample move -/

/-- A long entry of two contracts at 100, to be protected within half a minute. -/
def sampleStopFill : EntryFill where
  entryCommandId := sampleUuid 10
  accountId := sampleUuid 3
  instrumentId := sampleUuid 4
  bindingId := sampleUuid 5
  side := .buy
  firstFillQuantity := Decimal.ofNat 2
  cumulativeQuantityBefore := Decimal.ofNat 0
  averageFillPrice := Decimal.ofNat 100
  symbol := "BTCUSDT"
  tickSize := Decimal.ofNat 1
  filledAt := 0
  protectionDeadline := 30000000
  emergencyCloseCommandId := sampleUuid 11

def sampleStopBody : String :=
  "algoType=CONDITIONAL&symbol=BTCUSDT&side=SELL&positionSide=BOTH&type=STOP_MARKET&triggerPrice=90" ++
    "&workingType=MARK_PRICE&closePosition=true&priceProtect=false" ++
    "&clientAlgoId=v6s-0000000000007000800000000000000a&newOrderRespType=RESULT"

/-- SHA-256 on the body of the first stop and on that of the move. -/
def sampleStopSha256 (text : String) : Digest :=
  if text = sampleStopBody then 0x5d95c54a0926099b90aef6615c8dc394c1e022ad011ce5a7f304b388223d9ad3 else 0xa46a1eb0c35b8437d84a04ee1ce9565deeed952ce0f5884bc10d27e0316add21

/-- The stop at 90 that works since the fill. -/
def sampleStop : AlgoOrderRecord where
  entryFill := sampleStopFill
  clientAlgoId := clientAlgoIdText (sampleUuid 10)
  triggerPrice := Decimal.ofNat 90
  requestBody := sampleStopBody
  requestDigest := sampleStopSha256 sampleStopBody
  preparedAt := 0
  state := .active
  result := some
    { providerAlgoId := some "BINANCE-USDM-ALGO:1"
      clientAlgoId := clientAlgoIdText (sampleUuid 10)
      state := .active
      triggerPrice := Decimal.ofNat 90
      recovered := false
      emergencyClose := none }
  placementCommandId := none

/-- The venue's acknowledgement of the moved stop. -/
def sampleAcknowledgement : Json :=
  .obj
    [("algoId", .int 2), ("clientAlgoId", .str (clientAlgoIdText (sampleUuid 12))),
      ("algoType", .str "CONDITIONAL"), ("orderType", .str "STOP_MARKET"), ("symbol", .str "BTCUSDT"),
      ("side", .str "SELL"), ("positionSide", .str "BOTH"), ("algoStatus", .str "NEW"),
      ("triggerPrice", .str "95"), ("workingType", .str "MARK_PRICE"), ("closePosition", .bool true),
      ("priceProtect", .bool false), ("reduceOnly", .bool false)]

/-- An hour later; the venue accepts the move and nothing else is reachable. -/
def sampleHour : Surroundings where
  clock _ := ⟨3600000000, .utc⟩
  venue _ := .ok ⟨200, some sampleAcknowledgement⟩
  prepareFullClose _ := .error (valueError "unreachable")
  submitLocked _ := .error (valueError "unreachable")
  recoverByClientId _ := .error (valueError "unreachable")
  confirmZeroPosition _ := .error (valueError "unreachable")
  cancelEntryAndAdds _ := .error (valueError "unreachable")
  haltAccount _ _ := .error (valueError "unreachable")

/-- The move of the stop from 90 to 95. -/
def sampleMove : AlgoAct ProtectionResult :=
  moveStop sampleStopSha256 sampleStopFill (.approved (Decimal.ofNat 95) (Decimal.ofNat 2)) (sampleUuid 12)
    (clientAlgoIdText (sampleUuid 10))

def sampleClaim : Except PyError (BrokerRequest × AlgoTable × AlgoOrderClaim) :=
  claimMove sampleStopSha256 [sampleStop] (sampleHour.clock 0) sampleStopFill
    (.approved (Decimal.ofNat 95) (Decimal.ofNat 2)) (sampleUuid 12) (clientAlgoIdText (sampleUuid 10))

/-- The sample move is claimed, after the deadline. -/
def sampleClaimedLate : Bool :=
  match sampleClaim with
  | .ok (_, _, claim) =>
    claim.acquired && decide ((overdue claim.record (sampleHour.clock 1)).toOption = some true)
  | .error _ => false

theorem sampleClaimedLate_eq : sampleClaimedLate = true := by decide +kernel

/-- The venue accepts a better stop for a protected position, and the position is closed. -/
theorem accepted_move_fails_safe :
    AlgoTable.Active [sampleStop] (clientAlgoIdText (sampleUuid 10)) ∧
      ¬KeepsPosition [sampleStop] (clientAlgoIdText (sampleUuid 12)) (clientAlgoIdText (sampleUuid 10))
        ((AlgoWorld.start [sampleStop]).exec sampleStopSha256 sampleHour sampleMove) := by
  refine ⟨⟨sampleStop, by decide +kernel, rfl⟩, fun hkeeps => ?_⟩
  have hlate := sampleClaimedLate_eq
  unfold sampleClaimedLate at hlate
  split at hlate
  · rename_i request t' claim hclaim
    simp only [Bool.and_eq_true, decide_eq_true_eq] at hlate
    obtain ⟨hacquired, hover⟩ := hlate
    have hoverdue : overdue claim.record (sampleHour.clock 1) = .ok true := by
      cases h : overdue claim.record (sampleHour.clock 1) with
      | error e =>
        rw [h] at hover
        cases hover
      | ok late =>
        rw [h] at hover
        exact congrArg Except.ok (Option.some.inj hover)
    obtain ⟨op, hop, halarm⟩ := moveStop_late hclaim hacquired rfl rfl hoverdue
    rw [hkeeps.noFailSafe op hop] at halarm
    cases halarm
  · cases hlate

end AutoTrader.Binance
