import AutoTrader.Binance.StopMove
import AutoTrader.Trader.LiveSafety

/-! The evidence of the fail-safe. Its four actions are attempted one after the other, and
what was noted of them decides how the record is finished: closed in an emergency on full
evidence, unknown otherwise. -/

namespace AutoTrader.Binance

open AutoTrader.Domain AutoTrader.Dispatch AutoTrader.Execution AutoTrader.Runtime

/-! ### Outcomes -/

/-- The answer is not one of the exceptions that stop the process. -/
def Ordinary {α : Type} (outcome : Except PyError α) : Prop :=
  ∀ e, outcome = .error e → e.kind.isControl = false

/-- What `noteFailure` makes of an outcome. -/
def noted {α : Type} : Except PyError α → Except PyError (Option α)
  | .ok a => .ok (some a)
  | .error e => if e.kind.isControl then .error e else .ok none

section

variable (s : Surroundings) (record : AlgoOrderRecord) (reason : String)

/-- The close, or its recovery when it is unknown whether it was sent. -/
def submitOutcome (command : BrokerOrderCommand) : Except PyError BrokerWriteResult :=
  match s.submitLocked command with
  | .ok result => .ok result
  | .error e =>
    if e.kind = .binanceUsdmOrderUnknown then s.recoverByClientId command.brokerClientOrderId else .error e

def closeOutcome (fill : EntryFill) : Except PyError BrokerWriteResult := do
  let command ← s.prepareFullClose fill
  validateEmergencyCommand fill command
  let result ← submitOutcome s command
  validateEmergencyResult command result
  .ok result

/-- The operations of the close, as far as the answers let it go. -/
def closeOps (fill : EntryFill) : List AlgoOp :=
  .prepareFullClose fill ::
    match s.prepareFullClose fill with
    | .error _ => []
    | .ok command =>
      match validateEmergencyCommand fill command with
      | .error _ => []
      | .ok () =>
        .submitLocked command ::
          match s.submitLocked command with
          | .ok _ => []
          | .error e =>
            if e.kind = .binanceUsdmOrderUnknown then [.recoverByClientId command.brokerClientOrderId] else []

/-- The position was closed in full. -/
def FullyClosed (fill : EntryFill) : Prop :=
  ∃ command result, s.prepareFullClose fill = .ok command ∧ validateEmergencyCommand fill command = .ok () ∧
    submitOutcome s command = .ok result ∧ result.clientOrderId = command.brokerClientOrderId ∧
    result.providerState = "FILLED" ∧ result.cumulativeFilledQuantity.toRat = command.quantity.toRat

/-- Closed in full, no new exposure, flat at the venue, and halted. -/
structure Evidence : Prop where
  closed : FullyClosed s record.entryFill
  blocked : s.cancelEntryAndAdds record.entryFill.bindingId = .ok ()
  flat : s.confirmZeroPosition record.entryFill = .ok true
  halted : s.haltAccount record.entryFill.bindingId reason = .ok ()

/-- None of the actions is stopped by a control exception. -/
structure OrdinaryActions : Prop where
  close : Ordinary (closeOutcome s record.entryFill)
  block : Ordinary (s.cancelEntryAndAdds record.entryFill.bindingId)
  confirm : Ordinary (s.confirmZeroPosition record.entryFill)
  halt : Ordinary (s.haltAccount record.entryFill.bindingId reason)

end

variable {sha256 : String → Digest} {s : Surroundings} {w : AlgoWorld} {record : AlgoOrderRecord} {reason : String}

theorem closeOutcome_ok {fill : EntryFill} : (∃ result, closeOutcome s fill = .ok result) ↔ FullyClosed s fill := by
  unfold closeOutcome FullyClosed
  constructor
  · rintro ⟨_, h⟩
    obtain ⟨command, hcommand, h⟩ := bind_ok.mp h
    obtain ⟨⟨⟩, hvalid, h⟩ := bind_ok.mp h
    obtain ⟨result, hresult, h⟩ := bind_ok.mp h
    obtain ⟨⟨⟩, hclosed, -⟩ := bind_ok.mp h
    have hfields := require_ok.mp hclosed
    simp only [Bool.and_eq_true, decide_eq_true_eq] at hfields
    exact ⟨command, result, hcommand, hvalid, hresult, hfields.1.1, hfields.1.2, hfields.2⟩
  · rintro ⟨command, result, hcommand, hvalid, hresult, hclient, hstate, hquantity⟩
    have hclosed : validateEmergencyResult command result = .ok () := by
      refine require_ok.mpr ?_
      simp [hclient, hstate, hquantity]
    exact ⟨result, bind_ok.mpr ⟨command, hcommand, bind_ok.mpr ⟨(), hvalid, bind_ok.mpr ⟨result, hresult,
      bind_ok.mpr ⟨(), hclosed, rfl⟩⟩⟩⟩⟩

theorem noted_ok {α : Type} {outcome : Except PyError α} {answer : Option α} (h : noted outcome = .ok answer) :
    Ordinary outcome ∧ answer = outcome.toOption := by
  cases outcome with
  | ok a =>
    cases h
    refine ⟨fun _ he => ?_, rfl⟩
    cases he
  | error e =>
    by_cases hcontrol : e.kind.isControl = true
    · simp only [noted, if_pos hcontrol] at h
      cases h
    · simp only [noted, if_neg hcontrol] at h
      cases h
      refine ⟨fun _ he => ?_, rfl⟩
      cases he
      simpa using hcontrol

theorem noted_error {α : Type} {outcome : Except PyError α} {e : PyError} (h : noted outcome = .error e) :
    ¬ Ordinary outcome := by
  cases outcome with
  | ok a => cases h
  | error caught =>
    by_cases hcontrol : caught.kind.isControl = true
    · exact fun hordinary => absurd (hordinary caught rfl) (by simp [hcontrol])
    · simp only [noted, if_neg hcontrol] at h
      cases h

theorem toOption_some {α : Type} {outcome : Except PyError α} {a : α} :
    outcome.toOption = some a ↔ outcome = .ok a := by
  cases outcome <;> simp [Except.toOption]

/-! ### The actions run -/

theorem run_note {α : Type} {x : AlgoAct α} {r : Except PyError α} {w' : AlgoWorld}
    (hx : w.exec sha256 s x = (r, w')) : w.exec sha256 s (noteFailure x) = (noted r, w') := by
  cases r with
  | ok a =>
    have hmap : w.exec sha256 s (some <$> x) = (.ok (some a), w') := run_bind_ok hx _
    exact Action.exec_tryCatch_ok _ hmap
  | error e =>
    have hmap : w.exec sha256 s (some <$> x) = (.error e, w') := run_bind_error hx _
    have hcaught := Action.exec_tryCatch_error
      (fun caught => if caught.kind.isControl then throw caught else pure none) hmap
    refine hcaught.trans ?_
    by_cases hcontrol : e.kind.isControl = true
    · simp only [noted, if_pos hcontrol]
      rfl
    · simp only [noted, if_neg hcontrol]
      rfl

/-- The world after some operations. -/
def AlgoWorld.afterAll (sha256 : String → Digest) (w : AlgoWorld) (ops : List AlgoOp) : AlgoWorld :=
  ops.foldl (AlgoWorld.after sha256) w

theorem afterAll_performed (w : AlgoWorld) (ops : List AlgoOp) :
    (w.afterAll sha256 ops).performed = w.performed ++ ops := by
  induction ops generalizing w with
  | nil => simp [AlgoWorld.afterAll]
  | cons op ops ih =>
    change ((w.after sha256 op).afterAll sha256 ops).performed = _
    rw [ih]
    simp [AlgoWorld.after]

variable (sha256 s w) in
theorem run_submit (command : BrokerOrderCommand) :
    w.exec sha256 s ((Action.perform (AlgoOp.submitLocked command) : AlgoAct BrokerWriteResult).tryCatch
      fun caught =>
        if caught.kind = .binanceUsdmOrderUnknown then
          Action.perform (AlgoOp.recoverByClientId command.brokerClientOrderId)
        else throw caught) =
      (submitOutcome s command, w.afterAll sha256 (.submitLocked command ::
        match s.submitLocked command with
        | .ok _ => []
        | .error e =>
          if e.kind = .binanceUsdmOrderUnknown then [.recoverByClientId command.brokerClientOrderId] else [])) := by
  have hsubmit : w.exec sha256 s (Action.perform (AlgoOp.submitLocked command)) =
      (s.submitLocked command, w.after sha256 (.submitLocked command)) := rfl
  unfold submitOutcome
  cases hanswer : s.submitLocked command with
  | ok result =>
    rw [hanswer] at hsubmit
    exact Action.exec_tryCatch_ok _ hsubmit
  | error e =>
    rw [hanswer] at hsubmit
    refine (Action.exec_tryCatch_error _ hsubmit).trans ?_
    by_cases hunknown : e.kind = .binanceUsdmOrderUnknown
    · simp only [if_pos hunknown]
      rfl
    · simp only [if_neg hunknown]
      rfl

variable (sha256 s w) in
theorem run_close (fill : EntryFill) :
    w.exec sha256 s (closeForFailSafe fill) = (closeOutcome s fill, w.afterAll sha256 (closeOps s fill)) := by
  unfold closeForFailSafe closeOutcome closeOps
  cases hcommand : s.prepareFullClose fill with
  | error e =>
    have hreply : w.reply sha256 s (.prepareFullClose fill) = .error e := hcommand
    rw [run_perform_error hreply]
    rfl
  | ok command =>
    have hreply : w.reply sha256 s (.prepareFullClose fill) = .ok command := hcommand
    rw [run_perform hreply]
    cases hvalid : validateEmergencyCommand fill command with
    | error e =>
      rw [run_ofExcept_error rfl]
      simp only [ok_bind, hvalid, error_bind]
      rfl
    | ok u =>
      rw [run_ofExcept rfl]
      simp only [ok_bind, hvalid]
      have hsubmit := run_submit sha256 s (w.after sha256 (.prepareFullClose fill)) command
      cases hresult : submitOutcome s command with
      | error e =>
        rw [hresult] at hsubmit
        rw [run_bind_error hsubmit]
        rfl
      | ok result =>
        rw [hresult] at hsubmit
        rw [run_bind_ok hsubmit]
        cases hclosed : validateEmergencyResult command result with
        | error e =>
          rw [run_ofExcept_error rfl]
          simp only [ok_bind, hclosed, error_bind]
          rfl
        | ok u =>
          rw [run_ofExcept rfl]
          simp only [ok_bind, hclosed]
          rfl

/-- The three actions after the close. -/
def safetyOps (record : AlgoOrderRecord) (reason : String) : List AlgoOp :=
  [.cancelEntryAndAdds record.entryFill.bindingId, .confirmZeroPosition record.entryFill,
    .haltAccount record.entryFill.bindingId reason]

/-- The four actions, in their order. -/
def attempts (s : Surroundings) (record : AlgoOrderRecord) (reason : String) : List AlgoOp :=
  closeOps s record.entryFill ++ safetyOps record reason

/-- What `runFailSafe` asks of what it noted. -/
theorem evidence_iff : Evidence s record reason ↔
    ((closeOutcome s record.entryFill).toOption.isSome &&
      (s.cancelEntryAndAdds record.entryFill.bindingId).toOption.isSome &&
      decide ((s.confirmZeroPosition record.entryFill).toOption = some true) &&
      (s.haltAccount record.entryFill.bindingId reason).toOption.isSome) = true := by
  have hunit : ∀ outcome : Except PyError Unit, outcome.toOption.isSome ↔ outcome = .ok () := by
    intro outcome
    cases outcome <;> simp [Except.toOption]
  have hclose : (closeOutcome s record.entryFill).toOption.isSome ↔ FullyClosed s record.entryFill := by
    rw [← closeOutcome_ok]
    cases closeOutcome s record.entryFill <;> simp [Except.toOption]
  simp only [Bool.and_eq_true, decide_eq_true_eq, hunit, hclose, toOption_some]
  exact ⟨fun h => ⟨⟨⟨h.closed, h.blocked⟩, h.flat⟩, h.halted⟩, fun h => ⟨h.1.1.1, h.1.1.2, h.1.2, h.2⟩⟩

theorem afterAll_append (w : AlgoWorld) (xs ys : List AlgoOp) :
    w.afterAll sha256 (xs ++ ys) = (w.afterAll sha256 xs).afterAll sha256 ys :=
  List.foldl_append

theorem run_noted {β : Type} (op : AlgoOp) {answer : Option op.Result} (h : noted (w.reply sha256 s op) = .ok answer)
    (f : Option op.Result → AlgoAct β) :
    w.exec sha256 s (noteFailure (Action.perform op) >>= f) = (w.after sha256 op).exec sha256 s (f answer) := by
  have hrun : w.exec sha256 s (noteFailure (Action.perform op)) = (noted (w.reply sha256 s op), w.after sha256 op) :=
    run_note rfl
  rw [h] at hrun
  exact run_bind_ok hrun f

theorem run_noted_error {β : Type} (op : AlgoOp) {e : PyError} (h : noted (w.reply sha256 s op) = .error e)
    (f : Option op.Result → AlgoAct β) :
    w.exec sha256 s (noteFailure (Action.perform op) >>= f) = (.error e, w.after sha256 op) := by
  have hrun : w.exec sha256 s (noteFailure (Action.perform op)) = (noted (w.reply sha256 s op), w.after sha256 op) :=
    run_note rfl
  rw [h] at hrun
  exact run_bind_error hrun f

/-- What a record is finished with when it was closed in an emergency. -/
def emergencyResult (record : AlgoOrderRecord) (observedAlgoId : Option String) (close : BrokerWriteResult) :
    ProtectionResult where
  providerAlgoId := observedAlgoId
  clientAlgoId := record.clientAlgoId
  state := .emergencyClosed
  triggerPrice := record.triggerPrice
  recovered := false
  emergencyClose := some close

/-- How a fail-safe ends: stopped by a control exception, or with all four actions attempted and
the record finished by the evidence. -/
inductive FailSafeRun (sha256 : String → Digest) (s : Surroundings) (w : AlgoWorld) (record : AlgoOrderRecord)
    (reason : String) (observedAlgoId : Option String) : Except PyError ProtectionResult × AlgoWorld → Prop
  | stopped (e : PyError) (ops : List AlgoOp) (hcontrol : ¬ OrdinaryActions s record reason)
      (hops : ops <+: attempts s record reason) :
      FailSafeRun sha256 s w record reason observedAlgoId (.error e, w.afterAll sha256 ops)
  | unknown (e : PyError) (hactions : OrdinaryActions s record reason) (hlacking : ¬ Evidence s record reason) :
      FailSafeRun sha256 s w record reason observedAlgoId
        (.error e, w.afterAll sha256 (attempts s record reason ++ [.finish record.clientAlgoId .unknown none]))
  | closed (close : BrokerWriteResult) (answer : Except PyError ProtectionResult)
      (hactions : OrdinaryActions s record reason) (hevidence : Evidence s record reason)
      (hclose : closeOutcome s record.entryFill = .ok close) :
      FailSafeRun sha256 s w record reason observedAlgoId
        (answer, w.afterAll sha256 (attempts s record reason ++
          [.finish record.clientAlgoId .emergencyClosed (some (emergencyResult record observedAlgoId close))]))
  | unreportable (e : PyError) (hactions : OrdinaryActions s record reason) (hevidence : Evidence s record reason) :
      FailSafeRun sha256 s w record reason observedAlgoId (.error e, w.afterAll sha256 (attempts s record reason))

/-- What the fail-safe does once its actions are noted. -/
theorem run_conclusion {observedAlgoId : Option String} (hactions : OrdinaryActions s record reason) :
    FailSafeRun sha256 s w record reason observedAlgoId
      ((w.afterAll sha256 (attempts s record reason)).exec sha256 s
        (if (closeOutcome s record.entryFill).toOption.isSome &&
            (s.cancelEntryAndAdds record.entryFill.bindingId).toOption.isSome &&
            (s.confirmZeroPosition record.entryFill).toOption = some true &&
            (s.haltAccount record.entryFill.bindingId reason).toOption.isSome then do
          let result : ProtectionResult :=
            { providerAlgoId := observedAlgoId
              clientAlgoId := record.clientAlgoId
              state := .emergencyClosed
              triggerPrice := record.triggerPrice
              recovered := false
              emergencyClose := (closeOutcome s record.entryFill).toOption }
          Action.ofExcept result.validate
          let _ ← (Action.perform (AlgoOp.finish record.clientAlgoId .emergencyClosed (some result)) :
            AlgoAct AlgoOrderRecord)
          pure result
        else do
          let _ ← (Action.perform (AlgoOp.finish record.clientAlgoId .unknown none) : AlgoAct AlgoOrderRecord)
          throw emergencyUnknown)) := by
  split
  · rename_i hall
    have hevidence := evidence_iff.mpr hall
    obtain ⟨close, hclose⟩ := closeOutcome_ok.mpr hevidence.closed
    rw [toOption_some.mpr hclose]
    change FailSafeRun sha256 s w record reason observedAlgoId ((w.afterAll sha256 (attempts s record reason)).exec
      sha256 s (Action.ofExcept (emergencyResult record observedAlgoId close).validate >>= fun _ =>
        Action.perform (AlgoOp.finish record.clientAlgoId .emergencyClosed
          (some (emergencyResult record observedAlgoId close))) >>= fun _ =>
        pure (emergencyResult record observedAlgoId close)))
    have hclosed : ∀ answer, FailSafeRun sha256 s w record reason observedAlgoId
        (answer, (w.afterAll sha256 (attempts s record reason)).after sha256
          (.finish record.clientAlgoId .emergencyClosed (some (emergencyResult record observedAlgoId close)))) := by
      intro answer
      have hrun : FailSafeRun sha256 s w record reason observedAlgoId (answer, w.afterAll sha256 (attempts s record reason ++
          [.finish record.clientAlgoId .emergencyClosed (some (emergencyResult record observedAlgoId close))])) :=
        .closed close answer hactions hevidence hclose
      rw [afterAll_append] at hrun
      exact hrun
    cases hvalid : (emergencyResult record observedAlgoId close).validate with
    | error e =>
      rw [run_ofExcept_error rfl]
      exact .unreportable e hactions hevidence
    | ok u =>
      rw [run_ofExcept rfl]
      cases hfinish : (w.afterAll sha256 (attempts s record reason)).reply sha256 s
          (.finish record.clientAlgoId .emergencyClosed (some (emergencyResult record observedAlgoId close))) with
      | error e =>
        rw [run_perform_error hfinish]
        exact hclosed _
      | ok finished =>
        rw [run_perform hfinish]
        exact hclosed _
  · rename_i hlacking
    have hnot : ¬ Evidence s record reason := fun h => hlacking (evidence_iff.mp h)
    have hunknown : ∀ e, FailSafeRun sha256 s w record reason observedAlgoId
        (.error e, (w.afterAll sha256 (attempts s record reason)).after sha256
          (.finish record.clientAlgoId .unknown none)) := by
      intro e
      have hrun : FailSafeRun sha256 s w record reason observedAlgoId (.error e, w.afterAll sha256
          (attempts s record reason ++ [.finish record.clientAlgoId .unknown none])) :=
        .unknown e hactions hnot
      rw [afterAll_append] at hrun
      exact hrun
    cases hfinish : (w.afterAll sha256 (attempts s record reason)).reply sha256 s
        (.finish record.clientAlgoId .unknown none) with
    | error e =>
      rw [run_perform_error hfinish]
      exact hunknown e
    | ok finished =>
      rw [run_perform hfinish]
      exact hunknown emergencyUnknown

theorem run_failSafe (observedAlgoId : Option String) :
    FailSafeRun sha256 s w record reason observedAlgoId
      (w.exec sha256 s (runFailSafe record reason observedAlgoId)) := by
  unfold runFailSafe
  have hclose := run_note (run_close sha256 s w record.entryFill)
  cases hclosed : noted (closeOutcome s record.entryFill) with
  | error e =>
    rw [hclosed] at hclose
    rw [run_bind_error hclose]
    exact .stopped e _ (fun h => noted_error hclosed h.close) (List.prefix_append _ _)
  | ok closed =>
    rw [hclosed] at hclose
    rw [run_bind_ok hclose]
    obtain ⟨hcloseOrdinary, rfl⟩ := noted_ok hclosed
    have hworld : ∀ ops, (w.afterAll sha256 (closeOps s record.entryFill)).afterAll sha256 ops =
        w.afterAll sha256 (closeOps s record.entryFill ++ ops) := fun ops => (afterAll_append w _ ops).symm
    -- a control exception leaves the rest of the attempts undone
    have hstop : ∀ e ops, ¬ OrdinaryActions s record reason → ops <+: safetyOps record reason →
        FailSafeRun sha256 s w record reason observedAlgoId
          (.error e, (w.afterAll sha256 (closeOps s record.entryFill)).afterAll sha256 ops) := by
      intro e ops hcontrol hops
      rw [hworld]
      exact .stopped e _ hcontrol ((List.prefix_append_right_inj _).mpr hops)
    cases hblocked : noted (s.cancelEntryAndAdds record.entryFill.bindingId) with
    | error e =>
      rw [run_noted_error (.cancelEntryAndAdds record.entryFill.bindingId) hblocked]
      exact hstop e [_] (fun h => noted_error hblocked h.block) ⟨_, rfl⟩
    | ok blocked =>
      rw [run_noted (.cancelEntryAndAdds record.entryFill.bindingId) hblocked]
      obtain ⟨hblockOrdinary, rfl⟩ := noted_ok hblocked
      cases hconfirmed : noted (s.confirmZeroPosition record.entryFill) with
      | error e =>
        rw [run_noted_error (.confirmZeroPosition record.entryFill) hconfirmed]
        exact hstop e [_, _] (fun h => noted_error hconfirmed h.confirm) ⟨_, rfl⟩
      | ok flat =>
        rw [run_noted (.confirmZeroPosition record.entryFill) hconfirmed]
        obtain ⟨hconfirmOrdinary, rfl⟩ := noted_ok hconfirmed
        cases hhalted : noted (s.haltAccount record.entryFill.bindingId reason) with
        | error e =>
          rw [run_noted_error (.haltAccount record.entryFill.bindingId reason) hhalted]
          exact hstop e [_, _, _] (fun h => noted_error hhalted h.halt) ⟨[], rfl⟩
        | ok halted =>
          rw [run_noted (.haltAccount record.entryFill.bindingId reason) hhalted]
          obtain ⟨hhaltOrdinary, rfl⟩ := noted_ok hhalted
          have hactions : OrdinaryActions s record reason :=
            ⟨hcloseOrdinary, hblockOrdinary, hconfirmOrdinary, hhaltOrdinary⟩
          change FailSafeRun sha256 s w record reason observedAlgoId (AlgoWorld.exec sha256 s
            ((w.afterAll sha256 (closeOps s record.entryFill)).afterAll sha256 (safetyOps record reason)) _)
          rw [hworld]
          exact run_conclusion hactions

theorem finish_not_mem_attempts {ops : List AlgoOp} (hops : ops <+: attempts s record reason) (clientAlgoId : String)
    (state : AlgoOrderState) (result : Option ProtectionResult) : .finish clientAlgoId state result ∉ ops := by
  intro hmem
  have hattempt := hops.subset hmem
  unfold attempts closeOps safetyOps at hattempt
  split at hattempt
  · simp at hattempt
  · split at hattempt
    · simp at hattempt
    · split at hattempt
      · simp at hattempt
      · split at hattempt <;> simp at hattempt

/-- A record that is closed already is answered with its result. For any other, the fail-safe finishes
it as closed only on full evidence; when no control exception stops it, it attempts all four
actions, and without the evidence it finishes the record as unknown and raises. -/
theorem fail_safe_evidence (sha256 : String → Digest) (s : Surroundings) (w : AlgoWorld) (record : AlgoOrderRecord)
    (reason : String) (observedAlgoId : Option String) :
    (record.state = .emergencyClosed →
      w.exec sha256 s (failSafe record reason observedAlgoId) = (assertedResult record, w)) ∧
    (record.state ≠ .emergencyClosed →
      ∃ ops, (w.exec sha256 s (failSafe record reason observedAlgoId)).2.performed = w.performed ++ ops ∧
        (∀ result, .finish record.clientAlgoId .emergencyClosed result ∈ ops → Evidence s record reason) ∧
        (OrdinaryActions s record reason → attempts s record reason <+: ops ∧
          (¬ Evidence s record reason →
            ops = attempts s record reason ++ [.finish record.clientAlgoId .unknown none] ∧
              ∃ e, (w.exec sha256 s (failSafe record reason observedAlgoId)).1 = .error e))) := by
  constructor
  · intro hclosed
    rw [failSafe, if_pos hclosed]
    rfl
  · intro hopen
    have hrun : FailSafeRun sha256 s w record reason observedAlgoId
        (w.exec sha256 s (runFailSafe record reason observedAlgoId)) := run_failSafe observedAlgoId
    rw [failSafe, if_neg hopen]
    generalize w.exec sha256 s (runFailSafe record reason observedAlgoId) = run at hrun
    cases hrun with
    | stopped e ops hcontrol hops =>
      refine ⟨ops, afterAll_performed w ops, fun result hresult => ?_, fun hactions => absurd hactions hcontrol⟩
      exact absurd hresult (finish_not_mem_attempts hops _ _ _)
    | unknown e hactions hlacking =>
      refine ⟨_, afterAll_performed w _, fun result hresult => ?_, fun _ => ⟨List.prefix_append _ _, fun _ => ⟨rfl, e, rfl⟩⟩⟩
      rcases List.mem_append.mp hresult with hattempt | hfinish
      · exact absurd hattempt (finish_not_mem_attempts (List.prefix_refl _) _ _ _)
      · simp at hfinish
    | closed close answer hactions hevidence hclose =>
      exact ⟨_, afterAll_performed w _, fun _ _ => hevidence,
        fun _ => ⟨List.prefix_append _ _, fun hlacking => absurd hevidence hlacking⟩⟩
    | unreportable e hactions hevidence =>
      exact ⟨_, afterAll_performed w _, fun _ _ => hevidence,
        fun _ => ⟨List.prefix_refl _, fun hlacking => absurd hevidence hlacking⟩⟩

/-- Where the safety actions are the live ones, full evidence leaves every control row blocked first,
then at the highest level and disarmed. -/
theorem Evidence.controls (h : Evidence s record reason) {own : UUID} {controls : List TradingControl}
    (hblock : ∀ bindingId, s.cancelEntryAndAdds bindingId =
      (Trader.cancelEntryAndAdds own controls bindingId).map fun _ => ())
    (hhalt : ∀ blocked, Trader.cancelEntryAndAdds own controls record.entryFill.bindingId = .ok blocked →
      s.haltAccount record.entryFill.bindingId reason =
        (Trader.haltAccount own blocked record.entryFill.bindingId reason).map fun _ => ()) :
    ∃ blocked halted, Trader.cancelEntryAndAdds own controls record.entryFill.bindingId = .ok blocked ∧
      (∀ control ∈ blocked, control.killSwitchLevel ≠ .none) ∧
      Trader.haltAccount own blocked record.entryFill.bindingId reason = .ok halted ∧
      ∀ control ∈ halted, control.killSwitchLevel = .emergency ∧ control.armed = false := by
  have hblocked := (hblock record.entryFill.bindingId).symm.trans h.blocked
  cases hcancel : Trader.cancelEntryAndAdds own controls record.entryFill.bindingId with
  | error e =>
    rw [hcancel] at hblocked
    cases hblocked
  | ok blocked =>
    have hhalted := (hhalt blocked hcancel).symm.trans h.halted
    cases hstop : Trader.haltAccount own blocked record.entryFill.bindingId reason with
    | error e =>
      rw [hstop] at hhalted
      cases hhalted
    | ok halted =>
      exact ⟨blocked, halted, rfl, Trader.cancelEntryAndAdds_blocks hcancel, hstop, Trader.haltAccount_halts hstop⟩

/-- A stop whose position was closed in an emergency before. -/
def sampleClosedStop : AlgoOrderRecord :=
  { sampleStop with
    state := .emergencyClosed
    result := some (emergencyResult sampleStop none ⟨"BINANCE-USDM:1", clientOrderIdText (sampleUuid 11), "FILLED", Decimal.ofNat 2, Decimal.ofNat 200,
      Decimal.ofNat 100, [], [], false⟩) }

theorem fail_safe_attempts_fails :
    (.prepareFullClose sampleStopFill : AlgoOp) ∉ ((AlgoWorld.start [sampleClosedStop]).exec sampleStopSha256 sampleHour
      (failSafe sampleClosedStop deadlineReason none)).2.performed := by
  have hrun : (AlgoWorld.start [sampleClosedStop]).exec sampleStopSha256 sampleHour
      (failSafe sampleClosedStop deadlineReason none) =
        (assertedResult sampleClosedStop, AlgoWorld.start [sampleClosedStop]) := rfl
  rw [hrun]
  exact List.not_mem_nil

end AutoTrader.Binance
