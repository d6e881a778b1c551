import AutoTrader.Dispatch.Service

/-! The operations each method of the store can perform. The gates and the loaders only
read, and none of the result writers claims a command or talks to the venue. -/

namespace AutoTrader.Dispatch

open AutoTrader.Domain AutoTrader.Execution AutoTrader.Runtime

def StoreOp.reads : StoreOp → Bool
  | getCommand _ | schedulerLeases | tradingControls | blockingIncidents | unresolvedUnknowns
  | blockingReconciliations | account _ | linkFor _ _ _ | highestLinkSequence _ => true
  | _ => false

def StoreOp.claims : StoreOp → Bool
  | claim _ _ => true
  | _ => false

/-- Neither a statement that writes nor a call of the venue. -/
def readsOnly : DispatchOp → Prop
  | .store o => o.reads
  | .newUuid7 | .marketDataFresh => True
  | _ => False

def StoreOp.writesCommand : StoreOp → Bool
  | claim _ _ | touchAttempt _ _ | setResult _ _ _ => true
  | _ => false

/-- Nothing that changes a command row or reaches the venue. -/
def leavesCommands : DispatchOp → Prop
  | .store o => o.writesCommand = false
  | .newUuid7 | .marketDataFresh => True
  | _ => False

/-- Neither a claim, nor a call that writes at the venue, nor the end of the session. -/
def sendsNothing : DispatchOp → Prop
  | .store o => ¬ o.claims
  | .newUuid7 | .marketDataFresh | .recoverSubmit _ _ | .commit => True
  | _ => False

theorem leavesCommands_of_readsOnly (o : DispatchOp) (h : readsOnly o) : leavesCommands o := by
  cases o with
  | store o => cases o <;> simp_all [readsOnly, leavesCommands, StoreOp.reads, StoreOp.writesCommand]
  | _ => simp_all [readsOnly, leavesCommands]

theorem sendsNothing_of_leavesCommands (o : DispatchOp) (h : leavesCommands o) : sendsNothing o := by
  cases o with
  | store o => cases o <;> simp_all [leavesCommands, sendsNothing, StoreOp.writesCommand, StoreOp.claims]
  | _ => simp_all [leavesCommands, sendsNothing]

theorem sendsNothing_of_readsOnly (o : DispatchOp) (h : readsOnly o) : sendsNothing o :=
  sendsNothing_of_leavesCommands o (leavesCommands_of_readsOnly o h)

variable {commandId : UUID} {now : DateTime} {moment : Instant}

theorem statement_reads {o : StoreOp} (h : o.reads) : (statement o).Within readsOnly :=
  Action.within_perform h

theorem statement_leavesCommands {o : StoreOp} (h : o.writesCommand = false) :
    (statement o).Within leavesCommands :=
  Action.within_perform h

theorem statement_sendsNothing {o : StoreOp} (h : o.claims = false) :
    (statement o).Within sendsNothing :=
  Action.within_perform (by simp [sendsNothing, h])

theorem mayDispatch_reads : (mayDispatch commandId moment).Within readsOnly := by
  refine Action.Within.bind (statement_reads rfl) fun row => ?_
  cases row with
  | none => exact Action.within_pure _
  | some row =>
    refine Action.Within.bind (statement_reads rfl) fun leases => ?_
    refine Action.Within.bind (statement_reads rfl) fun controls => ?_
    split
    · exact Action.within_pure _
    · refine Action.Within.bind (statement_reads rfl) fun blocking => ?_
      exact Action.Within.bind (statement_reads rfl) fun unknown => Action.within_pure _

theorem maySubmit_reads {facts : Option RuntimeFacts} :
    (maySubmit facts commandId moment).Within readsOnly := by
  cases facts with
  | none => exact Action.within_pure _
  | some facts =>
    refine Action.Within.bind (statement_reads rfl) fun row => ?_
    cases row with
    | none => exact Action.within_pure _
    | some row =>
      refine Action.Within.bind (statement_reads rfl) fun controls => ?_
      split
      · exact Action.within_pure _
      · refine Action.Within.bind (statement_reads rfl) fun blocking => ?_
        refine Action.Within.bind (statement_reads rfl) fun unknown => ?_
        refine Action.Within.bind (statement_reads rfl) fun reconciling => ?_
        exact Action.Within.bind (Action.within_perform trivial) fun fresh => Action.within_pure _

theorem loadCommand_reads : (loadCommand commandId).Within readsOnly :=
  Action.Within.bind (statement_reads rfl) fun _ => Action.within_pure _

theorem recoverableCommand_reads : (recoverableCommand commandId).Within readsOnly := by
  refine Action.Within.bind (statement_reads rfl) fun row => ?_
  cases row with
  | none => exact Action.within_pure _
  | some row =>
    dsimp only
    split
    · exact Action.within_pure _
    · split
      · split <;> exact Action.within_pure _
      · exact Action.within_pure _

theorem commandForRecovery_reads : (commandForRecovery commandId).Within readsOnly := by
  refine Action.Within.bind loadCommand_reads fun command => ?_
  cases command with
  | none => exact Action.within_throw _
  | some command => exact Action.within_pure _

theorem recordRecoveryAttempt_sendsNothing :
    (recordRecoveryAttempt commandId now).Within sendsNothing := by
  refine Action.Within.bind (Action.within_ofExcept _) fun moment => ?_
  exact Action.Within.bind (statement_sendsNothing rfl) fun _ =>
    statement_sendsNothing rfl

theorem linkBrokerOrder_leavesCommands {row : PersistedOrderCommand} {brokerOrderId : String} :
    (linkBrokerOrder row brokerOrderId).Within leavesCommands := by
  refine Action.Within.bind (statement_leavesCommands rfl) fun account => ?_
  cases account with
  | none => exact Action.within_throw _
  | some account =>
    refine Action.Within.bind (statement_leavesCommands rfl) fun existing => ?_
    cases existing with
    | some link => exact Action.within_pure _
    | none =>
      refine Action.Within.bind (statement_leavesCommands rfl) fun highest => ?_
      refine Action.Within.bind (Action.within_perform trivial) fun linkId => ?_
      exact statement_leavesCommands rfl

theorem recordAccepted_sendsNothing {brokerOrderId : String} :
    (recordAccepted commandId brokerOrderId now).Within sendsNothing := by
  unfold recordAccepted
  split
  · exact Action.within_throw _
  · refine Action.Within.bind (Action.within_ofExcept _) fun moment => ?_
    refine Action.Within.bind (statement_sendsNothing rfl) fun row => ?_
    cases row with
    | none => exact Action.within_throw _
    | some row =>
      dsimp only
      split
      · exact Action.within_pure _
      · refine Action.Within.bind (statement_sendsNothing rfl) fun _ => ?_
        refine Action.Within.bind (linkBrokerOrder_leavesCommands.mono sendsNothing_of_leavesCommands) fun _ => ?_
        exact statement_sendsNothing rfl

theorem recordTerminal_sendsNothing {state : ResultState} :
    (recordTerminal commandId state now).Within sendsNothing := by
  refine Action.Within.bind (Action.within_ofExcept _) fun moment => ?_
  refine Action.Within.bind (statement_sendsNothing rfl) fun row => ?_
  cases row with
  | none => exact Action.within_throw _
  | some row =>
    dsimp only
    split
    · exact Action.within_pure _
    · exact Action.Within.bind (statement_sendsNothing rfl) fun _ =>
        statement_sendsNothing rfl

theorem recoverCommand_sendsNothing {facts : Option RuntimeFacts} {command : BrokerOrderCommand} :
    (recoverCommand (mySqlDispatchStore facts) command now).Within sendsNothing := by
  unfold recoverCommand
  split
  · exact recordTerminal_sendsNothing
  · split
    · refine Action.Within.bind recordRecoveryAttempt_sendsNothing fun _ => ?_
      refine Action.Within.bind (Action.within_perform trivial) fun result => ?_
      cases result with
      | none => exact recordTerminal_sendsNothing
      | some result => exact recordAccepted_sendsNothing
    · exact Action.within_pure _

/-! ### Sessions -/

/-- A session follows a protocol when its call does, when a commit keeps the session
going, and when closing it is an end the protocol admits. -/
theorem inSession_obeys {Phase : Type} {P : Protocol PyError DispatchOp DispatchOp.Result Phase}
    {live : Phase → Prop} {s : Phase} {call : Act Unit}
    (hcall : call.Keeps P s (fun s' _ => live s') (fun s' _ => live s'))
    (hcommit : ∀ s, live s → P.allows s .commit ∧ ∀ r s', P.moves s .commit r s' → live s')
    (hclose : ∀ s, live s → P.allows s .close ∧ ∀ r s', P.moves s .close r s' → P.ends s') :
    (inSession call).Obeys P (fun s' _ => P.ends s') s := by
  have hbody : (do call; Action.perform DispatchOp.commit : Act Unit).Keeps P s
      (fun s' _ => live s') (fun s' _ => live s') := by
    refine hcall.bind fun s' _ hs' => (Action.keeps_perform ..).mpr ?_
    exact ⟨(hcommit s' hs').1, fun v => (hcommit s' hs').2 (.ok v), fun e => (hcommit s' hs').2 (.error e)⟩
  have hend : ∀ s', live s' → (Action.perform DispatchOp.close : Act Unit).Keeps P s'
      (fun s'' _ => P.ends s'') (fun s'' _ => P.ends s'') := by
    intro s' hs'
    exact (Action.keeps_perform ..).mpr
      ⟨(hclose s' hs').1, fun v => (hclose s' hs').2 (.ok v), fun e => (hclose s' hs').2 (.error e)⟩
  refine (Program.obeys_bind _ _ _).mpr (Program.Obeys.mono (q := fun s' _ => P.ends s') ?_ ?_)
  · exact fun s' _ hs' => hs'
  · refine Program.Obeys.mono ?_ (Action.Keeps.bind (m := fun s' _ => live s')
      ((Action.keeps_suppress ..).mpr hbody) fun s' _ hs' => hend s' hs')
    intro s' r hs'
    cases r <;> exact hs'

end AutoTrader.Dispatch
