import AutoTrader.Dispatch.Store

/-! `DispatchService` over any store that implements its protocol, and the session the
composition opens around each call: the only commit is the one after the call returned. -/

namespace AutoTrader.Dispatch

open AutoTrader.Domain AutoTrader.Execution AutoTrader.Runtime

/-- The `DispatchStore` protocol. -/
structure DispatchStore where
  authorizeAndRecordAttempt : UUID → DateTime → Act (Option BrokerOrderCommand)
  recordUnknown : UUID → DateTime → Instant → Act Unit
  recordAccepted : UUID → String → DateTime → Act Unit
  recordRejected : UUID → DateTime → Act Unit
  recordRecoveryAttempt : UUID → DateTime → Act Unit
  commandForRecovery : UUID → Act BrokerOrderCommand
  recoverableCommand : UUID → Act (Option BrokerOrderCommand)

def mySqlDispatchStore (facts : Option RuntimeFacts) : DispatchStore where
  authorizeAndRecordAttempt := authorizeAndRecordAttempt facts
  recordUnknown := recordUnknown
  recordAccepted := recordAccepted
  recordRejected := recordRejected
  recordRecoveryAttempt := recordRecoveryAttempt
  commandForRecovery := commandForRecovery
  recoverableCommand := recoverableCommand

variable (store : DispatchStore)

/-- `_dispatch_to_broker`. -/
def dispatchToBroker (command : BrokerOrderCommand) : Act BrokerSubmission :=
  match command.commandType with
  | .submit => Action.perform (DispatchOp.submit command)
  | .cancel => Action.perform (DispatchOp.cancel command)
  | .replace => Action.perform (DispatchOp.replace command)

/-- The guard of `_recover`: an exact clock inside the window that starts at the
recorded attempt. -/
def recoveryOpen (command : BrokerOrderCommand) (now : DateTime) : Bool :=
  match command.dispatchAttemptedAt with
  | none => false
  | some attemptedAt =>
    now.isExactUtc && decide (attemptedAt ≤ now.instant) && decide (now.instant < command.notAfter)

/-- `_recover`. -/
def recoverCommand (command : BrokerOrderCommand) (now : DateTime) : Act Unit :=
  if command.commandType ≠ .submit then
    store.recordUnknown command.id now command.notAfter
  else if recoveryOpen command now then do
    store.recordRecoveryAttempt command.id now
    match ← (Action.perform (DispatchOp.recoverSubmit command now) : Act (Option BrokerSubmission)) with
    | none => store.recordUnknown command.id now command.notAfter
    | some result => store.recordAccepted command.id result.brokerOrderId now
  else pure ()

/-- `_record_unknown_cancellation_safe`: the write runs in a task of its own until the
command's deadline cancels it, and whatever it raises is swallowed. -/
def recordUnknownCancellationSafe (commandId : UUID) (now : DateTime) (deadline : Instant) : Act Unit :=
  (store.recordUnknown commandId now deadline).suppress

/-- `_scrub_control_exception`. -/
def scrubControlException (caught : PyError) : PyError :=
  { caught with message := "" }

/-- The `try` block of `dispatch`: the control exception it caught, if any. -/
def sendAndRecord (command : BrokerOrderCommand) (commandId : UUID) (now : DateTime) :
    Act (Option PyError) :=
  (do
    let result ← dispatchToBroker command
    store.recordAccepted commandId result.brokerOrderId now
    pure none : Act (Option PyError)).tryCatch fun caught =>
      if caught.kind.isSubmissionRejected then do
        store.recordRejected commandId now
        pure none
      else if caught.kind.isControl then pure (some (scrubControlException caught))
      else do
        store.recordUnknown commandId now command.notAfter
        pure none

def dispatch (commandId : UUID) (now : DateTime) : Act Unit := do
  match ← store.authorizeAndRecordAttempt commandId now with
  | none =>
    match ← store.recoverableCommand commandId with
    | none => pure ()
    | some recovery =>
      if recovery.commandType = .submit then recoverCommand store recovery now
      else store.recordUnknown recovery.id now recovery.notAfter
  | some command =>
    match ← sendAndRecord store command commandId now with
    | none => pure ()
    | some error =>
      recordUnknownCancellationSafe store commandId now command.notAfter
      throw error

def recover (commandId : UUID) (now : DateTime) : Act Unit := do
  let command ← store.commandForRecovery commandId
  recoverCommand store command now

/-! ### The session around a call -/

inductive ServiceCall
  | dispatch (commandId : UUID) (now : DateTime)
  | recover (commandId : UUID) (now : DateTime)

def ServiceCall.body : ServiceCall → Act Unit
  | .dispatch commandId now => Dispatch.dispatch store commandId now
  | .recover commandId now => Dispatch.recover store commandId now

/-- `async with sessions() as session: await call; await session.commit()`. Leaving the
block closes the session, which drops what was not committed. -/
def inSession (call : Act Unit) : Program PyError DispatchOp DispatchOp.Result Unit :=
  (do
    (do call; Action.perform DispatchOp.commit : Act Unit).suppress
    Action.perform DispatchOp.close : Act Unit).run >>= fun _ => pure ()

end AutoTrader.Dispatch
