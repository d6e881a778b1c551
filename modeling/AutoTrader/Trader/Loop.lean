import AutoTrader.Runtime.Execution
import AutoTrader.Strategy.Decision
import AutoTrader.Trader.PositionFacts
import AutoTrader.Trader.ProtectedPositions

/-! One pass of the trading loop: hold the lease, settle what is open, compare with the broker,
check the stops, and then evaluate the next bar, with what is held first. -/

namespace AutoTrader.Trader

open AutoTrader.Dispatch AutoTrader.Domain AutoTrader.Ledger AutoTrader.Numeric AutoTrader.Operations AutoTrader.Runtime
  AutoTrader.Strategy

/-! ### Inputs -/

section

variable (Other : Type)

/-- The inputs of the assembly. `other` are those only the assembly reads. -/
structure AssemblyInputs where
  bars : Timeframe → Option (List CompletedOhlcvBar)
  tickSize : Option ℚ
  feeSchedule : Option FeeSchedule
  stopSlippageQ95 : Option ℚ
  other : Other

structure TickContext where
  inputs : AssemblyInputs Other
  manifest : V6Manifest
  riskContext : V6RiskContext
  now : Instant

structure AssemblyResult where
  bundle : V6EvidenceBundle
  hlit : Option HlitFacts

/-- What a tick computes for the entry: `assemble_v6_evidence`, and `evaluate_v6` on the risk context
that the evidence supports. -/
structure TickEngine where
  assemble : AssemblyInputs Other → Except PyError AssemblyResult
  evaluate : AssemblyResult → V6Manifest → V6RiskContext → Except PyError Strategy.V6Decision

end

/-! ### Ports -/

/-- The calls a pass makes of its ports. -/
inductive PassOp
  | acquire (now : Instant)
  | settle (now : Instant)
  | reconcile (now : Instant)
  | unprotected (now : Instant)
  | contextFor (now : Instant)
  | isArmed
  | openPosition (accountId instrumentId : UUID)
  | protectionFailed (accountId instrumentId : UUID)
  | apply (action : V6PositionAction) (position : V6ManagedPosition) (positionId : RowId) (now : Instant)
  | record (decision : Strategy.V6Decision)
  | submit (decision : Strategy.V6Decision) (setup : HlitSetup) (now : Instant)

variable {Other : Type}

/-- What each of them answers. -/
def PassOp.Result (Other : Type) : PassOp → Type
  | .acquire _ | .isArmed | .protectionFailed _ _ => Bool
  | .settle _ | .reconcile _ | .unprotected _ => Nat
  | .contextFor _ => Option (TickContext Other)
  | .openPosition _ _ => Option (RowId × V6ManagedPosition)
  | .apply _ _ _ _ | .record _ => Unit
  | .submit _ _ _ => Option UUID

abbrev PassAct (Other : Type) := Action PyError PassOp (PassOp.Result Other)

structure TickOutcome where
  reason : String
  decision : Option Strategy.V6Decision
  orderId : Option UUID

structure LoopPass where
  reason : String
  settled : Nat
  outcome : Option TickOutcome

/-! ### The position manager -/

structure V6PositionManager where
  accountId : UUID
  instrumentId : UUID
  mode : RuntimeMode

namespace V6PositionManager

/-- `for action in actions: await self._actions.apply(...)`. -/
def route (now : Instant) (positionId : RowId) (position : V6ManagedPosition) : List V6PositionAction → PassAct Other Unit
  | [] => pure ()
  | action :: actions => do
    let _ ← (Action.perform (PassOp.apply action position positionId now) : PassAct Other Unit)
    route now positionId position actions

/-- `V6PositionManager.manage`. -/
def manage (manager : V6PositionManager) (market : PositionMarket) (now : Instant) : PassAct Other Bool := do
  let held ← (Action.perform (PassOp.openPosition manager.accountId manager.instrumentId) :
    PassAct Other (Option (RowId × V6ManagedPosition)))
  match held with
  | none => pure false
  | some (positionId, position) =>
    let failed ← (Action.perform (PassOp.protectionFailed manager.accountId manager.instrumentId) : PassAct Other Bool)
    let actions ← Action.ofExcept (decideActions market manager.mode position failed)
    route now positionId position actions
    pure !actions.isEmpty

end V6PositionManager

/-! ### The tick -/

section Tick

variable (engine : TickEngine Other) (manager : Option V6PositionManager)

/-- `_position_market`. -/
def positionMarket (context : TickContext Other) (assembled : AssemblyResult) : Option PositionMarket :=
  match context.inputs.bars .fiveMinutes, context.inputs.tickSize, context.inputs.feeSchedule with
  | some bars, some tickSize, some feeSchedule =>
    bars.getLast?.map fun last =>
      { bundle := assembled.bundle
        hlit := assembled.hlit
        currentPrice := last.close.toRat
        atr5m := context.riskContext.riskRequest.atr5m
        tickSize := tickSize
        feeSchedule := feeSchedule
        stopSlippageQ95 := context.inputs.stopSlippageQ95 }
  | _, _, _ => none

/-- Whether something that is held was dealt with. -/
def manageHeld (context : TickContext Other) (assembled : AssemblyResult) : PassAct Other Bool :=
  match manager, positionMarket context assembled with
  | some manager, some market => manager.manage market context.now
  | _, _ => pure false

/-- The entry decision. -/
def considerEntry (context : TickContext Other) (assembled : AssemblyResult) : PassAct Other TickOutcome := do
  let side := context.riskContext.riskRequest.side
  let decision ← Action.ofExcept (engine.evaluate assembled context.manifest context.riskContext)
  let _ ← (Action.perform (PassOp.record decision) : PassAct Other Unit)
  if decision.grade = .reject then pure ⟨"NOT_TRADEABLE", some decision, none⟩
  else
    match assembled.hlit.bind fun hlit => hlit.forSide side with
    | none => pure ⟨"NO_SETUP_DRAWN", some decision, none⟩
    | some setup =>
      let orderId ← (Action.perform (PassOp.submit decision setup context.now) : PassAct Other (Option UUID))
      match orderId with
      | none => pure ⟨"NOT_TRADEABLE", some decision, none⟩
      | some orderId => pure ⟨"SUBMITTED", some decision, some orderId⟩

/-- `run_tick`. -/
def runTick (context : TickContext Other) : PassAct Other TickOutcome := do
  let armed ← (Action.perform PassOp.isArmed : PassAct Other Bool)
  if !armed then pure ⟨"DISARMED", none, none⟩
  else
    let assembled ← Action.ofExcept (engine.assemble context.inputs)
    let acted ← manageHeld manager context assembled
    if acted then pure ⟨"POSITION_MANAGED", none, none⟩
    else considerEntry engine context assembled

/-- The second half of a pass: the next bar, once nothing that is held stands against it. -/
def evaluateBar (settled : Nat) (now : Instant) : PassAct Other LoopPass := do
  let context ← (Action.perform (PassOp.contextFor now) : PassAct Other (Option (TickContext Other)))
  match context with
  | none => pure ⟨"NO_NEW_BAR", settled, none⟩
  | some context =>
    let outcome ← runTick engine manager context
    pure ⟨outcome.reason, settled, some outcome⟩

/-- `run_pass`. -/
def runPass (now : Instant) : PassAct Other LoopPass := do
  let leader ← (Action.perform (PassOp.acquire now) : PassAct Other Bool)
  if !leader then pure ⟨"NOT_LEADER", 0, none⟩
  else
    let settled ← (Action.perform (PassOp.settle now) : PassAct Other Nat)
    let differences : Nat ← (Action.perform (PassOp.reconcile now) : PassAct Other Nat)
    if differences ≠ 0 then pure ⟨"UNRECONCILED", settled, none⟩
    else
      let unprotected : Nat ← (Action.perform (PassOp.unprotected now) : PassAct Other Nat)
      if unprotected ≠ 0 then pure ⟨"UNPROTECTED", settled, none⟩
      else evaluateBar engine manager settled now

end Tick

/-! ### The ports over the database -/

/-- A `POSITION_WITHOUT_PROTECTION` incident of an instrument. -/
structure InstrumentIncident extends Finding where
  reasonCode : String
  instrumentId : UUID
  createdAt : Instant

/-- What the ports of the account read and write. -/
structure TraderStore where
  store : ProtectionStore
  source : PositionSource
  controls : List TradingControl
  incidents : List InstrumentIncident

/-- `MySqlTradingControl.is_armed`. -/
def isArmed (controls : List TradingControl) : Bool :=
  !controls.isEmpty && controls.all fun control => control.armed && control.killSwitchLevel = .none

/-- `_block_new_exposure`. -/
def blockNewExposure (controls : List TradingControl) : List TradingControl :=
  controls.map fun control =>
    if control.killSwitchLevel = .none then
      { control with killSwitchLevel := .blockNewExposure, rowVersion := control.rowVersion + 1 }
    else control

/-- `_raise_incidents`: one open incident for each instrument. -/
def raiseIncidents (now : Instant) (incidents : List InstrumentIncident) (missing : List UUID) : List InstrumentIncident :=
  missing.foldl (fun incidents instrumentId =>
    if incidents.any fun incident => incident.reasonCode = "POSITION_WITHOUT_PROTECTION" &&
        incident.instrumentId = instrumentId && incident.isOpen then incidents
    else incidents ++
      [{ severity := .blocking, isOpen := true, reasonCode := "POSITION_WITHOUT_PROTECTION", instrumentId := instrumentId,
          createdAt := now }]) incidents

/-- The open positions of the account with no stop standing behind them. -/
def missingProtection (accountId : UUID) (s : TraderStore) : List UUID :=
  unprotectedInstruments (fun intentId => (s.source.intent intentId).map (·.1)) s.store accountId

/-- `MySqlProtectionGuard.unprotected`. -/
def guardUnprotected (accountId : UUID) (now : Instant) (s : TraderStore) : Nat × TraderStore :=
  match missingProtection accountId s with
  | [] => (0, s)
  | missing =>
    (missing.length,
      { s with
        incidents := raiseIncidents now s.incidents missing
        controls := blockNewExposure s.controls })

/-- The ports a composition chooses. -/
structure LoopPorts (Other : Type) where
  acquire : Instant → TraderStore → Except PyError Bool × TraderStore
  settle : Instant → TraderStore → Except PyError Nat × TraderStore
  reconcile : Instant → TraderStore → Except PyError Nat × TraderStore
  contextFor : Instant → TraderStore → Except PyError (Option (TickContext Other)) × TraderStore
  protectionFailed : UUID → UUID → TraderStore → Except PyError Bool × TraderStore
  apply : V6PositionAction → V6ManagedPosition → RowId → Instant → TraderStore → Except PyError Unit × TraderStore
  record : Strategy.V6Decision → TraderStore → Except PyError Unit × TraderStore
  submit : Strategy.V6Decision → HlitSetup → Instant → TraderStore → Except PyError (Option UUID) × TraderStore

/-- What both `build_ports` hand in for the position port: its default. -/
def builtManager : Option V6PositionManager := none

/-- The calls of a pass, answered over the rows of the account. -/
def LoopPorts.answer (ports : LoopPorts Other) (accountId : UUID) (s : TraderStore) :
    (op : PassOp) → Except PyError (PassOp.Result Other op) × TraderStore
  | .acquire now => ports.acquire now s
  | .settle now => ports.settle now s
  | .reconcile now => ports.reconcile now s
  | .unprotected now => (.ok (guardUnprotected accountId now s).1, (guardUnprotected accountId now s).2)
  | .contextFor now => ports.contextFor now s
  | .isArmed => (.ok (isArmed s.controls), s)
  | .openPosition accountId instrumentId =>
    (openPosition .decimal28 s.source s.store.tables accountId instrumentId, s)
  | .protectionFailed accountId instrumentId => ports.protectionFailed accountId instrumentId s
  | .apply action position positionId now => ports.apply action position positionId now s
  | .record decision => ports.record decision s
  | .submit decision setup now => ports.submit decision setup now s

end AutoTrader.Trader
