import AutoTrader.Binance.OrderModels
import AutoTrader.Numeric.Rounding

/-! The manager of an open David v6 position. From the position and what the market says it
decides on an exit, the first stop, one add, the move of the stop to break even, or marks. -/

namespace AutoTrader.Operations

open AutoTrader.Domain AutoTrader.Numeric AutoTrader.Binance

inductive V6PositionActionKind
  | activateInitialStop
  | addAndMoveStop
  | moveStopToBreakEven
  | recordFib25
  | recordFib50Research
  | observePartial1_2R
  | observePartial1_5R
  | exitFullFib66
  | exitFullMetodoCrossDown
  | exitFullBlockingBigTrade
  | exitFullSessionClose
  | emergencyExitFull
  deriving DecidableEq

def V6PositionActionKind.value : V6PositionActionKind → String
  | .activateInitialStop => "ACTIVATE_INITIAL_STOP"
  | .addAndMoveStop => "ADD_AND_MOVE_STOP"
  | .moveStopToBreakEven => "MOVE_STOP_TO_BREAK_EVEN"
  | .recordFib25 => "RECORD_FIB_25"
  | .recordFib50Research => "RECORD_FIB_50_RESEARCH"
  | .observePartial1_2R => "OBSERVE_PARTIAL_1_2R"
  | .observePartial1_5R => "OBSERVE_PARTIAL_1_5R"
  | .exitFullFib66 => "EXIT_FULL_FIB_66"
  | .exitFullMetodoCrossDown => "EXIT_FULL_METODO_CROSS_DOWN"
  | .exitFullBlockingBigTrade => "EXIT_FULL_BLOCKING_BIG_TRADE"
  | .exitFullSessionClose => "EXIT_FULL_SESSION_CLOSE"
  | .emergencyExitFull => "EMERGENCY_EXIT_FULL"

structure V6ManagedPosition where
  side : Side
  initialEntryPrice : ℚ
  averageEntryPrice : ℚ
  initialQuantity : ℚ
  remainingQuantity : ℚ
  initialStopPrice : ℚ
  activeStopPrice : Option ℚ
  initialStopActive : Bool
  originalApprovedRisk : ℚ
  currentWorstCaseRisk : ℚ
  addCount : Nat
  breakEvenActive : Bool
  fib25Recorded : Bool
  fib50Recorded : Bool
  shadow1_2RRecorded : Bool
  shadow1_5RRecorded : Bool
  deriving DecidableEq

structure V6PositionFacts where
  currentPrice : ℚ
  atr5m : ℚ
  tickSize : ℚ
  actualEntryFeePerUnit : ℚ
  takerExitFeePerUnit : ℚ
  q95AdverseStopSlippage : ℚ
  slippageSampleSufficient : Bool
  fib25Price : Option ℚ
  fib50Price : Option ℚ
  fib66Price : Option ℚ
  blockingBigTrade : Bool
  metodoExitSignal : Bool
  protectionFailed : Bool
  mustBeFlat : Bool
  deriving DecidableEq

/-- A telemetry action carries no order. -/
structure V6PositionAction where
  kind : V6PositionActionKind
  reason : String
  orderStyle : Option OrderStyle
  quantity : Option ℚ
  stopPrice : Option ℚ
  averageEntryPrice : Option ℚ
  resultingWorstCaseRisk : ℚ
  reduceOnly : Bool
  telemetryOnly : Bool
  accountHalt : Bool
  carriesNothing : telemetryOnly = true →
    orderStyle = none ∧ quantity = none ∧ stopPrice = none ∧ accountHalt = false

/-! ### Checks -/

private def positive (name : String) (value : ℚ) : Except PyError Unit :=
  require (0 < value) (valueError (name ++ " must be positive"))

private def notNegative (name : String) (value : ℚ) : Except PyError Unit :=
  require (0 ≤ value) (valueError (name ++ " must not be negative"))

private def positiveIfPresent (name : String) (value : Option ℚ) : Except PyError Unit :=
  require (value.all fun x => decide (0 < x)) (valueError (name ++ " must be positive"))

/-- `V6ManagedPosition.__post_init__`. -/
def V6ManagedPosition.validate (position : V6ManagedPosition) : Except PyError Unit := do
  positive "initial_entry_price" position.initialEntryPrice
  positive "average_entry_price" position.averageEntryPrice
  positive "initial_quantity" position.initialQuantity
  positive "remaining_quantity" position.remainingQuantity
  positive "initial_stop_price" position.initialStopPrice
  notNegative "original_approved_risk" position.originalApprovedRisk
  notNegative "current_worst_case_risk" position.currentWorstCaseRisk
  positiveIfPresent "active_stop_price" position.activeStopPrice
  require (position.initialStopActive = position.activeStopPrice.isSome)
    (valueError "active stop state and price must agree")
  require (position.addCount ≤ 1) (valueError "add_count must be zero or one")
  require (position.currentWorstCaseRisk ≤ position.originalApprovedRisk)
    (valueError "current risk cannot exceed original approved risk")
  match position.side with
  | .buy =>
    require (position.initialStopPrice < position.initialEntryPrice)
      (valueError "long initial stop must be below entry")
  | .sell =>
    require (position.initialEntryPrice < position.initialStopPrice)
      (valueError "short initial stop must be above entry")

/-- The stop of a side lies behind the entry. -/
def V6ManagedPosition.stopBehind (position : V6ManagedPosition) : Prop :=
  match position.side with
  | .buy => position.initialStopPrice < position.initialEntryPrice
  | .sell => position.initialEntryPrice < position.initialStopPrice

theorem V6ManagedPosition.validate_ok {position : V6ManagedPosition} {u : Unit} :
    position.validate = .ok u ↔ 0 < position.initialEntryPrice ∧ 0 < position.averageEntryPrice ∧
      0 < position.initialQuantity ∧ 0 < position.remainingQuantity ∧ 0 < position.initialStopPrice ∧
      0 ≤ position.originalApprovedRisk ∧ 0 ≤ position.currentWorstCaseRisk ∧
      (∀ stop, position.activeStopPrice = some stop → 0 < stop) ∧
      position.initialStopActive = position.activeStopPrice.isSome ∧ position.addCount ≤ 1 ∧
      position.currentWorstCaseRisk ≤ position.originalApprovedRisk ∧ position.stopBehind := by
  have hstop : (position.activeStopPrice.all fun x => decide (0 < x)) = true ↔
      ∀ stop, position.activeStopPrice = some stop → 0 < stop := by
    cases position.activeStopPrice <;> simp
  unfold V6ManagedPosition.validate V6ManagedPosition.stopBehind positive notNegative positiveIfPresent
  simp only [bind_ok, require_ok, exists_const, decide_eq_true_eq, hstop]
  cases position.side <;> simp only [require_ok, decide_eq_true_eq]

/-- `V6PositionFacts.__post_init__`. -/
def V6PositionFacts.validate (facts : V6PositionFacts) : Except PyError Unit := do
  positive "current_price" facts.currentPrice
  positive "atr_5m" facts.atr5m
  positive "tick_size" facts.tickSize
  positiveIfPresent "fib_25_price" facts.fib25Price
  positiveIfPresent "fib_50_price" facts.fib50Price
  positiveIfPresent "fib_66_price" facts.fib66Price
  notNegative "actual_entry_fee_per_unit" facts.actualEntryFeePerUnit
  notNegative "taker_exit_fee_per_unit" facts.takerExitFeePerUnit
  notNegative "q95_adverse_stop_slippage" facts.q95AdverseStopSlippage

theorem V6PositionFacts.validate_returns {facts : V6PositionFacts} {u : Unit} :
    facts.validate = .ok u ↔ 0 < facts.currentPrice ∧ 0 < facts.atr5m ∧ 0 < facts.tickSize ∧
      (∀ price, facts.fib25Price = some price → 0 < price) ∧ (∀ price, facts.fib50Price = some price → 0 < price) ∧
      (∀ price, facts.fib66Price = some price → 0 < price) ∧ 0 ≤ facts.actualEntryFeePerUnit ∧
      0 ≤ facts.takerExitFeePerUnit ∧ 0 ≤ facts.q95AdverseStopSlippage := by
  have hprice : ∀ price : Option ℚ, (price.all fun x => decide (0 < x)) = true ↔ ∀ x, price = some x → 0 < x := by
    intro price
    cases price <;> simp
  unfold V6PositionFacts.validate positive notNegative positiveIfPresent
  simp only [bind_ok, require_ok, exists_const, decide_eq_true_eq, hprice]

theorem V6PositionFacts.validate_ok {facts : V6PositionFacts} {u : Unit} (h : facts.validate = .ok u) :
    0 < facts.currentPrice ∧ 0 < facts.tickSize ∧ 0 ≤ facts.actualEntryFeePerUnit ∧ 0 ≤ facts.takerExitFeePerUnit ∧
      0 ≤ facts.q95AdverseStopSlippage := by
  obtain ⟨hprice, -, htick, -, -, -, hentry, hexit, hslippage⟩ := V6PositionFacts.validate_returns.mp h
  exact ⟨hprice, htick, hentry, hexit, hslippage⟩

/-! ### Prices -/

/-- The context of `decimal`: every operation rounds its result. -/
private def fix : ℚ → ℚ := roundSig 28

/-- `_break_even_stop`: the entry and what leaving it costs, in whole ticks. -/
def breakEvenStop (side : Side) (entryPrice : ℚ) (facts : V6PositionFacts) : ℚ :=
  let rawOffset := fix (fix (fix (facts.actualEntryFeePerUnit + facts.takerExitFeePerUnit) +
    facts.q95AdverseStopSlippage) + facts.tickSize)
  let offset := fix (⌈fix (rawOffset / facts.tickSize)⌉ * facts.tickSize)
  match side with
  | .buy => fix (entryPrice + offset)
  | .sell => fix (entryPrice - offset)

/-- `_non_widening_stop`. -/
def nonWideningStop (side : Side) (currentStop : Option ℚ) (proposedStop : ℚ) : ℚ :=
  match currentStop with
  | none => proposedStop
  | some currentStop =>
    match side with
    | .buy => max currentStop proposedStop
    | .sell => min currentStop proposedStop

/-- `_worst_case_risk`. -/
def worstCaseRisk (side : Side) (averageEntry stopPrice quantity : ℚ) : ℚ :=
  let lossPerUnit :=
    match side with
    | .buy => fix (averageEntry - stopPrice)
    | .sell => fix (stopPrice - averageEntry)
  fix (max lossPerUnit 0 * quantity)

/-- `_favorable_move`. -/
def favorableMove (side : Side) (entry current : ℚ) : ℚ :=
  match side with
  | .buy => fix (current - entry)
  | .sell => fix (entry - current)

/-- `_reached`. -/
def reached (side : Side) (current target : ℚ) : Bool :=
  match side with
  | .buy => target ≤ current
  | .sell => current ≤ target

/-- The average entry price of the position and one add of the initial quantity. -/
def averageAfterAdd (position : V6ManagedPosition) (facts : V6PositionFacts) : ℚ :=
  fix (fix (fix (position.averageEntryPrice * position.remainingQuantity) +
      fix (facts.currentPrice * position.initialQuantity)) /
    fix (position.remainingQuantity + position.initialQuantity))

/-! ### Actions -/

/-- `_telemetry`. -/
def telemetry (position : V6ManagedPosition) (kind : V6PositionActionKind) : V6PositionAction where
  kind := kind
  reason := kind.value
  orderStyle := none
  quantity := none
  stopPrice := none
  averageEntryPrice := none
  resultingWorstCaseRisk := position.currentWorstCaseRisk
  reduceOnly := false
  telemetryOnly := true
  accountHalt := false
  carriesNothing _ := ⟨rfl, rfl, rfl, rfl⟩

/-- `_full_exit`. -/
def fullExit (position : V6ManagedPosition) (kind : V6PositionActionKind) (accountHalt : Bool) :
    V6PositionAction where
  kind := kind
  reason := kind.value
  orderStyle := some .market
  quantity := some position.remainingQuantity
  stopPrice := none
  averageEntryPrice := none
  resultingWorstCaseRisk := 0
  reduceOnly := true
  telemetryOnly := false
  accountHalt := accountHalt
  carriesNothing := nofun

def activateInitialStop (position : V6ManagedPosition) : V6PositionAction where
  kind := .activateInitialStop
  reason := "INITIAL_PROTECTION_REQUIRED"
  orderStyle := none
  quantity := none
  stopPrice := some position.initialStopPrice
  averageEntryPrice := some position.averageEntryPrice
  resultingWorstCaseRisk := position.currentWorstCaseRisk
  reduceOnly := false
  telemetryOnly := false
  accountHalt := false
  carriesNothing := nofun

/-- `_add_action`. -/
def addAction (position : V6ManagedPosition) (facts : V6PositionFacts) : Option V6PositionAction :=
  if position.addCount ≠ 0 ∨ ¬facts.slippageSampleSufficient then none
  else
    let favorable := favorableMove position.side position.initialEntryPrice facts.currentPrice
    let threshold := max (fix (position.initialEntryPrice * (1 / 1000))) (fix (facts.atr5m * (35 / 100)))
    if favorable < threshold ∨ favorable ≤ 0 then none
    else
      let totalQuantity := fix (position.remainingQuantity + position.initialQuantity)
      let averageEntry := averageAfterAdd position facts
      let activeStop :=
        nonWideningStop position.side position.activeStopPrice (breakEvenStop position.side averageEntry facts)
      let resultingRisk := worstCaseRisk position.side averageEntry activeStop totalQuantity
      if min position.currentWorstCaseRisk position.originalApprovedRisk < resultingRisk then none
      else some
        { kind := .addAndMoveStop
          reason := "ONE_FAVORABLE_ADD_WITH_WEIGHTED_BREAK_EVEN"
          orderStyle := some .market
          quantity := some position.initialQuantity
          stopPrice := some activeStop
          averageEntryPrice := some averageEntry
          resultingWorstCaseRisk := resultingRisk
          reduceOnly := false
          telemetryOnly := false
          accountHalt := false
          carriesNothing := nofun }

/-- `_break_even_action`. -/
def breakEvenAction (position : V6ManagedPosition) (facts : V6PositionFacts) : Option V6PositionAction :=
  if position.breakEvenActive ∨ ¬facts.slippageSampleSufficient then none
  else
    let initialR := |fix (position.initialEntryPrice - position.initialStopPrice)|
    let favorable := favorableMove position.side position.initialEntryPrice facts.currentPrice
    if favorable < fix (initialR * (30 / 100)) then none
    else
      let activeStop := nonWideningStop position.side position.activeStopPrice
        (breakEvenStop position.side position.averageEntryPrice facts)
      some
        { kind := .moveStopToBreakEven
          reason := "GENERAL_BREAK_EVEN_AT_0_30R"
          orderStyle := none
          quantity := none
          stopPrice := some activeStop
          averageEntryPrice := some position.averageEntryPrice
          resultingWorstCaseRisk :=
            worstCaseRisk position.side position.averageEntryPrice activeStop position.remainingQuantity
          reduceOnly := false
          telemetryOnly := false
          accountHalt := false
          carriesNothing := nofun }

/-- The marks of one pass. -/
def marks (position : V6ManagedPosition) (facts : V6PositionFacts) (mode : RuntimeMode) : List V6PositionAction :=
  let level (recorded : Bool) (price : Option ℚ) :=
    !recorded && price.any fun price => reached position.side facts.currentPrice price
  let favorable := favorableMove position.side position.initialEntryPrice facts.currentPrice
  let initialR := |fix (position.initialEntryPrice - position.initialStopPrice)|
  let partialExit (recorded : Bool) (multiple : ℚ) :=
    decide (mode = .shadow) && !recorded && decide (fix (initialR * multiple) ≤ favorable)
  (if level position.fib25Recorded facts.fib25Price then [telemetry position .recordFib25] else []) ++
    (if level position.fib50Recorded facts.fib50Price then [telemetry position .recordFib50Research] else []) ++
    (if partialExit position.shadow1_2RRecorded (12 / 10) then [telemetry position .observePartial1_2R] else []) ++
    (if partialExit position.shadow1_5RRecorded (15 / 10) then [telemetry position .observePartial1_5R] else [])

/-- `manage_v6_position`. -/
def manageV6Position (position : V6ManagedPosition) (facts : V6PositionFacts) (mode : RuntimeMode) :
    Except PyError (List V6PositionAction) := do
  position.validate
  facts.validate
  if facts.protectionFailed then pure [fullExit position .emergencyExitFull true]
  else if facts.mustBeFlat then pure [fullExit position .exitFullSessionClose false]
  else if facts.blockingBigTrade then pure [fullExit position .exitFullBlockingBigTrade false]
  else if facts.metodoExitSignal then pure [fullExit position .exitFullMetodoCrossDown false]
  else if facts.fib66Price.any fun price => reached position.side facts.currentPrice price then
    pure [fullExit position .exitFullFib66 false]
  else if !position.initialStopActive then pure [activateInitialStop position]
  else match addAction position facts with
    | some add => pure [add]
    | none => pure ((breakEvenAction position facts).toList ++ marks position facts mode)

/-! ### What the manager asks of the stop -/

/-- The average entry price the stop of a move is measured from. -/
def averageBehind (position : V6ManagedPosition) (facts : V6PositionFacts) : V6PositionActionKind → ℚ
  | .addAndMoveStop => averageAfterAdd position facts
  | _ => position.averageEntryPrice

theorem addAction_some {position : V6ManagedPosition} {facts : V6PositionFacts} {action : V6PositionAction}
    (h : addAction position facts = some action) :
    action.kind = .addAndMoveStop ∧ action.stopPrice = some (nonWideningStop position.side position.activeStopPrice
      (breakEvenStop position.side (averageAfterAdd position facts) facts)) := by
  unfold addAction at h
  split at h
  · cases h
  dsimp only at h
  split at h
  · cases h
  split at h
  · cases h
  · cases h
    exact ⟨rfl, rfl⟩

/-- An add is the first one, and leaves no more at risk than there is and than was approved. -/
theorem addAction_bounded {position : V6ManagedPosition} {facts : V6PositionFacts} {action : V6PositionAction}
    (h : addAction position facts = some action) :
    position.addCount = 0 ∧ action.quantity = some position.initialQuantity ∧
      action.averageEntryPrice = some (averageAfterAdd position facts) ∧
      (∀ stop, action.stopPrice = some stop → action.resultingWorstCaseRisk = worstCaseRisk position.side
        (averageAfterAdd position facts) stop (roundSig 28 (position.remainingQuantity + position.initialQuantity))) ∧
      action.resultingWorstCaseRisk ≤ min position.currentWorstCaseRisk position.originalApprovedRisk := by
  unfold addAction at h
  split at h
  · cases h
  rename_i hcount
  dsimp only at h
  split at h
  · cases h
  split at h
  · cases h
  · rename_i hrisk
    cases h
    refine ⟨?_, rfl, rfl, ?_, not_lt.mp hrisk⟩
    · by_contra hadded
      exact hcount (.inl hadded)
    · rintro _ ⟨⟩
      rfl

theorem breakEvenAction_some {position : V6ManagedPosition} {facts : V6PositionFacts} {action : V6PositionAction}
    (h : breakEvenAction position facts = some action) :
    action.kind = .moveStopToBreakEven ∧ action.stopPrice = some (nonWideningStop position.side
      position.activeStopPrice (breakEvenStop position.side position.averageEntryPrice facts)) := by
  unfold breakEvenAction at h
  split at h
  · cases h
  dsimp only at h
  split at h
  · cases h
  · cases h
    exact ⟨rfl, rfl⟩

theorem marks_kinds {position : V6ManagedPosition} {facts : V6PositionFacts} {mode : RuntimeMode}
    {action : V6PositionAction} (h : action ∈ marks position facts mode) :
    action.kind = .recordFib25 ∨ action.kind = .recordFib50Research ∨ action.kind = .observePartial1_2R ∨
      action.kind = .observePartial1_5R := by
  have hpart : ∀ (shown : Bool) kind, action ∈ (if shown then [telemetry position kind] else []) →
      action.kind = kind := by
    intro shown kind hmem
    cases shown
    · exact absurd hmem List.not_mem_nil
    · rw [List.mem_singleton.mp hmem]
      rfl
  simp only [marks, List.mem_append] at h
  rcases h with ((h | h) | h) | h
  · exact .inl (hpart _ _ h)
  · exact .inr (.inl (hpart _ _ h))
  · exact .inr (.inr (.inl (hpart _ _ h)))
  · exact .inr (.inr (.inr (hpart _ _ h)))

theorem marks_kind {position : V6ManagedPosition} {facts : V6PositionFacts} {mode : RuntimeMode}
    {action : V6PositionAction} (h : action ∈ marks position facts mode) :
    ¬(action.kind = .moveStopToBreakEven ∨ action.kind = .addAndMoveStop) := by
  rcases marks_kinds h with hname | hname | hname | hname <;> rw [hname] <;> decide

def V6PositionActionKind.isFullExit : V6PositionActionKind → Bool
  | .exitFullFib66 | .exitFullMetodoCrossDown | .exitFullBlockingBigTrade | .exitFullSessionClose
  | .emergencyExitFull => true
  | _ => false

/-- Something in the facts asks for the position to be left. -/
def ExitCondition (position : V6ManagedPosition) (facts : V6PositionFacts) : Prop :=
  facts.protectionFailed ∨ facts.mustBeFlat ∨ facts.blockingBigTrade ∨ facts.metodoExitSignal ∨
    facts.fib66Price.any fun price => reached position.side facts.currentPrice price

/-- What an evaluation that succeeds answers. -/
inductive Managed (position : V6ManagedPosition) (facts : V6PositionFacts) (mode : RuntimeMode) :
    List V6PositionAction → Prop
  | exit (kind : V6PositionActionKind) (accountHalt : Bool) (hkind : kind.isFullExit = true) :
    Managed position facts mode [fullExit position kind accountHalt]
  | activate (hexit : ¬ExitCondition position facts) (hstop : position.activeStopPrice = none) :
    Managed position facts mode [activateInitialStop position]
  | add (action : V6PositionAction) (hexit : ¬ExitCondition position facts) (hstop : position.activeStopPrice.isSome)
    (hadd : addAction position facts = some action) : Managed position facts mode [action]
  | hold (hexit : ¬ExitCondition position facts) (hstop : position.activeStopPrice.isSome)
    (hadd : addAction position facts = none) :
    Managed position facts mode ((breakEvenAction position facts).toList ++ marks position facts mode)

/-- Only the checks of its two arguments can fail it. -/
theorem manageV6Position_returns {position : V6ManagedPosition} {facts : V6PositionFacts} {mode : RuntimeMode} :
    (∃ actions, manageV6Position position facts mode = .ok actions) ↔
      position.validate = .ok () ∧ facts.validate = .ok () := by
  constructor
  · rintro ⟨actions, h⟩
    obtain ⟨_, hposition, h⟩ := bind_ok.mp h
    obtain ⟨_, hfacts, -⟩ := bind_ok.mp h
    exact ⟨hposition, hfacts⟩
  · rintro ⟨hposition, hfacts⟩
    unfold manageV6Position
    rw [hposition, hfacts]
    simp only [ok_bind]
    split_ifs
    iterate 6 exact ⟨_, rfl⟩
    split
    · exact ⟨_, rfl⟩
    · exact ⟨_, rfl⟩

theorem manageV6Position_managed {position : V6ManagedPosition} {facts : V6PositionFacts} {mode : RuntimeMode}
    {actions : List V6PositionAction} (h : manageV6Position position facts mode = .ok actions) :
    position.validate = .ok () ∧ Managed position facts mode actions := by
  obtain ⟨_, hposition, h⟩ := bind_ok.mp h
  obtain ⟨_, -, h⟩ := bind_ok.mp h
  refine ⟨hposition, ?_⟩
  obtain ⟨-, -, -, -, -, -, -, -, hagree, -⟩ := V6ManagedPosition.validate_ok.mp hposition
  split at h
  · exact Except.ok.inj h ▸ .exit _ _ rfl
  split at h
  · exact Except.ok.inj h ▸ .exit _ _ rfl
  split at h
  · exact Except.ok.inj h ▸ .exit _ _ rfl
  split at h
  · exact Except.ok.inj h ▸ .exit _ _ rfl
  split at h
  · exact Except.ok.inj h ▸ .exit _ _ rfl
  rename_i hprotection hflat htrade hmetodo hfib
  have hexit : ¬ExitCondition position facts := by
    rintro (h | h | h | h | h)
    · exact hprotection h
    · exact hflat h
    · exact htrade h
    · exact hmetodo h
    · exact hfib h
  split at h
  · rename_i hinactive
    have hnone : position.activeStopPrice = none := by
      rw [hagree] at hinactive
      simpa using hinactive
    exact Except.ok.inj h ▸ .activate hexit hnone
  rename_i hactive
  have hsome : position.activeStopPrice.isSome := by
    rw [hagree] at hactive
    simpa [Option.isSome_iff_ne_none] using hactive
  split at h
  · rename_i add hadd
    exact Except.ok.inj h ▸ .add add hexit hsome hadd
  · rename_i hadd
    exact Except.ok.inj h ▸ .hold hexit hsome hadd

/-- The stop of a move is the break-even price behind its entry, or the working stop where that is
the tighter one. -/
theorem manageV6Position_stop {position : V6ManagedPosition} {facts : V6PositionFacts} {mode : RuntimeMode}
    {actions : List V6PositionAction} (h : manageV6Position position facts mode = .ok actions)
    {action : V6PositionAction} (hmem : action ∈ actions)
    (hkind : action.kind = .moveStopToBreakEven ∨ action.kind = .addAndMoveStop) :
    (∃ active, position.activeStopPrice = some active ∧ 0 < active) ∧
      action.stopPrice = some (nonWideningStop position.side position.activeStopPrice
        (breakEvenStop position.side (averageBehind position facts action.kind) facts)) := by
  obtain ⟨hposition, hmanaged⟩ := manageV6Position_managed h
  obtain ⟨-, -, -, -, -, -, -, hpositive, -⟩ := V6ManagedPosition.validate_ok.mp hposition
  have hstop : position.activeStopPrice.isSome → ∃ active, position.activeStopPrice = some active ∧ 0 < active := by
    intro hsome
    obtain ⟨active, hactive⟩ := Option.isSome_iff_exists.mp hsome
    exact ⟨active, hactive, hpositive active hactive⟩
  cases hmanaged with
  | exit kind halt hexit =>
    rw [List.mem_singleton.mp hmem] at hkind
    rcases hkind with hmove | hadd
    · rw [show kind = .moveStopToBreakEven from hmove] at hexit
      cases hexit
    · rw [show kind = .addAndMoveStop from hadd] at hexit
      cases hexit
  | activate =>
    rw [List.mem_singleton.mp hmem] at hkind
    rcases hkind with hmove | hadd
    · cases hmove
    · cases hadd
  | add add _ hsome hadd =>
    obtain ⟨hname, hprice⟩ := addAction_some hadd
    rw [List.mem_singleton.mp hmem, hname]
    exact ⟨hstop hsome, hprice⟩
  | hold _ hsome _ =>
    rcases List.mem_append.mp hmem with hmove | hmark
    · obtain ⟨hname, hprice⟩ := breakEvenAction_some (Option.mem_toList.mp hmove)
      rw [hname]
      exact ⟨hstop hsome, hprice⟩
    · exact absurd hkind (marks_kind hmark)

end AutoTrader.Operations
