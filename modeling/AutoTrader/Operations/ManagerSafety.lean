import AutoTrader.Operations.DavidV6Position

/-! Runs of the manager. Every action of an evaluation is applied to the position before the
next evaluation: an add changes the average entry and the stop, a move only the stop, a mark is
recorded, and after an exit nothing is held. -/

namespace AutoTrader.Operations

open AutoTrader.Domain AutoTrader.Numeric AutoTrader.Binance

/-! ### Applying an action -/

/-- The position after the stop moved. -/
def V6ManagedPosition.moved (position : V6ManagedPosition) (action : V6PositionAction) : V6ManagedPosition :=
  { position with
    activeStopPrice := action.stopPrice
    currentWorstCaseRisk := action.resultingWorstCaseRisk
    breakEvenActive := true }

/-- The position after the add filled. -/
def V6ManagedPosition.added (position : V6ManagedPosition) (action : V6PositionAction) : V6ManagedPosition :=
  { position.moved action with
    averageEntryPrice := action.averageEntryPrice.getD position.averageEntryPrice
    remainingQuantity := roundSig 28 (position.remainingQuantity + action.quantity.getD 0)
    addCount := position.addCount + 1 }

/-- The position after an action, or nothing after an exit. -/
def V6ManagedPosition.after (position : V6ManagedPosition) (action : V6PositionAction) :
    Option V6ManagedPosition :=
  match action.kind with
  | .activateInitialStop => some { position with activeStopPrice := action.stopPrice, initialStopActive := true }
  | .addAndMoveStop => some (position.added action)
  | .moveStopToBreakEven => some (position.moved action)
  | .recordFib25 => some { position with fib25Recorded := true }
  | .recordFib50Research => some { position with fib50Recorded := true }
  | .observePartial1_2R => some { position with shadow1_2RRecorded := true }
  | .observePartial1_5R => some { position with shadow1_5RRecorded := true }
  | .exitFullFib66 | .exitFullMetodoCrossDown | .exitFullBlockingBigTrade | .exitFullSessionClose
  | .emergencyExitFull => none

/-- The positions the actions lead through, in order. -/
def V6ManagedPosition.through : V6ManagedPosition → List V6PositionAction → List V6ManagedPosition
  | _, [] => []
  | position, action :: actions =>
    match position.after action with
    | none => []
    | some next => next :: next.through actions

def V6ManagedPosition.afterAll : V6ManagedPosition → List V6PositionAction → Option V6ManagedPosition
  | position, [] => some position
  | position, action :: actions => (position.after action).bind (·.afterAll actions)

/-! ### Runs -/

structure Evaluation where
  position : V6ManagedPosition
  facts : V6PositionFacts
  mode : RuntimeMode
  actions : List V6PositionAction

def Evaluation.passed (e : Evaluation) : List V6ManagedPosition :=
  e.position :: e.position.through e.actions

/-- One evaluation for each input until nothing is held. One that raises leaves the position as it is. -/
def managerRun : Option V6ManagedPosition → List (V6PositionFacts × RuntimeMode) → List Evaluation
  | none, _ => []
  | some _, [] => []
  | some position, (facts, mode) :: inputs =>
    match manageV6Position position facts mode with
    | .error _ => managerRun (some position) inputs
    | .ok actions => ⟨position, facts, mode, actions⟩ :: managerRun (position.afterAll actions) inputs

/-- The side and the terms of the entry stay, and a stop that works is followed by one that is no
further from the price. -/
structure V6ManagedPosition.Keeps (p q : V6ManagedPosition) : Prop where
  side : q.side = p.side
  approved : q.originalApprovedRisk = p.originalApprovedRisk
  stop : ∀ stop, p.activeStopPrice = some stop → ∃ next, q.activeStopPrice = some next ∧
    match p.side with
    | .buy => stop ≤ next
    | .sell => next ≤ stop

/-- What holds of the evaluations of a run that starts with a position. -/
structure ManagerSafe (start : V6ManagedPosition) (run : List Evaluation) : Prop where
  stops : (run.flatMap Evaluation.passed).Pairwise V6ManagedPosition.Keeps
  adds : ((run.flatMap (·.actions)).countP fun action => action.kind = .addAndMoveStop) ≤ 1
  risk : ∀ e ∈ run, ∀ action ∈ e.actions, action.kind = .addAndMoveStop →
    ∃ next stop, e.position.after action = some next ∧ next.activeStopPrice = some stop ∧
      next.currentWorstCaseRisk =
        worstCaseRisk next.side next.averageEntryPrice stop next.remainingQuantity ∧
      next.currentWorstCaseRisk ≤ min e.position.currentWorstCaseRisk start.originalApprovedRisk
  exits : ∀ e ∈ run, ∀ action ∈ e.actions, action.kind.isFullExit = true →
    action.reduceOnly = true ∧ action.orderStyle = some .market ∧
      action.quantity = some e.position.remainingQuantity
  preempts : ∀ e ∈ run, ExitCondition e.position e.facts →
    ∃ action, e.actions = [action] ∧ action.kind.isFullExit = true

/-! ### One action -/

namespace V6ManagedPosition

theorem Keeps.refl (p : V6ManagedPosition) : p.Keeps p where
  side := rfl
  approved := rfl
  stop stop h := by
    refine ⟨stop, h, ?_⟩
    cases p.side <;> exact le_refl stop

theorem Keeps.trans {p q r : V6ManagedPosition} (hpq : p.Keeps q) (hqr : q.Keeps r) : p.Keeps r where
  side := hqr.side.trans hpq.side
  approved := hqr.approved.trans hpq.approved
  stop stop h := by
    obtain ⟨next, hnext, hle⟩ := hpq.stop stop h
    obtain ⟨last, hlast, hle'⟩ := hqr.stop next hnext
    refine ⟨last, hlast, ?_⟩
    rw [hpq.side] at hle'
    cases hside : p.side with
    | buy =>
      rw [hside] at hle hle'
      exact le_trans hle hle'
    | sell =>
      rw [hside] at hle hle'
      exact le_trans hle' hle

/-- The stop of a move is the tighter one of the stop that works and the one proposed. -/
theorem nonWideningStop_tighter (side : Side) (stop proposed : ℚ) :
    match side with
    | .buy => stop ≤ nonWideningStop side (some stop) proposed
    | .sell => nonWideningStop side (some stop) proposed ≤ stop := by
  cases side with
  | buy => exact le_max_left stop proposed
  | sell => exact min_le_left stop proposed

/-- A position that differs in its stop, which is tighter than before. -/
theorem Keeps.of_move {p q : V6ManagedPosition} {proposed : ℚ} (hside : q.side = p.side)
    (happroved : q.originalApprovedRisk = p.originalApprovedRisk)
    (hstop : q.activeStopPrice = some (nonWideningStop p.side p.activeStopPrice proposed)) : p.Keeps q where
  side := hside
  approved := happroved
  stop stop h := by
    rw [h] at hstop
    exact ⟨_, hstop, nonWideningStop_tighter p.side stop proposed⟩

/-- A position that differs in neither its stop nor the terms of its entry. -/
theorem Keeps.of_eq {p q : V6ManagedPosition} (hside : q.side = p.side)
    (happroved : q.originalApprovedRisk = p.originalApprovedRisk)
    (hstop : q.activeStopPrice = p.activeStopPrice) : p.Keeps q := by
  refine ⟨hside, happroved, fun stop h => ?_⟩
  have hq : q.activeStopPrice = some stop := hstop.trans h
  exact ⟨stop, hq, by cases p.side <;> exact le_refl stop⟩

end V6ManagedPosition

/-! ### One evaluation -/

section Evaluation

variable {position : V6ManagedPosition} {facts : V6PositionFacts} {mode : RuntimeMode}

/-- The add among these actions, if there is one. -/
def addsIn (actions : List V6PositionAction) : Nat :=
  actions.countP fun action => action.kind = .addAndMoveStop

theorem addsIn_append (xs ys : List V6PositionAction) : addsIn (xs ++ ys) = addsIn xs + addsIn ys :=
  List.countP_append

/-- What the actions of one evaluation do to a position when they are applied in order. -/
structure Applied (position : V6ManagedPosition) (actions : List V6PositionAction) : Prop where
  passed : (position :: position.through actions).Pairwise V6ManagedPosition.Keeps
  last : ∀ next, position.afterAll actions = some next →
    (∀ p ∈ position :: position.through actions, p.Keeps next) ∧
      next.addCount = position.addCount + addsIn actions
  adds : addsIn actions ≤ 1 - position.addCount

theorem Applied.nil : Applied position [] where
  passed := List.pairwise_singleton _ _
  last := by
    rintro _ ⟨⟩
    refine ⟨fun p hp => ?_, rfl⟩
    rw [List.mem_singleton.mp hp]
    exact .refl _
  adds := Nat.zero_le _

/-- Nothing is applied after an exit. -/
theorem Applied.exit {action : V6PositionAction} (h : action.kind.isFullExit = true) :
    Applied position [action] := by
  have hafter : position.after action = none := by
    revert h
    unfold V6ManagedPosition.after
    cases action.kind <;> simp [V6PositionActionKind.isFullExit]
  have hkind : action.kind ≠ .addAndMoveStop := by
    rintro hkind
    rw [hkind] at h
    cases h
  refine ⟨?_, ?_, ?_⟩
  · simp [V6ManagedPosition.through, hafter]
  · intro next hnext
    simp [V6ManagedPosition.afterAll, hafter] at hnext
  · simp [addsIn, hkind]

theorem Applied.cons {action : V6PositionAction} {actions : List V6PositionAction} {next : V6ManagedPosition}
    (hafter : position.after action = some next) (hkeeps : position.Keeps next)
    (hcount : next.addCount = position.addCount + addsIn [action]) (hadds : addsIn [action] ≤ 1 - position.addCount)
    (h : Applied next actions) : Applied position (action :: actions) := by
  have hthrough : position.through (action :: actions) = next :: next.through actions := by
    rw [V6ManagedPosition.through, hafter]
  have hall : position.afterAll (action :: actions) = next.afterAll actions := by
    rw [V6ManagedPosition.afterAll, hafter, Option.bind_some]
  have hsum : addsIn (action :: actions) = addsIn [action] + addsIn actions := addsIn_append [action] actions
  have hfrom : ∀ q ∈ next :: next.through actions, position.Keeps q := by
    intro q hq
    rcases List.mem_cons.mp hq with rfl | hq
    · exact hkeeps
    · exact hkeeps.trans (List.rel_of_pairwise_cons h.passed hq)
  refine ⟨?_, ?_, ?_⟩
  · rw [hthrough]
    exact List.pairwise_cons.mpr ⟨hfrom, h.passed⟩
  · intro last hlast
    rw [hall] at hlast
    obtain ⟨hpassed, hadded⟩ := h.last last hlast
    refine ⟨?_, by omega⟩
    intro p hp
    rw [hthrough] at hp
    rcases List.mem_cons.mp hp with rfl | hp
    · exact hkeeps.trans (hpassed next List.mem_cons_self)
    · exact hpassed p hp
  · have := h.adds
    omega

/-- A mark changes neither the stop nor the number of adds. -/
theorem Applied.marks {actions : List V6PositionAction}
    (h : ∀ action ∈ actions, action.kind = .recordFib25 ∨ action.kind = .recordFib50Research ∨
      action.kind = .observePartial1_2R ∨ action.kind = .observePartial1_5R) : Applied position actions := by
  induction actions generalizing position with
  | nil => exact .nil
  | cons action actions ih =>
    obtain ⟨next, hafter, hkeeps, hcount⟩ : ∃ next, position.after action = some next ∧ position.Keeps next ∧
        next.addCount = position.addCount := by
      unfold V6ManagedPosition.after
      rcases h action List.mem_cons_self with hkind | hkind | hkind | hkind <;> rw [hkind] <;>
        exact ⟨_, rfl, .of_eq rfl rfl rfl, rfl⟩
    have hnone : addsIn [action] = 0 := by
      rcases h action List.mem_cons_self with hkind | hkind | hkind | hkind <;> simp [addsIn, hkind]
    exact .cons hafter hkeeps (by omega) (by omega) (ih fun a ha => h a (List.mem_cons_of_mem _ ha))

/-- The position after an add has the risk the add was measured with. -/
theorem after_add {action : V6PositionAction} (h : addAction position facts = some action) :
    ∃ next stop, position.after action = some next ∧ position.Keeps next ∧ next.addCount = position.addCount + 1 ∧
      next.activeStopPrice = some stop ∧
      next.currentWorstCaseRisk = worstCaseRisk next.side next.averageEntryPrice stop next.remainingQuantity ∧
      next.currentWorstCaseRisk ≤ min position.currentWorstCaseRisk position.originalApprovedRisk := by
  obtain ⟨hkind, hstop⟩ := addAction_some h
  obtain ⟨-, hquantity, haverage, hrisk, hle⟩ := addAction_bounded h
  have hafter : position.after action = some (position.added action) := by
    rw [V6ManagedPosition.after, hkind]
  refine ⟨position.added action, _, hafter, .of_move rfl rfl hstop, rfl, hstop, ?_, hle⟩
  show action.resultingWorstCaseRisk = worstCaseRisk position.side
    (action.averageEntryPrice.getD position.averageEntryPrice) _
    (roundSig 28 (position.remainingQuantity + action.quantity.getD 0))
  rw [hrisk _ hstop, hquantity, haverage]
  rfl

theorem Managed.applied {actions : List V6PositionAction} (h : Managed position facts mode actions) :
    Applied position actions := by
  cases h with
  | exit kind halt hkind => exact .exit hkind
  | activate _ hstop =>
    refine .cons rfl ⟨rfl, rfl, fun stop hactive => ?_⟩ rfl (Nat.zero_le _) .nil
    rw [hstop] at hactive
    cases hactive
  | add action _ _ hadd =>
    obtain ⟨hkind, -⟩ := addAction_some hadd
    obtain ⟨hfirst, -⟩ := addAction_bounded hadd
    obtain ⟨next, stop, hafter, hkeeps, hcount, -⟩ := after_add hadd
    have hone : addsIn [action] = 1 := by simp [addsIn, hkind]
    exact .cons hafter hkeeps (by omega) (by omega) .nil
  | hold =>
    have hmarks : ∀ p : V6ManagedPosition, Applied p (marks position facts mode) := fun p =>
      .marks fun _ haction => marks_kinds haction
    cases hmove : breakEvenAction position facts with
    | none => exact hmarks position
    | some move =>
      obtain ⟨hkind, hstop⟩ := breakEvenAction_some hmove
      have hnone : addsIn [move] = 0 := by simp [addsIn, hkind]
      have hafter : position.after move = some (position.moved move) := by
        rw [V6ManagedPosition.after, hkind]
      have hcount : (position.moved move).addCount = position.addCount + addsIn [move] := by
        rw [hnone]
        rfl
      exact .cons hafter (.of_move rfl rfl hstop) hcount (by omega) (hmarks _)

theorem Managed.exits {actions : List V6PositionAction} (h : Managed position facts mode actions)
    {action : V6PositionAction} (hmem : action ∈ actions) (hkind : action.kind.isFullExit = true) :
    action.reduceOnly = true ∧ action.orderStyle = some .market ∧
      action.quantity = some position.remainingQuantity := by
  cases h with
  | exit kind halt hexit =>
    rw [List.mem_singleton.mp hmem]
    exact ⟨rfl, rfl, rfl⟩
  | activate =>
    rw [List.mem_singleton.mp hmem] at hkind
    cases hkind
  | add add _ _ hadd =>
    obtain ⟨hname, -⟩ := addAction_some hadd
    rw [List.mem_singleton.mp hmem, hname] at hkind
    cases hkind
  | hold =>
    rcases List.mem_append.mp hmem with hmove | hmark
    · obtain ⟨hname, -⟩ := breakEvenAction_some (Option.mem_toList.mp hmove)
      rw [hname] at hkind
      cases hkind
    · rcases marks_kinds hmark with hname | hname | hname | hname <;> rw [hname] at hkind <;> cases hkind

/-- Only the add of an evaluation has its kind. -/
theorem Managed.risk {actions : List V6PositionAction} (h : Managed position facts mode actions)
    {action : V6PositionAction} (hmem : action ∈ actions) (hkind : action.kind = .addAndMoveStop) :
    addAction position facts = some action := by
  cases h with
  | exit kind halt hexit =>
    rw [List.mem_singleton.mp hmem] at hkind
    rw [show kind = .addAndMoveStop from hkind] at hexit
    cases hexit
  | activate =>
    rw [List.mem_singleton.mp hmem] at hkind
    cases hkind
  | add add _ _ hadd =>
    rw [List.mem_singleton.mp hmem]
    exact hadd
  | hold =>
    rcases List.mem_append.mp hmem with hmove | hmark
    · obtain ⟨hname, -⟩ := breakEvenAction_some (Option.mem_toList.mp hmove)
      rw [hname] at hkind
      cases hkind
    · rcases marks_kinds hmark with hname | hname | hname | hname <;> rw [hname] at hkind <;> cases hkind

theorem Managed.preempts {actions : List V6PositionAction} (h : Managed position facts mode actions)
    (hexit : ExitCondition position facts) : ∃ action, actions = [action] ∧ action.kind.isFullExit = true := by
  cases h with
  | exit kind halt hkind => exact ⟨_, rfl, hkind⟩
  | activate hnone => exact absurd hexit hnone
  | add _ hnone => exact absurd hexit hnone
  | hold hnone => exact absurd hexit hnone

end Evaluation

/-! ### Whole runs -/

@[simp] theorem managerRun_none (inputs : List (V6PositionFacts × RuntimeMode)) : managerRun none inputs = [] := by
  rw [managerRun]

/-- The positions of a run keep each other, and there is at most the add that is still free. -/
theorem managerRun_passed (held : Option V6ManagedPosition) (inputs : List (V6PositionFacts × RuntimeMode)) :
    ∀ start, held = some start →
      ((managerRun held inputs).flatMap Evaluation.passed).Pairwise V6ManagedPosition.Keeps ∧
      (∀ p ∈ (managerRun held inputs).flatMap Evaluation.passed, start.Keeps p) ∧
      addsIn ((managerRun held inputs).flatMap (·.actions)) ≤ 1 - start.addCount := by
  induction inputs generalizing held with
  | nil =>
    rintro start rfl
    exact ⟨List.Pairwise.nil, fun p hp => absurd hp List.not_mem_nil, Nat.zero_le _⟩
  | cons input inputs ih =>
    rintro start rfl
    obtain ⟨facts, mode⟩ := input
    rw [managerRun]
    cases hrun : manageV6Position start facts mode with
    | error e => exact ih (some start) start rfl
    | ok actions =>
      have happlied := (manageV6Position_managed hrun).2.applied
      have hhere : ∀ p ∈ start :: start.through actions, start.Keeps p := by
        intro p hp
        rcases List.mem_cons.mp hp with rfl | hp
        · exact .refl _
        · exact List.rel_of_pairwise_cons happlied.passed hp
      dsimp only
      simp only [List.flatMap_cons, addsIn_append]
      cases hnext : start.afterAll actions with
      | none =>
        rw [managerRun_none]
        simp only [List.flatMap_nil, List.append_nil]
        exact ⟨happlied.passed, hhere, happlied.adds⟩
      | some next =>
        obtain ⟨hpairwise, hrest, hadds⟩ := ih (some next) next rfl
        obtain ⟨hlast, hcount⟩ := happlied.last next hnext
        refine ⟨List.pairwise_append.mpr ⟨happlied.passed, hpairwise, fun p hp q hq => ?_⟩, fun p hp => ?_, ?_⟩
        · exact (hlast p hp).trans (hrest q hq)
        · rcases List.mem_append.mp hp with hp | hp
          · exact hhere p hp
          · exact (hlast start List.mem_cons_self).trans (hrest p hp)
        · have := happlied.adds
          omega

/-- Every evaluation of a run is one of the manager's. -/
theorem managerRun_managed {held : Option V6ManagedPosition} {inputs : List (V6PositionFacts × RuntimeMode)}
    {e : Evaluation} (h : e ∈ managerRun held inputs) : Managed e.position e.facts e.mode e.actions := by
  induction inputs generalizing held with
  | nil => cases held <;> cases h
  | cons input inputs ih =>
    cases held with
    | none => cases h
    | some position =>
      rw [managerRun] at h
      cases hrun : manageV6Position position input.1 input.2 with
      | error _ =>
        rw [hrun] at h
        exact ih h
      | ok actions =>
        rw [hrun] at h
        rcases List.mem_cons.mp h with rfl | h
        · exact (manageV6Position_managed hrun).2
        · exact ih h

theorem manager_safe (start : V6ManagedPosition) (inputs : List (V6PositionFacts × RuntimeMode)) :
    ManagerSafe start (managerRun (some start) inputs) := by
  obtain ⟨hstops, hkeeps, hadds⟩ := managerRun_passed (some start) inputs start rfl
  refine ⟨hstops, hadds.trans (Nat.sub_le _ _), ?_, ?_, ?_⟩
  · intro e he action haction hkind
    obtain ⟨next, stop, hafter, -, -, hstop, hrisk, hle⟩ :=
      after_add ((managerRun_managed he).risk haction hkind)
    have happroved : e.position.originalApprovedRisk = start.originalApprovedRisk :=
      (hkeeps e.position (List.mem_flatMap.mpr ⟨e, he, List.mem_cons_self⟩)).approved
    exact ⟨next, stop, hafter, hstop, hrisk, happroved ▸ hle⟩
  · intro e he action haction hkind
    exact (managerRun_managed he).exits haction hkind
  · intro e he hexit
    exact (managerRun_managed he).preempts hexit

end AutoTrader.Operations
