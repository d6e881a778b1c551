import AutoTrader.Strategy.Totality
import AutoTrader.Trader.Loop

/-! Whether a pass manages what the account holds. Every guard of the pass stands before the
manager, so an open position is managed exactly in the passes that none of them stops. -/

namespace AutoTrader.Trader

open AutoTrader.Dispatch AutoTrader.Domain AutoTrader.Ledger AutoTrader.Numeric AutoTrader.Operations AutoTrader.Runtime
  AutoTrader.Strategy

variable {Other : Type}

/-- A call of a pass, and what it was answered. -/
abbrev PassEvent (Other : Type) := (op : PassOp) × Except PyError (PassOp.Result Other op)

/-- An exit of the whole position, or its first stop. -/
def urgent (action : V6PositionAction) : Prop :=
  action.kind.isFullExit = true ∨ action.kind = .activateInitialStop

/-- What the manager goes by. -/
structure Seen (Other : Type) where
  context : TickContext Other
  market : PositionMarket
  positionId : RowId
  position : V6ManagedPosition
  protectionFailed : Bool

/-! ### Managing -/

section Passes

variable (engine : TickEngine Other) (manager : Option V6PositionManager) (ports : LoopPorts Other) (accountId : UUID)
  (now : Instant) (s : TraderStore)

/-- The calls of a pass. -/
def passTrace : List (PassEvent Other) :=
  (runPass engine manager now).trace (ports.answer accountId) s

/-- In the calls of a pass the manager reads the open position, and what is urgent of its decision is
handed to the execution port. -/
structure HandsOver (calls : List (PassEvent Other)) (m : V6PositionManager) (seen : Seen Other) : Prop where
  context : ⟨.contextFor now, .ok (some seen.context)⟩ ∈ calls
  market : ∃ assembled, engine.assemble seen.context.inputs = .ok assembled ∧
    positionMarket seen.context assembled = some seen.market
  position : ⟨.openPosition m.accountId m.instrumentId, .ok (some (seen.positionId, seen.position))⟩ ∈ calls
  health : ⟨.protectionFailed m.accountId m.instrumentId, .ok seen.protectionFailed⟩ ∈ calls
  handed : ∃ actions, decideActions seen.market m.mode seen.position seen.protectionFailed = .ok actions ∧
    ∀ action ∈ actions, urgent action → ∃ answer,
      ⟨.apply action seen.position seen.positionId seen.context.now, answer⟩ ∈ calls

/-- The pass manages what is held. -/
def ManagesHeld : Prop :=
  ∃ m seen, manager = some m ∧ HandsOver engine now (passTrace engine manager ports accountId now s) m seen

/-! ### The condition -/

/-- The stores the calls before the manager leave. -/
def leased : TraderStore := (ports.acquire now s).2

def settledStore : TraderStore := (ports.settle now (leased ports now s)).2

def reconciled : TraderStore := (ports.reconcile now (settledStore ports now s)).2

def drawn : TraderStore := (ports.contextFor now (reconciled ports now s)).2

/-- No guard stops the pass before the next bar. -/
structure ReachesBar : Prop where
  lease : (ports.acquire now s).1 = .ok true
  settles : ∃ count, (ports.settle now (leased ports now s)).1 = .ok count
  reconciles : (ports.reconcile now (settledStore ports now s)).1 = .ok (0 : Nat)
  protected_ : missingProtection accountId (reconciled ports now s) = []

/-- Nor before the manager: a new bar closed, and trading is armed. -/
structure LetsThrough (context : TickContext Other) : Prop extends ReachesBar ports accountId now s where
  newBar : (ports.contextFor now (reconciled ports now s)).1 = .ok (some context)
  armed : isArmed (drawn ports now s).controls = true

/-- The evidence can be assembled, and the inputs price an exit. -/
structure Priced (context : TickContext Other) : Prop where
  assembles : ∃ assembled, engine.assemble context.inputs = .ok assembled
  bars : ∃ bars, context.inputs.bars .fiveMinutes = some bars ∧ bars ≠ []
  tick : ∃ tick, context.inputs.tickSize = some tick ∧ 0 < tick
  fees : context.inputs.feeSchedule.isSome
  slippage : ∀ slippage, context.inputs.stopSlippageQ95 = some slippage → 0 ≤ slippage

/-- The open position and the health of its protection can be read. -/
structure Readable (m : V6PositionManager) (t : TraderStore) : Prop where
  position : ∃ held, openPosition .decimal28 t.source t.store.tables m.accountId m.instrumentId = .ok (some held)
  health : ∃ failed, (ports.protectionFailed m.accountId m.instrumentId t).1 = .ok failed

/-- A manager is handed in, no guard stops the pass, and nothing the manager reads is missing. -/
def Unguarded : Prop :=
  ∃ m context, manager = some m ∧ LetsThrough ports accountId now s context ∧ Priced engine context ∧
    Readable ports m (drawn ports now s)

end Passes

/-! ### What is decided -/

/-- An urgent action is the only one of its pass. -/
theorem urgent_alone {market : PositionMarket} {mode : RuntimeMode} {position : V6ManagedPosition} {failed : Bool}
    {actions : List V6PositionAction} (h : decideActions market mode position failed = .ok actions)
    {action : V6PositionAction} (hmem : action ∈ actions) (hurgent : urgent action) : actions = [action] := by
  obtain ⟨facts, -, h⟩ := bind_ok.mp h
  obtain ⟨-, hmanaged⟩ := manageV6Position_managed h
  cases hmanaged with
  | exit kind halt _ => rw [List.mem_singleton.mp hmem]
  | activate => rw [List.mem_singleton.mp hmem]
  | add add => rw [List.mem_singleton.mp hmem]
  | hold =>
    exfalso
    rcases List.mem_append.mp hmem with hmove | hmark
    · have hkind := (breakEvenAction_some (Option.mem_toList.mp hmove)).1
      rcases hurgent with hexit | hfirst
      · rw [hkind] at hexit
        cases hexit
      · rw [hkind] at hfirst
        cases hfirst
    · rcases hurgent with hexit | hfirst
      · rcases marks_kinds hmark with hkind | hkind | hkind | hkind <;> rw [hkind] at hexit <;> cases hexit
      · rcases marks_kinds hmark with hkind | hkind | hkind | hkind <;> rw [hkind] at hfirst <;> cases hfirst

/-! ### The calls of a pass -/

section Calls

variable {engine : TickEngine Other} {manager : Option V6PositionManager} {ports : LoopPorts Other} {accountId : UUID}
  {now : Instant} {s : TraderStore}

/-- The calls of the manager. -/
def PassOp.ofManager : PassOp → Bool
  | .openPosition _ _ | .protectionFailed _ _ | .apply _ _ _ _ => true
  | _ => false

/-- The calls of the guards. -/
def PassOp.guards : PassOp → Bool
  | .acquire _ | .settle _ | .reconcile _ | .unprotected _ => true
  | _ => false

/-- The call for the next bar. -/
def PassOp.drawsBar : PassOp → Bool
  | .contextFor _ => true
  | _ => false

/-- The entry decision makes none of them. -/
theorem considerEntry_within (context : TickContext Other) (assembled : AssemblyResult) :
    (considerEntry engine context assembled).Within fun op => op.ofManager = false ∧ op.drawsBar = false := by
  refine .bind (Action.within_ofExcept _) fun decision => .bind (Action.within_perform ⟨rfl, rfl⟩) fun _ => ?_
  split
  · exact Action.within_pure _
  · split
    · exact Action.within_pure _
    · refine .bind (Action.within_perform ⟨rfl, rfl⟩) fun orderId => ?_
      split
      · exact Action.within_pure _
      · exact Action.within_pure _

/-- Without an unprotected position the guard leaves everything as it is. -/
theorem guardUnprotected_zero : (guardUnprotected accountId now s).1 = 0 ↔ missingProtection accountId s = [] := by
  unfold guardUnprotected
  cases missingProtection accountId s <;> simp

theorem answer_unprotected (h : missingProtection accountId s = []) :
    ports.answer accountId s (.unprotected now) = (.ok (0 : Nat), s) := by
  unfold LoopPorts.answer guardUnprotected
  rw [h]

/-- An armed tick makes them in its first half. -/
theorem mem_tickTrace {context : TickContext Other} {event : PassEvent Other} (hevent : event.1.ofManager = true) :
    event ∈ (runTick engine manager context).trace (ports.answer accountId) s ↔
      isArmed s.controls = true ∧ ∃ assembled, engine.assemble context.inputs = .ok assembled ∧
        event ∈ (manageHeld manager context assembled).trace (ports.answer accountId) s := by
  have hrest : ∀ {acted : Bool} {assembled : AssemblyResult} {t : TraderStore},
      event ∉ (if acted then pure ⟨"POSITION_MANAGED", none, none⟩
        else considerEntry engine context assembled : PassAct Other TickOutcome).trace (ports.answer accountId) t := by
    intro acted assembled t hmem
    cases acted with
    | true => exact absurd hmem List.not_mem_nil
    | false =>
      have hentry := (Action.trace_within (considerEntry_within context assembled) t hmem).1
      rw [hevent] at hentry
      cases hentry
  have hcall : ∀ {answer}, event ≠ ⟨.isArmed, answer⟩ := by
    rintro answer rfl
    cases hevent
  unfold runTick
  constructor
  · intro hmem
    obtain ⟨armed, t, hanswer, hmem⟩ := (Action.mem_trace_perform.mp hmem).resolve_left hcall
    obtain ⟨harmed, rfl⟩ := Prod.mk.inj hanswer
    cases armed with
    | false => exact absurd hmem List.not_mem_nil
    | true =>
      obtain ⟨assembled, hassembled, hmem⟩ := Action.mem_trace_ofExcept.mp hmem
      rcases Action.mem_trace_bind.mp hmem with hmem | ⟨_, _, -, hmem⟩
      · exact ⟨Except.ok.inj harmed, assembled, hassembled, hmem⟩
      · exact absurd hmem hrest
  · rintro ⟨harmed, assembled, hassembled, hmem⟩
    refine Action.mem_trace_perform.mpr (.inr ⟨true, s, congrArg (Except.ok ·, s) harmed, ?_⟩)
    exact Action.mem_trace_ofExcept.mpr ⟨assembled, hassembled, Action.mem_trace_bind.mpr (.inl hmem)⟩

/-- The calls of the second half are made where no guard stops the first. -/
theorem mem_passTrace {event : PassEvent Other} (hevent : event.1.guards = false) :
    event ∈ passTrace engine manager ports accountId now s ↔ ReachesBar ports accountId now s ∧
      ∃ count, (ports.settle now (leased ports now s)).1 = .ok count ∧
        event ∈ (evaluateBar engine manager count now).trace (ports.answer accountId) (reconciled ports now s) := by
  have hother : ∀ {op : PassOp} {answer}, op.guards = true → event ≠ ⟨op, answer⟩ := by
    rintro op answer hop rfl
    rw [hop] at hevent
    cases hevent
  have hnone : ∀ {α : Type} {w : TraderStore} {a : α},
      event ∉ (pure a : PassAct Other α).trace (ports.answer accountId) w := List.not_mem_nil
  unfold passTrace runPass
  constructor
  · intro hmem
    obtain ⟨leader, s₁, hlease, hmem⟩ := (Action.mem_trace_perform.mp hmem).resolve_left (hother rfl)
    cases leader with
    | false => exact absurd hmem hnone
    | true =>
      obtain ⟨count, s₂, hsettle, hmem⟩ := (Action.mem_trace_perform.mp hmem).resolve_left (hother rfl)
      obtain ⟨differences, s₃, hreconcile, hmem⟩ := (Action.mem_trace_perform.mp hmem).resolve_left (hother rfl)
      cases differences with
      | succ n => exact absurd hmem hnone
      | zero =>
        obtain ⟨unprotected, s₄, hguard, hmem⟩ := (Action.mem_trace_perform.mp hmem).resolve_left (hother rfl)
        cases unprotected with
        | succ n => exact absurd hmem hnone
        | zero =>
          have h₁ : s₁ = leased ports now s := (congrArg Prod.snd hlease).symm
          subst h₁
          have h₂ : s₂ = settledStore ports now s := (congrArg Prod.snd hsettle).symm
          subst h₂
          have h₃ : s₃ = reconciled ports now s := (congrArg Prod.snd hreconcile).symm
          subst h₃
          have hprotected : missingProtection accountId (reconciled ports now s) = [] :=
            guardUnprotected_zero.mp (Except.ok.inj (congrArg Prod.fst hguard))
          have h₄ : s₄ = reconciled ports now s :=
            congrArg Prod.snd (hguard.symm.trans (answer_unprotected hprotected))
          subst h₄
          exact ⟨⟨congrArg Prod.fst hlease, ⟨count, congrArg Prod.fst hsettle⟩, congrArg Prod.fst hreconcile, hprotected⟩,
            count, congrArg Prod.fst hsettle, hmem⟩
  · rintro ⟨⟨hlease, -, hreconciles, hprotected⟩, count, hsettles, hmem⟩
    refine Action.mem_trace_perform.mpr (.inr ⟨true, leased ports now s, Prod.ext hlease rfl, ?_⟩)
    refine Action.mem_trace_perform.mpr (.inr ⟨count, settledStore ports now s, Prod.ext hsettles rfl, ?_⟩)
    refine Action.mem_trace_perform.mpr (.inr ⟨(0 : Nat), reconciled ports now s, Prod.ext hreconciles rfl, ?_⟩)
    refine Action.mem_trace_perform.mpr (.inr ⟨(0 : Nat), reconciled ports now s, answer_unprotected hprotected, hmem⟩)

/-- The second half draws the bar and runs the tick on it. -/
theorem mem_barTrace {count : Nat} {t : TraderStore} {event : PassEvent Other} :
    event ∈ (evaluateBar engine manager count now).trace (ports.answer accountId) t ↔
      event = ⟨.contextFor now, (ports.contextFor now t).1⟩ ∨ ∃ context, (ports.contextFor now t).1 = .ok (some context) ∧
        event ∈ (runTick engine manager context).trace (ports.answer accountId) (ports.contextFor now t).2 := by
  have hnone : ∀ {α : Type} {w : TraderStore} {a : α},
      event ∉ (pure a : PassAct Other α).trace (ports.answer accountId) w := List.not_mem_nil
  unfold evaluateBar
  constructor
  · intro hmem
    rcases Action.mem_trace_perform.mp hmem with hcall | ⟨context, t', hcontext, hmem⟩
    · exact .inl hcall
    · have ht : t' = (ports.contextFor now t).2 := (congrArg Prod.snd hcontext).symm
      subst ht
      cases context with
      | none => exact absurd hmem hnone
      | some context =>
        rcases Action.mem_trace_bind.mp hmem with hmem | ⟨_, _, -, hmem⟩
        · exact .inr ⟨context, congrArg Prod.fst hcontext, hmem⟩
        · exact absurd hmem hnone
  · rintro (hcall | ⟨context, hcontext, hmem⟩)
    · exact Action.mem_trace_perform.mpr (.inl hcall)
    · refine Action.mem_trace_perform.mpr (.inr ⟨some context, _, Prod.ext hcontext rfl, ?_⟩)
      exact Action.mem_trace_bind.mpr (.inl hmem)

/-- The calls of the manager are made in a pass that no guard stops. -/
theorem mem_managerTrace {event : PassEvent Other} (hevent : event.1.ofManager = true) :
    event ∈ passTrace engine manager ports accountId now s ↔
      ∃ context assembled, LetsThrough ports accountId now s context ∧ engine.assemble context.inputs = .ok assembled ∧
        event ∈ (manageHeld manager context assembled).trace (ports.answer accountId) (drawn ports now s) := by
  have hguards : event.1.guards = false := by
    obtain ⟨op, answer⟩ := event
    cases op with
    | acquire | settle | reconcile | unprotected => cases hevent
    | _ => rfl
  have hcall : ∀ {answer}, event ≠ ⟨.contextFor now, answer⟩ := by
    rintro answer rfl
    cases hevent
  rw [mem_passTrace hguards]
  constructor
  · rintro ⟨hbar, count, -, hmem⟩
    obtain ⟨context, hcontext, hmem⟩ := (mem_barTrace.mp hmem).resolve_left hcall
    obtain ⟨harmed, assembled, hassembled, hmem⟩ := (mem_tickTrace hevent).mp hmem
    exact ⟨context, assembled, ⟨hbar, hcontext, harmed⟩, hassembled, hmem⟩
  · rintro ⟨context, assembled, ⟨hbar, hcontext, harmed⟩, hassembled, hmem⟩
    obtain ⟨count, hsettles⟩ := hbar.settles
    exact ⟨hbar, count, hsettles, mem_barTrace.mpr (.inr ⟨context, hcontext,
      (mem_tickTrace hevent).mpr ⟨harmed, assembled, hassembled, hmem⟩⟩)⟩

/-- No tick draws a bar. -/
theorem runTick_within (context : TickContext Other) :
    (runTick engine manager context).Within fun op => op.drawsBar = false := by
  have hroute : ∀ positionId position actions,
      (V6PositionManager.route context.now positionId position actions : PassAct Other Unit).Within
        fun op => op.drawsBar = false := by
    intro positionId position actions
    induction actions with
    | nil => exact Action.within_pure _
    | cons action actions ih => exact .bind (Action.within_perform rfl) fun _ => ih
  have hmanage : ∀ assembled, (manageHeld manager context assembled).Within fun op => op.drawsBar = false := by
    intro assembled
    unfold manageHeld
    split
    · refine .bind (Action.within_perform rfl) fun held => ?_
      split
      · exact Action.within_pure _
      · refine .bind (Action.within_perform rfl) fun failed => .bind (Action.within_ofExcept _) fun actions => ?_
        exact .bind (hroute _ _ _) fun _ => Action.within_pure _
    · exact Action.within_pure _
  refine .bind (Action.within_perform rfl) fun armed => ?_
  split
  · exact Action.within_pure _
  · refine .bind (Action.within_ofExcept _) fun assembled => .bind (hmanage assembled) fun acted => ?_
    split
    · exact Action.within_pure _
    · exact (considerEntry_within context assembled).mono fun op hop => hop.2

/-- A pass evaluates the bar that its source draws. -/
theorem mem_contextTrace {context : TickContext Other} :
    ⟨.contextFor now, .ok (some context)⟩ ∈ passTrace engine manager ports accountId now s ↔
      ReachesBar ports accountId now s ∧ (ports.contextFor now (reconciled ports now s)).1 = .ok (some context) := by
  rw [mem_passTrace rfl]
  refine and_congr_right fun hbar => ?_
  constructor
  · rintro ⟨count, -, hmem⟩
    rcases mem_barTrace.mp hmem with hcall | ⟨other, -, hmem⟩
    · exact (eq_of_heq (Sigma.mk.inj hcall).2).symm
    · exact absurd (Action.trace_within (runTick_within other) _ hmem) nofun
  · intro hcontext
    obtain ⟨count, hsettles⟩ := hbar.settles
    exact ⟨count, hsettles, mem_barTrace.mpr (.inl (congrArg (Sigma.mk _) hcontext.symm))⟩

/-- Where no guard stops it, the calls of a pass are those of its manager. -/
theorem mem_manageTrace {m : V6PositionManager} {context : TickContext Other} {assembled : AssemblyResult}
    {market : PositionMarket} (hmanager : manager = some m) (hthrough : LetsThrough ports accountId now s context)
    (hassembled : engine.assemble context.inputs = .ok assembled)
    (hmarket : positionMarket context assembled = some market) {event : PassEvent Other}
    (hevent : event.1.ofManager = true) :
    event ∈ passTrace engine manager ports accountId now s ↔
      event ∈ (m.manage market context.now).trace (ports.answer accountId) (drawn ports now s) := by
  have hheld : (manageHeld manager context assembled : PassAct Other Bool) = m.manage market context.now := by
    unfold manageHeld
    rw [hmanager, hmarket]
  rw [mem_managerTrace hevent, ← hheld]
  constructor
  · rintro ⟨other, assembled', hother, hassembled', hmem⟩
    have hcontext : other = context :=
      Option.some.inj (Except.ok.inj (hother.newBar.symm.trans hthrough.newBar))
    subst hcontext
    rw [hassembled] at hassembled'
    cases hassembled'
    exact hmem
  · exact fun hmem => ⟨context, assembled, hthrough, hassembled, hmem⟩

variable {m : V6PositionManager} {market : PositionMarket} {t : TraderStore} {event : PassEvent Other}

/-- What the manager calls, it calls after what it has read. -/
theorem manage_reads (hmem : event ∈ (m.manage market now).trace (ports.answer accountId) t) :
    event = ⟨.openPosition m.accountId m.instrumentId,
        openPosition .decimal28 t.source t.store.tables m.accountId m.instrumentId⟩ ∨
      (∃ held, openPosition .decimal28 t.source t.store.tables m.accountId m.instrumentId = .ok (some held)) ∧
        (event = ⟨.protectionFailed m.accountId m.instrumentId, (ports.protectionFailed m.accountId m.instrumentId t).1⟩ ∨
          ∃ failed, (ports.protectionFailed m.accountId m.instrumentId t).1 = .ok failed) := by
  rcases Action.mem_trace_perform.mp hmem with hcall | ⟨held, t₁, hheld, hmem⟩
  · exact .inl hcall
  · obtain ⟨hread, rfl⟩ := Prod.mk.inj hheld
    cases held with
    | none => exact absurd hmem List.not_mem_nil
    | some held =>
      refine .inr ⟨⟨held, hread⟩, ?_⟩
      rcases Action.mem_trace_perform.mp hmem with hcall | ⟨failed, t₂, hfailed, -⟩
      · exact .inl hcall
      · exact .inr ⟨failed, congrArg Prod.fst hfailed⟩

end Calls

/-! ### Markets -/

section Markets

variable {engine : TickEngine Other} {context : TickContext Other} {assembled : AssemblyResult} {market : PositionMarket}

/-- A market has a price and a range. -/
theorem positionMarket_some (h : positionMarket context assembled = some market) :
    (∃ bars, context.inputs.bars .fiveMinutes = some bars ∧ bars ≠ []) ∧
      context.inputs.tickSize = some market.tickSize ∧ context.inputs.feeSchedule.isSome ∧
      context.inputs.stopSlippageQ95 = market.stopSlippageQ95 ∧ 0 < market.currentPrice ∧ 0 < market.atr5m := by
  unfold positionMarket at h
  split at h
  · rename_i bars tickSize feeSchedule hbars htick hfees
    obtain ⟨last, hlast, rfl⟩ := Option.map_eq_some_iff.mp h
    refine ⟨⟨bars, hbars, ?_⟩, htick, hfees ▸ rfl, rfl, ?_, context.riskContext.riskRequest.atr5m_pos⟩
    · rintro rfl
      cases hlast
    · exact lt_of_lt_of_le last.low_pos last.low_le_close
  · cases h

theorem Priced.has_market (h : Priced engine context) (assembled : AssemblyResult) :
    ∃ market, positionMarket context assembled = some market := by
  obtain ⟨bars, hbars, hne⟩ := h.bars
  obtain ⟨tick, htick, -⟩ := h.tick
  obtain ⟨fees, hfees⟩ := Option.isSome_iff_exists.mp h.fees
  unfold positionMarket
  rw [hbars, htick, hfees]
  show ∃ market, bars.getLast?.map _ = some market
  rw [List.getLast?_eq_some_getLast hne]
  exact ⟨_, rfl⟩

end Markets

/-- A pass manages what is held exactly when a manager is handed in and nothing stops it on the way. -/
theorem exposure_managed_iff (engine : TickEngine Other) (manager : Option V6PositionManager) (ports : LoopPorts Other)
    (accountId : UUID) (now : Instant) (s : TraderStore) :
    ManagesHeld engine manager ports accountId now s ↔ Unguarded engine manager ports accountId now s := by
  constructor
  · rintro ⟨m, seen, hmanager, hcontext, ⟨assembled, hassembled, hmarket⟩, hposition, hhealth, actions, hdecided, -⟩
    obtain ⟨context, _, hthrough, -, -⟩ := (mem_managerTrace rfl).mp hposition
    have hseen : context = seen.context :=
      Option.some.inj (Except.ok.inj (hthrough.newBar.symm.trans (mem_contextTrace.mp hcontext).2))
    subst hseen
    obtain ⟨hbars, htick, hfees, hslippage, hprice, hatr⟩ := positionMarket_some hmarket
    obtain ⟨-, hpositive, hnonneg⟩ := (decideActions_returns hprice hatr).mp ⟨actions, hdecided⟩
    have hmanage : ∀ {event}, event.1.ofManager = true → event ∈ passTrace engine manager ports accountId now s →
        event ∈ (m.manage seen.market seen.context.now).trace (ports.answer accountId) (drawn ports now s) :=
      fun hevent => (mem_manageTrace hmanager hthrough hassembled hmarket hevent).mp
    refine ⟨m, seen.context, hmanager, hthrough, ⟨⟨assembled, hassembled⟩, hbars, ⟨_, htick, hpositive⟩, hfees, ?_⟩, ?_, ?_⟩
    · rw [hslippage]
      exact hnonneg
    · rcases manage_reads (hmanage rfl hposition) with hcall | ⟨hread, -⟩
      · exact ⟨_, (eq_of_heq (Sigma.mk.inj hcall).2).symm⟩
      · exact hread
    · rcases manage_reads (hmanage rfl hhealth) with hcall | ⟨-, hcall | hread⟩
      · cases (Sigma.mk.inj hcall).1
      · exact ⟨_, (eq_of_heq (Sigma.mk.inj hcall).2).symm⟩
      · exact hread
  · rintro ⟨m, context, hmanager, hthrough, hpriced, ⟨⟨positionId, position⟩, hread⟩, failed, hfailed⟩
    obtain ⟨assembled, hassembled⟩ := hpriced.assembles
    obtain ⟨market, hmarket⟩ := hpriced.has_market assembled
    obtain ⟨-, htick, -, hslippage, hprice, hatr⟩ := positionMarket_some hmarket
    obtain ⟨tick, htick', hpositive⟩ := hpriced.tick
    rw [htick] at htick'
    cases htick'
    obtain ⟨actions, hdecided⟩ : ∃ actions, decideActions market m.mode position failed = .ok actions :=
      (decideActions_returns hprice hatr).mpr ⟨openPosition_valid hread, hpositive, hslippage ▸ hpriced.slippage⟩
    have hmanage : ∀ {event}, event.1.ofManager = true →
        event ∈ (m.manage market context.now).trace (ports.answer accountId) (drawn ports now s) →
        event ∈ passTrace engine manager ports accountId now s :=
      fun hevent => (mem_manageTrace hmanager hthrough hassembled hmarket hevent).mpr
    refine ⟨m, ⟨context, market, positionId, position, failed⟩, hmanager, mem_contextTrace.mpr ⟨hthrough.toReachesBar,
      hthrough.newBar⟩, ⟨assembled, hassembled, hmarket⟩, hmanage rfl ?_, hmanage rfl ?_, actions, hdecided, ?_⟩
    · exact Action.mem_trace_perform.mpr (.inl (congrArg (Sigma.mk _) hread.symm))
    · refine Action.mem_trace_perform.mpr (.inr ⟨some (positionId, position), _, Prod.ext hread rfl, ?_⟩)
      exact Action.mem_trace_perform.mpr (.inl (congrArg (Sigma.mk _) hfailed.symm))
    · intro action haction hurgent
      rw [urgent_alone hdecided haction hurgent] at hdecided
      let answered := ports.answer accountId (ports.protectionFailed m.accountId m.instrumentId (drawn ports now s)).2
        (.apply action position positionId context.now)
      refine ⟨answered.1, hmanage rfl (Action.mem_trace_perform.mpr (.inr ⟨some (positionId, position), _,
        Prod.ext hread rfl, ?_⟩))⟩
      refine Action.mem_trace_perform.mpr (.inr ⟨failed, _, Prod.ext hfailed rfl, ?_⟩)
      refine Action.mem_trace_ofExcept.mpr ⟨[action], hdecided, Action.mem_trace_bind.mpr (.inl ?_)⟩
      exact Action.mem_trace_perform.mpr (.inl rfl)

/-- The loops as they are built manage nothing. -/
theorem built_loop_manages_nothing (engine : TickEngine Other) (ports : LoopPorts Other) (accountId : UUID) (now : Instant)
    (s : TraderStore) : ¬ManagesHeld engine builtManager ports accountId now s := by
  rintro ⟨m, -, hmanager, -⟩
  cases hmanager

/-- One unprotected position blocks new exposure, and with it the manager of every later pass until the
level is lowered. -/
theorem guardUnprotected_disarms {accountId : UUID} {now : Instant} {s : TraderStore}
    (h : missingProtection accountId s ≠ []) : isArmed (guardUnprotected accountId now s).2.controls = false := by
  have hblocked : ∀ control ∈ blockNewExposure s.controls, control.killSwitchLevel ≠ .none := by
    intro control hcontrol hnone
    obtain ⟨old, -, rfl⟩ := List.mem_map.mp hcontrol
    split at hnone
    · cases hnone
    · rename_i hraised
      exact hraised hnone
  have hcontrols : (guardUnprotected accountId now s).2.controls = blockNewExposure s.controls := by
    unfold guardUnprotected
    cases hmissing : missingProtection accountId s with
    | nil => exact absurd hmissing h
    | cons => rfl
  rw [hcontrols]
  cases hlist : blockNewExposure s.controls with
  | nil => rfl
  | cons control controls =>
    rw [hlist] at hblocked
    simp [isArmed, hblocked control List.mem_cons_self]

/-! ### A position whose stop is missing -/

theorem sampleBar_price : (0 : ℚ) < (Decimal.ofNat 1).toRat := by norm_num [Decimal.ofNat, Decimal.toRat]

theorem sampleBar_volume : (0 : ℚ) ≤ (Decimal.ofNat 0).toRat := by norm_num [Decimal.ofNat, Decimal.toRat]

theorem sampleBar_flat : (Decimal.ofNat 1).toRat ≤ (Decimal.ofNat 1).toRat := le_rfl

/-- A bar at price one. -/
def sampleBar : CompletedOhlcvBar where
  timestamp := 0
  open_ := .ofNat 1
  high := .ofNat 1
  low := .ofNat 1
  close := .ofNat 1
  volume := .ofNat 0
  low_pos := sampleBar_price
  low_le_open := sampleBar_flat
  open_le_high := sampleBar_flat
  low_le_close := sampleBar_flat
  close_le_high := sampleBar_flat
  volume_nonneg := sampleBar_volume

theorem noFees : ∀ fee : ℚ, (none : Option ℚ) = some fee → 0 ≤ fee := nofun

def sampleInputs : AssemblyInputs Unit where
  bars _ := some [sampleBar]
  tickSize := some 1
  feeSchedule := some ⟨none, none, noFees, noFees⟩
  stopSlippageQ95 := none
  other := ()

def sampleTick : TickContext Unit := ⟨sampleInputs, sampleManifest, sampleContext, 0⟩

def sampleEngine : TickEngine Unit where
  assemble _ := .ok ⟨regimeOnly 0, none⟩
  evaluate _ _ _ := .error ⟨.runtimeError, "nothing is evaluated"⟩

/-- Every port lets the pass through, and a new bar closed. -/
def samplePorts : LoopPorts Unit where
  acquire _ s := (.ok true, s)
  settle _ s := (.ok 0, s)
  reconcile _ s := (.ok 0, s)
  contextFor _ s := (.ok (some sampleTick), s)
  protectionFailed _ _ s := (.ok false, s)
  apply _ _ _ _ s := (.ok (), s)
  record _ s := (.ok (), s)
  submit _ _ _ s := (.ok none, s)

/-- Three were bought on a decision with a stop, and the stop was not placed. -/
def unprotectedHolding : TraderStore where
  store := ⟨runFrom (step .decimal28 noHashes) (sampleTables [sampleOrder .buy 10] [sampleLink (rowUuid 3) "ACKNOWLEDGED"])
    [.fill (Ledger.sampleFill (rowUuid 3) "1" .buy 3 rat_three_pos)], []⟩
  source :=
    { intent := fun intentId => if intentId = rowUuid 6 then some (.entry, some (rowUuid 20)) else none
      structuralStop := fun _ => some (1 / 2)
      marks := fun _ => [] }
  controls := [⟨true, .none, none, none, none, 0, 0⟩]
  incidents := []

theorem unprotectedHolding_read :
    ∃ held, openPosition .decimal28 unprotectedHolding.source unprotectedHolding.store.tables (rowUuid 2) (rowUuid 4) =
      .ok (some held) := by
  have hread : ((openPosition .decimal28 unprotectedHolding.source unprotectedHolding.store.tables (rowUuid 2)
      (rowUuid 4)).toOption.bind id).isSome = true := by decide +kernel
  revert hread
  rcases openPosition .decimal28 unprotectedHolding.source unprotectedHolding.store.tables (rowUuid 2) (rowUuid 4) with
    e | _ | held
  · exact nofun
  · exact nofun
  · exact fun _ => ⟨held, rfl⟩

/-- The account holds a position that the manager can read, and the guard stops the pass. -/
theorem exposure_managed_fails :
    ¬∀ (engine : TickEngine Unit) (m : V6PositionManager) (ports : LoopPorts Unit) (accountId : UUID) (now : Instant)
        (s : TraderStore),
      (∃ held, openPosition .decimal28 s.source s.store.tables m.accountId m.instrumentId = .ok (some held)) →
      ManagesHeld engine (some m) ports accountId now s := by
  intro h
  have hmissing : missingProtection (rowUuid 2) unprotectedHolding ≠ [] := by decide +kernel
  obtain ⟨m, seen, -, -, -, hposition, -⟩ := h sampleEngine ⟨rowUuid 2, rowUuid 4, .paper⟩ samplePorts (rowUuid 2) 0
    unprotectedHolding unprotectedHolding_read
  obtain ⟨_, _, hthrough, -⟩ := (mem_managerTrace rfl).mp hposition
  exact hmissing hthrough.protected_

end AutoTrader.Trader
