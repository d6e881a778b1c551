import AutoTrader.Ledger.Amounts

/-! Position lifecycles. A lifecycle opens when a position leaves zero, closes when it comes
back to zero or crosses it, and a crossing opens the next one at once. -/

namespace AutoTrader.Ledger

open AutoTrader.Domain

/-- An id of `new_uuid7`, by its place in the order in which ids are drawn. -/
abbrev RowId := Nat

inductive PositionLifecycleKind
  | authorized
  | unauthorizedObserved
  deriving DecidableEq

structure PositionLifecycle where
  positionId : RowId
  lifecycleOrdinal : Nat
  openingFillId : RowId
  openedAt : Instant
  kind : PositionLifecycleKind
  closingFillId : Option RowId
  closedAt : Option Instant
  deriving DecidableEq

structure PositionLifecycleTransition where
  previousQuantity : ℚ
  nextQuantity : ℚ
  opened : Option PositionLifecycle
  closed : Option PositionLifecycle

/-- The error for a position that is open and has no lifecycle. -/
def missingLifecycle : PyError :=
  ⟨.valueError, "an open position requires its active lifecycle"⟩

variable (arith : Arithmetic)

def signedFill (side : Side) (quantity : ℚ) : ℚ :=
  match side with
  | .buy => quantity
  | .sell => arith.fix (-quantity)

/-- The quantity after a fill. -/
def nextQuantity (previous : ℚ) (side : Side) (quantity : ℚ) : ℚ :=
  arith.fix (previous + signedFill arith side quantity)

/-- The position is left, or crosses zero. -/
def ends (previous next : ℚ) : Prop :=
  previous ≠ 0 ∧ (next = 0 ∨ arith.fix (previous * next) < 0)

instance (previous next : ℚ) : Decidable (ends arith previous next) :=
  inferInstanceAs (Decidable (_ ∧ _))

def applyLifecycleTransition (positionId : RowId) (previousQuantity : ℚ) (side : Side)
    (fillQuantity : ℚ) (fillId : RowId) (executedAt : Instant) (nextOrdinal : Nat)
    (activeLifecycle : Option PositionLifecycle) : Except PyError PositionLifecycleTransition :=
  let next := nextQuantity arith previousQuantity side fillQuantity
  let fresh := fun kind => PositionLifecycle.mk positionId nextOrdinal fillId executedAt kind none none
  if previousQuantity = 0 ∧ next ≠ 0 then
    .ok ⟨previousQuantity, next, some (fresh .authorized), none⟩
  else if ends arith previousQuantity next then
    match activeLifecycle with
    | none => .error missingLifecycle
    | some active =>
      .ok
        { previousQuantity := previousQuantity
          nextQuantity := next
          opened := if next ≠ 0 then some (fresh .unauthorizedObserved) else none
          closed := some { active with closingFillId := some fillId, closedAt := some executedAt } }
  else .ok ⟨previousQuantity, next, none, none⟩

variable {arith}

/-- What a transition opens: the next ordinal, not closed yet. -/
theorem transition_opened {positionId fillId : RowId} {previous quantity : ℚ} {side : Side}
    {executedAt : Instant} {nextOrdinal : Nat} {active : Option PositionLifecycle}
    {transition : PositionLifecycleTransition} {opened : PositionLifecycle}
    (h : applyLifecycleTransition arith positionId previous side quantity fillId executedAt nextOrdinal
      active = .ok transition) (hopened : transition.opened = some opened) :
    opened.positionId = positionId ∧ opened.lifecycleOrdinal = nextOrdinal ∧ opened.closedAt = none := by
  unfold applyLifecycleTransition at h
  dsimp only at h
  split at h
  · rw [← Except.ok.inj h] at hopened
    rw [← Option.some.inj hopened]
    exact ⟨rfl, rfl, rfl⟩
  split at h
  · cases active with
    | none => cases h
    | some active =>
      rw [← Except.ok.inj h] at hopened
      dsimp only at hopened
      split at hopened
      · rw [← Option.some.inj hopened]
        exact ⟨rfl, rfl, rfl⟩
      · cases hopened
  · rw [← Except.ok.inj h] at hopened
    cases hopened

/-- The numbers a transition reports, and when it opens and closes. -/
theorem transition_shape {positionId fillId : RowId} {previous quantity : ℚ} {side : Side}
    {executedAt : Instant} {nextOrdinal : Nat} {active : Option PositionLifecycle}
    {transition : PositionLifecycleTransition}
    (h : applyLifecycleTransition arith positionId previous side quantity fillId executedAt nextOrdinal
      active = .ok transition) :
    transition.previousQuantity = previous ∧
      (transition.closed.isSome ↔ ends arith previous (nextQuantity arith previous side quantity)) ∧
      (transition.opened.isSome ↔ nextQuantity arith previous side quantity ≠ 0 ∧
        (previous = 0 ∨ ends arith previous (nextQuantity arith previous side quantity))) ∧
      (transition.closed.isSome → active.isSome) := by
  unfold applyLifecycleTransition at h
  dsimp only at h
  split at h
  · rename_i hopen
    have hends : ¬ends arith previous (nextQuantity arith previous side quantity) := fun hc => hc.1 hopen.1
    rw [← Except.ok.inj h]
    exact ⟨rfl, iff_of_false (by simp) hends, iff_of_true rfl ⟨hopen.2, .inl hopen.1⟩, fun hc => by cases hc⟩
  rename_i hnot
  split at h
  · rename_i hends
    cases active with
    | none => cases h
    | some active =>
      have hopened : (if nextQuantity arith previous side quantity ≠ 0 then
          some (PositionLifecycle.mk positionId nextOrdinal fillId executedAt .unauthorizedObserved none none)
        else none).isSome ↔ nextQuantity arith previous side quantity ≠ 0 := by
        split <;> simp_all
      rw [← Except.ok.inj h]
      exact ⟨rfl, by simp [hends], by simp only [hopened, hends, or_true, and_true], fun _ => rfl⟩
  · rename_i hends
    rw [← Except.ok.inj h]
    have hnone : ¬(nextQuantity arith previous side quantity ≠ 0 ∧ previous = 0) := fun hc => hnot hc.symm
    simp only [Option.isSome_none, Bool.false_eq_true, hends, or_false, hnone, false_implies, and_self]

/-- Only an open position without a lifecycle is refused. -/
theorem transition_error {positionId fillId : RowId} {previous quantity : ℚ} {side : Side}
    {executedAt : Instant} {nextOrdinal : Nat} {active : Option PositionLifecycle} {e : PyError}
    (h : applyLifecycleTransition arith positionId previous side quantity fillId executedAt nextOrdinal
      active = .error e) : previous ≠ 0 ∧ active = none := by
  unfold applyLifecycleTransition at h
  dsimp only at h
  split at h
  · cases h
  split at h
  · rename_i hends
    cases active with
    | none => exact ⟨hends.1, rfl⟩
    | some active => cases h
  · cases h

end AutoTrader.Ledger
