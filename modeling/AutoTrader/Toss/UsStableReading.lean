import AutoTrader.Dispatch.System
import AutoTrader.Runtime.Served
import AutoTrader.Toss.UsStability

/-! A complete Toss US reconciliation is a stable reading when the facts its projection leaves out are stable. A call that
is interrupted between its captures, and another that goes on from its checkpoint, show that nothing less is enough. -/

namespace AutoTrader.Toss

open AutoTrader.Dispatch AutoTrader.Domain AutoTrader.Execution AutoTrader.Runtime

/-! ### An interrupted reconciliation -/

section Interrupted

variable (sha256 : String → Digest) (factDigest : TossUsReading → Digest) (scope : TossUsScope) (runId : UUID)
  (first second : TossUsReading)

/-- The row of a run that started at the as-of instant. -/
def runRow (updatedAt : Instant) (status : TossUsRunStatus) : TossUsReconciliationRunRow :=
  ⟨runId, scope, scope.providerAsOf, updatedAt, status⟩

def checkpointAt (phase : TossUsPhase) : TossUsReconciliationCheckpoint :=
  ⟨runId, scope, scope.providerAsOf, scope.providerAsOf, phase⟩

/-- The facts that are appended when the run completes a microsecond later. -/
def secondBundle : TossUsBundle where
  completedAt := scope.providerAsOf + 1
  holdingsPageCount := second.snapshot.holdingsPageCount
  openOrderPageCount := second.openOrderPageCount
  closedOrderPageCount := second.closedOrderPageCount
  factDigest := factDigest second
  snapshot := second.snapshot
  orders := second.orders

/-- The tables after the first capture was saved, and before it. -/
def interruptedTables : List (List TossUsReconciliationRunRow) :=
  [[runRow scope runId scope.providerAsOf (.inProgress (.secondCapture (projectionDigest sha256 first)))],
    [runRow scope runId scope.providerAsOf (.inProgress .firstCapture)], []]

def resumedTables : List (List TossUsReconciliationRunRow) :=
  [runRow scope runId (scope.providerAsOf + 1) (.complete (secondBundle factDigest scope second))] ::
    interruptedTables sha256 scope runId first

/-- The answers to a call until its first capture is saved. -/
def firstAnswers : List TossUsChoice :=
  [.on 0, .id runId, .time scope.providerAsOf, .on 0, .read first, .time scope.providerAsOf, .on 0]

/-- The answers to a call that goes on from there. -/
def resumedAnswers : List TossUsChoice := [.on 0, .read second, .time (scope.providerAsOf + 1), .on 0]

/-- A call is interrupted after its first capture was saved, and another goes on from there. -/
def interrupted : List (Pool.Event TossUsScope TossUsChoice) :=
  (.call scope :: (firstAnswers scope runId first).map (.answer 0)) ++
    .crash :: .call scope :: (resumedAnswers scope second).map (.answer 1)

variable {w : TossUsWorld}

theorem captureTime_returns {providerAsOf instant : Instant} (hle : providerAsOf ≤ instant)
    (hbounded : instant ≤ providerAsOf + maxCapture) :
    (captureTime providerAsOf).Returns tossUsAnswer w [TossUsChoice.time instant] w instant := by
  refine Action.Returns.perform_bind rfl ?_
  rw [if_pos ⟨hle, hbounded⟩]
  exact Action.returns_pure w instant

theorem captureOnce_returns (reading : TossUsReading) :
    (captureOnce scope).Returns tossUsAnswer w [TossUsChoice.read reading]
      { w with captures := w.captures ++ [⟨scope, reading⟩] } (some reading) := by
  refine Action.Returns.tryCatch ?_ _
  exact Action.Returns.perform_bind rfl (Action.returns_pure _ _)

/-- The clock is read at the as-of instant until the run completes. -/
theorem captureTime_asOf : (captureTime scope.providerAsOf).Returns tossUsAnswer w
    [TossUsChoice.time scope.providerAsOf] w scope.providerAsOf :=
  captureTime_returns (Int.le_refl _) (Int.le_add_of_nonneg_right (by decide))

theorem checkpointAt_valid (phase : TossUsPhase) : (checkpointAt scope runId phase).validate = .ok () :=
  if_neg (not_or.mpr ⟨Int.lt_irrefl _, Int.lt_irrefl _⟩)

theorem checkpointAt_of (phase : TossUsPhase) :
    ¬((checkpointAt scope runId phase).scope.bindingId ≠ scope.bindingId ∨
      (checkpointAt scope runId phase).scope.accountId ≠ scope.accountId) :=
  not_or.mpr ⟨not_ne_iff.mpr rfl, not_ne_iff.mpr rfl⟩

theorem loadCheckpoint_again (phase : TossUsPhase) :
    loadCheckpoint [runRow scope runId scope.providerAsOf (.inProgress phase)] scope.bindingId scope.providerAsOf =
      some (checkpointAt scope runId phase) := by
  simp [loadCheckpoint, runRow, checkpointAt, TossUsReconciliationRunRow.isOf, TossUsRunStatus.isInProgress]

/-- The only row is the one of the checkpoint. -/
theorem persistCheckpoint_again (phase next : TossUsPhase) :
    persistCheckpoint [runRow scope runId scope.providerAsOf (.inProgress phase)] (checkpointAt scope runId next) =
      .ok [runRow scope runId scope.providerAsOf (.inProgress next)] := by
  simp [persistCheckpoint, checkpointAt, runRow, replaceRun, TossUsReconciliationRunRow.isOf,
    TossUsRunStatus.isInProgress]

theorem persistComplete_again (phase : TossUsPhase) :
    persistComplete [runRow scope runId scope.providerAsOf (.inProgress phase)]
        (completeResult factDigest scope (checkpointAt scope runId phase) (scope.providerAsOf + 1) second) =
      .ok [runRow scope runId (scope.providerAsOf + 1) (.complete (secondBundle factDigest scope second))] := by
  have hholdings := Nat.one_le_iff_ne_zero.mp second.holdingsPage
  have hopen := Nat.one_le_iff_ne_zero.mp second.openOrderPage
  have hclosed := Nat.one_le_iff_ne_zero.mp second.closedOrderPage
  simp [persistComplete, completeResult, persistCompletedRun, hholdings, hopen, hclosed, runRow, checkpointAt,
    replaceRun, TossUsRunStatus.isInProgress, secondBundle]

variable {captures : List TossUsCaptured} {older : List (List TossUsReconciliationRunRow)}

theorem load_answered {rows : List TossUsReconciliationRunRow} {bindingId : UUID} {providerAsOf : Instant}
    {checkpoint : Option TossUsReconciliationCheckpoint} (h : loadCheckpoint rows bindingId providerAsOf = checkpoint) :
    tossUsAnswer ⟨captures, rows :: older⟩ (.loadCheckpoint bindingId providerAsOf) (.on 0) =
      some (⟨captures, rows :: older⟩, .ok checkpoint) := h ▸ rfl

theorem save_answered {rows written : List TossUsReconciliationRunRow} {checkpoint : TossUsReconciliationCheckpoint}
    (h : persistCheckpoint rows checkpoint = .ok written) :
    tossUsAnswer ⟨captures, rows :: older⟩ (.saveCheckpoint checkpoint) (.on 0) =
      some (⟨captures, written :: rows :: older⟩, .ok ()) := by
  simp only [tossUsAnswer, TossUsWorld.write, List.getElem?_cons_zero, h]

theorem complete_answered {rows written : List TossUsReconciliationRunRow} {result : TossUsReconciliationResult}
    (h : persistComplete rows result = .ok written) :
    tossUsAnswer ⟨captures, rows :: older⟩ (.persistComplete result) (.on 0) =
      some (⟨captures, written :: rows :: older⟩, .ok ()) := by
  simp only [tossUsAnswer, TossUsWorld.write, List.getElem?_cons_zero, h]

theorem startCheckpoint_new :
    (startCheckpoint scope).Returns tossUsAnswer ⟨[], [[]]⟩
      [TossUsChoice.on 0, .id runId, .time scope.providerAsOf, .on 0]
      ⟨[], [[runRow scope runId scope.providerAsOf (.inProgress .firstCapture)], []]⟩
      (checkpointAt scope runId .firstCapture) := by
  refine Action.Returns.perform_bind rfl ?_
  refine Action.Returns.perform_bind rfl ?_
  refine Action.Returns.bind (captureTime_asOf scope) ?_
  refine Action.Returns.bind (Action.returns_ofExcept (checkpointAt_valid scope runId .firstCapture) _) ?_
  exact Action.Returns.perform_bind rfl (Action.returns_pure _ _)

theorem startCheckpoint_stored (phase : TossUsPhase) :
    (startCheckpoint scope).Returns tossUsAnswer
      ⟨captures, [runRow scope runId scope.providerAsOf (.inProgress phase)] :: older⟩ [TossUsChoice.on 0]
      ⟨captures, [runRow scope runId scope.providerAsOf (.inProgress phase)] :: older⟩
      (checkpointAt scope runId phase) :=
  Action.Returns.perform_bind (load_answered (loadCheckpoint_again scope runId phase)) (Action.returns_pure _ _)

theorem firstCapture_reaches :
    (firstCapture sha256 factDigest scope (checkpointAt scope runId .firstCapture)).Reaches tossUsAnswer
      ⟨[], [[runRow scope runId scope.providerAsOf (.inProgress .firstCapture)], []]⟩
      [TossUsChoice.read first, .time scope.providerAsOf, .on 0]
      ⟨[⟨scope, first⟩], interruptedTables sha256 scope runId first⟩ := by
  refine Action.Returns.bind_reaches (captureOnce_returns scope first) ?_
  refine Action.Returns.bind_reaches (captureTime_asOf scope) ?_
  refine Action.Returns.bind_reaches (Action.returns_ofExcept (checkpointAt_valid scope runId _) _) ?_
  have hsaved := persistCheckpoint_again scope runId .firstCapture (.secondCapture (projectionDigest sha256 first))
  exact Action.Reaches.bind (Action.Returns.reaches (Action.returns_perform (save_answered hsaved))) _

/-- The first call, until it is interrupted. -/
theorem interruptedCall_reaches :
    (reconcileTossUsCash sha256 factDigest scope).Reaches tossUsAnswer ⟨[], [[]]⟩ (firstAnswers scope runId first)
      ⟨[⟨scope, first⟩], interruptedTables sha256 scope runId first⟩ := by
  refine Action.Reaches.tryCatch (Action.Returns.bind_reaches (startCheckpoint_new scope runId) ?_) _
  rw [if_neg (checkpointAt_of scope runId _)]
  exact firstCapture_reaches sha256 factDigest scope runId first

theorem secondCapture_returns {digest : Digest} (hdigest : digest = projectionDigest sha256 second) :
    (secondCapture sha256 factDigest scope (checkpointAt scope runId (.secondCapture digest)) digest).Returns
      tossUsAnswer
      ⟨captures, [runRow scope runId scope.providerAsOf (.inProgress (.secondCapture digest))] :: older⟩
      [TossUsChoice.read second, .time (scope.providerAsOf + 1), .on 0]
      ⟨captures ++ [⟨scope, second⟩],
        [runRow scope runId (scope.providerAsOf + 1) (.complete (secondBundle factDigest scope second))] ::
          [runRow scope runId scope.providerAsOf (.inProgress (.secondCapture digest))] :: older⟩
      (completeResult factDigest scope (checkpointAt scope runId (.secondCapture digest)) (scope.providerAsOf + 1)
        second) := by
  refine Action.Returns.bind (captureOnce_returns scope second) ?_
  dsimp only
  rw [if_neg (not_ne_iff.mpr hdigest)]
  refine Action.Returns.bind (captureTime_returns (Int.le_add_of_nonneg_right (by decide)) ?_) ?_
  · exact Int.add_le_add_left (by decide) _
  exact Action.Returns.perform_bind (complete_answered (persistComplete_again factDigest scope runId second _))
    (Action.returns_pure _ _)

/-- The call that goes on from the stored checkpoint. -/
theorem resumedCall_returns (hdigest : projectionDigest sha256 first = projectionDigest sha256 second) :
    (reconcileTossUsCash sha256 factDigest scope).Returns tossUsAnswer
      ⟨[⟨scope, first⟩], interruptedTables sha256 scope runId first⟩ (resumedAnswers scope second)
      ⟨[⟨scope, first⟩, ⟨scope, second⟩], resumedTables sha256 factDigest scope runId first second⟩
      (completeResult factDigest scope
        (checkpointAt scope runId (.secondCapture (projectionDigest sha256 first))) (scope.providerAsOf + 1) second) := by
  refine Action.Returns.tryCatch (Action.Returns.bind (startCheckpoint_stored scope runId _) ?_) _
  rw [if_neg (checkpointAt_of scope runId _)]
  exact secondCapture_returns sha256 factDigest scope runId second hdigest

/-- Captures with one digest complete the run, in whichever of the calls they were made. -/
theorem interrupted_run (hdigest : projectionDigest sha256 first = projectionDigest sha256 second) :
    (runFrom (tossUsPool sha256 factDigest).step tossUsStart (interrupted scope runId first second)).world =
      ⟨[⟨scope, first⟩, ⟨scope, second⟩], resumedTables sha256 factDigest scope runId first second⟩ := by
  obtain ⟨rest, hrest⟩ := interruptedCall_reaches sha256 factDigest scope runId first
  have hresumed := resumedCall_returns sha256 factDigest scope runId first second hdigest
  have hfirst : runFrom (tossUsPool sha256 factDigest).step tossUsStart
      (.call scope :: (firstAnswers scope runId first).map (.answer 0)) =
        ⟨⟨[⟨scope, first⟩], interruptedTables sha256 scope runId first⟩, [rest >>= fun _ => .done ()]⟩ :=
    Pool.run_call (M := tossUsPool sha256 factDigest) (c := tossUsStart) (hrest.bind _)
  have hsecond : runFrom (tossUsPool sha256 factDigest).step
      ⟨⟨[⟨scope, first⟩], interruptedTables sha256 scope runId first⟩, [.done ()]⟩
      (.call scope :: (resumedAnswers scope second).map (.answer 1)) =
        ⟨⟨[⟨scope, first⟩, ⟨scope, second⟩], resumedTables sha256 factDigest scope runId first second⟩,
          [.done (), .done ()]⟩ :=
    Pool.run_call (M := tossUsPool sha256 factDigest) (Program.Served.bind hresumed _)
  rw [interrupted, runFrom_append, hfirst, runFrom_cons]
  exact congrArg Pool.Config.world hsecond

end Interrupted

/-! ### Stable readings -/

variable {sha256 : String → Digest} {factDigest : TossUsReading → Digest} {scope : TossUsScope}

/-- Every complete run of every table has the snapshot and the orders of the later of two captures of the same facts. -/
def StablyRead (w : TossUsWorld) : Prop :=
  ∀ rows ∈ w.tables, ∀ row ∈ rows, ∀ bundle, row.status = .complete bundle →
    ReadTwice SameFacts w.captures row.scope bundle.snapshot bundle.orders

/-- Captures for one scope that agree in the texts of what is projected agree in the facts that are not. -/
def Steady (Reads : TossUsCaptured → Prop) : Prop :=
  ∀ a b, Reads a → Reads b → a.scope = b.scope → SameProjected SameText a.reading b.reading →
    List.Forall₂ SameOmitted a.reading.orders b.reading.orders

theorem stablyRead_of_known {Reads : TossUsCaptured → Prop} {w : TossUsWorld} (hknown : WorldKnown sha256 w)
    (hcollision : ∀ a b, Reads a → Reads b → SameDigest sha256 a.reading b.reading →
      (projection a.reading).dumps = (projection b.reading).dumps)
    (hsteady : Steady Reads) (hreads : ∀ captured ∈ w.captures, Reads captured) : StablyRead w := by
  intro rows hrows row hrow bundle hstatus
  have hread := hknown rows hrows row hrow
  rw [RowKnown, hstatus] at hread
  obtain ⟨i, j, first, second, hlt, hi, hj, hfirst, hsecond, hsnapshot, horders, hdigest⟩ := hread
  have hreadsFirst := hreads first (List.mem_of_getElem? hi)
  have hreadsSecond := hreads second (List.mem_of_getElem? hj)
  have hprojected := projection_eq_iff.mp (hcollision first second hreadsFirst hreadsSecond hdigest)
  exact ⟨i, j, first, second, hlt, hi, hj, hfirst, hsecond, hsnapshot, horders,
    { hprojected.mono fun _ _ => SameText.number with
      omitted := hsteady first second hreadsFirst hreadsSecond (hfirst.trans hsecond.symm) hprojected }⟩

/-- The only captures a resumed run was read from are its two. -/
theorem sameFacts_of_resumed {runId : UUID} {first second : TossUsReading}
    (h : StablyRead ⟨[⟨scope, first⟩, ⟨scope, second⟩], resumedTables sha256 factDigest scope runId first second⟩) :
    SameFacts first second := by
  obtain ⟨i, j, a, b, hlt, hi, hj, -, -, -, -, hsame⟩ :=
    h _ List.mem_cons_self _ List.mem_cons_self (secondBundle factDigest scope second) rfl
  match i, j with
  | 0, 1 =>
    cases hi
    cases hj
    exact hsame
  | _, 0 => exact absurd hlt (Nat.not_lt_zero _)
  | _, j + 2 => cases hj
  | i + 1, 1 => exact absurd hlt (by omega)

/-- Every complete run is a stable reading, whatever is interrupted and resumed, if and only if the captures that agree in
their projection agree in the facts it leaves out. -/
theorem stably_read_iff (sha256 : String → Digest) (factDigest : TossUsReading → Digest) (Reads : TossUsCaptured → Prop)
    (hcollision : ∀ a b, Reads a → Reads b → SameDigest sha256 a.reading b.reading →
      (projection a.reading).dumps = (projection b.reading).dumps) :
    (∀ events, (∀ captured ∈ (runFrom (tossUsPool sha256 factDigest).step tossUsStart events).world.captures,
      Reads captured) → StablyRead (runFrom (tossUsPool sha256 factDigest).step tossUsStart events).world) ↔
    Steady Reads := by
  constructor
  · intro hstable a b ha hb hscope hprojected
    obtain ⟨scope, first⟩ := a
    obtain ⟨scope', second⟩ := b
    obtain rfl : scope = scope' := hscope
    have hrun := interrupted_run sha256 factDigest scope ⟨0, by decide⟩ first second
      (congrArg sha256 (projection_eq_iff.mpr hprojected))
    have hread := hstable (interrupted scope ⟨0, by decide⟩ first second)
    rw [hrun] at hread
    exact (sameFacts_of_resumed (hread (by
      rintro captured (_ | ⟨_, _ | ⟨_, h⟩⟩)
      · exact ha
      · exact hb
      · cases h))).omitted
  · intro hsteady events hreads
    exact stablyRead_of_known (run_known sha256 factDigest events) hcollision hsteady hreads

/-! ### Samples -/

def usScope : TossUsScope := ⟨sampleId 1, sampleId 2, 0⟩

/-- An order for one share, not filled. -/
def pricedOrder (limitPrice : Decimal) : TossUsOrderFact where
  providerOrderId := "order"
  symbol := "AAPL"
  side := .buy
  quantity := ⟨false, 1, 0⟩
  cumulativeFillQuantity := ⟨false, 0, 0⟩
  state := .pending
  limitPrice := some limitPrice
  commission := none
  tax := none
  orderedAt := -1
  filledAt := none
  canceledAt := none
  providerAsOf := 0
  capturedAt := 0
  sourceDigest := 0

def usReading (limitPrice : Decimal) : TossUsReading where
  snapshot := ⟨0, ⟨"AVAILABLE", ⟨false, 500, 0⟩, none, "cashBuyingPower", 0, 0, 0⟩, [], 1, 0, 0⟩
  orders := [pricedOrder limitPrice]
  commissionRate := ⟨false, 1, -3⟩
  commissionDigest := 0
  openOrderPageCount := 1
  closedOrderPageCount := 1
  holdingsPage := Nat.le_refl 1
  openOrderPage := Nat.le_refl 1
  closedOrderPage := Nat.le_refl 1

/-- An interrupted run of one reading, and the completed row. -/
theorem stably_read_iff_steady :
    let Reads (captured : TossUsCaptured) : Prop := captured = ⟨usScope, usReading ⟨false, 100, 0⟩⟩
    let w := (runFrom (tossUsPool (fun text => BitVec.ofNat 256 text.length) fun _ => 0).step tossUsStart
      (interrupted usScope (sampleId 3) (usReading ⟨false, 100, 0⟩) (usReading ⟨false, 100, 0⟩))).world
    Steady Reads ∧ (∃ rows ∈ w.tables, ∃ row ∈ rows, ∃ bundle, row.status = .complete bundle) ∧ StablyRead w := by
  intro Reads w
  have hw : w = ⟨[⟨usScope, usReading ⟨false, 100, 0⟩⟩, ⟨usScope, usReading ⟨false, 100, 0⟩⟩], _⟩ :=
    interrupted_run _ _ usScope (sampleId 3) (usReading ⟨false, 100, 0⟩) (usReading ⟨false, 100, 0⟩) rfl
  have hsteady : Steady Reads := by
    rintro a b rfl rfl _ _
    exact .cons ⟨rfl, rfl, .some rfl, rfl, rfl, rfl⟩ .nil
  refine ⟨hsteady, ?_, (stably_read_iff _ _ Reads ?_).mpr hsteady _ ?_⟩
  · rw [hw]
    exact ⟨_, List.mem_cons_self, _, List.mem_cons_self, _, rfl⟩
  · rintro a b rfl rfl _
    rfl
  · show ∀ captured ∈ w.captures, Reads captured
    rw [hw]
    rintro captured (_ | ⟨_, _ | ⟨_, h⟩⟩)
    · rfl
    · rfl
    · cases h

/-- The limit price changed between the captures. Their projections are one text, and the run that was resumed between
them completes. -/
theorem complete_reading_unstable :
    (projection (usReading ⟨false, 100, 0⟩)).dumps = (projection (usReading ⟨false, 101, 0⟩)).dumps ∧
      ¬StablyRead (runFrom (tossUsPool (fun text => BitVec.ofNat 256 text.length) fun _ => 0).step tossUsStart
        (interrupted usScope (sampleId 3) (usReading ⟨false, 100, 0⟩) (usReading ⟨false, 101, 0⟩))).world := by
  refine ⟨rfl, fun hread => ?_⟩
  rw [interrupted_run _ _ usScope (sampleId 3) (usReading ⟨false, 100, 0⟩) (usReading ⟨false, 101, 0⟩) rfl] at hread
  obtain ⟨-, -, hlimit, -⟩ := List.forall₂_cons.mp (sameFacts_of_resumed hread).omitted |>.1
  cases hlimit with
  | some h => norm_num [SameNumber, Decimal.toRat] at h

end AutoTrader.Toss
