import Mathlib.Data.List.Sort
import AutoTrader.Execution.Commands
import AutoTrader.Ledger.Lifecycle
import AutoTrader.Runtime.Rows

/-! The rows that say what is held: positions, the lots a long position was opened in, and
lifecycles. One execution moves all three. -/

namespace AutoTrader.Ledger

open AutoTrader.Domain AutoTrader.Execution AutoTrader.Runtime

/-- An execution a broker reported; its sequence is not negative. -/
structure BrokerExecutionEvent where
  brokerId : UUID
  accountId : UUID
  orderId : UUID
  brokerOrderId : String
  brokerExecutionId : String
  sourcePartition : String
  sourceSequence : Option Nat
  instrumentId : UUID
  side : Side
  quantity : ℚ
  price : ℚ
  currency : String
  executedAt : Instant
  observedAt : Instant
  payloadHash : Digest
  terms : 0 < quantity ∧ 0 < price

structure Position where
  id : RowId
  accountId : UUID
  instrumentId : UUID
  quantity : ℚ
  averageCost : ℚ
  currency : Option String
  settlementAsset : Option String
  observedAt : Instant
  blockingRisk : Bool
  deriving DecidableEq

structure PersistedPositionLot where
  id : RowId
  positionId : RowId
  openingFillId : RowId
  openedQuantity : ℚ
  remainingQuantity : ℚ
  openedAt : Instant
  deriving DecidableEq

structure PersistedPositionLifecycle extends PositionLifecycle where
  id : RowId
  deriving DecidableEq

/-- `drawn` counts the ids drawn so far. -/
structure Book where
  positions : List Position
  lots : List PersistedPositionLot
  lifecycles : List PersistedPositionLifecycle
  drawn : Nat

namespace Book

def position? (b : Book) (accountId instrumentId : UUID) : Option Position :=
  b.positions.find? fun p => p.accountId = accountId && p.instrumentId = instrumentId

/-- The quantity held; nothing is held without a row. -/
def held (b : Book) (accountId instrumentId : UUID) : ℚ :=
  ((b.position? accountId instrumentId).map Position.quantity).getD 0

def lotsOf (b : Book) (positionId : RowId) : List PersistedPositionLot :=
  b.lots.filter (·.positionId = positionId)

def lifecyclesOf (b : Book) (positionId : RowId) : List PersistedPositionLifecycle :=
  b.lifecycles.filter (·.positionId = positionId)

/-- The lifecycles of a position that are not closed. -/
def openLifecycles (b : Book) (positionId : RowId) : List PersistedPositionLifecycle :=
  (b.lifecyclesOf positionId).filter (·.closedAt.isNone)

end Book

variable (arith : Arithmetic)

/-! ### Positions -/

/-- The row of the position, a new one at zero when there is none. -/
def positionFor (b : Book) (event : BrokerExecutionEvent) : Position × Book :=
  match b.position? event.accountId event.instrumentId with
  | some p =>
    (if p.currency.isNone && p.settlementAsset.isNone then { p with currency := some event.currency } else p, b)
  | none =>
    let p : Position :=
      { id := b.drawn
        accountId := event.accountId
        instrumentId := event.instrumentId
        quantity := 0
        averageCost := 0
        currency := some event.currency
        settlementAsset := none
        observedAt := event.observedAt
        blockingRisk := false }
    (p, { b with positions := b.positions ++ [p], drawn := b.drawn + 1 })

/-- The row after the execution, before it is written. -/
def Position.fill (p : Position) (event : BrokerExecutionEvent) : Position :=
  let next := nextQuantity arith p.quantity event.side event.quantity
  { p with
    quantity := next
    averageCost :=
      if event.side = .buy ∧ 0 ≤ p.quantity then
        arith.fix (arith.fix (arith.fix (p.averageCost * p.quantity) + arith.fix (event.price * event.quantity)) /
          next)
      else if next = 0 then 0
      else if p.quantity = 0 ∨ arith.fix (p.quantity * next) < 0 then event.price
      else p.averageCost
    observedAt := event.observedAt
    blockingRisk := p.blockingRisk || decide (next < 0) }

def writePosition (positions : List Position) (p : Position) : Except PyError (List Position) := do
  let quantity ← arith.store p.quantity
  let averageCost ← arith.store p.averageCost
  pure (Rows.update Position.id positions p.id fun _ => { p with quantity := quantity, averageCost := averageCost })

/-! ### Lots -/

/-- First opened, first closed; ids decide between lots of one moment. -/
def LotOrder (a b : PersistedPositionLot) : Prop :=
  a.openedAt < b.openedAt ∨ (a.openedAt = b.openedAt ∧ a.id ≤ b.id)

instance : DecidableRel LotOrder := fun _ _ => inferInstanceAs (Decidable (_ ∨ _))

/-- The loop over the open lots, which ends when nothing is left to close. -/
def closeInOrder : List PersistedPositionLot → ℚ → Except PyError (List PersistedPositionLot)
  | [], _ => .ok []
  | lot :: rest, remainingToClose => do
    let closed := min lot.remainingQuantity remainingToClose
    let stored ← arith.store (arith.fix (lot.remainingQuantity - closed))
    let left := arith.fix (remainingToClose - closed)
    let others ← (if left = 0 then .ok rest else closeInOrder rest left)
    pure ({ lot with remainingQuantity := stored } :: others)

/-- A lot the close of a position selects. -/
def selected (positionId : RowId) (lot : PersistedPositionLot) : Bool :=
  lot.positionId = positionId && decide (0 < lot.remainingQuantity)

/-- Rows have no order in their table, so the closed ones may stand last. -/
def closeLots (lots : List PersistedPositionLot) (positionId : RowId) (remainingToClose : ℚ) :
    Except PyError (List PersistedPositionLot) := do
  let closed ← closeInOrder arith ((lots.filter (selected positionId)).insertionSort LotOrder) remainingToClose
  pure (lots.filter (fun lot => !selected positionId lot) ++ closed)

/-! ### Lineage -/

/-- The largest ordinal of a position so far. -/
def currentOrdinal (lifecycles : List PersistedPositionLifecycle) : Nat :=
  lifecycles.foldr (fun row ordinal => max row.lifecycleOrdinal ordinal) 0

/-- The quantity of the lot an execution opens. -/
def lotQuantity (side : Side) (previous quantity : ℚ) : ℚ :=
  match side with
  | .buy => if 0 ≤ previous then quantity else max 0 (arith.fix (quantity + previous))
  | .sell => 0

/-- A lifecycle row closed by a fill. -/
def PersistedPositionLifecycle.closedBy (fillId : RowId) (executedAt : Instant)
    (row : PersistedPositionLifecycle) : PersistedPositionLifecycle :=
  { row with closingFillId := some fillId, closedAt := some executedAt }

/-- The lifecycles with the active one of a position closed. -/
def closeActive (b : Book) (positionId fillId : RowId) (executedAt : Instant) :
    List PersistedPositionLifecycle :=
  match (b.openLifecycles positionId).head? with
  | some row => Rows.update PersistedPositionLifecycle.id b.lifecycles row.id (·.closedBy fillId executedAt)
  | none => b.lifecycles

/-- Close the active lifecycle and add the one that opened, as the transition says. -/
def writeTransition (b : Book) (positionId fillId : RowId) (executedAt : Instant)
    (transition : PositionLifecycleTransition) : Book :=
  let lifecycles := if transition.closed.isSome then closeActive b positionId fillId executedAt else b.lifecycles
  match transition.opened with
  | some opened =>
    { b with lifecycles := lifecycles ++ [PersistedPositionLifecycle.mk opened b.drawn], drawn := b.drawn + 1 }
  | none => { b with lifecycles := lifecycles }

/-- Add the lot of an execution, when it opened anything. -/
def openLot (b : Book) (positionId fillId : RowId) (quantity : ℚ) (openedAt : Instant) : Except PyError Book :=
  if 0 < quantity then do
    let stored ← arith.store quantity
    if stored ≤ 0 then .error ⟨.databaseError, "ck_exec_position_lot_quantities"⟩
    else
      pure
        { b with
          lots := b.lots ++ [⟨b.drawn, positionId, fillId, stored, stored, openedAt⟩]
          drawn := b.drawn + 1 }
  else pure b

/-- `MySqlFillStore._record_position_lineage`. -/
def recordPositionLineage (b : Book) (positionId : RowId) (previous : ℚ) (fillId : RowId) (side : Side)
    (quantity : ℚ) (executedAt : Instant) : Except PyError Book := do
  let transition ← applyLifecycleTransition arith positionId previous side quantity fillId executedAt
    (currentOrdinal (b.lifecyclesOf positionId) + 1)
    ((b.openLifecycles positionId).head?.map (·.toPositionLifecycle))
  openLot arith (writeTransition b positionId fillId executedAt transition) positionId fillId
    (lotQuantity arith side transition.previousQuantity quantity) executedAt

/-- What `apply_event_once` does to the position of a fill. -/
def applyToPosition (b : Book) (fillId : RowId) (event : BrokerExecutionEvent) : Except PyError Book := do
  let (p, b) := positionFor b event
  let positions ← writePosition arith b.positions (p.fill arith event)
  let lots ← (if event.side = .sell ∧ 0 < p.quantity then
      closeLots arith b.lots p.id (min p.quantity event.quantity)
    else .ok b.lots)
  recordPositionLineage arith { b with positions := positions, lots := lots } p.id p.quantity fillId event.side
    event.quantity event.executedAt

end AutoTrader.Ledger
