import Mathlib.Data.List.Sort
import AutoTrader.Execution.Commands

/-! Execution watermarks: how far the numbered executions of one partition are known without
a gap, and rows for the gaps seen on the way. -/

namespace AutoTrader.Ledger

open AutoTrader.Domain AutoTrader.Execution

structure StreamKey where
  brokerId : UUID
  accountId : UUID
  sourcePartition : String
  deriving DecidableEq

inductive GapStatus
  | opened
  | closed
  deriving DecidableEq

structure PersistedExecutionGap where
  fromSequence : Nat
  throughSequence : Nat
  status : GapStatus
  deriving DecidableEq

structure PersistedExecutionWatermark where
  contiguousThroughSequence : Option Nat
  hasGap : Bool
  coveredFromAt : Option Instant
  coveredThroughAt : Option Instant
  paginationComplete : Bool
  evidenceHash : Digest
  expiresAt : Instant
  rowVersion : Nat
  deriving DecidableEq

/-- The watermark of a partition, with the gap rows that point to it. -/
structure Stream where
  watermark : Option PersistedExecutionWatermark
  gaps : List PersistedExecutionGap
  deriving DecidableEq

/-- One call of `advance_stream_sequence`. -/
structure Arrival where
  sequence : Nat
  now : Instant
  expiresAt : Instant
  evidenceHash : Digest

/-- The loop over the sequences already recorded past the mark. -/
def drain : Nat → List Nat → Nat
  | through, [] => through
  | through, sequence :: rest => if sequence ≠ through + 1 then through else drain sequence rest

/-- The recorded sequences past a mark, in order. -/
def laterSequences (received : List Nat) (through : Nat) : List Nat :=
  (received.filter (through < ·)).insertionSort (· ≤ ·)

def hasOpenGap (gaps : List PersistedExecutionGap) : Bool :=
  gaps.any (·.status = .opened)

/-- The row the first sequence closes or shortens; `pick` is the row the query for open gaps
from one returns first, which names no order. -/
def settleInitialGap (pick : List PersistedExecutionGap → Option PersistedExecutionGap)
    (gaps : List PersistedExecutionGap) : List PersistedExecutionGap :=
  match pick (gaps.filter fun g => g.status = .opened && g.fromSequence = 1) with
  | none => gaps
  | some initial =>
    gaps.map fun g =>
      if g = initial then
        if g.throughSequence = 1 then { g with status := .closed } else { g with fromSequence := 2 }
      else g

/-- The open rows around a sequence: one that ends there closes, one that starts there is
shortened, and one that does neither stays. -/
def settleGap (sequence : Nat) (g : PersistedExecutionGap) : PersistedExecutionGap :=
  if g.status = .opened ∧ g.fromSequence ≤ sequence ∧ sequence ≤ g.throughSequence then
    if g.throughSequence = sequence then { g with status := .closed }
    else if g.fromSequence = sequence then { g with fromSequence := sequence + 1 }
    else g
  else g

/-- The row of a gap seen for the first time. -/
def addGap (gaps : List PersistedExecutionGap) (fromSequence throughSequence : Nat) :
    List PersistedExecutionGap :=
  if fromSequence ≤ throughSequence ∧
      ¬gaps.any fun g => g.fromSequence = fromSequence && g.throughSequence = throughSequence then
    gaps ++ [⟨fromSequence, throughSequence, .opened⟩]
  else gaps

/-- `ExecutionWatermarkRepository.advance_stream_sequence`, over the sequences of the fills
recorded in the partition. -/
def advanceStreamSequence (pick : List PersistedExecutionGap → Option PersistedExecutionGap)
    (received : List Nat) (s : Stream) (a : Arrival) : Stream :=
  match s.watermark with
  | none =>
    { watermark := some
        { contiguousThroughSequence := if a.sequence = 1 then some a.sequence else none
          hasGap := decide (a.sequence ≠ 1)
          coveredFromAt := some a.now
          coveredThroughAt := some a.now
          paginationComplete := false
          evidenceHash := a.evidenceHash
          expiresAt := a.expiresAt
          rowVersion := 1 }
      gaps := if 1 < a.sequence then s.gaps ++ [⟨1, a.sequence - 1, .opened⟩] else s.gaps }
  | some w =>
    let refreshed : PersistedExecutionWatermark :=
      { w with evidenceHash := a.evidenceHash, expiresAt := a.expiresAt, rowVersion := w.rowVersion + 1 }
    match w.contiguousThroughSequence with
    | none =>
      if a.sequence = 1 then
        let gaps := settleInitialGap pick s.gaps
        { watermark := some
            { refreshed with
              contiguousThroughSequence := some (drain 1 (laterSequences received 1))
              hasGap := hasOpenGap gaps }
          gaps := gaps }
      else
        { watermark := some { refreshed with hasGap := true }
          gaps := addGap s.gaps 1 (a.sequence - 1) }
    | some through =>
      if a.sequence = through + 1 then
        let gaps := s.gaps.map (settleGap a.sequence)
        { watermark := some
            { refreshed with
              contiguousThroughSequence := some (drain a.sequence (laterSequences received a.sequence))
              hasGap := hasOpenGap gaps
              coveredThroughAt := some a.now }
          gaps := gaps }
      else if through ≠ a.sequence then
        { watermark := some { refreshed with hasGap := true }
          gaps := addGap s.gaps (through + 1) (a.sequence - 1) }
      else s

namespace Stream

def empty : Stream := ⟨none, []⟩

/-- The contiguous mark; nothing is contiguous before the first sequence. -/
def mark (s : Stream) : Nat :=
  (s.watermark.bind (·.contiguousThroughSequence)).getD 0

/-- The watermark says that something is missing. -/
def reportsGap (s : Stream) : Bool :=
  s.watermark.any (·.hasGap)

end Stream

end AutoTrader.Ledger
