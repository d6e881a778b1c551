import AutoTrader.Ledger.Tables
import Mathlib.Data.List.Perm.Basic

/-! Promotion sessions: an exchange date is claimed for a binding, what the day left behind is
counted, and the session is completed when nothing stands in the way. -/

namespace AutoTrader.Promotion

open AutoTrader.Dispatch AutoTrader.Domain AutoTrader.Execution AutoTrader.Ledger AutoTrader.Runtime

inductive PromotionMode
  | shadow
  | paper
  deriving DecidableEq

def PromotionMode.value : PromotionMode → String
  | .shadow => "SHADOW"
  | .paper => "PAPER"

inductive SessionStatus
  | claimed
  | complete
  deriving DecidableEq

inductive PromotionBlocker
  | noDecisions
  | blockingIncident
  | blockingReconciliation
  | unresolvedUnknownOrder
  | noOrders
  | sessionNotOver
  deriving DecidableEq

def PromotionBlocker.value : PromotionBlocker → String
  | .noDecisions => "NO_DECISIONS"
  | .blockingIncident => "BLOCKING_INCIDENT"
  | .blockingReconciliation => "BLOCKING_RECONCILIATION"
  | .unresolvedUnknownOrder => "UNRESOLVED_UNKNOWN_ORDER"
  | .noOrders => "NO_ORDERS"
  | .sessionNotOver => "SESSION_NOT_OVER"

structure SessionEvidence where
  decisionCount : Nat
  orderCount : Nat
  blockingIncidentCount : Nat
  blockingReconciliationCount : Nat
  unresolvedUnknownCount : Nat
  deriving DecidableEq

/-- `verify`: why the session cannot be completed. Dates are days since the epoch. -/
def verify (evidence : SessionEvidence) (mode : PromotionMode) (exchangeDate today : Int) : List PromotionBlocker :=
  (if today ≤ exchangeDate then [.sessionNotOver] else []) ++
    (if evidence.decisionCount = 0 then [.noDecisions] else []) ++
    (if mode = .paper ∧ evidence.orderCount = 0 then [.noOrders] else []) ++
    (if evidence.blockingIncidentCount ≠ 0 then [.blockingIncident] else []) ++
    (if evidence.blockingReconciliationCount ≠ 0 then [.blockingReconciliation] else []) ++
    (if evidence.unresolvedUnknownCount ≠ 0 then [.unresolvedUnknownOrder] else [])

/-- The decision was made under a manifest; no column names an account. -/
structure DavidV6DecisionRow where
  id : UUID
  manifestId : UUID
  generatedAt : Instant

structure ReconciliationRun where
  id : UUID
  accountId : UUID

structure ReconciliationDiff extends Finding where
  runId : UUID
  createdAt : Instant

structure PromotionSessionRow where
  id : UUID
  bindingId : UUID
  accountId : UUID
  manifestId : UUID
  mode : PromotionMode
  exchangeDate : Int
  status : SessionStatus
  claimedAt : Instant
  completedAt : Option Instant
  evidence : SessionEvidence
  evidenceDigest : Option Digest

structure PromotionStore where
  decisions : List DavidV6DecisionRow
  orders : List PersistedOrder
  incidents : List OpsIncident
  runs : List ReconciliationRun
  diffs : List ReconciliationDiff
  sessions : List PromotionSessionRow

/-- `PromotionRefusedError`. -/
def refused (message : String) : PyError := ⟨.runtimeError, message⟩

def PromotionStore.session? (t : PromotionStore) (id : UUID) : Option PromotionSessionRow :=
  Rows.lookup PromotionSessionRow.id t.sessions id

/-! ### Evidence -/

/-- The day of an exchange date, which is a UTC day. -/
def during (exchangeDate : Int) (moment : Instant) : Bool :=
  decide (exchangeDate * 86400000000 ≤ moment) && decide (moment < exchangeDate * 86400000000 + 86400000000)

/-- The differences of the runs of an account. A run has one row. -/
def PromotionStore.diffsOf (t : PromotionStore) (accountId : UUID) : List ReconciliationDiff :=
  t.diffs.filter fun diff => t.runs.any fun run => decide (run.id = diff.runId) && decide (run.accountId = accountId)

def PromotionStore.ordersOf (t : PromotionStore) (accountId : UUID) : List PersistedOrder :=
  t.orders.filter fun order => order.accountId = accountId

/-- `evidence_for`. Decisions and incidents are counted whosever they are. -/
def evidenceFor (t : PromotionStore) (accountId : UUID) (exchangeDate : Int) : SessionEvidence where
  decisionCount := t.decisions.countP fun decision => during exchangeDate decision.generatedAt
  orderCount := (t.ordersOf accountId).countP fun order => during exchangeDate order.createdAt
  blockingIncidentCount := t.incidents.countP fun incident => incident.blocks && during exchangeDate incident.createdAt
  blockingReconciliationCount :=
    (t.diffsOf accountId).countP fun diff => diff.blocks && during exchangeDate diff.createdAt
  unresolvedUnknownCount :=
    (t.ordersOf accountId).countP fun order => decide (order.status = .unknown) && during exchangeDate order.createdAt

/-! ### Claims and completions -/

/-- `ck_exec_promotion_session_verified`. -/
def PromotionSessionRow.Verified (row : PromotionSessionRow) : Prop :=
  (row.status = .claimed ∧ row.completedAt = none ∧ row.evidenceDigest = none) ∨
    (row.status = .complete ∧ (∃ moment ∈ row.completedAt, row.claimedAt ≤ moment) ∧ row.evidenceDigest ≠ none ∧
      0 < row.evidence.decisionCount ∧ (row.mode = .shadow ∨ 0 < row.evidence.orderCount) ∧
      row.evidence.blockingIncidentCount = 0 ∧ row.evidence.blockingReconciliationCount = 0 ∧
      row.evidence.unresolvedUnknownCount = 0)

instance decidableVerified (row : PromotionSessionRow) : Decidable row.Verified :=
  inferInstanceAs (Decidable (_ ∨ _))

/-- `claim`, under a fresh id. -/
def claim (isoformat : Int → String) (t : PromotionStore) (id bindingId accountId manifestId : UUID) (mode : PromotionMode) (exchangeDate : Int)
    (now : Instant) : Except PyError (PromotionStore × PromotionSessionRow) :=
  if t.sessions.any fun row => decide (row.bindingId = bindingId) && decide (row.mode = mode) &&
      decide (row.exchangeDate = exchangeDate) then
    .error (refused (isoformat exchangeDate ++ " 은 이미 " ++ mode.value ++ " 세션으로 청구되어 있습니다."))
  else
    let row : PromotionSessionRow :=
      { id := id
        bindingId := bindingId
        accountId := accountId
        manifestId := manifestId
        mode := mode
        exchangeDate := exchangeDate
        status := .claimed
        claimedAt := now
        completedAt := none
        evidence := ⟨0, 0, 0, 0, 0⟩
        evidenceDigest := none }
    .ok ({ t with sessions := t.sessions ++ [row] }, row)

/-- The session with what was counted for it. -/
def PromotionSessionRow.completed (row : PromotionSessionRow) (evidence : SessionEvidence) (digest : Digest)
    (now : Instant) : PromotionSessionRow :=
  { row with status := .complete, completedAt := some now, evidence := evidence, evidenceDigest := some digest }

/-- `complete`, with `evidence_digest` as a parameter. -/
def complete (digest : SessionEvidence → Digest) (t : PromotionStore) (sessionId : UUID) (now : Instant) (today : Int) :
    Except PyError (PromotionStore × PromotionSessionRow) :=
  match t.session? sessionId with
  | none => .error (refused "저장되지 않은 세션입니다.")
  | some row =>
    if row.status = .complete then .error (refused "이미 완료된 세션입니다.")
    else
      let evidence := evidenceFor t row.accountId row.exchangeDate
      let blockers := verify evidence row.mode row.exchangeDate today
      if blockers ≠ [] then
        .error (refused ("확인되지 않은 manifest 는 완료할 수 없습니다: " ++
          String.intercalate ", " (blockers.map PromotionBlocker.value)))
      else
        let later := row.completed evidence (digest evidence) now
        if later.Verified then
          .ok ({ t with sessions := Rows.update PromotionSessionRow.id t.sessions sessionId fun _ => later }, later)
        else .error ⟨.databaseError, "ck_exec_promotion_session_verified"⟩

theorem verify_nil {evidence : SessionEvidence} {mode : PromotionMode} {exchangeDate today : Int} :
    verify evidence mode exchangeDate today = [] ↔ exchangeDate < today ∧ 0 < evidence.decisionCount ∧
      (mode = .shadow ∨ 0 < evidence.orderCount) ∧ evidence.blockingIncidentCount = 0 ∧
      evidence.blockingReconciliationCount = 0 ∧ evidence.unresolvedUnknownCount = 0 := by
  have hpart : ∀ (condition : Prop) [Decidable condition] (blocker : PromotionBlocker),
      (if condition then [blocker] else []) = [] ↔ ¬condition := by
    intro condition _ blocker
    split <;> simp_all
  have hmode : ¬(mode = .paper ∧ evidence.orderCount = 0) ↔ mode = .shadow ∨ 0 < evidence.orderCount := by
    cases mode <;> simp [Nat.pos_iff_ne_zero]
  unfold verify
  simp only [List.append_eq_nil_iff, hpart, hmode, not_le, not_not, and_assoc, ne_eq, Nat.pos_iff_ne_zero]

/-- What verified passes the check of its row. -/
theorem complete_ok {digest : SessionEvidence → Digest} {t : PromotionStore} {sessionId : UUID} {now : Instant}
    {today : Int} {row : PromotionSessionRow} (hrow : t.session? sessionId = some row) :
    (∃ result, complete digest t sessionId now today = .ok result) ↔ row.status ≠ .complete ∧
      verify (evidenceFor t row.accountId row.exchangeDate) row.mode row.exchangeDate today = [] ∧ row.claimedAt ≤ now := by
  have hverified : verify (evidenceFor t row.accountId row.exchangeDate) row.mode row.exchangeDate today = [] →
      ((row.completed (evidenceFor t row.accountId row.exchangeDate)
        (digest (evidenceFor t row.accountId row.exchangeDate)) now).Verified ↔ row.claimedAt ≤ now) := by
    intro hnone
    obtain ⟨-, hdecisions, horders, hincidents, hdiffs, hunknown⟩ := verify_nil.mp hnone
    simp [PromotionSessionRow.Verified, PromotionSessionRow.completed, hdecisions, horders, hincidents, hdiffs, hunknown]
  unfold complete
  rw [hrow]
  dsimp only
  split
  · rename_i hstatus
    simp [hstatus]
  rename_i hstatus
  split
  · rename_i hblockers
    simp [hblockers]
  rename_i hblockers
  have hnone := not_not.mp hblockers
  split
  · rename_i hcheck
    simp [hstatus, hnone, (hverified hnone).mp hcheck]
  · rename_i hcheck
    have hlate : ¬row.claimedAt ≤ now := fun hle => hcheck ((hverified hnone).mpr hle)
    simp [hlate]

end AutoTrader.Promotion
