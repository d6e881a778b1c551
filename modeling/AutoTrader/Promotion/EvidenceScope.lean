import AutoTrader.Ledger.System
import AutoTrader.Promotion.Sessions
import Mathlib.Data.List.Count

/-! Whose rows the evidence of a session is counted from. Orders and differences are those of its
account; decisions and incidents are everyone's. -/

namespace AutoTrader.Promotion

open AutoTrader.Dispatch AutoTrader.Domain AutoTrader.Execution AutoTrader.Ledger AutoTrader.Runtime

/-- Which decisions and incidents are those of a session, which no column says. -/
structure Ownership where
  decision : PromotionSessionRow → DavidV6DecisionRow → Bool
  incident : PromotionSessionRow → OpsIncident → Bool

/-- Two stores with the same session and the same rows of its own. -/
structure AgreeOn (owns : Ownership) (session : PromotionSessionRow) (t t' : PromotionStore) : Prop where
  found : t.session? session.id = some session ∧ t'.session? session.id = some session
  decisions : (t.decisions.filter (owns.decision session)).Perm (t'.decisions.filter (owns.decision session))
  orders : (t.ordersOf session.accountId).Perm (t'.ordersOf session.accountId)
  incidents : (t.incidents.filter (owns.incident session)).Perm (t'.incidents.filter (owns.incident session))
  diffs : (t.diffsOf session.accountId).Perm (t'.diffsOf session.accountId)

/-- The same counts, and a completion at any time is accepted of both or refused of both. -/
structure SameEvidence (session : PromotionSessionRow) (t t' : PromotionStore) : Prop where
  counts : evidenceFor t session.accountId session.exchangeDate = evidenceFor t' session.accountId session.exchangeDate
  answer : ∀ (digest : SessionEvidence → Digest) (now : Instant) (today : Int),
    (∃ result, complete digest t session.id now today = .ok result) ↔
      ∃ result, complete digest t' session.id now today = .ok result

/-- The decisions of the day that are others'. -/
def foreignDecisions (owns : Ownership) (session : PromotionSessionRow) (t : PromotionStore) : Nat :=
  (t.decisions.filter fun decision => !owns.decision session decision).countP fun decision =>
    during session.exchangeDate decision.generatedAt

/-- The open blocking incidents of the day that are others'. -/
def foreignIncidents (owns : Ownership) (session : PromotionSessionRow) (t : PromotionStore) : Nat :=
  (t.incidents.filter fun incident => !owns.incident session incident).countP fun incident =>
    incident.blocks && during session.exchangeDate incident.createdAt

/-- With the same rows of one kind, two lists hold equally many that count exactly when they hold
equally many of the other kind. -/
theorem countP_eq_iff {Row : Type} {rows rows' : List Row} {counts own : Row → Bool}
    (h : (rows.filter own).Perm (rows'.filter own)) :
    rows.countP counts = rows'.countP counts ↔
      (rows.filter fun row => !own row).countP counts = (rows'.filter fun row => !own row).countP counts := by
  have hown := h.countP_eq counts
  rw [List.countP_eq_countP_filter_add rows counts own, List.countP_eq_countP_filter_add rows' counts own, hown,
    Nat.add_left_cancel_iff]

/-- Two stores that agree on the rows of a session give it the same evidence and the same answer exactly
when equally many decisions and equally many open blocking incidents of the day are others'. -/
theorem sameEvidence_iff (owns : Ownership) (session : PromotionSessionRow) (t t' : PromotionStore)
    (h : AgreeOn owns session t t') :
    SameEvidence session t t' ↔ foreignDecisions owns session t = foreignDecisions owns session t' ∧
      foreignIncidents owns session t = foreignIncidents owns session t' := by
  have hcounts : evidenceFor t session.accountId session.exchangeDate =
      evidenceFor t' session.accountId session.exchangeDate ↔
        foreignDecisions owns session t = foreignDecisions owns session t' ∧
          foreignIncidents owns session t = foreignIncidents owns session t' := by
    unfold evidenceFor foreignDecisions foreignIncidents
    rw [SessionEvidence.mk.injEq, countP_eq_iff h.decisions, countP_eq_iff h.incidents, h.orders.countP_eq, h.orders.countP_eq,
      h.diffs.countP_eq]
    simp only [true_and, and_true]
  constructor
  · exact fun hsame => hcounts.mp hsame.counts
  · intro hforeign
    have hsame := hcounts.mpr hforeign
    refine ⟨hsame, fun digest now today => ?_⟩
    rw [complete_ok h.found.1, complete_ok h.found.2, hsame]

/-! ### A day of another manifest -/

/-- A shadow session of the first day. -/
def sampleSession : PromotionSessionRow where
  id := rowUuid 1
  bindingId := rowUuid 3
  accountId := rowUuid 2
  manifestId := rowUuid 5
  mode := .shadow
  exchangeDate := 0
  status := .claimed
  claimedAt := 0
  completedAt := none
  evidence := ⟨0, 0, 0, 0, 0⟩
  evidenceDigest := none

/-- Nothing but the session and these decisions. -/
def storeWith (decisions : List DavidV6DecisionRow) : PromotionStore where
  decisions := decisions
  orders := []
  incidents := []
  runs := []
  diffs := []
  sessions := [sampleSession]

/-- Decisions are those of the session's manifest, incidents of every session. -/
def byManifest : Ownership where
  decision session decision := decision.manifestId = session.manifestId
  incident _ _ := true

/-- A decision under another manifest. -/
def othersDecision : DavidV6DecisionRow := ⟨rowUuid 8, rowUuid 6, 10⟩

theorem samples_agree : AgreeOn byManifest sampleSession (storeWith [othersDecision]) (storeWith []) where
  found := ⟨rfl, rfl⟩
  decisions := by
    have hnone : [othersDecision].filter (byManifest.decision sampleSession) = [] := by decide
    exact .of_eq hnone
  orders := .refl _
  incidents := .refl _
  diffs := .refl _

theorem sameEvidence_iff_samples : ¬SameEvidence sampleSession (storeWith [othersDecision]) (storeWith []) := by
  rw [sameEvidence_iff byManifest sampleSession _ _ samples_agree]
  decide

/-- The other manifest's decision completes the session, which is refused without it. -/
theorem evidence_not_own : AgreeOn byManifest sampleSession (storeWith [othersDecision]) (storeWith []) ∧
    (complete (fun _ => 0) (storeWith [othersDecision]) sampleSession.id 86400000000 1).isOk = true ∧
    (complete (fun _ => 0) (storeWith []) sampleSession.id 86400000000 1).isOk = false :=
  ⟨samples_agree, by decide, by decide⟩

end AutoTrader.Promotion
