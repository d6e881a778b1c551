import AutoTrader.Ledger.System
import AutoTrader.Promotion.Sessions
import AutoTrader.Runtime.Origins
import Mathlib.Data.List.Sort

/-! How far a binding has got towards promotion: the distinct days it completed in each mode under one manifest. Days
are claimed and completed while the services that leave the evidence behind go on working. -/

namespace AutoTrader.Promotion

open AutoTrader.Dispatch AutoTrader.Domain AutoTrader.Execution AutoTrader.Ledger AutoTrader.Runtime

/-! ### Progress -/

inductive StrategyGate
  | notEvaluated
  | passed
  | failed
  deriving DecidableEq

def requiredSessions : Nat := 2

structure ModeProgress where
  mode : PromotionMode
  completedDates : List Int

def ModeProgress.satisfied (progress : ModeProgress) : Bool :=
  decide (requiredSessions ≤ progress.completedDates.length)

def ModeProgress.remaining (progress : ModeProgress) : Nat := requiredSessions - progress.completedDates.length

structure PromotionState where
  manifestId : UUID
  shadow : ModeProgress
  paper : ModeProgress
  strategyGate : StrategyGate

def PromotionState.sessionsSatisfied (state : PromotionState) : Bool := state.shadow.satisfied && state.paper.satisfied

def PromotionState.ready (state : PromotionState) : Bool :=
  state.sessionsSatisfied && decide (state.strategyGate = .passed)

/-- `tuple(sorted(completed[mode]))`. -/
def completedDates (sessions : List PromotionSessionRow) (manifestId : UUID) (mode : PromotionMode) : List Int :=
  ((sessions.filter fun session => decide (session.manifestId = manifestId) &&
      decide (session.status = .complete) && decide (session.mode = mode)).map
    PromotionSessionRow.exchangeDate).dedup.insertionSort (· ≤ ·)

def promotionState (sessions : List PromotionSessionRow) (manifestId : UUID) : PromotionState where
  manifestId := manifestId
  shadow := ⟨.shadow, completedDates sessions manifestId .shadow⟩
  paper := ⟨.paper, completedDates sessions manifestId .paper⟩
  strategyGate := .notEvaluated

/-- One session and, if it is still open, what stands in its way. -/
structure SessionView where
  session : PromotionSessionRow
  evidence : SessionEvidence
  blockers : List PromotionBlocker

namespace PromotionStore

def sessionsOf (t : PromotionStore) (bindingId : UUID) : List PromotionSessionRow :=
  t.sessions.filter fun session => decide (session.bindingId = bindingId)

def state (t : PromotionStore) (bindingId manifestId : UUID) : PromotionState :=
  promotionState (t.sessionsOf bindingId) manifestId

/-- A completed session reports what it closed with. -/
def view (t : PromotionStore) (today : Int) (row : PromotionSessionRow) : SessionView :=
  match row.status with
  | .complete => ⟨row, row.evidence, []⟩
  | .claimed =>
    let evidence := evidenceFor t row.accountId row.exchangeDate
    ⟨row, evidence, verify evidence row.mode row.exchangeDate today⟩

/-- `ORDER BY exchange_date DESC, mode`. -/
def NewestFirst (a b : PromotionSessionRow) : Prop :=
  b.exchangeDate < a.exchangeDate ∨ a.exchangeDate = b.exchangeDate ∧ a.mode.value ≤ b.mode.value

instance decidableNewestFirst (a b : PromotionSessionRow) : Decidable (NewestFirst a b) :=
  inferInstanceAs (Decidable (_ ∨ _))

def timeline (t : PromotionStore) (bindingId : UUID) (today : Int) : List SessionView :=
  ((t.sessionsOf bindingId).insertionSort NewestFirst).map (t.view today)

end PromotionStore

/-! ### Runs -/

/-- What commits: a claim or a completion, or what other services leave in the tables the evidence is counted from. -/
inductive PromotionEvent
  | claim (id bindingId accountId manifestId : UUID) (mode : PromotionMode) (exchangeDate : Int) (now : Instant)
  | complete (sessionId : UUID) (now : Instant) (today : Int)
  | work (decisions : List DavidV6DecisionRow) (orders : List PersistedOrder) (incidents : List OpsIncident)
      (runs : List ReconciliationRun) (diffs : List ReconciliationDiff)

namespace PromotionStore

/-- What is refused is not written, nor is a row under an id that is taken. -/
def step (isoformat : Int → String) (digest : SessionEvidence → Digest) (t : PromotionStore) :
    PromotionEvent → PromotionStore
  | .claim id bindingId accountId manifestId mode exchangeDate now =>
    if (t.session? id).isSome then t
    else match Promotion.claim isoformat t id bindingId accountId manifestId mode exchangeDate now with
      | .ok (t', _) => t'
      | .error _ => t
  | .complete sessionId now today =>
    match Promotion.complete digest t sessionId now today with
    | .ok (t', _) => t'
    | .error _ => t
  | .work decisions orders incidents runs diffs => ⟨decisions, orders, incidents, runs, diffs, t.sessions⟩

end PromotionStore

def noSessions : PromotionStore := ⟨[], [], [], [], [], []⟩

variable {isoformat : Int → String} {digest : SessionEvidence → Digest} {t t' : PromotionStore} {e : PromotionEvent}
  {row other : PromotionSessionRow} {bindingId manifestId : UUID} {mode : PromotionMode} {exchangeDate : Int}
  {events more : List PromotionEvent}

/-- The day of a binding in a mode is claimed. -/
def Claims (bindingId manifestId : UUID) (mode : PromotionMode) (exchangeDate : Int) (_ : PromotionStore)
    (e : PromotionEvent) : Prop :=
  ∃ id accountId now, e = .claim id bindingId accountId manifestId mode exchangeDate now

/-- The day is completed: it is over, and nothing it left behind, as counted by then, stands in the way. -/
def Completes (bindingId manifestId : UUID) (mode : PromotionMode) (exchangeDate : Int) (t : PromotionStore)
    (e : PromotionEvent) : Prop :=
  ∃ row ∈ t.sessions, ∃ now today, e = .complete row.id now today ∧ row.bindingId = bindingId ∧
    row.manifestId = manifestId ∧ row.mode = mode ∧ row.exchangeDate = exchangeDate ∧ row.status = .claimed ∧
    row.claimedAt ≤ now ∧ verify (evidenceFor t row.accountId exchangeDate) mode exchangeDate today = []

/-- What a step does to the sessions. -/
theorem step_cases (isoformat : Int → String) (digest : SessionEvidence → Digest) (t : PromotionStore)
    (e : PromotionEvent) : (t.step isoformat digest e).sessions = t.sessions ∨
      (∃ new, (t.step isoformat digest e).sessions = t.sessions ++ [new] ∧ new.status = .claimed ∧
        t.session? new.id = none ∧ Claims new.bindingId new.manifestId new.mode new.exchangeDate t e ∧
        ∀ row ∈ t.sessions, ¬(row.bindingId = new.bindingId ∧ row.mode = new.mode ∧
          row.exchangeDate = new.exchangeDate)) ∨
      ∃ row now, t.session? row.id = some row ∧ row.status = .claimed ∧
        Completes row.bindingId row.manifestId row.mode row.exchangeDate t e ∧
        (t.step isoformat digest e).sessions = Rows.update PromotionSessionRow.id t.sessions row.id fun _ =>
          row.completed (evidenceFor t row.accountId row.exchangeDate)
            (digest (evidenceFor t row.accountId row.exchangeDate)) now := by
  cases e with
  | claim id bindingId accountId manifestId mode exchangeDate now =>
    unfold PromotionStore.step
    dsimp only
    split
    · exact .inl rfl
    next hid =>
    unfold Promotion.claim
    split
    next t' row' hclaim =>
      split at hclaim
      · cases hclaim
      next hfree =>
      cases hclaim
      refine .inr (.inl ⟨_, rfl, rfl, Option.not_isSome_iff_eq_none.mp hid, ⟨id, accountId, now, rfl⟩, ?_⟩)
      rintro row hrow ⟨hbinding, hmode, hdate⟩
      exact hfree (List.any_eq_true.mpr ⟨row, hrow, by simp [hbinding, hmode, hdate]⟩)
    · exact .inl rfl
  | complete sessionId now today =>
    cases hresult : Promotion.complete digest t sessionId now today with
    | error error =>
      left
      unfold PromotionStore.step
      simp only [hresult]
    | ok result =>
      cases hrow : t.session? sessionId with
      | none =>
        unfold Promotion.complete at hresult
        rw [hrow] at hresult
        cases hresult
      | some row =>
        have hid : row.id = sessionId := Rows.lookup_key hrow
        obtain ⟨hstatus, hverify, hclaimed⟩ := (complete_ok hrow).mp ⟨result, hresult⟩
        have hopen : row.status = .claimed := by
          cases hcase : row.status with
          | claimed => rfl
          | complete => exact absurd hcase hstatus
        refine .inr (.inr ⟨row, now, hid ▸ hrow, hopen, ⟨row, List.mem_of_find?_eq_some hrow, now, today, by rw [hid],
          rfl, rfl, rfl, rfl, hopen, hclaimed, hverify⟩, ?_⟩)
        unfold PromotionStore.step
        simp only [hresult]
        unfold Promotion.complete at hresult
        rw [hrow] at hresult
        simp only [hstatus, if_false, hverify, ne_eq, not_true_eq_false] at hresult
        split at hresult
        · cases hresult
          rw [hid]
        · cases hresult
  | work decisions orders incidents runs diffs => exact .inl rfl

/-- One session of a binding for a day in a mode, under an id of its own. -/
structure SoundSessions (t : PromotionStore) : Prop where
  ids : (t.sessions.map PromotionSessionRow.id).Nodup
  days : ∀ a ∈ t.sessions, ∀ b ∈ t.sessions, a.bindingId = b.bindingId → a.mode = b.mode →
    a.exchangeDate = b.exchangeDate → a = b

/-- What a completion leaves of a session as it was. -/
structure SameDay (row row' : PromotionSessionRow) : Prop where
  id : row'.id = row.id
  bindingId : row'.bindingId = row.bindingId
  manifestId : row'.manifestId = row.manifestId
  mode : row'.mode = row.mode
  exchangeDate : row'.exchangeDate = row.exchangeDate

theorem sameDay_update (h : SoundSessions t) (hrow : row ∈ t.sessions) {evidence : SessionEvidence} {hash : Digest}
    {now : Instant} {after : PromotionSessionRow} (hafter : after ∈ Rows.update PromotionSessionRow.id t.sessions row.id
      fun _ => row.completed evidence hash now) :
    ∃ before ∈ t.sessions, SameDay before after ∧
      (before = row ∧ after = row.completed evidence hash now ∨ before.id ≠ row.id ∧ after = before) := by
  obtain ⟨before, hbefore, rfl⟩ := Rows.mem_update.mp hafter
  refine ⟨before, hbefore, ?_⟩
  by_cases hid : before.id = row.id
  · have heq : before = row := List.inj_on_of_nodup_map h.ids hbefore hrow hid
    rw [if_pos hid, heq]
    exact ⟨⟨rfl, rfl, rfl, rfl, rfl⟩, .inl ⟨rfl, rfl⟩⟩
  · rw [if_neg hid]
    exact ⟨⟨rfl, rfl, rfl, rfl, rfl⟩, .inr ⟨hid, rfl⟩⟩

theorem SoundSessions.step (h : SoundSessions t) (e : PromotionEvent) :
    SoundSessions (t.step isoformat digest e) := by
  rcases step_cases isoformat digest t e with hsame | ⟨new, hnew, -, hid, -, hfree⟩ | ⟨row, now, hfound, -, -, hupdate⟩
  · exact ⟨hsame ▸ h.ids, hsame ▸ h.days⟩
  · refine ⟨?_, ?_⟩
    · rw [hnew, List.map_append]
      refine List.nodup_append.mpr ⟨h.ids, List.nodup_singleton _, fun id hmem last hlast heq => ?_⟩
      obtain ⟨row, hrow, rfl⟩ := List.mem_map.mp hmem
      exact Rows.lookup_eq_none.mp hid row hrow (heq.trans (List.mem_singleton.mp hlast))
    · rw [hnew]
      intro a ha b hb hbinding hmode hdate
      rcases List.mem_append.mp ha with ha | ha <;> rcases List.mem_append.mp hb with hb | hb
      · exact h.days a ha b hb hbinding hmode hdate
      · rw [List.mem_singleton.mp hb] at hbinding hmode hdate
        exact absurd ⟨hbinding, hmode, hdate⟩ (hfree a ha)
      · rw [List.mem_singleton.mp ha] at hbinding hmode hdate
        exact absurd ⟨hbinding.symm, hmode.symm, hdate.symm⟩ (hfree b hb)
      · rw [List.mem_singleton.mp ha, List.mem_singleton.mp hb]
  · have hrow := List.mem_of_find?_eq_some hfound
    refine ⟨?_, ?_⟩
    · rw [hupdate, Rows.keys_update (by rfl)]
      exact h.ids
    · rw [hupdate]
      intro a' ha' b' hb' hbinding hmode hdate
      obtain ⟨a, ha, hsame, hcase⟩ := sameDay_update h hrow ha'
      obtain ⟨b, hb, hsame', hcase'⟩ := sameDay_update h hrow hb'
      rw [hsame.bindingId, hsame'.bindingId] at hbinding
      rw [hsame.mode, hsame'.mode] at hmode
      rw [hsame.exchangeDate, hsame'.exchangeDate] at hdate
      have heq := h.days a ha b hb hbinding hmode hdate
      rcases hcase with ⟨harow, rfl⟩ | ⟨hne, rfl⟩ <;> rcases hcase' with ⟨hbrow, rfl⟩ | ⟨hne', rfl⟩
      · rfl
      · exact absurd (congrArg PromotionSessionRow.id (heq.symm.trans harow)) hne'
      · exact absurd (congrArg PromotionSessionRow.id (heq.trans hbrow)) hne
      · exact heq

theorem soundSessions_run (isoformat : Int → String) (digest : SessionEvidence → Digest)
    (events : List PromotionEvent) :
    SoundSessions (runFrom (PromotionStore.step isoformat digest) noSessions events) :=
  run_invariant (I := SoundSessions) (fun _ e h _ => h.step e) ⟨List.nodup_nil, by simp [noSessions]⟩
    (runMeets_of_forall (fun _ _ => trivial) noSessions events)

/-! ### Where a completed day comes from -/

/-- The day of a binding in a mode has a session under the manifest. -/
def Claimed (bindingId manifestId : UUID) (mode : PromotionMode) (exchangeDate : Int) (t : PromotionStore) : Prop :=
  ∃ row ∈ t.sessions, row.bindingId = bindingId ∧ row.manifestId = manifestId ∧ row.mode = mode ∧
    row.exchangeDate = exchangeDate

def Completed (bindingId manifestId : UUID) (mode : PromotionMode) (exchangeDate : Int) (t : PromotionStore) : Prop :=
  ∃ row ∈ t.sessions, row.bindingId = bindingId ∧ row.manifestId = manifestId ∧ row.mode = mode ∧
    row.exchangeDate = exchangeDate ∧ row.status = .complete

theorem claimed_step (hsound : SoundSessions t)
    (h : Claimed bindingId manifestId mode exchangeDate (t.step isoformat digest e)) :
    Claims bindingId manifestId mode exchangeDate t e ∨ Claimed bindingId manifestId mode exchangeDate t := by
  obtain ⟨row, hrow, rfl, rfl, rfl, rfl⟩ := h
  rcases step_cases isoformat digest t e with hsame | ⟨new, hnew, -, -, hclaims, -⟩ | ⟨old, now, hfound, -, -, hupdate⟩
  · exact .inr ⟨row, hsame ▸ hrow, rfl, rfl, rfl, rfl⟩
  · rw [hnew] at hrow
    rcases List.mem_append.mp hrow with hold | hlast
    · exact .inr ⟨row, hold, rfl, rfl, rfl, rfl⟩
    · rw [List.mem_singleton.mp hlast]
      exact .inl hclaims
  · rw [hupdate] at hrow
    obtain ⟨before, hbefore, hsame, -⟩ := sameDay_update hsound (List.mem_of_find?_eq_some hfound) hrow
    exact .inr ⟨before, hbefore, hsame.bindingId.symm, hsame.manifestId.symm, hsame.mode.symm, hsame.exchangeDate.symm⟩

theorem completed_step (hsound : SoundSessions t)
    (h : Completed bindingId manifestId mode exchangeDate (t.step isoformat digest e)) :
    Completes bindingId manifestId mode exchangeDate t e ∨ Completed bindingId manifestId mode exchangeDate t := by
  obtain ⟨row, hrow, rfl, rfl, rfl, rfl, hstatus⟩ := h
  rcases step_cases isoformat digest t e with
    hsame | ⟨new, hnew, hclaimed, -⟩ | ⟨old, now, hfound, -, hcompletes, hupdate⟩
  · exact .inr ⟨row, hsame ▸ hrow, rfl, rfl, rfl, rfl, hstatus⟩
  · rw [hnew] at hrow
    rcases List.mem_append.mp hrow with hold | hlast
    · exact .inr ⟨row, hold, rfl, rfl, rfl, rfl, hstatus⟩
    · rw [List.mem_singleton.mp hlast, hclaimed] at hstatus
      cases hstatus
  · rw [hupdate] at hrow
    obtain ⟨before, hbefore, -, ⟨rfl, rfl⟩ | ⟨-, rfl⟩⟩ :=
      sameDay_update hsound (List.mem_of_find?_eq_some hfound) hrow
    · exact .inl hcompletes
    · exact .inr ⟨row, hbefore, rfl, rfl, rfl, rfl, hstatus⟩

/-- The day was claimed, and completed after. -/
def Earned (isoformat : Int → String) (digest : SessionEvidence → Digest) (bindingId manifestId : UUID)
    (mode : PromotionMode) (exchangeDate : Int) (events : List PromotionEvent) : Prop :=
  ∃ before event after, events = before ++ event :: after ∧
    Begun (PromotionStore.step isoformat digest) (Claims bindingId manifestId mode exchangeDate) (fun _ _ => False)
      noSessions before ∧
    Completes bindingId manifestId mode exchangeDate (runFrom (PromotionStore.step isoformat digest) noSessions before)
      event

theorem begun_sound {P : PromotionStore → Prop} {begins : PromotionStore → PromotionEvent → Prop}
    (hstep : ∀ t e, SoundSessions t → P (t.step isoformat digest e) → begins t e ∨ P t) (hstart : ¬P noSessions)
    (h : P (runFrom (PromotionStore.step isoformat digest) noSessions events)) :
    Begun (PromotionStore.step isoformat digest) begins (fun _ _ => False) noSessions events :=
  begun_within (I := SoundSessions) (fun _ e hsound _ => hsound.step e)
    (fun t e hsound _ hafter => (hstep t e hsound hafter).imp_right fun hold => ⟨hold, id⟩)
    (soundSessions_run isoformat digest []) hstart (runMeets_of_forall (fun _ _ => trivial) noSessions events) h

theorem earned_of_completed
    (h : Completed bindingId manifestId mode exchangeDate
      (runFrom (PromotionStore.step isoformat digest) noSessions events)) :
    Earned isoformat digest bindingId manifestId mode exchangeDate events := by
  have hcompleted : Begun (PromotionStore.step isoformat digest) (Completes bindingId manifestId mode exchangeDate)
      (fun _ _ => False) noSessions events := by
    refine begun_sound (fun t e hsound hafter => completed_step hsound hafter) ?_ h
    rintro ⟨row, hrow, -⟩
    cases hrow
  obtain ⟨before, event, after, hevents, hcompletes, -⟩ := hcompleted
  refine ⟨before, event, after, hevents, ?_, hcompletes⟩
  obtain ⟨row, hrow, now, today, -, hbinding, hmanifest, hmode, hdate, -⟩ := hcompletes
  refine begun_sound (fun t e hsound hafter => claimed_step hsound hafter) ?_
    ⟨row, hrow, hbinding, hmanifest, hmode, hdate⟩
  rintro ⟨other, hother, -⟩
  cases hother

/-! ### Completed days -/

theorem kept_step (hsound : SoundSessions t) (hrow : row ∈ t.sessions) (hstatus : row.status = .complete) :
    row ∈ (t.step isoformat digest e).sessions := by
  rcases step_cases isoformat digest t e with hsame | ⟨new, hnew, -⟩ | ⟨old, now, hfound, hopen, -, hupdate⟩
  · rwa [hsame]
  · rw [hnew]
    exact List.mem_append_left _ hrow
  · rw [hupdate]
    refine Rows.mem_update.mpr ⟨row, hrow, (if_neg fun hid => ?_).symm⟩
    have heq := List.inj_on_of_nodup_map hsound.ids hrow (List.mem_of_find?_eq_some hfound) hid
    rw [heq, hopen] at hstatus
    cases hstatus

theorem kept_run (hrow : row ∈ (runFrom (PromotionStore.step isoformat digest) noSessions events).sessions)
    (hstatus : row.status = .complete) (more : List PromotionEvent) :
    row ∈ (runFrom (PromotionStore.step isoformat digest) noSessions (events ++ more)).sessions := by
  rw [runFrom_append]
  exact (run_invariant (I := fun t : PromotionStore => SoundSessions t ∧ row ∈ t.sessions)
    (fun t e h _ => ⟨h.1.step e, kept_step h.1 h.2 hstatus⟩) ⟨soundSessions_run isoformat digest events, hrow⟩
    (runMeets_of_forall (fun _ _ => trivial) _ more)).2

theorem mem_completedDates {sessions : List PromotionSessionRow} :
    exchangeDate ∈ completedDates sessions manifestId mode ↔ ∃ row ∈ sessions, row.manifestId = manifestId ∧
      row.status = .complete ∧ row.mode = mode ∧ row.exchangeDate = exchangeDate := by
  simp only [completedDates, List.mem_insertionSort, List.mem_dedup, List.mem_map, List.mem_filter, Bool.and_eq_true,
    decide_eq_true_eq]
  constructor
  · rintro ⟨row, ⟨hrow, ⟨hmanifest, hstatus⟩, hmode⟩, hdate⟩
    exact ⟨row, hrow, hmanifest, hstatus, hmode, hdate⟩
  · rintro ⟨row, hrow, hmanifest, hstatus, hmode, hdate⟩
    exact ⟨row, ⟨hrow, ⟨hmanifest, hstatus⟩, hmode⟩, hdate⟩

theorem completedDates_nodup (sessions : List PromotionSessionRow) (manifestId : UUID) (mode : PromotionMode) :
    (completedDates sessions manifestId mode).Nodup :=
  (List.perm_insertionSort _ _).nodup_iff.mpr (List.nodup_dedup _)

theorem completed_of_mem (h : exchangeDate ∈ completedDates (t.sessionsOf bindingId) manifestId mode) :
    Completed bindingId manifestId mode exchangeDate t := by
  obtain ⟨row, hrow, hmanifest, hstatus, hmode, hdate⟩ := mem_completedDates.mp h
  obtain ⟨hmem, hbinding⟩ := List.mem_filter.mp hrow
  exact ⟨row, hmem, of_decide_eq_true hbinding, hmanifest, hmode, hdate, hstatus⟩

/-- More days are completed as a run goes on, and none fewer. -/
theorem completedDates_run (isoformat : Int → String) (digest : SessionEvidence → Digest)
    (events more : List PromotionEvent) (bindingId manifestId : UUID) (mode : PromotionMode) :
    (completedDates ((runFrom (PromotionStore.step isoformat digest) noSessions events).sessionsOf bindingId) manifestId
      mode).length ≤
    (completedDates ((runFrom (PromotionStore.step isoformat digest) noSessions (events ++ more)).sessionsOf bindingId)
      manifestId mode).length := by
  refine ((completedDates_nodup _ _ _).subperm fun exchangeDate hdate => ?_).length_le
  obtain ⟨row, hrow, hmanifest, hstatus, hmode, hday⟩ := mem_completedDates.mp hdate
  obtain ⟨hmem, hbinding⟩ := List.mem_filter.mp hrow
  exact mem_completedDates.mpr ⟨row, List.mem_filter.mpr ⟨kept_run hmem hstatus more, hbinding⟩, hmanifest, hstatus,
    hmode, hday⟩

theorem two_of_satisfied {dates : List Int} (hnodup : dates.Nodup) (h : requiredSessions ≤ dates.length) :
    ∃ first ∈ dates, ∃ second ∈ dates, first ≠ second := by
  cases dates with
  | nil => cases h
  | cons first rest =>
    cases rest with
    | nil => simp [requiredSessions] at h
    | cons second rest =>
      refine ⟨first, List.mem_cons_self, second, List.mem_cons_of_mem _ List.mem_cons_self, fun heq => ?_⟩
      exact (List.nodup_cons.mp hnodup).1 (heq ▸ List.mem_cons_self)

theorem progress_satisfied {state : PromotionState} (h : state.sessionsSatisfied = true) :
    requiredSessions ≤ state.shadow.completedDates.length ∧ requiredSessions ≤ state.paper.completedDates.length := by
  simpa [PromotionState.sessionsSatisfied, ModeProgress.satisfied] using h

/-- Where the sessions of a binding are satisfied they stay so, and in each mode two different days were claimed under
the manifest and then completed, each over by then and with nothing in its way. -/
theorem sessions_earned (isoformat : Int → String) (digest : SessionEvidence → Digest)
    (h : ((runFrom (PromotionStore.step isoformat digest) noSessions events).state bindingId
      manifestId).sessionsSatisfied = true) :
    (∀ more, ((runFrom (PromotionStore.step isoformat digest) noSessions (events ++ more)).state bindingId
      manifestId).sessionsSatisfied = true) ∧
    ∀ mode, ∃ first second, first ≠ second ∧ Earned isoformat digest bindingId manifestId mode first events ∧
      Earned isoformat digest bindingId manifestId mode second events := by
  obtain ⟨hshadow, hpaper⟩ := progress_satisfied h
  constructor
  · intro more
    have hgrows := completedDates_run isoformat digest events more bindingId manifestId
    simp only [PromotionState.sessionsSatisfied, ModeProgress.satisfied, Bool.and_eq_true, decide_eq_true_eq]
    exact ⟨hshadow.trans (hgrows .shadow), hpaper.trans (hgrows .paper)⟩
  · intro mode
    have hlength : requiredSessions ≤ (completedDates ((runFrom (PromotionStore.step isoformat digest) noSessions
        events).sessionsOf bindingId) manifestId mode).length := by
      cases mode with
      | shadow => exact hshadow
      | paper => exact hpaper
    obtain ⟨first, hfirst, second, hsecond, hne⟩ := two_of_satisfied (completedDates_nodup _ _ _) hlength
    exact ⟨first, second, hne, earned_of_completed (completed_of_mem hfirst),
      earned_of_completed (completed_of_mem hsecond)⟩

theorem view_complete (t : PromotionStore) (today : Int) (hstatus : row.status = .complete) :
    t.view today row = ⟨row, row.evidence, []⟩ := by
  unfold PromotionStore.view
  rw [hstatus]

/-- A day that was completed reads ever after as it was closed, whatever else is claimed, completed or left behind, and
no other session of the binding in that mode is ever for the day. -/
theorem day_settled (hrow : row ∈ (runFrom (PromotionStore.step isoformat digest) noSessions events).sessions)
    (hstatus : row.status = .complete) (more : List PromotionEvent) (today : Int) :
    ⟨row, row.evidence, []⟩ ∈ (runFrom (PromotionStore.step isoformat digest) noSessions (events ++ more)).timeline
      row.bindingId today ∧
    ∀ view ∈ (runFrom (PromotionStore.step isoformat digest) noSessions (events ++ more)).timeline row.bindingId today,
      view.session.mode = row.mode → view.session.exchangeDate = row.exchangeDate →
        view = ⟨row, row.evidence, []⟩ := by
  have hkept := kept_run hrow hstatus more
  constructor
  · refine List.mem_map.mpr ⟨row, (List.mem_insertionSort _).mpr ?_, view_complete _ today hstatus⟩
    exact List.mem_filter.mpr ⟨hkept, decide_eq_true rfl⟩
  · intro view hview hmode hdate
    obtain ⟨other, hother, rfl⟩ := List.mem_map.mp hview
    obtain ⟨hmem, hbinding⟩ := List.mem_filter.mp ((List.mem_insertionSort _).mp hother)
    have hsession : ∀ t : PromotionStore, (t.view today other).session = other := by
      intro t
      unfold PromotionStore.view
      cases other.status <;> rfl
    rw [hsession] at hmode hdate
    rw [(soundSessions_run isoformat digest (events ++ more)).days other hmem row hkept (of_decide_eq_true hbinding)
      hmode hdate]
    exact view_complete _ today hstatus

/-! Two days that are claimed and completed in both modes. -/

/-- An order of either day. -/
def dayOrder (createdAt : Instant) : PersistedOrder :=
  { sampleOrder .buy 1 with accountId := rowUuid 2, createdAt := createdAt }

def claimDay (id : UUID) (mode : PromotionMode) (exchangeDate : Int) : PromotionEvent :=
  .claim id (rowUuid 3) (rowUuid 2) (rowUuid 5) mode exchangeDate 0

def closeDay (id : UUID) : PromotionEvent := .complete id 172800000000 2

def sampleDays : List PromotionEvent :=
  [.work [⟨rowUuid 8, rowUuid 5, 10⟩, ⟨rowUuid 9, rowUuid 5, 86400000010⟩] [dayOrder 20, dayOrder 86400000020] [] [] [],
    claimDay (rowUuid 1) .shadow 0, claimDay (rowUuid 10) .shadow 1, claimDay (rowUuid 11) .paper 0,
    claimDay (rowUuid 12) .paper 1, closeDay (rowUuid 1), closeDay (rowUuid 10), closeDay (rowUuid 11),
    closeDay (rowUuid 12)]

def noText (_ : Int) : String := ""

def noHash (_ : SessionEvidence) : Digest := 0

theorem sampleDays_satisfied : ((runFrom (PromotionStore.step noText noHash) noSessions sampleDays).state (rowUuid 3)
    (rowUuid 5)).sessionsSatisfied = true := by
  decide +kernel

theorem sessions_earned_sample :
    (∀ more, ((runFrom (PromotionStore.step noText noHash) noSessions (sampleDays ++ more)).state (rowUuid 3)
      (rowUuid 5)).sessionsSatisfied = true) ∧
    ∀ mode, ∃ first second, first ≠ second ∧ Earned noText noHash (rowUuid 3) (rowUuid 5) mode first sampleDays ∧
      Earned noText noHash (rowUuid 3) (rowUuid 5) mode second sampleDays :=
  sessions_earned noText noHash sampleDays_satisfied

/-- The first day as it was closed. -/
def closedDay : PromotionSessionRow where
  id := rowUuid 1
  bindingId := rowUuid 3
  accountId := rowUuid 2
  manifestId := rowUuid 5
  mode := .shadow
  exchangeDate := 0
  status := .complete
  claimedAt := 0
  completedAt := some 172800000000
  evidence := ⟨1, 1, 0, 0, 0⟩
  evidenceDigest := some 0

theorem closedDay_mem : closedDay ∈ (runFrom (PromotionStore.step noText noHash) noSessions
    (sampleDays.take 6)).sessions :=
  List.mem_of_mem_head? rfl

theorem day_settled_sample :
    ⟨closedDay, closedDay.evidence, []⟩ ∈ (runFrom (PromotionStore.step noText noHash) noSessions
      (sampleDays.take 6 ++ sampleDays.drop 6)).timeline closedDay.bindingId 2 ∧
    ∀ view ∈ (runFrom (PromotionStore.step noText noHash) noSessions
      (sampleDays.take 6 ++ sampleDays.drop 6)).timeline closedDay.bindingId 2,
      view.session.mode = closedDay.mode → view.session.exchangeDate = closedDay.exchangeDate →
        view = ⟨closedDay, closedDay.evidence, []⟩ :=
  day_settled closedDay_mem rfl (sampleDays.drop 6) 2

end AutoTrader.Promotion
