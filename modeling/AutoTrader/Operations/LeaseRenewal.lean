import AutoTrader.Operations.LeaseSafety
import Mathlib.Tactic.Tauto

/-! Renewing the scheduler lease. Every acquisition raises the fencing token, the execution
account keeps the token of one of them, and dispatch compares the two: the account's
commands pass that comparison until its instance renews the lease once. -/

namespace AutoTrader.Operations

open AutoTrader.Domain AutoTrader.Execution AutoTrader.Dispatch AutoTrader.Runtime AutoTrader.Runtime.FencedLease

structure LeaseSettings where
  leaseName : String
  runtimeInstanceId : UUID
  ttl : Int
  ttl_pos : 0 < ttl

/-- `MySqlSchedulerLease.acquire`. -/
def LeaseSettings.acquire (settings : LeaseSettings) (moment : Instant) : LeaseCall :=
  .acquire settings.leaseName settings.runtimeInstanceId ⟨moment, .utc⟩ ⟨moment + settings.ttl, .utc⟩

/-- What the account hands to the commands it writes. -/
structure ExecutionAccount where
  runtimeInstanceId : UUID
  fencingToken : Nat
  fencingToken_pos : 0 < fencingToken

def ExecutionAccount.Wrote (account : ExecutionAccount) (row : PersistedOrderCommand) : Prop :=
  row.ownerRuntimeInstanceId = some account.runtimeInstanceId ∧ row.fencingToken = account.fencingToken

instance (account : ExecutionAccount) (row : PersistedOrderCommand) : Decidable (account.Wrote row) :=
  inferInstanceAs (Decidable (_ ∧ _))

variable {Key : Type} [DecidableEq Key] (collate : String → Key) (settings : LeaseSettings)

/-- The instance owns the named lease, and it still runs. -/
def Holding (w : World Key) (moment : Instant) : Prop :=
  ∃ lease ∈ w.tables.claim collate (collate settings.leaseName),
    lease.owner = some settings.runtimeInstanceId ∧ lease.Running moment

/-- The instance holds the lease when the call comes. -/
def Held (w : World Key) (call : LeaseCall) : Prop :=
  ∀ moment ∈ call.now.requireUtc.toOption, Holding collate settings w moment

instance (w : World Key) (moment : Instant) : Decidable (Holding collate settings w moment) :=
  inferInstanceAs (Decidable (∃ lease ∈ w.tables.claim collate (collate settings.leaseName),
    lease.owner = some settings.runtimeInstanceId ∧ lease.Running moment))

instance (w : World Key) (call : LeaseCall) : Decidable (Held collate settings w call) :=
  inferInstanceAs (Decidable (∀ moment ∈ call.now.requireUtc.toOption, Holding collate settings w moment))

/-- The call is an acquisition of the lease by the same instance, and is granted. -/
def Renews (w : World Key) : LeaseCall → Bool
  | .acquire leaseName id now leaseExpiresAt =>
    collate leaseName = collate settings.leaseName && id = settings.runtimeInstanceId &&
      (acquireNamedSchedulerLease collate w.tables leaseName id now leaseExpiresAt).toOption.any (·.2.isSome)
  | .release .. | .startExecutionControl .. => false

/-- The decision is one of the two mismatches with the lease. -/
def MismatchRefused (decision : GateDecision) : Prop :=
  "LEASE_OWNER_MISMATCH" ∈ decision.reasonCodes ∨ "LEASE_FENCING_MISMATCH" ∈ decision.reasonCodes

instance (decision : GateDecision) : Decidable (MismatchRefused decision) :=
  inferInstanceAs (Decidable (_ ∨ _))

/-- What dispatch decides about a command, on the leases of a world. -/
def dispatchDecision (w : World Key) (row : PersistedOrderCommand) (control : TradingControl)
    (blocking unknown : Nat) (moment : Instant) : GateDecision :=
  decideDispatch (authorizationState row (w.tables.leases.map (·.toSchedulerLease)) control blocking unknown moment)

/-- More than one lease has an owner, and dispatch reads none of them. -/
def SeveralOwned (w : World Key) : Prop :=
  1 < (w.tables.leases.filter (·.ownerRuntimeInstanceId.isSome)).length

variable {collate settings}

theorem Held.holding {w : World Key} {call : LeaseCall} (h : Held collate settings w call)
    (hnow : call.now.requireUtc = .ok call.now.instant) {lease : Lease UUID Instant}
    (hlease : w.tables.claim collate (collate settings.leaseName) = some lease) :
    lease.owner = some settings.runtimeInstanceId ∧ lease.Running call.now.instant := by
  have hmem : call.now.instant ∈ call.now.requireUtc.toOption := by
    rw [hnow]
    rfl
  obtain ⟨found, hfound, howner, hrunning⟩ := h _ hmem
  obtain rfl : lease = found := Option.some.inj (hlease.symm.trans hfound)
  exact ⟨howner, hrunning⟩

/-- While the lease is held its token only moves by a renewal. -/
theorem token_step {w : World Key} {call : LeaseCall} {lease : Lease UUID Instant}
    (hlease : w.tables.claim collate (collate settings.leaseName) = some lease)
    (hheld : Held collate settings w call) :
    ∃ after, (w.step collate call).tables.claim collate (collate settings.leaseName) = some after ∧
      after.token = lease.token + if Renews collate settings w call then 1 else 0 := by
  obtain ⟨htables, -⟩ := tick_keeps w call.now
  have hkeep : ∀ tables : RuntimeTables, tables.leases = w.tables.leases →
      tables.claim collate (collate settings.leaseName) = some lease := by
    intro tables hleases
    rw [claim_congr hleases]
    exact hlease
  cases call with
  | acquire leaseName id now leaseExpiresAt =>
    simp only [World.step, LeaseCall.now] at htables ⊢
    rw [htables]
    rcases hcall : acquireNamedSchedulerLease collate w.tables leaseName id now leaseExpiresAt with
      _ | ⟨t, _ | row⟩
    · exact ⟨lease, hkeep _ (by rw [htables]), by simp [Renews, hcall, Except.toOption]⟩
    · have hsame : t = w.tables := acquire_ok hcall
      exact ⟨lease, hkeep t (by rw [hsame]), by simp [Renews, hcall, Except.toOption]⟩
    · have htaken := acquire_ok hcall
      by_cases hname : collate settings.leaseName = collate leaseName
      · have hown := hheld.holding htaken.now_utc hlease
        have hid := htaken.free lease (hname ▸ hlease) hown.2
        obtain rfl : settings.runtimeInstanceId = id := Option.some.inj (hown.1.symm.trans hid)
        refine ⟨_, (htaken.claim _).trans (if_pos hname), ?_⟩
        rw [htaken.token_eq, ← hname, hlease]
        simp [Renews, hcall, hname, Except.toOption]
      · refine ⟨lease, ((htaken.claim _).trans (if_neg hname)).trans hlease, ?_⟩
        simp [Renews, Ne.symm hname]
  | release leaseName id fencingToken now =>
    simp only [World.step, LeaseCall.now] at htables ⊢
    rw [htables]
    rcases hcall : releaseNamedSchedulerLease collate w.tables leaseName id fencingToken now with
      _ | ⟨t, _ | _⟩
    · exact ⟨lease, hkeep _ (by rw [htables]), rfl⟩
    · have hsame : t = w.tables := release_ok hcall
      exact ⟨lease, hkeep t (by rw [hsame]), rfl⟩
    · obtain ⟨-, old, hold, -, -, hclaim⟩ := release_ok hcall
      by_cases hname : collate settings.leaseName = collate leaseName
      · refine ⟨_, (hclaim _).trans (if_pos hname), ?_⟩
        rw [← hname, hlease] at hold
        rw [Option.some.inj hold]
        rfl
      · exact ⟨lease, ((hclaim _).trans (if_neg hname)).trans hlease, rfl⟩
  | startExecutionControl id now leaseExpiresAt =>
    simp only [World.step, LeaseCall.now] at htables ⊢
    rw [htables]
    rcases hcall : Operations.startExecutionControl collate w.tables id now leaseExpiresAt with
      _ | ⟨t, _ | _⟩
    · exact ⟨lease, hkeep _ (by rw [htables]), rfl⟩
    · exact ⟨lease, hkeep t (startExecutionControl_ok hcall), rfl⟩
    · obtain ⟨⟨token, htaken⟩, hstopped⟩ := startExecutionControl_ok hcall
      by_cases hname : collate settings.leaseName = collate executionControl
      · have hown := hheld.holding htaken.now_utc hlease
        exact absurd hown.2 (hstopped lease (hname ▸ hlease))
      · exact ⟨lease, ((htaken.claim _).trans (if_neg hname)).trans hlease, rfl⟩

variable (collate settings) in
/-- How often the instance renewed the lease. -/
def renewals : World Key → List LeaseCall → Nat
  | _, [] => 0
  | w, call :: calls => (if Renews collate settings w call then 1 else 0) + renewals (w.step collate call) calls

theorem token_run {w : World Key} {calls : List LeaseCall} {lease : Lease UUID Instant}
    (hlease : w.tables.claim collate (collate settings.leaseName) = some lease)
    (hheld : RunMeets (World.step collate) (Held collate settings) w calls) :
    ∃ after, (runFrom (World.step collate) w calls).tables.claim collate (collate settings.leaseName) = some after ∧
      after.token = lease.token + renewals collate settings w calls := by
  induction calls generalizing w lease with
  | nil => exact ⟨lease, hlease, rfl⟩
  | cons call calls ih =>
    obtain ⟨next, hnext, htoken⟩ := token_step hlease hheld.1
    obtain ⟨after, hafter, hsum⟩ := ih hnext hheld.2
    refine ⟨after, hafter, ?_⟩
    rw [hsum, htoken, renewals]
    omega

theorem renewals_eq_zero {w : World Key} {calls : List LeaseCall} :
    renewals collate settings w calls = 0 ↔
      RunMeets (World.step collate) (fun w call => Renews collate settings w call = false) w calls := by
  induction calls generalizing w with
  | nil => exact iff_of_true rfl trivial
  | cons call calls ih =>
    rw [renewals, Nat.add_eq_zero_iff, ih, RunMeets]
    cases Renews collate settings w call <;> simp

/-! ### Dispatch -/

theorem heldLease_map (leases : List OpsSchedulerLease) :
    heldLease (leases.map (·.toSchedulerLease)) =
      match leases.filter (·.ownerRuntimeInstanceId.isSome) with
      | [lease] => some lease.toSchedulerLease
      | _ => none := by
  have hfilter : (leases.map (·.toSchedulerLease)).filter (·.ownerRuntimeInstanceId.isSome) =
      (leases.filter (·.ownerRuntimeInstanceId.isSome)).map (·.toSchedulerLease) := List.filter_map
  unfold heldLease
  rw [hfilter]
  rcases howned : leases.filter (·.ownerRuntimeInstanceId.isSome) with _ | ⟨_, _ | _⟩ <;> rw [howned] <;> rfl

omit [DecidableEq Key] in
theorem heldLease_several {w : World Key} (h : SeveralOwned w) :
    heldLease (w.tables.leases.map (·.toSchedulerLease)) = none := by
  unfold SeveralOwned at h
  rw [heldLease_map]
  rcases hfilter : w.tables.leases.filter (·.ownerRuntimeInstanceId.isSome) with _ | ⟨_, _ | _⟩
  · rw [hfilter]
  · simp [hfilter] at h
  · rw [hfilter]

omit [DecidableEq Key] in
theorem heldLease_one {w : World Key} (h : ¬ SeveralOwned w) {row : OpsSchedulerLease} (hrow : row ∈ w.tables.leases)
    (howned : row.ownerRuntimeInstanceId.isSome) :
    heldLease (w.tables.leases.map (·.toSchedulerLease)) = some row.toSchedulerLease := by
  have hmem : row ∈ w.tables.leases.filter (·.ownerRuntimeInstanceId.isSome) := List.mem_filter.mpr ⟨hrow, howned⟩
  unfold SeveralOwned at h
  rw [heldLease_map]
  rcases hfilter : w.tables.leases.filter (·.ownerRuntimeInstanceId.isSome) with _ | ⟨only, _ | _⟩
  · rw [hfilter] at hmem
    cases hmem
  · rw [hfilter] at hmem ⊢
    rw [List.mem_singleton.mp hmem]
  · simp [hfilter] at h

/-- The control's checks have reason codes of their own. -/
theorem controlFailure_code {state : DispatchAuthorizationState} {code : String} (h : controlFailure state = some code) :
    code ≠ "LEASE_OWNER_MISMATCH" ∧ code ≠ "LEASE_FENCING_MISMATCH" := by
  unfold controlFailure at h
  repeat' split at h
  all_goals
    first
    | (cases h; decide)
    | cases h

/-- A command whose owner holds the lease is refused for a mismatch when the tokens differ and
no earlier check refused it. -/
theorem mismatchRefused_iff {state : DispatchAuthorizationState} {owner : UUID} {expiresAt : Instant} {token : Nat}
    (howner : state.leaseOwner = some owner) (hexpires : state.leaseExpiresAt = some expiresAt)
    (htoken : state.leaseFencingToken = some token) (hrunning : state.now < expiresAt)
    (hcommand : state.commandOwner = some owner) :
    MismatchRefused (decideDispatch state) ↔
      token ≠ state.commandFencingToken ∧ state.attemptRecorded = false ∧ state.now < state.notAfter := by
  have hlease : leaseFailure state =
      if token ≠ state.commandFencingToken then some "LEASE_FENCING_MISMATCH" else none := by
    simp [leaseFailure, howner, hexpires, htoken, hcommand, hrunning.not_ge]
  have hcontrol : ∀ code, controlFailure state = some code →
      code ≠ "LEASE_OWNER_MISMATCH" ∧ code ≠ "LEASE_FENCING_MISMATCH" := fun _ => controlFailure_code
  unfold MismatchRefused
  rw [decideDispatch_reasonCodes]
  unfold dispatchRefusal
  rw [hlease]
  by_cases hattempt : state.attemptRecorded = true
  · simp [hattempt]
  · by_cases hlate : state.notAfter ≤ state.now
    · simp [hattempt, hlate]
    · by_cases htokens : token = state.commandFencingToken
      · cases hcode : controlFailure state with
        | none => simp [hattempt, hlate, htokens]
        | some code =>
          obtain ⟨howner, hfencing⟩ := hcontrol code hcode
          simp [hattempt, hlate, htokens, howner, hfencing]
      · simp [hattempt, hlate, htokens, not_le.mp hlate]

/-- The owned row of the name is the lease dispatch reads, unless there are several. -/
theorem mismatchRefused_dispatch {w : World Key} {row : PersistedOrderCommand} {control : TradingControl}
    {blocking unknown : Nat} {moment : Instant} {lease : Lease UUID Instant}
    (hlease : w.tables.claim collate (collate settings.leaseName) = some lease)
    (howner : lease.owner = row.ownerRuntimeInstanceId) (howned : lease.owner.isSome) (hrunning : lease.Running moment) :
    MismatchRefused (dispatchDecision w row control blocking unknown moment) ↔
      lease.token ≠ row.fencingToken ∧ row.dispatchAttemptedAt = none ∧ moment < row.notAfter ∧ ¬ SeveralOwned w := by
  obtain ⟨stored, hstored, rfl⟩ := Option.map_eq_some_iff.mp hlease
  obtain ⟨expiresAt, hexpires, hlater⟩ := hrunning
  obtain ⟨owner, hsome⟩ := Option.isSome_iff_exists.mp howned
  unfold dispatchDecision
  by_cases hseveral : SeveralOwned w
  · have hnone := heldLease_several hseveral
    refine iff_of_false ?_ fun h => h.2.2.2 hseveral
    unfold MismatchRefused
    rw [decideDispatch_reasonCodes]
    unfold dispatchRefusal
    simp only [authorizationState, hnone, leaseFailure, Option.bind_none, Option.map_none, Option.some_or]
    split
    · simp
    · split <;> simp
  · have hmem : stored ∈ w.tables.leases := List.mem_of_find?_eq_some hstored
    have hone := heldLease_one hseveral hmem howned
    set state := authorizationState row (w.tables.leases.map (·.toSchedulerLease)) control blocking unknown moment with hstate
    have hheldOwner : state.leaseOwner = some owner := by
      simp only [hstate, authorizationState, hone]
      exact hsome
    have hheldUntil : state.leaseExpiresAt = some expiresAt := by
      simp only [hstate, authorizationState, hone]
      exact hexpires
    have hheldToken : state.leaseFencingToken = some stored.fencingToken := by
      simp only [hstate, authorizationState, hone]
      rfl
    rw [mismatchRefused_iff hheldOwner hheldUntil hheldToken hlater (howner.symm.trans hsome), hstate]
    simp [authorizationState, hseveral, OpsSchedulerLease.claim]

/-- With the token of one acquisition, the commands of an account pass the lease's checks for as
long as its instance holds the lease, exactly when it never renews it before the dispatch. -/
theorem renewal_keeps_authority_iff {w₀ : World Key} {settings : LeaseSettings} {account : ExecutionAccount}
    {acquiredAt : Instant} {t : RuntimeTables} {lease : OpsSchedulerLease} {calls : List LeaseCall}
    {moment : Instant} {row : PersistedOrderCommand} (control : TradingControl) (blocking unknown : Nat)
    (hacquired : acquireNamedSchedulerLease collate w₀.tables settings.leaseName settings.runtimeInstanceId
      ⟨acquiredAt, .utc⟩ ⟨acquiredAt + settings.ttl, .utc⟩ = .ok (t, some lease))
    (howner : account.runtimeInstanceId = settings.runtimeInstanceId)
    (htoken : account.fencingToken = lease.fencingToken)
    (hheld : RunMeets (World.step collate) (Held collate settings)
      (w₀.step collate (settings.acquire acquiredAt)) calls)
    (hholding : Holding collate settings
      (runFrom (World.step collate) (w₀.step collate (settings.acquire acquiredAt)) calls) moment)
    (hwrote : account.Wrote row) :
    ¬ MismatchRefused (dispatchDecision
        (runFrom (World.step collate) (w₀.step collate (settings.acquire acquiredAt)) calls)
        row control blocking unknown moment) ↔
      RunMeets (World.step collate) (fun w call => Renews collate settings w call = false)
        (w₀.step collate (settings.acquire acquiredAt)) calls ∨
      row.dispatchAttemptedAt.isSome ∨ row.notAfter ≤ moment ∨
      SeveralOwned (runFrom (World.step collate) (w₀.step collate (settings.acquire acquiredAt)) calls) := by
  have htaken := acquire_ok hacquired
  have hstart : (w₀.step collate (settings.acquire acquiredAt)).tables.claim collate (collate settings.leaseName) =
      some ⟨some settings.runtimeInstanceId, some (acquiredAt + settings.ttl), lease.fencingToken⟩ := by
    have htables : (w₀.tick ⟨acquiredAt, .utc⟩).tables = w₀.tables := (tick_keeps w₀ _).1
    simp only [World.step, LeaseSettings.acquire, LeaseCall.now, htables, hacquired]
    exact (htaken.claim _).trans (if_pos rfl)
  obtain ⟨after, hafter, hsum⟩ := token_run hstart hheld
  obtain ⟨held, hheldNow, hme, hrunning⟩ := hholding
  obtain rfl : after = held := Option.some.inj (hafter.symm.trans hheldNow)
  have hrowOwner : after.owner = row.ownerRuntimeInstanceId := by rw [hme, hwrote.1, howner]
  have hrowToken : after.token = row.fencingToken ↔ renewals collate settings
      (w₀.step collate (settings.acquire acquiredAt)) calls = 0 := by
    rw [hsum, hwrote.2, htoken]
    exact Nat.add_eq_left
  rw [mismatchRefused_dispatch hafter hrowOwner (by rw [hme]; rfl) hrunning, ← renewals_eq_zero, ← hrowToken]
  have hlate : row.notAfter ≤ moment ↔ ¬ moment < row.notAfter := not_lt.symm
  rw [hlate]
  cases row.dispatchAttemptedAt with
  | some _ => exact iff_of_true (fun h => by cases h.2.1) (.inr (.inl rfl))
  | none =>
    simp only [true_and, Option.isSome_none, Bool.false_eq_true, false_or]
    tauto

/-! ### A renewal between the copy and the dispatch -/

def sampleSettings : LeaseSettings := ⟨"live", sampleId 1, 60000000, by decide⟩

def sampleAccount : ExecutionAccount := ⟨sampleId 1, 1, by decide⟩

/-- The instance renews the lease half a minute after it took it. -/
def sampleRenewal : List LeaseCall := [sampleSettings.acquire 30000000]

def sampleStart : World String := World.start id ⟨[], [], [], []⟩ 0

theorem sampleStart_acquires : ∃ t lease, lease.fencingToken = sampleAccount.fencingToken ∧
    acquireNamedSchedulerLease id sampleStart.tables sampleSettings.leaseName sampleSettings.runtimeInstanceId
      ⟨0, .utc⟩ ⟨0 + sampleSettings.ttl, .utc⟩ = .ok (t, some lease) :=
  ⟨_, _, rfl, rfl⟩

def sampleControl : TradingControl := ⟨true, .none, some (sampleId 1), some 0, some 2000000000, 1, 1⟩

theorem renewal_keeps_authority_iff_unrenewed :
    ¬ MismatchRefused (dispatchDecision (sampleStart.step id (sampleSettings.acquire 0))
      (sampleRow .submit .submitNewExposure rfl) sampleControl 0 0 40000000) := by
  obtain ⟨t, lease, htoken, hacquired⟩ := sampleStart_acquires
  have hheld : RunMeets (World.step id) (Held id sampleSettings) (sampleStart.step id (sampleSettings.acquire 0)) [] := trivial
  have hwrote : sampleAccount.Wrote (sampleRow .submit .submitNewExposure rfl) := ⟨rfl, rfl⟩
  exact (renewal_keeps_authority_iff sampleControl 0 0 hacquired rfl htoken.symm hheld (by decide +kernel) hwrote).mpr
    (.inl trivial)

theorem renewal_keeps_authority_fails :
    let acquired := sampleStart.step id (sampleSettings.acquire 0)
    let row := sampleRow .submit .submitNewExposure rfl
    ((acquired.history "live").granted.map (·.token) = [sampleAccount.fencingToken] ∧
      RunMeets (World.step id) (Held id sampleSettings) acquired sampleRenewal ∧
      Holding id sampleSettings (runFrom (World.step id) acquired sampleRenewal) 40000000 ∧
      sampleAccount.Wrote row) ∧
      MismatchRefused (dispatchDecision (runFrom (World.step id) acquired sampleRenewal) row sampleControl 0 0
        40000000) := by
  decide +kernel

end AutoTrader.Operations
