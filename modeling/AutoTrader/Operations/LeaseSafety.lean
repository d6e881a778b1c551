import AutoTrader.Dispatch.System
import AutoTrader.Operations.RuntimeControl
import AutoTrader.Runtime.FencedLease
import AutoTrader.Runtime.Runs

/-! Lease safety. Each call moves one row the way a fenced lease moves and leaves the others
alone, so over every sequence of calls a name has one owner at a time and a token one
owner for good. -/

namespace AutoTrader.Operations

open AutoTrader.Domain AutoTrader.Runtime AutoTrader.Runtime.FencedLease

variable {Key : Type} [DecidableEq Key] (collate : String → Key)

def OpsSchedulerLease.claim (row : OpsSchedulerLease) : Lease UUID Instant where
  owner := row.ownerRuntimeInstanceId
  expiresAt := row.expiresAt
  token := row.fencingToken

/-- What the row under a key says. -/
def RuntimeTables.claim (t : RuntimeTables) (key : Key) : Option (Lease UUID Instant) :=
  (Rows.lookup (fun row => collate row.leaseName) t.leases key).map OpsSchedulerLease.claim

/-! ### Calls -/

inductive LeaseCall
  | acquire (leaseName : String) (runtimeInstanceId : UUID) (now leaseExpiresAt : DateTime)
  | release (leaseName : String) (runtimeInstanceId : UUID) (fencingToken : Nat) (now : DateTime)
  | startExecutionControl (runtimeInstanceId : UUID) (now leaseExpiresAt : DateTime)

def LeaseCall.now : LeaseCall → DateTime
  | .acquire _ _ now _ | .release _ _ _ now | .startExecutionControl _ now _ => now

/-- The tables, the time of the latest call, and what the instances were granted. -/
structure World (Key : Type) where
  tables : RuntimeTables
  clock : Instant
  history : Key → History UUID Instant

namespace World

def start (tables : RuntimeTables) (clock : Instant) : World Key where
  tables := tables
  clock := clock
  history key := History.ofLease (tables.claim collate key)

def write (w : World Key) (tables : RuntimeTables) (key : Key)
    (record : History UUID Instant → History UUID Instant) : World Key where
  tables := tables
  clock := w.clock
  history := Function.update w.history key (record (w.history key))

def tick (w : World Key) (now : DateTime) : World Key :=
  match now.requireUtc with
  | .ok moment => { w with clock := moment }
  | .error _ => w

/-- One call. An exception rolls its transaction back. -/
def step (w : World Key) (call : LeaseCall) : World Key :=
  let w := w.tick call.now
  match call with
  | .acquire leaseName id now leaseExpiresAt =>
    match acquireNamedSchedulerLease collate w.tables leaseName id now leaseExpiresAt with
    | .ok (t, some lease) =>
      w.write t (collate leaseName) (·.grant ⟨id, leaseExpiresAt.instant, lease.fencingToken⟩)
    | .ok (t, none) => { w with tables := t }
    | .error _ => w
  | .release leaseName id fencingToken now =>
    match releaseNamedSchedulerLease collate w.tables leaseName id fencingToken now with
    | .ok (t, true) => w.write t (collate leaseName) (·.release id)
    | .ok (t, false) => { w with tables := t }
    | .error _ => w
  | .startExecutionControl id now leaseExpiresAt =>
    match Operations.startExecutionControl collate w.tables id now leaseExpiresAt with
    | .ok (t, true) =>
      let token := ((t.lease? collate executionControl).map (·.fencingToken)).getD 0
      w.write t (collate executionControl) (·.grant ⟨id, leaseExpiresAt.instant, token⟩)
    | .ok (t, false) => { w with tables := t }
    | .error _ => w

end World

/-- The calls come at times that do not go back. -/
def Forward (w : World Key) (call : LeaseCall) : Prop :=
  ∀ moment ∈ call.now.requireUtc.toOption, w.clock ≤ moment

instance (w : World Key) (call : LeaseCall) : Decidable (Forward w call) :=
  inferInstanceAs (Decidable (∀ moment ∈ call.now.requireUtc.toOption, w.clock ≤ moment))

/-- What the leases of a world promise: one owner at a time, tokens that grow and name one
owner, and releases that only the latest grant can make. -/
structure LeaseSafe (collate : String → Key) (w : World Key) : Prop where
  exclusive : ∀ leaseName moment, w.clock ≤ moment → ∀ a ∈ (w.history (collate leaseName)).held,
    ∀ b ∈ (w.history (collate leaseName)).held, moment < a.expiresAt → moment < b.expiresAt → a.owner = b.owner
  increasing : ∀ leaseName, (w.history (collate leaseName)).granted.Pairwise fun newer older =>
    older.token < newer.token
  token_owner : ∀ leaseName, ∀ a ∈ (w.history (collate leaseName)).granted,
    ∀ b ∈ (w.history (collate leaseName)).granted, a.token = b.token → a.owner = b.owner
  stale : ∀ leaseName, ∀ grant ∈ (w.history (collate leaseName)).granted.head?, ∀ id token now,
    id ≠ grant.owner ∨ token ≠ grant.token →
      releaseNamedSchedulerLease collate w.tables leaseName id token now = .ok (w.tables, false)
  refused : ∀ leaseName id token now,
    (∀ row, w.tables.lease? collate leaseName = some row →
      row.ownerRuntimeInstanceId ≠ some id ∨ row.fencingToken ≠ token) →
      releaseNamedSchedulerLease collate w.tables leaseName id token now = .ok (w.tables, false)

/-! ### What the calls do to the rows -/

theorem requireUtc_ok {value : DateTime} {moment : Instant} :
    value.requireUtc = .ok moment ↔ value.zone ≠ .naive ∧ value.instant = moment := by
  unfold DateTime.requireUtc
  cases value.zone <;> simp

theorem tick_clock {Key : Type} {w : World Key} {now : DateTime} (h : now.requireUtc = .ok now.instant) :
    w.tick now = { w with clock := now.instant } := by
  unfold World.tick
  rw [h]

theorem tick_keeps {Key : Type} (w : World Key) (now : DateTime) :
    (w.tick now).tables = w.tables ∧ (w.tick now).history = w.history := by
  unfold World.tick
  cases now.requireUtc <;> exact ⟨rfl, rfl⟩

variable {collate} {t t' : RuntimeTables}

theorem runs_ok {lease : OpsSchedulerLease} {now : DateTime} {running : Bool} {moment : Instant}
    (h : lease.runs now = .ok running) (hnow : now.requireUtc = .ok moment) :
    running = true ↔ lease.claim.Running moment := by
  obtain ⟨hzone, rfl⟩ := requireUtc_ok.mp hnow
  unfold OpsSchedulerLease.runs at h
  cases hexpires : lease.expiresAt with
  | none =>
    rw [hexpires] at h
    cases h
    simp [Lease.Running, OpsSchedulerLease.claim, hexpires]
  | some expiresAt =>
    rw [hexpires] at h
    have hcompare : atMost ⟨expiresAt, .utc⟩ now = .ok (decide (expiresAt ≤ now.instant)) := by
      unfold atMost
      cases hz : now.zone <;> simp_all
    simp only [hcompare] at h
    cases h
    simp [Lease.Running, OpsSchedulerLease.claim, hexpires]

theorem claim_add (row : OpsSchedulerLease) (habsent : t.claim collate (collate row.leaseName) = none)
    (other : Key) :
    ({ t with leases := t.leases ++ [row] } : RuntimeTables).claim collate other =
      if other = collate row.leaseName then some row.claim else t.claim collate other := by
  have hlookup : t.lease? collate row.leaseName = none := Option.map_eq_none_iff.mp habsent
  unfold RuntimeTables.lease? at hlookup
  have hlookup := Rows.lookup_add hlookup other
  unfold RuntimeTables.claim
  rw [hlookup]
  split <;> rfl

theorem claim_write {row old : OpsSchedulerLease} (hold : t.lease? collate row.leaseName = some old) (other : Key) :
    (t.writeLease collate row).claim collate other =
      if other = collate row.leaseName then some row.claim else t.claim collate other := by
  have hlookup := @Rows.lookup_put _ _ _ (fun row : OpsSchedulerLease => collate row.leaseName) t.leases row other
  unfold RuntimeTables.claim RuntimeTables.writeLease
  rw [hlookup, Option.map_map]
  by_cases hother : other = collate row.leaseName
  · have hfound : Rows.lookup (fun row : OpsSchedulerLease => collate row.leaseName) t.leases other = some old := by
      rw [hother]
      exact hold
    rw [hfound, if_pos hother, Option.map_some, Function.comp_apply, if_pos hother]
  · rw [if_neg hother]
    congr 1
    funext row
    rw [Function.comp_apply, if_neg hother]

theorem claim_eq (t : RuntimeTables) (leaseName : String) :
    t.claim collate (collate leaseName) = (t.lease? collate leaseName).map OpsSchedulerLease.claim := rfl

/-- A row of the name was created or taken over: it was free for the owner, and its token is the
next one. -/
structure Taken (collate : String → Key) (t t' : RuntimeTables) (key : Key) (owner : UUID)
    (now expiresAt : DateTime) (token : Nat) : Prop where
  now_utc : now.requireUtc = .ok now.instant
  claim : ∀ other, t'.claim collate other =
    if other = key then some ⟨some owner, some expiresAt.instant, token⟩ else t.claim collate other
  free : ∀ old, t.claim collate key = some old → old.Running now.instant → old.owner = some owner
  token_eq : token = ((t.claim collate key).map (·.token)).getD 0 + 1

theorem bindUuid_ok {id bound : UUID} (h : bindUuid id = .ok bound) : bound = id := by
  unfold bindUuid at h
  split at h
  · cases h
    rfl
  · cases h

theorem increment_ok {n next : Nat} (h : increment n = .ok next) : next = n + 1 := by
  unfold increment at h
  split at h
  · cases h
    rfl
  · cases h

theorem create_ok {leaseName : String} {owner : UUID} {now expiresAt : DateTime} {row : OpsSchedulerLease}
    (h : OpsSchedulerLease.create leaseName owner now expiresAt = .ok row) :
    now.requireUtc = .ok now.instant ∧ row.leaseName = leaseName ∧
      row.claim = ⟨some owner, some expiresAt.instant, 1⟩ := by
  obtain ⟨bound, hbound, h⟩ := bind_ok.mp h
  obtain ⟨moment, hnow, h⟩ := bind_ok.mp h
  obtain ⟨expires, hexpires, h⟩ := bind_ok.mp h
  obtain rfl := bindUuid_ok hbound
  obtain ⟨hzone, rfl⟩ := requireUtc_ok.mp hnow
  obtain ⟨-, rfl⟩ := requireUtc_ok.mp hexpires
  cases h
  exact ⟨hnow, rfl, rfl⟩

theorem take_ok {lease row : OpsSchedulerLease} {owner : UUID} {now expiresAt : DateTime}
    (h : lease.take owner now expiresAt = .ok row) :
    now.requireUtc = .ok now.instant ∧ row.leaseName = lease.leaseName ∧
      row.claim = ⟨some owner, some expiresAt.instant, lease.fencingToken + 1⟩ := by
  obtain ⟨bound, hbound, h⟩ := bind_ok.mp h
  obtain ⟨moment, hnow, h⟩ := bind_ok.mp h
  obtain ⟨expires, hexpires, h⟩ := bind_ok.mp h
  obtain ⟨token, htoken, h⟩ := bind_ok.mp h
  obtain ⟨version, hversion, h⟩ := bind_ok.mp h
  obtain rfl := bindUuid_ok hbound
  obtain ⟨hzone, rfl⟩ := requireUtc_ok.mp hnow
  obtain ⟨-, rfl⟩ := requireUtc_ok.mp hexpires
  obtain rfl := increment_ok htoken
  cases h
  exact ⟨hnow, rfl, rfl⟩

theorem lease?_name {leaseName : String} {row : OpsSchedulerLease} (h : t.lease? collate leaseName = some row) :
    collate row.leaseName = collate leaseName :=
  @Rows.lookup_key _ _ _ (fun row : OpsSchedulerLease => collate row.leaseName) _ _ _ h

/-- A created row, given that there was none. -/
theorem Taken.of_create {leaseName : String} {owner : UUID} {now expiresAt : DateTime} {row : OpsSchedulerLease}
    (habsent : t.lease? collate leaseName = none)
    (h : OpsSchedulerLease.create leaseName owner now expiresAt = .ok row) :
    Taken collate t { t with leases := t.leases ++ [row] } (collate leaseName) owner now expiresAt row.fencingToken := by
  obtain ⟨hnow, rfl, hclaim⟩ := create_ok h
  have hnone : t.claim collate (collate row.leaseName) = none := by rw [claim_eq, habsent]; rfl
  have htoken : row.fencingToken = 1 := congrArg Lease.token hclaim
  constructor
  · exact hnow
  · intro other
    rw [claim_add row hnone, hclaim, htoken]
  · intro old hold
    rw [hnone] at hold
    cases hold
  · rw [hnone, htoken]
    rfl

/-- A row taken over or renewed. -/
theorem Taken.of_take {leaseName : String} {owner : UUID} {now expiresAt : DateTime} {old row : OpsSchedulerLease}
    (hold : t.lease? collate leaseName = some old)
    (hfree : old.claim.Running now.instant → old.ownerRuntimeInstanceId = some owner)
    (h : old.take owner now expiresAt = .ok row) :
    Taken collate t (t.writeLease collate row) (collate leaseName) owner now expiresAt row.fencingToken := by
  obtain ⟨hnow, hname, hclaim⟩ := take_ok h
  have hkey : collate row.leaseName = collate leaseName := by rw [hname, lease?_name hold]
  have hsame : t.lease? collate row.leaseName = some old := by
    unfold RuntimeTables.lease? at hold ⊢
    rw [hkey]
    exact hold
  have hbefore : t.claim collate (collate leaseName) = some old.claim := by rw [claim_eq, hold]; rfl
  have htoken : row.fencingToken = old.fencingToken + 1 := congrArg Lease.token hclaim
  constructor
  · exact hnow
  · intro other
    rw [claim_write hsame, hkey, hclaim, htoken]
  · intro lease hlease hrunning
    obtain rfl := Option.some.inj (hbefore.symm.trans hlease)
    exact hfree hrunning
  · rw [hbefore, htoken]
    rfl

/-- An acquisition that is answered with a lease took it; any other leaves the tables alone. -/
theorem acquire_ok {leaseName : String} {id : UUID} {now leaseExpiresAt : DateTime} {answer : Option OpsSchedulerLease}
    (h : acquireNamedSchedulerLease collate t leaseName id now leaseExpiresAt = .ok (t', answer)) :
    match answer with
    | none => t' = t
    | some lease => Taken collate t t' (collate leaseName) id now leaseExpiresAt lease.fencingToken := by
  unfold acquireNamedSchedulerLease at h
  split at h
  · cases h
  obtain ⟨late, -, h⟩ := bind_ok.mp h
  split at h
  · cases h
  split at h
  · rename_i hnone
    obtain ⟨row, hcreate, h⟩ := bind_ok.mp h
    cases h
    exact Taken.of_create hnone hcreate
  · rename_i old hold
    obtain ⟨running, hruns, h⟩ := bind_ok.mp h
    split at h
    · cases h
      rfl
    · rename_i hfree
      obtain ⟨row, htake, h⟩ := bind_ok.mp h
      cases h
      refine Taken.of_take hold (fun hrunning => ?_) htake
      have htrue := (runs_ok hruns (take_ok htake).1).mpr hrunning
      simpa [htrue] using hfree

theorem disarm_leases {owner : UUID} {now expiresAt : DateTime} {token : Nat}
    (h : t.disarm collate owner now expiresAt token = .ok t') : t'.leases = t.leases := by
  unfold RuntimeTables.disarm at h
  split at h
  · cases h
    rfl
  · obtain ⟨_, -, h⟩ := bind_ok.mp h
    obtain ⟨_, -, h⟩ := bind_ok.mp h
    obtain ⟨_, -, h⟩ := bind_ok.mp h
    split at h
    · cases h
    · cases h
      rfl

theorem addInstance_leases {id : UUID} {now : DateTime} (h : t.addInstance id now = .ok t') :
    t'.leases = t.leases := by
  unfold RuntimeTables.addInstance at h
  obtain ⟨_, -, h⟩ := bind_ok.mp h
  obtain ⟨_, -, h⟩ := bind_ok.mp h
  split at h
  · cases h
  · cases h
    rfl

theorem claim_congr (h : t'.leases = t.leases) (key : Key) : t'.claim collate key = t.claim collate key := by
  unfold RuntimeTables.claim
  rw [h]

theorem Taken.congr {key : Key} {owner : UUID} {now expiresAt : DateTime} {token : Nat}
    {t₀ t₁ : RuntimeTables} (h : Taken collate t t' key owner now expiresAt token) (hbefore : t.leases = t₀.leases)
    (hafter : t₁.leases = t'.leases) : Taken collate t₀ t₁ key owner now expiresAt token where
  now_utc := h.now_utc
  claim other := by rw [claim_congr hafter, h.claim, claim_congr hbefore]
  free old := by
    rw [← claim_congr hbefore]
    exact h.free old
  token_eq := by rw [← claim_congr hbefore, ← h.token_eq]

/-- The token a row of the name carries after it was taken. -/
theorem Taken.fencingToken {leaseName : String} {owner : UUID} {now expiresAt : DateTime} {token : Nat}
    (h : Taken collate t t' (collate leaseName) owner now expiresAt token) :
    ((t'.lease? collate leaseName).map (·.fencingToken)).getD 0 = token := by
  have hclaim := (h.claim (collate leaseName)).trans (if_pos rfl)
  rw [claim_eq] at hclaim
  obtain ⟨row, hrow, hrowClaim⟩ := Option.map_eq_some_iff.mp hclaim
  rw [hrow]
  exact congrArg Lease.token hrowClaim

theorem startExecutionControl_ok {id : UUID} {now leaseExpiresAt : DateTime} {started : Bool}
    (h : startExecutionControl collate t id now leaseExpiresAt = .ok (t', started)) :
    if started then (∃ token, Taken collate t t' (collate executionControl) id now leaseExpiresAt token) ∧
      ∀ old, t.claim collate (collate executionControl) = some old → ¬ old.Running now.instant
    else t'.leases = t.leases := by
  unfold startExecutionControl at h
  obtain ⟨late, -, h⟩ := bind_ok.mp h
  split at h
  · cases h
  obtain ⟨t₁, hinstance, h⟩ := bind_ok.mp h
  have hleases := addInstance_leases hinstance
  split at h
  · rename_i hnone
    obtain ⟨row, hcreate, h⟩ := bind_ok.mp h
    cases h
    have htaken := (Taken.of_create hnone hcreate).congr hleases rfl
    have hbefore : t.claim collate (collate executionControl) = none := by
      rw [← claim_congr hleases, claim_eq, hnone]
      rfl
    refine ⟨⟨row.fencingToken, htaken⟩, fun old hold => ?_⟩
    rw [hbefore] at hold
    cases hold
  · rename_i old hold
    obtain ⟨running, hruns, h⟩ := bind_ok.mp h
    split at h
    · cases h
      exact hleases
    · rename_i hfree
      obtain ⟨row, htake, h⟩ := bind_ok.mp h
      obtain ⟨t₂, hdisarm, h⟩ := bind_ok.mp h
      cases h
      have hstopped : ¬ old.claim.Running now.instant := fun hrunning =>
        hfree ((runs_ok hruns (take_ok htake).1).mpr hrunning)
      have htaken := (Taken.of_take hold (fun hrunning => absurd hrunning hstopped) htake).congr hleases
        (disarm_leases hdisarm)
      refine ⟨⟨row.fencingToken, htaken⟩, fun lease hlease => ?_⟩
      rw [← claim_congr hleases, claim_eq, hold] at hlease
      obtain rfl : old.claim = lease := Option.some.inj hlease
      exact hstopped

/-- A release that is answered `True` named the owner and the token of the row; any other leaves
the tables alone. -/
theorem release_ok {leaseName : String} {id : UUID} {token : Nat} {now : DateTime} {released : Bool}
    (h : releaseNamedSchedulerLease collate t leaseName id token now = .ok (t', released)) :
    if released then
      now.requireUtc = .ok now.instant ∧
        ∃ old, t.claim collate (collate leaseName) = some old ∧ old.owner = some id ∧ old.token = token ∧
          ∀ other, t'.claim collate other =
            if other = collate leaseName then some ⟨none, some now.instant, old.token⟩ else t.claim collate other
    else t' = t := by
  unfold releaseNamedSchedulerLease at h
  split at h
  · cases h
    rfl
  · rename_i old hold
    split at h
    · cases h
      rfl
    · rename_i hmatch
      push Not at hmatch
      obtain ⟨row, hfree, h⟩ := bind_ok.mp h
      obtain ⟨expiresAt, hnow, hfree⟩ := bind_ok.mp hfree
      obtain ⟨version, -, hfree⟩ := bind_ok.mp hfree
      obtain ⟨-, rfl⟩ := requireUtc_ok.mp hnow
      cases hfree
      cases h
      refine ⟨hnow, old.claim, by rw [claim_eq, hold]; rfl, hmatch.1, hmatch.2, fun other => ?_⟩
      have hkey := lease?_name hold
      have hsame : t.lease? collate old.leaseName = some old := by
        unfold RuntimeTables.lease? at hold ⊢
        rw [hkey]
        exact hold
      let freed : OpsSchedulerLease := { old with
        ownerRuntimeInstanceId := none, acquiredAt := none, expiresAt := some now.instant, rowVersion := version }
      have hfreed : t.lease? collate freed.leaseName = some old := hsame
      rw [claim_write hfreed other, show collate freed.leaseName = collate leaseName from hkey]
      rfl

/-! ### One call -/

/-- A taken row moves as a lease does, and the history with it. -/
theorem Taken.moves {key : Key} {owner : UUID} {now expiresAt : DateTime} {token : Nat}
    (h : Taken collate t t' key owner now expiresAt token) (history : Key → History UUID Instant) (other : Key) :
    Moves now.instant (t.claim collate other) (history other) (t'.claim collate other)
      (Function.update history key ((history key).grant ⟨owner, expiresAt.instant, token⟩) other) := by
  rw [h.claim]
  by_cases hother : other = key
  · subst hother
    rw [if_pos rfl, Function.update_self]
    cases hclaim : t.claim collate other with
    | none => exact .create _ owner expiresAt.instant token
    | some old =>
      have htoken : token = old.token + 1 := by rw [h.token_eq, hclaim]; rfl
      rw [htoken]
      exact .acquire old _ owner expiresAt.instant (h.free old hclaim)
  · rw [if_neg hother, Function.update_of_ne hother]
    exact .keep _ _

theorem World.step_moves (w : World Key) (call : LeaseCall) (key : Key) :
    Moves (w.step collate call).clock (w.tables.claim collate key) (w.history key)
      ((w.step collate call).tables.claim collate key) ((w.step collate call).history key) := by
  obtain ⟨htables, hhistory⟩ := tick_keeps w call.now
  have hkeep : ∀ tables : RuntimeTables, tables.leases = w.tables.leases → ∀ clock,
      Moves clock (w.tables.claim collate key) (w.history key) (tables.claim collate key) (w.history key) := by
    intro tables hleases clock
    rw [claim_congr hleases]
    exact .keep _ _
  cases call with
  | acquire leaseName id now leaseExpiresAt =>
    simp only [World.step, LeaseCall.now] at htables hhistory ⊢
    rw [htables]
    rcases hcall : acquireNamedSchedulerLease collate w.tables leaseName id now leaseExpiresAt with
      _ | ⟨t, _ | lease⟩
    · rw [htables, hhistory]
      exact hkeep _ rfl _
    · have hsame : t = w.tables := acquire_ok hcall
      rw [hhistory, hsame]
      exact hkeep _ rfl _
    · have htaken := acquire_ok hcall
      rw [tick_clock htaken.now_utc]
      exact htaken.moves w.history key
  | release leaseName id fencingToken now =>
    simp only [World.step, LeaseCall.now] at htables hhistory ⊢
    rw [htables]
    rcases hcall : releaseNamedSchedulerLease collate w.tables leaseName id fencingToken now with
      _ | ⟨t, _ | _⟩
    · rw [htables, hhistory]
      exact hkeep _ rfl _
    · have hsame : t = w.tables := release_ok hcall
      rw [hhistory, hsame]
      exact hkeep _ rfl _
    · obtain ⟨hnow, old, hold, howner, -, hclaim⟩ := release_ok hcall
      rw [tick_clock hnow]
      simp only [World.write]
      rw [hclaim]
      by_cases hkey : key = collate leaseName
      · rw [if_pos hkey, hkey, Function.update_self, hold]
        exact .release old _ id howner
      · rw [if_neg hkey, Function.update_of_ne hkey]
        exact .keep _ _
  | startExecutionControl id now leaseExpiresAt =>
    simp only [World.step, LeaseCall.now] at htables hhistory ⊢
    rw [htables]
    rcases hcall : Operations.startExecutionControl collate w.tables id now leaseExpiresAt with
      _ | ⟨t, _ | _⟩
    · rw [htables, hhistory]
      exact hkeep _ rfl _
    · have hleases : t.leases = w.tables.leases := startExecutionControl_ok hcall
      rw [hhistory]
      exact hkeep _ hleases _
    · obtain ⟨⟨token, htaken⟩, -⟩ := startExecutionControl_ok hcall
      simp only [htaken.fencingToken]
      rw [tick_clock htaken.now_utc]
      exact htaken.moves w.history key

/-! ### Every sequence of calls -/

def World.Sound (collate : String → Key) (w : World Key) : Prop :=
  ∀ key, FencedLease.Sound w.clock (w.tables.claim collate key) (w.history key)

theorem World.start_sound (tables : RuntimeTables) (clock : Instant) :
    (World.start collate tables clock).Sound collate := fun key =>
  Sound.ofLease clock (tables.claim collate key)

theorem World.step_clock (w : World Key) (call : LeaseCall) :
    (w.step collate call).clock = (w.tick call.now).clock := by
  unfold World.step
  cases call <;> dsimp only <;> split <;> rfl

theorem World.clock_le {w : World Key} {call : LeaseCall} (h : Forward w call) :
    w.clock ≤ (w.step collate call).clock := by
  rw [World.step_clock]
  unfold World.tick
  cases hnow : call.now.requireUtc with
  | ok moment => exact h moment (by rw [hnow]; rfl)
  | error e => exact le_rfl

theorem World.step_sound (w : World Key) (call : LeaseCall) (h : w.Sound collate) (hforward : Forward w call) :
    (w.step collate call).Sound collate := fun key =>
  (w.step_moves call key).sound ((h key).later (World.clock_le hforward))

theorem release_refused {leaseName : String} {id : UUID} {token : Nat} {now : DateTime}
    (h : ∀ row, t.lease? collate leaseName = some row →
      row.ownerRuntimeInstanceId ≠ some id ∨ row.fencingToken ≠ token) :
    releaseNamedSchedulerLease collate t leaseName id token now = .ok (t, false) := by
  unfold releaseNamedSchedulerLease
  cases hrow : t.lease? collate leaseName with
  | none => rfl
  | some row => exact if_pos (h row hrow)

theorem World.Sound.safe {w : World Key} (h : w.Sound collate) : LeaseSafe collate w where
  exclusive leaseName moment hclock a ha b hb :=
    ((h (collate leaseName)).later hclock).exclusive ha hb
  increasing leaseName := (h (collate leaseName)).numbered
  token_owner leaseName a ha b hb htoken := by
    rw [(h (collate leaseName)).grant_of_token ha hb htoken]
  stale leaseName grant hgrant id token now hstale := by
    refine release_refused fun row hrow => ?_
    obtain ⟨lease, hlease, htoken, howner⟩ := (h (collate leaseName)).latest grant hgrant
    rw [claim_eq, hrow] at hlease
    obtain rfl : row.claim = lease := Option.some.inj hlease
    rcases hstale with hid | htok
    · exact .inl fun hrowOwner => hid (howner id hrowOwner)
    · exact .inr fun hrowToken => htok (hrowToken.symm.trans htoken)
  refused leaseName id token now := release_refused

theorem lease_safety (tables : RuntimeTables) (clock : Instant) (calls : List LeaseCall)
    (hforward : RunMeets (World.step collate) Forward (World.start collate tables clock) calls) :
    LeaseSafe collate (runFrom (World.step collate) (World.start collate tables clock) calls) := by
  have hsound := run_invariant (I := World.Sound collate) World.step_sound
    (World.start_sound tables clock) hforward
  exact hsound.safe

private def second (n : Nat) : DateTime := ⟨1000000 * n, .utc⟩

/-- One instance takes the lease and renews it, another is refused, and takes it over once the
first has given it back. -/
def handover : List LeaseCall :=
  [.acquire "live" (Dispatch.sampleId 1) (second 0) (second 60),
    .acquire "live" (Dispatch.sampleId 2) (second 10) (second 70),
    .acquire "live" (Dispatch.sampleId 1) (second 30) (second 90),
    .release "live" (Dispatch.sampleId 1) 2 (second 40),
    .acquire "live" (Dispatch.sampleId 2) (second 40) (second 100)]

theorem lease_safety_handover :
    LeaseSafe id (runFrom (World.step id) (World.start id ⟨[], [], [], []⟩ 0) handover) ∧
      ((runFrom (World.step id) (World.start id ⟨[], [], [], []⟩ 0) handover).history "live").granted.map
        (fun grant => (grant.owner, grant.token)) =
        [(Dispatch.sampleId 2, 3), (Dispatch.sampleId 1, 2), (Dispatch.sampleId 1, 1)] :=
  ⟨lease_safety ⟨[], [], [], []⟩ 0 handover (by decide +kernel), by decide +kernel⟩

end AutoTrader.Operations
