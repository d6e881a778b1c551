import AutoTrader.Risk.PolicyBindings
import AutoTrader.Runtime.Timelines

/-! What every order of policy transactions keeps: the bindings of an account leave no time between them, one version of
a policy stays in force, and what an account is resolved to trade under was written, put in force and bound. -/

namespace AutoTrader.Risk

open AutoTrader.Domain AutoTrader.Runtime AutoTrader.Trader

variable {t t' seen : PolicyTables} {w : PolicyWorld} {e : PolicyEvent} {approved : List V6RiskPolicyDefinition}
  {definition : V6RiskPolicyDefinition} {version : RiskPolicyVersion} {code : String}
  {policyId versionId targetVersionId bindingId accountId policyVersionId : UUID} {moment : Instant}
  {found : Option UUID} {reading : ℕ} {events more : List PolicyEvent}

/-! ### What transactions write -/

theorem approvedDefinition_code (h : approvedDefinition approved code = some definition) : definition.code = code :=
  by
  unfold approvedDefinition at h
  have hchosen := List.find?_some h
  exact of_decide_eq_true hchosen

/-- A stored row that a definition describes. -/
def Describes (definition : V6RiskPolicyDefinition) (row : RiskPolicyVersion) : Prop :=
  row.version = definition.version ∧ row.columns = policyRowValues definition ∧ row.caps = noCaps

theorem policyRowRefusal_eq_none (h : policyRowRefusal approved version code = none) :
    ∃ definition, approvedDefinition approved code = some definition ∧ Describes definition version := by
  unfold policyRowRefusal at h
  cases hfound : approvedDefinition approved code with
  | none => rw [hfound] at h; cases h
  | some definition =>
    rw [hfound] at h
    refine ⟨definition, rfl, ?_⟩
    by_cases hversion : version.version = definition.version
    · by_cases hcolumns : version.columns = policyRowValues definition
      · by_cases hcaps : version.caps = noCaps
        · exact ⟨hversion, hcolumns, hcaps⟩
        · simp [hversion, requireExactPolicyRow, hcolumns, hcaps] at h
      · simp [hversion, requireExactPolicyRow, hcolumns] at h
    · simp [hversion] at h

theorem PolicyTables.version?_eq_some (h : t.version? versionId = some (version, code)) :
    Rows.lookup (·.id) t.versions versionId = some version ∧
      ∃ policy, Rows.lookup (·.id) t.policies version.policyId = some policy ∧ policy.code = code := by
  simp only [PolicyTables.version?, Option.bind_eq_bind, Option.bind_eq_some_iff, Option.pure_def, Option.some.injEq,
    Prod.mk.injEq] at h
  obtain ⟨row, hrow, policy, hpolicy, rfl, hcode⟩ := h
  exact ⟨hrow, policy, hpolicy, hcode⟩

/-- A version that was created. -/
structure Created (t t' : PolicyTables) (approved : List V6RiskPolicyDefinition) (versionId : UUID) (code : String)
    (definition : V6RiskPolicyDefinition) (row : RiskPolicyVersion) (policy : RiskPolicy) : Prop where
  approved : approvedDefinition approved code = some definition
  describes : Describes definition row
  id : row.id = versionId
  inactive : row.active = false
  policyId : row.policyId = policy.id
  policyCode : policy.code = definition.code
  fresh : Rows.lookup (·.id) t.versions versionId = none
  versions : t'.versions = t.versions ++ [row]
  policies : t'.policies = t.policies ∧ policy ∈ t.policies ∨
    t'.policies = t.policies ++ [policy] ∧ Rows.lookup (·.id) t.policies policy.id = none
  bindings : t'.bindings = t.bindings

theorem PolicyTables.create_ok (h : t.create approved policyId versionId code = .ok t') :
    ∃ definition row policy, Created t t' approved versionId code definition row policy := by
  unfold PolicyTables.create at h
  cases hfound : approvedDefinition approved code with
  | none => rw [hfound] at h; cases h
  | some definition =>
    rw [hfound] at h
    dsimp only at h
    cases hpolicy : Rows.lookup (·.code) t.policies definition.code with
    | none =>
      simp only [hpolicy, Option.getD_none, Option.isSome_none, Option.isNone_none, Bool.true_and, Bool.false_eq_true,
        if_false] at h
      split at h
      · cases h
      split at h
      · cases h
      next hpolicyId =>
        split at h
        · cases h
        next hversionId =>
          split at h
          · cases h
          · cases h
            refine ⟨definition, _, ⟨policyId, definition.code, true⟩, hfound, ⟨rfl, rfl, rfl⟩, rfl, rfl, rfl, rfl,
              Option.not_isSome_iff_eq_none.mp hversionId, rfl, .inr ⟨rfl, ?_⟩, rfl⟩
            exact Option.not_isSome_iff_eq_none.mp hpolicyId
    | some policy =>
      simp only [hpolicy, Option.getD_some, Option.isSome_some, Option.isNone_some, Bool.false_and, if_true,
        Bool.false_eq_true, if_false] at h
      split at h
      · cases h
      split at h
      · cases h
      next hversionId =>
        split at h
        · cases h
        · cases h
          exact ⟨definition, _, policy, hfound, ⟨rfl, rfl, rfl⟩, rfl, rfl, rfl, Rows.lookup_key hpolicy,
            Option.not_isSome_iff_eq_none.mp hversionId, rfl, .inl ⟨rfl, List.mem_of_find?_eq_some hpolicy⟩, rfl⟩

/-- The facts of an activation, as they were shown, and what it wrote. -/
structure Switched (t t' seen : PolicyTables) (approved : List V6RiskPolicyDefinition) (targetVersionId : UUID)
    (target : RiskPolicyVersion) : Prop where
  loadable : ∃ row code definition, seen.version? targetVersionId = some (row, code) ∧
    approvedDefinition approved code = some definition ∧ Describes definition row
  found : Rows.lookup (·.id) t.versions targetVersionId = some target
  result : t' = { t with versions := t.versions.map (PolicyTables.switched target) }

theorem PolicyTables.activate_ok (h : t.activate seen approved targetVersionId = .ok t') :
    ∃ target, Switched t t' seen approved targetVersionId target := by
  unfold PolicyTables.activate at h
  cases hfacts : seen.facts approved targetVersionId with
  | error error => rw [hfacts] at h; cases h
  | ok =>
    rw [hfacts] at h
    unfold PolicyTables.switch at h
    cases hfound : Rows.lookup (·.id) t.versions targetVersionId with
    | none => simp only [hfound] at h; cases h
    | some target =>
      simp only [hfound] at h
      cases h
      refine ⟨target, ?_, hfound, rfl⟩
      unfold PolicyTables.facts at hfacts
      cases hversion : seen.version? targetVersionId with
      | none => rw [hversion] at hfacts; cases hfacts
      | some row =>
        rw [hversion] at hfacts
        dsimp only at hfacts
        split at hfacts
        · cases hfacts
        cases hrefusal : policyRowRefusal approved row.1 row.2 with
        | some refusal => rw [hrefusal] at hfacts; cases hfacts
        | none =>
          obtain ⟨definition, hdefinition, hdescribes⟩ := policyRowRefusal_eq_none hrefusal
          exact ⟨row.1, row.2, definition, rfl, hdefinition, hdescribes⟩

/-- The facts of a binding, as its version was read, and what it wrote. -/
structure Bound (t t' seen : PolicyTables) (approved : List V6RiskPolicyDefinition)
    (bindingId accountId policyVersionId : UUID) (moment : Instant) (current : Option AccountRiskPolicyBinding)
    (new : AccountRiskPolicyBinding) : Prop where
  loadable : ∃ row code definition, seen.version? policyVersionId = some (row, code) ∧ row.active = true ∧
    approvedDefinition approved code = some definition ∧ Describes definition row ∧
    new.currency = definition.currency ∧ new.settlementAsset = definition.settlementAsset
  locked : ∀ binding, current = some binding →
    binding ∈ t.bindings ∧ binding.accountId = accountId ∧ binding.activeMarker = true
  id : new.id = bindingId
  account : new.accountId = accountId
  version : new.policyVersionId = policyVersionId
  previous : new.previousBindingId = current.map (·.id)
  activatedAt : new.activatedAt = moment
  deactivatedAt : new.deactivatedAt = none
  active : new.activeMarker = true
  fresh : ∀ binding ∈ t.bindings, binding.id ≠ bindingId
  result : t' = { t with bindings := t.bindings.map (replaced (current.map (·.id)) moment) ++ [new] }
  states : ∀ binding ∈ t'.bindings, bindingState binding = true
  scopes : oneActiveScope t'.bindings = true

theorem PolicyTables.lockedActive_eq_some {binding : AccountRiskPolicyBinding}
    (h : t.lockedActive accountId found = some binding) :
    binding ∈ t.bindings ∧ binding.accountId = accountId ∧ binding.activeMarker = true := by
  obtain ⟨id, -, hfind⟩ := Option.bind_eq_some_iff.mp h
  have hchosen := List.find?_some hfind
  simp only [Bool.and_eq_true, decide_eq_true_eq] at hchosen
  exact ⟨List.mem_of_find?_eq_some hfind, hchosen.1.2, hchosen.2⟩

theorem PolicyTables.bind_ok (h : t.bind seen approved bindingId accountId policyVersionId moment found = .ok t') :
    ∃ new, Bound t t' seen approved bindingId accountId policyVersionId moment (t.lockedActive accountId found) new := by
  unfold PolicyTables.bind at h
  cases hversion : seen.version? policyVersionId with
  | none => rw [hversion] at h; cases h
  | some row =>
    rw [hversion] at h
    dsimp only at h
    cases hdefinition : approvedDefinition approved row.2 with
    | none => rw [hdefinition] at h; cases h
    | some definition =>
      rw [hdefinition] at h
      dsimp only at h
      cases hrefusal : policyRowRefusal approved row.1 row.2 with
      | some refusal => rw [hrefusal] at h; cases h
      | none =>
        rw [hrefusal] at h
        dsimp only at h
        obtain ⟨definition', hdefinition', hdescribes⟩ := policyRowRefusal_eq_none hrefusal
        rw [hdefinition] at hdefinition'
        cases hdefinition'
        split at h
        · cases h
        next hactive =>
        split at h
        · cases h
        split at h
        · cases h
        split at h
        · cases h
        next hid =>
        split at h
        · cases h
        split at h
        · cases h
        next hstates =>
        split at h
        · cases h
        next hscopes =>
        cases h
        refine ⟨_, ⟨row.1, row.2, definition, hversion, by simpa using hactive, hdefinition, hdescribes, rfl, rfl⟩,
          fun binding hbinding => PolicyTables.lockedActive_eq_some hbinding, rfl, rfl, rfl, rfl, rfl, rfl, rfl, ?_,
          rfl, ?_, ?_⟩
        · simpa using hid
        · exact List.all_eq_true.mp (by simpa only [Bool.not_eq_true', Bool.not_eq_false] using hstates)
        · simpa using hscopes

namespace PolicyWorld

theorem step_ok (h : w.apply e = .ok t') : (w.step e).tables = t' := by
  unfold step
  rw [h]

theorem step_error {error : PyError} (h : w.apply e = .error error) : w.step e = w := by
  unfold step
  rw [h]

end PolicyWorld

/-! ### Bindings -/

theorem replaced_columns (current : Option UUID) (moment : Instant) (binding : AccountRiskPolicyBinding) :
    (replaced current moment binding).id = binding.id ∧
      (replaced current moment binding).accountId = binding.accountId ∧
      (replaced current moment binding).policyVersionId = binding.policyVersionId ∧
      (replaced current moment binding).previousBindingId = binding.previousBindingId ∧
      (replaced current moment binding).activatedAt = binding.activatedAt := by
  unfold replaced
  split <;> exact ⟨rfl, rfl, rfl, rfl, rfl⟩

theorem replaced_of_eq {binding : AccountRiskPolicyBinding} (moment : Instant) :
    (replaced (some binding.id) moment binding).deactivatedAt = some moment := by
  unfold replaced
  rw [if_pos rfl]

theorem replaced_of_ne {current : Option UUID} {binding : AccountRiskPolicyBinding} (moment : Instant)
    (h : current ≠ some binding.id) : replaced current moment binding = binding := by
  unfold replaced
  rw [if_neg h]

theorem replaced_active {current : Option UUID} {binding : AccountRiskPolicyBinding}
    (h : (replaced current moment binding).activeMarker = true) : current ≠ some binding.id := by
  rintro rfl
  simp [replaced] at h

theorem bindingState_finished {binding : AccountRiskPolicyBinding} {finish : Instant} (h : bindingState binding = true)
    (hfinish : binding.deactivatedAt = some finish) : binding.activatedAt < finish ∧ binding.activeMarker = false := by
  simpa [bindingState, hfinish] using h

theorem bindingState_open {binding : AccountRiskPolicyBinding} (h : bindingState binding = true) :
    binding.deactivatedAt = none ↔ binding.activeMarker = true := by
  unfold bindingState at h
  cases hfinish : binding.deactivatedAt with
  | none => simpa [hfinish] using h
  | some finish =>
    rw [hfinish] at h
    simp only [Bool.and_eq_true, Bool.not_eq_true'] at h
    simp [h.2]

/-- Bindings that the constraints let stand, each that ended with the one that replaced it at that moment. -/
structure SoundBindings (t : PolicyTables) : Prop where
  ids : (t.bindings.map (·.id)).Nodup
  states : ∀ binding ∈ t.bindings, bindingState binding = true
  replaced : ∀ binding ∈ t.bindings, ∀ finish, binding.deactivatedAt = some finish → ∃ next ∈ t.bindings,
    next.accountId = binding.accountId ∧ next.previousBindingId = some binding.id ∧ next.activatedAt = finish

variable {current : Option AccountRiskPolicyBinding} {new : AccountRiskPolicyBinding}

theorem Bound.ids (hbound : Bound t t' seen approved bindingId accountId policyVersionId moment current new)
    (h : (t.bindings.map (·.id)).Nodup) : (t'.bindings.map (·.id)).Nodup := by
  rw [hbound.result]
  have hsame : (t.bindings.map (replaced (current.map (·.id)) moment)).map (·.id) = t.bindings.map (·.id) := by
    rw [List.map_map]
    exact List.map_congr_left fun binding _ => (replaced_columns _ moment binding).1
  rw [List.map_append, hsame]
  refine List.nodup_append.mpr ⟨h, List.nodup_singleton _, fun id hid last hlast heq => ?_⟩
  obtain ⟨binding, hbinding, rfl⟩ := List.mem_map.mp hid
  exact hbound.fresh binding hbinding (heq.trans ((List.mem_singleton.mp hlast).trans hbound.id))

theorem Bound.sound (hbound : Bound t t' seen approved bindingId accountId policyVersionId moment current new)
    (h : SoundBindings t) : SoundBindings t' := by
  refine ⟨hbound.ids h.ids, hbound.states, ?_⟩
  rw [hbound.result]
  intro after hafter finish hfinish
  rcases List.mem_append.mp hafter with hmapped | hnew
  · obtain ⟨binding, hbinding, rfl⟩ := List.mem_map.mp hmapped
    obtain ⟨hid, haccount, -, -, -⟩ := replaced_columns (current.map (·.id)) moment binding
    rw [hid, haccount]
    by_cases hended : current.map (·.id) = some binding.id
    · obtain ⟨ended, hcurrent, hsame⟩ := Option.map_eq_some_iff.mp hended
      obtain ⟨hmem, hof, -⟩ := hbound.locked ended hcurrent
      have heq : ended = binding := List.inj_on_of_nodup_map h.ids hmem hbinding hsame
      rw [hended, replaced_of_eq] at hfinish
      refine ⟨new, List.mem_append_right _ (List.mem_singleton_self new), ?_, hbound.previous.trans hended, ?_⟩
      · rw [hbound.account, ← hof, heq]
      · exact hbound.activatedAt.trans (Option.some.inj hfinish)
    · rw [replaced_of_ne moment hended] at hfinish
      obtain ⟨next, hnext, hnextOf, hprevious, hat⟩ := h.replaced binding hbinding finish hfinish
      obtain ⟨-, haccount', -, hprevious', hat'⟩ := replaced_columns (current.map (·.id)) moment next
      exact ⟨_, List.mem_append_left _ (List.mem_map_of_mem hnext), haccount'.trans hnextOf,
        hprevious'.trans hprevious, hat'.trans hat⟩
  · rw [List.mem_singleton.mp hnew, hbound.deactivatedAt] at hfinish
    cases hfinish

theorem SoundBindings.step (h : SoundBindings w.tables) (e : PolicyEvent) : SoundBindings (w.step e).tables := by
  cases hresult : w.apply e with
  | error error => rwa [PolicyWorld.step_error hresult]
  | ok t' =>
    rw [PolicyWorld.step_ok hresult]
    cases e with
    | create approved policyId versionId code =>
      obtain ⟨definition, row, policy, hcreated⟩ := PolicyTables.create_ok hresult
      exact ⟨hcreated.bindings ▸ h.ids, hcreated.bindings ▸ h.states, hcreated.bindings ▸ h.replaced⟩
    | activate approved reading targetVersionId =>
      obtain ⟨target, hswitched⟩ := PolicyTables.activate_ok hresult
      rw [hswitched.result]
      exact ⟨h.ids, h.states, h.replaced⟩
    | read =>
      cases hresult
      exact h
    | bind approved reading bindingId accountId policyVersionId moment found =>
      obtain ⟨new, hbound⟩ := PolicyTables.bind_ok hresult
      exact hbound.sound h

theorem soundBindings_run (events : List PolicyEvent) :
    SoundBindings (runFrom PolicyWorld.step noPolicies events).tables :=
  run_invariant (I := fun w : PolicyWorld => SoundBindings w.tables) (fun _ e h _ => h.step e)
    ⟨List.nodup_nil, by simp [noPolicies], by simp [noPolicies]⟩
    (runMeets_of_forall (fun _ _ => trivial) noPolicies events)

/-- The bindings of an account. -/
def PolicyTables.bindingsOf (t : PolicyTables) (accountId : UUID) : List AccountRiskPolicyBinding :=
  t.bindings.filter fun binding => decide (binding.accountId = accountId)

theorem PolicyTables.mem_bindingsOf {binding : AccountRiskPolicyBinding} :
    binding ∈ t.bindingsOf accountId ↔ binding ∈ t.bindings ∧ binding.accountId = accountId := by
  simp [PolicyTables.bindingsOf]

theorem SoundBindings.succeeded (h : SoundBindings t) (accountId : UUID) :
    Succeeded AccountRiskPolicyBinding.activatedAt AccountRiskPolicyBinding.deactivatedAt (t.bindingsOf accountId) := by
  intro binding hbinding finish hfinish
  obtain ⟨hmem, rfl⟩ := PolicyTables.mem_bindingsOf.mp hbinding
  obtain ⟨next, hnext, hof, -, hat⟩ := h.replaced binding hmem finish hfinish
  exact ⟨(bindingState_finished (h.states binding hmem) hfinish).1, next,
    PolicyTables.mem_bindingsOf.mpr ⟨hnext, hof⟩, hat⟩

variable {binding : AccountRiskPolicyBinding} {time : Instant}

/-- In every run, from the first binding of an account on, at every time a binding of it was in force. -/
theorem bindings_cover (hbinding : binding ∈ (runFrom PolicyWorld.step noPolicies events).tables.bindings)
    (hby : binding.activatedAt ≤ time) :
    ∃ other ∈ (runFrom PolicyWorld.step noPolicies events).tables.bindings, other.accountId = binding.accountId ∧
      Covers AccountRiskPolicyBinding.activatedAt AccountRiskPolicyBinding.deactivatedAt time other := by
  obtain ⟨other, hother, hcovers⟩ := ((soundBindings_run events).succeeded binding.accountId).exists_covers
    (PolicyTables.mem_bindingsOf.mpr ⟨hbinding, rfl⟩) hby
  obtain ⟨hmem, hof⟩ := PolicyTables.mem_bindingsOf.mp hother
  exact ⟨other, hmem, hof, hcovers⟩

/-- No binding in force is missed: where the account has one, one was come upon and locked. -/
def Noticed (w : PolicyWorld) : PolicyEvent → Prop
  | .bind _ _ _ accountId _ _ found => (∃ binding ∈ w.tables.bindings, binding.accountId = accountId ∧
      binding.activeMarker = true) → ∃ binding, w.tables.lockedActive accountId found = some binding
  | _ => True

/-- Of two bindings of an account the one that was made first had ended by the time the other was. -/
def Exclusive (t : PolicyTables) : Prop :=
  t.bindings.Pairwise fun a b =>
    a.accountId = b.accountId → ∃ finish, a.deactivatedAt = some finish ∧ finish ≤ b.activatedAt

theorem Exclusive.finished {other : AccountRiskPolicyBinding} (h : Exclusive t) (hbinding : binding ∈ t.bindings)
    (hother : other ∈ t.bindings) (hsame : binding.accountId = other.accountId) (hne : binding ≠ other)
    (hopen : other.deactivatedAt = none) :
    ∃ finish, binding.deactivatedAt = some finish ∧ finish ≤ other.activatedAt := by
  rcases pairwise_or h hbinding hother hne with hfinish | hfinish
  · exact hfinish hsame
  · obtain ⟨finish, hsome, -⟩ := hfinish hsame.symm
    rw [hopen] at hsome
    cases hsome

theorem Bound.ended (hbound : Bound t t' seen approved bindingId accountId policyVersionId moment (some binding) new) :
    binding.activatedAt < moment := by
  have hmem : replaced (some binding.id) moment binding ∈ t'.bindings := by
    rw [hbound.result]
    exact List.mem_append_left _ (List.mem_map_of_mem (hbound.locked binding rfl).1)
  have hlt := (bindingState_finished (hbound.states _ hmem) (replaced_of_eq moment)).1
  rwa [(replaced_columns _ moment binding).2.2.2.2] at hlt

/-- Whatever the account had before has ended by the time of its new binding. -/
theorem Bound.finished (hbound : Bound t t' seen approved bindingId accountId policyVersionId moment current new)
    (hsound : SoundBindings t) (h : Exclusive t)
    (hnoticed : (∃ binding ∈ t.bindings, binding.accountId = accountId ∧ binding.activeMarker = true) →
      ∃ binding, current = some binding)
    (hbinding : binding ∈ t.bindings) (hof : binding.accountId = accountId) :
    ∃ finish, (replaced (current.map (·.id)) moment binding).deactivatedAt = some finish ∧ finish ≤ moment := by
  obtain ⟨opened, hopened, hnone⟩ :=
    (hsound.succeeded accountId).exists_open (PolicyTables.mem_bindingsOf.mpr ⟨hbinding, hof⟩)
  obtain ⟨hopenedMem, hopenedOf⟩ := PolicyTables.mem_bindingsOf.mp hopened
  obtain ⟨locked, rfl⟩ := hnoticed ⟨opened, hopenedMem, hopenedOf,
    (bindingState_open (hsound.states opened hopenedMem)).mp hnone⟩
  obtain ⟨hlocked, hlockedOf, hactive⟩ := hbound.locked locked rfl
  by_cases heq : binding = locked
  · rw [heq]
    exact ⟨moment, replaced_of_eq moment, le_refl moment⟩
  · have hne : (some locked).map (·.id) ≠ some binding.id := fun hid =>
      heq (List.inj_on_of_nodup_map hsound.ids hbinding hlocked (Option.some.inj hid).symm)
    rw [replaced_of_ne moment hne]
    obtain ⟨finish, hfinish, hle⟩ := h.finished hbinding hlocked (hof.trans hlockedOf.symm) heq
      ((bindingState_open (hsound.states locked hlocked)).mpr hactive)
    exact ⟨finish, hfinish, hle.trans hbound.ended.le⟩

theorem Bound.exclusive (hbound : Bound t t' seen approved bindingId accountId policyVersionId moment current new)
    (hsound : SoundBindings t) (h : Exclusive t)
    (hnoticed : (∃ binding ∈ t.bindings, binding.accountId = accountId ∧ binding.activeMarker = true) →
      ∃ binding, current = some binding) : Exclusive t' := by
  unfold Exclusive
  rw [hbound.result]
  refine List.pairwise_append.mpr ⟨List.pairwise_map.mpr ?_, List.pairwise_singleton _ _, ?_⟩
  · refine List.Pairwise.imp_of_mem ?_ h
    intro a b ha hb hfinish hsame
    rw [(replaced_columns _ moment a).2.1, (replaced_columns _ moment b).2.1] at hsame
    obtain ⟨finish, hsome, hle⟩ := hfinish hsame
    have hne : current.map (·.id) ≠ some a.id := by
      intro hid
      obtain ⟨locked, rfl, hid⟩ := Option.map_eq_some_iff.mp hid
      obtain ⟨hlocked, -, hactive⟩ := hbound.locked locked rfl
      rw [← List.inj_on_of_nodup_map hsound.ids hlocked ha (Option.some.inj hid)] at hsome
      rw [(bindingState_finished (hsound.states locked hlocked) hsome).2] at hactive
      cases hactive
    rw [replaced_of_ne moment hne, (replaced_columns _ moment b).2.2.2.2]
    exact ⟨finish, hsome, hle⟩
  · intro after hafter last hlast hsame
    obtain ⟨binding, hbinding, rfl⟩ := List.mem_map.mp hafter
    rw [List.mem_singleton.mp hlast] at hsame ⊢
    rw [(replaced_columns _ moment binding).2.1, hbound.account] at hsame
    rw [hbound.activatedAt]
    exact hbound.finished hsound h hnoticed hbinding hsame

theorem Exclusive.step (hsound : SoundBindings w.tables) (h : Exclusive w.tables) (hnoticed : Noticed w e) :
    Exclusive (w.step e).tables := by
  cases hresult : w.apply e with
  | error error => rwa [PolicyWorld.step_error hresult]
  | ok t' =>
    rw [PolicyWorld.step_ok hresult]
    cases e with
    | create approved policyId versionId code =>
      obtain ⟨definition, row, policy, hcreated⟩ := PolicyTables.create_ok hresult
      unfold Exclusive
      rw [hcreated.bindings]
      exact h
    | activate approved reading targetVersionId =>
      obtain ⟨target, hswitched⟩ := PolicyTables.activate_ok hresult
      rw [hswitched.result]
      exact h
    | read =>
      cases hresult
      exact h
    | bind approved reading bindingId accountId policyVersionId moment found =>
      obtain ⟨new, hbound⟩ := PolicyTables.bind_ok hresult
      exact hbound.exclusive hsound h hnoticed

/-- Where no binding in force is missed, exactly one binding of an account is in force at every time from its first. -/
theorem bindings_tile (hnoticed : RunMeets PolicyWorld.step Noticed noPolicies events)
    (hbinding : binding ∈ (runFrom PolicyWorld.step noPolicies events).tables.bindings)
    (hby : binding.activatedAt ≤ time) :
    ∃! other, other ∈ (runFrom PolicyWorld.step noPolicies events).tables.bindings ∧
      other.accountId = binding.accountId ∧
      Covers AccountRiskPolicyBinding.activatedAt AccountRiskPolicyBinding.deactivatedAt time other := by
  have hsound := soundBindings_run events
  have hexclusive : SoundBindings (runFrom PolicyWorld.step noPolicies events).tables ∧
      Exclusive (runFrom PolicyWorld.step noPolicies events).tables :=
    run_invariant (I := fun w : PolicyWorld => SoundBindings w.tables ∧ Exclusive w.tables)
      (fun _ e h hcondition => ⟨h.1.step e, h.2.step h.1 hcondition⟩) ⟨soundBindings_run [], List.Pairwise.nil⟩ hnoticed
  have hapart : Apart AccountRiskPolicyBinding.activatedAt AccountRiskPolicyBinding.deactivatedAt
      ((runFrom PolicyWorld.step noPolicies events).tables.bindingsOf binding.accountId) := by
    refine (List.Pairwise.filter _ hexclusive.2).imp_of_mem ?_
    intro a b ha hb hfinish
    exact hfinish ((PolicyTables.mem_bindingsOf.mp ha).2.trans (PolicyTables.mem_bindingsOf.mp hb).2.symm)
  obtain ⟨other, hother, hcovers⟩ := (hsound.succeeded binding.accountId).exists_covers
    (PolicyTables.mem_bindingsOf.mpr ⟨hbinding, rfl⟩) hby
  obtain ⟨hmem, hof⟩ := PolicyTables.mem_bindingsOf.mp hother
  refine ⟨other, ⟨hmem, hof, hcovers⟩, ?_⟩
  rintro another ⟨hanother, hanotherOf, hanotherCovers⟩
  exact hapart.covers_unique (PolicyTables.mem_bindingsOf.mpr ⟨hanother, hanotherOf⟩) hother hanotherCovers hcovers

/-! ### Versions -/

/-- Rows the keys let stand, each version of a stored policy, one of a policy in force. -/
structure SoundVersions (t : PolicyTables) : Prop where
  policyIds : (t.policies.map (·.id)).Nodup
  ids : (t.versions.map (·.id)).Nodup
  held : ∀ row ∈ t.versions, ∃ policy ∈ t.policies, policy.id = row.policyId
  oneActive : ∀ a ∈ t.versions, ∀ b ∈ t.versions, a.policyId = b.policyId → a.active = true → b.active = true → a = b

variable {row target : RiskPolicyVersion} {policy : RiskPolicy}

/-- What no switch changes of a version. -/
structure SameVersion (row row' : RiskPolicyVersion) : Prop where
  id : row'.id = row.id
  policyId : row'.policyId = row.policyId
  version : row'.version = row.version
  columns : row'.columns = row.columns
  caps : row'.caps = row.caps

theorem SameVersion.rfl : SameVersion row row := ⟨Eq.refl _, Eq.refl _, Eq.refl _, Eq.refl _, Eq.refl _⟩

theorem SameVersion.trans {a b c : RiskPolicyVersion} (h : SameVersion a b) (h' : SameVersion b c) : SameVersion a c :=
  ⟨h'.id.trans h.id, h'.policyId.trans h.policyId, h'.version.trans h.version, h'.columns.trans h.columns,
    h'.caps.trans h.caps⟩

theorem switched_same (target row : RiskPolicyVersion) : SameVersion row (PolicyTables.switched target row) := by
  unfold PolicyTables.switched
  split
  · exact ⟨rfl, rfl, rfl, rfl, rfl⟩
  · split <;> exact ⟨rfl, rfl, rfl, rfl, rfl⟩

/-- A switch leaves the versions of other policies as they were, and of its own policy only the target in force. -/
theorem switched_active (h : (PolicyTables.switched target row).active = true) :
    row.id = target.id ∨ row.policyId ≠ target.policyId ∧ row.active = true := by
  unfold PolicyTables.switched at h
  split at h
  next hid => exact .inl hid
  next =>
    split at h
    · cases h
    next hpolicy => exact .inr ⟨hpolicy, h⟩

theorem switched_target : (PolicyTables.switched target target).active = true := by
  unfold PolicyTables.switched
  rw [if_pos rfl]

theorem switched_of_other (hid : row.id ≠ target.id) (hpolicy : row.policyId ≠ target.policyId) :
    PolicyTables.switched target row = row := by
  unfold PolicyTables.switched
  rw [if_neg hid, if_neg hpolicy]

theorem Switched.mem (h : Switched t t' seen approved targetVersionId target) :
    target ∈ t.versions ∧ target.id = targetVersionId :=
  ⟨List.mem_of_find?_eq_some h.found, Rows.lookup_key h.found⟩

theorem Created.policyIds (h : Created t t' approved versionId code definition row policy)
    (hids : (t.policies.map (·.id)).Nodup) : (t'.policies.map (·.id)).Nodup := by
  rcases h.policies with ⟨heq, -⟩ | ⟨heq, hfresh⟩
  · rwa [heq]
  · rw [heq, List.map_append]
    refine List.nodup_append.mpr ⟨hids, List.nodup_singleton _, fun id hid last hlast hsame => ?_⟩
    obtain ⟨other, hother, rfl⟩ := List.mem_map.mp hid
    exact Rows.lookup_eq_none.mp hfresh other hother (hsame.trans (List.mem_singleton.mp hlast))

theorem Created.policy_mem (h : Created t t' approved versionId code definition row policy) :
    policy ∈ t'.policies ∧ t.policies ⊆ t'.policies := by
  rcases h.policies with ⟨heq, hmem⟩ | ⟨heq, -⟩
  · rw [heq]
    exact ⟨hmem, List.Subset.refl _⟩
  · rw [heq]
    exact ⟨List.mem_append_right _ (List.mem_singleton_self policy), List.subset_append_left _ _⟩

theorem Created.sound (h : Created t t' approved versionId code definition row policy) (hsound : SoundVersions t) :
    SoundVersions t' := by
  obtain ⟨hpolicy, hpolicies⟩ := h.policy_mem
  refine ⟨h.policyIds hsound.policyIds, ?_, ?_, ?_⟩
  · rw [h.versions, List.map_append]
    refine List.nodup_append.mpr ⟨hsound.ids, List.nodup_singleton _, fun id hid last hlast hsame => ?_⟩
    obtain ⟨other, hother, rfl⟩ := List.mem_map.mp hid
    exact Rows.lookup_eq_none.mp h.fresh other hother (hsame.trans ((List.mem_singleton.mp hlast).trans h.id))
  · rw [h.versions]
    intro other hother
    rcases List.mem_append.mp hother with hold | hnew
    · obtain ⟨holder, hholder, hof⟩ := hsound.held other hold
      exact ⟨holder, hpolicies hholder, hof⟩
    · rw [List.mem_singleton.mp hnew]
      exact ⟨policy, hpolicy, h.policyId.symm⟩
  · have hold {other : RiskPolicyVersion} (hother : other ∈ t'.versions) (hactive : other.active = true) :
        other ∈ t.versions := by
      rw [h.versions] at hother
      rcases List.mem_append.mp hother with hmem | hnew
      · exact hmem
      · rw [List.mem_singleton.mp hnew, h.inactive] at hactive
        cases hactive
    exact fun a ha b hb hsame hactive hactive' =>
      hsound.oneActive a (hold ha hactive) b (hold hb hactive') hsame hactive hactive'

theorem Switched.sound (h : Switched t t' seen approved targetVersionId target) (hsound : SoundVersions t) :
    SoundVersions t' := by
  obtain ⟨htarget, -⟩ := h.mem
  rw [h.result]
  refine ⟨hsound.policyIds, ?_, ?_, ?_⟩
  · rw [List.map_map]
    have hsame : t.versions.map ((·.id) ∘ PolicyTables.switched target) = t.versions.map (·.id) :=
      List.map_congr_left fun row _ => (switched_same target row).id
    rw [hsame]
    exact hsound.ids
  · intro after hafter
    obtain ⟨row, hrow, rfl⟩ := List.mem_map.mp hafter
    rw [(switched_same target row).policyId]
    exact hsound.held row hrow
  · intro a' ha' b' hb' hsame hactive hactive'
    obtain ⟨a, ha, rfl⟩ := List.mem_map.mp ha'
    obtain ⟨b, hb, rfl⟩ := List.mem_map.mp hb'
    rw [(switched_same target a).policyId, (switched_same target b).policyId] at hsame
    have hpolicy {row : RiskPolicyVersion} (hrow : row ∈ t.versions) (hid : row.id = target.id) :
        row.policyId = target.policyId := by
      rw [List.inj_on_of_nodup_map hsound.ids hrow htarget hid]
    rcases switched_active hactive with haTarget | ⟨haPolicy, haActive⟩ <;>
      rcases switched_active hactive' with hbTarget | ⟨hbPolicy, hbActive⟩
    · rw [List.inj_on_of_nodup_map hsound.ids ha hb (haTarget.trans hbTarget.symm)]
    · exact absurd (hsame.symm.trans (hpolicy ha haTarget)) hbPolicy
    · exact absurd (hsame.trans (hpolicy hb hbTarget)) haPolicy
    · rw [hsound.oneActive a ha b hb hsame haActive hbActive]

theorem SoundVersions.step (h : SoundVersions w.tables) (e : PolicyEvent) : SoundVersions (w.step e).tables := by
  cases hresult : w.apply e with
  | error error => rwa [PolicyWorld.step_error hresult]
  | ok t' =>
    rw [PolicyWorld.step_ok hresult]
    cases e with
    | create approved policyId versionId code =>
      obtain ⟨definition, row, policy, hcreated⟩ := PolicyTables.create_ok hresult
      exact hcreated.sound h
    | activate approved reading targetVersionId =>
      obtain ⟨target, hswitched⟩ := PolicyTables.activate_ok hresult
      exact hswitched.sound h
    | read =>
      cases hresult
      exact h
    | bind approved reading bindingId accountId policyVersionId moment found =>
      obtain ⟨new, hbound⟩ := PolicyTables.bind_ok hresult
      rw [hbound.result]
      exact ⟨h.policyIds, h.ids, h.held, h.oneActive⟩

theorem soundVersions_run (events : List PolicyEvent) :
    SoundVersions (runFrom PolicyWorld.step noPolicies events).tables :=
  run_invariant (I := fun w : PolicyWorld => SoundVersions w.tables) (fun _ e h _ => h.step e)
    ⟨List.nodup_nil, List.nodup_nil, by simp [noPolicies], by simp [noPolicies]⟩
    (runMeets_of_forall (fun _ _ => trivial) noPolicies events)

/-- Policies and versions stay, but for what a switch changes of a version. -/
structure Stays (t t' : PolicyTables) : Prop where
  policies : t.policies ⊆ t'.policies
  versions : ∀ row ∈ t.versions, ∃ row' ∈ t'.versions, SameVersion row row'

theorem Stays.rfl : Stays t t := ⟨List.Subset.refl _, fun row hrow => ⟨row, hrow, .rfl⟩⟩

theorem Stays.trans {t₁ t₂ t₃ : PolicyTables} (h : Stays t₁ t₂) (h' : Stays t₂ t₃) : Stays t₁ t₃ := by
  refine ⟨List.Subset.trans h.policies h'.policies, fun row hrow => ?_⟩
  obtain ⟨row', hrow', hsame⟩ := h.versions row hrow
  obtain ⟨row'', hrow'', hsame'⟩ := h'.versions row' hrow'
  exact ⟨row'', hrow'', hsame.trans hsame'⟩

theorem stays_step (w : PolicyWorld) (e : PolicyEvent) : Stays w.tables (w.step e).tables := by
  cases hresult : w.apply e with
  | error error =>
    rw [PolicyWorld.step_error hresult]
    exact .rfl
  | ok t' =>
    rw [PolicyWorld.step_ok hresult]
    cases e with
    | create approved policyId versionId code =>
      obtain ⟨definition, row, policy, hcreated⟩ := PolicyTables.create_ok hresult
      refine ⟨hcreated.policy_mem.2, fun other hother => ⟨other, ?_, .rfl⟩⟩
      rw [hcreated.versions]
      exact List.mem_append_left _ hother
    | activate approved reading targetVersionId =>
      obtain ⟨target, hswitched⟩ := PolicyTables.activate_ok hresult
      rw [hswitched.result]
      exact ⟨List.Subset.refl _, fun row hrow => ⟨_, List.mem_map_of_mem hrow, switched_same target row⟩⟩
    | read =>
      cases hresult
      exact .rfl
    | bind approved reading bindingId accountId policyVersionId moment found =>
      obtain ⟨new, hbound⟩ := PolicyTables.bind_ok hresult
      rw [hbound.result]
      exact ⟨List.Subset.refl _, fun row hrow => ⟨row, hrow, .rfl⟩⟩

theorem stays_run (w : PolicyWorld) (events : List PolicyEvent) :
    Stays w.tables (runFrom PolicyWorld.step w events).tables :=
  run_invariant (I := fun w' : PolicyWorld => Stays w.tables w'.tables) (fun w' e h _ => h.trans (stays_step w' e)) .rfl
    (runMeets_of_forall (fun _ _ => trivial) w events)

/-- A policy of which a version is in force. -/
def InForce (policyId : UUID) (t : PolicyTables) : Prop :=
  ∃ row ∈ t.versions, row.policyId = policyId ∧ row.active = true

theorem InForce.step (h : InForce policyId w.tables) (e : PolicyEvent) : InForce policyId (w.step e).tables := by
  cases hresult : w.apply e with
  | error error => rwa [PolicyWorld.step_error hresult]
  | ok t' =>
    rw [PolicyWorld.step_ok hresult]
    obtain ⟨row, hrow, hpolicy, hactive⟩ := h
    cases e with
    | create approved policyId versionId code =>
      obtain ⟨definition, new, policy, hcreated⟩ := PolicyTables.create_ok hresult
      refine ⟨row, ?_, hpolicy, hactive⟩
      rw [hcreated.versions]
      exact List.mem_append_left _ hrow
    | activate approved reading targetVersionId =>
      obtain ⟨target, hswitched⟩ := PolicyTables.activate_ok hresult
      rw [hswitched.result]
      by_cases hsame : row.policyId = target.policyId
      · exact ⟨_, List.mem_map_of_mem hswitched.mem.1, by rw [(switched_same target target).policyId, ← hsame, hpolicy],
          switched_target⟩
      · by_cases hid : row.id = target.id
        · refine ⟨_, List.mem_map_of_mem hrow, (switched_same target row).policyId.trans hpolicy, ?_⟩
          simp [PolicyTables.switched, hid]
        · refine ⟨_, List.mem_map_of_mem hrow, ?_⟩
          rw [switched_of_other hid hsame]
          exact ⟨hpolicy, hactive⟩
    | read =>
      cases hresult
      exact ⟨row, hrow, hpolicy, hactive⟩
    | bind approved reading bindingId accountId policyVersionId moment found =>
      obtain ⟨new, hbound⟩ := PolicyTables.bind_ok hresult
      rw [hbound.result]
      exact ⟨row, hrow, hpolicy, hactive⟩

/-- Once a version of a policy is in force, exactly one of it is ever after. -/
theorem version_in_force (hrow : row ∈ (runFrom PolicyWorld.step noPolicies events).tables.versions)
    (hactive : row.active = true) (more : List PolicyEvent) :
    ∃! other, other ∈ (runFrom PolicyWorld.step noPolicies (events ++ more)).tables.versions ∧
      other.policyId = row.policyId ∧ other.active = true := by
  have hstart : InForce row.policyId (runFrom PolicyWorld.step noPolicies events).tables := ⟨row, hrow, rfl, hactive⟩
  have hend : InForce row.policyId (runFrom PolicyWorld.step noPolicies (events ++ more)).tables := by
    rw [runFrom_append]
    exact run_invariant (I := fun w : PolicyWorld => InForce row.policyId w.tables) (fun _ e h _ => h.step e) hstart
      (runMeets_of_forall (fun _ _ => trivial) _ more)
  obtain ⟨other, hother, hpolicy, hotherActive⟩ := hend
  refine ⟨other, ⟨hother, hpolicy, hotherActive⟩, ?_⟩
  rintro another ⟨hanother, hanotherPolicy, hanotherActive⟩
  exact (soundVersions_run (events ++ more)).oneActive another hanother other hother
    (hanotherPolicy.trans hpolicy.symm) hanotherActive hotherActive

/-! ### Resolution -/

def Commits (w : PolicyWorld) (e : PolicyEvent) : Prop := ∃ t', w.apply e = .ok t'

/-- The version is written from a definition, some deployment's, that says the same. -/
def Writes (definition : V6RiskPolicyDefinition) (versionId : UUID) (w : PolicyWorld) (e : PolicyEvent) : Prop :=
  Commits w e ∧ ∃ approved policyId code written, e = .create approved policyId versionId code ∧
    approvedDefinition approved code = some written ∧ written.code = definition.code ∧
    written.version = definition.version ∧ policyRowValues written = policyRowValues definition

/-- A version a deployment would load, as it was read. -/
def Loadable (seen : PolicyTables) (approved : List V6RiskPolicyDefinition) (versionId : UUID) : Prop :=
  ∃ row code definition, seen.version? versionId = some (row, code) ∧
    approvedDefinition approved code = some definition ∧ Describes definition row

def PutsInForce (versionId : UUID) (w : PolicyWorld) (e : PolicyEvent) : Prop :=
  Commits w e ∧ ∃ approved reading, e = .activate approved reading versionId ∧
    Loadable (w.reading reading) approved versionId

/-- Another version of the policy is put in force. -/
def Supersedes (versionId : UUID) (w : PolicyWorld) (e : PolicyEvent) : Prop :=
  Commits w e ∧ ∃ approved reading, ∃ a ∈ w.tables.versions, ∃ b ∈ w.tables.versions,
    e = .activate approved reading b.id ∧ a.id = versionId ∧ b.id ≠ versionId ∧ a.policyId = b.policyId

def Binds (bindingId accountId versionId : UUID) (w : PolicyWorld) (e : PolicyEvent) : Prop :=
  Commits w e ∧ ∃ approved reading moment found,
    e = .bind approved reading bindingId accountId versionId moment found ∧
      Loadable (w.reading reading) approved versionId

def Replaces (bindingId : UUID) (w : PolicyWorld) (e : PolicyEvent) : Prop :=
  Commits w e ∧ ∃ approved reading newId accountId versionId moment found, ∃ locked : AccountRiskPolicyBinding,
    e = .bind approved reading newId accountId versionId moment found ∧
    w.tables.lockedActive accountId found = some locked ∧ locked.id = bindingId

/-- A stored row of the policy a definition is for, which it describes. -/
def Written (definition : V6RiskPolicyDefinition) (versionId : UUID) (w : PolicyWorld) : Prop :=
  ∃ row ∈ w.tables.versions, row.id = versionId ∧ Describes definition row ∧
    ∃ policy ∈ w.tables.policies, policy.id = row.policyId ∧ policy.code = definition.code

theorem Switched.written (h : Switched w.tables t' seen approved targetVersionId target) {row' : RiskPolicyVersion}
    (hrow' : row' ∈ t'.versions) : ∃ row ∈ w.tables.versions, SameVersion row row' := by
  rw [h.result] at hrow'
  obtain ⟨row, hrow, rfl⟩ := List.mem_map.mp hrow'
  exact ⟨row, hrow, switched_same target row⟩

theorem written_step (hsound : SoundVersions w.tables) (h : Written definition versionId (w.step e)) :
    Writes definition versionId w e ∨ Written definition versionId w := by
  cases hresult : w.apply e with
  | error error => exact .inr (PolicyWorld.step_error hresult ▸ h)
  | ok t' =>
    obtain ⟨row, hrow, hid, hdescribes, policy, hpolicy, hof, hcode⟩ := h
    rw [PolicyWorld.step_ok hresult] at hrow hpolicy
    cases e with
    | create approved policyId newId code =>
      obtain ⟨written, new, holder, hcreated⟩ := PolicyTables.create_ok hresult
      obtain ⟨hholder, hpolicies⟩ := hcreated.policy_mem
      have hids := hcreated.policyIds hsound.policyIds
      rw [hcreated.versions] at hrow
      rcases List.mem_append.mp hrow with hold | hnew
      · obtain ⟨stored, hstored, hstoredOf⟩ := hsound.held row hold
        have hsame : stored = policy :=
          List.inj_on_of_nodup_map hids (hpolicies hstored) hpolicy (hstoredOf.trans hof.symm)
        exact .inr ⟨row, hold, hid, hdescribes, stored, hstored, hstoredOf, hsame ▸ hcode⟩
      · rw [List.mem_singleton.mp hnew] at hid hdescribes hof
        have hsame : policy = holder :=
          List.inj_on_of_nodup_map hids hpolicy hholder (hof.trans hcreated.policyId)
        have hwrittenCode : written.code = definition.code := by
          rw [← hcreated.policyCode, ← hsame, hcode]
        refine .inl ⟨⟨t', hresult⟩, approved, policyId, code, written, ?_, hcreated.approved, hwrittenCode, ?_, ?_⟩
        · rw [← hid, hcreated.id]
        · exact hcreated.describes.1.symm.trans hdescribes.1
        · exact hcreated.describes.2.1.symm.trans hdescribes.2.1
    | activate approved reading targetVersionId =>
      obtain ⟨target, hswitched⟩ := PolicyTables.activate_ok hresult
      obtain ⟨before, hbefore, hsame⟩ := hswitched.written hrow
      rw [hswitched.result] at hpolicy
      refine .inr ⟨before, hbefore, hsame.id.symm.trans hid, ⟨?_, ?_, ?_⟩, policy, hpolicy,
        hof.trans hsame.policyId, hcode⟩
      · exact hsame.version.symm.trans hdescribes.1
      · exact hsame.columns.symm.trans hdescribes.2.1
      · exact hsame.caps.symm.trans hdescribes.2.2
    | read =>
      cases hresult
      exact .inr ⟨row, hrow, hid, hdescribes, policy, hpolicy, hof, hcode⟩
    | bind approved reading bindingId accountId policyVersionId moment found =>
      obtain ⟨new, hbound⟩ := PolicyTables.bind_ok hresult
      rw [hbound.result] at hrow hpolicy
      exact .inr ⟨row, hrow, hid, hdescribes, policy, hpolicy, hof, hcode⟩

/-- A version in force. -/
def Active (versionId : UUID) (w : PolicyWorld) : Prop :=
  ∃ row ∈ w.tables.versions, row.id = versionId ∧ row.active = true

theorem active_step (hsound : SoundVersions w.tables) (h : Active versionId (w.step e)) :
    PutsInForce versionId w e ∨ Active versionId w ∧ ¬Supersedes versionId w e := by
  cases hresult : w.apply e with
  | error error =>
    refine .inr ⟨PolicyWorld.step_error hresult ▸ h, ?_⟩
    rintro ⟨⟨t', hok⟩, -⟩
    rw [hresult] at hok
    cases hok
  | ok t' =>
    obtain ⟨row, hrow, hid, hactive⟩ := h
    rw [PolicyWorld.step_ok hresult] at hrow
    cases e with
    | create approved policyId newId code =>
      obtain ⟨written, new, holder, hcreated⟩ := PolicyTables.create_ok hresult
      rw [hcreated.versions] at hrow
      rcases List.mem_append.mp hrow with hold | hnew
      · refine .inr ⟨⟨row, hold, hid, hactive⟩, ?_⟩
        rintro ⟨-, approved', reading', a, -, b, -, heq, -⟩
        cases heq
      · rw [List.mem_singleton.mp hnew, hcreated.inactive] at hactive
        cases hactive
    | activate approved reading targetVersionId =>
      obtain ⟨target, hswitched⟩ := PolicyTables.activate_ok hresult
      obtain ⟨htarget, htargetId⟩ := hswitched.mem
      rw [hswitched.result] at hrow
      obtain ⟨before, hbefore, rfl⟩ := List.mem_map.mp hrow
      rw [(switched_same target before).id] at hid
      rcases switched_active hactive with hsame | ⟨hpolicy, hbeforeActive⟩
      · have htargets : targetVersionId = versionId := by rw [← htargetId, ← hsame, hid]
        exact .inl ⟨⟨t', hresult⟩, approved, reading, by rw [htargets], htargets ▸ hswitched.loadable⟩
      · refine .inr ⟨⟨before, hbefore, hid, hbeforeActive⟩, ?_⟩
        rintro ⟨-, approved', reading', a, ha, b, hb, heq, haId, -, hsamePolicy⟩
        cases heq
        rw [List.inj_on_of_nodup_map hsound.ids ha hbefore (haId.trans hid.symm),
          List.inj_on_of_nodup_map hsound.ids hb htarget htargetId.symm] at hsamePolicy
        exact hpolicy hsamePolicy
    | read =>
      cases hresult
      refine .inr ⟨⟨row, hrow, hid, hactive⟩, ?_⟩
      rintro ⟨-, approved', reading', a, -, b, -, heq, -⟩
      cases heq
    | bind approved reading bindingId accountId policyVersionId moment found =>
      obtain ⟨new, hbound⟩ := PolicyTables.bind_ok hresult
      rw [hbound.result] at hrow
      refine .inr ⟨⟨row, hrow, hid, hactive⟩, ?_⟩
      rintro ⟨-, approved', reading', a, -, b, -, heq, -⟩
      cases heq

/-- A binding of an account to a version, in force. -/
def BoundTo (bindingId accountId versionId : UUID) (w : PolicyWorld) : Prop :=
  ∃ binding ∈ w.tables.bindings, binding.id = bindingId ∧ binding.accountId = accountId ∧
    binding.policyVersionId = versionId ∧ binding.activeMarker = true

theorem boundTo_step (h : BoundTo bindingId accountId versionId (w.step e)) :
    Binds bindingId accountId versionId w e ∨ BoundTo bindingId accountId versionId w ∧ ¬Replaces bindingId w e := by
  cases hresult : w.apply e with
  | error error =>
    refine .inr ⟨PolicyWorld.step_error hresult ▸ h, ?_⟩
    rintro ⟨⟨t', hok⟩, -⟩
    rw [hresult] at hok
    cases hok
  | ok t' =>
    obtain ⟨binding, hbinding, hid, haccount, hversion, hactive⟩ := h
    rw [PolicyWorld.step_ok hresult] at hbinding
    cases e with
    | create approved policyId newId code =>
      obtain ⟨written, new, holder, hcreated⟩ := PolicyTables.create_ok hresult
      rw [hcreated.bindings] at hbinding
      refine .inr ⟨⟨binding, hbinding, hid, haccount, hversion, hactive⟩, ?_⟩
      rintro ⟨-, approved', reading', newId', accountId', versionId', moment', found', locked, heq, -⟩
      cases heq
    | activate approved reading targetVersionId =>
      obtain ⟨target, hswitched⟩ := PolicyTables.activate_ok hresult
      rw [hswitched.result] at hbinding
      refine .inr ⟨⟨binding, hbinding, hid, haccount, hversion, hactive⟩, ?_⟩
      rintro ⟨-, approved', reading', newId', accountId', versionId', moment', found', locked, heq, -⟩
      cases heq
    | read =>
      cases hresult
      refine .inr ⟨⟨binding, hbinding, hid, haccount, hversion, hactive⟩, ?_⟩
      rintro ⟨-, approved', reading', newId', accountId', versionId', moment', found', locked, heq, -⟩
      cases heq
    | bind approved reading newId boundId policyVersionId moment found =>
      obtain ⟨new, hbound⟩ := PolicyTables.bind_ok hresult
      rw [hbound.result] at hbinding
      rcases List.mem_append.mp hbinding with hmapped | hnew
      · obtain ⟨before, hbefore, rfl⟩ := List.mem_map.mp hmapped
        have hkept := replaced_active hactive
        rw [replaced_of_ne moment hkept] at hid haccount hversion hactive
        refine .inr ⟨⟨before, hbefore, hid, haccount, hversion, hactive⟩, ?_⟩
        rintro ⟨-, approved', reading', newId', accountId', versionId', moment', found', locked, heq, hlocked, hlockedId⟩
        cases heq
        rw [hlocked] at hkept
        exact hkept (congrArg some (hlockedId.trans hid.symm))
      · rw [List.mem_singleton.mp hnew] at hid haccount hversion
        obtain ⟨row, code, definition, hseen, -, hdefinition, hdescribes, -⟩ := hbound.loadable
        have hnewId : newId = bindingId := hbound.id.symm.trans hid
        have hboundId : boundId = accountId := hbound.account.symm.trans haccount
        have hpolicyVersionId : policyVersionId = versionId := hbound.version.symm.trans hversion
        refine .inl ⟨⟨t', hresult⟩, approved, reading, moment, found, ?_, ?_⟩
        · rw [hnewId, hboundId, hpolicyVersionId]
        · rw [← hpolicyVersionId]
          exact ⟨row, code, definition, hseen, hdefinition, hdescribes⟩

theorem begun_sound {P : PolicyWorld → Prop} {begins ends : PolicyWorld → PolicyEvent → Prop}
    (hstep : ∀ w e, SoundVersions w.tables → P (w.step e) → begins w e ∨ P w ∧ ¬ends w e) (hstart : ¬P noPolicies)
    (h : P (runFrom PolicyWorld.step noPolicies events)) : Begun PolicyWorld.step begins ends noPolicies events :=
  begun_within (I := fun w : PolicyWorld => SoundVersions w.tables) (fun _ e hsound _ => hsound.step e)
    (fun w e hsound _ hafter => hstep w e hsound hafter) (soundVersions_run []) hstart
    (runMeets_of_forall (fun _ _ => trivial) noPolicies events) h

/-- What an account is resolved to trade under is approved for the market as written, was put in force with no other
version of its policy since, and was bound to the account, by a binding that nothing had replaced when it was read. -/
theorem resolve_authorized {first : List AccountRiskPolicyBinding → Option AccountRiskPolicyBinding} {market : V6Market}
    (hfirst : ∀ rows binding, first rows = some binding → binding ∈ rows)
    (h : (runFrom PolicyWorld.step noPolicies events).tables.resolve
      (runFrom PolicyWorld.step noPolicies (events ++ more)).tables first approved accountId market =
        some (definition, versionId)) :
    definition ∈ approved ∧ definition.market = market ∧
      Begun PolicyWorld.step (Writes definition versionId) (fun _ _ => False) noPolicies (events ++ more) ∧
      Begun PolicyWorld.step (PutsInForce versionId) (Supersedes versionId) noPolicies (events ++ more) ∧
      ∃ bindingId,
        Begun PolicyWorld.step (Binds bindingId accountId versionId) (Replaces bindingId) noPolicies events := by
  simp only [PolicyTables.resolve, Option.bind_eq_bind, Option.bind_eq_some_iff] at h
  obtain ⟨binding, hbinding, ⟨row, policyCode⟩, hversion, found, hfound, h⟩ := h
  split at h
  · cases h
  next hmarket =>
  obtain ⟨⟨later, code⟩, hlater, h⟩ := Option.bind_eq_some_iff.mp h
  dsimp only at h
  split at h
  · cases h
  next hloads =>
  cases h
  simp only [Bool.or_eq_true, Bool.not_eq_true', not_or, Bool.not_eq_false, Bool.not_eq_true, Option.isSome_eq_false_iff,
    Option.isNone_iff_eq_none] at hloads
  obtain ⟨hactive, hrefusal⟩ := hloads
  obtain ⟨hrow, policy, hpolicy, rfl⟩ := PolicyTables.version?_eq_some hversion
  obtain ⟨hlaterRow, laterPolicy, hlaterPolicy, rfl⟩ := PolicyTables.version?_eq_some hlater
  have hlaterMem := List.mem_of_find?_eq_some hlaterRow
  have hlaterId : later.id = binding.policyVersionId := Rows.lookup_key hlaterRow
  have hsound := soundVersions_run (events ++ more)
  -- The code the definition was looked up by is still the code of the version's policy when the version is read.
  have hcodes : laterPolicy = policy := by
    have hstays := stays_run (runFrom PolicyWorld.step noPolicies events) more
    rw [← runFrom_append] at hstays
    obtain ⟨row', hrow', hsame⟩ := hstays.versions row (List.mem_of_find?_eq_some hrow)
    have hid : row.id = binding.policyVersionId := Rows.lookup_key hrow
    have hlaterSame : row' = later :=
      List.inj_on_of_nodup_map hsound.ids hrow' hlaterMem (hsame.id.trans (hid.trans hlaterId.symm))
    have hof : laterPolicy.id = later.policyId := Rows.lookup_key hlaterPolicy
    have hof' : policy.id = row.policyId := Rows.lookup_key hpolicy
    refine List.inj_on_of_nodup_map hsound.policyIds (List.mem_of_find?_eq_some hlaterPolicy)
      (hstays.policies (List.mem_of_find?_eq_some hpolicy)) ?_
    rw [hof, hof', ← hlaterSame, hsame.policyId]
  obtain ⟨definition', hdefinition', hdescribes⟩ := policyRowRefusal_eq_none hrefusal
  rw [hcodes, hfound] at hdefinition'
  cases hdefinition'
  refine ⟨?_, of_not_not hmarket, ?_, ?_, binding.id, ?_⟩
  · unfold approvedDefinition at hfound
    exact List.mem_reverse.mp (List.mem_of_find?_eq_some hfound)
  · refine begun_sound (fun w e hsound hwritten => (written_step hsound hwritten).imp_right fun hold => ⟨hold, id⟩) ?_
      ⟨later, hlaterMem, hlaterId, hdescribes, laterPolicy, List.mem_of_find?_eq_some hlaterPolicy,
        Rows.lookup_key hlaterPolicy, ?_⟩
    · rintro ⟨row, hrow, -⟩
      cases hrow
    · exact hcodes ▸ (approvedDefinition_code hfound).symm
  · refine begun_sound (fun w e hsound hin => active_step hsound hin) ?_ ⟨later, hlaterMem, hlaterId, hactive⟩
    rintro ⟨row, hrow, -⟩
    cases hrow
  · obtain ⟨hmem, hchosen⟩ := List.mem_filter.mp (hfirst _ _ hbinding)
    simp only [Bool.and_eq_true, decide_eq_true_eq] at hchosen
    refine begun_of_run (fun w e hbound => boundTo_step hbound) ?_ ⟨binding, hmem, rfl, hchosen.1.1, rfl, hchosen.1.2⟩
    rintro ⟨other, hother, -⟩
    cases hother

/-! An account that is bound to the approved policy, and to the next version of it as soon as a later deployment has put
that in force. -/

theorem samplePolicyId_lt (n : Fin 256) : n.val < 16 ^ 32 := by
  have := n.isLt
  omega

def samplePolicyId (n : Fin 256) : UUID := ⟨n.val, samplePolicyId_lt n⟩

def nextRiskPolicy : V6RiskPolicyDefinition :=
  { cashPolicy "DAVID_V6_CASH_KRW" .krxCash "KRW" with version := "v6-op-20261001.1", maxConsecutiveLosses := 1 }

def samplePolicyEvents : List PolicyEvent :=
  [.create approvedV6RiskPolicies (samplePolicyId 1) (samplePolicyId 2) "DAVID_V6_CASH_KRW", .read,
    .activate approvedV6RiskPolicies 0 (samplePolicyId 2), .read,
    .bind approvedV6RiskPolicies 1 (samplePolicyId 3) (samplePolicyId 9) (samplePolicyId 2) 100 none,
    .create [nextRiskPolicy] (samplePolicyId 4) (samplePolicyId 5) "DAVID_V6_CASH_KRW", .read,
    .activate [nextRiskPolicy] 2 (samplePolicyId 5), .read,
    .bind [nextRiskPolicy] 3 (samplePolicyId 6) (samplePolicyId 9) (samplePolicyId 5) 200 (some (samplePolicyId 3))]

def samplePolicyBinding : AccountRiskPolicyBinding where
  id := samplePolicyId 3
  accountId := samplePolicyId 9
  policyVersionId := samplePolicyId 2
  previousBindingId := none
  currency := some "KRW"
  settlementAsset := none
  activatedAt := 100
  deactivatedAt := some 200
  activeMarker := false

def nextPolicyBinding : AccountRiskPolicyBinding where
  id := samplePolicyId 6
  accountId := samplePolicyId 9
  policyVersionId := samplePolicyId 5
  previousBindingId := some (samplePolicyId 3)
  currency := some "KRW"
  settlementAsset := none
  activatedAt := 200
  deactivatedAt := none
  activeMarker := true

theorem samplePolicyEvents_bindings : (runFrom PolicyWorld.step noPolicies samplePolicyEvents).tables.bindings =
    [samplePolicyBinding, nextPolicyBinding] := by
  decide +kernel

theorem samplePolicyBinding_mem : samplePolicyBinding ∈
    (runFrom PolicyWorld.step noPolicies samplePolicyEvents).tables.bindings := by
  rw [samplePolicyEvents_bindings]
  exact List.mem_cons_self

theorem samplePolicyEvents_noticed : RunMeets PolicyWorld.step Noticed noPolicies samplePolicyEvents := by
  refine ⟨trivial, trivial, trivial, trivial, ?_, trivial, trivial, trivial, trivial, ?_, trivial⟩
  · rintro ⟨binding, hbinding, -⟩
    have hnone : (runFrom PolicyWorld.step noPolicies (samplePolicyEvents.take 4)).tables.bindings = [] := by
      decide +kernel
    have hmem : binding ∈ (runFrom PolicyWorld.step noPolicies (samplePolicyEvents.take 4)).tables.bindings := hbinding
    rw [hnone] at hmem
    cases hmem
  · intro _
    refine ⟨{ samplePolicyBinding with deactivatedAt := none, activeMarker := true }, ?_⟩
    have hlocked : (runFrom PolicyWorld.step noPolicies (samplePolicyEvents.take 9)).tables.lockedActive (samplePolicyId 9)
        (some (samplePolicyId 3)) = some { samplePolicyBinding with deactivatedAt := none, activeMarker := true } := by
      decide +kernel
    exact hlocked

theorem bindings_cover_sample : ∃ other ∈ (runFrom PolicyWorld.step noPolicies samplePolicyEvents).tables.bindings,
    other.accountId = samplePolicyBinding.accountId ∧
      Covers AccountRiskPolicyBinding.activatedAt AccountRiskPolicyBinding.deactivatedAt 250 other :=
  bindings_cover samplePolicyBinding_mem (by decide)

theorem bindings_tile_sample : ∃! other,
    other ∈ (runFrom PolicyWorld.step noPolicies samplePolicyEvents).tables.bindings ∧
      other.accountId = samplePolicyBinding.accountId ∧
      Covers AccountRiskPolicyBinding.activatedAt AccountRiskPolicyBinding.deactivatedAt 250 other :=
  bindings_tile samplePolicyEvents_noticed samplePolicyBinding_mem (by decide)

/-- The row of the approved version while it is in force. -/
def samplePolicyVersion : RiskPolicyVersion :=
  ⟨samplePolicyId 2, samplePolicyId 1, v6RiskPolicyVersion, true,
    policyRowValues (cashPolicy "DAVID_V6_CASH_KRW" .krxCash "KRW"), noCaps⟩

theorem samplePolicyVersion_mem : samplePolicyVersion ∈
    (runFrom PolicyWorld.step noPolicies (samplePolicyEvents.take 5)).tables.versions := by
  decide +kernel

theorem version_in_force_sample : ∃! other,
    other ∈ (runFrom PolicyWorld.step noPolicies
      (samplePolicyEvents.take 5 ++ samplePolicyEvents.drop 5)).tables.versions ∧
      other.policyId = samplePolicyVersion.policyId ∧ other.active = true :=
  version_in_force samplePolicyVersion_mem rfl (samplePolicyEvents.drop 5)

theorem samplePolicyEvents_resolve : (runFrom PolicyWorld.step noPolicies samplePolicyEvents).tables.resolve
    (runFrom PolicyWorld.step noPolicies (samplePolicyEvents ++ [])).tables List.head? [nextRiskPolicy]
    (samplePolicyId 9) .krxCash = some (nextRiskPolicy, samplePolicyId 5) := by
  decide +kernel

theorem resolve_authorized_sample : nextRiskPolicy ∈ [nextRiskPolicy] ∧ nextRiskPolicy.market = .krxCash ∧
    Begun PolicyWorld.step (Writes nextRiskPolicy (samplePolicyId 5)) (fun _ _ => False) noPolicies
      (samplePolicyEvents ++ []) ∧
    Begun PolicyWorld.step (PutsInForce (samplePolicyId 5)) (Supersedes (samplePolicyId 5)) noPolicies
      (samplePolicyEvents ++ []) ∧
    ∃ bindingId, Begun PolicyWorld.step (Binds bindingId (samplePolicyId 9) (samplePolicyId 5)) (Replaces bindingId)
      noPolicies samplePolicyEvents :=
  resolve_authorized (fun _ _ h => List.mem_of_mem_head? h) samplePolicyEvents_resolve

end AutoTrader.Risk
