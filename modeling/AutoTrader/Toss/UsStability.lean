import AutoTrader.Toss.UsReconciliation

/-! What a complete Toss US reconciliation was read from. Whatever calls were interrupted and resumed, its facts are those
of a capture that had the projection digest of an earlier one. -/

namespace AutoTrader.Toss

open AutoTrader.Domain AutoTrader.Execution AutoTrader.Runtime

/-! ### What is known of captures -/

/-- The digest of a second phase is that of a capture for the scope. -/
def PhaseKnown (sha256 : String → Digest) (captures : List TossUsCaptured) (scope : TossUsScope) : TossUsPhase → Prop
  | .firstCapture => True
  | .secondCapture digest =>
    ∃ captured ∈ captures, captured.scope = scope ∧ projectionDigest sha256 captured.reading = digest

/-- Of two captures for the scope, related in some way, the later has the snapshot and the orders. -/
def ReadTwice (R : TossUsReading → TossUsReading → Prop) (captures : List TossUsCaptured) (scope : TossUsScope)
    (snapshot : TossUsAccountSnapshot) (orders : List TossUsOrderFact) : Prop :=
  ∃ (i j : ℕ) (first second : TossUsCaptured), i < j ∧ captures[i]? = some first ∧ captures[j]? = some second ∧
    first.scope = scope ∧ second.scope = scope ∧ snapshot = second.reading.snapshot ∧ orders = second.reading.orders ∧
    R first.reading second.reading

def SameDigest (sha256 : String → Digest) (a b : TossUsReading) : Prop :=
  projectionDigest sha256 a = projectionDigest sha256 b

/-- What the row of a run tells is known. -/
def RowKnown (sha256 : String → Digest) (captures : List TossUsCaptured) (row : TossUsReconciliationRunRow) : Prop :=
  match row.status with
  | .inProgress phase => PhaseKnown sha256 captures row.scope phase
  | .complete bundle => ReadTwice (SameDigest sha256) captures row.scope bundle.snapshot bundle.orders

variable {sha256 : String → Digest} {factDigest : TossUsReading → Digest} {captures more : List TossUsCaptured}
  {scope : TossUsScope} {s : List TossUsCaptured}

theorem PhaseKnown.mono {phase : TossUsPhase} (h : PhaseKnown sha256 captures scope phase) (hmore : captures <+: more) :
    PhaseKnown sha256 more scope phase := by
  cases phase with
  | firstCapture => trivial
  | secondCapture digest =>
    obtain ⟨captured, hcaptured, hscope, hdigest⟩ := h
    exact ⟨captured, hmore.subset hcaptured, hscope, hdigest⟩

theorem ReadTwice.mono {R : TossUsReading → TossUsReading → Prop} {snapshot : TossUsAccountSnapshot}
    {orders : List TossUsOrderFact} (h : ReadTwice R captures scope snapshot orders) (hmore : captures <+: more) :
    ReadTwice R more scope snapshot orders := by
  have hkept {i : ℕ} {captured : TossUsCaptured} (hi : captures[i]? = some captured) : more[i]? = some captured := by
    obtain ⟨hlt, rfl⟩ := List.getElem?_eq_some_iff.mp hi
    exact List.prefix_iff_getElem?.mp hmore i hlt
  obtain ⟨i, j, first, second, hlt, hfirst, hsecond, hrest⟩ := h
  exact ⟨i, j, first, second, hlt, hkept hfirst, hkept hsecond, hrest⟩

theorem RowKnown.mono {row : TossUsReconciliationRunRow} (h : RowKnown sha256 captures row) (hmore : captures <+: more) :
    RowKnown sha256 more row := by
  unfold RowKnown at h ⊢
  split at h
  · exact PhaseKnown.mono h hmore
  · exact ReadTwice.mono h hmore

/-! ### The protocol of a call -/

/-- A thread knows some captures. It saves digests of these only, and completes only what it compared with one. -/
def tossUsProtocol (sha256 : String → Digest) : Protocol PyError TossUsOp TossUsOp.Result (List TossUsCaptured) where
  allows
    | s, .saveCheckpoint checkpoint => PhaseKnown sha256 s checkpoint.scope checkpoint.phase
    | s, .persistComplete result => ∀ snapshot, result.snapshot = some snapshot →
      ReadTwice (SameDigest sha256) s result.scope snapshot result.orders
    | _, _ => True
  moves
    | s, .captureOnce scope, .ok reading, s' => ∃ before, s <+: before ∧ s' = before ++ [⟨scope, reading⟩]
    | s, .loadCheckpoint bindingId providerAsOf, .ok (some checkpoint), s' => s <+: s' ∧
      checkpoint.scope.bindingId = bindingId ∧ checkpoint.scope.providerAsOf = providerAsOf ∧
      PhaseKnown sha256 s' checkpoint.scope checkpoint.phase
    | s, _, _, s' => s' = s
  ends _ := True

/-- Whatever a call does, it may do. -/
abbrev May (sha256 : String → Digest) (s : List TossUsCaptured) {α : Type} (x : TossUsAct α) : Prop :=
  x.Keeps (tossUsProtocol sha256) s (fun _ _ => True) fun _ _ => True

theorem keeps_captureTime (providerAsOf : Instant) :
    (captureTime providerAsOf).Keeps (tossUsProtocol sha256) s (fun s' _ => s' = s) fun _ _ => True := by
  unfold captureTime tossUs
  rw [Action.keeps_bind, Action.keeps_perform]
  refine ⟨trivial, fun instant s' hmove => ?_, fun _ _ _ => trivial⟩
  split
  · exact hmove
  · trivial

theorem keeps_captureOnce (scope : TossUsScope) :
    (captureOnce scope).Keeps (tossUsProtocol sha256) s
      (fun s' reading => match reading with
        | none => s' = s
        | some reading => ∃ before, s <+: before ∧ s' = before ++ [⟨scope, reading⟩])
      fun _ _ => True := by
  unfold captureOnce tossUs
  rw [Action.keeps_tryCatch, Action.keeps_bind, Action.keeps_perform]
  refine ⟨trivial, fun reading s' hmove => hmove, fun e s' hmove => ?_⟩
  split
  · trivial
  · exact hmove

theorem may_saveCheckpoint {checkpoint : TossUsReconciliationCheckpoint} {α : Type} {next : TossUsAct α}
    (hknown : PhaseKnown sha256 s checkpoint.scope checkpoint.phase) (hnext : May sha256 s next) :
    May sha256 s (do tossUs (.saveCheckpoint checkpoint); next) := by
  unfold May tossUs
  rw [Action.keeps_bind, Action.keeps_perform]
  refine ⟨hknown, fun _ s' hmove => ?_, fun _ _ _ => trivial⟩
  obtain rfl : s' = s := hmove
  exact hnext

theorem may_captureTime {providerAsOf : Instant} {α : Type} {next : Instant → TossUsAct α}
    (hnext : ∀ instant, May sha256 s (next instant)) :
    May sha256 s (do let instant ← captureTime providerAsOf; next instant) :=
  (keeps_captureTime providerAsOf).bind fun s' instant hs => by
    obtain rfl : s' = s := hs
    exact hnext instant

theorem may_validate {checkpoint : TossUsReconciliationCheckpoint} {α : Type} {next : TossUsAct α}
    (hnext : May sha256 s next) : May sha256 s (do Action.ofExcept checkpoint.validate; next) :=
  Action.Keeps.bind (m := fun s' _ => s' = s)
    ((Action.keeps_ofExcept ..).mpr ⟨fun _ _ => rfl, fun _ _ => trivial⟩) fun s' _ hs => by
      obtain rfl : s' = s := hs
      exact hnext

theorem may_captureOnce {scope : TossUsScope} {α : Type} {next : Option TossUsReading → TossUsAct α}
    (hnone : May sha256 s (next none))
    (hsome : ∀ reading before, s <+: before → May sha256 (before ++ [⟨scope, reading⟩]) (next (some reading))) :
    May sha256 s (do let reading ← captureOnce scope; next reading) :=
  (keeps_captureOnce scope).bind fun s' reading hs => by
    cases reading with
    | none =>
      obtain rfl : s' = s := hs
      exact hnone
    | some reading =>
      obtain ⟨before, hbefore, rfl⟩ := hs
      exact hsome reading before hbefore

theorem may_providerUnavailable {checkpoint : TossUsReconciliationCheckpoint}
    (hknown : PhaseKnown sha256 s checkpoint.scope checkpoint.phase) :
    May sha256 s (providerUnavailable factDigest scope checkpoint) :=
  may_saveCheckpoint hknown (may_captureTime fun _ => trivial)

/-- The later of two captures with one digest is the one that was just made. -/
theorem readTwice_of_known {before : List TossUsCaptured} {second : TossUsReading}
    (hknown : PhaseKnown sha256 s scope (.secondCapture (projectionDigest sha256 second))) (hbefore : s <+: before) :
    ReadTwice (SameDigest sha256) (before ++ [⟨scope, second⟩]) scope second.snapshot second.orders := by
  obtain ⟨first, hfirst, hscope, hdigest⟩ := hknown
  obtain ⟨i, hlt, hi⟩ := List.mem_iff_getElem.mp (hbefore.subset hfirst)
  refine ⟨i, before.length, first, ⟨scope, second⟩, hlt, ?_, ?_, hscope, rfl, rfl, rfl, hdigest⟩
  · rw [List.getElem?_append_left hlt, List.getElem?_eq_getElem hlt, hi]
  · exact List.getElem?_concat_length

theorem may_secondCapture {checkpoint : TossUsReconciliationCheckpoint} {digest : Digest}
    (hknown : PhaseKnown sha256 s checkpoint.scope checkpoint.phase)
    (hdigest : PhaseKnown sha256 s scope (.secondCapture digest)) :
    May sha256 s (secondCapture sha256 factDigest scope checkpoint digest) := by
  refine may_captureOnce (may_providerUnavailable hknown) fun second before hbefore => ?_
  dsimp only
  split
  · exact may_captureTime fun _ => may_validate (may_saveCheckpoint trivial (may_captureTime fun _ => trivial))
  · rename_i heq
    obtain rfl : digest = projectionDigest sha256 second := not_ne_iff.mp heq
    refine may_captureTime fun completedAt => ?_
    unfold May tossUs
    rw [Action.keeps_bind, Action.keeps_perform]
    refine ⟨fun snapshot hsnapshot => ?_, fun _ _ _ => trivial, fun _ _ _ => trivial⟩
    obtain rfl : second.snapshot = snapshot := Option.some.inj hsnapshot
    exact readTwice_of_known hdigest hbefore

theorem may_firstCapture {checkpoint : TossUsReconciliationCheckpoint} (hscope : checkpoint.scope = scope)
    (hknown : PhaseKnown sha256 s checkpoint.scope checkpoint.phase) :
    May sha256 s (firstCapture sha256 factDigest scope checkpoint) := by
  refine may_captureOnce (may_providerUnavailable hknown) fun first before hbefore => ?_
  have hfirst : PhaseKnown sha256 (before ++ [⟨scope, first⟩]) scope
      (.secondCapture (projectionDigest sha256 first)) :=
    ⟨⟨scope, first⟩, List.mem_append_right before (List.mem_singleton_self _), rfl, rfl⟩
  have hcaptured : PhaseKnown sha256 (before ++ [⟨scope, first⟩]) checkpoint.scope
      (.secondCapture (projectionDigest sha256 first)) := hscope ▸ hfirst
  exact may_captureTime fun _ =>
    may_validate (may_saveCheckpoint hcaptured (may_secondCapture hcaptured hfirst))

/-- A checkpoint to go on from is one of the binding and instant, and its digest is known. -/
theorem keeps_startCheckpoint (scope : TossUsScope) :
    (startCheckpoint scope).Keeps (tossUsProtocol sha256) s
      (fun s' checkpoint => checkpoint.scope.providerAsOf = scope.providerAsOf ∧
        PhaseKnown sha256 s' checkpoint.scope checkpoint.phase)
      fun _ _ => True := by
  unfold startCheckpoint tossUs
  rw [Action.keeps_bind, Action.keeps_perform]
  refine ⟨trivial, fun stored s' hmove => ?_, fun _ _ _ => trivial⟩
  cases stored with
  | some checkpoint =>
    obtain ⟨-, -, hasOf, hknown⟩ := hmove
    exact ⟨hasOf, hknown⟩
  | none =>
    rw [Action.keeps_bind, Action.keeps_perform]
    refine ⟨trivial, fun runId s'' _ => ?_, fun _ _ _ => trivial⟩
    refine (keeps_captureTime _).bind fun s₁ updatedAt _ => ?_
    refine Action.Keeps.bind (m := fun _ _ => True)
      ((Action.keeps_ofExcept ..).mpr ⟨fun _ _ => trivial, fun _ _ => trivial⟩) fun s₂ _ _ => ?_
    rw [Action.keeps_bind, Action.keeps_perform]
    exact ⟨trivial, fun _ s₃ _ => ⟨rfl, trivial⟩, fun _ _ _ => trivial⟩

theorem may_reconcileBody (scope : TossUsScope) : May sha256 s (reconcileBody sha256 factDigest scope) := by
  refine (keeps_startCheckpoint scope).bind fun s' checkpoint ⟨hasOf, hknown⟩ => ?_
  split
  · trivial
  · rename_i hsame
    rw [not_or, not_ne_iff, not_ne_iff] at hsame
    have hscope : checkpoint.scope = scope := by
      cases hcheckpoint : checkpoint.scope
      cases scope
      rw [hcheckpoint] at hasOf hsame
      exact TossUsScope.mk.injEq .. ▸ ⟨hsame.1, hsame.2, hasOf⟩
    split
    · exact may_firstCapture hscope hknown
    · rename_i digest hphase
      exact may_secondCapture hknown (hphase ▸ hscope ▸ hknown)

theorem may_reconcileTossUsCash (scope : TossUsScope) :
    May sha256 s (reconcileTossUsCash sha256 factDigest scope) := by
  refine Action.Keeps.tryCatch (may_reconcileBody scope) fun s' e _ => ?_
  split
  · trivial
  · trivial

/-! ### The rows of every table -/

/-- What the rows of a table tell is known. -/
def TableKnown (sha256 : String → Digest) (captures : List TossUsCaptured) (rows : List TossUsReconciliationRunRow) :
    Prop := ∀ row ∈ rows, RowKnown sha256 captures row

variable {rows written : List TossUsReconciliationRunRow}

theorem TableKnown.append {run : TossUsReconciliationRunRow} (h : TableKnown sha256 captures rows)
    (hrun : RowKnown sha256 captures run) : TableKnown sha256 captures (rows ++ [run]) := by
  intro row hrow
  rcases List.mem_append.mp hrow with hold | hnew
  · exact h row hold
  · exact List.mem_singleton.mp hnew ▸ hrun

theorem TableKnown.replaceRun {run : TossUsReconciliationRunRow} (h : TableKnown sha256 captures rows)
    (hrun : RowKnown sha256 captures run) : TableKnown sha256 captures (replaceRun rows run) := by
  intro row hrow
  obtain ⟨old, hold, rfl⟩ := List.mem_map.mp hrow
  split
  · exact hrun
  · exact h old hold

theorem loadCheckpoint_known {bindingId : UUID} {providerAsOf : Instant} {checkpoint : TossUsReconciliationCheckpoint}
    (h : TableKnown sha256 captures rows) (hload : loadCheckpoint rows bindingId providerAsOf = some checkpoint) :
    checkpoint.scope.bindingId = bindingId ∧ checkpoint.scope.providerAsOf = providerAsOf ∧
      PhaseKnown sha256 captures checkpoint.scope checkpoint.phase := by
  unfold loadCheckpoint at hload
  split at hload
  · cases hload
  · rename_i row hfind
    have hrow := h row (List.mem_of_find?_eq_some hfind)
    have hof := List.find?_some hfind
    rw [Bool.and_eq_true, TossUsReconciliationRunRow.isOf, decide_eq_true_eq] at hof
    unfold RowKnown at hrow
    split at hload
    · rename_i phase hstatus
      rw [hstatus] at hrow
      obtain rfl := Option.some.inj hload
      exact ⟨hof.1.1, hof.1.2, hrow⟩
    · cases hload

/-- The row of a checkpoint has its account too, so a replaced row keeps its scope. -/
theorem persistCheckpoint_known {checkpoint : TossUsReconciliationCheckpoint} (h : TableKnown sha256 captures rows)
    (hknown : PhaseKnown sha256 captures checkpoint.scope checkpoint.phase)
    (hwrite : persistCheckpoint rows checkpoint = .ok written) : TableKnown sha256 captures written := by
  unfold persistCheckpoint at hwrite
  split at hwrite
  · split at hwrite
    · cases hwrite
    · obtain rfl := Except.ok.inj hwrite
      exact h.append hknown
  · rename_i existing hfind
    have hof := List.find?_some hfind
    rw [TossUsReconciliationRunRow.isOf, decide_eq_true_eq] at hof
    split at hwrite
    · cases hwrite
    · rename_i hsame
      simp only [not_or, not_ne_iff] at hsame
      have hscope : existing.scope = checkpoint.scope := by
        cases hexisting : existing.scope
        cases hcheckpoint : checkpoint.scope
        rw [hexisting, hcheckpoint] at hof hsame
        exact TossUsScope.mk.injEq .. ▸ ⟨hof.1, hsame.2.2.1, hof.2⟩
      obtain rfl := Except.ok.inj hwrite
      refine h.replaceRun ?_
      show PhaseKnown sha256 captures existing.scope checkpoint.phase
      rw [hscope]
      exact hknown

theorem persistComplete_known {result : TossUsReconciliationResult} (h : TableKnown sha256 captures rows)
    (hread : ∀ snapshot, result.snapshot = some snapshot →
      ReadTwice (SameDigest sha256) captures result.scope snapshot result.orders)
    (hwrite : persistComplete rows result = .ok written) : TableKnown sha256 captures written := by
  unfold persistComplete at hwrite
  split at hwrite
  · rename_i snapshot hstate hsnapshot
    split at hwrite
    · cases hwrite
    · unfold persistCompletedRun at hwrite
      split at hwrite
      · cases hwrite
      split at hwrite
      · cases hwrite
      dsimp only at hwrite
      split at hwrite
      · split at hwrite
        · cases hwrite
        · obtain rfl := Except.ok.inj hwrite
          exact h.append (hread snapshot hsnapshot)
      · split at hwrite
        · cases hwrite
        · obtain rfl := Except.ok.inj hwrite
          exact h.replaceRun (hread snapshot hsnapshot)
  · cases hwrite

/-! ### Any number of calls -/

/-- Every table there has been is known. -/
def WorldKnown (sha256 : String → Digest) (w : TossUsWorld) : Prop :=
  ∀ rows ∈ w.tables, TableKnown sha256 w.captures rows

variable {w w' : TossUsWorld}

theorem WorldKnown.write {table : ℕ}
    {change : List TossUsReconciliationRunRow → Except PyError (List TossUsReconciliationRunRow)}
    {r : Except PyError Unit} (h : WorldKnown sha256 w)
    (hchange : ∀ rows written, TableKnown sha256 w.captures rows → change rows = .ok written →
      TableKnown sha256 w.captures written)
    (hwrite : w.write table change = some (w', r)) : WorldKnown sha256 w' ∧ w'.captures = w.captures := by
  unfold TossUsWorld.write at hwrite
  split at hwrite
  · cases hwrite
  · rename_i rows hrows
    split at hwrite
    · cases hwrite
      exact ⟨h, rfl⟩
    · rename_i written hwritten
      cases hwrite
      refine ⟨fun table htable => ?_, rfl⟩
      rcases List.mem_cons.mp htable with rfl | hold
      · exact hchange rows table (h rows (List.mem_of_getElem? hrows)) hwritten
      · exact h table hold

/-- A thread knows captures that were made. -/
def TossUsFits (sha256 : String → Digest) (w : TossUsWorld) (phases : List (List TossUsCaptured)) : Prop :=
  WorldKnown sha256 w ∧ ∀ s ∈ phases, s <+: w.captures

theorem moves_error (s : List TossUsCaptured) (o : TossUsOp) (e : PyError) :
    (tossUsProtocol sha256).moves s o (.error e) s := by
  cases o <;> rfl

theorem WorldKnown.answerLost {table : ℕ} {e : PyError}
    {change : List TossUsReconciliationRunRow → Except PyError (List TossUsReconciliationRunRow)}
    {r : Except PyError Unit} (h : WorldKnown sha256 w)
    (hchange : ∀ rows written, TableKnown sha256 w.captures rows → change rows = .ok written →
      TableKnown sha256 w.captures written)
    (hlost : answerLost e (w.write table change) = some (w', r)) :
    WorldKnown sha256 w' ∧ w'.captures = w.captures := by
  obtain ⟨⟨written, answer⟩, hwrite, hdone⟩ := Option.map_eq_some_iff.mp hlost
  cases hdone
  exact h.write hchange hwrite

/-- What an answer does to the world, and what the thread knows after it. -/
theorem tossUsAnswer_sustains (h : WorldKnown sha256 w) (hs : s <+: w.captures) {o : TossUsOp} {choice : TossUsChoice}
    (hallows : (tossUsProtocol sha256).allows s o) {r : Except PyError o.Result}
    (hanswer : tossUsAnswer w o choice = some (w', r)) :
    WorldKnown sha256 w' ∧ w.captures <+: w'.captures ∧
      ∃ s', (tossUsProtocol sha256).moves s o r s' ∧ s' <+: w'.captures := by
  have hwritten (hkept : WorldKnown sha256 w' ∧ w'.captures = w.captures)
      (hmove : (tossUsProtocol sha256).moves s o r s) : WorldKnown sha256 w' ∧ w.captures <+: w'.captures ∧
        ∃ s', (tossUsProtocol sha256).moves s o r s' ∧ s' <+: w'.captures :=
    ⟨hkept.1, hkept.2 ▸ List.prefix_rfl, s, hmove, hkept.2 ▸ hs⟩
  unfold tossUsAnswer at hanswer
  split at hanswer
  · cases hanswer
    exact ⟨h, List.prefix_rfl, s, moves_error s o _, hs⟩
  · obtain ⟨rows, hrows, hdone⟩ := Option.map_eq_some_iff.mp hanswer
    cases hdone
    cases hload : loadCheckpoint rows _ _ with
    | none => exact ⟨h, List.prefix_rfl, s, rfl, hs⟩
    | some checkpoint =>
      obtain ⟨hbinding, hasOf, hknown⟩ := loadCheckpoint_known (h rows (List.mem_of_getElem? hrows)) hload
      exact ⟨h, List.prefix_rfl, w.captures, ⟨hs, hbinding, hasOf, hknown⟩, List.prefix_rfl⟩
  · exact hwritten (h.write (fun _ _ hrows => persistCheckpoint_known hrows (PhaseKnown.mono hallows hs)) hanswer) rfl
  · exact hwritten (h.answerLost (fun _ _ hrows => persistCheckpoint_known hrows (PhaseKnown.mono hallows hs)) hanswer)
      rfl
  · exact hwritten (h.write (fun _ _ hrows => persistComplete_known hrows fun snapshot hsnapshot =>
      (hallows snapshot hsnapshot).mono hs) hanswer) rfl
  · exact hwritten (h.answerLost (fun _ _ hrows => persistComplete_known hrows fun snapshot hsnapshot =>
      (hallows snapshot hsnapshot).mono hs) hanswer) rfl
  · cases hanswer
    exact ⟨h, List.prefix_rfl, s, rfl, hs⟩
  · cases hanswer
    exact ⟨h, List.prefix_rfl, s, rfl, hs⟩
  · cases hanswer
    exact ⟨fun rows hrows row hrow => (h rows hrows row hrow).mono (List.prefix_append _ _), List.prefix_append _ _,
      _, ⟨w.captures, hs, rfl⟩, List.prefix_rfl⟩
  · cases hanswer

theorem tossUs_sound (sha256 : String → Digest) (factDigest : TossUsReading → Digest) :
    (tossUsPool sha256 factDigest).Sound (tossUsProtocol sha256) (TossUsFits sha256) [] where
  body scope := (Program.obeys_bind _ _ _).mpr (Program.Obeys.mono (fun _ _ _ => trivial) (may_reconcileTossUsCash scope))
  call w phases hfits := by
    refine ⟨hfits.1, fun s hs => ?_⟩
    rcases List.mem_append.mp hs with hold | hnew
    · exact hfits.2 s hold
    · rw [List.mem_singleton.mp hnew]
      exact List.nil_prefix
  answer w phases i s o choice w' r hfits hi hallows hanswer := by
    obtain ⟨hknown, hgrows, s', hmove, hs'⟩ :=
      tossUsAnswer_sustains hfits.1 (hfits.2 s (List.mem_of_getElem? hi)) hallows hanswer
    refine ⟨s', hmove, hknown, fun t ht => ?_⟩
    rcases List.mem_or_eq_of_mem_set ht with hold | rfl
    · exact (hfits.2 t hold).trans hgrows
    · exact hs'

/-- In every run, the rows of every table tell what is known. -/
theorem run_known (sha256 : String → Digest) (factDigest : TossUsReading → Digest)
    (events : List (Pool.Event TossUsScope TossUsChoice)) :
    WorldKnown sha256 (runFrom (tossUsPool sha256 factDigest).step tossUsStart events).world := by
  have hstart : WorldKnown sha256 tossUsStart.world := fun rows hrows row hrow =>
    absurd (List.mem_singleton.mp hrows ▸ hrow) List.not_mem_nil
  obtain ⟨phases, hfits, -⟩ := (tossUs_sound sha256 factDigest).run
    (c := tossUsStart) ⟨[], ⟨hstart, fun _ h => absurd h List.not_mem_nil⟩, .nil⟩ events
  exact hfits.1

end AutoTrader.Toss
