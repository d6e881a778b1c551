import AutoTrader.Runtime.Origins
import AutoTrader.Runtime.Pointwise
import AutoTrader.Universe.Authorities

/-! The universe tables say what was published. In every run, activations racing each other included, a question about
a date is answered from the last list that was published for that date or one before it; what has been settled by a
later publication is never answered otherwise; and a list is read back from the tables with the digest it was stored
under. -/

namespace AutoTrader.Universe

open AutoTrader.Domain AutoTrader.Execution AutoTrader.Runtime

variable {Key : Type} [LinearOrder Key] {collate : PyText → Key} {sha256 : String → Digest} {t t' : UniverseTables}
  {g : Gazette} {w : AuthorityWorld} {row : UniverseSnapshotRow} {p : Publication}

/-! ### Rows and what they stand for -/

/-- The row of a publication, and the member rows beside it. -/
structure Stores (collate : PyText → Key) (sha256 : String → Digest) (members : List UniverseSnapshotMemberRow)
    (row : UniverseSnapshotRow) (p : Publication) : Prop where
  id : row.id = p.id
  universeCode : row.universeCode = p.manifest.universeCode
  effectiveDate : row.effectiveDate = p.manifest.effectiveDate
  contentDigest : p.manifest.contentDigest sha256 = .ok row.contentDigest
  provenance : row.provenance = p.manifest.provenance
  members : members.filter (fun m => decide (m.snapshotId = row.id)) =
    p.manifest.members.map (memberRow row.id row.universeCode)
  read : WasRead p.manifest
  distinct : (p.manifest.members.map fun m => collate m.symbol).Nodup

/-- The tables hold the uploads; the rows that were activated are those that were published, each for a later date than
those before it; and the one that is marked is the last. -/
structure Represents (collate : PyText → Key) (sha256 : String → Digest) (t : UniverseTables) (g : Gazette) : Prop where
  stored : List.Forall₂ (Stores collate sha256 t.members) t.snapshots g.uploads
  ids : (t.snapshots.map (·.id)).Nodup
  days : ∀ a ∈ t.snapshots, ∀ b ∈ t.snapshots, a.universeCode = b.universeCode →
    a.effectiveDate = b.effectiveDate → a.id = b.id
  owned : ∀ m ∈ t.members, ∃ row ∈ t.snapshots, row.id = m.snapshotId
  published : ∀ p ∈ g.published, p ∈ g.uploads
  activated : ∀ row ∈ t.snapshots, row.activatedAt.isSome = true ↔ row.id ∈ g.published.map (·.id)
  advancing : ∀ universeCode, Advancing Publication.since (g.timeline universeCode)
  active : ∀ row ∈ t.snapshots, row.activeMarker = true ↔ row.id ∈ g.published.map (·.id) ∧
    ∀ p ∈ g.timeline row.universeCode, p.since ≤ row.effectiveDate.days

theorem Stores.since (h : Stores collate sha256 t.members row p) : p.since = row.effectiveDate.days := by
  rw [Publication.since, h.effectiveDate]

theorem Gazette.mem_timeline {universeCode : PyText} :
    p ∈ g.timeline universeCode ↔ p ∈ g.published ∧ p.manifest.universeCode = universeCode := by
  rw [Gazette.timeline, List.mem_filter, decide_eq_true_eq]

namespace Represents

theorem uploadIds (h : Represents collate sha256 t g) : g.uploads.map (·.id) = t.snapshots.map (·.id) := by
  rw [← List.forall₂_eq_eq_eq, List.forall₂_map_left_iff, List.forall₂_map_right_iff]
  exact (h.stored.imp fun _ _ hstores => hstores.id.symm).flip

theorem upload_unique (h : Represents collate sha256 t g) {q : Publication} (hp : p ∈ g.uploads) (hq : q ∈ g.uploads)
    (heq : p.id = q.id) : p = q :=
  List.inj_on_of_nodup_map (h.uploadIds ▸ h.ids) hp hq heq

theorem row_unique (h : Represents collate sha256 t g) {other : UniverseSnapshotRow} (hrow : row ∈ t.snapshots)
    (hother : other ∈ t.snapshots) (heq : row.id = other.id) : row = other :=
  List.inj_on_of_nodup_map h.ids hrow hother heq

theorem row_of_upload (h : Represents collate sha256 t g) (hp : p ∈ g.uploads) :
    ∃ row ∈ t.snapshots, Stores collate sha256 t.members row p :=
  exists_of_mem_right h.stored hp

theorem upload_of_row (h : Represents collate sha256 t g) (hrow : row ∈ t.snapshots) :
    ∃ p ∈ g.uploads, Stores collate sha256 t.members row p :=
  exists_of_mem_right (T := fun p row => Stores collate sha256 t.members row p) h.stored.flip hrow

/-- A row and a publication of one id belong together. -/
theorem stores (h : Represents collate sha256 t g) (hrow : row ∈ t.snapshots) (hp : p ∈ g.uploads)
    (heq : row.id = p.id) : Stores collate sha256 t.members row p := by
  obtain ⟨q, hq, hstores⟩ := h.upload_of_row hrow
  rwa [h.upload_unique hp hq (heq.symm.trans hstores.id)]

theorem publication_of_row (h : Represents collate sha256 t g) (hrow : row ∈ t.snapshots)
    (hpublished : row.id ∈ g.published.map (·.id)) :
    ∃ p ∈ g.timeline row.universeCode, p.id = row.id ∧ Stores collate sha256 t.members row p := by
  obtain ⟨p, hp, hid⟩ := List.mem_map.mp hpublished
  have hstores := h.stores hrow (h.published p hp) hid.symm
  exact ⟨p, Gazette.mem_timeline.mpr ⟨hp, hstores.universeCode.symm⟩, hid, hstores⟩

end Represents

/-! ### Storing -/

theorem stage_ok {id : UUID} {manifest : UniverseManifest} {stagedAt : Instant} {stagedBy : PyText}
    (h : t.stage collate sha256 id manifest stagedAt stagedBy = .ok t') :
    ∃ digest actor, manifest.contentDigest sha256 = .ok digest ∧ (∀ row ∈ t.snapshots, row.id ≠ id) ∧
      (∀ row ∈ t.snapshots, row.universeCode = manifest.universeCode → row.effectiveDate ≠ manifest.effectiveDate) ∧
      (manifest.members.map fun m => collate m.symbol).Nodup ∧
      t' = ⟨t.snapshots ++ [stagedRow id manifest digest stagedAt actor],
        t.members ++ manifest.members.map (memberRow id manifest.universeCode)⟩ := by
  unfold UniverseTables.stage at h
  obtain ⟨actor, -, h⟩ := bind_ok.mp h
  split at h
  · cases h
  rename_i hday
  obtain ⟨digest, hdigest, h⟩ := bind_ok.mp h
  split at h
  · cases h
  rename_i hid
  split at h
  · cases h
  rename_i hdistinct
  split at h
  · cases h
  cases h
  refine ⟨digest, actor, ?_, ?_, ?_, not_not.mp hdistinct, rfl⟩
  · cases hresult : manifest.contentDigest sha256 with
    | ok found =>
      rw [hresult] at hdigest
      cases hdigest
      rfl
    | error error =>
      rw [hresult] at hdigest
      cases hdigest
  · exact Rows.lookup_eq_none.mp (Option.not_isSome_iff_eq_none.mp hid)
  · intro row hrow hcode hdate
    refine hday (List.find?_isSome.mpr ⟨row, hrow, ?_⟩)
    simp [hcode, hdate]

theorem Represents.stage (h : Represents collate sha256 t g) {id : UUID}
    (manifest : {m : UniverseManifest // WasRead m}) {stagedAt : Instant} {stagedBy : PyText}
    (hstage : t.stage collate sha256 id manifest stagedAt stagedBy = .ok t') :
    Represents collate sha256 t' { g with uploads := g.uploads ++ [⟨id, manifest⟩] } := by
  obtain ⟨digest, actor, hdigest, hfresh, hday, hdistinct, rfl⟩ := stage_ok hstage
  have hnew (row : UniverseSnapshotRow) (hne : row.id ≠ id) :
      (manifest.val.members.map (memberRow id manifest.val.universeCode)).filter
        (fun m => decide (m.snapshotId = row.id)) = [] := by
    refine List.filter_eq_nil_iff.mpr fun m hm => ?_
    obtain ⟨member, -, rfl⟩ := List.mem_map.mp hm
    exact fun htrue => hne (of_decide_eq_true htrue).symm
  have hall : (manifest.val.members.map (memberRow id manifest.val.universeCode)).filter
      (fun m => decide (m.snapshotId = id)) = manifest.val.members.map (memberRow id manifest.val.universeCode) := by
    refine List.filter_eq_self.mpr fun m hm => ?_
    obtain ⟨member, -, rfl⟩ := List.mem_map.mp hm
    simp [memberRow]
  have hold : t.members.filter (fun m => decide (m.snapshotId = id)) = [] := by
    refine List.filter_eq_nil_iff.mpr fun m hm => ?_
    obtain ⟨row, hrow, hid⟩ := h.owned m hm
    simpa [← hid] using hfresh row hrow
  have hunpublished : id ∉ g.published.map (·.id) := by
    intro hmem
    obtain ⟨p, hp, hid⟩ := List.mem_map.mp hmem
    obtain ⟨row, hrow, hstores⟩ := h.row_of_upload (h.published p hp)
    exact hfresh row hrow (hstores.id.trans hid)
  refine ⟨?_, ?_, ?_, ?_, ?_, ?_, h.advancing, ?_⟩
  · refine List.rel_append (((List.forall₂_and_left _ _).mpr ⟨hfresh, h.stored⟩).imp ?_) (.cons ?_ .nil)
    · rintro row p ⟨hne, hstores⟩
      refine ⟨hstores.id, hstores.universeCode, hstores.effectiveDate, hstores.contentDigest, hstores.provenance, ?_,
        hstores.read, hstores.distinct⟩
      rw [List.filter_append, hnew row hne, List.append_nil, hstores.members]
    · refine ⟨rfl, rfl, rfl, hdigest, rfl, ?_, manifest.property, hdistinct⟩
      show List.filter (fun m : UniverseSnapshotMemberRow => decide (m.snapshotId = id)) _ = _
      rw [List.filter_append, hold, List.nil_append]
      exact hall
  · rw [List.map_append, List.nodup_append]
    refine ⟨h.ids, List.nodup_singleton _, fun a ha b hb heq => ?_⟩
    obtain ⟨row, hrow, rfl⟩ := List.mem_map.mp ha
    exact hfresh row hrow (heq.trans (List.mem_singleton.mp hb))
  · intro a ha b hb hcode hdate
    rcases List.mem_append.mp ha with ha | ha <;> rcases List.mem_append.mp hb with hb | hb
    · exact h.days a ha b hb hcode hdate
    · rw [List.mem_singleton.mp hb] at hcode hdate
      exact absurd hdate (hday a ha hcode)
    · rw [List.mem_singleton.mp ha] at hcode hdate
      exact absurd hdate.symm (hday b hb hcode.symm)
    · rw [List.mem_singleton.mp ha, List.mem_singleton.mp hb]
  · intro m hm
    rcases List.mem_append.mp hm with hm | hm
    · obtain ⟨row, hrow, hid⟩ := h.owned m hm
      exact ⟨row, List.mem_append_left _ hrow, hid⟩
    · obtain ⟨member, -, rfl⟩ := List.mem_map.mp hm
      exact ⟨_, List.mem_append_right _ (List.mem_singleton_self _), rfl⟩
  · exact fun p hp => List.mem_append_left _ (h.published p hp)
  · intro row hrow
    rcases List.mem_append.mp hrow with hrow | hrow
    · exact h.activated row hrow
    · rw [List.mem_singleton.mp hrow]
      exact iff_of_false (by simp [stagedRow]) hunpublished
  · intro row hrow
    rcases List.mem_append.mp hrow with hrow | hrow
    · exact h.active row hrow
    · rw [List.mem_singleton.mp hrow]
      exact iff_of_false (by simp [stagedRow]) fun hactive => hunpublished hactive.1

/-! ### Putting in force -/

/-- The row of the same snapshot at another time. -/
structure SameSnapshot (row row' : UniverseSnapshotRow) : Prop where
  id : row'.id = row.id
  universeCode : row'.universeCode = row.universeCode
  effectiveDate : row'.effectiveDate = row.effectiveDate

/-- What was read is there. -/
def Earlier (old t : UniverseTables) : Prop := ∀ row ∈ old.snapshots, ∃ row' ∈ t.snapshots, SameSnapshot row row'

theorem activationWrites_columns (rowId : UUID) (currentId : Option UUID) (moment : Instant) (actor : PyText)
    (row : UniverseSnapshotRow) :
    let row' := activationWrites rowId currentId moment actor row
    row'.id = row.id ∧ row'.universeCode = row.universeCode ∧ row'.effectiveDate = row.effectiveDate ∧
      row'.contentDigest = row.contentDigest ∧ row'.provenance = row.provenance := by
  unfold activationWrites supersededRow activatedRow
  dsimp only
  split <;> split <;> exact ⟨rfl, rfl, rfl, rfl, rfl⟩

theorem activationWrites_of_ne {rowId : UUID} {currentId : Option UUID} {moment : Instant} {actor : PyText}
    (hrow : row.id ≠ rowId) : (activationWrites rowId currentId moment actor row).activatedAt = row.activatedAt ∧
      (activationWrites rowId currentId moment actor row).activeMarker =
        (if currentId = some row.id then false else row.activeMarker) := by
  unfold activationWrites supersededRow
  dsimp only
  split <;> exact ⟨rfl, rfl⟩

theorem activationWrites_of_eq {rowId : UUID} (currentId : Option UUID) (moment : Instant) (actor : PyText)
    (hrow : row.id = rowId) : (activationWrites rowId currentId moment actor row).activatedAt = some moment ∧
      (activationWrites rowId currentId moment actor row).activatedBy = some actor ∧
      (activationWrites rowId currentId moment actor row).activeMarker = true ∧
      (activationWrites rowId currentId moment actor row).supersededAt =
        (if currentId = some row.id then some moment else row.supersededAt) := by
  unfold activationWrites supersededRow activatedRow
  dsimp only
  split <;> exact ⟨rfl, rfl, rfl, rfl⟩

/-- An activation that was carried out, over the rows as they were by then. -/
structure Activation (t t' : UniverseTables) (target : UniverseSnapshotRow) (currentId : Option UUID) (moment : Instant)
    (actor : PyText) : Prop where
  mem : target ∈ t.snapshots
  current : ∀ row ∈ t.snapshots, currentId = some row.id →
    row.universeCode = target.universeCode ∧ row.effectiveDate.days ≤ target.effectiveDate.days
  result : t' = { t with snapshots := t.snapshots.map (activationWrites target.id currentId moment actor) }
  oneActive : oneActive t'.snapshots = true
  lifecycles : ∀ row ∈ t'.snapshots, lifecycle row = true

theorem activate_ok {rowRead activeRead : UniverseTables} {snapshotId : UUID} {activatedAt : Instant}
    {activatedBy : PyText} (hids : (t.snapshots.map (·.id)).Nodup) (hrowRead : Earlier rowRead t)
    (hactiveRead : Earlier activeRead t)
    (h : t.activate rowRead activeRead snapshotId activatedAt activatedBy = .ok t') :
    ∃ target currentId actor, target.id = snapshotId ∧ Activation t t' target currentId activatedAt actor := by
  unfold UniverseTables.activate at h
  obtain ⟨actor, -, h⟩ := bind_ok.mp h
  cases hfound : rowRead.snapshot snapshotId with
  | none =>
    rw [hfound] at h
    cases h
  | some row =>
    rw [hfound] at h
    dsimp only at h
    split at h
    · cases h
    split at h
    · cases h
    split at h
    · cases h
    rename_i holder
    split at h
    · cases h
    rename_i hactive
    split at h
    · cases h
    rename_i hlifecycle
    cases h
    obtain ⟨target, htarget, hsame⟩ := hrowRead row (List.mem_of_find?_eq_some hfound)
    have hkey : row.id = snapshotId := by
      have hchosen := List.find?_some hfound
      exact of_decide_eq_true hchosen
    refine ⟨target, (activeRead.activeRow row.universeCode).map (·.id), actor, hsame.id.trans hkey, htarget,
      fun other hother hid => ?_, ?_, ?_, ?_⟩
    · obtain ⟨c, hc, hcid⟩ := Option.map_eq_some_iff.mp hid
      obtain ⟨c', hc', hcsame⟩ := hactiveRead c (List.mem_of_find?_eq_some hc)
      have hother' : other = c' :=
        List.inj_on_of_nodup_map hids hother hc' (hcid.symm.trans hcsame.id.symm)
      have hcode := List.find?_some hc
      simp only [Bool.and_eq_true, decide_eq_true_eq] at hcode
      rw [hother', hcsame.universeCode, hcsame.effectiveDate, hsame.universeCode, hsame.effectiveDate]
      exact ⟨hcode.1, not_lt.mp fun hlt => holder ((Option.any_eq_true _ _).mpr ⟨c, hc, decide_eq_true hlt⟩)⟩
    · rw [hsame.id]
    · simpa using hactive
    · simpa using hlifecycle

section

variable {target : UniverseSnapshotRow} {currentId : Option UUID} {moment : Instant} {actor : PyText}

/-- The rows of a universe that are marked after it, are the one that was put in force. -/
theorem Activation.single (ha : Activation t t' target currentId moment actor) {row : UniverseSnapshotRow}
    (hrow : row ∈ t.snapshots) (hcode : row.universeCode = target.universeCode)
    (hmarked : (activationWrites target.id currentId moment actor row).activeMarker = true) : row.id = target.id := by
  have hone := of_decide_eq_true ha.oneActive
  have hmem (other : UniverseSnapshotRow) (hother : other ∈ t.snapshots)
      (hmarked : (activationWrites target.id currentId moment actor other).activeMarker = true) :
      activationWrites target.id currentId moment actor other ∈ t'.snapshots.filter (·.activeMarker) := by
    rw [ha.result]
    exact List.mem_filter.mpr ⟨List.mem_map_of_mem hother, hmarked⟩
  have hcodes (other : UniverseSnapshotRow) :
      (activationWrites target.id currentId moment actor other).universeCode = other.universeCode :=
    (activationWrites_columns target.id currentId moment actor other).2.1
  have hsame : activationWrites target.id currentId moment actor row =
      activationWrites target.id currentId moment actor target := by
    refine List.inj_on_of_nodup_map hone (hmem row hrow hmarked)
      (hmem target ha.mem (activationWrites_of_eq _ _ _ rfl).2.2.1) ?_
    rw [hcodes, hcodes, hcode]
  have hid := congrArg (fun row : UniverseSnapshotRow => row.id) hsame
  rwa [(activationWrites_columns target.id currentId moment actor row).1,
    (activationWrites_columns target.id currentId moment actor target).1] at hid

/-- What was published before of the universe, was published for an earlier date. -/
theorem Activation.later (ha : Activation t t' target currentId moment actor) (h : Represents collate sha256 t g)
    (hp : p ∈ g.timeline target.universeCode) (hne : p.id ≠ target.id) : p.since < target.effectiveDate.days := by
  have hstrict {q : Publication} {row : UniverseSnapshotRow} (hrow : row ∈ t.snapshots)
      (hstores : Stores collate sha256 t.members row q) (hcode : row.universeCode = target.universeCode)
      (hne : row.id ≠ target.id) (hle : q.since ≤ target.effectiveDate.days) : q.since < target.effectiveDate.days := by
    refine lt_of_le_of_ne hle fun heq => hne (h.days row hrow target ha.mem hcode (CalendarDate.ext ?_))
    rw [← hstores.since, heq]
  have hrowOf {q : Publication} (hq : q ∈ g.timeline target.universeCode) :
      ∃ row ∈ t.snapshots, Stores collate sha256 t.members row q ∧ row.universeCode = target.universeCode := by
    obtain ⟨hmem, hcode⟩ := Gazette.mem_timeline.mp hq
    obtain ⟨row, hrow, hstores⟩ := h.row_of_upload (h.published q hmem)
    exact ⟨row, hrow, hstores, hstores.universeCode.trans hcode⟩
  cases hlast : greatest? Publication.since (g.timeline target.universeCode) with
  | none =>
    rw [greatest?_eq_none.mp hlast] at hp
    cases hp
  | some last =>
    obtain ⟨hmem, hgreatest⟩ := greatest?_some hlast
    obtain ⟨row, hrow, hstores, hcode⟩ := hrowOf hmem
    obtain ⟨prow, hprow, hpstores, hpcode⟩ := hrowOf hp
    have hpne : prow.id ≠ target.id := fun heq => hne (hpstores.id.symm.trans heq)
    by_cases htarget : row.id = target.id
    · refine hstrict hprow hpstores hpcode hpne ((hgreatest p hp).trans ?_)
      rw [hstores.since, h.row_unique hrow ha.mem htarget]
    · -- the last list is marked, and the mark has to go
      have hmarked : row.activeMarker = true := by
        refine (h.active row hrow).mpr ⟨List.mem_map.mpr ⟨last, (Gazette.mem_timeline.mp hmem).1, hstores.id.symm⟩, ?_⟩
        intro q hq
        rw [hcode] at hq
        exact (hgreatest q hq).trans_eq hstores.since
      have hcurrent : currentId = some row.id := by
        by_contra hother
        refine htarget (ha.single hrow hcode ?_)
        rw [(activationWrites_of_ne htarget).2, if_neg hother, hmarked]
      have hle : last.since ≤ target.effectiveDate.days := by
        rw [hstores.since]
        exact (ha.current row hrow hcurrent).2
      exact (hgreatest p hp).trans_lt (hstrict hrow hstores hcode htarget hle)

theorem publish_cases (g : Gazette) {id : UUID} (h : Rows.lookup Publication.id g.uploads id = some p) :
    (id ∈ g.published.map (·.id) ∧ g.publish id = g) ∨
      (id ∉ g.published.map (·.id) ∧ g.publish id = { g with published := g.published ++ [p] }) := by
  unfold Gazette.publish
  rw [h]
  by_cases hmem : id ∈ g.published.map (·.id)
  · exact .inl ⟨hmem, if_pos hmem⟩
  · exact .inr ⟨hmem, if_neg hmem⟩

/-- What is published with a list that is put in force. -/
structure Published (g g' : Gazette) (p : Publication) : Prop where
  uploads : g'.uploads = g.uploads
  ids : ∀ id, id ∈ g'.published.map (·.id) ↔ id ∈ g.published.map (·.id) ∨ id = p.id
  mem : ∀ q ∈ g'.published, q ∈ g.published ∨ q = p
  timeline : ∀ universeCode q, q ∈ g'.timeline universeCode ↔
    q ∈ g.timeline universeCode ∨ q = p ∧ p.manifest.universeCode = universeCode
  advancing : (∀ universeCode, Advancing Publication.since (g.timeline universeCode)) →
    (∀ q ∈ g.timeline p.manifest.universeCode, q.id ≠ p.id → q.since < p.since) →
    ∀ universeCode, Advancing Publication.since (g'.timeline universeCode)

theorem published_publish (h : Represents collate sha256 t g) (hp : p ∈ g.uploads) :
    Published g (g.publish p.id) p := by
  rcases publish_cases g (Rows.lookup_of_mem (h.uploadIds ▸ h.ids) hp) with ⟨hmem, heq⟩ | ⟨hmem, heq⟩
  · have hpublished : p ∈ g.published := by
      obtain ⟨q, hq, hid⟩ := List.mem_map.mp hmem
      rwa [← h.upload_unique (h.published q hq) hp hid]
    rw [heq]
    refine ⟨rfl, fun id => ?_, fun _ => .inl, fun c q => ?_, fun hadvancing _ => hadvancing⟩
    · constructor
      · exact .inl
      · rintro (hold | rfl)
        · exact hold
        · exact hmem
    · constructor
      · exact .inl
      · rintro (hold | ⟨rfl, hcode⟩)
        · exact hold
        · exact Gazette.mem_timeline.mpr ⟨hpublished, hcode⟩
  · have htimeline (c : PyText) : ({ g with published := g.published ++ [p] } : Gazette).timeline c =
        g.timeline c ++ if p.manifest.universeCode = c then [p] else [] := by
      unfold Gazette.timeline
      rw [List.filter_append]
      by_cases hc : p.manifest.universeCode = c <;> simp [hc]
    rw [heq]
    refine ⟨rfl, fun id => ?_, fun q hq => ?_, fun c q => ?_, fun hadvancing hlater c => ?_⟩
    · rw [List.map_append, List.mem_append, List.map_singleton, List.mem_singleton]
    · exact (List.mem_append.mp hq).imp_right List.mem_singleton.mp
    · rw [htimeline, List.mem_append]
      by_cases hc : p.manifest.universeCode = c <;> simp [hc]
    · rw [htimeline]
      split
      · rename_i hc
        refine (hadvancing c).append fun q hq => hlater q (hc ▸ hq) fun hid => hmem ?_
        exact List.mem_map.mpr ⟨q, (Gazette.mem_timeline.mp hq).1, hid⟩
      · rw [List.append_nil]
        exact hadvancing c

theorem Represents.activate (h : Represents collate sha256 t g)
    (ha : Activation t t' target currentId moment actor) : Represents collate sha256 t' (g.publish target.id) := by
  obtain ⟨p, hp, hstores⟩ := h.upload_of_row ha.mem
  have hpublished : Published g (g.publish target.id) p := by
    rw [hstores.id]
    exact published_publish h hp
  have hlater {q : Publication} (hq : q ∈ g.timeline target.universeCode) (hne : q.id ≠ target.id) :
      q.since < target.effectiveDate.days := ha.later h hq hne
  obtain rfl : t' = _ := ha.result
  have hcolumns (row : UniverseSnapshotRow) := activationWrites_columns target.id currentId moment actor row
  refine ⟨?_, ?_, ?_, ?_, ?_, ?_, ?_, ?_⟩
  · rw [hpublished.uploads]
    refine List.forall₂_map_left_iff.mpr (h.stored.imp fun row q hs => ?_)
    obtain ⟨hid, hcode, hdate, hdigest, hprovenance⟩ := hcolumns row
    refine ⟨hid.trans hs.id, hcode.trans hs.universeCode, hdate.trans hs.effectiveDate, ?_,
      hprovenance.trans hs.provenance, ?_, hs.read, hs.distinct⟩
    · rw [hdigest]
      exact hs.contentDigest
    · rw [hid, hcode]
      exact hs.members
  · have hids : (t.snapshots.map (activationWrites target.id currentId moment actor)).map (·.id) =
        t.snapshots.map (·.id) := by
      rw [List.map_map]
      exact List.map_congr_left fun row _ => (hcolumns row).1
    exact hids ▸ h.ids
  · intro a' ha' b' hb' hcode hdate
    obtain ⟨a, hamem, rfl⟩ := List.mem_map.mp ha'
    obtain ⟨b, hbmem, rfl⟩ := List.mem_map.mp hb'
    rw [(hcolumns a).1, (hcolumns b).1]
    rw [(hcolumns a).2.1, (hcolumns b).2.1] at hcode
    rw [(hcolumns a).2.2.1, (hcolumns b).2.2.1] at hdate
    exact h.days a hamem b hbmem hcode hdate
  · intro m hm
    obtain ⟨row, hrow, hid⟩ := h.owned m hm
    exact ⟨_, List.mem_map_of_mem hrow, (hcolumns row).1.trans hid⟩
  · intro q hq
    rw [hpublished.uploads]
    rcases hpublished.mem q hq with hold | rfl
    · exact h.published q hold
    · exact hp
  · intro row' hrow'
    obtain ⟨row, hrow, rfl⟩ := List.mem_map.mp hrow'
    rw [(hcolumns row).1, hpublished.ids, ← hstores.id]
    by_cases htarget : row.id = target.id
    · rw [(activationWrites_of_eq _ _ _ htarget).1]
      exact iff_of_true rfl (.inr htarget)
    · rw [(activationWrites_of_ne htarget).1, h.activated row hrow]
      exact ⟨.inl, fun hor => hor.resolve_right htarget⟩
  · refine hpublished.advancing h.advancing fun q hq hne => ?_
    rw [hstores.since]
    rw [← hstores.universeCode] at hq
    exact hlater hq (by rwa [hstores.id])
  · intro row' hrow'
    obtain ⟨row, hrow, rfl⟩ := List.mem_map.mp hrow'
    obtain ⟨hid, hcode, hdate, -, -⟩ := hcolumns row
    rw [hid, hcode, hdate, hpublished.ids, ← hstores.id]
    by_cases htarget : row.id = target.id
    · obtain rfl := h.row_unique hrow ha.mem htarget
      refine iff_of_true (activationWrites_of_eq _ _ _ rfl).2.2.1 ⟨.inr rfl, fun q hq => ?_⟩
      rcases (hpublished.timeline _ q).mp hq with hold | ⟨rfl, -⟩
      · by_cases hqid : q.id = row.id
        · rw [(h.stores hrow (h.published q (Gazette.mem_timeline.mp hold).1) hqid.symm).since]
        · exact (hlater hold hqid).le
      · exact hstores.since.le
    · by_cases hsame : row.universeCode = target.universeCode
      · refine iff_of_false (fun hmarked => htarget (ha.single hrow hsame hmarked)) ?_
        rintro ⟨hold, hlast⟩
        obtain ⟨q, hq, hqid, hqstores⟩ := h.publication_of_row hrow (hold.resolve_right htarget)
        rw [hsame] at hq
        have hlt := hlater hq (by rwa [hqid])
        have hle := hlast p ((hpublished.timeline _ p).mpr (.inr ⟨rfl, hstores.universeCode.symm.trans hsame.symm⟩))
        rw [hstores.since] at hle
        rw [hqstores.since] at hlt
        exact absurd hlt (not_lt.mpr hle)
      · have hother : currentId ≠ some row.id := fun hcurrent => hsame (ha.current row hrow hcurrent).1
        rw [(activationWrites_of_ne htarget).2, if_neg hother, h.active row hrow, or_iff_left htarget]
        refine and_congr_right fun _ => forall_congr' fun q => ?_
        rw [hpublished.timeline, ← hstores.universeCode, or_iff_left fun hnew => hsame hnew.2.symm]

end

/-! ### Runs -/

theorem earlier_refl (t : UniverseTables) : Earlier t t := fun row hrow => ⟨row, hrow, rfl, rfl, rfl⟩

theorem Earlier.trans {old : UniverseTables} (h : Earlier old t) (h' : Earlier t t') : Earlier old t' := by
  intro row hrow
  obtain ⟨row', hrow', hsame⟩ := h row hrow
  obtain ⟨row'', hrow'', hsame'⟩ := h' row' hrow'
  exact ⟨row'', hrow'', hsame'.id.trans hsame.id, hsame'.universeCode.trans hsame.universeCode,
    hsame'.effectiveDate.trans hsame.effectiveDate⟩

/-- What every run keeps. -/
structure Sound (collate : PyText → Key) (sha256 : String → Digest) (w : AuthorityWorld) : Prop where
  represents : Represents collate sha256 w.tables w.gazette
  seen : ∀ old ∈ w.readings, Earlier old w.tables

theorem Sound.reading (h : Sound collate sha256 w) (i : ℕ) : Earlier (w.reading i) w.tables := by
  unfold AuthorityWorld.reading
  cases hfound : w.readings[i]? with
  | none => exact earlier_refl _
  | some old => exact h.seen old (List.mem_of_getElem? hfound)

/-- What a step does to the tables and what was published, if it does anything. -/
theorem step_cases (h : Sound collate sha256 w) (e : AuthorityEvent) :
    ((w.step collate sha256 e).tables = w.tables ∧ (w.step collate sha256 e).gazette = w.gazette) ∨
      (∃ id manifest stagedAt stagedBy tables,
        w.tables.stage collate sha256 id manifest stagedAt stagedBy = .ok tables ∧
        WasRead manifest ∧ w.step collate sha256 e = { w with
          tables := tables, gazette := { w.gazette with uploads := w.gazette.uploads ++ [⟨id, manifest⟩] } }) ∨
      ∃ tables target currentId moment actor, Activation w.tables tables target currentId moment actor ∧
        w.step collate sha256 e = { w with tables := tables, gazette := w.gazette.publish target.id } := by
  cases e with
  | read => exact .inl ⟨rfl, rfl⟩
  | stage id manifest stagedAt stagedBy commits =>
    unfold AuthorityWorld.step
    dsimp only
    cases hstage : w.tables.stage collate sha256 id manifest stagedAt stagedBy with
    | error error => exact .inl ⟨rfl, rfl⟩
    | ok tables =>
      cases commits with
      | false => exact .inl ⟨rfl, rfl⟩
      | true => exact .inr (.inl ⟨id, manifest, stagedAt, stagedBy, tables, hstage, manifest.property, rfl⟩)
  | activate rowReading activeReading snapshotId activatedAt activatedBy commits =>
    unfold AuthorityWorld.step
    dsimp only
    cases hactivate : w.tables.activate (w.reading rowReading) (w.reading activeReading) snapshotId activatedAt
        activatedBy with
    | error error => exact .inl ⟨rfl, rfl⟩
    | ok tables =>
      cases commits with
      | false => exact .inl ⟨rfl, rfl⟩
      | true =>
        obtain ⟨target, currentId, actor, rfl, ha⟩ :=
          activate_ok h.represents.ids (h.reading rowReading) (h.reading activeReading) hactivate
        exact .inr (.inr ⟨tables, target, currentId, activatedAt, actor, ha, rfl⟩)

theorem stage_earlier {id : UUID} {manifest : UniverseManifest} {stagedAt : Instant} {stagedBy : PyText}
    (h : t.stage collate sha256 id manifest stagedAt stagedBy = .ok t') : Earlier t t' := by
  obtain ⟨_, _, -, -, -, -, rfl⟩ := stage_ok h
  exact fun row hrow => ⟨row, List.mem_append_left _ hrow, rfl, rfl, rfl⟩

theorem Activation.earlier {target : UniverseSnapshotRow} {currentId : Option UUID} {moment : Instant} {actor : PyText}
    (ha : Activation t t' target currentId moment actor) : Earlier t t' := by
  rw [ha.result]
  intro row hrow
  obtain ⟨hid, hcode, hdate, -, -⟩ := activationWrites_columns target.id currentId moment actor row
  exact ⟨_, List.mem_map_of_mem hrow, hid, hcode, hdate⟩

theorem readings_step (e : AuthorityEvent) : ∀ old ∈ (w.step collate sha256 e).readings,
    old ∈ w.readings ∨ old = w.tables ∧ (w.step collate sha256 e).tables = w.tables := by
  intro old hold
  cases e with
  | read => exact (List.mem_append.mp hold).imp_right fun hlast => ⟨List.mem_singleton.mp hlast, rfl⟩
  | stage id manifest stagedAt stagedBy commits =>
    left
    revert hold
    unfold AuthorityWorld.step
    dsimp only
    split
    · split <;> exact fun hold => hold
    · exact fun hold => hold
  | activate rowReading activeReading snapshotId activatedAt activatedBy commits =>
    left
    revert hold
    unfold AuthorityWorld.step
    dsimp only
    split
    · split <;> exact fun hold => hold
    · exact fun hold => hold

theorem Sound.step (h : Sound collate sha256 w) (e : AuthorityEvent) :
    Sound collate sha256 (w.step collate sha256 e) := by
  have hearlier : Earlier w.tables (w.step collate sha256 e).tables ∧
      Represents collate sha256 (w.step collate sha256 e).tables (w.step collate sha256 e).gazette := by
    rcases step_cases h e with ⟨htables, hgazette⟩ | ⟨id, manifest, stagedAt, stagedBy, tables, hstage, hread, heq⟩ |
      ⟨tables, target, currentId, moment, actor, ha, heq⟩
    · rw [htables, hgazette]
      exact ⟨earlier_refl _, h.represents⟩
    · rw [heq]
      exact ⟨stage_earlier hstage, h.represents.stage ⟨manifest, hread⟩ hstage⟩
    · rw [heq]
      exact ⟨ha.earlier, h.represents.activate ha⟩
  refine ⟨hearlier.2, fun old hold => ?_⟩
  rcases readings_step e old hold with hseen | ⟨rfl, heq⟩
  · exact (h.seen old hseen).trans hearlier.1
  · exact hearlier.1

theorem sound_noAuthorities : Sound collate sha256 noAuthorities := by
  refine ⟨⟨.nil, List.nodup_nil, ?_, ?_, ?_, ?_, fun _ => List.Pairwise.nil, ?_⟩, ?_⟩
  all_goals exact fun _ h => absurd h List.not_mem_nil

theorem sound_run (events : List AuthorityEvent) :
    Sound collate sha256 (runFrom (AuthorityWorld.step collate sha256) noAuthorities events) :=
  run_invariant (I := Sound collate sha256) (fun _ e h _ => h.step e) sound_noAuthorities
    (runMeets_of_forall (fun _ _ => trivial) noAuthorities events)

/-! ### Answers -/

theorem Represents.snapshotInForce (h : Represents collate sha256 t g) {universeCode : PyText} (asOf : CalendarDate)
    (hcode : universeCode ∈ universeCodes) :
    match inForce Publication.since (g.timeline universeCode) asOf.days with
    | none => t.snapshotInForce universeCode asOf = .ok none
    | some p => ∃ row ∈ t.snapshots, Stores collate sha256 t.members row p ∧
        t.snapshotInForce universeCode asOf = .ok (some row.toStoredSnapshot) := by
  have hknown : code universeCode = .ok universeCode := if_pos hcode
  unfold UniverseTables.snapshotInForce
  rw [hknown, ok_bind]
  dsimp only
  have hrows {row : UniverseSnapshotRow} : row ∈ t.snapshots.filter (fun row => decide (row.universeCode = universeCode) &&
      decide (row.effectiveDate.days ≤ asOf.days) && row.activatedAt.isSome) ↔
        row ∈ t.snapshots ∧ row.universeCode = universeCode ∧ row.effectiveDate.days ≤ asOf.days ∧
          row.id ∈ g.published.map (·.id) := by
    rw [List.mem_filter, Bool.and_eq_true, Bool.and_eq_true, decide_eq_true_eq, decide_eq_true_eq, and_assoc]
    exact and_congr_right fun hrow => by rw [h.activated row hrow]
  have hrowOf {q : Publication} (hq : q ∈ g.timeline universeCode) (hby : q.since ≤ asOf.days) :
      ∃ row ∈ t.snapshots.filter (fun row => decide (row.universeCode = universeCode) &&
        decide (row.effectiveDate.days ≤ asOf.days) && row.activatedAt.isSome), Stores collate sha256 t.members row q := by
    obtain ⟨hmem, hqcode⟩ := Gazette.mem_timeline.mp hq
    obtain ⟨row, hrow, hstores⟩ := h.row_of_upload (h.published q hmem)
    rw [hstores.since] at hby
    exact ⟨row, hrows.mpr ⟨hrow, hstores.universeCode.trans hqcode, hby,
      List.mem_map.mpr ⟨q, hmem, hstores.id.symm⟩⟩, hstores⟩
  cases hgreatest : greatest? (fun row : UniverseSnapshotRow => row.effectiveDate.days) (t.snapshots.filter _) with
  | none =>
    have hnil := greatest?_eq_none.mp hgreatest
    have hnone : inForce Publication.since (g.timeline universeCode) asOf.days = none := by
      refine inForce_eq_none.mpr fun q hq => not_le.mp fun hby => ?_
      obtain ⟨row, hrow, -⟩ := hrowOf hq hby
      rw [hnil] at hrow
      cases hrow
    rw [hnone]
    rfl
  | some row =>
    obtain ⟨hrow, hlast⟩ := greatest?_some hgreatest
    obtain ⟨hmem, hrowcode, hby, hpublished⟩ := hrows.mp hrow
    obtain ⟨p, hp, -, hstores⟩ := h.publication_of_row hmem hpublished
    rw [hrowcode] at hp
    have hsome : inForce Publication.since (g.timeline universeCode) asOf.days = some p := by
      refine (h.advancing universeCode).inForce_eq_some hp (hstores.since.trans_le hby) fun q hq hqby => ?_
      obtain ⟨qrow, hqrow, hqstores⟩ := hrowOf hq hqby
      rw [hqstores.since, hstores.since]
      exact hlast qrow hqrow
    rw [hsome]
    exact ⟨row, hmem, hstores, rfl⟩

/-- The member rows of a snapshot answer as the members of its list. -/
theorem Stores.find? (h : Stores collate sha256 t.members row p) (symbol : PyText) :
    t.members.find? (fun m => decide (m.snapshotId = row.id) && decide (collate m.symbol = collate symbol)) =
      (p.manifest.members.find? fun m => decide (collate m.symbol = collate symbol)).map
        (memberRow row.id row.universeCode) := by
  have hboth : (fun m : UniverseSnapshotMemberRow => decide (m.snapshotId = row.id) &&
      decide (collate m.symbol = collate symbol)) = fun m =>
        decide (decide (m.snapshotId = row.id) = true ∧ decide (collate m.symbol = collate symbol) = true) := by
    funext m
    simp
  rw [hboth, ← List.find?_filter, h.members, List.find?_map]
  rfl

theorem Represents.membership (h : Represents collate sha256 t g) (universeCode symbol : PyText) (asOf : CalendarDate) :
    t.membership collate universeCode symbol asOf =
      (code universeCode).map fun universeCode => g.membership collate universeCode symbol asOf := by
  unfold UniverseTables.membership Gazette.membership
  by_cases hcode : universeCode ∈ universeCodes
  · have hknown : code universeCode = .ok universeCode := if_pos hcode
    have hsnapshot := h.snapshotInForce asOf hcode
    rw [hknown]
    cases hforce : inForce Publication.since (g.timeline universeCode) asOf.days with
    | none =>
      rw [hforce] at hsnapshot
      dsimp only at hsnapshot
      rw [hsnapshot]
      simp only [Except.map, hforce]
      rfl
    | some p =>
      rw [hforce] at hsnapshot
      obtain ⟨row, -, hstores, hfound⟩ := hsnapshot
      rw [hfound, ok_bind]
      dsimp only
      rw [hstores.find? symbol, hstores.id, hstores.effectiveDate]
      simp only [Except.map, hforce, Option.isSome_map, Option.any_map, Option.bind_map]
      rfl
  · have hunknown : code universeCode = authorityError (universeCode ++ PyText.points " is not a known universe") :=
      if_neg hcode
    rw [UniverseTables.snapshotInForce, hunknown]
    rfl

/-- In every run the tables answer for every symbol and date as what was published does. -/
theorem membership_published (events : List AuthorityEvent) (universeCode symbol : PyText) (asOf : CalendarDate) :
    let w := runFrom (AuthorityWorld.step collate sha256) noAuthorities events
    w.tables.membership collate universeCode symbol asOf =
      (code universeCode).map fun universeCode => w.gazette.membership collate universeCode symbol asOf :=
  (sound_run events).represents.membership universeCode symbol asOf

theorem publish_prefix (g : Gazette) (id : UUID) : g.published <+: (g.publish id).published := by
  unfold Gazette.publish
  split
  · exact List.prefix_refl _
  · split
    · exact List.prefix_refl _
    · exact List.prefix_append _ _

theorem published_run (h : Sound collate sha256 w) (events : List AuthorityEvent) :
    w.gazette.published <+: (runFrom (AuthorityWorld.step collate sha256) w events).gazette.published := by
  refine run_relates (R := fun w w' => w.gazette.published <+: w'.gazette.published) (I := Sound collate sha256)
    (fun _ => List.prefix_refl _) (fun _ _ _ => List.IsPrefix.trans) (fun _ e h _ => h.step e) (fun w e h _ => ?_) h
    (runMeets_of_forall (fun _ _ => trivial) w events)
  rcases step_cases h e with ⟨-, hgazette⟩ | ⟨_, _, _, _, _, -, -, heq⟩ | ⟨_, target, _, _, _, -, heq⟩
  · exact hgazette ▸ List.prefix_refl _
  · exact heq ▸ List.prefix_refl _
  · exact heq ▸ publish_prefix _ _

/-- What is answered for a date for which, or for a later one, a list was published, is answered so ever after. -/
theorem membership_settled (events more : List AuthorityEvent) (universeCode symbol : PyText) {asOf : CalendarDate}
    (hp : p ∈ (runFrom (AuthorityWorld.step collate sha256) noAuthorities events).gazette.timeline universeCode)
    (hasOf : asOf.days ≤ p.since) :
    (runFrom (AuthorityWorld.step collate sha256) noAuthorities (events ++ more)).tables.membership collate universeCode
        symbol asOf =
      (runFrom (AuthorityWorld.step collate sha256) noAuthorities events).tables.membership collate universeCode symbol
        asOf := by
  have hsound : Sound collate sha256 (runFrom (AuthorityWorld.step collate sha256) noAuthorities events) :=
    sound_run events
  have hsound' : Sound collate sha256 (runFrom (AuthorityWorld.step collate sha256) noAuthorities (events ++ more)) :=
    sound_run (events ++ more)
  obtain ⟨later, hlater⟩ := (published_run hsound more).filter fun q : Publication =>
    decide (q.manifest.universeCode = universeCode)
  rw [← runFrom_append] at hlater
  have htimeline : (runFrom (AuthorityWorld.step collate sha256) noAuthorities (events ++ more)).gazette.timeline
      universeCode = (runFrom (AuthorityWorld.step collate sha256) noAuthorities events).gazette.timeline universeCode ++
        later := hlater.symm
  have hadvancing := hsound'.represents.advancing universeCode
  rw [htimeline] at hadvancing
  have hsame : inForce Publication.since ((runFrom (AuthorityWorld.step collate sha256) noAuthorities
      (events ++ more)).gazette.timeline universeCode) asOf.days =
        inForce Publication.since ((runFrom (AuthorityWorld.step collate sha256) noAuthorities
          events).gazette.timeline universeCode) asOf.days := by
    rw [htimeline]
    exact inForce_append_later fun q hq => hasOf.trans_lt ((List.pairwise_append.mp hadvancing).2.2 p hp q hq)
  rw [hsound.represents.membership, hsound'.represents.membership]
  unfold code
  split
  · simp only [Except.map, Gazette.membership, hsame]
  · rfl

/-! ### Reading back -/

theorem Stores.membersOf (h : Stores collate sha256 t.members row p) :
    (t.membersOf collate row.id).Perm p.manifest.members := by
  have hrows : t.memberRows row.id = p.manifest.members.map (memberRow row.id row.universeCode) := h.members
  unfold UniverseTables.membersOf
  refine ((List.perm_insertionSort _ _).map _).trans ?_
  rw [hrows, List.map_map]
  exact List.Perm.of_eq (List.map_id _)

theorem contentDigest_of_perm {m m' : UniverseManifest} (hcode : m.universeCode = m'.universeCode)
    (hdate : m.effectiveDate = m'.effectiveDate) (hmembers : m.members.Perm m'.members)
    (hdistinct : (m'.members.map (·.symbol)).Nodup) : m.contentDigest sha256 = m'.contentDigest sha256 := by
  have hsorted : sortedMembers m.members = sortedMembers m'.members :=
    (sortedMembers_eq_iff ((hmembers.map _).nodup_iff.mpr hdistinct) hdistinct).mpr fun _ => hmembers.mem_iff
  simp only [UniverseManifest.contentDigest, canonicalBytes, canonicalTree, manifestFields, hcode, hdate, hsorted]

/-- A list as it is read back: the universe that was uploaded, its members in symbol order, and the digest beside it the
digest of what was read. -/
structure ReadBack (collate : PyText → Key) (sha256 : String → Digest) (t : UniverseTables) (p : Publication) :
    Prop where
  manifest : ∃ row m, t.snapshot p.id = some row ∧ t.manifest collate p.id = some m ∧ m.SameUniverse p.manifest ∧
    m.provenance = p.manifest.provenance ∧ (m.members.Pairwise fun a b => collate a.symbol < collate b.symbol) ∧
    m.contentDigest sha256 = .ok row.contentDigest

/-- In every run every list that was uploaded is read back. -/
theorem manifest_read_back (events : List AuthorityEvent)
    (hp : p ∈ (runFrom (AuthorityWorld.step collate sha256) noAuthorities events).gazette.uploads) :
    ReadBack collate sha256 (runFrom (AuthorityWorld.step collate sha256) noAuthorities events).tables p := by
  have hsound : Sound collate sha256 (runFrom (AuthorityWorld.step collate sha256) noAuthorities events) :=
    sound_run events
  have h := hsound.represents
  obtain ⟨row, hrow, hstores⟩ := h.row_of_upload hp
  have hfound :
      UniverseTables.snapshot (runFrom (AuthorityWorld.step collate sha256) noAuthorities events).tables p.id =
        some row := by
    rw [← hstores.id]
    exact Rows.lookup_of_mem h.ids hrow
  have hperm := hstores.membersOf
  rw [hstores.id] at hperm
  have hsymbols : (p.manifest.members.map (·.symbol)).Nodup := by
    refine List.Nodup.of_map collate ?_
    rw [List.map_map]
    exact hstores.distinct
  refine ⟨row, _, hfound, by rw [UniverseTables.manifest, hfound]; rfl,
    ⟨hstores.universeCode, hstores.effectiveDate, fun _ => hperm.mem_iff⟩, hstores.provenance, ?_, ?_⟩
  · have hsorted : (UniverseTables.membersOf collate (runFrom (AuthorityWorld.step collate sha256) noAuthorities
        events).tables p.id).Pairwise fun a b => collate a.symbol ≤ collate b.symbol :=
      List.pairwise_map.mpr (List.pairwise_insertionSort _ _)
    have hdistinct := List.pairwise_map.mp ((hperm.map fun m => collate m.symbol).nodup_iff.mpr hstores.distinct)
    exact (hsorted.and hdistinct).imp fun h => lt_of_le_of_ne h.1 h.2
  · rw [← hstores.contentDigest]
    exact contentDigest_of_perm hstores.universeCode hstores.effectiveDate hperm hsymbols

/-! One list, uploaded and put in force. -/

theorem samplePublication_lt : 7 * 2 ^ 76 + 2 * 2 ^ 62 < 16 ^ 32 := by
  norm_num

def samplePublication : Publication :=
  ⟨⟨7 * 2 ^ 76 + 2 * 2 ^ 62, samplePublication_lt⟩, listed "index" (PyText.points "IT")⟩

theorem samplePublication_read : WasRead samplePublication.manifest := ⟨sampleReaders, _, parseManifest_index⟩

def sampleHash (bytes : String) : Digest := BitVec.ofNat 256 bytes.length

def sampleActor : PyText := PyText.points "operator"

theorem sampleActor_named : actor sampleActor = .ok sampleActor := by
  have hnamed : ¬(sampleActor.strip = [] ∨ sampleActor.strip ≠ sampleActor) := by decide
  exact if_neg hnamed

def sampleUpload : AuthorityEvent :=
  .stage samplePublication.id ⟨samplePublication.manifest, samplePublication_read⟩ 0 sampleActor true

def samplePublish : AuthorityEvent := .activate 0 0 samplePublication.id 1 sampleActor true

theorem sampleUpload_stored : ∃ digest,
    noAuthorities.step id sampleHash sampleUpload =
      ⟨⟨[stagedRow samplePublication.id samplePublication.manifest digest 0 sampleActor],
        samplePublication.manifest.members.map (memberRow samplePublication.id sp100)⟩, [], ⟨[samplePublication], []⟩⟩ := by
  obtain ⟨bytes, hbytes⟩ := (canonicalBytes_returns (parseManifest_accepted parseManifest_index)).mpr
    (encodable_listed "index" "IT")
  have hdigest : samplePublication.manifest.contentDigest sampleHash = .ok (sampleHash bytes) :=
    contentDigest_ok.mpr ⟨bytes, hbytes, rfl⟩
  have hstage : UniverseTables.stage id sampleHash ⟨[], []⟩ samplePublication.id samplePublication.manifest 0
      sampleActor = .ok ⟨[stagedRow samplePublication.id samplePublication.manifest (sampleHash bytes) 0 sampleActor],
        samplePublication.manifest.members.map (memberRow samplePublication.id sp100)⟩ := by
    unfold UniverseTables.stage
    rw [sampleActor_named, hdigest]
    rfl
  refine ⟨sampleHash bytes, ?_⟩
  unfold AuthorityWorld.step sampleUpload noAuthorities
  dsimp only
  rw [hstage]
  rfl

theorem sampleWorld_published : (runFrom (AuthorityWorld.step id sampleHash) noAuthorities
    [sampleUpload, samplePublish]).gazette = ⟨[samplePublication], [samplePublication]⟩ := by
  obtain ⟨digest, hstored⟩ := sampleUpload_stored
  rw [runFrom_cons, hstored, runFrom_cons, runFrom_nil]
  rfl

theorem sampleWorld_timeline : samplePublication ∈ (runFrom (AuthorityWorld.step id sampleHash) noAuthorities
    [sampleUpload, samplePublish]).gazette.timeline sp100 := by
  rw [sampleWorld_published]
  exact Gazette.mem_timeline.mpr ⟨List.mem_singleton_self _, rfl⟩

theorem sampleWorld_uploads : samplePublication ∈ (runFrom (AuthorityWorld.step id sampleHash) noAuthorities
    [sampleUpload, samplePublish]).gazette.uploads := by
  rw [sampleWorld_published]
  exact List.mem_singleton_self _

theorem membership_settled_sample :
    (runFrom (AuthorityWorld.step id sampleHash) noAuthorities
        ([sampleUpload, samplePublish] ++ [sampleUpload])).tables.membership id sp100 (PyText.points "BAX")
          ⟨20696, listed_valid⟩ =
      (runFrom (AuthorityWorld.step id sampleHash) noAuthorities [sampleUpload, samplePublish]).tables.membership id sp100
        (PyText.points "BAX") ⟨20696, listed_valid⟩ :=
  membership_settled _ _ _ _ sampleWorld_timeline (le_refl (20696 : ℤ))

theorem manifest_read_back_sample : ReadBack id sampleHash (runFrom (AuthorityWorld.step id sampleHash) noAuthorities
    [sampleUpload, samplePublish]).tables samplePublication :=
  manifest_read_back _ sampleWorld_uploads

end AutoTrader.Universe
