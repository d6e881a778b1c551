import AutoTrader.Runtime.Rows
import AutoTrader.Runtime.Runs
import AutoTrader.Runtime.Timelines
import AutoTrader.Universe.Digest

/-! The universe tables. A manifest is stored whole, a snapshot is put in force once and replaces the one in force, and
a question about a date is answered from the list that was published for it. Between the statements of an activation
other transactions may commit; what it writes goes over the rows as they are by then, and the constraints of the tables
are what stands between two authorities in force. Symbols are compared under the collation of their column. -/

namespace AutoTrader.Universe

open AutoTrader.Domain AutoTrader.Execution AutoTrader.Runtime

open PyText (points)

/-! ### Tables -/

structure StoredSnapshot where
  id : UUID
  universeCode : PyText
  effectiveDate : CalendarDate
  contentDigest : Digest
  memberCount : ℕ
  provenance : UniverseProvenance
  stagedAt : Instant
  stagedBy : PyText
  activatedAt : Option Instant
  activatedBy : Option PyText
  supersededAt : Option Instant

/-- The marker is `ACTIVE` or null. -/
structure UniverseSnapshotRow extends StoredSnapshot where
  activeMarker : Bool

structure UniverseSnapshotMemberRow where
  snapshotId : UUID
  universeCode : PyText
  symbol : PyText
  commonStock : Option Bool
  sectorClassification : Option PyText

structure UniverseTables where
  snapshots : List UniverseSnapshotRow
  members : List UniverseSnapshotMemberRow

structure Membership where
  universeCode : PyText
  asOf : CalendarDate
  symbol : PyText
  snapshotId : Option UUID
  effectiveDate : Option CalendarDate
  member : Bool
  commonStock : Bool
  sector : Option PyText

/-- A `UniverseAuthorityError`, or what something else raised. -/
inductive AuthorityError
  | authority (message : PyText)
  | raised (error : PyError)

def authorityError {α : Type} (message : PyText) : Except AuthorityError α := .error (.authority message)

/-- A constraint of the tables. -/
def constraint {α : Type} (name : String) : Except AuthorityError α := .error (.raised ⟨.databaseError, name⟩)

/-- `_code`. -/
def code (value : PyText) : Except AuthorityError PyText :=
  if value ∈ universeCodes then .ok value else authorityError (value ++ points " is not a known universe")

/-- `_actor`. -/
def actor (value : PyText) : Except AuthorityError PyText :=
  if value.strip = [] ∨ value.strip ≠ value then .error (.raised ⟨.valueError, "the acting operator must be named"⟩)
  else .ok value

/-- `ck_universe_snapshot_lifecycle`. -/
def lifecycle (row : UniverseSnapshotRow) : Bool :=
  match row.activatedAt, row.activatedBy, row.supersededAt with
  | none, none, none => !row.activeMarker
  | some activatedAt, some _, none => decide (row.stagedAt ≤ activatedAt) && row.activeMarker
  | some activatedAt, some _, some supersededAt =>
    decide (row.stagedAt ≤ activatedAt) && decide (activatedAt ≤ supersededAt) && !row.activeMarker
  | _, _, _ => false

/-- `uq_universe_snapshot_active`. -/
def oneActive (snapshots : List UniverseSnapshotRow) : Bool :=
  decide ((snapshots.filter (·.activeMarker)).map (·.universeCode)).Nodup

namespace UniverseTables

/-- `_snapshot_on`. -/
def snapshotOn (t : UniverseTables) (universeCode : PyText) (effectiveDate : CalendarDate) :
    Option UniverseSnapshotRow :=
  t.snapshots.find? fun row => decide (row.universeCode = universeCode) && decide (row.effectiveDate = effectiveDate)

/-- `_active_row`. -/
def activeRow (t : UniverseTables) (universeCode : PyText) : Option UniverseSnapshotRow :=
  t.snapshots.find? fun row => decide (row.universeCode = universeCode) && row.activeMarker

def snapshot (t : UniverseTables) (snapshotId : UUID) : Option UniverseSnapshotRow :=
  Rows.lookup (·.id) t.snapshots snapshotId

end UniverseTables

/-! ### Writing -/

section

variable {Key : Type} [LinearOrder Key] (collate : PyText → Key) (sha256 : String → Digest)

def memberRow (snapshotId : UUID) (universeCode : PyText) (m : UniverseMember) : UniverseSnapshotMemberRow :=
  ⟨snapshotId, universeCode, m.symbol, m.commonStock, m.sector⟩

def stagedRow (id : UUID) (manifest : UniverseManifest) (digest : Digest) (stagedAt : Instant) (stagedBy : PyText) :
    UniverseSnapshotRow where
  id := id
  universeCode := manifest.universeCode
  effectiveDate := manifest.effectiveDate
  contentDigest := digest
  memberCount := manifest.members.length
  provenance := manifest.provenance
  stagedAt := stagedAt
  stagedBy := stagedBy
  activatedAt := none
  activatedBy := none
  supersededAt := none
  activeMarker := false

/-- `stage`, of a manifest that was read from a document. The texts of such a manifest, its universe and its share
classes meet the checks of the tables. -/
def UniverseTables.stage (t : UniverseTables) (id : UUID) (manifest : UniverseManifest) (stagedAt : Instant)
    (stagedBy : PyText) : Except AuthorityError UniverseTables := do
  let actor ← actor stagedBy
  if (t.snapshotOn manifest.universeCode manifest.effectiveDate).isSome then
    authorityError
      (manifest.universeCode ++ points (" already has a snapshot for " ++ manifest.effectiveDate.isoformat))
  else
    let digest ← (manifest.contentDigest sha256).mapError .raised
    if (t.snapshot id).isSome then constraint "PRIMARY"
    else if ¬(manifest.members.map fun m => collate m.symbol).Nodup then
      constraint "uq_universe_snapshot_member_symbol"
    else if manifest.members.any fun m => m.symbol.any fun c => decide (128 ≤ c.val) then
      constraint "Incorrect string value"
    else
      .ok
        { snapshots := t.snapshots ++ [stagedRow id manifest digest stagedAt actor]
          members := t.members ++ manifest.members.map (memberRow id manifest.universeCode) }

/-- The row that is replaced. -/
def supersededRow (moment : Instant) (row : UniverseSnapshotRow) : UniverseSnapshotRow :=
  { row with supersededAt := some moment, activeMarker := false }

/-- The row that is put in force. -/
def activatedRow (moment : Instant) (actor : PyText) (row : UniverseSnapshotRow) : UniverseSnapshotRow :=
  { row with activatedAt := some moment, activatedBy := some actor, activeMarker := true }

/-- What an activation writes, by the keys of the rows it read. -/
def activationWrites (rowId : UUID) (currentId : Option UUID) (moment : Instant) (actor : PyText)
    (row : UniverseSnapshotRow) : UniverseSnapshotRow :=
  let row := if currentId = some row.id then supersededRow moment row else row
  if row.id = rowId then activatedRow moment actor row else row

/-- `activate`, of the row and the active row as they were read at two moments before. -/
def UniverseTables.activate (t rowRead activeRead : UniverseTables) (snapshotId : UUID) (activatedAt : Instant)
    (activatedBy : PyText) : Except AuthorityError UniverseTables := do
  let actor ← actor activatedBy
  match rowRead.snapshot snapshotId with
  | none => authorityError (points "no such universe snapshot")
  | some row =>
    if row.activatedAt.isSome then authorityError (points "this snapshot has already been activated once")
    else if activatedAt < row.stagedAt then authorityError (points "a snapshot cannot activate before it existed")
    else
      let current := activeRead.activeRow row.universeCode
      if current.any fun c => decide (row.effectiveDate.days < c.effectiveDate.days) then
        authorityError (points "a snapshot older than the active one cannot replace it")
      else
        let after := t.snapshots.map (activationWrites row.id (current.map (·.id)) activatedAt actor)
        if !oneActive after then constraint "uq_universe_snapshot_active"
        else if !after.all lifecycle then constraint "ck_universe_snapshot_lifecycle"
        else .ok { t with snapshots := after }

/-! ### Reading -/

def UniverseTables.memberRows (t : UniverseTables) (snapshotId : UUID) : List UniverseSnapshotMemberRow :=
  t.members.filter fun row => decide (row.snapshotId = snapshotId)

/-- `members`, in symbol order. -/
def UniverseTables.membersOf (t : UniverseTables) (snapshotId : UUID) : List UniverseMember :=
  ((t.memberRows snapshotId).insertionSort fun a b => collate a.symbol ≤ collate b.symbol).map fun row =>
    ⟨row.symbol, row.commonStock, row.sectorClassification⟩

def UniverseTables.manifest (t : UniverseTables) (snapshotId : UUID) : Option UniverseManifest :=
  (t.snapshot snapshotId).map fun stored =>
    ⟨stored.universeCode, stored.effectiveDate, stored.provenance, t.membersOf collate snapshotId⟩

def UniverseTables.snapshotInForce (t : UniverseTables) (universeCode : PyText) (asOf : CalendarDate) :
    Except AuthorityError (Option StoredSnapshot) := do
  let code ← code universeCode
  let rows := t.snapshots.filter fun row =>
    decide (row.universeCode = code) && decide (row.effectiveDate.days ≤ asOf.days) && row.activatedAt.isSome
  pure ((greatest? (·.effectiveDate.days) rows).map (·.toStoredSnapshot))

def UniverseTables.membership (t : UniverseTables) (universeCode symbol : PyText) (asOf : CalendarDate) :
    Except AuthorityError Membership := do
  let snapshot ← t.snapshotInForce universeCode asOf
  match snapshot with
  | none => pure ⟨universeCode, asOf, symbol, none, none, false, false, none⟩
  | some snapshot =>
    let row := t.members.find? fun row =>
      decide (row.snapshotId = snapshot.id) && decide (collate row.symbol = collate symbol)
    pure ⟨universeCode, asOf, symbol, some snapshot.id, some snapshot.effectiveDate, row.isSome,
      row.any (·.commonStock = some true), row.bind (·.sectorClassification)⟩

/-! ### What was published -/

/-- A manifest under the id it was stored with. -/
structure Publication where
  id : UUID
  manifest : UniverseManifest
  deriving DecidableEq

def Publication.since (p : Publication) : ℤ := p.manifest.effectiveDate.days

/-- The lists that were uploaded, and those that were published, in the order they were. -/
structure Gazette where
  uploads : List Publication
  published : List Publication

namespace Gazette

/-- The lists that were published of one universe. -/
def timeline (g : Gazette) (universeCode : PyText) : List Publication :=
  g.published.filter fun p => decide (p.manifest.universeCode = universeCode)

/-- What the list in force on a date says of a symbol. -/
def membership (g : Gazette) (universeCode symbol : PyText) (asOf : CalendarDate) : Membership :=
  match inForce Publication.since (g.timeline universeCode) asOf.days with
  | none => ⟨universeCode, asOf, symbol, none, none, false, false, none⟩
  | some p =>
    let m := p.manifest.members.find? fun m => decide (collate m.symbol = collate symbol)
    ⟨universeCode, asOf, symbol, some p.id, some p.manifest.effectiveDate, m.isSome,
      m.any (·.commonStock = some true), m.bind (·.sector)⟩

def publish (g : Gazette) (id : UUID) : Gazette :=
  match Rows.lookup Publication.id g.uploads id with
  | none => g
  | some p => if id ∈ g.published.map (·.id) then g else { g with published := g.published ++ [p] }

end Gazette

/-! ### Runs -/

/-- A manifest that was read from a document. -/
def WasRead (m : UniverseManifest) : Prop := ∃ readers document, parseManifest readers document = .ok m

/-- The transactions of the back office. One that does not commit leaves the tables as they were. -/
inductive AuthorityEvent
  | stage (id : UUID) (manifest : {m : UniverseManifest // WasRead m}) (stagedAt : Instant) (stagedBy : PyText)
      (commits : Bool)
  | read
  | activate (rowReading activeReading : ℕ) (snapshotId : UUID) (activatedAt : Instant) (activatedBy : PyText)
      (commits : Bool)

/-- The tables, what transactions have read of them, and beside them what was published. -/
structure AuthorityWorld where
  tables : UniverseTables
  readings : List UniverseTables
  gazette : Gazette

namespace AuthorityWorld

def reading (w : AuthorityWorld) (i : ℕ) : UniverseTables := (w.readings[i]?).getD w.tables

def step (w : AuthorityWorld) : AuthorityEvent → AuthorityWorld
  | .stage id manifest stagedAt stagedBy commits =>
    match w.tables.stage collate sha256 id manifest stagedAt stagedBy with
    | .ok tables =>
      if commits then
        { w with tables := tables, gazette := { w.gazette with uploads := w.gazette.uploads ++ [⟨id, manifest⟩] } }
      else w
    | .error _ => w
  | .read => { w with readings := w.readings ++ [w.tables] }
  | .activate rowReading activeReading snapshotId activatedAt activatedBy commits =>
    match w.tables.activate (w.reading rowReading) (w.reading activeReading) snapshotId activatedAt activatedBy with
    | .ok tables => if commits then { w with tables := tables, gazette := w.gazette.publish snapshotId } else w
    | .error _ => w

end AuthorityWorld

def noAuthorities : AuthorityWorld := ⟨⟨[], []⟩, [], ⟨[], []⟩⟩

end

end AutoTrader.Universe
