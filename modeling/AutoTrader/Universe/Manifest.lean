import AutoTrader.Domain.PyJson
import AutoTrader.Domain.Timestamps

/-! The published lists that say what the strategy may trade. A manifest is read whole from an uploaded document, or
refused by name. -/

namespace AutoTrader.Universe

open AutoTrader.Domain

/-! ### Dates -/

/-- A `date`, as its days since the epoch. -/
@[ext] structure CalendarDate where
  days : ℤ
  valid : -719162 ≤ days ∧ days ≤ 2932896
  deriving DecidableEq

/-- `date.isoformat`. -/
def CalendarDate.isoformat (date : CalendarDate) : String :=
  let (year, month, day) := civilDate date.days
  padded 4 year ++ "-" ++ padded 2 month ++ "-" ++ padded 2 day

/-- A date is read back from its text. -/
theorem CalendarDate.isoformat_injective : Function.Injective CalendarDate.isoformat := by
  intro a b h
  have hread (date : CalendarDate) : readDate date.isoformat.toList = some (date.days, []) := by
    rw [← readDate_civil date.valid.1 date.valid.2 []]
    simp [CalendarDate.isoformat, String.toList_append]
  have hdays := hread a
  rw [h, hread b] at hdays
  exact CalendarDate.ext (Prod.mk.inj (Option.some.inj hdays)).1.symm

/-! ### Manifests -/

open PyText (points)

def kospi200 : PyText := points "KOSPI200"

def sp100 : PyText := points "SP100"

def binanceUsdm : PyText := points "BINANCE_USDM"

def universeCodes : List PyText := [kospi200, sp100, binanceUsdm]

def commonShareUniverses : List PyText := [kospi200, sp100]

structure UniverseManifestError where
  message : PyText
  deriving DecidableEq

structure UniverseMember where
  symbol : PyText
  commonStock : Option Bool
  sector : Option PyText
  deriving DecidableEq

structure UniverseProvenance where
  name : PyText
  reference : PyText
  publishedAt : Instant
  deriving DecidableEq

structure UniverseManifest where
  universeCode : PyText
  effectiveDate : CalendarDate
  provenance : UniverseProvenance
  members : List UniverseMember
  deriving DecidableEq

/-! ### Reading a document -/

/-- `bytes | str`. -/
inductive Document
  | bytes (value : ByteArray)
  | str (value : PyText)

/-- What the standard library reads from bytes and texts: the text that `json.loads` decodes, `date.fromisoformat` and
`datetime.fromisoformat`. -/
structure Readers where
  decode : ByteArray → Option PyText
  date : PyText → Option CalendarDate
  datetime : PyText → Option DateTime

def refused {α : Type} (message : String) : Except UniverseManifestError α := .error ⟨points message⟩

/-- A check that refuses the manifest where it fails. -/
def ensure (p : Prop) [Decidable p] (message : PyText) : Except UniverseManifestError Unit :=
  if p then .ok () else .error ⟨message⟩

/-- `_text`. -/
def text (value : PyJson) (name : String) (maximum : ℕ) : Except UniverseManifestError PyText :=
  match value with
  | .str value => do
    let stripped := value.strip
    ensure (stripped ≠ [] ∧ stripped = value) (points (name ++ " must be trimmed and non-empty"))
    ensure (stripped.length ≤ maximum) (points (name ++ " is longer than " ++ toString maximum ++ " characters"))
    ensure ((points "\r\n\t").any (fun c => decide (c ∈ stripped)) = false) (points (name ++ " must be a single line"))
    pure stripped
  | _ => refused (name ++ " must be text")

/-- `_date`. -/
def date (readers : Readers) (value : PyJson) : Except UniverseManifestError CalendarDate :=
  match value with
  | .str value =>
    match readers.date value with
    | some day => .ok day
    | none => refused "effective_date is not a date"
  | _ => refused "effective_date must be a date"

/-- `_provenance`. -/
def provenance (readers : Readers) (value : PyJson) : Except UniverseManifestError UniverseProvenance :=
  match value with
  | .obj payload =>
    match PyJson.get payload (points "published_at") with
    | .str published =>
      match readers.datetime published with
      | some moment => do
        ensure (moment.zone ≠ .naive) (points "source published_at must carry an offset")
        let name ← text (PyJson.get payload (points "name")) "source name" 64
        let reference ← text (PyJson.get payload (points "reference")) "source reference" 255
        pure ⟨name, reference, moment.instant⟩
      | none => refused "source published_at is not a timestamp"
    | _ => refused "source published_at must be a timestamp"
  | _ => refused "manifest source must be an object"

/-- The share class, which is required of one group of universes and refused of the other. -/
def commonStock (universeCode symbol : PyText) (common : PyJson) : Except UniverseManifestError (Option Bool) :=
  if universeCode ∈ commonShareUniverses then
    match common with
    | .bool flag => .ok (some flag)
    | _ => .error ⟨symbol ++ points " needs an exact common_stock flag in " ++ universeCode⟩
  else
    match common with
    | .null => .ok none
    | _ => .error ⟨symbol ++ points " is not a share class, so common_stock does not apply"⟩

/-- `None if sector is None else _text(sector, "sector", _MAXIMUM_SECTOR)`. -/
def sector (value : PyJson) : Except UniverseManifestError (Option PyText) :=
  match value with
  | .null => .ok none
  | value => (text value "sector" 64).map some

/-- `_member`. -/
def member (universeCode : PyText) (entry : List (PyText × PyJson)) : Except UniverseManifestError UniverseMember := do
  let symbol ← text (PyJson.get entry (points "symbol")) "symbol" 32
  let common ← commonStock universeCode symbol (PyJson.get entry (points "common_stock"))
  let sector ← sector (PyJson.get entry (points "sector"))
  pure ⟨symbol, common, sector⟩

/-- One entry of the list; `seen` holds the symbols of the members so far. -/
def addMember (universeCode : PyText) (members : List UniverseMember) (entry : PyJson) :
    Except UniverseManifestError (List UniverseMember) :=
  match entry with
  | .obj entry => do
    let found ← member universeCode entry
    ensure (found.symbol ∉ members.map (·.symbol)) (found.symbol ++ points " appears twice")
    pure (members ++ [found])
  | _ => refused "each member must be an object"

/-- `_members`. -/
def members (universeCode : PyText) (value : PyJson) : Except UniverseManifestError (List UniverseMember) :=
  match value with
  | .arr entries => do
    ensure (entries.length ≠ 0) (points "a universe with no members filters nothing")
    ensure (entries.length ≤ 5000) (points "manifest has implausibly many members")
    entries.foldlM (addMember universeCode) []
  | _ => refused "manifest members must be a list"

/-- `json.loads`; a text that opens with a byte order mark is refused either way. -/
def Document.loads (readers : Readers) : Document → Except UniverseManifestError PyJson
  | .bytes value =>
    match readers.decode value with
    | some value => (PyJson.loads value).mapError fun _ => ⟨points "manifest is not JSON"⟩
    | none => refused "manifest is not JSON"
  | .str value => (PyJson.loads value).mapError fun _ => ⟨points "manifest is not JSON"⟩

def parseManifest (readers : Readers) (document : Document) : Except UniverseManifestError UniverseManifest := do
  let decoded ← document.loads readers
  match decoded with
  | .obj payload => do
    let universeCode ← text (PyJson.get payload (points "universe_code")) "universe_code" 16
    ensure (universeCode ∈ universeCodes) (universeCode ++ points " is not a known universe")
    let effectiveDate ← date readers (PyJson.get payload (points "effective_date"))
    let provenance ← provenance readers (PyJson.get payload (points "source"))
    let members ← members universeCode (PyJson.get payload (points "members"))
    pure ⟨universeCode, effectiveDate, provenance, members⟩
  | _ => refused "manifest must be an object"

/-! ### What is accepted -/

theorem ensure_ok {p : Prop} [Decidable p] {message : PyText} {u : Unit} : ensure p message = .ok u ↔ p := by
  by_cases h : p <;> simp [ensure, h]

/-- A text that passed: trimmed, of a bounded length, on one line. -/
structure LineOf (maximum : ℕ) (line : PyText) : Prop where
  nonempty : line ≠ []
  trimmed : line.strip = line
  short : line.length ≤ maximum
  single : ∀ c ∈ points "\r\n\t", c ∉ line

theorem text_ok {value : PyJson} {name : String} {maximum : ℕ} {line : PyText} :
    text value name maximum = .ok line ↔ value = .str line ∧ LineOf maximum line := by
  unfold text
  cases value with
  | str value =>
    simp only [bind_ok, ensure_ok, List.any_eq_false, decide_eq_true_eq]
    constructor
    · rintro ⟨-, ⟨hnonempty, htrimmed⟩, -, hshort, -, hsingle, hline⟩
      cases hline
      rw [htrimmed] at hnonempty hshort hsingle ⊢
      exact ⟨rfl, hnonempty, htrimmed, hshort, hsingle⟩
    · rintro ⟨heq, h⟩
      cases heq
      rw [h.trimmed]
      exact ⟨(), ⟨h.nonempty, rfl⟩, (), h.short, (), h.single, rfl⟩
  | _ => exact ⟨fun h => (nomatch h), fun h => (nomatch h.1)⟩

/-- A member that passed. -/
structure UniverseMember.Accepted (universeCode : PyText) (m : UniverseMember) : Prop where
  symbol : LineOf 32 m.symbol
  commonStock : m.commonStock.isSome = true ↔ universeCode ∈ commonShareUniverses
  sector : ∀ sector ∈ m.sector, LineOf 64 sector

theorem commonStock_ok {universeCode symbol : PyText} {common : PyJson} {flag : Option Bool}
    (h : commonStock universeCode symbol common = .ok flag) :
    flag.isSome = true ↔ universeCode ∈ commonShareUniverses := by
  unfold commonStock at h
  split at h
  next hcode =>
    cases common with
    | bool value => cases h; exact iff_of_true rfl hcode
    | _ => cases h
  next hcode =>
    cases common with
    | null => cases h; exact iff_of_false (by decide) hcode
    | _ => cases h

theorem sector_ok {value : PyJson} {found : Option PyText} (h : sector value = .ok found) :
    ∀ sector ∈ found, LineOf 64 sector := by
  unfold sector at h
  split at h
  · cases h
    exact fun _ hnone => (nomatch hnone)
  · obtain ⟨line, hline, hfound⟩ := exceptMap_ok.mp h
    intro sector hsector
    rw [← hfound] at hsector
    cases hsector
    exact (text_ok.mp hline).2

theorem member_ok {universeCode : PyText} {entry : List (PyText × PyJson)} {m : UniverseMember}
    (h : member universeCode entry = .ok m) : m.Accepted universeCode := by
  obtain ⟨symbol, hsymbol, h⟩ := bind_ok.mp h
  obtain ⟨common, hcommon, h⟩ := bind_ok.mp h
  obtain ⟨sector, hsector, h⟩ := bind_ok.mp h
  cases h
  exact ⟨(text_ok.mp hsymbol).2, commonStock_ok hcommon, sector_ok hsector⟩

/-- Members that passed, no symbol twice. -/
structure Listed (universeCode : PyText) (ms : List UniverseMember) : Prop where
  accepted : ∀ m ∈ ms, m.Accepted universeCode
  distinct : (ms.map (·.symbol)).Nodup

theorem listed_nil (universeCode : PyText) : Listed universeCode [] := ⟨List.forall_mem_nil _, List.nodup_nil⟩

theorem addMember_listed {universeCode : PyText} {ms ms' : List UniverseMember} {entry : PyJson}
    (hlisted : Listed universeCode ms) (h : addMember universeCode ms entry = .ok ms') : Listed universeCode ms' := by
  unfold addMember at h
  cases entry with
  | obj entry =>
    obtain ⟨found, hfound, h⟩ := bind_ok.mp h
    obtain ⟨_, hnew, h⟩ := bind_ok.mp h
    cases h
    refine ⟨fun m hm => ?_, ?_⟩
    · rcases List.mem_append.mp hm with hm | hm
      · exact hlisted.accepted m hm
      · cases List.mem_singleton.mp hm
        exact member_ok hfound
    · rw [List.map_append]
      refine List.nodup_append.mpr ⟨hlisted.distinct, List.nodup_singleton _, fun a ha b hb heq => ?_⟩
      rw [heq, List.mem_singleton.mp hb] at ha
      exact ensure_ok.mp hnew ha
  | _ => cases h

theorem foldlM_listed {universeCode : PyText} {entries : List PyJson} {ms ms' : List UniverseMember}
    (hlisted : Listed universeCode ms) (h : entries.foldlM (addMember universeCode) ms = .ok ms') :
    Listed universeCode ms' := by
  induction entries generalizing ms with
  | nil =>
    cases h
    exact hlisted
  | cons entry entries ih =>
    rw [List.foldlM_cons] at h
    obtain ⟨next, hnext, h⟩ := bind_ok.mp h
    exact ih (addMember_listed hlisted hnext) h

/-- A manifest that was read. -/
structure UniverseManifest.Accepted (m : UniverseManifest) : Prop where
  known : m.universeCode ∈ universeCodes
  listed : Listed m.universeCode m.members

theorem parseManifest_accepted {readers : Readers} {document : Document} {m : UniverseManifest}
    (h : parseManifest readers document = .ok m) : m.Accepted := by
  obtain ⟨decoded, -, h⟩ := bind_ok.mp h
  cases decoded with
  | obj payload =>
    obtain ⟨universeCode, -, h⟩ := bind_ok.mp h
    obtain ⟨_, hknown, h⟩ := bind_ok.mp h
    obtain ⟨effectiveDate, -, h⟩ := bind_ok.mp h
    obtain ⟨provenance, -, h⟩ := bind_ok.mp h
    obtain ⟨ms, hmembers, h⟩ := bind_ok.mp h
    cases h
    refine ⟨ensure_ok.mp hknown, ?_⟩
    unfold members at hmembers
    dsimp only
    cases hlist : PyJson.get payload (points "members") with
    | arr entries =>
      rw [hlist] at hmembers
      obtain ⟨_, -, hmembers⟩ := bind_ok.mp hmembers
      obtain ⟨_, -, hmembers⟩ := bind_ok.mp hmembers
      exact foldlM_listed (listed_nil _) hmembers
    | _ =>
      rw [hlist] at hmembers
      cases hmembers
  | _ => cases h

end AutoTrader.Universe
