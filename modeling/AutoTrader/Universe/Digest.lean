import AutoTrader.Domain.PyJsonText
import AutoTrader.Execution.Commands
import AutoTrader.Runtime.DistinctKeys
import AutoTrader.Universe.Manifest

/-! The digest of a manifest, and the comparison of two. The digest covers the code, the date and the members, in the
order of their symbols; a text that has no UTF-8 form keeps it from being taken. -/

namespace AutoTrader.Universe

open AutoTrader.Domain AutoTrader.Execution AutoTrader.Runtime

open PyText (points)

open PyJson (Plain Scalar)

/-! ### The canonical form -/

def flagTree : Option Bool → PyJson
  | some flag => .bool flag
  | none => .null

def sectorTree : Option PyText → PyJson
  | some sector => .str sector
  | none => .null

def memberFields (m : UniverseMember) : List (PyText × PyJson) :=
  [(points "symbol", .str m.symbol), (points "common_stock", flagTree m.commonStock),
    (points "sector", sectorTree m.sector)]

def memberTree (m : UniverseMember) : PyJson := .obj (memberFields m)

/-- `sorted(members, key=lambda item: item.symbol)`. -/
def sortedMembers (ms : List UniverseMember) : List UniverseMember :=
  ms.insertionSort fun a b => a.symbol ≤ b.symbol

def manifestFields (m : UniverseManifest) : List (PyText × PyJson) :=
  [(points "universe_code", .str m.universeCode), (points "effective_date", .str (points m.effectiveDate.isoformat)),
    (points "members", .arr ((sortedMembers m.members).map memberTree))]

def canonicalTree (m : UniverseManifest) : PyJson := .obj (manifestFields m)

/-- `canonical_bytes`; the bytes are told by the string they spell. -/
def canonicalBytes (m : UniverseManifest) : Except PyError String := (canonicalTree m).dumps.encode

def UniverseManifest.contentDigest (sha256 : String → Digest) (m : UniverseManifest) : Except PyError Digest := do
  let bytes ← canonicalBytes m
  pure (sha256 bytes)

theorem plain_memberTree (m : UniverseMember) : (memberTree m).Plain := by
  refine .obj fun entry hentry => ?_
  simp only [memberFields, List.mem_cons, List.not_mem_nil, or_false] at hentry
  rcases hentry with rfl | rfl | rfl
  · exact .str _
  · cases m.commonStock with
    | none => exact .null
    | some flag => exact .bool flag
  · cases m.sector with
    | none => exact .null
    | some sector => exact .str sector

theorem plain_canonicalTree (m : UniverseManifest) : (canonicalTree m).Plain := by
  refine .obj fun entry hentry => ?_
  simp only [manifestFields, List.mem_cons, List.not_mem_nil, or_false] at hentry
  rcases hentry with rfl | rfl | rfl
  · exact .str _
  · exact .str _
  · exact .arr (List.forall_mem_map.mpr fun m _ => plain_memberTree m)

/-! ### Manifests that can be digested -/

/-- No text of a member holds a lone surrogate. -/
structure UniverseMember.Encodable (m : UniverseMember) : Prop where
  symbol : Scalar m.symbol
  sector : ∀ sector ∈ m.sector, Scalar sector

def UniverseManifest.Encodable (m : UniverseManifest) : Prop := ∀ line ∈ m.members, line.Encodable

theorem encodable_memberTree (m : UniverseMember) : (memberTree m).Encodable ↔ m.Encodable := by
  have hflag : (flagTree m.commonStock).Encodable := by
    cases m.commonStock with
    | none => exact PyJson.encodable_null
    | some flag => exact PyJson.encodable_bool flag
  have hsector : (sectorTree m.sector).Encodable ↔ ∀ sector ∈ m.sector, Scalar sector := by
    cases m.sector with
    | none => exact iff_of_true PyJson.encodable_null fun _ hnone => (nomatch hnone)
    | some sector => simp [sectorTree, PyJson.encodable_str]
  rw [memberTree, memberFields, PyJson.encodable_obj]
  simp only [List.forall_mem_cons, List.not_mem_nil, false_implies, implies_true, and_true, PyJson.encodable_str,
    hsector, PyJson.scalar_points, hflag, true_and]
  exact ⟨fun h => ⟨h.1, h.2⟩, fun h => ⟨h.symbol, h.sector⟩⟩

theorem mem_sortedMembers {ms : List UniverseMember} {m : UniverseMember} : m ∈ sortedMembers ms ↔ m ∈ ms :=
  List.mem_insertionSort _

/-- The bytes of an accepted manifest are there exactly where the texts of its members can be encoded. -/
theorem canonicalBytes_returns {m : UniverseManifest} (h : m.Accepted) :
    (∃ bytes, canonicalBytes m = .ok bytes) ↔ m.Encodable := by
  have hcode : Scalar m.universeCode := by
    have hknown := h.known
    simp only [universeCodes, List.mem_cons, List.not_mem_nil, or_false] at hknown
    rcases hknown with hcode | hcode | hcode <;> (rw [hcode]; exact PyJson.scalar_points _)
  rw [canonicalBytes, PyJson.encode_dumps_returns (plain_canonicalTree m), canonicalTree, manifestFields,
    PyJson.encodable_obj]
  simp only [List.forall_mem_cons, List.not_mem_nil, false_implies, implies_true, and_true, PyJson.encodable_str,
    PyJson.encodable_arr, PyJson.scalar_points, hcode, true_and, List.forall_mem_map, encodable_memberTree,
    mem_sortedMembers]
  rfl

/-! ### Equal digests -/

theorem flagTree_injective {flag flag' : Option Bool} (h : (flagTree flag).sortKeys = (flagTree flag').sortKeys) :
    flag = flag' := by
  cases flag <;> cases flag' <;> simp_all [flagTree, PyJson.sortKeys]

theorem sectorTree_injective {sector sector' : Option PyText}
    (h : (sectorTree sector).sortKeys = (sectorTree sector').sortKeys) : sector = sector' := by
  cases sector <;> cases sector' <;> simp_all [sectorTree, PyJson.sortKeys]

theorem memberFields_keys (m m' : UniverseMember) :
    (memberFields m).map Prod.fst = (memberFields m').map Prod.fst := by
  simp only [memberFields, List.map_cons, List.map_nil]

theorem manifestFields_keys (m m' : UniverseManifest) :
    (manifestFields m).map Prod.fst = (manifestFields m').map Prod.fst := by
  simp only [manifestFields, List.map_cons, List.map_nil]

theorem memberKeys_nodup (m : UniverseMember) : ((memberFields m).map Prod.fst).Nodup := by
  show [points "symbol", points "common_stock", points "sector"].Nodup
  decide +kernel

theorem manifestKeys_nodup (m : UniverseManifest) : ((manifestFields m).map Prod.fst).Nodup := by
  show [points "universe_code", points "effective_date", points "members"].Nodup
  decide +kernel

theorem memberTree_injective : Function.Injective fun m => (memberTree m).sortKeys := by
  intro m m' h
  dsimp only at h
  rw [memberTree, memberTree, PyJson.sortKeys_obj_eq_iff (memberFields_keys m m') (memberKeys_nodup m)] at h
  simp only [memberFields, List.map_cons, List.map_nil, List.cons.injEq, and_true] at h
  obtain ⟨hsymbol, hflag, hsector⟩ := h
  cases m
  cases m'
  rw [PyJson.sortKeys_str, PyJson.sortKeys_str, PyJson.str.injEq] at hsymbol
  cases hsymbol
  cases flagTree_injective hflag
  cases sectorTree_injective hsector
  rfl

theorem canonicalTree_eq_iff {m m' : UniverseManifest} :
    (canonicalTree m).sortKeys = (canonicalTree m').sortKeys ↔ m.universeCode = m'.universeCode ∧
      m.effectiveDate = m'.effectiveDate ∧ sortedMembers m.members = sortedMembers m'.members := by
  rw [canonicalTree, canonicalTree, PyJson.sortKeys_obj_eq_iff (manifestFields_keys m m') (manifestKeys_nodup m)]
  simp only [manifestFields, List.map_cons, List.map_nil, List.cons.injEq, and_true, PyJson.sortKeys_arr,
    PyJson.sortKeys_str, PyJson.str.injEq, PyJson.arr.injEq, List.map_map]
  rw [PyText.points_injective.eq_iff, CalendarDate.isoformat_injective.eq_iff]
  exact and_congr_right fun _ => and_congr_right fun _ => (List.map_injective_iff.mpr memberTree_injective).eq_iff

/-- The members of two manifests, as sets. -/
def UniverseManifest.SameMembers (m m' : UniverseManifest) : Prop := ∀ line, line ∈ m.members ↔ line ∈ m'.members

/-- The same list as of the same date, from wherever it came and in whatever order. -/
structure UniverseManifest.SameUniverse (m m' : UniverseManifest) : Prop where
  universeCode : m.universeCode = m'.universeCode
  effectiveDate : m.effectiveDate = m'.effectiveDate
  members : m.SameMembers m'

theorem eq_of_symbol {ms : List UniverseMember} (hdistinct : (ms.map (·.symbol)).Nodup) {a b : UniverseMember}
    (ha : a ∈ ms) (hb : b ∈ ms) (h : a.symbol = b.symbol) : a = b :=
  List.inj_on_of_nodup_map hdistinct ha hb h

/-- Sorted by their symbols, the same members are one list. -/
theorem sortedMembers_eq_iff {ms ms' : List UniverseMember} (hdistinct : (ms.map (·.symbol)).Nodup)
    (hdistinct' : (ms'.map (·.symbol)).Nodup) :
    sortedMembers ms = sortedMembers ms' ↔ ∀ line, line ∈ ms ↔ line ∈ ms' := by
  constructor
  · intro h line
    rw [← mem_sortedMembers, h, mem_sortedMembers]
  · intro h
    have hsorted (ms : List UniverseMember) : (sortedMembers ms).Pairwise fun a b => a.symbol ≤ b.symbol :=
      List.pairwise_insertionSort _ _
    refine eq_of_sorted ((List.perm_insertionSort _ _).nodup_iff.mpr hdistinct.of_map)
      ((List.perm_insertionSort _ _).nodup_iff.mpr hdistinct'.of_map) (hsorted ms) (hsorted ms') (fun line => ?_) ?_
    · rw [mem_sortedMembers, mem_sortedMembers, h]
    · intro a ha b hb hab hba
      exact eq_of_symbol hdistinct (mem_sortedMembers.mp ha) (mem_sortedMembers.mp hb) (le_antisymm hab hba)

variable {m m' : UniverseManifest}

theorem canonicalBytes_eq_iff (h : m.Accepted) (h' : m'.Accepted) {x y : String} (hx : canonicalBytes m = .ok x)
    (hy : canonicalBytes m' = .ok y) : x = y ↔ m.SameUniverse m' := by
  rw [PyJson.encode_dumps_eq_iff (plain_canonicalTree m) (plain_canonicalTree m') hx hy, canonicalTree_eq_iff,
    sortedMembers_eq_iff h.listed.distinct h'.listed.distinct]
  exact ⟨fun ⟨hcode, hdate, hmembers⟩ => ⟨hcode, hdate, hmembers⟩,
    fun hsame => ⟨hsame.universeCode, hsame.effectiveDate, hsame.members⟩⟩

/-! ### Comparison -/

structure UniverseDifference where
  added : List PyText
  removed : List PyText
  changed : List PyText
  deriving DecidableEq

def UniverseDifference.identical (d : UniverseDifference) : Bool :=
  d.added.isEmpty && d.removed.isEmpty && d.changed.isEmpty

/-- The symbols of a dict that a condition holds of, in order. -/
def symbolsWhere (d : List (PyText × UniverseMember)) (p : PyText → Bool) : List PyText :=
  ((d.map Prod.fst).filter p).insertionSort (· ≤ ·)

/-- What changed between two dicts of members under their symbols. -/
def difference (before after : List (PyText × UniverseMember)) : UniverseDifference where
  added := symbolsWhere after fun symbol => (Dict.get? before symbol).isNone
  removed := symbolsWhere before fun symbol => (Dict.get? after symbol).isNone
  changed := symbolsWhere before fun symbol =>
    (Dict.get? after symbol).isSome && decide (Dict.get? before symbol ≠ Dict.get? after symbol)

def compare (previous current : UniverseManifest) : Except UniverseManifestError UniverseDifference :=
  if previous.universeCode ≠ current.universeCode then refused "only snapshots of one authority compare"
  else .ok (difference (dictOf (·.symbol) previous.members) (dictOf (·.symbol) current.members))

theorem symbolsWhere_isEmpty {d : List (PyText × UniverseMember)} {p : PyText → Bool} :
    (symbolsWhere d p).isEmpty = true ↔ ∀ symbol line, Dict.get? d symbol = some line → p symbol = false := by
  rw [symbolsWhere, List.isEmpty_iff, List.eq_nil_iff_forall_not_mem]
  simp only [List.mem_insertionSort, List.mem_filter, not_and, Bool.not_eq_true]
  constructor
  · intro h symbol line hline
    exact h symbol (List.mem_map_of_mem (Dict.mem_of_get? hline))
  · intro h symbol hsymbol
    obtain ⟨line, hline⟩ := Option.ne_none_iff_exists'.mp fun hnone => Dict.get?_eq_none.mp hnone hsymbol
    exact h symbol line hline

theorem bySymbol_eq_some {ms : List UniverseMember} (hdistinct : (ms.map (·.symbol)).Nodup) {symbol : PyText}
    {line : UniverseMember} :
    Dict.get? (dictOf (·.symbol) ms) symbol = some line ↔ line ∈ ms ∧ line.symbol = symbol := by
  rw [Dict.get?_dictOf_last]
  constructor
  · exact lastOf_some
  · rintro ⟨hline, rfl⟩
    exact lastOf_of_mem hdistinct hline

theorem difference_identical {before after : List (PyText × UniverseMember)} :
    (difference before after).identical = true ↔ ∀ symbol, Dict.get? before symbol = Dict.get? after symbol := by
  unfold UniverseDifference.identical difference
  rw [Bool.and_eq_true, Bool.and_eq_true, symbolsWhere_isEmpty, symbolsWhere_isEmpty, symbolsWhere_isEmpty]
  constructor
  · rintro ⟨⟨hadded, hremoved⟩, hchanged⟩ symbol
    cases hold : Dict.get? before symbol with
    | none =>
      cases hnew : Dict.get? after symbol with
      | none => rfl
      | some line => simpa [hold] using hadded symbol line hnew
    | some line =>
      cases hnew : Dict.get? after symbol with
      | none => simpa [hnew] using hremoved symbol line hold
      | some line' => simpa [hold, hnew] using hchanged symbol line hold
  · intro h
    refine ⟨⟨fun symbol line hline => ?_, fun symbol line hline => ?_⟩, fun symbol line _ => ?_⟩
    · rw [h symbol, hline, Option.isNone_some]
    · rw [← h symbol, hline, Option.isNone_some]
    · rw [h symbol, decide_eq_false (not_not.mpr rfl), Bool.and_false]

/-- Two manifests of one authority are identical exactly when their members are the same. -/
theorem compare_identical (h : m.Accepted) (h' : m'.Accepted) (hcode : m.universeCode = m'.universeCode) :
    ∃ d, compare m m' = .ok d ∧ (d.identical = true ↔ m.SameMembers m') := by
  refine ⟨_, if_neg (not_not.mpr hcode), ?_⟩
  rw [difference_identical]
  constructor
  · intro hsame line
    have hread (ms : List UniverseMember) (hdistinct : (ms.map (·.symbol)).Nodup) :
        line ∈ ms ↔ Dict.get? (dictOf (·.symbol) ms) line.symbol = some line := by
      rw [bySymbol_eq_some hdistinct, and_iff_left rfl]
    rw [hread _ h.listed.distinct, hread _ h'.listed.distinct, hsame]
  · intro hsame symbol
    refine Option.ext fun line => ?_
    rw [bySymbol_eq_some h.listed.distinct, bySymbol_eq_some h'.listed.distinct, hsame line]

/-! ### What the digest tells -/

/-- Both digests are there, and they are equal exactly for the same universe; a comparison finds nothing exactly for
the same members. -/
structure DigestsTell (sha256 : String → Digest) (m m' : UniverseManifest) : Prop where
  digests : ∃ digest digest', m.contentDigest sha256 = .ok digest ∧ m'.contentDigest sha256 = .ok digest' ∧
    (digest = digest' ↔ m.SameUniverse m')
  comparison : m.universeCode = m'.universeCode →
    ∃ d, compare m m' = .ok d ∧ (d.identical = true ↔ m.SameMembers m')

theorem contentDigest_ok {sha256 : String → Digest} {digest : Digest} :
    m.contentDigest sha256 = .ok digest ↔ ∃ bytes, canonicalBytes m = .ok bytes ∧ sha256 bytes = digest := by
  unfold UniverseManifest.contentDigest
  rw [bind_ok]
  exact exists_congr fun bytes => and_congr_right fun _ => ⟨Except.ok.inj, congrArg Except.ok⟩

/-- Of two manifests that were read, digest and comparison tell what they promise exactly when no symbol and no sector
holds a lone surrogate. -/
theorem digests_tell_iff {readers : Readers} {document document' : Document} {m m' : UniverseManifest}
    {sha256 : String → Digest} (h : parseManifest readers document = .ok m)
    (h' : parseManifest readers document' = .ok m')
    (hcollision : ∀ x y, canonicalBytes m = .ok x → canonicalBytes m' = .ok y → sha256 x = sha256 y → x = y) :
    DigestsTell sha256 m m' ↔ m.Encodable ∧ m'.Encodable := by
  have haccepted := parseManifest_accepted h
  have haccepted' := parseManifest_accepted h'
  constructor
  · rintro ⟨⟨digest, digest', hdigest, hdigest', -⟩, -⟩
    obtain ⟨x, hx, -⟩ := contentDigest_ok.mp hdigest
    obtain ⟨y, hy, -⟩ := contentDigest_ok.mp hdigest'
    exact ⟨(canonicalBytes_returns haccepted).mp ⟨x, hx⟩, (canonicalBytes_returns haccepted').mp ⟨y, hy⟩⟩
  · rintro ⟨hencodable, hencodable'⟩
    obtain ⟨x, hx⟩ := (canonicalBytes_returns haccepted).mpr hencodable
    obtain ⟨y, hy⟩ := (canonicalBytes_returns haccepted').mpr hencodable'
    refine ⟨⟨sha256 x, sha256 y, contentDigest_ok.mpr ⟨x, hx, rfl⟩, contentDigest_ok.mpr ⟨y, hy, rfl⟩, ?_⟩,
      compare_identical haccepted haccepted'⟩
    rw [← canonicalBytes_eq_iff haccepted haccepted' hx hy]
    exact ⟨hcollision x y hx hy, congrArg sha256⟩

/-! A published list of one member whose sector is half a surrogate pair. -/

/-- `date.fromisoformat` of a date in its extended form. -/
def readCalendarDate (text : PyText) : Option CalendarDate :=
  match readDate (text.map CodePoint.char) with
  | some (days, []) => if h : -719162 ≤ days ∧ days ≤ 2932896 then some ⟨days, h⟩ else none
  | _ => none

def sampleReaders : Readers where
  decode value := (String.fromUTF8? value).map points
  date := readCalendarDate
  datetime text := (fromisoformat (String.ofList (text.map CodePoint.char))).map fun instant => ⟨instant, .utc⟩

/-- A member of a JSON object that is a string. -/
def textMember (name value : String) : PyText :=
  points "\"" ++ points name ++ points "\":\"" ++ points value ++ points "\""

/-- A published list of one member with this sector, as this source has it. -/
def listedAs (source sector : String) : Document := .str
  (points "\x7b" ++ textMember "universe_code" "SP100" ++ points "," ++ textMember "effective_date" "2026-08-31" ++
    points ",\"source\":\x7b" ++ textMember "name" source ++ points "," ++ textMember "reference" "sp100" ++
    points "," ++ textMember "published_at" "2026-08-30T09:00:00+00:00" ++ points "\x7d,\"members\":[\x7b" ++
    textMember "symbol" "BAX" ++ points ",\"common_stock\":true," ++ textMember "sector" sector ++
    points "\x7d]\x7d")

theorem listed_valid : (-719162 : ℤ) ≤ 20696 ∧ (20696 : ℤ) ≤ 2932896 := by decide

def listed (source : String) (sector : PyText) : UniverseManifest where
  universeCode := sp100
  effectiveDate := ⟨20696, listed_valid⟩
  provenance := ⟨points source, points "sp100", 1788080400000000⟩
  members := [⟨points "BAX", some true, some sector⟩]

theorem parseManifest_index :
    parseManifest sampleReaders (listedAs "index" "IT") = .ok (listed "index" (points "IT")) := by
  decide +kernel

theorem parseManifest_copy :
    parseManifest sampleReaders (listedAs "copy" "IT") = .ok (listed "copy" (points "IT")) := by
  decide +kernel

theorem encodable_listed (source sector : String) : (listed source (points sector)).Encodable := by
  refine List.forall_mem_singleton.mpr ⟨PyJson.scalar_points _, fun found hfound => ?_⟩
  cases hfound
  exact PyJson.scalar_points _

/-- The same list from two sources. -/
theorem digests_tell_listed :
    DigestsTell (fun bytes => BitVec.ofNat 256 bytes.length) (listed "index" (points "IT"))
      (listed "copy" (points "IT")) := by
  refine (digests_tell_iff parseManifest_index parseManifest_copy fun x y hx hy _ => ?_).mpr
    ⟨encodable_listed "index" "IT", encodable_listed "copy" "IT"⟩
  have hsame : (listed "index" (points "IT")).SameUniverse (listed "copy" (points "IT")) :=
    ⟨rfl, rfl, fun _ => Iff.rfl⟩
  exact (canonicalBytes_eq_iff (parseManifest_accepted parseManifest_index) (parseManifest_accepted parseManifest_copy)
    hx hy).mpr hsame

/-- Half a pair in a sector is read, and the manifest has no digest. -/
theorem lone_surrogate_undigested :
    parseManifest sampleReaders (listedAs "index" "\\ud800") = .ok (listed "index" [55296]) ∧
      ∀ sha256 : String → Digest, ¬ ∃ digest, (listed "index" [55296]).contentDigest sha256 = .ok digest := by
  have hparsed : parseManifest sampleReaders (listedAs "index" "\\ud800") = .ok (listed "index" [55296]) := by
    decide +kernel
  refine ⟨hparsed, fun sha256 ⟨digest, hdigest⟩ => ?_⟩
  obtain ⟨bytes, hbytes, -⟩ := contentDigest_ok.mp hdigest
  have hclean := (canonicalBytes_returns (parseManifest_accepted hparsed)).mp ⟨bytes, hbytes⟩
  have hsurrogate := (hclean _ List.mem_cons_self).sector [55296] rfl 55296 List.mem_cons_self
  revert hsurrogate
  decide

end AutoTrader.Universe
