import AutoTrader.Domain.JsonText
import AutoTrader.Domain.PyJson
import Mathlib.Data.List.Lex
import Mathlib.Order.Fin.Basic

/-! The texts of JSON documents under `ensure_ascii=False`. A document without numbers is read back from its text, so
its text tells it from every other one. -/

namespace AutoTrader.Domain.PyJson

/-! ### Writing -/

/-- Two hexadecimal digits of a control character. -/
def hexPoints (n : ℕ) : PyText :=
  [n / 16, n % 16].map fun d => Fin.ofNat 1114112 (if d < 10 then 48 + d else 87 + d)

/-- One character of a string: the quote, the backslash and control characters are escaped. -/
def escapePoint (c : CodePoint) : PyText :=
  if c = quotePoint ∨ c = backslashPoint then [backslashPoint, c]
  else if c.val = 8 then [backslashPoint, point 'b']
  else if c.val = 9 then [backslashPoint, point 't']
  else if c.val = 10 then [backslashPoint, point 'n']
  else if c.val = 12 then [backslashPoint, point 'f']
  else if c.val = 13 then [backslashPoint, point 'r']
  else if c.val < 32 then [backslashPoint, point 'u', point '0', point '0'] ++ hexPoints c.val
  else [c]

def stringText (s : PyText) : PyText := quotePoint :: (s.flatMap escapePoint ++ [quotePoint])

mutual

/-- The text of a document. -/
def text : PyJson → PyText
  | .null => PyText.points "null"
  | .bool true => PyText.points "true"
  | .bool false => PyText.points "false"
  | .int n => PyText.points (toString n)
  | .float numeral => numeral
  | .str s => stringText s
  | .arr values => point '[' :: itemsText values
  | .obj members => openBracePoint :: membersText members

/-- The values of an array, up to its closing bracket. -/
def itemsText : List PyJson → PyText
  | [] => [point ']']
  | value :: values => value.text ++ moreItems values

/-- The values after the first. -/
def moreItems : List PyJson → PyText
  | [] => [point ']']
  | value :: values => point ',' :: (value.text ++ moreItems values)

def memberText : PyText × PyJson → PyText
  | (key, value) => stringText key ++ point ':' :: value.text

/-- The members of an object, up to its closing brace. -/
def membersText : List (PyText × PyJson) → PyText
  | [] => [closeBracePoint]
  | member :: members => memberText member ++ moreMembers members

/-- The members after the first. -/
def moreMembers : List (PyText × PyJson) → PyText
  | [] => [closeBracePoint]
  | member :: members => point ',' :: (memberText member ++ moreMembers members)

end

/-- A document without numbers. -/
inductive Plain : PyJson → Prop
  | null : Plain .null
  | bool (value : Bool) : Plain (.bool value)
  | str (value : PyText) : Plain (.str value)
  | arr {values : List PyJson} (h : ∀ value ∈ values, Plain value) : Plain (.arr values)
  | obj {members : List (PyText × PyJson)} (h : ∀ member ∈ members, Plain member.2) : Plain (.obj members)

/-! ### Strings are read back -/

theorem scanString_plain {fuel : ℕ} {c : CodePoint} {rest : PyText} (hquote : c ≠ quotePoint)
    (hbackslash : c ≠ backslashPoint) (hcontrol : ¬ c.val < 32) :
    scanString (fuel + 1) (c :: rest) = (scanString fuel rest).map fun (cs, rest) => (c :: cs, rest) := by
  rw [scanString, if_neg hquote, if_neg hbackslash, if_neg hcontrol]

theorem scanString_escaped {fuel : ℕ} {c : CodePoint} {tail rest : PyText} (h : scanEscape tail = some (c, rest)) :
    scanString (fuel + 1) (backslashPoint :: tail) = (scanString fuel rest).map fun (cs, rest) => (c :: cs, rest) := by
  rw [scanString, if_neg (by decide), if_pos rfl, h]

theorem scanLow_small {n : ℕ} (h : n < 55296) (rest : PyText) : scanLow n rest = some (Fin.ofNat 1114112 n, rest) := by
  unfold scanLow
  split
  · exact if_neg fun hhigh => absurd hhigh.1 (by omega)
  · rfl

/-- Four digits of a small number. -/
theorem scanEscape_control {n : ℕ} (h : n < 32) (rest : PyText) :
    scanEscape (point 'u' :: point '0' :: point '0' :: (hexPoints n ++ rest)) = some (Fin.ofNat 1114112 n, rest) := by
  have hread : scanHex (point '0' :: point '0' :: (hexPoints n ++ rest)) = some (n, rest) := by
    interval_cases n <;> rfl
  rw [scanEscape, if_pos rfl, hread]
  exact scanLow_small (by omega) rest

/-- A character is read back from its escape. -/
theorem scanString_escapePoint (fuel : ℕ) (c : CodePoint) (rest : PyText) :
    scanString (fuel + 1) (escapePoint c ++ rest) = (scanString fuel rest).map fun (cs, rest) => (c :: cs, rest) := by
  have hof {n : ℕ} (hn : n < 1114112) (h : c.val = n) : c = ⟨n, hn⟩ := Fin.ext h
  unfold escapePoint
  split
  next h => rcases h with rfl | rfl <;> exact scanString_escaped rfl
  next hquoted =>
    split
    next h => exact hof (by decide) h ▸ scanString_escaped rfl
    split
    next h => exact hof (by decide) h ▸ scanString_escaped rfl
    split
    next h => exact hof (by decide) h ▸ scanString_escaped rfl
    split
    next h => exact hof (by decide) h ▸ scanString_escaped rfl
    split
    next h => exact hof (by decide) h ▸ scanString_escaped rfl
    split
    next h =>
      have hself : Fin.ofNat 1114112 c.val = c := Fin.ext (Nat.mod_eq_of_lt c.isLt)
      have hcontrol := scanEscape_control h rest
      rw [hself] at hcontrol
      exact scanString_escaped hcontrol
    next h =>
      obtain ⟨hquote, hbackslash⟩ := not_or.mp hquoted
      exact scanString_plain hquote hbackslash h

/-- A string is read back from its text. -/
theorem scanString_text {fuel : ℕ} (s rest : PyText) (h : s.length < fuel) :
    scanString fuel (s.flatMap escapePoint ++ quotePoint :: rest) = some (s, rest) := by
  induction s generalizing fuel with
  | nil =>
    obtain ⟨fuel, rfl⟩ := Nat.exists_eq_add_of_lt h
    rfl
  | cons c s ih =>
    cases fuel with
    | zero => cases h
    | succ fuel =>
      rw [List.flatMap_cons, List.append_assoc, scanString_escapePoint, ih (Nat.lt_of_succ_lt_succ h)]
      rfl

theorem length_le_escaped (s : PyText) : s.length ≤ (s.flatMap escapePoint).length := by
  induction s with
  | nil => exact le_rfl
  | cons c s ih =>
    have hone : 1 ≤ (escapePoint c).length := by
      unfold escapePoint
      repeat' split
      all_goals simp
    rw [List.flatMap_cons, List.length_append, List.length_cons]
    omega

/-! ### Documents are read back -/

theorem skipSpace_cons {c : CodePoint} (h : isJsonSpace c = false) (rest : PyText) :
    skipSpace (c :: rest) = c :: rest := by
  rw [skipSpace, List.dropWhile_cons, h]
  rfl

/-- A text starts with neither a space nor a closing bracket. -/
theorem Plain.head {t : PyJson} (h : t.Plain) :
    ∃ c rest, t.text = c :: rest ∧ isJsonSpace c = false ∧ c ≠ point ']' := by
  cases h with
  | null => exact ⟨_, _, by rw [text]; rfl, by decide, by decide⟩
  | bool value => cases value <;> exact ⟨_, _, by rw [text]; rfl, by decide, by decide⟩
  | str s => exact ⟨_, _, by rw [text, stringText], by decide, by decide⟩
  | arr h => exact ⟨_, _, by rw [text], by decide, by decide⟩
  | obj h => exact ⟨_, _, by rw [text], by decide, by decide⟩

theorem Plain.skipSpace {t : PyJson} (h : t.Plain) (rest : PyText) : skipSpace (t.text ++ rest) = t.text ++ rest := by
  obtain ⟨c, tail, htext, hspace, -⟩ := h.head
  rw [htext, List.cons_append, skipSpace_cons hspace]

/-- A document that is read back from its text, whatever follows. -/
def ReadBack (t : PyJson) : Prop :=
  ∀ fuel rest, t.text.length ≤ fuel → scanValue fuel (t.text ++ rest) = some (t, rest)

/-- The values of an array are read back up to the closing bracket. -/
theorem scanItems_text {value : PyJson} {values : List PyJson} (hplain : ∀ v ∈ value :: values, Plain v)
    (hread : ∀ v ∈ value :: values, v.ReadBack) {fuel : ℕ} (rest : PyText)
    (hfuel : (value.text ++ moreItems values).length ≤ fuel) :
    scanItems fuel (value.text ++ (moreItems values ++ rest)) = some (value :: values, rest) := by
  induction values generalizing value fuel with
  | nil =>
    rw [moreItems, List.length_append, List.length_singleton] at hfuel
    obtain ⟨fuel, rfl⟩ := Nat.exists_eq_add_of_lt (Nat.lt_of_lt_of_le (Nat.lt_succ_of_le (Nat.zero_le _)) hfuel)
    rw [scanItems, hread value List.mem_cons_self _ _ (by omega), moreItems]
    dsimp only
    rw [List.singleton_append, skipSpace_cons (by decide)]
    exact if_pos rfl
  | cons next values ih =>
    rw [moreItems, List.length_append, List.length_cons] at hfuel
    obtain ⟨fuel, rfl⟩ := Nat.exists_eq_add_of_lt (Nat.lt_of_lt_of_le (Nat.lt_succ_of_le (Nat.zero_le _)) hfuel)
    rw [scanItems, hread value List.mem_cons_self _ _ (by omega), moreItems]
    dsimp only
    rw [List.cons_append, skipSpace_cons (by decide)]
    dsimp only
    rw [if_neg (by decide), if_pos rfl, List.append_assoc,
      (hplain next (List.mem_cons_of_mem _ List.mem_cons_self)).skipSpace,
      ih (fun v hv => hplain v (List.mem_cons_of_mem _ hv)) (fun v hv => hread v (List.mem_cons_of_mem _ hv))
        (by omega)]
    rfl

/-- A member is read back up to what follows it. -/
theorem scanMembers_step {member : PyText × PyJson} (hplain : member.2.Plain) (hread : member.2.ReadBack) {fuel : ℕ}
    {d : CodePoint} (hspace : isJsonSpace d = false) (rest : PyText) (hfuel : (memberText member).length ≤ fuel) :
    scanMembers (fuel + 1) (memberText member ++ d :: rest) =
      if d = closeBracePoint then some ([member], rest)
      else if d = point ',' then
        (scanMembers fuel (PyJson.skipSpace rest)).map fun (members, rest) => (member :: members, rest)
      else none := by
  obtain ⟨key, value⟩ := member
  dsimp only at hplain hread
  have hlength := length_le_escaped key
  rw [memberText, stringText, List.length_append, List.length_cons, List.length_cons, List.length_append,
    List.length_singleton] at hfuel
  have htext : memberText (key, value) ++ d :: rest =
      quotePoint :: (key.flatMap escapePoint ++ quotePoint :: point ':' :: (value.text ++ d :: rest)) := by
    simp [memberText, stringText]
  rw [htext, scanMembers, if_neg (not_not.mpr rfl), scanString_text key _ (by omega)]
  dsimp only
  rw [skipSpace_cons (by decide)]
  dsimp only
  rw [if_neg (not_not.mpr rfl), hplain.skipSpace, hread fuel _ (by omega)]
  dsimp only
  rw [skipSpace_cons hspace]

theorem memberText_skipSpace (member : PyText × PyJson) (rest : PyText) :
    skipSpace (memberText member ++ rest) = memberText member ++ rest := by
  obtain ⟨key, value⟩ := member
  rw [memberText, stringText, List.cons_append, List.cons_append, skipSpace_cons (by decide)]

/-- The members of an object are read back up to the closing brace. -/
theorem scanMembers_text {member : PyText × PyJson} {members : List (PyText × PyJson)}
    (hplain : ∀ m ∈ member :: members, Plain m.2) (hread : ∀ m ∈ member :: members, m.2.ReadBack) {fuel : ℕ}
    (rest : PyText) (hfuel : (memberText member ++ moreMembers members).length ≤ fuel) :
    scanMembers fuel (memberText member ++ (moreMembers members ++ rest)) = some (member :: members, rest) := by
  induction members generalizing member fuel with
  | nil =>
    rw [moreMembers, List.length_append, List.length_singleton] at hfuel
    obtain ⟨fuel, rfl⟩ := Nat.exists_eq_add_of_lt (Nat.lt_of_lt_of_le (Nat.lt_succ_of_le (Nat.zero_le _)) hfuel)
    rw [moreMembers, List.singleton_append, scanMembers_step (hplain member List.mem_cons_self)
      (hread member List.mem_cons_self) (by decide) rest (by omega), if_pos rfl]
  | cons next members ih =>
    rw [moreMembers, List.length_append, List.length_cons] at hfuel
    obtain ⟨fuel, rfl⟩ := Nat.exists_eq_add_of_lt (Nat.lt_of_lt_of_le (Nat.lt_succ_of_le (Nat.zero_le _)) hfuel)
    rw [moreMembers, List.cons_append, scanMembers_step (hplain member List.mem_cons_self)
      (hread member List.mem_cons_self) (by decide) _ (by omega), if_neg (by decide), if_pos rfl, List.append_assoc,
      memberText_skipSpace, ih (fun m hm => hplain m (List.mem_cons_of_mem _ hm))
        (fun m hm => hread m (List.mem_cons_of_mem _ hm)) (by omega)]
    rfl

/-- A document without numbers is read back. -/
theorem Plain.readBack {t : PyJson} (h : t.Plain) : t.ReadBack := by
  induction h with
  | null =>
    intro fuel rest hfuel
    cases fuel with
    | zero => exact absurd hfuel (by decide)
    | succ fuel => rfl
  | bool value =>
    intro fuel rest hfuel
    cases fuel with
    | zero => cases value <;> exact absurd hfuel (by decide)
    | succ fuel => cases value <;> rfl
  | str s =>
    intro fuel rest hfuel
    have hlength := length_le_escaped s
    rw [text, stringText, List.length_cons, List.length_append, List.length_singleton] at hfuel
    obtain ⟨fuel, rfl⟩ := Nat.exists_eq_add_of_lt (Nat.lt_of_lt_of_le (Nat.succ_pos _) hfuel)
    have htext : text (.str s) ++ rest = quotePoint :: (s.flatMap escapePoint ++ quotePoint :: rest) := by
      simp [text, stringText]
    rw [htext, scanValue, if_pos rfl, scanString_text s rest (by omega)]
    rfl
  | @arr values h ih =>
    intro fuel rest hfuel
    rw [text, List.length_cons] at hfuel
    obtain ⟨fuel, rfl⟩ := Nat.exists_eq_add_of_lt (Nat.lt_of_lt_of_le (Nat.succ_pos _) hfuel)
    rw [text, List.cons_append, scanValue, if_neg (by decide), if_neg (by decide), if_pos rfl]
    cases values with
    | nil => rfl
    | cons value values =>
      rw [itemsText] at hfuel ⊢
      have hitems := scanItems_text h ih rest (Nat.le_of_succ_le_succ (by omega : _ ≤ 0 + fuel + 1))
      obtain ⟨c, tail, htext, -, hclose⟩ := (h value List.mem_cons_self).head
      rw [List.append_assoc, (h value List.mem_cons_self).skipSpace]
      rw [htext, List.cons_append] at hitems ⊢
      dsimp only
      rw [if_neg hclose, hitems]
      rfl
  | @obj members h ih =>
    intro fuel rest hfuel
    rw [text, List.length_cons] at hfuel
    obtain ⟨fuel, rfl⟩ := Nat.exists_eq_add_of_lt (Nat.lt_of_lt_of_le (Nat.succ_pos _) hfuel)
    rw [text, List.cons_append, scanValue, if_neg (by decide), if_pos rfl]
    cases members with
    | nil => rfl
    | cons member members =>
      rw [membersText] at hfuel ⊢
      have hmembers := scanMembers_text h ih rest (Nat.le_of_succ_le_succ (by omega : _ ≤ 0 + fuel + 1))
      obtain ⟨tail, htext⟩ : ∃ tail, memberText member = quotePoint :: tail := ⟨_, by rw [memberText, stringText]; rfl⟩
      rw [List.append_assoc, memberText_skipSpace]
      rw [htext, List.cons_append] at hmembers ⊢
      dsimp only
      rw [if_neg (by decide), hmembers]
      rfl

/-- Documents without numbers are told apart by their texts. -/
theorem text_injective {a b : PyJson} (ha : a.Plain) (hb : b.Plain) (h : a.text = b.text) : a = b := by
  have hread := ha.readBack (a.text.length + 1) [] (Nat.le_succ _)
  rw [h, hb.readBack _ _ (Nat.le_succ _)] at hread
  exact (Prod.mk.inj (Option.some.inj hread)).1.symm

/-! ### Sorted keys -/

mutual

/-- With the members of every object in the order of their keys. -/
def sortKeys : PyJson → PyJson
  | .arr values => .arr (sortValues values)
  | .obj members => .obj ((sortMembers members).insertionSort fun a b => a.1 ≤ b.1)
  | .null => .null
  | .bool value => .bool value
  | .int value => .int value
  | .float numeral => .float numeral
  | .str value => .str value

def sortValues : List PyJson → List PyJson
  | [] => []
  | value :: values => value.sortKeys :: sortValues values

def sortMember : PyText × PyJson → PyText × PyJson
  | (key, value) => (key, value.sortKeys)

def sortMembers : List (PyText × PyJson) → List (PyText × PyJson)
  | [] => []
  | member :: members => sortMember member :: sortMembers members

end

/-- `json.dumps(tree, ensure_ascii=False, sort_keys=True, separators=(",", ":"), allow_nan=False)`. -/
def dumps (tree : PyJson) : PyText := tree.sortKeys.text

theorem sortValues_eq (values : List PyJson) : sortValues values = values.map sortKeys := by
  induction values with
  | nil => rw [sortValues, List.map_nil]
  | cons value values ih => rw [sortValues, ih, List.map_cons]

theorem sortMembers_eq (members : List (PyText × PyJson)) :
    sortMembers members = members.map fun member => (member.1, member.2.sortKeys) := by
  induction members with
  | nil => rw [sortMembers, List.map_nil]
  | cons member members ih => rw [sortMembers, ih, List.map_cons, sortMember]

theorem sortKeys_str (s : PyText) : sortKeys (.str s) = .str s := by rw [sortKeys]

theorem sortKeys_arr (values : List PyJson) : sortKeys (.arr values) = .arr (values.map sortKeys) := by
  rw [sortKeys, sortValues_eq]

theorem sortKeys_obj (members : List (PyText × PyJson)) : sortKeys (.obj members) =
    .obj ((members.map fun member => (member.1, member.2.sortKeys)).insertionSort fun a b => a.1 ≤ b.1) := by
  rw [sortKeys, sortMembers_eq]

theorem Plain.sortKeys {t : PyJson} (h : t.Plain) : t.sortKeys.Plain := by
  induction h with
  | null => rw [PyJson.sortKeys]; exact .null
  | bool value => rw [PyJson.sortKeys]; exact .bool value
  | str value => rw [PyJson.sortKeys]; exact .str value
  | arr h ih =>
    rw [sortKeys_arr]
    refine .arr fun value hvalue => ?_
    obtain ⟨old, hold, rfl⟩ := List.mem_map.mp hvalue
    exact ih old hold
  | obj h ih =>
    rw [sortKeys_obj]
    refine .obj fun member hmember => ?_
    obtain ⟨old, hold, rfl⟩ := List.mem_map.mp ((List.mem_insertionSort _).mp hmember)
    exact ih old hold

theorem dumps_eq_iff {a b : PyJson} (ha : a.Plain) (hb : b.Plain) : a.dumps = b.dumps ↔ a.sortKeys = b.sortKeys :=
  ⟨text_injective ha.sortKeys hb.sortKeys, congrArg text⟩

/-- Objects with the same keys have the same text exactly when their values do. -/
theorem sortKeys_obj_eq_iff {members members' : List (PyText × PyJson)}
    (hkeys : members.map Prod.fst = members'.map Prod.fst) (hnodup : (members.map Prod.fst).Nodup) :
    sortKeys (.obj members) = sortKeys (.obj members') ↔
      members.map (fun member => member.2.sortKeys) = members'.map fun member => member.2.sortKeys := by
  have hfirsts (members : List (PyText × PyJson)) :
      (members.map fun member => (member.1, member.2.sortKeys)).map Prod.fst = members.map Prod.fst := by
    rw [List.map_map]
    rfl
  rw [sortKeys_obj, sortKeys_obj, obj.injEq, JsonTree.insertionSort_keys_eq_iff (by rw [hfirsts, hfirsts, hkeys])
    (by rwa [hfirsts]), List.map_map, List.map_map]
  rfl

/-! ### Encoding -/

/-- Texts without surrogates. -/
def Scalar (s : PyText) : Prop := ∀ c ∈ s, CodePoint.isSurrogate c = false

theorem scalar_append {s t : PyText} : Scalar (s ++ t) ↔ Scalar s ∧ Scalar t := List.forall_mem_append

theorem scalar_cons {c : CodePoint} {s : PyText} (h : c.isSurrogate = false) : Scalar (c :: s) ↔ Scalar s := by
  unfold Scalar
  rw [List.forall_mem_cons, and_iff_right h]

theorem isSurrogate_small {c : CodePoint} (h : c.val < 55296) : c.isSurrogate = false := by
  rw [CodePoint.isSurrogate, decide_eq_false (by omega), Bool.false_and]

/-- A character is no surrogate. -/
theorem isSurrogate_point (c : Char) : (point c).isSurrogate = false := by
  have hvalid := c.valid
  rw [CodePoint.isSurrogate, point_val, Bool.and_eq_false_iff, decide_eq_false_iff_not, decide_eq_false_iff_not]
  simp only [Char.toNat, UInt32.isValidChar, Nat.isValidChar] at hvalid ⊢
  omega

theorem scalar_points (s : String) : Scalar (PyText.points s) :=
  List.forall_mem_map.mpr fun c _ => isSurrogate_point c

theorem scalar_hexPoints {n : ℕ} (h : n < 32) : Scalar (hexPoints n) := by
  refine List.forall_mem_map.mpr fun d hd => isSurrogate_small ?_
  have hdigit : d < 16 := by
    rcases List.mem_pair.mp hd with rfl | rfl <;> omega
  show (if d < 10 then 48 + d else 87 + d) % 1114112 < 55296
  split <;> omega

/-- An escape holds a surrogate where the character is one. -/
theorem scalar_escapePoint (c : CodePoint) : Scalar (escapePoint c) ↔ c.isSurrogate = false := by
  have hpair (letter : Char) (h : c.val < 32) : Scalar [backslashPoint, point letter] ↔ c.isSurrogate = false :=
    iff_of_true ((scalar_cons (by decide)).mpr (List.forall_mem_singleton.mpr (isSurrogate_point letter)))
      (isSurrogate_small (by omega))
  unfold escapePoint
  split
  next => rw [scalar_cons (by decide), Scalar, List.forall_mem_singleton]
  split
  next h => exact hpair _ (by omega)
  split
  next h => exact hpair _ (by omega)
  split
  next h => exact hpair _ (by omega)
  split
  next h => exact hpair _ (by omega)
  split
  next h => exact hpair _ (by omega)
  split
  next h =>
    have hlead : Scalar (backslashPoint :: PyText.points "u00") := (scalar_cons (by decide)).mpr (scalar_points "u00")
    exact iff_of_true (scalar_append.mpr ⟨hlead, scalar_hexPoints h⟩) (isSurrogate_small (by omega))
  next => rw [Scalar, List.forall_mem_singleton]

theorem scalar_stringText (s : PyText) : Scalar (stringText s) ↔ Scalar s := by
  have hescaped : Scalar (s.flatMap escapePoint) ↔ Scalar s := by
    induction s with
    | nil => exact Iff.rfl
    | cons c s ih =>
      rw [List.flatMap_cons, scalar_append, ih, scalar_escapePoint]
      unfold Scalar
      rw [List.forall_mem_cons]
  have hquote : Scalar [quotePoint] := List.forall_mem_singleton.mpr (by decide)
  rw [stringText, scalar_cons (by decide), scalar_append, hescaped, and_iff_left hquote]

/-- A document whose text can be encoded. -/
def Encodable (t : PyJson) : Prop := Scalar t.text

theorem encodable_null : Encodable .null := by
  rw [Encodable, text]
  exact scalar_points "null"

theorem encodable_bool (value : Bool) : Encodable (.bool value) := by
  cases value <;> (rw [Encodable, text]; exact scalar_points _)

theorem encodable_str (s : PyText) : Encodable (.str s) ↔ Scalar s := by
  rw [Encodable, text, scalar_stringText]

theorem encodable_arr (values : List PyJson) : Encodable (.arr values) ↔ ∀ value ∈ values, value.Encodable := by
  have hclose : Scalar [point ']'] := List.forall_mem_singleton.mpr (by decide)
  have hmore (values : List PyJson) : Scalar (moreItems values) ↔ ∀ value ∈ values, value.Encodable := by
    induction values with
    | nil => rw [moreItems]; exact iff_of_true hclose (List.forall_mem_nil _)
    | cons value values ih =>
      rw [moreItems, scalar_cons (by decide), scalar_append, ih, List.forall_mem_cons, Encodable]
  rw [Encodable, text, scalar_cons (by decide)]
  cases values with
  | nil => rw [itemsText]; exact iff_of_true hclose (List.forall_mem_nil _)
  | cons value values =>
    rw [itemsText, scalar_append, hmore, List.forall_mem_cons, Encodable]

theorem encodable_obj (members : List (PyText × PyJson)) :
    Encodable (.obj members) ↔ ∀ member ∈ members, Scalar member.1 ∧ member.2.Encodable := by
  have hclose : Scalar [closeBracePoint] := List.forall_mem_singleton.mpr (by decide)
  have hmember (member : PyText × PyJson) : Scalar (memberText member) ↔ Scalar member.1 ∧ member.2.Encodable := by
    obtain ⟨key, value⟩ := member
    rw [memberText, scalar_append, scalar_stringText, scalar_cons (by decide), Encodable]
  have hmore (members : List (PyText × PyJson)) :
      Scalar (moreMembers members) ↔ ∀ member ∈ members, Scalar member.1 ∧ member.2.Encodable := by
    induction members with
    | nil => rw [moreMembers]; exact iff_of_true hclose (List.forall_mem_nil _)
    | cons member members ih =>
      rw [moreMembers, scalar_cons (by decide), scalar_append, ih, hmember, List.forall_mem_cons]
  rw [Encodable, text, scalar_cons (by decide)]
  cases members with
  | nil => rw [membersText]; exact iff_of_true hclose (List.forall_mem_nil _)
  | cons member members =>
    rw [membersText, scalar_append, hmore, hmember, List.forall_mem_cons]

/-- Sorting the keys moves no text. -/
theorem encodable_sortKeys {t : PyJson} (h : t.Plain) : t.sortKeys.Encodable ↔ t.Encodable := by
  induction h with
  | null => rw [sortKeys]
  | bool value => rw [sortKeys]
  | str value => rw [sortKeys]
  | arr h ih =>
    rw [sortKeys_arr, encodable_arr, encodable_arr, List.forall_mem_map]
    exact forall₂_congr fun value hvalue => ih value hvalue
  | obj h ih =>
    rw [sortKeys_obj, encodable_obj, encodable_obj]
    simp only [List.mem_insertionSort, List.forall_mem_map]
    exact forall₂_congr fun member hmember => and_congr_right fun _ => ih member hmember

/-- A document without numbers is encoded exactly where none of its texts holds a surrogate. -/
theorem encode_dumps_returns {t : PyJson} (h : t.Plain) : (∃ bytes, t.dumps.encode = .ok bytes) ↔ t.Encodable := by
  rw [PyText.encode_returns, ← encodable_sortKeys h]
  rfl

/-- A document of texts without lone surrogates. -/
inductive Clean : PyJson → Prop
  | null : Clean .null
  | bool (value : Bool) : Clean (.bool value)
  | int (value : ℤ) : Clean (.int value)
  | str {value : PyText} (h : Scalar value) : Clean (.str value)
  | arr {values : List PyJson} (h : ∀ value ∈ values, Clean value) : Clean (.arr values)
  | obj {members : List (PyText × PyJson)} (hkeys : ∀ member ∈ members, Scalar member.1)
      (h : ∀ member ∈ members, Clean member.2) : Clean (.obj members)

theorem Clean.encodable_sortKeys {t : PyJson} (h : t.Clean) : t.sortKeys.Encodable := by
  induction h with
  | null =>
    rw [sortKeys]
    exact encodable_null
  | bool value =>
    rw [sortKeys]
    exact encodable_bool value
  | int value =>
    rw [sortKeys, Encodable, text]
    exact scalar_points _
  | str h =>
    rw [sortKeys]
    exact (encodable_str _).mpr h
  | arr h ih =>
    rw [sortKeys_arr, encodable_arr, List.forall_mem_map]
    exact ih
  | obj hkeys h ih =>
    rw [sortKeys_obj, encodable_obj]
    simp only [List.mem_insertionSort, List.forall_mem_map]
    exact fun member hmember => ⟨hkeys member hmember, ih member hmember⟩

theorem Clean.encodes {t : PyJson} (h : t.Clean) : ∃ bytes, t.dumps.encode = .ok bytes :=
  PyText.encode_returns.mpr h.encodable_sortKeys

/-- The bytes of documents without numbers tell them apart, up to the order of keys. -/
theorem encode_dumps_eq_iff {a b : PyJson} (ha : a.Plain) (hb : b.Plain) {x y : String} (hx : a.dumps.encode = .ok x)
    (hy : b.dumps.encode = .ok y) : x = y ↔ a.sortKeys = b.sortKeys := by
  rw [← dumps_eq_iff ha hb]
  constructor
  · rintro rfl
    exact PyText.encode_injective hx hy
  · intro h
    rw [h, hy] at hx
    exact (Except.ok.inj hx).symm

end AutoTrader.Domain.PyJson
