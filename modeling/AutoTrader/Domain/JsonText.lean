import AutoTrader.Domain.DecimalText
import Mathlib.Tactic.IntervalCases

/-! JSON documents and their texts. Under sorted keys the text of a document tells documents apart: each value ends
where it ends, whatever follows. -/

namespace AutoTrader.Domain

/-! ### Characters of a string -/

/-- The value of a hexadecimal digit in lower case. -/
def hexNibble (c : Char) : ℕ := if c.toNat < 58 then c.toNat - 48 else c.toNat - 87

/-- Four hexadecimal digits. -/
def readHex : List Char → Option (ℕ × List Char)
  | a :: b :: c :: d :: rest => some (((hexNibble a * 16 + hexNibble b) * 16 + hexNibble c) * 16 + hexNibble d, rest)
  | _ => none

/-- An escaped UTF-16 unit. -/
def readUnicode : List Char → Option (ℕ × List Char)
  | x :: y :: rest => if x = backslash ∧ y = 'u' then readHex rest else none
  | _ => none

/-- The character behind a backslash and a letter. -/
def unescaped (c : Char) : Char :=
  if c = 'b' then Char.ofNat 8
  else if c = 't' then Char.ofNat 9
  else if c = 'n' then Char.ofNat 10
  else if c = 'f' then Char.ofNat 12
  else if c = 'r' then Char.ofNat 13
  else c

/-- The first character of a JSON string, and the rest of it. -/
def readEscape : List Char → Option (Char × List Char)
  | [] => none
  | c :: rest =>
    if c ≠ backslash then some (c, rest)
    else match rest with
      | [] => none
      | e :: tail =>
        if e = 'u' then
          match readHex tail with
          | none => none
          | some (n, tail) =>
            if 55296 ≤ n ∧ n < 56320 then
              (readUnicode tail).map fun (m, tail) => (Char.ofNat (65536 + (n - 55296) * 1024 + (m - 56320)), tail)
            else some (Char.ofNat n, tail)
        else some (unescaped e, tail)

theorem hexNibble_digit {d : ℕ} (h : d < 16) :
    hexNibble (if d < 10 then Char.ofNat (48 + d) else Char.ofNat (87 + d)) = d := by
  interval_cases d <;> decide

theorem readHex_unicodeEscape {n : ℕ} (h : n < 65536) (rest : List Char) :
    ∃ digits, unicodeEscape n = backslash :: 'u' :: digits ∧ readHex (digits ++ rest) = some (n, rest) := by
  refine ⟨_, rfl, ?_⟩
  simp only [List.map_cons, List.map_nil, List.cons_append, List.nil_append, readHex]
  rw [hexNibble_digit (by omega), hexNibble_digit (by omega), hexNibble_digit (by omega), hexNibble_digit (by omega)]
  congr 2
  omega

theorem readUnicode_unicodeEscape {n : ℕ} (h : n < 65536) (rest : List Char) :
    readUnicode (unicodeEscape n ++ rest) = some (n, rest) := by
  obtain ⟨digits, htext, hread⟩ := readHex_unicodeEscape h rest
  rw [htext, List.cons_append, List.cons_append, readUnicode, if_pos ⟨rfl, rfl⟩, hread]

theorem toNat_backslash : backslash.toNat = 92 := rfl

/-- An escaped character is read back. -/
theorem readEscape_jsonEscape (c : Char) (rest : List Char) : readEscape (jsonEscape c ++ rest) = some (c, rest) := by
  have hof {n : ℕ} (h : c.toNat = n) : Char.ofNat n = c := by rw [← h, Char.ofNat_toNat]
  unfold jsonEscape
  dsimp only
  split
  next hquoted =>
    have hplain : unescaped c = c := by
      rcases hquoted with h | h <;> (rw [← hof h]; decide)
    have hletter : c ≠ 'u' := by
      rintro rfl
      revert hquoted
      decide
    simp [readEscape, hletter, hplain]
  split
  next h => simpa [readEscape, unescaped] using hof h
  split
  next h => simpa [readEscape, unescaped] using hof h
  split
  next h => simpa [readEscape, unescaped] using hof h
  split
  next h => simpa [readEscape, unescaped] using hof h
  split
  next h => simpa [readEscape, unescaped] using hof h
  split
  next hquoted _ _ _ _ _ _ =>
    have hplain : c ≠ backslash := by
      rintro rfl
      exact hquoted (Or.inr rfl)
    simp [readEscape, hplain]
  split
  next hbmp =>
    obtain ⟨digits, htext, hread⟩ := readHex_unicodeEscape hbmp rest
    have hscalar : ¬(55296 ≤ c.toNat ∧ c.toNat < 56320) := by
      have := c.valid
      simp only [Char.toNat, UInt32.isValidChar, Nat.isValidChar] at this ⊢
      omega
    rw [htext, List.cons_append, List.cons_append, readEscape, if_neg (by simp)]
    dsimp only
    rw [if_pos rfl, hread]
    dsimp only
    rw [if_neg hscalar, Char.ofNat_toNat]
  next hbmp =>
    have hrange : c.toNat < 1114112 := by
      have := c.valid
      simp only [Char.toNat, UInt32.isValidChar, Nat.isValidChar] at this ⊢
      omega
    obtain ⟨digits, htext, hread⟩ := readHex_unicodeEscape (n := 55296 + (c.toNat - 65536) / 1024) (by omega)
      (unicodeEscape (56320 + (c.toNat - 65536) % 1024) ++ rest)
    rw [htext, List.append_assoc, List.cons_append, List.cons_append, readEscape, if_neg (by simp)]
    dsimp only
    rw [if_pos rfl, hread]
    dsimp only
    rw [if_pos (by omega), readUnicode_unicodeEscape (by omega)]
    have hvalue : 65536 + (55296 + (c.toNat - 65536) / 1024 - 55296) * 1024 + (56320 + (c.toNat - 65536) % 1024 - 56320) =
        c.toNat := by omega
    simp only [Option.map_some, hvalue, Char.ofNat_toNat]

/-- No escape starts with the closing quote. -/
theorem jsonEscape_ne_quote (c : Char) (rest tail : List Char) : jsonEscape c ++ rest ≠ quote :: tail := by
  intro h
  have hread := readEscape_jsonEscape c rest
  have hquote : readEscape (quote :: tail) = some (quote, tail) := by
    unfold readEscape
    dsimp only
    rw [if_pos (by decide)]
  rw [h, hquote] at hread
  obtain ⟨rfl, rfl⟩ := Prod.mk.inj (Option.some.inj hread)
  have hhead : some backslash = some quote := congrArg List.head? h
  revert hhead
  decide

/-- The characters of a string end at its closing quote. -/
theorem jsonEscapes_cancel {a b r r' : List Char}
    (h : a.flatMap jsonEscape ++ quote :: r = b.flatMap jsonEscape ++ quote :: r') : a = b ∧ r = r' := by
  induction a generalizing b with
  | nil =>
    cases b with
    | nil => exact ⟨rfl, (List.cons.inj h).2⟩
    | cons d b =>
      rw [List.flatMap_cons, List.append_assoc] at h
      exact absurd h.symm (jsonEscape_ne_quote d _ _)
  | cons c a ih =>
    cases b with
    | nil =>
      rw [List.flatMap_cons, List.append_assoc] at h
      exact absurd h (jsonEscape_ne_quote c _ _)
    | cons d b =>
      rw [List.flatMap_cons, List.flatMap_cons, List.append_assoc, List.append_assoc] at h
      have hread := readEscape_jsonEscape c (a.flatMap jsonEscape ++ quote :: r)
      rw [h, readEscape_jsonEscape] at hread
      obtain ⟨hchar, hrest⟩ := Prod.mk.inj (Option.some.inj hread)
      obtain ⟨htail, hafter⟩ := ih hrest.symm
      exact ⟨by rw [hchar, htail], hafter⟩

/-! ### Documents -/

/-- A JSON document whose numbers are integers. -/
inductive JsonTree
  | null
  | bool (value : Bool)
  | int (value : ℤ)
  | str (value : String)
  | arr (values : List JsonTree)
  | obj (members : List (String × JsonTree))

def openBrace : Char := Char.ofNat 123

def closeBrace : Char := Char.ofNat 125

namespace JsonTree

/-- Induction over a document, its values and the values of its members. -/
theorem induct {P : JsonTree → Prop} (null : P .null) (bool : ∀ value, P (.bool value)) (int : ∀ value, P (.int value))
    (str : ∀ value, P (.str value)) (arr : ∀ values, (∀ value ∈ values, P value) → P (.arr values))
    (obj : ∀ members, (∀ member ∈ members, P member.2) → P (.obj members)) (t : JsonTree) : P t :=
  @JsonTree.rec P (fun values => ∀ value ∈ values, P value) (fun members => ∀ member ∈ members, P member.2)
    (fun member => P member.2) null bool int str arr obj (List.forall_mem_nil _)
    (fun _ _ hvalue hvalues => List.forall_mem_cons.mpr ⟨hvalue, hvalues⟩) (List.forall_mem_nil _)
    (fun _ _ hmember hmembers => List.forall_mem_cons.mpr ⟨hmember, hmembers⟩) (fun _ _ hvalue => hvalue) t

mutual

/-- The text of a document. -/
def text : JsonTree → List Char
  | .null => ['n', 'u', 'l', 'l']
  | .bool true => ['t', 'r', 'u', 'e']
  | .bool false => ['f', 'a', 'l', 's', 'e']
  | .int n => (toString n).toList
  | .str s => (jsonString s).toList
  | .arr values => '[' :: (valuesText values ++ [']'])
  | .obj members => openBrace :: (membersText members ++ [closeBrace])

def valuesText : List JsonTree → List Char
  | [] => []
  | value :: values => value.text ++ moreText values

/-- The values after the first. -/
def moreText : List JsonTree → List Char
  | [] => []
  | value :: values => ',' :: (value.text ++ moreText values)

def memberText : String × JsonTree → List Char
  | (key, value) => (jsonString key).toList ++ ':' :: value.text

def membersText : List (String × JsonTree) → List Char
  | [] => []
  | member :: members => memberText member ++ moreMembers members

/-- The members after the first. -/
def moreMembers : List (String × JsonTree) → List Char
  | [] => []
  | member :: members => ',' :: (memberText member ++ moreMembers members)

end

/-- Items one after the other, with commas between them. -/
def joined {α : Type} (f : α → List Char) : List α → List Char
  | [] => []
  | x :: xs => f x ++ xs.flatMap (',' :: f ·)

theorem moreText_eq (values : List JsonTree) : moreText values = values.flatMap (',' :: text ·) := by
  induction values with
  | nil => rw [moreText, List.flatMap_nil]
  | cons value values ih => rw [moreText, ih, List.flatMap_cons, List.cons_append]

theorem moreMembers_eq (members : List (String × JsonTree)) :
    moreMembers members = members.flatMap (',' :: memberText ·) := by
  induction members with
  | nil => rw [moreMembers, List.flatMap_nil]
  | cons member members ih => rw [moreMembers, ih, List.flatMap_cons, List.cons_append]

theorem text_arr (values : List JsonTree) : text (.arr values) = '[' :: (joined text values ++ [']']) := by
  rw [text]
  cases values with
  | nil => rw [valuesText, joined]
  | cons value values => rw [valuesText, moreText_eq, joined]

theorem text_obj (members : List (String × JsonTree)) :
    text (.obj members) = openBrace :: (joined memberText members ++ [closeBrace]) := by
  rw [text]
  cases members with
  | nil => rw [membersText, joined]
  | cons member members => rw [membersText, moreMembers_eq, joined]

mutual

/-- With the members of every object in the order of their keys. -/
def sorted : JsonTree → JsonTree
  | .arr values => .arr (sortedValues values)
  | .obj members => .obj ((sortedMembers members).insertionSort fun a b => a.1 ≤ b.1)
  | .null => .null
  | .bool value => .bool value
  | .int value => .int value
  | .str value => .str value

def sortedValues : List JsonTree → List JsonTree
  | [] => []
  | value :: values => value.sorted :: sortedValues values

def sortedMember : String × JsonTree → String × JsonTree
  | (key, value) => (key, value.sorted)

def sortedMembers : List (String × JsonTree) → List (String × JsonTree)
  | [] => []
  | member :: members => sortedMember member :: sortedMembers members

end

/-- `json.dumps(tree, sort_keys=True, separators=(",", ":"))`. -/
def dumps (tree : JsonTree) : String := String.ofList tree.sorted.text

example : dumps (.obj [("b", .arr [.int 1, .bool true]), ("a", .null)]) =
    "\x7b\x22a\x22:null,\x22b\x22:[1,true]\x7d" := by decide +kernel

/-! ### Where a value ends -/

/-- The kind of a document. -/
def kind : JsonTree → ℕ
  | .null => 0
  | .bool true => 1
  | .bool false => 2
  | .int _ => 3
  | .str _ => 4
  | .arr _ => 5
  | .obj _ => 6

/-- The kind of the documents whose text starts with a character. -/
def kindOf (c : Char) : ℕ :=
  if c = 'n' then 0 else if c = 't' then 1 else if c = 'f' then 2 else if c = quote then 4 else if c = '[' then 5
  else if c = openBrace then 6 else if c.isDigit ∨ c = '-' then 3 else 7

theorem toList_toString_int (n : ℤ) : (toString n).toList = Decimal.signText (decide (n < 0)) ++ Nat.toDigits 10 n.natAbs := by
  rw [Int.toString_eq_repr, Int.repr_eq_if]
  by_cases hneg : n < 0
  · have habs : (-n).toNat = n.natAbs := by omega
    have hminus : "-".toList = ['-'] := rfl
    rw [if_neg (by omega), String.toList_append, hminus, Nat.toList_repr, habs, decide_eq_true hneg]
    rfl
  · have habs : n.toNat = n.natAbs := by omega
    rw [if_pos (by omega), Nat.toList_repr, habs, decide_eq_false hneg]
    rfl

theorem toList_jsonString (s : String) : (jsonString s).toList = quote :: (s.toList.flatMap jsonEscape ++ [quote]) := by
  rw [jsonString, String.toList_ofList, List.cons_append]

/-- A digit starts no other kind. -/
theorem kindOf_digit {c : Char} (h : c.isDigit = true) : kindOf c = 3 := by
  have hne {x : Char} (hx : x.isDigit = false) : c ≠ x := fun heq => by
    rw [heq, hx] at h
    cases h
  rw [kindOf, if_neg (hne (by decide)), if_neg (hne (by decide)), if_neg (hne (by decide)), if_neg (hne (by decide)),
    if_neg (hne (by decide)), if_neg (hne (by decide)), if_pos (Or.inl h)]

theorem text_head (t : JsonTree) : ∃ c rest, t.text = c :: rest ∧ kindOf c = t.kind := by
  cases t with
  | null => exact ⟨_, _, by rw [text], by decide⟩
  | bool value => cases value <;> exact ⟨_, _, by rw [text], by decide⟩
  | int n =>
    rw [text, toList_toString_int]
    by_cases hneg : n < 0
    · exact ⟨'-', _, by rw [decide_eq_true hneg]; rfl, (by decide : kindOf '-' = 3)⟩
    · obtain ⟨c, rest, hdigits⟩ := List.exists_cons_of_ne_nil (Nat.toDigits_ne_nil (n := n.natAbs) (b := 10))
      have hdigit : c.isDigit = true := allDigits_toDigits n.natAbs c (by rw [hdigits]; exact List.mem_cons_self)
      exact ⟨c, rest, by rw [decide_eq_false hneg, hdigits]; rfl, kindOf_digit hdigit⟩
  | str s => exact ⟨_, _, by rw [text, toList_jsonString], (by decide : kindOf quote = 4)⟩
  | arr values => exact ⟨_, _, by rw [text], (by decide : kindOf '[' = 5)⟩
  | obj members => exact ⟨_, _, by rw [text], (by decide : kindOf openBrace = 6)⟩

theorem kind_eq {a b : JsonTree} {r r' : List Char} (h : a.text ++ r = b.text ++ r') : a.kind = b.kind := by
  obtain ⟨c, rest, hc, hkind⟩ := a.text_head
  obtain ⟨d, rest', hd, hkind'⟩ := b.text_head
  rw [hc, hd] at h
  rw [← hkind, ← hkind', (List.cons.inj h).1]

theorem jsonString_cancel {s s' : String} {r r' : List Char}
    (h : (jsonString s).toList ++ r = (jsonString s').toList ++ r') : s = s' ∧ r = r' := by
  rw [toList_jsonString, toList_jsonString, List.cons_append, List.cons_append, List.append_assoc, List.append_assoc] at h
  obtain ⟨hchars, hrest⟩ := jsonEscapes_cancel (List.cons.inj h).2
  exact ⟨String.toList_inj.mp hchars, hrest⟩

theorem int_cancel {n m : ℤ} {r r' : List Char} (hr : NoDigitNext r) (hr' : NoDigitNext r')
    (h : (toString n).toList ++ r = (toString m).toList ++ r') : n = m ∧ r = r' := by
  have hunsigned (n : ℤ) (r : List Char) : ∀ c ∈ (Nat.toDigits 10 n.natAbs ++ r).head?, c ≠ '-' ∧ c ≠ '+' := by
    intro c hc
    obtain ⟨d, rest, hdigits⟩ := List.exists_cons_of_ne_nil (Nat.toDigits_ne_nil (n := n.natAbs) (b := 10))
    have hdigit := allDigits_toDigits n.natAbs
    rw [hdigits] at hc hdigit
    cases hc
    have hplain := plain_of_digit (hdigit c List.mem_cons_self)
    exact ⟨hplain.2.1, hplain.2.2.1⟩
  rw [toList_toString_int, toList_toString_int, List.append_assoc, List.append_assoc] at h
  have hsign := Decimal.readSign_signText (decide (n < 0)) (hunsigned n r)
  rw [h, Decimal.readSign_signText _ (hunsigned m r')] at hsign
  obtain ⟨hneg, hdigits⟩ := Prod.mk.inj hsign
  have hread := readDigits_append (allDigits_toDigits n.natAbs) hr
  rw [← hdigits, readDigits_append (allDigits_toDigits m.natAbs) hr'] at hread
  obtain ⟨hsame, hrest⟩ := Prod.mk.inj hread
  have habs : m.natAbs = n.natAbs := by
    rw [← digitsValue_toDigits m.natAbs, hsame, digitsValue_toDigits]
  have hiff : m < 0 ↔ n < 0 := decide_eq_decide.mp hneg
  exact ⟨by omega, hrest.symm⟩

theorem ne_close (t : JsonTree) {r r' : List Char} {c : Char} (hc : kindOf c = 7) : t.text ++ r ≠ c :: r' := by
  intro h
  obtain ⟨d, rest, htext, hkind⟩ := t.text_head
  rw [htext] at h
  rw [(List.cons.inj h).1, hc] at hkind
  cases t with
  | bool value => cases value <;> cases hkind
  | null | int | str | arr | obj => cases hkind

theorem memberText_ne_close (member : String × JsonTree) {r r' : List Char} :
    memberText member ++ r ≠ closeBrace :: r' := by
  intro h
  rw [memberText, toList_jsonString, List.append_assoc, List.cons_append] at h
  exact absurd (List.cons.inj h).1 (by decide)

/-- The text of an item can be told from what follows it. -/
def Ends {α : Type} (f : α → List Char) (a : α) : Prop :=
  ∀ b r r', NoDigitNext r → NoDigitNext r' → f a ++ r = f b ++ r' → a = b ∧ r = r'

section Joined

variable {α : Type} {f : α → List Char} {close : Char} {xs ys : List α} {r r' : List Char}

theorem noDigitNext_more (hclose : close.isDigit = false) (xs : List α) (r : List Char) :
    NoDigitNext (xs.flatMap (',' :: f ·) ++ close :: r) := by
  intro c hc
  cases xs with
  | nil =>
    cases hc
    exact hclose
  | cons x xs =>
    cases hc
    rfl

theorem more_ends (hclose : close.isDigit = false) (hcomma : close ≠ ',') (hends : ∀ x ∈ xs, Ends f x)
    (h : xs.flatMap (',' :: f ·) ++ close :: r = ys.flatMap (',' :: f ·) ++ close :: r') : xs = ys ∧ r = r' := by
  induction xs generalizing ys with
  | nil =>
    cases ys with
    | nil => exact ⟨rfl, (List.cons.inj h).2⟩
    | cons y ys => exact absurd (List.cons.inj h).1 hcomma
  | cons x xs ih =>
    cases ys with
    | nil => exact absurd (List.cons.inj h).1.symm hcomma
    | cons y ys =>
      rw [List.flatMap_cons, List.flatMap_cons, List.cons_append, List.cons_append, List.cons_append, List.cons_append,
        List.append_assoc, List.append_assoc] at h
      obtain ⟨hfirst, hothers⟩ := List.forall_mem_cons.mp hends
      obtain ⟨hvalue, hmore⟩ := hfirst y _ _ (noDigitNext_more hclose xs r) (noDigitNext_more hclose ys r')
        (List.cons.inj h).2
      obtain ⟨hvalues, hrest⟩ := ih hothers hmore
      exact ⟨by rw [hvalue, hvalues], hrest⟩

/-- Items between commas, up to a bracket that starts no item. -/
theorem joined_ends (hclose : close.isDigit = false) (hcomma : close ≠ ',') (hnone : ∀ x r r', f x ++ r ≠ close :: r')
    (hends : ∀ x ∈ xs, Ends f x) (h : joined f xs ++ close :: r = joined f ys ++ close :: r') : xs = ys ∧ r = r' := by
  cases xs with
  | nil =>
    cases ys with
    | nil => exact ⟨rfl, (List.cons.inj h).2⟩
    | cons y ys =>
      rw [joined, joined, List.nil_append, List.append_assoc] at h
      exact absurd h.symm (hnone y _ _)
  | cons x xs =>
    cases ys with
    | nil =>
      rw [joined, joined, List.nil_append, List.append_assoc] at h
      exact absurd h (hnone x _ _)
    | cons y ys =>
      rw [joined, joined, List.append_assoc, List.append_assoc] at h
      obtain ⟨hfirst, hothers⟩ := List.forall_mem_cons.mp hends
      obtain ⟨hvalue, hmore⟩ := hfirst y _ _ (noDigitNext_more hclose xs r) (noDigitNext_more hclose ys r') h
      obtain ⟨hvalues, hrest⟩ := more_ends hclose hcomma hothers hmore
      exact ⟨by rw [hvalue, hvalues], hrest⟩

end Joined

theorem member_ends {member : String × JsonTree} (hends : Ends text member.2) : Ends memberText member := by
  intro member' r r' hr hr' h
  obtain ⟨key, value⟩ := member
  obtain ⟨key', value'⟩ := member'
  rw [memberText, memberText, List.append_assoc, List.append_assoc] at h
  obtain ⟨hkey, hvalue⟩ := jsonString_cancel h
  obtain ⟨hsame, hrest⟩ := hends value' _ _ hr hr' (List.cons.inj hvalue).2
  exact ⟨Prod.ext hkey hsame, hrest⟩

/-- A value ends where it ends, whatever follows. -/
theorem ends (a : JsonTree) : Ends text a := by
  induction a using induct with
  | null =>
    intro b r r' hr hr' h
    have hkind := kind_eq h
    cases b with
    | null => exact ⟨rfl, List.append_cancel_left h⟩
    | bool value => cases value <;> cases hkind
    | int | str | arr | obj => cases hkind
  | bool value =>
    intro b r r' hr hr' h
    have hkind := kind_eq h
    cases value <;> cases b with
    | bool value' =>
      cases value'
      all_goals first | exact ⟨rfl, List.append_cancel_left h⟩ | cases hkind
    | null | int | str | arr | obj => cases hkind
  | int n =>
    intro b r r' hr hr' h
    have hkind := kind_eq h
    cases b with
    | int m =>
      rw [text, text] at h
      obtain ⟨hvalue, hrest⟩ := int_cancel hr hr' h
      exact ⟨congrArg int hvalue, hrest⟩
    | bool value => cases value <;> cases hkind
    | null | str | arr | obj => cases hkind
  | str s =>
    intro b r r' hr hr' h
    have hkind := kind_eq h
    cases b with
    | str s' =>
      rw [text, text] at h
      obtain ⟨hvalue, hrest⟩ := jsonString_cancel h
      exact ⟨congrArg str hvalue, hrest⟩
    | bool value => cases value <;> cases hkind
    | null | int | arr | obj => cases hkind
  | arr values ih =>
    intro b r r' hr hr' h
    have hkind := kind_eq h
    cases b with
    | arr values' =>
      rw [text_arr, text_arr, List.cons_append, List.cons_append, List.append_assoc, List.append_assoc] at h
      obtain ⟨hvalues, hrest⟩ := joined_ends (by decide) (by decide) (fun value _ _ => ne_close value (by decide)) ih
        (List.cons.inj h).2
      exact ⟨congrArg arr hvalues, hrest⟩
    | bool value => cases value <;> cases hkind
    | null | int | str | obj => cases hkind
  | obj members ih =>
    intro b r r' hr hr' h
    have hkind := kind_eq h
    cases b with
    | obj members' =>
      rw [text_obj, text_obj, List.cons_append, List.cons_append, List.append_assoc, List.append_assoc] at h
      obtain ⟨hmembers, hrest⟩ := joined_ends (by decide) (by decide) (fun member _ _ => memberText_ne_close member)
        (fun member hmember => member_ends (ih member hmember)) (List.cons.inj h).2
      exact ⟨congrArg obj hmembers, hrest⟩
    | bool value => cases value <;> cases hkind
    | null | int | str | arr => cases hkind

/-- The text of a document tells documents apart. -/
theorem text_injective {a b : JsonTree} (h : a.text = b.text) : a = b :=
  (a.ends b [] [] noDigitNext_nil noDigitNext_nil (by rw [h])).1

/-! ### Sorted keys -/

theorem sortedValues_eq (values : List JsonTree) : sortedValues values = values.map sorted := by
  induction values with
  | nil => rw [sortedValues, List.map_nil]
  | cons value values ih => rw [sortedValues, ih, List.map_cons]

theorem sortedMembers_eq (members : List (String × JsonTree)) :
    sortedMembers members = members.map fun member => (member.1, member.2.sorted) := by
  induction members with
  | nil => rw [sortedMembers, List.map_nil]
  | cons member members ih => rw [sortedMembers, ih, List.map_cons, sortedMember]

theorem sorted_arr (values : List JsonTree) : sorted (.arr values) = .arr (values.map sorted) := by
  rw [sorted, sortedValues_eq]

theorem sorted_obj (members : List (String × JsonTree)) : sorted (.obj members) =
    .obj ((members.map fun member => (member.1, member.2.sorted)).insertionSort fun a b => a.1 ≤ b.1) := by
  rw [sorted, sortedMembers_eq]

theorem dumps_eq_iff {a b : JsonTree} : a.dumps = b.dumps ↔ a.sorted = b.sorted := by
  refine ⟨fun h => text_injective (String.ofList_inj.mp h), fun h => by rw [dumps, dumps, h]⟩

/-- Lists of the same entries under the same distinct keys are the same. -/
theorem eq_of_perm_keys {κ β : Type} {xs ys : List (κ × β)} (hperm : xs.Perm ys) (hkeys : xs.map Prod.fst = ys.map Prod.fst)
    (hnodup : (xs.map Prod.fst).Nodup) : xs = ys := by
  induction xs generalizing ys with
  | nil => rw [hperm.nil_eq]
  | cons x xs ih =>
    cases ys with
    | nil => exact absurd hperm.symm.nil_eq (List.cons_ne_nil x xs).symm
    | cons y ys =>
      obtain ⟨hkey, hrest⟩ := List.cons.inj hkeys
      obtain ⟨hfresh, hnodup⟩ := List.nodup_cons.mp hnodup
      have hsame : x = y := by
        rcases List.mem_cons.mp (hperm.subset List.mem_cons_self) with heq | hlater
        · exact heq
        · exact absurd (List.mem_map.mpr ⟨x, hlater, rfl⟩) (hrest ▸ hfresh)
      rw [hsame, ih (hsame ▸ hperm).cons_inv hrest hnodup]

/-- Lists with the same distinct keys are the same in the order of their keys exactly when their values are. -/
theorem insertionSort_keys_eq_iff {κ β : Type} [LE κ] [DecidableLE κ] {xs ys : List (κ × β)}
    (hkeys : xs.map Prod.fst = ys.map Prod.fst) (hnodup : (xs.map Prod.fst).Nodup) :
    (xs.insertionSort fun a b => a.1 ≤ b.1) = ys.insertionSort (fun a b => a.1 ≤ b.1) ↔
      xs.map Prod.snd = ys.map Prod.snd := by
  refine ⟨fun h => ?_, fun h => ?_⟩
  · have hperm := (List.perm_insertionSort (fun a b : κ × β => a.1 ≤ b.1) xs).symm
    rw [h] at hperm
    rw [eq_of_perm_keys (hperm.trans (List.perm_insertionSort _ _)) hkeys hnodup]
  · rw [← List.zip_unzip xs, ← List.zip_unzip ys, List.unzip_fst, List.unzip_fst, List.unzip_snd, List.unzip_snd, hkeys, h]

/-- Objects with the same keys have the same text exactly when their values do. -/
theorem sorted_obj_eq_iff {members members' : List (String × JsonTree)}
    (hkeys : members.map Prod.fst = members'.map Prod.fst) (hnodup : (members.map Prod.fst).Nodup) :
    sorted (.obj members) = sorted (.obj members') ↔
      members.map (fun member => member.2.sorted) = members'.map fun member => member.2.sorted := by
  have hfirsts (members : List (String × JsonTree)) :
      (members.map fun member => (member.1, member.2.sorted)).map Prod.fst = members.map Prod.fst := by
    rw [List.map_map]
    rfl
  rw [sorted_obj, sorted_obj, obj.injEq,
    insertionSort_keys_eq_iff (by rw [hfirsts, hfirsts, hkeys]) (by rwa [hfirsts]), List.map_map, List.map_map]
  rfl

end JsonTree

/-! ### Flat objects -/

def JsonScalar.tree : JsonScalar → JsonTree
  | .null => .null
  | .int n => .int n
  | .str text => .str text

theorem JsonScalar.sorted_tree (value : JsonScalar) : value.tree.sorted = value.tree := by
  cases value <;> rw [tree, JsonTree.sorted]

theorem JsonScalar.tree_injective {a b : JsonScalar} (h : a.tree = b.tree) : a = b := by
  cases a <;> cases b <;> cases h <;> rfl

theorem JsonScalar.toList_dump (value : JsonScalar) : value.dump.toList = value.tree.text := by
  cases value <;> (rw [dump, tree, JsonTree.text]; try rfl)

theorem joined_intercalate {α : Type} (f : α → List Char) (xs : List α) :
    [','].intercalate (xs.map f) = JsonTree.joined f xs := by
  cases xs with
  | nil => rfl
  | cons x xs =>
    rw [JsonTree.joined]
    induction xs generalizing x with
    | nil => simp
    | cons y xs ih =>
      rw [List.map_cons, List.map_cons, List.intercalate_cons_cons, ← List.map_cons, ih, List.flatMap_cons, List.append_assoc,
        List.singleton_append, List.cons_append]

/-- A flat object is dumped as the document it is. -/
theorem canonicalJson_eq (payload : List (String × JsonScalar)) :
    canonicalJson payload = (JsonTree.obj (payload.map fun member => (member.1, member.2.tree))).dumps := by
  have hmembers : ((payload.map fun member => (member.1, member.2.tree)).map fun member => (member.1, member.2.sorted)) =
      payload.map fun member => (member.1, member.2.tree) := by
    simp [Function.comp_def, JsonScalar.sorted_tree]
  have hsort : (payload.insertionSort fun a b => a.1 ≤ b.1).map (fun member => (member.1, member.2.tree)) =
      (payload.map fun member => (member.1, member.2.tree)).insertionSort fun a b => a.1 ≤ b.1 :=
    List.map_insertionSort _ _ _ _ fun _ _ _ _ => Iff.rfl
  have htext : (",".intercalate ((payload.insertionSort fun a b => a.1 ≤ b.1).map fun member =>
      jsonString member.1 ++ ":" ++ member.2.dump)).toList =
      JsonTree.joined JsonTree.memberText
        ((payload.map fun member => (member.1, member.2.tree)).insertionSort fun a b => a.1 ≤ b.1) := by
    have hcomma : ",".toList = [','] := rfl
    rw [← hsort, ← joined_intercalate, String.toList_intercalate, hcomma, List.map_map, List.map_map]
    refine congrArg (List.intercalate [',']) (List.map_congr_left fun member _ => ?_)
    have hcolon : ":".toList = [':'] := rfl
    show (jsonString member.1 ++ ":" ++ member.2.dump).toList = JsonTree.memberText (member.1, member.2.tree)
    rw [String.toList_append, String.toList_append, hcolon, JsonScalar.toList_dump, JsonTree.memberText, List.append_assoc,
      List.singleton_append]
  rw [JsonTree.dumps, JsonTree.sorted_obj, hmembers, JsonTree.text_obj, ← htext]
  have hopen : "\x7b".toList = [openBrace] := rfl
  have hclose : "\x7d".toList = [closeBrace] := rfl
  unfold canonicalJson
  rw [← String.toList_inj, String.toList_ofList, String.toList_append, String.toList_append, hopen, hclose,
    List.singleton_append, List.cons_append]

/-- Flat objects with the same keys and the same text have the same values. -/
theorem canonicalJson_injective {payload payload' : List (String × JsonScalar)}
    (hkeys : payload.map Prod.fst = payload'.map Prod.fst) (hnodup : (payload.map Prod.fst).Nodup)
    (h : canonicalJson payload = canonicalJson payload') : payload.map Prod.snd = payload'.map Prod.snd := by
  have hfirsts (payload : List (String × JsonScalar)) :
      (payload.map fun member => (member.1, member.2.tree)).map Prod.fst = payload.map Prod.fst := by
    rw [List.map_map]
    rfl
  have htrees (payload : List (String × JsonScalar)) :
      ((payload.map fun member => (member.1, member.2.tree)).map fun member => member.2.sorted) =
        (payload.map Prod.snd).map JsonScalar.tree := by
    simp [Function.comp_def, JsonScalar.sorted_tree]
  rw [canonicalJson_eq, canonicalJson_eq, JsonTree.dumps_eq_iff,
    JsonTree.sorted_obj_eq_iff (by rw [hfirsts, hfirsts, hkeys]) (by rwa [hfirsts]), htrees, htrees] at h
  exact List.map_injective_iff.mpr (fun _ _ => JsonScalar.tree_injective) h

/-! ### Documents that tell values apart -/

namespace JsonTree

theorem sorted_str_iff {x y : String} : sorted (.str x) = sorted (.str y) ↔ x = y := by
  rw [sorted, sorted, str.injEq]

theorem sorted_int_iff {x y : ℤ} : sorted (.int x) = sorted (.int y) ↔ x = y := by
  rw [sorted, sorted, int.injEq]

theorem sorted_bool_iff {x y : Bool} : sorted (.bool x) = sorted (.bool y) ↔ x = y := by
  rw [sorted, sorted, bool.injEq]

/-- Lists of documents tell their values one by one. -/
theorem sorted_arr_iff {α : Type} {tree : α → JsonTree} {R : α → α → Prop} {xs ys : List α}
    (h : ∀ x ∈ xs, ∀ y ∈ ys, sorted (tree x) = sorted (tree y) ↔ R x y) :
    sorted (.arr (xs.map tree)) = sorted (.arr (ys.map tree)) ↔ List.Forall₂ R xs ys := by
  rw [sorted_arr, sorted_arr, arr.injEq, List.map_map, List.map_map]
  induction xs generalizing ys with
  | nil =>
    cases ys with
    | nil => exact ⟨fun _ => .nil, fun _ => rfl⟩
    | cons y ys => exact ⟨nofun, nofun⟩
  | cons x xs ih =>
    cases ys with
    | nil => exact ⟨nofun, nofun⟩
    | cons y ys =>
      rw [List.map_cons, List.map_cons, List.cons.injEq, List.forall₂_cons,
        ih fun x hx y hy => h x (List.mem_cons_of_mem _ hx) y (List.mem_cons_of_mem _ hy),
        ← h x List.mem_cons_self y List.mem_cons_self]
      rfl

end JsonTree

end AutoTrader.Domain
