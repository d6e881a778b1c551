import AutoTrader.Domain.Basic
import Mathlib.Algebra.GroupWithZero.Nat
import Mathlib.Data.List.Basic

/-! Python texts. A `str` is a list of code points, and surrogates may be among them: those have no UTF-8 form, so
encoding a text that holds one raises. -/

namespace AutoTrader.Domain

abbrev CodePoint := Fin 1114112

instance codePoint_neZero : NeZero (1114112 : ℕ) := ⟨by decide⟩

instance codePoint_lawful : LawfulBEq CodePoint := inferInstance

abbrev PyText := List CodePoint

instance pyText_lawful : LawfulBEq PyText := inferInstance

/-- The code point of a character. -/
def point (c : Char) : CodePoint := Fin.ofNat 1114112 c.toNat

theorem point_val (c : Char) : (point c).val = c.toNat := by
  have hvalid := c.valid
  have hrange : c.toNat < 1114112 := by
    simp only [Char.toNat, UInt32.isValidChar, Nat.isValidChar] at hvalid ⊢
    omega
  exact Nat.mod_eq_of_lt hrange

namespace CodePoint

/-- A code point that is one half of a UTF-16 pair. -/
def isSurrogate (c : CodePoint) : Bool := decide (55296 ≤ c.val) && decide (c.val ≤ 57343)

/-- `str.isspace` of one character. -/
def isSpace (c : CodePoint) : Bool := Domain.isSpace (Char.ofNat c.val)

/-- The character of a code point. -/
def char (c : CodePoint) : Char := Char.ofNat c.val

theorem char_injective {a b : CodePoint} (ha : a.isSurrogate = false) (hb : b.isSurrogate = false)
    (h : a.char = b.char) : a = b := by
  have hscalar {c : CodePoint} (hc : c.isSurrogate = false) : c.char.toNat = c.val := by
    have hvalid : Nat.isValidChar c.val := by
      have hlt := c.isLt
      simp only [isSurrogate, Bool.and_eq_false_iff, decide_eq_false_iff_not] at hc
      simp only [Nat.isValidChar]
      omega
    unfold char Char.ofNat
    rw [dif_pos hvalid]
    rfl
  rw [Fin.ext_iff, ← hscalar ha, ← hscalar hb, h]

/-- A character is the one its code point stands for. -/
theorem char_point (c : Char) : (point c).char = c := by
  rw [char, point_val, Char.ofNat_toNat]

end CodePoint

namespace PyText

/-- A text literal. -/
def points (s : String) : PyText := s.toList.map point

/-- `value.encode("utf-8")`; the bytes are told by the string they spell. -/
def encode (text : PyText) : Except PyError String :=
  if text.any CodePoint.isSurrogate then .error ⟨.valueError, "surrogates not allowed"⟩
  else .ok (String.ofList (text.map CodePoint.char))

/-- `value.strip()`. -/
def strip (text : PyText) : PyText :=
  ((text.dropWhile CodePoint.isSpace).reverse.dropWhile CodePoint.isSpace).reverse

theorem points_injective : Function.Injective points := by
  intro s t h
  have hchars (s : String) : (points s).map CodePoint.char = s.toList := by
    rw [points, List.map_map]
    exact List.map_id'' CodePoint.char_point s.toList
  exact String.toList_inj.mp (by rw [← hchars, h, hchars])

variable {a b : PyText}

/-- A text is encoded exactly where it holds no surrogate. -/
theorem encode_returns {text : PyText} :
    (∃ bytes, text.encode = .ok bytes) ↔ ∀ c ∈ text, CodePoint.isSurrogate c = false := by
  unfold encode
  split
  next h =>
    obtain ⟨c, hc, hsurrogate⟩ := List.any_eq_true.mp h
    refine ⟨fun ⟨_, herror⟩ => (nomatch herror), fun hall => ?_⟩
    rw [hall c hc] at hsurrogate
    cases hsurrogate
  next h =>
    refine ⟨fun _ c hc => ?_, fun _ => ⟨_, rfl⟩⟩
    by_contra hsurrogate
    exact h (List.any_eq_true.mpr ⟨c, hc, by simpa using hsurrogate⟩)

/-- The bytes of a text tell texts apart. -/
theorem encode_injective {bytes : String} (ha : a.encode = .ok bytes) (hb : b.encode = .ok bytes) : a = b := by
  have hplain := encode_returns.mp ⟨_, ha⟩
  have hplain' := encode_returns.mp ⟨_, hb⟩
  unfold encode at ha hb
  split at ha
  · cases ha
  split at hb
  · cases hb
  cases ha
  have hchars := String.ofList_inj.mp (Except.ok.inj hb)
  refine List.ext_getElem (by simpa using (congrArg List.length hchars).symm) fun i hi hi' => ?_
  refine CodePoint.char_injective (hplain _ (List.getElem_mem hi)) (hplain' _ (List.getElem_mem hi')) ?_
  have hsame := congrArg (·[i]?) hchars
  simp only [List.getElem?_map, List.getElem?_eq_getElem hi, List.getElem?_eq_getElem hi', Option.map_some,
    Option.some.injEq] at hsame
  exact hsame.symm

end PyText

end AutoTrader.Domain
