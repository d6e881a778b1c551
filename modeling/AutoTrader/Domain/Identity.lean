import Mathlib.Tactic.NormNum.Basic

/-! Identifiers. A `UUID` is its 128-bit integer, as in the standard library, and the
client order ids of a venue are built from its 32 hexadecimal digits. -/

namespace AutoTrader.Domain

@[ext]
structure UUID where
  int : Nat
  lt : int < 16 ^ 32
  deriving DecidableEq

instance neZero_256 : NeZero 256 := ⟨by decide⟩

def hexDigit (d : Nat) : Char :=
  if d < 10 then Char.ofNat (48 + d) else Char.ofNat (87 + d)

/-- `n` in base sixteen with exactly `width` digits. -/
def hexDigits : (width n : Nat) → List Char
  | 0, _ => []
  | width + 1, n => hexDigits width (n / 16) ++ [hexDigit (n % 16)]

theorem hexDigit_injective {a b : Nat} (ha : a < 16) (hb : b < 16) (h : hexDigit a = hexDigit b) :
    a = b := by
  have key : ∀ i j : Fin 16, hexDigit i = hexDigit j → i = j := by decide +kernel
  exact congrArg Fin.val (key ⟨a, ha⟩ ⟨b, hb⟩ h)

theorem hexDigits_injective {width m n : Nat} (hm : m < 16 ^ width) (hn : n < 16 ^ width)
    (h : hexDigits width m = hexDigits width n) : m = n := by
  induction width generalizing m n with
  | zero => simp only [pow_zero, Nat.lt_one_iff] at hm hn; omega
  | succ width ih =>
    obtain ⟨hhigh, hlow⟩ := List.append_inj' h rfl
    have hquot : m / 16 = n / 16 := by
      refine ih ?_ ?_ hhigh <;> rw [pow_succ] at * <;> omega
    have hrem : m % 16 = n % 16 :=
      hexDigit_injective (by omega) (by omega) (by simpa using hlow)
    omega

@[simp] theorem hexDigits_length (width n : Nat) : (hexDigits width n).length = width := by
  induction width generalizing n with
  | zero => rfl
  | succ width ih => simp [hexDigits, ih]

theorem mem_hexDigits {width n : Nat} {c : Char} (h : c ∈ hexDigits width n) : ∃ d < 16, c = hexDigit d := by
  induction width generalizing n with
  | zero => cases h
  | succ width ih =>
    rcases List.mem_append.mp h with hhigh | hlow
    · exact ih hhigh
    · exact ⟨n % 16, Nat.mod_lt _ (by omega), List.mem_singleton.mp hlow⟩

namespace UUID

/-- `UUID.hex`. -/
def hex (id : UUID) : List Char := hexDigits 32 id.int

/-- `str(uuid)`. -/
def str (id : UUID) : List Char :=
  let digits := id.hex
  digits.take 8 ++ '-' :: (digits.drop 8).take 4 ++ '-' :: (digits.drop 12).take 4 ++
    '-' :: (digits.drop 16).take 4 ++ '-' :: digits.drop 20

/-- `UUID.version == 7`: the version nibble is seven under the RFC 4122 variant. -/
def isVersion7 (id : UUID) : Bool :=
  id.int / 2 ^ 76 % 16 = 7 && id.int / 2 ^ 62 % 4 = 2

theorem hex_injective {a b : UUID} (h : a.hex = b.hex) : a = b := by
  have hint : a.int = b.int := hexDigits_injective a.lt b.lt h
  exact UUID.ext hint

/-- Without its hyphens the text is the digits again. -/
theorem str_filter (id : UUID) : id.str.filter (· ≠ '-') = id.hex := by
  have hplain : ∀ c ∈ id.hex, c ≠ '-' := by
    intro c hc
    obtain ⟨d, hd, rfl⟩ := mem_hexDigits hc
    have key : ∀ i : Fin 16, hexDigit i ≠ '-' := by decide +kernel
    exact key ⟨d, hd⟩
  have hpart {part : List Char} (hsub : part.Sublist id.hex) : part.filter (· ≠ '-') = part :=
    List.filter_eq_self.mpr fun c hc => decide_eq_true (hplain c (hsub.subset hc))
  have hdrop (m n : Nat) : ((id.hex.drop m).take n).Sublist id.hex :=
    (List.take_sublist _ _).trans (List.drop_sublist _ _)
  have hsplit : id.hex = id.hex.take 8 ++ ((id.hex.drop 8).take 4 ++ ((id.hex.drop 12).take 4 ++
      ((id.hex.drop 16).take 4 ++ id.hex.drop 20))) := by
    have hstep (m n : Nat) : id.hex.drop m = (id.hex.drop m).take n ++ id.hex.drop (m + n) := by
      rw [← List.drop_drop, List.take_append_drop]
    conv_lhs => rw [← List.take_append_drop 8 id.hex, hstep 8 4, hstep 12 4, hstep 16 4]
  unfold str
  dsimp only
  simp only [List.filter_append, List.filter_cons, List.append_assoc, List.cons_append]
  rw [hpart (List.take_sublist _ _), hpart (hdrop 8 4), hpart (hdrop 12 4), hpart (hdrop 16 4), hpart (List.drop_sublist _ _)]
  simpa using hsplit.symm

theorem str_injective {a b : UUID} (h : a.str = b.str) : a = b :=
  hex_injective (by rw [← str_filter, h, str_filter])

end UUID

/-- A version 7 integer with the sample node `n`. -/
theorem sampleInt_lt (n : Fin 256) : 7 * 2 ^ 76 + 2 * 2 ^ 62 + (n : Nat) < 16 ^ 32 := by
  have := n.isLt
  omega

end AutoTrader.Domain
