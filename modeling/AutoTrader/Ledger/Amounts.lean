import AutoTrader.Domain.Basic
import AutoTrader.Numeric.Rounding

/-! The numbers of the ledger. A `Decimal` operation rounds its result to the context, and
a `NUMERIC(38,18)` column rounds what it is given once more or refuses it. -/

namespace AutoTrader.Ledger

open AutoTrader.Domain AutoTrader.Numeric

/-- `fix`: the result of a `Decimal` operation, from the exact one. `store`: what a column
gives back. `clamp`: what it gives back of a value written under `IGNORE`. -/
structure Arithmetic where
  fix : ℚ → ℚ
  store : ℚ → Except PyError ℚ
  clamp : ℚ → ℚ
  fix_neg : ∀ x, fix x < 0 ↔ x < 0
  store_error : ∀ x e, store x = .error e → e.kind = .databaseError

/-- The eighteen digits after the point a column keeps, rounded away from zero at half. -/
def numericRound (x : ℚ) : ℚ :=
  let scaled : ℤ := ⌊|x| * 10 ^ 18 + 1 / 2⌋
  (if x < 0 then -scaled else scaled) / 10 ^ 18

/-- The largest value of a `NUMERIC(38,18)` column. -/
def numericLargest : ℚ := (10 ^ 38 - 1) / 10 ^ 18

/-- A `NUMERIC(38,18)` column under the strict mode of the server. -/
def numericColumn (x : ℚ) : Except PyError ℚ :=
  if numericLargest < |numericRound x| then .error ⟨.databaseError, "Out of range value for column"⟩
  else .ok (numericRound x)

namespace Arithmetic

/-- The default context of `decimal`, and the columns. -/
def decimal28 : Arithmetic where
  fix := roundSig 28
  store := numericColumn
  clamp x := max (-numericLargest) (min numericLargest (numericRound x))
  fix_neg := roundSig_neg (by norm_num)
  store_error x e h := by
    unfold numericColumn at h
    split at h
    · rw [← Except.error.inj h]
    · cases h

/-- No rounding anywhere. -/
def exact : Arithmetic where
  fix := id
  store := .ok
  clamp := id
  fix_neg _ := Iff.rfl
  store_error _ _ h := by cases h

end Arithmetic

/-- Numbers that neither an operation nor a column changes, and that stay so when a smaller
one is taken off. -/
structure Carries (arith : Arithmetic) (carried : ℚ → Prop) : Prop where
  fix : ∀ x, carried x → arith.fix x = x
  store : ∀ x, carried x → arith.store x = .ok x
  neg : ∀ x, carried x → carried (-x)
  sub : ∀ x y, carried x → carried y → 0 ≤ y → y ≤ x → carried (x - y)

theorem Carries.exact : Carries .exact (fun _ => True) where
  fix := fun _ _ => rfl
  store := fun _ _ => rfl
  neg := fun _ _ => trivial
  sub := fun _ _ _ _ _ _ => trivial

theorem numericRound_multiple (n : ℤ) : numericRound (n * 10 ^ (-18 : ℤ)) = n * 10 ^ (-18 : ℤ) := by
  have hten : (10 : ℚ) ^ (-18 : ℤ) = 1 / 10 ^ 18 := by norm_num
  have hscaled : ⌊|(n : ℚ) * 10 ^ (-18 : ℤ)| * 10 ^ 18 + 1 / 2⌋ = |n| := by
    have habs : |(n : ℚ) * 10 ^ (-18 : ℤ)| * 10 ^ 18 = (|n| : ℤ) := by
      rw [hten, abs_mul, abs_of_pos (by norm_num : (0 : ℚ) < 1 / 10 ^ 18)]
      push_cast
      ring
    rw [habs, Int.floor_intCast_add]
    norm_num
  unfold numericRound
  dsimp only
  rw [hscaled, hten]
  rcases lt_trichotomy n 0 with hn | hn | hn
  · have hx : (n : ℚ) * (1 / 10 ^ 18) < 0 := by
      have : (n : ℚ) < 0 := by exact_mod_cast hn
      linarith
    rw [if_pos hx, abs_of_neg hn]
    push_cast
    ring
  · simp [hn]
  · have hx : ¬(n : ℚ) * (1 / 10 ^ 18) < 0 := by
      have : (0 : ℚ) < n := by exact_mod_cast hn
      linarith
    rw [if_neg hx, abs_of_pos hn]
    ring

/-- Multiples of `10 ^ -18` with at most twenty-eight digits. -/
theorem Carries.decimal28 : Carries .decimal28 (OnGrid 28 (-18)) where
  fix := fun _ h => roundSig_of_onGrid h
  store := by
    rintro x ⟨n, rfl, hn⟩
    show numericColumn _ = _
    unfold numericColumn
    rw [numericRound_multiple, if_neg]
    rw [not_lt, abs_mul]
    have hcast : |(n : ℚ)| < 10 ^ 28 := by exact_mod_cast hn
    unfold numericLargest
    norm_num
    linarith
  neg := fun _ h => h.neg
  sub := by
    rintro x y ⟨m, rfl, hm⟩ ⟨n, rfl, hn⟩ hy hle
    have hpos : (0 : ℚ) < 10 ^ (-18 : ℤ) := by norm_num
    have hn0 : 0 ≤ n := by
      by_contra hneg
      have : (n : ℚ) < 0 := by exact_mod_cast not_le.mp hneg
      nlinarith
    have hnm : n ≤ m := by
      have := le_of_mul_le_mul_right hle hpos
      exact_mod_cast this
    refine ⟨m - n, by push_cast; ring, ?_⟩
    rw [abs_lt] at hm ⊢
    constructor <;> omega

end AutoTrader.Ledger
