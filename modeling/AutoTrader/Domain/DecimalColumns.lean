import AutoTrader.Domain.Decimal
import Mathlib.Tactic.Linarith
import Mathlib.Tactic.Positivity

/-! Signs of decimals, and what a column keeps of a number it has kept before. -/

namespace AutoTrader.Domain.Decimal

theorem toRat_of_coefficient {d : Decimal} (h : d.coefficient = 0) : d.toRat = 0 := by
  simp [toRat, h]

theorem toRat_nonneg {d : Decimal} : 0 ≤ d.toRat ↔ d.negative = false ∨ d.coefficient = 0 := by
  have hpow : (0 : ℚ) < 10 ^ d.exponent := zpow_pos (by norm_num) _
  constructor
  · intro h
    by_contra hneither
    obtain ⟨hnegative, hcoefficient⟩ := not_or.mp hneither
    have hpos : (0 : ℚ) < d.coefficient := Nat.cast_pos.mpr (Nat.pos_of_ne_zero hcoefficient)
    have hvalue : d.toRat = -(d.coefficient * 10 ^ d.exponent) := by
      simp only [toRat, Bool.not_eq_false] at hnegative ⊢
      rw [if_pos hnegative]
      ring
    have := mul_pos hpos hpow
    linarith
  · rintro (hnegative | hcoefficient)
    · unfold toRat
      rw [hnegative, if_neg Bool.false_ne_true]
      positivity
    · exact (toRat_of_coefficient hcoefficient).ge

@[simp] theorem fix_negative (d : Decimal) : d.fix.negative = d.negative := rfl

theorem fix_of_coefficient {d : Decimal} (h : d.coefficient = 0) : d.fix = d :=
  fix_eq (by omega)

theorem toRat_mul_nonneg {a b : Decimal} (ha : 0 ≤ a.toRat) (hb : 0 ≤ b.toRat) : 0 ≤ (a.mul b).toRat := by
  rw [toRat_nonneg] at ha hb ⊢
  unfold mul
  rw [fix_negative]
  rcases ha with ha | ha
  · rcases hb with hb | hb
    · exact .inl (by rw [ha, hb]; rfl)
    · exact .inr (by rw [fix_of_coefficient (by rw [hb]; rfl), hb]; rfl)
  · have hzero : a.coefficient * b.coefficient = 0 := by rw [ha, Nat.zero_mul]
    exact .inr (by rw [fix_of_coefficient hzero]; exact hzero)

theorem toRat_column_nonneg {d : Decimal} (h : 0 ≤ d.toRat) : 0 ≤ d.column.toRat := by
  rw [toRat_nonneg] at h ⊢
  rcases h with h | h
  · exact .inl (by simp [column, h])
  · refine .inr ?_
    unfold column
    dsimp only
    rw [h, Nat.zero_mul, Nat.zero_add]
    split
    · rfl
    · have hpos : 0 < 10 ^ (-18 - d.exponent).toNat := Nat.pos_of_ne_zero (by positivity)
      rw [Nat.div_eq_of_lt (Nat.div_lt_self hpos (by omega))]
      rfl

/-- A column keeps what it gave back. -/
theorem column_column (d : Decimal) : d.column.column = d.column := by
  unfold column
  simp

/-- The magnitude is the coefficient in units of the exponent. -/
theorem abs_toRat (d : Decimal) : |d.toRat| = d.coefficient * 10 ^ d.exponent := by
  have hmagnitude : (0 : ℚ) ≤ (d.coefficient : ℚ) * 10 ^ d.exponent :=
    mul_nonneg (Nat.cast_nonneg _) (zpow_pos (by norm_num) _).le
  unfold toRat
  rw [mul_assoc]
  cases d.negative
  · rw [if_neg Bool.false_ne_true, one_mul, abs_of_nonneg hmagnitude]
  · rw [if_pos rfl, neg_one_mul, abs_neg, abs_of_nonneg hmagnitude]

theorem abs_toRat_column_lt (d : Decimal) : |d.column.toRat| < 10 ^ 20 - 1 / (2 * 10 ^ 18) := by
  have hle : d.column.coefficient + 1 ≤ 10 ^ 38 := Nat.succ_le_of_lt (lt_of_le_of_lt (Nat.min_le_right _ _) (by norm_num))
  have hcast : (d.column.coefficient : ℚ) + 1 ≤ 10 ^ 38 := by exact_mod_cast hle
  have hexponent : d.column.exponent = -18 := rfl
  rw [abs_toRat, hexponent]
  norm_num
  linarith

/-- A number taken from itself leaves nothing. -/
theorem sub_self_coefficient (a : Decimal) : (a.sub a).coefficient = 0 := by
  have htotal : a.scaledTo (min a.exponent a.neg.exponent) + a.neg.scaledTo (min a.exponent a.neg.exponent) = 0 := by
    unfold scaledTo neg
    cases a.negative <;> simp
  unfold sub add
  dsimp only
  rw [htotal]
  exact congrArg coefficient (fix_of_coefficient rfl)

theorem toRat_sub_self (a : Decimal) : (a.sub a).toRat = 0 :=
  toRat_of_coefficient (sub_self_coefficient a)

theorem toRat_column_of_zero {d : Decimal} (h : d.coefficient = 0) : d.column.toRat = 0 := by
  apply toRat_of_coefficient
  unfold column
  dsimp only
  rw [h, Nat.zero_mul, Nat.zero_add]
  split
  · rfl
  · have hpos : 0 < 10 ^ (-18 - d.exponent).toNat := Nat.pos_of_ne_zero (by positivity)
    rw [Nat.div_eq_of_lt (Nat.div_lt_self hpos (by omega))]
    rfl

end AutoTrader.Domain.Decimal
