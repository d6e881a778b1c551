import Mathlib.Algebra.Order.Field.Rat
import Mathlib.Algebra.Ring.Int.Parity
import Mathlib.Tactic.Ring

/-! Finite `decimal.Decimal` values with the exponent they carry, since their text is
part of the payloads that are hashed and sent. Numbers are compared by `toRat`. -/

namespace AutoTrader.Domain

structure Decimal where
  negative : Bool
  coefficient : Nat
  exponent : Int
  deriving DecidableEq

namespace Decimal

def toRat (d : Decimal) : ℚ :=
  (if d.negative then -1 else 1) * d.coefficient * 10 ^ d.exponent

def ofNat (n : Nat) : Decimal := ⟨false, n, 0⟩

/-- What a `NUMERIC(38,18)` column gives back: eighteen digits after the point, rounded away
from zero at half, and the largest value in place of a larger one. -/
def column (d : Decimal) : Decimal :=
  let scaled :=
    if -18 ≤ d.exponent then d.coefficient * 10 ^ (d.exponent + 18).toNat
    else (d.coefficient + 10 ^ (-18 - d.exponent).toNat / 2) / 10 ^ (-18 - d.exponent).toNat
  ⟨d.negative && decide (scaled ≠ 0), min scaled (10 ^ 38 - 1), -18⟩

/-- The sign, as it is written. -/
def sign (d : Decimal) : List Char := if d.negative then ['-'] else []

/-- The digits of the coefficient. -/
def digits (d : Decimal) : List Char := Nat.toDigits 10 d.coefficient

/-- The digits with the point after the first `dotplace` of them, zeros filled in on
either side. -/
def place (digits : List Char) (dotplace : Int) : List Char :=
  if dotplace ≤ 0 then '0' :: '.' :: List.replicate dotplace.natAbs '0' ++ digits
  else if digits.length ≤ dotplace then
    digits ++ List.replicate (dotplace - digits.length).natAbs '0'
  else digits.take dotplace.natAbs ++ '.' :: digits.drop dotplace.natAbs

/-- `str(d)`: plain for exponents that are not positive and not too small, scientific
otherwise. -/
def str (d : Decimal) : List Char :=
  let left : Int := d.exponent + d.digits.length
  if d.exponent ≤ 0 ∧ -6 < left then d.sign ++ place d.digits left
  else
    let e := left - 1
    d.sign ++ place d.digits 1 ++ 'E' :: (if e < 0 then '-' else '+') :: Nat.toDigits 10 e.natAbs

/-- `format(d, "f")`. A zero of a larger unit is written as one digit. -/
def formatF (d : Decimal) : List Char :=
  let left : Int := (if d.coefficient = 0 then min d.exponent 0 else d.exponent) + d.digits.length
  d.sign ++ place d.digits left

/-- The coefficient without its trailing zeros, and how many there were. -/
def stripZeros : (fuel n : Nat) → Nat × Nat
  | 0, n => (n, 0)
  | fuel + 1, n =>
    if n % 10 = 0 then
      let (m, k) := stripZeros fuel (n / 10)
      (m, k + 1)
    else (n, 0)

/-- Rounded to the 28 digits of the context, half to even. -/
def fix (d : Decimal) : Decimal :=
  let excess := d.digits.length - 28
  let quotient := d.coefficient / 10 ^ excess
  let twice := 2 * (d.coefficient % 10 ^ excess)
  let up := 10 ^ excess < twice || (decide (twice = 10 ^ excess) && decide (quotient % 2 = 1))
  ⟨d.negative, if up then quotient + 1 else quotient, d.exponent + excess⟩

/-- `d.normalize()`: rounded to the context, without trailing zeros. -/
def normalize (d : Decimal) : Decimal :=
  if d.coefficient = 0 then ⟨d.negative, 0, 0⟩
  else
    let rounded := d.fix
    let (coefficient, zeros) := stripZeros 29 rounded.coefficient
    ⟨d.negative, coefficient, rounded.exponent + zeros⟩

/-- An integral `Decimal` times another. -/
def mulInt (n : Int) (d : Decimal) : Decimal :=
  fix ⟨decide (n < 0) != d.negative, n.natAbs * d.coefficient, d.exponent⟩

/-- The coefficient of `d` in units of `10 ^ exponent`, with its sign, for an exponent that is not
larger than its own. -/
def scaledTo (exponent : Int) (d : Decimal) : Int :=
  (if d.negative then -1 else 1) * (d.coefficient * 10 ^ (d.exponent - exponent).toNat)

def neg (d : Decimal) : Decimal := { d with negative := !d.negative }

def add (a b : Decimal) : Decimal :=
  let exponent := min a.exponent b.exponent
  let total := a.scaledTo exponent + b.scaledTo exponent
  fix ⟨if total = 0 then a.negative && b.negative else decide (total < 0), total.natAbs, exponent⟩

def sub (a b : Decimal) : Decimal := a.add b.neg

def mul (a b : Decimal) : Decimal :=
  fix ⟨a.negative != b.negative, a.coefficient * b.coefficient, a.exponent + b.exponent⟩

/-- The builtin `min`: the first of the two unless the second is smaller. -/
def least (a b : Decimal) : Decimal := if b.toRat < a.toRat then b else a

/-- The builtin `max`. -/
def greatest (a b : Decimal) : Decimal := if a.toRat < b.toRat then b else a

/-- `"0" if value.is_zero() else format(value.normalize(), "f")`. -/
def plainText (d : Decimal) : List Char :=
  if d.coefficient = 0 then ['0'] else d.normalize.formatF

theorem fix_eq {d : Decimal} (h : d.coefficient < 10 ^ 28) : d.fix = d := by
  have hlength : d.digits.length - 28 = 0 :=
    Nat.sub_eq_zero_of_le ((Nat.length_toDigits_le_iff (by decide) (by decide)).mpr h)
  simp [fix, hlength, Nat.mod_one]

/-- A product with at most 28 digits is exact. -/
theorem toRat_mulInt {n : Int} {d : Decimal} (h : n.natAbs * d.coefficient < 10 ^ 28) :
    (mulInt n d).toRat = n * d.toRat := by
  rw [mulInt, fix_eq h]
  have habs : (n : ℚ) = (if n < 0 then -1 else 1) * (n.natAbs : ℚ) := by
    split
    · have hint : (n.natAbs : ℤ) = -n := by omega
      have hrat : ((n.natAbs : ℤ) : ℚ) = ((-n : ℤ) : ℚ) := congrArg Int.cast hint
      rw [Int.cast_natCast, Int.cast_neg] at hrat
      rw [hrat]
      ring
    · have hint : (n.natAbs : ℤ) = n := by omega
      have hrat : ((n.natAbs : ℤ) : ℚ) = (n : ℚ) := congrArg Int.cast hint
      rw [Int.cast_natCast] at hrat
      rw [hrat]
      ring
  rw [habs]
  unfold toRat
  push_cast
  by_cases hneg : n < 0
  · cases d.negative
    · simp [hneg]
      ring
    · simp [hneg]
      ring
  · cases d.negative
    · simp [hneg]
      ring
    · simp [hneg]
      ring

/-- `text.rstrip(c)`. -/
def rstrip (text : List Char) (c : Char) : List Char :=
  (text.reverse.dropWhile (· = c)).reverse

/-- `_decimal_text`: the fixed format without trailing zeros. -/
def decimalText (d : Decimal) : List Char :=
  let text := d.formatF
  let stripped := if '.' ∈ text then rstrip (rstrip text '0') '.' else text
  if stripped = [] ∨ stripped = ['-', '0'] then ['0'] else stripped

example : (Decimal.mk false 1500000000000000000 (-18)).decimalText = ['1', '.', '5'] := by decide
example : (add ⟨false, 15, -1⟩ ⟨true, 275, -2⟩) = ⟨true, 125, -2⟩ := by decide
example : (Decimal.mk false 1500 (-3)).normalize = ⟨false, 15, -1⟩ := by decide
example : (Decimal.mk true 12 (-9)).str = ['-', '1', '.', '2', 'E', '-', '8'] := by decide

end Decimal

end AutoTrader.Domain
