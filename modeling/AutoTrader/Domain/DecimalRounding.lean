import AutoTrader.Domain.DecimalColumns
import AutoTrader.Domain.DecimalText
import AutoTrader.Numeric.Rounding

/-! Decimal arithmetic as rational arithmetic. Every operation is the exact one, rounded to the 28 digits of the
context, and the texts a decimal is hashed by name the number alone. -/

namespace AutoTrader.Domain.Decimal

open AutoTrader.Numeric

theorem lt_pow_length {n : ℕ} : n < 10 ^ (Nat.toDigits 10 n).length :=
  (Nat.length_toDigits_le_iff (by decide) (List.length_pos_iff.mpr Nat.toDigits_ne_nil)).mp le_rfl

theorem pow_length_le {n : ℕ} (h : 10 ≤ n) : 10 ^ ((Nat.toDigits 10 n).length - 1) ≤ n := by
  have hlong : 1 < (Nat.toDigits 10 n).length := by
    by_contra hshort
    have := (Nat.length_toDigits_le_iff (b := 10) (by decide) one_pos).mp (not_lt.mp hshort)
    omega
  by_contra hsmall
  have := (Nat.length_toDigits_le_iff (b := 10) (by decide) (by omega)).mpr (not_le.mp hsmall)
  omega

/-- A number of more than 28 digits is rounded at its 28th. -/
theorem roundSig_long {c : ℕ} (hlong : 10 ^ 28 ≤ c) (e : ℤ) :
    roundSig 28 (c * 10 ^ e) =
      roundHalfEven ((c : ℚ) / (10 ^ ((Nat.toDigits 10 c).length - 28) : ℕ)) *
        10 ^ (e + ((Nat.toDigits 10 c).length - 28 : ℕ)) := by
  set excess := (Nat.toDigits 10 c).length - 28 with hexcess
  have hlow := pow_length_le (n := c) (by omega)
  have hhigh := lt_pow_length (n := c)
  have hdigits : 28 < (Nat.toDigits 10 c).length := by
    by_contra hshort
    have := (Nat.length_toDigits_le_iff (b := 10) (by decide) (by decide)).mp (not_lt.mp hshort)
    omega
  have hpos : (0 : ℚ) < c * 10 ^ e := mul_pos (by exact_mod_cast (by omega : 0 < c)) (zpow_pos (by norm_num) e)
  have hlog : Int.log 10 |(c : ℚ) * 10 ^ e| = e + excess + 27 := by
    rw [abs_of_pos hpos]
    refine le_antisymm (Int.lt_add_one_iff.mp ?_) ?_
    · rw [← Int.lt_zpow_iff_log_lt (by norm_num) hpos, Nat.cast_ofNat,
        show e + excess + 27 + 1 = ((Nat.toDigits 10 c).length : ℤ) + e by omega, zpow_add₀ (by norm_num), zpow_natCast]
      exact mul_lt_mul_of_pos_right (by exact_mod_cast hhigh) (zpow_pos (by norm_num) e)
    · rw [← Int.zpow_le_iff_le_log (by norm_num) hpos, Nat.cast_ofNat,
        show e + excess + 27 = ((Nat.toDigits 10 c).length - 1 : ℕ) + e by omega, zpow_add₀ (by norm_num), zpow_natCast]
      exact mul_le_mul_of_nonneg_right (by exact_mod_cast hlow) (zpow_pos (by norm_num) e).le
  have hunit : unit 28 (c * 10 ^ e) = 10 ^ (e + excess) := by
    rw [unit, hlog]
    congr 1
    push_cast
    omega
  rw [roundSig, if_neg hpos.ne', hunit]
  congr 2
  rw [zpow_add₀ (by norm_num), zpow_natCast, mul_div_mul_comm, mul_comm]
  push_cast
  have hten : (10 : ℚ) ^ e ≠ 0 := (zpow_pos (by norm_num) e).ne'
  field_simp

theorem onGrid_toRat {d : Decimal} (h : d.coefficient < 10 ^ 28) : OnGrid 28 d.exponent d.toRat := by
  refine ⟨(if d.negative then -1 else 1) * d.coefficient, by unfold toRat; split <;> push_cast <;> ring, ?_⟩
  rw [abs_mul]
  split <;> simpa using mod_cast h

theorem toRat_fix (d : Decimal) : d.fix.toRat = roundSig 28 d.toRat := by
  by_cases hshort : d.coefficient < 10 ^ 28
  · rw [fix_eq hshort, roundSig_of_onGrid (onGrid_toRat hshort)]
  have hlong := not_lt.mp hshort
  have hmagnitude : roundSig 28 (d.coefficient * 10 ^ d.exponent) = d.fix.coefficient * 10 ^ d.fix.exponent := by
    rw [roundSig_long hlong, roundHalfEven_div _ (pow_pos (by decide) _)]
    congr 1
    unfold fix digits
    simp only [Bool.or_eq_true, Bool.and_eq_true, decide_eq_true_eq]
    split_ifs <;> push_cast <;> rfl
  have hsign : d.fix.negative = d.negative := rfl
  unfold toRat
  rw [hsign, mul_assoc, mul_assoc, ← hmagnitude]
  split
  · rw [neg_one_mul, neg_one_mul, roundSig_neg_eq]
  · rw [one_mul, one_mul]

/-! ### Arithmetic -/

theorem toRat_scaledTo {exponent : ℤ} {d : Decimal} (h : exponent ≤ d.exponent) :
    (d.scaledTo exponent : ℚ) * 10 ^ exponent = d.toRat := by
  unfold scaledTo toRat
  have hsplit : d.exponent = (d.exponent - exponent).toNat + exponent := by omega
  conv_rhs => rw [hsplit, zpow_add₀ (by norm_num), zpow_natCast]
  push_cast
  ring

@[simp] theorem toRat_neg (d : Decimal) : d.neg.toRat = -d.toRat := by
  unfold neg toRat
  cases d.negative <;> simp

theorem toRat_ofInt (negative : Bool) {n : ℤ} (exponent : ℤ) :
    toRat ⟨if n = 0 then negative else decide (n < 0), n.natAbs, exponent⟩ = n * 10 ^ exponent := by
  by_cases hzero : n = 0
  · simp [toRat, hzero]
  · have habs : ((n.natAbs : ℤ) : ℚ) = |(n : ℚ)| := by
      rw [Int.natCast_natAbs, Int.cast_abs]
    rw [Int.cast_natCast] at habs
    rcases lt_or_ge n 0 with hneg | hnonneg
    · have hcast : (n : ℚ) < 0 := by exact_mod_cast hneg
      simp [toRat, hzero, hneg, habs, abs_of_neg hcast]
    · have hcast : (0 : ℚ) ≤ n := by exact_mod_cast hnonneg
      simp [toRat, hzero, not_lt.mpr hnonneg, habs, abs_of_nonneg hcast]

theorem toRat_add (a b : Decimal) : (a.add b).toRat = roundSig 28 (a.toRat + b.toRat) := by
  unfold add
  dsimp only
  rw [toRat_fix, toRat_ofInt, Int.cast_add, add_mul, toRat_scaledTo (min_le_left _ _),
    toRat_scaledTo (min_le_right _ _)]

theorem toRat_sub (a b : Decimal) : (a.sub b).toRat = roundSig 28 (a.toRat - b.toRat) := by
  rw [sub, toRat_add, toRat_neg, sub_eq_add_neg]

theorem toRat_mul (a b : Decimal) : (a.mul b).toRat = roundSig 28 (a.toRat * b.toRat) := by
  rw [mul, toRat_fix]
  congr 1
  simp only [toRat, zpow_add₀ (show (10 : ℚ) ≠ 0 by norm_num)]
  push_cast
  cases a.negative <;> cases b.negative <;> simp <;> ring

/-! ### Normal forms -/

theorem toRat_eq_zero {d : Decimal} : d.toRat = 0 ↔ d.coefficient = 0 := by
  rw [← abs_eq_zero, abs_toRat, mul_eq_zero, Nat.cast_eq_zero, or_iff_left (zpow_pos (by norm_num) _).ne']

/-- A number has one coefficient that does not end in a zero. -/
theorem normal_unique {a b : Decimal} (ha : a.coefficient % 10 ≠ 0) (hb : b.coefficient % 10 ≠ 0)
    (h : a.toRat = b.toRat) : a = b := by
  have hmagnitude : (a.coefficient : ℚ) * 10 ^ a.exponent = b.coefficient * 10 ^ b.exponent := by
    rw [← abs_toRat, ← abs_toRat, h]
  have hnotLess {c d : Decimal} (hc : c.coefficient % 10 ≠ 0)
      (heq : (c.coefficient : ℚ) * 10 ^ c.exponent = d.coefficient * 10 ^ d.exponent) : ¬c.exponent < d.exponent := by
    intro hless
    obtain ⟨k, hk⟩ : ∃ k : ℕ, d.exponent = (k + 1 : ℕ) + c.exponent := ⟨(d.exponent - c.exponent - 1).toNat, by omega⟩
    rw [hk, zpow_add₀ (by norm_num), zpow_natCast, ← mul_assoc,
      mul_left_inj' (zpow_pos (by norm_num) _).ne'] at heq
    have hten : c.coefficient = d.coefficient * 10 ^ (k + 1) := by exact_mod_cast heq
    rw [hten, pow_succ, ← mul_assoc] at hc
    omega
  have hexponent : a.exponent = b.exponent :=
    le_antisymm (not_lt.mp (hnotLess hb hmagnitude.symm)) (not_lt.mp (hnotLess ha hmagnitude))
  have hcoefficient : a.coefficient = b.coefficient := by
    rw [hexponent, mul_left_inj' (zpow_pos (by norm_num) _).ne'] at hmagnitude
    exact_mod_cast hmagnitude
  obtain ⟨sa, ca, ea⟩ := a
  obtain ⟨sb, cb, eb⟩ := b
  dsimp only at *
  subst hexponent hcoefficient
  congr 1
  have hpos : (0 : ℚ) < ca * 10 ^ ea :=
    mul_pos (by exact_mod_cast (by omega : 0 < ca)) (zpow_pos (by norm_num) ea)
  simp only [toRat, mul_assoc] at h
  cases sa <;> cases sb <;> simp at h ⊢ <;> linarith

theorem stripZeros_normal {fuel n : ℕ} (hpos : 0 < n) (hfuel : n < 10 ^ fuel) : (stripZeros fuel n).1 % 10 ≠ 0 := by
  induction fuel generalizing n with
  | zero => omega
  | succ fuel ih =>
    unfold stripZeros
    split
    next hten =>
      rw [pow_succ] at hfuel
      exact ih (by omega) (by omega)
    next hten => exact hten

theorem toRat_stripZeros (negative : Bool) (fuel n : ℕ) (exponent : ℤ) :
    toRat ⟨negative, (stripZeros fuel n).1, exponent + (stripZeros fuel n).2⟩ = toRat ⟨negative, n, exponent⟩ := by
  have hvalue := stripZeros_value fuel n
  unfold toRat
  dsimp only
  rw [zpow_add₀ (by norm_num), zpow_natCast]
  conv_rhs => rw [← hvalue]
  push_cast
  ring

theorem fix_coefficient_le (d : Decimal) : d.fix.coefficient ≤ 10 ^ 28 := by
  have hquotient : d.coefficient / 10 ^ (d.digits.length - 28) < 10 ^ 28 := by
    rw [Nat.div_lt_iff_lt_mul (pow_pos (by decide) _), ← pow_add]
    exact lt_of_lt_of_le lt_pow_length (Nat.pow_le_pow_right (by decide) (by unfold digits; omega))
  unfold fix
  dsimp only
  split <;> omega

theorem roundSig_eq_zero {x : ℚ} : roundSig 28 x = 0 ↔ x = 0 := by
  refine ⟨fun h => ?_, fun h => by rw [h, roundSig_zero]⟩
  rcases lt_trichotomy x 0 with hneg | hzero | hpos
  · exact absurd h ((roundSig_neg (by decide) x).mpr hneg).ne
  · exact hzero
  · exact absurd h (roundSig_pos (by decide) hpos).ne'

/-- A normalized number is the number rounded to the context, in normal form. -/
theorem toRat_normalize (d : Decimal) : d.normalize.toRat = roundSig 28 d.toRat := by
  unfold normalize
  split
  next hzero => rw [toRat_of_coefficient hzero, roundSig_zero, toRat_of_coefficient rfl]
  next => rw [← toRat_fix]; exact toRat_stripZeros d.negative 29 d.fix.coefficient d.fix.exponent

theorem normalize_normal {d : Decimal} (h : d.coefficient ≠ 0) : d.normalize.coefficient % 10 ≠ 0 := by
  have hpos : 0 < d.fix.coefficient := by
    refine Nat.pos_of_ne_zero fun hzero => h ?_
    rwa [← toRat_eq_zero, toRat_fix, roundSig_eq_zero, toRat_eq_zero] at hzero
  unfold normalize
  rw [if_neg h]
  exact stripZeros_normal hpos (lt_of_le_of_lt d.fix_coefficient_le (by decide))

theorem textValue_plainText (d : Decimal) : textValue d.plainText = some (roundSig 28 d.toRat) := by
  unfold plainText
  split
  next hzero =>
    rw [toRat_of_coefficient hzero, roundSig_zero]
    decide +kernel
  next => rw [textValue_formatF, toRat_normalize]

/-- The plain text of a decimal names its number, rounded to the context. -/
theorem plainText_eq_iff {a b : Decimal} : a.plainText = b.plainText ↔ roundSig 28 a.toRat = roundSig 28 b.toRat := by
  refine ⟨fun h => ?_, fun h => ?_⟩
  · have hvalues := textValue_plainText a
    rw [h, textValue_plainText] at hvalues
    exact (Option.some.inj hvalues).symm
  · have hzero : a.coefficient = 0 ↔ b.coefficient = 0 := by
      rw [← toRat_eq_zero, ← toRat_eq_zero, ← roundSig_eq_zero, h, roundSig_eq_zero]
    unfold plainText
    by_cases ha : a.coefficient = 0
    · rw [if_pos ha, if_pos (hzero.mp ha)]
    · have hb : b.coefficient ≠ 0 := fun hb => ha (hzero.mpr hb)
      rw [if_neg ha, if_neg hb]
      rw [normal_unique (normalize_normal ha) (normalize_normal hb) (by rw [toRat_normalize, toRat_normalize, h])]

/-! ### The text without trailing zeros -/

theorem stripPoint_zero {text : List Char} (h : '.' ∈ text) : stripPoint (text ++ ['0']) = stripPoint text := by
  rw [stripPoint, stripPoint, if_pos (List.mem_append_left _ h), if_pos h, rstrip_append_all text (by simp)]

theorem toDigits_tenfold {n : ℕ} (h : 0 < n) : Nat.toDigits 10 (10 * n) = Nat.toDigits 10 n ++ ['0'] := by
  have happend := Nat.toDigits_append_toDigits (b := 10) (n := n) (d := 0) (by decide) h (by decide)
  rw [add_zero] at happend
  exact happend.symm

/-- One more zero at the end of the coefficient does not show. -/
theorem stripPoint_tenfold (negative : Bool) {c : ℕ} (h : 0 < c) (e : ℤ) :
    stripPoint (formatF ⟨negative, 10 * c, e⟩) = stripPoint (formatF ⟨negative, c, e + 1⟩) := by
  have hall := allDigits_toDigits c
  have hsign := not_point_signText negative
  have hformat (n : ℕ) (hn : 0 < n) (e : ℤ) : formatF ⟨negative, n, e⟩ =
      signText negative ++ place (Nat.toDigits 10 n) (e + (Nat.toDigits 10 n).length) := by
    unfold formatF
    dsimp only
    rw [if_neg hn.ne']
    rfl
  have hleft : e + ((Nat.toDigits 10 c).length + 1 : ℕ) = e + 1 + (Nat.toDigits 10 c).length := by omega
  rw [hformat _ (by omega), hformat c h, toDigits_tenfold h, List.length_append, List.length_singleton, hleft]
  generalize e + 1 + ((Nat.toDigits 10 c).length : ℤ) = left
  generalize signText negative = sign at hsign
  generalize Nat.toDigits 10 c = text at hall
  unfold place
  by_cases hsmall : left ≤ 0
  · rw [if_pos hsmall, if_pos hsmall, ← List.append_assoc, ← List.append_assoc, ← List.append_assoc]
    exact stripPoint_zero (by simp)
  rw [if_neg hsmall, if_neg hsmall, List.length_append, List.length_singleton]
  rcases lt_trichotomy (text.length : ℤ) left with hlong | hexact | hinside
  · rw [if_pos (by omega), if_pos hlong.le, List.append_assoc]
    have hcount : (left - text.length).natAbs = (left - (text.length + 1 : ℕ)).natAbs + 1 := by omega
    rw [hcount, List.replicate_succ]
    rfl
  · have hnone : '.' ∉ sign ++ text := fun hmem =>
      (List.mem_append.mp hmem).elim hsign (not_point_of_allDigits hall)
    have hcount : left.natAbs = text.length := by omega
    have hnothing : (left - text.length).natAbs = 0 := by omega
    rw [if_neg (by omega), if_pos hexact.le, hcount, hnothing, List.take_append_of_le_length le_rfl, List.take_length,
      List.drop_append_of_le_length le_rfl, List.drop_length, List.replicate_zero, List.append_nil, List.nil_append,
      ← List.append_assoc]
    generalize sign ++ text = whole at hnone
    rw [stripPoint, stripPoint, if_neg hnone, if_pos (by simp), show whole ++ '.' :: ['0'] = whole ++ ['.'] ++ ['0'] by simp,
      rstrip_append_all _ (by simp), rstrip_concat_ne whole (by decide), rstrip_append_all _ (by simp)]
    exact rstrip_eq_self fun x hx heq => hnone (heq ▸ List.mem_of_getLast? hx)
  · rw [if_neg (by omega), if_neg (by omega), List.take_append_of_le_length (by omega),
      List.drop_append_of_le_length (by omega), ← List.cons_append, ← List.append_assoc, ← List.append_assoc,
      ← List.append_assoc]
    exact stripPoint_zero (by simp)

theorem decimalText_stripZeros (negative : Bool) (fuel : ℕ) {n : ℕ} (h : 0 < n) (e : ℤ) :
    decimalText ⟨negative, (stripZeros fuel n).1, e + (stripZeros fuel n).2⟩ = decimalText ⟨negative, n, e⟩ := by
  induction fuel generalizing n e with
  | zero => simp [stripZeros]
  | succ fuel ih =>
    unfold stripZeros
    split
    next hten =>
      have hrest : 10 * (n / 10) = n := by omega
      have hshown := stripPoint_tenfold negative (c := n / 10) (by omega) e
      rw [hrest] at hshown
      have hnext := ih (n := n / 10) (by omega) (e + 1)
      dsimp only
      rw [decimalText_eq ⟨negative, n, e⟩, hshown, ← decimalText_eq, ← hnext]
      congr 2
      push_cast
      ring
    next => simp

theorem decimalText_zero {d : Decimal} (h : d.coefficient = 0) : d.decimalText = ['0'] := by
  have hdigits : d.digits = ['0'] := by
    rw [digits, h]
    rfl
  have hstripped (negative : Bool) : stripPoint (signText negative ++ place ['0'] (min d.exponent 0 + 1)) =
      signText negative ++ ['0'] := by
    unfold place
    by_cases hsmall : min d.exponent 0 + 1 ≤ 0
    · have hzeros : ∀ x ∈ List.replicate (min d.exponent 0 + 1).natAbs '0' ++ ['0'], x = '0' := by
        intro x hx
        rcases List.mem_append.mp hx with hx | hx
        · exact List.eq_of_mem_replicate hx
        · exact List.mem_singleton.mp hx
      have hsplit (sign : List Char) (tail : List Char) : sign ++ ('0' :: '.' :: tail) = sign ++ ['0'] ++ ['.'] ++ tail := by
        simp
      rw [if_pos hsmall, List.cons_append, List.cons_append, hsplit, stripPoint, if_pos (by simp),
        rstrip_append_all _ hzeros, rstrip_concat_ne _ (by decide), rstrip_append_all _ (by simp),
        rstrip_concat_ne _ (by decide)]
    · have hone : min d.exponent 0 + 1 = 1 := by omega
      rw [hone]
      cases negative <;> decide
  have hformat : d.formatF = signText d.negative ++ place ['0'] (min d.exponent 0 + 1) := by
    unfold formatF
    dsimp only
    rw [if_pos h, hdigits]
    rfl
  rw [decimalText_eq, hformat, hstripped]
  cases d.negative <;> rfl

/-- The text names the number. -/
theorem decimalText_eq_iff {a b : Decimal} : a.decimalText = b.decimalText ↔ a.toRat = b.toRat := by
  refine ⟨decimalText_injective, fun h => ?_⟩
  by_cases ha : a.coefficient = 0
  · have hb : b.coefficient = 0 := by rw [← toRat_eq_zero, ← h, toRat_eq_zero, ha]
    rw [decimalText_zero ha, decimalText_zero hb]
  · have hb : b.coefficient ≠ 0 := by rwa [ne_eq, ← toRat_eq_zero, ← h, toRat_eq_zero]
    have hpos {c : ℕ} (hc : c ≠ 0) : 0 < c := Nat.pos_of_ne_zero hc
    rw [show a = ⟨a.negative, a.coefficient, a.exponent⟩ from rfl, show b = ⟨b.negative, b.coefficient, b.exponent⟩ from rfl,
      ← decimalText_stripZeros a.negative a.coefficient (hpos ha), ← decimalText_stripZeros b.negative b.coefficient (hpos hb)]
    refine congrArg decimalText (normal_unique ?_ ?_ ?_)
    · exact stripZeros_normal (hpos ha) (Nat.lt_pow_self (by decide))
    · exact stripZeros_normal (hpos hb) (Nat.lt_pow_self (by decide))
    · rw [toRat_stripZeros, toRat_stripZeros]
      exact h

/-! ### Columns -/

/-- A value of the column is kept as it is. -/
theorem toRat_column {d : Decimal} (h : OnGrid 38 (-18) d.toRat) : d.column.toRat = d.toRat := by
  obtain ⟨n, hvalue, hbound⟩ := h
  have hmagnitude : (d.coefficient : ℚ) * 10 ^ d.exponent = n.natAbs * 10 ^ (-18 : ℤ) := by
    have hunit : (0 : ℚ) < 10 ^ (-18 : ℤ) := zpow_pos (by norm_num) _
    rw [← abs_toRat, hvalue, abs_mul, abs_of_pos hunit, Nat.cast_natAbs, Int.cast_abs]
  have hsmall : n.natAbs < 10 ^ 38 := by
    rw [Int.abs_eq_natAbs] at hbound
    exact_mod_cast hbound
  have hscaled : (if -18 ≤ d.exponent then d.coefficient * 10 ^ (d.exponent + 18).toNat
      else (d.coefficient + 10 ^ (-18 - d.exponent).toNat / 2) / 10 ^ (-18 - d.exponent).toNat) = n.natAbs := by
    split
    next hlarge =>
      have hsplit : d.exponent = ((d.exponent + 18).toNat : ℤ) + -18 := by omega
      rw [hsplit, zpow_add₀ (by norm_num), zpow_natCast, ← mul_assoc, mul_left_inj' (zpow_pos (by norm_num) _).ne']
        at hmagnitude
      exact_mod_cast hmagnitude
    next hsmaller =>
      have hsplit : (-18 : ℤ) = ((-18 - d.exponent).toNat : ℤ) + d.exponent := by omega
      rw [hsplit, zpow_add₀ (by norm_num), zpow_natCast, ← mul_assoc, mul_left_inj' (zpow_pos (by norm_num) _).ne']
        at hmagnitude
      have hcoefficient : d.coefficient = n.natAbs * 10 ^ (-18 - d.exponent).toNat := by exact_mod_cast hmagnitude
      have hpos : 0 < 10 ^ (-18 - d.exponent).toNat := pow_pos (by decide) _
      rw [hcoefficient, add_comm, Nat.add_mul_div_right _ _ hpos, Nat.div_eq_of_lt (Nat.div_lt_self hpos (by decide)), zero_add]
  have hcolumn : d.column = ⟨d.negative && decide (n.natAbs ≠ 0), min n.natAbs (10 ^ 38 - 1), -18⟩ := by
    unfold column
    dsimp only
    rw [hscaled]
  rw [hcolumn, min_eq_left (by omega)]
  by_cases hzero : n.natAbs = 0
  · rw [hvalue, Int.natAbs_eq_zero.mp hzero]
    simp [toRat]
  · unfold toRat
    simp only [hzero, ne_eq, not_false_eq_true, decide_true, Bool.and_true]
    rw [mul_assoc, mul_assoc, ← hmagnitude]

end AutoTrader.Domain.Decimal

namespace AutoTrader.Domain

open AutoTrader.Numeric

theorem onGrid_column (d : Decimal) : OnGrid 38 (-18) d.column.toRat := by
  refine ⟨if d.column.negative then -d.column.coefficient else d.column.coefficient, ?_, ?_⟩
  · have hexponent : d.column.exponent = -18 := rfl
    unfold Decimal.toRat
    rw [hexponent]
    split <;> push_cast <;> ring
  · have hsmall : d.column.coefficient ≤ 10 ^ 38 - 1 := min_le_right _ _
    have habs : |(if d.column.negative then -(d.column.coefficient : ℤ) else d.column.coefficient)| =
        d.column.coefficient := by
      split <;> simp
    rw [habs]
    norm_num at hsmall ⊢
    omega

/-- A column keeps exactly its own values. -/
theorem toRat_column_iff {d : Decimal} : d.column.toRat = d.toRat ↔ OnGrid 38 (-18) d.toRat :=
  ⟨fun h => h ▸ onGrid_column d, Decimal.toRat_column⟩

end AutoTrader.Domain
