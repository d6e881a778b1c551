import Mathlib.Data.Int.Log
import Mathlib.Data.Rat.Floor
import Mathlib.Tactic.Linarith
import Mathlib.Tactic.FieldSimp
import Mathlib.Tactic.Positivity
import Mathlib.Tactic.Ring

/-! Decimal floating point with a fixed number of significant digits, ties to even.
A number on a decimal grid with few enough digits is its own rounding, so arithmetic
that stays on such a grid is exact. -/

namespace AutoTrader.Numeric

def roundHalfEven (x : ℚ) : ℤ :=
  let f := ⌊x⌋
  if x - f < 1 / 2 then f
  else if 1 / 2 < x - f then f + 1
  else if f % 2 = 0 then f else f + 1

/-- The distance of the `p`-digit numbers around `x`. -/
def unit (p : ℕ) (x : ℚ) : ℚ := 10 ^ (Int.log 10 |x| + 1 - p)

/-- `x` rounded to `p` significant decimal digits. -/
def roundSig (p : ℕ) (x : ℚ) : ℚ :=
  if x = 0 then 0 else roundHalfEven (x / unit p x) * unit p x

/-- In the 28 digits of the default context. -/
abbrev rounded (x : ℚ) : ℚ := roundSig 28 x

theorem roundHalfEven_intCast (n : ℤ) : roundHalfEven n = n := by
  simp [roundHalfEven]

private theorem tenPow_pos (e : ℤ) : (0 : ℚ) < 10 ^ e := zpow_pos (by norm_num) e

theorem unit_pos (p : ℕ) (x : ℚ) : 0 < unit p x := tenPow_pos _

@[simp] theorem roundSig_zero (p : ℕ) : roundSig p 0 = 0 := by
  simp [roundSig]

/-- A multiple of its own unit is exact. -/
theorem roundSig_of_multiple {p : ℕ} {x : ℚ} {n : ℤ} (h : x = n * unit p x) : roundSig p x = x := by
  unfold roundSig
  split
  · rename_i hx
    exact hx.symm
  · have hu : unit p x ≠ 0 := (unit_pos p x).ne'
    have hquot : x / unit p x = n := by
      rw [div_eq_iff hu]
      exact h
    rw [hquot, roundHalfEven_intCast]
    exact h.symm

/-- The numbers with at most `p` digits in units of `10 ^ e`. -/
def OnGrid (p : ℕ) (e : ℤ) (x : ℚ) : Prop :=
  ∃ n : ℤ, x = n * 10 ^ e ∧ |n| < 10 ^ p

theorem roundSig_of_onGrid {p : ℕ} {e : ℤ} {x : ℚ} (h : OnGrid p e x) : roundSig p x = x := by
  obtain ⟨n, rfl, hn⟩ := h
  by_cases hzero : n = 0
  · simp [hzero]
  -- the unit of a number with at most `p` digits is at most `10 ^ e`, and a power of ten
  have hpos : (0 : ℚ) < |(n : ℚ) * 10 ^ e| := by
    have hn0 : (n : ℚ) ≠ 0 := by exact_mod_cast hzero
    exact abs_pos.mpr (mul_ne_zero hn0 (tenPow_pos e).ne')
  have hlt : |(n : ℚ) * 10 ^ e| < 10 ^ ((p : ℤ) + e) := by
    rw [abs_mul, abs_of_pos (tenPow_pos e), zpow_add₀ (by norm_num)]
    have hcast : |(n : ℚ)| < 10 ^ (p : ℤ) := by
      rw [zpow_natCast]
      exact_mod_cast hn
    exact mul_lt_mul_of_pos_right hcast (tenPow_pos e)
  have hlog : Int.log 10 |(n : ℚ) * 10 ^ e| < (p : ℤ) + e := by
    rw [← Int.lt_zpow_iff_log_lt (by norm_num) hpos]
    exact_mod_cast hlt
  obtain ⟨k, hk⟩ : ∃ k : ℕ, e = Int.log 10 |(n : ℚ) * 10 ^ e| + 1 - p + k :=
    ⟨(e - (Int.log 10 |(n : ℚ) * 10 ^ e| + 1 - p)).toNat, by omega⟩
  refine roundSig_of_multiple (n := n * 10 ^ k) ?_
  unfold unit
  set l : ℤ := Int.log 10 |(n : ℚ) * 10 ^ e| + 1 - p with hl
  calc (n : ℚ) * 10 ^ e = n * 10 ^ (l + k) := by rw [← hk]
    _ = ((n * 10 ^ k : ℤ) : ℚ) * 10 ^ l := by
      rw [zpow_add₀ (by norm_num), zpow_natCast]
      push_cast
      ring

theorem OnGrid.neg {p : ℕ} {e : ℤ} {x : ℚ} (h : OnGrid p e x) : OnGrid p e (-x) := by
  obtain ⟨n, rfl, hn⟩ := h
  exact ⟨-n, by push_cast; ring, by rwa [abs_neg]⟩

theorem roundHalfEven_pos {x : ℚ} (h : 1 ≤ x) : 0 < roundHalfEven x := by
  have hfloor : 1 ≤ ⌊x⌋ := Int.le_floor.mpr (by exact_mod_cast h)
  unfold roundHalfEven
  dsimp only
  split_ifs <;> omega

theorem roundHalfEven_neg {x : ℚ} (h : x ≤ -1) : roundHalfEven x < 0 := by
  have hle : (⌊x⌋ : ℚ) ≤ x := Int.floor_le x
  have hneg : ⌊x⌋ ≤ -1 := by exact_mod_cast hle.trans h
  rcases eq_or_lt_of_le hneg with heq | hlt
  · -- the floor is `-1` only at `-1` itself, which needs no rounding
    have hx : x = -1 := le_antisymm h (by rw [heq] at hle; exact_mod_cast hle)
    have hone : roundHalfEven x = -1 := by
      rw [hx]
      exact_mod_cast roundHalfEven_intCast (-1)
    omega
  · unfold roundHalfEven
    dsimp only
    split_ifs <;> omega

/-- The unit of a number is not larger than the number. -/
theorem unit_le {p : ℕ} (hp : 1 ≤ p) {x : ℚ} (hx : x ≠ 0) : unit p x ≤ |x| := by
  have hlog : (10 : ℚ) ^ Int.log 10 |x| ≤ |x| := Int.zpow_log_le_self (by norm_num) (abs_pos.mpr hx)
  refine le_trans ?_ hlog
  exact zpow_le_zpow_right₀ (by norm_num) (by omega)

theorem roundSig_neg {p : ℕ} (hp : 1 ≤ p) (x : ℚ) : roundSig p x < 0 ↔ x < 0 := by
  unfold roundSig
  split
  · rename_i hx
    simp [hx]
  rename_i hx
  have hu : 0 < unit p x := unit_pos p x
  have hle : unit p x ≤ |x| := unit_le hp hx
  rcases lt_or_gt_of_ne hx with hneg | hpos
  · rw [abs_of_neg hneg] at hle
    have hquot : x / unit p x ≤ -1 := by
      rw [div_le_iff₀ hu]
      linarith
    have hround : (roundHalfEven (x / unit p x) : ℚ) < 0 := by
      exact_mod_cast roundHalfEven_neg hquot
    exact ⟨fun _ => hneg, fun _ => mul_neg_of_neg_of_pos hround hu⟩
  · rw [abs_of_pos hpos] at hle
    have hquot : 1 ≤ x / unit p x := by
      rw [le_div_iff₀ hu]
      linarith
    have hround : (0 : ℚ) < roundHalfEven (x / unit p x) := by
      exact_mod_cast roundHalfEven_pos hquot
    constructor
    · intro h
      exact absurd (mul_pos hround hu) (not_lt.mpr h.le)
    · intro h
      exact absurd hpos (not_lt.mpr h.le)

theorem roundHalfEven_le {x : ℚ} {n : ℤ} (h : x ≤ n) : roundHalfEven x ≤ n := by
  have hfloor : ⌊x⌋ ≤ n := by
    have hmono := Int.floor_le_floor h
    rwa [Int.floor_intCast] at hmono
  unfold roundHalfEven
  dsimp only
  rcases eq_or_lt_of_le hfloor with heq | hlt
  · have hle : x - ⌊x⌋ < 1 / 2 := by
      rw [heq]
      linarith
    rw [if_pos hle, heq]
  · split_ifs <;> omega

theorem OnGrid.lt {p : ℕ} {e : ℤ} {x : ℚ} (h : OnGrid p e x) : x < 10 ^ ((p : ℤ) + e) := by
  obtain ⟨n, rfl, hn⟩ := h
  rw [zpow_add₀ (by norm_num), zpow_natCast]
  have hcast : (n : ℚ) < 10 ^ p := by exact_mod_cast (abs_lt.mp hn).2
  exact mul_lt_mul_of_pos_right hcast (tenPow_pos e)

/-- Rounding does not pass a number with few enough digits. -/
theorem roundSig_le {p : ℕ} {e : ℤ} {x y : ℚ} (hy : OnGrid p e y) (hx : 0 ≤ x) (h : x ≤ y) : roundSig p x ≤ y := by
  unfold roundSig
  split
  · rename_i hzero
    rwa [← hzero]
  rename_i hne
  have hpos : 0 < x := lt_of_le_of_ne hx (Ne.symm hne)
  have hu : 0 < unit p x := unit_pos p x
  obtain ⟨n, rfl, hn⟩ := hy
  by_cases hcoarse : Int.log 10 |x| + 1 - p ≤ e
  · -- the number is a multiple of the unit of `x`
    obtain ⟨k, hk⟩ := Int.le.dest hcoarse
    have hmultiple : (n : ℚ) * 10 ^ e = ((n * 10 ^ k : ℤ) : ℚ) * unit p x := by
      unfold unit
      rw [← hk, zpow_add₀ (by norm_num), zpow_natCast]
      push_cast
      ring
    rw [hmultiple] at h ⊢
    have hquot : x / unit p x ≤ (n * 10 ^ k : ℤ) := (div_le_iff₀ hu).mpr h
    have hround : (roundHalfEven (x / unit p x) : ℚ) ≤ (n * 10 ^ k : ℤ) := by
      exact_mod_cast roundHalfEven_le hquot
    exact mul_le_mul_of_nonneg_right hround hu.le
  · -- otherwise it has too few digits to reach `x`
    exfalso
    have hlow : (10 : ℚ) ^ Int.log 10 |x| ≤ x := by
      have hlog : (10 : ℚ) ^ Int.log 10 |x| ≤ |x| := Int.zpow_log_le_self (by norm_num) (abs_pos.mpr hne)
      exact hlog.trans_eq (abs_of_pos hpos)
    have hhigh : (n : ℚ) * 10 ^ e < 10 ^ ((p : ℤ) + e) := OnGrid.lt ⟨n, rfl, hn⟩
    have hstep : (10 : ℚ) ^ ((p : ℤ) + e) ≤ 10 ^ Int.log 10 |x| := zpow_le_zpow_right₀ (by norm_num) (by omega)
    linarith

theorem le_roundHalfEven {x : ℚ} {n : ℤ} (h : n ≤ x) : n ≤ roundHalfEven x := by
  have hfloor : n ≤ ⌊x⌋ := Int.le_floor.mpr h
  unfold roundHalfEven
  dsimp only
  split_ifs <;> omega

/-- Nor does it fall below one. -/
theorem le_roundSig {p : ℕ} (hp : 1 ≤ p) {e : ℤ} {x y : ℚ} (hy : OnGrid p e y) (hx : 0 ≤ x) (h : y ≤ x) :
    y ≤ roundSig p x := by
  unfold roundSig
  split
  · rename_i hzero
    rwa [← hzero]
  rename_i hne
  have hpos : 0 < x := lt_of_le_of_ne hx (Ne.symm hne)
  have hu : 0 < unit p x := unit_pos p x
  -- a multiple of the unit of `x` that is not above `x` is not above its rounding
  have hmultiple : ∀ k : ℤ, (k : ℚ) * unit p x ≤ x → k * unit p x ≤ roundHalfEven (x / unit p x) * unit p x := by
    intro k hk
    have hquot : (k : ℚ) ≤ x / unit p x := (le_div_iff₀ hu).mpr hk
    have hround : (k : ℚ) ≤ roundHalfEven (x / unit p x) := by exact_mod_cast le_roundHalfEven hquot
    exact mul_le_mul_of_nonneg_right hround hu.le
  by_cases hcoarse : Int.log 10 |x| + 1 - p ≤ e
  · obtain ⟨n, rfl, -⟩ := hy
    obtain ⟨k, hk⟩ := Int.le.dest hcoarse
    have hgrid : (n : ℚ) * 10 ^ e = ((n * 10 ^ k : ℤ) : ℚ) * unit p x := by
      unfold unit
      rw [← hk, zpow_add₀ (by norm_num), zpow_natCast]
      push_cast
      ring
    rw [hgrid] at h ⊢
    exact hmultiple _ h
  · have hlow : (10 : ℚ) ^ Int.log 10 |x| ≤ x := by
      have hlog : (10 : ℚ) ^ Int.log 10 |x| ≤ |x| := Int.zpow_log_le_self (by norm_num) (abs_pos.mpr hne)
      exact hlog.trans_eq (abs_of_pos hpos)
    have hleading : (10 : ℚ) ^ Int.log 10 |x| = ((10 ^ (p - 1) : ℤ) : ℚ) * unit p x := by
      unfold unit
      push_cast
      rw [← zpow_natCast, ← zpow_add₀ (by norm_num)]
      congr 1
      omega
    have hbelow : y ≤ 10 ^ Int.log 10 |x| :=
      hy.lt.le.trans (zpow_le_zpow_right₀ (by norm_num) (by omega))
    rw [hleading] at hbelow hlow
    exact hbelow.trans (hmultiple _ hlow)

/-- A number with at most `p` digits before the point stays between its neighbouring integers. -/
theorem roundSig_between {p : ℕ} (hp : 1 ≤ p) {x : ℚ} (hx : 0 ≤ x) (h : ⌈x⌉ < 10 ^ p) :
    (⌊x⌋ : ℚ) ≤ roundSig p x ∧ roundSig p x ≤ ⌈x⌉ := by
  have hgrid : ∀ n : ℤ, 0 ≤ n → n ≤ ⌈x⌉ → OnGrid p 0 n := by
    intro n hn hle
    refine ⟨n, by simp, ?_⟩
    rw [abs_of_nonneg hn]
    omega
  have hfloor : 0 ≤ ⌊x⌋ := Int.floor_nonneg.mpr hx
  have hceil : ⌊x⌋ ≤ ⌈x⌉ := Int.floor_le_ceil x
  constructor
  · exact le_roundSig hp (hgrid _ hfloor hceil) hx (Int.floor_le x)
  · exact roundSig_le (hgrid _ (hfloor.trans hceil) le_rfl) hx (Int.le_ceil x)

theorem roundSig_pos {p : ℕ} (hp : 1 ≤ p) {x : ℚ} (hx : 0 < x) : 0 < roundSig p x := by
  have hu : 0 < unit p x := unit_pos p x
  have hquot : 1 ≤ x / unit p x := by
    rw [one_le_div hu]
    exact (unit_le hp hx.ne').trans_eq (abs_of_pos hx)
  rw [roundSig, if_neg hx.ne']
  have hround : (0 : ℚ) < roundHalfEven (x / unit p x) := by exact_mod_cast roundHalfEven_pos hquot
  exact mul_pos hround hu

theorem roundSig_nonneg {p : ℕ} (hp : 1 ≤ p) {x : ℚ} (hx : 0 ≤ x) : 0 ≤ roundSig p x :=
  not_lt.mp fun h => absurd ((roundSig_neg hp x).mp h) (not_lt.mpr hx)

/-- What was rounded has few enough digits. -/
theorem onGrid_roundSig {p : ℕ} (hp : 1 ≤ p) (x : ℚ) : ∃ e, OnGrid p e (roundSig p x) := by
  by_cases hzero : x = 0
  · exact ⟨0, 0, by simp [hzero], by positivity⟩
  have hu : 0 < unit p x := unit_pos p x
  have hsize : |x / unit p x| < 10 ^ p := by
    have hlog : |x| < 10 ^ (Int.log 10 |x| + 1) := Int.lt_zpow_succ_log_self (by norm_num) |x|
    rw [abs_div, abs_of_pos hu, div_lt_iff₀ hu, unit, ← zpow_natCast, ← zpow_add₀ (by norm_num), add_sub_cancel]
    exact hlog
  obtain ⟨hlow, hhigh⟩ := abs_lt.mp hsize
  have hupper : roundHalfEven (x / unit p x) ≤ 10 ^ p := roundHalfEven_le (by push_cast; exact hhigh.le)
  have hlower : -10 ^ p ≤ roundHalfEven (x / unit p x) := le_roundHalfEven (by push_cast; exact hlow.le)
  rw [roundSig, if_neg hzero]
  by_cases hfull : |roundHalfEven (x / unit p x)| < 10 ^ p
  · exact ⟨Int.log 10 |x| + 1 - p, roundHalfEven (x / unit p x), rfl, hfull⟩
  · -- rounding up to the next power of ten leaves one digit
    have hpower : |roundHalfEven (x / unit p x)| = 10 ^ p := le_antisymm (abs_le.mpr ⟨hlower, hupper⟩) (not_lt.mp hfull)
    have hone : (1 : ℤ) < 10 ^ p := one_lt_pow₀ (by norm_num) (by omega)
    have hscale : unit p x * 10 ^ p = 10 ^ (Int.log 10 |x| + 1 - p + p) := by
      rw [zpow_add₀ (by norm_num), zpow_natCast, unit]
    rcases abs_eq (by positivity) |>.mp hpower with hround | hround
    · refine ⟨Int.log 10 |x| + 1 - p + p, 1, ?_, by simpa using hone⟩
      rw [hround, ← hscale]
      push_cast
      ring
    · refine ⟨Int.log 10 |x| + 1 - p + p, -1, ?_, by simpa using hone⟩
      rw [hround, ← hscale]
      push_cast
      ring

theorem roundHalfEven_mono {x y : ℚ} (h : x ≤ y) : roundHalfEven x ≤ roundHalfEven y := by
  rcases (Int.floor_le_floor h).lt_or_eq with hlt | heq
  · have hx : roundHalfEven x ≤ ⌊x⌋ + 1 := roundHalfEven_le (by push_cast; exact (Int.lt_floor_add_one x).le)
    have hy : ⌊y⌋ ≤ roundHalfEven y := le_roundHalfEven (Int.floor_le y)
    omega
  · unfold roundHalfEven
    dsimp only
    rw [heq]
    split_ifs <;> first | omega | linarith

/-- Rounding keeps the order of numbers that are not negative. -/
theorem roundSig_mono {p : ℕ} (hp : 1 ≤ p) {x y : ℚ} (hx : 0 ≤ x) (h : x ≤ y) : roundSig p x ≤ roundSig p y := by
  rcases hx.eq_or_lt with rfl | hpos
  · rw [roundSig_zero]
    exact roundSig_nonneg hp h
  have hy : 0 < y := hpos.trans_le h
  have hlog : Int.log 10 |x| ≤ Int.log 10 |y| := by
    rw [abs_of_pos hpos, abs_of_pos hy]
    exact Int.log_mono_right hpos h
  rcases hlog.lt_or_eq with hlt | heq
  · -- a power of ten lies between
    have hone : |(1 : ℤ)| < 10 ^ p := one_lt_pow₀ (by norm_num) (by omega)
    have hgrid : OnGrid p (Int.log 10 |x| + 1) (10 ^ (Int.log 10 |x| + 1)) := ⟨1, by simp, hone⟩
    have hbelow : x ≤ 10 ^ (Int.log 10 |x| + 1) :=
      ((abs_of_pos hpos).symm.trans_lt (Int.lt_zpow_succ_log_self (by norm_num) |x|)).le
    have habove : (10 : ℚ) ^ (Int.log 10 |x| + 1) ≤ y := by
      have hself : (10 : ℚ) ^ Int.log 10 |y| ≤ |y| := Int.zpow_log_le_self (by norm_num) (abs_pos.mpr hy.ne')
      rw [abs_of_pos hy] at hself hlt
      exact (zpow_le_zpow_right₀ (by norm_num) (by omega)).trans hself
    exact (roundSig_le hgrid hpos.le hbelow).trans (le_roundSig hp hgrid hy.le habove)
  · have hunit : unit p x = unit p y := by
      unfold unit
      rw [heq]
    have hu : 0 < unit p y := unit_pos p y
    have hround : (roundHalfEven (x / unit p y) : ℚ) ≤ roundHalfEven (y / unit p y) := by
      exact_mod_cast roundHalfEven_mono (div_le_div_of_nonneg_right h hu.le)
    rw [roundSig, if_neg hpos.ne', roundSig, if_neg hy.ne', hunit]
    exact mul_le_mul_of_nonneg_right hround hu.le

theorem abs_sub_roundHalfEven (x : ℚ) : |x - roundHalfEven x| ≤ 1 / 2 := by
  have hlow : (⌊x⌋ : ℚ) ≤ x := Int.floor_le x
  have hhigh : x < ⌊x⌋ + 1 := Int.lt_floor_add_one x
  unfold roundHalfEven
  dsimp only
  rw [abs_le]
  split_ifs <;> push_cast <;> constructor <;> linarith

/-- Rounding moves a number by half a unit at most. -/
theorem abs_sub_roundSig (p : ℕ) (x : ℚ) : |x - roundSig p x| ≤ unit p x / 2 := by
  have hu : 0 < unit p x := unit_pos p x
  by_cases hzero : x = 0
  · simp only [hzero, roundSig_zero, sub_zero, abs_zero]
    exact (half_pos (unit_pos p 0)).le
  · calc |x - roundSig p x| = |x / unit p x - roundHalfEven (x / unit p x)| * unit p x := by
          rw [roundSig, if_neg hzero, ← abs_of_pos hu, ← abs_mul, abs_of_pos hu, sub_mul, div_mul_cancel₀ _ hu.ne']
      _ ≤ 1 / 2 * unit p x := mul_le_mul_of_nonneg_right (abs_sub_roundHalfEven _) hu.le
      _ = unit p x / 2 := by ring

theorem roundHalfEven_neg_eq (x : ℚ) : roundHalfEven (-x) = -roundHalfEven x := by
  by_cases hint : x = ⌊x⌋
  · rw [hint, ← Int.cast_neg, roundHalfEven_intCast, roundHalfEven_intCast]
  have hlow : (⌊x⌋ : ℚ) < x := lt_of_le_of_ne (Int.floor_le x) (Ne.symm hint)
  have hfloor : ⌊-x⌋ = -⌊x⌋ - 1 := by
    rw [Int.floor_eq_iff]
    have hhigh := Int.lt_floor_add_one x
    push_cast
    constructor <;> linarith
  unfold roundHalfEven
  dsimp only
  rw [hfloor]
  push_cast
  split_ifs <;> first | omega | linarith

theorem roundSig_neg_eq (p : ℕ) (x : ℚ) : roundSig p (-x) = -roundSig p x := by
  unfold roundSig unit
  by_cases hzero : x = 0
  · simp [hzero]
  · rw [if_neg (neg_ne_zero.mpr hzero), if_neg hzero, abs_neg, neg_div, roundHalfEven_neg_eq]
    push_cast
    ring

theorem abs_roundSig {p : ℕ} (hp : 1 ≤ p) (x : ℚ) : |roundSig p x| = roundSig p |x| := by
  rcases le_total 0 x with hx | hx
  · rw [abs_of_nonneg hx, abs_of_nonneg (roundSig_nonneg hp hx)]
  · have hneg : 0 ≤ roundSig p (-x) := roundSig_nonneg hp (neg_nonneg.mpr hx)
    rw [abs_of_nonpos hx, ← abs_of_nonneg hneg, roundSig_neg_eq, abs_neg]

/-- Rounding keeps the order, on either side of zero. -/
theorem rounded_mono {x y : ℚ} (h : x ≤ y) : rounded x ≤ rounded y := by
  rcases le_or_gt 0 x with hx | hx
  · exact roundSig_mono (by decide) hx h
  rcases le_or_gt 0 y with hy | hy
  · exact ((roundSig_neg (by decide) x).mpr hx).le.trans (roundSig_nonneg (by decide) hy)
  · have hneg := roundSig_mono (p := 28) (by decide) (neg_pos.mpr hy).le (neg_le_neg h)
    rw [roundSig_neg_eq, roundSig_neg_eq] at hneg
    exact neg_le_neg_iff.mp hneg

/-- As many digits, some places further up. -/
theorem OnGrid.scale {p : ℕ} {e : ℤ} {x : ℚ} (h : OnGrid p e x) (k : ℤ) : OnGrid p (e + k) (10 ^ k * x) := by
  obtain ⟨n, rfl, hn⟩ := h
  refine ⟨n, ?_, hn⟩
  rw [zpow_add₀ (by norm_num)]
  ring

/-- The rounded quotient of two natural numbers, from the quotient and the remainder. -/
theorem roundHalfEven_div (a : ℕ) {b : ℕ} (hb : 0 < b) : roundHalfEven ((a : ℚ) / b) =
    if b < 2 * (a % b) ∨ 2 * (a % b) = b ∧ a / b % 2 = 1 then (a / b : ℕ) + 1 else (a / b : ℕ) := by
  have hbq : (0 : ℚ) < b := Nat.cast_pos.mpr hb
  have hfloor : ⌊(a : ℚ) / b⌋ = (a / b : ℕ) := Rat.floor_natCast_div_natCast a b
  have hsplit : (a : ℚ) / b - (a / b : ℕ) = (a % b : ℕ) / b := by
    have hdivision : (a : ℚ) = b * (a / b : ℕ) + (a % b : ℕ) := by exact_mod_cast (Nat.div_add_mod a b).symm
    rw [eq_div_iff hbq.ne', sub_mul, div_mul_cancel₀ _ hbq.ne']
    linarith
  have hlow : ((a % b : ℕ) : ℚ) / b < 1 / 2 ↔ 2 * (a % b) < b := by
    rw [div_lt_div_iff₀ hbq two_pos, one_mul, ← Nat.cast_lt (α := ℚ)]
    push_cast
    rw [mul_comm]
  have hhigh : 1 / 2 < ((a % b : ℕ) : ℚ) / b ↔ b < 2 * (a % b) := by
    rw [div_lt_div_iff₀ two_pos hbq, one_mul, ← Nat.cast_lt (α := ℚ)]
    push_cast
    rw [mul_comm 2]
  unfold roundHalfEven
  dsimp only
  rw [hfloor, Int.cast_natCast, hsplit]
  simp only [hlow, hhigh]
  split_ifs <;> omega

end AutoTrader.Numeric
