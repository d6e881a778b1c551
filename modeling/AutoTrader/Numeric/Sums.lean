import AutoTrader.Numeric.Rounding
import Mathlib.Algebra.BigOperators.Group.List.Basic
import Mathlib.Algebra.Order.BigOperators.Group.List
import Mathlib.Algebra.Order.Group.Unbundled.Basic
import Mathlib.Data.List.Induction
import Mathlib.Tactic.Abel

/-! Running sums that are rounded after every addition. Amounts of few decimals add up exactly, in every
order, as long as their total has no more digits than are kept. -/

namespace AutoTrader.Numeric

variable {p places : ℕ}

/-- The sum in a context of `p` digits. -/
def sumSig (p : ℕ) (amounts : List ℚ) : ℚ :=
  amounts.foldl (fun total amount => roundSig p (total + amount)) 0

theorem sumSig_concat (amounts : List ℚ) (amount : ℚ) :
    sumSig p (amounts ++ [amount]) = roundSig p (sumSig p amounts + amount) := by
  rw [sumSig, List.foldl_append]
  rfl

theorem sumSig_nonneg (hp : 1 ≤ p) {amounts : List ℚ} (h : ∀ amount ∈ amounts, 0 ≤ amount) : 0 ≤ sumSig p amounts := by
  induction amounts using List.reverseRecOn with
  | nil => exact le_rfl
  | append_singleton amounts amount ih =>
    rw [sumSig_concat]
    have hbefore := ih fun other hother => h other (List.mem_append_left _ hother)
    exact roundSig_nonneg hp (add_nonneg hbefore (h amount (by simp)))

/-- An amount of at most `places` decimals. -/
def HasPlaces (places : ℕ) (amount : ℚ) : Prop :=
  ∃ n : ℕ, amount = n * 10 ^ (-places : ℤ)

theorem HasPlaces.nonneg {amount : ℚ} (h : HasPlaces places amount) : 0 ≤ amount := by
  obtain ⟨n, rfl⟩ := h
  exact mul_nonneg (Nat.cast_nonneg _) (zpow_nonneg (by norm_num) _)

theorem hasPlaces_zero : HasPlaces places 0 := ⟨0, by simp⟩

theorem HasPlaces.add {a b : ℚ} (ha : HasPlaces places a) (hb : HasPlaces places b) : HasPlaces places (a + b) := by
  obtain ⟨n, rfl⟩ := ha
  obtain ⟨m, rfl⟩ := hb
  exact ⟨n + m, by push_cast; ring⟩

theorem HasPlaces.sum {amounts : List ℚ} (h : ∀ amount ∈ amounts, HasPlaces places amount) :
    HasPlaces places amounts.sum := by
  induction amounts with
  | nil => exact hasPlaces_zero
  | cons amount amounts ih =>
    rw [List.sum_cons]
    exact (h amount List.mem_cons_self).add (ih fun other hother => h other (List.mem_cons_of_mem _ hother))

theorem HasPlaces.mul {placesB : ℕ} {a b : ℚ} (ha : HasPlaces places a) (hb : HasPlaces placesB b) :
    HasPlaces (places + placesB) (a * b) := by
  obtain ⟨n, rfl⟩ := ha
  obtain ⟨m, rfl⟩ := hb
  refine ⟨n * m, ?_⟩
  push_cast
  rw [neg_add, zpow_add₀ (by norm_num)]
  ring

/-- Few enough digits are kept. -/
theorem HasPlaces.roundSig {amount : ℚ} (h : HasPlaces places amount) (hlt : amount * 10 ^ places < 10 ^ p) :
    roundSig p amount = amount := by
  obtain ⟨n, rfl⟩ := h
  refine roundSig_of_onGrid (e := -places) ⟨n, by norm_cast, ?_⟩
  rw [zpow_neg, zpow_natCast, inv_mul_cancel_right₀ (by positivity)] at hlt
  exact_mod_cast hlt

theorem sumSig_eq_sum {amounts : List ℚ} (h : ∀ amount ∈ amounts, HasPlaces places amount)
    (htotal : amounts.sum * 10 ^ places < 10 ^ p) : sumSig p amounts = amounts.sum := by
  induction amounts using List.reverseRecOn with
  | nil => rfl
  | append_singleton amounts amount ih =>
    have hsum := HasPlaces.sum h
    rw [List.sum_append, List.sum_singleton] at htotal hsum ⊢
    have hbefore : amounts.sum * 10 ^ places ≤ (amounts.sum + amount) * 10 ^ places :=
      mul_le_mul_of_nonneg_right (le_add_of_nonneg_right (h amount (by simp)).nonneg) (by positivity)
    rw [sumSig_concat, ih (fun other hother => h other (List.mem_append_left _ hother)) (hbefore.trans_lt htotal)]
    exact hsum.roundSig htotal

end AutoTrader.Numeric

/-! Netting of signed amounts. Amounts leave a queue first in, first out; a signed
balance moves by buys and sells, and its long part is what the queue has to hold. -/

namespace AutoTrader.Numeric

section Queue

variable {α : Type*} [AddCommGroup α] [LinearOrder α] [IsOrderedAddMonoid α]

/-- Take `n` out of the amounts from the front, as far as they reach. -/
def takeFront : List α → α → List α
  | [], _ => []
  | a :: rest, n => (a - min a n) :: takeFront rest (n - min a n)

omit [IsOrderedAddMonoid α] in
theorem takeFront_zero {xs : List α} (h : ∀ a ∈ xs, 0 ≤ a) : takeFront xs 0 = xs := by
  induction xs with
  | nil => rfl
  | cons a rest ih =>
    have ha : min a 0 = 0 := min_eq_right (h a List.mem_cons_self)
    simp only [takeFront, ha, sub_zero]
    rw [ih fun b hb => h b (List.mem_cons_of_mem a hb)]

theorem takeFront_nonneg {xs : List α} {n : α} : ∀ a ∈ takeFront xs n, 0 ≤ a := by
  induction xs generalizing n with
  | nil => simp [takeFront]
  | cons b rest ih =>
    intro a ha
    rcases List.mem_cons.mp ha with rfl | ha
    · exact sub_nonneg.mpr (min_le_left b n)
    · exact ih a ha

/-- What is taken is gone, when the queue holds that much. -/
theorem takeFront_sum {xs : List α} {n : α} (hxs : ∀ a ∈ xs, 0 ≤ a) (hn : 0 ≤ n) (hle : n ≤ xs.sum) :
    (takeFront xs n).sum = xs.sum - n := by
  induction xs generalizing n with
  | nil =>
    have hzero : n = 0 := le_antisymm (by simpa using hle) hn
    simp [takeFront, hzero]
  | cons a rest ih =>
    have ha : 0 ≤ a := hxs a List.mem_cons_self
    have hrest : ∀ b ∈ rest, 0 ≤ b := fun b hb => hxs b (List.mem_cons_of_mem a hb)
    rw [List.sum_cons] at hle
    have hleft : 0 ≤ n - min a n := sub_nonneg.mpr (min_le_right a n)
    have hfits : n - min a n ≤ rest.sum := by
      rcases le_total a n with han | hna
      · rw [min_eq_left han]
        exact sub_le_iff_le_add'.mpr hle
      · rw [min_eq_right hna, sub_self]
        exact List.sum_nonneg hrest
    simp only [takeFront, List.sum_cons]
    rw [ih hrest hleft hfits]
    abel

end Queue

/-! ### The long part of a balance -/

section Long

variable {α : Type*} [AddCommGroup α] [LinearOrder α] [IsOrderedAddMonoid α]

/-- What a buy of `s` adds to the long part of a balance of `q`. -/
def longOpened (q s : α) : α :=
  if 0 ≤ q then s else max 0 (s + q)

/-- What a sell of `s` takes from it. -/
def longClosed (q s : α) : α :=
  if 0 < q then min q s else 0

omit [IsOrderedAddMonoid α] in
theorem longOpened_nonneg {q s : α} (hs : 0 ≤ s) : 0 ≤ longOpened q s := by
  unfold longOpened
  split
  · exact hs
  · exact le_max_left _ _

omit [IsOrderedAddMonoid α] in
theorem longClosed_nonneg {q s : α} (hs : 0 ≤ s) : 0 ≤ longClosed q s := by
  unfold longClosed
  split
  · rename_i hq
    exact le_min hq.le hs
  · exact le_rfl

omit [IsOrderedAddMonoid α] in
theorem longClosed_le {q s : α} : longClosed q s ≤ max 0 q := by
  unfold longClosed
  split
  · exact (min_le_left q s).trans (le_max_right 0 q)
  · exact le_max_left 0 q

theorem max_zero_buy {q s : α} (hs : 0 ≤ s) : max 0 (q + s) = max 0 q + longOpened q s := by
  unfold longOpened
  split
  · rename_i hq
    rw [max_eq_right hq, max_eq_right (add_nonneg hq hs)]
  · rename_i hq
    rw [max_eq_left (not_le.mp hq).le, zero_add, add_comm]

theorem max_zero_sell {q s : α} (hs : 0 ≤ s) : max 0 (q - s) = max 0 q - longClosed q s := by
  unfold longClosed
  split
  · rename_i hq
    rw [max_eq_right hq.le]
    rcases le_total q s with hqs | hsq
    · rw [min_eq_left hqs, sub_self, max_eq_left (sub_nonpos.mpr hqs)]
    · rw [min_eq_right hsq, max_eq_right (sub_nonneg.mpr hsq)]
  · rename_i hq
    have hq' : q ≤ 0 := not_lt.mp hq
    rw [max_eq_left hq', sub_zero, max_eq_left]
    exact sub_nonpos.mpr (hq'.trans hs)

end Long

end AutoTrader.Numeric
