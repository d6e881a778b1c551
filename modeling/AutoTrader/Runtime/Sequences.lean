import Mathlib.Data.Int.Basic
import Mathlib.Data.List.Basic
import Mathlib.Data.List.Chain
import Mathlib.Data.List.Induction
import Mathlib.Data.List.TakeDrop
import Mathlib.Order.Lattice
import Mathlib.Order.OrderDual

/-! Lists as the source reads and walks them: slices, bins, the first of the least, the longest suffix whose
neighbours are related. -/

/-! Slices with the positions of the source: one that is negative counts from the end. -/

namespace AutoTrader.Runtime

variable {α β : Type}

/-- Where a position lies in a list of this length. -/
def sliceIndex (length : ℕ) (position : ℤ) : ℕ :=
  if position < 0 then length - (-position).toNat else position.toNat

/-- `values[start:]`. -/
def sliceFrom (start : ℤ) (values : List α) : List α :=
  values.drop (sliceIndex values.length start)

/-- `values[start:stop]`. -/
def slice (start stop : ℤ) (values : List α) : List α :=
  (values.take (sliceIndex values.length stop)).drop (sliceIndex values.length start)

theorem sliceFrom_map (f : α → β) (start : ℤ) (values : List α) :
    sliceFrom start (values.map f) = (sliceFrom start values).map f := by
  rw [sliceFrom, sliceFrom, List.length_map, List.map_drop]

theorem slice_map (f : α → β) (start stop : ℤ) (values : List α) :
    slice start stop (values.map f) = (slice start stop values).map f := by
  rw [slice, slice, List.length_map, List.map_drop, List.map_take]

theorem mem_of_mem_sliceFrom {start : ℤ} {values : List α} {value : α} (h : value ∈ sliceFrom start values) :
    value ∈ values :=
  List.mem_of_mem_drop h

/-- Up to the end nothing is cut off. -/
theorem slice_length (start : ℤ) (values : List α) : slice start (values.length : ℤ) values = sliceFrom start values := by
  have hend : sliceIndex values.length (values.length : ℤ) = values.length := by
    have hnonneg : ¬(values.length : ℤ) < 0 := by omega
    rw [sliceIndex, if_neg hnonneg, Int.toNat_natCast]
  rw [slice, hend, List.take_length, sliceFrom]

/-- A position from the end is one from the start. -/
theorem sliceIndex_of_end {length back : ℕ} (h : back ≤ length) (hpos : 0 < back) :
    sliceIndex length (-(back : ℤ)) = sliceIndex length ((length : ℤ) - back) := by
  have hneg : -(back : ℤ) < 0 := by omega
  have hnonneg : ¬(length : ℤ) - back < 0 := by omega
  rw [sliceIndex, sliceIndex, if_pos hneg, if_neg hnonneg]
  omega

end AutoTrader.Runtime

/-! Items dropped one after another into numbered bins. -/

namespace AutoTrader.Runtime

variable {α : Type} {index : α → ℕ} {count : ℕ} {items : List α}

/-- `for item in items: bins[index(item)].append(item)`. -/
def distribute (index : α → ℕ) (count : ℕ) (items : List α) : List (List α) :=
  items.foldl (fun bins item => bins.modify (index item) (· ++ [item])) (List.replicate count [])

theorem distribute_concat (index : α → ℕ) (count : ℕ) (items : List α) (item : α) :
    distribute index count (items ++ [item]) = (distribute index count items).modify (index item) (· ++ [item]) := by
  rw [distribute, List.foldl_append]
  rfl

theorem distribute_length (index : α → ℕ) (count : ℕ) (items : List α) :
    (distribute index count items).length = count := by
  induction items using List.reverseRecOn with
  | nil => exact List.length_replicate
  | append_singleton items item ih => rw [distribute_concat, List.length_modify, ih]

/-- A bin holds the items of its number, in their order. -/
theorem distribute_getElem? {i : ℕ} (hi : i < count) (items : List α) :
    (distribute index count items)[i]? = some (items.filter (index · = i)) := by
  induction items using List.reverseRecOn with
  | nil => exact List.getElem?_replicate_of_lt hi
  | append_singleton items item ih =>
    rw [distribute_concat, List.getElem?_modify, ih, List.filter_append]
    by_cases h : index item = i
    · simp [h]
    · simp [h]

theorem mem_distribute {bin : List α} (h : bin ∈ distribute index count items) :
    ∃ i < count, bin = items.filter (index · = i) := by
  obtain ⟨i, hi⟩ := List.mem_iff_getElem?.mp h
  have hlt : i < count := by
    have := (List.getElem?_eq_some_iff.mp hi).1
    rwa [distribute_length] at this
  refine ⟨i, hlt, ?_⟩
  rw [distribute_getElem? hlt] at hi
  exact (Option.some.inj hi).symm

/-- Bins follow one another by the numbers of their items. -/
theorem distribute_pairwise (index : α → ℕ) (count : ℕ) (items : List α) :
    (distribute index count items).Pairwise fun lower upper => ∀ a ∈ lower, ∀ b ∈ upper, index a < index b := by
  refine List.pairwise_iff_getElem.mpr fun i j hi hj hij a ha b hb => ?_
  have hbin {k : ℕ} (hk : k < (distribute index count items).length) :
      (distribute index count items)[k] = items.filter (index · = k) := by
    have hlt : k < count := by rwa [distribute_length] at hk
    exact (List.getElem?_eq_some_iff.mp (distribute_getElem? hlt items)).2
  rw [hbin hi] at ha
  rw [hbin hj] at hb
  have hia : index a = i := by simpa using (List.mem_filter.mp ha).2
  have hjb : index b = j := by simpa using (List.mem_filter.mp hb).2
  omega

end AutoTrader.Runtime

/-! The builtins `min` and `max` with a key: the first of the least, the first of the greatest. -/

namespace AutoTrader.Runtime

variable {α β : Type} [LinearOrder β]

/-- `min((first, *rest), key=key)`. -/
def minBy (key : α → β) (first : α) (rest : List α) : α :=
  rest.foldl (fun best a => if key a < key best then a else best) first

theorem minBy_cons (key : α → β) (first second : α) (rest : List α) :
    minBy key first (second :: rest) = minBy key (if key second < key first then second else first) rest := rfl

theorem minBy_mem (key : α → β) (first : α) (rest : List α) : minBy key first rest ∈ first :: rest := by
  induction rest generalizing first with
  | nil => exact List.mem_singleton_self first
  | cons second rest ih =>
    rw [minBy_cons]
    split
    · exact List.mem_cons_of_mem _ (ih second)
    · rcases List.mem_cons.mp (ih first) with h | h
      · rw [h]
        exact List.mem_cons_self
      · exact List.mem_cons_of_mem _ (List.mem_cons_of_mem _ h)

theorem minBy_le (key : α → β) (first : α) (rest : List α) : ∀ a ∈ first :: rest, key (minBy key first rest) ≤ key a := by
  induction rest generalizing first with
  | nil =>
    intro a ha
    rw [List.mem_singleton.mp ha]
    exact le_rfl
  | cons second rest ih =>
    intro a ha
    rw [minBy_cons]
    rcases List.mem_cons.mp ha with rfl | ha
    · split
      · rename_i hlt
        exact (ih second second List.mem_cons_self).trans hlt.le
      · exact ih a a List.mem_cons_self
    · rcases List.mem_cons.mp ha with rfl | ha
      · split
        · exact ih a a List.mem_cons_self
        · rename_i hle
          exact (ih first first List.mem_cons_self).trans (not_lt.mp hle)
      · exact ih _ a (List.mem_cons_of_mem _ ha)

/-- `max((first, *rest), key=key)`. -/
def maxBy (key : α → β) (first : α) (rest : List α) : α := minBy (OrderDual.toDual ∘ key) first rest

theorem maxBy_mem (key : α → β) (first : α) (rest : List α) : maxBy key first rest ∈ first :: rest :=
  minBy_mem _ first rest

theorem le_maxBy (key : α → β) (first : α) (rest : List α) : ∀ a ∈ first :: rest, key a ≤ key (maxBy key first rest) :=
  minBy_le (OrderDual.toDual ∘ key) first rest

end AutoTrader.Runtime

/-! The longest suffix of a list whose neighbours are related. A scan from the front finds it: it keeps the
chain that ends at the element it has reached, and starts a new one where the relation breaks. -/

namespace AutoTrader.Runtime

variable {α : Type} {R : α → α → Prop} {xs chain : List α} {previous current : α}

/-- A suffix that is a chain, and every suffix that is a chain is a suffix of it. -/
structure LongestChain (R : α → α → Prop) (xs chain : List α) : Prop where
  suffix : chain <:+ xs
  isChain : chain.IsChain R
  longest : ∀ other, other <:+ xs → other.IsChain R → other <:+ chain

theorem LongestChain.unique {other : List α} (h : LongestChain R xs chain) (hother : LongestChain R xs other) :
    chain = other := by
  have hle := hother.longest chain h.suffix h.isChain
  have hge := h.longest other hother.suffix hother.isChain
  exact hle.eq_of_length (Nat.le_antisymm hle.length_le hge.length_le)

theorem longestChain_singleton (a : α) : LongestChain R [a] [a] :=
  ⟨List.suffix_refl _, List.isChain_singleton a, fun _ h _ => h⟩

/-- It ends where the list ends. -/
theorem LongestChain.ends (h : LongestChain R (xs ++ [previous]) chain) : ∃ before, chain = before ++ [previous] := by
  obtain ⟨before, hbefore⟩ := h.longest [previous] (List.suffix_append xs [previous]) (List.isChain_singleton previous)
  exact ⟨before, hbefore.symm⟩

/-- A related element lengthens the chain. -/
theorem LongestChain.extend (h : LongestChain R (xs ++ [previous]) chain) (hr : R previous current) :
    LongestChain R (xs ++ [previous] ++ [current]) (chain ++ [current]) := by
  obtain ⟨before, rfl⟩ := h.ends
  refine ⟨List.suffix_concat_iff.mpr (.inr ⟨_, rfl, h.suffix⟩), ?_, fun other hsuffix hchain => ?_⟩
  · refine List.isChain_append.mpr ⟨h.isChain, List.isChain_singleton current, fun x hx y hy => ?_⟩
    rw [List.getLast?_concat] at hx
    cases hx
    cases hy
    exact hr
  · rcases List.suffix_concat_iff.mp hsuffix with rfl | ⟨front, rfl, hfront⟩
    · exact List.nil_suffix
    · have hfrontChain := (List.isChain_append.mp hchain).1
      exact List.suffix_concat_iff.mpr (.inr ⟨front, rfl, h.longest front hfront hfrontChain⟩)

/-- An unrelated one starts anew. -/
theorem LongestChain.restart (hr : ¬R previous current) :
    LongestChain R (xs ++ [previous] ++ [current]) [current] := by
  refine ⟨List.suffix_append _ [current], List.isChain_singleton current, fun other hsuffix hchain => ?_⟩
  rcases List.suffix_concat_iff.mp hsuffix with rfl | ⟨front, rfl, hfront⟩
  · exact List.nil_suffix
  · rcases List.suffix_concat_iff.mp hfront with rfl | ⟨before, rfl, -⟩
    · exact List.suffix_refl _
    · have hlink := (List.isChain_append.mp hchain).2.2 previous (by rw [List.getLast?_concat]; rfl) current rfl
      exact absurd hlink hr

variable (R) [DecidableRel R]

/-- The loop over neighbours. -/
def chainLoop (history : List α) (previous : α) : List α → List α
  | [] => history
  | current :: rest => chainLoop (if R previous current then history ++ [current] else [current]) current rest

variable {R}

theorem chainLoop_longest (h : LongestChain R (xs ++ [previous]) chain) (rest : List α) :
    LongestChain R (xs ++ [previous] ++ rest) (chainLoop R chain previous rest) := by
  induction rest generalizing xs previous chain with
  | nil =>
    rw [List.append_nil]
    exact h
  | cons current rest ih =>
    have hsplit : xs ++ [previous] ++ current :: rest = xs ++ [previous] ++ [current] ++ rest := by
      rw [List.append_assoc _ [current], List.singleton_append]
    rw [chainLoop, hsplit]
    by_cases hr : R previous current
    · rw [if_pos hr]
      exact ih (h.extend hr)
    · rw [if_neg hr]
      exact ih (LongestChain.restart hr)

end AutoTrader.Runtime
