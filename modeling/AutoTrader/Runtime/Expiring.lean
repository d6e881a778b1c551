import AutoTrader.Runtime.Rows
import Mathlib.Algebra.Order.Group.Int

/-! A store of values under keys that are gone when their lifetime is over. -/

namespace AutoTrader.Runtime

structure Held (Key Value : Type) where
  key : Key
  value : Value
  expiresAt : ℤ

structure Expiring (Key Value : Type) where
  now : ℤ
  held : List (Held Key Value)

namespace Expiring

variable {Key Value : Type} [DecidableEq Key] {s s' : Expiring Key Value} {k : Key} {v : Value} {entry : Held Key Value}
  {lifetime : ℤ}

/-- What is held under a key and not over yet. -/
def held? (s : Expiring Key Value) (k : Key) : Option (Held Key Value) :=
  (Rows.lookup Held.key s.held k).filter fun entry => decide (s.now < entry.expiresAt)

def get? (s : Expiring Key Value) (k : Key) : Option Value := (s.held? k).map Held.value

def delete (s : Expiring Key Value) (k : Key) : Expiring Key Value :=
  { s with held := s.held.filter fun entry => decide (entry.key ≠ k) }

/-- `SET NX EX`, which answers nothing where the key is held. -/
def setNx (s : Expiring Key Value) (k : Key) (v : Value) (lifetime : ℤ) : Option (Expiring Key Value) :=
  if (s.held? k).isSome then none
  else some { s.delete k with held := (s.delete k).held ++ [⟨k, v, s.now + lifetime⟩] }

def elapse (s : Expiring Key Value) (time : ℕ) : Expiring Key Value := { s with now := s.now + time }

theorem held?_key (h : s.held? k = some entry) : entry.key = k :=
  Rows.lookup_key (Option.filter_eq_some_iff.mp h).1

theorem held?_lives (h : s.held? k = some entry) : s.now < entry.expiresAt :=
  of_decide_eq_true (Option.filter_eq_some_iff.mp h).2

theorem get?_eq_some (h : s.get? k = some v) : ∃ entry, s.held? k = some entry ∧ entry.value = v :=
  Option.map_eq_some_iff.mp h

theorem lookup_filter_ne (rows : List (Held Key Value)) (k other : Key) (hne : other ≠ k) :
    Rows.lookup Held.key (rows.filter fun entry => decide (entry.key ≠ k)) other = Rows.lookup Held.key rows other := by
  unfold Rows.lookup
  rw [List.find?_filter]
  congr 1
  funext entry
  by_cases hkey : entry.key = other
  · simp [hkey, hne]
  · simp [hkey]

theorem held?_delete (s : Expiring Key Value) (k other : Key) :
    (s.delete k).held? other = if other = k then none else s.held? other := by
  unfold held? delete
  split
  next heq =>
    have hnone : Rows.lookup Held.key (s.held.filter fun entry => decide (entry.key ≠ k)) other = none := by
      refine Rows.lookup_eq_none.mpr fun entry hentry => ?_
      rw [heq]
      exact of_decide_eq_true (List.mem_filter.mp hentry).2
    rw [hnone]
    rfl
  next hne => rw [lookup_filter_ne _ _ _ hne]

/-- A value that is found after one was set is that one, or was found before. -/
theorem held?_setNx (h : s.setNx k v lifetime = some s') {other : Key} (hentry : s'.held? other = some entry) :
    other = k ∧ entry = ⟨k, v, s.now + lifetime⟩ ∨ other ≠ k ∧ s.held? other = some entry := by
  unfold setNx at h
  split at h
  · cases h
  cases h
  obtain ⟨hfound, hlives⟩ := Option.filter_eq_some_iff.mp hentry
  have habsent : Rows.lookup Held.key (s.delete k).held (Held.mk k v (s.now + lifetime)).key = none := by
    refine Rows.lookup_eq_none.mpr fun entry hmem => ?_
    exact of_decide_eq_true (List.mem_filter.mp hmem).2
  rw [Rows.lookup_add habsent] at hfound
  split at hfound
  next heq => exact .inl ⟨heq, (Option.some.inj hfound).symm⟩
  next hne =>
    refine .inr ⟨hne, Option.filter_eq_some_iff.mpr ⟨?_, hlives⟩⟩
    rwa [delete, lookup_filter_ne _ _ _ hne] at hfound

theorem held?_elapse {time : ℕ} (h : (s.elapse time).held? k = some entry) : s.held? k = some entry := by
  obtain ⟨hfound, hlives⟩ := Option.filter_eq_some_iff.mp h
  refine Option.filter_eq_some_iff.mpr ⟨hfound, decide_eq_true ?_⟩
  have hlater : s.now + (time : ℤ) < entry.expiresAt := of_decide_eq_true hlives
  exact lt_of_le_of_lt (Int.le_add_of_nonneg_right (Int.natCast_nonneg time)) hlater

end Expiring

end AutoTrader.Runtime
