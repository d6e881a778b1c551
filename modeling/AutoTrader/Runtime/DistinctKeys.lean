import AutoTrader.Domain.Basic
import AutoTrader.Runtime.Dict
import Mathlib.Data.List.Dedup
import Mathlib.Data.List.Induction
import Mathlib.Data.List.Sort

/-! Values collected under their keys: equal copies are one value, and two values of one key are refused. What
is left depends on the members of the list alone, and sorted it is one list. -/

namespace AutoTrader.Runtime

open AutoTrader.Domain

variable {α κ ε : Type} [DecidableEq α] [DecidableEq κ] {key : α → κ} {collision : ε} {values : List α}

/-- One step of the loop that collects: a key that is there must have this value. -/
def collectBy (key : α → κ) (collision : ε) (kept : List (κ × α)) (value : α) : Except ε (List (κ × α)) :=
  match Dict.get? kept (key value) with
  | some existing => if existing ≠ value then .error collision else .ok (Dict.set kept (key value) value)
  | none => .ok (Dict.set kept (key value) value)

/-- One key is one value. -/
def OneEach (key : α → κ) (values : List α) : Prop :=
  ∀ a ∈ values, ∀ b ∈ values, key a = key b → a = b

/-- The dict of values under their keys. -/
def underKeys (key : α → κ) (values : List α) : List (κ × α) :=
  values.map fun value => (key value, value)

omit [DecidableEq α] in
theorem get?_underKeys {k : κ} {value : α} (h : Dict.get? (underKeys key values) k = some value) :
    value ∈ values ∧ key value = k := by
  obtain ⟨found, hmem, heq⟩ := List.mem_map.mp (Dict.mem_of_get? h)
  cases heq
  exact ⟨hmem, rfl⟩

/-- While the keys are one value's each, the dict holds the distinct values. -/
theorem collectBy_ok (h : OneEach key values) :
    ∃ distinct : List α, values.foldlM (collectBy key collision) [] = .ok (underKeys key distinct) ∧ distinct.Nodup ∧
      ∀ value, value ∈ distinct ↔ value ∈ values := by
  induction values using List.reverseRecOn with
  | nil => exact ⟨[], rfl, List.nodup_nil, fun _ => Iff.rfl⟩
  | append_singleton values value ih =>
    obtain ⟨distinct, hfold, hnodup, hmem⟩ :=
      ih fun a ha b hb => h a (List.mem_append_left _ ha) b (List.mem_append_left _ hb)
    rw [List.foldlM_append, hfold, ok_bind, List.foldlM_cons, collectBy]
    cases hfound : Dict.get? (underKeys key distinct) (key value) with
    | none =>
      have hnew : value ∉ distinct := by
        intro hold
        exact Dict.get?_eq_none.mp hfound (List.mem_map.mpr ⟨_, List.mem_map_of_mem hold, rfl⟩)
      refine ⟨distinct ++ [value], ?_, ?_, fun other => ?_⟩
      · rw [Dict.set_new (Dict.get?_eq_none.mp hfound), underKeys, underKeys, List.map_append]
        rfl
      · rw [List.nodup_append]
        refine ⟨hnodup, List.nodup_singleton _, fun a ha b hb heq => hnew ?_⟩
        rw [← List.mem_singleton.mp hb, ← heq]
        exact ha
      · rw [List.mem_append, List.mem_append, hmem]
    | some existing =>
      obtain ⟨hold, hkey⟩ := get?_underKeys hfound
      have hsame : existing = value :=
        h existing (List.mem_append_left _ ((hmem existing).mp hold)) value (by simp) hkey
      subst hsame
      refine ⟨distinct, ?_, hnodup, fun other => ?_⟩
      · dsimp only
        rw [if_neg (not_not.mpr rfl), Dict.set_same hfound]
        rfl
      · rw [List.mem_append, List.mem_singleton, hmem]
        exact ⟨.inl, fun hother => hother.elim (fun h => h) fun heq => heq ▸ (hmem existing).mp hold⟩

/-- And a key of two values is a collision. -/
theorem collectBy_collision (h : ¬OneEach key values) :
    values.foldlM (collectBy key collision) [] = .error collision := by
  induction values using List.reverseRecOn with
  | nil => exact absurd (fun a ha => absurd ha List.not_mem_nil) h
  | append_singleton values value ih =>
    rw [List.foldlM_append]
    by_cases hlead : OneEach key values
    · obtain ⟨distinct, hfold, hnodup, hmem⟩ := collectBy_ok hlead
      obtain ⟨other, hother, hkey, hne⟩ : ∃ other ∈ values, key other = key value ∧ other ≠ value := by
        by_contra hnone
        push Not at hnone
        refine h fun a ha b hb hab => ?_
        rcases List.mem_append.mp ha with ha | ha <;> rcases List.mem_append.mp hb with hb | hb
        · exact hlead a ha b hb hab
        · rw [List.mem_singleton.mp hb] at hab ⊢
          exact hnone a ha hab
        · rw [List.mem_singleton.mp ha] at hab ⊢
          exact (hnone b hb hab.symm).symm
        · rw [List.mem_singleton.mp ha, List.mem_singleton.mp hb]
      rw [hfold, ok_bind, List.foldlM_cons, collectBy]
      cases hfound : Dict.get? (underKeys key distinct) (key value) with
      | none =>
        refine absurd (List.mem_map.mpr ⟨_, List.mem_map_of_mem ((hmem other).mpr hother), ?_⟩) (Dict.get?_eq_none.mp hfound)
        exact hkey
      | some existing =>
        obtain ⟨hold, hname⟩ := get?_underKeys hfound
        have hsame : existing = other :=
          hlead existing ((hmem existing).mp hold) other hother (hname.trans hkey.symm)
        dsimp only
        rw [if_pos (hsame ▸ hne)]
        rfl
    · rw [ih hlead]
      rfl

/-- What was collected, as the values of the dict. -/
structure Collected (key : α → κ) (values distinct : List α) : Prop where
  oneEach : OneEach key values
  nodup : distinct.Nodup
  mem : ∀ value, value ∈ distinct ↔ value ∈ values

theorem collected {kept : List (κ × α)} (h : values.foldlM (collectBy key collision) [] = .ok kept) :
    Collected key values (kept.map (·.2)) := by
  by_cases hone : OneEach key values
  · obtain ⟨distinct, hfold, hnodup, hmem⟩ := collectBy_ok hone
    rw [hfold] at h
    cases h
    have hvalues : (underKeys key distinct).map (·.2) = distinct := by
      rw [underKeys, List.map_map]
      exact List.map_id _
    rw [hvalues]
    exact ⟨hone, hnodup, hmem⟩
  · rw [collectBy_collision hone] at h
    cases h

omit [DecidableEq α] in
/-- In an order that tells values apart, two lists of the same values are one list when both are sorted. -/
theorem eq_of_sorted {r : α → α → Prop} {xs ys : List α} (hxs : xs.Nodup) (hys : ys.Nodup) (hxsSorted : xs.Pairwise r)
    (hysSorted : ys.Pairwise r) (hmem : ∀ a, a ∈ xs ↔ a ∈ ys)
    (hanti : ∀ a ∈ xs, ∀ b ∈ xs, r a b → r b a → a = b) : xs = ys :=
  List.Perm.eq_of_pairwise (fun a b ha hb => hanti a ha b ((hmem b).mpr hb)) hxsSorted hysSorted
    ((List.perm_ext_iff_of_nodup hxs hys).mpr hmem)

end AutoTrader.Runtime
