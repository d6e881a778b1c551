import Mathlib.Data.List.Nodup

/-! Dictionaries that keep their keys in the order in which they were first set. -/

namespace AutoTrader.Runtime

variable {κ α : Type} [DecidableEq κ]

/-- `d[k] = v`: a key that is there keeps its place. -/
def Dict.set : List (κ × α) → κ → α → List (κ × α)
  | [], k, v => [(k, v)]
  | (k', v') :: d, k, v => if k' = k then (k', v) :: d else (k', v') :: Dict.set d k v

/-- `{key(row): row for row in rows}`. -/
def dictOf (key : α → κ) (rows : List α) : List (κ × α) :=
  rows.foldl (fun d row => Dict.set d (key row) row) []

/-- `d.get(k)`. -/
def Dict.get? (d : List (κ × α)) (k : κ) : Option α :=
  (d.find? (·.1 = k)).map (·.2)

theorem Dict.set_new {d : List (κ × α)} {k : κ} {v : α} (hnew : k ∉ d.map (·.1)) : Dict.set d k v = d ++ [(k, v)] := by
  induction d with
  | nil => rfl
  | cons entry d ih =>
    obtain ⟨k', v'⟩ := entry
    rw [List.map_cons, List.mem_cons, not_or] at hnew
    unfold Dict.set
    rw [if_neg fun h => hnew.1 h.symm, ih hnew.2]
    rfl

theorem Dict.get?_eq_none {d : List (κ × α)} {k : κ} : Dict.get? d k = none ↔ k ∉ d.map (·.1) := by
  unfold Dict.get?
  rw [Option.map_eq_none_iff, List.find?_eq_none]
  simp only [List.mem_map, decide_eq_true_eq, not_exists, not_and]

theorem Dict.mem_of_get? {d : List (κ × α)} {k : κ} {v : α} (h : Dict.get? d k = some v) : (k, v) ∈ d := by
  obtain ⟨⟨k', v'⟩, hfind, hv⟩ := Option.map_eq_some_iff.mp h
  have hkey : k' = k := by simpa using List.find?_some hfind
  cases hkey
  cases hv
  exact List.mem_of_find?_eq_some hfind

theorem Dict.mem_set {d : List (κ × α)} {k : κ} {v : α} {entry : κ × α} (h : entry ∈ Dict.set d k v) :
    entry ∈ d ∨ entry = (k, v) := by
  induction d with
  | nil => exact .inr (List.mem_singleton.mp h)
  | cons first d ih =>
    obtain ⟨k', v'⟩ := first
    unfold Dict.set at h
    split at h
    · rename_i hkey
      rcases List.mem_cons.mp h with rfl | h
      · exact .inr (by rw [hkey])
      · exact .inl (List.mem_cons_of_mem _ h)
    · rcases List.mem_cons.mp h with rfl | h
      · exact .inl List.mem_cons_self
      · exact (ih h).imp_left (List.mem_cons_of_mem _)

/-- Setting what is there changes nothing. -/
theorem Dict.set_same {d : List (κ × α)} {k : κ} {v : α} (h : Dict.get? d k = some v) : Dict.set d k v = d := by
  induction d with
  | nil => cases h
  | cons entry d ih =>
    obtain ⟨k', v'⟩ := entry
    unfold Dict.set
    by_cases hkey : k' = k
    · rw [if_pos hkey]
      have hv : v' = v := by simpa [Dict.get?, hkey] using h
      rw [hv]
    · rw [if_neg hkey, ih (by simpa [Dict.get?, hkey] using h)]

variable {key : α → κ} {rows : List α}

theorem foldl_set {d : List (κ × α)} (h : (d.map (·.1) ++ rows.map key).Nodup) :
    rows.foldl (fun d row => Dict.set d (key row) row) d = d ++ rows.map fun row => (key row, row) := by
  induction rows generalizing d with
  | nil => exact (List.append_nil d).symm
  | cons row rows ih =>
    rw [List.map_cons, List.append_cons] at h
    have hnew : key row ∉ d.map (·.1) := by
      have hdisjoint := List.nodup_append.mp h.of_append_left
      exact fun hmem => hdisjoint.2.2 _ hmem _ List.mem_cons_self rfl
    rw [List.foldl_cons, Dict.set_new hnew, ih (by rwa [List.map_append]), List.map_cons, List.append_cons]
    simp only [List.append_assoc, List.cons_append, List.nil_append]

/-- Rows under keys of their own are all kept, in order. -/
theorem dictOf_eq (h : (rows.map key).Nodup) : dictOf key rows = rows.map fun row => (key row, row) :=
  foldl_set (d := []) h

theorem Dict.get?_dictOf (h : (rows.map key).Nodup) (k : κ) : Dict.get? (dictOf key rows) k = rows.find? (key · = k) := by
  rw [dictOf_eq h]
  unfold Dict.get?
  rw [List.find?_map, Option.map_map]
  exact Option.map_id' 

/-! ### The last row of a key -/

def lastOf (key : α → κ) (rows : List α) (k : κ) : Option α :=
  rows.reverse.find? (key · = k)

theorem lastOf_some {k : κ} {row : α} (h : lastOf key rows k = some row) : row ∈ rows ∧ key row = k :=
  ⟨List.mem_reverse.mp (List.mem_of_find?_eq_some h), by simpa using List.find?_some h⟩

theorem lastOf_isSome {k : κ} : (lastOf key rows k).isSome = true ↔ k ∈ rows.map key := by
  simp [lastOf]

theorem exists_last {k : κ} (h : k ∈ rows.map key) : ∃ row, lastOf key rows k = some row :=
  Option.isSome_iff_exists.mp (lastOf_isSome.mpr h)

theorem mem_keys {k : κ} {row : α} (h : lastOf key rows k = some row) : k ∈ rows.map key :=
  lastOf_isSome.mp (Option.isSome_of_eq_some h)

/-- A key of one row reads it. -/
theorem lastOf_of_mem (h : (rows.map key).Nodup) {row : α} (hrow : row ∈ rows) :
    lastOf key rows (key row) = some row := by
  obtain ⟨found, hfound⟩ := exists_last (List.mem_map_of_mem (f := key) hrow)
  obtain ⟨hmem, hkey⟩ := lastOf_some hfound
  rw [hfound, List.inj_on_of_nodup_map h hmem hrow hkey]

theorem Dict.get?_set (d : List (κ × α)) (k other : κ) (v : α) :
    Dict.get? (Dict.set d k v) other = if other = k then some v else Dict.get? d other := by
  induction d with
  | nil =>
    by_cases h : k = other
    · simp [Dict.set, Dict.get?, h]
    · simp [Dict.set, Dict.get?, h, Ne.symm h]
  | cons entry d ih =>
    obtain ⟨k', v'⟩ := entry
    unfold Dict.set
    by_cases hkey : k' = k
    · rw [if_pos hkey]
      by_cases h : k' = other
      · simp [Dict.get?, h, ← hkey]
      · simp [Dict.get?, h, ← hkey, Ne.symm h]
    · rw [if_neg hkey]
      by_cases h : k' = other
      · simp [Dict.get?, h, h ▸ hkey]
      · have hskip : ∀ tail : List (κ × α), Dict.get? ((k', v') :: tail) other = Dict.get? tail other := by
          intro tail
          simp [Dict.get?, h]
        rw [hskip, hskip, ih]

theorem Dict.keys_set (d : List (κ × α)) (k : κ) (v : α) :
    (Dict.set d k v).map (·.1) = if k ∈ d.map (·.1) then d.map (·.1) else d.map (·.1) ++ [k] := by
  induction d with
  | nil => rfl
  | cons entry d ih =>
    obtain ⟨k', v'⟩ := entry
    unfold Dict.set
    by_cases hkey : k' = k
    · simp [hkey]
    · rw [if_neg hkey, List.map_cons, ih, List.map_cons]
      by_cases hmem : k ∈ d.map (·.1)
      · rw [if_pos hmem, if_pos (List.mem_cons_of_mem _ hmem)]
      · rw [if_neg hmem, if_neg (List.not_mem_cons_of_ne_of_not_mem (Ne.symm hkey) hmem), List.cons_append]

theorem Dict.nodup_set {d : List (κ × α)} (h : (d.map (·.1)).Nodup) (k : κ) (v : α) :
    ((Dict.set d k v).map (·.1)).Nodup := by
  rw [Dict.keys_set]
  split
  · exact h
  · rename_i hnew
    exact List.nodup_append.mpr ⟨h, List.nodup_singleton k, fun a ha b hb heq =>
      hnew (List.mem_singleton.mp hb ▸ heq ▸ ha)⟩

theorem nodup_foldl_set {d : List (κ × α)} (h : (d.map (·.1)).Nodup) (rows : List α) :
    ((rows.foldl (fun d row => Dict.set d (key row) row) d).map (·.1)).Nodup := by
  induction rows generalizing d with
  | nil => exact h
  | cons row rows ih => exact ih (Dict.nodup_set h _ _)

theorem nodup_dictOf (key : α → κ) (rows : List α) : ((dictOf key rows).map (·.1)).Nodup :=
  nodup_foldl_set (d := []) List.nodup_nil rows

theorem get?_foldl_set (d : List (κ × α)) (rows : List α) (k : κ) :
    Dict.get? (rows.foldl (fun d row => Dict.set d (key row) row) d) k =
      (lastOf key rows k).or (Dict.get? d k) := by
  unfold lastOf
  induction rows generalizing d with
  | nil => rfl
  | cons row rows ih =>
    rw [List.foldl_cons, ih, Dict.get?_set, List.reverse_cons, List.find?_append, Option.or_assoc]
    congr 1
    by_cases h : key row = k
    · simp [h]
    · simp [h, Ne.symm h]

/-- A key reads its last row. -/
theorem Dict.get?_dictOf_last (rows : List α) (k : κ) : Dict.get? (dictOf key rows) k = lastOf key rows k := by
  unfold dictOf
  rw [get?_foldl_set]
  exact Option.or_none

theorem Dict.get?_of_mem {d : List (κ × α)} (hkeys : (d.map (·.1)).Nodup) {k : κ} {v : α} (h : (k, v) ∈ d) :
    Dict.get? d k = some v := by
  cases hget : Dict.get? d k with
  | none => exact absurd (List.mem_map.mpr ⟨_, h, rfl⟩) (Dict.get?_eq_none.mp hget)
  | some v' =>
    have heq := List.inj_on_of_nodup_map hkeys (Dict.mem_of_get? hget) h rfl
    cases heq
    rfl

/-- The entries of a dictionary are the last rows of its keys. -/
theorem mem_dictOf {rows : List α} {k : κ} {row : α} :
    (k, row) ∈ dictOf key rows ↔ lastOf key rows k = some row := by
  rw [← Dict.get?_dictOf_last]
  exact ⟨Dict.get?_of_mem (nodup_dictOf key rows), Dict.mem_of_get?⟩

end AutoTrader.Runtime
