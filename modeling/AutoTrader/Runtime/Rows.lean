import Mathlib.Algebra.BigOperators.Group.List.Basic
import Mathlib.Data.List.Nodup
import Mathlib.Tactic.Abel

/-! Tables as lists of rows under a key: what reading a key gives after an update of the
rows under one key, and after a row was added. -/

namespace AutoTrader.Runtime.Rows

variable {Row Key : Type} [DecidableEq Key] (key : Row → Key)

def lookup (rows : List Row) (k : Key) : Option Row :=
  rows.find? fun row => key row = k

def update (rows : List Row) (k : Key) (values : Row → Row) : List Row :=
  rows.map fun row => if key row = k then values row else row

variable {key}

theorem lookup_key {rows : List Row} {k : Key} {row : Row} (h : lookup key rows k = some row) :
    key row = k := by
  simpa [lookup] using List.find?_some h

theorem lookup_update {values : Row → Row} (hvalues : ∀ row, key (values row) = key row)
    (rows : List Row) (k other : Key) :
    lookup key (update key rows k values) other =
      (lookup key rows other).map fun row => if other = k then values row else row := by
  unfold lookup update
  induction rows with
  | nil => rfl
  | cons row rows ih =>
    by_cases hrow : key row = k
    · by_cases hother : other = k
      · simp [hrow, hother, hvalues]
      · have hne : k ≠ other := fun h => hother h.symm
        simp [hrow, hother, hvalues, hne, ih]
    · by_cases hother : key row = other
      · have hne : other ≠ k := fun h => hrow (hother.trans h)
        simp [hother, hne]
      · simp [hrow, hother, ih]

/-- A row written over the rows of its key. -/
theorem lookup_put (rows : List Row) (new : Row) (other : Key) :
    lookup key (update key rows (key new) fun _ => new) other =
      (lookup key rows other).map fun row => if other = key new then new else row := by
  have hsame : (update key rows (key new) fun _ => new) =
      update key rows (key new) fun row => if key row = key new then new else row := by
    refine List.map_congr_left fun row _ => ?_
    by_cases hrow : key row = key new <;> simp [hrow]
  have hvalues : ∀ row, key (if key row = key new then new else row) = key row := by
    intro row
    split
    · rename_i hrow
      exact hrow.symm
    · rfl
  rw [hsame, lookup_update hvalues]
  cases hfound : lookup key rows other with
  | none => rfl
  | some row =>
    rw [Option.map_some, Option.map_some, lookup_key hfound]
    by_cases hother : other = key new <;> simp [hother]

/-- The first row with a property that the update leaves to every row. -/
theorem find?_update {rows : List Row} {k : Key} {values : Row → Row} {chosen : Row → Bool}
    (hvalues : ∀ row ∈ rows, key row = k → chosen (values row) = chosen row) :
    (update key rows k values).find? chosen =
      (rows.find? chosen).map fun row => if key row = k then values row else row := by
  unfold update
  induction rows with
  | nil => rfl
  | cons row rows ih =>
    have hrest := ih fun other hother => hvalues other (List.mem_cons_of_mem row hother)
    have hrow : chosen (if key row = k then values row else row) = chosen row := by
      split
      · rename_i hkey
        exact hvalues row List.mem_cons_self hkey
      · rfl
    rw [List.map_cons, List.find?_cons, List.find?_cons, hrow, hrest]
    cases chosen row <;> rfl

theorem lookup_eq_none {rows : List Row} {k : Key} :
    lookup key rows k = none ↔ ∀ row ∈ rows, key row ≠ k := by
  simp [lookup, List.find?_eq_none]

theorem lookup_add {rows : List Row} {row : Row} (habsent : lookup key rows (key row) = none) (other : Key) :
    lookup key (rows ++ [row]) other = if other = key row then some row else lookup key rows other := by
  unfold lookup at habsent ⊢
  rw [List.find?_append]
  by_cases hother : other = key row
  · simp [hother, habsent]
  · have hne : key row ≠ other := fun h => hother h.symm
    simp [hother, hne]

theorem mem_update {rows : List Row} {k : Key} {values : Row → Row} {row : Row} :
    row ∈ update key rows k values ↔ ∃ old ∈ rows, row = if key old = k then values old else old := by
  simp only [update, List.mem_map, eq_comm]

/-- A column the update leaves alone reads the same after it. -/
theorem map_update {β : Type} {column : Row → β} {values : Row → Row}
    (hvalues : ∀ row, column (values row) = column row) (rows : List Row) (k : Key) :
    (update key rows k values).map column = rows.map column := by
  unfold update
  rw [List.map_map]
  refine List.map_congr_left fun row _ => ?_
  by_cases hrow : key row = k <;> simp [hrow, hvalues]

/-- So does a column of the rows chosen by columns it leaves alone. -/
theorem map_filter_update {β : Type} {column : Row → β} {chosen : Row → Bool} {values : Row → Row}
    (hchosen : ∀ row, chosen (values row) = chosen row)
    (hvalues : ∀ row, column (values row) = column row) (rows : List Row) (k : Key) :
    ((update key rows k values).filter chosen).map column = (rows.filter chosen).map column := by
  unfold update
  induction rows with
  | nil => rfl
  | cons row rows ih =>
    by_cases hrow : key row = k <;> by_cases hrest : chosen row = true <;>
      simp_all

/-- Keys used once find the row that has them. -/
theorem lookup_of_mem {rows : List Row} {row : Row} (hkeys : (rows.map key).Nodup) (hrow : row ∈ rows) :
    lookup key rows (key row) = some row := by
  cases hfound : lookup key rows (key row) with
  | none => exact absurd rfl (lookup_eq_none.mp hfound row hrow)
  | some found =>
    rw [List.inj_on_of_nodup_map hkeys (List.mem_of_find?_eq_some hfound) hrow (lookup_key hfound)]

/-- A row that keeps its key leaves the keys as they were. -/
theorem keys_update {k : Key} {new : Row} (hnew : key new = k) (rows : List Row) :
    (update key rows k fun _ => new).map key = rows.map key := by
  unfold update
  rw [List.map_map]
  refine List.map_congr_left fun row _ => ?_
  by_cases hrow : key row = k <;> simp [hrow, hnew]

/-- Writing one row moves a sum over the rows by what that row moves. -/
theorem sum_update {M : Type} [AddCommGroup M] {rows : List Row} {k : Key} {row : Row}
    (hkeys : (rows.map key).Nodup) (hfound : lookup key rows k = some row) (new : Row) (f : Row → M) :
    ((update key rows k fun _ => new).map f).sum = (rows.map f).sum + (f new - f row) := by
  induction rows with
  | nil => cases hfound
  | cons head rows ih =>
    rw [List.map_cons, List.nodup_cons] at hkeys
    by_cases hhead : key head = k
    · have hrow : head = row := by simpa [lookup, hhead] using hfound
      have hrest : update key rows k (fun _ => new) = rows := by
        refine (List.map_congr_left fun other hother => if_neg fun heq => ?_).trans (List.map_id _)
        exact hkeys.1 (List.mem_map.mpr ⟨other, hother, heq.trans hhead.symm⟩)
      have hcons : update key (head :: rows) k (fun _ => new) = new :: update key rows k fun _ => new := by
        simp [update, hhead]
      rw [hcons, hrest, ← hrow]
      simp only [List.map_cons, List.sum_cons]
      abel
    · have hrest : lookup key rows k = some row := by simpa [lookup, hhead] using hfound
      have hcons : update key (head :: rows) k (fun _ => new) = head :: update key rows k fun _ => new := by
        simp [update, hhead]
      rw [hcons]
      simp only [List.map_cons, List.sum_cons]
      rw [ih hkeys.2 hrest]
      abel

end AutoTrader.Runtime.Rows
