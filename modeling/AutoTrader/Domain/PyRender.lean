import AutoTrader.Domain.PyJsonText

/-! Renderings of values as documents without numbers. A rendering tells values apart by a key, and can be encoded
where the texts in it can; both pass through optional values and lists. -/

namespace AutoTrader.Domain.PyJson

variable {α κ : Type}

/-- The documents of two values are the same, up to the order of keys, exactly when the keys of the values are, and a
document can be encoded exactly when its value is clean. -/
structure Renders (tree : α → PyJson) (key : α → κ) (clean : α → Prop) : Prop where
  plain : ∀ x, (tree x).Plain
  eq_iff : ∀ x y, (tree x).sortKeys = (tree y).sortKeys ↔ key x = key y
  encodable_iff : ∀ x, (tree x).Encodable ↔ clean x

/-- `None`, or a value. -/
def optional (tree : α → PyJson) : Option α → PyJson
  | none => .null
  | some x => tree x

def tuple (tree : α → PyJson) (xs : List α) : PyJson := .arr (xs.map tree)

theorem Renders.text : Renders PyJson.str id Scalar where
  plain := .str
  eq_iff x y := by rw [sortKeys_str, sortKeys_str, str.injEq, id, id]
  encodable_iff := encodable_str

theorem Renders.bool : Renders PyJson.bool id fun _ => True where
  plain := .bool
  eq_iff x y := by rw [sortKeys, sortKeys, bool.injEq, id, id]
  encodable_iff x := iff_true_intro (encodable_bool x)

/-- Values that are written as a string. -/
theorem Renders.written {write : α → String} {key : α → κ} (h : ∀ x y, write x = write y ↔ key x = key y) :
    Renders (fun x => .str (PyText.points (write x))) key fun _ => True where
  plain x := .str _
  eq_iff x y := by rw [sortKeys_str, sortKeys_str, str.injEq, PyText.points_injective.eq_iff, h]
  encodable_iff x := iff_true_intro ((encodable_str _).mpr (scalar_points _))

theorem Renders.injective {write : α → String} (h : Function.Injective write) :
    Renders (fun x => .str (PyText.points (write x))) id fun _ => True :=
  .written fun x y => h.eq_iff (a := x) (b := y)

variable {tree : α → PyJson} {key : α → κ} {clean : α → Prop}

theorem Renders.optional (h : Renders tree key clean) (hnull : ∀ x, (tree x).sortKeys ≠ .null) :
    Renders (PyJson.optional tree) (Option.map key) fun x => ∀ y ∈ x, clean y where
  plain x := by
    cases x with
    | none => exact .null
    | some x => exact h.plain x
  eq_iff x y := by
    have hnone : sortKeys .null = .null := by rw [sortKeys]
    cases x with
    | none =>
      cases y with
      | none => exact iff_of_true rfl rfl
      | some y => exact iff_of_false (fun heq => hnull y (heq.symm.trans hnone)) (Option.some_ne_none _).symm
    | some x =>
      cases y with
      | none => exact iff_of_false (fun heq => hnull x (heq.trans hnone)) (Option.some_ne_none _)
      | some y => rw [PyJson.optional, PyJson.optional, h.eq_iff, Option.map_some, Option.map_some, Option.some.injEq]
  encodable_iff x := by
    cases x with
    | none =>
      refine iff_of_true encodable_null fun _ hnone => ?_
      cases hnone
    | some x => simp [PyJson.optional, h.encodable_iff]

theorem Renders.tuple (h : Renders tree key clean) :
    Renders (PyJson.tuple tree) (List.map key) fun xs => ∀ x ∈ xs, clean x where
  plain xs := .arr (List.forall_mem_map.mpr fun x _ => h.plain x)
  eq_iff xs ys := by
    rw [PyJson.tuple, PyJson.tuple, sortKeys_arr, sortKeys_arr, arr.injEq, List.map_map, List.map_map]
    induction xs generalizing ys with
    | nil => cases ys <;> simp
    | cons x xs ih =>
      cases ys with
      | nil => simp
      | cons y ys =>
        simp only [List.map_cons, List.cons.injEq, Function.comp_apply, h.eq_iff]
        rw [ih ys]
  encodable_iff xs := by
    rw [PyJson.tuple, encodable_arr, List.forall_mem_map]
    exact forall₂_congr fun x _ => h.encodable_iff x

end AutoTrader.Domain.PyJson
