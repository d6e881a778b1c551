import AutoTrader.Domain.Basic
import Mathlib.Data.List.Forall2

/-! Lists of equal length that are related place by place. -/

namespace AutoTrader.Runtime

open AutoTrader.Domain

/-- A loop that raises nowhere returns the results in the order of its list. -/
theorem forall₂_of_mapM_ok {ε α β : Type} {f : α → Except ε β} {xs : List α} {ys : List β}
    (h : xs.mapM f = .ok ys) : List.Forall₂ (fun x y => f x = .ok y) xs ys := by
  induction xs generalizing ys with
  | nil =>
    cases h
    exact .nil
  | cons x xs ih =>
    rw [List.mapM_cons] at h
    obtain ⟨y, hy, h⟩ := bind_ok.mp h
    obtain ⟨rest, hrest, h⟩ := bind_ok.mp h
    cases h
    exact .cons hy (ih hrest)

/-- In a loop that raises nowhere every element has a result. -/
theorem exists_of_mapM_ok {ε α β : Type} {f : α → Except ε β} {xs : List α} {ys : List β}
    (h : xs.mapM f = .ok ys) {x : α} (hx : x ∈ xs) : ∃ y, f x = .ok y := by
  induction xs generalizing ys with
  | nil => cases hx
  | cons first xs ih =>
    rw [List.mapM_cons] at h
    obtain ⟨y, hy, h⟩ := bind_ok.mp h
    obtain ⟨rest, hrest, -⟩ := bind_ok.mp h
    rcases List.mem_cons.mp hx with rfl | hx
    · exact ⟨y, hy⟩
    · exact ih hrest hx

/-- A loop that raises raises at one of its elements. -/
theorem mapM_error {ε α β : Type} {f : α → Except ε β} {xs : List α} {e : ε} (h : xs.mapM f = .error e) :
    ∃ x ∈ xs, f x = .error e := by
  induction xs with
  | nil => cases h
  | cons x xs ih =>
    rw [List.mapM_cons] at h
    rcases bind_error.mp h with hx | ⟨y, -, h⟩
    · exact ⟨x, List.mem_cons_self, hx⟩
    rcases bind_error.mp h with hxs | ⟨ys, -, h⟩
    · obtain ⟨other, hother, hf⟩ := ih hxs
      exact ⟨other, List.mem_cons_of_mem x hother, hf⟩
    · cases h

/-- A loop whose results are known. -/
theorem mapM_ok_map {ε α β : Type} {f : α → Except ε β} {g : α → β} {xs : List α}
    (h : ∀ x ∈ xs, f x = .ok (g x)) : xs.mapM f = .ok (xs.map g) := by
  induction xs with
  | nil => rfl
  | cons x xs ih =>
    rw [List.mapM_cons, h x List.mem_cons_self, ih fun x' hx' => h x' (List.mem_cons_of_mem x hx')]
    rfl

theorem exists_of_mem_right {α β : Type} {T : α → β → Prop} {as : List α} {bs : List β} (h : List.Forall₂ T as bs)
    {b : β} (hb : b ∈ bs) : ∃ a ∈ as, T a b := by
  induction h with
  | nil => cases hb
  | cons hab _ ih =>
    rcases List.mem_cons.mp hb with rfl | hb
    · exact ⟨_, List.mem_cons_self, hab⟩
    · obtain ⟨a, ha, hab⟩ := ih hb
      exact ⟨a, List.mem_cons_of_mem _ ha, hab⟩

/-- An order of the originals is one of their images. -/
theorem pairwise_of_forall₂ {α β : Type} {R : α → α → Prop} {S : β → β → Prop} {T : α → β → Prop}
    (hstep : ∀ {a a' b b'}, T a b → T a' b' → R a a' → S b b') {as : List α} {bs : List β}
    (h : List.Forall₂ T as bs) (has : as.Pairwise R) : bs.Pairwise S := by
  induction h with
  | nil => exact List.Pairwise.nil
  | cons hab hrest ih =>
    obtain ⟨hfirst, has⟩ := List.pairwise_cons.mp has
    refine List.pairwise_cons.mpr ⟨fun b' hb' => ?_, ih has⟩
    obtain ⟨a', ha', hab'⟩ := exists_of_mem_right hrest hb'
    exact hstep hab hab' (hfirst a' ha')

/-! ### Related outcomes -/

section Outcomes

variable {ε α β γ δ : Type} {R : α → β → Prop} {R' : α → α → Prop} {S : γ → δ → Prop}

/-- Two computations raise the same exception, or return related results. -/
inductive Outcomes (R : α → β → Prop) : Except ε α → Except ε β → Prop
  | returns {a : α} {b : β} (h : R a b) : Outcomes R (.ok a) (.ok b)
  | raises (e : ε) : Outcomes R (.error e) (.error e)

theorem Outcomes.bind {x : Except ε α} {y : Except ε β} {f : α → Except ε γ} {g : β → Except ε δ} (h : Outcomes R x y)
    (hnext : ∀ a b, R a b → Outcomes S (f a) (g b)) : Outcomes S (x >>= f) (y >>= g) := by
  cases h with
  | raises e => exact .raises e
  | returns h => exact hnext _ _ h

theorem Outcomes.ok {x : Except ε α} {y : Except ε β} (h : Outcomes R x y) {a : α} (hx : x = .ok a) :
    ∃ b, y = .ok b ∧ R a b := by
  cases h with
  | raises e => cases hx
  | returns h =>
    cases hx
    exact ⟨_, rfl, h⟩

theorem Outcomes.refl (hrefl : ∀ a, R' a a) (x : Except ε α) : Outcomes R' x x := by
  cases x with
  | error e => exact .raises e
  | ok a => exact .returns (hrefl a)

/-- Loops over related lists. -/
theorem Outcomes.mapM {xs : List α} {ys : List β} {f : α → Except ε γ} {g : β → Except ε δ}
    (h : List.Forall₂ R xs ys) (hstep : ∀ a b, R a b → Outcomes S (f a) (g b)) :
    Outcomes (List.Forall₂ S) (xs.mapM f) (ys.mapM g) := by
  induction h with
  | nil => exact .returns .nil
  | cons hab _ ih =>
    rw [List.mapM_cons, List.mapM_cons]
    refine (hstep _ _ hab).bind fun c d hcd => ih.bind fun cs ds hrest => ?_
    exact .returns (.cons hcd hrest)

end Outcomes

end AutoTrader.Runtime
