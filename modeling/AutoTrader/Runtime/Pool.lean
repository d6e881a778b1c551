import AutoTrader.Runtime.Program
import AutoTrader.Runtime.Runs
import Mathlib.Algebra.GroupWithZero.Nat
import Mathlib.Data.List.Forall2

/-! A pool of threads over one shared world. A call starts a thread, a thread advances by
one answered operation at a time, in any order, and a crash ends all of them. A thread
keeps its index for ever, so an index names one call. -/

namespace AutoTrader.Runtime

variable {E Op Phase World Call Choice : Type} {Result : Op → Type}

/-- `answer` is told which thread asks, and is `none` when the choice does not fit the
operation in this world. -/
structure Pool (E Op : Type) (Result : Op → Type) (World Call Choice : Type) where
  body : Call → Program E Op Result Unit
  answer : World → Nat → (o : Op) → Choice → Option (World × Except E (Result o))

namespace Pool

inductive Event (Call Choice : Type)
  | call (c : Call)
  | answer (thread : Nat) (choice : Choice)
  | crash

structure Config (E Op : Type) (Result : Op → Type) (World : Type) where
  world : World
  threads : List (Program E Op Result Unit)

variable (M : Pool E Op Result World Call Choice)

/-- Events that do not fit the configuration change nothing. -/
def step (c : Config E Op Result World) : Event Call Choice → Config E Op Result World
  | .call k => { c with threads := c.threads ++ [M.body k] }
  | .answer i choice =>
    match c.threads[i]? with
    | some (.perform o next) =>
      match M.answer c.world i o choice with
      | some (w, r) => { world := w, threads := c.threads.set i (next r) }
      | none => c
    | _ => c
  | .crash => { c with threads := c.threads.map fun _ => .done () }

/-- The operation a thread waits for. -/
def Config.operation? (c : Config E Op Result World) (i : Nat) : Option Op :=
  match c.threads[i]? with
  | some (.perform o _) => some o
  | _ => none

/-- Only an answered operation changes the world, to what its answer says. -/
theorem step_world (c : Config E Op Result World) (e : Event Call Choice) :
    (M.step c e).world = c.world ∨ ∃ i choice o r, e = .answer i choice ∧ c.operation? i = some o ∧
      M.answer c.world i o choice = some ((M.step c e).world, r) := by
  cases e with
  | call k => exact .inl rfl
  | crash => exact .inl rfl
  | answer i choice =>
    simp only [step]
    split
    · rename_i o next hthread
      split
      · rename_i w r hanswer
        exact .inr ⟨i, choice, o, r, rfl, by simp [Config.operation?, hthread], hanswer⟩
      · exact .inl rfl
    · exact .inl rfl

/-- Only a call adds a thread. -/
def Event.threads : Event Call Choice → Nat
  | .call _ => 1
  | _ => 0

theorem step_threads (c : Config E Op Result World) (e : Event Call Choice) :
    (M.step c e).threads.length = c.threads.length + e.threads := by
  cases e with
  | call k => exact List.length_append
  | crash => exact List.length_map _
  | answer i choice =>
    simp only [step]
    split
    · split
      · exact List.length_set
      · rfl
    · rfl

theorem run_threads (c : Config E Op Result World) (events : List (Event Call Choice)) :
    (runFrom M.step c events).threads.length = c.threads.length + (events.map Event.threads).sum := by
  induction events generalizing c with
  | nil => rfl
  | cons e events ih =>
    rw [runFrom_cons, ih, step_threads, List.map_cons, List.sum_cons, Nat.add_assoc]

section Follows

variable (P : Protocol E Op Result Phase) (fits : World → List Phase → Prop) (start : Phase)

/-- Each thread follows the protocol from a phase of its own, and the phases of all
threads together fit the world. -/
def Follows (c : Config E Op Result World) : Prop :=
  ∃ phases : List Phase, fits c.world phases ∧
    List.Forall₂ (fun s p => p.Obeys P (fun _ _ => True) s) phases c.threads

/-- The obligations that make a protocol and its fit with the world an invariant of
all runs. Every thread starts in the same phase. -/
structure Sound : Prop where
  body : ∀ k, (M.body k).Obeys P (fun _ _ => True) start
  call : ∀ (w : World) (phases : List Phase), fits w phases → fits w (phases ++ [start])
  answer : ∀ (w : World) (phases : List Phase) (i : Nat) (s : Phase) (o : Op) (choice : Choice)
    (w' : World) (r : Except E (Result o)), fits w phases → phases[i]? = some s → P.allows s o →
    M.answer w i o choice = some (w', r) → ∃ s', P.moves s o r s' ∧ fits w' (phases.set i s')

variable {M P fits start}

private theorem phase_of_thread {α β : Type} {R : α → β → Prop} {l : List α} {m : List β}
    (h : List.Forall₂ R l m) {i : Nat} {b : β} (hb : m[i]? = some b) :
    ∃ a, l[i]? = some a ∧ R a b := by
  induction h generalizing i with
  | nil => simp at hb
  | cons hhead _ ih =>
    cases i with
    | zero =>
      simp only [List.getElem?_cons_zero, Option.some.injEq] at hb
      exact ⟨_, rfl, hb ▸ hhead⟩
    | succ i => exact ih hb

private theorem forall₂_set {α β : Type} {R : α → β → Prop} {l : List α} {m : List β}
    (h : List.Forall₂ R l m) {i : Nat} {a : α} {b : β} (hab : R a b) :
    List.Forall₂ R (l.set i a) (m.set i b) := by
  induction h generalizing i with
  | nil => exact .nil
  | cons hhead htail ih =>
    cases i with
    | zero => exact .cons hab htail
    | succ i => exact .cons hhead ih

private theorem forall₂_done {phases : List Phase} {threads : List (Program E Op Result Unit)}
    (h : List.Forall₂ (fun s p => p.Obeys P (fun _ _ => True) s) phases threads) :
    List.Forall₂ (fun s p => p.Obeys P (fun _ _ => True) s) phases
      (threads.map fun _ => (.done () : Program E Op Result Unit)) := by
  induction h with
  | nil => exact .nil
  | cons _ _ ih => exact .cons trivial ih

theorem Sound.step (h : M.Sound P fits start) (c : Config E Op Result World)
    (e : Event Call Choice) (hc : Follows P fits c) : Follows P fits (M.step c e) := by
  obtain ⟨phases, hfits, hobeys⟩ := hc
  cases e with
  | call k =>
    refine ⟨phases ++ [start], h.call c.world phases hfits, ?_⟩
    exact List.rel_append hobeys (.cons (h.body k) .nil)
  | answer i choice =>
    simp only [Pool.step]
    split
    · rename_i o next hthread
      split
      · rename_i w r hanswer
        obtain ⟨s, hs, hallows, hnext⟩ := phase_of_thread hobeys hthread
        obtain ⟨s', hmove, hfits'⟩ := h.answer c.world phases i s o choice w r hfits hs hallows hanswer
        exact ⟨phases.set i s', hfits', forall₂_set hobeys (hnext r s' hmove)⟩
      · exact ⟨phases, hfits, hobeys⟩
    · exact ⟨phases, hfits, hobeys⟩
  | crash => exact ⟨phases, hfits, forall₂_done hobeys⟩

theorem Sound.run (h : M.Sound P fits start) {c : Config E Op Result World} (hc : Follows P fits c)
    (events : List (Event Call Choice)) : Follows P fits (runFrom M.step c events) := by
  induction events generalizing c with
  | nil => exact hc
  | cons e events ih =>
    rw [runFrom_cons]
    exact ih (h.step c e hc)

end Follows

end Pool

end AutoTrader.Runtime
