import AutoTrader.Runtime.Program
import AutoTrader.Runtime.Runs

/-! One call at a time over a world with a volatile part. A call runs to its end one
answered operation after another; a crash between any two operations drops the call
and whatever the world has not made durable. -/

namespace AutoTrader.Runtime

variable {E Op Phase World Call Choice Shift : Type} {Result : Op → Type}

/-- `answer` is `none` when the choice does not fit the operation in this world. -/
structure Sequential (E Op : Type) (Result : Op → Type) (World Call Choice Shift : Type) where
  body : Call → Program E Op Result Unit
  answer : World → (o : Op) → Choice → Option (World × Except E (Result o))
  onCrash : World → World
  onShift : World → Shift → World

namespace Sequential

inductive Event (Call Choice Shift : Type)
  | call (c : Call)
  | answer (choice : Choice)
  | crash
  | shift (s : Shift)

structure Config (E Op : Type) (Result : Op → Type) (World : Type) where
  world : World
  current : Option (Program E Op Result Unit)

/-- A call that has ended leaves the machine idle. -/
def resume : Program E Op Result Unit → Option (Program E Op Result Unit)
  | .done _ => none
  | .perform o next => some (.perform o next)

variable (M : Sequential E Op Result World Call Choice Shift)

/-- Events that do not fit the configuration change nothing. -/
def step (c : Config E Op Result World) : Event Call Choice Shift → Config E Op Result World
  | .call k =>
    match c.current with
    | none => { c with current := resume (M.body k) }
    | some _ => c
  | .answer choice =>
    match c.current with
    | some (.perform o next) =>
      match M.answer c.world o choice with
      | some (w, r) => { world := w, current := resume (next r) }
      | none => c
    | _ => c
  | .crash => { world := M.onCrash c.world, current := none }
  | .shift s => { c with world := M.onShift c.world s }

section Follows

variable (P : Protocol E Op Result Phase) (fits : World → Phase → Prop) (idle : World → Prop)
  (condition : Config E Op Result World → Event Call Choice Shift → Prop)

/-- The call under way follows the protocol from a phase that fits the world, and would
end in a phase that leaves the world idle. -/
def Follows (c : Config E Op Result World) : Prop :=
  match c.current with
  | none => idle c.world
  | some p => ∃ s, fits c.world s ∧ p.Obeys P (fun s _ => P.ends s) s

/-- The obligations that make a protocol and its fit with the world an invariant of
all runs whose events meet the condition. -/
structure Sound : Prop where
  call : ∀ (w : World) (k : Call), idle w → condition ⟨w, none⟩ (.call k) →
    ∃ s, fits w s ∧ (M.body k).Obeys P (fun s _ => P.ends s) s
  answer : ∀ (w : World) (s : Phase) (o : Op) (next) (choice : Choice) (w' : World)
    (r : Except E (Result o)), fits w s → P.allows s o →
    condition ⟨w, some (.perform o next)⟩ (.answer choice) → M.answer w o choice = some (w', r) →
    ∃ s', P.moves s o r s' ∧ fits w' s'
  ended : ∀ (w : World) (s : Phase), fits w s → P.ends s → idle w
  crash : ∀ c : Config E Op Result World, idle c.world ∨ (∃ s, fits c.world s) →
    condition c .crash → idle (M.onCrash c.world)
  shift_idle : ∀ (w : World) (x : Shift), idle w → idle (M.onShift w x)
  shift_fits : ∀ (w : World) (x : Shift) (s : Phase), fits w s → fits (M.onShift w x) s

variable {M P fits idle condition}

theorem Follows.idle_or_fits {c : Config E Op Result World} (h : Follows P fits idle c) :
    idle c.world ∨ ∃ s, fits c.world s := by
  unfold Follows at h
  split at h
  · exact .inl h
  · obtain ⟨s, hs, -⟩ := h
    exact .inr ⟨s, hs⟩

theorem Sound.resume (h : M.Sound P fits idle condition) {w : World} {s : Phase}
    {p : Program E Op Result Unit} (hs : fits w s) (hp : p.Obeys P (fun s _ => P.ends s) s) :
    Follows P fits idle ⟨w, Sequential.resume p⟩ := by
  cases p with
  | done a => exact h.ended w s hs hp
  | perform o next => exact ⟨s, hs, hp⟩

theorem Sound.step (h : M.Sound P fits idle condition) (c : Config E Op Result World)
    (e : Event Call Choice Shift) (hc : Follows P fits idle c) (he : condition c e) :
    Follows P fits idle (M.step c e) := by
  obtain ⟨w, current⟩ := c
  cases e with
  | call k =>
    cases current with
    | none =>
      obtain ⟨s, hs, hbody⟩ := h.call w k hc he
      exact h.resume hs hbody
    | some p => exact hc
  | answer choice =>
    rcases current with _ | ⟨a⟩ | ⟨o, next⟩
    · exact hc
    · exact hc
    · obtain ⟨s, hs, hallows, hnext⟩ := hc
      simp only [Sequential.step]
      split
      · rename_i w' r hanswer
        obtain ⟨s', hmove, hs'⟩ := h.answer w s o next choice w' r hs hallows he hanswer
        exact h.resume hs' (hnext r s' hmove)
      · exact ⟨s, hs, hallows, hnext⟩
  | crash => exact h.crash ⟨w, current⟩ hc.idle_or_fits he
  | shift x =>
    cases current with
    | none => exact h.shift_idle w x hc
    | some p =>
      obtain ⟨s, hs, hp⟩ := hc
      exact ⟨s, h.shift_fits w x s hs, hp⟩

theorem Sound.run (h : M.Sound P fits idle condition) {c : Config E Op Result World}
    {events : List (Event Call Choice Shift)} (hc : Follows P fits idle c)
    (hmeets : RunMeets M.step condition c events) :
    Follows P fits idle (runFrom M.step c events) :=
  run_invariant h.step hc hmeets

end Follows

end Sequential

end AutoTrader.Runtime
