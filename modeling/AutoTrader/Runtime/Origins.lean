import AutoTrader.Runtime.Runs
import Mathlib.Data.List.Induction

/-! Where what holds at the end of a run comes from: the last event that began it, with nothing after it that would
have ended it. -/

namespace AutoTrader.Runtime

variable {State Event : Type} {step : State → Event → State} {P I : State → Prop}
  {begins begins' ends condition : State → Event → Prop} {s : State} {events : List Event}

/-- Begun by an event of the run, in the state it happened in, and ended by none after it. -/
def Begun (step : State → Event → State) (begins ends : State → Event → Prop) (s : State) (events : List Event) : Prop :=
  ∃ before event after, events = before ++ event :: after ∧ begins (runFrom step s before) event ∧
    RunMeets step (fun s e => ¬ends s e) (step (runFrom step s before) event) after

theorem Begun.imp (h : ∀ s e, begins s e → begins' s e) (hbegun : Begun step begins ends s events) :
    Begun step begins' ends s events := by
  obtain ⟨before, event, after, hevents, hbegins, hafter⟩ := hbegun
  exact ⟨before, event, after, hevents, h _ _ hbegins, hafter⟩

theorem runFrom_split (s : State) (before : List Event) (event : Event) (after : List Event) :
    runFrom step s (before ++ event :: after) = runFrom step (step (runFrom step s before) event) after := by
  rw [runFrom_append, runFrom_cons]

/-- Where a step makes the property hold only by beginning it or by not ending it, a run ends with it only if it began
within the run. The steps may be asked to keep an invariant and to meet a condition. -/
theorem begun_within (hinv : ∀ s e, I s → condition s e → I (step s e))
    (hstep : ∀ s e, I s → condition s e → P (step s e) → begins s e ∨ P s ∧ ¬ends s e) (hI : I s) (hs : ¬P s)
    (hmeets : RunMeets step condition s events) (h : P (runFrom step s events)) : Begun step begins ends s events := by
  induction events using List.reverseRecOn with
  | nil => exact absurd h hs
  | append_singleton events e ih =>
    obtain ⟨hlead, hlast⟩ := runMeets_append.mp hmeets
    rw [runFrom_append] at h
    rcases hstep _ e (run_invariant hinv hI hlead) hlast.1 h with hbegins | ⟨hold, hends⟩
    · exact ⟨events, e, [], rfl, hbegins, trivial⟩
    · obtain ⟨before, event, after, rfl, hbegins, hafter⟩ := ih hlead hold
      refine ⟨before, event, after ++ [e], by rw [List.append_assoc, List.cons_append], hbegins,
        hafter.append ⟨?_, trivial⟩⟩
      rwa [← runFrom_split]

theorem runMeets_of_forall (h : ∀ s e, condition s e) (s : State) (events : List Event) :
    RunMeets step condition s events := by
  induction events generalizing s with
  | nil => trivial
  | cons e events ih => exact ⟨h s e, ih _⟩

theorem begun_of_run (hstep : ∀ s e, P (step s e) → begins s e ∨ P s ∧ ¬ends s e) (hs : ¬P s)
    (h : P (runFrom step s events)) : Begun step begins ends s events :=
  begun_within (I := fun _ => True) (fun _ _ _ (_ : True) => trivial) (fun s e _ _ => hstep s e) trivial hs
    (runMeets_of_forall (fun _ _ => trivial) s events) h

end AutoTrader.Runtime
