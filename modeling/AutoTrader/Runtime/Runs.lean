import Mathlib.Data.List.Basic

/-! Runs of a deterministic step function over a schedule of events. Conditions on a
run are conditions on each event in the state it happens in. -/

namespace AutoTrader.Runtime

variable {State Event : Type}

def runFrom (step : State → Event → State) (s : State) (events : List Event) : State :=
  events.foldl step s

/-- Every event of the run meets the condition in the state it happens in. -/
def RunMeets (step : State → Event → State) (condition : State → Event → Prop) :
    State → List Event → Prop
  | _, [] => True
  | s, e :: events => condition s e ∧ RunMeets step condition (step s e) events

variable {step : State → Event → State} {condition : State → Event → Prop}

@[simp] theorem runFrom_nil (s : State) : runFrom step s [] = s := rfl

@[simp] theorem runFrom_cons (s : State) (e : Event) (events : List Event) :
    runFrom step s (e :: events) = runFrom step (step s e) events := rfl

theorem runFrom_append (s : State) (xs ys : List Event) :
    runFrom step s (xs ++ ys) = runFrom step (runFrom step s xs) ys :=
  List.foldl_append

instance decidableRunMeets [∀ s e, Decidable (condition s e)] :
    (s : State) → (events : List Event) → Decidable (RunMeets step condition s events)
  | _, [] => inferInstanceAs (Decidable True)
  | s, e :: events =>
    have := decidableRunMeets (step s e) events
    inferInstanceAs (Decidable (condition s e ∧ RunMeets step condition (step s e) events))

theorem RunMeets.append_right {s : State} {xs ys : List Event}
    (h : RunMeets step condition s (xs ++ ys)) :
    RunMeets step condition (runFrom step s xs) ys := by
  induction xs generalizing s with
  | nil => exact h
  | cons e xs ih => exact ih h.2

theorem RunMeets.append_left {s : State} {xs ys : List Event}
    (h : RunMeets step condition s (xs ++ ys)) : RunMeets step condition s xs := by
  induction xs generalizing s with
  | nil => trivial
  | cons e xs ih => exact ⟨h.1, ih h.2⟩

theorem RunMeets.append {s : State} {xs ys : List Event} (hxs : RunMeets step condition s xs)
    (hys : RunMeets step condition (runFrom step s xs) ys) : RunMeets step condition s (xs ++ ys) := by
  induction xs generalizing s with
  | nil => exact hys
  | cons e xs ih => exact ⟨hxs.1, ih hxs.2 hys⟩

theorem runMeets_append {s : State} {xs ys : List Event} :
    RunMeets step condition s (xs ++ ys) ↔
      RunMeets step condition s xs ∧ RunMeets step condition (runFrom step s xs) ys :=
  ⟨fun h => ⟨h.append_left, h.append_right⟩, fun h => h.1.append h.2⟩

theorem RunMeets.mono {weaker : State → Event → Prop} (h : ∀ s e, condition s e → weaker s e) {s : State}
    {events : List Event} (hmeets : RunMeets step condition s events) : RunMeets step weaker s events := by
  induction events generalizing s with
  | nil => trivial
  | cons e events ih => exact ⟨h s e hmeets.1, ih hmeets.2⟩

/-- What every step under the condition preserves holds after every run under it. -/
theorem run_invariant {I : State → Prop} (hstep : ∀ s e, I s → condition s e → I (step s e))
    {s : State} {events : List Event} (hs : I s) (hmeets : RunMeets step condition s events) :
    I (runFrom step s events) := by
  induction events generalizing s with
  | nil => exact hs
  | cons e events ih =>
    rw [runFrom_cons]
    exact ih (hstep s e hs hmeets.1) hmeets.2

/-- A relation to the starting state that every step under the condition extends. -/
theorem run_relates {R : State → State → Prop} {I : State → Prop} (hrefl : ∀ s, R s s)
    (htrans : ∀ a b c, R a b → R b c → R a c) (hI : ∀ s e, I s → condition s e → I (step s e))
    (hR : ∀ s e, I s → condition s e → R s (step s e)) {s : State} {events : List Event}
    (hs : I s) (hmeets : RunMeets step condition s events) : R s (runFrom step s events) := by
  induction events generalizing s with
  | nil => exact hrefl s
  | cons e events ih =>
    exact htrans _ _ _ (hR s e hs hmeets.1) (ih (hI s e hs hmeets.1) hmeets.2)

end AutoTrader.Runtime
