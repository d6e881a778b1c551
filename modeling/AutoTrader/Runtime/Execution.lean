import AutoTrader.Runtime.Program

/-! Programs executed in a world that answers their operations one by one and changes
with each. -/

namespace AutoTrader.Runtime

variable {E Op World : Type} {Result : Op → Type} {α β : Type}

/-- The value a program ends with, and the world it leaves. -/
def Program.exec (answer : World → (o : Op) → Except E (Result o) × World) :
    World → Program E Op Result α → α × World
  | w, .done a => (a, w)
  | w, .perform o next => (next (answer w o).1).exec answer (answer w o).2

variable {answer : World → (o : Op) → Except E (Result o) × World}

theorem Program.exec_bind (w : World) (p : Program E Op Result α) (f : α → Program E Op Result β) :
    (p >>= f).exec answer w = (f (p.exec answer w).1).exec answer (p.exec answer w).2 := by
  induction p generalizing w with
  | done a => rfl
  | perform o next ih => exact ih _ _

/-- The operations a program performs, each with the answer it got. -/
def Program.trace (answer : World → (o : Op) → Except E (Result o) × World) :
    World → Program E Op Result α → List ((o : Op) × Except E (Result o))
  | _, .done _ => []
  | w, .perform o next => ⟨o, (answer w o).1⟩ :: (next (answer w o).1).trace answer (answer w o).2

theorem Program.trace_bind (w : World) (p : Program E Op Result α) (f : α → Program E Op Result β) :
    (p >>= f).trace answer w = p.trace answer w ++ (f (p.exec answer w).1).trace answer (p.exec answer w).2 := by
  induction p generalizing w with
  | done a => rfl
  | perform o next ih => exact congrArg (List.cons _) (ih _ _)

/-- What every operation of a set preserves, a program within the set preserves. -/
theorem Program.exec_preserves {ops : Op → Prop} {I : World → Prop}
    (hstep : ∀ w o, I w → ops o → I (answer w o).2) {p : Program E Op Result α} (hp : p.Within ops)
    {w : World} (hw : I w) : I (p.exec answer w).2 := by
  induction p generalizing w with
  | done a => exact hw
  | perform o next ih => exact ih _ (hp.2 _) (hstep w o hw hp.1)

namespace Action

/-- The outcome of an action, and the world it leaves. -/
def exec (answer : World → (o : Op) → Except E (Result o) × World) (w : World)
    (x : Action E Op Result α) : Except E α × World :=
  x.run.exec answer w

@[simp] theorem exec_pure (w : World) (a : α) :
    (pure a : Action E Op Result α).exec answer w = (.ok a, w) := rfl

@[simp] theorem exec_throw (w : World) (e : E) :
    (throw e : Action E Op Result α).exec answer w = (.error e, w) := rfl

@[simp] theorem exec_ofExcept (w : World) (x : Except E α) :
    (ofExcept x : Action E Op Result α).exec answer w = (x, w) := rfl

@[simp] theorem exec_perform (w : World) (o : Op) :
    (perform o : Action E Op Result (Result o)).exec answer w = answer w o := rfl

theorem exec_bind_ok {w w' : World} {x : Action E Op Result α} {a : α} (f : α → Action E Op Result β)
    (hx : x.exec answer w = (.ok a, w')) : (x >>= f).exec answer w = (f a).exec answer w' := by
  show Program.exec answer w (x.run >>= _) = _
  unfold exec at hx
  rw [Program.exec_bind, hx]
  rfl

/-- A check that passed. -/
theorem exec_ofExcept_bind {x : Except E α} {a : α} (hx : x = .ok a) (f : α → Action E Op Result β) (w : World) :
    (ofExcept x >>= f).exec answer w = (f a).exec answer w := by
  subst hx
  exact exec_bind_ok f (exec_ofExcept w _)

theorem exec_bind_error {w w' : World} {x : Action E Op Result α} {e : E} (f : α → Action E Op Result β)
    (hx : x.exec answer w = (.error e, w')) : (x >>= f).exec answer w = (.error e, w') := by
  show Program.exec answer w (x.run >>= _) = _
  unfold exec at hx
  rw [Program.exec_bind, hx]
  rfl

/-- The operations an action performs, each with the answer it got. -/
def trace (answer : World → (o : Op) → Except E (Result o) × World) (w : World) (x : Action E Op Result α) :
    List ((o : Op) × Except E (Result o)) :=
  x.run.trace answer w

@[simp] theorem trace_pure (w : World) (a : α) : (pure a : Action E Op Result α).trace answer w = [] := rfl

@[simp] theorem trace_perform (w : World) (o : Op) :
    (perform o : Action E Op Result (Result o)).trace answer w = [⟨o, (answer w o).1⟩] := rfl

theorem trace_bind_ok {w w' : World} {x : Action E Op Result α} {a : α} (f : α → Action E Op Result β)
    (hx : x.exec answer w = (.ok a, w')) :
    (x >>= f).trace answer w = x.trace answer w ++ (f a).trace answer w' := by
  show Program.trace answer w (x.run >>= _) = _
  unfold exec at hx
  rw [Program.trace_bind, hx]
  rfl

theorem trace_bind_error {w w' : World} {x : Action E Op Result α} {e : E} (f : α → Action E Op Result β)
    (hx : x.exec answer w = (.error e, w')) : (x >>= f).trace answer w = x.trace answer w := by
  show Program.trace answer w (x.run >>= _) = _
  unfold exec at hx
  rw [Program.trace_bind, hx]
  exact List.append_nil _

/-- An operation after which nothing more is performed. -/
theorem trace_perform_bind {w : World} {o : Op} {f : Result o → Action E Op Result β}
    (hf : ∀ a w', (f a).trace answer w' = []) : (perform o >>= f).trace answer w = [⟨o, (answer w o).1⟩] := by
  rcases hx : answer w o with ⟨_ | a, w'⟩
  · have hexec : (perform o : Action E Op Result (Result o)).exec answer w = (.error _, w') := hx
    rw [trace_bind_error f hexec, trace_perform, hx]
  · have hexec : (perform o : Action E Op Result (Result o)).exec answer w = (.ok a, w') := hx
    rw [trace_bind_ok f hexec, trace_perform, hx, hf, List.append_nil]

/-- What a sequence performs, its first part performs, or the second after it. -/
theorem mem_trace_bind {w : World} {x : Action E Op Result α} {f : α → Action E Op Result β}
    {event : (o : Op) × Except E (Result o)} :
    event ∈ (x >>= f).trace answer w ↔ event ∈ x.trace answer w ∨
      ∃ a w', x.exec answer w = (.ok a, w') ∧ event ∈ (f a).trace answer w' := by
  rcases hx : x.exec answer w with ⟨_ | a, w'⟩
  · rw [trace_bind_error f hx]
    exact ⟨.inl, fun h => h.resolve_right nofun⟩
  · rw [trace_bind_ok f hx, List.mem_append]
    refine or_congr_right ⟨fun h => ⟨a, w', rfl, h⟩, ?_⟩
    rintro ⟨_, _, heq, h⟩
    cases heq
    exact h

theorem mem_trace_perform {w : World} {o : Op} {f : Result o → Action E Op Result β}
    {event : (o : Op) × Except E (Result o)} :
    event ∈ (perform o >>= f).trace answer w ↔ event = ⟨o, (answer w o).1⟩ ∨
      ∃ a w', answer w o = (.ok a, w') ∧ event ∈ (f a).trace answer w' := by
  rw [mem_trace_bind, trace_perform, List.mem_singleton, exec_perform]

/-- A check performs nothing. -/
theorem mem_trace_ofExcept {w : World} {x : Except E α} {f : α → Action E Op Result β}
    {event : (o : Op) × Except E (Result o)} :
    event ∈ (ofExcept x >>= f).trace answer w ↔ ∃ a, x = .ok a ∧ event ∈ (f a).trace answer w := by
  have hnone : event ∉ (ofExcept x : Action E Op Result α).trace answer w := List.not_mem_nil
  rw [mem_trace_bind, or_iff_right hnone]
  constructor
  · rintro ⟨a, w', h, hmem⟩
    cases h
    exact ⟨a, rfl, hmem⟩
  · rintro ⟨a, rfl, hmem⟩
    exact ⟨a, w, rfl, hmem⟩

/-- What is performed lies in the footprint. -/
theorem trace_within {ops : Op → Prop} {x : Action E Op Result α} (hx : x.Within ops) (w : World)
    {event : (o : Op) × Except E (Result o)} (hmem : event ∈ x.trace answer w) : ops event.1 := by
  have hrun : ∀ (p : Program E Op Result (Except E α)) (w : World), p.Within ops →
      event ∈ p.trace answer w → ops event.1 := by
    intro p
    induction p with
    | done a => exact fun _ _ h => absurd h List.not_mem_nil
    | perform o next ih =>
      intro w hwithin h
      rcases List.mem_cons.mp h with rfl | h
      · exact hwithin.1
      · exact ih _ _ (hwithin.2 _) h
  exact hrun x.run w hx hmem

theorem Within.trace_eq_nil {x : Action E Op Result α} (hx : x.Within fun _ => False) (w : World) :
    x.trace answer w = [] :=
  List.eq_nil_iff_forall_not_mem.mpr fun _ hmem => trace_within hx w hmem

theorem exec_tryCatch_ok {w w' : World} {x : Action E Op Result α} {a : α}
    (handler : E → Action E Op Result α) (hx : x.exec answer w = (.ok a, w')) :
    (x.tryCatch handler).exec answer w = (.ok a, w') := by
  show Program.exec answer w (x.run >>= _) = _
  unfold exec at hx
  rw [Program.exec_bind, hx]
  rfl

theorem exec_tryCatch_error {w w' : World} {x : Action E Op Result α} {e : E}
    (handler : E → Action E Op Result α) (hx : x.exec answer w = (.error e, w')) :
    (x.tryCatch handler).exec answer w = (handler e).exec answer w' := by
  show Program.exec answer w (x.run >>= _) = _
  unfold exec at hx
  rw [Program.exec_bind, hx]
  rfl

theorem trace_tryCatch_ok {w w' : World} {x : Action E Op Result α} {a : α}
    (handler : E → Action E Op Result α) (hx : x.exec answer w = (.ok a, w')) :
    (x.tryCatch handler).trace answer w = x.trace answer w := by
  show Program.trace answer w (x.run >>= _) = _
  unfold exec at hx
  rw [Program.trace_bind, hx]
  exact List.append_nil _

theorem trace_tryCatch_error {w w' : World} {x : Action E Op Result α} {e : E}
    (handler : E → Action E Op Result α) (hx : x.exec answer w = (.error e, w')) :
    (x.tryCatch handler).trace answer w = x.trace answer w ++ (handler e).trace answer w' := by
  show Program.trace answer w (x.run >>= _) = _
  unfold exec at hx
  rw [Program.trace_bind, hx]
  rfl

theorem exec_preserves {ops : Op → Prop} {I : World → Prop}
    (hstep : ∀ w o, I w → ops o → I (answer w o).2) {x : Action E Op Result α} (hx : x.Within ops)
    {w : World} (hw : I w) : I (x.exec answer w).2 :=
  Program.exec_preserves hstep hx hw

/-- What every operation preserves, every program preserves. -/
theorem exec_keeps {I : World → Prop} (hstep : ∀ w o, I w → I (answer w o).2) (x : Action E Op Result α)
    {w : World} (hw : I w) : I (x.exec answer w).2 := by
  have hall : ∀ p : Program E Op Result (Except E α), p.Within fun _ => True := by
    intro p
    induction p with
    | done a => trivial
    | perform o next ih => exact ⟨trivial, ih⟩
  exact Program.exec_preserves (fun w o h _ => hstep w o h) (hall x.run) hw

end Action

end AutoTrader.Runtime
