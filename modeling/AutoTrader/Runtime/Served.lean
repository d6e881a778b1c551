import AutoTrader.Runtime.Pool

/-! Programs whose operations are answered one after the other, with nothing in between. A list of choices takes a world
and a program to another world and what is left of the program. -/

namespace AutoTrader.Runtime

variable {E Op World Call Choice : Type} {Result : Op → Type} {α β : Type}

inductive Program.Served (answer : World → (o : Op) → Choice → Option (World × Except E (Result o))) :
    World → Program E Op Result α → List Choice → World → Program E Op Result α → Prop
  | refl (w : World) (p : Program E Op Result α) : Served answer w p [] w p
  | step {w w₁ w' : World} {o : Op} {next : Except E (Result o) → Program E Op Result α} {choice : Choice}
      {r : Except E (Result o)} {choices : List Choice} {p' : Program E Op Result α} :
      answer w o choice = some (w₁, r) → Served answer w₁ (next r) choices w' p' →
      Served answer w (.perform o next) (choice :: choices) w' p'

variable {answer : World → (o : Op) → Choice → Option (World × Except E (Result o))} {w w₁ w' : World}
  {choices more : List Choice}

namespace Program

theorem Served.bind {p p' : Program E Op Result α} (h : p.Served answer w choices w' p')
    (f : α → Program E Op Result β) : (p >>= f).Served answer w choices w' (p' >>= f) := by
  induction h with
  | refl w p => exact .refl w _
  | step hanswer _ ih => exact .step hanswer ih

theorem Served.trans {p p₁ p' : Program E Op Result α} (h : p.Served answer w choices w₁ p₁)
    (h' : p₁.Served answer w₁ more w' p') : p.Served answer w (choices ++ more) w' p' := by
  induction h with
  | refl w p => exact h'
  | step hanswer _ ih => exact .step hanswer (ih h')

end Program

namespace Action

/-- Served with these choices, the action returns a value. -/
def Returns (answer : World → (o : Op) → Choice → Option (World × Except E (Result o))) (w : World)
    (x : Action E Op Result α) (choices : List Choice) (w' : World) (a : α) : Prop :=
  x.run.Served answer w choices w' (.done (.ok a))

/-- Served with these choices, the action comes to a world. -/
def Reaches (answer : World → (o : Op) → Choice → Option (World × Except E (Result o))) (w : World)
    (x : Action E Op Result α) (choices : List Choice) (w' : World) : Prop :=
  ∃ p, x.run.Served answer w choices w' p

variable {x : Action E Op Result α} {f : α → Action E Op Result β} {a : α} {b : β}

theorem returns_pure (w : World) (a : α) : (pure a : Action E Op Result α).Returns answer w [] w a := .refl w _

theorem returns_perform {o : Op} {choice : Choice} {v : Result o} (h : answer w o choice = some (w', .ok v)) :
    (perform o : Action E Op Result (Result o)).Returns answer w [choice] w' v := .step h (.refl w' _)

theorem returns_ofExcept {y : Except E α} (h : y = .ok a) (w : World) :
    (ofExcept y : Action E Op Result α).Returns answer w [] w a := h ▸ .refl w _

theorem Returns.bind (hx : x.Returns answer w choices w₁ a) (hf : (f a).Returns answer w₁ more w' b) :
    (x >>= f).Returns answer w (choices ++ more) w' b :=
  (Program.Served.bind hx _).trans hf

theorem Returns.perform_bind {o : Op} {choice : Choice} {v : Result o} {f : Result o → Action E Op Result β}
    (h : answer w o choice = some (w₁, .ok v)) (hf : (f v).Returns answer w₁ more w' b) :
    (perform o >>= f).Returns answer w (choice :: more) w' b :=
  (returns_perform h).bind hf

theorem Returns.reaches (hx : x.Returns answer w choices w' a) : x.Reaches answer w choices w' := ⟨_, hx⟩

theorem Returns.bind_reaches (hx : x.Returns answer w choices w₁ a) (hf : (f a).Reaches answer w₁ more w') :
    (x >>= f).Reaches answer w (choices ++ more) w' := by
  obtain ⟨p, hp⟩ := hf
  exact ⟨p, (Program.Served.bind hx _).trans hp⟩

theorem Reaches.bind (hx : x.Reaches answer w choices w') (f : α → Action E Op Result β) :
    (x >>= f).Reaches answer w choices w' := by
  obtain ⟨p, hp⟩ := hx
  exact ⟨_, hp.bind _⟩

theorem Returns.tryCatch (hx : x.Returns answer w choices w' a) (handler : E → Action E Op Result α) :
    (x.tryCatch handler).Returns answer w choices w' a :=
  Program.Served.bind hx _

theorem Reaches.tryCatch (hx : x.Reaches answer w choices w') (handler : E → Action E Op Result α) :
    (x.tryCatch handler).Reaches answer w choices w' := by
  obtain ⟨p, hp⟩ := hx
  exact ⟨_, hp.bind _⟩

end Action

namespace Pool

variable {M : Pool E Op Result World Call Choice}

/-- Only one thread is answered. -/
theorem run_served {c : Config E Op Result World} {i : ℕ} {p p' : Program E Op Result Unit}
    (hi : c.threads[i]? = some p) (h : p.Served (fun w o => M.answer w i o) c.world choices w' p') :
    runFrom M.step c (choices.map (.answer i)) = ⟨w', c.threads.set i p'⟩ := by
  obtain ⟨world, threads⟩ := c
  dsimp only at hi h ⊢
  obtain ⟨hlt, rfl⟩ := List.getElem?_eq_some_iff.mp hi
  clear hi
  generalize hp : threads[i] = p at h
  induction h generalizing threads with
  | refl w p => rw [List.map_nil, runFrom_nil, ← hp, List.set_getElem_self]
  | @step w w₁ w' o next choice r choices p' hanswer hserved ih =>
    have hstep : M.step ⟨w, threads⟩ (.answer i choice) = ⟨w₁, threads.set i (next r)⟩ := by
      simp only [Pool.step, List.getElem?_eq_getElem hlt, hp, hanswer]
    have hlt' : i < (threads.set i (next r)).length := by rwa [List.length_set]
    rw [List.map_cons, runFrom_cons, hstep,
      ih (threads.set i (next r)) hlt' (List.getElem_set_self hlt'), List.set_set]

/-- A call is made, and only it is answered. -/
theorem run_call {c : Config E Op Result World} {k : Call} {p' : Program E Op Result Unit}
    (h : (M.body k).Served (fun w o => M.answer w c.threads.length o) c.world choices w' p') :
    runFrom M.step c (.call k :: choices.map (.answer c.threads.length)) = ⟨w', c.threads ++ [p']⟩ := by
  have hi : (M.step c (.call k)).threads[c.threads.length]? = some (M.body k) := List.getElem?_concat_length
  rw [runFrom_cons, run_served hi h]
  show Config.mk w' ((c.threads ++ [M.body k]).set c.threads.length p') = _
  rw [List.set_append_right _ _ (Nat.le_refl _), Nat.sub_self, List.set_cons_zero]

end Pool

end AutoTrader.Runtime
