import Mathlib.Logic.Basic

/-! Sequential programs over atomic operations, with exceptions. An operation is
answered by its environment with a result or an exception, and the program goes on
from there. A protocol says which operations a thread may perform in which phase;
`Action.Keeps` is the rule-based way to show that a program follows one. -/

namespace AutoTrader.Runtime

variable {E Op Phase : Type} {Result : Op → Type} {α β : Type}

/-- A program ends with a value, or performs one operation and goes on with the
answer. Anything outside the program may happen between two operations. -/
inductive Program (E Op : Type) (Result : Op → Type) (α : Type) : Type
  | done (value : α)
  | perform (operation : Op) (next : Except E (Result operation) → Program E Op Result α)

namespace Program

protected def bind : Program E Op Result α → (α → Program E Op Result β) → Program E Op Result β
  | .done a, f => f a
  | .perform o next, f => .perform o fun r => (next r).bind f

instance : Monad (Program E Op Result) where
  pure := .done
  bind := Program.bind

@[simp] theorem done_bind (a : α) (f : α → Program E Op Result β) : (.done a >>= f) = f a := rfl

@[simp] theorem perform_bind (o : Op) (next : Except E (Result o) → Program E Op Result α)
    (f : α → Program E Op Result β) :
    (.perform o next >>= f) = .perform o fun r => next r >>= f := rfl

/-- The value a program ends with when every operation has one fixed answer. -/
def eval (answer : (o : Op) → Except E (Result o)) : Program E Op Result α → α
  | .done a => a
  | .perform o next => (next (answer o)).eval answer

theorem eval_bind (answer : (o : Op) → Except E (Result o)) (p : Program E Op Result α)
    (f : α → Program E Op Result β) : (p >>= f).eval answer = (f (p.eval answer)).eval answer := by
  induction p with
  | done a => rfl
  | perform o next ih => exact ih (answer o)

end Program

/-- A program that may end by raising an exception. -/
abbrev Action (E Op : Type) (Result : Op → Type) (α : Type) : Type :=
  ExceptT E (Program E Op Result) α

namespace Action

def perform (o : Op) : Action E Op Result (Result o) :=
  ExceptT.mk (.perform o .done)

/-- `try: body` followed by an `except` clause for everything that is raised. -/
protected def tryCatch (body : Action E Op Result α) (handler : E → Action E Op Result α) :
    Action E Op Result α :=
  ExceptT.mk (body.run >>= fun
    | .ok a => .done (.ok a)
    | .error e => (handler e).run)

/-- `with suppress(BaseException): body`. -/
def suppress (body : Action E Op Result Unit) : Action E Op Result Unit :=
  body.tryCatch fun _ => pure ()

def ofExcept (x : Except E α) : Action E Op Result α :=
  ExceptT.mk (.done x)

/-- The outcome of an action when every operation has one fixed answer. -/
def eval (answer : (o : Op) → Except E (Result o)) (x : Action E Op Result α) : Except E α :=
  x.run.eval answer

@[simp] theorem eval_pure (answer : (o : Op) → Except E (Result o)) (a : α) :
    (pure a : Action E Op Result α).eval answer = .ok a := rfl

@[simp] theorem eval_perform (answer : (o : Op) → Except E (Result o)) (o : Op) :
    (perform o : Action E Op Result (Result o)).eval answer = answer o := rfl

theorem eval_bind (answer : (o : Op) → Except E (Result o)) (x : Action E Op Result α)
    (f : α → Action E Op Result β) :
    (x >>= f).eval answer = (x.eval answer).bind fun a => (f a).eval answer := by
  show (Program.eval answer (x.run >>= _)) = _
  rw [Program.eval_bind, eval]
  cases x.run.eval answer <;> rfl

end Action

/-- What a thread may do in each phase, the phases an answer can lead to, and the phases
a thread may end in. -/
structure Protocol (E Op : Type) (Result : Op → Type) (Phase : Type) where
  allows : Phase → Op → Prop
  moves : Phase → (o : Op) → Except E (Result o) → Phase → Prop
  ends : Phase → Prop

namespace Program

variable {P : Protocol E Op Result Phase}

/-- Started in a phase, the program performs only what the protocol allows, whatever
the answers, and ends in a phase and with a value that satisfy `post`. -/
def Obeys (P : Protocol E Op Result Phase) (post : Phase → α → Prop) :
    Program E Op Result α → Phase → Prop
  | .done a, s => post s a
  | .perform o next, s => P.allows s o ∧ ∀ r s', P.moves s o r s' → (next r).Obeys P post s'

theorem Obeys.mono {q q' : Phase → α → Prop} (h : ∀ s a, q s a → q' s a)
    {p : Program E Op Result α} {s : Phase} (hp : p.Obeys P q s) : p.Obeys P q' s := by
  induction p generalizing s with
  | done a => exact h s a hp
  | perform o next ih => exact ⟨hp.1, fun r s' hm => ih r (hp.2 r s' hm)⟩

theorem obeys_bind {post : Phase → β → Prop} (p : Program E Op Result α)
    (f : α → Program E Op Result β) (s : Phase) :
    (p >>= f).Obeys P post s ↔ p.Obeys P (fun s' a => (f a).Obeys P post s') s := by
  induction p generalizing s with
  | done a => rfl
  | perform o next ih =>
    simp only [perform_bind, Obeys, ih]

end Program

namespace Action

variable {P : Protocol E Op Result Phase} {ok : Phase → α → Prop} {raised : Phase → E → Prop}

/-- `Program.Obeys` with one postcondition for a return and one for an exception. -/
def Keeps (P : Protocol E Op Result Phase) (s : Phase) (x : Action E Op Result α)
    (ok : Phase → α → Prop) (raised : Phase → E → Prop) : Prop :=
  x.run.Obeys P (fun s' => Except.rec (raised s') (ok s')) s

@[simp] theorem keeps_pure (s : Phase) (a : α) :
    Keeps P s (pure a) ok raised ↔ ok s a := Iff.rfl

@[simp] theorem keeps_throw (s : Phase) (e : E) :
    Keeps P s (throw e : Action E Op Result α) ok raised ↔ raised s e := Iff.rfl

@[simp] theorem keeps_perform (s : Phase) (o : Op) {ok : Phase → Result o → Prop} :
    Keeps P s (perform o) ok raised ↔
      P.allows s o ∧ (∀ v s', P.moves s o (.ok v) s' → ok s' v) ∧
        ∀ e s', P.moves s o (.error e) s' → raised s' e := by
  constructor
  · intro h
    exact ⟨h.1, fun v => h.2 (.ok v), fun e => h.2 (.error e)⟩
  · rintro ⟨h, hok, herr⟩
    refine ⟨h, fun r s' hm => ?_⟩
    cases r with
    | ok v => exact hok v s' hm
    | error e => exact herr e s' hm

@[simp] theorem keeps_bind {ok : Phase → β → Prop} (s : Phase) (x : Action E Op Result α)
    (f : α → Action E Op Result β) :
    Keeps P s (x >>= f) ok raised ↔ Keeps P s x (fun s' a => Keeps P s' (f a) ok raised) raised := by
  show Program.Obeys P _ (x.run >>= _) s ↔ _
  rw [Program.obeys_bind]
  constructor <;> refine Program.Obeys.mono fun s' r h => ?_ <;> cases r <;> exact h

@[simp] theorem keeps_tryCatch (s : Phase) (x : Action E Op Result α)
    (handler : E → Action E Op Result α) :
    Keeps P s (x.tryCatch handler) ok raised ↔
      Keeps P s x ok fun s' e => Keeps P s' (handler e) ok raised := by
  show Program.Obeys P _ (x.run >>= _) s ↔ _
  rw [Program.obeys_bind]
  constructor <;> refine Program.Obeys.mono fun s' r h => ?_ <;> cases r <;> exact h

@[simp] theorem keeps_ofExcept (s : Phase) (x : Except E α) :
    Keeps P s (ofExcept x) ok raised ↔ (∀ a, x = .ok a → ok s a) ∧ ∀ e, x = .error e → raised s e := by
  cases x <;> simp [Keeps, ofExcept, Program.Obeys, ExceptT.run, ExceptT.mk]

theorem keeps_suppress {ok : Phase → Unit → Prop} (s : Phase) (x : Action E Op Result Unit) :
    Keeps P s x.suppress ok raised ↔ Keeps P s x ok fun s' _ => ok s' () := by
  simp [suppress]

theorem Keeps.mono {ok' : Phase → α → Prop} {raised' : Phase → E → Prop} {s : Phase}
    {x : Action E Op Result α} (h : Keeps P s x ok raised) (hok : ∀ s a, ok s a → ok' s a)
    (hraised : ∀ s e, raised s e → raised' s e) : Keeps P s x ok' raised' := by
  refine Program.Obeys.mono (fun s' r hr => ?_) h
  cases r with
  | ok a => exact hok s' a hr
  | error e => exact hraised s' e hr

theorem Keeps.bind {m : Phase → α → Prop} {ok : Phase → β → Prop} {s : Phase}
    {x : Action E Op Result α} {f : α → Action E Op Result β} (hx : Keeps P s x m raised)
    (hf : ∀ s' a, m s' a → Keeps P s' (f a) ok raised) : Keeps P s (x >>= f) ok raised :=
  (keeps_bind s x f).mpr (hx.mono hf fun _ _ h => h)

theorem Keeps.tryCatch {c : Phase → E → Prop} {s : Phase} {x : Action E Op Result α}
    {handler : E → Action E Op Result α} (hx : Keeps P s x ok c)
    (hh : ∀ s' e, c s' e → Keeps P s' (handler e) ok raised) :
    Keeps P s (x.tryCatch handler) ok raised :=
  (keeps_tryCatch s x handler).mpr (hx.mono (fun _ _ h => h) hh)

end Action

/-! ### Footprints -/

/-- Every operation the program can perform lies in a set. -/
def Program.Within (ops : Op → Prop) : Program E Op Result α → Prop
  | .done _ => True
  | .perform o next => ops o ∧ ∀ r, (next r).Within ops

theorem Program.Within.bind {ops : Op → Prop} {p : Program E Op Result α}
    {f : α → Program E Op Result β} (hp : p.Within ops) (hf : ∀ a, (f a).Within ops) :
    (p >>= f).Within ops := by
  induction p with
  | done a => exact hf a
  | perform o next ih => exact ⟨hp.1, fun r => ih r (hp.2 r)⟩

namespace Action

def Within (ops : Op → Prop) (x : Action E Op Result α) : Prop := x.run.Within ops

variable {ops : Op → Prop}

theorem within_pure (a : α) : (pure a : Action E Op Result α).Within ops := trivial

theorem within_throw (e : E) : (throw e : Action E Op Result α).Within ops := trivial

theorem within_ofExcept (x : Except E α) : (ofExcept x : Action E Op Result α).Within ops := trivial

theorem within_perform {o : Op} (h : ops o) :
    (perform o : Action E Op Result (Result o)).Within ops :=
  ⟨h, fun _ => trivial⟩

theorem Within.bind {x : Action E Op Result α} {f : α → Action E Op Result β} (hx : x.Within ops)
    (hf : ∀ a, (f a).Within ops) : (x >>= f).Within ops := by
  refine Program.Within.bind hx fun r => ?_
  cases r with
  | ok a => exact hf a
  | error e => trivial

/-- After a check only the values that passed it matter. -/
theorem Within.ofExcept_bind {x : Except E α} {f : α → Action E Op Result β} (hf : ∀ a, x = .ok a → (f a).Within ops) :
    (ofExcept x >>= f).Within ops := by
  cases x with
  | ok a => exact hf a rfl
  | error e => trivial

theorem Within.tryCatch {x : Action E Op Result α} {handler : E → Action E Op Result α}
    (hx : x.Within ops) (hh : ∀ e, (handler e).Within ops) : (x.tryCatch handler).Within ops := by
  refine Program.Within.bind hx fun r => ?_
  cases r with
  | ok a => trivial
  | error e => exact hh e

theorem Within.mono {ops' : Op → Prop} (h : ∀ o, ops o → ops' o) {x : Action E Op Result α}
    (hx : x.Within ops) : x.Within ops' := by
  have hrun : ∀ p : Program E Op Result (Except E α), p.Within ops → p.Within ops' := by
    intro p
    induction p with
    | done a => exact fun _ => trivial
    | perform o next ih => exact fun hp => ⟨h o hp.1, fun r => ih r (hp.2 r)⟩
  exact hrun x.run hx

/-- A program whose operations all leave a phase alone ends in that phase. -/
theorem Within.keeps {P : Protocol E Op Result Phase} {s : Phase} {x : Action E Op Result α}
    (hx : x.Within ops) (hs : ∀ o, ops o → P.allows s o ∧ ∀ r s', P.moves s o r s' → s' = s) :
    Keeps P s x (fun s' _ => s' = s) (fun s' _ => s' = s) := by
  have hrun : ∀ p : Program E Op Result (Except E α), p.Within ops →
      p.Obeys P (fun s' => Except.rec (fun _ => s' = s) (fun _ => s' = s)) s := by
    intro p
    induction p with
    | done a => cases a <;> exact fun _ => rfl
    | perform o next ih =>
      intro hp
      refine ⟨(hs o hp.1).1, fun r s' hmove => ?_⟩
      rw [(hs o hp.1).2 r s' hmove]
      exact ih r (hp.2 r)
  exact hrun x.run hx

end Action

end AutoTrader.Runtime

/-! Runs that may be interrupted. Every operation is answered as a choice says, and when the
choices run out before the program does, it stops where it is. What a protocol over the
worlds themselves allows is then kept by every such run. -/

namespace AutoTrader.Runtime

variable {E Op World Choice : Type} {Result : Op → Type} {α : Type}

/-- The world a run leaves, and the value of the program if it ended. -/
def Program.follow (answer : World → (o : Op) → Choice → Except E (Result o) × World) :
    World → Program E Op Result α → List Choice → World × Option α
  | w, .done a, _ => (w, some a)
  | w, .perform _ _, [] => (w, none)
  | w, .perform o next, choice :: choices =>
    follow answer (answer w o choice).2 (next (answer w o choice).1) choices

variable {answer : World → (o : Op) → Choice → Except E (Result o) × World} {P : Protocol E Op Result World}
  {I : World → Prop}

theorem Program.follow_obeys {post : World → α → Prop}
    (hmoves : ∀ w o choice, P.moves w o (answer w o choice).1 (answer w o choice).2)
    (hstep : ∀ w o choice, I w → P.allows w o → I (answer w o choice).2)
    {p : Program E Op Result α} {w : World} (hp : p.Obeys P post w) (hw : I w) (choices : List Choice) :
    I (p.follow answer w choices).1 ∧
      ∀ a, (p.follow answer w choices).2 = some a → post (p.follow answer w choices).1 a := by
  induction choices generalizing p w with
  | nil =>
    cases p with
    | done a => exact ⟨hw, fun _ h => by cases h; exact hp⟩
    | perform o next => exact ⟨hw, fun _ h => by cases h⟩
  | cons choice choices ih =>
    cases p with
    | done a => exact ⟨hw, fun _ h => by cases h; exact hp⟩
    | perform o next => exact ih (hp.2 _ _ (hmoves w o choice)) (hstep w o choice hw hp.1)

/-- An interrupted or finished run of an action that keeps to a protocol. -/
theorem Action.follow_keeps {ok : World → α → Prop} {raised : World → E → Prop}
    (hmoves : ∀ w o choice, P.moves w o (answer w o choice).1 (answer w o choice).2)
    (hstep : ∀ w o choice, I w → P.allows w o → I (answer w o choice).2)
    {x : Action E Op Result α} {w : World} (hx : x.Keeps P w ok raised) (hw : I w) (choices : List Choice) :
    I (x.run.follow answer w choices).1 :=
  (Program.follow_obeys hmoves hstep hx hw choices).1

/-- What every operation of a set keeps is kept by every run within it. -/
theorem Program.Within.follow {ops : Op → Prop} (hstep : ∀ w o choice, I w → ops o → I (answer w o choice).2)
    {p : Program E Op Result α} (hp : p.Within ops) {w : World} (hw : I w) (choices : List Choice) :
    I (p.follow answer w choices).1 := by
  induction choices generalizing p w with
  | nil => cases p <;> exact hw
  | cons choice choices ih =>
    cases p with
    | done a => exact hw
    | perform o next => exact ih (hp.2 _) (hstep w o choice hw hp.1)

/-- Operations that all keep a property of the phase keep it together. -/
theorem Action.Within.keeps_invariant {Phase : Type} {P : Protocol E Op Result Phase} {ops : Op → Prop}
    {J : Phase → Prop} {x : Action E Op Result α} (hx : x.Within ops)
    (hs : ∀ s o, J s → ops o → P.allows s o ∧ ∀ r s', P.moves s o r s' → J s') {s : Phase} (h : J s) :
    x.Keeps P s (fun s' _ => J s') (fun s' _ => J s') := by
  have hrun : ∀ p : Program E Op Result (Except E α), p.Within ops → ∀ s, J s →
      p.Obeys P (fun s' => Except.rec (fun _ => J s') (fun _ => J s')) s := by
    intro p
    induction p with
    | done a => cases a <;> exact fun _ _ h => h
    | perform o next ih =>
      intro hp s h
      obtain ⟨hallows, hmoves⟩ := hs s o h hp.1
      exact ⟨hallows, fun r s' hmove => ih r (hp.2 r) s' (hmoves r s' hmove)⟩
  exact hrun x.run hx s h

end AutoTrader.Runtime
