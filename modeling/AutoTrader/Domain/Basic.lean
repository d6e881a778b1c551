import Mathlib.Data.Int.Basic

/-! Values shared by all subsystems: exceptions, instants and the small enumerations.
Stored timestamps are UTC to the microsecond, so they are integers here; a `DateTime`
argument still carries the zone that `require_utc` and `_is_exact_utc` look at. -/

namespace AutoTrader.Domain

/-- The exception classes the modelled code raises or tells apart. -/
inductive ErrorKind
  | valueError
  | typeError
  | runtimeError
  | lookupError
  | indexError
  | permissionError
  | brokerSubmissionRejected
  | brokerWriteDisabled
  | brokerTransportError
  | binanceUsdmPreSendFailure
  | binanceUsdmOrderNotSent
  | binanceUsdmOrderUnknown
  | binanceUsdmOrderRejected
  | binanceUsdmOrderRecordMissing
  | binanceUsdmProtectionNotMoved
  | binanceUsdmProtectionUnknown
  | binanceUsdmProtectionRejected
  | binanceUsdmProtectionEmergencyUnknown
  | protectionContextUnavailable
  | bigTradesUnmeasured
  | economicCalendarError
  | paperCommandNotStagedError
  | orderIdentityCollisionError
  | intentIdentityCollisionError
  | invalidOrderTransitionError
  | databaseError
  | invalidOperation
  | overflowError
  | timeoutError
  | binanceUsdmReconciliationUnavailable
  | tossUsReconciliationUnavailable
  | assertionError
  | cancelledError
  | keyboardInterrupt
  | systemExit
  deriving DecidableEq

structure PyError where
  kind : ErrorKind
  message : String
  deriving DecidableEq

namespace ErrorKind

/-- `(asyncio.CancelledError, KeyboardInterrupt, SystemExit)`, which `except Exception`
does not catch. -/
def isControl : ErrorKind → Bool
  | .cancelledError | .keyboardInterrupt | .systemExit => true
  | _ => false

/-- `BrokerSubmissionRejected` and its subclass. -/
def isSubmissionRejected : ErrorKind → Bool
  | .brokerSubmissionRejected | .binanceUsdmOrderRejected => true
  | _ => false

end ErrorKind

/-- The characters `str.strip` removes. -/
def isSpace (c : Char) : Bool :=
  let n := c.toNat
  (9 ≤ n && n ≤ 13) || (28 ≤ n && n ≤ 32) || n = 133 || n = 160 || n = 5760 ||
    (8192 ≤ n && n ≤ 8202) || n = 8232 || n = 8233 || n = 8239 || n = 8287 || n = 12288

/-- `not text or text.strip() != text`. -/
def untrimmed (text : String) : Bool :=
  text.toList.isEmpty || text.toList.head?.any isSpace || text.toList.getLast?.any isSpace

/-- Microseconds since the epoch, in UTC. -/
abbrev Instant := Int

/-- `tzinfo`: absent, the `UTC` singleton, or any other zone. -/
inductive Zone
  | naive
  | utc
  | other
  deriving DecidableEq

/-- `instant` is the UTC instant of an aware value, the wall clock of a naive one. -/
structure DateTime where
  instant : Instant
  zone : Zone
  deriving DecidableEq

namespace DateTime

def requireUtc (value : DateTime) : Except PyError Instant :=
  match value.zone with
  | .naive => .error ⟨.valueError, "timezone-aware UTC datetime is required"⟩
  | .utc | .other => .ok value.instant

/-- `_is_exact_utc`: the zone is the `UTC` object itself. -/
def isExactUtc (value : DateTime) : Bool :=
  value.zone = .utc

end DateTime

/-- `value.microsecond == 0`. -/
def wholeSecond (t : Instant) : Bool :=
  t % 1000000 = 0

inductive Side
  | buy
  | sell
  deriving DecidableEq

def Side.value : Side → String
  | .buy => "BUY"
  | .sell => "SELL"

/-- The other side. -/
def Side.opposite : Side → Side
  | .buy => .sell
  | .sell => .buy

inductive OrderStyle
  | market
  | limit
  deriving DecidableEq

def OrderStyle.value : OrderStyle → String
  | .market => "MARKET"
  | .limit => "LIMIT"

inductive IntentType
  | entry
  | exit
  | protective
  deriving DecidableEq

def IntentType.value : IntentType → String
  | .entry => "ENTRY"
  | .exit => "EXIT"
  | .protective => "PROTECTIVE"

inductive RuntimeMode
  | shadow
  | paper
  | live
  deriving DecidableEq

/-! ### Computations that may raise -/

/-- A sequence succeeds exactly when both of its parts do. -/
theorem bind_ok {ε α β : Type} {x : Except ε α} {f : α → Except ε β} {b : β} :
    x >>= f = .ok b ↔ ∃ a, x = .ok a ∧ f a = .ok b := by
  cases x <;> simp [bind, Except.bind]

/-- The first exception is the one that is raised. -/
theorem bind_error {ε α β : Type} {x : Except ε α} {f : α → Except ε β} {e : ε} :
    x >>= f = .error e ↔ x = .error e ∨ ∃ a, x = .ok a ∧ f a = .error e := by
  cases x <;> simp [bind, Except.bind]

/-- A check that raises succeeds exactly when its condition fails. -/
theorem raiseIf_ok {ε : Type} {p : Prop} [Decidable p] {e : ε} {u : Unit} :
    (if p then .error e else pure () : Except ε Unit) = .ok u ↔ ¬p := by
  by_cases h : p
  · rw [if_pos h]
    constructor
    · intro herror
      cases herror
    · intro hnot
      exact absurd h hnot
  · rw [if_neg h]
    exact ⟨fun _ => h, fun _ => rfl⟩

theorem exceptMap_ok {ε α β : Type} {x : Except ε α} {f : α → β} {b : β} :
    x.map f = .ok b ↔ ∃ a, x = .ok a ∧ f a = b := by
  cases x <;> simp [Except.map]

/-- A result that was evaluated in part. -/
theorem exists_of_toOption {ε α β : Type} {x : Except ε α} {f : α → β} {b : β} (h : x.toOption.map f = some b) :
    ∃ a, x = .ok a ∧ f a = b := by
  cases x with
  | error e => cases h
  | ok a => exact ⟨a, rfl, Option.some.inj h⟩

/-- What a loop that raises nowhere returns comes from an element of its list. -/
theorem mem_of_mapM_ok {ε α β : Type} {f : α → Except ε β} {xs : List α} {ys : List β}
    (h : xs.mapM f = .ok ys) {y : β} (hy : y ∈ ys) : ∃ x ∈ xs, f x = .ok y := by
  induction xs generalizing ys with
  | nil =>
    cases h
    cases hy
  | cons x xs ih =>
    rw [List.mapM_cons] at h
    obtain ⟨z, hz, h⟩ := bind_ok.mp h
    obtain ⟨zs, hzs, h⟩ := bind_ok.mp h
    cases h
    rcases List.mem_cons.mp hy with rfl | hrest
    · exact ⟨x, List.mem_cons_self, hz⟩
    · obtain ⟨x', hx', heq⟩ := ih hzs hrest
      exact ⟨x', List.mem_cons_of_mem x hx', heq⟩

/-- And every element of its list has its result in it. -/
theorem result_mem_of_mapM_ok {ε α β : Type} {f : α → Except ε β} {xs : List α} {ys : List β}
    (h : xs.mapM f = .ok ys) {x : α} (hx : x ∈ xs) {y : β} (hy : f x = .ok y) : y ∈ ys := by
  induction xs generalizing ys with
  | nil => cases hx
  | cons first xs ih =>
    rw [List.mapM_cons] at h
    obtain ⟨z, hz, h⟩ := bind_ok.mp h
    obtain ⟨zs, hzs, h⟩ := bind_ok.mp h
    cases h
    rcases List.mem_cons.mp hx with rfl | hrest
    · rw [hz] at hy
      cases hy
      exact List.mem_cons_self
    · exact List.mem_cons_of_mem _ (ih hzs hrest)

theorem mapM_ok_of_forall {ε α β : Type} {f : α → Except ε β} {xs : List α}
    (h : ∀ x ∈ xs, ∃ y, f x = .ok y) : ∃ ys, xs.mapM f = .ok ys := by
  induction xs with
  | nil => exact ⟨[], rfl⟩
  | cons x xs ih =>
    obtain ⟨y, hy⟩ := h x List.mem_cons_self
    obtain ⟨ys, hys⟩ := ih fun x' hx' => h x' (List.mem_cons_of_mem x hx')
    refine ⟨y :: ys, ?_⟩
    rw [List.mapM_cons, hy, hys]
    rfl

/-! ### Round trips -/

/-- What is written is read back where its medium holds it, and then as it was. -/
def RoundTrips {ε α γ : Type} (write : α → γ) (read : γ → Except ε α) (holds : α → Prop) (x : α) : Prop :=
  ∀ y, read (write x) = .ok y ↔ holds x ∧ y = x

section RoundTrips

variable {ε α γ : Type} {write : α → γ} {read : γ → Except ε α} {holds : α → Prop}

theorem RoundTrips.ok {x : α} (h : RoundTrips write read holds x) (hx : holds x) : read (write x) = .ok x :=
  (h x).mpr ⟨hx, rfl⟩

theorem RoundTrips.list {xs : List α} (h : ∀ x ∈ xs, RoundTrips write read holds x) :
    RoundTrips (List.map write) (List.mapM read) (fun xs => ∀ x ∈ xs, holds x) xs := by
  induction xs with
  | nil =>
    intro ys
    show Except.ok [] = Except.ok ys ↔ _
    simp [eq_comm]
  | cons x xs ih =>
    intro ys
    obtain ⟨hx, hxs⟩ := List.forall_mem_cons.mp h
    rw [List.map_cons, List.mapM_cons, bind_ok]
    constructor
    · rintro ⟨y, hy, hrest⟩
      obtain ⟨zs, hzs, hcons⟩ := bind_ok.mp hrest
      obtain ⟨hholds, rfl⟩ := (hx y).mp hy
      obtain ⟨hall, rfl⟩ := (ih hxs zs).mp hzs
      exact ⟨List.forall_mem_cons.mpr ⟨hholds, hall⟩, (Except.ok.inj hcons).symm⟩
    · rintro ⟨hall, rfl⟩
      obtain ⟨hholds, hrest⟩ := List.forall_mem_cons.mp hall
      exact ⟨x, hx.ok hholds, bind_ok.mpr ⟨xs, (ih hxs).ok hrest, rfl⟩⟩

theorem RoundTrips.option {x : Option α} (h : ∀ y ∈ x, RoundTrips write read holds y) :
    RoundTrips (Option.map write) (Option.mapM read) (fun x => ∀ y ∈ x, holds y) x := by
  intro z
  cases x with
  | none =>
    show Except.ok none = Except.ok z ↔ _
    simp [eq_comm]
  | some x =>
    have hx := h x rfl
    show (read (write x) >>= fun y => pure (some y)) = .ok z ↔ _
    rw [bind_ok]
    constructor
    · rintro ⟨y, hy, hz⟩
      obtain ⟨hholds, rfl⟩ := (hx y).mp hy
      exact ⟨fun _ hmem => Option.mem_some_iff.mp hmem ▸ hholds, (Except.ok.inj hz).symm⟩
    · rintro ⟨hall, rfl⟩
      exact ⟨x, hx.ok (hall x rfl), rfl⟩

end RoundTrips

@[simp] theorem ok_bind {ε α β : Type} (a : α) (f : α → Except ε β) : (.ok a >>= f) = f a := rfl

@[simp] theorem error_bind {ε α β : Type} (e : ε) (f : α → Except ε β) : (.error e >>= f) = .error e := rfl

end AutoTrader.Domain
