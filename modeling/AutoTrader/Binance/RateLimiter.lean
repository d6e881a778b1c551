import AutoTrader.Domain.Wire
import AutoTrader.Runtime.Dict
import AutoTrader.Runtime.Origins
import Mathlib.Algebra.Order.Ring.Rat

/-! `BinanceUsdmRateLimiter`: one view, shared by every request, of the limits the provider counts against and of how
long it asks to be left alone. A floating-point number is the rational it is. -/

namespace AutoTrader.Binance

open AutoTrader.Domain AutoTrader.Runtime

/-- What the limiter needs of floating-point numbers: their rounded sum, `float` of a text where it is finite, and the
number next to `1e-9`. -/
structure FloatingPoint where
  add : ℚ → ℚ → ℚ
  ofText : String → Option ℚ
  tolerance : ℚ

structure RateLimiterConfig where
  rateBackoff : ℚ
  banBackoff : ℚ
  maximumBackoff : ℚ
  rate_bounds : 0 < rateBackoff ∧ rateBackoff ≤ maximumBackoff
  ban_bounds : 0 < banBackoff ∧ banBackoff ≤ maximumBackoff

structure RateResponse where
  status : Nat
  headers : List (String × String)

def rateLimitError {α : Type} (message : String) : Except PyError α := .error ⟨.runtimeError, message⟩

/-! ### Headers -/

inductive RateCounter
  | usedWeight
  | orderCount
  deriving DecidableEq

/-- The two dictionaries of counts, each by window. -/
abbrev RateCounts := RateCounter → List (String × Nat)

/-- `[1-9][0-9]*[smhd]`, in upper case. -/
def windowOf (text : List Char) : Option String :=
  match readDigits text with
  | (first :: digits, [unit]) =>
    if first ≠ '0' ∧ unit ∈ ['s', 'm', 'h', 'd'] then some (String.ofList (first :: digits ++ [unit.toUpper])) else none
  | _ => none

/-- `_COUNTER`. The pattern takes a dotless `ı` for the `i`, and the comparison that follows does not. -/
def counterOf (name : String) : Option (RateCounter × String) :=
  let read (stem : String) (counter : RateCounter) : Option (RateCounter × String) :=
    if stem.toList.isPrefixOf name.toList then
      (windowOf (name.toList.drop stem.toList.length)).map fun window => (counter, window)
    else none
  ((read "x-mbx-used-weight-" .usedWeight).or (read "x-mbx-used-we\u0131ght-" .orderCount)).or
    (read "x-mbx-order-count-" .orderCount)

/-- `(?:0|[1-9][0-9]*)`. -/
def unsignedDigits (digits : List Char) : Bool :=
  !digits.isEmpty && digits.all Char.isDigit && (decide (digits.length = 1) || decide (digits.head? ≠ some '0'))

/-- `_UNSIGNED_NUMBER`. -/
def unsignedNumber (text : String) : Bool :=
  match readDigits text.toList with
  | (whole, []) => unsignedDigits whole
  | (whole, '.' :: fraction) => unsignedDigits whole && !fraction.isEmpty && fraction.all Char.isDigit
  | _ => false

/-- `int` of a text of digits, which Python limits in length. -/
def intOfDigits (digits : List Char) : Except PyError Nat :=
  let length := digits.length
  if 4300 < length then
    .error ⟨.valueError, s!"Exceeds the limit (4300 digits) for integer string conversion: value has {length} digits; "
      ++ "use sys.set_int_max_str_digits() to increase the limit"⟩
  else .ok (digitsValue digits)

structure RateHeaders where
  counts : RateCounts
  retryAfter : List String

def noHeaders : RateHeaders := ⟨fun _ => [], []⟩

/-- One header of `_response_headers`. -/
def readHeader (casefold : String → String) (found : RateHeaders) (header : String × String) :
    Except PyError RateHeaders :=
  let name := casefold header.1
  if name = "retry-after" then .ok { found with retryAfter := found.retryAfter ++ [header.2] }
  else match counterOf name with
    | none => .ok found
    | some (counter, window) =>
      if window ∈ (found.counts counter).map (·.1) ∨ unsignedDigits header.2.toList = false then
        rateLimitError "Binance USD-M rate-limit counter header is invalid"
      else (intOfDigits header.2.toList).map fun value =>
        { found with counts := Function.update found.counts counter (Dict.set (found.counts counter) window value) }

/-- `_response_headers`. -/
def responseHeaders (float : FloatingPoint) (casefold : String → String) (headers : List (String × String)) :
    Except PyError (RateCounts × Option ℚ) := do
  let found ← headers.foldlM (readHeader casefold) noHeaders
  match found.retryAfter with
  | [] => .ok (found.counts, none)
  | [value] =>
    if !unsignedNumber value then rateLimitError "Binance USD-M retry-after header is invalid"
    else match float.ofText value with
      | none => rateLimitError "Binance USD-M retry-after header is invalid"
      | some seconds => .ok (found.counts, some seconds)
  | _ => rateLimitError "Binance USD-M retry-after header is invalid"

/-! ### The limiter -/

structure RateLimiter where
  lastClock : ℚ
  blockedUntil : ℚ
  counts : RateCounts

namespace RateLimiter

/-- `_clock`, by what the clock shows: a finite number, or something else. -/
def clock (s : RateLimiter) (reading : Option ℚ) : Except PyError RateLimiter :=
  match reading with
  | none => rateLimitError "Binance USD-M monotonic clock is invalid"
  | some now =>
    if now < s.lastClock then rateLimitError "Binance USD-M monotonic clock is invalid"
    else .ok { s with lastClock := now }

/-- `before_request`, with what interrupts the sleep, if anything does. A difference of floating-point numbers is zero
only where they are equal. -/
def beforeRequest (float : FloatingPoint) (s : RateLimiter) (first second : Option ℚ) (interrupted : Option PyError) :
    RateLimiter × Except PyError Unit :=
  match s.clock first with
  | .error error => (s, .error error)
  | .ok s₁ =>
    if s₁.lastClock < s₁.blockedUntil then
      match interrupted with
      | some error => (s₁, .error error)
      | none =>
        match s₁.clock second with
        | .error error => (s₁, .error error)
        | .ok s₂ =>
          if float.add s₂.lastClock float.tolerance < s₂.blockedUntil then
            (s₂, rateLimitError "Binance USD-M rate-limit wait did not complete")
          else (s₂, .ok ())
    else (s₁, .ok ())

/-- The delay a response asks for, where it asks for one. -/
def backoff (config : RateLimiterConfig) (status : Nat) (retryAfter : Option ℚ) : Option ℚ :=
  if status = 418 then some (retryAfter.getD config.banBackoff)
  else if status = 429 then some (retryAfter.getD config.rateBackoff)
  else none

def observeResponse (float : FloatingPoint) (casefold : String → String) (config : RateLimiterConfig) (s : RateLimiter)
    (response : RateResponse) (reading : Option ℚ) : RateLimiter × Except PyError Unit :=
  match s.clock reading with
  | .error error => (s, .error error)
  | .ok s₁ =>
    match responseHeaders float casefold response.headers with
    | .error error => (s₁, .error error)
    | .ok (counts, retryAfter) =>
      let counted : RateLimiter :=
        { s₁ with counts := fun counter =>
            (counts counter).foldl (fun known entry => Dict.set known entry.1 entry.2) (s₁.counts counter) }
      match backoff config response.status retryAfter with
      | none => (counted, .ok ())
      | some delay =>
        if delay ≤ 0 ∨ config.maximumBackoff < delay then
          (counted, rateLimitError "Binance USD-M provider backoff is invalid")
        else
          ({ counted with blockedUntil := max counted.blockedUntil (float.add counted.lastClock delay) }, .ok ())

end RateLimiter

/-- Requests that are held and answers that are observed, one at a time under the lock. -/
inductive RateEvent
  | request (first second : Option ℚ) (interrupted : Option PyError)
  | response (response : RateResponse) (reading : Option ℚ)

def RateLimiter.step (float : FloatingPoint) (casefold : String → String) (config : RateLimiterConfig)
    (s : RateLimiter) : RateEvent → RateLimiter
  | .request first second interrupted => (s.beforeRequest float first second interrupted).1
  | .response response reading => (s.observeResponse float casefold config response reading).1

/-- The limiter as it is made. -/
def newRateLimiter (start : ℚ) : RateLimiter := ⟨start, 0, fun _ => []⟩

def limiterAfter (float : FloatingPoint) (casefold : String → String) (config : RateLimiterConfig) (start : ℚ)
    (events : List RateEvent) : RateLimiter :=
  runFrom (RateLimiter.step float casefold config) (newRateLimiter start) events

variable {float : FloatingPoint} {casefold : String → String} {config : RateLimiterConfig} {s : RateLimiter}
  {e : RateEvent} {events : List RateEvent} {start time : ℚ}

/-! ### Asking to wait -/

/-- The provider asks to be left alone until the time. -/
def Asks (float : FloatingPoint) (casefold : String → String) (config : RateLimiterConfig) (time : ℚ) (s : RateLimiter)
    (e : RateEvent) : Prop :=
  ∃ response now counts retryAfter delay, e = .response response (some now) ∧ s.lastClock ≤ now ∧
    responseHeaders float casefold response.headers = .ok (counts, retryAfter) ∧
    RateLimiter.backoff config response.status retryAfter = some delay ∧ 0 < delay ∧ delay ≤ config.maximumBackoff ∧
    time = float.add now delay

theorem clock_ok {reading : Option ℚ} {s' : RateLimiter} (h : s.clock reading = .ok s') :
    ∃ now, reading = some now ∧ s.lastClock ≤ now ∧ s' = { s with lastClock := now } := by
  unfold RateLimiter.clock at h
  cases reading with
  | none => cases h
  | some now =>
    dsimp only at h
    split at h
    · cases h
    next hlater => exact ⟨now, rfl, not_lt.mp hlater, (Except.ok.inj h).symm⟩

theorem clock_of_le {now : ℚ} (h : s.lastClock ≤ now) : s.clock (some now) = .ok { s with lastClock := now } :=
  if_neg (not_lt.mpr h)

theorem beforeRequest_kept (first second : Option ℚ) (interrupted : Option PyError) :
    (s.beforeRequest float first second interrupted).1.blockedUntil = s.blockedUntil ∧
      (s.beforeRequest float first second interrupted).1.counts = s.counts := by
  unfold RateLimiter.beforeRequest
  cases hfirst : s.clock first with
  | error error => exact ⟨rfl, rfl⟩
  | ok s₁ =>
    obtain ⟨now, -, -, rfl⟩ := clock_ok hfirst
    dsimp only
    split
    · cases interrupted with
      | some error => exact ⟨rfl, rfl⟩
      | none =>
        dsimp only
        split
        · exact ⟨rfl, rfl⟩
        next s₂ hsecond =>
          obtain ⟨later, -, -, rfl⟩ := clock_ok hsecond
          split <;> exact ⟨rfl, rfl⟩
    · exact ⟨rfl, rfl⟩

/-- What is let through is not before the block, but for the tolerance where it slept. -/
theorem beforeRequest_ok {first second : Option ℚ} {interrupted : Option PyError} :
    (s.beforeRequest float first second interrupted).2 = .ok () ↔
      ∃ now, first = some now ∧ s.lastClock ≤ now ∧ (s.blockedUntil ≤ now ∨ interrupted = none ∧
        ∃ later, second = some later ∧ now ≤ later ∧ s.blockedUntil ≤ float.add later float.tolerance) := by
  constructor
  · intro h
    unfold RateLimiter.beforeRequest at h
    split at h
    · cases h
    next s₁ hfirst =>
      obtain ⟨now, rfl, hnow, rfl⟩ := clock_ok hfirst
      refine ⟨now, rfl, hnow, ?_⟩
      dsimp only at h
      split at h
      · cases interrupted with
        | some error => cases h
        | none =>
          dsimp only at h
          split at h
          · cases h
          next s₂ hsecond =>
            obtain ⟨later, rfl, hlater, rfl⟩ := clock_ok hsecond
            dsimp only at h
            split at h
            · cases h
            next hdone => exact .inr ⟨rfl, later, rfl, hlater, not_lt.mp hdone⟩
      next hfree => exact .inl (not_lt.mp hfree)
  · rintro ⟨now, rfl, hnow, hcase⟩
    unfold RateLimiter.beforeRequest
    rw [clock_of_le hnow]
    by_cases hblocked : now < s.blockedUntil
    · obtain hfree | ⟨rfl, later, rfl, hlater, hdone⟩ := hcase
      · exact absurd hblocked (not_lt.mpr hfree)
      · simp only [if_pos hblocked]
        rw [clock_of_le (s := { s with lastClock := now }) hlater]
        simp only [if_neg (not_lt.mpr hdone)]
    · simp only [if_neg hblocked]

/-- Only what asks to wait moves the block, and only to a later time. -/
theorem blockedUntil_step (float : FloatingPoint) (casefold : String → String) (config : RateLimiterConfig)
    (s : RateLimiter) (e : RateEvent) :
    (∃ asked, Asks float casefold config asked s e ∧
        (s.step float casefold config e).blockedUntil = max s.blockedUntil asked) ∨
      (∀ asked, ¬Asks float casefold config asked s e) ∧
        (s.step float casefold config e).blockedUntil = s.blockedUntil := by
  cases e with
  | request first second interrupted =>
    refine .inr ⟨?_, (beforeRequest_kept first second interrupted).1⟩
    rintro asked ⟨response, now, counts, retryAfter, delay, heq, -⟩
    cases heq
  | response response reading =>
    show (∃ asked, _ ∧ (s.observeResponse float casefold config response reading).1.blockedUntil = _) ∨
      _ ∧ (s.observeResponse float casefold config response reading).1.blockedUntil = _
    unfold RateLimiter.observeResponse
    cases hclock : s.clock reading with
    | error error =>
      refine .inr ⟨?_, rfl⟩
      rintro asked ⟨response, now, counts, retryAfter, delay, heq, hlater, -⟩
      cases heq
      simp [RateLimiter.clock, not_lt.mpr hlater] at hclock
    | ok s₁ =>
      obtain ⟨now, rfl, hlater, rfl⟩ := clock_ok hclock
      dsimp only
      cases hheaders : responseHeaders float casefold response.headers with
      | error error =>
        refine .inr ⟨?_, rfl⟩
        rintro asked ⟨response, now, counts, retryAfter, delay, heq, -, hread, -⟩
        cases heq
        rw [hheaders] at hread
        cases hread
      | ok found =>
        obtain ⟨counts, retryAfter⟩ := found
        dsimp only
        cases hbackoff : RateLimiter.backoff config response.status retryAfter with
        | none =>
          refine .inr ⟨?_, rfl⟩
          rintro asked ⟨response, now, counts, retryAfter, delay, heq, -, hread, hasks, -⟩
          cases heq
          rw [hheaders] at hread
          cases hread
          rw [hbackoff] at hasks
          cases hasks
        | some delay =>
          dsimp only
          split
          next hinvalid =>
            refine .inr ⟨?_, rfl⟩
            rintro asked ⟨response, now, counts, retryAfter, delay, heq, -, hread, hasks, hpos, hle, -⟩
            cases heq
            rw [hheaders] at hread
            cases hread
            rw [hbackoff] at hasks
            cases hasks
            rcases hinvalid with hnonpos | hlong
            · exact absurd hpos (not_lt.mpr hnonpos)
            · exact absurd hle (not_le.mpr hlong)
          next hvalid =>
            obtain ⟨hpos, hle⟩ := not_or.mp hvalid
            exact .inl ⟨float.add now delay, ⟨response, now, counts, retryAfter, delay, rfl, hlater, hheaders, hbackoff,
              not_le.mp hpos, not_lt.mp hle, rfl⟩, rfl⟩

theorem Asks.unique {other : ℚ} (h : Asks float casefold config time s e) (h' : Asks float casefold config other s e) :
    time = other := by
  obtain ⟨response, now, counts, retryAfter, delay, rfl, -, hread, hasks, -, -, rfl⟩ := h
  obtain ⟨response', now', counts', retryAfter', delay', heq, -, hread', hasks', -, -, rfl⟩ := h'
  cases heq
  rw [hread] at hread'
  cases hread'
  rw [hasks] at hasks'
  cases hasks'
  rfl

theorem limiterAfter_concat (events : List RateEvent) (e : RateEvent) :
    limiterAfter float casefold config start (events ++ [e]) =
      (limiterAfter float casefold config start events).step float casefold config e :=
  runFrom_append _ _ _

theorem lastClock_step (s : RateLimiter) (e : RateEvent) :
    s.lastClock ≤ (s.step float casefold config e).lastClock := by
  cases e with
  | request first second interrupted =>
    show _ ≤ (s.beforeRequest float first second interrupted).1.lastClock
    unfold RateLimiter.beforeRequest
    cases hfirst : s.clock first with
    | error error => exact le_rfl
    | ok s₁ =>
      obtain ⟨now, -, hnow, rfl⟩ := clock_ok hfirst
      dsimp only
      split
      · cases interrupted with
        | some error => exact hnow
        | none =>
          dsimp only
          split
          · exact hnow
          next s₂ hsecond =>
            obtain ⟨later, -, hlater, rfl⟩ := clock_ok hsecond
            split <;> exact hnow.trans hlater
      · exact hnow
  | response response reading =>
    show _ ≤ (s.observeResponse float casefold config response reading).1.lastClock
    unfold RateLimiter.observeResponse
    cases hclock : s.clock reading with
    | error error => exact le_rfl
    | ok s₁ =>
      obtain ⟨now, -, hnow, rfl⟩ := clock_ok hclock
      dsimp only
      split
      · exact hnow
      · split
        · exact hnow
        · split <;> exact hnow

theorem start_le_lastClock (events : List RateEvent) :
    start ≤ (limiterAfter float casefold config start events).lastClock := by
  induction events using List.reverseRecOn with
  | nil => exact le_rfl
  | append_singleton events e ih =>
    rw [limiterAfter_concat]
    exact ih.trans (lastClock_step _ e)

/-- Asked for within the run. -/
def Asked (float : FloatingPoint) (casefold : String → String) (config : RateLimiterConfig) (start time : ℚ)
    (events : List RateEvent) : Prop :=
  ∃ before event after, events = before ++ event :: after ∧ Asks float casefold config time
    (limiterAfter float casefold config start before) event

theorem asked_append {e : RateEvent} (h : Asked float casefold config start time (events ++ [e])) :
    Asked float casefold config start time events ∨
      Asks float casefold config time (limiterAfter float casefold config start events) e := by
  obtain ⟨before, event, after, hevents, hasks⟩ := h
  rcases List.eq_nil_or_concat after with rfl | ⟨rest, last, rfl⟩
  · obtain ⟨rfl, heq⟩ := List.append_inj' hevents rfl
    cases heq
    exact .inr hasks
  · rw [List.concat_eq_append, ← List.cons_append, ← List.append_assoc] at hevents
    obtain ⟨rfl, -⟩ := List.append_inj' hevents rfl
    exact .inl ⟨before, event, rest, rfl, hasks⟩

theorem Asked.append (h : Asked float casefold config start time events) (e : RateEvent) :
    Asked float casefold config start time (events ++ [e]) := by
  obtain ⟨before, event, after, rfl, hasks⟩ := h
  exact ⟨before, event, after ++ [e], by rw [List.append_assoc, List.cons_append], hasks⟩

/-- The block ends no earlier than any time that was asked for. -/
theorem Asked.le_blockedUntil (h : Asked float casefold config start time events) :
    time ≤ (limiterAfter float casefold config start events).blockedUntil := by
  induction events using List.reverseRecOn with
  | nil =>
    obtain ⟨before, event, after, hevents, -⟩ := h
    cases before <;> cases hevents
  | append_singleton events e ih =>
    rw [limiterAfter_concat]
    rcases blockedUntil_step float casefold config (limiterAfter float casefold config start events) e with
      ⟨asked, hasks, hblocked⟩ | ⟨hnone, hblocked⟩
    · rw [hblocked]
      rcases asked_append h with hearlier | hlast
      · exact le_max_of_le_left (ih hearlier)
      · exact hlast.unique hasks ▸ le_max_right _ _
    · rw [hblocked]
      rcases asked_append h with hearlier | hlast
      · exact ih hearlier
      · exact absurd hlast (hnone time)

/-- The block ends at a time that was asked for, once one has been. -/
theorem asked_blockedUntil (float : FloatingPoint) (casefold : String → String) (config : RateLimiterConfig) (start : ℚ)
    (events : List RateEvent) :
    (limiterAfter float casefold config start events).blockedUntil = 0 ∨
      Asked float casefold config start (limiterAfter float casefold config start events).blockedUntil events := by
  induction events using List.reverseRecOn with
  | nil => exact .inl rfl
  | append_singleton events e ih =>
    rw [limiterAfter_concat]
    rcases blockedUntil_step float casefold config (limiterAfter float casefold config start events) e with
      ⟨asked, hasks, hblocked⟩ | ⟨-, hblocked⟩
    · rw [hblocked]
      rcases le_total asked (limiterAfter float casefold config start events).blockedUntil with hle | hle
      · rw [max_eq_left hle]
        exact ih.imp_right fun hasked => hasked.append e
      · rw [max_eq_right hle]
        exact .inr ⟨events, e, [], rfl, hasks⟩
    · rw [hblocked]
      exact ih.imp_right fun hasked => hasked.append e

/-- After every run, a request is let through exactly if it finds the clock at or after every time the provider asked
for, or sleeps undisturbed until it is. -/
theorem request_waits (hstart : 0 ≤ start) (events : List RateEvent) (first second : Option ℚ)
    (interrupted : Option PyError) :
    ((limiterAfter float casefold config start events).beforeRequest float first second interrupted).2 = .ok () ↔
      ∃ now, first = some now ∧ (limiterAfter float casefold config start events).lastClock ≤ now ∧
        ((∀ asked, Asked float casefold config start asked events → asked ≤ now) ∨
          interrupted = none ∧ ∃ later, second = some later ∧ now ≤ later ∧
            ∀ asked, Asked float casefold config start asked events → asked ≤ float.add later float.tolerance) := by
  rw [beforeRequest_ok]
  refine exists_congr fun now => and_congr_right fun _ => and_congr_right fun hclock => ?_
  have hpos : 0 ≤ now := (hstart.trans (start_le_lastClock events)).trans hclock
  have hall : ∀ time, (limiterAfter float casefold config start events).blockedUntil ≤ time →
      ∀ asked, Asked float casefold config start asked events → asked ≤ time :=
    fun time hle asked hasked => hasked.le_blockedUntil.trans hle
  constructor
  · rintro (hfree | ⟨hnone, later, hsecond, hlater, hdone⟩)
    · exact .inl (hall now hfree)
    · exact .inr ⟨hnone, later, hsecond, hlater, hall _ hdone⟩
  · rcases asked_blockedUntil float casefold config start events with hzero | hblocked
    · exact fun _ => .inl (hzero ▸ hpos)
    · rintro (hfree | ⟨hnone, later, hsecond, hlater, hdone⟩)
      · exact .inl (hfree _ hblocked)
      · exact .inr ⟨hnone, later, hsecond, hlater, hdone _ hblocked⟩

/-! A request that sleeps for the three seconds the provider asked for. Between 1024 and 2048 a floating-point number is
a multiple of `2⁻⁴²`. -/

def sampleFloat : FloatingPoint :=
  ⟨fun a b => ((a + b) * 2 ^ 42 + 1 / 2).floor / 2 ^ 42, fun text => if text = "3" then some 3 else none,
    4835703278458517 / 2 ^ 82⟩

theorem sampleRateBounds : (0 : ℚ) < 2 ∧ (2 : ℚ) ≤ 300 := by decide +kernel

theorem sampleBanBounds : (0 : ℚ) < 120 ∧ (120 : ℚ) ≤ 300 := by decide +kernel

def sampleLimits : RateLimiterConfig := ⟨2, 120, 300, sampleRateBounds, sampleBanBounds⟩

def sampleRefusal : List RateEvent :=
  [.request (some 1024) none none,
    .response ⟨429, [("retry-after", "3"), ("x-mbx-used-weight-1m", "2400")]⟩ (some 1025)]

theorem sampleRefusal_waits : ((limiterAfter sampleFloat id sampleLimits 1024 sampleRefusal).beforeRequest sampleFloat
    (some 1026) (some 1028) none).2 = .ok () := by
  decide +kernel

theorem request_waits_sample : ∃ now, some (1026 : ℚ) = some now ∧
    (limiterAfter sampleFloat id sampleLimits 1024 sampleRefusal).lastClock ≤ now ∧
      ((∀ asked, Asked sampleFloat id sampleLimits 1024 asked sampleRefusal → asked ≤ now) ∨
        (none : Option PyError) = none ∧ ∃ later, some (1028 : ℚ) = some later ∧ now ≤ later ∧
          ∀ asked, Asked sampleFloat id sampleLimits 1024 asked sampleRefusal →
            asked ≤ sampleFloat.add later sampleFloat.tolerance) :=
  (request_waits (by norm_num) sampleRefusal (some 1026) (some 1028) none).mp sampleRefusal_waits

end AutoTrader.Binance
