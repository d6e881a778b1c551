import AutoTrader.Runtime.Dict
import AutoTrader.Strategy.Facts
import Mathlib.Algebra.Group.Int.Defs
import Mathlib.Data.List.Sort

/-! The economic calendar of one fetch, and the blackouts around its releases. A calendar holds
no release from before its capture. -/

namespace AutoTrader.Strategy

open AutoTrader.Domain AutoTrader.Runtime

/-- Ten minutes. -/
def preEventBlock : Int := 10 * 60 * 10 ^ 6

def normalPostEventBlock : Int := 10 * 60 * 10 ^ 6

def strongOrUnknownPostEventBlock : Int := 120 * 60 * 10 ^ 6

@[ext]
structure MarketEvent where
  eventId : String
  sourceKey : String
  scheduledAt : Instant
  impactStars : Nat
  strongSurprise : Option Bool
  isNfp : Bool
  sessionCloseAt : Option Instant
  id_text : untrimmed eventId = false
  key_text : untrimmed sourceKey = false
  stars : 1 ≤ impactStars ∧ impactStars ≤ 3
  nfp_close : isNfp = true → sessionCloseAt.any (fun close => decide (scheduledAt < close)) = true

instance : DecidableEq MarketEvent := fun _ _ => decidable_of_iff _ MarketEvent.ext_iff.symm

/-- `MarketEvent.__post_init__`. -/
def MarketEvent.create (eventId sourceKey : String) (scheduledAt : Instant) (impactStars : Nat)
    (strongSurprise : Option Bool) (isNfp : Bool) (sessionCloseAt : Option Instant) : Except PyError MarketEvent :=
  if hid : untrimmed eventId = false then
    if hkey : untrimmed sourceKey = false then
      if hstars : 1 ≤ impactStars ∧ impactStars ≤ 3 then
        if hclose : isNfp = true → sessionCloseAt.any (fun close => decide (scheduledAt < close)) = true then
          .ok ⟨eventId, sourceKey, scheduledAt, impactStars, strongSurprise, isNfp, sessionCloseAt, hid, hkey, hstars, hclose⟩
        else .error ⟨.valueError, "NFP requires a later authoritative session close"⟩
      else .error ⟨.valueError, "impact_stars must be an integer from one through three"⟩
    else .error ⟨.valueError, "source_key must be non-empty trimmed text"⟩
  else .error ⟨.valueError, "event_id must be non-empty trimmed text"⟩

/-- One fetch of the economic calendar, and what it returned. -/
structure EventCalendar where
  capturedAt : Instant
  validUntil : Instant
  events : List MarketEvent
  valid : capturedAt ≤ validUntil
  upcoming : ∀ event ∈ events, capturedAt ≤ event.scheduledAt

/-- `EventCalendar.__post_init__`. -/
def EventCalendar.create (capturedAt validUntil : Instant) (events : List MarketEvent) : Except PyError EventCalendar :=
  if hvalid : capturedAt ≤ validUntil then
    if hupcoming : ∀ event ∈ events, capturedAt ≤ event.scheduledAt then
      .ok ⟨capturedAt, validUntil, events, hvalid, hupcoming⟩
    else .error ⟨.valueError, "a calendar cannot carry an event from before its capture"⟩
  else .error ⟨.valueError, "calendar validity cannot end before capture"⟩

theorem EventCalendar.create_ok {capturedAt validUntil : Instant} {events : List MarketEvent} {calendar : EventCalendar}
    (h : create capturedAt validUntil events = .ok calendar) :
    calendar.capturedAt = capturedAt ∧ calendar.events = events := by
  unfold create at h
  split at h
  · split at h
    · cases h
      exact ⟨rfl, rfl⟩
    · cases h
  · cases h

/-! ### Blackouts -/

/-- `_blackout_end`. A report of the session always has its close. -/
def blackoutEnd (event : MarketEvent) : Instant :=
  if event.isNfp then event.sessionCloseAt.getD event.scheduledAt
  else if event.strongSurprise = some false then event.scheduledAt + normalPostEventBlock
  else event.scheduledAt + strongOrUnknownPostEventBlock

/-- The decision falls in the blackout of a release of two stars or more. -/
def inBlackout (decision : Instant) (event : MarketEvent) : Bool :=
  decide (2 ≤ event.impactStars) && decide (event.scheduledAt - preEventBlock ≤ decision) &&
    decide (decision < blackoutEnd event)

/-- By their schedule; ids decide between releases of one moment. -/
def EventOrder (a b : MarketEvent) : Prop :=
  a.scheduledAt < b.scheduledAt ∨ (a.scheduledAt = b.scheduledAt ∧ a.eventId ≤ b.eventId)

instance : DecidableRel EventOrder := fun _ _ => inferInstanceAs (Decidable (_ ∨ _))

def eventCollision : PyError := ⟨.valueError, "event identity payload collision"⟩

/-- One event of `_deduplicate`. -/
def addEvent (byId : List (String × MarketEvent)) (event : MarketEvent) : Except PyError (List (String × MarketEvent)) :=
  if (Dict.get? byId event.eventId).all (· = event) then .ok (Dict.set byId event.eventId event)
  else .error eventCollision

/-- `_deduplicate`. -/
def deduplicate (events : List MarketEvent) : Except PyError (List MarketEvent) := do
  let byId ← events.foldlM addEvent []
  .ok ((byId.map (·.2)).insertionSort EventOrder)

/-- `weekday`: Monday is zero. -/
def weekday (t : Instant) : Int := (t / (86400 * 10 ^ 6) + 3) % 7

def mondayScorePenalty (decision : Instant) : Int :=
  if weekday decision = 0 then 1 else 0

/-- `_blocked`. -/
def blocked (state : EvidenceState) (mondayScorePenalty : Int) : CalendarFacts where
  state := state
  blockNewExposure := true
  closeIntradayPositions := false
  activeEventIds := []
  blackoutEndsAt := none
  mondayScorePenalty := mondayScorePenalty

/-- `evaluate_event_window`. -/
def evaluateEventWindow (calendar : EventCalendar) (decision : Instant) : Except PyError CalendarFacts :=
  let penalty := mondayScorePenalty decision
  if decision < calendar.capturedAt then .ok (blocked .unknown penalty)
  else if calendar.validUntil < decision then .ok (blocked .stale penalty)
  else do
    let canonical ← deduplicate calendar.events
    let active := canonical.filter (inBlackout decision)
    .ok
      { state := .available
        blockNewExposure := !active.isEmpty
        closeIntradayPositions := active.any fun event => decide (decision < event.scheduledAt)
        activeEventIds := (active.map (·.eventId)).insertionSort (· ≤ ·)
        blackoutEndsAt := (active.map blackoutEnd).max?
        mondayScorePenalty := penalty }

/-! ### What a decision is told -/

/-- Every release is kept once, unless two of one identity differ. -/
theorem addEvent_ok {byId byId' : List (String × MarketEvent)} {event : MarketEvent} (h : addEvent byId event = .ok byId')
    {other : MarketEvent} : other ∈ byId'.map (·.2) ↔ other ∈ byId.map (·.2) ∨ other = event := by
  unfold addEvent at h
  split at h
  · rename_i hsame
    cases h
    cases hheld : Dict.get? byId event.eventId with
    | none =>
      rw [Dict.set_new (Dict.get?_eq_none.mp hheld)]
      simp
    | some held =>
      rw [hheld] at hsame
      have heq : held = event := by simpa using hsame
      subst heq
      rw [Dict.set_same hheld]
      refine ⟨.inl, ?_⟩
      rintro (hmem | rfl)
      · exact hmem
      · exact List.mem_map.mpr ⟨_, Dict.mem_of_get? hheld, rfl⟩
  · cases h

theorem foldlM_addEvent {events : List MarketEvent} {byId byId' : List (String × MarketEvent)}
    (h : events.foldlM addEvent byId = .ok byId') {other : MarketEvent} :
    other ∈ byId'.map (·.2) ↔ other ∈ byId.map (·.2) ∨ other ∈ events := by
  induction events generalizing byId with
  | nil =>
    cases h
    simp
  | cons event events ih =>
    rw [List.foldlM_cons] at h
    obtain ⟨next, hnext, h⟩ := bind_ok.mp h
    rw [ih h, addEvent_ok hnext, List.mem_cons, or_assoc]

theorem mem_deduplicate {events canonical : List MarketEvent} (h : deduplicate events = .ok canonical) {event : MarketEvent} :
    event ∈ canonical ↔ event ∈ events := by
  obtain ⟨byId, hfold, h⟩ := bind_ok.mp h
  cases h
  rw [List.mem_insertionSort, foldlM_addEvent hfold]
  simp

/-- No two releases of one identity differ. -/
def Agreeing (events : List MarketEvent) : Prop :=
  ∀ event ∈ events, ∀ other ∈ events, event.eventId = other.eventId → event = other

theorem addEvent_returns {byId : List (String × MarketEvent)} {event : MarketEvent}
    (hkeyed : ∀ entry ∈ byId, entry.1 = entry.2.eventId)
    (hagree : ∀ held ∈ byId.map (·.2), held.eventId = event.eventId → held = event) :
    addEvent byId event = .ok (Dict.set byId event.eventId event) := by
  have hsame : (Dict.get? byId event.eventId).all (· = event) = true := by
    cases hheld : Dict.get? byId event.eventId with
    | none => rfl
    | some held =>
      have hmem := Dict.mem_of_get? hheld
      have heq : held = event := hagree held (List.mem_map.mpr ⟨_, hmem, rfl⟩) (hkeyed _ hmem).symm
      simpa using heq
  unfold addEvent
  rw [if_pos hsame]

theorem foldlM_addEvent_returns {events : List MarketEvent} {byId : List (String × MarketEvent)}
    (hkeyed : ∀ entry ∈ byId, entry.1 = entry.2.eventId) (hagree : Agreeing (byId.map (·.2) ++ events)) :
    ∃ byId', events.foldlM addEvent byId = .ok byId' := by
  induction events generalizing byId with
  | nil => exact ⟨byId, rfl⟩
  | cons event events ih =>
    have hnext : addEvent byId event = .ok (Dict.set byId event.eventId event) :=
      addEvent_returns hkeyed fun held hheld => hagree held (List.mem_append_left _ hheld) event
        (List.mem_append_right _ List.mem_cons_self)
    rw [List.foldlM_cons, hnext]
    refine ih ?_ ?_
    · intro entry hentry
      rcases Dict.mem_set hentry with hold | rfl
      · exact hkeyed entry hold
      · rfl
    · intro a ha b hb
      have hback : ∀ {x}, x ∈ (Dict.set byId event.eventId event).map (·.2) ++ events →
          x ∈ byId.map (·.2) ++ event :: events := by
        intro x hx
        rcases List.mem_append.mp hx with hx | hx
        · rcases (addEvent_ok hnext).mp hx with hold | rfl
          · exact List.mem_append_left _ hold
          · exact List.mem_append_right _ List.mem_cons_self
        · exact List.mem_append_right _ (List.mem_cons_of_mem _ hx)
      exact hagree a (hback ha) b (hback hb)

/-- An evaluation only fails on two releases of one identity that differ. -/
theorem evaluateEventWindow_returns {calendar : EventCalendar} (h : Agreeing calendar.events) (decision : Instant) :
    ∃ facts, evaluateEventWindow calendar decision = .ok facts := by
  unfold evaluateEventWindow
  dsimp only
  split
  · exact ⟨_, rfl⟩
  · split
    · exact ⟨_, rfl⟩
    · obtain ⟨byId, hfold⟩ : ∃ byId, calendar.events.foldlM addEvent [] = .ok byId := foldlM_addEvent_returns nofun h
      unfold deduplicate
      rw [hfold]
      exact ⟨_, rfl⟩

/-- Whatever the evaluation returns, it blocks in the blackout of a release the calendar holds. -/
theorem evaluateEventWindow_blocks {calendar : EventCalendar} {decision : Instant} {facts : CalendarFacts}
    (h : evaluateEventWindow calendar decision = .ok facts) {event : MarketEvent} (hmem : event ∈ calendar.events)
    (hblackout : inBlackout decision event = true) : facts.blockNewExposure = true := by
  unfold evaluateEventWindow at h
  dsimp only at h
  split at h
  · cases h
    rfl
  · split at h
    · cases h
      rfl
    · obtain ⟨canonical, hcanonical, h⟩ := bind_ok.mp h
      cases h
      have hactive : event ∈ canonical.filter (inBlackout decision) :=
        List.mem_filter.mpr ⟨(mem_deduplicate hcanonical).mpr hmem, hblackout⟩
      simpa using List.ne_nil_of_mem hactive

end AutoTrader.Strategy
