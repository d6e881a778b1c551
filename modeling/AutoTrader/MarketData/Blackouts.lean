import AutoTrader.MarketData.EconomicCalendar
import Mathlib.Data.List.Induction

/-! Which blackouts are reported. A calendar reports the releases its own fetch saw coming, for as
long as it is in force; the fetch after it starts from what is still ahead. -/

namespace AutoTrader.MarketData

open AutoTrader.Domain AutoTrader.Runtime AutoTrader.Strategy

variable {settings : FeedSettings}

theorem calendarFrom_ok {now : Instant} {rows : List FeedRow} {calendar : EventCalendar}
    (h : calendarFrom settings now rows = .ok calendar) :
    now = calendar.capturedAt ∧ feedEvents settings now rows = .ok calendar.events := by
  obtain ⟨events, hevents, h⟩ := bind_ok.mp h
  obtain ⟨hcaptured, hsame⟩ := EventCalendar.create_ok h
  exact ⟨hcaptured.symm, hsame ▸ hevents⟩

/-- No row that decodes to a release is left out. -/
theorem mem_feedEvents {now : Instant} {rows : List FeedRow} {events : List MarketEvent}
    (h : feedEvents settings now rows = .ok events) {row : FeedRow} (hrow : row ∈ rows) {event : MarketEvent}
    (hevent : feedEvent settings now row = .ok (some event)) : event ∈ events := by
  obtain ⟨decoded, hdecoded, h⟩ := bind_ok.mp h
  cases h
  exact List.mem_filterMap.mpr ⟨some event, result_mem_of_mapM_ok hdecoded hrow hevent, rfl⟩

theorem FetchedBy.later {queries : List CalendarQuery} {calendar : EventCalendar} (h : FetchedBy settings queries calendar)
    (query : CalendarQuery) : FetchedBy settings (queries ++ [query]) calendar := by
  obtain ⟨fetch, hmem, hfetch⟩ := h
  exact ⟨fetch, List.mem_append_left _ hmem, hfetch⟩

/-- What is returned or held after a query was held before it, or is fetched by it. -/
theorem calendar_cases (s : Calendars) (query : CalendarQuery) :
    (∀ calendar, (s.calendar settings query).1 = .ok (some calendar) →
      s.held = some calendar ∨ FetchedBy settings [query] calendar) ∧
    ∀ calendar, (s.step settings query).held = some calendar →
      s.held = some calendar ∨ FetchedBy settings [query] calendar := by
  unfold Calendars.step Calendars.calendar
  split
  · exact ⟨fun calendar h => .inl (Except.ok.inj h), fun calendar h => .inl h⟩
  · cases hdecode : query.answer.decode with
    | error e => exact ⟨nofun, nofun⟩
    | ok rows =>
      dsimp only
      cases hfrom : calendarFrom settings query.now rows with
      | ok fetched =>
        have hfetched : FetchedBy settings [query] fetched := by
          obtain ⟨hnow, hevents⟩ := calendarFrom_ok hfrom
          exact ⟨query, List.mem_singleton_self _, hnow, rows, hdecode, hevents⟩
        refine ⟨fun calendar h => ?_, fun calendar h => ?_⟩
        · cases h
          exact .inr hfetched
        · cases h
          exact .inr hfetched
      | error e =>
        dsimp only
        split
        · exact ⟨nofun, nofun⟩
        · exact ⟨nofun, fun calendar h => .inl h⟩

theorem FetchedBy.of_last {queries : List CalendarQuery} {query : CalendarQuery} {calendar : EventCalendar}
    (h : FetchedBy settings [query] calendar) : FetchedBy settings (queries ++ [query]) calendar := by
  obtain ⟨fetch, hmem, hfetch⟩ := h
  exact ⟨fetch, List.mem_append_right _ hmem, hfetch⟩

/-- Whatever the queries, what is held was fetched by one of them. -/
theorem held_fetched (queries : List CalendarQuery) : ∀ calendar,
    (runFrom (Calendars.step settings) .start queries).held = some calendar → FetchedBy settings queries calendar := by
  induction queries using List.reverseRecOn with
  | nil => exact nofun
  | append_singleton queries query ih =>
    intro calendar h
    rw [runFrom_append] at h
    rcases (calendar_cases _ query).2 calendar h with hold | hnew
    · exact (ih calendar hold).later query
    · exact hnew.of_last

/-- In every sequence of queries, at whatever instants. -/
theorem blackouts_reported (settings : FeedSettings) (earlier : List CalendarQuery) (query : CalendarQuery) :
    ReportsBlackouts settings earlier query := by
  intro calendar h
  have hfetched : FetchedBy settings (earlier ++ [query]) calendar := by
    rcases (calendar_cases _ query).1 calendar h with hold | hnew
    · exact (held_fetched earlier calendar hold).later query
    · exact hnew.of_last
  obtain ⟨fetch, hmem, hnow, rows, hrows, hevents⟩ := hfetched
  refine ⟨fetch, hmem, hnow, rows, hrows, ?_⟩
  intro row hrow event hevent hstars hbefore hend hagree
  obtain ⟨facts, hfacts⟩ := evaluateEventWindow_returns hagree query.now
  refine ⟨facts, hfacts, evaluateEventWindow_blocks hfacts (mem_feedEvents hevents hrow hevent) ?_⟩
  unfold inBlackout
  rw [decide_eq_true hstars, decide_eq_true hbefore, decide_eq_true hend]
  rfl

/-! ### A first fetch after the release -/

theorem twelveHours_pos : (0 : Int) < 12 * 3600 * 10 ^ 6 := by decide

/-- Half a day of validity; sessions close an hour after a report. -/
def halfDaySettings : FeedSettings where
  sessionCloseFor scheduledAt := .ok (scheduledAt + 3600 * 10 ^ 6)
  weekEnd now := now + 7 * 86400 * 10 ^ 6
  maxValidity := 12 * 3600 * 10 ^ 6
  positive := twelveHours_pos

def inflationRow : FeedRow where
  impact := some "High"
  title := some "CPI y/y"
  country := some "USD"
  date := .aware 0

/-- The feed lists the release, whatever the time. -/
def inflationAt (now : Instant) : CalendarQuery := ⟨now, .rows [some inflationRow]⟩

/-- What the decision at the last query is told. -/
def told (earlier : List CalendarQuery) (query : CalendarQuery) : Option Bool :=
  match ((runFrom (Calendars.step halfDaySettings) .start earlier).calendar halfDaySettings query).1 with
  | .ok (some calendar) => (evaluateEventWindow calendar query.now).toOption.map (·.blockNewExposure)
  | _ => none

/-- A fetch from before the release still reports it an hour later. -/
example : told [inflationAt (-3600 * 10 ^ 6)] (inflationAt (3600 * 10 ^ 6)) = some true := by decide +kernel

theorem told_ok {earlier : List CalendarQuery} {query : CalendarQuery} {block : Bool} (h : told earlier query = some block) :
    ∃ calendar facts,
      ((runFrom (Calendars.step halfDaySettings) .start earlier).calendar halfDaySettings query).1 = .ok (some calendar) ∧
        evaluateEventWindow calendar query.now = .ok facts ∧ facts.blockNewExposure = block := by
  unfold told at h
  split at h
  · rename_i calendar hcalendar
    obtain ⟨facts, hfacts, hblock⟩ := Option.map_eq_some_iff.mp h
    cases heval : evaluateEventWindow calendar query.now with
    | error e =>
      rw [heval] at hfacts
      exact nomatch hfacts
    | ok result =>
      rw [heval] at hfacts
      cases hfacts
      exact ⟨calendar, facts, hcalendar, heval, hblock⟩
  · cases h

theorem inflation_listed : ∃ event, feedEvent halfDaySettings 0 inflationRow = .ok (some event) ∧
    inBlackout (3600 * 10 ^ 6) event = true := by
  have hblackout : (feedEvent halfDaySettings 0 inflationRow).toOption.any (·.any (inBlackout (3600 * 10 ^ 6))) = true := by
    decide +kernel
  cases hrow : feedEvent halfDaySettings 0 inflationRow with
  | error e =>
    rw [hrow] at hblackout
    cases hblackout
  | ok event =>
    rw [hrow] at hblackout
    cases event with
    | none => cases hblackout
    | some event => exact ⟨event, rfl, hblackout⟩

/-- A release the feed has listed all along is in its blackout, and the calendar of a first fetch in it
does not block. -/
theorem blackout_forgotten : ¬ ∀ (settings : FeedSettings) (listed : List (Option FeedRow)) (earlier : List CalendarQuery)
    (query : CalendarQuery), (∀ fetch ∈ earlier ++ [query], fetch.answer = .rows listed) →
    ∀ row, some row ∈ listed → ∀ now event, feedEvent settings now row = .ok (some event) → 2 ≤ event.impactStars →
    event.scheduledAt - preEventBlock ≤ query.now → query.now < blackoutEnd event →
    ∀ calendar, ((runFrom (Calendars.step settings) .start earlier).calendar settings query).1 = .ok (some calendar) →
    ∃ facts, evaluateEventWindow calendar query.now = .ok facts ∧ facts.blockNewExposure = true := by
  intro hclaim
  have htold : told [] (inflationAt (3600 * 10 ^ 6)) = some false := by decide +kernel
  obtain ⟨calendar, facts, hcalendar, hfacts, hblock⟩ := told_ok htold
  obtain ⟨event, hevent, hactive⟩ := inflation_listed
  unfold inBlackout at hactive
  rw [Bool.and_eq_true, Bool.and_eq_true, decide_eq_true_iff, decide_eq_true_iff, decide_eq_true_iff] at hactive
  obtain ⟨⟨hstars, hbefore⟩, hend⟩ := hactive
  have hrows : ∀ fetch ∈ [] ++ [inflationAt (3600 * 10 ^ 6)], fetch.answer = .rows [some inflationRow] := by
    intro fetch hfetch
    rw [List.mem_singleton.mp hfetch]
    rfl
  obtain ⟨facts', hfacts', hblock'⟩ := hclaim halfDaySettings _ _ _ hrows inflationRow (List.mem_singleton_self _) 0 event
    hevent hstars hbefore hend calendar hcalendar
  rw [hfacts] at hfacts'
  cases hfacts'
  rw [hblock] at hblock'
  cases hblock'

end AutoTrader.MarketData
