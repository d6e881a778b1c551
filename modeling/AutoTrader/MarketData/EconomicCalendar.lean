import AutoTrader.Domain.Wire
import AutoTrader.Runtime.Runs
import AutoTrader.Strategy.EventCalendar

/-! The weekly feed of releases. One fetch is held until it expires; a fetch that fails leaves no
calendar, and a release that is already past when it is fetched is dropped. -/

namespace AutoTrader.MarketData

open AutoTrader.Domain AutoTrader.Runtime AutoTrader.Strategy

/-! ### The feed -/

/-- A date of the feed, as `datetime.fromisoformat` reads it. -/
inductive FeedDate
  | missing
  | unreadable (text : String)
  | withoutOffset (text : String)
  | aware (instant : Instant)

/-- A row. A value that is absent or no text is `none`. -/
structure FeedRow where
  impact : Option String
  title : Option String
  country : Option String
  date : FeedDate

/-- What the feed answers with. A row that is no object is `none`. -/
inductive FeedAnswer
  | unreachable
  | status (code : Nat)
  | notJson
  | notList
  | rows (rows : List (Option FeedRow))

def calendarError (message : String) : PyError := ⟨.economicCalendarError, message⟩

/-- `_rows`. -/
def FeedAnswer.decode : FeedAnswer → Except PyError (List FeedRow)
  | .unreachable => .error (calendarError "the calendar feed is unreachable")
  | .status code => .error (calendarError ("the calendar feed answered " ++ toString code))
  | .notJson => .error (calendarError "the calendar feed is not JSON")
  | .notList => .error (calendarError "the calendar feed is not a list")
  | .rows listed => .ok (listed.filterMap id)

/-- The close of the session of a report, the end of the week of the feed, and how long one fetch
speaks for. -/
structure FeedSettings where
  sessionCloseFor : Instant → Except PyError Instant
  weekEnd : Instant → Instant
  maxValidity : Int
  positive : 0 < maxValidity

/-! ### Rows -/

/-- `_IMPACT_STARS`. -/
def impactStars : String → Option Nat
  | "Low" => some 1
  | "Medium" => some 2
  | "High" => some 3
  | _ => none

/-- `str.strip`. -/
def strip (text : String) : String :=
  String.ofList ((text.toList.dropWhile isSpace).reverse.dropWhile isSpace).reverse

/-- `_text`. -/
def feedText (value : Option String) (name : String) : Except PyError String :=
  match value with
  | none => .error (calendarError ("a calendar row carries no " ++ name))
  | some value =>
    if (strip value).isEmpty then .error (calendarError ("a calendar row carries no " ++ name)) else .ok (strip value)

/-- `_instant`. The texts of the errors quote the date. -/
def feedInstant : FeedDate → Except PyError Instant
  | .missing => .error (calendarError "a calendar row carries no date")
  | .unreadable text => .error (calendarError ("unreadable calendar date '" ++ text ++ "'"))
  | .withoutOffset text => .error (calendarError ("calendar date '" ++ text ++ "' carries no offset"))
  | .aware instant => .ok instant

/-- `_event`. -/
def feedEvent (settings : FeedSettings) (now : Instant) (row : FeedRow) : Except PyError (Option MarketEvent) :=
  match row.impact with
  | none => .error (calendarError "a calendar row carries no impact")
  | some impact =>
    match impactStars impact with
    | none => .ok none
    | some stars => do
      let title ← feedText row.title "title"
      let country ← feedText row.country "country"
      let scheduledAt ← feedInstant row.date
      if scheduledAt < now then .ok none
      else do
        let isNfp := decide (title = "Non-Farm Employment Change") && decide (country = "USD")
        let sessionCloseAt ← if isNfp then (settings.sessionCloseFor scheduledAt).map some else .ok none
        let event ← MarketEvent.create (country ++ "|" ++ title ++ "|" ++ isoformat scheduledAt) "FOREXFACTORY" scheduledAt
          stars none isNfp sessionCloseAt
        .ok (some event)

/-- `_events`. -/
def feedEvents (settings : FeedSettings) (now : Instant) (rows : List FeedRow) : Except PyError (List MarketEvent) := do
  let events ← rows.mapM (feedEvent settings now)
  .ok (events.filterMap id)

/-- The calendar of a fetch, after its rows arrived. -/
def calendarFrom (settings : FeedSettings) (now : Instant) (rows : List FeedRow) : Except PyError EventCalendar := do
  let events ← feedEvents settings now rows
  EventCalendar.create now (min (now + settings.maxValidity) (settings.weekEnd now)) events

/-! ### Fetches -/

/-- `ForexFactoryCalendars`. -/
structure Calendars where
  held : Option EventCalendar
  fetches : Nat
  failures : Nat

/-- A call of `calendar`, with what the feed answers should it be asked. -/
structure CalendarQuery where
  now : Instant
  answer : FeedAnswer

/-- A held calendar speaks for the moment. -/
def inForce (now : Instant) (held : EventCalendar) : Bool :=
  decide (held.capturedAt ≤ now) && decide (now < held.validUntil)

/-- `calendar`. An error of the feed leaves nothing held; any other goes through. -/
def Calendars.calendar (settings : FeedSettings) (s : Calendars) (query : CalendarQuery) :
    Except PyError (Option EventCalendar) × Calendars :=
  if s.held.any (inForce query.now) then (.ok s.held, s)
  else
    match query.answer.decode with
    | .error _ => (.ok none, { s with held := none, failures := s.failures + 1 })
    | .ok rows =>
      match calendarFrom settings query.now rows with
      | .ok fetched => (.ok (some fetched), { s with held := some fetched, fetches := s.fetches + 1 })
      | .error error =>
        if error.kind = .economicCalendarError then
          (.ok none, { held := none, fetches := s.fetches + 1, failures := s.failures + 1 })
        else (.error error, { s with fetches := s.fetches + 1 })

def Calendars.step (settings : FeedSettings) (s : Calendars) (query : CalendarQuery) : Calendars :=
  (s.calendar settings query).2

def Calendars.start : Calendars := ⟨none, 0, 0⟩

/-! ### Reports -/

/-- A calendar comes from a query at its capture, and carries every row of its answer that was not
past then. -/
def FetchedBy (settings : FeedSettings) (queries : List CalendarQuery) (calendar : EventCalendar) : Prop :=
  ∃ fetch ∈ queries, fetch.now = calendar.capturedAt ∧ ∃ rows, fetch.answer.decode = .ok rows ∧
    feedEvents settings fetch.now rows = .ok calendar.events

/-- After a run of queries, the next one returns no calendar, or one of some fetch up to then: a release
of two stars or more that was not past at the fetch is reported from ten minutes before it until its
blackout ends, where no two rows of the fetch are of one identity and differ. -/
def ReportsBlackouts (settings : FeedSettings) (earlier : List CalendarQuery) (query : CalendarQuery) : Prop :=
  ∀ calendar, ((runFrom (Calendars.step settings) .start earlier).calendar settings query).1 = .ok (some calendar) →
    ∃ fetch ∈ earlier ++ [query], fetch.now = calendar.capturedAt ∧ ∃ rows, fetch.answer.decode = .ok rows ∧
      ∀ row ∈ rows, ∀ event, feedEvent settings fetch.now row = .ok (some event) → 2 ≤ event.impactStars →
        event.scheduledAt - preEventBlock ≤ query.now → query.now < blackoutEnd event →
        Agreeing calendar.events →
        ∃ facts, evaluateEventWindow calendar query.now = .ok facts ∧ facts.blockNewExposure = true

end AutoTrader.MarketData
