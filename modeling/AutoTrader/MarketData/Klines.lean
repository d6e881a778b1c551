import AutoTrader.MarketData.TapeBars

/-! Completed bars from the venue's klines: pages are read backwards until the history is covered, and compiled
together into bars without a gap. -/

namespace AutoTrader.MarketData

open AutoTrader.Binance AutoTrader.Domain AutoTrader.Runtime

/-! ### Rows -/

def klineInvalid : PyError := valueError "Binance USD-M kline response is invalid"

/-- `CompletedOhlcvBar`, of numbers. -/
def checkBar (bar : OhlcvBar) : Except PyError OhlcvBar := do
  require (0 < bar.openPrice && 0 < bar.high && 0 < bar.low && 0 < bar.close)
    (valueError "completed OHLCV prices must be positive")
  require (bar.low ≤ bar.high) (valueError "completed OHLCV high must be at least low")
  require (bar.low ≤ bar.openPrice && bar.openPrice ≤ bar.high) (valueError "completed OHLCV open must be within range")
  require (bar.low ≤ bar.close && bar.close ≤ bar.high) (valueError "completed OHLCV close must be within range")
  require (0 ≤ bar.volume) (valueError "completed OHLCV volume must be non-negative")
  pure bar

/-- The open time and the bar of a row. -/
def decodeKline (milliseconds : Int) : Json → Except PyError (Int × OhlcvBar)
  | .arr [opened, openPrice, high, low, close, volume, closed, _, _, _, _, _] => do
    let openedMs ← decodeInteger opened "kline open time"
    let closedMs ← decodeInteger closed "kline close time"
    require (openedMs % milliseconds = 0 && closedMs = openedMs + milliseconds - 1)
      (valueError "Binance USD-M kline boundary is invalid")
    require (openedMs + milliseconds ≤ 253402300799999) (valueError "date value out of range")
    let openPrice ← decodeDecimal openPrice "kline open"
    let high ← decodeDecimal high "kline high"
    let low ← decodeDecimal low "kline low"
    let close ← decodeDecimal close "kline close"
    let volume ← decodeDecimal volume "kline volume"
    let bar ← checkBar ⟨completedAt milliseconds openedMs, openPrice, high, low, close, volume⟩
    pure (openedMs, bar)
  | _ => .error klineInvalid

/-- `_integer(_sequence(raw)[0], "kline open time")`. -/
def openTime : Json → Except PyError Int
  | .arr (opened :: _) => do
    let openedMs ← decodeInteger opened "kline open time"
    pure openedMs
  | .arr [] => .error ⟨.indexError, "list index out of range"⟩
  | _ => .error klineInvalid

/-- Entries by their open times. -/
def OpensBefore (a b : Int × OhlcvBar) : Prop := a.1 ≤ b.1

instance (a b : Int × OhlcvBar) : Decidable (OpensBefore a b) := inferInstanceAs (Decidable (_ ≤ _))

instance : Std.Total OpensBefore := ⟨fun a b => le_total a.1 b.1⟩

instance : IsTrans (Int × OhlcvBar) OpensBefore := ⟨fun _ _ _ hab hbc => le_trans hab hbc⟩

/-- `_compile_klines`. -/
def compileKlines (rows : List Json) (timeframe : Int) (endAt : Instant) : Except PyError (List OhlcvBar) := do
  let milliseconds ← durationMs timeframe
  let byOpen ← rows.foldlM (fun byOpen raw => do
    let entry ← decodeKline milliseconds raw
    collectBy Prod.fst (valueError "Binance USD-M kline correction conflict") byOpen entry) []
  let opened := (byOpen.map (·.2)).insertionSort OpensBefore
  if opened.IsChain fun left right => right.1 - left.1 = milliseconds then
    pure ((opened.map (·.2)).filter (·.timestamp ≤ endAt))
  else .error (valueError "Binance USD-M kline gap is unresolved")

/-! ### Pages -/

def restLimit : ℕ := 1500

/-- `min` of the open times of a page. -/
def oldestOpen (page : List Json) : Except PyError (Option Int) := do
  let opened ← page.mapM openTime
  pure opened.min?

/-- `_paged_klines`, for so many rounds; `none` while it still runs. -/
def pagedKlines (klines : Int → ℕ → Except PyError (List Json)) (earliest : Option Int) :
    (rounds : ℕ) → (cursor : Int) → (collected : List Json) → Option (Except PyError (List Json))
  | 0, _, _ => none
  | rounds + 1, cursor, collected =>
    match klines cursor restLimit with
    | .error e => some (.error e)
    | .ok page =>
      let collected := collected ++ page
      match earliest with
      | none => some (.ok collected)
      | some earliest =>
        match oldestOpen page with
        | .error e => some (.error e)
        | .ok none => some (.ok collected)
        | .ok (some oldest) =>
          if oldest ≤ earliest ∨ page.length < restLimit then some (.ok collected)
          else pagedKlines klines (some earliest) rounds (oldest - 1) collected

/-- The timeframes of `_TIMEFRAMES`. -/
inductive KlineTimeframe
  | oneMinute
  | fiveMinutes
  | fifteenMinutes
  | oneHour
  | oneDay

/-- In microseconds. -/
def KlineTimeframe.duration : KlineTimeframe → Int
  | oneMinute => 60 * 10 ^ 6
  | fiveMinutes => 300 * 10 ^ 6
  | fifteenMinutes => 900 * 10 ^ 6
  | oneHour => 3600 * 10 ^ 6
  | oneDay => 86400 * 10 ^ 6

/-- The cursor a read starts from, and how far back it has to reach. -/
def readWindow (endAt : Instant) (history : Option Int) : Except PyError (Int × Option Int) := do
  require (history.all fun depth => 0 < depth) (valueError "requested history must be positive")
  let cursor ← epochMs endAt
  match history with
  | none => pure (cursor, none)
  | some depth => do
    let earliest ← epochMs (endAt - depth)
    pure (cursor, some earliest)

/-- `completed_bars` of a timeframe the venue has. -/
def completedBars (klines : Int → ℕ → Except PyError (List Json)) (rounds : ℕ) (timeframe : KlineTimeframe)
    (endAt : Instant) (history : Option Int) : Option (Except PyError (List OhlcvBar)) :=
  match readWindow endAt history with
  | .error e => some (.error e)
  | .ok (cursor, earliest) =>
    (pagedKlines klines earliest rounds cursor []).map fun rows => do
      compileKlines (← rows) timeframe.duration endAt

/-! ### The venue -/

/-- A grid of klines without a gap, one row a bar. -/
structure KlineVenue where
  timeframe : KlineTimeframe
  first : ℕ
  count : ℕ
  row : ℕ → Json
  bar : ℕ → OhlcvBar

namespace KlineVenue

variable (venue : KlineVenue)

def milliseconds : Int := venue.timeframe.duration / 1000

/-- When a bar opened, in milliseconds. -/
def openedAt (i : ℕ) : Int := (venue.first + i : ℕ) * venue.milliseconds

/-- Every row is that of its bar. -/
def Sound : Prop := ∀ i < venue.count, decodeKline venue.milliseconds (venue.row i) = .ok (venue.openedAt i, venue.bar i)

end KlineVenue

/-! ### Reading a page -/

section

variable {venue : KlineVenue}

theorem milliseconds_pos (venue : KlineVenue) : 0 < venue.milliseconds := by
  unfold KlineVenue.milliseconds
  cases venue.timeframe <;> decide

theorem openedAt_nonneg (i : ℕ) : 0 ≤ venue.openedAt i :=
  mul_nonneg (Int.natCast_nonneg _) (milliseconds_pos venue).le

/-- The entry a row is compiled to. -/
def KlineVenue.entry (venue : KlineVenue) (i : ℕ) : Int × OhlcvBar := (venue.openedAt i, venue.bar i)

/-- The answers of a venue in the order of its bars. -/
def KlineVenue.latest (venue : KlineVenue) (endTime : Int) (limit : ℕ) : List Json :=
  let opened := (List.range venue.count).filter fun i => venue.openedAt i ≤ endTime
  (opened.drop (opened.length - limit)).map venue.row

end

/-! ### One minute of klines -/

end AutoTrader.MarketData
