import AutoTrader.MarketData.AggregateTrades
import AutoTrader.Runtime.Dict
import AutoTrader.Runtime.Runs
import Mathlib.Algebra.Order.Floor.Semiring
import Mathlib.Data.Rat.Floor

/-! The reader of one instrument's tape, with its cache and its checkpoint, and the store it reads and
writes. A reader is used by one call at a time, and a restart is a new reader. -/

namespace AutoTrader.MarketData

open AutoTrader.Binance AutoTrader.Domain AutoTrader.Runtime

/-! ### The store -/

/-- The rows of the instrument, in the order they were written. -/
structure TapeStore where
  trades : List TradePrint
  checkpoint : Option MarketCheckpoint

/-- What a `NUMERIC(38, 18)` column keeps of a positive number. -/
def numericColumn (value : ℚ) : ℚ := ⌊value * 10 ^ 18 + 1 / 2⌋ / 10 ^ 18

def TradePrint.row (trade : TradePrint) : TradePrint :=
  { trade with price := numericColumn trade.price, quantity := numericColumn trade.quantity }

/-- The column widths and check constraints of a row. -/
def TradePrint.fitsTable (row : TradePrint) : Bool :=
  decide (row.tradeId < 10 ^ 64) && decide (0 < row.price) && decide (row.price < 10 ^ 20) &&
    decide (0 < row.quantity) && decide (row.quantity < 10 ^ 20)

namespace TapeStore

def empty : TapeStore := ⟨[], none⟩

/-- `find_trade`. -/
def findTrade (t : TapeStore) (tradeId : Nat) : Option TradePrint :=
  t.trades.find? fun trade => decide (trade.tradeId = tradeId)

/-- The trades that are not stored. -/
def missing (t : TapeStore) (trades : List TradePrint) : List TradePrint :=
  trades.filter fun trade => !(t.trades.map TradePrint.tradeId).contains trade.tradeId

/-- The later of two checkpoints, the second where they are at one id. -/
def nextCheckpoint (existing : Option MarketCheckpoint) (checkpoint : MarketCheckpoint) : MarketCheckpoint :=
  match existing with
  | none => checkpoint
  | some existing => if existing.lastAggregateTradeId ≤ checkpoint.lastAggregateTradeId then checkpoint else existing

/-- `MySqlMarketTape.persist`, one transaction. -/
def persist (t : TapeStore) (trades : List TradePrint) (checkpoint : MarketCheckpoint) : Except PyError TapeStore := do
  let rows := (t.missing trades).map TradePrint.row
  require (rows.all TradePrint.fitsTable && decide (rows.map TradePrint.tradeId).Nodup)
    ⟨.databaseError, "trade row violates a constraint"⟩
  require (checkpoint.lastAggregateTradeId < 2 ^ 63) ⟨.databaseError, "Out of range value"⟩
  pure ⟨t.trades ++ rows, some (nextCheckpoint t.checkpoint checkpoint)⟩

end TapeStore

/-! ### The reader -/

/-- `BinanceUsdmMarketData`, as far as it is the tape's. -/
structure TapeReader where
  checkpoint : Option MarketCheckpoint
  checkpointLoaded : Bool
  trades : List (Nat × TradePrint)

/-- How a call of `persist` ends: as the store answers, or with an exception that was raised before or
after the commit. -/
inductive PersistFate
  | works
  | failsBefore (e : PyError)
  | failsAfter (e : PyError)

/-- What the venue and the store answer during one call. -/
structure TapeAnswers where
  loadCheckpoint : Option PyError
  findTrade : Nat → Option PyError
  aggregateTrades : Nat → Nat → Except PyError (List RawTrade)
  persist : PersistFate

def correctionConflict : PyError := valueError "Binance USD-M aggregate trade correction conflict"

namespace TapeReader

def new : TapeReader := ⟨none, false, []⟩

/-- `_load_checkpoint`. -/
def loadCheckpoint (reader : TapeReader) (store : TapeStore) (raised : Option PyError) : Except PyError TapeReader :=
  if reader.checkpointLoaded then .ok reader
  else
    match raised with
    | some e => .error e
    | none => .ok { reader with checkpoint := store.checkpoint, checkpointLoaded := true }

variable (reader : TapeReader) (store : TapeStore) (answers : TapeAnswers)

/-- `_already_stored`. -/
def alreadyStored (incoming : TradePrint) : Except PyError Bool :=
  match Dict.get? reader.trades incoming.tradeId with
  | some cached => if cached = incoming then .ok true else .error correctionConflict
  | none =>
    match reader.checkpoint with
    | none => .ok false
    | some checkpoint =>
      if checkpoint.lastAggregateTradeId < incoming.tradeId then .ok false
      else
        match answers.findTrade incoming.tradeId with
        | some e => .error e
        | none =>
          match store.findTrade incoming.tradeId with
          | some persisted => if persisted = incoming then .ok true else .error correctionConflict
          | none => .ok true

def freshTrades : List TradePrint → Except PyError (List TradePrint)
  | [] => .ok []
  | incoming :: later => do
    let stored ← reader.alreadyStored store answers incoming
    let fresh ← freshTrades later
    pure (if stored then fresh else incoming :: fresh)

/-- The trades before the first fresh one that the reader has not seen. -/
def recovered (symbol : String) (first : TradePrint) : Except PyError (List TradePrint) :=
  match reader.checkpoint with
  | none => .ok []
  | some checkpoint =>
    let firstMissing := checkpoint.lastAggregateTradeId + 1
    if firstMissing < first.tradeId then
      recoverGap symbol answers.aggregateTrades first.tradeId (first.tradeId - firstMissing) firstMissing
    else .ok []

/-- `_ingest_page` up to what it persists. -/
def newTrades (symbol : String) (incoming : List TradePrint) : Except PyError (List TradePrint) := do
  match ← reader.freshTrades store answers incoming with
  | [] => pure []
  | first :: later => do
    let recovered ← reader.recovered answers symbol first
    requireTradeSequence (recovered ++ first :: later) reader.checkpoint
    pure (recovered ++ first :: later)

/-- `_remember`. -/
def remember (trades : List TradePrint) : List (Nat × TradePrint) :=
  let kept := trades.foldl (fun d trade => Dict.set d trade.tradeId trade) reader.trades
  let excess := ((kept.map Prod.fst).insertionSort (· ≤ ·)).take (kept.length - 10000)
  kept.filter fun entry => !excess.contains entry.1

end TapeReader

/-! ### One call -/

structure TapeState where
  reader : TapeReader
  store : TapeStore

namespace TapeState

def initial : TapeState := ⟨.new, .empty⟩

/-- What becomes of the trades a page brings. -/
def persistNew (s : TapeState) (answers : TapeAnswers) (trades : List TradePrint) (last : TradePrint) :
    Except PyError Unit × TapeState :=
  match answers.persist, s.store.persist trades last.checkpoint with
  | .failsBefore e, _ => (.error e, s)
  | _, .error e => (.error e, s)
  | .failsAfter e, .ok store => (.error e, { s with store := store })
  | .works, .ok store =>
    (.ok (), ⟨{ s.reader with checkpoint := some last.checkpoint, trades := s.reader.remember trades }, store⟩)

/-- `_ingest_page`. -/
def ingestPage (symbol : String) (s : TapeState) (answers : TapeAnswers) (incoming : List TradePrint) :
    Except PyError Unit × TapeState :=
  if incoming.isEmpty then (.ok (), s)
  else
    match s.reader.loadCheckpoint s.store answers.loadCheckpoint with
    | .error e => (.error e, s)
    | .ok reader =>
      match reader.newTrades s.store answers symbol incoming with
      | .error e => (.error e, { s with reader := reader })
      | .ok trades =>
        match trades.getLast? with
        | none => (.ok (), { s with reader := reader })
        | some last => persistNew ⟨reader, s.store⟩ answers trades last

end TapeState

/-- A frame of the stream, a page of the REST endpoint, a look at the checkpoint, or a restart. -/
inductive TapeEvent
  | aggTrade (frame : RawTrade) (answers : TapeAnswers)
  | restAggTrades (rows : List RawTrade) (answers : TapeAnswers)
  | checkpointTradeId (raised : Option PyError)
  | restarted

namespace TapeEvent

/-- The trades of a call, once decoded, and what is answered during it. -/
def page (symbol : String) : TapeEvent → Except PyError (List TradePrint)
  | aggTrade frame _ => decodePage symbol true [frame]
  | restAggTrades rows _ => decodePage symbol false rows
  | _ => .ok []

def answers : TapeEvent → TapeAnswers
  | aggTrade _ answers | restAggTrades _ answers => answers
  | _ => ⟨none, fun _ => none, fun _ _ => .ok [], .works⟩

end TapeEvent

/-- `ingest_agg_trade`, `ingest_rest_agg_trades` and `checkpoint_trade_id`, with what they raise. -/
def TapeState.call (symbol : String) (s : TapeState) (event : TapeEvent) : Except PyError Unit × TapeState :=
  match event with
  | .restarted => (.ok (), { s with reader := .new })
  | .checkpointTradeId raised =>
    match s.reader.loadCheckpoint s.store raised with
    | .error e => (.error e, s)
    | .ok reader => (.ok (), { s with reader := reader })
  | event =>
    match event.page symbol with
    | .error e => (.error e, s)
    | .ok incoming => s.ingestPage symbol event.answers incoming

def TapeState.step (symbol : String) (s : TapeState) (event : TapeEvent) : TapeState :=
  (s.call symbol event).2

end AutoTrader.MarketData
