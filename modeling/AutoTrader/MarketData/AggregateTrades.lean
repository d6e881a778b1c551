import AutoTrader.Binance.OrderModels
import Mathlib.Data.List.Chain

/-! Aggregate trades as the venue sends them, and the sequence they have to be in. -/

namespace AutoTrader.MarketData

open AutoTrader.Binance AutoTrader.Domain

/-- `provider_trade_id` is the decimal text of a number; a price and a quantity are compared by value. -/
structure TradePrint where
  tradeId : Nat
  occurredAt : Instant
  price : ℚ
  quantity : ℚ
  buyerMaker : Bool
  deriving DecidableEq

structure MarketCheckpoint where
  lastAggregateTradeId : Nat
  lastTradeAt : Instant
  deriving DecidableEq

def TradePrint.checkpoint (trade : TradePrint) : MarketCheckpoint := ⟨trade.tradeId, trade.occurredAt⟩

/-- A JSON object. -/
abbrev RawTrade := List (String × Json)

/-! ### Decoding -/

def isText (value : Json) (text : String) : Bool :=
  match value with
  | .str found => found = text
  | _ => false

/-- `_integer`. -/
def decodeInteger (value : Json) (name : String) : Except PyError Nat :=
  match value with
  | .int n => if 0 ≤ n then .ok n.toNat else .error (valueError ("Binance USD-M " ++ name ++ " is invalid"))
  | _ => .error (valueError ("Binance USD-M " ++ name ++ " is invalid"))

/-- `_decimal`. -/
def decodeDecimal (value : Json) (name : String) : Except PyError ℚ :=
  match value with
  | .str text =>
    match Decimal.parse text with
    | some d => .ok d.toRat
    | none => .error (valueError ("Binance USD-M " ++ name ++ " is invalid"))
  | _ => .error (valueError ("Binance USD-M " ++ name ++ " is invalid"))

/-- `_decode_aggregate_trade`, with what `TradePrint` checks. -/
def decodeAggregateTrade (symbol : String) (websocket : Bool) (value : RawTrade) : Except PyError TradePrint := do
  require (!websocket || (isText (Json.get value "e") "aggTrade" && isText (Json.get value "s") symbol))
    (valueError ("Binance USD-M websocket aggregate trade requires " ++ symbol))
  require (websocket || (value.lookup "s").isNone || isText (Json.get value "s") symbol)
    (valueError ("Binance USD-M REST aggregate trade requires " ++ symbol))
  let tradeId ← decodeInteger (Json.get value "a") "aggregate trade ID"
  let firstId ← decodeInteger (Json.get value "f") "first trade ID"
  let lastId ← decodeInteger (Json.get value "l") "last trade ID"
  let occurredMs ← decodeInteger (Json.get value "T") "aggregate trade time"
  match Json.get value "m" with
  | .bool buyerMaker =>
    require (firstId ≤ lastId) (valueError "Binance USD-M aggregate trade is invalid")
    require (occurredMs ≤ 253402300799999) (valueError "date value out of range")
    let price ← decodeDecimal (Json.get value "p") "aggregate trade price"
    let quantity ← decodeDecimal (Json.get value "q") "aggregate trade quantity"
    require (0 < price) (valueError "trade price must be positive")
    require (0 < quantity) (valueError "trade quantity must be positive")
    pure ⟨tradeId, 1000 * occurredMs, price, quantity, buyerMaker⟩
  | _ => .error (valueError "Binance USD-M aggregate trade is invalid")

def decodePage (symbol : String) (websocket : Bool) (rows : List RawTrade) : Except PyError (List TradePrint) :=
  rows.mapM (decodeAggregateTrade symbol websocket)

theorem decodePage_ne_nil {symbol : String} {websocket : Bool} {rows : List RawTrade} {page : List TradePrint}
    (h : decodePage symbol websocket rows = .ok page) (hrows : rows ≠ []) : page ≠ [] := by
  cases rows with
  | nil => exact absurd rfl hrows
  | cons row rows =>
    unfold decodePage at h
    rw [List.mapM_cons] at h
    obtain ⟨trade, -, h⟩ := bind_ok.mp h
    obtain ⟨trades, -, h⟩ := bind_ok.mp h
    cases h
    exact List.cons_ne_nil _ _

/-! ### The sequence -/

def gapUnresolved : PyError := valueError "Binance USD-M aggregate trade gap is unresolved"

/-- The loop of `_require_trade_sequence`. -/
def requireSequence : Option Nat → Option Instant → List TradePrint → Except PyError Unit
  | _, _, [] => .ok ()
  | expected, previousAt, trade :: trades => do
    require (expected.all fun id => decide (trade.tradeId = id)) gapUnresolved
    require (previousAt.all fun at_ => decide (at_ ≤ trade.occurredAt))
      (valueError "Binance USD-M aggregate trade order is invalid")
    requireSequence (some (trade.tradeId + 1)) (some trade.occurredAt) trades

/-- `_require_trade_sequence`. -/
def requireTradeSequence (trades : List TradePrint) (after : Option MarketCheckpoint) : Except PyError Unit :=
  requireSequence (after.map fun c => c.lastAggregateTradeId + 1) (after.map MarketCheckpoint.lastTradeAt) trades

/-- The next trade of the tape: one id further and not earlier. -/
def Follows (a b : TradePrint) : Prop := b.tradeId = a.tradeId + 1 ∧ a.occurredAt ≤ b.occurredAt

/-- Trades that follow each other have consecutive ids. -/
theorem follows_ids {trade : TradePrint} {trades : List TradePrint} (h : (trade :: trades).IsChain Follows) :
    (trade :: trades).map TradePrint.tradeId = List.range' trade.tradeId (trades.length + 1) := by
  induction trades generalizing trade with
  | nil => rfl
  | cons next trades ih =>
    obtain ⟨hfollows, hrest⟩ := List.isChain_cons_cons.mp h
    rw [List.map_cons, ih hrest, hfollows.1]
    rfl

theorem follows_times {trades : List TradePrint} (h : trades.IsChain Follows) :
    (trades.map TradePrint.occurredAt).Pairwise (· ≤ ·) :=
  List.isChain_iff_pairwise.mp ((List.isChain_map _).mpr (h.imp fun _ _ hfollows => hfollows.2))

theorem requireSequence_ok {expected : Option Nat} {previousAt : Option Instant} {trades : List TradePrint} {u : Unit}
    (h : requireSequence expected previousAt trades = .ok u) :
    trades.IsChain Follows ∧ ∀ trade ∈ trades.head?, (∀ id ∈ expected, trade.tradeId = id) ∧
      ∀ at_ ∈ previousAt, at_ ≤ trade.occurredAt := by
  induction trades generalizing expected previousAt with
  | nil => exact ⟨.nil, fun _ h => absurd h (Option.not_mem_none _)⟩
  | cons trade trades ih =>
    obtain ⟨_, hid, h⟩ := bind_ok.mp h
    obtain ⟨_, hat, h⟩ := bind_ok.mp h
    obtain ⟨hchain, hhead⟩ := ih h
    refine ⟨?_, fun head hmem => ?_⟩
    · refine List.isChain_cons.mpr ⟨fun next hnext => ?_, hchain⟩
      obtain ⟨hnextId, hnextAt⟩ := hhead next hnext
      exact ⟨hnextId _ rfl, hnextAt _ rfl⟩
    · cases hmem
      refine ⟨fun id hmem => ?_, fun at_ hmem => ?_⟩
      · cases hmem
        simpa using require_ok.mp hid
      · cases hmem
        simpa using require_ok.mp hat

/-! ### Recovering a gap -/

/-- The loop over the trades of a page of `_recover_gap`, and the id that is missing after it. -/
def requireMissing (incomingId : Nat) : Nat → List TradePrint → Except PyError Nat
  | nextId, [] => .ok nextId
  | nextId, trade :: trades => do
    require (decide (trade.tradeId = nextId) && decide (trade.tradeId < incomingId)) gapUnresolved
    requireMissing incomingId (nextId + 1) trades

/-- `_recover_gap`. Every page brings at least one of the missing trades, so there are as many rounds as
trades missing at most. -/
def recoverGap (symbol : String) (aggregateTrades : Nat → Nat → Except PyError (List RawTrade)) (incomingId : Nat) :
    (rounds nextId : Nat) → Except PyError (List TradePrint)
  | 0, _ => .ok []
  | rounds + 1, nextId =>
    if nextId < incomingId then do
      let rows ← aggregateTrades nextId (min 1000 (incomingId - nextId))
      require (!rows.isEmpty) gapUnresolved
      let page ← decodePage symbol false rows
      let nextId ← requireMissing incomingId nextId page
      let later ← recoverGap symbol aggregateTrades incomingId rounds nextId
      pure (page ++ later)
    else .ok []

/-- A page of the missing trades leaves the ones after it missing. -/
theorem requireMissing_ok {incomingId nextId left : Nat} {page : List TradePrint}
    (h : requireMissing incomingId nextId page = .ok left) (hnext : nextId ≤ incomingId) :
    left = nextId + page.length ∧ left ≤ incomingId ∧ page.map TradePrint.tradeId = List.range' nextId page.length := by
  induction page generalizing nextId with
  | nil =>
    cases h
    exact ⟨rfl, hnext, rfl⟩
  | cons trade page ih =>
    obtain ⟨_, hid, h⟩ := bind_ok.mp h
    have hmissing : trade.tradeId = nextId ∧ trade.tradeId < incomingId := by simpa using require_ok.mp hid
    obtain ⟨hleft, hle, hids⟩ := ih h (hmissing.1 ▸ hmissing.2)
    refine ⟨by rw [hleft, List.length_cons]; omega, hle, ?_⟩
    rw [List.map_cons, hids, hmissing.1]
    rfl

/-- A recovery that returns has recovered the whole gap. -/
theorem recoverGap_ids {symbol : String} {aggregateTrades : Nat → Nat → Except PyError (List RawTrade)}
    {incomingId rounds nextId : Nat} {trades : List TradePrint}
    (h : recoverGap symbol aggregateTrades incomingId rounds nextId = .ok trades) (hnext : nextId ≤ incomingId)
    (hrounds : incomingId ≤ nextId + rounds) :
    trades.map TradePrint.tradeId = List.range' nextId (incomingId - nextId) := by
  induction rounds generalizing nextId trades with
  | zero =>
    cases h
    rw [Nat.le_antisymm hnext hrounds, Nat.sub_self]
    rfl
  | succ rounds ih =>
    unfold recoverGap at h
    split at h
    · rename_i hmissing
      obtain ⟨rows, -, h⟩ := bind_ok.mp h
      obtain ⟨_, hsome, h⟩ := bind_ok.mp h
      obtain ⟨page, hpage, h⟩ := bind_ok.mp h
      obtain ⟨left, hleft, h⟩ := bind_ok.mp h
      obtain ⟨later, hlater, h⟩ := bind_ok.mp h
      cases h
      obtain ⟨hlength, hle, hids⟩ := requireMissing_ok hleft hnext
      have hrows : rows ≠ [] := by simpa using require_ok.mp hsome
      have hpositive : 0 < page.length := List.length_pos_iff.mpr (decodePage_ne_nil hpage hrows)
      rw [List.map_append, hids, ih hlater hle (by omega), hlength]
      have hsplit : incomingId - nextId = page.length + (incomingId - (nextId + page.length)) := by omega
      rw [hsplit, List.range'_append_1]
    · cases h
      have hnone : incomingId - nextId = 0 := by omega
      rw [hnone]
      rfl

/-- Every recovered trade was sent. -/
theorem recoverGap_sent {symbol : String} {aggregateTrades : Nat → Nat → Except PyError (List RawTrade)}
    {incomingId rounds nextId : Nat} {trades : List TradePrint}
    (h : recoverGap symbol aggregateTrades incomingId rounds nextId = .ok trades) :
    ∀ trade ∈ trades, ∃ fromId limit rows page, aggregateTrades fromId limit = .ok rows ∧
      decodePage symbol false rows = .ok page ∧ trade ∈ page := by
  induction rounds generalizing nextId trades with
  | zero =>
    cases h
    exact fun _ hmem => absurd hmem List.not_mem_nil
  | succ rounds ih =>
    unfold recoverGap at h
    split at h
    · obtain ⟨rows, hrows, h⟩ := bind_ok.mp h
      obtain ⟨_, -, h⟩ := bind_ok.mp h
      obtain ⟨page, hpage, h⟩ := bind_ok.mp h
      obtain ⟨next, -, h⟩ := bind_ok.mp h
      obtain ⟨later, hlater, h⟩ := bind_ok.mp h
      cases h
      intro trade hmem
      rcases List.mem_append.mp hmem with hnow | hthen
      · exact ⟨_, _, rows, page, hrows, hpage, hnow⟩
      · exact ih hlater trade hthen
    · cases h
      exact fun _ hmem => absurd hmem List.not_mem_nil

end AutoTrader.MarketData
