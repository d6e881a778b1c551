import AutoTrader.Domain.DecimalColumns
import AutoTrader.Paper.CommandIdentity
import AutoTrader.Paper.Journal
import AutoTrader.Paper.Resolution
import AutoTrader.Trader.EntryCommands
import Mathlib.Tactic.Linarith

/-! `BinanceExecutionBars`: the bar that settles a staged paper command. The timestamp of a bar is
the instant it closed. -/

namespace AutoTrader.Paper

open AutoTrader.Domain AutoTrader.Execution

/-- `completed_bars(timeframe, end_at)`. -/
abbrev CompletedBars := Int → Instant → Except PyError (List CompletedOhlcvBar)

/-- `_reaches`. -/
def reaches (side : Side) (trigger : Decimal) (bar : CompletedOhlcvBar) : Bool :=
  match side with
  | .buy => decide (trigger.toRat ≤ bar.high.toRat)
  | .sell => decide (bar.low.toRat ≤ trigger.toRat)

section BarAt

variable (completedBars : CompletedBars) (digestOf : CompletedOhlcvBar → Digest)

/-- The bar with the whole quantity of the command available. -/
def executionBar (command : PaperOrderCommand) (bar : CompletedOhlcvBar) : PaperExecutionBar where
  bar := bar
  availableQuantity := command.quantity
  sourceDigest := digestOf bar
  available_nonneg := command.isValid.quantity_pos.le

/-- `BinanceExecutionBars.bar_at`, and `next_bar`, which is the same. -/
def barAt (now : Instant) (command : PaperOrderCommand) : Except PyError (Option PaperExecutionBar) :=
  match command.triggerPrice with
  | none => do
    let bars ← completedBars command.timeframe (command.expectedAt + command.timeframe)
    pure ((bars.find? (·.timestamp = command.expectedAt)).map (executionBar digestOf command))
  | some trigger => do
    let bars ← completedBars command.timeframe now
    pure ((bars.find? fun bar => decide (command.expectedAt ≤ bar.timestamp) && reaches command.side trigger bar).map
      (executionBar digestOf command))

end BarAt

/-- A venue whose bars of a timeframe close on a grid without gaps. What it answers at an instant
are bars of the grid up to the end that was asked for, and of those that are completed at least
the last two. -/
structure Venue (timeframe : Int) where
  origin : Instant
  bar : Int → CompletedOhlcvBar
  completedBars : Instant → CompletedBars
  timestamp : ∀ k, (bar k).timestamp = origin + k * timeframe
  answers : ∀ clock endAt, ∃ bars, completedBars clock timeframe endAt = .ok bars ∧
    (∀ b ∈ bars, ∃ k, b = bar k ∧ b.timestamp ≤ endAt) ∧
    ∀ k, endAt - 2 * timeframe < (bar k).timestamp → (bar k).timestamp ≤ endAt → (bar k).timestamp ≤ clock →
      bar k ∈ bars

namespace Venue

variable {timeframe : Int} (venue : Venue timeframe)

/-- Where an instant lies on the grid. -/
def OnGrid (t : Instant) : Prop := timeframe ∣ t - venue.origin

theorem bar_of_onGrid {t : Instant} (h : venue.OnGrid t) : ∃ k, (venue.bar k).timestamp = t := by
  obtain ⟨k, hk⟩ := h
  refine ⟨k, ?_⟩
  rw [venue.timestamp, mul_comm, ← hk]
  exact add_sub_cancel ..

theorem onGrid_timestamp (k : Int) : venue.OnGrid (venue.bar k).timestamp := by
  refine ⟨k, ?_⟩
  rw [venue.timestamp, mul_comm]
  exact add_sub_cancel_left ..

end Venue

variable {timeframe : Int} {venue : Venue timeframe} {digestOf : CompletedOhlcvBar → Digest}
  {command : PaperOrderCommand} {now : Instant}

/-- Off the grid no bar ever settles a command without a trigger. -/
theorem barAt_offGrid (htrigger : command.triggerPrice = none) (htimeframe : command.timeframe = timeframe)
    (hgrid : ¬venue.OnGrid command.expectedAt) : barAt (venue.completedBars now) digestOf now command = .ok none := by
  obtain ⟨bars, hbars, hfrom, -⟩ := venue.answers now (command.expectedAt + timeframe)
  have hnone : bars.find? (·.timestamp = command.expectedAt) = none := by
    refine List.find?_eq_none.mpr fun bar hbar heq => hgrid ?_
    obtain ⟨k, rfl, -⟩ := hfrom bar hbar
    rw [← of_decide_eq_true heq]
    exact venue.onGrid_timestamp k
  unfold barAt
  rw [htrigger, htimeframe]
  dsimp only
  rw [hbars, ok_bind, hnone]
  rfl

/-- What a bar that settles a command without a trigger is: the bar of the grid at the instant the
command expects. -/
theorem barAt_untriggered {execution : PaperExecutionBar} (htrigger : command.triggerPrice = none)
    (htimeframe : command.timeframe = timeframe)
    (h : barAt (venue.completedBars now) digestOf now command = .ok (some execution)) :
    ∃ k, execution = executionBar digestOf command (venue.bar k) ∧ (venue.bar k).timestamp = command.expectedAt := by
  obtain ⟨bars, hbars, hfrom, -⟩ := venue.answers now (command.expectedAt + timeframe)
  unfold barAt at h
  rw [htrigger, htimeframe] at h
  dsimp only at h
  rw [hbars, ok_bind] at h
  obtain ⟨bar, hfound, rfl⟩ := Option.map_eq_some_iff.mp (Except.ok.inj h)
  obtain ⟨k, rfl, -⟩ := hfrom bar (List.mem_of_find?_eq_some hfound)
  have hat := List.find?_some hfound
  exact ⟨k, rfl, of_decide_eq_true hat⟩

variable (digestOf) in
/-- On the grid the bar is there from the instant it closes. -/
theorem barAt_onGrid (htrigger : command.triggerPrice = none) (htimeframe : command.timeframe = timeframe)
    (hgrid : venue.OnGrid command.expectedAt) (hnow : command.expectedAt ≤ now) :
    ∃ execution, barAt (venue.completedBars now) digestOf now command = .ok (some execution) := by
  obtain ⟨bars, hbars, -, hall⟩ := venue.answers now (command.expectedAt + timeframe)
  obtain ⟨k, hk⟩ := venue.bar_of_onGrid hgrid
  have hpos : 0 < timeframe := htimeframe ▸ command.isValid.timeframe_pos
  have hmem : venue.bar k ∈ bars := by
    refine hall k ?_ ?_ ?_ <;> rw [hk]
    · linarith
    · linarith
    · exact hnow
  unfold barAt
  rw [htrigger, htimeframe]
  dsimp only
  rw [hbars, ok_bind]
  cases hfound : bars.find? (·.timestamp = command.expectedAt) with
  | none => exact absurd (decide_eq_true hk) (List.find?_eq_none.mp hfound _ hmem)
  | some bar => exact ⟨_, rfl⟩

end AutoTrader.Paper

/-! The bar that fills a market entry of the paper broker. The command expects a bar that closes at
its deadline, which is the decision instant plus the reservation window; whether the venue ever has
one depends on where on the grid of the timeframe the decision was made. -/

namespace AutoTrader.Paper

open AutoTrader.Domain AutoTrader.Execution AutoTrader.Trader AutoTrader.Runtime

namespace PaperOrderRow

/-- The timeframe as the row keeps it, in whole seconds. -/
def timeframe (row : PaperOrderRow) : Int := row.timeframeSeconds * 1000000

def expectedAt (row : PaperOrderRow) : Instant := row.signalAt + row.timeframe

end PaperOrderRow

/-- The price a market order without a trigger takes a bar at. -/
def openPrice (row : PaperOrderRow) (bar : CompletedOhlcvBar) : Decimal :=
  match row.side with
  | .buy => bar.open_.add row.slippagePerUnit
  | .sell => bar.open_.sub row.slippagePerUnit

/-- A market entry the composition created at an instant, as the paper journal keeps it. -/
structure StagedEntry (ids : Nat → UUID) (sha256 : String → Digest) (account : ExecutionAccount)
    (paper : PaperAccount) (decision : RiskDecision) (intent : OrderIntent) (now : Instant)
    (row : PaperOrderRow) : Prop where
  market : intent.orderStyle = .market
  untriggered : intent.triggerPrice = none
  staged : ∃ j created j' command,
    createNamedOrder ids sha256 account decision intent .submitNewExposure marketTimeInForce now j =
      .ok (some created, j') ∧
    created.command ∉ j.commands ∧
    paperCommand paper created.command.toBrokerOrderCommand = .ok command ∧
    stagedRow command (command.commandDigest sha256) = .ok row

/-! ### The law -/

/-- The row is filled whole, at the open of a bar that opened at the decision or after it. -/
structure FilledAtOpen (now : Instant) (row resolved : PaperOrderRow) (bar : CompletedOhlcvBar) : Prop where
  opened : now ≤ bar.timestamp - row.timeframe
  filled : ∃ s, resolved.settlement = some s ∧ s.status = .filled ∧ s.filledQuantity.toRat = row.quantity.toRat ∧
    s.fillPrice = some (openPrice row bar).column ∧ s.filledAt = some bar.timestamp

section Law

variable (sha256 : String → Digest) (digestOf : CompletedOhlcvBar → Digest)

/-- A settlement pass at an instant, on the bars the venue has then. -/
def passAt {timeframe : Int} (venue : Venue timeframe) (clock : Instant) (j : Journal) :
    Except PyError (List PaperOrderReceipt × Journal) :=
  resolvePaperFills sha256 (barAt (venue.completedBars clock) digestOf clock)
    (barAt (venue.completedBars clock) digestOf clock) j none

/-- From some instant on every pass over a journal that holds the command fills it, unless another
command makes the pass raise; and whichever pass resolves the command fills it. -/
def SettledByNextBar (row : PaperOrderRow) (venue : Venue row.timeframe) (now : Instant) : Prop :=
  (∃ from_ : Instant, ∀ clock ≥ from_, ∀ j : Journal, (j.map (·.commandId)).Nodup → row ∈ j →
    (∀ other ∈ j, other.unresolved = true → other ≠ row → ∃ resolved,
      other.resolve sha256 (barAt (venue.completedBars clock) digestOf clock)
        (barAt (venue.completedBars clock) digestOf clock) = .ok resolved) →
    ∃ receipts j' resolved k, passAt sha256 digestOf venue clock j = .ok (receipts, j') ∧
      j'.row? row.commandId = some resolved ∧ FilledAtOpen now row resolved (venue.bar k)) ∧
  ∀ (clock : Instant) (j : Journal) (receipts : List PaperOrderReceipt) (j' : Journal),
    (j.map (·.commandId)).Nodup → row ∈ j → passAt sha256 digestOf venue clock j = .ok (receipts, j') →
    j'.row? row.commandId = some row ∨
      ∃ resolved k, j'.row? row.commandId = some resolved ∧ FilledAtOpen now row resolved (venue.bar k)

end Law

/-! ### When it holds -/

/-- A number the columns of the journal take. -/
def InColumn (d : Decimal) : Prop := |d.toRat| < 10 ^ 20 - 1 / (2 * 10 ^ 18)

/-- A fill of the row at the open of the bar fits the columns of the journal and has a positive
price. -/
structure Priceable (row : PaperOrderRow) (bar : CompletedOhlcvBar) : Prop where
  price : InColumn (openPrice row bar) ∧ 0 < (openPrice row bar).column.toRat
  fee : InColumn (row.feePerUnit.mul row.quantity)
  slippage : InColumn (row.slippagePerUnit.mul row.quantity)

instance decidableInColumn (d : Decimal) : Decidable (InColumn d) :=
  inferInstanceAs (Decidable (_ < _))

instance decidablePriceable (row : PaperOrderRow) (bar : CompletedOhlcvBar) : Decidable (Priceable row bar) :=
  decidable_of_iff ((InColumn (openPrice row bar) ∧ 0 < (openPrice row bar).column.toRat) ∧
      InColumn (row.feePerUnit.mul row.quantity) ∧ InColumn (row.slippagePerUnit.mul row.quantity))
    ⟨fun h => ⟨h.1, h.2.1, h.2.2⟩, fun h => ⟨h.price, h.fee, h.slippage⟩⟩

/-- The deadline, less what the row drops of the timeframe, is on the venue's grid; the timeframe is
no longer than the reservation window; the terms read back have the digest they were staged under;
and the fill at that bar can be stored. -/
structure OnTheGrid (sha256 : String → Digest) (paper : PaperAccount) (row : PaperOrderRow)
    (venue : Venue row.timeframe) (now : Instant) : Prop where
  grid : venue.OnGrid (now + reservationWindow - paper.timeframe % 1000000)
  window : paper.timeframe ≤ reservationWindow
  digest : ∃ command, row.toCommand = .ok command ∧ command.commandDigest sha256 = row.commandDigest
  priceable : ∀ k, (venue.bar k).timestamp = now + reservationWindow - paper.timeframe % 1000000 →
    Priceable row (venue.bar k)

/-! ### The staged row -/

/-- What the row of an untriggered market command is. -/
structure MarketRow (paper : PaperAccount) (now : Instant) (row : PaperOrderRow) : Prop where
  unresolved : row.settlement = none
  orderStyle : row.orderStyle = .market
  limitPrice : row.limitPrice = none
  triggerPrice : row.triggerPrice = none
  quantity : row.quantity.column = row.quantity
  signalAt : row.signalAt = now + reservationWindow - paper.timeframe
  timeframe : row.timeframeSeconds = paper.timeframe / 1000000
  readBack : ∃ command, row.toCommand = .ok command

theorem storeDecimal_ok {d stored : Decimal} : storeDecimal d = .ok stored ↔ InColumn d ∧ stored = d.column := by
  unfold storeDecimal InColumn
  split
  · rename_i hout
    constructor
    · intro h
      cases h
    · rintro ⟨hin, -⟩
      exact absurd hout (not_le.mpr hin)
  · rename_i hin
    constructor
    · intro h
      cases h
      exact ⟨not_le.mp hin, rfl⟩
    · rintro ⟨-, rfl⟩
      rfl

variable {ids : Nat → UUID} {sha256 : String → Digest} {digestOf : CompletedOhlcvBar → Digest}
  {account : ExecutionAccount} {paper : PaperAccount} {decision : RiskDecision} {intent : OrderIntent}
  {now : Instant} {row : PaperOrderRow}

theorem stagedRow_market {command : PaperOrderCommand} {digest : Digest} (hstyle : command.orderStyle = .market)
    (htrigger : command.triggerPrice = none) (hsignal : command.signalAt = now + reservationWindow - paper.timeframe)
    (htimeframe : command.timeframe = paper.timeframe) (h : stagedRow command digest = .ok row) :
    MarketRow paper now row := by
  have hlimit : command.limitPrice = none := by
    have hvalid := command.isValid.limit
    unfold PaperOrderTerms.validateLimit at hvalid
    rw [hstyle] at hvalid
    split at hvalid
    · rename_i heq _
      cases heq
    · rename_i heq _
      cases heq
    · cases hvalid
    · rename_i hnone
      exact hnone
  unfold stagedRow at h
  obtain ⟨quantity, hquantity, h⟩ := bind_ok.mp h
  obtain ⟨limitPrice, hlimitPrice, h⟩ := bind_ok.mp h
  obtain ⟨triggerPrice, htriggerPrice, h⟩ := bind_ok.mp h
  obtain ⟨feePerUnit, -, h⟩ := bind_ok.mp h
  obtain ⟨slippagePerUnit, -, h⟩ := bind_ok.mp h
  rw [hlimit] at hlimitPrice
  rw [htrigger] at htriggerPrice
  cases hlimitPrice
  cases htriggerPrice
  have hcolumn : quantity.column = quantity := by
    rw [(storeDecimal_ok.mp hquantity).2]
    exact Decimal.column_column _
  dsimp only at h
  split at h
  · rename_i hterms
    cases h
    refine ⟨rfl, hstyle, rfl, rfl, hcolumn, hsignal, by rw [← htimeframe], ?_⟩
    · refine (PaperOrderTerms.command_of_valid ?_).imp fun _ h => h.1
      have hvalid := command.isValid
      refine ⟨hvalid.id, hvalid.orderId, hvalid.bound, hterms.1, ?_, ?_, hterms.2.2.1, hterms.2.2.2, rfl⟩
      · unfold PaperOrderTerms.validateLimit
        dsimp only
        rw [hstyle]
      · exact mul_pos hterms.2.1 (by norm_num)
  · cases h

theorem StagedEntry.marketRow (h : StagedEntry ids sha256 account paper decision intent now row) :
    MarketRow paper now row := by
  obtain ⟨j, created, j', command, hcreate, hnew, hpaper, hrow⟩ := h.staged
  obtain hold | hterms := createNamedOrder_command hcreate
  · exact absurd hold hnew
  have hfields := PaperOrderTerms.command_ok hpaper
  refine stagedRow_market ?_ ?_ ?_ ?_ hrow
  · rw [hfields]
    exact hterms.orderStyle.trans h.market
  · rw [hfields]
    exact hterms.untriggered h.untriggered
  · rw [hfields]
    show created.command.notAfter - paper.timeframe = _
    rw [hterms.notAfter]
  · rw [hfields]

/-! ### A pass over the row -/

variable {venue : Venue row.timeframe} {clock : Instant} {command : PaperOrderCommand}

theorem MarketRow.expectedAt (h : MarketRow paper now row) :
    row.expectedAt = now + reservationWindow - paper.timeframe % 1000000 := by
  have hdivision := Int.emod_add_mul_ediv paper.timeframe 1000000
  unfold PaperOrderRow.expectedAt PaperOrderRow.timeframe
  rw [h.signalAt, h.timeframe]
  linarith

theorem MarketRow.opened (h : MarketRow paper now row) :
    now ≤ row.expectedAt - row.timeframe ↔ paper.timeframe ≤ reservationWindow := by
  unfold PaperOrderRow.expectedAt
  rw [h.signalAt, add_sub_cancel_right]
  constructor <;> intro hle <;> linarith

/-- The receipt of a market command whose bar has the whole quantity. -/
theorem fill_market (execution : PaperExecutionBar) {price : Decimal} (htrigger : command.triggerPrice = none)
    (hat : execution.bar.timestamp = command.expectedAt) (hwhole : execution.availableQuantity = command.quantity)
    (hprice : eligiblePrice command execution.bar = some price) (digest : Digest) :
    fill command digest (some execution) =
      { commandId := command.id
        orderId := command.orderId
        status := .filled
        requestedQuantity := command.quantity
        filledQuantity := command.quantity
        remainingQuantity := command.quantity.sub command.quantity
        fillPrice := some price
        fee := command.feePerUnit.mul command.quantity
        slippageCost := command.slippagePerUnit.mul command.quantity
        filledAt := some execution.bar.timestamp
        reasonCode := none
        sourceDigest := some execution.sourceDigest
        commandDigest := digest } := by
  have hquantity : command.quantity.toRat ≠ 0 := command.isValid.quantity_pos.ne'
  have hleast : command.quantity.least execution.availableQuantity = command.quantity := by
    unfold Decimal.least
    rw [hwhole, if_neg (lt_irrefl _)]
  have hresolves : resolves command execution command.expectedAt = true := by
    unfold resolves
    rw [htrigger]
    exact decide_eq_true hat
  unfold fill
  dsimp only
  rw [hresolves, hprice]
  dsimp only
  rw [hleast, if_neg hquantity, if_pos (Decimal.toRat_sub_self _)]
  rfl

/-- The receipt of a fill at the open, in the row's terms. -/
def openReceipt (digestOf : CompletedOhlcvBar → Digest) (row : PaperOrderRow) (bar : CompletedOhlcvBar)
    (digest : Digest) : PaperOrderReceipt where
  commandId := row.commandId
  orderId := row.orderId
  status := .filled
  requestedQuantity := row.quantity
  filledQuantity := row.quantity
  remainingQuantity := row.quantity.sub row.quantity
  fillPrice := some (openPrice row bar)
  fee := row.feePerUnit.mul row.quantity
  slippageCost := row.slippagePerUnit.mul row.quantity
  filledAt := some bar.timestamp
  reasonCode := none
  sourceDigest := some (digestOf bar)
  commandDigest := digest

theorem fill_atOpen (h : MarketRow paper now row) (hcommand : row.toCommand = .ok command) (digest : Digest)
    {bar : CompletedOhlcvBar} (hat : bar.timestamp = row.expectedAt) :
    fill command digest (some (executionBar digestOf command bar)) = openReceipt digestOf row bar digest := by
  have hfields := PaperOrderTerms.command_ok hcommand
  have htrigger : command.triggerPrice = none := by
    rw [hfields]
    exact h.triggerPrice
  have hexpected : bar.timestamp = command.expectedAt := by
    rw [hfields]
    exact hat
  have hprice : eligiblePrice command bar = some (openPrice row bar) := by
    unfold eligiblePrice openPrice
    rw [hfields]
    dsimp only
    rw [h.orderStyle, h.triggerPrice]
    cases row.side <;> rfl
  rw [fill_market (executionBar digestOf command bar) htrigger hexpected rfl hprice digest, hfields]
  rfl

theorem inColumn_zero {d : Decimal} (h : d.toRat = 0) : InColumn d := by
  unfold InColumn
  rw [h, abs_zero]
  norm_num

theorem sub_self_column (d : Decimal) : (d.sub d).column.toRat = 0 :=
  Decimal.toRat_column_of_zero (Decimal.sub_self_coefficient d)

variable (digestOf) in
/-- The receipt can be written exactly when the price, the fee and the slippage can. -/
theorem settle_open (h : MarketRow paper now row) {bar : CompletedOhlcvBar} (digest : Digest) :
    (Priceable row bar → ∃ resolved, row.settle (openReceipt digestOf row bar digest) = .ok resolved) ∧
      ∀ resolved, row.settle (openReceipt digestOf row bar digest) = .ok resolved →
        Priceable row bar ∧ ∃ s, resolved.settlement = some s ∧ s.status = .filled ∧
          s.filledQuantity.toRat = row.quantity.toRat ∧ s.fillPrice = some (openPrice row bar).column ∧
          s.filledAt = some bar.timestamp := by
  have hquantity : storeDecimal row.quantity = .ok row.quantity := by
    refine storeDecimal_ok.mpr ⟨?_, h.quantity.symm⟩
    rw [← h.quantity]
    exact Decimal.abs_toRat_column_lt _
  have hremaining : storeDecimal (row.quantity.sub row.quantity) = .ok (row.quantity.sub row.quantity).column :=
    storeDecimal_ok.mpr ⟨inColumn_zero (Decimal.toRat_sub_self _), rfl⟩
  have hfee : 0 ≤ (row.feePerUnit.mul row.quantity).column.toRat :=
    Decimal.toRat_column_nonneg (Decimal.toRat_mul_nonneg row.terms.2.2.1 row.terms.1.le)
  have hslippage : 0 ≤ (row.slippagePerUnit.mul row.quantity).column.toRat :=
    Decimal.toRat_column_nonneg (Decimal.toRat_mul_nonneg row.terms.2.2.2 row.terms.1.le)
  unfold PaperOrderRow.settle openReceipt
  dsimp only
  rw [hquantity, ok_bind, hremaining, ok_bind]
  constructor
  · rintro ⟨⟨hprice, hpositive⟩, hfeeColumn, hslippageColumn⟩
    rw [storeOptional, storeDecimal_ok.mpr ⟨hprice, rfl⟩, storeDecimal_ok.mpr ⟨hfeeColumn, rfl⟩,
      storeDecimal_ok.mpr ⟨hslippageColumn, rfl⟩]
    simp only [Except.map, ok_bind]
    rw [dif_pos]
    · exact ⟨_, rfl⟩
    · refine ⟨⟨row.terms.1.le, (sub_self_column _).ge, hfee, hslippage, ?_⟩, .inr ⟨.inl rfl, ?_, Option.some_ne_none _, row.terms.1⟩⟩
      · dsimp only
        rw [sub_self_column, add_zero]
      · rintro price hmem
        rw [← Option.mem_some.mp hmem]
        exact hpositive
  · intro resolved hsettle
    obtain ⟨fillPrice, hfill, hsettle⟩ := bind_ok.mp hsettle
    obtain ⟨fee, hfeeStored, hsettle⟩ := bind_ok.mp hsettle
    obtain ⟨slippageCost, hslippageStored, hsettle⟩ := bind_ok.mp hsettle
    obtain ⟨price, hprice, rfl⟩ := exceptMap_ok.mp hfill
    obtain ⟨hpriceColumn, rfl⟩ := storeDecimal_ok.mp hprice
    obtain ⟨hfeeColumn, rfl⟩ := storeDecimal_ok.mp hfeeStored
    obtain ⟨hslippageColumn, rfl⟩ := storeDecimal_ok.mp hslippageStored
    split at hsettle
    · rename_i hfits
      cases hsettle
      obtain ⟨-, ⟨hstatus, -⟩ | ⟨-, hpositive, -⟩⟩ := hfits
      · cases hstatus
      · exact ⟨⟨⟨hpriceColumn, hpositive _ rfl⟩, hfeeColumn, hslippageColumn⟩, _, rfl, rfl, rfl, rfl, rfl⟩
    · cases hsettle

theorem MarketRow.untriggered (h : MarketRow paper now row) (hcommand : row.toCommand = .ok command) :
    command.triggerPrice = none := by
  rw [PaperOrderTerms.command_ok hcommand]
  exact h.triggerPrice

theorem readBack_expectedAt (hcommand : row.toCommand = .ok command) :
    command.timeframe = row.timeframe ∧ command.expectedAt = row.expectedAt := by
  rw [PaperOrderTerms.command_ok hcommand]
  exact ⟨rfl, rfl⟩

/-- A pass that resolves the row without raising leaves it, or fills it at the bar it expects. -/
theorem resolve_market (h : MarketRow paper now row) {resolved : PaperOrderRow}
    (hresolve : row.resolve sha256 (barAt (venue.completedBars clock) digestOf clock)
      (barAt (venue.completedBars clock) digestOf clock) = .ok resolved) :
    resolved = row ∨ ∃ k, (venue.bar k).timestamp = row.expectedAt ∧
      (∃ command, row.toCommand = .ok command ∧ command.commandDigest sha256 = row.commandDigest) ∧
      ∃ digest, row.settle (openReceipt digestOf row (venue.bar k) digest) = .ok resolved := by
  obtain ⟨command, hcommand, hresolve⟩ := bind_ok.mp hresolve
  obtain ⟨found, hfound, hresolve⟩ := bind_ok.mp hresolve
  obtain ⟨htimeframe, hexpected⟩ := readBack_expectedAt hcommand
  cases found with
  | none => exact .inl (Except.ok.inj hresolve).symm
  | some execution =>
    obtain ⟨k, rfl, hat⟩ := barAt_untriggered (h.untriggered hcommand) htimeframe hfound
    rw [hexpected] at hat
    dsimp only at hresolve
    split at hresolve
    · cases hresolve
    · rename_i hdigest
      rw [hfound, ok_bind, fill_atOpen h hcommand _ hat] at hresolve
      exact .inr ⟨k, hat, ⟨command, hcommand, (not_not.mp hdigest).symm⟩, _, hresolve⟩

/-- Off the grid no pass touches the row. -/
theorem resolve_offGrid (h : MarketRow paper now row) (hgrid : ¬venue.OnGrid row.expectedAt) :
    row.resolve sha256 (barAt (venue.completedBars clock) digestOf clock)
      (barAt (venue.completedBars clock) digestOf clock) = .ok row := by
  obtain ⟨command, hcommand⟩ := h.readBack
  obtain ⟨htimeframe, hexpected⟩ := readBack_expectedAt hcommand
  unfold PaperOrderRow.resolve
  rw [hcommand, ok_bind, barAt_offGrid (h.untriggered hcommand) htimeframe (hexpected ▸ hgrid), ok_bind]
  rfl

variable (digestOf) in
/-- On the grid a pass from the expected instant on writes the receipt of the fill. -/
theorem resolve_onGrid (h : MarketRow paper now row) (hcommand : row.toCommand = .ok command)
    (hdigest : command.commandDigest sha256 = row.commandDigest) (hgrid : venue.OnGrid row.expectedAt)
    (hclock : row.expectedAt ≤ clock) :
    ∃ k, (venue.bar k).timestamp = row.expectedAt ∧
      row.resolve sha256 (barAt (venue.completedBars clock) digestOf clock)
        (barAt (venue.completedBars clock) digestOf clock) =
        row.settle (openReceipt digestOf row (venue.bar k) (command.commandDigest sha256)) := by
  obtain ⟨htimeframe, hexpected⟩ := readBack_expectedAt hcommand
  obtain ⟨execution, hfound⟩ := barAt_onGrid digestOf (h.untriggered hcommand) htimeframe
    (hexpected.symm ▸ hgrid) (hexpected.symm ▸ hclock)
  obtain ⟨k, rfl, hat⟩ := barAt_untriggered (h.untriggered hcommand) htimeframe hfound
  rw [hexpected] at hat
  refine ⟨k, hat, ?_⟩
  unfold PaperOrderRow.resolve
  rw [hcommand, ok_bind, hfound, ok_bind]
  dsimp only
  rw [if_neg (not_not.mpr hdigest.symm), ok_bind, fill_atOpen h hcommand _ hat]

theorem Venue.bar_unique {timeframe : Int} (venue : Venue timeframe) (hpos : 0 < timeframe) {k k' : Int}
    (h : (venue.bar k).timestamp = (venue.bar k').timestamp) : k = k' := by
  rw [venue.timestamp, venue.timestamp, add_right_inj] at h
  exact mul_right_cancel₀ hpos.ne' h

theorem timeframe_pos (row : PaperOrderRow) : 0 < row.timeframe :=
  mul_pos row.terms.2.1 (by norm_num)

/-! ### Both directions -/

theorem settled_of_onTheGrid (h : MarketRow paper now row) (hgrid : OnTheGrid sha256 paper row venue now) :
    SettledByNextBar sha256 digestOf row venue now := by
  have hunresolved : row.unresolved = true := Option.isNone_iff_eq_none.mpr h.unresolved
  have hopened := h.opened.mpr hgrid.window
  obtain ⟨command, hcommand, hdigest⟩ := hgrid.digest
  have hexpected := hgrid.grid
  rw [← h.expectedAt] at hexpected
  have hfilled : ∀ {resolved : PaperOrderRow} {k : Int} {digest : Digest},
      (venue.bar k).timestamp = row.expectedAt →
      row.settle (openReceipt digestOf row (venue.bar k) digest) = .ok resolved →
      FilledAtOpen now row resolved (venue.bar k) := fun hat hsettle =>
    ⟨by rw [hat]; exact hopened, ((settle_open digestOf h _).2 _ hsettle).2⟩
  constructor
  · refine ⟨row.expectedAt, fun clock hclock j hkeys hrow hothers => ?_⟩
    obtain ⟨k, hat, hresolve⟩ := resolve_onGrid digestOf h hcommand hdigest hexpected hclock
    obtain ⟨resolved, hsettle⟩ := (settle_open digestOf h (command.commandDigest sha256)).1
      (hgrid.priceable k (hat.trans h.expectedAt))
    rw [hsettle] at hresolve
    obtain ⟨receipts, j', hpass⟩ := Journal.resolvePaperFills_returns hkeys fun other hother hworks => by
      by_cases heq : other = row
      · rw [heq]
        exact ⟨resolved, hresolve⟩
      · exact hothers other hother hworks heq
    obtain ⟨final, hfinal, hread⟩ := Journal.resolvePaperFills_ok hkeys hpass hrow hunresolved
    rw [hresolve] at hfinal
    obtain rfl := Except.ok.inj hfinal
    exact ⟨receipts, j', resolved, k, hpass, hread, hfilled hat hsettle⟩
  · intro clock j receipts j' hkeys hrow hpass
    obtain ⟨resolved, hresolve, hread⟩ := Journal.resolvePaperFills_ok hkeys hpass hrow hunresolved
    obtain rfl | ⟨k, hat, -, digest, hsettle⟩ := resolve_market h hresolve
    · exact .inl hread
    · exact .inr ⟨resolved, k, hread, hfilled hat hsettle⟩

/-- Off the grid no pass that returns ever resolves the row. -/
theorem unresolved_offGrid (h : MarketRow paper now row)
    (hgrid : ¬venue.OnGrid (now + reservationWindow - paper.timeframe % 1000000)) {j j' : Journal}
    {receipts : List PaperOrderReceipt} (hkeys : (j.map (·.commandId)).Nodup) (hrow : row ∈ j)
    (hpass : passAt sha256 digestOf venue clock j = .ok (receipts, j')) : j'.row? row.commandId = some row := by
  have hunresolved : row.unresolved = true := Option.isNone_iff_eq_none.mpr h.unresolved
  obtain ⟨resolved, hresolve, hread⟩ := Journal.resolvePaperFills_ok hkeys hpass hrow hunresolved
  rw [← h.expectedAt] at hgrid
  rw [resolve_offGrid h hgrid] at hresolve
  rw [← Except.ok.inj hresolve] at hread
  exact hread

theorem onTheGrid_of_settled (h : MarketRow paper now row) (hsettled : SettledByNextBar sha256 digestOf row venue now) :
    OnTheGrid sha256 paper row venue now := by
  have hunresolved : row.unresolved = true := Option.isNone_iff_eq_none.mpr h.unresolved
  have hkeys : (([row] : Journal).map (·.commandId)).Nodup := List.nodup_singleton _
  obtain ⟨⟨from_, hpasses⟩, -⟩ := hsettled
  obtain ⟨receipts, j', resolved, k, hpass, hread, hfilled⟩ := hpasses from_ le_rfl [row] hkeys
    List.mem_cons_self fun other hother _ hne => absurd (List.mem_singleton.mp hother) hne
  obtain ⟨s, hs, -, -, -, hfilledAt⟩ := hfilled.filled
  obtain ⟨final, hresolve, hfinal⟩ := Journal.resolvePaperFills_ok hkeys hpass List.mem_cons_self hunresolved
  rw [hread] at hfinal
  obtain rfl := Option.some.inj hfinal
  obtain rfl | ⟨k', hat, hdigest, digest, hsettle⟩ := resolve_market h hresolve
  · rw [h.unresolved] at hs
    cases hs
  · obtain ⟨hpriceable, s', hs', -, -, -, hfilledAt'⟩ := (settle_open digestOf h _).2 _ hsettle
    rw [hs] at hs'
    obtain rfl := Option.some.inj hs'
    rw [hfilledAt] at hfilledAt'
    have hsame := Option.some.inj hfilledAt'
    have hopened := hfilled.opened
    rw [hsame, hat] at hopened
    refine ⟨?_, h.opened.mp hopened, hdigest, fun i hi => ?_⟩
    · rw [← h.expectedAt, ← hat]
      exact venue.onGrid_timestamp k'
    · rw [← h.expectedAt, ← hat] at hi
      rw [venue.bar_unique (timeframe_pos row) hi]
      exact hpriceable

/-- A staged market entry is settled by the bar after it exactly when its deadline is on the grid,
the timeframe is no longer than the reservation window, and the fill can be stored. -/
theorem settled_by_next_bar_iff (ids : Nat → UUID) (sha256 : String → Digest)
    (digestOf : CompletedOhlcvBar → Digest) (account : ExecutionAccount) (paper : PaperAccount)
    (decision : RiskDecision) (intent : OrderIntent) (now : Instant) (row : PaperOrderRow)
    (hstaged : StagedEntry ids sha256 account paper decision intent now row) (venue : Venue row.timeframe) :
    SettledByNextBar sha256 digestOf row venue now ↔ OnTheGrid sha256 paper row venue now :=
  ⟨onTheGrid_of_settled hstaged.marketRow, settled_of_onTheGrid hstaged.marketRow⟩

/-! ### A sample venue and a sample entry -/

theorem decimal_hundred_pos : 0 < (Decimal.ofNat 100).toRat := by norm_num [Decimal.ofNat, Decimal.toRat]

/-- A bar that trades at one hundred only. -/
def flatBar (closed : Instant) : CompletedOhlcvBar where
  timestamp := closed
  open_ := .ofNat 100
  high := .ofNat 100
  low := .ofNat 100
  close := .ofNat 100
  volume := .ofNat 2
  low_pos := decimal_hundred_pos
  low_le_open := le_rfl
  open_le_high := le_rfl
  low_le_close := le_rfl
  close_le_high := le_rfl
  volume_nonneg := decimal_two_nonneg

/-- The last two bars up to an end, as far as they have closed. -/
def lastTwo (timeframe : Int) (clock : Instant) : CompletedBars := fun _ endAt =>
  .ok ([flatBar ((endAt / timeframe - 1) * timeframe), flatBar (endAt / timeframe * timeframe)].filter
    fun bar => decide (bar.timestamp ≤ clock))

theorem lastTwo_answers {timeframe : Int} (hpos : 0 < timeframe) (clock endAt : Int) :
    ∃ bars, lastTwo timeframe clock timeframe endAt = .ok bars ∧
      (∀ b ∈ bars, ∃ k : Int, b = flatBar (0 + k * timeframe) ∧ b.timestamp ≤ endAt) ∧
      ∀ k : Int, endAt - 2 * timeframe < (flatBar (0 + k * timeframe)).timestamp →
        (flatBar (0 + k * timeframe)).timestamp ≤ endAt → (flatBar (0 + k * timeframe)).timestamp ≤ clock →
        flatBar (0 + k * timeframe) ∈ bars := by
  have hlast : endAt / timeframe * timeframe ≤ endAt := Int.ediv_mul_le endAt hpos.ne'
  have hnext : endAt < (endAt / timeframe + 1) * timeframe := Int.lt_ediv_add_one_mul_self endAt hpos
  refine ⟨_, rfl, fun b hb => ?_, fun k hlow hhigh hclock => ?_⟩
  · obtain ⟨hmem, -⟩ := List.mem_filter.mp hb
    rcases List.mem_cons.mp hmem with rfl | hmem
    · refine ⟨endAt / timeframe - 1, by rw [zero_add], ?_⟩
      show (endAt / timeframe - 1) * timeframe ≤ endAt
      rw [sub_mul, one_mul]
      linarith
    · rw [List.mem_singleton.mp hmem]
      exact ⟨endAt / timeframe, by rw [zero_add], hlast⟩
  · rw [zero_add] at hlow hhigh hclock ⊢
    have hupper : k < endAt / timeframe + 1 := lt_of_mul_lt_mul_right (lt_of_le_of_lt hhigh hnext) hpos.le
    have hlower : endAt / timeframe - 2 < k := by
      refine lt_of_mul_lt_mul_right (lt_of_le_of_lt ?_ hlow) hpos.le
      rw [sub_mul]
      linarith
    refine List.mem_filter.mpr ⟨?_, decide_eq_true hclock⟩
    have hcases : k = endAt / timeframe - 1 ∨ k = endAt / timeframe := by omega
    rcases hcases with rfl | rfl
    · exact List.mem_cons_self
    · exact List.mem_cons_of_mem _ List.mem_cons_self

/-- A venue on the grid of the epoch. -/
def flatVenue (row : PaperOrderRow) : Venue row.timeframe where
  origin := 0
  bar k := flatBar (0 + k * row.timeframe)
  completedBars := lastTwo row.timeframe
  timestamp _ := rfl
  answers := lastTwo_answers (timeframe_pos row)

def entryDecision : RiskDecision where
  id := paperUuid 203
  orderIntentId := paperUuid 204
  outcome := .approve
  approvedQuantity := .ofNat 2
  approvedLimitPrice := none

def entryIntent : OrderIntent where
  id := paperUuid 204
  origin := .strategy
  sourceId := paperUuid 205
  accountId := paperUuid 201
  instrumentId := paperUuid 206
  intentType := .entry
  side := .buy
  orderStyle := .market
  quantity := .ofNat 2
  limitPrice := none
  idempotencyKey := "strategy"
  triggerPrice := none

/-- The entry created on an empty journal, and what the paper submitter stages for it. -/
def stageSample (now : Instant) : Option PaperOrderRow :=
  match createNamedOrder sampleIds textSum Trader.sampleAccount entryDecision entryIntent .submitNewExposure
      marketTimeInForce now (.empty true) with
  | .ok (some created, _) =>
    match paperCommand sampleAccount created.command.toBrokerOrderCommand with
    | .ok command => (stagedRow command (command.commandDigest textSum)).toOption
    | .error _ => none
  | _ => none

abbrev SampleStaged (now : Instant) (row : PaperOrderRow) : Prop :=
  StagedEntry sampleIds textSum Trader.sampleAccount sampleAccount entryDecision entryIntent now row

theorem stageSample_staged {now : Instant} {row : PaperOrderRow} (h : stageSample now = some row) :
    SampleStaged now row := by
  refine ⟨rfl, rfl, ?_⟩
  unfold stageSample at h
  split at h
  · rename_i created j' hcreate
    split at h
    · rename_i command hpaper
      have hrow : stagedRow command (command.commandDigest textSum) = .ok row := by
        cases hstaged : stagedRow command (command.commandDigest textSum) with
        | error e =>
          rw [hstaged] at h
          cases h
        | ok staged =>
          rw [hstaged] at h
          rw [Option.some.inj h]
      exact ⟨.empty true, created, j', command, hcreate, List.not_mem_nil, hpaper, hrow⟩
    · cases h
  · cases h

/-- What is looked at of the sample row. -/
def fillsFlat (row : PaperOrderRow) : Bool :=
  decide (row.timeframeSeconds = 300) && decide (Priceable row (flatBar 0)) &&
    match row.toCommand with
    | .ok command => decide (command.commandDigest textSum = row.commandDigest)
    | .error _ => false

theorem fillsFlat_priceable {row : PaperOrderRow} (h : fillsFlat row = true) (t : Instant) :
    Priceable row (flatBar t) := by
  simp only [fillsFlat, Bool.and_eq_true, decide_eq_true_eq] at h
  have hprice : openPrice row (flatBar t) = openPrice row (flatBar 0) := by
    unfold openPrice
    cases row.side <;> rfl
  obtain ⟨⟨-, hpriceable⟩, -⟩ := h
  exact ⟨hprice ▸ hpriceable.price, hpriceable.fee, hpriceable.slippage⟩

theorem fillsFlat_digest {row : PaperOrderRow} (h : fillsFlat row = true) :
    ∃ command, row.toCommand = .ok command ∧ command.commandDigest textSum = row.commandDigest := by
  simp only [fillsFlat, Bool.and_eq_true, decide_eq_true_eq] at h
  obtain ⟨-, hdigest⟩ := h
  cases hcommand : row.toCommand with
  | error e =>
    rw [hcommand] at hdigest
    cases hdigest
  | ok command =>
    rw [hcommand] at hdigest
    exact ⟨command, rfl, of_decide_eq_true hdigest⟩

theorem fillsFlat_timeframe {row : PaperOrderRow} (h : fillsFlat row = true) : row.timeframe = 300000000 := by
  simp only [fillsFlat, Bool.and_eq_true, decide_eq_true_eq] at h
  unfold PaperOrderRow.timeframe
  rw [h.1.1]
  rfl

theorem sample_exists {now : Instant} (h : (stageSample now).any fillsFlat = true) :
    ∃ row, SampleStaged now row ∧ fillsFlat row = true := by
  obtain ⟨row, hrow, hfills⟩ := (Option.any_eq_true _ _).mp h
  exact ⟨row, stageSample_staged hrow, hfills⟩

theorem sample_grid {row : PaperOrderRow} (h : fillsFlat row = true) (now : Int) :
    (flatVenue row).OnGrid (now + reservationWindow - sampleAccount.timeframe % 1000000) ↔
      (300000000 : Int) ∣ now + 300000000 := by
  have htimeframe := fillsFlat_timeframe h
  show row.timeframe ∣ now + 300000000 - 300000000 % 1000000 - 0 ↔ _
  rw [htimeframe]
  norm_num

/-- The command the paper submitter stages for the sample. -/
def sampleCommand (sha256 : String → Digest) (now : Instant) : Option PaperOrderCommand :=
  match createNamedOrder sampleIds sha256 Trader.sampleAccount entryDecision entryIntent .submitNewExposure
      marketTimeInForce now (.empty true) with
  | .ok (some created, _) => (paperCommand sampleAccount created.command.toBrokerOrderCommand).toOption
  | _ => none

theorem stageSample_eq (now : Instant) :
    stageSample now = (sampleCommand textSum now).bind fun command =>
      (stagedRow command (command.commandDigest textSum)).toOption := by
  unfold stageSample sampleCommand
  cases createNamedOrder sampleIds textSum Trader.sampleAccount entryDecision entryIntent .submitNewExposure
      marketTimeInForce now (.empty true) with
  | error e => rfl
  | ok result =>
    obtain ⟨_ | created, j⟩ := result
    · rfl
    · dsimp only
      cases paperCommand sampleAccount created.command.toBrokerOrderCommand <;> rfl

theorem sampleCommand_some {sha256 : String → Digest} {now : Instant} {command : PaperOrderCommand}
    (h : sampleCommand sha256 now = some command) (other : String → Digest) : sampleCommand other now = some command := by
  unfold sampleCommand at h ⊢
  split at h
  · rename_i created j' hcreate
    obtain ⟨digest, j'', hother⟩ := createNamedOrder_rehashed other rfl hcreate
    rw [hother]
    exact h
  · cases h

/-- What is looked at of a command: its row under any digest fills, and is the command again. -/
def commandFills (command : PaperOrderCommand) : Bool :=
  match stagedRow command 0 with
  | .ok row =>
    decide (row.timeframeSeconds = 300) && decide (Priceable row (flatBar 0)) &&
      match row.toCommand with
      | .ok read => decide (read.Matches command.toPaperOrderTerms)
      | .error _ => false
  | .error _ => false

/-- The digest is a column of its own. -/
theorem stagedRow_digest (command : PaperOrderCommand) (digest : Digest) :
    stagedRow command digest = (stagedRow command 0).map fun row => { row with commandDigest := digest } := by
  unfold stagedRow
  cases storeDecimal command.quantity with
  | error e => rfl
  | ok quantity =>
  cases storeOptional command.limitPrice with
  | error e => rfl
  | ok limitPrice =>
  cases storeOptional command.triggerPrice with
  | error e => rfl
  | ok triggerPrice =>
  cases storeDecimal command.feePerUnit with
  | error e => rfl
  | ok feePerUnit =>
  cases storeDecimal command.slippagePerUnit with
  | error e => rfl
  | ok slippagePerUnit =>
    simp only [ok_bind]
    split <;> rfl

theorem fillsFlat_digested {row : PaperOrderRow} {read : PaperOrderCommand} (htimeframe : row.timeframeSeconds = 300)
    (hpriceable : Priceable row (flatBar 0)) (hread : row.toCommand = .ok read) {digest : Digest}
    (hdigest : read.commandDigest textSum = digest) : fillsFlat { row with commandDigest := digest } = true := by
  have hsame : PaperOrderRow.toCommand { row with commandDigest := digest } = .ok read := hread
  have hpriced : Priceable { row with commandDigest := digest } (flatBar 0) :=
    ⟨hpriceable.price, hpriceable.fee, hpriceable.slippage⟩
  unfold fillsFlat
  rw [hsame, decide_eq_true htimeframe, decide_eq_true hpriced, Bool.true_and, Bool.true_and]
  exact decide_eq_true hdigest

theorem fillsFlat_of_command {command : PaperOrderCommand} (h : commandFills command = true) :
    ∃ row, stagedRow command (command.commandDigest textSum) = .ok row ∧ fillsFlat row = true := by
  unfold commandFills at h
  cases hrow : stagedRow command 0 with
  | error e =>
    rw [hrow] at h
    cases h
  | ok row =>
    rw [hrow] at h
    have hstaged := stagedRow_digest command (command.commandDigest textSum)
    rw [hrow] at hstaged
    simp only [Bool.and_eq_true, decide_eq_true_eq] at h
    obtain ⟨⟨htimeframe, hpriceable⟩, hread⟩ := h
    cases hcommand : row.toCommand with
    | error e =>
      rw [hcommand] at hread
      cases hread
    | ok read =>
      rw [hcommand] at hread
      have hmatches := of_decide_eq_true hread
      have hdigest : read.commandDigest textSum = command.commandDigest textSum := by
        rw [PaperOrderTerms.commandDigest_eq, PaperOrderTerms.commandDigest_eq, PaperOrderTerms.digestText,
          PaperOrderTerms.digestText, PaperOrderTerms.payload_of_matches hmatches]
      exact ⟨_, hstaged, fillsFlat_digested htimeframe hpriceable hcommand hdigest⟩

theorem stageSample_fills {now : Instant} (h : (sampleCommand (fun _ => 0) now).any commandFills = true) :
    (stageSample now).any fillsFlat = true := by
  obtain ⟨command, hcommand, hfills⟩ := (Option.any_eq_true _ _).mp h
  obtain ⟨row, hrow, hflat⟩ := fillsFlat_of_command hfills
  rw [stageSample_eq, sampleCommand_some hcommand textSum, Option.bind_some, hrow]
  exact hflat

theorem stageSample_midnight : (stageSample sampleNow).any fillsFlat = true := stageSample_fills (by decide +kernel)

theorem stageSample_second : (stageSample (sampleNow + 1000000)).any fillsFlat = true :=
  stageSample_fills (by decide +kernel)

/-- An entry of midnight is on the grid of five minutes. -/
theorem settled_by_next_bar_iff_midnight :
    ∃ row, SampleStaged sampleNow row ∧ SettledByNextBar textSum (fun _ => 0) row (flatVenue row) sampleNow := by
  obtain ⟨row, hstaged, hfills⟩ := sample_exists stageSample_midnight
  have hgrid : OnTheGrid textSum sampleAccount row (flatVenue row) sampleNow :=
    ⟨(sample_grid hfills sampleNow).mpr (by decide), le_rfl, fillsFlat_digest hfills,
      fun k _ => fillsFlat_priceable hfills _⟩
  exact ⟨row, hstaged, (settled_by_next_bar_iff sampleIds textSum (fun _ => 0) Trader.sampleAccount sampleAccount
    entryDecision entryIntent sampleNow row hstaged (flatVenue row)).mpr hgrid⟩

/-- One second after midnight no bar ever closes at the deadline, and the entry is never settled. -/
theorem entry_one_second_late :
    ¬∀ (now : Instant) (row : PaperOrderRow), wholeSecond now = true → SampleStaged now row →
      ∀ venue : Venue row.timeframe, SettledByNextBar textSum (fun _ => 0) row venue now := by
  intro h
  obtain ⟨row, hstaged, hfills⟩ := sample_exists stageSample_second
  have hsettled := h (sampleNow + 1000000) row (by decide) hstaged (flatVenue row)
  have hgrid := (onTheGrid_of_settled hstaged.marketRow hsettled).grid
  exact absurd ((sample_grid hfills _).mp hgrid) (by decide)

end AutoTrader.Paper
