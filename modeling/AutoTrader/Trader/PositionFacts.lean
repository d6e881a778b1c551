import AutoTrader.Operations.DavidV6Position
import AutoTrader.Strategy.Engine

/-! What the position manager sees of one pass, taken from the evidence the pass assembles for the
entry decision. Evidence that is absent is no signal. -/

namespace AutoTrader.Trader

open AutoTrader.Domain AutoTrader.Execution AutoTrader.Operations AutoTrader.Strategy

/-- One drawn retracement, as far as the manager reads it. -/
structure HlitSetup where
  direction : Side
  fib25 : ℚ
  fib50 : ℚ
  fib66 : ℚ
  fib25_pos : 0 < fib25
  fib50_pos : 0 < fib50
  fib66_pos : 0 < fib66

structure HlitFacts where
  bullish : Option HlitSetup
  bearish : Option HlitSetup

def HlitFacts.forSide (facts : HlitFacts) : Side → Option HlitSetup
  | .buy => facts.bullish
  | .sell => facts.bearish

structure FeeSchedule where
  entryFeePerUnit : Option ℚ
  exitTakerFeePerUnit : Option ℚ
  entry_nonneg : ∀ fee, entryFeePerUnit = some fee → 0 ≤ fee
  exit_nonneg : ∀ fee, exitTakerFeePerUnit = some fee → 0 ≤ fee

/-- One pass's market, before it is narrowed to a side. -/
structure PositionMarket where
  bundle : V6EvidenceBundle
  hlit : Option HlitFacts
  currentPrice : ℚ
  atr5m : ℚ
  tickSize : ℚ
  feeSchedule : FeeSchedule
  stopSlippageQ95 : Option ℚ

/-- `_blocking`: an opposing big trade ahead. A window too short to rank its events is none. -/
def blocking (bundle : V6EvidenceBundle) (side : Side) (price : ℚ) : Except PyError Bool :=
  match bundle.orderFlow.value with
  | some (.orderFlow value) =>
    match blockingBigTradeAhead value side price with
    | .ok ahead => .ok ahead
    | .error error => if error.kind = .bigTradesUnmeasured then .ok false else .error error
  | _ => .ok false

/-- `_must_be_flat`. -/
def mustBeFlat (bundle : V6EvidenceBundle) : Bool :=
  match bundle.session.value with
  | some (.session value) => value.mustBeFlat
  | _ => false

/-- `_metodo_exit`: the cross against the position. -/
def metodoExit (bundle : V6EvidenceBundle) (side : Side) : Bool :=
  match bundle.metodo.value with
  | some (.metodo value) =>
    match side with
    | .buy => value.sma670CrossDown
    | .sell => value.sma670CrossUp
  | _ => false

/-- What `position_facts` fills in, before it is checked. -/
def uncheckedFacts (market : PositionMarket) (side : Side) (setup : Option HlitSetup)
    (blockingBigTrade protectionFailed : Bool) : V6PositionFacts where
  currentPrice := market.currentPrice
  atr5m := market.atr5m
  tickSize := market.tickSize
  actualEntryFeePerUnit := market.feeSchedule.entryFeePerUnit.getD 0
  takerExitFeePerUnit := market.feeSchedule.exitTakerFeePerUnit.getD 0
  q95AdverseStopSlippage := market.stopSlippageQ95.getD 0
  slippageSampleSufficient := market.stopSlippageQ95.isSome
  fib25Price := setup.map (·.fib25)
  fib50Price := setup.map (·.fib50)
  fib66Price := setup.map (·.fib66)
  blockingBigTrade := blockingBigTrade
  metodoExitSignal := metodoExit market.bundle side
  protectionFailed := protectionFailed
  mustBeFlat := mustBeFlat market.bundle

/-- `position_facts`. -/
def positionFacts (market : PositionMarket) (side : Side) (setup : Option HlitSetup) (protectionFailed : Bool) :
    Except PyError V6PositionFacts := do
  let blockingBigTrade ← blocking market.bundle side market.currentPrice
  let facts := uncheckedFacts market side setup blockingBigTrade protectionFailed
  facts.validate
  pure facts

/-- The actions of the open position, decided on one pass's market. -/
def decideActions (market : PositionMarket) (mode : RuntimeMode) (position : V6ManagedPosition)
    (protectionFailed : Bool) : Except PyError (List V6PositionAction) := do
  let setup := market.hlit.bind fun hlit => hlit.forSide position.side
  let facts ← positionFacts market position.side setup protectionFailed
  manageV6Position position facts mode

theorem blocking_returns (bundle : V6EvidenceBundle) (side : Side) {price : ℚ} (h : 0 < price) :
    ∃ ahead, blocking bundle side price = .ok ahead := by
  unfold blocking blockingBigTradeAhead
  split
  · rw [if_neg (not_le.mpr h)]
    split
    · exact ⟨_, rfl⟩
    · rename_i error herror
      split at herror
      · cases herror
        exact ⟨false, rfl⟩
      · cases herror
  · exact ⟨false, rfl⟩

/-- At a price, every fact but the tick and the slippage was checked where it came from. -/
theorem uncheckedFacts_valid {market : PositionMarket} {side : Side} {setup : Option HlitSetup} {ahead failed : Bool}
    (hprice : 0 < market.currentPrice) (hatr : 0 < market.atr5m) :
    (uncheckedFacts market side setup ahead failed).validate = .ok () ↔
      0 < market.tickSize ∧ ∀ slippage, market.stopSlippageQ95 = some slippage → 0 ≤ slippage := by
  have hlevel : ∀ {level : HlitSetup → ℚ}, (∀ setup, 0 < level setup) →
      ∀ price, setup.map level = some price → 0 < price := by
    intro level hlevel price hsome
    obtain ⟨drawn, -, rfl⟩ := Option.map_eq_some_iff.mp hsome
    exact hlevel drawn
  have hdefault : ∀ {amount : Option ℚ}, 0 ≤ amount.getD 0 ↔ ∀ x, amount = some x → 0 ≤ x := by
    intro amount
    cases amount <;> simp
  rw [V6PositionFacts.validate_returns]
  constructor
  · rintro ⟨-, -, htick, -, -, -, -, -, hslippage⟩
    exact ⟨htick, hdefault.mp hslippage⟩
  · rintro ⟨htick, hslippage⟩
    exact ⟨hprice, hatr, htick, hlevel HlitSetup.fib25_pos, hlevel HlitSetup.fib50_pos, hlevel HlitSetup.fib66_pos,
      hdefault.mpr market.feeSchedule.entry_nonneg, hdefault.mpr market.feeSchedule.exit_nonneg, hdefault.mpr hslippage⟩

/-- The decision is taken for a valid position on a valid tick and slippage. -/
theorem decideActions_returns {market : PositionMarket} {mode : RuntimeMode} {position : V6ManagedPosition}
    {failed : Bool} (hprice : 0 < market.currentPrice) (hatr : 0 < market.atr5m) :
    (∃ actions, decideActions market mode position failed = .ok actions) ↔ position.validate = .ok () ∧
      0 < market.tickSize ∧ ∀ slippage, market.stopSlippageQ95 = some slippage → 0 ≤ slippage := by
  obtain ⟨ahead, hahead⟩ := blocking_returns market.bundle position.side hprice
  constructor
  · rintro ⟨actions, h⟩
    obtain ⟨facts, hfacts, h⟩ := bind_ok.mp h
    obtain ⟨_, -, hfacts⟩ := bind_ok.mp hfacts
    obtain ⟨_, hvalid, -⟩ := bind_ok.mp hfacts
    exact ⟨(manageV6Position_returns.mp ⟨actions, h⟩).1, (uncheckedFacts_valid hprice hatr).mp hvalid⟩
  · rintro ⟨hposition, hmarket⟩
    have hvalid : (uncheckedFacts market position.side (market.hlit.bind fun hlit => hlit.forSide position.side) ahead
        failed).validate = .ok () := (uncheckedFacts_valid hprice hatr).mpr hmarket
    obtain ⟨actions, hactions⟩ : ∃ actions, manageV6Position position _ mode = .ok actions :=
      manageV6Position_returns.mpr ⟨hposition, hvalid⟩
    refine ⟨actions, ?_⟩
    unfold decideActions positionFacts
    rw [hahead]
    simp only [ok_bind, hvalid]
    exact hactions

end AutoTrader.Trader
