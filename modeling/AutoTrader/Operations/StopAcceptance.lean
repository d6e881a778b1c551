import AutoTrader.Operations.DavidV6Position
import AutoTrader.Binance.StopMove

/-! Whether the venue's adapter takes the stops the manager asks for. The manager measures a
moved stop from the average entry and what leaving costs; the adapter wants it on the protective
side of the first fill, where only an entry that got better after its first fill leaves room. -/

namespace AutoTrader.Operations

open AutoTrader.Domain AutoTrader.Numeric AutoTrader.Binance

/-- A trigger at most a tick further from the price than the stop. -/
def withinTick (side : Side) (stop tick trigger : ℚ) : Prop :=
  match side with
  | .buy => stop - tick ≤ trigger
  | .sell => trigger ≤ stop + tick

/-- The stop passes the adapter's validation, with a trigger on the tick grid that is at most a
tick wider. -/
def AcceptsStop (fill : EntryFill) (stop quantity : Decimal) : Prop :=
  ∃ trigger, validateRiskAuthority fill (.approved stop quantity) = .ok trigger ∧
    (∃ n : ℤ, trigger.toRat = n * fill.tickSize.toRat) ∧
    withinTick fill.side stop.toRat fill.tickSize.toRat trigger.toRat

/-- The whole number of ticks at a price, on the side away from the fill. -/
def wholeTicks (side : Side) (price tick : ℚ) : ℤ :=
  match side with
  | .buy => ⌊roundSig 28 (price / tick)⌋
  | .sell => ⌈roundSig 28 (price / tick)⌉

/-- The multiple of the tick at a price is not lost to the 28 digits of a product. -/
structure OnTicks (side : Side) (price : ℚ) (tick : Decimal) : Prop where
  positive : 0 < (Decimal.mulInt (wholeTicks side price tick.toRat) tick).toRat
  multiple : ∃ n : ℤ, (Decimal.mulInt (wholeTicks side price tick.toRat) tick).toRat = n * tick.toRat
  close : withinTick side price tick.toRat (Decimal.mulInt (wholeTicks side price tick.toRat) tick).toRat

/-- So it is for every price of at least a tick whose ticks and digits are not beyond the context. -/
theorem onTicks_of_lt {side : Side} {price : ℚ} {tick : Decimal} (htick : 0 < tick.toRat) (hprice : tick.toRat ≤ price)
    (hdigits : ⌈price / tick.toRat⌉ * tick.coefficient < 10 ^ 28) : OnTicks side price tick := by
  have hone : 1 ≤ price / tick.toRat := (one_le_div htick).mpr hprice
  have hnonneg : 0 ≤ price / tick.toRat := zero_le_one.trans hone
  have hceil : 1 ≤ ⌈price / tick.toRat⌉ := Int.one_le_ceil_iff.mpr (zero_lt_one.trans_le hone)
  have hcoefficient : 1 ≤ tick.coefficient := by
    by_contra hzero
    have hc : tick.coefficient = 0 := by omega
    rw [Decimal.toRat, hc] at htick
    simp at htick
  have hrange : ⌈price / tick.toRat⌉ < 10 ^ 28 := by
    have hle : ⌈price / tick.toRat⌉ * 1 ≤ ⌈price / tick.toRat⌉ * tick.coefficient :=
      mul_le_mul_of_nonneg_left (by exact_mod_cast hcoefficient) (by omega)
    omega
  obtain ⟨hfloor, htop⟩ := roundSig_between (p := 28) (by decide) hnonneg hrange
  obtain ⟨n, hn, hlow, hhigh, hclose⟩ : ∃ n, wholeTicks side price tick.toRat = n ∧ 1 ≤ n ∧
      n ≤ ⌈price / tick.toRat⌉ ∧ withinTick side (price / tick.toRat) 1 n := by
    refine ⟨_, rfl, ?_⟩
    cases side with
    | buy =>
      have hbelow : ⌊price / tick.toRat⌋ ≤ ⌊roundSig 28 (price / tick.toRat)⌋ := Int.le_floor.mpr hfloor
      have hstart : 1 ≤ ⌊price / tick.toRat⌋ := Int.le_floor.mpr (by exact_mod_cast hone)
      have habove : ⌊roundSig 28 (price / tick.toRat)⌋ ≤ ⌈price / tick.toRat⌉ :=
        Int.floor_le_iff.mpr (htop.trans_lt (lt_add_one _))
      refine ⟨hstart.trans hbelow, habove, ?_⟩
      have hnear : price / tick.toRat - 1 < ⌊price / tick.toRat⌋ := Int.sub_one_lt_floor _
      have hcast : (⌊price / tick.toRat⌋ : ℚ) ≤ ⌊roundSig 28 (price / tick.toRat)⌋ := by exact_mod_cast hbelow
      exact hnear.le.trans hcast
    | sell =>
      have habove : ⌈roundSig 28 (price / tick.toRat)⌉ ≤ ⌈price / tick.toRat⌉ := Int.ceil_le.mpr htop
      have hpos : 0 < roundSig 28 (price / tick.toRat) := roundSig_pos (by decide) (zero_lt_one.trans_le hone)
      refine ⟨Int.one_le_ceil_iff.mpr hpos, habove, ?_⟩
      have hnear : (⌈price / tick.toRat⌉ : ℚ) < price / tick.toRat + 1 := Int.ceil_lt_add_one _
      have hcast : (⌈roundSig 28 (price / tick.toRat)⌉ : ℚ) ≤ ⌈price / tick.toRat⌉ := by exact_mod_cast habove
      exact hcast.trans hnear.le
  have hexact : (Decimal.mulInt n tick).toRat = n * tick.toRat := by
    refine Decimal.toRat_mulInt ?_
    have hle : n * tick.coefficient ≤ ⌈price / tick.toRat⌉ * tick.coefficient :=
      mul_le_mul_of_nonneg_right hhigh (by omega)
    have habs : ((n.natAbs * tick.coefficient : ℕ) : ℤ) = n * tick.coefficient := by
      rw [Nat.cast_mul, Int.natAbs_of_nonneg (by omega)]
    omega
  refine ⟨?_, ⟨n, ?_⟩, ?_⟩
  · rw [hn, hexact]
    have hpos : (0 : ℚ) < n := by exact_mod_cast hlow
    exact mul_pos hpos htick
  · rw [hn, hexact]
  · cases side with
    | buy =>
      show price - tick.toRat ≤ _
      rw [hn, hexact]
      have hscaled := mul_le_mul_of_nonneg_right hclose htick.le
      rwa [sub_mul, div_mul_cancel₀ _ htick.ne', one_mul] at hscaled
    | sell =>
      show _ ≤ price + tick.toRat
      rw [hn, hexact]
      have hscaled := mul_le_mul_of_nonneg_right hclose htick.le
      rwa [add_mul, div_mul_cancel₀ _ htick.ne', one_mul] at hscaled

/-! ### What the adapter checks -/

theorem acceptsStop_iff {fill : EntryFill} {stop quantity : Decimal} :
    AcceptsStop fill stop quantity ↔ fill.firstFillQuantity.toRat ≤ quantity.toRat ∧ 0 < stop.toRat ∧
      protectiveSide fill.side stop.toRat fill.averageFillPrice.toRat ∧ OnTicks fill.side stop.toRat fill.tickSize := by
  have hticks : (if fill.side = .buy then ⌊roundSig 28 (stop.toRat / fill.tickSize.toRat)⌋
      else ⌈roundSig 28 (stop.toRat / fill.tickSize.toRat)⌉) = wholeTicks fill.side stop.toRat fill.tickSize.toRat := by
    cases fill.side <;> rfl
  have hvalid : ∀ trigger, validateRiskAuthority fill (.approved stop quantity) = .ok trigger ↔
      (fill.firstFillQuantity.toRat ≤ quantity.toRat ∧ 0 < stop.toRat ∧
        protectiveSide fill.side stop.toRat fill.averageFillPrice.toRat) ∧
      Decimal.mulInt (wholeTicks fill.side stop.toRat fill.tickSize.toRat) fill.tickSize = trigger ∧
      0 < trigger.toRat := by
    intro trigger
    simp only [validateRiskAuthority, ProtectionAuthority.approved, hticks, bind_ok, require_ok, exists_const,
      List.isEmpty_nil, Bool.and_self, Bool.true_and, Bool.and_eq_true, and_assoc]
    constructor
    · rintro ⟨hquantity, hpositive, hprotective, htrigger, hresult⟩
      cases hresult
      exact ⟨of_decide_eq_true hquantity, of_decide_eq_true hpositive, hprotective, rfl, of_decide_eq_true htrigger⟩
    · rintro ⟨hquantity, hpositive, hprotective, rfl, htrigger⟩
      exact ⟨decide_eq_true hquantity, decide_eq_true hpositive, hprotective, decide_eq_true htrigger, rfl⟩
  constructor
  · rintro ⟨trigger, haccepted, hmultiple, hclose⟩
    obtain ⟨⟨hquantity, hpositive, hprotective⟩, rfl, htrigger⟩ := (hvalid trigger).mp haccepted
    exact ⟨hquantity, hpositive, hprotective, htrigger, hmultiple, hclose⟩
  · rintro ⟨hquantity, hpositive, hprotective, htrigger, hmultiple, hclose⟩
    exact ⟨_, (hvalid _).mpr ⟨⟨hquantity, hpositive, hprotective⟩, rfl, htrigger⟩, hmultiple, hclose⟩

/-- A tightened stop is on the protective side exactly when both of its candidates are. -/
theorem protectiveSide_nonWidening {side : Side} {active proposed fillPrice : ℚ} :
    protectiveSide side (nonWideningStop side (some active) proposed) fillPrice ↔
      protectiveSide side active fillPrice ∧ protectiveSide side proposed fillPrice := by
  cases side with
  | buy => simp [protectiveSide, nonWideningStop]
  | sell => simp [protectiveSide, nonWideningStop]

/-- The adapter takes a stop the manager asks for exactly when the break-even price and the
working stop are both on the protective side of the first fill, for a quantity that covers it. -/
theorem manager_stop_accepted_iff {position : V6ManagedPosition} {facts : V6PositionFacts} {mode : RuntimeMode}
    {actions : List V6PositionAction} (hmanage : manageV6Position position facts mode = .ok actions)
    {action : V6PositionAction} (hmem : action ∈ actions)
    (hkind : action.kind = .moveStopToBreakEven ∨ action.kind = .addAndMoveStop) {fill : EntryFill}
    (hfill : fill.Valid) (hside : fill.side = position.side) {stop : Decimal}
    (hstop : action.stopPrice = some stop.toRat) (quantity : Decimal) :
    AcceptsStop fill stop quantity ↔
      fill.firstFillQuantity.toRat ≤ quantity.toRat ∧
      protectiveSide position.side (breakEvenStop position.side (averageBehind position facts action.kind) facts)
        fill.averageFillPrice.toRat ∧
      (∀ active, position.activeStopPrice = some active →
        protectiveSide position.side active fill.averageFillPrice.toRat) ∧
      OnTicks position.side (nonWideningStop position.side position.activeStopPrice
        (breakEvenStop position.side (averageBehind position facts action.kind) facts)) fill.tickSize := by
  obtain ⟨⟨active, hactive, hpositive⟩, hprice⟩ := manageV6Position_stop hmanage hmem hkind
  rw [hprice] at hstop
  have hvalue := Option.some.inj hstop
  rw [acceptsStop_iff, hside, ← hvalue, hactive, protectiveSide_nonWidening]
  constructor
  · rintro ⟨hquantity, -, ⟨hworking, hbreakEven⟩, hticks⟩
    exact ⟨hquantity, hbreakEven, fun _ h => by cases h; exact hworking, hticks⟩
  · rintro ⟨hquantity, hbreakEven, hworking, hticks⟩
    refine ⟨hquantity, ?_, ⟨hworking active rfl, hbreakEven⟩, hticks⟩
    cases hs : position.side with
    | buy => exact lt_max_of_lt_left hpositive
    | sell =>
      rw [hs] at hbreakEven
      have hboth := protectiveSide_nonWidening.mpr ⟨hs ▸ hworking active rfl, hbreakEven⟩
      simp only [protectiveSide, decide_eq_true_eq] at hboth
      exact hfill.averageFillPrice.trans hboth

/-! ### A sample position -/

/-- A long of two contracts at 100, protected at 90. -/
def sampleManaged : V6ManagedPosition where
  side := .buy
  initialEntryPrice := 100
  averageEntryPrice := 100
  initialQuantity := 2
  remainingQuantity := 2
  initialStopPrice := 90
  activeStopPrice := some 90
  initialStopActive := true
  originalApprovedRisk := 20
  currentWorstCaseRisk := 20
  addCount := 1
  breakEvenActive := false
  fib25Recorded := false
  fib50Recorded := false
  shadow1_2RRecorded := false
  shadow1_5RRecorded := false

def sampleFacts : V6PositionFacts where
  currentPrice := 110
  atr5m := 1
  tickSize := 1
  actualEntryFeePerUnit := 4 / 100
  takerExitFeePerUnit := 4 / 100
  q95AdverseStopSlippage := 0
  slippageSampleSufficient := true
  fib25Price := none
  fib50Price := none
  fib66Price := none
  blockingBigTrade := false
  metodoExitSignal := false
  protectionFailed := false
  mustBeFlat := false

def sampleMovesTo (stop : ℚ) : Bool :=
  match manageV6Position sampleManaged sampleFacts .paper with
  | .ok [action] => decide (action.kind = .moveStopToBreakEven) && decide (action.stopPrice = some stop)
  | _ => false

theorem sampleMove_action : ∃ action, manageV6Position sampleManaged sampleFacts .paper = .ok [action] ∧
    action.kind = .moveStopToBreakEven ∧ action.stopPrice = some (Decimal.ofNat 102).toRat := by
  have hmoves : sampleMovesTo (Decimal.ofNat 102).toRat = true := by decide +kernel
  unfold sampleMovesTo at hmoves
  split at hmoves
  · rename_i action hmanage
    simp only [Bool.and_eq_true, decide_eq_true_eq] at hmoves
    exact ⟨action, hmanage, hmoves⟩
  · cases hmoves

/-- The break-even stop at 102 is above the fill at 100. -/
theorem manager_stop_accepted_iff_sample : ¬ AcceptsStop sampleStopFill (Decimal.ofNat 102) (Decimal.ofNat 2) := by
  obtain ⟨action, hmanage, hkind, hstop⟩ := sampleMove_action
  have hvalid : sampleStopFill.Valid := by
    refine ⟨?_, ?_, ?_, ?_, rfl, ?_, ?_⟩ <;> decide +kernel
  have hiff := manager_stop_accepted_iff hmanage (List.mem_singleton_self action) (.inl hkind) hvalid rfl hstop
    (Decimal.ofNat 2)
  rw [hiff, hkind]
  exact fun haccepted => absurd haccepted.2.1 (by decide +kernel)

theorem manager_stop_accepted_fails :
    (∃ action, manageV6Position sampleManaged sampleFacts .paper = .ok [action] ∧
      action.kind = .moveStopToBreakEven ∧ action.stopPrice = some (Decimal.ofNat 102).toRat) ∧
    (Decimal.ofNat 102).toRat < sampleFacts.currentPrice ∧
    ¬ AcceptsStop sampleStopFill (Decimal.ofNat 102) (Decimal.ofNat 2) := by
  refine ⟨sampleMove_action, by decide +kernel, fun haccepted => ?_⟩
  exact absurd (acceptsStop_iff.mp haccepted).2.2.1 (by decide +kernel)

end AutoTrader.Operations
