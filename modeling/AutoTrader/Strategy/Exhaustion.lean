import AutoTrader.Domain.CompletedOhlcv
import AutoTrader.Runtime.Sequences
import AutoTrader.Strategy.Facts
import Mathlib.Data.List.Sort

/-! Exhaustion: swings that still extend the price while their volume falls, the last of them inside a zone. -/

namespace AutoTrader.Strategy

open AutoTrader.Domain AutoTrader.Runtime

/-! ### The evaluation -/

/-- `_require_pivot_matches_bar`. -/
def requirePivotMatchesBar (bars : List CompletedOhlcvBar) (pivot : Pivot) : Except PyError Unit :=
  match bars[pivot.index]?, bars[pivot.confirmationIndex]? with
  | some bar, some _ =>
    if pivot.timestamp ≠ bar.timestamp then .error ⟨.valueError, "pivot does not match completed bar history"⟩
    else
      let expected := if pivot.kind = .low then bar.low.toRat else bar.high.toRat
      if pivot.price ≠ expected then .error ⟨.valueError, "pivot price does not match completed bar"⟩ else .ok ()
  | _, _ => .error ⟨.valueError, "pivot does not match completed bar history"⟩

/-- `_inside_zone`. -/
def insideZone (price : ℚ) (facts : ZoneFacts) : Bool :=
  facts.zones.any fun zone => decide (zone.lowerBoundary ≤ price) && decide (price ≤ zone.upperBoundary)

/-- The confirmed pivots of a kind, by their index. -/
def selectedPivots (pivots : List Pivot) (kind : PivotKind) : List Pivot :=
  (pivots.filter fun pivot => pivot.confirmed && pivot.kind = kind).insertionSort fun a b => a.index ≤ b.index

/-- `bars[index]`, of an index that was checked. -/
def barVolume (bars : List CompletedOhlcvBar) (index : Nat) : ℚ := (bars[index]?.map (·.volume.toRat)).getD 0

def priceExtends (kind : PivotKind) (previous current : Pivot) : Prop :=
  if kind = .low then current.price < previous.price else previous.price < current.price

/-- A further price on less volume. -/
def Exhausts (bars : List CompletedOhlcvBar) (kind : PivotKind) (previous current : Pivot) : Prop :=
  priceExtends kind previous current ∧ barVolume bars current.index < barVolume bars previous.index

instance (kind : PivotKind) (previous current : Pivot) : Decidable (priceExtends kind previous current) :=
  inferInstanceAs (Decidable (ite _ _ _))

instance (bars : List CompletedOhlcvBar) (kind : PivotKind) : DecidableRel (Exhausts bars kind) :=
  fun _ _ => inferInstanceAs (Decidable (_ ∧ _))

/-- What a history is reported as. -/
def reportedSequence (bars : List CompletedOhlcvBar) (zones : ZoneFacts) (kind : PivotKind) (history : List Pivot) :
    Option ExhaustionSequence :=
  match history.getLast? with
  | none => none
  | some last =>
    if history.length < 2 ∨ insideZone last.price zones = false then none
    else
      let confirmed := decide (3 ≤ history.length)
      some
        { direction := if kind = .low then .buy else .sell
          confirmed := confirmed
          researchOnly := !confirmed
          history := history
          evaluationPivots := sliceFrom (-4) history
          structuralReferencePrice := last.price
          confirmedAt := (bars[last.confirmationIndex]?.map (·.timestamp)).getD 0 }

/-- `_sequence`. -/
def exhaustionSequence (bars : List CompletedOhlcvBar) (zones : ZoneFacts) (pivots : List Pivot) (kind : PivotKind) :
    Option ExhaustionSequence :=
  match selectedPivots pivots kind with
  | [] | [_] => none
  | first :: rest => reportedSequence bars zones kind (chainLoop (Exhausts bars kind) [first] first rest)

def evaluateExhaustion (bars : List CompletedOhlcvBar) (zones : ZoneFacts) (pivots : List Pivot) :
    Except PyError ExhaustionFacts :=
  if ¬bars.IsChain fun earlier later => earlier.timestamp < later.timestamp then
    .error ⟨.valueError, "exhaustion bars must be strictly ascending"⟩
  else do
    pivots.forM (requirePivotMatchesBar bars)
    pure
      { observedAt := bars.getLast?.map (·.timestamp)
        bullish := exhaustionSequence bars zones pivots .low
        bearish := exhaustionSequence bars zones pivots .high }

/-- The side of a kind of pivot. -/
def sequenceOf (facts : ExhaustionFacts) : PivotKind → Option ExhaustionSequence
  | .low => facts.bullish
  | .high => facts.bearish

/-! ### The history is the longest suffix -/

variable {bars : List CompletedOhlcvBar} {zones : ZoneFacts} {pivots : List Pivot} {kind : PivotKind}

theorem reportedSequence_some {history : List Pivot} {sequence : ExhaustionSequence}
    (h : reportedSequence bars zones kind history = some sequence) :
    sequence.history = history ∧ sequence.confirmed = decide (3 ≤ history.length) := by
  unfold reportedSequence at h
  split at h
  · cases h
  · split at h
    · cases h
    · cases h
      exact ⟨rfl, rfl⟩

theorem reportedSequence_isSome {history : List Pivot} :
    (reportedSequence bars zones kind history).isSome ↔
      2 ≤ history.length ∧ ∃ last, history.getLast? = some last ∧ insideZone last.price zones = true := by
  unfold reportedSequence
  split
  · rename_i hlast
    refine iff_of_false Bool.false_ne_true ?_
    rintro ⟨-, last, hsome, -⟩
    rw [hlast] at hsome
    cases hsome
  · rename_i last hlast
    simp only [hlast, Option.some.injEq, exists_eq_left']
    split
    · rename_i hgate
      refine iff_of_false Bool.false_ne_true fun hlong => ?_
      rcases hgate with hshort | houtside
      · exact absurd hlong.1 (not_le.mpr hshort)
      · exact Bool.false_ne_true (houtside.symm.trans hlong.2)
    · rename_i hgate
      rw [not_or, not_lt, Bool.not_eq_false] at hgate
      exact iff_of_true rfl hgate

/-- Fewer than two pivots make no sequence, and the loop over more finds their longest chain. -/
theorem exhaustionSequence_chain {chain : List Pivot}
    (h : LongestChain (Exhausts bars kind) (selectedPivots pivots kind) chain) :
    exhaustionSequence bars zones pivots kind = reportedSequence bars zones kind chain := by
  have hshort : chain.length < 2 → reportedSequence bars zones kind chain = none := by
    intro hlength
    rw [← Option.not_isSome_iff_eq_none, reportedSequence_isSome]
    exact fun hlong => absurd hlong.1 (not_le.mpr hlength)
  have hlength := h.suffix.length_le
  unfold exhaustionSequence
  split
  · rename_i hselected
    rw [hselected] at hlength
    exact (hshort (hlength.trans_lt Nat.two_pos)).symm
  · rename_i hselected
    rw [hselected] at hlength
    exact (hshort (hlength.trans_lt Nat.one_lt_two)).symm
  · rename_i first rest hne hselected
    rw [hselected] at h
    have hfirst : LongestChain (Exhausts bars kind) ([] ++ [first]) [first] := longestChain_singleton first
    rw [(chainLoop_longest hfirst rest).unique h]

theorem exists_longestChain (R : Pivot → Pivot → Prop) [DecidableRel R] (pivots : List Pivot) :
    ∃ chain, LongestChain R pivots chain := by
  cases pivots with
  | nil => exact ⟨[], List.suffix_refl _, List.isChain_nil, fun other h _ => h⟩
  | cons first rest =>
    have hfirst : LongestChain R ([] ++ [first]) [first] := longestChain_singleton first
    exact ⟨_, chainLoop_longest hfirst rest⟩

theorem evaluateExhaustion_sequence {facts : ExhaustionFacts} (h : evaluateExhaustion bars zones pivots = .ok facts)
    (kind : PivotKind) : sequenceOf facts kind = exhaustionSequence bars zones pivots kind := by
  unfold evaluateExhaustion at h
  split at h
  · cases h
  · obtain ⟨-, -, h⟩ := bind_ok.mp h
    cases h
    cases kind <;> rfl

/-- The history is the longest suffix of exhausting pivots, and it is confirmed where it has three and the last of
them lies inside a zone. -/
theorem exhaustion_chain {facts : ExhaustionFacts} (h : evaluateExhaustion bars zones pivots = .ok facts)
    (kind : PivotKind) :
    ∃ chain, LongestChain (Exhausts bars kind) (selectedPivots pivots kind) chain ∧
      (∀ sequence, sequenceOf facts kind = some sequence →
        sequence.history = chain ∧ sequence.confirmed = decide (3 ≤ chain.length)) ∧
      ((sequenceOf facts kind).isSome ↔
        2 ≤ chain.length ∧ ∃ last, chain.getLast? = some last ∧ insideZone last.price zones = true) ∧
      ((∃ sequence, sequenceOf facts kind = some sequence ∧ sequence.confirmed = true) ↔
        3 ≤ chain.length ∧ ∃ last, chain.getLast? = some last ∧ insideZone last.price zones = true) := by
  obtain ⟨chain, hchain⟩ := exists_longestChain (Exhausts bars kind) (selectedPivots pivots kind)
  have hsequence : sequenceOf facts kind = reportedSequence bars zones kind chain :=
    (evaluateExhaustion_sequence h kind).trans (exhaustionSequence_chain hchain)
  have hhistory : ∀ sequence, sequenceOf facts kind = some sequence →
      sequence.history = chain ∧ sequence.confirmed = decide (3 ≤ chain.length) :=
    fun sequence hfound => reportedSequence_some (hsequence.symm.trans hfound)
  have hfound : (sequenceOf facts kind).isSome ↔
      2 ≤ chain.length ∧ ∃ last, chain.getLast? = some last ∧ insideZone last.price zones = true := by
    rw [hsequence]
    exact reportedSequence_isSome
  refine ⟨chain, hchain, hhistory, hfound, ?_⟩
  constructor
  · rintro ⟨sequence, hsequence, hconfirmed⟩
    have hlong : 3 ≤ chain.length := of_decide_eq_true ((hhistory sequence hsequence).2.symm.trans hconfirmed)
    exact ⟨hlong, (hfound.mp (by rw [hsequence]; rfl)).2⟩
  · rintro ⟨hlong, hinside⟩
    obtain ⟨sequence, hsequence⟩ := Option.isSome_iff_exists.mp (hfound.mpr ⟨by omega, hinside⟩)
    exact ⟨sequence, hsequence, (hhistory sequence hsequence).2.trans (decide_eq_true hlong)⟩

/-! ### Three falling lows -/

theorem sinking_one : 0 < (Decimal.ofNat 1).toRat := by norm_num [Decimal.ofNat, Decimal.toRat]
theorem sinking_two : 0 < (Decimal.ofNat 2).toRat := by norm_num [Decimal.ofNat, Decimal.toRat]
theorem sinking_three : 0 < (Decimal.ofNat 3).toRat := by norm_num [Decimal.ofNat, Decimal.toRat]
theorem flat_one : (Decimal.ofNat 1).toRat ≤ (Decimal.ofNat 1).toRat := le_rfl
theorem flat_two : (Decimal.ofNat 2).toRat ≤ (Decimal.ofNat 2).toRat := le_rfl
theorem flat_three : (Decimal.ofNat 3).toRat ≤ (Decimal.ofNat 3).toRat := le_rfl
theorem sinking_volume_one : 0 ≤ (Decimal.ofNat 1).toRat := sinking_one.le
theorem sinking_volume_two : 0 ≤ (Decimal.ofNat 2).toRat := sinking_two.le
theorem sinking_volume_three : 0 ≤ (Decimal.ofNat 3).toRat := sinking_three.le

/-- Bars of one price each, on as much volume. -/
def sinkingBars : List CompletedOhlcvBar :=
  [⟨0, .ofNat 3, .ofNat 3, .ofNat 3, .ofNat 3, .ofNat 3, sinking_three, flat_three, flat_three, flat_three, flat_three,
      sinking_volume_three⟩,
    ⟨1, .ofNat 2, .ofNat 2, .ofNat 2, .ofNat 2, .ofNat 2, sinking_two, flat_two, flat_two, flat_two, flat_two,
      sinking_volume_two⟩,
    ⟨2, .ofNat 1, .ofNat 1, .ofNat 1, .ofNat 1, .ofNat 1, sinking_one, flat_one, flat_one, flat_one, flat_one,
      sinking_volume_one⟩]

theorem first_later : 0 ≤ 0 := le_rfl
theorem second_later : 1 ≤ 1 := le_rfl
theorem third_later : 2 ≤ 2 := le_rfl
theorem price_three : (0 : ℚ) < 3 := by decide
theorem price_two : (0 : ℚ) < 2 := by decide
theorem price_one : (0 : ℚ) < 1 := by decide

def sinkingPivots : List Pivot :=
  [⟨0, 0, .low, 3, 0, true, first_later, price_three⟩, ⟨1, 1, .low, 2, 1, true, second_later, price_two⟩,
    ⟨2, 2, .low, 1, 2, true, third_later, price_one⟩]

/-- No zone was found. -/
def noZones : ZoneFacts := ⟨0, "UTC", [], 1, [], second_later⟩

def unconfirmedFacts : ExhaustionFacts := ⟨some 2, none, none⟩

theorem sinkingPivots_unconfirmed : evaluateExhaustion sinkingBars noZones sinkingPivots = .ok unconfirmedFacts := by
  decide +kernel

theorem exhaustion_chain_sinking :
    ∃ chain, LongestChain (Exhausts sinkingBars .low) (selectedPivots sinkingPivots .low) chain ∧
      (∀ sequence, sequenceOf unconfirmedFacts .low = some sequence →
        sequence.history = chain ∧ sequence.confirmed = decide (3 ≤ chain.length)) ∧
      ((sequenceOf unconfirmedFacts .low).isSome ↔
        2 ≤ chain.length ∧ ∃ last, chain.getLast? = some last ∧ insideZone last.price noZones = true) ∧
      ((∃ sequence, sequenceOf unconfirmedFacts .low = some sequence ∧ sequence.confirmed = true) ↔
        3 ≤ chain.length ∧ ∃ last, chain.getLast? = some last ∧ insideZone last.price noZones = true) :=
  exhaustion_chain sinkingPivots_unconfirmed .low

/-- All three are the longest suffix, but outside every zone nothing is confirmed. -/
theorem long_chain_outside_zones :
    evaluateExhaustion sinkingBars noZones sinkingPivots = .ok unconfirmedFacts ∧
      LongestChain (Exhausts sinkingBars .low) (selectedPivots sinkingPivots .low) sinkingPivots ∧
      3 ≤ sinkingPivots.length ∧ ¬∃ sequence, sequenceOf unconfirmedFacts .low = some sequence ∧ sequence.confirmed = true := by
  have hall : selectedPivots sinkingPivots .low = sinkingPivots := by decide +kernel
  have hchain : sinkingPivots.IsChain (Exhausts sinkingBars .low) := by decide +kernel
  refine ⟨sinkingPivots_unconfirmed, ?_, by decide, fun hfound => ?_⟩
  · rw [hall]
    exact ⟨List.suffix_refl _, hchain, fun other h _ => h⟩
  · obtain ⟨sequence, hsequence, -⟩ := hfound
    cases hsequence

end AutoTrader.Strategy
