import AutoTrader.Operations.ManagedPositions
import AutoTrader.Operations.ManagerSafety
import AutoTrader.Operations.StopTriggers

/-! The risk of a position that is read back, against the manager's. What is stored follows the
manager's actions from the opening entry on; reading it back takes the distance of the stop for a
loss, on whichever side of the average cost the stop lies. -/

namespace AutoTrader.Operations

open AutoTrader.Binance AutoTrader.Domain AutoTrader.Execution AutoTrader.Ledger AutoTrader.Numeric
  AutoTrader.Runtime

/-- `managed_position_from`. -/
def managedPositionFrom (arith : Arithmetic) (side : Side) (entries : List OpeningEntry)
    (averageCost remainingQuantity structuralStop : ℚ) (activeStop : Option ℚ) (marks : List String) :
    Except PyError V6ManagedPosition :=
  match entries with
  | [] => .error (unavailable "an open position has no entry to read its opening from")
  | opening :: others =>
    let stopForRisk := activeStop.getD structuralStop
    let position : V6ManagedPosition :=
      { side := side
        initialEntryPrice := opening.averagePrice
        averageEntryPrice := averageCost
        initialQuantity := opening.quantity
        remainingQuantity := remainingQuantity
        initialStopPrice := structuralStop
        activeStopPrice := activeStop
        initialStopActive := activeStop.isSome
        originalApprovedRisk := arith.fix (opening.quantity * |arith.fix (opening.averagePrice - structuralStop)|)
        currentWorstCaseRisk := arith.fix (remainingQuantity * |arith.fix (averageCost - stopForRisk)|)
        addCount := others.length
        breakEvenActive := atBreakEven side averageCost activeStop
        fib25Recorded := marks.contains V6PositionActionKind.recordFib25.value
        fib50Recorded := marks.contains V6PositionActionKind.recordFib50Research.value
        shadow1_2RRecorded := marks.contains V6PositionActionKind.observePartial1_2R.value
        shadow1_5RRecorded := marks.contains V6PositionActionKind.observePartial1_5R.value }
    position.validate.map fun _ => position

/-- What is read back of the ledger is put together from its entries and its stop. -/
theorem describe_managed {arith : Arithmetic} {source : PositionSource} {t : Tables} {p : Position}
    {fills : List PersistedFill} {stop : Option ℚ} {opening : OpeningEntry} {others : List OpeningEntry}
    (h : entriesOf arith fills = opening :: others) :
    describe arith source t p fills stop = decisionFor source t opening.orderId >>= fun structuralStop =>
      (managedPositionFrom arith opening.side (opening :: others) p.averageCost p.quantity structuralStop stop
        (source.marks p.id)).map fun position => (p.id, position) := by
  unfold describe
  rw [h]
  dsimp only
  refine congrArg (decisionFor source t opening.orderId >>= ·) (funext fun structuralStop => ?_)
  show (assembled arith opening others p structuralStop stop (source.marks p.id)).validate >>= _ =
    Except.map _ (Except.map _ (assembled arith opening others p structuralStop stop (source.marks p.id)).validate)
  cases (assembled arith opening others p structuralStop stop (source.marks p.id)).validate with
  | error e => rfl
  | ok u => rfl

/-! ### What is stored -/

/-- What `managed_position_from` is given of an open position. -/
structure StoredPosition where
  side : Side
  entries : List OpeningEntry
  averageCost : ℚ
  remainingQuantity : ℚ
  structuralStop : ℚ
  activeStop : Option ℚ
  marks : List String
  deriving DecidableEq

namespace StoredPosition

def rebuilt (s : StoredPosition) : Except PyError V6ManagedPosition :=
  managedPositionFrom .decimal28 s.side s.entries s.averageCost s.remainingQuantity s.structuralStop s.activeStop s.marks

def stopForRisk (s : StoredPosition) : ℚ := s.activeStop.getD s.structuralStop

/-- What an action at a price leaves: its stop works, its add fills with an order of its own, and its
mark is recorded. -/
def after (s : StoredPosition) (orderId : UUID) (price : ℚ) (action : V6PositionAction) : StoredPosition :=
  match action.kind with
  | .activateInitialStop | .moveStopToBreakEven => { s with activeStop := action.stopPrice }
  | .addAndMoveStop =>
    { s with
      entries := s.entries ++ [⟨orderId, s.side, action.quantity.getD 0, price⟩]
      averageCost := action.averageEntryPrice.getD s.averageCost
      remainingQuantity := roundSig 28 (s.remainingQuantity + action.quantity.getD 0)
      activeStop := action.stopPrice }
  | .recordFib25 | .recordFib50Research | .observePartial1_2R | .observePartial1_5R =>
    { s with marks := action.kind.value :: s.marks }
  | .exitFullFib66 | .exitFullMetodoCrossDown | .exitFullBlockingBigTrade | .exitFullSessionClose
  | .emergencyExitFull => s

def afterAll (s : StoredPosition) (orderId : UUID) (price : ℚ) (actions : List V6PositionAction) : StoredPosition :=
  actions.foldl (fun s action => s.after orderId price action) s

/-- It is read back without an error, with the risk the manager sees. -/
def Agrees (s : StoredPosition) : Prop :=
  ∃ position, s.rebuilt = .ok position ∧
    position.currentWorstCaseRisk = worstCaseRisk s.side s.averageCost s.stopForRisk s.remainingQuantity

end StoredPosition

/-- A position of the manager and what is stored of it, from an opening entry without a stop that can
be read back, by evaluations whose actions are carried out. -/
inductive Produced : V6ManagedPosition → StoredPosition → Prop
  | opened {position : V6ManagedPosition} (opening : OpeningEntry) (averageCost remainingQuantity structuralStop : ℚ)
    (marks : List String) (hrebuilt : managedPositionFrom .decimal28 opening.side [opening] averageCost remainingQuantity
      structuralStop none marks = .ok position) :
    Produced position ⟨opening.side, [opening], averageCost, remainingQuantity, structuralStop, none, marks⟩
  | managed {position next : V6ManagedPosition} {stored : StoredPosition} (h : Produced position stored)
    (facts : V6PositionFacts) (mode : RuntimeMode) (actions : List V6PositionAction) (orderId : UUID)
    (hmanage : manageV6Position position facts mode = .ok actions) (hafter : position.afterAll actions = some next) :
    Produced next (stored.afterAll orderId facts.currentPrice actions)

/-! ### Two formulas for the risk -/

/-- The second stop is no further from the price. -/
def Tighter (side : Side) (stop next : ℚ) : Prop :=
  match side with
  | .buy => stop ≤ next
  | .sell => next ≤ stop

theorem Tighter.refl (side : Side) (stop : ℚ) : Tighter side stop stop := by
  cases side <;> exact le_refl stop

theorem Tighter.trans {side : Side} {stop next last : ℚ} (h : Tighter side stop next) (h' : Tighter side next last) :
    Tighter side stop last := by
  cases side with
  | buy => exact le_trans (α := ℚ) h h'
  | sell => exact le_trans (α := ℚ) h' h

/-- The distance of a stop, for a quantity. -/
def distanceRisk (average stop quantity : ℚ) : ℚ := roundSig 28 (quantity * |roundSig 28 (average - stop)|)

theorem distanceRisk_pos {average stop quantity : ℚ} (hquantity : 0 < quantity) (h : average ≠ stop) :
    0 < distanceRisk average stop quantity := by
  have hdistance : 0 < |roundSig 28 (average - stop)| := by
    rw [abs_roundSig (by decide)]
    exact roundSig_pos (by decide) (abs_pos.mpr (sub_ne_zero.mpr h))
  exact roundSig_pos (by decide) (mul_pos hquantity hdistance)

/-- Between a stop and the average less is at risk. -/
theorem distanceRisk_mono {side : Side} {average stop next quantity : ℚ} (hquantity : 0 < quantity)
    (h : Tighter side stop next) (h' : Tighter side next average) :
    distanceRisk average next quantity ≤ distanceRisk average stop quantity := by
  have hsize : |average - next| ≤ |average - stop| := by
    cases side with
    | buy =>
      have hnext : next ≤ average := h'
      have hstop : stop ≤ next := h
      rw [abs_of_nonneg (sub_nonneg.mpr hnext), abs_of_nonneg (sub_nonneg.mpr (hstop.trans hnext))]
      exact sub_le_sub_left hstop average
    | sell =>
      have hnext : average ≤ next := h'
      have hstop : next ≤ stop := h
      rw [abs_sub_comm, abs_sub_comm average stop, abs_of_nonneg (sub_nonneg.mpr hnext),
        abs_of_nonneg (sub_nonneg.mpr (hnext.trans hstop))]
      exact sub_le_sub_right hstop average
  unfold distanceRisk
  rw [abs_roundSig (by decide), abs_roundSig (by decide)]
  exact roundSig_mono (by decide) (mul_nonneg hquantity.le (roundSig_nonneg (by decide) (abs_nonneg _)))
    (mul_le_mul_of_nonneg_left (roundSig_mono (by decide) (abs_nonneg _) hsize) hquantity.le)

/-- Both formulas agree exactly when the stop is not beyond the average. -/
theorem distanceRisk_eq_iff {side : Side} {average stop quantity : ℚ} (hquantity : 0 < quantity) :
    distanceRisk average stop quantity = worstCaseRisk side average stop quantity ↔ Tighter side stop average := by
  constructor
  · intro heq
    by_contra hbeyond
    have hne : average ≠ stop := by
      rintro rfl
      exact hbeyond (.refl side average)
    have hzero : worstCaseRisk side average stop quantity = 0 := by
      apply worstCaseRisk_eq_zero
      cases side with
      | buy => exact (not_le.mp hbeyond).le
      | sell => exact (not_le.mp hbeyond).le
    rw [hzero] at heq
    exact (distanceRisk_pos hquantity hne).ne' heq
  · intro hbehind
    cases side with
    | buy =>
      have hloss : 0 ≤ roundSig 28 (average - stop) := roundSig_nonneg (by decide) (sub_nonneg.mpr hbehind)
      show roundSig 28 (quantity * |roundSig 28 (average - stop)|) =
        roundSig 28 (max (roundSig 28 (average - stop)) 0 * quantity)
      rw [abs_of_nonneg hloss, max_eq_left hloss, mul_comm]
    | sell =>
      have hloss : 0 ≤ roundSig 28 (stop - average) := roundSig_nonneg (by decide) (sub_nonneg.mpr hbehind)
      show roundSig 28 (quantity * |roundSig 28 (average - stop)|) =
        roundSig 28 (max (roundSig 28 (stop - average)) 0 * quantity)
      rw [← neg_sub stop average, roundSig_neg_eq, abs_neg, abs_of_nonneg hloss, max_eq_left hloss, mul_comm]

/-! ### What the stored position keeps -/

/-- What is stored of a position of the manager: the entries, and a stop that is either still behind
what was approved or beyond the average of both entries. -/
structure Corresponds (position : V6ManagedPosition) (s : StoredPosition) : Prop where
  side : s.side = position.side
  average : s.averageCost = position.averageEntryPrice
  remaining : s.remainingQuantity = position.remainingQuantity
  structural : s.structuralStop = position.initialStopPrice
  active : s.activeStop = position.activeStopPrice
  average_pos : 0 < s.averageCost
  remaining_pos : 0 < s.remainingQuantity
  adds : position.addCount ≤ 1
  opened : ∃ opening others, s.entries = opening :: others ∧ opening.quantity = position.initialQuantity ∧
    opening.averagePrice = position.initialEntryPrice ∧ others.length = position.addCount ∧
    0 < position.initialEntryPrice ∧ 0 < position.initialQuantity ∧ 0 < position.initialStopPrice ∧ position.stopBehind
  stop : (position.addCount = 0 ∧ distanceRisk s.averageCost s.structuralStop s.remainingQuantity ≤
        distanceRisk position.initialEntryPrice s.structuralStop position.initialQuantity ∧
        Tighter s.side s.structuralStop s.stopForRisk) ∨
      ∃ stop, s.activeStop = some stop ∧ Tighter s.side s.averageCost stop

section Step

variable {position next : V6ManagedPosition} {s : StoredPosition} {facts : V6PositionFacts} {action : V6PositionAction}

theorem managedPositionFrom_ok {side : Side} {opening : OpeningEntry} {others : List OpeningEntry}
    {averageCost remainingQuantity structuralStop : ℚ} {activeStop : Option ℚ} {marks : List String} :
    managedPositionFrom .decimal28 side (opening :: others) averageCost remainingQuantity structuralStop activeStop marks =
      .ok position ↔ position.validate = .ok () ∧ position =
        { side := side
          initialEntryPrice := opening.averagePrice
          averageEntryPrice := averageCost
          initialQuantity := opening.quantity
          remainingQuantity := remainingQuantity
          initialStopPrice := structuralStop
          activeStopPrice := activeStop
          initialStopActive := activeStop.isSome
          originalApprovedRisk := distanceRisk opening.averagePrice structuralStop opening.quantity
          currentWorstCaseRisk := distanceRisk averageCost (activeStop.getD structuralStop) remainingQuantity
          addCount := others.length
          breakEvenActive := atBreakEven side averageCost activeStop
          fib25Recorded := marks.contains V6PositionActionKind.recordFib25.value
          fib50Recorded := marks.contains V6PositionActionKind.recordFib50Research.value
          shadow1_2RRecorded := marks.contains V6PositionActionKind.observePartial1_2R.value
          shadow1_5RRecorded := marks.contains V6PositionActionKind.observePartial1_5R.value } := by
  unfold managedPositionFrom
  dsimp only
  rw [exceptMap_ok]
  constructor
  · rintro ⟨_, hvalid, rfl⟩
    exact ⟨hvalid, rfl⟩
  · rintro ⟨hvalid, rfl⟩
    exact ⟨(), hvalid, rfl⟩

theorem Corresponds.opened_of {opening : OpeningEntry} {averageCost remainingQuantity structuralStop : ℚ} {marks : List String}
    (h : managedPositionFrom .decimal28 opening.side [opening] averageCost remainingQuantity structuralStop none marks =
      .ok position) :
    Corresponds position ⟨opening.side, [opening], averageCost, remainingQuantity, structuralStop, none, marks⟩ := by
  obtain ⟨hvalid, rfl⟩ := managedPositionFrom_ok.mp h
  obtain ⟨hentry, haverage, hinitial, hremaining, hstructural, -, -, -, -, hadds, hrisk, hbehind⟩ :=
    V6ManagedPosition.validate_ok.mp hvalid
  exact ⟨rfl, rfl, rfl, rfl, rfl, haverage, hremaining, hadds,
    ⟨opening, [], rfl, rfl, rfl, rfl, hentry, hinitial, hstructural, hbehind⟩, .inl ⟨rfl, hrisk, .refl _ _⟩⟩

/-- A stop no further from the price than the working one. -/
theorem Corresponds.move (h : Corresponds position s) {proposed : ℚ} (hactive : position.activeStopPrice.isSome)
    (hstop : action.stopPrice = some (nonWideningStop position.side position.activeStopPrice proposed)) :
    Corresponds (position.moved action) { s with activeStop := action.stopPrice } := by
  obtain ⟨active, hactive⟩ := Option.isSome_iff_exists.mp hactive
  rw [hactive] at hstop
  have htighter : Tighter s.side active (nonWideningStop position.side (some active) proposed) :=
    h.side ▸ V6ManagedPosition.nonWideningStop_tighter position.side active proposed
  have hworking : s.activeStop = some active := h.active.trans hactive
  refine ⟨h.side, h.average, h.remaining, h.structural, rfl, h.average_pos, h.remaining_pos, h.adds, h.opened, ?_⟩
  rcases h.stop with ⟨hadds, hrisk, hbehind⟩ | ⟨stop, hstored, hbeyond⟩
  · refine .inl ⟨hadds, hrisk, ?_⟩
    unfold StoredPosition.stopForRisk at hbehind ⊢
    rw [hworking] at hbehind
    rw [hstop]
    exact hbehind.trans htighter
  · rw [hworking] at hstored
    cases hstored
    exact .inr ⟨_, hstop, hbeyond.trans htighter⟩

theorem Corresponds.activate (h : Corresponds position s) (hactive : position.activeStopPrice = none)
    (hstop : action.stopPrice = some position.initialStopPrice) :
    Corresponds { position with activeStopPrice := action.stopPrice, initialStopActive := true }
      { s with activeStop := action.stopPrice } := by
  refine ⟨h.side, h.average, h.remaining, h.structural, rfl, h.average_pos, h.remaining_pos, h.adds, h.opened, ?_⟩
  rcases h.stop with ⟨hadds, hrisk, -⟩ | ⟨stop, hstored, -⟩
  · refine .inl ⟨hadds, hrisk, ?_⟩
    unfold StoredPosition.stopForRisk
    rw [hstop, h.structural]
    exact .refl _ _
  · rw [h.active, hactive] at hstored
    cases hstored

theorem Corresponds.add (h : Corresponds position s) (hfacts : facts.validate = .ok ())
    (hadd : addAction position facts = some action) (orderId : UUID) :
    Corresponds (position.added action) (s.after orderId facts.currentPrice action) := by
  obtain ⟨hkind, hstop⟩ := addAction_some hadd
  obtain ⟨hcount, hquantity, haverage, -⟩ := addAction_bounded hadd
  obtain ⟨hprice, -⟩ := V6PositionFacts.validate_ok hfacts
  obtain ⟨opening, others, hentries, hopening, hentryPrice, hothers, hentry, hinitial, hstructural, hbehind⟩ := h.opened
  have hafter : s.after orderId facts.currentPrice action =
      { s with
        entries := s.entries ++ [⟨orderId, s.side, action.quantity.getD 0, facts.currentPrice⟩]
        averageCost := action.averageEntryPrice.getD s.averageCost
        remainingQuantity := roundSig 28 (s.remainingQuantity + action.quantity.getD 0)
        activeStop := action.stopPrice } := by
    unfold StoredPosition.after
    rw [hkind]
  have hfix : ∀ {x : ℚ}, 0 < x → 0 < roundSig 28 x := roundSig_pos (by decide)
  have hremaining : 0 < position.remainingQuantity := h.remaining ▸ h.remaining_pos
  have haveragePos : 0 < position.averageEntryPrice := h.average ▸ h.average_pos
  have hafterPos : 0 < averageAfterAdd position facts :=
    hfix (div_pos (hfix (add_pos (hfix (mul_pos haveragePos hremaining)) (hfix (mul_pos hprice hinitial))))
      (hfix (add_pos hremaining hinitial)))
  have hbeyond : Tighter position.side (averageAfterAdd position facts)
      (breakEvenStop position.side (averageAfterAdd position facts) facts) :=
    breakEvenStop_beyond hfacts position.side hafterPos.le
  rw [hafter]
  refine ⟨h.side, ?_, ?_, h.structural, rfl, ?_, ?_, ?_, ?_, .inr ⟨_, hstop, ?_⟩⟩
  · show action.averageEntryPrice.getD s.averageCost = action.averageEntryPrice.getD position.averageEntryPrice
    rw [h.average]
  · show roundSig 28 (s.remainingQuantity + action.quantity.getD 0) =
      roundSig 28 (position.remainingQuantity + action.quantity.getD 0)
    rw [h.remaining]
  · show 0 < action.averageEntryPrice.getD s.averageCost
    rw [haverage]
    exact hafterPos
  · show 0 < roundSig 28 (s.remainingQuantity + action.quantity.getD 0)
    rw [hquantity]
    exact hfix (add_pos h.remaining_pos hinitial)
  · show position.addCount + 1 ≤ 1
    rw [hcount]
  · refine ⟨opening, others ++ [⟨orderId, s.side, action.quantity.getD 0, facts.currentPrice⟩], ?_, hopening, hentryPrice, ?_,
      hentry, hinitial, hstructural, hbehind⟩
    · show s.entries ++ _ = _
      rw [hentries]
      rfl
    · rw [List.length_append, hothers]
      rfl
  · show Tighter s.side (action.averageEntryPrice.getD s.averageCost) _
    rw [haverage, h.side]
    show Tighter position.side (averageAfterAdd position facts) _
    cases hactive : position.activeStopPrice with
    | none => exact hbeyond
    | some active =>
      cases hside : position.side with
      | buy =>
        rw [hside] at hbeyond
        exact le_trans (α := ℚ) hbeyond (le_max_right _ _)
      | sell =>
        rw [hside] at hbeyond
        exact le_trans (α := ℚ) (min_le_right _ _) hbeyond

/-- Marks leave the position and what is stored of it as they are. -/
theorem Corresponds.marks {actions : List V6PositionAction} (h : Corresponds position s) (orderId : UUID) (price : ℚ)
    (hkinds : ∀ action ∈ actions, action.kind = .recordFib25 ∨ action.kind = .recordFib50Research ∨
      action.kind = .observePartial1_2R ∨ action.kind = .observePartial1_5R)
    (hafter : position.afterAll actions = some next) : Corresponds next (s.afterAll orderId price actions) := by
  induction actions generalizing position s with
  | nil => exact Option.some.inj hafter ▸ h
  | cons action actions ih =>
    have hrest := fun other hother => hkinds other (List.mem_cons_of_mem action hother)
    obtain ⟨side, average, remaining, structural, active, haverage, hremaining, hadds, hopened, hstop⟩ := h
    obtain ⟨marked, hmarked, hlast⟩ := Option.bind_eq_some_iff.mp hafter
    have hmark : Corresponds marked (s.after orderId price action) := by
      unfold V6ManagedPosition.after at hmarked
      unfold StoredPosition.after
      rcases hkinds action List.mem_cons_self with hkind | hkind | hkind | hkind
      all_goals
        rw [hkind] at hmarked
        rw [hkind]
        cases hmarked
        exact ⟨side, average, remaining, structural, active, haverage, hremaining, hadds, hopened, hstop⟩
    exact ih hmark hrest hlast

theorem Produced.corresponds (h : Produced position s) : Corresponds position s := by
  induction h with
  | opened opening averageCost remainingQuantity structuralStop marks hrebuilt => exact .opened_of hrebuilt
  | @managed position next s _ facts mode actions orderId hmanage hafter ih =>
    obtain ⟨_, -, hrest⟩ := bind_ok.mp hmanage
    obtain ⟨_, hfacts, -⟩ := bind_ok.mp hrest
    cases (manageV6Position_managed hmanage).2 with
    | exit kind halt hkind =>
      have hnone : position.after (fullExit position kind halt) = none := by
        cases kind <;> first | rfl | cases hkind
      rw [V6ManagedPosition.afterAll, hnone] at hafter
      cases hafter
    | activate _ hactive =>
      cases hafter
      exact ih.activate hactive rfl
    | add action _ _ hadd =>
      have hadded : position.after action = some (position.added action) := by
        rw [V6ManagedPosition.after, (addAction_some hadd).1]
      rw [V6ManagedPosition.afterAll, hadded] at hafter
      cases hafter
      exact ih.add hfacts hadd orderId
    | hold _ hactive _ =>
      cases hmove : breakEvenAction position facts with
      | none =>
        rw [hmove] at hafter
        exact ih.marks orderId facts.currentPrice (fun _ => marks_kinds) hafter
      | some move =>
        obtain ⟨hkind, hstop⟩ := breakEvenAction_some hmove
        have hmoved : position.after move = some (position.moved move) := by
          rw [V6ManagedPosition.after, hkind]
        have hstored : s.after orderId facts.currentPrice move = { s with activeStop := move.stopPrice } := by
          rw [StoredPosition.after, hkind]
        rw [hmove] at hafter
        obtain ⟨moved, heq, hlast⟩ := Option.bind_eq_some_iff.mp hafter
        rw [hmoved] at heq
        cases heq
        show Corresponds next ((s.after orderId facts.currentPrice move).afterAll orderId facts.currentPrice _)
        rw [hstored]
        exact (ih.move hactive hstop).marks orderId facts.currentPrice (fun _ => marks_kinds) hlast

/-- Where the stop is not beyond the average cost nothing is in the way of reading the position back. -/
theorem Corresponds.rebuilt (h : Corresponds position s) (hstop : Tighter s.side s.stopForRisk s.averageCost) :
    ∃ rebuilt, s.rebuilt = .ok rebuilt := by
  obtain ⟨opening, others, hentries, hopening, hentryPrice, hothers, hentry, hinitial, hstructural, hbehind⟩ := h.opened
  rw [← hentryPrice] at hentry
  rw [← hopening] at hinitial
  rw [← h.structural] at hstructural
  have hside : match s.side with
      | .buy => s.structuralStop < opening.averagePrice
      | .sell => opening.averagePrice < s.structuralStop := by
    unfold V6ManagedPosition.stopBehind at hbehind
    rw [h.side, h.structural, hentryPrice]
    exact hbehind
  have hnonneg : ∀ {average stop quantity : ℚ}, 0 < quantity → 0 ≤ distanceRisk average stop quantity := fun hquantity =>
    roundSig_nonneg (by decide) (mul_nonneg hquantity.le (abs_nonneg _))
  have hactive : ∀ stop, s.activeStop = some stop → 0 < stop := by
    intro stop hstored
    have hrisk : s.stopForRisk = stop := by
      unfold StoredPosition.stopForRisk
      rw [hstored]
      rfl
    rw [hrisk] at hstop
    have hcases := h.stop
    rw [hrisk, hstored] at hcases
    cases hs : s.side with
    | buy =>
      rcases hcases with ⟨-, -, htighter⟩ | ⟨_, ⟨⟩, hbeyond⟩
      · rw [hs] at htighter
        exact lt_of_lt_of_le (α := ℚ) hstructural htighter
      · rw [hs] at hbeyond
        exact lt_of_lt_of_le (α := ℚ) h.average_pos hbeyond
    | sell =>
      rw [hs] at hstop
      exact lt_of_lt_of_le (α := ℚ) h.average_pos hstop
  have hwithin : distanceRisk s.averageCost s.stopForRisk s.remainingQuantity ≤
      distanceRisk opening.averagePrice s.structuralStop opening.quantity := by
    rcases h.stop with ⟨-, hrisk, htighter⟩ | ⟨stop, hstored, hbeyond⟩
    · rw [hopening, hentryPrice]
      exact (distanceRisk_mono h.remaining_pos htighter hstop).trans hrisk
    · have hrisk : s.stopForRisk = stop := by
        unfold StoredPosition.stopForRisk
        rw [hstored]
        rfl
      have heq : s.averageCost = stop := by
        rw [hrisk] at hstop
        cases hs : s.side with
        | buy =>
          rw [hs] at hbeyond hstop
          exact le_antisymm (α := ℚ) hbeyond hstop
        | sell =>
          rw [hs] at hbeyond hstop
          exact le_antisymm (α := ℚ) hstop hbeyond
      refine le_trans (le_of_eq ?_) (hnonneg hinitial)
      unfold distanceRisk
      rw [hrisk, heq, sub_self, roundSig_zero, abs_zero, mul_zero, roundSig_zero]
  unfold StoredPosition.rebuilt
  rw [hentries]
  refine ⟨_, managedPositionFrom_ok.mpr ⟨V6ManagedPosition.validate_ok.mpr ?_, rfl⟩⟩
  exact ⟨hentry, h.average_pos, hinitial, h.remaining_pos, hstructural, hnonneg hinitial, hnonneg h.remaining_pos, hactive,
    rfl, hothers.trans_le h.adds, hwithin, hside⟩

end Step

/-- What the manager's actions leave stored is read back with the manager's risk exactly while the
stop, or the structural one before there is any, is not beyond the average cost. -/
theorem rebuilt_agrees_iff {position : V6ManagedPosition} {s : StoredPosition} (h : Produced position s) :
    s.Agrees ↔ Tighter s.side s.stopForRisk s.averageCost := by
  have hcorresponds := h.corresponds
  obtain ⟨opening, others, hentries, -⟩ := hcorresponds.opened
  have hrisk : ∀ rebuilt, s.rebuilt = .ok rebuilt →
      rebuilt.currentWorstCaseRisk = distanceRisk s.averageCost s.stopForRisk s.remainingQuantity := by
    intro rebuilt hrebuilt
    unfold StoredPosition.rebuilt at hrebuilt
    rw [hentries] at hrebuilt
    exact congrArg V6ManagedPosition.currentWorstCaseRisk (managedPositionFrom_ok.mp hrebuilt).2
  constructor
  · rintro ⟨rebuilt, hrebuilt, hagrees⟩
    rw [hrisk rebuilt hrebuilt] at hagrees
    exact (distanceRisk_eq_iff hcorresponds.remaining_pos).mp hagrees
  · intro hstop
    obtain ⟨rebuilt, hrebuilt⟩ := hcorresponds.rebuilt hstop
    exact ⟨rebuilt, hrebuilt,
      (hrisk rebuilt hrebuilt).trans ((distanceRisk_eq_iff hcorresponds.remaining_pos).mpr hstop)⟩

/-! ### A stop beyond the entry -/

/-- An evaluation leads from one position, and what is stored of it, to another. -/
def leadsTo (position : V6ManagedPosition) (s : StoredPosition) (facts : V6PositionFacts) (next : V6ManagedPosition)
    (later : StoredPosition) : Bool :=
  match manageV6Position position facts .paper with
  | .ok actions =>
    decide (position.afterAll actions = some next) && decide (s.afterAll (rowUuid 3) facts.currentPrice actions = later)
  | .error _ => false

theorem Produced.leadsTo {position next : V6ManagedPosition} {s later : StoredPosition} (h : Produced position s)
    (facts : V6PositionFacts) (hleads : leadsTo position s facts next later = true) : Produced next later := by
  unfold Operations.leadsTo at hleads
  split at hleads
  · rename_i actions hmanage
    obtain ⟨hafter, hstored⟩ := Bool.and_eq_true_iff.mp hleads
    exact of_decide_eq_true hstored ▸ .managed h facts .paper actions (rowUuid 3) hmanage (of_decide_eq_true hafter)
  · cases hleads

/-- A long of two contracts at 100 with its stop at 99. -/
def protectedPosition : V6ManagedPosition := { closelyManaged with addCount := 0 }

def protectedStore : StoredPosition := ⟨.buy, [⟨rowUuid 3, .buy, 2, 100⟩], 100, 2, 99, some 99, []⟩

theorem protectedPosition_produced : Produced protectedPosition protectedStore := by
  have hopened : Produced { protectedPosition with activeStopPrice := none, initialStopActive := false }
      { protectedStore with activeStop := none } := by
    refine .opened ⟨rowUuid 3, .buy, 2, 100⟩ 100 2 99 [] ?_
    decide +kernel
  refine hopened.leadsTo slightFacts ?_
  decide +kernel

theorem rebuilt_agrees_iff_protected : protectedStore.Agrees := by
  refine (rebuilt_agrees_iff protectedPosition_produced).mpr ?_
  show (99 : ℚ) ≤ 100
  norm_num

/-- The stop moves to 102, where four are taken for the risk of an entry that two were approved for. -/
theorem moved_stop_not_rebuilt : ∃ position s, Produced position s ∧ ¬s.Agrees := by
  refine ⟨{ protectedPosition with activeStopPrice := some 102, currentWorstCaseRisk := 0, breakEvenActive := true },
    { protectedStore with activeStop := some 102 }, protectedPosition_produced.leadsTo slightFacts ?_, ?_⟩
  · decide +kernel
  · rintro ⟨rebuilt, hrebuilt, -⟩
    have hraised : ({ protectedStore with activeStop := some 102 } : StoredPosition).rebuilt.toOption.isSome = false := by
      decide +kernel
    rw [hrebuilt] at hraised
    cases hraised

end AutoTrader.Operations
