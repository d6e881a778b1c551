import AutoTrader.Ledger.Lineage
import AutoTrader.Operations.DavidV6Position

/-! The managed position read back from the ledger: the fills the lots of the position row were
opened by, the stop its first entry was decided with, and the newest stop of the instrument. The
rows of the position outlive its lifecycles, and nothing asks which lifecycle they are of. -/

namespace AutoTrader.Operations

open AutoTrader.Binance AutoTrader.Domain AutoTrader.Execution AutoTrader.Ledger AutoTrader.Numeric
  AutoTrader.Runtime

/-- What is read besides the ledger: the type and the signal of an intent, the stop recorded with the
decision of a signal, and the marks of a position. -/
structure PositionSource where
  intent : UUID → Option (IntentType × Option UUID)
  structuralStop : UUID → Option ℚ
  marks : RowId → List String

/-- `OpeningEntry`, with its order and side. -/
structure OpeningEntry where
  orderId : UUID
  side : Side
  quantity : ℚ
  averagePrice : ℚ
  deriving DecidableEq

/-- `ManagedPositionUnavailableError`. -/
def unavailable (message : String) : PyError := ⟨.runtimeError, message⟩

/-- By the time of the execution; ids decide between fills of one moment. -/
def FillOrder (a b : PersistedFill) : Prop :=
  a.executedAt < b.executedAt ∨ (a.executedAt = b.executedAt ∧ a.id ≤ b.id)

instance : DecidableRel FillOrder := fun _ _ => inferInstanceAs (Decidable (_ ∨ _))

/-- The fills the lots of a position row were opened by, oldest first. -/
def openingFills (t : Tables) (positionId : RowId) : List PersistedFill :=
  ((t.book.lotsOf positionId).flatMap fun lot => t.fills.filter (·.id = lot.openingFillId)).insertionSort FillOrder

section Reading

variable (arith : Arithmetic) (source : PositionSource)

/-- The entry the fills of one order make, unless they come to nothing. -/
def entryOf (orderId : UUID) : List PersistedFill → Option OpeningEntry
  | [] => none
  | first :: rest =>
    let total := (first :: rest).foldl (fun sum fill => arith.fix (sum + fill.quantity)) 0
    let notional := (first :: rest).foldl (fun sum fill => arith.fix (sum + arith.fix (fill.quantity * fill.price))) 0
    if total ≤ 0 then none else some ⟨orderId, first.side, total, arith.fix (notional / total)⟩

/-- `_entries`: the fills grouped by their orders. -/
def entriesOf (fills : List PersistedFill) : List OpeningEntry :=
  (fills.map (·.orderId)).eraseDups.filterMap fun orderId => entryOf arith orderId (fills.filter (·.orderId = orderId))

/-- `_decision_for`: the structural stop. -/
def decisionFor (t : Tables) (orderId : UUID) : Except PyError ℚ :=
  match t.order? orderId with
  | none => .error (unavailable "an opening fill has no order")
  | some order =>
    match source.intent order.orderIntentId with
    | none => .error (unavailable "an opening order has no intent")
    | some (_, none) => .error (unavailable "an opening entry has no strategy signal to read a stop from")
    | some (_, some signal) =>
      match source.structuralStop signal with
      | none => .error (unavailable "the decision that opened this position recorded no stop")
      | some stop => .ok stop

/-- The triggered protective orders of an instrument, whatever became of them. -/
def triggeredStops (t : Tables) (accountId instrumentId : UUID) : List PersistedOrder :=
  t.orders.filter fun order => order.accountId = accountId && order.instrumentId = instrumentId &&
    ((source.intent order.orderIntentId).any (·.1 = .protective) && order.triggerPrice.isSome)

/-- The newest of them. -/
def newestStop (t : Tables) (accountId instrumentId : UUID) : Option PersistedOrder :=
  (triggeredStops source t accountId instrumentId).foldl (fun newest order =>
    if newest.all (·.createdAt < order.createdAt) then some order else newest) none

/-- `_active_stop`. -/
def activeStop (t : Tables) (accountId instrumentId : UUID) : Option ℚ :=
  (newestStop source t accountId instrumentId).bind (·.triggerPrice)

/-- `_at_break_even`. -/
def atBreakEven (side : Side) (average : ℚ) (stop : Option ℚ) : Bool :=
  stop.any fun stop =>
    match side with
    | .buy => decide (average ≤ stop)
    | .sell => decide (stop ≤ average)

/-- The description `managed_position_from` assembles, before its checks. -/
def assembled (opening : OpeningEntry) (others : List OpeningEntry) (p : Position) (structuralStop : ℚ)
    (activeStop : Option ℚ) (marks : List String) : V6ManagedPosition where
  side := opening.side
  initialEntryPrice := opening.averagePrice
  averageEntryPrice := p.averageCost
  initialQuantity := opening.quantity
  remainingQuantity := p.quantity
  initialStopPrice := structuralStop
  activeStopPrice := activeStop
  initialStopActive := activeStop.isSome
  originalApprovedRisk := arith.fix (opening.quantity * |arith.fix (opening.averagePrice - structuralStop)|)
  currentWorstCaseRisk := arith.fix (p.quantity * |arith.fix (p.averageCost - activeStop.getD structuralStop)|)
  addCount := others.length
  breakEvenActive := atBreakEven opening.side p.averageCost activeStop
  fib25Recorded := marks.contains V6PositionActionKind.recordFib25.value
  fib50Recorded := marks.contains V6PositionActionKind.recordFib50Research.value
  shadow1_2RRecorded := marks.contains V6PositionActionKind.observePartial1_2R.value
  shadow1_5RRecorded := marks.contains V6PositionActionKind.observePartial1_5R.value

/-- The description of a position from its opening fills and its stop. -/
def describe (t : Tables) (p : Position) (fills : List PersistedFill) (stop : Option ℚ) :
    Except PyError (RowId × V6ManagedPosition) :=
  match entriesOf arith fills with
  | [] => .error (unavailable "an open position has no entry to read its opening from")
  | opening :: others => do
    let structuralStop ← decisionFor source t opening.orderId
    let position := assembled arith opening others p structuralStop stop (source.marks p.id)
    position.validate
    pure (p.id, position)

/-- `open_position`. -/
def openPosition (t : Tables) (accountId instrumentId : UUID) : Except PyError (Option (RowId × V6ManagedPosition)) :=
  match t.book.position? accountId instrumentId with
  | none => .ok none
  | some p =>
    if p.quantity ≤ 0 then .ok none
    else (describe arith source t p (openingFills t p.id) (activeStop source t accountId instrumentId)).map some

end Reading

/-! ### The open lifecycle -/

/-- A fill is one of the open lifecycle of a position: no older than the one that opened it. -/
def inOpenLifecycle (t : Tables) (positionId fillId : RowId) : Bool :=
  (t.book.openLifecycles positionId).any fun lifecycle => decide (lifecycle.openingFillId ≤ fillId)

/-- An order was created in the open lifecycle of a position. -/
def createdInOpenLifecycle (t : Tables) (positionId : RowId) (order : PersistedOrder) : Bool :=
  (t.book.openLifecycles positionId).any fun lifecycle => decide (lifecycle.openedAt ≤ order.createdAt)

section Lifecycles

variable (arith : Arithmetic) (source : PositionSource)

/-- The newest stop of the open lifecycle; none is newer than the newest of all. -/
def lifecycleStop (t : Tables) (p : Position) : Option ℚ :=
  (newestStop source t p.accountId p.instrumentId).bind fun order =>
    if createdInOpenLifecycle t p.id order then order.triggerPrice else none

/-- What is read back is of the open lifecycle: there is a description for every quantity that is not
zero, it is built from the fills of the lifecycle, and nothing older makes it fail. -/
structure DescribesOpenLifecycle (t : Tables) (p : Position) : Prop where
  returned : openPosition arith source t p.accountId p.instrumentId ≠ .ok none
  entries : ∀ fill ∈ openingFills t p.id, inOpenLifecycle t p.id fill.id
  raises : ∀ e, openPosition arith source t p.accountId p.instrumentId = .error e →
    ∃ e', describe arith source t p ((openingFills t p.id).filter fun fill => inOpenLifecycle t p.id fill.id)
      (lifecycleStop source t p) = .error e'

/-- A stop puts no more at risk than the entry was approved for. -/
def withinApprovedRisk (position : V6ManagedPosition) (stop : ℚ) : Prop :=
  0 < stop ∧ position.currentWorstCaseRisk ≤ position.originalApprovedRisk

/-- The condition: the position is long, no earlier lifecycle of its row was, and the newest stop of
the instrument is of the open lifecycle, or puts no more at risk than was approved where the position
can be described without a stop. -/
structure FirstLongLifecycle (t : Tables) (p : Position) : Prop where
  long : 0 < p.quantity
  earlier : ∀ lifecycle ∈ t.book.lifecyclesOf p.id, lifecycle.closedAt ≠ none → ¬Bought t.fills lifecycle.openingFillId
  stop : ∀ order trigger, newestStop source t p.accountId p.instrumentId = some order →
    createdInOpenLifecycle t p.id order = false → order.triggerPrice = some trigger →
    ∀ opening others structuralStop, entriesOf arith (openingFills t p.id) = opening :: others →
      decisionFor source t opening.orderId = .ok structuralStop →
      (assembled arith opening others p structuralStop none (source.marks p.id)).validate = .ok () →
      withinApprovedRisk (assembled arith opening others p structuralStop (some trigger) (source.marks p.id)) trigger

end Lifecycles

section Described

variable {carried : ℚ → Prop} {arith : Arithmetic} {source : PositionSource} {t : Tables} {p : Position}

theorem mem_openingFills {positionId : RowId} {fill : PersistedFill} :
    fill ∈ openingFills t positionId ↔
      fill ∈ t.fills ∧ ∃ lot ∈ t.book.lots, lot.positionId = positionId ∧ lot.openingFillId = fill.id := by
  unfold openingFills Book.lotsOf
  rw [List.mem_insertionSort]
  simp only [List.mem_flatMap, List.mem_filter, decide_eq_true_eq]
  constructor
  · rintro ⟨lot, ⟨hlot, hposition⟩, hfill, hid⟩
    exact ⟨hfill, lot, hlot, hposition, hid.symm⟩
  · rintro ⟨hfill, lot, hlot, hposition, hid⟩
    exact ⟨lot, ⟨hlot, hposition⟩, hfill, hid.symm⟩

/-- The lots of a position were all opened in its open lifecycle when no earlier one was long, and
only then. -/
theorem openingFills_current_iff (h : Lineage carried t) :
    (∀ fill ∈ openingFills t p.id, inOpenLifecycle t p.id fill.id) ↔
      ∀ lifecycle ∈ t.book.lifecyclesOf p.id, lifecycle.closedAt ≠ none → ¬Bought t.fills lifecycle.openingFillId := by
  constructor
  · intro hcurrent closed hclosed hends hbought
    obtain ⟨hclosed, hposition⟩ := List.mem_filter.mp hclosed
    have hposition : closed.positionId = p.id := by simpa using hposition
    obtain ⟨lot, hlot, horigin⟩ := List.mem_map.mp (h.longLot closed hclosed hbought)
    obtain ⟨hlotPosition, hlotFill⟩ := Prod.mk.inj horigin
    obtain ⟨fill, hfill, hid⟩ := h.lotFill lot hlot
    have hin := hcurrent fill (mem_openingFills.mpr ⟨hfill, lot, hlot, hlotPosition.trans hposition, hid.symm⟩)
    obtain ⟨active, hactive, hbefore⟩ := List.any_eq_true.mp hin
    obtain ⟨hmem, hopen⟩ := List.mem_filter.mp hactive
    obtain ⟨hmem, hof⟩ := List.mem_filter.mp hmem
    have hof : active.positionId = p.id := by simpa using hof
    have hlater := h.ordered closed hclosed active hmem (hposition.trans hof.symm) hends (Option.isNone_iff_eq_none.mp hopen)
    have hbefore : active.openingFillId ≤ fill.id := by simpa using hbefore
    rw [hid, hlotFill] at hbefore
    exact absurd hlater (not_lt.mpr hbefore)
  · intro hearlier fill hfill
    obtain ⟨hfill, lot, hlot, hposition, hid⟩ := mem_openingFills.mp hfill
    obtain ⟨lifecycle, hmem, hof, hbefore, hbought⟩ := h.lotLifecycle lot hlot
    have hmine : lifecycle ∈ t.book.lifecyclesOf p.id := List.mem_filter.mpr ⟨hmem, by simpa using hof.trans hposition⟩
    have hnone : lifecycle.closedAt = none := by
      by_contra hends
      exact hearlier lifecycle hmine hends hbought
    refine List.any_eq_true.mpr ⟨lifecycle, List.mem_filter.mpr ⟨hmine, by rw [hnone]; rfl⟩, ?_⟩
    rw [← hid]
    simpa using hbefore

theorem describe_ok {fills : List PersistedFill} {stop : Option ℚ} {result : RowId × V6ManagedPosition} :
    describe arith source t p fills stop = .ok result ↔ ∃ opening others structuralStop,
      entriesOf arith fills = opening :: others ∧ decisionFor source t opening.orderId = .ok structuralStop ∧
      (assembled arith opening others p structuralStop stop (source.marks p.id)).validate = .ok () ∧
      result = (p.id, assembled arith opening others p structuralStop stop (source.marks p.id)) := by
  unfold describe
  cases hentries : entriesOf arith fills with
  | nil => simp
  | cons opening others =>
    simp only [bind_ok, List.cons.injEq]
    constructor
    · rintro ⟨structuralStop, hdecision, _, hvalid, hresult⟩
      exact ⟨opening, others, structuralStop, ⟨rfl, rfl⟩, hdecision, hvalid, (Except.ok.inj hresult).symm⟩
    · rintro ⟨_, _, structuralStop, ⟨rfl, rfl⟩, hdecision, hvalid, rfl⟩
      exact ⟨structuralStop, hdecision, (), hvalid, rfl⟩

/-- A stop changes nothing about the checks but how much is at risk. -/
theorem validate_stop {opening : OpeningEntry} {others : List OpeningEntry} {structuralStop stop : ℚ} {marks : List String}
    (h : (assembled arith opening others p structuralStop none marks).validate = .ok ()) :
    (assembled arith opening others p structuralStop (some stop) marks).validate = .ok () ↔
      withinApprovedRisk (assembled arith opening others p structuralStop (some stop) marks) stop := by
  rw [V6ManagedPosition.validate_ok] at h ⊢
  obtain ⟨hentry, haverage, hinitial, hremaining, hstructural, hrisk, -, -, -, hadds, -, hbehind⟩ := h
  have hcurrent : 0 ≤ (assembled arith opening others p structuralStop (some stop) marks).currentWorstCaseRisk := by
    refine not_lt.mp fun hneg => ?_
    exact absurd ((arith.fix_neg _).mp hneg) (not_lt.mpr (mul_nonneg (le_of_lt hremaining) (abs_nonneg _)))
  constructor
  · rintro ⟨-, -, -, -, -, -, -, hstop, -, -, hwithin, -⟩
    exact ⟨hstop stop rfl, hwithin⟩
  · rintro ⟨hstop, hwithin⟩
    refine ⟨hentry, haverage, hinitial, hremaining, hstructural, hrisk, hcurrent, ?_, rfl, hadds, hwithin, hbehind⟩
    intro other hother
    rw [← Option.some.inj hother]
    exact hstop

theorem openPosition_eq (hposition : t.book.position? p.accountId p.instrumentId = some p) :
    openPosition arith source t p.accountId p.instrumentId = if p.quantity ≤ 0 then .ok none
      else (describe arith source t p (openingFills t p.id) (activeStop source t p.accountId p.instrumentId)).map some := by
  unfold openPosition
  rw [hposition]

/-- Only a position that passes its checks is read. -/
theorem openPosition_valid {accountId instrumentId : UUID} {held : RowId × V6ManagedPosition}
    (h : openPosition arith source t accountId instrumentId = .ok (some held)) : held.2.validate = .ok () := by
  unfold openPosition at h
  split at h
  · cases h
  · rename_i p hposition
    split at h
    · cases h
    · cases hdescribed : describe arith source t p (openingFills t p.id) (activeStop source t accountId instrumentId) with
      | error e =>
        rw [hdescribed] at h
        cases h
      | ok result =>
        rw [hdescribed] at h
        cases h
        obtain ⟨_, _, _, -, -, hvalid, rfl⟩ := describe_ok.mp hdescribed
        exact hvalid

theorem map_some_ne_none {α : Type} (x : Except PyError α) : x.map some ≠ .ok none := by
  cases x <;> exact nofun

theorem map_some_error {α : Type} {x : Except PyError α} {e : PyError} : x.map some = .error e ↔ x = .error e := by
  cases x with
  | error other => exact ⟨fun h => by rw [← Except.error.inj h], fun h => by rw [← Except.error.inj h]; rfl⟩
  | ok a => exact ⟨nofun, nofun⟩

/-- Exactly under the condition. -/
theorem describes_iff (h : Lineage carried t) (hposition : t.book.position? p.accountId p.instrumentId = some p) :
    DescribesOpenLifecycle arith source t p ↔ FirstLongLifecycle arith source t p := by
  by_cases hlong : 0 < p.quantity
  · have heq : openPosition arith source t p.accountId p.instrumentId =
        (describe arith source t p (openingFills t p.id) (activeStop source t p.accountId p.instrumentId)).map some := by
      rw [openPosition_eq hposition, if_neg (not_le.mpr hlong)]
    constructor
    · rintro ⟨-, hentries, hraises⟩
      refine ⟨hlong, (openingFills_current_iff h).mp hentries, ?_⟩
      intro order trigger hnewest hold htrigger opening others structuralStop hopening hdecision hvalid
      by_contra hnot
      have hactive : activeStop source t p.accountId p.instrumentId = some trigger := by
        rw [activeStop, hnewest, Option.bind_some, htrigger]
      have hstop : lifecycleStop source t p = none := by
        rw [lifecycleStop, hnewest, Option.bind_some, hold]
        rfl
      rw [heq, hactive, hstop, List.filter_eq_self.mpr hentries] at hraises
      cases hdescribed : describe arith source t p (openingFills t p.id) (some trigger) with
      | ok result =>
        obtain ⟨opening', others', structuralStop', hopening', hdecision', hvalid', -⟩ := describe_ok.mp hdescribed
        rw [hopening] at hopening'
        obtain ⟨rfl, rfl⟩ := List.cons.inj hopening'
        rw [hdecision] at hdecision'
        rw [← Except.ok.inj hdecision'] at hvalid'
        exact hnot ((validate_stop hvalid).mp hvalid')
      | error e =>
        obtain ⟨e', he'⟩ := hraises e (map_some_error.mpr hdescribed)
        rw [describe_ok.mpr ⟨opening, others, structuralStop, hopening, hdecision, hvalid, rfl⟩] at he'
        cases he'
    · rintro ⟨-, hearlier, hstop⟩
      have hentries := (openingFills_current_iff h).mpr hearlier
      refine ⟨?_, hentries, fun e he => ?_⟩
      · rw [heq]
        exact map_some_ne_none _
      · rw [heq, map_some_error] at he
        rw [List.filter_eq_self.mpr hentries]
        unfold activeStop at he
        unfold lifecycleStop
        cases hnewest : newestStop source t p.accountId p.instrumentId with
        | none =>
          rw [hnewest] at he
          exact ⟨e, he⟩
        | some order =>
          rw [hnewest, Option.bind_some] at he
          rw [Option.bind_some]
          cases hcreated : createdInOpenLifecycle t p.id order with
          | true => exact ⟨e, he⟩
          | false =>
            cases htrigger : order.triggerPrice with
            | none =>
              rw [htrigger] at he
              exact ⟨e, he⟩
            | some trigger =>
              rw [htrigger] at he
              cases hdescribed : describe arith source t p (openingFills t p.id) none with
              | error e' => exact ⟨e', hdescribed⟩
              | ok result =>
                obtain ⟨opening, others, structuralStop, hopening, hdecision, hvalid, -⟩ := describe_ok.mp hdescribed
                have hwithin := hstop order trigger hnewest hcreated htrigger opening others structuralStop hopening hdecision
                  hvalid
                rw [describe_ok.mpr ⟨opening, others, structuralStop, hopening, hdecision, (validate_stop hvalid).mpr hwithin,
                  rfl⟩] at he
                cases he
  · refine iff_of_false (fun hd => hd.returned ?_) fun hf => hlong hf.long
    rw [openPosition_eq hposition, if_pos (not_lt.mp hlong)]

end Described

/-- In every ledger a history of transactions leaves, for every position of it. -/
theorem describes_openLifecycle_iff (hashes : AdoptionHashes) (t : Tables) (hnothing : NothingHeld t.book)
    (hfills : t.fills = []) (events : List LedgerEvent)
    (hcarried : RunMeets (step .decimal28 hashes) (FillCarried (OnGrid 28 (-18))) t events) (source : PositionSource)
    (p : Position)
    (hposition : (runFrom (step .decimal28 hashes) t events).book.position? p.accountId p.instrumentId = some p) :
    DescribesOpenLifecycle .decimal28 source (runFrom (step .decimal28 hashes) t events) p ↔
      FirstLongLifecycle .decimal28 source (runFrom (step .decimal28 hashes) t events) p :=
  describes_iff (runFrom_lineage Carries.decimal28 (hnothing.lineage hfills) hcarried) hposition

/-- A buying and a selling order of the sample account. -/
private def twoOrders : Tables :=
  sampleTables
    [sampleOrder .buy 10,
      { sampleOrder .sell 10 with
        id := rowUuid 13, orderIntentId := rowUuid 16, brokerClientOrderId := "client-2" }]
    [sampleLink (rowUuid 3) "ACKNOWLEDGED",
      { sampleLink (rowUuid 13) "ACKNOWLEDGED" with id := rowUuid 17, brokerOrderId := "B2" }]

private def entered (executionId : String) : LedgerEvent :=
  .fill (sampleFill (rowUuid 3) executionId .buy 3 rat_three_pos)

private def left : LedgerEvent :=
  .fill { sampleFill (rowUuid 13) "2" .sell 3 rat_three_pos with brokerOrderId := "B2" }

/-- The entry was decided with a stop below its price. -/
private def oneSignal : PositionSource where
  intent uuid := if uuid = rowUuid 6 then some (.entry, some (rowUuid 20)) else none
  structuralStop _ := some (1 / 2)
  marks _ := []

private def threeHeld (positionId : RowId) : Position where
  id := positionId
  accountId := rowUuid 2
  instrumentId := rowUuid 4
  quantity := 3
  averageCost := 1
  currency := some "USD"
  settlementAsset := none
  observedAt := 10
  blockingRisk := false

/-- Three are bought, and nothing was held before. -/
theorem describes_openLifecycle_first :
    DescribesOpenLifecycle .decimal28 oneSignal (runFrom (step .decimal28 noHashes) twoOrders [entered "1"]) (threeHeld 1) := by
  have hposition : (runFrom (step .decimal28 noHashes) twoOrders [entered "1"]).book.position? (threeHeld 1).accountId
      (threeHeld 1).instrumentId = some (threeHeld 1) := by decide +kernel
  refine (describes_openLifecycle_iff noHashes twoOrders ⟨rfl, rfl, rfl⟩ rfl [entered "1"]
    ⟨fun _ => ⟨?_, ?_⟩, trivial⟩ oneSignal (threeHeld 1) hposition).mpr ⟨?_, ?_, ?_⟩
  · exact ⟨3 * 10 ^ 18, by norm_num [sampleFill], by norm_num⟩
  · exact ⟨3 * 10 ^ 18, by norm_num [sampleFill, twoOrders, sampleTables, noTables, Book.held, Book.position?, exactNext],
      by norm_num⟩
  · norm_num [threeHeld]
  · have hopen : ∀ lifecycle ∈ (runFrom (step .decimal28 noHashes) twoOrders [entered "1"]).book.lifecyclesOf 1,
        lifecycle.closedAt = none := by decide +kernel
    exact fun lifecycle hmem hclosed => absurd (hopen lifecycle hmem) hclosed
  · intro order trigger hnewest
    have hnone : newestStop oneSignal (runFrom (step .decimal28 noHashes) twoOrders [entered "1"]) (rowUuid 2) (rowUuid 4) =
        none := by decide +kernel
    rw [show newestStop _ _ (threeHeld 1).accountId (threeHeld 1).instrumentId = none from hnone] at hnewest
    cases hnewest

/-- Three are bought, sold, and bought again: the first lot is read with the second. -/
theorem describes_openLifecycle_fails :
    ¬∀ (t : Tables) (events : List LedgerEvent) (source : PositionSource) (p : Position), NothingHeld t.book →
      t.fills = [] → p.quantity ≠ 0 →
      (runFrom (step .decimal28 noHashes) t events).book.position? p.accountId p.instrumentId = some p →
      DescribesOpenLifecycle .decimal28 source (runFrom (step .decimal28 noHashes) t events) p := by
  intro h
  have hposition : (runFrom (step .decimal28 noHashes) twoOrders [entered "1", left, entered "3"]).book.position?
      (threeHeld 1).accountId (threeHeld 1).instrumentId = some (threeHeld 1) := by decide +kernel
  have hentries := (h twoOrders [entered "1", left, entered "3"] oneSignal (threeHeld 1) ⟨rfl, rfl, rfl⟩ rfl
    (by norm_num [threeHeld]) hposition).entries
  revert hentries
  decide +kernel

end AutoTrader.Operations
