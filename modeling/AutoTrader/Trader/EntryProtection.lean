import AutoTrader.Ledger.OrderRows
import AutoTrader.Ledger.PositionMoves
import AutoTrader.Trader.ReducingOrders

/-! The stops behind settled entries. A fill is committed to the ledger first; then the plan of its
stop is read and the stop created, under an identity that names the position row and nothing of the
fill or the lifecycle. -/

namespace AutoTrader.Trader

open AutoTrader.Binance AutoTrader.Domain AutoTrader.Execution AutoTrader.Ledger AutoTrader.Numeric
  AutoTrader.Runtime

/-- What a plan reads besides the ledger: the type and the signal of an intent, the stop recorded
with the decision of a signal, and the id of a position row. -/
structure PlanSource where
  intent : UUID → Option (IntentType × Option UUID)
  structuralStop : UUID → Option Decimal
  positionId : RowId → UUID

/-- `protection_plan`. -/
def protectionPlan (source : PlanSource) (t : Tables) (orderId : UUID) (filledQuantity : Decimal) :
    Except PyError (Option ProtectionPlan) :=
  match t.order? orderId with
  | none => .error ⟨.lookupError, "a settled order has no canonical order"⟩
  | some order =>
    match source.intent order.orderIntentId with
    | none => .error ⟨.lookupError, "a settled order has no intent"⟩
    | some (kind, signal) =>
      if kind ≠ .entry then .ok none
      else match signal with
        | none => .error ⟨.valueError, "an entry has no strategy signal to read a stop from"⟩
        | some signal =>
          match source.structuralStop signal with
          | none => .error ⟨.valueError, "a filled entry has no recorded structural stop"⟩
          | some stop =>
            match t.book.position? order.accountId order.instrumentId with
            | none => .error ⟨.lookupError, "a settled entry left no position to protect"⟩
            | some position =>
              .ok (some
                { positionId := source.positionId position.id
                  instrumentId := order.instrumentId
                  entrySide := order.side
                  quantity := filledQuantity
                  structuralStop := stop })

/-- The ledger and the journal, the stops created since the position was flat, and the exceptions
the passes ended with. -/
structure StopWorld where
  tables : Tables
  journal : Journal
  covering : List PersistedOrder
  failed : List PyError

/-- A fill is settled, or another session wrote to the journal. -/
inductive StopEvent
  | settled (event : BrokerExecutionEvent) (quantity : Decimal) (now : Instant)
  | elsewhere (journal : Journal)

section Passes

variable (arith : Arithmetic) (source : PlanSource) (ids : Nat → UUID) (sha256 : String → Digest)
  (account : ExecutionAccount) (instrumentId : UUID)

/-- `_protect`, up to the dispatch. -/
def protectFill (t : Tables) (orderId : UUID) (quantity : Decimal) (now : Instant) : JournalAct Unit := do
  let plan ← liftM (protectionPlan source t orderId quantity)
  match plan with
  | none => pure ()
  | some plan => do
    let _ ← createStructuralStop ids sha256 account plan now

/-- What is held of the instrument. -/
def heldOf (t : Tables) : ℚ := t.book.held account.account.id instrumentId

/-- The stops that cover a position: none when it is flat. -/
def coveringAfter (t : Tables) (orders : List PersistedOrder) : List PersistedOrder :=
  if heldOf account instrumentId t = 0 then [] else orders

def stopStep (w : StopWorld) : StopEvent → StopWorld
  | .settled event quantity now =>
    match applyEventOnce arith w.tables event with
    | .error _ => w
    | .ok (tables, _) =>
      match protectFill source ids sha256 account tables event.orderId quantity now w.journal with
      | .error e => ⟨tables, w.journal, coveringAfter account instrumentId tables w.covering, w.failed ++ [e]⟩
      | .ok (_, journal) =>
        ⟨tables, journal,
          coveringAfter account instrumentId tables (w.covering ++ journal.orders.drop w.journal.orders.length),
          w.failed⟩
  | .elsewhere journal => { w with journal := journal }

end Passes

/-! ### Runs -/

section Runs

variable {carried : ℚ → Prop} {arith : Arithmetic} {source : PlanSource} {ids : Nat → UUID} {sha256 : String → Digest}
  {limit : Nat} {account : ExecutionAccount} {instrumentId : UUID} {w : StopWorld}

/-- The row a fill goes to; the fill itself draws the first id. -/
def positionRow (t : Tables) (event : BrokerExecutionEvent) : RowId :=
  (positionFor { t.book with drawn := t.book.drawn + 1 } event).1.id

variable (source) in
/-- A fill of an entry whose decision recorded a stop, or of an order that leaves nothing held. -/
inductive Purpose (order : Ledger.PersistedOrder) (left : ℚ) : Prop
  | entry (signal : UUID) (stop : Decimal) (intent : source.intent order.orderIntentId = some (.entry, some signal))
      (recorded : source.structuralStop signal = some stop) (kept : 0 < stop.toRat ∧ stop.column.toRat = stop.toRat)
  | closing (kind : IntentType) (signal : Option UUID) (intent : source.intent order.orderIntentId = some (kind, signal))
      (other : kind ≠ .entry) (flat : left = 0)

variable (carried source ids limit account instrumentId) in
/-- The fills of one instrument, in amounts that are not rounded, and sessions that create other
orders between them. -/
def SettledFills (w : StopWorld) : StopEvent → Prop
  | .settled event quantity _ =>
    event.accountId = account.account.id ∧ event.instrumentId = instrumentId ∧ quantity.toRat = event.quantity ∧
    quantity.column.toRat = quantity.toRat ∧ carried event.quantity ∧
    carried (exactNext (heldOf account instrumentId w.tables) event.side event.quantity) ∧ w.journal.drawn + 5 ≤ limit ∧
    ∀ order, w.tables.order? event.orderId = some order →
      Purpose source order (exactNext (heldOf account instrumentId w.tables) event.side event.quantity)
  | .elsewhere journal => Fresh ids limit journal ∧ journal.anchored ∧
    ∀ id, (∃ row ∈ w.journal.intents, row.idempotencyKey = stopIdentity account id) →
      ∃ row ∈ journal.intents, row.idempotencyKey = stopIdentity account id

variable (source account) in
/-- The condition on the fill of an entry: it is not recorded yet, and no intent has the identity of a
stop behind the row it goes to. -/
def FirstStop (w : StopWorld) : StopEvent → Prop
  | .settled event _ _ =>
    ∀ order signal, w.tables.order? event.orderId = some order →
      source.intent order.orderIntentId = some (.entry, signal) →
      w.tables.fill? event = none ∧ ∀ row ∈ w.journal.intents,
        row.idempotencyKey ≠ stopIdentity account (source.positionId (positionRow w.tables event))
  | .elsewhere _ => True

variable (account instrumentId) in
/-- No pass failed, and the stops of the lifecycle are for what is open. -/
structure EntriesCovered (w : StopWorld) : Prop where
  failed : w.failed = []
  covered : (w.covering.map (·.requestedQuantity.toRat)).sum = |heldOf account instrumentId w.tables|

variable (carried source ids limit account instrumentId) in
/-- What a run keeps. -/
structure StopKept (w : StopWorld) : Prop where
  fresh : Fresh ids limit w.journal
  anchored : w.journal.anchored
  sound : w.tables.book.Sound carried
  covered : EntriesCovered account instrumentId w
  claimed : ∀ position, w.tables.book.position? account.account.id instrumentId = some position → position.quantity ≠ 0 →
    ∃ row ∈ w.journal.intents, row.idempotencyKey = stopIdentity account (source.positionId position.id)

/-- A fill that goes through was checked against its order. -/
theorem applyEventOnce_locked {t : Tables} {event : BrokerExecutionEvent} {result : Tables × Option FillApplication}
    (h : applyEventOnce arith t event = .ok result) :
    ∃ anchors order, Locked t event anchors order := by
  obtain ⟨⟨anchors, order⟩, hlock, -⟩ := bind_ok.mp h
  exact ⟨anchors, order, lockForFill_ok hlock⟩

theorem held_of_position? {b : Book} {accountId : UUID} {position : Position}
    (h : b.position? accountId instrumentId = some position) : b.held accountId instrumentId = position.quantity := by
  unfold Book.held
  rw [h]
  rfl

/-- A plan for a fill of an entry. -/
theorem protectionPlan_entry {t : Tables} {orderId signal : UUID} {quantity stop : Decimal} {order : Ledger.PersistedOrder}
    {position : Position} (horder : t.order? orderId = some order)
    (hintent : source.intent order.orderIntentId = some (.entry, some signal))
    (hstop : source.structuralStop signal = some stop)
    (hposition : t.book.position? order.accountId order.instrumentId = some position) :
    protectionPlan source t orderId quantity = .ok (some
      { positionId := source.positionId position.id
        instrumentId := order.instrumentId
        entrySide := order.side
        quantity := quantity
        structuralStop := stop }) := by
  unfold protectionPlan
  simp [horder, hintent, hstop, hposition]

theorem protectionPlan_closing {t : Tables} {orderId : UUID} {quantity : Decimal} {order : Ledger.PersistedOrder}
    {kind : IntentType} {signal : Option UUID} (horder : t.order? orderId = some order)
    (hintent : source.intent order.orderIntentId = some (kind, signal)) (hkind : kind ≠ .entry) :
    protectionPlan source t orderId quantity = .ok none := by
  unfold protectionPlan
  simp [horder, hintent, hkind]

/-- What the ledger says after a fill went through. -/
structure FillSettled (carried : ℚ → Prop) (t after : Tables) (event : BrokerExecutionEvent)
    (order order' : Ledger.PersistedOrder) : Prop where
  before : t.order? event.orderId = some order
  found : after.order? event.orderId = some order'
  intent : order'.orderIntentId = order.orderIntentId
  terms : order'.accountId = event.accountId ∧ order'.instrumentId = event.instrumentId ∧ order'.side = event.side
  sound : after.book.Sound carried
  book : (t.fill? event ≠ none ∧ after.book = t.book) ∨
    ∃ position, after.book.position? event.accountId event.instrumentId = some position ∧
      position.id = positionRow t event ∧
      position.quantity = exactNext (t.book.held event.accountId event.instrumentId) event.side event.quantity

theorem applyEventOnce_settled (hc : Carries arith carried) {t after : Tables} {event : BrokerExecutionEvent}
    {result : Option FillApplication} (hs : t.book.Sound carried) (hquantity : carried event.quantity)
    (hnext : carried (exactNext (t.book.held event.accountId event.instrumentId) event.side event.quantity))
    (h : applyEventOnce arith t event = .ok (after, result)) :
    ∃ order order', FillSettled carried t after event order order' := by
  obtain ⟨-, order, -, hfound, haccount, hinstrument, hside, -⟩ := applyEventOnce_locked h
  rcases applyEventOnce_ok h with ⟨-, existing, hfill, hafter⟩ | ⟨-, anchors, row, stored, happlied⟩
  · have hsame : after.book = t.book ∧ after.order? event.orderId = t.order? event.orderId := by
      rcases hafter with rfl | rfl
      · exact ⟨rfl, rfl⟩
      · exact ⟨rfl, rfl⟩
    refine ⟨order, order, hfound, hsame.2.trans hfound, rfl, ⟨haccount, hinstrument, hside⟩, hsame.1 ▸ hs, .inl ⟨?_, hsame.1⟩⟩
    rw [hfill]
    exact Option.some_ne_none _
  · have hrow : row = order := Option.some.inj ((lockForFill_ok happlied.locked).found.symm.trans hfound)
    have hfilled : after.order? event.orderId = some (order.fill (filledTotal arith order event) stored) := by
      rw [happlied.order?, hrow, hfound, Option.map_some, if_pos rfl]
    refine ⟨order, _, hfound, hfilled, rfl, ⟨haccount, hinstrument, hside⟩, ?_, .inr ?_⟩
    · exact applyToPosition_sound hc hs.draw hquantity hnext happlied.book
    · exact (applyToPosition_moves hc hs.draw hquantity hnext happlied.book).1

theorem positionRow_of_position? {t : Tables} {event : BrokerExecutionEvent} {position : Position}
    (h : t.book.position? event.accountId event.instrumentId = some position) : positionRow t event = position.id :=
  positionFor_id (b := { t.book with drawn := t.book.drawn + 1 }) h

/-- Under a free identity nothing is held. -/
theorem StopKept.flat {event : BrokerExecutionEvent} (h : StopKept carried source ids limit account instrumentId w)
    (haccount : event.accountId = account.account.id) (hinstrument : event.instrumentId = instrumentId)
    (hfree : ∀ row ∈ w.journal.intents,
      row.idempotencyKey ≠ stopIdentity account (source.positionId (positionRow w.tables event))) :
    w.tables.book.held event.accountId event.instrumentId = 0 := by
  rw [haccount, hinstrument]
  cases hposition : w.tables.book.position? account.account.id instrumentId with
  | none =>
    unfold Book.held
    rw [hposition]
    rfl
  | some position =>
    rw [held_of_position? hposition]
    by_contra hheld
    obtain ⟨row, hrow, hkey⟩ := h.claimed position hposition hheld
    refine hfree row hrow ?_
    rw [positionRow_of_position? (by rw [haccount, hinstrument]; exact hposition)]
    exact hkey

theorem abs_exactNext_zero (side : Side) {quantity : ℚ} (h : 0 < quantity) : |exactNext 0 side quantity| = quantity := by
  cases side with
  | buy => rw [exactNext, zero_add, abs_of_pos h]
  | sell => rw [exactNext, zero_sub, abs_neg, abs_of_pos h]

theorem StopKept.settled (hc : Carries arith carried) (hids : IdSupply ids limit) (hready : account.isReady)
    {event : BrokerExecutionEvent} {quantity : Decimal} {now : Instant}
    (h : StopKept carried source ids limit account instrumentId w)
    (hfill : SettledFills carried source ids limit account instrumentId w (.settled event quantity now))
    (hfirst : FirstStop source account w (.settled event quantity now)) :
    StopKept carried source ids limit account instrumentId
      (stopStep arith source ids sha256 account instrumentId w (.settled event quantity now)) := by
  obtain ⟨haccount, hinstrument, hamount, hcolumn, hquantity, hnext, hroom, hpurpose⟩ := hfill
  unfold stopStep
  dsimp only
  cases happly : applyEventOnce arith w.tables event with
  | error e => exact h
  | ok applied =>
    obtain ⟨after, result⟩ := applied
    dsimp only
    have hheld : heldOf account instrumentId w.tables = w.tables.book.held event.accountId event.instrumentId := by
      rw [haccount, hinstrument]
      rfl
    rw [hheld] at hnext hpurpose
    obtain ⟨order, order', hsettled⟩ := applyEventOnce_settled hc h.sound hquantity hnext happly
    cases hpurpose order hsettled.before with
    | entry signal stop hintent hstop hkept =>
      obtain ⟨hunrecorded, hfree⟩ := hfirst order _ hsettled.before hintent
      obtain ⟨position, hposition, hrow, hleft⟩ := hsettled.book.resolve_left fun hfound => hfound.1 hunrecorded
      have hflat := h.flat haccount hinstrument hfree
      rw [hflat] at hleft
      obtain ⟨hownAccount, hownInstrument, -⟩ := hsettled.terms
      set plan : ProtectionPlan := ⟨source.positionId position.id, order'.instrumentId, order'.side, quantity, stop⟩
      have hplan : protectionPlan source after event.orderId quantity = .ok (some plan) :=
        protectionPlan_entry hsettled.found (hsettled.intent ▸ hintent) hstop
          (by rw [hownAccount, hownInstrument]; exact hposition)
      have hamountPos : 0 < quantity.toRat := hamount.symm ▸ event.terms.1
      have hkeptPlan : plan.Kept := ⟨⟨hamountPos, hcolumn⟩, hkept⟩
      have hfreePlan : ∀ row ∈ w.journal.intents, row.idempotencyKey ≠ stopIdentity account plan.positionId := by
        show ∀ row ∈ w.journal.intents, row.idempotencyKey ≠ stopIdentity account (source.positionId position.id)
        rw [hrow]
        exact hfree
      obtain ⟨created, journal, hcreated, hplaced⟩ :=
        structuralStop_placed sha256 now hids h.fresh hroom hready h.anchored hkeptPlan hfreePlan
      have hprotected : protectFill source ids sha256 account after event.orderId quantity now w.journal = .ok ((), journal) :=
        journal_bind_ok.mpr ⟨some plan, w.journal, journal_lift_ok.mpr ⟨hplan, rfl⟩,
          journal_bind_ok.mpr ⟨some created, journal, hcreated, rfl⟩⟩
      rw [haccount, hinstrument] at hposition
      have hafter : heldOf account instrumentId after = exactNext 0 event.side event.quantity :=
        (held_of_position? hposition).trans hleft
      have hopen := abs_exactNext_zero event.side event.terms.1
      have hnonzero : exactNext 0 event.side event.quantity ≠ 0 := by
        rw [← abs_pos, hopen]
        exact event.terms.1
      obtain ⟨row, hrows, hrowQuantity⟩ := hplaced.orders
      obtain ⟨intent, hintents, hidentity⟩ := hplaced.intents
      rw [hprotected]
      refine ⟨hplaced.fresh, hplaced.anchored.trans h.anchored, hsettled.sound, ⟨h.covered.failed, ?_⟩, ?_⟩
      · have hbefore := h.covered.covered
        rw [hheld, hflat, abs_zero] at hbefore
        unfold coveringAfter
        dsimp only
        rw [hafter, if_neg hnonzero, hopen, hrows, List.drop_left, List.map_append, List.sum_append, hbefore, zero_add,
          List.map_singleton, List.sum_singleton, hrowQuantity]
        exact hamount
      · intro found hfound _
        rw [Option.some.inj (hfound.symm.trans hposition)]
        exact ⟨intent, hintents ▸ List.mem_append_right _ List.mem_cons_self, hidentity⟩
    | closing kind signal hintent hkind hflat =>
      have hplan : protectFill source ids sha256 account after event.orderId quantity now w.journal = .ok ((), w.journal) :=
        journal_bind_ok.mpr ⟨none, w.journal, journal_lift_ok.mpr
          ⟨protectionPlan_closing hsettled.found (hsettled.intent.symm ▸ hintent) hkind, rfl⟩, rfl⟩
      rw [hplan]
      rcases hsettled.book with ⟨-, hsame⟩ | ⟨position, hposition, -, hleft⟩
      · have hafter : heldOf account instrumentId after = heldOf account instrumentId w.tables := by
          rw [heldOf, hsame]
          rfl
        refine ⟨h.fresh, h.anchored, hsettled.sound, ⟨h.covered.failed, ?_⟩, ?_⟩
        · unfold coveringAfter
          dsimp only
          rw [hafter]
          split
          · rename_i hflat
            rw [hflat, abs_zero]
            rfl
          · rw [List.drop_length, List.append_nil]
            exact h.covered.covered
        · dsimp only
          rw [hsame]
          exact h.claimed
      · rw [haccount, hinstrument] at hposition
        have hafter : heldOf account instrumentId after = 0 := (held_of_position? hposition).trans (hleft.trans hflat)
        refine ⟨h.fresh, h.anchored, hsettled.sound, ⟨h.covered.failed, ?_⟩, ?_⟩
        · unfold coveringAfter
          dsimp only
          rw [hafter, if_pos rfl, abs_zero]
          rfl
        · intro found hfound hopen
          exact absurd ((held_of_position? hfound).symm.trans hafter) hopen

/-- A pass over an entry whose stop has its identity taken ends with an exception. -/
theorem stopStep_taken {event : BrokerExecutionEvent} {quantity : Decimal} {now : Instant} {after : Tables}
    {result : Option FillApplication} {plan : ProtectionPlan} (hfresh : Fresh ids limit w.journal)
    (hroom : w.journal.drawn < limit) (happly : applyEventOnce arith w.tables event = .ok (after, result))
    (hplan : protectionPlan source after event.orderId quantity = .ok (some plan))
    (htaken : ∃ row ∈ w.journal.intents, row.idempotencyKey = stopIdentity account plan.positionId) :
    ∃ e, (stopStep arith source ids sha256 account instrumentId w (.settled event quantity now)).failed =
      w.failed ++ [e] := by
  unfold stopStep
  dsimp only
  rw [happly]
  dsimp only
  cases hprotect : protectFill source ids sha256 account after event.orderId quantity now w.journal with
  | error e => exact ⟨e, rfl⟩
  | ok done =>
    obtain ⟨found, j₁, hread, hcreated⟩ := journal_bind_ok.mp hprotect
    obtain ⟨hfound, rfl⟩ := journal_lift_ok.mp hread
    rw [hplan, Except.ok.injEq] at hfound
    rw [← hfound] at hcreated
    obtain ⟨created, j₂, hcreated, -⟩ := journal_bind_ok.mp hcreated
    have hids : ∀ row ∈ w.journal.intents, row.id ≠ ids w.journal.drawn := fun row hrow =>
      hfresh.intents row hrow _ le_rfl hroom
    exact absurd hcreated (structuralStop_taken hids htaken)

theorem StopKept.step (hc : Carries arith carried) (hids : IdSupply ids limit) (hready : account.isReady)
    (h : StopKept carried source ids limit account instrumentId w) (e : StopEvent)
    (hfill : SettledFills carried source ids limit account instrumentId w e) (hfirst : FirstStop source account w e) :
    StopKept carried source ids limit account instrumentId (stopStep arith source ids sha256 account instrumentId w e) := by
  cases e with
  | settled event quantity now => exact h.settled hc hids hready hfill hfirst
  | elsewhere journal =>
    obtain ⟨hfresh, hanchored, hkept⟩ := hfill
    exact ⟨hfresh, hanchored, h.sound, ⟨h.covered.failed, h.covered.covered⟩, fun position hposition hopen =>
      hkept _ (h.claimed position hposition hopen)⟩

variable (ids limit account instrumentId) in
/-- The position is flat, no stop was created and no pass ran. -/
structure NothingSettled (w : StopWorld) : Prop where
  fresh : Fresh ids limit w.journal
  anchored : w.journal.anchored
  sound : w.tables.book.Sound (OnGrid 28 (-18))
  flat : ∀ position, w.tables.book.position? account.account.id instrumentId = some position → position.quantity = 0
  covering : w.covering = []
  failed : w.failed = []

/-- In every run whose entries are each the first to need a stop behind their position row. -/
theorem entries_covered {events : List StopEvent} (hids : IdSupply ids limit) (hready : account.isReady)
    (hstart : NothingSettled ids limit account instrumentId w)
    (hrun : RunMeets (stopStep .decimal28 source ids sha256 account instrumentId)
      (fun w event => SettledFills (OnGrid 28 (-18)) source ids limit account instrumentId w event ∧
        FirstStop source account w event) w events) :
    EntriesCovered account instrumentId
      (runFrom (stopStep .decimal28 source ids sha256 account instrumentId) w events) := by
  have hflat : heldOf account instrumentId w.tables = 0 := by
    unfold heldOf Book.held
    cases hposition : w.tables.book.position? account.account.id instrumentId with
    | none => rfl
    | some position => exact hstart.flat position hposition
  have hkept : StopKept (OnGrid 28 (-18)) source ids limit account instrumentId w := by
    refine ⟨hstart.fresh, hstart.anchored, hstart.sound, ⟨hstart.failed, ?_⟩, fun position hposition hopen => ?_⟩
    · rw [hstart.covering, hflat, abs_zero]
      rfl
    · exact absurd (hstart.flat position hposition) hopen
  have hrun : StopKept (OnGrid 28 (-18)) source ids limit account instrumentId
      (runFrom (stopStep .decimal28 source ids sha256 account instrumentId) w events) :=
    run_invariant (fun _ event hw hevent => hw.step Carries.decimal28 hids hready event hevent.1 hevent.2) hkept hrun
  exact hrun.covered

end Runs

/-! ### One entry -/

private def stopAccount : ExecutionAccount := ⟨⟨rowUuid 2, true, true⟩, sampleUuid 202, 1⟩

private def stopSource : PlanSource where
  intent id := if id = rowUuid 6 then some (.entry, some (sampleUuid 205)) else none
  structuralStop _ := some (Decimal.ofNat 90)
  positionId row := sampleUuid (Fin.ofNat 256 (100 + row))

/-- An entry of three is at its broker. -/
private def entryPlaced : StopWorld :=
  ⟨sampleTables [Ledger.sampleOrder .buy 3] [sampleLink (rowUuid 3) "ACKNOWLEDGED"], .empty true, [], []⟩

/-- One of the three is filled, under an execution id. -/
private def entryFilled (executionId : String) : StopEvent :=
  .settled (Ledger.sampleFill (rowUuid 3) executionId .buy 1 one_pos) (Decimal.ofNat 1) sampleNow

private abbrev sampleStopStep : StopWorld → StopEvent → StopWorld :=
  stopStep .decimal28 stopSource sampleIds sampleDigest stopAccount (rowUuid 4)

private theorem sampleSupply : IdSupply sampleIds 16 :=
  ⟨by decide +kernel, sampleIds_injOn⟩

private theorem entryPlaced_start : NothingSettled sampleIds 16 stopAccount (rowUuid 4) entryPlaced := by
  refine ⟨⟨?_, ?_, ?_⟩, rfl, NothingHeld.sound ⟨rfl, rfl, rfl⟩, ?_, rfl, rfl⟩
  · exact fun row hrow => absurd hrow List.not_mem_nil
  · exact fun row hrow => absurd hrow List.not_mem_nil
  · exact fun row hrow => absurd hrow List.not_mem_nil
  · intro position hposition
    cases hposition

/-- A fill of one of the entry, while less than a million are held. -/
private theorem entryFilled_settles {w : StopWorld} (held : Nat) (executionId : String)
    (hheld : heldOf stopAccount (rowUuid 4) w.tables = held) (hsmall : held < 10 ^ 6) (hroom : w.journal.drawn + 5 ≤ 16)
    (horder : (w.tables.order? (rowUuid 3)).map (·.orderIntentId) = some (rowUuid 6)) :
    SettledFills (OnGrid 28 (-18)) stopSource sampleIds 16 stopAccount (rowUuid 4) w (entryFilled executionId) := by
  have hone : (Decimal.ofNat 1).toRat = (1 : ℚ) := by norm_num [Decimal.ofNat, Decimal.toRat]
  have hnext : OnGrid 28 (-18) (((held + 1 : Nat) : ℚ)) := onGrid_natCast (by omega)
  refine ⟨rfl, rfl, hone, by decide +kernel, ?_, ?_, hroom, fun order hfound => ?_⟩
  · exact_mod_cast onGrid_natCast (n := 1) (by norm_num)
  · rw [hheld]
    push_cast at hnext
    exact hnext
  · have hintent : order.orderIntentId = rowUuid 6 := by
      have hfound : w.tables.order? (rowUuid 3) = some order := hfound
      rw [hfound] at horder
      exact Option.some.inj horder
    refine .entry (sampleUuid 205) (Decimal.ofNat 90) ?_ rfl (by decide +kernel)
    rw [hintent]
    rfl

/-- The first fill of an entry gets its stop. -/
theorem entries_covered_first :
    let w := runFrom sampleStopStep entryPlaced [entryFilled "1"]
    EntriesCovered stopAccount (rowUuid 4) w ∧ w.covering.map (·.requestedQuantity.toRat) = [1] := by
  intro w
  have hsettles := entryFilled_settles (w := entryPlaced) 0 "1" (by decide +kernel) (by norm_num) (by decide)
    (by decide +kernel)
  refine ⟨entries_covered sampleSupply (by decide) entryPlaced_start ⟨⟨hsettles, fun order signal _ _ => ⟨?_, ?_⟩⟩, trivial⟩,
    by decide +kernel⟩
  · decide +kernel
  · exact fun row hrow => absurd hrow List.not_mem_nil

/-- The second fill of the same entry finds the identity of its stop taken. -/
theorem entries_covered_fails :
    ¬∀ (w : StopWorld) (events : List StopEvent), NothingSettled sampleIds 16 stopAccount (rowUuid 4) w →
      RunMeets sampleStopStep (SettledFills (OnGrid 28 (-18)) stopSource sampleIds 16 stopAccount (rowUuid 4)) w events →
      EntriesCovered stopAccount (rowUuid 4) (runFrom sampleStopStep w events) := by
  intro h
  have hfirst := entryFilled_settles (w := entryPlaced) 0 "1" (by decide +kernel) (by norm_num) (by decide)
    (by decide +kernel)
  have hsecond := entryFilled_settles (w := sampleStopStep entryPlaced (entryFilled "1")) 1 "2"
    (by decide +kernel) (by norm_num) (by decide +kernel) (by decide +kernel)
  have hfailed := (h entryPlaced [entryFilled "1", entryFilled "2"] entryPlaced_start ⟨hfirst, hsecond, trivial⟩).failed
  revert hfailed
  decide +kernel

end AutoTrader.Trader
