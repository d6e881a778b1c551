import AutoTrader.Ledger.OrderFillRuns
import AutoTrader.Ledger.PositionMoves

/-! Executions of one order that are delivered again: each counts once, and a replay leaves the
tables as they were, but for the incident of one that contradicts what was recorded. -/

namespace AutoTrader.Ledger

open AutoTrader.Domain AutoTrader.Execution AutoTrader.Numeric AutoTrader.Runtime

def PersistedFill.identity (fill : PersistedFill) : UUID × UUID × String :=
  (fill.brokerId, fill.accountId, fill.brokerExecutionId)

/-- The identities executions were recorded under. -/
def Tables.recorded (t : Tables) : List (UUID × UUID × String) :=
  t.fills.map PersistedFill.identity

/-- The first execution of each identity that was not seen before. -/
def firstSeen : List (UUID × UUID × String) → List BrokerExecutionEvent → List BrokerExecutionEvent
  | _, [] => []
  | seen, event :: events =>
    if event.identity ∈ seen then firstSeen seen events
    else event :: firstSeen (event.identity :: seen) events

/-- What an execution moves the position by. -/
def signedQuantity (event : BrokerExecutionEvent) : ℚ :=
  match event.side with
  | .buy => event.quantity
  | .sell => -event.quantity

section Delivery

variable (arith : Arithmetic) (hashes : AdoptionHashes)

/-- The executions whose transaction raised nothing; one that raises is rolled back. -/
def delivered : Tables → List BrokerExecutionEvent → List BrokerExecutionEvent
  | _, [] => []
  | t, event :: events =>
    let rest := delivered (step arith hashes t (.fill event)) events
    match perform arith hashes t (.fill event) with
    | .ok _ => event :: rest
    | .error _ => rest

/-- An execution recorded before changes nothing, unless it contradicts what was recorded: then one
blocking incident is added. -/
def ReplayHarmless (t : Tables) : LedgerEvent → Prop
  | .fill event => ∀ existing, t.fill? event = some existing →
      step arith hashes t (.fill event) = t ∨ existing.canonicalPayloadHash ≠ event.payloadHash ∧
        step arith hashes t (.fill event) = t.report (blockingIncident "BROKER_EXECUTION_IDENTITY_PAYLOAD_CONFLICT"
          (some existing.orderId) event.observedAt)
  | _ => True

/-- A replay that contradicts what was recorded, and does not raise, adds its incident. -/
def ConflictReported (t : Tables) : LedgerEvent → Prop
  | .fill event => ∀ existing after, t.fill? event = some existing →
      existing.canonicalPayloadHash ≠ event.payloadHash → perform arith hashes t (.fill event) = .ok after →
      after = t.report (blockingIncident "BROKER_EXECUTION_IDENTITY_PAYLOAD_CONFLICT" (some existing.orderId)
        event.observedAt)
  | _ => True

end Delivery

/-- The amounts a new execution leads to are not rounded. -/
def ExecutionFits (t : Tables) : LedgerEvent → Prop
  | .fill event => t.fill? event = none → OnGrid 28 (-18) event.quantity ∧
      OnGrid 28 (-18) (exactNext (t.book.held event.accountId event.instrumentId) event.side event.quantity) ∧
      ∀ order, t.order? event.orderId = some order → OnGrid 28 (-18) (order.filledQuantity + event.quantity)
  | _ => True

/-! ### Identities -/

theorem firstSeen_congr {seen seen' : List (UUID × UUID × String)} (h : ∀ identity, identity ∈ seen ↔ identity ∈ seen')
    (events : List BrokerExecutionEvent) : firstSeen seen events = firstSeen seen' events := by
  induction events generalizing seen seen' with
  | nil => rfl
  | cons event events ih =>
    have hnext : ∀ identity, identity ∈ event.identity :: seen ↔ identity ∈ event.identity :: seen' := by
      intro identity
      rw [List.mem_cons, List.mem_cons, h identity]
    unfold firstSeen
    rw [ih h, ih hnext]
    by_cases hmem : event.identity ∈ seen
    · rw [if_pos hmem, if_pos ((h _).mp hmem)]
    · rw [if_neg hmem, if_neg fun hmem' => hmem ((h _).mpr hmem')]

theorem mem_recorded {t : Tables} {event : BrokerExecutionEvent} :
    event.identity ∈ t.recorded ↔ ∃ existing, t.fill? event = some existing := by
  rw [← not_iff_not, ← Option.isSome_iff_exists, Option.not_isSome_iff_eq_none, fill?_eq_none]
  unfold Tables.recorded PersistedFill.identity BrokerExecutionEvent.identity
  simp only [List.mem_map, Prod.mk.injEq, not_exists, not_and]

/-! ### One execution -/

section Step

variable {hashes : AdoptionHashes} {t after : Tables} {event : BrokerExecutionEvent} {order : PersistedOrder}

theorem replayHarmless (arith : Arithmetic) (hashes : AdoptionHashes) (t : Tables) (event : LedgerEvent) :
    ReplayHarmless arith hashes t event := by
  cases event with
  | fill event =>
    intro existing hexisting
    refine step_keeps (I := fun after => after = t ∨ existing.canonicalPayloadHash ≠ event.payloadHash ∧
      after = t.report (blockingIncident "BROKER_EXECUTION_IDENTITY_PAYLOAD_CONFLICT" (some existing.orderId)
        event.observedAt)) (.inl rfl) fun after hafter => ?_
    obtain ⟨⟨after, result⟩, happly, rfl⟩ := map_ok hafter
    obtain ⟨⟨anchors, order⟩, -, hpersist⟩ := bind_ok.mp happly
    obtain ⟨⟨t₁, persisted, outcome⟩, hpersist, hrest⟩ := bind_ok.mp hpersist
    unfold persistOnce at hpersist
    rw [hexisting] at hpersist
    dsimp only at hpersist hrest
    split at hpersist
    · rename_i hconflict
      cases hpersist
      rw [if_pos (by decide)] at hrest
      cases hrest
      exact .inr ⟨hconflict, rfl⟩
    · cases hpersist
      rw [if_pos (by decide)] at hrest
      cases hrest
      exact .inl rfl
  | _ => trivial

theorem conflictReported (arith : Arithmetic) (hashes : AdoptionHashes) (t : Tables) (event : LedgerEvent) :
    ConflictReported arith hashes t event := by
  cases event with
  | fill event =>
    intro existing after hexisting hconflict hafter
    obtain ⟨⟨after, result⟩, happly, rfl⟩ := map_ok hafter
    obtain ⟨⟨anchors, order⟩, -, hpersist⟩ := bind_ok.mp happly
    obtain ⟨⟨t₁, persisted, outcome⟩, hpersist, hrest⟩ := bind_ok.mp hpersist
    unfold persistOnce at hpersist
    rw [hexisting] at hpersist
    dsimp only at hpersist hrest
    rw [if_pos hconflict] at hpersist
    cases hpersist
    rw [if_pos (by decide)] at hrest
    cases hrest
    rfl
  | _ => trivial

/-- What a new execution of an order leaves of the order and of the position. -/
structure Counted (t after : Tables) (event : BrokerExecutionEvent) (order : PersistedOrder) : Prop where
  sound : after.book.Sound (OnGrid 28 (-18))
  filled : ∃ later, after.order? order.id = some later ∧ later.accountId = order.accountId ∧
    later.instrumentId = order.instrumentId ∧ later.filledQuantity = order.filledQuantity + event.quantity ∧
    later.aggregateVersion = order.aggregateVersion + 1
  held : after.book.held order.accountId order.instrumentId =
    t.book.held order.accountId order.instrumentId + signedQuantity event
  recorded : ∀ identity, identity ∈ after.recorded ↔ identity ∈ event.identity :: t.recorded

theorem Applied.counted {anchors : RiskBudgetAnchor × RiskBudgetAnchor} {stored : ℚ}
    (happlied : Applied .decimal28 t after anchors order stored event) (hs : t.book.Sound (OnGrid 28 (-18)))
    (hfits : ExecutionFits t (.fill event)) : Counted t after event order := by
  obtain ⟨hquantity, hnext, htotal⟩ := hfits happlied.unrecorded
  have hlocked := lockForFill_ok happlied.locked
  have hid : order.id = event.orderId := Rows.lookup_key hlocked.found
  have hfixed : filledTotal .decimal28 order event = order.filledQuantity + event.quantity :=
    Carries.decimal28.fix _ (htotal order hlocked.found)
  have hstored : stored = order.filledQuantity + event.quantity := by
    have hstore := happlied.total
    rw [hfixed, Carries.decimal28.store _ (htotal order hlocked.found)] at hstore
    exact (Except.ok.inj hstore).symm
  refine ⟨applyToPosition_sound Carries.decimal28 hs.draw hquantity hnext happlied.book, ?_, ?_, ?_⟩
  · refine ⟨order.fill (filledTotal .decimal28 order event) stored, ?_, rfl, rfl, hstored, rfl⟩
    unfold Tables.order?
    have hfound : Rows.lookup PersistedOrder.id t.orders order.id = some order := hid ▸ hlocked.found
    have hids : ∀ row : PersistedOrder, (row.fill (filledTotal .decimal28 order event) stored).id = row.id := fun _ => rfl
    rw [happlied.orders, Rows.lookup_update hids, hfound, Option.map_some, if_pos rfl]
  · obtain ⟨⟨p, hp, -, hmoved⟩, -⟩ := applyToPosition_moves Carries.decimal28 hs.draw hquantity hnext happlied.book
    rw [hlocked.account, hlocked.instrument]
    unfold Book.held at hmoved ⊢
    rw [hp]
    show p.quantity = _
    rw [hmoved]
    unfold signedQuantity
    cases event.side with
    | buy => rfl
    | sell => exact sub_eq_add_neg _ _
  · intro identity
    unfold Tables.recorded
    rw [happlied.fills, List.map_append, List.mem_append, List.mem_cons, or_comm]
    exact or_congr List.mem_singleton Iff.rfl

end Step

/-! ### Runs -/

/-- What a run of executions of one order leaves of it. -/
structure CountedOnce (t after : Tables) (order : PersistedOrder) (seen : List BrokerExecutionEvent) : Prop where
  filled : ∃ later, after.order? order.id = some later ∧
    later.filledQuantity = order.filledQuantity + (seen.map (·.quantity)).sum ∧
    later.aggregateVersion = order.aggregateVersion + seen.length
  held : after.book.held order.accountId order.instrumentId =
    t.book.held order.accountId order.instrumentId + (seen.map signedQuantity).sum

theorem fills_counted {hashes : AdoptionHashes} {t : Tables} {order : PersistedOrder} {events : List BrokerExecutionEvent}
    (hs : t.book.Sound (OnGrid 28 (-18))) (hfound : t.order? order.id = some order)
    (hof : ∀ event ∈ events, event.orderId = order.id)
    (hfits : RunMeets (step .decimal28 hashes) ExecutionFits t (events.map .fill)) :
    CountedOnce t (runFrom (step .decimal28 hashes) t (events.map .fill)) order
      (firstSeen t.recorded (delivered .decimal28 hashes t events)) := by
  induction events generalizing t order with
  | nil => exact ⟨⟨order, hfound, (add_zero _).symm, rfl⟩, (add_zero _).symm⟩
  | cons event events ih =>
    have hrest := fun other hother => hof other (List.mem_cons_of_mem event hother)
    obtain ⟨hfit, hfits⟩ := hfits
    rw [List.map_cons, runFrom_cons]
    unfold delivered
    dsimp only
    cases hperform : perform .decimal28 hashes t (.fill event) with
    | error e =>
      have hstep : step .decimal28 hashes t (.fill event) = t := by
        unfold step
        rw [hperform]
      rw [hstep] at hfits ⊢
      exact ih hs hfound hrest hfits
    | ok after =>
      rw [step_ok hperform] at hfits ⊢
      dsimp only
      obtain ⟨⟨after, result⟩, happly, rfl⟩ := map_ok hperform
      dsimp only at hfits ⊢
      unfold firstSeen
      rcases applyEventOnce_ok happly with ⟨-, existing, hexisting, hafter⟩ | ⟨-, anchors, owner, stored, happlied⟩
      · rw [if_pos (mem_recorded.mpr ⟨existing, hexisting⟩)]
        rcases hafter with rfl | rfl
        · exact ih hs hfound hrest hfits
        · obtain ⟨hfilled, hheld⟩ := ih (t := t.report _) hs hfound hrest hfits
          exact ⟨hfilled, hheld⟩
      · have hlocked := lockForFill_ok happlied.locked
        have howner : owner = order :=
          Option.some.inj (hlocked.found.symm.trans ((congrArg t.order? (hof event List.mem_cons_self)).trans hfound))
        subst howner
        obtain ⟨hsound, ⟨later, hlater, haccount, hinstrument, hfilled, hversion⟩, hheld, hrecorded⟩ :=
          happlied.counted hs hfit
        have hnew : event.identity ∉ t.recorded := by
          rw [mem_recorded, happlied.unrecorded]
          rintro ⟨existing, hexisting⟩
          cases hexisting
        have hid : later.id = owner.id := Rows.lookup_key hlater
        obtain ⟨⟨last, hlast, hsum, hcount⟩, hmoved⟩ :=
          ih hsound (hid.symm ▸ hlater) (fun other hother => (hrest other hother).trans hid.symm) hfits
        rw [if_neg hnew]
        rw [firstSeen_congr hrecorded] at hsum hcount hmoved
        refine ⟨⟨last, hid ▸ hlast, ?_, ?_⟩, ?_⟩
        · rw [hsum, hfilled, List.map_cons, List.sum_cons, add_assoc]
        · rw [hcount, hversion, List.length_cons]
          omega
        · rw [haccount, hinstrument] at hmoved
          rw [hmoved, hheld, List.map_cons, List.sum_cons, add_assoc]

/-- From a ledger that held nothing, after any history without rounding: executions of an order,
delivered in any order and again, count once for every execution id first seen, and a replay changes
nothing but, where it contradicts what was recorded, by one incident. -/
theorem fills_counted_once (hashes : AdoptionHashes) (start : Tables) (hnothing : NothingHeld start.book)
    (history : List LedgerEvent)
    (hhistory : RunMeets (step .decimal28 hashes) (FillCarried (OnGrid 28 (-18))) start history)
    (order : PersistedOrder) (hfound : (runFrom (step .decimal28 hashes) start history).order? order.id = some order)
    (events : List BrokerExecutionEvent) (hof : ∀ event ∈ events, event.orderId = order.id)
    (hfits : RunMeets (step .decimal28 hashes) ExecutionFits (runFrom (step .decimal28 hashes) start history)
      (events.map .fill)) :
    let t := runFrom (step .decimal28 hashes) start history
    CountedOnce t (runFrom (step .decimal28 hashes) t (events.map .fill)) order
        (firstSeen t.recorded (delivered .decimal28 hashes t events)) ∧
      RunMeets (step .decimal28 hashes)
        (fun t event => ReplayHarmless .decimal28 hashes t event ∧ ConflictReported .decimal28 hashes t event) t
        (events.map .fill) := by
  intro t
  have hsound : t.book.Sound (OnGrid 28 (-18)) := runFrom_sound Carries.decimal28 hnothing.sound hhistory
  exact ⟨fills_counted hsound hfound hof hfits,
    hfits.mono fun t event _ => ⟨replayHarmless .decimal28 hashes t event, conflictReported .decimal28 hashes t event⟩⟩

/-! ### A purchase that is delivered three times -/

private def purchase (quantity : ℚ) : Tables := sampleTables [sampleOrder .buy quantity] [sampleLink (rowUuid 3) "ACKNOWLEDGED"]

private def threeBought : BrokerExecutionEvent := sampleFill (rowUuid 3) "1" .buy 3 rat_three_pos

/-- The execution, the same again, and the same with another payload. -/
private def replayed : List BrokerExecutionEvent := [threeBought, threeBought, { threeBought with payloadHash := 1 }]

private theorem replayed_known : ∀ t : Tables, (t.fill? threeBought).isSome = true → ExecutionFits t (.fill threeBought) ∧
    ExecutionFits t (.fill { threeBought with payloadHash := 1 }) := by
  intro t hknown
  have hnot : t.fill? threeBought ≠ none := Option.isSome_iff_ne_none.mp hknown
  exact ⟨fun hnone => absurd hnone hnot, fun hnone => absurd hnone hnot⟩

theorem fills_counted_once_replayed :
    let seen := firstSeen (purchase 10).recorded (delivered .decimal28 noHashes (purchase 10) replayed)
    CountedOnce (purchase 10) (runFrom (step .decimal28 noHashes) (purchase 10) (replayed.map .fill))
      (sampleOrder .buy 10) seen ∧ seen.length = 1 := by
  have hthree : OnGrid 28 (-18) 3 := ⟨3 * 10 ^ 18, by norm_num, by norm_num⟩
  have hfirst : ExecutionFits (purchase 10) (.fill threeBought) := by
    refine fun _ => ⟨hthree, ?_, fun order horder => ?_⟩
    · exact (by norm_num [exactNext, Book.held, Book.position?, purchase, sampleTables, noTables, threeBought, sampleFill] :
        exactNext ((purchase 10).book.held threeBought.accountId threeBought.instrumentId) threeBought.side
          threeBought.quantity = 3) ▸ hthree
    · have hrow : sampleOrder .buy 10 = order := Option.some.inj horder
      rw [← hrow]
      exact (zero_add (3 : ℚ)).symm ▸ hthree
  have hreplays : RunMeets (step .decimal28 noHashes) ExecutionFits (purchase 10) (replayed.map .fill) :=
    ⟨hfirst, (replayed_known _ (by decide +kernel)).1, (replayed_known _ (by decide +kernel)).2, trivial⟩
  exact ⟨(fills_counted_once noHashes (purchase 10) ⟨rfl, rfl, rfl⟩ [] trivial (sampleOrder .buy 10) rfl replayed
    (by decide) hreplays).1, by decide +kernel⟩

theorem rat_large_pos : (0 : ℚ) < 10 ^ 11 := by norm_num

theorem rat_small_pos : (0 : ℚ) < 1 / 10 ^ 18 := by norm_num

private def largeAndSmall : List BrokerExecutionEvent :=
  [sampleFill (rowUuid 3) "1" .buy (10 ^ 11) rat_large_pos, sampleFill (rowUuid 3) "2" .buy (1 / 10 ^ 18) rat_small_pos]

/-- Rounded to twenty-eight digits, a very small execution is lost in the total. -/
theorem fills_not_counted_rounded :
    ¬ ∀ (hashes : AdoptionHashes) (t : Tables), NothingHeld t.book → ∀ (order : PersistedOrder),
      t.order? order.id = some order → ∀ events : List BrokerExecutionEvent, (∀ event ∈ events, event.orderId = order.id) →
      CountedOnce t (runFrom (step .decimal28 hashes) t (events.map .fill)) order
        (firstSeen t.recorded (delivered .decimal28 hashes t events)) := by
  intro h
  obtain ⟨⟨later, hlater, hsum, -⟩, -⟩ := h noHashes (purchase (10 ^ 12)) ⟨rfl, rfl, rfl⟩ (sampleOrder .buy (10 ^ 12)) rfl
    largeAndSmall (by decide)
  have hfilled : ((runFrom (step .decimal28 noHashes) (purchase (10 ^ 12)) (largeAndSmall.map .fill)).order?
      (sampleOrder .buy (10 ^ 12)).id).map (fun order => order.filledQuantity) = some (10 ^ 11) := by decide +kernel
  have hcounted : ((firstSeen (purchase (10 ^ 12)).recorded
      (delivered .decimal28 noHashes (purchase (10 ^ 12)) largeAndSmall)).map (·.quantity)).sum = 10 ^ 11 + 1 / 10 ^ 18 := by
    decide +kernel
  rw [hlater, Option.map_some, hsum, hcounted] at hfilled
  revert hfilled
  decide +kernel

end AutoTrader.Ledger
