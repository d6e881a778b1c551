import AutoTrader.Ledger.OrderFills

/-! Runs of executions of one order: the totals they lead to, and which incidents they open. -/

namespace AutoTrader.Ledger

open AutoTrader.Dispatch AutoTrader.Domain AutoTrader.Execution AutoTrader.Numeric AutoTrader.Runtime

variable {hashes : AdoptionHashes}

/-- Under which an execution is recorded once. -/
def BrokerExecutionEvent.identity (event : BrokerExecutionEvent) : UUID × UUID × String :=
  (event.brokerId, event.accountId, event.brokerExecutionId)

/-- What is held after executions. -/
def heldAfter (held : ℚ) (fills : List BrokerExecutionEvent) : ℚ :=
  fills.foldl (fun held event => exactNext held event.side event.quantity) held

/-- The risk each execution opens. -/
def openedRisks : ℚ → List BrokerExecutionEvent → List ℚ
  | _, [] => []
  | held, event :: fills =>
    event.price * openedAmount event.side held event.quantity ::
      openedRisks (exactNext held event.side event.quantity) fills

theorem openedRisks_nonneg {held : ℚ} {fills : List BrokerExecutionEvent} : 0 ≤ (openedRisks held fills).sum := by
  induction fills generalizing held with
  | nil => exact le_rfl
  | cons event fills ih =>
    have hpos : 0 ≤ event.price * openedAmount event.side held event.quantity :=
      mul_nonneg event.terms.2.le (openedAmount_nonneg event.terms.1.le)
    exact add_nonneg hpos ih

theorem openedRisks_append (held : ℚ) (xs ys : List BrokerExecutionEvent) :
    (openedRisks held (xs ++ ys)).sum = (openedRisks held xs).sum + (openedRisks (heldAfter held xs) ys).sum := by
  induction xs generalizing held with
  | nil => exact (zero_add _).symm
  | cons event xs ih =>
    simp only [List.cons_append, openedRisks, List.sum_cons, ih, heldAfter, List.foldl_cons, add_assoc]

/-- New executions of an order, each with an identity of its own. -/
structure FillsOf (t : Tables) (order : PersistedOrder) (currency : String) (fills : List BrokerExecutionEvent) :
    Prop where
  belong : ∀ event ∈ fills, FillOf t order currency event
  unrecorded : ∀ event ∈ fills, t.fill? event = none
  distinct : (fills.map BrokerExecutionEvent.identity).Nodup

/-- The transaction of an event raises nothing. -/
def Accepted (hashes : AdoptionHashes) (t : Tables) (event : LedgerEvent) : Prop :=
  ∃ after, perform .decimal28 hashes t event = .ok after

/-- What executions of an order leave, and the incidents they open. -/
structure FillRun (t after : Tables) (order later : PersistedOrder) (fills : List BrokerExecutionEvent)
    (new : List OpsIncident) : Prop where
  terms : later = { order with
    filledQuantity := order.filledQuantity + (fills.map (·.quantity)).sum
    status := later.status
    aggregateVersion := later.aggregateVersion }
  idle : fills = [] → later.status = order.status
  status : fills ≠ [] → later.status = filledStatus order.requestedQuantity later.filledQuantity
  links : after.links = t.links
  statusEvents : after.statusEvents = t.statusEvents
  statusMarks : after.statusMarks = t.statusMarks
  unrecorded : ∀ event, t.fill? event = none → (∀ f ∈ fills, f.identity ≠ event.identity) → after.fill? event = none
  held : after.book.held order.accountId order.instrumentId =
    heldAfter (t.book.held order.accountId order.instrumentId) fills
  unreserved : t.reservation? order.riskDecisionId = none → after.reservation? order.riskDecisionId = none ∧
    ¬Reports new "FILL_RISK_EXCEEDS_RESERVATION" ∧ ¬Reports new "LATE_FILL_AFTER_RESERVATION_RELEASE"
  reserved : ∀ r, t.reservation? order.riskDecisionId = some r →
    ∃ r', after.reservation? order.riskDecisionId = some r' ∧
      Drained r r' (openedRisks (t.book.held order.accountId order.instrumentId) fills).sum ∧
      (Reports new "FILL_RISK_EXCEEDS_RESERVATION" ↔
        r.pool < (openedRisks (t.book.held order.accountId order.instrumentId) fills).sum) ∧
      (Reports new "LATE_FILL_AFTER_RESERVATION_RELEASE" ↔
        0 < min (openedRisks (t.book.held order.accountId order.instrumentId) fills).sum r.releasedRiskAmount)
  incidents : after.incidents = t.incidents ++ new
  blocking : ∀ incident ∈ new, incident.severity = .blocking ∧ incident.isOpen = true
  overfill : order.filledQuantity + (fills.map (·.quantity)).sum ≤ order.requestedQuantity →
    ∀ incident ∈ new, incident.reasonCode = "FILL_RISK_EXCEEDS_RESERVATION" ∨
      incident.reasonCode = "LATE_FILL_AFTER_RESERVATION_RELEASE"

section Run

variable {t : Tables} {order : PersistedOrder} {currency : String} {event : BrokerExecutionEvent}
  {fills : List BrokerExecutionEvent}

theorem fill?_eq_none {t : Tables} {event : BrokerExecutionEvent} :
    t.fill? event = none ↔ ∀ row ∈ t.fills,
      ¬(row.brokerId = event.brokerId ∧ row.accountId = event.accountId ∧
        row.brokerExecutionId = event.brokerExecutionId) := by
  unfold Tables.fill?
  simp [List.find?_eq_none]

/-- An execution leaves the others unrecorded. -/
theorem Filled.unrecorded {after : Tables} (h : Filled t after order event) {other : BrokerExecutionEvent}
    (hnew : t.fill? other = none) (hne : event.identity ≠ other.identity) : after.fill? other = none := by
  obtain ⟨row, hfills, hbroker, haccount, hexecution⟩ := h.fills
  rw [fill?_eq_none] at hnew ⊢
  rw [hfills]
  intro old hold hsame
  rcases List.mem_append.mp hold with hold | hold
  · exact hnew old hold hsame
  · rw [List.mem_singleton.mp hold, hbroker, haccount, hexecution] at hsame
    obtain ⟨h₁, h₂, h₃⟩ := hsame
    apply hne
    unfold BrokerExecutionEvent.identity
    rw [h₁, h₂, h₃]

/-- The executions that are left are still new, of the same order. -/
theorem FillsOf.rest {after : Tables} (h : FillsOf t order currency (event :: fills))
    (hfilled : Filled t after order event) {later : PersistedOrder} (hid : later.id = order.id)
    (haccount : later.accountId = order.accountId) (hinstrument : later.instrumentId = order.instrumentId)
    (hside : later.side = order.side) : FillsOf after later currency fills := by
  obtain ⟨hbelong, hunrecorded, hdistinct⟩ := h
  rw [List.map_cons, List.nodup_cons] at hdistinct
  refine ⟨fun other hother => ?_, fun other hother => ?_, hdistinct.2⟩
  · have hof := hbelong other (List.mem_cons_of_mem event hother)
    refine ⟨hid ▸ hof.orderId, haccount.trans hof.account, hinstrument.trans hof.instrument, hside.trans hof.side,
      hof.currency, ?_⟩
    unfold Tables.linksOf
    rw [hfilled.links, hid]
    exact hof.linked
  · refine hfilled.unrecorded (hunrecorded other (List.mem_cons_of_mem event hother)) fun hsame => hdistinct.1 ?_
    rw [hsame]
    exact List.mem_map_of_mem hother

/-- The reservation of an order accounts for its amounts. -/
def Conserving (t : Tables) (order : PersistedOrder) : Prop :=
  ∀ r, t.reservation? order.riskDecisionId = some r → r.Conserved

theorem Ready.conserving (h : Ready t order currency) : Conserving t order :=
  fun r hr => (h.budgeted r hr).1.conserved

theorem PersistedRiskReservation.Conserved.pool_nonneg {r : PersistedRiskReservation} (h : r.Conserved) :
    0 ≤ r.pool :=
  add_nonneg h.released h.remaining

theorem Drained.refl {r : PersistedRiskReservation} (h : r.Conserved) : Drained r r 0 where
  consumed := by rw [min_eq_left h.pool_nonneg, add_zero]
  pool := by rw [min_eq_left h.pool_nonneg, sub_zero]
  released := by rw [min_eq_left h.released, sub_zero]

theorem FillRun.nil (hconserving : Conserving t order) : FillRun t t order order [] [] where
  terms := by simp
  idle := fun _ => rfl
  status := fun h => absurd rfl h
  links := rfl
  statusEvents := rfl
  statusMarks := rfl
  unrecorded := fun _ h _ => h
  held := rfl
  unreserved := fun h => ⟨h, by simp [Reports], by simp [Reports]⟩
  reserved := by
    intro r hr
    have hconserved := hconserving r hr
    refine ⟨r, hr, Drained.refl hconserved, iff_of_false (by simp [Reports]) ?_, iff_of_false (by simp [Reports]) ?_⟩
    · exact not_lt.mpr hconserved.pool_nonneg
    · exact not_lt.mpr (min_le_left _ _)
  incidents := (List.append_nil _).symm
  blocking := fun _ h => absurd h List.not_mem_nil
  overfill := fun _ _ h => absurd h List.not_mem_nil

/-- What an overfill reports is none of the two. -/
theorem overfill_reports {total : ℚ} {observedAt : Instant} :
    ¬Reports (overfillIncidents order total observedAt) "FILL_RISK_EXCEEDS_RESERVATION" ∧
      ¬Reports (overfillIncidents order total observedAt) "LATE_FILL_AFTER_RESERVATION_RELEASE" := by
  constructor
  · rintro ⟨incident, hmem, hcode⟩
    rw [(overfill_incident hmem).2.1] at hcode
    exact absurd hcode (by decide)
  · rintro ⟨incident, hmem, hcode⟩
    rw [(overfill_incident hmem).2.1] at hcode
    exact absurd hcode (by decide)

/-- What the charge of one execution reports. -/
theorem charge_reports {r : PersistedRiskReservation} {orderId : UUID} {previous : ℚ} {observedAt : Instant}
    (hr : r.Conserved) :
    (Reports (consumptionIncidents .exact orderId (charge .exact r event previous) observedAt)
        "FILL_RISK_EXCEEDS_RESERVATION" ↔
      r.pool < event.price * openedAmount event.side previous event.quantity) ∧
    (Reports (consumptionIncidents .exact orderId (charge .exact r event previous) observedAt)
        "LATE_FILL_AFTER_RESERVATION_RELEASE" ↔
      0 < min (event.price * openedAmount event.side previous event.quantity) r.releasedRiskAmount) := by
  have hpos : 0 ≤ event.price * openedAmount event.side previous event.quantity :=
    mul_nonneg event.terms.2.le (openedAmount_nonneg event.terms.1.le)
  obtain ⟨hexceeds, hlate⟩ := consumption_reports orderId (charge .exact r event previous) observedAt
  constructor
  · rw [hexceeds, charge_consumed hr, charge_attributable, min_lt_iff]
    simp
  · rw [hlate, charge_reclaimed]
    exact (le_min hpos hr.released).lt_iff_ne'.symm

theorem chargeIncidents_mem {incident : OpsIncident} (h : incident ∈ chargeIncidents t order event) :
    (incident.severity = .blocking ∧ incident.isOpen = true) ∧
      (incident.reasonCode = "FILL_RISK_EXCEEDS_RESERVATION" ∨
        incident.reasonCode = "LATE_FILL_AFTER_RESERVATION_RELEASE") := by
  unfold chargeIncidents at h
  split at h
  · cases h
  · exact consumption_incident h

/-- A pool is exceeded by a first charge, or by the rest of them. -/
theorem exceeds_either {pool a b : ℚ} (hb : 0 ≤ b) :
    pool < a ∨ pool - min a pool < b ↔ pool < a + b := by
  rcases le_or_gt a pool with h | h
  · rw [min_eq_left h]
    exact ⟨fun h' => h'.elim (fun h' => absurd h (not_le.mpr h')) fun h' => by linarith, fun h' => .inr (by linarith)⟩
  · exact ⟨fun _ => by linarith, fun _ => .inl h⟩

/-- Something is reclaimed by a first charge, or by the rest of them. -/
theorem reclaims_either {a b released : ℚ} (ha : 0 ≤ a) (hb : 0 ≤ b) (hreleased : 0 ≤ released) :
    0 < min a released ∨ 0 < min b (released - min a released) ↔ 0 < min (a + b) released := by
  simp only [lt_min_iff]
  rcases eq_or_lt_of_le ha with rfl | ha
  · rw [min_eq_left hreleased]
    simp
  · rcases eq_or_lt_of_le hreleased with rfl | hreleased
    · rw [min_eq_right ha.le]
      simp
    · exact ⟨fun _ => ⟨by linarith, hreleased⟩, fun _ => .inl ⟨ha, hreleased⟩⟩

/-- One execution before a run of others. -/
theorem FillRun.cons {after final : Tables} {later : PersistedOrder} {new : List OpsIncident}
    (hconserving : Conserving t order) (hof : FillOf t order currency event) (hfilled : Filled t after order event)
    (hrun : FillRun after final
      (order.fill (order.filledQuantity + event.quantity) (order.filledQuantity + event.quantity)) later fills new) :
    FillRun t final order later (event :: fills)
      (overfillIncidents order (order.filledQuantity + event.quantity) event.observedAt ++
        chargeIncidents t order event ++ new) := by
  have hheld := hfilled.held
  have hreservation := hfilled.reservation
  rw [← hof.account, ← hof.instrument] at hheld hreservation
  have hrisks : (openedRisks (t.book.held order.accountId order.instrumentId) (event :: fills)).sum =
      event.price * openedAmount event.side (t.book.held order.accountId order.instrumentId) event.quantity +
        (openedRisks (after.book.held order.accountId order.instrumentId) fills).sum := by
    rw [hheld]
    rfl
  have hrest : 0 ≤ (openedRisks (after.book.held order.accountId order.instrumentId) fills).sum := openedRisks_nonneg
  have hpos : 0 ≤ event.price * openedAmount event.side (t.book.held order.accountId order.instrumentId)
      event.quantity := mul_nonneg event.terms.2.le (openedAmount_nonneg event.terms.1.le)
  have hnever := @overfill_reports order (order.filledQuantity + event.quantity) event.observedAt
  have hreports : ∀ reasonCode,
      ¬Reports (overfillIncidents order (order.filledQuantity + event.quantity) event.observedAt) reasonCode →
      (Reports (overfillIncidents order (order.filledQuantity + event.quantity) event.observedAt ++
        chargeIncidents t order event ++ new) reasonCode ↔
          Reports (chargeIncidents t order event) reasonCode ∨ Reports new reasonCode) := by
    intro reasonCode hnot
    rw [reports_append, reports_append]
    simp only [hnot, false_or]
  refine
    { terms := ?_
      idle := fun h => absurd h (List.cons_ne_nil _ _)
      status := fun _ => ?_
      links := hrun.links.trans hfilled.links
      statusEvents := hrun.statusEvents.trans hfilled.statusEvents
      statusMarks := hrun.statusMarks.trans hfilled.statusMarks
      unrecorded := fun other hnew hothers => ?_
      held := ?_
      unreserved := fun hnone => ?_
      reserved := fun r hr => ?_
      incidents := ?_
      blocking := fun incident hmem => ?_
      overfill := fun hle incident hmem => ?_ }
  · rw [hrun.terms]
    simp only [PersistedOrder.fill, List.map_cons, List.sum_cons, add_assoc]
  · cases fills with
    | nil =>
      have hterms := hrun.terms
      rw [hrun.idle rfl, hterms]
      simp [PersistedOrder.fill]
    | cons next rest => exact hrun.status (List.cons_ne_nil _ _)
  · refine hrun.unrecorded other (hfilled.unrecorded hnew (hothers event List.mem_cons_self)) fun f hf => ?_
    exact hothers f (List.mem_cons_of_mem event hf)
  · have hrunHeld := hrun.held
    change final.book.held order.accountId order.instrumentId = _ at hrunHeld
    change final.book.held order.accountId order.instrumentId =
      heldAfter (exactNext (t.book.held order.accountId order.instrumentId) event.side event.quantity) fills
    rw [hrunHeld, ← hheld]
    rfl
  · rw [hnone] at hreservation
    obtain ⟨hfinal, hexceeds, hlate⟩ := hrun.unreserved hreservation
    have hcharge : chargeIncidents t order event = [] := by
      unfold chargeIncidents
      rw [hnone]
    rw [hreports _ hnever.1, hreports _ hnever.2, hcharge]
    exact ⟨hfinal, by simpa [Reports] using hexceeds, by simpa [Reports] using hlate⟩
  · have hconserved := hconserving r hr
    rw [hr, Option.map_some] at hreservation
    obtain ⟨r', hfinal, hdrained, hexceeds, hlate⟩ := hrun.reserved _ hreservation
    have hcharge : chargeIncidents t order event = consumptionIncidents .exact order.id
        (charge .exact r event (t.book.held order.accountId order.instrumentId)) event.observedAt := by
      unfold chargeIncidents
      rw [hr, hof.account, hof.instrument]
    have hfirst : Drained r (r.consume .exact
        (charge .exact r event (t.book.held order.accountId order.instrumentId)))
        (event.price * openedAmount event.side (t.book.held order.accountId order.instrumentId) event.quantity) :=
      charge_drained hconserved
    have hcode := @charge_reports event r order.id (t.book.held order.accountId order.instrumentId) event.observedAt
      hconserved
    refine ⟨r', hfinal, ?_, ?_, ?_⟩
    · rw [hrisks]
      exact hfirst.trans hrest hdrained
    · rw [hreports _ hnever.1, hexceeds, hcharge, hcode.1, hfirst.pool, hrisks]
      exact exceeds_either hrest
    · rw [hreports _ hnever.2, hlate, hcharge, hcode.2, hfirst.released, hrisks]
      exact reclaims_either hpos hrest hconserved.released
  · rw [hrun.incidents, hfilled.incidents]
    simp only [List.append_assoc]
  · rcases List.mem_append.mp hmem with hmem | hmem
    · rcases List.mem_append.mp hmem with hmem | hmem
      · exact (overfill_incident hmem).1
      · exact (chargeIncidents_mem hmem).1
    · exact hrun.blocking incident hmem
  · have hrestQuantity : 0 ≤ (fills.map (·.quantity)).sum :=
      List.sum_nonneg fun q hq => by
        obtain ⟨f, -, rfl⟩ := List.mem_map.mp hq
        exact f.terms.1.le
    rw [List.map_cons, List.sum_cons] at hle
    rcases List.mem_append.mp hmem with hmem | hmem
    · rcases List.mem_append.mp hmem with hmem | hmem
      · have hover := (overfill_incident hmem).2.2
        linarith
      · exact (chargeIncidents_mem hmem).2
    · refine hrun.overfill ?_ incident hmem
      show order.filledQuantity + event.quantity + (fills.map (·.quantity)).sum ≤ order.requestedQuantity
      linarith

/-- New executions of a ready order all go through. -/
theorem fills_run (hready : Ready t order currency) (hfills : FillsOf t order currency fills)
    (hfits : RunMeets (step .decimal28 hashes) FillFits t (fills.map .fill)) :
    RunMeets (step .decimal28 hashes) (Accepted hashes) t (fills.map .fill) ∧
      ∃ later new, FillRun t (runFrom (step .decimal28 hashes) t (fills.map .fill)) order later fills new ∧
        Ready (runFrom (step .decimal28 hashes) t (fills.map .fill)) later currency := by
  induction fills generalizing t order with
  | nil => exact ⟨trivial, order, [], FillRun.nil hready.conserving, hready⟩
  | cons event fills ih =>
    have hof := hfills.belong event List.mem_cons_self
    obtain ⟨after, hperform, hfilled, hafter⟩ :=
      hready.fill hof (hfills.unrecorded event List.mem_cons_self) hfits.1
    have hstep : step .decimal28 hashes t (.fill event) = after := step_ok hperform
    have hrest := hfits.2
    rw [hstep] at hrest
    obtain ⟨haccepted, later, new, hrun, hlater⟩ := ih hafter (hfills.rest hfilled rfl rfl rfl rfl) hrest
    rw [List.map_cons, runFrom_cons, hstep]
    refine ⟨⟨⟨after, hperform⟩, ?_⟩, later, _, FillRun.cons hready.conserving hof hfilled hrun, hlater⟩
    rw [hstep]
    exact haccepted

end Run

/-- The sample order is ready, with any amount reserved. -/
theorem sampleReserved_ready {side : Side} {quantity amount : ℚ} (hamount : OnGrid 28 (-18) amount)
    (hpos : 0 ≤ amount) : Ready (sampleReserved (sampleOrder side quantity) amount) (sampleOrder side quantity) "USD" where
  found := rfl
  book := NothingHeld.sound ⟨rfl, rfl, rfl⟩
  costs := fun _ h => absurd h List.not_mem_nil
  locked := ⟨_, rfl⟩
  budgeted := by
    intro r hr
    have hr : sampleReservation amount = r := Option.some.inj hr
    rw [← hr]
    refine ⟨⟨⟨?_, le_rfl, hpos, le_rfl⟩, hamount, onGrid_zero, hamount, onGrid_zero⟩, fun a ha _ => ?_⟩
    · simp [sampleReservation]
    · rcases List.mem_cons.mp ha with rfl | ha
      · exact ⟨hamount, le_rfl, le_rfl⟩
      · rw [List.mem_singleton.mp ha]
        exact ⟨hamount, le_rfl, le_rfl⟩

end AutoTrader.Ledger
