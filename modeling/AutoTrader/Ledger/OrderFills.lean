import AutoTrader.Ledger.FillProgress

/-! The executions of one order, one after the other. Each goes through, and what they leave of
order, reservation and incidents is what their exact amounts say. -/

namespace AutoTrader.Ledger

open AutoTrader.Dispatch AutoTrader.Domain AutoTrader.Execution AutoTrader.Numeric AutoTrader.Runtime

variable {hashes : AdoptionHashes}

/-! ### Anchors -/

/-- Rows written under their own keys are found where they were. -/
theorem lookup_rewritten {anchors : List RiskBudgetAnchor} {k other : AnchorScope × String} {new : RiskBudgetAnchor}
    (hkey : new.key = k) :
    (Rows.lookup RiskBudgetAnchor.key (Rows.update RiskBudgetAnchor.key anchors k fun _ => new) other).isSome =
      (Rows.lookup RiskBudgetAnchor.key anchors other).isSome := by
  unfold Rows.lookup
  rw [Rows.find?_update, Option.isSome_map]
  intro row _ hrow
  rw [hkey, hrow]

theorem lock_rewritten {anchors written : List RiskBudgetAnchor} {accountId : UUID} {currency : String}
    {locked : RiskBudgetAnchor × RiskBudgetAnchor} {change : RiskBudgetAnchor → RiskBudgetAnchor}
    {arith : Arithmetic} (hkey : ∀ a, (change a).key = a.key)
    (hlocked : lockGlobalAndAccount anchors accountId currency = some locked)
    (h : writeAnchors arith anchors locked change = .ok written) :
    ∃ pair, lockGlobalAndAccount written accountId currency = some pair := by
  obtain ⟨globalAnchor, hglobal, h⟩ := bind_ok.mp h
  obtain ⟨accountAnchor, haccount, h⟩ := bind_ok.mp h
  have hglobalKey : globalAnchor.key = locked.1.key := (RiskBudgetAnchor.store_ok hglobal).2.2.1.trans (hkey _)
  have haccountKey : accountAnchor.key = locked.2.key := (RiskBudgetAnchor.store_ok haccount).2.2.1.trans (hkey _)
  have hsome : ∀ k, (Rows.lookup RiskBudgetAnchor.key written k).isSome =
      (Rows.lookup RiskBudgetAnchor.key anchors k).isSome := by
    intro k
    rw [← Except.ok.inj h, lookup_rewritten haccountKey, lookup_rewritten hglobalKey]
  obtain ⟨first, hfirst, hrest⟩ := Option.bind_eq_some_iff.mp hlocked
  obtain ⟨second, hsecond, -⟩ := Option.bind_eq_some_iff.mp hrest
  have hfirst' := hsome (.global, currency)
  have hsecond' := hsome (.account accountId, currency)
  rw [hfirst] at hfirst'
  rw [hsecond] at hsecond'
  obtain ⟨newFirst, hnewFirst⟩ := Option.isSome_iff_exists.mp hfirst'
  obtain ⟨newSecond, hnewSecond⟩ := Option.isSome_iff_exists.mp hsecond'
  refine ⟨(newFirst, newSecond), ?_⟩
  unfold lockGlobalAndAccount
  rw [hnewFirst, hnewSecond]
  rfl

/-! ### One execution -/

/-- The anchors of an account hold what is left in the reservation of a decision. -/
def Budgeted (t : Tables) (riskDecisionId accountId : UUID) (currency : String) : Prop :=
  ∀ r, t.reservation? riskDecisionId = some r → r.Exact ∧
    ∀ a ∈ t.anchors, a.charged accountId currency → OnGrid 28 (-18) a.remainingReservationAmount ∧
      r.remainingRiskAmount ≤ a.remainingReservationAmount ∧ 0 ≤ a.positionRiskAmount

/-- An order that can take executions in a currency. -/
structure Ready (t : Tables) (order : PersistedOrder) (currency : String) : Prop where
  found : t.order? order.id = some order
  book : t.book.Sound (OnGrid 28 (-18))
  costs : ∀ p ∈ t.book.positions, CostBounded p.averageCost
  locked : ∃ pair, lockGlobalAndAccount t.anchors order.accountId currency = some pair
  budgeted : Budgeted t order.riskDecisionId order.accountId currency

/-- An execution of an order, at a broker order linked to it. -/
structure FillOf (t : Tables) (order : PersistedOrder) (currency : String) (event : BrokerExecutionEvent) : Prop where
  orderId : event.orderId = order.id
  account : order.accountId = event.accountId
  instrument : order.instrumentId = event.instrumentId
  side : order.side = event.side
  currency : event.currency = currency
  linked : (t.linksOf order.id).any (·.brokerOrderId = event.brokerOrderId) = true

/-- The amounts of an execution fit twenty-eight digits and eighteen decimals, and so do the
amounts it leads to. -/
def FillFits (t : Tables) : LedgerEvent → Prop
  | .fill event => RiskCarried t (.fill event) ∧
      ∀ order, t.order? event.orderId = some order → OnGrid 28 (-18) (order.filledQuantity + event.quantity)
  | _ => True

/-- What the charge of an execution reports. -/
def chargeIncidents (t : Tables) (order : PersistedOrder) (event : BrokerExecutionEvent) : List OpsIncident :=
  match t.reservation? order.riskDecisionId with
  | none => []
  | some r => consumptionIncidents .exact order.id
      (charge .exact r event (t.book.held event.accountId event.instrumentId)) event.observedAt

/-- What an execution of an order leaves. -/
structure Filled (t after : Tables) (order : PersistedOrder) (event : BrokerExecutionEvent) : Prop where
  orders : after.orders = Rows.update PersistedOrder.id t.orders order.id
    (·.fill (order.filledQuantity + event.quantity) (order.filledQuantity + event.quantity))
  links : after.links = t.links
  statusEvents : after.statusEvents = t.statusEvents
  statusMarks : after.statusMarks = t.statusMarks
  fills : ∃ row, after.fills = t.fills ++ [row] ∧ row.brokerId = event.brokerId ∧
    row.accountId = event.accountId ∧ row.brokerExecutionId = event.brokerExecutionId
  held : after.book.held event.accountId event.instrumentId =
    exactNext (t.book.held event.accountId event.instrumentId) event.side event.quantity
  reservation : after.reservation? order.riskDecisionId = (t.reservation? order.riskDecisionId).map fun r =>
    r.consume .exact (charge .exact r event (t.book.held event.accountId event.instrumentId))
  incidents : after.incidents = t.incidents ++
    overfillIncidents order (order.filledQuantity + event.quantity) event.observedAt ++ chargeIncidents t order event

section Step

variable {t : Tables} {order : PersistedOrder} {currency : String} {event : BrokerExecutionEvent}

/-- The reservation and the anchors take the charge of an execution. -/
theorem consumeReservation_exists (hready : Ready t order currency) (hof : FillOf t order currency event)
    (hnext : OnGrid 28 (-18) (exactNext (t.book.held event.accountId event.instrumentId) event.side event.quantity))
    (hrisk : OnGrid 28 (-18) (openedRisk t event))
    (hanchors : ∀ a ∈ t.anchors, a.charged event.accountId event.currency →
      OnGrid 28 (-18) (a.positionRiskAmount + openedRisk t event))
    {pair : RiskBudgetAnchor × RiskBudgetAnchor}
    (hpair : lockGlobalAndAccount t.anchors event.accountId event.currency = some pair) {middle : Tables}
    (hreservations : middle.reservations = t.reservations) (hmiddle : middle.anchors = t.anchors) :
    ∃ after, consumeReservation .decimal28 middle pair order event
      (t.book.held event.accountId event.instrumentId) = .ok after := by
  have hlookup : middle.reservation? order.riskDecisionId = t.reservation? order.riskDecisionId := by
    unfold Tables.reservation?
    rw [hreservations]
  unfold consumeReservation
  rw [hlookup, hmiddle]
  cases hfound : t.reservation? order.riskDecisionId with
  | none => exact ⟨_, rfl⟩
  | some r =>
    obtain ⟨hr, hroom⟩ := hready.budgeted r hfound
    have htaken := charge_taken hr hrisk
    have hcharge : consumption .decimal28 r event.price
        (riskIncreaseQuantity .decimal28 event (t.book.held event.accountId event.instrumentId)) =
          charge .exact r event (t.book.held event.accountId event.instrumentId) := charge_exact hr hnext hrisk
    have hpos : 0 ≤ openedRisk t event := mul_nonneg event.terms.2.le (openedAmount_nonneg event.terms.1.le)
    obtain ⟨⟨hglobal, -⟩, haccount, -⟩ := lockGlobalAndAccount_ok hpair
    have hwrite : ∀ a ∈ t.anchors, a.charged event.accountId event.currency →
        (a.consume .decimal28 (charge .exact r event (t.book.held event.accountId event.instrumentId))).store
          .decimal28 = .ok (a.consume .exact
            (charge .exact r event (t.book.held event.accountId event.instrumentId))) := by
      intro a ha hcharged
      obtain ⟨hremaining, hcovers, hposition⟩ := hroom a ha (by
        rw [hof.account, ← hof.currency]
        exact hcharged)
      have hattributable : (charge .exact r event (t.book.held event.accountId event.instrumentId)).attributable =
          openedRisk t event := charge_attributable
      refine htaken.anchor hremaining hcovers ?_ ?_
      · rw [hattributable]
        exact hanchors a ha hcharged
      · rw [hattributable]
        exact add_nonneg hposition hpos
    have hcharged := charged_iff_locked hpair
    dsimp only
    rw [hcharge]
    exact ⟨_, bind_ok.mpr ⟨_, (htaken.stored hr).1, bind_ok.mpr ⟨_, bind_ok.mpr ⟨_,
      hwrite pair.1 hglobal ((hcharged _).mpr (.inl rfl)), bind_ok.mpr ⟨_,
        hwrite pair.2 haccount ((hcharged _).mpr (.inr rfl)), rfl⟩⟩, rfl⟩⟩⟩

/-- A new execution of a ready order is applied. -/
theorem applyEventOnce_exists (hready : Ready t order currency) (hof : FillOf t order currency event)
    (hnew : t.fill? event = none) (hfits : FillFits t (.fill event)) :
    ∃ after result anchors, applyEventOnce .decimal28 t event = .ok (after, result) ∧
      Applied .decimal28 t after anchors order (order.filledQuantity + event.quantity) event := by
  obtain ⟨hcarried, htotal⟩ := hfits
  obtain ⟨hquantity, hprice, hnext, hrisk, hanchors⟩ := hcarried hnew
  have hfound : t.order? event.orderId = some order := by
    rw [hof.orderId]
    exact hready.found
  have htotal := htotal order hfound
  obtain ⟨pair, hpair⟩ := hready.locked
  rw [hof.account, ← hof.currency] at hpair
  have hlock : lockForFill t event = .ok (pair, order) := by
    unfold lockForFill
    rw [hpair, hfound]
    dsimp only
    rw [if_neg (by simp [hof.account, hof.instrument, hof.side]), if_pos hof.linked]
  have hpersist : persistOnce .decimal28 t event = .ok ({ t with
      fills := t.fills ++ [fillRow .decimal28 t.book.drawn event]
      book := { t.book with drawn := t.book.drawn + 1 } }, fillRow .decimal28 t.book.drawn event, .inserted) := by
    have hchecks : 0 < (fillRow .decimal28 t.book.drawn event).quantity ∧
        0 < (fillRow .decimal28 t.book.drawn event).price := by
      show 0 < Arithmetic.decimal28.clamp event.quantity ∧ 0 < Arithmetic.decimal28.clamp event.price
      rw [clamp_decimal28 hquantity, clamp_decimal28 hprice]
      exact event.terms
    unfold persistOnce
    rw [hnew]
    dsimp only
    rw [if_pos hchecks]
  have hfilledTotal : filledTotal .decimal28 order event = order.filledQuantity + event.quantity :=
    Carries.decimal28.fix _ htotal
  have hstored : Arithmetic.decimal28.store (filledTotal .decimal28 order event) =
      .ok (order.filledQuantity + event.quantity) := by
    rw [hfilledTotal]
    exact Carries.decimal28.store _ htotal
  obtain ⟨book, hbook, -⟩ :=
    applyToPosition_exists t.book.drawn hready.book.draw hready.costs hprice hquantity hnext
  set recorded : Tables :=
    { t with
      fills := t.fills ++ [fillRow .decimal28 t.book.drawn event]
      book := { t.book with drawn := t.book.drawn + 1 } } with hrecorded
  set filled : Tables :=
    { recorded.updateOrder order.id (·.fill (filledTotal .decimal28 order event)
        (order.filledQuantity + event.quantity)) with
      incidents := recorded.incidents ++
        overfillIncidents order (filledTotal .decimal28 order event) event.observedAt } with hfilled
  have hconsumed : ∃ after, consumeReservation .decimal28 { advanceStream filled event with book := book } pair order
      event (t.book.held event.accountId event.instrumentId) = .ok after := by
    rw [advanceStream_eq]
    exact consumeReservation_exists hready hof hnext hrisk hanchors hpair rfl rfl
  obtain ⟨after, hafter⟩ := hconsumed
  have hfillOrder : fillOrder .decimal28 recorded order event = .ok filled := bind_ok.mpr ⟨_, hstored, rfl⟩
  have hposition : applyToPosition .decimal28 (advanceStream filled event).book
      (fillRow .decimal28 t.book.drawn event).id event = .ok book := by
    rw [advanceStream_eq]
    exact hbook
  have hheld : (advanceStream filled event).book.held event.accountId event.instrumentId =
      t.book.held event.accountId event.instrumentId := by
    rw [advanceStream_eq]
    rfl
  have happly : ∃ result final, applyEventOnce .decimal28 t event = .ok (final, some result) := by
    unfold applyEventOnce
    rw [hlock, ok_bind]
    dsimp only
    rw [hpersist, ok_bind]
    dsimp only
    rw [if_neg (by decide), hfillOrder, ok_bind]
    rw [hposition, ok_bind, hheld, hafter]
    exact ⟨_, _, rfl⟩
  obtain ⟨result, final, happly⟩ := happly
  rcases applyEventOnce_ok happly with ⟨hnone, -⟩ | ⟨-, anchors, found, stored, happlied⟩
  · cases hnone
  · have hsame := happlied.locked
    rw [hlock] at hsame
    obtain ⟨rfl, rfl⟩ := Prod.mk.inj (Except.ok.inj hsame)
    have hsameStored := happlied.total
    rw [hstored] at hsameStored
    rw [← Except.ok.inj hsameStored] at happlied
    exact ⟨final, some result, _, happly, happlied⟩

/-- A charged reservation is found under its decision. -/
theorem reservation_rewritten {reservations : List PersistedRiskReservation} {d : UUID}
    {r stored : PersistedRiskReservation}
    (hfound : Rows.lookup PersistedRiskReservation.riskDecisionId reservations d = some r)
    (hkey : stored.riskDecisionId = d) :
    Rows.lookup PersistedRiskReservation.riskDecisionId
      (Rows.update PersistedRiskReservation.riskDecisionId reservations d fun _ => stored) d = some stored := by
  have hfind : Rows.lookup PersistedRiskReservation.riskDecisionId
      (Rows.update PersistedRiskReservation.riskDecisionId reservations d fun _ => stored) d =
        (Rows.lookup PersistedRiskReservation.riskDecisionId reservations d).map fun row =>
          if row.riskDecisionId = d then stored else row := by
    unfold Rows.lookup
    refine Rows.find?_update fun row _ hrow => ?_
    rw [hkey, hrow]
  rw [hfind, hfound, Option.map_some, if_pos (Rows.lookup_key hfound)]

/-- The budget after a charge. -/
theorem Charged.budgeted {after : Tables} {anchors : RiskBudgetAnchor × RiskBudgetAnchor}
    (hcharged : Charged .decimal28 t after anchors order event (t.book.held event.accountId event.instrumentId))
    (hlocked : lockGlobalAndAccount t.anchors event.accountId event.currency = some anchors)
    (hbudgeted : Budgeted t order.riskDecisionId event.accountId event.currency)
    (hnext : OnGrid 28 (-18) (exactNext (t.book.held event.accountId event.instrumentId) event.side event.quantity))
    (hrisk : OnGrid 28 (-18) (openedRisk t event))
    (hanchors : ∀ a ∈ t.anchors, a.charged event.accountId event.currency →
      OnGrid 28 (-18) (a.positionRiskAmount + openedRisk t event))
    (htotal : filledTotal .decimal28 order event = order.filledQuantity + event.quantity) :
    (after.reservation? order.riskDecisionId = (t.reservation? order.riskDecisionId).map fun r =>
      r.consume .exact (charge .exact r event (t.book.held event.accountId event.instrumentId))) ∧
    (after.incidents = t.incidents ++
      overfillIncidents order (order.filledQuantity + event.quantity) event.observedAt ++
        chargeIncidents t order event) ∧
    Budgeted after order.riskDecisionId event.accountId event.currency ∧
    ∃ pair, lockGlobalAndAccount after.anchors event.accountId event.currency = some pair := by
  rw [← htotal]
  unfold chargeIncidents
  cases hcharged with
  | unreserved habsent hreservations hunmoved hincidents =>
    have hlookup : after.reservation? order.riskDecisionId = none := by
      unfold Tables.reservation? at habsent ⊢
      rw [hreservations, habsent]
    rw [habsent, hincidents, hunmoved]
    refine ⟨hlookup, (List.append_nil _).symm, fun r hr => ?_, anchors, hlocked⟩
    rw [hlookup] at hr
    cases hr
  | reserved r stored hfound hkept hreservations hmoved hincidents =>
    obtain ⟨hr, hroom⟩ := hbudgeted r hfound
    have htaken := charge_taken hr hrisk
    rw [charge_exact hr hnext hrisk] at hkept hmoved hincidents
    have hstored := Except.ok.inj (hkept.symm.trans (htaken.stored hr).1)
    have hattributable : (charge .exact r event (t.book.held event.accountId event.instrumentId)).attributable =
        openedRisk t event := charge_attributable
    have hpos : 0 ≤ openedRisk t event := mul_nonneg event.terms.2.le (openedAmount_nonneg event.terms.1.le)
    set c := charge .exact r event (t.book.held event.accountId event.instrumentId)
    have hkeys : ∀ a : RiskBudgetAnchor, (a.consume .decimal28 c).key = a.key := fun _ => rfl
    have hlookup : after.reservation? order.riskDecisionId = some stored := by
      unfold Tables.reservation?
      rw [hreservations]
      refine reservation_rewritten hfound ?_
      have hkey : r.riskDecisionId = order.riskDecisionId := Rows.lookup_key hfound
      rw [hstored]
      exact hkey
    rw [hfound, hincidents, htaken.incidents hr]
    refine ⟨hlookup.trans (congrArg some hstored), rfl, ?_, lock_rewritten hkeys hlocked hmoved⟩
    intro r' hr'
    have hsame : r' = r.consume .exact c := by
      rw [hlookup] at hr'
      rw [← Option.some.inj hr', hstored]
    rw [hsame]
    refine ⟨(htaken.stored hr).2, fun a ha hcharged => ?_⟩
    rcases writeAnchors_ok hlocked hmoved hkeys a ha with ⟨-, hnot⟩ | ⟨-, old, hold, hkey, hwritten⟩
    · exact absurd hcharged hnot
    · have holdCharged := (RiskBudgetAnchor.charged_congr hkey _ _).mpr hcharged
      obtain ⟨hremaining, hcovers, hposition⟩ := hroom old hold holdCharged
      have hexact : (old.consume .decimal28 c).store .decimal28 = .ok (old.consume .exact c) := by
        refine htaken.anchor hremaining hcovers ?_ ?_
        · rw [hattributable]
          exact hanchors old hold holdCharged
        · rw [hattributable]
          exact add_nonneg hposition hpos
      rw [hexact] at hwritten
      rw [← Except.ok.inj hwritten]
      obtain ⟨hfrom, hfrom0, hfromLe⟩ := htaken.fromRemaining
      refine ⟨Carries.decimal28.sub _ _ hremaining hfrom hfrom0 (hfromLe.trans hcovers), ?_, ?_⟩
      · exact sub_le_sub_right hcovers c.fromRemaining
      · show 0 ≤ old.positionRiskAmount + c.attributable
        rw [hattributable]
        exact add_nonneg hposition hpos

/-- An execution of a ready order goes through and leaves the order ready for the next one. -/
theorem Ready.fill (hready : Ready t order currency) (hof : FillOf t order currency event)
    (hnew : t.fill? event = none) (hfits : FillFits t (.fill event)) :
    ∃ after, perform .decimal28 hashes t (.fill event) = .ok after ∧ Filled t after order event ∧
      Ready after (order.fill (order.filledQuantity + event.quantity) (order.filledQuantity + event.quantity))
        currency := by
  obtain ⟨after, result, anchors, happly, happlied⟩ := applyEventOnce_exists hready hof hnew hfits
  obtain ⟨hcarried, htotal⟩ := hfits
  obtain ⟨hquantity, hprice, hnext, hrisk, hanchors⟩ := hcarried hnew
  have hfound : t.order? event.orderId = some order := by
    rw [hof.orderId]
    exact hready.found
  have hfilledTotal : filledTotal .decimal28 order event = order.filledQuantity + event.quantity :=
    Carries.decimal28.fix _ (htotal order hfound)
  have hbudgeted := hready.budgeted
  rw [hof.account, ← hof.currency] at hbudgeted
  obtain ⟨hreservation, hincidents, hafterBudget, hlocked⟩ := happlied.charged.budgeted
    (lockForFill_ok happlied.locked).budget hbudgeted hnext hrisk hanchors hfilledTotal
  obtain ⟨book, hbook, hheld⟩ :=
    applyToPosition_exists t.book.drawn hready.book.draw hready.costs hprice hquantity hnext
  have hsameBook : book = after.book := Except.ok.inj (hbook.symm.trans happlied.book)
  rw [hsameBook] at hheld
  have horders : after.orders = Rows.update PersistedOrder.id t.orders order.id
      (·.fill (order.filledQuantity + event.quantity) (order.filledQuantity + event.quantity)) := by
    rw [happlied.orders, hfilledTotal]
  refine ⟨after, ?_, ?_, ?_⟩
  · change (·.1) <$> applyEventOnce .decimal28 t event = _
    rw [happly]
    rfl
  · exact ⟨horders, happlied.links, happlied.statusEvents, happlied.statusMarks,
      ⟨_, happlied.fills, rfl, rfl, rfl⟩, hheld.held, hreservation, hincidents⟩
  · refine ⟨?_, applyToPosition_sound Carries.decimal28 hready.book.draw hquantity hnext happlied.book, hheld.costs,
      ?_, ?_⟩
    · unfold Tables.order?
      rw [horders]
      have hids : ∀ row : PersistedOrder, (row.fill (order.filledQuantity + event.quantity)
          (order.filledQuantity + event.quantity)).id = row.id := fun _ => rfl
      have hlookup : Rows.lookup PersistedOrder.id t.orders order.id = some order := hready.found
      change Rows.lookup PersistedOrder.id (Rows.update PersistedOrder.id t.orders order.id _) order.id = _
      rw [Rows.lookup_update hids, hlookup, Option.map_some, if_pos rfl]
    · obtain ⟨pair, hpair⟩ := hlocked
      refine ⟨pair, ?_⟩
      show lockGlobalAndAccount after.anchors order.accountId currency = _
      rw [hof.account, ← hof.currency]
      exact hpair
    · show Budgeted after order.riskDecisionId order.accountId currency
      rw [hof.account, ← hof.currency]
      exact hafterBudget

end Step

/-! ### What a charge moves -/

/-- What a reservation can still cover: what remains and what was released. -/
def PersistedRiskReservation.pool (r : PersistedRiskReservation) : ℚ :=
  r.releasedRiskAmount + r.remainingRiskAmount

/-- A reservation after charges of `risk` together. -/
structure Drained (r after : PersistedRiskReservation) (risk : ℚ) : Prop where
  consumed : after.consumedRiskAmount = r.consumedRiskAmount + min risk r.pool
  pool : after.pool = r.pool - min risk r.pool
  released : after.releasedRiskAmount = r.releasedRiskAmount - min risk r.releasedRiskAmount

theorem min_add_min_sub (a b c : ℚ) (hc : 0 ≤ c) : min b a + min c (a - min b a) = min a (b + c) := by
  rcases le_total a b with h | h
  · rw [min_eq_right h, sub_self, min_eq_right hc, add_zero, min_eq_left (by linarith)]
  · rw [min_eq_left h]
    rcases le_total c (a - b) with h' | h'
    · rw [min_eq_left h', min_eq_right (by linarith)]
    · rw [min_eq_right h', min_eq_left (by linarith)]
      ring

/-- Two charges, one after the other. -/
theorem min_add_sub_min {a b p : ℚ} (hb : 0 ≤ b) :
    min a p + min b (p - min a p) = min (a + b) p := by
  rcases le_total a p with h | h
  · rw [min_eq_left h]
    rcases le_total b (p - a) with h' | h'
    · rw [min_eq_left h', min_eq_left (by linarith)]
    · rw [min_eq_right h', min_eq_right (by linarith)]
      ring
  · rw [min_eq_right h, sub_self, min_eq_right hb, add_zero, min_eq_right (by linarith)]

section Charges

variable {r : PersistedRiskReservation} {event : BrokerExecutionEvent} {previous : ℚ}

theorem charge_consumed (hr : r.Conserved) :
    (charge .exact r event previous).consumed .exact =
      min (event.price * openedAmount event.side previous event.quantity) r.pool := by
  show min r.releasedRiskAmount (event.price * lotQuantity .exact event.side previous event.quantity) +
    min r.remainingRiskAmount (event.price * lotQuantity .exact event.side previous event.quantity -
      min r.releasedRiskAmount (event.price * lotQuantity .exact event.side previous event.quantity)) = _
  rw [lotQuantity_exact Carries.exact trivial]
  exact min_add_min_sub _ _ _ hr.remaining

theorem charge_reclaimed :
    (charge .exact r event previous).reclaimed =
      min (event.price * openedAmount event.side previous event.quantity) r.releasedRiskAmount := by
  show min r.releasedRiskAmount (event.price * lotQuantity .exact event.side previous event.quantity) = _
  rw [lotQuantity_exact Carries.exact trivial, min_comm]

theorem charge_drained (hr : r.Conserved) :
    Drained r (r.consume .exact (charge .exact r event previous))
      (event.price * openedAmount event.side previous event.quantity) := by
  have hconsumed : (charge .exact r event previous).consumed .exact = _ := charge_consumed hr
  have hreclaimed : (charge .exact r event previous).reclaimed = _ := charge_reclaimed
  refine ⟨?_, ?_, ?_⟩
  · rw [← hconsumed]
    rfl
  · rw [← hconsumed]
    show r.releasedRiskAmount - (charge .exact r event previous).reclaimed +
      (r.remainingRiskAmount - (charge .exact r event previous).fromRemaining) =
        r.releasedRiskAmount + r.remainingRiskAmount -
          ((charge .exact r event previous).reclaimed + (charge .exact r event previous).fromRemaining)
    ring
  · rw [← hreclaimed]
    rfl

theorem Drained.trans {a b c : PersistedRiskReservation} {x y : ℚ} (hy : 0 ≤ y) (hab : Drained a b x) (hbc : Drained b c y) : Drained a c (x + y) := by
  refine ⟨?_, ?_, ?_⟩
  · rw [hbc.consumed, hab.consumed, hab.pool, add_assoc, min_add_sub_min hy]
  · rw [hbc.pool, hab.pool, sub_sub, min_add_sub_min hy]
  · rw [hbc.released, hab.released, sub_sub, min_add_sub_min hy]

end Charges

/-! ### Incidents -/

def Reports (incidents : List OpsIncident) (reasonCode : String) : Prop :=
  ∃ incident ∈ incidents, incident.reasonCode = reasonCode

instance (incidents : List OpsIncident) (reasonCode : String) : Decidable (Reports incidents reasonCode) :=
  inferInstanceAs (Decidable (∃ incident ∈ incidents, _))

theorem reports_append (xs ys : List OpsIncident) (reasonCode : String) :
    Reports (xs ++ ys) reasonCode ↔ Reports xs reasonCode ∨ Reports ys reasonCode := by
  simp only [Reports, List.mem_append, or_and_right, exists_or]

theorem consumption_reports (orderId : UUID) (c : Consumption) (observedAt : Instant) :
    (Reports (consumptionIncidents .exact orderId c observedAt) "FILL_RISK_EXCEEDS_RESERVATION" ↔
      c.consumed .exact < c.attributable) ∧
    (Reports (consumptionIncidents .exact orderId c observedAt) "LATE_FILL_AFTER_RESERVATION_RELEASE" ↔
      c.reclaimed ≠ 0) := by
  unfold consumptionIncidents
  constructor
  · by_cases hreclaimed : c.reclaimed ≠ 0 <;> by_cases hexceeds : c.consumed .exact < c.attributable <;>
      simp [Reports, blockingIncident, hreclaimed, hexceeds]
  · by_cases hreclaimed : c.reclaimed ≠ 0 <;> by_cases hexceeds : c.consumed .exact < c.attributable <;>
      simp [Reports, blockingIncident, hreclaimed, hexceeds]

theorem consumption_incident {orderId : UUID} {c : Consumption} {observedAt : Instant} {incident : OpsIncident}
    (h : incident ∈ consumptionIncidents .exact orderId c observedAt) :
    (incident.severity = .blocking ∧ incident.isOpen = true) ∧
      (incident.reasonCode = "FILL_RISK_EXCEEDS_RESERVATION" ∨
        incident.reasonCode = "LATE_FILL_AFTER_RESERVATION_RELEASE") := by
  unfold consumptionIncidents at h
  rcases List.mem_append.mp h with h | h
  · split at h
    · rw [List.mem_singleton.mp h]
      exact ⟨⟨rfl, rfl⟩, .inr rfl⟩
    · cases h
  · split at h
    · rw [List.mem_singleton.mp h]
      exact ⟨⟨rfl, rfl⟩, .inl rfl⟩
    · cases h

theorem overfill_incident {order : PersistedOrder} {total : ℚ} {observedAt : Instant} {incident : OpsIncident}
    (h : incident ∈ overfillIncidents order total observedAt) :
    (incident.severity = .blocking ∧ incident.isOpen = true) ∧ incident.reasonCode = "ORDER_OVERFILL" ∧
      order.requestedQuantity < total := by
  unfold overfillIncidents at h
  split at h
  · rename_i hover
    rw [List.mem_singleton.mp h]
    exact ⟨⟨rfl, rfl⟩, rfl, hover⟩
  · cases h

end AutoTrader.Ledger
