import AutoTrader.Ledger.Anchors
import AutoTrader.Ledger.PositionRuns
import AutoTrader.Runtime.Pointwise

/-! Conservation of reserved risk. Approvals and adoptions charge two anchors with what a new
reservation holds, executions move it between the parts of the reservation and off the anchors,
and releases give the rest back; every anchor counts what is left in its reservations. -/

namespace AutoTrader.Ledger

open AutoTrader.Dispatch AutoTrader.Domain AutoTrader.Execution AutoTrader.Runtime

variable {hashes : AdoptionHashes} {denomination : UUID → String}

/-! ### The law -/

structure PersistedRiskReservation.Conserved (r : PersistedRiskReservation) : Prop where
  parts : r.initialRiskAmount = r.consumedRiskAmount + r.remainingRiskAmount + r.releasedRiskAmount
  consumed : 0 ≤ r.consumedRiskAmount
  remaining : 0 ≤ r.remainingRiskAmount
  released : 0 ≤ r.releasedRiskAmount

/-- A reservation is charged to an anchor. -/
def RiskBudgetAnchor.holds (anchor : RiskBudgetAnchor) (r : PersistedRiskReservation) : Prop :=
  r.currency = some anchor.currency ∧ anchor.covers r.accountId

instance (anchor : RiskBudgetAnchor) (r : PersistedRiskReservation) : Decidable (anchor.holds r) :=
  inferInstanceAs (Decidable (_ ∧ _))

/-- What an anchor counts of a reservation. -/
def RiskBudgetAnchor.share (anchor : RiskBudgetAnchor) (r : PersistedRiskReservation) : ℚ :=
  if anchor.holds r then r.remainingRiskAmount else 0

/-- What remains in the reservations charged to an anchor. -/
def reservedUnder (reservations : List PersistedRiskReservation) (anchor : RiskBudgetAnchor) : ℚ :=
  (reservations.map anchor.share).sum

structure ReservationLaw (t : Tables) : Prop where
  reservations : ∀ r ∈ t.reservations, r.Conserved
  anchors : ∀ a ∈ t.anchors, a.remainingReservationAmount = reservedUnder t.reservations a

theorem RiskBudgetAnchor.share_congr {a b : RiskBudgetAnchor} (h : a.key = b.key) : a.share = b.share := by
  obtain ⟨hscope, hcurrency⟩ := Prod.mk.inj h
  funext r
  unfold share
  refine if_congr ?_ rfl rfl
  unfold holds covers
  rw [hscope, hcurrency]

theorem reservedUnder_congr {a b : RiskBudgetAnchor} (h : a.key = b.key)
    (reservations : List PersistedRiskReservation) : reservedUnder reservations a = reservedUnder reservations b := by
  unfold reservedUnder
  rw [RiskBudgetAnchor.share_congr h]

theorem RiskBudgetAnchor.holds_iff {a : RiskBudgetAnchor} {r : PersistedRiskReservation} {accountId : UUID}
    {currency : String} (haccount : r.accountId = accountId) (hcurrency : r.currency = some currency) :
    a.holds r ↔ a.charged accountId currency := by
  unfold holds charged
  rw [haccount, hcurrency, Option.some.injEq, eq_comm]

/-! ### What is kept -/

/-- The law, with what ties decisions, reservations and orders together: every decision has its
one reservation, in the currency of its account, and every order is of the account of its
reservation. -/
structure Reserved (denomination : UUID → String) (t : Tables) : Prop where
  law : ReservationLaw t
  ids : (t.reservations.map PersistedRiskReservation.riskDecisionId).Nodup
  currency : ∀ r ∈ t.reservations, r.currency = some (denomination r.accountId)
  decided : ∀ r ∈ t.reservations, ∃ d ∈ t.decisions, d.id = r.riskDecisionId
  decisions : ∀ d ∈ t.decisions, ∃ r ∈ t.reservations, r.riskDecisionId = d.id ∧
    d.currency = denomination r.accountId
  orders : ∀ o ∈ t.orders, ∃ r ∈ t.reservations, r.riskDecisionId = o.riskDecisionId ∧ r.accountId = o.accountId

/-- One currency for each account, and orders under reservations of their own account. -/
def InOneCurrency (denomination : UUID → String) (t : Tables) : LedgerEvent → Prop
  | .fill event => event.currency = denomination event.accountId
  | .approve _ reservation accountId currency =>
    currency = denomination accountId ∧ denominated reservation.currency currency = currency
  | .adopt adoption _ => adoption.currency = denomination adoption.accountId
  | .createOrder order _ => ∀ r ∈ t.reservations, r.riskDecisionId = order.riskDecisionId → r.accountId = order.accountId
  | _ => True

/-- The reservation of an order, from the reservation of its decision. -/
theorem Reserved.reservation_of_order {t : Tables} {o : PersistedOrder} {r : PersistedRiskReservation}
    (h : Reserved denomination t) (ho : o ∈ t.orders) (hr : t.reservation? o.riskDecisionId = some r) :
    r ∈ t.reservations ∧ r.riskDecisionId = o.riskDecisionId ∧ r.accountId = o.accountId := by
  obtain ⟨other, hother, hid, haccount⟩ := h.orders o ho
  have hmem : r ∈ t.reservations := List.mem_of_find?_eq_some hr
  have hkey : r.riskDecisionId = o.riskDecisionId := Rows.lookup_key hr
  have hsame : r = other := List.inj_on_of_nodup_map h.ids hmem hother (hkey.trans hid.symm)
  rw [← hsame] at haccount
  exact ⟨hmem, hkey, haccount⟩

/-! ### Two ways reservations move -/

/-- A new reservation under a decision that had none, with the anchors it is charged to. -/
theorem reservedUnder_add {anchors written : List RiskBudgetAnchor} {reservations : List PersistedRiskReservation}
    {locked : RiskBudgetAnchor × RiskBudgetAnchor} {r : PersistedRiskReservation} {accountId : UUID}
    {currency : String} {amount : ℚ} (hlocked : lockGlobalAndAccount anchors accountId currency = some locked)
    (hwritten : writeAnchors .exact anchors locked (·.reserve .exact amount) = .ok written)
    (hlaw : ∀ a ∈ anchors, a.remainingReservationAmount = reservedUnder reservations a)
    (haccount : r.accountId = accountId) (hcurrency : r.currency = some currency)
    (hamount : r.remainingRiskAmount = amount) :
    ∀ a ∈ written, a.remainingReservationAmount = reservedUnder (reservations ++ [r]) a := by
  intro a ha
  have hadd : reservedUnder (reservations ++ [r]) a = reservedUnder reservations a + a.share r := by
    simp [reservedUnder]
  rw [hadd]
  unfold RiskBudgetAnchor.share
  rw [if_congr (RiskBudgetAnchor.holds_iff haccount hcurrency) rfl rfl, hamount]
  rcases writeAnchors_ok hlocked hwritten (fun _ => rfl) a ha with ⟨hold, hnot⟩ | ⟨hcharged, old, hold, hkey, hstored⟩
  · rw [if_neg hnot, add_zero]
    exact hlaw a hold
  · obtain ⟨-, hremaining, -⟩ := RiskBudgetAnchor.store_ok hstored
    rw [if_pos hcharged, ← reservedUnder_congr hkey, ← hlaw old hold]
    exact (Except.ok.inj hremaining).symm

/-- A reservation that gives up `amount` of what remains, with the anchors it is charged to. -/
theorem reservedUnder_take {anchors written : List RiskBudgetAnchor} {reservations : List PersistedRiskReservation}
    {locked : RiskBudgetAnchor × RiskBudgetAnchor} {change : RiskBudgetAnchor → RiskBudgetAnchor}
    {r stored : PersistedRiskReservation} {accountId : UUID} {currency : String} {amount : ℚ}
    (hlocked : lockGlobalAndAccount anchors accountId currency = some locked)
    (hwritten : writeAnchors .exact anchors locked change = .ok written) (hkey : ∀ a, (change a).key = a.key)
    (hchange : ∀ a, (change a).remainingReservationAmount = a.remainingReservationAmount - amount)
    (hlaw : ∀ a ∈ anchors, a.remainingReservationAmount = reservedUnder reservations a)
    (hids : (reservations.map PersistedRiskReservation.riskDecisionId).Nodup)
    (hfound : Rows.lookup PersistedRiskReservation.riskDecisionId reservations r.riskDecisionId = some r)
    (haccount : r.accountId = accountId) (hcurrency : r.currency = some currency)
    (hstoredAccount : stored.accountId = r.accountId) (hstoredCurrency : stored.currency = r.currency)
    (hamount : stored.remainingRiskAmount = r.remainingRiskAmount - amount) :
    ∀ a ∈ written, a.remainingReservationAmount =
      reservedUnder (Rows.update PersistedRiskReservation.riskDecisionId reservations r.riskDecisionId
        fun _ => stored) a := by
  intro a ha
  have hmoved : reservedUnder (Rows.update PersistedRiskReservation.riskDecisionId reservations r.riskDecisionId
      fun _ => stored) a = reservedUnder reservations a + (a.share stored - a.share r) :=
    Rows.sum_update hids hfound stored a.share
  rw [hmoved]
  unfold RiskBudgetAnchor.share
  rw [if_congr (RiskBudgetAnchor.holds_iff haccount hcurrency) rfl rfl,
    if_congr (RiskBudgetAnchor.holds_iff (hstoredAccount.trans haccount) (hstoredCurrency.trans hcurrency)) rfl rfl,
    hamount]
  rcases writeAnchors_ok hlocked hwritten hkey a ha with ⟨hold, hnot⟩ | ⟨hcharged, old, hold, holdKey, hstored⟩
  · rw [if_neg hnot, if_neg hnot, sub_zero, add_zero]
    exact hlaw a hold
  · obtain ⟨-, hremaining, -⟩ := RiskBudgetAnchor.store_ok hstored
    rw [hchange, hlaw old hold, reservedUnder_congr holdKey] at hremaining
    rw [if_pos hcharged, if_pos hcharged, ← Except.ok.inj hremaining]
    ring

/-- The tables after rows were added or rewritten under their own terms: what is left to show
is the law, and where orders and decisions come from. -/
theorem Reserved.rewritten {t after : Tables} (h : Reserved denomination t) (hlaw : ReservationLaw after)
    (hids : after.reservations.map PersistedRiskReservation.riskDecisionId =
      t.reservations.map PersistedRiskReservation.riskDecisionId)
    (hrows : ∀ r ∈ after.reservations, ∃ old ∈ t.reservations, r.riskDecisionId = old.riskDecisionId ∧
      r.accountId = old.accountId ∧ r.currency = old.currency)
    (hdecisions : after.decisions = t.decisions)
    (horders : ∀ o ∈ after.orders, ∃ r ∈ t.reservations, r.riskDecisionId = o.riskDecisionId ∧
      r.accountId = o.accountId) : Reserved denomination after := by
  -- the row a reservation became
  have hnew : ∀ old ∈ t.reservations, ∃ r ∈ after.reservations, r.riskDecisionId = old.riskDecisionId ∧
      r.accountId = old.accountId := by
    intro old hold
    have hmem : old.riskDecisionId ∈ after.reservations.map PersistedRiskReservation.riskDecisionId :=
      hids ▸ List.mem_map_of_mem hold
    obtain ⟨r, hr, hid⟩ := List.mem_map.mp hmem
    obtain ⟨source, hsource, hsourceId, haccount, -⟩ := hrows r hr
    have hsame : source = old := List.inj_on_of_nodup_map h.ids hsource hold (hsourceId.symm.trans hid)
    rw [hsame] at haccount
    exact ⟨r, hr, hid, haccount⟩
  refine ⟨hlaw, hids ▸ h.ids, ?_, ?_, ?_, ?_⟩
  · intro r hr
    obtain ⟨old, hold, -, haccount, hcurrency⟩ := hrows r hr
    rw [hcurrency, haccount]
    exact h.currency old hold
  · intro r hr
    obtain ⟨old, hold, hid, -⟩ := hrows r hr
    rw [hdecisions, hid]
    exact h.decided old hold
  · intro d hd
    obtain ⟨old, hold, hid, hcurrency⟩ := h.decisions d (hdecisions ▸ hd)
    obtain ⟨r, hr, hrId, haccount⟩ := hnew old hold
    exact ⟨r, hr, hrId.trans hid, by rw [haccount, hcurrency]⟩
  · intro o ho
    obtain ⟨old, hold, hid, haccount⟩ := horders o ho
    obtain ⟨r, hr, hrId, hrAccount⟩ := hnew old hold
    exact ⟨r, hr, hrId.trans hid, hrAccount.trans haccount⟩

/-- Nothing that the law reads was written. -/
theorem Reserved.kept {t after : Tables} (h : Reserved denomination t)
    (hreservations : after.reservations = t.reservations) (hanchors : after.anchors = t.anchors)
    (hdecisions : after.decisions = t.decisions)
    (horders : ∀ o ∈ after.orders, ∃ r ∈ t.reservations, r.riskDecisionId = o.riskDecisionId ∧
      r.accountId = o.accountId) : Reserved denomination after := by
  refine h.rewritten ⟨?_, ?_⟩ (by rw [hreservations]) ?_ hdecisions horders
  · rw [hreservations]
    exact h.law.reservations
  · rw [hreservations, hanchors]
    exact h.law.anchors
  · rw [hreservations]
    exact fun r hr => ⟨r, hr, rfl, rfl, rfl⟩

/-- One reservation was written again under its own terms. -/
theorem Reserved.updated {t after : Tables} (h : Reserved denomination t) {r stored : PersistedRiskReservation}
    (hr : r ∈ t.reservations) (hid : stored.riskDecisionId = r.riskDecisionId)
    (haccount : stored.accountId = r.accountId) (hcurrency : stored.currency = r.currency)
    (hconserved : stored.Conserved)
    (hreservations : after.reservations = Rows.update PersistedRiskReservation.riskDecisionId t.reservations
      r.riskDecisionId fun _ => stored)
    (hanchors : ∀ a ∈ after.anchors, a.remainingReservationAmount = reservedUnder after.reservations a)
    (hdecisions : after.decisions = t.decisions)
    (horders : ∀ o ∈ after.orders, ∃ r ∈ t.reservations, r.riskDecisionId = o.riskDecisionId ∧
      r.accountId = o.accountId) : Reserved denomination after := by
  have hrow : ∀ row ∈ after.reservations, row = stored ∨ row ∈ t.reservations := by
    intro row hrow
    rw [hreservations] at hrow
    obtain ⟨old, hold, rfl⟩ := Rows.mem_update.mp hrow
    split
    · exact .inl rfl
    · exact .inr hold
  refine h.rewritten ⟨fun row hmem => ?_, hanchors⟩ ?_ (fun row hmem => ?_) hdecisions horders
  · rcases hrow row hmem with rfl | hold
    · exact hconserved
    · exact h.law.reservations row hold
  · rw [hreservations]
    exact Rows.keys_update hid t.reservations
  · rcases hrow row hmem with rfl | hold
    · exact ⟨r, hr, hid, haccount, hcurrency⟩
    · exact ⟨row, hold, rfl, rfl, rfl⟩

/-- A reservation and its decision were added. -/
theorem Reserved.added {t after : Tables} (h : Reserved denomination t) {r : PersistedRiskReservation}
    {d : PersistedRiskDecision} (hid : r.riskDecisionId = d.id) (hfresh : ∀ other ∈ t.reservations,
      other.riskDecisionId ≠ r.riskDecisionId) (hconserved : r.Conserved)
    (hcurrency : r.currency = some (denomination r.accountId)) (hdecided : d.currency = denomination r.accountId)
    (hreservations : after.reservations = t.reservations ++ [r])
    (hanchors : ∀ a ∈ after.anchors, a.remainingReservationAmount = reservedUnder after.reservations a)
    (hdecisions : after.decisions = t.decisions ++ [d])
    (horders : ∀ o ∈ after.orders, ∃ r ∈ after.reservations, r.riskDecisionId = o.riskDecisionId ∧
      r.accountId = o.accountId) : Reserved denomination after := by
  have hrow : ∀ row ∈ after.reservations, row ∈ t.reservations ∨ row = r := by
    intro row hrow
    rw [hreservations] at hrow
    simpa using hrow
  have hlast : r ∈ after.reservations := by simp [hreservations]
  have hold : ∀ row ∈ t.reservations, row ∈ after.reservations := by
    intro row hmem
    rw [hreservations]
    exact List.mem_append_left _ hmem
  refine ⟨⟨?_, hanchors⟩, ?_, ?_, ?_, ?_, horders⟩
  · intro row hmem
    rcases hrow row hmem with hmem | rfl
    · exact h.law.reservations row hmem
    · exact hconserved
  · rw [hreservations, List.map_append, List.nodup_append]
    refine ⟨h.ids, List.nodup_singleton _, ?_⟩
    rintro id hin other hother rfl
    obtain ⟨row, hmem, hkey⟩ := List.mem_map.mp hin
    exact hfresh row hmem (hkey.trans (by simpa using hother))
  · intro row hmem
    rcases hrow row hmem with hmem | rfl
    · exact h.currency row hmem
    · exact hcurrency
  · intro row hmem
    rw [hdecisions]
    rcases hrow row hmem with hmem | rfl
    · obtain ⟨decision, hdecision, heq⟩ := h.decided row hmem
      exact ⟨decision, List.mem_append_left _ hdecision, heq⟩
    · exact ⟨d, by simp, hid.symm⟩
  · intro decision hdecision
    rw [hdecisions] at hdecision
    rcases List.mem_append.mp hdecision with hmem | hmem
    · obtain ⟨row, hmem, hkey, heq⟩ := h.decisions decision hmem
      exact ⟨row, hold row hmem, hkey, heq⟩
    · rw [List.mem_singleton.mp hmem]
      exact ⟨r, hlast, hid, hdecided⟩

/-! ### Steps -/

theorem Reserved.fill {t after : Tables} {event : BrokerExecutionEvent} {result : Option FillApplication}
    (h : Reserved denomination t) (hcurrency : event.currency = denomination event.accountId)
    (happly : applyEventOnce .exact t event = .ok (after, result)) : Reserved denomination after := by
  rcases applyEventOnce_ok happly with ⟨-, existing, -, rfl | rfl⟩ | ⟨-, anchors, order, stored, happlied⟩
  · exact h
  · exact h.kept rfl rfl rfl h.orders
  have hlocked := lockForFill_ok happlied.locked
  have horders : ∀ o ∈ after.orders, ∃ r ∈ t.reservations, r.riskDecisionId = o.riskDecisionId ∧
      r.accountId = o.accountId := by
    intro o ho
    rw [happlied.orders] at ho
    obtain ⟨old, hold, rfl⟩ := Rows.mem_update.mp ho
    split
    · exact h.orders old hold
    · exact h.orders old hold
  cases happlied.charged with
  | unreserved _ hreservations hunmoved _ => exact h.kept hreservations hunmoved happlied.decisions horders
  | reserved r kept hfound hkept hreservations hmoved _ =>
    obtain ⟨hr, hid, haccount⟩ := h.reservation_of_order (List.mem_of_find?_eq_some hlocked.found) hfound
    have haccount : r.accountId = event.accountId := haccount.trans hlocked.account
    have hrCurrency : r.currency = some event.currency := by rw [h.currency r hr, haccount, hcurrency]
    obtain ⟨hremaining, hparts, hconsumed, hleft, hreleased, hkeptId, hkeptAccount, hkeptCurrency⟩ :=
      PersistedRiskReservation.store_ok hkept
    rw [← hid] at hreservations
    refine h.updated hr hkeptId hkeptAccount hkeptCurrency ⟨hparts.symm, hconsumed, hleft, hreleased⟩ hreservations
      ?_ happlied.decisions horders
    rw [hreservations]
    have htaken : kept.remainingRiskAmount = r.remainingRiskAmount -
        (charge .exact r event (t.book.held event.accountId event.instrumentId)).fromRemaining :=
      (Except.ok.inj hremaining).symm
    exact reservedUnder_take hlocked.budget hmoved (fun _ => rfl) (fun _ => rfl) h.law.anchors h.ids
      (Rows.lookup_of_mem h.ids hr) haccount hrCurrency hkeptAccount hkeptCurrency htaken

/-- What a release finds: the reservation of the order, in the currency of its decision. -/
theorem Reserved.released_terms {t : Tables} {orderId : UUID} {order : PersistedOrder}
    {decision : PersistedRiskDecision} {r : PersistedRiskReservation} (h : Reserved denomination t)
    (horder : t.order? orderId = some order)
    (hdecision : t.decisions.find? (·.id = order.riskDecisionId) = some decision)
    (hfound : t.reservation? order.riskDecisionId = some r) :
    r ∈ t.reservations ∧ r.currency = some decision.currency ∧ r.accountId = order.accountId := by
  obtain ⟨hr, hid, haccount⟩ := h.reservation_of_order (List.mem_of_find?_eq_some horder) hfound
  obtain ⟨other, hother, hotherId, hcurrency⟩ := h.decisions decision (List.mem_of_find?_eq_some hdecision)
  have hdecisionId : decision.id = order.riskDecisionId := by simpa using List.find?_some hdecision
  have hsame : other = r :=
    List.inj_on_of_nodup_map h.ids hother hr (hotherId.trans (hdecisionId.trans hid.symm))
  refine ⟨hr, ?_, haccount⟩
  rw [h.currency r hr, hcurrency, hsame]

theorem Reserved.release {t after : Tables} {orderId brokerId : UUID} {sourcePartition : String} {now : Instant}
    {result : TerminalReleaseApplication} (h : Reserved denomination t)
    (hrelease : releaseIfComplete .exact t orderId brokerId sourcePartition now = .ok (after, result)) :
    Reserved denomination after := by
  rcases releaseIfComplete_ok hrelease with rfl | ⟨order, decision, anchors, r, horder, hdecision, hlocked, hfound, hdone⟩
  · exact h
  obtain ⟨hr, hcurrency, haccount⟩ := h.released_terms horder hdecision hfound
  obtain ⟨written, stored, hwritten, hstored, rfl⟩ := release_ok hdone
  obtain ⟨hremaining, hparts, hconsumed, hleft, hreleased, hstoredId, hstoredAccount, hstoredCurrency⟩ :=
    PersistedRiskReservation.store_ok hstored
  refine h.updated hr hstoredId hstoredAccount hstoredCurrency ⟨hparts.symm, hconsumed, hleft, hreleased⟩ rfl ?_ rfl
    h.orders
  have htaken : stored.remainingRiskAmount = r.remainingRiskAmount - r.remainingRiskAmount := by
    rw [sub_self]
    exact (Except.ok.inj hremaining).symm
  exact reservedUnder_take hlocked hwritten (fun _ => rfl) (fun _ => rfl) h.law.anchors h.ids
    (Rows.lookup_of_mem h.ids hr) haccount hcurrency hstoredAccount hstoredCurrency htaken

theorem Reserved.adopt {t after : Tables} {a : BrokerOpenOrderAdoption} {ids : AdoptionIds}
    {result : BrokerOpenOrderAdoptionResult} (h : Reserved denomination t)
    (hcurrency : a.currency = denomination a.accountId)
    (hadopt : adoptOpenOrder .exact hashes t a ids = .ok (after, result)) : Reserved denomination after := by
  obtain rfl | ⟨anchors, requested, reserved, limitPrice, hbooked⟩ := adoptOpenOrder_ok hadopt
  · exact h
  have hreserved : reserved = a.reservedRiskAmount := (Except.ok.inj hbooked.amount).symm
  have hpositive : 0 ≤ reserved := hreserved ▸ a.terms.2.le
  have hfresh : ∀ other ∈ t.reservations, other.riskDecisionId ≠ (adoptedReservation a ids reserved).riskDecisionId := by
    intro other hother heq
    have hclash := List.any_eq_false.mp hbooked.freshReservation other hother
    simp [PersistedRiskReservation.clashes, heq] at hclash
  refine h.added rfl hfresh ⟨?_, le_rfl, hpositive, le_rfl⟩ (congrArg some hcurrency) hcurrency hbooked.reservations ?_
    hbooked.decisions ?_
  · simp [adoptedReservation]
  · rw [hbooked.reservations]
    exact reservedUnder_add hbooked.locked hbooked.moved h.law.anchors rfl rfl hreserved
  · intro o ho
    rw [hbooked.orders] at ho
    rw [hbooked.reservations]
    rcases List.mem_append.mp ho with ho | ho
    · obtain ⟨r, hr, hid, haccount⟩ := h.orders o ho
      exact ⟨r, List.mem_append_left _ hr, hid, haccount⟩
    · rw [List.mem_singleton.mp ho]
      exact ⟨adoptedReservation a ids reserved, by simp, rfl, rfl⟩

theorem Reserved.approve {t after : Tables} {decision : PersistedRiskDecision}
    {reservation : PersistedRiskReservation} {accountId : UUID} {currency : String} (h : Reserved denomination t)
    (hcurrency : currency = denomination accountId)
    (hdenominated : denominated reservation.currency currency = currency)
    (happrove : persistApproval .exact t decision reservation accountId currency = .ok after) :
    Reserved denomination after := by
  obtain ⟨anchors, decisions, stored, reservations, created, hlocked, hcheck, hdecision, hreservation, hafter⟩ :=
    persistApproval_ok happrove
  obtain ⟨owner, howner, hrows⟩ := persistReservation_ok hreservation
  have hownerId : owner.id = stored.id := by simpa using List.find?_some howner
  have hownerIn : owner ∈ decisions := List.mem_of_find?_eq_some howner
  obtain ⟨-, haccount, hdecisionCurrency, houtcome⟩ := checkApproval_ok hcheck
  rcases persistDecision_ok hdecision with ⟨rfl, hstored⟩ | ⟨rfl, rfl, hnew⟩
  · -- a decision that was stored has its reservation
    obtain ⟨r, hr, hid, -⟩ := h.decisions stored hstored
    rcases hrows with ⟨-, -, -, hfresh⟩ | ⟨rfl, rfl, -⟩
    · exact absurd hid (hfresh r hr)
    · rcases hafter with ⟨hcreated, -⟩ | ⟨-, rfl⟩
      · cases hcreated
      · exact h.kept rfl rfl rfl h.orders
  · -- a new decision has none, and its reservation is new with it
    have hnone : ∀ r ∈ t.reservations, r.riskDecisionId ≠ decision.id := by
      intro r hr heq
      obtain ⟨d, hd, hid⟩ := h.decided r hr
      exact hnew d hd (hid.trans heq)
    rcases hrows with ⟨rfl, rfl, hpasses, -⟩ | ⟨-, -, r, hr, hid⟩
    · have hownerCurrency : owner.currency = currency := by
        rcases List.mem_append.mp hownerIn with hd | hd
        · exact absurd hownerId (hnew owner hd)
        · rw [List.mem_singleton.mp hd]
          exact hdecisionCurrency
      set row : PersistedRiskReservation :=
        PersistedRiskReservation.row .exact { reservation with riskDecisionId := (decision.row .exact).id }
          owner.currency with hrow
      have hrowCurrency : row.currency = some currency := by
        show some (denominated reservation.currency owner.currency) = some currency
        rw [hownerCurrency, hdenominated]
      have hrowAccount : row.accountId = accountId := haccount
      simp only [PersistedRiskReservation.passes, decide_eq_true_eq] at hpasses
      obtain ⟨-, hconsumed, hremaining, hreleased, hparts, -⟩ := hpasses
      have hadded : ∀ written : List RiskBudgetAnchor,
          (∀ a ∈ written, a.remainingReservationAmount = reservedUnder (t.reservations ++ [row]) a) →
          Reserved denomination { t with
            decisions := t.decisions ++ [decision.row .exact], reservations := t.reservations ++ [row]
            anchors := written } := by
        intro written hwritten
        refine h.added (d := decision.row .exact) rfl hnone ⟨hparts.symm, hconsumed, hremaining, hreleased⟩ ?_ ?_ rfl
          hwritten rfl ?_
        · rw [hrowCurrency, hrowAccount, hcurrency]
        · exact hdecisionCurrency.trans (hcurrency.trans (congrArg denomination hrowAccount.symm))
        · intro o ho
          obtain ⟨r, hr, hid, howns⟩ := h.orders o ho
          exact ⟨r, List.mem_append_left _ hr, hid, howns⟩
      rcases hafter with ⟨-, -, written, hwritten, rfl⟩ | ⟨hnot, rfl⟩
      · exact hadded written
          (reservedUnder_add hlocked hwritten h.law.anchors hrowAccount hrowCurrency rfl)
      · have hzero : row.remainingRiskAmount = 0 := by
          rcases houtcome with happroved | ⟨-, hzero⟩
          · exact absurd ⟨rfl, happroved⟩ hnot
          · exact hzero
        refine hadded t.anchors fun a ha => ?_
        have hshare : a.share row = 0 := by
          unfold RiskBudgetAnchor.share
          rw [hzero, ite_self]
        rw [h.law.anchors a ha]
        simp [reservedUnder, hshare]
    · exact absurd hid (hnone r hr)

theorem Reserved.perform {t after : Tables} {event : LedgerEvent} (h : Reserved denomination t)
    (hcurrency : InOneCurrency denomination t event) (hperform : perform .exact hashes t event = .ok after) :
    Reserved denomination after := by
  cases event with
  | fill fill =>
    obtain ⟨⟨after, result⟩, happly, rfl⟩ := map_ok hperform
    exact h.fill hcurrency happly
  | status event =>
    obtain ⟨⟨after, outcome⟩, happly, rfl⟩ := map_ok hperform
    have hstatus := StatusOnly.event happly
    refine h.kept hstatus.reservations hstatus.anchors hstatus.decisions fun o ho => ?_
    have hterms : o.terms ∈ t.orders.map PersistedOrder.terms := hstatus.orders ▸ List.mem_map_of_mem ho
    obtain ⟨old, hold, heq⟩ := List.mem_map.mp hterms
    obtain ⟨r, hr, hid, haccount⟩ := h.orders old hold
    have hsameId : old.riskDecisionId = o.riskDecisionId := congrArg (·.riskDecisionId) heq
    have hsameAccount : old.accountId = o.accountId := congrArg (·.accountId) heq
    exact ⟨r, hr, hid.trans hsameId, haccount.trans hsameAccount⟩
  | release orderId brokerId sourcePartition now =>
    obtain ⟨⟨after, result⟩, hrelease, rfl⟩ := map_ok hperform
    exact h.release hrelease
  | checkpoint key checkpoint =>
    obtain ⟨streams, scopes, rfl⟩ := recordClosedIntervalCheckpoint_ok hperform
    exact h.kept rfl rfl rfl h.orders
  | approve decision reservation accountId currency =>
    exact h.approve hcurrency.1 hcurrency.2 hperform
  | createOrder order event =>
    obtain ⟨_, rfl | ⟨rfl, -, d, hd, hid, -⟩⟩ := createApprovedOrder_ok hperform
    · exact h.kept rfl rfl rfl h.orders
    · refine h.kept rfl rfl rfl fun o ho => ?_
      rcases List.mem_append.mp ho with ho | ho
      · exact h.orders o ho
      · obtain ⟨r, hr, hrId, -⟩ := h.decisions d hd
        rw [List.mem_singleton.mp ho]
        exact ⟨r, hr, hrId.trans hid, hcurrency r hr (hrId.trans hid)⟩
  | accept acceptance =>
    obtain rfl | ⟨_, rfl, -⟩ := linkAccepted_ok hperform
    · exact h
    · exact h.kept rfl rfl rfl h.orders
  | adopt adoption ids =>
    obtain ⟨⟨after, result⟩, hadopt, rfl⟩ := map_ok hperform
    exact h.adopt hcurrency hadopt

/-! ### Releases -/

/-- An anchor a reservation is charged to counts at least what remains in it. -/
theorem ReservationLaw.covers {t : Tables} (h : ReservationLaw t) {a : RiskBudgetAnchor}
    {r : PersistedRiskReservation} (ha : a ∈ t.anchors) (hr : r ∈ t.reservations) (hholds : a.holds r) :
    r.remainingRiskAmount ≤ a.remainingReservationAmount := by
  have hshare : a.share r = r.remainingRiskAmount := if_pos hholds
  rw [h.anchors a ha, ← hshare]
  refine List.single_le_sum (fun share hmem => ?_) _ (List.mem_map_of_mem hr)
  obtain ⟨other, hother, rfl⟩ := List.mem_map.mp hmem
  unfold RiskBudgetAnchor.share
  split
  · exact (h.reservations other hother).remaining
  · exact le_rfl

/-- A release always finds enough in the anchors. -/
theorem Reserved.covered {t : Tables} (h : Reserved denomination t) (orderId brokerId : UUID)
    (sourcePartition : String) (now : Instant) :
    releaseIfComplete .exact t orderId brokerId sourcePartition now ≠ .error anchorUnderflow := by
  have hkind : anchorUnderflow.kind ≠ .databaseError := by decide
  intro hrelease
  unfold releaseIfComplete at hrelease
  split at hrelease
  · simp [anchorUnderflow] at hrelease
  rename_i order horder
  split at hrelease
  · simp [anchorUnderflow] at hrelease
  rename_i decision hdecision
  split at hrelease
  · simp [anchorUnderflow] at hrelease
  rename_i anchors hlocked
  dsimp only at hrelease
  split at hrelease
  · cases hrelease
  split at hrelease
  · simp [anchorUnderflow] at hrelease
  rename_i r hfound
  split at hrelease
  · cases hrelease
  rcases bind_error.mp hrelease with hstates | ⟨states, -, hrelease⟩
  · obtain ⟨link, -, hlink⟩ := Runtime.mapM_error hstates
    rcases bind_error.mp hlink with hstatus | ⟨status, -, hlink⟩
    · have hhead := OrderStatus.ofValue_error hstatus
      revert hhead
      decide
    · cases hlink
  split at hrelease
  · cases hrelease
  split at hrelease
  · cases hrelease
  rcases bind_error.mp hrelease with hwrites | ⟨t₁, -, hrelease⟩
  · obtain ⟨hr, hcurrency, haccount⟩ := h.released_terms horder hdecision hfound
    obtain ⟨⟨hglobal, -⟩, hbudget, -⟩ := lockGlobalAndAccount_ok hlocked
    have hcovers : ∀ a ∈ t.anchors, a.key = anchors.1.key ∨ a.key = anchors.2.key →
        r.remainingRiskAmount ≤ a.remainingReservationAmount := by
      intro a ha hkey
      have hcharged := (charged_iff_locked hlocked a).mpr hkey
      exact h.law.covers ha hr ((RiskBudgetAnchor.holds_iff haccount hcurrency).mpr hcharged)
    unfold Ledger.release at hwrites
    dsimp only at hwrites
    rw [if_neg (not_or.mpr ⟨not_lt.mpr (hcovers _ hglobal (.inl rfl)), not_lt.mpr (hcovers _ hbudget (.inr rfl))⟩)]
      at hwrites
    rcases bind_error.mp hwrites with hwritten | ⟨written, -, hwrites⟩
    · exact hkind (writeAnchors_error hwritten)
    rcases bind_error.mp hwrites with hstored | ⟨stored, -, hwrites⟩
    · exact hkind (PersistedRiskReservation.store_error hstored)
    · cases hwrites
  · cases hrelease

/-! ### Runs -/

/-- From a ledger without decisions, reservations and orders, in any order of transactions, in
exact arithmetic and one currency for each account. -/
theorem reservationLaw_run (denomination : UUID → String) (hashes : AdoptionHashes) (t : Tables)
    (hnone : t.decisions = [] ∧ t.reservations = [] ∧ t.orders = [])
    (hanchors : ∀ a ∈ t.anchors, a.remainingReservationAmount = 0) (events : List LedgerEvent)
    (hmeets : RunMeets (step .exact hashes) (InOneCurrency denomination) t events) :
    ReservationLaw (runFrom (step .exact hashes) t events) ∧
      ∀ orderId brokerId sourcePartition now,
        releaseIfComplete .exact (runFrom (step .exact hashes) t events) orderId brokerId sourcePartition now ≠
          .error anchorUnderflow := by
  obtain ⟨hdecisions, hreservations, horders⟩ := hnone
  have hstart : Reserved denomination t := by
    refine ⟨⟨?_, fun a ha => ?_⟩, ?_, ?_, ?_, ?_, ?_⟩
    · simp [hreservations]
    · rw [hanchors a ha, hreservations]
      rfl
    · simp [hreservations]
    · simp [hreservations]
    · simp [hreservations]
    · simp [hdecisions]
    · simp [horders]
  have hreserved : Reserved denomination (runFrom (step .exact hashes) t events) :=
    run_invariant (fun _ _ h hcurrency => step_keeps h fun _ => h.perform hcurrency) hstart hmeets
  exact ⟨hreserved.law, hreserved.covered⟩

/-- Ten are reserved for an order, and a fill takes three of them. -/
theorem reservationLaw_run_fill :
    let events : List LedgerEvent :=
      [.approve (sampleDecision 10) (sampleReservation 10) (rowUuid 2) "USD",
        .createOrder (sampleOrder .buy 10) ⟨rowUuid 3, 1, .created, "CREATED", 0⟩,
        .accept ⟨rowUuid 7, rowUuid 3, rowUuid 1, "B1", .submit⟩,
        .fill (sampleFill (rowUuid 3) "1" .buy 3 rat_three_pos)]
    ReservationLaw (runFrom (step .exact noHashes) (sampleTables [] []) events) ∧
      (runFrom (step .exact noHashes) (sampleTables [] []) events).anchors.map (·.remainingReservationAmount) =
        [7, 7] := by
  intro events
  have hmeets : RunMeets (step .exact noHashes) (InOneCurrency fun _ => "USD") (sampleTables [] []) events := by
    refine ⟨⟨rfl, rfl⟩, ?_, trivial, rfl, trivial⟩
    show ∀ r ∈ (step .exact noHashes (sampleTables [] []) _).reservations, _
    decide +kernel
  exact ⟨(reservationLaw_run (fun _ => "USD") noHashes (sampleTables [] []) ⟨rfl, rfl, rfl⟩ (by decide) events
    hmeets).1, by decide +kernel⟩

end AutoTrader.Ledger
