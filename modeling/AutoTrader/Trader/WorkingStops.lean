import AutoTrader.Trader.StopLookup

/-! When the stop a move is about is the one that works, over whole histories: the rows that are looked
up and the broker orders that stand are the same. -/

namespace AutoTrader.Trader

open AutoTrader.Dispatch AutoTrader.Domain AutoTrader.Execution AutoTrader.Ledger AutoTrader.Numeric AutoTrader.Operations
  AutoTrader.Runtime

/-! ### The invariant -/

section Tracked

variable {carried : ℚ → Prop} {arith : Arithmetic} {hashes : AdoptionHashes} {intentType : UUID → Option IntentType}
  {s : StopLedger}

variable (carried intentType) in
/-- What a run keeps: the rows that are looked up are the stops that stand. -/
structure StopsFound (s : StopLedger) : Prop where
  sound : s.tables.book.Sound carried
  ids : OrderIds s.tables
  ordered : ∀ row ∈ s.commands, s.tables.order? row.orderId ≠ none
  linked : ∀ link ∈ s.tables.links, s.tables.order? link.orderId ≠ none
  filled : ∀ order ∈ s.tables.orders, 0 ≤ order.filledQuantity
  open_ : ∀ w ∈ s.standing, ∃ order, s.tables.order? w.1 = some order ∧ order.status.isTerminal = false
  unfilled : ∀ w ∈ s.standing, ∀ order, s.tables.order? w.1 = some order →
    intentType order.orderIntentId = some .protective → order.filledQuantity = 0 ∧
      ∃ link ∈ s.tables.links, link.orderId = w.1 ∧ link.brokerOrderId = w.2
  found : ∀ accountId instrumentId, ∀ row ∈ stopRows intentType s.toProtectionStore accountId instrumentId,
    StandingStop intentType s accountId instrumentId row

theorem StopsFound.mem_stopRows (h : StopsFound carried intentType s) {accountId instrumentId : UUID} {row : StopRow}
    (hstanding : StandingStop intentType s accountId instrumentId row) :
    row ∈ stopRows intentType s.toProtectionStore accountId instrumentId := by
  obtain ⟨hunfilled, hlink⟩ := h.unfilled _ hstanding.standing _ hstanding.stored hstanding.protective
  exact Trader.mem_stopRows.mpr ⟨List.mem_of_find?_eq_some hstanding.stored, hstanding.account, hstanding.instrument,
    hstanding.protective, hunfilled, hlink⟩

theorem StopsFound.finds (h : StopsFound carried intentType s) (accountId instrumentId : UUID)
    (prefers : StopRow → StopRow → Bool) : FindsWorkingStop intentType s accountId instrumentId prefers := by
  refine ⟨fun row hrow => h.found _ _ row (workingStop_mem hrow), ?_⟩
  rw [workingStop_eq_none, List.eq_nil_iff_forall_not_mem]
  exact ⟨fun hnone ⟨row, hrow⟩ => hnone row (h.mem_stopRows hrow),
    fun hnone row hrow => hnone ⟨row, h.found _ _ row hrow⟩⟩

/-- What stands after an order's rows were written, when the rows of what stood before are still open. -/
theorem mem_settled {w : UUID × String} : w ∈ s.settled.standing ↔
    w ∈ s.standing ∧ ∃ order, s.tables.order? w.1 = some order ∧ order.status.isTerminal = false := by
  unfold StopLedger.settled
  rw [List.mem_filter, Option.any_eq_true]
  simp only [Bool.not_eq_true']

/-! ### Transactions that write no execution and no status -/

/-- What such a transaction writes of orders and links. -/
theorem perform_rows (hzero : arith.clamp 0 = 0) {t after : Tables} {event : LedgerEvent}
    (hfill : ∀ fill, event ≠ .fill fill) (hstatus : ∀ report, event ≠ .status report)
    (h : perform arith hashes t event = .ok after) :
    (after.orders = t.orders ∧ after.links = t.links) ∨
    (∃ row, after.orders = t.orders ++ [row] ∧ t.order? row.id = none ∧ row.filledQuantity = 0 ∧
      (after.links = t.links ∨ ∃ adoption ids link, event = .adopt adoption ids ∧ after.links = t.links ++ [link] ∧
        link.orderId = row.id ∧ row.orderIntentId = ids.intentId)) ∨
    (∃ acceptance link, event = .accept acceptance ∧ after.orders = t.orders ∧ after.links = t.links ++ [link] ∧
      link.orderId = acceptance.orderId) := by
  cases event with
  | fill fill => exact absurd rfl (hfill fill)
  | status report => exact absurd rfl (hstatus report)
  | release orderId brokerId sourcePartition now =>
    obtain ⟨⟨after, result⟩, hrelease, rfl⟩ := Ledger.map_ok h
    rcases releaseIfComplete_ok hrelease with rfl | ⟨_, _, _, _, -, -, -, -, hreleased⟩
    · exact .inl ⟨rfl, rfl⟩
    · obtain ⟨_, _, -, -, rfl⟩ := release_ok hreleased
      exact .inl ⟨rfl, rfl⟩
  | checkpoint key checkpoint =>
    obtain ⟨streams, scopes, rfl⟩ := recordClosedIntervalCheckpoint_ok h
    exact .inl ⟨rfl, rfl⟩
  | approve decision reservation accountId currency =>
    obtain ⟨_, _, _, _, _, -, -, -, -, ⟨-, -, _, -, rfl⟩ | ⟨-, rfl⟩⟩ := persistApproval_ok h
    · exact .inl ⟨rfl, rfl⟩
    · exact .inl ⟨rfl, rfl⟩
  | createOrder order event =>
    obtain ⟨_, rfl | ⟨rfl, hclash, -⟩⟩ := createApprovedOrder_ok h
    · exact .inl ⟨rfl, rfl⟩
    · exact .inr (.inl ⟨_, rfl, order?_of_clashes hclash, hzero, .inl rfl⟩)
  | accept acceptance =>
    obtain rfl | ⟨link, rfl, hlink, -⟩ := linkAccepted_ok h
    · exact .inl ⟨rfl, rfl⟩
    · exact .inr (.inr ⟨acceptance, link, rfl, rfl, rfl, hlink⟩)
  | adopt adoption ids =>
    obtain ⟨⟨after, result⟩, hadopt, rfl⟩ := Ledger.map_ok h
    obtain rfl | ⟨_, _, _, _, hbooked⟩ := adoptOpenOrder_ok hadopt
    · exact .inl ⟨rfl, rfl⟩
    · exact .inr (.inl ⟨_, hbooked.orders, order?_of_clashes hbooked.freshOrder, rfl,
        .inr ⟨adoption, ids, _, rfl, hbooked.links, rfl, rfl⟩⟩)

/-- A transaction that moves no position and adds rows of which no stop gains one. -/
theorem StopsFound.added (h : StopsFound carried intentType s) {after : Tables} (hbook : after.book = s.tables.book)
    (hids : OrderIds after) (hread : ∀ id order, s.tables.order? id = some order → after.order? id = some order)
    (hold : ∀ order ∈ after.orders, order ∈ s.tables.orders ∨
      order.filledQuantity = 0 ∧ s.tables.order? order.id = none)
    (hlinks : ∀ link ∈ s.tables.links, link ∈ after.links)
    (hnew : ∀ link ∈ after.links, link ∈ s.tables.links ∨
      ∃ order, after.order? link.orderId = some order ∧ intentType order.orderIntentId ≠ some .protective) :
    StopsFound carried intentType (StopLedger.settled { s with tables := after }) := by
  have hstanding : ∀ w ∈ (StopLedger.settled { s with tables := after }).standing, w ∈ s.standing := fun w hw =>
    (mem_settled.mp hw).1
  constructor
  · rw [show (StopLedger.settled { s with tables := after }).tables.book = s.tables.book from hbook]
    exact h.sound
  · exact hids
  · intro row hrow
    obtain ⟨order, horder⟩ := Option.ne_none_iff_exists'.mp (h.ordered row hrow)
    exact Option.ne_none_iff_exists'.mpr ⟨order, hread _ _ horder⟩
  · intro link hlink
    rcases hnew link hlink with hbefore | ⟨order, horder, -⟩
    · obtain ⟨order, horder⟩ := Option.ne_none_iff_exists'.mp (h.linked link hbefore)
      exact Option.ne_none_iff_exists'.mpr ⟨order, hread _ _ horder⟩
    · exact Option.ne_none_iff_exists'.mpr ⟨order, horder⟩
  · intro order horder
    rcases hold order horder with hbefore | ⟨hzero, -⟩
    · exact h.filled order hbefore
    · exact hzero.ge
  · exact fun w hw => (mem_settled.mp hw).2
  · intro w hw order horder hprotective
    obtain ⟨known, hknown, -⟩ := h.open_ w (hstanding w hw)
    have hsame : known = order := Option.some.inj ((hread _ _ hknown).symm.trans horder)
    obtain ⟨hunfilled, link, hlink, hof⟩ := h.unfilled w (hstanding w hw) order (hsame ▸ hknown) hprotective
    exact ⟨hunfilled, link, hlinks link hlink, hof⟩
  · intro accountId instrumentId row hrow
    obtain ⟨hmem, haccount, hinstrument, hprotective, hunfilled, link, hlink, hof, hid⟩ := Trader.mem_stopRows.mp hrow
    have hstored : after.order? row.1.id = some row.1 := hids.order? hmem
    -- a link that is new is of no stop, so the row was looked up before
    have hbefore : link ∈ s.tables.links := by
      rcases hnew link hlink with hbefore | ⟨order, horder, hother⟩
      · exact hbefore
      · rw [hof, hstored] at horder
        exact absurd (Option.some.inj horder ▸ hprotective) hother
    have hmemBefore : row.1 ∈ s.tables.orders := by
      rcases hold row.1 hmem with hmemBefore | ⟨-, hfree⟩
      · exact hmemBefore
      · exact absurd (hof ▸ hfree) (h.linked link hbefore)
    obtain ⟨-, -, -, -, ⟨p, hp, hcreated⟩, hstands⟩ := h.found accountId instrumentId row
      (Trader.mem_stopRows.mpr ⟨hmemBefore, haccount, hinstrument, hprotective, hunfilled, link, hbefore, hof, hid⟩)
    obtain ⟨order, horder, hopen⟩ := h.open_ _ hstands
    refine ⟨hstored, haccount, hinstrument, hprotective, ⟨p, ?_, ?_⟩,
      mem_settled.mpr ⟨hstands, order, hread _ _ horder, hopen⟩⟩
    · exact (congrArg (·.position? accountId instrumentId) hbook).trans hp
    · rw [← hcreated]
      exact createdInOpenLifecycle_moved (congrArg (·.openLifecycles p.id) hbook) (.refl row.1)

/-- A transaction that is neither an execution nor a status event. -/
theorem StopsFound.other (hzero : arith.clamp 0 = 0) (h : StopsFound carried intentType s) {event : LedgerEvent}
    {after : Tables} (hfill : ∀ fill, event ≠ .fill fill) (hstatus : ∀ report, event ≠ .status report)
    (hkept : WorkingStopKept carried intentType s (.ledger event)) (hperform : perform arith hashes s.tables event = .ok after) :
    StopsFound carried intentType (StopLedger.settled { s with tables := after }) := by
  have hbook := perform_book hfill hperform
  rcases perform_rows hzero hfill hstatus hperform with
    ⟨horders, hlinks⟩ | ⟨row, horders, hfree, hunfilled, hlinks⟩ | ⟨acceptance, link, rfl, horders, hlinks, hof⟩
  · have hread : ∀ id, after.order? id = s.tables.order? id := fun id =>
      congrArg (Rows.lookup Ledger.PersistedOrder.id · id) horders
    refine h.added hbook ?_ (fun id order horder => (hread id).trans horder) ?_ ?_ ?_
    · unfold OrderIds
      rw [horders]
      exact h.ids
    · exact fun order horder => .inl (horders ▸ horder)
    · exact fun link hlink => hlinks ▸ hlink
    · exact fun link hlink => .inl (hlinks ▸ hlink)
  · have hids : OrderIds after := h.ids.of_added horders hfree
    have hread : ∀ id order, s.tables.order? id = some order → after.order? id = some order := by
      intro id order horder
      unfold Tables.order? Rows.lookup at horder ⊢
      rw [horders, List.find?_append, horder, Option.some_or]
    have hrow : after.order? row.id = some row := by
      refine hids.order? ?_
      rw [horders]
      exact List.mem_append_right _ (List.mem_singleton_self row)
    have hold : ∀ order ∈ after.orders, order ∈ s.tables.orders ∨
        order.filledQuantity = 0 ∧ s.tables.order? order.id = none := by
      intro order horder
      rw [horders] at horder
      rcases List.mem_append.mp horder with hbefore | hadded
      · exact .inl hbefore
      · rw [List.mem_singleton.mp hadded]
        exact .inr ⟨hunfilled, hfree⟩
    rcases hlinks with hlinks | ⟨adoption, ids, link, rfl, hlinks, hof, hintent⟩
    · exact h.added hbook hids hread hold (fun link hlink => hlinks ▸ hlink) fun link hlink => .inl (hlinks ▸ hlink)
    · have hadopted : intentType ids.intentId ≠ some .protective := hkept
      refine h.added hbook hids hread hold (fun link hlink => hlinks ▸ List.mem_append_left _ hlink) fun other hother => ?_
      rw [hlinks] at hother
      rcases List.mem_append.mp hother with hbefore | hnew
      · exact .inl hbefore
      · rw [List.mem_singleton.mp hnew, hof]
        exact .inr ⟨row, hrow, hintent ▸ hadopted⟩
  · obtain ⟨order, horder, hother⟩ : ∃ order, s.tables.order? acceptance.orderId = some order ∧
        intentType order.orderIntentId ≠ some .protective := hkept
    have hread : ∀ id, after.order? id = s.tables.order? id := fun id =>
      congrArg (Rows.lookup Ledger.PersistedOrder.id · id) horders
    refine h.added hbook ?_ (fun id order horder => (hread id).trans horder) ?_ ?_ ?_
    · unfold OrderIds
      rw [horders]
      exact h.ids
    · exact fun order horder => .inl (horders ▸ horder)
    · exact fun link hlink => hlinks ▸ List.mem_append_left _ hlink
    · intro new hnew
      rw [hlinks] at hnew
      rcases List.mem_append.mp hnew with hbefore | hadded
      · exact .inl hbefore
      · rw [List.mem_singleton.mp hadded, hof, hread]
        exact .inr ⟨order, horder, hother⟩

/-! ### Status events -/

/-- An order row a status event left, and what it was before. -/
theorem row_before {t after : Tables} (honly : StatusOnly t after) (hids : OrderIds t) {order : Ledger.PersistedOrder}
    (hmem : order ∈ after.orders) :
    ∃ old, t.order? order.id = some old ∧ SameOrder old order ∧ order.filledQuantity = old.filledQuantity := by
  have hterms : order.terms ∈ t.orders.map Ledger.PersistedOrder.terms := honly.orders ▸ List.mem_map_of_mem hmem
  obtain ⟨old, hold, hsame⟩ := List.mem_map.mp hterms
  obtain ⟨hrow, hfilled⟩ := sameOrder_of_terms hsame.symm
  exact ⟨old, hrow.id ▸ hids.order? hold, hrow, hfilled⟩

theorem row_after {t after : Tables} (honly : StatusOnly t after) {id : UUID} {old : Ledger.PersistedOrder}
    (h : t.order? id = some old) :
    ∃ order, after.order? id = some order ∧ SameOrder old order ∧ order.filledQuantity = old.filledQuantity := by
  have hread := honly.order? id
  rw [h, Option.map_some] at hread
  obtain ⟨order, horder, hterms⟩ := Option.map_eq_some_iff.mp hread
  obtain ⟨hrow, hfilled⟩ := sameOrder_of_terms hterms
  exact ⟨order, horder, hrow, hfilled⟩

/-- The links of a broker order, before and after a status event. -/
theorem mem_links_iff {t after : Tables} (honly : StatusOnly t after) {orderId : UUID} {brokerOrderId : String} :
    (∃ link ∈ after.links, link.orderId = orderId ∧ link.brokerOrderId = brokerOrderId) ↔
      ∃ link ∈ t.links, link.orderId = orderId ∧ link.brokerOrderId = brokerOrderId := by
  have hiff : ∀ links : List BrokerOrderLink, (∃ link ∈ links, link.orderId = orderId ∧ link.brokerOrderId = brokerOrderId) ↔
      ∃ link ∈ links.map linkTerms, link.orderId = orderId ∧ link.brokerOrderId = brokerOrderId := by
    intro links
    constructor
    · rintro ⟨link, hlink, hof⟩
      exact ⟨linkTerms link, List.mem_map_of_mem hlink, hof⟩
    · rintro ⟨_, hmem, hof⟩
      obtain ⟨link, hlink, rfl⟩ := List.mem_map.mp hmem
      exact ⟨link, hlink, hof⟩
  rw [hiff, honly.links, ← hiff]

theorem StopsFound.status (h : StopsFound carried intentType s) {event : BrokerOrderStatusEvent} {after : Tables}
    {outcome : BrokerStatusApplication} (hkept : WorkingStopKept carried intentType s (.ledger (.status event)))
    (happly : applyStatusOnce s.tables event = .ok (after, outcome)) :
    StopsFound carried intentType (StopLedger.settled { s with tables := after }) := by
  have honly := StatusOnly.event happly
  have hids : OrderIds after := h.ids.status honly
  constructor
  · rw [show (StopLedger.settled { s with tables := after }).tables.book = s.tables.book from honly.book]
    exact h.sound
  · exact hids
  · intro row hrow
    obtain ⟨old, hold⟩ := Option.ne_none_iff_exists'.mp (h.ordered row hrow)
    obtain ⟨order, horder, -⟩ := row_after honly hold
    exact Option.ne_none_iff_exists'.mpr ⟨order, horder⟩
  · intro link hlink
    obtain ⟨before, hbefore, horder, -⟩ := (mem_links_iff honly).mp ⟨link, hlink, rfl, rfl⟩
    obtain ⟨old, hold⟩ := Option.ne_none_iff_exists'.mp (h.linked before hbefore)
    obtain ⟨order, hstored, -⟩ := row_after honly hold
    exact Option.ne_none_iff_exists'.mpr ⟨order, horder ▸ hstored⟩
  · intro order hmem
    obtain ⟨old, hold, -, hfilled⟩ := row_before honly h.ids hmem
    rw [hfilled]
    exact h.filled old (List.mem_of_find?_eq_some hold)
  · exact fun w hw => (mem_settled.mp hw).2
  · intro w hw order horder hprotective
    obtain ⟨old, hold, hsame, hfilled⟩ := row_before honly h.ids (List.mem_of_find?_eq_some horder)
    rw [show order.id = w.1 from Rows.lookup_key horder] at hold
    obtain ⟨hunfilled, hlink⟩ := h.unfilled w (mem_settled.mp hw).1 old hold (hsame.intent ▸ hprotective)
    exact ⟨hfilled.trans hunfilled, (mem_links_iff honly).mpr hlink⟩
  · intro accountId instrumentId row hrow
    obtain ⟨hmem, haccount, hinstrument, hprotective, hunfilled, hlink⟩ := Trader.mem_stopRows.mp hrow
    obtain ⟨old, hold, hsame, hfilled⟩ := row_before honly h.ids hmem
    rw [hsame.id] at hold hlink
    have hbefore : (old, row.2) ∈ stopRows intentType s.toProtectionStore accountId instrumentId :=
      Trader.mem_stopRows.mpr ⟨List.mem_of_find?_eq_some hold, hsame.account.symm.trans haccount,
        hsame.instrument.symm.trans hinstrument, hsame.intent ▸ hprotective, hfilled.symm.trans hunfilled,
        (mem_links_iff honly).mp hlink⟩
    obtain ⟨-, -, -, -, ⟨p, hp, hcreated⟩, hstands⟩ := h.found accountId instrumentId _ hbefore
    have hstored : after.order? row.1.id = some row.1 := hids.order? hmem
    have hopen := hkept after outcome happly accountId instrumentId _ hbefore row.1 (hsame.id ▸ hstored)
    refine ⟨hstored, haccount, hinstrument, hprotective, ⟨p, ?_, ?_⟩, mem_settled.mpr ⟨?_, row.1, hstored, hopen⟩⟩
    · exact (congrArg (·.position? accountId instrumentId) honly.book).trans hp
    · rw [← hcreated]
      exact createdInOpenLifecycle_moved (congrArg (·.openLifecycles p.id) honly.book) hsame
    · rw [hsame.id]
      exact hstands

/-! ### Executions -/

theorem filledStatus_whole (requested : ℚ) : filledStatus requested requested = .filled := by
  unfold filledStatus
  rw [if_neg (lt_irrefl _), if_pos rfl]

/-- An execution that keeps the stops. -/
theorem StopsFound.applied (hc : Carries arith carried) (h : StopsFound carried intentType s)
    {event : BrokerExecutionEvent} {after : Tables} {anchors : RiskBudgetAnchor × RiskBudgetAnchor}
    {order : Ledger.PersistedOrder} {stored : ℚ} (happlied : Applied arith s.tables after anchors order stored event)
    (hcarried : FillCarried carried s.tables (.fill event)) (hkeeps : ExecutionKeepsStops carried intentType s event order) :
    StopsFound carried intentType (StopLedger.settled { s with tables := after }) := by
  obtain ⟨hquantity, hnext⟩ := hcarried happlied.unrecorded
  have hlocked := lockForFill_ok happlied.locked
  have horderId : order.id = event.orderId := Rows.lookup_key hlocked.found
  have hids : OrderIds after := h.ids.applied happlied
  have htotal : filledTotal arith order event = order.filledQuantity + event.quantity := hc.fix _ hkeeps.total
  have hstored : stored = order.filledQuantity + event.quantity := by
    have hcolumn := happlied.total
    rw [htotal, hc.store _ hkeeps.total] at hcolumn
    exact (Except.ok.inj hcolumn).symm
  have hpositive : 0 < stored := by
    rw [hstored]
    exact add_pos_of_nonneg_of_pos (h.filled order (List.mem_of_find?_eq_some hlocked.found)) event.terms.1
  have hread : ∀ id old, s.tables.order? id = some old → id ≠ event.orderId → after.order? id = some old := by
    intro id old hold hne
    rw [happlied.order?, hold, Option.map_some, if_neg hne]
  have hown : after.order? event.orderId = some (order.fill (filledTotal arith order event) stored) := by
    rw [happlied.order?, hlocked.found, Option.map_some, if_pos rfl]
  have hkeepsRow : ∀ id, s.tables.order? id ≠ none → after.order? id ≠ none := by
    intro id hid
    obtain ⟨old, hold⟩ := Option.ne_none_iff_exists'.mp hid
    rw [happlied.order?, hold]
    exact Option.some_ne_none _
  -- the row of another order is the one it was
  have hother : ∀ id row, after.order? id = some row → id ≠ event.orderId → s.tables.order? id = some row := by
    intro id row hrow hne
    rw [happlied.order?] at hrow
    obtain ⟨old, hold, heq⟩ := Option.map_eq_some_iff.mp hrow
    rw [if_neg hne] at heq
    exact heq ▸ hold
  constructor
  · exact applyToPosition_sound hc h.sound.draw hquantity hnext happlied.book
  · exact hids
  · exact fun row hrow => hkeepsRow _ (h.ordered row hrow)
  · exact fun link hlink => hkeepsRow _ (h.linked link (happlied.links ▸ hlink))
  · intro row hrow
    have hrowStored : after.order? row.id = some row := hids.order? hrow
    by_cases hid : row.id = event.orderId
    · rw [hid, hown] at hrowStored
      rw [← Option.some.inj hrowStored]
      exact hpositive.le
    · exact h.filled row (List.mem_of_find?_eq_some (hother _ _ hrowStored hid))
  · exact fun w hw => (mem_settled.mp hw).2
  · intro w hw row hrow hprotective
    obtain ⟨hstands, open_, hopen, hworking⟩ := mem_settled.mp hw
    by_cases hid : w.1 = event.orderId
    · -- a stop that stood was unfilled, so it is filled whole and stands no more
      rw [hid] at hrow hopen
      have hfilledRow : order.fill (filledTotal arith order event) stored = row := Option.some.inj (hown.symm.trans hrow)
      have hprotectiveOrder : intentType order.orderIntentId = some .protective := by
        rw [← hfilledRow] at hprotective
        exact hprotective
      obtain ⟨hunfilled, -⟩ := h.unfilled w hstands order (hid ▸ hlocked.found) hprotectiveOrder
      have hwhole := hkeeps.whole hprotectiveOrder hunfilled
      have hended : (order.fill (filledTotal arith order event) stored).status.isTerminal = true := by
        show (filledStatus order.requestedQuantity (filledTotal arith order event)).isTerminal = true
        rw [htotal, hunfilled, zero_add, hwhole, filledStatus_whole]
        rfl
      rw [Option.some.inj (hown.symm.trans hopen), hworking] at hended
      cases hended
    · obtain ⟨hunfilled, link, hlink, hof⟩ := h.unfilled w hstands row (hother _ _ hrow hid) hprotective
      exact ⟨hunfilled, link, happlied.links.symm ▸ hlink, hof⟩
  · intro accountId instrumentId row hrow
    obtain ⟨hmem, haccount, hinstrument, hprotective, hunfilled, link, hlink, hof, hid⟩ := Trader.mem_stopRows.mp hrow
    have hrowStored : after.order? row.1.id = some row.1 := hids.order? hmem
    have hne : row.1.id ≠ event.orderId := by
      intro hsame
      rw [hsame, hown] at hrowStored
      rw [← Option.some.inj hrowStored] at hunfilled
      exact hpositive.ne' hunfilled
    have hbeforeStored := hother _ _ hrowStored hne
    have hbefore : row ∈ stopRows intentType s.toProtectionStore accountId instrumentId :=
      Trader.mem_stopRows.mpr ⟨List.mem_of_find?_eq_some hbeforeStored, haccount, hinstrument, hprotective, hunfilled,
        link, happlied.links ▸ hlink, hof, hid⟩
    obtain ⟨-, -, -, -, ⟨p, hp, hcreated⟩, hstands⟩ := h.found accountId instrumentId row hbefore
    obtain ⟨old, hold, hopen⟩ := h.open_ _ hstands
    have hcontinues : Continues s.tables.book event accountId instrumentId := by
      intro haccountEvent hinstrumentEvent
      by_contra hends
      have hending := hkeeps.ending (fun hcontinues => hends (by
        rw [haccountEvent, hinstrumentEvent]
        exact hcontinues rfl rfl))
      rw [haccountEvent, hinstrumentEvent] at hbefore
      exact hne ((hending row hbefore).trans horderId)
    obtain ⟨p', hp', hpid, hlifecycles⟩ := happlied.continues hc h.sound hquantity hnext hp hcontinues
    refine ⟨hrowStored, haccount, hinstrument, hprotective, ⟨p', hp', ?_⟩,
      mem_settled.mpr ⟨hstands, old, hread _ _ hold hne, hopen⟩⟩
    rw [hpid, ← hcreated]
    exact createdInOpenLifecycle_moved hlifecycles (.refl row.1)

/-! ### Commands and answers -/

/-- Commands of orders that are stored. -/
theorem StopsFound.recommanded (h : StopsFound carried intentType s) {commands : List PersistedOrderCommand}
    (hordered : ∀ row ∈ commands, s.tables.order? row.orderId ≠ none) :
    StopsFound carried intentType { s with commands := commands } where
  sound := h.sound
  ids := h.ids
  ordered := hordered
  linked := h.linked
  filled := h.filled
  open_ := h.open_
  unfilled := h.unfilled
  found accountId instrumentId row hrow := by
    obtain ⟨hstored, haccount, hinstrument, hprotective, hlifecycle, hstands⟩ := h.found accountId instrumentId row hrow
    exact ⟨hstored, haccount, hinstrument, hprotective, hlifecycle, hstands⟩

theorem mem_answer {store : ProtectionStore} {commandId : UUID} {state : ResultState} {moment : Instant}
    {row : PersistedOrderCommand} (h : row ∈ store.answer commandId state moment) :
    ∃ old ∈ store.commands, row.orderId = old.orderId := by
  obtain ⟨old, hold, ⟨-, rfl⟩ | ⟨-, rfl⟩⟩ := mem_answered.mp h
  · exact ⟨old, hold, rfl⟩
  · exact ⟨row, hold, rfl⟩

theorem StopsFound.commanded (h : StopsFound carried intentType s) (command : BrokerOrderCommand) :
    StopsFound carried intentType { s with commands := withCommand s.toProtectionStore command } := by
  refine h.recommanded fun row hrow => ?_
  unfold withCommand at hrow
  split at hrow
  · exact h.ordered row hrow
  split at hrow
  · rename_i new _ hnew
    rcases List.mem_append.mp hrow with hold | hadded
    · exact h.ordered row hold
    · rw [List.mem_singleton.mp hadded]
      rw [Bool.and_eq_true] at hnew
      exact Option.ne_none_iff_isSome.mpr hnew.1
  · exact h.ordered row hrow

theorem StopsFound.refused (h : StopsFound carried intentType s) (commandId : UUID) (state : ResultState) (moment : Instant) :
    StopsFound carried intentType { s with toProtectionStore := s.recordTerminal commandId state moment } := by
  unfold ProtectionStore.recordTerminal
  split
  · exact h
  split
  · exact h
  · refine h.recommanded fun row hrow => ?_
    obtain ⟨old, hold, horder⟩ := mem_answer hrow
    rw [horder]
    exact h.ordered old hold

/-- What an acceptance leaves recorded: the orders and the positions as they were, and of the links at
most one new one, of the order and the broker order that was accepted. -/
structure Recorded (s : ProtectionStore) (row : PersistedOrderCommand) (brokerId : UUID) (brokerOrderId : String)
    (recorded : ProtectionStore) : Prop where
  orders : recorded.tables.orders = s.tables.orders
  book : recorded.tables.book = s.tables.book
  ordered : ∀ command ∈ recorded.commands, ∃ old ∈ s.commands, command.orderId = old.orderId
  links : ∀ link ∈ s.tables.links, link ∈ recorded.tables.links
  new : ∀ link ∈ recorded.tables.links,
    link ∈ s.tables.links ∨ link.orderId = row.orderId ∧ link.brokerOrderId = brokerOrderId
  linked : untrimmed brokerOrderId = false →
    (∀ link ∈ s.tables.links, link.brokerId = brokerId → link.brokerOrderId = brokerOrderId → link.orderId = row.orderId) →
    ∃ link ∈ recorded.tables.links, link.orderId = row.orderId ∧ link.brokerOrderId = brokerOrderId

/-- A link is there already, or is added, unless the broker order is linked elsewhere. -/
theorem linkAccepted_links {t : Tables} {a : Acceptance}
    (hfree : ∀ link ∈ t.links, link.brokerId = a.brokerId → link.brokerOrderId = a.brokerOrderId → link.orderId = a.orderId) :
    ∃ after, linkAccepted t a = .ok after ∧
      ∃ link ∈ after.links, link.orderId = a.orderId ∧ link.brokerOrderId = a.brokerOrderId := by
  unfold linkAccepted
  split
  · rename_i hlinked
    obtain ⟨link, hlink, hof⟩ := List.any_eq_true.mp hlinked
    simp only [Tables.linksOf, List.mem_filter, Bool.and_eq_true, decide_eq_true_eq] at hlink hof
    exact ⟨t, rfl, link, hlink.1, hlink.2, hof.2⟩
  · rename_i hunlinked
    split
    · rename_i htaken
      obtain ⟨link, hlink, hof⟩ := List.any_eq_true.mp htaken
      simp only [Bool.and_eq_true, decide_eq_true_eq] at hof
      refine absurd (List.any_eq_true.mpr ⟨link, ?_, ?_⟩) hunlinked
      · unfold Tables.linksOf
        exact List.mem_filter.mpr ⟨hlink, decide_eq_true (hfree link hlink hof.1 hof.2)⟩
      · simp only [Bool.and_eq_true, decide_eq_true_eq]
        exact hof
    · exact ⟨_, rfl, _, List.mem_append_right _ (List.mem_singleton_self _), rfl, rfl⟩

theorem recorded_ok {store recorded : ProtectionStore} {row : PersistedOrderCommand} {linkId brokerId : UUID}
    {brokerOrderId : String} {moment : Instant} (h : store.recordAccepted row linkId brokerId brokerOrderId moment = .ok recorded) :
    Recorded store row brokerId brokerOrderId recorded := by
  unfold ProtectionStore.recordAccepted at h
  split at h
  · cases h
  obtain ⟨tables, hlink, h⟩ := bind_ok.mp h
  obtain rfl := Except.ok.inj h
  have hcommands : ∀ command ∈ store.answer row.id .accepted moment, ∃ old ∈ store.commands, command.orderId = old.orderId :=
    fun _ hcommand => mem_answer hcommand
  have hlinked : (∀ link ∈ store.tables.links, link.brokerId = brokerId → link.brokerOrderId = brokerOrderId →
      link.orderId = row.orderId) → ∃ link ∈ tables.links, link.orderId = row.orderId ∧ link.brokerOrderId = brokerOrderId := by
    intro hfree
    obtain ⟨after, hafter, hexists⟩ := linkAccepted_links
      (a := ⟨linkId, row.orderId, brokerId, brokerOrderId, row.commandType⟩) hfree
    rw [hlink] at hafter
    exact Except.ok.inj hafter ▸ hexists
  obtain rfl | ⟨link, rfl, horder, -, hid, -⟩ := linkAccepted_ok hlink
  · exact ⟨rfl, rfl, hcommands, fun _ hlink => hlink, fun _ hlink => .inl hlink, fun _ => hlinked⟩
  · refine ⟨rfl, rfl, hcommands, fun _ hlink => List.mem_append_left _ hlink, fun other hother => ?_, fun _ => hlinked⟩
    rcases List.mem_append.mp hother with hold | hnew
    · exact .inl hold
    · rw [List.mem_singleton.mp hnew]
      exact .inr ⟨horder, hid⟩

/-- An acceptance that cannot be recorded. -/
theorem recorded_error {store : ProtectionStore} {row : PersistedOrderCommand} {linkId brokerId : UUID}
    {brokerOrderId : String} {moment : Instant} {e : PyError}
    (h : store.recordAccepted row linkId brokerId brokerOrderId moment = .error e) :
    Recorded store row brokerId brokerOrderId store := by
  refine ⟨rfl, rfl, fun command hcommand => ⟨command, hcommand, rfl⟩, fun _ hlink => hlink, fun _ hlink => .inl hlink, ?_⟩
  intro htrimmed hfree
  obtain ⟨after, hafter, -⟩ := linkAccepted_links
    (a := ⟨linkId, row.orderId, brokerId, brokerOrderId, row.commandType⟩) hfree
  unfold ProtectionStore.recordAccepted at h
  rw [if_neg (by rw [htrimmed]; exact Bool.false_ne_true), hafter] at h
  cases h

section Accepted

variable {row : PersistedOrderCommand} {brokerId : UUID} {brokerOrderId : String} {standing : List (UUID × String)}
  {w : UUID × String}

theorem of_mem_brokerAccepts (h : w ∈ brokerAccepts row brokerOrderId standing) :
    w ∈ standing ∨ row.commandType ≠ .cancel ∧ w = (row.orderId, brokerOrderId) := by
  unfold brokerAccepts at h
  cases htype : row.commandType with
  | submit =>
    rw [htype] at h
    rcases List.mem_append.mp h with hold | hnew
    · exact .inl hold
    · exact .inr ⟨by decide, List.mem_singleton.mp hnew⟩
  | cancel =>
    rw [htype] at h
    exact .inl (List.mem_filter.mp h).1
  | replace =>
    rw [htype] at h
    rcases List.mem_append.mp h with hold | hnew
    · exact .inl (List.mem_filter.mp hold).1
    · exact .inr ⟨by decide, List.mem_singleton.mp hnew⟩

/-- The answer to a command leaves the broker orders of other orders. -/
theorem mem_brokerAccepts_of_ne (h : w ∈ standing) (hne : w.1 ≠ row.orderId) :
    w ∈ brokerAccepts row brokerOrderId standing := by
  have hother : w ∈ standing.filter fun w => !(w.1 = row.orderId && some w.2 = row.targetBrokerOrderId) := by
    refine List.mem_filter.mpr ⟨h, ?_⟩
    simp [hne]
  unfold brokerAccepts
  cases row.commandType with
  | submit => exact List.mem_append_left _ h
  | cancel => exact hother
  | replace => exact List.mem_append_left _ hother

/-- A replacement that keeps the id of what it replaces. -/
theorem mem_brokerAccepts_replace (htype : row.commandType = .replace) (htarget : row.targetBrokerOrderId = some brokerOrderId)
    (h : w ∈ standing) : w ∈ brokerAccepts row brokerOrderId standing := by
  unfold brokerAccepts
  rw [htype]
  by_cases hsame : w = (row.orderId, brokerOrderId)
  · exact List.mem_append_right _ (List.mem_singleton.mpr hsame)
  · refine List.mem_append_left _ (List.mem_filter.mpr ⟨h, ?_⟩)
    rw [htarget]
    simp only [Bool.not_eq_true', Bool.and_eq_false_iff, decide_eq_false_iff_not, Option.some.injEq]
    by_contra hboth
    rw [not_or, not_not, not_not] at hboth
    exact hsame (Prod.ext hboth.1 hboth.2)

/-- An acceptance that keeps the stop it is of. -/
theorem StopsFound.accepted (h : StopsFound carried intentType s) {recorded : ProtectionStore} {order : Ledger.PersistedOrder}
    (horder : s.tables.order? row.orderId = some order)
    (hrecorded : Recorded s.toProtectionStore row brokerId brokerOrderId recorded)
    (hkept : intentType order.orderIntentId = some .protective →
      (order.filledQuantity = 0 → AcceptanceKeepsStop s row brokerId brokerOrderId order) ∧
      (order.filledQuantity ≠ 0 → order.status.isTerminal = true ∨ row.commandType = .cancel)) :
    StopsFound carried intentType (StopLedger.settled ⟨recorded, brokerAccepts row brokerOrderId s.standing⟩) := by
  have hread : ∀ id, recorded.tables.order? id = s.tables.order? id := fun id =>
    congrArg (Rows.lookup Ledger.PersistedOrder.id · id) hrecorded.orders
  have horderId : order.id = row.orderId := Rows.lookup_key horder
  have hids : OrderIds recorded.tables := by
    unfold OrderIds
    rw [hrecorded.orders]
    exact h.ids
  constructor
  · rw [show (StopLedger.settled ⟨recorded, brokerAccepts row brokerOrderId s.standing⟩).tables.book = s.tables.book from
      hrecorded.book]
    exact h.sound
  · exact hids
  · intro command hcommand
    obtain ⟨old, hold, hsame⟩ := hrecorded.ordered command hcommand
    show recorded.tables.order? command.orderId ≠ none
    rw [hread, hsame]
    exact h.ordered old hold
  · intro link hlink
    show recorded.tables.order? link.orderId ≠ none
    rw [hread]
    rcases hrecorded.new link hlink with hold | ⟨hof, -⟩
    · exact h.linked link hold
    · rw [hof, horder]
      exact Option.some_ne_none _
  · exact fun old hold => h.filled old (hrecorded.orders ▸ hold)
  · exact fun w hw => (mem_settled.mp hw).2
  · intro w hw stored hstored hprotective
    obtain ⟨hstands, open_, hopen, hworking⟩ := mem_settled.mp hw
    have hbefore : s.tables.order? w.1 = some stored := (hread w.1).symm.trans hstored
    have hopenBefore : s.tables.order? w.1 = some open_ := (hread w.1).symm.trans hopen
    rcases of_mem_brokerAccepts hstands with hold | ⟨hnotCancel, rfl⟩
    · obtain ⟨hunfilled, link, hlink, hof⟩ := h.unfilled w hold stored hbefore hprotective
      exact ⟨hunfilled, link, hrecorded.links link hlink, hof⟩
    · have hsame : order = stored := Option.some.inj (horder.symm.trans hbefore)
      have hsameOpen : order = open_ := Option.some.inj (horder.symm.trans hopenBefore)
      rw [← hsame] at hprotective ⊢
      obtain ⟨hnone, hsome⟩ := hkept hprotective
      by_cases hunfilled : order.filledQuantity = 0
      · refine ⟨hunfilled, ?_⟩
        have hkeeps := hnone hunfilled
        unfold AcceptanceKeepsStop at hkeeps
        cases htype : row.commandType with
        | submit =>
          rw [htype] at hkeeps
          obtain ⟨htrimmed, -, -, -, hfree⟩ := hkeeps
          exact hrecorded.linked htrimmed fun link hlink hbroker hid => (hfree link hlink hbroker hid).trans horderId
        | cancel => exact absurd htype hnotCancel
        | replace =>
          rw [htype] at hkeeps
          obtain ⟨-, link, hlink, hof⟩ := h.unfilled _ hkeeps.2 order (horderId ▸ horder) hprotective
          exact ⟨link, hrecorded.links link hlink, hof.1.trans horderId, hof.2⟩
      · rcases hsome hunfilled with hended | hcancel
        · rw [hsameOpen, hworking] at hended
          cases hended
        · exact absurd hcancel hnotCancel
  · intro accountId instrumentId stop hstop
    obtain ⟨hmem, haccount, hinstrument, hprotective, hunfilled, link, hlink, hof, hid⟩ := Trader.mem_stopRows.mp hstop
    have hmemBefore : stop.1 ∈ s.tables.orders := hrecorded.orders ▸ hmem
    have hstored : recorded.tables.order? stop.1.id = some stop.1 := hids.order? hmem
    have hstoredBefore : s.tables.order? stop.1.id = some stop.1 := h.ids.order? hmemBefore
    have hlookedUp : ∀ id, (∃ link ∈ s.tables.links, link.orderId = stop.1.id ∧ link.brokerOrderId = id) →
        StandingStop intentType s accountId instrumentId (stop.1, id) := fun id hexists =>
      h.found _ _ _ (Trader.mem_stopRows.mpr ⟨hmemBefore, haccount, hinstrument, hprotective, hunfilled, hexists⟩)
    have hstands : ∀ w, w ∈ brokerAccepts row brokerOrderId s.standing → w.1 = stop.1.id → stop.1.status.isTerminal = false →
        w ∈ (StopLedger.settled ⟨recorded, brokerAccepts row brokerOrderId s.standing⟩).standing :=
      fun w hw hwid hopen => mem_settled.mpr ⟨hw, stop.1, hwid ▸ hstored, hopen⟩
    have hopenOf : ∀ id, (stop.1.id, id) ∈ s.standing → stop.1.status.isTerminal = false := by
      intro id hmemStanding
      obtain ⟨open_, hopen, hworking⟩ := h.open_ _ hmemStanding
      rw [Option.some.inj (hstoredBefore.symm.trans hopen)]
      exact hworking
    have hlifecycleOf : (∃ p, s.tables.book.position? accountId instrumentId = some p ∧
          createdInOpenLifecycle s.tables p.id stop.1 = true) →
        ∃ p, recorded.tables.book.position? accountId instrumentId = some p ∧
          createdInOpenLifecycle recorded.tables p.id stop.1 = true := by
      rintro ⟨p, hp, hcreated⟩
      refine ⟨p, (congrArg (·.position? accountId instrumentId) hrecorded.book).trans hp, ?_⟩
      rw [← hcreated]
      exact createdInOpenLifecycle_moved (congrArg (·.openLifecycles p.id) hrecorded.book) (.refl stop.1)
    by_cases hmine : stop.1.id = row.orderId
    · have hsame : order = stop.1 := by
        rw [hmine, horder] at hstoredBefore
        exact Option.some.inj hstoredBefore
      have hkeeps := (hkept (hsame ▸ hprotective)).1 (hsame ▸ hunfilled)
      unfold AcceptanceKeepsStop at hkeeps
      cases htype : row.commandType with
      | submit =>
        rw [htype] at hkeeps
        obtain ⟨-, hopen, hlifecycle, honly, -⟩ := hkeeps
        rw [hsame] at hopen hlifecycle honly
        rw [haccount, hinstrument] at hlifecycle
        have hsecond : stop.2 = brokerOrderId := by
          rcases hrecorded.new link hlink with hold | ⟨-, hnew⟩
          · exact hid.symm.trans (honly link hold hof)
          · exact hid.symm.trans hnew
        refine ⟨hstored, haccount, hinstrument, hprotective, hlifecycleOf hlifecycle, hstands _ ?_ rfl hopen⟩
        unfold brokerAccepts
        rw [htype, hsecond, hmine]
        exact List.mem_append_right _ (List.mem_singleton_self _)
      | cancel =>
        rw [htype] at hkeeps
        exact hkeeps.elim
      | replace =>
        rw [htype] at hkeeps
        obtain ⟨htarget, hstanding⟩ := hkeeps
        rw [hsame] at hstanding
        have hlink : ∃ link ∈ s.tables.links, link.orderId = stop.1.id ∧ link.brokerOrderId = stop.2 := by
          rcases hrecorded.new link hlink with hold | ⟨-, hnew⟩
          · exact ⟨link, hold, hof, hid⟩
          · obtain ⟨-, linked, hlinked, hlinkedOf⟩ := h.unfilled _ hstanding stop.1 hstoredBefore hprotective
            exact ⟨linked, hlinked, hlinkedOf.1, hlinkedOf.2.trans (hnew.symm.trans hid)⟩
        have hbefore := hlookedUp stop.2 hlink
        exact ⟨hstored, haccount, hinstrument, hprotective, hlifecycleOf hbefore.lifecycle,
          hstands _ (mem_brokerAccepts_replace htype htarget hbefore.standing) rfl (hopenOf _ hbefore.standing)⟩
    · have hold : link ∈ s.tables.links := by
        rcases hrecorded.new link hlink with hold | ⟨hnew, -⟩
        · exact hold
        · exact absurd (hof.symm.trans hnew) hmine
      have hbefore := hlookedUp stop.2 ⟨link, hold, hof, hid⟩
      exact ⟨hstored, haccount, hinstrument, hprotective, hlifecycleOf hbefore.lifecycle,
        hstands _ (mem_brokerAccepts_of_ne hbefore.standing hmine) rfl (hopenOf _ hbefore.standing)⟩

end Accepted

/-! ### Runs -/

theorem StopsFound.step (hc : Carries arith carried) (hzero : arith.clamp 0 = 0) (h : StopsFound carried intentType s)
    {event : WorkingStopEvent} (hkept : WorkingStopKept carried intentType s event) :
    StopsFound carried intentType (s.step arith hashes event) := by
  cases event with
  | commanded command => exact h.commanded command
  | refused commandId state moment => exact h.refused commandId state moment
  | accepted commandId linkId brokerId brokerOrderId moment =>
    unfold StopLedger.step
    dsimp only
    split
    · exact h
    rename_i row hrow
    split
    · exact h
    rename_i hnew
    obtain ⟨order, horder⟩ := Option.ne_none_iff_exists'.mp (h.ordered row (List.mem_of_find?_eq_some hrow))
    cases hrecord : s.recordAccepted row linkId brokerId brokerOrderId moment with
    | error e => exact h.accepted horder (recorded_error hrecord) (hkept row hrow hnew order horder)
    | ok recorded => exact h.accepted horder (recorded_ok hrecord) (hkept row hrow hnew order horder)
  | ledger event =>
    have hsettled : StopsFound carried intentType s.settled := by
      have hall : s.standing.filter (fun w => (s.tables.order? w.1).any fun order => !order.status.isTerminal) = s.standing := by
        refine List.filter_eq_self.mpr fun w hw => ?_
        obtain ⟨order, horder, hopen⟩ := h.open_ w hw
        rw [horder, Option.any_some, hopen]
        rfl
      unfold StopLedger.settled
      rw [hall]
      exact h
    refine step_keeps (I := fun tables => StopsFound carried intentType (StopLedger.settled { s with tables := tables })) hsettled
      fun after hperform => ?_
    by_cases hfill : ∃ fill, event = .fill fill
    · obtain ⟨fill, rfl⟩ := hfill
      obtain ⟨⟨_, result⟩, happly, rfl⟩ := Ledger.map_ok hperform
      rcases applyEventOnce_ok happly with ⟨-, existing, -, rfl | rfl⟩ | ⟨-, anchors, order, stored, happlied⟩
      · exact hsettled
      · exact h.added rfl h.ids (fun _ _ horder => horder) (fun _ horder => .inl horder) (fun _ hlink => hlink)
          fun _ hlink => .inl hlink
      · exact h.applied hc happlied hkept.1 (hkept.2 happlied.unrecorded order (lockForFill_ok happlied.locked).found)
    by_cases hstatus : ∃ report, event = .status report
    · obtain ⟨report, rfl⟩ := hstatus
      obtain ⟨⟨_, outcome⟩, happly, rfl⟩ := Ledger.map_ok hperform
      exact h.status hkept happly
    · exact h.other hzero (fun fill heq => hfill ⟨fill, heq⟩) (fun report heq => hstatus ⟨report, heq⟩) hkept hperform

end Tracked

/-- In every ledger a history leaves that began without positions, commands and links of stops. -/
theorem working_stop_found (hashes : AdoptionHashes) (intentType : UUID → Option IntentType)
    (prefers : StopRow → StopRow → Bool) (s : StopLedger) (hnothing : NothingHeld s.tables.book) (hids : OrderIds s.tables)
    (hfilled : ∀ order ∈ s.tables.orders, 0 ≤ order.filledQuantity)
    (hlinks : ∀ link ∈ s.tables.links, ∃ order, s.tables.order? link.orderId = some order ∧
      intentType order.orderIntentId ≠ some .protective)
    (hcommands : s.commands = []) (hstanding : s.standing = []) (events : List WorkingStopEvent)
    (hkept : RunMeets (StopLedger.step .decimal28 hashes) (WorkingStopKept (OnGrid 28 (-18)) intentType) s events)
    (accountId instrumentId : UUID) :
    FindsWorkingStop intentType (runFrom (StopLedger.step .decimal28 hashes) s events) accountId instrumentId prefers := by
  have hstart : StopsFound (OnGrid 28 (-18)) intentType s := by
    refine ⟨hnothing.sound, hids, ?_, ?_, hfilled, ?_, ?_, ?_⟩
    · rw [hcommands]
      exact fun row hrow => absurd hrow List.not_mem_nil
    · intro link hlink
      obtain ⟨order, horder, -⟩ := hlinks link hlink
      exact Option.ne_none_iff_exists'.mpr ⟨order, horder⟩
    · rw [hstanding]
      exact fun w hw => absurd hw List.not_mem_nil
    · rw [hstanding]
      exact fun w hw => absurd hw List.not_mem_nil
    · intro accountId instrumentId row hrow
      obtain ⟨hmem, -, -, hprotective, -, link, hlink, hof, -⟩ := mem_stopRows.mp hrow
      obtain ⟨order, horder, hother⟩ := hlinks link hlink
      rw [hof, hids.order? hmem] at horder
      exact absurd (Option.some.inj horder ▸ hprotective) hother
  exact (run_invariant (fun _ _ h hkept => h.step Carries.decimal28 (clamp_decimal28 onGrid_zero) hkept) hstart hkept).finds
    accountId instrumentId prefers

/-! ### A stop that outlives its lifecycle -/

private def workingStopOrder : Ledger.PersistedOrder :=
  { Ledger.sampleOrder .sell 3 with
    id := rowUuid 13, orderIntentId := rowUuid 16, brokerClientOrderId := "client-2", triggerPrice := some (1 / 2), createdAt := 20 }

private def exitOrder : Ledger.PersistedOrder :=
  { Ledger.sampleOrder .sell 3 with
    id := rowUuid 23, orderIntentId := rowUuid 26, brokerClientOrderId := "client-3", createdAt := 40 }

/-- An entry of three, the stop behind it and a full exit; the stop is not sent yet. -/
private def entryStopExit : StopLedger where
  tables := sampleTables [Ledger.sampleOrder .buy 3, workingStopOrder, exitOrder]
    [sampleLink (rowUuid 3) "ACKNOWLEDGED",
      { sampleLink (rowUuid 23) "ACKNOWLEDGED" with id := rowUuid 27, brokerOrderId := "B3" }]
  commands := []
  standing := []

private theorem entryStopExit_ids : OrderIds entryStopExit.tables := by
  unfold OrderIds
  decide +kernel

private def intentTypes (intentId : UUID) : Option IntentType :=
  if intentId = rowUuid 16 then some .protective else some .entry

private def sendStop : BrokerOrderCommand :=
  { (sampleRow .submit .submitStrictReduction submits_reduction).toBrokerOrderCommand with orderId := rowUuid 13 }

/-- The entry fills and its stop is accepted. -/
private def entered : List WorkingStopEvent :=
  [.ledger (.fill (Ledger.sampleFill (rowUuid 3) "1" .buy 3 rat_three_pos)), .commanded sendStop,
    .accepted (sampleId 10) (rowUuid 17) (rowUuid 1) "B2" 30]

private def exited : WorkingStopEvent :=
  .ledger (.fill { Ledger.sampleFill (rowUuid 23) "2" .sell 3 rat_three_pos with brokerOrderId := "B3" })

private theorem entryStopExit_links : ∀ link ∈ entryStopExit.tables.links, ∃ order,
    entryStopExit.tables.order? link.orderId = some order ∧ intentTypes order.orderIntentId ≠ some .protective := by
  have hlinks : ∀ link ∈ entryStopExit.tables.links, ((entryStopExit.tables.order? link.orderId).any fun order =>
      decide (intentTypes order.orderIntentId ≠ some .protective)) = true := by decide +kernel
  intro link hlink
  obtain ⟨order, horder, hother⟩ := (Option.any_eq_true _ _).mp (hlinks link hlink)
  exact ⟨order, horder, of_decide_eq_true hother⟩

private theorem entryStopExit_filled : ∀ order ∈ entryStopExit.tables.orders, 0 ≤ order.filledQuantity := by
  decide +kernel

/-- The stop of the entry is found while it works. -/
theorem working_stop_found_entered :
    FindsWorkingStop intentTypes (runFrom (StopLedger.step .decimal28 noHashes) entryStopExit entered) (rowUuid 2) (rowUuid 4)
      (fun _ _ => false) := by
  refine working_stop_found noHashes intentTypes (fun _ _ => false) entryStopExit ⟨rfl, rfl, rfl⟩ entryStopExit_ids
    entryStopExit_filled entryStopExit_links rfl rfl entered ⟨⟨fun _ => ⟨?_, ?_⟩, fun _ order horder => ?_⟩, trivial, ?_, trivial⟩
    (rowUuid 2) (rowUuid 4)
  · exact ⟨3 * 10 ^ 18, by norm_num [Ledger.sampleFill], by norm_num⟩
  · exact ⟨3 * 10 ^ 18, by norm_num [Ledger.sampleFill, entryStopExit, sampleTables, noTables, Book.held, Book.position?, exactNext],
      by norm_num⟩
  · have hentry : entryStopExit.tables.order? (rowUuid 3) = some (Ledger.sampleOrder .buy 3) := by decide +kernel
    have hsame : Ledger.sampleOrder .buy 3 = order := Option.some.inj (hentry.symm.trans horder)
    have hnone : stopRows intentTypes entryStopExit.toProtectionStore (rowUuid 2) (rowUuid 4) = [] := by decide +kernel
    rw [← hsame]
    refine ⟨⟨3 * 10 ^ 18, by norm_num [Ledger.sampleOrder, Ledger.sampleFill], by norm_num⟩, fun hkind => ?_, fun _ row hrow => ?_⟩
    · exact absurd hkind (by decide +kernel)
    · exact absurd (hnone ▸ hrow) List.not_mem_nil
  · intro row hrow _ order horder _
    set before := StopLedger.step .decimal28 noHashes (StopLedger.step .decimal28 noHashes entryStopExit
      (.ledger (.fill (Ledger.sampleFill (rowUuid 3) "1" .buy 3 rat_three_pos)))) (.commanded sendStop) with hbefore
    have hcommands : ∀ row ∈ before.commands, row.orderId = rowUuid 13 ∧ row.commandType = .submit := by decide +kernel
    have hstored : before.tables.order? (rowUuid 13) = some workingStopOrder := by decide +kernel
    have hposition : ((before.tables.book.position? (rowUuid 2) (rowUuid 4)).any fun p =>
        createdInOpenLifecycle before.tables p.id workingStopOrder) = true := by decide +kernel
    have hlinks : ∀ link ∈ before.tables.links, link.orderId ≠ rowUuid 13 ∧ link.brokerOrderId ≠ "B2" := by decide +kernel
    obtain ⟨hof, htype⟩ := hcommands row (List.mem_of_find?_eq_some hrow)
    rw [hof] at horder
    have hsame : workingStopOrder = order := Option.some.inj (hstored.symm.trans horder)
    rw [← hsame]
    refine ⟨fun _ => ?_, fun hfilled => absurd rfl hfilled⟩
    unfold AcceptanceKeepsStop
    rw [htype]
    obtain ⟨p, hp, hcreated⟩ := (Option.any_eq_true _ _).mp hposition
    exact ⟨by decide, rfl, ⟨p, hp, hcreated⟩, fun link hlink hlinkOf => absurd hlinkOf (hlinks link hlink).1,
      fun link hlink _ hid => absurd hid (hlinks link hlink).2⟩

/-- The position is closed by the exit, and its stop is still found. -/
theorem working_stop_of_closed_lifecycle :
    ¬∀ (intentType : UUID → Option IntentType) (s : StopLedger) (events : List WorkingStopEvent), NothingHeld s.tables.book →
      OrderIds s.tables → (∀ order ∈ s.tables.orders, 0 ≤ order.filledQuantity) →
      (∀ link ∈ s.tables.links, ∃ order, s.tables.order? link.orderId = some order ∧
        intentType order.orderIntentId ≠ some .protective) → s.commands = [] → s.standing = [] →
      ∀ accountId instrumentId, FindsWorkingStop intentType (runFrom (StopLedger.step .decimal28 noHashes) s events)
        accountId instrumentId (fun _ _ => false) := by
  intro h
  have hfinds := h intentTypes entryStopExit (entered ++ [exited]) ⟨rfl, rfl, rfl⟩ entryStopExit_ids entryStopExit_filled
    entryStopExit_links rfl rfl (rowUuid 2) (rowUuid 4)
  set after := runFrom (StopLedger.step .decimal28 noHashes) entryStopExit (entered ++ [exited]) with hafter
  have hsome : (workingStop intentTypes (fun _ _ => false) after.toProtectionStore (rowUuid 2) (rowUuid 4)).isSome = true := by
    decide +kernel
  have hclosed : ∀ p ∈ after.tables.book.positions, after.tables.book.openLifecycles p.id = [] := by decide +kernel
  obtain ⟨row, hrow⟩ := Option.isSome_iff_exists.mp hsome
  obtain ⟨p, hp, hcreated⟩ := (hfinds.1 row hrow).lifecycle
  unfold createdInOpenLifecycle at hcreated
  rw [hclosed p (List.mem_of_find?_eq_some hp)] at hcreated
  cases hcreated

end AutoTrader.Trader
