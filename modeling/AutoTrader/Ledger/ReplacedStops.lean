import AutoTrader.Execution.Reconciliation
import AutoTrader.Ledger.System
import AutoTrader.Ledger.WriterEffects

/-! Protective orders that a broker accepted and replaced, and the open orders of either side.
The ledger joins its working orders with every link they ever had; the broker keeps one open
order for each. -/

namespace AutoTrader.Ledger

open AutoTrader.Dispatch AutoTrader.Domain AutoTrader.Execution AutoTrader.Runtime

variable {arith : Arithmetic} {accountId brokerId : UUID}

/-- The row of an order and a broker order linked to it, when it is a working order of the account. -/
def internalRow (accountId : UUID) (brokerOrderId : String) (order : PersistedOrder) : Option InternalOpenOrder :=
  if order.accountId = accountId ∧ order.status.isWorking = true then
    some ⟨order.id, brokerOrderId, order.brokerClientOrderId⟩
  else none

/-- The row of a link. -/
def internalOrder (t : Tables) (accountId : UUID) (link : BrokerOrderLink) : Option InternalOpenOrder :=
  (t.order? link.orderId).bind (internalRow accountId link.brokerOrderId)

/-- `ReconciliationRepository.internal_open_orders`. -/
def internalOpenOrders (t : Tables) (accountId : UUID) : List InternalOpenOrder :=
  (t.links.filterMap (internalOrder t accountId)).insertionSort fun a b => a.brokerOrderId ≤ b.brokerOrderId

/-- The ledger, and the ids of the orders that are open at the broker. -/
structure Venue where
  tables : Tables
  openOrders : List String

/-- An order is created; the broker accepts its submission; the broker accepts the replacement
of one of its open orders. -/
inductive ProtectiveEvent
  | created (order : PersistedOrder) (event : PersistedOrderEvent)
  | submitted (acceptance : Acceptance)
  | replaced (target : String) (stopPrice : ℚ) (acceptance : Acceptance)

/-- What a transaction leaves; one that raises leaves everything. -/
def Tables.after (t : Tables) (result : Except PyError Tables) : Tables :=
  match result with
  | .ok after => after
  | .error _ => t

/-- The order `_replace_stop` amends before it is replaced, with the price as its column keeps it. -/
def Tables.amendStop (t : Tables) (orderId : UUID) (stopPrice : ℚ) : Tables :=
  t.updateOrder orderId fun order =>
    { order with triggerPrice := some stopPrice, aggregateVersion := order.aggregateVersion + 1 }

def Venue.step (arith : Arithmetic) (v : Venue) : ProtectiveEvent → Venue
  | .created order event => { v with tables := v.tables.after (createApprovedOrder arith v.tables order event) }
  | .submitted a => ⟨v.tables.after (linkAccepted v.tables a), v.openOrders ++ [a.brokerOrderId]⟩
  | .replaced target stopPrice a =>
    let amended := v.tables.amendStop a.orderId stopPrice
    ⟨amended.after (linkAccepted amended a), v.openOrders.filter (· ≠ target) ++ [a.brokerOrderId]⟩

/-- The broker never linked an order under the id. -/
def Unused (t : Tables) (brokerId : UUID) (brokerOrderId : String) : Prop :=
  ∀ link ∈ t.links, link.brokerId = brokerId → link.brokerOrderId ≠ brokerOrderId

/-- The broker accepts what the account sends it, under a new id; a replacement names an open
order that is linked to the order it moves, and keeps its id or gets a new one. -/
def Answered (accountId brokerId : UUID) (v : Venue) : ProtectiveEvent → Prop
  | .created _ _ => True
  | .submitted a => a.brokerId = brokerId ∧ Unused v.tables brokerId a.brokerOrderId ∧
      ∃ order, v.tables.order? a.orderId = some order ∧ order.accountId = accountId ∧ order.status.isWorking = true
  | .replaced target _ a => a.brokerId = brokerId ∧ target ∈ v.openOrders ∧
      (∃ link ∈ v.tables.links, link.orderId = a.orderId ∧ link.brokerId = brokerId ∧ link.brokerOrderId = target) ∧
      (a.brokerOrderId = target ∨ Unused v.tables brokerId a.brokerOrderId)

/-- A replacement keeps the broker order id of what it replaces. -/
def ProtectiveEvent.KeepsId : ProtectiveEvent → Prop
  | .replaced target _ a => a.brokerOrderId = target
  | _ => True

/-! ### The rows of a link -/

theorem internalOrder_eq_some {t : Tables} {link : BrokerOrderLink} {internal : InternalOpenOrder} :
    internalOrder t accountId link = some internal ↔
      ∃ order, t.order? link.orderId = some order ∧ (order.accountId = accountId ∧ order.status.isWorking = true) ∧
        internal = ⟨order.id, link.brokerOrderId, order.brokerClientOrderId⟩ := by
  unfold internalOrder internalRow
  rw [Option.bind_eq_some_iff]
  refine exists_congr fun order => and_congr_right fun _ => ?_
  split
  · rename_i hworking
    exact ⟨fun h => ⟨hworking, (Option.some.inj h).symm⟩, fun h => congrArg some h.2.symm⟩
  · rename_i hworking
    exact iff_of_false nofun fun h => hworking h.1

theorem internalOrder_id {t : Tables} {link : BrokerOrderLink} {internal : InternalOpenOrder}
    (h : internalOrder t accountId link = some internal) : internal.brokerOrderId = link.brokerOrderId := by
  obtain ⟨order, -, -, rfl⟩ := internalOrder_eq_some.mp h
  rfl

/-- Links of known orders have the same rows. -/
def SameOrders (accountId : UUID) (t after : Tables) : Prop :=
  ∀ link : BrokerOrderLink, (t.order? link.orderId).isSome = true →
    (after.order? link.orderId).isSome = true ∧ internalOrder after accountId link = internalOrder t accountId link

theorem SameOrders.of_orders {t after : Tables} (h : after.orders = t.orders) : SameOrders accountId t after := by
  intro link hlink
  have horder : after.order? link.orderId = t.order? link.orderId := by
    unfold Tables.order?
    rw [h]
  unfold internalOrder
  rw [horder]
  exact ⟨hlink, rfl⟩

theorem SameOrders.create {t after : Tables} {order : PersistedOrder} {event : PersistedOrderEvent}
    (h : createApprovedOrder arith t order event = .ok after) : SameOrders accountId t after := by
  obtain ⟨events, rfl | ⟨rfl, hnew, -⟩⟩ := createApprovedOrder_ok h
  · exact SameOrders.of_orders rfl
  · intro link hlink
    obtain ⟨known, hknown⟩ := Option.isSome_iff_exists.mp hlink
    have horder : Rows.lookup PersistedOrder.id
        (t.orders ++ [PersistedOrder.row arith { order with filledQuantity := 0 }]) link.orderId = some known := by
      unfold Rows.lookup
      rw [List.find?_append]
      have hfound : t.orders.find? (fun row => row.id = link.orderId) = some known := hknown
      rw [hfound]
      rfl
    unfold internalOrder Tables.order?
    dsimp only
    rw [horder]
    have hlookup : Rows.lookup PersistedOrder.id t.orders link.orderId = some known := hknown
    rw [hlookup]
    exact ⟨rfl, rfl⟩

theorem SameOrders.amend (t : Tables) (orderId : UUID) (stopPrice : ℚ) :
    SameOrders accountId t (t.amendStop orderId stopPrice) := by
  intro link hlink
  obtain ⟨order, horder⟩ := Option.isSome_iff_exists.mp hlink
  have hkey : ∀ old : PersistedOrder, ({ old with
      triggerPrice := some stopPrice, aggregateVersion := old.aggregateVersion + 1 } : PersistedOrder).id = old.id :=
    fun _ => rfl
  have hamended : (t.amendStop orderId stopPrice).order? link.orderId = (t.order? link.orderId).map fun old =>
      if link.orderId = orderId then
        { old with triggerPrice := some stopPrice, aggregateVersion := old.aggregateVersion + 1 }
      else old := Rows.lookup_update hkey t.orders orderId link.orderId
  have hrow : ∀ old : PersistedOrder, old.accountId = order.accountId → old.status = order.status → old.id = order.id →
      old.brokerClientOrderId = order.brokerClientOrderId →
        internalRow accountId link.brokerOrderId old = internalRow accountId link.brokerOrderId order := by
    intro old haccount hstatus hid hclient
    unfold internalRow
    rw [haccount, hstatus, hid, hclient]
  unfold internalOrder
  rw [hamended, horder]
  split
  · exact ⟨rfl, hrow _ rfl rfl rfl rfl⟩
  · exact ⟨rfl, rfl⟩

/-! ### What the ledger believes and what is open -/

/-- The ids of the links of working orders. -/
def believed (t : Tables) (accountId : UUID) : List String :=
  (t.links.filterMap (internalOrder t accountId)).map (·.brokerOrderId)

theorem mem_believed {t : Tables} {id : String} :
    id ∈ believed t accountId ↔
      ∃ link ∈ t.links, (internalOrder t accountId link).isSome = true ∧ link.brokerOrderId = id := by
  unfold believed
  constructor
  · intro h
    obtain ⟨internal, hmem, rfl⟩ := List.mem_map.mp h
    obtain ⟨link, hlink, hinternal⟩ := List.mem_filterMap.mp hmem
    exact ⟨link, hlink, by rw [hinternal]; rfl, (internalOrder_id hinternal).symm⟩
  · rintro ⟨link, hlink, hsome, rfl⟩
    obtain ⟨internal, hinternal⟩ := Option.isSome_iff_exists.mp hsome
    exact List.mem_map.mpr ⟨internal, List.mem_filterMap.mpr ⟨link, hlink, hinternal⟩, internalOrder_id hinternal⟩

/-- Every open order is linked to a working order, and ids are unique at either side. -/
structure Mirrored (accountId brokerId : UUID) (v : Venue) : Prop where
  known : ∀ link ∈ v.tables.links, (v.tables.order? link.orderId).isSome = true
  home : ∀ link ∈ v.tables.links, (internalOrder v.tables accountId link).isSome = true → link.brokerId = brokerId
  unique : ((v.tables.links.filter (·.brokerId = brokerId)).map (·.brokerOrderId)).Nodup
  distinct : v.openOrders.Nodup
  reported : ∀ id ∈ v.openOrders, id ∈ believed v.tables accountId

/-- The ledger believes an order open that is not. -/
def Missing (accountId : UUID) (v : Venue) : Prop :=
  ∃ id ∈ believed v.tables accountId, id ∉ v.openOrders

theorem believed_congr {t after : Tables} (hknown : ∀ link ∈ t.links, (t.order? link.orderId).isSome = true)
    (hsame : SameOrders accountId t after) (hlinks : after.links = t.links) :
    believed after accountId = believed t accountId := by
  unfold believed
  rw [hlinks]
  congr 1
  exact List.filterMap_congr fun link hlink => (hsame link (hknown link hlink)).2

/-- Amendments and orders that are created change nothing of it. -/
theorem Mirrored.same {v : Venue} {after : Tables} (h : Mirrored accountId brokerId v)
    (hsame : SameOrders accountId v.tables after) (hlinks : after.links = v.tables.links) :
    Mirrored accountId brokerId ⟨after, v.openOrders⟩ ∧
      (Missing accountId ⟨after, v.openOrders⟩ ↔ Missing accountId v) := by
  have hbelieved : believed after accountId = believed v.tables accountId := believed_congr h.known hsame hlinks
  constructor
  · refine ⟨?_, ?_, ?_, h.distinct, ?_⟩
    · intro link hlink
      rw [hlinks] at hlink
      exact (hsame link (h.known link hlink)).1
    · intro link hlink hinternal
      rw [hlinks] at hlink
      rw [(hsame link (h.known link hlink)).2] at hinternal
      exact h.home link hlink hinternal
    · rw [hlinks]
      exact h.unique
    · rw [hbelieved]
      exact h.reported
  · unfold Missing
    rw [hbelieved]

/-! ### An acceptance -/

section Accept

variable {t : Tables} {a : Acceptance}

/-- An order that is linked already stays as it is. -/
theorem linkAccepted_known {link : BrokerOrderLink} (hlink : link ∈ t.links) (horder : link.orderId = a.orderId)
    (hbroker : link.brokerId = a.brokerId) (hid : link.brokerOrderId = a.brokerOrderId) :
    t.after (linkAccepted t a) = t := by
  have hany : ((t.linksOf a.orderId).any fun link =>
      link.brokerId = a.brokerId && link.brokerOrderId = a.brokerOrderId) = true :=
    List.any_eq_true.mpr ⟨link, List.mem_filter.mpr ⟨hlink, by simpa using horder⟩, by simp [hbroker, hid]⟩
  unfold linkAccepted
  rw [if_pos hany]
  rfl

theorem linkAccepted_new (hunused : Unused t a.brokerId a.brokerOrderId) :
    ∃ link, t.after (linkAccepted t a) = { t with links := t.links ++ [link] } ∧ link.orderId = a.orderId ∧
      link.brokerId = a.brokerId ∧ link.brokerOrderId = a.brokerOrderId := by
  have hnone : ∀ links : List BrokerOrderLink, (∀ link ∈ links, link ∈ t.links) →
      (links.any fun link => link.brokerId = a.brokerId && link.brokerOrderId = a.brokerOrderId) = false := by
    intro links hsub
    rw [List.any_eq_false]
    intro link hlink hsame
    simp only [Bool.and_eq_true, decide_eq_true_eq] at hsame
    exact hunused link (hsub link hlink) hsame.1 hsame.2
  unfold linkAccepted
  rw [hnone (t.linksOf a.orderId) fun link hlink => (List.mem_filter.mp hlink).1, hnone t.links fun _ h => h]
  exact ⟨_, rfl, rfl, rfl, rfl⟩

variable {v : Venue}

/-- Links of the broker with the same broker order are the same. -/
theorem Mirrored.link_unique (h : Mirrored accountId brokerId v) {link other : BrokerOrderLink}
    (hlink : link ∈ v.tables.links) (hother : other ∈ v.tables.links) (hbroker : link.brokerId = brokerId)
    (hotherBroker : other.brokerId = brokerId) (hid : link.brokerOrderId = other.brokerOrderId) : link = other :=
  List.inj_on_of_nodup_map h.unique (List.mem_filter.mpr ⟨hlink, by simpa using hbroker⟩)
    (List.mem_filter.mpr ⟨hother, by simpa using hotherBroker⟩) hid

theorem internal_sublist {links : List BrokerOrderLink} {t : Tables}
    (hhome : ∀ link ∈ links, (internalOrder t accountId link).isSome = true → link.brokerId = brokerId) :
    ((links.filterMap (internalOrder t accountId)).map (·.brokerOrderId)).Sublist
      ((links.filter (·.brokerId = brokerId)).map (·.brokerOrderId)) := by
  induction links with
  | nil => exact List.Sublist.slnil
  | cons link links ih =>
    have hrest := ih fun other hother => hhome other (List.mem_cons_of_mem link hother)
    cases hinternal : internalOrder t accountId link with
    | none =>
      rw [List.filterMap_cons_none hinternal]
      exact hrest.trans (((List.sublist_cons_self link links).filter _).map _)
    | some internal =>
      have hbroker := hhome link List.mem_cons_self (by rw [hinternal]; rfl)
      rw [List.filterMap_cons_some hinternal, List.filter_cons_of_pos (by simpa using hbroker), List.map_cons,
        List.map_cons, internalOrder_id hinternal]
      exact hrest.cons_cons _

theorem Mirrored.believed_nodup (h : Mirrored accountId brokerId v) : (believed v.tables accountId).Nodup :=
  h.unique.sublist (internal_sublist h.home)

theorem Mirrored.unused (h : Mirrored accountId brokerId v) {id : String} (hunused : Unused v.tables brokerId id) :
    id ∉ believed v.tables accountId := by
  intro hmem
  obtain ⟨link, hlink, hinternal, hid⟩ := mem_believed.mp hmem
  exact hunused link hlink (h.home link hlink hinternal) hid

/-- A new link of a working order is believed. -/
theorem Mirrored.link (h : Mirrored accountId brokerId v) (hbroker : a.brokerId = brokerId)
    (hunused : Unused v.tables brokerId a.brokerOrderId) {order : PersistedOrder}
    (horder : v.tables.order? a.orderId = some order) (haccount : order.accountId = accountId)
    (hworking : order.status.isWorking = true) {openOrders : List String} (hdistinct : openOrders.Nodup)
    (hopen : ∀ id ∈ openOrders, id ∈ v.openOrders) :
    believed (v.tables.after (linkAccepted v.tables a)) accountId = believed v.tables accountId ++ [a.brokerOrderId] ∧
      Mirrored accountId brokerId ⟨v.tables.after (linkAccepted v.tables a), openOrders ++ [a.brokerOrderId]⟩ := by
  obtain ⟨link, hafter, hlinkOrder, hlinkBroker, hlinkId⟩ := linkAccepted_new (hbroker ▸ hunused)
  rw [hafter]
  have hinternal : internalOrder v.tables accountId link = some ⟨order.id, a.brokerOrderId, order.brokerClientOrderId⟩ :=
    internalOrder_eq_some.mpr ⟨order, hlinkOrder ▸ horder, ⟨haccount, hworking⟩, by rw [hlinkId]⟩
  have hbelieved : believed { v.tables with links := v.tables.links ++ [link] } accountId =
      believed v.tables accountId ++ [a.brokerOrderId] := by
    show ((v.tables.links ++ [link]).filterMap (internalOrder v.tables accountId)).map _ = _
    rw [List.filterMap_append, List.map_append, List.filterMap_cons_some hinternal]
    rfl
  refine ⟨hbelieved, ?_, ?_, ?_, ?_, ?_⟩
  · intro other hother
    rcases List.mem_append.mp hother with hother | hother
    · exact h.known other hother
    · rw [List.mem_singleton.mp hother]
      show (v.tables.order? link.orderId).isSome = true
      rw [hlinkOrder, horder]
      rfl
  · intro other hother hsome
    rcases List.mem_append.mp hother with hother | hother
    · exact h.home other hother hsome
    · rw [List.mem_singleton.mp hother, hlinkBroker, hbroker]
  · show (((v.tables.links ++ [link]).filter _).map _).Nodup
    rw [List.filter_append, List.map_append, List.filter_cons_of_pos (by simpa using hlinkBroker.trans hbroker)]
    refine List.nodup_append.mpr ⟨h.unique, List.nodup_singleton _, fun id hid other hother => ?_⟩
    obtain ⟨known, hknown, rfl⟩ := List.mem_map.mp hid
    obtain rfl : other = link.brokerOrderId := List.mem_singleton.mp hother
    rw [hlinkId]
    exact hunused known (List.mem_filter.mp hknown).1 (by simpa using (List.mem_filter.mp hknown).2)
  · refine List.nodup_append.mpr ⟨hdistinct, List.nodup_singleton _, fun id hid other hother => ?_⟩
    rw [List.mem_singleton.mp hother]
    rintro rfl
    exact h.unused hunused (h.reported _ (hopen _ hid))
  · intro id hid
    rw [hbelieved]
    rcases List.mem_append.mp hid with hid | hid
    · exact List.mem_append_left _ (h.reported id (hopen id hid))
    · exact List.mem_append_right _ hid

end Accept

/-! ### Histories -/

/-- A step keeps the two sides mirrored, and an order is missing after it exactly when one was
or the step gave a replaced order a new id. -/
theorem Mirrored.step {v : Venue} {e : ProtectiveEvent} (h : Mirrored accountId brokerId v)
    (hanswered : Answered accountId brokerId v e) :
    Mirrored accountId brokerId (v.step arith e) ∧
      (Missing accountId (v.step arith e) ↔ Missing accountId v ∨ ¬e.KeepsId) := by
  cases e with
  | created order event =>
    have hsame : SameOrders accountId v.tables (v.tables.after (createApprovedOrder arith v.tables order event)) := by
      cases hcreate : createApprovedOrder arith v.tables order event with
      | error e => exact SameOrders.of_orders rfl
      | ok after => exact SameOrders.create hcreate
    have hlinks : (v.tables.after (createApprovedOrder arith v.tables order event)).links = v.tables.links := by
      cases hcreate : createApprovedOrder arith v.tables order event with
      | error e => rfl
      | ok after => obtain ⟨events, rfl | ⟨rfl, -⟩⟩ := createApprovedOrder_ok hcreate <;> rfl
    obtain ⟨hmirrored, hmissing⟩ := h.same hsame hlinks
    exact ⟨hmirrored, hmissing.trans (or_iff_left fun hmoved => hmoved trivial).symm⟩
  | submitted a =>
    obtain ⟨hbroker, hunused, order, horder, haccount, hworking⟩ := hanswered
    obtain ⟨hbelieved, hmirrored⟩ := h.link hbroker hunused horder haccount hworking h.distinct fun _ hid => hid
    refine ⟨hmirrored, Iff.trans ?_ (or_iff_left fun hmoved => hmoved trivial).symm⟩
    show (∃ id ∈ believed (v.tables.after (linkAccepted v.tables a)) accountId, id ∉ v.openOrders ++ [a.brokerOrderId]) ↔ _
    rw [hbelieved]
    constructor
    · rintro ⟨id, hid, hclosed⟩
      rw [List.mem_append, not_or] at hclosed
      exact ⟨id, (List.mem_append.mp hid).resolve_right hclosed.2, hclosed.1⟩
    · rintro ⟨id, hid, hclosed⟩
      refine ⟨id, List.mem_append_left _ hid, fun hmem => ?_⟩
      rcases List.mem_append.mp hmem with hmem | hmem
      · exact hclosed hmem
      · exact h.unused hunused (List.mem_singleton.mp hmem ▸ hid)
  | replaced target stopPrice a =>
    obtain ⟨hbroker, hopen, ⟨link, hlink, hlinkOrder, hlinkBroker, hlinkId⟩, hid⟩ := hanswered
    obtain ⟨hamended, hmissing⟩ := h.same (SameOrders.amend v.tables a.orderId stopPrice) rfl
    have hfilter : ∀ id, id ∈ v.openOrders.filter (· ≠ target) ↔ id ∈ v.openOrders ∧ id ≠ target := by
      intro id
      rw [List.mem_filter]
      simp
    by_cases hkeeps : a.brokerOrderId = target
    · -- the link is there already
      have hafter : (v.tables.amendStop a.orderId stopPrice).after
          (linkAccepted (v.tables.amendStop a.orderId stopPrice) a) = v.tables.amendStop a.orderId stopPrice :=
        linkAccepted_known hlink hlinkOrder (hlinkBroker.trans hbroker.symm) (hlinkId.trans hkeeps.symm)
      have hmembers : ∀ id, id ∈ v.openOrders.filter (· ≠ target) ++ [a.brokerOrderId] ↔ id ∈ v.openOrders := by
        intro id
        rw [List.mem_append, hfilter, List.mem_singleton, hkeeps]
        by_cases htarget : id = target
        · exact iff_of_true (.inr htarget) (htarget ▸ hopen)
        · simp [htarget]
      show Mirrored _ _ ⟨_, _⟩ ∧ (Missing _ ⟨_, _⟩ ↔ _)
      rw [hafter]
      refine ⟨⟨hamended.known, hamended.home, hamended.unique, ?_, fun id hmem => ?_⟩, ?_⟩
      · refine List.nodup_append.mpr ⟨h.distinct.filter _, List.nodup_singleton _, fun id hmem other hother => ?_⟩
        rw [List.mem_singleton.mp hother, hkeeps]
        exact ((hfilter id).mp hmem).2
      · exact hamended.reported id ((hmembers id).mp hmem)
      · rw [← hmissing, or_iff_left fun hmoved => hmoved hkeeps]
        exact exists_congr fun id => and_congr_right fun _ => not_congr (hmembers id)
    · have hunused := hid.resolve_left hkeeps
      obtain ⟨known, hknown, hinternal, hknownId⟩ := mem_believed.mp (h.reported target hopen)
      obtain rfl : known = link := h.link_unique hknown hlink (h.home known hknown hinternal) hlinkBroker
        (hknownId.trans hlinkId.symm)
      have hamendedInternal : (internalOrder (v.tables.amendStop a.orderId stopPrice) accountId known).isSome = true := by
        rw [(SameOrders.amend v.tables a.orderId stopPrice known (h.known known hknown)).2]
        exact hinternal
      obtain ⟨internal, heq⟩ := Option.isSome_iff_exists.mp hamendedInternal
      obtain ⟨order, horder, hworking, -⟩ := internalOrder_eq_some.mp heq
      rw [hlinkOrder] at horder
      obtain ⟨hbelieved, hmirrored⟩ := hamended.link hbroker hunused horder hworking.1 hworking.2
        (h.distinct.filter (· ≠ target)) fun id hmem => ((hfilter id).mp hmem).1
      refine ⟨hmirrored, iff_of_true ?_ (.inr hkeeps)⟩
      refine ⟨target, ?_, fun hmem => ?_⟩
      · show target ∈ believed ((v.tables.amendStop a.orderId stopPrice).after
          (linkAccepted (v.tables.amendStop a.orderId stopPrice) a)) accountId
        rw [hbelieved]
        exact List.mem_append_left _ (hamended.reported target hopen)
      · rcases List.mem_append.mp hmem with hmem | hmem
        · exact ((hfilter target).mp hmem).2 rfl
        · exact hkeeps (List.mem_singleton.mp hmem).symm

/-- After a history, an order is missing exactly when one was before or a replacement changed its
id. -/
theorem Mirrored.run {v : Venue} {events : List ProtectiveEvent} (h : Mirrored accountId brokerId v)
    (hmeets : RunMeets (Venue.step arith) (Answered accountId brokerId) v events) :
    Mirrored accountId brokerId (runFrom (Venue.step arith) v events) ∧
      (Missing accountId (runFrom (Venue.step arith) v events) ↔
        Missing accountId v ∨ ¬∀ e ∈ events, e.KeepsId) := by
  induction events generalizing v with
  | nil => exact ⟨h, by simp⟩
  | cons e events ih =>
    have hstep : Mirrored accountId brokerId (v.step arith e) ∧
        (Missing accountId (v.step arith e) ↔ Missing accountId v ∨ ¬e.KeepsId) := h.step hmeets.1
    obtain ⟨hstep, hmissing⟩ := hstep
    obtain ⟨hrun, hrest⟩ := ih hstep hmeets.2
    refine ⟨hrun, hrest.trans ?_⟩
    rw [hmissing, List.forall_mem_cons, not_and_or, or_assoc]

/-- Nothing is open: no working order of the account is linked, every link has its order, and
the broker's links name different broker orders. -/
structure Unopened (t : Tables) (accountId brokerId : UUID) : Prop where
  known : ∀ link ∈ t.links, (t.order? link.orderId).isSome = true
  unique : ((t.links.filter (·.brokerId = brokerId)).map (·.brokerOrderId)).Nodup
  idle : ∀ link ∈ t.links, internalOrder t accountId link = none

theorem Unopened.mirrored {t : Tables} (h : Unopened t accountId brokerId) :
    Mirrored accountId brokerId ⟨t, []⟩ ∧ ¬Missing accountId ⟨t, []⟩ := by
  refine ⟨⟨h.known, ?_, h.unique, List.nodup_nil, fun _ hid => absurd hid List.not_mem_nil⟩, ?_⟩
  · intro link hlink hsome
    rw [h.idle link hlink] at hsome
    cases hsome
  · rintro ⟨id, hid, -⟩
    obtain ⟨link, hlink, hsome, -⟩ := mem_believed.mp hid
    rw [h.idle link hlink] at hsome
    cases hsome

/-- A client id the broker echoes is the one of the order. -/
def Echoed (t : Tables) (snapshot : BrokerSnapshot) (brokerId : UUID) : Prop :=
  ∀ broker ∈ snapshot.openOrders, ∀ echo, broker.brokerClientOrderId = some echo →
    ∀ link ∈ t.links, link.brokerId = brokerId → link.brokerOrderId = broker.brokerOrderId →
      ∀ order, t.order? link.orderId = some order → echo = order.brokerClientOrderId

/-- A history reconciles clean exactly when every replacement kept the id of the order it
replaced and the broker echoes no other client id. -/
theorem replaced_clean_iff (arith : Arithmetic) (t : Tables) (accountId brokerId : UUID)
    (hstart : Unopened t accountId brokerId) (events : List ProtectiveEvent)
    (hanswered : RunMeets (Venue.step arith) (Answered accountId brokerId) ⟨t, []⟩ events) (now : Instant)
    (snapshot : BrokerSnapshot) (positions : List HeldPosition)
    (hsnapshot : (snapshot.openOrders.map (·.brokerOrderId)).Perm
      (runFrom (Venue.step arith) ⟨t, []⟩ events).openOrders) :
    openOrderDiffs (compare now snapshot
        (internalOpenOrders (runFrom (Venue.step arith) ⟨t, []⟩ events).tables accountId) positions) = [] ↔
      (∀ e ∈ events, e.KeepsId) ∧
        Echoed (runFrom (Venue.step arith) ⟨t, []⟩ events).tables snapshot brokerId := by
  obtain ⟨hmirrored, hnone⟩ := hstart.mirrored
  obtain ⟨hrun, hmissing⟩ := hmirrored.run hanswered
  rw [or_iff_right hnone] at hmissing
  generalize runFrom (Venue.step arith) ⟨t, []⟩ events = v at hsnapshot hrun hmissing ⊢
  have hbrokers : (snapshot.openOrders.map (·.brokerOrderId)).Nodup := hsnapshot.nodup_iff.mpr hrun.distinct
  have hopen : ∀ id, id ∈ v.openOrders ↔ ∃ broker ∈ snapshot.openOrders, broker.brokerOrderId = id := by
    intro id
    rw [← hsnapshot.mem_iff, List.mem_map]
  have hmem : ∀ internal, internal ∈ internalOpenOrders v.tables accountId ↔
      ∃ link ∈ v.tables.links, internalOrder v.tables accountId link = some internal := by
    intro internal
    unfold internalOpenOrders
    rw [List.mem_insertionSort, List.mem_filterMap]
  have hinternals : ((internalOpenOrders v.tables accountId).map (·.brokerOrderId)).Nodup :=
    ((List.perm_insertionSort _ _).map _).nodup_iff.mpr hrun.believed_nodup
  have hkeeps : (∀ e ∈ events, e.KeepsId) ↔ ¬Missing accountId v := by
    rw [hmissing, not_not]
  rw [openOrderDiffs_eq_nil hbrokers hinternals, hkeeps]
  constructor
  · rintro ⟨hcovered, -⟩
    refine ⟨?_, fun broker hbroker echo hecho link hlink hlinkBroker hlinkId order horder => ?_⟩
    · rintro ⟨id, hid, hclosed⟩
      obtain ⟨link, hlink, hsome, rfl⟩ := mem_believed.mp hid
      obtain ⟨internal, hinternal⟩ := Option.isSome_iff_exists.mp hsome
      obtain ⟨broker, hbroker, hbrokerId, -⟩ := hcovered internal ((hmem internal).mpr ⟨link, hlink, hinternal⟩)
      exact hclosed ((hopen _).mpr ⟨broker, hbroker, hbrokerId.trans (internalOrder_id hinternal)⟩)
    · obtain ⟨known, hknown, hsome, hknownId⟩ :=
        mem_believed.mp (hrun.reported _ ((hopen _).mpr ⟨broker, hbroker, rfl⟩))
      obtain rfl : known = link :=
        hrun.link_unique hknown hlink (hrun.home known hknown hsome) hlinkBroker (hknownId.trans hlinkId.symm)
      obtain ⟨internal, hinternal⟩ := Option.isSome_iff_exists.mp hsome
      obtain ⟨other, hother, hotherId, hechoed⟩ := hcovered internal ((hmem internal).mpr ⟨known, hlink, hinternal⟩)
      obtain rfl : other = broker := List.inj_on_of_nodup_map hbrokers hother hbroker
        ((hotherId.trans (internalOrder_id hinternal)).trans hlinkId)
      obtain ⟨found, hfound, -, rfl⟩ := internalOrder_eq_some.mp hinternal
      rw [horder, Option.some.injEq] at hfound
      rw [hfound]
      exact hechoed echo hecho
  · rintro ⟨hpresent, hechoed⟩
    refine ⟨fun internal hinternal => ?_, fun broker hbroker => ?_⟩
    · obtain ⟨link, hlink, hinternal⟩ := (hmem internal).mp hinternal
      have hsome : (internalOrder v.tables accountId link).isSome = true := by
        rw [hinternal]
        rfl
      have hid : link.brokerOrderId ∈ v.openOrders := by
        by_contra hclosed
        exact hpresent ⟨_, mem_believed.mpr ⟨link, hlink, hsome, rfl⟩, hclosed⟩
      obtain ⟨broker, hbroker, hbrokerId⟩ := (hopen _).mp hid
      refine ⟨broker, hbroker, hbrokerId.trans (internalOrder_id hinternal).symm, fun echo hecho => ?_⟩
      obtain ⟨order, horder, -, rfl⟩ := internalOrder_eq_some.mp hinternal
      exact hechoed broker hbroker echo hecho link hlink (hrun.home link hlink hsome) hbrokerId.symm order horder
    · obtain ⟨link, hlink, hsome, hlinkId⟩ :=
        mem_believed.mp (hrun.reported _ ((hopen _).mpr ⟨broker, hbroker, rfl⟩))
      obtain ⟨internal, hinternal⟩ := Option.isSome_iff_exists.mp hsome
      exact ⟨internal, (hmem internal).mpr ⟨link, hlink, hinternal⟩, (internalOrder_id hinternal).trans hlinkId⟩

/-! ### A stop that moves -/

/-- A stop that rests at its broker, before any link. -/
private def unlinked : Tables :=
  sampleTables [sampleOrder .sell 1] []

private theorem unlinked_unopened : Unopened unlinked (rowUuid 2) (rowUuid 1) :=
  ⟨fun _ h => absurd h List.not_mem_nil, List.nodup_nil, fun _ h => absurd h List.not_mem_nil⟩

private def acceptedAs (linkId : UUID) (brokerOrderId : String) (commandType : CommandType) : Acceptance :=
  ⟨linkId, rowUuid 3, rowUuid 1, brokerOrderId, commandType⟩

/-- The stop is accepted, and moved under an id. -/
private def movedTo (brokerOrderId : String) : List ProtectiveEvent :=
  [.submitted (acceptedAs (rowUuid 7) "S1" .submit),
    .replaced "S1" 95 (acceptedAs (rowUuid 8) brokerOrderId .replace)]

private def oneOpen (brokerOrderId : String) (h : brokerOrderId ≠ "") : BrokerSnapshot where
  brokerId := rowUuid 1
  accountId := rowUuid 2
  complete := true
  expiresAt := 60
  openOrders := [⟨brokerOrderId, none, 0, h, by decide⟩]
  positions := []
  distinct := List.nodup_nil

private theorem movedTo_answered (brokerOrderId : String) :
    RunMeets (Venue.step .decimal28) (Answered (rowUuid 2) (rowUuid 1)) ⟨unlinked, []⟩ (movedTo brokerOrderId) := by
  have hlinks : ((Venue.step .decimal28 ⟨unlinked, []⟩ (.submitted (acceptedAs (rowUuid 7) "S1" .submit))).tables.links) =
      [⟨rowUuid 7, rowUuid 3, rowUuid 1, "S1", 1, true, "ACTIVE"⟩] := by decide
  refine ⟨⟨rfl, fun _ hlink => absurd hlink List.not_mem_nil, sampleOrder .sell 1, rfl, rfl, rfl⟩,
    ⟨rfl, List.mem_cons_self, ?_,
      (eq_or_ne brokerOrderId "S1").imp id fun hne link hlink _ => ?_⟩, trivial⟩
  · rw [hlinks]
    exact ⟨_, List.mem_cons_self, rfl, rfl, rfl⟩
  · rw [hlinks, List.mem_singleton] at hlink
    rw [hlink]
    exact fun heq => hne heq.symm

/-- A stop that is moved under its own id reconciles. -/
theorem replaced_clean_iff_kept :
    openOrderDiffs (compare 0 (oneOpen "S1" (by decide))
      (internalOpenOrders (runFrom (Venue.step .decimal28) ⟨unlinked, []⟩ (movedTo "S1")).tables (rowUuid 2)) []) = [] := by
  refine (replaced_clean_iff .decimal28 unlinked (rowUuid 2) (rowUuid 1) unlinked_unopened (movedTo "S1")
    (movedTo_answered "S1") 0 (oneOpen "S1" (by decide)) [] (by decide)).mpr ⟨?_, ?_⟩
  · intro e he
    rcases List.mem_cons.mp he with rfl | he
    · trivial
    · rw [List.mem_singleton.mp he]
      rfl
  · intro broker hbroker echo hecho
    rw [List.mem_singleton.mp hbroker] at hecho
    cases hecho

/-- A stop that is moved under a new id does not. -/
theorem replaced_clean_fails_moved :
    ¬∀ (t : Tables) (accountId brokerId : UUID) (events : List ProtectiveEvent) (now : Instant)
        (snapshot : BrokerSnapshot) (positions : List HeldPosition), Unopened t accountId brokerId →
      RunMeets (Venue.step .decimal28) (Answered accountId brokerId) ⟨t, []⟩ events →
      (snapshot.openOrders.map (·.brokerOrderId)).Perm
        (runFrom (Venue.step .decimal28) ⟨t, []⟩ events).openOrders →
        openOrderDiffs (compare now snapshot
          (internalOpenOrders (runFrom (Venue.step .decimal28) ⟨t, []⟩ events).tables accountId) positions) = [] := by
  intro h
  have hclean := h unlinked (rowUuid 2) (rowUuid 1) (movedTo "S2") 0 (oneOpen "S2" (by decide)) [] unlinked_unopened
    (movedTo_answered "S2") (by decide)
  revert hclean
  decide +kernel

end AutoTrader.Ledger
