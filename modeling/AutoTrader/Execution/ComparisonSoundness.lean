import AutoTrader.Execution.Reconciliation
import Mathlib.Data.List.Dedup

/-! What a comparison without a difference says about the two sides. Either side is folded under its
keys before it is compared, and a key keeps its last entry. -/

namespace AutoTrader.Execution

open AutoTrader.Domain AutoTrader.Runtime

section Sides

variable (now : Instant) (snapshot : BrokerSnapshot) (orders : List InternalOpenOrder) (positions : List HeldPosition)

/-- `compare` returns no blocking difference. -/
def ComparesClean : Prop :=
  ∀ diff ∈ compare now snapshot orders positions, diff.blocking = false

/-- Both sides say the same, entry by entry. -/
structure SidesAgree : Prop where
  complete : snapshot.complete = true
  unexpired : now < snapshot.expiresAt
  orderIds : (snapshot.openOrders.map (·.brokerOrderId)).Perm (orders.map (·.brokerOrderId))
  echoes : ∀ broker ∈ snapshot.openOrders, ∀ internal ∈ orders, broker.brokerOrderId = internal.brokerOrderId →
    ∀ echo, broker.brokerClientOrderId = some echo → echo = internal.brokerClientOrderId
  held : (snapshot.positions.map fun p => (p.instrumentId, p.quantity)).Perm
    (positions.map fun p => (p.instrumentId, p.quantity))

/-- The last entries of the keys say the same. -/
structure LastEntriesAgree : Prop where
  complete : snapshot.complete = true
  unexpired : now < snapshot.expiresAt
  orderIds : ∀ id, id ∈ snapshot.openOrders.map (·.brokerOrderId) ↔ id ∈ orders.map (·.brokerOrderId)
  echoes : ∀ id broker internal, lastOf BrokerOpenOrder.brokerOrderId snapshot.openOrders id = some broker →
    lastOf InternalOpenOrder.brokerOrderId orders id = some internal →
    ∀ echo, broker.brokerClientOrderId = some echo → echo = internal.brokerClientOrderId
  instruments : ∀ id, id ∈ snapshot.positions.map (·.instrumentId) ↔ id ∈ positions.map (·.instrumentId)
  quantities : ∀ theirs ∈ snapshot.positions, ∀ ours,
    lastOf HeldPosition.instrumentId positions theirs.instrumentId = some ours → theirs.quantity = ours.quantity

/-- No entry is hidden by a later one of its key: ids stand equally often on both sides, every two entries
of one id agree on the client id, and an instrument is held once. -/
structure NothingHidden : Prop where
  orderIds : ∀ id, (snapshot.openOrders.map (·.brokerOrderId)).count id = (orders.map (·.brokerOrderId)).count id
  echoes : ∀ broker ∈ snapshot.openOrders, ∀ internal ∈ orders, broker.brokerOrderId = internal.brokerOrderId →
    ∀ echo, broker.brokerClientOrderId = some echo → echo = internal.brokerClientOrderId
  instruments : (positions.map (·.instrumentId)).Nodup

end Sides

variable {now : Instant} {snapshot : BrokerSnapshot} {orders : List InternalOpenOrder} {positions : List HeldPosition}

/-! ### What is reported -/

theorem internalDiff_none {brokers : List BrokerOpenOrder} {internal : InternalOpenOrder} :
    internalDiff (dictOf BrokerOpenOrder.brokerOrderId brokers) internal = none ↔
      ∃ broker, lastOf BrokerOpenOrder.brokerOrderId brokers internal.brokerOrderId = some broker ∧
        ∀ echo, broker.brokerClientOrderId = some echo → echo = internal.brokerClientOrderId := by
  unfold internalDiff
  rw [Dict.get?_dictOf_last]
  cases lastOf BrokerOpenOrder.brokerOrderId brokers internal.brokerOrderId with
  | none => simp
  | some broker =>
    cases hecho : broker.brokerClientOrderId with
    | none => simp [hecho]
    | some echo => simp [hecho]

theorem brokerDiff_none {internals : List InternalOpenOrder} {broker : BrokerOpenOrder} :
    brokerDiff (dictOf InternalOpenOrder.brokerOrderId internals) broker = none ↔
      broker.brokerOrderId ∈ internals.map (·.brokerOrderId) := by
  unfold brokerDiff
  rw [Dict.get?_dictOf_last, ← lastOf_isSome]
  cases lastOf InternalOpenOrder.brokerOrderId internals broker.brokerOrderId <;> simp

/-- Every difference blocks. -/
theorem compare_blocking {diff : ReconciliationDiff} (h : diff ∈ compare now snapshot orders positions) :
    diff.blocking = true := by
  unfold compare at h
  simp only [List.mem_append] at h
  rcases h with (((h | h) | h) | h) | h
  · split at h
    · cases h
    · rw [List.mem_singleton.mp h]
      rfl
  · split at h
    · rw [List.mem_singleton.mp h]
      rfl
    · cases h
  · obtain ⟨entry, -, hdiff⟩ := List.mem_filterMap.mp h
    unfold internalDiff at hdiff
    split at hdiff
    · cases hdiff
      rfl
    · split at hdiff
      · cases hdiff
        rfl
      · cases hdiff
  · obtain ⟨entry, -, hdiff⟩ := List.mem_filterMap.mp h
    unfold brokerDiff at hdiff
    split at hdiff
    · cases hdiff
      rfl
    · cases hdiff
  · obtain ⟨id, -, hdiff⟩ := List.mem_filterMap.mp h
    dsimp only at hdiff
    split at hdiff
    · cases hdiff
      rfl
    · cases hdiff
      rfl
    · split at hdiff
      · cases hdiff
        rfl
      · cases hdiff

theorem comparesClean_iff : ComparesClean now snapshot orders positions ↔ compare now snapshot orders positions = [] := by
  constructor
  · intro h
    refine List.eq_nil_iff_forall_not_mem.mpr fun diff hdiff => ?_
    have hblocking := compare_blocking hdiff
    rw [h diff hdiff] at hblocking
    cases hblocking
  · intro h diff hdiff
    rw [h] at hdiff
    cases hdiff

/-- Of the open orders nothing is reported exactly when the last orders of the ids agree. -/
theorem orderDiffs_nil {brokers : List BrokerOpenOrder} :
    ((dictOf InternalOpenOrder.brokerOrderId orders).filterMap fun entry =>
          internalDiff (dictOf BrokerOpenOrder.brokerOrderId brokers) entry.2) = [] ∧
        ((dictOf BrokerOpenOrder.brokerOrderId brokers).filterMap fun entry =>
          brokerDiff (dictOf InternalOpenOrder.brokerOrderId orders) entry.2) = [] ↔
      (∀ id, id ∈ brokers.map (·.brokerOrderId) ↔ id ∈ orders.map (·.brokerOrderId)) ∧
        ∀ id broker internal, lastOf BrokerOpenOrder.brokerOrderId brokers id = some broker →
          lastOf InternalOpenOrder.brokerOrderId orders id = some internal →
          ∀ echo, broker.brokerClientOrderId = some echo → echo = internal.brokerClientOrderId := by
  rw [List.filterMap_eq_nil_iff, List.filterMap_eq_nil_iff]
  constructor
  · rintro ⟨hinternal, hbroker⟩
    have hfound : ∀ {id internal}, lastOf InternalOpenOrder.brokerOrderId orders id = some internal →
        ∃ broker, lastOf BrokerOpenOrder.brokerOrderId brokers id = some broker ∧
          ∀ echo, broker.brokerClientOrderId = some echo → echo = internal.brokerClientOrderId := by
      intro id internal hlast
      obtain ⟨broker, hbrokerLast, hechoes⟩ := internalDiff_none.mp (hinternal (id, internal) (mem_dictOf.mpr hlast))
      exact ⟨broker, (lastOf_some hlast).2 ▸ hbrokerLast, hechoes⟩
    refine ⟨fun id => ⟨fun h => ?_, fun h => ?_⟩, fun id broker internal hbrokerLast hlast => ?_⟩
    · obtain ⟨broker, hlast⟩ := exists_last h
      have hlisted := brokerDiff_none.mp (hbroker (id, broker) (mem_dictOf.mpr hlast))
      rwa [(lastOf_some hlast).2] at hlisted
    · obtain ⟨internal, hlast⟩ := exists_last h
      obtain ⟨broker, hbrokerLast, -⟩ := hfound hlast
      exact mem_keys hbrokerLast
    · obtain ⟨found, hfoundLast, hechoes⟩ := hfound hlast
      rw [hbrokerLast] at hfoundLast
      cases hfoundLast
      exact hechoes
  · rintro ⟨hids, hechoes⟩
    refine ⟨fun ⟨id, internal⟩ hentry => ?_, fun ⟨id, broker⟩ hentry => ?_⟩
    · have hlast := mem_dictOf.mp hentry
      obtain ⟨hmem, hid⟩ := lastOf_some hlast
      obtain ⟨broker, hbrokerLast⟩ := exists_last ((hids id).mpr (mem_keys hlast))
      exact internalDiff_none.mpr ⟨broker, hid ▸ hbrokerLast, hechoes id broker internal hbrokerLast hlast⟩
    · have hlast := mem_dictOf.mp hentry
      refine brokerDiff_none.mpr ?_
      show broker.brokerOrderId ∈ _
      rw [(lastOf_some hlast).2]
      exact (hids id).mp (mem_keys hlast)

/-- Of the positions nothing is reported exactly when the last ones of the instruments agree. -/
theorem positionDiffs_nil {broker internal : List HeldPosition} (hdistinct : (broker.map (·.instrumentId)).Nodup) :
    positionDiffs broker internal = [] ↔
      (∀ id, id ∈ broker.map (·.instrumentId) ↔ id ∈ internal.map (·.instrumentId)) ∧
        ∀ theirs ∈ broker, ∀ ours, lastOf HeldPosition.instrumentId internal theirs.instrumentId = some ours →
          theirs.quantity = ours.quantity := by
  unfold positionDiffs
  dsimp only
  rw [List.filterMap_eq_nil_iff]
  simp only [List.mem_insertionSort, List.mem_dedup, List.map_append, List.mem_append, Dict.get?_dictOf_last]
  constructor
  · intro h
    have hboth : ∀ id, id ∈ broker.map (·.instrumentId) ∨ id ∈ internal.map (·.instrumentId) →
        ∃ theirs ours, lastOf HeldPosition.instrumentId broker id = some theirs ∧
          lastOf HeldPosition.instrumentId internal id = some ours ∧ theirs.quantity = ours.quantity := by
      intro id hid
      have hid := h id hid
      cases htheirs : lastOf HeldPosition.instrumentId broker id with
      | none => simp [htheirs] at hid
      | some theirs =>
        cases hours : lastOf HeldPosition.instrumentId internal id with
        | none => simp [htheirs, hours] at hid
        | some ours => exact ⟨theirs, ours, rfl, rfl, by simpa [htheirs, hours] using hid⟩
    refine ⟨fun id => ⟨fun hid => ?_, fun hid => ?_⟩, fun theirs hmem ours hours => ?_⟩
    · obtain ⟨-, ours, -, hours, -⟩ := hboth id (.inl hid)
      exact mem_keys hours
    · obtain ⟨theirs, -, htheirs, -⟩ := hboth id (.inr hid)
      exact mem_keys htheirs
    · obtain ⟨theirs', ours', htheirs, hours', heq⟩ := hboth _ (.inl (List.mem_map.mpr ⟨theirs, hmem, rfl⟩))
      rw [lastOf_of_mem hdistinct hmem] at htheirs
      rw [hours] at hours'
      cases htheirs
      cases hours'
      exact heq
  · rintro ⟨hids, hquantities⟩ id hid
    have hbroker : id ∈ broker.map (·.instrumentId) := hid.elim (fun h => h) (hids id).mpr
    obtain ⟨theirs, htheirs⟩ := exists_last hbroker
    obtain ⟨ours, hours⟩ := exists_last ((hids id).mp hbroker)
    obtain ⟨hmem, hkey⟩ := lastOf_some htheirs
    simp [htheirs, hours, hquantities theirs hmem ours (hkey ▸ hours)]

/-- Nothing is reported exactly when the last entries agree. -/
theorem comparesClean_last :
    ComparesClean now snapshot orders positions ↔ LastEntriesAgree now snapshot orders positions := by
  have hcomplete : (if snapshot.complete then [] else [snapshotDiff .snapshotIncomplete]) = [] ↔ snapshot.complete = true := by
    split <;> simp_all
  have hunexpired : (if snapshot.expiresAt ≤ now then [snapshotDiff .snapshotStale] else []) = [] ↔
      now < snapshot.expiresAt := by
    rw [← not_le]
    split <;> simp_all
  rw [comparesClean_iff]
  unfold compare
  dsimp only
  rw [List.append_eq_nil_iff, List.append_assoc, List.append_eq_nil_iff, List.append_eq_nil_iff, List.append_eq_nil_iff,
    orderDiffs_nil, positionDiffs_nil snapshot.distinct, hcomplete, hunexpired]
  constructor
  · rintro ⟨⟨⟨hcomplete, hunexpired⟩, hids, hechoes⟩, hinstruments, hquantities⟩
    exact ⟨hcomplete, hunexpired, hids, hechoes, hinstruments, hquantities⟩
  · rintro ⟨hcomplete, hunexpired, hids, hechoes, hinstruments, hquantities⟩
    exact ⟨⟨⟨hcomplete, hunexpired⟩, hids, hechoes⟩, hinstruments, hquantities⟩

/-! ### What it says about the sides -/

theorem held_perm (hdistinct : (positions.map (·.instrumentId)).Nodup) (h : LastEntriesAgree now snapshot orders positions) :
    (snapshot.positions.map fun p => (p.instrumentId, p.quantity)).Perm
      (positions.map fun p => (p.instrumentId, p.quantity)) := by
  have hnodup : ∀ {held : List HeldPosition}, (held.map (·.instrumentId)).Nodup →
      (held.map fun p => (p.instrumentId, p.quantity)).Nodup := by
    intro held hheld
    refine List.Nodup.of_map Prod.fst ?_
    rwa [List.map_map]
  rw [List.perm_ext_iff_of_nodup (hnodup snapshot.distinct) (hnodup hdistinct)]
  rintro ⟨id, quantity⟩
  constructor
  · intro hmem
    obtain ⟨theirs, htheirs, heq⟩ := List.mem_map.mp hmem
    cases heq
    obtain ⟨ours, hours⟩ := exists_last ((h.instruments _).mp (List.mem_map_of_mem htheirs))
    obtain ⟨hoursMem, hkey⟩ := lastOf_some hours
    refine List.mem_map.mpr ⟨ours, hoursMem, ?_⟩
    rw [hkey, h.quantities theirs htheirs ours hours]
  · intro hmem
    obtain ⟨ours, hours, heq⟩ := List.mem_map.mp hmem
    cases heq
    obtain ⟨theirs, htheirs, hkey⟩ := List.mem_map.mp ((h.instruments _).mpr (List.mem_map_of_mem hours))
    refine List.mem_map.mpr ⟨theirs, htheirs, ?_⟩
    have hlast : lastOf HeldPosition.instrumentId positions theirs.instrumentId = some ours := by
      rw [hkey]
      exact lastOf_of_mem hdistinct hours
    rw [hkey, h.quantities theirs htheirs ours hlast]

theorem sidesAgree_iff (h : LastEntriesAgree now snapshot orders positions) :
    SidesAgree now snapshot orders positions ↔ NothingHidden snapshot orders positions := by
  constructor
  · intro hagree
    refine ⟨List.perm_iff_count.mp hagree.orderIds, hagree.echoes, ?_⟩
    have hinstruments := hagree.held.map Prod.fst
    rw [List.map_map, List.map_map] at hinstruments
    exact hinstruments.nodup_iff.mp snapshot.distinct
  · intro hhidden
    exact ⟨h.complete, h.unexpired, List.perm_iff_count.mpr hhidden.orderIds, hhidden.echoes, held_perm hhidden.instruments h⟩

/-- A comparison without a blocking difference says that the sides agree, unless the last entries agree and
hide others. -/
theorem compare_sound_iff (now : Instant) (snapshot : BrokerSnapshot) (orders : List InternalOpenOrder)
    (positions : List HeldPosition) :
    (ComparesClean now snapshot orders positions → SidesAgree now snapshot orders positions) ↔
      (LastEntriesAgree now snapshot orders positions → NothingHidden snapshot orders positions) := by
  rw [comparesClean_last]
  exact forall_congr' sidesAgree_iff

/-! ### An order reported twice -/

theorem firstId_lt : 1 < 16 ^ 32 := by decide

def firstId : UUID := ⟨1, firstId_lt⟩

theorem sampleOrder_named : "41" ≠ "" := by decide

theorem sampleOrder_valued : (none : Option String) ≠ some "" := by decide

def reportedOrder : BrokerOpenOrder := ⟨"41", none, 0, sampleOrder_named, sampleOrder_valued⟩

/-- The broker works two orders under one id. -/
def repeatingSnapshot : BrokerSnapshot where
  brokerId := firstId
  accountId := firstId
  complete := true
  expiresAt := 60
  openOrders := [reportedOrder, reportedOrder]
  positions := []
  distinct := List.nodup_nil

def believedOrder : InternalOpenOrder := ⟨firstId, "41", "v6-3"⟩

/-- The ledger knows of one of the two orders, and nothing is reported. -/
theorem repeated_order_unreported : ¬(ComparesClean 0 repeatingSnapshot [believedOrder] [] →
    SidesAgree 0 repeatingSnapshot [believedOrder] []) := by
  intro h
  have hclean : compare 0 repeatingSnapshot [believedOrder] [] = [] := by decide +kernel
  have hlength := (h (comparesClean_iff.mpr hclean)).orderIds.length_eq
  cases hlength

end AutoTrader.Execution
