import AutoTrader.Execution.Commands
import AutoTrader.Runtime.Dict
import Mathlib.Data.List.Sort

/-! Reconciliation: what a broker reports beside what the ledger believes. -/

namespace AutoTrader.Execution

open AutoTrader.Domain AutoTrader.Runtime

inductive ReconciliationDiffKind
  | snapshotIncomplete
  | snapshotStale
  | internalOpenBrokerMissing
  | brokerOpenInternalMissing
  | internalPositionBrokerMissing
  | brokerPositionInternalMissing
  | positionQuantityMismatch
  | openOrderClientIdMismatch
  deriving DecidableEq

/-- The differences of open orders. -/
def ReconciliationDiffKind.ofOpenOrder : ReconciliationDiffKind → Bool
  | internalOpenBrokerMissing | brokerOpenInternalMissing | openOrderClientIdMismatch => true
  | _ => false

structure InternalOpenOrder where
  orderId : UUID
  brokerOrderId : String
  brokerClientOrderId : String
  deriving DecidableEq

/-- An order the broker says is working; its client id is `none` when the broker does not
echo it. -/
structure BrokerOpenOrder where
  brokerOrderId : String
  brokerClientOrderId : Option String
  canonicalTermsHash : Digest
  named : brokerOrderId ≠ ""
  valued : brokerClientOrderId ≠ some ""
  deriving DecidableEq

structure HeldPosition where
  instrumentId : UUID
  quantity : ℚ
  held : quantity ≠ 0
  deriving DecidableEq

structure BrokerSnapshot where
  brokerId : UUID
  accountId : UUID
  complete : Bool
  expiresAt : Instant
  openOrders : List BrokerOpenOrder
  positions : List HeldPosition
  distinct : (positions.map (·.instrumentId)).Nodup

structure ReconciliationDiff where
  kind : ReconciliationDiffKind
  blocking : Bool
  internalOrderId : Option UUID
  brokerOrderId : Option String
  instrumentId : Option UUID := none
  deriving DecidableEq

/-- A difference of the snapshot as a whole. -/
def snapshotDiff (kind : ReconciliationDiffKind) : ReconciliationDiff :=
  ⟨kind, true, none, none, none⟩

/-- What differs of an order the ledger believes to be working. -/
def internalDiff (brokerByIdentity : List (String × BrokerOpenOrder)) (internal : InternalOpenOrder) :
    Option ReconciliationDiff :=
  match Dict.get? brokerByIdentity internal.brokerOrderId with
  | none => some ⟨.internalOpenBrokerMissing, true, some internal.orderId, some internal.brokerOrderId, none⟩
  | some broker =>
    if broker.brokerClientOrderId.any (· ≠ internal.brokerClientOrderId) then
      some ⟨.openOrderClientIdMismatch, true, some internal.orderId, some internal.brokerOrderId, none⟩
    else none

/-- What differs of an order the broker says is working. -/
def brokerDiff (internalByIdentity : List (String × InternalOpenOrder)) (broker : BrokerOpenOrder) :
    Option ReconciliationDiff :=
  match Dict.get? internalByIdentity broker.brokerOrderId with
  | none => some ⟨.brokerOpenInternalMissing, true, none, some broker.brokerOrderId, none⟩
  | some _ => none

/-- `_position_diffs`, over the instruments of either side in the order of their texts, which
is the order of their numbers. -/
def positionDiffs (broker internal : List HeldPosition) : List ReconciliationDiff :=
  let brokerByInstrument := dictOf HeldPosition.instrumentId broker
  let internalByInstrument := dictOf HeldPosition.instrumentId internal
  let instruments := ((broker ++ internal).map (·.instrumentId)).dedup.insertionSort fun a b => a.int ≤ b.int
  instruments.filterMap fun instrumentId =>
    let differs := fun kind => some (ReconciliationDiff.mk kind true none none (some instrumentId))
    match Dict.get? brokerByInstrument instrumentId, Dict.get? internalByInstrument instrumentId with
    | none, _ => differs .internalPositionBrokerMissing
    | some _, none => differs .brokerPositionInternalMissing
    | some theirs, some ours =>
      if theirs.quantity ≠ ours.quantity then differs .positionQuantityMismatch else none

/-- `ReconciliationService.compare`. -/
def compare (now : Instant) (snapshot : BrokerSnapshot) (internalOpenOrders : List InternalOpenOrder)
    (internalPositions : List HeldPosition) : List ReconciliationDiff :=
  let brokerByIdentity := dictOf BrokerOpenOrder.brokerOrderId snapshot.openOrders
  let internalByIdentity := dictOf InternalOpenOrder.brokerOrderId internalOpenOrders
  (if snapshot.complete then [] else [snapshotDiff .snapshotIncomplete]) ++
    (if snapshot.expiresAt ≤ now then [snapshotDiff .snapshotStale] else []) ++
    internalByIdentity.filterMap (fun entry => internalDiff brokerByIdentity entry.2) ++
    brokerByIdentity.filterMap (fun entry => brokerDiff internalByIdentity entry.2) ++
    positionDiffs snapshot.positions internalPositions

/-- The differences of open orders a comparison reports. -/
def openOrderDiffs (diffs : List ReconciliationDiff) : List ReconciliationDiff :=
  diffs.filter (·.kind.ofOpenOrder)

section Compare

variable {now : Instant} {snapshot : BrokerSnapshot} {orders : List InternalOpenOrder} {positions : List HeldPosition}

theorem positionDiffs_kind {broker internal : List HeldPosition} {diff : ReconciliationDiff}
    (h : diff ∈ positionDiffs broker internal) : diff.kind.ofOpenOrder = false := by
  obtain ⟨instrumentId, -, hdiff⟩ := List.mem_filterMap.mp h
  dsimp only at hdiff
  split at hdiff
  · rw [← Option.some.inj hdiff]
    rfl
  · rw [← Option.some.inj hdiff]
    rfl
  · split at hdiff
    · rw [← Option.some.inj hdiff]
      rfl
    · cases hdiff

theorem internalDiff_kind {entries : List (String × BrokerOpenOrder)} {internal : InternalOpenOrder}
    {diff : ReconciliationDiff} (h : internalDiff entries internal = some diff) : diff.kind.ofOpenOrder = true := by
  unfold internalDiff at h
  split at h
  · rw [← Option.some.inj h]
    rfl
  · split at h
    · rw [← Option.some.inj h]
      rfl
    · cases h

theorem brokerDiff_kind {entries : List (String × InternalOpenOrder)} {broker : BrokerOpenOrder}
    {diff : ReconciliationDiff} (h : brokerDiff entries broker = some diff) : diff.kind.ofOpenOrder = true := by
  unfold brokerDiff at h
  split at h
  · rw [← Option.some.inj h]
    rfl
  · cases h

theorem internalDiff_eq_none {brokers : List BrokerOpenOrder} {internal : InternalOpenOrder}
    (hbroker : (brokers.map (·.brokerOrderId)).Nodup) :
    internalDiff (dictOf BrokerOpenOrder.brokerOrderId brokers) internal = none ↔
      ∃ broker ∈ brokers, broker.brokerOrderId = internal.brokerOrderId ∧
        ∀ echo, broker.brokerClientOrderId = some echo → echo = internal.brokerClientOrderId := by
  unfold internalDiff
  rw [Dict.get?_dictOf hbroker]
  cases hfound : brokers.find? (·.brokerOrderId = internal.brokerOrderId) with
  | none =>
    refine iff_of_false nofun ?_
    rintro ⟨broker, hmem, hid, -⟩
    exact List.find?_eq_none.mp hfound broker hmem (decide_eq_true hid)
  | some found =>
    have hmem := List.mem_of_find?_eq_some hfound
    have hid : found.brokerOrderId = internal.brokerOrderId := by simpa using List.find?_some hfound
    have hechoes : found.brokerClientOrderId.any (· ≠ internal.brokerClientOrderId) = true ↔
        ¬∀ echo, found.brokerClientOrderId = some echo → echo = internal.brokerClientOrderId := by
      cases found.brokerClientOrderId <;> simp
    dsimp only
    constructor
    · intro h
      refine ⟨found, hmem, hid, ?_⟩
      by_contra hechoed
      rw [if_pos (hechoes.mpr hechoed)] at h
      cases h
    · rintro ⟨broker, hbrokerMem, hbrokerId, hechoed⟩
      obtain rfl : broker = found := List.inj_on_of_nodup_map hbroker hbrokerMem hmem (hbrokerId.trans hid.symm)
      rw [if_neg fun h => hechoes.mp h hechoed]

theorem brokerDiff_eq_none {internals : List InternalOpenOrder} {broker : BrokerOpenOrder}
    (hinternal : (internals.map (·.brokerOrderId)).Nodup) :
    brokerDiff (dictOf InternalOpenOrder.brokerOrderId internals) broker = none ↔
      ∃ internal ∈ internals, internal.brokerOrderId = broker.brokerOrderId := by
  unfold brokerDiff
  rw [Dict.get?_dictOf hinternal]
  cases hfound : internals.find? (·.brokerOrderId = broker.brokerOrderId) with
  | none =>
    refine iff_of_false nofun ?_
    rintro ⟨internal, hmem, hid⟩
    exact List.find?_eq_none.mp hfound internal hmem (decide_eq_true hid)
  | some found =>
    refine iff_of_true rfl ⟨found, List.mem_of_find?_eq_some hfound, ?_⟩
    simpa using List.find?_some hfound

/-- No order is reported to differ exactly when every working order of the ledger is open at the
broker, under no other client id, and every order open there is one of them. -/
theorem openOrderDiffs_eq_nil (hbroker : (snapshot.openOrders.map (·.brokerOrderId)).Nodup)
    (hinternal : (orders.map (·.brokerOrderId)).Nodup) :
    openOrderDiffs (compare now snapshot orders positions) = [] ↔
      (∀ internal ∈ orders, ∃ broker ∈ snapshot.openOrders, broker.brokerOrderId = internal.brokerOrderId ∧
        ∀ echo, broker.brokerClientOrderId = some echo → echo = internal.brokerClientOrderId) ∧
      ∀ broker ∈ snapshot.openOrders, ∃ internal ∈ orders, internal.brokerOrderId = broker.brokerOrderId := by
  have hdiffs : openOrderDiffs (compare now snapshot orders positions) =
      orders.filterMap (internalDiff (dictOf BrokerOpenOrder.brokerOrderId snapshot.openOrders)) ++
        snapshot.openOrders.filterMap (brokerDiff (dictOf InternalOpenOrder.brokerOrderId orders)) := by
    have hincomplete : (if snapshot.complete then [] else [snapshotDiff .snapshotIncomplete]).filter
        (·.kind.ofOpenOrder) = [] := by
      split <;> rfl
    have hstale : (if snapshot.expiresAt ≤ now then [snapshotDiff .snapshotStale] else []).filter
        (·.kind.ofOpenOrder) = [] := by
      split <;> rfl
    have hpositions : (positionDiffs snapshot.positions positions).filter (·.kind.ofOpenOrder) = [] :=
      List.filter_eq_nil_iff.mpr fun diff hdiff => by simp [positionDiffs_kind hdiff]
    have horders : (orders.filterMap (internalDiff (dictOf BrokerOpenOrder.brokerOrderId snapshot.openOrders))).filter
        (·.kind.ofOpenOrder) = _ := List.filter_eq_self.mpr fun diff hdiff => by
      obtain ⟨internal, -, hdiff⟩ := List.mem_filterMap.mp hdiff
      exact internalDiff_kind hdiff
    have hbrokers : (snapshot.openOrders.filterMap (brokerDiff (dictOf InternalOpenOrder.brokerOrderId orders))).filter
        (·.kind.ofOpenOrder) = _ := List.filter_eq_self.mpr fun diff hdiff => by
      obtain ⟨broker, -, hdiff⟩ := List.mem_filterMap.mp hdiff
      exact brokerDiff_kind hdiff
    have hinternalEntries : ∀ f : InternalOpenOrder → Option ReconciliationDiff,
        (dictOf InternalOpenOrder.brokerOrderId orders).filterMap (fun entry => f entry.2) = orders.filterMap f := by
      intro f
      rw [dictOf_eq hinternal, List.filterMap_map]
      rfl
    have hbrokerEntries : ∀ f : BrokerOpenOrder → Option ReconciliationDiff,
        (dictOf BrokerOpenOrder.brokerOrderId snapshot.openOrders).filterMap (fun entry => f entry.2) =
          snapshot.openOrders.filterMap f := by
      intro f
      rw [dictOf_eq hbroker, List.filterMap_map]
      rfl
    unfold openOrderDiffs compare
    dsimp only
    rw [hinternalEntries, hbrokerEntries, List.filter_append, List.filter_append, List.filter_append, List.filter_append,
      hincomplete, hstale, hpositions, horders, hbrokers]
    simp
  rw [hdiffs, List.append_eq_nil_iff, List.filterMap_eq_nil_iff, List.filterMap_eq_nil_iff]
  refine and_congr (forall₂_congr fun internal _ => ?_) (forall₂_congr fun broker _ => ?_)
  · exact internalDiff_eq_none hbroker
  · exact brokerDiff_eq_none hinternal

end Compare

end AutoTrader.Execution
