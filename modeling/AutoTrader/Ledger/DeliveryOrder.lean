import AutoTrader.Ledger.Anchors

/-! Sequenced status events in any order. What arrives early is recorded and waits; the event
that was missing is applied together with all that waited for it, so the order ends as if every
event had come in its turn. -/

namespace AutoTrader.Ledger

open AutoTrader.Dispatch AutoTrader.Domain AutoTrader.Execution AutoTrader.Runtime

variable {arith : Arithmetic} {hashes : AdoptionHashes}

/-! ### Recorded events are not read by an application -/

def Tables.withStatusEvents (t : Tables) (events : List PersistedBrokerOrderStatusEvent) : Tables :=
  { t with statusEvents := events }

@[simp] theorem withStatusEvents_linksOf (t : Tables) (events : List PersistedBrokerOrderStatusEvent) (orderId : UUID) :
    (t.withStatusEvents events).linksOf orderId = t.linksOf orderId := rfl

@[simp] theorem withStatusEvents_statusMarks (t : Tables) (events : List PersistedBrokerOrderStatusEvent) :
    (t.withStatusEvents events).statusMarks = t.statusMarks := rfl

theorem setLinkStatus_with (t : Tables) (events : List PersistedBrokerOrderStatusEvent) (orderId : UUID)
    (brokerOrderId status : String) :
    setLinkStatus (t.withStatusEvents events) orderId brokerOrderId status =
      (·.withStatusEvents events) <$> setLinkStatus t orderId brokerOrderId status := by
  unfold setLinkStatus
  rw [withStatusEvents_linksOf]
  cases (t.linksOf orderId).find? (·.brokerOrderId = brokerOrderId) <;> rfl

theorem advanceMark_with (t : Tables) (events : List PersistedBrokerOrderStatusEvent) (orderId : UUID)
    (sourcePartition : String) (sequence : Option Nat) :
    advanceMark (t.withStatusEvents events) orderId sourcePartition sequence =
      (·.withStatusEvents events) <$> advanceMark t orderId sourcePartition sequence := by
  cases sequence with
  | none => rfl
  | some sequence =>
    simp only [advanceMark, advanceStatusWatermark, withStatusEvents_statusMarks]
    cases t.statusMarks orderId sourcePartition with
    | none =>
      dsimp only
      split <;> rfl
    | some last =>
      dsimp only
      split
      · rfl
      · split <;> rfl

theorem ambiguity_with (t : Tables) (events : List PersistedBrokerOrderStatusEvent) (order : PersistedOrder)
    (persisted : PersistedBrokerOrderStatusEvent) :
    recordUnsequencedOrderingAmbiguity (t.withStatusEvents events) order persisted =
      (fun r => (r.1.withStatusEvents events, r.2)) <$> recordUnsequencedOrderingAmbiguity t order persisted := by
  unfold recordUnsequencedOrderingAmbiguity
  rw [setLinkStatus_with]
  cases setLinkStatus t order.id persisted.brokerOrderId OrderStatus.unknown.value with
  | error e => rfl
  | ok linked =>
    by_cases hunknown : order.status = .unknown
    · simp only [hunknown, if_true]
      rfl
    · simp only [hunknown, if_false]
      rfl

theorem applyDeferral_with (t : Tables) (events : List PersistedBrokerOrderStatusEvent) (order : PersistedOrder)
    (persisted : PersistedBrokerOrderStatusEvent) (reason : DeferralReason) :
    applyDeferral (t.withStatusEvents events) order persisted reason =
      (fun r => (r.1.withStatusEvents events, r.2)) <$> applyDeferral t order persisted reason := by
  cases reason with
  | liveSuccessorLink =>
    simp only [applyDeferral, setLinkStatus_with]
    cases setLinkStatus t order.id persisted.brokerOrderId persisted.rawStatus with
    | error e => rfl
    | ok linked =>
      change (advanceMark (linked.withStatusEvents events) _ _ _ >>= _) =
        _ <$> (advanceMark linked _ _ _ >>= _)
      rw [advanceMark_with]
      cases advanceMark linked order.id persisted.sourcePartition persisted.sourceSequence <;> rfl
  | staleStatus =>
    simp only [applyDeferral, advanceMark_with]
    cases advanceMark t order.id persisted.sourcePartition persisted.sourceSequence <;> rfl
  | staleSequence => rfl
  | sequenceGap => rfl

theorem applyTransition_with (t : Tables) (events : List PersistedBrokerOrderStatusEvent)
    (persisted : PersistedBrokerOrderStatusEvent) (transition : OrderTransition) :
    applyTransition (t.withStatusEvents events) persisted transition =
      (fun r => (r.1.withStatusEvents events, r.2)) <$> applyTransition t persisted transition := by
  unfold applyTransition
  dsimp only
  change (setLinkStatus (Tables.withStatusEvents (t.updateOrder _ _) events) _ _ _ >>= _) = _
  rw [setLinkStatus_with]
  generalize setLinkStatus (t.updateOrder transition.order.id _) transition.order.id persisted.brokerOrderId
    transition.order.status.value = linked
  cases linked with
  | error e => rfl
  | ok linked =>
    change (advanceMark (linked.withStatusEvents events) _ _ _ >>= _) = _ <$> (advanceMark linked _ _ _ >>= _)
    rw [advanceMark_with]
    cases advanceMark linked transition.order.id persisted.sourcePartition transition.watermark <;> rfl

theorem applyOne_with (t : Tables) (events : List PersistedBrokerOrderStatusEvent)
    (persisted : PersistedBrokerOrderStatusEvent) :
    applyOne (t.withStatusEvents events) persisted =
      (fun r => (r.1.withStatusEvents events, r.2)) <$> applyOne t persisted := by
  have horder : (t.withStatusEvents events).order? persisted.orderId = t.order? persisted.orderId := rfl
  have hlinks : ∀ id, (t.withStatusEvents events).linksInOrder id = t.linksInOrder id := fun _ => rfl
  have hmarks : (t.withStatusEvents events).statusMarks = t.statusMarks := rfl
  unfold applyOne
  rw [horder]
  simp only [hlinks, hmarks]
  cases t.order? persisted.orderId with
  | none => rfl
  | some order =>
    dsimp only
    split
    · rfl
    cases (t.linksInOrder order.id).mapM linkState with
    | error e => rfl
    | ok links =>
      change (if _ then _ else _) = _ <$> (if _ then _ else _)
      split
      · cases checkDomainOrder order with
        | error e => rfl
        | ok _ =>
          generalize hanswer : OrderStateMachine.apply order persisted links
            (t.statusMarks order.id persisted.sourcePartition) = answer
          rcases answer with e | deferred | transition
          · change (if _ then _ else _) = _ <$> (if _ then _ else _)
            split
            · rfl
            · exact ambiguity_with t events order persisted
          · exact applyDeferral_with t events order persisted deferred.reason
          · exact applyTransition_with t events persisted transition
      · rfl

theorem applyOne_statusEvents {t after : Tables} {persisted : PersistedBrokerOrderStatusEvent}
    {outcome : BrokerStatusApplication} (h : applyOne t persisted = .ok (after, outcome)) :
    after.statusEvents = t.statusEvents := by
  have hwith := applyOne_with t t.statusEvents persisted
  change applyOne t persisted = _ at hwith
  rw [h] at hwith
  have heq : after = after.withStatusEvents t.statusEvents := (Prod.mk.inj (Except.ok.inj hwith)).1
  rw [heq]
  rfl

/-! ### The event in its turn -/

/-- The mark after the first `m` events of a partition. -/
def markOf (m : Nat) : Option Nat :=
  if m = 0 then none else some m

theorem markOf_getD (m : Nat) : (markOf m).getD 0 = m := by
  unfold markOf
  split
  · rename_i hzero
    exact hzero.symm
  · rfl

theorem advanceMark_next {t after : Tables} {orderId : UUID} {sourcePartition : String} {m : Nat}
    (hmark : t.statusMarks orderId sourcePartition = markOf m)
    (h : advanceMark t orderId sourcePartition (some (m + 1)) = .ok after) :
    after.statusMarks orderId sourcePartition = markOf (m + 1) := by
  have hset : (t.setStatusMark orderId sourcePartition (m + 1)).statusMarks orderId sourcePartition =
      markOf (m + 1) := by
    simp [Tables.setStatusMark, markOf]
  simp only [advanceMark, advanceStatusWatermark, hmark, markOf] at h
  split at h
  · split at h
    · cases h
    · rw [← Except.ok.inj h]
      exact hset
  · rename_i last hlast
    split at hlast
    · cases hlast
    · rw [← Option.some.inj hlast, if_pos rfl] at h
      rw [← Except.ok.inj h]
      exact hset

/-- Neither stale nor ahead: the event that comes next is not deferred for its sequence. -/
theorem apply_next {order : PersistedOrder} {event : PersistedBrokerOrderStatusEvent}
    {links : List BrokerOrderLinkState} {m : Nat} {deferred : DeferredBrokerStatus}
    (hsequence : event.sourceSequence = some (m + 1))
    (h : OrderStateMachine.apply order event links (markOf m) = .ok (.inl deferred)) :
    deferred.reason = .liveSuccessorLink ∨ deferred.reason = .staleStatus := by
  unfold OrderStateMachine.apply at h
  simp only [hsequence, Option.any_some, markOf_getD] at h
  split at h
  · cases h
  split at h
  · rename_i hstale
    unfold markOf at hstale
    split at hstale
    · simp at hstale
    · simp at hstale
  split at h
  · rename_i hahead
    simp at hahead
  split at h
  · rw [← Sum.inl.inj (Except.ok.inj h)]
    exact .inl rfl
  split at h
  · split at h
    · rw [← Sum.inl.inj (Except.ok.inj h)]
      exact .inr rfl
    · cases h
  · cases h

theorem setLinkStatus_marks {t after : Tables} {orderId : UUID} {brokerOrderId status : String}
    (h : setLinkStatus t orderId brokerOrderId status = .ok after) : after.statusMarks = t.statusMarks := by
  obtain ⟨link, -, rfl⟩ := setLinkStatus_ok h
  rfl

/-- The event that comes next is applied, and moves the mark to itself. -/
theorem applyOne_next {t after : Tables} {persisted : PersistedBrokerOrderStatusEvent}
    {outcome : BrokerStatusApplication} {m : Nat} (hsequence : persisted.sourceSequence = some (m + 1))
    (hmark : t.statusMarks persisted.orderId persisted.sourcePartition = markOf m)
    (h : applyOne t persisted = .ok (after, outcome)) :
    outcome.applied = true ∧ after.statusMarks persisted.orderId persisted.sourcePartition = markOf (m + 1) := by
  obtain ⟨order, links, horder, -, hcase⟩ := applyOne_ok h
  have hid : order.id = persisted.orderId := Rows.lookup_key horder
  rw [hid, hmark] at hcase
  rcases hcase with ⟨hnone, -⟩ | ⟨deferred, hdeferred, hcase⟩ | ⟨transition, hgranted, hcase⟩
  · rw [hsequence] at hnone
    cases hnone
  · rcases apply_next hsequence hdeferred with hreason | hreason
    · rw [hreason] at hcase
      obtain ⟨t₁, hlink, hcase⟩ := bind_ok.mp hcase
      obtain ⟨t₂, hadvance, hcase⟩ := bind_ok.mp hcase
      obtain ⟨rfl, rfl⟩ := Prod.mk.inj (Except.ok.inj hcase)
      rw [hid, hsequence] at hadvance
      exact ⟨rfl, advanceMark_next (setLinkStatus_marks hlink ▸ hmark) hadvance⟩
    · rw [hreason] at hcase
      obtain ⟨t₁, hadvance, hcase⟩ := bind_ok.mp hcase
      obtain ⟨rfl, rfl⟩ := Prod.mk.inj (Except.ok.inj hcase)
      rw [hid, hsequence] at hadvance
      exact ⟨rfl, advanceMark_next hmark hadvance⟩
  · obtain ⟨-, rfl⟩ := apply_transition hgranted
    obtain ⟨t₁, hlink, hcase⟩ := bind_ok.mp hcase
    obtain ⟨t₂, hadvance, hcase⟩ := bind_ok.mp hcase
    obtain ⟨rfl, rfl⟩ := Prod.mk.inj (Except.ok.inj hcase)
    have hmarks := setLinkStatus_marks hlink
    change t₁.statusMarks = t.statusMarks at hmarks
    change advanceMark t₁ order.id persisted.sourcePartition persisted.sourceSequence = .ok t₂ at hadvance
    rw [hid, hsequence] at hadvance
    have hadvanced := advanceMark_next (hmarks ▸ hmark) hadvance
    exact ⟨rfl, hadvanced⟩

/-! ### Application in sequence -/

def applyRow (t : Tables) (row : PersistedBrokerOrderStatusEvent) : Except PyError Tables :=
  (·.1) <$> applyOne t row

/-- One event after the other, as they are numbered. -/
def inSequence (t : Tables) (rows : List PersistedBrokerOrderStatusEvent) : Except PyError Tables :=
  rows.foldlM applyRow t

/-- Under which a recorded event is found again. -/
def PersistedBrokerOrderStatusEvent.identity (row : PersistedBrokerOrderStatusEvent) : UUID × UUID × String × String :=
  (row.brokerId, row.accountId, row.sourcePartition, row.dedupeKey)

/-- Distinct events of one order and partition, with the sequences from one on. -/
structure Numbered (orderId : UUID) (sourcePartition : String) (rows : List PersistedBrokerOrderStatusEvent) :
    Prop where
  scope : ∀ row ∈ rows, row.orderId = orderId ∧ row.sourcePartition = sourcePartition
  sequence : ∀ i row, rows[i]? = some row → row.sourceSequence = some (i + 1)
  identities : (rows.map PersistedBrokerOrderStatusEvent.identity).Nodup

/-- Nothing of the partition was recorded for the order yet. -/
structure Unheard (t : Tables) (orderId : UUID) (sourcePartition : String)
    (rows : List PersistedBrokerOrderStatusEvent) : Prop where
  unmarked : t.statusMarks orderId sourcePartition = none
  scope : ∀ old ∈ t.statusEvents, ¬(old.orderId = orderId ∧ old.sourcePartition = sourcePartition)
  identities : ∀ old ∈ t.statusEvents, ∀ row ∈ rows, old.identity ≠ row.identity

section Sequence

variable {t last : Tables} {orderId : UUID} {sourcePartition : String} {rows : List PersistedBrokerOrderStatusEvent}

theorem take_next {m : Nat} {row : PersistedBrokerOrderStatusEvent} (h : rows[m]? = some row) :
    rows.take (m + 1) = rows.take m ++ [row] := by
  rw [List.take_add_one, h]
  rfl

/-- A legal sequence goes on from every place in it. -/
theorem inSequence_next (hlegal : inSequence t rows = .ok last) {m : Nat} {row : PersistedBrokerOrderStatusEvent}
    (hrow : rows[m]? = some row) {middle : Tables} (hmiddle : inSequence t (rows.take m) = .ok middle) :
    ∃ after outcome, applyOne middle row = .ok (after, outcome) ∧ inSequence t (rows.take (m + 1)) = .ok after := by
  obtain ⟨hm, hget⟩ := List.getElem?_eq_some_iff.mp hrow
  have hsplit : rows = rows.take m ++ row :: rows.drop (m + 1) := by
    rw [← hget, List.cons_getElem_drop_succ, List.take_append_drop]
  unfold inSequence at hlegal hmiddle ⊢
  rw [hsplit, List.foldlM_append, hmiddle] at hlegal
  change (row :: rows.drop (m + 1)).foldlM applyRow middle = _ at hlegal
  rw [List.foldlM_cons] at hlegal
  obtain ⟨after, happly, -⟩ := bind_ok.mp hlegal
  obtain ⟨⟨after, outcome⟩, hone, rfl⟩ := map_ok happly
  refine ⟨after, outcome, hone, ?_⟩
  rw [take_next hrow, List.foldlM_append, hmiddle]
  change [row].foldlM applyRow middle = _
  rw [List.foldlM_cons, happly]
  rfl

/-- What the sequence leaves of marks and recorded events. -/
theorem inSequence_marks (hnumbered : Numbered orderId sourcePartition rows)
    (hunheard : Unheard t orderId sourcePartition rows) (hlegal : inSequence t rows = .ok last) {m : Nat}
    (hm : m ≤ rows.length) {middle : Tables} (hmiddle : inSequence t (rows.take m) = .ok middle) :
    middle.statusMarks orderId sourcePartition = markOf m ∧ middle.statusEvents = t.statusEvents := by
  induction m generalizing middle with
  | zero =>
    rw [← Except.ok.inj hmiddle]
    exact ⟨hunheard.unmarked, rfl⟩
  | succ m ih =>
    obtain ⟨row, hrow⟩ : ∃ row, rows[m]? = some row := ⟨_, List.getElem?_eq_getElem hm⟩
    have hbefore : ∃ before, inSequence t (rows.take m) = .ok before := by
      unfold inSequence at hmiddle ⊢
      rw [take_next hrow, List.foldlM_append] at hmiddle
      obtain ⟨before, hbefore, -⟩ := bind_ok.mp hmiddle
      exact ⟨before, hbefore⟩
    obtain ⟨before, hbefore⟩ := hbefore
    obtain ⟨hmark, hevents⟩ := ih (Nat.le_of_succ_le hm) hbefore
    obtain ⟨after, outcome, happly, hafter⟩ := inSequence_next hlegal hrow hbefore
    have hsame : middle = after := Except.ok.inj (hmiddle.symm.trans hafter)
    obtain ⟨horder, hpartition⟩ := hnumbered.scope row (List.mem_of_getElem? hrow)
    have hmark' : before.statusMarks row.orderId row.sourcePartition = markOf m := by
      rw [horder, hpartition]
      exact hmark
    obtain ⟨-, hnext⟩ := applyOne_next (hnumbered.sequence m row hrow) hmark' happly
    rw [horder, hpartition] at hnext
    rw [hsame]
    exact ⟨hnext, (applyOne_statusEvents happly).trans hevents⟩

/-! ### Delivery -/

/-- Where a delivery stands: the first `m` events are applied, others are recorded and wait, and
the next one has not arrived. -/
structure Delivered (t : Tables) (orderId : UUID) (sourcePartition : String)
    (rows : List PersistedBrokerOrderStatusEvent) (after : Tables) (seen : List PersistedBrokerOrderStatusEvent)
    (m : Nat) : Prop where
  bound : m ≤ rows.length
  applied : inSequence t (rows.take m) = .ok (after.withStatusEvents t.statusEvents)
  recorded : after.statusEvents = t.statusEvents ++ seen
  once : seen.Nodup
  sent : ∀ row ∈ seen, row ∈ rows
  first : ∀ row ∈ rows.take m, row ∈ seen
  next : ∀ row, rows[m]? = some row → row ∉ seen

theorem Numbered.row_nodup (hnumbered : Numbered orderId sourcePartition rows) : rows.Nodup :=
  List.Nodup.of_map _ hnumbered.identities

/-- Of the recorded events only the next one in sequence is found. -/
theorem nextStatusEvent_cases (hnumbered : Numbered orderId sourcePartition rows)
    (hunheard : Unheard t orderId sourcePartition rows) {current : Tables}
    {seen : List PersistedBrokerOrderStatusEvent} {m : Nat}
    (hmark : current.statusMarks orderId sourcePartition = markOf m)
    (hrecorded : current.statusEvents = t.statusEvents ++ seen) (hsent : ∀ row ∈ seen, row ∈ rows) :
    (∃ row, nextStatusEvent current orderId sourcePartition = some row ∧ rows[m]? = some row) ∨
      (nextStatusEvent current orderId sourcePartition = none ∧ ∀ row, rows[m]? = some row → row ∉ seen) := by
  cases hnext : nextStatusEvent current orderId sourcePartition with
  | some row =>
    refine .inl ⟨row, rfl, ?_⟩
    unfold nextStatusEvent at hnext
    rw [hmark, markOf_getD, hrecorded] at hnext
    have hfound := List.find?_some hnext
    simp only [Bool.and_eq_true, decide_eq_true_eq] at hfound
    obtain ⟨⟨horder, hpartition⟩, hsequence⟩ := hfound
    rcases List.mem_append.mp (List.mem_of_find?_eq_some hnext) with hold | hseen
    · exact absurd ⟨horder, hpartition⟩ (hunheard.scope row hold)
    · obtain ⟨i, hi⟩ := List.mem_iff_getElem?.mp (hsent row hseen)
      have hi' := hnumbered.sequence i row hi
      rw [hsequence] at hi'
      have hsame : m = i := by simpa using hi'
      rw [hsame]
      exact hi
  | none =>
    refine .inr ⟨rfl, fun row hrow hseen => ?_⟩
    unfold nextStatusEvent at hnext
    rw [hmark, markOf_getD, hrecorded] at hnext
    have hnot := List.find?_eq_none.mp hnext row (List.mem_append_right _ hseen)
    obtain ⟨horder, hpartition⟩ := hnumbered.scope row (List.mem_of_getElem? hrow)
    have hsequence := hnumbered.sequence m row hrow
    simp [horder, hpartition, hsequence] at hnot

/-- The loop applies what waited, up to the next event that is missing; it ends before its
rounds do, since every round applies another recorded event. -/
theorem applyContiguous_drains (hnumbered : Numbered orderId sourcePartition rows)
    (hunheard : Unheard t orderId sourcePartition rows) (hlegal : inSequence t rows = .ok last)
    {seen : List PersistedBrokerOrderStatusEvent} (honce : seen.Nodup) (hsent : ∀ row ∈ seen, row ∈ rows)
    {rounds m : Nat} {current : Tables} {outcome : BrokerStatusApplication} (hbound : m ≤ rows.length)
    (happlied : inSequence t (rows.take m) = .ok (current.withStatusEvents t.statusEvents))
    (hrecorded : current.statusEvents = t.statusEvents ++ seen) (hfirst : ∀ row ∈ rows.take m, row ∈ seen)
    (hrounds : seen.length < rounds + m) :
    ∃ after total m', applyContiguous orderId sourcePartition rounds current outcome = .ok (after, total) ∧
      Delivered t orderId sourcePartition rows after seen m' := by
  induction rounds generalizing m current outcome with
  | zero =>
    -- the first `m` events are among the recorded ones
    have hnodup : (rows.take m).Nodup := hnumbered.row_nodup.sublist (List.take_sublist m rows)
    have hlength : (rows.take m).length ≤ seen.length := (List.Nodup.subperm hnodup hfirst).length_le
    rw [List.length_take, Nat.min_eq_left hbound] at hlength
    omega
  | succ rounds ih =>
    have hmark : current.statusMarks orderId sourcePartition = markOf m :=
      (inSequence_marks hnumbered hunheard hlegal hbound happlied).1
    unfold applyContiguous
    rcases nextStatusEvent_cases hnumbered hunheard hmark hrecorded hsent with ⟨row, hnext, hrow⟩ | ⟨hnone, hmissing⟩
    · obtain ⟨middle, one, happly, hafter⟩ := inSequence_next hlegal hrow happlied
      have hone : applyOne current row = .ok (middle.withStatusEvents current.statusEvents, one) := by
        have hwith := applyOne_with (current.withStatusEvents t.statusEvents) current.statusEvents row
        rw [happly] at hwith
        exact hwith
      obtain ⟨horder, hpartition⟩ := hnumbered.scope row (List.mem_of_getElem? hrow)
      have hmark' : current.statusMarks row.orderId row.sourcePartition = markOf m := by
        rw [horder, hpartition]
        exact hmark
      obtain ⟨hdone, -⟩ := applyOne_next (hnumbered.sequence m row hrow) hmark' hone
      have hevents : middle.statusEvents = t.statusEvents := (applyOne_statusEvents happly).trans rfl
      have hseen : row ∈ seen := by
        have hmem : row ∈ current.statusEvents := by
          unfold nextStatusEvent at hnext
          exact List.mem_of_find?_eq_some hnext
        rw [hrecorded] at hmem
        rcases List.mem_append.mp hmem with hold | hseen
        · exact absurd ⟨horder, hpartition⟩ (hunheard.scope row hold)
        · exact hseen
      have hlt : m < rows.length := (List.getElem?_eq_some_iff.mp hrow).1
      have hstart : inSequence t (rows.take (m + 1)) =
          .ok ((middle.withStatusEvents current.statusEvents).withStatusEvents t.statusEvents) := by
        rw [hafter, ← hevents]
        rfl
      have hfirst' : ∀ other ∈ rows.take (m + 1), other ∈ seen := by
        intro other hother
        rw [take_next hrow] at hother
        rcases List.mem_append.mp hother with hother | hother
        · exact hfirst other hother
        · rw [List.mem_singleton.mp hother]
          exact hseen
      rw [hnext]
      have hrest : ∃ after total m', applyContiguous orderId sourcePartition rounds
          (middle.withStatusEvents current.statusEvents)
          ⟨outcome.applied || one.applied, outcome.terminalReleasePending || one.terminalReleasePending⟩ =
            .ok (after, total) ∧ Delivered t orderId sourcePartition rows after seen m' :=
        ih hlt hstart hrecorded hfirst' (by omega)
      obtain ⟨after, total, m', hrest, hdelivered⟩ := hrest
      refine ⟨after, total, m', ?_, hdelivered⟩
      change (applyOne current row >>= _) = _
      rw [hone]
      change (if one.applied = true then _ else _) = _
      rw [if_pos hdone]
      exact hrest
    · rw [hnone]
      exact ⟨current, outcome, m, rfl, hbound, happlied, hrecorded, honce, hsent, hfirst, hmissing⟩

/-- One delivery of one event, early, in its turn, or once more. -/
theorem Delivered.deliver (hnumbered : Numbered orderId sourcePartition rows)
    (hunheard : Unheard t orderId sourcePartition rows) (hlegal : inSequence t rows = .ok last)
    {current : Tables} {seen : List PersistedBrokerOrderStatusEvent} {m : Nat}
    (h : Delivered t orderId sourcePartition rows current seen m) {event : BrokerOrderStatusEvent}
    {row : PersistedBrokerOrderStatusEvent} (hresolved : event.resolved = .ok row) (hrow : row ∈ rows) :
    ∃ after outcome seen' m', applyStatusOnce current event = .ok (after, outcome) ∧
      Delivered t orderId sourcePartition rows after seen' m' ∧ (∀ old ∈ seen, old ∈ seen') ∧ row ∈ seen' := by
  obtain ⟨hscope, hpartition⟩ := hnumbered.scope row hrow
  unfold applyStatusOnce
  rw [hresolved]
  change ∃ after outcome seen' m', (recordBrokerStatusOnce current row >>= _) = _ ∧ _
  by_cases hseen : row ∈ seen
  · -- recorded before, with the same payload
    have hexisting : current.statusEvent? row = some row := by
      have hfind : ∃ existing, current.statusEvent? row = some existing := by
        cases hfound : current.statusEvent? row with
        | some existing => exact ⟨existing, rfl⟩
        | none =>
          have hnot := List.find?_eq_none.mp hfound row (by rw [h.recorded]; exact List.mem_append_right _ hseen)
          simp at hnot
      obtain ⟨existing, hfound⟩ := hfind
      have hkey := List.find?_some hfound
      simp only [Bool.and_eq_true, decide_eq_true_eq] at hkey
      have hidentity : existing.identity = row.identity := by
        unfold PersistedBrokerOrderStatusEvent.identity
        rw [hkey.1.1.1, hkey.1.1.2, hkey.1.2, hkey.2]
      have hmem : existing ∈ current.statusEvents := List.mem_of_find?_eq_some hfound
      rw [h.recorded] at hmem
      rcases List.mem_append.mp hmem with hold | hold
      · exact absurd hidentity (hunheard.identities existing hold row hrow)
      · rw [hfound, List.inj_on_of_nodup_map hnumbered.identities (h.sent existing hold) hrow hidentity]
    refine ⟨current, ⟨false, false⟩, seen, m, ?_, h, fun _ hold => hold, hseen⟩
    unfold recordBrokerStatusOnce
    rw [hexisting]
    simp only [ne_eq, not_true_eq_false, if_false]
    rfl
  · have hnone : current.statusEvent? row = none := by
      refine List.find?_eq_none.mpr fun existing hmem hkey => ?_
      simp only [Bool.and_eq_true, decide_eq_true_eq] at hkey
      have hidentity : existing.identity = row.identity := by
        unfold PersistedBrokerOrderStatusEvent.identity
        rw [hkey.1.1.1, hkey.1.1.2, hkey.1.2, hkey.2]
      rw [h.recorded] at hmem
      rcases List.mem_append.mp hmem with hold | hold
      · exact hunheard.identities existing hold row hrow hidentity
      · exact hseen (List.inj_on_of_nodup_map hnumbered.identities (h.sent existing hold) hrow hidentity ▸ hold)
    -- an event is missing, so its order is there
    have hlt : m < rows.length := by
      by_contra hend
      have hall : rows.take m = rows := List.take_of_length_le (not_lt.mp hend)
      exact hseen (h.first row (by rw [hall]; exact hrow))
    have hpresent : (current.order? row.orderId).isNone = false := by
      have hget : rows[m]? = some rows[m] := List.getElem?_eq_getElem hlt
      obtain ⟨middle, one, happly, -⟩ := inSequence_next hlegal hget h.applied
      obtain ⟨order, -, horder, -⟩ := applyOne_ok happly
      have hid : (rows[m]).orderId = row.orderId := ((hnumbered.scope _ (List.mem_of_getElem? hget)).1).trans hscope.symm
      rw [hid] at horder
      change current.order? row.orderId = some order at horder
      rw [horder]
      rfl
    obtain ⟨i, hi⟩ := List.mem_iff_getElem?.mp hrow
    have hsequence : row.sourceSequence.isNone = false := by
      rw [hnumbered.sequence i row hi]
      rfl
    have hrecorded : (current.withStatusEvents (current.statusEvents ++ [row])).statusEvents =
        t.statusEvents ++ (seen ++ [row]) := by
      show current.statusEvents ++ [row] = _
      rw [h.recorded, List.append_assoc]
    have honce : (seen ++ [row]).Nodup := by
      rw [List.nodup_append]
      refine ⟨h.once, List.nodup_singleton _, ?_⟩
      rintro old hold other hother rfl
      rw [List.mem_singleton.mp hother] at hold
      exact hseen hold
    have hsent : ∀ old ∈ seen ++ [row], old ∈ rows := by
      intro old hold
      rcases List.mem_append.mp hold with hold | hold
      · exact h.sent old hold
      · rw [List.mem_singleton.mp hold]
        exact hrow
    have hrounds : (seen ++ [row]).length < (current.statusEvents ++ [row]).length + 1 + m := by
      simp only [h.recorded, List.length_append]
      omega
    have hloop : ∃ after total m', applyContiguous orderId sourcePartition
        ((current.statusEvents ++ [row]).length + 1) (current.withStatusEvents (current.statusEvents ++ [row]))
        ⟨false, false⟩ = .ok (after, total) ∧
          Delivered t orderId sourcePartition rows after (seen ++ [row]) m' :=
      applyContiguous_drains hnumbered hunheard hlegal honce hsent h.bound h.applied hrecorded
        (fun old hold => List.mem_append_left _ (h.first old hold)) hrounds
    obtain ⟨after, outcome, m', hloop, hdelivered⟩ := hloop
    refine ⟨after, outcome, seen ++ [row], m', ?_, hdelivered, fun old hold => List.mem_append_left _ hold,
      List.mem_append_right _ List.mem_cons_self⟩
    unfold recordBrokerStatusOnce
    rw [hnone]
    simp only [hpresent, Bool.false_eq_true, if_false]
    change (if row.sourceSequence.isNone = true then _ else _) = _
    rw [hsequence, hscope, hpartition, if_neg Bool.false_ne_true]
    exact hloop

theorem Delivered.start : Delivered t orderId sourcePartition rows t [] 0 where
  bound := Nat.zero_le _
  applied := rfl
  recorded := (List.append_nil _).symm
  once := List.nodup_nil
  sent := fun _ h => absurd h List.not_mem_nil
  first := fun _ h => absurd h List.not_mem_nil
  next := fun _ _ => List.not_mem_nil

/-- Any number of deliveries of events of the sequence, none of which is refused. -/
theorem Delivered.run (hnumbered : Numbered orderId sourcePartition rows)
    (hunheard : Unheard t orderId sourcePartition rows) (hlegal : inSequence t rows = .ok last)
    {delivery : List BrokerOrderStatusEvent}
    (hsent : ∀ event ∈ delivery, ∃ row ∈ rows, event.resolved = .ok row) {current : Tables}
    {seen : List PersistedBrokerOrderStatusEvent} {m : Nat}
    (h : Delivered t orderId sourcePartition rows current seen m) :
    ∃ seen' m', Delivered t orderId sourcePartition rows
        (runFrom (step arith hashes) current (delivery.map .status)) seen' m' ∧ (∀ old ∈ seen, old ∈ seen') ∧
      ∀ event ∈ delivery, ∀ row, event.resolved = .ok row → row ∈ seen' := by
  induction delivery generalizing current seen m with
  | nil => exact ⟨seen, m, h, fun _ hold => hold, fun _ hevent => absurd hevent List.not_mem_nil⟩
  | cons event delivery ih =>
    obtain ⟨row, hrow, hresolved⟩ := hsent event List.mem_cons_self
    obtain ⟨after, outcome, seen₁, m₁, hafter, h₁, hkept, hseen⟩ :=
      h.deliver hnumbered hunheard hlegal hresolved hrow
    have hperform : perform arith hashes current (.status event) = .ok after := by
      change (·.1) <$> applyStatusOnce current event = _
      rw [hafter]
      rfl
    have hstep : step arith hashes current (.status event) = after := step_ok hperform
    obtain ⟨seen₂, m₂, h₂, hkept', hall⟩ := ih (fun other hother => hsent other (List.mem_cons_of_mem event hother)) h₁
    refine ⟨seen₂, m₂, ?_, fun old hold => hkept' old (hkept old hold), fun other hother row' hrow' => ?_⟩
    · rw [List.map_cons, runFrom_cons, hstep]
      exact h₂
    · rcases List.mem_cons.mp hother with rfl | hother
      · rw [hresolved] at hrow'
        rw [← Except.ok.inj hrow']
        exact hkept' row hseen
      · exact hall other hother row' hrow'

/-- When every event was seen, none waits. -/
theorem Delivered.complete (hlegal : inSequence t rows = .ok last) {after : Tables}
    {seen : List PersistedBrokerOrderStatusEvent} {m : Nat} (h : Delivered t orderId sourcePartition rows after seen m)
    (hall : ∀ row ∈ rows, row ∈ seen) : after.withStatusEvents t.statusEvents = last := by
  have hend : rows.length ≤ m := by
    by_contra hlt
    have hget : rows[m]? = some rows[m] := List.getElem?_eq_getElem (not_le.mp hlt)
    exact h.next _ hget (hall _ (List.mem_of_getElem? hget))
  have happlied := h.applied
  rw [List.take_of_length_le hend, hlegal] at happlied
  exact (Except.ok.inj happlied).symm

end Sequence

/-- Whatever order the events of a legal sequence come in and however often, the tables end as
they do in sequence, up to the order in which the events were recorded. -/
theorem delivery_run (arith : Arithmetic) (hashes : AdoptionHashes) (t last : Tables) (orderId : UUID)
    (sourcePartition : String) (rows : List PersistedBrokerOrderStatusEvent)
    (hnumbered : Numbered orderId sourcePartition rows) (hunheard : Unheard t orderId sourcePartition rows)
    (hlegal : inSequence t rows = .ok last) (events : List BrokerOrderStatusEvent)
    (hresolved : events.map BrokerOrderStatusEvent.resolved = rows.map .ok) (delivery : List BrokerOrderStatusEvent)
    (hsent : ∀ event, event ∈ delivery ↔ event ∈ events) :
    (runFrom (step arith hashes) t (delivery.map .status)).withStatusEvents t.statusEvents = last ∧
      (runFrom (step arith hashes) t (events.map .status)).withStatusEvents t.statusEvents = last := by
  have hrows : ∀ event ∈ events, ∃ row ∈ rows, event.resolved = .ok row := by
    intro event hevent
    have hmem : event.resolved ∈ events.map BrokerOrderStatusEvent.resolved := List.mem_map_of_mem hevent
    rw [hresolved] at hmem
    obtain ⟨row, hrow, heq⟩ := List.mem_map.mp hmem
    exact ⟨row, hrow, heq.symm⟩
  have hevents : ∀ row ∈ rows, ∃ event ∈ events, event.resolved = .ok row := by
    intro row hrow
    have hmem : Except.ok row ∈ rows.map (Except.ok : _ → Except PyError _) := List.mem_map_of_mem hrow
    rw [← hresolved] at hmem
    exact List.mem_map.mp hmem
  have hcomplete : ∀ sent : List BrokerOrderStatusEvent, (∀ event, event ∈ sent ↔ event ∈ events) →
      (runFrom (step arith hashes) t (sent.map .status)).withStatusEvents t.statusEvents = last := by
    intro sent hsame
    have hstart : Delivered t orderId sourcePartition rows t [] 0 := Delivered.start
    obtain ⟨seen, m, hdelivered, -, hseen⟩ :=
      hstart.run hnumbered hunheard hlegal fun event hevent => hrows event ((hsame event).mp hevent)
    refine hdelivered.complete hlegal fun row hrow => ?_
    obtain ⟨event, hevent, heq⟩ := hevents row hrow
    exact hseen event ((hsame event).mpr hevent) row heq
  exact ⟨hcomplete delivery hsent, hcomplete events fun _ => Iff.rfl⟩

private def heard (sequence : Nat) (rawStatus : String) : BrokerOrderStatusEvent where
  brokerId := rowUuid 1
  accountId := rowUuid 2
  sourcePartition := "status"
  dedupeKey := rawStatus
  rawStatus := rawStatus
  occurredAt := sequence
  sourceSequence := some sequence
  brokerOrderId := some "B1"
  orderId := some (rowUuid 3)
  brokerClientOrderId := some "client-1"
  requestedQuantity := some 3
  cumulativeFilledQuantity := some 0
  observedAt := some sequence
  payloadHash := sequence

private def heardRow (sequence : Nat) (rawStatus : String) : PersistedBrokerOrderStatusEvent where
  orderId := rowUuid 3
  brokerId := rowUuid 1
  accountId := rowUuid 2
  sourcePartition := "status"
  dedupeKey := rawStatus
  canonicalPayloadHash := sequence
  brokerOrderId := "B1"
  rawStatus := rawStatus
  sourceSequence := some sequence
  occurredAt := sequence
  observedAt := sequence

private def acknowledgedOrder : Tables :=
  sampleTables [sampleOrder .buy 3] [sampleLink (rowUuid 3) "ACKNOWLEDGED"]

/-- A cancel request and its end, the end first and then once more. -/
theorem delivery_run_reversed :
    ∃ last, inSequence acknowledgedOrder [heardRow 1 "CANCEL_PENDING", heardRow 2 "CANCELED"] = .ok last ∧
      (last.order? (rowUuid 3)).map PersistedOrder.status = some .canceled ∧
      (runFrom (step .decimal28 noHashes) acknowledgedOrder
        [.status (heard 2 "CANCELED"), .status (heard 1 "CANCEL_PENDING"),
          .status (heard 2 "CANCELED")]).withStatusEvents acknowledgedOrder.statusEvents = last := by
  have hlegal : (inSequence acknowledgedOrder [heardRow 1 "CANCEL_PENDING", heardRow 2 "CANCELED"]).toOption.isSome =
      true := by decide +kernel
  cases h : inSequence acknowledgedOrder [heardRow 1 "CANCEL_PENDING", heardRow 2 "CANCELED"] with
  | error e =>
    rw [h] at hlegal
    cases hlegal
  | ok last =>
    refine ⟨last, rfl, ?_, ?_⟩
    · have hstatus : ((inSequence acknowledgedOrder [heardRow 1 "CANCEL_PENDING", heardRow 2 "CANCELED"]).toOption.bind
          fun t => (t.order? (rowUuid 3)).map PersistedOrder.status) = some .canceled := by decide +kernel
      rw [h] at hstatus
      exact hstatus
    · refine (delivery_run .decimal28 noHashes acknowledgedOrder last (rowUuid 3) "status"
        [heardRow 1 "CANCEL_PENDING", heardRow 2 "CANCELED"] ⟨?_, ?_, ?_⟩ ⟨rfl, ?_, ?_⟩ h
        [heard 1 "CANCEL_PENDING", heard 2 "CANCELED"] rfl
        [heard 2 "CANCELED", heard 1 "CANCEL_PENDING", heard 2 "CANCELED"] ?_).1
      · intro row hrow
        rcases List.mem_cons.mp hrow with rfl | hrow
        · exact ⟨rfl, rfl⟩
        · rw [List.mem_singleton.mp hrow]
          exact ⟨rfl, rfl⟩
      · intro i row hrow
        match i with
        | 0 => rw [← Option.some.inj hrow]; rfl
        | 1 => rw [← Option.some.inj hrow]; rfl
        | i + 2 => cases hrow
      · decide
      · exact fun _ h => absurd h List.not_mem_nil
      · exact fun _ h => absurd h List.not_mem_nil
      · intro event
        simp only [List.mem_cons, List.not_mem_nil, or_false]
        tauto

end AutoTrader.Ledger
