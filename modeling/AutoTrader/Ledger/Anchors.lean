import AutoTrader.Ledger.WriterEffects

/-! The budget anchors of an account and a currency: the ones a writer locks, and what it
leaves in the table when it writes them back. -/

namespace AutoTrader.Ledger

open AutoTrader.Dispatch AutoTrader.Domain AutoTrader.Execution AutoTrader.Runtime

variable {arith : Arithmetic} {hashes : AdoptionHashes}

/-- An anchor counts what happens in an account. -/
def RiskBudgetAnchor.covers (anchor : RiskBudgetAnchor) (accountId : UUID) : Prop :=
  anchor.scope = .global ∨ anchor.scope = .account accountId

/-- An anchor is charged for an account in a currency. -/
def RiskBudgetAnchor.charged (anchor : RiskBudgetAnchor) (accountId : UUID) (currency : String) : Prop :=
  anchor.currency = currency ∧ anchor.covers accountId

instance (anchor : RiskBudgetAnchor) (accountId : UUID) : Decidable (anchor.covers accountId) :=
  inferInstanceAs (Decidable (_ ∨ _))

instance (anchor : RiskBudgetAnchor) (accountId : UUID) (currency : String) :
    Decidable (anchor.charged accountId currency) :=
  inferInstanceAs (Decidable (_ ∧ _))

theorem RiskBudgetAnchor.charged_congr {a b : RiskBudgetAnchor} (h : a.key = b.key) (accountId : UUID)
    (currency : String) : a.charged accountId currency ↔ b.charged accountId currency := by
  obtain ⟨hscope, hcurrency⟩ := Prod.mk.inj h
  unfold charged covers
  rw [hscope, hcurrency]

/-- The two rows a writer locks. -/
theorem lockGlobalAndAccount_ok {anchors : List RiskBudgetAnchor} {accountId : UUID} {currency : String}
    {locked : RiskBudgetAnchor × RiskBudgetAnchor}
    (h : lockGlobalAndAccount anchors accountId currency = some locked) :
    (locked.1 ∈ anchors ∧ locked.1.key = (.global, currency)) ∧
      (locked.2 ∈ anchors ∧ locked.2.key = (.account accountId, currency)) := by
  obtain ⟨globalAnchor, hglobal, h⟩ := Option.bind_eq_some_iff.mp h
  obtain ⟨accountAnchor, haccount, h⟩ := Option.bind_eq_some_iff.mp h
  rw [← Option.some.inj h]
  exact ⟨⟨List.mem_of_find?_eq_some hglobal, Rows.lookup_key hglobal⟩,
    ⟨List.mem_of_find?_eq_some haccount, Rows.lookup_key haccount⟩⟩

/-- They are the ones that are charged. -/
theorem charged_iff_locked {anchors : List RiskBudgetAnchor} {accountId : UUID} {currency : String}
    {locked : RiskBudgetAnchor × RiskBudgetAnchor}
    (h : lockGlobalAndAccount anchors accountId currency = some locked) (anchor : RiskBudgetAnchor) :
    anchor.charged accountId currency ↔ anchor.key = locked.1.key ∨ anchor.key = locked.2.key := by
  obtain ⟨⟨-, hglobal⟩, -, haccount⟩ := lockGlobalAndAccount_ok h
  rw [hglobal, haccount]
  unfold RiskBudgetAnchor.charged RiskBudgetAnchor.covers RiskBudgetAnchor.key
  simp only [Prod.mk.injEq]
  tauto

theorem RiskBudgetAnchor.store_ok {anchor stored : RiskBudgetAnchor} (h : anchor.store arith = .ok stored) :
    arith.store anchor.positionRiskAmount = .ok stored.positionRiskAmount ∧
      arith.store anchor.remainingReservationAmount = .ok stored.remainingReservationAmount ∧
      stored.key = anchor.key ∧ 0 ≤ stored.positionRiskAmount ∧ 0 ≤ stored.remainingReservationAmount := by
  obtain ⟨position, hposition, h⟩ := bind_ok.mp h
  obtain ⟨remaining, hremaining, h⟩ := bind_ok.mp h
  split at h
  · cases h
  rename_i hsigns
  rw [not_or, not_lt, not_lt] at hsigns
  rw [← Except.ok.inj h]
  exact ⟨hposition, hremaining, rfl, hsigns.1, hsigns.2⟩

/-- Writing two locked anchors back changes the charged anchors and leaves the others. -/
theorem writeAnchors_ok {anchors written : List RiskBudgetAnchor} {accountId : UUID} {currency : String}
    {locked : RiskBudgetAnchor × RiskBudgetAnchor} {change : RiskBudgetAnchor → RiskBudgetAnchor}
    (hlocked : lockGlobalAndAccount anchors accountId currency = some locked)
    (h : writeAnchors arith anchors locked change = .ok written) (hkey : ∀ a, (change a).key = a.key) :
    ∀ a ∈ written, (a ∈ anchors ∧ ¬a.charged accountId currency) ∨
      (a.charged accountId currency ∧ ∃ old ∈ anchors, old.key = a.key ∧ (change old).store arith = .ok a) := by
  obtain ⟨⟨hmem₁, -⟩, hmem₂, -⟩ := lockGlobalAndAccount_ok hlocked
  obtain ⟨globalAnchor, hglobal, h⟩ := bind_ok.mp h
  obtain ⟨accountAnchor, haccount, h⟩ := bind_ok.mp h
  have hglobalKey : globalAnchor.key = locked.1.key :=
    (RiskBudgetAnchor.store_ok hglobal).2.2.1.trans (hkey _)
  have haccountKey : accountAnchor.key = locked.2.key :=
    (RiskBudgetAnchor.store_ok haccount).2.2.1.trans (hkey _)
  rw [← Except.ok.inj h]
  intro a ha
  rw [charged_iff_locked hlocked]
  obtain ⟨middle, hmiddle, rfl⟩ := Rows.mem_update.mp ha
  obtain ⟨old, hold, rfl⟩ := Rows.mem_update.mp hmiddle
  by_cases hsecond : RiskBudgetAnchor.key (if old.key = locked.1.key then globalAnchor else old) = locked.2.key
  · rw [if_pos hsecond]
    exact .inr ⟨.inr haccountKey, locked.2, hmem₂, haccountKey.symm, haccount⟩
  · rw [if_neg hsecond]
    by_cases hfirst : old.key = locked.1.key
    · rw [if_pos hfirst]
      exact .inr ⟨.inl hglobalKey, locked.1, hmem₁, hglobalKey.symm, hglobal⟩
    · rw [if_neg hfirst] at hsecond ⊢
      exact .inl ⟨hold, fun hkeys => hkeys.elim hfirst hsecond⟩

end AutoTrader.Ledger

/-! The statuses of broker links. They are read as members of `OrderStatus`; adoptions and
status events write such members, a dispatched command that is accepted does not. -/

namespace AutoTrader.Ledger

open AutoTrader.Dispatch AutoTrader.Domain AutoTrader.Execution AutoTrader.Runtime

variable {arith : Arithmetic} {hashes : AdoptionHashes}

/-- Every link's status is a member of `OrderStatus`. -/
def LinksReadable (t : Tables) : Prop :=
  ∀ link ∈ t.links, (OrderStatus.ofValue? link.status).isSome = true

instance (t : Tables) : Decidable (LinksReadable t) :=
  inferInstanceAs (Decidable (∀ link ∈ t.links, _))

theorem LinksReadable.of_links {t after : Tables} (h : LinksReadable t) (hlinks : after.links = t.links) :
    LinksReadable after := by
  unfold LinksReadable
  rw [hlinks]
  exact h

theorem LinksReadable.of_update {t after : Tables} {id : UUID} {text : String} (h : LinksReadable t)
    (hlinks : after.links = Rows.update BrokerOrderLink.id t.links id ({ · with status := text }))
    (htext : (OrderStatus.ofValue? text).isSome = true) : LinksReadable after := by
  intro link hlink
  rw [hlinks] at hlink
  obtain ⟨old, hold, rfl⟩ := Rows.mem_update.mp hlink
  split
  · exact htext
  · exact h old hold

theorem LinksReadable.of_append {t after : Tables} {link : BrokerOrderLink} (h : LinksReadable t)
    (hlinks : after.links = t.links ++ [link]) (hstatus : (OrderStatus.ofValue? link.status).isSome = true) :
    LinksReadable after := by
  intro row hrow
  rw [hlinks] at hrow
  rcases List.mem_append.mp hrow with hrow | hrow
  · exact h row hrow
  · rw [List.mem_singleton.mp hrow]
    exact hstatus

/-- Readable links are read. -/
theorem LinksReadable.decodes {t : Tables} (h : LinksReadable t) (orderId : UUID) :
    ∃ states, (t.linksInOrder orderId).mapM linkState = .ok states := by
  have hlinks : ∀ link ∈ t.linksInOrder orderId, (OrderStatus.ofValue? link.status).isSome = true := by
    intro link hlink
    have hmem : link ∈ t.linksOf orderId := (List.mem_insertionSort _).mp hlink
    exact h link (List.mem_filter.mp hmem).1
  generalize t.linksInOrder orderId = links at hlinks
  induction links with
  | nil => exact ⟨[], rfl⟩
  | cons link links ih =>
    obtain ⟨states, hstates⟩ := ih fun other hother => hlinks other (List.mem_cons_of_mem link hother)
    obtain ⟨status, hstatus⟩ := Option.isSome_iff_exists.mp (hlinks link List.mem_cons_self)
    have hvalue : OrderStatus.ofValue link.status = .ok status := by
      unfold OrderStatus.ofValue
      rw [hstatus]
    have hlink : linkState link =
        .ok ⟨link.id, link.brokerOrderId, link.linkSequence, link.exposureBearing, status⟩ := by
      unfold linkState
      rw [hvalue]
      rfl
    refine ⟨⟨link.id, link.brokerOrderId, link.linkSequence, link.exposureBearing, status⟩ :: states, ?_⟩
    rw [List.mapM_cons, hlink, hstates]
    rfl

/-! ### Steps -/

theorem LinksReadable.one {t after : Tables} {persisted : PersistedBrokerOrderStatusEvent}
    {outcome : BrokerStatusApplication} (happly : applyOne t persisted = .ok (after, outcome))
    (h : LinksReadable t) : LinksReadable after := by
  obtain ⟨order, -, -, hkept | ⟨id, text, hlinks, htext⟩⟩ := applyOne_writes happly
  · exact h.of_links hkept
  · exact h.of_update hlinks htext

/-- An acceptance finds its broker order linked already. -/
def LinkedBefore (t : Tables) : LedgerEvent → Prop
  | .accept a => ∃ link ∈ t.links, link.brokerId = a.brokerId ∧ link.brokerOrderId = a.brokerOrderId
  | _ => True

theorem LinksReadable.perform {t after : Tables} {event : LedgerEvent} (h : LinksReadable t)
    (hlinked : LinkedBefore t event) (hperform : perform arith hashes t event = .ok after) : LinksReadable after := by
  cases event with
  | fill fill =>
    obtain ⟨⟨after, result⟩, happly, rfl⟩ := map_ok hperform
    rcases applyEventOnce_ok happly with ⟨-, existing, -, rfl | rfl⟩ | ⟨-, anchors, order, stored, happlied⟩
    · exact h
    · exact h.of_links rfl
    · exact h.of_links happlied.links
  | status event =>
    obtain ⟨⟨after, outcome⟩, happly, rfl⟩ := map_ok hperform
    exact applyStatusOnce_keeps (R := fun t after => LinksReadable t → LinksReadable after) (fun _ h => h)
      (fun _ _ _ hab hbc h => hbc (hab h)) (fun _ _ _ _ hone => LinksReadable.one hone) (fun _ _ h => h.of_links rfl)
      (fun _ _ h => h.of_links rfl) happly h
  | release orderId brokerId sourcePartition now =>
    obtain ⟨⟨after, result⟩, hrelease, rfl⟩ := map_ok hperform
    rcases releaseIfComplete_ok hrelease with rfl | ⟨_, _, _, _, -, -, -, -, hreleased⟩
    · exact h
    · obtain ⟨_, _, -, -, rfl⟩ := release_ok hreleased
      exact h.of_links rfl
  | checkpoint key checkpoint =>
    obtain ⟨streams, scopes, rfl⟩ := recordClosedIntervalCheckpoint_ok hperform
    exact h.of_links rfl
  | approve decision reservation accountId currency =>
    obtain ⟨_, _, _, _, _, -, -, -, -, ⟨-, -, _, -, rfl⟩ | ⟨-, rfl⟩⟩ := persistApproval_ok hperform
    · exact h.of_links rfl
    · exact h.of_links rfl
  | createOrder order event =>
    obtain ⟨_, rfl | ⟨rfl, -⟩⟩ := createApprovedOrder_ok hperform
    · exact h.of_links rfl
    · exact h.of_links rfl
  | accept acceptance =>
    obtain rfl | ⟨link, -, -, -, -, -, hunlinked⟩ := linkAccepted_ok hperform
    · exact h
    · exact absurd hlinked hunlinked
  | adopt adoption ids =>
    obtain ⟨⟨after, result⟩, hadopt, rfl⟩ := map_ok hperform
    obtain rfl | ⟨_, _, _, _, hbooked⟩ := adoptOpenOrder_ok hadopt
    · exact h
    · exact h.of_append hbooked.links rfl

/-! ### Runs -/

/-- Links stay readable, and are read, as long as no acceptance adds one. -/
theorem linksReadable_run (arith : Arithmetic) (hashes : AdoptionHashes) (t : Tables) (hstart : LinksReadable t)
    (events : List LedgerEvent) (hmeets : RunMeets (step arith hashes) LinkedBefore t events) :
    LinksReadable (runFrom (step arith hashes) t events) ∧
      ∀ orderId, ∃ states,
        ((runFrom (step arith hashes) t events).linksInOrder orderId).mapM linkState = .ok states := by
  have hrun : LinksReadable (runFrom (step arith hashes) t events) :=
    run_invariant (fun _ _ h hlinked => step_keeps h fun _ => h.perform hlinked) hstart hmeets
  exact ⟨hrun, hrun.decodes⟩

/-- The broker order of an adopted order is accepted once more. -/
theorem linksReadable_run_adopted :
    LinksReadable (runFrom (step .decimal28 noHashes)
      (sampleTables [sampleOrder .buy 3] [sampleLink (rowUuid 3) "UNKNOWN"])
      [.accept ⟨rowUuid 8, rowUuid 3, rowUuid 1, "B1", .submit⟩]) :=
  (linksReadable_run .decimal28 noHashes (sampleTables [sampleOrder .buy 3] [sampleLink (rowUuid 3) "UNKNOWN"])
    (by decide) [.accept ⟨rowUuid 8, rowUuid 3, rowUuid 1, "B1", .submit⟩]
    ⟨⟨_, List.mem_cons_self, rfl, rfl⟩, trivial⟩).1

/-- An order is accepted, and its link cannot be read. -/
theorem linksReadable_fails_accepted :
    ¬∀ (t : Tables) (events : List LedgerEvent), t.links = [] →
      LinksReadable (runFrom (step .decimal28 noHashes) t events) ∧
        ∀ orderId, ∃ states,
          ((runFrom (step .decimal28 noHashes) t events).linksInOrder orderId).mapM linkState = .ok states := by
  intro h
  have hread := (h (sampleTables [sampleOrder .buy 3] [])
    [.accept ⟨rowUuid 7, rowUuid 3, rowUuid 1, "B1", .submit⟩] rfl).1
  revert hread
  decide +kernel

end AutoTrader.Ledger
