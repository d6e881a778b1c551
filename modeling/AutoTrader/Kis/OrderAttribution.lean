import AutoTrader.Dispatch.System
import AutoTrader.Kis.CashWriter

/-! Which order of the provider a recovery adopts. The provider does not know the commands: an order
is told by its terms and by the time it came in. -/

namespace AutoTrader.Kis

open AutoTrader.Binance AutoTrader.Dispatch AutoTrader.Domain AutoTrader.Execution AutoTrader.Runtime

/-- What the provider tells its orders by, and `kis_provider_order_id` writes out. -/
structure ProviderIdentity where
  orderDate : Int
  organizationNumber : String
  orderNumber : String
  deriving DecidableEq

/-- `provider_identity`. -/
def KisDailyOrder.identity (order : KisDailyOrder) : ProviderIdentity :=
  ⟨order.orderDate, order.organizationNumber, order.orderNumber⟩

def BrokerWriteResult.identity (result : BrokerWriteResult) : ProviderIdentity :=
  ⟨result.orderDate, result.organizationNumber, result.orderNumber⟩

/-- An order at the provider, and the command whose dispatch created it. -/
structure Placed where
  commandId : UUID
  order : KisDailyOrder

/-- A link of an order, and the command whose answer it was recorded with. -/
structure ProviderLink where
  commandId : UUID
  orderId : UUID
  identity : ProviderIdentity

/-- The provider's orders, the dispatch journal, the links and the accepted commands. -/
structure CashDesk where
  placed : List Placed
  journal : List (UUID × KisDispatchResult)
  links : List ProviderLink
  accepted : List UUID

namespace CashDesk

def dispatch? (s : CashDesk) (commandId : UUID) : Option KisDispatchResult :=
  (s.journal.find? fun record => decide (record.1 = commandId)).map Prod.snd

/-- The orders of a binding and a day. -/
def ordersOn (s : CashDesk) (bindingId : UUID) (day : Int) : List Placed :=
  s.placed.filter fun p => decide (p.order.bindingId = bindingId) && decide (p.order.orderDate = day)

end CashDesk

/-- The writer over what the journal and the provider hold. A journal without a record has the request
sent, which is a dispatch of its own. -/
def deskWriter (base : KisCashWriter) (s : CashDesk) (readable : Bool) : KisCashWriter :=
  { base with
    dispatchOnce := fun commandId _ _ =>
      match s.dispatch? commandId with
      | some result => .ok result
      | none => .error ⟨.runtimeError, "KIS dispatch has no record"⟩
    dailyOrders := fun bindingId day =>
      if readable then .ok ((s.ordersOn bindingId day).map Placed.order)
      else .error ⟨.runtimeError, "KIS daily orders cannot be read"⟩ }

namespace CashDesk

/-- `record_accepted` with `_link_broker_order`. A provider order has one link, and one that would be
its second is rolled back. -/
def recordAccepted (s : CashDesk) (command : BrokerOrderCommand) (identity : ProviderIdentity) : CashDesk :=
  if command.id ∈ s.accepted then s
  else if s.links.any fun link => decide (link.orderId = command.orderId) && decide (link.identity = identity) then
    { s with accepted := command.id :: s.accepted }
  else if s.links.any fun link => decide (link.identity = identity) then s
  else
    { s with
      accepted := command.id :: s.accepted
      links := s.links ++ [⟨command.id, command.orderId, identity⟩] }

/-- The answer to a submission, when the dispatch was acknowledged. -/
def acknowledgement (s : CashDesk) (command : BrokerOrderCommand) : Option BrokerWriteResult :=
  match s.dispatch? command.id, command.dispatchAttemptedAt with
  | some result, some attemptedAt =>
    if result.state = .acknowledged then (acknowledgedResult attemptedAt result).toOption else none
  | _, _ => none

end CashDesk

/-- What happens between the commands and the provider. -/
inductive CashEvent
  | dispatched (commandId : UUID) (reached : Option KisDailyOrder) (result : KisDispatchResult)
  | updated (order : KisDailyOrder)
  | acknowledged (command : BrokerOrderCommand)
  | recovered (command : BrokerOrderCommand) (now : DateTime) (readable : Bool)

/-- One event. A dispatch is sent once, and its order exists at the provider when it was reached; an
order keeps its identity when it is filled. -/
def CashDesk.step (base : KisCashWriter) (s : CashDesk) : CashEvent → CashDesk
  | .dispatched commandId reached result =>
    if (s.dispatch? commandId).isSome then s
    else
      { s with
        journal := s.journal ++ [(commandId, result)]
        placed := s.placed ++ (reached.map fun order => ⟨commandId, order⟩).toList }
  | .updated order =>
    { s with placed := s.placed.map fun p => if p.order.identity = order.identity then { p with order := order } else p }
  | .acknowledged command =>
    match s.acknowledgement command with
    | some result => s.recordAccepted command result.identity
    | none => s
  | .recovered command now readable =>
    match recoverSubmit (deskWriter base s readable) command now with
    | .ok (some result) => s.recordAccepted command result.identity
    | _ => s

/-! ### What a recovery may adopt -/

/-- An order that a recovery adopts is the one the command's own dispatch created, and is linked to no
other command. -/
def AdoptsOwn (base : KisCashWriter) (s : CashDesk) : CashEvent → Prop
  | .recovered command now readable =>
    ∀ result, recoverSubmit (deskWriter base s readable) command now = .ok (some result) →
      (∃ p ∈ s.placed, p.commandId = command.id ∧ p.order.identity = result.identity) ∧
        (∀ p ∈ s.placed, p.order.identity = result.identity → p.commandId = command.id) ∧
        ∀ link ∈ s.links, link.identity = result.identity → link.commandId = command.id
  | _ => True

/-- The provider gives every order an identity of its own, and acknowledges a dispatch with the one of
the order it created. -/
def ProviderHonest (s : CashDesk) : CashEvent → Prop
  | .dispatched _ reached result =>
    (∀ order ∈ reached, ∀ p ∈ s.placed, p.order.identity ≠ order.identity) ∧
      (result.state = .acknowledged → ∃ order ∈ reached,
        result.organizationNumber = some order.organizationNumber ∧ result.orderNumber = some order.orderNumber)
  | _ => True

/-- The orders of the day, the terms and the window of a recovery. -/
def candidates (base : KisCashWriter) (s : CashDesk) (context : KisCashWriteContext) (command : BrokerOrderCommand)
    (attemptedAt now : Instant) : List Placed :=
  (s.ordersOn context.providerBindingId (kstDate attemptedAt)).filter fun p =>
    (ambiguousDispatch base context command attemptedAt now).matches p.order

/-- The provider dated the command's own order on the day of the attempt. -/
def DatedOnAttempt (s : CashDesk) (command : BrokerOrderCommand) : Prop :=
  ∀ attemptedAt, command.dispatchAttemptedAt = some attemptedAt →
    ∀ p ∈ s.placed, p.commandId = command.id → p.order.orderDate = kstDate attemptedAt

/-- The condition: where a recovery looks, the command's own order is among the candidates, or there is
not exactly one of them. -/
def NotMistaken (base : KisCashWriter) (s : CashDesk) : CashEvent → Prop
  | .acknowledged command => DatedOnAttempt s command
  | .recovered command now _ =>
    DatedOnAttempt s command ∧
      ∀ context attemptedAt, loadSubmitContext base command = .ok context → command.dispatchAttemptedAt = some attemptedAt →
        (∃ p ∈ candidates base s context command attemptedAt now.instant, p.commandId = command.id) ∨
          (candidates base s context command attemptedAt now.instant).length ≠ 1
  | _ => True

/-! ### One recovery -/

section Recovery

variable {writer base : KisCashWriter} {command : BrokerOrderCommand} {now : DateTime} {s : CashDesk} {readable : Bool}

/-- Where an answer of `recover_submit` comes from. -/
theorem recoverSubmit_some {result : BrokerWriteResult} (h : recoverSubmit writer command now = .ok (some result)) :
    ∃ context attemptedAt, loadSubmitContext writer command = .ok context ∧
      command.dispatchAttemptedAt = some attemptedAt ∧
      ((∃ dispatch, writer.dispatchOnce command.id context.intent context.account = .ok dispatch ∧
          dispatch.state = .acknowledged ∧ acknowledgedResult attemptedAt dispatch = .ok result) ∨
        ∃ orders order, writer.dailyOrders context.providerBindingId (kstDate attemptedAt) = .ok orders ∧
          orders.filter (ambiguousDispatch writer context command attemptedAt now.instant).matches = [order] ∧
          result.identity = order.identity) := by
  obtain ⟨found, hfound, h⟩ := bind_ok.mp h
  obtain ⟨context, hcontext, hfound⟩ := bind_ok.mp hfound
  obtain ⟨moment, hmoment, hfound⟩ := bind_ok.mp hfound
  obtain ⟨_, -, hfound⟩ := bind_ok.mp hfound
  have hnow : now.instant = moment := by
    unfold DateTime.requireUtc at hmoment
    cases hzone : now.zone <;> rw [hzone] at hmoment <;> cases hmoment <;> rfl
  cases hattempted : command.dispatchAttemptedAt with
  | none =>
    rw [hattempted] at hfound
    cases hfound
    cases h
  | some attemptedAt =>
    rw [hattempted] at hfound
    dsimp only at hfound
    refine ⟨context, attemptedAt, hcontext, rfl, ?_⟩
    split at hfound
    · obtain ⟨_, -, hfound⟩ := bind_ok.mp hfound
      obtain ⟨dispatch, hdispatch, hfound⟩ := bind_ok.mp hfound
      split at hfound
      · rename_i hstate
        obtain ⟨acknowledged, hacknowledged, hresult⟩ := exceptMap_ok.mp hfound
        subst hresult
        cases h
        exact .inl ⟨dispatch, hdispatch, hstate, hacknowledged⟩
      · cases hfound
      · cases hfound
        cases h
      · cases hfound
        cases h
      · split at hfound
        · cases hfound
          cases h
        · rename_i orders horders
          cases hfound
          dsimp only at h
          split at h
          · rename_i order hadopted
            cases h
            obtain ⟨_, -, hadopted⟩ := bind_ok.mp hadopted
            obtain ⟨_, -, hadopted⟩ := bind_ok.mp hadopted
            split at hadopted
            · cases hadopted
            · rename_i only honly
              cases hadopted
              exact .inr ⟨orders, order, horders, hnow ▸ honly, rfl⟩
            · cases hadopted
          · cases h
    · cases hfound
      cases h

/-! ### Whose orders and links are -/

/-- An acknowledgement and a link name an order that the same command's dispatch created, and an
identity is that of one order. -/
structure Attributed (s : CashDesk) : Prop where
  identities : (s.placed.map fun p => p.order.identity).Nodup
  acknowledged : ∀ record ∈ s.journal, record.2.state = .acknowledged → ∃ p ∈ s.placed, p.commandId = record.1 ∧
    record.2.organizationNumber = some p.order.identity.organizationNumber ∧
    record.2.orderNumber = some p.order.identity.orderNumber
  linked : ∀ link ∈ s.links, ∃ p ∈ s.placed, p.commandId = link.commandId ∧ p.order.identity = link.identity

theorem Attributed.only (h : Attributed s) {p q : Placed} (hp : p ∈ s.placed) (hq : q ∈ s.placed)
    (heq : p.order.identity = q.order.identity) : p = q :=
  List.inj_on_of_nodup_map h.identities hp hq heq

theorem acknowledgedResult_identity {attemptedAt : Instant} {dispatch : KisDispatchResult} {result : BrokerWriteResult}
    (h : acknowledgedResult attemptedAt dispatch = .ok result) :
    dispatch.organizationNumber = some result.organizationNumber ∧ dispatch.orderNumber = some result.orderNumber ∧
      result.orderDate = kstDate attemptedAt := by
  unfold acknowledgedResult at h
  split at h
  · rename_i organization number horganization hnumber
    cases h
    exact ⟨horganization, hnumber, rfl⟩
  · cases h

/-- What a dispatch was acknowledged with is the order it created, when that is dated on the attempt. -/
theorem Attributed.answered (h : Attributed s) {dispatch : KisDispatchResult} {attemptedAt : Instant}
    {result : BrokerWriteResult} (hdispatch : s.dispatch? command.id = some dispatch)
    (hstate : dispatch.state = .acknowledged) (hresult : acknowledgedResult attemptedAt dispatch = .ok result)
    (hattempted : command.dispatchAttemptedAt = some attemptedAt) (hdated : DatedOnAttempt s command) :
    ∃ p ∈ s.placed, p.commandId = command.id ∧ p.order.identity = result.identity := by
  obtain ⟨record, hrecord, rfl⟩ := Option.map_eq_some_iff.mp hdispatch
  have hid : record.1 = command.id := by simpa using List.find?_some hrecord
  obtain ⟨p, hp, howner, horganization, hnumber⟩ := h.acknowledged record (List.mem_of_find?_eq_some hrecord) hstate
  obtain ⟨horganization', hnumber', hdate⟩ := acknowledgedResult_identity hresult
  rw [horganization] at horganization'
  rw [hnumber] at hnumber'
  have howner := howner.trans hid
  refine ⟨p, hp, howner, ?_⟩
  unfold KisDailyOrder.identity BrokerWriteResult.identity
  rw [hdate, hdated attemptedAt hattempted p hp howner]
  exact congrArg₂ (ProviderIdentity.mk _) (Option.some.inj horganization') (Option.some.inj hnumber')

/-- Under the condition what a recovery answers with is the command's own. -/
theorem Attributed.adoptsOwn (h : Attributed s) {event : CashEvent} (hnot : NotMistaken base s event) :
    AdoptsOwn base s event := by
  cases event with
  | recovered command now readable =>
    intro result hresult
    obtain ⟨hdated, hown⟩ := hnot
    obtain ⟨context, attemptedAt, hcontext, hattempted, hanswer⟩ := recoverSubmit_some hresult
    have hmine : ∃ p ∈ s.placed, p.commandId = command.id ∧ p.order.identity = result.identity := by
      rcases hanswer with ⟨dispatch, hdispatch, hstate, hacknowledged⟩ | ⟨orders, order, horders, honly, hidentity⟩
      · refine h.answered ?_ hstate hacknowledged hattempted hdated
        unfold deskWriter at hdispatch
        dsimp only at hdispatch
        split at hdispatch
        · rename_i found hfound
          cases hdispatch
          exact hfound
        · cases hdispatch
      · unfold deskWriter at horders
        dsimp only at horders
        split at horders
        · cases horders
          rw [List.filter_map] at honly
          obtain ⟨p, hp, rfl⟩ := List.map_eq_singleton_iff.mp honly
          have hcandidates : candidates base s context command attemptedAt now.instant = [p] := hp
          have hplaced : p ∈ s.placed := by
            have hmem : p ∈ candidates base s context command attemptedAt now.instant := hcandidates ▸ List.mem_singleton_self p
            exact (List.mem_filter.mp (List.mem_filter.mp hmem).1).1
          rcases hown context attemptedAt hcontext hattempted with ⟨own, hmem, howner⟩ | hmany
          · rw [hcandidates, List.mem_singleton] at hmem
            exact ⟨p, hplaced, hmem ▸ howner, hidentity.symm⟩
          · rw [hcandidates] at hmany
            exact absurd rfl hmany
        · cases horders
    obtain ⟨p, hp, howner, hidentity⟩ := hmine
    refine ⟨⟨p, hp, howner, hidentity⟩, fun q hq hsame => ?_, fun link hlink hsame => ?_⟩
    · rw [h.only hq hp (hsame.trans hidentity.symm)]
      exact howner
    · obtain ⟨q, hq, hlinked, hlinkedIdentity⟩ := h.linked link hlink
      rw [← hlinked, h.only hq hp ((hlinkedIdentity.trans hsame).trans hidentity.symm)]
      exact howner
  | _ => trivial

theorem Attributed.recordAccepted (h : Attributed s) {identity : ProviderIdentity}
    (hown : ∃ p ∈ s.placed, p.commandId = command.id ∧ p.order.identity = identity) :
    Attributed (s.recordAccepted command identity) := by
  unfold CashDesk.recordAccepted
  split
  · exact h
  split
  · exact ⟨h.identities, h.acknowledged, h.linked⟩
  split
  · exact h
  refine ⟨h.identities, h.acknowledged, fun link hlink => ?_⟩
  rcases List.mem_append.mp hlink with hold | hnew
  · exact h.linked link hold
  · rw [List.mem_singleton.mp hnew]
    exact hown

theorem Attributed.step (h : Attributed s) {event : CashEvent} (hhonest : ProviderHonest s event)
    (hnot : NotMistaken base s event) : Attributed (s.step base event) := by
  cases event with
  | dispatched commandId reached result =>
    unfold CashDesk.step
    dsimp only
    split
    · exact h
    obtain ⟨hfresh, hacknowledged⟩ := hhonest
    refine ⟨?_, fun record hrecord hstate => ?_, fun link hlink => ?_⟩
    · rw [List.map_append]
      refine List.nodup_append.mpr ⟨h.identities, ?_, ?_⟩
      · cases reached with
        | none => exact List.nodup_nil
        | some order => exact List.nodup_singleton _
      · rintro identity hold _ hnew rfl
        obtain ⟨p, hp, hidentity⟩ := List.mem_map.mp hold
        cases reached with
        | none => exact absurd hnew List.not_mem_nil
        | some order =>
          have horder : identity = order.identity := List.mem_singleton.mp hnew
          exact hfresh order rfl p hp (hidentity.trans horder)
    · rcases List.mem_append.mp hrecord with hold | hnew
      · obtain ⟨p, hp, hrest⟩ := h.acknowledged record hold hstate
        exact ⟨p, List.mem_append_left _ hp, hrest⟩
      · rw [List.mem_singleton.mp hnew] at hstate ⊢
        obtain ⟨order, horder, horganization, hnumber⟩ := hacknowledged hstate
        refine ⟨⟨commandId, order⟩, List.mem_append_right _ ?_, rfl, horganization, hnumber⟩
        rw [Option.mem_def.mp horder]
        exact List.mem_singleton_self _
    · obtain ⟨p, hp, hrest⟩ := h.linked link hlink
      exact ⟨p, List.mem_append_left _ hp, hrest⟩
  | updated order =>
    have hkept : ∀ p : Placed, (if p.order.identity = order.identity then { p with order := order } else p).commandId =
        p.commandId ∧ (if p.order.identity = order.identity then { p with order := order } else p).order.identity =
        p.order.identity := by
      intro p
      split
      · rename_i hsame
        exact ⟨rfl, hsame.symm⟩
      · exact ⟨rfl, rfl⟩
    refine ⟨?_, fun record hrecord hstate => ?_, fun link hlink => ?_⟩
    · have hsame : ((s.placed.map fun p => if p.order.identity = order.identity then { p with order := order } else p).map
          fun p => p.order.identity) = s.placed.map fun p => p.order.identity := by
        rw [List.map_map]
        exact List.map_congr_left fun p _ => (hkept p).2
      exact hsame ▸ h.identities
    · obtain ⟨p, hp, howner, horganization, hnumber⟩ := h.acknowledged record hrecord hstate
      refine ⟨_, List.mem_map_of_mem hp, (hkept p).1.trans howner, ?_, ?_⟩
      · rw [(hkept p).2]
        exact horganization
      · rw [(hkept p).2]
        exact hnumber
    · obtain ⟨p, hp, howner, hidentity⟩ := h.linked link hlink
      exact ⟨_, List.mem_map_of_mem hp, (hkept p).1.trans howner, (hkept p).2.trans hidentity⟩
  | acknowledged command =>
    unfold CashDesk.step
    dsimp only
    split
    · rename_i result hresult
      unfold CashDesk.acknowledgement at hresult
      split at hresult
      · rename_i dispatch attemptedAt hdispatch hattempted
        split at hresult
        · rename_i hstate
          refine h.recordAccepted (h.answered hdispatch hstate ?_ hattempted hnot)
          cases hanswer : acknowledgedResult attemptedAt dispatch with
          | error e =>
            rw [hanswer] at hresult
            cases hresult
          | ok answer =>
            rw [hanswer] at hresult
            cases hresult
            rfl
        · cases hresult
      · cases hresult
    · exact h
  | recovered command now readable =>
    unfold CashDesk.step
    dsimp only
    split
    · rename_i result hresult
      exact h.recordAccepted ((h.adoptsOwn hnot) result hresult).1
    · exact h

end Recovery

theorem Attributed.run {base : KisCashWriter} {s : CashDesk} {events : List CashEvent} (h : Attributed s)
    (hmeets : RunMeets (CashDesk.step base) (fun s event => ProviderHonest s event ∧ NotMistaken base s event) s events) :
    RunMeets (CashDesk.step base) (AdoptsOwn base) s events := by
  induction events generalizing s with
  | nil => trivial
  | cons event events ih =>
    obtain ⟨⟨hhonest, hnot⟩, hrest⟩ := hmeets
    exact ⟨h.adoptsOwn hnot, ih (h.step hhonest hnot) hrest⟩

/-- The provider's order for such a command, which came in at 11 s and is open. -/
def sampleDailyOrder (number : String) : KisDailyOrder where
  bindingId := sampleId 22
  orderDate := 0
  organizationNumber := "00950"
  orderNumber := number
  originalOrderNumber := "0000000000"
  providerTimestamp := 11000000
  side := .buy
  symbol := "005930"
  orderStyle := .market
  orderQuantity := 1
  limitPrice := none
  cumulativeFilledQuantity := 0
  averageFillPrice := 0
  totalFilledAmount := 0
  confirmedCancelledQuantity := 0
  remainingQuantity := 1
  rejectedQuantity := 0
  feeAmount := none
  exchangeDivisionCode := "01"
  exchangeIdDivisionCode := "KRX"

end AutoTrader.Kis
