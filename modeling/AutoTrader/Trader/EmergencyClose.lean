import AutoTrader.Binance.OrderService
import AutoTrader.Binance.ProtectionRequests
import AutoTrader.Trader.OrderCreation

/-! The close that runs when a position cannot be protected: it is created ahead of time
like any closing order, and read back from the journal when the fail-safe needs it. -/

namespace AutoTrader.Trader

open AutoTrader.Domain AutoTrader.Execution AutoTrader.Binance AutoTrader.Runtime

/-! ### The journal since the creation -/

/-- A creation, or the dispatch columns of a command written. -/
inductive JournalEvent
  | create (call : CreateCall)
  | dispatched (commandId : UUID) (attemptedAt : Option Instant) (resultState : Option ResultState)

/-- The `UPDATE` of a command that dispatch made an attempt on. -/
def Journal.recordDispatch (j : Journal) (commandId : UUID) (attemptedAt : Option Instant)
    (resultState : Option ResultState) : Journal :=
  { j with
    commands := j.commands.map fun row =>
      if row.id = commandId then { row with dispatchAttemptedAt := attemptedAt, resultState := resultState }
      else row }

def Journal.step (ids : Nat → UUID) (sha256 : String → Digest) (j : Journal) : JournalEvent → Journal
  | .create call => j.after ids sha256 call
  | .dispatched commandId attemptedAt resultState => j.recordDispatch commandId attemptedAt resultState

variable {ids : Nat → UUID} {sha256 : String → Digest}

theorem named_recordDispatch {j : Journal} (hj : Named ids sha256 j) (commandId : UUID)
    (attemptedAt : Option Instant) (resultState : Option ResultState) :
    Named ids sha256 (j.recordDispatch commandId attemptedAt resultState) := by
  intro row hrow
  obtain ⟨old, hold, rfl⟩ := List.mem_map.mp hrow
  have hnamed := hj old hold
  by_cases hid : old.id = commandId
  · simp only [hid, if_true] at hnamed ⊢
    exact hnamed
  · simp only [hid, if_false]
    exact hnamed

theorem named_step (j : Journal) (event : JournalEvent) (hj : Named ids sha256 j) :
    Named ids sha256 (j.step ids sha256 event) := by
  cases event with
  | create call => exact named_after j call hj
  | dispatched commandId attemptedAt resultState => exact named_recordDispatch hj _ _ _

theorem named_events {j : Journal} (hj : Named ids sha256 j) (events : List JournalEvent) :
    Named ids sha256 (runFrom (Journal.step ids sha256) j events) := by
  induction events generalizing j with
  | nil => exact hj
  | cons event events ih => exact ih (named_step j event hj)

/-! ### The fail-safe's order -/

/-- `MySqlEmergencyOrders.prepare_full_close`. -/
def prepareFullClose (j : Journal) (fill : EntryFill) : Except PyError BrokerOrderCommand :=
  match j.command? fill.emergencyCloseCommandId with
  | some row => .ok row.toBrokerOrderCommand
  | none =>
    .error ⟨.protectionContextUnavailable, "the emergency close for this fill was never prepared"⟩

/-- `prepare_full_close`, and `submit_locked` of what it found. -/
def closePosition (sha256 : String → Digest) (j : Journal) (fill : EntryFill) : OrderAct BrokerWriteResult := do
  let command ← Action.ofExcept (prepareFullClose j fill)
  submitLocked sha256 command

/-- A command under a client order id that does not name it is refused. -/
theorem validateRecoveryCommand_ok {command : BrokerOrderCommand}
    (h : validateRecoveryCommand command = .ok ()) :
    command.brokerClientOrderId = clientOrderIdText command.id := by
  obtain ⟨_, -, h⟩ := bind_ok.mp h
  split at h
  · cases h
  · obtain ⟨_, -, h⟩ := bind_ok.mp h
    obtain ⟨_, hclient, -⟩ := bind_ok.mp h
    simpa using require_ok.mp hclient

/-- A refused command is refused before anything but the clock is asked. -/
theorem submitLocked_refused {command : BrokerOrderCommand} {e : PyError}
    (h : validateRecoveryCommand command = .error e) :
    (submitLocked sha256 command).Within (· = .clock) := by
  have hclock : (Action.perform OrderOp.clock : OrderAct DateTime).Within (· = .clock) :=
    Action.within_perform rfl
  refine hclock.bind fun clock => ?_
  refine (Action.within_ofExcept _).bind fun now => ?_
  rw [h]
  exact trivial

/-- Whatever was created and dispatched before and since, the close that stands behind a
position never is posted, whichever fill it is asked for: the fail-safe reads the clock
and gives up. -/
theorem emergency_close_never_posted (ids : Nat → UUID) (sha256 : String → Digest) (anchored : Bool)
    (before since : List JournalEvent) (account : ExecutionAccount) (plan : ProtectionPlan)
    (quote : MarketQuote) (now : Instant) (created : Created) (j : Journal) (fill : EntryFill)
    (hcreate : createEmergencyCloseOrder ids sha256 account plan quote now
      (runFrom (Journal.step ids sha256) (.empty anchored) before) = .ok (some created, j))
    (hids : Set.InjOn ids (Set.Iio (runFrom (Journal.step ids sha256) j since).drawn)) :
    (closePosition sha256 (runFrom (Journal.step ids sha256) j since) fill).Within (· = .clock) := by
  have hbefore : Named ids sha256 (runFrom (Journal.step ids sha256) (.empty anchored) before) :=
    named_events (fun _ hrow => absurd hrow List.not_mem_nil) before
  have hnamed := named_events (createReducingOrder_named hbefore hcreate).1 since
  generalize runFrom (Journal.step ids sha256) j since = j' at *
  unfold closePosition prepareFullClose
  cases hrow : j'.command? fill.emergencyCloseCommandId with
  | none => exact trivial
  | some row =>
    have hne := hnamed.clientOrderId_ne hids (List.mem_of_find?_eq_some hrow)
    cases hvalid : validateRecoveryCommand row.toBrokerOrderCommand with
    | ok u => exact absurd (validateRecoveryCommand_ok hvalid) hne
    | error e => exact submitLocked_refused hvalid

/-! ### A sample close -/

/-- SHA-256 of the canonical JSON the sample close is stored with. No other digest of its
creation is looked at. -/
def sampleCloseDigest (_ : String) : Digest :=
  0x24bd62e1b6f8f9b4d122d5da378790ad803efef20d2f4cdc4201c2fd8f987a90

/-- A long position of two contracts with its stop at 90. -/
def samplePlan : ProtectionPlan where
  positionId := sampleUuid 207
  instrumentId := sampleUuid 206
  entrySide := .buy
  quantity := Decimal.ofNat 2
  structuralStop := Decimal.ofNat 90

def sampleQuote : MarketQuote := ⟨Decimal.ofNat 100, Decimal.ofNat 101, true⟩

def sampleClose : Except PyError (Option Created × Journal) :=
  createEmergencyCloseOrder sampleIds sampleCloseDigest sampleAccount samplePlan sampleQuote sampleNow
    (.empty true)

/-- The fill behind the position. -/
def sampleFill : EntryFill where
  entryCommandId := sampleUuid 208
  accountId := sampleUuid 201
  instrumentId := sampleUuid 206
  bindingId := sampleUuid 209
  side := .buy
  firstFillQuantity := Decimal.ofNat 2
  cumulativeQuantityBefore := Decimal.ofNat 0
  averageFillPrice := Decimal.ofNat 100
  symbol := "BTCUSDT"
  tickSize := Decimal.ofNat 1
  filledAt := sampleNow
  protectionDeadline := sampleNow + 30000000
  emergencyCloseCommandId := sampleUuid 4

/-- Forty seconds after the fill everything is answered, and every order accepted. -/
def acceptingVenue : (op : OrderOp) → Except PyError op.Result
  | .clock => .ok ⟨sampleNow + 40000000, .utc⟩
  | .loadAuthority _ => .ok sampleAuthority
  | .prepare record => .ok ⟨record, true⟩
  | .loadByClientId _ => .ok none
  | .markNotSent _ _ | .finish _ _ _ => .error (valueError "not asked")
  | .startPost _ _ => .ok ()
  | .endPost | .get _ => .ok ⟨200, some (.obj [])⟩

theorem sampleClose_outline :
    Created.outline sampleClose = some (sampleUuid 2, sampleUuid 4, 5) := by decide +kernel

/-- The window of the sample close and what becomes of the attempt to send it. -/
def sampleAttempt : Option (Instant × Except PyError BrokerWriteResult) :=
  match sampleClose with
  | .ok (some created, j) =>
    some (created.command.notAfter, (closePosition sampleCloseDigest j sampleFill).eval acceptingVenue)
  | _ => none

theorem sampleAttempt_eq :
    sampleAttempt = some (sampleNow + 300000000,
      .error (writeDisabled "Binance USD-M recovery command is invalid")) := by decide +kernel

/-- Inside its window and with a venue that would take it, the close is refused locally. -/
theorem accepted_close_refused :
    ∃ created j, sampleClose = .ok (some created, j) ∧
      created.command.id = sampleFill.emergencyCloseCommandId ∧
      sampleNow + 40000000 < created.command.notAfter ∧
      (closePosition sampleCloseDigest j sampleFill).eval acceptingVenue =
        .error (writeDisabled "Binance USD-M recovery command is invalid") := by
  obtain ⟨created, j, hok, -, hid, -⟩ := Created.of_outline sampleClose_outline
  have hattempt := sampleAttempt_eq
  simp only [sampleAttempt, hok, Option.some.injEq, Prod.mk.injEq] at hattempt
  obtain ⟨hwindow, hrefused⟩ := hattempt
  exact ⟨created, j, hok, hid, by rw [hwindow]; decide, hrefused⟩

/-- Not even after dispatch marked its command. -/
theorem emergency_close_never_posted_sample :
    ∃ created j, sampleClose = .ok (some created, j) ∧
      (closePosition sampleCloseDigest
        (runFrom (Journal.step sampleIds sampleCloseDigest) j
          [.dispatched (sampleUuid 4) (some (sampleNow + 1000000)) none]) sampleFill).Within (· = .clock) := by
  obtain ⟨created, j, hok, -, -, hdrawn⟩ := Created.of_outline sampleClose_outline
  refine ⟨created, j, hok, emergency_close_never_posted sampleIds sampleCloseDigest true [] _
    sampleAccount samplePlan sampleQuote sampleNow created j sampleFill hok (sampleIds_injOn.mono ?_)⟩
  refine Set.Iio_subset_Iio ?_
  show j.drawn ≤ 16
  omega

end AutoTrader.Trader
