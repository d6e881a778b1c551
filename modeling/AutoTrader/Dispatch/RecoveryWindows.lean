import AutoTrader.Binance.OrderModels
import AutoTrader.Dispatch.Footprints
import AutoTrader.Dispatch.System
import AutoTrader.Kis.CashWriter

/-! From when on a recovery looks for a submission at its provider. The bookkeeping of a
recovery overwrites the instant of the first dispatch, which is where both providers start
their window, so the second committed recovery starts it too late. -/

/-! `TossSubmitRecovery`: one exact submission, replayed inside the window in which the
provider still knows its key. What the response says is left to the caller. -/

namespace AutoTrader.Toss

open AutoTrader.Domain AutoTrader.Execution

/-- `_IDEMPOTENCY_WINDOW`, 600 seconds. -/
def idempotencyWindow : Int := 600000000

/-- A request with its headers. -/
structure BrokerRequest where
  method : String
  path : String
  headers : List (String × String)
  body : String
  deriving DecidableEq

/-- What the recovery was built with. -/
structure TossSubmitRecovery where
  tokenValue : String
  accountSeq : String
  clientOrderId : String
  body : String
  expectedBodySha256 : Digest

/-- `attempted_at <= now < not_after`, and the provider's window is not over. -/
def replayOpen (command : BrokerOrderCommand) (now : DateTime) : Bool :=
  decide (command.commandType = .submit) && now.isExactUtc &&
    command.dispatchAttemptedAt.any fun attemptedAt =>
      decide (attemptedAt ≤ now.instant) && decide (now.instant < command.notAfter) &&
        decide (now.instant < attemptedAt + idempotencyWindow)

/-- The request `_recover_submit` sends, if it sends one. -/
def TossSubmitRecovery.replay (sha256 : String → Digest) (recovery : TossSubmitRecovery) (command : BrokerOrderCommand)
    (now : DateTime) : Option BrokerRequest :=
  if !replayOpen command now then none
  else if recovery.clientOrderId ≠ command.brokerClientOrderId ∨ sha256 recovery.body ≠ recovery.expectedBodySha256 then
    none
  else if recovery.tokenValue.isEmpty ∨ '\n' ∈ recovery.tokenValue.toList then none
  else some
    { method := "POST"
      path := "/api/v1/orders"
      headers := [("Authorization", "Bearer " ++ recovery.tokenValue), ("Content-Type", "application/json"),
        ("X-Tossinvest-Account", recovery.accountSeq)]
      body := recovery.body }

/-- A replay is sent before the window that starts at the recorded attempt is over. -/
theorem replay_in_window {sha256 : String → Digest} {recovery : TossSubmitRecovery} {command : BrokerOrderCommand}
    {now : DateTime} (h : (recovery.replay sha256 command now).isSome) :
    ∃ attemptedAt, command.dispatchAttemptedAt = some attemptedAt ∧ now.instant < attemptedAt + idempotencyWindow := by
  unfold TossSubmitRecovery.replay at h
  split at h
  · cases h
  · rename_i hopen
    simp only [replayOpen, Bool.not_eq_true', Bool.not_eq_false, Bool.and_eq_true] at hopen
    obtain ⟨-, hany⟩ := hopen
    cases hattempted : command.dispatchAttemptedAt with
    | none =>
      rw [hattempted] at hany
      cases hany
    | some attemptedAt =>
      rw [hattempted, Option.any_some, Bool.and_eq_true] at hany
      exact ⟨attemptedAt, rfl, of_decide_eq_true hany.2⟩

end AutoTrader.Toss

namespace AutoTrader.Dispatch

open AutoTrader.Domain AutoTrader.Execution AutoTrader.Runtime AutoTrader.Kis AutoTrader.Toss

/-! ### What a recovery may do to the recorded attempt -/

/-- Neither the bookkeeping of a recovery, nor the recovery, nor the end of the session. -/
def keepsAttempt : DispatchOp → Prop
  | .store (.touchAttempt _ _) | .recoverSubmit _ _ | .close => False
  | _ => True

theorem keepsAttempt_of_leavesCommands (o : DispatchOp) (h : leavesCommands o) : keepsAttempt o := by
  cases o with
  | store o => cases o <;> trivial
  | _ => trivial

theorem keepsAttempt_of_readsOnly (o : DispatchOp) (h : readsOnly o) : keepsAttempt o :=
  keepsAttempt_of_leavesCommands o (leavesCommands_of_readsOnly o h)

section Footprints

variable {commandId : UUID} {now : DateTime} {facts : Option RuntimeFacts}

theorem setResult_keepsAttempt {state : ResultState} {moment : Instant} :
    (statement (.setResult commandId state moment)).Within keepsAttempt :=
  Action.within_perform trivial

theorem recordTerminal_keepsAttempt {state : ResultState} :
    (recordTerminal commandId state now).Within keepsAttempt := by
  refine Action.Within.bind (Action.within_ofExcept _) fun moment => ?_
  refine Action.Within.bind (Action.within_perform trivial) fun row => ?_
  cases row with
  | none => exact Action.within_throw _
  | some row =>
    dsimp only
    split
    · exact Action.within_pure _
    · exact Action.Within.bind setResult_keepsAttempt fun _ => Action.within_perform trivial

theorem recordAccepted_keepsAttempt {brokerOrderId : String} :
    (recordAccepted commandId brokerOrderId now).Within keepsAttempt := by
  unfold recordAccepted
  split
  · exact Action.within_throw _
  · refine Action.Within.bind (Action.within_ofExcept _) fun moment => ?_
    refine Action.Within.bind (Action.within_perform trivial) fun row => ?_
    cases row with
    | none => exact Action.within_throw _
    | some row =>
      dsimp only
      split
      · exact Action.within_pure _
      · refine Action.Within.bind setResult_keepsAttempt fun _ => ?_
        refine Action.Within.bind (linkBrokerOrder_leavesCommands.mono keepsAttempt_of_leavesCommands) fun _ => ?_
        exact Action.within_perform trivial

theorem authorizeAndRecordAttempt_keepsAttempt :
    (authorizeAndRecordAttempt facts commandId now).Within keepsAttempt := by
  unfold authorizeAndRecordAttempt
  refine Action.Within.bind (Action.within_ofExcept _) fun moment => ?_
  refine Action.Within.bind (mayDispatch_reads.mono keepsAttempt_of_readsOnly) fun mayDispatch => ?_
  split
  · refine Action.Within.bind (maySubmit_reads.mono keepsAttempt_of_readsOnly) fun maySubmit => ?_
    split
    · refine Action.Within.bind (Action.within_perform trivial) fun rowcount => ?_
      split
      · refine Action.Within.bind (Action.within_perform trivial) fun _ => ?_
        exact loadCommand_reads.mono keepsAttempt_of_readsOnly
      · exact Action.within_pure _
    · exact Action.within_pure _
  · exact Action.within_pure _

theorem sendAndRecord_keepsAttempt {command : BrokerOrderCommand} :
    (sendAndRecord (mySqlDispatchStore facts) command commandId now).Within keepsAttempt := by
  refine Action.Within.tryCatch ?_ fun caught => ?_
  · refine Action.Within.bind ?_ fun result => ?_
    · unfold dispatchToBroker
      cases command.commandType <;> exact Action.within_perform trivial
    · exact Action.Within.bind recordAccepted_keepsAttempt fun _ => Action.within_pure _
  · split
    · exact Action.Within.bind recordTerminal_keepsAttempt fun _ => Action.within_pure _
    · split
      · exact Action.within_pure _
      · exact Action.Within.bind recordTerminal_keepsAttempt fun _ => Action.within_pure _

end Footprints

/-! ### The session's protocol -/

/-- Whether the transaction still sees the first attempt of the watched command. -/
inductive AttemptPhase
  | first
  | touched
  | closed

/-- The watched command has its first attempt, and it is still the Korean day of that. -/
def InWindow (id : UUID) (first : Instant) (command : BrokerOrderCommand) (now : DateTime) : Prop :=
  command.id = id → command.dispatchAttemptedAt = some first ∧ kstDate now.instant = kstDate first

/-- Only a command with its first attempt is recovered. -/
def attemptProtocol (id : UUID) (first : Instant) : Protocol PyError DispatchOp DispatchOp.Result AttemptPhase where
  allows s
    | .recoverSubmit command now => s ≠ .closed ∧ InWindow id first command now
    | .close => True
    | _ => s ≠ .closed
  moves s o r s' :=
    match o, r with
    | .store (.getCommand other), .ok found =>
      s' = s ∧ ∀ row, found = some row → row.id = other ∧
        (s = .first → other = id → row.dispatchAttemptedAt = some first)
    | .store (.touchAttempt _ _), _ => s' = .touched
    | .close, _ => s' = .closed
    | _, _ => s' = s
  ends s := s = .closed

section Session

variable {id commandId : UUID} {first : Instant} {now : DateTime} {facts : Option RuntimeFacts} {s : AttemptPhase}

theorem attemptProtocol_neutral (hs : s ≠ .closed) (o : DispatchOp) (h : keepsAttempt o) :
    (attemptProtocol id first).allows s o ∧ ∀ r s', (attemptProtocol id first).moves s o r s' → s' = s := by
  cases o with
  | store o =>
    refine ⟨hs, fun r s' hmove => ?_⟩
    cases o <;> cases r <;> first | exact hmove | exact hmove.1 | cases h
  | recoverSubmit => cases h
  | close => cases h
  | _ => exact ⟨hs, fun r s' hmove => hmove⟩

theorem keeps_of_keepsAttempt {α : Type} {x : Act α} (hx : x.Within keepsAttempt) (hs : s ≠ .closed) :
    x.Keeps (attemptProtocol id first) s (fun s' _ => s' = s) (fun s' _ => s' ≠ .closed) :=
  (hx.keeps (attemptProtocol_neutral hs)).mono (fun _ _ h => h) fun _ _ h => h ▸ hs

/-- What is loaded of the watched command has its first attempt. -/
theorem getCommand_attempt (hs : s ≠ .closed) (hfirst : commandId = id → s = .first) :
    (statement (.getCommand commandId)).Keeps (attemptProtocol id first) s
      (fun s' found => s' = s ∧ ∀ row, found = some row → row.id = commandId ∧
        (commandId = id → row.dispatchAttemptedAt = some first))
      (fun s' _ => s' ≠ .closed) := by
  refine (Action.keeps_perform ..).mpr ⟨hs, ?_, fun _ _ h => h ▸ hs⟩
  rintro found s' ⟨rfl, hrow⟩
  refine ⟨rfl, fun row h => ⟨(hrow row h).1, fun hid => (hrow row h).2 (hfirst hid) hid⟩⟩

theorem recoverCommand_attempt {command : BrokerOrderCommand} (hs : s ≠ .closed)
    (hcommand : InWindow id first command now) :
    (recoverCommand (mySqlDispatchStore facts) command now).Keeps (attemptProtocol id first) s
      (fun s' _ => s' ≠ .closed) (fun s' _ => s' ≠ .closed) := by
  have hopen : ∀ {α : Type} {x : Act α} {s : AttemptPhase}, x.Within keepsAttempt → s ≠ .closed →
      x.Keeps (attemptProtocol id first) s (fun s' _ => s' ≠ .closed) (fun s' _ => s' ≠ .closed) :=
    fun hx hs => (keeps_of_keepsAttempt hx hs).mono (fun _ _ h => h ▸ hs) fun _ _ h => h
  unfold recoverCommand
  split
  · exact hopen recordTerminal_keepsAttempt hs
  · split
    · have htouch : (recordRecoveryAttempt command.id now).Keeps (attemptProtocol id first) s
          (fun s' _ => s' ≠ .closed) (fun s' _ => s' ≠ .closed) := by
        refine .bind (hopen (Action.within_ofExcept _) hs) fun s' moment hs' => ?_
        refine .bind (m := fun s _ => s ≠ .closed) ((Action.keeps_perform ..).mpr ⟨hs', ?_, ?_⟩)
          fun s'' _ hs'' => hopen (Action.within_perform trivial) hs''
        · rintro _ _ rfl
          exact nofun
        · rintro _ _ rfl
          exact nofun
      refine .bind htouch fun s' _ hs' => ?_
      refine .bind (m := fun s _ => s ≠ .closed) ((Action.keeps_perform ..).mpr
        ⟨⟨hs', hcommand⟩, fun _ _ h => h ▸ hs', fun _ _ h => h ▸ hs'⟩) fun s'' result hs'' => ?_
      cases result with
      | none => exact hopen recordTerminal_keepsAttempt hs''
      | some result => exact hopen recordAccepted_keepsAttempt hs''
    · exact (Action.keeps_pure ..).mpr hs

theorem loadCommand_attempt (hs : s ≠ .closed) (hfirst : commandId = id → s = .first) :
    (loadCommand commandId).Keeps (attemptProtocol id first) s
      (fun s' found => s' = s ∧ ∀ command, found = some command → command.id = commandId ∧
        (commandId = id → command.dispatchAttemptedAt = some first)) (fun s' _ => s' ≠ .closed) := by
  refine .bind (getCommand_attempt hs hfirst) fun s' found hfound => (Action.keeps_pure ..).mpr ?_
  obtain ⟨rfl, hrow⟩ := hfound
  refine ⟨rfl, fun command hcommand => ?_⟩
  obtain ⟨row, rfl, rfl⟩ := Option.map_eq_some_iff.mp hcommand
  exact hrow row rfl

theorem recoverableCommand_attempt (hs : s ≠ .closed) (hfirst : commandId = id → s = .first) :
    (recoverableCommand commandId).Keeps (attemptProtocol id first) s
      (fun s' found => s' = s ∧ ∀ command, found = some command → command.id = commandId ∧
        (commandId = id → command.dispatchAttemptedAt = some first)) (fun s' _ => s' ≠ .closed) := by
  refine .bind (getCommand_attempt hs hfirst) fun s' found hfound => ?_
  obtain ⟨rfl, hrow⟩ := hfound
  have hnone : s' = s' ∧ ∀ command : BrokerOrderCommand, none = some command → command.id = commandId ∧
      (commandId = id → command.dispatchAttemptedAt = some first) := ⟨rfl, fun command h => by cases h⟩
  cases found with
  | none => exact (Action.keeps_pure ..).mpr hnone
  | some row =>
    have hsome : s' = s' ∧ ∀ command, some row.toBrokerOrderCommand = some command → command.id = commandId ∧
        (commandId = id → command.dispatchAttemptedAt = some first) := by
      refine ⟨rfl, fun command hcommand => ?_⟩
      obtain rfl := Option.some.inj hcommand
      exact hrow row rfl
    dsimp only
    split
    · exact (Action.keeps_pure ..).mpr hnone
    · split
      · split
        · exact (Action.keeps_pure ..).mpr hnone
        · exact (Action.keeps_pure ..).mpr hsome
      · exact (Action.keeps_pure ..).mpr hsome

theorem dispatch_attempt (hs : s ≠ .closed) (hfirst : commandId = id → s = .first)
    (hday : commandId = id → kstDate now.instant = kstDate first) :
    (Dispatch.dispatch (mySqlDispatchStore facts) commandId now).Keeps (attemptProtocol id first) s
      (fun s' _ => s' ≠ .closed) (fun s' _ => s' ≠ .closed) := by
  unfold Dispatch.dispatch
  refine .bind (keeps_of_keepsAttempt authorizeAndRecordAttempt_keepsAttempt hs) fun s' found heq => ?_
  subst heq
  cases found with
  | some command =>
    refine .bind (keeps_of_keepsAttempt sendAndRecord_keepsAttempt hs) fun s outcome heq => ?_
    subst heq
    cases outcome with
    | none => exact (Action.keeps_pure ..).mpr hs
    | some error =>
      refine .bind (m := fun s _ => s ≠ .closed) ?_ fun s _ hs => (Action.keeps_throw ..).mpr hs
      exact (Action.keeps_suppress ..).mpr ((keeps_of_keepsAttempt recordTerminal_keepsAttempt hs).mono
        (fun _ _ h => h ▸ hs) fun _ _ h => h)
  | none =>
    refine .bind (recoverableCommand_attempt hs hfirst) fun s recovery hrecovery => ?_
    obtain ⟨rfl, hloaded⟩ := hrecovery
    cases recovery with
    | none => exact (Action.keeps_pure ..).mpr hs
    | some recovery =>
      dsimp only
      split
      · obtain ⟨hid, hattempt⟩ := hloaded recovery rfl
        exact recoverCommand_attempt hs fun heq => ⟨hattempt (hid ▸ heq), hday (hid ▸ heq)⟩
      · exact (keeps_of_keepsAttempt recordTerminal_keepsAttempt hs).mono (fun _ _ h => h ▸ hs) fun _ _ h => h

theorem recover_attempt (hs : s ≠ .closed) (hfirst : commandId = id → s = .first)
    (hday : commandId = id → kstDate now.instant = kstDate first) :
    (Dispatch.recover (mySqlDispatchStore facts) commandId now).Keeps (attemptProtocol id first) s
      (fun s' _ => s' ≠ .closed) (fun s' _ => s' ≠ .closed) := by
  have hload : (commandForRecovery commandId).Keeps (attemptProtocol id first) s
      (fun s' command => s' = s ∧ command.id = commandId ∧
        (commandId = id → command.dispatchAttemptedAt = some first)) (fun s' _ => s' ≠ .closed) := by
    refine .bind (loadCommand_attempt hs hfirst) fun s' found hfound => ?_
    obtain ⟨rfl, hloaded⟩ := hfound
    cases found with
    | none => exact (Action.keeps_throw ..).mpr hs
    | some command => exact (Action.keeps_pure ..).mpr ⟨rfl, hloaded command rfl⟩
  refine .bind hload fun s' command hcommand => ?_
  obtain ⟨rfl, hid, hattempt⟩ := hcommand
  exact recoverCommand_attempt hs fun heq => ⟨hattempt (hid ▸ heq), hday (hid ▸ heq)⟩

end Session

/-! ### Calls and what they leave stored -/

def ServiceCall.commandId : ServiceCall → UUID
  | .dispatch commandId _ | .recover commandId _ => commandId

def ServiceCall.now : ServiceCall → DateTime
  | .dispatch _ now | .recover _ now => now

/-- The call an event makes for the command. -/
def callFor (id : UUID) : Event → Option ServiceCall
  | .call (_, call) => if call.commandId = id then some call else none
  | _ => none

/-- The recorded attempt of the command. -/
def OrderTables.attemptOf (t : OrderTables) (id : UUID) : Option Instant :=
  (t.command? id).bind (·.dispatchAttemptedAt)

/-- The event makes durable that the command was attempted at another instant. -/
def overwritesAttempt (id : UUID) (first : Instant) (c : Config) (e : Event) : Bool :=
  match c.current, e with
  | some (.perform .commit _), .answer .proceed | some (.perform .commit _), .answer (.failAfter _) =>
    decide (c.world.working.attemptOf id ≠ some first)
  | _, _ => false

/-- Every call for the command is made on the Korean day of its first attempt, and none after the
bookkeeping of a recovery was committed at another instant. -/
def RecoversOnce (id : UUID) (first : Instant) : Config → List Event → Prop
  | _, [] => True
  | c, e :: events =>
    (∀ call ∈ callFor id e, kstDate call.now.instant = kstDate first) ∧
      (overwritesAttempt id first c e = true → ∀ later ∈ events, callFor id later = none) ∧
      RecoversOnce id first (system.step c e) events

/-- The command is called on the day of its first attempt, which is still the stored one. -/
def calledFirst (id : UUID) (first : Instant) (c : Config) (e : Event) : Prop :=
  ∀ call ∈ callFor id e,
    kstDate call.now.instant = kstDate first ∧ c.world.committed.attemptOf id = some first

variable {id : UUID} {first : Instant}

theorem RecoversOnce.meets {c : Config} {events : List Event} (h : RecoversOnce id first c events)
    (hc : c.world.committed.attemptOf id = some first) : RunMeets system.step (calledFirst id first) c events := by
  induction events generalizing c with
  | nil => trivial
  | cons e events ih =>
    obtain ⟨hday, honce, hrest⟩ := h
    refine ⟨fun call hcall => ⟨hday call hcall, hc⟩, ?_⟩
    by_cases hover : overwritesAttempt id first c e = true
    · have hquiet : ∀ (c : Config) (events : List Event), (∀ later ∈ events, callFor id later = none) →
          RunMeets system.step (calledFirst id first) c events := by
        intro c events
        induction events generalizing c with
        | nil => exact fun _ => trivial
        | cons later events ih =>
          intro hnone
          refine ⟨fun call hcall => ?_, ih _ fun l hl => hnone l (List.mem_cons_of_mem _ hl)⟩
          rw [hnone later List.mem_cons_self] at hcall
          cases hcall
      exact hquiet _ _ (honce hover)
    · refine ih hrest ?_
      obtain ⟨w, current⟩ := c
      cases e with
      | call k => cases current <;> exact hc
      | crash => exact hc
      | shift shared => exact hc
      | answer choice =>
        rcases current with _ | ⟨a⟩ | ⟨o, next⟩
        · exact hc
        · exact hc
        · simp only [system, Sequential.step]
          split
          · rename_i w' r hanswer
            by_cases ho : o = .commit
            · subst ho
              have hworking : choice = .proceed ∨ (∃ e, choice = .failAfter e) →
                  w.working.attemptOf id = some first := by
                rintro (rfl | ⟨e, rfl⟩) <;> simpa [overwritesAttempt] using hover
              cases choice <;> cases hanswer
              · exact hworking (.inl rfl)
              · exact hc
              · exact hworking (.inr ⟨_, rfl⟩)
            · rw [committed_of_answer hanswer ho]
              exact hc
          · exact hc

/-! ### The recorded attempt in a transaction -/

/-- The transaction sees no other attempt of the command. -/
def SeesFirst (id : UUID) (first : Instant) (t : OrderTables) : Prop :=
  ∀ row, t.command? id = some row → row.dispatchAttemptedAt = some first

theorem SeesFirst.of_attemptOf {t : OrderTables} (h : t.attemptOf id = some first) : SeesFirst id first t := by
  intro row hrow
  rw [OrderTables.attemptOf, hrow] at h
  exact h

theorem SeesFirst.update {t : OrderTables} (h : SeesFirst id first t) {other : UUID}
    {f : PersistedOrderCommand → PersistedOrderCommand} (hid : ∀ row, (f row).id = row.id)
    (hf : ∀ row, row.dispatchAttemptedAt = some first → (f row).dispatchAttemptedAt = some first) :
    SeesFirst id first (t.update other f) := by
  intro row hrow
  rw [OrderTables.command?_update t other id hid] at hrow
  obtain ⟨before, hbefore, rfl⟩ := Option.map_eq_some_iff.mp hrow
  split
  · exact hf before (h before hbefore)
  · exact h before hbefore

theorem SeesFirst.apply {t : OrderTables} (h : SeesFirst id first t) (shared : SharedTables) (o : StoreOp)
    (ho : ∀ other moment, o ≠ .touchAttempt other moment) : SeesFirst id first (o.apply shared t).1 := by
  cases o with
  | touchAttempt other moment => exact absurd rfl (ho other moment)
  | claim other moment =>
    simp only [StoreOp.apply]
    split
    · rename_i row hrow
      split
      · rename_i hclaimable
        intro found hfound
        rw [OrderTables.command?_update t other id (f := StoreOp.claimRow moment) fun _ => rfl] at hfound
        obtain ⟨before, hbefore, rfl⟩ := Option.map_eq_some_iff.mp hfound
        split
        · rename_i heq
          rw [heq] at hbefore
          have hattempted := h before (heq ▸ hbefore)
          rw [hrow] at hbefore
          obtain rfl := Option.some.inj hbefore
          simp [StoreOp.claimable, hattempted] at hclaimable
        · exact h before hbefore
      · exact h
    · exact h
  | setResult other state moment =>
    refine h.update (fun _ => rfl) fun row hrow => ?_
    simp [StoreOp.answerRow, hrow]
  | _ => exact h

def AttemptFits (id : UUID) (first : Instant) (w : World) : AttemptPhase → Prop
  | .first => SeesFirst id first w.working
  | .touched => True
  | .closed => w.working = w.committed

/-- What a statement may be answered in a phase that fits, it does to the transaction. -/
theorem AttemptFits.store {w w' : World} {s : AttemptPhase} {o : StoreOp} {choice : Choice}
    {r : Except PyError o.Result} (h : AttemptFits id first w s) (hs : s ≠ .closed)
    (hanswer : answerStore w o choice = some (w', r)) :
    ∃ s', (attemptProtocol id first).moves s (.store o) r s' ∧ AttemptFits id first w' s' := by
  by_cases htouch : ∃ other moment, o = .touchAttempt other moment
  · obtain ⟨other, moment, rfl⟩ := htouch
    exact ⟨.touched, by cases r <;> rfl, trivial⟩
  have hkeeps : AttemptFits id first { w with working := (o.apply w.shared w.working).1 } s := by
    cases s with
    | first => exact SeesFirst.apply h w.shared o fun other moment ho => htouch ⟨other, moment, ho⟩
    | touched => trivial
    | closed => exact absurd rfl hs
  have hraised : ∀ e : PyError, (attemptProtocol id first).moves s (.store o) (.error e) s := by
    intro e
    cases o with
    | touchAttempt other moment => exact absurd ⟨other, moment, rfl⟩ htouch
    | _ => rfl
  cases choice with
  | proceed =>
    obtain ⟨rfl, rfl⟩ := Prod.mk.inj (Option.some.inj hanswer)
    refine ⟨s, ?_, hkeeps⟩
    cases o with
    | touchAttempt other moment => exact absurd ⟨other, moment, rfl⟩ htouch
    | getCommand other =>
      refine ⟨rfl, fun row hrow => ⟨by simpa using List.find?_some hrow, fun hphase hid => ?_⟩⟩
      subst hphase hid
      exact h row hrow
    | _ => rfl
  | failBefore e =>
    simp only [answerStore] at hanswer
    split at hanswer
    · obtain ⟨rfl, rfl⟩ := Prod.mk.inj (Option.some.inj hanswer)
      exact ⟨s, hraised e, h⟩
    · cases hanswer
  | failAfter e =>
    simp only [answerStore] at hanswer
    split at hanswer
    · obtain ⟨rfl, rfl⟩ := Prod.mk.inj (Option.some.inj hanswer)
      exact ⟨s, hraised e, hkeeps⟩
    · cases hanswer
  | uuid => cases hanswer
  | fresh => cases hanswer
  | submission => cases hanswer
  | recovered => cases hanswer

theorem attempt_sound (id : UUID) (first : Instant) :
    system.Sound (attemptProtocol id first) (AttemptFits id first) (fun w => w.working = w.committed)
      (calledFirst id first) where
  call w k hidle hmeets := by
    obtain ⟨facts, call⟩ := k
    have hbody : ∀ s : AttemptPhase, s ≠ .closed → (call.commandId = id → s = .first) →
        (call.commandId = id → kstDate call.now.instant = kstDate first) →
        (system.body (facts, call)).Obeys (attemptProtocol id first)
          (fun s _ => (attemptProtocol id first).ends s) s := by
      intro s hs hfirst hday
      have hcall : (call.body (mySqlDispatchStore facts)).Keeps (attemptProtocol id first) s
          (fun s _ => s ≠ .closed) (fun s _ => s ≠ .closed) := by
        cases call with
        | dispatch commandId now => exact dispatch_attempt hs hfirst hday
        | recover commandId now => exact recover_attempt hs hfirst hday
      exact inSession_obeys hcall (fun s hs => ⟨hs, fun r s' hmove => hmove ▸ hs⟩)
        fun s _ => ⟨trivial, fun r s' hmove => hmove⟩
    by_cases hid : call.commandId = id
    · obtain ⟨hday, hstored⟩ := hmeets call (by simp [callFor, hid])
      refine ⟨.first, ?_, hbody .first nofun (fun _ => rfl) fun _ => hday⟩
      show SeesFirst id first w.working
      rw [hidle]
      exact .of_attemptOf hstored
    · exact ⟨.touched, trivial, hbody .touched nofun (fun h => absurd h hid) fun h => absurd h hid⟩
  answer w s o next choice w' r hfits hallows _ hanswer := by
    cases o with
    | store o =>
      have hs : s ≠ .closed := by
        cases o <;> exact hallows
      exact hfits.store hs hanswer
    | close => exact ⟨.closed, by cases r <;> rfl, by cases choice <;> cases hanswer <;> rfl⟩
    | commit =>
      refine ⟨s, by cases r <;> rfl, ?_⟩
      cases s with
      | closed => exact absurd rfl hallows
      | touched => trivial
      | first => cases choice <;> cases hanswer <;> exact hfits
    | recoverSubmit command now =>
      refine ⟨s, by cases r <;> rfl, ?_⟩
      cases choice <;> cases hanswer
      exact hfits
    | _ =>
      refine ⟨s, by cases r <;> rfl, ?_⟩
      cases choice <;> cases hanswer
      cases s <;> exact hfits
  ended w s hfits hends := by
    rw [show s = .closed from hends] at hfits
    exact hfits
  crash c _ _ := rfl
  shift_idle w _ hidle := hidle
  shift_fits w _ s hfits := by
    cases s <;> exact hfits

/-! ### The windows of the providers -/

/-- The recovery under way that is about to ask the broker. -/
def recovering (c : Config) : Option (BrokerOrderCommand × DateTime) :=
  match c.current with
  | some (.perform (.recoverSubmit command now) _) => some (command, now)
  | _ => none

/-- A recovery looks for the submission from its first attempt on: the one replays only inside the
window that starts then, the other looks at every order the provider has from then to now. -/
structure StartsAt (first : Instant) (command : BrokerOrderCommand) (now : DateTime) : Prop where
  attempt : command.dispatchAttemptedAt = some first
  toss : ∀ (sha256 : String → Digest) (recovery : TossSubmitRecovery),
    (recovery.replay sha256 command now).isSome → now.instant < first + idempotencyWindow
  kis : ∀ (writer : KisCashWriter) (dispatch : KisAmbiguousDispatch) (orders : List KisDailyOrder),
    recoveryOf writer command now = .ok (.inr (dispatch, orders)) →
    ∀ (onItsDay : List KisDailyOrder) (order : KisDailyOrder),
      writer.dailyOrders dispatch.bindingId (kstDate order.providerTimestamp) = .ok onItsDay → order ∈ onItsDay →
      first ≤ order.providerTimestamp → order.providerTimestamp ≤ now.instant →
      order ∈ orders ∧ dispatch.covers order = true

def WindowsAnchored (id : UUID) (first : Instant) (c : Config) : Prop :=
  ∀ command now, recovering c = some (command, now) → command.id = id → StartsAt first command now

theorem startsAt_of_inWindow {command : BrokerOrderCommand} {now : DateTime}
    (hattempt : command.dispatchAttemptedAt = some first) (hday : kstDate now.instant = kstDate first) :
    StartsAt first command now where
  attempt := hattempt
  toss sha256 recovery hreplay := by
    obtain ⟨attemptedAt, hattempted, hlt⟩ := replay_in_window hreplay
    rw [hattempt] at hattempted
    obtain rfl := Option.some.inj hattempted
    exact hlt
  kis writer dispatch orders hrecovery onItsDay order hread hmem hafter hbefore := by
    obtain ⟨attemptedAt, hattempted, hstart, hend, horders⟩ := recoveryOf_window hrecovery
    rw [hattempt] at hattempted
    obtain rfl := Option.some.inj hattempted
    have hsame : kstDate order.providerTimestamp = kstDate first :=
      le_antisymm ((kstDate_mono hbefore).trans_eq hday) (kstDate_mono hafter)
    rw [hsame, horders] at hread
    obtain rfl := Except.ok.inj hread
    refine ⟨hmem, ?_⟩
    rw [KisAmbiguousDispatch.covers, hstart, hend, Bool.and_eq_true]
    exact ⟨decide_eq_true hafter, decide_eq_true hbefore⟩

/-- In every run in which no call for a command follows a committed recovery of it, every recovery
looks for it from its first attempt on. -/
theorem windows_anchored (id : UUID) (first : Instant) (c : Config) (hidle : c.current = none)
    (hclosed : c.world.working = c.world.committed) (hfirst : c.world.committed.attemptOf id = some first)
    (events : List Event) (honce : RecoversOnce id first c events) :
    WindowsAnchored id first (runFrom system.step c events) := by
  have hstart : Sequential.Follows (attemptProtocol id first) (AttemptFits id first)
      (fun w => w.working = w.committed) c := by
    unfold Sequential.Follows
    rw [hidle]
    exact hclosed
  have hrun := (attempt_sound id first).run hstart (honce.meets hfirst)
  intro command now hrecovering hid
  unfold recovering at hrecovering
  split at hrecovering
  · rename_i loaded moment next hcurrent
    cases hrecovering
    unfold Sequential.Follows at hrun
    rw [hcurrent] at hrun
    obtain ⟨s, -, ⟨-, hwindow⟩, -⟩ := hrun
    obtain ⟨hattempt, hday⟩ := hwindow hid
    exact startsAt_of_inWindow hattempt hday
  · cases hrecovering

instance decidableRecoversOnce (id : UUID) (first : Instant) :
    (c : Config) → (events : List Event) → Decidable (RecoversOnce id first c events)
  | _, [] => inferInstanceAs (Decidable True)
  | c, e :: events =>
    have := decidableRecoversOnce id first (system.step c e) events
    inferInstanceAs (Decidable ((∀ call ∈ callFor id e, kstDate call.now.instant = kstDate first) ∧
      (overwritesAttempt id first c e = true → ∀ later ∈ events, (callFor id later) = none) ∧
      RecoversOnce id first (system.step c e) events))

/-- The sample submission, first attempted at second zero. -/
private def attemptedRow : PersistedOrderCommand :=
  { sampleRow .submit .submitNewExposure rfl with dispatchAttemptedAt := some 0 }

/-- A recovery that finds nothing. -/
private def recoverAt (second : Nat) : List Event :=
  .call (none, .recover (sampleId 10) ⟨second * 1000000, .utc⟩) :: proceed 3

/-- It is recovered after 500 s. -/
theorem windows_anchored_once :
    WindowsAnchored (sampleId 10) 0 (runFrom system.step (sampleConfig attemptedRow) (recoverAt 500)) :=
  windows_anchored (sampleId 10) 0 (sampleConfig attemptedRow) rfl rfl rfl (recoverAt 500) (by decide +kernel)

private def sampleReplay : TossSubmitRecovery := ⟨"token", "1", "client-1", "", 0⟩

/-- It is recovered after 500 s and once more after 700 s, and sent again then. -/
theorem windows_drift :
    ¬ ∀ (id : UUID) (first : Instant) (c : Config) (row : PersistedOrderCommand), c.current = none →
      c.world.working = c.world.committed → c.world.committed.command? id = some row →
      row.commandType = .submit → row.resultState = none → row.dispatchAttemptedAt = some first →
      ∀ events : List Event, (∀ e ∈ events, ∀ call ∈ callFor id e, call.now.instant < row.notAfter) →
      WindowsAnchored id first (runFrom system.step c events) := by
  intro h
  have hrun := h (sampleId 10) 0 (sampleConfig attemptedRow) attemptedRow rfl rfl rfl rfl rfl rfl
    (recoverAt 500 ++ .answer (.recovered (.ok none)) :: proceed 5 ++ recoverAt 700) (by decide +kernel)
  have hsent : (recovering (runFrom system.step (sampleConfig attemptedRow)
      (recoverAt 500 ++ .answer (.recovered (.ok none)) :: proceed 5 ++ recoverAt 700))).any (fun p =>
        decide (p.1.id = sampleId 10) && (sampleReplay.replay (fun _ => 0) p.1 p.2).isSome &&
          decide (idempotencyWindow ≤ p.2.instant)) = true := by
    decide +kernel
  obtain ⟨⟨command, now⟩, hrecovering, hall⟩ := (Option.any_eq_true _ _).mp hsent
  simp only [Bool.and_eq_true, decide_eq_true_eq] at hall
  obtain ⟨⟨hid, hreplay⟩, hlate⟩ := hall
  have hearly := (hrun command now hrecovering hid).toss _ _ hreplay
  rw [zero_add] at hearly
  exact absurd hlate (not_le.mpr hearly)

end AutoTrader.Dispatch
