import AutoTrader.Dispatch.Footprints
import AutoTrader.Dispatch.System

/-! Whether a broker's definite answer survives later calls. Every path that `dispatch`
takes leaves ACCEPTED and REJECTED alone. `recover` loads commands without looking at
their answer, and the writers only protect ACCEPTED, so it can overwrite REJECTED. -/

namespace AutoTrader.Dispatch

open AutoTrader.Domain AutoTrader.Execution AutoTrader.Runtime

/-! ### The session's protocol -/

/-- A session with respect to one command: the row its transaction sees. -/
inductive AnswerPhase
  | opened (row : Option PersistedOrderCommand)
  | closed

/-- The row, if there is one, does not say REJECTED. -/
def Unrejected (row : Option PersistedOrderCommand) : Prop :=
  ∀ found, row = some found → found.resultState ≠ some .rejected

/-- Writing the answer leaves a definite one alone. -/
def mayAnswer (row : Option PersistedOrderCommand) (state : ResultState) : Prop :=
  ∀ found, row = some found → found.resultState ≠ some .rejected ∧
    (found.resultState = some .accepted → state = .accepted)

def answerProtocol (id : UUID) : Protocol PyError DispatchOp DispatchOp.Result AnswerPhase where
  allows s
    | .store (.setResult other state _) =>
      ∃ row, s = .opened row ∧ (other = id → mayAnswer row state)
    | .close => True
    | _ => ∃ row, s = .opened row
  moves s o r s' :=
    match o, r with
    | .store (.getCommand other), .ok found =>
      s' = s ∧ (∀ row, found = some row → row.id = other) ∧ (other = id → s = .opened found)
    | .store (.claim other _), .ok rowcount =>
      ∃ row, s' = .opened row ∧ (rowcount = 1 → other = id → Unrejected row) ∧
        (∀ before, s = .opened before → Unrejected before → Unrejected row)
    | .store (.claim _ _), .error _ | .store (.touchAttempt _ _), _ =>
      ∃ row, s' = .opened row ∧ (∀ before, s = .opened before → Unrejected before → Unrejected row)
    | .store (.setResult _ state _), _ =>
      ∃ row, s' = .opened row ∧
        (∀ before, s = .opened before → Unrejected before → state ≠ .rejected → Unrejected row)
    | .close, _ => s' = .closed
    | _, _ => s' = s
  ends s := s = .closed

variable {id commandId : UUID} {now : DateTime} {facts : Option RuntimeFacts} {s : AnswerPhase}

def AnswerPhase.IsOpen (s : AnswerPhase) : Prop := ∃ row, s = .opened row

/-- The session is open and the named command, if it is the watched one, not rejected. -/
def AnswerPhase.Ready (id commandId : UUID) (s : AnswerPhase) : Prop :=
  ∃ row, s = .opened row ∧ (commandId = id → Unrejected row)

theorem AnswerPhase.Ready.isOpen (h : s.Ready id commandId) : s.IsOpen := by
  obtain ⟨row, rfl, -⟩ := h
  exact ⟨row, rfl⟩

theorem answerProtocol_neutral (hs : s.IsOpen) (o : DispatchOp) (h : leavesCommands o) :
    (answerProtocol id).allows s o ∧ ∀ r s', (answerProtocol id).moves s o r s' → s' = s := by
  cases o with
  | store o =>
    refine ⟨?_, fun r s' hmove => ?_⟩
    · cases o <;> first | exact hs | cases h
    · cases o <;> cases r <;> first | exact hmove | exact hmove.1 | cases h
  | newUuid7 => exact ⟨hs, fun r s' hmove => hmove⟩
  | marketDataFresh => exact ⟨hs, fun r s' hmove => hmove⟩
  | _ => exact h.elim

theorem keeps_of_leavesCommands {α : Type} {x : Act α} (hx : x.Within leavesCommands)
    (hs : s.IsOpen) {p : AnswerPhase → Prop} (hp : p s) :
    x.Keeps (answerProtocol id) s (fun s' _ => s' = s) (fun s' _ => p s') :=
  (hx.keeps (answerProtocol_neutral hs)).mono (fun _ _ h => h) fun _ _ h => h ▸ hp

theorem getCommand_keeps (hs : s.IsOpen) :
    (statement (.getCommand commandId)).Keeps (answerProtocol id) s
      (fun s' found => s' = s ∧ (∀ row, found = some row → row.id = commandId) ∧
        (commandId = id → s = .opened found))
      (fun s' _ => s' = s) :=
  (Action.keeps_perform ..).mpr ⟨hs, fun _ _ h => h, fun _ _ h => h⟩

/-- An answer other than REJECTED keeps the command unrejected. -/
theorem setResult_keeps {state : ResultState} {moment : Instant} {row : Option PersistedOrderCommand}
    (hrow : commandId = id → mayAnswer row state) :
    (statement (.setResult commandId state moment)).Keeps (answerProtocol id) (.opened row)
      (fun s' _ => s'.IsOpen ∧ (state ≠ .rejected → s'.Ready id commandId))
      (fun s' _ => s'.IsOpen ∧ (state ≠ .rejected → s'.Ready id commandId)) := by
  have hmoved : ∀ s' : AnswerPhase, (∃ row', s' = .opened row' ∧ (∀ before,
      AnswerPhase.opened row = .opened before → Unrejected before → state ≠ .rejected → Unrejected row')) →
      s'.IsOpen ∧ (state ≠ .rejected → s'.Ready id commandId) := by
    rintro s' ⟨row', rfl, hkeep⟩
    refine ⟨⟨row', rfl⟩, fun hstate => ⟨row', rfl, fun hid => ?_⟩⟩
    exact hkeep row rfl (fun found hfound => (hrow hid found hfound).1) hstate
  exact (Action.keeps_perform ..).mpr ⟨⟨row, rfl, hrow⟩, fun _ => hmoved, fun _ => hmoved⟩

theorem recordTerminal_keeps {state : ResultState} (hs : s.Ready id commandId) :
    (recordTerminal commandId state now).Keeps (answerProtocol id) s
      (fun s' _ => s'.IsOpen ∧ (state ≠ .rejected → s'.Ready id commandId))
      (fun s' _ => s'.IsOpen ∧ (state ≠ .rejected → s'.Ready id commandId)) := by
  have hkeep : s.IsOpen ∧ (state ≠ .rejected → s.Ready id commandId) := ⟨hs.isOpen, fun _ => hs⟩
  unfold recordTerminal
  refine .bind (keeps_of_leavesCommands (Action.within_ofExcept _) hs.isOpen hkeep) fun s' moment heq => ?_
  subst heq
  refine .bind ((getCommand_keeps hs.isOpen).mono (fun _ _ h => h) fun _ _ h => h ▸ hkeep)
    fun s' found hfound => ?_
  obtain ⟨rfl, -, hrow⟩ := hfound
  cases found with
  | none => exact (Action.keeps_throw ..).mpr hkeep
  | some found =>
    dsimp only
    split
    · exact (Action.keeps_pure ..).mpr hkeep
    · rename_i hopen
      obtain ⟨row, rfl, hready⟩ := hs
      have hmay : commandId = id → mayAnswer row state := by
        intro hid before hbefore
        refine ⟨hready hid before hbefore, fun haccepted => absurd (.inl ?_) hopen⟩
        obtain rfl : row = some found := by simpa using hrow hid
        obtain rfl : found = before := by simpa using hbefore
        exact ⟨.accepted, by simp [terminal], haccepted⟩
      refine .bind (setResult_keeps hmay) fun s' _ hs' => ?_
      exact (keeps_of_leavesCommands (statement_leavesCommands rfl) hs'.1 hs').mono
        (fun _ _ h => h ▸ hs') fun _ _ h => h

theorem recordUnknown_keeps (deadline : Instant) (hs : s.Ready id commandId) :
    (recordUnknown commandId now deadline).Keeps (answerProtocol id) s
      (fun s' _ => s'.Ready id commandId) (fun s' _ => s'.Ready id commandId) :=
  (recordTerminal_keeps hs).mono (fun _ _ h => h.2 nofun) fun _ _ h => h.2 nofun

theorem recordRejected_keeps (hs : s.Ready id commandId) :
    (recordRejected commandId now).Keeps (answerProtocol id) s
      (fun s' _ => s'.IsOpen) (fun s' _ => s'.IsOpen) :=
  (recordTerminal_keeps hs).mono (fun _ _ h => h.1) fun _ _ h => h.1

theorem recordAccepted_keeps {brokerOrderId : String} (hs : s.Ready id commandId) :
    (recordAccepted commandId brokerOrderId now).Keeps (answerProtocol id) s
      (fun s' _ => s'.Ready id commandId) (fun s' _ => s'.Ready id commandId) := by
  unfold recordAccepted
  split
  · exact (Action.keeps_throw ..).mpr hs
  · refine .bind (keeps_of_leavesCommands (Action.within_ofExcept _) hs.isOpen hs) fun s' moment heq => ?_
    subst heq
    refine .bind ((getCommand_keeps hs.isOpen).mono (fun _ _ h => h) fun _ _ h => h ▸ hs)
      fun s' found hfound => ?_
    obtain ⟨rfl, -, hrow⟩ := hfound
    cases found with
    | none => exact (Action.keeps_throw ..).mpr hs
    | some found =>
      dsimp only
      split
      · exact (Action.keeps_pure ..).mpr hs
      · obtain ⟨row, rfl, hready⟩ := hs
        have hmay : commandId = id → mayAnswer row .accepted :=
          fun hid before hbefore => ⟨hready hid before hbefore, fun _ => rfl⟩
        refine .bind ((setResult_keeps hmay).mono (fun _ _ h => h.2 nofun) fun _ _ h => h.2 nofun)
          fun s' _ hs' => ?_
        refine .bind (keeps_of_leavesCommands linkBrokerOrder_leavesCommands hs'.isOpen hs')
          fun s'' _ heq => ?_
        subst heq
        exact (keeps_of_leavesCommands (statement_leavesCommands rfl) hs'.isOpen hs').mono
          (fun _ _ h => h ▸ hs') fun _ _ h => h

theorem recordRecoveryAttempt_keeps (hs : s.Ready id commandId) :
    (recordRecoveryAttempt commandId now).Keeps (answerProtocol id) s
      (fun s' _ => s'.Ready id commandId) (fun s' _ => s'.Ready id commandId) := by
  refine .bind (keeps_of_leavesCommands (Action.within_ofExcept _) hs.isOpen hs) fun s' moment heq => ?_
  subst heq
  have hmoved : ∀ s'' : AnswerPhase, (∃ row, s'' = .opened row ∧ ∀ before,
      s' = .opened before → Unrejected before → Unrejected row) → s''.Ready id commandId := by
    rintro s'' ⟨row, rfl, hkeep⟩
    obtain ⟨before, rfl, hready⟩ := hs
    exact ⟨row, rfl, fun hid => hkeep before rfl (hready hid)⟩
  have htouch : (statement (.touchAttempt commandId moment)).Keeps (answerProtocol id) s'
      (fun s _ => s.Ready id commandId) (fun s _ => s.Ready id commandId) :=
    (Action.keeps_perform ..).mpr ⟨hs.isOpen, fun _ => hmoved, fun _ => hmoved⟩
  refine .bind htouch fun s'' _ hs'' => ?_
  exact (keeps_of_leavesCommands (statement_leavesCommands rfl) hs''.isOpen hs'').mono
    (fun _ _ h => h ▸ hs'') fun _ _ h => h

theorem recoverCommand_keeps {command : BrokerOrderCommand}
    (hs : s.Ready id command.id) :
    (recoverCommand (mySqlDispatchStore facts) command now).Keeps (answerProtocol id) s
      (fun s' _ => s'.IsOpen) (fun s' _ => s'.IsOpen) := by
  have hopen : ∀ {α : Type} {x : Act α}, x.Keeps (answerProtocol id) s
      (fun s' _ => s'.Ready id command.id) (fun s' _ => s'.Ready id command.id) →
      x.Keeps (answerProtocol id) s (fun s' _ => s'.IsOpen) (fun s' _ => s'.IsOpen) :=
    fun hx => hx.mono (fun _ _ h => h.isOpen) fun _ _ h => h.isOpen
  unfold recoverCommand
  split
  · exact hopen (recordUnknown_keeps command.notAfter hs)
  · split
    · refine hopen (.bind (recordRecoveryAttempt_keeps hs) fun s' _ hs' => ?_)
      refine .bind (m := fun s _ => s.Ready id command.id) ((Action.keeps_perform ..).mpr
        ⟨hs'.isOpen, fun _ _ h => h ▸ hs', fun _ _ h => h ▸ hs'⟩) fun s'' result hs'' => ?_
      cases result with
      | none => exact recordUnknown_keeps command.notAfter hs''
      | some result => exact recordAccepted_keeps hs''
    · exact (Action.keeps_pure ..).mpr hs.isOpen

theorem loadCommand_answer (hs : s.IsOpen) :
    (loadCommand commandId).Keeps (answerProtocol id) s
      (fun s' found => s' = s ∧ ∀ command, found = some command → command.id = commandId ∧
        (commandId = id → ∃ row : PersistedOrderCommand,
          s = .opened (some row) ∧ command = row.toBrokerOrderCommand))
      (fun s' _ => s' = s) := by
  refine .bind (getCommand_keeps hs) fun s' found hfound => (Action.keeps_pure ..).mpr ?_
  obtain ⟨rfl, hid, hrow⟩ := hfound
  refine ⟨rfl, fun command hcommand => ?_⟩
  obtain ⟨row, rfl, rfl⟩ := Option.map_eq_some_iff.mp hcommand
  exact ⟨hid row rfl, fun heq => ⟨row, hrow heq, rfl⟩⟩

/-- A command handed out for sending has no answer yet. -/
theorem authorizeAndRecordAttempt_answer (hs : s.IsOpen) :
    (authorizeAndRecordAttempt facts commandId now).Keeps (answerProtocol id) s
      (fun s' found => s'.IsOpen ∧
        ∀ command, found = some command → command.id = commandId ∧ s'.Ready id commandId)
      (fun s' _ => s'.IsOpen) := by
  have hnone : ∀ s' : AnswerPhase, s'.IsOpen → s'.IsOpen ∧ ∀ command : BrokerOrderCommand,
      none = some command → command.id = commandId ∧ s'.Ready id commandId :=
    fun s' hs' => ⟨hs', fun command h => by cases h⟩
  unfold authorizeAndRecordAttempt
  refine .bind (keeps_of_leavesCommands (Action.within_ofExcept _) hs hs) fun s' moment heq => ?_
  subst heq
  refine .bind (keeps_of_leavesCommands (mayDispatch_reads.mono leavesCommands_of_readsOnly) hs hs)
    fun s' mayDispatch heq => ?_
  subst heq
  split
  · refine .bind (keeps_of_leavesCommands (maySubmit_reads.mono leavesCommands_of_readsOnly) hs hs)
      fun s' maySubmit heq => ?_
    subst heq
    split
    · have hclaim : (statement (.claim commandId moment)).Keeps (answerProtocol id) s'
          (fun s rowcount => s.IsOpen ∧ (rowcount = 1 → s.Ready id commandId)) (fun s _ => s.IsOpen) := by
        refine (Action.keeps_perform ..).mpr ⟨hs, ?_, ?_⟩
        · rintro rowcount s ⟨row, rfl, hclaimed, -⟩
          exact ⟨⟨row, rfl⟩, fun hone => ⟨row, rfl, hclaimed hone⟩⟩
        · rintro e s ⟨row, rfl, -⟩
          exact ⟨row, rfl⟩
      refine .bind hclaim fun s'' rowcount hclaimed => ?_
      split
      · rename_i hone
        have hready := hclaimed.2 hone
        refine .bind (keeps_of_leavesCommands (statement_leavesCommands rfl) hready.isOpen hready.isOpen)
          fun s _ heq => ?_
        subst heq
        refine (loadCommand_answer hready.isOpen).mono ?_ fun _ _ h => h ▸ hready.isOpen
        rintro s found ⟨rfl, hfound⟩
        exact ⟨hready.isOpen, fun command hcommand => ⟨(hfound command hcommand).1, hready⟩⟩
      · exact (Action.keeps_pure ..).mpr (hnone s'' hclaimed.1)
    · exact (Action.keeps_pure ..).mpr (hnone s' hs)
  · exact (Action.keeps_pure ..).mpr (hnone s' hs)

/-- A command handed out for recovery by `dispatch` was not rejected. -/
theorem recoverableCommand_answer (hs : s.IsOpen) :
    (recoverableCommand commandId).Keeps (answerProtocol id) s
      (fun s' found => s' = s ∧ ∀ command, found = some command → s.Ready id command.id)
      (fun s' _ => s' = s) := by
  refine .bind (getCommand_keeps hs) fun s' found hfound => ?_
  obtain ⟨rfl, hid, hrow⟩ := hfound
  have hnone : s' = s' ∧ ∀ command : BrokerOrderCommand, none = some command → s'.Ready id command.id :=
    ⟨rfl, fun command h => by cases h⟩
  cases found with
  | none => exact (Action.keeps_pure ..).mpr hnone
  | some found =>
    have hready : found.resultState ≠ some .rejected → s'.Ready id found.id := by
      intro hne
      obtain ⟨row, rfl⟩ := hs
      refine ⟨row, rfl, fun heq before hbefore => ?_⟩
      obtain rfl : row = some found := by simpa using hrow (hid found rfl ▸ heq)
      obtain rfl : found = before := by simpa using hbefore
      exact hne
    dsimp only
    split
    · exact (Action.keeps_pure ..).mpr hnone
    · split
      · rename_i state hstate
        split
        · exact (Action.keeps_pure ..).mpr hnone
        · rename_i hopen
          refine (Action.keeps_pure ..).mpr ⟨rfl, fun command hcommand => ?_⟩
          obtain rfl := Option.some.inj hcommand
          exact hready fun hrejected => hopen (.inr (Option.some.inj (hstate.symm.trans hrejected)))
      · rename_i hstate
        refine (Action.keeps_pure ..).mpr ⟨rfl, fun command hcommand => ?_⟩
        obtain rfl := Option.some.inj hcommand
        exact hready fun hrejected => by simp [hrejected] at hstate

theorem dispatchToBroker_answer {command : BrokerOrderCommand} (hs : s.Ready id commandId) :
    (dispatchToBroker command).Keeps (answerProtocol id) s
      (fun s' _ => s'.Ready id commandId) (fun s' _ => s'.Ready id commandId) := by
  unfold dispatchToBroker
  cases command.commandType <;>
    exact (Action.keeps_perform ..).mpr ⟨hs.isOpen, fun _ _ h => h ▸ hs, fun _ _ h => h ▸ hs⟩

/-- Only a rejection by the broker itself leaves the command rejected. -/
theorem sendAndRecord_answer {command : BrokerOrderCommand} (hs : s.Ready id commandId) :
    (sendAndRecord (mySqlDispatchStore facts) command commandId now).Keeps (answerProtocol id) s
      (fun s' outcome => s'.IsOpen ∧ (outcome ≠ none → s'.Ready id commandId))
      (fun s' _ => s'.IsOpen) := by
  refine .tryCatch (c := fun s' _ => s'.Ready id commandId) ?_ ?_
  · refine .bind (dispatchToBroker_answer hs) fun s result hs => ?_
    refine .bind (recordAccepted_keeps hs) fun s _ hs => ?_
    exact (Action.keeps_pure ..).mpr ⟨hs.isOpen, fun _ => hs⟩
  · intro s caught hs
    split
    · refine .bind (recordRejected_keeps hs) fun s _ hs => ?_
      exact (Action.keeps_pure ..).mpr ⟨hs, fun h => absurd rfl h⟩
    · split
      · exact (Action.keeps_pure ..).mpr ⟨hs.isOpen, fun _ => hs⟩
      · refine .bind ((recordUnknown_keeps command.notAfter hs).mono (fun _ _ h => h) fun _ _ h => h.isOpen)
          fun s _ hs => ?_
        exact (Action.keeps_pure ..).mpr ⟨hs.isOpen, fun _ => hs⟩

theorem dispatch_answer (hs : s.IsOpen) :
    (Dispatch.dispatch (mySqlDispatchStore facts) commandId now).Keeps (answerProtocol id) s
      (fun s' _ => s'.IsOpen) (fun s' _ => s'.IsOpen) := by
  unfold Dispatch.dispatch
  refine .bind (authorizeAndRecordAttempt_answer hs) fun s found hauth => ?_
  cases found with
  | none =>
    refine .bind ((recoverableCommand_answer hauth.1).mono (fun _ _ h => h) fun _ _ h => h ▸ hauth.1)
      fun s' recovery hrecovery => ?_
    obtain ⟨rfl, hready⟩ := hrecovery
    cases recovery with
    | none => exact (Action.keeps_pure ..).mpr hauth.1
    | some recovery =>
      dsimp only
      split
      · exact recoverCommand_keeps (hready recovery rfl)
      · exact (recordUnknown_keeps recovery.notAfter (hready recovery rfl)).mono (fun _ _ h => h.isOpen)
          fun _ _ h => h.isOpen
  | some command =>
    refine .bind (sendAndRecord_answer (hauth.2 command rfl).2) fun s outcome hs => ?_
    cases outcome with
    | none => exact (Action.keeps_pure ..).mpr hs.1
    | some error =>
      refine .bind (m := fun s _ => s.IsOpen) ?_ fun s _ hs => (Action.keeps_throw ..).mpr hs
      exact (Action.keeps_suppress ..).mpr ((recordUnknown_keeps command.notAfter (hs.2 nofun)).mono
        (fun _ _ h => h.isOpen) fun _ _ h => h.isOpen)

/-- Recovering the command leaves a rejection alone: there is none, or the recovery of a
submission is already out of its window. -/
def recoveryLeaves (row : PersistedOrderCommand) (now : DateTime) : Prop :=
  row.resultState = some .rejected →
    row.commandType = .submit ∧ recoveryOpen row.toBrokerOrderCommand now = false

theorem recover_answer {row : Option PersistedOrderCommand}
    (hrow : commandId = id → ∀ found, row = some found → recoveryLeaves found now) :
    (Dispatch.recover (mySqlDispatchStore facts) commandId now).Keeps (answerProtocol id)
      (.opened row) (fun s' _ => s'.IsOpen) (fun s' _ => s'.IsOpen) := by
  have hopen : (AnswerPhase.opened row).IsOpen := ⟨row, rfl⟩
  have hload : (commandForRecovery commandId).Keeps (answerProtocol id) (.opened row)
      (fun s' command => s' = .opened row ∧ command.id = commandId ∧ (commandId = id →
        ∃ found : PersistedOrderCommand, row = some found ∧ command = found.toBrokerOrderCommand))
      (fun s' _ => s'.IsOpen) := by
    refine .bind ((loadCommand_answer hopen).mono (fun _ _ h => h) fun _ _ h => h ▸ hopen)
      fun s' found hfound => ?_
    obtain ⟨rfl, hfound⟩ := hfound
    cases found with
    | none => exact (Action.keeps_throw ..).mpr hopen
    | some command =>
      refine (Action.keeps_pure ..).mpr ⟨rfl, (hfound command rfl).1, fun hid => ?_⟩
      obtain ⟨found, hs, hcommand⟩ := (hfound command rfl).2 hid
      exact ⟨found, by simpa using hs, hcommand⟩
  refine .bind hload fun s' command hcommand => ?_
  obtain ⟨rfl, rfl, hcommand⟩ := hcommand
  by_cases hrejected : command.id = id ∧ ∃ found, row = some found ∧ found.resultState = some .rejected
  · obtain ⟨hid, found, rfl, hresult⟩ := hrejected
    obtain ⟨found', hfound', rfl⟩ := hcommand hid
    obtain rfl := Option.some.inj hfound'
    obtain ⟨hsubmit, hclosed⟩ := hrow hid found rfl hresult
    unfold recoverCommand
    rw [if_neg (not_not_intro hsubmit), if_neg (by simp [hclosed])]
    exact (Action.keeps_pure ..).mpr hopen
  · refine recoverCommand_keeps ⟨row, rfl, fun hid found hfound hresult => ?_⟩
    exact hrejected ⟨hid, found, hfound, hresult⟩

/-- A session whose recoveries leave rejections alone follows the protocol. -/
theorem body_answer {call : Option RuntimeFacts × ServiceCall} {row : Option PersistedOrderCommand}
    (hcall : ∀ now, call.2 = .recover id now → ∀ found, row = some found → recoveryLeaves found now) :
    (system.body call).Obeys (answerProtocol id) (fun s _ => (answerProtocol id).ends s)
      (.opened row) := by
  obtain ⟨facts, call⟩ := call
  have hbody : (call.body (mySqlDispatchStore facts)).Keeps (answerProtocol id) (.opened row)
      (fun s _ => s.IsOpen) (fun s _ => s.IsOpen) := by
    cases call with
    | dispatch commandId now => exact dispatch_answer ⟨row, rfl⟩
    | recover commandId now => exact recover_answer fun hid => hcall now (hid ▸ rfl)
  exact inSession_obeys hbody (fun s hs => ⟨hs, fun r s' hmove => hmove ▸ hs⟩)
    fun s _ => ⟨trivial, fun r s' hmove => hmove⟩

/-! ### The stored answer -/

def definite (state : ResultState) : Bool :=
  state = .accepted || state = .rejected

/-- The transaction still sees every definite answer that is committed. -/
def KeepsAnswer (id : UUID) (w : World) : Prop :=
  ∀ state, definite state → w.committed.result? id = some (some state) →
    w.working.result? id = some (some state)

def AnswerFits (id : UUID) (w : World) : AnswerPhase → Prop
  | .opened row => w.working.command? id = row ∧ KeepsAnswer id w
  | .closed => w.working = w.committed

/-- The watched command is not recovered once it was rejected, unless the recovery is
too late to reach the venue. -/
def leavesRejection (id : UUID) (c : Config) (e : Event) : Prop :=
  match e with
  | .call (_, .recover commandId now) =>
    commandId = id → ∀ row ∈ c.world.committed.command? id, recoveryLeaves row now
  | _ => True

instance (row : PersistedOrderCommand) (now : DateTime) : Decidable (recoveryLeaves row now) :=
  inferInstanceAs (Decidable (_ → _))

instance (id : UUID) (c : Config) : (e : Event) → Decidable (leavesRejection id c e)
  | .call (_, .recover commandId now) =>
    inferInstanceAs (Decidable (commandId = id →
      ∀ row ∈ c.world.committed.command? id, recoveryLeaves row now))
  | .call (_, .dispatch _ _) | .answer _ | .crash | .shift _ => .isTrue trivial

theorem command?_apply (shared : SharedTables) (t : OrderTables) {o : StoreOp}
    (h : o.writesCommand = false) : (o.apply shared t).1.command? id = t.command? id := by
  cases o <;> first | rfl | cases h

/-- Claims and recovery attempts move the marker but keep the answer. -/
theorem command?_mark (shared : SharedTables) (t : OrderTables) {o : StoreOp} (id : UUID)
    (h : (∃ other moment, o = .claim other moment) ∨ ∃ other moment, o = .touchAttempt other moment) :
    ∃ f : PersistedOrderCommand → PersistedOrderCommand,
      (∀ found, (f found).resultState = found.resultState) ∧
        (o.apply shared t).1.command? id = (t.command? id).map f := by
  rcases h with ⟨other, moment, rfl⟩ | ⟨other, moment, rfl⟩
  · have hsame : ∃ f : PersistedOrderCommand → PersistedOrderCommand,
        (∀ found, (f found).resultState = found.resultState) ∧ t.command? id = (t.command? id).map f :=
      ⟨fun row => row, fun _ => rfl, by simp⟩
    simp only [StoreOp.apply]
    split
    · split
      · refine ⟨_, fun found => ?_, OrderTables.command?_update t other id fun _ => rfl⟩
        split <;> rfl
      · exact hsame
    · exact hsame
  · refine ⟨_, fun found => ?_, OrderTables.command?_update t other id (StoreOp.touchRow_id moment)⟩
    split
    · exact StoreOp.touchRow_resultState moment found
    · rfl

theorem unrejected_map {row : Option PersistedOrderCommand}
    {f : PersistedOrderCommand → PersistedOrderCommand}
    (hf : ∀ found, (f found).resultState = found.resultState) (h : Unrejected row) :
    Unrejected (row.map f) := by
  intro found hfound
  obtain ⟨before, hbefore, rfl⟩ := Option.map_eq_some_iff.mp hfound
  rw [hf]
  exact h before hbefore

/-- A statement that keeps the answer keeps the session's fit. -/
theorem AnswerFits.marked {w : World} {row : Option PersistedOrderCommand}
    (h : AnswerFits id w (.opened row)) {t : OrderTables}
    {f : PersistedOrderCommand → PersistedOrderCommand}
    (hf : ∀ found, (f found).resultState = found.resultState)
    (ht : t.command? id = (w.working.command? id).map f) :
    AnswerFits id { w with working := t } (.opened (row.map f)) := by
  obtain ⟨hrow, hkeeps⟩ := h
  refine ⟨by rw [ht, hrow], fun state hstate hcommitted => ?_⟩
  rw [OrderTables.result?, ht, Option.map_map]
  have hsame : (fun found : PersistedOrderCommand => found.resultState) ∘ f =
      fun found => found.resultState := funext hf
  rw [hsame]
  exact hkeeps state hstate hcommitted

theorem AnswerFits.same {w : World} {row : Option PersistedOrderCommand}
    (h : AnswerFits id w (.opened row)) {t : OrderTables}
    (ht : t.command? id = w.working.command? id) :
    AnswerFits id { w with working := t } (.opened row) := by
  have hid := h.marked (t := t) (f := fun found => found) (fun _ => rfl) (by simpa using ht)
  simpa using hid

/-- An admissible answer does not replace a committed definite one. -/
theorem AnswerFits.answered {w : World} {row : Option PersistedOrderCommand}
    (h : AnswerFits id w (.opened row)) {state : ResultState} {other : UUID} (moment : Instant)
    (hmay : other = id → mayAnswer row state) :
    let t := ((StoreOp.setResult other state moment).apply w.shared w.working).1
    AnswerFits id { w with working := t } (.opened (t.command? id)) := by
  intro t
  obtain ⟨hrow, hkeeps⟩ := h
  refine ⟨rfl, fun final hfinal hcommitted => ?_⟩
  have hbefore := hkeeps final hfinal hcommitted
  have ht : t.command? id = _ := OrderTables.command?_update w.working other id fun _ => rfl
  rw [OrderTables.result?, ht]
  rw [OrderTables.result?, hrow] at hbefore
  rw [hrow]
  obtain ⟨found, rfl, hresult⟩ := Option.map_eq_some_iff.mp hbefore
  by_cases hid : other = id
  · obtain ⟨hunrejected, haccepted⟩ := hmay hid found rfl
    have hfinal' : final = .accepted := by
      cases final
      · rfl
      · exact absurd hresult hunrejected
      · cases hfinal
    subst hfinal'
    simp [hid, haccepted hresult, StoreOp.answerRow]
  · simp [Ne.symm hid, hresult]

theorem AnswerFits.statement {w : World} {row : Option PersistedOrderCommand}
    (h : AnswerFits id w (.opened row)) {o : StoreOp}
    (hallows : (answerProtocol id).allows (.opened row) (.store o))
    {r : Except PyError o.Result} (hr : ∀ v, r = .ok v → v = (o.apply w.shared w.working).2) :
    ∃ s', (answerProtocol id).moves (.opened row) (.store o) r s' ∧
      AnswerFits id { w with working := (o.apply w.shared w.working).1 } s' := by
  cases o with
  | getCommand other =>
    refine ⟨.opened row, ?_, h⟩
    cases r with
    | error e => rfl
    | ok found =>
      obtain rfl := hr found rfl
      refine ⟨rfl, fun found hfound => by simpa using List.find?_some hfound, fun hid => ?_⟩
      rw [← h.1, ← hid]
      rfl
  | claim other moment =>
    obtain ⟨f, hf, ht⟩ := command?_mark w.shared w.working id (.inl ⟨other, moment, rfl⟩)
    have hkeep : ∀ before, AnswerPhase.opened row = .opened before → Unrejected before →
        Unrejected (row.map f) := by
      rintro before hbefore hun
      obtain rfl : row = before := by simpa using hbefore
      exact unrejected_map hf hun
    refine ⟨.opened (row.map f), ?_, h.marked hf ht⟩
    cases r with
    | error e => exact ⟨_, rfl, hkeep⟩
    | ok rowcount =>
      refine ⟨_, rfl, fun hone hid => unrejected_map hf fun found hfound hrejected => ?_, hkeep⟩
      rw [hr rowcount rfl] at hone
      obtain rfl := hid
      rw [hfound] at h
      simp only [StoreOp.apply, h.1] at hone
      split at hone
      · rename_i hclaimable
        simp [StoreOp.claimable, hrejected] at hclaimable
      · cases hone
  | touchAttempt other moment =>
    obtain ⟨f, hf, ht⟩ := command?_mark w.shared w.working id (.inr ⟨other, moment, rfl⟩)
    refine ⟨.opened (row.map f), ?_, h.marked hf ht⟩
    have hmoved : ∃ row', AnswerPhase.opened (row.map f) = .opened row' ∧ ∀ before,
        AnswerPhase.opened row = .opened before → Unrejected before → Unrejected row' := by
      refine ⟨_, rfl, fun before hbefore hun => ?_⟩
      obtain rfl : row = before := by simpa using hbefore
      exact unrejected_map hf hun
    cases r <;> exact hmoved
  | setResult other state moment =>
    obtain ⟨row', hrow', hmay⟩ := hallows
    obtain rfl : row = row' := by simpa using hrow'
    refine ⟨_, ?_, h.answered moment hmay⟩
    have hmoved : ∀ before, AnswerPhase.opened row = .opened before → Unrejected before →
        state ≠ .rejected → Unrejected
          (((StoreOp.setResult other state moment).apply w.shared w.working).1.command? id) := by
      intro before hbefore hun hstate found hfound
      obtain rfl : row = before := by simpa using hbefore
      have ht := OrderTables.command?_update w.working other id (f := StoreOp.answerRow state moment) fun _ => rfl
      rw [h.1] at ht
      replace hfound := ht.symm.trans hfound
      obtain ⟨found', hfound', rfl⟩ := Option.map_eq_some_iff.mp hfound
      split
      · simpa [StoreOp.answerRow] using hstate
      · exact hun found' hfound'
    cases r <;> exact ⟨_, rfl, hmoved⟩
  | _ => exact ⟨.opened row, by cases r <;> rfl, h.same rfl⟩

theorem AnswerFits.store {w w' : World} {o : StoreOp} {choice : Choice}
    {r : Except PyError o.Result} (h : AnswerFits id w s)
    (hallows : (answerProtocol id).allows s (.store o))
    (hanswer : answerStore w o choice = some (w', r)) :
    ∃ s', (answerProtocol id).moves s (.store o) r s' ∧ AnswerFits id w' s' := by
  obtain ⟨row, rfl⟩ : s.IsOpen := by
    cases o <;> first | exact hallows | exact hallows.imp fun _ h => h.1
  cases choice with
  | proceed =>
    obtain ⟨rfl, rfl⟩ := Prod.mk.inj (Option.some.inj hanswer)
    exact h.statement hallows fun v hv => (Except.ok.inj hv).symm
  | failBefore e =>
    simp only [answerStore] at hanswer
    split at hanswer
    · rename_i hfail
      obtain ⟨rfl, rfl⟩ := Prod.mk.inj (Option.some.inj hanswer)
      refine ⟨.opened row, ?_, h⟩
      have hkeep : ∃ row', AnswerPhase.opened row = .opened row' ∧ ∀ before,
          AnswerPhase.opened row = .opened before → Unrejected before → Unrejected row' :=
        ⟨row, rfl, fun before hbefore hun => by simpa [← AnswerPhase.opened.inj hbefore] using hun⟩
      cases o <;> first | rfl | exact hkeep | cases hfail
    · cases hanswer
  | failAfter e =>
    simp only [answerStore] at hanswer
    split at hanswer
    · obtain ⟨rfl, rfl⟩ := Prod.mk.inj (Option.some.inj hanswer)
      exact h.statement hallows fun v hv => by cases hv
    · cases hanswer
  | _ => cases hanswer

theorem AnswerFits.rollback {w : World} : AnswerFits id w.rollback .closed := rfl

theorem answer_sound (id : UUID) :
    system.Sound (answerProtocol id) (AnswerFits id) (fun w => w.working = w.committed)
      (leavesRejection id) where
  call w call hidle hcond := by
    refine ⟨.opened (w.working.command? id), ⟨rfl, fun state _ h => hidle ▸ h⟩, body_answer ?_⟩
    intro now hcall found hfound
    obtain ⟨facts, call⟩ := call
    obtain rfl : call = .recover id now := hcall
    exact hcond rfl found (hidle ▸ hfound)
  answer w s o next choice w' r hfit hallows hcond hanswer := by
    cases o with
    | store o => exact hfit.store hallows hanswer
    | commit =>
      obtain ⟨row, rfl⟩ := hallows
      have hcommitted : AnswerFits id w.commit (.opened row) := ⟨hfit.1, fun _ _ h => h⟩
      cases choice <;> cases hanswer
      · exact ⟨_, rfl, hcommitted⟩
      · exact ⟨_, rfl, hfit⟩
      · exact ⟨_, rfl, hcommitted⟩
    | close => cases choice <;> cases hanswer <;> exact ⟨.closed, rfl, .rollback⟩
    | newUuid7 => cases choice <;> cases hanswer; exact ⟨s, rfl, hfit⟩
    | marketDataFresh => cases choice <;> cases hanswer; exact ⟨s, rfl, hfit⟩
    | submit c => cases choice <;> cases hanswer; obtain ⟨row, rfl⟩ := hallows; exact ⟨_, rfl, hfit⟩
    | cancel c => cases choice <;> cases hanswer; obtain ⟨row, rfl⟩ := hallows; exact ⟨_, rfl, hfit⟩
    | replace c => cases choice <;> cases hanswer; obtain ⟨row, rfl⟩ := hallows; exact ⟨_, rfl, hfit⟩
    | recoverSubmit c t => cases choice <;> cases hanswer; exact ⟨s, rfl, hfit⟩
  ended w s hfit hend := by
    subst hend
    exact hfit
  crash c _ _ := rfl
  shift_idle w _ hidle := hidle
  shift_fits w _ s hfit := by
    cases s <;> exact hfit

/-- Only a commit changes the committed tables, and what it makes durable keeps every
definite answer. -/
theorem definite_step (id : UUID) (c : Config) (e : Event)
    (hc : Sequential.Follows (answerProtocol id) (AnswerFits id) (fun w => w.working = w.committed) c)
    {state : ResultState} (hstate : definite state)
    (h : c.world.committed.result? id = some (some state)) :
    (system.step c e).world.committed.result? id = some (some state) := by
  obtain ⟨w, current⟩ := c
  cases e with
  | call k => cases current <;> exact h
  | crash => exact h
  | shift shared => exact h
  | answer choice =>
    rcases current with _ | ⟨a⟩ | ⟨o, next⟩
    · exact h
    · exact h
    · obtain ⟨s, hfit, hallows, -⟩ := hc
      simp only [Sequential.step]
      split
      · rename_i w' r hanswer
        by_cases ho : o = .commit
        · subst ho
          obtain ⟨row, rfl⟩ := hallows
          have hworking := hfit.2 state hstate h
          cases choice <;> cases hanswer
          · exact hworking
          · exact h
          · exact hworking
        · rw [committed_of_answer hanswer ho]
          exact h
      · exact h

/-- In every run that never recovers a rejected command within its window, a stored
ACCEPTED or REJECTED stays as it is. -/
theorem definite_answer_final (c : Config) (hc : Fresh c) (before after : List Event) (id : UUID)
    (hmeets : RunMeets system.step (leavesRejection id) c (before ++ after)) (state : ResultState)
    (hstate : definite state)
    (h : (runFrom system.step c before).world.committed.result? id = some (some state)) :
    (runFrom system.step c (before ++ after)).world.committed.result? id = some (some state) := by
  have hstart : Sequential.Follows (answerProtocol id) (AnswerFits id)
      (fun w => w.working = w.committed) c := by
    unfold Sequential.Follows
    rw [hc.1]
    exact hc.2.1
  have hmiddle := (answer_sound id).run hstart hmeets.append_left
  rw [runFrom_append]
  exact run_relates (R := fun a b : Config =>
      a.world.committed.result? id = some (some state) → b.world.committed.result? id = some (some state))
    (fun _ h => h) (fun _ _ _ hab hbc h => hbc (hab h)) (answer_sound id).step
    (fun c e hc _ h => definite_step id c e hc hstate h) hmiddle hmeets.append_right h

/-- An accepted submission dispatched a second time. -/
theorem definite_answer_final_accepted :
    (runFrom system.step (sampleConfig (sampleRow .submit .submitNewExposure rfl))
      ((sampleSend (.ok ⟨"7"⟩) ++ proceed 5 ++ .answer (.uuid (sampleId 20)) :: proceed 4) ++
        sampleSend (.ok ⟨"8"⟩))).world.committed.result? (sampleId 10) = some (some .accepted) :=
  definite_answer_final _ ⟨rfl, rfl, rfl, rfl⟩ _ _ _ (by decide +kernel) .accepted rfl
    (by decide +kernel)

/-- The venue rejected the submission; a recovery inside the window finds no such order
and stores UNKNOWN. -/
theorem rejected_answer_recovered :
    ¬ ∀ c : Config, Fresh c → ∀ (before after : List Event) (id : UUID) (state : ResultState),
      definite state → (runFrom system.step c before).world.committed.result? id = some (some state) →
      (runFrom system.step c (before ++ after)).world.committed.result? id = some (some state) := by
  intro h
  have hrun := h (sampleConfig (sampleRow .submit .submitNewExposure rfl)) ⟨rfl, rfl, rfl, rfl⟩
    (sampleSend (.error ⟨.brokerSubmissionRejected, "rejected"⟩) ++ proceed 5)
    (.call (none, .recover (sampleId 10) sampleNow) :: proceed 3 ++
      .answer (.recovered (.ok none)) :: proceed 5) (sampleId 10) .rejected rfl (by decide +kernel)
  revert hrun
  decide +kernel

end AutoTrader.Dispatch
