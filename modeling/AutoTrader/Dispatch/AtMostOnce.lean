import AutoTrader.Dispatch.Footprints
import AutoTrader.Dispatch.System

/-! How often a command reaches the venue. The marker is part of the session's
transaction, so it protects a command exactly as long as that transaction is not lost
after the send; runs that lose it send the command again. -/

namespace AutoTrader.Dispatch

open AutoTrader.Domain AutoTrader.Execution AutoTrader.Runtime

/-! ### The session's protocol -/

/-- A session with respect to one command: `claimed` is the time between a successful
claim and the send. -/
inductive SendPhase
  | opened
  | claimed
  | closed

/-- The session has not been closed yet. -/
def SendPhase.Live (s : SendPhase) : Prop := s ≠ .closed

/-- The command is only sent right after this session claimed it. -/
def sendProtocol (id : UUID) : Protocol PyError DispatchOp DispatchOp.Result SendPhase where
  allows s
    | .submit c | .cancel c | .replace c => s.Live ∧ (c.id = id → s = .claimed)
    | .close => True
    | _ => s.Live
  moves s o r s' :=
    match o, r with
    | .store (.getCommand other), .ok row => (∀ found, row = some found → found.id = other) ∧ s' = s
    | .store (.claim other _), .ok rowcount =>
      s' = if other = id ∧ rowcount = 1 then .claimed else s
    | .submit c, _ | .cancel c, _ | .replace c, _ => s' = if c.id = id then .opened else s
    | .close, _ => s' = .closed
    | _, _ => s' = s
  ends s := s = .closed

variable {id commandId : UUID} {now : DateTime} {moment : Instant} {facts : Option RuntimeFacts}

theorem sendProtocol_neutral {s : SendPhase} (hs : s.Live) (o : DispatchOp) (h : sendsNothing o) :
    (sendProtocol id).allows s o ∧ ∀ r s', (sendProtocol id).moves s o r s' → s' = s := by
  cases o with
  | store o =>
    refine ⟨hs, fun r s' hmove => ?_⟩
    cases o <;> cases r <;> simp_all [sendsNothing, StoreOp.claims, sendProtocol]
  | newUuid7 => exact ⟨hs, fun r s' hmove => hmove⟩
  | marketDataFresh => exact ⟨hs, fun r s' hmove => hmove⟩
  | recoverSubmit c t => exact ⟨hs, fun r s' hmove => hmove⟩
  | commit => exact ⟨hs, fun r s' hmove => hmove⟩
  | close => exact h.elim
  | submit c => exact h.elim
  | cancel c => exact h.elim
  | replace c => exact h.elim

theorem keeps_of_sendsNothing {α : Type} {x : Act α} (hx : x.Within sendsNothing) {s : SendPhase}
    (hs : s.Live) : x.Keeps (sendProtocol id) s (fun s' _ => s' = s) (fun s' _ => s'.Live) :=
  (hx.keeps (sendProtocol_neutral hs)).mono (fun _ _ h => h) fun _ _ h => h ▸ hs

theorem live_of_sendsNothing {α : Type} {x : Act α} (hx : x.Within sendsNothing) {s : SendPhase}
    (hs : s.Live) : x.Keeps (sendProtocol id) s (fun s' _ => s'.Live) (fun s' _ => s'.Live) :=
  (keeps_of_sendsNothing hx hs).mono (fun _ _ h => h ▸ hs) fun _ _ h => h

/-- A loaded command carries the id it was loaded by. -/
theorem loadCommand_keeps {s : SendPhase} (hs : s.Live) :
    (loadCommand commandId).Keeps (sendProtocol id) s
      (fun s' found => s' = s ∧ ∀ command, found = some command → command.id = commandId)
      (fun s' _ => s'.Live) := by
  simp only [loadCommand, statement, Action.keeps_bind, Action.keeps_perform, Action.keeps_pure]
  refine ⟨hs, ?_, fun e s' (hmove : s' = s) => hmove ▸ hs⟩
  rintro row s' ⟨hid, rfl⟩
  refine ⟨rfl, fun command hcommand => ?_⟩
  obtain ⟨found, hfound, rfl⟩ := Option.map_eq_some_iff.mp hcommand
  exact hid found hfound

/-- A successful claim of the watched command opens the way to its send. -/
theorem claim_keeps {s : SendPhase} (hs : s.Live) :
    (statement (.claim commandId moment)).Keeps (sendProtocol id) s
      (fun s' rowcount => s'.Live ∧ (rowcount = 1 → commandId = id → s' = .claimed))
      (fun s' _ => s'.Live) := by
  simp only [statement, Action.keeps_perform]
  refine ⟨hs, ?_, fun e s' (hmove : s' = s) => hmove ▸ hs⟩
  intro rowcount s' (hmove : s' = _)
  subst hmove
  by_cases h : commandId = id ∧ rowcount = 1
  · simp [h, SendPhase.Live]
  · rw [if_neg h]
    exact ⟨hs, fun h₁ h₂ => absurd ⟨h₂, h₁⟩ h⟩

/-- A command handed out for sending is the claimed one. -/
theorem authorizeAndRecordAttempt_keeps {s : SendPhase} (hs : s.Live) :
    (authorizeAndRecordAttempt facts commandId now).Keeps (sendProtocol id) s
      (fun s' found => s'.Live ∧
        ∀ command, found = some command → command.id = commandId ∧ (commandId = id → s' = .claimed))
      (fun s' _ => s'.Live) := by
  have hnone : ∀ s' : SendPhase, s'.Live → s'.Live ∧ ∀ command : BrokerOrderCommand,
      none = some command → command.id = commandId ∧ (commandId = id → s' = .claimed) :=
    fun s' hs' => ⟨hs', fun command h => by cases h⟩
  unfold authorizeAndRecordAttempt
  refine .bind (live_of_sendsNothing (Action.within_ofExcept _) hs) fun s moment hs => ?_
  refine .bind (live_of_sendsNothing (mayDispatch_reads.mono sendsNothing_of_readsOnly) hs)
    fun s mayDispatch hs => ?_
  split
  · refine .bind (live_of_sendsNothing (maySubmit_reads.mono sendsNothing_of_readsOnly) hs)
      fun s maySubmit hs => ?_
    split
    · refine .bind (claim_keeps hs) fun s rowcount hclaim => ?_
      split
      · rename_i hone
        refine .bind (keeps_of_sendsNothing (statement_sendsNothing rfl) hclaim.1) fun s' _ heq => ?_
        subst heq
        refine (loadCommand_keeps hclaim.1).mono ?_ fun _ _ h => h
        rintro s'' found ⟨rfl, hid⟩
        exact ⟨hclaim.1, fun command hfound => ⟨hid command hfound, hclaim.2 hone⟩⟩
      · exact (Action.keeps_pure ..).mpr (hnone s hclaim.1)
    · exact (Action.keeps_pure ..).mpr (hnone s hs)
  · exact (Action.keeps_pure ..).mpr (hnone s hs)

/-- Exactly one method of the broker is called, and it spends the claim. -/
theorem dispatchToBroker_keeps {command : BrokerOrderCommand} {s : SendPhase} (hs : s.Live)
    (hclaimed : command.id = id → s = .claimed) :
    (dispatchToBroker command).Keeps (sendProtocol id) s
      (fun s' _ => s'.Live) (fun s' _ => s'.Live) := by
  have hspent : ∀ s' : SendPhase, s' = (if command.id = id then .opened else s) → s'.Live := by
    rintro s' rfl
    split
    · nofun
    · exact hs
  unfold dispatchToBroker
  cases command.commandType <;>
    exact (Action.keeps_perform ..).mpr ⟨⟨hs, hclaimed⟩, fun _ => hspent, fun _ => hspent⟩

theorem sendAndRecord_keeps {command : BrokerOrderCommand} {s : SendPhase} (hs : s.Live)
    (hclaimed : command.id = id → s = .claimed) :
    (sendAndRecord (mySqlDispatchStore facts) command commandId now).Keeps (sendProtocol id) s
      (fun s' _ => s'.Live) (fun s' _ => s'.Live) := by
  refine .tryCatch (c := fun s' _ => s'.Live) ?_ ?_
  · refine .bind (dispatchToBroker_keeps hs hclaimed) fun s result hs => ?_
    exact live_of_sendsNothing (recordAccepted_sendsNothing.bind fun _ => Action.within_pure _) hs
  · intro s caught hs
    split
    · exact live_of_sendsNothing (recordTerminal_sendsNothing.bind fun _ => Action.within_pure _) hs
    · split
      · exact (Action.keeps_pure ..).mpr hs
      · exact live_of_sendsNothing (recordTerminal_sendsNothing.bind fun _ => Action.within_pure _) hs

theorem dispatch_keeps :
    (Dispatch.dispatch (mySqlDispatchStore facts) commandId now).Keeps (sendProtocol id) .opened
      (fun s _ => s.Live) (fun s _ => s.Live) := by
  unfold Dispatch.dispatch
  refine .bind (authorizeAndRecordAttempt_keeps nofun) fun s found hauth => ?_
  cases found with
  | none =>
    refine .bind (live_of_sendsNothing (recoverableCommand_reads.mono sendsNothing_of_readsOnly) hauth.1)
      fun s recovery hs => ?_
    cases recovery with
    | none => exact (Action.keeps_pure ..).mpr hs
    | some recovery =>
      dsimp only
      split
      · exact live_of_sendsNothing recoverCommand_sendsNothing hs
      · exact live_of_sendsNothing recordTerminal_sendsNothing hs
  | some command =>
    obtain ⟨hid, hclaimed⟩ := hauth.2 command rfl
    refine .bind (sendAndRecord_keeps hauth.1 (hid ▸ hclaimed)) fun s outcome hs => ?_
    cases outcome with
    | none => exact (Action.keeps_pure ..).mpr hs
    | some error =>
      refine .bind (m := fun s _ => s.Live) ?_ fun s _ hs => (Action.keeps_throw ..).mpr hs
      exact (Action.keeps_suppress ..).mpr (live_of_sendsNothing recordTerminal_sendsNothing hs)

theorem recover_keeps :
    (Dispatch.recover (mySqlDispatchStore facts) commandId now).Keeps (sendProtocol id) .opened
      (fun s _ => s.Live) (fun s _ => s.Live) := by
  unfold Dispatch.recover
  refine .bind (live_of_sendsNothing (commandForRecovery_reads.mono sendsNothing_of_readsOnly) nofun)
    fun s command hs => ?_
  exact live_of_sendsNothing recoverCommand_sendsNothing hs

/-- Every session follows the protocol and is closed in the end. -/
theorem body_obeys (call : Option RuntimeFacts × ServiceCall) :
    (system.body call).Obeys (sendProtocol id) (fun s _ => (sendProtocol id).ends s) .opened := by
  obtain ⟨facts, call⟩ := call
  have hcall : (call.body (mySqlDispatchStore facts)).Keeps (sendProtocol id) .opened
      (fun s _ => s.Live) (fun s _ => s.Live) := by
    cases call with
    | dispatch commandId now => exact dispatch_keeps
    | recover commandId now => exact recover_keeps
  exact inSession_obeys hcall (fun s hs => ⟨hs, fun r s' hmove => hmove ▸ hs⟩)
    fun s _ => ⟨trivial, fun r s' hmove => hmove⟩

/-! ### The marker and the sends -/

/-- Between sessions every send of the command is covered by a committed marker. -/
structure SendsCovered (id : UUID) (w : World) : Prop where
  settled : w.unsettled = []
  clean : w.working = w.committed
  once : w.sendCount id ≤ 1
  covered : 0 < w.sendCount id → w.committed.attempted id

/-- Within a session the marker of a send may still be uncommitted. -/
structure SendsFit (id : UUID) (w : World) (s : SendPhase) : Prop where
  once : w.sendCount id ≤ 1
  marked : 0 < w.sendCount id → w.working.attempted id
  covered : 0 < w.sendCount id → w.unsettled = [] → w.committed.attempted id
  claimed : s = .claimed → w.sendCount id = 0 ∧ w.working.attempted id
  closed : s = .closed → w.unsettled = [] ∧ w.working = w.committed

/-- The step drops whatever the session has not committed. -/
def endsTransaction (c : Config) : Event → Bool
  | .crash => true
  | .answer _ =>
    match c.current with
    | some (.perform .close _) => true
    | _ => false
  | _ => false

/-- No transaction is lost that covers a send: neither a crash nor the end of a session
meets an order sent since the last commit. -/
def keepsMarker (c : Config) (e : Event) : Prop :=
  endsTransaction c e → c.world.unsettled = []

instance (c : Config) (e : Event) : Decidable (keepsMarker c e) :=
  inferInstanceAs (Decidable (_ → _))

theorem attempted_update (t : OrderTables) (other : UUID)
    (f : PersistedOrderCommand → PersistedOrderCommand) (hid : ∀ row, (f row).id = row.id)
    (hf : ∀ row, row.dispatchAttemptedAt.isSome → (f row).dispatchAttemptedAt.isSome)
    (h : t.attempted id) : (t.update other f).attempted id := by
  unfold OrderTables.attempted at h ⊢
  by_cases hother : id = other
  · subst hother
    rw [OrderTables.command?_update_self t id f hid]
    cases hrow : t.command? id with
    | none => simp [hrow] at h
    | some row => exact hf row (by simpa [hrow] using h)
  · rwa [OrderTables.command?_update_of_ne t hother f hid]

/-- No statement takes a marker back. -/
theorem attempted_apply (shared : SharedTables) (o : StoreOp) (t : OrderTables)
    (h : t.attempted id) : (o.apply shared t).1.attempted id := by
  cases o with
  | claim other moment =>
    simp only [StoreOp.apply]
    split
    · split
      · exact attempted_update t other _ (fun _ => rfl) (fun _ _ => rfl) h
      · exact h
    · exact h
  | touchAttempt other moment =>
    refine attempted_update t other _ (StoreOp.touchRow_id moment) (fun row hrow => ?_) h
    unfold StoreOp.touchRow
    split
    · exact hrow
    · rfl
  | setResult other state moment => exact attempted_update t other _ (fun _ => rfl) (fun _ _ => rfl) h
  | _ => exact h

/-- Only a command without a marker can be claimed, and the claim leaves one. -/
theorem claim_apply (shared : SharedTables) (t : OrderTables)
    (h : ((StoreOp.claim id moment).apply shared t).2 = 1) :
    t.attempted id = false ∧ ((StoreOp.claim id moment).apply shared t).1.attempted id := by
  simp only [StoreOp.apply] at h ⊢
  split at h
  · rename_i row hrow
    split at h
    · rename_i hclaimable
      have hnone : row.dispatchAttemptedAt = none := by
        simp only [StoreOp.claimable, Bool.and_eq_true, Option.isNone_iff_eq_none] at hclaimable
        exact hclaimable.1.1
      refine ⟨by simp [OrderTables.attempted, hrow, hnone], ?_⟩
      rw [if_pos hclaimable]
      simp only [OrderTables.attempted]
      rw [OrderTables.command?_update_self, hrow]
      · rfl
      · exact fun _ => rfl
    · cases h
  · cases h

theorem sendCount_send (w : World) (method : CommandType) (command : BrokerOrderCommand) :
    (w.send method command).sendCount id =
      w.sendCount id + if command.id = id then 1 else 0 := by
  simp [World.sendCount, World.send, List.countP_append, List.countP_cons]

theorem SendsFit.statement {w : World} {s s' : SendPhase} (h : SendsFit id w s) (hs' : s'.Live)
    (shared : SharedTables) (o : StoreOp)
    (hclaimed : s' = .claimed → w.sendCount id = 0 ∧ (o.apply shared w.working).1.attempted id) :
    SendsFit id { w with working := (o.apply shared w.working).1 } s' where
  once := h.once
  marked hsent := attempted_apply shared o w.working (h.marked hsent)
  covered := h.covered
  claimed := hclaimed
  closed hclosed := absurd hclosed hs'

theorem SendsFit.statement_same {w : World} {s : SendPhase} (h : SendsFit id w s) (hs : s.Live)
    (shared : SharedTables) (o : StoreOp) :
    SendsFit id { w with working := (o.apply shared w.working).1 } s :=
  h.statement hs shared o fun hclaimed =>
    ⟨(h.claimed hclaimed).1, attempted_apply shared o w.working (h.claimed hclaimed).2⟩

theorem SendsFit.store {w w' : World} {s : SendPhase} {o : StoreOp} {choice : Choice}
    {r : Except PyError o.Result} (h : SendsFit id w s) (hs : s.Live)
    (hanswer : answerStore w o choice = some (w', r)) :
    ∃ s', (sendProtocol id).moves s (.store o) r s' ∧ SendsFit id w' s' := by
  have hraised : ∀ e, (sendProtocol id).moves s (.store o) (.error e) s := by
    intro e
    cases o <;> rfl
  cases choice with
  | proceed =>
    obtain ⟨rfl, rfl⟩ := Prod.mk.inj (Option.some.inj hanswer)
    cases o with
    | getCommand other =>
      refine ⟨s, ⟨fun found hfound => ?_, rfl⟩, h⟩
      simpa using List.find?_some hfound
    | claim other moment =>
      refine ⟨_, rfl, ?_⟩
      by_cases hone : other = id ∧ ((StoreOp.claim other moment).apply w.shared w.working).2 = 1
      · rw [if_pos hone]
        obtain ⟨rfl, hrow⟩ := hone
        obtain ⟨hunmarked, hmarked⟩ := claim_apply w.shared w.working hrow
        have hlive : SendPhase.claimed.Live := nofun
        refine h.statement hlive w.shared _ fun _ => ⟨?_, hmarked⟩
        by_contra hsent
        rw [h.marked (Nat.pos_of_ne_zero hsent)] at hunmarked
        cases hunmarked
      · rw [if_neg hone]
        exact h.statement_same hs w.shared _
    | _ => exact ⟨s, rfl, h.statement_same hs w.shared _⟩
  | failBefore e =>
    simp only [answerStore] at hanswer
    split at hanswer
    · obtain ⟨rfl, rfl⟩ := Prod.mk.inj (Option.some.inj hanswer)
      exact ⟨s, hraised e, h⟩
    · cases hanswer
  | failAfter e =>
    simp only [answerStore] at hanswer
    split at hanswer
    · obtain ⟨rfl, rfl⟩ := Prod.mk.inj (Option.some.inj hanswer)
      exact ⟨s, hraised e, h.statement_same hs w.shared o⟩
    · cases hanswer
  | _ => cases hanswer

theorem SendsFit.commit {w : World} {s : SendPhase} (h : SendsFit id w s) (hs : s.Live) :
    SendsFit id w.commit s where
  once := h.once
  marked := h.marked
  covered hsent _ := h.marked hsent
  claimed := h.claimed
  closed hclosed := absurd hclosed hs

theorem SendsFit.rollback {w : World} {s : SendPhase} (h : SendsFit id w s) (hw : w.unsettled = []) :
    SendsCovered id w.rollback where
  settled := rfl
  clean := rfl
  once := h.once
  covered hsent := h.covered hsent hw

theorem SendsCovered.fits {w : World} (h : SendsCovered id w) {s : SendPhase} (hs : s ≠ .claimed) :
    SendsFit id w s where
  once := h.once
  marked hsent := h.clean ▸ h.covered hsent
  covered hsent _ := h.covered hsent
  claimed hclaimed := absurd hclaimed hs
  closed _ := ⟨h.settled, h.clean⟩

theorem SendsFit.send {w : World} {s : SendPhase} (h : SendsFit id w s) (hs : s.Live)
    (method : CommandType) (command : BrokerOrderCommand) (hclaimed : command.id = id → s = .claimed) :
    SendsFit id (w.send method command) (if command.id = id then .opened else s) := by
  by_cases hid : command.id = id
  · obtain ⟨hzero, hmarked⟩ := h.claimed (hclaimed hid)
    have hone : (w.send method command).sendCount id = 1 := by rw [sendCount_send, hzero, if_pos hid]
    rw [if_pos hid]
    exact ⟨hone.le, fun _ => hmarked, fun _ hnil => by simp [World.send] at hnil, nofun, nofun⟩
  · have hsame : (w.send method command).sendCount id = w.sendCount id := by
      rw [sendCount_send, if_neg hid, Nat.add_zero]
    rw [if_neg hid]
    exact ⟨hsame ▸ h.once, fun hsent => h.marked (hsame ▸ hsent), fun _ hnil => by simp [World.send] at hnil,
      fun hs => hsame ▸ h.claimed hs, fun hclosed => absurd hclosed hs⟩

/-- The protocol keeps every command within one send as long as no marker is lost. -/
theorem atMostOnce_sound (id : UUID) :
    system.Sound (sendProtocol id) (SendsFit id) (SendsCovered id) keepsMarker where
  call w call hidle _ := ⟨.opened, hidle.fits nofun, body_obeys call⟩
  answer w s o next choice w' r hfit hallows hcond hanswer := by
    cases o with
    | store o => exact hfit.store hallows hanswer
    | commit =>
      cases choice <;> cases hanswer
      · exact ⟨s, rfl, hfit.commit hallows⟩
      · exact ⟨s, rfl, hfit⟩
      · exact ⟨s, rfl, hfit.commit hallows⟩
    | close =>
      have hclosed : SendsFit id w.rollback .closed := (hfit.rollback (hcond rfl)).fits nofun
      cases choice <;> cases hanswer <;> exact ⟨.closed, rfl, hclosed⟩
    | newUuid7 => cases choice <;> cases hanswer; exact ⟨s, rfl, hfit⟩
    | marketDataFresh => cases choice <;> cases hanswer; exact ⟨s, rfl, hfit⟩
    | submit c => cases choice <;> cases hanswer; exact ⟨_, rfl, hfit.send hallows.1 _ c hallows.2⟩
    | cancel c => cases choice <;> cases hanswer; exact ⟨_, rfl, hfit.send hallows.1 _ c hallows.2⟩
    | replace c => cases choice <;> cases hanswer; exact ⟨_, rfl, hfit.send hallows.1 _ c hallows.2⟩
    | recoverSubmit c t => cases choice <;> cases hanswer; exact ⟨s, rfl, hfit⟩
  ended w s hfit hend :=
    ⟨(hfit.closed hend).1, (hfit.closed hend).2, hfit.once, fun hsent =>
      hfit.covered hsent (hfit.closed hend).1⟩
  crash c hc hcond := by
    rcases hc with hidle | ⟨s, hfit⟩
    · exact (hidle.fits (s := .opened) nofun).rollback (hcond rfl)
    · exact hfit.rollback (hcond rfl)
  shift_idle w _ hidle := ⟨hidle.settled, hidle.clean, hidle.once, hidle.covered⟩
  shift_fits w _ s hfit := ⟨hfit.once, hfit.marked, hfit.covered, hfit.claimed, hfit.closed⟩

/-- In every run that loses no transaction covering a send, a command is sent at most
once. -/
theorem sendCount_le_one (c : Config) (hc : Fresh c) (events : List Event)
    (hmeets : RunMeets system.step keepsMarker c events) (id : UUID) :
    (runFrom system.step c events).world.sendCount id ≤ 1 := by
  obtain ⟨hcurrent, hclean, hsends, hsettled⟩ := hc
  have hzero : c.world.sendCount id = 0 := by simp [World.sendCount, hsends]
  have hstart : Sequential.Follows (sendProtocol id) (SendsFit id) (SendsCovered id) c := by
    unfold Sequential.Follows
    rw [hcurrent]
    exact ⟨hsettled, hclean, by omega, fun hsent => by omega⟩
  rcases ((atMostOnce_sound id).run hstart hmeets).idle_or_fits with hidle | ⟨s, hfit⟩
  · exact hidle.once
  · exact hfit.once

/-- The sample command sent, recorded, committed and dispatched again. -/
theorem sendCount_le_one_committed :
    (runFrom system.step (sampleConfig (sampleRow .submit .submitNewExposure rfl))
      (sampleSend (.ok ⟨"7"⟩) ++ proceed 5 ++ .answer (.uuid (sampleId 20)) :: proceed 4 ++
        sampleSend (.ok ⟨"8"⟩))).world.sendCount (sampleId 10) ≤ 1 :=
  sendCount_le_one _ ⟨rfl, rfl, rfl, rfl⟩ _ (by decide +kernel) _

/-- A crash between the send and the commit: the marker is gone and the next dispatch
sends again. -/
theorem sendCount_two_after_crash :
    ¬ ∀ (c : Config), Fresh c → ∀ (events : List Event) (id : UUID),
      (runFrom system.step c events).world.sendCount id ≤ 1 := by
  intro h
  have hrun := h (sampleConfig (sampleRow .submit .submitNewExposure rfl)) ⟨rfl, rfl, rfl, rfl⟩
    (sampleSend (.ok ⟨"7"⟩) ++ .crash :: sampleSend (.ok ⟨"8"⟩)) (sampleId 10)
  revert hrun
  decide +kernel

end AutoTrader.Dispatch
