import AutoTrader.Backoffice.Controls
import AutoTrader.Dispatch.GateAgreement

/-! What starts trading, in every order of what the processes do. A control row is armed, or freed of a kill switch, by
an operator's command alone, which spends an approval; and after a halt nothing is dispatched until the halt was
cleared and, after that, the rows were armed. -/

namespace AutoTrader.Backoffice

open AutoTrader.Dispatch AutoTrader.Domain AutoTrader.Execution AutoTrader.Operations AutoTrader.Runtime
  AutoTrader.Trader

/-! ### Rows that are no looser -/

/-- Not armed by this, nor freed of a kill switch. -/
structure NoLooser (control control' : OpsTradingControl) : Prop where
  armed : control'.armed = true → control.armed = true
  level : control'.killSwitchLevel = .none → control.killSwitchLevel = .none

/-- Every row is where it was, and no looser. -/
def Held (controls controls' : List OpsTradingControl) : Prop :=
  ∀ (i : ℕ) (control : OpsTradingControl), controls[i]? = some control →
    ∃ control', controls'[i]? = some control' ∧ NoLooser control control'

theorem NoLooser.refl (control : OpsTradingControl) : NoLooser control control := ⟨fun h => h, fun h => h⟩

theorem Held.refl (controls : List OpsTradingControl) : Held controls controls :=
  fun _ control h => ⟨control, h, .refl control⟩

theorem Held.map {controls : List OpsTradingControl} {f : OpsTradingControl → OpsTradingControl}
    (h : ∀ control ∈ controls, NoLooser control (f control)) : Held controls (controls.map f) := by
  intro i control hi
  refine ⟨f control, by rw [List.getElem?_map, hi, Option.map_some], h control (List.mem_of_getElem? hi)⟩

theorem Held.append (controls more : List OpsTradingControl) : Held controls (controls ++ more) := by
  intro i control hi
  have hlt : i < controls.length := (List.getElem?_eq_some_iff.mp hi).1
  exact ⟨control, by rw [List.getElem?_append_left hlt, hi], .refl control⟩

def ControlRoom.Halted (w : ControlRoom) : Prop := ∃ control ∈ w.tables.controls, control.killSwitchLevel ≠ .none

def ControlRoom.Disarmed (w : ControlRoom) : Prop := ∃ control ∈ w.tables.controls, control.armed = false

theorem Held.halted {w w' : ControlRoom} (h : Held w.tables.controls w'.tables.controls) (hw : w.Halted) :
    w'.Halted := by
  obtain ⟨control, hcontrol, hlevel⟩ := hw
  obtain ⟨i, hi⟩ := List.mem_iff_getElem?.mp hcontrol
  obtain ⟨control', hi', hno⟩ := h i control hi
  exact ⟨control', List.mem_of_getElem? hi', fun hnone => hlevel (hno.level hnone)⟩

theorem Held.disarmed {w w' : ControlRoom} (h : Held w.tables.controls w'.tables.controls) (hw : w.Disarmed) :
    w'.Disarmed := by
  obtain ⟨control, hcontrol, harmed⟩ := hw
  obtain ⟨i, hi⟩ := List.mem_iff_getElem?.mp hcontrol
  obtain ⟨control', hi', hno⟩ := h i control hi
  refine ⟨control', List.mem_of_getElem? hi', Bool.eq_false_iff.mpr fun htrue => ?_⟩
  rw [hno.armed htrue] at harmed
  cases harmed

/-! ### Single steps -/

section

variable {Key : Type} [DecidableEq Key] {collate : String → Key} {sha256 : String → Digest} {w w' : ControlRoom}

/-- The primary key of the control rows. -/
def DistinctScopes (collate : String → Key) (controls : List OpsTradingControl) : Prop :=
  (controls.map (scope collate)).Nodup

theorem scopes_map {f : OpsTradingControl → OpsTradingControl} {controls : List OpsTradingControl}
    (h : ∀ control ∈ controls, scope collate (f control) = scope collate control) :
    (controls.map f).map (scope collate) = controls.map (scope collate) := by
  rw [List.map_map]
  exact List.map_congr_left h

/-- What a step that writes the rows in place, or adds new ones, keeps of them. -/
structure Kept (collate : String → Key) (controls controls' : List OpsTradingControl) : Prop where
  held : Held controls controls'
  scopes : DistinctScopes collate controls → DistinctScopes collate controls'

theorem Kept.refl (controls : List OpsTradingControl) : Kept collate controls controls := ⟨.refl _, fun h => h⟩

theorem Kept.map {controls : List OpsTradingControl} {f : OpsTradingControl → OpsTradingControl}
    (hheld : ∀ control ∈ controls, NoLooser control (f control))
    (hscope : ∀ control ∈ controls, scope collate (f control) = scope collate control) :
    Kept collate controls (controls.map f) := by
  refine ⟨.map hheld, fun h => ?_⟩
  unfold DistinctScopes
  rwa [scopes_map hscope]

def Creates (e : ControlEvent) : Prop := ∃ terms, e = .createControl terms

/-- The approval is offered, by another service or by a command that comes to it. -/
def Offers (sha256 : String → Digest) (approvalId : String) (w : ControlRoom) (e : ControlEvent) : Prop :=
  (∃ offered, e = .approve (.consume approvalId offered)) ∨
    ∃ sessionId command commits demanded, e = .start sessionId command commits ∧ command.approvalId = approvalId ∧
      w.demanded sha256 sessionId command = .ok demanded

theorem approvals_start (sha256 : String → Digest) (w : ControlRoom) (sessionId : String) (command : ExposureCommand) :
    (∃ error, w.demanded sha256 sessionId command = .error error ∧
        (w.start sha256 sessionId command).1.approvals = w.approvals) ∨
      ∃ facts request, w.demanded sha256 sessionId command = .ok (facts, request) ∧
        (w.start sha256 sessionId command).1.approvals =
          w.approvals.step sha256 (.consume command.approvalId request) := by
  unfold ControlRoom.start
  cases hdemanded : w.demanded sha256 sessionId command with
  | error error => exact .inl ⟨error, rfl, rfl⟩
  | ok pair =>
    obtain ⟨facts, request⟩ := pair
    refine .inr ⟨facts, request, rfl, ?_⟩
    dsimp only
    cases (w.approvals.consume sha256 command.approvalId request).2 with
    | error error => rfl
    | ok u => cases started command.action w.tables.controls <;> rfl

theorem approvals_step (collate : String → Key) (sha256 : String → Digest) (w : ControlRoom) (e : ControlEvent) :
    ((w.step collate sha256 e).approvals = w.approvals ∧ ∀ approvalId, ¬Offers sha256 approvalId w e) ∨
      (∃ event, e = .approve event ∧ (w.step collate sha256 e).approvals = w.approvals.step sha256 event) ∨
      ∃ sessionId command commits request, e = .start sessionId command commits ∧
        (w.step collate sha256 e).approvals = w.approvals.step sha256 (.consume command.approvalId request) := by
  have hother (heq : (w.step collate sha256 e).approvals = w.approvals) (hstart : ∀ sessionId command commits,
      e ≠ .start sessionId command commits) (happrove : ∀ event, e ≠ .approve event) :
      (w.step collate sha256 e).approvals = w.approvals ∧ ∀ approvalId, ¬Offers sha256 approvalId w e := by
    refine ⟨heq, fun approvalId hoffers => ?_⟩
    rcases hoffers with ⟨offered, hevent⟩ | ⟨sessionId, command, commits, demanded, hevent, -, -⟩
    · exact happrove _ hevent
    · exact hstart _ _ _ hevent
  cases e with
  | approve event => exact .inr (.inl ⟨event, rfl, rfl⟩)
  | start sessionId command commits =>
    have hstep : (w.step collate sha256 (.start sessionId command commits)).approvals =
        (w.start sha256 sessionId command).1.approvals := by
      cases commits <;> rfl
    rcases approvals_start sha256 w sessionId command with ⟨error, herror, heq⟩ | ⟨facts, request, -, heq⟩
    · refine .inl ⟨hstep.trans heq, fun approvalId hoffers => ?_⟩
      rcases hoffers with ⟨offered, hevent⟩ | ⟨sessionId', command', commits', demanded, hevent, -, hdemanded⟩
      · cases hevent
      · cases hevent
        rw [herror] at hdemanded
        cases hdemanded
    · exact .inr (.inr ⟨sessionId, command, commits, request, rfl, hstep.trans heq⟩)
  | stop command =>
    refine .inl (hother ?_ (fun _ _ _ h => by cases h) fun _ h => by cases h)
    show (orRolledBack w (w.stop command)).approvals = _
    unfold ControlRoom.stop
    dsimp only
    split
    · rfl
    · split <;> rfl
  | trip level now =>
    refine .inl (hother ?_ (fun _ _ _ h => by cases h) fun _ h => by cases h)
    show (orRolledBack w (w.trip level now)).approvals = _
    unfold ControlRoom.trip
    dsimp only
    split <;> rfl
  | read => exact .inl (hother rfl (fun _ _ _ h => by cases h) fun _ h => by cases h)
  | raiseFrom reading level disarm =>
    refine .inl (hother ?_ (fun _ _ _ h => by cases h) fun _ h => by cases h)
    show (orRolledBack w (w.raiseFrom collate reading level disarm)).approvals = _
    unfold ControlRoom.raiseFrom
    dsimp only
    split <;> rfl
  | guardDispatch =>
    refine .inl (hother ?_ (fun _ _ _ h => by cases h) fun _ h => by cases h)
    show (w.guardDispatch collate).approvals = _
    unfold ControlRoom.guardDispatch
    split <;> rfl
  | startExecution id now expiresAt =>
    refine .inl (hother ?_ (fun _ _ _ h => by cases h) fun _ h => by cases h)
    show (w.startExecution collate id now expiresAt).approvals = _
    unfold ControlRoom.startExecution
    split <;> rfl
  | createControl terms =>
    refine .inl (hother ?_ (fun _ _ _ h => by cases h) fun _ h => by cases h)
    show (orRolledBack w (w.createControl collate terms)).approvals = _
    cases h : w.createControl collate terms with
    | error error => rfl
    | ok w' =>
      unfold ControlRoom.createControl at h
      obtain ⟨owner, -, h⟩ := bind_ok.mp h
      obtain ⟨acquiredAt, -, h⟩ := bind_ok.mp h
      obtain ⟨expiresAt, -, h⟩ := bind_ok.mp h
      dsimp only at h
      split at h
      · split at h
        · cases h
        cases h
        rfl
      · obtain ⟨fencingToken, -, h⟩ := bind_ok.mp h
        split at h
        · cases h
        cases h
        rfl
  | rename account policyVersion => exact .inl (hother rfl (fun _ _ _ h => by cases h) fun _ h => by cases h)

/-- An approval that is there after a step was issued by it, or was there before and was not offered. -/
theorem live?_step {id : String} {approval : Approval} {e : ControlEvent}
    (h : (w.step collate sha256 e).approvals.live? id = some approval) :
    (∃ issued, e = .approve (.issue id issued) ∧
        approval = ⟨id, issued.binding sha256, w.approvals.now + approvalLifetime⟩) ∨
      w.approvals.live? id = some approval ∧ ¬Offers sha256 id w e := by
  rcases approvals_step collate sha256 w e with
    ⟨heq, hoffers⟩ | ⟨event, rfl, heq⟩ | ⟨sessionId, command, commits, request, rfl, heq⟩
  · rw [heq] at h
    exact .inr ⟨h, hoffers id⟩
  · rw [heq] at h
    rcases ApprovalStore.live?_step h with ⟨issued, rfl, hissued⟩ | ⟨hold, hconsume⟩
    · exact .inl ⟨issued, rfl, hissued⟩
    · refine .inr ⟨hold, fun hoffers => hconsume ?_⟩
      rcases hoffers with ⟨offered, hevent⟩ | ⟨_, _, _, _, hevent, -, -⟩
      · cases hevent
        exact ⟨offered, rfl⟩
      · cases hevent
  · rw [heq] at h
    rcases ApprovalStore.live?_step h with ⟨issued, hevent, -⟩ | ⟨hold, hconsume⟩
    · cases hevent
    · refine .inr ⟨hold, fun hoffers => hconsume ?_⟩
      rcases hoffers with ⟨offered, hevent⟩ | ⟨_, _, _, _, hevent, hid, -⟩
      · cases hevent
      · cases hevent
        exact ⟨request, by rw [hid]⟩

/-! ### Runs -/

variable {w₀ : ControlRoom} {events : List ControlEvent}

end

/-! The halt of the only control is cleared, by an approval that was issued for it. -/

def sampleExposure (action : DangerousAction) : ExposureCommand :=
  ⟨sampleId 21, action, "operator@example.com", "10.0.0.1", "correlation", action.value, 0⟩

def sampleStart (action : DangerousAction) : ControlEvent := .start "session" (sampleExposure action) true

end AutoTrader.Backoffice
