import AutoTrader.Dispatch.Store

/-! `MySqlProtectionSafetyActions`: what the protection service does to the control rows when
a position cannot be protected. Levels are only ever raised. -/

namespace AutoTrader.Trader

open AutoTrader.Domain AutoTrader.Dispatch

def levelRank : KillSwitchLevel → Nat
  | .none => 0
  | .blockNewExposure => 1
  | .emergency => 2

/-- `_raise_to` on one row. -/
def raiseControl (level : KillSwitchLevel) (disarm : Bool) (control : TradingControl) : TradingControl :=
  let raised :=
    if levelRank control.killSwitchLevel < levelRank level then
      { control with killSwitchLevel := level, rowVersion := control.rowVersion + 1 }
    else if disarm && control.armed then { control with rowVersion := control.rowVersion + 1 }
    else control
  if disarm then { raised with armed := false } else raised

def requireOwn (own bindingId : UUID) : Except PyError Unit :=
  if bindingId ≠ own then .error ⟨.valueError, "these safety actions answer for one binding only"⟩ else .ok ()

def cancelEntryAndAdds (own : UUID) (controls : List TradingControl) (bindingId : UUID) :
    Except PyError (List TradingControl) := do
  requireOwn own bindingId
  .ok (controls.map (raiseControl .blockNewExposure false))

def haltAccount (own : UUID) (controls : List TradingControl) (bindingId : UUID) (reason : String) :
    Except PyError (List TradingControl) := do
  requireOwn own bindingId
  if reason.toList.all isSpace then .error ⟨.valueError, "halting an account needs a reason"⟩
  else .ok (controls.map (raiseControl .emergency true))

theorem raiseControl_level (level : KillSwitchLevel) (disarm : Bool) (control : TradingControl) :
    levelRank (raiseControl level disarm control).killSwitchLevel =
      max (levelRank control.killSwitchLevel) (levelRank level) := by
  have hraised : (raiseControl level disarm control).killSwitchLevel =
      if levelRank control.killSwitchLevel < levelRank level then level else control.killSwitchLevel := by
    unfold raiseControl
    cases disarm <;> cases control.armed <;> simp <;> split <;> rfl
  rw [hraised]
  split <;> omega

/-- Nothing new opens under any control row. -/
theorem cancelEntryAndAdds_blocks {own bindingId : UUID} {controls after : List TradingControl}
    (h : cancelEntryAndAdds own controls bindingId = .ok after) :
    ∀ control ∈ after, control.killSwitchLevel ≠ .none := by
  obtain ⟨_, -, h⟩ := bind_ok.mp h
  cases h
  intro control hcontrol hnone
  obtain ⟨old, -, rfl⟩ := List.mem_map.mp hcontrol
  have hrank := raiseControl_level .blockNewExposure false old
  rw [hnone] at hrank
  simp only [levelRank] at hrank
  omega

/-- Every control row is at the highest level, and disarmed. -/
theorem haltAccount_halts {own bindingId : UUID} {controls after : List TradingControl} {reason : String}
    (h : haltAccount own controls bindingId reason = .ok after) :
    ∀ control ∈ after, control.killSwitchLevel = .emergency ∧ control.armed = false := by
  obtain ⟨_, -, h⟩ := bind_ok.mp h
  split at h
  · cases h
  · cases h
    intro control hcontrol
    obtain ⟨old, -, rfl⟩ := List.mem_map.mp hcontrol
    have hrank := raiseControl_level .emergency true old
    refine ⟨?_, rfl⟩
    cases hlevel : (raiseControl .emergency true old).killSwitchLevel with
    | emergency => rfl
    | none | blockNewExposure =>
      rw [hlevel] at hrank
      simp only [levelRank] at hrank
      omega

end AutoTrader.Trader
