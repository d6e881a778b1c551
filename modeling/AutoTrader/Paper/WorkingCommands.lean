import AutoTrader.Paper.Submitter
import AutoTrader.Runtime.Pool

/-! How many commands of one order may still fill. Calls of the submitter and settlement passes
interleave at every journal call; the journal voids a command by its id and never looks whether
it was resolved in between. -/

namespace AutoTrader.Paper

open AutoTrader.Domain AutoTrader.Execution AutoTrader.Runtime

/-! ### The system -/

inductive PaperCall
  | submit (command : BrokerOrderCommand)
  | cancel (command : BrokerOrderCommand)
  | replace (command : BrokerOrderCommand)
  | recoverSubmit (command : BrokerOrderCommand)
  | settle

/-- What the environment decides about a session: its commit goes through, fails, or goes through
and the answer is lost. A settlement is also told the bars and how the ledger takes a receipt. -/
inductive PaperChoice
  | proceed
  | failBefore (e : PyError)
  | failAfter (e : PyError)
  | resolve (barAt nextBar : PaperOrderCommand → Except PyError (Option PaperExecutionBar))
      (applyToLedger : PaperOrderReceipt → Except PyError Unit)

def answerRead {α : Type} (j : Journal) (x : Except PyError α) : PaperChoice → Option (Journal × Except PyError α)
  | .proceed => some (j, x)
  | .failBefore e => some (j, .error e)
  | _ => none

def answerWrite {α : Type} (j : Journal) (x : Except PyError (α × Journal)) :
    PaperChoice → Option (Journal × Except PyError α)
  | .failBefore e => some (j, .error e)
  | .proceed =>
    match x with
    | .ok (a, j') => some (j', .ok a)
    | .error e => some (j, .error e)
  | .failAfter e =>
    match x with
    | .ok (_, j') => some (j', .error e)
    | .error e => some (j, .error e)
  | .resolve _ _ _ => none

section System

variable (sha256 : String → Digest)

/-- The session of `MySqlFillSettlement.settle`. -/
def settleSession (barAt nextBar : PaperOrderCommand → Except PyError (Option PaperExecutionBar))
    (applyToLedger : PaperOrderReceipt → Except PyError Unit) (j : Journal) : Except PyError (Nat × Journal) := do
  let (receipts, resolved) ← resolvePaperFills sha256 barAt nextBar j none
  receipts.forM applyToLedger
  pure (receipts.length, resolved)

def answerPaper (j : Journal) : (o : PaperOp) → PaperChoice → Option (Journal × Except PyError o.Result)
  | .loadReceipt commandId, choice => answerRead j (.ok (j.loadReceipt commandId)) choice
  | .unresolvedCommands orderId, choice => answerRead j (j.unresolvedCommands orderId) choice
  | .stagedCommand commandId, choice => answerRead j (j.stagedCommand commandId) choice
  | .stageCommand command digest, choice => answerWrite j ((j.stageCommand command digest).map ((), ·)) choice
  | .persistReceipt receipt, choice => answerWrite j ((j.persistReceipt receipt).map ((), ·)) choice
  | .voidAndStage voided staged digest, choice =>
    answerWrite j ((j.voidAndStage voided staged digest).map ((), ·)) choice
  | .settle, .resolve barAt nextBar applyToLedger =>
    answerWrite j (settleSession sha256 barAt nextBar applyToLedger j) .proceed
  | .settle, .failBefore e => some (j, .error e)
  | .settle, _ => none

def PaperCall.act (account : PaperAccount) : PaperCall → PaperAct Unit
  | submit command => do
    let _ ← Paper.submit sha256 account command
    pure ()
  | cancel command => do
    let _ ← Paper.cancel sha256 command
    pure ()
  | replace command => do
    let _ ← Paper.replace sha256 account command
    pure ()
  | recoverSubmit command => do
    let _ ← Paper.recoverSubmit account command
    pure ()
  | settle => do
    let _ ← Action.perform PaperOp.settle
    pure ()

/-- Calls of the submitter and settlement passes on one journal. -/
def paperPool (account : PaperAccount) : Pool PyError PaperOp PaperOp.Result Journal PaperCall PaperChoice where
  body := fun call => do
    let _ ← (call.act sha256 account).run
    pure ()
  answer := fun j _ o choice => answerPaper sha256 j o choice

end System

abbrev PaperConfig := Pool.Config PyError PaperOp PaperOp.Result Journal

abbrev PaperEvent := Pool.Event PaperCall PaperChoice

/-- Nothing was staged yet and nobody is calling. -/
def nothingStaged : PaperConfig := ⟨[], []⟩

/-! ### The law -/

/-- No order has two commands that may still fill. -/
def Journal.OneWorking (j : Journal) : Prop :=
  ∀ orderId, (j.working orderId).length ≤ 1

/-- The command is filled or voided. -/
def Journal.resolved (j : Journal) (commandId : UUID) : Bool :=
  (j.row? commandId).any fun row => !row.unresolved

/-- The command a cancel or a replace voids. -/
def PaperOp.voids : PaperOp → Option UUID
  | .persistReceipt receipt => some receipt.commandId
  | .voidAndStage voided _ _ => some voided.commandId
  | _ => none

/-- A cancel or a replace of a resolved command fails and leaves the journal as it was. -/
def MovesRefused (sha256 : String → Digest) (c : PaperConfig) : PaperEvent → Prop
  | .answer i choice => ∀ o ∈ c.operation? i, ∀ target ∈ o.voids, c.world.resolved target = true →
      ∀ a ∈ answerPaper sha256 c.world o choice, a.1 = c.world ∧ a.2.isOk = false
  | _ => True

/-! ### When it holds -/

/-- A command of this id and digest cannot be staged. -/
def Journal.RefusesStaging (j : Journal) (staged : PaperOrderCommand) (digest : Digest) : Prop :=
  match j.row? staged.id with
  | some existing => existing.commandDigest ≠ digest
  | none => (stagedRow staged digest).isOk = false

/-- The receipt does not carry the digest its row was staged under. -/
def Journal.RefusesReceipt (j : Journal) (receipt : PaperOrderReceipt) : Prop :=
  ∀ row ∈ j.row? receipt.commandId, row.commandDigest ≠ receipt.commandDigest

/-- No cancel or replace writes for a command that is resolved by then, unless the write is refused
for its digest or its terms; a submission finds no other working command of its order, and a
replace none but the one it voids. -/
def PaperOp.Anchored (j : Journal) : PaperOp → Prop
  | .stageCommand command _ => ∀ row ∈ j.working command.orderId, row.commandId = command.id
  | .persistReceipt receipt => j.resolved receipt.commandId = true → j.RefusesReceipt receipt
  | .voidAndStage voided staged digest =>
    (∀ row ∈ j.working staged.orderId, row.commandId = voided.commandId ∨ row.commandId = staged.id) ∧
      (j.resolved voided.commandId = true → j.RefusesReceipt voided ∨ j.RefusesStaging staged digest)
  | _ => True

/-- The condition on one event. -/
def MovesAnchored (c : PaperConfig) : PaperEvent → Prop
  | .answer i _ => ∀ o ∈ c.operation? i, o.Anchored c.world
  | _ => True

instance decidableRefusesStaging (j : Journal) (staged : PaperOrderCommand) (digest : Digest) :
    Decidable (j.RefusesStaging staged digest) := by
  unfold Journal.RefusesStaging
  split <;> infer_instance

instance decidableRefusesReceipt (j : Journal) (receipt : PaperOrderReceipt) :
    Decidable (j.RefusesReceipt receipt) := by
  unfold Journal.RefusesReceipt
  infer_instance

instance decidableAnchored (j : Journal) : (o : PaperOp) → Decidable (o.Anchored j)
  | .stageCommand _ _ => by
    unfold PaperOp.Anchored
    infer_instance
  | .persistReceipt _ => by
    unfold PaperOp.Anchored
    infer_instance
  | .voidAndStage _ _ _ => by
    unfold PaperOp.Anchored
    infer_instance
  | .loadReceipt _ | .unresolvedCommands _ | .stagedCommand _ | .settle => inferInstanceAs (Decidable True)

instance decidableMovesAnchored (c : PaperConfig) : (e : PaperEvent) → Decidable (MovesAnchored c e)
  | .answer i _ => by
    unfold MovesAnchored
    infer_instance
  | .call _ | .crash => inferInstanceAs (Decidable True)

/-! ### What the journal's methods do to the working commands -/

/-- The same commands are staged, and none that was resolved works again. -/
structure Journal.Shrinks (j j' : Journal) : Prop where
  known : ∀ id, j'.row? id = none ↔ j.row? id = none
  working : ∀ orderId, (j'.working orderId).length ≤ (j.working orderId).length

namespace Journal

theorem Shrinks.refl (j : Journal) : j.Shrinks j := ⟨fun _ => Iff.rfl, fun _ => le_rfl⟩

theorem Shrinks.trans {j j₁ j₂ : Journal} (h : j.Shrinks j₁) (h' : j₁.Shrinks j₂) : j.Shrinks j₂ :=
  ⟨fun id => (h'.known id).trans (h.known id), fun orderId => (h'.working orderId).trans (h.working orderId)⟩

theorem OneWorking.shrinks {j j' : Journal} (hone : j.OneWorking) (h : j.Shrinks j') : j'.OneWorking :=
  fun orderId => (h.working orderId).trans (hone orderId)

theorem settle_ok {row settled : PaperOrderRow} {receipt : PaperOrderReceipt} (h : row.settle receipt = .ok settled) :
    settled.commandId = row.commandId ∧ settled.unresolved = false := by
  unfold PaperOrderRow.settle at h
  obtain ⟨filledQuantity, -, h⟩ := bind_ok.mp h
  obtain ⟨remainingQuantity, -, h⟩ := bind_ok.mp h
  obtain ⟨fillPrice, -, h⟩ := bind_ok.mp h
  obtain ⟨fee, -, h⟩ := bind_ok.mp h
  obtain ⟨slippageCost, -, h⟩ := bind_ok.mp h
  dsimp only at h
  split at h <;> cases h
  exact ⟨rfl, rfl⟩

theorem stagedRow_ok {command : PaperOrderCommand} {digest : Digest} {row : PaperOrderRow}
    (h : stagedRow command digest = .ok row) :
    row.commandId = command.id ∧ row.orderId = command.orderId ∧ row.commandDigest = digest := by
  unfold stagedRow at h
  obtain ⟨quantity, -, h⟩ := bind_ok.mp h
  obtain ⟨limitPrice, -, h⟩ := bind_ok.mp h
  obtain ⟨triggerPrice, -, h⟩ := bind_ok.mp h
  obtain ⟨feePerUnit, -, h⟩ := bind_ok.mp h
  obtain ⟨slippagePerUnit, -, h⟩ := bind_ok.mp h
  dsimp only at h
  split at h <;> cases h
  exact ⟨rfl, rfl, rfl⟩

/-- What a receipt that is taken does to its row: nothing, or it resolves it. -/
theorem persistReceipt_ok {j j' : Journal} {receipt : PaperOrderReceipt} (h : j.persistReceipt receipt = .ok j') :
    ∃ row, j.row? receipt.commandId = some row ∧ row.commandDigest = receipt.commandDigest ∧
      ((row.unresolved = false ∧ j' = j) ∨
        (row.unresolved = true ∧ ∃ settled : PaperOrderRow, settled.commandId = receipt.commandId ∧
          settled.unresolved = false ∧
          j' = Rows.update PaperOrderRow.commandId j receipt.commandId fun _ => settled)) := by
  unfold persistReceipt at h
  split at h
  · cases h
  · rename_i row hrow
    split at h
    · cases h
    · rename_i hdigest
      refine ⟨row, hrow, not_not.mp hdigest, ?_⟩
      split at h
      · rename_i hsettled
        cases h
        exact .inl ⟨by simpa [PaperOrderRow.unresolved] using hsettled, rfl⟩
      · rename_i hsettled
        obtain ⟨settled, hsettle, rfl⟩ := exceptMap_ok.mp h
        obtain ⟨hid, hresolved⟩ := settle_ok hsettle
        refine .inr ⟨by simpa [PaperOrderRow.unresolved] using hsettled, settled, ?_, hresolved, rfl⟩
        rw [hid]
        exact Rows.lookup_key hrow

/-- Writing a resolved row over the rows of its command. -/
theorem shrinks_update {j : Journal} {settled : PaperOrderRow} (hsettled : settled.unresolved = false) :
    j.Shrinks (Rows.update PaperOrderRow.commandId j settled.commandId fun _ => settled) where
  known id := by
    unfold row?
    rw [Rows.lookup_put, Option.map_eq_none_iff]
  working orderId := by
    unfold working Rows.update
    rw [← List.countP_eq_length_filter, ← List.countP_eq_length_filter, List.countP_map]
    refine List.countP_mono_left fun row _ hcounted => ?_
    dsimp only [Function.comp] at hcounted
    split at hcounted
    · simp [hsettled] at hcounted
    · exact hcounted

theorem persistReceipt_shrinks {j j' : Journal} {receipt : PaperOrderReceipt}
    (h : j.persistReceipt receipt = .ok j') : j.Shrinks j' := by
  obtain ⟨row, -, -, ⟨-, rfl⟩ | ⟨-, settled, hid, hsettled, rfl⟩⟩ := persistReceipt_ok h
  · exact .refl _
  · rw [← hid]
    exact shrinks_update hsettled

/-- A staged command is left as it is, and a new one adds its row. -/
theorem stageCommand_ok {j j' : Journal} {command : PaperOrderCommand} {digest : Digest}
    (h : j.stageCommand command digest = .ok j') :
    (∃ existing, j.row? command.id = some existing ∧ existing.commandDigest = digest ∧ j' = j) ∨
      (j.row? command.id = none ∧ ∃ row, stagedRow command digest = .ok row ∧ j' = j ++ [row]) := by
  unfold stageCommand at h
  split at h
  · rename_i existing hexisting
    split at h
    · cases h
    · rename_i hdigest
      cases h
      exact .inl ⟨existing, hexisting, not_not.mp hdigest, rfl⟩
  · rename_i hnone
    obtain ⟨row, hrow, rfl⟩ := exceptMap_ok.mp h
    exact .inr ⟨hnone, row, hrow, rfl⟩

theorem stageCommand_known {j j' : Journal} {command : PaperOrderCommand} {digest : Digest}
    (hknown : j.row? command.id ≠ none) (h : j.stageCommand command digest = .ok j') : j' = j := by
  obtain ⟨existing, -, -, rfl⟩ | ⟨hnone, -⟩ := stageCommand_ok h
  · rfl
  · exact absurd hnone hknown

theorem refusesStaging_error {j : Journal} {staged : PaperOrderCommand} {digest : Digest}
    (h : j.RefusesStaging staged digest) : (j.stageCommand staged digest).isOk = false := by
  unfold RefusesStaging at h
  unfold stageCommand
  cases hfound : j.row? staged.id with
  | some existing =>
    rw [hfound] at h
    dsimp only at h ⊢
    rw [if_pos h]
    rfl
  | none =>
    rw [hfound] at h
    dsimp only at h ⊢
    cases hrow : stagedRow staged digest with
    | ok row => rw [hrow] at h; cases h
    | error e => rfl

theorem refusesReceipt_error {j : Journal} {receipt : PaperOrderReceipt} (h : j.RefusesReceipt receipt) :
    (j.persistReceipt receipt).isOk = false := by
  cases hpersist : j.persistReceipt receipt with
  | error e => rfl
  | ok j' =>
    obtain ⟨row, hrow, hdigest, -⟩ := persistReceipt_ok hpersist
    exact absurd hdigest (h row hrow)

/-! ### A new command of an order without one -/

theorem working_append (j : Journal) (row : PaperOrderRow) (orderId : UUID) :
    working (j ++ [row]) orderId = j.working orderId ++ working [row] orderId :=
  List.filter_append ..

theorem OneWorking.stage {j j' : Journal} {command : PaperOrderCommand} {digest : Digest} (hone : j.OneWorking)
    (hnone : j.row? command.id = none → j.working command.orderId = [])
    (h : j.stageCommand command digest = .ok j') : j'.OneWorking := by
  obtain ⟨existing, -, -, rfl⟩ | ⟨habsent, row, hrow, rfl⟩ := stageCommand_ok h
  · exact hone
  · obtain ⟨-, horder, -⟩ := stagedRow_ok hrow
    intro orderId
    rw [working_append, List.length_append]
    by_cases heq : orderId = command.orderId
    · rw [heq, hnone habsent, List.length_nil, Nat.zero_add]
      exact List.length_filter_le _ _
    · have hother : working [row] orderId = [] := by
        simp [working, horder, Ne.symm heq]
      rw [hother]
      exact hone orderId

theorem working_of_absent {j : Journal} {id orderId : UUID} (habsent : j.row? id = none) :
    ∀ row ∈ j.working orderId, row.commandId ≠ id := fun row hrow =>
  Rows.lookup_eq_none.mp habsent row (List.mem_filter.mp hrow).1

/-- After a receipt the rows of its command no longer work. -/
theorem working_update {j : Journal} {settled : PaperOrderRow} (hsettled : settled.unresolved = false)
    {orderId : UUID} :
    ∀ row ∈ working (Rows.update PaperOrderRow.commandId j settled.commandId fun _ => settled) orderId,
      row ∈ j.working orderId ∧ row.commandId ≠ settled.commandId := by
  intro row hrow
  obtain ⟨hmem, hworks⟩ := List.mem_filter.mp hrow
  obtain ⟨old, hold, rfl⟩ := Rows.mem_update.mp hmem
  split at hworks
  · simp [hsettled] at hworks
  · rename_i hne
    rw [if_neg hne]
    exact ⟨List.mem_filter.mpr ⟨hold, hworks⟩, hne⟩

/-- A replace leaves one working command: the voided one works no more when the new one is added. -/
theorem OneWorking.voidAndStage {j j' : Journal} {voided : PaperOrderReceipt} {staged : PaperOrderCommand}
    {digest : Digest} (hone : j.OneWorking) (hanchored : (PaperOp.voidAndStage voided staged digest).Anchored j)
    (h : j.voidAndStage voided staged digest = .ok j') : j'.OneWorking := by
  obtain ⟨hworking, hresolved⟩ := hanchored
  obtain ⟨persisted, hpersist, hstage⟩ := bind_ok.mp h
  refine (hone.shrinks (persistReceipt_shrinks hpersist)).stage (fun habsent => ?_) hstage
  obtain ⟨row, hrow, -, ⟨hdone, rfl⟩ | ⟨-, settled, hid, hsettled, rfl⟩⟩ := persistReceipt_ok hpersist
  · -- the target was resolved before: then one of the two writes is refused
    rcases hresolved (by simp [resolved, hrow, hdone]) with hrefused | hrefused
    · have hfalse := refusesReceipt_error hrefused
      rw [hpersist] at hfalse
      cases hfalse
    · have hfalse := refusesStaging_error hrefused
      rw [hstage] at hfalse
      cases hfalse
  · rw [← hid] at habsent ⊢
    refine List.eq_nil_iff_forall_not_mem.mpr fun row hrow => ?_
    obtain ⟨hold, hvoided⟩ := working_update hsettled row hrow
    rcases hworking row hold with heq | heq
    · exact hvoided (heq.trans hid.symm)
    · exact working_of_absent habsent row hrow heq

/-! ### Settlement -/

section Settlement

variable {sha256 : String → Digest} {barAt nextBar : PaperOrderCommand → Except PyError (Option PaperExecutionBar)}

theorem brokerSubmit_shrinks {j j' : Journal} {command : PaperOrderCommand} {receipt : PaperOrderReceipt}
    (hknown : j.row? command.id ≠ none) (h : brokerSubmit sha256 j command nextBar = .ok (receipt, j')) :
    j.Shrinks j' := by
  unfold brokerSubmit at h
  dsimp only at h
  split at h
  · split at h
    · cases h
    · cases h
      exact .refl _
  · obtain ⟨staged, hstage, h⟩ := bind_ok.mp h
    obtain ⟨executionBar, -, h⟩ := bind_ok.mp h
    obtain ⟨persisted, hpersist, h⟩ := bind_ok.mp h
    cases h
    obtain rfl := stageCommand_known hknown hstage
    exact persistReceipt_shrinks hpersist

theorem resolveEach_shrinks {commands : List PaperOrderCommand} {j j' : Journal} {receipts : List PaperOrderReceipt}
    (hknown : ∀ command ∈ commands, j.row? command.id ≠ none)
    (h : resolveEach sha256 barAt nextBar j commands = .ok (receipts, j')) : j.Shrinks j' := by
  induction commands generalizing j receipts with
  | nil =>
    cases h
    exact .refl _
  | cons command commands ih =>
    have hrest : ∀ other ∈ commands, j.row? other.id ≠ none := fun other hother =>
      hknown other (List.mem_cons_of_mem _ hother)
    unfold resolveEach at h
    obtain ⟨found, -, h⟩ := bind_ok.mp h
    cases found with
    | none => exact ih hrest h
    | some bar =>
      obtain ⟨⟨receipt, submitted⟩, hsubmit, h⟩ := bind_ok.mp h
      obtain ⟨⟨rest, resolved⟩, hresolve, h⟩ := bind_ok.mp h
      cases h
      have hshrinks := brokerSubmit_shrinks (hknown command List.mem_cons_self) hsubmit
      exact hshrinks.trans (ih (fun other hother habsent => hrest other hother ((hshrinks.known _).mp habsent)) hresolve)

theorem toCommand_id {row : PaperOrderRow} {command : PaperOrderCommand} (h : row.toCommand = .ok command) :
    command.id = row.commandId := by
  rw [PaperOrderTerms.command_ok h]

/-- The commands of a pass are staged. -/
theorem unresolvedCommands_known {j : Journal} {orderId : Option UUID} {commands : List PaperOrderCommand}
    (h : j.unresolvedCommands orderId = .ok commands) : ∀ command ∈ commands, j.row? command.id ≠ none := by
  intro command hcommand habsent
  obtain ⟨row, hrow, hto⟩ := mem_of_mapM_ok h hcommand
  exact Rows.lookup_eq_none.mp habsent row (List.mem_filter.mp hrow).1 (toCommand_id hto).symm

theorem settleSession_shrinks {applyToLedger : PaperOrderReceipt → Except PyError Unit} {j j' : Journal} {n : Nat}
    (h : settleSession sha256 barAt nextBar applyToLedger j = .ok (n, j')) : j.Shrinks j' := by
  unfold settleSession at h
  obtain ⟨⟨receipts, resolved⟩, hresolve, h⟩ := bind_ok.mp h
  obtain ⟨_, -, h⟩ := bind_ok.mp h
  cases h
  obtain ⟨commands, hcommands, hresolve⟩ := bind_ok.mp hresolve
  exact resolveEach_shrinks (unresolvedCommands_known hcommands) hresolve

end Settlement

end Journal

/-! ### Runs -/

section Runs

variable {sha256 : String → Digest}

theorem answerRead_world {α : Type} {j w : Journal} {x : Except PyError α} {choice : PaperChoice}
    {r : Except PyError α} (h : answerRead j x choice = some (w, r)) : w = j := by
  cases choice <;> cases h <;> rfl

/-- A writing session commits what its method returned, or nothing. -/
theorem answerWrite_world {α : Type} {j w : Journal} {x : Except PyError (α × Journal)} {choice : PaperChoice}
    {r : Except PyError α} (h : answerWrite j x choice = some (w, r)) : w = j ∨ ∃ a, x = .ok (a, w) := by
  cases choice with
  | failBefore e => cases h; exact .inl rfl
  | resolve => cases h
  | proceed =>
    cases x with
    | ok p => cases h; exact .inr ⟨p.1, rfl⟩
    | error e => cases h; exact .inl rfl
  | failAfter e =>
    cases x with
    | ok p => cases h; exact .inr ⟨p.1, rfl⟩
    | error e => cases h; exact .inl rfl

/-- A method that raises fails its session, which writes nothing. -/
theorem answerWrite_error {α : Type} {j w : Journal} {x : Except PyError (α × Journal)} {choice : PaperChoice}
    {r : Except PyError α} (hx : x.isOk = false) (h : answerWrite j x choice = some (w, r)) :
    w = j ∧ r.isOk = false := by
  cases x with
  | ok p => cases hx
  | error e => cases choice <;> cases h <;> exact ⟨rfl, rfl⟩

/-- One session keeps the law. -/
theorem answerPaper_one {j w : Journal} {o : PaperOp} {choice : PaperChoice} {r : Except PyError o.Result}
    (hone : j.OneWorking) (hanchored : o.Anchored j) (h : answerPaper sha256 j o choice = some (w, r)) :
    w.OneWorking := by
  have hkept : w = j → w.OneWorking := fun heq => heq ▸ hone
  cases o with
  | loadReceipt commandId => exact hkept (answerRead_world h)
  | unresolvedCommands orderId => exact hkept (answerRead_world h)
  | stagedCommand commandId => exact hkept (answerRead_world h)
  | stageCommand command digest =>
    obtain heq | ⟨_, hx⟩ := answerWrite_world h
    · exact hkept heq
    · obtain ⟨j', hstage, heq⟩ := exceptMap_ok.mp hx
      cases heq
      refine hone.stage (fun habsent => List.eq_nil_iff_forall_not_mem.mpr fun row hrow => ?_) hstage
      exact Journal.working_of_absent habsent row hrow (hanchored row hrow)
  | persistReceipt receipt =>
    obtain heq | ⟨_, hx⟩ := answerWrite_world h
    · exact hkept heq
    · obtain ⟨j', hpersist, heq⟩ := exceptMap_ok.mp hx
      cases heq
      exact hone.shrinks (Journal.persistReceipt_shrinks hpersist)
  | voidAndStage voided staged digest =>
    obtain heq | ⟨_, hx⟩ := answerWrite_world h
    · exact hkept heq
    · obtain ⟨j', hvoid, heq⟩ := exceptMap_ok.mp hx
      cases heq
      exact hone.voidAndStage hanchored hvoid
  | settle =>
    cases choice with
    | proceed => cases h
    | failAfter => cases h
    | failBefore e => cases h; exact hone
    | resolve barAt nextBar applyToLedger =>
      have hsession : answerWrite j (settleSession sha256 barAt nextBar applyToLedger j) .proceed = some (w, r) := h
      obtain heq | ⟨n, hsettle⟩ := answerWrite_world hsession
      · exact hkept heq
      · exact hone.shrinks (Journal.settleSession_shrinks hsettle)

/-- A write for a resolved command that is anchored is refused. -/
theorem answerPaper_refused {j w : Journal} {o : PaperOp} {choice : PaperChoice} {r : Except PyError o.Result}
    {target : UUID} (hanchored : o.Anchored j) (hvoids : o.voids = some target) (htarget : j.resolved target = true)
    (h : answerPaper sha256 j o choice = some (w, r)) : w = j ∧ r.isOk = false := by
  cases o with
  | persistReceipt receipt =>
    obtain rfl := Option.some.inj hvoids
    refine answerWrite_error ?_ h
    have hrefused := Journal.refusesReceipt_error (hanchored htarget)
    cases hpersist : j.persistReceipt receipt with
    | ok j' => rw [hpersist] at hrefused; cases hrefused
    | error e => rfl
  | voidAndStage voided staged digest =>
    obtain rfl := Option.some.inj hvoids
    refine answerWrite_error ?_ h
    cases hvoid : j.voidAndStage voided staged digest with
    | error e => rfl
    | ok j' =>
      obtain ⟨persisted, hpersist, hstage⟩ := bind_ok.mp hvoid
      rcases hanchored.2 htarget with hrefused | hrefused
      · have hfalse := Journal.refusesReceipt_error hrefused
        rw [hpersist] at hfalse
        cases hfalse
      · -- the target is resolved, so the receipt leaves the journal as it is
        obtain ⟨row, hrow, -, ⟨-, rfl⟩ | ⟨hunresolved, -⟩⟩ := Journal.persistReceipt_ok hpersist
        · have hfalse := Journal.refusesStaging_error hrefused
          rw [hstage] at hfalse
          cases hfalse
        · simp [Journal.resolved, hrow, hunresolved] at htarget
  | _ => cases hvoids

theorem step_one {account : PaperAccount} (c : PaperConfig) (e : PaperEvent) (hone : c.world.OneWorking)
    (hanchored : MovesAnchored c e) : ((paperPool sha256 account).step c e).world.OneWorking := by
  obtain heq | ⟨i, choice, o, r, rfl, hop, hanswer⟩ := (paperPool sha256 account).step_world c e
  · rw [heq]
    exact hone
  · exact answerPaper_one hone (hanchored o hop) hanswer

theorem movesRefused_of_anchored (c : PaperConfig) (e : PaperEvent) (hanchored : MovesAnchored c e) :
    MovesRefused sha256 c e := by
  cases e with
  | call k => trivial
  | crash => trivial
  | answer i choice => exact fun o hop target hvoids htarget a ha =>
      answerPaper_refused (hanchored o hop) hvoids htarget ha

end Runs

/-- In a run in which no cancel or replace writes for a resolved command, no order ever has two
working commands, and every write for a resolved one fails and changes nothing. -/
theorem working_command_unique (sha256 : String → Digest) (account : PaperAccount) (events : List PaperEvent)
    (hanchored : RunMeets (paperPool sha256 account).step MovesAnchored nothingStaged events) :
    (runFrom (paperPool sha256 account).step nothingStaged events).world.OneWorking ∧
      RunMeets (paperPool sha256 account).step (MovesRefused sha256) nothingStaged events := by
  constructor
  · have hinitial : nothingStaged.world.OneWorking := fun _ => Nat.zero_le 1
    exact run_invariant (I := fun c => c.world.OneWorking) step_one hinitial hanchored
  · exact hanchored.mono fun c e h => movesRefused_of_anchored c e h

/-! ### A stop that is moved after it filled -/

def paperUuid (n : Fin 256) : UUID :=
  ⟨7 * 2 ^ 76 + 2 * 2 ^ 62 + n, sampleInt_lt n⟩

/-- A stand-in for SHA-256 that tells the sample commands apart. -/
def textSum (text : String) : Digest :=
  text.toByteArray.data.toList.foldl (fun sum b => sum * 257 + BitVec.ofNat 256 b.toNat) 0

/-- A sale of two contracts, or a move of it, under order 0. -/
def paperSale (n : Fin 256) (commandType : CommandType) (authority : AuthorityClass) (target : Option String) :
    BrokerOrderCommand where
  id := paperUuid n
  orderId := paperUuid 0
  accountId := paperUuid 100
  instrumentId := paperUuid 101
  commandType := commandType
  targetAggregateVersion := 1
  idempotencyKey := ""
  commandSequence := 1
  canonicalPayloadHash := 0
  brokerClientOrderId := "stop-1"
  targetBrokerOrderId := target
  replacesCommandId := none
  originType := .protection
  authorityClass := authority
  ownerRuntimeInstanceId := none
  fencingToken := 1
  notAfter := 600000000
  side := .sell
  orderStyle := .market
  quantity := .ofNat 2
  limitPrice := none
  timeInForce := "NONE"
  triggerPrice := some (.ofNat 90)
  status := "PENDING"
  dispatchAttemptedAt := none

def paperMove (n target : Fin 256) : BrokerOrderCommand :=
  paperSale n .replace .replaceNonIncreasing (some (paperBrokerOrderId (paperUuid target)))

theorem zeroDecimal_nonneg : 0 ≤ zeroDecimal.toRat := by norm_num [zeroDecimal, Decimal.ofNat, Decimal.toRat]

theorem decimal_eighty_pos : 0 < (Decimal.ofNat 80).toRat := by norm_num [Decimal.ofNat, Decimal.toRat]

theorem decimal_two_nonneg : 0 ≤ (Decimal.ofNat 2).toRat := by norm_num [Decimal.ofNat, Decimal.toRat]

theorem binance_paper_bound : paperAccountBindings.lookup "internal-binance-usdm-paper" = some .binanceUsdm := rfl

theorem fiveMinutes_pos : (0 : Int) < 300000000 := by decide

def sampleAccount : PaperAccount where
  accountAlias := "internal-binance-usdm-paper"
  market := .binanceUsdm
  timeframe := 300000000
  feePerUnit := zeroDecimal
  slippagePerUnit := zeroDecimal
  bound := binance_paper_bound
  timeframe_pos := fiveMinutes_pos
  fee_nonneg := zeroDecimal_nonneg
  slippage_nonneg := zeroDecimal_nonneg

/-- A bar that trades at eighty only, with two contracts available. -/
def barAtEighty : PaperExecutionBar where
  bar :=
    { timestamp := 600000000
      open_ := .ofNat 80
      high := .ofNat 80
      low := .ofNat 80
      close := .ofNat 80
      volume := .ofNat 2
      low_pos := decimal_eighty_pos
      low_le_open := le_rfl
      open_le_high := le_rfl
      low_le_close := le_rfl
      close_le_high := le_rfl
      volume_nonneg := decimal_two_nonneg }
  availableQuantity := .ofNat 2
  sourceDigest := 0
  available_nonneg := decimal_two_nonneg

/-- A pass that finds the bar for every command. -/
def settleAtEighty (thread : Nat) : List PaperEvent :=
  [.call .settle, .answer thread (.resolve (fun _ => .ok (some barAtEighty)) (fun _ => .ok (some barAtEighty))
    fun _ => .ok ())]

/-- A move whose journal calls are answered one after another. -/
def moveStop (thread : Nat) (n target : Fin 256) : List PaperEvent :=
  [.call (.replace (paperMove n target)), .answer thread .proceed, .answer thread .proceed]

def placeStop : List PaperEvent :=
  [.call (.submit (paperSale 1 .submit .submitStrictReduction none)), .answer 0 .proceed]

/-- A settlement pass voids nothing. -/
theorem settle_anchored (sha256 : String → Digest) (account : PaperAccount) (c : PaperConfig)
    (choice : PaperChoice) :
    RunMeets (paperPool sha256 account).step MovesAnchored c
      [.call .settle, .answer c.threads.length choice] := by
  refine ⟨trivial, fun o ho => ?_, trivial⟩
  have hthread : ((paperPool sha256 account).step c (.call .settle)).threads[c.threads.length]? =
      some ((paperPool sha256 account).body .settle) := List.getElem?_concat_length
  rw [Pool.Config.operation?, hthread] at ho
  obtain rfl := Option.some.inj ho
  trivial

theorem moved_anchored :
    RunMeets (paperPool textSum sampleAccount).step MovesAnchored nothingStaged
      (placeStop ++ moveStop 1 2 1 ++ settleAtEighty 2) := by
  have hmoved : RunMeets (paperPool textSum sampleAccount).step MovesAnchored nothingStaged
      (placeStop ++ moveStop 1 2 1) := by
    decide +kernel
  have hthreads := Pool.run_threads (paperPool textSum sampleAccount) nothingStaged (placeStop ++ moveStop 1 2 1)
  have hsettle := settle_anchored textSum sampleAccount
    (runFrom (paperPool textSum sampleAccount).step nothingStaged (placeStop ++ moveStop 1 2 1))
    (.resolve (fun _ => .ok (some barAtEighty)) (fun _ => .ok (some barAtEighty)) fun _ => .ok ())
  rw [hthreads] at hsettle
  exact hmoved.append hsettle

/-- The stop is placed, moved once and then filled. -/
theorem working_command_unique_moved :
    (runFrom (paperPool textSum sampleAccount).step nothingStaged
        (placeStop ++ moveStop 1 2 1 ++ settleAtEighty 2)).world.OneWorking ∧
      RunMeets (paperPool textSum sampleAccount).step (MovesRefused textSum) nothingStaged
        (placeStop ++ moveStop 1 2 1 ++ settleAtEighty 2) :=
  working_command_unique textSum sampleAccount (placeStop ++ moveStop 1 2 1 ++ settleAtEighty 2) moved_anchored

/-- The stop fills, and the next two moves of it both stage a command: the order has two working
commands over a position that is gone. -/
theorem filled_stop_moved_twice :
    ¬∀ (account : PaperAccount) (events : List PaperEvent),
      (runFrom (paperPool textSum account).step nothingStaged events).world.OneWorking ∧
        RunMeets (paperPool textSum account).step (MovesRefused textSum) nothingStaged events := by
  intro h
  have hone := (h sampleAccount (placeStop ++ settleAtEighty 1 ++ moveStop 2 2 1 ++ moveStop 3 3 1)).1 (paperUuid 0)
  have htwo : ((runFrom (paperPool textSum sampleAccount).step nothingStaged
      (placeStop ++ settleAtEighty 1 ++ moveStop 2 2 1 ++ moveStop 3 3 1)).world.working (paperUuid 0)).length = 2 := by
    decide +kernel
  omega

end AutoTrader.Paper
