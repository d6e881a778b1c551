import AutoTrader.Paper.CommandIdentity
import AutoTrader.Paper.FillSoundness
import AutoTrader.Paper.WorkingCommands
import AutoTrader.Runtime.Runs

/-! The receipts of a command over any calls on the journal. A command is resolved once, by a receipt that was handed in
or by a fill; what the journal keeps of the receipt is answered from then on, and a command under the same id with
another digest is refused. -/

namespace AutoTrader.Paper

open AutoTrader.Domain AutoTrader.Execution AutoTrader.Numeric AutoTrader.Runtime

/-! ### Calls -/

/-- A call on the journal: of its own methods, of the broker, or a settlement pass. -/
inductive JournalCall
  | stage (command : PaperOrderCommand) (digest : Digest)
  | persist (receipt : PaperOrderReceipt)
  | voidAndStage (voided : PaperOrderReceipt) (staged : PaperOrderCommand) (digest : Digest)
  | submit (command : PaperOrderCommand) (nextBar : PaperOrderCommand → Except PyError (Option PaperExecutionBar))
  | resolve (orderId : Option UUID) (barAt nextBar : PaperOrderCommand → Except PyError (Option PaperExecutionBar))

/-- The receipt a call hands in. -/
def JournalCall.hands : JournalCall → Option PaperOrderReceipt
  | .persist receipt => some receipt
  | .voidAndStage voided _ _ => some voided
  | _ => none

section Calls

variable (sha256 : String → Digest)

def JournalCall.run (j : Journal) : JournalCall → Except PyError Journal
  | .stage command digest => j.stageCommand command digest
  | .persist receipt => j.persistReceipt receipt
  | .voidAndStage voided staged digest => j.voidAndStage voided staged digest
  | .submit command nextBar => (brokerSubmit sha256 j command nextBar).map Prod.snd
  | .resolve orderId barAt nextBar => (resolvePaperFills sha256 barAt nextBar j orderId).map Prod.snd

/-- The journal after a call, which an exception leaves as it was. -/
def Journal.after (j : Journal) (call : JournalCall) : Journal :=
  match call.run sha256 j with
  | .ok j' => j'
  | .error _ => j

end Calls

/-! ### What the journal keeps -/

/-- The columns a receipt is kept in. -/
def PaperOrderReceipt.columns (receipt : PaperOrderReceipt) : PaperSettlement where
  status := receipt.status
  filledQuantity := receipt.filledQuantity.column
  remainingQuantity := receipt.remainingQuantity.column
  fillPrice := receipt.fillPrice.map Decimal.column
  fee := receipt.fee.column
  slippageCost := receipt.slippageCost.column
  filledAt := receipt.filledAt
  reasonCode := receipt.reasonCode
  sourceDigest := receipt.sourceDigest

/-- The receipt of a command as it is read back. -/
def PaperOrderReceipt.keptFor (command : PaperOrderCommand) (receipt : PaperOrderReceipt) : PaperOrderReceipt where
  commandId := command.id
  orderId := command.orderId
  status := receipt.status
  requestedQuantity := command.quantity.column
  filledQuantity := receipt.filledQuantity.column
  remainingQuantity := receipt.remainingQuantity.column
  fillPrice := receipt.fillPrice.map Decimal.column
  fee := receipt.fee.column
  slippageCost := receipt.slippageCost.column
  filledAt := receipt.filledAt
  reasonCode := receipt.reasonCode
  sourceDigest := receipt.sourceDigest
  commandDigest := receipt.commandDigest

/-- The terms of a row that no call changes. -/
structure PaperOrderRow.SameTerms (row row' : PaperOrderRow) : Prop where
  commandId : row'.commandId = row.commandId
  orderId : row'.orderId = row.orderId
  quantity : row'.quantity = row.quantity
  commandDigest : row'.commandDigest = row.commandDigest

theorem storeDecimal_column {d stored : Decimal} (h : storeDecimal d = .ok stored) : stored = d.column := by
  unfold storeDecimal at h
  split at h <;> cases h
  rfl

theorem storeOptional_column {d stored : Option Decimal} (h : storeOptional d = .ok stored) :
    stored = d.map Decimal.column := by
  cases d with
  | none => cases h; rfl
  | some d =>
    obtain ⟨column, hcolumn, rfl⟩ := exceptMap_ok.mp h
    rw [storeDecimal_column hcolumn]
    rfl

/-- A row that took a receipt keeps its terms and has the columns of the receipt. -/
theorem settle_columns {row settled : PaperOrderRow} {receipt : PaperOrderReceipt} (h : row.settle receipt = .ok settled) :
    row.SameTerms settled ∧ settled.settlement = some receipt.columns := by
  unfold PaperOrderRow.settle at h
  obtain ⟨filledQuantity, hfilled, h⟩ := bind_ok.mp h
  obtain ⟨remainingQuantity, hremaining, h⟩ := bind_ok.mp h
  obtain ⟨fillPrice, hprice, h⟩ := bind_ok.mp h
  obtain ⟨fee, hfee, h⟩ := bind_ok.mp h
  obtain ⟨slippageCost, hslippage, h⟩ := bind_ok.mp h
  obtain rfl := storeDecimal_column hfilled
  obtain rfl := storeDecimal_column hremaining
  obtain rfl := storeOptional_column hprice
  obtain rfl := storeDecimal_column hfee
  obtain rfl := storeDecimal_column hslippage
  dsimp only at h
  split at h <;> cases h
  exact ⟨⟨rfl, rfl, rfl, rfl⟩, rfl⟩

/-- The row of a new command has its terms, and nothing has resolved it. -/
theorem stagedRow_terms {command : PaperOrderCommand} {digest : Digest} {row : PaperOrderRow}
    (h : stagedRow command digest = .ok row) :
    row.commandId = command.id ∧ row.orderId = command.orderId ∧ row.quantity = command.quantity.column ∧
      row.commandDigest = digest ∧ row.settlement = none := by
  unfold stagedRow at h
  obtain ⟨quantity, hquantity, h⟩ := bind_ok.mp h
  obtain ⟨limitPrice, -, h⟩ := bind_ok.mp h
  obtain ⟨triggerPrice, -, h⟩ := bind_ok.mp h
  obtain ⟨feePerUnit, -, h⟩ := bind_ok.mp h
  obtain ⟨slippagePerUnit, -, h⟩ := bind_ok.mp h
  dsimp only at h
  split at h <;> cases h
  exact ⟨rfl, rfl, storeDecimal_column hquantity, rfl, rfl⟩

/-! ### One row -/

section Row

variable (sha256 : String → Digest) (handed : PaperOrderReceipt → Prop)

/-- Where a receipt can come from. -/
def Source (receipt : PaperOrderReceipt) : Prop :=
  handed receipt ∨ ∃ command bar, receipt = fill command (command.commandDigest sha256) bar

/-- What happens to a row: nothing, or it takes its receipt. -/
def RowStep (row row' : PaperOrderRow) : Prop :=
  row' = row ∨ row.unresolved = true ∧ ∃ receipt, Source sha256 handed receipt ∧ receipt.commandId = row.commandId ∧
    receipt.commandDigest = row.commandDigest ∧ row.settle receipt = .ok row'

/-- Every row is there after, and took one step. -/
def Journal.Moves (j j' : Journal) : Prop :=
  ∀ id row, j.row? id = some row → ∃ row', j'.row? id = some row' ∧ RowStep sha256 handed row row'

end Row

section Moves

variable {sha256 : String → Digest} {handed : PaperOrderReceipt → Prop} {j j' j'' : Journal}

theorem RowStep.sameTerms {row row' : PaperOrderRow} (h : RowStep sha256 handed row row') : row.SameTerms row' := by
  rcases h with rfl | ⟨-, receipt, -, -, -, hsettle⟩
  · exact ⟨rfl, rfl, rfl, rfl⟩
  · exact (settle_columns hsettle).1

theorem RowStep.resolved {row row' : PaperOrderRow} (h : RowStep sha256 handed row row') (hresolved : row.unresolved = false) :
    row' = row := by
  rcases h with heq | ⟨hunresolved, -⟩
  · exact heq
  · rw [hresolved] at hunresolved
    cases hunresolved

theorem RowStep.trans {row row' row'' : PaperOrderRow} (h : RowStep sha256 handed row row')
    (h' : RowStep sha256 handed row' row'') : RowStep sha256 handed row row'' := by
  rcases h with rfl | ⟨hunresolved, receipt, hsource, hid, hdigest, hsettle⟩
  · exact h'
  · obtain rfl := h'.resolved (Journal.settle_ok hsettle).2
    exact .inr ⟨hunresolved, receipt, hsource, hid, hdigest, hsettle⟩

namespace Journal

theorem Moves.refl (j : Journal) : j.Moves sha256 handed j := fun _ row hrow => ⟨row, hrow, .inl rfl⟩

theorem Moves.trans (h : j.Moves sha256 handed j') (h' : j'.Moves sha256 handed j'') : j.Moves sha256 handed j'' := by
  intro id row hrow
  obtain ⟨row', hrow', hstep⟩ := h id row hrow
  obtain ⟨row'', hrow'', hstep'⟩ := h' id row' hrow'
  exact ⟨row'', hrow'', hstep.trans hstep'⟩

theorem stageCommand_moves {command : PaperOrderCommand} {digest : Digest} (h : j.stageCommand command digest = .ok j') :
    j.Moves sha256 handed j' := by
  obtain ⟨existing, -, -, rfl⟩ | ⟨-, new, -, rfl⟩ := stageCommand_ok h
  · exact .refl _
  · intro id row hrow
    refine ⟨row, ?_, .inl rfl⟩
    unfold row? Rows.lookup at hrow ⊢
    rw [List.find?_append, hrow, Option.some_or]

/-- A receipt that is taken steps one row. -/
theorem persistReceipt_moves {receipt : PaperOrderReceipt} (hsource : Source sha256 handed receipt)
    (h : j.persistReceipt receipt = .ok j') : j.Moves sha256 handed j' := by
  unfold persistReceipt at h
  split at h
  · cases h
  · rename_i old hold
    have hkey : old.commandId = receipt.commandId := Rows.lookup_key hold
    split at h
    · cases h
    · rename_i hdigest
      split at h
      · cases h
        exact .refl _
      · rename_i hunsettled
        obtain ⟨settled, hsettle, rfl⟩ := exceptMap_ok.mp h
        have hid : settled.commandId = receipt.commandId := (settle_ok hsettle).1.trans hkey
        intro id row hrow
        rw [← hid, row?, Rows.lookup_put]
        rw [row?] at hrow
        rw [hrow, Option.map_some, hid]
        by_cases heq : id = receipt.commandId
        · subst heq
          obtain rfl : row = old := Option.some.inj (hrow.symm.trans hold)
          refine ⟨settled, by rw [if_pos rfl], .inr ⟨?_, receipt, hsource, hkey.symm, (not_not.mp hdigest).symm, hsettle⟩⟩
          simpa [PaperOrderRow.unresolved] using hunsettled
        · exact ⟨row, by rw [if_neg heq], .inl rfl⟩

variable {barAt nextBar : PaperOrderCommand → Except PyError (Option PaperExecutionBar)}

/-- What a submission that returns did: it answered the receipt that was there, or it filled the command. -/
theorem brokerSubmit_ok {command : PaperOrderCommand} {receipt : PaperOrderReceipt}
    (h : brokerSubmit sha256 j command nextBar = .ok (receipt, j')) :
    (j.loadReceipt command.id = some receipt ∧ receipt.commandDigest = command.commandDigest sha256 ∧ j' = j) ∨
      (j.loadReceipt command.id = none ∧ ∃ bar staged, nextBar command = .ok bar ∧
        receipt = fill command (command.commandDigest sha256) bar ∧
        j.stageCommand command (command.commandDigest sha256) = .ok staged ∧ staged.persistReceipt receipt = .ok j') := by
  unfold brokerSubmit at h
  dsimp only at h
  split at h
  next existing hexisting =>
    split at h
    next => cases h
    next hdigest =>
      cases h
      exact .inl ⟨hexisting, not_not.mp hdigest, rfl⟩
  next hnone =>
    obtain ⟨staged, hstage, h⟩ := bind_ok.mp h
    obtain ⟨bar, hbar, h⟩ := bind_ok.mp h
    obtain ⟨persisted, hpersist, h⟩ := bind_ok.mp h
    cases h
    exact .inr ⟨hnone, bar, staged, hbar, rfl, hstage, hpersist⟩

theorem brokerSubmit_moves {command : PaperOrderCommand} {receipt : PaperOrderReceipt}
    (h : brokerSubmit sha256 j command nextBar = .ok (receipt, j')) : j.Moves sha256 handed j' := by
  obtain ⟨-, -, rfl⟩ | ⟨-, bar, staged, -, rfl, hstage, hpersist⟩ := brokerSubmit_ok h
  · exact .refl _
  · exact (stageCommand_moves hstage).trans (persistReceipt_moves (.inr ⟨command, bar, rfl⟩) hpersist)

theorem resolveEach_moves {commands : List PaperOrderCommand} {receipts : List PaperOrderReceipt}
    (h : resolveEach sha256 barAt nextBar j commands = .ok (receipts, j')) : j.Moves sha256 handed j' := by
  induction commands generalizing j receipts with
  | nil =>
    cases h
    exact .refl _
  | cons command commands ih =>
    unfold resolveEach at h
    obtain ⟨found, -, h⟩ := bind_ok.mp h
    cases found with
    | none => exact ih h
    | some bar =>
      obtain ⟨⟨receipt, submitted⟩, hsubmit, h⟩ := bind_ok.mp h
      obtain ⟨⟨rest, resolved⟩, hresolve, h⟩ := bind_ok.mp h
      cases h
      exact (brokerSubmit_moves hsubmit).trans (ih hresolve)

/-- Every call steps each row at most once. -/
theorem after_moves (j : Journal) {call : JournalCall} (hhands : ∀ receipt ∈ call.hands, handed receipt) :
    j.Moves sha256 handed (j.after sha256 call) := by
  unfold after
  cases hrun : call.run sha256 j with
  | error e => exact .refl j
  | ok j' =>
    cases call with
    | stage command digest => exact stageCommand_moves hrun
    | persist receipt => exact persistReceipt_moves (.inl (hhands receipt rfl)) hrun
    | voidAndStage voided staged digest =>
      obtain ⟨persisted, hpersist, hstage⟩ := bind_ok.mp hrun
      exact (persistReceipt_moves (.inl (hhands voided rfl)) hpersist).trans (stageCommand_moves hstage)
    | submit command nextBar =>
      obtain ⟨⟨receipt, submitted⟩, hsubmit, rfl⟩ := exceptMap_ok.mp hrun
      exact brokerSubmit_moves hsubmit
    | resolve orderId barAt nextBar =>
      obtain ⟨⟨receipts, resolved⟩, hresolve, rfl⟩ := exceptMap_ok.mp hrun
      obtain ⟨commands, -, hresolve⟩ := bind_ok.mp hresolve
      exact resolveEach_moves hresolve

/-- And so does every run. -/
theorem run_moves (j : Journal) {calls : List JournalCall}
    (hhands : ∀ call ∈ calls, ∀ receipt ∈ call.hands, handed receipt) :
    j.Moves sha256 handed (runFrom (after sha256) j calls) := by
  induction calls generalizing j with
  | nil => exact .refl j
  | cons call calls ih =>
    obtain ⟨hcall, hcalls⟩ := List.forall_mem_cons.mp hhands
    exact (after_moves j hcall).trans (ih (j.after sha256 call) hcalls)

end Journal

end Moves

/-! ### One command -/

/-- The row of a staged command. -/
structure RowOf (sha256 : String → Digest) (command : PaperOrderCommand) (row : PaperOrderRow) : Prop where
  commandId : row.commandId = command.id
  orderId : row.orderId = command.orderId
  quantity : row.quantity = command.quantity.column
  commandDigest : row.commandDigest = command.commandDigest sha256

/-- Every number of a receipt. -/
def PaperOrderReceipt.numbers (receipt : PaperOrderReceipt) : List Decimal :=
  [receipt.requestedQuantity, receipt.filledQuantity, receipt.remainingQuantity, receipt.fee, receipt.slippageCost] ++
    receipt.fillPrice.toList

/-- The same receipt, with numbers compared by their value. -/
structure PaperOrderReceipt.Agrees (a b : PaperOrderReceipt) : Prop where
  command : a.commandId = b.commandId ∧ a.orderId = b.orderId ∧ a.commandDigest = b.commandDigest
  outcome : a.status = b.status ∧ a.filledAt = b.filledAt ∧ a.reasonCode = b.reasonCode ∧ a.sourceDigest = b.sourceDigest
  numbers : a.numbers.map Decimal.toRat = b.numbers.map Decimal.toRat

/-- Two commands under one digest, though their texts differ. -/
def Collides (sha256 : String → Digest) (a b : PaperOrderCommand) : Prop :=
  a.digestText ≠ b.digestText ∧ a.commandDigest sha256 = b.commandDigest sha256

section Command

variable {sha256 : String → Digest} {handed : PaperOrderReceipt → Prop} {j j' : Journal} {command : PaperOrderCommand}
  {row row' : PaperOrderRow}

theorem RowOf.step (h : RowOf sha256 command row) (hstep : RowStep sha256 handed row row') : RowOf sha256 command row' := by
  have hterms := hstep.sameTerms
  exact ⟨hterms.commandId.trans h.commandId, hterms.orderId.trans h.orderId, hterms.quantity.trans h.quantity,
    hterms.commandDigest.trans h.commandDigest⟩

theorem RowOf.kept (h : RowOf sha256 command row) {receipt : PaperOrderReceipt}
    (hdigest : receipt.commandDigest = command.commandDigest sha256) :
    row.toReceipt receipt.columns = receipt.keptFor command := by
  unfold PaperOrderRow.toReceipt PaperOrderReceipt.columns PaperOrderReceipt.keptFor
  rw [h.commandId, h.orderId, h.quantity, h.commandDigest, hdigest]

namespace Journal

theorem loadReceipt_row {id : UUID} (hrow : j.row? id = some row) : j.loadReceipt id = row.settlement.map row.toReceipt := by
  rw [loadReceipt, hrow, Option.bind_some]

theorem staged_row (hnew : j.row? command.id = none)
    (hstage : j.stageCommand command (command.commandDigest sha256) = .ok j') :
    ∃ row, j'.row? command.id = some row ∧ RowOf sha256 command row ∧ row.unresolved = true := by
  obtain ⟨existing, hexisting, -⟩ | ⟨-, row, hrow, rfl⟩ := stageCommand_ok hstage
  · rw [hnew] at hexisting
    cases hexisting
  · obtain ⟨hid, horder, hquantity, hdigest, hunsettled⟩ := stagedRow_terms hrow
    refine ⟨row, ?_, ⟨hid, horder, hquantity, hdigest⟩, by rw [PaperOrderRow.unresolved, hunsettled]; rfl⟩
    have habsent : Rows.lookup PaperOrderRow.commandId j row.commandId = none := by
      rw [hid]
      exact hnew
    rw [row?, Rows.lookup_add habsent, if_pos hid.symm]

/-- The row of a command after any calls: as it was staged, or with the one receipt it took. -/
theorem row_after (hrow : j.row? command.id = some row) (hof : RowOf sha256 command row) (hunresolved : row.unresolved = true)
    {calls : List JournalCall} (hhands : ∀ call ∈ calls, ∀ receipt ∈ call.hands, handed receipt) :
    ∃ row', (runFrom (after sha256) j calls).row? command.id = some row' ∧ RowOf sha256 command row' ∧
      (row'.settlement = none ∨ ∃ receipt, Source sha256 handed receipt ∧ receipt.commandId = command.id ∧
        receipt.commandDigest = command.commandDigest sha256 ∧ row'.settlement = some receipt.columns) := by
  obtain ⟨row', hrow', hstep⟩ := run_moves j hhands command.id row hrow
  refine ⟨row', hrow', hof.step hstep, ?_⟩
  rcases hstep with rfl | ⟨-, receipt, hsource, hid, hdigest, hsettle⟩
  · exact .inl (Option.isNone_iff_eq_none.mp hunresolved)
  · exact .inr ⟨receipt, hsource, hid.trans hof.commandId, hdigest.trans hof.commandDigest, (settle_columns hsettle).2⟩

/-- A receipt that is kept is kept by every later journal. -/
theorem loadReceipt_run {id : UUID} {kept : PaperOrderReceipt} (h : j.loadReceipt id = some kept)
    (calls : List JournalCall) : (runFrom (after sha256) j calls).loadReceipt id = some kept := by
  obtain ⟨row, hrow, hmap⟩ := Option.bind_eq_some_iff.mp h
  obtain ⟨s, hs, rfl⟩ := Option.map_eq_some_iff.mp hmap
  have hmoves : j.Moves sha256 (fun _ => True) (runFrom (after sha256) j calls) := run_moves j fun _ _ _ _ => trivial
  obtain ⟨row', hrow', hstep⟩ := hmoves id row hrow
  have hresolved : row.unresolved = false := by rw [PaperOrderRow.unresolved, hs]; rfl
  obtain rfl := hstep.resolved hresolved
  rw [loadReceipt_row hrow', hs]
  rfl

/-- The receipt an unresolved command is filled with, as the journal keeps it. -/
theorem brokerSubmit_keeps (hrow : j.row? command.id = some row) (hof : RowOf sha256 command row)
    (hunsettled : row.settlement = none) {nextBar : PaperOrderCommand → Except PyError (Option PaperExecutionBar)}
    {receipt : PaperOrderReceipt} (h : brokerSubmit sha256 j command nextBar = .ok (receipt, j')) :
    ∃ bar, nextBar command = .ok bar ∧ receipt = fill command (command.commandDigest sha256) bar ∧
      j'.loadReceipt command.id = some (receipt.keptFor command) := by
  obtain ⟨hloaded, -⟩ | ⟨-, bar, staged, hbar, rfl, hstage, hpersist⟩ := brokerSubmit_ok h
  · rw [loadReceipt_row hrow, hunsettled] at hloaded
    cases hloaded
  refine ⟨bar, hbar, rfl, ?_⟩
  obtain ⟨hid, -, hdigest⟩ := fill_identity command (command.commandDigest sha256) bar
  have hknown : j.row? command.id ≠ none := by
    rw [hrow]
    exact Option.some_ne_none row
  obtain rfl := stageCommand_known hknown hstage
  unfold persistReceipt at hpersist
  rw [hid, hrow, hdigest] at hpersist
  dsimp only at hpersist
  rw [if_neg (not_not.mpr hof.commandDigest), hunsettled] at hpersist
  obtain ⟨settled, hsettle, rfl⟩ := exceptMap_ok.mp hpersist
  obtain ⟨hterms, hcolumns⟩ := settle_columns hsettle
  have hsettledId : settled.commandId = command.id := hterms.commandId.trans hof.commandId
  have hsettled : RowOf sha256 command settled :=
    ⟨hsettledId, hterms.orderId.trans hof.orderId, hterms.quantity.trans hof.quantity,
      hterms.commandDigest.trans hof.commandDigest⟩
  have hfound : row? (Rows.update PaperOrderRow.commandId staged command.id fun _ => settled) command.id = some settled := by
    rw [row?] at hrow ⊢
    rw [← hsettledId, Rows.lookup_put, hsettledId, hrow, Option.map_some, if_pos rfl]
  rw [loadReceipt_row hfound, hcolumns, Option.map_some, hsettled.kept hdigest]

/-- A command of the same digest is answered what the journal keeps, and one of another digest is refused. -/
theorem brokerSubmit_again (hrow : j.row? command.id = some row) (hof : RowOf sha256 command row)
    {other : PaperOrderCommand} (hid : other.id = command.id)
    (nextBar : PaperOrderCommand → Except PyError (Option PaperExecutionBar)) :
    (∀ kept, j.loadReceipt command.id = some kept → other.commandDigest sha256 = command.commandDigest sha256 →
        brokerSubmit sha256 j other nextBar = .ok (kept, j)) ∧
      (other.commandDigest sha256 ≠ command.commandDigest sha256 →
        brokerSubmit sha256 j other nextBar = .error ⟨.valueError, "paper command identity payload collision"⟩) := by
  have hkept : ∀ kept, j.loadReceipt command.id = some kept → kept.commandDigest = command.commandDigest sha256 := by
    intro kept hkept
    rw [loadReceipt_row hrow] at hkept
    obtain ⟨s, -, rfl⟩ := Option.map_eq_some_iff.mp hkept
    exact hof.commandDigest
  unfold brokerSubmit
  dsimp only
  rw [hid]
  refine ⟨fun kept hloaded hsame => ?_, fun hdiffers => ?_⟩
  · rw [hloaded]
    dsimp only
    rw [if_neg (not_not.mpr ((hkept kept hloaded).trans hsame.symm))]
  · cases hloaded : j.loadReceipt command.id with
    | some kept =>
      dsimp only
      rw [if_pos fun hsame => hdiffers (hsame.symm.trans (hkept kept hloaded))]
      rfl
    | none =>
      dsimp only
      unfold stageCommand
      rw [hid, hrow]
      dsimp only
      rw [if_pos fun hsame => hdiffers (hsame.symm.trans hof.commandDigest)]
      rfl

end Journal

/-- A receipt whose numbers are values of the columns is kept as it is. -/
theorem PaperOrderReceipt.keptFor_agrees {receipt : PaperOrderReceipt}
    (hcommand : receipt.commandId = command.id ∧ receipt.orderId = command.orderId ∧
      receipt.requestedQuantity = command.quantity)
    (hfits : ∀ d ∈ receipt.numbers, OnGrid 38 (-18) d.toRat) : (receipt.keptFor command).Agrees receipt := by
  obtain ⟨hid, horder, hquantity⟩ := hcommand
  have hnumbers : (receipt.keptFor command).numbers = receipt.numbers.map Decimal.column := by
    unfold keptFor numbers
    cases receipt.fillPrice <;> simp [hquantity]
  refine ⟨⟨hid.symm, horder.symm, rfl⟩, ⟨rfl, rfl, rfl, rfl⟩, ?_⟩
  rw [hnumbers, List.map_map]
  exact List.map_congr_left fun d hd => Decimal.toRat_column (hfits d hd)

end Command

/-- Fills of a staged command, over any calls of anyone in between: it is resolved once, and what it is resolved with is
kept from then on and adds up; the resolution was handed in or is a sound fill; and the identity of the command is held
against every other command under its id. -/
theorem paper_fill_soundness (sha256 : String → Digest) {j staged : Journal} {command : PaperOrderCommand}
    (hnew : j.row? command.id = none) (hstage : j.stageCommand command (command.commandDigest sha256) = .ok staged)
    (calls : List JournalCall) :
    let later := runFrom (Journal.after sha256) staged calls
    (∀ kept, later.loadReceipt command.id = some kept →
      (∀ more, (runFrom (Journal.after sha256) later more).loadReceipt command.id = some kept) ∧
      (0 ≤ kept.filledQuantity.toRat ∧ 0 ≤ kept.remainingQuantity.toRat ∧
        kept.filledQuantity.toRat + kept.remainingQuantity.toRat = kept.requestedQuantity.toRat) ∧
      ∃ receipt, kept = receipt.keptFor command ∧
        ((∃ call ∈ calls, receipt ∈ call.hands) ∨ ∃ filled bar, filled.id = command.id ∧
          filled.commandDigest sha256 = command.commandDigest sha256 ∧
          receipt = fill filled (filled.commandDigest sha256) bar ∧ FillSound filled bar receipt)) ∧
    (∀ nextBar receipt submitted, brokerSubmit sha256 later command nextBar = .ok (receipt, submitted) →
      (later.loadReceipt command.id = some receipt ∧ submitted = later) ∨
        (later.loadReceipt command.id = none ∧ submitted.loadReceipt command.id = some (receipt.keptFor command) ∧
          ((∀ d ∈ receipt.numbers, OnGrid 38 (-18) d.toRat) → (receipt.keptFor command).Agrees receipt) ∧
          ∃ bar, nextBar command = .ok bar ∧ receipt = fill command (command.commandDigest sha256) bar ∧
            FillSound command bar receipt)) ∧
    (∀ (other : PaperOrderCommand) nextBar, other.Matches command.toPaperOrderTerms →
      ∀ kept, later.loadReceipt command.id = some kept → brokerSubmit sha256 later other nextBar = .ok (kept, later)) ∧
    ∀ (other : PaperOrderCommand) nextBar, other.id = command.id → ¬other.Matches command.toPaperOrderTerms →
      other.Representable → command.Representable → ¬Collides sha256 other command →
        brokerSubmit sha256 later other nextBar = .error ⟨.valueError, "paper command identity payload collision"⟩ := by
  obtain ⟨row, hrow, hof, hunresolved⟩ := Journal.staged_row hnew hstage
  obtain ⟨row', hrow', hof', hsettlement⟩ :=
    Journal.row_after hrow hof hunresolved fun call hcall receipt hreceipt =>
      (⟨call, hcall, hreceipt⟩ : ∃ call ∈ calls, receipt ∈ call.hands)
  intro later
  refine ⟨fun kept hkept => ?_, fun nextBar receipt submitted hsubmit => ?_, fun other nextBar hmatches kept hkept => ?_,
    fun other nextBar hid hdiffers hother hcommand hcollides => ?_⟩
  · refine ⟨fun more => Journal.loadReceipt_run hkept more, ?_⟩
    rw [Journal.loadReceipt_row hrow'] at hkept
    obtain ⟨s, hs, rfl⟩ := Option.map_eq_some_iff.mp hkept
    obtain ⟨⟨hfilled, hremaining, -, -, hsum⟩, -⟩ := row'.receipt s hs
    refine ⟨⟨hfilled, hremaining, hsum⟩, ?_⟩
    rcases hsettlement with hnone | ⟨receipt, hsource, hid, hdigest, hcolumns⟩
    · rw [hnone] at hs
      cases hs
    · obtain rfl := Option.some.inj (hs.symm.trans hcolumns)
      refine ⟨receipt, hof'.kept hdigest, hsource.imp_right ?_⟩
      rintro ⟨filled, bar, rfl⟩
      obtain ⟨hfilledId, -, hfilledDigest⟩ := fill_identity filled (filled.commandDigest sha256) bar
      exact ⟨filled, bar, hfilledId.symm.trans hid, hfilledDigest.symm.trans hdigest, rfl, fill_sound ..⟩
  · rcases hsettlement with hnone | ⟨settledReceipt, -, -, -, hcolumns⟩
    · obtain ⟨bar, hbar, rfl, hkept⟩ := Journal.brokerSubmit_keeps hrow' hof' hnone hsubmit
      have hsound := fill_sound command (command.commandDigest sha256) bar
      exact .inr ⟨by rw [Journal.loadReceipt_row hrow', hnone]; rfl, hkept,
        PaperOrderReceipt.keptFor_agrees hsound.identity, bar, hbar, rfl, hsound⟩
    · obtain ⟨hloaded, -, rfl⟩ | ⟨hnone, -⟩ := Journal.brokerSubmit_ok hsubmit
      · exact .inl ⟨hloaded, rfl⟩
      · rw [Journal.loadReceipt_row hrow', hcolumns] at hnone
        cases hnone
  · have hsame : other.commandDigest sha256 = command.commandDigest sha256 := by
      rw [PaperOrderTerms.commandDigest_eq, PaperOrderTerms.commandDigest_eq, PaperOrderTerms.digestText,
        PaperOrderTerms.digestText, PaperOrderTerms.payload_of_matches hmatches]
    exact (Journal.brokerSubmit_again hrow' hof' hmatches.id nextBar).1 kept hkept hsame
  · refine (Journal.brokerSubmit_again hrow' hof' hid nextBar).2 fun hsame => hdiffers ?_
    exact PaperOrderTerms.matches_of_digestText hother hcommand (not_not.mp fun htext => hcollides ⟨htext, hsame⟩)

/-! ### A fee below the last column -/

/-- A ten-billionth, which the fee and the liquidity are. -/
def tenBillionth : Decimal := ⟨false, 1, -10⟩

theorem tenBillionth_nonneg : 0 ≤ tenBillionth.toRat := by norm_num [tenBillionth, Decimal.toRat]

theorem decimal_one_pos : 0 < (Decimal.ofNat 1).toRat := by norm_num [Decimal.ofNat, Decimal.toRat]

theorem paperUuid_isVersion7 (n : Fin 256) : (paperUuid n).isVersion7 := by
  have hn := n.isLt
  simp only [UUID.isVersion7, paperUuid, Bool.and_eq_true, decide_eq_true_eq]
  constructor <;> norm_num <;> omega

/-- A market purchase on the internal account passes the constructor. -/
theorem purchaseTerms_valid {quantity feePerUnit : Decimal} {timeframe : Int} (hquantity : 0 < quantity.toRat)
    (htimeframe : 0 < timeframe) (hfee : 0 ≤ feePerUnit.toRat) :
    PaperOrderTerms.validate
      { id := paperUuid 1
        orderId := paperUuid 0
        accountAlias := "internal-binance-usdm-paper"
        market := .binanceUsdm
        side := .buy
        orderStyle := .market
        quantity := quantity
        limitPrice := none
        signalAt := 300000000
        timeframe := timeframe
        feePerUnit := feePerUnit
        slippagePerUnit := zeroDecimal
        triggerPrice := none } = .ok () :=
  PaperOrderTerms.validate_ok.mpr
    { id := paperUuid_isVersion7 1
      orderId := paperUuid_isVersion7 0
      bound := binance_paper_bound
      quantity_pos := hquantity
      limit := rfl
      timeframe_pos := htimeframe
      fee_nonneg := hfee
      slippage_nonneg := zeroDecimal_nonneg
      trigger := rfl }

theorem thinTerms_valid : PaperOrderTerms.validate
    { id := paperUuid 1
      orderId := paperUuid 0
      accountAlias := "internal-binance-usdm-paper"
      market := .binanceUsdm
      side := .buy
      orderStyle := .market
      quantity := .ofNat 1
      limitPrice := none
      signalAt := 300000000
      timeframe := 300000000
      feePerUnit := tenBillionth
      slippagePerUnit := zeroDecimal
      triggerPrice := none } = .ok () := by
  exact purchaseTerms_valid decimal_one_pos fiveMinutes_pos tenBillionth_nonneg

/-- A purchase of one contract. -/
def thinBuy : PaperOrderCommand where
  id := paperUuid 1
  orderId := paperUuid 0
  accountAlias := "internal-binance-usdm-paper"
  market := .binanceUsdm
  side := .buy
  orderStyle := .market
  quantity := .ofNat 1
  limitPrice := none
  signalAt := 300000000
  timeframe := 300000000
  feePerUnit := tenBillionth
  slippagePerUnit := zeroDecimal
  triggerPrice := none
  valid := thinTerms_valid

/-- The bar at eighty with a ten-billionth of a contract available. -/
def thinBar : PaperExecutionBar where
  bar := barAtEighty.bar
  availableQuantity := tenBillionth
  sourceDigest := 0
  available_nonneg := tenBillionth_nonneg

def thinNext (_ : PaperOrderCommand) : Except PyError (Option PaperExecutionBar) := .ok (some thinBar)

/-- The journal with the purchase staged. -/
def thinStaged : Journal :=
  match Journal.stageCommand [] thinBuy (thinBuy.commandDigest textSum) with
  | .ok staged => staged
  | .error _ => []

theorem stageCommand_thinBuy :
    Journal.stageCommand [] thinBuy (thinBuy.commandDigest textSum) = .ok thinStaged := by
  have hok : (Journal.stageCommand [] thinBuy (thinBuy.commandDigest textSum)).isOk = true := by decide +kernel
  unfold thinStaged
  split
  next h => rw [h]
  next h =>
    rw [h] at hok
    cases hok

theorem paper_fill_soundness_thin :
    ∃ kept, (runFrom (Journal.after textSum) thinStaged [.submit thinBuy thinNext]).loadReceipt thinBuy.id = some kept ∧
      kept.filledQuantity.toRat + kept.remainingQuantity.toRat = kept.requestedQuantity.toRat := by
  have hfilled : ((runFrom (Journal.after textSum) thinStaged [.submit thinBuy thinNext]).loadReceipt thinBuy.id).isSome =
      true := by decide +kernel
  obtain ⟨kept, hkept⟩ := Option.isSome_iff_exists.mp hfilled
  exact ⟨kept, hkept, ((paper_fill_soundness textSum rfl stageCommand_thinBuy [.submit thinBuy thinNext]).1 kept
    hkept).2.1.2.2⟩

theorem wideTerms_valid : PaperOrderTerms.validate
    { id := paperUuid 1
      orderId := paperUuid 0
      accountAlias := "internal-binance-usdm-paper"
      market := .binanceUsdm
      side := .buy
      orderStyle := .market
      quantity := ⟨false, 30000000000000000000000000001, -18⟩
      limitPrice := none
      signalAt := 300000000
      timeframe := 300000000
      feePerUnit := zeroDecimal
      slippagePerUnit := zeroDecimal
      triggerPrice := none } = .ok () := by
  exact purchaseTerms_valid (by norm_num [Decimal.toRat]) fiveMinutes_pos zeroDecimal_nonneg

/-- A purchase of a quantity of 29 digits. -/
def wideBuy : PaperOrderCommand where
  id := paperUuid 1
  orderId := paperUuid 0
  accountAlias := "internal-binance-usdm-paper"
  market := .binanceUsdm
  side := .buy
  orderStyle := .market
  quantity := ⟨false, 30000000000000000000000000001, -18⟩
  limitPrice := none
  signalAt := 300000000
  timeframe := 300000000
  feePerUnit := zeroDecimal
  slippagePerUnit := zeroDecimal
  triggerPrice := none
  valid := wideTerms_valid

/-- The fee of the fill has twenty decimals, and the journal keeps eighteen: the receipt of a second submission has no
fee. Nor does a remainder of 29 digits add up. -/
theorem fee_lost_on_resubmission :
    ¬(∀ (sha256 : String → Digest) (j j' j'' : Journal) (command : PaperOrderCommand)
        (nextBar : PaperOrderCommand → Except PyError (Option PaperExecutionBar)) (receipt again : PaperOrderReceipt),
        brokerSubmit sha256 j command nextBar = .ok (receipt, j') →
          brokerSubmit sha256 j' command nextBar = .ok (again, j'') → again.Agrees receipt) ∧
      ¬∀ (command : PaperOrderCommand) (digest : Digest) (bar : Option PaperExecutionBar),
        (fill command digest bar).filledQuantity.toRat + (fill command digest bar).remainingQuantity.toRat =
          command.quantity.toRat := by
  refine ⟨fun h => ?_, fun h => ?_⟩
  · have hfees : ((brokerSubmit (fun _ => 0) [] thinBuy thinNext).toOption.bind fun first =>
        (brokerSubmit (fun _ => 0) first.2 thinBuy thinNext).toOption.map fun again =>
          (first.1.fee.toRat, again.1.fee.toRat)) = some (1 / 10 ^ 20, 0) := by decide +kernel
    cases hfirst : brokerSubmit (fun _ => 0) [] thinBuy thinNext with
    | error e =>
      rw [hfirst] at hfees
      cases hfees
    | ok first =>
      rw [hfirst] at hfees
      obtain ⟨again, hagain, hpair⟩ := exists_of_toOption hfees
      obtain ⟨hlost, hnone⟩ := Prod.mk.inj hpair
      have hnumbers := (h _ _ _ _ _ _ _ _ hfirst hagain).numbers
      simp only [PaperOrderReceipt.numbers, List.cons_append, List.map_cons, List.cons.injEq] at hnumbers
      rw [hlost, hnone] at hnumbers
      norm_num at hnumbers
  · have hsum := h wideBuy 0 (some thinBar)
    revert hsum
    decide +kernel

end AutoTrader.Paper
