import AutoTrader.Paper.FillReceipts
import AutoTrader.Paper.Resolution

/-! A staged command as the journal gives it back. The row keeps whole seconds of the timeframe and eighteen decimals
of every number, while the digest was taken over the command as it was. -/

namespace AutoTrader.Paper

open AutoTrader.Domain AutoTrader.Execution AutoTrader.Numeric AutoTrader.Runtime

/-! ### Columns -/

namespace PaperOrderTerms

/-- Equal as dataclasses, which compare decimals by their value. -/
structure SameFields (a b : PaperOrderTerms) : Prop where
  id : a.id = b.id
  orderId : a.orderId = b.orderId
  accountAlias : a.accountAlias = b.accountAlias
  market : a.market = b.market
  side : a.side = b.side
  orderStyle : a.orderStyle = b.orderStyle
  quantity : a.quantity.toRat = b.quantity.toRat
  limitPrice : a.limitPrice.map Decimal.toRat = b.limitPrice.map Decimal.toRat
  signalAt : a.signalAt = b.signalAt
  timeframe : a.timeframe = b.timeframe
  feePerUnit : a.feePerUnit.toRat = b.feePerUnit.toRat
  slippagePerUnit : a.slippagePerUnit.toRat = b.slippagePerUnit.toRat
  triggerPrice : a.triggerPrice.map Decimal.toRat = b.triggerPrice.map Decimal.toRat

/-- The terms the columns of a row hold. -/
def columns (terms : PaperOrderTerms) : PaperOrderTerms :=
  { terms with
    quantity := terms.quantity.column
    limitPrice := terms.limitPrice.map Decimal.column
    triggerPrice := terms.triggerPrice.map Decimal.column
    timeframe := terms.timeframe / 1000000 * 1000000
    feePerUnit := terms.feePerUnit.column
    slippagePerUnit := terms.slippagePerUnit.column }

/-- Every number of a command. -/
def numbers (terms : PaperOrderTerms) : List Decimal :=
  [terms.quantity, terms.feePerUnit, terms.slippagePerUnit] ++ terms.limitPrice.toList ++ terms.triggerPrice.toList

variable {a b : PaperOrderTerms}

/-- Equal numbers are equal in 28 digits. -/
theorem SameFields.matches (h : a.SameFields b) : a.Matches b := by
  have hrounded {x y : Option Decimal} (h : x.map Decimal.toRat = y.map Decimal.toRat) :
      x.map (rounded ·.toRat) = y.map (rounded ·.toRat) := by
    have hboth := congrArg (Option.map rounded) h
    rwa [Option.map_map, Option.map_map] at hboth
  exact
    { id := h.id
      orderId := h.orderId
      accountAlias := h.accountAlias
      market := h.market
      side := h.side
      orderStyle := h.orderStyle
      quantity := congrArg rounded h.quantity
      limitPrice := hrounded h.limitPrice
      signalAt := h.signalAt
      timeframe := h.timeframe
      feePerUnit := congrArg rounded h.feePerUnit
      slippagePerUnit := congrArg rounded h.slippagePerUnit
      triggerPrice := hrounded h.triggerPrice }

/-- What passes the constructor, passes it in another notation. -/
theorem SameFields.valid (h : a.SameFields b) (hvalid : b.Valid) : a.Valid := by
  refine ⟨h.id ▸ hvalid.id, h.orderId ▸ hvalid.orderId, ?_, h.quantity ▸ hvalid.quantity_pos, ?_,
    h.timeframe ▸ hvalid.timeframe_pos, h.feePerUnit ▸ hvalid.fee_nonneg,
    h.slippagePerUnit ▸ hvalid.slippage_nonneg, ?_⟩
  · rw [h.accountAlias, h.market]
    exact hvalid.bound
  · have hlimit := hvalid.limit
    have hsame := h.limitPrice
    unfold validateLimit at hlimit ⊢
    rw [h.orderStyle]
    cases ha : a.limitPrice with
    | none =>
      rw [ha, Option.map_none] at hsame
      rwa [Option.map_eq_none_iff.mp hsame.symm] at hlimit
    | some x =>
      rw [ha, Option.map_some] at hsame
      obtain ⟨y, hb, heq⟩ := Option.map_eq_some_iff.mp hsame.symm
      rw [hb] at hlimit
      cases hstyle : b.orderStyle <;> rw [hstyle] at hlimit
      · exact hlimit
      · dsimp only at hlimit ⊢
        rw [← heq]
        exact hlimit
  · have htrigger := hvalid.trigger
    have hsame := h.triggerPrice
    unfold validateTrigger at htrigger ⊢
    cases ha : a.triggerPrice with
    | none => rfl
    | some x =>
      rw [ha, Option.map_some] at hsame
      obtain ⟨y, hb, heq⟩ := Option.map_eq_some_iff.mp hsame.symm
      rw [hb] at htrigger
      dsimp only at htrigger ⊢
      rw [h.orderStyle, ← heq]
      exact htrigger

/-- The columns hold the terms exactly where the timeframe is in whole seconds and every number is a value of its
column. -/
theorem columns_sameFields : a.columns.SameFields a ↔
    a.timeframe % 1000000 = 0 ∧ ∀ d ∈ a.numbers, OnGrid 38 (-18) d.toRat := by
  have hexact {d : Decimal} : d.column.toRat = d.toRat ↔ OnGrid 38 (-18) d.toRat :=
    ⟨fun heq => heq ▸ onGrid_column d, Decimal.toRat_column⟩
  have hoptional {d : Option Decimal} :
      (d.map Decimal.column).map Decimal.toRat = d.map Decimal.toRat ↔ ∀ x ∈ d.toList, OnGrid 38 (-18) x.toRat := by
    cases d with
    | none => simp
    | some x => simpa using hexact
  have htimeframe : a.timeframe / 1000000 * 1000000 = a.timeframe ↔ a.timeframe % 1000000 = 0 := by omega
  constructor
  · intro h
    refine ⟨htimeframe.mp h.timeframe, ?_⟩
    simp only [numbers, List.forall_mem_append, List.forall_mem_cons]
    exact ⟨⟨⟨hexact.mp h.quantity, hexact.mp h.feePerUnit, hexact.mp h.slippagePerUnit, List.forall_mem_nil _⟩,
      hoptional.mp h.limitPrice⟩, hoptional.mp h.triggerPrice⟩
  · rintro ⟨hseconds, hnumbers⟩
    simp only [numbers, List.forall_mem_append, List.forall_mem_cons] at hnumbers
    obtain ⟨⟨⟨hquantity, hfee, hslippage, -⟩, hlimit⟩, htrigger⟩ := hnumbers
    exact
      { id := rfl
        orderId := rfl
        accountAlias := rfl
        market := rfl
        side := rfl
        orderStyle := rfl
        quantity := hexact.mpr hquantity
        limitPrice := hoptional.mpr hlimit
        signalAt := rfl
        timeframe := htimeframe.mpr hseconds
        feePerUnit := hexact.mpr hfee
        slippagePerUnit := hexact.mpr hslippage
        triggerPrice := hoptional.mpr htrigger }

end PaperOrderTerms

/-! ### Rows -/

section Rows

variable {sha256 : String → Digest} {handed : PaperOrderReceipt → Prop} {command : PaperOrderCommand} {digest : Digest}
  {row row' : PaperOrderRow} {receipt : PaperOrderReceipt}

/-- The row of a new command is read back as its columns. -/
theorem stagedRow_toCommand (h : stagedRow command digest = .ok row) :
    row.toCommand = command.columns.command := by
  unfold stagedRow at h
  obtain ⟨quantity, hquantity, h⟩ := bind_ok.mp h
  obtain ⟨limitPrice, hlimitPrice, h⟩ := bind_ok.mp h
  obtain ⟨triggerPrice, htriggerPrice, h⟩ := bind_ok.mp h
  obtain ⟨feePerUnit, hfee, h⟩ := bind_ok.mp h
  obtain ⟨slippagePerUnit, hslippage, h⟩ := bind_ok.mp h
  obtain rfl := storeDecimal_column hquantity
  obtain rfl := storeOptional_column hlimitPrice
  obtain rfl := storeOptional_column htriggerPrice
  obtain rfl := storeDecimal_column hfee
  obtain rfl := storeDecimal_column hslippage
  dsimp only at h
  split at h <;> cases h
  rfl

/-- A receipt changes nothing of the command. -/
theorem settle_toCommand (h : row.settle receipt = .ok row') : row'.toCommand = row.toCommand := by
  unfold PaperOrderRow.settle at h
  obtain ⟨filledQuantity, -, h⟩ := bind_ok.mp h
  obtain ⟨remainingQuantity, -, h⟩ := bind_ok.mp h
  obtain ⟨fillPrice, -, h⟩ := bind_ok.mp h
  obtain ⟨fee, -, h⟩ := bind_ok.mp h
  obtain ⟨slippageCost, -, h⟩ := bind_ok.mp h
  dsimp only at h
  split at h <;> cases h
  rfl

theorem RowStep.toCommand (h : RowStep sha256 handed row row') : row'.toCommand = row.toCommand := by
  rcases h with rfl | ⟨-, receipt, -, -, -, hsettle⟩
  · rfl
  · exact settle_toCommand hsettle

theorem storeDecimal_error {d : Decimal} {e : PyError} (h : storeDecimal d = .error e) : e.kind = .databaseError := by
  unfold storeDecimal at h
  split at h <;> cases h
  rfl

theorem storeOptional_error {d : Option Decimal} {e : PyError} (h : storeOptional d = .error e) :
    e.kind = .databaseError := by
  cases d with
  | none => cases h
  | some d =>
    have hmap : (storeDecimal d).map some = .error e := h
    cases hstore : storeDecimal d <;> rw [hstore] at hmap <;> cases hmap
    exact storeDecimal_error hstore

/-- A row refuses a receipt in the database only. -/
theorem settle_error {e : PyError} (h : row.settle receipt = .error e) : e.kind = .databaseError := by
  unfold PaperOrderRow.settle at h
  rcases bind_error.mp h with herror | ⟨_, -, h⟩
  · exact storeDecimal_error herror
  rcases bind_error.mp h with herror | ⟨_, -, h⟩
  · exact storeDecimal_error herror
  rcases bind_error.mp h with herror | ⟨_, -, h⟩
  · exact storeOptional_error herror
  rcases bind_error.mp h with herror | ⟨_, -, h⟩
  · exact storeDecimal_error herror
  rcases bind_error.mp h with herror | ⟨_, -, h⟩
  · exact storeDecimal_error herror
  dsimp only at h
  split at h <;> cases h
  rfl

end Rows

/-! ### The journal -/

def identityCollision : PyError := ⟨.valueError, "paper command identity payload collision"⟩

/-- The journal gives the command back as it was staged, under the same digest, and the broker resolves what it gives
back without an identity collision. -/
def ReadsBack (sha256 : String → Digest) (command : PaperOrderCommand) (j : Journal) : Prop :=
  ∃ read, j.stagedCommand command.id = .ok (some read) ∧ read.SameFields command.toPaperOrderTerms ∧
    read.commandDigest sha256 = command.commandDigest sha256 ∧
    ∀ nextBar, nextBar read ≠ .error identityCollision → brokerSubmit sha256 j read nextBar ≠ .error identityCollision

section Journal

variable {sha256 : String → Digest} {j j' : Journal} {command : PaperOrderCommand} {row : PaperOrderRow}

/-- The row of a command staged anew. -/
theorem Journal.row?_staged {digest : Digest} (hnew : j.row? command.id = none)
    (hstage : j.stageCommand command digest = .ok j') :
    ∃ row, j'.row? command.id = some row ∧ stagedRow command digest = .ok row := by
  obtain ⟨existing, hexisting, -⟩ | ⟨-, row, hrow, rfl⟩ := stageCommand_ok hstage
  · rw [hnew] at hexisting
    cases hexisting
  · have hid := (stagedRow_terms hrow).1
    have habsent : Rows.lookup PaperOrderRow.commandId j row.commandId = none := by
      rw [hid]
      exact hnew
    exact ⟨row, by rw [row?, Rows.lookup_add habsent, if_pos hid.symm], hrow⟩

/-- A command read from a row of its digest meets no identity collision. -/
theorem brokerSubmit_noCollision (hrow : j.row? row.commandId = some row) (hcommand : row.toCommand = .ok command)
    (hdigest : row.commandDigest = command.commandDigest sha256)
    {nextBar : PaperOrderCommand → Except PyError (Option PaperExecutionBar)}
    (hbar : nextBar command ≠ .error identityCollision) :
    brokerSubmit sha256 j command nextBar ≠ .error identityCollision := by
  intro hcollision
  cases hunresolved : row.unresolved with
  | true =>
    have hsubmit := Journal.brokerSubmit_row sha256 nextBar hrow hunresolved hcommand
    rw [hcollision, if_neg (not_not.mpr hdigest)] at hsubmit
    rcases bind_error.mp hsubmit.symm with herror | ⟨bar, -, hsettle⟩
    · exact hbar herror
    · cases hsettled : row.settle (fill command (command.commandDigest sha256) bar) with
      | ok settled =>
        rw [hsettled] at hsettle
        cases hsettle
      | error e =>
        have hkind := settle_error hsettled
        rw [hsettled] at hsettle
        cases hsettle
        cases hkind
  | false =>
    obtain ⟨s, hs⟩ : ∃ s, row.settlement = some s := by
      rw [PaperOrderRow.unresolved, Option.isNone_eq_false_iff] at hunresolved
      exact Option.isSome_iff_exists.mp hunresolved
    unfold brokerSubmit at hcollision
    dsimp only at hcollision
    rw [Journal.toCommand_id hcommand, Journal.loadReceipt_row hrow, hs, Option.map_some] at hcollision
    dsimp only at hcollision
    rw [if_neg (not_not.mpr (show (row.toReceipt s).commandDigest = _ from hdigest))] at hcollision
    cases hcollision

/-- A staged command is read back from every later journal as it was staged, and resolved without an identity collision,
if and only if its timeframe is in whole seconds and its numbers are values of their columns. -/
theorem staged_reads_back_iff (sha256 : String → Digest) {j staged : Journal} {command : PaperOrderCommand}
    (hnew : j.row? command.id = none) (hstage : j.stageCommand command (command.commandDigest sha256) = .ok staged)
    (calls : List JournalCall) :
    ReadsBack sha256 command (runFrom (Journal.after sha256) staged calls) ↔
      command.timeframe % 1000000 = 0 ∧ ∀ d ∈ command.numbers, OnGrid 38 (-18) d.toRat := by
  obtain ⟨row, hrow, hstagedRow⟩ := Journal.row?_staged hnew hstage
  have hmoves : staged.Moves sha256 (fun _ => True) (runFrom (Journal.after sha256) staged calls) :=
    Journal.run_moves staged fun _ _ _ _ => trivial
  obtain ⟨row', hrow', hstep⟩ := hmoves command.id row hrow
  have hcommand : row'.toCommand = command.columns.command := hstep.toCommand.trans (stagedRow_toCommand hstagedRow)
  have hread : (runFrom (Journal.after sha256) staged calls).stagedCommand command.id =
      command.columns.command.map some := by
    rw [Journal.stagedCommand, hrow']
    dsimp only
    rw [hcommand]
  rw [← PaperOrderTerms.columns_sameFields]
  constructor
  · rintro ⟨read, hstagedCommand, hsame, -⟩
    rw [hread] at hstagedCommand
    obtain ⟨_, hconstructed, heq⟩ := exceptMap_ok.mp hstagedCommand
    cases heq
    rwa [PaperOrderTerms.command_ok hconstructed] at hsame
  · intro hsame
    obtain ⟨read, hconstructed, hterms⟩ := PaperOrderTerms.command_of_valid (hsame.valid command.isValid)
    have hdigest : read.commandDigest sha256 = command.commandDigest sha256 := by
      rw [PaperOrderTerms.commandDigest_eq, PaperOrderTerms.commandDigest_eq, PaperOrderTerms.digestText,
        PaperOrderTerms.digestText, hterms, PaperOrderTerms.payload_of_matches hsame.matches]
    refine ⟨read, by rw [hread, hconstructed]; rfl, by rwa [hterms], hdigest, fun nextBar hbar => ?_⟩
    have hkey : row'.commandId = command.id := hstep.sameTerms.commandId.trans (stagedRow_terms hstagedRow).1
    have hrowDigest : row'.commandDigest = command.commandDigest sha256 :=
      hstep.sameTerms.commandDigest.trans (stagedRow_terms hstagedRow).2.2.2.1
    exact brokerSubmit_noCollision (by rw [hkey, hrow']) (hcommand.trans hconstructed)
      (hrowDigest.trans hdigest.symm) hbar

end Journal

/-! ### A timeframe of one and a half seconds -/

theorem staged_reads_back_thin : ReadsBack textSum thinBuy thinStaged := by
  refine (staged_reads_back_iff textSum rfl stageCommand_thinBuy []).mpr ⟨rfl, ?_⟩
  have hone : OnGrid 38 (-18) (Decimal.ofNat 1).toRat :=
    ⟨10 ^ 18, by norm_num [Decimal.toRat, Decimal.ofNat], by norm_num⟩
  have hfee : OnGrid 38 (-18) tenBillionth.toRat := ⟨10 ^ 8, by norm_num [Decimal.toRat, tenBillionth], by norm_num⟩
  have hzero : OnGrid 38 (-18) zeroDecimal.toRat :=
    ⟨0, by norm_num [Decimal.toRat, zeroDecimal, Decimal.ofNat], by norm_num⟩
  intro d hd
  simp only [PaperOrderTerms.numbers, thinBuy, Option.toList_none, List.append_nil, List.mem_cons, List.not_mem_nil,
    or_false] at hd
  rcases hd with rfl | rfl | rfl
  · exact hone
  · exact hfee
  · exact hzero

theorem briefTerms_valid : PaperOrderTerms.validate
    { id := paperUuid 1
      orderId := paperUuid 0
      accountAlias := "internal-binance-usdm-paper"
      market := .binanceUsdm
      side := .buy
      orderStyle := .market
      quantity := .ofNat 1
      limitPrice := none
      signalAt := 300000000
      timeframe := 1500000
      feePerUnit := zeroDecimal
      slippagePerUnit := zeroDecimal
      triggerPrice := none } = .ok () := by
  exact purchaseTerms_valid decimal_one_pos (by decide) zeroDecimal_nonneg

/-- A purchase on bars of one and a half seconds. -/
def briefBuy : PaperOrderCommand where
  id := paperUuid 1
  orderId := paperUuid 0
  accountAlias := "internal-binance-usdm-paper"
  market := .binanceUsdm
  side := .buy
  orderStyle := .market
  quantity := .ofNat 1
  limitPrice := none
  signalAt := 300000000
  timeframe := 1500000
  feePerUnit := zeroDecimal
  slippagePerUnit := zeroDecimal
  triggerPrice := none
  valid := briefTerms_valid

/-- The journal with the purchase staged. -/
def briefStaged : Journal :=
  match Journal.stageCommand [] briefBuy (briefBuy.commandDigest textSum) with
  | .ok staged => staged
  | .error _ => []

theorem stageCommand_briefBuy :
    Journal.stageCommand [] briefBuy (briefBuy.commandDigest textSum) = .ok briefStaged := by
  have hok : (Journal.stageCommand [] briefBuy (briefBuy.commandDigest textSum)).isOk = true := by decide +kernel
  unfold briefStaged
  split
  next h => rw [h]
  next h =>
    rw [h] at hok
    cases hok

/-- What the journal gives back: one second, and another digest. -/
theorem briefStaged_read : ∃ read, briefStaged.stagedCommand briefBuy.id = .ok (some read) ∧ read.id = briefBuy.id ∧
    read.timeframe = 1000000 ∧ read.commandDigest textSum ≠ briefBuy.commandDigest textSum := by
  have hread : (briefStaged.stagedCommand briefBuy.id).toOption.join.map (fun read =>
      (read.id, read.timeframe, decide (read.commandDigest textSum = briefBuy.commandDigest textSum))) =
        some (briefBuy.id, 1000000, false) := by decide +kernel
  obtain ⟨read, hjoin, hfields⟩ := Option.map_eq_some_iff.mp hread
  obtain ⟨hid, hrest⟩ := Prod.mk.inj hfields
  obtain ⟨htimeframe, hdigest⟩ := Prod.mk.inj hrest
  refine ⟨read, ?_, hid, htimeframe, of_decide_eq_false hdigest⟩
  cases hstagedCommand : briefStaged.stagedCommand briefBuy.id with
  | error e =>
    rw [hstagedCommand] at hjoin
    cases hjoin
  | ok found =>
    rw [hstagedCommand] at hjoin
    exact congrArg Except.ok hjoin

/-- The purchase is staged, comes back with a timeframe of one second, and cannot be resolved. -/
theorem brief_timeframe_cut :
    Journal.stageCommand [] briefBuy (briefBuy.commandDigest textSum) = .ok briefStaged ∧
      ¬ ReadsBack textSum briefBuy briefStaged ∧
      ∃ read, briefStaged.stagedCommand briefBuy.id = .ok (some read) ∧
        brokerSubmit textSum briefStaged read thinNext = .error identityCollision := by
  obtain ⟨read, hread, hid, htimeframe, hdigest⟩ := briefStaged_read
  refine ⟨stageCommand_briefBuy, ?_, read, hread, ?_⟩
  · rintro ⟨other, hother, hsame, -⟩
    rw [hread] at hother
    cases hother
    have hcut := hsame.timeframe
    rw [htimeframe] at hcut
    revert hcut
    decide
  · obtain ⟨row, hrow, hof, -⟩ := Journal.staged_row rfl stageCommand_briefBuy
    exact (Journal.brokerSubmit_again hrow hof hid thinNext).2 hdigest

end AutoTrader.Paper
