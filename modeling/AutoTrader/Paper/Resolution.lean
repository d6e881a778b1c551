import AutoTrader.Paper.WorkingCommands

/-! A settlement pass row by row. What a pass does to a staged command depends on its own row
only, as long as no other row makes the pass raise. -/

namespace AutoTrader.Paper

open AutoTrader.Domain AutoTrader.Execution AutoTrader.Runtime

section Resolve

variable (sha256 : String → Digest) (barAt nextBar : PaperOrderCommand → Except PyError (Option PaperExecutionBar))

/-- What a pass makes of an unresolved row. -/
def PaperOrderRow.resolve (row : PaperOrderRow) : Except PyError PaperOrderRow := do
  let command ← row.toCommand
  match ← barAt command with
  | none => pure row
  | some _ =>
    if row.commandDigest ≠ command.commandDigest sha256 then
      .error ⟨.valueError, "paper command identity payload collision"⟩
    else do
      let executionBar ← nextBar command
      row.settle (fill command (command.commandDigest sha256) executionBar)

end Resolve

namespace Journal

/-- The row of a command written anew. -/
def put (j : Journal) (row : PaperOrderRow) : Journal :=
  Rows.update PaperOrderRow.commandId j row.commandId fun _ => row

theorem row?_put (j : Journal) (row : PaperOrderRow) (id : UUID) :
    (j.put row).row? id = (j.row? id).map fun old => if id = row.commandId then row else old :=
  Rows.lookup_put j row id

theorem put_self {j : Journal} {row : PaperOrderRow} (hkeys : (j.map (·.commandId)).Nodup) (hrow : row ∈ j) :
    j.put row = j := by
  unfold put Rows.update
  refine (List.map_congr_left fun other hother => ?_).trans (List.map_id j)
  split
  · rename_i heq
    exact (List.inj_on_of_nodup_map hkeys hother hrow heq).symm
  · rfl

variable {sha256 : String → Digest} {barAt nextBar : PaperOrderCommand → Except PyError (Option PaperExecutionBar)}
  {j : Journal} {row : PaperOrderRow} {command : PaperOrderCommand}

variable (sha256 nextBar) in
/-- The broker, given the command of an unresolved row, settles that row. -/
theorem brokerSubmit_row (hrow : j.row? row.commandId = some row) (hunresolved : row.unresolved = true)
    (hcommand : row.toCommand = .ok command) :
    (brokerSubmit sha256 j command nextBar).map Prod.snd =
      if row.commandDigest ≠ command.commandDigest sha256 then
        .error ⟨.valueError, "paper command identity payload collision"⟩
      else nextBar command >>= fun executionBar =>
        (row.settle (fill command (command.commandDigest sha256) executionBar)).map j.put := by
  have hid := toCommand_id hcommand
  have hnone : row.settlement = none := Option.isNone_iff_eq_none.mp hunresolved
  have hload : j.loadReceipt command.id = none := by
    rw [loadReceipt, hid, hrow, Option.bind_some, hnone]
    rfl
  unfold brokerSubmit
  dsimp only
  rw [hload]
  dsimp only
  unfold stageCommand
  rw [hid, hrow]
  dsimp only
  by_cases hdigest : row.commandDigest = command.commandDigest sha256
  · rw [if_neg (not_not.mpr hdigest), if_neg (not_not.mpr hdigest), ok_bind]
    cases nextBar command with
    | error e => rfl
    | ok executionBar =>
      rw [ok_bind, ok_bind]
      obtain ⟨hreceiptId, -, hreceiptDigest⟩ := fill_identity command (command.commandDigest sha256) executionBar
      unfold persistReceipt
      rw [hreceiptId, hid, hrow, hreceiptDigest]
      dsimp only
      rw [if_neg (not_not.mpr hdigest), hnone]
      cases hsettle : row.settle (fill command (command.commandDigest sha256) executionBar) with
      | error e => rfl
      | ok settled =>
        have hput : j.put settled = Rows.update PaperOrderRow.commandId j row.commandId fun _ => settled := by
          unfold put
          rw [(settle_ok hsettle).1]
        show Except.ok _ = Except.ok (j.put settled)
        rw [hput]
  · rw [if_pos hdigest, if_pos hdigest]
    rfl

private theorem map_snd_bind {ε α β γ δ : Type} {x : Except ε (α × β)} {k : α × β → Except ε (γ × δ)}
    {m : β → Except ε δ} (h : ∀ p, (k p).map Prod.snd = m p.2) : (x >>= k).map Prod.snd = x.map Prod.snd >>= m := by
  cases x with
  | error e => rfl
  | ok p => exact h p

/-- The next command of a pass is resolved on its own row. -/
theorem resolveEach_cons (hkeys : (j.map (·.commandId)).Nodup) (hrow : row ∈ j) (hunresolved : row.unresolved = true)
    (hcommand : row.toCommand = .ok command) (commands : List PaperOrderCommand) :
    (resolveEach sha256 barAt nextBar j (command :: commands)).map Prod.snd =
      row.resolve sha256 barAt nextBar >>= fun resolved =>
        (resolveEach sha256 barAt nextBar (j.put resolved) commands).map Prod.snd := by
  unfold PaperOrderRow.resolve
  rw [hcommand, ok_bind]
  rw [resolveEach]
  cases barAt command with
  | error e => rfl
  | ok found =>
    rw [ok_bind, ok_bind]
    cases found with
    | none =>
      dsimp only
      show _ = (resolveEach sha256 barAt nextBar (j.put row) commands).map Prod.snd
      rw [put_self hkeys hrow]
    | some bar =>
      dsimp only
      have hbroker := brokerSubmit_row sha256 nextBar (Rows.lookup_of_mem hkeys hrow)
        hunresolved hcommand
      refine (map_snd_bind (m := fun submitted =>
        (resolveEach sha256 barAt nextBar submitted commands).map Prod.snd) fun p => ?_).trans ?_
      · cases resolveEach sha256 barAt nextBar p.2 commands <;> rfl
      rw [hbroker]
      split
      · rfl
      · cases nextBar command with
        | error e => rfl
        | ok executionBar =>
          rw [ok_bind, ok_bind]
          cases row.settle (fill command (command.commandDigest sha256) executionBar) <;> rfl

theorem resolve_id {resolved : PaperOrderRow} (h : row.resolve sha256 barAt nextBar = .ok resolved) :
    resolved.commandId = row.commandId := by
  unfold PaperOrderRow.resolve at h
  obtain ⟨command, -, h⟩ := bind_ok.mp h
  obtain ⟨found, -, h⟩ := bind_ok.mp h
  cases found with
  | none => cases h; rfl
  | some bar =>
    dsimp only at h
    split at h
    · cases h
    · obtain ⟨executionBar, -, h⟩ := bind_ok.mp h
      exact (settle_ok h).1

theorem keys_put (hkeys : (j.map (·.commandId)).Nodup) (row : PaperOrderRow) :
    ((j.put row).map (·.commandId)).Nodup := by
  unfold put
  rw [Rows.keys_update rfl]
  exact hkeys

theorem mem_put {other : PaperOrderRow} (hother : other ∈ j) (hne : other.commandId ≠ row.commandId) :
    other ∈ j.put row :=
  Rows.mem_update.mpr ⟨other, hother, (if_neg hne).symm⟩

/-- The rows a pass has still to go through: unresolved rows of the journal, each once. -/
structure Pending (j : Journal) (rows : List PaperOrderRow) : Prop where
  keys : (j.map (·.commandId)).Nodup
  unresolved : ∀ row ∈ rows, row ∈ j ∧ row.unresolved = true
  nodup : (rows.map (·.commandId)).Nodup

theorem Pending.next {rows : List PaperOrderRow} (h : j.Pending (row :: rows)) {resolved : PaperOrderRow}
    (hid : resolved.commandId = row.commandId) : (j.put resolved).Pending rows := by
  obtain ⟨hhead, htail⟩ := List.nodup_cons.mp h.nodup
  refine ⟨keys_put h.keys resolved, fun other hother => ?_, htail⟩
  have hne : other.commandId ≠ resolved.commandId := fun heq =>
    hhead (List.mem_map.mpr ⟨other, hother, heq.trans hid⟩)
  obtain ⟨hmem, hunresolved⟩ := h.unresolved other (List.mem_cons_of_mem row hother)
  exact ⟨mem_put hmem hne, hunresolved⟩

/-- A pass that returns has resolved each of its rows by itself and left all others alone. -/
theorem resolveEach_ok {rows : List PaperOrderRow} {commands : List PaperOrderCommand} {j' : Journal}
    (hpending : j.Pending rows) (hcommands : rows.mapM PaperOrderRow.toCommand = .ok commands)
    (h : (resolveEach sha256 barAt nextBar j commands).map Prod.snd = .ok j') :
    (∀ row ∈ rows, ∃ resolved, row.resolve sha256 barAt nextBar = .ok resolved ∧
      j'.row? row.commandId = some resolved) ∧
      ∀ id ∉ rows.map (·.commandId), j'.row? id = j.row? id := by
  induction rows generalizing j commands with
  | nil =>
    cases hcommands
    cases h
    exact ⟨fun row hrow => absurd hrow List.not_mem_nil, fun _ _ => rfl⟩
  | cons row rows ih =>
    rw [List.mapM_cons] at hcommands
    obtain ⟨command, hcommand, hcommands⟩ := bind_ok.mp hcommands
    obtain ⟨rest, hrest, hcommands⟩ := bind_ok.mp hcommands
    cases hcommands
    obtain ⟨hmem, hunresolved⟩ := hpending.unresolved row List.mem_cons_self
    rw [resolveEach_cons hpending.keys hmem hunresolved hcommand] at h
    obtain ⟨resolved, hresolve, h⟩ := bind_ok.mp h
    have hid := resolve_id hresolve
    obtain ⟨hrows, hothers⟩ := ih (hpending.next hid) hrest h
    obtain ⟨hhead, -⟩ := List.nodup_cons.mp hpending.nodup
    refine ⟨fun other hother => ?_, fun id hid' => ?_⟩
    · rcases List.mem_cons.mp hother with rfl | hlater
      · refine ⟨resolved, hresolve, ?_⟩
        rw [hothers _ hhead, row?_put, row?, Rows.lookup_of_mem hpending.keys hmem, Option.map_some, if_pos hid.symm]
      · exact hrows other hlater
    · rw [List.map_cons, List.mem_cons, not_or] at hid'
      rw [hothers id hid'.2, row?_put]
      have hne : id ≠ resolved.commandId := fun heq => hid'.1 (heq.trans hid)
      simp [hne]

/-- A pass returns when each of its rows can be resolved. -/
theorem resolveEach_returns {rows : List PaperOrderRow} {commands : List PaperOrderCommand}
    (hpending : j.Pending rows) (hcommands : rows.mapM PaperOrderRow.toCommand = .ok commands)
    (h : ∀ row ∈ rows, ∃ resolved, row.resolve sha256 barAt nextBar = .ok resolved) :
    ∃ j', (resolveEach sha256 barAt nextBar j commands).map Prod.snd = .ok j' := by
  induction rows generalizing j commands with
  | nil =>
    cases hcommands
    exact ⟨j, rfl⟩
  | cons row rows ih =>
    rw [List.mapM_cons] at hcommands
    obtain ⟨command, hcommand, hcommands⟩ := bind_ok.mp hcommands
    obtain ⟨rest, hrest, hcommands⟩ := bind_ok.mp hcommands
    cases hcommands
    obtain ⟨hmem, hunresolved⟩ := hpending.unresolved row List.mem_cons_self
    obtain ⟨resolved, hresolve⟩ := h row List.mem_cons_self
    rw [resolveEach_cons hpending.keys hmem hunresolved hcommand, hresolve, ok_bind]
    exact ih (hpending.next (resolve_id hresolve)) hrest fun other hother => h other (List.mem_cons_of_mem row hother)

/-! ### A whole pass -/

theorem pending_unresolved (hkeys : (j.map (·.commandId)).Nodup) :
    j.Pending (j.filter fun row => row.unresolved && (none : Option UUID).all (row.orderId = ·)) where
  keys := hkeys
  unresolved row hrow := by
    obtain ⟨hmem, hunresolved⟩ := List.mem_filter.mp hrow
    exact ⟨hmem, (Bool.and_eq_true_iff.mp hunresolved).1⟩
  nodup := hkeys.sublist (List.filter_sublist.map _)

theorem mem_unresolved (hrow : row ∈ j) (hunresolved : row.unresolved = true) :
    row ∈ j.filter fun row => row.unresolved && (none : Option UUID).all (row.orderId = ·) :=
  List.mem_filter.mpr ⟨hrow, by rw [hunresolved]; rfl⟩

/-- What a pass that returns did to an unresolved row. -/
theorem resolvePaperFills_ok {receipts : List PaperOrderReceipt} {j' : Journal}
    (hkeys : (j.map (·.commandId)).Nodup) (h : resolvePaperFills sha256 barAt nextBar j none = .ok (receipts, j'))
    (hrow : row ∈ j) (hunresolved : row.unresolved = true) :
    ∃ resolved, row.resolve sha256 barAt nextBar = .ok resolved ∧ j'.row? row.commandId = some resolved := by
  obtain ⟨commands, hcommands, h⟩ := bind_ok.mp h
  have hmap : (resolveEach sha256 barAt nextBar j commands).map Prod.snd = .ok j' := by
    rw [h]
    rfl
  exact (resolveEach_ok (pending_unresolved hkeys) hcommands hmap).1 row (mem_unresolved hrow hunresolved)

/-- A pass over rows that can all be resolved returns. -/
theorem resolvePaperFills_returns (hkeys : (j.map (·.commandId)).Nodup)
    (h : ∀ row ∈ j, row.unresolved = true → ∃ resolved, row.resolve sha256 barAt nextBar = .ok resolved) :
    ∃ receipts j', resolvePaperFills sha256 barAt nextBar j none = .ok (receipts, j') := by
  have hpending := pending_unresolved hkeys
  have hrows : ∀ row ∈ j.filter fun row => row.unresolved && (none : Option UUID).all (row.orderId = ·),
      ∃ resolved, row.resolve sha256 barAt nextBar = .ok resolved := fun row hrow =>
    h row (hpending.unresolved row hrow).1 (hpending.unresolved row hrow).2
  have hto : ∀ row ∈ j.filter fun row => row.unresolved && (none : Option UUID).all (row.orderId = ·),
      ∃ command, row.toCommand = .ok command := fun row hrow => by
    obtain ⟨resolved, hresolve⟩ := hrows row hrow
    obtain ⟨command, hcommand, -⟩ := bind_ok.mp hresolve
    exact ⟨command, hcommand⟩
  obtain ⟨commands, hcommands⟩ := mapM_ok_of_forall hto
  obtain ⟨j', hreturns⟩ := resolveEach_returns hpending hcommands hrows
  obtain ⟨⟨receipts, journal⟩, hresolve, -⟩ := exceptMap_ok.mp hreturns
  refine ⟨receipts, journal, ?_⟩
  unfold resolvePaperFills unresolvedCommands
  rw [hcommands, ok_bind, hresolve]

end Journal

end AutoTrader.Paper
