import AutoTrader.Trader.ReducingOrders

/-! The command a creation leaves behind, when it is a new one: a submission on the terms of its
intent that may be sent until the reservation window ends. -/

namespace AutoTrader.Trader

open AutoTrader.Domain AutoTrader.Execution AutoTrader.Binance

variable {ids : Nat → UUID} {sha256 : String → Digest}

/-- A command row with the terms a creation was asked for. -/
structure OnTermsOf (intent : OrderIntent) (notAfter : Instant) (row : PersistedOrderCommand) : Prop where
  commandType : row.commandType = .submit
  side : row.side = intent.side
  orderStyle : row.orderStyle = intent.orderStyle
  untriggered : intent.triggerPrice = none → row.triggerPrice = none
  notAfter : row.notAfter = notAfter

/-- An order as far as a command repeats it. -/
structure OrderOn (intent : OrderIntent) (order : Order) : Prop where
  side : order.side = intent.side
  orderStyle : order.orderStyle = intent.orderStyle
  untriggered : intent.triggerPrice = none → order.triggerPrice = none

theorem commandRow_ok {command : BrokerOrderCommand} {row : PersistedOrderCommand} (h : commandRow command = some row) :
    row.commandType = command.commandType ∧ row.side = command.side ∧ row.orderStyle = command.orderStyle ∧
      row.triggerPrice = command.triggerPrice.map Decimal.column ∧ row.notAfter = command.notAfter := by
  unfold commandRow at h
  split at h <;> cases h
  exact ⟨rfl, rfl, rfl, rfl, rfl⟩

/-- The one row an insert can add is that of its command. -/
theorem createCommandOnce_rows {command : BrokerOrderCommand} {existing : PersistedOrderCommand} {j j' : Journal}
    (h : createCommandOnce command j = .ok (existing, j')) :
    ∀ row ∈ j'.commands, row ∈ j.commands ∨ commandRow command = some row := by
  unfold createCommandOnce at h
  split at h
  · cases h
  rename_i added hadded
  dsimp only at h
  split at h
  · cases h
  split at h <;> cases h
  intro row hrow
  dsimp only at hrow
  split at hrow
  · exact .inl hrow
  · rcases List.mem_append.mp hrow with hold | hnew
    · exact .inl hold
    · rw [List.mem_singleton.mp hnew]
      exact .inr hadded

/-- The stored order repeats the terms of the one that was to be stored. -/
theorem createOrderOnce_on {intent : OrderIntent} {order : Order} {row : PersistedOrder} {j j' : Journal}
    (hon : OrderOn intent order) (h : createOrderOnce order j = .ok (row, j')) :
    OrderOn intent row.toOrder := by
  unfold createOrderOnce at h
  dsimp only at h
  split at h
  · cases h
  · split at h
    · rename_i hsame
      cases h
      simp only [sameOrder, Bool.and_eq_true, decide_eq_true_eq] at hsame
      obtain ⟨⟨⟨⟨⟨⟨⟨⟨-, -⟩, -⟩, -⟩, hside⟩, hstyle⟩, -⟩, -⟩, htrigger⟩ := hsame
      refine ⟨hside.trans hon.side, hstyle.trans hon.orderStyle, fun hnone => ?_⟩
      rw [hon.untriggered hnone, Option.map_none, Option.map_eq_none_iff] at htrigger
      exact htrigger
    · cases h

theorem createApprovedOnce_rows {intent : OrderIntent} {order stored : Order} {command : BrokerOrderCommand}
    {j j' : Journal} (hon : OrderOn intent order) (htype : command.commandType = .submit)
    (h : createApprovedOnce ids sha256 order command j = .ok (stored, j')) :
    ∀ row ∈ j'.commands, row ∈ j.commands ∨ OnTermsOf intent command.notAfter row := by
  obtain ⟨persisted, j₁, horder, h⟩ := journal_bind_ok.mp h
  obtain ⟨canonicalOrder, j₂, hdomain, h⟩ := journal_bind_ok.mp h
  obtain ⟨_, j₃, hvalid, h⟩ := journal_bind_ok.mp h
  obtain ⟨freshId, j₄, hfresh, h⟩ := journal_bind_ok.mp h
  obtain ⟨canonicalCommand, j₅, hcommand, h⟩ := journal_bind_ok.mp h
  obtain ⟨existing, j₆, hinsert, h⟩ := journal_bind_ok.mp h
  cases h
  obtain ⟨hcanonical, rfl⟩ := journal_lift_ok.mp hdomain
  obtain ⟨-, rfl⟩ := journal_lift_ok.mp hvalid
  obtain ⟨-, rfl⟩ := newUuid7_ok hfresh
  obtain ⟨hcreate, rfl⟩ := journal_lift_ok.mp hcommand
  have hstored := createOrderOnce_on hon horder
  obtain ⟨_, -, hcanonical⟩ := bind_ok.mp hcanonical
  have hsame : persisted.toOrder = stored := Except.ok.inj hcanonical
  rw [hsame] at hstored
  intro row hrow
  rcases createCommandOnce_rows hinsert row hrow with hold | hnew
  · exact .inl ((createOrderOnce_ok horder).1 ▸ hold)
  · obtain ⟨hrowType, hrowSide, hrowStyle, hrowTrigger, hrowDeadline⟩ := commandRow_ok hnew
    unfold OrderCommandFactory.create at hcreate
    split at hcreate <;> cases hcreate
    refine .inr ⟨hrowType.trans htype, hrowSide.trans hstored.side, hrowStyle.trans hstored.orderStyle, fun hnone => ?_,
      hrowDeadline⟩
    rw [hrowTrigger]
    dsimp only
    rw [hstored.untriggered hnone]
    rfl

theorem chosenId_commands {submission : OrderSubmissionContext} {id : UUID} {j j' : Journal}
    (h : chosenId ids submission j = .ok (id, j')) : j'.commands = j.commands := by
  unfold chosenId at h
  cases hnamed : submission.commandId with
  | some named =>
    rw [hnamed] at h
    cases h
    rfl
  | none =>
    rw [hnamed] at h
    obtain ⟨-, rfl⟩ := newUuid7_ok h
    rfl

/-- A new command of `create_from_risk_decision` is on the terms of its intent and context. -/
theorem createFromRiskDecision_rows {decision : RiskDecision} {intent : OrderIntent}
    {submission : OrderSubmissionContext} {order : Option Order} {j j' : Journal}
    (h : createFromRiskDecision ids sha256 decision intent submission j = .ok (order, j')) :
    ∀ row ∈ j'.commands, row ∈ j.commands ∨ OnTermsOf intent submission.notAfter row := by
  unfold createFromRiskDecision at h
  split at h
  · cases h
    exact fun row hrow => .inl hrow
  · obtain ⟨_, j₁, hagree, h⟩ := journal_bind_ok.mp h
    obtain ⟨orderId, j₂, horderId, h⟩ := journal_bind_ok.mp h
    obtain ⟨_, j₃, hvalid, h⟩ := journal_bind_ok.mp h
    obtain ⟨freshId, j₄, hchosen, h⟩ := journal_bind_ok.mp h
    obtain ⟨command, j₅, hcommand, h⟩ := journal_bind_ok.mp h
    obtain ⟨stored, j₆, hstore, h⟩ := journal_bind_ok.mp h
    have hend : j₆ = j' := congrArg Prod.snd (Except.ok.inj h)
    obtain ⟨-, hj₁⟩ := journal_lift_ok.mp hagree
    obtain ⟨-, hj₂⟩ := newUuid7_ok horderId
    obtain ⟨-, hj₃⟩ := journal_lift_ok.mp hvalid
    obtain ⟨hcreate, hj₅⟩ := journal_lift_ok.mp hcommand
    have hbefore : j₅.commands = j.commands := by
      rw [hj₅, chosenId_commands hchosen, hj₃, hj₂, hj₁]
    have hon : OrderOn intent (orderOf orderId decision intent submission) := ⟨rfl, rfl, id⟩
    unfold OrderCommandFactory.create at hcreate
    split at hcreate <;> cases hcreate
    rw [← hbefore, ← hend]
    exact createApprovedOnce_rows hon rfl hstore

/-- The command a creation returns was in the journal before, or is on the terms of its intent. -/
theorem createNamedOrder_command {account : ExecutionAccount} {decision : RiskDecision} {intent : OrderIntent}
    {authorityClass : AuthorityClass} {timeInForce : String} {now : Instant} {created : Created} {j j' : Journal}
    (h : createNamedOrder ids sha256 account decision intent authorityClass timeInForce now j = .ok (some created, j')) :
    created.command ∈ j.commands ∨ OnTermsOf intent (now + reservationWindow) created.command := by
  obtain ⟨commandId, j₁, hid, h⟩ := journal_bind_ok.mp h
  obtain ⟨_, j₂, hrequire, h⟩ := journal_bind_ok.mp h
  obtain ⟨_, j₃, hvalid, h⟩ := journal_bind_ok.mp h
  obtain ⟨order, j₄, horder, h⟩ := journal_bind_ok.mp h
  obtain ⟨j₅, j₆, hget, h⟩ := journal_bind_ok.mp h
  obtain ⟨-, hj₁⟩ := newUuid7_ok hid
  obtain ⟨-, hj₂⟩ := journal_lift_ok.mp hrequire
  obtain ⟨-, hj₃⟩ := journal_lift_ok.mp hvalid
  have hbefore : j₃.commands = j.commands := by
    rw [hj₃, hj₂, hj₁]
  have hread : j₅ = j₄ := (congrArg Prod.fst (Except.ok.inj hget)).symm
  have hcreated := congrArg Prod.fst (Except.ok.inj h)
  obtain ⟨stored, -, hfound⟩ := Option.bind_eq_some_iff.mp hcreated
  obtain ⟨command, hcommand, hnamed⟩ := Option.map_eq_some_iff.mp hfound
  have hmem : command ∈ j₄.commands := hread ▸ List.mem_of_find?_eq_some hcommand
  rw [← hbefore, ← hnamed]
  exact createFromRiskDecision_rows horder command hmem

/-! ### The digest of the command -/

/-- The row under another digest. -/
def rehashed (row : PersistedOrderCommand) (digest : Digest) : PersistedOrderCommand :=
  { row with canonicalPayloadHash := digest }

variable (other : String → Digest)

theorem create_rehashed {freshId : UUID} {order : Order} {commandType : CommandType}
    {submission : OrderSubmissionContext} {origin : IntentOrigin} {target : Option String}
    {command : BrokerOrderCommand}
    (h : OrderCommandFactory.create sha256 freshId order commandType submission origin target = .ok command) :
    ∃ digest, OrderCommandFactory.create other freshId order commandType submission origin target =
      .ok { command with canonicalPayloadHash := digest } := by
  unfold OrderCommandFactory.create at h ⊢
  split at h
  · rename_i hadmits
    rw [if_pos hadmits]
    cases h
    exact ⟨_, rfl⟩
  · cases h

theorem createCommandOnce_rehashed {command : BrokerOrderCommand} {row : PersistedOrderCommand} {j j' : Journal}
    (hj : j.commands = []) (h : createCommandOnce command j = .ok (row, j')) (digest : Digest) :
    createCommandOnce { command with canonicalPayloadHash := digest } j =
        .ok (rehashed row digest, { j with commands := [rehashed row digest] }) ∧
      j' = { j with commands := [row] } := by
  have hfresh (command : BrokerOrderCommand) (row : PersistedOrderCommand) (hrow : commandRow command = some row) :
      createCommandOnce command j = .ok (row, { j with commands := [row] }) := by
    have hnew := createCommandOnce_new (j := j) hrow (by simp [commandTaken, hj]) (by simp [hj])
    rwa [hj] at hnew
  cases hrow : commandRow command with
  | none =>
    unfold createCommandOnce at h
    rw [hrow] at h
    cases h
  | some added =>
    rw [hfresh command added hrow] at h
    cases h
    refine ⟨hfresh _ _ ?_, rfl⟩
    unfold commandRow at hrow ⊢
    split at hrow
    · rename_i hadmits
      cases hrow
      exact dif_pos hadmits
    · cases hrow

theorem createApprovedOnce_rehashed {order stored : Order} {command : BrokerOrderCommand} {j j' : Journal}
    (hj : j.commands = []) (h : createApprovedOnce ids sha256 order command j = .ok (stored, j')) (hash : Digest) :
    ∃ row digest, j'.commands = [row] ∧
      createApprovedOnce ids other order { command with canonicalPayloadHash := hash } j =
        .ok (stored, { j' with commands := [rehashed row digest] }) := by
  obtain ⟨persisted, j₁, horder, h⟩ := journal_bind_ok.mp h
  obtain ⟨_, j₂, hdomain, h⟩ := journal_bind_ok.mp h
  obtain ⟨_, j₃, hvalid, h⟩ := journal_bind_ok.mp h
  obtain ⟨freshId, j₄, hfresh, h⟩ := journal_bind_ok.mp h
  obtain ⟨canonicalCommand, j₅, hcommand, h⟩ := journal_bind_ok.mp h
  obtain ⟨existing, j₆, hinsert, h⟩ := journal_bind_ok.mp h
  cases h
  obtain ⟨hcreate, hj₅⟩ := journal_lift_ok.mp hcommand
  have hbefore : j₅.commands = [] := by
    rw [hj₅, (newUuid7_ok hfresh).2, (journal_lift_ok.mp hvalid).2, (journal_lift_ok.mp hdomain).2]
    exact (createOrderOnce_ok horder).1.trans hj
  obtain ⟨digest, hother⟩ := create_rehashed other hcreate
  obtain ⟨hinserted, rfl⟩ := createCommandOnce_rehashed hbefore hinsert digest
  exact ⟨existing, digest, rfl, journal_bind_ok.mpr ⟨persisted, j₁, horder, journal_bind_ok.mpr
    ⟨_, j₂, hdomain, journal_bind_ok.mpr ⟨_, j₃, hvalid, journal_bind_ok.mpr
    ⟨freshId, j₄, hfresh, journal_bind_ok.mpr ⟨_, j₅, journal_lift_ok.mpr ⟨hother, hj₅⟩, journal_bind_ok.mpr
    ⟨_, _, hinserted, rfl⟩⟩⟩⟩⟩⟩⟩

theorem createFromRiskDecision_rehashed {decision : RiskDecision} {intent : OrderIntent}
    {submission : OrderSubmissionContext} {order : Order} {j j' : Journal} (hj : j.commands = [])
    (h : createFromRiskDecision ids sha256 decision intent submission j = .ok (some order, j')) :
    ∃ row digest, j'.commands = [row] ∧ createFromRiskDecision ids other decision intent submission j =
      .ok (some order, { j' with commands := [rehashed row digest] }) := by
  unfold createFromRiskDecision at h ⊢
  split at h
  · cases h
  rename_i houtcome
  rw [if_neg houtcome]
  obtain ⟨_, j₁, hagree, h⟩ := journal_bind_ok.mp h
  obtain ⟨orderId, j₂, hdraw, h⟩ := journal_bind_ok.mp h
  obtain ⟨_, j₃, hvalid, h⟩ := journal_bind_ok.mp h
  obtain ⟨freshId, j₄, hchosen, h⟩ := journal_bind_ok.mp h
  obtain ⟨command, j₅, hcommand, h⟩ := journal_bind_ok.mp h
  obtain ⟨stored, j₆, hstore, h⟩ := journal_bind_ok.mp h
  cases h
  obtain ⟨hcreate, hj₅⟩ := journal_lift_ok.mp hcommand
  have hbefore : j₅.commands = [] := by
    rw [hj₅, chosenId_commands hchosen, (journal_lift_ok.mp hvalid).2, (newUuid7_ok hdraw).2,
      (journal_lift_ok.mp hagree).2]
    exact hj
  obtain ⟨hash, hother⟩ := create_rehashed other hcreate
  obtain ⟨row, digest, hrow, hstored⟩ := createApprovedOnce_rehashed other hbefore hstore hash
  exact ⟨row, digest, hrow, journal_bind_ok.mpr ⟨_, j₁, hagree, journal_bind_ok.mpr ⟨orderId, j₂, hdraw,
    journal_bind_ok.mpr ⟨_, j₃, hvalid, journal_bind_ok.mpr ⟨freshId, j₄, hchosen, journal_bind_ok.mpr
    ⟨_, j₅, journal_lift_ok.mpr ⟨hother, hj₅⟩, journal_bind_ok.mpr ⟨_, _, hstored, rfl⟩⟩⟩⟩⟩⟩⟩

/-- On a journal without commands a creation does not look at the digest it writes. -/
theorem createNamedOrder_rehashed {account : ExecutionAccount} {decision : RiskDecision} {intent : OrderIntent}
    {authorityClass : AuthorityClass} {timeInForce : String} {now : Instant} {created : Created} {j j' : Journal}
    (hj : j.commands = [])
    (h : createNamedOrder ids sha256 account decision intent authorityClass timeInForce now j = .ok (some created, j')) :
    ∃ digest j'', createNamedOrder ids other account decision intent authorityClass timeInForce now j =
      .ok (some ⟨created.namedId, rehashed created.command digest⟩, j'') := by
  obtain ⟨commandId, j₁, hid, h⟩ := journal_bind_ok.mp h
  obtain ⟨_, j₂, hrequire, h⟩ := journal_bind_ok.mp h
  obtain ⟨_, j₃, hvalid, h⟩ := journal_bind_ok.mp h
  obtain ⟨order, j₄, horder, h⟩ := journal_bind_ok.mp h
  obtain ⟨j₅, j₆, hget, h⟩ := journal_bind_ok.mp h
  have hbefore : j₃.commands = [] := by
    rw [(journal_lift_ok.mp hvalid).2, (journal_lift_ok.mp hrequire).2, (newUuid7_ok hid).2]
    exact hj
  have hread : j₅ = j₄ := (congrArg Prod.fst (Except.ok.inj hget)).symm
  have hcreated := congrArg Prod.fst (Except.ok.inj h)
  obtain ⟨stored, rfl, hfound⟩ := Option.bind_eq_some_iff.mp hcreated
  obtain ⟨command, hcommand, rfl⟩ := Option.map_eq_some_iff.mp hfound
  obtain ⟨row, digest, hrow, hother⟩ := createFromRiskDecision_rehashed other hbefore horder
  rw [hread, Journal.commandOf?, hrow, List.find?_singleton] at hcommand
  split at hcommand
  · rename_i hsame
    cases hcommand
    refine ⟨digest, { j₄ with commands := [rehashed command digest] }, journal_bind_ok.mpr ⟨commandId, j₁, hid, journal_bind_ok.mpr ⟨_, j₂, hrequire,
      journal_bind_ok.mpr ⟨_, j₃, hvalid, journal_bind_ok.mpr ⟨some stored, _, hother, journal_bind_ok.mpr
      ⟨{ j₄ with commands := [rehashed command digest] }, _, rfl, ?_⟩⟩⟩⟩⟩⟩
    have hfind : ({ j₄ with commands := [rehashed command digest] } : Journal).commandOf? stored.id =
        some (rehashed command digest) := by
      rw [Journal.commandOf?, List.find?_singleton]
      exact if_pos hsame
    show Except.ok (Option.map _ (Journal.commandOf? _ _), _) = _
    rw [hfind]
    rfl
  · cases hcommand

end AutoTrader.Trader
