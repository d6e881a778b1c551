import AutoTrader.Trader.OrderCreation

/-! A stop behind a position is created as long as no intent has its identity, and never again
afterwards: the intent that is found is not the one the order service is given. -/

namespace AutoTrader.Trader

open AutoTrader.Domain AutoTrader.Execution AutoTrader.Binance AutoTrader.Runtime

variable {ids : Nat → UUID} {sha256 : String → Digest} {limit : Nat} {j : Journal}

/-- The key of the command that submits an order first. -/
def submitKey (orderId : UUID) : String :=
  String.ofList orderId.hex ++ ":" ++ CommandType.submit.value.toLower ++ ":" ++ toString 1

theorem submitKey_injective {a b : UUID} (h : submitKey a = submitKey b) : a = b := by
  have htext := congrArg String.toList h
  unfold submitKey at htext
  simp only [String.toList_append, String.toList_ofList, List.append_cancel_right_eq] at htext
  exact UUID.hex_injective htext

/-- The first ids are UUIDs of version seven, and none is drawn twice. -/
structure IdSupply (ids : Nat → UUID) (limit : Nat) : Prop where
  version7 : ∀ n < limit, (ids n).isVersion7
  injective : Set.InjOn ids (Set.Iio limit)

theorem IdSupply.ne (h : IdSupply ids limit) {m n : Nat} (hm : m < limit) (hn : n < limit) (hne : m ≠ n) :
    ids m ≠ ids n :=
  fun heq => hne (h.injective (Set.mem_Iio.mpr hm) (Set.mem_Iio.mpr hn) heq)

/-- Nothing in the journal is under an id that is still to be drawn. -/
structure Fresh (ids : Nat → UUID) (limit : Nat) (j : Journal) : Prop where
  intents : ∀ row ∈ j.intents, ∀ n, j.drawn ≤ n → n < limit → row.id ≠ ids n
  orders : ∀ row ∈ j.orders, ∀ n, j.drawn ≤ n → n < limit →
    row.id ≠ ids n ∧ row.orderIntentId ≠ ids n ∧ row.brokerClientOrderId ≠ clientOrderIdText (ids n)
  commands : ∀ row ∈ j.commands, ∀ n, j.drawn ≤ n → n < limit →
    row.id ≠ ids n ∧ row.orderId ≠ ids n ∧ row.idempotencyKey ≠ submitKey (ids n)

/-- New rows are under ids drawn before. -/
theorem Fresh.extend {j' : Journal} (hids : IdSupply ids limit) (h : Fresh ids limit j) (hdrawn : j.drawn ≤ j'.drawn)
    (hintents : ∀ row ∈ j'.intents, row ∈ j.intents ∨ ∃ m < j'.drawn, row.id = ids m)
    (horders : ∀ row ∈ j'.orders, row ∈ j.orders ∨ (∃ m < j'.drawn, row.id = ids m) ∧
      (∃ m < j'.drawn, row.orderIntentId = ids m) ∧ ∃ m < j'.drawn, row.brokerClientOrderId = clientOrderIdText (ids m))
    (hcommands : ∀ row ∈ j'.commands, row ∈ j.commands ∨ (∃ m < j'.drawn, row.id = ids m) ∧
      (∃ m < j'.drawn, row.orderId = ids m) ∧ ∃ m < j'.drawn, row.idempotencyKey = submitKey (ids m)) :
    Fresh ids limit j' := by
  have hne : ∀ m n, m < j'.drawn → j'.drawn ≤ n → n < limit → ids m ≠ ids n := fun m n hm hn hlimit =>
    hids.ne (by omega) hlimit (by omega)
  constructor
  · intro row hrow n hn hlimit
    rcases hintents row hrow with hold | ⟨m, hm, hid⟩
    · exact h.intents row hold n (by omega) hlimit
    · rw [hid]
      exact hne m n hm hn hlimit
  · intro row hrow n hn hlimit
    rcases horders row hrow with hold | ⟨⟨m, hm, hid⟩, ⟨k, hk, hintent⟩, i, hi, hclient⟩
    · exact h.orders row hold n (by omega) hlimit
    · rw [hid, hintent, hclient]
      exact ⟨hne m n hm hn hlimit, hne k n hk hn hlimit,
        fun heq => hne i n hi hn hlimit (clientOrderIdText_injective heq)⟩
  · intro row hrow n hn hlimit
    rcases hcommands row hrow with hold | ⟨⟨m, hm, hid⟩, ⟨k, hk, horder⟩, i, hi, hkey⟩
    · exact h.commands row hold n (by omega) hlimit
    · rw [hid, horder, hkey]
      exact ⟨hne m n hm hn hlimit, hne k n hk hn hlimit, fun heq => hne i n hi hn hlimit (submitKey_injective heq)⟩

/-! ### One insert -/

theorem createOrGet_new {intent : PersistedOrderIntent}
    (hnew : ∀ row ∈ j.intents, row.id ≠ intent.id ∧ row.idempotencyKey ≠ intent.idempotencyKey) :
    createOrGet intent j = .ok (intent, { j with intents := j.intents ++ [intent] }) := by
  have htaken : (j.intents.any fun row => row.id = intent.id || row.idempotencyKey = intent.idempotencyKey) = false := by
    rw [List.any_eq_false]
    intro row hrow
    simp [(hnew row hrow).1, (hnew row hrow).2]
  have hnone : j.intents.find? (·.idempotencyKey = intent.idempotencyKey) = none :=
    List.find?_eq_none.mpr fun row hrow => by simpa using (hnew row hrow).2
  unfold createOrGet
  simp [htaken, List.find?_append, hnone]

/-- A market order of positive terms that the columns keep. -/
structure KeptTerms (order : Order) : Prop where
  market : order.orderStyle = .market
  limitPrice : order.limitPrice = none
  quantity : 0 < order.requestedQuantity.toRat ∧ order.requestedQuantity.column.toRat = order.requestedQuantity.toRat
  trigger : ∀ trigger, order.triggerPrice = some trigger → 0 < trigger.toRat ∧ trigger.column.toRat = trigger.toRat

theorem validate_market {order : Order} (hmarket : order.orderStyle = .market) (hlimit : order.limitPrice = none)
    (hquantity : 0 < order.requestedQuantity.toRat)
    (htrigger : ∀ trigger, order.triggerPrice = some trigger → 0 < trigger.toRat) : order.validate = .ok () := by
  unfold Order.validate
  rw [if_neg (not_le.mpr hquantity), hmarket, hlimit]
  cases hprice : order.triggerPrice with
  | none => rfl
  | some trigger =>
    dsimp only
    rw [if_neg (by simp), if_neg (not_le.mpr (htrigger trigger hprice))]
    rfl

theorem KeptTerms.validate {order : Order} (h : KeptTerms order) : order.validate = .ok () :=
  validate_market h.market h.limitPrice h.quantity.1 fun trigger htrigger => (h.trigger trigger htrigger).1

theorem KeptTerms.validate_row {order : Order} (h : KeptTerms order) : (orderRow order).toOrder.validate = .ok () := by
  refine validate_market h.market ?_ ?_ fun trigger htrigger => ?_
  · simp [orderRow, h.limitPrice]
  · show 0 < order.requestedQuantity.column.toRat
    rw [h.quantity.2]
    exact h.quantity.1
  · obtain ⟨given, hgiven, rfl⟩ := Option.map_eq_some_iff.mp htrigger
    rw [(h.trigger given hgiven).2]
    exact (h.trigger given hgiven).1

theorem KeptTerms.same {order : Order} (h : KeptTerms order) : sameOrder (orderRow order) order = true := by
  have htrigger : (orderRow order).triggerPrice.map Decimal.toRat = order.triggerPrice.map Decimal.toRat := by
    cases hprice : order.triggerPrice with
    | none => simp [orderRow, hprice]
    | some trigger => simp [orderRow, hprice, (h.trigger trigger hprice).2]
  have hlimit : (orderRow order).limitPrice.map Decimal.toRat = order.limitPrice.map Decimal.toRat := by
    simp [orderRow, h.limitPrice]
  have hquantity : (orderRow order).requestedQuantity.toRat = order.requestedQuantity.toRat := h.quantity.2
  unfold sameOrder
  rw [htrigger, hlimit, hquantity]
  simp [orderRow]

theorem createOrderOnce_new {order : Order} (hterms : KeptTerms order)
    (hnew : ∀ row ∈ j.orders, row.id ≠ order.id ∧ row.orderIntentId ≠ order.orderIntentId ∧
      row.brokerClientOrderId ≠ order.brokerClientOrderId) :
    createOrderOnce order j = .ok (orderRow order, { j with orders := j.orders ++ [orderRow order] }) := by
  have hquantity : ¬(orderRow order).requestedQuantity.toRat ≤ 0 := by
    show ¬order.requestedQuantity.column.toRat ≤ 0
    rw [hterms.quantity.2]
    exact not_le.mpr hterms.quantity.1
  have htaken : (j.orders.any fun other => other.id = (orderRow order).id ||
      other.orderIntentId = (orderRow order).orderIntentId ||
      (other.accountId = (orderRow order).accountId &&
        other.brokerClientOrderId = (orderRow order).brokerClientOrderId)) = false := by
    rw [List.any_eq_false]
    intro row hrow
    obtain ⟨hid, hintent, hclient⟩ := hnew row hrow
    simp [orderRow, hid, hintent, hclient]
  have hnone : j.orders.find? (·.orderIntentId = order.orderIntentId) = none :=
    List.find?_eq_none.mpr fun row hrow => by simpa using (hnew row hrow).2.1
  have hself : (orderRow order).orderIntentId = order.orderIntentId := rfl
  unfold createOrderOnce
  dsimp only
  rw [htaken, decide_eq_false hquantity]
  simp [List.find?_append, hnone, hself, hterms.same]

theorem createCommandOnce_new {command : BrokerOrderCommand} {row : PersistedOrderCommand}
    (hrow : commandRow command = some row) (hnew : commandTaken j.commands row = false)
    (hkey : ∀ other ∈ j.commands, other.idempotencyKey ≠ row.idempotencyKey) :
    createCommandOnce command j = .ok (row, { j with commands := j.commands ++ [row] }) := by
  have hnone : j.commands.find? (·.idempotencyKey = row.idempotencyKey) = none :=
    List.find?_eq_none.mpr fun other hother => by simpa using hkey other hother
  unfold createCommandOnce
  rw [hrow]
  simp [hnew, List.find?_append, hnone]

/-! ### One order -/

/-- What an order leaves in the journal: its row and the command that submits it. -/
structure Ordered (ids : Nat → UUID) (j j' : Journal) (intentId : UUID) (clientOrderId : String) (quantity : ℚ)
    (row : PersistedOrder) (command : PersistedOrderCommand) : Prop where
  journal : j' = { j with orders := j.orders ++ [row], commands := j.commands ++ [command], drawn := j.drawn + 2 }
  id : row.id = ids j.drawn
  intent : row.orderIntentId = intentId
  client : row.brokerClientOrderId = clientOrderId
  quantity : row.requestedQuantity.toRat = quantity
  commandId : command.id = ids (j.drawn + 1)
  commandOrder : command.orderId = ids j.drawn
  commandKey : command.idempotencyKey = submitKey (ids j.drawn)

variable (sha256) in
theorem create_submit (freshId : UUID) {order : Order} {submission : OrderSubmissionContext} (origin : IntentOrigin)
    (hauthority : submission.authorityClass = .submitStrictReduction) (hversion : order.aggregateVersion = 1) :
    ∃ command row, OrderCommandFactory.create sha256 freshId order .submit submission origin none = .ok command ∧
      commandRow command = some row ∧ command.commandType = .submit ∧ command.originType = origin ∧
      row.id = submission.commandId.getD freshId ∧ row.orderId = order.id ∧ row.idempotencyKey = submitKey order.id ∧
      ∀ createdAt, rebuiltContext command createdAt = { submission with createdAt := createdAt, commandId := none } := by
  have hadmits : CommandType.submit.admits submission.authorityClass = true := by
    rw [hauthority]
    rfl
  unfold OrderCommandFactory.create
  rw [if_pos hadmits]
  refine ⟨_, _, rfl, dif_pos hadmits, rfl, rfl, rfl, rfl, ?_, fun _ => rfl⟩
  dsimp only
  rw [hversion]
  rfl

variable (sha256) in
theorem createFromRiskDecision_new {decision : RiskDecision} {intent : OrderIntent}
    {submission : OrderSubmissionContext} {commandId : UUID} (hfresh : Fresh ids limit j)
    (hroom : j.drawn + 2 ≤ limit) (hcommand : submission.commandId = some commandId)
    (houtcome : decision.outcome = .reduce) (hauthority : submission.authorityClass = .submitStrictReduction)
    (hbelongs : decision.orderIntentId = intent.id) (hvalid : submission.validate = .ok ())
    (hterms : KeptTerms (orderOf (ids j.drawn) decision intent submission))
    (hunused : ∀ row ∈ j.orders, row.orderIntentId ≠ intent.id ∧
      row.brokerClientOrderId ≠ submission.brokerClientOrderId) :
    ∃ order j' row command, createFromRiskDecision ids sha256 decision intent submission j = .ok (some order, j') ∧
      order.id = row.id ∧ Ordered ids j j' intent.id submission.brokerClientOrderId decision.approvedQuantity.toRat
        row command := by
  set order : Order := orderOf (ids j.drawn) decision intent submission with horder
  have hagree : requireAgreement decision intent submission = .ok () := by
    simp [requireAgreement, houtcome, hauthority, hbelongs]
    rfl
  obtain ⟨given, -, hgiven, -, htype, horigin, -, -, -, hcontext⟩ :=
    create_submit sha256 commandId intent.origin hauthority (rfl : order.aggregateVersion = 1)
  let rebuilt : OrderSubmissionContext := { submission with createdAt := order.createdAt, commandId := none }
  have hrebuilt : rebuilt.authorityClass = .submitStrictReduction := hauthority
  obtain ⟨canonical, row, hcanonical, hrow, -, -, hrowId, hrowOrder, hrowKey, -⟩ :=
    create_submit sha256 (ids (j.drawn + 1)) intent.origin hrebuilt (rfl : (orderRow order).toOrder.aggregateVersion = 1)
  have hfirst : j.drawn < limit := by omega
  have hinserted : createOrderOnce order { j with drawn := j.drawn + 1 } =
      .ok (orderRow order, { j with orders := j.orders ++ [orderRow order], drawn := j.drawn + 1 }) := by
    refine createOrderOnce_new hterms fun other hother => ⟨?_, ?_, (hunused other hother).2⟩
    · exact (hfresh.orders other hother _ le_rfl hfirst).1
    · show other.orderIntentId ≠ decision.orderIntentId
      rw [hbelongs]
      exact (hunused other hother).1
  have hcommands : ∀ other ∈ j.commands,
      other.id ≠ row.id ∧ other.orderId ≠ row.orderId ∧ other.idempotencyKey ≠ row.idempotencyKey := by
    intro other hother
    rw [hrowId, hrowOrder, hrowKey]
    exact ⟨(hfresh.commands other hother _ (Nat.le_succ _) (by omega)).1,
      (hfresh.commands other hother _ le_rfl hfirst).2.1, (hfresh.commands other hother _ le_rfl hfirst).2.2⟩
  have htaken : commandTaken j.commands row = false := by
    unfold commandTaken
    rw [List.any_eq_false]
    intro other hother
    obtain ⟨hid, horderId, hkey⟩ := hcommands other hother
    simp [hid, horderId, hkey]
  refine ⟨(orderRow order).toOrder, _, orderRow order, row, ?_, rfl, ⟨rfl, rfl, hbelongs, rfl, hterms.quantity.2, hrowId,
    hrowOrder, hrowKey⟩⟩
  unfold createFromRiskDecision
  rw [if_neg (by simp [houtcome])]
  refine journal_bind_ok.mpr ⟨_, _, journal_lift_ok.mpr ⟨hagree, rfl⟩, ?_⟩
  refine journal_bind_ok.mpr ⟨_, _, rfl, ?_⟩
  refine journal_bind_ok.mpr ⟨_, _, journal_lift_ok.mpr ⟨hterms.validate, rfl⟩, ?_⟩
  refine journal_bind_ok.mpr ⟨commandId, _, by rw [chosenId, hcommand]; rfl, ?_⟩
  refine journal_bind_ok.mpr ⟨given, _, journal_lift_ok.mpr ⟨hgiven, rfl⟩, ?_⟩
  refine journal_bind_ok.mpr ⟨_, _, ?_, rfl⟩
  refine journal_bind_ok.mpr ⟨_, _, hinserted, ?_⟩
  have hdomain : toDomainOrder (orderRow order) = .ok (orderRow order).toOrder := by
    unfold toDomainOrder
    rw [hterms.validate_row]
    rfl
  refine journal_bind_ok.mpr ⟨_, _, journal_lift_ok.mpr ⟨hdomain, rfl⟩, ?_⟩
  rw [hcontext, htype, horigin]
  refine journal_bind_ok.mpr ⟨_, _, journal_lift_ok.mpr ⟨hvalid, rfl⟩, ?_⟩
  refine journal_bind_ok.mpr ⟨_, _, rfl, ?_⟩
  refine journal_bind_ok.mpr ⟨canonical, _, journal_lift_ok.mpr ⟨hcanonical, rfl⟩, ?_⟩
  exact journal_bind_ok.mpr ⟨row, _, createCommandOnce_new hrow htaken fun other hother => (hcommands other hother).2.2, rfl⟩

/-! ### One stop -/

/-- The identity of the structural stop behind a position. -/
def stopIdentity (account : ExecutionAccount) (positionId : UUID) : String :=
  intentIdentity .protection positionId account.account.id (some structuralStopReason)

/-- An account whose orders are let through. -/
def ExecutionAccount.isReady (account : ExecutionAccount) : Bool :=
  account.account.enabled && account.account.policyActive && decide (account.fencingToken ≠ 0)

/-- A plan of positive amounts that the columns keep. -/
structure ProtectionPlan.Kept (plan : ProtectionPlan) : Prop where
  quantity : 0 < plan.quantity.toRat ∧ plan.quantity.column.toRat = plan.quantity.toRat
  structuralStop : 0 < plan.structuralStop.toRat ∧ plan.structuralStop.column.toRat = plan.structuralStop.toRat

/-- `create_protective_order` with its defaults, as the settlement calls it. -/
def createStructuralStop (ids : Nat → UUID) (sha256 : String → Digest) (account : ExecutionAccount)
    (plan : ProtectionPlan) (now : Instant) : JournalAct (Option Created) :=
  createProtectiveOrder ids sha256 account plan now structuralStopReason .protective none none marketTimeInForce

variable {account : ExecutionAccount} {plan : ProtectionPlan} {now : Instant}

theorem submissionContext_valid (commandId : UUID) (hready : account.isReady) :
    (submissionContext account commandId .submitStrictReduction marketTimeInForce now).validate = .ok () := by
  have hdigits : ∀ d < 16, (hexDigit d).toNat < 128 := by decide +kernel
  have hascii : ((clientOrderIdText commandId).toList.any fun c => decide (128 ≤ c.toNat)) = false := by
    rw [List.any_eq_false]
    intro c hc
    have hsmall : c.toNat < 128 := by
      unfold clientOrderIdText at hc
      rw [String.toList_ofList] at hc
      simp only [List.mem_cons] at hc
      rcases hc with rfl | rfl | rfl | hc
      · decide
      · decide
      · decide
      · obtain ⟨d, hd, rfl⟩ := mem_hexDigits hc
        exact hdigits d hd
    simp [hsmall]
  have hsome : (clientOrderIdText commandId).isEmpty = false := by
    simp [clientOrderIdText]
  unfold ExecutionAccount.isReady at hready
  simp only [Bool.and_eq_true, decide_eq_true_eq] at hready
  unfold OrderSubmissionContext.validate submissionContext
  dsimp only
  rw [hsome, hascii, if_neg (by simp), if_neg hready.2, if_neg, if_neg (by decide)]
  · rfl
  · exact not_le.mpr (lt_add_of_pos_right now (by decide))

/-- The request of a structural stop. -/
def stopRequest (plan : ProtectionPlan) : ProtectionRequest where
  lockedPositionId := plan.positionId
  reasonCode := structuralStopReason
  instrumentId := plan.instrumentId
  intentType := .protective
  side := plan.entrySide.opposite
  orderStyle := .market
  terms :=
    { requestedQuantity := plan.quantity
      limitPrice := none
      triggerPrice := some plan.structuralStop }
  quote := none

/-- The intent of a structural stop. -/
def stopIntent (id : UUID) (account : ExecutionAccount) (plan : ProtectionPlan) : OrderIntent where
  id := id
  origin := .protection
  sourceId := plan.positionId
  accountId := account.account.id
  instrumentId := plan.instrumentId
  intentType := .protective
  side := plan.entrySide.opposite
  orderStyle := .market
  quantity := plan.quantity
  limitPrice := none
  idempotencyKey := stopIdentity account plan.positionId
  triggerPrice := some plan.structuralStop

theorem fromProtection_stop (id : UUID) (hready : account.isReady) (hplan : plan.Kept) :
    fromProtection id (stopRequest plan) account.account = .ok (stopIntent id account plan) := by
  have htext : hasText structuralStopReason = true := by decide
  unfold ExecutionAccount.isReady at hready
  simp only [Bool.and_eq_true, decide_eq_true_eq] at hready
  have henabled : requireEnabledAccount account.account = .ok () := by
    simp [requireEnabledAccount, hready.1]
    rfl
  have hterms : requireTerms plan.entrySide.opposite .market (stopRequest plan).terms none = .ok () := by
    unfold requireTerms stopRequest
    rw [if_neg (not_le.mpr hplan.quantity.1)]
    rfl
  have hintent : (stopIntent id account plan).validate = .ok () := by
    unfold OrderIntent.validate stopIntent
    dsimp only
    rw [if_neg (by simp), if_neg (not_le.mpr hplan.structuralStop.1)]
    rfl
  have hreason : ((!hasText (stopRequest plan).reasonCode) = true) = False := by
    simp [stopRequest, htext]
  unfold fromProtection
  simp only [hreason, if_false]
  show (requireEnabledAccount account.account >>= fun _ => requireTerms plan.entrySide.opposite .market _ none >>= fun _ =>
    (stopIntent id account plan).validate >>= fun _ => pure (stopIntent id account plan)) = _
  rw [henabled, hterms, hintent]
  rfl

/-- What a structural stop leaves in the journal. -/
structure StopPlaced (ids : Nat → UUID) (limit : Nat) (account : ExecutionAccount) (plan : ProtectionPlan)
    (j j' : Journal) : Prop where
  orders : ∃ row, j'.orders = j.orders ++ [row] ∧ row.requestedQuantity.toRat = plan.quantity.toRat
  intents : ∃ intent, j'.intents = j.intents ++ [intent] ∧ intent.idempotencyKey = stopIdentity account plan.positionId
  anchored : j'.anchored = j.anchored
  drawn : j'.drawn = j.drawn + 5
  fresh : Fresh ids limit j'

variable (sha256 now) in
/-- The first stop behind a position is created. -/
theorem structuralStop_placed (hids : IdSupply ids limit) (hfresh : Fresh ids limit j) (hroom : j.drawn + 5 ≤ limit)
    (hready : account.isReady) (hanchored : j.anchored) (hplan : plan.Kept)
    (hfree : ∀ row ∈ j.intents, row.idempotencyKey ≠ stopIdentity account plan.positionId) :
    ∃ created j', createStructuralStop ids sha256 account plan now j = .ok (some created, j') ∧
      StopPlaced ids limit account plan j j' := by
  set intent : OrderIntent := stopIntent (ids j.drawn) account plan with hintent
  let stored : PersistedOrderIntent :=
    { id := intent.id
      idempotencyKey := intent.idempotencyKey
      canonicalPayloadHash := intentHash sha256 intent
      intentType := intent.intentType
      strategySignalId := none
      protectionPositionId := some plan.positionId
      protectionReasonCode := some structuralStopReason }
  let decision : RiskDecision :=
    { id := ids (j.drawn + 1)
      orderIntentId := stored.id
      outcome := .reduce
      approvedQuantity := plan.quantity
      approvedLimitPrice := none }
  let named : Journal := { j with intents := j.intents ++ [stored], drawn := j.drawn + 3 }
  have hnamed : Fresh ids limit named := by
    refine hfresh.extend hids (Nat.le_add_right _ _) (fun row hrow => ?_) (fun row hrow => .inl hrow) fun row hrow => .inl hrow
    exact (List.mem_append.mp hrow).imp_right fun hnew => ⟨j.drawn, by show j.drawn < j.drawn + 3; omega, by rw [List.mem_singleton.mp hnew]; rfl⟩
  have hterms : KeptTerms (orderOf (ids named.drawn) decision intent
      (submissionContext account (ids (j.drawn + 2)) .submitStrictReduction marketTimeInForce now)) := by
    refine ⟨rfl, rfl, hplan.quantity, fun trigger htrigger => ?_⟩
    rw [← Option.some.inj htrigger]
    exact hplan.structuralStop
  have hunused : ∀ row ∈ named.orders, row.orderIntentId ≠ intent.id ∧
      row.brokerClientOrderId ≠ clientOrderIdText (ids (j.drawn + 2)) := fun row hrow =>
    ⟨(hfresh.orders row hrow j.drawn le_rfl (by omega)).2.1,
      (hfresh.orders row hrow (j.drawn + 2) (Nat.le_add_right _ _) (by omega)).2.2⟩
  obtain ⟨order, j', row, command, hordered, horderId, hleft⟩ := createFromRiskDecision_new sha256 hnamed
    (by show j.drawn + 3 + 2 ≤ limit; omega) rfl (rfl : decision.outcome = .reduce) rfl (rfl : decision.orderIntentId = intent.id)
    (submissionContext_valid (ids (j.drawn + 2)) hready) hterms hunused
  have hnew : ∀ old ∈ j.intents, old.id ≠ stored.id ∧ old.idempotencyKey ≠ stored.idempotencyKey := fun old hold =>
    ⟨hfresh.intents old hold j.drawn le_rfl (by omega), hfree old hold⟩
  have hread : j'.commandOf? order.id = some command := by
    have hnone : j.commands.find? (·.orderId = order.id) = none := by
      refine List.find?_eq_none.mpr fun old hold => ?_
      rw [horderId, hleft.id]
      simpa using (hfresh.commands old hold (j.drawn + 3) (Nat.le_add_right _ _) (by omega)).2.1
    unfold Journal.commandOf?
    rw [hleft.journal]
    show (j.commands ++ [command]).find? _ = _
    rw [List.find?_append, hnone, List.find?_singleton, if_pos (by simp [horderId, hleft.id, hleft.commandOrder])]
    rfl
  refine ⟨⟨ids (j.drawn + 2), command⟩, j', ?_, ?_⟩
  · refine journal_bind_ok.mpr ⟨ids j.drawn, _, rfl, ?_⟩
    refine journal_bind_ok.mpr ⟨intent, _, journal_lift_ok.mpr ⟨fromProtection_stop _ hready hplan, rfl⟩, ?_⟩
    refine journal_bind_ok.mpr ⟨stored, { j with intents := j.intents ++ [stored], drawn := j.drawn + 1 },
      createOrGet_new hnew, ?_⟩
    refine journal_bind_ok.mpr ⟨ids (j.drawn + 1), _, rfl, ?_⟩
    refine journal_bind_ok.mpr ⟨(), _, if_pos hanchored, ?_⟩
    refine journal_bind_ok.mpr ⟨ids (j.drawn + 2), named, rfl, ?_⟩
    refine journal_bind_ok.mpr ⟨(), named, journal_lift_ok.mpr ⟨?_, rfl⟩, ?_⟩
    · exact requireUuid7_ok.mpr (hids.version7 _ (by omega))
    refine journal_bind_ok.mpr ⟨(), named, journal_lift_ok.mpr ⟨submissionContext_valid _ hready, rfl⟩, ?_⟩
    refine journal_bind_ok.mpr ⟨some order, j', hordered, ?_⟩
    refine journal_bind_ok.mpr ⟨j', j', rfl, ?_⟩
    rw [Option.bind_some, hread]
    rfl
  · obtain ⟨hjournal, hid, hbelongs, hclient, hquantity, hcommandId, hcommandOrder, hcommandKey⟩ := hleft
    have hdrawn : j'.drawn = j.drawn + 5 := by
      rw [hjournal]
    refine ⟨⟨row, by rw [hjournal], hquantity⟩, ⟨stored, by rw [hjournal], rfl⟩, by rw [hjournal], hdrawn, ?_⟩
    refine hnamed.extend hids (by rw [hdrawn]; exact Nat.le_add_right (j.drawn + 3) 2) ?_ ?_ ?_
    · rw [hjournal]
      exact fun old hold => .inl hold
    · rw [hdrawn, hjournal]
      intro old hold
      refine (List.mem_append.mp hold).imp_right fun hnew => ?_
      rw [List.mem_singleton.mp hnew]
      exact ⟨⟨j.drawn + 3, by omega, hid⟩, ⟨j.drawn, by omega, hbelongs⟩, j.drawn + 2, by omega, hclient⟩
    · rw [hdrawn, hjournal]
      intro old hold
      refine (List.mem_append.mp hold).imp_right fun hnew => ?_
      rw [List.mem_singleton.mp hnew]
      exact ⟨⟨j.drawn + 4, by omega, hcommandId⟩, ⟨j.drawn + 3, by omega, hcommandOrder⟩, j.drawn + 3, by omega,
        hcommandKey⟩

theorem fromProtection_ok {id : UUID} {request : ProtectionRequest} {candidate : AccountCandidate} {intent : OrderIntent}
    (h : fromProtection id request candidate = .ok intent) :
    intent.id = id ∧
      intent.idempotencyKey = intentIdentity .protection request.lockedPositionId candidate.id request.reasonCode := by
  unfold fromProtection at h
  split at h
  · cases h
  obtain ⟨_, -, h⟩ := bind_ok.mp h
  obtain ⟨_, -, h⟩ := bind_ok.mp h
  obtain ⟨_, -, h⟩ := bind_ok.mp h
  rw [← Except.ok.inj h]
  exact ⟨rfl, rfl⟩

/-- An identity that is taken gives the intent that took it. -/
theorem createOrGet_taken {intent stored : PersistedOrderIntent} {j' : Journal}
    (htaken : ∃ row ∈ j.intents, row.idempotencyKey = intent.idempotencyKey)
    (h : createOrGet intent j = .ok (stored, j')) : stored ∈ j.intents := by
  obtain ⟨row, hrow, hkey⟩ := htaken
  have hany : (j.intents.any fun other => other.id = intent.id || other.idempotencyKey = intent.idempotencyKey) = true :=
    List.any_eq_true.mpr ⟨row, hrow, by simp [hkey]⟩
  unfold createOrGet at h
  dsimp only at h
  rw [if_pos hany] at h
  split at h
  · cases h
  · rename_i existing hfound
    split at h <;> cases h
    exact List.mem_of_find?_eq_some hfound

/-- No later one is: the identity is taken, and the intent that took it is not the one of the order. -/
theorem structuralStop_taken (hids : ∀ row ∈ j.intents, row.id ≠ ids j.drawn)
    (htaken : ∃ row ∈ j.intents, row.idempotencyKey = stopIdentity account plan.positionId) {j' : Journal}
    {created : Option Created} : createStructuralStop ids sha256 account plan now j ≠ .ok (created, j') := by
  intro h
  obtain ⟨intentId, j₁, hdraw, h⟩ := journal_bind_ok.mp h
  obtain ⟨rfl, rfl⟩ := newUuid7_ok hdraw
  obtain ⟨intent, j₂, hintent, h⟩ := journal_bind_ok.mp h
  obtain ⟨hmade, rfl⟩ := journal_lift_ok.mp hintent
  obtain ⟨hid, hkey⟩ := fromProtection_ok hmade
  obtain ⟨stored, j₃, hstored, h⟩ := journal_bind_ok.mp h
  obtain ⟨decisionId, j₄, -, h⟩ := journal_bind_ok.mp h
  obtain ⟨_, j₅, -, h⟩ := journal_bind_ok.mp h
  have hold := createOrGet_taken (by rw [hkey]; exact htaken) hstored
  obtain ⟨commandId, j₆, -, h⟩ := journal_bind_ok.mp h
  obtain ⟨_, j₇, -, h⟩ := journal_bind_ok.mp h
  obtain ⟨_, j₈, -, h⟩ := journal_bind_ok.mp h
  obtain ⟨order, j₉, horder, -⟩ := journal_bind_ok.mp h
  unfold createFromRiskDecision at horder
  rw [if_neg (by simp)] at horder
  obtain ⟨_, j₁₀, hagree, -⟩ := journal_bind_ok.mp horder
  have hbelongs := (journal_lift_ok.mp hagree).1
  unfold requireAgreement at hbelongs
  split at hbelongs
  · cases hbelongs
  split at hbelongs
  · cases hbelongs
  · rename_i hsame
    rw [not_not] at hsame
    exact hids stored hold (hsame.trans hid)

end AutoTrader.Trader
