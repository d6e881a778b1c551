import AutoTrader.Kis.CashReconciliation

/-! What a complete reconciliation of a KIS cash account was read from: two whole passes over the pages that gave the same
orders, and facts of the account in between. -/

namespace AutoTrader.Kis

open AutoTrader.Binance AutoTrader.Dispatch AutoTrader.Domain AutoTrader.Execution

variable {σ : Type} {source : KisCashReconciliationSource σ} {bindingId : UUID} {tradeDate : Int}

/-! ### Passes -/

/-- The pages that are read from a cursor on, up to the one without a cursor. -/
inductive Reads (source : KisCashReconciliationSource σ) (bindingId : UUID) (tradeDate : Int) :
    Option String → σ → List BuiltPage → σ → Prop
  | last {cursor : Option String} {s s' : σ} {page : BuiltPage}
      (h : source.readDailyOrderPage bindingId tradeDate cursor s = (.ok page, s')) (hlast : page.nextCursor = none) :
      Reads source bindingId tradeDate cursor s [page] s'
  | more {cursor : Option String} {s middle s' : σ} {page : BuiltPage} {next : String} {pages : List BuiltPage}
      (h : source.readDailyOrderPage bindingId tradeDate cursor s = (.ok page, middle))
      (hnext : page.nextCursor = some next) (hrest : Reads source bindingId tradeDate (some next) middle pages s') :
      Reads source bindingId tradeDate cursor s (page :: pages) s'

/-- The orders of the pages. -/
def passOrders (pages : List BuiltPage) : List KisDailyOrder := pages.flatMap fun page => page.orders

/-- The cursors the pages lead on with. -/
def passCursors (pages : List BuiltPage) : List String := pages.filterMap fun page => page.nextCursor

/-- The page is of the binding and the day, and its orders are of the binding. -/
structure InScope (bindingId : UUID) (tradeDate : Int) (page : BuiltPage) : Prop where
  binding : page.bindingId = bindingId
  day : page.providerTradeDate = tradeDate
  orders : ∀ order ∈ page.orders, order.bindingId = bindingId

theorem InScope.noneOutside {page : BuiltPage} (h : InScope bindingId tradeDate page) :
    (page.orders.any fun order => decide (order.bindingId ≠ bindingId)) = false :=
  List.any_eq_false.mpr fun order horder => by simpa using h.orders order horder

theorem passOrders_cons (page : BuiltPage) (pages : List BuiltPage) :
    passOrders (page :: pages) = page.orders ++ passOrders pages := List.flatMap_cons

theorem passOrders_single (page : BuiltPage) : passOrders [page] = page.orders := List.append_nil _

theorem passCursors_some {page : BuiltPage} {next : String} (h : page.nextCursor = some next) (pages : List BuiltPage) :
    passCursors (page :: pages) = next :: passCursors pages := by
  rw [passCursors, List.filterMap_cons, h]
  rfl

theorem passCursors_last {page : BuiltPage} (h : page.nextCursor = none) : passCursors [page] = [] := by
  rw [passCursors, List.filterMap_cons, h]
  rfl

/-- What nothing blocks in the pages, after some orders and cursors. -/
structure Unblocked (bindingId : UUID) (tradeDate : Int) (seenCursors : List String) (orders : List KisDailyOrder)
    (pages : List BuiltPage) : Prop where
  scope : ∀ page ∈ pages, InScope bindingId tradeDate page
  cursors : (passCursors pages).Nodup
  fresh : ∀ cursor ∈ passCursors pages, cursor ∉ seenCursors
  identities : ((orders ++ passOrders pages).map KisDailyOrder.identity).Nodup

variable {seenCursors : List String} {cursor : Option String} {orders : List KisDailyOrder} {pageCount rounds : ℕ}
  {s s' : σ} {pass : OrderPass}

/-- A pass that nothing blocks went over whole pages. -/
theorem collectPages_reads
    (h : collectPages source bindingId tradeDate rounds seenCursors cursor orders pageCount s = (pass, s'))
    (hclean : pass.blocker = none) :
    ∃ pages, Reads source bindingId tradeDate cursor s pages s' ∧ pages.length ≤ rounds ∧
      Unblocked bindingId tradeDate seenCursors orders pages ∧
      pass = ⟨orders ++ passOrders pages, pageCount + pages.length, none⟩ := by
  induction rounds generalizing seenCursors cursor orders pageCount s with
  | zero =>
    cases h
    cases hclean
  | succ rounds ih =>
    unfold collectPages at h
    split at h
    · cases h
      cases hclean
    rename_i page middle hread
    split at h
    · cases h
      cases hclean
    rename_i hbinding
    split at h
    · cases h
      cases hclean
    rename_i hday
    split at h
    · cases h
      cases hclean
    rename_i horders
    have hscope : InScope bindingId tradeDate page := by
      refine ⟨not_not.mp hbinding, not_not.mp hday, fun order horder => ?_⟩
      by_contra hne
      exact horders (List.any_eq_true.mpr ⟨order, horder, decide_eq_true hne⟩)
    split at h
    · rename_i hlast
      split at h
      · rename_i hnodup
        cases h
        have hunblocked : Unblocked bindingId tradeDate seenCursors orders [page] := by
          refine ⟨List.forall_mem_singleton.mpr hscope, ?_, ?_, ?_⟩
          · rw [passCursors_last hlast]
            exact List.nodup_nil
          · rw [passCursors_last hlast]
            exact List.forall_mem_nil _
          · rwa [passOrders_single]
        exact ⟨[page], .last hread hlast, Nat.le_add_left _ _, hunblocked, by rw [passOrders_single, List.length_singleton]⟩
      · cases h
        cases hclean
    · rename_i next hnext
      split at h
      · cases h
        cases hclean
      rename_i hunseen
      obtain ⟨pages, hreads, hlength, hunblocked, hpass⟩ := ih h
      refine ⟨page :: pages, .more hread hnext hreads, Nat.succ_le_succ hlength, ⟨?_, ?_, ?_, ?_⟩, ?_⟩
      · exact List.forall_mem_cons.mpr ⟨hscope, hunblocked.scope⟩
      · rw [passCursors_some hnext, List.nodup_cons]
        exact ⟨fun hin => hunblocked.fresh next hin List.mem_cons_self, hunblocked.cursors⟩
      · rw [passCursors_some hnext, List.forall_mem_cons]
        exact ⟨hunseen, fun c hc hseen => hunblocked.fresh c hc (List.mem_cons_of_mem _ hseen)⟩
      · rw [passOrders_cons, ← List.append_assoc]
        exact hunblocked.identities
      · rw [hpass, passOrders_cons, List.append_assoc, List.length_cons, Nat.add_right_comm, Nat.add_assoc]

/-- Whole pages that nothing blocks are a pass. -/
theorem Reads.collected {pages : List BuiltPage} (h : Reads source bindingId tradeDate cursor s pages s')
    (hlength : pages.length ≤ rounds) (hunblocked : Unblocked bindingId tradeDate seenCursors orders pages) :
    collectPages source bindingId tradeDate rounds seenCursors cursor orders pageCount s =
      (⟨orders ++ passOrders pages, pageCount + pages.length, none⟩, s') := by
  induction h generalizing rounds seenCursors orders pageCount with
  | last hread hlast =>
    rename_i page
    cases rounds with
    | zero => cases hlength
    | succ rounds =>
      have hscope := hunblocked.scope page List.mem_cons_self
      have hnodup := hunblocked.identities
      rw [passOrders_single] at hnodup ⊢
      rw [collectPages, hread]
      dsimp only
      rw [if_neg (not_not.mpr hscope.binding), if_neg (not_not.mpr hscope.day), hscope.noneOutside,
        if_neg Bool.false_ne_true, hlast]
      dsimp only
      rw [if_pos hnodup, List.length_singleton]
  | more hread hnext hrest ih =>
    rename_i page next pages
    cases rounds with
    | zero => cases hlength
    | succ rounds =>
      have hscope := hunblocked.scope page List.mem_cons_self
      have hcursors := hunblocked.cursors
      have hfresh := hunblocked.fresh
      rw [passCursors_some hnext] at hcursors hfresh
      rw [List.nodup_cons] at hcursors
      have hnew : next ∉ seenCursors := hfresh next List.mem_cons_self
      have hidentities := hunblocked.identities
      rw [passOrders_cons, ← List.append_assoc] at hidentities
      have hafter : Unblocked bindingId tradeDate (next :: seenCursors) (orders ++ page.orders) pages := by
        refine ⟨(List.forall_mem_cons.mp hunblocked.scope).2, hcursors.2, fun c hc hseen => ?_, hidentities⟩
        rcases List.mem_cons.mp hseen with rfl | hseen
        · exact hcursors.1 hc
        · exact hfresh c (List.mem_cons_of_mem _ hc) hseen
      rw [collectPages, hread]
      dsimp only
      rw [if_neg (not_not.mpr hscope.binding), if_neg (not_not.mpr hscope.day), hscope.noneOutside,
        if_neg Bool.false_ne_true, hnext]
      dsimp only
      rw [if_neg hnew, ih (Nat.le_of_succ_le_succ hlength) hafter, passOrders_cons, List.append_assoc, List.length_cons,
        Nat.add_right_comm, Nat.add_assoc]

/-- A pass is clean exactly when it went over whole pages that nothing blocks. -/
theorem collectOrderPass_clean :
    (collectOrderPass source bindingId tradeDate s = (pass, s') ∧ pass.blocker = none) ↔
      ∃ pages, Reads source bindingId tradeDate none s pages s' ∧ pages.length ≤ pageLimit ∧
        Unblocked bindingId tradeDate [] [] pages ∧ pass = ⟨passOrders pages, pages.length, none⟩ := by
  constructor
  · rintro ⟨h, hclean⟩
    obtain ⟨pages, hreads, hlength, hunblocked, hpass⟩ := collectPages_reads h hclean
    rw [List.nil_append, Nat.zero_add] at hpass
    exact ⟨pages, hreads, hlength, hunblocked, hpass⟩
  · rintro ⟨pages, hreads, hlength, hunblocked, rfl⟩
    have hcollected : collectOrderPass source bindingId tradeDate s =
        (⟨[] ++ passOrders pages, 0 + pages.length, none⟩, s') := hreads.collected hlength hunblocked
    rw [List.nil_append, Nat.zero_add] at hcollected
    exact ⟨hcollected, rfl⟩

/-! ### What blocks -/

variable {asOf : Instant} {blockers : List String} {account : Option KisAccountFacts} {first : OrderPass}

theorem accountBlockers_nil {facts : KisAccountFacts} :
    accountBlockers bindingId asOf facts = [] ↔
      facts.bindingId = bindingId ∧ facts.observedAt ≤ asOf ∧ asOf - facts.observedAt ≤ accountFactMaxAge := by
  unfold accountBlockers
  rw [List.append_eq_nil_iff]
  refine and_congr ?_ ?_
  · split
    · rename_i hne
      exact iff_of_false (List.cons_ne_nil _ _) hne
    · rename_i heq
      exact iff_of_true rfl (not_not.mp heq)
  · split
    · rename_i hlate
      exact iff_of_false (List.cons_ne_nil _ _) fun h => absurd h.1 (not_le.mpr hlate)
    · rename_i hpast
      split
      · rename_i hstale
        exact iff_of_false (List.cons_ne_nil _ _) fun h => absurd h.2 (not_le.mpr hstale)
      · rename_i hfresh
        exact iff_of_true rfl ⟨not_lt.mp hpast, not_lt.mp hfresh⟩

theorem readAccount_nil :
    readAccount source bindingId asOf blockers s = ((account, []), s') ↔
      blockers = [] ∧ ∃ facts, source.readAccountFacts bindingId asOf s = (.ok facts, s') ∧
        account = some facts.toKisAccountFacts ∧ accountBlockers bindingId asOf facts.toKisAccountFacts = [] := by
  cases blockers with
  | cons blocker blockers =>
    refine iff_of_false (fun h => ?_) fun h => List.cons_ne_nil _ _ h.1
    cases h
  | nil =>
    rw [readAccount, List.isEmpty_nil, if_pos rfl, eq_self, true_and]
    split
    · rename_i hread
      refine iff_of_false (fun h => ?_) fun ⟨facts, hfacts, _⟩ => ?_
      · cases h
      · rw [hread] at hfacts
        cases hfacts
    · rename_i facts after hread
      rw [hread]
      constructor
      · intro h
        simp only [Prod.mk.injEq] at h
        obtain ⟨⟨haccount, hblockers⟩, rfl⟩ := h
        exact ⟨facts, rfl, haccount.symm, hblockers⟩
      · rintro ⟨other, hother, rfl, hblockers⟩
        cases hother
        rw [hblockers]

theorem readAgain_nil :
    readAgain source bindingId tradeDate first blockers s = ([], s') ↔
      blockers = [] ∧ ∃ second, (collectOrderPass source bindingId tradeDate s = (second, s') ∧ second.blocker = none) ∧
        second.pageCount = first.pageCount ∧ second.orders = first.orders := by
  cases blockers with
  | cons blocker blockers =>
    refine iff_of_false (fun h => ?_) fun h => List.cons_ne_nil _ _ h.1
    cases h
  | nil =>
    rw [readAgain, List.isEmpty_nil, if_pos rfl, eq_self, true_and]
    obtain ⟨second, after⟩ := collectOrderPass source bindingId tradeDate s
    dsimp only
    split
    · rename_i blocker hblocker
      refine iff_of_false (fun h => ?_) fun ⟨other, ⟨hother, hclean⟩, _⟩ => ?_
      · cases h
      · cases hother
        rw [hblocker] at hclean
        cases hclean
    · rename_i hclean
      split
      · rename_i hdiffers
        refine iff_of_false (fun h => ?_) fun ⟨other, ⟨hother, _⟩, hcount, horders⟩ => ?_
        · cases h
        · cases hother
          exact hdiffers.elim (absurd hcount) (absurd horders)
      · rename_i hsame
        rw [not_or, not_not, not_not] at hsame
        constructor
        · intro h
          cases h
          exact ⟨second, ⟨rfl, hclean⟩, hsame⟩
        · rintro ⟨other, ⟨hother, -⟩, -⟩
          cases hother
          rfl

theorem feeBlockers_nil {orders : List KisDailyOrder} :
    feeBlockers orders blockers = [] ↔
      blockers = [] ∧ ∀ order ∈ orders, 0 < order.cumulativeFilledQuantity → order.feeAmount ≠ none := by
  cases blockers with
  | cons blocker blockers =>
    refine iff_of_false (fun h => ?_) fun h => List.cons_ne_nil _ _ h.1
    cases h
  | nil =>
    rw [feeBlockers, List.isEmpty_nil, Bool.true_and, eq_self, true_and]
    have hmissing : orders.any KisDailyOrder.feeMissing = true ↔
        ¬∀ order ∈ orders, 0 < order.cumulativeFilledQuantity → order.feeAmount ≠ none := by
      simp only [List.any_eq_true, KisDailyOrder.feeMissing, Bool.and_eq_true, decide_eq_true_eq, Option.isNone_iff_eq_none,
        not_forall, not_not, exists_prop]
    split
    · rename_i h
      exact iff_of_false (List.cons_ne_nil _ _) (hmissing.mp h)
    · rename_i h
      exact iff_of_true rfl (not_not.mp fun hnot => h (hmissing.mpr hnot))

/-! ### The result -/

variable {digestOf : KisCashReconciliationContent → Digest} {reconciliationId : UUID} {orders : List KisDailyOrder}
  {result : KisCashReconciliationResult}

theorem buildResult_content
    (h : buildResult digestOf bindingId tradeDate asOf reconciliationId blockers pageCount orders account = .ok result) :
    result.toKisCashReconciliationContent = resultContent bindingId tradeDate asOf blockers pageCount orders account := by
  obtain ⟨_, -, h⟩ := bind_ok.mp h
  cases h
  rfl

theorem BuiltFacts.checked (facts : BuiltFacts) :
    requireUtcSecond facts.observedAt "account_observed_at" = .ok () ∧
      requireNonNegativeInteger facts.cashBuyingPower "cash_buying_power" = .ok () := by
  obtain ⟨_, -, h⟩ := bind_ok.mp facts.valid
  obtain ⟨_, hobserved, h⟩ := bind_ok.mp h
  obtain ⟨_, hcash, -⟩ := bind_ok.mp h
  exact ⟨require_ok.mpr (require_ok.mp hobserved), hcash⟩

/-- A complete result can be built. -/
theorem buildResult_returns (tradeDate : Int) (facts : BuiltFacts) (hid : reconciliationId.isVersion7 = true)
    (hbinding : bindingId.isVersion7 = true) (hsecond : wholeSecond asOf = true) (hpages : pageCount ≤ pageLimit)
    (hfees : ∀ order ∈ orders, 0 < order.cumulativeFilledQuantity → order.feeAmount ≠ none) :
    ∃ result, buildResult digestOf bindingId tradeDate asOf reconciliationId [] pageCount orders
      (some facts.toKisAccountFacts) = .ok result := by
  obtain ⟨hobserved, hcash⟩ := facts.checked
  have hfees' : orders.any KisDailyOrder.feeMissing = false := by
    refine List.any_eq_false.mpr fun order horder => ?_
    simp only [KisDailyOrder.feeMissing, Bool.and_eq_true, decide_eq_true_eq, Option.isNone_iff_eq_none, not_and]
    exact hfees order horder
  have hcomplete : require (true && true && true && !orders.any KisDailyOrder.feeMissing)
      (valueError "complete KIS reconciliation has blockers") = .ok () := by
    rw [hfees']
    rfl
  refine ⟨_, bind_ok.mpr ⟨(), ?_, rfl⟩⟩
  refine bind_ok.mpr ⟨(), require_ok.mpr hid, bind_ok.mpr ⟨(), require_ok.mpr hbinding, bind_ok.mpr ⟨(),
    require_ok.mpr hsecond, bind_ok.mpr ⟨(), require_ok.mpr rfl, bind_ok.mpr ⟨(), hcomplete, bind_ok.mpr ⟨(),
    require_ok.mpr (decide_eq_true hpages), bind_ok.mpr ⟨(), hcash, bind_ok.mpr ⟨(), hobserved, bind_ok.mpr ⟨(),
    require_ok.mpr rfl, require_ok.mpr (decide_eq_true rfl)⟩⟩⟩⟩⟩⟩⟩⟩⟩

theorem persistResult_persisted {store : KisCashReconciliationStore σ}
    {outcome : Except PyError KisCashReconciliationResult} :
    result ∈ (persistResult store outcome s).persisted ↔ outcome = .ok result ∧ result.status = .complete := by
  unfold persistResult
  cases outcome with
  | error e => exact iff_of_false List.not_mem_nil fun h => (nomatch h.1)
  | ok other =>
    dsimp only
    split
    · rename_i hcomplete
      rw [List.mem_singleton]
      constructor
      · rintro rfl
        exact ⟨rfl, hcomplete⟩
      · rintro ⟨heq, -⟩
        exact (Except.ok.inj heq).symm
    · rename_i hpassing
      refine iff_of_false List.not_mem_nil fun ⟨heq, hcomplete⟩ => ?_
      cases heq
      exact hpassing hcomplete

theorem buildResult_complete
    (h : buildResult digestOf bindingId tradeDate asOf reconciliationId blockers pageCount orders account = .ok result) :
    result.status = .complete ↔ blockers = [] := by
  rw [buildResult_content h]
  cases blockers with
  | nil => exact iff_of_true rfl rfl
  | cons blocker blockers => exact iff_of_false (fun hstatus => (nomatch hstatus)) (List.cons_ne_nil _ _)

theorem checkArguments_ok {u : Unit} :
    checkArguments bindingId asOf = .ok u ↔ bindingId.isVersion7 = true ∧ wholeSecond asOf = true := by
  constructor
  · intro h
    obtain ⟨_, hbinding, hsecond⟩ := bind_ok.mp h
    exact ⟨require_ok.mp hbinding, require_ok.mp hsecond⟩
  · rintro ⟨hbinding, hsecond⟩
    exact bind_ok.mpr ⟨(), require_ok.mpr hbinding, require_ok.mpr hsecond⟩

/-! ### Stable readings -/

/-- Two whole passes that nothing blocks, with the same orders on as many pages, and between them fresh facts of the
account. Every filled order has its fee. -/
structure StableReading (source : KisCashReconciliationSource σ) (bindingId : UUID) (asOf : Instant) (s : σ)
    (first second : List BuiltPage) (facts : BuiltFacts) : Prop where
  passes : ∃ afterFirst afterFacts last, Reads source bindingId (kstDate asOf) none s first afterFirst ∧
    source.readAccountFacts bindingId asOf afterFirst = (.ok facts, afterFacts) ∧
    Reads source bindingId (kstDate asOf) none afterFacts second last
  short : first.length ≤ pageLimit
  unblocked : Unblocked bindingId (kstDate asOf) [] [] first
  unblockedAgain : Unblocked bindingId (kstDate asOf) [] [] second
  sameOrders : passOrders second = passOrders first
  samePages : second.length = first.length
  binding : facts.bindingId = bindingId
  observed : facts.observedAt ≤ asOf
  fresh : asOf - facts.observedAt ≤ accountFactMaxAge
  fees : ∀ order ∈ passOrders first, 0 < order.cumulativeFilledQuantity → order.feeAmount ≠ none

variable {store : KisCashReconciliationStore σ} {generated : GeneratedId}

/-- What is persisted are the results built of stable readings. -/
theorem persisted_iff :
    result ∈ (reconcileKisCash digestOf source bindingId asOf store generated s).persisted ↔
      (bindingId.isVersion7 = true ∧ wholeSecond asOf = true) ∧
        ∃ first second facts, StableReading source bindingId asOf s first second facts ∧
          buildResult digestOf bindingId (kstDate asOf) asOf generated.id [] first.length (passOrders first)
            (some facts.toKisAccountFacts) = .ok result := by
  unfold reconcileKisCash
  cases harguments : checkArguments bindingId asOf with
  | error e =>
    refine iff_of_false List.not_mem_nil fun ⟨hvalid, _⟩ => ?_
    rw [(checkArguments_ok (u := ())).mpr hvalid] at harguments
    cases harguments
  | ok u =>
    rw [and_iff_right (checkArguments_ok.mp harguments)]
    dsimp only
    rcases hfirst : collectOrderPass source bindingId (kstDate asOf) s with ⟨pass, afterFirst⟩
    dsimp only
    rcases hfacts : readAccount source bindingId asOf pass.blocker.toList afterFirst with ⟨⟨account, blockers⟩, afterFacts⟩
    dsimp only
    rcases hagain : readAgain source bindingId (kstDate asOf) pass blockers afterFacts with ⟨remaining, last⟩
    rw [persistResult_persisted]
    constructor
    · rintro ⟨hbuilt, hcomplete⟩
      have hnone := (buildResult_complete hbuilt).mp hcomplete
      obtain ⟨rfl, hfees⟩ := feeBlockers_nil.mp hnone
      obtain ⟨rfl, second, ⟨hsecond, hclean⟩, hcount, horders⟩ := readAgain_nil.mp hagain
      obtain ⟨hblocker, facts, hread, rfl, haccount⟩ := readAccount_nil.mp hfacts
      obtain ⟨hscope, hpast, hfresh⟩ := accountBlockers_nil.mp haccount
      obtain ⟨pages, hreads, hshort, hunblocked, rfl⟩ := collectOrderPass_clean.mp
        ⟨hfirst, Option.toList_eq_nil_iff.mp hblocker⟩
      obtain ⟨pages', hreads', -, hunblocked', rfl⟩ := collectOrderPass_clean.mp ⟨hsecond, hclean⟩
      rw [hnone] at hbuilt
      exact ⟨pages, pages', facts, ⟨⟨afterFirst, afterFacts, last, hreads, hread, hreads'⟩, hshort, hunblocked,
        hunblocked', horders, hcount, hscope, hpast, hfresh, hfees⟩, hbuilt⟩
    · rintro ⟨pages, pages', facts, hstable, hbuilt⟩
      obtain ⟨afterFirst', afterFacts', last', hreads, hread, hreads'⟩ := hstable.passes
      have hpass := collectOrderPass_clean.mpr ⟨pages, hreads, hstable.short, hstable.unblocked, rfl⟩
      rw [hfirst] at hpass
      cases hpass.1
      have hread' := readAccount_nil.mpr ⟨rfl, facts, hread, rfl,
        accountBlockers_nil.mpr ⟨hstable.binding, hstable.observed, hstable.fresh⟩⟩
      rw [Option.toList_none, hread'] at hfacts
      cases hfacts
      have hpass' := collectOrderPass_clean.mpr ⟨pages', hreads', hstable.samePages ▸ hstable.short,
        hstable.unblockedAgain, rfl⟩
      have hagain' : readAgain source bindingId (kstDate asOf) ⟨passOrders pages, pages.length, none⟩ [] afterFacts =
          ([], last') := readAgain_nil.mpr ⟨rfl, _, hpass', hstable.samePages, hstable.sameOrders⟩
      rw [hagain'] at hagain
      cases hagain
      rw [feeBlockers_nil.mpr ⟨rfl, hstable.fees⟩]
      exact ⟨hbuilt, (buildResult_complete hbuilt).mpr rfl⟩

/-! ### Soundness -/

/-- What a complete result is to mean: it was read twice over whole pages that gave the same orders, all of the binding
and of the trade date, each once and with a fee where it was filled, with fresh facts of the account in between. -/
structure SoundReading (source : KisCashReconciliationSource σ) (bindingId : UUID) (asOf : Instant) (s : σ)
    (result : KisCashReconciliationResult) (first second : List BuiltPage) (facts : BuiltFacts) : Prop where
  passes : ∃ afterFirst afterFacts last, Reads source bindingId (kstDate asOf) none s first afterFirst ∧
    source.readAccountFacts bindingId asOf afterFirst = (.ok facts, afterFacts) ∧
    Reads source bindingId (kstDate asOf) none afterFacts second last
  sameOrders : passOrders second = passOrders first
  samePages : second.length = first.length
  scope : ∀ order ∈ passOrders first, order.bindingId = bindingId
  day : ∀ order ∈ passOrders first, order.orderDate = kstDate asOf
  identities : ((passOrders first).map KisDailyOrder.identity).Nodup
  binding : facts.bindingId = bindingId
  observed : facts.observedAt ≤ asOf
  fresh : asOf - facts.observedAt ≤ accountFactMaxAge
  fees : ∀ order ∈ passOrders first, 0 < order.cumulativeFilledQuantity → order.feeAmount ≠ none
  recorded : result.toKisCashReconciliationContent =
    resultContent bindingId (kstDate asOf) asOf [] first.length (passOrders first) (some facts.toKisAccountFacts)

/-- Every result that is persisted is sound exactly when the orders of a stable reading are of the trade date. -/
theorem reconciliation_sound_iff :
    (∀ result ∈ (reconcileKisCash digestOf source bindingId asOf store generated s).persisted,
        ∃ first second facts, SoundReading source bindingId asOf s result first second facts) ↔
      (bindingId.isVersion7 = true → wholeSecond asOf = true →
        ∀ first second facts, StableReading source bindingId asOf s first second facts →
          ∀ order ∈ passOrders first, order.orderDate = kstDate asOf) := by
  constructor
  · intro h hbinding hsecond first second facts hstable order horder
    obtain ⟨result, hbuilt⟩ := buildResult_returns (kstDate asOf) facts generated.version7 hbinding hsecond
      hstable.short hstable.fees
    obtain ⟨first', second', facts', hsound⟩ := h result
      (persisted_iff.mpr ⟨⟨hbinding, hsecond⟩, first, second, facts, hstable, hbuilt⟩)
    have horders : passOrders first' = passOrders first :=
      congrArg KisCashReconciliationContent.orders (hsound.recorded.symm.trans (buildResult_content hbuilt))
    exact hsound.day order (horders ▸ horder)
  · intro h result hresult
    obtain ⟨⟨hbinding, hsecond⟩, first, second, facts, hstable, hbuilt⟩ := persisted_iff.mp hresult
    refine ⟨first, second, facts, hstable.passes, hstable.sameOrders, hstable.samePages, fun order horder => ?_,
      h hbinding hsecond first second facts hstable, hstable.unblocked.identities, hstable.binding, hstable.observed,
      hstable.fresh, hstable.fees, buildResult_content hbuilt⟩
    obtain ⟨page, hpage, hin⟩ := List.mem_flatMap.mp horder
    exact (hstable.unblocked.scope page hpage).orders order hin

/-! A provider that answers every read with one page of today, whose only order came in a day before. -/

/-- 2026-08-24 14:00 in Korea. -/
def readAsOf : Instant := 1787547600000000

def yesterdaysOrder : KisDailyOrder :=
  { sampleDailyOrder "0000000042" with
    orderDate := 20688
    providerTimestamp := 1787461200000000 }

def latePage : KisDailyOrderPage where
  bindingId := sampleId 22
  providerTradeDate := 20689
  orders := [yesterdaysOrder]
  nextCursor := none

theorem latePage_valid : latePage.validate = .ok () := by decide +kernel

def freshFacts : KisAccountFacts where
  bindingId := sampleId 22
  observedAt := 1787547599000000
  cashBuyingPower := 5000000
  holdings := []
  sourceDigest := 7

theorem freshFacts_valid : freshFacts.validate = .ok () := by decide +kernel

def lateSource : KisCashReconciliationSource Unit where
  readDailyOrderPage _ _ _ _ := (.ok ⟨latePage, latePage_valid⟩, ())
  readAccountFacts _ _ _ := (.ok ⟨freshFacts, freshFacts_valid⟩, ())

theorem sampleThirty_version : (sampleId 30).isVersion7 = true := by decide

def lateId : GeneratedId := ⟨sampleId 30, sampleThirty_version⟩

theorem latePage_unblocked : Unblocked (sampleId 22) (kstDate readAsOf) [] [] [⟨latePage, latePage_valid⟩] where
  scope := List.forall_mem_singleton.mpr ⟨rfl, by decide, by decide⟩
  cursors := List.nodup_nil
  fresh := List.forall_mem_nil _
  identities := List.nodup_singleton _

theorem late_stable : StableReading lateSource (sampleId 22) readAsOf () [⟨latePage, latePage_valid⟩]
    [⟨latePage, latePage_valid⟩] ⟨freshFacts, freshFacts_valid⟩ where
  passes := ⟨(), (), (), .last rfl rfl, rfl, .last rfl rfl⟩
  short := by decide
  unblocked := latePage_unblocked
  unblockedAgain := latePage_unblocked
  sameOrders := rfl
  samePages := rfl
  binding := rfl
  observed := by decide
  fresh := by decide
  fees := by decide

/-- The order of the day before is persisted in a complete result. -/
theorem reconciliation_unsound :
    ¬∀ result ∈ (reconcileKisCash (fun _ => 0) lateSource (sampleId 22) readAsOf (fun _ s => (.ok (), s)) lateId ()).persisted,
      ∃ first second facts, SoundReading lateSource (sampleId 22) readAsOf () result first second facts := by
  intro h
  have hbinding : (sampleId 22).isVersion7 = true := by decide
  have hsecond : wholeSecond readAsOf = true := by decide
  obtain ⟨result, hbuilt⟩ := buildResult_returns (kstDate readAsOf) ⟨freshFacts, freshFacts_valid⟩ lateId.version7 hbinding
    hsecond late_stable.short late_stable.fees
  obtain ⟨first, second, facts, hsound⟩ := h result
    (persisted_iff.mpr ⟨⟨hbinding, hsecond⟩, _, _, _, late_stable, hbuilt⟩)
  have horders : passOrders first = [yesterdaysOrder] :=
    congrArg KisCashReconciliationContent.orders (hsound.recorded.symm.trans (buildResult_content hbuilt))
  have hday : (20688 : Int) = kstDate readAsOf := hsound.day yesterdaysOrder (horders ▸ List.mem_cons_self)
  revert hday
  decide

end AutoTrader.Kis
