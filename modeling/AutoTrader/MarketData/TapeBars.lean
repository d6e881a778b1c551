import AutoTrader.MarketData.Tape
import AutoTrader.Numeric.Sums
import AutoTrader.Runtime.DistinctKeys

/-! Completed bars that are aggregated from the tape: the prints of a window, in buckets of a grid that starts
at the epoch. -/

namespace AutoTrader.MarketData

open AutoTrader.Binance AutoTrader.Domain AutoTrader.Numeric AutoTrader.Runtime

/-! ### The prints of a window -/

/-- `(occurred_at, _trade_id)` in order. -/
def TradePrint.Precedes (a b : TradePrint) : Prop :=
  a.occurredAt < b.occurredAt ∨ a.occurredAt = b.occurredAt ∧ a.tradeId ≤ b.tradeId

instance (a b : TradePrint) : Decidable (a.Precedes b) := inferInstanceAs (Decidable (_ ∨ _ ∧ _))

/-- The trades of the store and of the cache. -/
def heldTrades (reader : TapeReader) (store : TapeStore) : List TradePrint :=
  store.trades ++ reader.trades.map (·.2)

/-- `trade_prints`; the store selects the same range. -/
def tradePrints (reader : TapeReader) (store : TapeStore) (startAt endAt : Instant) : Except PyError (List TradePrint) :=
  if endAt ≤ startAt then .error (valueError "Binance USD-M trade range is invalid")
  else do
    let byId ← ((heldTrades reader store).filter fun trade =>
      startAt ≤ trade.occurredAt ∧ trade.occurredAt < endAt).foldlM
        (collectBy TradePrint.tradeId correctionConflict) []
    pure ((byId.map (·.2)).insertionSort TradePrint.Precedes)

/-! ### Bars -/

/-- A completed bar of numbers. -/
structure OhlcvBar where
  timestamp : Instant
  openPrice : ℚ
  high : ℚ
  low : ℚ
  close : ℚ
  volume : ℚ
  deriving DecidableEq

/-- `_duration_ms`. -/
def durationMs (duration : Int) : Except PyError Int :=
  if duration % 1000 ≠ 0 ∨ duration ≤ 0 then .error (valueError "Binance USD-M timeframe is invalid")
  else .ok (duration / 1000)

/-- `_epoch_ms`. -/
def epochMs (moment : Instant) : Except PyError Int :=
  if moment % 1000 ≠ 0 ∨ moment < 0 then .error (valueError "Binance USD-M timestamp must use exact milliseconds")
  else .ok (moment / 1000)

/-- When the bucket of a trade opened, in milliseconds. -/
def openedMs (milliseconds : Int) (trade : TradePrint) : Int :=
  trade.occurredAt / 1000 / milliseconds * milliseconds

/-- `completed_at`. -/
def completedAt (milliseconds opened : Int) : Instant := 1000 * (opened + milliseconds)

/-- The bar of a bucket. -/
def bucketBar (milliseconds opened : Int) (ordered : List TradePrint) : OhlcvBar where
  timestamp := completedAt milliseconds opened
  openPrice := (ordered.head?.map (·.price)).getD 0
  high := ((ordered.map (·.price)).max?).getD 0
  low := ((ordered.map (·.price)).min?).getD 0
  close := (ordered.getLast?.map (·.price)).getD 0
  volume := sumSig 28 (ordered.map (·.quantity))

/-- The trades of a bucket. -/
def bucketTrades (milliseconds : Int) (trades : List TradePrint) (opened : Int) : List TradePrint :=
  trades.filter (openedMs milliseconds · = opened)

/-- `_aggregate_bars`. -/
def aggregateBars (reader : TapeReader) (store : TapeStore) (duration : Int) (endAt : Instant) (lookback : Int) :
    Except PyError (List OhlcvBar) := do
  let trades ← tradePrints reader store (endAt - lookback) (endAt + 1000)
  match (trades.map (·.occurredAt)).max? with
  | none => pure []
  | some latest =>
    let watermark := min endAt latest
    let milliseconds ← durationMs duration
    let _ ← trades.mapM fun trade => epochMs trade.occurredAt
    let opened := (trades.map (openedMs milliseconds)).dedup.insertionSort (· ≤ ·)
    pure ((opened.filter (completedAt milliseconds · ≤ watermark)).map fun opened =>
      bucketBar milliseconds opened (bucketTrades milliseconds trades opened))

/-! ### Requests -/

/-- `_FIVE_SECONDS` and `_THIRTY_SECONDS`, in microseconds. -/
def fiveSeconds : Int := 5 * 10 ^ 6
def thirtySeconds : Int := 30 * 10 ^ 6

/-- `_TELEMETRY_LOOKBACK`. -/
def telemetryLookback : Int := 86400 * 10 ^ 6

/-- `telemetry_bars`, or `completed_bars` of thirty seconds. -/
inductive BarRequest
  | telemetry (endAt : Instant)
  | thirtySecond (endAt : Instant) (history : Int)

namespace BarRequest

def duration : BarRequest → Int
  | telemetry _ => fiveSeconds
  | thirtySecond _ _ => thirtySeconds

def endAt : BarRequest → Instant
  | telemetry endAt | thirtySecond endAt _ => endAt

def history : BarRequest → Int
  | telemetry _ => telemetryLookback
  | thirtySecond _ history => history

/-- Where the window of the trades is cut. -/
def cut (request : BarRequest) : Instant := request.endAt - request.history

def bars (reader : TapeReader) (store : TapeStore) (request : BarRequest) : Except PyError (List OhlcvBar) := do
  require (0 < request.history) (valueError "requested history must be positive")
  aggregateBars reader store request.duration request.endAt request.history

end BarRequest

/-! ### What a request returns -/

section

variable {reader : TapeReader} {store : TapeStore} {startAt endAt : Instant}

instance : Std.Total TradePrint.Precedes where
  total a b := by
    rcases lt_trichotomy a.occurredAt b.occurredAt with h | h | h
    · exact .inl (.inl h)
    · exact (le_total a.tradeId b.tradeId).imp (fun hid => .inr ⟨h, hid⟩) fun hid => .inr ⟨h.symm, hid⟩
    · exact .inr (.inl h)

instance : IsTrans TradePrint TradePrint.Precedes where
  trans a b c := by
    rintro (hab | ⟨hab, hid⟩) (hbc | ⟨hbc, hid'⟩)
    · exact .inl (hab.trans hbc)
    · exact .inl (hbc ▸ hab)
    · exact .inl (hab ▸ hbc)
    · exact .inr ⟨hab.trans hbc, hid.trans hid'⟩

/-- Two trades before each other have one id. -/
theorem TradePrint.Precedes.antisymm {a b : TradePrint} (hab : a.Precedes b) (hba : b.Precedes a) :
    a.tradeId = b.tradeId := by
  rcases hab with hab | ⟨hab, hid⟩ <;> rcases hba with hba | ⟨hba, hid'⟩
  · exact absurd hab (not_lt.mpr hba.le)
  · exact absurd hab (not_lt.mpr hba.le)
  · exact absurd hba (not_lt.mpr hab.le)
  · exact le_antisymm hid hid'

/-- The prints of a window: every held one once, in order. -/
structure WindowPrints (held : List TradePrint) (startAt endAt : Instant) (trades : List TradePrint) : Prop where
  ordered : trades.Pairwise TradePrint.Precedes
  nodup : trades.Nodup
  mem : ∀ trade, trade ∈ trades ↔ trade ∈ held ∧ startAt ≤ trade.occurredAt ∧ trade.occurredAt < endAt
  oneEach : OneEach TradePrint.tradeId trades

theorem tradePrints_ok {trades : List TradePrint} (h : tradePrints reader store startAt endAt = .ok trades) :
    WindowPrints (heldTrades reader store) startAt endAt trades := by
  unfold tradePrints at h
  split at h
  · cases h
  · obtain ⟨byId, hbyId, h⟩ := bind_ok.mp h
    cases h
    obtain ⟨hone, hnodup, hmem⟩ := collected hbyId
    have hmembers : ∀ trade, trade ∈ (byId.map (·.2)).insertionSort TradePrint.Precedes ↔
        trade ∈ heldTrades reader store ∧ startAt ≤ trade.occurredAt ∧ trade.occurredAt < endAt := by
      intro trade
      rw [List.mem_insertionSort, hmem, List.mem_filter, decide_eq_true_eq]
    refine ⟨List.pairwise_insertionSort _ _, (List.perm_insertionSort _ _).nodup_iff.mpr hnodup, hmembers, ?_⟩
    intro a ha b hb hid
    rw [List.mem_insertionSort, hmem] at ha hb
    exact hone a ha b hb hid

/-- A bar is the bar of a bucket of the window that was complete when it was asked for. -/
theorem aggregateBars_ok {duration lookback : Int} {bars : List OhlcvBar}
    (h : aggregateBars reader store duration endAt lookback = .ok bars) {bar : OhlcvBar} (hbar : bar ∈ bars) :
    ∃ trades milliseconds place, WindowPrints (heldTrades reader store) (endAt - lookback) (endAt + 1000) trades ∧
      0 < milliseconds ∧ duration = 1000 * milliseconds ∧ completedAt milliseconds (place * milliseconds) ≤ endAt ∧
      bar = bucketBar milliseconds (place * milliseconds) (bucketTrades milliseconds trades (place * milliseconds)) := by
  unfold aggregateBars at h
  obtain ⟨trades, htrades, h⟩ := bind_ok.mp h
  split at h
  · cases h
    cases hbar
  · rename_i latest _
    obtain ⟨milliseconds, hduration, h⟩ := bind_ok.mp h
    obtain ⟨_, -, h⟩ := bind_ok.mp h
    cases h
    obtain ⟨opened, hopened, rfl⟩ := List.mem_map.mp hbar
    rw [List.mem_filter, List.mem_insertionSort, List.mem_dedup, List.mem_map, decide_eq_true_eq] at hopened
    obtain ⟨⟨trade, -, rfl⟩, hcomplete⟩ := hopened
    have hms : 0 < milliseconds ∧ duration = 1000 * milliseconds := by
      unfold durationMs at hduration
      split at hduration
      · cases hduration
      · rename_i hvalid
        cases hduration
        omega
    exact ⟨trades, milliseconds, trade.occurredAt / 1000 / milliseconds, tradePrints_ok htrades, hms.1, hms.2,
      hcomplete.trans (min_le_left _ _), rfl⟩

/-- A bucket is an interval of time. -/
theorem openedMs_eq {milliseconds place : Int} (hpos : 0 < milliseconds) (trade : TradePrint) :
    openedMs milliseconds trade = place * milliseconds ↔
      1000 * (place * milliseconds) ≤ trade.occurredAt ∧ trade.occurredAt < completedAt milliseconds (place * milliseconds) := by
  have hplace : openedMs milliseconds trade = place * milliseconds ↔ trade.occurredAt / (1000 * milliseconds) = place := by
    rw [← Int.ediv_ediv_of_nonneg (by decide)]
    exact mul_left_inj' hpos.ne'
  have hwidth : 0 < 1000 * milliseconds := by omega
  have hfrom : place ≤ trade.occurredAt / (1000 * milliseconds) ↔ place * (1000 * milliseconds) ≤ trade.occurredAt :=
    Int.le_ediv_iff_mul_le hwidth
  have huntil : trade.occurredAt / (1000 * milliseconds) < place + 1 ↔
      trade.occurredAt < (place + 1) * (1000 * milliseconds) := Int.ediv_lt_iff_lt_mul hwidth
  have hopen : 1000 * (place * milliseconds) = place * (1000 * milliseconds) := by ring
  have hclose : 1000 * (place * milliseconds + milliseconds) = (place + 1) * (1000 * milliseconds) := by ring
  rw [hplace, completedAt, hopen, hclose, ← hfrom, ← huntil, Int.lt_add_one_iff, le_antisymm_iff, and_comm]

/-! ### Two requests -/

variable {held : List TradePrint}

/-- A print of a bucket that was complete is in the window from its cut on. -/
theorem WindowPrints.mem_bucket {trades : List TradePrint} {lookback milliseconds place : Int}
    (h : WindowPrints held (endAt - lookback) (endAt + 1000) trades) (hpos : 0 < milliseconds)
    (hcomplete : completedAt milliseconds (place * milliseconds) ≤ endAt) (trade : TradePrint) :
    trade ∈ bucketTrades milliseconds trades (place * milliseconds) ↔
      trade ∈ held ∧ openedMs milliseconds trade = place * milliseconds ∧ endAt - lookback ≤ trade.occurredAt := by
  rw [bucketTrades, List.mem_filter, h.mem, decide_eq_true_eq]
  constructor
  · rintro ⟨⟨hheld, hcut, -⟩, hopened⟩
    exact ⟨hheld, hopened, hcut⟩
  · rintro ⟨hheld, hopened, hcut⟩
    have hbefore := ((openedMs_eq hpos trade).mp hopened).2
    have hend : trade.occurredAt < endAt + 1000 :=
      hbefore.trans_le (hcomplete.trans (le_add_of_nonneg_right (by decide)))
    exact ⟨⟨hheld, hcut, hend⟩, hopened⟩

/-- The quantities of the tape add up within the digits of the arithmetic. -/
structure ExactVolumes (places : ℕ) (held : List TradePrint) : Prop where
  positive : ∀ trade ∈ held, 0 < trade.quantity
  decimals : ∀ trade ∈ held, HasPlaces places trade.quantity
  total : (held.map (·.quantity)).sum * 10 ^ places < 10 ^ 28

/-- Trades that are among others have no more quantity. -/
theorem sum_quantity_le {fewer more : List TradePrint} (hpositive : ∀ trade ∈ more, 0 < trade.quantity)
    (hfewer : fewer.Nodup) (hsub : fewer ⊆ more) : (fewer.map (·.quantity)).sum ≤ (more.map (·.quantity)).sum := by
  obtain ⟨same, hperm, hsublist⟩ := hfewer.subperm hsub
  rw [← (hperm.map _).sum_eq]
  refine (hsublist.map _).sum_le_sum fun quantity hquantity => ?_
  obtain ⟨trade, htrade, rfl⟩ := List.mem_map.mp hquantity
  exact (hpositive trade htrade).le

theorem ExactVolumes.volume {places : ℕ} (h : ExactVolumes places held) {trades : List TradePrint} (hnodup : trades.Nodup)
    (hheld : trades ⊆ held) : sumSig 28 (trades.map (·.quantity)) = (trades.map (·.quantity)).sum := by
  have hplaces : ∀ quantity ∈ trades.map (·.quantity), HasPlaces places quantity := by
    intro quantity hquantity
    obtain ⟨trade, htrade, rfl⟩ := List.mem_map.mp hquantity
    exact h.decimals trade (hheld htrade)
  have hle := sum_quantity_le h.positive hnodup hheld
  exact sumSig_eq_sum hplaces ((mul_le_mul_of_nonneg_right hle (by positivity)).trans_lt h.total)

/-- More prints have more volume. -/
theorem ExactVolumes.volume_lt {places : ℕ} (h : ExactVolumes places held) {fewer more : List TradePrint}
    (hfewer : fewer.Nodup) (hmore : more.Nodup) (hsub : fewer ⊆ more) (hheld : more ⊆ held) {trade : TradePrint}
    (hmem : trade ∈ more) (hnot : trade ∉ fewer) :
    sumSig 28 (fewer.map (·.quantity)) < sumSig 28 (more.map (·.quantity)) := by
  rw [h.volume hfewer (List.Subset.trans hsub hheld), h.volume hmore hheld]
  have hle := sum_quantity_le (fun other hother => h.positive other (hheld hother))
    (List.nodup_cons.mpr ⟨hnot, hfewer⟩) (List.cons_subset.mpr ⟨hmem, hsub⟩)
  rw [List.map_cons, List.sum_cons] at hle
  exact (lt_add_of_pos_left _ (h.positive trade (hheld hmem))).trans_le hle

/-- The window that is cut later has less volume when a print lies between the cuts. -/
theorem ExactVolumes.volume_cut {places : ℕ} (h : ExactVolumes places held) {opened closed cut cut' : Instant}
    {prints prints' : List TradePrint} (hnodup : prints.Nodup) (hnodup' : prints'.Nodup)
    (hmem : ∀ trade, trade ∈ prints ↔
      trade ∈ held ∧ opened ≤ trade.occurredAt ∧ trade.occurredAt < closed ∧ cut ≤ trade.occurredAt)
    (hmem' : ∀ trade, trade ∈ prints' ↔
      trade ∈ held ∧ opened ≤ trade.occurredAt ∧ trade.occurredAt < closed ∧ cut' ≤ trade.occurredAt)
    {trade : TradePrint} (hheld : trade ∈ held) (hopen : opened ≤ trade.occurredAt) (hclose : trade.occurredAt < closed)
    (hcut : cut ≤ trade.occurredAt) (hcut' : ¬cut' ≤ trade.occurredAt) :
    sumSig 28 (prints'.map (·.quantity)) < sumSig 28 (prints.map (·.quantity)) := by
  have hsub : prints' ⊆ prints := by
    intro other hother
    obtain ⟨hin, hfrom, huntil, hlate⟩ := (hmem' other).mp hother
    exact (hmem other).mpr ⟨hin, hfrom, huntil, hcut.trans ((not_le.mp hcut').le.trans hlate)⟩
  exact h.volume_lt hnodup' hnodup hsub (fun other hother => ((hmem other).mp hother).1)
    ((hmem trade).mpr ⟨hheld, hopen, hclose, hcut⟩) fun hother => hcut' ((hmem' trade).mp hother).2.2.2

/-- One of two requests has a print of the bar's bucket that the other one cuts off. -/
def CutApart (held : List TradePrint) (first second : BarRequest) (timestamp : Instant) : Prop :=
  ∃ trade ∈ held, timestamp - first.duration ≤ trade.occurredAt ∧ trade.occurredAt < timestamp ∧
    ¬(first.cut ≤ trade.occurredAt ↔ second.cut ≤ trade.occurredAt)

/-- A bar of a request, with the prints it is built from. -/
theorem BarRequest.bars_ok {request : BarRequest} {bars : List OhlcvBar} (h : request.bars reader store = .ok bars)
    {bar : OhlcvBar} (hbar : bar ∈ bars) :
    ∃ prints milliseconds place, 0 < milliseconds ∧ request.duration = 1000 * milliseconds ∧
      bar = bucketBar milliseconds (place * milliseconds) prints ∧ prints.Pairwise TradePrint.Precedes ∧ prints.Nodup ∧
      OneEach TradePrint.tradeId prints ∧
      ∀ trade, trade ∈ prints ↔ trade ∈ heldTrades reader store ∧ bar.timestamp - request.duration ≤ trade.occurredAt ∧
        trade.occurredAt < bar.timestamp ∧ request.cut ≤ trade.occurredAt := by
  unfold BarRequest.bars at h
  obtain ⟨-, -, h⟩ := bind_ok.mp h
  obtain ⟨trades, milliseconds, place, hwindow, hpos, hduration, hcomplete, hbucket⟩ := aggregateBars_ok h hbar
  refine ⟨_, milliseconds, place, hpos, hduration, hbucket, hwindow.ordered.filter _, hwindow.nodup.filter _,
    fun a ha b hb => hwindow.oneEach a (List.mem_of_mem_filter ha) b (List.mem_of_mem_filter hb), fun trade => ?_⟩
  have htimestamp : bar.timestamp = completedAt milliseconds (place * milliseconds) := by rw [hbucket]; rfl
  have hopened : bar.timestamp - request.duration = 1000 * (place * milliseconds) := by
    rw [htimestamp, hduration, completedAt]
    ring
  rw [hwindow.mem_bucket hpos hcomplete, openedMs_eq hpos, hopened, htimestamp, and_assoc]
  rfl

/-- Bars of one bucket are equal when no print is cut off for one of them alone; and when volumes are exact they
are equal only then. -/
theorem aggregated_bars_agree {first second : BarRequest} {bars bars' : List OhlcvBar} {bar bar' : OhlcvBar}
    (h : first.bars reader store = .ok bars) (h' : second.bars reader store = .ok bars')
    (hduration : first.duration = second.duration) (hbar : bar ∈ bars) (hbar' : bar' ∈ bars')
    (htime : bar.timestamp = bar'.timestamp) :
    (¬CutApart (heldTrades reader store) first second bar.timestamp → bar = bar') ∧
      ((∃ places, ExactVolumes places (heldTrades reader store)) →
        (bar = bar' ↔ ¬CutApart (heldTrades reader store) first second bar.timestamp)) := by
  obtain ⟨prints, milliseconds, place, hpos, hms, rfl, hordered, hnodup, hone, hmem⟩ := BarRequest.bars_ok h hbar
  obtain ⟨prints', milliseconds', place', hpos', hms', rfl, hordered', hnodup', -, hmem'⟩ := BarRequest.bars_ok h' hbar'
  have hsameMs : milliseconds = milliseconds' := by
    have hscaled : 1000 * milliseconds = 1000 * milliseconds' := hms.symm.trans (hduration.trans hms')
    omega
  subst hsameMs
  have hplace : place = place' := by
    have hopened : place * milliseconds = place' * milliseconds := by
      have htimes : 1000 * (place * milliseconds + milliseconds) = 1000 * (place' * milliseconds + milliseconds) := htime
      omega
    exact (mul_left_inj' hpos.ne').mp hopened
  subst hplace
  rw [← hduration] at hmem'
  have hequal : ¬CutApart (heldTrades reader store) first second (completedAt milliseconds (place * milliseconds)) →
      prints = prints' := by
    intro htogether
    refine eq_of_sorted hnodup hnodup' hordered hordered' (fun trade => ?_) fun a ha b hb hab hba => ?_
    · rw [hmem, hmem']
      refine and_congr_right fun hheld => and_congr_right fun hopen => and_congr_right fun hclose => ?_
      by_contra hcut
      exact htogether ⟨trade, hheld, hopen, hclose, hcut⟩
    · exact hone a ha b hb (hab.antisymm hba)
  refine ⟨fun htogether => by rw [hequal htogether], ?_⟩
  rintro ⟨places, hexact⟩
  refine ⟨fun heq => ?_, fun htogether => by rw [hequal htogether]⟩
  have hvolume : sumSig 28 (prints.map (·.quantity)) = sumSig 28 (prints'.map (·.quantity)) :=
    congrArg OhlcvBar.volume heq
  rintro ⟨trade, hheld, hopen, hclose, hapart⟩
  by_cases hcut : first.cut ≤ trade.occurredAt
  · have hcut' : ¬second.cut ≤ trade.occurredAt := fun hlate => hapart (iff_of_true hcut hlate)
    exact (hexact.volume_cut hnodup hnodup' hmem hmem' hheld hopen hclose hcut hcut').ne' hvolume
  · have hcut' : second.cut ≤ trade.occurredAt := by
      by_contra hlate
      exact hapart (iff_of_false hcut hlate)
    exact (hexact.volume_cut hnodup' hnodup hmem' hmem hheld hopen hclose hcut' hcut).ne hvolume

end

/-! ### A bucket that is cut -/

/-- Three prints, the third behind the first half-minute. -/
def shortTape : List TradePrint := [⟨1, 0, 100, 1, true⟩, ⟨2, 10 * 10 ^ 6, 110, 1, true⟩, ⟨3, 35 * 10 ^ 6, 105, 1, true⟩]

def shortStore : TapeStore := ⟨shortTape, some ⟨3, 35 * 10 ^ 6⟩⟩

/-- The bar of the first half-minute. -/
def wholeBar : OhlcvBar := ⟨30 * 10 ^ 6, 100, 110, 100, 110, 2⟩

/-- The same bar without its first print. -/
def clippedBar : OhlcvBar := ⟨30 * 10 ^ 6, 110, 110, 110, 110, 1⟩

theorem shortTape_whole :
    BarRequest.bars .new shortStore (.thirtySecond (40 * 10 ^ 6) (40 * 10 ^ 6)) = .ok [wholeBar] ∧
      BarRequest.bars .new shortStore (.thirtySecond (40 * 10 ^ 6) (50 * 10 ^ 6)) = .ok [wholeBar] := by
  constructor <;> decide +kernel

theorem aggregated_bars_agree_short :
    (¬CutApart (heldTrades .new shortStore) (.thirtySecond (40 * 10 ^ 6) (40 * 10 ^ 6))
        (.thirtySecond (40 * 10 ^ 6) (50 * 10 ^ 6)) wholeBar.timestamp → wholeBar = wholeBar) ∧
      ((∃ places, ExactVolumes places (heldTrades .new shortStore)) →
        (wholeBar = wholeBar ↔ ¬CutApart (heldTrades .new shortStore) (.thirtySecond (40 * 10 ^ 6) (40 * 10 ^ 6))
          (.thirtySecond (40 * 10 ^ 6) (50 * 10 ^ 6)) wholeBar.timestamp)) :=
  aggregated_bars_agree shortTape_whole.1 shortTape_whole.2 rfl List.mem_cons_self List.mem_cons_self rfl

/-- A shorter history clips the first bucket, and its bar looks like any other. -/
theorem clipped_bar_differs :
    shortTape.IsChain Follows ∧
      BarRequest.bars .new shortStore (.thirtySecond (40 * 10 ^ 6) (40 * 10 ^ 6)) = .ok [wholeBar] ∧
      BarRequest.bars .new shortStore (.thirtySecond (40 * 10 ^ 6) (35 * 10 ^ 6)) = .ok [clippedBar] ∧
      wholeBar.timestamp = clippedBar.timestamp ∧ wholeBar ≠ clippedBar := by
  refine ⟨?_, shortTape_whole.1, ?_, rfl, ?_⟩
  · refine List.isChain_cons_cons.mpr ⟨?_, List.isChain_cons_cons.mpr ⟨?_, List.isChain_singleton _⟩⟩ <;>
      exact ⟨rfl, by decide⟩
  · decide +kernel
  · decide +kernel

end AutoTrader.MarketData
