import AutoTrader.Ledger.Streams
import AutoTrader.Runtime.Runs

/-! What a partition's watermark says about the sequences that arrived in it. The law holds
as long as nothing arrives early next to something that already waits; without numbers
recorded twice, the contiguous mark alone is right in any order. -/

namespace AutoTrader.Ledger

open AutoTrader.Domain AutoTrader.Runtime

/-- A call with a sequence, and whether a fill of its own was recorded for it just before. -/
structure Report extends Arrival where
  recorded : Bool

/-- A partition: the sequences of its recorded fills, and its watermark rows. -/
structure Partition where
  received : List Nat
  stream : Stream

namespace Partition

def empty : Partition := ⟨[], .empty⟩

/-- A sequence is advanced when a fill with it is recorded, the first time at least. -/
def receive (pick : List PersistedExecutionGap → Option PersistedExecutionGap) (p : Partition) (a : Report) :
    Partition :=
  let received := if a.recorded ∨ a.sequence ∉ p.received then p.received ++ [a.sequence] else p.received
  ⟨received, advanceStreamSequence pick received p.stream a.toArrival⟩

end Partition

/-- The row returned first is one of the rows, and there is one when there are rows. -/
structure Picks (pick : List PersistedExecutionGap → Option PersistedExecutionGap) : Prop where
  mem : ∀ gaps g, pick gaps = some g → g ∈ gaps
  none : ∀ gaps, pick gaps = none → gaps = []

/-! ### The contiguous mark -/

/-- `k` is the largest number up to which everything was received. -/
def ReceivedThrough (received : List Nat) (k : Nat) : Prop :=
  (∀ m, 0 < m → m ≤ k → m ∈ received) ∧ k + 1 ∉ received

theorem receivedThrough_unique {received : List Nat} {j k : Nat} (hj : ReceivedThrough received j)
    (hk : ReceivedThrough received k) : j = k := by
  have hle : ∀ {j k : Nat}, ReceivedThrough received j → ReceivedThrough received k → j ≤ k := by
    intro j k hj hk
    by_contra hlt
    exact hk.2 (hj.1 (k + 1) (by omega) (by omega))
  exact le_antisymm (hle hj hk) (hle hk hj)

/-- The loop stops at the first number that is missing. -/
theorem drain_spec {sequences : List Nat} {through : Nat} (hsorted : sequences.Pairwise (· < ·))
    (habove : ∀ s ∈ sequences, through < s) :
    through ≤ drain through sequences ∧
      (∀ m, through < m → m ≤ drain through sequences → m ∈ sequences) ∧
      drain through sequences + 1 ∉ sequences := by
  induction sequences generalizing through with
  | nil => exact ⟨le_rfl, fun m hlow hhigh => by simp only [drain] at hhigh; omega, List.not_mem_nil⟩
  | cons s rest ih =>
    obtain ⟨hfirst, hrest⟩ := List.pairwise_cons.mp hsorted
    have hs : through < s := habove s List.mem_cons_self
    unfold drain
    by_cases hnext : s = through + 1
    · rw [if_neg (not_not.mpr hnext)]
      obtain ⟨hle, hall, hstop⟩ := ih hrest hfirst
      refine ⟨by omega, fun m hlow hhigh => ?_, fun hmem => ?_⟩
      · by_cases hm : m = s
        · exact hm ▸ List.mem_cons_self
        · exact List.mem_cons_of_mem s (hall m (by omega) hhigh)
      · rcases List.mem_cons.mp hmem with heq | hmem
        · omega
        · exact hstop hmem
    · rw [if_pos hnext]
      refine ⟨le_rfl, fun m hlow hhigh => by omega, fun hmem => ?_⟩
      rcases List.mem_cons.mp hmem with heq | hmem
      · exact hnext heq.symm
      · have hlt := hfirst (through + 1) hmem
        omega

theorem mem_laterSequences {received : List Nat} {through m : Nat} :
    m ∈ laterSequences received through ↔ m ∈ received ∧ through < m := by
  unfold laterSequences
  rw [(List.perm_insertionSort (· ≤ ·) _).mem_iff]
  simp

theorem laterSequences_sorted (received : List Nat) (through : Nat) :
    (laterSequences received through).Pairwise (· ≤ ·) :=
  List.pairwise_insertionSort (· ≤ ·) (received.filter (through < ·))

theorem laterSequences_nodup {received : List Nat} (h : received.Nodup) (through : Nat) :
    (laterSequences received through).Pairwise (· < ·) := by
  have hnodup : (laterSequences received through).Nodup :=
    (List.perm_insertionSort (· ≤ ·) _).nodup_iff.mpr (h.filter _)
  exact ((laterSequences_sorted received through).and hnodup).imp fun hab => lt_of_le_of_ne hab.1 hab.2

/-- Draining from a mark up to which everything was received. -/
theorem drain_receivedThrough {received : List Nat} {through : Nat} (hnodup : received.Nodup)
    (hupTo : ∀ m, 0 < m → m ≤ through → m ∈ received) :
    ReceivedThrough received (drain through (laterSequences received through)) ∧
      through ≤ drain through (laterSequences received through) := by
  obtain ⟨hle, hall, hstop⟩ := drain_spec (laterSequences_nodup hnodup through)
    fun s hs => (mem_laterSequences.mp hs).2
  refine ⟨⟨fun m hpos hm => ?_, fun hmem => ?_⟩, hle⟩
  · by_cases hlow : m ≤ through
    · exact hupTo m hpos hlow
    · exact (mem_laterSequences.mp (hall m (by omega) hm)).1
  · exact hstop (mem_laterSequences.mpr ⟨hmem, by omega⟩)

theorem drain_of_not_mem {sequences : List Nat} {through : Nat} (h : through + 1 ∉ sequences) :
    drain through sequences = through := by
  cases sequences with
  | nil => rfl
  | cons s rest =>
    have hne : s ≠ through + 1 := fun heq => h (heq ▸ List.mem_cons_self)
    unfold drain
    rw [if_pos hne]

/-- A next number with nothing right past it is drained alone, however often it is recorded. -/
theorem drain_of_mem {sequences : List Nat} {through : Nat} (hsorted : sequences.Pairwise (· ≤ ·))
    (habove : ∀ s ∈ sequences, through < s) (hnext : through + 1 ∈ sequences)
    (hstop : through + 2 ∉ sequences) : drain through sequences = through + 1 := by
  cases sequences with
  | nil => exact absurd hnext List.not_mem_nil
  | cons s rest =>
    have hfirst : s = through + 1 := by
      have hlow := habove s List.mem_cons_self
      rcases List.mem_cons.mp hnext with heq | hmem
      · exact heq.symm
      · have hle := (List.pairwise_cons.mp hsorted).1 _ hmem
        omega
    unfold drain
    rw [if_neg (not_not.mpr hfirst), hfirst]
    exact drain_of_not_mem fun hmem => hstop (List.mem_cons_of_mem s hmem)

/-- What every sequence of arrivals keeps of the watermark row. -/
structure Started (p : Partition) : Prop where
  fresh : p.stream.watermark = none → p.received = [] ∧ p.stream.gaps = []
  started : ∀ w through, p.stream.watermark = some w → w.contiguousThroughSequence = some through → 0 < through

variable {pick : List PersistedExecutionGap → Option PersistedExecutionGap}

/-- A fill that continues the mark drains what waits past it; no other moves the mark. -/
theorem advance_mark {received : List Nat} {s : Stream} {a : Arrival}
    (hfresh : s.watermark = none → received = [a.sequence]) :
    (advanceStreamSequence pick received s a).mark =
      if a.sequence = s.mark + 1 then drain a.sequence (laterSequences received a.sequence) else s.mark := by
  unfold advanceStreamSequence
  cases hw : s.watermark with
  | none =>
    have hmark : s.mark = 0 := by simp [Stream.mark, hw]
    have hlater : laterSequences received a.sequence = [] := by
      rw [hfresh hw]
      simp [laterSequences]
    rw [hmark, hlater]
    by_cases hone : a.sequence = 1 <;> simp [Stream.mark, hone, drain]
  | some w =>
    dsimp only
    cases hthrough : w.contiguousThroughSequence with
    | none =>
      have hmark : s.mark = 0 := by simp [Stream.mark, hw, hthrough]
      rw [hmark]
      by_cases hone : a.sequence = 1
      · simp [Stream.mark, hone]
      · simp [Stream.mark, hone]
    | some through =>
      have hmark : s.mark = through := by simp [Stream.mark, hw, hthrough]
      rw [hmark]
      by_cases hnext : a.sequence = through + 1
      · simp [Stream.mark, hnext]
      · by_cases hsame : through = a.sequence <;> simp [Stream.mark, hnext, hsame, hw, hthrough]

theorem le_drain {sequences : List Nat} {through : Nat} : through ≤ drain through sequences := by
  induction sequences generalizing through with
  | nil => exact le_rfl
  | cons s rest ih =>
    unfold drain
    split
    · exact le_rfl
    · have hle : s ≤ drain s rest := ih
      omega

/-- A mark that is set is the number of something received. -/
theorem advance_started {received : List Nat} {s : Stream} {a : Arrival} (ha : 0 < a.sequence)
    (hstarted : ∀ w through, s.watermark = some w → w.contiguousThroughSequence = some through → 0 < through) :
    ∀ w through, (advanceStreamSequence pick received s a).watermark = some w →
      w.contiguousThroughSequence = some through → 0 < through := by
  intro w through hw hthrough
  have hdrain : ∀ {n : Nat} {sequences : List Nat}, 0 < n → 0 < drain n sequences := by
    intro n sequences hn
    exact lt_of_lt_of_le hn le_drain
  unfold advanceStreamSequence at hw
  cases hold : s.watermark with
  | none =>
    rw [hold] at hw
    rw [← Option.some.inj hw] at hthrough
    dsimp only at hthrough
    split at hthrough <;> cases hthrough
    exact ha
  | some old =>
    have hkept := hstarted old
    rw [hold] at hw hkept
    dsimp only at hw
    cases hcontiguous : old.contiguousThroughSequence with
    | none =>
      rw [hcontiguous] at hw
      dsimp only at hw
      split at hw <;> rw [← Option.some.inj hw] at hthrough
      · rw [← Option.some.inj hthrough]
        exact hdrain one_pos
      · exact hkept through rfl (hcontiguous.trans hthrough)
    | some previous =>
      rw [hcontiguous] at hw
      dsimp only at hw
      split at hw
      · rw [← Option.some.inj hw] at hthrough
        rw [← Option.some.inj hthrough]
        exact hdrain ha
      · split at hw
        · rw [← Option.some.inj hw] at hthrough
          exact hkept through rfl (hcontiguous.trans hthrough)
        · rw [hold] at hw
          rw [← Option.some.inj hw] at hthrough
          exact hkept through rfl hthrough

theorem mem_receive {p : Partition} {a : Report} {m : Nat} :
    m ∈ (p.receive pick a).received ↔ m ∈ p.received ∨ m = a.sequence := by
  show m ∈ (if a.recorded ∨ a.sequence ∉ p.received then p.received ++ [a.sequence] else p.received) ↔ _
  split
  · simp
  · rename_i hold
    have hmem : a.sequence ∈ p.received := by
      by_contra hnew
      exact hold (.inr hnew)
    constructor
    · exact .inl
    · rintro (h | rfl)
      · exact h
      · exact hmem

theorem nodup_receive {p : Partition} {a : Report} (h : p.received.Nodup)
    (honce : a.recorded → a.sequence ∉ p.received) : (p.receive pick a).received.Nodup := by
  show (if a.recorded ∨ a.sequence ∉ p.received then p.received ++ [a.sequence] else p.received).Nodup
  split
  · rename_i hnew
    have hfresh : a.sequence ∉ p.received := hnew.elim honce id
    rw [List.nodup_append]
    refine ⟨h, List.nodup_singleton _, ?_⟩
    rintro m hm n hn rfl
    exact hfresh (List.mem_singleton.mp hn ▸ hm)
  · exact h

theorem mark_receive {p : Partition} {a : Report} (h : Started p) :
    (p.receive pick a).stream.mark =
      if a.sequence = p.stream.mark + 1 then
        drain a.sequence (laterSequences (p.receive pick a).received a.sequence)
      else p.stream.mark := by
  refine advance_mark fun hw => ?_
  rw [(h.fresh hw).1]
  simp

theorem started_receive {p : Partition} {a : Report} (h : Started p) (ha : 0 < a.sequence) :
    Started (p.receive pick a) := by
  constructor
  · intro hnone
    exfalso
    revert hnone
    show (advanceStreamSequence pick _ p.stream a.toArrival).watermark ≠ none
    unfold advanceStreamSequence
    split
    · simp
    · rename_i w hw
      dsimp only
      split <;> split_ifs <;> simp [hw]
  · show ∀ w through, (advanceStreamSequence pick _ p.stream a.toArrival).watermark = some w → _
    exact advance_started ha h.started

/-- A number next to the mark drains what waits past it, and no other number moves the mark. -/
theorem receivedThrough_receive {p : Partition} {a : Report} (hstart : Started p)
    (h : ReceivedThrough p.received p.stream.mark)
    (hdrain : a.sequence = p.stream.mark + 1 →
      (∀ m, 0 < m → m ≤ a.sequence → m ∈ (p.receive pick a).received) →
      ReceivedThrough (p.receive pick a).received
        (drain a.sequence (laterSequences (p.receive pick a).received a.sequence))) :
    ReceivedThrough (p.receive pick a).received (p.receive pick a).stream.mark := by
  rw [mark_receive hstart]
  split
  · rename_i hnext
    refine hdrain hnext fun m hpos hle => mem_receive.mpr ?_
    by_cases heq : m = a.sequence
    · exact .inr heq
    · exact .inl (h.1 m hpos (by omega))
  · rename_i hnext
    refine ⟨fun m hpos hm => mem_receive.mpr (.inl (h.1 m hpos hm)), fun hmem => ?_⟩
    rcases mem_receive.mp hmem with hold | hnew
    · exact h.2 hold
    · exact hnext hnew.symm

/-! ### The gap rows -/

/-- The first sequence settles one row, the next one settles the rows around it, and an
early one may add a row. -/
theorem advance_gaps {received : List Nat} {s : Stream} {a : Arrival} (hpick : Picks pick)
    (hfresh : s.watermark = none → s.gaps = [])
    (hstarted : ∀ w through, s.watermark = some w → w.contiguousThroughSequence = some through → 0 < through) :
    (advanceStreamSequence pick received s a).gaps =
      if a.sequence = s.mark + 1 then
        if s.mark = 0 then settleInitialGap pick s.gaps else s.gaps.map (settleGap a.sequence)
      else addGap s.gaps (s.mark + 1) (a.sequence - 1) := by
  unfold advanceStreamSequence
  cases hw : s.watermark with
  | none =>
    have hmark : s.mark = 0 := by simp [Stream.mark, hw]
    have hnone : settleInitialGap pick [] = [] := by
      unfold settleInitialGap
      cases hp : pick ([].filter fun g => g.status = .opened && g.fromSequence = 1) with
      | none => rfl
      | some g => exact absurd (hpick.mem _ g hp) (by simp)
    rw [hmark, hfresh hw]
    by_cases hone : a.sequence = 1
    · simp [hone, hnone]
    · by_cases hearly : 1 < a.sequence
      · have hle : 1 ≤ a.sequence - 1 := by omega
        simp [hone, hearly, addGap, hle]
      · have hle : ¬1 ≤ a.sequence - 1 := by omega
        simp [hone, hearly, addGap, hle]
  | some w =>
    dsimp only
    cases hthrough : w.contiguousThroughSequence with
    | none =>
      have hmark : s.mark = 0 := by simp [Stream.mark, hw, hthrough]
      rw [hmark]
      by_cases hone : a.sequence = 1 <;> simp [hone]
    | some through =>
      have hmark : s.mark = through := by simp [Stream.mark, hw, hthrough]
      have hpos : through ≠ 0 := (hstarted w through hw hthrough).ne'
      rw [hmark]
      by_cases hnext : a.sequence = through + 1
      · simp [hnext, hpos]
      · by_cases hsame : through = a.sequence
        · have hle : ¬a.sequence + 1 ≤ a.sequence - 1 := by omega
          simp [hsame, addGap, hle]
        · simp [hnext, hsame]

/-- How the gap rows stand to what was received: an open one ends right below a number that
waits, a closed one ends below the mark, and every waiting number has its row. -/
structure Tracked (p : Partition) : Prop where
  through : ReceivedThrough p.received p.stream.mark
  opened : ∀ g ∈ p.stream.gaps, g.status = .opened →
    g.fromSequence ≤ p.stream.mark + 1 ∧ p.stream.mark < g.throughSequence ∧
      g.throughSequence ∉ p.received ∧ g.throughSequence + 1 ∈ p.received
  closed : ∀ g ∈ p.stream.gaps, g.status = .closed → g.throughSequence ≤ p.stream.mark
  waiting : ∀ s ∈ p.received, p.stream.mark + 1 < s →
    s - 1 ∉ p.received ∧ ∃ g ∈ p.stream.gaps, g.status = .opened ∧ g.throughSequence = s - 1
  initial : p.stream.mark = 0 → ∀ g ∈ p.stream.gaps, g.fromSequence = 1

/-- No number arrives early next to one that was received, and the first one does not find
the second and another waiting. -/
def Separate (p : Partition) (a : Report) : Prop :=
  (p.stream.mark + 1 < a.sequence → a.sequence - 1 ∉ p.received ∧ a.sequence + 1 ∉ p.received) ∧
    (p.stream.mark = 0 → a.sequence = 1 → 2 ∈ p.received → ∀ s ∈ p.received, s = 2)

instance (p : Partition) (a : Report) : Decidable (Separate p a) :=
  inferInstanceAs (Decidable (_ ∧ _))

theorem gaps_receive {p : Partition} {a : Report} (hpick : Picks pick) (h : Started p) :
    (p.receive pick a).stream.gaps =
      if a.sequence = p.stream.mark + 1 then
        if p.stream.mark = 0 then settleInitialGap pick p.stream.gaps
        else p.stream.gaps.map (settleGap a.sequence)
      else addGap p.stream.gaps (p.stream.mark + 1) (a.sequence - 1) :=
  advance_gaps hpick (fun hw => (h.fresh hw).2) h.started

theorem mem_addGap {gaps : List PersistedExecutionGap} {low high : Nat} {g : PersistedExecutionGap}
    (h : g ∈ addGap gaps low high) : g ∈ gaps ∨ g = ⟨low, high, .opened⟩ := by
  unfold addGap at h
  split at h
  · simpa using h
  · exact .inl h

/-- After the next number, the mark stands on it or on the single number that waited past it. -/
theorem mark_next (pick : List PersistedExecutionGap → Option PersistedExecutionGap) {p : Partition}
    {a : Report} (hm : Started p) (h : Tracked p) (hnext : a.sequence = p.stream.mark + 1) :
    (p.receive pick a).stream.mark = a.sequence ∧ a.sequence + 1 ∉ p.received ∨
      (p.receive pick a).stream.mark = a.sequence + 1 ∧ a.sequence + 1 ∈ p.received := by
  have hpast : ∀ m, a.sequence < m →
      (m ∈ laterSequences (p.receive pick a).received a.sequence ↔ m ∈ p.received) := by
    intro m hlt
    rw [mem_laterSequences, mem_receive]
    constructor
    · rintro ⟨hold | heq, -⟩
      · exact hold
      · omega
    · exact fun hold => ⟨.inl hold, hlt⟩
  have hmark : (p.receive pick a).stream.mark =
      drain a.sequence (laterSequences (p.receive pick a).received a.sequence) := by
    rw [mark_receive hm, if_pos hnext]
  by_cases hwaits : a.sequence + 1 ∈ p.received
  · -- a number right past a waiting one does not wait
    have hstop : a.sequence + 2 ∉ p.received := by
      intro hin
      exact (h.waiting _ hin (by omega)).1 hwaits
    refine .inr ⟨hmark.trans ?_, hwaits⟩
    refine drain_of_mem (laterSequences_sorted _ _) (fun s hs => (mem_laterSequences.mp hs).2) ?_ ?_
    · rw [hpast _ (by omega)]
      exact hwaits
    · rw [hpast _ (by omega)]
      exact hstop
  · refine .inl ⟨hmark.trans (drain_of_not_mem ?_), hwaits⟩
    rw [hpast _ (by omega)]
    exact hwaits

theorem through_receive {p : Partition} {a : Report} (hm : Started p) (h : Tracked p) :
    ReceivedThrough (p.receive pick a).received (p.receive pick a).stream.mark := by
  refine receivedThrough_receive hm h.through fun hnext hupTo => ?_
  have hmark : (p.receive pick a).stream.mark =
      drain a.sequence (laterSequences (p.receive pick a).received a.sequence) := by
    rw [mark_receive hm, if_pos hnext]
  rw [← hmark]
  rcases mark_next pick hm h hnext with ⟨hto, hno⟩ | ⟨hto, hwaits⟩
  · rw [hto]
    refine ⟨hupTo, fun hin => ?_⟩
    rcases mem_receive.mp hin with hin | heq
    · exact hno hin
    · omega
  · rw [hto]
    refine ⟨fun m hpos hle => ?_, fun hin => ?_⟩
    · by_cases hlast : m = a.sequence + 1
      · exact mem_receive.mpr (.inl (hlast ▸ hwaits))
      · exact hupTo m hpos (by omega)
    · rcases mem_receive.mp hin with hin | heq
      · exact (h.waiting _ hin (by omega)).1 hwaits
      · omega

/-- A repeated or old number changes no row. -/
theorem tracked_behind {p : Partition} {a : Report} (hpick : Picks pick) (hm : Started p) (h : Tracked p)
    (hbehind : a.sequence ≤ p.stream.mark) (ha : 0 < a.sequence) : Tracked (p.receive pick a) := by
  have hne : a.sequence ≠ p.stream.mark + 1 := by omega
  have hmark : (p.receive pick a).stream.mark = p.stream.mark := by
    rw [mark_receive hm, if_neg hne]
  have hgaps : (p.receive pick a).stream.gaps = p.stream.gaps := by
    rw [gaps_receive hpick hm, if_neg hne]
    unfold addGap
    rw [if_neg]
    omega
  have hin : a.sequence ∈ p.received := h.through.1 a.sequence ha hbehind
  have hreceived : ∀ m, m ∈ (p.receive pick a).received ↔ m ∈ p.received := by
    intro m
    rw [mem_receive]
    constructor
    · rintro (hold | rfl)
      · exact hold
      · exact hin
    · exact .inl
  refine ⟨through_receive hm h, ?_, ?_, ?_, ?_⟩
  · simp only [hmark, hgaps, hreceived]
    exact h.opened
  · rw [hmark, hgaps]
    exact h.closed
  · simp only [hmark, hgaps, hreceived]
    exact h.waiting
  · rw [hmark, hgaps]
    exact h.initial

/-- A number that comes early waits under a row of its own. -/
theorem tracked_early {p : Partition} {a : Report} (hpick : Picks pick) (hm : Started p) (h : Tracked p)
    (hearly : p.stream.mark + 1 < a.sequence) (hbefore : a.sequence - 1 ∉ p.received)
    (hafter : a.sequence + 1 ∉ p.received) : Tracked (p.receive pick a) := by
  have hne : a.sequence ≠ p.stream.mark + 1 := by omega
  have hmark : (p.receive pick a).stream.mark = p.stream.mark := by
    rw [mark_receive hm, if_neg hne]
  have hgaps : (p.receive pick a).stream.gaps =
      addGap p.stream.gaps (p.stream.mark + 1) (a.sequence - 1) := by
    rw [gaps_receive hpick hm, if_neg hne]
  have hold : ∀ g ∈ p.stream.gaps, g ∈ (p.receive pick a).stream.gaps := by
    intro g hg
    rw [hgaps]
    unfold addGap
    split
    · exact List.mem_append_left _ hg
    · exact hg
  refine ⟨through_receive hm h, ?_, ?_, ?_, ?_⟩
  · intro g hg hstatus
    rw [hmark]
    rw [hgaps] at hg
    rcases mem_addGap hg with hg | rfl
    · obtain ⟨hfrom, hthrough, hmissing, hnext⟩ := h.opened g hg hstatus
      refine ⟨hfrom, hthrough, fun hin => ?_, mem_receive.mpr (.inl hnext)⟩
      rcases mem_receive.mp hin with hin | heq
      · exact hmissing hin
      · exact hafter (heq ▸ hnext)
    · refine ⟨le_rfl, by show p.stream.mark < a.sequence - 1; omega, fun hin => ?_, ?_⟩
      · rcases mem_receive.mp hin with hin | heq
        · exact hbefore hin
        · have heq : a.sequence - 1 = a.sequence := heq
          omega
      · have heq : a.sequence - 1 + 1 = a.sequence := by omega
        exact mem_receive.mpr (.inr heq)
  · intro g hg hstatus
    rw [hmark]
    rw [hgaps] at hg
    rcases mem_addGap hg with hg | rfl
    · exact h.closed g hg hstatus
    · cases hstatus
  · intro s hs hwait
    rw [hmark] at hwait
    rcases mem_receive.mp hs with hs | rfl
    · obtain ⟨hmissing, g, hg, hstatus, hthrough⟩ := h.waiting s hs hwait
      refine ⟨fun hin => ?_, g, hold g hg, hstatus, hthrough⟩
      rcases mem_receive.mp hin with hin | heq
      · exact hmissing hin
      · have hs' : a.sequence + 1 = s := by omega
        exact hafter (hs' ▸ hs)
    · refine ⟨fun hin => ?_, ?_⟩
      · rcases mem_receive.mp hin with hin | heq
        · exact hbefore hin
        · omega
      · rw [hgaps]
        unfold addGap
        by_cases hany : p.stream.gaps.any fun g =>
            g.fromSequence = p.stream.mark + 1 && g.throughSequence = a.sequence - 1
        · -- a row of this gap stands already; it is not closed, since it ends past the mark
          obtain ⟨g, hg, hrow⟩ := List.any_eq_true.mp hany
          simp only [Bool.and_eq_true, decide_eq_true_eq] at hrow
          refine ⟨g, ?_, ?_, hrow.2⟩
          · rw [if_neg (by simp [hany])]
            exact hg
          · cases hstatus : g.status with
            | opened => rfl
            | closed =>
              have hle := h.closed g hg hstatus
              omega
        · rw [if_pos ⟨by omega, hany⟩]
          exact ⟨_, List.mem_append_right _ List.mem_cons_self, rfl, rfl⟩
  · intro hzero
    rw [hmark] at hzero
    rw [hgaps]
    intro g hg
    rcases mem_addGap hg with hg | rfl
    · exact h.initial hzero g hg
    · show p.stream.mark + 1 = 1
      omega

theorem settleGap_of_closed {g : PersistedExecutionGap} {sequence : Nat} (h : g.status = .closed) :
    settleGap sequence g = g := by
  unfold settleGap
  rw [if_neg]
  simp [h]

/-- A row that ends past the sequence stays open and still ends there. -/
theorem settleGap_of_lt {g : PersistedExecutionGap} {sequence : Nat} (h : sequence < g.throughSequence) :
    (settleGap sequence g).status = g.status ∧
      (settleGap sequence g).throughSequence = g.throughSequence ∧
      (g.fromSequence ≤ sequence → g.status = .opened → (settleGap sequence g).fromSequence ≤ sequence + 1) := by
  have hne : g.throughSequence ≠ sequence := by omega
  unfold settleGap
  rw [if_neg hne]
  split
  · split
    · exact ⟨rfl, rfl, fun _ _ => le_rfl⟩
    · exact ⟨rfl, rfl, fun hle _ => by omega⟩
  · exact ⟨rfl, rfl, fun hle _ => by omega⟩

/-- A row that ends at the sequence closes. -/
theorem settleGap_of_eq {g : PersistedExecutionGap} {sequence : Nat} (hopen : g.status = .opened)
    (hfrom : g.fromSequence ≤ sequence) (hthrough : g.throughSequence = sequence) :
    settleGap sequence g = { g with status := .closed } := by
  unfold settleGap
  rw [if_pos ⟨hopen, hfrom, hthrough.ge⟩, if_pos hthrough]

/-- The number next to the mark closes the rows that end at it. -/
theorem tracked_next {p : Partition} {a : Report} (hpick : Picks pick) (hm : Started p) (h : Tracked p)
    (hnext : a.sequence = p.stream.mark + 1) (hpos : p.stream.mark ≠ 0) : Tracked (p.receive pick a) := by
  have hgaps : (p.receive pick a).stream.gaps = p.stream.gaps.map (settleGap a.sequence) := by
    rw [gaps_receive hpick hm, if_pos hnext, if_neg hpos]
  have hmark := mark_next pick hm h hnext
  have hle : a.sequence ≤ (p.receive pick a).stream.mark := by omega
  refine ⟨through_receive hm h, ?_, ?_, ?_, ?_⟩
  · intro g' hg' hstatus
    rw [hgaps] at hg'
    obtain ⟨g, hg, rfl⟩ := List.mem_map.mp hg'
    cases hold : g.status with
    | closed =>
      rw [settleGap_of_closed hold, hold] at hstatus
      cases hstatus
    | opened =>
      obtain ⟨hfrom, hthrough, hmissing, hafter⟩ := h.opened g hg hold
      by_cases heq : g.throughSequence = a.sequence
      · rw [settleGap_of_eq hold (by omega) heq] at hstatus
        cases hstatus
      · obtain ⟨-, hsame, hlow⟩ := settleGap_of_lt (g := g) (by omega : a.sequence < g.throughSequence)
        have hlow := hlow (by omega) hold
        rw [hsame]
        refine ⟨by omega, ?_, fun hin => ?_, mem_receive.mpr (.inl hafter)⟩
        · rcases hmark with ⟨hto, -⟩ | ⟨hto, hwaits⟩
          · omega
          · have hne : g.throughSequence ≠ a.sequence + 1 := fun heq => hmissing (heq ▸ hwaits)
            omega
        · rcases mem_receive.mp hin with hin | hin
          · exact hmissing hin
          · exact heq hin
  · intro g' hg' hstatus
    rw [hgaps] at hg'
    obtain ⟨g, hg, rfl⟩ := List.mem_map.mp hg'
    cases hold : g.status with
    | closed =>
      rw [settleGap_of_closed hold]
      have hbelow := h.closed g hg hold
      omega
    | opened =>
      obtain ⟨hfrom, hthrough, -, -⟩ := h.opened g hg hold
      by_cases heq : g.throughSequence = a.sequence
      · rw [settleGap_of_eq hold (by omega) heq]
        show g.throughSequence ≤ _
        omega
      · obtain ⟨hsame, -, -⟩ := settleGap_of_lt (g := g) (by omega : a.sequence < g.throughSequence)
        rw [hsame, hold] at hstatus
        cases hstatus
  · intro s hs hwait
    rcases mem_receive.mp hs with hs | rfl
    · obtain ⟨hmissing, g, hg, hopen, hthrough⟩ := h.waiting s hs (by omega)
      obtain ⟨hstatus, hsame, -⟩ := settleGap_of_lt (g := g) (by omega : a.sequence < g.throughSequence)
      refine ⟨fun hin => ?_, settleGap a.sequence g, ?_, hstatus.trans hopen, hsame.trans hthrough⟩
      · rcases mem_receive.mp hin with hin | heq
        · exact hmissing hin
        · omega
      · rw [hgaps]
        exact List.mem_map_of_mem hg
    · omega
  · intro hzero
    omega

/-- The first number closes the row that ends at it, or shortens one that ends past it. -/
theorem tracked_first {p : Partition} {a : Report} (hpick : Picks pick) (hm : Started p) (h : Tracked p)
    (hzero : p.stream.mark = 0) (hone : a.sequence = 1) (hsecond : 2 ∈ p.received → ∀ s ∈ p.received, s = 2) :
    Tracked (p.receive pick a) := by
  have hnext : a.sequence = p.stream.mark + 1 := by omega
  have hpos : 0 < a.sequence := by omega
  have hgaps : (p.receive pick a).stream.gaps = settleInitialGap pick p.stream.gaps := by
    rw [gaps_receive hpick hm, if_pos hnext, if_pos hzero]
  have hmark := mark_next pick hm h hnext
  have hfrom := h.initial hzero
  have hdone : ∀ g ∈ p.stream.gaps, g.status = .closed → g.throughSequence ≤ 0 := fun g hg hclosed =>
    hzero ▸ h.closed g hg hclosed
  unfold settleInitialGap at hgaps
  cases hp : pick (p.stream.gaps.filter fun g => g.status = .opened && g.fromSequence = 1) with
  | none =>
    -- there is no open row, so nothing waited
    rw [hp] at hgaps
    have hnone := hpick.none _ hp
    have hno : ∀ g ∈ p.stream.gaps, g.status ≠ .opened := by
      intro g hg hopen
      have hin : g ∈ p.stream.gaps.filter fun g => g.status = .opened && g.fromSequence = 1 := by
        rw [List.mem_filter]
        exact ⟨hg, by simp [hopen, hfrom g hg]⟩
      rw [hnone] at hin
      exact List.not_mem_nil hin
    refine ⟨through_receive hm h, ?_, ?_, ?_, fun hmark' => by omega⟩
    · rw [hgaps]
      exact fun g hg hopen => absurd hopen (hno g hg)
    · rw [hgaps]
      intro g hg hclosed
      exact (hdone g hg hclosed).trans (Nat.zero_le _)
    · intro s hs hwait
      rcases mem_receive.mp hs with hs | rfl
      · obtain ⟨-, g, hg, hopen, -⟩ := h.waiting s hs (by omega)
        exact absurd hopen (hno g hg)
      · omega
  | some initial =>
    rw [hp] at hgaps
    have hin := hpick.mem _ _ hp
    rw [List.mem_filter] at hin
    have hopen : initial.status = .opened := by
      have hboth := hin.2
      simp only [Bool.and_eq_true, decide_eq_true_eq] at hboth
      exact hboth.1
    obtain ⟨-, hthrough, hmissing, hafter⟩ := h.opened initial hin.1 hopen
    dsimp only at hgaps
    by_cases hwaits : 2 ∈ p.received
    · -- only the second waits: every open row is the one from one to one
      have hall := hsecond hwaits
      have hto : (p.receive pick a).stream.mark = 2 := by
        rcases hmark with ⟨-, hno⟩ | ⟨hto, -⟩
        · rw [hone] at hno
          exact absurd hwaits hno
        · omega
      have hrow : ∀ g ∈ p.stream.gaps, g.status = .opened → g = ⟨1, 1, .opened⟩ := by
        intro g hg hstatus
        have hend := hall _ (h.opened g hg hstatus).2.2.2
        have hend' : g.throughSequence = 1 := by omega
        have hstart := hfrom g hg
        cases g
        subst hstart hend' hstatus
        rfl
      have hclosed : ∀ g ∈ (p.receive pick a).stream.gaps, g.status = .closed ∧ g.throughSequence ≤ 1 := by
        intro g' hg'
        rw [hgaps] at hg'
        obtain ⟨g, hg, rfl⟩ := List.mem_map.mp hg'
        cases hstatus : g.status with
        | closed =>
          have hne : g ≠ initial := fun heq => by rw [heq, hopen] at hstatus; cases hstatus
          rw [if_neg hne]
          exact ⟨hstatus, (hdone g hg hstatus).trans (Nat.zero_le _)⟩
        | opened =>
          rw [hrow initial hin.1 hopen, hrow g hg hstatus]
          exact ⟨rfl, le_rfl⟩
      refine ⟨through_receive hm h, fun g hg hstatus => ?_, fun g hg _ => ?_, fun s hs hwait => ?_,
        fun hmark' => by omega⟩
      · rw [(hclosed g hg).1] at hstatus
        cases hstatus
      · have hle := (hclosed g hg).2
        omega
      · rcases mem_receive.mp hs with hs | rfl
        · have hs := hall s hs
          omega
        · omega
    · -- every open row ends past the first two numbers
      have hto : (p.receive pick a).stream.mark = 1 := by
        rcases hmark with ⟨hto, -⟩ | ⟨-, hin⟩
        · omega
        · rw [hone] at hin
          exact absurd hin hwaits
      have hlong : ∀ g ∈ p.stream.gaps, g.status = .opened → 1 < g.throughSequence := by
        intro g hg hstatus
        obtain ⟨-, hpos, -, hnext⟩ := h.opened g hg hstatus
        have hne : g.throughSequence ≠ 1 := fun heq => hwaits (by rw [heq] at hnext; exact hnext)
        omega
      have hne : initial.throughSequence ≠ 1 := by
        have hlt := hlong initial hin.1 hopen
        omega
      have hkept : ∀ g, (if g = initial then
            if g.throughSequence = 1 then { g with status := GapStatus.closed } else { g with fromSequence := 2 }
          else g).status = g.status ∧
          (if g = initial then
            if g.throughSequence = 1 then { g with status := GapStatus.closed } else { g with fromSequence := 2 }
          else g).throughSequence = g.throughSequence := by
        intro g
        by_cases heq : g = initial
        · rw [if_pos heq, heq, if_neg hne]
          exact ⟨rfl, rfl⟩
        · rw [if_neg heq]
          exact ⟨rfl, rfl⟩
      refine ⟨through_receive hm h, fun g' hg' hstatus => ?_, fun g' hg' hstatus => ?_, fun s hs hwait => ?_,
        fun hmark' => by omega⟩
      · rw [hgaps] at hg'
        obtain ⟨g, hg, rfl⟩ := List.mem_map.mp hg'
        rw [(hkept g).1] at hstatus
        rw [(hkept g).2]
        obtain ⟨-, -, hmissing, hnext⟩ := h.opened g hg hstatus
        have hlt := hlong g hg hstatus
        refine ⟨?_, by omega, fun hin => ?_, mem_receive.mpr (.inl hnext)⟩
        · by_cases heq : g = initial
          · rw [if_pos heq, heq, if_neg hne]
            show 2 ≤ _
            omega
          · rw [if_neg heq, hfrom g hg]
            omega
        · rcases mem_receive.mp hin with hin | heq
          · exact hmissing hin
          · omega
      · rw [hgaps] at hg'
        obtain ⟨g, hg, rfl⟩ := List.mem_map.mp hg'
        rw [(hkept g).1] at hstatus
        rw [(hkept g).2]
        exact (hdone g hg hstatus).trans (Nat.zero_le _)
      · rcases mem_receive.mp hs with hs | rfl
        · obtain ⟨hmissing, g, hg, hstatus, hend⟩ := h.waiting s hs (by omega)
          refine ⟨fun hin => ?_, _, ?_, (hkept g).1.trans hstatus, (hkept g).2.trans hend⟩
          · rcases mem_receive.mp hin with hin | heq
            · exact hmissing hin
            · omega
          · rw [hgaps]
            exact List.mem_map_of_mem hg
        · omega

theorem tracked_receive {p : Partition} {a : Report} (hpick : Picks pick) (hm : Started p) (h : Tracked p)
    (ha : 0 < a.sequence) (hseparate : Separate p a) : Tracked (p.receive pick a) := by
  rcases Nat.lt_trichotomy a.sequence (p.stream.mark + 1) with hlt | heq | hgt
  · exact tracked_behind hpick hm h (by omega) ha
  · by_cases hzero : p.stream.mark = 0
    · exact tracked_first hpick hm h hzero (by omega) (hseparate.2 hzero (by omega))
    · exact tracked_next hpick hm h heq hzero
  · obtain ⟨hbefore, hafter⟩ := hseparate.1 hgt
    exact tracked_early hpick hm h hgt hbefore hafter

/-! ### Runs -/

/-- What the watermark of a partition is to say of the numbers advanced in it. -/
structure WatermarkLaw (sequences : List Nat) (s : Stream) : Prop where
  through : ReceivedThrough sequences s.mark
  open_iff : (∃ g ∈ s.gaps, g.status = .opened) ↔ ∃ m, 0 < m ∧ m ∉ sequences ∧ ∃ n ∈ sequences, m < n
  settled : (∀ m, 0 < m → (∃ n ∈ sequences, m < n) → m ∈ sequences) → ∀ g ∈ s.gaps, g.status = .closed

theorem started_empty : Started Partition.empty where
  fresh _ := ⟨rfl, rfl⟩
  started _ _ hw := absurd hw (by simp [Partition.empty, Stream.empty])

theorem receivedThrough_empty : ReceivedThrough Partition.empty.received Partition.empty.stream.mark :=
  ⟨fun m hpos hle => absurd hle (by simpa [Partition.empty, Stream.mark, Stream.empty] using hpos.ne'),
    List.not_mem_nil⟩

theorem tracked_empty : Tracked Partition.empty where
  through := receivedThrough_empty
  opened _ hg := absurd hg List.not_mem_nil
  closed _ hg := absurd hg List.not_mem_nil
  waiting _ hs := absurd hs List.not_mem_nil
  initial _ _ hg := absurd hg List.not_mem_nil

/-- Rows that are tracked are open exactly while something is missing. -/
theorem Tracked.law {p : Partition} (h : Tracked p) : WatermarkLaw p.received p.stream := by
  have hopen : (∃ g ∈ p.stream.gaps, g.status = .opened) →
      ∃ m, 0 < m ∧ m ∉ p.received ∧ ∃ n ∈ p.received, m < n := by
    rintro ⟨g, hg, hstatus⟩
    obtain ⟨-, hpast, hmissing, hnext⟩ := h.opened g hg hstatus
    exact ⟨g.throughSequence, by omega, hmissing, _, hnext, Nat.lt_succ_self _⟩
  refine ⟨h.through, ⟨hopen, ?_⟩, fun hall g hg => ?_⟩
  · rintro ⟨m, hpos, hmissing, n, hn, hlt⟩
    have hpast : p.stream.mark < m := by
      by_contra hle
      exact hmissing (h.through.1 m hpos (by omega))
    obtain ⟨-, g, hg, hstatus, -⟩ := h.waiting n hn (by omega)
    exact ⟨g, hg, hstatus⟩
  · cases hstatus : g.status with
    | closed => rfl
    | opened =>
      obtain ⟨m, hpos, hmissing, hbelow⟩ := hopen ⟨g, hg, hstatus⟩
      exact absurd (hall m hpos hbelow) hmissing

theorem WatermarkLaw.congr {xs ys : List Nat} {s : Stream} (hmem : ∀ m, m ∈ xs ↔ m ∈ ys)
    (h : WatermarkLaw xs s) : WatermarkLaw ys s := by
  obtain ⟨⟨hupTo, hstop⟩, hopen, hsettled⟩ := h
  simp only [hmem] at hupTo hstop hopen hsettled
  exact ⟨⟨hupTo, hstop⟩, hopen, hsettled⟩

/-- The numbers received are the ones that arrived. -/
theorem mem_received_run {p : Partition} {arrivals : List Report} {m : Nat} :
    m ∈ (runFrom (Partition.receive pick) p arrivals).received ↔
      m ∈ p.received ∨ m ∈ arrivals.map (·.sequence) := by
  induction arrivals generalizing p with
  | nil => simp
  | cons a arrivals ih =>
    rw [runFrom_cons, ih, mem_receive, List.map_cons, List.mem_cons, or_assoc]

/-- Without numbers recorded twice, the mark is right after arrivals in any order. -/
theorem receivedThrough_run {arrivals : List Report} (hpos : ∀ a ∈ arrivals, 0 < a.sequence)
    (honce : RunMeets (Partition.receive pick) (fun p a => a.recorded → a.sequence ∉ p.received)
      Partition.empty arrivals) :
    ReceivedThrough (arrivals.map (·.sequence))
      (runFrom (Partition.receive pick) Partition.empty arrivals).stream.mark := by
  have hrun : ∀ (arrivals : List Report) (p : Partition), (∀ a ∈ arrivals, 0 < a.sequence) →
      RunMeets (Partition.receive pick) (fun p a => a.recorded → a.sequence ∉ p.received) p arrivals →
      Started p → p.received.Nodup → ReceivedThrough p.received p.stream.mark →
      ReceivedThrough (runFrom (Partition.receive pick) p arrivals).received
        (runFrom (Partition.receive pick) p arrivals).stream.mark := by
    intro arrivals
    induction arrivals with
    | nil => exact fun p _ _ _ _ hp => hp
    | cons a arrivals ih =>
      intro p hpos honce hstart hnodup hp
      have hnodup' : (p.receive pick a).received.Nodup := nodup_receive hnodup honce.1
      rw [runFrom_cons]
      refine ih _ (fun b hb => hpos b (List.mem_cons_of_mem a hb)) honce.2
        (started_receive hstart (hpos a List.mem_cons_self)) hnodup' ?_
      exact receivedThrough_receive hstart hp fun _ hupTo => (drain_receivedThrough hnodup' hupTo).1
  obtain ⟨hupTo, hstop⟩ := hrun arrivals _ hpos honce started_empty List.nodup_nil receivedThrough_empty
  simp only [mem_received_run, Partition.empty, List.not_mem_nil, false_or] at hupTo hstop
  exact ⟨hupTo, hstop⟩

/-- The law holds after every run in which nothing arrives early next to something received. -/
theorem watermarkLaw_run (pick : List PersistedExecutionGap → Option PersistedExecutionGap) (hpick : Picks pick)
    (arrivals : List Report) (hpos : ∀ a ∈ arrivals, 0 < a.sequence)
    (hseparate : RunMeets (Partition.receive pick) Separate Partition.empty arrivals) :
    WatermarkLaw (arrivals.map (·.sequence))
      (runFrom (Partition.receive pick) Partition.empty arrivals).stream := by
  have hrun : ∀ (arrivals : List Report) (p : Partition), (∀ a ∈ arrivals, 0 < a.sequence) →
      RunMeets (Partition.receive pick) Separate p arrivals → Started p → Tracked p →
      WatermarkLaw (runFrom (Partition.receive pick) p arrivals).received
        (runFrom (Partition.receive pick) p arrivals).stream := by
    intro arrivals
    induction arrivals with
    | nil => exact fun p _ _ _ ht => ht.law
    | cons a arrivals ih =>
      intro p hpos hseparate hm ht
      have ha := hpos a List.mem_cons_self
      rw [runFrom_cons]
      exact ih _ (fun b hb => hpos b (List.mem_cons_of_mem a hb)) hseparate.2 (started_receive hm ha)
        (tracked_receive hpick hm ht ha hseparate.1)
  refine (hrun arrivals _ hpos hseparate started_empty tracked_empty).congr fun m => ?_
  rw [mem_received_run]
  simp [Partition.empty]

theorem picks_head? : Picks List.head? where
  mem _ _ h := List.mem_of_head? h
  none _ h := List.head?_eq_none_iff.mp h

private def arrival (sequence : Nat) : Report := ⟨⟨sequence, 0, 0, 0⟩, true⟩

theorem watermarkLaw_run_apart :
    WatermarkLaw [4, 1, 2, 1, 3]
      (runFrom (Partition.receive List.head?) Partition.empty ([4, 1, 2, 1, 3].map arrival)).stream :=
  watermarkLaw_run List.head? picks_head? ([4, 1, 2, 1, 3].map arrival) (by decide) (by decide +kernel)

/-- Three arrives early next to four: the row from three to three is never closed. -/
theorem watermarkLaw_fails_adjacent :
    ¬∀ arrivals : List Report, (∀ a ∈ arrivals, 0 < a.sequence) →
      WatermarkLaw (arrivals.map (·.sequence))
        (runFrom (Partition.receive List.head?) Partition.empty arrivals).stream := by
  intro h
  have hlaw := (h ([1, 4, 3, 2].map arrival) (by decide)).settled
  have hopen : ¬∀ g ∈ (runFrom (Partition.receive List.head?) Partition.empty
      ([1, 4, 3, 2].map arrival)).stream.gaps, g.status = .closed := by
    decide +kernel
  refine hopen (hlaw ?_)
  rintro m hpos ⟨n, hn, hlt⟩
  have hin : ∀ k, k ∈ ([1, 4, 3, 2].map arrival).map (·.sequence) ↔ k = 1 ∨ k = 4 ∨ k = 3 ∨ k = 2 := by
    simp [arrival]
  rw [hin] at hn ⊢
  omega

end AutoTrader.Ledger
