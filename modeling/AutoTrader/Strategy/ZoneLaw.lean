import AutoTrader.Strategy.Zones
import Mathlib.Algebra.Order.Floor.Ring
import Mathlib.Tactic.Linarith
import Mathlib.Tactic.Positivity

/-! What zones are: the marks are divided among as many bins as the cube root of their number, rounded up, and
the zones are bins of their own, one above the other. -/

namespace AutoTrader.Strategy

open AutoTrader.Domain AutoTrader.Runtime

/-! ### The number of bins -/

theorem cubeRootFrom_least (value candidate : ℕ) :
    IsLeast {root | candidate ≤ root ∧ value ≤ root ^ 3} (cubeRootFrom value candidate) := by
  induction candidate using cubeRootFrom.induct value with
  | case1 candidate hlt ih =>
    rw [cubeRootFrom, if_pos hlt]
    refine ⟨⟨(Nat.le_succ _).trans ih.1.1, ih.1.2⟩, fun root hroot => ih.2 ⟨?_, hroot.2⟩⟩
    rcases hroot.1.eq_or_lt with rfl | hnext
    · exact absurd hroot.2 (not_le.mpr hlt)
    · exact hnext
  | case2 candidate hge =>
    rw [cubeRootFrom, if_neg hge]
    exact ⟨⟨le_rfl, not_lt.mp hge⟩, fun root hroot => hroot.1⟩

/-- The loop ends with the root that is rounded up. -/
theorem cubeRootCeiling_least (value : ℕ) : IsLeast {root | 1 ≤ root ∧ value ≤ root ^ 3} (cubeRootCeiling value) :=
  cubeRootFrom_least value 1

/-! ### Indices -/

section Index

variable {minimum span value : ℚ} {binCount : ℕ}

theorem binIndex_nonneg (hspan : 0 < span) (hcount : 1 ≤ binCount) (h : minimum ≤ value) :
    0 ≤ binIndex value minimum span binCount := by
  refine le_min (Int.floor_nonneg.mpr ?_) (by omega)
  exact div_nonneg (mul_nonneg (sub_nonneg.mpr h) (Nat.cast_nonneg _)) hspan.le

theorem binIndex_lt (value minimum span : ℚ) (binCount : ℕ) : binIndex value minimum span binCount < binCount :=
  (min_le_right _ _).trans_lt (by omega)

theorem binIndex_mono (hspan : 0 < span) {other : ℚ} (h : value ≤ other) :
    binIndex value minimum span binCount ≤ binIndex other minimum span binCount := by
  refine min_le_min_right _ (Int.floor_mono ?_)
  gcongr

end Index

/-- The prices are not all one. -/
def NonDegenerate (marks : List Mark) : Prop := ∃ a ∈ marks, ∃ b ∈ marks, a.2 < b.2

section Marks

variable {marks : List Mark}

theorem lowest_le {first : Mark} {rest : List Mark} {mark : Mark} (h : mark ∈ first :: rest) : lowest first rest ≤ mark.2 :=
  minBy_le Prod.snd first rest mark h

theorem le_highest {first : Mark} {rest : List Mark} {mark : Mark} (h : mark ∈ first :: rest) : mark.2 ≤ highest first rest :=
  le_maxBy Prod.snd first rest mark h

theorem NonDegenerate.spans {first : Mark} {rest : List Mark} (h : NonDegenerate (first :: rest)) :
    0 < highest first rest - lowest first rest := by
  obtain ⟨a, ha, b, hb, hab⟩ := h
  exact sub_pos.mpr (((lowest_le ha).trans_lt hab).trans_le (le_highest hb))

theorem markIndex_range (h : NonDegenerate marks) {mark : Mark} (hmark : mark ∈ marks) :
    0 ≤ markIndex marks mark ∧ markIndex marks mark < cubeRootCeiling marks.length := by
  cases marks with
  | nil => cases hmark
  | cons first rest => exact ⟨binIndex_nonneg h.spans (one_le_cubeRootCeiling _) (lowest_le hmark), binIndex_lt _ _ _ _⟩

theorem markIndex_mono (h : NonDegenerate marks) {a b : Mark} (hab : a.2 ≤ b.2) : markIndex marks a ≤ markIndex marks b := by
  cases marks with
  | nil => exact le_rfl
  | cons first rest => exact binIndex_mono h.spans hab

/-- A bin holds the marks of its index. -/
theorem binsOf_getElem? (h : NonDegenerate marks) {i : ℕ} (hi : i < cubeRootCeiling marks.length) :
    (binsOf marks)[i]? = some (marks.filter fun mark => markIndex marks mark = i) := by
  rw [binsOf, distribute_getElem? hi]
  refine congrArg some (List.filter_congr fun mark hmark => ?_)
  have hrange := (markIndex_range h hmark).1
  exact decide_eq_decide.mpr (by omega)

theorem mem_of_mem_binsOf {bin : List Mark} (h : bin ∈ binsOf marks) {mark : Mark} (hmark : mark ∈ bin) : mark ∈ marks := by
  obtain ⟨i, -, rfl⟩ := mem_distribute h
  exact (List.mem_filter.mp hmark).1

theorem binsOf_ascending (h : NonDegenerate marks) :
    (binsOf marks).Pairwise fun lower upper => ∀ a ∈ lower, ∀ b ∈ upper, a.2 < b.2 := by
  refine (distribute_pairwise _ _ marks).imp fun hless a ha b hb => ?_
  by_contra hle
  have hindex := markIndex_mono h (not_lt.mp hle)
  have hlt := hless a ha b hb
  omega

/-! ### Zones -/

theorem zoneOf_some {bin : List Mark} {zone : HlitZone} (h : zoneOf bin = some zone) :
    minimumDistinctTouches ≤ zone.touchCount ∧ (∃ mark ∈ bin, mark.2 = zone.lowerBoundary) ∧
      ∃ mark ∈ bin, mark.2 = zone.upperBoundary := by
  cases bin with
  | nil => cases h
  | cons first rest =>
    rw [zoneOf] at h
    split at h
    next htouches =>
      cases h
      exact ⟨htouches, ⟨_, minBy_mem Prod.snd first rest, rfl⟩, _, maxBy_mem Prod.snd first rest, rfl⟩
    next => cases h

theorem zones_ascending (h : NonDegenerate marks) :
    ((binsOf marks).filterMap zoneOf).Pairwise fun lower upper => lower.upperBoundary < upper.lowerBoundary := by
  refine List.pairwise_filterMap.mpr ((binsOf_ascending h).imp fun hless lower hlower upper hupper => ?_)
  obtain ⟨-, -, a, ha, hprice⟩ := zoneOf_some hlower
  obtain ⟨-, ⟨b, hb, hprice'⟩, -⟩ := zoneOf_some hupper
  rw [← hprice, ← hprice']
  exact hless a ha b hb

/-- The bounds of a zone were seen. -/
theorem zone_inside {zone : HlitZone} (h : zone ∈ (binsOf marks).filterMap zoneOf) :
    minimumDistinctTouches ≤ zone.touchCount ∧ (∃ mark ∈ marks, mark.2 = zone.lowerBoundary) ∧
      ∃ mark ∈ marks, mark.2 = zone.upperBoundary := by
  obtain ⟨bin, hbin, hzone⟩ := List.mem_filterMap.mp h
  obtain ⟨htouches, ⟨a, ha, hlower⟩, b, hb, hupper⟩ := zoneOf_some hzone
  exact ⟨htouches, ⟨a, mem_of_mem_binsOf hbin ha, hlower⟩, b, mem_of_mem_binsOf hbin hb, hupper⟩

end Marks

/-- What holds of the bins and the zones of some marks. -/
structure SoundZones (marks : List Mark) (binCount : ℕ) (zones : List HlitZone) : Prop where
  root : IsLeast {root | 1 ≤ root ∧ marks.length ≤ root ^ 3} binCount
  inRange : ∀ mark ∈ marks, 0 ≤ markIndex marks mark ∧ markIndex marks mark < binCount
  binned : (binsOf marks).length = binCount ∧
    ∀ i < binCount, (binsOf marks)[i]? = some (marks.filter fun mark => markIndex marks mark = i)
  fromBins : ∀ zone ∈ zones, ∃ bin ∈ binsOf marks, zoneOf bin = some zone
  ascending : zones.Pairwise fun lower upper => lower.upperBoundary < upper.lowerBoundary
  inside : ∀ zone ∈ zones, (∃ mark ∈ marks, mark.2 = zone.lowerBoundary) ∧ zone.lowerBoundary ≤ zone.upperBoundary ∧
    ∃ mark ∈ marks, mark.2 = zone.upperBoundary
  touched : ∀ zone ∈ zones, 3 ≤ zone.touchCount ∧ zone.touchedAt.length = zone.touchCount ∧ zone.touchedAt.Nodup

theorem soundZones {marks : List Mark} (h : NonDegenerate marks) :
    SoundZones marks (cubeRootCeiling marks.length) ((binsOf marks).filterMap zoneOf) where
  root := cubeRootCeiling_least _
  inRange _ := markIndex_range h
  binned := ⟨distribute_length _ _ _, fun _ => binsOf_getElem? h⟩
  fromBins _ := List.mem_filterMap.mp
  ascending := zones_ascending h
  inside zone hzone := ⟨(zone_inside hzone).2.1, zone.ordered, (zone_inside hzone).2.2⟩
  touched zone hzone := ⟨(zone_inside hzone).1, zone.counted, zone.ascending.imp ne_of_lt⟩

/-- Fewer zones are sound as well. -/
theorem SoundZones.none {marks : List Mark} {binCount : ℕ} {zones : List HlitZone} (h : SoundZones marks binCount zones) :
    SoundZones marks binCount [] where
  root := h.root
  inRange := h.inRange
  binned := h.binned
  fromBins := by simp
  ascending := List.Pairwise.nil
  inside := by simp
  touched := by simp

theorem buildHlitZones_ok {zones : String → Option (Instant → Int)} {bars : List CompletedOhlcvBar} {config : ZoneConfig}
    {facts : ZoneFacts} (h : buildHlitZones zones bars config = .ok facts) :
    ∃ dateOf marks, zoneInfo zones config.sourceTimezone = .ok dateOf ∧
      observations ((selectedDays dateOf bars).flatMap (·.2)) = .ok marks ∧ facts.binCount = cubeRootCeiling marks.length ∧
        (facts.zones = [] ∨ facts.zones = (binsOf marks).filterMap zoneOf) := by
  rw [buildHlitZones] at h
  split at h
  next => cases h
  next last _ =>
    split at h
    next => cases h
    next =>
      obtain ⟨dateOf, hzone, h⟩ := bind_ok.mp h
      split at h
      next => cases h
      next =>
        obtain ⟨marks, hmarks, h⟩ := bind_ok.mp h
        cases h
        refine ⟨dateOf, marks, hzone, hmarks, rfl, ?_⟩
        dsimp only
        split
        · exact .inl rfl
        · exact .inr rfl

/-- The zones of every series of bars whose prices are not all one are sound. -/
theorem build_hlit_zones_sound {zones : String → Option (Instant → Int)} {bars : List CompletedOhlcvBar}
    {config : ZoneConfig} {facts : ZoneFacts} (h : buildHlitZones zones bars config = .ok facts) :
    ∃ dateOf marks, zoneInfo zones config.sourceTimezone = .ok dateOf ∧
      observations ((selectedDays dateOf bars).flatMap (·.2)) = .ok marks ∧
        (NonDegenerate marks → SoundZones marks facts.binCount facts.zones) := by
  obtain ⟨dateOf, marks, hzone, hmarks, hcount, hzones⟩ := buildHlitZones_ok h
  refine ⟨dateOf, marks, hzone, hmarks, fun hspread => ?_⟩
  rw [hcount]
  rcases hzones with hnone | hbins
  · rw [hnone]
    exact (soundZones hspread).none
  · rw [hbins]
    exact soundZones hspread

/-! ### Sample bars -/

theorem rising_pos : 0 < (Decimal.ofNat 1).toRat := by norm_num [Decimal.ofNat, Decimal.toRat]

theorem rising_low : (Decimal.ofNat 1).toRat ≤ (Decimal.ofNat 1).toRat := le_rfl

theorem rising_rises : (Decimal.ofNat 1).toRat ≤ (Decimal.ofNat 2).toRat := by norm_num [Decimal.ofNat, Decimal.toRat]

theorem rising_high : (Decimal.ofNat 2).toRat ≤ (Decimal.ofNat 2).toRat := le_rfl

theorem rising_nonneg : 0 ≤ (Decimal.ofNat 1).toRat := rising_pos.le

/-- A bar that rises from one to two. -/
def risingBar (start : Instant) : CompletedOhlcvBar where
  timestamp := start
  open_ := .ofNat 1
  high := .ofNat 2
  low := .ofNat 1
  close := .ofNat 2
  volume := .ofNat 1
  low_pos := rising_pos
  low_le_open := rising_low
  open_le_high := rising_rises
  low_le_close := rising_rises
  close_le_high := rising_high
  volume_nonneg := rising_nonneg

/-- One zone is known, with the days of UTC. -/
def utcDays (name : String) : Option (Instant → Int) :=
  if name = "UTC" then some fun moment => moment / 86400000000 else none

def threeDays : List CompletedOhlcvBar := [risingBar 0, risingBar 86400000000, risingBar 172800000000]

/-- Three days at their highest: six prices in two bins, both of them touched on every day. -/
theorem build_hlit_zones_sound_three_days :
    ∃ facts marks, buildHlitZones utcDays threeDays ⟨"UTC"⟩ = .ok facts ∧ facts.zones.length = 2 ∧ marks.length = 6 ∧
      SoundZones marks facts.binCount facts.zones := by
  have hbuilt : (buildHlitZones utcDays threeDays ⟨"UTC"⟩).toOption.map (·.zones.length) = some 2 := by decide +kernel
  have hsix : (observations ((selectedDays (· / 86400000000) threeDays).flatMap (·.2))).toOption.map id =
      some [(0, 1), (0, 2), (86400000000, 1), (86400000000, 2), (172800000000, 1), (172800000000, 2)] := by decide +kernel
  obtain ⟨facts, hfacts, hlength⟩ := exists_of_toOption hbuilt
  obtain ⟨sixMarks, hsixMarks, hlist⟩ := exists_of_toOption hsix
  obtain ⟨dateOf, marks, hzone, hmarks, hsound⟩ := build_hlit_zones_sound hfacts
  have hutc : zoneInfo utcDays "UTC" = .ok (· / 86400000000) := rfl
  cases hutc.symm.trans hzone
  cases hsixMarks.symm.trans hmarks
  cases hlist
  exact ⟨facts, _, hfacts, hlength, rfl, hsound ⟨(0, 1), by simp, (0, 2), by simp, by norm_num⟩⟩

/-- Two prices are put into two bins, and the cube of two is eight. -/
theorem cube_root_rounded_up :
    ∃ facts marks, buildHlitZones utcDays [risingBar 0] ⟨"UTC"⟩ = .ok facts ∧ observations [risingBar 0] = .ok marks ∧
      NonDegenerate marks ∧ ¬IsGreatest {root : ℕ | root ^ 3 ≤ marks.length} facts.binCount := by
  have hbuilt : (buildHlitZones utcDays [risingBar 0] ⟨"UTC"⟩).toOption.map (·.binCount) = some 2 := by decide +kernel
  have hmarks : (observations [risingBar 0]).toOption.map id = some [(0, 1), (0, 2)] := by decide +kernel
  obtain ⟨facts, hfacts, hcount⟩ := exists_of_toOption hbuilt
  obtain ⟨marks, hobserved, rfl⟩ := exists_of_toOption hmarks
  refine ⟨facts, _, hfacts, hobserved, ⟨(0, 1), by simp, (0, 2), by simp, by norm_num⟩, fun hfloor => ?_⟩
  have hcube : facts.binCount ^ 3 ≤ 2 := hfloor.1
  rw [hcount] at hcube
  exact absurd hcube (by decide)

end AutoTrader.Strategy
