import AutoTrader.Runtime.DistinctKeys
import Mathlib.Data.List.Forall2

/-! Values collected under their keys where copies need only be alike: the last copy of a key is kept, and two values
of one key that are not alike are refused. In order, what is kept of two collections is alike place by place wherever
the collections have the same members. -/

namespace AutoTrader.Runtime

open AutoTrader.Domain

variable {α κ ω ε : Type} [DecidableEq κ] {key : α → κ} {alike : α → α → Prop} [DecidableRel alike] {collision : ε}
  {values kept : List α}

/-- One step of the loop that collects: a key that is there must have a value like this one. -/
def collectAlike (key : α → κ) (alike : α → α → Prop) [DecidableRel alike] (collision : ε) (kept : List (κ × α))
    (value : α) : Except ε (List (κ × α)) :=
  match Dict.get? kept (key value) with
  | some existing => if ¬alike existing value then .error collision else .ok (Dict.set kept (key value) value)
  | none => .ok (Dict.set kept (key value) value)

/-- The values of one key are alike. -/
def AlikeEach (key : α → κ) (alike : α → α → Prop) (values : List α) : Prop :=
  ∀ a ∈ values, ∀ b ∈ values, key a = key b → alike a b

/-- What is kept of the values: one of each key. -/
structure Gathered (key : α → κ) (alike : α → α → Prop) (values kept : List α) : Prop where
  each : AlikeEach key alike values
  known : ∀ value ∈ kept, value ∈ values
  covers : ∀ value ∈ values, ∃ other ∈ kept, key other = key value
  nodup : (kept.map key).Nodup

/-- The values with this one in the place of its key. -/
def placed (key : α → κ) (kept : List α) (value : α) : List α :=
  kept.map fun other => if key other = key value then value else other

omit [DecidableRel alike] in
theorem placed_keys (kept : List α) (value : α) : (placed key kept value).map key = kept.map key := by
  rw [placed, List.map_map]
  refine List.map_congr_left fun other _ => ?_
  show key (if key other = key value then value else other) = key other
  split
  · rename_i hsame
    exact hsame.symm
  · rfl

theorem set_underKeys {value : α} (hkey : key value ∈ kept.map key) (hnodup : (kept.map key).Nodup) :
    Dict.set (underKeys key kept) (key value) value = underKeys key (placed key kept value) := by
  induction kept with
  | nil => cases hkey
  | cons first kept ih =>
    rw [List.map_cons, List.nodup_cons] at hnodup
    show Dict.set ((key first, first) :: underKeys key kept) (key value) value = _
    unfold Dict.set
    by_cases hsame : key first = key value
    · have hrest : placed key kept value = kept := by
        refine (List.map_congr_left fun other hother => if_neg fun heq => ?_).trans (List.map_id kept)
        exact hnodup.1 (hsame ▸ heq ▸ List.mem_map_of_mem hother)
      rw [if_pos hsame, placed, List.map_cons, if_pos hsame]
      rw [placed] at hrest
      rw [hrest, hsame]
      rfl
    · rcases List.mem_cons.mp hkey with heq | hkey
      · exact absurd heq.symm hsame
      · rw [if_neg hsame, ih hkey hnodup.2, placed, placed, List.map_cons, if_neg hsame]
        rfl

theorem get?_underKeys_some {value : α} (hkey : key value ∈ kept.map key) :
    ∃ existing ∈ kept, Dict.get? (underKeys key kept) (key value) = some existing ∧ key existing = key value := by
  cases hfound : Dict.get? (underKeys key kept) (key value) with
  | none =>
    refine absurd ?_ (Dict.get?_eq_none.mp hfound)
    rwa [underKeys, List.map_map]
  | some existing =>
    obtain ⟨hmem, hsame⟩ := get?_underKeys hfound
    exact ⟨existing, hmem, rfl, hsame⟩

theorem get?_underKeys_none {value : α} (hkey : key value ∉ kept.map key) :
    Dict.get? (underKeys key kept) (key value) = none :=
  Dict.get?_eq_none.mpr (by rwa [underKeys, List.map_map])

omit [DecidableRel alike] in
/-- A collected value more. -/
theorem Gathered.append (halike : Equivalence alike) {value : α} (h : Gathered key alike values kept)
    (hkey : key value ∈ kept.map key) (hlike : ∀ existing ∈ kept, key existing = key value → alike existing value) :
    Gathered key alike (values ++ [value]) (placed key kept value) := by
  have hlast (a : α) (ha : a ∈ values) (heq : key a = key value) : alike a value := by
    obtain ⟨existing, hexisting, hsame⟩ := h.covers a ha
    exact halike.trans (h.each a ha existing (h.known existing hexisting) hsame.symm)
      (hlike existing hexisting (hsame.trans heq))
  refine ⟨fun a ha b hb heq => ?_, fun other hother => ?_, fun other hother => ?_, ?_⟩
  · rcases List.mem_append.mp ha with ha | ha <;> rcases List.mem_append.mp hb with hb | hb
    · exact h.each a ha b hb heq
    · cases List.mem_singleton.mp hb
      exact hlast a ha heq
    · cases List.mem_singleton.mp ha
      exact halike.symm (hlast b hb heq.symm)
    · cases List.mem_singleton.mp ha
      cases List.mem_singleton.mp hb
      exact halike.refl value
  · obtain ⟨old, hold, rfl⟩ := List.mem_map.mp hother
    split
    · exact List.mem_append_right _ (List.mem_singleton_self value)
    · exact List.mem_append_left _ (h.known old hold)
  · have hkeys : key other ∈ (placed key kept value).map key := by
      rw [placed_keys]
      rcases List.mem_append.mp hother with hother | hother
      · obtain ⟨existing, hexisting, hsame⟩ := h.covers other hother
        exact hsame ▸ List.mem_map_of_mem hexisting
      · cases List.mem_singleton.mp hother
        exact hkey
    exact List.mem_map.mp hkeys
  · rw [placed_keys]
    exact h.nodup

omit [DecidableEq κ] [DecidableRel alike] in
theorem Gathered.append_new (halike : Equivalence alike) {value : α} (h : Gathered key alike values kept)
    (hkey : key value ∉ kept.map key) : Gathered key alike (values ++ [value]) (kept ++ [value]) := by
  have hnew (a : α) (ha : a ∈ values) : key a ≠ key value := by
    intro heq
    obtain ⟨existing, hexisting, hsame⟩ := h.covers a ha
    exact hkey (heq ▸ hsame ▸ List.mem_map_of_mem hexisting)
  refine ⟨fun a ha b hb heq => ?_, fun other hother => ?_, fun other hother => ?_, ?_⟩
  · rcases List.mem_append.mp ha with ha | ha <;> rcases List.mem_append.mp hb with hb | hb
    · exact h.each a ha b hb heq
    · cases List.mem_singleton.mp hb
      exact absurd heq (hnew a ha)
    · cases List.mem_singleton.mp ha
      exact absurd heq.symm (hnew b hb)
    · cases List.mem_singleton.mp ha
      cases List.mem_singleton.mp hb
      exact halike.refl value
  · exact (List.mem_append.mp hother).elim (fun hold => List.mem_append_left _ (h.known other hold))
      fun hlast => List.mem_append_right _ hlast
  · rcases List.mem_append.mp hother with hold | hlast
    · obtain ⟨existing, hexisting, hsame⟩ := h.covers other hold
      exact ⟨existing, List.mem_append_left _ hexisting, hsame⟩
    · exact ⟨other, List.mem_append_right _ hlast, rfl⟩
  · rw [List.map_append, List.nodup_append]
    refine ⟨h.nodup, List.nodup_singleton _, fun a ha b hb heq => hkey ?_⟩
    rw [List.map_singleton, List.mem_singleton] at hb
    exact hb ▸ heq ▸ ha

/-- The loop keeps one value of each key. -/
theorem collectAlike_gathered (halike : Equivalence alike) {dict : List (κ × α)}
    (h : values.foldlM (collectAlike key alike collision) [] = .ok dict) :
    dict = underKeys key (dict.map (·.2)) ∧ Gathered key alike values (dict.map (·.2)) := by
  induction values using List.reverseRecOn generalizing dict with
  | nil =>
    cases h
    exact ⟨rfl, fun a ha => absurd ha List.not_mem_nil, fun _ h => h, fun _ h => absurd h List.not_mem_nil, List.nodup_nil⟩
  | append_singleton values value ih =>
    rw [List.foldlM_append] at h
    obtain ⟨before, hbefore, h⟩ := bind_ok.mp h
    obtain ⟨hdict, hgathered⟩ := ih hbefore
    rw [List.foldlM_cons] at h
    obtain ⟨after, hstep, h⟩ := bind_ok.mp h
    cases h
    have hvalues (kept : List α) : (underKeys key kept).map (·.2) = kept := by
      rw [underKeys, List.map_map]
      exact List.map_id kept
    rw [hdict] at hstep
    unfold collectAlike at hstep
    by_cases hkey : key value ∈ (before.map (·.2)).map key
    · obtain ⟨existing, hexisting, hget, hsame⟩ := get?_underKeys_some hkey
      rw [hget] at hstep
      dsimp only at hstep
      split at hstep
      · cases hstep
      rename_i hlike
      cases hstep
      rw [set_underKeys hkey hgathered.nodup, hvalues]
      refine ⟨rfl, hgathered.append halike hkey fun other hother heq => ?_⟩
      rw [List.inj_on_of_nodup_map hgathered.nodup hother hexisting (heq.trans hsame.symm)]
      exact not_not.mp hlike
    · rw [get?_underKeys_none hkey] at hstep
      cases hstep
      have hnew : key value ∉ (underKeys key (before.map (·.2))).map (·.1) := by
        rwa [underKeys, List.map_map]
      have happend : underKeys key (before.map (·.2)) ++ [(key value, value)] =
          underKeys key (before.map (·.2) ++ [value]) := by
        rw [underKeys, underKeys, List.map_append]
        rfl
      rw [Dict.set_new hnew, happend, hvalues]
      exact ⟨rfl, hgathered.append_new halike hkey⟩

/-- And it raises nowhere while the values of one key are alike. -/
theorem collectAlike_ok (halike : Equivalence alike) (h : AlikeEach key alike values) :
    ∃ dict, values.foldlM (collectAlike key alike collision) [] = .ok dict := by
  induction values using List.reverseRecOn with
  | nil => exact ⟨[], rfl⟩
  | append_singleton values value ih =>
    obtain ⟨before, hbefore⟩ := ih fun a ha b hb => h a (List.mem_append_left _ ha) b (List.mem_append_left _ hb)
    obtain ⟨hdict, hgathered⟩ := collectAlike_gathered halike hbefore
    rw [List.foldlM_append, hbefore, ok_bind, List.foldlM_cons, hdict]
    unfold collectAlike
    by_cases hkey : key value ∈ (before.map (·.2)).map key
    · obtain ⟨existing, hexisting, hget, hsame⟩ := get?_underKeys_some hkey
      have hlike : alike existing value :=
        h existing (List.mem_append_left _ (hgathered.known existing hexisting)) value (by simp) hsame
      rw [hget]
      dsimp only
      rw [if_neg (not_not.mpr hlike)]
      exact ⟨_, rfl⟩
    · rw [get?_underKeys_none hkey]
      exact ⟨_, rfl⟩

/-! ### In order -/

section Order

variable [LinearOrder ω] {order : α → ω}

/-- `sorted(values, key=order)`. -/
def inOrder (order : α → ω) (values : List α) : List α := values.insertionSort fun a b => order a ≤ order b

theorem mem_inOrder {value : α} : value ∈ inOrder order values ↔ value ∈ values := List.mem_insertionSort _

theorem inOrder_sorted : (inOrder order values).Pairwise fun a b => order a ≤ order b := by
  have : Std.Total fun a b : α => order a ≤ order b := ⟨fun a b => le_total (order a) (order b)⟩
  have : IsTrans α fun a b => order a ≤ order b := ⟨fun _ _ _ => le_trans⟩
  exact List.pairwise_insertionSort _ values

omit [DecidableEq κ] in
/-- Under identities that the keys tell and that are distinct, two lists in order have the same keys if and only if one
has the keys of the other in some order. -/
theorem inOrder_keys_iff {named : κ → ω} (hnamed : ∀ x, named (key x) = order x) {xs ys : List α}
    (hdistinct : (xs.map order).Nodup) :
    (inOrder order xs).map key = (inOrder order ys).map key ↔ (xs.map key).Perm (ys.map key) := by
  have hperm (xs : List α) : ((inOrder order xs).map key).Perm (xs.map key) := (List.perm_insertionSort _ xs).map key
  constructor
  · intro h
    exact (hperm xs).symm.trans (h ▸ hperm ys)
  · intro h
    have hsorted (xs : List α) : ((inOrder order xs).map key).Pairwise fun a b => named a ≤ named b := by
      rw [List.pairwise_map]
      simp only [hnamed]
      exact inOrder_sorted
    refine List.Perm.eq_of_pairwise (fun a b ha hb hab hba => ?_) (hsorted xs) (hsorted ys)
      ((hperm xs).trans (h.trans (hperm ys).symm))
    obtain ⟨x, hx, rfl⟩ := List.mem_map.mp ha
    obtain ⟨y, hy, hkey⟩ := List.mem_map.mp (h.symm.subset ((hperm ys).subset hb))
    rw [← hkey, hnamed, hnamed] at hab hba
    rw [← hkey, List.inj_on_of_nodup_map hdistinct (mem_inOrder.mp hx) hy (le_antisymm hab hba)]

/-- An order in which values that are alike stand in one place, and no other two do. -/
structure Ranks (key : α → κ) (alike : α → α → Prop) (order : α → ω) : Prop where
  alike : ∀ a b, alike a b → order a = order b
  key : ∀ a b, order a = order b → key a = key b

omit [DecidableEq κ] [DecidableRel alike] [LinearOrder ω] in
theorem Gathered.orders_nodup (h : Gathered key alike values kept) (hranks : Ranks key alike order) :
    (kept.map order).Nodup := by
  rw [List.nodup_map_iff_inj_on h.nodup.of_map]
  exact fun a ha b hb heq => List.inj_on_of_nodup_map h.nodup ha hb (hranks.key a b heq)

omit [DecidableEq κ] [DecidableRel alike] in
/-- Where two collections have the same members, what is kept of them in order is alike place by place. -/
theorem Gathered.alike_inOrder {values' kept' : List α} {p : α → Bool} (h : Gathered key alike values kept)
    (h' : Gathered key alike values' kept') (hranks : Ranks key alike order)
    (hp : ∀ a b, alike a b → p a = p b) (hmem : ∀ value, p value = true → (value ∈ values ↔ value ∈ values')) :
    List.Forall₂ alike ((inOrder order kept).filter p) ((inOrder order kept').filter p) := by
  have hmate {values values' kept kept' : List α} (h : Gathered key alike values kept)
      (h' : Gathered key alike values' kept')
      (hmem : ∀ value, p value = true → (value ∈ values ↔ value ∈ values')) (a : α)
      (ha : a ∈ (inOrder order kept).filter p) : ∃ b ∈ (inOrder order kept').filter p, alike a b := by
    obtain ⟨hkept, hpa⟩ := List.mem_filter.mp ha
    have hvalue := (hmem a hpa).mp (h.known a (mem_inOrder.mp hkept))
    obtain ⟨b, hb, hkey⟩ := h'.covers a hvalue
    have hlike := h'.each a hvalue b (h'.known b hb) hkey.symm
    exact ⟨b, List.mem_filter.mpr ⟨mem_inOrder.mpr hb, (hp a b hlike).symm.trans hpa⟩, hlike⟩
  have hnodup {values kept : List α} (h : Gathered key alike values kept) :
      (((inOrder order kept).filter p).map order).Nodup := by
    have hperm : ((inOrder order kept).map order).Perm (kept.map order) := (List.perm_insertionSort _ kept).map order
    exact (hperm.nodup_iff.mpr (h.orders_nodup hranks)).sublist (List.filter_sublist.map order)
  have horders : ((inOrder order kept).filter p).map order = ((inOrder order kept').filter p).map order := by
    refine eq_of_sorted (hnodup h) (hnodup h') ?_ ?_ (fun o => ?_) fun a _ b _ => le_antisymm
    · exact List.pairwise_map.mpr (inOrder_sorted.filter p)
    · exact List.pairwise_map.mpr (inOrder_sorted.filter p)
    · constructor
      · intro ho
        obtain ⟨a, ha, rfl⟩ := List.mem_map.mp ho
        obtain ⟨b, hb, hlike⟩ := hmate h h' hmem a ha
        exact hranks.alike a b hlike ▸ List.mem_map_of_mem hb
      · intro ho
        obtain ⟨a, ha, rfl⟩ := List.mem_map.mp ho
        obtain ⟨b, hb, hlike⟩ := hmate h' h (fun value hvalue => (hmem value hvalue).symm) a ha
        exact hranks.alike a b hlike ▸ List.mem_map_of_mem hb
  have hplaces : List.Forall₂ (fun a b => order a = order b) ((inOrder order kept).filter p)
      ((inOrder order kept').filter p) := by
    have heq : List.Forall₂ (· = ·) (((inOrder order kept).filter p).map order)
        (((inOrder order kept').filter p).map order) := by
      rw [List.forall₂_eq_eq_eq]
      exact horders
    exact List.forall₂_map_right_iff.mp (List.forall₂_map_left_iff.mp heq)
  rw [List.forall₂_iff_zip] at hplaces ⊢
  refine ⟨hplaces.1, fun {a b} hab => ?_⟩
  have heq := hplaces.2 hab
  obtain ⟨ha, hb⟩ := List.of_mem_zip hab
  obtain ⟨hakept, hpa⟩ := List.mem_filter.mp ha
  obtain ⟨hbkept, -⟩ := List.mem_filter.mp hb
  exact h'.each a ((hmem a hpa).mp (h.known a (mem_inOrder.mp hakept))) b (h'.known b (mem_inOrder.mp hbkept))
    (hranks.key a b heq)

/-- What is kept of the values, in order. -/
def arrange (key : α → κ) (alike : α → α → Prop) [DecidableRel alike] (order : α → ω) (collision : ε)
    (values : List α) : Except ε (List α) := do
  let dict ← values.foldlM (collectAlike key alike collision) []
  pure (inOrder order (dict.map (·.2)))

theorem arrange_gathered (halike : Equivalence alike) {arranged : List α}
    (h : arrange key alike order collision values = .ok arranged) :
    ∃ kept, Gathered key alike values kept ∧ arranged = inOrder order kept := by
  obtain ⟨dict, hdict, h⟩ := bind_ok.mp h
  cases h
  exact ⟨_, (collectAlike_gathered halike hdict).2, rfl⟩

theorem arrange_each (halike : Equivalence alike) {arranged : List α}
    (h : arrange key alike order collision values = .ok arranged) : AlikeEach key alike values := by
  obtain ⟨kept, hgathered, -⟩ := arrange_gathered halike h
  exact hgathered.each

theorem arrange_known (halike : Equivalence alike) {arranged : List α}
    (h : arrange key alike order collision values = .ok arranged) {value : α} (hvalue : value ∈ arranged) :
    value ∈ values := by
  obtain ⟨kept, hgathered, rfl⟩ := arrange_gathered halike h
  exact hgathered.known value (mem_inOrder.mp hvalue)

theorem arrange_covers (halike : Equivalence alike) {arranged : List α}
    (h : arrange key alike order collision values = .ok arranged) {value : α} (hvalue : value ∈ values) :
    ∃ other ∈ arranged, alike value other := by
  obtain ⟨kept, hgathered, rfl⟩ := arrange_gathered halike h
  obtain ⟨other, hother, hkey⟩ := hgathered.covers value hvalue
  exact ⟨other, mem_inOrder.mpr hother, hgathered.each value hvalue other (hgathered.known other hother) hkey.symm⟩

theorem arrange_nodup (halike : Equivalence alike) {arranged : List α}
    (h : arrange key alike order collision values = .ok arranged) : (arranged.map key).Nodup := by
  obtain ⟨kept, hgathered, rfl⟩ := arrange_gathered halike h
  exact ((List.perm_insertionSort _ kept).map key).nodup_iff.mpr hgathered.nodup

theorem arrange_ok (halike : Equivalence alike) (h : AlikeEach key alike values) (order : α → ω) (collision : ε) :
    ∃ arranged, arrange key alike order collision values = .ok arranged := by
  obtain ⟨dict, hdict⟩ : ∃ dict, values.foldlM (collectAlike key alike collision) [] = .ok dict :=
    collectAlike_ok halike h
  exact ⟨_, bind_ok.mpr ⟨dict, hdict, rfl⟩⟩

/-- Where two collections have the same members, what is kept of them in order is alike place by place. -/
theorem arrange_alike (halike : Equivalence alike) (hranks : Ranks key alike order) {values' arranged arranged' : List α}
    (h : arrange key alike order collision values = .ok arranged)
    (h' : arrange key alike order collision values' = .ok arranged') {p : α → Bool}
    (hp : ∀ a b, alike a b → p a = p b) (hmem : ∀ value, p value = true → (value ∈ values ↔ value ∈ values')) :
    List.Forall₂ alike (arranged.filter p) (arranged'.filter p) := by
  obtain ⟨kept, hgathered, rfl⟩ := arrange_gathered halike h
  obtain ⟨kept', hgathered', rfl⟩ := arrange_gathered halike h'
  exact hgathered.alike_inOrder hgathered' hranks hp hmem

/-- Neither the order nor the copies of the values matter. -/
theorem arrange_same (halike : Equivalence alike) (hranks : Ranks key alike order) {values' arranged : List α}
    (h : arrange key alike order collision values = .ok arranged) (hmem : ∀ value, value ∈ values' ↔ value ∈ values) :
    ∃ arranged', arrange key alike order collision values' = .ok arranged' ∧ List.Forall₂ alike arranged arranged' := by
  have heach := arrange_each halike h
  obtain ⟨arranged', h'⟩ := arrange_ok halike
    (fun a ha b hb => heach a ((hmem a).mp ha) b ((hmem b).mp hb)) order collision
  have hall := arrange_alike halike hranks h h' (p := fun _ => true) (fun _ _ _ => rfl) fun value _ => (hmem value).symm
  rw [List.filter_true, List.filter_true] at hall
  exact ⟨arranged', h', hall⟩

end Order

end AutoTrader.Runtime
