import AutoTrader.Runtime.Sequences
import Mathlib.Data.List.Nodup

/-! What is in force when each entry of a history holds from a time on, until a later one does. -/

namespace AutoTrader.Runtime

variable {α Time : Type} [LinearOrder Time] {since : α → Time} {entries more : List α} {entry : α} {t : Time}

/-- Every entry holds from a later time than those before it. -/
def Advancing (since : α → Time) (entries : List α) : Prop := entries.Pairwise fun a b => since a < since b

/-- The last entry that holds from the time, or from before it. -/
def inForce (since : α → Time) (entries : List α) (t : Time) : Option α :=
  (entries.filter fun entry => decide (since entry ≤ t)).getLast?

theorem inForce_append (entries more : List α) (t : Time) :
    inForce since (entries ++ more) t = (inForce since more t).or (inForce since entries t) := by
  unfold inForce
  rw [List.filter_append, List.getLast?_append]

theorem inForce_mem (h : inForce since entries t = some entry) : entry ∈ entries ∧ since entry ≤ t := by
  have hmem := List.mem_filter.mp (List.mem_of_getLast? h)
  exact ⟨hmem.1, of_decide_eq_true hmem.2⟩

theorem inForce_eq_none : inForce since entries t = none ↔ ∀ entry ∈ entries, t < since entry := by
  unfold inForce
  rw [List.getLast?_eq_none_iff, List.filter_eq_nil_iff]
  simp only [decide_eq_true_eq, not_le]

/-- What holds from later times on changes no answer about an earlier one. -/
theorem inForce_append_later (h : ∀ entry ∈ more, t < since entry) :
    inForce since (entries ++ more) t = inForce since entries t := by
  rw [inForce_append, inForce_eq_none.mpr h, Option.none_or]

/-- In an advancing history nothing that holds by the time holds from later than what is in force. -/
theorem Advancing.inForce_le (h : Advancing since entries) (hentry : inForce since entries t = some entry) {other : α}
    (hother : other ∈ entries) (hby : since other ≤ t) : since other ≤ since entry := by
  have hfilter : (entries.filter fun entry => decide (since entry ≤ t)).Pairwise fun a b => since a < since b :=
    List.Pairwise.filter _ h
  obtain ⟨before, hsplit⟩ := List.getLast?_eq_some_iff.mp hentry
  have hmem : other ∈ entries.filter fun entry => decide (since entry ≤ t) :=
    List.mem_filter.mpr ⟨hother, decide_eq_true hby⟩
  rw [hsplit] at hmem hfilter
  rcases List.mem_append.mp hmem with hbefore | hlast
  · exact ((List.pairwise_append.mp hfilter).2.2 other hbefore entry (List.mem_singleton_self entry)).le
  · rw [List.mem_singleton.mp hlast]

/-- What holds by the time, and from the latest, is in force. -/
theorem Advancing.inForce_eq_some (h : Advancing since entries) (hentry : entry ∈ entries) (hby : since entry ≤ t)
    (hlatest : ∀ other ∈ entries, since other ≤ t → since other ≤ since entry) :
    inForce since entries t = some entry := by
  cases hfound : inForce since entries t with
  | none => exact absurd hby (not_le.mpr (inForce_eq_none.mp hfound entry hentry))
  | some found =>
    obtain ⟨hmem, hfoundBy⟩ := inForce_mem hfound
    have hsame : since found = since entry :=
      le_antisymm (hlatest found hmem hfoundBy) (h.inForce_le hfound hentry hby)
    have hdistinct : (entries.map since).Nodup :=
      List.Pairwise.map since (fun a b hlt => ne_of_lt hlt) h
    rw [List.inj_on_of_nodup_map hdistinct hmem hentry hsame]

theorem Advancing.append (h : Advancing since entries) (hlater : ∀ other ∈ entries, since other < since entry) :
    Advancing since (entries ++ [entry]) := by
  refine List.pairwise_append.mpr ⟨h, List.pairwise_singleton _ _, fun other hother last hlast => ?_⟩
  rw [List.mem_singleton.mp hlast]
  exact hlater other hother

/-! ### The greatest row -/

/-- `ORDER BY key DESC LIMIT 1`. -/
def greatest? (key : α → Time) : List α → Option α
  | [] => none
  | first :: rest => some (maxBy key first rest)

theorem greatest?_eq_none {key : α → Time} : greatest? key entries = none ↔ entries = [] := by
  cases entries <;> simp [greatest?]

theorem greatest?_some {key : α → Time} (h : greatest? key entries = some entry) :
    entry ∈ entries ∧ ∀ other ∈ entries, key other ≤ key entry := by
  cases entries with
  | nil => cases h
  | cons first rest =>
    cases h
    exact ⟨maxBy_mem key first rest, le_maxBy key first rest⟩

/-! ### Periods -/

section Periods

variable {ending : α → Option Time} {a b : α}

/-- Whether the period of an entry, which may not have ended, reaches over the time. -/
def Covers (since : α → Time) (ending : α → Option Time) (t : Time) (entry : α) : Prop :=
  since entry ≤ t ∧ ∀ finish, ending entry = some finish → t < finish

/-- Every period lasts, and where one ends another starts. -/
def Succeeded (since : α → Time) (ending : α → Option Time) (entries : List α) : Prop :=
  ∀ a ∈ entries, ∀ finish, ending a = some finish → since a < finish ∧ ∃ b ∈ entries, since b = finish

/-- From the start of a period on there is one over every time: the one that started last. -/
theorem Succeeded.exists_covers (h : Succeeded since ending entries) (ha : a ∈ entries) (hby : since a ≤ t) :
    ∃ b ∈ entries, Covers since ending t b := by
  have hstarted : a ∈ entries.filter fun entry => decide (since entry ≤ t) := List.mem_filter.mpr ⟨ha, decide_eq_true hby⟩
  cases hlast : greatest? since (entries.filter fun entry => decide (since entry ≤ t)) with
  | none =>
    rw [greatest?_eq_none.mp hlast] at hstarted
    cases hstarted
  | some last =>
    obtain ⟨hmem, hgreatest⟩ := greatest?_some hlast
    obtain ⟨hentry, hsince⟩ := List.mem_filter.mp hmem
    refine ⟨last, hentry, of_decide_eq_true hsince, fun finish hfinish => lt_of_not_ge fun hpast => ?_⟩
    obtain ⟨hlasts, next, hnext, rfl⟩ := h last hentry finish hfinish
    exact absurd (hgreatest next (List.mem_filter.mpr ⟨hnext, decide_eq_true hpast⟩)) (not_le.mpr hlasts)

/-- Where periods succeed each other, one has not ended. -/
theorem Succeeded.exists_open (h : Succeeded since ending entries) (ha : a ∈ entries) : ∃ b ∈ entries, ending b = none := by
  cases hlast : greatest? since entries with
  | none =>
    rw [greatest?_eq_none.mp hlast] at ha
    cases ha
  | some last =>
    obtain ⟨hmem, hgreatest⟩ := greatest?_some hlast
    refine ⟨last, hmem, Option.eq_none_iff_forall_ne_some.mpr fun finish hfinish => ?_⟩
    obtain ⟨hlasts, next, hnext, rfl⟩ := h last hmem finish hfinish
    exact absurd (hgreatest next hnext) (not_le.mpr hlasts)

/-- Each period has ended by the start of those after it. -/
def Apart (since : α → Time) (ending : α → Option Time) (entries : List α) : Prop :=
  entries.Pairwise fun a b => ∃ finish, ending a = some finish ∧ finish ≤ since b

/-- Of two entries one comes before the other. -/
theorem pairwise_or {R : α → α → Prop} (h : entries.Pairwise R) (ha : a ∈ entries) (hb : b ∈ entries) (hne : a ≠ b) :
    R a b ∨ R b a := by
  have hboth : entries.Pairwise fun a b => a ≠ b → R a b ∨ R b a := h.imp fun hab _ => .inl hab
  have hboth' : entries.Pairwise (flip fun a b => a ≠ b → R a b ∨ R b a) := h.imp fun hab _ => .inr hab
  exact hboth.forall_of_forall_of_flip (fun _ _ hself => absurd rfl hself) hboth' ha hb hne

theorem Apart.covers_unique (h : Apart since ending entries) (ha : a ∈ entries) (hb : b ∈ entries)
    (hcovers : Covers since ending t a) (hcovers' : Covers since ending t b) : a = b := by
  have hnever {a b : α} (hbetween : ∃ finish, ending a = some finish ∧ finish ≤ since b) (ha : Covers since ending t a)
      (hb : Covers since ending t b) : False := by
    obtain ⟨finish, hfinish, hle⟩ := hbetween
    exact absurd (ha.2 finish hfinish) (not_lt.mpr (hle.trans hb.1))
  by_contra hne
  rcases pairwise_or h ha hb hne with hbetween | hbetween
  · exact hnever hbetween hcovers hcovers'
  · exact hnever hbetween hcovers' hcovers

end Periods

end AutoTrader.Runtime
