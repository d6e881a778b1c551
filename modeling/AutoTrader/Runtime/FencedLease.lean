import Mathlib.Data.List.Nodup
import Mathlib.Order.Lattice

/-! Leases with fencing tokens. A lease runs until it expires, the owner may take it again
before that, anyone may take it afterwards, and every acquisition is numbered. The history
keeps what was granted: whoever holds a grant that still runs is the owner, and a token was
granted to one owner. -/

namespace AutoTrader.Runtime.FencedLease

structure Lease (Owner Time : Type) where
  owner : Option Owner
  expiresAt : Option Time
  token : Nat

structure Grant (Owner Time : Type) where
  owner : Owner
  expiresAt : Time
  token : Nat
  deriving DecidableEq

/-- What was granted, newest first, and what of it the owners still hold: the latest grant
of each, unless it was released. -/
structure History (Owner Time : Type) where
  granted : List (Grant Owner Time)
  held : List (Grant Owner Time)

variable {Owner Time : Type}

def Lease.Running [LT Time] (lease : Lease Owner Time) (now : Time) : Prop :=
  ∃ expiresAt ∈ lease.expiresAt, now < expiresAt

instance [LT Time] [DecidableLT Time] (lease : Lease Owner Time) (now : Time) : Decidable (lease.Running now) :=
  inferInstanceAs (Decidable (∃ expiresAt ∈ lease.expiresAt, now < expiresAt))

namespace History

section

variable [DecidableEq Owner]

def drop (history : History Owner Time) (owner : Owner) : List (Grant Owner Time) :=
  history.held.filter (·.owner ≠ owner)

def grant (history : History Owner Time) (grant : Grant Owner Time) : History Owner Time where
  granted := grant :: history.granted
  held := grant :: history.drop grant.owner

def release (history : History Owner Time) (owner : Owner) : History Owner Time where
  granted := history.granted
  held := history.drop owner

theorem mem_drop {history : History Owner Time} {owner : Owner} {grant : Grant Owner Time} :
    grant ∈ history.drop owner ↔ grant ∈ history.held ∧ grant.owner ≠ owner := by
  simp [drop]

end

/-- What a row that was already there says about the past. -/
def ofLease (lease : Option (Lease Owner Time)) : History Owner Time :=
  let grants := match lease with
    | some ⟨some owner, some expiresAt, token⟩ => [⟨owner, expiresAt, token⟩]
    | _ => []
  ⟨grants, grants⟩

end History

variable [LinearOrder Time]

/-- One operation on the lease at a time. -/
inductive Moves [DecidableEq Owner] (now : Time) :
    Option (Lease Owner Time) → History Owner Time → Option (Lease Owner Time) → History Owner Time → Prop
  | keep (lease : Option (Lease Owner Time)) (history : History Owner Time) :
      Moves now lease history lease history
  | create (history : History Owner Time) (owner : Owner) (expiresAt : Time) (token : Nat) :
      Moves now none history (some ⟨owner, expiresAt, token⟩) (history.grant ⟨owner, expiresAt, token⟩)
  | acquire (lease : Lease Owner Time) (history : History Owner Time) (owner : Owner) (expiresAt : Time)
      (hfree : lease.Running now → lease.owner = some owner) :
      Moves now (some lease) history (some ⟨owner, expiresAt, lease.token + 1⟩)
        (history.grant ⟨owner, expiresAt, lease.token + 1⟩)
  | release (lease : Lease Owner Time) (history : History Owner Time) (owner : Owner) (hown : lease.owner = some owner) :
      Moves now (some lease) history (some ⟨none, now, lease.token⟩) (history.release owner)

/-- A grant that still runs is what the row says, no token is beyond the row's, and tokens
grow with every grant. -/
structure Sound (now : Time) (lease : Option (Lease Owner Time)) (history : History Owner Time) : Prop where
  current : ∀ grant ∈ history.held, now < grant.expiresAt →
    lease = some ⟨grant.owner, grant.expiresAt, grant.token⟩
  bounded : ∀ grant ∈ history.granted, ∃ row, lease = some row ∧ grant.token ≤ row.token
  numbered : history.granted.Pairwise fun newer older => older.token < newer.token
  known : ∀ grant ∈ history.held, grant ∈ history.granted
  latest : ∀ grant ∈ history.granted.head?, ∃ row, lease = some row ∧ row.token = grant.token ∧
    ∀ owner ∈ row.owner, owner = grant.owner

theorem Sound.ofLease (now : Time) (lease : Option (Lease Owner Time)) :
    Sound now lease (History.ofLease lease) := by
  rcases lease with _ | ⟨_ | owner, _ | expiresAt, token⟩ <;> constructor <;> simp [History.ofLease]

theorem Sound.later {now later : Time} {lease : Option (Lease Owner Time)} {history : History Owner Time}
    (h : Sound now lease history) (hlater : now ≤ later) : Sound later lease history where
  current grant hgrant hrunning := h.current grant hgrant (hlater.trans_lt hrunning)
  bounded := h.bounded
  numbered := h.numbered
  known := h.known
  latest := h.latest

/-- Two grants that are held and still run are one grant. -/
theorem Sound.exclusive {now : Time} {lease : Option (Lease Owner Time)} {history : History Owner Time}
    (h : Sound now lease history) {a b : Grant Owner Time} (ha : a ∈ history.held) (hb : b ∈ history.held)
    (harunning : now < a.expiresAt) (hbrunning : now < b.expiresAt) : a.owner = b.owner := by
  have hrows := (h.current a ha harunning).symm.trans (h.current b hb hbrunning)
  simp only [Option.some.injEq, Lease.mk.injEq] at hrows
  exact hrows.1

/-- A token was granted once. -/
theorem Sound.grant_of_token {now : Time} {lease : Option (Lease Owner Time)} {history : History Owner Time}
    (h : Sound now lease history) {a b : Grant Owner Time} (ha : a ∈ history.granted) (hb : b ∈ history.granted)
    (htoken : a.token = b.token) : a = b := by
  have hnodup : (history.granted.map (·.token)).Nodup :=
    List.Pairwise.map _ (fun _ _ hlt => Nat.ne_of_gt hlt) h.numbered
  exact List.inj_on_of_nodup_map hnodup ha hb htoken

variable [DecidableEq Owner]

theorem Sound.granted {now : Time} {lease : Option (Lease Owner Time)} {history : History Owner Time}
    (h : Sound now lease history) (grant : Grant Owner Time)
    (hfree : ∀ other ∈ history.held, now < other.expiresAt → other.owner = grant.owner)
    (hnew : ∀ other ∈ history.granted, other.token < grant.token) :
    Sound now (some ⟨grant.owner, grant.expiresAt, grant.token⟩) (history.grant grant) where
  current other hother hrunning := by
    rcases List.mem_cons.mp hother with rfl | hother
    · rfl
    · obtain ⟨hheld, hne⟩ := History.mem_drop.mp hother
      exact absurd (hfree other hheld hrunning) hne
  bounded other hother := by
    refine ⟨⟨grant.owner, grant.expiresAt, grant.token⟩, rfl, ?_⟩
    rcases List.mem_cons.mp hother with rfl | hother
    · exact Nat.le_refl _
    · exact Nat.le_of_lt (hnew other hother)
  numbered := List.pairwise_cons.mpr ⟨hnew, h.numbered⟩
  known other hother := by
    rcases List.mem_cons.mp hother with rfl | hother
    · exact List.mem_cons_self
    · exact List.mem_cons_of_mem _ (h.known other (History.mem_drop.mp hother).1)
  latest other hother := by
    obtain rfl : grant = other := Option.some.inj hother
    exact ⟨_, rfl, rfl, fun owner howner => (Option.some.inj howner).symm⟩

theorem Moves.sound {now : Time} {lease lease' : Option (Lease Owner Time)} {history history' : History Owner Time}
    (hmoves : Moves now lease history lease' history') (h : Sound now lease history) :
    Sound now lease' history' := by
  cases hmoves with
  | keep => exact h
  | create _ owner expiresAt token =>
    refine h.granted ⟨owner, expiresAt, token⟩ (fun other hother hrunning => ?_) fun other hother => ?_
    · cases h.current other hother hrunning
    · obtain ⟨_, hrow, -⟩ := h.bounded other hother
      cases hrow
  | acquire lease _ owner expiresAt hfree =>
    refine h.granted ⟨owner, expiresAt, lease.token + 1⟩ (fun other hother hrunning => ?_) fun other hother => ?_
    · obtain rfl : lease = _ := Option.some.inj (h.current other hother hrunning)
      exact Option.some.inj (hfree ⟨other.expiresAt, rfl, hrunning⟩)
    · obtain ⟨row, hrow, hle⟩ := h.bounded other hother
      obtain rfl := Option.some.inj hrow
      exact Nat.lt_succ_of_le hle
  | release lease _ owner hown =>
    constructor
    · intro grant hgrant hrunning
      obtain ⟨hheld, hne⟩ := History.mem_drop.mp hgrant
      obtain rfl : lease = _ := Option.some.inj (h.current grant hheld hrunning)
      exact absurd (Option.some.inj hown) hne
    · intro grant hgrant
      obtain ⟨row, hrow, hle⟩ := h.bounded grant hgrant
      obtain rfl := Option.some.inj hrow
      exact ⟨_, rfl, hle⟩
    · exact h.numbered
    · exact fun grant hgrant => h.known grant (History.mem_drop.mp hgrant).1
    · intro grant hgrant
      obtain ⟨row, hrow, htoken, -⟩ := h.latest grant hgrant
      obtain rfl := Option.some.inj hrow
      exact ⟨_, rfl, htoken, fun _ howner => by cases howner⟩

end AutoTrader.Runtime.FencedLease
