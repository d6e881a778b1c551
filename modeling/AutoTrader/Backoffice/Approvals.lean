import AutoTrader.Domain.JsonText
import AutoTrader.Execution.Commands
import AutoTrader.Runtime.Origins
import AutoTrader.Runtime.Rows

/-! Approvals of the second password. An approval is a key in Redis that holds the digest of the one request it may be
spent on; reading it deletes it, and a minute after it was issued it is gone. -/

namespace AutoTrader.Backoffice

open AutoTrader.Domain AutoTrader.Execution AutoTrader.Runtime

/-! ### Requests -/

/-- What the operator was looking at when the password was typed. -/
structure ApprovalRequest where
  sessionId : String
  operatorEmail : String
  action : String
  targetType : String
  targetKey : String
  authorityDigest : Digest
  named : sessionId ≠ "" ∧ operatorEmail ≠ "" ∧ action ≠ "" ∧ targetType ≠ ""

/-- `bytes.hex`. -/
def digestHex (digest : Digest) : String := String.ofList (hexDigits 64 digest.toNat)

def bindingTree (request : ApprovalRequest) : JsonTree := .obj
  [("session_id", .str request.sessionId), ("operator_email", .str request.operatorEmail),
    ("action", .str request.action), ("target_type", .str request.targetType),
    ("target_key", .str request.targetKey), ("authority_digest", .str (digestHex request.authorityDigest))]

def bindingText (request : ApprovalRequest) : String := (bindingTree request).dumps

/-- `binding`; the text of the digest is told by the digest. -/
def ApprovalRequest.binding (sha256 : String → Digest) (request : ApprovalRequest) : Digest :=
  sha256 (bindingText request)

theorem digestHex_injective : Function.Injective digestHex := by
  intro a b h
  have hdigits : hexDigits 64 a.toNat = hexDigits 64 b.toNat := String.ofList_injective h
  have hbound (digest : Digest) : digest.toNat < 16 ^ 64 := by
    have hlt := digest.isLt
    have hpow : (2 : ℕ) ^ 256 = 16 ^ 64 := by norm_num
    omega
  exact BitVec.eq_of_toNat_eq (hexDigits_injective (hbound a) (hbound b) hdigits)

theorem bindingText_injective : Function.Injective bindingText := by
  intro a b h
  rw [bindingText, bindingText, JsonTree.dumps_eq_iff, bindingTree, bindingTree,
    JsonTree.sorted_obj_eq_iff (by simp only [List.map_cons, List.map_nil])
      (by simp only [List.map_cons, List.map_nil]; decide)] at h
  simp only [List.map_cons, List.map_nil, List.cons.injEq, and_true, JsonTree.sorted_str_iff] at h
  obtain ⟨hsession, hoperator, haction, htype, hkey, hdigest⟩ := h
  cases a
  cases b
  cases hsession
  cases hoperator
  cases haction
  cases htype
  cases hkey
  cases digestHex_injective hdigest
  rfl

/-- Two texts that differ and have one digest. -/
def Collides (sha256 : String → Digest) (x y : String) : Prop := x ≠ y ∧ sha256 x = sha256 y

/-- Of two requests with one binding the texts collide, or they are one request. -/
theorem eq_or_collides {sha256 : String → Digest} {a b : ApprovalRequest}
    (h : a.binding sha256 = b.binding sha256) : a = b ∨ Collides sha256 (bindingText a) (bindingText b) := by
  by_cases htext : bindingText a = bindingText b
  · exact .inl (bindingText_injective htext)
  · exact .inr ⟨htext, h⟩

/-! ### The store -/

structure Approval where
  id : String
  binding : Digest
  expiresAt : Instant

/-- The approvals in Redis, by its clock. -/
structure ApprovalStore where
  now : Instant
  approvals : List Approval

/-- `APPROVAL_LIFETIME`, 60 seconds. -/
def approvalLifetime : ℤ := 60000000

def approvalRejected (message : String) : PyError := ⟨.runtimeError, message⟩

namespace ApprovalStore

/-- A key is there until its lifetime is over. -/
def live? (s : ApprovalStore) (id : String) : Option Approval :=
  (Rows.lookup Approval.id s.approvals id).filter fun approval => decide (s.now < approval.expiresAt)

def delete (s : ApprovalStore) (id : String) : ApprovalStore :=
  { s with approvals := s.approvals.filter fun approval => decide (approval.id ≠ id) }

/-- `issue`, under a fresh id. -/
def issue (sha256 : String → Digest) (s : ApprovalStore) (approvalId : String) (request : ApprovalRequest) :
    Except PyError ApprovalStore :=
  if (s.live? approvalId).isSome then .error (approvalRejected "approval identity is already taken")
  else
    let approval : Approval := ⟨approvalId, request.binding sha256, s.now + approvalLifetime⟩
    .ok { s with approvals := (s.delete approvalId).approvals ++ [approval] }

/-- `consume`. The approval is spent whatever it was offered for. -/
def consume (sha256 : String → Digest) (s : ApprovalStore) (approvalId : String) (request : ApprovalRequest) :
    ApprovalStore × Except PyError Unit :=
  match s.live? approvalId with
  | none => (s, .error (approvalRejected "approval is missing or already spent"))
  | some approval =>
    (s.delete approvalId,
      if approval.binding = request.binding sha256 then .ok ()
      else .error (approvalRejected "approval does not authorize this action"))

/-- The commands of every service that shares the store, and the time between them. -/
inductive Event
  | issue (approvalId : String) (request : ApprovalRequest)
  | consume (approvalId : String) (request : ApprovalRequest)
  | elapse (microseconds : ℕ)

def step (sha256 : String → Digest) (s : ApprovalStore) : Event → ApprovalStore
  | .issue approvalId request =>
    match s.issue sha256 approvalId request with
    | .ok s' => s'
    | .error _ => s
  | .consume approvalId request => (s.consume sha256 approvalId request).1
  | .elapse microseconds => { s with now := s.now + microseconds }

variable {sha256 : String → Digest} {s : ApprovalStore} {id other : String} {request : ApprovalRequest}
  {approval : Approval}

theorem live?_delete (s : ApprovalStore) (id other : String) :
    (s.delete id).live? other = if other = id then none else s.live? other := by
  have hlookup : Rows.lookup Approval.id (s.delete id).approvals other =
      if other = id then none else Rows.lookup Approval.id s.approvals other := by
    unfold Rows.lookup delete
    rw [List.find?_filter]
    by_cases hother : other = id
    · rw [if_pos hother]
      refine List.find?_eq_none.mpr fun row _ => ?_
      simp [hother]
    · rw [if_neg hother]
      congr 1
      funext row
      by_cases hrow : row.id = other
      · simp [hrow, hother]
      · simp [hrow]
  have hnow : (s.delete id).now = s.now := rfl
  unfold live?
  rw [hlookup, hnow]
  split <;> rfl

theorem live?_issue {s' : ApprovalStore} (h : s.issue sha256 id request = .ok s')
    (hlive : s'.live? other = some approval) :
    other = id ∧ approval = ⟨id, request.binding sha256, s.now + approvalLifetime⟩ ∨ s.live? other = some approval := by
  unfold issue at h
  split at h
  · cases h
  cases h
  by_cases hother : other = id
  · have hfound : Rows.lookup Approval.id ((s.delete id).approvals ++
        [⟨id, request.binding sha256, s.now + approvalLifetime⟩]) id =
          some ⟨id, request.binding sha256, s.now + approvalLifetime⟩ := by
      rw [Rows.lookup_add]
      · exact if_pos rfl
      · refine Rows.lookup_eq_none.mpr fun row hrow => ?_
        simpa [delete] using (List.mem_filter.mp hrow).2
    subst hother
    unfold live? at hlive
    rw [hfound] at hlive
    exact .inl ⟨rfl, (Option.some.inj (Option.filter_eq_some_iff.mp hlive).1).symm⟩
  · right
    have hfound : Rows.lookup Approval.id ((s.delete id).approvals ++
        [⟨id, request.binding sha256, s.now + approvalLifetime⟩]) other =
          Rows.lookup Approval.id (s.delete id).approvals other := by
      unfold Rows.lookup
      rw [List.find?_append, List.find?_cons]
      simp [Ne.symm hother]
    have hrest : (s.delete id).live? other = some approval := by
      unfold live? at hlive ⊢
      rw [hfound] at hlive
      exact hlive
    rw [live?_delete, if_neg hother] at hrest
    exact hrest

/-- A key that is there after an event was written by it, or was there before and was not read. -/
theorem live?_step {e : Event} (h : (s.step sha256 e).live? id = some approval) :
    (∃ request, e = .issue id request ∧ approval = ⟨id, request.binding sha256, s.now + approvalLifetime⟩) ∨
      s.live? id = some approval ∧ ¬∃ request, e = .consume id request := by
  cases e with
  | issue approvalId request =>
    rw [step] at h
    cases hissue : s.issue sha256 approvalId request with
    | error error =>
      rw [hissue] at h
      exact .inr ⟨h, fun ⟨_, heq⟩ => by cases heq⟩
    | ok s' =>
      rw [hissue] at h
      rcases live?_issue hissue h with ⟨rfl, hnew⟩ | hold
      · exact .inl ⟨request, rfl, hnew⟩
      · exact .inr ⟨hold, fun ⟨_, heq⟩ => by cases heq⟩
  | consume approvalId request =>
    rw [step, consume] at h
    right
    cases hlive : s.live? approvalId with
    | none =>
      rw [hlive] at h
      refine ⟨h, fun ⟨_, heq⟩ => ?_⟩
      cases heq
      rw [hlive] at h
      cases h
    | some found =>
      rw [hlive] at h
      dsimp only at h
      rw [live?_delete] at h
      split at h
      · cases h
      · rename_i hne
        exact ⟨h, fun ⟨_, heq⟩ => hne (by cases heq; rfl)⟩
  | elapse microseconds =>
    right
    refine ⟨?_, fun ⟨_, heq⟩ => by cases heq⟩
    obtain ⟨hfound, hlate⟩ := Option.filter_eq_some_iff.mp h
    refine Option.filter_eq_some_iff.mpr ⟨hfound, ?_⟩
    have hover : s.now + (microseconds : ℤ) < approval.expiresAt := of_decide_eq_true hlate
    exact decide_eq_true (Int.lt_of_le_of_lt (Int.le_add_of_nonneg_right (Int.natCast_nonneg microseconds)) hover)

theorem consume_ok : (s.consume sha256 id request).2 = .ok () ↔
    ∃ approval, s.live? id = some approval ∧ approval.binding = request.binding sha256 := by
  unfold consume
  cases hlive : s.live? id with
  | none => simp
  | some approval =>
    by_cases hbinding : approval.binding = request.binding sha256 <;> simp [hbinding]

theorem live?_expires (h : s.live? id = some approval) : s.now < approval.expiresAt :=
  of_decide_eq_true (Option.filter_eq_some_iff.mp h).2

end ApprovalStore

namespace ApprovalStore

variable {sha256 : String → Digest} {id : String} {request : ApprovalRequest} {s₀ : ApprovalStore} {events : List Event}

/-- Issued at this event for this request, so far as digests tell requests apart, and not yet over at this time. -/
def IssuedFor (sha256 : String → Digest) (id : String) (request : ApprovalRequest) (spentAt : Instant)
    (s : ApprovalStore) (e : Event) : Prop :=
  ∃ issued, e = .issue id issued ∧ (issued = request ∨ Collides sha256 (bindingText issued) (bindingText request)) ∧
    spentAt < s.now + approvalLifetime

def Offered (id : String) (e : Event) : Prop := ∃ offered, e = .consume id offered

/-- Whatever the services issue and offer in whatever order, an approval that authorizes a request was issued for it
less than a minute before, and was offered for nothing since. -/
theorem consume_authorized (hfresh : s₀.live? id = none)
    (h : ((runFrom (step sha256) s₀ events).consume sha256 id request).2 = .ok ()) :
    Begun (step sha256) (IssuedFor sha256 id request (runFrom (step sha256) s₀ events).now) (fun _ => Offered id) s₀
      events := by
  obtain ⟨approval, hlive, hbinding⟩ := consume_ok.mp h
  have hbegun := begun_of_run (P := fun s : ApprovalStore => s.live? id = some approval) (fun _ _ => live?_step)
    (fun hsome => by rw [hfresh] at hsome; cases hsome) hlive
  refine hbegun.imp fun s e hissued => ?_
  obtain ⟨issued, rfl, rfl⟩ := hissued
  exact ⟨issued, rfl, eq_or_collides hbinding, live?_expires hlive⟩

end ApprovalStore

/-! An approval to clear a halt, issued and offered for it half a minute later. -/

theorem sampleRequest_named : "session" ≠ "" ∧ "operator@example.com" ≠ "" ∧ "CLEAR_HALT" ≠ "" ∧ "GLOBAL" ≠ "" := by
  decide

def sampleApprovals : ApprovalStore := ⟨0, []⟩

def sampleRequest : ApprovalRequest :=
  ⟨"session", "operator@example.com", "CLEAR_HALT", "GLOBAL", "ALL", 7, sampleRequest_named⟩

/-- A stand-in for the hash. -/
def sampleSha256 (text : String) : Digest := BitVec.ofNat 256 text.length

theorem sampleApprovals_live : sampleApprovals.live? "token" = none := rfl

theorem sampleApproval_accepted : ((runFrom (ApprovalStore.step sampleSha256) sampleApprovals
    [.issue "token" sampleRequest, .elapse 30000000]).consume sampleSha256 "token" sampleRequest).2 = .ok () := by
  refine ApprovalStore.consume_ok.mpr ⟨⟨"token", sampleRequest.binding sampleSha256, 60000000⟩, ?_, rfl⟩
  rfl

theorem consume_authorized_sample : Begun (ApprovalStore.step sampleSha256)
    (ApprovalStore.IssuedFor sampleSha256 "token" sampleRequest 30000000) (fun _ => ApprovalStore.Offered "token")
    sampleApprovals [.issue "token" sampleRequest, .elapse 30000000] :=
  ApprovalStore.consume_authorized sampleApprovals_live sampleApproval_accepted

end AutoTrader.Backoffice
