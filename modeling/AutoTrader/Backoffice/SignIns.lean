import AutoTrader.Domain.Basic
import AutoTrader.Runtime.Expiring
import AutoTrader.Runtime.Origins

/-! Signing in. A login attempt waits in Redis for the callback that spends it, a callback that the provider vouches for
leaves a session there, and a form is answered for who holds the session and sends the token made with it. -/

namespace AutoTrader.Backoffice

open AutoTrader.Domain AutoTrader.Runtime

/-! ### Identities -/

structure LoginAttempt where
  state : String
  nonce : String
  codeVerifier : String

/-- What the provider proved. -/
structure VerifiedIdentity where
  email : String
  emailVerified : Bool

structure Operator where
  email : String
  deriving DecidableEq

structure Session where
  operator : Operator
  csrfToken : String
  deriving DecidableEq

/-- The configuration, by the one email it admits, which is normalized. -/
structure BackofficeConfig (normalizeEmail : String → String) where
  allowedEmail : String
  normalized : normalizeEmail allowedEmail = allowedEmail

/-- `secrets.compare_digest` of two texts, which have to be ASCII. -/
def compareDigest (a b : String) : Except PyError Bool :=
  if a.toList.all Char.isAscii && b.toList.all Char.isAscii then .ok (decide (a = b))
  else .error ⟨.typeError, "comparing strings with non-ASCII characters is not supported"⟩

def identityRejected : PyError := ⟨.runtimeError, "identity rejected"⟩

section

variable {normalizeEmail : String → String}

def admittedOperator (config : BackofficeConfig normalizeEmail) (identity : VerifiedIdentity) :
    Except PyError Operator := do
  if !identity.emailVerified then .error identityRejected
  else
    let email := normalizeEmail identity.email
    let same ← compareDigest email config.allowedEmail
    if !same then .error identityRejected else .ok ⟨email⟩

def requireCsrf (session : Session) (submitted : Option String) : Except PyError Unit :=
  match submitted with
  | none => .error ⟨.runtimeError, "form token does not match this session"⟩
  | some token => do
    let same ← compareDigest session.csrfToken token
    if !same then .error ⟨.runtimeError, "form token does not match this session"⟩ else .ok ()

/-! ### The store -/

/-- `LOGIN_LIFETIME`, ten minutes. -/
def loginLifetime : ℤ := 600000000

/-- `SESSION_LIFETIME`, twelve hours. -/
def sessionLifetime : ℤ := 43200000000

/-- What an attempt leaves under its state. -/
structure LoginPayload where
  nonce : String
  codeVerifier : String

/-- What a session holds. -/
structure SessionPayload where
  email : String
  csrf : String

/-- The keys in Redis under the two prefixes, and the attempts that callbacks took from it, by callback, until they are
done with them. -/
structure SignIns where
  logins : Expiring String LoginPayload
  sessions : Expiring String SessionPayload
  redeeming : List (Option LoginAttempt)

/-- Requests as they come, with what was made at random for them and what the provider answered, and time. -/
inductive SignInEvent
  | login (attempt : LoginAttempt)
  | callback (state : String)
  | answer (i : ℕ) (verified : Option VerifiedIdentity) (sessionId csrf : String)
  | logout (sessionId : String)
  | elapse (microseconds : ℕ)

namespace SignIns

/-- `take_login`. The state is spent whatever comes of it. -/
def takeLogin (w : SignIns) (state : String) : SignIns :=
  match w.logins.get? state with
  | none => w
  | some payload =>
    { w with
      logins := w.logins.delete state
      redeeming := w.redeeming ++ [some ⟨state, payload.nonce, payload.codeVerifier⟩] }

/-- `create_session`. -/
def createSession (normalizeEmail : String → String) (w : SignIns) (operator : Operator) (sessionId csrf : String) :
    SignIns :=
  match w.sessions.setNx sessionId ⟨normalizeEmail operator.email, csrf⟩ sessionLifetime with
  | none => w
  | some sessions => { w with sessions := sessions }

/-- What a callback does with its attempt when the provider has answered. -/
def answerCallback (config : BackofficeConfig normalizeEmail) (w : SignIns) (i : ℕ) (verified : Option VerifiedIdentity)
    (sessionId csrf : String) : SignIns :=
  let done : SignIns := { w with redeeming := w.redeeming.set i none }
  match w.redeeming[i]?, verified with
  | some (some _), some identity =>
    match admittedOperator config identity with
    | .error _ => done
    | .ok operator => done.createSession normalizeEmail operator sessionId csrf
  | _, _ => done

def step (config : BackofficeConfig normalizeEmail) (w : SignIns) : SignInEvent → SignIns
  | .login attempt =>
    match w.logins.setNx attempt.state ⟨attempt.nonce, attempt.codeVerifier⟩ loginLifetime with
    | none => w
    | some logins => { w with logins := logins }
  | .callback state => w.takeLogin state
  | .answer i verified sessionId csrf => w.answerCallback config i verified sessionId csrf
  | .logout sessionId => { w with sessions := w.sessions.delete sessionId }
  | .elapse microseconds =>
    { w with logins := w.logins.elapse microseconds, sessions := w.sessions.elapse microseconds }

/-- `session_for`. -/
def sessionFor (w : SignIns) (sessionId : String) : Option Session :=
  match w.sessions.get? sessionId with
  | none => none
  | some payload => if payload.csrf = "" then none else some ⟨⟨payload.email⟩, payload.csrf⟩

/-- What a form is answered for: `require_session`, then `require_csrf`. -/
def authorizes (w : SignIns) (cookie submitted : Option String) : Option Session := do
  let sessionId ← cookie
  let session ← w.sessionFor sessionId
  match requireCsrf session submitted with
  | .ok () => some session
  | .error _ => none

end SignIns

def noSignIns (now : ℤ) : SignIns := ⟨⟨now, []⟩, ⟨now, []⟩, []⟩

/-! ### Where an authorized form comes from -/

variable {config : BackofficeConfig normalizeEmail} {w : SignIns} {e : SignInEvent} {events : List SignInEvent}
  {start : ℤ} {sessionId : String} {i : ℕ} {attempt : LoginAttempt} {identity : VerifiedIdentity} {operator : Operator}

theorem compareDigest_ok {a b : String} (h : compareDigest a b = .ok true) : a = b := by
  unfold compareDigest at h
  split at h
  · exact of_decide_eq_true (Except.ok.inj h)
  · cases h

theorem admittedOperator_ok (h : admittedOperator config identity = .ok operator) :
    identity.emailVerified = true ∧ normalizeEmail identity.email = config.allowedEmail ∧
      operator.email = config.allowedEmail := by
  unfold admittedOperator at h
  split at h
  · cases h
  next hverified =>
  obtain ⟨same, hsame, h⟩ := bind_ok.mp h
  split at h
  · cases h
  next htrue =>
  cases h
  have hequal := compareDigest_ok (hsame.trans (congrArg Except.ok (by simpa using htrue)))
  exact ⟨by simpa using hverified, hequal, hequal⟩

theorem requireCsrf_ok {session : Session} {submitted : Option String} (h : requireCsrf session submitted = .ok ()) :
    submitted = some session.csrfToken := by
  unfold requireCsrf at h
  cases submitted with
  | none => cases h
  | some token =>
    obtain ⟨same, hsame, h⟩ := bind_ok.mp h
    split at h
    · cases h
    next htrue =>
    rw [compareDigest_ok (hsame.trans (congrArg Except.ok (by simpa using htrue)))]

/-- What a request leaves alone. -/
theorem answerCallback_kept (config : BackofficeConfig normalizeEmail) (w : SignIns) (i : ℕ)
    (verified : Option VerifiedIdentity) (sessionId csrf : String) : (w.answerCallback config i verified sessionId csrf).logins = w.logins ∧
      (w.answerCallback config i verified sessionId csrf).redeeming = w.redeeming.set i none := by
  unfold SignIns.answerCallback
  dsimp only
  split
  · split
    · exact ⟨rfl, rfl⟩
    · unfold SignIns.createSession
      split <;> exact ⟨rfl, rfl⟩
  · exact ⟨rfl, rfl⟩

theorem takeLogin_kept (w : SignIns) (state : String) : (w.takeLogin state).sessions = w.sessions := by
  unfold SignIns.takeLogin
  split <;> rfl

theorem login_kept (config : BackofficeConfig normalizeEmail) (w : SignIns) (made : LoginAttempt) :
    (w.step config (.login made)).sessions = w.sessions ∧ (w.step config (.login made)).redeeming = w.redeeming := by
  unfold SignIns.step
  dsimp only
  split <;> exact ⟨rfl, rfl⟩

/-- The attempt as it waits, until its time is over. -/
def waiting (attempt : LoginAttempt) (expiresAt : ℤ) : Held String LoginPayload :=
  ⟨attempt.state, ⟨attempt.nonce, attempt.codeVerifier⟩, expiresAt⟩

theorem waiting_step {expiresAt : ℤ}
    (h : (w.step config e).logins.held? attempt.state = some (waiting attempt expiresAt)) :
    e = .login attempt ∧ expiresAt = w.logins.now + loginLifetime ∨
      w.logins.held? attempt.state = some (waiting attempt expiresAt) ∧ e ≠ .callback attempt.state := by
  cases e with
  | login made =>
    cases hset : w.logins.setNx made.state ⟨made.nonce, made.codeVerifier⟩ loginLifetime with
    | none =>
      simp only [SignIns.step, hset] at h
      exact .inr ⟨h, fun heq => by cases heq⟩
    | some logins =>
      simp only [SignIns.step, hset] at h
      rcases Expiring.held?_setNx hset h with ⟨hstate, hentry⟩ | ⟨-, hold⟩
      · left
        cases attempt
        cases made
        cases hentry
        exact ⟨rfl, rfl⟩
      · exact .inr ⟨hold, fun heq => by cases heq⟩
  | callback state =>
    have hstep : (w.step config (.callback state)).logins.held? attempt.state =
        if attempt.state = state then none else w.logins.held? attempt.state := by
      show (w.takeLogin state).logins.held? attempt.state = _
      unfold SignIns.takeLogin
      cases hget : w.logins.get? state with
      | none =>
        dsimp only
        split
        next heq =>
          rw [heq]
          exact Option.map_eq_none_iff.mp hget
        next => rfl
      | some payload => exact Expiring.held?_delete w.logins state attempt.state
    rw [hstep] at h
    split at h
    · cases h
    next hne => exact .inr ⟨h, fun heq => hne (by cases heq; rfl)⟩
  | answer i verified sessionId csrf =>
    rw [SignIns.step, (answerCallback_kept config w i verified sessionId csrf).1] at h
    exact .inr ⟨h, fun heq => by cases heq⟩
  | logout sessionId => exact .inr ⟨h, fun heq => by cases heq⟩
  | elapse microseconds => exact .inr ⟨Expiring.held?_elapse h, fun heq => by cases heq⟩

/-- The callback that comes upon an attempt. -/
def Takes (i : ℕ) (attempt : LoginAttempt) (w : SignIns) (e : SignInEvent) : Prop :=
  e = .callback attempt.state ∧ w.redeeming.length = i ∧
    ∃ expiresAt, w.logins.held? attempt.state = some (waiting attempt expiresAt)

/-- The callback with this number is done with what it took. -/
def Finishes (i : ℕ) (e : SignInEvent) : Prop := ∃ verified sessionId csrf, e = .answer i verified sessionId csrf

theorem redeeming_step (h : (w.step config e).redeeming[i]? = some (some attempt)) :
    Takes i attempt w e ∨ w.redeeming[i]? = some (some attempt) ∧ ¬Finishes i e := by
  cases e with
  | login made =>
    rw [(login_kept config w made).2] at h
    exact .inr ⟨h, fun ⟨_, _, _, heq⟩ => by cases heq⟩
  | callback state =>
    have hnot : ¬Finishes i (.callback state) := fun ⟨_, _, _, heq⟩ => by cases heq
    cases hget : w.logins.get? state with
    | none =>
      simp only [SignIns.step, SignIns.takeLogin, hget] at h
      exact .inr ⟨h, hnot⟩
    | some payload =>
      simp only [SignIns.step, SignIns.takeLogin, hget] at h
      rw [List.getElem?_append] at h
      split at h
      · exact .inr ⟨h, hnot⟩
      next hlate =>
      obtain ⟨hlength, hattempt⟩ : i = w.redeeming.length ∧ attempt = ⟨state, payload.nonce, payload.codeVerifier⟩ := by
        have hindex : i - w.redeeming.length < 1 := by
          by_contra hlong
          rw [List.getElem?_eq_none (not_lt.mp hlong)] at h
          cases h
        have hzero : i - w.redeeming.length = 0 := by omega
        rw [hzero] at h
        exact ⟨by omega, (Option.some.inj (Option.some.inj h)).symm⟩
      obtain ⟨entry, hentry, hvalue⟩ := Expiring.get?_eq_some hget
      have hkey := Expiring.held?_key hentry
      refine .inl ⟨by rw [hattempt], hlength.symm, entry.expiresAt, ?_⟩
      rw [hattempt]
      cases entry
      cases hkey
      cases hvalue
      exact hentry
  | answer j verified sessionId csrf =>
    rw [SignIns.step, (answerCallback_kept config w j verified sessionId csrf).2, List.getElem?_set] at h
    split at h
    · split at h <;> cases h
    next hne => exact .inr ⟨h, fun ⟨_, _, _, heq⟩ => hne (by cases heq; rfl)⟩
  | logout sessionId => exact .inr ⟨h, fun ⟨_, _, _, heq⟩ => by cases heq⟩
  | elapse microseconds => exact .inr ⟨h, fun ⟨_, _, _, heq⟩ => by cases heq⟩

/-- The session is opened, for who the provider vouched for and the configuration admits. -/
def Opens (config : BackofficeConfig normalizeEmail) (sessionId csrf : String) (w : SignIns) (e : SignInEvent) : Prop :=
  ∃ i attempt identity, e = .answer i (some identity) sessionId csrf ∧ w.redeeming[i]? = some (some attempt) ∧
    identity.emailVerified = true ∧ normalizeEmail identity.email = config.allowedEmail

theorem session_step {payload : SessionPayload} {expiresAt : ℤ}
    (h : (w.step config e).sessions.held? sessionId = some ⟨sessionId, payload, expiresAt⟩) :
    (Opens config sessionId payload.csrf w e ∧ payload.email = config.allowedEmail ∧
        expiresAt = w.sessions.now + sessionLifetime) ∨
      w.sessions.held? sessionId = some ⟨sessionId, payload, expiresAt⟩ ∧ e ≠ .logout sessionId := by
  cases e with
  | login made =>
    rw [(login_kept config w made).1] at h
    exact .inr ⟨h, fun heq => by cases heq⟩
  | callback state =>
    rw [SignIns.step, takeLogin_kept] at h
    exact .inr ⟨h, fun heq => by cases heq⟩
  | answer i verified opened csrf =>
    have hnot : SignInEvent.answer i verified opened csrf ≠ .logout sessionId := fun heq => by cases heq
    rw [SignIns.step] at h
    unfold SignIns.answerCallback at h
    dsimp only at h
    split at h
    next attempt identity hattempt =>
      split at h
      · exact .inr ⟨h, hnot⟩
      next operator hoperator =>
      obtain ⟨hverified, hemail, hoperatorEmail⟩ := admittedOperator_ok hoperator
      unfold SignIns.createSession at h
      split at h
      · exact .inr ⟨h, hnot⟩
      next sessions hset =>
      rcases Expiring.held?_setNx hset h with ⟨rfl, hentry⟩ | ⟨-, hold⟩
      · cases hentry
        refine .inl ⟨⟨i, attempt, identity, rfl, hattempt, hverified, hemail⟩, ?_, rfl⟩
        rw [hoperatorEmail, config.normalized]
      · exact .inr ⟨hold, hnot⟩
    · exact .inr ⟨h, hnot⟩
  | logout ended =>
    rw [SignIns.step, Expiring.held?_delete] at h
    split at h
    · cases h
    next hne => exact .inr ⟨h, fun heq => hne (by cases heq; rfl)⟩
  | elapse microseconds => exact .inr ⟨Expiring.held?_elapse h, fun heq => by cases heq⟩

/-- The attempt was made less than ten minutes before, and no callback had come with its state since. -/
def Attempted (config : BackofficeConfig normalizeEmail) (start : ℤ) (attempt : LoginAttempt)
    (events : List SignInEvent) : Prop :=
  Begun (SignIns.step config)
    (fun w e => e = .login attempt ∧ (runFrom (SignIns.step config) (noSignIns start) events).logins.now <
      w.logins.now + loginLifetime) (fun _ e => e = .callback attempt.state) (noSignIns start) events

/-- A callback took the attempt, and is not done with it. -/
def Redeemed (config : BackofficeConfig normalizeEmail) (start : ℤ) (i : ℕ) (attempt : LoginAttempt)
    (events : List SignInEvent) : Prop :=
  ∃ before after, events = before ++ .callback attempt.state :: after ∧ Attempted config start attempt before ∧
    RunMeets (SignIns.step config) (fun _ e => ¬Finishes i e)
      (runFrom (SignIns.step config) (noSignIns start) (before ++ [.callback attempt.state])) after

/-- The provider vouched for the admitted email to a callback that redeemed an attempt, less than twelve hours before,
and nobody signed out since. -/
def SignedIn (config : BackofficeConfig normalizeEmail) (start : ℤ) (sessionId csrf : String)
    (events : List SignInEvent) : Prop :=
  ∃ before i attempt identity after, events = before ++ .answer i (some identity) sessionId csrf :: after ∧
    Redeemed config start i attempt before ∧ identity.emailVerified = true ∧
    normalizeEmail identity.email = config.allowedEmail ∧
    (runFrom (SignIns.step config) (noSignIns start) events).sessions.now <
      (runFrom (SignIns.step config) (noSignIns start) before).sessions.now + sessionLifetime ∧
    RunMeets (SignIns.step config) (fun _ e => e ≠ .logout sessionId)
      (runFrom (SignIns.step config) (noSignIns start) (before ++ [.answer i (some identity) sessionId csrf])) after

theorem attempted_of_waiting {expiresAt : ℤ} (h : (runFrom (SignIns.step config) (noSignIns start) events).logins.held?
    attempt.state = some (waiting attempt expiresAt)) : Attempted config start attempt events := by
  have hlives := Expiring.held?_lives h
  have hbegun : Begun (SignIns.step config) (fun w e => e = .login attempt ∧ expiresAt = w.logins.now + loginLifetime)
      (fun _ e => e = .callback attempt.state) (noSignIns start) events := by
    refine begun_of_run (P := fun w => w.logins.held? attempt.state = some (waiting attempt expiresAt)) ?_ ?_ h
    · exact fun w e hwaiting => waiting_step hwaiting
    · intro hnone
      cases hnone
  refine hbegun.imp fun w e hmade => ⟨hmade.1, ?_⟩
  rw [← hmade.2]
  exact hlives

theorem redeemed_of_redeeming
    (h : (runFrom (SignIns.step config) (noSignIns start) events).redeeming[i]? = some (some attempt)) :
    Redeemed config start i attempt events := by
  have hbegun : Begun (SignIns.step config) (Takes i attempt) (fun _ e => Finishes i e) (noSignIns start) events := by
    refine begun_of_run (P := fun w => w.redeeming[i]? = some (some attempt)) ?_ ?_ h
    · exact fun w e hredeeming => redeeming_step hredeeming
    · intro hnone
      cases hnone
  obtain ⟨before, event, after, hevents, ⟨rfl, -, expiresAt, hwaiting⟩, hafter⟩ := hbegun
  refine ⟨before, after, hevents, attempted_of_waiting hwaiting, ?_⟩
  rw [runFrom_append]
  exact hafter

/-- In whatever order requests come, a form is answered only for the one operator that is admitted, with the token of a
session that a sign-in opened less than twelve hours before and that nobody ended. -/
theorem form_authorized {cookie submitted : Option String} {session : Session}
    (h : (runFrom (SignIns.step config) (noSignIns start) events).authorizes cookie submitted = some session) :
    session.operator.email = config.allowedEmail ∧ submitted = some session.csrfToken ∧
      ∃ sessionId, cookie = some sessionId ∧ SignedIn config start sessionId session.csrfToken events := by
  obtain ⟨sessionId, rfl, h⟩ := Option.bind_eq_some_iff.mp h
  obtain ⟨found, hfound, h⟩ := Option.bind_eq_some_iff.mp h
  split at h
  next hcsrf =>
    cases h
    unfold SignIns.sessionFor at hfound
    split at hfound
    · cases hfound
    next payload hget =>
    split at hfound
    · cases hfound
    cases hfound
    obtain ⟨entry, hentry, rfl⟩ := Expiring.get?_eq_some hget
    have hkey := Expiring.held?_key hentry
    have hlives := Expiring.held?_lives hentry
    have hbegun : Begun (SignIns.step config) (fun w e => Opens config sessionId entry.value.csrf w e ∧
        entry.value.email = config.allowedEmail ∧ entry.expiresAt = w.sessions.now + sessionLifetime)
        (fun _ e => e = .logout sessionId) (noSignIns start) events := by
      refine begun_of_run (P := fun w => w.sessions.held? sessionId = some ⟨sessionId, entry.value, entry.expiresAt⟩)
        (fun w e hsession => session_step hsession) ?_ ?_
      · intro hnone
        cases hnone
      · cases entry
        cases hkey
        exact hentry
    obtain ⟨before, event, after, hevents, ⟨⟨i, attempt, identity, rfl, hredeeming, hverified, hallowed⟩, hemail,
      hexpires⟩, hafter⟩ := hbegun
    refine ⟨hemail, requireCsrf_ok hcsrf, sessionId, rfl, before, i, attempt, identity, after, hevents,
      redeemed_of_redeeming hredeeming, hverified, hallowed, ?_, ?_⟩
    · rw [← hexpires]
      exact hlives
    · rw [runFrom_append]
      exact hafter
  · cases h

end

/-! A sign-in, and a form that is sent a few seconds later. -/

theorem sampleEmail_normalized : id "operator@example.com" = "operator@example.com" := rfl

def sampleConfig : BackofficeConfig id := ⟨"operator@example.com", sampleEmail_normalized⟩

def sampleSignIn : List SignInEvent :=
  [.login ⟨"state", "nonce", "verifier"⟩, .elapse 1000000, .callback "state",
    .answer 0 (some ⟨"operator@example.com", true⟩) "session" "token", .elapse 5000000]

theorem sampleSignIn_authorizes : (runFrom (SignIns.step sampleConfig) (noSignIns 0) sampleSignIn).authorizes
    (some "session") (some "token") = some ⟨⟨"operator@example.com"⟩, "token"⟩ := by
  decide +kernel

theorem form_authorized_sample : "operator@example.com" = sampleConfig.allowedEmail ∧ some "token" = some "token" ∧
    ∃ sessionId, some "session" = some sessionId ∧ SignedIn sampleConfig 0 sessionId "token" sampleSignIn :=
  form_authorized sampleSignIn_authorizes

end AutoTrader.Backoffice
