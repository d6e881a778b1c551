import AutoTrader.Dispatch.Service
import AutoTrader.Runtime.Sequential

/-! The dispatch system: calls of the service on one database, one after another, with
crashes between any two steps. The durable part of the world is the committed tables
and the venue, which remembers every order it was sent. -/

namespace AutoTrader.Dispatch

open AutoTrader.Domain AutoTrader.Execution AutoTrader.Runtime

/-- `working` is the open transaction's view and `unsettled` the commands sent to the
venue since the last commit. -/
structure World where
  shared : SharedTables
  committed : OrderTables
  working : OrderTables
  sends : List (CommandType × BrokerOrderCommand)
  unsettled : List UUID

namespace World

/-- How often a broker method that writes was called for the command. -/
def sendCount (w : World) (id : UUID) : Nat :=
  w.sends.countP (·.2.id = id)

def rollback (w : World) : World :=
  { w with working := w.committed, unsettled := [] }

def commit (w : World) : World :=
  { w with committed := w.working, unsettled := [] }

def send (w : World) (method : CommandType) (command : BrokerOrderCommand) : World :=
  { w with sends := w.sends ++ [(method, command)], unsettled := w.unsettled ++ [command.id] }

end World

/-- What the environment decides about an operation. A failing statement raises before
or after it took effect. -/
inductive Choice
  | proceed
  | failBefore (e : PyError)
  | failAfter (e : PyError)
  | uuid (id : UUID)
  | fresh (answer : Bool)
  | submission (answer : Except PyError BrokerSubmission)
  | recovered (answer : Except PyError (Option BrokerSubmission))

/-- Assigning an attribute of a loaded row is no statement and cannot fail. -/
def StoreOp.canFail : StoreOp → Bool
  | setResult _ _ _ => false
  | _ => true

def answerStore (w : World) (o : StoreOp) : Choice → Option (World × Except PyError o.Result)
  | .proceed => some ({ w with working := (o.apply w.shared w.working).1 },
      .ok (o.apply w.shared w.working).2)
  | .failBefore e => if o.canFail then some (w, .error e) else none
  | .failAfter e =>
    if o.canFail then some ({ w with working := (o.apply w.shared w.working).1 }, .error e) else none
  | _ => none

def answer (w : World) : (o : DispatchOp) → Choice → Option (World × Except PyError o.Result)
  | .store o, choice => answerStore w o choice
  | .commit, .proceed => some (w.commit, .ok ())
  | .commit, .failBefore e => some (w, .error e)
  | .commit, .failAfter e => some (w.commit, .error e)
  | .close, .proceed => some (w.rollback, .ok ())
  | .close, .failBefore e => some (w.rollback, .error e)
  | .newUuid7, .uuid id => some (w, .ok id)
  | .marketDataFresh, .fresh b => some (w, .ok b)
  | .submit c, .submission a => some (w.send .submit c, a)
  | .cancel c, .submission a => some (w.send .cancel c, a)
  | .replace c, .submission a => some (w.send .replace c, a)
  | .recoverSubmit _ _, .recovered a => some (w, a)
  | _, _ => none

/-- Only a commit touches the committed tables. -/
theorem committed_of_answer {w w' : World} {o : DispatchOp} {choice : Choice}
    {r : Except PyError o.Result} (hanswer : answer w o choice = some (w', r)) (ho : o ≠ .commit) :
    w'.committed = w.committed := by
  cases o with
  | store o =>
    cases choice <;> simp only [answer, answerStore] at hanswer
    · cases hanswer; rfl
    · split at hanswer <;> cases hanswer; rfl
    · split at hanswer <;> cases hanswer; rfl
    all_goals cases hanswer
  | commit => exact absurd rfl ho
  | _ => cases choice <;> cases hanswer <;> rfl

/-- Calls of the service through sessions of their own, with any facts per call. Between
two steps other processes may rewrite the tables dispatch only reads. -/
def system : Sequential PyError DispatchOp DispatchOp.Result World
    (Option RuntimeFacts × ServiceCall) Choice SharedTables where
  body := fun call => inSession (call.2.body (mySqlDispatchStore call.1))
  answer := answer
  onCrash := World.rollback
  onShift := fun w shared => { w with shared := shared }

abbrev Config := Sequential.Config PyError DispatchOp DispatchOp.Result World

abbrev Event := Sequential.Event (Option RuntimeFacts × ServiceCall) Choice SharedTables

/-- No call is under way, no transaction is open, and nothing was sent yet. -/
def Fresh (c : Config) : Prop :=
  c.current = none ∧ c.world.working = c.world.committed ∧ c.world.sends = [] ∧ c.world.unsettled = []

/-! ### A sample store -/

def sampleId (n : Fin 256) : UUID :=
  ⟨7 * 2 ^ 76 + 2 * 2 ^ 62 + n, sampleInt_lt n⟩

theorem submits_reduction : CommandType.submit.admits .submitStrictReduction := rfl

/-- A command the runtime instance 1 may dispatch until 1000 s. -/
def sampleRow (commandType : CommandType) (authority : AuthorityClass)
    (h : commandType.admits authority) : PersistedOrderCommand where
  id := sampleId 10
  orderId := sampleId 11
  accountId := sampleId 12
  instrumentId := sampleId 13
  commandType := commandType
  targetAggregateVersion := 1
  idempotencyKey := "order:1"
  commandSequence := 1
  canonicalPayloadHash := 0
  brokerClientOrderId := "client-1"
  targetBrokerOrderId := none
  replacesCommandId := none
  originType := .strategy
  authorityClass := authority
  ownerRuntimeInstanceId := some (sampleId 1)
  fencingToken := 1
  notAfter := 1000000000
  side := .buy
  orderStyle := .market
  quantity := .ofNat 1
  limitPrice := none
  timeInForce := "NONE"
  triggerPrice := none
  status := "PENDING"
  dispatchAttemptedAt := none
  resultState := none
  authorityTerms := h

/-- Lease and control are held by runtime instance 1 and nothing is in trouble. -/
def sampleShared : SharedTables where
  leases := [⟨some (sampleId 1), some 2000000000, 1⟩]
  controls := [⟨true, .none, some (sampleId 1), some 0, some 2000000000, 1, 1⟩]
  incidents := []
  reconciliationDiffs := []
  accounts := [⟨sampleId 12, sampleId 14⟩]

def sampleFacts : RuntimeFacts := ⟨.paper, false, .paper, sampleId 1⟩

def sampleNow : DateTime := ⟨500000000, .utc⟩

def sampleConfig (row : PersistedOrderCommand) : Config where
  world := ⟨sampleShared, ⟨[row], []⟩, ⟨[row], []⟩, [], []⟩
  current := none

/-- The next `n` statements all work. -/
def proceed (n : Nat) : List Event := List.replicate n (.answer .proceed)

/-- A dispatch of the sample command up to the venue's answer. -/
def sampleSend (answer : Except PyError BrokerSubmission) : List Event :=
  .call (some sampleFacts, .dispatch (sampleId 10) sampleNow) ::
    proceed 10 ++ .answer (.fresh true) :: proceed 3 ++ [.answer (.submission answer)]

end AutoTrader.Dispatch
