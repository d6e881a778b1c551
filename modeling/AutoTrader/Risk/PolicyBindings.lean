import AutoTrader.Domain.Basic
import AutoTrader.Domain.Identity
import AutoTrader.Runtime.Origins
import AutoTrader.Runtime.Rows
import AutoTrader.Trader.Markets
import Mathlib.Data.Rat.Defs
import Mathlib.Order.Lattice

/-! The risk policies of the accounts. A version is written from a definition the code approves, put in force by
switching its policy over, and bound to an account, whose binding before it ends in the same flush. Processes of several
deployments may approve different definitions, and between the statements of one transaction others commit. -/

namespace AutoTrader.Risk

open AutoTrader.Domain AutoTrader.Runtime AutoTrader.Trader

/-! ### Definitions -/

structure V6RiskPolicyDefinition where
  code : String
  version : String
  market : V6Market
  currency : Option String
  settlementAsset : Option String
  normalRiskFraction : ℚ
  aCandidateRiskFraction : Option ℚ
  aRiskFraction : ℚ
  absoluteTradeRiskFraction : ℚ
  dailyLossFraction : ℚ
  weeklyLossFraction : ℚ
  maxConsecutiveLosses : ℕ
  maxOpenStructuralRiskFraction : ℚ
  accountAgeSeconds : ℕ
  riskAgeSeconds : ℕ
  quoteAgeSeconds : ℕ
  providerAgeSeconds : ℕ
  streamGapAgeSeconds : Option ℕ
  completedIntradayBarArrivalSeconds : ℕ
  dailyRequiresAuthoritativeClose : Bool
  deriving DecidableEq

def v6RiskPolicyVersion : String := "v6-op-20260902.1"

/-- What the two cash policies share. -/
def cashPolicy (code : String) (market : V6Market) (currency : String) : V6RiskPolicyDefinition where
  code := code
  version := v6RiskPolicyVersion
  market := market
  currency := some currency
  settlementAsset := none
  normalRiskFraction := 15 / 10000
  aCandidateRiskFraction := none
  aRiskFraction := 25 / 10000
  absoluteTradeRiskFraction := 25 / 10000
  dailyLossFraction := 75 / 10000
  weeklyLossFraction := 200 / 10000
  maxConsecutiveLosses := 2
  maxOpenStructuralRiskFraction := 75 / 10000
  accountAgeSeconds := 30
  riskAgeSeconds := 5
  quoteAgeSeconds := 3
  providerAgeSeconds := 30
  streamGapAgeSeconds := none
  completedIntradayBarArrivalSeconds := 90
  dailyRequiresAuthoritativeClose := true

def approvedV6RiskPolicies : List V6RiskPolicyDefinition :=
  [cashPolicy "DAVID_V6_CASH_KRW" .krxCash "KRW", cashPolicy "DAVID_V6_CASH_USD" .usCash "USD",
    { code := "DAVID_V6_BINANCE_USDM_USDT"
      version := v6RiskPolicyVersion
      market := .binanceUsdm
      currency := none
      settlementAsset := some "USDT"
      normalRiskFraction := 15 / 10000
      aCandidateRiskFraction := some (25 / 10000)
      aRiskFraction := 25 / 10000
      absoluteTradeRiskFraction := 75 / 10000
      dailyLossFraction := 75 / 10000
      weeklyLossFraction := 200 / 10000
      maxConsecutiveLosses := 2
      maxOpenStructuralRiskFraction := 75 / 10000
      accountAgeSeconds := 5
      riskAgeSeconds := 2
      quoteAgeSeconds := 1
      providerAgeSeconds := 5
      streamGapAgeSeconds := some 2
      completedIntradayBarArrivalSeconds := 2
      dailyRequiresAuthoritativeClose := false }]

/-- `approved_definition`, of the definitions by their codes. -/
def approvedDefinition (approved : List V6RiskPolicyDefinition) (code : String) : Option V6RiskPolicyDefinition :=
  approved.reverse.find? fun definition => decide (definition.code = code)

/-! ### Tables -/

structure RiskPolicy where
  id : UUID
  code : String
  active : Bool

/-- The columns an approved definition describes. -/
structure PolicyColumns where
  normalRiskFraction : Option ℚ
  aCandidateRiskFraction : Option ℚ
  aRiskFraction : Option ℚ
  absoluteTradeRiskFraction : Option ℚ
  dailyLossFraction : Option ℚ
  weeklyLossFraction : Option ℚ
  maxConsecutiveLosses : Option ℕ
  maxOpenStructuralRiskFraction : Option ℚ
  accountAgeSeconds : Option ℕ
  riskAgeSeconds : Option ℕ
  quoteAgeSeconds : Option ℕ
  providerAgeSeconds : Option ℕ
  streamGapAgeSeconds : Option ℕ
  completedIntradayBarArrivalSeconds : Option ℕ
  dailyRequiresAuthoritativeClose : Option Bool
  deriving DecidableEq

/-- The absolute-cap columns a percentage policy leaves empty. -/
structure AbsoluteCaps where
  maxTotalRisk : Option ℚ
  maxPositionValue : Option ℚ
  maxDailyLoss : Option ℚ
  maxDrawdown : Option ℚ
  maxAccountSnapshotAgeSeconds : Option ℕ
  maxRiskSnapshotAgeSeconds : Option ℕ
  maxMarketDataAgeSeconds : Option ℕ
  maxProviderFactAgeSeconds : Option ℕ
  deriving DecidableEq

def noCaps : AbsoluteCaps := ⟨none, none, none, none, none, none, none, none⟩

structure RiskPolicyVersion where
  id : UUID
  policyId : UUID
  version : String
  active : Bool
  columns : PolicyColumns
  caps : AbsoluteCaps
  deriving DecidableEq

structure AccountRiskPolicyBinding where
  id : UUID
  accountId : UUID
  policyVersionId : UUID
  previousBindingId : Option UUID
  currency : Option String
  settlementAsset : Option String
  activatedAt : Instant
  deactivatedAt : Option Instant
  activeMarker : Bool
  deriving DecidableEq

structure PolicyTables where
  policies : List RiskPolicy
  versions : List RiskPolicyVersion
  bindings : List AccountRiskPolicyBinding

def policyRowValues (definition : V6RiskPolicyDefinition) : PolicyColumns where
  normalRiskFraction := some definition.normalRiskFraction
  aCandidateRiskFraction := definition.aCandidateRiskFraction
  aRiskFraction := some definition.aRiskFraction
  absoluteTradeRiskFraction := some definition.absoluteTradeRiskFraction
  dailyLossFraction := some definition.dailyLossFraction
  weeklyLossFraction := some definition.weeklyLossFraction
  maxConsecutiveLosses := some definition.maxConsecutiveLosses
  maxOpenStructuralRiskFraction := some definition.maxOpenStructuralRiskFraction
  accountAgeSeconds := some definition.accountAgeSeconds
  riskAgeSeconds := some definition.riskAgeSeconds
  quoteAgeSeconds := some definition.quoteAgeSeconds
  providerAgeSeconds := some definition.providerAgeSeconds
  streamGapAgeSeconds := definition.streamGapAgeSeconds
  completedIntradayBarArrivalSeconds := some definition.completedIntradayBarArrivalSeconds
  dailyRequiresAuthoritativeClose := some definition.dailyRequiresAuthoritativeClose

/-- `_require_exact_policy_row`. -/
def requireExactPolicyRow (row : RiskPolicyVersion) (definition : V6RiskPolicyDefinition) : Except PyError Unit :=
  if row.columns ≠ policyRowValues definition then
    .error ⟨.valueError, "persisted v6 risk policy differs from approved authority"⟩
  else if row.caps ≠ noCaps then .error ⟨.valueError, "v6 percentage policy cannot contain an absolute cap"⟩
  else .ok ()

def policyRowRefusal (approved : List V6RiskPolicyDefinition) (row : RiskPolicyVersion) (code : String) :
    Option String :=
  match approvedDefinition approved code with
  | none => some "이 정책 코드는 승인된 v6 정책이 아닙니다."
  | some definition =>
    if row.version ≠ definition.version then
      some ("승인된 버전은 " ++ definition.version ++ " 이며 이 버전은 로드되지 않습니다.")
    else match requireExactPolicyRow row definition with
      | .error error => some error.message
      | .ok () => none

def refuse {α : Type} (message : String) : Except PyError α := .error ⟨.runtimeError, message⟩

def violation {α : Type} (name : String) : Except PyError α := .error ⟨.databaseError, name⟩

/-- `ck_risk_policy_version_v6_bounds`. -/
def V6RiskPolicyDefinition.withinBounds (d : V6RiskPolicyDefinition) : Bool :=
  let fraction (value : ℚ) : Bool := decide (0 < value) && decide (value ≤ 1)
  fraction d.normalRiskFraction && d.aCandidateRiskFraction.all fraction && fraction d.aRiskFraction &&
    fraction d.absoluteTradeRiskFraction && decide (d.normalRiskFraction ≤ d.absoluteTradeRiskFraction) &&
    d.aCandidateRiskFraction.all (fun value => decide (value ≤ d.absoluteTradeRiskFraction)) &&
    decide (d.aRiskFraction ≤ d.absoluteTradeRiskFraction) && fraction d.dailyLossFraction &&
    fraction d.weeklyLossFraction && decide (0 < d.maxConsecutiveLosses) &&
    fraction d.maxOpenStructuralRiskFraction && decide (0 < d.accountAgeSeconds) && decide (0 < d.riskAgeSeconds) &&
    decide (0 < d.quoteAgeSeconds) && decide (0 < d.providerAgeSeconds) &&
    d.streamGapAgeSeconds.all (fun age => decide (0 < age)) && decide (0 < d.completedIntradayBarArrivalSeconds)

/-! ### Versions -/

namespace PolicyTables

/-- `_version`: a version with the code of its policy. -/
def version? (t : PolicyTables) (id : UUID) : Option (RiskPolicyVersion × String) := do
  let version ← Rows.lookup (·.id) t.versions id
  let policy ← Rows.lookup (·.id) t.policies version.policyId
  pure (version, policy.code)

/-- `create`, from the approved definition of a code. -/
def create (t : PolicyTables) (approved : List V6RiskPolicyDefinition) (policyId versionId : UUID) (code : String) :
    Except PyError PolicyTables :=
  match approvedDefinition approved code with
  | none => refuse "that policy code is not approved"
  | some definition =>
    let policy := (Rows.lookup (·.code) t.policies definition.code).getD ⟨policyId, definition.code, true⟩
    let policies := if (Rows.lookup (·.code) t.policies definition.code).isSome then t.policies
      else t.policies ++ [policy]
    if t.versions.any fun row => decide (row.policyId = policy.id) && decide (row.version = definition.version) then
      refuse "that policy version is already stored"
    else if (Rows.lookup (·.code) t.policies definition.code).isNone && (Rows.lookup (·.id) t.policies policyId).isSome then
      violation "PRIMARY"
    else if (Rows.lookup (·.id) t.versions versionId).isSome then violation "PRIMARY"
    else if !definition.withinBounds then violation "ck_risk_policy_version_v6_bounds"
    else
      .ok
        { t with
          policies := policies
          versions := t.versions ++
            [⟨versionId, policy.id, definition.version, false, policyRowValues definition, noCaps⟩] }

/-- `facts` and `_require_loadable`. -/
def facts (t : PolicyTables) (approved : List V6RiskPolicyDefinition) (targetVersionId : UUID) : Except PyError Unit :=
  match t.version? targetVersionId with
  | none => refuse "that policy version is not stored"
  | some (target, code) =>
    if target.active then refuse "that policy version is already in force"
    else match policyRowRefusal approved target code with
      | some refusal => refuse refusal
      | none => .ok ()

/-- What `_switch` makes of a row. -/
def switched (target row : RiskPolicyVersion) : RiskPolicyVersion :=
  if row.id = target.id then { row with active := true }
  else if row.policyId = target.policyId then { row with active := false }
  else row

/-- `_switch`. -/
def switch (t : PolicyTables) (targetVersionId : UUID) : Except PyError PolicyTables :=
  match Rows.lookup (·.id) t.versions targetVersionId with
  | none => refuse "that policy version is not stored"
  | some target => .ok { t with versions := t.versions.map (switched target) }

/-- `activate`: what is switched over was shown before. -/
def activate (t seen : PolicyTables) (approved : List V6RiskPolicyDefinition) (targetVersionId : UUID) :
    Except PyError PolicyTables :=
  match seen.facts approved targetVersionId with
  | .error error => .error error
  | .ok () => t.switch targetVersionId

end PolicyTables

/-! ### Bindings -/

/-- `ck_exec_account_policy_binding_state`. -/
def bindingState (binding : AccountRiskPolicyBinding) : Bool :=
  match binding.deactivatedAt with
  | none => binding.activeMarker
  | some deactivatedAt => decide (binding.activatedAt < deactivatedAt) && !binding.activeMarker

/-- `ck_exec_account_policy_binding_scope`. -/
def bindingScope (currency settlementAsset : Option String) : Bool :=
  (decide (currency ∈ [some "KRW", some "USD"]) && settlementAsset.isNone) ||
    (currency.isNone && decide (settlementAsset = some "USDT"))

/-- `uq_exec_account_policy_binding_active_scope` and `uq_exec_account_policy_binding_active_settlement`. -/
def oneActiveScope (bindings : List AccountRiskPolicyBinding) : Bool :=
  decide ((bindings.filter (·.activeMarker)).map fun binding =>
    (binding.accountId, binding.currency, binding.settlementAsset)).Nodup

/-- What `bind` makes of a row: the binding in force ends. -/
def replaced (current : Option UUID) (moment : Instant) (binding : AccountRiskPolicyBinding) :
    AccountRiskPolicyBinding :=
  if current = some binding.id then { binding with deactivatedAt := some moment, activeMarker := false } else binding

namespace PolicyTables

/-- `_locked_active`, by the row it came upon; one that another transaction had just replaced is none. -/
def lockedActive (t : PolicyTables) (accountId : UUID) (found : Option UUID) : Option AccountRiskPolicyBinding :=
  found.bind fun id => t.bindings.find? fun binding =>
    decide (binding.id = id) && decide (binding.accountId = accountId) && binding.activeMarker

/-- `bind`, of a version as it was read before. -/
def bind (t seen : PolicyTables) (approved : List V6RiskPolicyDefinition) (bindingId accountId policyVersionId : UUID)
    (moment : Instant) (found : Option UUID) : Except PyError PolicyTables :=
  match seen.version? policyVersionId with
  | none => refuse "저장되지 않은 정책 버전입니다."
  | some (version, code) =>
    match approvedDefinition approved code with
    | none => refuse "이 정책 코드는 승인된 v6 정책이 아닙니다."
    | some definition =>
      match policyRowRefusal approved version code with
      | some refusal => refuse refusal
      | none =>
        if !version.active then refuse "적용 중인 버전만 계좌에 연결할 수 있습니다."
        else
          let current := t.lockedActive accountId found
          if current.any fun binding => decide (binding.policyVersionId = policyVersionId) then
            refuse "이미 이 버전에 연결되어 있습니다."
          else if t.bindings.any fun binding =>
              decide (binding.accountId = accountId) && decide (binding.policyVersionId = policyVersionId) then
            refuse "이 계좌가 이전에 사용한 버전입니다. 새 버전을 만들어 연결하세요."
          else
            let after := t.bindings.map (replaced (current.map (·.id)) moment) ++
              [{ id := bindingId
                 accountId := accountId
                 policyVersionId := policyVersionId
                 previousBindingId := current.map (·.id)
                 currency := definition.currency
                 settlementAsset := definition.settlementAsset
                 activatedAt := moment
                 deactivatedAt := none
                 activeMarker := true }]
            if t.bindings.any fun binding => decide (binding.id = bindingId) then violation "PRIMARY"
            else if !bindingScope definition.currency definition.settlementAsset then
              violation "ck_exec_account_policy_binding_scope"
            else if !after.all bindingState then violation "ck_exec_account_policy_binding_state"
            else if !oneActiveScope after then violation "uq_exec_account_policy_binding_active_scope"
            else .ok { t with bindings := after }

/-- `active_binding` finds one of these rows. -/
def activeBindings (t : PolicyTables) (accountId : UUID) : List AccountRiskPolicyBinding :=
  t.bindings.filter fun binding =>
    decide (binding.accountId = accountId) && binding.activeMarker && (t.version? binding.policyVersionId).isSome

/-- `resolve`: the definition whose snapshot the account trades under, with the version. What the binding points at is
read after the binding. -/
def resolve (t later : PolicyTables) (first : List AccountRiskPolicyBinding → Option AccountRiskPolicyBinding)
    (approved : List V6RiskPolicyDefinition) (accountId : UUID) (market : V6Market) :
    Option (V6RiskPolicyDefinition × UUID) := do
  let binding ← first (t.activeBindings accountId)
  let (_, policyCode) ← t.version? binding.policyVersionId
  let definition ← approvedDefinition approved policyCode
  if definition.market ≠ market then none
  else
    let (version, code) ← later.version? binding.policyVersionId
    if !version.active || (policyRowRefusal approved version code).isSome then none
    else some (definition, binding.policyVersionId)

end PolicyTables

/-! ### Runs -/

/-- The transactions that commit, each of a process that approves some definitions. -/
inductive PolicyEvent
  | create (approved : List V6RiskPolicyDefinition) (policyId versionId : UUID) (code : String)
  | activate (approved : List V6RiskPolicyDefinition) (reading : ℕ) (targetVersionId : UUID)
  | read
  | bind (approved : List V6RiskPolicyDefinition) (reading : ℕ) (bindingId accountId policyVersionId : UUID)
      (moment : Instant) (found : Option UUID)

structure PolicyWorld where
  tables : PolicyTables
  readings : List PolicyTables

namespace PolicyWorld

def reading (w : PolicyWorld) (i : ℕ) : PolicyTables := (w.readings[i]?).getD w.tables

/-- What a transaction writes. -/
def apply (w : PolicyWorld) : PolicyEvent → Except PyError PolicyTables
  | .create approved policyId versionId code => w.tables.create approved policyId versionId code
  | .activate approved reading targetVersionId => w.tables.activate (w.reading reading) approved targetVersionId
  | .read => .ok w.tables
  | .bind approved reading bindingId accountId policyVersionId moment found =>
    w.tables.bind (w.reading reading) approved bindingId accountId policyVersionId moment found

def step (w : PolicyWorld) (e : PolicyEvent) : PolicyWorld :=
  match w.apply e with
  | .ok tables => ⟨tables, match e with
    | .read => w.readings ++ [w.tables]
    | _ => w.readings⟩
  | .error _ => w

end PolicyWorld

def noPolicies : PolicyWorld := ⟨⟨[], [], []⟩, []⟩

end AutoTrader.Risk
