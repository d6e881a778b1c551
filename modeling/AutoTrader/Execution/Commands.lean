import AutoTrader.Domain.Basic
import AutoTrader.Domain.Decimal
import AutoTrader.Domain.Identity

/-! Broker order commands, as the core hands them to an adapter and as the command
table keeps them. -/

namespace AutoTrader.Execution

open AutoTrader.Domain

inductive CommandType
  | submit
  | cancel
  | replace
  deriving DecidableEq

def CommandType.value : CommandType → String
  | .submit => "SUBMIT"
  | .cancel => "CANCEL"
  | .replace => "REPLACE"

inductive AuthorityClass
  | submitNewExposure
  | submitStrictReduction
  | cancel
  | replaceNonIncreasing
  deriving DecidableEq

def AuthorityClass.value : AuthorityClass → String
  | .submitNewExposure => "SUBMIT_NEW_EXPOSURE"
  | .submitStrictReduction => "SUBMIT_STRICT_REDUCTION"
  | .cancel => "CANCEL"
  | .replaceNonIncreasing => "REPLACE_NON_INCREASING"

/-- The authorities a command type may carry: `allowed_authorities` of the factory and
`ck_exec_order_command_authority_terms` of the table. -/
def CommandType.admits : CommandType → AuthorityClass → Bool
  | .submit, .submitNewExposure | .submit, .submitStrictReduction => true
  | .cancel, .cancel => true
  | .replace, .replaceNonIncreasing => true
  | _, _ => false

inductive IntentOrigin
  | strategy
  | protection
  | operator
  | reconciliation
  deriving DecidableEq

def IntentOrigin.value : IntentOrigin → String
  | .strategy => "STRATEGY"
  | .protection => "PROTECTION"
  | .operator => "OPERATOR"
  | .reconciliation => "RECONCILIATION"

/-- A SHA-256 digest. The hash function itself is a parameter wherever it is used. -/
abbrev Digest := BitVec 256

structure BrokerOrderCommand where
  id : UUID
  orderId : UUID
  accountId : UUID
  instrumentId : UUID
  commandType : CommandType
  targetAggregateVersion : Nat
  idempotencyKey : String
  commandSequence : Nat
  canonicalPayloadHash : Digest
  brokerClientOrderId : String
  targetBrokerOrderId : Option String
  replacesCommandId : Option UUID
  originType : IntentOrigin
  authorityClass : AuthorityClass
  ownerRuntimeInstanceId : Option UUID
  fencingToken : Nat
  notAfter : Instant
  side : Side
  orderStyle : OrderStyle
  quantity : Decimal
  limitPrice : Option Decimal
  timeInForce : String
  triggerPrice : Option Decimal
  status : String
  dispatchAttemptedAt : Option Instant
  deriving DecidableEq

inductive ResultState
  | accepted
  | rejected
  | unknown
  deriving DecidableEq

/-- A row of `exec_order_command`, whose check constraint ties the authority to the
command type. -/
structure PersistedOrderCommand extends BrokerOrderCommand where
  resultState : Option ResultState
  authorityTerms : commandType.admits authorityClass
  deriving DecidableEq

namespace PersistedOrderCommand

theorem authority_of_cancel {row : PersistedOrderCommand} (h : row.commandType = .cancel) :
    row.authorityClass = .cancel := by
  have hterms := row.authorityTerms
  rw [h] at hterms
  cases hclass : row.authorityClass <;> simp_all [CommandType.admits]

theorem submit_of_strictReduction {row : PersistedOrderCommand}
    (h : row.authorityClass = .submitStrictReduction) : row.commandType = .submit := by
  have hterms := row.authorityTerms
  rw [h] at hterms
  cases htype : row.commandType <;> simp_all [CommandType.admits]

end PersistedOrderCommand

end AutoTrader.Execution
