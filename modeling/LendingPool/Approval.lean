import LendingPool.Amount.Units
import LendingPool.Call.Token
import LendingPool.RateMode
import LendingPool.Transaction
/-! Approvals. Before a contract can take tokens from somebody, its allowance has to suffice. If it
does not, an approval has to be sent first. -/

namespace LendingPool

/-- An allowance this large counts as unlimited: the largest word with ten digits less. -/
def unlimitedAllowance : Word :=
  Word.ofNat ((2 ^ 256 - 1) / 10 ^ 10)

example : unlimitedAllowance =
    11579208923731619542357098500868790785326998466564056403945758400791 := by decide

def Amount.requiredAllowance : Amount → Word
  | .exact units => units.value
  | .entireBalance => unlimitedAllowance

def Amount.approvalSize (amount : Amount) (policy : ApprovalPolicy) : Word :=
  match policy, amount with
  | .exact, .exact units => units.value
  | _, _ => Word.max

def ApprovalPolicy.approvalSize (policy : ApprovalPolicy) (required : Word) : Word :=
  match policy with
  | exact => required
  | max => Word.max

structure Grant where
  owner : Address
  token : Address
  spender : Address
deriving DecidableEq, Repr

namespace Grant

/-- The approval to send first, if the present allowance is below what is required. -/
def approval? (grant : Grant) (limits : GasLimits) (required size : Word) :
    Planning (Option Descriptor) := do
  let present ← Planning.read (.allowance grant.token grant.owner grant.spender)
  if present.toNat < required.toNat then
    return some (.ofAction .tokenApproval limits .approval {
      sender := grant.owner, target := grant.token,
      data := (TokenCall.approve grant.spender size).encode })
  else return none

def approvalFor? (grant : Grant) (limits : GasLimits) (amount : Amount)
    (policy : ApprovalPolicy) : Planning (Option Descriptor) :=
  grant.approval? limits amount.requiredAllowance (amount.approvalSize policy)

def delegation? (grant : Grant) (limits : GasLimits) (amount : Word) :
    Planning (Option Descriptor) := do
  let present ← Planning.read (.borrowAllowance grant.token grant.owner grant.spender)
  if present.toNat < amount.toNat then
    return some (.ofAction .delegationApproval limits .delegationApproval {
      sender := grant.owner, target := grant.token,
      data := (TokenCall.approveDelegation grant.spender amount).encode })
  else return none

end Grant

end LendingPool
