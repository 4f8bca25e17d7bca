import LendingPool.Chain.Query
import LendingPool.Gas
import LendingPool.Json.Printer
/-! Transactions that are planned but not signed. A descriptor fixes everything that does not
change with the state of the network. What does, the chain and the gas price, is read when
somebody asks for the transaction or for its cost. -/

namespace LendingPool

structure ContractCall where
  sender : Address
  target : Address
  data : Bytes
  value : Word := 0
deriving DecidableEq, Repr

inductive TransactionKind
  | tokenApproval
  | delegationApproval
  | poolAction
deriving DecidableEq, Repr

namespace TransactionKind

def name : TransactionKind → String
  | tokenApproval => "ERC20_APPROVAL"
  | delegationApproval => "DELEGATION_APPROVAL"
  | poolAction => "POOL_ACTION"

def isApproval : TransactionKind → Bool
  | tokenApproval | delegationApproval => true
  | poolAction => false

end TransactionKind

structure Descriptor where
  kind : TransactionKind
  call : ContractCall
  gasLimit : UInt64
deriving DecidableEq, Repr

structure Transaction where
  call : ContractCall
  chainId : UInt64
  gasLimit : UInt64
deriving DecidableEq, Repr

structure GasEstimate where
  gasLimit : UInt64
  gasPrice : BitVec 128
deriving DecidableEq, Repr

namespace Descriptor

def ofAction (kind : TransactionKind) (limits : GasLimits) (action : GasAction)
    (call : ContractCall) : Descriptor :=
  ⟨kind, call, limits action⟩

def transaction (descriptor : Descriptor) : Planning Transaction := do
  let chainId ← Planning.read .chainId
  return ⟨descriptor.call, chainId, descriptor.gasLimit⟩

def gasEstimate (descriptor : Descriptor) : Planning GasEstimate := do
  let gasPrice ← Planning.read .gasPrice
  return ⟨descriptor.gasLimit, gasPrice⟩

end Descriptor

/-! ## JSON -/

namespace Transaction

def toJson (transaction : Transaction) : Json := .object [
  ("from", .string transaction.call.sender.toHex),
  ("to", .string transaction.call.target.toHex),
  ("data", .string (Bytes.toHex transaction.call.data)),
  ("value", .string (quantityText transaction.call.value.toNat)),
  ("chain_id", .ofNat transaction.chainId.toNat),
  ("gas_limit", .ofNat transaction.gasLimit.toNat)]

def toRequest (transaction : Transaction) : Json := .object [
  ("from", .string transaction.call.sender.toHex),
  ("to", .string transaction.call.target.toHex),
  ("gas", .string (quantityText transaction.gasLimit.toNat)),
  ("value", .string (quantityText transaction.call.value.toNat)),
  ("input", .string (Bytes.toHex transaction.call.data)),
  ("chainId", .string (quantityText transaction.chainId.toNat))]

end Transaction

end LendingPool
