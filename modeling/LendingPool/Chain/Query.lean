import LendingPool.Dialogue
import LendingPool.Fault
/-! What a planner reads from the chain. -/

namespace LendingPool

inductive ChainQuery
  | decimals (token : Address)
  | name (token : Address)
  | allowance (token owner spender : Address)
  | borrowAllowance (debtToken delegator delegatee : Address)
  | nonce (token owner : Address)
  | chainId
  | gasPrice
  | resolve (name : String)
  | reserveId (asset : Address)
deriving DecidableEq, Repr

namespace ChainQuery

/-- A token that does not support permits has no nonce, and a name may belong to nobody. -/
abbrev Answer : ChainQuery → Type
  | decimals _ => UInt8
  | name _ => String
  | allowance .. | borrowAllowance .. => Word
  | nonce .. => Option Word
  | chainId => UInt64
  | gasPrice => BitVec 128
  | resolve _ => Option Address
  | reserveId _ => UInt16

abbrev Reply (query : ChainQuery) : Type :=
  Except ServiceFault query.Answer

def kind : ChainQuery → String
  | decimals _ => "decimals"
  | name _ => "name"
  | allowance .. => "allowance"
  | borrowAllowance .. => "borrow_allowance"
  | nonce .. => "nonce"
  | chainId => "chain_id"
  | gasPrice => "gas_price"
  | resolve _ => "resolve"
  | reserveId _ => "reserve_id"

def arguments : ChainQuery → List String
  | decimals token | name token => [token.checksum]
  | allowance token owner spender => [token.checksum, owner.checksum, spender.checksum]
  | borrowAllowance debtToken delegator delegatee =>
      [debtToken.checksum, delegator.checksum, delegatee.checksum]
  | nonce token owner => [token.checksum, owner.checksum]
  | chainId | gasPrice => []
  | resolve wanted => [wanted]
  | reserveId asset => [asset.checksum]

def toText (query : ChainQuery) : String :=
  query.kind ++ "(" ++ ",".intercalate query.arguments ++ ")"

instance : ToString ChainQuery := ⟨toText⟩

end ChainQuery

abbrev Reading := Dialogue ChainQuery.Reply

abbrev Planning := ExceptT Fault Reading

namespace Planning

def read (query : ChainQuery) : Planning query.Answer := do
  let reply : query.Reply ← ExceptT.lift (Dialogue.query query)
  match reply with
  | .ok answer => pure answer
  | .error fault => throw (.service fault)

def check {α : Type} (result : Except InputFault α) : Planning α :=
  match result with
  | .ok value => pure value
  | .error fault => throw (.input fault)

end Planning

end LendingPool
