import LendingPool.Call.View
import LendingPool.Chain.Query
import LendingPool.NameHash
import LendingPool.Node.Message
/-! Chain queries answered by a node. Most of them are one call of a contract. -/

namespace LendingPool

open Abi

abbrev Inquiry := ExceptT ServiceFault NodeDialogue

namespace Inquiry

def send {α : Type} (request : NodeRequest) (read : Json → Option α) :
    Inquiry (Except NodeFault α) := do
  let reply : NodeReply ← ExceptT.lift (Dialogue.query request)
  return reply.result read

def network (request : NodeRequest) (bound : Nat) (what : String) : Inquiry Nat := do
  match ← send request (Json.quantity? bound) with
  | .ok value => pure value
  | .error fault => throw (.network s!"Failed to get {what}: {fault.message}")

/-- Calls a contract. A node that is not reached is a failure of the network, anything else that
the node has to say is a failure of the call. -/
def call (view : ViewMethod) (target : Address) (arguments : Arguments view.method.inputs) :
    Inquiry (Arguments view.outputs) := do
  let place := s!"{view.method.signature} on {target}"
  match ← send (.call target (view.method.encode arguments)) Json.byteString? with
  | .error fault =>
      let text := s!"{place} failed: {fault.message}"
      throw (if fault.isUnreachable then .network text else .contract text)
  | .ok data =>
      match Abi.decode? view.outputs data with
      | some values => pure values
      | none => throw (.decode place)

/-- A token that does not answer the call has no such counter. -/
def counter? (view : ViewMethod) (token : Address) (arguments : Arguments view.method.inputs) :
    Inquiry (Option (Arguments view.outputs)) :=
  tryCatch (some <$> call view token arguments) fun
    | .contract _ | .decode _ => pure none
    | fault => throw fault

end Inquiry

/-- The contracts that are asked for the numbers of reserves and for names. Without a registry no
name has an address. -/
structure NodeReader where
  pool : Option Address := none
  ensRegistry : Option Address := none
deriving DecidableEq, Repr

namespace NodeReader

def resolve (reader : NodeReader) (name : String) : Inquiry (Option Address) := do
  let some registry := reader.ensRegistry | return none
  let node := Word.ofBytes (nameHash name)
  let (resolver, ()) ← Inquiry.call .resolver registry (node, ())
  if resolver = .zero then return none
  let (address, ()) ← Inquiry.call .resolved resolver (node, ())
  return if address = .zero then none else some address

def nonce (token owner : Address) : Inquiry (Option Word) := do
  match ← Inquiry.counter? .nonces token (owner, ()) with
  | some (nonce, ()) => return some nonce
  | none =>
      let found ← Inquiry.counter? .privateNonces token (owner, ())
      return found.map Prod.fst

def reserveId (reader : NodeReader) (asset : Address) : Inquiry UInt16 := do
  let some pool := reader.pool
    | throw (.contract "no pool configured for reserve lookups")
  let (_, _, _, _, _, _, _, id, _) ← Inquiry.call .reserveData pool (asset, ())
  return .ofBitVec id

def find (reader : NodeReader) : (query : ChainQuery) → Inquiry query.Answer
  | .decimals token => do
      let (decimals, ()) ← Inquiry.call .decimals token ()
      return .ofBitVec decimals
  | .name token => do
      let (name, ()) ← Inquiry.call .name token ()
      return name
  | .allowance token owner spender => do
      let (allowance, ()) ← Inquiry.call .allowance token (owner, spender, ())
      return allowance
  | .borrowAllowance debtToken delegator delegatee => do
      let (allowance, ()) ← Inquiry.call .borrowAllowance debtToken (delegator, delegatee, ())
      return allowance
  | .nonce token owner => nonce token owner
  | .chainId => do return UInt64.ofNat (← Inquiry.network .chainId (2 ^ 64) "chain id")
  | .gasPrice => do return BitVec.ofNat 128 (← Inquiry.network .gasPrice (2 ^ 128) "gas price")
  | .resolve name => reader.resolve name
  | .reserveId asset => reader.reserveId asset

def reply (reader : NodeReader) (query : ChainQuery) : NodeDialogue query.Reply :=
  (reader.find query).run

end NodeReader

end LendingPool
