import LendingPool.Abi.Codec
/-! Calls of tokens: the two that grant an allowance. -/

namespace LendingPool

open Abi

inductive TokenCall
  | approve (spender : Address) (amount : Word)
  | approveDelegation (delegatee : Address) (amount : Word)
deriving DecidableEq, Repr

namespace TokenMethod

abbrev address : ParameterType := .word .address
abbrev number : ParameterType := .word (.uint 256)

def approve : Method := ⟨"approve", Bytes.ofNat 4 0x095ea7b3, [address, number]⟩
def approveDelegation : Method :=
  ⟨"approveDelegation", Bytes.ofNat 4 0xc04a8a10, [address, number]⟩

end TokenMethod

def TokenCall.encode : TokenCall → Bytes
  | approve spender amount => TokenMethod.approve.encode (spender, amount, ())
  | approveDelegation delegatee amount =>
      TokenMethod.approveDelegation.encode (delegatee, amount, ())

end LendingPool
