import LendingPool.Abi.Codec
/-! Calls of the gateway, which wraps the native currency on its way into the pool and unwraps it
on the way out. -/

namespace LendingPool

open Abi

inductive GatewayCall
  | deposit (pool onBehalfOf : Address) (referralCode : UInt16)
  | withdraw (pool : Address) (amount : Word) (recipient : Address)
  | repay (pool : Address) (amount rateMode : Word) (onBehalfOf : Address)
  | borrow (pool : Address) (amount rateMode : Word) (referralCode : UInt16)
deriving DecidableEq, Repr

namespace GatewayMethod

abbrev address : ParameterType := .word .address
abbrev number : ParameterType := .word (.uint 256)
abbrev code : ParameterType := .word (.uint 16)

def deposit : Method := ⟨"depositETH", Bytes.ofNat 4 0x474cf53d, [address, address, code]⟩
def withdraw : Method := ⟨"withdrawETH", Bytes.ofNat 4 0x80500d20, [address, number, address]⟩
def repay : Method :=
  ⟨"repayETH", Bytes.ofNat 4 0x02c5fcf8, [address, number, number, address]⟩
def borrow : Method := ⟨"borrowETH", Bytes.ofNat 4 0x66514c97, [address, number, number, code]⟩

end GatewayMethod

def GatewayCall.encode : GatewayCall → Bytes
  | deposit pool onBehalfOf code =>
      GatewayMethod.deposit.encode (pool, onBehalfOf, code.toBitVec, ())
  | withdraw pool amount recipient =>
      GatewayMethod.withdraw.encode (pool, amount, recipient, ())
  | repay pool amount rateMode onBehalfOf =>
      GatewayMethod.repay.encode (pool, amount, rateMode, onBehalfOf, ())
  | borrow pool amount rateMode code =>
      GatewayMethod.borrow.encode (pool, amount, rateMode, code.toBitVec, ())

end LendingPool
