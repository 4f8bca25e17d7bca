import LendingPool.Abi.Codec
import LendingPool.Call.Logical
import LendingPool.Fault
import LendingPool.Permit.Signature
/-! Calls of the pool, and their call data. -/

namespace LendingPool

open Abi

inductive PoolCall
  | supply (asset : Address) (amount : Word) (onBehalfOf : Address) (referralCode : UInt16)
  | supplyWithPermit (asset : Address) (amount : Word) (onBehalfOf : Address)
      (referralCode : UInt16) (deadline : Word) (signature : Signature)
  | withdraw (asset : Address) (amount : Word) (recipient : Address)
  | borrow (asset : Address) (amount rateMode : Word) (referralCode : UInt16)
      (onBehalfOf : Address)
  | repay (asset : Address) (amount rateMode : Word) (onBehalfOf : Address)
  | repayWithPermit (asset : Address) (amount rateMode : Word) (onBehalfOf : Address)
      (deadline : Word) (signature : Signature)
  | swapBorrowRateMode (asset : Address) (rateMode : Word)
  | setUsageAsCollateral (asset : Address) (useAsCollateral : Bool)
  | liquidationCall (collateralAsset debtAsset user : Address) (debtToCover : Word)
      (receiveAToken : Bool)
  | flashLoan (receiver : Address) (assets : List Address) (amounts rateModes : List Word)
      (onBehalfOf : Address) (params : Bytes) (referralCode : UInt16)
  | setUserEMode (category : UInt8)
deriving DecidableEq, Repr

/-- A loan of one asset that opens no debt. -/
def PoolCall.singleFlashLoan (receiver asset : Address) (amount : Word) (onBehalfOf : Address)
    (params : Bytes) (referralCode : UInt16) : PoolCall :=
  .flashLoan receiver [asset] [amount] [0] onBehalfOf params referralCode

/-! ## Methods -/

namespace PoolMethod

abbrev address : ParameterType := .word .address
abbrev number : ParameterType := .word (.uint 256)
abbrev code : ParameterType := .word (.uint 16)
abbrev small : ParameterType := .word (.uint 8)
abbrev flag : ParameterType := .word .flag
abbrev bytes32 : ParameterType := .word .bytes32

def supply : Method :=
  ⟨"supply", Bytes.ofNat 4 0x617ba037, [address, number, address, code]⟩

def supplyWithPermit : Method :=
  ⟨"supplyWithPermit", Bytes.ofNat 4 0x02c205f0,
    [address, number, address, code, number, small, bytes32, bytes32]⟩

def withdraw : Method :=
  ⟨"withdraw", Bytes.ofNat 4 0x69328dec, [address, number, address]⟩

def borrow : Method :=
  ⟨"borrow", Bytes.ofNat 4 0xa415bcad, [address, number, number, code, address]⟩

def repay : Method :=
  ⟨"repay", Bytes.ofNat 4 0x573ade81, [address, number, number, address]⟩

def repayWithPermit : Method :=
  ⟨"repayWithPermit", Bytes.ofNat 4 0xee3e210b,
    [address, number, number, address, number, small, bytes32, bytes32]⟩

def swapBorrowRateMode : Method :=
  ⟨"swapBorrowRateMode", Bytes.ofNat 4 0x94ba89a2, [address, number]⟩

def setUsageAsCollateral : Method :=
  ⟨"setUserUseReserveAsCollateral", Bytes.ofNat 4 0x5a3b74b9, [address, flag]⟩

def liquidationCall : Method :=
  ⟨"liquidationCall", Bytes.ofNat 4 0x00a718a9, [address, address, address, number, flag]⟩

def flashLoan : Method :=
  ⟨"flashLoan", Bytes.ofNat 4 0xab9c4b5d,
    [address, .array .address, .array (.uint 256), .array (.uint 256), address, .bytes, code]⟩

def setUserEMode : Method :=
  ⟨"setUserEMode", Bytes.ofNat 4 0x28530a47, [small]⟩

end PoolMethod

namespace PoolCall

def method : PoolCall → Method
  | supply .. => PoolMethod.supply
  | supplyWithPermit .. => PoolMethod.supplyWithPermit
  | withdraw .. => PoolMethod.withdraw
  | borrow .. => PoolMethod.borrow
  | repay .. => PoolMethod.repay
  | repayWithPermit .. => PoolMethod.repayWithPermit
  | swapBorrowRateMode .. => PoolMethod.swapBorrowRateMode
  | setUsageAsCollateral .. => PoolMethod.setUsageAsCollateral
  | liquidationCall .. => PoolMethod.liquidationCall
  | flashLoan .. => PoolMethod.flashLoan
  | setUserEMode .. => PoolMethod.setUserEMode

def arguments : (call : PoolCall) → Arguments call.method.inputs
  | supply asset amount onBehalfOf code => (asset, amount, onBehalfOf, code.toBitVec, ())
  | supplyWithPermit asset amount onBehalfOf code deadline signature =>
      (asset, amount, onBehalfOf, code.toBitVec, deadline,
        signature.v.toBitVec, signature.r, signature.s, ())
  | withdraw asset amount recipient => (asset, amount, recipient, ())
  | borrow asset amount rateMode code onBehalfOf =>
      (asset, amount, rateMode, code.toBitVec, onBehalfOf, ())
  | repay asset amount rateMode onBehalfOf => (asset, amount, rateMode, onBehalfOf, ())
  | repayWithPermit asset amount rateMode onBehalfOf deadline signature =>
      (asset, amount, rateMode, onBehalfOf, deadline,
        signature.v.toBitVec, signature.r, signature.s, ())
  | swapBorrowRateMode asset rateMode => (asset, rateMode, ())
  | setUsageAsCollateral asset useAsCollateral => (asset, useAsCollateral, ())
  | liquidationCall collateralAsset debtAsset user debtToCover receiveAToken =>
      (collateralAsset, debtAsset, user, debtToCover, receiveAToken, ())
  | flashLoan receiver assets amounts rateModes onBehalfOf params code =>
      (receiver, assets, amounts, rateModes, onBehalfOf, params, code.toBitVec, ())
  | setUserEMode category => (category.toBitVec, ())

def encode (call : PoolCall) : Bytes :=
  call.method.encode call.arguments

/-! ## Reading -/

def forms : List (Form PoolCall) := [
  ⟨PoolMethod.supply, fun (asset, amount, onBehalfOf, code, ()) =>
    supply asset amount onBehalfOf ⟨code⟩⟩,
  ⟨PoolMethod.supplyWithPermit, fun (asset, amount, onBehalfOf, code, deadline, v, r, s, ()) =>
    supplyWithPermit asset amount onBehalfOf ⟨code⟩ deadline ⟨⟨v⟩, r, s⟩⟩,
  ⟨PoolMethod.withdraw, fun (asset, amount, recipient, ()) => withdraw asset amount recipient⟩,
  ⟨PoolMethod.borrow, fun (asset, amount, rateMode, code, onBehalfOf, ()) =>
    borrow asset amount rateMode ⟨code⟩ onBehalfOf⟩,
  ⟨PoolMethod.repay, fun (asset, amount, rateMode, onBehalfOf, ()) =>
    repay asset amount rateMode onBehalfOf⟩,
  ⟨PoolMethod.repayWithPermit,
    fun (asset, amount, rateMode, onBehalfOf, deadline, v, r, s, ()) =>
      repayWithPermit asset amount rateMode onBehalfOf deadline ⟨⟨v⟩, r, s⟩⟩,
  ⟨PoolMethod.swapBorrowRateMode, fun (asset, rateMode, ()) =>
    swapBorrowRateMode asset rateMode⟩,
  ⟨PoolMethod.setUsageAsCollateral, fun (asset, useAsCollateral, ()) =>
    setUsageAsCollateral asset useAsCollateral⟩,
  ⟨PoolMethod.liquidationCall,
    fun (collateralAsset, debtAsset, user, debtToCover, receiveAToken, ()) =>
      liquidationCall collateralAsset debtAsset user debtToCover receiveAToken⟩,
  ⟨PoolMethod.flashLoan,
    fun (receiver, assets, amounts, rateModes, onBehalfOf, params, code, ()) =>
      flashLoan receiver assets amounts rateModes onBehalfOf params ⟨code⟩⟩,
  ⟨PoolMethod.setUserEMode, fun (category, ()) => setUserEMode ⟨category⟩⟩]

def decode? (data : Bytes) : Option PoolCall :=
  decodeForms? forms data

/-! ## Meaning -/

def rateModeTag (mode : Word) : Except EncodingFault UInt8 :=
  if mode.toNat < 256 then .ok (UInt8.ofNat mode.toNat) else .error (.rateModeOutOfRange mode)

def logical (call : PoolCall) : Except EncodingFault LogicalCall :=
  match call with
  | supply asset amount onBehalfOf code
  | supplyWithPermit asset amount onBehalfOf code _ _ => .ok ⟨asset, amount, 0, code, onBehalfOf⟩
  | withdraw asset amount recipient => .ok ⟨asset, amount, 0, 0, recipient⟩
  | borrow asset amount rateMode code onBehalfOf => do
      return ⟨asset, amount, ← rateModeTag rateMode, code, onBehalfOf⟩
  | repay asset amount rateMode onBehalfOf
  | repayWithPermit asset amount rateMode onBehalfOf _ _ => do
      return ⟨asset, amount, ← rateModeTag rateMode, 0, onBehalfOf⟩
  | _ => .error (.noLogicalForm s!"call with selector {Bytes.toHex call.method.selector}")

def decodeLogical (data : Bytes) : Except EncodingFault LogicalCall :=
  match decode? data with
  | some call => call.logical
  | none => .error (.undecodable "pool")

end PoolCall

end LendingPool
