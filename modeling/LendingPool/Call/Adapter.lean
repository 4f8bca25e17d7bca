import LendingPool.Abi.Codec
import LendingPool.Action
/-! What the adapters are told: either by a call of their own, or by the parameters of a flash
loan that the pool hands on to them. -/

namespace LendingPool

open Abi

namespace AdapterParameter

abbrev address : ParameterType := .word .address
abbrev number : ParameterType := .word (.uint 256)

abbrev permitRecord : ParameterType := .record [.uint 256, .uint 256, .uint 8, .bytes32, .bytes32]

end AdapterParameter

open AdapterParameter

structure AdapterPermit where
  amount : Word
  deadline : Word
  signature : Signature
deriving DecidableEq, Repr

namespace AdapterPermit

/-- What stands for no permit. -/
def unused : AdapterPermit := ⟨0, 0, 0, 0, 0⟩

def ofSigned (amount : Word) (permit : SignedPermit) : AdapterPermit :=
  ⟨amount, Word.ofNat permit.deadline.toNat, permit.signature⟩

def toRecord (permit : AdapterPermit) : permitRecord.Value :=
  (permit.amount, permit.deadline, permit.signature.v.toBitVec,
    permit.signature.r, permit.signature.s, ())

end AdapterPermit

/-! ## Swapping collateral -/

structure CollateralSwap where
  fromAsset : Address
  toAsset : Address
  amount : Word
  minimumReceived : Word
  swapAllOffset : Word
  swapCallData : Bytes
  aggregator : Address
  permit : AdapterPermit
deriving DecidableEq, Repr

namespace CollateralSwap

def flashTypes : List ParameterType := [address, number, number, .bytes, address, permitRecord]

def flashParams (swap : CollateralSwap) : Bytes :=
  Abi.encode flashTypes
    (swap.toAsset, swap.minimumReceived, swap.swapAllOffset, swap.swapCallData, swap.aggregator,
      swap.permit.toRecord, ())

def directMethod : Method :=
  ⟨"swapAndDeposit", Bytes.ofNat 4 0xd3454a35,
    [address, address, number, number, number, .bytes, address, permitRecord]⟩

def directCall (swap : CollateralSwap) : Bytes :=
  directMethod.encode
    (swap.fromAsset, swap.toAsset, swap.amount, swap.minimumReceived, swap.swapAllOffset,
      swap.swapCallData, swap.aggregator, swap.permit.toRecord, ())

end CollateralSwap

/-! ## Repaying with collateral -/

structure CollateralRepay where
  collateralAsset : Address
  debtAsset : Address
  collateralAmount : Word
  debtAmount : Word
  rateMode : Word
  buyAllOffset : Word
  swapCallData : Bytes
  aggregator : Address
  permit : AdapterPermit
deriving DecidableEq, Repr

namespace CollateralRepay

def swapTypes : List ParameterType := [.bytes, address]

def swapData (repay : CollateralRepay) : Bytes :=
  Abi.encode swapTypes (repay.swapCallData, repay.aggregator, ())

def flashTypes : List ParameterType := [address, number, number, number, .bytes, permitRecord]

/-- The collateral and its amount are named by the flash loan itself. -/
def flashParams (repay : CollateralRepay) : Bytes :=
  Abi.encode flashTypes
    (repay.debtAsset, repay.debtAmount, repay.buyAllOffset, repay.rateMode, repay.swapData,
      repay.permit.toRecord, ())

def directMethod : Method :=
  ⟨"swapAndRepay", Bytes.ofNat 4 0x4db9dc97,
    [address, address, number, number, number, number, .bytes, permitRecord]⟩

def directCall (repay : CollateralRepay) : Bytes :=
  directMethod.encode
    (repay.collateralAsset, repay.debtAsset, repay.collateralAmount, repay.debtAmount,
      repay.rateMode, repay.buyAllOffset, repay.swapData, repay.permit.toRecord, ())

end CollateralRepay

/-! ## Liquidating with a flash loan -/

structure FlashLiquidation where
  collateralAsset : Address
  borrowedAsset : Address
  user : Address
  debtToCover : Word
  useEthPath : Bool
deriving DecidableEq, Repr

namespace FlashLiquidation

def flashTypes : List ParameterType := [address, address, address, number, .word .flag]

def flashParams (liquidation : FlashLiquidation) : Bytes :=
  Abi.encode flashTypes
    (liquidation.collateralAsset, liquidation.borrowedAsset, liquidation.user,
      liquidation.debtToCover, liquidation.useEthPath, ())

end FlashLiquidation

end LendingPool
