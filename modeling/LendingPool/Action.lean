import LendingPool.Permit.Signature
/-! The actions that act on reserves of the pool.

How a reserve is named and how an amount is written depend on the stage: callers name reserves by
address and give decimals, call data gives base units, and packed call data names reserves by
number. The actions are the same at every stage. -/

namespace LendingPool

structure SignedPermit where
  deadline : UInt64
  signature : Signature
deriving DecidableEq, Repr, Inhabited

inductive ReserveAction (Reserve Quantity : Type)
  | supply (asset : Reserve) (amount : Quantity) (referralCode : UInt16)
  | supplyWithPermit (asset : Reserve) (amount : Quantity) (referralCode : UInt16)
      (permit : SignedPermit)
  | withdraw (asset : Reserve) (amount : Quantity)
  | borrow (asset : Reserve) (amount : Quantity) (rateMode : UInt8) (referralCode : UInt16)
  | repay (asset : Reserve) (amount : Quantity) (rateMode : UInt8)
  | repayWithPermit (asset : Reserve) (amount : Quantity) (rateMode : UInt8)
      (permit : SignedPermit)
  | swapBorrowRateMode (asset : Reserve) (rateMode : UInt8)
  | setUsageAsCollateral (asset : Reserve) (useAsCollateral : Bool)
  | liquidationCall (collateral debt : Reserve) (user : Address) (debtToCover : Quantity)
      (receiveAToken : Bool)
deriving DecidableEq, Repr

namespace ReserveAction

variable {Reserve Renamed Quantity Converted : Type} {m : Type → Type} [Monad m]

def renameReserves (rename : Reserve → m Renamed) :
    ReserveAction Reserve Quantity → m (ReserveAction Renamed Quantity)
  | supply asset amount code => return supply (← rename asset) amount code
  | supplyWithPermit asset amount code permit =>
      return supplyWithPermit (← rename asset) amount code permit
  | withdraw asset amount => return withdraw (← rename asset) amount
  | borrow asset amount mode code => return borrow (← rename asset) amount mode code
  | repay asset amount mode => return repay (← rename asset) amount mode
  | repayWithPermit asset amount mode permit =>
      return repayWithPermit (← rename asset) amount mode permit
  | swapBorrowRateMode asset mode => return swapBorrowRateMode (← rename asset) mode
  | setUsageAsCollateral asset use => return setUsageAsCollateral (← rename asset) use
  | liquidationCall collateral debt user amount receiveAToken => do
      let collateral ← rename collateral
      return liquidationCall collateral (← rename debt) user amount receiveAToken

def convertAmount (convert : Reserve → Quantity → m Converted) :
    ReserveAction Reserve Quantity → m (ReserveAction Reserve Converted)
  | supply asset amount code => return supply asset (← convert asset amount) code
  | supplyWithPermit asset amount code permit =>
      return supplyWithPermit asset (← convert asset amount) code permit
  | withdraw asset amount => return withdraw asset (← convert asset amount)
  | borrow asset amount mode code => return borrow asset (← convert asset amount) mode code
  | repay asset amount mode => return repay asset (← convert asset amount) mode
  | repayWithPermit asset amount mode permit =>
      return repayWithPermit asset (← convert asset amount) mode permit
  | swapBorrowRateMode asset mode => return swapBorrowRateMode asset mode
  | setUsageAsCollateral asset use => return setUsageAsCollateral asset use
  | liquidationCall collateral debt user amount receiveAToken =>
      return liquidationCall collateral debt user (← convert debt amount) receiveAToken

def amount? : ReserveAction Reserve Quantity → Option (Reserve × Quantity)
  | supply asset amount _ | supplyWithPermit asset amount _ _ | withdraw asset amount
  | borrow asset amount _ _ | repay asset amount _ | repayWithPermit asset amount _ _ =>
      some (asset, amount)
  | liquidationCall _ debt _ amount _ => some (debt, amount)
  | swapBorrowRateMode .. | setUsageAsCollateral .. => none

end ReserveAction

end LendingPool
