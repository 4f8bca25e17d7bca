import LendingPool.RateMode
/-! What callers ask for. Addresses, amounts and signatures are kept as they were typed. -/

namespace LendingPool

/-- A signed permit. The value is the amount that the permit is for, if the caller says so. -/
structure PermitIntent where
  signature : String
  deadline : UInt64
  value : Option String := none
deriving DecidableEq, Repr, Inhabited

structure SupplyIntent where
  user : String
  reserve : String
  amount : String
  onBehalfOf : Option String := none
  referralCode : UInt16 := 0
  approval : ApprovalPolicy := .exact
  useOptimizedPath : Bool := false
  encodedParams : Option String := none
deriving DecidableEq, Repr, Inhabited

structure SupplyWithPermitIntent where
  user : String
  reserve : String
  amount : String
  permit : PermitIntent
  onBehalfOf : Option String := none
  referralCode : UInt16 := 0
  useOptimizedPath : Bool := false
  encodedParams : Option String := none
deriving DecidableEq, Repr, Inhabited

/-- Only a withdrawal of native currency needs the interest-bearing token of the reserve. -/
structure WithdrawIntent where
  user : String
  reserve : String
  amount : String
  onBehalfOf : Option String := none
  aToken : Option String := none
  useOptimizedPath : Bool := false
  encodedParams : Option String := none
deriving DecidableEq, Repr, Inhabited

/-- Only a borrowing of native currency needs the debt token of the reserve. -/
structure BorrowIntent where
  user : String
  reserve : String
  amount : String
  rateMode : RateMode
  onBehalfOf : Option String := none
  referralCode : UInt16 := 0
  debtToken : Option String := none
  useOptimizedPath : Bool := false
  encodedParams : Option String := none
deriving DecidableEq, Repr, Inhabited

structure RepayIntent where
  user : String
  reserve : String
  amount : String
  rateMode : RateMode
  onBehalfOf : Option String := none
  approval : ApprovalPolicy := .exact
  useOptimizedPath : Bool := false
  encodedParams : Option String := none
deriving DecidableEq, Repr, Inhabited

structure RepayWithPermitIntent where
  user : String
  reserve : String
  amount : String
  rateMode : RateMode
  permit : PermitIntent
  onBehalfOf : Option String := none
  useOptimizedPath : Bool := false
  encodedParams : Option String := none
deriving DecidableEq, Repr, Inhabited

structure SwapCollateralIntent where
  user : String
  fromAsset : String
  fromAToken : String
  toAsset : String
  fromAmount : String
  minToAmount : String
  aggregator : String
  swapCallData : String
  swapAll : Bool := false
  flash : Bool := false
  onBehalfOf : Option String := none
  referralCode : UInt16 := 0
  permit : Option PermitIntent := none
  approval : ApprovalPolicy := .exact
deriving DecidableEq, Repr, Inhabited

structure RepayWithCollateralIntent where
  user : String
  fromAsset : String
  fromAToken : String
  assetToRepay : String
  repayWithAmount : String
  repayAmount : String
  rateMode : RateMode
  aggregator : String
  swapCallData : String
  repayAllDebt : Bool := false
  flash : Bool := false
  onBehalfOf : Option String := none
  referralCode : UInt16 := 0
  permit : Option PermitIntent := none
  approval : ApprovalPolicy := .exact
deriving DecidableEq, Repr, Inhabited

structure LiquidationCallIntent where
  liquidator : String
  liquidatedUser : String
  debtReserve : String
  collateralReserve : String
  debtToCover : String
  getATokens : Bool := false
  approval : ApprovalPolicy := .exact
  useOptimizedPath : Bool := false
deriving DecidableEq, Repr, Inhabited

structure FlashLiquidationIntent where
  user : String
  collateralReserve : String
  borrowedReserve : String
  debtToCover : String
  initiator : String
  liquidateAll : Bool := false
  useEthPath : Bool := false
deriving DecidableEq, Repr, Inhabited

structure SetUsageAsCollateralIntent where
  user : String
  reserve : String
  useAsCollateral : Bool
  useOptimizedPath : Bool := false
deriving DecidableEq, Repr, Inhabited

structure SetUserEModeIntent where
  user : String
  category : UInt8
deriving DecidableEq, Repr, Inhabited

/-- The rate mode is the one that the debt has now. -/
structure SwapBorrowRateModeIntent where
  user : String
  reserve : String
  rateMode : RateMode
  useOptimizedPath : Bool := false
deriving DecidableEq, Repr, Inhabited

inductive Intent
  | supply (intent : SupplyIntent)
  | supplyWithPermit (intent : SupplyWithPermitIntent)
  | withdraw (intent : WithdrawIntent)
  | borrow (intent : BorrowIntent)
  | repay (intent : RepayIntent)
  | repayWithPermit (intent : RepayWithPermitIntent)
  | swapCollateral (intent : SwapCollateralIntent)
  | repayWithCollateral (intent : RepayWithCollateralIntent)
  | liquidationCall (intent : LiquidationCallIntent)
  | flashLiquidation (intent : FlashLiquidationIntent)
  | setUsageAsCollateral (intent : SetUsageAsCollateralIntent)
  | setUserEMode (intent : SetUserEModeIntent)
  | swapBorrowRateMode (intent : SwapBorrowRateModeIntent)
deriving DecidableEq, Repr

def Intent.action : Intent → String
  | supply _ => "supply"
  | supplyWithPermit _ => "supply_with_permit"
  | withdraw _ => "withdraw"
  | borrow _ => "borrow"
  | repay _ => "repay"
  | repayWithPermit _ => "repay_with_permit"
  | swapCollateral _ => "swap_collateral"
  | repayWithCollateral _ => "repay_with_collateral"
  | liquidationCall _ => "liquidation_call"
  | flashLiquidation _ => "flash_liquidation"
  | setUsageAsCollateral _ => "set_usage_as_collateral"
  | setUserEMode _ => "set_user_e_mode"
  | swapBorrowRateMode _ => "swap_borrow_rate_mode"

structure PermitRequestIntent where
  user : String
  reserve : String
  amount : String
  deadline : UInt64
deriving DecidableEq, Repr, Inhabited

end LendingPool
