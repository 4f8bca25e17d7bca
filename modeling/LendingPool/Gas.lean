import LendingPool.Fault
/-! Gas limits of the transactions. -/

namespace LendingPool

inductive GasAction
  | approval
  | delegationApproval
  | supply
  | withdraw
  | borrow
  | repay
  | liquidationCall
  | liquidationFlash
  | swapCollateral
  | repayCollateral
  | withdrawEth
  | borrowEth
  | setUsageAsCollateral
  | swapBorrowRateMode
  | setUserEMode
deriving DecidableEq, Repr

namespace GasAction

def all : List GasAction := [
  approval, borrow, borrowEth, delegationApproval, liquidationCall, liquidationFlash, repay,
  repayCollateral, setUsageAsCollateral, setUserEMode, supply, swapBorrowRateMode,
  swapCollateral, withdraw, withdrawEth]

def name : GasAction → String
  | approval => "approval"
  | delegationApproval => "delegation_approval"
  | supply => "supply"
  | withdraw => "withdraw"
  | borrow => "borrow"
  | repay => "repay"
  | liquidationCall => "liquidation_call"
  | liquidationFlash => "liquidation_flash"
  | swapCollateral => "swap_collateral"
  | repayCollateral => "repay_collateral"
  | withdrawEth => "withdraw_eth"
  | borrowEth => "borrow_eth"
  | setUsageAsCollateral => "set_usage_as_collateral"
  | swapBorrowRateMode => "swap_borrow_rate_mode"
  | setUserEMode => "set_user_e_mode"

def ofName? (text : String) : Option GasAction :=
  all.find? fun action => action.name == text

def defaultLimit : GasAction → UInt64
  | approval => 65000
  | delegationApproval => 55000
  | supply | repay => 300000
  | withdraw => 230000
  | borrow | borrowEth => 450000
  | liquidationCall | repayCollateral => 700000
  | liquidationFlash => 995000
  | swapCollateral => 1000000
  | withdrawEth => 640000
  | setUsageAsCollateral | swapBorrowRateMode | setUserEMode => 210000

end GasAction

abbrev GasLimits := GasAction → UInt64

namespace GasLimits

def ofOverrides (overrides : List (GasAction × UInt64)) : GasLimits :=
  fun action => (overrides.lookup action).getD action.defaultLimit

/-- Overrides by name. The first name that is not an action's is the fault. -/
def ofNames (overrides : List (String × UInt64)) : Except SetupFault GasLimits :=
  ofOverrides <$> overrides.mapM fun (name, limit) =>
    match GasAction.ofName? name with
    | some action => .ok (action, limit)
    | none => .error (.unknownGasAction name)

end GasLimits

end LendingPool
