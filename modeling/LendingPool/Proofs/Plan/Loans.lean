import LendingPool.Proofs.Call.Adapter
import LendingPool.Proofs.Plan.Draft
import LendingPool.Proofs.Plan.Outline
/-! Flash loans that are read back. The pool reads who is lent what, and the adapter reads the rest
from the parameters that the pool hands on to it. -/

namespace LendingPool

/-! ## What adapters read -/

def AdapterPermit.ofRecord : AdapterParameter.permitRecord.Value → AdapterPermit
  | (amount, deadline, v, r, s, ()) => ⟨amount, deadline, ⟨v⟩, r, s⟩

def CollateralSwap.read? (loan : Loan) (params : Bytes) : Option CollateralSwap :=
  (Abi.decode? flashTypes params).map
    fun (toAsset, minimumReceived, swapAllOffset, swapCallData, aggregator, permit, ()) => {
      fromAsset := loan.asset, toAsset, amount := loan.amount, minimumReceived, swapAllOffset
      swapCallData, aggregator, permit := .ofRecord permit }

theorem CollateralSwap.read?_flashParams {swap : CollateralSwap} {loan : Loan}
    (asset : swap.fromAsset = loan.asset) (amount : swap.amount = loan.amount)
    (short : swap.flashParams.length < 2 ^ 256) : read? loan swap.flashParams = some swap := by
  rw [read?, flashParams, Abi.decode?_encode rfl _ short, ← asset, ← amount]
  rfl

namespace CollateralRepay

def ofArguments (loan : Loan) : Abi.Arguments flashTypes → Option CollateralRepay
  | (debtAsset, debtAmount, buyAllOffset, rateMode, swapData, permit, ()) =>
      (Abi.decode? swapTypes swapData).map fun (swapCallData, aggregator, ()) => {
        collateralAsset := loan.asset, debtAsset, collateralAmount := loan.amount, debtAmount
        rateMode, buyAllOffset, swapCallData, aggregator, permit := .ofRecord permit }

def read? (loan : Loan) (params : Bytes) : Option CollateralRepay :=
  (Abi.decode? flashTypes params).bind (ofArguments loan)

theorem length_swapData_le (repay : CollateralRepay) :
    repay.swapData.length ≤ repay.flashParams.length := by
  rw [flashParams]
  exact Abi.length_le_encode (List.mem_of_getElem? (i := 4) rfl)

theorem read?_flashParams {repay : CollateralRepay} {loan : Loan}
    (asset : repay.collateralAsset = loan.asset) (amount : repay.collateralAmount = loan.amount)
    (short : repay.flashParams.length < 2 ^ 256) : read? loan repay.flashParams = some repay := by
  have swapData : Abi.decode? swapTypes repay.swapData =
      some (repay.swapCallData, repay.aggregator, ()) :=
    Abi.decode?_encode rfl _ (Nat.lt_of_le_of_lt repay.length_swapData_le short)
  have arguments : ofArguments loan (repay.debtAsset, repay.debtAmount, repay.buyAllOffset,
      repay.rateMode, repay.swapData, repay.permit.toRecord, ()) = some repay := by
    rw [ofArguments, swapData, ← asset, ← amount]
    rfl
  exact Option.bind_eq_some_iff.mpr ⟨_, Abi.decode?_encode rfl _ short, arguments⟩

end CollateralRepay

def FlashLiquidation.read? (params : Bytes) : Option FlashLiquidation :=
  (Abi.decode? flashTypes params).map
    fun (collateralAsset, borrowedAsset, user, debtToCover, useEthPath, ()) =>
      { collateralAsset, borrowedAsset, user, debtToCover, useEthPath }

theorem FlashLiquidation.read?_flashParams (liquidation : FlashLiquidation)
    (short : liquidation.flashParams.length < 2 ^ 256) :
    read? liquidation.flashParams = some liquidation := by
  rw [read?, flashParams, Abi.decode?_encode rfl _ short]
  rfl

/-! ## What the pool reads -/

/-- A loan of one asset that opens no debt, and what its receiver is told. -/
def Loan.read? (data : Bytes) : Option (Loan × Bytes) :=
  match PoolCall.decode? data with
  | some (.flashLoan receiver [asset] [amount] [mode] beneficiary params referralCode) =>
      if mode = 0 then some (⟨receiver, asset, amount, beneficiary, referralCode⟩, params) else none
  | _ => none

theorem Loan.read?_encode (loan : Loan) (params : Bytes)
    (short : (loan.encode params).length < 2 ^ 256) :
    read? (loan.encode params) = some (loan, params) := by
  rw [read?, encode, PoolCall.decode?_encode _ short]
  rfl

theorem Loan.length_le_encode (loan : Loan) (params : Bytes) :
    params.length ≤ (loan.encode params).length := by
  rw [encode, PoolCall.encode, Abi.Method.encode, List.length_append]
  exact Nat.le_trans (Abi.length_le_encode (List.mem_of_getElem? (i := 5) rfl))
    (Nat.le_add_left ..)

namespace Instruction

def path : Instruction → Path
  | pool _ => .standard
  | gateway _ => .native
  | swap .. => .swapAdapter
  | repay .. => .repayAdapter
  | liquidate .. => .flashLiquidation
  | packed _ => .packed

def readLoan? (path : Path) (data : Bytes) : Option Instruction :=
  (Loan.read? data).bind fun (loan, params) =>
    match path with
    | .swapAdapter => (CollateralSwap.read? loan params).map (.swap loan)
    | .repayAdapter => (CollateralRepay.read? loan params).map (.repay loan)
    | .flashLiquidation => (FlashLiquidation.read? params).map (.liquidate loan)
    | .standard | .packed | .native => none

def loan? : Instruction → Option Loan
  | swap loan _ | repay loan _ => loan
  | liquidate loan _ => some loan
  | pool _ | gateway _ | packed _ => none

/-- What is sold, if anything is, is what is lent. -/
def SellsLoan (loan : Loan) : Instruction → Prop
  | swap _ exchange => exchange.fromAsset = loan.asset ∧ exchange.amount = loan.amount
  | repay _ payment => payment.collateralAsset = loan.asset ∧ payment.collateralAmount = loan.amount
  | liquidate .. | pool _ | gateway _ | packed _ => True

theorem readLoan?_data {instruction : Instruction} {loan : Loan}
    (lends : instruction.loan? = some loan) (sells : instruction.SellsLoan loan)
    (short : instruction.data.length < 2 ^ 256) :
    readLoan? instruction.path instruction.data = some instruction := by
  cases instruction with
  | pool | gateway | packed => cases lends
  | swap _ exchange =>
      cases lends
      have params := Nat.lt_of_le_of_lt (loan.length_le_encode exchange.flashParams) short
      exact Option.bind_eq_some_iff.mpr ⟨_, loan.read?_encode _ short,
        Option.map_eq_some_iff.mpr
          ⟨_, CollateralSwap.read?_flashParams sells.1 sells.2 params, rfl⟩⟩
  | repay _ payment =>
      cases lends
      have params := Nat.lt_of_le_of_lt (loan.length_le_encode payment.flashParams) short
      exact Option.bind_eq_some_iff.mpr ⟨_, loan.read?_encode _ short,
        Option.map_eq_some_iff.mpr
          ⟨_, CollateralRepay.read?_flashParams sells.1 sells.2 params, rfl⟩⟩
  | liquidate _ liquidation =>
      cases lends
      have params := Nat.lt_of_le_of_lt (loan.length_le_encode liquidation.flashParams) short
      exact Option.bind_eq_some_iff.mpr ⟨_, loan.read?_encode _ short,
        Option.map_eq_some_iff.mpr ⟨_, liquidation.read?_flashParams params, rfl⟩⟩

end Instruction

end LendingPool
