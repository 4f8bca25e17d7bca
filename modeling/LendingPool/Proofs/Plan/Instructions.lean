import LendingPool.Proofs.Call.Gateway
import LendingPool.Proofs.Plan.Loans
/-! Instructions that are read back. Each path has its own way to read call data: the pool and the
gateway read their calls, and adapters read theirs or are told by the pool. -/

namespace LendingPool

open Abi

/-! ## Calls of adapters -/

def CollateralSwap.readDirect? (data : Bytes) : Option CollateralSwap :=
  (directMethod.decode? data).map
    fun (fromAsset, toAsset, amount, minimumReceived, swapAllOffset, swapCallData, aggregator,
        permit, ()) => {
      fromAsset, toAsset, amount, minimumReceived, swapAllOffset, swapCallData, aggregator
      permit := .ofRecord permit }

theorem CollateralSwap.readDirect?_directCall {swap : CollateralSwap}
    (short : swap.swapCallData.length < 2 ^ 255) :
    readDirect? swap.directCall = some swap := by
  rw [readDirect?, (decode?_directCall_iff short).mpr rfl]
  rfl

theorem CollateralSwap.take_directCall (swap : CollateralSwap) :
    swap.directCall.take 4 = directMethod.selector :=
  Method.take_encode rfl swap.directArguments

namespace CollateralRepay

def ofDirectArguments : Arguments directMethod.inputs → Option CollateralRepay
  | (collateralAsset, debtAsset, collateralAmount, debtAmount, rateMode, buyAllOffset, swapData,
      permit, ()) =>
      (Abi.decode? swapTypes swapData).map fun (swapCallData, aggregator, ()) => {
        collateralAsset, debtAsset, collateralAmount, debtAmount, rateMode, buyAllOffset
        swapCallData, aggregator, permit := .ofRecord permit }

def readDirect? (data : Bytes) : Option CollateralRepay :=
  (directMethod.decode? data).bind ofDirectArguments

theorem readDirect?_directCall {repay : CollateralRepay}
    (short : repay.swapCallData.length < 2 ^ 255) :
    readDirect? repay.directCall = some repay := by
  have arguments : ofDirectArguments repay.directArguments = some repay := by
    rw [directArguments, ofDirectArguments, (decode?_swapData_iff short).mpr rfl]
    rfl
  exact Option.bind_eq_some_iff.mpr ⟨_, (decode?_directCall_iff short).mpr rfl, arguments⟩

theorem take_directCall (repay : CollateralRepay) :
    repay.directCall.take 4 = directMethod.selector :=
  Method.take_encode rfl repay.directArguments

end CollateralRepay

/-! ## Paths -/

/-- Reads call data on a path. Packed calls are kept as bytes. -/
def Path.read? (path : Path) (data : Bytes) : Option Instruction :=
  match path with
  | standard => (PoolCall.decode? data).map .pool
  | native => (GatewayCall.decode? data).map .gateway
  | swapAdapter =>
      (Instruction.readLoan? swapAdapter data).or
        ((CollateralSwap.readDirect? data).map (.swap none))
  | repayAdapter =>
      (Instruction.readLoan? repayAdapter data).or
        ((CollateralRepay.readDirect? data).map (.repay none))
  | flashLiquidation => Instruction.readLoan? flashLiquidation data
  | packed => some (.packed data)

namespace Instruction

def swapCallData : Instruction → Bytes
  | swap _ exchange => exchange.swapCallData
  | repay _ payment => payment.swapCallData
  | pool _ | gateway _ | liquidate .. | packed _ => []

/-- A call of the pool has no byte strings, and what is sold with a loan is what is lent. -/
def IsRegular : Instruction → Prop
  | pool call => call.isStatic = true
  | swap (some loan) exchange => SellsLoan loan (swap (some loan) exchange)
  | repay (some loan) payment => SellsLoan loan (repay (some loan) payment)
  | swap none _ | repay none _ | gateway _ | liquidate .. | packed _ => True

theorem readLoan?_of_foreign {path : Path} {data : Bytes}
    (foreign : data.take 4 ∉ PoolCall.forms.map fun form => form.method.selector) :
    readLoan? path data = none := by
  have unread : PoolCall.decode? data = none := decodeForms?_of_notMem foreign
  rw [readLoan?, Loan.read?, unread]
  rfl

theorem length_encode_loan_le (loan : Loan) (params : Bytes) :
    (loan.encode params).length ≤ params.length + 484 :=
  length_singleFlashLoan_le ..

theorem length_data_of_loan? {instruction : Instruction} {loan : Loan}
    (lends : instruction.loan? = some loan)
    (short : instruction.swapCallData.length < 2 ^ 255) : instruction.data.length < 2 ^ 256 := by
  cases instruction with
  | pool | gateway | packed => cases lends
  | swap _ exchange =>
      cases lends
      have whole := length_encode_loan_le loan exchange.flashParams
      have params := exchange.length_flashParams_le
      rw [swapCallData] at short
      rw [data]
      omega
  | repay _ payment =>
      cases lends
      have whole := length_encode_loan_le loan payment.flashParams
      have params := payment.length_flashParams_le
      rw [swapCallData] at short
      rw [data]
      omega
  | liquidate _ liquidation =>
      have whole := length_encode_loan_le loan liquidation.flashParams
      have params := liquidation.length_flashParams
      cases lends
      rw [data]
      omega

theorem read?_of_readLoan? {path : Path} {data : Bytes} {instruction : Instruction}
    (reads : readLoan? path data = some instruction) : path.read? data = some instruction := by
  cases path with
  | swapAdapter | repayAdapter => rw [Path.read?, reads, Option.some_or]
  | flashLiquidation => exact reads
  | standard | packed | native =>
      rcases Option.bind_eq_some_iff.mp reads with ⟨told, -, told⟩
      cases told

theorem read?_data_of_loan? {instruction : Instruction} {loan : Loan}
    (lends : instruction.loan? = some loan) (sells : instruction.SellsLoan loan)
    (short : instruction.swapCallData.length < 2 ^ 255) :
    instruction.path.read? instruction.data = some instruction :=
  read?_of_readLoan? (readLoan?_data lends sells (length_data_of_loan? lends short))

theorem read?_data {instruction : Instruction} (regular : instruction.IsRegular)
    (short : instruction.swapCallData.length < 2 ^ 255) :
    instruction.path.read? instruction.data = some instruction := by
  cases instruction with
  | pool call =>
      rw [path, Path.read?, data, PoolCall.decode?_encode _ (PoolCall.length_encode_lt regular)]
      rfl
  | gateway call =>
      rw [path, Path.read?, data, call.decode?_encode]
      rfl
  | swap loan exchange =>
      cases loan with
      | some loan => exact read?_data_of_loan? rfl regular short
      | none =>
          have foreign : exchange.directCall.take 4 ∉
              PoolCall.forms.map fun form => form.method.selector := by
            rw [exchange.take_directCall]
            decide +kernel
          rw [path, Path.read?, data, readLoan?_of_foreign foreign,
            CollateralSwap.readDirect?_directCall short]
          rfl
  | repay loan payment =>
      cases loan with
      | some loan => exact read?_data_of_loan? rfl regular short
      | none =>
          have foreign : payment.directCall.take 4 ∉
              PoolCall.forms.map fun form => form.method.selector := by
            rw [payment.take_directCall]
            decide +kernel
          rw [path, Path.read?, data, readLoan?_of_foreign foreign,
            CollateralRepay.readDirect?_directCall short]
          rfl
  | liquidate loan liquidation => exact read?_data_of_loan? rfl trivial short
  | packed data => rfl

end Instruction

end LendingPool
