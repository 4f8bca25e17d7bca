import LendingPool.Planner
/-! Plans in two steps. A draft says what the action is and what has to be granted for it, and does
not depend on what has been granted already. Only the second step looks at the allowance. -/

namespace LendingPool

/-! ## Instructions -/

structure Loan where
  receiver : Address
  asset : Address
  amount : Word
  beneficiary : Address
  referralCode : UInt16
deriving DecidableEq, Repr

def Loan.encode (loan : Loan) (params : Bytes) : Bytes :=
  (PoolCall.singleFlashLoan loan.receiver loan.asset loan.amount loan.beneficiary params
    loan.referralCode).encode

/-- What an action tells the contract that it is addressed to. An adapter is told by the pool if
there is a loan. Packed calls are only kept as bytes. -/
inductive Instruction
  | pool (call : PoolCall)
  | gateway (call : GatewayCall)
  | swap (loan : Option Loan) (exchange : CollateralSwap)
  | repay (loan : Option Loan) (payment : CollateralRepay)
  | liquidate (loan : Loan) (liquidation : FlashLiquidation)
  | packed (data : Bytes)
deriving DecidableEq, Repr

def Instruction.data : Instruction → Bytes
  | pool call => call.encode
  | gateway call => call.encode
  | swap (some loan) exchange => loan.encode exchange.flashParams
  | swap none exchange => exchange.directCall
  | repay (some loan) payment => loan.encode payment.flashParams
  | repay none payment => payment.directCall
  | liquidate loan liquidation => loan.encode liquidation.flashParams
  | packed data => data

/-! ## Gates -/

theorem Word.le_max (word : Word) : word ≤ Word.max := by
  have bound := word.isLt
  rw [BitVec.le_def, Word.max, BitVec.toNat_allOnes]
  omega

theorem Amount.requiredAllowance_le_approvalSize (amount : Amount) (policy : ApprovalPolicy) :
    amount.requiredAllowance ≤ amount.approvalSize policy := by
  cases amount with
  | entireBalance =>
      have sufficient : unlimitedAllowance ≤ Word.max := by decide
      cases policy <;> exact sufficient
  | exact units =>
      cases policy with
      | exact => exact BitVec.le_refl _
      | max => exact Word.le_max _

theorem ApprovalPolicy.required_le_approvalSize (policy : ApprovalPolicy) (required : Word) :
    required ≤ policy.approvalSize required := by
  cases policy with
  | exact => exact BitVec.le_refl _
  | max => exact Word.le_max _

/-- What the sender of an action has to have granted, and how much is granted if it is not there.
That always suffices. -/
structure Gate where
  token : Address
  spender : Address
  delegated : Bool
  required : Word
  size : Word
  sufficient : required ≤ size

namespace Gate

def ofAmount (token spender : Address) (amount : Amount) (policy : ApprovalPolicy) : Gate where
  token := token
  spender := spender
  delegated := false
  required := amount.requiredAllowance
  size := amount.approvalSize policy
  sufficient := amount.requiredAllowance_le_approvalSize policy

def ofRequired (token spender : Address) (required : Word) (policy : ApprovalPolicy) : Gate where
  token := token
  spender := spender
  delegated := false
  required := required
  size := policy.approvalSize required
  sufficient := policy.required_le_approvalSize required

def ofDelegation (token spender : Address) (amount : Word) : Gate where
  token := token
  spender := spender
  delegated := true
  required := amount
  size := amount
  sufficient := BitVec.le_refl amount

def present (gate : Gate) (owner : Address) : Planning Word :=
  if gate.delegated then Planning.read (.borrowAllowance gate.token owner gate.spender)
  else Planning.read (.allowance gate.token owner gate.spender)

def grant (gate : Gate) (owner : Address) (limits : GasLimits) : Descriptor :=
  if gate.delegated then
    .ofAction .delegationApproval limits .delegationApproval {
      sender := owner, target := gate.token
      data := (TokenCall.approveDelegation gate.spender gate.size).encode }
  else
    .ofAction .tokenApproval limits .approval {
      sender := owner, target := gate.token
      data := (TokenCall.approve gate.spender gate.size).encode }

def pass (gate : Gate) (owner : Address) (limits : GasLimits) :
    Planning (Option Descriptor) := do
  let present ← gate.present owner
  if present.toNat < gate.required.toNat then return some (gate.grant owner limits)
  else return none

theorem pass_ofAmount (owner token spender : Address) (limits : GasLimits) (amount : Amount)
    (policy : ApprovalPolicy) :
    (ofAmount token spender amount policy).pass owner limits =
      Grant.approvalFor? ⟨owner, token, spender⟩ limits amount policy :=
  rfl

theorem pass_ofRequired (owner token spender : Address) (limits : GasLimits) (required : Word)
    (policy : ApprovalPolicy) :
    (ofRequired token spender required policy).pass owner limits =
      Grant.approval? ⟨owner, token, spender⟩ limits required (policy.approvalSize required) :=
  rfl

theorem pass_ofDelegation (owner token spender : Address) (limits : GasLimits) (amount : Word) :
    (ofDelegation token spender amount).pass owner limits =
      Grant.delegation? ⟨owner, token, spender⟩ limits amount :=
  rfl

end Gate

/-! ## Drafts -/

structure Draft where
  gas : GasAction
  limits : GasLimits
  sender : Address
  target : Address
  instruction : Instruction
  value : Word := 0
  gate : Option Gate := none

namespace Draft

def action (draft : Draft) : Descriptor :=
  .ofAction .poolAction draft.limits draft.gas {
    sender := draft.sender, target := draft.target, data := draft.instruction.data
    value := draft.value }

def finish (draft : Draft) : Planning (List Descriptor) := do
  let approval ← match draft.gate with
    | some gate => gate.pass draft.sender draft.limits
    | none => pure none
  return approval.toList ++ [draft.action]

def finish? : Option Draft → Planning (List Descriptor)
  | some draft => draft.finish
  | none => pure []

end Draft

open Planning (check)

def PackedPool.callData (action : ReserveAction Address Word) (preEncoded : Option Word) :
    Planning Bytes := do
  let reserveId (asset : Address) : Planning UInt16 :=
    if preEncoded.isSome then pure 0 else Planning.read (.reserveId asset)
  let call : PackedCall ← action.renameReserves reserveId
  check (PackedCall.encode call preEncoded)

namespace Planner

variable (planner : Planner)

def draftReserve (order : ReserveOrder) : Planning (Option Draft) := do
  match order.route with
  | .direct =>
      let some pool := planner.contracts.pool | return none
      let action ← order.converted
      return some {
        gas := action.gasAction, limits := planner.limits, sender := order.sender, target := pool
        instruction := .pool (action.toPoolCall order.beneficiary)
        gate := match order.approval, action.amount? with
          | some policy, some (token, amount) => some (.ofAmount token pool amount policy)
          | _, _ => none }
  | .packed preEncoded =>
      let some pool := planner.packedPool | return none
      let action ← order.converted
      let action ← action.convertAmount fun _ amount => pure amount.value
      let data ← PackedPool.callData action preEncoded
      return some {
        gas := action.gasAction, limits := pool.limits, sender := order.sender
        target := pool.address, instruction := .packed data }

def draftNative (sender : Address) (action : NativeAction) : Planning (Option Draft) := do
  let some gateway := planner.gateway | return none
  match action with
  | .supply amount beneficiary code =>
      let amount ← check (amount.toUnits nativeDecimals)
      return some {
        gas := .supply, limits := gateway.limits, sender, target := gateway.address
        instruction := .gateway (.deposit gateway.pool beneficiary code), value := amount.value }
  | .withdraw amount recipient aToken =>
      let amount ← check (amount.toAmount nativeDecimals)
      return some {
        gas := .withdrawEth, limits := gateway.limits, sender, target := gateway.address
        instruction := .gateway (.withdraw gateway.pool amount.value recipient)
        gate := some (.ofAmount aToken gateway.address amount .exact) }
  | .borrow amount mode code debtToken =>
      let amount ← check (amount.toUnits nativeDecimals)
      return some {
        gas := .borrowEth, limits := gateway.limits, sender, target := gateway.address
        instruction := .gateway (.borrow gateway.pool amount.value mode.toWord code)
        gate := some (.ofDelegation debtToken gateway.address amount.value) }
  | .repay amount mode beneficiary =>
      let amount ← check (amount.toUnits nativeDecimals)
      return some {
        gas := .repay, limits := gateway.limits, sender, target := gateway.address
        instruction := .gateway (.repay gateway.pool amount.value mode.toWord beneficiary)
        value := amount.value }

def adapterInstruction (order : AdapterOrder) (adapter : Address) (amount otherAmount : Word)
    (permit : AdapterPermit) : Instruction :=
  let loan :=
    if order.flash then
      some ⟨adapter, order.fromAsset, amount, order.beneficiary, order.referralCode⟩
    else none
  match order.task with
  | .swap => .swap loan {
      fromAsset := order.fromAsset, toAsset := order.toAsset, amount
      minimumReceived := otherAmount, swapAllOffset := order.amountOffset
      swapCallData := order.swapCallData, aggregator := order.aggregator, permit }
  | .repay mode _ => .repay loan {
      collateralAsset := order.fromAsset, debtAsset := order.toAsset
      collateralAmount := amount, debtAmount := otherAmount, rateMode := mode.toWord
      buyAllOffset := order.amountOffset, swapCallData := order.swapCallData
      aggregator := order.aggregator, permit }

def adapterGas : AdapterTask → GasAction
  | .swap => .swapCollateral
  | .repay .. => .repayCollateral

def draftAdapter (order : AdapterOrder) : Planning (Option Draft) := do
  let some adapter := planner.adapter? order.task | return none
  let some target := planner.adapterTarget? order adapter | return none
  let decimals ← Planning.read (.decimals order.fromAsset)
  let otherDecimals ← Planning.read (.decimals order.toAsset)
  let otherAmount ← check (order.otherAmount.toUnits otherDecimals)
  let collateral ← check (planner.collateral order order.flash)
  let amount ← check (collateral.toUnits decimals)
  let required := planner.required amount.value order.flash
  let permit := match order.permit with
    | some permit => .ofSigned required permit
    | none => .unused
  return some {
    gas := adapterGas order.task, limits := planner.limits, sender := order.sender, target
    instruction := adapterInstruction order adapter amount.value otherAmount.value permit
    gate := match order.permit with
      | some _ => none
      | none => some (.ofRequired order.fromAToken adapter required order.approval) }

def draftFlashLiquidation (order : FlashLiquidationOrder) : Planning (Option Draft) := do
  let some adapter := planner.contracts.flashLiquidationAdapter | return none
  let some pool := planner.contracts.pool | return none
  let loan ← check <|
    if order.wholeDebt then order.amount.withSurplus planner.surplusPercent else .ok order.amount
  let decimals ← Planning.read (.decimals order.debt)
  let loan ← check (loan.toUnits decimals)
  return some {
    gas := .liquidationFlash, limits := planner.limits, sender := order.initiator, target := pool
    instruction := .liquidate ⟨adapter, order.debt, loan.value, order.initiator, 0⟩ {
      collateralAsset := order.collateral, borrowedAsset := order.debt, user := order.user
      debtToCover := if order.wholeDebt then Word.max else loan.value
      useEthPath := order.useEthPath } }

def draftSetUserEMode (sender : Address) (category : UInt8) : Planning (Option Draft) := do
  let some pool := planner.contracts.pool | return none
  return some {
    gas := .setUserEMode, limits := planner.limits, sender, target := pool
    instruction := .pool (.setUserEMode category) }

def draft : Order → Planning (Option Draft)
  | .reserve order => planner.draftReserve order
  | .native sender action => planner.draftNative sender action
  | .adapter order => planner.draftAdapter order
  | .flashLiquidation order => planner.draftFlashLiquidation order
  | .setUserEMode sender category => planner.draftSetUserEMode sender category

/-! ## Plans are finished drafts -/

theorem planReserve_eq (order : ReserveOrder) :
    planner.planReserve order = planner.draftReserve order >>= Draft.finish? := by
  rw [planReserve, draftReserve]
  cases order.route with
  | direct =>
      cases planner.contracts.pool with
      | none => simp [Draft.finish?]
      | some pool =>
          simp only [bind_assoc, pure_bind, Draft.finish?, Draft.finish]
          apply bind_congr
          intro action
          cases order.approval with
          | none => simp [Draft.action, Instruction.data]
          | some policy =>
              cases action.amount? with
              | none => simp [Draft.action, Instruction.data]
              | some amount => simp [Draft.action, Gate.pass_ofAmount, Instruction.data]
  | packed preEncoded =>
      cases planner.packedPool with
      | none => simp [Draft.finish?]
      | some pool =>
          simp [Draft.finish?, Draft.finish, Draft.action, PackedPool.plan, PackedPool.callData,
            Instruction.data]

theorem planNative_eq (sender : Address) (action : NativeAction) :
    planner.planNative sender action = planner.draftNative sender action >>= Draft.finish? := by
  rw [planNative, draftNative]
  cases planner.gateway with
  | none => simp [Draft.finish?]
  | some gateway =>
      cases action <;>
        simp [Draft.finish?, Draft.finish, Draft.action, Instruction.data, Gate.pass_ofAmount,
          Gate.pass_ofDelegation]

theorem data_adapterInstruction (order : AdapterOrder) (adapter : Address)
    (amount otherAmount : Word) (permit : AdapterPermit) :
    (adapterInstruction order adapter amount otherAmount permit).data =
      if order.flash then
        (PoolCall.singleFlashLoan adapter order.fromAsset amount order.beneficiary
          (instructions order amount otherAmount permit).1 order.referralCode).encode
      else (instructions order amount otherAmount permit).2.1 := by
  rw [adapterInstruction, instructions]
  cases order.task <;> cases order.flash <;> rfl

theorem gas_instructions (order : AdapterOrder) (amount otherAmount : Word)
    (permit : AdapterPermit) :
    (instructions order amount otherAmount permit).2.2 = adapterGas order.task := by
  rw [instructions]
  cases order.task <;> rfl

theorem planAdapter_eq (order : AdapterOrder) :
    planner.planAdapter order = planner.draftAdapter order >>= Draft.finish? := by
  rw [planAdapter, draftAdapter]
  cases planner.adapter? order.task with
  | none => simp [Draft.finish?]
  | some adapter =>
      dsimp only
      cases planner.adapterTarget? order adapter with
      | none => simp [Draft.finish?]
      | some target =>
          simp only [bind_assoc, pure_bind, Draft.finish?, Draft.finish, Draft.action,
            data_adapterInstruction, gas_instructions]
          refine bind_congr fun decimals => bind_congr fun otherDecimals =>
            bind_congr fun otherAmount => bind_congr fun collateral => bind_congr fun amount => ?_
          rw [authorize]
          cases order.permit with
          | none => simp [Gate.pass_ofRequired]
          | some permit => simp

theorem planFlashLiquidation_eq (order : FlashLiquidationOrder) :
    planner.planFlashLiquidation order =
      planner.draftFlashLiquidation order >>= Draft.finish? := by
  rw [planFlashLiquidation, draftFlashLiquidation]
  cases planner.contracts.flashLiquidationAdapter with
  | none => simp [Draft.finish?]
  | some adapter =>
      cases planner.contracts.pool with
      | none => simp [Draft.finish?]
      | some pool => simp [Draft.finish?, Draft.finish, Draft.action, Instruction.data, Loan.encode]

theorem planSetUserEMode_eq (sender : Address) (category : UInt8) :
    planner.planSetUserEMode sender category =
      planner.draftSetUserEMode sender category >>= Draft.finish? := by
  rw [planSetUserEMode, draftSetUserEMode]
  cases planner.contracts.pool with
  | none => simp [Draft.finish?]
  | some pool => simp [Draft.finish?, Draft.finish, Draft.action, Instruction.data]

theorem plan_eq (order : Order) :
    planner.plan order = planner.draft order >>= Draft.finish? := by
  cases order with
  | reserve order => exact planner.planReserve_eq order
  | native sender action => exact planner.planNative_eq sender action
  | adapter order => exact planner.planAdapter_eq order
  | flashLiquidation order => exact planner.planFlashLiquidation_eq order
  | setUserEMode sender category => exact planner.planSetUserEMode_eq sender category

end Planner

end LendingPool
