import LendingPool.Amount.Surplus
import LendingPool.Approval
import LendingPool.Call.Adapter
import LendingPool.Call.Gateway
import LendingPool.Call.Pool
import LendingPool.Order
import LendingPool.Permit.TypedData
/-! Plans: from an order to the transactions that carry it out, in the order in which they have to
be sent.

An order that needs a contract which is not there has no plan. That is not a fault. -/

namespace LendingPool

structure Contracts where
  pool : Option Address := none
  wrappedTokenGateway : Option Address := none
  l2Pool : Option Address := none
  swapCollateralAdapter : Option Address := none
  repayWithCollateralAdapter : Option Address := none
  flashLiquidationAdapter : Option Address := none
  ensRegistry : Option Address := none
deriving DecidableEq, Repr

structure Gateway where
  address : Address
  pool : Address
  limits : GasLimits

structure PackedPool where
  address : Address
  limits : GasLimits

structure Planner where
  contracts : Contracts
  surplusPercent : Decimal96
  flashPremium : UInt32
  limits : GasLimits
  resolver : Resolver
  gateway : Option Gateway
  packedPool : Option PackedPool

open Planning (check)

/-! ## Amounts -/

def nativeDecimals : UInt8 := 18

def convertAmount (token : Address) (request : AmountRequest) : Planning Amount := do
  match request with
  | .entireBalance => return .entireBalance
  | .value amount =>
      let decimals ← Planning.read (.decimals token)
      return .exact (← check (amount.toUnits decimals))

def checkDeclared (token : Address) (amount : Amount) (declared : Option String) :
    Planning Unit := do
  if let some raw := declared then
    let request ← check (AmountRequest.parse raw .positiveOrEntire)
    let declared ← convertAmount token request
    if declared ≠ amount then throw (.input (.invalidValue "permit.value" (.permitMismatch raw)))

/-! ## Actions on reserves -/

namespace ReserveAction

def gasAction {Reserve Quantity : Type} : ReserveAction Reserve Quantity → GasAction
  | supply .. | supplyWithPermit .. => .supply
  | withdraw .. => .withdraw
  | borrow .. => .borrow
  | repay .. | repayWithPermit .. => .repay
  | swapBorrowRateMode .. => .swapBorrowRateMode
  | setUsageAsCollateral .. => .setUsageAsCollateral
  | liquidationCall .. => .liquidationCall

def toPoolCall (beneficiary : Address) : ReserveAction Address Amount → PoolCall
  | supply asset amount code => .supply asset amount.value beneficiary code
  | supplyWithPermit asset amount code permit =>
      .supplyWithPermit asset amount.value beneficiary code
        (Word.ofNat permit.deadline.toNat) permit.signature
  | withdraw asset amount => .withdraw asset amount.value beneficiary
  | borrow asset amount mode code =>
      .borrow asset amount.value (Word.ofNat mode.toNat) code beneficiary
  | repay asset amount mode => .repay asset amount.value (Word.ofNat mode.toNat) beneficiary
  | repayWithPermit asset amount mode permit =>
      .repayWithPermit asset amount.value (Word.ofNat mode.toNat) beneficiary
        (Word.ofNat permit.deadline.toNat) permit.signature
  | swapBorrowRateMode asset mode => .swapBorrowRateMode asset (Word.ofNat mode.toNat)
  | setUsageAsCollateral asset use => .setUsageAsCollateral asset use
  | liquidationCall collateral debt user amount receiveAToken =>
      .liquidationCall collateral debt user amount.value receiveAToken

end ReserveAction

def ReserveOrder.converted (order : ReserveOrder) : Planning (ReserveAction Address Amount) := do
  let action ← order.action.convertAmount convertAmount
  if let some (token, amount) := action.amount? then
    checkDeclared token amount order.declaredAmount
  return action

/-- Carries out an action with a packed call. With a word that is packed already, the reserves'
numbers are not asked for. -/
def PackedPool.plan (pool : PackedPool) (sender : Address) (action : ReserveAction Address Word)
    (preEncoded : Option Word) : Planning (List Descriptor) := do
  let reserveId (asset : Address) : Planning UInt16 :=
    if preEncoded.isSome then pure 0 else Planning.read (.reserveId asset)
  let call : PackedCall ← action.renameReserves reserveId
  let data ← check (PackedCall.encode call preEncoded)
  return [.ofAction .poolAction pool.limits action.gasAction {
    sender, target := pool.address, data }]

namespace Planner

variable (planner : Planner)

def planReserve (order : ReserveOrder) : Planning (List Descriptor) := do
  match order.route with
  | .direct =>
      let some pool := planner.contracts.pool | return []
      let action ← order.converted
      let approval ← match order.approval, action.amount? with
        | some policy, some (token, amount) =>
            Grant.approvalFor? ⟨order.sender, token, pool⟩ planner.limits amount policy
        | _, _ => pure none
      return approval.toList ++ [.ofAction .poolAction planner.limits action.gasAction {
        sender := order.sender, target := pool
        data := (action.toPoolCall order.beneficiary).encode }]
  | .packed preEncoded =>
      let some pool := planner.packedPool | return []
      let action ← order.converted
      let action ← action.convertAmount fun _ amount => pure amount.value
      pool.plan order.sender action preEncoded

/-! ## Native currency -/

def planNative (sender : Address) (action : NativeAction) : Planning (List Descriptor) := do
  let some gateway := planner.gateway | return []
  let descriptor (gas : GasAction) (call : GatewayCall) (value : Word) : Descriptor :=
    .ofAction .poolAction gateway.limits gas {
      sender, target := gateway.address, data := call.encode, value }
  match action with
  | .supply amount beneficiary code =>
      let amount ← check (amount.toUnits nativeDecimals)
      return [descriptor .supply (.deposit gateway.pool beneficiary code) amount.value]
  | .withdraw amount recipient aToken =>
      let amount ← check (amount.toAmount nativeDecimals)
      let approval ←
        Grant.approvalFor? ⟨sender, aToken, gateway.address⟩ gateway.limits amount .exact
      return approval.toList ++
        [descriptor .withdrawEth (.withdraw gateway.pool amount.value recipient) 0]
  | .borrow amount mode code debtToken =>
      let amount ← check (amount.toUnits nativeDecimals)
      let delegation ←
        Grant.delegation? ⟨sender, debtToken, gateway.address⟩ gateway.limits amount.value
      return delegation.toList ++
        [descriptor .borrowEth (.borrow gateway.pool amount.value mode.toWord code) 0]
  | .repay amount mode beneficiary =>
      let amount ← check (amount.toUnits nativeDecimals)
      return [descriptor .repay
        (.repay gateway.pool amount.value mode.toWord beneficiary) amount.value]

/-! ## Adapters -/

def adapter? : AdapterTask → Option Address
  | .swap => planner.contracts.swapCollateralAdapter
  | .repay .. => planner.contracts.repayWithCollateralAdapter

/-- The collateral to sell. What is lent by a flash loan is enlarged if it is not known exactly
how much will be needed. -/
def collateral (order : AdapterOrder) (flash : Bool) : Except InputFault DecimalAmount :=
  match flash, order.task with
  | true, .swap | true, .repay _ true => order.amount.withSurplus planner.surplusPercent
  | _, _ => .ok order.amount

/-- The interest-bearing tokens that the adapter takes. A flash loan costs a premium. -/
def required (amount : Word) (flash : Bool) : Word :=
  if flash then amount.withPremium planner.flashPremium else amount

/-- Lets the adapter take tokens: by the permit if there is one, else by an approval if the
allowance does not suffice. -/
def authorize (order : AdapterOrder) (adapter : Address) (required : Word) :
    Planning (Option Descriptor × AdapterPermit) := do
  match order.permit with
  | some permit => return (none, .ofSigned required permit)
  | none =>
      let approval ← Grant.approval? ⟨order.sender, order.fromAToken, adapter⟩ planner.limits
        required (order.approval.approvalSize required)
      return (approval, .unused)

def instructions (order : AdapterOrder) (amount otherAmount : Word) (permit : AdapterPermit) :
    Bytes × Bytes × GasAction :=
  match order.task with
  | .swap =>
      let swap : CollateralSwap := {
        fromAsset := order.fromAsset, toAsset := order.toAsset, amount
        minimumReceived := otherAmount, swapAllOffset := order.amountOffset
        swapCallData := order.swapCallData, aggregator := order.aggregator, permit }
      (swap.flashParams, swap.directCall, .swapCollateral)
  | .repay mode _ =>
      let repay : CollateralRepay := {
        collateralAsset := order.fromAsset, debtAsset := order.toAsset
        collateralAmount := amount, debtAmount := otherAmount, rateMode := mode.toWord
        buyAllOffset := order.amountOffset, swapCallData := order.swapCallData
        aggregator := order.aggregator, permit }
      (repay.flashParams, repay.directCall, .repayCollateral)

/-- The contract to call: the pool for a flash loan, else the adapter itself. -/
def adapterTarget? (order : AdapterOrder) (adapter : Address) : Option Address :=
  if order.flash then planner.contracts.pool else some adapter

def planAdapter (order : AdapterOrder) : Planning (List Descriptor) := do
  let some adapter := planner.adapter? order.task | return []
  let some target := planner.adapterTarget? order adapter | return []
  let decimals ← Planning.read (.decimals order.fromAsset)
  let otherDecimals ← Planning.read (.decimals order.toAsset)
  let otherAmount ← check (order.otherAmount.toUnits otherDecimals)
  let collateral ← check (planner.collateral order order.flash)
  let amount ← check (collateral.toUnits decimals)
  let required := planner.required amount.value order.flash
  let (approval, permit) ← planner.authorize order adapter required
  let (flashParams, directCall, gas) := instructions order amount.value otherAmount.value permit
  let data :=
    if order.flash then
      (PoolCall.singleFlashLoan adapter order.fromAsset amount.value order.beneficiary flashParams
        order.referralCode).encode
    else directCall
  return approval.toList ++
    [.ofAction .poolAction planner.limits gas { sender := order.sender, target, data }]

def planFlashLiquidation (order : FlashLiquidationOrder) : Planning (List Descriptor) := do
  let some adapter := planner.contracts.flashLiquidationAdapter | return []
  let some pool := planner.contracts.pool | return []
  let loan ← check <|
    if order.wholeDebt then order.amount.withSurplus planner.surplusPercent else .ok order.amount
  let decimals ← Planning.read (.decimals order.debt)
  let loan ← check (loan.toUnits decimals)
  let liquidation : FlashLiquidation := {
    collateralAsset := order.collateral, borrowedAsset := order.debt, user := order.user
    debtToCover := if order.wholeDebt then Word.max else loan.value
    useEthPath := order.useEthPath }
  let call := PoolCall.singleFlashLoan adapter order.debt loan.value order.initiator
    liquidation.flashParams 0
  return [.ofAction .poolAction planner.limits .liquidationFlash {
    sender := order.initiator, target := pool, data := call.encode }]

/-! ## All orders -/

def planSetUserEMode (sender : Address) (category : UInt8) : Planning (List Descriptor) := do
  let some pool := planner.contracts.pool | return []
  return [.ofAction .poolAction planner.limits .setUserEMode {
    sender, target := pool, data := (PoolCall.setUserEMode category).encode }]

def plan : Order → Planning (List Descriptor)
  | .reserve order => planner.planReserve order
  | .native sender action => planner.planNative sender action
  | .adapter order => planner.planAdapter order
  | .flashLiquidation order => planner.planFlashLiquidation order
  | .setUserEMode sender category => planner.planSetUserEMode sender category

def execute (intent : Intent) : Planning (List Descriptor) := do
  planner.plan (← intent.order planner.resolver)

end Planner

/-! ## Permits to sign -/

/-- What comes of asking for a permit: a message to sign, or nothing because the token has no
permits, or nothing because there is no pool. -/
inductive PermitRequest
  | sign (message : PermitMessage)
  | notApplicable
  | unavailable
deriving DecidableEq, Repr

def PermitRequest.wireText : PermitRequest → String
  | sign message => message.typedData.toText
  | notApplicable => ""
  | unavailable => "[]"

structure PermitOrder where
  user : Address
  reserve : Address
  amount : AmountRequest
  deadline : UInt64
deriving DecidableEq, Repr

def PermitRequestIntent.order (resolver : Resolver) (intent : PermitRequestIntent) :
    Planning PermitOrder := do
  let user ← resolver.validate intent.user
  let reserve ← resolver.validate intent.reserve
  let amount ← check (AmountRequest.parse intent.amount .positiveOrEntire)
  check (Order.rejectNative "reserve" reserve)
  return { user, reserve, amount, deadline := intent.deadline }

namespace Planner

def requestPermit (planner : Planner) (intent : PermitRequestIntent) :
    Planning PermitRequest := do
  let order ← intent.order planner.resolver
  let some pool := planner.contracts.pool | return .unavailable
  let amount ← convertAmount order.reserve order.amount
  let nonce ← Planning.read (.nonce order.reserve order.user)
  let some nonce := nonce | return .notApplicable
  let tokenName ← Planning.read (.name order.reserve)
  let chainId ← Planning.read .chainId
  return .sign {
    token := order.reserve, tokenName, chainId, owner := order.user, spender := pool
    value := amount.value, nonce, deadline := order.deadline }

end Planner

end LendingPool
