import LendingPool.Action
import LendingPool.Amount.Units
import LendingPool.Call.Aggregator
import LendingPool.Call.Packed
import LendingPool.Chain.Resolution
import LendingPool.Intent
/-! Orders: intents that have been checked. Addresses are known, amounts and signatures are
understood, and the combination makes sense. Making an order asks the chain for names and for
nothing else, and does not depend on which contracts there are. -/

namespace LendingPool

/-- How an action on a reserve reaches the pool. Packed calls may carry a word that the caller
has packed already. -/
inductive Route
  | direct
  | packed (preEncoded : Option Word)
deriving DecidableEq, Repr

/-- An action on reserves. With an approval policy, the direct route makes sure of the pool's
allowance first. A declared amount has to be the one that the action is for. -/
structure ReserveOrder where
  sender : Address
  beneficiary : Address
  action : ReserveAction Address AmountRequest
  approval : Option ApprovalPolicy := none
  declaredAmount : Option String := none
  route : Route
deriving DecidableEq, Repr

inductive NativeAction
  | supply (amount : DecimalAmount) (beneficiary : Address) (referralCode : UInt16)
  | withdraw (amount : AmountRequest) (recipient aToken : Address)
  | borrow (amount : DecimalAmount) (rateMode : RateMode) (referralCode : UInt16)
      (debtToken : Address)
  | repay (amount : DecimalAmount) (rateMode : RateMode) (beneficiary : Address)
deriving DecidableEq, Repr

inductive AdapterTask
  | swap
  | repay (rateMode : RateMode) (wholeDebt : Bool)
deriving DecidableEq, Repr

/-- Collateral to sell for another asset. The other amount is the least to receive for a swap, and
the debt to pay for a repayment. -/
structure AdapterOrder where
  task : AdapterTask
  sender : Address
  beneficiary : Address
  fromAsset : Address
  fromAToken : Address
  toAsset : Address
  amount : DecimalAmount
  otherAmount : DecimalAmount
  aggregator : Address
  swapCallData : Bytes
  amountOffset : Word
  flash : Bool
  referralCode : UInt16
  permit : Option SignedPermit
  approval : ApprovalPolicy
deriving DecidableEq, Repr

structure FlashLiquidationOrder where
  initiator : Address
  user : Address
  collateral : Address
  debt : Address
  amount : DecimalAmount
  wholeDebt : Bool
  useEthPath : Bool
deriving DecidableEq, Repr

inductive Order
  | reserve (order : ReserveOrder)
  | native (sender : Address) (action : NativeAction)
  | adapter (order : AdapterOrder)
  | flashLiquidation (order : FlashLiquidationOrder)
  | setUserEMode (sender : Address) (category : UInt8)
deriving DecidableEq, Repr

/-! ## Checks -/

namespace Order

def rejectNative (field : String) (asset : Address) : Except InputFault Unit :=
  if asset = nativeCurrency then .error (.invalidValue field .nativeUnsupported) else .ok ()

def requireSelf (sender beneficiary : Address) : Except InputFault Unit :=
  if sender = beneficiary then .ok ()
  else .error (.invalidValue "on_behalf_of" (.notSender beneficiary sender))

def preEncoded (raw : Option String) : Except InputFault (Option Word) :=
  raw.mapM PackedCall.parsePreEncoded

def callData (field raw : String) : Except InputFault Bytes :=
  match Bytes.ofHex? raw with
  | some bytes => .ok bytes
  | none => .error (.invalidValue field (.notHex raw))

def signedPermit (permit : PermitIntent) : Except InputFault SignedPermit :=
  return ⟨permit.deadline, ← Signature.parse permit.signature⟩

def nativeField (name : String) (value : Option String) : Except InputFault String :=
  match value with
  | some value => .ok value
  | none => .error (.missingField name)

end Order

/-! ## Orders for actions on reserves -/

open Planning (check)
open LendingPool.Order

variable (resolver : Resolver)

/-- Routes an action on a reserve. The packed route acts for the sender alone. -/
def ReserveOrder.routed (order : ReserveOrder) (packed : Bool) (preEncoded : Option Word) :
    Except InputFault Order := do
  if packed then
    requireSelf order.sender order.beneficiary
    return .reserve { order with route := .packed preEncoded }
  else return .reserve order

def SupplyIntent.order (intent : SupplyIntent) : Planning Order := do
  let user ← resolver.validate intent.user
  let reserve ← resolver.validate intent.reserve
  let beneficiary ← resolver.validateOr intent.onBehalfOf user
  let amount ← check (DecimalAmount.parse intent.amount)
  let preEncoded ← check (preEncoded intent.encodedParams)
  if reserve = nativeCurrency then
    return .native user (.supply amount beneficiary intent.referralCode)
  let order : ReserveOrder := {
    sender := user, beneficiary, route := .direct, approval := intent.approval
    action := .supply reserve (.value amount) intent.referralCode }
  check (order.routed intent.useOptimizedPath preEncoded)

def SupplyWithPermitIntent.order (intent : SupplyWithPermitIntent) : Planning Order := do
  let user ← resolver.validate intent.user
  let reserve ← resolver.validate intent.reserve
  let beneficiary ← resolver.validateOr intent.onBehalfOf user
  let amount ← check (DecimalAmount.parse intent.amount)
  let permit ← check (signedPermit intent.permit)
  let preEncoded ← check (preEncoded intent.encodedParams)
  check (rejectNative "reserve" reserve)
  let order : ReserveOrder := {
    sender := user, beneficiary, route := .direct, declaredAmount := intent.permit.value
    action := .supplyWithPermit reserve (.value amount) intent.referralCode permit }
  check (order.routed intent.useOptimizedPath preEncoded)

def WithdrawIntent.order (intent : WithdrawIntent) : Planning Order := do
  let user ← resolver.validate intent.user
  let reserve ← resolver.validate intent.reserve
  let recipient ← resolver.validateOr intent.onBehalfOf user
  let amount ← check (AmountRequest.parse intent.amount .positiveOrEntire)
  let preEncoded ← check (preEncoded intent.encodedParams)
  if reserve = nativeCurrency then
    let aToken ← resolver.validate (← check (nativeField "a_token" intent.aToken))
    return .native user (.withdraw amount recipient aToken)
  let order : ReserveOrder := {
    sender := user, beneficiary := recipient, route := .direct
    action := .withdraw reserve amount }
  check (order.routed intent.useOptimizedPath preEncoded)

def BorrowIntent.order (intent : BorrowIntent) : Planning Order := do
  let user ← resolver.validate intent.user
  let reserve ← resolver.validate intent.reserve
  let beneficiary ← resolver.validateOr intent.onBehalfOf user
  let amount ← check (DecimalAmount.parse intent.amount)
  let mode ← check (intent.rateMode.requireDebt "interest_rate_mode")
  let preEncoded ← check (preEncoded intent.encodedParams)
  if reserve = nativeCurrency then
    let debtToken ← resolver.validate (← check (nativeField "debt_token" intent.debtToken))
    check (requireSelf user beneficiary)
    return .native user (.borrow amount mode intent.referralCode debtToken)
  let order : ReserveOrder := {
    sender := user, beneficiary, route := .direct
    action := .borrow reserve (.value amount) mode.tag intent.referralCode }
  check (order.routed intent.useOptimizedPath preEncoded)

def RepayIntent.order (intent : RepayIntent) : Planning Order := do
  let user ← resolver.validate intent.user
  let reserve ← resolver.validate intent.reserve
  let beneficiary ← resolver.validateOr intent.onBehalfOf user
  let amount ← check (AmountRequest.parse intent.amount .positiveOrEntire)
  let mode ← check (intent.rateMode.requireDebt "interest_rate_mode")
  let preEncoded ← check (preEncoded intent.encodedParams)
  if reserve = nativeCurrency then
    match amount with
    | .entireBalance => check (.error (.invalidValue "amount" .nativeNeedsExactAmount))
    | .value amount => return .native user (.repay amount mode beneficiary)
  else
    let order : ReserveOrder := {
      sender := user, beneficiary, route := .direct, approval := intent.approval
      action := .repay reserve amount mode.tag }
    check (order.routed intent.useOptimizedPath preEncoded)

def RepayWithPermitIntent.order (intent : RepayWithPermitIntent) : Planning Order := do
  let user ← resolver.validate intent.user
  let reserve ← resolver.validate intent.reserve
  let beneficiary ← resolver.validateOr intent.onBehalfOf user
  let amount ← check (AmountRequest.parse intent.amount .positiveOrEntire)
  let mode ← check (intent.rateMode.requireDebt "interest_rate_mode")
  let permit ← check (signedPermit intent.permit)
  let preEncoded ← check (preEncoded intent.encodedParams)
  check (rejectNative "reserve" reserve)
  let order : ReserveOrder := {
    sender := user, beneficiary, route := .direct, declaredAmount := intent.permit.value
    action := .repayWithPermit reserve amount mode.tag permit }
  check (order.routed intent.useOptimizedPath preEncoded)

def LiquidationCallIntent.order (intent : LiquidationCallIntent) : Planning Order := do
  let liquidator ← resolver.validate intent.liquidator
  let user ← resolver.validate intent.liquidatedUser
  let debt ← resolver.validate intent.debtReserve
  let collateral ← resolver.validate intent.collateralReserve
  let amount ← check (AmountRequest.parse intent.debtToCover .positiveOrEntire)
  check (rejectNative "debt_reserve" debt)
  check (rejectNative "collateral_reserve" collateral)
  let order : ReserveOrder := {
    sender := liquidator, beneficiary := liquidator, route := .direct, approval := intent.approval
    action := .liquidationCall collateral debt user amount intent.getATokens }
  check (order.routed intent.useOptimizedPath none)

def SetUsageAsCollateralIntent.order (intent : SetUsageAsCollateralIntent) : Planning Order := do
  let user ← resolver.validate intent.user
  let reserve ← resolver.validate intent.reserve
  check (rejectNative "reserve" reserve)
  let order : ReserveOrder := {
    sender := user, beneficiary := user, route := .direct
    action := .setUsageAsCollateral reserve intent.useAsCollateral }
  check (order.routed intent.useOptimizedPath none)

def SwapBorrowRateModeIntent.order (intent : SwapBorrowRateModeIntent) : Planning Order := do
  let user ← resolver.validate intent.user
  let reserve ← resolver.validate intent.reserve
  let mode ← check (intent.rateMode.requireDebt "interest_rate_mode")
  check (rejectNative "reserve" reserve)
  let order : ReserveOrder := {
    sender := user, beneficiary := user, route := .direct
    action := .swapBorrowRateMode reserve mode.tag }
  check (order.routed intent.useOptimizedPath none)

def SetUserEModeIntent.order (intent : SetUserEModeIntent) : Planning Order := do
  let user ← resolver.validate intent.user
  return .setUserEMode user intent.category

/-! ## Orders for adapters -/

def SwapCollateralIntent.order (intent : SwapCollateralIntent) : Planning Order := do
  let user ← resolver.validate intent.user
  let fromAsset ← resolver.validate intent.fromAsset
  let fromAToken ← resolver.validate intent.fromAToken
  let toAsset ← resolver.validate intent.toAsset
  let aggregator ← resolver.validate intent.aggregator
  let beneficiary ← resolver.validateOr intent.onBehalfOf user
  let amount ← check (DecimalAmount.parse intent.fromAmount)
  let minimum ← check (DecimalAmount.parse intent.minToAmount)
  let swapCallData ← check (callData "swap_calldata" intent.swapCallData)
  let offset ← check (Aggregator.swapAllOffset swapCallData intent.swapAll)
  let permit ← check (intent.permit.mapM signedPermit)
  check (rejectNative "from_asset" fromAsset)
  check (rejectNative "to_asset" toAsset)
  unless intent.flash do check (requireSelf user beneficiary)
  return .adapter {
    task := .swap, sender := user, beneficiary, fromAsset, fromAToken, toAsset, amount
    otherAmount := minimum, aggregator, swapCallData, amountOffset := offset
    flash := intent.flash, referralCode := intent.referralCode, permit
    approval := intent.approval }

def RepayWithCollateralIntent.order (intent : RepayWithCollateralIntent) : Planning Order := do
  let user ← resolver.validate intent.user
  let fromAsset ← resolver.validate intent.fromAsset
  let fromAToken ← resolver.validate intent.fromAToken
  let toAsset ← resolver.validate intent.assetToRepay
  let aggregator ← resolver.validate intent.aggregator
  let beneficiary ← resolver.validateOr intent.onBehalfOf user
  let amount ← check (DecimalAmount.parse intent.repayWithAmount)
  let debt ← check (DecimalAmount.parse intent.repayAmount)
  let mode ← check (intent.rateMode.requireDebt "interest_rate_mode")
  let swapCallData ← check (callData "swap_calldata" intent.swapCallData)
  let offset ← check (Aggregator.buyAllOffset swapCallData intent.repayAllDebt)
  let permit ← check (intent.permit.mapM signedPermit)
  check (rejectNative "from_asset" fromAsset)
  check (rejectNative "asset_to_repay" toAsset)
  unless intent.flash do check (requireSelf user beneficiary)
  return .adapter {
    task := .repay mode intent.repayAllDebt, sender := user, beneficiary, fromAsset, fromAToken
    toAsset, amount, otherAmount := debt, aggregator, swapCallData, amountOffset := offset
    flash := intent.flash, referralCode := intent.referralCode, permit
    approval := intent.approval }

def FlashLiquidationIntent.order (intent : FlashLiquidationIntent) : Planning Order := do
  let user ← resolver.validate intent.user
  let collateral ← resolver.validate intent.collateralReserve
  let debt ← resolver.validate intent.borrowedReserve
  let initiator ← resolver.validate intent.initiator
  let amount ← check (DecimalAmount.parse intent.debtToCover)
  check (rejectNative "collateral_reserve" collateral)
  check (rejectNative "borrowed_reserve" debt)
  return .flashLiquidation {
    initiator, user, collateral, debt, amount
    wholeDebt := intent.liquidateAll, useEthPath := intent.useEthPath }

def Intent.order : Intent → Planning Order
  | supply intent => intent.order resolver
  | supplyWithPermit intent => intent.order resolver
  | withdraw intent => intent.order resolver
  | borrow intent => intent.order resolver
  | repay intent => intent.order resolver
  | repayWithPermit intent => intent.order resolver
  | swapCollateral intent => intent.order resolver
  | repayWithCollateral intent => intent.order resolver
  | liquidationCall intent => intent.order resolver
  | flashLiquidation intent => intent.order resolver
  | setUsageAsCollateral intent => intent.order resolver
  | setUserEMode intent => intent.order resolver
  | swapBorrowRateMode intent => intent.order resolver

end LendingPool
