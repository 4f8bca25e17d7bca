import LendingPool.Proofs.Plan.Actions
import LendingPool.Proofs.Plan.Following
/-! The account that an action benefits. Either the call data names the account that the caller asks
for, or the call is always for its sender. Then the caller must not ask for anybody else. -/

namespace LendingPool

open Planning

/-! ## Whom an intent is for -/

namespace Intent

def actor : Intent → String
  | supply intent => intent.user
  | supplyWithPermit intent => intent.user
  | withdraw intent => intent.user
  | borrow intent => intent.user
  | repay intent => intent.user
  | repayWithPermit intent => intent.user
  | swapCollateral intent => intent.user
  | repayWithCollateral intent => intent.user
  | liquidationCall intent => intent.liquidator
  | flashLiquidation intent => intent.initiator
  | setUsageAsCollateral intent => intent.user
  | setUserEMode intent => intent.user
  | swapBorrowRateMode intent => intent.user

theorem actor_outline (intent : Intent) (isNative : Bool) :
    (intent.outline isNative).actor = intent.actor := by
  cases intent with
  | supply | withdraw | borrow | repay =>
      cases isNative with
      | true => rfl
      | false => exact Outline.actor_reserve _ _ _ _
  | swapCollateral | repayWithCollateral | flashLiquidation => rfl
  | _ => exact Outline.actor_reserve _ _ _ _

/-- The account to act for, as typed. It is left out to act for oneself. -/
def onBehalfOf : Intent → Option String
  | supply intent => intent.onBehalfOf
  | supplyWithPermit intent => intent.onBehalfOf
  | withdraw intent => intent.onBehalfOf
  | borrow intent => intent.onBehalfOf
  | repay intent => intent.onBehalfOf
  | repayWithPermit intent => intent.onBehalfOf
  | swapCollateral intent => intent.onBehalfOf
  | repayWithCollateral intent => intent.onBehalfOf
  | _ => none

def forSelf : Intent → Intent
  | supply intent => supply { intent with onBehalfOf := none }
  | supplyWithPermit intent => supplyWithPermit { intent with onBehalfOf := none }
  | withdraw intent => withdraw { intent with onBehalfOf := none }
  | borrow intent => borrow { intent with onBehalfOf := none }
  | repay intent => repay { intent with onBehalfOf := none }
  | repayWithPermit intent => repayWithPermit { intent with onBehalfOf := none }
  | swapCollateral intent => swapCollateral { intent with onBehalfOf := none }
  | repayWithCollateral intent => repayWithCollateral { intent with onBehalfOf := none }
  | intent => intent

/-- Whether the call data has room for a beneficiary. Packed calls, borrowings from the gateway and
adapters without a loan act for the sender alone. -/
def namesBeneficiary (isNative : Bool) : Intent → Bool
  | supply intent => isNative || !intent.useOptimizedPath
  | withdraw intent => isNative || !intent.useOptimizedPath
  | repay intent => isNative || !intent.useOptimizedPath
  | borrow intent => !isNative && !intent.useOptimizedPath
  | supplyWithPermit intent => !intent.useOptimizedPath
  | repayWithPermit intent => !intent.useOptimizedPath
  | swapCollateral intent => intent.flash
  | repayWithCollateral intent => intent.flash
  | flashLiquidation _ => true
  | liquidationCall _ | setUsageAsCollateral _ | setUserEMode _ | swapBorrowRateMode _ => false

end Intent

/-! ## Whom an instruction is for -/

def PoolCall.beneficiary? : PoolCall → Option Address
  | supply _ _ onBehalfOf _ | supplyWithPermit _ _ onBehalfOf _ _ _ => some onBehalfOf
  | withdraw _ _ recipient => some recipient
  | borrow _ _ _ _ onBehalfOf | repay _ _ _ onBehalfOf | repayWithPermit _ _ _ onBehalfOf _ _ =>
      some onBehalfOf
  | flashLoan _ _ _ _ onBehalfOf _ _ => some onBehalfOf
  | swapBorrowRateMode .. | setUsageAsCollateral .. | liquidationCall .. | setUserEMode .. => none

def GatewayCall.beneficiary? : GatewayCall → Option Address
  | deposit _ onBehalfOf _ => some onBehalfOf
  | withdraw _ _ recipient => some recipient
  | repay _ _ _ onBehalfOf => some onBehalfOf
  | borrow .. => none

def Instruction.beneficiary? : Instruction → Option Address
  | pool call => call.beneficiary?
  | gateway call => call.beneficiary?
  | swap loan _ => loan.map Loan.beneficiary
  | repay loan _ => loan.map Loan.beneficiary
  | liquidate loan _ => some loan.beneficiary
  | packed _ => none

/-! ## Whom an order is for -/

def ReserveAction.namesBeneficiary {Reserve Quantity : Type} : ReserveAction Reserve Quantity → Bool
  | supply .. | supplyWithPermit .. | withdraw .. | borrow .. | repay .. | repayWithPermit .. =>
      true
  | swapBorrowRateMode .. | setUsageAsCollateral .. | liquidationCall .. => false

namespace Order

def beneficiary : Order → Address
  | reserve order => order.beneficiary
  | native _ (.supply _ beneficiary _) => beneficiary
  | native _ (.withdraw _ recipient _) => recipient
  | native sender (.borrow ..) => sender
  | native _ (.repay _ _ beneficiary) => beneficiary
  | adapter order => order.beneficiary
  | flashLiquidation order => order.initiator
  | setUserEMode sender _ => sender

def namesBeneficiary : Order → Bool
  | reserve order => !order.route.isPacked && order.action.namesBeneficiary
  | native _ (.borrow ..) => false
  | native .. => true
  | adapter order => order.flash
  | flashLiquidation _ => true
  | setUserEMode .. => false

end Order

section

variable {planner : Planner} {resolver : Resolver} {snapshot : Snapshot} {intent : Intent}
  {order : Order} {draft : Draft} {Possible : PossibleReplies}

theorem ReserveAction.namesBeneficiary_kind {Reserve Quantity : Type}
    (action : ReserveAction Reserve Quantity) :
    action.kind.namesBeneficiary = action.namesBeneficiary := by
  cases action <;> rfl

theorem ReserveAction.beneficiary?_toPoolCall (action : ReserveAction Address Amount)
    (beneficiary : Address) :
    (action.toPoolCall beneficiary).beneficiary? =
      if action.namesBeneficiary then some beneficiary else none := by
  cases action <;> rfl

theorem Planner.Drafts.beneficiary? (drafts : planner.Drafts Possible order draft) :
    draft.instruction.beneficiary? =
      if order.namesBeneficiary then some order.beneficiary else none := by
  cases drafts with
  | @direct order _ action routes _ converts =>
      have same := ReserveAction.kind_of_yields_convertAmount
        (ReserveOrder.yields_converted converts)
      rw [Order.namesBeneficiary, routes, ← order.action.namesBeneficiary_kind, ← same,
        action.namesBeneficiary_kind]
      exact action.beneficiary?_toPoolCall order.beneficiary
  | packed routes =>
      rw [Order.namesBeneficiary, routes]
      rfl
  | @adapter order =>
      rw [Order.namesBeneficiary, Planner.adapterInstruction]
      cases order.task <;> cases order.flash <;> rfl
  | _ => rfl

/-! ## Accepted intents -/

theorem Intent.namesBeneficiary_of_dealing {dealing : Dealing}
    (deals : intent.dealing? = some dealing) : intent.namesBeneficiary false = !dealing.packed := by
  cases intent <;> cases deals <;> rfl

theorem Intent.onBehalfOf_of_dealing {dealing : Dealing}
    (deals : intent.dealing? = some dealing) : intent.onBehalfOf = dealing.onBehalfOf := by
  cases intent <;> cases deals <;> rfl

theorem ReserveAction.namesBeneficiary_of_reserveAction? {asset : Address}
    {request : AmountRequest} {action : ReserveAction Address AmountRequest}
    (acts : intent.reserveAction? asset request = some action) :
    action.namesBeneficiary = true := by
  cases intent with simp only [Intent.reserveAction?, Option.some.injEq, Option.map_eq_some_iff,
    reduceCtorEq] at acts
  | supplyWithPermit | repayWithPermit =>
      rcases acts with ⟨permit, -, rfl⟩
      rfl
  | _ =>
      cases acts
      rfl

namespace Intent.Accepted

theorem beneficiary (accepted : intent.Accepted resolver snapshot order) :
    resolver.accountOr? snapshot intent.onBehalfOf order.outline.actor =
      some order.beneficiary := by
  cases accepted with
  | @dealing _ dealing order deals token ordered =>
      rw [onBehalfOf_of_dealing deals, Order.outline, Outline.actor_reserve]
      exact ordered.beneficiary
  | nativeSupply _ _ benefits | nativeWithdraw _ _ benefits | nativeRepay _ _ benefits =>
      exact benefits
  | nativeBorrow _ _ alone => exact alone
  | swap _ _ _ _ benefits | repayment _ _ _ _ benefits => exact benefits
  | liquidation | usage | rateSwap =>
      rw [Order.outline, Outline.actor_reserve]
      rfl
  | userEMode => rfl
  | flashLiquidation => rfl

theorem namesBeneficiary (accepted : intent.Accepted resolver snapshot order) :
    order.namesBeneficiary = intent.namesBeneficiary (intent.isNative resolver snapshot) := by
  cases accepted with
  | dealing deals token ordered =>
      rcases ordered.action with ⟨asset, request, -, -, acts⟩
      rw [isNative_of_dealing deals token, namesBeneficiary_of_dealing deals,
        Order.namesBeneficiary, ordered.isPacked_route,
        ReserveAction.namesBeneficiary_of_reserveAction? acts, Bool.and_true]
  | nativeSupply _ native | nativeWithdraw _ native | nativeBorrow _ native
  | nativeRepay _ native =>
      rw [(isNative_iff rfl).mpr native]
      rfl
  | liquidation | usage | rateSwap => exact Bool.and_false _
  | _ => rfl

theorem alone (accepted : intent.Accepted resolver snapshot order)
    (unnamed : order.namesBeneficiary = false) : order.beneficiary = order.outline.actor := by
  cases accepted with
  | dealing deals token ordered =>
      rcases ordered.action with ⟨asset, request, -, -, acts⟩
      rw [Order.namesBeneficiary, ReserveAction.namesBeneficiary_of_reserveAction? acts,
        ordered.isPacked_route, Bool.and_true, Bool.not_eq_false'] at unnamed
      rw [Order.outline, Outline.actor_reserve]
      exact (ordered.alone unnamed).symm
  | liquidation | usage | rateSwap =>
      rw [Order.outline, Outline.actor_reserve]
      rfl
  | swap _ _ _ _ _ alone | repayment _ _ _ _ _ alone => exact (alone unnamed).symm
  | nativeBorrow => rfl
  | userEMode => rfl
  | _ => cases unnamed

end Intent.Accepted

end

end LendingPool
