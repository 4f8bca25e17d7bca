import LendingPool.Proofs.Call.Logical
import LendingPool.Proofs.Plan.Checked
/-! Dealings with one reserve: supplying, withdrawing, borrowing and repaying, with or without a
permit. Off the native currency they all become orders in the same way. -/

namespace LendingPool

open Planning

structure Dealing where
  user : String
  reserve : String
  amount : String
  onBehalfOf : Option String
  approval : Option ApprovalPolicy := none
  declaredAmount : Option String := none
  packed : Bool
  encodedParams : Option String
deriving DecidableEq, Repr

namespace Intent

def dealing? : Intent → Option Dealing
  | supply intent => some {
      user := intent.user, reserve := intent.reserve, amount := intent.amount
      onBehalfOf := intent.onBehalfOf, approval := intent.approval
      packed := intent.useOptimizedPath, encodedParams := intent.encodedParams }
  | supplyWithPermit intent => some {
      user := intent.user, reserve := intent.reserve, amount := intent.amount
      onBehalfOf := intent.onBehalfOf, declaredAmount := intent.permit.value
      packed := intent.useOptimizedPath, encodedParams := intent.encodedParams }
  | withdraw intent => some {
      user := intent.user, reserve := intent.reserve, amount := intent.amount
      onBehalfOf := intent.onBehalfOf
      packed := intent.useOptimizedPath, encodedParams := intent.encodedParams }
  | borrow intent => some {
      user := intent.user, reserve := intent.reserve, amount := intent.amount
      onBehalfOf := intent.onBehalfOf
      packed := intent.useOptimizedPath, encodedParams := intent.encodedParams }
  | repay intent => some {
      user := intent.user, reserve := intent.reserve, amount := intent.amount
      onBehalfOf := intent.onBehalfOf, approval := intent.approval
      packed := intent.useOptimizedPath, encodedParams := intent.encodedParams }
  | repayWithPermit intent => some {
      user := intent.user, reserve := intent.reserve, amount := intent.amount
      onBehalfOf := intent.onBehalfOf, declaredAmount := intent.permit.value
      packed := intent.useOptimizedPath, encodedParams := intent.encodedParams }
  | _ => none

def reserveAction? (asset : Address) (request : AmountRequest) :
    Intent → Option (ReserveAction Address AmountRequest)
  | supply intent => some (.supply asset request intent.referralCode)
  | supplyWithPermit intent =>
      (Order.signedPermit intent.permit).toOption.map
        (.supplyWithPermit asset request intent.referralCode)
  | withdraw _ => some (.withdraw asset request)
  | borrow intent => some (.borrow asset request intent.rateMode.tag intent.referralCode)
  | repay intent => some (.repay asset request intent.rateMode.tag)
  | repayWithPermit intent =>
      (Order.signedPermit intent.permit).toOption.map
        (.repayWithPermit asset request intent.rateMode.tag)
  | _ => none

def mayBeEntire : Intent → Bool
  | withdraw _ | repay _ | repayWithPermit _ => true
  | _ => false

def optimized (packed : Bool) : Intent → Intent
  | supply intent => supply { intent with useOptimizedPath := packed }
  | supplyWithPermit intent => supplyWithPermit { intent with useOptimizedPath := packed }
  | withdraw intent => withdraw { intent with useOptimizedPath := packed }
  | borrow intent => borrow { intent with useOptimizedPath := packed }
  | repay intent => repay { intent with useOptimizedPath := packed }
  | repayWithPermit intent => repayWithPermit { intent with useOptimizedPath := packed }
  | liquidationCall intent => liquidationCall { intent with useOptimizedPath := packed }
  | setUsageAsCollateral intent => setUsageAsCollateral { intent with useOptimizedPath := packed }
  | swapBorrowRateMode intent => swapBorrowRateMode { intent with useOptimizedPath := packed }
  | intent => intent

theorem dealing?_optimized (intent : Intent) (packed : Bool) :
    (intent.optimized packed).dealing? = intent.dealing?.map ({ · with packed }) := by
  cases intent <;> rfl

theorem reserveAction?_optimized (intent : Intent) (packed : Bool) (asset : Address)
    (request : AmountRequest) :
    (intent.optimized packed).reserveAction? asset request =
      intent.reserveAction? asset request := by
  cases intent <;> rfl

theorem mayBeEntire_optimized (intent : Intent) (packed : Bool) :
    (intent.optimized packed).mayBeEntire = intent.mayBeEntire := by
  cases intent <;> rfl

theorem terms?_of_reserveAction? {intent : Intent} {asset : Address} {request : AmountRequest}
    {action : ReserveAction Address AmountRequest}
    (acts : intent.reserveAction? asset request = some action) :
    ∃ rateMode referralCode,
      action.terms? = some { asset, amount := request, rateMode, referralCode } ∧
      action.mayBeEntire = intent.mayBeEntire := by
  cases intent with simp only [reserveAction?, Option.some.injEq, Option.map_eq_some_iff,
    reduceCtorEq] at acts
  | supplyWithPermit | repayWithPermit =>
      rcases acts with ⟨permit, -, rfl⟩
      exact ⟨_, _, rfl, rfl⟩
  | _ =>
      cases acts
      exact ⟨_, _, rfl, rfl⟩

end Intent

theorem Order.of_signedPermit {permit : PermitIntent} {signed : SignedPermit}
    (signs : (signedPermit permit).toOption = some signed) :
    Signature.parse permit.signature = .ok signed.signature ∧
      signed.deadline = permit.deadline := by
  rw [signedPermit] at signs
  cases parsed : Signature.parse permit.signature with
  | error fault =>
      rw [parsed] at signs
      cases signs
  | ok signature =>
      rw [parsed] at signs
      cases signs
      exact ⟨rfl, rfl⟩

/-! ## Orders -/

structure Intent.Ordered (resolver : Resolver) (snapshot : Snapshot) (intent : Intent)
    (dealing : Dealing) (order : ReserveOrder) : Prop where
  sender : resolver.account? snapshot dealing.user = some order.sender
  beneficiary :
    resolver.accountOr? snapshot dealing.onBehalfOf order.sender = some order.beneficiary
  action : ∃ asset request, resolver.account? snapshot dealing.reserve = some asset ∧
    Requests dealing.amount request ∧ intent.reserveAction? asset request = some order.action
  approval : order.approval = dealing.approval
  declaredAmount : order.declaredAmount = dealing.declaredAmount
  route : ∃ preEncoded, Order.preEncoded dealing.encodedParams = .ok preEncoded ∧
    order.route = if dealing.packed then .packed preEncoded else .direct
  alone : dealing.packed = true → order.sender = order.beneficiary

section

variable {resolver : Resolver} {snapshot : Snapshot} {order : Order} {dealing : Dealing}

theorem ReserveOrder.ordered_of_routed {intent : Intent} {order : ReserveOrder} {routed : Order}
    {preEncoded : Option Word} (direct : order.route = .direct)
    (sender : resolver.account? snapshot dealing.user = some order.sender)
    (beneficiary :
      resolver.accountOr? snapshot dealing.onBehalfOf order.sender = some order.beneficiary)
    (action : ∃ asset request, resolver.account? snapshot dealing.reserve = some asset ∧
      Requests dealing.amount request ∧ intent.reserveAction? asset request = some order.action)
    (approval : order.approval = dealing.approval)
    (declaredAmount : order.declaredAmount = dealing.declaredAmount)
    (packs : Order.preEncoded dealing.encodedParams = .ok preEncoded)
    (routes : order.routed dealing.packed preEncoded = .ok routed) :
    ∃ result, routed = .reserve result ∧ intent.Ordered resolver snapshot dealing result := by
  rcases ReserveOrder.routed_eq_ok_iff.mp routes with ⟨alone, rfl⟩
  rw [direct]
  exact ⟨_, rfl, sender, beneficiary, action, approval, declaredAmount, ⟨preEncoded, packs, rfl⟩,
    alone⟩

theorem ne_nativeCurrency {text : String} {asset : Address}
    (token : resolver.account? snapshot text ≠ some nativeCurrency)
    (named : resolver.account? snapshot text = some asset) : asset ≠ nativeCurrency := by
  intro native
  rw [native] at named
  exact token named

theorem RateMode.requireDebt_eq_ok_iff {mode result : RateMode} {field : String} :
    mode.requireDebt field = .ok result ↔ mode ≠ noRate ∧ mode = result := by
  rw [requireDebt]
  split <;> simp [*]

theorem Intent.ordered {intent : Intent}
    (yields : Yields snapshot.MayAnswer (intent.order resolver) order)
    (deals : intent.dealing? = some dealing)
    (token : resolver.account? snapshot dealing.reserve ≠ some nativeCurrency) :
    ∃ result, order = .reserve result ∧ intent.Ordered resolver snapshot dealing result := by
  cases intent with cases deals
  | supply intent =>
      simp only [Intent.order, SupplyIntent.order, yields_bind_iff, yields_ite_iff,
        yields_check_iff, Resolver.yields_validate_iff, Resolver.yields_validateOr_iff] at yields
      rcases yields with
        ⟨user, acts, reserve, named, beneficiary, benefits, amount, asks, _, packs, rest⟩
      rw [if_neg (ne_nativeCurrency token named)] at rest
      have asks := requests_value_iff.mpr asks
      exact ReserveOrder.ordered_of_routed rfl acts benefits ⟨_, _, named, asks, rfl⟩ rfl rfl packs
        rest
  | supplyWithPermit intent =>
      simp only [Intent.order, SupplyWithPermitIntent.order, yields_bind_iff, yields_check_iff,
        Resolver.yields_validate_iff, Resolver.yields_validateOr_iff] at yields
      rcases yields with
        ⟨user, acts, reserve, named, beneficiary, benefits, amount, asks, permit, signs, _, packs,
          _, -, rest⟩
      have signed : (Order.signedPermit intent.permit).toOption = some permit := by rw [signs]; rfl
      have asks := requests_value_iff.mpr asks
      refine ReserveOrder.ordered_of_routed rfl acts benefits ⟨_, _, named, asks, ?_⟩ rfl rfl packs
        rest
      rw [Intent.reserveAction?, signed]
      rfl
  | withdraw intent =>
      simp only [Intent.order, WithdrawIntent.order, yields_bind_iff, yields_ite_iff,
        yields_check_iff, Resolver.yields_validate_iff, Resolver.yields_validateOr_iff] at yields
      rcases yields with
        ⟨user, acts, reserve, named, beneficiary, benefits, amount, asks, _, packs, rest⟩
      rw [if_neg (ne_nativeCurrency token named)] at rest
      exact ReserveOrder.ordered_of_routed rfl acts benefits ⟨_, _, named, asks, rfl⟩ rfl rfl packs
        rest
  | borrow intent =>
      simp only [Intent.order, BorrowIntent.order, yields_bind_iff, yields_ite_iff,
        yields_check_iff, Resolver.yields_validate_iff, Resolver.yields_validateOr_iff] at yields
      rcases yields with
        ⟨user, acts, reserve, named, beneficiary, benefits, amount, asks, mode, debt, _, packs,
          rest⟩
      rcases RateMode.requireDebt_eq_ok_iff.mp debt with ⟨-, rfl⟩
      rw [if_neg (ne_nativeCurrency token named)] at rest
      have asks := requests_value_iff.mpr asks
      exact ReserveOrder.ordered_of_routed rfl acts benefits ⟨_, _, named, asks, rfl⟩ rfl rfl packs
        rest
  | repay intent =>
      simp only [Intent.order, RepayIntent.order, yields_bind_iff, yields_ite_iff,
        yields_check_iff, Resolver.yields_validate_iff, Resolver.yields_validateOr_iff] at yields
      rcases yields with
        ⟨user, acts, reserve, named, beneficiary, benefits, amount, asks, mode, debt, _, packs,
          rest⟩
      rcases RateMode.requireDebt_eq_ok_iff.mp debt with ⟨-, rfl⟩
      rw [if_neg (ne_nativeCurrency token named)] at rest
      exact ReserveOrder.ordered_of_routed rfl acts benefits ⟨_, _, named, asks, rfl⟩ rfl rfl packs
        rest
  | repayWithPermit intent =>
      simp only [Intent.order, RepayWithPermitIntent.order, yields_bind_iff, yields_check_iff,
        Resolver.yields_validate_iff, Resolver.yields_validateOr_iff] at yields
      rcases yields with
        ⟨user, acts, reserve, named, beneficiary, benefits, amount, asks, mode, debt, permit, signs,
          _, packs, _, -, rest⟩
      rcases RateMode.requireDebt_eq_ok_iff.mp debt with ⟨-, rfl⟩
      have signed : (Order.signedPermit intent.permit).toOption = some permit := by rw [signs]; rfl
      refine ReserveOrder.ordered_of_routed rfl acts benefits ⟨_, _, named, asks, ?_⟩ rfl rfl packs
        rest
      rw [Intent.reserveAction?, signed]
      rfl

theorem Intent.Ordered.terms {intent : Intent} {order : ReserveOrder}
    (ordered : intent.Ordered resolver snapshot dealing order) :
    ∃ terms, order.action.terms? = some terms ∧
      order.action.mayBeEntire = intent.mayBeEntire := by
  rcases ordered.action with ⟨asset, request, -, -, acts⟩
  rcases terms?_of_reserveAction? acts with ⟨rateMode, referralCode, agreed, entire⟩
  exact ⟨_, agreed, entire⟩

/-- Whichever route is chosen, the order is for the same action of the same parties. -/
theorem Intent.Ordered.agree {intent : Intent} {left right packed : Bool}
    {first second : ReserveOrder}
    (ordered : (intent.optimized left).Ordered resolver snapshot dealing first)
    (other : (intent.optimized right).Ordered resolver snapshot { dealing with packed } second) :
    second.sender = first.sender ∧ second.beneficiary = first.beneficiary ∧
      second.action = first.action ∧ second.declaredAmount = first.declaredAmount := by
  have sender : second.sender = first.sender :=
    Option.some.inj (other.sender.symm.trans ordered.sender)
  have beneficiary := ordered.beneficiary
  rw [← sender, other.beneficiary] at beneficiary
  rcases ordered.action with ⟨asset, request, named, asks, acts⟩
  rcases other.action with ⟨otherAsset, otherRequest, otherNamed, otherAsks, otherActs⟩
  have asset : otherAsset = asset := Option.some.inj (otherNamed.symm.trans named)
  have request : otherRequest = request := Except.ok.inj (otherAsks.symm.trans asks)
  rw [Intent.reserveAction?_optimized] at acts otherActs
  rw [asset, request, acts] at otherActs
  exact ⟨sender, Option.some.inj beneficiary, Option.some.inj otherActs.symm,
    other.declaredAmount.trans ordered.declaredAmount.symm⟩

end

end LendingPool
