import LendingPool.Proofs.Plan.Dealings
/-! What an accepted intent can come to. Every order comes from its intent in one of these ways, and
each way keeps what the checks have found out. -/

namespace LendingPool

open Planning

/-- The route of an action that may be packed, without a word that is packed already. -/
def Route.chosen (packed : Bool) : Route :=
  if packed then .packed none else .direct

/-- The orders that an intent can come to. On native currency each action has its own order; away
from it all dealings with one reserve are alike. -/
inductive Intent.Accepted (resolver : Resolver) (snapshot : Snapshot) : Intent → Order → Prop
  | dealing {intent : Intent} {dealing : Dealing} {order : ReserveOrder}
      (deals : intent.dealing? = some dealing)
      (token : resolver.account? snapshot dealing.reserve ≠ some nativeCurrency)
      (ordered : intent.Ordered resolver snapshot dealing order) :
      Accepted resolver snapshot intent (.reserve order)
  | nativeSupply {intent : SupplyIntent} {user beneficiary : Address} {amount : DecimalAmount}
      (acts : resolver.account? snapshot intent.user = some user)
      (native : resolver.account? snapshot intent.reserve = some nativeCurrency)
      (benefits : resolver.accountOr? snapshot intent.onBehalfOf user = some beneficiary)
      (asks : Requests intent.amount (.value amount)) :
      Accepted resolver snapshot (.supply intent)
        (.native user (.supply amount beneficiary intent.referralCode))
  | nativeWithdraw {intent : WithdrawIntent} {user recipient aToken : Address} {text : String}
      {request : AmountRequest}
      (acts : resolver.account? snapshot intent.user = some user)
      (native : resolver.account? snapshot intent.reserve = some nativeCurrency)
      (benefits : resolver.accountOr? snapshot intent.onBehalfOf user = some recipient)
      (asks : Requests intent.amount request) (given : intent.aToken = some text)
      (named : resolver.account? snapshot text = some aToken) :
      Accepted resolver snapshot (.withdraw intent)
        (.native user (.withdraw request recipient aToken))
  | nativeBorrow {intent : BorrowIntent} {user debtToken : Address} {text : String}
      {amount : DecimalAmount} {mode : RateMode}
      (acts : resolver.account? snapshot intent.user = some user)
      (native : resolver.account? snapshot intent.reserve = some nativeCurrency)
      (alone : resolver.accountOr? snapshot intent.onBehalfOf user = some user)
      (asks : Requests intent.amount (.value amount)) (given : intent.debtToken = some text)
      (named : resolver.account? snapshot text = some debtToken) :
      Accepted resolver snapshot (.borrow intent)
        (.native user (.borrow amount mode intent.referralCode debtToken))
  | nativeRepay {intent : RepayIntent} {user beneficiary : Address} {amount : DecimalAmount}
      {mode : RateMode}
      (acts : resolver.account? snapshot intent.user = some user)
      (native : resolver.account? snapshot intent.reserve = some nativeCurrency)
      (benefits : resolver.accountOr? snapshot intent.onBehalfOf user = some beneficiary)
      (asks : Requests intent.amount (.value amount)) :
      Accepted resolver snapshot (.repay intent) (.native user (.repay amount mode beneficiary))
  | liquidation {intent : LiquidationCallIntent} {liquidator user debt collateral : Address}
      {request : AmountRequest}
      (acts : resolver.account? snapshot intent.liquidator = some liquidator)
      (owes : resolver.account? snapshot intent.debtReserve = some debt)
      (secures : resolver.account? snapshot intent.collateralReserve = some collateral)
      (asks : Requests intent.debtToCover request)
      (foreignDebt : debt ≠ nativeCurrency) (foreignCollateral : collateral ≠ nativeCurrency) :
      Accepted resolver snapshot (.liquidationCall intent) (.reserve {
        sender := liquidator, beneficiary := liquidator, approval := intent.approval
        route := .chosen intent.useOptimizedPath
        action := .liquidationCall collateral debt user request intent.getATokens })
  | usage {intent : SetUsageAsCollateralIntent} {user reserve : Address}
      (acts : resolver.account? snapshot intent.user = some user)
      (named : resolver.account? snapshot intent.reserve = some reserve)
      (foreign : reserve ≠ nativeCurrency) :
      Accepted resolver snapshot (.setUsageAsCollateral intent) (.reserve {
        sender := user, beneficiary := user, route := .chosen intent.useOptimizedPath
        action := .setUsageAsCollateral reserve intent.useAsCollateral })
  | rateSwap {intent : SwapBorrowRateModeIntent} {user reserve : Address} {mode : RateMode}
      (acts : resolver.account? snapshot intent.user = some user)
      (named : resolver.account? snapshot intent.reserve = some reserve)
      (foreign : reserve ≠ nativeCurrency) :
      Accepted resolver snapshot (.swapBorrowRateMode intent) (.reserve {
        sender := user, beneficiary := user, route := .chosen intent.useOptimizedPath
        action := .swapBorrowRateMode reserve mode.tag })
  | userEMode {intent : SetUserEModeIntent} {user : Address}
      (acts : resolver.account? snapshot intent.user = some user) :
      Accepted resolver snapshot (.setUserEMode intent) (.setUserEMode user intent.category)
  | swap {intent : SwapCollateralIntent}
      {user fromAsset fromAToken toAsset aggregator beneficiary : Address}
      {amount minimum : DecimalAmount} {callData : Bytes} {offset : Word}
      {permit : Option SignedPermit}
      (acts : resolver.account? snapshot intent.user = some user)
      (sells : resolver.account? snapshot intent.fromAsset = some fromAsset)
      (takes : resolver.account? snapshot intent.fromAToken = some fromAToken)
      (buys : resolver.account? snapshot intent.toAsset = some toAsset)
      (benefits : resolver.accountOr? snapshot intent.onBehalfOf user = some beneficiary)
      (alone : intent.flash = false → user = beneficiary)
      (asks : Requests intent.fromAmount (.value amount))
      (brings : Requests intent.minToAmount (.value minimum))
      (signs : intent.permit.mapM Order.signedPermit = .ok permit)
      (foreignSold : fromAsset ≠ nativeCurrency) (foreignBought : toAsset ≠ nativeCurrency) :
      Accepted resolver snapshot (.swapCollateral intent) (.adapter {
        task := .swap, sender := user, beneficiary, fromAsset, fromAToken, toAsset, amount
        otherAmount := minimum, aggregator, swapCallData := callData, amountOffset := offset
        flash := intent.flash, referralCode := intent.referralCode, permit
        approval := intent.approval })
  | repayment {intent : RepayWithCollateralIntent}
      {user fromAsset fromAToken toAsset aggregator beneficiary : Address}
      {amount debt : DecimalAmount} {mode : RateMode} {callData : Bytes} {offset : Word}
      {permit : Option SignedPermit}
      (acts : resolver.account? snapshot intent.user = some user)
      (sells : resolver.account? snapshot intent.fromAsset = some fromAsset)
      (takes : resolver.account? snapshot intent.fromAToken = some fromAToken)
      (pays : resolver.account? snapshot intent.assetToRepay = some toAsset)
      (benefits : resolver.accountOr? snapshot intent.onBehalfOf user = some beneficiary)
      (alone : intent.flash = false → user = beneficiary)
      (asks : Requests intent.repayWithAmount (.value amount))
      (repays : Requests intent.repayAmount (.value debt))
      (signs : intent.permit.mapM Order.signedPermit = .ok permit)
      (foreignSold : fromAsset ≠ nativeCurrency) (foreignPaid : toAsset ≠ nativeCurrency) :
      Accepted resolver snapshot (.repayWithCollateral intent) (.adapter {
        task := .repay mode intent.repayAllDebt, sender := user, beneficiary, fromAsset, fromAToken
        toAsset, amount, otherAmount := debt, aggregator, swapCallData := callData
        amountOffset := offset, flash := intent.flash, referralCode := intent.referralCode, permit
        approval := intent.approval })
  | flashLiquidation {intent : FlashLiquidationIntent}
      {user collateral debt initiator : Address} {amount : DecimalAmount}
      (acts : resolver.account? snapshot intent.initiator = some initiator)
      (secures : resolver.account? snapshot intent.collateralReserve = some collateral)
      (lends : resolver.account? snapshot intent.borrowedReserve = some debt)
      (asks : Requests intent.debtToCover (.value amount))
      (foreignCollateral : collateral ≠ nativeCurrency) (foreignDebt : debt ≠ nativeCurrency) :
      Accepted resolver snapshot (.flashLiquidation intent) (.flashLiquidation {
        initiator, user, collateral, debt, amount
        wholeDebt := intent.liquidateAll, useEthPath := intent.useEthPath })

namespace Order

theorem rejectNative_eq_ok_iff {field : String} {asset : Address} {result : Unit} :
    rejectNative field asset = .ok result ↔ asset ≠ nativeCurrency := by
  rw [rejectNative]
  split <;> simp [*]

theorem requireSelf_eq_ok_iff {sender beneficiary : Address} {result : Unit} :
    requireSelf sender beneficiary = .ok result ↔ sender = beneficiary := by
  rw [requireSelf]
  split <;> simp [*]

end Order

section

variable {resolver : Resolver} {snapshot : Snapshot} {order : Order}

theorem ReserveOrder.of_routed_none {order : ReserveOrder} {packed : Bool} {routed : Order}
    (routes : order.routed packed none = .ok routed) (direct : order.route = .direct) :
    routed = .reserve { order with route := .chosen packed } := by
  rw [← (routed_eq_ok_iff.mp routes).2, direct, Route.chosen]

theorem account_ne_native {text : String} {asset : Address}
    (named : resolver.account? snapshot text = some asset) (foreign : asset ≠ nativeCurrency) :
    resolver.account? snapshot text ≠ some nativeCurrency := by
  rw [named]
  exact fun native => foreign (Option.some.inj native)

theorem Intent.accepted_of_dealing (intent : Intent) {dealing : Dealing}
    (yields : Yields snapshot.MayAnswer (intent.order resolver) order)
    (deals : intent.dealing? = some dealing)
    (token : resolver.account? snapshot dealing.reserve ≠ some nativeCurrency) :
    intent.Accepted resolver snapshot order := by
  rcases Intent.ordered yields deals token with ⟨result, rfl, ordered⟩
  exact .dealing deals token ordered

theorem SupplyIntent.accepted {intent : SupplyIntent}
    (yields : Yields snapshot.MayAnswer (intent.order resolver) order) :
    (Intent.supply intent).Accepted resolver snapshot order := by
  by_cases token : resolver.account? snapshot intent.reserve = some nativeCurrency
  · simp only [SupplyIntent.order, yields_bind_iff, yields_ite_iff, yields_pure_iff,
      yields_check_iff, Resolver.yields_validate_iff, Resolver.yields_validateOr_iff] at yields
    rcases yields with ⟨user, acts, reserve, named, beneficiary, benefits, amount, asks, _, -, rest⟩
    rw [if_pos (Option.some.inj (named.symm.trans token))] at rest
    rw [← rest]
    exact .nativeSupply acts token benefits (requests_value_iff.mpr asks)
  · exact Intent.accepted_of_dealing (.supply intent) yields rfl token

theorem SupplyWithPermitIntent.accepted {intent : SupplyWithPermitIntent}
    (yields : Yields snapshot.MayAnswer (intent.order resolver) order) :
    (Intent.supplyWithPermit intent).Accepted resolver snapshot order := by
  have token : resolver.account? snapshot intent.reserve ≠ some nativeCurrency := by
    simp only [SupplyWithPermitIntent.order, yields_bind_iff, yields_check_iff,
      Resolver.yields_validate_iff, Order.rejectNative_eq_ok_iff] at yields
    rcases yields with ⟨_, -, reserve, named, _, -, _, -, _, -, _, -, _, foreign, -⟩
    exact account_ne_native named foreign
  exact Intent.accepted_of_dealing (.supplyWithPermit intent) yields rfl token

theorem WithdrawIntent.accepted {intent : WithdrawIntent}
    (yields : Yields snapshot.MayAnswer (intent.order resolver) order) :
    (Intent.withdraw intent).Accepted resolver snapshot order := by
  by_cases token : resolver.account? snapshot intent.reserve = some nativeCurrency
  · simp only [WithdrawIntent.order, yields_bind_iff, yields_ite_iff, yields_pure_iff,
      yields_check_iff, Resolver.yields_validate_iff, Resolver.yields_validateOr_iff] at yields
    rcases yields with ⟨user, acts, reserve, named, recipient, benefits, amount, asks, _, -, rest⟩
    rw [if_pos (Option.some.inj (named.symm.trans token))] at rest
    rcases rest with ⟨text, given, aToken, aTokenNamed, rfl⟩
    exact .nativeWithdraw acts token benefits asks (Order.nativeField_eq_ok_iff.mp given)
      aTokenNamed
  · exact Intent.accepted_of_dealing (.withdraw intent) yields rfl token

theorem BorrowIntent.accepted {intent : BorrowIntent}
    (yields : Yields snapshot.MayAnswer (intent.order resolver) order) :
    (Intent.borrow intent).Accepted resolver snapshot order := by
  by_cases token : resolver.account? snapshot intent.reserve = some nativeCurrency
  · simp only [BorrowIntent.order, yields_bind_iff, yields_ite_iff, yields_pure_iff,
      yields_check_iff, Resolver.yields_validate_iff, Resolver.yields_validateOr_iff,
      Order.requireSelf_eq_ok_iff] at yields
    rcases yields with
      ⟨user, acts, reserve, named, beneficiary, benefits, amount, asks, mode, -, _, -, rest⟩
    rw [if_pos (Option.some.inj (named.symm.trans token))] at rest
    rcases rest with ⟨text, given, debtToken, debtTokenNamed, _, rfl, rfl⟩
    exact .nativeBorrow acts token benefits (requests_value_iff.mpr asks)
      (Order.nativeField_eq_ok_iff.mp given) debtTokenNamed
  · exact Intent.accepted_of_dealing (.borrow intent) yields rfl token

theorem RepayIntent.accepted {intent : RepayIntent}
    (yields : Yields snapshot.MayAnswer (intent.order resolver) order) :
    (Intent.repay intent).Accepted resolver snapshot order := by
  by_cases token : resolver.account? snapshot intent.reserve = some nativeCurrency
  · simp only [RepayIntent.order, yields_bind_iff, yields_ite_iff, yields_check_iff,
      Resolver.yields_validate_iff, Resolver.yields_validateOr_iff] at yields
    rcases yields with
      ⟨user, acts, reserve, named, beneficiary, benefits, amount, asks, mode, -, _, -, rest⟩
    rw [if_pos (Option.some.inj (named.symm.trans token))] at rest
    cases amount with
    | entireBalance => cases yields_check_iff.mp rest
    | value amount =>
        rw [← yields_pure_iff.mp rest]
        exact .nativeRepay acts token benefits asks
  · exact Intent.accepted_of_dealing (.repay intent) yields rfl token

theorem RepayWithPermitIntent.accepted {intent : RepayWithPermitIntent}
    (yields : Yields snapshot.MayAnswer (intent.order resolver) order) :
    (Intent.repayWithPermit intent).Accepted resolver snapshot order := by
  have token : resolver.account? snapshot intent.reserve ≠ some nativeCurrency := by
    simp only [RepayWithPermitIntent.order, yields_bind_iff, yields_check_iff,
      Resolver.yields_validate_iff, Order.rejectNative_eq_ok_iff] at yields
    rcases yields with ⟨_, -, reserve, named, _, -, _, -, _, -, _, -, _, -, _, foreign, -⟩
    exact account_ne_native named foreign
  exact Intent.accepted_of_dealing (.repayWithPermit intent) yields rfl token

theorem LiquidationCallIntent.accepted {intent : LiquidationCallIntent}
    (yields : Yields snapshot.MayAnswer (intent.order resolver) order) :
    (Intent.liquidationCall intent).Accepted resolver snapshot order := by
  simp only [LiquidationCallIntent.order, yields_bind_iff, yields_check_iff,
    Resolver.yields_validate_iff, Order.rejectNative_eq_ok_iff] at yields
  rcases yields with
    ⟨liquidator, acts, user, -, debt, owes, collateral, secures, amount, asks, _, foreignDebt, _,
      foreignCollateral, rest⟩
  rw [ReserveOrder.of_routed_none rest rfl]
  exact .liquidation acts owes secures asks foreignDebt foreignCollateral

theorem SetUsageAsCollateralIntent.accepted {intent : SetUsageAsCollateralIntent}
    (yields : Yields snapshot.MayAnswer (intent.order resolver) order) :
    (Intent.setUsageAsCollateral intent).Accepted resolver snapshot order := by
  simp only [SetUsageAsCollateralIntent.order, yields_bind_iff, yields_check_iff,
    Resolver.yields_validate_iff, Order.rejectNative_eq_ok_iff] at yields
  rcases yields with ⟨user, acts, reserve, named, _, foreign, rest⟩
  rw [ReserveOrder.of_routed_none rest rfl]
  exact .usage acts named foreign

theorem SwapBorrowRateModeIntent.accepted {intent : SwapBorrowRateModeIntent}
    (yields : Yields snapshot.MayAnswer (intent.order resolver) order) :
    (Intent.swapBorrowRateMode intent).Accepted resolver snapshot order := by
  simp only [SwapBorrowRateModeIntent.order, yields_bind_iff, yields_check_iff,
    Resolver.yields_validate_iff, Order.rejectNative_eq_ok_iff] at yields
  rcases yields with ⟨user, acts, reserve, named, mode, -, _, foreign, rest⟩
  rw [ReserveOrder.of_routed_none rest rfl]
  exact .rateSwap acts named foreign

theorem SetUserEModeIntent.accepted {intent : SetUserEModeIntent}
    (yields : Yields snapshot.MayAnswer (intent.order resolver) order) :
    (Intent.setUserEMode intent).Accepted resolver snapshot order := by
  simp only [SetUserEModeIntent.order, yields_bind_iff, yields_pure_iff,
    Resolver.yields_validate_iff] at yields
  rcases yields with ⟨user, acts, rfl⟩
  exact .userEMode acts

theorem Order.alone_of_unless {flash : Bool} {user beneficiary : Address} {order result : Order}
    (yields : Yields snapshot.MayAnswer
      (do
        unless flash do check (requireSelf user beneficiary)
        return order) result) :
    order = result ∧ (flash = false → user = beneficiary) := by
  cases flash with
  | true => exact ⟨yields_pure_iff.mp yields, nofun⟩
  | false =>
      rcases yields_bind_iff.mp yields with ⟨_, same, rest⟩
      exact ⟨yields_pure_iff.mp rest, fun _ => requireSelf_eq_ok_iff.mp (yields_check_iff.mp same)⟩

theorem SwapCollateralIntent.accepted {intent : SwapCollateralIntent}
    (yields : Yields snapshot.MayAnswer (intent.order resolver) order) :
    (Intent.swapCollateral intent).Accepted resolver snapshot order := by
  simp only [SwapCollateralIntent.order, yields_bind_iff, yields_check_iff,
    Resolver.yields_validate_iff, Resolver.yields_validateOr_iff, Order.rejectNative_eq_ok_iff]
    at yields
  rcases yields with
    ⟨user, acts, fromAsset, sells, fromAToken, takes, toAsset, buys, aggregator, -, beneficiary,
      benefits, amount, asks, minimum, brings, callData, -, offset, -, permit, signs, _,
      foreignSold, _, foreignBought, rest⟩
  rcases Order.alone_of_unless rest with ⟨rfl, alone⟩
  exact .swap acts sells takes buys benefits alone (requests_value_iff.mpr asks)
    (requests_value_iff.mpr brings) signs foreignSold foreignBought

theorem RepayWithCollateralIntent.accepted {intent : RepayWithCollateralIntent}
    (yields : Yields snapshot.MayAnswer (intent.order resolver) order) :
    (Intent.repayWithCollateral intent).Accepted resolver snapshot order := by
  simp only [RepayWithCollateralIntent.order, yields_bind_iff, yields_check_iff,
    Resolver.yields_validate_iff, Resolver.yields_validateOr_iff, Order.rejectNative_eq_ok_iff]
    at yields
  rcases yields with
    ⟨user, acts, fromAsset, sells, fromAToken, takes, toAsset, pays, aggregator, -, beneficiary,
      benefits, amount, asks, debt, repays, mode, -, callData, -, offset, -, permit, signs, _,
      foreignSold, _, foreignPaid, rest⟩
  rcases Order.alone_of_unless rest with ⟨rfl, alone⟩
  exact .repayment acts sells takes pays benefits alone (requests_value_iff.mpr asks)
    (requests_value_iff.mpr repays) signs foreignSold foreignPaid

theorem FlashLiquidationIntent.accepted {intent : FlashLiquidationIntent}
    (yields : Yields snapshot.MayAnswer (intent.order resolver) order) :
    (Intent.flashLiquidation intent).Accepted resolver snapshot order := by
  simp only [FlashLiquidationIntent.order, yields_bind_iff, yields_pure_iff, yields_check_iff,
    Resolver.yields_validate_iff, Order.rejectNative_eq_ok_iff] at yields
  rcases yields with
    ⟨user, -, collateral, secures, debt, lends, initiator, acts, amount, asks, _,
      foreignCollateral, _, foreignDebt, rfl⟩
  exact .flashLiquidation acts secures lends (requests_value_iff.mpr asks) foreignCollateral
    foreignDebt

theorem Intent.accepted {intent : Intent}
    (yields : Yields snapshot.MayAnswer (intent.order resolver) order) :
    intent.Accepted resolver snapshot order := by
  cases intent with
  | supply intent => exact intent.accepted yields
  | supplyWithPermit intent => exact intent.accepted yields
  | withdraw intent => exact intent.accepted yields
  | borrow intent => exact intent.accepted yields
  | repay intent => exact intent.accepted yields
  | repayWithPermit intent => exact intent.accepted yields
  | swapCollateral intent => exact intent.accepted yields
  | repayWithCollateral intent => exact intent.accepted yields
  | liquidationCall intent => exact intent.accepted yields
  | flashLiquidation intent => exact intent.accepted yields
  | setUsageAsCollateral intent => exact intent.accepted yields
  | setUserEMode intent => exact intent.accepted yields
  | swapBorrowRateMode intent => exact intent.accepted yields

theorem Intent.Accepted.ordered {intent : Intent} {dealing : Dealing}
    (accepted : intent.Accepted resolver snapshot order) (deals : intent.dealing? = some dealing)
    (token : resolver.account? snapshot dealing.reserve ≠ some nativeCurrency) :
    ∃ result, order = .reserve result ∧ intent.Ordered resolver snapshot dealing result := by
  cases accepted with
  | @dealing _ other order dealt _ ordered =>
      cases dealt.symm.trans deals
      exact ⟨order, rfl, ordered⟩
  | nativeSupply _ native | nativeWithdraw _ native | nativeBorrow _ native
  | nativeRepay _ native =>
      cases deals
      exact absurd native token
  | _ => cases deals

end

end LendingPool
