import LendingPool.Proofs.Plan.Accepted
/-! The orders that intents give. Each has the outline of its intent, and nothing but names is
asked for on the way. -/

namespace LendingPool

variable {resolver : Resolver} {snapshot : Snapshot} {order : Order}

open Planning

/-! ## Outlines -/

namespace Intent

def outlineOn (intent : Intent) (resolver : Resolver) (snapshot : Snapshot) :
    Outline String String :=
  intent.outline (intent.isNative resolver snapshot)

variable {intent : Intent}

theorem isNative_iff {text : String} (names : intent.gatewayReserve? = some text) :
    intent.isNative resolver snapshot = true ↔
      resolver.account? snapshot text = some nativeCurrency := by
  rw [isNative, names, Option.bind_some, beq_iff_eq]

theorem outlineOn_of_native {text : String} (names : intent.gatewayReserve? = some text)
    (native : resolver.account? snapshot text = some nativeCurrency) :
    intent.outlineOn resolver snapshot = intent.outline true := by
  rw [outlineOn, (isNative_iff names).mpr native]

theorem isNative_of_dealing {dealing : Dealing} (deals : intent.dealing? = some dealing)
    (token : resolver.account? snapshot dealing.reserve ≠ some nativeCurrency) :
    intent.isNative resolver snapshot = false := by
  rw [isNative, beq_eq_false_iff_ne]
  cases intent with cases deals
  | supplyWithPermit | repayWithPermit => nofun
  | _ => exact token

theorem outlineOn_of_dealing {dealing : Dealing} (deals : intent.dealing? = some dealing)
    (token : resolver.account? snapshot dealing.reserve ≠ some nativeCurrency) :
    intent.outlineOn resolver snapshot =
      .reserve dealing.packed dealing.user (some (dealing.reserve, dealing.amount))
        dealing.approval := by
  rw [outlineOn, isNative_of_dealing deals token]
  cases intent <;> cases deals <;> rfl

theorem amount?_of_reserveAction? {asset : Address} {request : AmountRequest}
    {action : ReserveAction Address AmountRequest}
    (acts : intent.reserveAction? asset request = some action) :
    action.amount? = some (asset, request) := by
  cases intent with simp only [reserveAction?, Option.some.injEq, Option.map_eq_some_iff,
    reduceCtorEq] at acts
  | supplyWithPermit | repayWithPermit =>
      rcases acts with ⟨permit, -, rfl⟩
      rfl
  | _ =>
      cases acts
      rfl

end Intent

theorem Route.isPacked_chosen (packed : Bool) : (chosen packed).isPacked = packed := by
  cases packed <;> rfl

theorem Intent.Ordered.isPacked_route {intent : Intent} {dealing : Dealing}
    {order : ReserveOrder} (ordered : intent.Ordered resolver snapshot dealing order) :
    order.route.isPacked = dealing.packed := by
  rcases ordered.route with ⟨preEncoded, -, route⟩
  rw [route]
  cases dealing.packed <;> rfl

theorem Intent.Accepted.checked {intent : Intent}
    (accepted : intent.Accepted resolver snapshot order) :
    (intent.outlineOn resolver snapshot).Checked resolver snapshot order.outline := by
  cases accepted with
  | dealing deals token ordered =>
      rcases ordered.action with ⟨asset, request, named, asks, acts⟩
      rw [outlineOn_of_dealing deals token, Order.outline, ordered.isPacked_route,
        ordered.approval, amount?_of_reserveAction? acts]
      exact Outline.reserve_checked _ _ ordered.sender (.some ⟨named, asks⟩)
  | nativeSupply acts native _ asks =>
      rw [outlineOn_of_native rfl native]
      exact Outline.nativeSupply_checked acts asks
  | nativeWithdraw acts native _ asks given named =>
      rw [outlineOn_of_native rfl native, outline, given]
      exact Outline.nativeWithdraw_checked acts asks named
  | nativeBorrow acts native _ asks given named =>
      rw [outlineOn_of_native rfl native, outline, given]
      exact Outline.nativeBorrow_checked acts asks named
  | nativeRepay acts native _ asks =>
      rw [outlineOn_of_native rfl native]
      exact Outline.nativeRepay_checked acts asks
  | liquidation acts owes _ asks =>
      rw [Order.outline, Route.isPacked_chosen]
      exact Outline.reserve_checked _ _ acts (.some ⟨owes, asks⟩)
  | usage acts | rateSwap acts =>
      rw [Order.outline, Route.isPacked_chosen]
      exact Outline.reserve_checked _ _ acts .none
  | userEMode acts => exact Outline.reserve_checked false none acts .none
  | swap acts sells takes buys _ _ asks brings signs =>
      rw [outlineOn, outline, Order.isSome_of_signedPermits signs]
      exact Outline.adapter_checked .swapAdapter .received _ _ _ _ acts sells takes asks buys
        brings
  | repayment acts sells takes pays _ _ asks repays signs =>
      rw [outlineOn, outline, Order.isSome_of_signedPermits signs]
      exact Outline.adapter_checked .repayAdapter .repaid _ _ _ _ acts sells takes asks pays
        repays
  | flashLiquidation acts _ lends asks =>
      exact Outline.flashLiquidation_checked _ acts lends asks

theorem Intent.order_checked {intent : Intent}
    (yields : Yields snapshot.MayAnswer (intent.order resolver) order) :
    (intent.outlineOn resolver snapshot).Checked resolver snapshot order.outline :=
  (Intent.accepted yields).checked

/-! ## Members that native currency needs -/

theorem WithdrawIntent.aToken_of_native {intent : WithdrawIntent}
    (yields : Yields snapshot.MayAnswer (intent.order resolver) order)
    (native : (Intent.withdraw intent).isNative resolver snapshot = true) :
    ∃ text, intent.aToken = some text := by
  cases intent.accepted yields with
  | dealing deals token =>
      cases deals
      exact absurd ((Intent.isNative_iff rfl).mp native) token
  | nativeWithdraw _ _ _ _ given => exact ⟨_, given⟩

theorem BorrowIntent.debtToken_of_native {intent : BorrowIntent}
    (yields : Yields snapshot.MayAnswer (intent.order resolver) order)
    (native : (Intent.borrow intent).isNative resolver snapshot = true) :
    ∃ text, intent.debtToken = some text := by
  cases intent.accepted yields with
  | dealing deals token =>
      cases deals
      exact absurd ((Intent.isNative_iff rfl).mp native) token
  | nativeBorrow _ _ _ _ given => exact ⟨_, given⟩

/-! ## What is asked for -/

/-- Orders are sequences of checks and resolutions, so one walk along the binds serves for all. -/
theorem Intent.asksOnly_order (intent : Intent) (resolver : Resolver) :
    AsksOnly ChainQuery.IsResolution (intent.order resolver) := by
  cases intent <;>
    simp only [Intent.order, SupplyIntent.order, SupplyWithPermitIntent.order,
      WithdrawIntent.order, BorrowIntent.order, RepayIntent.order, RepayWithPermitIntent.order,
      SwapCollateralIntent.order, RepayWithCollateralIntent.order, LiquidationCallIntent.order,
      FlashLiquidationIntent.order, SetUsageAsCollateralIntent.order, SetUserEModeIntent.order,
      SwapBorrowRateModeIntent.order] <;>
    repeat' with_reducible first
      | refine asksOnly_bind ?_ fun _ => ?_
      | exact Resolver.asksOnly_validate resolver _
      | exact Resolver.asksOnly_validateOr resolver _ _
      | exact asksOnly_check _
      | exact asksOnly_pure _
      | split

end LendingPool
