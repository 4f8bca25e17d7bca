import LendingPool.Proofs.Chain.Planning
import LendingPool.Proofs.Plan.Draft
/-! What the draft of an order can be. There is one way to draft an action by each route, and every
draft comes about in one of these ways. -/

namespace LendingPool

open Planning

variable {Possible : PossibleReplies} {planner : Planner}

/-- The drafts of an order, with the contracts and the amounts that go into them. -/
inductive Planner.Drafts (planner : Planner) (Possible : PossibleReplies) : Order → Draft → Prop
  | direct {order : ReserveOrder} {pool : Address} {action : ReserveAction Address Amount}
      (routes : order.route = .direct) (pools : planner.contracts.pool = some pool)
      (converts : Yields Possible order.converted action) :
      Drafts planner Possible (.reserve order) {
        gas := action.gasAction, limits := planner.limits, sender := order.sender, target := pool
        instruction := .pool (action.toPoolCall order.beneficiary)
        gate := match order.approval, action.amount? with
          | some policy, some (token, amount) => some (.ofAmount token pool amount policy)
          | _, _ => none }
  | packed {order : ReserveOrder} {pool : PackedPool} {action : ReserveAction Address Amount}
      {valued : ReserveAction Address Word} {preEncoded : Option Word} {data : Bytes}
      (routes : order.route = .packed preEncoded) (pools : planner.packedPool = some pool)
      (converts : Yields Possible order.converted action)
      (values : Yields Possible (action.convertAmount fun _ amount => pure amount.value) valued)
      (encodes : Yields Possible (PackedPool.callData valued preEncoded) data) :
      Drafts planner Possible (.reserve order) {
        gas := valued.gasAction, limits := pool.limits, sender := order.sender
        target := pool.address, instruction := .packed data }
  | supply {sender beneficiary : Address} {amount : DecimalAmount} {code : UInt16}
      {gateway : Gateway} {units : BaseUnits} (gateways : planner.gateway = some gateway)
      (converts : amount.toUnits nativeDecimals = .ok units) :
      Drafts planner Possible (.native sender (.supply amount beneficiary code)) {
        gas := .supply, limits := gateway.limits, sender, target := gateway.address
        instruction := .gateway (.deposit gateway.pool beneficiary code), value := units.value }
  | withdraw {sender recipient aToken : Address} {request : AmountRequest} {gateway : Gateway}
      {amount : Amount} (gateways : planner.gateway = some gateway)
      (converts : request.toAmount nativeDecimals = .ok amount) :
      Drafts planner Possible (.native sender (.withdraw request recipient aToken)) {
        gas := .withdrawEth, limits := gateway.limits, sender, target := gateway.address
        instruction := .gateway (.withdraw gateway.pool amount.value recipient)
        gate := some (.ofAmount aToken gateway.address amount .exact) }
  | borrow {sender debtToken : Address} {amount : DecimalAmount} {mode : RateMode}
      {code : UInt16} {gateway : Gateway} {units : BaseUnits}
      (gateways : planner.gateway = some gateway)
      (converts : amount.toUnits nativeDecimals = .ok units) :
      Drafts planner Possible (.native sender (.borrow amount mode code debtToken)) {
        gas := .borrowEth, limits := gateway.limits, sender, target := gateway.address
        instruction := .gateway (.borrow gateway.pool units.value mode.toWord code)
        gate := some (.ofDelegation debtToken gateway.address units.value) }
  | repay {sender beneficiary : Address} {amount : DecimalAmount} {mode : RateMode}
      {gateway : Gateway} {units : BaseUnits} (gateways : planner.gateway = some gateway)
      (converts : amount.toUnits nativeDecimals = .ok units) :
      Drafts planner Possible (.native sender (.repay amount mode beneficiary)) {
        gas := .repay, limits := gateway.limits, sender, target := gateway.address
        instruction := .gateway (.repay gateway.pool units.value mode.toWord beneficiary)
        value := units.value }
  | adapter {order : AdapterOrder} {adapter target : Address} {decimals otherDecimals : UInt8}
      {collateral : DecimalAmount} {sold other : BaseUnits}
      (adapters : planner.adapter? order.task = some adapter)
      (targets : planner.adapterTarget? order adapter = some target)
      (reads : Possible (.decimals order.fromAsset) (.ok decimals))
      (otherReads : Possible (.decimals order.toAsset) (.ok otherDecimals))
      (enlarges : planner.collateral order order.flash = .ok collateral)
      (converts : collateral.toUnits decimals = .ok sold)
      (otherConverts : order.otherAmount.toUnits otherDecimals = .ok other) :
      Drafts planner Possible (.adapter order) {
        gas := Planner.adapterGas order.task, limits := planner.limits, sender := order.sender
        target
        instruction := Planner.adapterInstruction order adapter sold.value other.value
          (match order.permit with
            | some permit => .ofSigned (planner.required sold.value order.flash) permit
            | none => .unused)
        gate := match order.permit with
          | some _ => none
          | none => some (.ofRequired order.fromAToken adapter
              (planner.required sold.value order.flash) order.approval) }
  | flashLiquidation {order : FlashLiquidationOrder} {adapter pool : Address} {decimals : UInt8}
      {loan : DecimalAmount} {lent : BaseUnits}
      (adapters : planner.contracts.flashLiquidationAdapter = some adapter)
      (pools : planner.contracts.pool = some pool)
      (reads : Possible (.decimals order.debt) (.ok decimals))
      (enlarges : (if order.wholeDebt then order.amount.withSurplus planner.surplusPercent
        else .ok order.amount) = .ok loan)
      (converts : loan.toUnits decimals = .ok lent) :
      Drafts planner Possible (.flashLiquidation order) {
        gas := .liquidationFlash, limits := planner.limits, sender := order.initiator
        target := pool
        instruction := .liquidate ⟨adapter, order.debt, lent.value, order.initiator, 0⟩ {
          collateralAsset := order.collateral, borrowedAsset := order.debt, user := order.user
          debtToCover := if order.wholeDebt then Word.max else lent.value
          useEthPath := order.useEthPath } }
  | userEMode {sender pool : Address} {category : UInt8}
      (pools : planner.contracts.pool = some pool) :
      Drafts planner Possible (.setUserEMode sender category) {
        gas := .setUserEMode, limits := planner.limits, sender, target := pool
        instruction := .pool (.setUserEMode category) }

namespace Planner

variable {draft : Draft}

/-! ## Each order in turn -/

theorem of_draftReserve_direct {order : ReserveOrder} (direct : order.route = .direct)
    (yields : Yields Possible (planner.draftReserve order) (some draft)) :
    ∃ pool action, planner.contracts.pool = some pool ∧ Yields Possible order.converted action ∧
      draft = {
        gas := action.gasAction, limits := planner.limits, sender := order.sender, target := pool
        instruction := .pool (action.toPoolCall order.beneficiary)
        gate := match order.approval, action.amount? with
          | some policy, some (token, amount) => some (.ofAmount token pool amount policy)
          | _, _ => none } := by
  rw [draftReserve, direct] at yields
  cases pools : planner.contracts.pool with
  | none =>
      rw [pools] at yields
      cases yields_pure_iff.mp yields
  | some pool =>
      rw [pools] at yields
      simp only [yields_bind_iff, yields_pure_iff, Option.some.injEq] at yields
      rcases yields with ⟨action, converts, rfl⟩
      exact ⟨pool, action, rfl, converts, rfl⟩

theorem of_draftReserve_packed {order : ReserveOrder} {preEncoded : Option Word}
    (packed : order.route = .packed preEncoded)
    (yields : Yields Possible (planner.draftReserve order) (some draft)) :
    ∃ pool action valued data, planner.packedPool = some pool ∧
      Yields Possible order.converted action ∧
      Yields Possible (action.convertAmount fun _ amount => pure amount.value) valued ∧
      Yields Possible (PackedPool.callData valued preEncoded) data ∧
      draft = {
        gas := valued.gasAction, limits := pool.limits, sender := order.sender
        target := pool.address, instruction := .packed data } := by
  rw [draftReserve, packed] at yields
  cases pools : planner.packedPool with
  | none =>
      rw [pools] at yields
      cases yields_pure_iff.mp yields
  | some pool =>
      rw [pools] at yields
      simp only [yields_bind_iff, yields_pure_iff, Option.some.injEq] at yields
      rcases yields with ⟨action, converts, valued, values, data, encodes, rfl⟩
      exact ⟨pool, action, valued, data, rfl, converts, values, encodes, rfl⟩

theorem drafts_of_draftReserve {order : ReserveOrder}
    (yields : Yields Possible (planner.draftReserve order) (some draft)) :
    planner.Drafts Possible (.reserve order) draft := by
  cases routes : order.route with
  | direct =>
      rcases of_draftReserve_direct routes yields with ⟨pool, action, pools, converts, rfl⟩
      exact .direct routes pools converts
  | packed preEncoded =>
      rcases of_draftReserve_packed routes yields with
        ⟨pool, action, valued, data, pools, converts, values, encodes, rfl⟩
      exact .packed routes pools converts values encodes

theorem drafts_of_draftNative {sender : Address} {action : NativeAction}
    (yields : Yields Possible (planner.draftNative sender action) (some draft)) :
    planner.Drafts Possible (.native sender action) draft := by
  rw [draftNative] at yields
  cases gateways : planner.gateway with
  | none =>
      rw [gateways] at yields
      cases yields_pure_iff.mp yields
  | some gateway =>
      rw [gateways] at yields
      cases action with
        simp only [yields_bind_iff, yields_check_iff, yields_pure_iff, Option.some.injEq] at yields
      | supply =>
          rcases yields with ⟨units, converts, rfl⟩
          exact .supply gateways converts
      | withdraw =>
          rcases yields with ⟨amount, converts, rfl⟩
          exact .withdraw gateways converts
      | borrow =>
          rcases yields with ⟨units, converts, rfl⟩
          exact .borrow gateways converts
      | repay =>
          rcases yields with ⟨units, converts, rfl⟩
          exact .repay gateways converts

theorem drafts_of_draftAdapter {order : AdapterOrder}
    (yields : Yields Possible (planner.draftAdapter order) (some draft)) :
    planner.Drafts Possible (.adapter order) draft := by
  rw [draftAdapter] at yields
  cases adapters : planner.adapter? order.task with
  | none =>
      rw [adapters] at yields
      cases yields_pure_iff.mp yields
  | some adapter =>
      rw [adapters] at yields
      dsimp only at yields
      cases targets : planner.adapterTarget? order adapter with
      | none =>
          rw [targets] at yields
          cases yields_pure_iff.mp yields
      | some target =>
          rw [targets] at yields
          simp only [yields_bind_iff, yields_check_iff, yields_pure_iff, Option.some.injEq]
            at yields
          rcases yields with ⟨decimals, reads, otherDecimals, otherReads, other, otherConverts,
            collateral, enlarges, sold, converts, rfl⟩
          exact .adapter adapters targets (yields_read_iff.mp reads)
            (yields_read_iff.mp otherReads) enlarges converts otherConverts

theorem drafts_of_draftFlashLiquidation {order : FlashLiquidationOrder}
    (yields : Yields Possible (planner.draftFlashLiquidation order) (some draft)) :
    planner.Drafts Possible (.flashLiquidation order) draft := by
  rw [draftFlashLiquidation] at yields
  cases adapters : planner.contracts.flashLiquidationAdapter with
  | none =>
      rw [adapters] at yields
      cases yields_pure_iff.mp yields
  | some adapter =>
      rw [adapters] at yields
      dsimp only at yields
      cases pools : planner.contracts.pool with
      | none =>
          rw [pools] at yields
          cases yields_pure_iff.mp yields
      | some pool =>
          rw [pools] at yields
          simp only [yields_bind_iff, yields_check_iff, yields_pure_iff, Option.some.injEq]
            at yields
          rcases yields with ⟨loan, enlarges, decimals, reads, lent, converts, rfl⟩
          exact .flashLiquidation adapters pools (yields_read_iff.mp reads) enlarges converts

theorem drafts_of_draftSetUserEMode {sender : Address} {category : UInt8}
    (yields : Yields Possible (planner.draftSetUserEMode sender category) (some draft)) :
    planner.Drafts Possible (.setUserEMode sender category) draft := by
  rw [draftSetUserEMode] at yields
  cases pools : planner.contracts.pool with
  | none =>
      rw [pools] at yields
      cases yields_pure_iff.mp yields
  | some pool =>
      rw [pools] at yields
      simp only [yields_pure_iff, Option.some.injEq] at yields
      rw [← yields]
      exact .userEMode pools

theorem drafts_of_draft {order : Order}
    (yields : Yields Possible (planner.draft order) (some draft)) :
    planner.Drafts Possible order draft := by
  cases order with
  | reserve order => exact drafts_of_draftReserve yields
  | native sender action => exact drafts_of_draftNative yields
  | adapter order => exact drafts_of_draftAdapter yields
  | flashLiquidation order => exact drafts_of_draftFlashLiquidation yields
  | setUserEMode sender category => exact drafts_of_draftSetUserEMode yields

end Planner

end LendingPool
