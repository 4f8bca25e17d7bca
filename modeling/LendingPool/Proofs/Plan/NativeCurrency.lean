import LendingPool.Proofs.Amount.Typed
import LendingPool.Proofs.Chain.Outcomes
import LendingPool.Proofs.Plan.Selectors
import LendingPool.Proofs.Plan.Denials
/-! Native currency takes the way through the gateway and no other. No contract is told of it as if
it were a token, and it is attached to nothing but supplies and repayments of itself. -/

namespace LendingPool

open Planning

/-! ## Assets -/

def Intent.assetTexts : Intent → List String
  | supply intent => [intent.reserve]
  | supplyWithPermit intent => [intent.reserve]
  | withdraw intent => [intent.reserve]
  | borrow intent => [intent.reserve]
  | repay intent => [intent.reserve]
  | repayWithPermit intent => [intent.reserve]
  | swapCollateral intent => [intent.fromAsset, intent.toAsset]
  | repayWithCollateral intent => [intent.fromAsset, intent.assetToRepay]
  | liquidationCall intent => [intent.debtReserve, intent.collateralReserve]
  | flashLiquidation intent => [intent.collateralReserve, intent.borrowedReserve]
  | setUsageAsCollateral intent => [intent.reserve]
  | setUserEMode _ => []
  | swapBorrowRateMode intent => [intent.reserve]

def ReserveAction.assets {Reserve Quantity : Type} : ReserveAction Reserve Quantity → List Reserve
  | supply asset .. | supplyWithPermit asset .. | withdraw asset _ | borrow asset ..
  | repay asset .. | repayWithPermit asset .. | swapBorrowRateMode asset _
  | setUsageAsCollateral asset _ => [asset]
  | liquidationCall collateral debt .. => [collateral, debt]

def Order.assets : Order → List Address
  | reserve order => order.action.assets
  | native .. => []
  | adapter order => [order.fromAsset, order.toAsset]
  | flashLiquidation order => [order.collateral, order.debt]
  | setUserEMode .. => []

def PoolCall.assets : PoolCall → List Address
  | supply asset .. | supplyWithPermit asset .. | withdraw asset .. | borrow asset ..
  | repay asset .. | repayWithPermit asset .. | swapBorrowRateMode asset _
  | setUsageAsCollateral asset _ => [asset]
  | liquidationCall collateral debt .. => [collateral, debt]
  | flashLoan _ assets .. => assets
  | setUserEMode _ => []

/-- The assets that an instruction tells. Packed calls name reserves by number. -/
def Instruction.assets : Instruction → List Address
  | pool call => call.assets
  | gateway _ => []
  | swap (some loan) exchange => [loan.asset, exchange.toAsset]
  | swap none exchange => [exchange.fromAsset, exchange.toAsset]
  | repay (some loan) payment => [loan.asset, payment.debtAsset]
  | repay none payment => [payment.collateralAsset, payment.debtAsset]
  | liquidate loan liquidation =>
      [loan.asset, liquidation.collateralAsset, liquidation.borrowedAsset]
  | packed _ => []

section

variable {planner : Planner} {resolver : Resolver} {snapshot : Snapshot} {intent : Intent}
  {order : Order} {draft : Draft} {Possible : PossibleReplies}

theorem ReserveAction.assets_withoutAmount {Reserve Quantity : Type}
    (action : ReserveAction Reserve Quantity) : action.withoutAmount.assets = action.assets := by
  cases action <;> rfl

theorem ReserveAction.assets_of_yields_convertAmount {Reserve Quantity Converted : Type}
    {convert : Reserve → Quantity → Planning Converted} {action : ReserveAction Reserve Quantity}
    {converted : ReserveAction Reserve Converted}
    (yields : Yields Possible (action.convertAmount convert) converted) :
    converted.assets = action.assets := by
  rw [← converted.assets_withoutAmount, withoutAmount_of_yields_convertAmount yields,
    assets_withoutAmount]

theorem ReserveAction.assets_toPoolCall (action : ReserveAction Address Amount)
    (beneficiary : Address) : (action.toPoolCall beneficiary).assets = action.assets := by
  cases action <;> rfl

theorem Planner.Drafts.assets (drafts : planner.Drafts Possible order draft) :
    draft.instruction.assets ⊆ order.assets := by
  intro asset member
  cases drafts with
  | direct _ _ converts =>
      have same := ReserveAction.assets_of_yields_convertAmount
        (ReserveOrder.yields_converted converts)
      simp only [Instruction.assets, ReserveAction.assets_toPoolCall, same] at member
      exact member
  | @adapter order =>
      rw [Planner.adapterInstruction] at member
      cases tasks : order.task <;> cases flash : order.flash <;> rw [tasks, flash] at member <;>
        exact member
  | flashLiquidation =>
      simp only [Instruction.assets, Order.assets, List.mem_cons] at member ⊢
      tauto
  | _ => cases member

theorem Planner.Drafts.packs {data : Bytes} (drafts : planner.Drafts Possible order draft)
    (packed : draft.instruction = .packed data) :
    ∃ action preEncoded, Yields Possible (PackedPool.callData action preEncoded) data ∧
      action.assets = order.assets := by
  cases drafts with
  | @packed _ _ _ valued preEncoded _ _ _ converts values encodes =>
      cases packed
      refine ⟨valued, preEncoded, encodes, ?_⟩
      rw [ReserveAction.assets_of_yields_convertAmount values,
        ReserveAction.assets_of_yields_convertAmount (ReserveOrder.yields_converted converts)]
      rfl
  | @adapter order =>
      rw [Planner.adapterInstruction] at packed
      cases tasks : order.task <;> rw [tasks] at packed <;> cases packed
  | _ => cases packed

/-! ## Accepted intents -/

theorem ReserveAction.assets_of_reserveAction? {asset : Address} {request : AmountRequest}
    {action : ReserveAction Address AmountRequest}
    (acts : intent.reserveAction? asset request = some action) : action.assets = [asset] := by
  cases intent with simp only [Intent.reserveAction?, Option.some.injEq, Option.map_eq_some_iff,
    reduceCtorEq] at acts
  | supplyWithPermit | repayWithPermit =>
      rcases acts with ⟨permit, -, rfl⟩
      rfl
  | _ =>
      cases acts
      rfl

theorem Intent.assetTexts_of_dealing {dealing : Dealing}
    (deals : intent.dealing? = some dealing) : intent.assetTexts = [dealing.reserve] := by
  cases intent <;> cases deals <;> rfl

namespace Intent.Accepted

/-- No order is about native currency as a token. -/
theorem native_not_mem (accepted : intent.Accepted resolver snapshot order) :
    nativeCurrency ∉ order.assets := by
  cases accepted with
  | dealing deals token ordered =>
      rcases ordered.action with ⟨asset, request, named, -, acts⟩
      rw [Order.assets, ReserveAction.assets_of_reserveAction? acts, List.mem_singleton]
      exact (ne_nativeCurrency token named).symm
  | nativeSupply | nativeWithdraw | nativeBorrow | nativeRepay | userEMode =>
      exact List.not_mem_nil
  | liquidation _ _ _ _ foreignDebt foreignCollateral =>
      simp [Order.assets, ReserveAction.assets, foreignDebt.symm, foreignCollateral.symm]
  | usage _ _ foreign => simp [Order.assets, ReserveAction.assets, foreign.symm]
  | rateSwap _ _ foreign => simp [Order.assets, ReserveAction.assets, foreign.symm]
  | swap _ _ _ _ _ _ _ _ _ foreignSold foreignBought =>
      simp [Order.assets, foreignSold.symm, foreignBought.symm]
  | repayment _ _ _ _ _ _ _ _ _ foreignSold foreignPaid =>
      simp [Order.assets, foreignSold.symm, foreignPaid.symm]
  | flashLiquidation _ _ _ _ foreignCollateral foreignDebt =>
      simp [Order.assets, foreignCollateral.symm, foreignDebt.symm]

theorem exists_mem_assets (accepted : intent.Accepted resolver snapshot order)
    (foreign : intent.isNative resolver snapshot = false) {text : String}
    (about : text ∈ intent.assetTexts) :
    ∃ asset ∈ order.assets, resolver.account? snapshot text = some asset := by
  cases accepted with
  | dealing deals token ordered =>
      rcases ordered.action with ⟨asset, request, named, -, acts⟩
      rw [assetTexts_of_dealing deals, List.mem_singleton] at about
      refine ⟨asset, ?_, about ▸ named⟩
      rw [Order.assets, ReserveAction.assets_of_reserveAction? acts]
      exact List.mem_singleton_self asset
  | nativeSupply _ native | nativeWithdraw _ native | nativeBorrow _ native
  | nativeRepay _ native => cases foreign.symm.trans ((isNative_iff rfl).mpr native)
  | liquidation _ owes secures =>
      rcases List.mem_pair.mp about with rfl | rfl
      · exact ⟨_, List.mem_pair.mpr (.inr rfl), owes⟩
      · exact ⟨_, List.mem_pair.mpr (.inl rfl), secures⟩
  | usage _ named | rateSwap _ named =>
      rw [List.mem_singleton.mp about]
      exact ⟨_, List.mem_singleton_self _, named⟩
  | userEMode => cases about
  | swap _ sells _ buys | repayment _ sells _ buys =>
      rcases List.mem_pair.mp about with rfl | rfl
      · exact ⟨_, List.mem_pair.mpr (.inl rfl), sells⟩
      · exact ⟨_, List.mem_pair.mpr (.inr rfl), buys⟩
  | flashLiquidation _ secures lends =>
      rcases List.mem_pair.mp about with rfl | rfl
      · exact ⟨_, List.mem_pair.mpr (.inl rfl), secures⟩
      · exact ⟨_, List.mem_pair.mpr (.inr rfl), lends⟩

theorem account_ne_native (accepted : intent.Accepted resolver snapshot order)
    (foreign : intent.isNative resolver snapshot = false) {text : String}
    (about : text ∈ intent.assetTexts) :
    resolver.account? snapshot text ≠ some nativeCurrency := by
  rcases accepted.exists_mem_assets foreign about with ⟨asset, member, named⟩
  rw [named]
  intro native
  rw [Option.some.inj native] at member
  exact accepted.native_not_mem member

/-- The gateway is asked exactly where the reserve is native currency. -/
theorem path_iff (accepted : intent.Accepted resolver snapshot order) :
    order.outline.path = .native ↔ intent.isNative resolver snapshot = true := by
  cases accepted with
  | dealing deals token =>
      rw [isNative_of_dealing deals token]
      exact iff_of_false Outline.path_reserve_ne_native Bool.false_ne_true
  | nativeSupply _ native | nativeWithdraw _ native | nativeBorrow _ native
  | nativeRepay _ native => exact iff_of_true rfl ((isNative_iff rfl).mpr native)
  | liquidation | usage | rateSwap | userEMode =>
      exact iff_of_false Outline.path_reserve_ne_native Bool.false_ne_true
  | swap | repayment | flashLiquidation => exact iff_of_false nofun Bool.false_ne_true

end Intent.Accepted

/-! ## Values -/

def Intent.attached? (isNative : Bool) : Intent → Option String
  | supply intent => if isNative then some intent.amount else none
  | repay intent => if isNative then some intent.amount else none
  | _ => none

theorem units_of_requests {text : String} {amount : DecimalAmount} {decimals : UInt8}
    {units : BaseUnits} (asks : Requests text (.value amount))
    (converts : amount.toUnits decimals = .ok units) :
    units.value.toNat = ⌊typedValue text * 10 ^ decimals.toNat⌋₊ := by
  have value := (DecimalAmount.toUnits_eq_ok_iff.mp converts).2.1
  have parsed := DecimalAmount.toRat_parse (requests_value_iff.mp asks)
  rw [value, DecimalAmount.floorUnits_eq, parsed]

/-- A value is what has to go with an action, in base units of native currency. -/
def Attaches (amount? : Option String) (value : Word) : Prop :=
  match amount? with
  | some text => value.toNat = ⌊typedValue text * 10 ^ 18⌋₊
  | none => value = 0

theorem Planner.Drafts.value_of_reserve {order : ReserveOrder}
    (drafts : planner.Drafts Possible (.reserve order) draft) : draft.value = 0 := by
  cases drafts <;> rfl

theorem Intent.attached?_false (intent : Intent) : intent.attached? false = none := by
  cases intent <;> rfl

theorem Intent.Accepted.attaches (accepted : intent.Accepted resolver snapshot order)
    (drafts : planner.Drafts Possible order draft) :
    Attaches (intent.attached? (intent.isNative resolver snapshot)) draft.value := by
  cases accepted with
  | dealing deals token =>
      rw [isNative_of_dealing deals token, intent.attached?_false]
      exact drafts.value_of_reserve
  | nativeSupply _ native _ asks =>
      rw [(isNative_iff rfl).mpr native]
      cases drafts with
      | supply _ converts => exact units_of_requests asks converts
  | nativeRepay _ native _ asks =>
      rw [(isNative_iff rfl).mpr native]
      cases drafts with
      | repay _ converts => exact units_of_requests asks converts
  | liquidation | usage | rateSwap => exact drafts.value_of_reserve
  | _ =>
      cases drafts
      rfl

theorem Intent.Accepted.repays {intent : RepayIntent}
    (accepted : (Intent.repay intent).Accepted resolver snapshot order)
    (native : (Intent.repay intent).isNative resolver snapshot = true)
    (drafts : planner.Drafts Possible order draft) :
    ∃ pool mode beneficiary,
      GatewayCall.decode? draft.action.call.data =
        some (.repay pool draft.value mode beneficiary) := by
  have told : ∃ pool mode beneficiary,
      draft.action.call.data = (GatewayCall.repay pool draft.value mode beneficiary).encode := by
    cases accepted with
    | dealing deals token =>
        cases deals
        exact absurd ((isNative_iff rfl).mp native) token
    | nativeRepay =>
        cases drafts with
        | repay => exact ⟨_, _, _, rfl⟩
  rcases told with ⟨pool, mode, beneficiary, data⟩
  exact ⟨pool, mode, beneficiary, data ▸ GatewayCall.decode?_encode _⟩

/-! ## Plans -/

theorem Draft.value_of_approval {asked : List ChainQuery} {plan : List Descriptor}
    (finishes : Course Possible draft.finish asked plan) {transaction : Descriptor}
    (member : transaction ∈ plan) : transaction = draft.action ∨ transaction.call.value = 0 := by
  cases gated : draft.gate with
  | none =>
      rcases (course_finish_iff_of_none gated).mp finishes with ⟨-, rfl⟩
      exact .inl (List.mem_singleton.mp member)
  | some gate =>
      rcases (course_finish_iff_of_some gated).mp finishes with ⟨present, -, -, rfl⟩
      rcases List.mem_append.mp member with approval | action
      · right
        rw [Gate.missing] at approval
        split at approval
        · rw [List.mem_singleton.mp approval, Gate.grant]
          split <;> rfl
        · cases approval
      · exact .inl (List.mem_singleton.mp action)

/-- The last transaction of a plan deals with native currency as the intent asks. -/
structure Descriptor.KeepsNative (action : Descriptor) (snapshot : Snapshot) (intent : Intent)
    (isNative : Bool) (instruction : Instruction) : Prop where
  gateway : (∃ call, GatewayCall.decode? action.call.data = some call) ↔ isNative = true
  assets : nativeCurrency ∉ instruction.assets
  packed : ∀ data, instruction = .packed data →
    ∃ reserveAction preEncoded,
      Yields snapshot.MayAnswer (PackedPool.callData reserveAction preEncoded) data ∧
        nativeCurrency ∉ reserveAction.assets
  attaches : Attaches (intent.attached? isNative) action.call.value
  repays : ∀ repayment, intent = .repay repayment → isNative = true →
    ∃ pool mode beneficiary, GatewayCall.decode? action.call.data =
      some (.repay pool action.call.value mode beneficiary)

theorem PermitRequestIntent.foreign {intent : PermitRequestIntent} {order : PermitOrder}
    (yields : Yields snapshot.MayAnswer (intent.order resolver) order) :
    resolver.account? snapshot intent.reserve ≠ some nativeCurrency := by
  simp only [PermitRequestIntent.order, yields_bind_iff, yields_check_iff,
    Resolver.yields_validate_iff, Order.rejectNative_eq_ok_iff] at yields
  rcases yields with ⟨_, -, reserve, named, _, -, _, foreign, -⟩
  exact account_ne_native named foreign

end

namespace Planner

/-- Native currency goes through the gateway alone, and whatever else is asked of it is refused. -/
theorem execute_keeps_native (planner : Planner) (snapshot : Snapshot) (lifetime : Option Nat)
    (cache : Cache) :
    (∀ intent plan later reads,
      Reading.onCached lifetime snapshot cache (planner.execute intent).run =
        (.ok plan, later, reads) →
      plan ≠ [] →
      ∃ action instruction, plan.getLast? = some action ∧
        action.Tells planner (intent.outlineOn planner.resolver snapshot).path instruction ∧
        action.KeepsNative snapshot intent (intent.isNative planner.resolver snapshot)
          instruction ∧
        ∀ transaction ∈ plan, transaction = action ∨ transaction.call.value = 0) ∧
    (∀ intent : Intent, intent.gatewayReserve? = none → ∀ text ∈ intent.assetTexts,
      planner.resolver.account? snapshot text = some nativeCurrency →
      ∃ fault, (Reading.onCached lifetime snapshot cache (planner.execute intent).run).1 =
        .error fault) ∧
    ∀ intent : PermitRequestIntent,
      planner.resolver.account? snapshot intent.reserve = some nativeCurrency →
      ∃ fault, (Reading.onCached lifetime snapshot cache (planner.requestPermit intent).run).1 =
        .error fault := by
  refine ⟨?_, ?_, ?_⟩
  · intro intent plan later reads executed nonempty
    rcases exists_draft_of_onCached executed nonempty with
      ⟨order, draft, finishing, accepted, drafts, finishes⟩
    have path := accepted.checked.path
    have tells := drafts.tells
    rw [← path] at tells
    refine ⟨draft.action, draft.instruction, Draft.getLast?_of_course_finish finishes, tells,
      ⟨?_, ?_, ?_, accepted.attaches drafts, ?_⟩, ?_⟩
    · rw [tells.native_iff, path, accepted.path_iff]
    · exact fun member => accepted.native_not_mem (drafts.assets member)
    · intro data packed
      rcases drafts.packs packed with ⟨action, preEncoded, encodes, assets⟩
      refine ⟨action, preEncoded, encodes, ?_⟩
      rw [assets]
      exact accepted.native_not_mem
    · rintro repayment rfl native
      exact accepted.repays native drafts
    · exact fun transaction member => Draft.value_of_approval finishes member
  · intro intent foreign text about native
    apply exists_fault_of_not_yields
    intro plan yields
    rcases yields_bind_iff.mp yields with ⟨order, orders, -⟩
    have notNative : intent.isNative planner.resolver snapshot = false := by
      rw [Intent.isNative, foreign]
      rfl
    exact (Intent.accepted orders).account_ne_native notNative about native
  · intro intent native
    apply exists_fault_of_not_yields
    intro request yields
    rcases yields_bind_iff.mp yields with ⟨order, orders, -⟩
    exact PermitRequestIntent.foreign orders native

end Planner

/-! ### A supply of native currency -/

namespace Sample

def gatewayPlanner : Planner :=
  { planner with gateway := some ⟨.ofNat 3, .ofNat 1, fun _ => 0⟩ }

def nativeText : String := "0xeeeeeeeeeeeeeeeeeeeeeeeeeeeeeeeeeeeeeeee"

def nativeSupply : Intent := .supply {
  user := "0x000000000000000000000000000000000000000a"
  reserve := nativeText
  amount := "1.5" }

def nativeCollateral : Intent := .setUsageAsCollateral {
  user := "0x000000000000000000000000000000000000000a"
  reserve := nativeText
  useAsCollateral := true }

end Sample

theorem Planner.execute_keeps_native_sample :
    (∃ (plan : List Descriptor) (rest : Cache × List ChainQuery) (action : Descriptor)
      (call : GatewayCall),
      Reading.onCached none Sample.snapshot {}
        (Sample.gatewayPlanner.execute Sample.nativeSupply).run = (.ok plan, rest) ∧
      plan.getLast? = some action ∧ GatewayCall.decode? action.call.data = some call ∧
      action.call.value.toNat = ⌊typedValue "1.5" * 10 ^ 18⌋₊) ∧
    ∃ fault, (Reading.onCached none Sample.snapshot {}
      (Sample.gatewayPlanner.execute Sample.nativeCollateral).run).1 = .error fault := by
  have keeps := execute_keeps_native Sample.gatewayPlanner Sample.snapshot none {}
  have native : Sample.gatewayPlanner.resolver.account? Sample.snapshot Sample.nativeText =
      some nativeCurrency := by decide +kernel
  constructor
  · have entries : (Reading.onCached none Sample.snapshot {}
        (Sample.gatewayPlanner.execute Sample.nativeSupply).run).1.toOption.map List.length =
          some 1 := by decide +kernel
    rcases Sample.exists_nonempty entries with ⟨plan, rest, executed, nonempty⟩
    rcases keeps.1 Sample.nativeSupply plan rest.1 rest.2 executed nonempty with
      ⟨action, instruction, last, -, kept, -⟩
    have isNative : Sample.nativeSupply.isNative Sample.gatewayPlanner.resolver Sample.snapshot =
        true := (Intent.isNative_iff rfl).mpr native
    rw [isNative] at kept
    rcases kept.gateway.mpr rfl with ⟨call, reads⟩
    exact ⟨plan, rest, action, call, executed, last, reads, kept.attaches⟩
  · exact keeps.2.1 Sample.nativeCollateral rfl Sample.nativeText List.mem_cons_self native

end LendingPool
