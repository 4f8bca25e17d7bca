import LendingPool.Proofs.Plan.Actions
import LendingPool.Proofs.Plan.Following
import LendingPool.Settings
/-! Gas limits of planned transactions. A limit depends on the kind of transaction and on the
intent, and is the one in the settings, or else the default. -/

namespace LendingPool

open Planning

/-! ## Overrides -/

theorem GasAction.ofName?_name (action : GasAction) : ofName? action.name = some action := by
  cases action <;> decide +kernel

theorem GasAction.ofName?_eq_some_iff {text : String} {action : GasAction} :
    ofName? text = some action ↔ text = action.name := by
  constructor
  · intro found
    rw [ofName?] at found
    have named := List.find?_some found
    exact (beq_iff_eq.mp named).symm
  · rintro rfl
    exact action.ofName?_name

namespace GasLimits

def configured (overrides : List (String × UInt64)) : GasLimits :=
  fun action => (overrides.lookup action.name).getD action.defaultLimit

theorem ofNames_eq_ok {overrides : List (String × UInt64)} {limits : GasLimits}
    (accepted : ofNames overrides = .ok limits) : limits = configured overrides := by
  rw [ofNames, map_eq_pure_bind] at accepted
  rcases bind_eq_ok_iff.mp accepted with ⟨named, names, made⟩
  cases made
  funext action
  rw [ofOverrides, configured]
  congr 1
  clear accepted
  induction overrides generalizing named with
  | nil =>
      cases names
      rfl
  | cons entry overrides induction =>
      rcases entry with ⟨name, limit⟩
      rw [List.mapM_cons] at names
      rcases bind_eq_ok_iff.mp names with ⟨first, stands, rest⟩
      rcases bind_eq_ok_iff.mp rest with ⟨others, follow, joined⟩
      cases joined
      dsimp only at stands
      split at stands
      · rename_i other found
        cases stands
        have same : (action == other) = (action.name == name) := by
          rw [Bool.eq_iff_iff, beq_iff_eq, beq_iff_eq, GasAction.ofName?_eq_some_iff.mp found]
          refine ⟨congrArg GasAction.name, fun sameName => ?_⟩
          exact Option.some.inj (by rw [← action.ofName?_name, sameName, other.ofName?_name])
        rw [List.lookup_cons, List.lookup_cons, same, induction _ follow]
      · cases stands

end GasLimits

/-! ## The action of an intent -/

def Intent.gasAction (isNative : Bool) : Intent → GasAction
  | supply _ | supplyWithPermit _ => .supply
  | withdraw _ => if isNative then .withdrawEth else .withdraw
  | borrow _ => if isNative then .borrowEth else .borrow
  | repay _ | repayWithPermit _ => .repay
  | swapCollateral _ => .swapCollateral
  | repayWithCollateral _ => .repayCollateral
  | liquidationCall _ => .liquidationCall
  | flashLiquidation _ => .liquidationFlash
  | setUsageAsCollateral _ => .setUsageAsCollateral
  | setUserEMode _ => .setUserEMode
  | swapBorrowRateMode _ => .swapBorrowRateMode

def Order.gasAction : Order → GasAction
  | reserve order => order.action.gasAction
  | native _ (.supply ..) => .supply
  | native _ (.withdraw ..) => .withdrawEth
  | native _ (.borrow ..) => .borrowEth
  | native _ (.repay ..) => .repay
  | adapter order => Planner.adapterGas order.task
  | flashLiquidation _ => .liquidationFlash
  | setUserEMode .. => .setUserEMode

variable {planner : Planner} {Possible : PossibleReplies} {resolver : Resolver}
  {snapshot : Snapshot} {intent : Intent} {order : Order} {draft : Draft}

theorem Planner.Drafts.gas (drafts : planner.Drafts Possible order draft) :
    draft.gas = order.gasAction := by
  cases drafts with
  | direct _ _ converts =>
      exact ReserveAction.gasAction_of_yields_convertAmount (ReserveOrder.yields_converted converts)
  | packed _ _ converts values =>
      exact (ReserveAction.gasAction_of_yields_convertAmount values).trans
        (ReserveAction.gasAction_of_yields_convertAmount (ReserveOrder.yields_converted converts))
  | _ => rfl

/-- The limits that hold on a path. The gateway and the pool for packed calls have their own. -/
def Planner.limitsOn (planner : Planner) : Path → GasLimits
  | .native => (planner.gateway.map Gateway.limits).getD planner.limits
  | .packed => (planner.packedPool.map PackedPool.limits).getD planner.limits
  | _ => planner.limits

theorem Planner.Drafts.limits (drafts : planner.Drafts Possible order draft) :
    draft.limits = planner.limitsOn order.outline.path := by
  cases drafts with
  | direct routes => rw [Order.outline, routes]; rfl
  | packed routes pools =>
      rw [Order.outline, routes]
      change _ = (planner.packedPool.map PackedPool.limits).getD planner.limits
      rw [pools]
      rfl
  | supply gateways | withdraw gateways | borrow gateways | repay gateways =>
      change _ = (planner.gateway.map Gateway.limits).getD planner.limits
      rw [gateways]
      rfl
  | @adapter order => rw [Order.outline, Order.adapterOutline]; cases order.task <;> rfl
  | _ => rfl

theorem ReserveAction.gasAction_of_reserveAction? {asset : Address} {request : AmountRequest}
    {action : ReserveAction Address AmountRequest}
    (acts : intent.reserveAction? asset request = some action) :
    action.gasAction = intent.gasAction false := by
  cases intent with simp only [Intent.reserveAction?, Option.some.injEq, Option.map_eq_some_iff,
    reduceCtorEq] at acts
  | supplyWithPermit | repayWithPermit =>
      rcases acts with ⟨permit, -, rfl⟩
      rfl
  | _ =>
      cases acts
      rfl

theorem Intent.Accepted.gasAction (accepted : intent.Accepted resolver snapshot order) :
    order.gasAction = intent.gasAction (intent.isNative resolver snapshot) := by
  cases accepted with
  | dealing deals token ordered =>
      rcases ordered.action with ⟨asset, request, -, -, acts⟩
      rw [isNative_of_dealing deals token]
      exact ReserveAction.gasAction_of_reserveAction? acts
  | nativeSupply _ native | nativeWithdraw _ native | nativeBorrow _ native
  | nativeRepay _ native => rw [(isNative_iff rfl).mpr native]; rfl
  | _ => rfl

/-! ## Planned transactions -/

def TransactionKind.gasAction (action : GasAction) : TransactionKind → GasAction
  | tokenApproval => .approval
  | delegationApproval => .delegationApproval
  | poolAction => action

theorem Gate.gasLimit_grant (gate : Gate) (owner : Address) (limits : GasLimits)
    (action : GasAction) :
    (gate.grant owner limits).gasLimit =
      limits ((gate.grant owner limits).kind.gasAction action) := by
  rw [grant]
  split <;> rfl

theorem Draft.gasLimit_of_course_finish {asked : List ChainQuery} {plan : List Descriptor}
    (finishes : Course Possible draft.finish asked plan) {descriptor : Descriptor}
    (member : descriptor ∈ plan) :
    descriptor.gasLimit = draft.limits (descriptor.kind.gasAction draft.gas) := by
  cases gated : draft.gate with
  | none =>
      rcases (course_finish_iff_of_none gated).mp finishes with ⟨-, rfl⟩
      rw [List.mem_singleton.mp member]
      rfl
  | some gate =>
      rcases (course_finish_iff_of_some gated).mp finishes with ⟨present, -, -, rfl⟩
      rcases List.mem_append.mp member with granted | acted
      · rw [Gate.missing] at granted
        split at granted
        · rw [List.mem_singleton.mp granted]
          exact gate.gasLimit_grant draft.sender draft.limits draft.gas
        · cases granted
      · rw [List.mem_singleton.mp acted]
        rfl

theorem Planner.gasLimit_of_onCached {lifetime : Option Nat} {cache later : Cache}
    {plan : List Descriptor} {reads : List ChainQuery}
    (executed : Reading.onCached lifetime snapshot cache (planner.execute intent).run =
      (.ok plan, later, reads)) {descriptor : Descriptor} (member : descriptor ∈ plan) :
    descriptor.gasLimit =
      planner.limitsOn (intent.outlineOn planner.resolver snapshot).path
        (descriptor.kind.gasAction
          (intent.gasAction (intent.isNative planner.resolver snapshot))) := by
  rcases exists_draft_of_onCached executed (List.ne_nil_of_mem member) with
    ⟨order, draft, finishing, accepted, drafts, finishes⟩
  rw [Draft.gasLimit_of_course_finish finishes member, drafts.limits, drafts.gas,
    accepted.gasAction, accepted.checked.path]

/-! ## Assemblies -/

/-- The limits that an assembly sets on a path. A gateway or a pool for packed calls that is given
brings limits of its own. -/
def Assembly.limitsOn (assembly : Assembly) (overrides : List (String × UInt64)) :
    Path → GasLimits
  | .native => (assembly.gateway.map Gateway.limits).getD (.configured overrides)
  | .packed => (assembly.packedPool.map PackedPool.limits).getD (.configured overrides)
  | _ => .configured overrides

theorem Assembly.limitsOn_eq_configured {assembly : Assembly} (noGateway : assembly.gateway = none)
    (noPackedPool : assembly.packedPool = none) (overrides : List (String × UInt64)) (path : Path) :
    assembly.limitsOn overrides path = .configured overrides := by
  cases path <;> simp [limitsOn, noGateway, noPackedPool]

theorem Assembly.limitsOn_of_build {assembly : Assembly} {settings : Settings}
    (configures : assembly.settings = some settings) (builds : assembly.build = .ok planner)
    (path : Path) :
    planner.limitsOn path = assembly.limitsOn settings.planning.gasLimits path := by
  rw [build, configures] at builds
  rcases bind_eq_ok_iff.mp builds with ⟨-, -, builds⟩
  rcases bind_eq_ok_iff.mp builds with ⟨-, -, builds⟩
  rcases bind_eq_ok_iff.mp builds with ⟨-, -, builds⟩
  rcases bind_eq_ok_iff.mp builds with ⟨limits, named, builds⟩
  cases builds
  cases GasLimits.ofNames_eq_ok named
  cases path with
  | native =>
      rw [Planner.limitsOn, limitsOn]
      cases assembly.gateway with
      | some gateway => rfl
      | none =>
          rw [Contracts.gateway?]
          cases settings.contracts.wrappedTokenGateway <;> cases settings.contracts.pool <;> rfl
  | packed =>
      rw [Planner.limitsOn, limitsOn]
      cases assembly.packedPool with
      | some pool => rfl
      | none =>
          rw [Contracts.packedPool?]
          cases assembly.readsReserves <;> cases settings.contracts.l2Pool <;> rfl
  | _ => rfl

end LendingPool
