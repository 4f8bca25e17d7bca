import LendingPool.Settings
import LendingPool.Proofs.Chain.Outcomes
import LendingPool.Proofs.Plan.Shape
/-! What the configured contracts decide, and what they do not. Intents are checked before anybody
looks for a contract, so no contract matters to a check. A contract that is not there is no fault:
it leaves nothing to send, and nothing more is read. -/

namespace LendingPool

open Planning

/-! ## The contracts that an action needs -/

section

variable {Token Quantity : Type}

def Outline.lends (outline : Outline Token Quantity) : Bool :=
  outline.legs.any fun leg => leg.role = .loan

/-- Whether the contracts are there that an action of this outline needs. Packed calls also need
somebody who knows the reserves by their numbers. -/
def Contracts.provide (contracts : Contracts) (readsReserves : Bool)
    (outline : Outline Token Quantity) : Bool :=
  match outline.path with
  | .standard => contracts.pool.isSome
  | .packed => readsReserves && contracts.l2Pool.isSome
  | .native => contracts.wrappedTokenGateway.isSome && contracts.pool.isSome
  | .swapAdapter =>
      contracts.swapCollateralAdapter.isSome && (!outline.lends || contracts.pool.isSome)
  | .repayAdapter =>
      contracts.repayWithCollateralAdapter.isSome && (!outline.lends || contracts.pool.isSome)
  | .flashLiquidation => contracts.flashLiquidationAdapter.isSome && contracts.pool.isSome

theorem Contracts.provide_none (readsReserves : Bool) (outline : Outline Token Quantity) :
    ({} : Contracts).provide readsReserves outline = false := by
  rw [provide]
  cases outline.path with
  | packed => exact Bool.and_false _
  | _ => rfl

end

theorem Outline.Checked.lends {resolver : Resolver} {snapshot : Snapshot}
    {typed : Outline String String} {checked : Outline Address AmountRequest}
    (agree : typed.Checked resolver snapshot checked) : typed.lends = checked.lends := by
  have legs := agree.legs
  rw [Outline.lends, Outline.lends]
  generalize typed.legs = typedLegs at legs
  generalize checked.legs = checkedLegs at legs
  induction legs with
  | nil => rfl
  | cons leg _ induction => rw [List.any_cons, List.any_cons, induction, leg.1]

theorem Outline.Checked.provide {resolver : Resolver} {snapshot : Snapshot}
    {typed : Outline String String} {checked : Outline Address AmountRequest}
    (agree : typed.Checked resolver snapshot checked) (contracts : Contracts)
    (readsReserves : Bool) :
    contracts.provide readsReserves typed = contracts.provide readsReserves checked := by
  rw [Contracts.provide, Contracts.provide, agree.path, agree.lends]

/-! ## Planners that differ in their contracts -/

/-- The same planner with other contracts, and the services that they make possible. -/
def Planner.equipped (planner : Planner) (contracts : Contracts) (readsReserves : Bool) : Planner :=
  { planner with
    contracts
    gateway := contracts.gateway? planner.limits
    packedPool := if readsReserves then contracts.packedPool? planner.limits else none }

def Assembly.configured (assembly : Assembly) (contracts : Contracts) : Assembly :=
  { assembly with settings := assembly.settings.map ({ · with contracts }) }

theorem Contracts.isSome_gateway? (contracts : Contracts) (limits : GasLimits) :
    (contracts.gateway? limits).isSome =
      (contracts.wrappedTokenGateway.isSome && contracts.pool.isSome) := by
  rw [gateway?]
  cases contracts.wrappedTokenGateway <;> cases contracts.pool <;> rfl

theorem Contracts.isSome_packedPool? (contracts : Contracts) (limits : GasLimits) :
    (contracts.packedPool? limits).isSome = contracts.l2Pool.isSome := by
  rw [packedPool?]
  cases contracts.l2Pool <;> rfl

namespace Planner

variable {planner : Planner} {contracts : Contracts} {readsReserves : Bool}
  {Possible : PossibleReplies}

/-! ## A contract is missing -/

theorem gateway_of_lacking
    (lacking : (contracts.wrappedTokenGateway.isSome && contracts.pool.isSome) = false) :
    (planner.equipped contracts readsReserves).gateway = none := by
  have absent : (contracts.gateway? planner.limits).isSome = false := by
    rw [Contracts.isSome_gateway?, lacking]
  simpa [equipped] using absent

theorem packedPool_of_lacking (lacking : (readsReserves && contracts.l2Pool.isSome) = false) :
    (planner.equipped contracts readsReserves).packedPool = none := by
  rw [← contracts.isSome_packedPool? planner.limits] at lacking
  cases readsReserves with
  | false => rfl
  | true => simpa [equipped] using lacking

theorem draftReserve_of_lacking {order : ReserveOrder}
    (lacking : contracts.provide readsReserves (Order.reserve order).outline = false) :
    (planner.equipped contracts readsReserves).draftReserve order = pure none := by
  rw [draftReserve]
  cases routes : order.route with
  | direct =>
      have noPool : contracts.pool = none := by
        simpa [Contracts.provide, Order.outline, routes, Route.isPacked, Outline.reserve]
          using lacking
      simp [equipped, noPool]
  | packed preEncoded =>
      rw [Order.outline, routes] at lacking
      rw [packedPool_of_lacking lacking]

theorem draftNative_of_lacking {sender : Address} {action : NativeAction}
    (lacking : contracts.provide readsReserves (Order.native sender action).outline = false) :
    (planner.equipped contracts readsReserves).draftNative sender action = pure none := by
  have noGateway : (planner.equipped contracts readsReserves).gateway = none := by
    apply gateway_of_lacking
    cases action <;> exact lacking
  rw [draftNative, noGateway]

theorem provide_adapter (planner : Planner) {order : AdapterOrder} :
    contracts.provide readsReserves (Order.adapter order).outline =
      (((planner.equipped contracts readsReserves).adapter? order.task).isSome &&
        (!order.flash || contracts.pool.isSome)) := by
  rw [Order.outline, Order.adapterOutline]
  cases order.task <;> cases order.flash <;> rfl

theorem draftAdapter_of_lacking {order : AdapterOrder}
    (lacking : contracts.provide readsReserves (Order.adapter order).outline = false) :
    (planner.equipped contracts readsReserves).draftAdapter order = pure none := by
  rw [provide_adapter planner] at lacking
  rw [draftAdapter]
  cases adapters : (planner.equipped contracts readsReserves).adapter? order.task with
  | none => rfl
  | some adapter =>
      have flash : order.flash = true ∧ contracts.pool = none := by
        simpa [adapters] using lacking
      simp [adapterTarget?, flash.1, equipped, flash.2]

theorem draftFlashLiquidation_of_lacking {order : FlashLiquidationOrder}
    (lacking : contracts.provide readsReserves (Order.flashLiquidation order).outline = false) :
    (planner.equipped contracts readsReserves).draftFlashLiquidation order = pure none := by
  have lacking : (contracts.flashLiquidationAdapter.isSome && contracts.pool.isSome) = false :=
    lacking
  rw [draftFlashLiquidation, equipped]
  cases adapters : contracts.flashLiquidationAdapter with
  | none => rfl
  | some adapter =>
      have noPool : contracts.pool = none := by
        simpa [adapters] using lacking
      rw [noPool]

theorem draft_of_lacking {order : Order}
    (lacking : contracts.provide readsReserves order.outline = false) :
    (planner.equipped contracts readsReserves).draft order = pure none := by
  cases order with
  | reserve order => exact draftReserve_of_lacking lacking
  | native sender action => exact draftNative_of_lacking lacking
  | adapter order => exact draftAdapter_of_lacking lacking
  | flashLiquidation order => exact draftFlashLiquidation_of_lacking lacking
  | setUserEMode sender category =>
      have noPool : contracts.pool = none := by
        simpa [Contracts.provide, Order.outline, Outline.reserve] using lacking
      simp [draft, draftSetUserEMode, equipped, noPool]

theorem plan_of_lacking {order : Order}
    (lacking : contracts.provide readsReserves order.outline = false) :
    (planner.equipped contracts readsReserves).plan order = pure [] := by
  rw [plan_eq, draft_of_lacking lacking, pure_bind, Draft.finish?]

/-! ## All contracts are there

Whatever a draft comes to then, it does not come to nothing. -/

theorem not_yields_draftReserve {order : ReserveOrder}
    (offered : contracts.provide readsReserves (Order.reserve order).outline = true) :
    ¬ Yields Possible ((planner.equipped contracts readsReserves).draftReserve order) none := by
  intro yields
  rw [draftReserve] at yields
  cases routes : order.route with
  | direct =>
      rw [Order.outline, routes] at offered
      rcases Option.isSome_iff_exists.mp offered with ⟨pool, pools⟩
      simp only [routes, equipped, pools] at yields
      rcases yields_bind_iff.mp yields with ⟨action, -, rest⟩
      cases yields_pure_iff.mp rest
  | packed preEncoded =>
      rw [Order.outline, routes] at offered
      rcases Bool.and_eq_true_iff.mp offered with ⟨reads, known⟩
      rcases Option.isSome_iff_exists.mp known with ⟨pool, pools⟩
      simp only [routes, equipped, reads, Contracts.packedPool?, pools, if_true,
        Option.bind_eq_bind, Option.bind_some, Option.pure_def, yields_bind_iff] at yields
      rcases yields with ⟨action, -, valued, -, data, -, rest⟩
      cases yields_pure_iff.mp rest

theorem not_yields_draftNative {sender : Address} {action : NativeAction}
    (offered : contracts.provide readsReserves (Order.native sender action).outline = true) :
    ¬ Yields Possible ((planner.equipped contracts readsReserves).draftNative sender action)
      none := by
  intro yields
  have known : (contracts.gateway? planner.limits).isSome = true := by
    rw [Contracts.isSome_gateway?]
    cases action <;> exact offered
  rcases Option.isSome_iff_exists.mp known with ⟨gateway, gateways⟩
  rw [draftNative, equipped, gateways] at yields
  cases action with
  | supply | withdraw | borrow | repay =>
      rcases yields_bind_iff.mp yields with ⟨amount, -, rest⟩
      cases yields_pure_iff.mp rest

theorem not_yields_draftAdapter {order : AdapterOrder}
    (offered : contracts.provide readsReserves (Order.adapter order).outline = true) :
    ¬ Yields Possible ((planner.equipped contracts readsReserves).draftAdapter order) none := by
  intro yields
  rw [provide_adapter planner, Bool.and_eq_true_iff] at offered
  rcases Option.isSome_iff_exists.mp offered.1 with ⟨adapter, adapters⟩
  have targets : ∃ target,
      (planner.equipped contracts readsReserves).adapterTarget? order adapter = some target := by
    rw [adapterTarget?]
    cases flash : order.flash with
    | false => exact ⟨adapter, rfl⟩
    | true =>
        rw [flash] at offered
        exact Option.isSome_iff_exists.mp offered.2
  rcases targets with ⟨target, targets⟩
  rw [draftAdapter] at yields
  simp only [adapters, targets, yields_bind_iff] at yields
  rcases yields with ⟨_, -, _, -, _, -, _, -, _, -, rest⟩
  cases yields_pure_iff.mp rest

theorem not_yields_draftFlashLiquidation {order : FlashLiquidationOrder}
    (offered : contracts.provide readsReserves (Order.flashLiquidation order).outline = true) :
    ¬ Yields Possible ((planner.equipped contracts readsReserves).draftFlashLiquidation order)
      none := by
  intro yields
  rcases Bool.and_eq_true_iff.mp offered with ⟨liquidates, known⟩
  rcases Option.isSome_iff_exists.mp liquidates with ⟨adapter, adapters⟩
  rcases Option.isSome_iff_exists.mp known with ⟨pool, pools⟩
  rw [draftFlashLiquidation, equipped] at yields
  simp only [adapters, pools, yields_bind_iff] at yields
  rcases yields with ⟨_, -, _, -, _, -, rest⟩
  cases yields_pure_iff.mp rest

theorem not_yields_draft {order : Order}
    (offered : contracts.provide readsReserves order.outline = true) :
    ¬ Yields Possible ((planner.equipped contracts readsReserves).draft order) none := by
  cases order with
  | reserve order => exact not_yields_draftReserve offered
  | native sender action => exact not_yields_draftNative offered
  | adapter order => exact not_yields_draftAdapter offered
  | flashLiquidation order => exact not_yields_draftFlashLiquidation offered
  | setUserEMode sender category =>
      rcases Option.isSome_iff_exists.mp offered with ⟨pool, pools⟩
      intro yields
      simp only [draft, draftSetUserEMode, equipped, pools] at yields
      cases yields_pure_iff.mp yields

theorem not_yields_plan {order : Order}
    (offered : contracts.provide readsReserves order.outline = true) :
    ¬ Yields Possible ((planner.equipped contracts readsReserves).plan order) [] := by
  intro yields
  rw [plan_eq] at yields
  rcases yields_bind_iff.mp yields with ⟨draft?, drafts, asked, finishes⟩
  cases draft? with
  | none => exact not_yields_draft offered drafts
  | some draft => cases Draft.getLast?_of_course_finish finishes

end Planner

/-! ## Two runs -/

/-- How a run without any contract compares with a run with some contracts, which may or may not
be all that are needed. -/
structure Validated {α : Type} (nothing : α) (provided : Bool)
    (bare run : Except Fault α × Cache × List ChainQuery) : Prop where
  settled : bare.1 = .ok nothing ∨ ∃ fault, bare.1 = .error fault
  reads : ∀ query ∈ bare.2.2, query.IsResolution
  refused : ∀ fault, bare.1 = .error fault → run = bare
  lacking : bare.1 = .ok nothing → provided = false → run = bare
  offered : bare.1 = .ok nothing → provided = true → run.1 ≠ .ok nothing

section

variable {α β : Type} {nothing : α} {provided : Bool} {snapshot : Snapshot}

/-- Checks that only ask for names come first. What follows them may depend on contracts. -/
theorem Validated.of_bind {checks : Planning β} {bare next : β → Planning α}
    (asksOnly : AsksOnly ChainQuery.IsResolution checks)
    (nothingThere : ∀ order, bare order = pure nothing)
    (lacking : ∀ order, Yields snapshot.MayAnswer checks order → provided = false →
      next order = pure nothing)
    (offered : ∀ order, Yields snapshot.MayAnswer checks order → provided = true →
      ¬ Yields snapshot.MayAnswer (next order) nothing)
    (lifetime : Option Nat) (cache : Cache) :
    Validated nothing provided
      (Reading.onCached lifetime snapshot cache (checks >>= bare).run)
      (Reading.onCached lifetime snapshot cache (checks >>= next).run) := by
  have checked := onCached_of_asksOnly asksOnly snapshot lifetime cache
  have names := isResolution_of_mem asksOnly snapshot
  cases outcomes : outcome snapshot checks with
  | error fault =>
      rw [outcomes] at checked
      rw [onCached_bind_of_error checked, onCached_bind_of_error checked]
      exact ⟨.inr ⟨fault, rfl⟩, names, fun _ _ => rfl, nofun, nofun⟩
  | ok order =>
      rw [outcomes] at checked
      have yields := (outcome_eq_ok_iff.mp outcomes).mayAnswer
      rw [onCached_bind_of_ok checked (nothingThere order)]
      refine ⟨.inl rfl, names, nofun, fun _ lacks => ?_, fun _ offers nothingComes => ?_⟩
      · exact onCached_bind_of_ok checked (lacking order yields lacks)
      · rcases yields_bind_iff.mp (yields_of_onCached nothingComes) with ⟨order, orders, plans⟩
        exact offered order orders offers plans

end

/-! ## Whatever the contracts are -/

theorem PermitRequestIntent.asksOnly_order (intent : PermitRequestIntent) (resolver : Resolver) :
    AsksOnly ChainQuery.IsResolution (intent.order resolver) := by
  apply asksOnly_bind (Resolver.asksOnly_validate resolver intent.user)
  intro user
  apply asksOnly_bind (Resolver.asksOnly_validate resolver intent.reserve)
  intro reserve
  apply asksOnly_bind (asksOnly_check _)
  intro amount
  exact asksOnly_bind (asksOnly_check _) fun _ => asksOnly_pure _

namespace Planner

variable (planner : Planner) (contracts : Contracts) (readsReserves : Bool)
  (snapshot : Snapshot) (lifetime : Option Nat) (cache : Cache)

theorem execute_validated (intent : Intent) :
    Validated [] (contracts.provide readsReserves (intent.outlineOn planner.resolver snapshot))
      (Reading.onCached lifetime snapshot cache
        ((planner.equipped {} readsReserves).execute intent).run)
      (Reading.onCached lifetime snapshot cache
        ((planner.equipped contracts readsReserves).execute intent).run) := by
  apply Validated.of_bind (intent.asksOnly_order planner.resolver)
  · intro order
    exact plan_of_lacking (Contracts.provide_none readsReserves order.outline)
  · intro order orders lacks
    rw [(Intent.order_checked orders).provide] at lacks
    exact plan_of_lacking lacks
  · intro order orders offers
    rw [(Intent.order_checked orders).provide] at offers
    exact not_yields_plan offers

theorem requestPermit_validated (intent : PermitRequestIntent) :
    Validated .unavailable contracts.pool.isSome
      (Reading.onCached lifetime snapshot cache
        ((planner.equipped {} readsReserves).requestPermit intent).run)
      (Reading.onCached lifetime snapshot cache
        ((planner.equipped contracts readsReserves).requestPermit intent).run) := by
  apply Validated.of_bind (intent.asksOnly_order planner.resolver)
  · intro order
    rfl
  · intro order _ lacks
    have noPool : contracts.pool = none := by simpa using lacks
    simp only [equipped, noPool]
  · intro order _ offers yields
    rcases Option.isSome_iff_exists.mp offers with ⟨pool, pools⟩
    simp only [equipped, pools, yields_bind_iff] at yields
    rcases yields with ⟨amount, -, nonce?, -, rest⟩
    cases nonce? with
    | none => cases yields_pure_iff.mp rest
    | some nonce =>
        rcases yields_bind_iff.mp rest with ⟨name, -, rest⟩
        rcases yields_bind_iff.mp rest with ⟨chainId, -, rest⟩
        cases yields_pure_iff.mp rest

end Planner

namespace Assembly

variable {assembly : Assembly} {bare : Planner}

/-- Other contracts cannot keep a planner from being built. They make for other services and leave
all else as it is. -/
theorem build_configured (noGateway : assembly.gateway = none)
    (noPackedPool : assembly.packedPool = none)
    (builds : (assembly.configured {}).build = .ok bare) (contracts : Contracts) :
    bare.resolver = assembly.resolver ∧ (assembly.configured contracts).build =
      .ok (bare.equipped contracts assembly.readsReserves) := by
  rw [build] at builds ⊢
  simp only [configured, noGateway, noPackedPool] at builds ⊢
  cases configures : assembly.settings with
  | none =>
      rw [configures] at builds
      cases builds
  | some settings =>
      simp only [configures, Option.map_some] at builds ⊢
      generalize assembly.readsTokens = tokens at builds ⊢
      generalize assembly.readsNonces = nonces at builds ⊢
      generalize assembly.readsNetwork = network at builds ⊢
      generalize GasLimits.ofNames settings.planning.gasLimits = limits? at builds ⊢
      cases tokens
      · cases builds
      cases nonces
      · cases builds
      cases network
      · cases builds
      cases limits?
      · cases builds
      cases builds
      exact ⟨rfl, rfl⟩

/-- Intents are checked without a look at the contracts, and a missing contract is never a
fault. -/
theorem validates_before_contracts (noGateway : assembly.gateway = none)
    (noPackedPool : assembly.packedPool = none)
    (builds : (assembly.configured {}).build = .ok bare) (contracts : Contracts)
    (snapshot : Snapshot) (lifetime : Option Nat) (cache : Cache) :
    ∃ planner, (assembly.configured contracts).build = .ok planner ∧
      (∀ intent : Intent,
        Validated []
          (contracts.provide assembly.readsReserves
            (intent.outlineOn assembly.resolver snapshot))
          (Reading.onCached lifetime snapshot cache (bare.execute intent).run)
          (Reading.onCached lifetime snapshot cache (planner.execute intent).run)) ∧
      ∀ intent : PermitRequestIntent,
        Validated .unavailable contracts.pool.isSome
          (Reading.onCached lifetime snapshot cache (bare.requestPermit intent).run)
          (Reading.onCached lifetime snapshot cache (planner.requestPermit intent).run) := by
  rcases build_configured noGateway noPackedPool builds contracts with ⟨resolver, configured⟩
  rcases build_configured noGateway noPackedPool builds {} with ⟨-, unconfigured⟩
  have same : bare.equipped {} assembly.readsReserves = bare :=
    Except.ok.inj (unconfigured.symm.trans builds)
  refine ⟨_, configured, fun intent => ?_, fun intent => ?_⟩
  · have validated := bare.execute_validated contracts assembly.readsReserves snapshot lifetime
      cache intent
    rw [same, resolver] at validated
    exact validated
  · have validated := bare.requestPermit_validated contracts assembly.readsReserves snapshot
      lifetime cache intent
    rw [same] at validated
    exact validated

end Assembly

/-! ### A supply with and without a pool -/

namespace Sample

def assembly : Assembly where
  settings := some { network := ⟨31337, "http://localhost:8545"⟩ }

theorem assembly_builds : ∃ bare, (assembly.configured {}).build = .ok bare :=
  ⟨_, rfl⟩

end Sample

theorem Assembly.validates_before_contracts_sample :
    ∃ bare planner, (Sample.assembly.configured {}).build = .ok bare ∧
      (Sample.assembly.configured { pool := some (.ofNat 1) }).build = .ok planner ∧
      Validated [] true
        (Reading.onCached none Sample.snapshot {} (bare.execute Sample.supply).run)
        (Reading.onCached none Sample.snapshot {} (planner.execute Sample.supply).run) := by
  rcases Sample.assembly_builds with ⟨bare, builds⟩
  rcases validates_before_contracts rfl rfl builds { pool := some (.ofNat 1) } Sample.snapshot
    none {} with ⟨planner, configured, executes, -⟩
  have validated := executes Sample.supply
  have provided : ({ pool := some (.ofNat 1) } : Contracts).provide true
      (Sample.supply.outlineOn .onChain Sample.snapshot) = true := by decide +kernel
  rw [show Sample.assembly.readsReserves = true from rfl,
    show Sample.assembly.resolver = .onChain from rfl, provided] at validated
  exact ⟨bare, planner, builds, configured, validated⟩

end LendingPool
