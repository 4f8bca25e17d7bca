import LendingPool.Proofs.Amount.Typed
import LendingPool.Proofs.Plan.Availability
import LendingPool.Proofs.Plan.DeclaredPermits
import LendingPool.Proofs.Plan.Loans
/-! What loans are priced by. The surplus goes into what is lent, and the premium into the permit
for it. No other part of an action depends on them, and without a loan nothing does. -/

namespace LendingPool

open Planning

/-! ## Prices -/

def Planner.priced (planner : Planner) (surplusPercent : Decimal96) (flashPremium : UInt32) :
    Planner :=
  { planner with surplusPercent, flashPremium }

def Assembly.priced (assembly : Assembly) (surplusPercent : Decimal96) (flashPremium : UInt32) :
    Assembly :=
  { assembly with
    settings := assembly.settings.map fun settings =>
      { settings with planning := { settings.planning with surplusPercent, flashPremium } } }

theorem Assembly.build_priced (assembly : Assembly) (surplusPercent : Decimal96)
    (flashPremium : UInt32) :
    (assembly.priced surplusPercent flashPremium).build =
      assembly.build.map fun planner => planner.priced surplusPercent flashPremium := by
  rw [build, build, priced]
  cases assembly.settings with
  | none => rfl
  | some settings =>
      simp only [Option.map_some]
      cases assembly.readsTokens
      · rfl
      cases assembly.readsNonces
      · rfl
      cases assembly.readsNetwork
      · rfl
      cases GasLimits.ofNames settings.planning.gasLimits <;> rfl

/-! ## Loans of intents and orders -/

namespace Intent

def lends : Intent → Bool
  | swapCollateral intent => intent.flash
  | repayWithCollateral intent => intent.flash
  | flashLiquidation _ => true
  | _ => false

/-- Whether a loan for the action is larger than the amount that is named for it. -/
def enlarges : Intent → Bool
  | swapCollateral _ => true
  | repayWithCollateral intent => intent.repayAllDebt
  | flashLiquidation intent => intent.liquidateAll
  | _ => false

end Intent

namespace Order

def lends : Order → Bool
  | adapter order => order.flash
  | flashLiquidation _ => true
  | _ => false

def enlarges : Order → Bool
  | adapter order => match order.task with | .swap => true | .repay _ wholeDebt => wholeDebt
  | flashLiquidation order => order.wholeDebt
  | _ => false

end Order

namespace Intent.Accepted

variable {resolver : Resolver} {snapshot : Snapshot} {intent : Intent} {order : Order}

theorem lends (accepted : intent.Accepted resolver snapshot order) :
    order.lends = intent.lends := by
  cases accepted with
  | dealing deals => cases intent <;> cases deals <;> rfl
  | _ => rfl

theorem enlarges (accepted : intent.Accepted resolver snapshot order) :
    order.enlarges = intent.enlarges := by
  cases accepted with
  | dealing deals => cases intent <;> cases deals <;> rfl
  | _ => rfl

end Intent.Accepted

/-! ## Amounts at two prices -/

section

variable {planner : Planner} {snapshot : Snapshot} {intent : Intent} {order : Order}
  {draft other : Draft} {surplusPercent : Decimal96} {flashPremium : UInt32}

theorem Leg.Measures.repriced {leg : Leg Address AmountRequest} {word otherWord : Word}
    (measures : leg.Measures planner snapshot.Answers word)
    (others : leg.Measures (planner.priced surplusPercent flashPremium) snapshot.Answers
      otherWord) :
    (leg.enlarged = false → otherWord = word) ∧
      (planner.surplusPercent.toRat ≤ surplusPercent.toRat → word ≤ otherWord) := by
  rcases leg with ⟨role, token, quantity, enlarged⟩
  cases quantity with
  | entireBalance =>
      rw [show word = Word.max from measures, show otherWord = Word.max from others]
      exact ⟨fun _ => rfl, fun _ => BitVec.le_refl _⟩
  | value amount =>
      rcases measures with ⟨decimals, exact, units, reads, enlarges, converts, rfl⟩
      rcases others with
        ⟨otherDecimals, otherExact, otherUnits, otherReads, otherEnlarges, otherConverts, rfl⟩
      have same : otherDecimals = decimals := by
        cases token with
        | none => exact otherReads.trans reads.symm
        | some token => exact Except.ok.inj (otherReads.trans reads.symm)
      rw [same] at otherConverts
      cases enlarged with
      | false =>
          cases enlarges
          cases otherEnlarges
          cases otherConverts.symm.trans converts
          exact ⟨fun _ => rfl, fun _ => BitVec.le_refl _⟩
      | true =>
          refine ⟨nofun, fun larger => ?_⟩
          rw [BitVec.le_def, (DecimalAmount.toUnits_eq_ok_iff.mp converts).2.1,
            (DecimalAmount.toUnits_eq_ok_iff.mp otherConverts).2.1, DecimalAmount.floorUnits_eq,
            DecimalAmount.floorUnits_eq, DecimalAmount.toRat_withSurplus enlarges,
            DecimalAmount.toRat_withSurplus otherEnlarges]
          have positive := amount.toRat_nonneg
          have larger : planner.surplusPercent.toRat ≤
            (planner.priced surplusPercent flashPremium).surplusPercent.toRat := larger
          gcongr

/-! ## Without a loan -/

namespace Planner

theorem resolver_priced :
    (planner.priced surplusPercent flashPremium).resolver = planner.resolver :=
  rfl

theorem plan_priced (unlent : order.lends = false) :
    (planner.priced surplusPercent flashPremium).plan order = planner.plan order := by
  cases order with
  | reserve | native | setUserEMode => rfl
  | flashLiquidation => cases unlent
  | adapter order =>
      have unlent : order.flash = false := unlent
      have collateral : (planner.priced surplusPercent flashPremium).collateral order order.flash =
          planner.collateral order order.flash := by
        rw [collateral_eq, collateral_eq, unlent, Bool.false_and, if_neg Bool.false_ne_true,
          if_neg Bool.false_ne_true]
      have required (amount : Word) :
          (planner.priced surplusPercent flashPremium).required amount order.flash =
            planner.required amount order.flash := by
        rw [Planner.required, Planner.required, unlent, if_neg Bool.false_ne_true,
          if_neg Bool.false_ne_true]
      rw [plan, plan, planAdapter, planAdapter]
      simp only [collateral, required]
      rfl

theorem onCached_priced (unlent : intent.lends = false) (surplusPercent : Decimal96)
    (flashPremium : UInt32) (lifetime : Option Nat) (snapshot : Snapshot) (cache : Cache) :
    Reading.onCached lifetime snapshot cache
        ((planner.priced surplusPercent flashPremium).execute intent).run =
      Reading.onCached lifetime snapshot cache (planner.execute intent).run := by
  rw [Reading.onCached, Reading.onCached, execute, execute, resolver_priced, run_reply_bind,
    run_reply_bind]
  rcases ran : Dialogue.run (Remembering.reply lifetime snapshot)
    (intent.order planner.resolver).run cache [] with ⟨⟨outcome, later⟩, reads⟩
  cases outcome with
  | error fault => rfl
  | ok order =>
      have yields := yields_of_onCached (congrArg Prod.fst (onCached_eq_iff.mpr ran))
      dsimp only
      rw [plan_priced ((Intent.accepted yields).lends.trans unlent)]

end Planner

theorem Assembly.onCached_priced {assembly : Assembly} (builds : assembly.build = .ok planner)
    (unlent : intent.lends = false) (surplusPercent : Decimal96) (flashPremium : UInt32) :
    ∃ other, (assembly.priced surplusPercent flashPremium).build = .ok other ∧
      ∀ lifetime snapshot cache,
        Reading.onCached lifetime snapshot cache (other.execute intent).run =
          Reading.onCached lifetime snapshot cache (planner.execute intent).run := by
  refine ⟨planner.priced surplusPercent flashPremium, ?_, ?_⟩
  · rw [build_priced, builds]
    rfl
  · exact Planner.onCached_priced unlent surplusPercent flashPremium

/-! ## With a loan -/

/-- An instruction without the amounts that the price of a loan goes into: what is lent, which is
what is sold, and what a permit is for. -/
def Instruction.unpriced : Instruction → Instruction
  | swap loan exchange =>
      swap (loan.map fun loan => { loan with amount := 0 })
        { exchange with amount := 0, permit.amount := 0 }
  | repay loan payment =>
      repay (loan.map fun loan => { loan with amount := 0 })
        { payment with collateralAmount := 0, permit.amount := 0 }
  | liquidate loan liquidation => liquidate { loan with amount := 0 } liquidation
  | pool call => pool call
  | gateway call => gateway call
  | packed data => packed data

theorem Planner.unpriced_adapterInstruction (order : AdapterOrder) (adapter : Address)
    (amount otherAmount : Word) (permit : AdapterPermit) :
    (adapterInstruction order adapter amount otherAmount permit).unpriced =
      adapterInstruction order adapter 0 otherAmount { permit with amount := 0 } := by
  rw [adapterInstruction, adapterInstruction]
  cases order.task <;> cases order.flash <;> rfl

theorem Planner.exists_loan_adapterInstruction {order : AdapterOrder} (lends : order.flash = true)
    (adapter : Address) (amount otherAmount : Word) (permit : AdapterPermit) :
    ∃ loan, (adapterInstruction order adapter amount otherAmount permit).loan? = some loan ∧
      (adapterInstruction order adapter amount otherAmount permit).SellsLoan loan ∧
      loan.amount = amount := by
  refine ⟨⟨adapter, order.fromAsset, amount, order.beneficiary, order.referralCode⟩, ?_, ?_, rfl⟩
  · rw [adapterInstruction, lends]
    cases order.task <;> rfl
  · rw [adapterInstruction]
    cases order.task <;> exact ⟨rfl, rfl⟩

/-- Two instructions with a loan, at two prices. They differ in nothing but the amounts of the loan
and of the permit. The loan is the same unless it has to be larger than the amount that is named,
and it grows with the surplus. -/
structure Instruction.Repriced (instruction other : Instruction) (enlarges : Bool)
    (surplusPercent otherPercent : Decimal96) : Prop where
  unpriced : other.unpriced = instruction.unpriced
  loans : ∃ loan otherLoan, instruction.loan? = some loan ∧ other.loan? = some otherLoan ∧
    instruction.SellsLoan loan ∧ other.SellsLoan otherLoan ∧
    (enlarges = false → otherLoan.amount = loan.amount) ∧
    (surplusPercent.toRat ≤ otherPercent.toRat → loan.amount ≤ otherLoan.amount)

/-- Two drafts of an order with a loan, at two prices. What is sent differs in the call data
alone. -/
structure Draft.Repriced (draft other : Draft) (enlarges : Bool)
    (surplusPercent otherPercent : Decimal96) : Prop where
  instruction :
    draft.instruction.Repriced other.instruction enlarges surplusPercent otherPercent
  action : other.action = { draft.action with call.data := other.instruction.data }

namespace Planner

theorem Drafts.repriced_adapter {order : AdapterOrder} (lends : order.flash = true)
    (drafts : planner.Drafts snapshot.Answers (.adapter order) draft)
    (others : (planner.priced surplusPercent flashPremium).Drafts snapshot.Answers
      (.adapter order) other) :
    draft.Repriced other (Order.adapter order).enlarges planner.surplusPercent surplusPercent := by
  cases drafts with
  | @adapter _ adapter target decimals otherDecimals collateral sold received adapters targets
      reads otherReads enlarges converts otherConverts =>
  cases others with
  | @adapter _ sameAdapter sameTarget sameDecimals sameOtherDecimals otherCollateral otherSold
      sameReceived sameAdapters sameTargets sameReads sameOtherReads otherEnlarges otherConverted
      sameOtherConverts =>
  -- what does not depend on prices is the same
  cases Option.some.inj (sameAdapters.symm.trans adapters)
  cases Option.some.inj (sameTargets.symm.trans targets)
  cases Except.ok.inj (Eq.trans sameOtherReads (Eq.symm otherReads))
  cases Except.ok.inj (sameOtherConverts.symm.trans otherConverts)
  rw [collateral_eq, lends, Bool.true_and] at enlarges otherEnlarges
  let lent : Leg Address AmountRequest := {
    role := .loan, token := order.fromAsset, quantity := .value order.amount
    enlarged := (Order.adapter order).enlarges }
  have measures : lent.Measures planner snapshot.Answers sold.value :=
    ⟨decimals, collateral, sold, reads, enlarges, converts, rfl⟩
  have others : lent.Measures (planner.priced surplusPercent flashPremium) snapshot.Answers
      otherSold.value :=
    ⟨sameDecimals, otherCollateral, otherSold, sameReads, otherEnlarges, otherConverted, rfl⟩
  refine ⟨⟨?_, ?_⟩, rfl⟩
  · rw [unpriced_adapterInstruction, unpriced_adapterInstruction]
    cases order.permit <;> rfl
  · rcases exists_loan_adapterInstruction lends adapter sold.value received.value _ with
      ⟨loan, lentBy, sells, amount⟩
    rcases exists_loan_adapterInstruction lends adapter otherSold.value received.value _ with
      ⟨otherLoan, otherLentBy, otherSells, otherAmount⟩
    refine ⟨loan, otherLoan, lentBy, otherLentBy, sells, otherSells, ?_⟩
    rw [amount, otherAmount]
    exact measures.repriced others

theorem Drafts.repriced_flashLiquidation {order : FlashLiquidationOrder}
    (drafts : planner.Drafts snapshot.Answers (.flashLiquidation order) draft)
    (others : (planner.priced surplusPercent flashPremium).Drafts snapshot.Answers
      (.flashLiquidation order) other) :
    draft.Repriced other order.wholeDebt planner.surplusPercent surplusPercent := by
  cases drafts with
  | @flashLiquidation _ adapter pool decimals loan lent adapters pools reads enlarges converts =>
  cases others with
  | @flashLiquidation _ sameAdapter samePool sameDecimals otherLoan otherLent sameAdapters
      samePools sameReads otherEnlarges otherConverts =>
  cases Option.some.inj (sameAdapters.symm.trans adapters)
  cases Option.some.inj (samePools.symm.trans pools)
  let leg : Leg Address AmountRequest := {
    role := .loan, token := order.debt, quantity := .value order.amount
    enlarged := order.wholeDebt }
  have measures : leg.Measures planner snapshot.Answers lent.value :=
    ⟨decimals, loan, lent, reads, enlarges, converts, rfl⟩
  have others : leg.Measures (planner.priced surplusPercent flashPremium) snapshot.Answers
      otherLent.value :=
    ⟨sameDecimals, otherLoan, otherLent, sameReads, otherEnlarges, otherConverts, rfl⟩
  refine ⟨⟨?_, _, _, rfl, rfl, trivial, trivial, measures.repriced others⟩, rfl⟩
  -- part of a debt is covered with what is lent, which then is the same
  cases whole : order.wholeDebt with
  | true => rfl
  | false =>
      have same := (measures.repriced others).1 whole
      simp only [Instruction.unpriced, same]

theorem Drafts.repriced (lends : order.lends = true)
    (drafts : planner.Drafts snapshot.Answers order draft)
    (others : (planner.priced surplusPercent flashPremium).Drafts snapshot.Answers order other) :
    draft.Repriced other order.enlarges planner.surplusPercent surplusPercent := by
  cases order with
  | adapter order => exact Drafts.repriced_adapter lends drafts others
  | flashLiquidation order => exact Drafts.repriced_flashLiquidation drafts others
  | reserve | native | setUserEMode => cases lends

end Planner

/-- An action by which the pool lends, and what the adapter on a path is told. Both are read back
from the call data, unless that is too long for any chain. -/
structure Descriptor.Lends (action : Descriptor) (path : Path) (instruction : Instruction) :
    Prop where
  data : action.call.data = instruction.data
  reads : action.call.data.length < 2 ^ 256 →
    Instruction.readLoan? path action.call.data = some instruction

/-- Without a loan a plan does not depend on the surplus and the premium. With a loan the actions at
the end of two plans differ in nothing but the amounts of the loan and of the permit for it. -/
theorem Planner.execute_priced (planner : Planner) (surplusPercent : Decimal96)
    (flashPremium : UInt32) (snapshot : Snapshot) (intent : Intent) :
    (intent.lends = false → ∀ lifetime cache,
      Reading.onCached lifetime snapshot cache
          ((planner.priced surplusPercent flashPremium).execute intent).run =
        Reading.onCached lifetime snapshot cache (planner.execute intent).run) ∧
    (intent.lends = true → ∀ plan otherPlan reads otherReads,
      Reading.on snapshot (planner.execute intent).run = (.ok plan, reads) → plan ≠ [] →
      Reading.on snapshot ((planner.priced surplusPercent flashPremium).execute intent).run =
        (.ok otherPlan, otherReads) → otherPlan ≠ [] →
      ∃ action otherAction instruction otherInstruction,
        plan.getLast? = some action ∧ otherPlan.getLast? = some otherAction ∧
        otherAction = { action with call.data := otherAction.call.data } ∧
        action.Lends (intent.outlineOn planner.resolver snapshot).path instruction ∧
        otherAction.Lends (intent.outlineOn planner.resolver snapshot).path otherInstruction ∧
        instruction.Repriced otherInstruction intent.enlarges planner.surplusPercent
          surplusPercent) := by
  refine ⟨fun unlent lifetime cache => ?_, fun lends => ?_⟩
  · exact onCached_priced unlent surplusPercent flashPremium lifetime snapshot cache
  · intro plan otherPlan reads otherReads executed nonempty otherExecuted otherNonempty
    rcases exists_order_of_on executed nonempty with ⟨order, draft, orders, drafts, last⟩
    rcases exists_order_of_on otherExecuted otherNonempty with
      ⟨sameOrder, other, sameOrders, others, otherLast⟩
    cases orders.unique sameOrders
    have accepted := Intent.accepted orders.mayAnswer
    rcases Drafts.repriced (accepted.lends.trans lends) drafts others with ⟨repriced, same⟩
    rw [accepted.enlarges] at repriced
    rcases repriced.loans with ⟨loan, otherLoan, lent, otherLent, sells, otherSells, -⟩
    have path := accepted.checked.path
    refine ⟨draft.action, other.action, draft.instruction, other.instruction, last, otherLast,
      same, ⟨rfl, fun short => ?_⟩, ⟨rfl, fun short => ?_⟩, repriced⟩
    · rw [path, ← drafts.path]
      exact Instruction.readLoan?_data lent sells short
    · rw [path, ← others.path]
      exact Instruction.readLoan?_data otherLent otherSells short

end

/-! ### A swap at two prices -/

namespace Sample

def lending : Planner :=
  { swapping with contracts := { swapping.contracts with pool := some (.ofNat 1) } }

def lentSwap : Intent := .swapCollateral {
  user := "0x000000000000000000000000000000000000000a"
  fromAsset := "0x000000000000000000000000000000000000000b"
  fromAToken := "0x000000000000000000000000000000000000000d"
  toAsset := "0x000000000000000000000000000000000000000c"
  fromAmount := "1.5"
  minToAmount := "1"
  aggregator := "0x000000000000000000000000000000000000000e"
  swapCallData := "0x"
  flash := true
  permit := some (permit "1.5") }

theorem lends (surplusPercent : Decimal96) (flashPremium : UInt32)
    (sends : (Reading.on tokens
      ((lending.priced surplusPercent flashPremium).execute lentSwap).run).1.toOption.map
        List.length = some 1) :
    ∃ action reads, Reading.on tokens
      ((lending.priced surplusPercent flashPremium).execute lentSwap).run =
        (.ok [action], reads) := by
  rcases exists_run_of_map sends with ⟨plan, reads, run, one⟩
  rcases List.length_eq_one_iff.mp one with ⟨action, rfl⟩
  exact ⟨action, reads, run⟩

end Sample

theorem Planner.execute_priced_sample :
    (∃ action otherAction reads otherReads instruction otherInstruction,
      Reading.on Sample.tokens (Sample.lending.execute Sample.lentSwap).run =
        (.ok [action], reads) ∧
      Reading.on Sample.tokens
        ((Sample.lending.priced (.ofInt 10) 9).execute Sample.lentSwap).run =
          (.ok [otherAction], otherReads) ∧
      otherAction = { action with call.data := otherAction.call.data } ∧
      action.Lends .swapAdapter instruction ∧ otherAction.Lends .swapAdapter otherInstruction ∧
      instruction.Repriced otherInstruction true (.ofInt 5) (.ofInt 10)) ∧
    Reading.onCached none Sample.tokens {}
        ((Sample.lending.priced (.ofInt 10) 9).execute (Sample.swap "1.5")).run =
      Reading.onCached none Sample.tokens {} (Sample.lending.execute (Sample.swap "1.5")).run := by
  rcases Sample.lends (.ofInt 5) 5 (by decide +kernel) with ⟨action, reads, executed⟩
  rcases Sample.lends (.ofInt 10) 9 (by decide +kernel) with
    ⟨otherAction, otherReads, otherExecuted⟩
  constructor
  · rcases (execute_priced Sample.lending (.ofInt 10) 9 Sample.tokens Sample.lentSwap).2 rfl
      [action] [otherAction] reads otherReads executed (List.cons_ne_nil _ _) otherExecuted
      (List.cons_ne_nil _ _) with
      ⟨last, otherLast, instruction, otherInstruction, ⟨⟩, ⟨⟩, same, lends, otherLends, repriced⟩
    exact ⟨action, otherAction, reads, otherReads, instruction, otherInstruction, executed,
      otherExecuted, same, lends, otherLends, repriced⟩
  · exact (execute_priced Sample.lending (.ofInt 10) 9 Sample.tokens (Sample.swap "1.5")).1 rfl
      none {}

end LendingPool
