import LendingPool.Proofs.Amount.Premium
import LendingPool.Proofs.Plan.DeclaredPermits
import LendingPool.Proofs.Plan.Loans
import LendingPool.Proofs.Plan.Sufficiency
/-! What lent sales are authorised for. The adapter may take the loan with its premium, by a permit
or by an allowance, and that covers both unless the premium is capped. -/

namespace LendingPool

open Planning

/-! ## Lent sales -/

structure FlashSale where
  user : String
  aToken : String
  permit : Option PermitIntent
  policy : ApprovalPolicy
deriving DecidableEq, Repr

def Intent.flashSale? : Intent → Option FlashSale
  | swapCollateral intent =>
      if intent.flash then
        some ⟨intent.user, intent.fromAToken, intent.permit, intent.approval⟩
      else none
  | repayWithCollateral intent =>
      if intent.flash then
        some ⟨intent.user, intent.fromAToken, intent.permit, intent.approval⟩
      else none
  | _ => none

structure AdapterOrder.Sells (order : AdapterOrder) (resolver : Resolver) (snapshot : Snapshot)
    (sale : FlashSale) : Prop where
  flash : order.flash = true
  sender : resolver.account? snapshot sale.user = some order.sender
  aToken : resolver.account? snapshot sale.aToken = some order.fromAToken
  permit : sale.permit.mapM Order.signedPermit = .ok order.permit
  policy : order.approval = sale.policy

/-- A plan lets an adapter take what is required for a loan. A permit is used for that much, and
without one there is an approval before the action unless that much has been approved already. -/
structure FlashSale.Authorised (sale : FlashSale) (planner : Planner) (snapshot : Snapshot)
    (plan : List Descriptor) (action : Descriptor) (instruction : Instruction) (loan : Loan)
    (required : Word) : Prop where
  last : plan.getLast? = some action
  lends : instruction.loan? = some loan
  spends : planner.spender? instruction.path = some loan.receiver
  permitted : sale.permit.isSome = true →
    plan = [action] ∧ instruction.permitted? = some required
  approved : sale.permit = none → ∃ token owner approval,
    planner.resolver.account? snapshot sale.aToken = some token ∧
    planner.resolver.account? snapshot sale.user = some owner ∧
    approval.Grants owner token loan.receiver false (sale.policy.approvalSize required) ∧
    plan = (if ((Snapshot.latest? (token, owner, loan.receiver) snapshot.allowances).getD 0).toNat <
      required.toNat then [approval] else []) ++ [action]

section

variable {planner : Planner} {resolver : Resolver} {snapshot : Snapshot} {intent : Intent}
  {sale : FlashSale} {draft : Draft} {Possible : PossibleReplies}

theorem Intent.Accepted.sells {order : Order} (accepted : intent.Accepted resolver snapshot order)
    (sells : intent.flashSale? = some sale) :
    ∃ result : AdapterOrder, order = .adapter result ∧ result.Sells resolver snapshot sale := by
  cases accepted with
  | swap acts _ takes _ _ _ _ _ signs | repayment acts _ takes _ _ _ _ _ signs =>
      rw [flashSale?] at sells
      split at sells
      · rename_i flash
        cases sells
        exact ⟨_, rfl, ⟨flash, acts, takes, signs, rfl⟩⟩
      · cases sells
  | dealing deals => cases intent <;> cases deals <;> cases sells
  | _ => cases sells

theorem Planner.Drafts.authorises {order : AdapterOrder} (flash : order.flash = true)
    (drafts : planner.Drafts Possible (.adapter order) draft) :
    ∃ loan, draft.instruction.loan? = some loan ∧ draft.sender = order.sender ∧
      planner.spender? draft.instruction.path = some loan.receiver ∧
      (∀ signed, order.permit = some signed → draft.gate = none ∧
        draft.instruction.permitted? = some (loan.amount.withPremium planner.flashPremium)) ∧
      (order.permit = none → draft.gate = some (.ofRequired order.fromAToken loan.receiver
        (loan.amount.withPremium planner.flashPremium) order.approval)) := by
  cases drafts with
  | @adapter _ adapter target decimals otherDecimals collateral sold other adapters =>
      have required : planner.required sold.value order.flash =
          sold.value.withPremium planner.flashPremium := by
        rw [Planner.required, if_pos flash]
      refine ⟨⟨adapter, order.fromAsset, sold.value, order.beneficiary, order.referralCode⟩,
        ?_, rfl, ?_, fun signed signs => ?_, fun unsigned => ?_⟩
      · rw [adapterInstruction, flash]
        cases order.task <;> rfl
      · rw [adapterInstruction]
        cases tasks : order.task <;> rw [tasks] at adapters <;> exact adapters
      · rw [signs, required]
        refine ⟨rfl, ?_⟩
        rw [adapterInstruction]
        cases order.task <;> rfl
      · rw [unsigned, required]

theorem Planner.execute_flashSale {plan : List Descriptor} {reads : List ChainQuery}
    (sells : intent.flashSale? = some sale)
    (executed : Reading.on snapshot (planner.execute intent).run = (.ok plan, reads))
    (nonempty : plan ≠ []) :
    ∃ action instruction loan,
      action.Tells planner (intent.outlineOn planner.resolver snapshot).path instruction ∧
      sale.Authorised planner snapshot plan action instruction loan
        (loan.amount.withPremium planner.flashPremium) := by
  have course := course_answers_iff.mpr executed
  rcases exists_draft_of_course (fun _ _ answer _ => answer) course nonempty with
    ⟨order, draft, finishing, accepted, drafts, finishes⟩
  have tells := drafts.tells
  rw [← accepted.checked.path] at tells
  rcases accepted.sells sells with ⟨result, rfl, sold⟩
  rcases drafts.authorises sold.flash with ⟨loan, lends, sender, spends, permitted, gated⟩
  refine ⟨draft.action, draft.instruction, loan, tells, Draft.getLast?_of_course_finish finishes,
    lends, spends, fun bears => ?_, fun unsigned => ?_⟩
  · rcases Option.isSome_iff_exists.mp bears with ⟨permit, given⟩
    rcases Order.signs_of_mapM given sold.permit with ⟨signed, signs⟩
    rcases permitted signed signs with ⟨ungated, used⟩
    exact ⟨((Draft.course_finish_iff_of_none ungated).mp finishes).2, used⟩
  · have unsignedOrder : result.permit = none := by
      have signs := sold.permit
      rw [unsigned] at signs
      exact (Except.ok.inj signs).symm
    have gate := gated unsignedOrder
    rw [sold.policy] at gate
    rcases (Draft.course_finish_iff_of_some gate).mp finishes with ⟨present, -, holds, same⟩
    rw [sender] at holds same
    have grants := Gate.grants_grant (.ofRequired result.fromAToken loan.receiver
      (loan.amount.withPremium planner.flashPremium) sale.policy) result.sender draft.limits
    refine ⟨result.fromAToken, result.sender, _, sold.aToken, sold.sender, grants, ?_⟩
    rw [same, ← (Snapshot.mayHold_answers_iff.mp holds).2]
    rfl

/-- A loan with its premium is at most the largest word, and short of the exact sum if the premium
is capped and in no other case. The permit or the approval for a lent sale is for that much. So it
covers the loan and its premium, where they fit into a word, unless the premium is capped. -/
theorem Planner.flash_premium_capped (planner : Planner) :
    (∀ loan : Word,
      (loan.withPremium planner.flashPremium).toNat =
        min (2 ^ 256 - 1) (loan.toNat + min (loan.premium planner.flashPremium) Word.premiumCap) ∧
      ((loan.withPremium planner.flashPremium).toNat =
          min (2 ^ 256 - 1) (loan.toNat + loan.premium planner.flashPremium) ↔
        ¬ loan.CapsPremium planner.flashPremium)) ∧
    (∀ (snapshot : Snapshot) (intent : Intent) (sale : FlashSale) (plan : List Descriptor)
      (reads : List ChainQuery), intent.flashSale? = some sale →
      Reading.on snapshot (planner.execute intent).run = (.ok plan, reads) → plan ≠ [] →
      ∃ (action : Descriptor) (instruction : Instruction) (loan : Loan) (required : Word),
        action.Tells planner (intent.outlineOn planner.resolver snapshot).path instruction ∧
        sale.Authorised planner snapshot plan action instruction loan required ∧
        required = loan.amount.withPremium planner.flashPremium ∧
        (loan.amount.toNat + loan.amount.premium planner.flashPremium < 2 ^ 256 →
          (loan.amount.toNat + loan.amount.premium planner.flashPremium ≤ required.toNat ↔
            ¬ loan.amount.CapsPremium planner.flashPremium))) := by
  constructor
  · intro loan
    exact ⟨Word.toNat_withPremium .., Word.toNat_withPremium_eq_iff ..⟩
  · intro snapshot intent sale plan reads sells executed nonempty
    rcases execute_flashSale sells executed nonempty with
      ⟨action, instruction, loan, tells, authorised⟩
    exact ⟨action, instruction, loan, _, tells, authorised, rfl, Word.le_toNat_withPremium_iff⟩

end

/-! ### A loan whose premium is capped -/

namespace Sample

def repaying : Planner :=
  { planner with
    contracts := { pool := some (.ofNat 1), repayWithCollateralAdapter := some (.ofNat 5) } }

/-- A chain with two tokens, of which the first has no places. -/
def wholeTokens : Snapshot where
  tokens := [(.ofNat 11, ⟨"Token", 0⟩), (.ofNat 12, ⟨"Other", 18⟩)]

def largeLoan : Word := Word.ofNat (2 ^ 255)

def lentRepayment : Intent := .repayWithCollateral {
  user := "0x000000000000000000000000000000000000000a"
  fromAsset := "0x000000000000000000000000000000000000000b"
  fromAToken := "0x000000000000000000000000000000000000000d"
  assetToRepay := "0x000000000000000000000000000000000000000c"
  repayWithAmount := "57896044618658097711785492504343953926634992332820282019728792003956564819968"
  repayAmount := "1"
  rateMode := .variableRate
  aggregator := "0x000000000000000000000000000000000000000e"
  swapCallData := "0x"
  flash := true }

def lentPayment : Instruction := .repay (some ⟨.ofNat 5, .ofNat 11, largeLoan, .ofNat 10, 0⟩) {
  collateralAsset := .ofNat 11
  debtAsset := .ofNat 12
  collateralAmount := largeLoan
  debtAmount := 1000000000000000000
  rateMode := 2
  buyAllOffset := 0
  swapCallData := []
  aggregator := .ofNat 14
  permit := .unused }

theorem approves : ∃ approval action reads,
    Reading.on wholeTokens (repaying.execute lentRepayment).run = (.ok [approval, action], reads) ∧
      approval.call.target = .ofNat 13 ∧
      TokenCall.decode? approval.call.data =
        some (.approve (.ofNat 5) (largeLoan.withPremium 5)) ∧
      action.call.target = .ofNat 1 ∧ action.call.data = lentPayment.data := by
  have sent : (Reading.on wholeTokens (repaying.execute lentRepayment).run).1.toOption.map
      (List.map fun transaction => (transaction.call.target, transaction.call.data)) =
        some [(.ofNat 13, (TokenCall.approve (.ofNat 5) (largeLoan.withPremium 5)).encode),
          (.ofNat 1, lentPayment.data)] := by decide +kernel
  rcases exists_run_of_map sent with ⟨plan, reads, run, same⟩
  rcases List.map_eq_cons_iff.mp same with ⟨approval, rest, rfl, first, same⟩
  rcases List.map_eq_singleton_iff.mp same with ⟨action, rfl, second⟩
  have approves : approval.call.data = _ := congrArg Prod.snd first
  refine ⟨approval, action, reads, run, congrArg Prod.fst first, ?_, congrArg Prod.fst second,
    congrArg Prod.snd second⟩
  rw [approves, TokenCall.decode?_encode]

theorem premium_largeLoan : largeLoan.premium 5 = (2 ^ 255 * 5 + 9999) / 10000 := by
  rw [Word.premium_eq]
  rfl

end Sample

theorem Planner.flash_premium_capped_sample :
    (Sample.largeLoan.withPremium 5).toNat = 2 ^ 255 + (2 ^ 256 - 1) / 10000 ∧
    ∃ (plan : List Descriptor) (action : Descriptor) (instruction : Instruction) (loan : Loan)
      (sale : FlashSale) (reads : List ChainQuery),
      Reading.on Sample.wholeTokens (Sample.repaying.execute Sample.lentRepayment).run =
        (.ok plan, reads) ∧
      Sample.lentRepayment.flashSale? = some sale ∧
      sale.Authorised Sample.repaying Sample.wholeTokens plan action instruction loan
        (loan.amount.withPremium 5) := by
  constructor
  · have capped := ((flash_premium_capped Sample.repaying).1 Sample.largeLoan).1
    rw [show Sample.repaying.flashPremium = 5 from rfl, Sample.premium_largeLoan] at capped
    rw [capped]
    decide +kernel
  · rcases Sample.approves with ⟨approval, action, reads, executed, -⟩
    rcases (flash_premium_capped Sample.repaying).2 _ _ _ _ _ rfl executed
        (List.cons_ne_nil _ _) with
      ⟨action, instruction, loan, _, -, authorised, rfl, -⟩
    exact ⟨_, action, instruction, loan, _, reads, executed, rfl, authorised⟩

/-- The approval is for less than the loan and its premium, although both fit into a word. -/
theorem Planner.flash_premium_short :
    ∃ (approval action : Descriptor) (reads : List ChainQuery) (loan : Loan) (approved : Word),
      Sample.lentRepayment.flashSale?.isSome = true ∧
      Reading.on Sample.wholeTokens (Sample.repaying.execute Sample.lentRepayment).run =
        (.ok [approval, action], reads) ∧
      TokenCall.decode? approval.call.data = some (.approve (.ofNat 5) approved) ∧
      action.Tells Sample.repaying .repayAdapter Sample.lentPayment ∧
      Sample.lentPayment.loan? = some loan ∧
      approved = loan.amount.withPremium 5 ∧
      approved.toNat <
        min (2 ^ 256 - 1) (loan.amount.toNat + ⌈(loan.amount.toNat * 5 : ℚ) / 10000⌉₊) ∧
      loan.amount.toNat + ⌈(loan.amount.toNat * 5 : ℚ) / 10000⌉₊ < 2 ^ 256 := by
  rcases Sample.approves with ⟨approval, action, reads, executed, -, approves, target, data⟩
  have premium : ⌈(Sample.largeLoan.toNat * 5 : ℚ) / 10000⌉₊ = (2 ^ 255 * 5 + 9999) / 10000 :=
    Sample.premium_largeLoan
  have regular : Sample.lentPayment.IsRegular := ⟨rfl, rfl⟩
  have tells : action.Tells Sample.repaying .repayAdapter Sample.lentPayment :=
    .of_data regular data (target ▸ rfl) nofun
  refine ⟨approval, action, reads, _, _, rfl, executed, approves, tells, rfl, rfl, ?_, ?_⟩
  · rw [premium]
    decide +kernel
  · rw [premium]
    decide +kernel

end LendingPool
