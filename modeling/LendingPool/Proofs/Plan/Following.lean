import LendingPool.Proofs.Amount.Units
import LendingPool.Proofs.Plan.Drafts
import LendingPool.Proofs.Plan.Outline
import Mathlib.Data.List.Forall2
/-! Drafts follow outlines: every amount in a draft is a leg of the outline in the units of its
token, and a draft has a gate exactly where the outline has a pull. -/

namespace LendingPool

/-! ## Amounts in instructions -/

def PoolCall.amount? : PoolCall → Option Word
  | supply _ amount .. | supplyWithPermit _ amount .. | withdraw _ amount _ | borrow _ amount ..
  | repay _ amount .. | repayWithPermit _ amount .. | liquidationCall _ _ _ amount _ => some amount
  | flashLoan .. | swapBorrowRateMode .. | setUsageAsCollateral .. | setUserEMode .. => none

/-- A deposit takes what is attached to the call. -/
def GatewayCall.amount? : GatewayCall → Option Word
  | deposit .. => none
  | withdraw _ amount _ | repay _ amount .. | borrow _ amount .. => some amount

namespace Instruction

/-- The amounts that an instruction tells. With a loan, the amount sold is not told. -/
def amounts : Instruction → List (AmountRole × Word)
  | pool call => call.amount?.toList.map (.amount, ·)
  | gateway call => call.amount?.toList.map (.amount, ·)
  | swap (some loan) exchange => [(.loan, loan.amount), (.received, exchange.minimumReceived)]
  | swap none exchange => [(.sold, exchange.amount), (.received, exchange.minimumReceived)]
  | repay (some loan) payment => [(.loan, loan.amount), (.repaid, payment.debtAmount)]
  | repay none payment => [(.sold, payment.collateralAmount), (.repaid, payment.debtAmount)]
  | liquidate loan liquidation => [(.loan, loan.amount), (.covered, liquidation.debtToCover)]
  | packed _ => []

def amountsWith (instruction : Instruction) (value : Word) : List (AmountRole × Word) :=
  instruction.amounts ++ if value = 0 then [] else [(.attached, value)]

@[simp] theorem amountsWith_zero (instruction : Instruction) :
    instruction.amountsWith 0 = instruction.amounts := by
  simp [amountsWith]

theorem amountsWith_of_ne_zero (instruction : Instruction) {value : Word} (attached : value ≠ 0) :
    instruction.amountsWith value = instruction.amounts ++ [(.attached, value)] := by
  rw [amountsWith, if_neg attached]

end Instruction

def Draft.amounts (draft : Draft) : List (AmountRole × Word) :=
  draft.instruction.amountsWith draft.value

/-! ## Legs in base units -/

/-- How many decimals amounts have: those of native currency where there is no token. -/
def TokenDecimals (Possible : PossibleReplies) (token : Option Address) (decimals : UInt8) :
    Prop :=
  match token with
  | some token => Possible (.decimals token) (.ok decimals)
  | none => decimals = nativeDecimals

def Leg.Measures (planner : Planner) (Possible : PossibleReplies)
    (leg : Leg Address AmountRequest) (word : Word) : Prop :=
  match leg.quantity with
  | .entireBalance => word = Word.max
  | .value amount =>
      ∃ decimals enlarged units, TokenDecimals Possible leg.token decimals ∧
        (if leg.enlarged then amount.withSurplus planner.surplusPercent else .ok amount) =
          .ok enlarged ∧
        enlarged.toUnits decimals = .ok units ∧ word = units.value

/-! ## Pulls as gates -/

namespace Pull

variable {Token Quantity : Type}

/-- The allowance needed to take an amount. The whole balance needs an unlimited one. -/
def required (pull : Pull Token Quantity) (entire : Bool) (flashPremium : UInt32)
    (amount : Word) : Word :=
  if entire then unlimitedAllowance
  else if pull.premium then amount.withPremium flashPremium
  else amount

/-- The allowance granted where the present one falls short. -/
def granted (pull : Pull Token Quantity) (entire : Bool) (required : Word) : Word :=
  if entire || pull.policy = .max then Word.max else required

end Pull

/-- The contract that takes what an action pulls. -/
def Planner.spender? (planner : Planner) : Path → Option Address
  | .standard => planner.contracts.pool
  | .native => planner.gateway.map Gateway.address
  | .swapAdapter => planner.contracts.swapCollateralAdapter
  | .repayAdapter => planner.contracts.repayWithCollateralAdapter
  | .packed | .flashLiquidation => none

structure Pull.Gated (planner : Planner) (path : Path) (amounts : List (AmountRole × Word))
    (pull : Pull Address AmountRequest) (gate : Gate) : Prop where
  spender : planner.spender? path = some gate.spender
  token : gate.token = pull.token
  delegated : gate.delegated = pull.delegated
  amount : ∃ amount, (pull.role, amount) ∈ amounts ∧
    gate.required = pull.required (pull.quantity = .entireBalance) planner.flashPremium amount
  size : gate.size = pull.granted (pull.quantity = .entireBalance) gate.required

structure Draft.Follows (planner : Planner) (Possible : PossibleReplies) (draft : Draft)
    (outline : Outline Address AmountRequest) : Prop where
  sender : draft.sender = outline.actor
  amounts : List.Forall₂
    (fun leg field => leg.role = field.1 ∧ leg.Measures planner Possible field.2)
    outline.legs draft.amounts
  gate : Option.Rel (Pull.Gated planner outline.path draft.amounts) outline.pull? draft.gate

/-! ## Conversions -/

variable {Possible : PossibleReplies} {planner : Planner}

open Planning

theorem yields_convertAmount_iff {token : Address} {request : AmountRequest} {amount : Amount} :
    Yields Possible (convertAmount token request) amount ↔
      match request with
      | .entireBalance => amount = .entireBalance
      | .value value => ∃ decimals units, Possible (.decimals token) (.ok decimals) ∧
          value.toUnits decimals = .ok units ∧ amount = .exact units := by
  cases request with
  | entireBalance => simp [convertAmount, eq_comm]
  | value value =>
      simp only [convertAmount, yields_bind_iff, yields_check_iff, yields_pure_iff]
      constructor
      · rintro ⟨decimals, reads, units, converts, rfl⟩
        exact ⟨decimals, units, yields_read_iff.mp reads, converts, rfl⟩
      · rintro ⟨decimals, units, reads, converts, rfl⟩
        exact ⟨decimals, yields_read_iff.mpr reads, units, converts, rfl⟩

theorem ReserveAction.yields_convertAmount {Reserve Quantity Converted : Type}
    {convert : Reserve → Quantity → Planning Converted} {action : ReserveAction Reserve Quantity}
    {converted : ReserveAction Reserve Converted}
    (yields : Yields Possible (action.convertAmount convert) converted) :
    Option.Rel (fun before after => before.1 = after.1 ∧
      Yields Possible (convert before.1 before.2) after.2) action.amount? converted.amount? := by
  cases action <;> simp only [convertAmount, yields_bind_iff, yields_pure_iff] at yields
  case swapBorrowRateMode => rw [← yields]; exact .none
  case setUsageAsCollateral => rw [← yields]; exact .none
  all_goals
    rcases yields with ⟨amount, yields, rfl⟩
    exact .some ⟨rfl, yields⟩

theorem ReserveOrder.yields_converted {order : ReserveOrder}
    {action : ReserveAction Address Amount} (yields : Yields Possible order.converted action) :
    Yields Possible (order.action.convertAmount convertAmount) action := by
  simp only [converted, yields_bind_iff] at yields
  rcases yields with ⟨converted, converts, rest⟩
  cases amount : converted.amount? with
  | none =>
      rw [amount] at rest
      exact yields_pure_iff.mp rest ▸ converts
  | some amount =>
      rw [amount] at rest
      rcases yields_bind_iff.mp rest with ⟨_, -, rest⟩
      exact yields_pure_iff.mp rest ▸ converts

theorem ReserveAction.amount?_toPoolCall (action : ReserveAction Address Amount)
    (beneficiary : Address) :
    (action.toPoolCall beneficiary).amount? = action.amount?.map fun amount => amount.2.value := by
  cases action <;> rfl

theorem Leg.measures_of_convertAmount {token : Address} {request : AmountRequest}
    {amount : Amount} (role : AmountRole)
    (yields : Yields Possible (convertAmount token request) amount) :
    Leg.Measures planner Possible { role, token := some token, quantity := request }
      amount.value := by
  have converts := yields_convertAmount_iff.mp yields
  cases request with
  | entireBalance => exact congrArg Amount.value converts
  | value value =>
      rcases converts with ⟨decimals, units, reads, converts, rfl⟩
      exact ⟨decimals, value, units, reads, rfl, converts, rfl⟩

theorem Leg.measures_native {amount : DecimalAmount} {units : BaseUnits} {role : AmountRole}
    (converts : amount.toUnits nativeDecimals = .ok units) :
    Leg.Measures planner Possible { role, token := none, quantity := .value amount }
      units.value :=
  ⟨nativeDecimals, amount, units, rfl, rfl, converts, rfl⟩

theorem Leg.measures_of_toAmount {request : AmountRequest} {amount : Amount} {role : AmountRole}
    (converts : request.toAmount nativeDecimals = .ok amount) :
    Leg.Measures planner Possible { role, token := none, quantity := request } amount.value := by
  cases request with
  | entireBalance =>
      cases converts
      rfl
  | value value =>
      rw [AmountRequest.toAmount] at converts
      cases units : value.toUnits nativeDecimals <;> rw [units] at converts <;> cases converts
      exact measures_native units

theorem eq_entireBalance_iff_of_toAmount {request : AmountRequest} {amount : Amount}
    {decimals : UInt8} (converts : request.toAmount decimals = .ok amount) :
    amount = .entireBalance ↔ request = .entireBalance := by
  cases request with
  | entireBalance =>
      cases converts
      simp
  | value value =>
      rw [AmountRequest.toAmount] at converts
      cases units : value.toUnits decimals <;> rw [units] at converts <;> cases converts
      simp

theorem eq_entireBalance_iff_of_convertAmount {token : Address} {request : AmountRequest}
    {amount : Amount} (yields : Yields Possible (convertAmount token request) amount) :
    amount = .entireBalance ↔ request = .entireBalance := by
  have converts := yields_convertAmount_iff.mp yields
  cases request with
  | entireBalance => simp [converts]
  | value value =>
      rcases converts with ⟨decimals, units, -, -, rfl⟩
      simp

/-! ## Gates -/

theorem Pull.gated_ofAmount {pull : Pull Address AmountRequest} {path : Path}
    {amounts : List (AmountRole × Word)} {spender : Address} {amount : Amount}
    (plain : pull.premium = false) (direct : pull.delegated = false)
    (spends : planner.spender? path = some spender)
    (member : (pull.role, amount.value) ∈ amounts)
    (entire : amount = .entireBalance ↔ pull.quantity = .entireBalance) :
    pull.Gated planner path amounts (.ofAmount pull.token spender amount pull.policy) := by
  have entire : decide (amount = .entireBalance) = decide (pull.quantity = .entireBalance) :=
    decide_eq_decide.mpr entire
  refine ⟨spends, rfl, direct.symm, ⟨amount.value, member, ?_⟩, ?_⟩
  · rw [Pull.required, plain, ← entire]
    cases amount <;> simp [Gate.ofAmount, Amount.requiredAllowance, Amount.value]
  · rw [Pull.granted, ← entire]
    cases amount <;> cases policy : pull.policy <;>
      simp [Gate.ofAmount, Amount.approvalSize, Amount.requiredAllowance]

theorem Pull.gated_ofRequired {pull : Pull Address AmountRequest} {path : Path}
    {amounts : List (AmountRole × Word)} {spender : Address} {amount : Word}
    (direct : pull.delegated = false) (spends : planner.spender? path = some spender)
    (member : (pull.role, amount) ∈ amounts) (exact : pull.quantity ≠ .entireBalance) :
    pull.Gated planner path amounts
      (.ofRequired pull.token spender (planner.required amount pull.premium) pull.policy) := by
  refine ⟨spends, rfl, direct.symm, ⟨amount, member, ?_⟩, ?_⟩
  · simp [Pull.required, exact, Gate.ofRequired, Planner.required]
  · cases policy : pull.policy <;>
      simp [Pull.granted, exact, policy, Gate.ofRequired, ApprovalPolicy.approvalSize]

theorem Pull.gated_ofDelegation {pull : Pull Address AmountRequest} {path : Path}
    {amounts : List (AmountRole × Word)} {spender : Address} {amount : Word}
    (plain : pull.premium = false) (delegated : pull.delegated = true)
    (policy : pull.policy = .exact) (spends : planner.spender? path = some spender)
    (member : (pull.role, amount) ∈ amounts) (exact : pull.quantity ≠ .entireBalance) :
    pull.Gated planner path amounts (.ofDelegation pull.token spender amount) := by
  refine ⟨spends, rfl, delegated.symm, ⟨amount, member, ?_⟩, ?_⟩
  · simp [Pull.required, exact, plain, Gate.ofDelegation]
  · simp [Pull.granted, exact, policy, Gate.ofDelegation]

/-! ## Drafts -/

namespace Planner

variable {draft : Draft}

/-- The amount of a pool call, and the gate in front of the call. -/
theorem Drafts.follows_reserve {order : ReserveOrder}
    (drafts : planner.Drafts Possible (.reserve order) draft) :
    draft.Follows planner Possible (Order.reserve order).outline := by
  rw [Order.outline]
  cases drafts with
  | @direct _ pool action routes pools converts =>
      rw [routes]
      have told := action.amount?_toPoolCall order.beneficiary
      have same := ReserveAction.yields_convertAmount (ReserveOrder.yields_converted converts)
      generalize order.action.amount? = asked at same ⊢
      generalize action.amount? = amount at same told ⊢
      cases same with
      | none =>
          have amounts : (Instruction.pool (action.toPoolCall order.beneficiary)).amountsWith 0 =
              [] := by
            rw [Instruction.amountsWith_zero, Instruction.amounts, told]
            rfl
          refine ⟨rfl, ?_, ?_⟩
          · rw [Draft.amounts, amounts]
            exact .nil
          · cases order.approval <;> exact .none
      | @some asked amount same =>
          rcases asked with ⟨token, request⟩
          rcases amount with ⟨_, amount⟩
          rcases same with ⟨rfl, converts⟩
          have amounts : (Instruction.pool (action.toPoolCall order.beneficiary)).amountsWith 0 =
              [(.amount, amount.value)] := by
            rw [Instruction.amountsWith_zero, Instruction.amounts, told]
            rfl
          refine ⟨rfl, ?_, ?_⟩
          · rw [Draft.amounts, amounts]
            exact .cons ⟨rfl, Leg.measures_of_convertAmount .amount converts⟩ .nil
          · rw [Draft.amounts, amounts]
            cases order.approval with
            | none => exact .none
            | some policy =>
                exact .some (Pull.gated_ofAmount rfl rfl pools (List.mem_singleton_self _)
                  (eq_entireBalance_iff_of_convertAmount converts))
  | packed routes =>
      rw [routes]
      refine ⟨rfl, ?_, .none⟩
      rw [Draft.amounts, Instruction.amountsWith_zero]
      exact .nil

theorem Drafts.follows_native {sender : Address} {action : NativeAction}
    (drafts : planner.Drafts Possible (.native sender action) draft) :
    draft.Follows planner Possible (Order.native sender action).outline := by
  have spends {gateway : Gateway} (gateways : planner.gateway = some gateway) :
      planner.spender? .native = some gateway.address := by
    rw [spender?, gateways, Option.map_some]
  cases drafts with
  | supply _ converts =>
      refine ⟨rfl, ?_, .none⟩
      rw [Draft.amounts, Instruction.amountsWith_of_ne_zero _
        (DecimalAmount.toUnits_value_ne_zero converts)]
      exact .cons ⟨rfl, Leg.measures_native converts⟩ .nil
  | withdraw gateways converts =>
      refine ⟨rfl, ?_, .some ?_⟩ <;> rw [Draft.amounts, Instruction.amountsWith_zero]
      · exact .cons ⟨rfl, Leg.measures_of_toAmount converts⟩ .nil
      · exact Pull.gated_ofAmount rfl rfl (spends gateways) (List.mem_singleton_self _)
          (eq_entireBalance_iff_of_toAmount converts)
  | borrow gateways converts =>
      refine ⟨rfl, ?_, .some ?_⟩ <;> rw [Draft.amounts, Instruction.amountsWith_zero]
      · exact .cons ⟨rfl, Leg.measures_native converts⟩ .nil
      · exact Pull.gated_ofDelegation rfl rfl rfl (spends gateways) (List.mem_singleton_self _)
          nofun
  | repay _ converts =>
      refine ⟨rfl, ?_, .none⟩
      rw [Draft.amounts, Instruction.amountsWith_of_ne_zero _
        (DecimalAmount.toUnits_value_ne_zero converts)]
      exact .cons ⟨rfl, Leg.measures_native converts⟩
        (.cons ⟨rfl, Leg.measures_native converts⟩ .nil)

theorem amounts_adapterInstruction (order : AdapterOrder) (adapter : Address)
    (amount otherAmount : Word) (permit : AdapterPermit) :
    (adapterInstruction order adapter amount otherAmount permit).amountsWith 0 =
      [(if order.flash then .loan else .sold, amount),
        (match order.task with | .swap => .received | .repay .. => .repaid, otherAmount)] := by
  rw [Instruction.amountsWith_zero, adapterInstruction]
  cases order.task <;> cases order.flash <;> rfl

theorem collateral_eq (order : AdapterOrder) (flash : Bool) :
    planner.collateral order flash =
      if flash && (match order.task with | .swap => true | .repay _ wholeDebt => wholeDebt) then
        order.amount.withSurplus planner.surplusPercent
      else .ok order.amount := by
  cases tasks : order.task with
  | swap => cases flash <;> simp [collateral, tasks]
  | repay mode wholeDebt => cases flash <;> cases wholeDebt <;> simp [collateral, tasks]

theorem follows_adapter {order : AdapterOrder} {draft : Draft} {path : Path} {role : AmountRole}
    {enlarged : Bool} {adapter : Address} {sold other : Word}
    (sends : draft.sender = order.sender)
    (amounts : draft.amounts = [(if order.flash then .loan else .sold, sold), (role, other)])
    (gate : draft.gate = match order.permit with
      | some _ => none
      | none => some (.ofRequired order.fromAToken adapter (planner.required sold order.flash)
          order.approval))
    (spends : planner.spender? path = some adapter)
    (sells : Leg.Measures planner Possible {
      role := if order.flash then .loan else .sold, token := order.fromAsset
      quantity := .value order.amount, enlarged := order.flash && enlarged } sold)
    (brings : Leg.Measures planner Possible {
      role, token := order.toAsset, quantity := .value order.otherAmount } other) :
    draft.Follows planner Possible
      (.adapter path order.sender order.flash enlarged order.fromAsset order.fromAToken
        (.value order.amount)
        { role, token := order.toAsset, quantity := .value order.otherAmount }
        order.permit.isSome order.approval) := by
  refine ⟨sends, ?_, ?_⟩
  · rw [amounts]
    exact .cons ⟨rfl, sells⟩ (.cons ⟨rfl, brings⟩ .nil)
  · rw [gate, amounts]
    cases order.permit with
    | some permit => exact .none
    | none =>
        exact .some (Pull.gated_ofRequired rfl spends List.mem_cons_self nofun)

theorem Drafts.follows_adapter {order : AdapterOrder}
    (drafts : planner.Drafts Possible (.adapter order) draft) :
    draft.Follows planner Possible (Order.adapter order).outline := by
  cases drafts with
  | @adapter _ adapter _ decimals otherDecimals collateral sold other adapters _ reads otherReads
      enlarges converts otherConverts =>
      have brings : ∀ role, Leg.Measures planner Possible {
          role, token := order.toAsset, quantity := .value order.otherAmount } other.value :=
        fun _ => ⟨otherDecimals, order.otherAmount, other, otherReads, rfl, otherConverts, rfl⟩
      have told := amounts_adapterInstruction order adapter sold.value other.value
      rw [collateral_eq] at enlarges
      rw [Order.outline, Order.adapterOutline]
      cases tasks : order.task with
      | swap =>
          rw [tasks] at adapters enlarges told
          exact follows_adapter rfl (told _) rfl adapters
            ⟨decimals, collateral, sold, reads, enlarges, converts, rfl⟩ (brings .received)
      | repay mode wholeDebt =>
          rw [tasks] at adapters enlarges told
          exact follows_adapter rfl (told _) rfl adapters
            ⟨decimals, collateral, sold, reads, enlarges, converts, rfl⟩ (brings .repaid)

theorem Drafts.follows_flashLiquidation {order : FlashLiquidationOrder}
    (drafts : planner.Drafts Possible (.flashLiquidation order) draft) :
    draft.Follows planner Possible (Order.flashLiquidation order).outline := by
  cases drafts with
  | flashLiquidation _ _ reads enlarges converts =>
      refine ⟨rfl, ?_, .none⟩
      rw [Draft.amounts, Instruction.amountsWith_zero]
      refine .cons ⟨rfl, ?_⟩ (.cons ⟨rfl, ?_⟩ .nil)
      · exact ⟨_, _, _, reads, enlarges, converts, rfl⟩
      · cases whole : order.wholeDebt with
        | true => exact Eq.refl Word.max
        | false =>
            rw [whole] at enlarges
            exact ⟨_, _, _, reads, enlarges, converts, rfl⟩

theorem Drafts.follows {order : Order} (drafts : planner.Drafts Possible order draft) :
    draft.Follows planner Possible order.outline := by
  cases order with
  | reserve order => exact drafts.follows_reserve
  | native sender action => exact drafts.follows_native
  | adapter order => exact drafts.follows_adapter
  | flashLiquidation order => exact drafts.follows_flashLiquidation
  | setUserEMode sender category =>
      cases drafts with
      | userEMode => exact ⟨rfl, .nil, .none⟩

theorem draft_follows {order : Order}
    (yields : Yields Possible (planner.draft order) (some draft)) :
    draft.Follows planner Possible order.outline :=
  (drafts_of_draft yields).follows

end Planner

end LendingPool
