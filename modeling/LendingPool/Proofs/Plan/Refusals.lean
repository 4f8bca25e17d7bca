import LendingPool.Proofs.Plan.Checked
import LendingPool.Proofs.Chain.Outcomes
import LendingPool.Proofs.Decimal.Digits
/-! Amounts that are refused. A text with anything in it but digits and a point is no amount, so no
sign is understood, but for one literal where the whole balance may be asked for. Amounts are read
after the accounts that come before them, and before everything else. -/

namespace LendingPool

open Planning

/-! ## Texts that spell no amount -/

/-- A text with a character in it that belongs to no amount, such as a sign. -/
def SpellsNoAmount (raw : String) : Prop :=
  ∃ char ∈ raw.toList, char ≠ '.' ∧ char.isDigit = false

theorem spellsNoAmount_of_sign {raw : String} (sign : '-' ∈ raw.toList ∨ '+' ∈ raw.toList) :
    SpellsNoAmount raw := by
  rcases sign with member | member
  · exact ⟨'-', member, by decide, by decide⟩
  · exact ⟨'+', member, by decide, by decide⟩

theorem DecimalAmount.parse_of_spellsNoAmount {raw : String} (foreign : SpellsNoAmount raw) :
    parse raw = .error (.nonPositiveAmount raw) := by
  rcases foreign with ⟨char, member, point, digit⟩
  have either := Digits.mem_splitAt member point
  have mixed : (Digits.all (Digits.splitAt '.' raw.toList).1 &&
      Digits.all ((Digits.splitAt '.' raw.toList).2.getD [])) = false := by
    rw [Bool.and_eq_false_iff]
    refine either.imp (fun inside => ?_) fun inside => ?_ <;>
      exact List.all_eq_false.mpr ⟨char, inside, by rw [digit]; exact Bool.false_ne_true⟩
  rw [parse]
  simp only [mixed]
  split <;> rfl

theorem AmountRequest.parse_positive (raw : String) :
    parse raw .positive = AmountRequest.value <$> DecimalAmount.parse raw := by
  rw [parse]
  split
  · rename_i equal
    have sign : SpellsNoAmount entireBalanceLiteral := spellsNoAmount_of_sign (.inl (by decide))
    rw [equal, DecimalAmount.parse_of_spellsNoAmount sign]
    rfl
  · rfl

theorem AmountRequest.parse_positive_eq_error_iff {raw : String} {fault : InputFault} :
    parse raw .positive = .error fault ↔ DecimalAmount.parse raw = .error fault := by
  rw [parse_positive]
  cases DecimalAmount.parse raw <;> simp [Functor.map, Except.map]

theorem AmountRequest.exists_of_parse_positive {raw : String} {request : AmountRequest}
    (parses : parse raw .positive = .ok request) :
    ∃ amount, DecimalAmount.parse raw = .ok amount := by
  rw [parse_positive] at parses
  cases parsed : DecimalAmount.parse raw with
  | error fault =>
      rw [parsed] at parses
      cases parses
  | ok amount => exact ⟨amount, rfl⟩

theorem AmountRequest.parse_of_spellsNoAmount {raw : String} {rule : AmountRule}
    (foreign : SpellsNoAmount raw) (other : rule = .positiveOrEntire → raw ≠ entireBalanceLiteral) :
    parse raw rule = .error (.nonPositiveAmount raw) := by
  cases rule with
  | positive =>
      rw [parse_positive, DecimalAmount.parse_of_spellsNoAmount foreign]
      rfl
  | positiveOrEntire =>
      rw [parse, if_neg (other rfl), DecimalAmount.parse_of_spellsNoAmount foreign]
      rfl

/-! ## What intents name -/

namespace Intent

def typedAmounts : Intent → List (String × AmountRule)
  | supply intent => [(intent.amount, .positive)]
  | supplyWithPermit intent => [(intent.amount, .positive)]
  | withdraw intent => [(intent.amount, .positiveOrEntire)]
  | borrow intent => [(intent.amount, .positive)]
  | repay intent => [(intent.amount, .positiveOrEntire)]
  | repayWithPermit intent => [(intent.amount, .positiveOrEntire)]
  | swapCollateral intent => [(intent.fromAmount, .positive), (intent.minToAmount, .positive)]
  | repayWithCollateral intent =>
      [(intent.repayWithAmount, .positive), (intent.repayAmount, .positive)]
  | liquidationCall intent => [(intent.debtToCover, .positiveOrEntire)]
  | flashLiquidation intent => [(intent.debtToCover, .positive)]
  | setUsageAsCollateral _ | setUserEMode _ | swapBorrowRateMode _ => []

def typedParties : Intent → List String
  | supply intent => intent.user :: intent.reserve :: intent.onBehalfOf.toList
  | supplyWithPermit intent => intent.user :: intent.reserve :: intent.onBehalfOf.toList
  | withdraw intent => intent.user :: intent.reserve :: intent.onBehalfOf.toList
  | borrow intent => intent.user :: intent.reserve :: intent.onBehalfOf.toList
  | repay intent => intent.user :: intent.reserve :: intent.onBehalfOf.toList
  | repayWithPermit intent => intent.user :: intent.reserve :: intent.onBehalfOf.toList
  | swapCollateral intent =>
      intent.user :: intent.fromAsset :: intent.fromAToken :: intent.toAsset ::
        intent.aggregator :: intent.onBehalfOf.toList
  | repayWithCollateral intent =>
      intent.user :: intent.fromAsset :: intent.fromAToken :: intent.assetToRepay ::
        intent.aggregator :: intent.onBehalfOf.toList
  | liquidationCall intent =>
      [intent.liquidator, intent.liquidatedUser, intent.debtReserve, intent.collateralReserve]
  | flashLiquidation intent =>
      [intent.user, intent.collateralReserve, intent.borrowedReserve, intent.initiator]
  | setUsageAsCollateral intent => [intent.user, intent.reserve]
  | setUserEMode intent => [intent.user]
  | swapBorrowRateMode intent => [intent.user, intent.reserve]

end Intent

def readAmounts (amounts : List (String × AmountRule)) : Except InputFault (List AmountRequest) :=
  amounts.mapM fun amount => AmountRequest.parse amount.1 amount.2

theorem readAmounts_cons_eq_error {amounts : List (String × AmountRule)} {raw : String}
    {rule : AmountRule} {fault : InputFault}
    (refused : readAmounts ((raw, rule) :: amounts) = .error fault) :
    AmountRequest.parse raw rule = .error fault ∨
      (∃ request, AmountRequest.parse raw rule = .ok request) ∧
        readAmounts amounts = .error fault := by
  rw [readAmounts, List.mapM_cons] at refused
  cases parses : AmountRequest.parse raw rule with
  | error earlier =>
      rw [parses] at refused
      cases refused
      exact .inl rfl
  | ok request =>
      rw [parses] at refused
      refine .inr ⟨⟨request, rfl⟩, ?_⟩
      cases rest : readAmounts amounts with
      | error later =>
          rw [readAmounts] at rest
          rw [rest] at refused
          cases refused
          rfl
      | ok requests =>
          rw [readAmounts] at rest
          rw [rest] at refused
          cases refused

theorem parse_of_readAmounts_singleton {raw : String} {rule : AmountRule} {fault : InputFault}
    (refused : readAmounts [(raw, rule)] = .error fault) :
    AmountRequest.parse raw rule = .error fault := by
  rcases readAmounts_cons_eq_error refused with refused | ⟨-, empty⟩
  · exact refused
  · cases empty

theorem readAmounts_of_spellsNoAmount {before after : List (String × AmountRule)} {raw : String}
    {rule : AmountRule}
    (accepted : ∀ amount ∈ before, ∃ request, AmountRequest.parse amount.1 amount.2 = .ok request)
    (foreign : SpellsNoAmount raw) (other : rule = .positiveOrEntire → raw ≠ entireBalanceLiteral) :
    readAmounts (before ++ (raw, rule) :: after) = .error (.nonPositiveAmount raw) := by
  induction before with
  | nil =>
      rw [readAmounts, List.nil_append, List.mapM_cons,
        AmountRequest.parse_of_spellsNoAmount foreign other]
      rfl
  | cons amount before induction =>
      rcases accepted amount (List.mem_cons_self ..) with ⟨request, parses⟩
      have rest := induction fun amount member => accepted amount (List.mem_cons_of_mem _ member)
      rw [readAmounts] at rest ⊢
      rw [List.cons_append, List.mapM_cons, parses, rest]
      rfl

/-! ## Checks up to a refused amount -/

/-- Planning looks up accounts in order, and after that it comes to a fault. -/
def RefusesAfter {α : Type} (resolver : Resolver) (snapshot : Snapshot) (parties : List String)
    (fault : Fault) (planning : Planning α) : Prop :=
  outcome snapshot planning =
    outcome snapshot (parties.mapM resolver.validate) >>= fun _ => .error fault

section

variable {α β : Type} {resolver : Resolver} {snapshot : Snapshot} {parties : List String}
  {fault : InputFault}

namespace RefusesAfter

theorem check {result : Except InputFault α} (refused : result = .error fault)
    (next : α → Planning β) :
    RefusesAfter resolver snapshot [] (.input fault) (Planning.check result >>= next) := by
  rw [refused]
  rfl

theorem check_of_ok {result : Except InputFault α} {value : α} {next : α → Planning β}
    (accepted : result = .ok value)
    (rest : RefusesAfter resolver snapshot parties (.input fault) (next value)) :
    RefusesAfter resolver snapshot parties (.input fault) (Planning.check result >>= next) := by
  rw [accepted]
  exact rest

theorem validate {text : String} {next : Address → Planning β} {fault : Fault}
    (rest : ∀ address, RefusesAfter resolver snapshot parties fault (next address)) :
    RefusesAfter resolver snapshot (text :: parties) fault (resolver.validate text >>= next) := by
  rw [RefusesAfter, List.mapM_cons, outcome_bind, outcome_bind]
  cases outcome snapshot (resolver.validate text) with
  | error earlier => rfl
  | ok address =>
      refine (rest address).trans ?_
      change _ = outcome snapshot (parties.mapM resolver.validate >>= fun addresses =>
        pure (address :: addresses)) >>= fun _ => .error fault
      rw [outcome_bind]
      cases outcome snapshot (parties.mapM resolver.validate) <;> rfl

theorem validateOr {text : Option String} {default : Address} {next : Address → Planning β}
    {fault : Fault} (rest : ∀ address, RefusesAfter resolver snapshot [] fault (next address)) :
    RefusesAfter resolver snapshot text.toList fault
      (resolver.validateOr text default >>= next) := by
  cases text with
  | none => exact rest default
  | some text => exact validate rest

/-! ### Amounts -/

theorem check_positive {raw : String} (refused : readAmounts [(raw, .positive)] = .error fault)
    (next : DecimalAmount → Planning β) :
    RefusesAfter resolver snapshot [] (.input fault)
      (Planning.check (DecimalAmount.parse raw) >>= next) :=
  .check (AmountRequest.parse_positive_eq_error_iff.mp (parse_of_readAmounts_singleton refused))
    next

theorem check_request {raw : String} {rule : AmountRule}
    (refused : readAmounts [(raw, rule)] = .error fault) (next : AmountRequest → Planning β) :
    RefusesAfter resolver snapshot [] (.input fault)
      (Planning.check (AmountRequest.parse raw rule) >>= next) :=
  .check (parse_of_readAmounts_singleton refused) next

theorem check_two {first second : String}
    (refused : readAmounts [(first, .positive), (second, .positive)] = .error fault)
    (next : DecimalAmount → DecimalAmount → Planning β) :
    RefusesAfter resolver snapshot [] (.input fault)
      (Planning.check (DecimalAmount.parse first) >>= fun amount =>
        Planning.check (DecimalAmount.parse second) >>= next amount) := by
  rcases readAmounts_cons_eq_error refused with refused | ⟨⟨request, parses⟩, rest⟩
  · exact .check (AmountRequest.parse_positive_eq_error_iff.mp refused) _
  · rcases AmountRequest.exists_of_parse_positive parses with ⟨amount, parses⟩
    exact .check_of_ok parses (.check_positive rest _)

/-! ### Plans -/

theorem onCached_bind {planning : Planning α} {fault : Fault}
    (refuses : RefusesAfter resolver snapshot parties fault planning)
    (asksOnly : AsksOnly ChainQuery.IsResolution planning) (lifetime : Option Nat) (cache : Cache)
    (next : α → Planning β) :
    (Reading.onCached lifetime snapshot cache (planning >>= next).run).1 =
      outcome snapshot (parties.mapM resolver.validate) >>= fun _ => .error fault := by
  have run := onCached_of_asksOnly asksOnly snapshot lifetime cache
  rw [refuses] at run
  cases parties : outcome snapshot (parties.mapM resolver.validate) with
  | error earlier =>
      rw [parties] at run
      rw [onCached_bind_of_error run next]
      rfl
  | ok addresses =>
      rw [parties] at run
      rw [onCached_bind_of_error run next]
      rfl

end RefusesAfter

theorem Intent.refusesAfter_order {intent : Intent}
    (refused : readAmounts intent.typedAmounts = .error fault) :
    RefusesAfter resolver snapshot intent.typedParties (.input fault) (intent.order resolver) := by
  cases intent with
  | supply | supplyWithPermit | borrow =>
      exact .validate fun _ => .validate fun _ => .validateOr fun _ => .check_positive refused _
  | withdraw | repay | repayWithPermit =>
      exact .validate fun _ => .validate fun _ => .validateOr fun _ => .check_request refused _
  | swapCollateral | repayWithCollateral =>
      exact .validate fun _ => .validate fun _ => .validate fun _ => .validate fun _ =>
        .validate fun _ => .validateOr fun _ => .check_two refused _
  | liquidationCall =>
      exact .validate fun _ => .validate fun _ => .validate fun _ => .validate fun _ =>
        .check_request refused _
  | flashLiquidation =>
      exact .validate fun _ => .validate fun _ => .validate fun _ => .validate fun _ =>
        .check_positive refused _
  | setUsageAsCollateral | setUserEMode | swapBorrowRateMode => cases refused

theorem PermitRequestIntent.refusesAfter_order {request : PermitRequestIntent}
    (refused : readAmounts [(request.amount, .positiveOrEntire)] = .error fault) :
    RefusesAfter resolver snapshot [request.user, request.reserve] (.input fault)
      (request.order resolver) :=
  .validate fun _ => .validate fun _ => .check_request refused _

end

end LendingPool
