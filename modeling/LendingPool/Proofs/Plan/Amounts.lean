import LendingPool.Proofs.Amount.Typed
import LendingPool.Proofs.Plan.Shape
/-! Amounts in call data are the typed amounts in the units of the right tokens. -/

namespace LendingPool

open Planning

section

variable {planner : Planner} {resolver : Resolver} {snapshot : Snapshot} {intent : Intent}

def Leg.factor (leg : Leg String String) (surplusPercent : Decimal96) : ℚ :=
  if leg.enlarged then 1 + surplusPercent.toRat / 100 else 1

def NamedDecimals (resolver : Resolver) (snapshot : Snapshot) (token : Option String)
    (decimals : UInt8) : Prop :=
  match token with
  | some text => ∃ token, resolver.account? snapshot text = some token ∧
      snapshot.reply (.decimals token) = .ok decimals
  | none => decimals = 18

/-- A word is the whole balance if the text asks for it, and else the number that the text spells,
in base units. -/
def Leg.Spells (planner : Planner) (snapshot : Snapshot) (leg : Leg String String)
    (word : Word) : Prop :=
  if leg.quantity = entireBalanceLiteral then word = Word.max
  else ∃ decimals, NamedDecimals planner.resolver snapshot leg.token decimals ∧
    word.toNat =
      ⌊typedValue leg.quantity * leg.factor planner.surplusPercent * 10 ^ decimals.toNat⌋₊

theorem NamedDecimals.of_checked {typed : Option String} {token : Option Address}
    {decimals : UInt8}
    (named : Option.Rel (fun text address => resolver.account? snapshot text = some address)
      typed token)
    (reads : TokenDecimals snapshot.Answers token decimals) :
    NamedDecimals resolver snapshot typed decimals := by
  cases named with
  | none => exact reads
  | some named => exact ⟨_, named, Eq.symm reads⟩

theorem Leg.spells {typed : Leg String String} {leg : Leg Address AmountRequest} {word : Word}
    (checked : typed.Checked planner.resolver snapshot leg)
    (measures : leg.Measures planner snapshot.Answers word) :
    typed.Spells planner snapshot word := by
  rcases typed with ⟨role, token, quantity, enlarged⟩
  rcases leg with ⟨_, address, request, _⟩
  rcases checked with ⟨rfl, named, requests, rfl⟩
  rw [Spells]
  cases request with
  | entireBalance =>
      rw [if_pos (requests_entireBalance_iff.mp requests)]
      exact measures
  | value amount =>
      rw [if_neg fun entire => AmountRequest.noConfusion (requests.entire_iff.mp entire)]
      rcases measures with ⟨decimals, final, units, reads, enlarges, converts, rfl⟩
      refine ⟨decimals, .of_checked named reads, ?_⟩
      have parsed := DecimalAmount.toRat_parse (requests_value_iff.mp requests)
      have value : final.toRat = typedValue quantity *
          (if enlarged then 1 + planner.surplusPercent.toRat / 100 else 1) := by
        rw [← parsed]
        cases enlarged with
        | true => exact DecimalAmount.toRat_withSurplus enlarges
        | false =>
            cases enlarges
            exact (mul_one _).symm
      rw [(DecimalAmount.toUnits_eq_ok_iff.mp converts).2.1, DecimalAmount.floorUnits_eq, value]
      rfl

theorem Leg.forall₂_spells {typed : List (Leg String String)}
    {legs : List (Leg Address AmountRequest)} {fields : List (AmountRole × Word)}
    (checked : List.Forall₂ (Leg.Checked planner.resolver snapshot) typed legs)
    (measured : List.Forall₂
      (fun leg field => leg.role = field.1 ∧ leg.Measures planner snapshot.Answers field.2)
      legs fields) :
    List.Forall₂ (fun leg field => leg.role = field.1 ∧ leg.Spells planner snapshot field.2)
      typed fields := by
  induction checked generalizing fields with
  | nil =>
      cases measured
      exact .nil
  | cons checked _ induction =>
      cases measured with
      | cons measures rest =>
          exact .cons ⟨checked.1.trans measures.1, Leg.spells checked measures.2⟩ (induction rest)

theorem Planner.execute_amounts {plan : List Descriptor} {reads : List ChainQuery}
    (executed : Reading.on snapshot (planner.execute intent).run = (.ok plan, reads))
    (nonempty : plan ≠ []) :
    ∃ (action : Descriptor) (instruction : Instruction),
      plan.getLast? = some action ∧
      action.Tells planner (intent.outlineOn planner.resolver snapshot).path instruction ∧
      List.Forall₂ (fun leg field => leg.role = field.1 ∧ leg.Spells planner snapshot field.2)
        (intent.outlineOn planner.resolver snapshot).legs
        (instruction.amountsWith action.call.value) := by
  have course := course_answers_iff.mpr executed
  rcases (course_execute_iff nonempty).mp course with
    ⟨draft, before, after, -, drafts, finishes⟩
  rcases drafted_follows (fun _ _ answer _ => answer) drafts.yields with
    ⟨outline, checked, follows, tells⟩
  rw [← checked.path] at tells
  exact ⟨draft.action, draft.instruction, Draft.getLast?_of_course_finish finishes, tells,
    Leg.forall₂_spells checked.legs follows.amounts⟩

end

theorem Planner.execute_amounts_sample :
    ∃ (plan : List Descriptor) (reads : List ChainQuery) (action : Descriptor)
      (instruction : Instruction),
      Reading.on Sample.snapshot (Sample.planner.execute Sample.supply).run = (.ok plan, reads) ∧
      plan.getLast? = some action ∧
      action.Tells Sample.planner (Sample.supply.outlineOn .absent Sample.snapshot).path
        instruction ∧
      List.Forall₂
        (fun leg field => leg.role = field.1 ∧ leg.Spells Sample.planner Sample.snapshot field.2)
        (Sample.supply.outlineOn .absent Sample.snapshot).legs
        (instruction.amountsWith action.call.value) := by
  rcases Sample.executes with ⟨first, second, reads, executed⟩
  rcases execute_amounts executed (List.cons_ne_nil _ _) with
    ⟨action, instruction, last, tells, spelled⟩
  exact ⟨[first, second], reads, action, instruction, executed, last, tells, spelled⟩

end LendingPool
