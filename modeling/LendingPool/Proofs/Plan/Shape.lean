import LendingPool.Proofs.Call.Token
import LendingPool.Proofs.Plan.Actions
import LendingPool.Proofs.Plan.Following
/-! The shape of plans: an action of the acting account, and before it at most one approval, which
names the contract that takes the tokens. -/

namespace LendingPool

open Planning

section

variable {planner : Planner} {resolver : Resolver} {snapshot : Snapshot} {intent : Intent}
  {Possible : PossibleReplies}

/-! ## Intents without approvals -/

/-- Whether a signed permit stands in for an approval. -/
def Intent.bearsPermit : Intent → Bool
  | supplyWithPermit _ | repayWithPermit _ => true
  | swapCollateral intent => intent.permit.isSome
  | repayWithCollateral intent => intent.permit.isSome
  | _ => false

/-- Actions for which the pool takes nothing from the sender. -/
def Intent.takesNothing : Intent → Bool
  | borrow _ | withdraw _ | setUsageAsCollateral _ | setUserEMode _ | swapBorrowRateMode _ => true
  | _ => false

def Intent.needsNoApproval (intent : Intent) (path : Path) : Bool :=
  intent.bearsPermit || path = .packed || path = .standard && intent.takesNothing

section Outlines

variable {native : Bool}

theorem Outline.pull?_reserve_of_packed {packed : Bool} {actor : String}
    {amount? : Option (String × String)} {approval : Option ApprovalPolicy}
    (packs : (reserve packed actor amount? approval).path = .packed) :
    (reserve packed actor amount? approval).pull? = none := by
  cases packed with
  | true => rfl
  | false => cases packs

theorem Outline.pull?_reserve_none (packed : Bool) (actor : String)
    (amount? : Option (String × String)) : (reserve packed actor amount? none).pull? = none := by
  cases packed <;> rfl

theorem Outline.pull?_adapter_of_permitted {path : Path} {actor fromAsset fromAToken sold : String}
    {flash enlarged permitted : Bool} {other : Leg String String} {policy : ApprovalPolicy}
    (permits : permitted = true) :
    (adapter path actor flash enlarged fromAsset fromAToken sold other permitted policy).pull? =
      none := by
  rw [permits]
  rfl

theorem Intent.pull?_of_packed (packs : (intent.outline native).path = .packed) :
    (intent.outline native).pull? = none := by
  cases intent <;> cases native <;>
    first
    | exact Outline.pull?_reserve_of_packed packs
    | cases packs

theorem Intent.pull?_of_bearsPermit (permits : intent.bearsPermit = true) :
    (intent.outline native).pull? = none := by
  cases intent with
  | supplyWithPermit intent => exact Outline.pull?_reserve_none _ _ _
  | repayWithPermit intent => exact Outline.pull?_reserve_none _ _ _
  | swapCollateral intent => exact Outline.pull?_adapter_of_permitted permits
  | repayWithCollateral intent => exact Outline.pull?_adapter_of_permitted permits
  | _ => cases permits

theorem Intent.pull?_of_takesNothing (standard : (intent.outline native).path = .standard)
    (free : intent.takesNothing = true) : (intent.outline native).pull? = none := by
  cases intent with
  | withdraw intent =>
      cases native with
      | true => cases standard
      | false => exact Outline.pull?_reserve_none _ _ _
  | borrow intent =>
      cases native with
      | true => cases standard
      | false => exact Outline.pull?_reserve_none _ _ _
  | setUsageAsCollateral intent => exact Outline.pull?_reserve_none _ _ _
  | setUserEMode intent => exact Outline.pull?_reserve_none _ _ _
  | swapBorrowRateMode intent => exact Outline.pull?_reserve_none _ _ _
  | _ => cases free

theorem Intent.pull?_of_needsNoApproval
    (free : intent.needsNoApproval (intent.outline native).path = true) :
    (intent.outline native).pull? = none := by
  simp only [needsNoApproval, Bool.or_eq_true, Bool.and_eq_true, decide_eq_true_eq] at free
  rcases free with (permits | packs) | ⟨standard, free⟩
  · exact pull?_of_bearsPermit permits
  · exact pull?_of_packed packs
  · exact pull?_of_takesNothing standard free

theorem Outline.not_delegated_reserve {packed : Bool} {actor : String}
    {amount? : Option (String × String)} {approval : Option ApprovalPolicy}
    {pull : Pull String String}
    (pulls : (reserve packed actor amount? approval).pull? = some pull) :
    pull.delegated = false := by
  cases packed with
  | true => cases pulls
  | false =>
      cases approval <;> cases amount? <;> cases pulls
      rfl

theorem Outline.not_delegated_adapter {path : Path} {actor fromAsset fromAToken sold : String}
    {flash enlarged permitted : Bool} {other : Leg String String} {policy : ApprovalPolicy}
    {pull : Pull String String}
    (pulls : (adapter path actor flash enlarged fromAsset fromAToken sold other permitted
      policy).pull? = some pull) : pull.delegated = false := by
  cases permitted <;> cases pulls
  rfl

theorem Outline.not_delegated_nativeWithdraw {actor amount : String} {aToken : Option String}
    {pull : Pull String String} (pulls : (nativeWithdraw actor amount aToken).pull? = some pull) :
    pull.delegated = false := by
  cases aToken <;> cases pulls
  rfl

theorem Intent.of_delegated {pull : Pull String String}
    (pulls : (intent.outline native).pull? = some pull) (delegated : pull.delegated = true) :
    (intent.outline native).path = .native ∧ ∃ borrowing, intent = .borrow borrowing := by
  cases intent with
  | borrow borrowing =>
      cases native with
      | true => exact ⟨rfl, borrowing, rfl⟩
      | false => cases (Outline.not_delegated_reserve pulls).symm.trans delegated
  | withdraw =>
      cases native with
      | true => cases (Outline.not_delegated_nativeWithdraw pulls).symm.trans delegated
      | false => cases (Outline.not_delegated_reserve pulls).symm.trans delegated
  | supply =>
      cases native with
      | true => cases pulls
      | false => cases (Outline.not_delegated_reserve pulls).symm.trans delegated
  | repay =>
      cases native with
      | true => cases pulls
      | false => cases (Outline.not_delegated_reserve pulls).symm.trans delegated
  | swapCollateral => cases (Outline.not_delegated_adapter pulls).symm.trans delegated
  | repayWithCollateral => cases (Outline.not_delegated_adapter pulls).symm.trans delegated
  | flashLiquidation => cases pulls
  | _ => cases (Outline.not_delegated_reserve pulls).symm.trans delegated

end Outlines

/-! ## Drafts of intents -/

theorem Planner.drafted_follows {draft : Draft}
    (possible : ∀ query reply, Possible query reply → snapshot.MayAnswer query reply)
    (drafts : Yields Possible (planner.drafted intent) (some draft)) :
    ∃ outline, (intent.outlineOn planner.resolver snapshot).Checked planner.resolver snapshot
      outline ∧ draft.Follows planner Possible outline ∧
      draft.action.Tells planner outline.path draft.instruction := by
  rcases yields_bind_iff.mp drafts with ⟨order, orders, drafts⟩
  exact ⟨order.outline, Intent.order_checked (orders.mono possible), draft_follows drafts,
    (drafts_of_draft drafts).tells⟩

theorem Draft.Follows.pull_of_gate {draft : Draft} {gate : Gate}
    {typed : Outline String String} {outline : Outline Address AmountRequest}
    (follows : draft.Follows planner Possible outline)
    (checked : typed.Checked resolver snapshot outline) (gated : draft.gate = some gate) :
    ∃ typedPull pull, typed.pull? = some typedPull ∧ typedPull.Checked resolver snapshot pull ∧
      pull.Gated planner outline.path draft.amounts gate := by
  have gates := follows.gate
  have pulls := checked.pull?
  rw [gated] at gates
  generalize outline.pull? = pull? at gates pulls
  generalize typed.pull? = typedPull? at pulls
  cases gates with
  | some gates =>
      cases pulls with
      | some pulls => exact ⟨_, _, rfl, pulls, gates⟩

/-! ## Shapes -/

/-- A transaction by which the owner lets a spender take so much of a token, or take on so much
debt. That is what the token reads in the call data. -/
structure Descriptor.Grants (approval : Descriptor) (owner token spender : Address)
    (delegated : Bool) (size : Word) : Prop where
  kind : approval.kind = if delegated then .delegationApproval else .tokenApproval
  sender : approval.call.sender = owner
  target : approval.call.target = token
  value : approval.call.value = 0
  read : TokenCall.decode? approval.call.data =
    some (if delegated then .approveDelegation spender size else .approve spender size)

theorem Gate.grants_grant (gate : Gate) (owner : Address) (limits : GasLimits) :
    (gate.grant owner limits).Grants owner gate.token gate.spender gate.delegated gate.size := by
  rw [grant]
  cases gate.delegated with
  | true =>
      rw [if_pos rfl]
      exact ⟨rfl, rfl, rfl, rfl,
        (TokenCall.approveDelegation gate.spender gate.size).decode?_encode⟩
  | false =>
      rw [if_neg Bool.false_ne_true]
      exact ⟨rfl, rfl, rfl, rfl, (TokenCall.approve gate.spender gate.size).decode?_encode⟩

/-- An approval for a spender, to be sent because the one allowance that was read falls short. -/
structure Descriptor.Approves (approval : Descriptor) (owner spender : Address)
    (delegated : Bool) (reads : List ChainQuery) : Prop where
  grants : ∃ size, approval.Grants owner approval.call.target spender delegated size
  read : reads.filter ChainQuery.isAllowance =
    [if delegated then .borrowAllowance approval.call.target owner spender
      else .allowance approval.call.target owner spender]

theorem Gate.approves_grant (gate : Gate) (owner : Address) (limits : GasLimits)
    {reads : List ChainQuery} (read : reads.filter ChainQuery.isAllowance = [gate.query owner]) :
    (gate.grant owner limits).Approves owner gate.spender gate.delegated reads := by
  have grants := gate.grants_grant owner limits
  rw [query, ← grants.target] at read
  rw [← grants.target] at grants
  refine ⟨⟨gate.size, grants⟩, read.trans ?_⟩
  split <;> rfl

theorem Planner.execute_shape {lifetime : Option Nat} {cache later : Cache}
    {plan : List Descriptor} {reads : List ChainQuery}
    (executed : Reading.onCached lifetime snapshot cache (planner.execute intent).run =
      (.ok plan, later, reads)) :
    (plan = [] ∨ ∃ actor action,
      planner.resolver.account? snapshot (intent.outlineOn planner.resolver snapshot).actor =
        some actor ∧
      action.kind = .poolAction ∧ action.call.sender = actor ∧
      (plan = [action] ∨ ∃ approval spender delegated, plan = [approval, action] ∧
        planner.spender? (intent.outlineOn planner.resolver snapshot).path = some spender ∧
        approval.Approves actor spender delegated reads ∧
        (delegated = true → (intent.outlineOn planner.resolver snapshot).path = .native ∧
          ∃ borrowing, intent = .borrow borrowing))) ∧
    (intent.needsNoApproval (intent.outlineOn planner.resolver snapshot).path = true →
      plan.length ≤ 1 ∧ reads.filter ChainQuery.isAllowance = []) := by
  rcases Reading.course_of_onCached executed with ⟨asked, course, read⟩
  by_cases nonempty : plan = []
  · subst nonempty
    refine ⟨.inl rfl, fun _ => ⟨Nat.zero_le 1, ?_⟩⟩
    rw [read, filter_isAllowance_of_drafted (course_execute_nil course)]
  · rcases (course_execute_iff nonempty).mp course with
      ⟨draft, before, after, rfl, drafts, finishes⟩
    rcases drafted_follows (fun _ _ => id) drafts.yields with ⟨outline, checked, follows, -⟩
    rw [List.filter_append, filter_isAllowance_of_drafted drafts, List.nil_append] at read
    cases gated : draft.gate with
    | none =>
        rcases (Draft.course_finish_iff_of_none gated).mp finishes with ⟨rfl, rfl⟩
        refine ⟨.inr ⟨draft.sender, draft.action, ?_, rfl, rfl, .inl rfl⟩, fun _ => ⟨?_, read⟩⟩
        · rw [follows.sender, checked.actor]
        · exact Nat.le_refl 1
    | some gate =>
        rcases follows.pull_of_gate checked gated with ⟨typedPull, pull, pulls, named, gates⟩
        rcases (Draft.course_finish_iff_of_some gated).mp finishes with ⟨present, rfl, -, rfl⟩
        rw [List.filter_singleton, gate.isAllowance_query] at read
        constructor
        · refine .inr ⟨draft.sender, draft.action, ?_, rfl, rfl, ?_⟩
          · rw [follows.sender, checked.actor]
          · rw [Gate.missing]
            split
            · refine .inr ⟨_, gate.spender, gate.delegated, rfl, ?_, ?_, ?_⟩
              · rw [checked.path]
                exact gates.spender
              · exact gate.approves_grant draft.sender draft.limits read
              · intro delegated
                apply Intent.of_delegated pulls
                rw [named.delegated, ← gates.delegated, delegated]
            · exact .inl rfl
        · intro free
          rw [Intent.outlineOn] at free pulls
          rw [Intent.pull?_of_needsNoApproval free] at pulls
          cases pulls

end

/-! ### A supply whose allowance falls short -/

namespace Sample

def planner : Planner where
  contracts := { pool := some (.ofNat 1) }
  surplusPercent := .ofInt 5
  flashPremium := 5
  limits := fun _ => 0
  resolver := .absent
  gateway := none
  packedPool := none

/-- A chain with one token, of which nobody has granted anything. -/
def snapshot : Snapshot where
  tokens := [(.ofNat 11, ⟨"Token", 6⟩)]

def supply : Intent := .supply {
  user := "0x000000000000000000000000000000000000000a"
  reserve := "0x000000000000000000000000000000000000000b"
  amount := "1.5" }

theorem executes : ∃ approval action reads,
    Reading.on snapshot (planner.execute supply).run = (.ok [approval, action], reads) := by
  have entries : (Reading.on snapshot (planner.execute supply).run).1.toOption.map List.length =
      some 2 := by decide +kernel
  rcases exists_run_of_map entries with ⟨plan, reads, run, two⟩
  rcases List.length_eq_two.mp two with ⟨approval, action, rfl⟩
  exact ⟨approval, action, reads, run⟩

theorem exists_nonempty {β : Type} {run : Except Fault (List Descriptor) × β} {count : Nat}
    (entries : run.1.toOption.map List.length = some (count + 1)) :
    ∃ plan rest, run = (.ok plan, rest) ∧ plan ≠ [] := by
  rcases exists_run_of_map entries with ⟨plan, rest, run, length⟩
  refine ⟨plan, rest, run, ?_⟩
  rintro rfl
  cases length

end Sample

theorem Planner.execute_shape_sample :
    ∃ actor approval action spender delegated later reads,
      Reading.onCached none Sample.snapshot {} (Sample.planner.execute Sample.supply).run =
        (.ok [approval, action], later, reads) ∧
      Sample.planner.spender? .standard = some spender ∧
      approval.Approves actor spender delegated reads := by
  rcases executed : Reading.onCached none Sample.snapshot {}
    (Sample.planner.execute Sample.supply).run with ⟨outcome, later, reads⟩
  have entries : outcome.toOption.map List.length = some 2 := by
    have first : _ = outcome := congrArg Prod.fst executed
    rw [← first]
    decide +kernel
  cases outcome with
  | error fault => cases entries
  | ok plan =>
      rcases (execute_shape executed).1 with rfl | ⟨actor, action, -, -, -, rfl | rest⟩
      · cases entries
      · cases entries
      · rcases rest with ⟨approval, spender, delegated, rfl, spends, approves, -⟩
        refine ⟨actor, approval, action, spender, delegated, later, reads, rfl, ?_, approves⟩
        rw [← spends]
        decide +kernel

end LendingPool
