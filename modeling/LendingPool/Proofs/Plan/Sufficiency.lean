import LendingPool.Proofs.Plan.Shape
/-! Approvals are sent exactly when they are needed, and they suffice: once granted, the same
intent comes to the action alone. -/

namespace LendingPool

open Planning

/-! ## Granted allowances -/

namespace Snapshot

def allowanceAt (snapshot : Snapshot) (gate : Gate) (owner : Address) : Word :=
  (latest? (gate.token, owner, gate.spender)
    (if gate.delegated then snapshot.borrowAllowances else snapshot.allowances)).getD 0

/-- The same chain after the owner has granted what a gate asks for. -/
def granting (snapshot : Snapshot) (gate : Gate) (owner : Address) : Snapshot :=
  if gate.delegated then
    { snapshot with borrowAllowances :=
        snapshot.borrowAllowances ++ [((gate.token, owner, gate.spender), gate.size)] }
  else
    { snapshot with allowances :=
        snapshot.allowances ++ [((gate.token, owner, gate.spender), gate.size)] }

/-- The same chain after a transaction that grants something. The token goes by what it reads in the
call data. -/
def after (snapshot : Snapshot) (transaction : Descriptor) : Snapshot :=
  let owned (spender : Address) := (transaction.call.target, transaction.call.sender, spender)
  match TokenCall.decode? transaction.call.data with
  | some (.approve spender amount) =>
      { snapshot with allowances := snapshot.allowances ++ [(owned spender, amount)] }
  | some (.approveDelegation delegatee amount) =>
      { snapshot with
        borrowAllowances := snapshot.borrowAllowances ++ [(owned delegatee, amount)] }
  | none => snapshot

variable {snapshot : Snapshot} {gate : Gate} {owner : Address}

theorem after_eq_granting {approval : Descriptor}
    (grants : approval.Grants owner gate.token gate.spender gate.delegated gate.size) :
    snapshot.after approval = snapshot.granting gate owner := by
  rw [after, grants.read, grants.target, grants.sender, granting]
  cases gate.delegated <;> rfl

section Entries

variable {κ α : Type} [BEq κ] [LawfulBEq κ]

theorem latest?_append_self (key : κ) (value : α) (entries : List (κ × α)) :
    latest? key (entries ++ [(key, value)]) = some value := by
  rw [latest?, List.reverse_append]
  exact List.lookup_cons_self

theorem latest?_append_of_ne {key other : κ} (different : key ≠ other) (value : α)
    (entries : List (κ × α)) : latest? key (entries ++ [(other, value)]) = latest? key entries := by
  have distinct : (key == other) = false := beq_eq_false_iff_ne.mpr different
  rw [latest?, latest?, List.reverse_append, List.reverse_singleton, List.singleton_append,
    List.lookup_cons, distinct]

end Entries

theorem granting_of_delegated (snapshot : Snapshot) (owner : Address)
    (delegated : gate.delegated = true) :
    snapshot.granting gate owner = { snapshot with
      borrowAllowances :=
        snapshot.borrowAllowances ++ [((gate.token, owner, gate.spender), gate.size)] } := by
  rw [granting, if_pos delegated]

theorem granting_of_direct (snapshot : Snapshot) (owner : Address)
    (direct : gate.delegated = false) :
    snapshot.granting gate owner = { snapshot with
      allowances := snapshot.allowances ++ [((gate.token, owner, gate.spender), gate.size)] } := by
  rw [granting, if_neg (ne_true_of_eq_false direct)]

theorem allowanceAt_granting (snapshot : Snapshot) (gate : Gate) (owner : Address) :
    (snapshot.granting gate owner).allowanceAt gate owner = gate.size := by
  cases delegates : gate.delegated with
  | true =>
      rw [granting_of_delegated snapshot owner delegates, allowanceAt, if_pos delegates]
      exact congrArg (Option.getD · 0) (latest?_append_self _ _ _)
  | false =>
      rw [granting_of_direct snapshot owner delegates, allowanceAt,
        if_neg (ne_true_of_eq_false delegates)]
      exact congrArg (Option.getD · 0) (latest?_append_self _ _ _)

theorem failures_granting (snapshot : Snapshot) (gate : Gate) (owner : Address) :
    (snapshot.granting gate owner).failures = snapshot.failures := by
  rw [granting]
  split <;> rfl

theorem find_granting_of_ne {query : ChainQuery} (different : query ≠ gate.query owner) :
    (snapshot.granting gate owner).find query = snapshot.find query := by
  rw [Gate.query] at different
  cases delegates : gate.delegated with
  | true =>
      rw [granting_of_delegated snapshot owner delegates]
      rw [if_pos delegates] at different
      cases query with
      | borrowAllowance token other spender =>
          have keys : (token, other, spender) ≠ (gate.token, owner, gate.spender) := fun same =>
            different (by cases same; rfl)
          rw [find, latest?_append_of_ne keys]
          rfl
      | _ => rfl
  | false =>
      rw [granting_of_direct snapshot owner delegates]
      rw [if_neg (ne_true_of_eq_false delegates)] at different
      cases query with
      | allowance token other spender =>
          have keys : (token, other, spender) ≠ (gate.token, owner, gate.spender) := fun same =>
            different (by cases same; rfl)
          rw [find, latest?_append_of_ne keys]
          rfl
      | _ => rfl

theorem reply_granting_of_ne {query : ChainQuery} (different : query ≠ gate.query owner) :
    (snapshot.granting gate owner).reply query = snapshot.reply query := by
  rw [reply, reply, failures_granting, find_granting_of_ne different]

theorem mayHold_answers_iff {present : Word} :
    gate.MayHold snapshot.Answers owner present ↔
      latest? (gate.query owner).kind snapshot.failures = none ∧
        snapshot.allowanceAt gate owner = present := by
  rw [Gate.MayHold, Gate.query, allowanceAt]
  cases gate.delegated with
  | true =>
      rw [if_pos rfl, if_pos rfl, if_pos rfl, Answers, reply]
      split <;> simp [*, find, eq_comm]
  | false =>
      rw [if_neg Bool.false_ne_true, if_neg Bool.false_ne_true, if_neg Bool.false_ne_true,
        Answers, reply]
      split <;> simp [*, find, eq_comm]

end Snapshot

/-! ## Intents with allowances -/

section

variable {planner : Planner} {resolver : Resolver} {snapshot : Snapshot} {intent : Intent}

/-- Whether the contract that carries an intent out takes something by allowance, on a certain
path. -/
def Intent.needsAllowance (intent : Intent) (path : Path) : Bool :=
  match intent with
  | supply _ | repay _ | liquidationCall _ => path = .standard
  | swapCollateral intent => intent.permit.isNone
  | repayWithCollateral intent => intent.permit.isNone
  | withdraw _ | borrow _ => path = .native
  | _ => false

theorem Outline.pull?_reserve_of_standard {packed : Bool} {actor : String}
    {amount : String × String} {approval : ApprovalPolicy}
    (standard : (reserve packed actor (some amount) (some approval)).path = .standard) :
    ∃ pull, (reserve packed actor (some amount) (some approval)).pull? = some pull := by
  cases packed with
  | true => cases standard
  | false => exact ⟨_, rfl⟩

theorem Outline.pull?_adapter_of_not_permitted {path : Path}
    {actor fromAsset fromAToken sold : String} {flash enlarged : Bool} {other : Leg String String}
    {policy : ApprovalPolicy} {permit : Option PermitIntent} (unsigned : permit.isNone = true) :
    ∃ pull, (adapter path actor flash enlarged fromAsset fromAToken sold other permit.isSome
      policy).pull? = some pull := by
  cases permit with
  | none => exact ⟨_, rfl⟩
  | some permit => cases unsigned

theorem Intent.exists_pull {order : Order}
    (orders : Yields snapshot.MayAnswer (intent.order resolver) order)
    (needs : intent.needsAllowance (intent.outlineOn resolver snapshot).path = true) :
    ∃ pull, (intent.outlineOn resolver snapshot).pull? = some pull := by
  cases intent with
  | supply intent =>
      have standard := of_decide_eq_true needs
      rw [outlineOn, outline] at standard ⊢
      split at standard
      · cases standard
      · rw [if_neg ‹_›]
        exact Outline.pull?_reserve_of_standard standard
  | repay intent =>
      have standard := of_decide_eq_true needs
      rw [outlineOn, outline] at standard ⊢
      split at standard
      · cases standard
      · rw [if_neg ‹_›]
        exact Outline.pull?_reserve_of_standard standard
  | liquidationCall intent => exact Outline.pull?_reserve_of_standard (of_decide_eq_true needs)
  | swapCollateral intent => exact Outline.pull?_adapter_of_not_permitted needs
  | repayWithCollateral intent => exact Outline.pull?_adapter_of_not_permitted needs
  | withdraw intent =>
      have native := of_decide_eq_true needs
      rw [outlineOn, outline] at native ⊢
      split at native
      · rename_i isNative
        rcases WithdrawIntent.aToken_of_native orders isNative with ⟨text, given⟩
        rw [if_pos isNative, given]
        exact ⟨_, rfl⟩
      · exact absurd native Outline.path_reserve_ne_native
  | borrow intent =>
      have native := of_decide_eq_true needs
      rw [outlineOn, outline] at native ⊢
      split at native
      · rename_i isNative
        rcases BorrowIntent.debtToken_of_native orders isNative with ⟨text, given⟩
        rw [if_pos isNative, given]
        exact ⟨_, rfl⟩
      · exact absurd native Outline.path_reserve_ne_native
  | _ => cases needs

/-! ## Plans -/

theorem Draft.Follows.gate_of_pull {draft : Draft} {typedPull : Pull String String}
    {typed : Outline String String} {outline : Outline Address AmountRequest}
    (follows : draft.Follows planner snapshot.MayAnswer outline)
    (checked : typed.Checked resolver snapshot outline) (pulls : typed.pull? = some typedPull) :
    ∃ pull gate, draft.gate = some gate ∧ typedPull.Checked resolver snapshot pull ∧
      pull.Gated planner outline.path draft.amounts gate := by
  have gates := follows.gate
  have asked := checked.pull?
  rw [pulls] at asked
  generalize outline.pull? = pull? at gates asked
  generalize draft.gate = gate? at gates
  cases asked with
  | some asked =>
      cases gates with
      | some gates => exact ⟨_, _, rfl, asked, gates⟩

theorem Gate.missing_size (gate : Gate) (owner : Address) (limits : GasLimits) :
    gate.missing owner limits gate.size = [] := by
  rw [missing, if_neg (Nat.not_lt.mpr gate.sufficient)]

theorem Planner.execute_granting {draft : Draft} {gate : Gate} {before : List ChainQuery}
    {present : Word} (gated : draft.gate = some gate)
    (drafts : Course snapshot.Answers (planner.drafted intent) before (some draft))
    (holds : gate.MayHold snapshot.Answers draft.sender present) :
    Reading.on (snapshot.granting gate draft.sender) (planner.execute intent).run =
      (.ok [draft.action], before ++ [gate.query draft.sender]) := by
  refine course_answers_iff.mp ((course_execute_iff (List.cons_ne_nil _ _)).mpr
    ⟨draft, before, _, rfl, ?_, ?_⟩)
  · apply drafts.congr (planner.asksOnly_drafted intent)
    intro query plain
    apply Snapshot.reply_granting_of_ne
    intro same
    rw [same, ChainQuery.IsPlain, gate.isAllowance_query] at plain
    cases plain
  · refine (Draft.course_finish_iff_of_some gated).mpr ⟨gate.size, rfl, ?_, ?_⟩
    · refine Snapshot.mayHold_answers_iff.mpr ⟨?_, Snapshot.allowanceAt_granting _ _ _⟩
      rw [Snapshot.failures_granting]
      exact (Snapshot.mayHold_answers_iff.mp holds).1
    · rw [Gate.missing_size, List.nil_append]

theorem Planner.execute_sufficient {plan : List Descriptor} {reads : List ChainQuery}
    (executed : Reading.on snapshot (planner.execute intent).run = (.ok plan, reads))
    (nonempty : plan ≠ [])
    (needs : intent.needsAllowance (intent.outlineOn planner.resolver snapshot).path = true) :
    ∃ (pull : Pull String String) (owner : Address) (gate : Gate) (instruction : Instruction)
      (amount : Word) (approval action : Descriptor),
      (intent.outlineOn planner.resolver snapshot).pull? = some pull ∧
      planner.resolver.account? snapshot (intent.outlineOn planner.resolver snapshot).actor =
        some owner ∧
      planner.resolver.account? snapshot pull.token = some gate.token ∧
      planner.spender? (intent.outlineOn planner.resolver snapshot).path = some gate.spender ∧
      gate.delegated = pull.delegated ∧
      action.kind = .poolAction ∧
      action.Tells planner (intent.outlineOn planner.resolver snapshot).path instruction ∧
      (pull.role, amount) ∈ instruction.amountsWith action.call.value ∧
      gate.required =
        pull.required (pull.quantity = entireBalanceLiteral) planner.flashPremium amount ∧
      gate.size = pull.granted (pull.quantity = entireBalanceLiteral) gate.required ∧
      approval.Grants owner gate.token gate.spender gate.delegated gate.size ∧
      plan = (if (snapshot.allowanceAt gate owner).toNat < gate.required.toNat then
        [approval] else []) ++ [action] ∧
      Reading.on (snapshot.after approval) (planner.execute intent).run = (.ok [action], reads) := by
  have course := course_answers_iff.mpr executed
  rcases (course_execute_iff nonempty).mp course with
    ⟨draft, before, after, rfl, drafts, finishes⟩
  rcases yields_bind_iff.mp drafts.mayAnswer.yields with ⟨order, orders, -⟩
  rcases drafted_follows (fun _ _ => id) drafts.mayAnswer.yields with
    ⟨outline, checked, follows, tells⟩
  rcases Intent.exists_pull orders needs with ⟨typedPull, pulls⟩
  rcases follows.gate_of_pull checked pulls with ⟨pull, gate, gated, named, gates⟩
  rcases (Draft.course_finish_iff_of_some gated).mp finishes with ⟨present, rfl, holds, rfl⟩
  rcases gates.amount with ⟨amount, member, required⟩
  have entire : decide (typedPull.quantity = entireBalanceLiteral) =
      decide (pull.quantity = .entireBalance) := decide_eq_decide.mpr named.quantity.entire_iff
  have grants := gate.grants_grant draft.sender draft.limits
  refine ⟨typedPull, draft.sender, gate, draft.instruction, amount,
    gate.grant draft.sender draft.limits, draft.action, pulls, ?_, ?_, ?_, ?_, rfl, ?_, ?_, ?_, ?_,
    grants, ?_, ?_⟩
  · rw [follows.sender, checked.actor]
  · rw [gates.token, named.token]
  · rw [checked.path, gates.spender]
  · rw [gates.delegated, named.delegated]
  · rw [checked.path]
    exact tells
  · rw [named.role]
    exact member
  · rw [required, entire, Pull.required, Pull.required, named.premium]
  · rw [gates.size, entire, Pull.granted, Pull.granted, named.policy]
  · rw [(Snapshot.mayHold_answers_iff.mp holds).2, Gate.missing]
  · rw [Snapshot.after_eq_granting grants]
    exact execute_granting gated drafts holds

end

theorem Planner.execute_sufficient_sample :
    ∃ (gate : Gate) (owner : Address) (approval action : Descriptor) (reads : List ChainQuery),
      Reading.on Sample.snapshot (Sample.planner.execute Sample.supply).run =
        (.ok [approval, action], reads) ∧
      approval.Grants owner gate.token gate.spender gate.delegated gate.size ∧
      Reading.on (Sample.snapshot.after approval) (Sample.planner.execute Sample.supply).run =
        (.ok [action], reads) := by
  rcases Sample.executes with ⟨first, second, reads, executed⟩
  rcases execute_sufficient executed (List.cons_ne_nil _ _) (by decide +kernel) with
    ⟨pull, owner, gate, instruction, amount, approval, action, -, -, -, -, -, -, -, -, -, -,
      grants, parts, again⟩
  refine ⟨gate, owner, approval, action, reads, ?_, grants, again⟩
  split at parts
  · rw [executed, parts]
    rfl
  · cases parts

end LendingPool
