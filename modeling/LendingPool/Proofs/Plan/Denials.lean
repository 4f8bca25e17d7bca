import LendingPool.Proofs.Chain.Outcomes
import LendingPool.Proofs.Plan.Beneficiaries
import LendingPool.Proofs.Plan.Shape
/-! Asking for somebody else. Where the call is for its sender, the last check is that nobody else
is asked for. So an intent for somebody else fails where the same intent for oneself would fail,
and after all other checks. -/

namespace LendingPool

open Planning

section

variable {planner : Planner} {resolver : Resolver} {snapshot : Snapshot} {intent : Intent}

/-! ## Plans that come to a fault in the end -/

def notSender (beneficiary sender : Address) : Fault :=
  .input (.invalidValue "on_behalf_of" (.notSender beneficiary sender))

/-- One plan comes to what the other comes to, but ends in a fault. -/
def DeniedAs {α : Type} (snapshot : Snapshot) (fault : Fault) (asked plain : Planning α) : Prop :=
  outcome snapshot asked = outcome snapshot plain >>= fun _ => .error fault

namespace DeniedAs

variable {α β : Type} {fault : Fault}

theorem bind {planning : Planning α} {asked plain : α → Planning β}
    (next : ∀ value, outcome snapshot planning = .ok value →
      DeniedAs snapshot fault (asked value) (plain value)) :
    DeniedAs snapshot fault (planning >>= asked) (planning >>= plain) := by
  rw [DeniedAs, outcome_bind, outcome_bind]
  cases outcomes : outcome snapshot planning with
  | error earlier => rfl
  | ok value => exact next value outcomes

theorem bind_ok {first second : Planning α} {left right : α} {asked plain : α → Planning β}
    (runs : outcome snapshot first = .ok left) (plainRuns : outcome snapshot second = .ok right)
    (next : DeniedAs snapshot fault (asked left) (plain right)) :
    DeniedAs snapshot fault (first >>= asked) (second >>= plain) := by
  rw [DeniedAs, outcome_bind, outcome_bind, runs, plainRuns]
  exact next

theorem of_parties {userText reserveText : String} {onBehalfOf : Option String}
    {sender beneficiary : Address} {asked plain : Address → Address → Address → Planning α}
    (acts : resolver.account? snapshot userText = some sender)
    (benefits : resolver.accountOr? snapshot onBehalfOf sender = some beneficiary)
    (next : ∀ reserve, resolver.account? snapshot reserveText = some reserve →
      DeniedAs snapshot fault (asked sender reserve beneficiary) (plain sender reserve sender)) :
    DeniedAs snapshot fault
      (do
        let user ← resolver.validate userText
        let reserve ← resolver.validate reserveText
        let beneficiary ← resolver.validateOr onBehalfOf user
        asked user reserve beneficiary)
      (do
        let user ← resolver.validate userText
        let reserve ← resolver.validate reserveText
        let beneficiary ← resolver.validateOr none user
        plain user reserve beneficiary) := by
  have user := Resolver.outcome_validate_eq_ok_iff.mpr acts
  apply DeniedAs.bind_ok user user
  apply DeniedAs.bind
  intro reserve named
  exact DeniedAs.bind_ok (Resolver.outcome_validateOr_eq_ok_iff.mpr benefits) rfl
    (next reserve (Resolver.outcome_validate_eq_ok_iff.mp named))

end DeniedAs

theorem ReserveOrder.denied_routed {order plain : ReserveOrder} {packed : Bool}
    (preEncoded : Option Word) (packs : packed = true) (self : plain.sender = plain.beneficiary)
    (other : order.sender ≠ order.beneficiary) :
    DeniedAs snapshot (notSender order.beneficiary order.sender)
      (check (order.routed packed preEncoded)) (check (plain.routed packed preEncoded)) := by
  have accepted := ReserveOrder.routed_eq_ok_iff.mpr
    (And.intro (fun _ : packed = true => self) (Eq.refl (Order.reserve
      { plain with route := if packed then .packed preEncoded else plain.route })))
  have refused : order.routed packed preEncoded =
      .error (.invalidValue "on_behalf_of" (.notSender order.beneficiary order.sender)) := by
    rw [packs, ReserveOrder.routed, if_pos rfl, Order.requireSelf, if_neg other]
    rfl
  rw [accepted, refused]
  rfl

section

variable {sender beneficiary : Address}

theorem Order.denied_requireSelf (order plain : Order) (other : sender ≠ beneficiary) :
    DeniedAs snapshot (notSender beneficiary sender)
      (do
        check (requireSelf sender beneficiary)
        return order)
      (do
        check (requireSelf sender sender)
        return plain) := by
  rw [requireSelf, requireSelf, if_neg other, if_pos rfl]
  rfl

theorem Order.denied_unless (order plain : Order) {flash : Bool} (direct : flash = false)
    (other : sender ≠ beneficiary) :
    DeniedAs snapshot (notSender beneficiary sender)
      (do
        unless flash do check (requireSelf sender beneficiary)
        return order)
      (do
        unless flash do check (requireSelf sender sender)
        return plain) := by
  subst direct
  exact denied_requireSelf order plain other

theorem SupplyIntent.denied {intent : SupplyIntent}
    (acts : resolver.account? snapshot intent.user = some sender)
    (benefits : resolver.accountOr? snapshot intent.onBehalfOf sender = some beneficiary)
    (other : sender ≠ beneficiary)
    (token : resolver.account? snapshot intent.reserve ≠ some nativeCurrency)
    (packs : intent.useOptimizedPath = true) :
    DeniedAs snapshot (notSender beneficiary sender) (intent.order resolver)
      ({ intent with onBehalfOf := none }.order resolver) := by
  apply DeniedAs.of_parties acts benefits
  intro reserve named
  refine .bind fun amount _ => .bind fun preEncoded _ => ?_
  have token := ne_nativeCurrency token named
  rw [if_neg token, if_neg token]
  exact ReserveOrder.denied_routed preEncoded packs rfl other

theorem SupplyWithPermitIntent.denied {intent : SupplyWithPermitIntent}
    (acts : resolver.account? snapshot intent.user = some sender)
    (benefits : resolver.accountOr? snapshot intent.onBehalfOf sender = some beneficiary)
    (other : sender ≠ beneficiary) (packs : intent.useOptimizedPath = true) :
    DeniedAs snapshot (notSender beneficiary sender) (intent.order resolver)
      ({ intent with onBehalfOf := none }.order resolver) := by
  apply DeniedAs.of_parties acts benefits
  intro reserve _
  refine .bind fun amount _ => .bind fun permit _ => .bind fun preEncoded _ => .bind fun _ _ => ?_
  exact ReserveOrder.denied_routed preEncoded packs rfl other

theorem WithdrawIntent.denied {intent : WithdrawIntent}
    (acts : resolver.account? snapshot intent.user = some sender)
    (benefits : resolver.accountOr? snapshot intent.onBehalfOf sender = some beneficiary)
    (other : sender ≠ beneficiary)
    (token : resolver.account? snapshot intent.reserve ≠ some nativeCurrency)
    (packs : intent.useOptimizedPath = true) :
    DeniedAs snapshot (notSender beneficiary sender) (intent.order resolver)
      ({ intent with onBehalfOf := none }.order resolver) := by
  apply DeniedAs.of_parties acts benefits
  intro reserve named
  refine .bind fun amount _ => .bind fun preEncoded _ => ?_
  have token := ne_nativeCurrency token named
  rw [if_neg token, if_neg token]
  exact ReserveOrder.denied_routed preEncoded packs rfl other

theorem BorrowIntent.denied {intent : BorrowIntent}
    (acts : resolver.account? snapshot intent.user = some sender)
    (benefits : resolver.accountOr? snapshot intent.onBehalfOf sender = some beneficiary)
    (other : sender ≠ beneficiary)
    (packs : resolver.account? snapshot intent.reserve ≠ some nativeCurrency →
      intent.useOptimizedPath = true) :
    DeniedAs snapshot (notSender beneficiary sender) (intent.order resolver)
      ({ intent with onBehalfOf := none }.order resolver) := by
  apply DeniedAs.of_parties acts benefits
  intro reserve named
  refine .bind fun amount _ => .bind fun mode _ => .bind fun preEncoded _ => ?_
  by_cases native : reserve = nativeCurrency
  · rw [if_pos native, if_pos native]
    refine .bind fun text _ => .bind fun debtToken _ => ?_
    exact Order.denied_requireSelf _ _ other
  · rw [if_neg native, if_neg native]
    exact ReserveOrder.denied_routed preEncoded (packs (account_ne_native named native)) rfl other

theorem RepayIntent.denied {intent : RepayIntent}
    (acts : resolver.account? snapshot intent.user = some sender)
    (benefits : resolver.accountOr? snapshot intent.onBehalfOf sender = some beneficiary)
    (other : sender ≠ beneficiary)
    (token : resolver.account? snapshot intent.reserve ≠ some nativeCurrency)
    (packs : intent.useOptimizedPath = true) :
    DeniedAs snapshot (notSender beneficiary sender) (intent.order resolver)
      ({ intent with onBehalfOf := none }.order resolver) := by
  apply DeniedAs.of_parties acts benefits
  intro reserve named
  refine .bind fun amount _ => .bind fun mode _ => .bind fun preEncoded _ => ?_
  have token := ne_nativeCurrency token named
  rw [if_neg token, if_neg token]
  exact ReserveOrder.denied_routed preEncoded packs rfl other

theorem RepayWithPermitIntent.denied {intent : RepayWithPermitIntent}
    (acts : resolver.account? snapshot intent.user = some sender)
    (benefits : resolver.accountOr? snapshot intent.onBehalfOf sender = some beneficiary)
    (other : sender ≠ beneficiary) (packs : intent.useOptimizedPath = true) :
    DeniedAs snapshot (notSender beneficiary sender) (intent.order resolver)
      ({ intent with onBehalfOf := none }.order resolver) := by
  apply DeniedAs.of_parties acts benefits
  intro reserve _
  refine .bind fun amount _ => .bind fun mode _ => .bind fun permit _ => .bind fun preEncoded _ =>
    .bind fun _ _ => ?_
  exact ReserveOrder.denied_routed preEncoded packs rfl other

theorem SwapCollateralIntent.denied {intent : SwapCollateralIntent}
    (acts : resolver.account? snapshot intent.user = some sender)
    (benefits : resolver.accountOr? snapshot intent.onBehalfOf sender = some beneficiary)
    (other : sender ≠ beneficiary) (direct : intent.flash = false) :
    DeniedAs snapshot (notSender beneficiary sender) (intent.order resolver)
      ({ intent with onBehalfOf := none }.order resolver) := by
  have user := Resolver.outcome_validate_eq_ok_iff.mpr acts
  refine .bind_ok user user <| .bind fun fromAsset _ => .bind fun fromAToken _ =>
    .bind fun toAsset _ => .bind fun aggregator _ =>
    .bind_ok (Resolver.outcome_validateOr_eq_ok_iff.mpr benefits) rfl ?_
  refine .bind fun amount _ => .bind fun minimum _ => .bind fun callData _ =>
    .bind fun offset _ => .bind fun permit _ => .bind fun _ _ => .bind fun _ _ => ?_
  exact Order.denied_unless _ _ direct other

theorem RepayWithCollateralIntent.denied {intent : RepayWithCollateralIntent}
    (acts : resolver.account? snapshot intent.user = some sender)
    (benefits : resolver.accountOr? snapshot intent.onBehalfOf sender = some beneficiary)
    (other : sender ≠ beneficiary) (direct : intent.flash = false) :
    DeniedAs snapshot (notSender beneficiary sender) (intent.order resolver)
      ({ intent with onBehalfOf := none }.order resolver) := by
  have user := Resolver.outcome_validate_eq_ok_iff.mpr acts
  refine .bind_ok user user <| .bind fun fromAsset _ => .bind fun fromAToken _ =>
    .bind fun toAsset _ => .bind fun aggregator _ =>
    .bind_ok (Resolver.outcome_validateOr_eq_ok_iff.mpr benefits) rfl ?_
  refine .bind fun amount _ => .bind fun debt _ => .bind fun mode _ => .bind fun callData _ =>
    .bind fun offset _ => .bind fun permit _ => .bind fun _ _ => .bind fun _ _ => ?_
  exact Order.denied_unless _ _ direct other

theorem Intent.denied (acts : resolver.account? snapshot intent.actor = some sender)
    (benefits : resolver.accountOr? snapshot intent.onBehalfOf sender = some beneficiary)
    (other : sender ≠ beneficiary)
    (unnamed : intent.namesBeneficiary (intent.isNative resolver snapshot) = false) :
    DeniedAs snapshot (notSender beneficiary sender) (intent.order resolver)
      (intent.forSelf.order resolver) := by
  have foreign {text : String} (names : intent.gatewayReserve? = some text)
      (native : intent.isNative resolver snapshot = false) :
      resolver.account? snapshot text ≠ some nativeCurrency := by
    rw [Ne, ← isNative_iff names, native]
    exact Bool.false_ne_true
  cases intent with
  | supply intent =>
      simp only [namesBeneficiary, Bool.or_eq_false_iff, Bool.not_eq_false'] at unnamed
      exact intent.denied acts benefits other (foreign rfl unnamed.1) unnamed.2
  | withdraw intent =>
      simp only [namesBeneficiary, Bool.or_eq_false_iff, Bool.not_eq_false'] at unnamed
      exact intent.denied acts benefits other (foreign rfl unnamed.1) unnamed.2
  | repay intent =>
      simp only [namesBeneficiary, Bool.or_eq_false_iff, Bool.not_eq_false'] at unnamed
      exact intent.denied acts benefits other (foreign rfl unnamed.1) unnamed.2
  | borrow intent =>
      apply intent.denied acts benefits other
      intro token
      have notNative : (borrow intent).isNative resolver snapshot = false :=
        Bool.eq_false_iff.mpr fun native => token ((isNative_iff rfl).mp native)
      rw [notNative] at unnamed
      simpa [namesBeneficiary] using unnamed
  | supplyWithPermit intent =>
      exact intent.denied acts benefits other (by simpa [namesBeneficiary] using unnamed)
  | repayWithPermit intent =>
      exact intent.denied acts benefits other (by simpa [namesBeneficiary] using unnamed)
  | swapCollateral intent => exact intent.denied acts benefits other unnamed
  | repayWithCollateral intent => exact intent.denied acts benefits other unnamed
  | _ => exact absurd (Option.some.inj benefits) other

/-! ## Plans -/

theorem Planner.onCached_of_refused {lifetime : Option Nat} {cache : Cache} {fault : Fault}
    (refused : outcome snapshot (intent.order planner.resolver) = .error fault) :
    (Reading.onCached lifetime snapshot cache (planner.execute intent).run).1 = .error fault := by
  have checked := onCached_of_asksOnly (intent.asksOnly_order planner.resolver) snapshot lifetime
    cache
  rw [refused] at checked
  have executed := onCached_bind_of_error checked planner.plan
  rw [Planner.execute, executed]

/-- Nobody but the account that an intent asks for ever benefits. -/
theorem Planner.execute_keeps_beneficiary (planner : Planner) (snapshot : Snapshot)
    (lifetime : Option Nat) (cache : Cache) (intent : Intent) :
    (∀ plan later reads,
      Reading.onCached lifetime snapshot cache (planner.execute intent).run =
        (.ok plan, later, reads) →
      plan ≠ [] →
      ∃ sender beneficiary action instruction,
        planner.resolver.account? snapshot intent.actor = some sender ∧
        planner.resolver.accountOr? snapshot intent.onBehalfOf sender = some beneficiary ∧
        plan.getLast? = some action ∧ action.call.sender = sender ∧
        action.Tells planner (intent.outlineOn planner.resolver snapshot).path instruction ∧
        instruction.beneficiary? =
          (if intent.namesBeneficiary (intent.isNative planner.resolver snapshot)
            then some beneficiary else none) ∧
        (instruction.beneficiary? = none → beneficiary = sender)) ∧
    ∀ sender beneficiary,
      planner.resolver.account? snapshot intent.actor = some sender →
      planner.resolver.accountOr? snapshot intent.onBehalfOf sender = some beneficiary →
      intent.namesBeneficiary (intent.isNative planner.resolver snapshot) = false →
      beneficiary ≠ sender →
      ∃ fault,
        (Reading.onCached lifetime snapshot cache (planner.execute intent).run).1 =
          .error fault ∧
        match outcome snapshot (intent.forSelf.order planner.resolver) with
        | .ok _ => fault = notSender beneficiary sender
        | .error earlier => fault = earlier := by
  constructor
  · intro plan later reads executed nonempty
    rcases exists_draft_of_onCached executed nonempty with
      ⟨order, draft, finishing, accepted, drafts, finishes⟩
    have actor := accepted.checked.actor
    have path := accepted.checked.path
    rw [Intent.outlineOn, Intent.actor_outline] at actor
    refine ⟨order.outline.actor, order.beneficiary, draft.action, draft.instruction, actor,
      accepted.beneficiary, Draft.getLast?_of_course_finish finishes, drafts.follows.sender, ?_,
      ?_, ?_⟩
    · rw [path]
      exact drafts.tells
    · rw [drafts.beneficiary?, accepted.namesBeneficiary]
    · intro unnamed
      rw [drafts.beneficiary?] at unnamed
      apply accepted.alone
      simpa using unnamed
  · intro sender beneficiary acts benefits unnamed other
    have denied := Intent.denied acts benefits (Ne.symm other) unnamed
    rw [DeniedAs] at denied
    cases plain : outcome snapshot (intent.forSelf.order planner.resolver) with
    | ok order =>
        rw [plain] at denied
        exact ⟨_, onCached_of_refused denied, rfl⟩
    | error earlier =>
        rw [plain] at denied
        exact ⟨_, onCached_of_refused denied, rfl⟩

end

end

/-! ### Supplies for somebody else -/

namespace Sample

def supplyFor (packed : Bool) : Intent := .supply {
  user := "0x000000000000000000000000000000000000000a"
  reserve := "0x000000000000000000000000000000000000000b"
  amount := "1.5"
  onBehalfOf := some "0x000000000000000000000000000000000000000c"
  useOptimizedPath := packed }

end Sample

theorem Planner.execute_keeps_beneficiary_sample :
    (∃ (plan : List Descriptor) (rest : Cache × List ChainQuery) (instruction : Instruction),
      Reading.onCached none Sample.snapshot {}
        (Sample.planner.execute (Sample.supplyFor false)).run = (.ok plan, rest) ∧
      instruction.beneficiary? = some (Address.ofNat 12)) ∧
    (Reading.onCached none Sample.snapshot {}
      (Sample.planner.execute (Sample.supplyFor true)).run).1 =
        .error (notSender (.ofNat 12) (.ofNat 10)) := by
  constructor
  · have entries : (Reading.onCached none Sample.snapshot {}
        (Sample.planner.execute (Sample.supplyFor false)).run).1.toOption.map List.length =
          some 2 := by decide +kernel
    rcases Sample.exists_nonempty entries with ⟨plan, rest, executed, nonempty⟩
    rcases (execute_keeps_beneficiary Sample.planner Sample.snapshot none {}
      (Sample.supplyFor false)).1 plan rest.1 rest.2 executed nonempty with
      ⟨sender, beneficiary, action, instruction, acts, benefits, -, -, -, named, -⟩
    have other : Sample.planner.resolver.account? Sample.snapshot
        "0x000000000000000000000000000000000000000c" = some (.ofNat 12) := by decide +kernel
    have room : (Sample.supplyFor false).namesBeneficiary
        ((Sample.supplyFor false).isNative Sample.planner.resolver Sample.snapshot) = true := by
      decide +kernel
    cases other.symm.trans benefits
    rw [room] at named
    exact ⟨plan, rest, instruction, executed, named⟩
  · rcases (execute_keeps_beneficiary Sample.planner Sample.snapshot none {}
      (Sample.supplyFor true)).2 (.ofNat 10) (.ofNat 12) (by decide +kernel) (by decide +kernel)
      (by decide +kernel) (by decide) with ⟨fault, refused, first⟩
    have accepted : (outcome Sample.snapshot ((Sample.supplyFor true).forSelf.order
        Sample.planner.resolver)).toOption.isSome = true := by decide +kernel
    rw [refused]
    split at first
    · rw [first]
    · rename_i earlier refuses
      rw [refuses] at accepted
      cases accepted

end LendingPool
