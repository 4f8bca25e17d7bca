import LendingPool.Proofs.Plan.Amounts
import LendingPool.Proofs.Plan.Actions
import LendingPool.Proofs.Plan.Encodings
/-! Permits whose value the caller declares. For the pool, the declared value is compared with the
amount of the action. For the adapters it is not looked at. -/

namespace LendingPool

open Planning

/-! ## Permits in intents -/

namespace Intent

def permit? : Intent → Option PermitIntent
  | supplyWithPermit intent => some intent.permit
  | repayWithPermit intent => some intent.permit
  | swapCollateral intent => intent.permit
  | repayWithCollateral intent => intent.permit
  | _ => none

def declaring (value : Option String) : Intent → Intent
  | supplyWithPermit intent => supplyWithPermit { intent with permit.value := value }
  | repayWithPermit intent => repayWithPermit { intent with permit.value := value }
  | swapCollateral intent =>
      swapCollateral { intent with permit := intent.permit.map ({ · with value }) }
  | repayWithCollateral intent =>
      repayWithCollateral { intent with permit := intent.permit.map ({ · with value }) }
  | intent => intent

end Intent

/-! ## Permits in call data -/

def ReserveAction.permitted? {Reserve Quantity : Type} :
    ReserveAction Reserve Quantity → Option Quantity
  | supplyWithPermit _ amount _ _ | repayWithPermit _ amount _ _ => some amount
  | _ => none

def PoolCall.permitted? : PoolCall → Option Word
  | supplyWithPermit _ amount .. | repayWithPermit _ amount .. => some amount
  | _ => none

/-- The amount that an instruction uses a permit for. What packed call data says is what is read
back from it. -/
def Instruction.permitted? : Instruction → Option Word
  | pool call => call.permitted?
  | swap _ exchange => some exchange.permit.amount
  | repay _ payment => some payment.permit.amount
  | packed data => (PackedCall.decode data).toOption.bind ReserveAction.permitted?
  | gateway _ | liquidate .. => none

/-- A text spells an amount of a token, in base units. -/
def Declares (planner : Planner) (snapshot : Snapshot) (token text : String) (word : Word) : Prop :=
  (∃ request, Requests text request) ∧
    Leg.Spells planner snapshot { role := .amount, token := some token, quantity := text } word

section

variable {planner : Planner} {snapshot : Snapshot} {intent : Intent} {dealing : Dealing}
  {order : ReserveOrder} {draft : Draft} {Possible : PossibleReplies}

theorem PoolCall.permitted?_toPoolCall (action : ReserveAction Address Amount)
    (beneficiary : Address) :
    (action.toPoolCall beneficiary).permitted? = action.permitted?.map Amount.value := by
  cases action <;> rfl

theorem ReserveOrder.declares_of_yields_converted {action : ReserveAction Address Amount}
    {terms : Terms Address Amount} {raw : String} (declares : order.declaredAmount = some raw)
    (yields : Yields Possible order.converted action) (agreed : action.terms? = some terms) :
    ∃ request, Requests raw request ∧
      Yields Possible (convertAmount terms.asset request) terms.amount := by
  have amount : action.amount? = some (terms.asset, terms.amount) := by
    cases action <;> cases agreed <;> rfl
  simp only [converted, yields_bind_iff] at yields
  rcases yields with ⟨converted, -, rest⟩
  cases amounts : converted.amount? with
  | none =>
      rw [amounts] at rest
      cases yields_pure_iff.mp rest
      cases amounts.symm.trans amount
  | some pair =>
      rw [amounts] at rest
      rcases yields_bind_iff.mp rest with ⟨_, compares, rest⟩
      cases yields_pure_iff.mp rest
      cases amounts.symm.trans amount
      rw [declares] at compares
      simp only [checkDeclared, yields_bind_iff, yields_check_iff, yields_ite_iff] at compares
      rcases compares with ⟨request, requests, declared, converts, rest⟩
      split at rest
      · cases not_yields_throw rest
      · rename_i same
        exact ⟨request, requests, not_not.mp same ▸ converts⟩

theorem ReserveAction.permitted?_of_terms? {Reserve Quantity : Type}
    {action : ReserveAction Reserve Quantity} {terms : Terms Reserve Quantity}
    (agreed : action.terms? = some terms) (bears : action.kind.permitted?.isSome = true) :
    action.permitted? = some terms.amount := by
  cases action with
  | supplyWithPermit | repayWithPermit =>
      cases agreed
      rfl
  | _ => cases bears

theorem PackedCall.kind_reread (call : PackedCall) : call.reread.kind = call.kind := by
  cases call <;> rfl

/-! ## Permits for the pool -/

theorem Intent.bears_of_declares {text : String} {asset : Address} {request : AmountRequest}
    {action : ReserveAction Address AmountRequest} (deals : intent.dealing? = some dealing)
    (declares : dealing.declaredAmount = some text)
    (acts : intent.reserveAction? asset request = some action) :
    action.kind.permitted?.isSome = true := by
  cases intent with cases deals
  | supplyWithPermit | repayWithPermit =>
      rcases Option.map_eq_some_iff.mp acts with ⟨permit, -, rfl⟩
      rfl
  | _ => cases declares

theorem PackedPool.permitted?_of_callData {action : ReserveAction Address Word}
    {terms : Terms Address Word} {data : Bytes}
    (encodes : Yields Possible (callData action none) data) (agreed : action.terms? = some terms)
    (bears : action.kind.permitted?.isSome = true) :
    (Instruction.packed data).permitted? =
      some (rereadAmount action.mayBeEntire terms.amount) := by
  rcases yields_bind_iff.mp encodes with ⟨call, renames, encodes⟩
  rcases ReserveAction.terms?_of_yields_renameReserves renames agreed with
    ⟨id, -, renamed, entire⟩
  have kind : call.reread.kind = action.kind := by
    rw [PackedCall.kind_reread, ReserveAction.kind_of_yields_renameReserves renames]
  rw [← kind] at bears
  rw [Instruction.permitted?, PackedCall.decode_encode (yields_check_iff.mp encodes), ← entire]
  exact ReserveAction.permitted?_of_terms? (PackedCall.terms?_reread renamed) bears

theorem Planner.Drafts.permitted_of_declares {text : String}
    (deals : intent.dealing? = some dealing) (declares : dealing.declaredAmount = some text)
    (plain : dealing.encodedParams = none)
    (ordered : intent.Ordered planner.resolver snapshot dealing order)
    (drafts : planner.Drafts snapshot.Answers (.reserve order) draft) :
    ∃ declared, Declares planner snapshot dealing.reserve text declared ∧
      draft.instruction.permitted? =
        some (if dealing.packed then rereadAmount intent.mayBeEntire declared else declared) := by
  rcases ordered.action with ⟨asset, request, named, asks, acts⟩
  rcases Intent.terms?_of_reserveAction? acts with ⟨rateMode, referralCode, agreed, entire⟩
  rcases ordered.route with ⟨given, packs, route⟩
  have bears := Intent.bears_of_declares deals declares acts
  have declared {action : ReserveAction Address Amount} {terms : Terms Address Amount}
      (converts : Yields snapshot.Answers order.converted action)
      (converted : action.terms? = some terms) (same : terms.asset = asset) :
      Declares planner snapshot dealing.reserve text terms.amount.value := by
    rw [← ordered.declaredAmount] at declares
    rcases ReserveOrder.declares_of_yields_converted declares converts converted with
      ⟨request, requests, converts⟩
    rw [same] at converts
    have measures : Leg.Measures planner snapshot.Answers _ _ :=
      Leg.measures_of_convertAmount .amount converts
    refine ⟨⟨request, requests⟩, Leg.spells ⟨rfl, ?_, requests, rfl⟩ measures⟩
    exact .some named
  cases drafts with
  | @direct _ pool action direct pools converts =>
      have typed := ReserveOrder.yields_converted converts
      rcases ReserveAction.terms?_of_yields_convertAmount typed agreed with
        ⟨amount, -, converted, -⟩
      rw [← ReserveAction.kind_of_yields_convertAmount typed] at bears
      have unpacked : dealing.packed = false := by
        rw [← ordered.isPacked_route, direct]
        rfl
      refine ⟨amount.value, declared converts converted rfl, ?_⟩
      rw [unpacked]
      simp only [Instruction.permitted?, PoolCall.permitted?_toPoolCall,
        ReserveAction.permitted?_of_terms? converted bears]
      rfl
  | @packed _ pool action valued preEncoded data routes pools converts values encodes =>
      have typed := ReserveOrder.yields_converted converts
      rcases ReserveAction.terms?_of_yields_convertAmount typed agreed with
        ⟨amount, -, converted, same⟩
      rcases ReserveAction.terms?_of_yields_value values converted with
        ⟨valuedAgreed, valuedSame⟩
      rw [← ReserveAction.kind_of_yields_convertAmount typed,
        ← ReserveAction.kind_of_yields_convertAmount values] at bears
      have packed : dealing.packed = true := by
        rw [← ordered.isPacked_route, routes]
        rfl
      rw [plain] at packs
      cases packs
      rw [packed, routes] at route
      cases route
      refine ⟨amount.value, declared converts converted rfl, ?_⟩
      rw [packed, if_pos rfl, ← entire, ← same, ← valuedSame]
      exact PackedPool.permitted?_of_callData encodes valuedAgreed bears

/-! ## Permits for adapters -/

theorem mapM_signedPermit_declaring (permit : Option PermitIntent) (value : Option String) :
    (permit.map ({ · with value })).mapM Order.signedPermit =
      permit.mapM Order.signedPermit := by
  cases permit <;> rfl

theorem Intent.order_declaring {resolver : Resolver} {permit : PermitIntent}
    (bears : intent.permit? = some permit) (adapts : intent.dealing? = none)
    (value : Option String) : (intent.declaring value).order resolver = intent.order resolver := by
  cases intent with
  | swapCollateral intent =>
      simp only [declaring, order, SwapCollateralIntent.order, mapM_signedPermit_declaring]
  | repayWithCollateral intent =>
      simp only [declaring, order, RepayWithCollateralIntent.order, mapM_signedPermit_declaring]
  | supplyWithPermit | repayWithPermit => cases adapts
  | _ => cases bears

/-- An adapter uses a permit for what it sells, with the premium if that is lent. -/
structure Instruction.PermitsSale (instruction : Instruction) (flashPremium : UInt32)
    (used : Word) : Prop where
  permitted : instruction.permitted? = some used
  sale : ∃ amount, (.loan, amount) ∈ instruction.amounts ∧ used = amount.withPremium flashPremium ∨
    (.sold, amount) ∈ instruction.amounts ∧ used = amount

theorem Planner.Drafts.permitsSale {order : AdapterOrder} {signed : SignedPermit}
    (signs : order.permit = some signed)
    (drafts : planner.Drafts Possible (.adapter order) draft) :
    ∃ used, draft.instruction.PermitsSale planner.flashPremium used := by
  cases drafts with
  | @adapter _ adapter target decimals otherDecimals collateral sold other =>
      rw [signs]
      refine ⟨planner.required sold.value order.flash, ?_, sold.value, ?_⟩
      · rw [adapterInstruction]
        cases order.task <;> rfl
      · rw [adapterInstruction]
        cases order.task <;> cases order.flash <;>
          simp [Instruction.amounts, required]

theorem Order.signs_of_mapM {permit : PermitIntent} {given : Option PermitIntent}
    {signed : Option SignedPermit} (bears : given = some permit)
    (signs : given.mapM signedPermit = .ok signed) : ∃ one, signed = some one := by
  apply Option.isSome_iff_exists.mp
  rw [← isSome_of_signedPermits signs, bears]
  rfl

theorem Intent.Accepted.signs {resolver : Resolver} {order : Order} {permit : PermitIntent}
    (accepted : intent.Accepted resolver snapshot order) (bears : intent.permit? = some permit)
    (adapts : intent.dealing? = none) :
    ∃ result signed, order = .adapter result ∧ result.permit = some signed := by
  cases accepted with
  | dealing deals => cases adapts.symm.trans deals
  | swap _ _ _ _ _ _ _ _ signs | repayment _ _ _ _ _ _ _ _ signs =>
      rcases Order.signs_of_mapM bears signs with ⟨one, signed⟩
      exact ⟨_, one, rfl, signed⟩
  | _ => cases bears

/-! ## Plans -/

theorem Intent.declares_of_permit? {permit : PermitIntent} (bears : intent.permit? = some permit)
    (deals : intent.dealing? = some dealing) : dealing.declaredAmount = permit.value := by
  cases intent <;> cases deals <;> cases bears <;> rfl

/-- The pool is told of a permit for what was declared, and an adapter of one for what it sells. -/
theorem Planner.execute_declared_permits {permit : PermitIntent} {text : String}
    {plan : List Descriptor} {reads : List ChainQuery} (bears : intent.permit? = some permit)
    (declares : permit.value = some text)
    (plain : ∀ dealing, intent.dealing? = some dealing → dealing.encodedParams = none)
    (executed : Reading.on snapshot (planner.execute intent).run = (.ok plan, reads))
    (nonempty : plan ≠ []) :
    ∃ action instruction used, plan.getLast? = some action ∧
      action.Tells planner (intent.outlineOn planner.resolver snapshot).path instruction ∧
      instruction.permitted? = some used ∧
      (∀ dealing, intent.dealing? = some dealing →
        ∃ declared, Declares planner snapshot dealing.reserve text declared ∧
          (used = declared ↔ ¬ (dealing.packed = true ∧ intent.mayBeEntire = true ∧
            declared.toNat = 2 ^ 128 - 1))) ∧
      (intent.dealing? = none →
        instruction.PermitsSale planner.flashPremium used ∧
        ∀ value, planner.execute (intent.declaring value) = planner.execute intent) := by
  have course := course_answers_iff.mpr executed
  rcases exists_draft_of_course (fun _ _ answer _ => answer) course nonempty with
    ⟨order, draft, finishing, accepted, drafts, finishes⟩
  have tells := drafts.tells
  rw [← accepted.checked.path] at tells
  have last := Draft.getLast?_of_course_finish finishes
  cases deals : intent.dealing? with
  | some dealing =>
      cases accepted with
      | dealing dealt token ordered =>
          cases deals.symm.trans dealt
          rw [← Intent.declares_of_permit? bears deals] at declares
          rcases drafts.permitted_of_declares deals declares (plain dealing deals) ordered with
            ⟨declared, spells, permitted⟩
          refine ⟨draft.action, draft.instruction, _, last, tells, permitted, ?_, nofun⟩
          rintro _ ⟨⟩
          refine ⟨declared, spells, ?_⟩
          cases dealing.packed with
          | false => simp
          | true => simpa using rereadAmount_eq_iff
      | nativeSupply | nativeWithdraw | nativeBorrow | nativeRepay => cases bears
      | _ => cases deals
  | none =>
      rcases accepted.signs bears deals with ⟨result, signed, rfl, signs⟩
      rcases drafts.permitsSale signs with ⟨used, permits⟩
      refine ⟨draft.action, draft.instruction, used, last, tells, permits.permitted, nofun, ?_⟩
      intro _
      refine ⟨permits, fun value => ?_⟩
      rw [Planner.execute, Planner.execute, Intent.order_declaring bears deals]

end

/-! ### A swap with a permit for something else -/

namespace Sample

def swapping : Planner :=
  { planner with contracts := { swapCollateralAdapter := some (.ofNat 4) } }

def tokens : Snapshot where
  tokens := [(.ofNat 11, ⟨"Token", 6⟩), (.ofNat 12, ⟨"Other", 18⟩)]

def permit (value : String) : PermitIntent where
  signature := String.ofList (List.replicate 128 '1' ++ ['1', 'b'])
  deadline := 1800000000
  value := some value

def swap (value : String) : Intent := .swapCollateral {
  user := "0x000000000000000000000000000000000000000a"
  fromAsset := "0x000000000000000000000000000000000000000b"
  fromAToken := "0x000000000000000000000000000000000000000d"
  toAsset := "0x000000000000000000000000000000000000000c"
  fromAmount := "1.5"
  minToAmount := "1"
  aggregator := "0x000000000000000000000000000000000000000e"
  swapCallData := "0x"
  permit := some (permit value) }

def half : Word := 0x1111111111111111111111111111111111111111111111111111111111111111

def sale : Instruction := .swap none {
  fromAsset := .ofNat 11
  toAsset := .ofNat 12
  amount := 1500000
  minimumReceived := 1000000000000000000
  swapAllOffset := 0
  swapCallData := []
  aggregator := .ofNat 14
  permit := ⟨1500000, 1800000000, 27, half, half⟩ }

theorem sells : ∃ action reads,
    Reading.on tokens (swapping.execute (swap "999")).run = (.ok [action], reads) ∧
      action.call.target = .ofNat 4 ∧ action.call.data = sale.data := by
  have told : (Reading.on tokens (swapping.execute (swap "999")).run).1.toOption.map
      (List.map fun action => (action.call.target, action.call.data)) =
        some [(.ofNat 4, sale.data)] := by decide +kernel
  rcases exists_run_of_map told with ⟨plan, reads, run, told⟩
  rcases List.map_eq_singleton_iff.mp told with ⟨action, rfl, same⟩
  exact ⟨action, reads, run, congrArg Prod.fst same, congrArg Prod.snd same⟩

theorem typedValue_999 : typedValue "999" = 999 := by
  have parsed : DecimalAmount.parse "999" = .ok ⟨999, 0⟩ := by decide +kernel
  rw [← DecimalAmount.toRat_parse parsed, DecimalAmount.toRat]
  norm_num

end Sample

theorem Planner.execute_declared_permits_sample :
    ∃ (action : Descriptor) (instruction : Instruction) (used : Word) (reads : List ChainQuery),
      Reading.on Sample.tokens (Sample.swapping.execute (Sample.swap "999")).run =
        (.ok [action], reads) ∧
      instruction.permitted? = some used ∧
      instruction.PermitsSale Sample.swapping.flashPremium used := by
  rcases Sample.sells with ⟨action, reads, executed, -⟩
  have bears : (Sample.swap "999").permit? = some (Sample.permit "999") := rfl
  rcases execute_declared_permits bears rfl nofun executed (List.cons_ne_nil _ _) with
    ⟨_, instruction, used, -, -, permitted, -, sale⟩
  exact ⟨action, instruction, used, reads, executed, permitted, (sale rfl).1⟩

/-- The adapter is told to use a permit for 1500000 units of the token, although the permit is
declared to be for 999 tokens. -/
theorem Planner.declared_permit_contradicted :
    ∃ action reads used,
      (Sample.swap "999").permit? = some (Sample.permit "999") ∧
      (Sample.permit "999").value = some "999" ∧ (Sample.swap "999").dealing? = none ∧
      Reading.on Sample.tokens (Sample.swapping.execute (Sample.swap "999")).run =
        (.ok [action], reads) ∧
      action.Tells Sample.swapping .swapAdapter Sample.sale ∧
      Sample.sale.permitted? = some used ∧ used.toNat = 1500000 ∧
      ¬ Declares Sample.swapping Sample.tokens "0x000000000000000000000000000000000000000b" "999"
        used := by
  rcases Sample.sells with ⟨action, reads, executed, target, data⟩
  have regular : Sample.sale.IsRegular := trivial
  have tells : action.Tells Sample.swapping .swapAdapter Sample.sale :=
    .of_data regular data (target ▸ rfl) nofun
  refine ⟨action, reads, 1500000, rfl, rfl, rfl, executed, tells, rfl, rfl, ?_⟩
  · rintro ⟨-, spells⟩
    rw [Leg.Spells, if_neg (by decide +kernel)] at spells
    rcases spells with ⟨decimals, ⟨token, named, reads⟩, value⟩
    have asset : Sample.swapping.resolver.account? Sample.tokens
        "0x000000000000000000000000000000000000000b" = some (.ofNat 11) := by decide +kernel
    cases asset.symm.trans named
    have six : Sample.tokens.reply (.decimals (.ofNat 11)) = .ok 6 := by decide +kernel
    cases six.symm.trans reads
    have whole : (999 : ℚ) * 1 * 10 ^ (6 : UInt8).toNat = (999000000 : ℕ) := by
      rw [show (6 : UInt8).toNat = 6 from rfl]
      norm_num
    rw [Sample.typedValue_999, Leg.factor, if_neg Bool.false_ne_true, whole,
      Nat.floor_natCast] at value
    cases value

end LendingPool
