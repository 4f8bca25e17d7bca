import LendingPool.Proofs.Chain.Dependence
import LendingPool.Proofs.Plan.Actions
import LendingPool.Proofs.Plan.DeclaredPermits
/-! Words that are packed already. Such a word goes into the call data as it is, so what it stands
for is checked and then forgotten: the reserve, the amount, the rate mode, the referral code, and
the deadline and the value of a permit. -/

namespace LendingPool

open Planning

/-! ## Packed calls around a word -/

namespace Intent

def packing? : Intent → Option (Abi.Method × GasAction)
  | supply _ => some (PackedMethod.supply, .supply)
  | supplyWithPermit _ => some (PackedMethod.supplyWithPermit, .supply)
  | withdraw _ => some (PackedMethod.withdraw, .withdraw)
  | borrow _ => some (PackedMethod.borrow, .borrow)
  | repay _ => some (PackedMethod.repay, .repay)
  | repayWithPermit _ => some (PackedMethod.repayWithPermit, .repay)
  | _ => none

def signatureHalves (intent : Intent) : Except InputFault Bytes :=
  match intent.permit? with
  | some permit => do
      let signature ← Signature.parse permit.signature
      return signature.r.toBytes ++ signature.s.toBytes
  | none => .ok []

theorem signatureHalves_of_signs {intent : Intent} {permit : PermitIntent} {signed : SignedPermit}
    (bears : intent.permit? = some permit)
    (signs : (Order.signedPermit permit).toOption = some signed) :
    intent.signatureHalves =
      .ok (signed.signature.r.toBytes ++ signed.signature.s.toBytes) := by
  rw [signatureHalves, bears]
  dsimp only
  rw [(Order.of_signedPermit signs).1]
  rfl

structure CarriesWord (resolver : Resolver) (snapshot : Snapshot) (intent : Intent)
    (dealing : Dealing) (text : String) : Prop where
  deals : intent.dealing? = some dealing
  packed : dealing.packed = true
  given : dealing.encodedParams = some text
  foreign : resolver.account? snapshot dealing.reserve ≠ some nativeCurrency

/-- The same intent without the fields that a packed word holds. -/
def wordless : Intent → Intent
  | supply intent => supply { intent with reserve := "", amount := "", referralCode := 0 }
  | supplyWithPermit intent => supplyWithPermit { intent with
      reserve := "", amount := "", referralCode := 0
      permit := { intent.permit with deadline := 0, value := none } }
  | withdraw intent => withdraw { intent with reserve := "", amount := "" }
  | borrow intent => borrow { intent with
      reserve := "", amount := "", rateMode := .noRate, referralCode := 0 }
  | repay intent => repay { intent with reserve := "", amount := "", rateMode := .noRate }
  | repayWithPermit intent => repayWithPermit { intent with
      reserve := "", amount := "", rateMode := .noRate
      permit := { intent.permit with deadline := 0, value := none } }
  | intent => intent

theorem packing?_wordless (intent : Intent) : intent.wordless.packing? = intent.packing? := by
  cases intent <;> rfl

theorem signatureHalves_wordless (intent : Intent) :
    intent.wordless.signatureHalves = intent.signatureHalves := by
  cases intent <;> rfl

theorem dealing?_wordless (intent : Intent) :
    intent.wordless.dealing? = intent.dealing?.map
      ({ · with reserve := "", amount := "", declaredAmount := none }) := by
  cases intent <;> rfl

end Intent

namespace Abi.Method

variable {name : String} {selector : Bytes}

theorem encode_one (word : Word) :
    Method.encode ⟨name, selector, [PackedMethod.bytes32]⟩ (word, ()) =
      selector ++ word.toBytes := by
  simp [Method.encode, Abi.encode, layOut, place, ParameterType.place, WordType.toWord]

theorem encode_three (first second third : Word) :
    Method.encode
        ⟨name, selector, [PackedMethod.bytes32, PackedMethod.bytes32, PackedMethod.bytes32]⟩
        (first, second, third, ()) =
      selector ++ first.toBytes ++ (second.toBytes ++ third.toBytes) := by
  simp [Method.encode, Abi.encode, layOut, place, ParameterType.place, WordType.toWord]

end Abi.Method

theorem PackedCall.encodeAround_of_reserveAction? {intent : Intent} {asset : Address}
    {request : AmountRequest} {action : ReserveAction Address AmountRequest}
    (acts : intent.reserveAction? asset request = some action) {call : PackedCall}
    (same : call.kind = action.kind) (word : Word) :
    ∃ method halves, intent.packing? = some (method, action.gasAction) ∧
      intent.signatureHalves = .ok halves ∧
      encodeAround word call = .ok (method.selector ++ word.toBytes ++ halves) := by
  cases intent with simp only [Intent.reserveAction?, Option.some.injEq, Option.map_eq_some_iff,
    reduceCtorEq] at acts
  | supplyWithPermit intent | repayWithPermit intent =>
      rcases acts with ⟨permit, signs, rfl⟩
      cases call <;> cases same
      refine ⟨_, permit.signature.r.toBytes ++ permit.signature.s.toBytes, rfl, ?_,
        congrArg Except.ok (Abi.Method.encode_three ..)⟩
      exact Intent.signatureHalves_of_signs rfl signs
  | _ =>
      subst acts
      cases call <;> cases same
      refine ⟨_, [], rfl, rfl, congrArg Except.ok ?_⟩
      rw [List.append_nil]
      exact Abi.Method.encode_one ..

/-! ## Plans -/

section

variable {planner : Planner} {resolver : Resolver} {snapshot : Snapshot} {intent : Intent}
  {dealing : Dealing} {text : String} {order : ReserveOrder} {draft : Draft}
  {Possible : PossibleReplies}

theorem Order.preEncoded_some_eq_ok {given : Option Word}
    (packs : preEncoded (some text) = .ok given) :
    ∃ bytes, Bytes.ofHex? text = some bytes ∧ bytes.length = 32 ∧
      given = some (Word.ofBytes bytes) := by
  have packs : some <$> PackedCall.parsePreEncoded text = .ok given := packs
  rw [PackedCall.parsePreEncoded] at packs
  cases spells : Bytes.ofHex? text with
  | none =>
      rw [spells] at packs
      cases packs
  | some bytes =>
      rw [spells] at packs
      dsimp only at packs
      split at packs
      · cases packs
        exact ⟨bytes, rfl, ‹_›, rfl⟩
      · cases packs

theorem Intent.CarriesWord.route (carries : intent.CarriesWord resolver snapshot dealing text)
    (ordered : intent.Ordered resolver snapshot dealing order) :
    ∃ bytes, Bytes.ofHex? text = some bytes ∧ bytes.length = 32 ∧
      order.route = .packed (some (Word.ofBytes bytes)) := by
  rcases ordered.route with ⟨given, packs, route⟩
  rw [carries.given] at packs
  rcases Order.preEncoded_some_eq_ok packs with ⟨bytes, spells, length, rfl⟩
  rw [carries.packed, if_pos rfl] at route
  exact ⟨bytes, spells, length, route⟩

structure WordCall where
  pool : PackedPool
  sender : Address
  method : Abi.Method
  gas : GasAction
  bytes : Bytes
  halves : Bytes

namespace WordCall

def data (call : WordCall) : Bytes :=
  call.method.selector ++ call.bytes ++ call.halves

def action (call : WordCall) : Descriptor :=
  .ofAction .poolAction call.pool.limits call.gas {
    sender := call.sender, target := call.pool.address, data := call.data }

end WordCall

/-- The packed call that an intent with a given word comes to. -/
structure Intent.Wraps (planner : Planner) (snapshot : Snapshot) (intent : Intent)
    (dealing : Dealing) (text : String) (call : WordCall) : Prop where
  pools : planner.packedPool = some call.pool
  acts : planner.resolver.account? snapshot dealing.user = some call.sender
  packs : intent.packing? = some (call.method, call.gas)
  spells : Bytes.ofHex? text = some call.bytes
  length : call.bytes.length = 32
  signs : intent.signatureHalves = .ok call.halves

theorem Intent.Wraps.unique {other : Intent} {otherDealing : Dealing} {call otherCall : WordCall}
    (wraps : intent.Wraps planner snapshot dealing text call)
    (otherWraps : other.Wraps planner snapshot otherDealing text otherCall)
    (user : otherDealing.user = dealing.user) (packing : other.packing? = intent.packing?)
    (halves : other.signatureHalves = intent.signatureHalves) : otherCall = call := by
  have pool := otherWraps.pools.symm.trans wraps.pools
  have sender := otherWraps.acts
  rw [user, wraps.acts] at sender
  have method := otherWraps.packs
  rw [packing, wraps.packs] at method
  have bytes := otherWraps.spells.symm.trans wraps.spells
  have halves := (otherWraps.signs.symm.trans halves).trans wraps.signs
  rcases call with ⟨_, _, _, _, _, _⟩
  rcases otherCall with ⟨_, _, _, _, _, _⟩
  cases pool
  cases sender
  cases method
  cases bytes
  cases halves
  rfl

theorem Planner.Drafts.wraps {plan : List Descriptor} {asked : List ChainQuery}
    (carries : intent.CarriesWord planner.resolver snapshot dealing text)
    (ordered : intent.Ordered planner.resolver snapshot dealing order)
    (drafts : planner.Drafts Possible (.reserve order) draft)
    (finishes : Course Possible draft.finish asked plan) :
    ∃ call, intent.Wraps planner snapshot dealing text call ∧ plan = [call.action] := by
  rcases carries.route ordered with ⟨bytes, spells, length, route⟩
  rcases ordered.action with ⟨asset, request, -, -, acts⟩
  cases drafts with
  | direct routes => cases route.symm.trans routes
  | @packed _ pool action valued _ data routes pools converts values encodes =>
      cases route.symm.trans routes
      rcases yields_bind_iff.mp encodes with ⟨call, renames, encodes⟩
      have kind : valued.kind = order.action.kind := by
        rw [ReserveAction.kind_of_yields_convertAmount values,
          ReserveAction.kind_of_yields_convertAmount (ReserveOrder.yields_converted converts)]
      have same : call.kind = order.action.kind := by
        rw [ReserveAction.kind_of_yields_renameReserves renames, kind]
      have gas : valued.gasAction = order.action.gasAction :=
        (ReserveAction.gasAction_of_yields_convertAmount values).trans
          (ReserveAction.gasAction_of_yields_convertAmount (ReserveOrder.yields_converted converts))
      rcases PackedCall.encodeAround_of_reserveAction? acts same (Word.ofBytes bytes) with
        ⟨method, halves, packs, signs, surrounds⟩
      have encodes : PackedCall.encodeAround (Word.ofBytes bytes) call = .ok data :=
        yields_check_iff.mp encodes
      rw [surrounds, Word.toBytes_ofBytes length] at encodes
      refine ⟨⟨pool, order.sender, method, order.action.gasAction, bytes, halves⟩,
        ⟨pools, ordered.sender, packs, spells, length, signs⟩, ?_⟩
      rw [((Draft.course_finish_iff_of_none rfl).mp finishes).2, Draft.action, gas,
        ← Except.ok.inj encodes]
      rfl

/-! ### What is not asked for -/

def ChainQuery.IsNumber (query : ChainQuery) : Prop :=
  ∃ asset, query = .reserveId asset

theorem Planner.dependsOnlyOn_of_word (planner : Planner) (deals : intent.dealing? = some dealing)
    (packed : dealing.packed = true) (given : dealing.encodedParams = some text) :
    DependsOnlyOn (fun query => ¬ query.IsNumber) (planner.execute intent) := by
  apply dependsOnlyOn_bind
  · refine (intent.asksOnly_order planner.resolver).mono ?_
    rintro _ ⟨name, rfl⟩ ⟨asset, number⟩
    cases number
  intro snapshot order yields
  have granted (query : ChainQuery) (allowance : query.isAllowance = true) : ¬ query.IsNumber := by
    rintro ⟨asset, rfl⟩
    cases allowance
  cases Intent.accepted yields with
  | @dealing _ other order dealt token ordered =>
      cases dealt.symm.trans deals
      rcases Intent.CarriesWord.route ⟨deals, packed, given, token⟩ ordered with
        ⟨bytes, -, -, route⟩
      refine planner.asksOnly_plan_reserve granted (order.asksOnly_converted fun token => ?_) ?_
      · rintro ⟨asset, number⟩
        cases number
      · rw [route]
        nofun
  | nativeSupply | nativeWithdraw | nativeBorrow | nativeRepay =>
      exact planner.asksOnly_plan_native granted _ _
  | _ => cases deals

/-! ### What is accepted -/

theorem ReserveAction.exists_value (Possible : PossibleReplies)
    (action : ReserveAction Address Amount) :
    ∃ valued, Yields Possible (action.convertAmount fun _ amount => pure amount.value) valued := by
  cases action with
  | swapBorrowRateMode | setUsageAsCollateral => exact ⟨_, yields_pure_iff.mpr rfl⟩
  | _ => exact ⟨_, yields_bind_iff.mpr ⟨_, yields_pure_iff.mpr rfl, yields_pure_iff.mpr rfl⟩⟩

theorem ReserveAction.exists_renamed (Possible : PossibleReplies)
    (action : ReserveAction Address Word) (id : UInt16) :
    ∃ renamed, Yields Possible (action.renameReserves fun _ => pure id) renamed := by
  cases action with
  | liquidationCall =>
      exact ⟨_, yields_bind_iff.mpr ⟨_, yields_pure_iff.mpr rfl, yields_bind_iff.mpr
        ⟨_, yields_pure_iff.mpr rfl, yields_pure_iff.mpr rfl⟩⟩⟩
  | _ => exact ⟨_, yields_bind_iff.mpr ⟨_, yields_pure_iff.mpr rfl, yields_pure_iff.mpr rfl⟩⟩

/-- Around a given word, a converted action always goes into a call. -/
theorem Planner.exists_plan_of_word {action : ReserveAction Address Amount} {pool : PackedPool}
    (carries : intent.CarriesWord planner.resolver snapshot dealing text)
    (ordered : intent.Ordered planner.resolver snapshot dealing order)
    (pools : planner.packedPool = some pool) (converts : Yields Possible order.converted action) :
    ∃ plan, plan ≠ [] ∧ Yields Possible (planner.plan (.reserve order)) plan := by
  rcases carries.route ordered with ⟨bytes, -, -, route⟩
  rcases ordered.action with ⟨asset, request, -, -, acts⟩
  rcases action.exists_value Possible with ⟨valued, values⟩
  rcases valued.exists_renamed Possible 0 with ⟨call, renames⟩
  have same : call.kind = order.action.kind := by
    rw [ReserveAction.kind_of_yields_renameReserves renames,
      ReserveAction.kind_of_yields_convertAmount values,
      ReserveAction.kind_of_yields_convertAmount (ReserveOrder.yields_converted converts)]
  rcases PackedCall.encodeAround_of_reserveAction? acts same (Word.ofBytes bytes) with
    ⟨method, halves, -, -, surrounds⟩
  refine ⟨[.ofAction .poolAction pool.limits valued.gasAction {
    sender := order.sender, target := pool.address
    data := method.selector ++ (Word.ofBytes bytes).toBytes ++ halves }],
    List.cons_ne_nil _ _, ?_⟩
  rw [Planner.plan, planReserve, route, pools]
  exact yields_bind_iff.mpr ⟨action, converts, yields_bind_iff.mpr ⟨valued, values,
    yields_bind_iff.mpr ⟨call, renames, yields_bind_iff.mpr
      ⟨_, yields_check_iff.mpr surrounds, yields_pure_iff.mpr rfl⟩⟩⟩⟩

theorem Planner.exists_plan_iff_of_word
    (carries : intent.CarriesWord planner.resolver snapshot dealing text) :
    (∃ plan, plan ≠ [] ∧ Yields snapshot.Answers (planner.execute intent) plan) ↔
      planner.packedPool.isSome = true ∧ ∃ order action,
        Yields snapshot.Answers (intent.order planner.resolver) (.reserve order) ∧
        Yields snapshot.Answers order.converted action := by
  constructor
  · rintro ⟨plan, nonempty, asked, course⟩
    rcases (course_execute_iff nonempty).mp course with ⟨draft, before, after, -, drafts, -⟩
    rcases yields_bind_iff.mp drafts.yields with ⟨order, orders, drafts⟩
    rcases Intent.ordered orders.mayAnswer carries.deals carries.foreign with
      ⟨order, rfl, ordered⟩
    rcases carries.route ordered with ⟨bytes, -, -, route⟩
    rcases of_draftReserve_packed route drafts with ⟨pool, action, _, _, pools, converts, -⟩
    exact ⟨by rw [pools]; rfl, order, action, orders, converts⟩
  · rintro ⟨pools, order, action, orders, converts⟩
    rcases Option.isSome_iff_exists.mp pools with ⟨pool, pools⟩
    rcases Intent.ordered orders.mayAnswer carries.deals carries.foreign with ⟨_, ⟨⟩, ordered⟩
    rcases exists_plan_of_word carries ordered pools converts with ⟨plan, nonempty, plans⟩
    exact ⟨plan, nonempty, yields_bind_iff.mpr ⟨_, orders, plans⟩⟩

/-! ### What is sent -/

theorem Planner.wraps_of_onCached {lifetime : Option Nat} {cache later : Cache}
    {plan : List Descriptor} {reads : List ChainQuery}
    (carries : intent.CarriesWord planner.resolver snapshot dealing text)
    (executed : Reading.onCached lifetime snapshot cache (planner.execute intent).run =
      (.ok plan, later, reads)) (nonempty : plan ≠ []) :
    ∃ call, intent.Wraps planner snapshot dealing text call ∧ plan = [call.action] := by
  rcases exists_draft_of_onCached executed nonempty with
    ⟨order, draft, asked, accepted, drafts, finishes⟩
  rcases accepted.ordered carries.deals carries.foreign with ⟨order, rfl, ordered⟩
  exact drafts.wraps carries ordered finishes

theorem Intent.Wraps.eq_of_wordless {other : Intent} {otherDealing : Dealing}
    {otherText : String} {call otherCall : WordCall}
    (carries : intent.CarriesWord resolver snapshot dealing text)
    (otherCarries : other.CarriesWord resolver snapshot otherDealing otherText)
    (same : other.wordless = intent.wordless)
    (wraps : intent.Wraps planner snapshot dealing text call)
    (otherWraps : other.Wraps planner snapshot otherDealing otherText otherCall) :
    otherCall = call := by
  have dealings := other.dealing?_wordless
  rw [same, intent.dealing?_wordless, carries.deals, otherCarries.deals] at dealings
  have dealings := Option.some.inj dealings
  have user : otherDealing.user = dealing.user := (congrArg Dealing.user dealings :).symm
  have params : dealing.encodedParams = otherDealing.encodedParams :=
    (congrArg Dealing.encodedParams dealings :)
  rw [carries.given, otherCarries.given] at params
  cases params
  apply wraps.unique otherWraps user
  · rw [← other.packing?_wordless, same, intent.packing?_wordless]
  · rw [← other.signatureHalves_wordless, same, intent.signatureHalves_wordless]

theorem Planner.execute_wraps_word
    (carries : intent.CarriesWord planner.resolver snapshot dealing text) :
    (∀ lifetime cache plan later reads,
      Reading.onCached lifetime snapshot cache (planner.execute intent).run =
        (.ok plan, later, reads) → plan ≠ [] →
      (∃ call, intent.Wraps planner snapshot dealing text call ∧ plan = [call.action]) ∧
      (∀ asset, .reserveId asset ∉ reads) ∧
      ∀ (other : Intent) otherDealing otherText otherLifetime otherCache otherPlan otherLater
        otherReads, other.CarriesWord planner.resolver snapshot otherDealing otherText →
        other.wordless = intent.wordless →
        Reading.onCached otherLifetime snapshot otherCache (planner.execute other).run =
          (.ok otherPlan, otherLater, otherReads) → otherPlan ≠ [] → otherPlan = plan) ∧
    ((∃ plan reads, Reading.on snapshot (planner.execute intent).run = (.ok plan, reads) ∧
        plan ≠ []) ↔
      planner.packedPool.isSome = true ∧ ∃ order action,
        outcome snapshot (intent.order planner.resolver) = .ok (.reserve order) ∧
        outcome snapshot order.converted = .ok action) := by
  constructor
  · intro lifetime cache plan later reads executed nonempty
    rcases wraps_of_onCached carries executed nonempty with ⟨call, wraps, sends⟩
    refine ⟨⟨call, wraps, sends⟩, fun asset read => ?_, ?_⟩
    · have depends := planner.dependsOnlyOn_of_word carries.deals carries.packed carries.given
      have made := depends.reads lifetime snapshot cache (.reserveId asset)
      rw [executed] at made
      exact made read ⟨asset, rfl⟩
    · intro other otherDealing otherText _ _ otherPlan _ _ otherCarries same otherExecuted
        otherNonempty
      rcases wraps_of_onCached otherCarries otherExecuted otherNonempty with
        ⟨otherCall, otherWraps, otherSends⟩
      rw [sends, otherSends, Intent.Wraps.eq_of_wordless carries otherCarries same wraps otherWraps]
  · have accepts := exists_plan_iff_of_word carries
    simp only [outcome_eq_ok_iff]
    rw [← accepts]
    constructor
    · rintro ⟨plan, reads, executed, nonempty⟩
      exact ⟨plan, nonempty, reads, course_answers_iff.mpr executed⟩
    · rintro ⟨plan, nonempty, reads, course⟩
      exact ⟨plan, reads, course_answers_iff.mp course, nonempty⟩

end

/-! ### One word for two supplies -/

namespace Sample

def reserves : Snapshot := { tokens with reserves := [(.ofNat 11, 3), (.ofNat 12, 4)] }

def wordText : String := "0x" ++ String.ofList (List.replicate 64 'a')

def packedSupply (reserve amount : String) (deadline : UInt64) (encodedParams : Option String) :
    Intent := .supplyWithPermit {
  user := "0x000000000000000000000000000000000000000a"
  reserve, amount, encodedParams
  permit := { permit amount with deadline }
  useOptimizedPath := true }

def smallSupply : Intent :=
  packedSupply "0x000000000000000000000000000000000000000b" "1" 1800000000 (some wordText)

/-- Its amount needs more than 128 bits, and its deadline more than 32. -/
def wideSupply (encodedParams : Option String) : Intent :=
  packedSupply "0x000000000000000000000000000000000000000c" "1000000000000000000000000"
    1099511627776 encodedParams

theorem carriesWord (reserve amount : String) (deadline : UInt64)
    (foreign : packing.resolver.account? reserves reserve ≠ some nativeCurrency) :
    ∃ dealing, (packedSupply reserve amount deadline (some wordText)).CarriesWord packing.resolver
      reserves dealing wordText :=
  ⟨_, rfl, rfl, rfl, foreign⟩

end Sample

/-- Two supplies with the same word, of which the second does not fit into a word, are sent alike.
Without the word the second one is refused. -/
theorem Planner.execute_wraps_word_sample :
    ∃ plan later reads otherLater otherReads, plan ≠ [] ∧
      Reading.onCached none Sample.reserves {} (Sample.packing.execute Sample.smallSupply).run =
        (.ok plan, later, reads) ∧
      Reading.onCached none Sample.reserves {}
        (Sample.packing.execute (Sample.wideSupply (some Sample.wordText))).run =
          (.ok plan, otherLater, otherReads) ∧
      (∀ asset, .reserveId asset ∉ reads) ∧
      (outcome Sample.reserves (Sample.packing.execute (Sample.wideSupply none))).isOk = false := by
  rcases Sample.carriesWord "0x000000000000000000000000000000000000000b" "1" 1800000000
    (by decide +kernel) with ⟨dealing, carries⟩
  rcases Sample.carriesWord "0x000000000000000000000000000000000000000c"
    "1000000000000000000000000" 1099511627776 (by decide +kernel) with ⟨wideDealing, wideCarries⟩
  have entries : (Reading.onCached none Sample.reserves {}
      (Sample.packing.execute Sample.smallSupply).run).1.toOption.map List.length = some 1 := by
    decide +kernel
  have wideEntries : (Reading.onCached none Sample.reserves {}
      (Sample.packing.execute (Sample.wideSupply (some Sample.wordText))).run).1.toOption.map
        List.length = some 1 := by decide +kernel
  rcases Sample.exists_nonempty entries with ⟨plan, ⟨later, reads⟩, executed, nonempty⟩
  rcases Sample.exists_nonempty wideEntries with
    ⟨widePlan, ⟨wideLater, wideReads⟩, wideExecuted, wideNonempty⟩
  rcases (execute_wraps_word carries).1 none {} plan later reads executed nonempty with
    ⟨-, unread, alike⟩
  have same := alike _ wideDealing Sample.wordText none {} widePlan wideLater wideReads wideCarries
    rfl wideExecuted wideNonempty
  rw [same] at wideExecuted
  exact ⟨plan, later, reads, wideLater, wideReads, nonempty, executed, wideExecuted, unread,
    by decide +kernel⟩

end LendingPool
