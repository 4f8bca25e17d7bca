import LendingPool.Proofs.Chain.Dependence
import LendingPool.Proofs.Plan.Availability
import LendingPool.Proofs.Plan.Refusals
import LendingPool.Proofs.Plan.SignedPermits
/-! Asking for the whole balance. One literal asks for it, on every path the call carries the
largest word, and no decimals are read on the way. No other text with a sign is understood. -/

namespace LendingPool

open Planning

/-! ## Amounts in call data -/

/-- The amount that call data names, as the contract at the end of a path reads it. -/
def Path.amountIn? (path : Path) (data : Bytes) : Option Word :=
  match path with
  | .standard => (PoolCall.decode? data).bind PoolCall.amount?
  | .packed => (PackedCall.decode data).toOption.bind fun call => call.amount?.map Prod.snd
  | .native => (GatewayMethod.withdraw.decode? data).map fun (_, amount, _) => amount
  | .swapAdapter | .repayAdapter | .flashLiquidation => none

theorem GatewayMethod.decode?_withdraw (pool : Address) (amount : Word) (recipient : Address) :
    withdraw.decode? (GatewayCall.withdraw pool amount recipient).encode =
      some (pool, amount, recipient, ()) := by
  apply Abi.Method.decode?_encode rfl
  have static : withdraw.inputs.all Abi.ParameterType.isStatic = true := rfl
  have length := Abi.Method.length_encode_of_isStatic static (pool, amount, recipient, ())
  have bound : withdraw.selector.length + Abi.headSize withdraw.inputs = 100 := rfl
  omega

theorem PackedCall.amount?_reread (call : PackedCall) :
    call.reread.amount? = call.amount?.map fun amount =>
      (amount.1, rereadAmount call.mayBeEntire amount.2) := by
  cases call <;> rfl

theorem rereadAmount_max (mayBeEntire : Bool) : rereadAmount mayBeEntire Word.max = Word.max := by
  rw [rereadAmount, ite_self]

namespace ReserveAction

variable {Reserve Renamed Quantity : Type} {Possible : PossibleReplies}

theorem amount?_of_yields_renameReserves {rename : Reserve → Planning Renamed}
    {action : ReserveAction Reserve Quantity} {renamed : ReserveAction Renamed Quantity}
    (yields : Yields Possible (action.renameReserves rename) renamed) :
    renamed.amount?.map Prod.snd = action.amount?.map Prod.snd := by
  cases action <;> simp only [renameReserves, yields_bind_iff, yields_pure_iff] at yields
  case liquidationCall =>
    rcases yields with ⟨collateral, -, debt, -, rfl⟩
    rfl
  all_goals
    rcases yields with ⟨reserve, -, rfl⟩
    rfl

theorem amount?_of_yields_value {action : ReserveAction Reserve Amount}
    {valued : ReserveAction Reserve Word}
    (yields : Yields Possible (action.convertAmount fun _ amount => pure amount.value) valued) :
    valued.amount?.map Prod.snd = action.amount?.map fun amount => amount.2.value := by
  cases action <;> simp only [convertAmount, yields_bind_iff, yields_pure_iff] at yields
  case swapBorrowRateMode => rw [← yields]; rfl
  case setUsageAsCollateral => rw [← yields]; rfl
  all_goals
    rcases yields with ⟨value, rfl, rfl⟩
    rfl

end ReserveAction

/-! ## Orders -/

def Order.request? : Order → Option AmountRequest
  | reserve order => order.action.amount?.map Prod.snd
  | native _ (.withdraw request _ _) => some request
  | _ => none

def Intent.AsksEntire (intent : Intent) : Prop :=
  (entireBalanceLiteral, .positiveOrEntire) ∈ intent.typedAmounts

section

variable {planner : Planner} {resolver : Resolver} {snapshot : Snapshot} {intent : Intent}
  {order : Order} {draft : Draft} {Possible : PossibleReplies}

theorem Requests.eq_entireBalance {request : AmountRequest}
    (asks : Requests entireBalanceLiteral request) : request = .entireBalance :=
  asks.entire_iff.mp rfl

theorem Intent.amount_of_asksEntire {dealing : Dealing} (entire : intent.AsksEntire)
    (deals : intent.dealing? = some dealing) : dealing.amount = entireBalanceLiteral := by
  cases intent with
  | withdraw | repay | repayWithPermit =>
      cases deals
      exact (Prod.mk.inj (List.mem_singleton.mp entire)).1.symm
  | supply | supplyWithPermit | borrow => cases (Prod.mk.inj (List.mem_singleton.mp entire)).2
  | _ => cases deals

theorem Intent.Accepted.request?_of_asksEntire
    (accepted : intent.Accepted resolver snapshot order) (entire : intent.AsksEntire) :
    order.request? = some .entireBalance := by
  cases accepted with
  | dealing deals token ordered =>
      rcases ordered.action with ⟨asset, request, -, asks, acts⟩
      rw [Intent.amount_of_asksEntire entire deals] at asks
      rw [Order.request?, Intent.amount?_of_reserveAction? acts, asks.eq_entireBalance]
      rfl
  | nativeSupply | nativeBorrow => cases (Prod.mk.inj (List.mem_singleton.mp entire)).2
  | nativeWithdraw _ _ _ asks =>
      rw [← (Prod.mk.inj (List.mem_singleton.mp entire)).1] at asks
      rw [Order.request?, asks.eq_entireBalance]
  | nativeRepay _ _ _ asks =>
      rw [← (Prod.mk.inj (List.mem_singleton.mp entire)).1] at asks
      cases asks.eq_entireBalance
  | liquidation _ _ _ asks =>
      rw [← (Prod.mk.inj (List.mem_singleton.mp entire)).1] at asks
      rw [asks.eq_entireBalance]
      rfl
  | flashLiquidation => cases (Prod.mk.inj (List.mem_singleton.mp entire)).2
  | usage | rateSwap | userEMode => cases entire
  | swap | repayment =>
      rcases List.mem_cons.mp entire with same | entire
      · cases (Prod.mk.inj same).2
      · cases (Prod.mk.inj (List.mem_singleton.mp entire)).2

/-! ## Drafts -/

theorem ReserveAction.amount?_of_entire {action : ReserveAction Address AmountRequest}
    {converted : ReserveAction Address Amount}
    (entire : action.amount?.map Prod.snd = some .entireBalance)
    (converts : Yields Possible (action.convertAmount LendingPool.convertAmount) converted) :
    converted.amount?.map (fun amount => amount.2.value) = some Word.max := by
  have same := ReserveAction.yields_convertAmount converts
  generalize action.amount? = asked at entire same
  generalize converted.amount? = amount at same ⊢
  cases same with
  | none => cases entire
  | @some asked amount same =>
      have converts := same.2
      rw [Option.some.inj entire] at converts
      rw [Option.map_some, yields_convertAmount_iff.mp converts]
      rfl

/-- Whatever the path, call data for the whole balance carries the largest word. -/
theorem Planner.Drafts.amountIn?_of_entire (entire : order.request? = some .entireBalance)
    (plain : ∀ reserve word, order = .reserve reserve → reserve.route ≠ .packed (some word))
    (drafts : planner.Drafts Possible order draft) :
    draft.instruction.path.amountIn? draft.instruction.data = some Word.max := by
  cases drafts with
  | @direct order pool action routes pools converts =>
      have told := ReserveAction.amount?_of_entire entire (ReserveOrder.yields_converted converts)
      rw [← action.amount?_toPoolCall order.beneficiary] at told
      change (PoolCall.decode? (action.toPoolCall order.beneficiary).encode).bind _ = _
      rw [action.decode?_toPoolCall]
      exact told
  | @packed order pool action valued preEncoded data routes pools converts values encodes =>
      have told := ReserveAction.amount?_of_entire entire (ReserveOrder.yields_converted converts)
      cases preEncoded with
      | some word => exact absurd routes (plain order word rfl)
      | none =>
          rcases yields_bind_iff.mp encodes with ⟨call, renames, encodes⟩
          rw [← ReserveAction.amount?_of_yields_value values,
            ← ReserveAction.amount?_of_yields_renameReserves renames] at told
          rcases Option.map_eq_some_iff.mp told with ⟨⟨id, amount⟩, called, rfl⟩
          change ((PackedCall.decode data).toOption.bind _) = _
          rw [PackedCall.decode_encode (yields_check_iff.mp encodes)]
          change call.reread.amount?.map Prod.snd = _
          rw [call.amount?_reread, called]
          exact congrArg some (rereadAmount_max _)
  | withdraw gateways converts =>
      cases Option.some.inj entire
      cases converts
      rw [Instruction.path, Path.amountIn?, Instruction.data, GatewayMethod.decode?_withdraw]
      rfl
  | _ => cases entire

/-! ## What is read -/

/-- A permit is said to be for a number. -/
def Intent.DeclaresNumber (intent : Intent) : Prop :=
  ∃ permit text amount, intent.permit? = some permit ∧ permit.value = some text ∧
    DecimalAmount.parse text = .ok amount

theorem Intent.declaredAmount_eq {dealing : Dealing} (deals : intent.dealing? = some dealing) :
    dealing.declaredAmount = intent.permit?.bind PermitIntent.value := by
  cases intent <;> cases deals <;> rfl

theorem ReserveOrder.asksOnly_converted_of_entire {Expected : ChainQuery → Prop}
    {order : ReserveOrder} (entire : order.action.amount?.map Prod.snd = some .entireBalance)
    (silent : ∀ text amount, order.declaredAmount = some text →
      DecimalAmount.parse text ≠ .ok amount) : AsksOnly Expected order.converted := by
  apply asksOnly_bind
  · apply order.action.asksOnly_convertAmount
    intro token request asked
    rw [asked] at entire
    cases Option.some.inj entire
    exact asksOnly_pure _
  intro action
  cases action.amount? with
  | none => exact asksOnly_pure _
  | some amount =>
      refine asksOnly_bind ?_ fun _ => asksOnly_pure _
      cases declares : order.declaredAmount with
      | none => exact asksOnly_pure _
      | some raw =>
          rw [checkDeclared]
          cases asks : AmountRequest.parse raw .positiveOrEntire with
          | error fault => exact asksOnly_throw _
          | ok request =>
              cases request with
              | entireBalance => exact asksOnly_ite (asksOnly_throw _) (asksOnly_pure _)
              | value amount =>
                  exact absurd (requests_value_iff.mp asks) (silent raw amount declares)

theorem Planner.asksOnly_plan_of_entire (planner : Planner)
    (accepted : intent.Accepted resolver snapshot order) (entire : intent.AsksEntire)
    (silent : ¬ intent.DeclaresNumber) :
    AsksOnly (fun query => query.isMetadata = false) (planner.plan order) := by
  have granted (query : ChainQuery) (allowance : query.isAllowance = true) :
      query.isMetadata = false := by
    cases query with
    | decimals | name => cases allowance
    | _ => rfl
  have request := accepted.request?_of_asksEntire entire
  cases accepted with
  | dealing deals token ordered =>
      refine planner.asksOnly_plan_reserve granted ?_ fun _ _ => rfl
      apply ReserveOrder.asksOnly_converted_of_entire request
      intro text amount declares parses
      rw [ordered.declaredAmount, Intent.declaredAmount_eq deals] at declares
      rcases Option.bind_eq_some_iff.mp declares with ⟨permit, bears, value⟩
      exact silent ⟨permit, text, amount, bears, value, parses⟩
  | liquidation =>
      refine planner.asksOnly_plan_reserve granted ?_ fun _ _ => rfl
      exact ReserveOrder.asksOnly_converted_of_entire request nofun
  | nativeSupply | nativeWithdraw | nativeBorrow | nativeRepay =>
      exact planner.asksOnly_plan_native granted _ _
  | _ => cases request

theorem Planner.dependsOnlyOn_of_entire (planner : Planner) (entire : intent.AsksEntire)
    (silent : ¬ intent.DeclaresNumber) :
    DependsOnlyOn (fun query => query.isMetadata = false) (planner.execute intent) := by
  apply dependsOnlyOn_bind
  · exact (intent.asksOnly_order planner.resolver).mono fun _ resolution =>
      resolution.isMetadata_eq_false
  · intro snapshot order orders
    exact planner.asksOnly_plan_of_entire (Intent.accepted orders) entire silent

def ChainQuery.IsDecimals (query : ChainQuery) : Prop :=
  ∃ token, query = .decimals token

theorem Planner.requestPermit_dependsOnlyOn (planner : Planner) {request : PermitRequestIntent}
    (entire : request.amount = entireBalanceLiteral) :
    DependsOnlyOn (fun query => ¬ query.IsDecimals) (planner.requestPermit request) := by
  apply dependsOnlyOn_bind
  · apply (request.asksOnly_order planner.resolver).mono
    rintro _ ⟨name, rfl⟩ ⟨token, decimals⟩
    cases decimals
  · intro snapshot order orders
    have amount : order.amount = .entireBalance := by
      simp only [PermitRequestIntent.order, yields_bind_iff, yields_check_iff, yields_pure_iff]
        at orders
      rcases orders with ⟨user, -, reserve, -, amount, asks, _, -, rfl⟩
      rw [entire] at asks
      exact Requests.eq_entireBalance asks
    cases planner.contracts.pool with
    | none => exact asksOnly_pure _
    | some pool =>
        rw [amount]
        apply asksOnly_bind (asksOnly_pure _)
        intro value
        apply asksOnly_bind (asksOnly_read (by rintro ⟨token, decimals⟩; cases decimals))
        intro nonce
        cases nonce with
        | none => exact asksOnly_pure _
        | some nonce =>
            apply asksOnly_bind (asksOnly_read (by rintro ⟨token, decimals⟩; cases decimals))
            intro name
            apply asksOnly_bind (asksOnly_read (by rintro ⟨token, decimals⟩; cases decimals))
            exact fun _ => asksOnly_pure _

/-! ## Plans -/

theorem Intent.Accepted.route_ne_packed {reserve : ReserveOrder} (word : Word)
    (accepted : intent.Accepted resolver snapshot (.reserve reserve))
    (plain : ∀ dealing, intent.dealing? = some dealing → dealing.encodedParams = none) :
    reserve.route ≠ .packed (some word) := by
  have chosen (packed : Bool) : Route.chosen packed ≠ .packed (some word) := by
    cases packed <;> nofun
  cases accepted with
  | @dealing _ dealing _ deals _ ordered =>
      rcases ordered.route with ⟨given, packs, route⟩
      rw [plain dealing deals] at packs
      cases packs
      rw [route]
      exact chosen dealing.packed
  | liquidation | usage | rateSwap => exact chosen _

theorem Planner.amountIn?_of_onCached {planner : Planner} {lifetime : Option Nat}
    {cache later : Cache} {plan : List Descriptor} {reads : List ChainQuery}
    (entire : intent.AsksEntire)
    (plain : ∀ dealing, intent.dealing? = some dealing → dealing.encodedParams = none)
    (executed : Reading.onCached lifetime snapshot cache (planner.execute intent).run =
      (.ok plan, later, reads)) (nonempty : plan ≠ []) :
    ∃ action, plan.getLast? = some action ∧
      (intent.outlineOn planner.resolver snapshot).path.amountIn? action.call.data =
        some Word.max := by
  rcases exists_draft_of_onCached executed nonempty with
    ⟨order, draft, finishing, accepted, drafts, finishes⟩
  refine ⟨draft.action, Draft.getLast?_of_course_finish finishes, ?_⟩
  have path := accepted.checked.path
  rw [path, ← drafts.path]
  apply drafts.amountIn?_of_entire (accepted.request?_of_asksEntire entire)
  rintro reserve word rfl
  exact accepted.route_ne_packed word plain

theorem Planner.value_of_requestPermit {planner : Planner} {lifetime : Option Nat}
    {cache later : Cache} {request : PermitRequestIntent} {message : PermitMessage}
    {reads : List ChainQuery} (entire : request.amount = entireBalanceLiteral)
    (requested : Reading.onCached lifetime snapshot cache (planner.requestPermit request).run =
      (.ok (.sign message), later, reads)) :
    message.typedData.textWithin? "message" "value" = some Word.max.toDecimal := by
  have answers := answers_of_requestPermit (fun _ _ => id)
    (yields_of_onCached (congrArg Prod.fst requested))
  rcases answers.value with ⟨asked, amount, asks, converts, value⟩
  rw [entire] at asks
  rw [asks.eq_entireBalance] at converts
  rw [message.shows.value, value, yields_convertAmount_iff.mp converts]
  rfl

theorem Planner.refuses_amounts (planner : Planner) (lifetime : Option Nat) (snapshot : Snapshot)
    (cache : Cache) {before after : List (String × AmountRule)} {raw : String} {rule : AmountRule}
    (accepted : ∀ amount ∈ before, ∃ request, AmountRequest.parse amount.1 amount.2 = .ok request)
    (foreign : SpellsNoAmount raw) (other : rule = .positiveOrEntire → raw ≠ entireBalanceLiteral)
    (amounts : intent.typedAmounts = before ++ (raw, rule) :: after) :
    (Reading.onCached lifetime snapshot cache (planner.execute intent).run).1 =
      outcome snapshot (intent.typedParties.mapM planner.resolver.validate) >>= fun _ =>
        .error (.input (.nonPositiveAmount raw)) := by
  have refused : readAmounts (before ++ (raw, rule) :: after) = .error (.nonPositiveAmount raw) :=
    readAmounts_of_spellsNoAmount accepted foreign other
  rw [← amounts] at refused
  exact (Intent.refusesAfter_order refused).onCached_bind
    (intent.asksOnly_order planner.resolver) lifetime cache planner.plan

theorem Planner.requestPermit_refuses_amount (planner : Planner) (lifetime : Option Nat)
    (snapshot : Snapshot) (cache : Cache) {request : PermitRequestIntent}
    (foreign : SpellsNoAmount request.amount) (other : request.amount ≠ entireBalanceLiteral) :
    (Reading.onCached lifetime snapshot cache (planner.requestPermit request).run).1 =
      outcome snapshot ([request.user, request.reserve].mapM planner.resolver.validate) >>=
        fun _ => .error (.input (.nonPositiveAmount request.amount)) := by
  have refused : readAmounts ([] ++ [(request.amount, .positiveOrEntire)]) =
      .error (.nonPositiveAmount request.amount) :=
    readAmounts_of_spellsNoAmount nofun foreign fun _ => other
  exact (PermitRequestIntent.refusesAfter_order refused).onCached_bind
    (request.asksOnly_order planner.resolver) lifetime cache _

/-- The literal for the whole balance is the largest word on every path and in every permit, and is
not scaled by decimals. Where it is not accepted it is refused like any other text with a sign. -/
theorem Planner.execute_entireBalance (planner : Planner) (lifetime : Option Nat) (cache : Cache)
    (intent : Intent) (request : PermitRequestIntent) :
    (intent.AsksEntire →
      (∀ snapshot plan later reads,
        (∀ dealing, intent.dealing? = some dealing → dealing.encodedParams = none) →
        Reading.onCached lifetime snapshot cache (planner.execute intent).run =
          (.ok plan, later, reads) → plan ≠ [] →
        ∃ action, plan.getLast? = some action ∧
          (intent.outlineOn planner.resolver snapshot).path.amountIn? action.call.data =
            some Word.max) ∧
      (¬ intent.DeclaresNumber →
        DependsOnlyOn (fun query => query.isMetadata = false) (planner.execute intent))) ∧
    (request.amount = entireBalanceLiteral →
      (∀ snapshot message later reads,
        Reading.onCached lifetime snapshot cache (planner.requestPermit request).run =
          (.ok (.sign message), later, reads) →
        message.typedData.textWithin? "message" "value" = some Word.max.toDecimal) ∧
      DependsOnlyOn (fun query => ¬ query.IsDecimals) (planner.requestPermit request)) ∧
    (∀ snapshot before raw rule after, intent.typedAmounts = before ++ (raw, rule) :: after →
      (∀ amount ∈ before, ∃ request, AmountRequest.parse amount.1 amount.2 = .ok request) →
      SpellsNoAmount raw → (rule = .positiveOrEntire → raw ≠ entireBalanceLiteral) →
      (Reading.onCached lifetime snapshot cache (planner.execute intent).run).1 =
        outcome snapshot (intent.typedParties.mapM planner.resolver.validate) >>= fun _ =>
          .error (.input (.nonPositiveAmount raw))) ∧
    ∀ snapshot, SpellsNoAmount request.amount → request.amount ≠ entireBalanceLiteral →
      (Reading.onCached lifetime snapshot cache (planner.requestPermit request).run).1 =
        outcome snapshot ([request.user, request.reserve].mapM planner.resolver.validate) >>=
          fun _ => .error (.input (.nonPositiveAmount request.amount)) := by
  refine ⟨fun entire => ⟨?_, ?_⟩, fun entire => ⟨?_, ?_⟩, ?_, ?_⟩
  · intro snapshot plan later reads plain executed nonempty
    exact amountIn?_of_onCached entire plain executed nonempty
  · exact planner.dependsOnlyOn_of_entire entire
  · intro snapshot message later reads requested
    exact value_of_requestPermit entire requested
  · exact planner.requestPermit_dependsOnlyOn entire
  · intro snapshot before raw rule after amounts accepted foreign other
    exact planner.refuses_amounts lifetime snapshot cache accepted foreign other amounts
  · intro snapshot foreign other
    exact planner.requestPermit_refuses_amount lifetime snapshot cache foreign other

end

/-! ### A withdrawal of everything -/

namespace Sample

def entirePermit : PermitRequestIntent := { permitRequest with amount := entireBalanceLiteral }

theorem requestsEntirePermit : ∃ message later reads,
    Reading.onCached none signing {} (packing.requestPermit entirePermit).run =
      (.ok (.sign message), later, reads) := by
  have signs :
      (Reading.onCached none signing {} (packing.requestPermit entirePermit).run).1.toOption.map
        id = some (.sign { message with value := Word.max }) := by decide +kernel
  rcases exists_run_of_map signs with ⟨_, ⟨later, reads⟩, run, rfl⟩
  exact ⟨_, later, reads, run⟩

theorem refuses_of_known {α : Type} {fault : Fault} {texts : List String}
    (known : (outcome signing (texts.mapM packing.resolver.validate)).isOk = true) :
    (outcome signing (texts.mapM packing.resolver.validate) >>= fun _ => .error fault) =
      (.error fault : Except Fault α) := by
  generalize outcome signing (texts.mapM packing.resolver.validate) = parties at known ⊢
  cases parties with
  | error earlier => cases known
  | ok addresses => rfl

end Sample

/-- Everything is withdrawn, or signed for, on a chain where no decimals are needed. Less than
nothing is not withdrawn, however it is spelled. -/
theorem Planner.execute_entireBalance_sample :
    (∃ plan later reads action,
      Reading.onCached none Sample.signing {}
        (Sample.packing.execute ((Sample.withdrawal "-1").optimized true)).run =
          (.ok plan, later, reads) ∧
      plan.getLast? = some action ∧ Path.packed.amountIn? action.call.data = some Word.max ∧
      ∀ query ∈ reads, query.isMetadata = false) ∧
    (∃ message later reads,
      Reading.onCached none Sample.signing {}
        (Sample.packing.requestPermit Sample.entirePermit).run =
          (.ok (.sign message), later, reads) ∧
      message.typedData.textWithin? "message" "value" = some Word.max.toDecimal ∧
      ∀ query ∈ reads, ¬ query.IsDecimals) ∧
    (Reading.onCached none Sample.signing {}
      (Sample.packing.execute (Sample.withdrawal "-1.0")).run).1 =
        .error (.input (.nonPositiveAmount "-1.0")) ∧
    (Reading.onCached none Sample.signing {}
      (Sample.packing.requestPermit { Sample.permitRequest with amount := "-01" }).run).1 =
        .error (.input (.nonPositiveAmount "-01")) := by
  rcases execute_entireBalance Sample.packing none {} ((Sample.withdrawal "-1").optimized true)
    Sample.entirePermit with ⟨executes, requests, -, -⟩
  rcases executes (List.mem_singleton_self _) with ⟨carries, depends⟩
  rcases requests rfl with ⟨shows, requestDepends⟩
  rcases execute_entireBalance Sample.packing none {} (Sample.withdrawal "-1.0")
    { Sample.permitRequest with amount := "-01" } with ⟨-, -, refuses, requestRefuses⟩
  refine ⟨?_, ?_, ?_, ?_⟩
  · have entries : (Reading.onCached none Sample.signing {}
        (Sample.packing.execute ((Sample.withdrawal "-1").optimized true)).run).1.toOption.map
          List.length = some 1 := by decide +kernel
    rcases Sample.exists_nonempty entries with ⟨plan, ⟨later, reads⟩, executed, nonempty⟩
    rcases carries Sample.signing plan later reads (by rintro _ ⟨⟩; rfl) executed nonempty with
      ⟨action, last, amount⟩
    refine ⟨plan, later, reads, action, executed, last, amount, ?_⟩
    have unread := (depends (by rintro ⟨_, _, _, bears, -⟩; cases bears)).reads none
      Sample.signing {}
    rwa [executed] at unread
  · rcases Sample.requestsEntirePermit with ⟨message, later, reads, requested⟩
    refine ⟨message, later, reads, requested, shows _ _ _ _ requested, ?_⟩
    have unread := requestDepends.reads none Sample.signing {}
    rwa [requested] at unread
  · rw [refuses Sample.signing [] "-1.0" .positiveOrEntire [] rfl nofun
      (spellsNoAmount_of_sign (.inl (by decide))) fun _ => by decide]
    exact Sample.refuses_of_known (by decide +kernel)
  · rw [requestRefuses Sample.signing (spellsNoAmount_of_sign (.inl (by decide))) (by decide)]
    exact Sample.refuses_of_known (by decide +kernel)

end LendingPool
