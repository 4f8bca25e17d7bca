import LendingPool.Proofs.Address
import LendingPool.Proofs.Plan.DeclaredPermits
/-! Permits that are signed for an action. What the wallet shows is what the action takes, from the
same owner and of the same token, but the spender is the pool by either route. -/

namespace LendingPool

open Planning

/-! ## What a wallet shows -/

def Json.textWithin? (outer inner : String) (value : Json) : Option String := do
  let members ← value.member? outer
  let member ← members.member? inner
  member.string?

/-- Typed data for a permit of so much of a token. Addresses are checksummed, and numbers are
decimal. -/
structure Json.ShowsPermit (shown : Json) (owner token spender : Address) (value : Word)
    (deadline : Nat) : Prop where
  owner : shown.textWithin? "message" "owner" = some owner.checksum
  token : shown.textWithin? "domain" "verifyingContract" = some token.checksum
  spender : shown.textWithin? "message" "spender" = some spender.checksum
  value : shown.textWithin? "message" "value" = some value.toDecimal
  deadline : shown.textWithin? "message" "deadline" = some (toString deadline)

theorem PermitMessage.shows (message : PermitMessage) :
    message.typedData.ShowsPermit message.owner message.token message.spender message.value
      message.deadline.toNat :=
  ⟨rfl, rfl, rfl, rfl, rfl⟩

/-! ## What a call takes by a permit -/

/-- Of which reserve a permit is used, for how much, and until when it may be. -/
structure PermitUse (Reserve : Type) where
  asset : Reserve
  amount : Word
  deadline : Nat

def PoolCall.permitUse? : PoolCall → Option (PermitUse Address)
  | supplyWithPermit asset amount _ _ deadline _ | repayWithPermit asset amount _ _ deadline _ =>
      some ⟨asset, amount, deadline.toNat⟩
  | _ => none

namespace ReserveAction

variable {Reserve Quantity : Type}

def permitUse? : ReserveAction Reserve Word → Option (PermitUse Reserve)
  | supplyWithPermit asset amount _ permit | repayWithPermit asset amount _ permit =>
      some ⟨asset, amount, permit.deadline.toNat⟩
  | _ => none

def permit? : ReserveAction Reserve Quantity → Option SignedPermit
  | supplyWithPermit _ _ _ permit | repayWithPermit _ _ _ permit => some permit
  | _ => none

theorem permit?_kind (action : ReserveAction Reserve Quantity) :
    action.kind.permit? = action.permit? := by
  cases action <;> rfl

theorem permitUse?_of_terms? {action : ReserveAction Reserve Word} {terms : Terms Reserve Word}
    {permit : SignedPermit} (agreed : action.terms? = some terms)
    (bears : action.permit? = some permit) :
    action.permitUse? = some ⟨terms.asset, terms.amount, permit.deadline.toNat⟩ := by
  cases action with
  | supplyWithPermit | repayWithPermit =>
      cases agreed
      cases bears
      rfl
  | _ => cases bears

theorem permitUse?_toPoolCall {action : ReserveAction Address Amount}
    {terms : Terms Address Amount} {permit : SignedPermit} (agreed : action.terms? = some terms)
    (bears : action.permit? = some permit) (beneficiary : Address) :
    (action.toPoolCall beneficiary).permitUse? =
      some ⟨terms.asset, terms.amount.value, permit.deadline.toNat⟩ := by
  have small := permit.deadline.toNat_lt
  have kept : (Word.ofNat permit.deadline.toNat).toNat = permit.deadline.toNat :=
    Word.toNat_ofNat_of_lt (by omega)
  cases action with
  | supplyWithPermit | repayWithPermit =>
      cases agreed
      cases bears
      simp only [toPoolCall, PoolCall.permitUse?, kept]
  | _ => cases bears

end ReserveAction

/-- Call data uses a permit in this way. Packed call data names the reserve by its number on the
chain. -/
def Snapshot.UsesPermit (snapshot : Snapshot) (packed : Bool) (data : Bytes)
    (use : PermitUse Address) : Prop :=
  if packed then
    ∃ (call : PackedCall) (id : UInt16), PackedCall.decode data = .ok call ∧
      snapshot.reply (.reserveId use.asset) = .ok id ∧
      call.permitUse? = some { use with asset := id }
  else ∃ call, PoolCall.decode? data = some call ∧ call.permitUse? = some use

/-! ## Requests -/

section

variable {planner : Planner} {snapshot : Snapshot} {intent : Intent} {dealing : Dealing}
  {order : ReserveOrder} {draft : Draft} {Possible : PossibleReplies}

structure PermitMessage.Answers (planner : Planner) (Possible : PossibleReplies)
    (snapshot : Snapshot) (request : PermitRequestIntent) (message : PermitMessage) : Prop where
  owner : planner.resolver.account? snapshot request.user = some message.owner
  token : planner.resolver.account? snapshot request.reserve = some message.token
  spender : planner.contracts.pool = some message.spender
  deadline : message.deadline = request.deadline
  value : ∃ asked amount, Requests request.amount asked ∧
    Yields Possible (convertAmount message.token asked) amount ∧ message.value = amount.value

theorem Planner.answers_of_requestPermit {request : PermitRequestIntent} {message : PermitMessage}
    (possible : ∀ query reply, Possible query reply → snapshot.MayAnswer query reply)
    (signs : Yields Possible (planner.requestPermit request) (.sign message)) :
    message.Answers planner Possible snapshot request := by
  rcases yields_bind_iff.mp signs with ⟨order, orders, signs⟩
  have orders := orders.mono possible
  simp only [PermitRequestIntent.order, yields_bind_iff, yields_check_iff, yields_pure_iff,
    Resolver.yields_validate_iff] at orders
  rcases orders with ⟨user, acts, reserve, named, amount, asks, _, foreign, rfl⟩
  cases pools : planner.contracts.pool with
  | none =>
      rw [pools] at signs
      cases yields_pure_iff.mp signs
  | some pool =>
      rw [pools] at signs
      rcases yields_bind_iff.mp signs with ⟨amount, converts, signs⟩
      rcases yields_bind_iff.mp signs with ⟨nonce, -, signs⟩
      cases nonce with
      | none => cases yields_pure_iff.mp signs
      | some nonce =>
          rcases yields_bind_iff.mp signs with ⟨tokenName, -, signs⟩
          rcases yields_bind_iff.mp signs with ⟨chainId, -, signs⟩
          cases yields_pure_iff.mp signs
          exact ⟨acts, named, pools, rfl, _, amount, asks, converts, rfl⟩

/-! ## Plans -/

theorem Intent.permit?_of_reserveAction? {permit : PermitIntent} {asset : Address}
    {request : AmountRequest} {action : ReserveAction Address AmountRequest}
    (bears : intent.permit? = some permit)
    (acts : intent.reserveAction? asset request = some action) :
    ∃ signed, action.permit? = some signed ∧ signed.deadline = permit.deadline := by
  cases intent with
  | supplyWithPermit intent | repayWithPermit intent =>
      cases bears
      rcases Option.map_eq_some_iff.mp acts with ⟨signed, signs, rfl⟩
      exact ⟨signed, rfl, (Order.of_signedPermit signs).2⟩
  | _ => cases acts <;> cases bears

def Planner.dealingTarget? (planner : Planner) (packed : Bool) : Option Address :=
  if packed then planner.packedPool.map PackedPool.address else planner.contracts.pool

theorem Planner.Drafts.sender_reserve (drafts : planner.Drafts Possible (.reserve order) draft) :
    draft.sender = order.sender := by
  cases drafts <;> rfl

theorem Planner.Drafts.usesPermit {signed : SignedPermit} {typed : Terms Address AmountRequest}
    (plain : dealing.encodedParams = none)
    (ordered : intent.Ordered planner.resolver snapshot dealing order)
    (agreed : order.action.terms? = some typed) (bears : order.action.permit? = some signed)
    (drafts : planner.Drafts snapshot.Answers (.reserve order) draft) :
    ∃ amount, Yields snapshot.Answers (convertAmount typed.asset typed.amount) amount ∧
      snapshot.UsesPermit dealing.packed draft.instruction.data ⟨typed.asset,
        if dealing.packed then rereadAmount order.action.mayBeEntire amount.value
        else amount.value, signed.deadline.toNat⟩ ∧
      planner.dealingTarget? dealing.packed = some draft.target := by
  rcases ordered.route with ⟨given, packs, route⟩
  cases drafts with
  | @direct _ pool action direct pools converts =>
      have typedConverts := ReserveOrder.yields_converted converts
      rcases ReserveAction.terms?_of_yields_convertAmount typedConverts agreed with
        ⟨amount, amounts, converted, -⟩
      have unpacked : dealing.packed = false := by
        rw [← ordered.isPacked_route, direct]
        rfl
      have bears : action.permit? = some signed := by
        rw [← action.permit?_kind, ReserveAction.kind_of_yields_convertAmount typedConverts,
          ReserveAction.permit?_kind, bears]
      refine ⟨amount, amounts, ?_⟩
      rw [unpacked]
      refine ⟨?_, pools⟩
      exact ⟨_, action.decode?_toPoolCall order.beneficiary,
        ReserveAction.permitUse?_toPoolCall converted bears order.beneficiary⟩
  | @packed _ pool action valued preEncoded data routes pools converts values encodes =>
      have typedConverts := ReserveOrder.yields_converted converts
      rcases ReserveAction.terms?_of_yields_convertAmount typedConverts agreed with
        ⟨amount, amounts, converted, entire⟩
      rcases ReserveAction.terms?_of_yields_value values converted with
        ⟨valuedAgreed, valuedEntire⟩
      have packed : dealing.packed = true := by
        rw [← ordered.isPacked_route, routes]
        rfl
      rw [plain] at packs
      cases packs
      rw [packed, routes] at route
      cases route
      rcases yields_bind_iff.mp encodes with ⟨call, renames, encodes⟩
      rcases ReserveAction.terms?_of_yields_renameReserves renames valuedAgreed with
        ⟨id, numbers, renamed, sameEntire⟩
      have bears : call.reread.permit? = some signed := by
        rw [← ReserveAction.permit?_kind, PackedCall.kind_reread,
          ReserveAction.kind_of_yields_renameReserves renames,
          ReserveAction.kind_of_yields_convertAmount values,
          ReserveAction.kind_of_yields_convertAmount typedConverts, ReserveAction.permit?_kind,
          bears]
      refine ⟨amount, amounts, ?_⟩
      rw [packed, if_pos rfl, ← entire, ← valuedEntire, ← sameEntire]
      refine ⟨?_, congrArg (Option.map PackedPool.address) pools⟩
      exact ⟨call.reread, id, PackedCall.decode_encode (yields_check_iff.mp encodes),
        (yields_read_iff.mp numbers).symm,
        ReserveAction.permitUse?_of_terms? (PackedCall.terms?_reread renamed) bears⟩

/-- The permit to sign is for what the call takes, but that the packed route takes one amount for
the whole balance. Its spender is the pool, also where the call goes to the pool for packed
calls. -/
theorem Planner.execute_uses_signed_permit {permit : PermitIntent} {request : PermitRequestIntent}
    {message : PermitMessage} {action : Descriptor} {requestReads reads : List ChainQuery}
    (bears : intent.permit? = some permit) (deals : intent.dealing? = some dealing)
    (plain : dealing.encodedParams = none) (user : request.user = dealing.user)
    (reserve : request.reserve = dealing.reserve) (amount : request.amount = dealing.amount)
    (deadline : request.deadline = permit.deadline)
    (requested : Reading.on snapshot (planner.requestPermit request).run =
      (.ok (.sign message), requestReads))
    (executed : Reading.on snapshot (planner.execute intent).run = (.ok [action], reads)) :
    ∃ pool use value, planner.contracts.pool = some pool ∧
      message.typedData.ShowsPermit action.call.sender use.asset pool value use.deadline ∧
      snapshot.UsesPermit dealing.packed action.call.data use ∧
      (¬ (dealing.packed = true ∧ intent.mayBeEntire = true ∧ value.toNat = 2 ^ 128 - 1) →
        use.amount = value) ∧
      planner.dealingTarget? dealing.packed = some action.call.target := by
  have answers := answers_of_requestPermit (fun _ _ answer _ => answer)
    (course_answers_iff.mpr requested).yields
  rcases exists_draft_of_course (fun _ _ answer _ => answer) (course_answers_iff.mpr executed)
    (List.cons_ne_nil _ _) with ⟨order, draft, finishing, accepted, drafts, finishes⟩
  cases Draft.getLast?_of_course_finish finishes
  cases accepted with
  | @dealing _ other order dealt token ordered =>
      cases dealt.symm.trans deals
      rcases ordered.action with ⟨asset, asked, named, asks, acts⟩
      rcases Intent.terms?_of_reserveAction? acts with ⟨_, _, agreed, entire⟩
      rcases Intent.permit?_of_reserveAction? bears acts with ⟨signed, signs, sameDeadline⟩
      rcases drafts.usesPermit plain ordered agreed signs with ⟨taken, converts, uses, target⟩
      rcases answers.value with ⟨requestAsked, shown, requestAsks, shows, value⟩
      -- the request and the order speak of the same account, token and amount
      have owner := answers.owner
      have token := answers.token
      rw [user, ordered.sender] at owner
      rw [reserve, named] at token
      rw [amount] at requestAsks
      cases Except.ok.inj (requestAsks.symm.trans asks)
      rw [← Option.some.inj token] at shows
      have same : message.value = taken.value := by
        rw [value, shows.unique converts]
      have shown := message.shows
      rw [← Option.some.inj owner, ← Option.some.inj token, same, answers.deadline, deadline,
        ← sameDeadline] at shown
      rw [← drafts.sender_reserve] at shown
      refine ⟨message.spender, ⟨asset, _, signed.deadline.toNat⟩, taken.value, answers.spender,
        shown, uses, ?_, target⟩
      intro exact
      dsimp only
      split
      · rename_i packed
        rw [rereadAmount_eq_iff]
        exact fun largest => exact ⟨packed, entire ▸ largest.1, largest.2⟩
      · rfl
  | nativeSupply | nativeWithdraw | nativeBorrow | nativeRepay => cases bears
  | _ => cases deals

end

/-! ### A permit for two pools -/

namespace Sample

def signing : Snapshot := { market with nonces := [((.ofNat 11, .ofNat 10), 0)] }

def permitRequest : PermitRequestIntent where
  user := "0x000000000000000000000000000000000000000a"
  reserve := "0x000000000000000000000000000000000000000b"
  amount := "1.5"
  deadline := 1800000000

/-- What is to be signed. The spender is the pool. -/
def message : PermitMessage where
  token := .ofNat 11
  tokenName := "Token"
  chainId := 31337
  owner := .ofNat 10
  spender := .ofNat 1
  value := 1500000
  nonce := 0
  deadline := 1800000000

def permittedSupply (packed : Bool) : Intent := .supplyWithPermit {
  user := permitRequest.user
  reserve := permitRequest.reserve
  amount := permitRequest.amount
  permit := { permit "" with value := none }
  useOptimizedPath := packed }

theorem requestsPermit : ∃ reads,
    Reading.on signing (packing.requestPermit permitRequest).run = (.ok (.sign message), reads) := by
  have signs : (Reading.on signing (packing.requestPermit permitRequest).run).1.toOption.map id =
      some (.sign message) := by decide +kernel
  rcases exists_run_of_map signs with ⟨_, reads, run, rfl⟩
  exact ⟨reads, run⟩

theorem sendsPermit (packed : Bool) (target : Address)
    (sends : (Reading.on signing (packing.execute (permittedSupply packed)).run).1.toOption.map
      (List.map fun action => action.call.target) = some [target]) :
    ∃ action reads, Reading.on signing (packing.execute (permittedSupply packed)).run =
      (.ok [action], reads) ∧ action.call.target = target := by
  rcases exists_run_of_map sends with ⟨plan, reads, run, sends⟩
  rcases List.map_eq_singleton_iff.mp sends with ⟨action, rfl, same⟩
  exact ⟨action, reads, run, same⟩

end Sample

theorem Planner.execute_uses_signed_permit_sample :
    ∃ action reads requestReads pool use value,
      Reading.on Sample.signing (Sample.packing.requestPermit Sample.permitRequest).run =
        (.ok (.sign Sample.message), requestReads) ∧
      Reading.on Sample.signing (Sample.packing.execute (Sample.permittedSupply false)).run =
        (.ok [action], reads) ∧
      Sample.message.typedData.ShowsPermit action.call.sender use.asset pool value use.deadline ∧
      Sample.signing.UsesPermit false action.call.data use ∧ use.amount = value ∧
      action.call.target = pool := by
  rcases Sample.requestsPermit with ⟨requestReads, requested⟩
  rcases Sample.sendsPermit false (.ofNat 1) (by decide +kernel) with ⟨action, reads, executed, -⟩
  have bears : (Sample.permittedSupply false).permit? = some _ := rfl
  rcases execute_uses_signed_permit bears rfl rfl rfl rfl rfl rfl requested executed with
    ⟨pool, use, value, pools, shows, uses, amount, target⟩
  have target : Sample.packing.contracts.pool = some action.call.target := target
  exact ⟨action, reads, requestReads, pool, use, value, requested, executed, shows, uses,
    amount nofun, Option.some.inj (target.symm.trans pools)⟩

/-- The permit for a packed supply names the pool as its spender, but the supply is sent to the pool
for packed calls. -/
theorem Planner.signed_permit_spender_differs :
    ∃ action reads requestReads permit dealing,
      (Sample.permittedSupply true).permit? = some permit ∧
      (Sample.permittedSupply true).dealing? = some dealing ∧ dealing.encodedParams = none ∧
      Sample.permitRequest.user = dealing.user ∧
      Sample.permitRequest.reserve = dealing.reserve ∧
      Sample.permitRequest.amount = dealing.amount ∧
      Sample.permitRequest.deadline = permit.deadline ∧
      Reading.on Sample.signing (Sample.packing.requestPermit Sample.permitRequest).run =
        (.ok (.sign Sample.message), requestReads) ∧
      Reading.on Sample.signing (Sample.packing.execute (Sample.permittedSupply true)).run =
        (.ok [action], reads) ∧
      Sample.message.typedData.textWithin? "message" "spender" ≠
        some action.call.target.checksum := by
  rcases Sample.requestsPermit with ⟨requestReads, requested⟩
  rcases Sample.sendsPermit true (.ofNat 2) (by decide +kernel) with
    ⟨action, reads, executed, target⟩
  refine ⟨action, reads, requestReads, _, _, rfl, rfl, rfl, rfl, rfl, rfl, rfl, requested, executed,
    ?_⟩
  rw [Sample.message.shows.spender, target]
  intro same
  have same := Address.checksum_injective (Option.some.inj same)
  exact absurd same (by decide)

end LendingPool
