import LendingPool.Proofs.Plan.Dealings
import LendingPool.Proofs.Plan.Shape
/-! The two encodings of a dealing. Both plans come from orders for the same action, and what their
call data says is the action's terms, but for one amount that packed call data cannot tell from
the whole balance. -/

namespace LendingPool

open Planning

/-! ## Numbers of reserves -/

namespace Snapshot

variable {snapshot : Snapshot}

def ReservesDistinct (snapshot : Snapshot) : Prop :=
  ∀ first second id, latest? first snapshot.reserves = some id →
    latest? second snapshot.reserves = some id → first = second

def reserveOf? (snapshot : Snapshot) (id : UInt16) : Option Address :=
  (snapshot.reserves.map Prod.fst).find? fun asset => latest? asset snapshot.reserves = some id

theorem mem_of_latest? {κ α : Type} [BEq κ] [LawfulBEq κ] {key : κ} {entries : List (κ × α)}
    {value : α} (found : latest? key entries = some value) : (key, value) ∈ entries := by
  rcases List.lookup_eq_some_iff.mp found with ⟨before, after, split, -⟩
  rw [← List.mem_reverse, split]
  exact List.mem_append_right _ (List.mem_cons_self ..)

theorem latest?_of_answers {asset : Address} {id : UInt16}
    (answer : snapshot.Answers (.reserveId asset) (.ok id)) :
    latest? asset snapshot.reserves = some id := by
  have answer : snapshot.reply (.reserveId asset) = .ok id := answer.symm
  rw [reply] at answer
  split at answer
  · cases answer
  · rw [find] at answer
    split at answer <;> cases answer
    assumption

theorem reserveOf?_eq_some {asset : Address} {id : UInt16} (distinct : snapshot.ReservesDistinct)
    (numbered : latest? asset snapshot.reserves = some id) :
    snapshot.reserveOf? id = some asset := by
  have member : asset ∈ snapshot.reserves.map Prod.fst :=
    List.mem_map_of_mem (mem_of_latest? numbered)
  cases found : snapshot.reserveOf? id with
  | none =>
      have missing := List.find?_eq_none.mp found asset member
      exact absurd (decide_eq_true numbered) missing
  | some other =>
      have same := List.find?_some found
      rw [distinct other asset id (of_decide_eq_true same) numbered]

end Snapshot

/-! ## Plans of dealings -/

section

variable {planner : Planner} {snapshot : Snapshot} {intent : Intent} {dealing : Dealing}
  {Possible : PossibleReplies} {order : ReserveOrder} {draft : Draft}

theorem Planner.ordered_of_execute {plan : List Descriptor} {reads : List ChainQuery}
    (deals : intent.dealing? = some dealing)
    (token : planner.resolver.account? snapshot dealing.reserve ≠ some nativeCurrency)
    (executed : Reading.on snapshot (planner.execute intent).run = (.ok plan, reads))
    (nonempty : plan ≠ []) :
    ∃ order draft asked, intent.Ordered planner.resolver snapshot dealing order ∧
      Yields snapshot.Answers (planner.draftReserve order) (some draft) ∧
      Course snapshot.Answers draft.finish asked plan := by
  have course := course_answers_iff.mpr executed
  rcases (course_execute_iff nonempty).mp course with
    ⟨draft, before, after, -, drafts, finishes⟩
  rcases yields_bind_iff.mp drafts.yields with ⟨order, orders, drafts⟩
  rcases Intent.ordered orders.mayAnswer deals token with ⟨result, rfl, ordered⟩
  exact ⟨result, draft, after, ordered, drafts, finishes⟩

/-- The terms that an order comes to, with its amount in base units. -/
def ReserveOrder.Settles (Possible : PossibleReplies) (order : ReserveOrder)
    (terms : Terms Address Amount) : Prop :=
  ∃ action, Yields Possible order.converted action ∧ action.terms? = some terms

theorem ReserveOrder.Settles.unique {other : ReserveOrder} {left right : Terms Address Amount}
    (settles : order.Settles snapshot.Answers left)
    (otherSettles : other.Settles snapshot.Answers right) (action : other.action = order.action)
    (declaredAmount : other.declaredAmount = order.declaredAmount) : right = left := by
  rcases settles with ⟨converted, converts, agreed⟩
  rcases otherSettles with ⟨otherConverted, otherConverts, otherAgreed⟩
  have same : other.converted = order.converted := by
    rw [ReserveOrder.converted, ReserveOrder.converted, action, declaredAmount]
  rw [same] at otherConverts
  rw [otherConverts.unique converts, agreed] at otherAgreed
  exact Option.some.inj otherAgreed.symm

theorem Planner.decode_of_direct {typed : Terms Address AmountRequest}
    (direct : order.route = .direct) (agreed : order.action.terms? = some typed)
    (drafts : Yields Possible (planner.draftReserve order) (some draft)) :
    ∃ terms, order.Settles Possible terms ∧
      PoolCall.decodeLogical draft.action.call.data =
        .ok ⟨terms.asset, terms.amount.value, terms.rateMode, terms.referralCode,
          order.beneficiary⟩ := by
  rcases of_draftReserve_direct direct drafts with ⟨pool, action, -, converts, rfl⟩
  rcases ReserveAction.terms?_of_yields_convertAmount (ReserveOrder.yields_converted converts)
    agreed with ⟨amount, -, agreed, -⟩
  exact ⟨_, ⟨action, converts, agreed⟩,
    ReserveAction.decodeLogical_toPoolCall agreed order.beneficiary⟩

theorem PackedPool.decode_callData {action : ReserveAction Address Word}
    {terms : Terms Address Word} {data : Bytes}
    (encodes : Yields snapshot.Answers (callData action none) data)
    (agreed : action.terms? = some terms) (distinct : snapshot.ReservesDistinct)
    (sender : Address) :
    ∃ call : PackedCall, PackedCall.decode data = .ok call ∧
      call.logical sender snapshot.reserveOf? =
        .ok ⟨terms.asset, rereadAmount action.mayBeEntire terms.amount, terms.rateMode,
          terms.referralCode, sender⟩ := by
  rcases yields_bind_iff.mp encodes with ⟨call, renames, encodes⟩
  have encodes := yields_check_iff.mp encodes
  rcases ReserveAction.terms?_of_yields_renameReserves renames agreed with
    ⟨id, numbers, renamed, entire⟩
  have numbered := Snapshot.latest?_of_answers (yields_read_iff.mp numbers)
  have named := Snapshot.reserveOf?_eq_some distinct numbered
  refine ⟨call.reread, PackedCall.decode_encode encodes, ?_⟩
  rw [← entire]
  exact PackedCall.logical_of_terms? (PackedCall.terms?_reread renamed) sender named

theorem Planner.decode_of_packed {typed : Terms Address AmountRequest}
    (packed : order.route = .packed none) (agreed : order.action.terms? = some typed)
    (distinct : snapshot.ReservesDistinct)
    (drafts : Yields snapshot.Answers (planner.draftReserve order) (some draft)) :
    draft.gate = none ∧ ∃ terms call, order.Settles snapshot.Answers terms ∧
      PackedCall.decode draft.action.call.data = .ok call ∧
      call.logical order.sender snapshot.reserveOf? =
        .ok ⟨terms.asset, rereadAmount order.action.mayBeEntire terms.amount.value, terms.rateMode,
          terms.referralCode, order.sender⟩ := by
  rcases of_draftReserve_packed packed drafts with
    ⟨pool, action, valued, data, -, converts, values, encodes, rfl⟩
  rcases ReserveAction.terms?_of_yields_convertAmount (ReserveOrder.yields_converted converts)
    agreed with ⟨amount, -, agreed, entire⟩
  rcases ReserveAction.terms?_of_yields_value values agreed with ⟨valuedAgreed, valuedEntire⟩
  rcases PackedPool.decode_callData encodes valuedAgreed distinct order.sender with
    ⟨call, decodes, means⟩
  rw [valuedEntire, entire] at means
  exact ⟨rfl, _, call, ⟨action, converts, agreed⟩, decodes, means⟩

theorem rereadAmount_eq_iff {mayBeEntire : Bool} {amount : Word} :
    rereadAmount mayBeEntire amount = amount ↔
      ¬ (mayBeEntire = true ∧ amount.toNat = 2 ^ 128 - 1) := by
  rw [rereadAmount]
  split
  · rename_i narrow
    constructor
    · intro largest
      rw [← largest] at narrow
      exact absurd narrow.2 (by decide)
    · intro other
      exact absurd narrow other
  · exact iff_of_true rfl ‹_›

def logicalOf? (plan : List Descriptor) : Option LogicalCall := do
  let action ← plan.getLast?
  (PoolCall.decodeLogical action.call.data).toOption

def packedLogicalOf? (snapshot : Snapshot) (sender : Address) :
    List Descriptor → Option LogicalCall
  | [action] => do
      let call ← (PackedCall.decode action.call.data).toOption
      (call.logical sender snapshot.reserveOf?).toOption
  | _ => none

theorem Planner.execute_encodings_agree_iff {standard packed : List Descriptor}
    {reads packedReads : List ChainQuery} (deals : intent.dealing? = some dealing)
    (plain : dealing.encodedParams = none)
    (token : planner.resolver.account? snapshot dealing.reserve ≠ some nativeCurrency)
    (distinct : snapshot.ReservesDistinct)
    (executed : Reading.on snapshot (planner.execute (intent.optimized false)).run =
      (.ok standard, reads))
    (nonempty : standard ≠ [])
    (packedExecuted : Reading.on snapshot (planner.execute (intent.optimized true)).run =
      (.ok packed, packedReads))
    (packedNonempty : packed ≠ []) :
    ∃ sender told packedTold,
      planner.resolver.account? snapshot dealing.user = some sender ∧
      logicalOf? standard = some told ∧
      packedLogicalOf? snapshot sender packed = some packedTold ∧
      packedTold = { told with amount := packedTold.amount } ∧
      (packedTold = told ↔ ¬ (intent.mayBeEntire = true ∧ told.amount.toNat = 2 ^ 128 - 1)) := by
  have either (packed : Bool) :
      (intent.optimized packed).dealing? = some { dealing with packed } := by
    rw [Intent.dealing?_optimized, deals]
    rfl
  rcases ordered_of_execute (either false) token executed nonempty with
    ⟨order, draft, asked, ordered, drafts, finishes⟩
  rcases ordered_of_execute (either true) token packedExecuted packedNonempty with
    ⟨packedOrder, packedDraft, packedAsked, packedOrdered, packedDrafts, packedFinishes⟩
  rcases ordered.route with ⟨_, -, direct⟩
  rcases packedOrdered.route with ⟨preEncoded, packs, routes⟩
  rw [plain] at packs
  cases packs
  rcases ordered.terms with ⟨typed, agreed, entire⟩
  rcases packedOrdered.terms with ⟨packedTyped, packedAgreed, packedEntire⟩
  rw [Intent.mayBeEntire_optimized] at packedEntire
  rcases decode_of_direct direct agreed drafts with ⟨terms, settles, means⟩
  rcases decode_of_packed routes packedAgreed distinct packedDrafts with
    ⟨ungated, packedTerms, call, packedSettles, decodes, packedMeans⟩
  -- both orders come to the same terms, and a packed call is for its sender
  rcases ordered.agree packedOrdered with ⟨sender, beneficiary, action, declaredAmount⟩
  rw [settles.unique packedSettles action declaredAmount, packedEntire, sender] at packedMeans
  rw [← beneficiary, ← packedOrdered.alone rfl, sender] at means
  have last := Draft.getLast?_of_course_finish finishes
  have only := ((Draft.course_finish_iff_of_none ungated).mp packedFinishes).2
  have told : logicalOf? standard = (PoolCall.decodeLogical draft.action.call.data).toOption := by
    rw [logicalOf?, last]
    rfl
  have packedTold : packedLogicalOf? snapshot order.sender packed =
      (call.logical order.sender snapshot.reserveOf?).toOption := by
    rw [only, packedLogicalOf?, decodes]
    rfl
  rw [means] at told
  rw [packedMeans] at packedTold
  refine ⟨order.sender, _, _, ordered.sender, told, packedTold, rfl, ?_⟩
  rw [LogicalCall.mk.injEq]
  simp only [and_true, true_and]
  exact rereadAmount_eq_iff

end

/-! ### Withdrawals by either route -/

namespace Sample

def packing : Planner := { planner with packedPool := some ⟨.ofNat 2, fun _ => 0⟩ }

def market : Snapshot where
  tokens := [(.ofNat 11, ⟨"Token", 6⟩)]
  reserves := [(.ofNat 11, 3)]

def withdrawal (amount : String) : Intent := .withdraw {
  user := "0x000000000000000000000000000000000000000a"
  reserve := "0x000000000000000000000000000000000000000b"
  amount }

/-- As many base units as a packed call has room for, `2^128 - 1`. -/
def largest : String := "340282366920938463463374607431768.211455"

theorem market_distinct : market.ReservesDistinct := by
  intro first second id numbered otherNumbered
  have one := List.mem_singleton.mp (Snapshot.mem_of_latest? numbered)
  have other := List.mem_singleton.mp (Snapshot.mem_of_latest? otherNumbered)
  rw [(Prod.mk.inj one).1, (Prod.mk.inj other).1]

theorem exists_plan (intent : Intent) (tell? : List Descriptor → Option LogicalCall)
    (silent : tell? [] = none) (told : LogicalCall)
    (tells : (Reading.on market (packing.execute intent).run).1.toOption.map tell? =
      some (some told)) :
    ∃ plan reads, Reading.on market (packing.execute intent).run = (.ok plan, reads) ∧
      plan ≠ [] ∧ tell? plan = some told := by
  rcases exists_run_of_map tells with ⟨plan, reads, run, tells⟩
  refine ⟨plan, reads, run, fun empty => ?_, tells⟩
  rw [empty] at tells
  cases silent.symm.trans tells

end Sample

theorem Planner.execute_encodings_sample :
    ∃ standard packed reads packedReads sender told packedTold,
      Reading.on Sample.market
        (Sample.packing.execute ((Sample.withdrawal "-1").optimized false)).run =
          (.ok standard, reads) ∧
      Reading.on Sample.market
        (Sample.packing.execute ((Sample.withdrawal "-1").optimized true)).run =
          (.ok packed, packedReads) ∧
      Sample.packing.resolver.account? Sample.market
        "0x000000000000000000000000000000000000000a" = some sender ∧
      logicalOf? standard = some told ∧
      packedLogicalOf? Sample.market sender packed = some packedTold ∧
      packedTold = { told with amount := packedTold.amount } ∧
      (packedTold = told ↔
        ¬ ((Sample.withdrawal "-1").mayBeEntire = true ∧ told.amount.toNat = 2 ^ 128 - 1)) := by
  have token : Sample.packing.resolver.account? Sample.market
      "0x000000000000000000000000000000000000000b" ≠ some nativeCurrency := by decide +kernel
  rcases Sample.exists_plan ((Sample.withdrawal "-1").optimized false) logicalOf? rfl
    ⟨.ofNat 11, Word.max, 0, 0, .ofNat 10⟩ (by decide +kernel) with
    ⟨standard, reads, executed, nonempty, -⟩
  rcases Sample.exists_plan ((Sample.withdrawal "-1").optimized true)
    (packedLogicalOf? Sample.market (.ofNat 10)) rfl
    ⟨.ofNat 11, Word.max, 0, 0, .ofNat 10⟩ (by decide +kernel) with
    ⟨packed, packedReads, packedExecuted, packedNonempty, -⟩
  have deals : (Sample.withdrawal "-1").dealing? = some _ := rfl
  rcases execute_encodings_agree_iff deals rfl token Sample.market_distinct executed
    nonempty packedExecuted packedNonempty with ⟨sender, told, packedTold, conclusion⟩
  exact ⟨standard, packed, reads, packedReads, sender, told, packedTold, executed, packedExecuted,
    conclusion⟩

/-- The largest amount that a packed call has room for is withdrawn as it is by the standard route,
and as the whole balance by the packed one. -/
theorem Planner.encodings_disagree_on_largest :
    ∃ dealing standard packed reads packedReads sender told packedTold,
      (Sample.withdrawal Sample.largest).dealing? = some dealing ∧
      dealing.encodedParams = none ∧
      Sample.packing.resolver.account? Sample.market dealing.reserve ≠ some nativeCurrency ∧
      Sample.market.ReservesDistinct ∧
      Reading.on Sample.market
        (Sample.packing.execute ((Sample.withdrawal Sample.largest).optimized false)).run =
          (.ok standard, reads) ∧
      standard ≠ [] ∧
      Reading.on Sample.market
        (Sample.packing.execute ((Sample.withdrawal Sample.largest).optimized true)).run =
          (.ok packed, packedReads) ∧
      packed ≠ [] ∧
      Sample.packing.resolver.account? Sample.market dealing.user = some sender ∧
      logicalOf? standard = some told ∧
      packedLogicalOf? Sample.market sender packed = some packedTold ∧
      told.amount.toNat = 2 ^ 128 - 1 ∧ packedTold.amount.toNat = 2 ^ 256 - 1 ∧
      packedTold ≠ told := by
  have token : Sample.packing.resolver.account? Sample.market
      "0x000000000000000000000000000000000000000b" ≠ some nativeCurrency := by decide +kernel
  have sender : Sample.packing.resolver.account? Sample.market
      "0x000000000000000000000000000000000000000a" = some (.ofNat 10) := by decide +kernel
  rcases Sample.exists_plan ((Sample.withdrawal Sample.largest).optimized false) logicalOf? rfl
    ⟨.ofNat 11, Word.ofNat (2 ^ 128 - 1), 0, 0, .ofNat 10⟩ (by decide +kernel) with
    ⟨standard, reads, executed, nonempty, told⟩
  rcases Sample.exists_plan ((Sample.withdrawal Sample.largest).optimized true)
    (packedLogicalOf? Sample.market (.ofNat 10)) rfl
    ⟨.ofNat 11, Word.max, 0, 0, .ofNat 10⟩ (by decide +kernel) with
    ⟨packed, packedReads, packedExecuted, packedNonempty, packedTold⟩
  exact ⟨_, standard, packed, reads, packedReads, .ofNat 10, _, _, rfl, rfl, token,
    Sample.market_distinct, executed, nonempty, packedExecuted, packedNonempty, sender, told,
    packedTold, by decide, by decide, by decide⟩

end LendingPool
