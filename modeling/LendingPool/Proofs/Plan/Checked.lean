import Mathlib.Data.List.Forall2
import LendingPool.Proofs.Plan.Outline
/-! From intents to orders. An order that an intent gives has the intent's outline, with every
text replaced by what it stands for. -/

namespace LendingPool

/-! ## Amounts -/

theorem DecimalAmount.parse_entireBalanceLiteral (amount : DecimalAmount) :
    parse entireBalanceLiteral ≠ .ok amount := by
  have refused : (parse entireBalanceLiteral).isOk = false := by rfl
  intro parsed
  rw [parsed] at refused
  cases refused

def Requests (text : String) (request : AmountRequest) : Prop :=
  AmountRequest.parse text .positiveOrEntire = .ok request

theorem requests_value_iff {text : String} {amount : DecimalAmount} :
    Requests text (.value amount) ↔ DecimalAmount.parse text = .ok amount := by
  rw [Requests, AmountRequest.parse]
  split
  · rename_i equal
    constructor
    · nofun
    · intro parsed
      rw [equal] at parsed
      exact absurd parsed (DecimalAmount.parse_entireBalanceLiteral amount)
  · cases DecimalAmount.parse text <;> simp [Functor.map, Except.map]

theorem requests_entireBalance_iff {text : String} :
    Requests text .entireBalance ↔ text = entireBalanceLiteral := by
  rw [Requests, AmountRequest.parse]
  split
  · simp [*]
  · cases DecimalAmount.parse text <;> simp [Functor.map, Except.map, *]

theorem Requests.entire_iff {text : String} {request : AmountRequest}
    (requests : Requests text request) :
    text = entireBalanceLiteral ↔ request = .entireBalance := by
  cases request with
  | entireBalance => simp [requests_entireBalance_iff.mp requests]
  | value amount =>
      have parsed := requests_value_iff.mp requests
      constructor
      · intro equal
        rw [equal] at parsed
        exact absurd parsed (DecimalAmount.parse_entireBalanceLiteral amount)
      · nofun

/-! ## Outlines -/

section Outlines

variable {resolver : Resolver} {snapshot : Snapshot}

def Leg.Checked (resolver : Resolver) (snapshot : Snapshot) (typed : Leg String String)
    (checked : Leg Address AmountRequest) : Prop :=
  typed.role = checked.role ∧
    Option.Rel (fun text address => resolver.account? snapshot text = some address)
      typed.token checked.token ∧
    Requests typed.quantity checked.quantity ∧ typed.enlarged = checked.enlarged

structure Pull.Checked (resolver : Resolver) (snapshot : Snapshot) (typed : Pull String String)
    (checked : Pull Address AmountRequest) : Prop where
  token : resolver.account? snapshot typed.token = some checked.token
  role : typed.role = checked.role
  quantity : Requests typed.quantity checked.quantity
  policy : typed.policy = checked.policy
  premium : typed.premium = checked.premium
  delegated : typed.delegated = checked.delegated

structure Outline.Checked (resolver : Resolver) (snapshot : Snapshot)
    (typed : Outline String String) (checked : Outline Address AmountRequest) : Prop where
  path : typed.path = checked.path
  actor : resolver.account? snapshot typed.actor = some checked.actor
  legs : List.Forall₂ (Leg.Checked resolver snapshot) typed.legs checked.legs
  pull? : Option.Rel (Pull.Checked resolver snapshot) typed.pull? checked.pull?

namespace Outline

variable {typedActor typed : String} {actor : Address} {request : AmountRequest}

theorem reserve_checked (packed : Bool) (approval : Option ApprovalPolicy)
    {typedAmount? : Option (String × String)} {amount? : Option (Address × AmountRequest)}
    (acts : resolver.account? snapshot typedActor = some actor)
    (asks : Option.Rel (fun typed checked => resolver.account? snapshot typed.1 = some checked.1 ∧
      Requests typed.2 checked.2) typedAmount? amount?) :
    (reserve packed typedActor typedAmount? approval).Checked resolver snapshot
      (reserve packed actor amount? approval) := by
  cases packed with
  | true => exact ⟨rfl, acts, .nil, .none⟩
  | false =>
      cases asks with
      | none => exact ⟨rfl, acts, .nil, by cases approval <;> exact .none⟩
      | some asks =>
          refine ⟨rfl, acts, .cons ⟨rfl, .some asks.1, asks.2, rfl⟩ .nil, ?_⟩
          cases approval with
          | none => exact .none
          | some policy => exact .some ⟨asks.1, rfl, asks.2, rfl, rfl, rfl⟩

theorem nativeSupply_checked (acts : resolver.account? snapshot typedActor = some actor)
    (asks : Requests typed request) :
    (nativeSupply typedActor typed).Checked resolver snapshot (nativeSupply actor request) :=
  ⟨rfl, acts, .cons ⟨rfl, .none, asks, rfl⟩ .nil, .none⟩

theorem nativeWithdraw_checked {typedToken : String} {token : Address}
    (acts : resolver.account? snapshot typedActor = some actor) (asks : Requests typed request)
    (named : resolver.account? snapshot typedToken = some token) :
    (nativeWithdraw typedActor typed (some typedToken)).Checked resolver snapshot
      (nativeWithdraw actor request (some token)) :=
  ⟨rfl, acts, .cons ⟨rfl, .none, asks, rfl⟩ .nil, .some ⟨named, rfl, asks, rfl, rfl, rfl⟩⟩

theorem nativeBorrow_checked {typedToken : String} {token : Address}
    (acts : resolver.account? snapshot typedActor = some actor) (asks : Requests typed request)
    (named : resolver.account? snapshot typedToken = some token) :
    (nativeBorrow typedActor typed (some typedToken)).Checked resolver snapshot
      (nativeBorrow actor request (some token)) :=
  ⟨rfl, acts, .cons ⟨rfl, .none, asks, rfl⟩ .nil, .some ⟨named, rfl, asks, rfl, rfl, rfl⟩⟩

theorem nativeRepay_checked (acts : resolver.account? snapshot typedActor = some actor)
    (asks : Requests typed request) :
    (nativeRepay typedActor typed).Checked resolver snapshot (nativeRepay actor request) :=
  ⟨rfl, acts, .cons ⟨rfl, .none, asks, rfl⟩ (.cons ⟨rfl, .none, asks, rfl⟩ .nil), .none⟩

theorem adapter_checked (path : Path) (role : AmountRole) (flash enlarged permitted : Bool)
    (policy : ApprovalPolicy) {typedFrom typedAToken typedTo typedOther : String}
    {fromAsset fromAToken toAsset : Address} {other : AmountRequest}
    (acts : resolver.account? snapshot typedActor = some actor)
    (sells : resolver.account? snapshot typedFrom = some fromAsset)
    (takes : resolver.account? snapshot typedAToken = some fromAToken)
    (asks : Requests typed request)
    (buys : resolver.account? snapshot typedTo = some toAsset)
    (brings : Requests typedOther other) :
    (adapter path typedActor flash enlarged typedFrom typedAToken typed
      { role, token := typedTo, quantity := typedOther } permitted policy).Checked resolver
      snapshot
      (adapter path actor flash enlarged fromAsset fromAToken request
        { role, token := toAsset, quantity := other } permitted policy) := by
  refine ⟨rfl, acts, .cons ⟨rfl, .some sells, asks, rfl⟩
    (.cons ⟨rfl, .some buys, brings, rfl⟩ .nil), ?_⟩
  cases permitted with
  | true => exact .none
  | false => exact .some ⟨takes, rfl, asks, rfl, rfl, rfl⟩

theorem flashLiquidation_checked (wholeDebt : Bool) {typedDebt : String} {debt : Address}
    (acts : resolver.account? snapshot typedActor = some actor)
    (lends : resolver.account? snapshot typedDebt = some debt) (asks : Requests typed request) :
    (flashLiquidation typedActor typedDebt typed entireBalanceLiteral wholeDebt).Checked resolver
      snapshot (flashLiquidation actor debt request .entireBalance wholeDebt) := by
  have covers : Requests (if wholeDebt then entireBalanceLiteral else typed)
      (if wholeDebt then .entireBalance else request) := by
    cases wholeDebt with
    | true => exact requests_entireBalance_iff.mpr rfl
    | false => exact asks
  exact ⟨rfl, acts, .cons ⟨rfl, .some lends, asks, rfl⟩
    (.cons ⟨rfl, .some lends, covers, rfl⟩ .nil), .none⟩

end Outline

/-! ## Checks -/

theorem ReserveOrder.routed_eq_ok_iff {order : ReserveOrder} {packed : Bool}
    {preEncoded : Option Word} {routed : Order} :
    order.routed packed preEncoded = .ok routed ↔
      (packed = true → order.sender = order.beneficiary) ∧
        .reserve { order with route := if packed then .packed preEncoded else order.route } =
          routed := by
  cases packed with
  | false => simp [ReserveOrder.routed, pure, Except.pure]
  | true =>
      by_cases equal : order.sender = order.beneficiary <;>
        simp [ReserveOrder.routed, Order.requireSelf, equal, bind, Except.bind, pure, Except.pure]

theorem Order.nativeField_eq_ok_iff {name text : String} {value : Option String} :
    Order.nativeField name value = .ok text ↔ value = some text := by
  cases value <;> simp [Order.nativeField]

theorem Order.isSome_of_signedPermits {permit : Option PermitIntent}
    {signed : Option SignedPermit} (signs : permit.mapM Order.signedPermit = .ok signed) :
    permit.isSome = signed.isSome := by
  cases permit with
  | none =>
      cases signs
      rfl
  | some permit =>
      rw [Option.mapM_some] at signs
      cases checked : Order.signedPermit permit <;> rw [checked] at signs <;> cases signs
      rfl

end Outlines

end LendingPool
