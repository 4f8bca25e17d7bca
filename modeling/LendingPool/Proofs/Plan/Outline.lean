import LendingPool.Planner
import LendingPool.Proofs.Chain.Accounts
/-! Outlines: who acts, which amounts go into the call in which tokens, and what has to be granted
first.

Callers name tokens and amounts by texts, orders by addresses and requests. The outline is the
same at both stages, so that each stage can be compared with the next. -/

namespace LendingPool

inductive AmountRole
  /-- The amount of a call of the pool or the gateway. -/
  | amount
  /-- The native currency that goes with the call. -/
  | attached
  /-- What a flash loan lends. -/
  | loan
  /-- The collateral that an adapter sells without a loan. -/
  | sold
  /-- The least that a swap has to bring. -/
  | received
  /-- The debt that an adapter pays. -/
  | repaid
  /-- The debt that a liquidation by flash loan covers. -/
  | covered
deriving DecidableEq, Repr

/-- An amount of a token, or of native currency where no token is named. Some amounts are enlarged
by the surplus. -/
structure Leg (Token Quantity : Type) where
  role : AmountRole
  token : Option Token
  quantity : Quantity
  enlarged : Bool := false

/-- What the contract that carries out the action takes from the sender: the amount in a certain
role, with the premium of a loan if there is one. -/
structure Pull (Token Quantity : Type) where
  token : Token
  role : AmountRole
  quantity : Quantity
  policy : ApprovalPolicy := .exact
  premium : Bool := false
  delegated : Bool := false

inductive Path
  | standard
  | packed
  | native
  | swapAdapter
  | repayAdapter
  | flashLiquidation
deriving DecidableEq, Repr

structure Outline (Token Quantity : Type) where
  path : Path
  actor : Token
  legs : List (Leg Token Quantity) := []
  pull? : Option (Pull Token Quantity) := none

/-! ## Outlines at either stage -/

namespace Outline

variable {Token Quantity : Type}

/-- An action on a reserve. Packed calls are not told in amounts of tokens. -/
def reserve (packed : Bool) (actor : Token) (amount? : Option (Token × Quantity))
    (approval : Option ApprovalPolicy) : Outline Token Quantity :=
  if packed then { path := .packed, actor }
  else {
    path := .standard, actor
    legs := amount?.toList.map fun (token, quantity) => { role := .amount, token, quantity }
    pull? := do
      let policy ← approval
      let (token, quantity) ← amount?
      return { token, role := .amount, quantity, policy } }

theorem actor_reserve (packed : Bool) (actor : Token) (amount? : Option (Token × Quantity))
    (approval : Option ApprovalPolicy) : (reserve packed actor amount? approval).actor = actor := by
  cases packed <;> rfl

theorem path_reserve_ne_native {packed : Bool} {actor : Token}
    {amount? : Option (Token × Quantity)} {approval : Option ApprovalPolicy} :
    (reserve packed actor amount? approval).path ≠ .native := by
  cases packed <;> nofun

def nativeSupply (actor : Token) (quantity : Quantity) : Outline Token Quantity where
  path := .native
  actor := actor
  legs := [{ role := .attached, token := none, quantity }]

def nativeWithdraw (actor : Token) (quantity : Quantity) (aToken : Option Token) :
    Outline Token Quantity where
  path := .native
  actor := actor
  legs := [{ role := .amount, token := none, quantity }]
  pull? := aToken.map fun token => { token, role := .amount, quantity }

def nativeBorrow (actor : Token) (quantity : Quantity) (debtToken : Option Token) :
    Outline Token Quantity where
  path := .native
  actor := actor
  legs := [{ role := .amount, token := none, quantity }]
  pull? := debtToken.map fun token => { token, role := .amount, quantity, delegated := true }

def nativeRepay (actor : Token) (quantity : Quantity) : Outline Token Quantity where
  path := .native
  actor := actor
  legs := [{ role := .amount, token := none, quantity },
    { role := .attached, token := none, quantity }]

/-- Collateral sold by an adapter, lent to it by the pool if `flash`. A permit stands in for the
allowance. -/
def adapter (path : Path) (actor : Token) (flash enlarged : Bool)
    (fromAsset fromAToken : Token) (sold : Quantity) (other : Leg Token Quantity)
    (permitted : Bool) (policy : ApprovalPolicy) : Outline Token Quantity where
  path := path
  actor := actor
  legs := [{ role := if flash then .loan else .sold, token := fromAsset, quantity := sold
             enlarged := flash && enlarged }, other]
  pull? :=
    if permitted then none
    else some {
      token := fromAToken, role := if flash then .loan else .sold, quantity := sold, policy
      premium := flash }

/-- A liquidation paid for by a loan. To cover the whole debt is a request of its own. -/
def flashLiquidation (actor debt : Token) (quantity entire : Quantity) (wholeDebt : Bool) :
    Outline Token Quantity where
  path := .flashLiquidation
  actor := actor
  legs := [{ role := .loan, token := debt, quantity, enlarged := wholeDebt },
    { role := .covered, token := debt, quantity := if wholeDebt then entire else quantity }]

end Outline

/-! ## Orders -/

def Route.isPacked : Route → Bool
  | direct => false
  | packed _ => true

namespace Order

def nativeOutline (sender : Address) : NativeAction → Outline Address AmountRequest
  | .supply amount .. => .nativeSupply sender (.value amount)
  | .withdraw amount _ aToken => .nativeWithdraw sender amount aToken
  | .borrow amount _ _ debtToken => .nativeBorrow sender (.value amount) debtToken
  | .repay amount .. => .nativeRepay sender (.value amount)

def adapterOutline (order : AdapterOrder) : Outline Address AmountRequest :=
  match order.task with
  | .swap =>
      .adapter .swapAdapter order.sender order.flash true order.fromAsset order.fromAToken
        (.value order.amount)
        { role := .received, token := order.toAsset, quantity := .value order.otherAmount }
        order.permit.isSome order.approval
  | .repay _ wholeDebt =>
      .adapter .repayAdapter order.sender order.flash wholeDebt order.fromAsset order.fromAToken
        (.value order.amount)
        { role := .repaid, token := order.toAsset, quantity := .value order.otherAmount }
        order.permit.isSome order.approval

def outline : Order → Outline Address AmountRequest
  | reserve order =>
      .reserve order.route.isPacked order.sender order.action.amount? order.approval
  | native sender action => nativeOutline sender action
  | adapter order => adapterOutline order
  | flashLiquidation order =>
      .flashLiquidation order.initiator order.debt (.value order.amount) .entireBalance
        order.wholeDebt
  | setUserEMode sender _ => .reserve false sender none none

end Order

/-! ## Intents -/

namespace Intent

def gatewayReserve? : Intent → Option String
  | supply intent => some intent.reserve
  | withdraw intent => some intent.reserve
  | borrow intent => some intent.reserve
  | repay intent => some intent.reserve
  | _ => none

def isNative (resolver : Resolver) (snapshot : Snapshot) (intent : Intent) : Bool :=
  intent.gatewayReserve?.bind (resolver.account? snapshot) == some nativeCurrency

/-- The outline of an intent, which depends on whether its reserve is the native currency. -/
def outline (isNative : Bool) : Intent → Outline String String
  | supply intent =>
      if isNative then .nativeSupply intent.user intent.amount
      else .reserve intent.useOptimizedPath intent.user (some (intent.reserve, intent.amount))
        (some intent.approval)
  | supplyWithPermit intent =>
      .reserve intent.useOptimizedPath intent.user (some (intent.reserve, intent.amount)) none
  | withdraw intent =>
      if isNative then .nativeWithdraw intent.user intent.amount intent.aToken
      else .reserve intent.useOptimizedPath intent.user (some (intent.reserve, intent.amount)) none
  | borrow intent =>
      if isNative then .nativeBorrow intent.user intent.amount intent.debtToken
      else .reserve intent.useOptimizedPath intent.user (some (intent.reserve, intent.amount)) none
  | repay intent =>
      if isNative then .nativeRepay intent.user intent.amount
      else .reserve intent.useOptimizedPath intent.user (some (intent.reserve, intent.amount))
        (some intent.approval)
  | repayWithPermit intent =>
      .reserve intent.useOptimizedPath intent.user (some (intent.reserve, intent.amount)) none
  | swapCollateral intent =>
      .adapter .swapAdapter intent.user intent.flash true intent.fromAsset intent.fromAToken
        intent.fromAmount
        { role := .received, token := intent.toAsset, quantity := intent.minToAmount }
        intent.permit.isSome intent.approval
  | repayWithCollateral intent =>
      .adapter .repayAdapter intent.user intent.flash intent.repayAllDebt intent.fromAsset
        intent.fromAToken intent.repayWithAmount
        { role := .repaid, token := intent.assetToRepay, quantity := intent.repayAmount }
        intent.permit.isSome intent.approval
  | liquidationCall intent =>
      .reserve intent.useOptimizedPath intent.liquidator
        (some (intent.debtReserve, intent.debtToCover)) (some intent.approval)
  | flashLiquidation intent =>
      .flashLiquidation intent.initiator intent.borrowedReserve intent.debtToCover
        entireBalanceLiteral intent.liquidateAll
  | setUsageAsCollateral intent => .reserve intent.useOptimizedPath intent.user none none
  | setUserEMode intent => .reserve false intent.user none none
  | swapBorrowRateMode intent => .reserve intent.useOptimizedPath intent.user none none

end Intent

end LendingPool
