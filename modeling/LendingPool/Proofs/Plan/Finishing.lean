import LendingPool.Proofs.Plan.Draft
import LendingPool.Proofs.Plan.Orders
/-! What the two steps of a plan read. Drafts read no allowance. To finish a draft with a gate is
to read one allowance, and nothing else. -/

namespace LendingPool

open Planning

variable {Possible : PossibleReplies}

/-! ## Drafts -/

def ChainQuery.IsPlain (query : ChainQuery) : Prop :=
  query.isAllowance = false

namespace ReserveAction

variable {Reserve Renamed Quantity Converted : Type} {Expected : ChainQuery → Prop}

theorem asksOnly_convertAmount {convert : Reserve → Quantity → Planning Converted}
    (action : ReserveAction Reserve Quantity)
    (each : ∀ reserve quantity, action.amount? = some (reserve, quantity) →
      AsksOnly Expected (convert reserve quantity)) :
    AsksOnly Expected (action.convertAmount convert) := by
  cases action with
  | swapBorrowRateMode => exact asksOnly_pure _
  | setUsageAsCollateral => exact asksOnly_pure _
  | _ => exact asksOnly_bind (each _ _ rfl) fun _ => asksOnly_pure _

theorem asksOnly_renameReserves {rename : Reserve → Planning Renamed}
    (each : ∀ reserve, AsksOnly Expected (rename reserve))
    (action : ReserveAction Reserve Quantity) :
    AsksOnly Expected (action.renameReserves rename) := by
  cases action with
  | liquidationCall =>
      exact asksOnly_bind (each _) fun _ => asksOnly_bind (each _) fun _ => asksOnly_pure _
  | _ => exact asksOnly_bind (each _) fun _ => asksOnly_pure _

end ReserveAction

section

variable {Expected : ChainQuery → Prop}

theorem asksOnly_convertAmount {token : Address} (expected : Expected (.decimals token))
    (request : AmountRequest) : AsksOnly Expected (convertAmount token request) := by
  cases request with
  | entireBalance => exact asksOnly_pure _
  | value amount =>
      exact asksOnly_bind (asksOnly_read expected) fun _ =>
        asksOnly_bind (asksOnly_check _) fun _ => asksOnly_pure _

theorem asksOnly_checkDeclared {token : Address} (expected : Expected (.decimals token))
    (amount : Amount) (declared : Option String) :
    AsksOnly Expected (checkDeclared token amount declared) := by
  cases declared with
  | none => exact asksOnly_pure _
  | some raw =>
      apply asksOnly_bind (asksOnly_check _)
      intro request
      apply asksOnly_bind (asksOnly_convertAmount expected request)
      intro converted
      exact asksOnly_ite (asksOnly_throw _) (asksOnly_pure _)

theorem ReserveOrder.asksOnly_converted (expected : ∀ token, Expected (.decimals token))
    (order : ReserveOrder) : AsksOnly Expected order.converted := by
  apply asksOnly_bind
  · exact order.action.asksOnly_convertAmount fun token request _ =>
      asksOnly_convertAmount (expected token) request
  intro action
  cases action.amount? with
  | none => exact asksOnly_pure _
  | some amount =>
      exact asksOnly_bind (asksOnly_checkDeclared (expected _) _ _) fun _ => asksOnly_pure _

theorem PackedPool.asksOnly_callData {preEncoded : Option Word}
    (expected : preEncoded = none → ∀ asset, Expected (.reserveId asset))
    (action : ReserveAction Address Word) : AsksOnly Expected (callData action preEncoded) := by
  refine asksOnly_bind (action.asksOnly_renameReserves fun asset => ?_) fun call =>
    asksOnly_check _
  cases preEncoded with
  | none => exact asksOnly_read (expected rfl asset)
  | some word => exact asksOnly_pure _

end

namespace Planner

variable (planner : Planner)

theorem asksOnly_draftReserve {Expected : ChainQuery → Prop} {order : ReserveOrder}
    (converted : AsksOnly Expected order.converted)
    (numbers : order.route = .packed none → ∀ asset, Expected (.reserveId asset)) :
    AsksOnly Expected (planner.draftReserve order) := by
  rw [draftReserve]
  cases routes : order.route with
  | direct =>
      cases planner.contracts.pool with
      | none => exact asksOnly_pure _
      | some pool => exact asksOnly_bind converted fun _ => asksOnly_pure _
  | packed preEncoded =>
      cases planner.packedPool with
      | none => exact asksOnly_pure _
      | some pool =>
          apply asksOnly_bind converted
          intro action
          apply asksOnly_bind (action.asksOnly_convertAmount fun _ _ _ => asksOnly_pure _)
          intro packed
          refine asksOnly_bind (PackedPool.asksOnly_callData ?_ packed) fun _ => asksOnly_pure _
          rintro rfl
          exact numbers routes

theorem asksOnly_draftNative {Expected : ChainQuery → Prop} (sender : Address)
    (action : NativeAction) : AsksOnly Expected (planner.draftNative sender action) := by
  rw [draftNative]
  cases planner.gateway with
  | none => exact asksOnly_pure _
  | some gateway =>
      cases action <;> exact asksOnly_bind (asksOnly_check _) fun _ => asksOnly_pure _

theorem asksOnly_draftAdapter {Expected : ChainQuery → Prop}
    (expected : ∀ token, Expected (.decimals token)) (order : AdapterOrder) :
    AsksOnly Expected (planner.draftAdapter order) := by
  rw [draftAdapter]
  cases planner.adapter? order.task with
  | none => exact asksOnly_pure _
  | some adapter =>
      dsimp only
      cases planner.adapterTarget? order adapter with
      | none => exact asksOnly_pure _
      | some target =>
          apply asksOnly_bind (asksOnly_read (expected _))
          intro decimals
          apply asksOnly_bind (asksOnly_read (expected _))
          intro otherDecimals
          apply asksOnly_bind (asksOnly_check _)
          intro other
          apply asksOnly_bind (asksOnly_check _)
          intro collateral
          exact asksOnly_bind (asksOnly_check _) fun _ => asksOnly_pure _

theorem asksOnly_draftFlashLiquidation {Expected : ChainQuery → Prop}
    (expected : ∀ token, Expected (.decimals token)) (order : FlashLiquidationOrder) :
    AsksOnly Expected (planner.draftFlashLiquidation order) := by
  rw [draftFlashLiquidation]
  cases planner.contracts.flashLiquidationAdapter with
  | none => exact asksOnly_pure _
  | some adapter =>
      cases planner.contracts.pool with
      | none => exact asksOnly_pure _
      | some pool =>
          apply asksOnly_bind (asksOnly_check _)
          intro loan
          apply asksOnly_bind (asksOnly_read (expected _))
          intro decimals
          exact asksOnly_bind (asksOnly_check _) fun _ => asksOnly_pure _

theorem asksOnly_draftSetUserEMode {Expected : ChainQuery → Prop} (sender : Address)
    (category : UInt8) : AsksOnly Expected (planner.draftSetUserEMode sender category) := by
  rw [draftSetUserEMode]
  cases planner.contracts.pool <;> exact asksOnly_pure _

theorem asksOnly_draft {Expected : ChainQuery → Prop}
    (decimals : ∀ token, Expected (.decimals token))
    (numbers : ∀ asset, Expected (.reserveId asset)) (order : Order) :
    AsksOnly Expected (planner.draft order) := by
  cases order with
  | reserve order =>
      exact planner.asksOnly_draftReserve (order.asksOnly_converted decimals) fun _ => numbers
  | native sender action => exact planner.asksOnly_draftNative sender action
  | adapter order => exact planner.asksOnly_draftAdapter decimals order
  | flashLiquidation order => exact planner.asksOnly_draftFlashLiquidation decimals order
  | setUserEMode sender category => exact planner.asksOnly_draftSetUserEMode sender category

end Planner

/-! ## Gates -/

namespace Gate

def query (gate : Gate) (owner : Address) : ChainQuery :=
  if gate.delegated then .borrowAllowance gate.token owner gate.spender
  else .allowance gate.token owner gate.spender

theorem isAllowance_query (gate : Gate) (owner : Address) :
    (gate.query owner).isAllowance = true := by
  rw [query]
  split <;> rfl

def MayHold (Possible : PossibleReplies) (gate : Gate) (owner : Address) (present : Word) : Prop :=
  if gate.delegated then Possible (.borrowAllowance gate.token owner gate.spender) (.ok present)
  else Possible (.allowance gate.token owner gate.spender) (.ok present)

theorem course_present_iff {gate : Gate} {owner : Address} {asked : List ChainQuery}
    {present : Word} :
    Course Possible (gate.present owner) asked present ↔
      asked = [gate.query owner] ∧ gate.MayHold Possible owner present := by
  rw [Gate.present, query, MayHold]
  split <;> exact course_read_iff

theorem course_pass_iff {gate : Gate} {owner : Address} {limits : GasLimits}
    {asked : List ChainQuery} {approval : Option Descriptor} :
    Course Possible (gate.pass owner limits) asked approval ↔
      ∃ present, asked = [gate.query owner] ∧ gate.MayHold Possible owner present ∧
        approval = if present.toNat < gate.required.toNat then some (gate.grant owner limits)
          else none := by
  rw [pass, course_bind_iff]
  constructor
  · rintro ⟨present, before, after, rfl, reads, rest⟩
    rcases course_present_iff.mp reads with ⟨rfl, holds⟩
    refine ⟨present, ?_⟩
    split at rest <;> rcases course_pure_iff.mp rest with ⟨rfl, rfl⟩
    · exact ⟨rfl, holds, (if_pos ‹_›).symm⟩
    · exact ⟨rfl, holds, (if_neg ‹_›).symm⟩
  · rintro ⟨present, rfl, holds, rfl⟩
    refine ⟨present, _, [], rfl, course_present_iff.mpr ⟨rfl, holds⟩, ?_⟩
    split <;> exact course_pure_iff.mpr ⟨rfl, rfl⟩

/-- The transactions that come before an action, where so much has been granted already. -/
def missing (gate : Gate) (owner : Address) (limits : GasLimits) (present : Word) :
    List Descriptor :=
  if present.toNat < gate.required.toNat then [gate.grant owner limits] else []

end Gate

/-! ## Plans -/

namespace Draft

theorem asksOnly_finish? {Expected : ChainQuery → Prop}
    (expected : ∀ query, query.isAllowance = true → Expected query) (draft? : Option Draft) :
    AsksOnly Expected (finish? draft?) := by
  cases draft? with
  | none => exact asksOnly_pure _
  | some draft =>
      rw [finish?, finish]
      cases draft.gate with
      | none => exact asksOnly_pure _
      | some gate =>
          refine asksOnly_bind (asksOnly_bind ?_ fun _ => ?_) fun _ => asksOnly_pure _
          · exact asksOnly_ite (asksOnly_read (expected _ rfl)) (asksOnly_read (expected _ rfl))
          · exact asksOnly_ite (asksOnly_pure _) (asksOnly_pure _)

variable {draft : Draft} {asked : List ChainQuery} {plan : List Descriptor}

theorem course_finish_iff_of_none (ungated : draft.gate = none) :
    Course Possible draft.finish asked plan ↔ asked = [] ∧ plan = [draft.action] := by
  rw [finish, ungated, pure_bind, course_pure_iff]
  exact and_congr_right fun _ => eq_comm

theorem course_finish_iff_of_some {gate : Gate} (gated : draft.gate = some gate) :
    Course Possible draft.finish asked plan ↔
      ∃ present, asked = [gate.query draft.sender] ∧
        gate.MayHold Possible draft.sender present ∧
        plan = gate.missing draft.sender draft.limits present ++ [draft.action] := by
  rw [finish, gated, course_bind_iff]
  constructor
  · rintro ⟨approval, before, after, rfl, passes, rest⟩
    rcases Gate.course_pass_iff.mp passes with ⟨present, rfl, holds, rfl⟩
    rcases course_pure_iff.mp rest with ⟨rfl, rfl⟩
    refine ⟨present, rfl, holds, ?_⟩
    rw [Gate.missing]
    split <;> rfl
  · rintro ⟨present, rfl, holds, rfl⟩
    refine ⟨_, _, [], rfl, Gate.course_pass_iff.mpr ⟨present, rfl, holds, rfl⟩, ?_⟩
    refine course_pure_iff.mpr ⟨rfl, ?_⟩
    rw [Gate.missing]
    split <;> rfl

theorem getLast?_of_course_finish (finishes : Course Possible draft.finish asked plan) :
    plan.getLast? = some draft.action := by
  cases gated : draft.gate with
  | none =>
      rcases (course_finish_iff_of_none gated).mp finishes with ⟨-, rfl⟩
      rfl
  | some gate =>
      rcases (course_finish_iff_of_some gated).mp finishes with ⟨present, -, -, rfl⟩
      exact List.getLast?_concat

end Draft

namespace Planner

variable (planner : Planner)

theorem asksOnly_plan_reserve {Expected : ChainQuery → Prop} {order : ReserveOrder}
    (granted : ∀ query, query.isAllowance = true → Expected query)
    (converted : AsksOnly Expected order.converted)
    (numbers : order.route = .packed none → ∀ asset, Expected (.reserveId asset)) :
    AsksOnly Expected (planner.plan (.reserve order)) := by
  rw [plan, planReserve_eq]
  exact asksOnly_bind (planner.asksOnly_draftReserve converted numbers)
    (Draft.asksOnly_finish? granted)

theorem asksOnly_plan_native {Expected : ChainQuery → Prop}
    (granted : ∀ query, query.isAllowance = true → Expected query) (sender : Address)
    (action : NativeAction) : AsksOnly Expected (planner.plan (.native sender action)) := by
  rw [plan, planNative_eq]
  exact asksOnly_bind (planner.asksOnly_draftNative sender action) (Draft.asksOnly_finish? granted)

/-- What an intent comes to before anybody looks at an allowance. -/
def drafted (intent : Intent) : Planning (Option Draft) := do
  planner.draft (← intent.order planner.resolver)

theorem execute_eq (intent : Intent) :
    planner.execute intent = planner.drafted intent >>= Draft.finish? := by
  rw [execute, drafted, bind_assoc]
  exact bind_congr fun order => planner.plan_eq order

theorem asksOnly_drafted (intent : Intent) :
    AsksOnly ChainQuery.IsPlain (planner.drafted intent) := by
  refine asksOnly_bind ((intent.asksOnly_order planner.resolver).mono fun _ resolution => ?_)
    fun order => planner.asksOnly_draft (fun _ => rfl) (fun _ => rfl) order
  exact resolution.isAllowance_eq_false

theorem course_execute_iff {planner : Planner} {intent : Intent} {asked : List ChainQuery}
    {plan : List Descriptor} (nonempty : plan ≠ []) :
    Course Possible (planner.execute intent) asked plan ↔
      ∃ draft before after, asked = before ++ after ∧
        Course Possible (planner.drafted intent) before (some draft) ∧
        Course Possible draft.finish after plan := by
  rw [execute_eq, course_bind_iff]
  constructor
  · rintro ⟨draft?, before, after, rfl, drafts, finishes⟩
    cases draft? with
    | none => exact absurd (course_pure_iff.mp finishes).2.symm nonempty
    | some draft => exact ⟨draft, before, after, rfl, drafts, finishes⟩
  · rintro ⟨draft, before, after, rfl, drafts, finishes⟩
    exact ⟨some draft, before, after, rfl, drafts, finishes⟩

theorem course_execute_nil {planner : Planner} {intent : Intent} {asked : List ChainQuery}
    (course : Course Possible (planner.execute intent) asked []) :
    Course Possible (planner.drafted intent) asked none := by
  rw [execute_eq, course_bind_iff] at course
  rcases course with ⟨draft?, before, after, rfl, drafts, finishes⟩
  cases draft? with
  | none =>
      rcases course_pure_iff.mp finishes with ⟨rfl, -⟩
      rw [List.append_nil]
      exact drafts
  | some draft =>
      cases Draft.getLast?_of_course_finish finishes

theorem filter_isAllowance_of_drafted {planner : Planner} {intent : Intent}
    {asked : List ChainQuery} {draft? : Option Draft}
    (drafts : Course Possible (planner.drafted intent) asked draft?) :
    asked.filter ChainQuery.isAllowance = [] := by
  apply List.filter_eq_nil_iff.mpr
  intro query member
  exact ne_true_of_eq_false (drafts.expected (planner.asksOnly_drafted intent) query member)

end Planner

end LendingPool
