import LendingPool.Proofs.Plan.Accepted
import LendingPool.Proofs.Plan.Drafts
import LendingPool.Proofs.Plan.Finishing
import LendingPool.Proofs.Plan.Instructions
/-! The action at the end of a plan. It is an instruction for the one contract that its path leads
to, and it comes from an accepted intent. -/

namespace LendingPool

open Planning

/-! ## Instructions and their contracts -/

namespace Planner

/-- The contract that is given an instruction. Adapters with a loan are told by the pool. -/
def target? (planner : Planner) : Instruction → Option Address
  | .pool _ | .swap (some _) _ | .repay (some _) _ | .liquidate .. => planner.contracts.pool
  | .gateway _ => planner.gateway.map Gateway.address
  | .swap none _ => planner.contracts.swapCollateralAdapter
  | .repay none _ => planner.contracts.repayWithCollateralAdapter
  | .packed _ => planner.packedPool.map PackedPool.address

end Planner

/-- An action gives an instruction to the contract on a path, and the instruction is what the call
data are read as there. What goes to the pool for packed calls is the encoding of such a call. -/
structure Descriptor.Tells (action : Descriptor) (planner : Planner) (path : Path)
    (instruction : Instruction) : Prop where
  data : action.call.data = instruction.data
  read : instruction.swapCallData.length < 2 ^ 255 →
    path.read? action.call.data = some instruction
  target : planner.target? instruction = some action.call.target
  path : instruction.path = path
  packed : ∀ data, instruction = .packed data →
    ∃ call preEncoded, PackedCall.encode call preEncoded = .ok data

theorem Descriptor.Tells.of_data {action : Descriptor} {planner : Planner}
    {instruction : Instruction} (regular : instruction.IsRegular)
    (data : action.call.data = instruction.data)
    (target : planner.target? instruction = some action.call.target)
    (packed : ∀ data, instruction = .packed data →
      ∃ call preEncoded, PackedCall.encode call preEncoded = .ok data) :
    action.Tells planner instruction.path instruction where
  data := data
  read short := data ▸ Instruction.read?_data regular short
  target := target
  path := rfl
  packed := packed

namespace Planner

variable {planner : Planner} {Possible : PossibleReplies} {order : Order} {draft : Draft}

theorem Drafts.path (drafts : planner.Drafts Possible order draft) :
    draft.instruction.path = order.outline.path := by
  cases drafts with
  | direct routes => rw [Order.outline, routes]; rfl
  | packed routes => rw [Order.outline, routes]; rfl
  | @adapter order =>
      rw [Order.outline, Order.adapterOutline, adapterInstruction]
      cases order.task <;> rfl
  | _ => rfl

theorem Drafts.target (drafts : planner.Drafts Possible order draft) :
    planner.target? draft.instruction = some draft.target := by
  cases drafts with
  | direct _ pools => exact pools
  | packed _ pools => exact congrArg (Option.map PackedPool.address) pools
  | supply gateways | withdraw gateways | borrow gateways | repay gateways =>
      exact congrArg (Option.map Gateway.address) gateways
  | @adapter order adapter target _ _ _ _ _ adapters targets =>
      rw [adapterTarget?] at targets
      rw [adapterInstruction]
      cases tasks : order.task <;> rw [tasks] at adapters <;>
        cases flash : order.flash <;> rw [flash] at targets
      · cases targets
        exact adapters
      · exact targets
      · cases targets
        exact adapters
      · exact targets
  | flashLiquidation _ pools => exact pools
  | userEMode pools => exact pools

theorem Drafts.encodes {data : Bytes} (drafts : planner.Drafts Possible order draft)
    (packs : draft.instruction = .packed data) :
    ∃ call preEncoded, PackedCall.encode call preEncoded = .ok data := by
  cases drafts with
  | @packed _ _ _ _ preEncoded _ _ _ _ _ encodes =>
      cases packs
      rcases yields_bind_iff.mp encodes with ⟨call, -, encodes⟩
      exact ⟨call, preEncoded, yields_check_iff.mp encodes⟩
  | @adapter order =>
      rw [adapterInstruction] at packs
      cases tasks : order.task <;> rw [tasks] at packs <;> cases packs
  | _ => cases packs

theorem isRegular_adapterInstruction (order : AdapterOrder) (adapter : Address)
    (amount otherAmount : Word) (permit : AdapterPermit) :
    (adapterInstruction order adapter amount otherAmount permit).IsRegular := by
  rw [adapterInstruction]
  cases order.task <;> cases order.flash
  · trivial
  · exact ⟨rfl, rfl⟩
  · trivial
  · exact ⟨rfl, rfl⟩

theorem Drafts.isRegular (drafts : planner.Drafts Possible order draft) :
    draft.instruction.IsRegular := by
  cases drafts with
  | @direct order _ action => exact action.isStatic_toPoolCall order.beneficiary
  | adapter => exact isRegular_adapterInstruction ..
  | userEMode => exact rfl
  | _ => trivial

theorem Drafts.tells (drafts : planner.Drafts Possible order draft) :
    draft.action.Tells planner order.outline.path draft.instruction := by
  rw [← drafts.path]
  exact .of_data drafts.isRegular rfl drafts.target fun _ => drafts.encodes

/-! ## Plans -/

variable {snapshot : Snapshot} {intent : Intent} {plan : List Descriptor}

/-- A plan in which there is something to send finishes a draft of an accepted intent. -/
theorem exists_draft_of_course {asked : List ChainQuery}
    (possible : ∀ query reply, Possible query reply → snapshot.MayAnswer query reply)
    (course : Course Possible (planner.execute intent) asked plan) (nonempty : plan ≠ []) :
    ∃ order draft finishing, intent.Accepted planner.resolver snapshot order ∧
      planner.Drafts Possible order draft ∧ Course Possible draft.finish finishing plan := by
  rcases (course_execute_iff nonempty).mp course with
    ⟨draft, before, after, -, drafts, finishes⟩
  rcases yields_bind_iff.mp drafts.yields with ⟨order, orders, drafts⟩
  exact ⟨order, draft, after, Intent.accepted (orders.mono possible), drafts_of_draft drafts,
    finishes⟩

theorem exists_draft_of_onCached {lifetime : Option Nat} {cache later : Cache}
    {reads : List ChainQuery}
    (executed : Reading.onCached lifetime snapshot cache (planner.execute intent).run =
      (.ok plan, later, reads)) (nonempty : plan ≠ []) :
    ∃ order draft finishing, intent.Accepted planner.resolver snapshot order ∧
      planner.Drafts snapshot.MayAnswer order draft ∧
      Course snapshot.MayAnswer draft.finish finishing plan := by
  rcases Reading.course_of_onCached executed with ⟨asked, course, -⟩
  exact exists_draft_of_course (fun _ _ => id) course nonempty

theorem exists_order_of_on {reads : List ChainQuery}
    (executed : Reading.on snapshot (planner.execute intent).run = (.ok plan, reads))
    (nonempty : plan ≠ []) :
    ∃ order draft, Yields snapshot.Answers (intent.order planner.resolver) order ∧
      planner.Drafts snapshot.Answers order draft ∧ plan.getLast? = some draft.action := by
  rcases (course_execute_iff nonempty).mp (course_answers_iff.mpr executed) with
    ⟨draft, before, after, -, drafts, finishes⟩
  rcases yields_bind_iff.mp drafts.yields with ⟨order, orders, drafts⟩
  exact ⟨order, draft, orders, drafts_of_draft drafts, Draft.getLast?_of_course_finish finishes⟩

end Planner

end LendingPool
