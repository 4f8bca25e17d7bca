import LendingPool.Proofs.Abi.RoundTrip
import LendingPool.Proofs.Call.Packed
import LendingPool.Proofs.Plan.Actions
/-! The methods that actions call. Each path has its own, so the selector of an action tells by
whom it was built. -/

namespace LendingPool

open Abi

def Path.methods : Path → List Method
  | standard => PoolCall.forms.map Form.method
  | packed => PackedCall.forms.map Form.method
  | native =>
      [GatewayMethod.deposit, GatewayMethod.withdraw, GatewayMethod.repay, GatewayMethod.borrow]
  | swapAdapter => [CollateralSwap.directMethod, PoolMethod.flashLoan]
  | repayAdapter => [CollateralRepay.directMethod, PoolMethod.flashLoan]
  | flashLiquidation => [PoolMethod.flashLoan]

def Calls (methods : List Method) (data : Bytes) : Prop :=
  ∃ method ∈ methods, ∃ values : Arguments method.inputs, data = method.encode values

theorem PoolCall.calls_encode (call : PoolCall) : Calls Path.standard.methods call.encode := by
  refine ⟨call.method, ?_, call.arguments, rfl⟩
  cases call <;> simp [Path.methods, forms, method]

theorem GatewayCall.calls_encode (call : GatewayCall) : Calls Path.native.methods call.encode := by
  cases call with
  | deposit => exact ⟨GatewayMethod.deposit, by simp [Path.methods], _, rfl⟩
  | withdraw => exact ⟨GatewayMethod.withdraw, by simp [Path.methods], _, rfl⟩
  | repay => exact ⟨GatewayMethod.repay, by simp [Path.methods], _, rfl⟩
  | borrow => exact ⟨GatewayMethod.borrow, by simp [Path.methods], _, rfl⟩

theorem PackedCall.calls_encode {call : PackedCall} {preEncoded : Option Word} {data : Bytes}
    (encodes : PackedCall.encode call preEncoded = .ok data) :
    Calls Path.packed.methods data := by
  have surrounds : ∃ first, encodeAround first call = .ok data := by
    cases preEncoded with
    | none =>
        rcases encode_none_eq_ok_iff.mp encodes with ⟨first, -, surrounds⟩
        exact ⟨first, surrounds⟩
    | some word => exact ⟨word, encodes⟩
  rcases surrounds with ⟨first, surrounds⟩
  cases call with
  | liquidationCall =>
      rcases bind_eq_ok_iff.mp surrounds with ⟨second, -, surrounds⟩
      cases surrounds
      exact ⟨_, by simp [Path.methods, forms], _, rfl⟩
  | _ =>
      cases surrounds
      exact ⟨_, by simp [Path.methods, forms], _, rfl⟩

theorem Descriptor.Tells.calls {action : Descriptor} {planner : Planner} {path : Path}
    {instruction : Instruction} (tells : action.Tells planner path instruction) :
    Calls path.methods action.call.data := by
  rw [tells.data, ← tells.path]
  cases instruction with
  | pool call => exact call.calls_encode
  | gateway call => exact call.calls_encode
  | swap loan exchange =>
      cases loan with
      | none => exact ⟨_, by simp [Instruction.path, Path.methods], _, rfl⟩
      | some loan =>
          exact ⟨PoolMethod.flashLoan, by simp [Instruction.path, Path.methods], _, rfl⟩
  | repay loan payment =>
      cases loan with
      | none => exact ⟨_, by simp [Instruction.path, Path.methods], _, rfl⟩
      | some loan =>
          exact ⟨PoolMethod.flashLoan, by simp [Instruction.path, Path.methods], _, rfl⟩
  | liquidate loan liquidation =>
      exact ⟨PoolMethod.flashLoan, by simp [Instruction.path, Path.methods], _, rfl⟩
  | packed data =>
      rcases tells.packed data rfl with ⟨call, preEncoded, encodes⟩
      exact PackedCall.calls_encode encodes

/-! ## Selectors -/

theorem Path.readable_methods (path : Path) :
    path.methods.all Method.readable = true := by
  cases path <;> rfl

theorem Calls.selector_mem {path : Path} {data : Bytes} (calls : Calls path.methods data) :
    data.take 4 ∈ path.methods.map Method.selector := by
  rcases calls with ⟨method, member, values, rfl⟩
  have readable := List.all_eq_true.mp path.readable_methods method member
  rw [Method.take_encode readable]
  exact List.mem_map_of_mem member

/-- No other path has a method of the gateway. -/
theorem Path.eq_native_of_selector {path : Path} {selector : Bytes}
    (member : selector ∈ path.methods.map Method.selector)
    (native : selector ∈ Path.native.methods.map Method.selector) : path = .native := by
  have apart : ∀ selector ∈ path.methods.map Method.selector,
      path = .native ∨ selector ∉ Path.native.methods.map Method.selector := by
    cases path <;> decide +kernel
  exact (apart selector member).resolve_right fun foreign => foreign native

theorem Descriptor.Tells.native_iff {action : Descriptor} {planner : Planner} {path : Path}
    {instruction : Instruction} (tells : action.Tells planner path instruction) :
    (∃ call, GatewayCall.decode? action.call.data = some call) ↔ path = .native := by
  constructor
  · rintro ⟨call, reads⟩
    have native := call.calls_encode.selector_mem
    rw [call.encode_eq_spelling, ← GatewayCall.decode?_eq_some_iff.mp reads] at native
    exact Path.eq_native_of_selector tells.calls.selector_mem native
  · rintro rfl
    have path := tells.path
    rw [tells.data]
    cases instruction with cases path
    | gateway call => exact ⟨call, call.decode?_encode⟩

end LendingPool
