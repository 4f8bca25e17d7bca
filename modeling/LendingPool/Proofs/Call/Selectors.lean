import LendingPool.Call.Adapter
import LendingPool.Call.Packed
import LendingPool.Call.Pool
import LendingPool.Call.View
import LendingPool.Proofs.Call.Gateway
import LendingPool.Proofs.Call.Token
import LendingPool.Proofs.Keccak
/-! Selectors. The one of a method is the beginning of the hash of its signature. -/

namespace LendingPool

def ViewMethod.all : List ViewMethod := [
  decimals, name, allowance, borrowAllowance, nonces, privateNonces, reserveData, resolver,
  resolved]

namespace Abi.Method

def Selects (method : Method) : Prop :=
  method.selector = (keccak256 (Bytes.ofText method.signature)).take 4

/-- Whether a method selects, with the hash of its signature as a number. No signature is longer
than one block. -/
def selects (method : Method) : Bool :=
  let signature := Bytes.ofText method.signature
  let lane := Keccak.laneIn (Keccak.absorbIn 0 (Keccak.pad signature)) 0 0
  signature.length < Keccak.rate && method.selector = (Bytes.ofNat 8 lane).reverse.take 4

theorem Selects.of_selects {method : Method} (selects : method.selects = true) :
    method.Selects := by
  rw [Method.selects, Bool.and_eq_true, decide_eq_true_eq, decide_eq_true_eq] at selects
  rw [Selects, Keccak.take_keccak256 selects.1 (by omega)]
  exact selects.2

def all : List Method :=
  PoolCall.forms.map Form.method ++ PackedCall.forms.map Form.method ++
    GatewayCall.forms.map Form.method ++ TokenCall.forms.map Form.method ++
    [CollateralSwap.directMethod, CollateralRepay.directMethod] ++
    ViewMethod.all.map ViewMethod.method

theorem selects_of_mem_all {method : Method} (member : method ∈ all) : method.Selects := by
  have pool : (PoolCall.forms.map Form.method).all selects = true := by decide +kernel
  have packed : (PackedCall.forms.map Form.method).all selects = true := by decide +kernel
  have gateway : (GatewayCall.forms.map Form.method).all selects = true := by decide +kernel
  have token : (TokenCall.forms.map Form.method).all selects = true := by decide +kernel
  have adapter : [CollateralSwap.directMethod, CollateralRepay.directMethod].all selects =
      true := by decide +kernel
  have view : (ViewMethod.all.map ViewMethod.method).all selects = true := by decide +kernel
  have every : all.all selects = true := by
    simp only [all, List.all_append, pool, packed, gateway, token, adapter, view, Bool.and_self]
  exact .of_selects (List.all_eq_true.mp every method member)

end Abi.Method

end LendingPool
