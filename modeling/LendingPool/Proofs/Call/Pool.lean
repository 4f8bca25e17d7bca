import LendingPool.Call.Pool
import LendingPool.Proofs.Abi.RoundTrip
/-! Calls of the pool that are written and read back. -/

namespace LendingPool.PoolCall

open Abi

theorem nodup_selectors : (forms.map fun form => form.method.selector).Nodup := by
  decide +kernel

theorem hasForm (call : PoolCall) : HasForm forms call.encode call := by
  cases call with
  | supply => exact ⟨_, List.mem_of_getElem? (i := 0) rfl, rfl, _, rfl, rfl⟩
  | supplyWithPermit => exact ⟨_, List.mem_of_getElem? (i := 1) rfl, rfl, _, rfl, rfl⟩
  | withdraw => exact ⟨_, List.mem_of_getElem? (i := 2) rfl, rfl, _, rfl, rfl⟩
  | borrow => exact ⟨_, List.mem_of_getElem? (i := 3) rfl, rfl, _, rfl, rfl⟩
  | repay => exact ⟨_, List.mem_of_getElem? (i := 4) rfl, rfl, _, rfl, rfl⟩
  | repayWithPermit => exact ⟨_, List.mem_of_getElem? (i := 5) rfl, rfl, _, rfl, rfl⟩
  | swapBorrowRateMode => exact ⟨_, List.mem_of_getElem? (i := 6) rfl, rfl, _, rfl, rfl⟩
  | setUsageAsCollateral => exact ⟨_, List.mem_of_getElem? (i := 7) rfl, rfl, _, rfl, rfl⟩
  | liquidationCall => exact ⟨_, List.mem_of_getElem? (i := 8) rfl, rfl, _, rfl, rfl⟩
  | flashLoan => exact ⟨_, List.mem_of_getElem? (i := 9) rfl, rfl, _, rfl, rfl⟩
  | setUserEMode => exact ⟨_, List.mem_of_getElem? (i := 10) rfl, rfl, _, rfl, rfl⟩

theorem decode?_encode (call : PoolCall) (short : call.encode.length < 2 ^ 256) :
    decode? call.encode = some call :=
  decodeForms?_of_hasForm nodup_selectors call.hasForm short

def isStatic (call : PoolCall) : Bool :=
  call.method.inputs.all ParameterType.isStatic

theorem length_encode_lt {call : PoolCall} (static : call.isStatic = true) :
    call.encode.length < 2 ^ 256 := by
  have length : call.encode.length = call.method.selector.length + headSize call.method.inputs := by
    rw [encode, Method.encode, List.length_append, length_encode_of_isStatic static]
  have bound : call.method.selector.length + headSize call.method.inputs ≤ 260 := by
    cases call <;> exact Nat.le_of_ble_eq_true rfl
  omega

theorem decodeLogical_encode {call : PoolCall} (static : call.isStatic = true) :
    decodeLogical call.encode = call.logical := by
  rw [decodeLogical, decode?_encode call (length_encode_lt static)]

theorem rateModeTag_ofNat (mode : UInt8) : rateModeTag (Word.ofNat mode.toNat) = .ok mode := by
  have small := mode.toNat_lt
  have kept : (Word.ofNat mode.toNat).toNat = mode.toNat := Word.toNat_ofNat_of_lt (by omega)
  rw [rateModeTag, kept, if_pos small, UInt8.ofNat_toNat]

end LendingPool.PoolCall
