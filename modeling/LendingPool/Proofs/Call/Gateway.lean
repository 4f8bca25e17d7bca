import LendingPool.Call.Gateway
import LendingPool.Proofs.Abi.Canonical
/-! Calls of the gateway, read from their call data. -/

namespace LendingPool.GatewayCall

open Abi

def forms : List (Form GatewayCall) := [
  ⟨GatewayMethod.deposit, fun (pool, onBehalfOf, code, ()) => deposit pool onBehalfOf ⟨code⟩⟩,
  ⟨GatewayMethod.withdraw, fun (pool, amount, recipient, ()) => withdraw pool amount recipient⟩,
  ⟨GatewayMethod.repay, fun (pool, amount, rateMode, onBehalfOf, ()) =>
    repay pool amount rateMode onBehalfOf⟩,
  ⟨GatewayMethod.borrow, fun (pool, amount, rateMode, code, ()) =>
    borrow pool amount rateMode ⟨code⟩⟩]

def decode? (data : Bytes) : Option GatewayCall :=
  decodeForms? forms data

/-- A call word by word. The selectors are those of `depositETH(address,address,uint16)`,
`withdrawETH(address,uint256,address)`, `repayETH(address,uint256,uint256,address)` and
`borrowETH(address,uint256,uint256,uint16)`. -/
def spelling : GatewayCall → Bytes
  | deposit pool onBehalfOf code =>
      [0x47, 0x4c, 0xf5, 0x3d] ++
        wordBytes [pool.toWord, onBehalfOf.toWord, Word.ofNat code.toNat]
  | withdraw pool amount recipient =>
      [0x80, 0x50, 0x0d, 0x20] ++ wordBytes [pool.toWord, amount, recipient.toWord]
  | repay pool amount rateMode onBehalfOf =>
      [0x02, 0xc5, 0xfc, 0xf8] ++ wordBytes [pool.toWord, amount, rateMode, onBehalfOf.toWord]
  | borrow pool amount rateMode code =>
      [0x66, 0x51, 0x4c, 0x97] ++
        wordBytes [pool.toWord, amount, rateMode, Word.ofNat code.toNat]

theorem encode_eq_spelling (call : GatewayCall) : call.encode = call.spelling := by
  cases call <;> refine (Method.encode_of_isWord rfl _).trans (congrArg (_ ++ wordBytes ·) ?_) <;>
    simp [argumentWords, WordType.toWord, GatewayMethod.deposit, GatewayMethod.withdraw,
      GatewayMethod.repay, GatewayMethod.borrow]

theorem length_spelling_le (call : GatewayCall) : call.spelling.length ≤ 132 := by
  cases call <;> rw [spelling, List.length_append, length_wordBytes] <;>
    exact Nat.le_of_ble_eq_true rfl

theorem nodup_selectors : (forms.map fun form => form.method.selector).Nodup := by
  decide +kernel

theorem hasForm (call : GatewayCall) : HasForm forms call.encode call := by
  cases call with
  | deposit => exact ⟨_, List.mem_of_getElem? (i := 0) rfl, rfl, _, rfl, rfl⟩
  | withdraw => exact ⟨_, List.mem_of_getElem? (i := 1) rfl, rfl, _, rfl, rfl⟩
  | repay => exact ⟨_, List.mem_of_getElem? (i := 2) rfl, rfl, _, rfl, rfl⟩
  | borrow => exact ⟨_, List.mem_of_getElem? (i := 3) rfl, rfl, _, rfl, rfl⟩

theorem decode?_eq_some_iff {data : Bytes} {call : GatewayCall} :
    decode? data = some call ↔ data = call.spelling := by
  rw [← encode_eq_spelling]
  refine decodeForms?_eq_some_iff_encode nodup_selectors (by decide) hasForm ?_ fun call => ?_
  · intro form member values
    simp only [forms, List.mem_cons, List.not_mem_nil, or_false] at member
    rcases member with rfl | rfl | rfl | rfl <;> rfl
  · rw [encode_eq_spelling]
    exact Nat.lt_of_le_of_lt call.length_spelling_le (by omega)

theorem decode?_encode (call : GatewayCall) : decode? call.encode = some call := by
  rw [decode?_eq_some_iff, encode_eq_spelling]

end LendingPool.GatewayCall
