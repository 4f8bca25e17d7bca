import LendingPool.Call.Token
import LendingPool.Proofs.Abi.Canonical
/-! Calls that grant an allowance, read from their call data. -/

namespace LendingPool.TokenCall

open Abi

def forms : List (Form TokenCall) := [
  ⟨TokenMethod.approve, fun (spender, amount, ()) => approve spender amount⟩,
  ⟨TokenMethod.approveDelegation, fun (delegatee, amount, ()) =>
    approveDelegation delegatee amount⟩]

def decode? (data : Bytes) : Option TokenCall :=
  decodeForms? forms data

/-- A call word by word. The selectors are those of `approve(address,uint256)` and
`approveDelegation(address,uint256)`. -/
def spelling : TokenCall → Bytes
  | approve spender amount => [0x09, 0x5e, 0xa7, 0xb3] ++ wordBytes [spender.toWord, amount]
  | approveDelegation delegatee amount =>
      [0xc0, 0x4a, 0x8a, 0x10] ++ wordBytes [delegatee.toWord, amount]

theorem encode_eq_spelling (call : TokenCall) : call.encode = call.spelling := by
  cases call <;> refine (Method.encode_of_isWord rfl _).trans (congrArg (_ ++ wordBytes ·) ?_) <;>
    simp [argumentWords, WordType.toWord, TokenMethod.approve, TokenMethod.approveDelegation]

theorem length_spelling (call : TokenCall) : call.spelling.length = 68 := by
  cases call <;> rw [spelling, List.length_append, length_wordBytes] <;> rfl

theorem nodup_selectors : (forms.map fun form => form.method.selector).Nodup := by
  decide +kernel

theorem hasForm (call : TokenCall) : HasForm forms call.encode call := by
  cases call with
  | approve => exact ⟨_, List.mem_of_getElem? (i := 0) rfl, rfl, _, rfl, rfl⟩
  | approveDelegation => exact ⟨_, List.mem_of_getElem? (i := 1) rfl, rfl, _, rfl, rfl⟩

theorem decode?_eq_some_iff {data : Bytes} {call : TokenCall} :
    decode? data = some call ↔ data = call.spelling := by
  rw [← encode_eq_spelling]
  refine decodeForms?_eq_some_iff_encode nodup_selectors (by decide) hasForm ?_ fun call => ?_
  · intro form member values
    simp only [forms, List.mem_cons, List.not_mem_nil, or_false] at member
    rcases member with rfl | rfl <;> rfl
  · rw [encode_eq_spelling, length_spelling]
    omega

theorem decode?_encode (call : TokenCall) : decode? call.encode = some call := by
  rw [decode?_eq_some_iff, encode_eq_spelling]

end LendingPool.TokenCall
