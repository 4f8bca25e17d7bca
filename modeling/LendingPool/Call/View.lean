import LendingPool.Abi.Codec
/-! Calls that only read. -/

namespace LendingPool

open Abi

structure ViewMethod where
  method : Method
  outputs : List ParameterType

namespace ViewMethod

abbrev address : ParameterType := .word .address
abbrev number (bits : Nat) : ParameterType := .word (.uint bits)
abbrev hash : ParameterType := .word .bytes32

/-! ## Tokens -/

def decimals : ViewMethod := ⟨⟨"decimals", Bytes.ofNat 4 0x313ce567, []⟩, [number 8]⟩
def name : ViewMethod := ⟨⟨"name", Bytes.ofNat 4 0x06fdde03, []⟩, [.text]⟩
def allowance : ViewMethod :=
  ⟨⟨"allowance", Bytes.ofNat 4 0xdd62ed3e, [address, address]⟩, [number 256]⟩
def borrowAllowance : ViewMethod :=
  ⟨⟨"borrowAllowance", Bytes.ofNat 4 0x6bd76d24, [address, address]⟩, [number 256]⟩

def nonces : ViewMethod := ⟨⟨"nonces", Bytes.ofNat 4 0x7ecebe00, [address]⟩, [number 256]⟩

/-- The same counter under the name that it has in some tokens. -/
def privateNonces : ViewMethod := ⟨⟨"_nonces", Bytes.ofNat 4 0xb9844d8d, [address]⟩, [number 256]⟩

/-! ## The pool -/

/-- Configuration, index and rates, time of the last update, number, tokens, rate strategy, and
three totals of a reserve. -/
def reserveData : ViewMethod := ⟨⟨"getReserveData", Bytes.ofNat 4 0x35ea6a75, [address]⟩, [
  number 256, number 128, number 128, number 128, number 128, number 128, number 40, number 16,
  address, address, address, address, number 128, number 128, number 128]⟩

/-! ## The registry of names -/

def resolver : ViewMethod := ⟨⟨"resolver", Bytes.ofNat 4 0x0178b8bf, [hash]⟩, [address]⟩
def resolved : ViewMethod := ⟨⟨"addr", Bytes.ofNat 4 0x3b3b57de, [hash]⟩, [address]⟩

end ViewMethod

end LendingPool
