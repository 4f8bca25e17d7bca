import LendingPool.Fault.Input
/-! Calls of the swap aggregators. When a whole position is swapped, the adapter puts its balance
in place of the amount inside the aggregator's call data, so it has to know where that is. -/

namespace LendingPool.Aggregator

/-- Methods that sell a given amount, by selector, with the offset of that amount. -/
def sellOffsets : List (Nat × Nat) := [
  (0x58b9d179, 4), (0x54840d1a, 4), (0x0b86a4c1, 36), (0x0863b7ac, 68), (0x8f00eccb, 68),
  (0xec1d21dd, 68), (0xf5661034, 68), (0x64466805, 68), (0xa94e78ef, 68), (0x46c67b6d, 68),
  (0xa6886da9, 68), (0x987e7d8e, 68), (0x3865bde6, 68), (0x58f15100, 68), (0x9d4bf5de, 68),
  (0xda8567c8, 100)]

def buyOffsets : List (Nat × Nat) := [
  (0x935fb84b, 36), (0xb2f1e6db, 68), (0x87a63926, 68), (0xc03786b0, 100), (0xb66bcbac, 164),
  (0x35326910, 164)]

def lookUp (offsets : List (Nat × Nat)) (callData : Bytes) : Except InputFault Word :=
  if callData.length < 4 then .error (.invalidValue "swap_calldata" .shorterThanSelector)
  else
    let selector := callData.take 4
    match offsets.lookup (Bytes.toNat selector) with
    | some offset => .ok (Word.ofNat offset)
    | none => .error (.invalidValue "swap_calldata" (.unknownAggregator selector))

/-- Where the amount to sell is, or zero when a fixed amount is sold. -/
def swapAllOffset (callData : Bytes) (all : Bool) : Except InputFault Word :=
  if all then lookUp sellOffsets callData else .ok 0

/-- Where the amount to buy is, or zero when a fixed debt is repaid. -/
def buyAllOffset (callData : Bytes) (all : Bool) : Except InputFault Word :=
  if all then lookUp buyOffsets callData else .ok 0

end LendingPool.Aggregator
