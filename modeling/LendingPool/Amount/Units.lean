import LendingPool.Amount.DecimalAmount
/-! Amounts in a token's base units, and the conversion into them. -/

namespace LendingPool

/-- An integer number of a token's base units, with the precision that gave it. -/
structure BaseUnits where
  value : Word
  decimals : UInt8
deriving DecidableEq, Repr

inductive Amount
  | exact (units : BaseUnits)
  | entireBalance
deriving DecidableEq, Repr

namespace Amount

/-- What the call carries. The receiving contract reads the largest word as the balance it
finds when the call arrives. -/
def value : Amount → Word
  | .exact units => units.value
  | .entireBalance => Word.max

end Amount

namespace DecimalAmount

def floorUnits (amount : DecimalAmount) (decimals : Nat) : Nat :=
  if amount.scale ≤ decimals then amount.digits * 10 ^ (decimals - amount.scale)
  else amount.digits / 10 ^ (amount.scale - decimals)

/-- Converts to base units, once and rounding down. An amount that rounds to nothing is refused,
so that dust never becomes a call for zero. -/
def toUnits (amount : DecimalAmount) (decimals : UInt8) : Except InputFault BaseUnits :=
  let units := amount.floorUnits decimals.toNat
  if units = 0 then .error (.nonPositiveAmount amount.toText)
  else
    match Word.ofNat? units with
    | some value => .ok ⟨value, decimals⟩
    | none => .error (.amountOverflow amount.toText)

end DecimalAmount

def AmountRequest.toAmount (request : AmountRequest) (decimals : UInt8) :
    Except InputFault Amount :=
  match request with
  | .entireBalance => .ok .entireBalance
  | .value amount => Amount.exact <$> amount.toUnits decimals

end LendingPool
