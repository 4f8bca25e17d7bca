import LendingPool.Fault.Input
/-! Amounts as callers type them: strictly positive decimals, held exactly. -/

namespace LendingPool

/-- The number `digits / 10 ^ scale`. -/
structure DecimalAmount where
  digits : Nat
  scale : Nat
deriving DecidableEq, Repr, Inhabited

namespace DecimalAmount

/-- The same number with no needless place: the last digit after the point is not zero. -/
def ofParts (digits : Nat) : (scale : Nat) → DecimalAmount
  | 0 => ⟨digits, 0⟩
  | scale + 1 =>
      if digits ≠ 0 ∧ digits % 10 = 0 then ofParts (digits / 10) scale
      else ⟨digits, scale + 1⟩

example : ofParts 12300 3 = ⟨123, 1⟩ := rfl

def toText (amount : DecimalAmount) : String :=
  String.ofList (Digits.positional amount.digits amount.scale)

instance : ToString DecimalAmount := ⟨toText⟩

/-! ## Reading

The text is digits with at most one point among them, and at least one digit. The integer part
has to be below `2 ^ 256`. Of the fraction, 77 digits count. -/

def fractionDigits : Nat := 77

def parse (raw : String) : Except InputFault DecimalAmount := do
  let (whole, fraction) := Digits.splitAt '.' raw.toList
  let fraction := fraction.getD []
  if whole.isEmpty && fraction.isEmpty then throw (.nonPositiveAmount raw)
  unless Digits.all whole && Digits.all fraction do throw (.nonPositiveAmount raw)
  unless Digits.value whole < 2 ^ 256 do throw (.amountOverflow raw)
  let kept := Digits.dropTrailingZeros (fraction.take fractionDigits)
  let digits := Digits.value (whole ++ kept)
  if digits = 0 then throw (.nonPositiveAmount raw)
  return ofParts digits kept.length

end DecimalAmount

/-! ## The whole balance

One literal stands for all that the caller holds or owes. Some actions accept it. -/

inductive AmountRule
  | positive
  | positiveOrEntire
deriving DecidableEq, Repr

/-- How much a caller asks for, before it is known what the token's units are. -/
inductive AmountRequest
  | value (amount : DecimalAmount)
  | entireBalance
deriving DecidableEq, Repr

def entireBalanceLiteral : String := "-1"

def AmountRequest.parse (raw : String) (rule : AmountRule) : Except InputFault AmountRequest :=
  if raw = entireBalanceLiteral then
    match rule with
    | .positiveOrEntire => .ok .entireBalance
    | .positive => .error (.nonPositiveAmount raw)
  else AmountRequest.value <$> DecimalAmount.parse raw

end LendingPool
