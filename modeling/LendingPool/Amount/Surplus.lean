import LendingPool.Amount.Units
/-! Markups: the percentage that buffers a loan, and the premium that a loan costs. -/

namespace LendingPool

/-- The amount enlarged by a percentage, exactly. With `percent = m / 10 ^ p` the factor is
`(100 * 10 ^ p + m) / 10 ^ (p + 2)`. Digits that need more than 512 bits are refused. -/
def DecimalAmount.withSurplus (amount : DecimalAmount) (percent : Decimal96) :
    Except InputFault DecimalAmount :=
  if percent.negative then .error (.invalidValue "surplus_percent" (.negative percent))
  else
    let digits := amount.digits * (100 * 10 ^ percent.scale.val + percent.mantissa.toNat)
    if digits < 2 ^ 512 then .ok (.ofParts digits (amount.scale + percent.scale.val + 2))
    else .error (.amountOverflow amount.toText)

namespace Word

def saturatingAdd (left right : Word) : Word :=
  if left.toNat + right.toNat < 2 ^ 256 then left + right else max

def saturatingMul (left right : Word) : Word :=
  if left.toNat * right.toNat < 2 ^ 256 then left * right else max

/-- A loan with its premium in hundredths of a percent, which is rounded up. -/
def withPremium (loan : Word) (basisPoints : UInt32) : Word :=
  let premium := saturatingAdd (saturatingMul loan (ofNat basisPoints.toNat)) 9999 / 10000
  saturatingAdd loan premium

end Word

end LendingPool
