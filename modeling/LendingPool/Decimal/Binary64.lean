import LendingPool.Decimal.Decimal96
/-! Binary floating point numbers of 64 bits: rounding, and the shortest decimal that reads back. -/

namespace LendingPool

/-- What a finite number is made of. All 53 bits of the significand are used unless the exponent is
the least one. -/
def Binary64.isFinite (significand : Nat) (exponent : Int) : Bool :=
  significand < 2 ^ 53 && -1074 ≤ exponent && exponent ≤ 971 &&
    (2 ^ 52 ≤ significand || exponent == -1074)

/-- The finite number `significand * 2 ^ exponent`, or its negation. -/
structure Binary64 where
  negative : Bool
  significand : Nat
  exponent : Int
  finite : Binary64.isFinite significand exponent = true
deriving DecidableEq, Repr

namespace Binary64

def zero (negative : Bool) : Binary64 :=
  ⟨negative, 0, -1074, by decide⟩

instance : Inhabited Binary64 := ⟨zero false⟩

/-- The quotient of two numbers, to the nearest integer; a half goes to the even one. -/
def roundQuotient (numerator denominator : Nat) : Nat :=
  let whole := numerator / denominator
  let twice := 2 * (numerator % denominator)
  if denominator < twice ∨ (twice = denominator ∧ whole % 2 = 1) then whole + 1 else whole

def scaled (numerator denominator : Nat) (exponent : Int) : Nat × Nat :=
  if 0 ≤ exponent then (numerator, denominator * 2 ^ exponent.toNat)
  else (numerator * 2 ^ (-exponent).toNat, denominator)

/-- The exponent at which a quotient has 53 significant bits, or the least exponent. -/
def exponentOf (numerator denominator : Nat) : Int :=
  let guess : Int := (numerator.log2 : Int) - denominator.log2 - 53
  let (top, bottom) := scaled numerator denominator guess
  max (-1074) (if top / bottom < 2 ^ 53 then guess else guess + 1)

def ofRatio? (negative : Bool) (numerator denominator : Nat) : Option Binary64 :=
  if numerator = 0 then some (zero negative)
  else
    let exponent := exponentOf numerator denominator
    let (top, bottom) := scaled numerator denominator exponent
    let rounded := roundQuotient top bottom
    let (significand, exponent) :=
      if rounded = 2 ^ 53 then (2 ^ 52, exponent + 1) else (rounded, exponent)
    if finite : isFinite significand exponent then some ⟨negative, significand, exponent, finite⟩
    else none

def magnitude (number : Binary64) : Nat × Nat :=
  if 0 ≤ number.exponent then (number.significand * 2 ^ number.exponent.toNat, 1)
  else (number.significand, 2 ^ (-number.exponent).toNat)

def ofDecimal? (negative : Bool) (digits : Nat) (power : Int) : Option Binary64 :=
  let length : Int := (Digits.ofNat digits).length
  if digits = 0 ∨ length + power < -400 then some (zero negative)
  else if 400 < length + power then none
  else if 0 ≤ power then ofRatio? negative (digits * 10 ^ power.toNat) 1
  else ofRatio? negative digits (10 ^ (-power).toNat)

def mul? (left right : Binary64) : Option Binary64 :=
  let (a, b) := left.magnitude
  let (c, d) := right.magnitude
  ofRatio? (left.negative != right.negative) (a * c) (b * d)

def div? (left right : Binary64) : Option Binary64 :=
  let (a, b) := left.magnitude
  let (c, d) := right.magnitude
  ofRatio? (left.negative != right.negative) (a * d) (b * c)

def powerOfTen? (power : Nat) : Option Binary64 :=
  ofRatio? false (10 ^ power) 1

/-! ## Shortest digits

A decimal reads back as the number if it lies between the midpoints to the two neighbours. The
midpoints count if the significand is even. -/

/-- Which one of two decimals is taken that are equally near. -/
inductive Ties
  | toEven
  | up
deriving DecidableEq, Repr

def Ties.goUp : Ties → (below : Nat) → Bool
  | toEven, below => below % 2 == 1
  | up, _ => true

/-- The midpoints below and above, over the denominator of `magnitude` times four. -/
def midpoints (number : Binary64) : Nat × Nat :=
  let step := 2 ^ number.exponent.toNat
  let value := 4 * number.significand * step
  let below := if number.significand = 2 ^ 52 ∧ -1074 < number.exponent then step else 2 * step
  (value - below, value + 2 * step)

def powerExceeds (power : Int) (numerator denominator : Nat) : Bool :=
  if 0 ≤ power then numerator < 10 ^ power.toNat * denominator
  else numerator * 10 ^ (-power).toNat < denominator

def decimalExponent (numerator denominator : Nat) : Int :=
  let guess : Int := ((numerator.log2 : Int) - denominator.log2) * 30103 / 100000 - 1
  (List.range 5).foldl (fun power _ =>
    if powerExceeds power numerator denominator then power else power + 1) guess

/-- The better of the two neighbours on the grid `10 ^ unit` that read back. -/
def onGrid? (number : Binary64) (ties : Ties) (unit : Int) : Option Nat :=
  let (top, bottom) := number.magnitude
  let (low, high) := number.midpoints
  let (scale, unscale) := if 0 ≤ unit then (1, 10 ^ unit.toNat) else (10 ^ (-unit).toNat, 1)
  let readsBack (candidate : Nat) : Bool :=
    let point := 4 * candidate * unscale * bottom
    if number.significand % 2 = 0 then low * scale ≤ point ∧ point ≤ high * scale
    else low * scale < point ∧ point < high * scale
  let floor := top * scale / (bottom * unscale)
  let twice := 2 * (top * scale % (bottom * unscale))
  let ordered :=
    if bottom * unscale < twice ∨ (twice = bottom * unscale ∧ ties.goUp floor) then
      [floor + 1, floor]
    else [floor, floor + 1]
  ordered.find? readsBack

def shortest (number : Binary64) (ties : Ties) : Nat × Int :=
  let (top, bottom) := number.magnitude
  let leading := decimalExponent top bottom
  let found := (List.range 17).findSome? fun (count : Nat) =>
    let unit := leading - (count + 1 : Nat)
    (number.onGrid? ties unit).map (·, unit)
  found.getD (0, 0)

def shortestDigits (number : Binary64) (ties : Ties) : List Char × Int :=
  if number.significand = 0 then (['0'], 0)
  else
    let (value, unit) := number.shortest ties
    let digits := Digits.ofNat value
    let kept := Digits.dropTrailingZeros digits
    (kept, unit + (digits.length - kept.length : Nat))

/-! ## Text -/

def sign (number : Binary64) : List Char :=
  if number.negative then ['-'] else []

def toPositional (number : Binary64) : List Char :=
  let (digits, unit) := number.shortestDigits .up
  number.sign ++
    if 0 ≤ unit then digits ++ List.replicate unit.toNat '0'
    else Digits.positional (Digits.value digits) (-unit).toNat

def toDecimal96? (number : Binary64) : Option Decimal96 :=
  Decimal96.ofText? (String.ofList number.toPositional)

end Binary64

end LendingPool
