import LendingPool.Decimal.Digits
/-! Decimals with a mantissa of 96 bits and at most 28 places. They hold percentages. -/

namespace LendingPool

/-- The number `mantissa / 10 ^ scale`, or its negation. -/
structure Decimal96 where
  negative : Bool
  mantissa : BitVec 96
  scale : Fin 29
deriving DecidableEq, Repr

namespace Decimal96

/-- Zero has no sign. -/
def ofParts (negative : Bool) (mantissa scale : Nat) : Decimal96 :=
  ⟨negative && mantissa != 0, BitVec.ofNat 96 mantissa, Fin.ofNat 29 scale⟩

def ofInt (value : Int) : Decimal96 :=
  ofParts (value < 0) value.natAbs 0

def toText (decimal : Decimal96) : String :=
  (if decimal.negative then "-" else "") ++
    String.ofList (Digits.positional decimal.mantissa.toNat decimal.scale.val)

instance : ToString Decimal96 := ⟨toText⟩

/-! ## Reading plain text

One sign may come first. Digits follow, with at most one point among them, and underscores
anywhere after the first digit. The integer part has to fit; the first digit that finds no room
after the point decides the rounding, half up, and ends the reading. -/

structure Reading where
  mantissa : Nat
  scale : Nat
  pointSeen : Bool
  digitSeen : Bool

/-- Rounds at a place for which there is no room. -/
def Reading.roundAt (reading : Reading) (next : Char) : Option (Nat × Nat) := do
  let digit ←
    if next.isDigit then some (next.toNat - '0'.toNat)
    else if next == '_' || next == '.' then some 0
    else none
  if digit < 5 then return (reading.mantissa, reading.scale)
  else if reading.mantissa + 1 < 2 ^ 96 then return (reading.mantissa + 1, reading.scale)
  else
    guard (reading.scale ≠ 0)
    return ((reading.mantissa + 5) / 10, reading.scale - 1)

def Reading.finish (reading : Reading) : List Char → Option (Nat × Nat)
  | [] => if reading.digitSeen then some (reading.mantissa, reading.scale) else none
  | next :: rest =>
      if reading.scale = 28 then reading.roundAt next
      else if next.isDigit then
        let mantissa := reading.mantissa * 10 + (next.toNat - '0'.toNat)
        if mantissa < 2 ^ 96 then
          let scale := if reading.pointSeen then reading.scale + 1 else reading.scale
          Reading.finish ⟨mantissa, scale, reading.pointSeen, true⟩ rest
        else if reading.pointSeen then reading.roundAt next
        else none
      else if next == '.' && !reading.pointSeen then
        Reading.finish { reading with pointSeen := true } rest
      else if next == '_' && reading.digitSeen then reading.finish rest
      else none

def ofPlain? (text : List Char) : Option Decimal96 := do
  let (negative, digits) :=
    match text with
    | '-' :: digits => (true, digits)
    | '+' :: digits => (false, digits)
    | digits => (false, digits)
  let (mantissa, scale) ← Reading.finish ⟨0, 0, false, false⟩ digits
  return ofParts negative mantissa scale

/-! ## Reading text with an exponent -/

def shiftLeft? (decimal : Decimal96) (places : Nat) : Option Decimal96 := do
  guard (places ≤ 28 ∧ decimal.scale.val + places ≤ 28)
  return { decimal with scale := Fin.ofNat 29 (decimal.scale.val + places) }

/-- Moves the point `places` to the right. A point that leaves the digits is dropped. -/
def shiftRight? (decimal : Decimal96) (places : Nat) : Option Decimal96 :=
  if places ≤ decimal.scale.val then
    some { decimal with scale := Fin.ofNat 29 (decimal.scale.val - places) }
  else do
    guard (places ≤ 28)
    let mantissa := decimal.mantissa.toNat * 10 ^ (places - decimal.scale.val)
    guard (mantissa < 2 ^ 96)
    return ofParts decimal.negative mantissa 0

def exponent? (text : List Char) : Option Nat := do
  let places ← Digits.value? (match text with | '+' :: digits => digits | digits => digits)
  guard (places < 2 ^ 32)
  return places

def ofScientific? (text : List Char) : Option Decimal96 := do
  let isMark (next : Char) : Bool := next == 'e' || next == 'E'
  let decimal ← ofPlain? (text.takeWhile (!isMark ·))
  match text.dropWhile (!isMark ·) with
  | [] => none
  | _ :: '-' :: places => decimal.shiftLeft? (← exponent? places)
  | _ :: places => decimal.shiftRight? (← exponent? places)

def ofText? (text : String) : Option Decimal96 :=
  ofPlain? text.toList <|> ofScientific? text.toList

end Decimal96

end LendingPool
