import LendingPool.Bytes

/-! Runs of decimal digits. -/

namespace LendingPool.Digits

def value (digits : List Char) : Nat :=
  digits.foldl (fun total digit => total * 10 + (digit.toNat - '0'.toNat)) 0

def all (text : List Char) : Bool :=
  text.all Char.isDigit

def value? (text : List Char) : Option Nat :=
  if !text.isEmpty && all text then some (value text) else none

def dropTrailingZeros (digits : List Char) : List Char :=
  (digits.reverse.dropWhile (· == '0')).reverse

def ofNat (value : Nat) : List Char :=
  Nat.toDigits 10 value

/-- `value / 10 ^ scale` in positional form, with `scale` digits after the point. -/
def positional (value scale : Nat) : List Char :=
  let digits := ofNat value
  if scale = 0 then digits
  else if digits.length > scale then
    digits.take (digits.length - scale) ++ '.' :: digits.drop (digits.length - scale)
  else '0' :: '.' :: List.replicate (scale - digits.length) '0' ++ digits

example : positional 12345 2 = ['1', '2', '3', '.', '4', '5'] := by decide

example : positional 5 3 = ['0', '.', '0', '0', '5'] := by decide

/-- Splits at the first occurrence of `mark`, which belongs to neither part. Without one the
second part is absent. -/
def splitAt (mark : Char) : List Char → List Char × Option (List Char)
  | [] => ([], none)
  | first :: rest =>
      if first == mark then ([], some rest)
      else
        let parts := splitAt mark rest
        (first :: parts.1, parts.2)

end LendingPool.Digits
