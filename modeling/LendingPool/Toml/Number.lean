import LendingPool.Toml.Text
import LendingPool.Toml.Value
/-! Numbers and moments of TOML. -/

namespace LendingPool.Toml.Grammar

open Scanner

/-! ## Digits

A single underscore may stand between two digits. -/

def digitRun (isDigit : Char → Bool) : Scanner (List Char) :=
  List.flatten <$> separated (takeSome isDigit) (expect '_')

def sign : Scanner (Option Char) :=
  opt (takeIf fun c => c == '+' || c == '-')

def decimalDigits : Scanner (Bool × List Char) := do
  let sign ← sign
  let digits ← match ← peek with
    | some '0' => do expect '0'; pure ['0']
    | _ => digitRun Char.isDigit
  return (sign == some '-', digits)

/-! ## Integers -/

def inRange (value : Int) : Scanner Toml := do
  guard (-2 ^ 63 ≤ value ∧ value < 2 ^ 63)
  return .integer value

def basedInteger (mark : List Char) (base : Nat) (isDigit : Char → Bool) : Scanner Toml := do
  expectAll mark
  let digits ← digitRun isDigit
  inRange (digits.foldl (fun value c => value * base + (Bytes.hexValue? c).getD 0) 0 : Nat)

def decimalInteger : Scanner Toml := do
  let (negative, digits) ← decimalDigits
  let value : Int := Digits.value digits
  inRange (if negative then -value else value)

def integer : Scanner Toml :=
  basedInteger ['0', 'x'] 16 (fun c => (Bytes.hexValue? c).isSome) <|>
    basedInteger ['0', 'o'] 8 (fun c => '0' ≤ c && c ≤ '7') <|>
    basedInteger ['0', 'b'] 2 (fun c => c == '0' || c == '1') <|>
    decimalInteger

/-! ## Floats -/

def exponent : Scanner Int := do
  discard (takeIf fun c => c == 'e' || c == 'E')
  let sign ← sign
  let value : Int := Digits.value (← digitRun Char.isDigit)
  return if sign == some '-' then -value else value

def fraction : Scanner (List Char) := do
  expect '.'
  digitRun Char.isDigit

/-- A float has a fraction, an exponent, or both. One that is too large is refused above zero, and
is an infinity below. -/
def decimalFloat : Scanner Toml := do
  let (negative, whole) ← decimalDigits
  let fraction ← opt fraction
  let exponent ← opt exponent
  guard (fraction.isSome || exponent.isSome)
  let places := fraction.getD []
  let value := Binary64.ofDecimal? negative (Digits.value (whole ++ places))
    (exponent.getD 0 - places.length)
  guard (value.isSome || negative)
  return .float value

def specialFloat : Scanner Toml := do
  discard sign
  expectAll ['i', 'n', 'f'] <|> expectAll ['n', 'a', 'n']
  return .float none

/-! ## Moments -/

def bounded (digits least greatest : Nat) : Scanner Nat := do
  let value := Digits.value (← takeExactly digits Char.isDigit)
  guard (least ≤ value ∧ value ≤ greatest)
  return value

def daysIn (year month : Nat) : Nat :=
  if month = 2 then
    if year % 4 = 0 ∧ (year % 100 ≠ 0 ∨ year % 400 = 0) then 29 else 28
  else if month ∈ [4, 6, 9, 11] then 30
  else 31

def date : Scanner Unit := do
  let year ← bounded 4 0 9999
  expect '-'
  let month ← bounded 2 1 12
  expect '-'
  discard (bounded 2 1 (daysIn year month))

def time : Scanner Unit := do
  discard (bounded 2 0 23)
  expect ':'
  discard (bounded 2 0 59)
  expect ':'
  discard (bounded 2 0 60)
  discard (opt (do expect '.'; takeSome Char.isDigit))

def zone : Scanner Unit :=
  (discard (takeIf fun c => c == 'Z' || c == 'z')) <|> do
    discard (takeIf fun c => c == '+' || c == '-')
    discard (bounded 2 0 23)
    expect ':'
    discard (bounded 2 0 59)

def moment : Scanner Unit :=
  (do
    date
    discard (opt (do
      discard (takeIf fun c => c == 'T' || c == 't' || c == ' ')
      time
      discard (opt zone)))) <|>
    time

/-- A date, a time, or both. It is kept as written. -/
def datetime : Scanner Toml := do
  let text ← get
  moment
  let rest ← get
  return .datetime (String.ofList (text.take (text.length - rest.length)))

def number : Scanner Toml :=
  datetime <|> decimalFloat <|> specialFloat <|> integer

end LendingPool.Toml.Grammar
