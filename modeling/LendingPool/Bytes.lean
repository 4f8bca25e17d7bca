/-! Byte strings: numbers written big-endian, and hexadecimal text. -/

namespace LendingPool

abbrev Bytes := List UInt8

namespace Bytes

/-! ## Numbers

`2 ^ n` on natural numbers is the power of the core library in every module of the project, also
in one whose other imports bring a second instance. -/

attribute [instance (20000), default_instance (20000)] instPowNat
attribute [instance (20000)] instNatPowNat

/-- The last `width` base-256 digits of `value`, most significant first. -/
def ofNat : (width : Nat) → (value : Nat) → Bytes
  | 0, _ => []
  | width + 1, value => ofNat width (value / 256) ++ [UInt8.ofNat value]

/-- The number whose base-256 digits are `bytes`, most significant first. -/
def toNat (bytes : Bytes) : Nat :=
  bytes.foldl (fun value byte => value * 256 + byte.toNat) 0

example : ofNat 3 258 = [0, 1, 2] := rfl

example : toNat [0, 1, 2] = 258 := rfl

/-! ## Hexadecimal text

Writing uses lower case. Reading takes either case and asks for whole bytes. -/

def hexDigit (value : Nat) : Char :=
  if value < 10 then Char.ofNat ('0'.toNat + value) else Char.ofNat ('a'.toNat + (value - 10))

def hexDigits (bytes : Bytes) : List Char :=
  bytes.flatMap fun byte => [hexDigit (byte.toNat / 16), hexDigit (byte.toNat % 16)]

def toHex (bytes : Bytes) : String :=
  "0x" ++ String.ofList (hexDigits bytes)

def hexValue? (digit : Char) : Option Nat :=
  if '0' ≤ digit ∧ digit ≤ '9' then some (digit.toNat - '0'.toNat)
  else if 'a' ≤ digit ∧ digit ≤ 'f' then some (digit.toNat - 'a'.toNat + 10)
  else if 'A' ≤ digit ∧ digit ≤ 'F' then some (digit.toNat - 'A'.toNat + 10)
  else none

def ofHexDigits? : List Char → Option Bytes
  | [] => some []
  | [_] => none
  | high :: low :: rest => do
      let high ← hexValue? high
      let low ← hexValue? low
      let rest ← ofHexDigits? rest
      return UInt8.ofNat (high * 16 + low) :: rest

def dropHexMark : List Char → List Char
  | '0' :: 'x' :: digits => digits
  | digits => digits

def ofHex? (text : String) : Option Bytes :=
  ofHexDigits? (dropHexMark text.toList)

example : toHex [0, 171] = "0x00ab" := rfl

example : ofHexDigits? ['A', 'b', '0'] = none := rfl

/-! ## Text -/

def ofText (text : String) : Bytes :=
  text.toUTF8.toList

def toText? (bytes : Bytes) : Option String :=
  String.fromUTF8? bytes.toByteArray

end Bytes

end LendingPool
