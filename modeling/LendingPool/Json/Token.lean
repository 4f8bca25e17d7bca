import LendingPool.Bytes
import LendingPool.Json.Value
/-! The tokens of JSON text. -/

namespace LendingPool.Json

/-- A token. A text or a number that spells no value has `none`. -/
inductive Token
  | openArray
  | closeArray
  | openObject
  | closeObject
  | comma
  | colon
  | text (value : Option String)
  | number (value : Option JsonNumber)
  | null
  | bool (value : Bool)
deriving DecidableEq, Repr

/-! ## Numbers

A number is an integer part without needless zeros, and optionally a fraction and an exponent.
Without the last two it is an integer, if it is in range. Of a real, those leading digits count
that fit 64 bits. It is rounded once for its digits and once more for its power of ten. -/

structure NumberText where
  negative : Bool
  whole : List Char
  fraction : Option (List Char)
  exponent : Option (Bool × List Char)

namespace NumberText

def exponentOf? : List Char → Option (Bool × List Char)
  | '-' :: digits => if !digits.isEmpty && Digits.all digits then some (true, digits) else none
  | '+' :: digits => if !digits.isEmpty && Digits.all digits then some (false, digits) else none
  | digits => if !digits.isEmpty && Digits.all digits then some (false, digits) else none

def isMark (c : Char) : Bool := c == 'e' || c == 'E'

def ofText? (text : List Char) : Option NumberText := do
  let (negative, text) := match text with
    | '-' :: text => (true, text)
    | text => (false, text)
  let mantissa := text.takeWhile (!isMark ·)
  let (whole, fraction) := Digits.splitAt '.' mantissa
  guard (!whole.isEmpty && Digits.all whole && (whole.length = 1 || whole.head? != some '0'))
  guard ((fraction.map fun digits => !digits.isEmpty && Digits.all digits).getD true)
  let exponent ← match text.dropWhile (!isMark ·) with
    | [] => some none
    | _ :: rest => (exponentOf? rest).map some
  return ⟨negative, whole, fraction, exponent⟩

/-- Takes in digits as long as they fit 64 bits. Gives the number and how many were taken. -/
def takeDigits (start : Nat) : List Char → Nat × Nat
  | [] => (start, 0)
  | digit :: digits =>
      let next := start * 10 + (digit.toNat - '0'.toNat)
      if next < 2 ^ 64 then
        let (value, count) := takeDigits next digits
        (value, count + 1)
      else (start, 0)

/-- Multiplies by a power of ten. Far below the least number everything is zero. -/
def scale? (number : Binary64) (power : Int) : Option Binary64 :=
  if number.significand = 0 then some number
  else if 308 < power then none
  else if 0 ≤ power then do number.mul? (← Binary64.powerOfTen? power.toNat)
  else if -308 ≤ power then do number.div? (← Binary64.powerOfTen? (-power).toNat)
  else if power < -616 then some (.zero number.negative)
  else do
    let number ← number.div? (← Binary64.powerOfTen? 308)
    number.div? (← Binary64.powerOfTen? (-power - 308).toNat)

def toReal? (number : NumberText) : Option Binary64 := do
  let (whole, wholeTaken) := takeDigits 0 number.whole
  let (digits, fractionTaken) := takeDigits whole (number.fraction.getD [])
  let exponent : Int := match number.exponent with
    | none => 0
    | some (negative, digits) => if negative then -Digits.value digits else Digits.value digits
  let power : Int := exponent + (number.whole.length - wholeTaken : Nat) - fractionTaken
  scale? (← Binary64.ofRatio? number.negative digits 1) power

/-- The number's value, if it has one. Minus zero is a real. -/
def value? (number : NumberText) : Option JsonNumber :=
  let whole := Digits.value number.whole
  if number.fraction.isNone && number.exponent.isNone then
    if !number.negative && decide (whole < 2 ^ 64) then some (.integer whole)
    else if number.negative && whole != 0 && decide (whole ≤ 2 ^ 63) then some (.integer (-whole))
    else number.toReal?.map .real
  else number.toReal?.map .real

end NumberText

/-! ## Texts -/

/-- Joins the code points and surrogates that a text was written with, if each leading surrogate
is followed by a trailing one and no trailing one stands alone. -/
def joinUnits : List Nat → Option (List Char)
  | [] => some []
  | [unit] => if 0xD800 ≤ unit ∧ unit < 0xE000 then none else some [Char.ofNat unit]
  | first :: second :: rest =>
      if 0xD800 ≤ first ∧ first < 0xDC00 then
        if 0xDC00 ≤ second ∧ second < 0xE000 then
          (joinUnits rest).map
            (Char.ofNat (0x10000 + (first - 0xD800) * 0x400 + (second - 0xDC00)) :: ·)
        else none
      else if 0xDC00 ≤ first ∧ first < 0xE000 then none
      else (joinUnits (second :: rest)).map (Char.ofNat first :: ·)

def escaped? : Char → Option Char
  | '"' => some '"'
  | '\\' => some '\\'
  | '/' => some '/'
  | 'b' => some '\x08'
  | 'f' => some '\x0c'
  | 'n' => some '\n'
  | 'r' => some '\r'
  | 't' => some '\t'
  | _ => none

/-! ## The lexer

It takes one character at a time. Inside a text it holds the units read so far, inside a number
or a word the characters, both in reverse. -/

inductive Mode
  | between
  | text (units : List Nat)
  | escape (units : List Nat)
  | code (units : List Nat) (digitsLeft value : Nat)
  | number (characters : List Char)
  | word (letters : List Char)

structure Lexer where
  mode : Mode
  tokens : List Token

namespace Lexer

def start : Lexer := ⟨.between, []⟩

def isBlank (c : Char) : Bool :=
  c == ' ' || c == '\n' || c == '\r' || c == '\t'

def isNumeric (c : Char) : Bool :=
  c.isDigit || c == '-' || c == '+' || c == '.' || c == 'e' || c == 'E'

def wordToken? (letters : List Char) : Option Token :=
  match String.ofList letters with
  | "null" => some .null
  | "true" => some (.bool true)
  | "false" => some (.bool false)
  | _ => none

def begin (tokens : List Token) (c : Char) : Option Lexer :=
  if isBlank c then some ⟨.between, tokens⟩
  else if c == '"' then some ⟨.text [], tokens⟩
  else if c.isDigit || c == '-' then some ⟨.number [c], tokens⟩
  else if c.isLower then some ⟨.word [c], tokens⟩
  else match c with
    | '[' => some ⟨.between, .openArray :: tokens⟩
    | ']' => some ⟨.between, .closeArray :: tokens⟩
    | '{' => some ⟨.between, .openObject :: tokens⟩
    | '}' => some ⟨.between, .closeObject :: tokens⟩
    | ',' => some ⟨.between, .comma :: tokens⟩
    | ':' => some ⟨.between, .colon :: tokens⟩
    | _ => none

def finish? (lexer : Lexer) : Option (List Token) :=
  match lexer.mode with
  | .between => some lexer.tokens
  | .number characters => do
      let number ← NumberText.ofText? characters.reverse
      return .number number.value? :: lexer.tokens
  | .word letters => do return (← wordToken? letters.reverse) :: lexer.tokens
  | .text _ | .escape _ | .code .. => none

def step (lexer : Lexer) (c : Char) : Option Lexer :=
  match lexer.mode with
  | .between => begin lexer.tokens c
  | .text units =>
      if c == '"' then
        some ⟨.between, .text ((joinUnits units.reverse).map String.ofList) :: lexer.tokens⟩
      else if c == '\\' then some { lexer with mode := .escape units }
      else if c.toNat < 0x20 then none
      else some { lexer with mode := .text (c.toNat :: units) }
  | .escape units =>
      if c == 'u' then some { lexer with mode := .code units 4 0 }
      else (escaped? c).map fun c => { lexer with mode := .text (c.toNat :: units) }
  | .code units left value => do
      let value := value * 16 + (← Bytes.hexValue? c)
      if left ≤ 1 then return { lexer with mode := .text (value :: units) }
      else return { lexer with mode := .code units (left - 1) value }
  | .number characters =>
      if isNumeric c then some { lexer with mode := .number (c :: characters) }
      else do begin (← lexer.finish?) c
  | .word letters =>
      if c.isLower then some { lexer with mode := .word (c :: letters) }
      else do begin (← lexer.finish?) c

end Lexer

def tokens? (text : List Char) : Option (List Token) := do
  let lexer ← text.foldlM Lexer.step Lexer.start
  return (← lexer.finish?).reverse

end LendingPool.Json
