import LendingPool.Bytes
import LendingPool.Json.Value
/-! JSON text. -/

namespace LendingPool.Json

/-! ## Texts

A quote, a backslash and the control characters are escaped, and nothing else. -/

def escape (c : Char) : List Char :=
  match c with
  | '"' => ['\\', '"']
  | '\\' => ['\\', '\\']
  | '\x08' => ['\\', 'b']
  | '\x0c' => ['\\', 'f']
  | '\n' => ['\\', 'n']
  | '\r' => ['\\', 'r']
  | '\t' => ['\\', 't']
  | c =>
      if c.toNat < 0x20 then
        ['\\', 'u', '0', '0', Bytes.hexDigit (c.toNat / 16), Bytes.hexDigit (c.toNat % 16)]
      else [c]

def quoted (text : String) : List Char :=
  '"' :: text.toList.flatMap escape ++ ['"']

/-! ## Numbers

A real has the fewest digits that read back. It is positional, with at least one digit after the
point, from five places after the point up to sixteen before it. -/

def realText (number : Binary64) : List Char :=
  let (digits, unit) := number.shortestDigits .toEven
  let point : Int := digits.length + unit
  let body :=
    if number.significand = 0 then ['0', '.', '0']
    else if 0 ≤ unit ∧ point ≤ 16 then digits ++ List.replicate unit.toNat '0' ++ ['.', '0']
    else if 0 < point ∧ point ≤ 16 then
      digits.take point.toNat ++ '.' :: digits.drop point.toNat
    else if -5 < point ∧ point ≤ 0 then
      '0' :: '.' :: List.replicate (-point).toNat '0' ++ digits
    else
      let exponent := 'e' :: (toString (point - 1)).toList
      match digits with
      | [digit] => digit :: exponent
      | digit :: rest => digit :: '.' :: rest ++ exponent
      | [] => exponent
  number.sign ++ body

def numberText : JsonNumber → List Char
  | .integer value => (toString value).toList
  | .real value => realText value

/-! ## One line -/

mutual

def render : Json → List Char
  | null | unreadable => ['n', 'u', 'l', 'l']
  | bool true => ['t', 'r', 'u', 'e']
  | bool false => ['f', 'a', 'l', 's', 'e']
  | number value => numberText value
  | string text => quoted text
  | array [] => ['[', ']']
  | array (item :: items) => '[' :: render item ++ renderItems items ++ [']']
  | object [] => ['{', '}']
  | object ((name, value) :: members) =>
      '{' :: quoted name ++ ':' :: render value ++ renderMembers members ++ ['}']

def renderItems : List Json → List Char
  | [] => []
  | item :: items => ',' :: render item ++ renderItems items

def renderMembers : List (String × Json) → List Char
  | [] => []
  | (name, value) :: members =>
      ',' :: quoted name ++ ':' :: render value ++ renderMembers members

end

def toText (value : Json) : String :=
  String.ofList (render value)

instance : ToString Json := ⟨toText⟩

/-! ## Indented -/

def newLine (depth : Nat) : List Char :=
  '\n' :: List.replicate (2 * depth) ' '

mutual

def renderIndented (depth : Nat) : Json → List Char
  | array (item :: items) =>
      '[' :: newLine (depth + 1) ++ renderIndented (depth + 1) item ++
        renderIndentedItems (depth + 1) items ++ newLine depth ++ [']']
  | object ((name, value) :: members) =>
      '{' :: newLine (depth + 1) ++ quoted name ++ ':' :: ' ' ::
        renderIndented (depth + 1) value ++
        renderIndentedMembers (depth + 1) members ++ newLine depth ++ ['}']
  | array [] => ['[', ']']
  | object [] => ['{', '}']
  | null => render null
  | bool value => render (bool value)
  | number value => render (number value)
  | string text => render (string text)
  | unreadable => render unreadable

def renderIndentedItems (depth : Nat) : List Json → List Char
  | [] => []
  | item :: items =>
      ',' :: newLine depth ++ renderIndented depth item ++ renderIndentedItems depth items

def renderIndentedMembers (depth : Nat) : List (String × Json) → List Char
  | [] => []
  | (name, value) :: members =>
      ',' :: newLine depth ++ quoted name ++ ':' :: ' ' :: renderIndented depth value ++
        renderIndentedMembers depth members

end

def toIndentedText (value : Json) : String :=
  String.ofList (renderIndented 0 value)

end LendingPool.Json
