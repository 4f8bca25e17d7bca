import LendingPool.Bytes
import LendingPool.Toml.Scanner
/-! Blanks, comments, line ends and texts of TOML. -/

namespace LendingPool.Toml.Grammar

open Scanner

/-! ## Blanks -/

def isBlank (c : Char) : Bool := c == ' ' || c == '\t'

def isPrintable (c : Char) : Bool :=
  c == '\t' || (0x20 ≤ c.toNat && c.toNat != 0x7F)

def blanks : Scanner Unit := discard (takeWhile isBlank)

def newLine : Scanner Unit :=
  expect '\n' <|> expectAll ['\r', '\n']

def comment : Scanner Unit := do
  expect '#'
  discard (takeWhile isPrintable)

def endOfText : Scanner Unit := do
  guard (← get).isEmpty

def lineEnd : Scanner Unit := do
  blanks
  discard (opt comment)
  newLine <|> endOfText

def spacing : Scanner Unit := do
  blanks
  discard (manyWhole (do discard (opt comment); newLine; blanks))

/-! ## Texts on one line -/

def scalar? (code : Nat) : Option Char :=
  if h : code.isValidChar then some (Char.ofNatAux code h) else none

def codeEscape (digits : Nat) : Scanner Char := do
  let digits ← takeExactly digits fun c => (Bytes.hexValue? c).isSome
  let code := digits.foldl (fun code c => code * 16 + (Bytes.hexValue? c).getD 0) 0
  match scalar? code with
  | some c => return c
  | none => failure

def escaped : Scanner Char := do
  match ← takeIf (fun _ => true) with
  | 'b' => return '\x08'
  | 't' => return '\t'
  | 'n' => return '\n'
  | 'f' => return '\x0c'
  | 'r' => return '\r'
  | '"' => return '"'
  | '\\' => return '\\'
  | 'u' => codeEscape 4
  | 'U' => codeEscape 8
  | _ => failure

def quotedText : Scanner (List Char) := do
  expect '"'
  let text ← manyWhole do
    let c ← takeIf fun c => isPrintable c && c != '"'
    if c == '\\' then escaped else return c
  expect '"'
  return text

def literalText : Scanner (List Char) := do
  expect '\''
  let text ← takeWhile fun c => isPrintable c && c != '\''
  expect '\''
  return text

/-! ## Texts over several lines

Three marks open and close such a text. One or two marks inside stand for themselves, also right
before the closing ones. A line end right after the opening ones does not count. -/

/-- One or two marks that are not part of three, unless the closing marks follow them. -/
def innerMarks (mark : Char) : Scanner (List Char) := do
  let text ← get
  let count := (text.takeWhile (· == mark)).length
  let inner := if count < 3 then count else if count = 4 ∨ count = 5 then count - 3 else 0
  guard (0 < inner)
  set (text.drop inner)
  return List.replicate inner mark

/-- A backslash at the end of a line, with the blanks and line ends that follow. -/
def lineContinuation : Scanner (List Char) := do
  expect '\\'
  blanks
  newLine
  discard (manyWhole (discard (takeIf isBlank) <|> newLine))
  return []

def lineBreak : Scanner (List Char) := do
  newLine
  return ['\n']

def multilineText (mark : Char) (part : Scanner (List Char)) : Scanner (List Char) := do
  expectAll [mark, mark, mark]
  discard (opt newLine)
  let parts ← manyWhole (part <|> lineBreak <|> innerMarks mark)
  expectAll [mark, mark, mark]
  return parts.flatten

def quotedPart : Scanner (List Char) :=
  lineContinuation <|> do
    let c ← takeIf fun c => isPrintable c && c != '"'
    if c == '\\' then return [← escaped] else return [c]

def literalPart : Scanner (List Char) := do
  return [← takeIf fun c => isPrintable c && c != '\'']

def text : Scanner String :=
  String.ofList <$>
    (multilineText '"' quotedPart <|> quotedText <|>
      multilineText '\'' literalPart <|> literalText)

/-! ## Keys -/

def isKeyCharacter (c : Char) : Bool :=
  c.isAlphanum || c == '_' || c == '-'

def simpleKey : Scanner String :=
  String.ofList <$> (quotedText <|> literalText <|> takeSome isKeyCharacter)

/-- Paths of keys have fewer parts than this, and values nest less deeply. -/
def depthLimit : Nat := 80

def keyPath : Scanner (List String) := do
  let path ← separated (do blanks; let key ← simpleKey; blanks; return key) (expect '.')
  guard (path.length < depthLimit)
  return path

end LendingPool.Toml.Grammar
