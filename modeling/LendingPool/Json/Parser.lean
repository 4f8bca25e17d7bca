import LendingPool.Json.Token
/-! Values from tokens. The reader takes one token at a time and keeps the arrays and objects that
are still open, the innermost first. -/

namespace LendingPool.Json

/-- An open array or object, with what it holds so far in reverse. The name of a member is absent
if it cannot be read. -/
inductive Frame
  | array (items : List Json)
  | object (members : List (Option String × Json))
  | named (members : List (Option String × Json)) (name : Option String)

inductive Expected
  | value
  | firstItem
  | firstName
  | name
  | colon
  | more
  | nothing (value : Json)

structure Reader where
  expected : Expected
  frames : List Frame

namespace Reader

def start : Reader := ⟨.value, []⟩

def give (value : Json) : List Frame → Option Reader
  | [] => some ⟨.nothing value, []⟩
  | .array items :: frames => some ⟨.more, .array (value :: items) :: frames⟩
  | .named members name :: frames => some ⟨.more, .object ((name, value) :: members) :: frames⟩
  | .object _ :: _ => none

/-- An object of which one name cannot be read cannot be read as a whole. -/
def closeObject (members : List (Option String × Json)) : Json :=
  match members.reverse.mapM (fun (name, value) => name.map (·, value)) with
  | some members => .object members
  | none => .unreadable

def value? (frames : List Frame) : Token → Option Reader
  | .openArray => some ⟨.firstItem, .array [] :: frames⟩
  | .openObject => some ⟨.firstName, .object [] :: frames⟩
  | .text value => give ((value.map .string).getD .unreadable) frames
  | .number value => give ((value.map .number).getD .unreadable) frames
  | .null => give .null frames
  | .bool value => give (.bool value) frames
  | _ => none

def name? : List Frame → Token → Option Reader
  | .object members :: frames, .text name => some ⟨.colon, .named members name :: frames⟩
  | _, _ => none

def close? : List Frame → Token → Option Reader
  | .array items :: frames, .closeArray => give (.array items.reverse) frames
  | .object members :: frames, .closeObject => give (closeObject members) frames
  | _, _ => none

def step (reader : Reader) (token : Token) : Option Reader :=
  match reader.expected with
  | .value => value? reader.frames token
  | .firstItem => close? reader.frames token <|> value? reader.frames token
  | .firstName => close? reader.frames token <|> name? reader.frames token
  | .name => name? reader.frames token
  | .colon => if token = .colon then some { reader with expected := .value } else none
  | .more =>
      match token, reader.frames with
      | .comma, .array _ :: _ => some { reader with expected := .value }
      | .comma, .object _ :: _ => some { reader with expected := .name }
      | token, frames => close? frames token
  | .nothing _ => none

def finish? (reader : Reader) : Option Json :=
  match reader.expected with
  | .nothing value => some value
  | _ => none

end Reader

def ofTokens? (tokens : List Token) : Option Json := do
  let reader ← tokens.foldlM Reader.step Reader.start
  reader.finish?

def parse? (text : String) : Option Json := do
  ofTokens? (← tokens? text.toList)

/-- How deep arrays and objects may nest in a value that is read as a whole. -/
def depthLimit : Nat := 127

def parseReadable? (text : String) : Option Json := do
  let value ← parse? text
  guard (value.isReadable depthLimit)
  return value

end LendingPool.Json
