import LendingPool.Toml.Value
/-! Schemas of TOML tables: which keys there have to be, which there may be, and what is to be
found under them. A fault says where it is by the keys that lead there. -/

namespace LendingPool

inductive ValueRule
  | address
  | webUrl
deriving DecidableEq, Repr

inductive FieldType
  | text
  | integer (least greatest : Option Int)
  | decimal
  | boolean
  | map (element : FieldType)
  | table (required optional : List (String × FieldType × Option ValueRule))
deriving Repr

abbrev Field := String × FieldType × Option ValueRule

inductive ValueProblem
  | belowLeast (value least : Int)
  | aboveGreatest (value greatest : Int)
  | notDecimal (text : String)
  | notText
  | noHexMark (text : String)
  | notAddress (text : String)
  | notWebUrl
deriving DecidableEq, Repr

def ValueProblem.message : ValueProblem → String
  | belowLeast value least => s!"Value {value} is less than minimum {least}"
  | aboveGreatest value greatest => s!"Value {value} is greater than maximum {greatest}"
  | notDecimal text => "'" ++ text ++ "' is not a decimal number"
  | notText => "expected a string"
  | noHexMark text => "'" ++ text ++ "' must start with 0x"
  | notAddress text => "'" ++ text ++ "' is not a 20-byte hex address"
  | notWebUrl => "rpc_url must be an http(s) URL"

inductive SchemaFault
  | missing (path : List String)
  | invalid (path : List String) (problem : ValueProblem)
  | mismatch (path : List String) (expected actual : String)
deriving DecidableEq, Repr

namespace SchemaFault

def pathText (path : List String) : String :=
  ".".intercalate path

def message : SchemaFault → String
  | missing path => "Missing required field: " ++ pathText path
  | invalid path problem =>
      "Invalid value for field '" ++ pathText path ++ "': " ++ problem.message
  | mismatch path expected actual =>
      "Type mismatch for field '" ++ pathText path ++ "': expected " ++ expected ++
        ", got " ++ actual

end SchemaFault

/-! ## Rules -/

def isHexDigit (c : Char) : Bool :=
  c.isDigit || ('a' ≤ c && c ≤ 'f') || ('A' ≤ c && c ≤ 'F')

def addressProblem? : Toml → Option ValueProblem
  | .string text =>
      match text.toList with
      | '0' :: 'x' :: digits =>
          if digits.length = 40 && digits.all isHexDigit then none else some (.notAddress text)
      | _ => some (.noHexMark text)
  | _ => some .notText

def webUrlProblem? : Toml → Option ValueProblem
  | .string text =>
      if "http://".toList.isPrefixOf text.toList || "https://".toList.isPrefixOf text.toList
      then none else some .notWebUrl
  | _ => some .notWebUrl

def ValueRule.problem? : ValueRule → Toml → Option ValueProblem
  | address => addressProblem?
  | webUrl => webUrlProblem?

def checkRule (rule : Option ValueRule) (path : List String) (value : Toml) :
    Except SchemaFault Unit :=
  match rule.bind (·.problem? value) with
  | some problem => .error (.invalid path problem)
  | none => .ok ()

/-! ## Types -/

def mismatch (path : List String) (expected : String) (value : Toml) : SchemaFault :=
  .mismatch path expected value.typeName

def checkInteger (least greatest : Option Int) (path : List String) (value : Int) :
    Except SchemaFault Unit := do
  if let some least := least then
    if value < least then throw (.invalid path (.belowLeast value least))
  if let some greatest := greatest then
    if greatest < value then throw (.invalid path (.aboveGreatest value greatest))

mutual

/-- Checks a value that is found at the end of a path. Where a table is expected and something
else is found, the fault is one key further on, at `root`. -/
def FieldType.check : FieldType → (path : List String) → Toml → Except SchemaFault Unit
  | .text, path, value =>
      match value with
      | .string _ => .ok ()
      | value => .error (mismatch path "string" value)
  | .integer least greatest, path, value =>
      match value with
      | .integer value => checkInteger least greatest path value
      | value => .error (mismatch path "integer" value)
  | .decimal, path, value =>
      match value with
      | .integer _ | .float _ => .ok ()
      | .string text =>
          if (Decimal96.ofText? text).isSome then .ok ()
          else .error (.invalid path (.notDecimal text))
      | value => .error (mismatch path "decimal" value)
  | .boolean, path, value =>
      match value with
      | .boolean _ => .ok ()
      | value => .error (mismatch path "boolean" value)
  | .map element, path, value =>
      match value with
      | .table entries => entries.forM fun (key, item) => element.check (path ++ [key]) item
      | value => .error (mismatch path "table" value)
  | .table required optional, path, value =>
      match value with
      | .table entries => do
          checkRequired required path entries
          checkOptional optional path entries
      | value => .error (mismatch (path ++ ["root"]) "table" value)

def checkRequired : List (String × FieldType × Option ValueRule) → (path : List String) →
    List (String × Toml) → Except SchemaFault Unit
  | [], _, _ => .ok ()
  | (key, type, rule) :: fields, path, entries => do
      match entries.lookup key with
      | none => throw (.missing (path ++ [key]))
      | some value =>
          type.check (path ++ [key]) value
          checkRule rule (path ++ [key]) value
          checkRequired fields path entries

def checkOptional : List (String × FieldType × Option ValueRule) → (path : List String) →
    List (String × Toml) → Except SchemaFault Unit
  | [], _, _ => .ok ()
  | (key, type, rule) :: fields, path, entries => do
      match entries.lookup key with
      | none => checkOptional fields path entries
      | some value =>
          type.check (path ++ [key]) value
          checkRule rule (path ++ [key]) value
          checkOptional fields path entries

end

structure Schema where
  required : List Field
  optional : List Field

def Schema.check (schema : Schema) (value : Toml) : Except SchemaFault Unit :=
  (FieldType.table schema.required schema.optional).check [] value

end LendingPool
