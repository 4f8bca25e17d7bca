import LendingPool.Decimal.Binary64
/-! TOML values. -/

namespace LendingPool

/-- A TOML value. Infinities and what is not a number are floats without a value. The entries of
a table have different keys and are sorted by key. -/
inductive Toml
  | string (text : String)
  | integer (value : Int)
  | float (value : Option Binary64)
  | boolean (value : Bool)
  | datetime (text : String)
  | array (items : List Toml)
  | table (entries : List (String × Toml))
deriving Repr, Inhabited

namespace Toml

def typeName : Toml → String
  | string _ => "string"
  | integer _ => "integer"
  | float _ => "float"
  | boolean _ => "boolean"
  | datetime _ => "datetime"
  | array _ => "array"
  | table _ => "table"

def entries? : Toml → Option (List (String × Toml))
  | table entries => some entries
  | _ => none

/-- Inserts an entry into a sorted table in place of one with the same key. -/
def insertEntry (key : String) (value : Toml) : List (String × Toml) → List (String × Toml)
  | [] => [(key, value)]
  | (other, present) :: entries =>
      if key < other then (key, value) :: (other, present) :: entries
      else if key = other then (key, value) :: entries
      else (other, present) :: insertEntry key value entries

def ofEntries (entries : List (String × Toml)) : Toml :=
  table (entries.foldl (fun sorted (key, value) => insertEntry key value sorted) [])

end Toml

end LendingPool
