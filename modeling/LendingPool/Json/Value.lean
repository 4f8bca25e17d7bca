import LendingPool.Decimal.Binary64
/-! JSON values. -/

namespace LendingPool

/-- Integers from `-2 ^ 63` up to `2 ^ 64` are held exactly. All other numbers are reals. -/
inductive JsonNumber
  | integer (value : Int)
  | real (value : Binary64)
deriving DecidableEq, Repr, Inhabited

/-- A JSON value. Objects keep their members in order, repeated ones included. A well-formed
text that spells no value is `unreadable`: half of a surrogate pair, or a number too large. -/
inductive Json
  | null
  | bool (value : Bool)
  | number (value : JsonNumber)
  | string (text : String)
  | array (items : List Json)
  | object (members : List (String × Json))
  | unreadable
deriving Repr, Inhabited

namespace Json

def ofNat (value : Nat) : Json :=
  number (.integer value)

def nat? : Json → Option Nat
  | number (.integer value) => if 0 ≤ value then some value.toNat else none
  | _ => none

def string? : Json → Option String
  | string text => some text
  | _ => none

def bool? : Json → Option Bool
  | bool value => some value
  | _ => none

def array? : Json → Option (List Json)
  | array items => some items
  | _ => none

def members? : Json → Option (List (String × Json))
  | object members => some members
  | _ => none

def member? (name : String) : Json → Option Json
  | object members => members.reverse.lookup name
  | _ => none

mutual

/-- Whether everything in a value can be read, and arrays and objects nest at most `depth`
deep. -/
def isReadable (depth : Nat) : Json → Bool
  | unreadable => false
  | array items => 0 < depth && allReadable (depth - 1) items
  | object members => 0 < depth && allMembersReadable (depth - 1) members
  | null | bool _ | number _ | string _ => true

def allReadable (depth : Nat) : List Json → Bool
  | [] => true
  | item :: items => isReadable depth item && allReadable depth items

def allMembersReadable (depth : Nat) : List (String × Json) → Bool
  | [] => true
  | (_, value) :: members => isReadable depth value && allMembersReadable depth members

end

end Json

end LendingPool
