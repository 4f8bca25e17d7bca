import LendingPool.Address
/-! The parameter types of contract methods, and the values they stand for.

A parameter is a word, a record of words, a byte string, a text, or an array of words. Records
hold words only, so every parameter that has a variable size is a tail of its own. -/

namespace LendingPool.Abi

inductive WordType
  | uint (bits : Nat)
  | address
  | flag
  | bytes32
deriving DecidableEq, Repr

namespace WordType

abbrev Value : WordType → Type
  | uint bits => BitVec bits
  | address => Address
  | flag => Bool
  | bytes32 => Word

def name : WordType → String
  | uint bits => s!"uint{bits}"
  | address => "address"
  | flag => "bool"
  | bytes32 => "bytes32"

def toWord : (type : WordType) → type.Value → Word
  | uint _, value => Word.ofNat value.toNat
  | address, value => value.toWord
  | flag, value => if value then 1 else 0
  | bytes32, value => value

/-- The value in a word. The bits above the type have to be clear. A flag may be any number of
one byte, and is set unless that is zero. -/
def ofWord? : (type : WordType) → Word → Option type.Value
  | uint bits, word => if word.toNat < 2 ^ bits then some (BitVec.ofNat bits word.toNat) else none
  | address, word => Address.ofWord? word
  | flag, word => if word.toNat < 256 then some (word != 0) else none
  | bytes32, word => some word

end WordType

abbrev RecordValue : List WordType → Type
  | [] => Unit
  | type :: types => type.Value × RecordValue types

inductive ParameterType
  | word (type : WordType)
  | record (members : List WordType)
  | bytes
  | text
  | array (element : WordType)
deriving DecidableEq, Repr

namespace ParameterType

abbrev Value : ParameterType → Type
  | word type => type.Value
  | record members => RecordValue members
  | bytes => Bytes
  | text => String
  | array element => List element.Value

def name : ParameterType → String
  | word type => type.name
  | record members => "(" ++ ",".intercalate (members.map WordType.name) ++ ")"
  | bytes => "bytes"
  | text => "string"
  | array element => element.name ++ "[]"

end ParameterType

abbrev Arguments : List ParameterType → Type
  | [] => Unit
  | type :: types => type.Value × Arguments types

end LendingPool.Abi
