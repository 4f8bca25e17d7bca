import LendingPool.Abi.Type
/-! Arguments as bytes, and back.

A parameter list is written as heads followed by tails. Words and records are heads in place. Any
other parameter has as its head the distance to its tail, counted from the first head, and the
tails follow in the order of the parameters. Reading accepts this one layout only: each
distance has to be the one at which its tail is written, padding has to be zero, and nothing may
be missing or left over. -/

namespace LendingPool.Abi

/-! ## Words and records -/

def encodeRecord : (types : List WordType) → RecordValue types → Bytes
  | [], () => []
  | type :: types, (value, values) => (type.toWord value).toBytes ++ encodeRecord types values

def takeWord? (bytes : Bytes) : Option (Word × Bytes) :=
  if bytes.length < 32 then none else some (Word.ofBytes (bytes.take 32), bytes.drop 32)

def decodeRecord? : (types : List WordType) → Bytes → Option (RecordValue types × Bytes)
  | [], bytes => some ((), bytes)
  | type :: types, bytes => do
      let (word, bytes) ← takeWord? bytes
      let value ← type.ofWord? word
      let (values, bytes) ← decodeRecord? types bytes
      return ((value, values), bytes)

/-! ## Byte strings and arrays -/

def paddingLength (length : Nat) : Nat :=
  (32 - length % 32) % 32

def encodeBytes (bytes : Bytes) : Bytes :=
  (Word.ofNat bytes.length).toBytes ++ bytes ++ List.replicate (paddingLength bytes.length) 0

def decodeBytes? (bytes : Bytes) : Option (Bytes × Bytes) := do
  let (length, bytes) ← takeWord? bytes
  let length := length.toNat
  guard (length ≤ bytes.length)
  let rest := bytes.drop length
  let padding := paddingLength length
  guard (rest.take padding = List.replicate padding 0)
  return (bytes.take length, rest.drop padding)

def encodeElements (type : WordType) : List type.Value → Bytes
  | [] => []
  | value :: values => (type.toWord value).toBytes ++ encodeElements type values

def decodeElements? (type : WordType) : (count : Nat) → Bytes → Option (List type.Value × Bytes)
  | 0, bytes => some ([], bytes)
  | count + 1, bytes => do
      let (word, bytes) ← takeWord? bytes
      let value ← type.ofWord? word
      let (values, bytes) ← decodeElements? type count bytes
      return (value :: values, bytes)

/-! ## One parameter -/

def ParameterType.headSize : ParameterType → Nat
  | .record members => 32 * members.length
  | _ => 32

def headSize : List ParameterType → Nat
  | [] => 0
  | type :: types => type.headSize + headSize types

inductive Placed
  | head (bytes : Bytes)
  | tail (bytes : Bytes)

def ParameterType.place : (type : ParameterType) → type.Value → Placed
  | .word type, value => .head (type.toWord value).toBytes
  | .record members, values => .head (encodeRecord members values)
  | .bytes, value => .tail (encodeBytes value)
  | .text, value => .tail (encodeBytes (Bytes.ofText value))
  | .array element, values =>
      .tail ((Word.ofNat values.length).toBytes ++ encodeElements element values)

/-- Reads a parameter from the heads or, if it has one, from its tail. Both rests are returned,
and the tail has to begin `distance` bytes after the first head. -/
def ParameterType.take? (distance : Nat) :
    (type : ParameterType) → (heads tails : Bytes) → Option (type.Value × Bytes × Bytes)
  | .word type, heads, tails => do
      let (head, heads) ← takeWord? heads
      return (← type.ofWord? head, heads, tails)
  | .record members, heads, tails => do
      let (values, heads) ← decodeRecord? members heads
      return (values, heads, tails)
  | .bytes, heads, tails => do
      let (written, heads) ← takeWord? heads
      guard (written.toNat = distance)
      let (value, tails) ← decodeBytes? tails
      return (value, heads, tails)
  | .text, heads, tails => do
      let (written, heads) ← takeWord? heads
      guard (written.toNat = distance)
      let (value, tails) ← decodeBytes? tails
      return (← Bytes.toText? value, heads, tails)
  | .array element, heads, tails => do
      let (written, heads) ← takeWord? heads
      guard (written.toNat = distance)
      let (count, tails) ← takeWord? tails
      let (values, tails) ← decodeElements? element count.toNat tails
      return (values, heads, tails)

/-! ## Parameter lists -/

def place : (types : List ParameterType) → Arguments types → List Placed
  | [], () => []
  | type :: types, (value, values) => type.place value :: place types values

/-- Heads followed by tails, when the next tail begins `distance` bytes after the first head. -/
def layOut (distance : Nat) : List Placed → (heads tails : Bytes) → Bytes
  | [], heads, tails => heads ++ tails
  | .head bytes :: rest, heads, tails => layOut distance rest (heads ++ bytes) tails
  | .tail bytes :: rest, heads, tails =>
      layOut (distance + bytes.length) rest
        (heads ++ (Word.ofNat distance).toBytes) (tails ++ bytes)

def encode (types : List ParameterType) (values : Arguments types) : Bytes :=
  layOut (headSize types) (place types values) [] []

def decodeFrom? (distance : Nat) :
    (types : List ParameterType) → (heads tails : Bytes) → Option (Arguments types)
  | [], heads, tails => if heads.isEmpty && tails.isEmpty then some () else none
  | type :: types, heads, tails => do
      let (value, heads, rest) ← type.take? distance heads tails
      let values ← decodeFrom? (distance + (tails.length - rest.length)) types heads rest
      return (value, values)

def decode? (types : List ParameterType) (bytes : Bytes) : Option (Arguments types) :=
  let size := headSize types
  decodeFrom? size types (bytes.take size) (bytes.drop size)

/-! ## Methods -/

/-- A contract method. The selector is the first four bytes of the hash of its signature. -/
structure Method where
  name : String
  selector : Bytes
  inputs : List ParameterType

namespace Method

def signature (method : Method) : String :=
  method.name ++ "(" ++ ",".intercalate (method.inputs.map ParameterType.name) ++ ")"

def encode (method : Method) (values : Arguments method.inputs) : Bytes :=
  method.selector ++ Abi.encode method.inputs values

def decode? (method : Method) (data : Bytes) : Option (Arguments method.inputs) :=
  if data.take 4 = method.selector then Abi.decode? method.inputs (data.drop 4) else none

end Method

structure Form (Call : Type) where
  method : Method
  build : Arguments method.inputs → Call

def decodeForms? {Call : Type} (forms : List (Form Call)) (data : Bytes) : Option Call :=
  forms.findSome? fun form => (form.method.decode? data).map form.build

end LendingPool.Abi
