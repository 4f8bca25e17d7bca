import LendingPool.Json.Value
/-! Values as JSON, and back. A codec reads at least what it writes. -/

namespace LendingPool

structure Codec (α : Type) where
  write : α → Json
  read : Json → Option α
  read_write : ∀ value, read (write value) = some value

namespace Codec

def text : Codec String where
  write := .string
  read := Json.string?
  read_write _ := rfl

def flag : Codec Bool where
  write := .bool
  read := Json.bool?
  read_write _ := rfl

/-! ## Numbers

Only integers are read, and only those in range. -/

def ofNat {α : Type} (bound : Nat) (toNat : α → Nat) (ofNat : Nat → α)
    (toNat_lt : ∀ value, toNat value < bound) (ofNat_toNat : ∀ value, ofNat (toNat value) = value) :
    Codec α where
  write value := .ofNat (toNat value)
  read value := value.nat?.bind fun value => if value < bound then some (ofNat value) else none
  read_write value := by simp [Json.ofNat, Json.nat?, toNat_lt, ofNat_toNat]

def uint8 : Codec UInt8 :=
  ofNat (2 ^ 8) UInt8.toNat UInt8.ofNat (fun value => value.toNat_lt) (fun _ => UInt8.ofNat_toNat)

def uint16 : Codec UInt16 :=
  ofNat (2 ^ 16) UInt16.toNat UInt16.ofNat (fun value => value.toNat_lt)
    (fun _ => UInt16.ofNat_toNat)

def uint64 : Codec UInt64 :=
  ofNat (2 ^ 64) UInt64.toNat UInt64.ofNat (fun value => value.toNat_lt)
    (fun _ => UInt64.ofNat_toNat)

/-! ## Optional values and choices -/

/-- A value that may be null. The codec of the value itself must not write null. -/
def optional {α : Type} (codec : Codec α) (notNull : ∀ value, codec.write value ≠ .null) :
    Codec (Option α) where
  write
    | none => .null
    | some value => codec.write value
  read
    | .null => some none
    | value => some <$> codec.read value
  read_write
    | none => rfl
    | some value => by
        have law := codec.read_write value
        have other := notNull value
        cases written : codec.write value <;> simp_all

/-- A choice among names: the name itself, or an object whose only member has the name and
holds nothing. -/
def choice {α : Type} (name : α → String) (all : List α)
    (find_name : ∀ value, all.find? (fun other => name other == name value) = some value) :
    Codec α where
  write value := .string (name value)
  read
    | .string text | .object [(text, .null)] | .object [(text, .object [])] =>
        all.find? fun value => name value == text
    | _ => none
  read_write := find_name

end Codec

end LendingPool
