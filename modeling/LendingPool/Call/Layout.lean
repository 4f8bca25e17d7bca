import LendingPool.Word
/-! Fields packed side by side into one word, the first in the lowest bits. -/

namespace LendingPool

abbrev PackedFields : List Nat → Type
  | [] => Unit
  | width :: widths => BitVec width × PackedFields widths

namespace PackedFields

def toNat : (widths : List Nat) → PackedFields widths → Nat
  | [], () => 0
  | width :: widths, (field, fields) => field.toNat + 2 ^ width * toNat widths fields

def ofNat : (widths : List Nat) → Nat → PackedFields widths
  | [], _ => ()
  | width :: widths, packed =>
      (BitVec.ofNat width packed, ofNat widths (packed / 2 ^ width))

def toWord (widths : List Nat) (fields : PackedFields widths) : Word :=
  Word.ofNat (toNat widths fields)

/-- The fields in a word. Bits above the last field are ignored. -/
def ofWord (widths : List Nat) (word : Word) : PackedFields widths :=
  ofNat widths word.toNat

example : toNat [8, 8] (0x34#8, 0x12#8, ()) = 0x1234 := rfl

example : ofNat [8, 8] 0x991234 = (0x34#8, 0x12#8, ()) := rfl

end PackedFields

end LendingPool
