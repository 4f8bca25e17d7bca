import LendingPool.Bytes
/-! The 256-bit words that contract calls are made of. -/

namespace LendingPool

abbrev Word := BitVec 256

namespace Word

def max : Word := BitVec.allOnes 256

def ofNat (value : Nat) : Word := BitVec.ofNat 256 value

def ofNat? (value : Nat) : Option Word :=
  if value < 2 ^ 256 then some (ofNat value) else none

def toBytes (word : Word) : Bytes :=
  Bytes.ofNat 32 word.toNat

/-- The word that a byte string of at most 32 bytes spells. -/
def ofBytes (bytes : Bytes) : Word :=
  ofNat (Bytes.toNat bytes)

def toDecimal (word : Word) : String :=
  toString word.toNat

def toHex (word : Word) : String :=
  Bytes.toHex word.toBytes

end Word

/-- Hexadecimal text without leading zeros, the form in which nodes exchange numbers. -/
def quantityText (value : Nat) : String :=
  "0x" ++ String.ofList (Nat.toDigits 16 value)

example : quantityText 0 = "0x0" := by decide

end LendingPool
