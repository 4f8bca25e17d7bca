import LendingPool.Word
import LendingPool.Keccak
/-! Account and contract addresses, with their checksummed spelling. -/

namespace LendingPool

structure Address where
  bits : BitVec 160
deriving DecidableEq, Repr, Inhabited

namespace Address

def zero : Address := ⟨0⟩

def ofNat (value : Nat) : Address :=
  ⟨BitVec.ofNat 160 value⟩

def toBytes (address : Address) : Bytes :=
  Bytes.ofNat 20 address.bits.toNat

def toWord (address : Address) : Word :=
  Word.ofNat address.bits.toNat

/-- The address in the low 160 bits of a word, if the bits above are clear. -/
def ofWord? (word : Word) : Option Address :=
  if word.toNat < 2 ^ 160 then some (ofNat word.toNat) else none

/-! ## Spelling -/

def digits (address : Address) : List Char :=
  Bytes.hexDigits address.toBytes

def toHex (address : Address) : String :=
  Bytes.toHex address.toBytes

/-- Forty digits in which a letter is upper case when the hash of the lower-case
spelling has a value of eight or more in the same place. -/
def checksumDigits (address : Address) : List Char :=
  let hash := Bytes.hexDigits (keccak256 (address.digits.map fun digit => UInt8.ofNat digit.toNat))
  List.zipWith (fun digit place => if '8' ≤ place then digit.toUpper else digit) address.digits hash

def checksum (address : Address) : String :=
  "0x" ++ String.ofList address.checksumDigits

instance : ToString Address := ⟨checksum⟩

/-! ## Reading

An address is `0x` and forty hexadecimal digits. Digits that mix upper and lower case letters
claim to be checksummed, and then have to be. -/

def ofHexDigits? (digits : List Char) : Option Address := do
  guard (digits.length = 40)
  let bytes ← Bytes.ofHexDigits? digits
  return ofNat (Bytes.toNat bytes)

def ofHex? (text : String) : Option Address :=
  match text.toList with
  | '0' :: 'x' :: digits => ofHexDigits? digits
  | _ => none

def mixesCase (digits : List Char) : Bool :=
  digits.any Char.isLower && digits.any Char.isUpper

def ofText? (text : String) : Option Address :=
  match text.toList with
  | '0' :: 'x' :: digits => do
      let address ← ofHexDigits? digits
      guard (!mixesCase digits || digits == address.checksumDigits)
      return address
  | _ => none

end Address

/-- The address by which callers name the native currency of the chain. -/
def nativeCurrency : Address :=
  ⟨0xEeeeeEeeeEeEeeEeEeEeeEEEeeeeEeeeeeeeEEeE⟩

end LendingPool
