import LendingPool.Fault.Input
/-! Permit signatures, and the blobs in which wallets hand them over.

A blob is hexadecimal text of 65 bytes, which are `r`, `s` and a recovery byte, or of 64 bytes,
which are `r` and a word that holds the parity in its top bit and `s` below it. -/

namespace LendingPool

structure Signature where
  v : UInt8
  r : Word
  s : Word
deriving DecidableEq, Repr, Inhabited

namespace Signature

/-- The recovery value is 27 for an even parity and 28 for an odd one. -/
def ofParity (odd : Bool) (r s : Word) : Signature :=
  ⟨if odd then 28 else 27, r, s⟩

/-- Whether a recovery byte says odd. The bytes 0 and 1 say it plainly, 27 and 28 by an offset,
and all from 35 up count pairs of values, one pair for each chain. -/
def parity? (recovery : UInt8) : Option Bool :=
  if recovery = 0 ∨ recovery = 27 then some false
  else if recovery = 1 ∨ recovery = 28 then some true
  else if 35 ≤ recovery then some ((recovery - 35) % 2 = 1)
  else none

def ofLong (bytes : Bytes) (recovery : UInt8) : Except SignatureProblem Signature :=
  match parity? recovery with
  | some odd => .ok (ofParity odd (Word.ofBytes (bytes.take 32)) (Word.ofBytes (bytes.drop 32)))
  | none => .error (.badParity recovery)

def ofShort (bytes : Bytes) : Signature :=
  let second := Bytes.toNat (bytes.drop 32)
  ofParity (2 ^ 255 ≤ second) (Word.ofBytes (bytes.take 32)) (Word.ofNat (second % 2 ^ 255))

def ofBytes (bytes : Bytes) : Except SignatureProblem Signature :=
  if bytes.length = 65 then ofLong (bytes.take 64) (bytes.getLastD 0)
  else if bytes.length = 64 then .ok (ofShort bytes)
  else .error .badLength

def parse (blob : String) : Except InputFault Signature :=
  match Bytes.ofHex? blob with
  | none => .error (.invalidSignature blob .notHex)
  | some bytes => (ofBytes bytes).mapError (.invalidSignature blob)

end Signature

end LendingPool
