import LendingPool.Address
import LendingPool.Json.Printer
/-! The message that an owner signs so that a spender may take tokens without an approval: as the
typed data that wallets show, and as the hash that they sign. -/

namespace LendingPool

structure PermitMessage where
  token : Address
  tokenName : String
  chainId : UInt64
  owner : Address
  spender : Address
  value : Word
  nonce : Word
  deadline : UInt64
deriving DecidableEq, Repr

namespace PermitMessage

/-! ## Types -/

def version : String := "1"

def domainMembers : List (String × String) := [
  ("name", "string"), ("version", "string"), ("chainId", "uint256"),
  ("verifyingContract", "address")]

def messageMembers : List (String × String) := [
  ("owner", "address"), ("spender", "address"), ("value", "uint256"), ("nonce", "uint256"),
  ("deadline", "uint256")]

/-- A type as it enters hashes: its name, then its members in parentheses. -/
def typeText (name : String) (members : List (String × String)) : String :=
  name ++ "(" ++ ",".intercalate (members.map fun (name, type) => type ++ " " ++ name) ++ ")"

/-! ## Typed data

Members are sorted by name. Addresses are checksummed, and numbers are decimal texts. -/

def membersJson (members : List (String × String)) : Json :=
  .array (members.map fun (name, type) =>
    .object [("name", .string name), ("type", .string type)])

def domainJson (message : PermitMessage) : Json :=
  .object [
    ("chainId", .ofNat message.chainId.toNat),
    ("name", .string message.tokenName),
    ("verifyingContract", .string message.token.checksum),
    ("version", .string version)]

def bodyJson (message : PermitMessage) : Json :=
  .object [
    ("deadline", .string (toString message.deadline.toNat)),
    ("nonce", .string message.nonce.toDecimal),
    ("owner", .string message.owner.checksum),
    ("spender", .string message.spender.checksum),
    ("value", .string message.value.toDecimal)]

def typedData (message : PermitMessage) : Json :=
  .object [
    ("domain", message.domainJson),
    ("message", message.bodyJson),
    ("primaryType", .string "Permit"),
    ("types", .object [
      ("EIP712Domain", membersJson domainMembers),
      ("Permit", membersJson messageMembers)])]

/-! ## Signing hash -/

def textHash (text : String) : Bytes :=
  keccak256 (Bytes.ofText text)

def domainHash (message : PermitMessage) : Bytes :=
  keccak256 (textHash (typeText "EIP712Domain" domainMembers) ++ textHash message.tokenName ++
    textHash version ++ (Word.ofNat message.chainId.toNat).toBytes ++ message.token.toWord.toBytes)

def bodyHash (message : PermitMessage) : Bytes :=
  keccak256 (textHash (typeText "Permit" messageMembers) ++ message.owner.toWord.toBytes ++
    message.spender.toWord.toBytes ++ message.value.toBytes ++ message.nonce.toBytes ++
    (Word.ofNat message.deadline.toNat).toBytes)

def signingHash (message : PermitMessage) : Word :=
  Word.ofBytes (keccak256 ([0x19, 0x01] ++ message.domainHash ++ message.bodyHash))

end PermitMessage

end LendingPool
