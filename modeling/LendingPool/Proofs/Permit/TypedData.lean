import LendingPool.Permit.TypedData
import LendingPool.Proofs.Address
import LendingPool.Proofs.Json.RoundTrip
/-! The typed data of a permit against its signing hash. A wallet has nothing but the text that it
is shown. What it reads there is the permit itself, and the hash that it signs is the permit's
signing hash, although it gets there another way: it knows no permits, and takes the types, their
members and the order of these from the text. -/

namespace LendingPool

/-! ## Hashes of typed data

Members are words, texts and byte strings. Records and arrays inside of other types are not read. -/

namespace TypedData

/-- Names and types of the members of a type, in the order in which the typed data list them. -/
def membersOf? (typedData : Json) (type : String) : Option (List (String × String)) := do
  let types ← typedData.member? "types"
  let members ← (← types.member? type).array?
  members.mapM fun member => do
    return (← (← member.member? "name").string?, ← (← member.member? "type").string?)

def memberTexts : List (String × String) → String
  | [] => ""
  | [(name, type)] => type ++ " " ++ name
  | (name, type) :: next :: members => type ++ " " ++ name ++ "," ++ memberTexts (next :: members)

def typeText (type : String) (members : List (String × String)) : String :=
  type ++ "(" ++ memberTexts members ++ ")"

def number? : Json → Option Nat
  | .string digits => Digits.value? digits.toList
  | value => value.nat?

/-- How many bits a type of unsigned numbers has: those of whole bytes, up to a word. -/
def unsignedBits? (type : String) : Option Nat :=
  match type.toList with
  | 'u' :: 'i' :: 'n' :: 't' :: digits => do
      let bits ← Digits.value? digits
      guard (bits % 8 = 0 ∧ 0 < bits ∧ bits ≤ 256)
      return bits
  | _ => none

/-- What a value adds to a hash: a word, or the hash of what may be longer than one. -/
def encode? (type : String) (value : Json) : Option Bytes :=
  match type with
  | "string" => do return keccak256 (Bytes.ofText (← value.string?))
  | "bytes" => do return keccak256 (← Bytes.ofHex? (← value.string?))
  | "bytes32" => do
      let bytes ← Bytes.ofHex? (← value.string?)
      guard (bytes.length = 32)
      return bytes
  | "address" => do return (← Address.ofText? (← value.string?)).toWord.toBytes
  | "bool" => do return (if ← value.bool? then 1 else 0 : Word).toBytes
  | type => do
      let bits ← unsignedBits? type
      let number ← number? value
      guard (number < 2 ^ bits)
      return (Word.ofNat number).toBytes

def encodeMembers? (value : Json) : List (String × String) → Option Bytes
  | [] => some []
  | (name, type) :: members => do
      let first ← encode? type (← value.member? name)
      return first ++ (← encodeMembers? value members)

def structHash? (typedData : Json) (type : String) (value : Json) : Option Bytes := do
  let members ← membersOf? typedData type
  let encoded ← encodeMembers? value members
  return keccak256 (keccak256 (Bytes.ofText (typeText type members)) ++ encoded)

def digest? (typedData : Json) : Option Word := do
  let type ← (← typedData.member? "primaryType").string?
  let domain ← structHash? typedData "EIP712Domain" (← typedData.member? "domain")
  let message ← structHash? typedData type (← typedData.member? "message")
  return Word.ofBytes (keccak256 ([0x19, 0x01] ++ domain ++ message))

theorem memberTexts_eq (members : List (String × String)) :
    memberTexts members =
      ",".intercalate (members.map fun (name, type) => type ++ " " ++ name) := by
  induction members with
  | nil => exact String.intercalate_nil.symm
  | cons first members induction =>
      cases members with
      | nil => exact String.intercalate_singleton.symm
      | cons next members =>
          rw [memberTexts, induction]
          exact String.intercalate_cons_cons.symm

theorem typeText_eq (type : String) (members : List (String × String)) :
    typeText type members = PermitMessage.typeText type members := by
  rw [typeText, PermitMessage.typeText, memberTexts_eq]

example : typeText "Permit" PermitMessage.messageMembers =
    "Permit(address owner,address spender,uint256 value,uint256 nonce,uint256 deadline)" := by
  decide

theorem number?_ofNat (number : Nat) : number? (.ofNat number) = some number := by
  simp [number?, Json.ofNat, Json.nat?]

theorem number?_toString (number : Nat) :
    number? (.string (toString number)) = some number := by
  rw [number?, Digits.toList_toString, Digits.value?_ofNat]

theorem number?_toDecimal (word : Word) : number? (.string word.toDecimal) = some word.toNat := by
  rw [Word.toDecimal, number?_toString]

theorem encode?_string (text : String) :
    encode? "string" (.string text) = some (keccak256 (Bytes.ofText text)) := rfl

theorem encode?_checksum (address : Address) :
    encode? "address" (.string address.checksum) = some address.toWord.toBytes := by
  have reads := Address.ofText?_checksum address
  simp [encode?, Json.string?, reads]

theorem encode?_number {value : Json} {number : Nat} (reads : number? value = some number)
    (small : number < 2 ^ 256) :
    encode? "uint256" value = some (Word.ofNat number).toBytes := by
  have bits : unsignedBits? "uint256" = some 256 := rfl
  simp [encode?, bits, reads, small]

theorem encode?_toDecimal (word : Word) :
    encode? "uint256" (.string word.toDecimal) = some word.toBytes := by
  rw [encode?_number (number?_toDecimal word) word.isLt, Word.ofNat_toNat]

theorem encodeMembers?_cons {value member : Json} {name type : String} {first rest : Bytes}
    {members : List (String × String)} (found : value.member? name = some member)
    (encodes : encode? type member = some first)
    (others : encodeMembers? value members = some rest) :
    encodeMembers? value ((name, type) :: members) = some (first ++ rest) := by
  rw [encodeMembers?, found, others]
  simp [encodes]

theorem structHash?_of_encodes {typedData value : Json} {type : String}
    {members : List (String × String)} {encoded : Bytes}
    (listed : membersOf? typedData type = some members)
    (encodes : encodeMembers? value members = some encoded) :
    structHash? typedData type value =
      some (keccak256
        (PermitMessage.textHash (PermitMessage.typeText type members) ++ encoded)) := by
  rw [structHash?, listed, ← typeText_eq, PermitMessage.textHash]
  simp [encodes]

end TypedData

/-! ## Permits -/

namespace PermitMessage

open TypedData

def address? (name : String) (value : Json) : Option Address := do
  Address.ofText? (← (← value.member? name).string?)

def word? (name : String) (value : Json) : Option Word := do
  Word.ofNat? (← number? (← value.member? name))

def uint64? (name : String) (value : Json) : Option UInt64 := do
  let number ← number? (← value.member? name)
  guard (number < 2 ^ 64)
  return UInt64.ofNat number

def ofTypedData? (typedData : Json) : Option PermitMessage := do
  let domain ← typedData.member? "domain"
  let message ← typedData.member? "message"
  return {
    token := ← address? "verifyingContract" domain
    tokenName := ← (← domain.member? "name").string?
    chainId := ← uint64? "chainId" domain
    owner := ← address? "owner" message
    spender := ← address? "spender" message
    value := ← word? "value" message
    nonce := ← word? "nonce" message
    deadline := ← uint64? "deadline" message }

theorem address?_checksum {name : String} {value : Json} {address : Address}
    (found : value.member? name = some (.string address.checksum)) :
    address? name value = some address := by
  exact Option.bind_eq_some_iff.mpr
    ⟨_, found, Option.bind_eq_some_iff.mpr ⟨_, rfl, Address.ofText?_checksum address⟩⟩

theorem word?_toDecimal {name : String} {value : Json} {word : Word}
    (found : value.member? name = some (.string word.toDecimal)) :
    word? name value = some word := by
  have fits : Word.ofNat? word.toNat = some word := by
    rw [Word.ofNat?, if_pos word.isLt, Word.ofNat_toNat]
  exact Option.bind_eq_some_iff.mpr
    ⟨_, found, Option.bind_eq_some_iff.mpr ⟨_, number?_toDecimal word, fits⟩⟩

theorem uint64?_of_reads {name : String} {value member : Json} {number : UInt64}
    (found : value.member? name = some member) (reads : number? member = some number.toNat) :
    uint64? name value = some number := by
  rw [uint64?, found]
  simp [reads, number.toNat_lt]

variable (message : PermitMessage)

theorem ofTypedData?_typedData : ofTypedData? message.typedData = some message := by
  have domain : message.typedData.member? "domain" = some message.domainJson := rfl
  have body : message.typedData.member? "message" = some message.bodyJson := rfl
  have token : address? "verifyingContract" message.domainJson = some message.token :=
    address?_checksum rfl
  have name : message.domainJson.member? "name" = some (.string message.tokenName) := rfl
  have chainId : uint64? "chainId" message.domainJson = some message.chainId :=
    uint64?_of_reads rfl (number?_ofNat _)
  have owner : address? "owner" message.bodyJson = some message.owner := address?_checksum rfl
  have spender : address? "spender" message.bodyJson = some message.spender := address?_checksum rfl
  have value : word? "value" message.bodyJson = some message.value := word?_toDecimal rfl
  have nonce : word? "nonce" message.bodyJson = some message.nonce := word?_toDecimal rfl
  have deadline : uint64? "deadline" message.bodyJson = some message.deadline :=
    uint64?_of_reads rfl (number?_toString _)
  rw [ofTypedData?, domain, body]
  simp [token, name, Json.string?, chainId, owner, spender, value, nonce, deadline]

theorem structHash?_domain :
    structHash? message.typedData "EIP712Domain" message.domainJson = some message.domainHash := by
  have chainId : message.chainId.toNat < 2 ^ 256 :=
    Nat.lt_trans message.chainId.toNat_lt (by decide)
  have encodes : encodeMembers? message.domainJson domainMembers =
      some (textHash message.tokenName ++ (textHash version ++
        ((Word.ofNat message.chainId.toNat).toBytes ++ (message.token.toWord.toBytes ++ [])))) :=
    encodeMembers?_cons rfl (encode?_string _) <|
    encodeMembers?_cons rfl (encode?_string _) <|
    encodeMembers?_cons rfl (encode?_number (number?_ofNat _) chainId) <|
    encodeMembers?_cons rfl (encode?_checksum _) rfl
  rw [structHash?_of_encodes rfl encodes, domainHash, List.append_nil]
  simp only [List.append_assoc]

theorem structHash?_body :
    structHash? message.typedData "Permit" message.bodyJson = some message.bodyHash := by
  have deadline : message.deadline.toNat < 2 ^ 256 :=
    Nat.lt_trans message.deadline.toNat_lt (by decide)
  have encodes : encodeMembers? message.bodyJson messageMembers =
      some (message.owner.toWord.toBytes ++ (message.spender.toWord.toBytes ++
        (message.value.toBytes ++ (message.nonce.toBytes ++
          ((Word.ofNat message.deadline.toNat).toBytes ++ []))))) :=
    encodeMembers?_cons rfl (encode?_checksum _) <|
    encodeMembers?_cons rfl (encode?_checksum _) <|
    encodeMembers?_cons rfl (encode?_toDecimal _) <|
    encodeMembers?_cons rfl (encode?_toDecimal _) <|
    encodeMembers?_cons rfl (encode?_number (number?_toString _) deadline) rfl
  rw [structHash?_of_encodes rfl encodes, bodyHash, List.append_nil]
  simp only [List.append_assoc]

theorem digest?_typedData : digest? message.typedData = some message.signingHash := by
  have type : message.typedData.member? "primaryType" = some (.string "Permit") := rfl
  have domain : message.typedData.member? "domain" = some message.domainJson := rfl
  have body : message.typedData.member? "message" = some message.bodyJson := rfl
  rw [digest?, type, domain, body, signingHash]
  simp [Json.string?, structHash?_domain, structHash?_body]

theorem isSpelled_typedData : message.typedData.isSpelled = true := by
  have small := message.chainId.toNat_lt
  simp [typedData, domainJson, bodyJson, membersJson, domainMembers, messageMembers,
    Json.isSpelled, Json.allSpelled, Json.allMembersSpelled, Json.ofNat]
  omega

/-- The text of typed data is all that a wallet is shown. The permit that it reads there is the
message, and the hash that it works out from there, by the types that are listed there, is the
message's signing hash. -/
theorem shown_as_signed :
    ∃ shown, Json.parseReadable? message.typedData.toText = some shown ∧
      ofTypedData? shown = some message ∧ digest? shown = some message.signingHash :=
  ⟨message.typedData, Json.parseReadable?_toText message.isSpelled_typedData rfl,
    message.ofTypedData?_typedData, message.digest?_typedData⟩

end PermitMessage

end LendingPool
