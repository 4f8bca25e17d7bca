import LendingPool.Fault.Input
import LendingPool.Proofs.Abi.Words
import LendingPool.Proofs.Bytes.Hexadecimal
/-! How addresses are spelled. The checksummed spelling is read back as the address, so no two
addresses are spelled alike. A caller may also write all letters in one case. -/

namespace LendingPool

theorem length_keccak256 (message : Bytes) : (keccak256 message).length = 32 := by
  have lane (value : UInt64) : (Keccak.bytesOfLane value).length = 8 := by
    rw [Keccak.bytesOfLane, List.length_reverse, Bytes.length_ofNat]
  simp [keccak256, List.length_flatMap, lane]

/-! ## Addresses -/

namespace Address

@[simp] theorem length_digits (address : Address) : address.digits.length = 40 := by
  rw [digits, Bytes.length_hexDigits, toBytes, Bytes.length_ofNat]

theorem spells_zipWith {digits hash : List Char} (enough : digits.length ≤ hash.length) :
    List.Forall₂ Bytes.SpellsDigit digits (List.zipWith
      (fun digit place => if '8' ≤ place then digit.toUpper else digit) digits hash) := by
  induction digits generalizing hash with
  | nil => exact .nil
  | cons digit digits induction =>
      cases hash with
      | nil => cases enough
      | cons place hash =>
          refine .cons ?_ (induction (Nat.le_of_succ_le_succ enough))
          dsimp only
          split
          · exact .inr rfl
          · exact .inl rfl

theorem spells_checksumDigits (address : Address) :
    List.Forall₂ Bytes.SpellsDigit address.digits address.checksumDigits := by
  rw [checksumDigits]
  generalize hashes : keccak256 _ = hash
  have length : hash.length = 32 := by rw [← hashes, length_keccak256]
  apply spells_zipWith
  rw [length_digits, Bytes.length_hexDigits, length]
  omega

theorem toNat_toBytes (address : Address) : Bytes.toNat address.toBytes = address.bits.toNat := by
  have bound := address.bits.isLt
  rw [toBytes, Bytes.toNat_ofNat, Nat.mod_eq_of_lt (by omega)]

theorem ofNat_toNat_toBytes (address : Address) :
    ofNat (Bytes.toNat address.toBytes) = address := by
  rw [toNat_toBytes, ofNat, BitVec.ofNat_toNat, BitVec.setWidth_eq]

theorem toBytes_ofNat_toNat {bytes : Bytes} (length : bytes.length = 20) :
    (ofNat (Bytes.toNat bytes)).toBytes = bytes := by
  have bound := Bytes.toNat_lt bytes
  rw [length] at bound
  rw [toBytes, ofNat, BitVec.toNat_ofNat, Nat.mod_eq_of_lt (by omega), ← length,
    Bytes.ofNat_toNat]

theorem ofHexDigits?_eq_some_iff {digits : List Char} {address : Address} :
    ofHexDigits? digits = some address ↔
      List.Forall₂ Bytes.SpellsDigit address.digits digits := by
  constructor
  · intro reads
    simp only [ofHexDigits?, Option.bind_eq_bind, Option.bind_eq_some_iff, Option.guard_eq_some',
      Option.pure_def, Option.some.injEq] at reads
    rcases reads with ⟨_, forty, bytes, reads, rfl⟩
    have spells := Bytes.spells_of_ofHexDigits? reads
    have twenty : bytes.length = 20 := by
      have length := spells.length_eq
      rw [Bytes.length_hexDigits] at length
      omega
    rw [Address.digits, toBytes_ofNat_toNat twenty]
    exact spells
  · intro spells
    have forty : digits.length = 40 := by rw [← spells.length_eq, length_digits]
    rw [ofHexDigits?, Bytes.ofHexDigits?_of_spells spells, forty]
    exact congrArg some address.ofNat_toNat_toBytes

theorem ofHexDigits?_checksumDigits (address : Address) :
    ofHexDigits? address.checksumDigits = some address :=
  ofHexDigits?_eq_some_iff.mpr address.spells_checksumDigits

theorem ofText?_checksum (address : Address) : ofText? address.checksum = some address := by
  rw [ofText?, checksum, Bytes.toList_marked]
  simp [ofHexDigits?_checksumDigits, guard]

theorem checksum_injective {left right : Address} (same : left.checksum = right.checksum) :
    left = right := by
  have read := left.ofText?_checksum
  rw [same, ofText?_checksum] at read
  exact (Option.some.inj read).symm

/-! ## Case

The hash of the lower-case digits tells, place by place, which letters the checksummed spelling
raises to upper case. -/

/-- Whether the hash has a half byte of eight or more in a place. -/
def raises (address : Address) (place : Nat) : Bool :=
  let hash := keccak256 (address.digits.map fun digit => UInt8.ofNat digit.toNat)
  let byte := (hash.getD (place / 2) 0).toNat
  8 ≤ if place % 2 = 0 then byte / 16 else byte % 16

def upperDigits (address : Address) : List Char :=
  address.digits.map Char.toUpper

def mixedDigits (address : Address) : List Char :=
  address.digits.mapIdx fun place digit =>
    if address.raises place then digit.toUpper else digit

theorem checksumDigits_eq_mixedDigits (address : Address) :
    address.checksumDigits = address.mixedDigits := by
  apply List.ext_getElem?
  intro place
  rw [checksumDigits, mixedDigits, List.getElem?_zipWith, List.getElem?_mapIdx,
    Bytes.getElem?_hexDigits]
  rcases Nat.lt_or_ge place 40 with inside | outside
  · have within : place / 2 < (keccak256
        (address.digits.map fun digit => UInt8.ofNat digit.toNat)).length := by
      rw [length_keccak256]
      omega
    rw [List.getElem?_eq_getElem (by rw [length_digits]; exact inside),
      List.getElem?_eq_getElem within]
    simp only [Option.map_some, raises, List.getD_eq_getElem?_getD,
      List.getElem?_eq_getElem within, Option.getD_some, decide_eq_true_eq]
    generalize (keccak256 _)[place / 2] = byte
    have small := byte.toNat_lt
    have half : (if place % 2 = 0 then byte.toNat / 16 else byte.toNat % 16) < 16 := by
      split <;> omega
    simp only [Bytes.eight_le_hexDigit_iff half]
  · have past : address.digits[place]? = none := by
      rw [List.getElem?_eq_none_iff, length_digits]
      exact outside
    rw [past]
    rfl

theorem colon_not_mem_checksum (address : Address) : ':' ∉ address.checksum.toList := by
  have plain : ∀ value : Fin 16, ':' ≠ Bytes.hexDigit value ∧
      ':' ≠ (Bytes.hexDigit value).toUpper := by decide
  rw [checksum, Bytes.toList_marked, checksumDigits_eq_mixedDigits, List.mem_cons, List.mem_cons,
    not_or, not_or]
  refine ⟨by decide, by decide, fun member => ?_⟩
  rcases List.mem_mapIdx.mp member with ⟨place, inside, same⟩
  rcases Bytes.exists_of_mem_hexDigits (List.getElem_mem inside) with ⟨value, small, digit⟩
  rw [digit] at same
  split at same
  · exact (plain ⟨value, small⟩).2 same.symm
  · exact (plain ⟨value, small⟩).1 same.symm

/-- What callers may write for an address: `0x` and its digits. A text with letters of both cases
has to be the checksummed one. -/
def SpelledBy (address : Address) (text : String) : Prop :=
  ∃ digits, text = "0x" ++ String.ofList digits ∧
    List.Forall₂ Bytes.SpellsDigit address.digits digits ∧
    ((∀ digit ∈ digits, digit.isLower = false) ∨ (∀ digit ∈ digits, digit.isUpper = false) ∨
      digits = address.mixedDigits)

theorem mixesCase_eq_false_iff {digits : List Char} :
    mixesCase digits = false ↔ (∀ digit ∈ digits, digit.isLower = false) ∨
      ∀ digit ∈ digits, digit.isUpper = false := by
  rw [mixesCase, Bool.and_eq_false_iff, List.any_eq_false, List.any_eq_false]
  simp only [Bool.not_eq_true]

theorem ofText?_eq_some_iff {text : String} {address : Address} :
    ofText? text = some address ↔ address.SpelledBy text := by
  have spelling {digits : List Char} : text.toList = '0' :: 'x' :: digits ↔
      text = "0x" ++ String.ofList digits := by
    rw [← String.toList_inj, Bytes.toList_marked]
  have fits {digits : List Char} :
      (!mixesCase digits || digits == address.checksumDigits) = true ↔
        (∀ digit ∈ digits, digit.isLower = false) ∨ (∀ digit ∈ digits, digit.isUpper = false) ∨
          digits = address.mixedDigits := by
    rw [Bool.or_eq_true, Bool.not_eq_true', mixesCase_eq_false_iff, beq_iff_eq,
      checksumDigits_eq_mixedDigits, or_assoc]
  constructor
  · intro reads
    rw [ofText?] at reads
    split at reads
    · rename_i digits begins
      simp only [Option.bind_eq_bind, Option.bind_eq_some_iff, Option.guard_eq_some',
        Option.pure_def, Option.some.injEq] at reads
      rcases reads with ⟨found, reads, _, allowed, rfl⟩
      exact ⟨digits, spelling.mp begins, ofHexDigits?_eq_some_iff.mp reads, fits.mp allowed⟩
    · cases reads
  · rintro ⟨digits, begins, spells, allowed⟩
    rw [ofText?, spelling.mpr begins]
    simp only [ofHexDigits?_eq_some_iff.mpr spells, Option.bind_eq_bind, Option.bind_some, guard,
      if_pos (fits.mpr allowed), Option.pure_def]

theorem parse_eq_ok_iff {text : String} {address : Address} :
    parse text = .ok address ↔ address.SpelledBy text := by
  rw [← ofText?_eq_some_iff, parse]
  cases ofText? text with
  | none => exact iff_of_false nofun nofun
  | some found => rw [Except.ok.injEq, Option.some.injEq]

theorem parse_eq_error {text : String} (unspelled : ∀ address : Address, ¬ address.SpelledBy text) :
    parse text = .error (.invalidAddress text) := by
  rw [parse]
  cases reads : ofText? text with
  | none => rfl
  | some found => exact absurd (ofText?_eq_some_iff.mp reads) (unspelled found)

/-! Every address can be spelled in three ways. -/

theorem spelledBy_lower (address : Address) :
    address.SpelledBy ("0x" ++ String.ofList address.digits) := by
  refine ⟨address.digits, rfl, List.forall₂_same.mpr fun _ _ => .inl rfl,
    .inr (.inl fun digit member => ?_)⟩
  rcases Bytes.exists_of_mem_hexDigits member with ⟨value, small, rfl⟩
  exact (Bytes.cases_hexDigit small).1

theorem spelledBy_upper (address : Address) :
    address.SpelledBy ("0x" ++ String.ofList address.upperDigits) := by
  refine ⟨address.upperDigits, rfl, ?_, .inl fun digit member => ?_⟩
  · rw [upperDigits, List.forall₂_map_right_iff, List.forall₂_same]
    exact fun digit _ => .inr rfl
  · rw [upperDigits, List.mem_map] at member
    rcases member with ⟨lower, member, rfl⟩
    rcases Bytes.exists_of_mem_hexDigits member with ⟨value, small, rfl⟩
    exact (Bytes.cases_hexDigit small).2.1

theorem spelledBy_mixed (address : Address) :
    address.SpelledBy ("0x" ++ String.ofList address.mixedDigits) := by
  have spells := address.spells_checksumDigits
  rw [checksumDigits_eq_mixedDigits] at spells
  exact ⟨address.mixedDigits, rfl, spells, .inr (.inr rfl)⟩

theorem SpelledBy.map_toLower {address : Address} {text : String}
    (spelled : address.SpelledBy text) :
    text.toList.map Char.toLower = '0' :: 'x' :: address.digits := by
  rcases spelled with ⟨digits, rfl, spells, -⟩
  have lower : digits.map Char.toLower = address.digits := Bytes.map_toLower_of_spells spells
  rw [Bytes.toList_marked, List.map_cons, List.map_cons, lower]
  rfl

end Address

end LendingPool
