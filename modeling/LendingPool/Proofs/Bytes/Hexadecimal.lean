import LendingPool.Bytes
import Mathlib.Data.List.Forall2
/-! Hexadecimal text, digit by digit. A byte string is read from its digits in either case, and from
nothing else. -/

namespace LendingPool.Bytes

/-! ## Digits -/

def SpellsDigit (digit spelled : Char) : Prop :=
  spelled = digit ∨ spelled = digit.toUpper

instance (digit spelled : Char) : Decidable (SpellsDigit digit spelled) :=
  inferInstanceAs (Decidable (_ ∨ _))

theorem hexValue?_of_spellsDigit {value : Nat} (small : value < 16) {spelled : Char}
    (spells : SpellsDigit (hexDigit value) spelled) : hexValue? spelled = some value := by
  have either : ∀ value : Fin 16, hexValue? (hexDigit value) = some value.val ∧
      hexValue? (hexDigit value).toUpper = some value.val := by decide
  rcases spells with rfl | rfl
  · exact (either ⟨value, small⟩).1
  · exact (either ⟨value, small⟩).2

theorem spellsDigit_of_hexValue? {value : Nat} {spelled : Char}
    (reads : hexValue? spelled = some value) :
    value < 16 ∧ SpellsDigit (hexDigit value) spelled := by
  have table : ∀ code : Fin 128, (hexValue? (Char.ofNat code)).all (fun value =>
      value < 16 ∧ SpellsDigit (hexDigit value) (Char.ofNat code)) = true := by decide
  have ascii : spelled.toNat < 128 := by
    simp only [hexValue?, Char.le_def, UInt32.le_iff_toNat_le] at reads
    split at reads
    · rename_i digit
      exact Nat.lt_of_le_of_lt digit.2 (by decide)
    · split at reads
      · rename_i lower
        exact Nat.lt_of_le_of_lt lower.2 (by decide)
      · split at reads
        · rename_i upper
          exact Nat.lt_of_le_of_lt upper.2 (by decide)
        · cases reads
  have entry := table ⟨spelled.toNat, ascii⟩
  rw [Char.ofNat_toNat, reads, Option.all_some] at entry
  exact of_decide_eq_true entry

theorem cases_hexDigit {value : Nat} (small : value < 16) :
    (hexDigit value).isUpper = false ∧ (hexDigit value).toUpper.isLower = false ∧
      (hexDigit value).toLower = hexDigit value ∧
      (hexDigit value).toUpper.toLower = hexDigit value := by
  have every : ∀ value : Fin 16,
      (hexDigit value).isUpper = false ∧ (hexDigit value).toUpper.isLower = false ∧
        (hexDigit value).toLower = hexDigit value ∧
        (hexDigit value).toUpper.toLower = hexDigit value := by decide
  exact every ⟨value, small⟩

theorem eight_le_hexDigit_iff {value : Nat} (small : value < 16) :
    '8' ≤ hexDigit value ↔ 8 ≤ value := by
  have every : ∀ value : Fin 16, '8' ≤ hexDigit value ↔ 8 ≤ value.val := by decide
  exact every ⟨value, small⟩

/-! ## Bytes -/

theorem hexDigits_cons (byte : UInt8) (bytes : Bytes) :
    hexDigits (byte :: bytes) =
      hexDigit (byte.toNat / 16) :: hexDigit (byte.toNat % 16) :: hexDigits bytes :=
  rfl

@[simp] theorem length_hexDigits (bytes : Bytes) : (hexDigits bytes).length = 2 * bytes.length := by
  rw [hexDigits, List.length_flatMap]
  simp [Nat.mul_comm]

theorem exists_of_mem_hexDigits {bytes : Bytes} {digit : Char} (member : digit ∈ hexDigits bytes) :
    ∃ value < 16, digit = hexDigit value := by
  rcases List.mem_flatMap.mp member with ⟨byte, -, half⟩
  have small := byte.toNat_lt
  rcases List.mem_pair.mp half with rfl | rfl
  · exact ⟨_, by omega, rfl⟩
  · exact ⟨_, by omega, rfl⟩

theorem getElem?_hexDigits (bytes : Bytes) (place : Nat) :
    (hexDigits bytes)[place]? = bytes[place / 2]?.map fun byte =>
      hexDigit (if place % 2 = 0 then byte.toNat / 16 else byte.toNat % 16) := by
  induction bytes generalizing place with
  | nil => simp [hexDigits]
  | cons byte bytes induction =>
      rw [hexDigits_cons]
      match place with
      | 0 => rfl
      | 1 => rfl
      | place + 2 =>
          have half : (place + 2) / 2 = place / 2 + 1 := by omega
          have parity : (place + 2) % 2 = place % 2 := by omega
          rw [half, parity]
          exact induction place

theorem map_toLower_of_spells {bytes : Bytes} {spelled : List Char}
    (spells : List.Forall₂ SpellsDigit (hexDigits bytes) spelled) :
    spelled.map Char.toLower = hexDigits bytes := by
  have known : ∀ digit ∈ hexDigits bytes, ∃ value < 16, digit = hexDigit value :=
    fun _ => exists_of_mem_hexDigits
  revert known
  generalize hexDigits bytes = digits at spells
  induction spells with
  | nil => exact fun _ => rfl
  | cons spells _ induction =>
      intro known
      rcases known _ (List.mem_cons_self ..) with ⟨value, small, rfl⟩
      have lower := (cases_hexDigit small).2.2
      rw [List.map_cons, induction fun digit member => known digit (List.mem_cons_of_mem _ member)]
      congr 1
      rcases spells with rfl | rfl
      · exact lower.1
      · exact lower.2

theorem ofHexDigits?_of_spells {bytes : Bytes} {spelled : List Char}
    (spells : List.Forall₂ SpellsDigit (hexDigits bytes) spelled) :
    ofHexDigits? spelled = some bytes := by
  induction bytes generalizing spelled with
  | nil =>
      cases spells
      rfl
  | cons byte bytes induction =>
      have small := byte.toNat_lt
      rw [hexDigits_cons] at spells
      rcases spells with _ | ⟨high, _ | ⟨low, rest⟩⟩
      have whole : UInt8.ofNat (byte.toNat / 16 * 16 + byte.toNat % 16) = byte := by
        rw [Nat.div_add_mod', UInt8.ofNat_toNat]
      rw [ofHexDigits?, hexValue?_of_spellsDigit (by omega) high,
        hexValue?_of_spellsDigit (by omega) low, induction rest]
      exact congrArg (fun first => some (first :: bytes)) whole

theorem spells_of_ofHexDigits? {bytes : Bytes} {spelled : List Char}
    (reads : ofHexDigits? spelled = some bytes) :
    List.Forall₂ SpellsDigit (hexDigits bytes) spelled := by
  fun_induction ofHexDigits? spelled generalizing bytes with
  | case1 =>
      cases reads
      exact .nil
  | case2 => cases reads
  | case3 high low rest induction =>
      simp only [Option.bind_eq_bind, Option.bind_eq_some_iff, Option.pure_def,
        Option.some.injEq] at reads
      rcases reads with ⟨highValue, readsHigh, lowValue, readsLow, others, readsRest, rfl⟩
      rcases spellsDigit_of_hexValue? readsHigh with ⟨highSmall, highSpells⟩
      rcases spellsDigit_of_hexValue? readsLow with ⟨lowSmall, lowSpells⟩
      have byte : (UInt8.ofNat (highValue * 16 + lowValue)).toNat = highValue * 16 + lowValue :=
        UInt8.toNat_ofNat_of_lt' (by change _ < 256; omega)
      have firstHalf : (highValue * 16 + lowValue) / 16 = highValue := by omega
      have secondHalf : (highValue * 16 + lowValue) % 16 = lowValue := by omega
      rw [hexDigits_cons, byte, firstHalf, secondHalf]
      exact .cons highSpells (.cons lowSpells (induction readsRest))

theorem ofHexDigits?_eq_some_iff {bytes : Bytes} {spelled : List Char} :
    ofHexDigits? spelled = some bytes ↔ List.Forall₂ SpellsDigit (hexDigits bytes) spelled :=
  ⟨spells_of_ofHexDigits?, ofHexDigits?_of_spells⟩

/-! ## Texts -/

theorem toList_marked (digits : List Char) :
    ("0x" ++ String.ofList digits).toList = '0' :: 'x' :: digits := by
  rw [String.toList_append, String.toList_ofList, String.toList_ofList, List.cons_append,
    List.cons_append, List.nil_append]

/-- Hexadecimal text of some bytes: two digits for each in either case, after at most one `0x`. -/
def IsHexOf (bytes : Bytes) (text : String) : Prop :=
  ∃ digits, List.Forall₂ SpellsDigit (hexDigits bytes) digits ∧
    (text = String.ofList digits ∨ text = "0x" ++ String.ofList digits)

theorem isHexOf_toHex (bytes : Bytes) : IsHexOf bytes (toHex bytes) :=
  ⟨hexDigits bytes, List.forall₂_same.mpr fun _ _ => .inl rfl, .inr rfl⟩

theorem dropHexMark_of_spells {bytes : Bytes} {digits : List Char}
    (spells : List.Forall₂ SpellsDigit (hexDigits bytes) digits) : dropHexMark digits = digits := by
  fun_cases dropHexMark digits with
  | case1 rest => cases ofHexDigits?_of_spells spells
  | case2 => rfl

theorem ofHex?_eq_some_iff {bytes : Bytes} {text : String} :
    ofHex? text = some bytes ↔ IsHexOf bytes text := by
  rw [ofHex?, ofHexDigits?_eq_some_iff]
  constructor
  · intro spells
    refine ⟨_, spells, ?_⟩
    unfold dropHexMark
    split
    · rename_i digits begins
      right
      rw [← String.toList_inj, begins, toList_marked]
    · left
      rw [String.ofList_toList]
  · rintro ⟨digits, spells, rfl | rfl⟩
    · rw [String.toList_ofList, dropHexMark_of_spells spells]
      exact spells
    · rw [toList_marked]
      exact spells

end LendingPool.Bytes
