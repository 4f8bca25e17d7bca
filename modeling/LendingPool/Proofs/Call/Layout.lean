import LendingPool.Proofs.Abi.PlainWords
import LendingPool.Proofs.Call.Packed
/-! The layout of packed calls, bit by bit. A table gives the place of every field in the argument
words. What is read keeps the bits of the table and forgets all others, and what is written has
the fields in their places and nothing anywhere else. -/

namespace LendingPool

/-! ## Words -/

namespace Word

def low (bits : Nat) (word : Word) : Word :=
  (word.setWidth bits).setWidth 256

@[simp] theorem getLsbD_low (bits index : Nat) (word : Word) :
    (word.low bits).getLsbD index = (decide (index < bits) && word.getLsbD index) := by
  rw [low, BitVec.getLsbD_setWidth, BitVec.getLsbD_setWidth]
  by_cases inside : index < 256
  · simp [inside]
  · simp [BitVec.getLsbD_of_ge word index (Nat.le_of_not_lt inside)]

theorem low_eq_low_iff {bits : Nat} {left right : Word} :
    left.low bits = right.low bits ↔
      ∀ index, index < bits → left.getLsbD index = right.getLsbD index := by
  constructor
  · intro same index inside
    have bit := congrArg (BitVec.getLsbD · index) same
    simpa [inside] using bit
  · intro same
    apply BitVec.eq_of_getLsbD_eq
    intro index _
    rw [getLsbD_low, getLsbD_low]
    by_cases inside : index < bits
    · rw [same index inside]
    · simp [inside]

theorem low_eq_self_iff {bits : Nat} {word : Word} :
    word.low bits = word ↔ ∀ index, bits ≤ index → word.getLsbD index = false := by
  constructor
  · intro same index outside
    rw [← same, getLsbD_low, decide_eq_false (Nat.not_lt.mpr outside), Bool.false_and]
  · intro clear
    apply BitVec.eq_of_getLsbD_eq
    intro index _
    rw [getLsbD_low]
    by_cases inside : index < bits
    · simp [inside]
    · simp [inside, clear index (Nat.le_of_not_lt inside)]

theorem low_256 (word : Word) : word.low 256 = word :=
  low_eq_self_iff.mpr fun index outside => BitVec.getLsbD_of_ge word index outside

end Word

/-! ## Fields -/

namespace PackedFields

theorem toNat_ofNat (widths : List Nat) (packed : Nat) :
    toNat widths (ofNat widths packed) = packed % 2 ^ size widths := by
  induction widths generalizing packed with
  | nil => rw [size, Nat.pow_zero, Nat.mod_one, toNat]
  | cons width widths induction =>
      rw [ofNat, toNat, induction, BitVec.toNat_ofNat, size, Nat.pow_add, Nat.mod_mul]

theorem toWord_ofWord (widths : List Nat) (word : Word) :
    toWord widths (ofWord widths word) = word.low (size widths) := by
  apply BitVec.eq_of_toNat_eq
  have bound : word.toNat % 2 ^ size widths < 2 ^ 256 :=
    Nat.lt_of_le_of_lt (Nat.mod_le ..) word.isLt
  rw [toWord, ofWord, toNat_ofNat, Word.toNat_ofNat_of_lt bound, Word.low, BitVec.toNat_setWidth,
    BitVec.toNat_setWidth, Nat.mod_eq_of_lt bound]

theorem exists_ofWord (widths : List Nat) (word : Word) :
    ∃ fields, ofWord widths word = fields ∧ toWord widths fields = word.low (size widths) :=
  ⟨_, rfl, toWord_ofWord widths word⟩

def numbers : (widths : List Nat) → PackedFields widths → List Nat
  | [], () => []
  | _ :: widths, (field, fields) => field.toNat :: numbers widths fields

def slots (offset : Nat) : List Nat → List (Nat × Nat)
  | [] => []
  | width :: widths => (offset, width) :: slots (offset + width) widths

theorem numbers_ofNat (widths : List Nat) (offset packed : Nat) :
    numbers widths (ofNat widths (packed / 2 ^ offset)) =
      (slots offset widths).map fun (offset, width) => packed / 2 ^ offset % 2 ^ width := by
  induction widths generalizing offset with
  | nil => rfl
  | cons width widths induction =>
      rw [ofNat, numbers, slots, List.map_cons, BitVec.toNat_ofNat, Nat.div_div_eq_div_mul,
        ← Nat.pow_add, induction]

theorem numbers_toWord {widths : List Nat} (fit : size widths ≤ 256)
    (fields : PackedFields widths) :
    ((slots 0 widths).map fun (offset, width) =>
      (toWord widths fields).toNat / 2 ^ offset % 2 ^ width) = numbers widths fields := by
  rw [← numbers_ofNat widths 0, Nat.pow_zero, Nat.div_one]
  exact congrArg (numbers widths) (ofWord_toWord fit fields)

end PackedFields

/-! ## Call data -/

/-- An argument word of call data. Where there is none the word is zero. -/
def argumentWord (data : Bytes) (index : Nat) : Word :=
  Word.ofBytes ((data.drop (4 + 32 * index)).take 32)

theorem drop_wordBytes (words : List Word) (index : Nat) :
    (Abi.wordBytes words).drop (32 * index) = Abi.wordBytes (words.drop index) := by
  induction index generalizing words with
  | zero => rfl
  | succ index induction =>
      cases words with
      | nil => simp [Abi.wordBytes]
      | cons word words =>
          change (word.toBytes ++ Abi.wordBytes words).drop (32 * index + 32) = _
          rw [Nat.add_comm, ← List.drop_drop, List.drop_left' word.length_toBytes, induction]
          rfl

theorem argumentWord_append {selector : Bytes} (four : selector.length = 4) (words : List Word)
    (index : Nat) :
    argumentWord (selector ++ Abi.wordBytes words) index = words[index]?.getD 0 := by
  rw [argumentWord, ← List.drop_drop, List.drop_left' four, drop_wordBytes, ← List.head?_drop]
  cases words.drop index with
  | nil => rfl
  | cons word rest =>
      change Word.ofBytes ((word.toBytes ++ Abi.wordBytes rest).take 32) = word
      rw [List.take_left' word.length_toBytes, Word.ofBytes_toBytes]

end LendingPool
