import LendingPool.Proofs.Call.Layout
import Mathlib.Data.List.Nodup
/-! The format of packed calls. It is a table: the selector, the number of argument words, and the
place of each field in them. Nothing here looks at how calls are packed or read. -/

namespace LendingPool

open Abi

/-! ## The table -/

structure PackedField where
  word : Nat
  offset : Nat
  width : Nat
deriving DecidableEq, Repr

/-- A packed call as it is written down: the method, the number of argument words, and the
fields. -/
structure PackedFormat where
  method : Method
  words : Nat
  fields : List PackedField

namespace PackedFormat

def supply : PackedFormat :=
  ⟨PackedMethod.supply, 1, [⟨0, 0, 16⟩, ⟨0, 16, 128⟩, ⟨0, 144, 16⟩]⟩
def supplyWithPermit : PackedFormat :=
  ⟨PackedMethod.supplyWithPermit, 3, [⟨0, 0, 16⟩, ⟨0, 16, 128⟩, ⟨0, 144, 16⟩, ⟨0, 160, 32⟩,
    ⟨0, 192, 8⟩, ⟨1, 0, 256⟩, ⟨2, 0, 256⟩]⟩
def withdraw : PackedFormat :=
  ⟨PackedMethod.withdraw, 1, [⟨0, 0, 16⟩, ⟨0, 16, 128⟩]⟩
def borrow : PackedFormat :=
  ⟨PackedMethod.borrow, 1, [⟨0, 0, 16⟩, ⟨0, 16, 128⟩, ⟨0, 144, 8⟩, ⟨0, 152, 16⟩]⟩
def repay : PackedFormat :=
  ⟨PackedMethod.repay, 1, [⟨0, 0, 16⟩, ⟨0, 16, 128⟩, ⟨0, 144, 8⟩]⟩
def repayWithPermit : PackedFormat :=
  ⟨PackedMethod.repayWithPermit, 3, [⟨0, 0, 16⟩, ⟨0, 16, 128⟩, ⟨0, 144, 8⟩, ⟨0, 152, 32⟩,
    ⟨0, 184, 8⟩, ⟨1, 0, 256⟩, ⟨2, 0, 256⟩]⟩
def swapBorrowRateMode : PackedFormat :=
  ⟨PackedMethod.swapBorrowRateMode, 1, [⟨0, 0, 16⟩, ⟨0, 16, 8⟩]⟩
def setUsageAsCollateral : PackedFormat :=
  ⟨PackedMethod.setUsageAsCollateral, 1, [⟨0, 0, 16⟩, ⟨0, 16, 1⟩]⟩
def liquidationCall : PackedFormat :=
  ⟨PackedMethod.liquidationCall, 2, [⟨0, 0, 16⟩, ⟨0, 16, 16⟩, ⟨0, 32, 160⟩, ⟨1, 0, 128⟩,
    ⟨1, 128, 1⟩]⟩

def all : List PackedFormat := [
  supply, supplyWithPermit, withdraw, borrow, repay, repayWithPermit, swapBorrowRateMode,
  setUsageAsCollateral, liquidationCall]

/-- Call data has the selector of the method and as many words after it as the format says. -/
def Frames (format : PackedFormat) (data : Bytes) : Prop :=
  data.take 4 = format.method.selector ∧ data.length = 4 + 32 * format.words

def Uses (format : PackedFormat) (word bit : Nat) : Prop :=
  ∃ field ∈ format.fields, field.word = word ∧ field.offset ≤ bit ∧ bit < field.offset + field.width

def Clear (format : PackedFormat) (data : Bytes) : Prop :=
  ∀ word bit, ¬ format.Uses word bit → (argumentWord data word).getLsbD bit = false

def Agree (format : PackedFormat) (left right : Bytes) : Prop :=
  ∀ word bit, format.Uses word bit →
    (argumentWord left word).getLsbD bit = (argumentWord right word).getLsbD bit

/-- How many bits of each argument word are taken up, from its lowest on. -/
def sizes (format : PackedFormat) : List Nat :=
  (List.range format.words).map fun word =>
    ((format.fields.filter (·.word = word)).map PackedField.width).foldr (· + ·) 0

theorem uses_iff {format : PackedFormat} (member : format ∈ all) {word bit : Nat} :
    format.Uses word bit ↔ ∃ size, format.sizes[word]? = some size ∧ bit < size := by
  simp only [all, List.mem_cons, List.not_mem_nil, or_false] at member
  rcases word with _ | _ | _ | word <;>
    rcases member with rfl | rfl | rfl | rfl | rfl | rfl | rfl | rfl | rfl <;>
    simp [Uses, sizes, List.range, List.range.loop, List.filter, supply, supplyWithPermit, withdraw,
      borrow, repay, repayWithPermit, swapBorrowRateMode, setUsageAsCollateral, liquidationCall] <;>
    omega

theorem length_selector {format : PackedFormat} (member : format ∈ all) :
    format.method.selector.length = 4 := by
  revert format
  decide

theorem length_inputs {format : PackedFormat} (member : format ∈ all) :
    format.method.inputs.length = format.sizes.length := by
  revert format
  decide

theorem eq_of_selector {left right : PackedFormat} (leftMember : left ∈ all)
    (rightMember : right ∈ all) (same : left.method.selector = right.method.selector) :
    left = right :=
  List.inj_on_of_nodup_map (f := fun format => format.method.selector)
    (by decide +kernel : (all.map fun format => format.method.selector).Nodup)
    leftMember rightMember same

theorem frames_iff {format : PackedFormat} (member : format ∈ all) {data : Bytes} :
    format.Frames data ↔ ∃ words : List Word, words.length = format.sizes.length ∧
      data = format.method.selector ++ wordBytes words := by
  have four := length_selector member
  have counted : format.sizes.length = format.words := by
    rw [sizes, List.length_map, List.length_range]
  constructor
  · rintro ⟨selected, length⟩
    have rest : (data.drop 4).length = 32 * format.sizes.length := by
      rw [List.length_drop]
      omega
    rcases exists_wordBytes rest with ⟨words, counted, spelled⟩
    refine ⟨words, counted, ?_⟩
    rw [spelled, ← selected, List.take_append_drop]
  · rintro ⟨words, length, rfl⟩
    refine ⟨List.take_left' four, ?_⟩
    rw [List.length_append, length_wordBytes]
    omega

/-! ### Bits and words -/

variable {format : PackedFormat} {words others : List Word}

theorem zipWith_eq_zipWith_iff (f g : Nat → Word → Word) {sizes : List Nat}
    (counted : words.length = sizes.length) (othersCounted : others.length = sizes.length) :
    List.zipWith f sizes words = List.zipWith g sizes others ↔
      ∀ (index size : Nat), sizes[index]? = some size →
        f size (words[index]?.getD 0) = g size (others[index]?.getD 0) := by
  induction sizes generalizing words others with
  | nil => simp
  | cons size sizes induction =>
      rcases words with _ | ⟨word, words⟩
      · cases counted
      rcases others with _ | ⟨other, others⟩
      · cases othersCounted
      rw [List.zipWith_cons_cons, List.zipWith_cons_cons, List.cons.injEq,
        induction (Nat.succ.inj counted) (Nat.succ.inj othersCounted)]
      constructor
      · rintro ⟨first, rest⟩ (_ | index) size found
        · cases found
          exact first
        · exact rest index size found
      · intro all
        exact ⟨all 0 size rfl, fun index size found => all (index + 1) size found⟩

theorem agree_iff (member : format ∈ all) (counted : words.length = format.sizes.length)
    (othersCounted : others.length = format.sizes.length) :
    format.Agree (format.method.selector ++ wordBytes words)
        (format.method.selector ++ wordBytes others) ↔
      List.zipWith Word.low format.sizes words = List.zipWith Word.low format.sizes others := by
  rw [zipWith_eq_zipWith_iff _ _ counted othersCounted]
  simp only [Agree, argumentWord_append (length_selector member), Word.low_eq_low_iff,
    uses_iff member]
  exact ⟨fun agree word size found bit inside => agree word bit ⟨size, found, inside⟩,
    fun agree word bit ⟨size, found, inside⟩ => agree word size found bit inside⟩

theorem clear_iff (member : format ∈ all) (counted : words.length = format.sizes.length) :
    format.Clear (format.method.selector ++ wordBytes words) ↔
      List.zipWith Word.low format.sizes words = words := by
  have unchanged := List.map_snd_zip (Nat.le_of_eq counted)
  rw [List.zip, List.map_zipWith] at unchanged
  have same := zipWith_eq_zipWith_iff Word.low (fun _ word => word) counted counted
  rw [unchanged] at same
  rw [same]
  simp only [Clear, argumentWord_append (length_selector member), Word.low_eq_self_iff,
    uses_iff member, not_exists, not_and, Nat.not_lt]
  constructor
  · intro clear word size found bit outside
    refine clear word bit fun other otherFound => ?_
    rw [found, Option.some.injEq] at otherFound
    omega
  · intro clear word bit unused
    cases found : format.sizes[word]? with
    | none =>
        rw [List.getElem?_eq_none (counted ▸ List.getElem?_eq_none_iff.mp found), Option.getD_none]
        exact BitVec.getLsbD_zero
    | some size => exact clear word size found bit (unused size found)

end PackedFormat

namespace PackedCall

def format : PackedCall → PackedFormat
  | .supply .. => .supply
  | .supplyWithPermit .. => .supplyWithPermit
  | .withdraw .. => .withdraw
  | .borrow .. => .borrow
  | .repay .. => .repay
  | .repayWithPermit .. => .repayWithPermit
  | .swapBorrowRateMode .. => .swapBorrowRateMode
  | .setUsageAsCollateral .. => .setUsageAsCollateral
  | .liquidationCall .. => .liquidationCall

end PackedCall

end LendingPool
