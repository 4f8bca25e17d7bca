import LendingPool.Decimal.Digits
import Mathlib.Tactic.Positivity
import Mathlib.Tactic.Ring
/-! Runs of decimal digits: what they are worth, which zeros among them are needless, where a mark
splits them, and which run a number is written as. -/

namespace LendingPool.Digits

/-! ## Value -/

theorem foldl_value (digits : List Char) (start : Nat) :
    digits.foldl (fun total digit => total * 10 + (digit.toNat - '0'.toNat)) start =
      start * 10 ^ digits.length + value digits := by
  induction digits generalizing start with
  | nil => simp [value]
  | cons digit rest induction =>
      rw [value, List.foldl_cons, List.foldl_cons, induction, induction (0 * 10 + _),
        List.length_cons]
      ring

theorem value_append (left right : List Char) :
    value (left ++ right) = value left * 10 ^ right.length + value right := by
  rw [value, List.foldl_append, foldl_value]
  rfl

theorem value_cons (digit : Char) (digits : List Char) :
    value (digit :: digits) =
      (digit.toNat - '0'.toNat) * 10 ^ digits.length + value digits := by
  rw [value, List.foldl_cons, foldl_value, Nat.zero_mul, Nat.zero_add]

theorem value_replicate_zero (count : Nat) : value (List.replicate count '0') = 0 := by
  induction count with
  | zero => rfl
  | succ count induction =>
      rw [List.replicate_succ', value_append, induction]
      rfl

theorem all_append {left right : List Char} :
    all (left ++ right) = true ↔ all left = true ∧ all right = true := by
  simp [all]

theorem all_take {digits : List Char} (decimal : all digits = true) (count : Nat) :
    all (digits.take count) = true := by
  rw [← List.take_append_drop count digits, all_append] at decimal
  exact decimal.1

theorem value_lt {digits : List Char} (decimal : all digits = true) :
    value digits < 10 ^ digits.length := by
  induction digits with
  | nil => simp [value]
  | cons digit rest induction =>
      rw [all, List.all_cons, Bool.and_eq_true] at decimal
      have small : digit.toNat - '0'.toNat ≤ 9 := by
        have bound : digit.toNat ≤ 57 := of_decide_eq_true (Bool.and_eq_true_iff.mp decimal.1).2
        have zero : '0'.toNat = 48 := rfl
        omega
      have bound := induction decimal.2
      have scaled := Nat.mul_le_mul_right (10 ^ rest.length) small
      rw [value_cons, List.length_cons, pow_succ]
      omega

theorem value_append_div {digits : List Char} (decimal : all digits = true)
    (before : List Char) : value (before ++ digits) / 10 ^ digits.length = value before := by
  rw [value_append, Nat.mul_comm, Nat.mul_add_div (by positivity),
    Nat.div_eq_of_lt (value_lt decimal), Nat.add_zero]

/-! ## Needless zeros -/

theorem value_dropLeadingZeros (digits : List Char) :
    value (digits.dropWhile (· == '0')) = value digits := by
  induction digits with
  | nil => rfl
  | cons digit rest induction =>
      rw [List.dropWhile_cons]
      split
      · rename_i zero
        rw [induction, eq_of_beq zero, value_cons, Nat.sub_self, Nat.zero_mul, Nat.zero_add]
      · rfl

theorem dropLeadingZeros_isEmpty_iff {digits : List Char} (decimal : all digits = true) :
    (digits.dropWhile (· == '0')).isEmpty = true ↔ value digits = 0 := by
  induction digits with
  | nil => simp [value]
  | cons digit rest induction =>
      rw [all, List.all_cons, Bool.and_eq_true] at decimal
      rw [List.dropWhile_cons]
      split
      · rename_i zero
        rw [induction decimal.2, eq_of_beq zero, value_cons, Nat.sub_self, Nat.zero_mul,
          Nat.zero_add]
      · rename_i other
        have positive : 0 < digit.toNat - '0'.toNat := by
          have lower : 48 ≤ digit.toNat := of_decide_eq_true (Bool.and_eq_true_iff.mp decimal.1).1
          have differs : digit.toNat ≠ 48 := by
            intro same
            exact other (beq_iff_eq.mpr (Char.toNat_inj.mp same))
          have zero : '0'.toNat = 48 := rfl
          omega
        have scaled : 0 < (digit.toNat - '0'.toNat) * 10 ^ rest.length := by positivity
        rw [value_cons]
        exact iff_of_false Bool.false_ne_true (by omega)

theorem dropLeadingZeros_append (first rest : List Char) :
    (first.dropWhile (· == '0') ++ rest).dropWhile (· == '0') =
      (first ++ rest).dropWhile (· == '0') := by
  induction first with
  | nil => rfl
  | cons digit first induction =>
      rw [List.dropWhile_cons, List.cons_append, List.dropWhile_cons]
      split
      · exact induction
      · rename_i other
        rw [List.cons_append, List.dropWhile_cons, if_neg other]

theorem exists_eq_append_zeros (digits : List Char) :
    ∃ count, digits = dropTrailingZeros digits ++ List.replicate count '0' := by
  have parts := congrArg List.reverse
    (List.takeWhile_append_dropWhile (p := (· == '0')) (l := digits.reverse))
  rw [List.reverse_append, List.reverse_reverse] at parts
  refine ⟨(digits.reverse.takeWhile (· == '0')).length, ?_⟩
  have zeros : (digits.reverse.takeWhile (· == '0')).reverse =
      List.replicate (digits.reverse.takeWhile (· == '0')).length '0' := by
    refine List.eq_replicate_iff.mpr ⟨List.length_reverse, fun digit member => ?_⟩
    exact eq_of_beq (List.all_eq_true.mp List.all_takeWhile digit (List.mem_reverse.mp member))
  rw [← zeros]
  exact parts.symm

theorem dropTrailingZeros_take {digits : List Char} (decimal : all digits = true) (count : Nat) :
    all (dropTrailingZeros (digits.take count)) = true ∧
      (dropTrailingZeros (digits.take count)).length ≤ count := by
  have kept := all_take decimal count
  have short := List.length_take_le count digits
  rcases exists_eq_append_zeros (digits.take count) with ⟨zeros, same⟩
  rw [same, all_append] at kept
  rw [same, List.length_append] at short
  exact ⟨kept.1, by omega⟩

/-! ## Parts -/

theorem splitAt_of_not_mem {mark : Char} {text : List Char} (absent : mark ∉ text) :
    splitAt mark text = (text, none) := by
  induction text with
  | nil => rfl
  | cons first rest induction =>
      rw [List.mem_cons, not_or] at absent
      simp [splitAt, Ne.symm absent.1, induction absent.2]

theorem splitAt_append_mark {mark : Char} {before : List Char} (absent : mark ∉ before)
    (after : List Char) : splitAt mark (before ++ mark :: after) = (before, some after) := by
  induction before with
  | nil => simp [splitAt]
  | cons first rest induction =>
      rw [List.mem_cons, not_or] at absent
      simp [splitAt, Ne.symm absent.1, induction absent.2]

theorem eq_of_splitAt (mark : Char) (text : List Char) :
    (splitAt mark text).2 = none ∧ text = (splitAt mark text).1 ∨
      ∃ after, (splitAt mark text).2 = some after ∧
        text = (splitAt mark text).1 ++ mark :: after := by
  induction text with
  | nil => exact .inl ⟨rfl, rfl⟩
  | cons first rest induction =>
      rw [splitAt]
      split
      · rename_i marks
        rw [eq_of_beq marks]
        exact .inr ⟨rest, rfl, rfl⟩
      · rcases induction with ⟨whole, same⟩ | ⟨after, parted, same⟩
        · exact .inl ⟨whole, congrArg (first :: ·) same⟩
        · exact .inr ⟨after, parted, congrArg (first :: ·) same⟩

theorem mem_splitAt {mark char : Char} {text : List Char} (member : char ∈ text)
    (other : char ≠ mark) :
    char ∈ (splitAt mark text).1 ∨ char ∈ (splitAt mark text).2.getD [] := by
  induction text with
  | nil => cases member
  | cons first rest induction =>
      rw [splitAt]
      split
      · rename_i marks
        rcases List.mem_cons.mp member with rfl | member
        · exact absurd (eq_of_beq marks) other
        · exact .inr member
      · rcases List.mem_cons.mp member with rfl | member
        · exact .inl (List.mem_cons_self ..)
        · exact (induction member).imp_left (List.mem_cons_of_mem first)

/-! ## Numbers -/

theorem value_ofNat (number : Nat) : value (ofNat number) = number := by
  have reads := Nat.ofDigitChars_ten_toDigits (n := number)
  rw [Nat.ofDigitChars_eq_foldl] at reads
  simpa only [value, ofNat, Nat.mul_comm 10] using reads

theorem all_ofNat (number : Nat) : all (ofNat number) = true :=
  List.all_eq_true.mpr fun _ member =>
    Nat.isDigit_of_mem_toDigits (by decide) (Nat.le_refl 10) member

theorem ofNat_ne_nil (number : Nat) : ofNat number ≠ [] :=
  Nat.toDigits_ne_nil

theorem head?_ofNat {number : Nat} (positive : 0 < number) :
    (ofNat number).head? ≠ some '0' := by
  induction number using Nat.strongRecOn with
  | ind number induction =>
      by_cases small : number < 10
      · have digits : ∀ digit < 10, 0 < digit → digit.digitChar ≠ '0' := by decide
        rw [ofNat, Nat.toDigits_of_lt_base small]
        exact fun same => digits number small positive (Option.some.inj same)
      · have parts : ofNat number = ofNat (number / 10) ++ [(number % 10).digitChar] :=
          Nat.toDigits_of_base_le (by decide) (by omega)
        have higher := induction (number / 10) (by omega) (by omega)
        rcases begins : ofNat (number / 10) with _ | ⟨first, rest⟩
        · exact absurd begins (ofNat_ne_nil _)
        · rw [begins] at higher
          rwa [parts, begins]

theorem value?_ofNat (number : Nat) : value? (ofNat number) = some number := by
  have digits : (!(ofNat number).isEmpty && all (ofNat number)) = true := by
    simp [ofNat_ne_nil, all_ofNat]
  rw [value?, if_pos digits, value_ofNat]

theorem toList_toString (number : Nat) : (toString number).toList = ofNat number := by
  rw [Nat.toString_eq_ofList_toDigits, String.toList_ofList, ofNat]

/-! ## Positional form -/

theorem exists_positional (number scale : Nat) :
    ∃ whole fraction,
      (positional number scale = whole ∧ fraction = [] ∨
        positional number scale = whole ++ '.' :: fraction) ∧
      all whole = true ∧ all fraction = true ∧ whole ≠ [] ∧ fraction.length = scale ∧
      value (whole ++ fraction) = number := by
  have decimal := all_ofNat number
  rw [positional]
  by_cases unscaled : scale = 0
  · rw [if_pos unscaled]
    refine ⟨ofNat number, [], .inl ⟨rfl, rfl⟩, decimal, rfl, ofNat_ne_nil number, unscaled.symm, ?_⟩
    rw [List.append_nil, value_ofNat]
  · rw [if_neg unscaled]
    split
    · rename_i longer
      have parts := List.take_append_drop ((ofNat number).length - scale) (ofNat number)
      rw [← parts, all_append] at decimal
      refine ⟨_, _, .inr rfl, decimal.1, decimal.2, ?_, ?_, ?_⟩
      · apply List.ne_nil_of_length_pos
        rw [List.length_take]
        omega
      · rw [List.length_drop]
        omega
      · rw [parts, value_ofNat]
    · rename_i short
      have zeros : ['0'] ++ (List.replicate (scale - (ofNat number).length) '0' ++ ofNat number) =
          List.replicate (scale - (ofNat number).length + 1) '0' ++ ofNat number := rfl
      refine ⟨['0'], List.replicate (scale - (ofNat number).length) '0' ++ ofNat number, .inr rfl,
        rfl, ?_, by decide, ?_, ?_⟩
      · rw [all_append]
        exact ⟨by simp [all], decimal⟩
      · rw [List.length_append, List.length_replicate]
        omega
      · rw [zeros, value_append, value_replicate_zero, Nat.zero_mul, Nat.zero_add, value_ofNat]

end LendingPool.Digits
