import LendingPool.Proofs.Amount.Typed
/-! How amounts are spelled, and which texts spell one. An amount is read exactly if its text has
the shape of a decimal, its integer part fits into a word and the digits that count are not all
zero. -/

namespace LendingPool

/-! ## Shape -/

/-- A text that is some digits, with or without a point and digits after it. There is at least
one digit before or after the point. -/
structure Spells (raw : String) (whole fraction : List Char) : Prop where
  text : raw.toList = whole ∧ fraction = [] ∨ raw.toList = whole ++ '.' :: fraction
  whole_digits : Digits.all whole = true
  fraction_digits : Digits.all fraction = true
  nonempty : whole ≠ [] ∨ fraction ≠ []

namespace Spells

variable {raw : String} {whole fraction : List Char}

/-- A point is no digit, so the first point is the one that parts them. -/
theorem splitAt_eq (spelled : Spells raw whole fraction) :
    (Digits.splitAt '.' raw.toList).1 = whole ∧
      (Digits.splitAt '.' raw.toList).2.getD [] = fraction := by
  have absent : '.' ∉ whole := by
    intro member
    have digit := List.all_eq_true.mp spelled.whole_digits '.' member
    cases digit
  rcases spelled.text with ⟨same, rfl⟩ | same
  · rw [same, Digits.splitAt_of_not_mem absent]
    exact ⟨rfl, rfl⟩
  · rw [same, Digits.splitAt_append_mark absent]
    exact ⟨rfl, rfl⟩

theorem of_splitAt
    (whole_digits : Digits.all (Digits.splitAt '.' raw.toList).1 = true)
    (fraction_digits : Digits.all ((Digits.splitAt '.' raw.toList).2.getD []) = true)
    (nonempty : (Digits.splitAt '.' raw.toList).1 ≠ [] ∨
      (Digits.splitAt '.' raw.toList).2.getD [] ≠ []) :
    Spells raw (Digits.splitAt '.' raw.toList).1 ((Digits.splitAt '.' raw.toList).2.getD []) := by
  refine ⟨?_, whole_digits, fraction_digits, nonempty⟩
  rcases Digits.eq_of_splitAt '.' raw.toList with ⟨undivided, same⟩ | ⟨after, parted, same⟩
  · left
    rw [undivided]
    exact ⟨same, rfl⟩
  · right
    rw [parted]
    exact same

end Spells

/-! ## Reading -/

namespace DecimalAmount

theorem floorUnits_of_le {amount : DecimalAmount} {decimals : Nat}
    (coarse : decimals ≤ amount.scale) :
    amount.floorUnits decimals = amount.digits / 10 ^ (amount.scale - decimals) := by
  rw [floorUnits]
  split
  · rename_i fine
    simp [Nat.le_antisymm fine coarse]
  · rfl

variable {raw : String} {whole fraction : List Char}

theorem parse_of_not_spells (shapeless : ∀ whole fraction, ¬ Spells raw whole fraction) :
    parse raw = .error (.nonPositiveAmount raw) := by
  have malformed := shapeless (Digits.splitAt '.' raw.toList).1
    ((Digits.splitAt '.' raw.toList).2.getD [])
  rw [parse]
  dsimp only
  by_cases empty : ((Digits.splitAt '.' raw.toList).1.isEmpty &&
      ((Digits.splitAt '.' raw.toList).2.getD []).isEmpty) = true
  · rw [if_pos empty]
    rfl
  · by_cases digits : (Digits.all (Digits.splitAt '.' raw.toList).1 &&
        Digits.all ((Digits.splitAt '.' raw.toList).2.getD [])) = true
    · rw [Bool.and_eq_true] at digits
      refine absurd (Spells.of_splitAt digits.1 digits.2 ?_) malformed
      simpa [Classical.or_iff_not_imp_left] using empty
    · rw [if_neg empty, if_neg digits]
      rfl

theorem parse_of_spells (spelled : Spells raw whole fraction) :
    parse raw =
      if Digits.value whole < 2 ^ 256 then
        let kept := Digits.dropTrailingZeros (fraction.take fractionDigits)
        let digits := Digits.value (whole ++ kept)
        if digits = 0 then .error (.nonPositiveAmount raw)
        else .ok (ofParts digits kept.length)
      else .error (.amountOverflow raw) := by
  rcases spelled.splitAt_eq with ⟨first, rest⟩
  have nonempty : (whole.isEmpty && fraction.isEmpty) = false := by
    simpa [Classical.or_iff_not_imp_left] using spelled.nonempty
  rw [parse]
  simp only [first, rest, nonempty, spelled.whole_digits, spelled.fraction_digits, Bool.and_self,
    Bool.false_eq_true, if_false, if_true]
  by_cases small : Digits.value whole < 2 ^ 256
  · simp only [if_pos small]
    generalize Digits.dropTrailingZeros (fraction.take fractionDigits) = kept
    by_cases zero : Digits.value (whole ++ kept) = 0
    · rw [if_pos zero, if_pos zero]
      rfl
    · rw [if_neg zero, if_neg zero]
      rfl
  · simp only [if_neg small]
    rfl

end DecimalAmount

/-! ## Numbers -/

def decimalValue (whole fraction : List Char) : ℚ :=
  Digits.value whole + Digits.value fraction / 10 ^ fraction.length

theorem decimalValue_nonneg (whole fraction : List Char) : 0 ≤ decimalValue whole fraction := by
  rw [decimalValue]
  positivity

theorem decimalValue_eq_toRat (whole fraction : List Char) :
    decimalValue whole fraction =
      DecimalAmount.toRat ⟨Digits.value (whole ++ fraction), fraction.length⟩ := by
  rw [decimalValue, DecimalAmount.toRat, Digits.value_append]
  push_cast
  field_simp

theorem decimalValue_append (whole first rest : List Char) :
    decimalValue whole (first ++ rest) =
      decimalValue whole first + Digits.value rest / 10 ^ (first.length + rest.length) := by
  rw [decimalValue, decimalValue, Digits.value_append, List.length_append, pow_add]
  push_cast
  field_simp
  ring

theorem decimalValue_lt_iff {fraction : List Char} (decimal : Digits.all fraction = true)
    (whole : List Char) (bound : Nat) :
    decimalValue whole fraction < bound ↔ Digits.value whole < bound := by
  have part : (Digits.value fraction : ℚ) / 10 ^ fraction.length < 1 := by
    rw [div_lt_one (by positivity)]
    exact_mod_cast Digits.value_lt decimal
  have nonneg : (0 : ℚ) ≤ Digits.value fraction / 10 ^ fraction.length := by positivity
  rw [decimalValue]
  constructor
  · intro below
    have wholeBelow : (Digits.value whole : ℚ) < bound := by linarith
    exact_mod_cast wholeBelow
  · intro below
    have wholeBelow : (Digits.value whole + 1 : ℚ) ≤ bound := by exact_mod_cast below
    linarith

theorem decimalValue_take_le (whole fraction : List Char) (count : Nat) :
    decimalValue whole (fraction.take count) ≤ decimalValue whole fraction := by
  have parts := decimalValue_append whole (fraction.take count) (fraction.drop count)
  rw [List.take_append_drop] at parts
  rw [parts]
  exact le_add_of_nonneg_right (by positivity)

/-- As long as one counts in places that are kept, it is no matter what comes after them. -/
theorem floor_decimalValue_append (whole first : List Char) {rest : List Char}
    (decimal : Digits.all rest = true) {places : Nat} (coarse : places ≤ first.length) :
    ⌊decimalValue whole (first ++ rest) * 10 ^ places⌋₊ =
      ⌊decimalValue whole first * 10 ^ places⌋₊ := by
  have longer : places ≤ (first ++ rest).length := by
    rw [List.length_append]
    omega
  have exponent : (first ++ rest).length - places = rest.length + (first.length - places) := by
    rw [List.length_append]
    omega
  rw [decimalValue_eq_toRat, decimalValue_eq_toRat, ← DecimalAmount.floorUnits_eq,
    ← DecimalAmount.floorUnits_eq, DecimalAmount.floorUnits_of_le longer,
    DecimalAmount.floorUnits_of_le coarse]
  dsimp only
  rw [exponent, pow_add, ← Nat.div_div_eq_div_mul, ← List.append_assoc,
    Digits.value_append_div decimal]

theorem floor_decimalValue_take (whole : List Char) {fraction : List Char}
    (decimal : Digits.all fraction = true) {places count : Nat} (coarse : places ≤ count) :
    ⌊decimalValue whole (fraction.take count) * 10 ^ places⌋₊ =
      ⌊decimalValue whole fraction * 10 ^ places⌋₊ := by
  rcases Nat.le_total fraction.length count with short | long
  · rw [List.take_of_length_le short]
  · have kept : places ≤ (fraction.take count).length := by
      rw [List.length_take_of_le long]
      exact coarse
    have parts := List.take_append_drop count fraction
    rw [← parts, Digits.all_append] at decimal
    rw [← floor_decimalValue_append whole _ decimal.2 kept, parts]

end LendingPool
