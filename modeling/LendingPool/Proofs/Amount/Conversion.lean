import LendingPool.Proofs.Abi.Words
import LendingPool.Proofs.Amount.FixedWidth
import LendingPool.Proofs.Amount.Units
/-! Amounts from their text to base units. The exact number is rounded down once, and refused only
if nothing is left of it or a word cannot hold it. -/

namespace LendingPool

/-- An exact number of base units, rounded down. It is refused if that leaves nothing or does not
fit into a word. -/
def BaseUnits.floored (exact : ℚ) (decimals : UInt8) (shown : String) :
    Except InputFault BaseUnits :=
  if ⌊exact⌋₊ = 0 then .error (.nonPositiveAmount shown)
  else if ⌊exact⌋₊ < 2 ^ 256 then .ok ⟨Word.ofNat ⌊exact⌋₊, decimals⟩
  else .error (.amountOverflow shown)

theorem BaseUnits.floored_le {exact : ℚ} (nonneg : 0 ≤ exact) {decimals : UInt8} {shown : String}
    {units : BaseUnits} (fits : floored exact decimals shown = .ok units) :
    (units.value.toNat : ℚ) ≤ exact := by
  rw [floored] at fits
  split at fits
  · cases fits
  · split at fits
    · rename_i small
      cases fits
      rw [Word.toNat_ofNat_of_lt small]
      exact Nat.floor_le nonneg
    · cases fits

namespace DecimalAmount

theorem toUnits_eq_floored (amount : DecimalAmount) (decimals : UInt8) :
    amount.toUnits decimals =
      BaseUnits.floored (amount.toRat * 10 ^ decimals.toNat) decimals amount.toText := by
  rw [toUnits, floorUnits_eq, BaseUnits.floored, Word.ofNat?]
  by_cases small : ⌊amount.toRat * 10 ^ decimals.toNat⌋₊ < 2 ^ 256
  · rw [if_pos small, if_pos small]
  · rw [if_neg small, if_neg small]

/-! ## What is read -/

theorem ofParts_digits_ne_zero {digits : Nat} (positive : digits ≠ 0) (scale : Nat) :
    (ofParts digits scale).digits ≠ 0 := by
  induction scale generalizing digits with
  | zero => exact positive
  | succ scale induction =>
      rw [ofParts]
      split
      · exact induction (by omega)
      · exact positive

theorem ofParts_digits_le (digits scale : Nat) : (ofParts digits scale).digits ≤ digits := by
  induction scale generalizing digits with
  | zero => exact Nat.le_refl digits
  | succ scale induction =>
      rw [ofParts]
      split
      · exact Nat.le_trans (induction (digits / 10)) (Nat.div_le_self digits 10)
      · exact Nat.le_refl digits

theorem ofParts_scale_le (digits scale : Nat) : (ofParts digits scale).scale ≤ scale := by
  induction scale generalizing digits with
  | zero => exact Nat.le_refl 0
  | succ scale induction =>
      rw [ofParts]
      split
      · exact Nat.le_trans (induction (digits / 10)) (Nat.le_succ scale)
      · exact Nat.le_refl _

theorem ofParts_ofParts (digits scale : Nat) :
    ofParts (ofParts digits scale).digits (ofParts digits scale).scale = ofParts digits scale := by
  induction scale generalizing digits with
  | zero => rfl
  | succ scale induction =>
      by_cases divisible : digits ≠ 0 ∧ digits % 10 = 0
      · rw [ofParts, if_pos divisible]
        exact induction (digits / 10)
      · have same : ofParts digits (scale + 1) = ⟨digits, scale + 1⟩ := by
          rw [ofParts, if_neg divisible]
        rw [same, same]

theorem ofParts_mul_tenPower {digits : Nat} (positive : digits ≠ 0) (scale places : Nat) :
    ofParts (digits * 10 ^ places) (scale + places) = ofParts digits scale := by
  induction places with
  | zero => rw [Nat.pow_zero, Nat.mul_one, Nat.add_zero]
  | succ places induction =>
      have product : digits * 10 ^ (places + 1) = digits * 10 ^ places * 10 := by
        rw [Nat.pow_succ, Nat.mul_assoc]
      have nonzero : digits * 10 ^ places ≠ 0 := by positivity
      rw [product, ← Nat.add_assoc, ofParts, if_pos (by omega), Nat.mul_div_cancel _ (by decide),
        induction]

structure IsTyped (amount : DecimalAmount) : Prop where
  positive : amount.digits ≠ 0
  room : amount.digits < 2 ^ 512
  places : amount.scale ≤ 77
  normal : ofParts amount.digits amount.scale = amount

variable {raw : String} {whole fraction : List Char}

theorem toRat_ofParts_kept (whole fraction : List Char) :
    (ofParts (Digits.value (whole ++ Digits.dropTrailingZeros fraction))
      (Digits.dropTrailingZeros fraction).length).toRat = decimalValue whole fraction := by
  have kept := decimalValue_eq_toRat whole (Digits.dropTrailingZeros fraction)
  rw [toRat_ofParts, decimalValue, ← Digits.value_dropTrailingZeros, ← decimalValue, kept, toRat]

theorem parse_of_spells_of_lt (spelled : Spells raw whole fraction)
    (small : Digits.value whole < 2 ^ 256) :
    (decimalValue whole (fraction.take 77) = 0 → parse raw = .error (.nonPositiveAmount raw)) ∧
      (decimalValue whole (fraction.take 77) ≠ 0 → ∃ amount, parse raw = .ok amount ∧
        amount.toRat = decimalValue whole (fraction.take 77) ∧ amount.IsTyped) := by
  have value := toRat_ofParts_kept whole (fraction.take 77)
  rcases Digits.dropTrailingZeros_take spelled.fraction_digits 77 with ⟨decimal, short⟩
  rw [parse_of_spells spelled, if_pos small]
  dsimp only
  rw [fractionDigits]
  generalize Digits.dropTrailingZeros (fraction.take 77) = kept at value decimal short
  -- the digits are compared with zero in one place, and the number that they spell in the other
  by_cases zero : Digits.value (whole ++ kept) = 0
  · have nothing : (ofParts (Digits.value (whole ++ kept)) kept.length).toRat = 0 := by
      rw [toRat_ofParts, zero, Nat.cast_zero, zero_div]
    rw [if_pos zero, ← value]
    exact ⟨fun _ => rfl, fun positive => absurd nothing positive⟩
  · rw [if_neg zero, ← value]
    have positive : (ofParts (Digits.value (whole ++ kept)) kept.length).toRat ≠ 0 := by
      rw [toRat_ofParts]
      positivity
    have room := value_append_room small decimal short
    refine ⟨fun nothing => absurd nothing positive, fun _ => ⟨_, rfl, rfl, ?_⟩⟩
    constructor
    · exact ofParts_digits_ne_zero zero _
    · exact Nat.lt_of_le_of_lt (ofParts_digits_le ..) room
    · exact Nat.le_trans (ofParts_scale_le ..) short
    · exact ofParts_ofParts ..

theorem exists_spells_of_parse {amount : DecimalAmount} (parses : parse raw = .ok amount) :
    ∃ whole fraction, Spells raw whole fraction ∧ Digits.value whole < 2 ^ 256 ∧
      amount.toRat = decimalValue whole (fraction.take 77) ∧ amount.IsTyped := by
  by_cases shape : ∃ whole fraction, Spells raw whole fraction
  · rcases shape with ⟨whole, fraction, spelled⟩
    by_cases small : Digits.value whole < 2 ^ 256
    · have either := parse_of_spells_of_lt spelled small
      rw [parses] at either
      by_cases zero : decimalValue whole (fraction.take 77) = 0
      · cases either.1 zero
      · rcases either.2 zero with ⟨_, same, worth, typed⟩
        cases same
        exact ⟨whole, fraction, spelled, small, worth, typed⟩
    · rw [parse_of_spells spelled, if_neg small] at parses
      cases parses
  · rw [parse_of_not_spells fun whole fraction spelled => shape ⟨whole, fraction, spelled⟩]
      at parses
    cases parses

theorem isTyped_of_parse {amount : DecimalAmount} (parses : parse raw = .ok amount) :
    amount.IsTyped := by
  rcases exists_spells_of_parse parses with ⟨_, _, _, _, _, typed⟩
  exact typed

/-- Reading and converting rounds down the exact number once. A text without the shape of a decimal
is no amount, and neither is one that is worth nothing in its first 77 places; an integer part of
`2 ^ 256` is too large. Every other text is converted at every precision, unless nothing is
left of it or a word cannot hold it. So what comes out is at most what was typed, and the places
that do not count make no difference where there are no more than 77. All this can be done in
512 bits. -/
theorem parse_toUnits (raw : String) :
    ((∀ whole fraction, ¬ Spells raw whole fraction) →
      parse raw = .error (.nonPositiveAmount raw)) ∧
    (∀ whole fraction, Spells raw whole fraction →
      (2 ^ 256 ≤ Digits.value whole → parse raw = .error (.amountOverflow raw)) ∧
      (Digits.value whole < 2 ^ 256 → decimalValue whole (fraction.take 77) = 0 →
        parse raw = .error (.nonPositiveAmount raw)) ∧
      (Digits.value whole < 2 ^ 256 → decimalValue whole (fraction.take 77) ≠ 0 →
        ∃ amount, parse raw = .ok amount ∧ ∀ decimals : UInt8,
          amount.toUnits decimals =
            BaseUnits.floored (decimalValue whole (fraction.take 77) * 10 ^ decimals.toNat)
              decimals amount.toText ∧
          (∀ units, amount.toUnits decimals = .ok units →
            (units.value.toNat : ℚ) ≤ decimalValue whole fraction * 10 ^ decimals.toNat) ∧
          (decimals.toNat ≤ 77 →
            amount.toUnits decimals =
              BaseUnits.floored (decimalValue whole fraction * 10 ^ decimals.toNat)
                decimals amount.toText) ∧
          amount.toUnits decimals = amount.toUnitsWide decimals)) ∧
    parse raw = parseWide raw := by
  refine ⟨parse_of_not_spells, fun whole fraction spelled => ⟨fun large => ?_, fun small => ?_,
    fun small positive => ?_⟩, parse_eq_parseWide raw⟩
  · rw [parse_of_spells spelled, if_neg (Nat.not_lt.mpr large)]
  · exact (parse_of_spells_of_lt spelled small).1
  · rcases (parse_of_spells_of_lt spelled small).2 positive with
      ⟨amount, parses, value, typed⟩
    refine ⟨amount, parses, fun decimals => ?_⟩
    have converted := amount.toUnits_eq_floored decimals
    have power : (0 : ℚ) ≤ 10 ^ decimals.toNat := pow_nonneg (by decide) _
    rw [value] at converted
    refine ⟨converted, fun units fits => ?_, fun coarse => ?_,
      toUnits_eq_toUnitsWide typed.positive typed.room decimals⟩
    · rw [converted] at fits
      refine le_trans (BaseUnits.floored_le (mul_nonneg (decimalValue_nonneg ..) power) fits) ?_
      exact mul_le_mul_of_nonneg_right (decimalValue_take_le whole fraction 77) power
    · rw [converted, BaseUnits.floored, BaseUnits.floored,
        floor_decimalValue_take whole spelled.fraction_digits coarse]

/-- Eighty places, of which 77 count, at a precision of 18; and three texts that are refused, one
for each reason. -/
theorem parse_toUnits_long_fraction :
    (∃ amount, parse (String.ofList ('1' :: '.' :: List.replicate 80 '1')) = .ok amount ∧
      amount.toUnits 18 = .ok ⟨1111111111111111111, 18⟩) ∧
    parse "1e18" = .error (.nonPositiveAmount "1e18") ∧
    parse "0.00" = .error (.nonPositiveAmount "0.00") ∧
    parse (String.ofList (List.replicate 79 '9')) =
      .error (.amountOverflow (String.ofList (List.replicate 79 '9'))) := by
  have long : Spells (String.ofList ('1' :: '.' :: List.replicate 80 '1')) ['1']
      (List.replicate 80 '1') :=
    ⟨.inr String.toList_ofList, by decide, by decide, by decide⟩
  have zero : Spells "0.00" ['0'] ['0', '0'] := ⟨by decide, by decide, by decide, by decide⟩
  have large : Spells (String.ofList (List.replicate 79 '9')) (List.replicate 79 '9') [] :=
    ⟨.inl ⟨String.toList_ofList, rfl⟩, by decide, by decide, by decide⟩
  refine ⟨?_, (parse_toUnits _).1 ?_, ?_, ?_⟩
  · have positive : decimalValue ['1'] ((List.replicate 80 '1').take 77) ≠ 0 := by
      rw [decimalValue, show Digits.value ['1'] = 1 from rfl]
      positivity
    have units : floorUnits ⟨Digits.value (List.replicate 78 '1'), 77⟩ 18 =
        1111111111111111111 := by
      decide +kernel
    have exact : ⌊decimalValue ['1'] ((List.replicate 80 '1').take 77) * 10 ^ 18⌋₊ =
        1111111111111111111 := by
      rw [decimalValue_eq_toRat, ← floorUnits_eq]
      exact units
    rcases ((parse_toUnits _).2.1 _ _ long).2.2 (by decide) positive with
      ⟨amount, parses, converts⟩
    refine ⟨amount, parses, ?_⟩
    rw [(converts 18).1, BaseUnits.floored, show (18 : UInt8).toNat = 18 from rfl, exact]
    rfl
  · intro whole fraction spelled
    have digits := spelled.whole_digits
    rw [← spelled.splitAt_eq.1] at digits
    exact absurd digits (by decide)
  · refine ((parse_toUnits _).2.1 _ _ zero).2.1 (by decide) ?_
    norm_num [decimalValue, Digits.value]
  · exact ((parse_toUnits _).2.1 _ _ large).1 (by decide +kernel)

end DecimalAmount

end LendingPool
