import LendingPool.Proofs.Amount.Conversion
/-! The one form of an amount. A number has many decimals, but only one without a zero at the end of
its fraction. Amounts are read into that form, so they are the same exactly if they are worth the
same, and what is printed of one is read back as it. -/

namespace LendingPool

namespace DecimalAmount

/-! ## Canonical amounts -/

/-- More than nothing, and with no needless place. -/
structure IsCanonical (amount : DecimalAmount) : Prop where
  positive : 0 < amount.digits
  shortest : amount.scale = 0 ∨ ¬ 10 ∣ amount.digits

variable {amount other : DecimalAmount} {raw : String} {whole fraction : List Char}

theorem isCanonical_ofParts {digits : Nat} (positive : digits ≠ 0) (scale : Nat) :
    (ofParts digits scale).IsCanonical := by
  induction scale generalizing digits with
  | zero => exact ⟨Nat.pos_of_ne_zero positive, .inl rfl⟩
  | succ scale induction =>
      rw [ofParts]
      split
      · exact induction (by omega)
      · rename_i last
        refine ⟨Nat.pos_of_ne_zero positive, .inr fun divisible => ?_⟩
        exact last ⟨positive, Nat.mod_eq_zero_of_dvd divisible⟩

theorem IsCanonical.ofParts_eq (canonical : amount.IsCanonical) :
    ofParts amount.digits amount.scale = amount := by
  rcases amount with ⟨digits, _ | scale⟩
  · rfl
  · rw [ofParts, if_neg]
    rintro ⟨-, last⟩
    exact canonical.shortest.resolve_left (Nat.succ_ne_zero scale) (Nat.dvd_of_mod_eq_zero last)

theorem IsTyped.isCanonical (typed : amount.IsTyped) : amount.IsCanonical := by
  rw [← typed.normal]
  exact isCanonical_ofParts typed.positive amount.scale

theorem IsCanonical.toRat_pos (canonical : amount.IsCanonical) : 0 < amount.toRat := by
  have digits : (0 : ℚ) < amount.digits := Nat.cast_pos.mpr canonical.positive
  rw [toRat]
  positivity

theorem toRat_eq_toRat_iff :
    amount.toRat = other.toRat ↔
      amount.digits * 10 ^ other.scale = other.digits * 10 ^ amount.scale := by
  rw [toRat, toRat, div_eq_div_iff (by positivity) (by positivity)]
  norm_cast

theorem IsCanonical.eq_of_toRat_eq (canonical : amount.IsCanonical)
    (otherCanonical : other.IsCanonical) (worth : amount.toRat = other.toRat) :
    amount = other := by
  have scaled := toRat_eq_toRat_iff.mp worth
  -- both have the same digits once each is given the places of the other
  calc amount
      = ofParts amount.digits amount.scale := canonical.ofParts_eq.symm
    _ = ofParts (amount.digits * 10 ^ other.scale) (amount.scale + other.scale) :=
        (ofParts_mul_tenPower canonical.positive.ne' amount.scale other.scale).symm
    _ = ofParts (other.digits * 10 ^ amount.scale) (other.scale + amount.scale) := by
        rw [scaled, Nat.add_comm]
    _ = ofParts other.digits other.scale :=
        ofParts_mul_tenPower otherCanonical.positive.ne' other.scale amount.scale
    _ = other := otherCanonical.ofParts_eq

/-! ## Reading -/

theorem parse_of_spells_of_toRat (spelled : Spells raw whole fraction)
    (small : Digits.value whole < 2 ^ 256) (canonical : amount.IsCanonical)
    (worth : amount.toRat = decimalValue whole (fraction.take 77)) : parse raw = .ok amount := by
  have positive : decimalValue whole (fraction.take 77) ≠ 0 := worth ▸ canonical.toRat_pos.ne'
  rcases (parse_of_spells_of_lt spelled small).2 positive with ⟨read, reads, value, typed⟩
  rw [reads, typed.isCanonical.eq_of_toRat_eq canonical (value.trans worth.symm)]

theorem parse_eq_ok_iff :
    parse raw = .ok amount ↔
      amount.IsCanonical ∧ ∃ whole fraction, Spells raw whole fraction ∧
        Digits.value whole < 2 ^ 256 ∧ amount.toRat = decimalValue whole (fraction.take 77) := by
  constructor
  · intro parses
    rcases exists_spells_of_parse parses with ⟨whole, fraction, spelled, small, worth, typed⟩
    exact ⟨typed.isCanonical, whole, fraction, spelled, small, worth⟩
  · rintro ⟨canonical, whole, fraction, spelled, small, worth⟩
    exact parse_of_spells_of_toRat spelled small canonical worth

theorem toRat_of_parse (parses : parse raw = .ok amount) (spelled : Spells raw whole fraction) :
    amount.toRat = decimalValue whole (fraction.take 77) := by
  rcases exists_spells_of_parse parses with ⟨_, _, other, -, worth, -⟩
  rcases spelled.splitAt_eq with ⟨rfl, rfl⟩
  rcases other.splitAt_eq with ⟨rfl, rfl⟩
  exact worth

theorem toRat_lt_of_parse (parses : parse raw = .ok amount) :
    amount.toRat < (2 ^ 256 : Nat) := by
  rcases exists_spells_of_parse parses with ⟨whole, fraction, spelled, small, worth, -⟩
  rw [worth, decimalValue_lt_iff (Digits.all_take spelled.fraction_digits 77)]
  exact small

/-! ## Printing -/

theorem spells_toText (amount : DecimalAmount) :
    ∃ whole fraction, Spells amount.toText whole fraction ∧ fraction.length = amount.scale ∧
      decimalValue whole fraction = amount.toRat := by
  rcases Digits.exists_positional amount.digits amount.scale with
    ⟨whole, fraction, text, wholeDecimal, fractionDecimal, some, places, worth⟩
  refine ⟨whole, fraction, ⟨?_, wholeDecimal, fractionDecimal, .inl some⟩, places, ?_⟩
  · rw [toText, String.toList_ofList]
    exact text
  · rw [decimalValue_eq_toRat, worth, places]

theorem parse_toText (canonical : amount.IsCanonical) (places : amount.scale ≤ 77)
    (small : amount.toRat < (2 ^ 256 : Nat)) : parse amount.toText = .ok amount := by
  rcases amount.spells_toText with ⟨whole, fraction, spelled, length, worth⟩
  rw [← worth, decimalValue_lt_iff spelled.fraction_digits] at small
  apply parse_of_spells_of_toRat spelled small canonical
  rw [List.take_of_length_le (by omega), worth]

/-- Amounts are read into one form. A text is read as an amount just if that is canonical and worth
what the text spells in 77 places, with an integer part of one word; it has no more places then,
and is read again from what is printed of it. So two texts are read alike exactly if they spell the
same number in 77 places. Any digits and places are brought into that form, unless they are zero:
they stay worth the same, and need no more room. -/
theorem parse_canonical :
    (∀ raw amount, parse raw = .ok amount ↔
      amount.IsCanonical ∧ ∃ whole fraction, Spells raw whole fraction ∧
        Digits.value whole < 2 ^ 256 ∧ amount.toRat = decimalValue whole (fraction.take 77)) ∧
    (∀ raw amount, parse raw = .ok amount →
      amount.scale ≤ 77 ∧ parse amount.toText = .ok amount) ∧
    (∀ raw other amount otherAmount whole fraction otherWhole otherFraction,
      parse raw = .ok amount → parse other = .ok otherAmount →
      Spells raw whole fraction → Spells other otherWhole otherFraction →
      (amount = otherAmount ↔
        decimalValue whole (fraction.take 77) =
          decimalValue otherWhole (otherFraction.take 77))) ∧
    (∀ digits scale,
      (ofParts digits scale).toRat = digits / 10 ^ scale ∧
      (ofParts digits scale).digits ≤ digits ∧ (ofParts digits scale).scale ≤ scale ∧
      (digits ≠ 0 → (ofParts digits scale).IsCanonical)) := by
  refine ⟨fun raw amount => parse_eq_ok_iff, fun raw amount parses => ?_, ?_,
    fun digits scale => ?_⟩
  · have typed := isTyped_of_parse parses
    exact ⟨typed.places, parse_toText typed.isCanonical typed.places (toRat_lt_of_parse parses)⟩
  · intro raw other amount otherAmount whole fraction otherWhole otherFraction parses otherParses
      spelled otherSpelled
    rw [← toRat_of_parse parses spelled, ← toRat_of_parse otherParses otherSpelled]
    constructor
    · exact congrArg toRat
    · exact (isTyped_of_parse parses).isCanonical.eq_of_toRat_eq
        (isTyped_of_parse otherParses).isCanonical
  · exact ⟨toRat_ofParts digits scale, ofParts_digits_le digits scale,
      ofParts_scale_le digits scale, fun positive => isCanonical_ofParts positive scale⟩

/-- A number with needless zeros on both sides, and without. -/
theorem parse_canonical_of_zeros :
    (IsCanonical ⟨123, 2⟩ ∧ toText ⟨123, 2⟩ = "1.23" ∧ parse "1.23" = .ok ⟨123, 2⟩) ∧
    decimalValue ['0', '0', '0', '1'] (['2', '3', '0', '0'].take 77) =
      decimalValue ['1'] (['2', '3'].take 77) ∧
    IsCanonical (ofParts 12300 4) := by
  rcases parse_canonical with ⟨reads, prints, alike, forms⟩
  have padded : parse "0001.2300" = .ok ⟨123, 2⟩ := by decide
  have shown : toText ⟨123, 2⟩ = "1.23" := by decide
  have printed := (prints _ _ padded).2
  rw [shown] at printed
  have spelled : Spells "0001.2300" ['0', '0', '0', '1'] ['2', '3', '0', '0'] :=
    ⟨.inr (by decide), by decide, by decide, by decide⟩
  have otherSpelled : Spells "1.23" ['1'] ['2', '3'] :=
    ⟨.inr (by decide), by decide, by decide, by decide⟩
  refine ⟨⟨((reads _ _).mp padded).1, shown, printed⟩, ?_, (forms 12300 4).2.2.2 (by decide)⟩
  exact (alike _ _ _ _ _ _ _ _ padded printed spelled otherSpelled).mp rfl

end DecimalAmount

end LendingPool
