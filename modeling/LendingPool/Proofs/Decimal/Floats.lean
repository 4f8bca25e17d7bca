import LendingPool.Proofs.Decimal.Reading
import LendingPool.Proofs.Decimal.Shortest
/-! Floats as decimals. The text of a float is its shortest digits in positional form, and the
decimal is what this text spells. There is one just if the float is below `2 ^ 96`. -/

namespace LendingPool

/-! ## Texts without underscores -/

namespace Spells

variable {raw : String} {whole fraction otherWhole otherFraction : List Char}

theorem isDigit_or_point (spelled : Spells raw whole fraction) {char : Char}
    (member : char ∈ raw.toList) : char.isDigit = true ∨ char = '.' := by
  rcases spelled.text with ⟨same, -⟩ | same <;> rw [same] at member
  · exact .inl (List.all_eq_true.mp spelled.whole_digits char member)
  · rcases List.mem_append.mp member with inWhole | behind
    · exact .inl (List.all_eq_true.mp spelled.whole_digits char inWhole)
    · rcases List.mem_cons.mp behind with point | inFraction
      · exact .inr point
      · exact .inl (List.all_eq_true.mp spelled.fraction_digits char inFraction)

theorem ne_underscore (spelled : Spells raw whole fraction) {char : Char}
    (member : char ∈ raw.toList) : char ≠ '_' := by
  rintro rfl
  rcases spelled.isDigit_or_point member with digit | point
  · cases digit
  · cases point

theorem filter_eq (spelled : Spells raw whole fraction) :
    raw.toList.filter (· != '_') = raw.toList :=
  List.filter_eq_self.mpr fun _ member => bne_iff_ne.mpr (spelled.ne_underscore member)

theorem unique (spelled : Spells raw whole fraction) (other : Spells raw otherWhole otherFraction) :
    otherWhole = whole ∧ otherFraction = fraction :=
  ⟨other.splitAt_eq.1.symm.trans spelled.splitAt_eq.1,
    other.splitAt_eq.2.symm.trans spelled.splitAt_eq.2⟩

theorem numeral (spelled : Spells raw whole fraction) :
    Decimal96.Numeral raw.toList whole fraction := by
  refine ⟨?_, fun member => ?_⟩
  · rwa [spelled.filter_eq, String.ofList_toList]
  · exact spelled.ne_underscore ((List.takeWhile_sublist _).mem member) rfl

theorem eq_of_numeral (spelled : Spells raw whole fraction)
    (other : Decimal96.Numeral raw.toList otherWhole otherFraction) :
    otherWhole = whole ∧ otherFraction = fraction := by
  have spells := other.spells
  rw [spelled.filter_eq, String.ofList_toList] at spells
  exact spelled.unique spells

end Spells

namespace Decimal96.Reading

variable {raw : String} {whole fraction : List Char}

theorem holds_of_finish {mantissa scale : Nat} (negative : Bool)
    (spelled : Spells raw whole fraction)
    (reads : finish ⟨0, 0, false, false⟩ raw.toList = some (mantissa, scale)) :
    (ofParts negative mantissa scale).Holds negative (decimalValue whole fraction) ∧
      Digits.value whole < 2 ^ 96 := by
  rcases finish_cases held_nil reads with
    ⟨_, _, numeral, room, result⟩ | ⟨taken, next, after, _, _, text, held, decides, rounds, -⟩
  · rcases spelled.eq_of_numeral numeral with ⟨rfl, rfl⟩
    cases result
    refine ⟨.inl ?_, value_lt_of_append room.1⟩
    rw [toRat_ofParts _ room.1 room.2, decimalValue_eq_toRat, DecimalAmount.toRat]
  · have numeral := spelled.numeral
    rw [text] at numeral
    have among : next ∈ raw.toList := by simp [text]
    rcases held.numeral_after (spelled.ne_underscore among) numeral with ⟨more, decimal, rfl, rfl⟩
    rw [Digits.all, List.all_cons, Bool.and_eq_true] at decimal
    exact ⟨.inr (rounds_of_roundAt negative decimal.1 decimal.2 held.room
      (decides.imp_right And.right) rounds), value_lt_of_append held.room.1⟩

theorem finish_whole {before digits rest : List Char} (decimal : Digits.all digits = true)
    (fits : Digits.value (before ++ digits) < 2 ^ 96) :
    finish (holding before [] false) (digits ++ rest) =
      finish (holding (before ++ digits) [] false) rest := by
  induction digits generalizing before with
  | nil => rw [List.append_nil, List.nil_append]
  | cons digit digits induction =>
      rw [Digits.all, List.all_cons, Bool.and_eq_true] at decimal
      rw [List.append_cons] at fits
      have taken : Digits.value (before ++ [] ++ [digit]) < 2 ^ 96 := by
        rw [List.append_nil]
        exact value_lt_of_append fits
      rw [List.cons_append, finish_digit false (by simp) decimal.1, if_pos taken, List.append_nil,
        if_neg Bool.false_ne_true, List.length_nil, ← holding_whole_digit,
        induction decimal.2 fits, ← List.append_cons]

theorem isSome_roundAt {next : Char} (digit : next.isDigit = true)
    (room : Digits.value (whole ++ fraction) + 1 < 2 ^ 96 ∨ fraction ≠ []) :
    ((holding whole fraction true).roundAt next).isSome := by
  rw [roundAt_of_digit _ digit]
  split
  · rfl
  · split
    · rfl
    · rename_i full
      have scaled : (holding whole fraction true).scale ≠ 0 :=
        List.length_eq_zero_iff.not.mpr (room.resolve_left full)
      rw [if_pos scaled]
      rfl

theorem isSome_finish {digits : List Char} (decimal : Digits.all digits = true)
    (room : Digits.value (whole ++ fraction) + 1 < 2 ^ 96 ∨ fraction ≠ [])
    (some : whole ++ fraction ++ digits ≠ []) :
    (finish (holding whole fraction true) digits).isSome := by
  induction digits generalizing fraction with
  | nil =>
      rw [List.append_nil] at some
      have seen : (holding whole fraction true).digitSeen = true := by simpa [holding] using some
      rw [finish, if_pos seen]
      rfl
  | cons digit digits induction =>
      rw [Digits.all, List.all_cons, Bool.and_eq_true] at decimal
      by_cases full : fraction.length = 28
      · have here : (holding whole fraction true).scale = 28 := full
        rw [finish, if_pos here]
        exact isSome_roundAt decimal.1 room
      · rw [finish_digit true full decimal.1]
        split
        · rw [if_pos rfl, ← holding_fraction_digit]
          exact induction decimal.2 (.inr (by simp)) (by simp)
        · exact isSome_roundAt decimal.1 room

theorem finish_point (whole rest : List Char) :
    finish (holding whole [] false) ('.' :: rest) = finish (holding whole [] true) rest :=
  rfl

theorem isSome_finish_of_spells (spelled : Spells raw whole fraction)
    (fits : Digits.value whole + 1 < 2 ^ 96) :
    (finish ⟨0, 0, false, false⟩ raw.toList).isSome := by
  have wholeRead (rest : List Char) : finish (holding [] [] false) (whole ++ rest) =
      finish (holding whole [] false) rest :=
    finish_whole spelled.whole_digits (Nat.lt_of_succ_lt fits)
  change (finish (holding [] [] false) raw.toList).isSome
  rcases spelled.text with ⟨same, rfl⟩ | same
  · have some : whole ≠ [] := spelled.nonempty.resolve_right (· rfl)
    have seen : (holding whole [] false).digitSeen = true := by simpa [holding] using some
    rw [same, ← List.append_nil whole, wholeRead, finish, if_pos seen]
    rfl
  · rw [same, wholeRead, finish_point]
    refine isSome_finish spelled.fraction_digits ?_ ?_
    · rw [List.append_nil]
      exact .inl fits
    · simpa [or_iff_not_imp_left] using spelled.nonempty

end Decimal96.Reading

namespace Decimal96

variable {raw : String} {whole fraction sign : List Char} {negative : Bool}

theorem ofPlain?_of_spells (isSign : IsSign sign negative) (spelled : Spells raw whole fraction) :
    ofPlain? (sign ++ raw.toList) =
      (Reading.finish ⟨0, 0, false, false⟩ raw.toList).map fun parts =>
        ofParts negative parts.1 parts.2 := by
  cases isSign with
  | none =>
      rw [List.nil_append]
      have unsigned (first : Char) (rest : List Char) (same : raw.toList = first :: rest) :
          first ≠ '-' ∧ first ≠ '+' := by
        have member : first ∈ raw.toList := by rw [same]; exact List.mem_cons_self ..
        rcases spelled.isDigit_or_point member with digit | rfl
        · constructor <;> rintro rfl <;> cases digit
        · decide
      unfold ofPlain?
      dsimp only
      split
      · rename_i rest same
        exact absurd rfl (unsigned _ rest same).1
      · rename_i rest same
        exact absurd rfl (unsigned _ rest same).2
      · exact Option.map_eq_bind.symm
  | plus | minus => exact Option.map_eq_bind.symm

theorem ofScientific?_of_spells (isSign : IsSign sign negative)
    (spelled : Spells raw whole fraction) : ofScientific? (sign ++ raw.toList) = none := by
  have unmarked : ∀ char ∈ sign ++ raw.toList, (!(char == 'e' || char == 'E')) = true := by
    intro char member
    rcases List.mem_append.mp member with inSign | inRaw
    · cases isSign <;> simp_all
    · rcases spelled.isDigit_or_point inRaw with digit | rfl
      · have other : char ≠ 'e' ∧ char ≠ 'E' := by
          constructor <;> rintro rfl <;> cases digit
        simp [other]
      · rfl
  unfold ofScientific?
  dsimp only
  rw [List.dropWhile_eq_nil_iff.mpr unmarked]
  cases ofPlain? _ <;> rfl

theorem ofText?_of_spells (isSign : IsSign sign negative) (spelled : Spells raw whole fraction) :
    ofText? (String.ofList (sign ++ raw.toList)) =
      (Reading.finish ⟨0, 0, false, false⟩ raw.toList).map fun parts =>
        ofParts negative parts.1 parts.2 := by
  rw [ofText?, String.toList_ofList, ofPlain?_of_spells isSign spelled,
    ofScientific?_of_spells isSign spelled]
  cases Reading.finish ⟨0, 0, false, false⟩ raw.toList <;> rfl

end Decimal96

namespace Binary64

/-! ## Positional text -/

theorem isSign_sign (number : Binary64) : Decimal96.IsSign number.sign number.negative := by
  rw [sign]
  cases number.negative with
  | false => exact .none
  | true => exact .minus

theorem shortestDigits_spec (number : Binary64) :
    Digits.all (number.shortestDigits .up).1 = true ∧ (number.shortestDigits .up).1 ≠ [] ∧
      Digits.value (number.shortestDigits .up).1 * (10 : ℚ) ^ (number.shortestDigits .up).2 =
        number.shortestSize .up := by
  rw [shortestDigits, shortestSize]
  split <;> rename_i nonzero
  · refine ⟨rfl, List.cons_ne_nil _ _, ?_⟩
    have zero : Digits.value ['0'] = 0 := rfl
    rw [zero, Nat.cast_zero, zero_mul]
  · have positive : 0 < number.shortestSize .up := by
      rcases number.isShortest .up with ⟨_, shortest⟩
      exact pos_of_readsBack nonzero shortest.readsBack
    rw [shortestSize, if_neg nonzero] at positive
    rcases Digits.exists_eq_append_zeros (Digits.ofNat (number.shortest .up).1) with ⟨count, split⟩
    dsimp only
    generalize Digits.dropTrailingZeros (Digits.ofNat (number.shortest .up).1) = digits at split ⊢
    have decimal := Digits.all_ofNat (number.shortest .up).1
    rw [split, Digits.all_append] at decimal
    have worth : (number.shortest .up).1 = Digits.value digits * 10 ^ count := by
      rw [← Digits.value_ofNat (number.shortest .up).1, split, Digits.value_append,
        Digits.value_replicate_zero, List.length_replicate, Nat.add_zero]
    have dropped : (Digits.ofNat (number.shortest .up).1).length - digits.length = count := by
      rw [split, List.length_append, List.length_replicate, Nat.add_sub_cancel_left]
    refine ⟨decimal.1, ?_, ?_⟩
    · rintro rfl
      have none : (number.shortest .up).1 = 0 := worth.trans (Nat.zero_mul _)
      rw [none, Nat.cast_zero, zero_mul] at positive
      exact lt_irrefl _ positive
    · rw [dropped, zpow_add₀ (by norm_num), zpow_natCast, worth]
      push_cast
      ring

theorem exists_spells (number : Binary64) :
    ∃ raw whole fraction, number.toPositional = number.sign ++ raw.toList ∧
      Spells raw whole fraction ∧ decimalValue whole fraction = number.shortestSize .up := by
  rcases number.shortestDigits_spec with ⟨decimal, some, worth⟩
  rw [toPositional]
  generalize number.shortestDigits .up = shortest at decimal some worth
  rcases shortest with ⟨digits, unit⟩
  dsimp only at decimal some worth ⊢
  rw [← worth]
  by_cases large : 0 ≤ unit
  · rw [if_pos large]
    refine ⟨String.ofList (digits ++ List.replicate unit.toNat '0'), _, [], ?_,
      ⟨.inl ⟨String.toList_ofList, rfl⟩, ?_, rfl, ?_⟩, ?_⟩
    · rw [String.toList_ofList]
    · rw [Digits.all_append]
      exact ⟨decimal, by simp [Digits.all]⟩
    · exact .inl (List.append_ne_nil_of_left_ne_nil some _)
    · rw [decimalValue_eq_toRat, DecimalAmount.toRat, List.append_nil, Digits.value_append,
        Digits.value_replicate_zero, List.length_replicate, List.length_nil, pow_zero, div_one]
      push_cast
      rw [← zpow_natCast, Int.toNat_of_nonneg large, add_zero]
  · rw [if_neg large]
    rcases Digits.exists_positional (Digits.value digits) (-unit).toNat with
      ⟨whole, fraction, text, wholeDecimal, fractionDecimal, some, places, same⟩
    refine ⟨String.ofList (Digits.positional (Digits.value digits) (-unit).toNat), whole, fraction,
      ?_, ⟨?_, wholeDecimal, fractionDecimal, .inl some⟩, ?_⟩
    · rw [String.toList_ofList]
    · rw [String.toList_ofList]
      exact text
    · rw [decimalValue_eq_toRat, DecimalAmount.toRat, same, places, zpow_eq_div,
        show unit.toNat = 0 by omega, pow_zero, mul_one_div]

/-! ## Decimals -/

theorem holds_of_toDecimal96? {number : Binary64} {decimal : Decimal96}
    (reads : number.toDecimal96? = some decimal) :
    decimal.Holds number.negative (number.shortestSize .up) := by
  rcases number.exists_spells with ⟨raw, whole, fraction, text, spelled, worth⟩
  rw [toDecimal96?, text, Decimal96.ofText?_of_spells number.isSign_sign spelled] at reads
  rcases Option.map_eq_some_iff.mp reads with ⟨⟨mantissa, scale⟩, finishes, rfl⟩
  rw [← worth]
  exact (Decimal96.Reading.holds_of_finish number.negative spelled finishes).1

theorem exponent_lt {number : Binary64} (small : number.size < 2 ^ 96) : number.exponent < 44 := by
  by_contra large
  rcases number.finite_bounds with ⟨-, -, -, full | least⟩
  · have enough : (2 : ℚ) ^ 52 * 2 ^ (44 : Int) ≤ number.size := by
      rw [size]
      gcongr
      · exact_mod_cast full
      · norm_num
      · omega
    norm_num at enough
    linarith
  · omega

theorem shortestSize_lt {number : Binary64} (small : number.size < 2 ^ 96) :
    number.shortestSize .up < 2 ^ 96 - 1 := by
  rcases number.isShortest .up with ⟨_, shortest⟩
  have below := (bounds_of_readsBack shortest.readsBack).2
  have step : (2 : ℚ) ^ number.exponent ≤ 2 ^ (43 : Int) :=
    zpow_le_zpow_right₀ (by norm_num) (by have bound := exponent_lt small; omega)
  have bits : (number.significand : ℚ) + 1 ≤ 2 ^ 53 := by exact_mod_cast number.finite_bounds.1
  have half : number.size + 2 ^ number.exponent / 2 ≤ (2 ^ 53 - 1 / 2) * 2 ^ (43 : Int) := by
    have scaled : ((number.significand : ℚ) + 1 / 2) * 2 ^ number.exponent ≤
        (2 ^ 53 - 1 / 2) * 2 ^ (43 : Int) := by
      gcongr
      linarith
    rw [size]
    linarith
  norm_num at half ⊢
  linarith

theorem le_exponent {number : Binary64} (large : 2 ^ 96 ≤ number.size) : 44 ≤ number.exponent := by
  by_contra small
  have bits : (number.significand : ℚ) < 2 ^ 53 := by exact_mod_cast number.finite_bounds.1
  have less : number.size < 2 ^ 53 * 2 ^ (43 : Int) := by
    rw [size]
    calc (number.significand : ℚ) * 2 ^ number.exponent
        < 2 ^ 53 * 2 ^ number.exponent := by gcongr
      _ ≤ 2 ^ 53 * 2 ^ (43 : Int) := by
          gcongr
          · norm_num
          · omega
  norm_num at less
  linarith

theorem shortest_of_power {number : Binary64} (significand : number.significand = 2 ^ 52)
    (exponent : number.exponent = 44) : number.shortest .up = (7922816251426434, 13) := by
  rcases number with ⟨negative, _, _, _⟩
  cases significand
  cases exponent
  cases negative <;> decide +kernel +revert

/-- What reads back as a number above `2 ^ 96` is above it. For `2 ^ 96` itself something smaller
does, too, but its shortest digits are larger. -/
theorem le_shortestSize {number : Binary64} (large : 2 ^ 96 ≤ number.size) :
    2 ^ 96 ≤ number.shortestSize .up := by
  have least := le_exponent large
  have full : 2 ^ 52 ≤ number.significand := number.finite_bounds.2.2.2.resolve_right (by omega)
  have enough {significand : Nat} {exponent : Int} (bits : significand ≤ number.significand)
      (power : exponent ≤ number.exponent)
      (above : (2 : ℚ) ^ 96 ≤ (significand - 1 / 2) * 2 ^ exponent) :
      2 ^ 96 ≤ number.shortestSize .up := by
    rcases number.isShortest .up with ⟨_, shortest⟩
    have low := (bounds_of_readsBack shortest.readsBack).1
    have gap := number.gapBelow_le
    have scaled : ((significand : ℚ) - 1 / 2) * 2 ^ exponent ≤
        (number.significand - 1 / 2) * 2 ^ number.exponent := by
      have some : (2 : ℚ) ^ 52 ≤ number.significand := by exact_mod_cast full
      have more : (significand : ℚ) ≤ number.significand := by exact_mod_cast bits
      refine mul_le_mul (by linarith) (zpow_le_zpow_right₀ (by norm_num) power) (by positivity) ?_
      linarith
    rw [size] at low
    linarith
  rcases lt_or_eq_of_le full with more | power
  · refine enough more least ?_
    norm_num
  · rcases lt_or_eq_of_le least with more | same
    · refine enough full more ?_
      norm_num
    · rw [shortestSize, if_neg (by omega), shortest_of_power power.symm same.symm]
      norm_num

theorem toDecimal96?_eq_none_iff {number : Binary64} :
    number.toDecimal96? = none ↔ 2 ^ 96 ≤ number.size := by
  rcases number.exists_spells with ⟨raw, whole, fraction, text, spelled, worth⟩
  rw [toDecimal96?, text, Decimal96.ofText?_of_spells number.isSign_sign spelled,
    Option.map_eq_none_iff]
  constructor
  · intro lost
    by_contra small
    have fits : Digits.value whole < 2 ^ 96 - 1 := by
      refine (decimalValue_lt_iff spelled.fraction_digits whole _).mp ?_
      rw [worth]
      exact (shortestSize_lt (not_le.mp small)).trans_eq (by norm_num)
    have found := Decimal96.Reading.isSome_finish_of_spells spelled (by omega)
    rw [lost] at found
    cases found
  · intro large
    by_contra found
    rcases Option.ne_none_iff_exists'.mp found with ⟨⟨mantissa, scale⟩, finishes⟩
    have fits := (Decimal96.Reading.holds_of_finish number.negative spelled finishes).2
    have small := (decimalValue_lt_iff spelled.fraction_digits whole (2 ^ 96)).mpr fits
    rw [worth] at small
    have enough := le_shortestSize large
    push_cast at small
    linarith

end Binary64

end LendingPool
