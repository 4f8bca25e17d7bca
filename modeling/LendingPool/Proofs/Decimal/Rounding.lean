import LendingPool.Proofs.Amount.Spelling
/-! Decimals of 96 bits, and how a number is rounded to one: half up, at the last place that finds
room. The first digit that does not find room decides, whatever digits follow. -/

namespace LendingPool.Decimal96

/-! ## Numbers -/

theorem toRat_ofParts {mantissa scale : Nat} (negative : Bool) (fits : mantissa < 2 ^ 96)
    (places : scale ≤ 28) :
    (ofParts negative mantissa scale).toRat =
      (if negative then -1 else 1) * ((mantissa : ℚ) / 10 ^ scale) := by
  have mantissaFits : (BitVec.ofNat 96 mantissa).toNat = mantissa := by
    rw [BitVec.toNat_ofNat, Nat.mod_eq_of_lt fits]
  have scaleFits : (Fin.ofNat 29 scale).val = scale := Nat.mod_eq_of_lt (by omega)
  rw [ofParts, toRat, mantissaFits, scaleFits]
  by_cases zero : mantissa = 0
  · simp [zero]
  · simp [zero]

theorem toRat_ofInt {value : Int} (fits : value.natAbs < 2 ^ 96) : (ofInt value).toRat = value := by
  rw [ofInt, toRat_ofParts _ fits (by omega), pow_zero, div_one]
  rcases Int.lt_or_le value 0 with below | above
  · have size : ((value.natAbs : Int) : ℚ) = -value := by
      rw [← Int.cast_neg]
      exact congrArg Int.cast (by omega)
    rw [if_pos (decide_eq_true below), ← Int.cast_natCast, size]
    ring
  · have size : ((value.natAbs : Int) : ℚ) = value := congrArg Int.cast (by omega)
    rw [if_neg (by simpa using above), ← Int.cast_natCast, size, one_mul]

/-! ## Rounding -/

theorem value_lt_of_append {before after : List Char} {bound : Nat}
    (fits : Digits.value (before ++ after) < bound) : Digits.value before < bound := by
  rw [Digits.value_append] at fits
  have positive : 0 < 10 ^ after.length := Nat.pow_pos (by omega)
  exact lt_of_le_of_lt ((Nat.le_mul_of_pos_right _ positive).trans (Nat.le_add_right _ _)) fits

def HasRoom (whole fraction : List Char) : Prop :=
  Digits.value (whole ++ fraction) < 2 ^ 96 ∧ fraction.length ≤ 28

/-- A size in units of some place, rounded half up. -/
def unitsAt (places : Nat) (size : ℚ) : Nat :=
  ⌊size * 10 ^ places + 1 / 2⌋₊

/-- A number is rounded at the last place at which it finds room. -/
structure Rounds (decimal : Decimal96) (negative : Bool) (size : ℚ) : Prop where
  value : decimal.toRat =
    (if negative then -1 else 1) * (unitsAt decimal.scale.val size / 10 ^ decimal.scale.val)
  full : decimal.scale.val = 28 ∨ 2 ^ 96 ≤ unitsAt (decimal.scale.val + 1) size

/-- A number is exact, or rounded for lack of room. -/
def Holds (decimal : Decimal96) (negative : Bool) (size : ℚ) : Prop :=
  decimal.toRat = (if negative then -1 else 1) * size ∨ decimal.Rounds negative size

theorem rounds_ofParts {mantissa scale : Nat} {size : ℚ} (negative : Bool)
    (fits : mantissa < 2 ^ 96) (few : scale ≤ 28) (units : unitsAt scale size = mantissa)
    (full : scale = 28 ∨ 2 ^ 96 ≤ unitsAt (scale + 1) size) :
    (ofParts negative mantissa scale).Rounds negative size := by
  have place : (ofParts negative mantissa scale).scale.val = scale := Nat.mod_eq_of_lt (by omega)
  constructor
  · rw [place, units, toRat_ofParts _ fits few]
  · rw [place]
    exact full

/-! ## The digit that decides -/

section Deciding

variable {whole fraction more : List Char} {next : Char}

def part (next : Char) (more : List Char) : ℚ :=
  Digits.value (next :: more) / 10 ^ (more.length + 1)

theorem part_bounds (next : Char) (decimal : Digits.all more = true) :
    ((next.toNat - '0'.toNat : Nat) : ℚ) ≤ part next more * 10 ∧
      part next more * 10 < (next.toNat - '0'.toNat : Nat) + 1 := by
  have less : (Digits.value more : ℚ) < 10 ^ more.length := by
    exact_mod_cast Digits.value_lt decimal
  have parts : part next more * 10 =
      (next.toNat - '0'.toNat : Nat) + Digits.value more / 10 ^ more.length := by
    rw [part, Digits.value_cons, pow_succ]
    push_cast
    field_simp
  have rest : (Digits.value more : ℚ) / 10 ^ more.length < 1 := by
    rwa [div_lt_one (by positivity)]
  have nonneg : (0 : ℚ) ≤ Digits.value more / 10 ^ more.length := by positivity
  rw [parts]
  constructor <;> linarith

theorem decimalValue_mul_pow (whole fraction : List Char) (next : Char) (more : List Char) :
    decimalValue whole (fraction ++ next :: more) * 10 ^ fraction.length =
      Digits.value (whole ++ fraction) + part next more := by
  rw [decimalValue_append, decimalValue_eq_toRat, DecimalAmount.toRat, part, List.length_cons,
    pow_add]
  field_simp

theorem unitsAt_eq_iff {places units : Nat} {size : ℚ} (nonneg : 0 ≤ size) :
    unitsAt places size = units ↔
      units ≤ size * 10 ^ places + 1 / 2 ∧ size * 10 ^ places + 1 / 2 < units + 1 := by
  rw [unitsAt, Nat.floor_eq_iff (by positivity)]

theorem digit_le_nine {digit : Char} (decimal : digit.isDigit = true) :
    digit.toNat - '0'.toNat ≤ 9 := by
  have bound : digit.toNat ≤ 57 := of_decide_eq_true (Bool.and_eq_true_iff.mp decimal).2
  have zero : '0'.toNat = 48 := rfl
  omega

theorem unitsAt_of_digit (digit : next.isDigit = true) (decimal : Digits.all more = true) :
    unitsAt fraction.length (decimalValue whole (fraction ++ next :: more)) =
      Digits.value (whole ++ fraction) + if next.toNat - '0'.toNat < 5 then 0 else 1 := by
  have nine := digit_le_nine digit
  rcases part_bounds next decimal with ⟨low, high⟩
  generalize next.toNat - '0'.toNat = value at nine low high ⊢
  rw [unitsAt_eq_iff (decimalValue_nonneg ..), decimalValue_mul_pow]
  split <;> rename_i small
  · have digit : (value : ℚ) + 1 ≤ 5 := by exact_mod_cast small
    have nonneg : (0 : ℚ) ≤ value := by positivity
    push_cast
    constructor <;> linarith
  · have most : (value : ℚ) ≤ 9 := by exact_mod_cast nine
    have least : (5 : ℚ) ≤ value := by exact_mod_cast not_lt.mp small
    push_cast
    constructor <;> linarith

theorem value_le_unitsAt (decimal : Digits.all more = true) :
    Digits.value (whole ++ fraction ++ [next]) ≤
      unitsAt (fraction.length + 1) (decimalValue whole (fraction ++ next :: more)) := by
  have low := (part_bounds next decimal).1
  rw [unitsAt]
  refine Nat.le_floor ?_
  rw [pow_succ, ← mul_assoc, decimalValue_mul_pow, Digits.value_append]
  have single : Digits.value [next] = next.toNat - '0'.toNat := by simp [Digits.value]
  rw [single, List.length_singleton, pow_one]
  push_cast at *
  linarith

theorem unitsAt_of_carry (digit : next.isDigit = true) (decimal : Digits.all more = true)
    (full : Digits.value (whole ++ fraction) = 2 ^ 96 - 1) {places : Nat}
    (length : fraction.length = places + 1) :
    unitsAt places (decimalValue whole (fraction ++ next :: more)) =
      (Digits.value (whole ++ fraction) + 5) / 10 := by
  have nine : ((next.toNat - '0'.toNat : Nat) : ℚ) ≤ 9 := by
    exact_mod_cast digit_le_nine digit
  rcases part_bounds next decimal with ⟨low, high⟩
  have nonneg : (0 : ℚ) ≤ (next.toNat - '0'.toNat : Nat) := by positivity
  have scaled := decimalValue_mul_pow whole fraction next more
  rw [length, pow_succ, ← mul_assoc, full] at scaled
  rw [unitsAt_eq_iff (decimalValue_nonneg ..), full]
  norm_num at scaled ⊢
  constructor <;> linarith

namespace Reading

def holding (whole fraction : List Char) (pointSeen : Bool) : Reading :=
  ⟨Digits.value (whole ++ fraction), fraction.length, pointSeen, !(whole ++ fraction).isEmpty⟩

theorem roundAt_of_digit (reading : Reading) (digit : next.isDigit = true) :
    reading.roundAt next =
      if next.toNat - '0'.toNat < 5 then some (reading.mantissa, reading.scale)
      else if reading.mantissa + 1 < 2 ^ 96 then some (reading.mantissa + 1, reading.scale)
      else if reading.scale ≠ 0 then some ((reading.mantissa + 5) / 10, reading.scale - 1)
      else none := by
  rw [roundAt, if_pos digit]
  change (if _ then _ else if _ then _ else _) = _
  congr 1
  split
  · rfl
  · by_cases unscaled : reading.scale = 0
    · simp [unscaled]
    · simp [unscaled]

theorem roundAt_of_mark (reading : Reading) (mark : next = '_' ∨ next = '.') :
    reading.roundAt next = some (reading.mantissa, reading.scale) := by
  rcases mark with rfl | rfl <;> rfl

theorem isDigit_or_mark_of_roundAt {reading : Reading} {result : Nat × Nat}
    (rounds : reading.roundAt next = some result) :
    next.isDigit = true ∨ next = '_' ∨ next = '.' := by
  rw [roundAt] at rounds
  by_cases digit : next.isDigit = true
  · exact .inl digit
  · rw [if_neg digit] at rounds
    by_cases mark : (next == '_' || next == '.') = true
    · simpa [digit] using mark
    · rw [if_neg mark] at rounds
      cases rounds

theorem rounds_of_roundAt {mantissa scale : Nat} (negative : Bool) (digit : next.isDigit = true)
    (decimal : Digits.all more = true) (room : HasRoom whole fraction)
    (decides : fraction.length = 28 ∨ 2 ^ 96 ≤ Digits.value (whole ++ fraction ++ [next]))
    (rounds : (holding whole fraction true).roundAt next = some (mantissa, scale)) :
    (ofParts negative mantissa scale).Rounds negative
      (decimalValue whole (fraction ++ next :: more)) := by
  have fullHere : fraction.length = 28 ∨
      2 ^ 96 ≤ unitsAt (fraction.length + 1) (decimalValue whole (fraction ++ next :: more)) :=
    decides.imp_right fun longer => longer.trans (value_le_unitsAt decimal)
  have units : unitsAt fraction.length (decimalValue whole (fraction ++ next :: more)) = _ :=
    unitsAt_of_digit digit decimal
  rcases room with ⟨fits, few⟩
  rw [roundAt_of_digit _ digit, holding] at rounds
  dsimp only at rounds
  split at rounds <;> rename_i small
  · rw [if_pos small] at units
    cases rounds
    exact rounds_ofParts negative fits few units fullHere
  · rw [if_neg small] at units
    split at rounds <;> rename_i next
    · cases rounds
      exact rounds_ofParts negative next few units fullHere
    · split at rounds
      · rename_i scaled
        cases rounds
        have full : Digits.value (whole ++ fraction) = 2 ^ 96 - 1 := by omega
        refine rounds_ofParts negative (by omega) (by omega)
          (unitsAt_of_carry digit decimal full (by omega)) (.inr ?_)
        rw [Nat.sub_add_cancel (Nat.pos_of_ne_zero scaled), units]
        omega
      · cases rounds

end Reading

end Deciding

end LendingPool.Decimal96
