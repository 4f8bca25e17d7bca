import LendingPool.Proofs.Amount.Conversion
/-! The surplus on a loan. It is taken of the exact number, so the only rounding is the one of the
conversion, and what is refused for its size is known from the digits. -/

namespace LendingPool

/-! ## Conversions compared -/

/-- Whether one conversion gives no more than another. One that is too large exceeds all others,
and one that leaves nothing is below them. -/
def BaseUnits.AtMost (lower upper : Except InputFault BaseUnits) : Prop :=
  match lower with
  | .ok units =>
      (∃ larger, upper = .ok larger ∧ units.value ≤ larger.value) ∨
        ∃ shown, upper = .error (.amountOverflow shown)
  | .error (.amountOverflow _) => ∃ shown, upper = .error (.amountOverflow shown)
  | .error _ => True

theorem BaseUnits.floored_atMost {lower upper : ℚ} (below : lower ≤ upper) (decimals : UInt8)
    (lowerShown upperShown : String) :
    AtMost (floored lower decimals lowerShown) (floored upper decimals upperShown) := by
  have floors : ⌊lower⌋₊ ≤ ⌊upper⌋₊ := Nat.floor_le_floor below
  rw [floored, floored]
  generalize ⌊lower⌋₊ = less at floors
  generalize ⌊upper⌋₊ = more at floors
  by_cases zero : less = 0
  · rw [if_pos zero]
    exact trivial
  · have positive : more ≠ 0 := by omega
    rw [if_neg zero, if_neg positive]
    by_cases fits : more < 2 ^ 256
    · have small : less < 2 ^ 256 := by omega
      rw [if_pos small, if_pos fits]
      refine .inl ⟨_, rfl, BitVec.le_def.mpr ?_⟩
      rw [Word.toNat_ofNat_of_lt small, Word.toNat_ofNat_of_lt fits]
      exact floors
    · rw [if_neg fits]
      split
      · exact .inr ⟨_, rfl⟩
      · exact ⟨_, rfl⟩

namespace DecimalAmount

variable {amount enlarged : DecimalAmount} {percent : Decimal96}

def surplusDigits (amount : DecimalAmount) (percent : Decimal96) : Nat :=
  amount.digits * (100 * 10 ^ percent.scale.val + percent.mantissa.toNat)

theorem withSurplus_of_negative (negative : percent.negative = true) :
    amount.withSurplus percent = .error (.invalidValue "surplus_percent" (.negative percent)) :=
  if_pos negative

theorem withSurplus_of_nonneg (nonneg : percent.negative = false) :
    amount.withSurplus percent =
      if amount.surplusDigits percent < 2 ^ 512 then
        .ok (ofParts (amount.surplusDigits percent) (amount.scale + percent.scale.val + 2))
      else .error (.amountOverflow amount.toText) := by
  rw [withSurplus, nonneg, if_neg Bool.false_ne_true]
  rfl

/-- Amounts below `10 ^ 46` have room for any percentage. -/
theorem surplusDigits_lt (typed : amount.IsTyped) (moderate : amount.toRat < 10 ^ 46)
    (percent : Decimal96) : amount.surplusDigits percent < 2 ^ 512 := by
  have digits : amount.digits < 10 ^ 46 * 10 ^ amount.scale := by
    have power : (0 : ℚ) < 10 ^ amount.scale := by positivity
    rw [toRat, div_lt_iff₀ power] at moderate
    exact_mod_cast moderate
  have scale := percent.scale.isLt
  have mantissa := percent.mantissa.isLt
  have places : 10 ^ amount.scale ≤ 10 ^ 77 := Nat.pow_le_pow_right (by decide) typed.places
  have power : 10 ^ percent.scale.val ≤ 10 ^ 28 := Nat.pow_le_pow_right (by decide) (by omega)
  -- a mantissa of 96 bits is less than `10 ^ 29`
  have factor : 100 * 10 ^ percent.scale.val + percent.mantissa.toNat ≤ 2 * 10 ^ 30 := by omega
  have room : 10 ^ 46 * 10 ^ 77 * (2 * 10 ^ 30) < 2 ^ 512 := by decide +kernel
  calc amount.surplusDigits percent
      ≤ 10 ^ 46 * 10 ^ 77 * (2 * 10 ^ 30) := Nat.mul_le_mul (by omega) factor
    _ < 2 ^ 512 := room

theorem of_withSurplus (enlarges : amount.withSurplus percent = .ok enlarged) :
    percent.negative = false ∧ amount.surplusDigits percent < 2 ^ 512 ∧
      enlarged =
        ofParts (amount.surplusDigits percent) (amount.scale + percent.scale.val + 2) := by
  cases nonneg : percent.negative with
  | true =>
      rw [withSurplus_of_negative nonneg] at enlarges
      cases enlarges
  | false =>
      rw [withSurplus_of_nonneg nonneg] at enlarges
      split at enlarges
      · rename_i room
        cases enlarges
        exact ⟨rfl, room, rfl⟩
      · cases enlarges

theorem withSurplus_zero (typed : amount.IsTyped) (nothing : percent.mantissa = 0)
    (enlarges : amount.withSurplus percent = .ok enlarged) : enlarged = amount := by
  have zero : percent.mantissa.toNat = 0 := congrArg BitVec.toNat nothing
  have digits : amount.surplusDigits percent = amount.digits * 10 ^ (percent.scale.val + 2) := by
    rw [surplusDigits, zero, Nat.add_zero, Nat.pow_add, Nat.mul_comm 100]
  rw [(of_withSurplus enlarges).2.2, digits, Nat.add_assoc, ofParts_mul_tenPower typed.positive,
    typed.normal]

theorem toUnits_withSurplus_eq_wide (typed : amount.IsTyped)
    (enlarges : amount.withSurplus percent = .ok enlarged) (decimals : UInt8) :
    enlarged.toUnits decimals = enlarged.toUnitsWide decimals := by
  rcases of_withSurplus enlarges with ⟨-, room, rfl⟩
  have positive : amount.surplusDigits percent ≠ 0 := by
    have power : 0 < 10 ^ percent.scale.val := Nat.pow_pos (by decide)
    exact Nat.mul_ne_zero typed.positive (by omega)
  exact toUnits_eq_toUnitsWide (ofParts_digits_ne_zero positive _)
    (Nat.lt_of_le_of_lt (ofParts_digits_le ..) room) decimals

theorem percent_nonneg (enlarges : amount.withSurplus percent = .ok enlarged) :
    0 ≤ percent.toRat := by
  rw [Decimal96.toRat, (of_withSurplus enlarges).1, if_neg Bool.false_ne_true, one_mul]
  positivity

theorem toRat_le_withSurplus (enlarges : amount.withSurplus percent = .ok enlarged) :
    amount.toRat ≤ enlarged.toRat := by
  have nonneg := percent_nonneg enlarges
  have factor : 1 ≤ 1 + percent.toRat / 100 := by linarith
  rw [toRat_withSurplus enlarges]
  exact le_mul_of_one_le_right amount.toRat_nonneg factor

theorem toRat_withSurplus_le {other otherEnlarged : DecimalAmount} {otherPercent : Decimal96}
    (enlarges : amount.withSurplus percent = .ok enlarged)
    (others : other.withSurplus otherPercent = .ok otherEnlarged)
    (amounts : amount.toRat ≤ other.toRat) (percents : percent.toRat ≤ otherPercent.toRat) :
    enlarged.toRat ≤ otherEnlarged.toRat := by
  have nonneg := percent_nonneg enlarges
  have factors : 1 + percent.toRat / 100 ≤ 1 + otherPercent.toRat / 100 := by linarith
  rw [toRat_withSurplus enlarges, toRat_withSurplus others]
  exact mul_le_mul amounts factors (by linarith) other.toRat_nonneg

theorem toUnits_atMost {less more : DecimalAmount} (below : less.toRat ≤ more.toRat)
    (decimals : UInt8) : BaseUnits.AtMost (less.toUnits decimals) (more.toUnits decimals) := by
  rw [toUnits_eq_floored, toUnits_eq_floored]
  exact BaseUnits.floored_atMost (mul_le_mul_of_nonneg_right below (by positivity)) ..

/-- The surplus on an amount that was typed is exact, and rounded only when it is converted. A
negative percentage is refused, and digits of more than 512 bits are, which an amount below
`10 ^ 46` never needs. What is enlarged is converted to no less than the amount itself, and to no
less than a smaller amount or a smaller percentage. No surplus changes nothing. All this can be
done in 512 bits. -/
theorem withSurplus_exact {raw : String} {amount : DecimalAmount} (parses : parse raw = .ok amount)
    (percent : Decimal96) :
    (percent.negative = true →
      amount.withSurplus percent =
        .error (.invalidValue "surplus_percent" (.negative percent))) ∧
    (percent.negative = false →
      (amount.withSurplus percent = .error (.amountOverflow amount.toText) ↔
        2 ^ 512 ≤ amount.digits * (100 * 10 ^ percent.scale.val + percent.mantissa.toNat)) ∧
      (amount.toRat < 10 ^ 46 → ∃ enlarged, amount.withSurplus percent = .ok enlarged) ∧
      (amount.digits * (100 * 10 ^ percent.scale.val + percent.mantissa.toNat) < 2 ^ 512 →
        ∃ enlarged, amount.withSurplus percent = .ok enlarged ∧
          enlarged.toRat = amount.toRat * (1 + percent.toRat / 100))) ∧
    (∀ enlarged, amount.withSurplus percent = .ok enlarged →
      (∀ decimals,
        enlarged.toUnits decimals =
          BaseUnits.floored
            (amount.toRat * (1 + percent.toRat / 100) * 10 ^ decimals.toNat)
            decimals enlarged.toText ∧
        BaseUnits.AtMost (amount.toUnits decimals) (enlarged.toUnits decimals) ∧
        enlarged.toUnits decimals = enlarged.toUnitsWide decimals) ∧
      (percent.mantissa = 0 → enlarged = amount) ∧
      (∀ (other otherEnlarged : DecimalAmount) (otherPercent : Decimal96),
        other.withSurplus otherPercent = .ok otherEnlarged →
        amount.toRat ≤ other.toRat → percent.toRat ≤ otherPercent.toRat →
        enlarged.toRat ≤ otherEnlarged.toRat ∧
          ∀ decimals,
            BaseUnits.AtMost (enlarged.toUnits decimals) (otherEnlarged.toUnits decimals))) ∧
    amount.withSurplus percent = amount.withSurplusWide percent := by
  have typed := isTyped_of_parse parses
  refine ⟨withSurplus_of_negative, fun nonneg => ⟨?_, fun moderate => ?_, fun room => ?_⟩,
    fun enlarged enlarges => ⟨fun decimals => ⟨?_, ?_, ?_⟩, ?_, ?_⟩,
    withSurplus_eq_withSurplusWide amount percent⟩
  · rw [withSurplus_of_nonneg nonneg, ← surplusDigits]
    split
    · rename_i room
      exact ⟨nofun, fun large => absurd large (Nat.not_le.mpr room)⟩
    · rename_i large
      exact ⟨fun _ => Nat.not_lt.mp large, fun _ => rfl⟩
  · rw [withSurplus_of_nonneg nonneg, if_pos (surplusDigits_lt typed moderate percent)]
    exact ⟨_, rfl⟩
  · rw [← surplusDigits] at room
    have enlarges : amount.withSurplus percent = _ := withSurplus_of_nonneg nonneg
    rw [if_pos room] at enlarges
    exact ⟨_, enlarges, toRat_withSurplus enlarges⟩
  · rw [toUnits_eq_floored, toRat_withSurplus enlarges]
  · exact toUnits_atMost (toRat_le_withSurplus enlarges) decimals
  · exact toUnits_withSurplus_eq_wide typed enlarges decimals
  · exact fun nothing => withSurplus_zero typed nothing enlarges
  · intro other otherEnlarged otherPercent others amounts percents
    have below := toRat_withSurplus_le enlarges others amounts percents
    exact ⟨below, fun decimals => toUnits_atMost below decimals⟩

/-- Five percent on `10.5`, and a percentage that is refused. -/
theorem withSurplus_exact_five_percent :
    (∃ enlarged, withSurplus ⟨105, 1⟩ ⟨false, 5, 0⟩ = .ok enlarged ∧
      enlarged.toUnits 2 = .ok ⟨1102, 2⟩) ∧
    withSurplus ⟨105, 1⟩ ⟨true, 5, 0⟩ =
      .error (.invalidValue "surplus_percent" (.negative ⟨true, 5, 0⟩)) := by
  have parses : parse "10.50" = .ok ⟨105, 1⟩ := by decide
  have moderate : toRat ⟨105, 1⟩ < 10 ^ 46 := by norm_num [toRat]
  rcases ((withSurplus_exact parses ⟨false, 5, 0⟩).2.1 rfl).2.1 moderate with ⟨enlarged, enlarges⟩
  have units := ((withSurplus_exact parses ⟨false, 5, 0⟩).2.2.1 enlarged enlarges).1 2
  have exact : ⌊toRat ⟨105, 1⟩ * (1 + Decimal96.toRat ⟨false, 5, 0⟩ / 100) * 10 ^ 2⌋₊ = 1102 := by
    have five : BitVec.toNat (5 : BitVec 96) = 5 := rfl
    rw [Nat.floor_eq_iff (by norm_num [toRat, Decimal96.toRat, five])]
    norm_num [toRat, Decimal96.toRat, five]
  refine ⟨⟨enlarged, enlarges, ?_⟩, (withSurplus_exact parses ⟨true, 5, 0⟩).1 rfl⟩
  rw [units.1, BaseUnits.floored, show (2 : UInt8).toNat = 2 from rfl, exact]
  rfl

end DecimalAmount

end LendingPool
