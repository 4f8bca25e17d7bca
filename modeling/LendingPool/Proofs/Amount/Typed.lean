import LendingPool.Amount.Surplus
import LendingPool.Proofs.Decimal.Digits
import Mathlib.Algebra.Order.Floor.Semifield
import Mathlib.Data.Rat.Floor
import Mathlib.Tactic.FieldSimp
import Mathlib.Tactic.Ring
/-! The exact numbers behind amounts: what a text spells, what the surplus makes of it, and what
comes out in base units. Nothing is rounded before the last step. -/

namespace LendingPool

/-! ## Amounts -/

theorem Digits.value_dropTrailingZeros (digits : List Char) :
    (value (dropTrailingZeros digits) : ℚ) / 10 ^ (dropTrailingZeros digits).length =
      value digits / 10 ^ digits.length := by
  rcases exists_eq_append_zeros digits with ⟨count, equal⟩
  have digitsValue : value digits = value (dropTrailingZeros digits) * 10 ^ count := by
    conv_lhs => rw [equal]
    rw [value_append, value_replicate_zero, List.length_replicate, Nat.add_zero]
  have digitsLength : digits.length = (dropTrailingZeros digits).length + count := by
    conv_lhs => rw [equal]
    rw [List.length_append, List.length_replicate]
  rw [digitsValue, digitsLength, pow_add]
  push_cast
  field_simp

/-- The number that a text spells. Of the fraction, 77 digits count. -/
def typedValue (raw : String) : ℚ :=
  let (whole, fraction) := Digits.splitAt '.' raw.toList
  let fraction := (fraction.getD []).take 77
  Digits.value whole + Digits.value fraction / 10 ^ fraction.length

def DecimalAmount.toRat (amount : DecimalAmount) : ℚ :=
  amount.digits / 10 ^ amount.scale

def Decimal96.toRat (decimal : Decimal96) : ℚ :=
  (if decimal.negative then -1 else 1) * (decimal.mantissa.toNat / 10 ^ decimal.scale.val)

namespace DecimalAmount

theorem toRat_nonneg (amount : DecimalAmount) : 0 ≤ amount.toRat := by
  rw [toRat]
  positivity

theorem toRat_ofParts (digits scale : Nat) :
    (ofParts digits scale).toRat = digits / 10 ^ scale := by
  induction scale generalizing digits with
  | zero => rfl
  | succ scale induction =>
      rw [ofParts]
      split
      · rename_i divisible
        rw [induction]
        have exact : digits = digits / 10 * 10 := by omega
        have cast : (digits : ℚ) = (digits / 10 : Nat) * 10 := by exact_mod_cast exact
        rw [cast, pow_succ]
        field_simp
      · rfl

theorem toRat_parse {raw : String} {amount : DecimalAmount} (parsed : parse raw = .ok amount) :
    amount.toRat = typedValue raw := by
  rw [parse] at parsed
  rw [typedValue]
  generalize Digits.splitAt '.' raw.toList = parts at parsed ⊢
  dsimp only at parsed ⊢
  generalize kept : Digits.dropTrailingZeros ((parts.2.getD []).take fractionDigits) = rest
    at parsed
  have made : amount = ofParts (Digits.value (parts.1 ++ rest)) rest.length := by
    repeat' split at parsed
    all_goals cases parsed
    rfl
  rw [made, toRat_ofParts, Digits.value_append, ← Digits.value_dropTrailingZeros]
  rw [fractionDigits] at kept
  rw [kept]
  push_cast
  field_simp

theorem floorUnits_eq (amount : DecimalAmount) (decimals : Nat) :
    amount.floorUnits decimals = ⌊amount.toRat * 10 ^ decimals⌋₊ := by
  rw [floorUnits, toRat]
  split
  · rename_i small
    rcases Nat.exists_eq_add_of_le small with ⟨rest, rfl⟩
    have exact : (amount.digits : ℚ) / 10 ^ amount.scale * 10 ^ (amount.scale + rest) =
        (amount.digits * 10 ^ rest : Nat) := by
      rw [pow_add]
      push_cast
      field_simp
    rw [exact, Nat.floor_natCast, Nat.add_sub_cancel_left]
  · rename_i large
    rcases Nat.exists_eq_add_of_le (Nat.le_of_not_le large) with ⟨rest, equal⟩
    have exact : (amount.digits : ℚ) / 10 ^ amount.scale * 10 ^ decimals =
        (amount.digits : ℚ) / (10 ^ rest : Nat) := by
      rw [equal, pow_add]
      push_cast
      field_simp
    rw [exact, Nat.floor_div_eq_div, equal, Nat.add_sub_cancel_left]

theorem toRat_withSurplus {amount enlarged : DecimalAmount} {percent : Decimal96}
    (enlarges : amount.withSurplus percent = .ok enlarged) :
    enlarged.toRat = amount.toRat * (1 + percent.toRat / 100) := by
  rw [withSurplus] at enlarges
  split at enlarges
  · cases enlarges
  · rename_i positive
    dsimp only at enlarges
    split at enlarges
    · cases enlarges
      rw [toRat_ofParts, toRat, Decimal96.toRat, if_neg positive]
      push_cast
      field_simp
      ring
    · cases enlarges

end DecimalAmount

end LendingPool
