import LendingPool.Amount.Surplus
import LendingPool.Proofs.Abi.Words
import Mathlib.Algebra.Order.Floor.Semifield
import Mathlib.Data.Rat.Floor
/-! The premium on a loan. It is computed in one word that stops at the largest, so the product of
loan and rate stops there before it is divided. From then on the premium is the largest word over
10000, however large it should be. -/

namespace LendingPool.Word

/-! ## Saturation -/

theorem toNat_max : max.toNat = 2 ^ 256 - 1 := by
  rw [max, BitVec.toNat_allOnes]

theorem toNat_saturatingAdd (left right : Word) :
    (saturatingAdd left right).toNat = min (2 ^ 256 - 1) (left.toNat + right.toNat) := by
  rw [saturatingAdd]
  split
  · rw [BitVec.toNat_add]
    omega
  · rw [toNat_max]
    omega

theorem toNat_saturatingMul (left right : Word) :
    (saturatingMul left right).toNat = min (2 ^ 256 - 1) (left.toNat * right.toNat) := by
  rw [saturatingMul]
  split
  · rename_i fits
    rw [BitVec.toNat_mul, Nat.mod_eq_of_lt fits]
    omega
  · rename_i large
    rw [toNat_max]
    omega

/-! ## Premiums -/

/-- The premium on a loan in hundredths of a percent, rounded up, over exact numbers. -/
def premium (loan : Word) (basisPoints : UInt32) : Nat :=
  ⌈(loan.toNat * basisPoints.toNat : ℚ) / 10000⌉₊

/-- The largest word over 10000. No premium that is computed is larger. -/
def premiumCap : Nat :=
  (2 ^ 256 - 1) / 10000

/-- Whether the cap is felt: the premium should be larger, and with the cap the loan and its premium
do not fill a word. -/
def CapsPremium (loan : Word) (basisPoints : UInt32) : Prop :=
  premiumCap < loan.premium basisPoints ∧ loan.toNat + premiumCap < 2 ^ 256 - 1

instance (loan : Word) (basisPoints : UInt32) : Decidable (loan.CapsPremium basisPoints) :=
  inferInstanceAs (Decidable (_ ∧ _))

theorem premium_eq (loan : Word) (basisPoints : UInt32) :
    loan.premium basisPoints = (loan.toNat * basisPoints.toNat + 9999) / 10000 := by
  apply eq_of_forall_ge_iff
  intro bound
  have scaled : (loan.toNat * basisPoints.toNat : ℚ) / 10000 ≤ bound ↔
      loan.toNat * basisPoints.toNat ≤ bound * 10000 := by
    rw [div_le_iff₀ (by norm_num)]
    exact_mod_cast Iff.rfl
  rw [premium, Nat.ceil_le, scaled]
  generalize loan.toNat * basisPoints.toNat = product
  omega

/-- Whether it is the product that stops or the sum, what is divided is the largest word. -/
theorem min_add_div (largest product : Nat) :
    min largest (min largest product + 9999) / 10000 =
      min ((product + 9999) / 10000) (largest / 10000) := by
  omega

theorem toNat_withPremium (loan : Word) (basisPoints : UInt32) :
    (loan.withPremium basisPoints).toNat =
      min (2 ^ 256 - 1) (loan.toNat + min (loan.premium basisPoints) premiumCap) := by
  have rate : (ofNat basisPoints.toNat).toNat = basisPoints.toNat :=
    toNat_ofNat_of_lt (Nat.lt_trans basisPoints.toNat_lt (by decide))
  have unit : (10000 : Word).toNat = 10000 := rfl
  have rest : (9999 : Word).toNat = 9999 := rfl
  -- the sum before the division may stop as well, and is the largest word then too
  rw [withPremium, toNat_saturatingAdd, BitVec.toNat_udiv, toNat_saturatingAdd,
    toNat_saturatingMul, rate, unit, rest, min_add_div, ← premium_eq, premiumCap]

theorem toNat_withPremium_eq_iff (loan : Word) (basisPoints : UInt32) :
    (loan.withPremium basisPoints).toNat =
        min (2 ^ 256 - 1) (loan.toNat + loan.premium basisPoints) ↔
      ¬ loan.CapsPremium basisPoints := by
  rw [toNat_withPremium, CapsPremium]
  generalize loan.premium basisPoints = premium
  generalize premiumCap = cap
  generalize 2 ^ 256 - 1 = largest
  omega

theorem le_toNat_withPremium_iff {loan : Word} {basisPoints : UInt32}
    (fits : loan.toNat + loan.premium basisPoints < 2 ^ 256) :
    loan.toNat + loan.premium basisPoints ≤ (loan.withPremium basisPoints).toNat ↔
      ¬ loan.CapsPremium basisPoints := by
  have within : loan.toNat + loan.premium basisPoints ≤ 2 ^ 256 - 1 := Nat.le_sub_one_of_lt fits
  rw [toNat_withPremium, CapsPremium]
  clear fits
  revert within
  generalize loan.premium basisPoints = premium
  generalize premiumCap = cap
  generalize 2 ^ 256 - 1 = largest
  omega

theorem not_capsPremium {loan : Word} {basisPoints : UInt32} (rate : basisPoints.toNat ≤ 10000)
    (moderate : loan.toNat ≤ premiumCap) : ¬ loan.CapsPremium basisPoints := by
  rintro ⟨capped, -⟩
  have product := Nat.mul_le_mul moderate rate
  rw [premium_eq] at capped
  omega

end LendingPool.Word
