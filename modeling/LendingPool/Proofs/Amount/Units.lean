import LendingPool.Amount.Units
/-! When amounts can be converted, and what comes out. -/

namespace LendingPool

theorem Word.ofNat?_eq_some_iff {value : Nat} {word : Word} :
    Word.ofNat? value = some word ↔ word.toNat = value := by
  have bound := word.isLt
  rw [Word.ofNat?, Word.ofNat]
  split
  · rename_i small
    rw [Option.some.injEq, ← BitVec.toNat_inj, BitVec.toNat_ofNat, Nat.mod_eq_of_lt small]
    exact eq_comm
  · rename_i large
    constructor
    · nofun
    · omega

namespace DecimalAmount

theorem toUnits_eq_ok_iff {amount : DecimalAmount} {decimals : UInt8} {units : BaseUnits} :
    amount.toUnits decimals = .ok units ↔
      units.decimals = decimals ∧ units.value.toNat = amount.floorUnits decimals.toNat ∧
        amount.floorUnits decimals.toNat ≠ 0 := by
  rw [toUnits]
  split
  · simp [*]
  · rename_i positive
    cases fits : Word.ofNat? (amount.floorUnits decimals.toNat) with
    | none =>
        have none_eq : ∀ word, Word.ofNat? (amount.floorUnits decimals.toNat) ≠ some word := by
          simp [fits]
        constructor
        · nofun
        · rintro ⟨-, value, -⟩
          exact absurd (Word.ofNat?_eq_some_iff.mpr value) (none_eq units.value)
    | some word =>
        have value := Word.ofNat?_eq_some_iff.mp fits
        rcases units with ⟨other, precision⟩
        simp only [Except.ok.injEq, BaseUnits.mk.injEq]
        constructor
        · rintro ⟨rfl, rfl⟩
          exact ⟨rfl, value, positive⟩
        · rintro ⟨rfl, same, -⟩
          exact ⟨BitVec.eq_of_toNat_eq (value.trans same.symm), rfl⟩

theorem toUnits_value_ne_zero {amount : DecimalAmount} {decimals : UInt8} {units : BaseUnits}
    (converts : amount.toUnits decimals = .ok units) : units.value ≠ 0 := by
  rcases toUnits_eq_ok_iff.mp converts with ⟨-, value, positive⟩
  intro zero
  rw [zero] at value
  exact positive value.symm

end DecimalAmount

end LendingPool
