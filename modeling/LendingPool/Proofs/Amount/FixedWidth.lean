import LendingPool.Proofs.Amount.Spelling
/-! Amounts with digits of 512 bits. Each step of reading, converting and enlarging is checked for
room on its own, and powers of ten end at 154. No check changes an answer: what has no room
is refused for its size anyway, or comes to nothing. -/

namespace LendingPool

/-! ## Room -/

def wide? (value : Nat) : Option Nat :=
  if value < 2 ^ 512 then some value else none

def tenPower? (exponent : Nat) : Option Nat :=
  if exponent ≤ 154 then wide? (10 ^ exponent) else none

theorem wide?_of_lt {value : Nat} (room : value < 2 ^ 512) : wide? value = some value :=
  if_pos room

theorem tenPower?_of_le {exponent : Nat} (small : exponent ≤ 154) :
    tenPower? exponent = some (10 ^ exponent) := by
  have room : 10 ^ exponent < 2 ^ 512 :=
    Nat.lt_of_le_of_lt (Nat.pow_le_pow_right (by decide) small) (by decide +kernel)
  rw [tenPower?, if_pos small, wide?_of_lt room]

namespace DecimalAmount

/-! ## Reading -/

/-- Reading without leading zeros, into digits of 512 bits. -/
def parseWide (raw : String) : Except InputFault DecimalAmount := do
  let (whole, fraction) := Digits.splitAt '.' raw.toList
  let fraction := fraction.getD []
  if whole.isEmpty && fraction.isEmpty then throw (.nonPositiveAmount raw)
  unless Digits.all whole && Digits.all fraction do throw (.nonPositiveAmount raw)
  let whole := whole.dropWhile (· == '0')
  unless whole.isEmpty || Digits.value whole < 2 ^ 256 do throw (.amountOverflow raw)
  let kept := Digits.dropTrailingZeros (fraction.take fractionDigits)
  let significant := (whole ++ kept).dropWhile (· == '0')
  if significant.isEmpty then throw (.nonPositiveAmount raw)
  match wide? (Digits.value significant) with
  | some digits => return ofParts digits kept.length
  | none => throw (.amountOverflow raw)

theorem value_append_room {whole kept : List Char} (small : Digits.value whole < 2 ^ 256)
    (decimal : Digits.all kept = true) (short : kept.length ≤ 77) :
    Digits.value (whole ++ kept) < 2 ^ 512 := by
  have low := Digits.value_lt decimal
  have power : 10 ^ kept.length ≤ 10 ^ 77 := Nat.pow_le_pow_right (by decide) short
  have room : 2 ^ 256 * 10 ^ 77 ≤ 2 ^ 512 := by decide +kernel
  calc Digits.value (whole ++ kept)
      = Digits.value whole * 10 ^ kept.length + Digits.value kept := Digits.value_append whole kept
    _ < (Digits.value whole + 1) * 10 ^ kept.length := by
        rw [Nat.add_mul, Nat.one_mul]
        omega
    _ ≤ 2 ^ 256 * 10 ^ 77 := Nat.mul_le_mul small power
    _ ≤ 2 ^ 512 := room

theorem parse_eq_parseWide (raw : String) : parse raw = parseWide raw := by
  rw [parse, parseWide]
  generalize Digits.splitAt '.' raw.toList = parts
  rcases parts with ⟨whole, fraction⟩
  dsimp only
  generalize fraction.getD [] = fraction
  split
  · rfl
  · split
    · rename_i digits
      rw [Bool.and_eq_true] at digits
      -- an integer part of zeros is not measured, but zero would pass
      have guarded : ((whole.dropWhile (· == '0')).isEmpty ||
          decide (Digits.value (whole.dropWhile (· == '0')) < 2 ^ 256)) =
          decide (Digits.value whole < 2 ^ 256) := by
        rw [Digits.value_dropLeadingZeros, Bool.or_eq_right_iff_imp]
        intro zero
        rw [(Digits.dropLeadingZeros_isEmpty_iff digits.1).mp zero]
        rfl
      rcases Digits.dropTrailingZeros_take digits.2 fractionDigits with ⟨decimal, short⟩
      generalize Digits.dropTrailingZeros (fraction.take fractionDigits) = kept at decimal short ⊢
      rw [guarded, Digits.dropLeadingZeros_append, Digits.value_dropLeadingZeros]
      by_cases small : Digits.value whole < 2 ^ 256
      · rw [wide?_of_lt (value_append_room small decimal short)]
        simp only [Digits.dropLeadingZeros_isEmpty_iff (Digits.all_append.mpr ⟨digits.1, decimal⟩),
          decide_eq_true small, if_pos small, if_true]
      · simp only [decide_eq_false small, if_neg small]
        rfl
    · rfl

/-! ## Conversion -/

/-- The integer part of `amount * 10 ^ decimals` in 512 bits, if there is room for it. A power of
ten without room divides any amount down to nothing. -/
def floorUnitsWide? (amount : DecimalAmount) (decimals : Nat) : Option Nat :=
  if amount.scale ≤ decimals then
    (tenPower? (decimals - amount.scale)).bind fun factor => wide? (amount.digits * factor)
  else
    match tenPower? (amount.scale - decimals) with
    | some divisor => some (amount.digits / divisor)
    | none => some 0

def toUnitsWide (amount : DecimalAmount) (decimals : UInt8) : Except InputFault BaseUnits :=
  match amount.floorUnitsWide? decimals.toNat with
  | none => .error (.amountOverflow amount.toText)
  | some units =>
      if units = 0 then .error (.nonPositiveAmount amount.toText)
      else if units < 2 ^ 256 then .ok ⟨Word.ofNat units, decimals⟩
      else .error (.amountOverflow amount.toText)

theorem floorUnitsWide?_eq {amount : DecimalAmount} (positive : amount.digits ≠ 0)
    (room : amount.digits < 2 ^ 512) (decimals : Nat) :
    amount.floorUnitsWide? decimals = wide? (amount.floorUnits decimals) := by
  have above : 2 ^ 512 < 10 ^ 155 := by decide +kernel
  rw [floorUnitsWide?, floorUnits]
  by_cases fine : amount.scale ≤ decimals
  · rw [if_pos fine, if_pos fine]
    by_cases small : decimals - amount.scale ≤ 154
    · rw [tenPower?_of_le small, Option.bind_some]
    · have factor : 10 ^ 155 ≤ 10 ^ (decimals - amount.scale) :=
        Nat.pow_le_pow_right (by decide) (by omega)
      -- without room for the factor there is none for the product, because digits are not zero
      have product := Nat.mul_le_mul (Nat.pos_of_ne_zero positive) factor
      rw [tenPower?, if_neg small, Option.bind_none, wide?, if_neg (by omega)]
  · rw [if_neg fine, if_neg fine]
    by_cases small : amount.scale - decimals ≤ 154
    · have quotient := Nat.div_le_self amount.digits (10 ^ (amount.scale - decimals))
      rw [tenPower?_of_le small, wide?_of_lt (by omega)]
    · have divisor : 10 ^ 155 ≤ 10 ^ (amount.scale - decimals) :=
        Nat.pow_le_pow_right (by decide) (by omega)
      rw [tenPower?, if_neg small, Nat.div_eq_of_lt (by omega), wide?_of_lt (Nat.two_pow_pos 512)]

theorem toUnits_eq_toUnitsWide {amount : DecimalAmount} (positive : amount.digits ≠ 0)
    (room : amount.digits < 2 ^ 512) (decimals : UInt8) :
    amount.toUnits decimals = amount.toUnitsWide decimals := by
  rw [toUnits, toUnitsWide, floorUnitsWide?_eq positive room, wide?, Word.ofNat?]
  by_cases small : amount.floorUnits decimals.toNat < 2 ^ 256
  · have fits : amount.floorUnits decimals.toNat < 2 ^ 512 := by omega
    simp only [if_pos small, if_pos fits]
  · have positive : amount.floorUnits decimals.toNat ≠ 0 := by omega
    by_cases fits : amount.floorUnits decimals.toNat < 2 ^ 512
    · simp only [if_neg small, if_neg positive, if_pos fits]
    · simp only [if_neg small, if_neg positive, if_neg fits]

/-! ## Surplus -/

def withSurplusWide (amount : DecimalAmount) (percent : Decimal96) :
    Except InputFault DecimalAmount :=
  if percent.negative then .error (.invalidValue "surplus_percent" (.negative percent))
  else
    let digits? := do
      let power ← tenPower? percent.scale.val
      let hundred ← wide? (100 * power)
      let factor ← wide? (hundred + percent.mantissa.toNat)
      wide? (amount.digits * factor)
    match digits? with
    | some digits => .ok (ofParts digits (amount.scale + percent.scale.val + 2))
    | none => .error (.amountOverflow amount.toText)

theorem withSurplus_eq_withSurplusWide (amount : DecimalAmount) (percent : Decimal96) :
    amount.withSurplus percent = amount.withSurplusWide percent := by
  have scale := percent.scale.isLt
  have mantissa := percent.mantissa.isLt
  have power : 10 ^ percent.scale.val ≤ 10 ^ 28 := Nat.pow_le_pow_right (by decide) (by omega)
  rw [withSurplus, withSurplusWide, tenPower?_of_le (by omega)]
  simp only [Option.bind_eq_bind, Option.bind_some]
  rw [wide?_of_lt (by omega), Option.bind_some, wide?_of_lt (by omega), Option.bind_some, wide?]
  split
  · rfl
  · split <;> rfl

end DecimalAmount

end LendingPool
