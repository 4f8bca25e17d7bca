import LendingPool.Decimal.Binary64
import Mathlib.Algebra.Order.Field.Power
import Mathlib.Algebra.Order.Floor.Semifield
import Mathlib.Data.Rat.Floor
import Mathlib.Tactic.FieldSimp
import Mathlib.Tactic.Linarith
import Mathlib.Tactic.Positivity
import Mathlib.Tactic.Ring
/-! The shortest digits of a float. They read back as the float, no number with fewer digits does,
and among those with as many digits they are nearest to it. What is displayed is the larger one of
two that are. Seventeen digits are always enough. -/

namespace LendingPool.Binary64

/-! ## What reads back -/

def size (number : Binary64) : ℚ :=
  number.significand * 2 ^ number.exponent

/-- The distance to the next smaller number. It is half as far below a power of two. -/
def gapBelow (number : Binary64) : ℚ :=
  if number.significand = 2 ^ 52 ∧ -1074 < number.exponent then 2 ^ number.exponent / 2
  else 2 ^ number.exponent

/-- What is rounded to the number: whatever lies between the midpoints to its neighbours. The
midpoints themselves are rounded to an even significand. -/
def ReadsBack (number : Binary64) (decimal : ℚ) : Prop :=
  let low := number.size - number.gapBelow / 2
  let high := number.size + 2 ^ number.exponent / 2
  if number.significand % 2 = 0 then low ≤ decimal ∧ decimal ≤ high
  else low < decimal ∧ decimal < high

instance (number : Binary64) (decimal : ℚ) : Decidable (number.ReadsBack decimal) :=
  inferInstanceAs (Decidable (ite _ _ _))

/-- At most `count` significant digits are enough to write a number. -/
def HasDigits (count : Nat) (decimal : ℚ) : Prop :=
  ∃ (digits : Nat) (unit : Int), digits < 10 ^ count ∧ decimal = digits * 10 ^ unit

/-- No number with fewer digits reads back, and none with as many digits that does is nearer. -/
structure IsShortest (number : Binary64) (count : Nat) (decimal : ℚ) : Prop where
  readsBack : number.ReadsBack decimal
  digits : HasDigits count decimal
  least : ∀ fewer other, HasDigits fewer other → number.ReadsBack other → count ≤ fewer
  nearest : ∀ other, HasDigits count other → number.ReadsBack other →
    |decimal - number.size| ≤ |other - number.size|

/-- Of two shortest numbers that are equally near, the larger one is displayed. -/
structure IsDisplayed (number : Binary64) (count : Nat) (decimal : ℚ) : Prop
    extends number.IsShortest count decimal where
  largest : ∀ other, HasDigits count other → number.ReadsBack other →
    |other - number.size| = |decimal - number.size| → other ≤ decimal

variable {number : Binary64} {ties : Ties} {decimal other : ℚ} {count otherCount : Nat}

theorem IsShortest.distance_eq (shortest : number.IsShortest count decimal)
    (another : number.IsShortest otherCount other) :
    otherCount = count ∧ |other - number.size| = |decimal - number.size| := by
  have same : otherCount = count := Nat.le_antisymm
    (another.least _ _ shortest.digits shortest.readsBack)
    (shortest.least _ _ another.digits another.readsBack)
  subst same
  exact ⟨rfl, le_antisymm (another.nearest _ shortest.digits shortest.readsBack)
    (shortest.nearest _ another.digits another.readsBack)⟩

theorem IsDisplayed.unique (displayed : number.IsDisplayed count decimal)
    (another : number.IsDisplayed otherCount other) : otherCount = count ∧ other = decimal := by
  rcases displayed.distance_eq another.toIsShortest with ⟨rfl, distance⟩
  exact ⟨rfl, le_antisymm (displayed.largest _ another.digits another.readsBack distance)
    (another.largest _ displayed.digits displayed.readsBack distance.symm)⟩

theorem finite_bounds (number : Binary64) :
    number.significand < 2 ^ 53 ∧ -1074 ≤ number.exponent ∧ number.exponent ≤ 971 ∧
      (2 ^ 52 ≤ number.significand ∨ number.exponent = -1074) := by
  simpa [isFinite, and_assoc] using number.finite

theorem size_nonneg (number : Binary64) : 0 ≤ number.size := by
  rw [size]
  positivity

theorem gapBelow_pos (number : Binary64) : 0 < number.gapBelow := by
  rw [gapBelow]
  split <;> positivity

theorem gapBelow_le (number : Binary64) : number.gapBelow ≤ 2 ^ number.exponent := by
  have positive : (0 : ℚ) < 2 ^ number.exponent := by positivity
  rw [gapBelow]
  split <;> linarith

theorem le_size (nonzero : number.significand ≠ 0) : 2 ^ number.exponent ≤ number.size := by
  have least : (1 : ℚ) ≤ number.significand := by exact_mod_cast Nat.pos_of_ne_zero nonzero
  rw [size]
  exact le_mul_of_one_le_left (by positivity) least

theorem readsBack_of_between {first last : ℚ} (firstReadsBack : number.ReadsBack first)
    (lastReadsBack : number.ReadsBack last) (above : first ≤ decimal) (below : decimal ≤ last) :
    number.ReadsBack decimal := by
  simp only [ReadsBack] at firstReadsBack lastReadsBack ⊢
  split at firstReadsBack <;> rename_i parity
  · rw [if_pos parity] at lastReadsBack ⊢
    exact ⟨firstReadsBack.1.trans above, below.trans lastReadsBack.2⟩
  · rw [if_neg parity] at lastReadsBack ⊢
    exact ⟨firstReadsBack.1.trans_le above, below.trans_lt lastReadsBack.2⟩

theorem readsBack_of_near (low : number.size - decimal < number.gapBelow / 2)
    (high : decimal - number.size < 2 ^ number.exponent / 2) : number.ReadsBack decimal := by
  simp only [ReadsBack]
  split <;> constructor <;> linarith

theorem readsBack_size (number : Binary64) : number.ReadsBack number.size := by
  have positive := number.gapBelow_pos
  have stepPositive : (0 : ℚ) < 2 ^ number.exponent := by positivity
  apply readsBack_of_near <;> linarith

theorem bounds_of_readsBack (readsBack : number.ReadsBack decimal) :
    number.size - number.gapBelow / 2 ≤ decimal ∧
      decimal ≤ number.size + 2 ^ number.exponent / 2 := by
  simp only [ReadsBack] at readsBack
  split at readsBack
  · exact readsBack
  · exact ⟨readsBack.1.le, readsBack.2.le⟩

theorem pos_of_readsBack (nonzero : number.significand ≠ 0)
    (readsBack : number.ReadsBack decimal) : 0 < decimal := by
  have low := (bounds_of_readsBack readsBack).1
  have least := le_size nonzero
  have gap := number.gapBelow_le
  have positive : (0 : ℚ) < 2 ^ number.exponent := by positivity
  linarith

/-! ## Fractions of powers -/

theorem zpow_eq_div (base : ℚ) (exponent : Int) :
    base ^ exponent = base ^ exponent.toNat / base ^ (-exponent).toNat := by
  rcases Int.le_total 0 exponent with above | below
  · have none : (-exponent).toNat = 0 := by omega
    rw [none, pow_zero, div_one, ← zpow_natCast, Int.toNat_of_nonneg above]
  · have none : exponent.toNat = 0 := by omega
    rw [none, pow_zero, one_div, ← zpow_natCast, ← zpow_neg, Int.toNat_of_nonneg (by omega),
      neg_neg]

theorem ite_toNat (base : Nat) (exponent : Int) :
    (if 0 ≤ exponent then (1, base ^ exponent.toNat) else (base ^ (-exponent).toNat, 1)) =
      (base ^ (-exponent).toNat, base ^ exponent.toNat) := by
  split
  · rw [show (-exponent).toNat = 0 by omega, pow_zero]
  · rw [show exponent.toNat = 0 by omega, pow_zero]

theorem magnitude_eq (number : Binary64) :
    number.magnitude =
      (number.significand * 2 ^ number.exponent.toNat, 2 ^ (-number.exponent).toNat) := by
  rw [magnitude]
  split
  · rw [show (-number.exponent).toNat = 0 by omega, pow_zero]
  · rw [show number.exponent.toNat = 0 by omega, pow_zero, mul_one]

theorem size_eq_div (number : Binary64) :
    number.size = number.magnitude.1 / number.magnitude.2 := by
  rw [size, zpow_eq_div, magnitude_eq]
  push_cast
  ring

/-! ## A decimal grid -/

theorem midpoints_eq (nonzero : number.significand ≠ 0) :
    (number.midpoints.1 : ℚ) = 4 * number.magnitude.2 * (number.size - number.gapBelow / 2) ∧
      (number.midpoints.2 : ℚ) =
        4 * number.magnitude.2 * (number.size + 2 ^ number.exponent / 2) := by
  have step : (2 : ℚ) ^ number.exponent =
      2 ^ number.exponent.toNat / 2 ^ (-number.exponent).toNat := zpow_eq_div ..
  have shorter : 2 * 2 ^ number.exponent.toNat ≤
      4 * number.significand * 2 ^ number.exponent.toNat :=
    Nat.mul_le_mul_right _ (by omega)
  rw [midpoints, gapBelow, size, magnitude_eq, step]
  dsimp only
  constructor
  · split
    · rw [Nat.cast_sub (by omega)]
      push_cast
      field_simp
      ring
    · rw [Nat.cast_sub shorter]
      push_cast
      field_simp
      ring
  · push_cast
    field_simp
    ring

theorem sub_floor_half_iff {numerator denominator : Nat} (positive : 0 < denominator) :
    (1 / 2 < (numerator / denominator : ℚ) - (numerator / denominator : Nat) ↔
        denominator < 2 * (numerator % denominator)) ∧
      ((numerator / denominator : ℚ) - (numerator / denominator : Nat) = 1 / 2 ↔
        2 * (numerator % denominator) = denominator) := by
  have rest : (numerator / denominator : ℚ) - (numerator / denominator : Nat) =
      (numerator % denominator : Nat) / denominator := by
    have parts : ((denominator * (numerator / denominator) + numerator % denominator : Nat) : ℚ) =
        numerator := congrArg Nat.cast (Nat.div_add_mod numerator denominator)
    push_cast at parts
    rw [eq_div_iff (by positivity), sub_mul, div_mul_cancel₀ _ (by positivity)]
    linarith
  rw [rest, div_lt_div_iff₀ (by norm_num) (by positivity), div_eq_div_iff (by positivity)
    (by norm_num), one_mul, mul_comm _ (2 : ℚ)]
  constructor <;> exact_mod_cast Iff.rfl

theorem compare_iff {bottom scale mark : Nat} {place : ℚ} (bottomPositive : 0 < bottom)
    (scalePositive : 0 < scale) (markEq : (mark : ℚ) = 4 * bottom * place)
    (candidate unscale : Nat) :
    (mark * scale ≤ 4 * candidate * unscale * bottom ↔
        place ≤ candidate * (unscale / scale : ℚ)) ∧
      (4 * candidate * unscale * bottom ≤ mark * scale ↔
        candidate * (unscale / scale : ℚ) ≤ place) := by
  have factor : (0 : ℚ) < 4 * bottom * scale := by positivity
  have left : ((mark * scale : Nat) : ℚ) = 4 * bottom * scale * place := by
    rw [Nat.cast_mul, markEq]
    ring
  have right : ((4 * candidate * unscale * bottom : Nat) : ℚ) =
      4 * bottom * scale * (candidate * (unscale / scale : ℚ)) := by
    push_cast
    field_simp
  rw [← Nat.cast_le (α := ℚ), ← Nat.cast_le (α := ℚ), left, right]
  exact ⟨mul_le_mul_iff_right₀ factor, mul_le_mul_iff_right₀ factor⟩

/-- The whole numbers next to a number, the nearer one first. -/
def neighbours (ties : Ties) (place : ℚ) : List Nat :=
  if 1 / 2 < place - ⌊place⌋₊ ∨ (place - ⌊place⌋₊ = 1 / 2 ∧ ties.goUp ⌊place⌋₊) then
    [⌊place⌋₊ + 1, ⌊place⌋₊]
  else [⌊place⌋₊, ⌊place⌋₊ + 1]

theorem onGrid?_eq (nonzero : number.significand ≠ 0) (unit : Int) :
    number.onGrid? ties unit =
      (neighbours ties (number.size / 10 ^ unit)).find? fun (candidate : Nat) =>
        decide (number.ReadsBack (candidate * 10 ^ unit)) := by
  have bottomPositive : 0 < number.magnitude.2 := by
    rw [magnitude_eq]
    exact Nat.two_pow_pos _
  have sizeSplit := number.size_eq_div
  rcases midpoints_eq nonzero with ⟨lowEq, highEq⟩
  have unitSplit : (10 : ℚ) ^ unit =
      (10 ^ unit.toNat : Nat) / (10 ^ (-unit).toNat : Nat) := by
    rw [zpow_eq_div]
    push_cast
    rfl
  rw [onGrid?, ite_toNat]
  generalize number.magnitude = magnitude at bottomPositive sizeSplit lowEq highEq ⊢
  generalize number.midpoints = midpoints at lowEq highEq ⊢
  rcases magnitude with ⟨top, bottom⟩
  rcases midpoints with ⟨low, high⟩
  dsimp only at bottomPositive sizeSplit lowEq highEq ⊢
  have scalePositive : 0 < 10 ^ (-unit).toNat := by positivity
  have unscalePositive : 0 < 10 ^ unit.toNat := by positivity
  generalize 10 ^ (-unit).toNat = scale at scalePositive unitSplit ⊢
  generalize 10 ^ unit.toNat = unscale at unscalePositive unitSplit ⊢
  have quotient : number.size / 10 ^ unit =
      ((top * scale : Nat) : ℚ) / ((bottom * unscale : Nat) : ℚ) := by
    rw [sizeSplit, unitSplit]
    push_cast
    field_simp
  rcases @sub_floor_half_iff (top * scale) (bottom * unscale) (by positivity) with ⟨above, halfway⟩
  rw [quotient, neighbours, Nat.floor_div_eq_div]
  simp only [above, halfway]
  congr 1
  funext candidate
  rcases compare_iff bottomPositive scalePositive lowEq candidate unscale with
    ⟨aboveLow, belowLow⟩
  rcases compare_iff bottomPositive scalePositive highEq candidate unscale with
    ⟨aboveHigh, belowHigh⟩
  simp only [ReadsBack, unitSplit, ← not_le, aboveLow, belowLow, aboveHigh, belowHigh]
  split <;> rfl

theorem floor_le_place (number : Binary64) (unit : Int) :
    ⌊number.size / 10 ^ unit⌋₊ * (10 : ℚ) ^ unit ≤ number.size ∧
      number.size < (⌊number.size / 10 ^ unit⌋₊ + 1) * (10 : ℚ) ^ unit := by
  have positive : (0 : ℚ) < 10 ^ unit := by positivity
  have nonneg : 0 ≤ number.size / 10 ^ unit := div_nonneg number.size_nonneg positive.le
  exact ⟨(le_div_iff₀ positive).mp (Nat.floor_le nonneg),
    (div_lt_iff₀ positive).mp (Nat.lt_floor_add_one _)⟩

theorem neighbour_of_readsBack {unit : Int} {candidate : Nat}
    (readsBack : number.ReadsBack (candidate * 10 ^ unit)) :
    candidate ≤ ⌊number.size / 10 ^ unit⌋₊ ∧
        number.ReadsBack (⌊number.size / 10 ^ unit⌋₊ * 10 ^ unit) ∨
      ⌊number.size / 10 ^ unit⌋₊ + 1 ≤ candidate ∧
        number.ReadsBack ((⌊number.size / 10 ^ unit⌋₊ + 1 : Nat) * 10 ^ unit) := by
  have positive : (0 : ℚ) ≤ 10 ^ unit := by positivity
  rcases number.floor_le_place unit with ⟨below, above⟩
  rcases Nat.lt_or_ge ⌊number.size / 10 ^ unit⌋₊ candidate with greater | less
  · refine .inr ⟨greater, readsBack_of_between number.readsBack_size readsBack ?_ ?_⟩
    · push_cast
      exact above.le
    · gcongr
      exact greater
  · refine .inl ⟨less, readsBack_of_between readsBack number.readsBack_size ?_ below⟩
    gcongr

theorem not_readsBack_of_onGrid? {unit : Int} (nonzero : number.significand ≠ 0)
    (none : number.onGrid? ties unit = none) (candidate : Nat) :
    ¬ number.ReadsBack (candidate * 10 ^ unit) := by
  rw [onGrid?_eq nonzero, List.find?_eq_none] at none
  intro readsBack
  rcases neighbour_of_readsBack readsBack with ⟨-, back⟩ | ⟨-, back⟩ <;>
  · refine none _ ?_ (decide_eq_true back)
    rw [neighbours]
    split <;> simp

theorem le_distance_of_neighbours {unit : Int} {distance : ℚ}
    (below : number.ReadsBack (⌊number.size / 10 ^ unit⌋₊ * 10 ^ unit) →
      distance ≤ number.size - ⌊number.size / 10 ^ unit⌋₊ * 10 ^ unit)
    (above : number.ReadsBack ((⌊number.size / 10 ^ unit⌋₊ + 1 : Nat) * 10 ^ unit) →
      distance ≤ (⌊number.size / 10 ^ unit⌋₊ + 1 : Nat) * 10 ^ unit - number.size)
    {candidate : Nat} (readsBack : number.ReadsBack (candidate * 10 ^ unit)) :
    distance ≤ |candidate * 10 ^ unit - number.size| := by
  have positive : (0 : ℚ) ≤ 10 ^ unit := by positivity
  rcases neighbour_of_readsBack readsBack with ⟨less, back⟩ | ⟨greater, back⟩
  · have scaled : (candidate : ℚ) * 10 ^ unit ≤ ⌊number.size / 10 ^ unit⌋₊ * 10 ^ unit := by
      gcongr
    have farther := neg_le_abs (candidate * 10 ^ unit - number.size)
    linarith [below back]
  · have scaled : ((⌊number.size / 10 ^ unit⌋₊ + 1 : Nat) : ℚ) * 10 ^ unit ≤
        candidate * 10 ^ unit := by
      gcongr
    have farther := le_abs_self (candidate * 10 ^ unit - number.size)
    linarith [above back]

theorem neighbour_of_onGrid? {unit : Int} {candidate : Nat} (nonzero : number.significand ≠ 0)
    (found : number.onGrid? ties unit = some candidate) :
    candidate = ⌊number.size / 10 ^ unit⌋₊ ∧
        (number.size - ⌊number.size / 10 ^ unit⌋₊ * 10 ^ unit ≤ 10 ^ unit / 2 ∧
            (number.size - ⌊number.size / 10 ^ unit⌋₊ * 10 ^ unit = 10 ^ unit / 2 →
              ties.goUp ⌊number.size / 10 ^ unit⌋₊ ≠ true) ∨
          ¬ number.ReadsBack ((⌊number.size / 10 ^ unit⌋₊ + 1 : Nat) * 10 ^ unit)) ∨
      candidate = ⌊number.size / 10 ^ unit⌋₊ + 1 ∧
        (10 ^ unit / 2 ≤ number.size - ⌊number.size / 10 ^ unit⌋₊ * 10 ^ unit ∨
          ¬ number.ReadsBack (⌊number.size / 10 ^ unit⌋₊ * 10 ^ unit)) := by
  have positive : (0 : ℚ) < 10 ^ unit := by positivity
  have distance : number.size / 10 ^ unit - ⌊number.size / 10 ^ unit⌋₊ =
      (number.size - ⌊number.size / 10 ^ unit⌋₊ * 10 ^ unit) / 10 ^ unit := by
    rw [sub_div, mul_div_cancel_right₀ _ positive.ne']
  rw [onGrid?_eq nonzero, neighbours] at found
  split at found <;> rename_i half <;>
    rw [distance, lt_div_iff₀ positive, div_eq_iff positive.ne', one_div_mul_eq_div] at half <;>
    rw [List.find?_cons] at found <;> split at found <;> rename_i back
  · exact .inr ⟨(Option.some.inj found).symm, .inl (half.elim le_of_lt fun tie => tie.1.ge)⟩
  · exact .inl ⟨List.mem_singleton.mp (List.mem_of_find?_eq_some found),
      .inr (of_decide_eq_false back)⟩
  · rw [not_or, not_lt, not_and] at half
    exact .inl ⟨(Option.some.inj found).symm, .inl half⟩
  · exact .inr ⟨List.mem_singleton.mp (List.mem_of_find?_eq_some found),
      .inr (of_decide_eq_false back)⟩

theorem nearest_of_onGrid? {unit : Int} {candidate : Nat} (nonzero : number.significand ≠ 0)
    (found : number.onGrid? ties unit = some candidate) :
    number.ReadsBack (candidate * 10 ^ unit) ∧ candidate ≤ ⌊number.size / 10 ^ unit⌋₊ + 1 ∧
      ∀ other : Nat, number.ReadsBack (other * 10 ^ unit) →
        |candidate * 10 ^ unit - number.size| ≤ |other * 10 ^ unit - number.size| := by
  rcases number.floor_le_place unit with ⟨below, above⟩
  have back := List.find?_some (onGrid?_eq nonzero unit ▸ found)
  refine ⟨of_decide_eq_true back, ?_, fun other => le_distance_of_neighbours ?_ ?_⟩
  · rcases neighbour_of_onGrid? nonzero found with ⟨rfl, -⟩ | ⟨rfl, -⟩ <;> omega
  all_goals
    intro otherBack
    rcases neighbour_of_onGrid? nonzero found with
        ⟨rfl, ⟨near, -⟩ | alone⟩ | ⟨rfl, near | alone⟩ <;>
      first
      | exact absurd otherBack alone
      | push_cast
        rw [abs_le]
        constructor <;> linarith

/-! ## The power of ten above -/

theorem powerExceeds_iff {numerator denominator : Nat} (positive : 0 < denominator) (power : Int) :
    powerExceeds power numerator denominator = true ↔
      (numerator / denominator : ℚ) < 10 ^ power := by
  have split : (10 : ℚ) ^ power = 10 ^ power.toNat / 10 ^ (-power).toNat := zpow_eq_div ..
  rw [powerExceeds]
  split <;> rename_i sign <;>
    rw [decide_eq_true_iff, split, div_lt_div_iff₀ (by positivity) (by positivity)]
  · rw [show (-power).toNat = 0 by omega, pow_zero, mul_one]
    exact_mod_cast Iff.rfl
  · rw [show power.toNat = 0 by omega, pow_zero, one_mul]
    exact_mod_cast Iff.rfl

/-- Steps up from a power that is not too large lead to the first power above, if they reach it. -/
theorem bounds_of_climb {numerator denominator : Nat} (positive : 0 < denominator)
    (steps : List Nat) {guess : Int} (low : (10 : ℚ) ^ (guess - 1) ≤ numerator / denominator)
    (high : (numerator / denominator : ℚ) < 10 ^ (guess + steps.length)) :
    let power := steps.foldl (fun power _ =>
      if powerExceeds power numerator denominator then power else power + 1) guess
    (10 : ℚ) ^ (power - 1) ≤ numerator / denominator ∧
      (numerator / denominator : ℚ) < 10 ^ power := by
  induction steps generalizing guess with
  | nil => exact ⟨low, by simpa using high⟩
  | cons step steps induction =>
      rw [List.foldl_cons]
      split <;> rename_i exceeds
      · rw [powerExceeds_iff positive] at exceeds
        refine induction low (exceeds.trans_le (zpow_le_zpow_right₀ (by norm_num) (by omega)))
      · rw [powerExceeds_iff positive, not_lt] at exceeds
        refine induction (by rwa [add_sub_cancel_right]) ?_
        rw [List.length_cons] at high
        rwa [add_assoc, add_comm 1, ← Nat.cast_succ]

section Guess

variable {scale rate : Nat} (low : 2 ^ scale ≤ 10 ^ rate) (high : 10 ^ rate ≤ 2 ^ (scale + 1))

include low high

/-- A bit is about `rate / scale` digits. Over `scale` bits this is at most one bit off. -/
theorem ten_pow_bounds {bits : Nat} (few : bits ≤ scale) :
    2 ^ (scale * bits) ≤ 10 ^ (rate * bits) ∧ 10 ^ (rate * bits) ≤ 2 ^ (scale * (bits + 1)) := by
  rw [pow_mul, pow_mul]
  refine ⟨Nat.pow_le_pow_left low bits, (Nat.pow_le_pow_left high bits).trans ?_⟩
  rw [← pow_mul]
  exact Nat.pow_le_pow_right (by omega) (by rw [add_mul, mul_add]; omega)

theorem ten_zpow_bounds {bits : Int} (few : bits.natAbs ≤ scale) :
    (2 : ℚ) ^ (scale * (bits - 1)) ≤ 10 ^ (rate * bits) ∧
      (10 : ℚ) ^ (rate * bits) ≤ 2 ^ (scale * (bits + 1)) := by
  have bounds : (2 : ℚ) ^ (scale * (bits.natAbs : Int)) ≤ 10 ^ (rate * (bits.natAbs : Int)) ∧
      (10 : ℚ) ^ (rate * (bits.natAbs : Int)) ≤ 2 ^ (scale * ((bits.natAbs : Int) + 1)) := by
    exact_mod_cast ten_pow_bounds low high few
  have powersOfTwo {first last : Int} (less : first ≤ last) :
      (2 : ℚ) ^ (scale * first) ≤ 2 ^ (scale * last) :=
    zpow_le_zpow_right₀ (by norm_num) (Int.mul_le_mul_of_nonneg_left less (by omega))
  rcases Int.natAbs_eq bits with same | same
  · rw [← same] at bounds
    exact ⟨(powersOfTwo (by omega)).trans bounds.1, bounds.2⟩
  · generalize (bits.natAbs : Int) = size at same bounds
    have lower := inv_anti₀ (by positivity) bounds.2
    have upper := inv_anti₀ (by positivity) bounds.1
    rw [← zpow_neg, ← zpow_neg, ← mul_neg, ← mul_neg] at lower upper
    rw [same]
    exact ⟨(powersOfTwo (by omega)).trans lower, upper.trans (powersOfTwo (by omega))⟩

theorem guess_bounds (positive : 0 < scale) {bits : Int} (few : bits.natAbs ≤ scale) :
    (10 : ℚ) ^ (bits * rate / scale) ≤ 2 ^ (bits + 1) ∧
      (2 : ℚ) ^ (bits - 1) ≤ 10 ^ (bits * rate / scale + 1) := by
  rcases ten_zpow_bounds low high few with ⟨lower, upper⟩
  have root {left right : Int} {leftBase rightBase : ℚ} (leftPositive : 0 < leftBase)
      (rightPositive : 0 < rightBase)
      (powers : leftBase ^ (scale * left) ≤ rightBase ^ (scale * right)) :
      leftBase ^ left ≤ rightBase ^ right := by
    rw [mul_comm, zpow_mul, mul_comm, zpow_mul, zpow_natCast, zpow_natCast] at powers
    exact (pow_le_pow_iff_left₀ (by positivity) (by positivity) positive.ne').mp powers
  constructor
  · refine root (by norm_num) (by norm_num) (le_trans ?_ upper)
    refine zpow_le_zpow_right₀ (by norm_num) ?_
    rw [mul_comm (rate : Int)]
    exact Int.mul_ediv_self_le (by omega)
  · refine root (by norm_num) (by norm_num) (lower.trans ?_)
    refine zpow_le_zpow_right₀ (by norm_num) ?_
    rw [mul_comm (rate : Int), mul_add, mul_one]
    exact (Int.lt_mul_ediv_self_add (by omega)).le

end Guess

theorem log2_bounds {numerator denominator : Nat} (numeratorPositive : 0 < numerator)
    (denominatorPositive : 0 < denominator) {bits : Int}
    (same : (numerator.log2 : Int) - denominator.log2 = bits) :
    (2 : ℚ) ^ (bits - 1) ≤ numerator / denominator ∧
      (numerator / denominator : ℚ) < 2 ^ (bits + 1) := by
  have numeratorLow : (2 : ℚ) ^ numerator.log2 ≤ numerator := by
    exact_mod_cast Nat.log2_self_le numeratorPositive.ne'
  have numeratorHigh : (numerator : ℚ) < 2 ^ (numerator.log2 + 1) := by
    exact_mod_cast Nat.lt_log2_self
  have denominatorLow : (2 : ℚ) ^ denominator.log2 ≤ denominator := by
    exact_mod_cast Nat.log2_self_le denominatorPositive.ne'
  have denominatorHigh : (denominator : ℚ) < 2 ^ (denominator.log2 + 1) := by
    exact_mod_cast Nat.lt_log2_self
  have positive : (0 : ℚ) < denominator := by exact_mod_cast denominatorPositive
  rw [← same, le_div_iff₀ positive, div_lt_iff₀ positive]
  constructor
  · calc (2 : ℚ) ^ ((numerator.log2 : Int) - denominator.log2 - 1) * denominator
        ≤ 2 ^ ((numerator.log2 : Int) - denominator.log2 - 1) * 2 ^ (denominator.log2 + 1) := by
          gcongr
      _ = 2 ^ numerator.log2 := by
          rw [← zpow_natCast, ← zpow_natCast, ← zpow_add₀ (by norm_num)]
          congr 1
          omega
      _ ≤ numerator := numeratorLow
  · calc (numerator : ℚ) < 2 ^ (numerator.log2 + 1) := numeratorHigh
      _ = 2 ^ ((numerator.log2 : Int) - denominator.log2 + 1) * 2 ^ denominator.log2 := by
          rw [← zpow_natCast, ← zpow_natCast, ← zpow_add₀ (by norm_num)]
          congr 1
          omega
      _ ≤ 2 ^ ((numerator.log2 : Int) - denominator.log2 + 1) * denominator := by
          gcongr

theorem decimalExponent_bounds {numerator denominator : Nat} (numeratorPositive : 0 < numerator)
    (denominatorPositive : 0 < denominator)
    (few : ((numerator.log2 : Int) - denominator.log2).natAbs ≤ 100000) :
    (10 : ℚ) ^ (decimalExponent numerator denominator - 1) ≤ numerator / denominator ∧
      (numerator / denominator : ℚ) < 10 ^ decimalExponent numerator denominator := by
  rw [decimalExponent]
  generalize bits_eq : (numerator.log2 : Int) - denominator.log2 = bits at few
  rcases log2_bounds numeratorPositive denominatorPositive bits_eq with ⟨low, high⟩
  rcases @guess_bounds 100000 30103 (by decide +kernel) (by decide +kernel) (by omega) bits few with
    ⟨digitsLow, digitsHigh⟩
  change (10 : ℚ) ^ (bits * 30103 / 100000) ≤ _ at digitsLow
  change _ ≤ (10 : ℚ) ^ (bits * 30103 / 100000 + 1) at digitsHigh
  generalize bits * 30103 / 100000 = digits at digitsLow digitsHigh ⊢
  have four : (2 : ℚ) ^ (bits + 1) = 4 * 2 ^ (bits - 1) := by
    rw [show bits + 1 = 2 + (bits - 1) by ring, zpow_add₀ (by norm_num)]
    norm_num
  refine bounds_of_climb denominatorPositive _ (le_trans ?_ low) (high.trans_le ?_)
  · have hundred : (10 : ℚ) ^ digits = 100 * 10 ^ (digits - 1 - 1) := by
      rw [sub_sub, zpow_sub₀ (by norm_num)]
      norm_num
      ring
    have positive : (0 : ℚ) < 2 ^ (bits - 1) := by positivity
    linarith
  · have thousand : (10 : ℚ) ^ (digits - 1 + (List.range 5).length) = 1000 * 10 ^ (digits + 1) := by
      rw [List.length_range, show digits - 1 + (5 : Nat) = 3 + (digits + 1) by omega,
        zpow_add₀ (by norm_num)]
      norm_num
    have positive : (0 : ℚ) < 10 ^ (digits + 1) := by positivity
    linarith

/-! ## Shortest digits -/

def leading (number : Binary64) : Int :=
  decimalExponent number.magnitude.1 number.magnitude.2

theorem leading_bounds (nonzero : number.significand ≠ 0) :
    (10 : ℚ) ^ (number.leading - 1) ≤ number.size ∧ number.size < 10 ^ number.leading := by
  rcases number.finite_bounds with ⟨bits, least, greatest, -⟩
  have positive : 0 < number.significand := Nat.pos_of_ne_zero nonzero
  rw [leading, size_eq_div, magnitude_eq]
  refine decimalExponent_bounds (Nat.mul_pos positive (Nat.two_pow_pos _)) (Nat.two_pow_pos _) ?_
  have topBound : (number.significand * 2 ^ number.exponent.toNat).log2 <
      53 + number.exponent.toNat := by
    refine (Nat.log2_lt (Nat.mul_pos positive (Nat.two_pow_pos _)).ne').mpr ?_
    rw [pow_add]
    exact Nat.mul_lt_mul_of_pos_right bits (Nat.two_pow_pos _)
  dsimp only
  rw [Nat.log2_two_pow]
  omega

/-- The coarsest grid on which something reads back, and what is taken from it. -/
structure IsFirst (number : Binary64) (ties : Ties) (count candidate : Nat) : Prop where
  inside : count < 17
  found : number.onGrid? ties (number.leading - (count + 1 : Nat)) = some candidate
  earlier : ∀ fewer < count, number.onGrid? ties (number.leading - (fewer + 1 : Nat)) = none

theorem IsFirst.shortest_eq {candidate : Nat} (first : number.IsFirst ties count candidate) :
    number.shortest ties = (candidate, number.leading - (count + 1 : Nat)) := by
  have inside := first.inside
  have parts : List.range 17 = List.range count ++ List.range' count (17 - count) := by
    have split : List.range' 0 count ++ List.range' (0 + count) (17 - count) =
        List.range' 0 (count + (17 - count)) := List.range'_append_1
    rw [Nat.add_sub_of_le inside.le, zero_add] at split
    rw [List.range_eq_range', List.range_eq_range', split]
  have searched : (List.range 17).findSome? (fun (count : Nat) =>
      (number.onGrid? ties (number.leading - (count + 1 : Nat))).map
        (·, number.leading - (count + 1 : Nat))) =
      some (candidate, number.leading - (count + 1 : Nat)) := by
    rw [parts, List.findSome?_append, List.findSome?_eq_none_iff.mpr]
    · rw [show 17 - count = 16 - count + 1 by omega, List.range'_succ, List.findSome?_cons,
        first.found]
      rfl
    · intro fewer member
      rw [first.earlier fewer (List.mem_range.mp member), Option.map_none]
  rw [shortest]
  exact congrArg (Option.getD · (0, 0)) searched

theorem exists_onGrid? (ties : Ties) (nonzero : number.significand ≠ 0) :
    ∃ candidate, number.onGrid? ties (number.leading - (16 + 1 : Nat)) = some candidate := by
  rw [← Option.ne_none_iff_exists']
  intro none
  have misses := not_readsBack_of_onGrid? nonzero none
  rcases leading_bounds nonzero with ⟨low, -⟩
  rcases number.finite_bounds with ⟨bits, -⟩
  rcases number.floor_le_place (number.leading - (16 + 1 : Nat)) with ⟨below, above⟩
  generalize ⌊number.size / 10 ^ (number.leading - (16 + 1 : Nat))⌋₊ = floor at below above
  have fine : (10 : ℚ) ^ 16 * 10 ^ (number.leading - (16 + 1 : Nat)) ≤ number.size := by
    refine le_trans (le_of_eq ?_) low
    rw [← zpow_natCast, ← zpow_add₀ (by norm_num)]
    congr 1
    omega
  generalize (10 : ℚ) ^ (number.leading - (16 + 1 : Nat)) = unit at misses below above fine
  have positive : (0 : ℚ) < 2 ^ number.exponent := by positivity
  have smaller : unit < number.gapBelow := by
    rw [gapBelow]
    split <;> rename_i power
    · rw [size, power.1] at fine
      push_cast at fine
      linarith
    · have less : number.size < 2 ^ 53 * 2 ^ number.exponent := by
        rw [size]
        gcongr
        exact_mod_cast bits
      linarith
  by_cases near : number.size - floor * unit ≤ unit / 2
  · refine misses floor (readsBack_of_near ?_ ?_) <;> linarith
  · refine misses (floor + 1) (readsBack_of_near ?_ ?_) <;> push_cast <;>
      linarith [number.gapBelow_le]

theorem exists_isFirst (ties : Ties) (nonzero : number.significand ≠ 0) :
    ∃ count candidate, number.IsFirst ties count candidate := by
  classical
  have enough := exists_onGrid? ties nonzero
  let finds (count : Nat) :=
    ∃ candidate, number.onGrid? ties (number.leading - (count + 1 : Nat)) = some candidate
  have somewhere : ∃ count, finds count := ⟨16, enough⟩
  have inside : Nat.find somewhere ≤ 16 := Nat.find_min' somewhere enough
  rcases Nat.find_spec somewhere with ⟨candidate, found⟩
  refine ⟨_, candidate, by omega, found, fun fewer less => ?_⟩
  by_contra earlier
  exact Nat.find_min somewhere less (Option.ne_none_iff_exists'.mp earlier)

theorem exists_onGrid_of_hasDigits (nonzero : number.significand ≠ 0) {count : Nat}
    (digits : HasDigits (count + 1) other) (readsBack : number.ReadsBack other) :
    ∃ candidate : Nat,
      number.ReadsBack (candidate * 10 ^ (number.leading - (count + 1 : Nat))) ∧
        |candidate * 10 ^ (number.leading - (count + 1 : Nat)) - number.size| ≤
          |other - number.size| ∧
        (number.size ≤ other → candidate * 10 ^ (number.leading - (count + 1 : Nat)) = other) := by
  rcases digits with ⟨digits, unit, few, rfl⟩
  rcases leading_bounds nonzero with ⟨low, -⟩
  by_cases coarse : (10 : ℚ) ^ (number.leading - 1) ≤ digits * 10 ^ unit
  · have above : number.leading - (count + 1 : Nat) ≤ unit := by
      have less : (10 : ℚ) ^ (number.leading - 1) < 10 ^ ((count + 1 : Nat) + unit) := by
        rw [zpow_add₀ (by norm_num), zpow_natCast]
        refine coarse.trans_lt ?_
        gcongr
        exact_mod_cast few
      have exponents := (zpow_lt_zpow_iff_right₀ (by norm_num)).mp less
      omega
    refine ⟨digits * 10 ^ (unit - (number.leading - (count + 1 : Nat))).toNat, ?_⟩
    have same : ((digits * 10 ^ (unit - (number.leading - (count + 1 : Nat))).toNat : Nat) : ℚ) *
        10 ^ (number.leading - (count + 1 : Nat)) = digits * 10 ^ unit := by
      push_cast
      rw [mul_assoc, ← zpow_natCast, Int.toNat_of_nonneg (by omega), ← zpow_add₀ (by norm_num)]
      congr 2
      omega
    rw [same]
    exact ⟨readsBack, le_rfl, fun _ => rfl⟩
  · rw [not_le] at coarse
    refine ⟨10 ^ count, ?_⟩
    have same : ((10 ^ count : Nat) : ℚ) * 10 ^ (number.leading - (count + 1 : Nat)) =
        10 ^ (number.leading - 1) := by
      push_cast
      rw [← zpow_natCast, ← zpow_add₀ (by norm_num)]
      congr 1
      omega
    rw [same]
    refine ⟨readsBack_of_between readsBack number.readsBack_size coarse.le low, ?_,
      fun above => ?_⟩
    · rw [abs_of_nonpos (by linarith), abs_of_nonpos (by linarith)]
      linarith
    · linarith

def shortestSize (number : Binary64) (ties : Ties) : ℚ :=
  if number.significand = 0 then 0 else (number.shortest ties).1 * 10 ^ (number.shortest ties).2

theorem hasDigits_of_onGrid? (nonzero : number.significand ≠ 0) {count candidate : Nat}
    (found : number.onGrid? ties (number.leading - (count : Nat)) = some candidate)
    (some : 0 < count) : HasDigits count (candidate * 10 ^ (number.leading - (count : Nat))) := by
  have next := (nearest_of_onGrid? nonzero found).2.1
  have below : ⌊number.size / 10 ^ (number.leading - (count : Nat))⌋₊ < 10 ^ count := by
    refine (Nat.floor_lt (div_nonneg number.size_nonneg (by positivity))).mpr ?_
    rw [div_lt_iff₀ (by positivity)]
    refine (leading_bounds nonzero).2.trans_le (le_of_eq ?_)
    push_cast
    rw [← zpow_natCast, ← zpow_add₀ (by norm_num)]
    congr 1
    omega
  rcases Nat.lt_or_ge candidate (10 ^ count) with less | full
  · exact ⟨candidate, _, less, rfl⟩
  · refine ⟨1, number.leading, Nat.one_lt_pow some.ne' (by omega), ?_⟩
    rw [show candidate = 10 ^ count by omega]
    push_cast
    rw [one_mul, ← zpow_natCast, ← zpow_add₀ (by norm_num)]
    congr 1
    omega

theorem IsFirst.isShortest {candidate : Nat} (first : number.IsFirst ties count candidate)
    (nonzero : number.significand ≠ 0) :
    number.IsShortest (count + 1) (candidate * 10 ^ (number.leading - (count + 1 : Nat))) := by
  rcases nearest_of_onGrid? nonzero first.found with ⟨readsBack, -, nearest⟩
  refine ⟨readsBack, hasDigits_of_onGrid? nonzero first.found (by omega), ?_, ?_⟩
  · intro fewer other digits otherBack
    by_contra less
    cases fewer with
    | zero =>
        rcases digits with ⟨digits, unit, few, rfl⟩
        have none : digits = 0 := by omega
        have positive := pos_of_readsBack nonzero otherBack
        rw [none, Nat.cast_zero, zero_mul] at positive
        exact lt_irrefl _ positive
    | succ fewer =>
        rcases exists_onGrid_of_hasDigits nonzero digits otherBack with ⟨candidate, back, -⟩
        exact not_readsBack_of_onGrid? nonzero (first.earlier fewer (by omega)) candidate back
  · intro other digits otherBack
    rcases exists_onGrid_of_hasDigits nonzero digits otherBack with ⟨candidate, back, nearer, -⟩
    exact (nearest candidate back).trans nearer

theorem IsFirst.isDisplayed {candidate : Nat} (first : number.IsFirst .up count candidate)
    (nonzero : number.significand ≠ 0) :
    number.IsDisplayed (count + 1) (candidate * 10 ^ (number.leading - (count + 1 : Nat))) := by
  refine ⟨first.isShortest nonzero, fun other digits otherBack equal => ?_⟩
  have found := first.found
  rcases exists_onGrid_of_hasDigits nonzero digits otherBack with ⟨grid, gridBack, -, same⟩
  generalize number.leading - (count + 1 : Nat) = unit at found gridBack same equal ⊢
  have positive : (0 : ℚ) < 10 ^ unit := by positivity
  rcases number.floor_le_place unit with ⟨below, above⟩
  by_contra more
  rw [not_le] at more
  rcases neighbour_of_onGrid? nonzero found with ⟨rfl, decides⟩ | ⟨rfl, -⟩
  · -- On the other side of the number there is the upper neighbour, and it is farther away.
    have lower : (⌊number.size / 10 ^ unit⌋₊ : ℚ) * 10 ^ unit - number.size ≤ 0 :=
      sub_nonpos.mpr below
    rw [abs_of_nonpos lower] at equal
    have beyond : number.size ≤ other := by
      by_contra inside
      rw [abs_of_neg (by linarith)] at equal
      linarith
    rw [abs_of_nonneg (by linarith)] at equal
    rw [← same beyond] at more equal
    have greater := lt_of_mul_lt_mul_right more positive.le
    rcases neighbour_of_readsBack gridBack with ⟨less, -⟩ | ⟨upper, upperBack⟩
    · exact absurd less (Nat.not_le.mpr (by exact_mod_cast greater))
    · rcases decides with ⟨near, tie⟩ | alone
      · have far : ((⌊number.size / 10 ^ unit⌋₊ : ℚ) + 1) * 10 ^ unit ≤ grid * 10 ^ unit := by
          gcongr
          exact_mod_cast upper
        exact tie (by linarith) rfl
      · exact alone upperBack
  · push_cast at more equal
    rw [abs_of_pos (sub_pos.mpr above)] at equal
    have near := le_abs_self (other - number.size)
    linarith

theorem isShortest_zero (zero : number.significand = 0) : number.IsShortest 0 0 := by
  have none : number.size = 0 := by rw [size, zero, Nat.cast_zero, zero_mul]
  have back := number.readsBack_size
  rw [none] at back
  refine ⟨back, ⟨0, 0, by norm_num, by simp⟩, fun _ _ _ _ => Nat.zero_le _, fun other _ _ => ?_⟩
  rw [none, sub_zero, abs_zero]
  positivity

/-- The shortest digits are what they are called, for every finite float. -/
theorem isShortest (number : Binary64) (ties : Ties) :
    ∃ count, number.IsShortest count (number.shortestSize ties) := by
  rw [shortestSize]
  split <;> rename_i nonzero
  · exact ⟨0, isShortest_zero nonzero⟩
  · rcases exists_isFirst ties nonzero with ⟨count, candidate, first⟩
    rw [first.shortest_eq]
    exact ⟨count + 1, first.isShortest nonzero⟩

theorem isDisplayed (number : Binary64) :
    ∃ count, number.IsDisplayed count (number.shortestSize .up) := by
  rw [shortestSize]
  split <;> rename_i nonzero
  · refine ⟨0, isShortest_zero nonzero, fun other digits _ _ => ?_⟩
    rcases digits with ⟨digits, unit, few, rfl⟩
    rw [show digits = 0 by omega, Nat.cast_zero, zero_mul]
  · rcases exists_isFirst .up nonzero with ⟨count, candidate, first⟩
    rw [first.shortest_eq]
    exact ⟨count + 1, first.isDisplayed nonzero⟩

end LendingPool.Binary64
