import LendingPool.Keccak
import LendingPool.Proofs.Abi.Words
import Mathlib.Data.Nat.Bitwise
/-! Keccak on numbers. A state is one number with 64 bits for each lane, and every step of the
permutation has its like on such numbers. In this form a hash is quickly evaluated. -/

namespace LendingPool.Keccak

/-! ## States as numbers -/

/-- Lanes as one number, the first lane lowest. -/
def join (lane : (x y : Nat) → Nat) : Nat :=
  ((List.range 25).map fun index => lane (index % 5) (index / 5)).foldr
    (fun lane high => high * 2 ^ 64 + lane) 0

def laneIn (number x y : Nat) : Nat :=
  number >>> (64 * (x % 5 + 5 * (y % 5))) % 2 ^ 64

theorem join_congr {lane other : (x y : Nat) → Nat}
    (same : ∀ x < 5, ∀ y < 5, lane x y = other x y) : join lane = join other := by
  rw [join, join]
  congr 1
  refine List.map_congr_left fun index member => ?_
  have inside := List.mem_range.mp member
  exact same _ (by omega) _ (by omega)

theorem foldr_shiftRight {lanes : List Nat} (small : ∀ lane ∈ lanes, lane < 2 ^ 64) {index : Nat}
    (inside : index < lanes.length) :
    lanes.foldr (fun lane high => high * 2 ^ 64 + lane) 0 >>> (64 * index) % 2 ^ 64 =
      lanes[index] := by
  induction lanes generalizing index with
  | nil => cases inside
  | cons lane lanes induction =>
      rcases List.forall_mem_cons.mp small with ⟨first, rest⟩
      rw [List.foldr_cons]
      cases index with
      | zero =>
          rw [Nat.mul_zero, Nat.shiftRight_zero, Nat.mul_add_mod_self_right,
            Nat.mod_eq_of_lt first, List.getElem_cons_zero]
      | succ index =>
          have dropped (high : Nat) : (high * 2 ^ 64 + lane) >>> 64 = high := by
            rw [Nat.shiftRight_eq_div_pow]
            omega
          rw [show 64 * (index + 1) = 64 + 64 * index by omega, Nat.shiftRight_add, dropped,
            List.getElem_cons_succ]
          exact induction rest (Nat.lt_of_succ_lt_succ inside)

theorem laneIn_join {lane : (x y : Nat) → Nat} (small : ∀ x y, lane x y < 2 ^ 64) (x y : Nat) :
    laneIn (join lane) x y = lane (x % 5) (y % 5) := by
  rw [laneIn, join, foldr_shiftRight]
  · rw [List.getElem_map, List.getElem_range, show (x % 5 + 5 * (y % 5)) % 5 = x % 5 by omega,
      show (x % 5 + 5 * (y % 5)) / 5 = y % 5 by omega]
  · intro lane member
    rcases List.mem_map.mp member with ⟨index, -, rfl⟩
    exact small _ _
  · rw [List.length_map, List.length_range]
    omega

theorem laneIn_xor (left right x y : Nat) :
    laneIn (left ^^^ right) x y = laneIn left x y ^^^ laneIn right x y := by
  rw [laneIn, laneIn, laneIn, Nat.shiftRight_xor_distrib, Nat.xor_mod_two_pow]

theorem laneIn_shiftRight (number x : Nat) {y : Nat} (row : y < 5) :
    laneIn (number >>> (320 * y)) x 0 = laneIn number x y := by
  rw [laneIn, laneIn, ← Nat.shiftRight_add]
  congr 2
  omega

section Vectors

variable {α β γ : Type} {size : Nat}

theorem get_ofFn (value : Fin size → α) (index : Fin size) :
    (Vector.ofFn value).get index = value index :=
  Vector.getElem_ofFn index.isLt

theorem get_zipWith (combine : α → β → γ) (left : Vector α size) (right : Vector β size)
    (index : Fin size) :
    (Vector.zipWith combine left right).get index = combine (left.get index) (right.get index) :=
  Vector.getElem_zipWith index.isLt

theorem get_set (values : Vector α size) {place : Nat} (inside : place < size) (value : α)
    (index : Fin size) :
    (values.set place value inside).get index =
      if place = index.val then value else values.get index :=
  Vector.getElem_set inside index.isLt

end Vectors

namespace State

def toNat (state : State) : Nat :=
  join fun x y => (state.lane x y).toNat

theorem lane_mod (state : State) (x y : Nat) : state.lane (x % 5) (y % 5) = state.lane x y := by
  simp only [lane, Nat.mod_mod]

theorem laneIn_toNat (state : State) (x y : Nat) :
    laneIn state.toNat x y = (state.lane x y).toNat := by
  rw [toNat, laneIn_join fun x y => (state.lane x y).toNat_lt, lane_mod]

theorem lane_ofLanes (lane : (x y : Nat) → UInt64) (x y : Nat) :
    (ofLanes lane).lane x y = lane (x % 5) (y % 5) := by
  rw [ofLanes, State.lane, get_ofFn]
  congr 1
  · dsimp only
    omega
  · dsimp only
    omega

theorem toNat_ofLanes (lane : (x y : Nat) → UInt64) :
    (ofLanes lane).toNat = join fun x y => (lane x y).toNat := by
  refine join_congr fun x column y row => ?_
  rw [lane_ofLanes, Nat.mod_eq_of_lt column, Nat.mod_eq_of_lt row]

end State

/-! ## Steps on numbers -/

def turn (lane distance : Nat) : Nat :=
  (lane <<< distance % 2 ^ 64) ||| (lane >>> ((64 - distance) % 64))

def mixColumnsIn (number : Nat) : Nat :=
  let parity := number ^^^ number >>> 320 ^^^ number >>> 640 ^^^ number >>> 960 ^^^ number >>> 1280
  join fun x y =>
    laneIn number x y ^^^ laneIn parity (x + 4) 0 ^^^ turn (laneIn parity (x + 1) 0) 1

def turnAndMoveIn (number : Nat) : Nat :=
  join fun x y => turn (laneIn number (x + 3 * y) x) (laneIn (State.toNat rotations) (x + 3 * y) x)

def mixRowsIn (number : Nat) : Nat :=
  join fun x y =>
    laneIn number x y ^^^ (2 ^ 64 - 1 - laneIn number (x + 1) y &&& laneIn number (x + 2) y)

def roundIn (number : Nat) (constant : UInt64) : Nat :=
  mixRowsIn (turnAndMoveIn (mixColumnsIn number)) ^^^ constant.toNat

def permuteIn (number : Nat) : Nat :=
  roundConstants.foldl roundIn number

def absorbIn (number : Nat) (block : Bytes) : Nat :=
  permuteIn (join fun x y =>
    let index := x + 5 * y
    if index < rate / 8 then
      laneIn number x y ^^^ (laneOfBytes ((block.drop (8 * index)).take 8)).toNat
    else laneIn number x y)

theorem toNat_rotateLeft (lane : UInt64) {distance : UInt64} (small : distance.toNat < 64) :
    (rotateLeft lane distance).toNat = turn lane.toNat distance.toNat := by
  have rest : (64 - distance).toNat = 64 - distance.toNat := by
    rw [UInt64.toNat_sub_of_le]
    · rfl
    · exact UInt64.le_iff_toNat_le.mpr small.le
  rw [rotateLeft, turn, UInt64.toNat_or, UInt64.toNat_shiftLeft, UInt64.toNat_shiftRight, rest,
    Nat.mod_eq_of_lt small]

theorem laneIn_parity (state : State) (x : Nat) :
    laneIn (state.toNat ^^^ state.toNat >>> 320 ^^^ state.toNat >>> 640 ^^^ state.toNat >>> 960 ^^^
      state.toNat >>> 1280) x 0 =
      (state.lane x 0 ^^^ state.lane x 1 ^^^ state.lane x 2 ^^^ state.lane x 3 ^^^
        state.lane x 4).toNat := by
  have row {y : Nat} (inside : y < 5) :
      laneIn (state.toNat >>> (320 * y)) x 0 = (state.lane x y).toNat := by
    rw [laneIn_shiftRight _ _ inside, State.laneIn_toNat]
  have first := @row 1 (by omega)
  have second := @row 2 (by omega)
  have third := @row 3 (by omega)
  have fourth := @row 4 (by omega)
  rw [laneIn_xor, laneIn_xor, laneIn_xor, laneIn_xor, State.laneIn_toNat, first, second, third,
    fourth]
  simp only [UInt64.toNat_xor]

theorem toNat_mixColumns (state : State) :
    (mixColumns state).toNat = mixColumnsIn state.toNat := by
  have column (x : Nat) : ((Vector.ofFn fun x : Fin 5 => state.lane x 0 ^^^ state.lane x 1 ^^^
      state.lane x 2 ^^^ state.lane x 3 ^^^ state.lane x 4).get ⟨x % 5, by omega⟩).toNat =
      laneIn (state.toNat ^^^ state.toNat >>> 320 ^^^ state.toNat >>> 640 ^^^
        state.toNat >>> 960 ^^^ state.toNat >>> 1280) x 0 := by
    rw [get_ofFn, laneIn_parity]
    simp only [State.lane, Nat.mod_mod]
  rw [mixColumns]
  dsimp only
  rw [State.toNat_ofLanes, mixColumnsIn]
  refine join_congr fun x _ y _ => ?_
  rw [UInt64.toNat_xor, UInt64.toNat_xor, toNat_rotateLeft _ (by decide), column, column,
    State.laneIn_toNat]
  rfl

theorem toNat_turnAndMove (state : State) :
    (turnAndMove state).toNat = turnAndMoveIn state.toNat := by
  have few : ∀ index, (rotations.get index).toNat < 64 := by decide
  rw [turnAndMove, State.toNat_ofLanes, turnAndMoveIn]
  refine join_congr fun x _ y _ => ?_
  rw [State.lane, get_zipWith, toNat_rotateLeft, State.laneIn_toNat, State.laneIn_toNat]
  · rfl
  · exact few _

theorem toNat_mixRows (state : State) : (mixRows state).toNat = mixRowsIn state.toNat := by
  rw [mixRows, State.toNat_ofLanes, mixRowsIn]
  refine join_congr fun x _ y _ => ?_
  rw [UInt64.toNat_xor, UInt64.toNat_and, UInt64.toNat_not, State.laneIn_toNat, State.laneIn_toNat,
    State.laneIn_toNat]

theorem mul_add_xor {low other : Nat} (small : low < 2 ^ 64) (otherSmall : other < 2 ^ 64)
    (high : Nat) : (high * 2 ^ 64 + low) ^^^ other = high * 2 ^ 64 + (low ^^^ other) := by
  refine Nat.eq_of_testBit_eq fun bit => ?_
  rw [Nat.mul_comm, Nat.testBit_xor, Nat.testBit_two_pow_mul_add _ small,
    Nat.testBit_two_pow_mul_add _ (Nat.xor_lt_two_pow small otherSmall), Nat.testBit_xor]
  split
  · rfl
  · rename_i above
    have none : other.testBit bit = false :=
      Nat.testBit_lt_two_pow (otherSmall.trans_le (Nat.pow_le_pow_right (by omega) (by omega)))
    rw [none, Bool.xor_false]

theorem toNat_addConstant (state : State) (constant : UInt64) :
    (addConstant state constant).toNat = state.toNat ^^^ constant.toNat := by
  have first : (addConstant state constant).lane 0 0 = state.lane 0 0 ^^^ constant := by
    rw [addConstant, State.lane, get_set, if_pos rfl]
  have others {index : Nat} (behind : index ≠ 0) (inside : index < 25) :
      (addConstant state constant).lane (index % 5) (index / 5) =
        state.lane (index % 5) (index / 5) := by
    rw [addConstant, State.lane, get_set, if_neg, State.lane]
    dsimp only
    omega
  have tail : ((List.range 24).map Nat.succ).map (fun index =>
      ((addConstant state constant).lane (index % 5) (index / 5)).toNat) =
      ((List.range 24).map Nat.succ).map fun index =>
        (state.lane (index % 5) (index / 5)).toNat := by
    refine List.map_congr_left fun index member => ?_
    rcases List.mem_map.mp member with ⟨before, inside, rfl⟩
    rw [others (Nat.succ_ne_zero before) (Nat.succ_lt_succ (List.mem_range.mp inside))]
  rw [State.toNat, State.toNat, join, join, List.range_succ_eq_map, List.map_cons, List.map_cons,
    List.foldr_cons, List.foldr_cons, mul_add_xor (UInt64.toNat_lt _) (UInt64.toNat_lt _), tail,
    Nat.zero_mod, Nat.zero_div, first, UInt64.toNat_xor]

theorem toNat_round (state : State) (constant : UInt64) :
    (round state constant).toNat = roundIn state.toNat constant := by
  rw [round, toNat_addConstant, toNat_mixRows, toNat_turnAndMove, toNat_mixColumns, roundIn]

theorem toNat_foldl_round (constants : List UInt64) (state : State) :
    (constants.foldl round state).toNat = constants.foldl roundIn state.toNat := by
  induction constants generalizing state with
  | nil => rfl
  | cons constant constants induction =>
      rw [List.foldl_cons, List.foldl_cons, induction, toNat_round]

theorem toNat_permute (state : State) : (permute state).toNat = permuteIn state.toNat :=
  toNat_foldl_round roundConstants state

theorem toNat_absorb (state : State) (block : Bytes) :
    (absorb state block).toNat = absorbIn state.toNat block := by
  rw [absorb, toNat_permute, State.toNat_ofLanes, absorbIn]
  refine congrArg permuteIn (join_congr fun x _ y _ => ?_)
  dsimp only
  split
  · rw [UInt64.toNat_xor, State.laneIn_toNat]
  · rw [State.laneIn_toNat]

/-! ## Hashes of short messages -/

theorem length_pad {message : Bytes} (short : message.length < rate) :
    (pad message).length = rate := by
  rw [pad, Nat.mod_eq_of_lt short]
  split
  · rw [List.length_append, List.length_singleton]
    omega
  · rw [List.cons_append, List.length_append, List.length_cons, List.length_append,
      List.length_replicate, List.length_singleton]
    omega

/-- The first bytes of a hash, for a message that is one block. -/
theorem take_keccak256 {message : Bytes} (short : message.length < rate) {count : Nat}
    (few : count ≤ 8) :
    (keccak256 message).take count =
      (Bytes.ofNat 8 (laneIn (absorbIn 0 (pad message)) 0 0)).reverse.take count := by
  have full := length_pad short
  have absorbed : absorbAll (Vector.replicate 25 0) (pad message) =
      absorb (Vector.replicate 25 0) (pad message) := by
    rw [absorbAll, if_neg (by omega), absorbAll, if_pos, List.take_of_length_le full.le]
    rw [List.length_drop, full]
    decide
  have zero : State.toNat (Vector.replicate 25 0) = 0 := by decide +kernel
  have number := toNat_absorb (Vector.replicate 25 0) (pad message)
  rw [zero] at number
  rw [keccak256, absorbed, ← number, State.laneIn_toNat]
  generalize absorb (Vector.replicate 25 0) (pad message) = state
  have length : state.toList.length = 25 := Vector.length_toList
  have first : state.toList[0] = state.lane 0 0 := Vector.getElem_toList _
  rcases lanes : state.toList with _ | ⟨lane, lanes⟩
  · rw [lanes] at length
    cases length
  · simp only [lanes, List.getElem_cons_zero] at first
    have long : count ≤ (bytesOfLane lane).length := by
      rwa [bytesOfLane, List.length_reverse, Bytes.length_ofNat]
    rw [List.take_succ_cons, List.flatMap_cons, List.take_append_of_le_length long, first,
      bytesOfLane]

end LendingPool.Keccak
