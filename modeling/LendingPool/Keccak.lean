import LendingPool.Bytes
/-! Keccak-256: the sponge over the 1600-bit permutation, with a rate of 136 bytes. -/

namespace LendingPool.Keccak

/-- Twenty-five lanes of 64 bits. The lane in column `x` and row `y` has index `x + 5 * y`. -/
abbrev State := Vector UInt64 25

/-- Columns and rows are taken modulo five. -/
def State.lane (state : State) (x y : Nat) : UInt64 :=
  state.get ⟨x % 5 + 5 * (y % 5), by omega⟩

def State.ofLanes (lane : (x y : Nat) → UInt64) : State :=
  Vector.ofFn fun index => lane (index.val % 5) (index.val / 5)

def rotateLeft (lane : UInt64) (distance : UInt64) : UInt64 :=
  (lane <<< distance) ||| (lane >>> (64 - distance))

/-- How far each lane is turned, by lane index. -/
def rotations : Vector UInt64 25 := #v[
  0, 1, 62, 28, 27,
  36, 44, 6, 55, 20,
  3, 10, 43, 25, 39,
  41, 45, 15, 21, 8,
  18, 2, 61, 56, 14]

/-- What each of the 24 rounds adds to the first lane. -/
def roundConstants : List UInt64 := [
  0x0000000000000001, 0x0000000000008082, 0x800000000000808A, 0x8000000080008000,
  0x000000000000808B, 0x0000000080000001, 0x8000000080008081, 0x8000000000008009,
  0x000000000000008A, 0x0000000000000088, 0x0000000080008009, 0x000000008000000A,
  0x000000008000808B, 0x800000000000008B, 0x8000000000008089, 0x8000000000008003,
  0x8000000000008002, 0x8000000000000080, 0x000000000000800A, 0x800000008000000A,
  0x8000000080008081, 0x8000000000008080, 0x0000000080000001, 0x8000000080008008]

/-! ## One round -/

def mixColumns (state : State) : State :=
  let parity := Vector.ofFn fun x : Fin 5 =>
    state.lane x 0 ^^^ state.lane x 1 ^^^ state.lane x 2 ^^^ state.lane x 3 ^^^ state.lane x 4
  let column (x : Nat) : UInt64 := parity.get ⟨x % 5, by omega⟩
  .ofLanes fun x y => state.lane x y ^^^ column (x + 4) ^^^ rotateLeft (column (x + 1)) 1

def turnAndMove (state : State) : State :=
  let turned : State := Vector.zipWith rotateLeft state rotations
  .ofLanes fun x y => turned.lane (x + 3 * y) x

def mixRows (state : State) : State :=
  .ofLanes fun x y => state.lane x y ^^^ (~~~ state.lane (x + 1) y &&& state.lane (x + 2) y)

def addConstant (state : State) (constant : UInt64) : State :=
  state.set 0 (state.lane 0 0 ^^^ constant)

def round (state : State) (constant : UInt64) : State :=
  addConstant (mixRows (turnAndMove (mixColumns state))) constant

def permute (state : State) : State :=
  roundConstants.foldl round state

/-! ## The sponge -/

/-- Bytes taken in by one permutation. -/
def rate : Nat := 136

/-- Fills the last block: `01`, zeros, and the top bit of the final byte. -/
def pad (message : Bytes) : Bytes :=
  let free := rate - message.length % rate
  message ++ if free = 1 then [0x81] else 0x01 :: List.replicate (free - 2) 0 ++ [0x80]

def laneOfBytes (bytes : Bytes) : UInt64 :=
  UInt64.ofNat (Bytes.toNat bytes.reverse)

def bytesOfLane (lane : UInt64) : Bytes :=
  (Bytes.ofNat 8 lane.toNat).reverse

def absorb (state : State) (block : Bytes) : State :=
  permute (.ofLanes fun x y =>
    let index := x + 5 * y
    if index < rate / 8 then state.lane x y ^^^ laneOfBytes ((block.drop (8 * index)).take 8)
    else state.lane x y)

def absorbAll (state : State) (message : Bytes) : State :=
  if message.length < rate then state
  else absorbAll (absorb state (message.take rate)) (message.drop rate)
termination_by message.length
decreasing_by simp only [List.length_drop, rate] at *; omega

end Keccak

def keccak256 (message : Bytes) : Bytes :=
  let state := Keccak.absorbAll (Vector.replicate 25 0) (Keccak.pad message)
  ((state.toList.take 4).flatMap Keccak.bytesOfLane)

end LendingPool
