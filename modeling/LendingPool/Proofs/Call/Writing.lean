import LendingPool.Proofs.Call.Reading
/-! Packed calls that are written. A call is written exactly if its amount and its deadline have
room, every field then stands at its place in the format, and the call is read back. -/

namespace LendingPool

open Abi

namespace PackedCall

/-! ## What can be written -/

def deadline? : PackedCall → Option UInt64
  | .supplyWithPermit _ _ _ permit | .repayWithPermit _ _ _ permit => some permit.deadline
  | _ => none

/-- Whether the amount has room, or stands for the whole balance. -/
def AmountFits (call : PackedCall) : Prop :=
  ∀ asset amount, call.amount? = some (asset, amount) →
    amount.toNat < 2 ^ 128 ∨ call.mayBeEntire = true ∧ amount = Word.max

def DeadlineFits (call : PackedCall) : Prop :=
  ∀ deadline, call.deadline? = some deadline → deadline.toNat < 2 ^ 32

theorem exists_narrowAmount {mayBeEntire : Bool} {amount : Word}
    (fits : amount.toNat < 2 ^ 128 ∨ mayBeEntire = true ∧ amount = Word.max) :
    ∃ narrow, narrowAmount mayBeEntire amount = .ok narrow := by
  by_cases entire : mayBeEntire = true ∧ amount = Word.max
  · exact ⟨_, if_pos entire⟩
  · refine ⟨_, (if_neg entire).trans (if_pos (fits.resolve_right entire))⟩

theorem narrowAmount_eq_error {mayBeEntire : Bool} {amount : Word}
    (tooLarge : ¬ (amount.toNat < 2 ^ 128 ∨ mayBeEntire = true ∧ amount = Word.max)) :
    narrowAmount mayBeEntire amount = .error (.amountOverflow amount.toDecimal) := by
  rw [not_or] at tooLarge
  rw [narrowAmount, if_neg tooLarge.2, if_neg tooLarge.1]

theorem exists_narrowDeadline {deadline : UInt64} (small : deadline.toNat < 2 ^ 32) :
    ∃ narrow, narrowDeadline deadline = .ok narrow :=
  ⟨_, if_pos small⟩

theorem encode_none_of_not_amountFits {call : PackedCall} {asset : UInt16} {amount : Word}
    (has : call.amount? = some (asset, amount)) (tooLarge : ¬ call.AmountFits) :
    call.encode none = .error (.amountOverflow amount.toDecimal) := by
  have fault : narrowAmount call.mayBeEntire amount = .error (.amountOverflow amount.toDecimal) :=
    narrowAmount_eq_error fun fits => tooLarge fun _ _ found => by
      rw [has] at found
      cases found
      exact fits
  cases call <;> cases has <;> simp only [ReserveAction.mayBeEntire] at fault <;>
    simp only [encode, firstWord, encodeAround, coverageWord, fault] <;> rfl

theorem encode_none_of_not_deadlineFits {call : PackedCall} {deadline : UInt64}
    (has : call.deadline? = some deadline) (fits : call.AmountFits)
    (tooLate : ¬ call.DeadlineFits) :
    call.encode none = .error (.invalidValue "deadline" (.deadlineTooWide deadline)) := by
  have fault : narrowDeadline deadline =
      .error (.invalidValue "deadline" (.deadlineTooWide deadline)) :=
    if_neg fun small => tooLate fun _ found => by
      rw [has] at found
      cases found
      exact small
  cases call <;> cases has <;> rcases exists_narrowAmount (fits _ _ rfl) with ⟨narrow, narrows⟩ <;>
    simp only [ReserveAction.mayBeEntire] at narrows <;>
    simp only [encode, firstWord, encodeAround, narrows, fault] <;> rfl

theorem exists_encode_none {call : PackedCall} (amountFits : call.AmountFits)
    (deadlineFits : call.DeadlineFits) : ∃ data, call.encode none = .ok data := by
  cases call with
  | supply | withdraw | borrow | repay | liquidationCall =>
      rcases exists_narrowAmount (amountFits _ _ rfl) with ⟨narrow, narrows⟩
      simp only [ReserveAction.mayBeEntire] at narrows
      simp only [encode, firstWord, encodeAround, coverageWord, narrows]
      exact ⟨_, rfl⟩
  | supplyWithPermit | repayWithPermit =>
      rcases exists_narrowAmount (amountFits _ _ rfl) with ⟨narrow, narrows⟩
      rcases exists_narrowDeadline (deadlineFits _ rfl) with ⟨deadline, ends⟩
      simp only [ReserveAction.mayBeEntire] at narrows
      simp only [encode, firstWord, encodeAround, narrows, ends]
      exact ⟨_, rfl⟩
  | swapBorrowRateMode | setUsageAsCollateral => exact ⟨_, rfl⟩

/-! ## What is written -/

theorem narrowAmount_rereadAmount (mayBeEntire : Bool) (amount : Word) :
    narrowAmount mayBeEntire (rereadAmount mayBeEntire amount) =
      narrowAmount mayBeEntire amount := by
  rw [rereadAmount]
  split
  · rename_i largest
    have other : amount ≠ Word.max := by
      rintro rfl
      exact absurd largest.2 (by decide)
    rw [narrowAmount, if_pos ⟨largest.1, rfl⟩, narrowAmount, if_neg fun entire => other entire.2,
      largest.2, if_pos (by decide)]
    rfl
  · rfl

theorem encode_none_reread (call : PackedCall) : call.reread.encode none = call.encode none := by
  cases call <;> simp only [reread, ReserveAction.convertAmount, ReserveAction.mayBeEntire, Id.run,
    bind, pure, encode, firstWord, encodeAround, coverageWord, narrowAmount_rereadAmount]

theorem format_reread (call : PackedCall) : call.reread.format = call.format := by
  cases call <;> rfl

theorem clear_of_encode {call : PackedCall} {data : Bytes} (encodes : call.encode none = .ok data) :
    call.format.Clear data := by
  rcases exists_encode_of_decode (decode_encode encodes) with ⟨again, encodesAgain, -, unchanged⟩
  rw [encode_none_reread, encodes, Except.ok.injEq] at encodesAgain
  rw [← format_reread]
  exact unchanged.mp encodesAgain.symm

theorem encode_eq_encode_iff {call other : PackedCall} {data otherData : Bytes}
    (encodes : call.encode none = .ok data) (encodesOther : other.encode none = .ok otherData) :
    otherData = data ↔ other.reread = call.reread := by
  constructor
  · rintro rfl
    exact Except.ok.inj ((decode_encode encodesOther).symm.trans (decode_encode encodes))
  · intro same
    rw [← encode_none_reread, same, encode_none_reread, encodes] at encodesOther
    exact (Except.ok.inj encodesOther).symm

theorem rereadAmount_eq_self_iff {mayBeEntire : Bool} {amount : Word} :
    rereadAmount mayBeEntire amount = amount ↔
      ¬ (mayBeEntire = true ∧ amount.toNat = 2 ^ 128 - 1) := by
  rw [rereadAmount]
  split
  · rename_i largest
    refine iff_of_false (fun same => ?_) (not_not_intro largest)
    rw [← same] at largest
    exact absurd largest.2 (by decide)
  · rename_i other
    exact iff_of_true rfl other

/-- Only the largest amount of the field, where the whole balance may be asked for, is not read
back. -/
theorem reread_eq_self_iff {call : PackedCall} :
    call.reread = call ↔ ¬ (call.mayBeEntire = true ∧
      ∃ asset amount, call.amount? = some (asset, amount) ∧ amount.toNat = 2 ^ 128 - 1) := by
  cases call <;> simp only [reread, ReserveAction.convertAmount, ReserveAction.mayBeEntire,
    ReserveAction.amount?, Id.run, bind, pure] <;> simp [rereadAmount_eq_self_iff]

/-! ### Fields in their places -/

def heldAmount (mayBeEntire : Bool) (amount : Word) : Nat :=
  if mayBeEntire ∧ amount = Word.max then 2 ^ 128 - 1 else amount.toNat

def fieldNumbers : PackedCall → List Nat
  | .supply id amount code => [id.toNat, heldAmount false amount, code.toNat]
  | .supplyWithPermit id amount code ⟨deadline, signature⟩ =>
      [id.toNat, heldAmount false amount, code.toNat, deadline.toNat, signature.v.toNat,
        signature.r.toNat, signature.s.toNat]
  | .withdraw id amount => [id.toNat, heldAmount true amount]
  | .borrow id amount mode code => [id.toNat, heldAmount false amount, mode.toNat, code.toNat]
  | .repay id amount mode => [id.toNat, heldAmount true amount, mode.toNat]
  | .repayWithPermit id amount mode ⟨deadline, signature⟩ =>
      [id.toNat, heldAmount true amount, mode.toNat, deadline.toNat, signature.v.toNat,
        signature.r.toNat, signature.s.toNat]
  | .swapBorrowRateMode id mode => [id.toNat, mode.toNat]
  | .setUsageAsCollateral id use => [id.toNat, use.toNat]
  | .liquidationCall collateral debt user amount receiveAToken =>
      [collateral.toNat, debt.toNat, user.bits.toNat, heldAmount true amount, receiveAToken.toNat]

end PackedCall

def PackedField.read (data : Bytes) (field : PackedField) : Nat :=
  (argumentWord data field.word).toNat / 2 ^ field.offset % 2 ^ field.width

namespace PackedCall

theorem toNat_of_narrowAmount {mayBeEntire : Bool} {amount : Word} {narrow : BitVec 128}
    (narrows : narrowAmount mayBeEntire amount = .ok narrow) :
    narrow.toNat = heldAmount mayBeEntire amount := by
  rw [heldAmount]
  rw [narrowAmount] at narrows
  split at narrows <;> rename_i entire
  · cases narrows
    rw [if_pos entire]
    rfl
  · split at narrows
    · rename_i small
      cases narrows
      rw [if_neg entire, BitVec.toNat_ofNat, Nat.mod_eq_of_lt small]
    · cases narrows

theorem toNat_of_narrowDeadline {deadline : UInt64} {narrow : BitVec 32}
    (narrows : narrowDeadline deadline = .ok narrow) : narrow.toNat = deadline.toNat := by
  rw [narrowDeadline] at narrows
  split at narrows
  · rename_i small
    cases narrows
    rw [BitVec.toNat_ofNat, Nat.mod_eq_of_lt small]
  · cases narrows

theorem toNat_flagBit (flag : Bool) : (flagBit flag).toNat = flag.toNat := by
  cases flag <;> rfl

theorem argumentWord_encode {method : Method} (plain : method.isPlain = true)
    (values : Arguments method.inputs) (index : Nat) :
    argumentWord (method.encode values) index =
      (plainWords method.inputs values)[index]?.getD 0 := by
  rw [Method.encode_of_isPlain plain]
  exact argumentWord_append (beq_iff_eq.mp (Bool.and_eq_true_iff.mp plain).1) _ _

section

variable {method : Method} {values : Arguments method.inputs} {data : Bytes}

theorem read_slots (plain : method.isPlain = true) (spelled : method.encode values = data)
    (index : Nat) (widths : List Nat) (fit : PackedFields.size widths ≤ 256)
    {fields : PackedFields widths}
    (found : (plainWords method.inputs values)[index]? = some (PackedFields.toWord widths fields)) :
    ((PackedFields.slots 0 widths).map fun (offset, width) =>
      PackedField.read data ⟨index, offset, width⟩) = PackedFields.numbers widths fields := by
  have place := argumentWord_encode plain values index
  rw [found, Option.getD_some, spelled] at place
  rw [← PackedFields.numbers_toWord fit, ← place]
  rfl

theorem read_word (plain : method.isPlain = true) (spelled : method.encode values = data)
    (index : Nat) {word : Word} (found : (plainWords method.inputs values)[index]? = some word) :
    PackedField.read data ⟨index, 0, 256⟩ = word.toNat := by
  rw [PackedField.read, ← spelled, argumentWord_encode plain, found, Option.getD_some, Nat.pow_zero,
    Nat.div_one]
  exact Nat.mod_eq_of_lt word.isLt

end

theorem read_encode {call : PackedCall} {data : Bytes} (encodes : call.encode none = .ok data) :
    call.format.fields.map (PackedField.read data) = call.fieldNumbers := by
  rcases encode_none_eq_ok_iff.mp encodes with ⟨first, packs, surrounds⟩
  cases call with
    simp only [firstWord, bind_eq_ok_iff, pure, Except.pure, Except.ok.injEq] at packs
  | supply id amount code =>
      rcases packs with ⟨narrow, narrows, rfl⟩
      rw [fieldNumbers, ← toNat_of_narrowAmount narrows]
      exact read_slots rfl (Except.ok.inj surrounds) 0 PackedLayout.supply (by decide) rfl
  | supplyWithPermit id amount code permit =>
      rcases packs with ⟨narrow, narrows, deadline, ends, rfl⟩
      have spelled := Except.ok.inj surrounds
      have first := read_slots rfl spelled 0 PackedLayout.supplyWithPermit (by decide) rfl
      rw [fieldNumbers, ← toNat_of_narrowAmount narrows, ← toNat_of_narrowDeadline ends]
      exact congrArg₂ List.append first
        (congrArg₂ List.cons (read_word rfl spelled 1 rfl)
          (congrArg₂ List.cons (read_word rfl spelled 2 rfl) rfl))
  | withdraw id amount =>
      rcases packs with ⟨narrow, narrows, rfl⟩
      rw [fieldNumbers, ← toNat_of_narrowAmount narrows]
      exact read_slots rfl (Except.ok.inj surrounds) 0 PackedLayout.withdraw (by decide) rfl
  | borrow id amount mode code =>
      rcases packs with ⟨narrow, narrows, rfl⟩
      rw [fieldNumbers, ← toNat_of_narrowAmount narrows]
      exact read_slots rfl (Except.ok.inj surrounds) 0 PackedLayout.borrow (by decide) rfl
  | repay id amount mode =>
      rcases packs with ⟨narrow, narrows, rfl⟩
      rw [fieldNumbers, ← toNat_of_narrowAmount narrows]
      exact read_slots rfl (Except.ok.inj surrounds) 0 PackedLayout.repay (by decide) rfl
  | repayWithPermit id amount mode permit =>
      rcases packs with ⟨narrow, narrows, deadline, ends, rfl⟩
      have spelled := Except.ok.inj surrounds
      have first := read_slots rfl spelled 0 PackedLayout.repayWithPermit (by decide) rfl
      rw [fieldNumbers, ← toNat_of_narrowAmount narrows, ← toNat_of_narrowDeadline ends]
      exact congrArg₂ List.append first
        (congrArg₂ List.cons (read_word rfl spelled 1 rfl)
          (congrArg₂ List.cons (read_word rfl spelled 2 rfl) rfl))
  | swapBorrowRateMode id mode =>
      rcases packs with rfl
      exact read_slots rfl (Except.ok.inj surrounds) 0 PackedLayout.swapBorrowRateMode
        (by decide) rfl
  | setUsageAsCollateral id use =>
      rcases packs with rfl
      rw [fieldNumbers, ← toNat_flagBit]
      exact read_slots rfl (Except.ok.inj surrounds) 0 PackedLayout.setUsageAsCollateral
        (by decide) rfl
  | liquidationCall collateral debt user amount receiveAToken =>
      rcases packs with rfl
      rcases bind_eq_ok_iff.mp surrounds with ⟨second, covers, surrounds⟩
      rcases bind_eq_ok_iff.mp covers with ⟨narrow, narrows, covers⟩
      cases covers
      have spelled := Except.ok.inj surrounds
      rw [fieldNumbers, ← toNat_of_narrowAmount narrows, ← toNat_flagBit]
      exact congrArg₂ List.append
        (read_slots rfl spelled 0 PackedLayout.liquidation (by decide) rfl)
        (read_slots rfl spelled 1 PackedLayout.coverage (by decide) rfl)

/-- Reading undoes writing, up to the one amount that stands for the whole balance. -/
theorem decode_undoes_encode (call : PackedCall) :
    ((∃ data, call.encode none = .ok data) ↔ call.AmountFits ∧ call.DeadlineFits) ∧
    (∀ asset amount, call.amount? = some (asset, amount) → ¬ call.AmountFits →
      call.encode none = .error (.amountOverflow amount.toDecimal)) ∧
    (∀ deadline, call.deadline? = some deadline → call.AmountFits → ¬ call.DeadlineFits →
      call.encode none = .error (.invalidValue "deadline" (.deadlineTooWide deadline))) ∧
    (call.reread = call ↔ ¬ (call.mayBeEntire = true ∧
      ∃ asset amount, call.amount? = some (asset, amount) ∧ amount.toNat = 2 ^ 128 - 1)) ∧
    ∀ data, call.encode none = .ok data →
      decode data = .ok call.reread ∧
      call.format.Frames data ∧ call.format.fields.map (PackedField.read data) = call.fieldNumbers ∧
      call.format.Clear data ∧
      ∀ (other : PackedCall) (otherData : Bytes), other.encode none = .ok otherData →
        (otherData = data ↔ other.reread = call.reread) := by
  refine ⟨⟨?_, fun ⟨amountFits, deadlineFits⟩ => exists_encode_none amountFits deadlineFits⟩,
    fun _ _ => encode_none_of_not_amountFits, fun _ => encode_none_of_not_deadlineFits,
    reread_eq_self_iff, fun data encodes => ?_⟩
  · rintro ⟨data, encodes⟩
    have amountFits : call.AmountFits := fun asset amount has => by
      by_contra tooLarge
      have fault := encode_none_of_not_amountFits has fun fits => tooLarge (fits _ _ has)
      rw [fault] at encodes
      cases encodes
    refine ⟨amountFits, fun deadline has => ?_⟩
    by_contra tooLate
    have fault := encode_none_of_not_deadlineFits has amountFits fun fits => tooLate (fits _ has)
    rw [fault] at encodes
    cases encodes
  · have reads := decode_encode encodes
    have frames := frames_of_decode reads
    rw [format_reread] at frames
    exact ⟨reads, frames, read_encode encodes, clear_of_encode encodes,
      fun _ _ => encode_eq_encode_iff encodes⟩

/-- A repayment of the whole balance and one of the largest amount of the field. -/
theorem decode_undoes_encode_entire :
    encode (.repay 1 Word.max 2) none = encode (.repay 1 (Word.ofNat (2 ^ 128 - 1)) 2) none ∧
    (∃ data, encode (.repay 1 Word.max 2) none = .ok data ∧
      decode data = .ok (.repay 1 Word.max 2)) ∧
    encode (.supply 1 Word.max 0) none = .error (.amountOverflow Word.max.toDecimal) := by
  have entire := decode_undoes_encode (.repay 1 Word.max 2)
  have largest := decode_undoes_encode (.repay 1 (Word.ofNat (2 ^ 128 - 1)) 2)
  rcases entire.1.mpr ⟨fun _ _ has => by cases has; exact .inr ⟨rfl, rfl⟩, nofun⟩ with
    ⟨data, encodes⟩
  rcases largest.1.mpr ⟨fun _ _ has => by cases has; exact .inl (by decide), nofun⟩ with
    ⟨other, encodesOther⟩
  have same := ((entire.2.2.2.2 data encodes).2.2.2.2 _ _ encodesOther).mpr (by decide +kernel)
  refine ⟨by rw [encodes, encodesOther, same], ⟨data, encodes, ?_⟩, ?_⟩
  · exact (entire.2.2.2.2 data encodes).1.trans (by decide +kernel)
  · refine (decode_undoes_encode (.supply 1 Word.max 0)).2.1 1 Word.max rfl fun fits => ?_
    exact absurd (fits 1 Word.max rfl) (by decide)

end PackedCall

end LendingPool
