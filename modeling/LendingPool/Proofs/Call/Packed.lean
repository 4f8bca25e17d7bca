import LendingPool.Call.Packed
import LendingPool.Proofs.Abi.RoundTrip
/-! Packed calls that are written and read back. What is read is the call that was written, except
that the largest amount of the field is read as the whole balance where that may be asked for. -/

namespace LendingPool

/-! ## Fields -/

namespace PackedFields

def size : (widths : List Nat) → Nat
  | [] => 0
  | width :: widths => width + size widths

theorem toNat_lt (widths : List Nat) (fields : PackedFields widths) :
    toNat widths fields < 2 ^ size widths := by
  induction widths with
  | nil => exact Nat.one_pos
  | cons width widths induction =>
      rcases fields with ⟨field, fields⟩
      have rest := Nat.mul_le_mul_left (2 ^ width) (induction fields)
      have bound := field.isLt
      rw [Nat.mul_succ] at rest
      rw [toNat, size, Nat.pow_add]
      omega

theorem ofNat_toNat (widths : List Nat) (fields : PackedFields widths) :
    ofNat widths (toNat widths fields) = fields := by
  induction widths with
  | nil => rfl
  | cons width widths induction =>
      rcases fields with ⟨field, fields⟩
      have first : BitVec.ofNat width (field.toNat + 2 ^ width * toNat widths fields) = field := by
        apply BitVec.eq_of_toNat_eq
        rw [BitVec.toNat_ofNat, Nat.add_mul_mod_self_left, Nat.mod_eq_of_lt field.isLt]
      have rest : (field.toNat + 2 ^ width * toNat widths fields) / 2 ^ width =
          toNat widths fields := by
        rw [Nat.add_mul_div_left _ _ (Nat.two_pow_pos width), Nat.div_eq_of_lt field.isLt,
          Nat.zero_add]
      rw [toNat, ofNat, first, rest, induction]

theorem ofWord_toWord {widths : List Nat} (fit : size widths ≤ 256)
    (fields : PackedFields widths) : ofWord widths (toWord widths fields) = fields := by
  have bound := Nat.lt_of_lt_of_le (toNat_lt widths fields)
    (Nat.pow_le_pow_right Nat.two_pos fit)
  rw [ofWord, toWord, Word.toNat_ofNat_of_lt bound, ofNat_toNat]

end PackedFields

/-! ## Amounts and deadlines -/

theorem bind_eq_ok_iff {ε α β : Type} {first : Except ε α} {next : α → Except ε β} {result : β} :
    first >>= next = .ok result ↔ ∃ value, first = .ok value ∧ next value = .ok result := by
  cases first with
  | error fault => exact ⟨nofun, nofun⟩
  | ok value => exact ⟨fun equal => ⟨value, rfl, equal⟩, fun ⟨_, rfl, equal⟩ => equal⟩

def rereadAmount (mayBeEntire : Bool) (amount : Word) : Word :=
  if mayBeEntire ∧ amount.toNat = 2 ^ 128 - 1 then Word.max else amount

theorem widenAmount_of_narrowAmount {mayBeEntire : Bool} {amount : Word} {narrow : BitVec 128}
    (narrows : narrowAmount mayBeEntire amount = .ok narrow) :
    widenAmount mayBeEntire narrow = rereadAmount mayBeEntire amount := by
  rw [narrowAmount] at narrows
  split at narrows
  · rename_i entire
    cases narrows
    rw [widenAmount, if_pos ⟨entire.1, rfl⟩, rereadAmount, entire.2, ite_self]
  · split at narrows
    · rename_i small
      cases narrows
      have kept : (BitVec.ofNat 128 amount.toNat).toNat = amount.toNat := by
        rw [BitVec.toNat_ofNat, Nat.mod_eq_of_lt small]
      have largest : BitVec.ofNat 128 amount.toNat = BitVec.allOnes 128 ↔
          amount.toNat = 2 ^ 128 - 1 := by
        rw [← BitVec.toNat_inj, kept, BitVec.toNat_allOnes]
      simp only [widenAmount, rereadAmount, largest]
      rw [kept, Word.ofNat, BitVec.ofNat_toNat, BitVec.setWidth_eq]
    · cases narrows

theorem widenDeadline_of_narrowDeadline {deadline : UInt64} {narrow : BitVec 32}
    (narrows : narrowDeadline deadline = .ok narrow) : widenDeadline narrow = deadline := by
  rw [narrowDeadline] at narrows
  split at narrows
  · rename_i small
    cases narrows
    rw [widenDeadline, BitVec.toNat_ofNat, Nat.mod_eq_of_lt small, UInt64.ofNat_toNat]
  · cases narrows

theorem flagBit_ne_zero (flag : Bool) : (flagBit flag != 0) = flag := by
  cases flag <;> rfl

def ReserveAction.mayBeEntire {Reserve Quantity : Type} : ReserveAction Reserve Quantity → Bool
  | withdraw .. | repay .. | repayWithPermit .. | liquidationCall .. => true
  | _ => false

namespace PackedCall

open Abi

/-- What a call is read back as. -/
def reread (call : PackedCall) : PackedCall :=
  Id.run (call.convertAmount fun _ amount => pure (rereadAmount call.mayBeEntire amount))

/-! ## Calls -/

theorem nodup_selectors : (forms.map fun form => form.method.selector).Nodup := by
  decide +kernel

theorem decode_encode_form (index : Nat) {form : Form PackedCall}
    (found : forms[index]? = some form) {values : Arguments form.method.inputs} {call : PackedCall}
    (builds : form.build values = call) : decode (form.method.encode values) = .ok call := by
  have regular : forms.all (fun form => form.method.readable &&
      form.method.inputs.all ParameterType.isStatic &&
      form.method.selector.length + headSize form.method.inputs ≤ 260) = true := rfl
  have member := List.mem_of_getElem? found
  have regular := List.all_eq_true.mp regular form member
  simp only [Bool.and_eq_true, decide_eq_true_eq] at regular
  have length := Method.length_encode_of_isStatic regular.1.2 values
  rw [decode, decodeForms?_encode nodup_selectors member regular.1.1 values (by omega), builds]

theorem encode_none_eq_ok_iff {call : PackedCall} {data : Bytes} :
    call.encode none = .ok data ↔
      ∃ first, call.firstWord = .ok first ∧ encodeAround first call = .ok data :=
  bind_eq_ok_iff

theorem decode_encode {call : PackedCall} {data : Bytes} (encodes : call.encode none = .ok data) :
    decode data = .ok call.reread := by
  rcases encode_none_eq_ok_iff.mp encodes with ⟨first, packs, surrounds⟩
  cases call with simp only [firstWord, bind_eq_ok_iff, pure, Except.pure, Except.ok.injEq] at packs
  | supply id amount code =>
      rcases packs with ⟨narrow, narrows, rfl⟩
      cases surrounds
      apply decode_encode_form 0 rfl
      simp (disch := decide) only [PackedFields.ofWord_toWord, widenAmount_of_narrowAmount narrows]
      rfl
  | supplyWithPermit id amount code permit =>
      rcases packs with ⟨narrow, narrows, deadline, ends, rfl⟩
      cases surrounds
      apply decode_encode_form 1 rfl
      simp (disch := decide) only [PackedFields.ofWord_toWord, widenAmount_of_narrowAmount narrows,
        widenDeadline_of_narrowDeadline ends]
      rfl
  | withdraw id amount =>
      rcases packs with ⟨narrow, narrows, rfl⟩
      cases surrounds
      apply decode_encode_form 2 rfl
      simp (disch := decide) only [PackedFields.ofWord_toWord, widenAmount_of_narrowAmount narrows]
      rfl
  | borrow id amount mode code =>
      rcases packs with ⟨narrow, narrows, rfl⟩
      cases surrounds
      apply decode_encode_form 3 rfl
      simp (disch := decide) only [PackedFields.ofWord_toWord, widenAmount_of_narrowAmount narrows]
      rfl
  | repay id amount mode =>
      rcases packs with ⟨narrow, narrows, rfl⟩
      cases surrounds
      apply decode_encode_form 4 rfl
      simp (disch := decide) only [PackedFields.ofWord_toWord, widenAmount_of_narrowAmount narrows]
      rfl
  | repayWithPermit id amount mode permit =>
      rcases packs with ⟨narrow, narrows, deadline, ends, rfl⟩
      cases surrounds
      apply decode_encode_form 5 rfl
      simp (disch := decide) only [PackedFields.ofWord_toWord, widenAmount_of_narrowAmount narrows,
        widenDeadline_of_narrowDeadline ends]
      rfl
  | swapBorrowRateMode id mode =>
      rcases packs with rfl
      cases surrounds
      apply decode_encode_form 6 rfl
      simp (disch := decide) only [PackedFields.ofWord_toWord]
      rfl
  | setUsageAsCollateral id use =>
      rcases packs with rfl
      cases surrounds
      apply decode_encode_form 7 rfl
      simp (disch := decide) only [PackedFields.ofWord_toWord, flagBit_ne_zero]
      rfl
  | liquidationCall collateral debt user amount receiveAToken =>
      cases packs
      rcases bind_eq_ok_iff.mp surrounds with ⟨second, covers, surrounds⟩
      rcases bind_eq_ok_iff.mp covers with ⟨narrow, narrows, covers⟩
      cases covers
      cases surrounds
      apply decode_encode_form 8 rfl
      simp (disch := decide) only [PackedFields.ofWord_toWord,
        widenAmount_of_narrowAmount narrows, flagBit_ne_zero]
      rfl

end PackedCall

end LendingPool
