import LendingPool.Proofs.Call.Format
/-! Call data that is read as a packed call. It is read exactly if it has the format of some call,
and the call is then written again with the bits that its fields take up and no others. -/

namespace LendingPool

open Abi

/-! ## Fields that are read and written again -/

theorem narrowAmount_widenAmount (mayBeEntire : Bool) (amount : BitVec 128) :
    narrowAmount mayBeEntire (widenAmount mayBeEntire amount) = .ok amount := by
  have small : amount.toNat < 2 ^ 256 := Nat.lt_trans amount.isLt (by decide)
  have kept : (Word.ofNat amount.toNat).toNat = amount.toNat := Word.toNat_ofNat_of_lt small
  rw [widenAmount]
  split
  · rename_i largest
    rw [narrowAmount, if_pos ⟨largest.1, rfl⟩, largest.2]
  · have other : Word.ofNat amount.toNat ≠ Word.max := by
      intro same
      have same := congrArg BitVec.toNat same
      rw [kept, Word.max, BitVec.toNat_allOnes] at same
      omega
    rw [narrowAmount, if_neg fun entire => other entire.2, kept, if_pos amount.isLt,
      BitVec.ofNat_toNat, BitVec.setWidth_eq]

theorem narrowDeadline_widenDeadline (deadline : BitVec 32) :
    narrowDeadline (widenDeadline deadline) = .ok deadline := by
  have kept : (widenDeadline deadline).toNat = deadline.toNat :=
    UInt64.toNat_ofNat_of_lt (Nat.lt_trans deadline.isLt (by decide))
  rw [narrowDeadline, kept, if_pos deadline.isLt, BitVec.ofNat_toNat, BitVec.setWidth_eq]

theorem flagBit_bne_zero (bit : BitVec 1) : flagBit (bit != 0) = bit := by
  revert bit
  decide

namespace PackedCall

theorem all_isPlain_forms : forms.all (fun form => form.method.isPlain) = true := by
  decide

theorem encode_of_firstWord {call : PackedCall} {first : Word} (method : Method)
    (values : Arguments method.inputs) (plain : method.isPlain = true)
    (packs : call.firstWord = .ok first)
    (surrounds : encodeAround first call = .ok (method.encode values)) :
    call.encode none = .ok (method.selector ++ wordBytes (plainWords method.inputs values)) := by
  rw [← Method.encode_of_isPlain plain]
  exact encode_none_eq_ok_iff.mpr ⟨first, packs, surrounds⟩

theorem encode_build {form : Form PackedCall} (member : form ∈ forms)
    (values : Arguments form.method.inputs) :
    (form.build values).format.method = form.method ∧
      (form.build values).encode none = .ok (form.method.selector ++ wordBytes
        (List.zipWith Word.low (form.build values).format.sizes
          (plainWords form.method.inputs values))) := by
  simp only [forms, List.mem_cons, List.not_mem_nil, or_false] at member
  rcases member with rfl | rfl | rfl | rfl | rfl | rfl | rfl | rfl | rfl
  · rcases values with ⟨first, ⟨⟩⟩
    rcases PackedFields.exists_ofWord PackedLayout.supply first with
      ⟨⟨id, amount, code, ⟨⟩⟩, read, kept⟩
    simp only [read]
    refine ⟨rfl, encode_of_firstWord PackedMethod.supply (first.low 160, ()) rfl ?_ rfl⟩
    rw [firstWord, narrowAmount_widenAmount]
    exact congrArg Except.ok kept
  · rcases values with ⟨first, r, s, ⟨⟩⟩
    rcases PackedFields.exists_ofWord PackedLayout.supplyWithPermit first with
      ⟨⟨id, amount, code, deadline, v, ⟨⟩⟩, read, kept⟩
    simp only [read]
    refine ⟨rfl, ?_⟩
    change _ = Except.ok (_ ++ wordBytes [first.low 200, r.low 256, s.low 256])
    rw [Word.low_256, Word.low_256]
    refine encode_of_firstWord PackedMethod.supplyWithPermit (first.low 200, r, s, ()) rfl ?_ rfl
    rw [firstWord, narrowAmount_widenAmount]
    simp only [narrowDeadline_widenDeadline]
    exact congrArg Except.ok kept
  · rcases values with ⟨first, ⟨⟩⟩
    rcases PackedFields.exists_ofWord PackedLayout.withdraw first with
      ⟨⟨id, amount, ⟨⟩⟩, read, kept⟩
    simp only [read]
    refine ⟨rfl, encode_of_firstWord PackedMethod.withdraw (first.low 144, ()) rfl ?_ rfl⟩
    rw [firstWord, narrowAmount_widenAmount]
    exact congrArg Except.ok kept
  · rcases values with ⟨first, ⟨⟩⟩
    rcases PackedFields.exists_ofWord PackedLayout.borrow first with
      ⟨⟨id, amount, mode, code, ⟨⟩⟩, read, kept⟩
    simp only [read]
    refine ⟨rfl, encode_of_firstWord PackedMethod.borrow (first.low 168, ()) rfl ?_ rfl⟩
    rw [firstWord, narrowAmount_widenAmount]
    exact congrArg Except.ok kept
  · rcases values with ⟨first, ⟨⟩⟩
    rcases PackedFields.exists_ofWord PackedLayout.repay first with
      ⟨⟨id, amount, mode, ⟨⟩⟩, read, kept⟩
    simp only [read]
    refine ⟨rfl, encode_of_firstWord PackedMethod.repay (first.low 152, ()) rfl ?_ rfl⟩
    rw [firstWord, narrowAmount_widenAmount]
    exact congrArg Except.ok kept
  · rcases values with ⟨first, r, s, ⟨⟩⟩
    rcases PackedFields.exists_ofWord PackedLayout.repayWithPermit first with
      ⟨⟨id, amount, mode, deadline, v, ⟨⟩⟩, read, kept⟩
    simp only [read]
    refine ⟨rfl, ?_⟩
    change _ = Except.ok (_ ++ wordBytes [first.low 192, r.low 256, s.low 256])
    rw [Word.low_256, Word.low_256]
    refine encode_of_firstWord PackedMethod.repayWithPermit (first.low 192, r, s, ()) rfl ?_ rfl
    rw [firstWord, narrowAmount_widenAmount]
    simp only [narrowDeadline_widenDeadline]
    exact congrArg Except.ok kept
  · rcases values with ⟨first, ⟨⟩⟩
    rcases PackedFields.exists_ofWord PackedLayout.swapBorrowRateMode first with
      ⟨⟨id, mode, ⟨⟩⟩, read, kept⟩
    simp only [read]
    exact ⟨rfl, encode_of_firstWord PackedMethod.swapBorrowRateMode (first.low 24, ()) rfl
      (congrArg Except.ok kept) rfl⟩
  · rcases values with ⟨first, ⟨⟩⟩
    rcases PackedFields.exists_ofWord PackedLayout.setUsageAsCollateral first with
      ⟨⟨id, use, ⟨⟩⟩, read, kept⟩
    simp only [read]
    refine ⟨rfl, encode_of_firstWord PackedMethod.setUsageAsCollateral (first.low 17, ()) rfl ?_
      rfl⟩
    rw [firstWord, flagBit_bne_zero]
    exact congrArg Except.ok kept
  · rcases values with ⟨first, second, ⟨⟩⟩
    rcases PackedFields.exists_ofWord PackedLayout.liquidation first with
      ⟨⟨collateral, debt, user, ⟨⟩⟩, read, kept⟩
    rcases PackedFields.exists_ofWord PackedLayout.coverage second with
      ⟨⟨amount, receiveAToken, ⟨⟩⟩, readCoverage, keptCoverage⟩
    simp only [read, readCoverage]
    refine ⟨rfl, encode_of_firstWord PackedMethod.liquidationCall
      (first.low 192, second.low 129, ()) rfl (congrArg Except.ok kept) ?_⟩
    rw [encodeAround, coverageWord, narrowAmount_widenAmount, flagBit_bne_zero]
    exact congrArg
      (fun word => Except.ok (PackedMethod.liquidationCall.encode (first.low 192, word, ())))
      keptCoverage

/-! ## Reading and writing -/

theorem rereadAmount_widenAmount (mayBeEntire : Bool) (amount : BitVec 128) :
    rereadAmount mayBeEntire (widenAmount mayBeEntire amount) = widenAmount mayBeEntire amount :=
  (widenAmount_of_narrowAmount (narrowAmount_widenAmount mayBeEntire amount)).symm

theorem reread_of_build {form : Form PackedCall} (member : form ∈ forms)
    (values : Arguments form.method.inputs) : (form.build values).reread = form.build values := by
  simp only [forms, List.mem_cons, List.not_mem_nil, or_false] at member
  rcases member with rfl | rfl | rfl | rfl | rfl | rfl | rfl | rfl | rfl
  · exact congrArg (ReserveAction.supply _ · _) (rereadAmount_widenAmount false _)
  · exact congrArg (ReserveAction.supplyWithPermit _ · _ _) (rereadAmount_widenAmount false _)
  · exact congrArg (ReserveAction.withdraw _ ·) (rereadAmount_widenAmount true _)
  · exact congrArg (ReserveAction.borrow _ · _ _) (rereadAmount_widenAmount false _)
  · exact congrArg (ReserveAction.repay _ · _) (rereadAmount_widenAmount true _)
  · exact congrArg (ReserveAction.repayWithPermit _ · _ _) (rereadAmount_widenAmount true _)
  · rfl
  · rfl
  · exact congrArg (ReserveAction.liquidationCall _ _ _ · _) (rereadAmount_widenAmount true _)

theorem decode_eq_ok_iff {data : Bytes} {call : PackedCall} :
    decode data = .ok call ↔ ∃ form ∈ forms, ∃ values, form.build values = call ∧
      data = form.method.selector ++ wordBytes (plainWords form.method.inputs values) := by
  rw [← decodeForms?_eq_some_iff nodup_selectors all_isPlain_forms, decode]
  cases decodeForms? forms data <;> simp

theorem mem_all_format (call : PackedCall) : call.format ∈ PackedFormat.all := by
  cases call <;> simp [format, PackedFormat.all]

theorem map_method_forms : forms.map Form.method = PackedFormat.all.map PackedFormat.method :=
  rfl

theorem exists_words_of_decode {data : Bytes} {call : PackedCall}
    (reads : decode data = .ok call) :
    call.reread = call ∧ ∃ words : List Word, words.length = call.format.sizes.length ∧
      data = call.format.method.selector ++ wordBytes words ∧
      call.encode none = .ok (call.format.method.selector ++
        wordBytes (List.zipWith Word.low call.format.sizes words)) := by
  rcases decode_eq_ok_iff.mp reads with ⟨form, member, values, rfl, spelled⟩
  rcases encode_build member values with ⟨sameMethod, encodes⟩
  refine ⟨reread_of_build member values, plainWords form.method.inputs values, ?_, ?_, ?_⟩
  · have plain := List.all_eq_true.mp all_isPlain_forms form member
    rw [Method.isPlain, Bool.and_eq_true] at plain
    rw [length_plainWords plain.2, ← sameMethod, PackedFormat.length_inputs (mem_all_format _)]
  · rw [sameMethod]
    exact spelled
  · rw [sameMethod]
    exact encodes

theorem exists_decode_iff {data : Bytes} :
    (∃ call, decode data = .ok call) ↔ ∃ format ∈ PackedFormat.all, format.Frames data := by
  constructor
  · rintro ⟨call, reads⟩
    rcases exists_words_of_decode reads with ⟨-, words, counted, spelled, -⟩
    exact ⟨call.format, mem_all_format call,
      (PackedFormat.frames_iff (mem_all_format call)).mpr ⟨words, counted, spelled⟩⟩
  · rintro ⟨format, member, frames⟩
    rcases (PackedFormat.frames_iff member).mp frames with ⟨words, counted, spelled⟩
    have named := List.mem_map_of_mem (f := PackedFormat.method) member
    rw [← map_method_forms] at named
    rcases List.mem_map.mp named with ⟨form, formMember, sameMethod⟩
    have plain := List.all_eq_true.mp all_isPlain_forms form formMember
    rw [Method.isPlain, Bool.and_eq_true] at plain
    have length : words.length = form.method.inputs.length := by
      rw [counted, sameMethod, PackedFormat.length_inputs member]
    rcases exists_plainWords plain.2 length with ⟨values, rfl⟩
    refine ⟨form.build values, decode_eq_ok_iff.mpr ⟨form, formMember, values, rfl, ?_⟩⟩
    rw [congrArg Method.selector sameMethod]
    exact spelled

theorem frames_of_decode {data : Bytes} {call : PackedCall} (reads : decode data = .ok call) :
    call.format.Frames data := by
  rcases exists_words_of_decode reads with ⟨-, words, counted, spelled, -⟩
  exact (PackedFormat.frames_iff (mem_all_format call)).mpr ⟨words, counted, spelled⟩

theorem exists_encode_of_decode {data : Bytes} {call : PackedCall}
    (reads : decode data = .ok call) :
    ∃ again, call.encode none = .ok again ∧ decode again = .ok call ∧
      (again = data ↔ call.format.Clear data) := by
  rcases exists_words_of_decode reads with ⟨steady, words, counted, rfl, encodes⟩
  refine ⟨_, encodes, (decode_encode encodes).trans (congrArg Except.ok steady), ?_⟩
  rw [PackedFormat.clear_iff (mem_all_format call) counted, List.append_cancel_left_eq,
    wordBytes_inj]

theorem decode_eq_decode_iff_agree {left right : Bytes} {call other : PackedCall}
    (reads : decode left = .ok call) (readsOther : decode right = .ok other)
    (sameSelector : left.take 4 = right.take 4) :
    call = other ↔ call.format.Agree left right := by
  have sameFormat : call.format = other.format :=
    PackedFormat.eq_of_selector (mem_all_format call) (mem_all_format other)
      ((frames_of_decode reads).1.symm.trans (sameSelector.trans (frames_of_decode readsOther).1))
  rcases exists_words_of_decode reads with ⟨steady, words, counted, rfl, encodes⟩
  rcases exists_words_of_decode readsOther with
    ⟨otherSteady, others, othersCounted, rfl, encodesOther⟩
  rw [← sameFormat] at othersCounted encodesOther ⊢
  rw [PackedFormat.agree_iff (mem_all_format call) counted othersCounted]
  constructor
  · rintro rfl
    have same := encodes.symm.trans encodesOther
    rwa [Except.ok.injEq, List.append_cancel_left_eq, wordBytes_inj] at same
  · intro same
    rw [same] at encodes
    have sameReread := (decode_encode encodes).symm.trans (decode_encode encodesOther)
    rwa [Except.ok.injEq, steady, otherSteady] at sameReread

/-- Reading accepts the nine formats and nothing else, and forgets exactly the bits that the format
leaves open. -/
theorem decode_normalises (data : Bytes) :
    ((∃ call, decode data = .ok call) ↔ ∃ format ∈ PackedFormat.all, format.Frames data) ∧
    ((¬ ∃ format ∈ PackedFormat.all, format.Frames data) →
      decode data = .error (.undecodable "compact")) ∧
    ∀ call, decode data = .ok call →
      call.format ∈ PackedFormat.all ∧ call.format.Frames data ∧
      (∃ again, call.encode none = .ok again ∧ decode again = .ok call ∧
        (again = data ↔ call.format.Clear data)) ∧
      ∀ otherData other, decode otherData = .ok other → data.take 4 = otherData.take 4 →
        (call = other ↔ call.format.Agree data otherData) := by
  refine ⟨exists_decode_iff, fun unknown => ?_, fun call reads => ?_⟩
  · rw [← exists_decode_iff] at unknown
    rw [decode] at unknown ⊢
    cases read : decodeForms? forms data with
    | none => rfl
    | some call =>
        rw [read] at unknown
        exact absurd ⟨call, rfl⟩ unknown
  · exact ⟨mem_all_format call, frames_of_decode reads, exists_encode_of_decode reads,
      fun _ _ readsOther sameSelector =>
        decode_eq_decode_iff_agree reads readsOther sameSelector⟩

def Sample.padded : Bytes :=
  PackedMethod.withdraw.encode (Word.ofNat (2 ^ 200 + 5 * 2 ^ 16 + 3), ())

theorem decode_normalises_padded :
    decode Sample.padded = .ok (.withdraw 3 5) ∧
    ∃ again, encode (.withdraw 3 5) none = .ok again ∧ decode again = .ok (.withdraw 3 5) ∧
      again ≠ Sample.padded := by
  have reads : decode Sample.padded = .ok (.withdraw 3 5) := by decide +kernel
  rcases ((decode_normalises Sample.padded).2.2 _ reads).2.2.1 with
    ⟨again, encodes, readsAgain, unchanged⟩
  refine ⟨reads, again, encodes, readsAgain, fun same => ?_⟩
  have unused : ¬ PackedFormat.withdraw.Uses 0 200 := by
    simp [PackedFormat.Uses, PackedFormat.withdraw]
  exact absurd (unchanged.mp same 0 200 unused) (by decide +kernel)

end PackedCall

end LendingPool
