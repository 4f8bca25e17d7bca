import LendingPool.Abi.Codec
import Mathlib.Control.Basic
import Mathlib.Data.List.Induction
import Mathlib.Data.Option.Basic
/-! Words, records and byte strings that are read back from a longer byte string. Each is read
without a look at what follows it. -/

namespace LendingPool

namespace Bytes

@[simp] theorem length_ofNat (width value : Nat) : (ofNat width value).length = width := by
  induction width generalizing value with
  | zero => rfl
  | succ width induction => rw [ofNat, List.length_append, induction, List.length_singleton]

theorem toNat_concat (bytes : Bytes) (byte : UInt8) :
    toNat (bytes ++ [byte]) = toNat bytes * 256 + byte.toNat := by
  rw [toNat, List.foldl_append]
  rfl

theorem toNat_ofNat (width value : Nat) : toNat (ofNat width value) = value % 256 ^ width := by
  induction width generalizing value with
  | zero => rw [Nat.pow_zero, Nat.mod_one, ofNat, toNat, List.foldl_nil]
  | succ width induction =>
      have digit : (UInt8.ofNat value).toNat = value % 256 := UInt8.toNat_ofNat'
      rw [ofNat, toNat_concat, induction, digit, Nat.pow_succ', Nat.mod_mul]
      omega

theorem toNat_lt (bytes : Bytes) : toNat bytes < 256 ^ bytes.length := by
  induction bytes using List.reverseRecOn with
  | nil => exact Nat.one_pos
  | append_singleton bytes byte induction =>
      have digit := byte.toNat_lt
      rw [toNat_concat, List.length_append, List.length_singleton, Nat.pow_succ]
      omega

theorem ofNat_toNat (bytes : Bytes) : ofNat bytes.length (toNat bytes) = bytes := by
  induction bytes using List.reverseRecOn with
  | nil => rfl
  | append_singleton bytes byte induction =>
      have small := byte.toNat_lt
      have whole : (toNat bytes * 256 + byte.toNat) / 256 = toNat bytes := by omega
      have digit : UInt8.ofNat (toNat bytes * 256 + byte.toNat) = byte := by
        apply UInt8.toNat_inj.mp
        rw [UInt8.toNat_ofNat']
        omega
      rw [toNat_concat, List.length_append, List.length_singleton, ofNat, whole, digit, induction]

theorem toList_loop (bytes : ByteArray) (index : Nat) (before : List UInt8) :
    ByteArray.toList.loop bytes index before =
      before.reverse ++ bytes.data.toList.drop index := by
  fun_induction ByteArray.toList.loop bytes index before with
  | case1 index before inside induction =>
      have inside : index < bytes.data.toList.length := inside
      have read : bytes.get! index = bytes.data.toList[index] :=
        getElem!_pos bytes.data index inside
      rw [induction, List.reverse_cons, List.append_assoc, read, List.singleton_append,
        List.drop_eq_getElem_cons inside]
  | case2 index before outside =>
      rw [List.drop_eq_nil_of_le (Nat.le_of_not_lt outside), List.append_nil]

theorem toText?_ofText (text : String) : toText? (ofText text) = some text := by
  have listed : (ofText text).toByteArray = text.toByteArray := by
    apply ByteArray.ext
    apply Array.ext'
    rw [List.toList_data_toByteArray, ofText, ByteArray.toList, toList_loop]
    rfl
  rw [toText?, listed, String.fromUTF8?, dif_pos text.isValidUTF8]
  rfl

end Bytes

@[simp] theorem Word.length_toBytes (word : Word) : word.toBytes.length = 32 :=
  Bytes.length_ofNat 32 word.toNat

@[simp] theorem Word.ofNat_toNat (word : Word) : Word.ofNat word.toNat = word := by
  simp [Word.ofNat]

theorem Word.ofBytes_toBytes (word : Word) : Word.ofBytes word.toBytes = word := by
  have bound := word.isLt
  rw [Word.ofBytes, Word.toBytes, Bytes.toNat_ofNat, Nat.mod_eq_of_lt (by omega),
    Word.ofNat_toNat]

theorem Word.toNat_ofNat_of_lt {value : Nat} (bound : value < 2 ^ 256) :
    (Word.ofNat value).toNat = value := by
  rw [Word.ofNat, BitVec.toNat_ofNat, Nat.mod_eq_of_lt bound]

theorem Word.toBytes_ofBytes {bytes : Bytes} (length : bytes.length = 32) :
    (Word.ofBytes bytes).toBytes = bytes := by
  have bound := Bytes.toNat_lt bytes
  rw [length] at bound
  rw [Word.ofBytes, Word.toBytes, Word.toNat_ofNat_of_lt (by omega), ← length, Bytes.ofNat_toNat]

namespace Abi

/-! ## Words -/

def WordType.fits : WordType → Bool
  | uint bits => bits ≤ 256
  | _ => true

theorem WordType.ofWord?_toWord {type : WordType} (fits : type.fits = true) (value : type.Value) :
    type.ofWord? (type.toWord value) = some value := by
  cases type with
  | uint bits =>
      have wide : 2 ^ bits ≤ 2 ^ 256 := Nat.pow_le_pow_right (by omega) (of_decide_eq_true fits)
      have kept : (Word.ofNat value.toNat).toNat = value.toNat :=
        Word.toNat_ofNat_of_lt (Nat.lt_of_lt_of_le value.isLt wide)
      rw [ofWord?, toWord, kept, if_pos value.isLt, BitVec.ofNat_toNat, BitVec.setWidth_eq]
  | address =>
      have kept : value.toWord.toNat = value.bits.toNat :=
        Word.toNat_ofNat_of_lt (Nat.lt_trans value.bits.isLt (by omega))
      rw [ofWord?, toWord, Address.ofWord?, kept, if_pos value.bits.isLt, Address.ofNat,
        BitVec.ofNat_toNat, BitVec.setWidth_eq]
  | flag => cases value <;> rfl
  | bytes32 => rfl

theorem takeWord?_append (word : Word) (rest : Bytes) :
    takeWord? (word.toBytes ++ rest) = some (word, rest) := by
  have length := word.length_toBytes
  rw [takeWord?, if_neg (by rw [List.length_append]; omega), List.take_left' length,
    List.drop_left' length, Word.ofBytes_toBytes]

theorem takeWord?_eq_some_iff {bytes rest : Bytes} {word : Word} :
    takeWord? bytes = some (word, rest) ↔ bytes = word.toBytes ++ rest := by
  constructor
  · intro taken
    rw [takeWord?] at taken
    split at taken
    · cases taken
    · rename_i long
      rw [Option.some.injEq, Prod.mk.injEq] at taken
      rw [← taken.1, ← taken.2,
        Word.toBytes_ofBytes (List.length_take_of_le (Nat.le_of_not_lt long)),
        List.take_append_drop]
  · intro spelled
    rw [spelled, takeWord?_append]

/-! ## Records and arrays -/

theorem decodeRecord?_append {types : List WordType} (fit : types.all WordType.fits = true)
    (values : RecordValue types) (rest : Bytes) :
    decodeRecord? types (encodeRecord types values ++ rest) = some (values, rest) := by
  induction types with
  | nil => rfl
  | cons type types induction =>
      rcases values with ⟨value, values⟩
      rw [List.all_cons, Bool.and_eq_true] at fit
      rw [encodeRecord, decodeRecord?, List.append_assoc, takeWord?_append]
      simp [WordType.ofWord?_toWord fit.1, induction fit.2]

theorem length_encodeRecord (types : List WordType) (values : RecordValue types) :
    (encodeRecord types values).length = 32 * types.length := by
  induction types with
  | nil => rfl
  | cons type types induction =>
      rcases values with ⟨value, values⟩
      rw [encodeRecord, List.length_append, Word.length_toBytes, induction, List.length_cons]
      omega

theorem decodeElements?_append {type : WordType} (fits : type.fits = true)
    (values : List type.Value) (rest : Bytes) :
    decodeElements? type values.length (encodeElements type values ++ rest) =
      some (values, rest) := by
  induction values with
  | nil => rfl
  | cons value values induction =>
      rw [encodeElements, List.length_cons, decodeElements?, List.append_assoc, takeWord?_append]
      simp [WordType.ofWord?_toWord fits, induction]

theorem length_encodeElements (type : WordType) (values : List type.Value) :
    (encodeElements type values).length = 32 * values.length := by
  induction values with
  | nil => rfl
  | cons value values induction =>
      rw [encodeElements, List.length_append, Word.length_toBytes, induction, List.length_cons]
      omega

/-! ## Byte strings -/

theorem length_le_encodeBytes (bytes : Bytes) : bytes.length ≤ (encodeBytes bytes).length := by
  rw [encodeBytes, List.length_append, List.length_append]
  omega

theorem length_encodeBytes_le (bytes : Bytes) : (encodeBytes bytes).length ≤ bytes.length + 64 := by
  have padding : paddingLength bytes.length < 32 := Nat.mod_lt _ (by decide)
  rw [encodeBytes, List.length_append, List.length_append, Word.length_toBytes,
    List.length_replicate]
  omega

theorem decodeBytes?_append (bytes : Bytes) (short : bytes.length < 2 ^ 256) (rest : Bytes) :
    decodeBytes? (encodeBytes bytes ++ rest) = some (bytes, rest) := by
  have padded : (List.replicate (paddingLength bytes.length) (0 : UInt8)).length =
      paddingLength bytes.length := List.length_replicate
  rw [decodeBytes?, encodeBytes, List.append_assoc, List.append_assoc, takeWord?_append]
  simp [Word.toNat_ofNat_of_lt short, List.take_left' padded,
    List.drop_left' padded]

end Abi

end LendingPool
