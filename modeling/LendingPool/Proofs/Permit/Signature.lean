import LendingPool.Permit.Signature
import LendingPool.Proofs.Abi.Words
import LendingPool.Proofs.Bytes.Hexadecimal
/-! Signature blobs that are split. A blob holds its parity in a last byte or in the top bit of its
second word. Either way the same parts come out, and they make up a blob again. -/

namespace LendingPool

/-! ## The top bit of a word -/

namespace Word

def withTop (top : Bool) (word : Word) : Word :=
  BitVec.cons top (word.setWidth 255)

theorem toNat_withTop (top : Bool) (word : Word) :
    (word.withTop top).toNat = (if top then 2 ^ 255 else 0) + word.toNat % 2 ^ 255 := by
  rw [withTop, BitVec.toNat_cons', BitVec.toNat_setWidth]
  cases top <;> rfl

theorem msb_withTop (top : Bool) (word : Word) : (word.withTop top).msb = top :=
  BitVec.msb_cons

theorem withTop_withTop (first second : Bool) (word : Word) :
    (word.withTop first).withTop second = word.withTop second := by
  apply BitVec.eq_of_toNat_eq
  have lower : word.toNat % 2 ^ 255 < 2 ^ 255 := Nat.mod_lt _ (by decide)
  rw [toNat_withTop, toNat_withTop, toNat_withTop]
  split <;> split <;> omega

theorem withTop_of_lt {word : Word} (small : word.toNat < 2 ^ 255) : word.withTop false = word := by
  apply BitVec.eq_of_toNat_eq
  rw [toNat_withTop, Nat.mod_eq_of_lt small]
  exact Nat.zero_add _

theorem exists_pair {bytes : Bytes} (length : bytes.length = 64) :
    ∃ first second : Word, bytes = first.toBytes ++ second.toBytes := by
  refine ⟨ofBytes (bytes.take 32), ofBytes (bytes.drop 32), ?_⟩
  rw [toBytes_ofBytes (by rw [List.length_take]; omega),
    toBytes_ofBytes (by rw [List.length_drop]; omega), List.take_append_drop]

theorem exists_pair_and_byte {bytes : Bytes} (length : bytes.length = 65) :
    ∃ (first second : Word) (last : UInt8),
      bytes = first.toBytes ++ second.toBytes ++ [last] := by
  have words : (bytes.take 64).length = 64 := by
    rw [List.length_take]
    omega
  have rest : (bytes.drop 64).length = 1 := by rw [List.length_drop, length]
  rcases exists_pair words with ⟨first, second, words⟩
  rcases List.length_eq_one_iff.mp rest with ⟨last, rest⟩
  exact ⟨first, second, last, by rw [← words, ← rest, List.take_append_drop]⟩

end Word

namespace Signature

/-! ## Recovery bytes -/

def IsRecovery (recovery : UInt8) : Prop :=
  recovery = 0 ∨ recovery = 1 ∨ recovery = 27 ∨ recovery = 28 ∨ 35 ≤ recovery.toNat

instance (recovery : UInt8) : Decidable (IsRecovery recovery) :=
  inferInstanceAs (Decidable (_ ∨ _))

/-- From 35 on, even and odd take turns. -/
def marksOdd (recovery : UInt8) : Bool :=
  recovery = 1 ∨ recovery = 28 ∨ 35 ≤ recovery.toNat ∧ (recovery.toNat - 35) % 2 = 1

theorem parity?_eq_some_iff {recovery : UInt8} {odd : Bool} :
    parity? recovery = some odd ↔ IsRecovery recovery ∧ marksOdd recovery = odd := by
  rw [parity?]
  split
  · rename_i even
    rcases even with rfl | rfl <;> cases odd <;> decide
  · rename_i notEven
    split
    · rename_i one
      rcases one with rfl | rfl <;> cases odd <;> decide
    · rename_i notOne
      rw [not_or] at notEven notOne
      simp only [IsRecovery, marksOdd, notEven, notOne, false_or]
      split
      · rename_i counted
        have difference : (recovery - 35).toNat = recovery.toNat - 35 :=
          UInt8.toNat_sub_of_le _ _ counted
        have half : (recovery - 35) % 2 = 1 ↔ (recovery.toNat - 35) % 2 = 1 := by
          rw [← UInt8.toNat_inj, UInt8.toNat_mod, difference]
          rfl
        have counted : 35 ≤ recovery.toNat := UInt8.le_iff_toNat_le.mp counted
        simp only [half, counted, true_and, Option.some.injEq]
      · rename_i below
        have below : ¬ 35 ≤ recovery.toNat := fun counted =>
          below (UInt8.le_iff_toNat_le.mpr counted)
        simp only [below, false_and, reduceCtorEq]

/-! ## Blobs -/

/-- The signature in a blob: `r`, `s` and a recovery byte, or `r` and a word that is `s` but for
its top bit, which is the parity. -/
inductive HeldIn : Bytes → Signature → Prop
  | long (r s : Word) {recovery : UInt8} (known : IsRecovery recovery) :
      HeldIn (r.toBytes ++ s.toBytes ++ [recovery]) ⟨if marksOdd recovery then 28 else 27, r, s⟩
  | short (r second : Word) :
      HeldIn (r.toBytes ++ second.toBytes)
        ⟨if second.msb then 28 else 27, r, second.withTop false⟩

theorem ofBytes_long (r s : Word) (recovery : UInt8) :
    ofBytes (r.toBytes ++ s.toBytes ++ [recovery]) =
      match parity? recovery with
      | some odd => .ok (ofParity odd r s)
      | none => .error (.badParity recovery) := by
  have length : (r.toBytes ++ s.toBytes).length = 64 := by
    rw [List.length_append, Word.length_toBytes, Word.length_toBytes]
  have whole : (r.toBytes ++ s.toBytes ++ [recovery]).length = 65 := by
    rw [List.length_append, length]
    rfl
  have parts : ofBytes (r.toBytes ++ s.toBytes ++ [recovery]) =
      ofLong (r.toBytes ++ s.toBytes) recovery := by
    rw [ofBytes, if_pos whole, List.take_left' length, List.getLastD_concat]
  cases marks : parity? recovery <;>
    simp only [parts, ofLong, marks, List.take_left' r.length_toBytes,
      List.drop_left' r.length_toBytes, Word.ofBytes_toBytes]

theorem ofBytes_short (r second : Word) :
    ofBytes (r.toBytes ++ second.toBytes) =
      .ok ⟨if second.msb then 28 else 27, r, second.withTop false⟩ := by
  have length : (r.toBytes ++ second.toBytes).length = 64 := by
    rw [List.length_append, Word.length_toBytes, Word.length_toBytes]
  have number : Bytes.toNat second.toBytes = second.toNat := by
    have bound := second.isLt
    rw [Word.toBytes, Bytes.toNat_ofNat, Nat.mod_eq_of_lt (by omega)]
  have top : second.msb = decide (2 ^ 255 ≤ second.toNat) := BitVec.msb_eq_decide second
  have lower : Word.ofNat (second.toNat % 2 ^ 255) = second.withTop false := by
    apply BitVec.eq_of_toNat_eq
    have small : second.toNat % 2 ^ 255 < 2 ^ 255 := Nat.mod_lt _ (by decide)
    rw [Word.toNat_ofNat_of_lt (by omega), Word.toNat_withTop]
    exact (Nat.zero_add _).symm
  rw [ofBytes, length, if_neg (by decide), if_pos rfl, ofShort,
    List.take_left' r.length_toBytes, List.drop_left' r.length_toBytes, Word.ofBytes_toBytes,
    number, lower, ofParity, top]

theorem ofBytes_eq_ok_iff {bytes : Bytes} {signature : Signature} :
    ofBytes bytes = .ok signature ↔ HeldIn bytes signature := by
  constructor
  · intro splits
    by_cases long : bytes.length = 65
    · rcases Word.exists_pair_and_byte long with ⟨r, s, recovery, parts⟩
      rw [parts] at splits ⊢
      rw [ofBytes_long] at splits
      split at splits
      · rename_i odd marks
        rcases parity?_eq_some_iff.mp marks with ⟨known, rfl⟩
        rw [← Except.ok.inj splits]
        exact .long r s known
      · cases splits
    · by_cases short : bytes.length = 64
      · rcases Word.exists_pair short with ⟨r, second, parts⟩
        rw [parts, ofBytes_short] at splits
        rw [parts, ← Except.ok.inj splits]
        exact .short r second
      · rw [ofBytes, if_neg long, if_neg short] at splits
        cases splits
  · intro held
    cases held with
    | long r s known =>
        rw [ofBytes_long, parity?_eq_some_iff.mpr ⟨known, rfl⟩]
        rfl
    | short r second => exact ofBytes_short r second

theorem exists_heldIn_iff {bytes : Bytes} :
    (∃ signature, HeldIn bytes signature) ↔
      bytes.length = 64 ∨
        bytes.length = 65 ∧ ∃ recovery, bytes.getLast? = some recovery ∧ IsRecovery recovery := by
  constructor
  · rintro ⟨signature, held⟩
    cases held with
    | @long r s recovery known =>
        refine .inr ⟨?_, recovery, List.getLast?_concat, known⟩
        rw [List.length_append, List.length_append, Word.length_toBytes, Word.length_toBytes]
        rfl
    | short r second =>
        left
        rw [List.length_append, Word.length_toBytes, Word.length_toBytes]
  · rintro (short | ⟨long, recovery, last, known⟩)
    · rcases Word.exists_pair short with ⟨r, second, parts⟩
      rw [parts]
      exact ⟨_, .short r second⟩
    · rcases Word.exists_pair_and_byte long with ⟨r, s, byte, parts⟩
      rw [parts, List.getLast?_concat, Option.some.injEq] at last
      rw [parts, last]
      exact ⟨_, .long r s known⟩

theorem parse_eq_ok_iff {blob : String} {signature : Signature} :
    parse blob = .ok signature ↔ ∃ bytes : Bytes, bytes.IsHexOf blob ∧ HeldIn bytes signature := by
  simp only [← Bytes.ofHex?_eq_some_iff, ← ofBytes_eq_ok_iff, parse]
  cases Bytes.ofHex? blob with
  | none => simp
  | some bytes =>
      simp only [Option.some.injEq, exists_eq_left']
      cases ofBytes bytes <;> simp [Except.mapError]

theorem parse_eq_ok_or_error (blob : String) :
    (∃ signature, parse blob = .ok signature) ∨
      ∃ problem, parse blob = .error (.invalidSignature blob problem) := by
  rw [parse]
  split
  · exact .inr ⟨_, rfl⟩
  · rename_i bytes _
    cases ofBytes bytes with
    | error problem => exact .inr ⟨problem, rfl⟩
    | ok signature => exact .inl ⟨signature, rfl⟩

/-! ## Blobs for a signature -/

def toBytes (signature : Signature) : Bytes :=
  signature.r.toBytes ++ signature.s.toBytes ++ [signature.v]

theorem HeldIn.v_eq {bytes : Bytes} {signature : Signature} (held : HeldIn bytes signature) :
    signature.v = 27 ∨ signature.v = 28 := by
  cases held <;> dsimp only <;> split <;> simp

theorem heldIn_toBytes {signature : Signature} (recovers : signature.v = 27 ∨ signature.v = 28) :
    HeldIn signature.toBytes signature := by
  rcases signature with ⟨v, r, s⟩
  have even : IsRecovery 27 := by decide
  have odd : IsRecovery 28 := by decide
  rcases recovers with rfl | rfl
  · exact .long r s even
  · exact .long r s odd

/-- A recovery byte for a parity: the parity itself, or with 27 added. -/
def IsPlainRecovery (odd : Bool) (recovery : UInt8) : Prop :=
  recovery = (if odd then 1 else 0) ∨ recovery = if odd then 28 else 27

theorem heldIn_long {odd : Bool} {recovery : UInt8} (plain : IsPlainRecovery odd recovery)
    (r s : Word) : HeldIn (r.toBytes ++ s.toBytes ++ [recovery]) (ofParity odd r s) := by
  cases odd <;> rcases plain with rfl | rfl <;> exact .long r s (by decide)

theorem heldIn_short (odd : Bool) (r : Word) {s : Word} (small : s.toNat < 2 ^ 255) :
    HeldIn (r.toBytes ++ (s.withTop odd).toBytes) (ofParity odd r s) := by
  have held := HeldIn.short r (s.withTop odd)
  rw [Word.msb_withTop, Word.withTop_withTop, Word.withTop_of_lt small] at held
  exact held

/-- A blob is split exactly if it is hexadecimal text of 64 bytes, or of 65 bytes with a recovery
byte at the end, and any other is refused. What it holds says how: a signature whose recovery
value is 27 or 28, and which is split from its own parts again. A signature with a small `s` is
held in a short blob and in long ones, all of which are split alike. -/
theorem parse_splits :
    (∀ (blob : String) (signature : Signature),
      parse blob = .ok signature ↔
        ∃ bytes : Bytes, bytes.IsHexOf blob ∧ HeldIn bytes signature) ∧
    (∀ blob : String, (∃ signature, parse blob = .ok signature) ↔
      ∃ bytes : Bytes, bytes.IsHexOf blob ∧ (bytes.length = 64 ∨
        bytes.length = 65 ∧ ∃ recovery, bytes.getLast? = some recovery ∧ IsRecovery recovery)) ∧
    (∀ blob : String, (¬ ∃ signature, parse blob = .ok signature) →
      ∃ problem, parse blob = .error (.invalidSignature blob problem)) ∧
    (∀ (blob : String) (signature : Signature), parse blob = .ok signature →
      (signature.v = 27 ∨ signature.v = 28) ∧
      ∀ again, signature.toBytes.IsHexOf again → parse again = .ok signature) ∧
    (∀ (r s : Word) (odd : Bool) (recovery : UInt8) (short long : String), s.toNat < 2 ^ 255 →
      IsPlainRecovery odd recovery →
      Bytes.IsHexOf (r.toBytes ++ (s.withTop odd).toBytes) short →
      Bytes.IsHexOf (r.toBytes ++ s.toBytes ++ [recovery]) long →
      parse short = .ok ⟨if odd then 28 else 27, r, s⟩ ∧
      parse long = .ok ⟨if odd then 28 else 27, r, s⟩) := by
  refine ⟨?_, ?_, ?_, ?_, ?_⟩
  · intro blob signature
    exact parse_eq_ok_iff
  · intro blob
    simp only [parse_eq_ok_iff, ← exists_heldIn_iff]
    exact ⟨fun ⟨signature, bytes, hex, held⟩ => ⟨bytes, hex, signature, held⟩,
      fun ⟨bytes, hex, signature, held⟩ => ⟨signature, bytes, hex, held⟩⟩
  · intro blob refused
    exact (parse_eq_ok_or_error blob).resolve_left refused
  · intro blob signature splits
    rcases parse_eq_ok_iff.mp splits with ⟨bytes, -, held⟩
    exact ⟨held.v_eq, fun again hex =>
      parse_eq_ok_iff.mpr ⟨_, hex, heldIn_toBytes held.v_eq⟩⟩
  · intro r s odd recovery short long small plain shortHex longHex
    exact ⟨parse_eq_ok_iff.mpr ⟨_, shortHex, heldIn_short odd r small⟩,
      parse_eq_ok_iff.mpr ⟨_, longHex, heldIn_long plain r s⟩⟩

/-- An odd signature in its three forms, then from its own parts, and a text that is no blob. -/
theorem parse_splits_odd :
    let short := Bytes.toHex ((1 : Word).toBytes ++ ((2 : Word).withTop true).toBytes)
    let plain := Bytes.toHex ((1 : Word).toBytes ++ (2 : Word).toBytes ++ [1])
    let offset := Bytes.toHex ((1 : Word).toBytes ++ (2 : Word).toBytes ++ [28])
    (parse short = .ok ⟨28, 1, 2⟩ ∧ parse plain = .ok ⟨28, 1, 2⟩) ∧
    (parse short = .ok ⟨28, 1, 2⟩ ∧ parse offset = .ok ⟨28, 1, 2⟩) ∧
    parse (Bytes.toHex (toBytes ⟨28, 1, 2⟩)) = .ok ⟨28, 1, 2⟩ ∧
    (∃ problem, parse "xyz" = .error (.invalidSignature "xyz" problem)) := by
  rcases parse_splits with ⟨-, accepted, refused, again, forms⟩
  have hex := Bytes.isHexOf_toHex
  have plain := forms 1 2 true 1 _ _ (by decide) (.inl rfl) (hex _) (hex _)
  have offset := forms 1 2 true 28 _ _ (by decide) (.inr rfl) (hex _) (hex _)
  refine ⟨plain, offset, (again _ _ plain.1).2 _ (hex _), refused _ ?_⟩
  rintro ⟨signature, splits⟩
  cases splits

end Signature

end LendingPool
