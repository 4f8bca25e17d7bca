import LendingPool.Proofs.Abi.PlainWords
/-! Arguments that are read are the ones that were written. Every value has one spelling, with the
heads first and the tails after them in order, and bytes that are spelled in any other way are not
read. Flags are left out, because a flag may be any number of one byte. -/

namespace LendingPool

theorem Bytes.ofText_of_toText? {bytes : Bytes} {text : String}
    (reads : toText? bytes = some text) : ofText text = bytes := by
  rw [toText?, String.fromUTF8?] at reads
  split at reads
  · cases reads
    change ByteArray.toList bytes.toByteArray = bytes
    rw [ByteArray.toList, toList_loop, List.reverse_nil, List.nil_append, List.drop_zero,
      List.toList_data_toByteArray]
  · cases reads

namespace Abi

/-! ## Words -/

def WordType.isExact (type : WordType) : Bool :=
  type.fits && type != .flag

theorem WordType.fits_of_isExact {type : WordType} (exact : type.isExact = true) :
    type.fits = true :=
  (Bool.and_eq_true_iff.mp exact).1

theorem WordType.ofWord?_eq_some_iff {type : WordType} (exact : type.isExact = true)
    {word : Word} {value : type.Value} :
    type.ofWord? word = some value ↔ type.toWord value = word := by
  constructor
  · intro reads
    cases type with
    | uint bits =>
        rw [ofWord?] at reads
        split at reads
        · rename_i small
          cases reads
          rw [toWord, BitVec.toNat_ofNat, Nat.mod_eq_of_lt small, Word.ofNat_toNat]
        · cases reads
    | address =>
        rw [ofWord?, Address.ofWord?] at reads
        split at reads
        · rename_i small
          cases reads
          rw [toWord, Address.toWord, Address.ofNat, BitVec.toNat_ofNat, Nat.mod_eq_of_lt small,
            Word.ofNat_toNat]
        · cases reads
    | flag => cases exact
    | bytes32 => exact (Option.some.inj reads).symm
  · rintro rfl
    exact ofWord?_toWord (fits_of_isExact exact) value

/-! ## Records, byte strings and arrays -/

theorem eq_encodeRecord_of_decodeRecord? {types : List WordType}
    (exact : types.all WordType.isExact = true) {bytes rest : Bytes} {values : RecordValue types}
    (reads : decodeRecord? types bytes = some (values, rest)) :
    bytes = encodeRecord types values ++ rest := by
  induction types generalizing bytes with
  | nil =>
      cases reads
      rfl
  | cons type types induction =>
      rw [List.all_cons, Bool.and_eq_true] at exact
      rcases values with ⟨value, values⟩
      simp only [decodeRecord?, Option.bind_eq_bind, Option.bind_eq_some_iff, Option.pure_def,
        Option.some.injEq, Prod.mk.injEq] at reads
      rcases reads with ⟨⟨word, others⟩, taken, _, first, ⟨_, _⟩, follow, ⟨rfl, rfl⟩, rfl⟩
      dsimp only at first follow
      rw [takeWord?_eq_some_iff.mp taken, induction exact.2 follow, encodeRecord,
        (WordType.ofWord?_eq_some_iff exact.1).mp first, List.append_assoc]

theorem eq_encodeElements_of_decodeElements? {type : WordType} (exact : type.isExact = true)
    {count : Nat} {bytes rest : Bytes} {values : List type.Value}
    (reads : decodeElements? type count bytes = some (values, rest)) :
    values.length = count ∧ bytes = encodeElements type values ++ rest := by
  induction count generalizing bytes values with
  | zero =>
      cases reads
      exact ⟨rfl, rfl⟩
  | succ count induction =>
      simp only [decodeElements?, Option.bind_eq_bind, Option.bind_eq_some_iff, Option.pure_def,
        Option.some.injEq, Prod.mk.injEq] at reads
      rcases reads with ⟨⟨word, others⟩, taken, value, first, ⟨values, _⟩, follow, rfl, rfl⟩
      dsimp only at first follow
      rcases induction follow with ⟨counted, spelled⟩
      refine ⟨congrArg Nat.succ counted, ?_⟩
      rw [takeWord?_eq_some_iff.mp taken, spelled, encodeElements,
        (WordType.ofWord?_eq_some_iff exact).mp first, List.append_assoc]

theorem eq_encodeBytes_of_decodeBytes? {bytes rest value : Bytes}
    (reads : decodeBytes? bytes = some (value, rest)) : bytes = encodeBytes value ++ rest := by
  simp only [decodeBytes?, Option.bind_eq_bind, Option.bind_eq_some_iff, Option.guard_eq_some',
    Option.pure_def, Option.some.injEq, Prod.mk.injEq] at reads
  rcases reads with ⟨⟨length, content⟩, taken, _, within, _, padded, rfl, rfl⟩
  have counted : (content.take length.toNat).length = length.toNat :=
    List.length_take_of_le within
  rw [takeWord?_eq_some_iff.mp taken, encodeBytes, counted, Word.ofNat_toNat, ← padded,
    List.append_assoc, List.append_assoc, List.take_append_drop, List.take_append_drop]

/-! ## One parameter -/

namespace ParameterType

def isExact : ParameterType → Bool
  | word type | array type => type.isExact
  | record members => members.all WordType.isExact
  | bytes | text => true

theorem all_fits_of_isExact {types : List ParameterType} (exact : types.all isExact = true) :
    types.all fits = true := by
  refine List.all_eq_true.mpr fun type member => ?_
  have exact := List.all_eq_true.mp exact type member
  cases type with
  | word type | array type => exact WordType.fits_of_isExact exact
  | record members =>
      exact List.all_eq_true.mpr fun type member =>
        WordType.fits_of_isExact (List.all_eq_true.mp exact type member)
  | bytes | text => rfl

theorem eq_place_of_take? {type : ParameterType} (exact : type.isExact = true) {distance : Nat}
    {heads tails laterHeads laterTails : Bytes} {value : type.Value}
    (reads : type.take? distance heads tails = some (value, laterHeads, laterTails)) :
    heads = (type.place value).headBytes distance ++ laterHeads ∧
      tails = (type.place value).tailBytes ++ laterTails := by
  have written {word : Word} (distant : word.toNat = distance) : Word.ofNat distance = word := by
    rw [← distant, Word.ofNat_toNat]
  cases type with
    simp only [take?, Option.bind_eq_bind, Option.bind_eq_some_iff, Option.guard_eq_some',
      Option.pure_def, Option.some.injEq, Prod.mk.injEq] at reads
  | word type =>
      rcases reads with ⟨⟨word, _⟩, taken, _, first, rfl, rfl, rfl⟩
      refine ⟨?_, rfl⟩
      rw [takeWord?_eq_some_iff.mp taken, place, Placed.headBytes,
        (WordType.ofWord?_eq_some_iff exact).mp first]
  | record members =>
      rcases reads with ⟨⟨_, _⟩, first, rfl, rfl, rfl⟩
      exact ⟨eq_encodeRecord_of_decodeRecord? exact first, rfl⟩
  | bytes =>
      rcases reads with ⟨⟨word, _⟩, taken, _, distant, ⟨_, _⟩, follow, rfl, rfl, rfl⟩
      refine ⟨?_, eq_encodeBytes_of_decodeBytes? follow⟩
      rw [takeWord?_eq_some_iff.mp taken, place, Placed.headBytes, written distant]
  | text =>
      rcases reads with ⟨⟨word, _⟩, taken, _, distant, ⟨_, _⟩, follow, _, spells, rfl, rfl, rfl⟩
      constructor
      · rw [takeWord?_eq_some_iff.mp taken, place, Placed.headBytes, written distant]
      · rw [eq_encodeBytes_of_decodeBytes? follow, place, Placed.tailBytes,
          Bytes.ofText_of_toText? spells]
  | array element =>
      rcases reads with
        ⟨⟨word, _⟩, taken, _, distant, ⟨count, _⟩, counts, ⟨_, _⟩, follow, rfl, rfl, rfl⟩
      dsimp only at follow ⊢
      rcases eq_encodeElements_of_decodeElements? exact follow with ⟨counted, spelled⟩
      constructor
      · rw [takeWord?_eq_some_iff.mp taken, place, Placed.headBytes, written distant]
      · rw [takeWord?_eq_some_iff.mp counts, spelled, place, Placed.tailBytes, counted,
          Word.ofNat_toNat, List.append_assoc]

end ParameterType

/-! ## Parameter lists -/

theorem eq_place_of_decodeFrom? {types : List ParameterType}
    (exact : types.all ParameterType.isExact = true) {distance : Nat} {heads tails : Bytes}
    {values : Arguments types} (reads : decodeFrom? distance types heads tails = some values) :
    heads = Placed.heads distance (place types values) ∧
      tails = Placed.tails (place types values) := by
  induction types generalizing distance heads tails with
  | nil => simpa [decodeFrom?, place, Placed.heads, Placed.tails] using reads
  | cons type types induction =>
      rw [List.all_cons, Bool.and_eq_true] at exact
      rcases values with ⟨value, values⟩
      simp only [decodeFrom?, Option.bind_eq_bind, Option.bind_eq_some_iff, Option.pure_def,
        Option.some.injEq, Prod.mk.injEq] at reads
      rcases reads with ⟨⟨value, laterHeads, laterTails⟩, first, _, follow, rfl, rfl⟩
      rcases ParameterType.eq_place_of_take? exact.1 first with ⟨rfl, rfl⟩
      dsimp only at follow
      rw [List.length_append, Nat.add_sub_cancel] at follow
      rcases induction exact.2 follow with ⟨rfl, rfl⟩
      exact ⟨rfl, rfl⟩

theorem eq_encode_of_decode? {types : List ParameterType}
    (exact : types.all ParameterType.isExact = true) {bytes : Bytes} {values : Arguments types}
    (reads : decode? types bytes = some values) : bytes = encode types values := by
  rcases eq_place_of_decodeFrom? exact reads with ⟨heads, tails⟩
  rw [encode_eq, ← heads, ← tails, List.take_append_drop]

theorem decode?_eq_some_iff_of_isExact {types : List ParameterType}
    (exact : types.all ParameterType.isExact = true) {bytes : Bytes} {values : Arguments types}
    (short : (encode types values).length < 2 ^ 256) :
    decode? types bytes = some values ↔ bytes = encode types values := by
  constructor
  · exact eq_encode_of_decode? exact
  · rintro rfl
    exact decode?_encode (ParameterType.all_fits_of_isExact exact) values short

/-! ## Arguments of one word each -/

def ParameterType.isWord : ParameterType → Bool
  | word _ => true
  | record _ | bytes | text | array _ => false

def argumentWords : (types : List ParameterType) → Arguments types → List Word
  | [], () => []
  | .word type :: types, (value, values) => type.toWord value :: argumentWords types values
  | _ :: types, (_, values) => argumentWords types values

theorem place_of_isWord {types : List ParameterType}
    (words : types.all ParameterType.isWord = true) (values : Arguments types) (distance : Nat) :
    Placed.heads distance (place types values) = wordBytes (argumentWords types values) ∧
      Placed.tails (place types values) = [] := by
  induction types generalizing distance with
  | nil => simp [place, Placed.heads, Placed.tails, argumentWords, wordBytes]
  | cons type types induction =>
      rw [List.all_cons, Bool.and_eq_true] at words
      rcases values with ⟨value, values⟩
      cases type <;> simp only [ParameterType.isWord, Bool.false_eq_true, false_and] at words
      case word type =>
        rcases induction words.2 values (distance + 0) with ⟨heads, tails⟩
        constructor
        · exact congrArg ((type.toWord value).toBytes ++ ·) heads
        · exact tails

theorem encode_of_isWord {types : List ParameterType}
    (words : types.all ParameterType.isWord = true) (values : Arguments types) :
    encode types values = wordBytes (argumentWords types values) := by
  rcases place_of_isWord words values (headSize types) with ⟨heads, tails⟩
  rw [encode_eq, heads, tails, List.append_nil]

/-! ## Methods -/

namespace Method

def isExact (method : Method) : Bool :=
  method.selector.length == 4 && method.inputs.all ParameterType.isExact

variable {method : Method}

theorem eq_encode_of_decode? (exact : method.isExact = true) {data : Bytes}
    {values : Arguments method.inputs} (reads : method.decode? data = some values) :
    data = method.encode values := by
  rw [decode?] at reads
  split at reads
  · rename_i selected
    rw [encode, ← Abi.eq_encode_of_decode? (Bool.and_eq_true_iff.mp exact).2 reads, ← selected,
      List.take_append_drop]
  · cases reads

theorem decode?_eq_some_iff_of_isExact (exact : method.isExact = true) {data : Bytes}
    {values : Arguments method.inputs} (short : (method.encode values).length < 2 ^ 256) :
    method.decode? data = some values ↔ data = method.encode values := by
  constructor
  · exact eq_encode_of_decode? exact
  · rintro rfl
    rw [isExact, Bool.and_eq_true] at exact
    exact decode?_encode (Bool.and_eq_true_iff.mpr
      ⟨exact.1, ParameterType.all_fits_of_isExact exact.2⟩) values short

theorem encode_of_isWord (words : method.inputs.all ParameterType.isWord = true)
    (values : Arguments method.inputs) :
    method.encode values = method.selector ++ wordBytes (argumentWords method.inputs values) := by
  rw [encode, Abi.encode_of_isWord words]

end Method

section

variable {Call : Type} {forms : List (Form Call)} {data : Bytes} {call : Call}

theorem exists_encode_of_decodeForms? (exact : ∀ form ∈ forms, form.method.isExact = true)
    (reads : decodeForms? forms data = some call) :
    ∃ form ∈ forms, ∃ values, form.build values = call ∧ data = form.method.encode values := by
  rcases List.exists_of_findSome?_eq_some reads with ⟨form, member, found⟩
  rcases Option.map_eq_some_iff.mp found with ⟨values, taken, built⟩
  exact ⟨form, member, values, built, Method.eq_encode_of_decode? (exact form member) taken⟩

/-- Exact forms that write a call as an encoder does read nothing but what it writes. -/
theorem decodeForms?_eq_some_iff_encode {encode : Call → Bytes}
    (distinct : (forms.map fun form => form.method.selector).Nodup)
    (exact : ∀ form ∈ forms, form.method.isExact = true)
    (written : ∀ call, HasForm forms (encode call) call)
    (builds : ∀ form ∈ forms, ∀ values, form.method.encode values = encode (form.build values))
    (short : ∀ call, (encode call).length < 2 ^ 256) :
    decodeForms? forms data = some call ↔ data = encode call := by
  constructor
  · intro reads
    rcases exists_encode_of_decodeForms? exact reads with ⟨form, member, values, rfl, rfl⟩
    exact builds form member values
  · rintro rfl
    exact decodeForms?_of_hasForm distinct (written call) (short call)

end

end Abi

end LendingPool
