import LendingPool.Proofs.Abi.RoundTrip
/-! Arguments that are plain words. They are written one after the other, and bytes are read as such
arguments only if they are what is written for them, so a method with such parameters takes one
length of call data and no other. -/

namespace LendingPool.Abi

/-! ## Words side by side -/

def wordBytes (words : List Word) : Bytes :=
  words.flatMap Word.toBytes

@[simp] theorem length_wordBytes (words : List Word) :
    (wordBytes words).length = 32 * words.length := by
  induction words with
  | nil => rfl
  | cons word words induction =>
      change (word.toBytes ++ wordBytes words).length = _
      rw [List.length_append, Word.length_toBytes, induction, List.length_cons]
      omega

theorem exists_wordBytes {count : Nat} {bytes : Bytes} (length : bytes.length = 32 * count) :
    ∃ words : List Word, words.length = count ∧ wordBytes words = bytes := by
  induction count generalizing bytes with
  | zero => exact ⟨[], rfl, (List.eq_nil_of_length_eq_zero length).symm⟩
  | succ count induction =>
      have first : (bytes.take 32).length = 32 := by rw [List.length_take]; omega
      have rest : (bytes.drop 32).length = 32 * count := by rw [List.length_drop]; omega
      rcases induction rest with ⟨words, counted, spelled⟩
      refine ⟨Word.ofBytes (bytes.take 32) :: words, congrArg Nat.succ counted, ?_⟩
      change (Word.ofBytes (bytes.take 32)).toBytes ++ wordBytes words = bytes
      rw [Word.toBytes_ofBytes first, spelled, List.take_append_drop]

theorem wordBytes_inj {left right : List Word} :
    wordBytes left = wordBytes right ↔ left = right := by
  refine ⟨fun same => ?_, congrArg wordBytes⟩
  have long := congrArg List.length same
  rw [length_wordBytes, length_wordBytes] at long
  replace long : left.length = right.length := by omega
  induction left generalizing right with
  | nil => exact (List.eq_nil_of_length_eq_zero long.symm).symm
  | cons word left induction =>
      rcases right with _ | ⟨other, right⟩
      · cases long
      · have first := takeWord?_append word (wordBytes left)
        rw [show word.toBytes ++ wordBytes left = other.toBytes ++ wordBytes right from same,
          takeWord?_append, Option.some.injEq, Prod.mk.injEq] at first
        rw [first.1, induction first.2.symm (Nat.succ.inj long)]

/-! ## Parameter lists -/

def arePlain (types : List ParameterType) : Bool :=
  types.all (· == .word .bytes32)

def plainWords : (types : List ParameterType) → Arguments types → List Word
  | [], () => []
  | .word .bytes32 :: types, (word, values) => word :: plainWords types values
  | _ :: types, (_, values) => plainWords types values

theorem arePlain_cons_iff {type : ParameterType} {types : List ParameterType} :
    arePlain (type :: types) = true ↔ type = .word .bytes32 ∧ arePlain types = true := by
  simp [arePlain]

theorem length_plainWords {types : List ParameterType} (plain : arePlain types = true)
    (values : Arguments types) : (plainWords types values).length = types.length := by
  induction types with
  | nil => rfl
  | cons type types induction =>
      rcases arePlain_cons_iff.mp plain with ⟨rfl, plain⟩
      exact congrArg Nat.succ (induction plain values.2)

theorem exists_plainWords {types : List ParameterType} (plain : arePlain types = true)
    {words : List Word} (length : words.length = types.length) :
    ∃ values : Arguments types, plainWords types values = words := by
  induction types generalizing words with
  | nil => exact ⟨(), (List.eq_nil_of_length_eq_zero length).symm⟩
  | cons type types induction =>
      rcases arePlain_cons_iff.mp plain with ⟨rfl, plain⟩
      cases words with
      | nil => cases length
      | cons word words =>
          rcases induction plain (Nat.succ.inj length) with ⟨values, rfl⟩
          exact ⟨(word, values), rfl⟩

theorem headSize_of_arePlain {types : List ParameterType} (plain : arePlain types = true) :
    headSize types = 32 * types.length := by
  induction types with
  | nil => rfl
  | cons type types induction =>
      rcases arePlain_cons_iff.mp plain with ⟨rfl, plain⟩
      change 32 + headSize types = 32 * (types.length + 1)
      rw [induction plain]
      omega

theorem decodeFrom?_eq_some_iff {types : List ParameterType} (plain : arePlain types = true)
    {distance : Nat} {heads tails : Bytes} {values : Arguments types} :
    decodeFrom? distance types heads tails = some values ↔
      heads = wordBytes (plainWords types values) ∧ tails = [] := by
  induction types generalizing distance heads with
  | nil => simp [decodeFrom?, plainWords, wordBytes]
  | cons type types induction =>
      rcases arePlain_cons_iff.mp plain with ⟨rfl, plain⟩
      rcases values with ⟨word, values⟩
      change _ ↔ heads = word.toBytes ++ wordBytes (plainWords types values) ∧ tails = []
      constructor
      · intro decodes
        simp only [decodeFrom?, ParameterType.take?, WordType.ofWord?, Option.bind_eq_bind,
          Option.bind_eq_some_iff, Option.pure_def, Option.some.injEq, Prod.mk.injEq] at decodes
        rcases decodes with ⟨_, ⟨⟨first, rest⟩, taken, _, rfl, rfl⟩, others, follow, rfl, rfl⟩
        rcases (induction plain).mp follow with ⟨heads, tails⟩
        rw [← heads]
        exact ⟨takeWord?_eq_some_iff.mp taken, tails⟩
      · rintro ⟨spelled, empty⟩
        have follow (distance : Nat) : decodeFrom? distance types
            (wordBytes (plainWords types values)) tails = some values :=
          (induction plain).mpr ⟨rfl, empty⟩
        simp [decodeFrom?, ParameterType.take?, WordType.ofWord?, spelled, takeWord?_append, follow]

theorem decode?_eq_some_iff {types : List ParameterType} (plain : arePlain types = true)
    {bytes : Bytes} {values : Arguments types} :
    decode? types bytes = some values ↔ bytes = wordBytes (plainWords types values) := by
  have size : (wordBytes (plainWords types values)).length = headSize types := by
    rw [length_wordBytes, length_plainWords plain, headSize_of_arePlain plain]
  rw [decode?, decodeFrom?_eq_some_iff plain]
  constructor
  · rintro ⟨heads, tails⟩
    rw [← heads, ← List.take_append_drop (headSize types) bytes, tails, List.append_nil,
      List.take_take, Nat.min_self]
  · rintro rfl
    exact ⟨List.take_of_length_le (Nat.le_of_eq size),
      List.drop_of_length_le (Nat.le_of_eq size)⟩

theorem heads_place_of_arePlain {types : List ParameterType} (plain : arePlain types = true)
    (values : Arguments types) (distance : Nat) :
    Placed.heads distance (place types values) = wordBytes (plainWords types values) := by
  induction types generalizing distance with
  | nil => rfl
  | cons type types induction =>
      rcases arePlain_cons_iff.mp plain with ⟨rfl, plain⟩
      rcases values with ⟨word, values⟩
      exact congrArg (word.toBytes ++ ·) (induction plain values _)

theorem isStatic_of_arePlain {types : List ParameterType} (plain : arePlain types = true) :
    types.all ParameterType.isStatic = true := by
  rw [arePlain, List.all_eq_true] at plain
  refine List.all_eq_true.mpr fun type member => ?_
  rw [beq_iff_eq.mp (plain type member)]
  rfl

theorem encode_of_arePlain {types : List ParameterType} (plain : arePlain types = true)
    (values : Arguments types) : encode types values = wordBytes (plainWords types values) := by
  rw [encode_eq, tails_place_of_isStatic (isStatic_of_arePlain plain), List.append_nil,
    heads_place_of_arePlain plain]

/-! ## Methods -/

def Method.isPlain (method : Method) : Bool :=
  method.selector.length == 4 && arePlain method.inputs

namespace Method

variable {method : Method}

theorem encode_of_isPlain (plain : method.isPlain = true) (values : Arguments method.inputs) :
    method.encode values = method.selector ++ wordBytes (plainWords method.inputs values) := by
  rw [isPlain, Bool.and_eq_true] at plain
  rw [encode, encode_of_arePlain plain.2]

theorem decode?_eq_some_iff (plain : method.isPlain = true) {data : Bytes}
    {values : Arguments method.inputs} :
    method.decode? data = some values ↔
      data = method.selector ++ wordBytes (plainWords method.inputs values) := by
  rw [isPlain, Bool.and_eq_true, beq_iff_eq] at plain
  rw [decode?]
  constructor
  · intro decodes
    split at decodes
    · rename_i selected
      rw [← (Abi.decode?_eq_some_iff plain.2).mp decodes, ← selected, List.take_append_drop]
    · cases decodes
  · rintro rfl
    rw [if_pos (List.take_left' plain.1), List.drop_left' plain.1]
    exact (Abi.decode?_eq_some_iff plain.2).mpr rfl

end Method

theorem decodeForms?_eq_some_iff {Call : Type} {forms : List (Form Call)}
    (distinct : (forms.map fun form => form.method.selector).Nodup)
    (plain : forms.all (fun form => form.method.isPlain) = true) {data : Bytes} {call : Call} :
    decodeForms? forms data = some call ↔
      ∃ form ∈ forms, ∃ values, form.build values = call ∧
        data = form.method.selector ++ wordBytes (plainWords form.method.inputs values) := by
  rw [decodeForms?_eq_some_iff_of_nodup distinct]
  constructor
  · rintro ⟨form, member, values, reads, builds⟩
    have plain := List.all_eq_true.mp plain form member
    exact ⟨form, member, values, builds, (Method.decode?_eq_some_iff plain).mp reads⟩
  · rintro ⟨form, member, values, builds, spelled⟩
    have plain := List.all_eq_true.mp plain form member
    exact ⟨form, member, values, (Method.decode?_eq_some_iff plain).mpr spelled, builds⟩

end LendingPool.Abi
