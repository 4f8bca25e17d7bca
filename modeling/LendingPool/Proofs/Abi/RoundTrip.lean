import LendingPool.Proofs.Abi.Words
/-! Arguments that are written and read back. What is written is all heads followed by all tails,
and reading finds each parameter at its head and its tail in turn. -/

namespace LendingPool.Abi

/-! ## Heads and tails -/

namespace Placed

/-- What stands among the heads, when the next tail begins `distance` bytes after the first. -/
def headBytes (distance : Nat) : Placed → Bytes
  | head bytes => bytes
  | tail _ => (Word.ofNat distance).toBytes

def tailBytes : Placed → Bytes
  | head _ => []
  | tail bytes => bytes

def heads (distance : Nat) : List Placed → Bytes
  | [] => []
  | placed :: rest => placed.headBytes distance ++ heads (distance + placed.tailBytes.length) rest

def tails : List Placed → Bytes
  | [] => []
  | placed :: rest => placed.tailBytes ++ tails rest

end Placed

theorem layOut_eq (distance : Nat) (placed : List Placed) (before after : Bytes) :
    layOut distance placed before after =
      before ++ Placed.heads distance placed ++ (after ++ Placed.tails placed) := by
  induction placed generalizing distance before after with
  | nil => rw [layOut, Placed.heads, Placed.tails, List.append_nil, List.append_nil]
  | cons placed rest induction =>
      cases placed with
      | head bytes =>
          rw [layOut, induction, Placed.heads, Placed.tails, List.append_assoc before]
          rfl
      | tail bytes =>
          rw [layOut, induction, Placed.heads, Placed.tails, List.append_assoc before,
            List.append_assoc after]
          rfl

theorem encode_eq (types : List ParameterType) (values : Arguments types) :
    encode types values =
      Placed.heads (headSize types) (place types values) ++ Placed.tails (place types values) := by
  rw [encode, layOut_eq, List.nil_append, List.nil_append]

/-! ## One parameter -/

namespace ParameterType

def fits : ParameterType → Bool
  | word type | array type => type.fits
  | record members => members.all WordType.fits
  | bytes | text => true

def isStatic : ParameterType → Bool
  | word _ | record _ => true
  | bytes | text | array _ => false

theorem length_headBytes (type : ParameterType) (value : type.Value) (distance : Nat) :
    ((type.place value).headBytes distance).length = type.headSize := by
  cases type with
  | word type => exact Word.length_toBytes _
  | record members => exact length_encodeRecord members value
  | bytes => exact Word.length_toBytes _
  | text => exact Word.length_toBytes _
  | array element => exact Word.length_toBytes _

theorem tailBytes_of_isStatic {type : ParameterType} (static : type.isStatic = true)
    (value : type.Value) : (type.place value).tailBytes = [] := by
  cases type with
  | word type => rfl
  | record members => rfl
  | bytes => cases static
  | text => cases static
  | array element => cases static

/-- The distance to a tail is written in one word, so it has to be short of that. -/
theorem take?_place {type : ParameterType} (fits : type.fits = true) (value : type.Value)
    (distance : Nat) (near : distance + (type.place value).tailBytes.length < 2 ^ 256)
    (heads tails : Bytes) :
    type.take? distance ((type.place value).headBytes distance ++ heads)
        ((type.place value).tailBytes ++ tails) = some (value, heads, tails) := by
  have written : (Word.ofNat distance).toNat = distance := Word.toNat_ofNat_of_lt (by omega)
  cases type with
  | word type =>
      rw [take?, place, Placed.headBytes, takeWord?_append]
      simp [WordType.ofWord?_toWord fits, Placed.tailBytes]
  | record members =>
      rw [take?, place, Placed.headBytes, decodeRecord?_append fits]
      simp [Placed.tailBytes]
  | bytes =>
      have short := length_le_encodeBytes value
      rw [place, Placed.tailBytes] at near
      rw [take?, place, Placed.headBytes, Placed.tailBytes, takeWord?_append]
      simp [written, decodeBytes?_append value (by omega)]
  | text =>
      have short := length_le_encodeBytes (Bytes.ofText value)
      rw [place, Placed.tailBytes] at near
      rw [take?, place, Placed.headBytes, Placed.tailBytes, takeWord?_append]
      simp [written, decodeBytes?_append (Bytes.ofText value) (by omega),
        Bytes.toText?_ofText]
  | array element =>
      have length := length_encodeElements element value
      rw [place, Placed.tailBytes, List.length_append] at near
      have count : (Word.ofNat value.length).toNat = value.length :=
        Word.toNat_ofNat_of_lt (by omega)
      rw [take?, place, Placed.headBytes, Placed.tailBytes, takeWord?_append, List.append_assoc]
      simp [written, takeWord?_append, count, decodeElements?_append fits]

end ParameterType

/-! ## Parameter lists -/

theorem length_heads_place (types : List ParameterType) (values : Arguments types)
    (distance : Nat) : (Placed.heads distance (place types values)).length = headSize types := by
  induction types generalizing distance with
  | nil => rfl
  | cons type types induction =>
      rcases values with ⟨value, values⟩
      rw [place, Placed.heads, List.length_append, ParameterType.length_headBytes, induction]
      rfl

theorem tails_place_of_isStatic {types : List ParameterType}
    (static : types.all ParameterType.isStatic = true) (values : Arguments types) :
    Placed.tails (place types values) = [] := by
  induction types with
  | nil => rfl
  | cons type types induction =>
      rcases values with ⟨value, values⟩
      rw [List.all_cons, Bool.and_eq_true] at static
      rw [place, Placed.tails, ParameterType.tailBytes_of_isStatic static.1, induction static.2]
      rfl

theorem length_encode (types : List ParameterType) (values : Arguments types) :
    (encode types values).length =
      headSize types + (Placed.tails (place types values)).length := by
  rw [encode_eq, List.length_append, length_heads_place]

theorem length_encode_le {types : List ParameterType} {values : Arguments types} {bytes : Bytes}
    (tails : Placed.tails (place types values) = encodeBytes bytes) :
    (encode types values).length ≤ headSize types + bytes.length + 64 := by
  have written := length_encodeBytes_le bytes
  rw [length_encode, tails]
  omega

theorem length_encode_of_isStatic {types : List ParameterType}
    (static : types.all ParameterType.isStatic = true) (values : Arguments types) :
    (encode types values).length = headSize types := by
  rw [length_encode, tails_place_of_isStatic static]
  rfl

theorem decodeFrom?_place {types : List ParameterType}
    (fit : types.all ParameterType.fits = true) (values : Arguments types) (distance : Nat)
    (near : distance + (Placed.tails (place types values)).length < 2 ^ 256) :
    decodeFrom? distance types (Placed.heads distance (place types values))
      (Placed.tails (place types values)) = some values := by
  induction types generalizing distance with
  | nil => rfl
  | cons type types induction =>
      rcases values with ⟨value, values⟩
      rw [List.all_cons, Bool.and_eq_true] at fit
      rw [place, Placed.tails, List.length_append] at near
      have first := ParameterType.take?_place fit.1 value distance (by omega)
        (Placed.heads (distance + (type.place value).tailBytes.length) (place types values))
        (Placed.tails (place types values))
      have rest := induction fit.2 values (distance + (type.place value).tailBytes.length)
        (by omega)
      rw [place, Placed.heads, Placed.tails, decodeFrom?, first]
      simp [rest]

theorem decode?_encode {types : List ParameterType} (fit : types.all ParameterType.fits = true)
    (values : Arguments types) (short : (encode types values).length < 2 ^ 256) :
    decode? types (encode types values) = some values := by
  have heads := length_heads_place types values (headSize types)
  rw [encode_eq] at short ⊢
  rw [List.length_append, heads] at short
  rw [decode?, List.take_left' heads, List.drop_left' heads]
  exact decodeFrom?_place fit values _ short

theorem encode_inj {types : List ParameterType} (fit : types.all ParameterType.fits = true)
    {values other : Arguments types} (short : (encode types values).length < 2 ^ 256) :
    encode types other = encode types values ↔ other = values := by
  constructor
  · intro same
    have reads := decode?_encode fit other (by rw [same]; exact short)
    rw [same, decode?_encode fit values short] at reads
    exact (Option.some.inj reads).symm
  · rintro rfl
    rfl

theorem Placed.length_tailBytes_le {placed : List Placed} {parameter : Placed}
    (member : parameter ∈ placed) : parameter.tailBytes.length ≤ (tails placed).length := by
  induction placed with
  | nil => cases member
  | cons first rest induction =>
      rw [tails, List.length_append]
      rcases List.mem_cons.mp member with rfl | member
      · exact Nat.le_add_right ..
      · exact Nat.le_trans (induction member) (Nat.le_add_left ..)

theorem length_le_encode {types : List ParameterType} {values : Arguments types} {bytes : Bytes}
    (member : .tail (encodeBytes bytes) ∈ place types values) :
    bytes.length ≤ (encode types values).length := by
  have within := Placed.length_tailBytes_le member
  rw [encode_eq, List.length_append]
  exact Nat.le_trans (length_le_encodeBytes bytes) (Nat.le_trans within (Nat.le_add_left ..))

/-! ## Methods -/

namespace Method

def readable (method : Method) : Bool :=
  method.selector.length == 4 && method.inputs.all ParameterType.fits

variable {method : Method}

theorem take_encode (readable : method.readable = true) (values : Arguments method.inputs) :
    (method.encode values).take 4 = method.selector := by
  rw [Method.readable, Bool.and_eq_true, beq_iff_eq] at readable
  exact List.take_left' readable.1

theorem decode?_encode (readable : method.readable = true) (values : Arguments method.inputs)
    (short : (method.encode values).length < 2 ^ 256) :
    method.decode? (method.encode values) = some values := by
  have four := take_encode readable values
  rw [Method.readable, Bool.and_eq_true, beq_iff_eq] at readable
  rw [encode, List.length_append] at short
  rw [decode?, if_pos four, encode, List.drop_left' readable.1]
  exact Abi.decode?_encode readable.2 values (by omega)

theorem take_of_decode? {data : Bytes} {values : Arguments method.inputs}
    (reads : method.decode? data = some values) : data.take 4 = method.selector := by
  rw [decode?] at reads
  split at reads
  · assumption
  · cases reads

theorem length_encode_of_isStatic (static : method.inputs.all ParameterType.isStatic = true)
    (values : Arguments method.inputs) :
    (method.encode values).length = method.selector.length + headSize method.inputs := by
  rw [encode, List.length_append, Abi.length_encode_of_isStatic static]

end Method

/-! ## Forms -/

variable {Call : Type} {forms : List (Form Call)}

/-- Selectors that differ leave at most one form to read call data in, so their order is no
matter. -/
theorem decodeForms?_eq_some_iff_of_nodup
    (distinct : (forms.map fun form => form.method.selector).Nodup) {data : Bytes} {call : Call} :
    decodeForms? forms data = some call ↔
      ∃ form ∈ forms, ∃ values, form.method.decode? data = some values ∧
        form.build values = call := by
  constructor
  · intro decodes
    rcases List.exists_of_findSome?_eq_some decodes with ⟨form, member, reads⟩
    exact ⟨form, member, Option.map_eq_some_iff.mp reads⟩
  · rintro ⟨form, member, values, reads, rfl⟩
    have selected : data.take 4 = form.method.selector := Method.take_of_decode? reads
    rcases List.append_of_mem member with ⟨before, after, rfl⟩
    rw [List.map_append, List.map_cons, List.nodup_append] at distinct
    refine List.findSome?_eq_some_iff.mpr ⟨before, form, after, rfl, ?_, fun other earlier => ?_⟩
    · rw [reads]
      rfl
    · have differs := distinct.2.2 _ (List.mem_map_of_mem earlier) _ (List.mem_cons_self ..)
      rw [Method.decode?, selected, if_neg differs.symm]
      rfl

theorem decodeForms?_encode {form : Form Call}
    (distinct : (forms.map fun form => form.method.selector).Nodup) (member : form ∈ forms)
    (readable : form.method.readable = true) (values : Arguments form.method.inputs)
    (short : (form.method.encode values).length < 2 ^ 256) :
    decodeForms? forms (form.method.encode values) = some (form.build values) :=
  (decodeForms?_eq_some_iff_of_nodup distinct).mpr
    ⟨form, member, values, Method.decode?_encode readable values short, rfl⟩

/-- One of the forms writes this for a call, and what it writes can be read. -/
def HasForm (forms : List (Form Call)) (data : Bytes) (call : Call) : Prop :=
  ∃ form ∈ forms, form.method.readable = true ∧
    ∃ values, form.method.encode values = data ∧ form.build values = call

theorem decodeForms?_of_hasForm (distinct : (forms.map fun form => form.method.selector).Nodup)
    {data : Bytes} {call : Call} (written : HasForm forms data call)
    (short : data.length < 2 ^ 256) : decodeForms? forms data = some call := by
  rcases written with ⟨form, member, readable, values, rfl, rfl⟩
  exact decodeForms?_encode distinct member readable values short

theorem decodeForms?_of_notMem {data : Bytes}
    (foreign : data.take 4 ∉ forms.map fun form => form.method.selector) :
    decodeForms? forms data = none := by
  refine List.findSome?_eq_none_iff.mpr fun form member => ?_
  have other : data.take 4 ≠ form.method.selector := fun same =>
    foreign (same ▸ List.mem_map_of_mem member)
  rw [Method.decode?, if_neg other, Option.map_none]

end LendingPool.Abi
