import LendingPool.Json.Codec
/-! Records as JSON objects.

A record is written with all its members, in order. It is read from an object whose members may
come in any order and may have others among them, or from an array of the members in order. A
member with a default may be left out, in an array only at the end. No member may be given
twice. -/

namespace LendingPool

/-- A member of a record. With a default it may be left out. -/
structure Member where
  Value : Type
  name : String
  codec : Codec Value
  default : Option Value

namespace Member

def required {α : Type} (name : String) (codec : Codec α) : Member :=
  ⟨α, name, codec, none⟩

def defaulted {α : Type} (name : String) (codec : Codec α) (default : α) : Member :=
  ⟨α, name, codec, some default⟩

abbrev Values : List Member → Type
  | [] => Unit
  | member :: members => member.Value × Values members

/-! ## Writing -/

def write : (members : List Member) → Values members → List (String × Json)
  | [], () => []
  | member :: members, (value, values) =>
      (member.name, member.codec.write value) :: write members values

/-! ## Reading -/

def find? (member : Member) (given : List (String × Json)) : Option member.Value :=
  match given.filter fun entry => entry.1 == member.name with
  | [] => member.default
  | [(_, value)] => member.codec.read value
  | _ => none

def readObject? : (members : List Member) → List (String × Json) → Option (Values members)
  | [], _ => some ()
  | member :: members, given => do
      let value ← member.find? given
      return (value, ← readObject? members given)

def readArray? : (members : List Member) → List Json → Option (Values members)
  | [], [] => some ()
  | [], _ :: _ => none
  | member :: members, [] => do
      let value ← member.default
      return (value, ← readArray? members [])
  | member :: members, item :: items => do
      let value ← member.codec.read item
      return (value, ← readArray? members items)

/-! ## What is written is read back -/

theorem map_fst_write (members : List Member) (values : Values members) :
    (write members values).map Prod.fst = members.map Member.name := by
  induction members with
  | nil => rfl
  | cons member members ih => simp [write, ih values.2]

theorem filter_eq_nil_of_notMem {given : List (String × Json)} {name : String}
    (absent : name ∉ given.map Prod.fst) : (given.filter fun entry => entry.1 == name) = [] := by
  rw [List.filter_eq_nil_iff]
  intro entry mem same
  exact absent (List.mem_map.2 ⟨entry, mem, by simpa using same⟩)

theorem find?_cons_of_ne {member : Member} {entry : String × Json} (given : List (String × Json))
    (other : entry.1 ≠ member.name) : member.find? (entry :: given) = member.find? given := by
  simp [find?, other]

theorem readObject?_cons_of_notMem (members : List Member) {entry : String × Json}
    (given : List (String × Json)) (absent : entry.1 ∉ members.map Member.name) :
    readObject? members (entry :: given) = readObject? members given := by
  induction members with
  | nil => rfl
  | cons member members ih =>
      have other : entry.1 ≠ member.name := fun same => absent (by simp [same])
      have absent : entry.1 ∉ members.map Member.name := fun mem => absent (by simp [mem])
      simp only [readObject?, find?_cons_of_ne given other, ih absent]

theorem readObject?_write (members : List Member) (values : Values members)
    (distinct : (members.map Member.name).Nodup) :
    readObject? members (write members values) = some values := by
  induction members with
  | nil => rfl
  | cons member members ih =>
      have absent : member.name ∉ members.map Member.name := (List.nodup_cons.1 distinct).1
      have found : member.find? (write (member :: members) values) = some values.1 := by
        have rest : ((write members values.2).filter fun entry => entry.1 == member.name) = [] :=
          filter_eq_nil_of_notMem (by rw [map_fst_write]; exact absent)
        simp [find?, write, rest, member.codec.read_write]
      have others : readObject? members (write (member :: members) values) = some values.2 := by
        rw [write, readObject?_cons_of_notMem members _ absent]
        exact ih values.2 (List.nodup_cons.1 distinct).2
      simp [readObject?, found, others]

end Member

/-- A type whose values are records of members with distinct names. -/
structure Record (α : Type) where
  members : List Member
  toValues : α → Member.Values members
  ofValues : Member.Values members → α
  ofValues_toValues : ∀ value, ofValues (toValues value) = value
  distinct : (members.map Member.name).Nodup

namespace Record

variable {α : Type} (record : Record α)

def write (value : α) : List (String × Json) :=
  Member.write record.members (record.toValues value)

def read : Json → Option α
  | .object given => record.ofValues <$> Member.readObject? record.members given
  | .array items => record.ofValues <$> Member.readArray? record.members items
  | _ => none

theorem read_write (value : α) : record.read (.object (record.write value)) = some value := by
  simp [read, write, Member.readObject?_write _ _ record.distinct, record.ofValues_toValues]

def codec : Codec α where
  write value := .object (record.write value)
  read := record.read
  read_write := record.read_write

end Record

end LendingPool
