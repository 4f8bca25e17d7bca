import LendingPool.Json.Record
import LendingPool.Proofs.Json.RoundTrip
import Mathlib.Data.List.Nodup
/-! Records that are read from objects. What is read of a member is what is given under its name, so
it makes no difference in which order members are given, or which others are among them. -/

namespace LendingPool

namespace Member

variable {member : Member} {members : List Member} {given other : List (String × Json)}
  {name : String} {value : Json}

/-! ## One member -/

theorem find?_perm (same : given.Perm other) : member.find? given = member.find? other := by
  rw [find?, find?]
  have entries := same.filter fun entry => entry.1 == member.name
  generalize given.filter (fun entry => entry.1 == member.name) = left at entries ⊢
  generalize other.filter (fun entry => entry.1 == member.name) = right at entries ⊢
  rcases left with _ | ⟨first, _ | ⟨second, rest⟩⟩
  · rw [entries.nil_eq]
  · rw [List.singleton_perm.mp entries]
  · have length := entries.length_eq
    rcases right with _ | ⟨other, _ | ⟨another, others⟩⟩
    · simp at length
    · simp at length
    · rfl

theorem find?_of_absent (absent : member.name ∉ given.map Prod.fst) :
    member.find? given = member.default := by
  rw [find?, filter_eq_nil_of_notMem absent]

/-- A member that is given twice is not read at all. -/
theorem find?_cons_of_mem (present : member.name ∈ given.map Prod.fst) (value : Json) :
    member.find? ((member.name, value) :: given) = none := by
  rw [find?, List.filter_cons_of_pos (by simp)]
  cases others : given.filter fun entry => entry.1 == member.name with
  | nil =>
      rcases List.mem_map.mp present with ⟨entry, inside, same⟩
      have kept : entry ∈ given.filter fun entry => entry.1 == member.name :=
        List.mem_filter.mpr ⟨inside, by simp [same]⟩
      rw [others] at kept
      cases kept
  | cons second rest => rfl

theorem find?_cons_of_notMem (absent : member.name ∉ given.map Prod.fst) (value : Json) :
    member.find? ((member.name, value) :: given) = member.codec.read value := by
  rw [find?, List.filter_cons_of_pos (by simp), filter_eq_nil_of_notMem absent]

theorem find?_of_find?_cons {result : member.Value}
    (found : member.find? ((member.name, value) :: given) = some result) :
    member.codec.read value = some result ∧ member.find? given = member.default := by
  have absent : member.name ∉ given.map Prod.fst := fun present => by
    rw [find?_cons_of_mem present] at found
    cases found
  rw [find?_cons_of_notMem absent] at found
  exact ⟨found, find?_of_absent absent⟩

theorem find?_filter_ne (differ : name ≠ member.name) (given : List (String × Json)) :
    member.find? (given.filter fun entry => entry.1 != name) = member.find? given := by
  have same : ∀ entry ∈ given,
      (entry.1 == member.name && entry.1 != name) = (entry.1 == member.name) := by
    intro entry _
    by_cases named : entry.1 = member.name
    · simp [named, differ.symm]
    · simp [named]
  rw [find?, find?, List.filter_filter, List.filter_congr same]

/-! ## All members -/

theorem readObject?_congr
    (same : ∀ member ∈ members, member.find? given = member.find? other) :
    readObject? members given = readObject? members other := by
  induction members with
  | nil => rfl
  | cons member members induction =>
      rcases List.forall_mem_cons.mp same with ⟨first, rest⟩
      rw [readObject?, readObject?, first, induction rest]

theorem exists_find?_of_readObject? {values : Values members}
    (reads : readObject? members given = some values) :
    ∀ member ∈ members, ∃ value, member.find? given = some value := by
  induction members with
  | nil => nofun
  | cons member members induction =>
      simp only [readObject?, Option.bind_eq_bind, Option.bind_eq_some_iff] at reads
      rcases reads with ⟨value, found, others, reads, -⟩
      exact List.forall_mem_cons.mpr ⟨⟨value, found⟩, induction reads⟩

/-! ## Other objects for the same record -/

def isPlain : Json → Bool
  | .null | .bool _ | .string _ => true
  | _ => false

/-- One object becomes another one that is read the same: its members come in another order, one of
them is left out that is null or has its default, or a plain one comes in that nobody knows. -/
inductive Rewrites (members : List Member) :
    List (String × Json) → List (String × Json) → Prop
  | reorder {given other : List (String × Json)} (same : given.Perm other) :
      Rewrites members given other
  | leaveOut {member : Member} {value : Json} {default : member.Value}
      {given : List (String × Json)} (known : member ∈ members)
      (defaulted : member.default = some default)
      (idle : member.codec.read value = some default ∨ value = .null) :
      Rewrites members ((member.name, value) :: given) given
  | add {name : String} {value : Json} {given : List (String × Json)}
      (unknown : name ∉ members.map Member.name) (plain : isPlain value = true) :
      Rewrites members given ((name, value) :: given)

/-- A known member comes in once more, wherever and whatever its value is. -/
def Repeats (members : List Member) (given other : List (String × Json)) : Prop :=
  ∃ member ∈ members, member.name ∈ given.map Prod.fst ∧
    ∃ value, ((member.name, value) :: given).Perm other

def Omits (members : List Member) (given other : List (String × Json)) : Prop :=
  ∃ member ∈ members, member.default = none ∧
    ∃ value, given.Perm ((member.name, value) :: other)

theorem eq_of_name_eq (distinct : (members.map Member.name).Nodup) {other : Member}
    (known : member ∈ members) (otherKnown : other ∈ members) (same : member.name = other.name) :
    member = other :=
  List.inj_on_of_nodup_map distinct known otherKnown same

theorem find?_of_rewrites (distinct : (members.map Member.name).Nodup)
    (nullIdle : ∀ member ∈ members, ∀ value,
      member.codec.read .null = some value → member.default = some value)
    (rewrites : Rewrites members given other)
    (found : ∀ member ∈ members, ∃ value, member.find? given = some value) :
    ∀ member ∈ members, member.find? given = member.find? other := by
  intro asked known
  cases rewrites with
  | reorder same => exact find?_perm same
  | @leaveOut idler value default _ left defaulted idle =>
      by_cases same : idler.name = asked.name
      · have asksIdler : asked = idler := eq_of_name_eq distinct known left same.symm
        subst asksIdler
        rcases found asked known with ⟨result, finds⟩
        -- It is read, so it was given once, and nothing of its name remains.
        rcases find?_of_find?_cons finds with ⟨reads, rest⟩
        rw [finds, rest]
        rcases idle with idle | rfl
        · rw [defaulted, ← idle, reads]
        · exact (nullIdle asked known result reads).symm
      · exact find?_cons_of_ne _ same
  | @add name value _ unknown plain =>
      have differ : name ≠ asked.name := fun same =>
        unknown (List.mem_map.mpr ⟨asked, known, same.symm⟩)
      exact (find?_cons_of_ne _ differ).symm

end Member

/-! ## What is readable -/

namespace Json

theorem allMembersReadable_iff {depth : Nat} {members : List (String × Json)} :
    allMembersReadable depth members = true ↔
      ∀ entry ∈ members, entry.2.isReadable depth = true := by
  induction members with
  | nil => simp [allMembersReadable]
  | cons entry members induction =>
      rw [allMembersReadable, Bool.and_eq_true, induction, List.forall_mem_cons]

end Json

theorem Member.isReadable_of_isPlain {value : Json} (plain : isPlain value = true) (depth : Nat) :
    value.isReadable depth = true := by
  cases value <;> first | rfl | cases plain

theorem Member.Rewrites.readable {members : List Member} {given other : List (String × Json)}
    (rewrites : Rewrites members given other) {depth : Nat}
    (readable : Json.allMembersReadable depth given = true) :
    Json.allMembersReadable depth other = true := by
  rw [Json.allMembersReadable_iff] at readable ⊢
  cases rewrites with
  | reorder same => exact fun entry inside => readable entry (same.mem_iff.mpr inside)
  | leaveOut => exact (List.forall_mem_cons.mp readable).2
  | add unknown plain =>
      exact List.forall_mem_cons.mpr ⟨isReadable_of_isPlain plain depth, readable⟩

/-! ## What is written -/

namespace Codec

variable {α : Type} {depth : Nat}

def Prints (depth : Nat) (codec : Codec α) : Prop :=
  ∀ value, (codec.write value).isSpelled = true ∧ (codec.write value).isReadable depth = true

theorem prints_text : text.Prints depth :=
  fun _ => ⟨rfl, rfl⟩

theorem prints_flag : flag.Prints depth :=
  fun _ => ⟨rfl, rfl⟩

theorem prints_ofNat {bound : Nat} {toNat : α → Nat} {ofNat : Nat → α}
    {toNat_lt : ∀ value, toNat value < bound}
    {ofNat_toNat : ∀ value, ofNat (toNat value) = value} (small : bound ≤ 2 ^ 64) :
    (Codec.ofNat bound toNat ofNat toNat_lt ofNat_toNat).Prints depth := by
  intro value
  refine ⟨?_, rfl⟩
  have inside := toNat_lt value
  change (Json.number (.integer (toNat value))).isSpelled = true
  simp only [Json.isSpelled, Bool.and_eq_true, decide_eq_true_eq]
  omega

theorem prints_uint8 : uint8.Prints depth :=
  prints_ofNat (by decide)

theorem prints_uint16 : uint16.Prints depth :=
  prints_ofNat (by decide)

theorem prints_uint64 : uint64.Prints depth :=
  prints_ofNat (Nat.le_refl _)

theorem prints_optional {codec : Codec α} {notNull : ∀ value, codec.write value ≠ .null}
    (prints : codec.Prints depth) : (optional codec notNull).Prints depth := by
  intro value
  cases value with
  | none => exact ⟨rfl, rfl⟩
  | some value => exact prints value

theorem prints_choice {name : α → String} {all : List α}
    {find_name : ∀ value, all.find? (fun other => name other == name value) = some value} :
    (choice name all find_name).Prints depth :=
  fun _ => ⟨rfl, rfl⟩

end Codec

theorem Member.prints_write {depth : Nat} {members : List Member}
    (prints : ∀ member ∈ members, member.codec.Prints depth) (values : Values members) :
    Json.allMembersSpelled (write members values) = true ∧
      Json.allMembersReadable depth (write members values) = true := by
  induction members with
  | nil => exact ⟨rfl, rfl⟩
  | cons member members induction =>
      rcases List.forall_mem_cons.mp prints with ⟨first, rest⟩
      rw [write, Json.allMembersSpelled, Json.allMembersReadable, (first values.1).1,
        (first values.1).2]
      exact induction rest values.2

theorem Record.prints_codec {α : Type} {record : Record α} {depth : Nat}
    (prints : ∀ member ∈ record.members, member.codec.Prints depth) :
    record.codec.Prints (depth + 1) := by
  intro value
  have written := Member.prints_write prints (record.toValues value)
  refine ⟨written.1, ?_⟩
  change Json.isReadable (depth + 1) (.object (record.write value)) = true
  rw [Json.isReadable, Record.write]
  simpa using written.2

end LendingPool
