import LendingPool.Toml.Value
/-! Places in a TOML value, and the values that there are: whole numbers have 64 bits, and tables
are sorted by keys that are all different. -/

namespace LendingPool.Toml

/-! ## Places -/

def follow? : (path : List String) → Toml → Option Toml
  | [], value => some value
  | key :: path, table entries => (entries.lookup key).bind (follow? path)
  | _ :: _, _ => none

variable {key : String} {path : List String} {entries : List (String × Toml)} {value : Toml}

@[simp] theorem follow?_nil (value : Toml) : value.follow? [] = some value := by
  cases value <;> rfl

@[simp] theorem follow?_cons_table (key : String) (path : List String)
    (entries : List (String × Toml)) :
    (table entries).follow? (key :: path) = (entries.lookup key).bind (·.follow? path) :=
  rfl

@[simp] theorem follow?_singleton_table (key : String) (entries : List (String × Toml)) :
    (table entries).follow? [key] = entries.lookup key := by
  cases found : entries.lookup key <;> simp [found]

theorem follow?_cons_eq_some_iff {found : Toml} :
    value.follow? (key :: path) = some found ↔
      ∃ entries inner, value = table entries ∧ entries.lookup key = some inner ∧
        inner.follow? path = some found := by
  cases value with
  | table entries => simp [Option.bind_eq_some_iff]
  | string | integer | float | boolean | datetime | array => simp [follow?]

theorem follow?_append (before after : List String) (value : Toml) :
    value.follow? (before ++ after) = (value.follow? before).bind (·.follow? after) := by
  induction before generalizing value with
  | nil => simp
  | cons key before induction =>
      cases value with
      | table entries =>
          rw [List.cons_append, follow?_cons_table, follow?_cons_table, Option.bind_assoc]
          exact congrArg _ (funext fun inner => induction inner)
      | string | integer | float | boolean | datetime | array => rfl

theorem follow?_cons (key : String) (path : List String) (value : Toml) :
    value.follow? (key :: path) = (value.follow? [key]).bind (·.follow? path) :=
  follow?_append [key] path value

/-! ## Proper values -/

inductive Proper : Toml → Prop
  | string (text : String) : Proper (.string text)
  | integer {value : Int} (least : -2 ^ 63 ≤ value) (greatest : value < 2 ^ 63) :
      Proper (.integer value)
  | float (value : Option Binary64) : Proper (.float value)
  | boolean (value : Bool) : Proper (.boolean value)
  | datetime (text : String) : Proper (.datetime text)
  | array {items : List Toml} (proper : ∀ item ∈ items, Proper item) : Proper (.array items)
  | table {entries : List (String × Toml)} (sorted : entries.Pairwise (·.1 < ·.1))
      (proper : ∀ entry ∈ entries, Proper entry.2) : Proper (.table entries)

@[simp] theorem proper_string (text : String) : (string text).Proper :=
  .string text

@[simp] theorem proper_integer_iff {value : Int} :
    (integer value).Proper ↔ -2 ^ 63 ≤ value ∧ value < 2 ^ 63 :=
  ⟨fun | .integer least greatest => ⟨least, greatest⟩,
    fun ⟨least, greatest⟩ => .integer least greatest⟩

@[simp] theorem proper_table_iff :
    (table entries).Proper ↔
      entries.Pairwise (·.1 < ·.1) ∧ ∀ entry ∈ entries, entry.2.Proper :=
  ⟨fun | .table sorted proper => ⟨sorted, proper⟩, fun ⟨sorted, proper⟩ => .table sorted proper⟩

theorem mem_of_lookup {α : Type} {entries : List (String × α)} {value : α}
    (found : entries.lookup key = some value) : (key, value) ∈ entries := by
  rcases List.lookup_eq_some_iff.mp found with ⟨before, after, split, -⟩
  simp [split]

theorem lookup_of_mem (sorted : entries.Pairwise (·.1 < ·.1)) (member : (key, value) ∈ entries) :
    entries.lookup key = some value := by
  induction entries with
  | nil => cases member
  | cons entry entries induction =>
      rcases List.pairwise_cons.mp sorted with ⟨first, sorted⟩
      rcases List.mem_cons.mp member with rfl | later
      · exact List.lookup_cons_self
      · have apart : (key == entry.1) = false := by
          have less : entry.1 < key := first (key, value) later
          refine beq_eq_false_iff_ne.mpr fun same => ?_
          rw [← same] at less
          exact String.lt_irrefl key less
        rw [List.lookup_cons, apart]
        exact induction sorted later

theorem Proper.follow {found : Toml} (proper : value.Proper)
    (follows : value.follow? path = some found) : found.Proper := by
  induction path generalizing value with
  | nil =>
      rw [follow?_nil] at follows
      cases follows
      exact proper
  | cons key path induction =>
      rcases follow?_cons_eq_some_iff.mp follows with ⟨entries, inner, rfl, looked, rest⟩
      rcases proper with - | - | - | - | - | - | ⟨-, inside⟩
      exact induction (inside _ (mem_of_lookup looked)) rest

end LendingPool.Toml
