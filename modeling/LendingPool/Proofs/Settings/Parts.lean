import LendingPool.Settings.Loading
import Mathlib.Data.List.TakeWhile
/-! What a text with references to environment variables is made of: its references, and the
characters between them. A name may have an opening brace or a dollar sign in it, so a reference may
be found inside of another one, which is then the only one of the two that is a part. -/

namespace LendingPool

/-! ## Parts -/

inductive TextPart
  | character (c : Char)
  | reference (name : List Char)
deriving DecidableEq

namespace TextPart

def text : TextPart → List Char
  | character c => [c]
  | reference name => LendingPool.reference name

def joined (parts : List TextPart) : List Char :=
  parts.flatMap text

def name? : TextPart → Option (List Char)
  | character _ => none
  | reference name => some name

def names (parts : List TextPart) : List (List Char) :=
  parts.filterMap name?

@[simp] theorem joined_nil : joined [] = [] :=
  rfl

@[simp] theorem joined_cons (part : TextPart) (parts : List TextPart) :
    joined (part :: parts) = part.text ++ joined parts :=
  rfl

@[simp] theorem joined_append (left right : List TextPart) :
    joined (left ++ right) = joined left ++ joined right :=
  List.flatMap_append ..

theorem joined_characters (characters : List Char) :
    joined (characters.map character) = characters := by
  rw [joined, List.flatMap_map]
  exact List.flatMap_singleton' characters

theorem text_ne_nil (part : TextPart) : part.text ≠ [] := by
  cases part with
  | character c => exact List.cons_ne_nil c []
  | reference name => exact List.cons_ne_nil '$' _

theorem mem_names_iff {parts : List TextPart} {name : List Char} :
    name ∈ names parts ↔ reference name ∈ parts := by
  rw [names, List.mem_filterMap]
  constructor
  · rintro ⟨part, member, found⟩
    cases part with
    | character c => cases found
    | reference other =>
        cases found
        exact member
  · exact fun member => ⟨_, member, rfl⟩

end TextPart

open TextPart (joined names)

def IsName (name : List Char) : Prop :=
  name ≠ [] ∧ '}' ∉ name

instance (name : List Char) : Decidable (IsName name) :=
  inferInstanceAs (Decidable (_ ∧ _))

/-- The parts of a text as they are found from left to right: wherever a reference can begin, one
does. -/
structure PartsOf (text : List Char) (parts : List TextPart) : Prop where
  joins : joined parts = text
  named : ∀ name, .reference name ∈ parts → IsName name
  leftmost : ∀ before c after, parts = before ++ .character c :: after →
    ∀ name rest, IsName name → c :: joined after ≠ reference name ++ rest

def partsOf : List Char → List TextPart
  | '$' :: '{' :: text =>
      match referenceName? text with
      | some name => .reference name :: partsOf (text.drop (name.length + 1))
      | none => .character '$' :: partsOf ('{' :: text)
  | c :: text => .character c :: partsOf text
  | [] => []
termination_by text => text.length
decreasing_by all_goals (simp only [List.length_drop, List.length_cons]; omega)

/-! ### Cutting -/

theorem reference_append (name rest : List Char) :
    reference name ++ rest = '$' :: '{' :: (name ++ '}' :: rest) := by
  simp [reference]

theorem IsName.eq_of_append {name other rest otherRest : List Char} (proper : IsName name)
    (otherProper : IsName other) (same : name ++ '}' :: rest = other ++ '}' :: otherRest) :
    name = other ∧ rest = otherRest := by
  rcases List.append_eq_append_iff.mp same with ⟨middle, rfl, tail⟩ | ⟨middle, rfl, tail⟩
  · cases middle with
    | nil => simpa using tail
    | cons c middle =>
        cases (List.cons.inj tail).1
        exact absurd (by simp) otherProper.2
  · cases middle with
    | nil => simpa using tail.symm
    | cons c middle =>
        cases (List.cons.inj tail).1
        exact absurd (by simp) proper.2

theorem referenceName?_eq_some_iff {text name : List Char} :
    referenceName? text = some name ↔ IsName name ∧ ∃ rest, text = name ++ '}' :: rest := by
  have cut := List.takeWhile_append_dropWhile (p := (· != '}')) (l := text)
  simp only [referenceName?]
  constructor
  · intro found
    split at found
    · cases found
    · rename_i proper
      cases found
      simp only [Bool.or_eq_true, List.isEmpty_iff, not_or] at proper
      refine ⟨⟨proper.1, fun brace => by simpa using List.mem_takeWhile_imp brace⟩, ?_⟩
      cases after : text.dropWhile (· != '}') with
      | nil => exact absurd after proper.2
      | cons c rest =>
          have closes := List.head?_dropWhile_not (· != '}') text
          rw [after] at closes
          have brace : c = '}' := by simpa using closes
          rw [after, brace] at cut
          exact ⟨rest, cut.symm⟩
  · rintro ⟨⟨nonempty, plain⟩, rest, rfl⟩
    have inside : ∀ c ∈ name, (c != '}') = true := by
      intro c member
      exact bne_iff_ne.mpr fun brace => plain (brace ▸ member)
    rw [List.takeWhile_append_of_pos inside, List.dropWhile_append_of_pos inside]
    simp [nonempty]

theorem partsOf_reference {name : List Char} (proper : IsName name) (rest : List Char) :
    partsOf (reference name ++ rest) = .reference name :: partsOf rest := by
  have found : referenceName? (name ++ '}' :: rest) = some name :=
    referenceName?_eq_some_iff.mpr ⟨proper, rest, rfl⟩
  have after : (name ++ '}' :: rest).drop (name.length + 1) = rest := by simp
  rw [reference_append, partsOf, found]
  exact congrArg (fun rest => TextPart.reference name :: partsOf rest) after

theorem partsOf_character {c : Char} {rest : List Char}
    (plain : ∀ name after, IsName name → c :: rest ≠ reference name ++ after) :
    partsOf (c :: rest) = .character c :: partsOf rest := by
  generalize begins : c :: rest = text at plain
  fun_cases partsOf text with
  | case1 text name found =>
      rcases referenceName?_eq_some_iff.mp found with ⟨proper, after, rfl⟩
      exact absurd (reference_append name after).symm (plain name after proper)
  | case2 text missing =>
      cases begins
      rfl
  | case3 =>
      cases begins
      rfl
  | case4 => cases begins

theorem references_eq_names (text : List Char) : references text = names (partsOf text) := by
  fun_induction partsOf text with
  | case1 text name found induction =>
      rw [references, found]
      exact congrArg (name :: ·) induction
  | case2 text missing induction =>
      rw [references, missing]
      exact induction
  | case3 c text apart induction =>
      rw [references]
      · exact induction
      · exact apart
  | case4 => rw [references]; rfl

theorem PartsOf.tail {text : List Char} {part : TextPart} {parts : List TextPart}
    (cut : PartsOf text (part :: parts)) : PartsOf (joined parts) parts where
  joins := rfl
  named name member := cut.named name (List.mem_cons_of_mem _ member)
  leftmost before c after split :=
    cut.leftmost (part :: before) c after (congrArg (part :: ·) split)

theorem PartsOf.cons_reference {text name : List Char} {parts : List TextPart}
    (proper : IsName name) (cut : PartsOf text parts) :
    PartsOf (reference name ++ text) (.reference name :: parts) where
  joins := by rw [TextPart.joined_cons, cut.joins]; rfl
  named other member := by
    rcases List.mem_cons.mp member with same | member
    · cases same
      exact proper
    · exact cut.named other member
  leftmost before c after split := by
    cases before with
    | nil => cases split
    | cons part before => exact cut.leftmost before c after (List.cons.inj split).2

theorem PartsOf.cons_character {text : List Char} {c : Char} {parts : List TextPart}
    (plain : ∀ name after, IsName name → c :: text ≠ reference name ++ after)
    (cut : PartsOf text parts) : PartsOf (c :: text) (.character c :: parts) where
  joins := by rw [TextPart.joined_cons, cut.joins]; rfl
  named name member := cut.named name (by simpa using member)
  leftmost before other after split := by
    cases before with
    | nil =>
        cases split
        rw [cut.joins]
        exact plain
    | cons part before => exact cut.leftmost before other after (List.cons.inj split).2

theorem partsOf_iff {text : List Char} {parts : List TextPart} :
    PartsOf text parts ↔ parts = partsOf text := by
  constructor
  · intro cut
    induction parts generalizing text with
    | nil =>
        cases cut.joins
        rw [TextPart.joined_nil, partsOf]
    | cons part parts induction =>
        have rest := induction cut.tail
        rw [← cut.joins, TextPart.joined_cons]
        cases part with
        | character c =>
            refine (congrArg (TextPart.character c :: ·) rest).trans ?_
            exact (partsOf_character (cut.leftmost [] c parts rfl)).symm
        | reference name =>
            refine (congrArg (TextPart.reference name :: ·) rest).trans ?_
            exact (partsOf_reference (cut.named name (List.mem_cons_self ..)) _).symm
  · rintro rfl
    fun_induction partsOf text with
    | case1 text name found induction =>
        rcases referenceName?_eq_some_iff.mp found with ⟨proper, rest, rfl⟩
        have after : (name ++ '}' :: rest).drop (name.length + 1) = rest := by simp
        rw [after] at induction ⊢
        rw [← reference_append]
        exact induction.cons_reference proper
    | case2 text missing induction =>
        refine induction.cons_character fun name after proper begins => ?_
        rw [reference_append] at begins
        cases begins
        rw [referenceName?_eq_some_iff.mpr ⟨proper, after, rfl⟩] at missing
        cases missing
    | case3 c text apart induction =>
        refine induction.cons_character fun name after proper begins => ?_
        rw [reference_append] at begins
        cases begins
        exact apart _ rfl rfl
    | case4 => exact ⟨rfl, nofun, fun before c after split => by simp at split⟩

/-! ## Occurrences -/

/-- Wherever a text that is made of parts has a reference to the name in it, it is one of them. -/
def OccursAsPart (name : List Char) (parts : List TextPart) : Prop :=
  ∀ left right, joined parts = left ++ (reference name ++ right) →
    ∃ before after, parts = before ++ .reference name :: after ∧ joined before = left

variable {name value text left middle right : List Char} {part : TextPart} {parts : List TextPart}

/-- The first part is the reference, or none begins inside of it. -/
theorem OccursAsPart.starts (whole : OccursAsPart name (part :: parts))
    (splits : part.text = left ++ middle) (nonempty : middle ≠ [])
    (begins : middle ++ joined parts = reference name ++ right) : part = .reference name := by
  have occurs : joined (part :: parts) = left ++ (reference name ++ right) := by
    rw [TextPart.joined_cons, splits, List.append_assoc, begins]
  rcases whole left right occurs with ⟨_ | ⟨first, before⟩, after, cut, joins⟩
  · exact (List.cons.inj cut).1
  · cases (List.cons.inj cut).1
    rw [TextPart.joined_cons, splits, List.append_assoc, List.append_right_eq_self,
      List.append_eq_nil_iff] at joins
    exact absurd joins.1 nonempty

theorem OccursAsPart.tail (whole : OccursAsPart name (part :: parts)) :
    OccursAsPart name parts := by
  intro left right occurs
  have later : joined (part :: parts) = part.text ++ left ++ (reference name ++ right) := by
    rw [TextPart.joined_cons, occurs, List.append_assoc]
  rcases whole _ right later with ⟨_ | ⟨first, before⟩, after, cut, joins⟩
  · have empty : part.text = [] := (List.append_eq_nil_iff.mp joins.symm).1
    exact absurd empty part.text_ne_nil
  · rcases List.cons.inj cut with ⟨rfl, rest⟩
    exact ⟨before, after, rest, List.append_cancel_left joins⟩

/-- A reference that begins inside of another one has its dollar sign in the other's name. -/
theorem mem_of_reference_eq_append {other rest after : List Char}
    (inside : reference other = left ++ middle) (later : left ≠ []) (nonempty : middle ≠ [])
    (begins : reference name ++ rest = middle ++ after) : '$' ∈ other := by
  cases left with
  | nil => exact absurd rfl later
  | cons first left =>
      cases middle with
      | nil => exact absurd rfl nonempty
      | cons mark middle =>
          rw [reference_append, List.cons_append] at begins
          cases (List.cons.inj begins).1
          have name : '{' :: (other ++ ['}']) = left ++ '$' :: middle := (List.cons.inj inside).2
          have member : '$' ∈ '{' :: (other ++ ['}']) := by
            rw [name]
            simp
          simpa using member

theorem PartsOf.occursAsPart (cut : PartsOf text parts) (proper : IsName name)
    (plain : ∀ other, .reference other ∈ parts → '$' ∉ other) : OccursAsPart name parts := by
  induction parts generalizing text with
  | nil =>
      intro left right occurs
      simp [reference] at occurs
  | cons part parts induction =>
      intro left right occurs
      have further : OccursAsPart name parts :=
        induction cut.tail fun other member => plain other (List.mem_cons_of_mem _ member)
      cases part with
      | character c =>
          cases left with
          | nil => exact absurd occurs (cut.leftmost [] c parts rfl name right proper)
          | cons first left =>
              rcases List.cons.inj occurs with ⟨rfl, later⟩
              rcases further left right later with ⟨before, after, rfl, rfl⟩
              exact ⟨.character c :: before, after, rfl, rfl⟩
      | reference other =>
          rw [TextPart.joined_cons, TextPart.text] at occurs
          by_cases start : left = []
          · have otherProper := cut.named other (List.mem_cons_self ..)
            rw [start, List.nil_append, reference_append, reference_append] at occurs
            cases (otherProper.eq_of_append proper (List.cons.inj (List.cons.inj occurs).2).2).1
            exact ⟨[], parts, rfl, start.symm⟩
          · rcases List.append_eq_append_iff.mp occurs with
              ⟨middle, rfl, later⟩ | ⟨middle, inside, begins⟩
            · rcases further middle right later with ⟨before, after, rfl, rfl⟩
              exact ⟨.reference other :: before, after, rfl, rfl⟩
            · by_cases nothing : middle = []
              · rw [nothing, List.append_nil] at inside
                rw [nothing, List.nil_append] at begins
                rcases further [] right begins.symm with ⟨before, after, rfl, joins⟩
                refine ⟨.reference other :: before, after, rfl, ?_⟩
                rw [TextPart.joined_cons, joins, List.append_nil, ← inside, TextPart.text]
              · exact absurd (mem_of_reference_eq_append inside start nothing begins)
                  (plain other (List.mem_cons_self ..))

theorem PartsOf.append_characters (cut : PartsOf text parts) (plain : '$' ∉ value) :
    PartsOf (value ++ text) (value.map .character ++ parts) := by
  induction value with
  | nil => exact cut
  | cons c value induction =>
      rw [List.mem_cons, not_or] at plain
      refine PartsOf.cons_character (fun name after _ begins => ?_) (induction plain.2)
      rw [reference_append] at begins
      exact plain.1 (List.cons.inj begins).1.symm

end LendingPool
