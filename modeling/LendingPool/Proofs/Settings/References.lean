import LendingPool.Proofs.Settings.Parts
/-! References to environment variables. They are replaced in rounds, one for each reference of a
text, and a round goes over the whole text as it then is. So what comes out is the text with its
references replaced as long as nothing else in it reads as a reference that has its round. -/

namespace LendingPool

open TextPart (joined names)

/-! ## Values -/

namespace Environment

def value? (environment : Environment) (name : List Char) : Option (List Char) :=
  (environment.lookup (String.ofList name)).map String.toList

def value (environment : Environment) (name : List Char) : List Char :=
  (environment.value? name).getD []

def IsSet (environment : Environment) (name : List Char) : Prop :=
  (environment.value? name).isSome

instance (environment : Environment) (name : List Char) : Decidable (environment.IsSet name) :=
  inferInstanceAs (Decidable (_ = true))

/-- What becomes of a part when some names have had their round. -/
def replaced (environment : Environment) (rounds : List (List Char)) : TextPart → List TextPart
  | .character c => [.character c]
  | .reference name =>
      if name ∈ rounds then (environment.value name).map .character else [.reference name]

def afterRounds (environment : Environment) (rounds : List (List Char)) (parts : List TextPart) :
    List TextPart :=
  parts.flatMap (environment.replaced rounds)

def expanded (environment : Environment) (parts : List TextPart) : List Char :=
  parts.flatMap fun
    | .character c => [c]
    | .reference name => environment.value name

variable {environment : Environment} {rounds : List (List Char)} {parts : List TextPart}

@[simp] theorem afterRounds_cons (environment : Environment) (rounds : List (List Char))
    (part : TextPart) (parts : List TextPart) : environment.afterRounds rounds (part :: parts) =
      environment.replaced rounds part ++ environment.afterRounds rounds parts :=
  rfl

theorem afterRounds_afterRounds (name : List Char) (rounds : List (List Char))
    (parts : List TextPart) :
    environment.afterRounds rounds (environment.afterRounds [name] parts) =
      environment.afterRounds (name :: rounds) parts := by
  rw [afterRounds, afterRounds, List.flatMap_assoc]
  refine congrArg (fun replaced => parts.flatMap replaced) (funext fun part => ?_)
  cases part with
  | character c => rfl
  | reference other =>
      by_cases same : other = name
      · rw [replaced, replaced, if_pos (List.mem_singleton.mpr same),
          if_pos (List.mem_cons.mpr (.inl same)), List.flatMap_map]
        exact List.map_eq_flatMap.symm
      · rw [replaced, if_neg (mt List.mem_singleton.mp same), List.flatMap_singleton]
        simp only [replaced, List.mem_cons, same, false_or]

theorem afterRounds_nil (parts : List TextPart) : environment.afterRounds [] parts = parts := by
  refine (congrArg (fun replaced => parts.flatMap replaced) (funext fun part => ?_)).trans
    (List.flatMap_singleton' parts)
  cases part <;> rfl

theorem joined_afterRounds (all : ∀ name, .reference name ∈ parts → name ∈ rounds) :
    joined (environment.afterRounds rounds parts) = environment.expanded parts := by
  induction parts with
  | nil => rfl
  | cons part parts induction =>
      rw [afterRounds_cons, TextPart.joined_append,
        induction fun name member => all name (List.mem_cons_of_mem _ member)]
      cases part with
      | character c => rfl
      | reference name =>
          rw [replaced, if_pos (all name (List.mem_cons_self ..)), TextPart.joined_characters]
          rfl

end Environment

/-! ## One round -/

variable {environment : Environment} {rounds : List (List Char)} {name text : List Char}
  {part : TextPart} {parts : List TextPart}

theorem replaceAll_append (name value rest : List Char) :
    replaceAll (reference name) value (reference name ++ rest) =
      value ++ replaceAll (reference name) value rest := by
  rw [reference_append, replaceAll, ← reference_append, if_pos]
  · simp [reference]
  · exact List.isPrefixOf_iff_prefix.mpr (List.prefix_append ..)

theorem replaceAll_append_of_apart {pattern replacement kept rest : List Char}
    (apart : ∀ left middle, kept = left ++ middle → middle ≠ [] → ¬ pattern <+: middle ++ rest) :
    replaceAll pattern replacement (kept ++ rest) =
      kept ++ replaceAll pattern replacement rest := by
  induction kept with
  | nil => rfl
  | cons c kept induction =>
      have first : ¬ pattern.isPrefixOf (c :: (kept ++ rest)) = true := by
        rw [List.isPrefixOf_iff_prefix]
        exact apart [] (c :: kept) rfl (List.cons_ne_nil c kept)
      rw [List.cons_append, replaceAll, if_neg first, List.cons_append, induction]
      intro left middle split
      exact apart (c :: left) middle (congrArg (c :: ·) split)

/-- A round replaces parts if it meets nothing else. -/
theorem replaceAll_joined (environment : Environment) (whole : OccursAsPart name parts) :
    replaceAll (reference name) (environment.value name) (joined parts) =
      joined (environment.afterRounds [name] parts) := by
  induction parts with
  | nil =>
      rw [TextPart.joined_nil, replaceAll]
      rfl
  | cons part parts induction =>
      rw [environment.afterRounds_cons, TextPart.joined_append, ← induction whole.tail,
        TextPart.joined_cons]
      by_cases same : part = .reference name
      · rw [same, Environment.replaced, if_pos (List.mem_singleton_self _),
          TextPart.joined_characters]
        exact replaceAll_append name _ (joined parts)
      · have kept : environment.replaced [name] part = [part] := by
          cases part with
          | character c => rfl
          | reference other =>
              exact if_neg fun member => same (congrArg _ (List.mem_singleton.mp member))
        rw [kept, TextPart.joined_cons, TextPart.joined_nil, List.append_nil]
        refine replaceAll_append_of_apart fun left middle split nonempty => ?_
        rintro ⟨right, begins⟩
        exact same (whole.starts split nonempty begins.symm)

/-! ## All rounds -/

namespace Environment

/-- One round, in which the references to a variable are replaced in a text. -/
def round (environment : Environment) (text name : List Char) :
    Except SettingsFault (List Char) :=
  match environment.value? name with
  | some value => .ok (replaceAll (reference name) value text)
  | none => .error (.variableNotFound (String.ofList name))

/-- Whenever a reference has its round, there are no others to its variable in the text than those
that the text came with. -/
def Undisturbed (environment : Environment) (parts : List TextPart) : Prop :=
  ∀ before name after, names parts = before ++ name :: after →
    OccursAsPart name (environment.afterRounds before parts)

theorem round_of_set (set : environment.IsSet name) (text : List Char) :
    environment.round text name =
      .ok (replaceAll (reference name) (environment.value name) text) := by
  rcases Option.isSome_iff_exists.mp set with ⟨value, found⟩
  rw [round, Environment.value, found, Option.getD_some]

theorem round_of_unset (unset : ¬ environment.IsSet name) (text : List Char) :
    environment.round text name = .error (.variableNotFound (String.ofList name)) := by
  rw [round, Option.not_isSome_iff_eq_none.mp unset]

end Environment

theorem substitute_eq_foldlM (environment : Environment) (text : List Char) :
    substitute environment text = (names (partsOf text)).foldlM environment.round text := by
  rw [substitute, references_eq_names]
  congr
  funext result name
  rw [Environment.round, Environment.value?]
  cases environment.lookup (String.ofList name) <;> rfl

theorem foldlM_round_eq_error_iff {text : List Char} {fault : SettingsFault} :
    rounds.foldlM environment.round text = .error fault ↔
      ∃ before name after, rounds = before ++ name :: after ∧
        (∀ earlier ∈ before, environment.IsSet earlier) ∧ ¬ environment.IsSet name ∧
        fault = .variableNotFound (String.ofList name) := by
  induction rounds generalizing text with
  | nil => simp [pure, Except.pure]
  | cons name rounds induction =>
      rw [List.foldlM_cons]
      by_cases set : environment.IsSet name
      · rw [Environment.round_of_set set]
        refine induction.trans ⟨?_, ?_⟩
        · rintro ⟨before, other, after, rfl, earlier, unset, rfl⟩
          exact ⟨name :: before, other, after, rfl, by simpa [set] using earlier, unset, rfl⟩
        · rintro ⟨_ | ⟨first, before⟩, other, after, split, earlier, unset, rfl⟩
          · cases split
            exact absurd set unset
          · cases split
            exact ⟨before, other, after, rfl, fun other member =>
              earlier other (List.mem_cons_of_mem _ member), unset, rfl⟩
      · rw [Environment.round_of_unset set]
        constructor
        · intro failed
          cases failed
          exact ⟨[], name, rounds, rfl, nofun, set, rfl⟩
        · rintro ⟨_ | ⟨first, before⟩, other, after, split, earlier, -, rfl⟩
          · cases split
            rfl
          · cases split
            exact absurd (earlier name (List.mem_cons_self ..)) set

theorem exists_of_foldlM_round (set : ∀ name ∈ rounds, environment.IsSet name) (text : List Char) :
    ∃ result, rounds.foldlM environment.round text = .ok result := by
  cases outcome : rounds.foldlM environment.round text with
  | ok result => exact ⟨result, rfl⟩
  | error fault =>
      rcases foldlM_round_eq_error_iff.mp outcome with ⟨before, name, after, rfl, -, unset, -⟩
      exact absurd (set name (by simp)) unset

/-- Rounds that are not disturbed replace parts. -/
theorem foldlM_round_joined (set : ∀ name ∈ rounds, environment.IsSet name)
    (undisturbed : ∀ before name after, rounds = before ++ name :: after →
      OccursAsPart name (environment.afterRounds before parts)) :
    rounds.foldlM environment.round (joined parts) =
      .ok (joined (environment.afterRounds rounds parts)) := by
  induction rounds generalizing parts with
  | nil =>
      rw [Environment.afterRounds_nil]
      rfl
  | cons name rounds induction =>
      have first : OccursAsPart name parts := by
        have begins := undisturbed [] name rounds rfl
        rwa [Environment.afterRounds_nil] at begins
      rw [List.foldlM_cons, Environment.round_of_set (set name (List.mem_cons_self ..)),
        replaceAll_joined environment first]
      refine (induction (fun other member => set other (List.mem_cons_of_mem _ member)) ?_).trans ?_
      · intro before other after split
        rw [Environment.afterRounds_afterRounds]
        exact undisturbed (name :: before) other after (congrArg (name :: ·) split)
      · rw [Environment.afterRounds_afterRounds]

/-- A text is refused if and only if a variable is not set that it refers to, and the first of these
is named. If all are set, something comes of the text, and as long as no round is disturbed that is
the text with its references replaced at once. -/
theorem substitute_expands (environment : Environment) (text : List Char) :
    (∀ fault, substitute environment text = .error fault ↔
      ∃ before name after, names (partsOf text) = before ++ name :: after ∧
        (∀ earlier ∈ before, environment.IsSet earlier) ∧ ¬ environment.IsSet name ∧
        fault = .variableNotFound (String.ofList name)) ∧
    ((∀ name ∈ names (partsOf text), environment.IsSet name) →
      ∃ result, substitute environment text = .ok result ∧
        (environment.Undisturbed (partsOf text) →
          result = environment.expanded (partsOf text))) := by
  rw [substitute_eq_foldlM]
  refine ⟨fun fault => foldlM_round_eq_error_iff, fun set => ?_⟩
  rcases exists_of_foldlM_round set text with ⟨result, comes⟩
  refine ⟨result, comes, fun undisturbed => ?_⟩
  have replaced := foldlM_round_joined set undisturbed
  rw [(partsOf_iff.mpr rfl).joins, comes,
    Environment.joined_afterRounds fun _ => TextPart.mem_names_iff.mpr] at replaced
  exact Except.ok.inj replaced

/-! ## Texts without surprises -/

theorem brace_mem_of_reference (member : .reference name ∈ parts) : '}' ∈ joined parts :=
  List.mem_flatMap.mpr ⟨_, member, by simp [TextPart.text, reference]⟩

theorem afterRounds_of_no_reference (none : ∀ name, .reference name ∉ parts) :
    environment.afterRounds rounds parts = parts := by
  induction parts with
  | nil => rfl
  | cons part parts induction =>
      rw [environment.afterRounds_cons,
        induction fun name member => none name (List.mem_cons_of_mem _ member)]
      cases part with
      | character c => rfl
      | reference name => exact absurd (List.mem_cons_self ..) (none name)

theorem exists_name_of_afterRounds {after : List Char} (proper : IsName name)
    (found : joined (environment.afterRounds rounds parts) = name ++ '}' :: after) :
    ∃ first rest, IsName first ∧ joined parts = first ++ '}' :: rest := by
  by_cases brace : '}' ∈ joined parts
  · rcases List.eq_append_cons_of_mem brace with ⟨first, rest, split, absent⟩
    refine ⟨first, rest, ⟨fun nothing => ?_, absent⟩, split⟩
    rw [nothing, List.nil_append] at split
    rcases parts with _ | ⟨c | reference, parts⟩
    · cases split
    · cases (List.cons.inj split).1
      rcases name with _ | ⟨c, name⟩
      · exact proper.1 rfl
      · cases (List.cons.inj found).1
        exact proper.2 (List.mem_cons_self ..)
    · cases (List.cons.inj split).1
  · rw [afterRounds_of_no_reference fun name member =>
      brace (brace_mem_of_reference member)] at found
    exact absurd (by simp [found]) brace

/-- Parts in which no reference can come up by accident. There is no dollar sign in a name, none in
a value, and none right before a reference. -/
structure Environment.Plain (environment : Environment) (parts : List TextPart) : Prop where
  names : ∀ name, .reference name ∈ parts → '$' ∉ name
  values : ∀ name, .reference name ∈ parts → '$' ∉ environment.value name
  apart : ∀ before name after, parts ≠ before ++ .character '$' :: .reference name :: after

theorem Environment.Plain.tail (plain : environment.Plain (part :: parts)) :
    environment.Plain parts where
  names name member := plain.names name (List.mem_cons_of_mem _ member)
  values name member := plain.values name (List.mem_cons_of_mem _ member)
  apart before name after split :=
    plain.apart (part :: before) name after (congrArg (part :: ·) split)

theorem Environment.Plain.partsOf_afterRounds (plain : environment.Plain parts)
    (cut : PartsOf text parts) (rounds : List (List Char)) :
    PartsOf (joined (environment.afterRounds rounds parts))
      (environment.afterRounds rounds parts) := by
  induction parts generalizing text with
  | nil => exact ⟨rfl, nofun, fun before c after split => by cases before <;> cases split⟩
  | cons part parts induction =>
      have rest := induction plain.tail cut.tail
      rw [environment.afterRounds_cons, TextPart.joined_append]
      cases part with
      | reference name =>
          rw [Environment.replaced]
          split
          · rw [TextPart.joined_characters]
            exact rest.append_characters (plain.values name (List.mem_cons_self ..))
          · rw [TextPart.joined_cons, TextPart.joined_nil, List.append_nil]
            exact rest.cons_reference (cut.named name (List.mem_cons_self ..))
      | character c =>
          change PartsOf (c :: joined _) (.character c :: _)
          refine rest.cons_character fun name after proper begins => ?_
          rw [reference_append] at begins
          rcases List.cons.inj begins with ⟨rfl, opens⟩
          -- A character follows the dollar sign, which is the same one as before the rounds.
          rcases parts with _ | ⟨d | inner, parts⟩
          · cases opens
          · change d :: joined (environment.afterRounds rounds parts) = _ at opens
            rcases List.cons.inj opens with ⟨rfl, follows⟩
            rcases exists_name_of_afterRounds proper follows with ⟨first, later, named, found⟩
            refine cut.leftmost [] '$' _ rfl first later named ?_
            rw [reference_append, ← found]
            rfl
          · exact plain.apart [] inner parts rfl

theorem mem_of_mem_afterRounds (member : .reference name ∈ environment.afterRounds rounds parts) :
    .reference name ∈ parts := by
  rcases List.mem_flatMap.mp member with ⟨part, member, found⟩
  cases part with
  | character c => cases List.mem_singleton.mp found
  | reference other =>
      rw [Environment.replaced] at found
      split at found
      · simp at found
      · rwa [List.mem_singleton.mp found]

theorem Environment.Plain.undisturbed (plain : environment.Plain (partsOf text)) :
    environment.Undisturbed (partsOf text) := by
  have cut : PartsOf text (partsOf text) := partsOf_iff.mpr rfl
  intro before name after split
  have member : .reference name ∈ partsOf text := by
    rw [← TextPart.mem_names_iff, split]
    simp
  exact (plain.partsOf_afterRounds cut before).occursAsPart (cut.named name member)
    fun other found => plain.names other (mem_of_mem_afterRounds found)

/-! ### Two variables -/

namespace Sample

/-- Two variables. The value of the first one may look like a reference to the second one. -/
def twoVariables (first : List Char) : Environment :=
  [("A", String.ofList first), ("B", "b")]

def bothVariables : List Char :=
  reference ['A'] ++ ' ' :: reference ['B']

theorem partsOf_bothVariables :
    partsOf bothVariables = [.reference ['A'], .character ' ', .reference ['B']] := by
  decide +kernel

theorem plain_bothVariables : (twoVariables ['a', '}']).Plain (partsOf bothVariables) where
  names := by
    intro name member
    rw [partsOf_bothVariables] at member
    rcases (by simpa using member : name = ['A'] ∨ name = ['B']) with rfl | rfl <;> decide
  values := by
    intro name member
    rw [partsOf_bothVariables] at member
    rcases (by simpa using member : name = ['A'] ∨ name = ['B']) with rfl | rfl <;> decide
  apart := by
    rw [partsOf_bothVariables]
    rintro (_ | ⟨_, _ | ⟨_, _ | ⟨_, before⟩⟩⟩) name after <;> simp

end Sample

open Sample

theorem substitute_expands_both :
    substitute (twoVariables ['a', '}']) bothVariables = .ok ['a', '}', ' ', 'b'] ∧
      substitute [("A", "a")] bothVariables = .error (.variableNotFound "B") := by
  constructor
  · have set : ∀ name ∈ names (partsOf bothVariables), (twoVariables ['a', '}']).IsSet name := by
      rw [partsOf_bothVariables]
      decide
    rcases (substitute_expands _ bothVariables).2 set with ⟨result, comes, expands⟩
    rw [comes, expands plain_bothVariables.undisturbed, partsOf_bothVariables]
    decide
  · refine ((substitute_expands _ bothVariables).1 _).mpr
      ⟨[['A']], ['B'], [], ?_, by decide, by decide, by decide⟩
    rw [partsOf_bothVariables]
    rfl

/-- A value that looks like a reference is replaced if that reference has its round later. -/
theorem substitute_disturbed :
    (∀ name ∈ names (partsOf bothVariables), (twoVariables (reference ['B'])).IsSet name) ∧
      substitute (twoVariables (reference ['B'])) bothVariables = .ok ['b', ' ', 'b'] ∧
      (twoVariables (reference ['B'])).expanded (partsOf bothVariables) =
        reference ['B'] ++ [' ', 'b'] := by
  refine ⟨?_, by decide +kernel, by decide +kernel⟩
  rw [partsOf_bothVariables]
  decide

end LendingPool
