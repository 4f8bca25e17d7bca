import LendingPool.Proofs.Toml.Violations
import LendingPool.Settings.Loading
/-! Which violations there are. A violation is listed just if its keys lead to a value that has its
flaw. -/

namespace LendingPool

variable {value : Toml} {type : FieldType}

/-! ## Flaws -/

theorem mem_elim_ite_iff {α β : Type} {bound : Option α} {breaks : α → Prop} [DecidablePred breaks]
    {problem : α → β} {found : β} :
    found ∈ bound.elim [] (fun bound => if breaks bound then [problem bound] else []) ↔
      ∃ given, bound = some given ∧ breaks given ∧ found = problem given := by
  cases bound with
  | none => simp
  | some given =>
      by_cases broken : breaks given <;> simp [broken]

theorem FieldType.mem_problems_iff {problem : ValueProblem} :
    problem ∈ type.problems value ↔ problem.BreaksType type value := by
  cases type with
  | integer least greatest =>
      cases value with
      | integer number =>
          rw [problems, List.mem_append, mem_elim_ite_iff, mem_elim_ite_iff]
          cases problem <;> grind [ValueProblem.BreaksType]
      | string | float | boolean | datetime | array | table =>
          cases problem <;> simp [problems, ValueProblem.BreaksType]
  | decimal =>
      cases value with
      | string spelled =>
          rw [problems]
          cases reads : Decimal96.ofText? spelled with
          | some decimal =>
              cases problem <;> simp [ValueProblem.BreaksType]
              grind
          | none =>
              cases problem <;> simp [ValueProblem.BreaksType]
              grind
      | integer | float | boolean | datetime | array | table =>
          cases problem <;> simp [problems, ValueProblem.BreaksType]
  | text | boolean | map | table => cases problem <;> simp [problems, ValueProblem.BreaksType]

theorem addressProblem?_eq_some_iff {problem : ValueProblem} :
    addressProblem? value = some problem ↔ problem.BreaksRule .address value := by
  cases value with
  | string text =>
      rw [addressProblem?]
      split
      · rename_i digits begins
        have marked : ['0', 'x'] <+: text.toList := ⟨digits, begins.symm⟩
        have spelled : IsAddressText text ↔
            (digits.length = 40 && digits.all isHexDigit) = true := by
          simp [IsAddressText, begins]
        by_cases proper : (digits.length = 40 && digits.all isHexDigit) = true
        · rw [if_pos proper]
          cases problem <;> simp [ValueProblem.BreaksRule] <;> grind
        · rw [if_neg proper]
          cases problem <;> simp [ValueProblem.BreaksRule] <;> grind
      · rename_i unmarked
        have plain : ¬ ['0', 'x'] <+: text.toList :=
          fun ⟨digits, begins⟩ => unmarked digits begins.symm
        cases problem <;> simp [ValueProblem.BreaksRule] <;> grind
  | integer | float | boolean | datetime | array | table =>
      cases problem <;> simp [addressProblem?, ValueProblem.BreaksRule]

theorem webUrlProblem?_eq_some_iff {problem : ValueProblem} :
    webUrlProblem? value = some problem ↔ problem.BreaksRule .webUrl value := by
  cases value with
  | string text =>
      have web : ("http://".toList.isPrefixOf text.toList ||
          "https://".toList.isPrefixOf text.toList) = true ↔ IsWebUrl text := by
        rw [IsWebUrl, Bool.or_eq_true, List.isPrefixOf_iff_prefix, List.isPrefixOf_iff_prefix]
      rw [webUrlProblem?]
      simp only [web]
      by_cases isWeb : IsWebUrl text
      · rw [if_pos isWeb]
        cases problem <;> simp [ValueProblem.BreaksRule, isWeb]
      · rw [if_neg isWeb]
        cases problem <;> simp [ValueProblem.BreaksRule, isWeb]
  | integer | float | boolean | datetime | array | table =>
      cases problem <;> simp [webUrlProblem?, ValueProblem.BreaksRule]

theorem ValueRule.problem?_eq_some_iff {rule : ValueRule} {problem : ValueProblem} :
    rule.problem? value = some problem ↔ problem.BreaksRule rule value := by
  cases rule with
  | address => exact addressProblem?_eq_some_iff
  | webUrl => exact webUrlProblem?_eq_some_iff

/-! ## All violations -/

section

variable {expected : Expectation} {violation : Violation} {rule : Option ValueRule}
  {fields : List Field} {entries : List (String × Toml)}

theorem FieldType.admits_of_breaksType {problem : ValueProblem}
    (breaks : problem.BreaksType type value) : type.admits value = true := by
  cases problem with
  | belowLeast number least =>
      rcases breaks with ⟨rfl, -, greatest, rfl⟩
      rfl
  | aboveGreatest number greatest =>
      rcases breaks with ⟨rfl, -, least, rfl⟩
      rfl
  | notDecimal text =>
      rcases breaks with ⟨rfl, -, rfl⟩
      rfl
  | notText | noHexMark | notAddress | notWebUrl => exact breaks.elim

theorem FieldType.mem_ownViolations_iff :
    violation ∈ type.ownViolations value ↔ violation.path = [] ∧
      ((violation.flaw = .mismatch type value ∧ type.admits value = false) ∨
        ∃ problem, violation.flaw = .invalid problem ∧ problem.BreaksType type value) := by
  rcases violation with ⟨path, flaw⟩
  cases admitted : type.admits value with
  | true =>
      rw [ownViolations_of_admits admitted, List.mem_map]
      constructor
      · rintro ⟨problem, member, ⟨⟩⟩
        exact ⟨rfl, .inr ⟨problem, rfl, mem_problems_iff.mp member⟩⟩
      · rintro ⟨rfl, ⟨-, refused⟩ | ⟨problem, rfl, breaks⟩⟩
        · cases refused
        · exact ⟨problem, mem_problems_iff.mpr breaks, rfl⟩
  | false =>
      rw [ownViolations_of_not_admits admitted, List.mem_singleton]
      constructor
      · rintro ⟨⟩
        exact ⟨rfl, .inl ⟨rfl, rfl⟩⟩
      · rintro ⟨rfl, ⟨rfl, -⟩ | ⟨problem, rfl, breaks⟩⟩
        · rfl
        · rw [admits_of_breaksType breaks] at admitted
          cases admitted

theorem mem_ruleViolations_iff :
    violation ∈ ruleViolations rule value ↔ violation.path = [] ∧
      ∃ problem, violation.flaw = .invalid problem ∧
        ∃ kept ∈ rule, problem.BreaksRule kept value := by
  rcases violation with ⟨path, flaw⟩
  simp only [ruleViolations, List.mem_map, Option.mem_toList, Option.mem_def,
    Option.bind_eq_some_iff, ValueRule.problem?_eq_some_iff]
  constructor
  · rintro ⟨problem, broken, ⟨⟩⟩
    exact ⟨rfl, problem, rfl, broken⟩
  · rintro ⟨rfl, problem, rfl, broken⟩
    exact ⟨problem, broken, rfl⟩

def entryViolations (absent : String → List Violation) (entries : List (String × Toml))
    (field : Field) : List Violation :=
  match entries.lookup field.1 with
  | none => absent field.1
  | some inner => (Expectation.violations field.2 inner).map (.below [field.1])

theorem requiredViolations_eq_flatMap (fields : List Field) (entries : List (String × Toml)) :
    requiredViolations fields entries =
      fields.flatMap (entryViolations (fun key => [⟨[], .missing key⟩]) entries) := by
  induction fields with
  | nil => rw [requiredViolations, List.flatMap_nil]
  | cons field fields induction => rw [requiredViolations, induction, List.flatMap_cons]; rfl

theorem optionalViolations_eq_flatMap (fields : List Field) (entries : List (String × Toml)) :
    optionalViolations fields entries =
      fields.flatMap (entryViolations (fun _ => []) entries) := by
  induction fields with
  | nil => rw [optionalViolations, List.flatMap_nil]
  | cons field fields induction => rw [optionalViolations, induction, List.flatMap_cons]; rfl

def Expectation.Below (fields : List Field) (entries : List (String × Toml))
    (violation : Violation) : Prop :=
  ∃ key there inner, (key, there) ∈ fields ∧ entries.lookup key = some inner ∧
    ∃ rest ∈ Expectation.violations there inner, violation = rest.below [key]

theorem mem_flatMap_entryViolations_iff {absent : String → List Violation} :
    violation ∈ fields.flatMap (entryViolations absent entries) ↔
      (∃ key ∈ fields.map Prod.fst, entries.lookup key = none ∧ violation ∈ absent key) ∨
        Expectation.Below fields entries violation := by
  rw [List.mem_flatMap]
  constructor
  · rintro ⟨⟨key, there⟩, named, member⟩
    rw [entryViolations] at member
    split at member
    · rename_i missing
      exact .inl ⟨key, List.mem_map_of_mem named, missing, member⟩
    · rename_i inner found
      rcases List.mem_map.mp member with ⟨rest, among, rfl⟩
      exact .inr ⟨key, there, inner, named, found, rest, among, rfl⟩
  · rintro (⟨key, named, missing, member⟩ | ⟨key, there, inner, named, found, rest, among, rfl⟩)
    · rcases List.mem_map.mp named with ⟨field, member', rfl⟩
      refine ⟨field, member', ?_⟩
      rw [entryViolations, missing]
      exact member
    · refine ⟨(key, there), named, ?_⟩
      rw [entryViolations, found]
      exact List.mem_map_of_mem among

def Expectation.Under (expected : Expectation) (value : Toml) (violation : Violation) : Prop :=
  ∃ key there inner, expected.Step key there ∧ value.follow? [key] = some inner ∧
    ∃ rest ∈ there.violations inner, violation = rest.below [key]

theorem Expectation.under_iff_below {required optional : List Field} :
    Expectation.Under (.table required optional, rule) (.table entries) violation ↔
      Expectation.Below (required ++ optional) entries violation := by
  constructor
  · rintro ⟨key, there, inner, ⟨⟩ | named, follows, below⟩
    exact ⟨key, there, inner, named, by simpa using follows, below⟩
  · rintro ⟨key, there, inner, named, found, below⟩
    exact ⟨key, there, inner, .field named, by simpa using found, below⟩

theorem Expectation.below_append {before after : List Field} :
    Expectation.Below (before ++ after) entries violation ↔
      Expectation.Below before entries violation ∨ Expectation.Below after entries violation := by
  constructor
  · rintro ⟨key, there, inner, named, found, below⟩
    rcases List.mem_append.mp named with first | second
    · exact .inl ⟨key, there, inner, first, found, below⟩
    · exact .inr ⟨key, there, inner, second, found, below⟩
  · rintro (⟨key, there, inner, first, found, below⟩ | ⟨key, there, inner, second, found, below⟩)
    · exact ⟨key, there, inner, List.mem_append_left _ first, found, below⟩
    · exact ⟨key, there, inner, List.mem_append_right _ second, found, below⟩

theorem Expectation.under_map_iff {element : FieldType} (sorted : entries.Pairwise (·.1 < ·.1)) :
    Expectation.Under (.map element, rule) (.table entries) violation ↔
      ∃ entry ∈ entries, ∃ rest ∈ element.violations entry.2, violation = rest.below [entry.1] := by
  constructor
  · rintro ⟨key, there, inner, ⟨⟩, follows, rest, among, below⟩
    refine ⟨(key, inner), Toml.mem_of_lookup (by simpa using follows), rest, ?_, below⟩
    simpa [Expectation.violations, ruleViolations] using among
  · rintro ⟨⟨key, inner⟩, member, rest, among, below⟩
    refine ⟨key, (element, none), inner, .item, ?_, rest, List.mem_append_left _ among, below⟩
    simpa using Toml.lookup_of_mem sorted member

theorem Expectation.not_under (plain : value.entries? = none) :
    ¬ Expectation.Under expected value violation := by
  rintro ⟨key, there, inner, -, follows, -⟩
  rcases Toml.follow?_cons_eq_some_iff.mp follows with ⟨entries, _, rfl, -⟩
  cases plain

theorem FieldType.not_lacks {key : String} (plain : value.entries? = none) :
    ¬ type.Lacks value key := by
  rintro ⟨required, optional, entries, -, rfl, -⟩
  cases plain

theorem FieldType.mem_violations_iff (rule : Option ValueRule) (proper : value.Proper) :
    violation ∈ type.violations value ↔ violation ∈ type.ownViolations value ∨
      (∃ key, violation = ⟨[], .missing key⟩ ∧ type.Lacks value key) ∨
        Expectation.Under (type, rule) value violation := by
  cases type with
  | text | integer | decimal | boolean =>
      rw [violations]
      refine ⟨.inl, ?_⟩
      rintro (own | ⟨key, -, required, optional, entries, ⟨⟩, -⟩ | ⟨key, there, inner, ⟨⟩, -⟩)
      exact own
  | map element =>
      rw [violations, List.mem_append]
      refine or_congr_right ?_
      have present (key : String) : ¬ (FieldType.map element).Lacks value key := by
        rintro ⟨required, optional, entries, ⟨⟩, -⟩
      simp only [present, and_false, exists_false, false_or]
      cases proper with
      | table sorted =>
          rw [Expectation.under_map_iff sorted, Toml.entries?, Option.getD_some, List.mem_flatMap]
          simp only [List.mem_map, eq_comm]
      | string | integer | float | boolean | datetime | array =>
          exact iff_of_false List.not_mem_nil (Expectation.not_under rfl)
  | table required optional =>
      rw [violations, List.mem_append]
      refine or_congr_right ?_
      cases value with
      | table entries =>
          change violation ∈ _ ++ _ ↔ _
          rw [requiredViolations_eq_flatMap, optionalViolations_eq_flatMap, List.mem_append,
            mem_flatMap_entryViolations_iff, mem_flatMap_entryViolations_iff,
            Expectation.under_iff_below, Expectation.below_append]
          simp only [List.mem_singleton, List.not_mem_nil, and_false, exists_false, false_or,
            or_assoc]
          refine or_congr_left ?_
          constructor
          · rintro ⟨key, named, missing, rfl⟩
            exact ⟨key, rfl, required, optional, entries, rfl, rfl, named, missing⟩
          · rintro ⟨key, rfl, _, _, _, ⟨⟩, ⟨⟩, named, missing⟩
            exact ⟨key, named, missing, rfl⟩
      | string | integer | float | boolean | datetime | array =>
          refine iff_of_false List.not_mem_nil ?_
          rintro (⟨key, -, lacks⟩ | under)
          · exact FieldType.not_lacks rfl lacks
          · exact Expectation.not_under rfl under

theorem Flaw.afflicts_iff :
    violation.path = [] ∧ violation.flaw.Afflicts (type, rule) value ↔
      (violation ∈ type.ownViolations value ∨ ∃ key, violation = ⟨[], .missing key⟩ ∧
        type.Lacks value key) ∨ violation ∈ ruleViolations rule value := by
  rw [FieldType.mem_ownViolations_iff, mem_ruleViolations_iff]
  rcases violation with ⟨path, flaw⟩
  cases flaw with
  | missing key => simp [Afflicts, and_assoc]
  | mismatch other found => simp [Afflicts, and_assoc]
  | invalid problem => simp [Afflicts, and_or_left]

theorem Expectation.mem_violations_iff (proper : value.Proper) :
    violation ∈ expected.violations value ↔
      (violation.path = [] ∧ violation.flaw.Afflicts expected value) ∨
        expected.Under value violation := by
  rcases expected with ⟨type, rule⟩
  rw [violations, List.mem_append, FieldType.mem_violations_iff rule proper, Flaw.afflicts_iff,
    ← or_assoc, or_right_comm]

/-- A violation is listed just if its keys lead to a value that has its flaw. -/
theorem Expectation.mem_violations_iff_occurs (proper : value.Proper) :
    violation ∈ expected.violations value ↔ violation.Occurs expected value := by
  rcases violation with ⟨path, flaw⟩
  induction path generalizing expected value with
  | nil =>
      rw [mem_violations_iff proper]
      constructor
      · rintro (⟨-, afflicts⟩ | ⟨key, there, inner, -, -, rest, -, ⟨⟩⟩)
        exact ⟨expected, value, .here expected, Toml.follow?_nil value, afflicts⟩
      · rintro ⟨there, found, ⟨⟩, follows, afflicts⟩
        rw [Toml.follow?_nil] at follows
        cases follows
        exact .inl ⟨rfl, afflicts⟩
  | cons key path induction =>
      rw [mem_violations_iff proper]
      constructor
      · rintro (⟨⟨⟩, -⟩ | ⟨key, there, inner, step, follows, ⟨path, flaw⟩, among, ⟨⟩⟩)
        rcases (induction (proper.follow follows)).mp among with
          ⟨final, found, leads, rest, afflicts⟩
        refine ⟨final, found, .step step leads, ?_, afflicts⟩
        rw [Toml.follow?_cons, follows]
        exact rest
      · rintro ⟨final, found, leads, follows, afflicts⟩
        rcases leads with - | ⟨step, leads⟩
        rw [Toml.follow?_cons, Option.bind_eq_some_iff] at follows
        rcases follows with ⟨inner, first, rest⟩
        have among := (induction (proper.follow first)).mpr ⟨final, found, leads, rest, afflicts⟩
        exact .inr ⟨key, _, inner, step, first, _, among, rfl⟩

/-! ## What the check reports -/

theorem Schema.check_eq_ok_iff (schema : Schema) {document : Toml} (proper : document.Proper) :
    schema.check document = .ok () ↔
      ∀ violation, ¬ Violation.Occurs schema.expectation document violation := by
  rw [schema.check_eq, report_eq_ok_iff, List.eq_nil_iff_forall_not_mem]
  exact forall_congr' fun _ => not_congr (Expectation.mem_violations_iff_occurs proper)

/-- A document is accepted just if it has no violation. Otherwise the first one is reported, and the
fault leads to it unless something else stands in the place of a table with known keys. -/
theorem Schema.check_reports_first (schema : Schema) {document : Toml} (proper : document.Proper) :
    (∀ violation, violation ∈ schema.violations document ↔
      violation.Occurs schema.expectation document) ∧
    (schema.check document = .ok () ↔
      ∀ violation, ¬ Violation.Occurs schema.expectation document violation) ∧
    ∀ fault, schema.check document = .error fault ↔
      ∃ first others, schema.violations document = first :: others ∧
        first.Occurs schema.expectation document ∧ fault = first.reported ∧
        (first.displacesSection = false → fault = first.fault) := by
  have listed (violation : Violation) : violation ∈ schema.violations document ↔
      violation.Occurs schema.expectation document :=
    Expectation.mem_violations_iff_occurs proper
  refine ⟨listed, schema.check_eq_ok_iff proper, fun fault => ?_⟩
  rw [schema.check_eq, report_eq_error_iff]
  constructor
  · rintro ⟨first, others, order, rfl⟩
    refine ⟨first, others, order, ?_, rfl, Violation.reported_of_not_displacesSection⟩
    exact (listed first).mp (order ▸ List.mem_cons_self)
  · rintro ⟨first, others, order, -, rfl, -⟩
    exact ⟨first, others, order, rfl⟩

/-- A gas limit that is too low, in a document in which other things are wrong as well. -/
theorem Schema.check_reports_first_gasLimit :
    let document := Toml.table [
      ("logging", .integer 1),
      ("network", .table [("chain_id", .integer 1), ("rpc_url", .string "http://localhost")]),
      ("orchestrator", .table [("gas_limits", .table [("supply", .integer 100)])])]
    document.Proper ∧
      ∃ first, Violation.Occurs settingsSchema.expectation document first ∧
        first.fault =
          .invalid ["orchestrator", "gas_limits", "supply"] (.belowLeast 100 21000) := by
  intro document
  have proper : document.Proper := by
    simp only [document, Toml.proper_table_iff, List.forall_mem_cons, List.not_mem_nil,
      false_implies, implies_true, Toml.proper_string, Toml.proper_integer_iff]
    decide
  refine ⟨proper, ?_⟩
  have refused : settingsSchema.check document =
      .error (.invalid ["orchestrator", "gas_limits", "supply"] (.belowLeast 100 21000)) :=
    rfl
  rcases (settingsSchema.check_reports_first proper).2.2 _ |>.mp refused with
    ⟨first, others, order, occurs, same, leads⟩
  have plain : first.displacesSection = false := by
    rcases first with ⟨path, _ | ⟨type, value⟩ | _⟩
    · rfl
    · cases type <;> cases same
    · rfl
  exact ⟨first, occurs, (leads plain).symm⟩

/-- Where a number stands in the place of a section, the fault leads to nothing that is wrong. -/
theorem Schema.check_leads_astray :
    let document := Toml.table [("network", .integer 5)]
    document.Proper ∧
      ∃ fault, settingsSchema.check document = .error fault ∧
        ∀ violation, Violation.Occurs settingsSchema.expectation document violation →
          violation.fault ≠ fault := by
  intro document
  have nowhere : document.follow? ["network", "root"] = none := rfl
  refine ⟨by simp [document], .mismatch ["network", "root"] "table" "integer", rfl, ?_⟩
  rintro ⟨path, flaw⟩ ⟨there, value, -, follows, -⟩ same
  cases flaw with
  | mismatch type other =>
      rw [(SchemaFault.mismatch.inj same).1, nowhere] at follows
      cases follows
  | missing | invalid => cases same

end

end LendingPool
