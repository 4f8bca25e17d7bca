import LendingPool.Proofs.Toml.Places
import LendingPool.Toml.Schema
/-! What a document does wrong by a schema. A violation is a place, and what is wrong there. All
violations are listed in the order of the schema: the required keys of a table before the optional
ones, and whatever is below a key before the next one. The check reports the first of them. -/

namespace LendingPool

abbrev Expectation := FieldType × Option ValueRule

def Schema.expectation (schema : Schema) : Expectation :=
  (.table schema.required schema.optional, none)

namespace Expectation

/-- What is expected under a key of a table of which something is expected. -/
inductive Step : Expectation → String → Expectation → Prop
  | item {element : FieldType} {rule : Option ValueRule} {key : String} :
      Step (.map element, rule) key (element, none)
  | field {required optional : List Field} {rule : Option ValueRule} {key : String}
      {expected : Expectation} (named : (key, expected) ∈ required ++ optional) :
      Step (.table required optional, rule) key expected

inductive Leads : Expectation → List String → Expectation → Prop
  | here (expected : Expectation) : Leads expected [] expected
  | step {expected there found : Expectation} {key : String} {path : List String}
      (first : Step expected key there) (rest : Leads there path found) :
      Leads expected (key :: path) found

end Expectation

namespace FieldType

/-- The types by the name that faults give them. -/
def expected : FieldType → String
  | text => "string"
  | integer .. => "integer"
  | decimal => "decimal"
  | boolean => "boolean"
  | map _ | table .. => "table"

def admits : FieldType → Toml → Bool
  | text, .string _ => true
  | integer .., .integer _ => true
  | decimal, .integer _ | decimal, .float _ | decimal, .string _ => true
  | boolean, .boolean _ => true
  | map _, .table _ | table .., .table _ => true
  | _, _ => false

def Lacks (type : FieldType) (value : Toml) (key : String) : Prop :=
  ∃ required optional entries, type = .table required optional ∧ value = .table entries ∧
    key ∈ required.map Prod.fst ∧ entries.lookup key = none

def isSection : FieldType → Bool
  | table .. => true
  | _ => false

end FieldType

/-! ## Violations -/

inductive Flaw
  | missing (key : String)
  | mismatch (type : FieldType) (value : Toml)
  | invalid (problem : ValueProblem)

/-- `0x` and forty hexadecimal digits. -/
def IsAddressText (text : String) : Prop :=
  ∃ digits, text.toList = '0' :: 'x' :: digits ∧
    digits.length = 40 ∧ ∀ digit ∈ digits, isHexDigit digit = true

def IsWebUrl (text : String) : Prop :=
  "http://".toList <+: text.toList ∨ "https://".toList <+: text.toList

instance (text : String) : Decidable (IsWebUrl text) :=
  inferInstanceAs (Decidable (_ ∨ _))

def ValueProblem.BreaksType (type : FieldType) (value : Toml) : ValueProblem → Prop
  | belowLeast number least =>
      value = .integer number ∧ number < least ∧ ∃ greatest, type = .integer (some least) greatest
  | aboveGreatest number greatest =>
      value = .integer number ∧ greatest < number ∧ ∃ least, type = .integer least (some greatest)
  | notDecimal text => value = .string text ∧ Decimal96.ofText? text = none ∧ type = .decimal
  | _ => False

def ValueProblem.BreaksRule (rule : ValueRule) (value : Toml) : ValueProblem → Prop
  | notText => rule = .address ∧ ∀ text, value ≠ .string text
  | noHexMark text => rule = .address ∧ value = .string text ∧ ¬ ['0', 'x'] <+: text.toList
  | notAddress text =>
      rule = .address ∧ value = .string text ∧ ['0', 'x'] <+: text.toList ∧ ¬ IsAddressText text
  | notWebUrl => rule = .webUrl ∧ ∀ text, value = .string text → ¬ IsWebUrl text
  | _ => False

def Flaw.Afflicts (expected : Expectation) (value : Toml) : Flaw → Prop
  | missing key => expected.1.Lacks value key
  | mismatch type other => type = expected.1 ∧ other = value ∧ expected.1.admits value = false
  | invalid problem =>
      problem.BreaksType expected.1 value ∨ ∃ rule ∈ expected.2, problem.BreaksRule rule value

structure Violation where
  path : List String
  flaw : Flaw

namespace Violation

/-- A violation is there if its keys lead to a value with its flaw. -/
def Occurs (expected : Expectation) (document : Toml) (violation : Violation) : Prop :=
  ∃ expectedThere value, expected.Leads violation.path expectedThere ∧
    document.follow? violation.path = some value ∧ violation.flaw.Afflicts expectedThere value

def below (keys : List String) (violation : Violation) : Violation :=
  { violation with path := keys ++ violation.path }

def fault : Violation → SchemaFault
  | ⟨path, .missing key⟩ => .missing (path ++ [key])
  | ⟨path, .mismatch type value⟩ => .mismatch path type.expected value.typeName
  | ⟨path, .invalid problem⟩ => .invalid path problem

/-- Whether something else is found in the place of a table with known keys. -/
def displacesSection : Violation → Bool
  | ⟨_, .mismatch type _⟩ => type.isSection
  | _ => false

/-- The fault that is reported. It leads one key too far in the place of a table with known keys. -/
def reported (violation : Violation) : SchemaFault :=
  if violation.displacesSection then fault { violation with path := violation.path ++ ["root"] }
  else violation.fault

theorem reported_of_not_displacesSection {violation : Violation}
    (plain : violation.displacesSection = false) : violation.reported = violation.fault :=
  if_neg (Bool.not_eq_true _ ▸ plain)

end Violation

/-! ## The order of the schema -/

namespace FieldType

def problems : FieldType → Toml → List ValueProblem
  | integer least greatest, .integer value =>
      (least.elim [] fun least => if value < least then [.belowLeast value least] else []) ++
        greatest.elim [] fun greatest =>
          if greatest < value then [.aboveGreatest value greatest] else []
  | decimal, .string spelled =>
      if (Decimal96.ofText? spelled).isSome then [] else [.notDecimal spelled]
  | _, _ => []

def ownViolations (type : FieldType) (value : Toml) : List Violation :=
  if type.admits value then (type.problems value).map (⟨[], .invalid ·⟩)
  else [⟨[], .mismatch type value⟩]

theorem ownViolations_of_admits {type : FieldType} {value : Toml}
    (admitted : type.admits value = true) :
    type.ownViolations value = (type.problems value).map (⟨[], .invalid ·⟩) :=
  if_pos admitted

theorem ownViolations_of_not_admits {type : FieldType} {value : Toml}
    (refused : type.admits value = false) :
    type.ownViolations value = [⟨[], .mismatch type value⟩] :=
  if_neg (Bool.not_eq_true _ ▸ refused)

end FieldType

def ruleViolations (rule : Option ValueRule) (value : Toml) : List Violation :=
  (rule.bind (·.problem? value)).toList.map (⟨[], .invalid ·⟩)

mutual

def FieldType.violations : FieldType → Toml → List Violation
  | .map element, value =>
      FieldType.ownViolations (.map element) value ++
        (value.entries?.getD []).flatMap fun (key, item) =>
          (element.violations item).map (.below [key])
  | .table required optional, value =>
      FieldType.ownViolations (.table required optional) value ++
        (value.entries?.elim [] fun entries =>
          requiredViolations required entries ++ optionalViolations optional entries)
  | .text, value => FieldType.text.ownViolations value
  | .integer least greatest, value => (FieldType.integer least greatest).ownViolations value
  | .decimal, value => FieldType.decimal.ownViolations value
  | .boolean, value => FieldType.boolean.ownViolations value

def requiredViolations : List (String × FieldType × Option ValueRule) → List (String × Toml) →
    List Violation
  | [], _ => []
  | (key, type, rule) :: fields, entries =>
      (match entries.lookup key with
        | none => [⟨[], .missing key⟩]
        | some value => (type.violations value ++ ruleViolations rule value).map (.below [key])) ++
        requiredViolations fields entries

def optionalViolations : List (String × FieldType × Option ValueRule) → List (String × Toml) →
    List Violation
  | [], _ => []
  | (key, type, rule) :: fields, entries =>
      (match entries.lookup key with
        | none => []
        | some value => (type.violations value ++ ruleViolations rule value).map (.below [key])) ++
        optionalViolations fields entries

end

def Expectation.violations (expected : Expectation) (value : Toml) : List Violation :=
  expected.1.violations value ++ ruleViolations expected.2 value

def Schema.violations (schema : Schema) (document : Toml) : List Violation :=
  schema.expectation.violations document

/-! ## Reporting -/

def report (path : List String) (violations : List Violation) : Except SchemaFault Unit :=
  match violations with
  | [] => .ok ()
  | violation :: _ => .error (violation.below path).reported

variable {path : List String} {value : Toml} {type : FieldType}

theorem report_eq_ok_iff {violations : List Violation} :
    report path violations = .ok () ↔ violations = [] := by
  cases violations <;> simp [report]

theorem report_eq_error_iff {violations : List Violation} {fault : SchemaFault} :
    report [] violations = .error fault ↔
      ∃ first others, violations = first :: others ∧ fault = first.reported := by
  cases violations with
  | nil => simp [report]
  | cons first others => simp [report, Violation.below, eq_comm]

theorem report_append (path : List String) (left right : List Violation) :
    report path (left ++ right) = (do report path left; report path right) := by
  cases left with
  | nil => rfl
  | cons violation left => rfl

theorem report_map_below (path keys : List String) (violations : List Violation) :
    report path (violations.map (.below keys)) = report (path ++ keys) violations := by
  cases violations with
  | nil => rfl
  | cons violation violations =>
      rw [List.map_cons, report, report, Violation.below, Violation.below, Violation.below,
        List.append_assoc]

theorem report_flatMap {α : Type} (path : List String) (items : List α)
    (violations : α → List Violation) :
    report path (items.flatMap violations) =
      items.forM fun item => report path (violations item) := by
  induction items with
  | nil => rfl
  | cons item items induction =>
      rw [List.flatMap_cons, report_append, induction]
      rfl

@[simp] theorem report_nil (path : List String) : report path [] = .ok () :=
  rfl

@[simp] theorem report_invalid (path : List String) (problem : ValueProblem)
    (others : List Violation) :
    report path (⟨[], .invalid problem⟩ :: others) = .error (.invalid path problem) := by
  rw [report, Violation.below, List.append_nil]
  rfl

@[simp] theorem report_missing (path : List String) (key : String) (others : List Violation) :
    report path (⟨[], .missing key⟩ :: others) = .error (.missing (path ++ [key])) := by
  rw [report, Violation.below, List.append_nil]
  rfl

theorem report_mismatch (path : List String) (type : FieldType) (value : Toml)
    (others : List Violation) :
    report path (⟨[], .mismatch type value⟩ :: others) =
      .error (mismatch (if type.isSection then path ++ ["root"] else path) type.expected
        value) := by
  rw [report, Violation.below, List.append_nil, Violation.reported, Violation.displacesSection]
  split <;> rfl

theorem checkRule_eq (rule : Option ValueRule) (path : List String) (value : Toml) :
    checkRule rule path value = report path (ruleViolations rule value) := by
  rw [checkRule, ruleViolations]
  cases rule.bind (·.problem? value) with
  | none => rfl
  | some problem => exact (report_invalid path problem []).symm

theorem checkInteger_eq (least greatest : Option Int) (path : List String) (value : Int) :
    checkInteger least greatest path value =
      report path (FieldType.ownViolations (.integer least greatest) (.integer value)) := by
  rw [FieldType.ownViolations_of_admits rfl, FieldType.problems, List.map_append, report_append]
  cases least with
  | none =>
      cases greatest with
      | none => rfl
      | some greatest => by_cases above : greatest < value <;> simp [checkInteger, above] <;> rfl
  | some least =>
      by_cases below : value < least
      · simp [checkInteger, below]
        rfl
      · cases greatest with
        | none => simp [checkInteger, below]; rfl
        | some greatest =>
            by_cases above : greatest < value <;> simp [checkInteger, below, above] <;> rfl

theorem FieldType.induction {motive : FieldType → Prop} (text : motive .text)
    (integer : ∀ least greatest, motive (.integer least greatest)) (decimal : motive .decimal)
    (boolean : motive .boolean) (map : ∀ element, motive element → motive (.map element))
    (table : ∀ required optional, (∀ field ∈ required, motive field.2.1) →
      (∀ field ∈ optional, motive field.2.1) → motive (.table required optional))
    (type : FieldType) : motive type :=
  @FieldType.rec motive (fun fields => ∀ field ∈ fields, motive field.2.1)
    (fun field => motive field.2.1) (fun expected => motive expected.1)
    text integer decimal boolean map table nofun
    (fun _ _ first rest => List.forall_mem_cons.mpr ⟨first, rest⟩) (fun _ _ inner => inner)
    (fun _ _ inner => inner) type

theorem check_below {key : String} {rule : Option ValueRule} (value : Toml)
    (checks : ∀ path value, type.check path value = report path (type.violations value)) :
    (do type.check (path ++ [key]) value; checkRule rule (path ++ [key]) value) =
      report path ((type.violations value ++ ruleViolations rule value).map (.below [key])) := by
  rw [report_map_below, report_append, checks, checkRule_eq]

section

variable {fields : List Field} (checks : ∀ field ∈ fields, ∀ path value,
  field.2.1.check path value = report path (field.2.1.violations value))
include checks

theorem checkRequired_eq (path : List String) (entries : List (String × Toml)) :
    checkRequired fields path entries = report path (requiredViolations fields entries) := by
  induction fields with
  | nil => rw [checkRequired, requiredViolations, report_nil]
  | cons field fields induction =>
      rcases field with ⟨key, type, rule⟩
      rcases List.forall_mem_cons.mp checks with ⟨first, rest⟩
      rw [checkRequired, requiredViolations, report_append, ← induction rest]
      cases entries.lookup key with
      | none => rw [report_missing]; rfl
      | some value => rw [← check_below value first, bind_assoc]

theorem checkOptional_eq (path : List String) (entries : List (String × Toml)) :
    checkOptional fields path entries = report path (optionalViolations fields entries) := by
  induction fields with
  | nil => rw [checkOptional, optionalViolations, report_nil]
  | cons field fields induction =>
      rcases field with ⟨key, type, rule⟩
      rcases List.forall_mem_cons.mp checks with ⟨first, rest⟩
      rw [checkOptional, optionalViolations, report_append, ← induction rest]
      cases entries.lookup key with
      | none => rfl
      | some value => rw [← check_below value first, bind_assoc]

end

theorem FieldType.check_eq (type : FieldType) (path : List String) (value : Toml) :
    type.check path value = report path (type.violations value) := by
  induction type using FieldType.induction generalizing path value with
  | text =>
      rw [violations]
      cases value with
      | string => rw [check]; rfl
      | integer | float | boolean | datetime | array | table =>
          rw [check]
          · exact (report_mismatch path text _ []).symm
          · nofun
  | integer least greatest =>
      rw [violations]
      cases value with
      | integer value => rw [check, checkInteger_eq]
      | string | float | boolean | datetime | array | table =>
          rw [check]
          · exact (report_mismatch path (integer least greatest) _ []).symm
          · nofun
  | decimal =>
      rw [violations]
      cases value with
      | integer | float => rw [check]; rfl
      | string spelled =>
          rw [check, ownViolations_of_admits rfl, problems]
          by_cases reads : (Decimal96.ofText? spelled).isSome
          · rw [if_pos reads, if_pos reads]
            rfl
          · rw [if_neg reads, if_neg reads]
            exact (report_invalid path _ []).symm
      | boolean | datetime | array | table =>
          rw [check]
          · exact (report_mismatch path decimal _ []).symm
          all_goals nofun
  | boolean =>
      rw [violations]
      cases value with
      | boolean => rw [check]; rfl
      | string | integer | float | datetime | array | table =>
          rw [check]
          · exact (report_mismatch path boolean _ []).symm
          · nofun
  | map element induction =>
      rw [violations, report_append]
      cases value with
      | table entries =>
          change _ = report path (entries.flatMap _)
          rw [check, report_flatMap]
          refine congrArg entries.forM (funext fun entry => ?_)
          rw [report_map_below]
          exact induction _ entry.2
      | string | integer | float | boolean | datetime | array =>
          rw [check]
          · exact (report_mismatch path (map element) _ []).symm
          · nofun
  | table required optional requiredChecks optionalChecks =>
      rw [violations, report_append]
      cases value with
      | table entries =>
          change _ = report path (requiredViolations required entries ++
            optionalViolations optional entries)
          rw [check, report_append, ← checkRequired_eq requiredChecks,
            ← checkOptional_eq optionalChecks]
      | string | integer | float | boolean | datetime | array =>
          rw [check]
          · exact (report_mismatch path (table required optional) _ []).symm
          · nofun

theorem Schema.check_eq (schema : Schema) (document : Toml) :
    schema.check document = report [] (schema.violations document) := by
  have plain : ruleViolations schema.expectation.2 document = [] := rfl
  rw [check, FieldType.check_eq, violations, Expectation.violations, plain, List.append_nil]
  rfl

end LendingPool
