import LendingPool.Proofs.Toml.Occurrences
import LendingPool.Proofs.Address
/-! What is known of a document that the check of a schema accepts: whatever is found in a place is
of the type that is expected there, within its bounds, and keeps its rule. -/

namespace LendingPool

/-! ## Addresses -/

theorem Bytes.exists_ofHexDigits? {digits : List Char} (even : digits.length % 2 = 0)
    (hexadecimal : ∀ digit ∈ digits, (hexValue? digit).isSome) :
    ∃ bytes, ofHexDigits? digits = some bytes := by
  fun_induction ofHexDigits? digits with
  | case1 => exact ⟨[], rfl⟩
  | case2 => cases even
  | case3 high low rest induction =>
      rw [List.length_cons, List.length_cons] at even
      rcases List.forall_mem_cons.mp hexadecimal with ⟨highDigit, hexadecimal⟩
      rcases List.forall_mem_cons.mp hexadecimal with ⟨lowDigit, hexadecimal⟩
      rcases Option.isSome_iff_exists.mp highDigit with ⟨highValue, readsHigh⟩
      rcases Option.isSome_iff_exists.mp lowDigit with ⟨lowValue, readsLow⟩
      rcases induction (by omega) hexadecimal with ⟨bytes, readsRest⟩
      simp [readsHigh, readsLow, readsRest]

theorem isSome_hexValue? {digit : Char} (hexadecimal : isHexDigit digit = true) :
    (Bytes.hexValue? digit).isSome := by
  have decimal : digit.isDigit = (decide ('0' ≤ digit) && decide (digit ≤ '9')) := rfl
  simp only [isHexDigit, decimal, Bool.or_eq_true, Bool.and_eq_true, decide_eq_true_eq]
    at hexadecimal
  rw [Bytes.hexValue?]
  split_ifs with digit lower upper
  · rfl
  · rfl
  · rfl
  · exact (hexadecimal.elim (·.elim digit lower) upper).elim

/-- An address in its text, with digits in either case. -/
def Address.IsIn (address : Address) (text : String) : Prop :=
  ∃ digits, text = "0x" ++ String.ofList digits ∧
    List.Forall₂ Bytes.SpellsDigit address.digits digits

theorem IsAddressText.exists_isIn {text : String} (isAddress : IsAddressText text) :
    ∃ address : Address, address.IsIn text := by
  rcases isAddress with ⟨digits, begins, forty, hexadecimal⟩
  rcases Bytes.exists_ofHexDigits? (by rw [forty]) fun digit member =>
    isSome_hexValue? (hexadecimal digit member) with ⟨bytes, reads⟩
  refine ⟨.ofNat (Bytes.toNat bytes), digits, ?_, ?_⟩
  · rw [← String.toList_inj, begins, Bytes.toList_marked]
  · rw [← Address.ofHexDigits?_eq_some_iff, Address.ofHexDigits?, forty, reads]
    rfl

/-! ## Expectations -/

namespace Expectation

variable {expected there : Expectation} {value inner : Toml} {rule : Option ValueRule}
  {path : List String}

def at? : (path : List String) → Expectation → Option Expectation
  | [], expected => some expected
  | _ :: path, (.map element, _) => at? path (element, none)
  | key :: path, (.table required optional, _) =>
      ((required ++ optional).lookup key).bind (at? path)
  | _ :: _, _ => none

theorem leads_of_at? (found : expected.at? path = some there) : expected.Leads path there := by
  induction path generalizing expected with
  | nil =>
      cases found
      exact .here _
  | cons key path induction =>
      rcases expected with ⟨_ | _ | _ | _ | element | ⟨required, optional⟩, rule⟩
      case map => exact .step .item (induction found)
      case table =>
        rcases Option.bind_eq_some_iff.mp found with ⟨next, named, found⟩
        exact .step (.field (Toml.mem_of_lookup named)) (induction found)
      all_goals cases found

def Met (expected : Expectation) (value : Toml) : Prop :=
  ∀ flaw : Flaw, ¬ flaw.Afflicts expected value

theorem Met.admits (met : expected.Met value) : expected.1.admits value = true := by
  by_contra refused
  exact met (.mismatch expected.1 value) ⟨rfl, rfl, Bool.not_eq_true _ ▸ refused⟩

theorem Met.exists_text (met : Met (.text, rule) value) : ∃ text, value = .string text := by
  have admits := met.admits
  cases value with
  | string text => exact ⟨text, rfl⟩
  | integer | float | boolean | datetime | array | table => cases admits

theorem Met.exists_flag (met : Met (.boolean, rule) value) : ∃ flag, value = .boolean flag := by
  have admits := met.admits
  cases value with
  | boolean flag => exact ⟨flag, rfl⟩
  | string | integer | float | datetime | array | table => cases admits

theorem Met.exists_entries {element : FieldType} (met : Met (.map element, rule) value) :
    ∃ entries, value = .table entries := by
  have admits := met.admits
  cases value with
  | table entries => exact ⟨entries, rfl⟩
  | string | integer | float | boolean | datetime | array => cases admits

theorem Met.exists_fields {required optional : List Field}
    (met : Met (.table required optional, rule) value) :
    ∃ entries, value = .table entries ∧
      ∀ key ∈ required.map Prod.fst, ∃ inner, value.follow? [key] = some inner := by
  have admits := met.admits
  cases value with
  | table entries =>
      refine ⟨entries, rfl, fun key named => ?_⟩
      cases found : entries.lookup key with
      | some inner => exact ⟨inner, by simp [found]⟩
      | none =>
          exact (met (.missing key) ⟨required, optional, entries, rfl, rfl, named, found⟩).elim
  | string | integer | float | boolean | datetime | array => cases admits

theorem Met.exists_integer {least greatest : Option Int}
    (met : Met (.integer least greatest, rule) value) :
    ∃ number, value = .integer number ∧ (∀ bound ∈ least, bound ≤ number) ∧
      ∀ bound ∈ greatest, number ≤ bound := by
  have admits := met.admits
  cases value with
  | integer number =>
      refine ⟨number, rfl, fun bound given => ?_, fun bound given => ?_⟩
      · by_contra below
        refine met (.invalid (.belowLeast number bound)) (.inl ⟨rfl, by omega, greatest, ?_⟩)
        rw [Option.mem_def.mp given]
      · by_contra above
        refine met (.invalid (.aboveGreatest number bound)) (.inl ⟨rfl, by omega, least, ?_⟩)
        rw [Option.mem_def.mp given]
  | string | float | boolean | datetime | array | table => cases admits

theorem Met.decimal_cases (met : Met (.decimal, rule) value) :
    (∃ number, value = .integer number) ∨ (∃ number, value = .float number) ∨
      ∃ text decimal, value = .string text ∧ Decimal96.ofText? text = some decimal := by
  have admits := met.admits
  cases value with
  | integer number => exact .inl ⟨number, rfl⟩
  | float number => exact .inr (.inl ⟨number, rfl⟩)
  | string text =>
      cases reads : Decimal96.ofText? text with
      | some decimal => exact .inr (.inr ⟨text, decimal, rfl, reads⟩)
      | none => exact (met (.invalid (.notDecimal text)) (.inl ⟨rfl, reads, rfl⟩)).elim
  | boolean | datetime | array | table => cases admits

theorem Met.isAddressText {type : FieldType} {text : String}
    (met : Met (type, some .address) (.string text)) : IsAddressText text := by
  by_contra other
  by_cases marked : ['0', 'x'] <+: text.toList
  · exact met (.invalid (.notAddress text)) (.inr ⟨.address, rfl, rfl, rfl, marked, other⟩)
  · exact met (.invalid (.noHexMark text)) (.inr ⟨.address, rfl, rfl, rfl, marked⟩)

theorem Met.isWebUrl {type : FieldType} {text : String}
    (met : Met (type, some .webUrl) (.string text)) : IsWebUrl text := by
  by_contra other
  refine met (.invalid .notWebUrl) (.inr ⟨.webUrl, rfl, rfl, fun same given => ?_⟩)
  cases given
  exact other

end Expectation

/-- Whatever is found in an accepted document meets what is expected there. -/
theorem Schema.met_of_check {schema : Schema} {document value : Toml} {path : List String}
    {expected : Expectation} (proper : document.Proper) (accepted : schema.check document = .ok ())
    (leads : schema.expectation.Leads path expected)
    (follows : document.follow? path = some value) : expected.Met value := by
  intro flaw afflicts
  exact (schema.check_eq_ok_iff proper).mp accepted ⟨path, flaw⟩
    ⟨expected, value, leads, follows, afflicts⟩

end LendingPool
