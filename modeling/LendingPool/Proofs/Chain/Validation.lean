import LendingPool.Chain.Resolution
import LendingPool.Proofs.Address
import LendingPool.Proofs.Chain.Planning
/-! What a caller may give for an address. Names are left to the resolver. Any other text is either
one of the spellings of an address, or a fault. -/

namespace LendingPool

/-! ## Names -/

def IsDottedName (text : String) : Prop :=
  '.' ∈ text.toList ∧ ¬ ['0', 'x'] <+: text.toList

instance (text : String) : Decidable (IsDottedName text) :=
  inferInstanceAs (Decidable (_ ∧ _))

theorem isName_iff {text : String} : isName text = true ↔ IsDottedName text := by
  rw [isName, IsDottedName, Bool.and_eq_true, Bool.not_eq_true', ← Bool.not_eq_true,
    List.isPrefixOf_iff_prefix, List.contains_iff_mem, and_comm]

namespace Resolver

variable {Possible : PossibleReplies} {resolver : Resolver} {text : String}
  {asked : List ChainQuery} {outcome : Except Fault Address}

inductive Resolves (Possible : PossibleReplies) (name : String) :
    Resolver → List ChainQuery → Except Fault Address → Prop
  | absent : Resolves Possible name .absent [] (.error (.input (.unresolvableName name)))
  | found {address} (replies : Possible (.resolve name) (.ok (some address))) :
      Resolves Possible name .onChain [.resolve name] (.ok address)
  | unknown (replies : Possible (.resolve name) (.ok none)) :
      Resolves Possible name .onChain [.resolve name]
        (.error (.input (.unresolvableName name)))
  | failed {fault} (replies : Possible (.resolve name) (.error fault)) :
      Resolves Possible name .onChain [.resolve name] (.error (.service fault))

theorem course_resolve_iff :
    Dialogue.Course Possible (resolver.resolve text).run asked outcome ↔
      Resolves Possible text resolver asked outcome := by
  constructor
  · intro course
    cases resolver with
    | absent =>
        cases course
        exact .absent
    | onChain =>
        cases course with
        | @ask _ _ reply _ _ replies rest =>
            rcases reply with fault | _ | address <;> cases rest
            · exact .failed replies
            · exact .unknown replies
            · exact .found replies
  · intro resolves
    cases resolves with
    | absent => exact .done _
    | found replies | unknown replies | failed replies => exact .ask replies (.done _)

theorem course_validate_of_name (name : IsDottedName text) :
    Dialogue.Course Possible (resolver.validate text).run asked outcome ↔
      Resolves Possible text resolver asked outcome := by
  rw [validate, if_pos (isName_iff.mpr name), course_resolve_iff]

theorem course_validate_of_not_name (typed : ¬ IsDottedName text) :
    Dialogue.Course Possible (resolver.validate text).run asked outcome ↔
      asked = [] ∧ outcome = (Address.parse text).mapError .input := by
  rw [validate, if_neg (mt isName_iff.mp typed)]
  cases Address.parse text with
  | error fault =>
      change Dialogue.Course Possible (.done (Except.error (Fault.input fault))) asked outcome ↔ _
      rw [Dialogue.course_done_iff, eq_comm (a := outcome)]
      rfl
  | ok address =>
      change Dialogue.Course Possible (.done (Except.ok address)) asked outcome ↔ _
      rw [Dialogue.course_done_iff, eq_comm (a := outcome)]
      rfl

end Resolver

/-- An address is read from its spellings and from no other text. Each address has one in lower
case, one in upper case and a checksummed one, and all its spellings differ in case only. A name
is put to the resolver, and nothing else is. -/
theorem Address.reads_spellings :
    (∀ (text : String) (address : Address),
      parse text = .ok address ↔ address.SpelledBy text) ∧
    (∀ text : String, (∀ address : Address, ¬ address.SpelledBy text) →
      parse text = .error (.invalidAddress text)) ∧
    (∀ address : Address,
      parse ("0x" ++ String.ofList address.digits) = .ok address ∧
      parse ("0x" ++ String.ofList address.upperDigits) = .ok address ∧
      parse ("0x" ++ String.ofList address.mixedDigits) = .ok address) ∧
    (∀ (address : Address) (text other : String), parse text = .ok address →
      parse other = .ok address →
      text.toList.map Char.toLower = other.toList.map Char.toLower) ∧
    (∀ (Possible : PossibleReplies) (resolver : Resolver) (text : String) asked outcome,
      IsDottedName text →
        (Dialogue.Course Possible (resolver.validate text).run asked outcome ↔
          resolver.Resolves Possible text asked outcome)) ∧
    (∀ (Possible : PossibleReplies) (resolver : Resolver) (text : String) asked outcome,
      ¬ IsDottedName text →
        (Dialogue.Course Possible (resolver.validate text).run asked outcome ↔
          asked = [] ∧ outcome = (parse text).mapError .input)) := by
  refine ⟨?_, ?_, ?_, ?_, ?_, ?_⟩
  · intro text address
    exact parse_eq_ok_iff
  · intro text unspelled
    exact parse_eq_error unspelled
  · intro address
    exact ⟨parse_eq_ok_iff.mpr address.spelledBy_lower, parse_eq_ok_iff.mpr address.spelledBy_upper,
      parse_eq_ok_iff.mpr address.spelledBy_mixed⟩
  · intro address text other reads otherReads
    rw [(parse_eq_ok_iff.mp reads).map_toLower, (parse_eq_ok_iff.mp otherReads).map_toLower]
  · intro Possible resolver text asked outcome name
    exact Resolver.course_validate_of_name name
  · intro Possible resolver text asked outcome typed
    exact Resolver.course_validate_of_not_name typed

/-- The native currency in lower and in upper case, a text that is too short, and a name with and
without a resolver. -/
theorem Address.reads_spellings_of_native :
    let lower := "0x" ++ String.ofList nativeCurrency.digits
    let upper := "0x" ++ String.ofList nativeCurrency.upperDigits
    parse lower = .ok nativeCurrency ∧ parse upper = .ok nativeCurrency ∧
      lower.toList.map Char.toLower = upper.toList.map Char.toLower ∧
      parse "0x12" = .error (.invalidAddress "0x12") ∧
      Dialogue.Course (fun _ _ => True) (Resolver.onChain.validate "alice.eth").run
        [.resolve "alice.eth"] (.ok nativeCurrency) ∧
      Dialogue.Course (fun _ _ => True) (Resolver.absent.validate "alice.eth").run
        [] (.error (.input (.unresolvableName "alice.eth"))) ∧
      Dialogue.Course (fun _ _ => True) (Resolver.onChain.validate "0x1.2").run
        [] ((parse "0x1.2").mapError .input) := by
  rcases reads_spellings with ⟨-, refused, forms, differ, names, typed⟩
  rcases forms nativeCurrency with ⟨lower, upper, -⟩
  have short (address : Address) : ¬ address.SpelledBy "0x12" := by
    rintro ⟨digits, begins, spells, -⟩
    have two := congrArg (fun text : String => text.toList.length) begins
    simp [← spells.length_eq] at two
  have name : IsDottedName "alice.eth" := by decide
  refine ⟨lower, upper, differ _ _ _ lower upper, refused _ short, ?_, ?_, ?_⟩
  · exact (names _ _ _ _ _ name).mpr (.found trivial)
  · exact (names _ _ _ _ _ name).mpr .absent
  · exact (typed _ _ _ _ _ (by decide)).mpr ⟨rfl, rfl⟩

end LendingPool
