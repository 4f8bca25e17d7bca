import LendingPool.Chain.Resolution
import LendingPool.Proofs.Chain.Answers
/-! The accounts that callers name. Validating a text asks for names and for nothing else, so what
it stands for depends on the snapshot and not on a cache. -/

namespace LendingPool

def ChainQuery.IsResolution (query : ChainQuery) : Prop :=
  ∃ name, query = .resolve name

theorem ChainQuery.IsResolution.isMetadata_eq_false {query : ChainQuery}
    (resolution : query.IsResolution) : query.isMetadata = false := by
  rcases resolution with ⟨name, rfl⟩
  rfl

theorem ChainQuery.IsResolution.isAllowance_eq_false {query : ChainQuery}
    (resolution : query.IsResolution) : query.isAllowance = false := by
  rcases resolution with ⟨name, rfl⟩
  rfl

namespace Resolver

variable {snapshot : Snapshot} {resolver : Resolver}

def account? (resolver : Resolver) (snapshot : Snapshot) (text : String) : Option Address :=
  (Reading.on snapshot (resolver.validate text).run).1.toOption

def accountOr? (resolver : Resolver) (snapshot : Snapshot) (text : Option String)
    (default : Address) : Option Address :=
  match text with
  | some text => resolver.account? snapshot text
  | none => some default

@[simp] theorem asksOnly_validate (resolver : Resolver) (text : String) :
    Planning.AsksOnly ChainQuery.IsResolution (resolver.validate text) := by
  rw [validate]
  split
  · cases resolver with
    | absent => exact Planning.asksOnly_throw _
    | onChain =>
        apply Planning.asksOnly_bind (Planning.asksOnly_read ⟨text, rfl⟩)
        intro found
        cases found with
        | none => exact Planning.asksOnly_throw _
        | some address => exact Planning.asksOnly_pure address
  · exact Planning.asksOnly_check _

@[simp] theorem asksOnly_validateOr (resolver : Resolver) (text : Option String)
    (default : Address) :
    Planning.AsksOnly ChainQuery.IsResolution (resolver.validateOr text default) := by
  cases text with
  | none => exact Planning.asksOnly_pure default
  | some text => exact asksOnly_validate resolver text

@[simp] theorem yields_validate_iff {text : String} {address : Address} :
    Planning.Yields snapshot.MayAnswer (resolver.validate text) address ↔
      resolver.account? snapshot text = some address := by
  have named : Planning.Yields snapshot.Answers (resolver.validate text) address ↔
      resolver.account? snapshot text = some address := by
    rw [Planning.yields_answers_iff, account?]
    rcases (Reading.on snapshot (resolver.validate text).run).1 with fault | address <;>
      simp [Except.toOption]
  rw [← named]
  constructor
  · rintro ⟨asked, course⟩
    have noMetadata := (asksOnly_validate resolver text).mono fun _ resolution =>
      resolution.isMetadata_eq_false
    exact ⟨asked, course.answers noMetadata⟩
  · exact Planning.Yields.mayAnswer

@[simp] theorem yields_validateOr_iff {text : Option String} {default address : Address} :
    Planning.Yields snapshot.MayAnswer (resolver.validateOr text default) address ↔
      resolver.accountOr? snapshot text default = some address := by
  cases text with
  | none => simp [validateOr, accountOr?]
  | some text => exact yields_validate_iff

end Resolver

end LendingPool
