import LendingPool.Chain.Query
import LendingPool.Proofs.Dialogue.Course
/-! Planning that succeeds. A successful course of a plan is put together from successful courses
of its parts; what the parts read follows one another. -/

namespace LendingPool

abbrev PossibleReplies := (query : ChainQuery) → query.Reply → Prop

namespace Planning

variable {α β : Type} {Possible : PossibleReplies}

/-- A course on which planning succeeds: what is read in order, and the result. -/
def Course (Possible : PossibleReplies) (planning : Planning α) (asked : List ChainQuery)
    (value : α) : Prop :=
  Dialogue.Course Possible planning.run asked (.ok value)

theorem course_pure_iff {value result : α} {asked : List ChainQuery} :
    Course Possible (pure value) asked result ↔ asked = [] ∧ value = result := by
  rw [Course]
  change Dialogue.Course Possible (.done (Except.ok value)) asked _ ↔ _
  rw [Dialogue.course_done_iff, Except.ok.injEq]

theorem not_course_throw {fault : Fault} {asked : List ChainQuery} {result : α} :
    ¬ Course Possible (throw fault) asked result := by
  intro course
  change Dialogue.Course Possible (.done (Except.error fault)) asked _ at course
  cases course

theorem course_bind_iff {planning : Planning α} {next : α → Planning β}
    {asked : List ChainQuery} {result : β} :
    Course Possible (planning >>= next) asked result ↔
      ∃ value before after, asked = before ++ after ∧
        Course Possible planning before value ∧ Course Possible (next value) after result := by
  change Dialogue.Course Possible (Dialogue.bind planning.run (ExceptT.bindCont next)) asked _ ↔ _
  rw [Dialogue.course_bind_iff]
  constructor
  · rintro ⟨outcome, before, after, rfl, first, second⟩
    cases outcome with
    | error fault => cases second
    | ok value => exact ⟨value, before, after, rfl, first, second⟩
  · rintro ⟨value, before, after, rfl, first, second⟩
    exact ⟨.ok value, before, after, rfl, first, second⟩

theorem course_read_iff {query : ChainQuery} {asked : List ChainQuery} {answer : query.Answer} :
    Course Possible (read query) asked answer ↔
      asked = [query] ∧ Possible query (.ok answer) := by
  constructor
  · intro course
    cases course with
    | @ask _ _ reply _ _ possible rest =>
        cases reply <;> cases rest
        exact ⟨rfl, possible⟩
  · rintro ⟨rfl, possible⟩
    exact .ask possible (.done (Except.ok answer))

theorem course_check_iff {result : Except InputFault α} {asked : List ChainQuery} {value : α} :
    Course Possible (check result) asked value ↔ asked = [] ∧ result = .ok value := by
  cases result with
  | error fault => simp [check, not_course_throw]
  | ok checked => simp [check, course_pure_iff]

/-! ## Results alone -/

def Yields (Possible : PossibleReplies) (planning : Planning α) (value : α) : Prop :=
  ∃ asked, Course Possible planning asked value

theorem Course.yields {planning : Planning α} {asked : List ChainQuery} {value : α}
    (course : Course Possible planning asked value) : Yields Possible planning value :=
  ⟨asked, course⟩

theorem Yields.mono {Allowed : PossibleReplies} {planning : Planning α} {value : α}
    (yields : Yields Possible planning value)
    (allowed : ∀ query reply, Possible query reply → Allowed query reply) :
    Yields Allowed planning value :=
  yields.imp fun _ course => Dialogue.Course.mono course fun query _ reply => allowed query reply

@[simp] theorem yields_pure_iff {value result : α} :
    Yields Possible (pure value) result ↔ value = result := by
  simp [Yields, course_pure_iff]

@[simp] theorem not_yields_throw {fault : Fault} {result : α} :
    ¬ Yields Possible (throw fault) result := by
  simp [Yields, not_course_throw]

@[simp] theorem yields_bind_iff {planning : Planning α} {next : α → Planning β} {result : β} :
    Yields Possible (planning >>= next) result ↔
      ∃ value, Yields Possible planning value ∧ Yields Possible (next value) result := by
  constructor
  · rintro ⟨asked, course⟩
    rcases course_bind_iff.mp course with ⟨value, before, after, -, first, second⟩
    exact ⟨value, ⟨before, first⟩, ⟨after, second⟩⟩
  · rintro ⟨value, ⟨before, first⟩, ⟨after, second⟩⟩
    exact ⟨before ++ after, course_bind_iff.mpr ⟨value, before, after, rfl, first, second⟩⟩

@[simp] theorem yields_read_iff {query : ChainQuery} {answer : query.Answer} :
    Yields Possible (read query) answer ↔ Possible query (.ok answer) := by
  simp [Yields, course_read_iff]

@[simp] theorem yields_check_iff {result : Except InputFault α} {value : α} :
    Yields Possible (check result) value ↔ result = .ok value := by
  simp [Yields, course_check_iff]

@[simp] theorem yields_ite_iff {condition : Prop} [Decidable condition]
    {first second : Planning α} {result : α} :
    Yields Possible (if condition then first else second) result ↔
      if condition then Yields Possible first result else Yields Possible second result := by
  split <;> rfl

/-! ## What is read -/

def AsksOnly (Expected : ChainQuery → Prop) (planning : Planning α) : Prop :=
  Dialogue.AsksOnly Expected planning.run

variable {Expected : ChainQuery → Prop}

theorem AsksOnly.mono {Wider : ChainQuery → Prop} {planning : Planning α}
    (asksOnly : AsksOnly Expected planning) (wider : ∀ query, Expected query → Wider query) :
    AsksOnly Wider planning :=
  Dialogue.AsksOnly.mono asksOnly wider

@[simp] theorem asksOnly_pure (value : α) : AsksOnly Expected (pure value) :=
  trivial

@[simp] theorem asksOnly_throw (fault : Fault) : AsksOnly Expected (throw fault : Planning α) :=
  trivial

@[simp] theorem asksOnly_check (result : Except InputFault α) :
    AsksOnly Expected (check result) := by
  cases result <;> trivial

theorem asksOnly_read {query : ChainQuery} (expected : Expected query) :
    AsksOnly Expected (read query) := by
  refine ⟨expected, fun reply => ?_⟩
  cases reply <;> trivial

@[simp] theorem asksOnly_bind {planning : Planning α} {next : α → Planning β}
    (first : AsksOnly Expected planning) (second : ∀ value, AsksOnly Expected (next value)) :
    AsksOnly Expected (planning >>= next) := by
  apply Dialogue.asksOnly_bind first
  intro outcome
  cases outcome with
  | error fault => trivial
  | ok value => exact second value

@[simp] theorem asksOnly_ite {condition : Prop} [Decidable condition]
    {first second : Planning α} (holds : AsksOnly Expected first)
    (fails : AsksOnly Expected second) :
    AsksOnly Expected (if condition then first else second) := by
  split
  · exact holds
  · exact fails

theorem Course.expected {planning : Planning α} {asked : List ChainQuery} {value : α}
    (course : Course Possible planning asked value) (asksOnly : AsksOnly Expected planning) :
    ∀ query, query ∈ asked → Expected query :=
  Dialogue.Course.expected course asksOnly

end Planning

end LendingPool
