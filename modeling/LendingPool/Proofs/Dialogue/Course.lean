import LendingPool.Dialogue
/-! The courses that a dialogue can take. A course is fixed by the answers, so whatever holds of
every course holds whoever answers. -/

namespace LendingPool.Dialogue

variable {Question : Type} {Answer : Question → Type} {α β : Type}
  {Possible : (question : Question) → Answer question → Prop}

/-- A course on which every answer is a possible one: the questions in order, and the value in
the end. -/
inductive Course (Possible : (question : Question) → Answer question → Prop) :
    Dialogue Answer α → List Question → α → Prop
  | done (value : α) : Course Possible (.done value) [] value
  | ask {question next answer asked value} (possible : Possible question answer)
      (rest : Course Possible (next answer) asked value) :
      Course Possible (.ask question next) (question :: asked) value

theorem course_done_iff {value result : α} {asked : List Question} :
    Course Possible (.done value) asked result ↔ asked = [] ∧ value = result := by
  constructor
  · intro course
    cases course
    exact ⟨rfl, rfl⟩
  · rintro ⟨rfl, rfl⟩
    exact .done value

theorem course_bind_iff {dialogue : Dialogue Answer α} {next : α → Dialogue Answer β}
    {asked : List Question} {result : β} :
    Course Possible (dialogue.bind next) asked result ↔
      ∃ value before after, asked = before ++ after ∧
        Course Possible dialogue before value ∧ Course Possible (next value) after result := by
  constructor
  · intro course
    induction dialogue generalizing asked with
    | done value => exact ⟨value, [], asked, rfl, .done value, course⟩
    | ask question answered induction =>
        cases course with
        | ask possible rest =>
            rcases induction _ rest with ⟨value, before, after, rfl, first, second⟩
            exact ⟨value, question :: before, after, rfl, .ask possible first, second⟩
  · rintro ⟨value, before, after, rfl, first, second⟩
    induction first with
    | done value => exact second
    | ask possible rest induction => exact .ask possible (induction second)

/-- Answers to questions that are not asked do not matter. -/
theorem Course.mono {Allowed : (question : Question) → Answer question → Prop}
    {dialogue : Dialogue Answer α} {asked : List Question} {value : α}
    (course : Course Possible dialogue asked value)
    (allowed : ∀ question, question ∈ asked → ∀ answer, Possible question answer →
      Allowed question answer) : Course Allowed dialogue asked value := by
  induction course with
  | done value => exact .done value
  | ask possible rest induction =>
      refine .ask (allowed _ (List.mem_cons_self ..) _ possible) (induction ?_)
      intro question member
      exact allowed question (List.mem_cons_of_mem _ member)

theorem Course.unique {dialogue : Dialogue Answer α} {first second : List Question}
    {left right : α}
    (functional : ∀ question left right, Possible question left → Possible question right →
      left = right)
    (leftCourse : Course Possible dialogue first left)
    (rightCourse : Course Possible dialogue second right) : first = second ∧ left = right := by
  induction leftCourse generalizing second with
  | done value =>
      cases rightCourse
      exact ⟨rfl, rfl⟩
  | ask possible rest induction =>
      cases rightCourse with
      | ask otherPossible otherRest =>
          cases functional _ _ _ possible otherPossible
          rcases induction otherRest with ⟨rfl, rfl⟩
          exact ⟨rfl, rfl⟩

/-! ## Questions -/

def AsksOnly (Expected : Question → Prop) : Dialogue Answer α → Prop
  | .done _ => True
  | .ask question next => Expected question ∧ ∀ answer, (next answer).AsksOnly Expected

theorem AsksOnly.mono {Expected Wider : Question → Prop} {dialogue : Dialogue Answer α}
    (asksOnly : dialogue.AsksOnly Expected)
    (wider : ∀ question, Expected question → Wider question) : dialogue.AsksOnly Wider := by
  induction dialogue with
  | done value => trivial
  | ask question answered induction =>
      exact ⟨wider question asksOnly.1, fun answer => induction answer (asksOnly.2 answer)⟩

theorem asksOnly_bind {Expected : Question → Prop} {dialogue : Dialogue Answer α}
    {next : α → Dialogue Answer β} (first : dialogue.AsksOnly Expected)
    (second : ∀ value, (next value).AsksOnly Expected) :
    (dialogue.bind next).AsksOnly Expected := by
  induction dialogue with
  | done value => exact second value
  | ask question answered induction =>
      exact ⟨first.1, fun answer => induction answer (first.2 answer)⟩

theorem Course.expected {Expected : Question → Prop} {dialogue : Dialogue Answer α}
    {asked : List Question} {value : α} (course : Course Possible dialogue asked value)
    (asksOnly : dialogue.AsksOnly Expected) : ∀ question, question ∈ asked → Expected question := by
  induction course with
  | done value => simp
  | ask possible rest induction =>
      intro question member
      rcases List.mem_cons.mp member with equal | member
      · exact equal ▸ asksOnly.1
      · exact induction (asksOnly.2 _) question member

end LendingPool.Dialogue
