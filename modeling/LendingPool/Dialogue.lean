/-! Computations that put questions to their surroundings.

What is asked, and what follows from each answer, is plain data. Who answers is left open: a
handler may look into a snapshot, remember earlier answers, or start a dialogue of its own. -/

namespace LendingPool

/-- A computation of an `α` that may ask questions first. -/
inductive Dialogue {Question : Type} (Answer : Question → Type) (α : Type)
  | done (value : α)
  | ask (question : Question) (next : Answer question → Dialogue Answer α)

namespace Dialogue

variable {Question : Type} {Answer : Question → Type} {α β : Type}

def bind : Dialogue Answer α → (α → Dialogue Answer β) → Dialogue Answer β
  | done value, next => next value
  | ask question answered, next => ask question fun answer => (answered answer).bind next

instance : Monad (Dialogue Answer) where
  pure := done
  bind := bind

def query (question : Question) : Dialogue Answer (Answer question) :=
  ask question done

theorem bind_done (dialogue : Dialogue Answer α) : dialogue.bind done = dialogue := by
  induction dialogue with
  | done value => rfl
  | ask question next ih => simp only [bind, ih]

theorem bind_assoc {γ : Type} (dialogue : Dialogue Answer α) (first : α → Dialogue Answer β)
    (second : β → Dialogue Answer γ) :
    (dialogue.bind first).bind second = dialogue.bind fun value => (first value).bind second := by
  induction dialogue with
  | done value => rfl
  | ask question next ih => simp only [bind, ih]

instance : LawfulMonad (Dialogue Answer) :=
  LawfulMonad.mk' _ bind_done (fun _ _ => rfl) bind_assoc

/-- Carries a computation out. The handler answers the questions, in order. -/
def run {m : Type → Type} [Monad m] (answer : (question : Question) → m (Answer question)) :
    Dialogue Answer α → m α
  | done value => pure value
  | ask question next => do (next (← answer question)).run answer

end Dialogue

end LendingPool
