import LendingPool.Proofs.Chain.Accounts
/-! What planning comes to on a snapshot, faults included. One part follows the other, a fault ends
the plan, and a plan that only asks for names does not notice a cache. -/

namespace LendingPool

theorem Dialogue.run_bind {Question : Type} {Answer : Question → Type} {α β : Type}
    {m : Type → Type} [Monad m] [LawfulMonad m]
    (answer : (question : Question) → m (Answer question)) (dialogue : Dialogue Answer α)
    (next : α → Dialogue Answer β) :
    (dialogue.bind next).run answer =
      dialogue.run answer >>= fun value => (next value).run answer := by
  induction dialogue with
  | done value => simp only [Dialogue.bind, run, pure_bind]
  | ask question answered induction =>
      simp only [Dialogue.bind, run, induction, LawfulMonad.bind_assoc]

variable {α β : Type} {snapshot : Snapshot} {lifetime : Option Nat} {cache later : Cache}
  {reads : List ChainQuery}

theorem Reading.on_bind (snapshot : Snapshot) (reading : Reading α) (next : α → Reading β) :
    Reading.on snapshot (Dialogue.bind reading next) =
      (((next (reading.on snapshot).1).on snapshot).1,
        (reading.on snapshot).2 ++ ((next (reading.on snapshot).1).on snapshot).2) := by
  rw [on_eq_iff, Dialogue.course_bind_iff]
  exact ⟨_, _, _, rfl, on_eq_iff.mp rfl, on_eq_iff.mp rfl⟩

namespace Planning

/-! ## Without a cache -/

def outcome (snapshot : Snapshot) (planning : Planning α) : Except Fault α :=
  (Reading.on snapshot planning.run).1

@[simp] theorem outcome_pure (value : α) : outcome snapshot (pure value) = .ok value :=
  rfl

@[simp] theorem outcome_throw (fault : Fault) :
    outcome snapshot (throw fault : Planning α) = .error fault :=
  rfl

theorem outcome_bind (planning : Planning α) (next : α → Planning β) :
    outcome snapshot (planning >>= next) =
      outcome snapshot planning >>= fun value => outcome snapshot (next value) := by
  change (Reading.on snapshot (Dialogue.bind planning.run (ExceptT.bindCont next))).1 = _
  rw [Reading.on_bind, outcome]
  cases (Reading.on snapshot planning.run).1 <;> rfl

theorem outcome_eq_ok_iff {planning : Planning α} {value : α} :
    outcome snapshot planning = .ok value ↔ Yields snapshot.Answers planning value :=
  yields_answers_iff.symm

/-! ## With a cache -/

theorem run_reply_bind (planning : Planning α) (next : α → Planning β) (cache : Cache)
    (log : List ChainQuery) :
    Dialogue.run (Remembering.reply lifetime snapshot) (planning >>= next).run cache log =
      match Dialogue.run (Remembering.reply lifetime snapshot) planning.run cache log with
      | ((.ok value, later), reads) =>
          Dialogue.run (Remembering.reply lifetime snapshot) (next value).run later reads
      | ((.error fault, later), reads) => ((.error fault, later), reads) := by
  change Dialogue.run (Remembering.reply lifetime snapshot)
    (Dialogue.bind planning.run (ExceptT.bindCont next)) cache log = _
  rw [Dialogue.run_bind]
  change (match Dialogue.run (Remembering.reply lifetime snapshot) planning.run cache log with
    | ((outcome, later), reads) =>
        Dialogue.run (Remembering.reply lifetime snapshot) (ExceptT.bindCont next outcome) later
          reads) = _
  rcases Dialogue.run (Remembering.reply lifetime snapshot) planning.run cache log with
    ⟨⟨outcome, later⟩, reads⟩
  cases outcome <;> rfl

theorem onCached_eq_iff {reading : Reading α} {value : α} :
    reading.onCached lifetime snapshot cache = (value, later, reads) ↔
      Dialogue.run (Remembering.reply lifetime snapshot) reading cache [] =
        ((value, later), reads) := by
  rw [Reading.onCached]
  rcases Dialogue.run (Remembering.reply lifetime snapshot) reading cache [] with
    ⟨⟨value, later⟩, reads⟩
  constructor
  all_goals
    intro equal
    cases equal
    rfl

theorem onCached_bind_of_error {planning : Planning α} {fault : Fault}
    (refused : Reading.onCached lifetime snapshot cache planning.run =
      (.error fault, later, reads)) (next : α → Planning β) :
    Reading.onCached lifetime snapshot cache (planning >>= next).run =
      (.error fault, later, reads) := by
  rw [onCached_eq_iff] at refused ⊢
  rw [run_reply_bind, refused]

theorem onCached_bind_of_ok {planning : Planning α} {value : α} {next : α → Planning β}
    {result : β}
    (accepted : Reading.onCached lifetime snapshot cache planning.run = (.ok value, later, reads))
    (settles : next value = pure result) :
    Reading.onCached lifetime snapshot cache (planning >>= next).run =
      (.ok result, later, reads) := by
  rw [onCached_eq_iff] at accepted ⊢
  rw [run_reply_bind, accepted]
  dsimp only
  rw [settles]
  rfl

theorem yields_of_onCached {planning : Planning α} {value : α}
    (run : (Reading.onCached lifetime snapshot cache planning.run).1 = .ok value) :
    Yields snapshot.MayAnswer planning value := by
  rcases Reading.course_of_onCached (Prod.ext run rfl) with ⟨asked, course, -⟩
  exact ⟨asked, course⟩

theorem exists_fault_of_not_yields {planning : Planning α}
    (never : ∀ value, ¬ Yields snapshot.MayAnswer planning value) :
    ∃ fault, (Reading.onCached lifetime snapshot cache planning.run).1 = .error fault := by
  cases run : (Reading.onCached lifetime snapshot cache planning.run).1 with
  | error fault => exact ⟨fault, rfl⟩
  | ok value => exact absurd (yields_of_onCached run) (never value)

/-! ## Names alone -/

theorem reply_of_isResolution {query : ChainQuery} (resolution : query.IsResolution)
    (cache : Cache) (log : List ChainQuery) :
    Remembering.reply lifetime snapshot query cache log =
      ((snapshot.reply query, cache), log ++ [query]) := by
  rcases resolution with ⟨name, rfl⟩
  cases lifetime <;> rfl

theorem run_reply_of_asksOnly {reading : Reading α}
    (asksOnly : Dialogue.AsksOnly ChainQuery.IsResolution reading) (cache : Cache)
    (log : List ChainQuery) :
    Dialogue.run (Remembering.reply lifetime snapshot) reading cache log =
      (((Dialogue.run snapshot.record reading log).1, cache),
        (Dialogue.run snapshot.record reading log).2) := by
  induction reading generalizing log with
  | done value => rfl
  | ask query next induction =>
      rw [Remembering.run_ask (reply_of_isResolution asksOnly.1 cache log)]
      exact induction _ (asksOnly.2 _) _

theorem onCached_of_asksOnly {planning : Planning α}
    (asksOnly : AsksOnly ChainQuery.IsResolution planning) (snapshot : Snapshot)
    (lifetime : Option Nat) (cache : Cache) :
    Reading.onCached lifetime snapshot cache planning.run =
      (outcome snapshot planning, cache, (Reading.on snapshot planning.run).2) := by
  rw [Reading.onCached, run_reply_of_asksOnly asksOnly]
  rfl

theorem outcome_eq_ok_iff_of_asksOnly {planning : Planning α} {value : α}
    (asksOnly : AsksOnly ChainQuery.IsResolution planning) :
    outcome snapshot planning = .ok value ↔ Yields snapshot.MayAnswer planning value := by
  rw [outcome_eq_ok_iff]
  constructor
  · exact Yields.mayAnswer
  · rintro ⟨asked, course⟩
    have noMetadata := asksOnly.mono fun _ resolution => resolution.isMetadata_eq_false
    exact ⟨asked, course.answers noMetadata⟩

theorem isResolution_of_mem {planning : Planning α}
    (asksOnly : AsksOnly ChainQuery.IsResolution planning) (snapshot : Snapshot) :
    ∀ query ∈ (Reading.on snapshot planning.run).2, query.IsResolution :=
  Dialogue.Course.expected (Reading.on_eq_iff.mp rfl) asksOnly

end Planning

namespace Resolver

variable {resolver : Resolver}

theorem outcome_validate_eq_ok_iff {text : String} {address : Address} :
    Planning.outcome snapshot (resolver.validate text) = .ok address ↔
      resolver.account? snapshot text = some address :=
  (Planning.outcome_eq_ok_iff_of_asksOnly (asksOnly_validate resolver text)).trans
    yields_validate_iff

theorem outcome_validateOr_eq_ok_iff {text : Option String} {default address : Address} :
    Planning.outcome snapshot (resolver.validateOr text default) = .ok address ↔
      resolver.accountOr? snapshot text default = some address :=
  (Planning.outcome_eq_ok_iff_of_asksOnly (asksOnly_validateOr resolver text default)).trans
    yields_validateOr_iff

end Resolver

end LendingPool
