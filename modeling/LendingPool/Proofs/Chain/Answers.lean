import LendingPool.Cache.Metadata
import LendingPool.Chain.Snapshot
import LendingPool.Proofs.Chain.Planning
/-! Computations on a snapshot. Without a cache there is one course, the one on which the snapshot
answers. With a cache the replies about metadata may be older ones, and only those. -/

namespace LendingPool

/-! ## Without a cache -/

def Snapshot.Answers (snapshot : Snapshot) : PossibleReplies :=
  fun query reply => reply = snapshot.reply query

namespace Reading

variable {α : Type} {snapshot : Snapshot}

theorem run_record (snapshot : Snapshot) (reading : Reading α) (log : List ChainQuery) :
    ∃ value asked, Dialogue.run snapshot.record reading log = (value, log ++ asked) ∧
      Dialogue.Course snapshot.Answers reading asked value := by
  induction reading generalizing log with
  | done value => exact ⟨value, [], by simp [Dialogue.run]; rfl, .done value⟩
  | ask query next induction =>
      rcases induction (snapshot.reply query) (log ++ [query]) with ⟨value, asked, run, course⟩
      refine ⟨value, query :: asked, ?_, .ask rfl course⟩
      rw [List.append_cons]
      exact run

theorem on_eq_iff {reading : Reading α} {value : α} {asked : List ChainQuery} :
    reading.on snapshot = (value, asked) ↔
      Dialogue.Course snapshot.Answers reading asked value := by
  rcases run_record snapshot reading [] with ⟨result, queries, run, course⟩
  rw [Reading.on, run, List.nil_append]
  constructor
  · intro equal
    cases equal
    exact course
  · intro other
    have same := course.unique (fun _ _ _ left right => left.trans right.symm) other
    rw [same.1, same.2]

end Reading

namespace Planning

variable {α : Type} {snapshot : Snapshot}

theorem course_answers_iff {planning : Planning α} {asked : List ChainQuery} {value : α} :
    Course snapshot.Answers planning asked value ↔
      Reading.on snapshot planning.run = (.ok value, asked) :=
  Reading.on_eq_iff.symm

theorem yields_answers_iff {planning : Planning α} {value : α} :
    Yields snapshot.Answers planning value ↔
      (Reading.on snapshot planning.run).1 = .ok value := by
  constructor
  · rintro ⟨asked, course⟩
    rw [course_answers_iff.mp course]
  · intro equal
    exact ⟨(Reading.on snapshot planning.run).2, course_answers_iff.mpr (Prod.ext equal rfl)⟩

theorem Yields.unique {planning : Planning α} {left right : α}
    (yields : Yields snapshot.Answers planning left)
    (other : Yields snapshot.Answers planning right) : left = right :=
  Except.ok.inj ((yields_answers_iff.mp yields).symm.trans (yields_answers_iff.mp other))

theorem exists_run_of_map {β γ : Type} {run : Except Fault α × β} {tell : α → γ} {told : γ}
    (tells : run.1.toOption.map tell = some told) :
    ∃ value rest, run = (.ok value, rest) ∧ tell value = told := by
  rcases run with ⟨outcome, rest⟩
  cases outcome with
  | error fault => cases tells
  | ok value => exact ⟨value, rest, rfl, Option.some.inj tells⟩

end Planning

/-! ## With a cache -/

namespace ChainQuery

/-- Whether a cache may answer in the chain's place. -/
def isMetadata : ChainQuery → Bool
  | decimals _ | name _ => true
  | _ => false

def isAllowance : ChainQuery → Bool
  | allowance .. | borrowAllowance .. => true
  | _ => false

end ChainQuery

/-- The replies of a snapshot, with any reply where a cache may answer. -/
def Snapshot.MayAnswer (snapshot : Snapshot) : PossibleReplies :=
  fun query reply => query.isMetadata = false → reply = snapshot.reply query

/-! ### Remembering

A cache reads metadata only when it remembers none, so what it reads of metadata depends on the
past. It reads everything else at once. -/

abbrev Remembering := StateT Cache (StateM (List ChainQuery))

namespace Remembering

variable {α β : Type} {snapshot : Snapshot}

def withoutMetadata (reads : List ChainQuery) : List ChainQuery :=
  reads.filter fun query => !query.isMetadata

def ReadsMetadataOnly (computation : Remembering α) : Prop :=
  ∀ cache log, withoutMetadata (computation cache log).2 = withoutMetadata log

theorem readsMetadataOnly_pure (value : α) : ReadsMetadataOnly (pure value) :=
  fun _ _ => rfl

theorem readsMetadataOnly_get : ReadsMetadataOnly get :=
  fun _ _ => rfl

theorem readsMetadataOnly_set (cache : Cache) : ReadsMetadataOnly (set cache) :=
  fun _ _ => rfl

theorem readsMetadataOnly_bind {computation : Remembering α} {next : α → Remembering β}
    (first : ReadsMetadataOnly computation) (second : ∀ value, ReadsMetadataOnly (next value)) :
    ReadsMetadataOnly (computation >>= next) :=
  fun cache log => (second _ _ _).trans (first cache log)

theorem withoutMetadata_append (log : List ChainQuery) {query : ChainQuery}
    (metadata : query.isMetadata = true) :
    withoutMetadata (log ++ [query]) = withoutMetadata log := by
  simp [withoutMetadata, metadata]

theorem readsMetadataOnly_record (query : ChainQuery) (metadata : query.isMetadata = true) :
    ReadsMetadataOnly (liftM (snapshot.record query)) :=
  fun _ log => withoutMetadata_append log metadata

theorem readsMetadataOnly_recall (kind : Remembered α) (lifetime : Nat) (token : Address)
    {ask : StateM (List ChainQuery) (Except ServiceFault α)}
    (asks : ReadsMetadataOnly (liftM ask)) :
    ReadsMetadataOnly (kind.recall lifetime token ask) := by
  rw [Remembered.recall]
  apply readsMetadataOnly_bind readsMetadataOnly_get
  intro cache
  split
  apply readsMetadataOnly_bind (readsMetadataOnly_set _)
  intro _
  split
  · exact readsMetadataOnly_pure _
  · apply readsMetadataOnly_bind asks
    intro reply
    split
    · exact readsMetadataOnly_pure _
    · apply readsMetadataOnly_bind readsMetadataOnly_get
      intro cache
      split
      apply readsMetadataOnly_bind (readsMetadataOnly_set _)
      intro _
      split <;> exact readsMetadataOnly_pure _

def reply (lifetime : Option Nat) (snapshot : Snapshot) (query : ChainQuery) :
    Remembering query.Reply :=
  match lifetime with
  | some lifetime => rememberMetadata lifetime snapshot.record query
  | none => snapshot.record query

theorem reply_mayAnswer (lifetime : Option Nat) (snapshot : Snapshot) (query : ChainQuery)
    (cache : Cache) (log : List ChainQuery) :
    snapshot.MayAnswer query (reply lifetime snapshot query cache log).1.1 := by
  cases lifetime with
  | none => exact fun _ => rfl
  | some lifetime =>
      cases query with
      | decimals token => exact nofun
      | name token => exact nofun
      | _ => exact fun _ => rfl

theorem withoutMetadata_reply (lifetime : Option Nat) (snapshot : Snapshot) (query : ChainQuery)
    (cache : Cache) (log : List ChainQuery) :
    withoutMetadata (reply lifetime snapshot query cache log).2 =
      withoutMetadata (log ++ [query]) := by
  cases lifetime with
  | none => rfl
  | some lifetime =>
      cases query with
      | decimals token =>
          rw [withoutMetadata_append log rfl]
          exact readsMetadataOnly_recall rememberedDecimals lifetime token
            (readsMetadataOnly_record (.decimals token) rfl) cache log
      | name token =>
          rw [withoutMetadata_append log rfl]
          exact readsMetadataOnly_recall rememberedName lifetime token
            (readsMetadataOnly_record (.name token) rfl) cache log
      | _ => rfl

theorem run_ask {lifetime : Option Nat} {snapshot : Snapshot} {query : ChainQuery}
    {cache later : Cache} {log reads : List ChainQuery} {answer : query.Reply}
    (replied : reply lifetime snapshot query cache log = ((answer, later), reads))
    (next : query.Reply → Reading α) :
    Dialogue.run (reply lifetime snapshot) (.ask query next) cache log =
      Dialogue.run (reply lifetime snapshot) (next answer) later reads := by
  change (match reply lifetime snapshot query cache log with
    | ((answer, later), log) =>
        Dialogue.run (reply lifetime snapshot) (next answer) later log) = _
  rw [replied]

theorem run_reply (lifetime : Option Nat) (snapshot : Snapshot) (reading : Reading α)
    (cache : Cache) (log : List ChainQuery) :
    ∃ asked,
      Dialogue.Course snapshot.MayAnswer reading asked
        (Dialogue.run (reply lifetime snapshot) reading cache log).1.1 ∧
      withoutMetadata (Dialogue.run (reply lifetime snapshot) reading cache log).2 =
        withoutMetadata (log ++ asked) := by
  induction reading generalizing cache log with
  | done value => exact ⟨[], .done value, by rw [List.append_nil]; rfl⟩
  | ask query next induction =>
      have possible := reply_mayAnswer lifetime snapshot query cache log
      have noted := withoutMetadata_reply lifetime snapshot query cache log
      rcases replied : reply lifetime snapshot query cache log with ⟨⟨answer, later⟩, reads⟩
      rw [replied] at possible noted
      rcases induction answer later reads with ⟨asked, course, rest⟩
      have continued := run_ask replied next
      refine ⟨query :: asked, ?_, ?_⟩
      · rw [continued]
        exact .ask possible course
      · rw [continued, rest, List.append_cons]
        simp only [withoutMetadata, List.filter_append] at noted ⊢
        rw [noted]

end Remembering

/-! ### Plans -/

namespace Planning

variable {α : Type} {snapshot : Snapshot}

theorem Course.mayAnswer {planning : Planning α} {asked : List ChainQuery} {value : α}
    (course : Course snapshot.Answers planning asked value) :
    Course snapshot.MayAnswer planning asked value :=
  Dialogue.Course.mono course fun _ _ _ answer _ => answer

theorem Yields.mayAnswer {planning : Planning α} {value : α}
    (yields : Yields snapshot.Answers planning value) : Yields snapshot.MayAnswer planning value :=
  yields.mono fun _ _ answer _ => answer

/-- A plan for which no metadata is read does not notice a cache. -/
theorem Course.answers {planning : Planning α} {asked : List ChainQuery} {value : α}
    (course : Course snapshot.MayAnswer planning asked value)
    (noMetadata : AsksOnly (fun query => query.isMetadata = false) planning) :
    Course snapshot.Answers planning asked value :=
  Dialogue.Course.mono course fun query member _ answer =>
    answer (course.expected noMetadata query member)

theorem Course.congr {other : Snapshot} {Expected : ChainQuery → Prop} {planning : Planning α}
    {asked : List ChainQuery} {value : α} (course : Course snapshot.Answers planning asked value)
    (asksOnly : AsksOnly Expected planning)
    (agree : ∀ query, Expected query → other.reply query = snapshot.reply query) :
    Course other.Answers planning asked value :=
  Dialogue.Course.mono course fun query member _ answer =>
    answer.trans (agree query (course.expected asksOnly query member)).symm

end Planning

/-- Carries out a computation on a snapshot, with a cache in front of it if metadata is remembered
for a while. Gives the value, the cache afterwards, and the queries that reached the chain. -/
def Reading.onCached {α : Type} (lifetime : Option Nat) (snapshot : Snapshot) (cache : Cache)
    (reading : Reading α) : α × Cache × List ChainQuery :=
  let ((value, cache), reads) := Dialogue.run (Remembering.reply lifetime snapshot) reading cache []
  (value, cache, reads)

namespace Reading

theorem filter_isAllowance_withoutMetadata (reads : List ChainQuery) :
    (Remembering.withoutMetadata reads).filter ChainQuery.isAllowance =
      reads.filter ChainQuery.isAllowance := by
  rw [Remembering.withoutMetadata, List.filter_filter]
  apply List.filter_congr
  intro query _
  cases query <;> rfl

/-- Behind a cache a computation takes a course that the snapshot allows, and the allowances on
that course are read from the chain. -/
theorem course_of_onCached {α : Type} {lifetime : Option Nat} {snapshot : Snapshot}
    {cache later : Cache} {reading : Reading α} {value : α} {reads : List ChainQuery}
    (run : reading.onCached lifetime snapshot cache = (value, later, reads)) :
    ∃ asked, Dialogue.Course snapshot.MayAnswer reading asked value ∧
      reads.filter ChainQuery.isAllowance = asked.filter ChainQuery.isAllowance := by
  rcases Remembering.run_reply lifetime snapshot reading cache [] with ⟨asked, course, same⟩
  rw [onCached] at run
  cases run
  refine ⟨asked, course, ?_⟩
  have same := congrArg (List.filter ChainQuery.isAllowance) same
  rw [filter_isAllowance_withoutMetadata, filter_isAllowance_withoutMetadata] at same
  exact same

end Reading

end LendingPool
