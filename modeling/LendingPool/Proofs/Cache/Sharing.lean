import LendingPool.Proofs.Cache.Store
import Mathlib.Data.List.Basic
/-! A store that many use at once. An operation reads the clock when it begins and goes by that time
to its end, however late its steps are taken. Every step holds a lock, so steps follow one another,
but in any order. Between the two steps of a look-up somebody may store a new entry; what counts as
expired by an earlier time has expired by now, so an entry that lives is never dropped. -/

namespace LendingPool.Store

/-! ## Operations in steps -/

inductive Request
  | get (key : String)
  | set (key : String) (value : Bytes) (lifetime : Option Nat)
  | delete (key : String)
  | contains (key : String)
deriving DecidableEq

/-- What an operation comes to. To store something with a deadline that cannot be told is to
fail. -/
inductive Reply
  | found (bytes : Option Bytes)
  | holds (live : Bool)
  | done
  | failed
deriving DecidableEq

/-- An operation between its steps, with the time at which it began. Only a look-up that has found
an expired entry has a second step. -/
inductive Task
  | begun (request : Request) (clock : Nat)
  | evicting (key : String) (clock : Nat)
  | answered (reply : Reply)
deriving DecidableEq

namespace Task

def step (store : Store) : Task → Task × Store
  | begun (.get key) clock =>
      match store.find clock key with
      | .value bytes => (answered (.found (some bytes)), store)
      | .expired => (evicting key clock, store)
      | .absent => (answered (.found none), store)
  | begun (.set key value lifetime) clock =>
      match store.set clock key value lifetime with
      | some store => (answered .done, store)
      | none => (answered .failed, store)
  | begun (.delete key) _ => (answered .done, store.delete key)
  | begun (.contains key) clock => (answered (.holds (store.contains clock key)), store)
  | evicting key clock => (answered (.found none), store.evict clock key)
  | answered reply => (answered reply, store)

def writes (key : String) : Task → Bool
  | begun (.set name _ lifetime) clock => name == key && (deadline? clock lifetime).isSome
  | begun (.delete name) _ => name == key
  | _ => false

def Timely (now : Nat) : Task → Prop
  | begun _ clock | evicting _ clock => clock ≤ now
  | answered _ => True

variable {store : Store} {now clock : Nat} {key : String} {entry : Entry} {task : Task}
  {value : Bytes} {lifetime deadline : Option Nat} {found : Option Bytes}

theorem step_set_of_some (told : deadline? clock lifetime = some deadline) :
    (begun (.set key value lifetime) clock).step store =
      (answered .done, store.replace key ⟨value, deadline⟩) := by
  rw [step, Store.set, told]
  rfl

theorem step_set_of_none (untold : deadline? clock lifetime = none) :
    (begun (.set key value lifetime) clock).step store = (answered .failed, store) := by
  rw [step, Store.set, untold]
  rfl

theorem Timely.step (timely : task.Timely now) (store : Store) :
    (task.step store).1.Timely now := by
  cases task with
  | begun request clock =>
      cases request with
      | get key =>
          rw [Task.step]
          cases store.find clock key with
          | value bytes | absent => trivial
          | expired => exact timely
      | set key value lifetime =>
          cases told : deadline? clock lifetime with
          | none => rw [step_set_of_none told]; trivial
          | some deadline => rw [step_set_of_some told]; trivial
      | delete key | contains key => trivial
  | evicting key clock | answered reply => trivial

theorem Timely.mono {later : Nat} (timely : task.Timely now) (goesBy : now ≤ later) :
    task.Timely later := by
  cases task with
  | begun request clock | evicting key clock => exact Nat.le_trans timely goesBy
  | answered reply => trivial

/-- Whoever does not write to a key leaves its entry in place while it lives. An eviction by an
earlier clock is no exception. -/
theorem stored?_step_of_spares (timely : task.Timely now) (spares : task.writes key = false)
    (stored : store.stored? key = some entry) (lives : entry.isLive now = true) :
    (task.step store).2.stored? key = some entry := by
  cases task with
  | begun request clock =>
      cases request with
      | get name =>
          rw [step]
          cases store.find clock name <;> exact stored
      | set name value lifetime =>
          cases told : deadline? clock lifetime with
          | none => rw [step_set_of_none told, stored]
          | some deadline =>
              have other : key ≠ name := fun same => by simp [writes, same, told] at spares
              rw [step_set_of_some told, stored?_replace, if_neg other, stored]
      | delete name =>
          have other : key ≠ name := fun same => by simp [writes, same] at spares
          rw [step, stored?_delete, if_neg other, stored]
      | contains name => exact stored
  | evicting name clock =>
      -- what the eviction drops had expired by its clock, and this lived then because it lives now
      have livedThen : entry.isLive clock = true := isLive_of_le timely lives
      rcases stored?_evict store clock name key with kept | ⟨-, dropped, found, expired⟩
      · rw [step, kept, stored]
      · rw [stored] at found
        cases found
        rw [livedThen] at expired
        cases expired
  | answered reply => exact stored

/-- Whether the operation is a look-up that answers this, or will after an eviction. -/
def Settled (found : Option Bytes) : Task → Prop
  | begun _ _ => False
  | evicting _ _ => found = none
  | answered reply => reply = .found found

/-- The first step settles the answer, and it is the one without interruption. -/
theorem settled_step_get (store : Store) (clock : Nat) (key : String) :
    ((begun (.get key) clock).step store).1.Settled (store.get clock key).1 := by
  rw [step, Store.get]
  cases store.find clock key <;> rfl

theorem Settled.step (settled : task.Settled found) (store : Store) :
    (task.step store).1 = answered (.found found) := by
  cases task with
  | begun request clock => cases settled
  | evicting key clock =>
      rw [settled]
      rfl
  | answered reply =>
      rw [settled]
      rfl

theorem step_get_of_stored (stored : store.stored? key = some entry)
    (lives : entry.isLive clock = true) :
    ((begun (.get key) clock).step store).1 = answered (.found (some entry.value)) := by
  simp [step, find, stored, lives]

end Task

/-! ## All that goes on -/

inductive Move
  | start (request : Request)
  | resume (place : Nat)
  | advance (milliseconds : Nat)
deriving DecidableEq

/-- A store, the time, and the operations in the order in which they began. -/
structure Shared where
  store : Store
  now : Nat
  tasks : List Task

namespace Shared

def idle (store : Store) (now : Nat) : Shared :=
  ⟨store, now, []⟩

def move (shared : Shared) : Move → Shared
  | .start request => { shared with tasks := shared.tasks ++ [.begun request shared.now] }
  | .resume place =>
      match shared.tasks[place]? with
      | some task =>
          let (later, store) := task.step shared.store
          { shared with store, tasks := shared.tasks.set place later }
      | none => shared
  | .advance milliseconds => { shared with now := shared.now + milliseconds }

def after (shared : Shared) (moves : List Move) : Shared :=
  moves.foldl move shared

def writes (shared : Shared) (key : String) : Move → Bool
  | .resume place => shared.tasks[place]?.any (Task.writes key)
  | _ => false

def Spares (key : String) : Shared → List Move → Prop
  | _, [] => True
  | shared, move :: later => shared.writes key move = false ∧ (shared.move move).Spares key later

def Timely (shared : Shared) : Prop :=
  ∀ task ∈ shared.tasks, task.Timely shared.now

variable {shared : Shared} {place clock : Nat} {task : Task} {key : String} {entry : Entry}
  {moves : List Move}

theorem after_append (shared : Shared) (moves later : List Move) :
    shared.after (moves ++ later) = (shared.after moves).after later :=
  List.foldl_append

theorem move_resume (waits : shared.tasks[place]? = some task) :
    shared.move (.resume place) =
      ⟨(task.step shared.store).2, shared.now,
        shared.tasks.set place (task.step shared.store).1⟩ := by
  rw [move, waits]

theorem move_resume_of_none (absent : shared.tasks[place]? = none) :
    shared.move (.resume place) = shared := by
  rw [move, absent]

theorem getElem?_move_resume (waits : shared.tasks[place]? = some task) :
    (shared.move (.resume place)).tasks[place]? = some (task.step shared.store).1 := by
  rcases List.getElem?_eq_some_iff.mp waits with ⟨inside, -⟩
  rw [move_resume waits, List.getElem?_set_self inside]

theorem getElem?_move (waits : shared.tasks[place]? = some task) (next : Move) :
    (shared.move next).tasks[place]? = some task ∨
      (shared.move next).tasks[place]? = some (task.step shared.store).1 := by
  cases next with
  | start request =>
      rcases List.getElem?_eq_some_iff.mp waits with ⟨inside, -⟩
      left
      rw [move, List.getElem?_append_left inside, waits]
  | advance milliseconds => exact .inl waits
  | resume other =>
      by_cases same : other = place
      · rw [same]
        exact .inr (getElem?_move_resume waits)
      · left
        cases found : shared.tasks[other]? with
        | none => rw [move_resume_of_none found, waits]
        | some running => rw [move_resume found, List.getElem?_set_ne same, waits]

/-! ### Time -/

theorem now_le_move (shared : Shared) (next : Move) : shared.now ≤ (shared.move next).now := by
  cases next with
  | start request => exact Nat.le_refl _
  | advance milliseconds => exact Nat.le_add_right ..
  | resume place =>
      have still : (shared.move (.resume place)).now = shared.now := by
        cases waits : shared.tasks[place]? with
        | none => rw [move_resume_of_none waits]
        | some task => rw [move_resume waits]
      exact Nat.le_of_eq still.symm

theorem now_le_after (shared : Shared) (moves : List Move) :
    shared.now ≤ (shared.after moves).now := by
  induction moves generalizing shared with
  | nil => exact Nat.le_refl _
  | cons next later induction =>
      exact Nat.le_trans (shared.now_le_move next) (induction (shared.move next))

theorem timely_idle (store : Store) (now : Nat) : (idle store now).Timely := by
  simp [Timely, idle]

theorem Timely.move (timely : shared.Timely) (next : Move) : (shared.move next).Timely := by
  intro task member
  cases next with
  | start request =>
      rcases List.mem_append.mp member with before | last
      · exact timely task before
      · rw [List.mem_singleton.mp last]
        exact Nat.le_refl shared.now
  | advance milliseconds => exact (timely task member).mono (Nat.le_add_right ..)
  | resume place =>
      cases waits : shared.tasks[place]? with
      | none =>
          rw [move_resume_of_none waits] at member ⊢
          exact timely task member
      | some waiting =>
          rw [move_resume waits] at member ⊢
          rcases List.mem_or_eq_of_mem_set member with before | rfl
          · exact timely task before
          · exact (timely waiting (List.mem_of_getElem? waits)).step shared.store

theorem Timely.after (timely : shared.Timely) (moves : List Move) :
    (shared.after moves).Timely := by
  induction moves generalizing shared with
  | nil => exact timely
  | cons next later induction => exact induction (timely.move next)

/-! ### Entries -/

theorem stored?_move_of_spares (timely : shared.Timely) {next : Move}
    (spares : shared.writes key next = false) (stored : shared.store.stored? key = some entry)
    (lives : entry.isLive shared.now = true) :
    (shared.move next).store.stored? key = some entry := by
  cases next with
  | start request | advance milliseconds => exact stored
  | resume place =>
      cases waits : shared.tasks[place]? with
      | none => rw [move_resume_of_none waits, stored]
      | some task =>
          rw [writes, waits, Option.any_some] at spares
          rw [move_resume waits]
          exact Task.stored?_step_of_spares (timely task (List.mem_of_getElem? waits)) spares
            stored lives

theorem stored?_after_of_spares (timely : shared.Timely) (spares : shared.Spares key moves)
    (stored : shared.store.stored? key = some entry)
    (lives : entry.isLive (shared.after moves).now = true) :
    (shared.after moves).store.stored? key = some entry := by
  induction moves generalizing shared with
  | nil => exact stored
  | cons next later induction =>
      have livesNow : entry.isLive shared.now = true :=
        isLive_of_le (shared.now_le_after (next :: later)) lives
      exact induction (timely.move next) spares.2
        (stored?_move_of_spares timely spares.1 stored livesNow) lives

/-! ### Answers -/

/-- Once the first step of a look-up is taken, nothing that happens changes its answer. -/
theorem settled_after {found : Option Bytes}
    (settled : ∃ task, shared.tasks[place]? = some task ∧ task.Settled found) (moves : List Move) :
    ∃ task, (shared.after moves).tasks[place]? = some task ∧ task.Settled found := by
  induction moves generalizing shared with
  | nil => exact settled
  | cons next later induction =>
      apply induction
      rcases settled with ⟨task, waits, settled⟩
      rcases getElem?_move waits next with same | stepped
      · exact ⟨task, same, settled⟩
      · exact ⟨_, stepped, by rw [settled.step]; rfl⟩

theorem settled_after_get (waits : shared.tasks[place]? = some (.begun (.get key) clock))
    (later : List Move) :
    ∃ task, (shared.after (.resume place :: later)).tasks[place]? = some task ∧
      task.Settled (shared.store.get clock key).1 :=
  settled_after ⟨_, getElem?_move_resume waits, Task.settled_step_get ..⟩ later

theorem deadline_of_done {value : Bytes} {lifetime : Option Nat}
    (sets : shared.tasks[place]? = some (.begun (.set key value lifetime) clock))
    (completes : (shared.move (.resume place)).tasks[place]? = some (.answered .done)) :
    ∃ deadline, deadline? clock lifetime = some deadline := by
  rw [getElem?_move_resume sets] at completes
  cases told : deadline? clock lifetime with
  | none =>
      rw [Task.step_set_of_none told] at completes
      cases completes
  | some deadline => exact ⟨deadline, rfl⟩

/-- In whatever order the steps of operations follow one another, an eviction drops what had expired
by its clock and nothing that lives. So what is stored while a look-up is under way is there for
the next one, as long as nobody writes to its key and it does not expire. The answer of a look-up
is the one that it would have had without interruption, at the time of its first step. -/
theorem evictions_spare_live (store : Store) (now : Nat) (moves : List Move) :
    let shared := (idle store now).after moves
    (∀ place key clock, shared.tasks[place]? = some (.evicting key clock) →
      (∀ name entry, shared.store.stored? name = some entry → entry.isLive shared.now = true →
        (shared.move (.resume place)).store.stored? name = some entry) ∧
      (∀ entry, shared.store.stored? key = some entry → entry.isLive clock = false →
        (shared.move (.resume place)).store.stored? key = none)) ∧
    (∀ place key value lifetime clock between asking since,
      shared.tasks[place]? = some (.begun (.set key value lifetime) clock) →
      (shared.move (.resume place)).tasks[place]? = some (.answered .done) →
      let later := (shared.move (.resume place)).after between
      (shared.move (.resume place)).Spares key between →
      (∀ span, lifetime = some span → later.now < clock + span) →
      later.tasks[asking]? = some (.begun (.get key) since) →
      (later.move (.resume asking)).tasks[asking]? = some (.answered (.found (some value)))) ∧
    (∀ place key clock later, shared.tasks[place]? = some (.begun (.get key) clock) →
      let answer := Task.answered (.found (shared.store.get clock key).1)
      (∀ reply, (shared.after (.resume place :: later)).tasks[place]? = some (.answered reply) →
        .answered reply = answer) ∧
      (shared.after (.resume place :: later ++ [.resume place])).tasks[place]? = some answer) := by
  intro shared
  have timely : shared.Timely := (timely_idle store now).after moves
  refine ⟨?_, ?_, ?_⟩
  · intro place key clock evicts
    refine ⟨fun name entry stored lives => ?_, fun entry stored expired => ?_⟩
    · have spares : shared.writes name (.resume place) = false := by
        rw [writes, evicts]
        rfl
      exact stored?_move_of_spares timely spares stored lives
    · rw [move_resume evicts]
      exact stored?_evict_of_expired stored expired
  · intro place key value lifetime clock between asking since sets completes later spares unexpired
      asks
    rcases deadline_of_done sets completes with ⟨deadline, told⟩
    have stored : (shared.move (.resume place)).store.stored? key = some ⟨value, deadline⟩ := by
      rw [move_resume sets, Task.step_set_of_some told, stored?_replace, if_pos rfl]
    have lives : Entry.isLive later.now ⟨value, deadline⟩ = true := by
      rw [deadline?_eq_map told]
      cases lifetime with
      | none => rfl
      | some span => exact decide_eq_true (unexpired span rfl)
    have laterTimely : later.Timely := (timely.move _).after between
    have remains := stored?_after_of_spares (timely.move _) spares stored lives
    have asked : since ≤ later.now := laterTimely _ (List.mem_of_getElem? asks)
    rw [getElem?_move_resume asks,
      Task.step_get_of_stored remains (isLive_of_le asked lives)]
  · intro place key clock later asks answer
    rcases settled_after_get asks later with ⟨task, waits, settled⟩
    refine ⟨fun reply answered => ?_, ?_⟩
    · rw [waits] at answered
      cases answered
      exact congrArg Task.answered settled
    · rw [after_append]
      exact (getElem?_move_resume waits).trans (congrArg some (settled.step _))

/-! ### A look-up that is overtaken -/

namespace Sample

def expired : Store :=
  [("a", ⟨[1], some 10⟩)]

/-- Somebody finds that the entry has expired. Before it is dropped, a new one is about to be
stored. -/
def overtaking : List Move :=
  [.start (.get "a"), .resume 0, .start (.set "a" [2] (some 5))]

/-- The old entry would be dropped now, and somebody else asks just before the new one expires. -/
def asking : List Move :=
  [.resume 0, .advance 4, .start (.get "a")]

end Sample

theorem evictions_spare_live_overtaken :
    let shared := (idle Sample.expired 20).after Sample.overtaking
    let stored := shared.move (.resume 1)
    ((stored.move (.resume 0)).store.stored? "a" = some ⟨[2], some 25⟩ ∧
      (shared.move (.resume 0)).store.stored? "a" = none) ∧
    ((stored.after Sample.asking).move (.resume 2)).tasks[2]? =
      some (.answered (.found (some [2]))) ∧
    (stored.move (.resume 0)).tasks[0]? = some (.answered (.found none)) := by
  have now := evictions_spare_live Sample.expired 20 Sample.overtaking
  have storing := evictions_spare_live Sample.expired 20 (Sample.overtaking ++ [.resume 1])
  have begun := evictions_spare_live Sample.expired 20 [.start (.get "a")]
  refine ⟨⟨?_, ?_⟩, ?_, ?_⟩
  · exact (storing.1 0 "a" 20 rfl).1 "a" ⟨[2], some 25⟩ (by decide) (by decide)
  · exact (now.1 0 "a" 20 rfl).2 ⟨[1], some 10⟩ (by decide) (by decide)
  · refine now.2.1 1 "a" [2] (some 5) 20 Sample.asking 2 24 rfl (by decide +kernel) ?_ ?_ rfl
    · exact ⟨rfl, rfl, rfl, trivial⟩
    · intro span same
      cases same
      decide
  · exact (begun.2.2 0 "a" 20 [.start (.set "a" [2] (some 5)), .resume 1] rfl).2

end Shared

end LendingPool.Store
