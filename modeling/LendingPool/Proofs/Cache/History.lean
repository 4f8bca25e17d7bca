import LendingPool.Proofs.Cache.Store
import Mathlib.Data.List.Basic
import Mathlib.Data.List.Induction
/-! A store in use. Byte strings are stored and deleted, somebody looks, and time goes by. What is
found under a key is what was written there last, until it expires. Nothing is written if the
deadline cannot be told. To look is to change nothing that anybody could tell, although an entry
that has expired is dropped by it. -/

namespace LendingPool

universe u v

theorem concat_eq_append_cons_iff {α : Type u} {history before later : List α} {last event : α} :
    history ++ [last] = before ++ event :: later ↔
      (later = [] ∧ history = before ∧ last = event) ∨
        ∃ between, later = between ++ [last] ∧ history = before ++ event :: between := by
  constructor
  · intro same
    rcases List.eq_nil_or_concat' later with rfl | ⟨between, other, rfl⟩
    · rcases List.append_inj' same rfl with ⟨histories, events⟩
      exact .inl ⟨rfl, histories, List.singleton_inj.mp events⟩
    · rw [← List.cons_append, ← List.append_assoc] at same
      rcases List.append_inj' same rfl with ⟨histories, events⟩
      exact .inr ⟨between, by rw [List.singleton_inj.mp events], histories⟩
  · rintro (⟨rfl, rfl, rfl⟩ | ⟨between, rfl, rfl⟩)
    · rfl
    · rw [List.append_assoc, List.cons_append]

/-- Two runs stay alike of which one leaves out what makes no difference. -/
theorem alike_foldl_filter {σ : Type u} {ε : Type v} {alike : σ → σ → Prop} {step : σ → ε → σ}
    {kept : ε → Bool} (both : ∀ {state other} event, alike state other →
      alike (step state event) (step other event))
    {history : List ε} (skip : ∀ event ∈ history, kept event = false →
      ∀ {state other}, alike state other → alike state (step other event))
    {state other : σ} (begun : alike state other) :
    alike ((history.filter kept).foldl step state) (history.foldl step other) := by
  induction history generalizing state other with
  | nil => exact begun
  | cons event history induction =>
      rcases List.forall_mem_cons.mp skip with ⟨first, rest⟩
      cases keeps : kept event with
      | true =>
          rw [List.filter_cons_of_pos keeps]
          exact induction rest (both event begun)
      | false =>
          rw [List.filter_cons_of_neg (by simp [keeps])]
          exact induction rest (first keeps begun)

namespace Store

inductive Event
  | set (key : String) (value : Bytes) (lifetime : Option Nat)
  | get (key : String)
  | delete (key : String)
  | contains (key : String)
  | advance (milliseconds : Nat)
deriving DecidableEq

namespace Event

/-- Where there is no live entry, nothing is found. Whoever stores something learns whether that
was done. -/
abbrev Answer : Event → Type
  | get _ => Option Bytes
  | set .. | contains _ => Bool
  | _ => Unit

def looks : Event → Bool
  | get _ | contains _ => true
  | _ => false

def writes (key : String) (now : Nat) : Event → Bool
  | set name _ lifetime => name == key && (deadline? now lifetime).isSome
  | delete name => name == key
  | _ => false

def duration : Event → Nat
  | advance milliseconds => milliseconds
  | _ => 0

end Event

structure Moment where
  store : Store
  now : Nat

namespace Moment

def start (begun : Nat) : Moment :=
  ⟨[], begun⟩

def step (moment : Moment) : (event : Event) → event.Answer × Moment
  | .set key value lifetime =>
      match moment.store.set moment.now key value lifetime with
      | some store => (true, { moment with store })
      | none => (false, moment)
  | .get key =>
      let (found, store) := moment.store.get moment.now key
      (found, { moment with store })
  | .delete key => ((), { moment with store := moment.store.delete key })
  | .contains key => (moment.store.contains moment.now key, moment)
  | .advance milliseconds => ((), { moment with now := moment.now + milliseconds })

def answer (moment : Moment) (event : Event) : event.Answer :=
  (moment.step event).1

def after (moment : Moment) (history : List Event) : Moment :=
  history.foldl (fun moment event => (moment.step event).2) moment

def live? (moment : Moment) (key : String) : Option Entry :=
  moment.store.live? moment.now key

theorem after_concat (moment : Moment) (history : List Event) (event : Event) :
    moment.after (history ++ [event]) = ((moment.after history).step event).2 := by
  rw [after, List.foldl_append]
  rfl

/-! ## One step

Whatever can be asked of a store is a matter of its live entries. -/

variable {moment other : Moment} {event : Event} {key : String} {entry : Entry}

theorem answer_get (moment : Moment) (key : String) :
    moment.answer (.get key) = (moment.live? key).map Entry.value := by
  simp only [answer, step, get_eq]
  rfl

theorem answer_contains (moment : Moment) (key : String) :
    moment.answer (.contains key) = (moment.live? key).isSome :=
  contains_eq ..

theorem step_set_of_some {value : Bytes} {lifetime deadline : Option Nat}
    (told : deadline? moment.now lifetime = some deadline) :
    moment.step (.set key value lifetime) =
      (true, { moment with store := moment.store.replace key ⟨value, deadline⟩ }) := by
  rw [step, Store.set, told]
  rfl

theorem step_set_of_none {value : Bytes} {lifetime : Option Nat}
    (untold : deadline? moment.now lifetime = none) :
    moment.step (.set key value lifetime) = (false, moment) := by
  rw [step, Store.set, untold]
  rfl

theorem answer_set (moment : Moment) (key : String) (value : Bytes) (lifetime : Option Nat) :
    moment.answer (.set key value lifetime) = (deadline? moment.now lifetime).isSome := by
  rw [answer]
  cases told : deadline? moment.now lifetime with
  | none => rw [step_set_of_none told]; rfl
  | some deadline => rw [step_set_of_some told]; rfl

theorem now_step (moment : Moment) (event : Event) :
    (moment.step event).2.now = moment.now + event.duration := by
  cases event with
  | set key value lifetime =>
      cases told : deadline? moment.now lifetime with
      | none => rw [step_set_of_none told]; rfl
      | some deadline => rw [step_set_of_some told]; rfl
  | _ => rfl

theorem live?_step_of_spares (moment : Moment) (spares : event.writes key moment.now = false) :
    (moment.step event).2.live? key =
      (moment.live? key).filter (Entry.isLive (moment.now + event.duration)) := by
  have lives : moment.live? key = (moment.live? key).filter (Entry.isLive moment.now) :=
    live?_later moment.store key (Nat.le_refl _)
  cases event with
  | set name value lifetime =>
      cases told : deadline? moment.now lifetime with
      | none =>
          rw [step_set_of_none told]
          exact lives
      | some deadline =>
          have other : key ≠ name := fun same => by simp [Event.writes, same, told] at spares
          rw [step_set_of_some told]
          exact ((live?_replace ..).trans (if_neg other)).trans lives
  | delete name =>
      have other : key ≠ name := fun same => by simp [Event.writes, same] at spares
      exact ((live?_delete ..).trans (if_neg other)).trans lives
  | get name =>
      simp only [step, get_eq]
      exact (live?_evict ..).trans lives
  | contains name => exact lives
  | advance milliseconds => exact live?_later moment.store key (Nat.le_add_right ..)

theorem live?_step_eq_some_iff :
    (moment.step event).2.live? key = some entry ↔
      ((∃ lifetime, event = .set key entry.value lifetime ∧
          deadline? moment.now lifetime = some entry.deadline) ∨
        (event.writes key moment.now = false ∧ moment.live? key = some entry)) ∧
      entry.isLive (moment.now + event.duration) = true := by
  cases spares : event.writes key moment.now with
  | false =>
      have passed : ∀ lifetime, event = .set key entry.value lifetime →
          deadline? moment.now lifetime ≠ some entry.deadline := by
        rintro lifetime rfl told
        simp [Event.writes, told] at spares
      have unwritten : ¬ ∃ lifetime, event = .set key entry.value lifetime ∧
          deadline? moment.now lifetime = some entry.deadline :=
        fun ⟨lifetime, same, told⟩ => passed lifetime same told
      simp [live?_step_of_spares moment spares, Option.filter_eq_some_iff, unwritten]
  | true =>
      cases event with
      | set name value lifetime =>
          rw [Event.writes, Bool.and_eq_true, beq_iff_eq, Option.isSome_iff_exists] at spares
          rcases spares with ⟨rfl, deadline, told⟩
          have written : (moment.step (.set name value lifetime)).2.live? name =
              (some ⟨value, deadline⟩ : Option Entry).filter (Entry.isLive moment.now) := by
            rw [step_set_of_some told]
            exact (live?_replace ..).trans (if_pos rfl)
          rcases entry with ⟨bytes, expiry⟩
          rw [written, Option.filter_eq_some_iff]
          constructor
          · rintro ⟨same, lives⟩
            cases same
            exact ⟨.inl ⟨lifetime, rfl, told⟩, lives⟩
          · rintro ⟨⟨other, same, otherTold⟩ | ⟨unwritten, -⟩, lives⟩
            · cases same
              rw [told] at otherTold
              cases otherTold
              exact ⟨rfl, lives⟩
            · cases unwritten
      | delete name =>
          have same : name = key := by simpa [Event.writes] using spares
          have deleted : (moment.step (.delete name)).2.live? key = none :=
            (live?_delete ..).trans (if_pos same.symm)
          simp [deleted]
      | get name | contains name | advance milliseconds => cases spares

/-! ## What is written last -/

def time (begun : Nat) (history : List Event) : Nat :=
  history.foldl (fun time event => time + event.duration) begun

/-- In the course of a history that begins at a certain time, nothing is decided about a key. -/
def Spares (key : String) : (begun : Nat) → List Event → Prop
  | _, [] => True
  | begun, event :: later =>
      event.writes key begun = false ∧ Spares key (begun + event.duration) later

/-- Of what was written under a key, this entry was written last, and it was not deleted. -/
def WrittenLast (begun : Nat) (history : List Event) (key : String) (entry : Entry) : Prop :=
  ∃ before lifetime later, history = before ++ .set key entry.value lifetime :: later ∧
    deadline? (time begun before) lifetime = some entry.deadline ∧
    Spares key (time begun before) later

variable {begun : Nat} {history : List Event}

theorem time_concat (begun : Nat) (history : List Event) (event : Event) :
    time begun (history ++ [event]) = time begun history + event.duration := by
  rw [time, List.foldl_append]
  rfl

theorem now_after (begun : Nat) (history : List Event) :
    ((start begun).after history).now = time begun history := by
  induction history using List.reverseRecOn with
  | nil => rfl
  | append_singleton history event induction =>
      rw [after_concat, now_step, induction, time_concat]

theorem time_append (begun : Nat) (before later : List Event) :
    time begun (before ++ later) = time (time begun before) later :=
  List.foldl_append

theorem spares_concat_iff {later : List Event} :
    Spares key begun (later ++ [event]) ↔
      Spares key begun later ∧ event.writes key (time begun later) = false := by
  induction later generalizing begun with
  | nil => exact ⟨fun spares => ⟨trivial, spares.1⟩, fun spares => ⟨spares.2, trivial⟩⟩
  | cons first later induction =>
      rw [List.cons_append, Spares, Spares, induction, and_assoc]
      rfl

theorem writtenLast_concat_iff :
    WrittenLast begun (history ++ [event]) key entry ↔
      (∃ lifetime, event = .set key entry.value lifetime ∧
        deadline? (time begun history) lifetime = some entry.deadline) ∨
      (event.writes key (time begun history) = false ∧
        WrittenLast begun history key entry) := by
  constructor
  · rintro ⟨before, lifetime, later, same, told, spared⟩
    rcases concat_eq_append_cons_iff.mp same with ⟨rfl, rfl, rfl⟩ | ⟨between, rfl, rfl⟩
    · exact .inl ⟨lifetime, rfl, told⟩
    · rcases spares_concat_iff.mp spared with ⟨spared, spares⟩
      rw [time_append]
      exact .inr ⟨spares, before, lifetime, between, rfl, told, spared⟩
  · rintro (⟨lifetime, rfl, told⟩ | ⟨spares, before, lifetime, later, rfl, told, spared⟩)
    · exact ⟨history, lifetime, [], rfl, told, trivial⟩
    · rw [time_append] at spares
      exact ⟨before, lifetime, later ++ [event], by simp, told,
        spares_concat_iff.mpr ⟨spared, spares⟩⟩

/-- What lives under a key was written there last. -/
theorem live?_after_eq_some_iff (begun : Nat) (history : List Event) (key : String)
    (entry : Entry) :
    ((start begun).after history).live? key = some entry ↔
      WrittenLast begun history key entry ∧ entry.isLive (time begun history) = true := by
  induction history using List.reverseRecOn with
  | nil => simp [WrittenLast, start, after, live?, Store.live?, stored?]
  | append_singleton history event induction =>
      rw [after_concat, live?_step_eq_some_iff, induction, now_after, writtenLast_concat_iff,
        time_concat]
      constructor
      · rintro ⟨writes | ⟨spares, written, -⟩, lives⟩
        · exact ⟨.inl writes, lives⟩
        · exact ⟨.inr ⟨spares, written⟩, lives⟩
      · rintro ⟨writes | ⟨spares, written⟩, lives⟩
        · exact ⟨.inl writes, lives⟩
        · exact ⟨.inr ⟨spares, written, isLive_of_le (Nat.le_add_right ..) lives⟩, lives⟩

/-- The last time that anything was done about a key, these bytes were stored under it, for ever or
for a span that is not over yet. -/
def Remembers (begun : Nat) (history : List Event) (key : String) (value : Bytes) : Prop :=
  ∃ before lifetime later, history = before ++ .set key value lifetime :: later ∧
    (deadline? (time begun before) lifetime).isSome = true ∧
    Spares key (time begun before) later ∧
    ∀ span, lifetime = some span → time begun history < time begun before + span

theorem remembers_iff {value : Bytes} :
    Remembers begun history key value ↔
      ∃ entry, (WrittenLast begun history key entry ∧ entry.isLive (time begun history) = true) ∧
        entry.value = value := by
  constructor
  · rintro ⟨before, lifetime, later, same, told, spared, lives⟩
    rcases Option.isSome_iff_exists.mp told with ⟨deadline, told⟩
    refine ⟨⟨value, deadline⟩, ⟨⟨before, lifetime, later, same, told, spared⟩, ?_⟩, rfl⟩
    rw [deadline?_eq_map told]
    cases lifetime with
    | none => rfl
    | some span => exact decide_eq_true (lives span rfl)
  · rintro ⟨⟨_, deadline⟩, ⟨⟨before, lifetime, later, same, told, spared⟩, lives⟩, rfl⟩
    refine ⟨before, lifetime, later, same, Option.isSome_iff_exists.mpr ⟨_, told⟩, spared, ?_⟩
    rintro span rfl
    rw [show deadline = _ from deadline?_eq_map told] at lives
    exact of_decide_eq_true lives

/-! ## What makes no difference -/

/-- Two stores at the same time, with the same live entry under a key. One of them may hold an
entry that has expired where the other one holds none. -/
structure AlikeAt (key : String) (moment other : Moment) : Prop where
  now : moment.now = other.now
  live : moment.live? key = other.live? key

theorem AlikeAt.refl (key : String) (moment : Moment) : AlikeAt key moment moment :=
  ⟨rfl, rfl⟩

theorem AlikeAt.step (alike : AlikeAt key moment other) (event : Event) :
    AlikeAt key (moment.step event).2 (other.step event).2 where
  now := by rw [now_step, now_step, alike.now]
  live := by
    ext entry
    rw [live?_step_eq_some_iff, live?_step_eq_some_iff, alike.now, alike.live]

theorem AlikeAt.skip (alike : AlikeAt key moment other)
    (spares : event.writes key other.now = false)
    (instant : event.duration = 0) : AlikeAt key moment (other.step event).2 := by
  constructor
  · rw [now_step, instant, alike.now, Nat.add_zero]
  · rw [live?_step_of_spares other spares, instant, alike.live]
    exact live?_later other.store key (Nat.le_refl _)

theorem AlikeAt.after_filter (alike : AlikeAt key moment other) {kept : Event → Bool}
    (idle : ∀ event, kept event = false →
      (∀ now, event.writes key now = false) ∧ event.duration = 0)
    (history : List Event) :
    AlikeAt key (moment.after (history.filter kept)) (other.after history) :=
  alike_foldl_filter (fun event alike => alike.step event)
    (fun event _ dropped _ _ alike => alike.skip ((idle event dropped).1 _) (idle event dropped).2)
    alike

theorem answer_after_filter_looks (moment : Moment) (history : List Event) (event : Event) :
    (moment.after (history.filter (!·.looks))).answer event =
      (moment.after history).answer event := by
  have alike : ∀ key, AlikeAt key (moment.after (history.filter (!·.looks)))
      (moment.after history) := by
    intro key
    refine (AlikeAt.refl key moment).after_filter (fun event looks => ?_) history
    cases event <;> first | exact ⟨fun _ => rfl, rfl⟩ | cases looks
  cases event with
  | get key => rw [answer_get, answer_get, (alike key).live]
  | contains key => rw [answer_contains, answer_contains, (alike key).live]
  | set key value lifetime => rw [answer_set, answer_set, (alike key).now]
  | delete key | advance milliseconds => rfl

/-- A store answers as what was written last says. Histories that differ in nothing but in how
often somebody looked, and at what, lead to the same answers. -/
theorem finds_written_last (begun : Nat) (history : List Event) :
    (∀ key value, ((start begun).after history).answer (.get key) = some value ↔
      Remembers begun history key value) ∧
    (∀ key, ((start begun).after history).answer (.contains key) = true ↔
      ∃ value, ((start begun).after history).answer (.get key) = some value) ∧
    ∀ other : List Event, other.filter (!·.looks) = history.filter (!·.looks) →
      ∀ event, ((start begun).after other).answer event =
        ((start begun).after history).answer event := by
  refine ⟨fun key value => ?_, fun key => ?_, fun other same event => ?_⟩
  · rw [answer_get, Option.map_eq_some_iff, remembers_iff]
    exact exists_congr fun entry => and_congr_left' (live?_after_eq_some_iff ..)
  · rw [answer_contains, answer_get, Option.isSome_iff_exists]
    simp
  · rw [← answer_after_filter_looks _ other, same, answer_after_filter_looks]

/-! ### An entry that is overwritten with a shorter lifetime -/

namespace Sample

/-- The second time that something is to be stored, the clock cannot tell when it would expire. -/
def overwriting : List Event :=
  [.set "a" [1] none, .set "a" [2] (some clockEnd), .get "a", .set "a" [3] (some 10),
    .contains "b", .advance 9]

def expiring : List Event :=
  overwriting ++ [.advance 1, .get "a"]

end Sample

theorem finds_written_last_sample :
    ((start 100).after Sample.overwriting).answer (.get "a") = some [3] ∧
    ((start 100).after (Sample.overwriting.take 3)).answer (.get "a") = some [1] ∧
    ((start 100).after Sample.expiring).answer (.get "a") = none ∧
    ((start 100).after (Sample.expiring.filter (!·.looks))).answer (.get "a") = none := by
  refine ⟨?_, ?_, by decide +kernel, ?_⟩
  · apply ((finds_written_last 100 Sample.overwriting).1 "a" [3]).mpr
    refine ⟨Sample.overwriting.take 3, some 10, [.contains "b", .advance 9], rfl,
      by decide +kernel, ⟨rfl, rfl, trivial⟩, ?_⟩
    intro span same
    cases same
    decide
  · apply ((finds_written_last 100 (Sample.overwriting.take 3)).1 "a" [1]).mpr
    exact ⟨[], none, _, rfl, rfl, ⟨by decide +kernel, rfl, trivial⟩, nofun⟩
  · rw [(finds_written_last 100 Sample.expiring).2.2 _ (by simp [List.filter_filter])]
    decide +kernel

end Moment

end Store

end LendingPool
