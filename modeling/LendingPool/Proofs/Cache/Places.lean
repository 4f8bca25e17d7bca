import LendingPool.Proofs.Cache.History
import LendingPool.Proofs.Cache.Operations
/-! Several users of one cache, each with a namespace. A value is kept under the namespace and the
identifier, joined by a colon. Either of them may have colons of its own, so there are places that
share a key. All others have nothing to do with each other. -/

namespace LendingPool.Cache

structure Place where
  scope : String
  id : String
deriving DecidableEq

inductive Event : Type 1
  | put (place : Place) (value : Json) (lifetime : Option Nat)
  | retrieve {α : Type} (read : Json → Option α) (place : Place)
  | lookup {α : Type} (read : Json → Option α) (place : Place)
  | remove (place : Place)
  | contains (place : Place)
  | advance (milliseconds : Nat)

namespace Event

abbrev Answer : Event → Type
  | @retrieve α _ _ => α
  | @lookup α _ _ => Option α
  | contains _ => Bool
  | _ => Unit

def perform : (event : Event) → Caching event.Answer
  | put place value lifetime => Cache.put place.scope place.id value lifetime
  | retrieve read place => Cache.retrieve read place.scope place.id
  | lookup read place => Cache.lookup read place.scope place.id
  | remove place => Cache.remove place.scope place.id
  | contains place => Cache.contains place.scope place.id
  | advance milliseconds => modifyThe Cache (Cache.advance milliseconds)

def asksAbout (place : Place) : Event → Bool
  | retrieve _ other | lookup _ other | contains other => other == place
  | _ => false

def writesTo (place : Place) : Event → Bool
  | put other _ _ | remove other => other == place
  | _ => false

/-- Whether an event is of concern to those who ask about a place: it writes there, or time goes
by. -/
def concerns (place : Place) : Event → Bool
  | advance _ => true
  | event => event.writesTo place

end Event

def after (cache : Cache) (history : List Event) : Cache :=
  history.foldl (fun cache event => (event.perform cache).2) cache

/-- Nobody who asks about a place can tell what is stored at the other one, or removed from it. -/
def Independent (place other : Place) : Prop :=
  ∀ (cache : Cache) (history : List Event) (event : Event), event.asksAbout place = true →
    (event.perform (cache.after (history.filter (!·.writesTo other)))).1 =
      (event.perform (cache.after history)).1

/-! ## Keys -/

namespace Place

def key (place : Place) : String :=
  Cache.key place.scope place.id

/-- The namespace goes on where the other one ends, with what the identifier begins with there. -/
def Continues (place other : Place) : Prop :=
  ∃ middle, place.scope = other.scope ++ ":" ++ middle ∧ other.id = middle ++ ":" ++ place.id

def Collides (place other : Place) : Prop :=
  place.Continues other ∨ other.Continues place

variable {place other : Place}

theorem toList_key (place : Place) :
    place.key.toList = place.scope.toList ++ ':' :: place.id.toList := by
  change (place.scope ++ ":" ++ place.id).toList = _
  simp

theorem Continues.key_eq (continues : place.Continues other) : place.key = other.key := by
  rcases continues with ⟨middle, scope, id⟩
  apply String.toList_injective
  simp [toList_key, scope, id]

theorem eq_or_continues {middle : List Char}
    (scope : other.scope.toList = place.scope.toList ++ middle)
    (id : ':' :: place.id.toList = middle ++ ':' :: other.id.toList) :
    place = other ∨ other.Continues place := by
  cases middle with
  | nil =>
      rcases place with ⟨scope, id⟩
      rcases other with ⟨otherScope, otherId⟩
      simp_all [String.toList_inj]
  | cons mark middle =>
      rw [List.cons_append, List.cons.injEq] at id
      rcases id with ⟨rfl, id⟩
      refine .inr ⟨String.ofList middle, ?_, ?_⟩
      · apply String.toList_injective
        simp [scope]
      · apply String.toList_injective
        simp [id]

theorem key_eq_iff : place.key = other.key ↔ place = other ∨ place.Collides other := by
  constructor
  · intro same
    have texts := congrArg String.toList same
    rw [toList_key, toList_key] at texts
    -- The colon that joins one of the keys may stand in the namespace of the other one.
    rcases List.append_eq_append_iff.mp texts with ⟨middle, scope, id⟩ | ⟨middle, scope, id⟩
    · exact (eq_or_continues scope id).imp_right .inr
    · exact (eq_or_continues scope id).imp Eq.symm .inl
  · rintro (rfl | continues | continues)
    · rfl
    · exact continues.key_eq
    · exact continues.key_eq.symm

theorem Continues.colon_mem_scope (continues : place.Continues other) :
    ':' ∈ place.scope.toList := by
  rcases continues with ⟨middle, scope, -⟩
  simp [scope]

theorem Continues.colon_mem_id (continues : place.Continues other) : ':' ∈ other.id.toList := by
  rcases continues with ⟨middle, -, id⟩
  simp [id]

/-- Namespaces without colons do not run into each other. -/
theorem not_collides_of_scopes (plain : ':' ∉ place.scope.toList)
    (otherPlain : ':' ∉ other.scope.toList) : ¬ place.Collides other
  | .inl continues => plain continues.colon_mem_scope
  | .inr continues => otherPlain continues.colon_mem_scope

theorem not_collides_of_plain (plain : ':' ∉ place.scope.toList)
    (idPlain : ':' ∉ place.id.toList) : ¬ place.Collides other
  | .inl continues => plain continues.colon_mem_scope
  | .inr continues => idPlain continues.colon_mem_id

end Place

/-! ## Events and the store -/

def moment (cache : Cache) : Store.Moment :=
  ⟨cache.store, cache.now⟩

/-- What becomes of the store. An operation that is out of order does nothing. -/
def Event.effect? (broken : List StoreOperation) : Event → Option Store.Event
  | put place value lifetime =>
      if broken.contains .set then none
      else some (.set place.key (Bytes.ofText value.toText) lifetime)
  | retrieve _ place | lookup _ place =>
      if broken.contains .get then none else some (.get place.key)
  | remove place => if broken.contains .delete then none else some (.delete place.key)
  | contains _ => none
  | advance milliseconds => some (.advance milliseconds)

variable {cache other : Cache} {event : Event}

theorem broken_perform (event : Event) (cache : Cache) :
    (event.perform cache).2.broken = cache.broken := by
  cases event with
  | put place value lifetime =>
      rw [Event.perform, put_run]
      split
      · rfl
      · split <;> rfl
  | retrieve read place => rw [Event.perform, retrieve_run, broken_looked]
  | lookup read place => rw [Event.perform, lookup_run, broken_looked]
  | remove place =>
      rw [Event.perform, remove_run]
      split <;> rfl
  | contains place => rw [Event.perform, contains_run]
  | advance milliseconds => rfl

theorem moment_looked (key : String) :
    (cache.looked key).moment =
      if cache.broken.contains .get then cache.moment else (cache.moment.step (.get key)).2 := by
  rw [looked]
  split
  · rfl
  · simp only [Store.Moment.step, Store.get_eq]
    rfl

theorem moment_perform (event : Event) (cache : Cache) :
    (event.perform cache).2.moment =
      match event.effect? cache.broken with
      | some effect => (cache.moment.step effect).2
      | none => cache.moment := by
  cases event with
  | put place value lifetime =>
      rw [Event.perform, put_run, Event.effect?]
      split
      · rfl
      · dsimp only
        cases told : Store.deadline? cache.now lifetime with
        | none => rw [Store.Moment.step_set_of_none told]; rfl
        | some deadline => rw [Store.Moment.step_set_of_some told]; rfl
  | retrieve read place =>
      rw [Event.perform, retrieve_run, Event.effect?, moment_looked]
      split <;> rfl
  | lookup read place =>
      rw [Event.perform, lookup_run, Event.effect?, moment_looked]
      split <;> rfl
  | remove place =>
      rw [Event.perform, remove_run, Event.effect?]
      split <;> rfl
  | contains place => rw [Event.perform, contains_run]; rfl
  | advance milliseconds => rfl

/-! ## Answers -/

/-- Two caches with the same operations out of order that are at the same time and have the same
live entry under a key. -/
structure AlikeAt (key : String) (cache other : Cache) : Prop where
  broken : cache.broken = other.broken
  moment : cache.moment.AlikeAt key other.moment

variable {place : Place}

theorem AlikeAt.refl (key : String) (cache : Cache) : AlikeAt key cache cache :=
  ⟨rfl, .refl key cache.moment⟩

theorem AlikeAt.answer (alike : AlikeAt place.key cache other)
    (asks : event.asksAbout place = true) :
    (event.perform cache).1 = (event.perform other).1 := by
  have live : cache.live? (key place.scope place.id) = other.live? (key place.scope place.id) :=
    alike.moment.live
  have found : cache.found (key place.scope place.id) = other.found (key place.scope place.id) := by
    rw [Cache.found, Cache.found, alike.broken, live]
  cases event with
  | retrieve read asked =>
      cases eq_of_beq asks
      rw [Event.perform, retrieve_run, retrieve_run, found]
  | lookup read asked =>
      cases eq_of_beq asks
      rw [Event.perform, lookup_run, lookup_run, found]
  | contains asked =>
      cases eq_of_beq asks
      rw [Event.perform, contains_run, contains_run, alike.broken, live]
  | put | remove | advance => cases asks

theorem AlikeAt.perform {key : String} (alike : AlikeAt key cache other) (event : Event) :
    AlikeAt key (event.perform cache).2 (event.perform other).2 where
  broken := by rw [broken_perform, broken_perform, alike.broken]
  moment := by
    rw [moment_perform, moment_perform, alike.broken]
    cases event.effect? other.broken with
    | none => exact alike.moment
    | some effect => exact alike.moment.step effect

theorem Event.writesTo_of_unconcerned (idle : event.concerns place = false) :
    event.writesTo place = false := by
  cases event <;> first | exact idle | rfl

theorem writes_of_effect? {broken : List StoreOperation} {effect : Store.Event}
    (does : event.effect? broken = some effect)
    (spares : ∀ other : Place, other.key = place.key → event.writesTo other = false)
    (now : Nat) : effect.writes place.key now = false := by
  have elsewhere : ∀ written : Place, event.writesTo written = true →
      (written.key == place.key) = false := by
    intro written writes
    refine beq_eq_false_iff_ne.mpr fun same => ?_
    rw [spares written same] at writes
    cases writes
  cases event with
  | put written value lifetime =>
      rw [Event.effect?] at does
      split at does <;> cases does
      exact Bool.and_eq_false_imp.mpr fun same =>
        absurd same (ne_true_of_eq_false (elsewhere written (beq_self_eq_true written)))
  | remove written =>
      rw [Event.effect?] at does
      split at does <;> cases does
      exact elsewhere written (beq_self_eq_true written)
  | retrieve read asked | lookup read asked =>
      rw [Event.effect?] at does
      split at does <;> cases does
      rfl
  | contains asked => cases does
  | advance milliseconds => cases does; rfl

theorem live?_perform_of_spares
    (spares : ∀ other : Place, other.key = place.key → event.writesTo other = false) :
    (event.perform cache).2.live? place.key =
      (cache.live? place.key).filter (Entry.isLive (event.perform cache).2.now) := by
  change (event.perform cache).2.moment.live? place.key =
    (cache.moment.live? place.key).filter (Entry.isLive (event.perform cache).2.moment.now)
  rw [moment_perform]
  cases does : event.effect? cache.broken with
  | none => exact Store.live?_later _ _ (Nat.le_refl _)
  | some effect =>
      exact cache.moment.now_step effect ▸
        cache.moment.live?_step_of_spares (writes_of_effect? does spares _)

theorem now_le_perform (event : Event) (cache : Cache) :
    cache.now ≤ (event.perform cache).2.now := by
  change cache.now ≤ (event.perform cache).2.moment.now
  rw [moment_perform]
  cases event.effect? cache.broken with
  | none => exact Nat.le_refl _
  | some effect => exact cache.moment.now_step effect ▸ Nat.le_add_right ..

theorem duration_of_effect? {broken : List StoreOperation} {effect : Store.Event}
    (does : event.effect? broken = some effect) (idle : event.concerns place = false) :
    effect.duration = 0 := by
  cases event with
  | advance => cases idle
  | contains => cases does
  | put | retrieve | lookup | remove =>
      rw [Event.effect?] at does
      split at does <;> cases does
      rfl

theorem AlikeAt.skip (alike : AlikeAt place.key cache other)
    (idle : ∀ other : Place, other.key = place.key → event.concerns other = false) :
    AlikeAt place.key cache (event.perform other).2 where
  broken := by rw [broken_perform, alike.broken]
  moment := by
    rw [moment_perform]
    cases does : event.effect? other.broken with
    | none => exact alike.moment
    | some effect =>
        have spares : ∀ other : Place, other.key = place.key → event.writesTo other = false :=
          fun other same => Event.writesTo_of_unconcerned (idle other same)
        exact alike.moment.skip (writes_of_effect? does spares _)
          (duration_of_effect? does (idle place rfl))

theorem AlikeAt.after_filter (alike : AlikeAt place.key cache other) {kept : Event → Bool}
    {history : List Event}
    (idle : ∀ event ∈ history, kept event = false →
      ∀ other : Place, other.key = place.key → event.concerns other = false) :
    AlikeAt place.key (cache.after (history.filter kept)) (other.after history) :=
  alike_foldl_filter (fun event alike => alike.perform event)
    (fun event member dropped _ _ alike => alike.skip (idle event member dropped)) alike

theorem answer_after_filter {kept : Event → Bool} {history : List Event}
    (idle : ∀ event ∈ history, kept event = false →
      ∀ other : Place, other.key = place.key → event.concerns other = false)
    (cache : Cache) (asks : event.asksAbout place = true) :
    (event.perform (cache.after (history.filter kept))).1 =
      (event.perform (cache.after history)).1 :=
  ((AlikeAt.refl place.key cache).after_filter idle).answer asks

/-! ## Independence -/

theorem Event.writesTo_of_concerns (concerned : event.concerns place = true) {elsewhere : Place}
    (unconcerned : event.concerns elsewhere = false) : event.writesTo place = true := by
  cases event <;> first | exact concerned | cases unconcerned

theorem Event.eq_of_concerns (concerned : event.concerns place = true) {written : Place}
    (writes : event.writesTo written = true) : place = written := by
  cases event with
  | put asked | remove asked => exact (eq_of_beq concerned).symm.trans (eq_of_beq writes)
  | retrieve | lookup | contains | advance => cases writes

theorem Place.independent_of_key_ne {other : Place} (differ : other.key ≠ place.key) :
    Independent place other := by
  intro cache history event asks
  refine answer_after_filter (fun event _ dropped third same => ?_) cache asks
  have writes : event.writesTo other = true := by simpa using dropped
  refine Bool.eq_false_iff.mpr fun concerned => differ ?_
  rw [← Event.eq_of_concerns concerned writes, same]

/-- What is stored at one place is found at the other one. -/
theorem Place.Collides.not_independent {other : Place} (collides : place.Collides other) :
    ¬ Independent place other := by
  have same : place.key = other.key := key_eq_iff.mpr (.inr collides)
  intro independent
  have stored : ((({} : Cache).after [.put other .null none]).live? place.key).isSome = true := by
    have puts : ({} : Cache).after [.put other .null none] =
        ({} : Cache).withStore
          (Store.replace [] other.key ⟨Bytes.ofText (Json.toText .null), none⟩) :=
      congrArg Prod.snd (put_run other.scope other.id .null none {})
    rw [puts, same]
    exact congrArg Option.isSome ((Store.live?_replace ..).trans (if_pos rfl))
  have finds : ((Event.contains place).perform
      (({} : Cache).after [.put other .null none])).1 = .ok true := by
    rw [Event.perform, contains_run]
    exact congrArg Except.ok stored
  have answers := independent {} [.put other .null none] (.contains place) (beq_self_eq_true place)
  rw [finds, List.filter_cons_of_neg (by simp [Event.writesTo])] at answers
  cases answers

/-- Different places are independent if and only if they do not share a key. What is found at a
place is a matter of the time and of what was done there, unless somebody wrote to a place with
the same key. -/
theorem independent_iff (place : Place) :
    (∀ other : Place, other ≠ place → (Independent place other ↔ ¬ place.Collides other)) ∧
    ∀ (cache : Cache) (history : List Event) (event : Event), event.asksAbout place = true →
      (∀ other : Place, place.Collides other → ∀ past ∈ history, past.writesTo other = false) →
      (event.perform (cache.after (history.filter (·.concerns place)))).1 =
        (event.perform (cache.after history)).1 := by
  refine ⟨fun other differ => ⟨fun independent collides => ?_, fun apart => ?_⟩, ?_⟩
  · exact collides.not_independent independent
  · refine Place.independent_of_key_ne fun same => ?_
    rcases Place.key_eq_iff.mp same.symm with rfl | collides
    · exact differ rfl
    · exact apart collides
  · intro cache history event asks spared
    refine answer_after_filter (fun past member unconcerned other same => ?_) cache asks
    refine Bool.eq_false_iff.mpr fun concerned => ?_
    rcases Place.key_eq_iff.mp same.symm with rfl | collides
    · exact Bool.eq_false_iff.mp unconcerned concerned
    · have writes := Event.writesTo_of_concerns concerned unconcerned
      exact Bool.eq_false_iff.mp (spared other collides past member) writes

/-! ### Two namespaces -/

namespace Sample

def decimals : Place := ⟨"decimals", "0xabc"⟩

def name : Place := ⟨"name", "0xabc"⟩

def nested : Place := ⟨"name:0x", "abc"⟩

def shared : Place := ⟨"name", "0x:abc"⟩

end Sample

theorem independent_iff_decimals :
    Independent Sample.decimals Sample.name ∧
    ((Event.contains Sample.decimals).perform
      (({} : Cache).after [.put Sample.name (.ofNat 18) none, .advance 5])).1 = .ok false := by
  have apart : ¬ Sample.decimals.Collides Sample.name :=
    Place.not_collides_of_scopes (by decide) (by decide)
  refine ⟨((independent_iff Sample.decimals).1 Sample.name (by decide)).mpr apart, ?_⟩
  have plain : ':' ∉ Sample.decimals.id.toList := by decide
  rw [← (independent_iff Sample.decimals).2 _ _ _ rfl fun other collides =>
    absurd collides (Place.not_collides_of_plain (by decide) plain)]
  rfl

/-- Namespaces are not disjoint if one of them goes on where the other one ends. -/
theorem not_independent_nested :
    Sample.nested ≠ Sample.shared ∧ ¬ Independent Sample.nested Sample.shared := by
  refine ⟨by decide, fun independent => ?_⟩
  have answers := independent {} [.put Sample.shared (.ofNat 1) none] (.contains Sample.nested) rfl
  revert answers
  decide +kernel

end LendingPool.Cache
