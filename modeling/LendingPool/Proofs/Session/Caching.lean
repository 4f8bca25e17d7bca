import LendingPool.Proofs.Cache.Metadata
import LendingPool.Proofs.Plan.Shape
import LendingPool.Proofs.Session.Steps
/-! A planner with a cache beside one without, on the same events. Nobody can tell them apart by the
answers that come back, as long as tokens do not change what they say about themselves. With the
cache an answer comes back if the clock can tell when it would be forgotten. -/

namespace LendingPool

/-! ## Chains on which tokens say the same -/

namespace Snapshot

structure SameMetadata (snapshot other : Snapshot) : Prop where
  tokens : ∀ token, latest? token other.tokens = latest? token snapshot.tokens
  decimals : latest? "decimals" other.failures = latest? "decimals" snapshot.failures
  name : latest? "name" other.failures = latest? "name" snapshot.failures

namespace SameMetadata

variable {snapshot other : Snapshot} {key : String} {bytes : Bytes}

theorem refl (snapshot : Snapshot) : SameMetadata snapshot snapshot :=
  ⟨fun _ => rfl, rfl, rfl⟩

theorem symm (same : SameMetadata snapshot other) : SameMetadata other snapshot :=
  ⟨fun token => (same.tokens token).symm, same.decimals.symm, same.name.symm⟩

theorem reply_decimals (same : SameMetadata snapshot other) (token : Address) :
    other.reply (.decimals token) = snapshot.reply (.decimals token) := by
  simp only [reply, ChainQuery.kind, same.decimals, find, metadata, same.tokens token]

theorem reply_name (same : SameMetadata snapshot other) (token : Address) :
    other.reply (.name token) = snapshot.reply (.name token) := by
  simp only [reply, ChainQuery.kind, same.name, find, metadata, same.tokens token]

theorem tells (same : SameMetadata snapshot other) (told : snapshot.Tells key bytes) :
    other.Tells key bytes := by
  cases told with
  | decimals replies => exact .decimals ((same.reply_decimals _).trans replies)
  | name replies => exact .name ((same.reply_name _).trans replies)

end SameMetadata

end Snapshot

theorem Cache.Faithful.transfer {snapshot other : Snapshot} {cache : Cache}
    (faithful : cache.Faithful snapshot) (same : snapshot.SameMetadata other) :
    cache.Faithful other :=
  ⟨faithful.inOrder, faithful.running,
    fun key entry stored => same.tells (faithful.told key entry stored)⟩

theorem Cache.Faithful.resume {snapshot : Snapshot} {cache : Cache}
    (faithful : cache.Faithful snapshot) : cache.resume.Faithful snapshot :=
  ⟨faithful.inOrder, rfl, faithful.told⟩

namespace Session

/-! ## Two sessions side by side -/

/-- The same answer, with some reads of metadata spared. -/
structure Reaction.Spares (cached plain : Reaction) : Prop where
  answer : cached.answer = plain.answer
  reads : ChainQuery.Spares cached.reads plain.reads

/-- A session with a cache and one without, on the same chain and with the same plans kept. Tokens
say what they said at the start, and that is all that the cache holds. -/
structure Alike (start : Snapshot) (cached plain : Session) : Prop where
  snapshot : cached.snapshot = plain.snapshot
  kept : cached.kept = plain.kept
  steady : start.SameMetadata cached.snapshot
  faithful : cached.cache.Faithful start

variable {planner : Planner} {lifetime : Nat} {start : Snapshot} {cached plain : Session}

variable {α : Type}

theorem workOut_none (session : Session) (reading : Reading α) (answer : α → Answer)
    (plans : α → List (List Descriptor)) :
    session.workOut none reading answer plans =
      ⟨⟨session.snapshot, session.cache.resume,
          session.kept ++ plans (reading.on session.snapshot).1⟩,
        answer (reading.on session.snapshot).1, (reading.on session.snapshot).2⟩ :=
  workOut_of_returns (Reading.onCached_none ..) rfl answer plans

theorem answer_execute_of_halts {lifetime : Option Nat} {intent : Intent} {session : Session}
    (halts : (Reading.onCached lifetime session.snapshot session.cache.resume
      (planner.execute intent).run).2.1.halted = true) :
    (session.step planner lifetime (.execute intent)).answer = .halted := by
  rw [step, workOut_of_halts rfl halts]

theorem answer_execute_of_planned {intent : Intent} {session : Session}
    (planned : ((planner.execute intent).run.on session.snapshot).1.isOk = true) :
    ∃ plan, (session.step planner none (.execute intent)).answer = .plan (.ok plan) := by
  rw [step, workOut_none]
  rcases outcome : ((planner.execute intent).run.on session.snapshot).1 with fault | plan
  · rw [outcome] at planned
    cases planned
  · exact ⟨plan, rfl⟩

theorem answer_ne_halted (planner : Planner) (session : Session) (event : Event) :
    (session.step planner none event).answer ≠ .halted := by
  intro halted
  cases event with
  | execute intent | requestPermit intent =>
      rw [step, workOut_none] at halted
      cases halted
  | transaction plan place | gasEstimate plan place =>
      rw [step] at halted
      split at halted <;> cases halted
  | advance milliseconds | change snapshot => cases halted

/-- What comes of an event with a cache, beside what comes of it without: nobody comes back, because
a deadline could not be told, or there is no difference but for the reads that are spared. -/
inductive Course (start : Snapshot) (lifetime : Nat) (begun : Nat) (event : Event) :
    (cached plain : Reaction) → Prop
  | halts {cached plain : Reaction} (halted : cached.answer = .halted)
      (untold : Store.clockEnd ≤ begun + lifetime) : Course start lifetime begun event cached plain
  | returns {cached plain : Reaction} (alike : Alike start cached.session plain.session)
      (spares : cached.Spares plain)
      (now : cached.session.cache.now = begun + event.duration) :
      Course start lifetime begun event cached plain

theorem Alike.workOut (alike : Alike start cached plain) (reading : Reading α)
    (answer : α → Answer) (plans : α → List (List Descriptor)) {event : Event}
    (instant : event.duration = 0) :
    Course start lifetime cached.cache.now event
      (cached.workOut (some lifetime) reading answer plans)
      (plain.workOut none reading answer plans) := by
  have current := (alike.faithful.transfer alike.steady).resume
  rcases Reading.onCached_some reading lifetime current with
    ⟨outcome, later, asked, runs, ⟨halts, untold⟩ | ⟨faithful, now, rfl, spares⟩⟩
  · rw [workOut_of_halts runs halts]
    exact .halts rfl untold
  · rw [workOut_of_returns runs faithful.running, workOut_none, ← alike.snapshot, ← alike.kept]
    exact .returns ⟨rfl, rfl, alike.steady, faithful.transfer alike.steady.symm⟩ ⟨rfl, spares⟩
      (now.trans (by rw [instant]; rfl))

theorem Alike.step (alike : Alike start cached plain) (lifetime : Nat) (event : Event)
    (steady : ∀ snapshot, event = .change snapshot → start.SameMetadata snapshot) :
    Course start lifetime cached.cache.now event (cached.step planner (some lifetime) event)
      (plain.step planner none event) := by
  cases event with
  | execute intent | requestPermit intent =>
      rw [Session.step, Session.step]
      exact alike.workOut _ _ _ rfl
  | transaction plan place | gasEstimate plan place =>
      simp only [Session.step, descriptor?, alike.kept, alike.snapshot]
      split <;> exact .returns alike ⟨rfl, .refl _⟩ rfl
  | advance milliseconds =>
      exact .returns ⟨alike.snapshot, alike.kept, alike.steady, alike.faithful.advance milliseconds⟩
        ⟨rfl, .refl _⟩ rfl
  | change snapshot =>
      exact .returns ⟨rfl, alike.kept, steady snapshot rfl, alike.faithful⟩ ⟨rfl, .refl _⟩ rfl

def duration (events : List Event) : Nat :=
  (events.map Event.duration).sum

theorem Alike.reactions {events : List Event} (alike : Alike start cached plain)
    (steady : ∀ snapshot, .change snapshot ∈ events → start.SameMetadata snapshot)
    (returns : ∀ reaction ∈ cached.reactions planner (some lifetime) events,
      reaction.answer ≠ .halted) :
    List.Forall₂ Reaction.Spares (cached.reactions planner (some lifetime) events)
      (plain.reactions planner none events) := by
  induction events generalizing cached plain with
  | nil => exact .nil
  | cons event events induction =>
      rw [Session.reactions, List.forall_mem_cons] at returns
      cases alike.step lifetime event fun snapshot changes =>
        steady snapshot (List.mem_cons.mpr (.inl changes.symm)) with
      | halts halted => exact absurd halted returns.1
      | returns alikeAfter spares =>
          exact .cons spares (induction alikeAfter (fun snapshot member =>
            steady snapshot (List.mem_cons_of_mem event member)) returns.2)

/-- Everybody comes back if the deadlines until the end can be told. -/
theorem Alike.returns {events : List Event} (alike : Alike start cached plain)
    (steady : ∀ snapshot, .change snapshot ∈ events → start.SameMetadata snapshot)
    (told : cached.cache.now + duration events + lifetime < Store.clockEnd) :
    ∀ reaction ∈ cached.reactions planner (some lifetime) events, reaction.answer ≠ .halted := by
  induction events generalizing cached plain with
  | nil => exact nofun
  | cons event events induction =>
      have longer : duration (event :: events) = event.duration + duration events := rfl
      rw [Session.reactions, List.forall_mem_cons]
      cases alike.step lifetime event fun snapshot changes =>
        steady snapshot (List.mem_cons.mpr (.inl changes.symm)) with
      | halts halted untold => omega
      | returns alikeAfter spares now =>
          refine ⟨?_, induction alikeAfter (fun snapshot member =>
            steady snapshot (List.mem_cons_of_mem event member)) (by omega)⟩
          rw [spares.answer]
          exact plain.answer_ne_halted planner event

/-- Whatever happens, a planner answers with a cache as it does without, if it answers at all, and
it does if the clock can tell when answers are forgotten. It reads the same, but for some of the
metadata. -/
theorem cache_is_transparent (planner : Planner) (lifetime now : Nat) (start : Snapshot)
    (kept : List (List Descriptor)) (events : List Event)
    (steady : ∀ snapshot, .change snapshot ∈ events → start.SameMetadata snapshot) :
    let cached := reactions planner (some lifetime) ⟨start, { now }, kept⟩ events
    let plain := reactions planner none ⟨start, { now }, kept⟩ events
    ((∀ reaction ∈ cached, reaction.answer ≠ .halted) →
      List.Forall₂ Reaction.Spares cached plain) ∧
    (now + duration events + lifetime < Store.clockEnd →
      List.Forall₂ Reaction.Spares cached plain) := by
  have alike : Alike start ⟨start, { now }, kept⟩ ⟨start, { now }, kept⟩ :=
    ⟨rfl, rfl, .refl start, .empty start now⟩
  exact ⟨alike.reactions steady, fun told => alike.reactions steady (alike.returns steady told)⟩

end Session

/-! ### The same supply twice, while the network becomes another one -/

namespace Sample

def otherNetwork : Snapshot :=
  { snapshot with chainId := 5 }

def visits : List Session.Event :=
  [.execute supply, .change otherNetwork, .transaction 0 0, .advance 1000, .execute supply]

def visitsWith (lifetime : Option Nat) : List Session.Reaction :=
  Session.reactions planner lifetime (.opened snapshot) visits

end Sample

/-- The second supply does not ask for the decimals again. -/
theorem Session.cache_is_transparent_sample :
    List.Forall₂ Reaction.Spares (Sample.visitsWith (some 3600000)) (Sample.visitsWith none) ∧
    (Sample.visitsWith (some 3600000)).map (List.length ∘ Reaction.reads) = [2, 0, 1, 0, 1] ∧
    (Sample.visitsWith none).map (List.length ∘ Reaction.reads) = [2, 0, 1, 0, 2] := by
  have steady : ∀ snapshot, .change snapshot ∈ Sample.visits →
      Sample.snapshot.SameMetadata snapshot := by
    intro snapshot member
    have changes : snapshot = Sample.otherNetwork := by simpa [Sample.visits] using member
    rw [changes]
    exact ⟨fun _ => rfl, rfl, rfl⟩
  have transparent :=
    cache_is_transparent Sample.planner 3600000 0 Sample.snapshot [] Sample.visits steady
  exact ⟨transparent.2 (by decide), by decide +kernel, by decide +kernel⟩

/-- The longest lifetime there can be in the settings ends after the clock does. Without a cache the
supply is planned, and with one nobody comes back. -/
theorem Session.cache_is_not_transparent :
    (Sample.visitsWith (some (1000 * (2 ^ 64 - 1)))).head?.map Reaction.answer = some .halted ∧
    (∃ plan, (Sample.visitsWith none).head?.map Reaction.answer = some (.plan (.ok plan))) ∧
    ¬ List.Forall₂ Reaction.Spares (Sample.visitsWith (some (1000 * (2 ^ 64 - 1))))
      (Sample.visitsWith none) := by
  have halted : ((opened Sample.snapshot).step Sample.planner (some (1000 * (2 ^ 64 - 1)))
      (.execute Sample.supply)).answer = .halted :=
    answer_execute_of_halts (by decide +kernel)
  rcases answer_execute_of_planned (show ((Sample.planner.execute Sample.supply).run.on
    (opened Sample.snapshot).snapshot).1.isOk = true by decide +kernel) with ⟨plan, planned⟩
  rw [Sample.visitsWith, Sample.visitsWith, Sample.visits, reactions, reactions]
  refine ⟨congrArg some halted, ⟨plan, congrArg some planned⟩, fun spares => ?_⟩
  have first := (List.forall₂_cons.mp spares).1.answer
  rw [halted, planned] at first
  cases first

end LendingPool
