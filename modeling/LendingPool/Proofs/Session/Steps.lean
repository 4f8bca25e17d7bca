import LendingPool.Planner
import LendingPool.Proofs.Chain.Answers
/-! A planner in use. Intents are planned and permits are asked for one after the other, plans are
kept, and the transactions of a kept plan are asked for at any later time. Meanwhile the chain
changes and time goes by. -/

namespace LendingPool

/-- What a planner in use remembers: the chain as it is now, what is cached, and the plans that
there are so far. -/
structure Session where
  snapshot : Snapshot
  cache : Cache := {}
  kept : List (List Descriptor) := []

namespace Session

def opened (snapshot : Snapshot) : Session where
  snapshot := snapshot

/-- What is asked of a planner in use, or happens to it. Kept transactions are named by the plan
and their place in it. -/
inductive Event
  | execute (intent : Intent)
  | requestPermit (intent : PermitRequestIntent)
  | transaction (plan place : Nat)
  | gasEstimate (plan place : Nat)
  | advance (milliseconds : Nat)
  | change (snapshot : Snapshot)

def Event.duration : Event → Nat
  | advance milliseconds => milliseconds
  | _ => 0

/-- Nothing comes of asking for a transaction that is not kept. Whoever wants something to be
remembered with a deadline that cannot be told never comes back. -/
inductive Answer
  | plan (outcome : Except Fault (List Descriptor))
  | permit (outcome : Except Fault PermitRequest)
  | transaction (outcome : Except Fault Transaction)
  | gasEstimate (outcome : Except Fault GasEstimate)
  | nothing
  | halted

/-- What comes of an event, with the queries that reached the chain. If nobody comes back, fewer of
them may have reached it. -/
structure Reaction where
  session : Session
  answer : Answer
  reads : List ChainQuery

def descriptor? (session : Session) (plan place : Nat) : Option Descriptor := do
  (← session.kept[plan]?)[place]?

/-- Works something out behind the cache, if there is one. Nothing is kept unless it comes back. -/
def workOut {α : Type} (session : Session) (lifetime : Option Nat) (reading : Reading α)
    (answer : α → Answer) (plans : α → List (List Descriptor)) : Reaction :=
  let (outcome, cache, reads) :=
    Reading.onCached lifetime session.snapshot session.cache.resume reading
  if cache.halted then ⟨{ session with cache := cache.resume }, .halted, reads⟩
  else ⟨{ session with cache, kept := session.kept ++ plans outcome }, answer outcome, reads⟩

/-- Plans and permits are worked out behind the cache. What changes with the state of the network is
always read from the chain. -/
def step (planner : Planner) (lifetime : Option Nat) (session : Session) : Event → Reaction
  | .execute intent =>
      session.workOut lifetime (planner.execute intent).run .plan (·.toOption.toList)
  | .requestPermit intent =>
      session.workOut lifetime (planner.requestPermit intent).run .permit fun _ => []
  | .transaction plan place =>
      match session.descriptor? plan place with
      | some descriptor =>
          let (outcome, reads) := Reading.on session.snapshot descriptor.transaction.run
          ⟨session, .transaction outcome, reads⟩
      | none => ⟨session, .nothing, []⟩
  | .gasEstimate plan place =>
      match session.descriptor? plan place with
      | some descriptor =>
          let (outcome, reads) := Reading.on session.snapshot descriptor.gasEstimate.run
          ⟨session, .gasEstimate outcome, reads⟩
      | none => ⟨session, .nothing, []⟩
  | .advance milliseconds =>
      ⟨{ session with cache := session.cache.advance milliseconds }, .nothing, []⟩
  | .change snapshot => ⟨{ session with snapshot }, .nothing, []⟩

def reactions (planner : Planner) (lifetime : Option Nat) : Session → List Event → List Reaction
  | _, [] => []
  | session, event :: events =>
      let reaction := session.step planner lifetime event
      reaction :: reactions planner lifetime reaction.session events

def after (planner : Planner) (lifetime : Option Nat) (session : Session) (events : List Event) :
    Session :=
  events.foldl (fun session event => (session.step planner lifetime event).session) session

variable {planner : Planner} {lifetime : Option Nat} {session : Session} {plan : List Descriptor}

section WorkOut

variable {α : Type} {reading : Reading α} {outcome : α} {cache : Cache} {reads : List ChainQuery}

theorem workOut_of_halts
    (runs : Reading.onCached lifetime session.snapshot session.cache.resume reading =
      (outcome, cache, reads))
    (halts : cache.halted = true) (answer : α → Answer) (plans : α → List (List Descriptor)) :
    session.workOut lifetime reading answer plans =
      ⟨{ session with cache := cache.resume }, .halted, reads⟩ := by
  rw [workOut, runs]
  exact if_pos halts

theorem workOut_of_returns
    (runs : Reading.onCached lifetime session.snapshot session.cache.resume reading =
      (outcome, cache, reads))
    (returns : cache.halted = false) (answer : α → Answer)
    (plans : α → List (List Descriptor)) :
    session.workOut lifetime reading answer plans =
      ⟨{ session with cache, kept := session.kept ++ plans outcome }, answer outcome, reads⟩ := by
  rw [workOut, runs]
  exact if_neg (ne_true_of_eq_false returns)

theorem workOut_cases (session : Session) (lifetime : Option Nat) (reading : Reading α)
    (answer : α → Answer) (plans : α → List (List Descriptor)) :
    ∃ outcome cache reads,
      Reading.onCached lifetime session.snapshot session.cache.resume reading =
        (outcome, cache, reads) ∧
      (session.workOut lifetime reading answer plans =
          ⟨{ session with cache := cache.resume }, .halted, reads⟩ ∨
        session.workOut lifetime reading answer plans =
          ⟨{ session with cache, kept := session.kept ++ plans outcome }, answer outcome,
            reads⟩) := by
  rcases runs : Reading.onCached lifetime session.snapshot session.cache.resume reading with
    ⟨outcome, cache, reads⟩
  refine ⟨outcome, cache, reads, rfl, ?_⟩
  cases halted : cache.halted with
  | true => exact .inl (workOut_of_halts runs halted answer plans)
  | false => exact .inr (workOut_of_returns runs halted answer plans)

end WorkOut

theorem step_execute_of_planned {intent : Intent} {outcome : Except Fault (List Descriptor)}
    (planned : (session.step planner lifetime (.execute intent)).answer = .plan outcome) :
    (Reading.onCached lifetime session.snapshot session.cache.resume
      (planner.execute intent).run).1 = outcome ∧
    (session.step planner lifetime (.execute intent)).session.kept =
      session.kept ++ outcome.toOption.toList := by
  rcases session.workOut_cases lifetime (planner.execute intent).run .plan (·.toOption.toList) with
    ⟨worked, cache, reads, runs, halts | returns⟩
  · rw [step, halts] at planned
    cases planned
  · rw [step, returns] at planned ⊢
    cases planned
    exact ⟨congrArg Prod.fst runs, rfl⟩

theorem reads_execute (session : Session) (intent : Intent) :
    (session.step planner lifetime (.execute intent)).reads =
      (Reading.onCached lifetime session.snapshot session.cache.resume
        (planner.execute intent).run).2.2 := by
  rcases session.workOut_cases lifetime (planner.execute intent).run .plan (·.toOption.toList) with
    ⟨worked, cache, reads, runs, halts | returns⟩
  · rw [step, halts, runs]
  · rw [step, returns, runs]

/-! ## Kept plans

A plan keeps its number, whatever happens. -/

theorem kept_step (event : Event) :
    ∃ more, (session.step planner lifetime event).session.kept = session.kept ++ more := by
  cases event with
  | execute intent | requestPermit intent =>
      rw [step]
      rcases workOut_cases .. with ⟨worked, cache, reads, -, halts | returns⟩
      · exact ⟨[], by rw [halts, List.append_nil]⟩
      · exact ⟨_, by rw [returns]⟩
  | transaction place | gasEstimate place =>
      refine ⟨[], ?_⟩
      rw [List.append_nil, step]
      split <;> rfl
  | _ => exact ⟨[], (List.append_nil _).symm⟩

theorem kept_after (events : List Event) :
    ∃ more, (session.after planner lifetime events).kept = session.kept ++ more := by
  induction events generalizing session with
  | nil => exact ⟨[], (List.append_nil _).symm⟩
  | cons event events induction =>
      rcases kept_step event with ⟨first, keepsFirst⟩
      rcases induction with ⟨rest, keepsRest⟩
      exact ⟨first ++ rest, by rw [← List.append_assoc, ← keepsFirst]; exact keepsRest⟩

theorem descriptor?_after (planner : Planner) (lifetime : Option Nat) {number place : Nat}
    {descriptor : Descriptor} (kept : session.descriptor? number place = some descriptor)
    (events : List Event) :
    (session.after planner lifetime events).descriptor? number place = some descriptor := by
  rcases Option.bind_eq_some_iff.mp kept with ⟨plan, has, holds⟩
  rcases kept_after events with ⟨more, keeps⟩
  rw [descriptor?, keeps, List.getElem?_append_left (List.getElem?_eq_some_iff.mp has).1, has]
  exact holds

theorem descriptor?_of_executed {intent : Intent} {place : Nat} {descriptor : Descriptor}
    (planned : (session.step planner lifetime (.execute intent)).answer = .plan (.ok plan))
    (holds : plan[place]? = some descriptor) :
    (session.step planner lifetime (.execute intent)).session.descriptor?
      session.kept.length place = some descriptor := by
  have kept := (step_execute_of_planned planned).2
  simp only [descriptor?, kept, Except.toOption, Option.toList, List.getElem?_concat_length]
  exact holds

end Session

end LendingPool
