import LendingPool.Proofs.Chain.Outcomes
/-! What planning depends on. A plan that makes only certain queries cannot tell chains apart that
agree about them, whether a cache is in front of the chain or not. -/

namespace LendingPool

theorem Dialogue.run_congr {Question : Type} {Answer : Question → Type} {α : Type}
    {m : Type → Type} [Monad m] {Expected : Question → Prop}
    {answer other : (question : Question) → m (Answer question)} {dialogue : Dialogue Answer α}
    (asksOnly : dialogue.AsksOnly Expected)
    (agree : ∀ question, Expected question → other question = answer question) :
    dialogue.run other = dialogue.run answer := by
  induction dialogue with
  | done value => rfl
  | ask question next induction =>
      rw [run, run, agree question asksOnly.1]
      exact bind_congr fun reply => induction reply (asksOnly.2 reply)

/-! ## What is noted -/

namespace Remembering

variable {α β : Type} {snapshot : Snapshot} {Expected : ChainQuery → Prop}

def NotesOnly (Expected : ChainQuery → Prop) (computation : Remembering α) : Prop :=
  ∀ cache log, ∃ noted, (computation cache log).2 = log ++ noted ∧
    ∀ query ∈ noted, Expected query

theorem notesOnly_of_silent {computation : Remembering α}
    (silent : ∀ cache log, (computation cache log).2 = log) : NotesOnly Expected computation :=
  fun cache log => ⟨[], by rw [silent, List.append_nil], nofun⟩

theorem notesOnly_record (snapshot : Snapshot) {query : ChainQuery} (expected : Expected query) :
    NotesOnly Expected (liftM (snapshot.record query)) :=
  fun _ _ => ⟨[query], rfl, fun _ member => List.mem_singleton.mp member ▸ expected⟩

theorem notesOnly_bind {computation : Remembering α} {next : α → Remembering β}
    (first : NotesOnly Expected computation) (second : ∀ value, NotesOnly Expected (next value)) :
    NotesOnly Expected (computation >>= next) := by
  intro cache log
  rcases first cache log with ⟨noted, logged, expected⟩
  rcases second (computation cache log).1.1 (computation cache log).1.2 (computation cache log).2
    with ⟨later, logs, expectedLater⟩
  refine ⟨noted ++ later, ?_, fun query member => ?_⟩
  · rw [← List.append_assoc, ← logged]
    exact logs
  · exact (List.mem_append.mp member).elim (expected query) (expectedLater query)

theorem notesOnly_recall (kind : Remembered α) (lifetime : Nat) (token : Address)
    {ask : StateM (List ChainQuery) (Except ServiceFault α)}
    (asks : NotesOnly Expected (liftM ask)) :
    NotesOnly Expected (kind.recall lifetime token ask) := by
  rw [Remembered.recall]
  apply notesOnly_bind (notesOnly_of_silent fun _ _ => rfl)
  intro cache
  split
  apply notesOnly_bind (notesOnly_of_silent fun _ _ => rfl)
  intro _
  split
  · exact notesOnly_of_silent fun _ _ => rfl
  · apply notesOnly_bind asks
    intro reply
    split
    · exact notesOnly_of_silent fun _ _ => rfl
    · apply notesOnly_bind (notesOnly_of_silent fun _ _ => rfl)
      intro cache
      split
      apply notesOnly_bind (notesOnly_of_silent fun _ _ => rfl)
      intro _
      split <;> exact notesOnly_of_silent fun _ _ => rfl

theorem notesOnly_reply (lifetime : Option Nat) (snapshot : Snapshot) {query : ChainQuery}
    (expected : Expected query) : NotesOnly Expected (reply lifetime snapshot query) := by
  have asks := notesOnly_record snapshot expected
  cases lifetime with
  | none => exact asks
  | some lifetime =>
      cases query with
      | decimals token => exact notesOnly_recall rememberedDecimals lifetime token asks
      | name token => exact notesOnly_recall rememberedName lifetime token asks
      | _ => exact asks

theorem notesOnly_run (lifetime : Option Nat) (snapshot : Snapshot) {reading : Reading α}
    (asksOnly : reading.AsksOnly Expected) :
    NotesOnly Expected (Dialogue.run (reply lifetime snapshot) reading) := by
  induction reading with
  | done value => exact notesOnly_of_silent fun _ _ => rfl
  | ask query next induction =>
      exact notesOnly_bind (notesOnly_reply lifetime snapshot asksOnly.1) fun answer =>
        induction answer (asksOnly.2 answer)

theorem reply_congr {left right : Snapshot} (lifetime : Option Nat) {query : ChainQuery}
    (agree : right.reply query = left.reply query) :
    reply lifetime right query = reply lifetime left query := by
  have record : right.record query = left.record query := by
    rw [Snapshot.record, Snapshot.record, agree]
  cases lifetime with
  | none => exact congrArg liftM record
  | some lifetime =>
      cases query with
      | decimals token => exact congrArg (rememberedDecimals.recall lifetime token) record
      | name token => exact congrArg (rememberedName.recall lifetime token) record
      | _ => exact congrArg liftM record

theorem run_congr {left right : Snapshot} (lifetime : Option Nat) {reading : Reading α}
    (asksOnly : reading.AsksOnly Expected)
    (agree : ∀ query, Expected query → right.reply query = left.reply query) :
    Dialogue.run (reply lifetime right) reading = Dialogue.run (reply lifetime left) reading :=
  Dialogue.run_congr asksOnly fun query expected => reply_congr lifetime (agree query expected)

end Remembering

/-! ## Plans -/

namespace Planning

variable {α β : Type} {Expected : ChainQuery → Prop}

theorem reads_of_asksOnly {planning : Planning α} (asksOnly : AsksOnly Expected planning)
    (lifetime : Option Nat) (snapshot : Snapshot) (cache : Cache) :
    ∀ query ∈ (Reading.onCached lifetime snapshot cache planning.run).2.2, Expected query := by
  rcases Remembering.notesOnly_run lifetime snapshot asksOnly cache [] with ⟨noted, logs, expected⟩
  intro query member
  have same : (Reading.onCached lifetime snapshot cache planning.run).2.2 = noted := logs
  exact expected query (same ▸ member)

/-- Only certain queries are made of a chain, and chains that agree about these give the same
result, with the same reads and the same cache afterwards. -/
structure DependsOnlyOn (Expected : ChainQuery → Prop) (planning : Planning α) : Prop where
  reads : ∀ (lifetime : Option Nat) (snapshot : Snapshot) (cache : Cache),
    ∀ query ∈ (Reading.onCached lifetime snapshot cache planning.run).2.2, Expected query
  same : ∀ (lifetime : Option Nat) (cache : Cache) (left right : Snapshot),
    (∀ query, Expected query → right.reply query = left.reply query) →
    Reading.onCached lifetime right cache planning.run =
      Reading.onCached lifetime left cache planning.run

/-- What comes second only matters for the values that come out first. -/
theorem dependsOnlyOn_bind {planning : Planning α} {next : α → Planning β}
    (first : AsksOnly Expected planning)
    (second : ∀ snapshot value, Yields (Snapshot.MayAnswer snapshot) planning value →
      AsksOnly Expected (next value)) :
    DependsOnlyOn Expected (planning >>= next) := by
  constructor
  · intro lifetime snapshot cache query
    rw [Reading.onCached, run_reply_bind]
    rcases Remembering.notesOnly_run lifetime snapshot first cache [] with ⟨noted, logs, expected⟩
    rcases ran : Dialogue.run (Remembering.reply lifetime snapshot) planning.run cache [] with
      ⟨⟨outcome, later⟩, reads⟩
    rw [ran] at logs
    have same : reads = noted := logs
    cases outcome with
    | error fault =>
        intro member
        exact expected query (same ▸ member)
    | ok value =>
        have yields := yields_of_onCached (congrArg Prod.fst (onCached_eq_iff.mpr ran))
        rcases Remembering.notesOnly_run lifetime snapshot (second snapshot value yields) later
          reads with ⟨rest, continues, expectedRest⟩
        intro member
        have member : query ∈ noted ++ rest := same ▸ continues ▸ member
        exact (List.mem_append.mp member).elim (expected query) (expectedRest query)
  · intro lifetime cache left right agree
    rw [Reading.onCached, Reading.onCached, run_reply_bind, run_reply_bind,
      Remembering.run_congr lifetime first agree]
    rcases ran : Dialogue.run (Remembering.reply lifetime left) planning.run cache [] with
      ⟨⟨outcome, later⟩, reads⟩
    cases outcome with
    | error fault => rfl
    | ok value =>
        have yields := yields_of_onCached (congrArg Prod.fst (onCached_eq_iff.mpr ran))
        dsimp only
        rw [Remembering.run_congr lifetime (second left value yields) agree]

theorem DependsOnlyOn.mono {Wider : ChainQuery → Prop} {planning : Planning α}
    (depends : DependsOnlyOn Expected planning) (wider : ∀ query, Expected query → Wider query) :
    DependsOnlyOn Wider planning where
  reads lifetime snapshot cache query member :=
    wider query (depends.reads lifetime snapshot cache query member)
  same lifetime cache left right agree :=
    depends.same lifetime cache left right fun query expected => agree query (wider query expected)

end Planning

end LendingPool
