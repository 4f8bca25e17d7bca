import LendingPool.Proofs.Cache.Metadata
import LendingPool.Proofs.Cache.Places
/-! Tokens that do not say the same for ever, behind a cache. An answer from the cache is never
older than the lifetime of its entry, and a cache that is out of order gives no wrong ones. -/

namespace LendingPool

abbrev Service := (query : ChainQuery) → query.Reply

def Service.record (service : Service) (query : ChainQuery) :
    StateM (List ChainQuery) query.Reply := do
  modify (· ++ [query])
  return service query

structure CachedService where
  service : Service
  cache : Cache

namespace CachedService

/-- A reply, the queries that were passed on for it, and the cache afterwards. It may be that nobody
comes back with the reply. -/
structure Outcome (query : ChainQuery) where
  reply : query.Reply
  asked : List ChainQuery
  cache : Cache
  returns : Bool

def ask (lifetime : Nat) (state : CachedService) (query : ChainQuery) : Outcome query :=
  let ((reply, cache), asked) :=
    rememberMetadata lifetime state.service.record query state.cache.resume []
  { reply, asked, cache := cache.resume, returns := !cache.halted }

/-- Queries are made, the service changes what it says, and others use the cache or time goes by. -/
inductive Event : Type 1
  | ask (query : ChainQuery)
  | change (service : Service)
  | meanwhile (event : Cache.Event)

/-- Others write nothing in the namespaces of the metadata. -/
def Event.KeepsOff : Event → Prop
  | meanwhile event => ∀ place : Cache.Place, event.writesTo place = true →
      place.scope ≠ rememberedDecimals.scope ∧ place.scope ≠ rememberedName.scope
  | _ => True

def step (lifetime : Nat) (state : CachedService) : Event → CachedService
  | .ask query => { state with cache := (state.ask lifetime query).cache }
  | .change service => { state with service }
  | .meanwhile event => { state with cache := (event.perform state.cache).2 }

def after (lifetime : Nat) (state : CachedService) (history : List Event) : CachedService :=
  history.foldl (step lifetime) state

structure Reads (lifetime : Nat) (state : CachedService) (query : ChainQuery)
    (value : query.Answer) : Prop where
  asks : (state.ask lifetime query).asked = [query]
  tells : state.service query = .ok value
  returns : (state.ask lifetime query).returns = true

/-- In the course of a history the service was asked, said something, and what it said is not older
than the lifetime in the end. -/
def ReadWithin (lifetime : Nat) (begin : CachedService) (history : List Event)
    (query : ChainQuery) (value : query.Answer) : Prop :=
  ∃ earlier later, history = earlier ++ .ask query :: later ∧
    (begin.after lifetime earlier).Reads lifetime query value ∧
    (begin.after lifetime history).cache.now < (begin.after lifetime earlier).cache.now + lifetime

variable {lifetime : Nat} {state begin : CachedService} {history : List Event} {event : Event}

theorem after_append (lifetime : Nat) (state : CachedService) (earlier later : List Event) :
    state.after lifetime (earlier ++ later) =
      (state.after lifetime earlier).after lifetime later :=
  List.foldl_append

theorem after_concat (lifetime : Nat) (state : CachedService) (history : List Event)
    (event : Event) :
    state.after lifetime (history ++ [event]) =
      (state.after lifetime history).step lifetime event :=
  after_append ..

end CachedService

/-! ## Metadata -/

inductive ChainQuery.KeptAs : (query : ChainQuery) → Remembered query.Answer → Address → Prop
  | decimals (token : Address) : KeptAs (.decimals token) rememberedDecimals token
  | name (token : Address) : KeptAs (.name token) rememberedName token

theorem ChainQuery.passes_or_kept (query : ChainQuery) :
    query.isMetadata = false ∨ ∃ kind token, query.KeptAs kind token := by
  cases query with
  | decimals token => exact .inr ⟨_, token, .decimals token⟩
  | name token => exact .inr ⟨_, token, .name token⟩
  | _ => exact .inl rfl

def Remembered.place {α : Type} (kind : Remembered α) (token : Address) : Cache.Place :=
  ⟨kind.scope, token.checksum⟩

namespace ChainQuery.KeptAs

variable {query other : ChainQuery} {kind : Remembered query.Answer} {token : Address}
  {otherKind : Remembered other.Answer} {otherToken : Address}

theorem readsBack (kept : query.KeptAs kind token) (value : query.Answer) :
    (Cache.parse? (kind.toBytes value)).bind kind.read = some value := by
  cases kept with
  | decimals => exact rememberedDecimals_readsBack value
  | name => exact rememberedName_readsBack value

theorem eq_of_key_eq (kept : query.KeptAs kind token)
    (otherKept : other.KeptAs otherKind otherToken)
    (same : (kind.place token).key = (otherKind.place otherToken).key) : query = other := by
  cases kept with
  | decimals =>
      cases otherKept with
      | decimals => rw [Address.checksum_injective (Cache.key_inj.mp same)]
      | name => exact absurd same (Cache.key_decimals_ne_key_name _ _)
  | name =>
      cases otherKept with
      | decimals => exact absurd same.symm (Cache.key_decimals_ne_key_name _ _)
      | name => rw [Address.checksum_injective (Cache.key_inj.mp same)]

theorem colon_not_mem_scope (kept : query.KeptAs kind token) : ':' ∉ kind.scope.toList := by
  cases kept with
  | decimals => exact (show ':' ∉ "decimals".toList by decide)
  | name => exact (show ':' ∉ "name".toList by decide)

theorem rememberMetadata_eq {m : Type → Type} [Monad m] (kept : query.KeptAs kind token)
    (lifetime : Nat) (reply : (query : ChainQuery) → m query.Reply) :
    rememberMetadata lifetime reply query = kind.recall lifetime token (reply query) := by
  cases kept <;> rfl

/-- Nobody else writes under the keys of the metadata, even under another name. -/
theorem spares_of_keepsOff (kept : query.KeptAs kind token) {event : Cache.Event}
    (apart : (CachedService.Event.meanwhile event).KeepsOff) (written : Cache.Place)
    (same : written.key = (kind.place token).key) : event.writesTo written = false := by
  refine Bool.eq_false_iff.mpr fun writes => ?_
  have keepsOff := apart written writes
  rcases Cache.Place.key_eq_iff.mp same.symm with rfl | collides
  · cases kept with
    | decimals => exact keepsOff.1 rfl
    | name => exact keepsOff.2 rfl
  · have plain : ':' ∉ (kind.place token).id.toList := token.colon_not_mem_checksum
    exact Cache.Place.not_collides_of_plain kept.colon_not_mem_scope plain collides

end ChainQuery.KeptAs

namespace CachedService

variable {lifetime : Nat} {state begin : CachedService} {history : List Event} {event : Event}
  {query : ChainQuery} {kind : Remembered query.Answer} {token : Address}

theorem ask_recalls (kept : query.KeptAs kind token) (lifetime : Nat) (state : CachedService) :
    ∃ later asked,
      kind.Recalls lifetime (kind.place token).key (state.service query) state.cache.resume
        (state.ask lifetime query).reply later asked ∧
      (state.ask lifetime query).asked = (if asked then [query] else []) ∧
      (state.ask lifetime query).cache = later.resume ∧
      (state.ask lifetime query).returns = !later.halted := by
  have asks : state.service.record query [] = (state.service query, [query]) := rfl
  rcases Remembered.recall_recalls kind lifetime token state.cache.resume asks with
    ⟨reply, later, asked, recalls, course⟩
  have outcome : state.ask lifetime query =
      ⟨reply, if asked then [query] else [], later.resume, !later.halted⟩ := by
    rw [ask, kept.rememberMetadata_eq, recalls]
  rw [outcome]
  exact ⟨later, asked, course, rfl, rfl, rfl⟩

theorem ask_passes (plain : query.isMetadata = false) (lifetime : Nat) (state : CachedService) :
    state.ask lifetime query = ⟨state.service query, [query], state.cache.resume, true⟩ := by
  cases query <;> first | rfl | cases plain

/-! ## One step -/

theorem now_le_step (lifetime : Nat) (state : CachedService) (event : Event) :
    state.cache.now ≤ (state.step lifetime event).cache.now := by
  cases event with
  | ask query =>
      rcases query.passes_or_kept with plain | ⟨kind, token, kept⟩
      · rw [step, ask_passes plain]
        exact Nat.le_refl _
      · rcases ask_recalls kept lifetime state with ⟨later, asked, recalls, -, after, -⟩
        rw [step, after]
        exact recalls.now_eq.ge
  | change service => exact Nat.le_refl _
  | meanwhile event => exact Cache.now_le_perform event state.cache

theorem broken_step (lifetime : Nat) (state : CachedService) (event : Event) :
    (state.step lifetime event).cache.broken = state.cache.broken := by
  cases event with
  | ask query =>
      rcases query.passes_or_kept with plain | ⟨kind, token, kept⟩
      · rw [step, ask_passes plain]
        rfl
      · rcases ask_recalls kept lifetime state with ⟨later, asked, recalls, -, after, -⟩
        rw [step, after]
        exact recalls.broken_eq
  | change service => rfl
  | meanwhile event => exact Cache.broken_perform event state.cache

def Enters (lifetime : Nat) (state : CachedService) (event : Event) (query : ChainQuery)
    (value : query.Answer) : Prop :=
  event = .ask query ∧ state.Reads lifetime query value ∧
    state.cache.broken.contains .set = false

theorem live?_step_of_enters (kept : query.KeptAs kind token) {value : query.Answer}
    (enters : state.Enters lifetime event query value) :
    (state.step lifetime event).cache.live? (kind.place token).key =
      (some ⟨kind.toBytes value, some (state.cache.now + lifetime)⟩ : Option Entry).filter
        (Entry.isLive state.cache.now) := by
  rcases enters with ⟨rfl, reads, works⟩
  rcases ask_recalls kept lifetime state with ⟨later, asked, recalls, asks, after, returns⟩
  rw [reads.asks] at asks
  rw [reads.returns] at returns
  cases asked with
  | true =>
      have entered := recalls.enters_of_returns (by simpa using returns) reads.tells works
      rw [step, after]
      exact recalls.live?_of_enters entered
  | false => cases asks

theorem live?_step_of_spared (kept : query.KeptAs kind token) (apart : event.KeepsOff)
    (spared : ∀ value, ¬ state.Enters lifetime event query value) :
    (state.step lifetime event).cache.live? (kind.place token).key =
      (state.cache.live? (kind.place token).key).filter
        (Entry.isLive (state.step lifetime event).cache.now) := by
  cases event with
  | ask other =>
      rcases other.passes_or_kept with plain | ⟨otherKind, otherToken, otherKept⟩
      · rw [step, ask_passes plain]
        exact Cache.live?_eq_filter ..
      · rcases ask_recalls otherKept lifetime state with
          ⟨later, asked, recalls, asks, after, returns⟩
        have live : later.live? (kind.place token).key =
            state.cache.live? (kind.place token).key :=
          recalls.live?_eq fun keys value enters => by
            cases kept.eq_of_key_eq otherKept keys
            rcases enters with ⟨rfl, tells, works, told⟩
            have running : later.halted = false := recalls.halted_eq_of_told told
            rw [running] at returns
            exact spared value ⟨rfl, ⟨asks, tells, returns⟩, works⟩
        rw [step, ← live, after]
        exact Cache.live?_eq_filter ..
  | change service => exact Cache.live?_eq_filter ..
  | meanwhile event => exact Cache.live?_perform_of_spares (kept.spares_of_keepsOff apart)

/-! ## A whole history -/

theorem now_le_after (lifetime : Nat) (state : CachedService) (history : List Event) :
    state.cache.now ≤ (state.after lifetime history).cache.now := by
  induction history using List.reverseRecOn with
  | nil => exact Nat.le_refl _
  | append_singleton history event induction =>
      rw [after_concat]
      exact induction.trans (now_le_step ..)

theorem broken_after (lifetime : Nat) (state : CachedService) (history : List Event) :
    (state.after lifetime history).cache.broken = state.cache.broken := by
  induction history using List.reverseRecOn with
  | nil => rfl
  | append_singleton history event induction => rw [after_concat, broken_step, induction]

theorem exists_reads_of_live (kept : query.KeptAs kind token) (empty : begin.cache.store = [])
    (apart : ∀ event ∈ history, event.KeepsOff) {entry : Entry}
    (lives : (begin.after lifetime history).cache.live? (kind.place token).key = some entry) :
    ∃ earlier later value, history = earlier ++ .ask query :: later ∧
      (begin.after lifetime earlier).Reads lifetime query value ∧
      entry = ⟨kind.toBytes value,
        some ((begin.after lifetime earlier).cache.now + lifetime)⟩ := by
  induction history using List.reverseRecOn with
  | nil =>
      have stored := (Store.live?_eq_some_iff.mp lives).1
      rw [show (begin.after lifetime []).cache.store = [] from empty] at stored
      cases stored
  | append_singleton history event induction =>
      rw [after_concat] at lives
      rcases List.forall_mem_append.mp apart with ⟨rest, last⟩
      by_cases entered : ∃ value, (begin.after lifetime history).Enters lifetime event query value
      · rcases entered with ⟨value, enters⟩
        rw [live?_step_of_enters kept enters] at lives
        rcases enters with ⟨rfl, reads, -⟩
        cases (Option.filter_eq_some_iff.mp lives).1
        exact ⟨history, [], value, rfl, reads, rfl⟩
      · rw [live?_step_of_spared kept (last event (List.mem_singleton_self event))
          (not_exists.mp entered)] at lives
        rcases induction rest (Option.filter_eq_some_iff.mp lives).1 with
          ⟨earlier, later, value, same, reads, written⟩
        exact ⟨earlier, later ++ [event], value, by rw [same]; simp, reads, written⟩

theorem live_of_reads (kept : query.KeptAs kind token)
    (works : state.cache.broken.contains .set = false) {value : query.Answer}
    (reads : state.Reads lifetime query value) {later : List Event}
    (apart : ∀ event ∈ later, event.KeepsOff)
    (fresh : (state.after lifetime (.ask query :: later)).cache.now < state.cache.now + lifetime) :
    ∃ entry, (state.after lifetime (.ask query :: later)).cache.live? (kind.place token).key =
        some entry ∧
      ∀ time < state.cache.now + lifetime, entry.isLive time = true := by
  -- How long the entry lasts is part of the induction: what is entered later has to last as long.
  induction later using List.reverseRecOn with
  | nil =>
      have entered := live?_step_of_enters kept ⟨rfl, reads, works⟩
      refine ⟨_, entered.trans (Option.filter_eq_some_iff.mpr ⟨rfl, ?_⟩), ?_⟩
      · exact decide_eq_true ((now_le_step lifetime state (.ask query)).trans_lt fresh)
      · exact fun time early => decide_eq_true early
  | append_singleton later event induction =>
      rcases List.forall_mem_append.mp apart with ⟨rest, last⟩
      have began := now_le_after lifetime state (.ask query :: later)
      have goesBy := now_le_step lifetime (state.after lifetime (.ask query :: later)) event
      rw [← List.cons_append, after_concat] at fresh ⊢
      rcases induction rest (goesBy.trans_lt fresh) with ⟨entry, lives, lasts⟩
      by_cases entered : ∃ value,
          (state.after lifetime (.ask query :: later)).Enters lifetime event query value
      · rcases entered with ⟨value, enters⟩
        refine ⟨_, (live?_step_of_enters kept enters).trans
          (Option.filter_eq_some_iff.mpr ⟨rfl, ?_⟩), fun time early => ?_⟩
        · exact decide_eq_true (by omega)
        · exact decide_eq_true (by omega)
      · refine ⟨entry, ?_, lasts⟩
        rw [live?_step_of_spared kept (last event (List.mem_singleton_self event))
          (not_exists.mp entered), lives]
        exact Option.filter_eq_some_iff.mpr ⟨rfl, lasts _ fresh⟩

theorem readWithin_of_memory (kept : query.KeptAs kind token) (empty : begin.cache.store = [])
    (apart : ∀ event ∈ history, event.KeepsOff) {value : query.Answer}
    (remembers : kind.memory (begin.after lifetime history).cache (kind.place token).key =
      .ok value) : begin.ReadWithin lifetime history query value := by
  rcases Remembered.memory_eq_ok_iff.mp remembers with ⟨-, entry, lives, reads⟩
  rcases exists_reads_of_live kept empty apart lives with
    ⟨earlier, later, written, same, told, rfl⟩
  rw [kept.readsBack] at reads
  cases reads
  have early := (Store.live?_eq_some_iff.mp lives).2
  exact ⟨earlier, later, same, told, of_decide_eq_true early⟩

theorem memory_of_readWithin (kept : query.KeptAs kind token) (empty : begin.cache.store = [])
    (apart : ∀ event ∈ history, event.KeepsOff)
    (finds : begin.cache.broken.contains .get = false)
    (works : begin.cache.broken.contains .set = false) {value : query.Answer}
    (within : begin.ReadWithin lifetime history query value) :
    ∃ value, kind.memory (begin.after lifetime history).cache (kind.place token).key =
      .ok value := by
  rcases within with ⟨earlier, later, same, reads, fresh⟩
  have laterApart : ∀ event ∈ later, event.KeepsOff := fun event member =>
    apart event (by rw [same]; simp [member])
  have course : begin.after lifetime history =
      (begin.after lifetime earlier).after lifetime (.ask query :: later) := by
    rw [same, after_append]
  rw [course] at fresh
  rw [← broken_after lifetime begin earlier] at works
  rcases live_of_reads kept works reads laterApart fresh with ⟨entry, lives, -⟩
  rw [← course] at lives
  rcases exists_reads_of_live kept empty apart lives with ⟨_, _, written, _, _, rfl⟩
  refine ⟨written, Remembered.memory_eq_ok_iff.mpr ⟨?_, _, lives, kept.readsBack written⟩⟩
  rw [broken_after, finds]

/-! ## Every answer -/

/-- An answer is what the service says now, or what it said within a lifetime. A fault that comes
back is the one of the service, or the cache cannot be written to, and then nothing has become of
the cache that anybody could tell. Nothing is answered from a cache that cannot be read. As long as
the cache is in order, nothing is asked for again within a lifetime. Whatever is no metadata has
nothing to do with the cache. Nobody fails to come back but who is to remember what the service
says, with a deadline that cannot be told. -/
theorem ask_behind_cache (lifetime : Nat) (empty : begin.cache.store = [])
    (apart : ∀ event ∈ history, event.KeepsOff) (query : ChainQuery) :
    let state := begin.after lifetime history
    let outcome := state.ask lifetime query
    (∀ value, outcome.reply = .ok value →
      (outcome.asked = [query] ∧ state.service query = .ok value) ∨
        (outcome.asked = [] ∧ begin.ReadWithin lifetime history query value)) ∧
    (∀ fault, outcome.reply = .error fault → outcome.returns = true →
      outcome.asked = [query] ∧ state.cache.LosesExpired outcome.cache ∧
        (state.service query = .error fault ∨
          begin.cache.broken.contains .set = true ∧ (∃ value, state.service query = .ok value) ∧
            fault = .cache (CacheFault.refused "set").message)) ∧
    (begin.cache.broken.contains .get = true → outcome.asked = [query]) ∧
    (begin.cache.broken.contains .get = false → begin.cache.broken.contains .set = false →
      query.isMetadata = true → ∀ value, begin.ReadWithin lifetime history query value →
        outcome.asked = [] ∧ outcome.returns = true ∧ ∃ value, outcome.reply = .ok value) ∧
    (query.isMetadata = false →
      outcome = ⟨state.service query, [query], state.cache.resume, true⟩) ∧
    (outcome.returns = false →
      query.isMetadata = true ∧ (∃ value, state.service query = .ok value) ∧
        begin.cache.broken.contains .set = false ∧
        Store.clockEnd ≤ state.cache.now + lifetime) := by
  intro state outcome
  have broken : state.cache.broken = begin.cache.broken := broken_after ..
  rcases query.passes_or_kept with plain | ⟨kind, token, kept⟩
  · have passes : outcome = ⟨state.service query, [query], state.cache.resume, true⟩ :=
      ask_passes plain ..
    rw [passes]
    refine ⟨fun value answers => .inl ⟨rfl, answers⟩, fun fault fails _ =>
      ⟨rfl, fun key => .inl rfl, .inl fails⟩, fun _ => rfl, fun _ _ metadata => ?_, fun _ => rfl,
      nofun⟩
    cases plain.symm.trans metadata
  · rcases ask_recalls kept lifetime state with ⟨later, asked, recalls, same, after, returns⟩
    refine ⟨fun value answers => ?_, fun fault fails comesBack => ?_, fun unread => ?_,
      fun finds works _ value within => ?_, fun plain => ?_, fun halts => ?_⟩
    · rw [answers] at recalls
      rcases recalls.of_ok with ⟨rfl, tells⟩ | ⟨rfl, remembers⟩
      · exact .inl ⟨same, tells⟩
      · exact .inr ⟨same, readWithin_of_memory kept empty apart remembers⟩
    · rw [fails] at recalls
      have running : later.halted = false := by simpa using returns.symm.trans comesBack
      rcases recalls.of_error running with ⟨rfl, looked, faults⟩
      refine ⟨same, ?_, broken ▸ faults⟩
      rw [after, looked]
      exact state.cache.resume.losesExpired_looked (kind.place token).key
    · cases recalls.asked_of_broken (broken ▸ unread)
      exact same
    · rcases memory_of_readWithin kept empty apart finds works within with ⟨value, remembers⟩
      rcases recalls.of_memory remembers with ⟨answers, rfl, running⟩
      rw [running] at returns
      exact ⟨same, returns, value, answers⟩
    · cases kept <;> cases plain
    · have halted : later.halted = true := by simpa using returns.symm.trans halts
      rcases recalls.of_halted rfl halted with ⟨-, tells, works, untold⟩
      refine ⟨?_, tells, broken ▸ works, untold⟩
      cases kept <;> rfl

/-! ### A token that gets other decimals -/

namespace Sample

def changeable : Address := .ofNat 11

def telling (decimals : UInt8) : Service :=
  Snapshot.reply { tokens := [(changeable, ⟨"Token", decimals⟩)] }

def beginning : CachedService :=
  ⟨telling 6, {}⟩

def changing : List Event :=
  [.ask (.decimals changeable), .change (telling 18), .meanwhile (.advance 999)]

def outcome (history : List Event) : Outcome (.decimals changeable) :=
  (beginning.after 1000 history).ask 1000 (.decimals changeable)

end Sample

/-- They are not noticed until the lifetime is over. -/
theorem ask_behind_cache_sample :
    (Sample.outcome Sample.changing).asked = [] ∧
    (Sample.outcome (Sample.changing ++ [.meanwhile (.advance 1)])).reply = .ok 18 := by
  have apart : ∀ event ∈ Sample.changing, event.KeepsOff := by
    simp [Sample.changing, Event.KeepsOff, Cache.Event.writesTo]
  have within : Sample.beginning.ReadWithin 1000 Sample.changing (.decimals Sample.changeable) 6 :=
    ⟨[], _, rfl, ⟨by decide +kernel, by decide +kernel, by decide +kernel⟩, by decide +kernel⟩
  have empty : Sample.beginning.cache.store = [] := rfl
  have course := ask_behind_cache 1000 empty apart (.decimals Sample.changeable)
  exact ⟨(course.2.2.2.1 rfl rfl rfl 6 within).1, by decide +kernel⟩

end CachedService

end LendingPool
