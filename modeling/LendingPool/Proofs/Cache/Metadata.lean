import LendingPool.Proofs.Address
import LendingPool.Proofs.Cache.Operations
import LendingPool.Proofs.Chain.Answers
import LendingPool.Proofs.Json.RoundTrip
/-! What is remembered of tokens. Whatever a cache holds is what the chain told, so an answer from
the cache is the answer of the chain, for as long as the metadata of the chain do not change. -/

namespace LendingPool

/-! ## What the chain tells -/

def Remembered.toBytes {α : Type} (kind : Remembered α) (value : α) : Bytes :=
  Bytes.ofText (kind.write value).toText

inductive Snapshot.Tells (snapshot : Snapshot) : String → Bytes → Prop
  | decimals {token : Address} {value : UInt8}
      (replies : snapshot.reply (.decimals token) = .ok value) :
      Tells snapshot (Cache.key "decimals" token.checksum) (rememberedDecimals.toBytes value)
  | name {token : Address} {value : String} (replies : snapshot.reply (.name token) = .ok value) :
      Tells snapshot (Cache.key "name" token.checksum) (rememberedName.toBytes value)

/-- A kind of metadata is kept in such a way that it is read back, and under keys of its own. -/
structure Remembered.Reflects {α : Type} (kind : Remembered α) (snapshot : Snapshot)
    (known : Address → Except ServiceFault α) : Prop where
  readsBack : ∀ value, (Cache.parse? (kind.toBytes value)).bind kind.read = some value
  told_iff : ∀ (token : Address) (bytes : Bytes),
    snapshot.Tells (Cache.key kind.scope token.checksum) bytes ↔
      ∃ value, known token = .ok value ∧ bytes = kind.toBytes value

variable {snapshot : Snapshot}

theorem Cache.key_decimals_ne_key_name (left right : String) :
    key "decimals" left ≠ key "name" right := by
  intro same
  have first := congrArg (fun key => key.toList.head?) same
  change ("decimals" ++ ":" ++ left).toList.head? = ("name" ++ ":" ++ right).toList.head? at first
  simp at first

theorem rememberedDecimals_readsBack (value : UInt8) :
    (Cache.parse? (rememberedDecimals.toBytes value)).bind rememberedDecimals.read =
      some value := by
  rw [Remembered.toBytes, Cache.parse?_ofText]
  have small : ∀ value : Fin 256, (Json.parseReadable? (Json.ofNat value.val).toText).bind
      rememberedDecimals.read = some (UInt8.ofNat value.val) := by decide +kernel
  exact (small ⟨value.toNat, value.toNat_lt⟩).trans (by rw [UInt8.ofNat_toNat])

theorem rememberedName_readsBack (value : String) :
    (Cache.parse? (rememberedName.toBytes value)).bind rememberedName.read = some value := by
  rw [Remembered.toBytes, Cache.parse?_ofText, rememberedName, Json.parseReadable?_toText rfl rfl]
  rfl

theorem reflects_decimals (snapshot : Snapshot) :
    rememberedDecimals.Reflects snapshot fun token => snapshot.reply (.decimals token) where
  readsBack := rememberedDecimals_readsBack
  told_iff token bytes := by
    constructor
    · intro told
      generalize keys : Cache.key rememberedDecimals.scope token.checksum = key at told
      cases told with
      | decimals replies =>
          cases Address.checksum_injective (Cache.key_inj.mp keys)
          exact ⟨_, replies, rfl⟩
      | name => exact absurd keys (Cache.key_decimals_ne_key_name _ _)
    · rintro ⟨value, replies, rfl⟩
      exact .decimals replies

theorem reflects_name (snapshot : Snapshot) :
    rememberedName.Reflects snapshot fun token => snapshot.reply (.name token) where
  readsBack := rememberedName_readsBack
  told_iff token bytes := by
    constructor
    · intro told
      generalize keys : Cache.key rememberedName.scope token.checksum = key at told
      cases told with
      | decimals => exact absurd keys.symm (Cache.key_decimals_ne_key_name _ _)
      | name replies =>
          cases Address.checksum_injective (Cache.key_inj.mp keys)
          exact ⟨_, replies, rfl⟩
    · rintro ⟨value, replies, rfl⟩
      exact .name replies

/-- A cache that is in order and holds nothing but what the chain tells. Everybody has come back. -/
structure Cache.Faithful (snapshot : Snapshot) (cache : Cache) : Prop where
  inOrder : cache.broken = []
  running : cache.halted = false
  told : ∀ key entry, cache.store.stored? key = some entry → snapshot.Tells key entry.value

namespace Cache.Faithful

variable {cache : Cache}

theorem looked (faithful : cache.Faithful snapshot) (key : String) :
    (cache.looked key).Faithful snapshot where
  inOrder := (broken_looked cache key).trans faithful.inOrder
  running := (halted_looked cache key).trans faithful.running
  told _ _ kept := faithful.told _ _ (stored?_of_looked kept)

theorem replace (faithful : cache.Faithful snapshot) {key : String} {entry : Entry}
    (tells : snapshot.Tells key entry.value) :
    (cache.withStore (cache.store.replace key entry)).Faithful snapshot where
  inOrder := faithful.inOrder
  running := faithful.running
  told other kept stored := by
    rw [withStore, Store.stored?_replace] at stored
    split at stored
    · rename_i same
      cases stored
      rw [same]
      exact tells
    · exact faithful.told _ _ stored

theorem advance (faithful : cache.Faithful snapshot) (milliseconds : Nat) :
    (cache.advance milliseconds).Faithful snapshot :=
  ⟨faithful.inOrder, faithful.running, faithful.told⟩

theorem empty (snapshot : Snapshot) (now : Nat) : Faithful snapshot { now } :=
  ⟨rfl, rfl, nofun⟩

end Cache.Faithful

/-! ## Remembering -/

namespace Remembering

variable {α β : Type} (cache later : Cache) (log : List ChainQuery)

theorem bind_run (computation : Remembering α) (next : α → Remembering β) :
    (computation >>= next) cache log =
      next (computation cache log).1.1 (computation cache log).1.2 (computation cache log).2 :=
  rfl

theorem get_run : (get : Remembering Cache) cache log = ((cache, cache), log) :=
  rfl

theorem set_run : (set later : Remembering PUnit) cache log = ((⟨⟩, later), log) :=
  rfl

theorem lift_run (ask : StateM (List ChainQuery) α) :
    (liftM ask : Remembering α) cache log = (((ask log).1, cache), (ask log).2) :=
  rfl

end Remembering

namespace Remembered

def memory {α : Type} (kind : Remembered α) (cache : Cache) (key : String) : Except CacheFault α :=
  (cache.found key).bind (Cache.decode kind.read)

variable {α : Type} {kind : Remembered α} {lifetime : Nat} {token : Address}
  {ask : StateM (List ChainQuery) (Except ServiceFault α)} {cache later : Cache}
  {log reads : List ChainQuery}

theorem recall_eq (kind : Remembered α) (lifetime : Nat) (token : Address)
    (ask : StateM (List ChainQuery) (Except ServiceFault α)) (cache : Cache)
    (log : List ChainQuery) :
    kind.recall lifetime token ask cache log =
      match Cache.lookup kind.read kind.scope token.checksum cache with
      | (.ok (some value), later) => ((.ok value, later), log)
      | (_, later) => match ask log with
        | (.error fault, reads) => ((.error fault, later), reads)
        | (.ok value, reads) =>
            match Cache.put kind.scope token.checksum (kind.write value) (some lifetime) later with
            | (.ok (), stored) => ((.ok value, stored), reads)
            | (.error fault, stored) => ((.error (.cache fault.message), stored), reads) := by
  simp only [Remembered.recall, Remembering.bind_run, Remembering.get_run]
  rcases Cache.lookup kind.read kind.scope token.checksum cache with ⟨_ | _ | value, later⟩
  case ok.some => rfl
  all_goals
    simp only [Remembering.bind_run, Remembering.set_run, Remembering.lift_run]
    rcases ask log with ⟨_ | value, reads⟩
    · rfl
    · simp only [Remembering.bind_run, Remembering.get_run]
      rcases Cache.put kind.scope token.checksum (kind.write value) (some lifetime) later with
        ⟨_ | _, stored⟩ <;> rfl

theorem memory_eq_ok_iff {key : String} {value : α} :
    kind.memory cache key = .ok value ↔
      cache.broken.contains .get = false ∧ ∃ entry, cache.live? key = some entry ∧
        (Cache.parse? entry.value).bind kind.read = some value := by
  rw [memory, Cache.found]
  cases cache.broken.contains .get with
  | true => simp [Except.bind]
  | false =>
      cases cache.live? key with
      | none => simp [Except.bind]
      | some entry =>
          cases reads : (Cache.parse? entry.value).bind kind.read <;>
            simp [Except.bind, Cache.decode, reads]

/-- How an answer comes about: whether it is remembered, what becomes of the cache, and whether
somebody has to be asked. If what was told is to be stored with a deadline that cannot be told, no
answer comes back. -/
inductive Recalls (kind : Remembered α) (lifetime : Nat) (key : String)
    (known : Except ServiceFault α) (cache : Cache) : Except ServiceFault α → Cache → Bool → Prop
  | remembered {value : α} (remembers : kind.memory cache key = .ok value) :
      Recalls kind lifetime key known cache (.ok value) (cache.looked key) false
  | failed {fault : ServiceFault} (forgot : ∀ value, kind.memory cache key ≠ .ok value)
      (tells : known = .error fault) :
      Recalls kind lifetime key known cache (.error fault) (cache.looked key) true
  | stored {value : α} (forgot : ∀ value, kind.memory cache key ≠ .ok value)
      (tells : known = .ok value) (works : cache.broken.contains .set = false)
      (told : cache.now + lifetime < Store.clockEnd) :
      Recalls kind lifetime key known cache (.ok value)
        ((cache.looked key).withStore
          ((cache.looked key).store.replace key
            ⟨kind.toBytes value, some (cache.now + lifetime)⟩))
        true
  | refused {value : α} (forgot : ∀ value, kind.memory cache key ≠ .ok value)
      (tells : known = .ok value) (broken : cache.broken.contains .set = true) :
      Recalls kind lifetime key known cache (.error (.cache (CacheFault.refused "set").message))
        (cache.looked key) true
  | halted {value : α} (forgot : ∀ value, kind.memory cache key ≠ .ok value)
      (tells : known = .ok value) (works : cache.broken.contains .set = false)
      (untold : Store.clockEnd ≤ cache.now + lifetime) :
      Recalls kind lifetime key known cache (.error (.cache (CacheFault.refused "set").message))
        (cache.looked key).halt true

namespace Recalls

variable {key other : String} {known answer : Except ServiceFault α} {asked : Bool}

theorem now_eq (recalls : kind.Recalls lifetime key known cache answer later asked) :
    later.now = cache.now := by
  cases recalls <;> exact Cache.now_looked ..

theorem broken_eq (recalls : kind.Recalls lifetime key known cache answer later asked) :
    later.broken = cache.broken := by
  cases recalls <;> exact Cache.broken_looked ..

theorem halted_or_eq (recalls : kind.Recalls lifetime key known cache answer later asked) :
    later.halted = true ∨ later.halted = cache.halted := by
  cases recalls with
  | halted => exact .inl rfl
  | remembered | failed | stored | refused => exact .inr (Cache.halted_looked ..)

theorem halted_eq_of_told (recalls : kind.Recalls lifetime key known cache answer later asked)
    (told : cache.now + lifetime < Store.clockEnd) : later.halted = cache.halted := by
  cases recalls with
  | halted _ _ _ untold => exact absurd told (Nat.not_lt.mpr untold)
  | remembered | failed | stored | refused => exact Cache.halted_looked ..

theorem of_halted (recalls : kind.Recalls lifetime key known cache answer later asked)
    (running : cache.halted = false) (halts : later.halted = true) :
    asked = true ∧ (∃ value, known = .ok value) ∧ cache.broken.contains .set = false ∧
      Store.clockEnd ≤ cache.now + lifetime := by
  cases recalls with
  | halted _ tells works untold => exact ⟨rfl, ⟨_, tells⟩, works, untold⟩
  | remembered | failed | stored | refused =>
      have returns : (cache.looked key).halted = false :=
        (Cache.halted_looked ..).trans running
      cases returns.symm.trans halts

/-- An answer is entered if somebody gave it who was asked, and if the cache can be written to and
the deadline can be told. -/
def Enters (cache : Cache) (lifetime : Nat) (known : Except ServiceFault α) (asked : Bool)
    (value : α) : Prop :=
  asked = true ∧ known = .ok value ∧ cache.broken.contains .set = false ∧
    cache.now + lifetime < Store.clockEnd

theorem live?_eq (recalls : kind.Recalls lifetime key known cache answer later asked)
    (spared : other = key → ∀ value, ¬ Enters cache lifetime known asked value) :
    later.live? other = cache.live? other := by
  cases recalls with
  | stored forgot tells works told =>
      have elsewhere : other ≠ key := fun same => spared same _ ⟨rfl, tells, works, told⟩
      exact (Cache.live?_looked_replace ..).trans (if_neg elsewhere)
  | remembered | failed | refused | halted => exact cache.live?_looked key other

theorem live?_of_enters (recalls : kind.Recalls lifetime key known cache answer later asked)
    {value : α} (enters : Enters cache lifetime known asked value) :
    later.live? key =
      (some ⟨kind.toBytes value, some (cache.now + lifetime)⟩ : Option Entry).filter
        (Entry.isLive cache.now) := by
  rcases enters with ⟨rfl, rfl, works, told⟩
  cases recalls with
  | stored forgot tells =>
      cases tells
      exact (Cache.live?_looked_replace ..).trans (if_pos rfl)
  | failed _ tells => cases tells
  | refused _ _ broken => cases works.symm.trans broken
  | halted _ _ _ untold => exact absurd told (Nat.not_lt.mpr untold)

theorem enters_of_returns (recalls : kind.Recalls lifetime key known cache answer later true)
    (returns : later.halted = false) {value : α} (tells : known = .ok value)
    (works : cache.broken.contains .set = false) : Enters cache lifetime known true value := by
  cases recalls with
  | stored _ _ _ told => exact ⟨rfl, tells, works, told⟩
  | failed _ fails => cases fails.symm.trans tells
  | refused _ _ broken => cases works.symm.trans broken
  | halted => cases returns

theorem of_ok {value : α}
    (recalls : kind.Recalls lifetime key known cache (.ok value) later asked) :
    (asked = true ∧ known = .ok value) ∨ (asked = false ∧ kind.memory cache key = .ok value) := by
  cases recalls with
  | remembered remembers => exact .inr ⟨rfl, remembers⟩
  | stored forgot tells => exact .inl ⟨rfl, tells⟩

theorem of_error {fault : ServiceFault}
    (recalls : kind.Recalls lifetime key known cache (.error fault) later asked)
    (returns : later.halted = false) :
    asked = true ∧ later = cache.looked key ∧
      (known = .error fault ∨
        cache.broken.contains .set = true ∧ (∃ value, known = .ok value) ∧
          fault = .cache (CacheFault.refused "set").message) := by
  cases recalls with
  | failed forgot tells => exact ⟨rfl, rfl, .inl tells⟩
  | refused forgot tells broken => exact ⟨rfl, rfl, .inr ⟨broken, ⟨_, tells⟩, rfl⟩⟩
  | halted => cases returns

theorem asked_of_broken (recalls : kind.Recalls lifetime key known cache answer later asked)
    (broken : cache.broken.contains .get = true) : asked = true := by
  cases recalls with
  | remembered remembers => cases broken.symm.trans (memory_eq_ok_iff.mp remembers).1
  | failed | stored | refused | halted => rfl

theorem of_memory (recalls : kind.Recalls lifetime key known cache answer later asked) {value : α}
    (remembers : kind.memory cache key = .ok value) :
    answer = .ok value ∧ asked = false ∧ later.halted = cache.halted := by
  cases recalls with
  | remembered same =>
      cases same.symm.trans remembers
      exact ⟨rfl, rfl, Cache.halted_looked ..⟩
  | failed forgot | stored forgot | refused forgot | halted forgot =>
      exact absurd remembers (forgot value)

end Recalls

theorem recall_recalls (kind : Remembered α) (lifetime : Nat) (token : Address) (cache : Cache)
    {known : Except ServiceFault α} (asks : ask log = (known, reads)) :
    ∃ answer later asked, kind.recall lifetime token ask cache log =
        ((answer, later), if asked then reads else log) ∧
      kind.Recalls lifetime (Cache.key kind.scope token.checksum) known cache answer later
        asked := by
  have looks : Cache.lookup kind.read kind.scope token.checksum cache =
      (Cache.orNothing (kind.memory cache (Cache.key kind.scope token.checksum)),
        cache.looked (Cache.key kind.scope token.checksum)) := Cache.lookup_run ..
  rw [recall_eq, looks]
  generalize same : Cache.key kind.scope token.checksum = key
  cases remembers : kind.memory cache key with
  | ok value => exact ⟨_, _, false, rfl, .remembered remembers⟩
  | error forgets =>
      have forgot : ∀ value, kind.memory cache key ≠ .ok value :=
        fun value same => by cases remembers.symm.trans same
      cases known with
      | error fault =>
          refine ⟨_, _, true, ?_, .failed forgot rfl⟩
          cases forgets <;> simp only [Cache.orNothing, asks, if_true]
      | ok value =>
          have puts := Cache.put_run kind.scope token.checksum (kind.write value)
            (some lifetime) (cache.looked key)
          rw [Cache.broken_looked, Cache.now_looked, same] at puts
          cases works : cache.broken.contains .set with
          | true =>
              rw [works, if_pos rfl] at puts
              refine ⟨_, _, true, ?_, .refused forgot rfl works⟩
              cases forgets <;> simp only [Cache.orNothing, asks, puts, if_true]
          | false =>
              rw [works, if_neg Bool.false_ne_true] at puts
              cases tells : Store.deadline? cache.now (some lifetime) with
              | none =>
                  have untold := Store.deadline?_some_eq_none_iff.mp tells
                  rw [tells] at puts
                  refine ⟨_, _, true, ?_, .halted forgot rfl works untold⟩
                  cases forgets <;> simp only [Cache.orNothing, asks, puts, if_true]
              | some deadline =>
                  rcases Store.deadline?_some_eq_some_iff.mp tells with ⟨told, rfl⟩
                  rw [tells] at puts
                  refine ⟨_, _, true, ?_, .stored forgot rfl works told⟩
                  cases forgets <;>
                    simp only [Cache.orNothing, asks, puts, if_true, Remembered.toBytes]

variable {known : Address → Except ServiceFault α} {query : ChainQuery}

/-- Behind a faithful cache the answer is the one of the chain, which is asked once or not at all,
unless no answer comes back. -/
theorem recall_run (reflects : kind.Reflects snapshot known) (faithful : cache.Faithful snapshot)
    (asks : ask log = (known token, log ++ [query])) :
    ∃ answer later asked, kind.recall lifetime token ask cache log =
        ((answer, later), log ++ asked) ∧
      later.now = cache.now ∧ (asked = [] ∨ asked = [query]) ∧
      (later.halted = true ∧ Store.clockEnd ≤ cache.now + lifetime ∨
        later.Faithful snapshot ∧ answer = known token) := by
  rcases recall_recalls kind lifetime token cache asks with
    ⟨answer, later, asked, recalls, course⟩
  have faithfulLater := faithful.looked (Cache.key kind.scope token.checksum)
  have now := course.now_eq
  generalize knows : known token = answers at course
  cases course with
  | remembered remembers =>
      rcases memory_eq_ok_iff.mp remembers with ⟨-, entry, lives, reads⟩
      have stored := (Store.live?_eq_some_iff.mp lives).1
      rcases (reflects.told_iff token _).mp (faithful.told _ _ stored) with ⟨value, tells, written⟩
      rw [written, reflects.readsBack] at reads
      cases reads
      refine ⟨_, _, [], recalls.trans ?_, now, .inl rfl,
        .inr ⟨faithfulLater, tells.symm.trans knows⟩⟩
      rw [List.append_nil]
      rfl
  | failed forgot tells =>
      exact ⟨_, _, [query], recalls, now, .inr rfl, .inr ⟨faithfulLater, tells.symm⟩⟩
  | stored forgot tells works =>
      have told := (reflects.told_iff token _).mpr ⟨_, knows.trans tells, rfl⟩
      exact ⟨_, _, [query], recalls, now, .inr rfl, .inr ⟨faithfulLater.replace told, tells.symm⟩⟩
  | refused forgot tells broken =>
      rw [faithful.inOrder] at broken
      cases broken
  | halted _ _ _ untold => exact ⟨_, _, [query], recalls, now, .inr rfl, .inl ⟨rfl, untold⟩⟩

theorem halted_recall (halted : cache.halted = true) :
    (kind.recall lifetime token ask cache log).1.2.halted = true := by
  rcases asks : ask log with ⟨known, reads⟩
  rcases recall_recalls kind lifetime token cache asks with
    ⟨answer, later, asked, recalls, course⟩
  rw [recalls]
  exact course.halted_or_eq.elim id fun same => same.trans halted

end Remembered

/-! ## Reading behind a cache -/

/-- Queries with some left out, all of them about metadata. -/
structure ChainQuery.Spares (asked queries : List ChainQuery) : Prop where
  sublist : asked.Sublist queries
  same : Remembering.withoutMetadata asked = Remembering.withoutMetadata queries

namespace ChainQuery.Spares

variable {asked rest queries others : List ChainQuery}

theorem refl (queries : List ChainQuery) : Spares queries queries :=
  ⟨.refl queries, rfl⟩

theorem append (first : Spares asked queries) (second : Spares rest others) :
    Spares (asked ++ rest) (queries ++ others) := by
  refine ⟨first.sublist.append second.sublist, ?_⟩
  rw [Remembering.withoutMetadata, Remembering.withoutMetadata, List.filter_append,
    List.filter_append]
  exact congrArg₂ (· ++ ·) first.same second.same

theorem of_metadata {query : ChainQuery} (metadata : query.isMetadata = true)
    (spared : asked = [] ∨ asked = [query]) : Spares asked [query] := by
  rcases spared with rfl | rfl
  · refine ⟨List.nil_sublist _, ?_⟩
    simp [Remembering.withoutMetadata, metadata]
  · exact refl _

end ChainQuery.Spares

namespace Remembering

variable {α : Type} {cache : Cache}

theorem halted_reply {lifetime : Option Nat} (halted : cache.halted = true) (query : ChainQuery)
    (log : List ChainQuery) : (reply lifetime snapshot query cache log).1.2.halted = true := by
  cases lifetime with
  | none => exact halted
  | some lifetime =>
      cases query with
      | decimals token | name token => exact Remembered.halted_recall halted
      | _ => exact halted

theorem halted_run (lifetime : Option Nat) (snapshot : Snapshot) (reading : Reading α)
    (halted : cache.halted = true) (log : List ChainQuery) :
    (Dialogue.run (reply lifetime snapshot) reading cache log).1.2.halted = true := by
  induction reading generalizing cache log with
  | done value => exact halted
  | ask query next induction => exact induction _ (halted_reply halted query log) _

theorem reply_run (faithful : cache.Faithful snapshot) (lifetime : Nat) (query : ChainQuery)
    (log : List ChainQuery) :
    ∃ answer later asked, reply (some lifetime) snapshot query cache log =
        ((answer, later), log ++ asked) ∧
      later.now = cache.now ∧ ChainQuery.Spares asked [query] ∧
      (later.halted = true ∧ Store.clockEnd ≤ cache.now + lifetime ∨
        later.Faithful snapshot ∧ answer = snapshot.reply query) := by
  cases query with
  | decimals token =>
      have asks : snapshot.record (.decimals token) log =
          (snapshot.reply (.decimals token), log ++ [.decimals token]) := rfl
      rcases Remembered.recall_run (reflects_decimals snapshot) faithful asks with
        ⟨answer, later, asked, runs, now, spared, outcome⟩
      exact ⟨answer, later, asked, runs, now, .of_metadata rfl spared, outcome⟩
  | name token =>
      have asks : snapshot.record (.name token) log =
          (snapshot.reply (.name token), log ++ [.name token]) := rfl
      rcases Remembered.recall_run (reflects_name snapshot) faithful asks with
        ⟨answer, later, asked, runs, now, spared, outcome⟩
      exact ⟨answer, later, asked, runs, now, .of_metadata rfl spared, outcome⟩
  | _ => exact ⟨_, cache, _, rfl, rfl, .refl _, .inr ⟨faithful, rfl⟩⟩

theorem run_of_course (lifetime : Nat) {reading : Reading α} {queries : List ChainQuery} {value : α}
    (course : Dialogue.Course snapshot.Answers reading queries value) {cache : Cache}
    (faithful : cache.Faithful snapshot) (log : List ChainQuery) :
    ∃ outcome later reads, Dialogue.run (reply (some lifetime) snapshot) reading cache log =
        ((outcome, later), reads) ∧
      (later.halted = true ∧ Store.clockEnd ≤ cache.now + lifetime ∨
        later.Faithful snapshot ∧ later.now = cache.now ∧ outcome = value ∧
          ∃ asked, reads = log ++ asked ∧ ChainQuery.Spares asked queries) := by
  induction course generalizing cache log with
  | done value =>
      exact ⟨value, cache, log, rfl,
        .inr ⟨faithful, rfl, rfl, [], (List.append_nil log).symm, .refl []⟩⟩
  | @ask query next answer queries value answers rest induction =>
      cases answers
      rcases reply_run faithful lifetime query log with
        ⟨answer, later, asked, replies, now, spares, ⟨halts, untold⟩ | ⟨faithfulLater, rfl⟩⟩
      · have halted := halted_run (some lifetime) snapshot (next answer) halts (log ++ asked)
        exact ⟨_, _, _, run_ask replies next, .inl ⟨halted, untold⟩⟩
      · rcases induction faithfulLater (log ++ asked) with ⟨outcome, last, reads, runs, course⟩
        rw [now] at course
        refine ⟨outcome, last, reads, (run_ask replies next).trans runs, course.imp_right ?_⟩
        rintro ⟨faithfulLast, later, same, others, rfl, sparesRest⟩
        exact ⟨faithfulLast, later, same, asked ++ others, List.append_assoc ..,
          spares.append sparesRest⟩

theorem run_of_course_none {reading : Reading α} {queries : List ChainQuery} {value : α}
    (course : Dialogue.Course snapshot.Answers reading queries value) (cache : Cache)
    (log : List ChainQuery) :
    Dialogue.run (reply none snapshot) reading cache log = ((value, cache), log ++ queries) := by
  induction course generalizing log with
  | done value => rw [List.append_nil]; rfl
  | @ask query next answer queries value answers rest induction =>
      cases answers
      rw [List.append_cons]
      exact induction _

end Remembering

theorem Reading.onCached_none {α : Type} (reading : Reading α) (snapshot : Snapshot)
    (cache : Cache) :
    reading.onCached none snapshot cache =
      ((reading.on snapshot).1, cache, (reading.on snapshot).2) := by
  rw [Reading.onCached, Remembering.run_of_course_none (Reading.on_eq_iff.mp rfl)]
  rfl

/-- A cache that holds what the chain tells changes no answer that comes back, and spares queries
about metadata. -/
theorem Reading.onCached_some {α : Type} (reading : Reading α) (lifetime : Nat) {cache : Cache}
    (faithful : cache.Faithful snapshot) :
    ∃ outcome later asked, reading.onCached (some lifetime) snapshot cache =
        (outcome, later, asked) ∧
      (later.halted = true ∧ Store.clockEnd ≤ cache.now + lifetime ∨
        later.Faithful snapshot ∧ later.now = cache.now ∧ outcome = (reading.on snapshot).1 ∧
          ChainQuery.Spares asked (reading.on snapshot).2) := by
  rcases Remembering.run_of_course lifetime (Reading.on_eq_iff.mp rfl) faithful [] with
    ⟨outcome, later, reads, runs, course⟩
  refine ⟨outcome, later, reads, ?_, course.imp_right ?_⟩
  · rw [Reading.onCached, runs]
  · rintro ⟨faithfulLater, now, same, asked, rfl, spares⟩
    exact ⟨faithfulLater, now, same, spares⟩

end LendingPool
