import LendingPool.Cache
import LendingPool.Proofs.Abi.Words
import LendingPool.Proofs.Cache.Store
/-! The operations of a cache, carried out. Each of them answers from the live entry of its key or
refuses, and does at most one thing to the store. -/

namespace LendingPool

namespace Caching

variable {α β : Type} {cache later : Cache} {computation : Caching α}

theorem bind_run (computation : Caching α) (next : α → Caching β) (cache : Cache) :
    (computation >>= next) cache =
      ExceptT.bindCont next (computation cache).1 (computation cache).2 :=
  rfl

theorem bind_of_ok {value : α} (runs : computation cache = (.ok value, later))
    (next : α → Caching β) : (computation >>= next) cache = next value later := by
  rw [bind_run, runs]
  rfl

theorem bind_of_error {fault : CacheFault} (runs : computation cache = (.error fault, later))
    (next : α → Caching β) : (computation >>= next) cache = (.error fault, later) := by
  rw [bind_run, runs]
  rfl

theorem bind_getThe (next : Cache → Caching α) (cache : Cache) :
    (getThe Cache >>= next : Caching α) cache = next cache cache :=
  rfl

theorem tryCatch_run (handle : CacheFault → Caching α) :
    tryCatch computation handle cache =
      match computation cache with
      | (.ok value, later) => (.ok value, later)
      | (.error fault, later) => handle fault later := by
  rcases runs : computation cache with ⟨_ | _, later⟩ <;>
    simp [tryCatch, tryCatchThe, MonadExceptOf.tryCatch, ExceptT.tryCatch, ExceptT.mk, bind,
      StateT.bind, runs]
  all_goals rfl

end Caching

namespace Cache

variable {α : Type} {cache : Cache}

theorem key_inj {scope left right : String} : key scope left = key scope right ↔ left = right := by
  change scope ++ ":" ++ left = scope ++ ":" ++ right ↔ _
  rw [String.append_right_inj]

def live? (cache : Cache) (key : String) : Option Entry :=
  cache.store.live? cache.now key

theorem live?_eq_filter (cache : Cache) (key : String) :
    cache.live? key = (cache.live? key).filter (Entry.isLive cache.now) :=
  Store.live?_later cache.store key (Nat.le_refl _)

def withStore (cache : Cache) (store : Store) : Cache :=
  { cache with store }

/-! ## Reading -/

theorem parse?_ofText (text : String) : parse? (Bytes.ofText text) = Json.parseReadable? text := by
  rw [parse?, Bytes.toText?_ofText, Option.bind_some]

def found (cache : Cache) (key : String) : Except CacheFault Bytes :=
  if cache.broken.contains .get then .error (.refused "get")
  else match cache.live? key with
    | some entry => .ok entry.value
    | none => .error .notFound

def looked (cache : Cache) (key : String) : Cache :=
  if cache.broken.contains .get then cache
  else cache.withStore (cache.store.evict cache.now key)

theorem now_looked (cache : Cache) (key : String) : (cache.looked key).now = cache.now := by
  rw [looked]
  split <;> rfl

theorem broken_looked (cache : Cache) (key : String) :
    (cache.looked key).broken = cache.broken := by
  rw [looked]
  split <;> rfl

theorem halted_looked (cache : Cache) (key : String) :
    (cache.looked key).halted = cache.halted := by
  rw [looked]
  split <;> rfl

theorem stored?_of_looked {key other : String} {entry : Entry}
    (kept : (cache.looked key).store.stored? other = some entry) :
    cache.store.stored? other = some entry := by
  rw [looked] at kept
  split at kept
  · exact kept
  · exact Store.stored?_of_evict kept

theorem live?_looked (cache : Cache) (key other : String) :
    (cache.looked key).live? other = cache.live? other := by
  rw [looked]
  split
  · rfl
  · exact Store.live?_evict ..

theorem live?_looked_replace (cache : Cache) (key other : String) (entry : Entry) :
    ((cache.looked key).withStore ((cache.looked key).store.replace key entry)).live? other =
      if other = key then (some entry).filter (Entry.isLive cache.now)
      else cache.live? other := by
  have now := cache.now_looked key
  rw [← cache.live?_looked key other, live?, live?, withStore, now]
  exact Store.live?_replace ..

/-- Nothing has become of the entries of a cache, but that some are gone that had expired. -/
def LosesExpired (cache later : Cache) : Prop :=
  ∀ key, later.store.stored? key = cache.store.stored? key ∨
    later.store.stored? key = none ∧
      ∃ entry, cache.store.stored? key = some entry ∧ entry.isLive cache.now = false

theorem losesExpired_looked (cache : Cache) (key : String) :
    cache.LosesExpired (cache.looked key) := by
  intro other
  rw [looked]
  split
  · exact .inl rfl
  · exact Store.stored?_evict ..

def decode (read : Json → Option α) (bytes : Bytes) : Except CacheFault α :=
  match (parse? bytes).bind read with
  | some value => .ok value
  | none => .error .unreadable

def orNothing : Except CacheFault α → Except CacheFault (Option α)
  | .ok value => .ok (some value)
  | .error .notFound => .ok none
  | .error fault => .error fault

theorem require_of_broken {operation : StoreOperation}
    (broken : cache.broken.contains operation = true) :
    require operation cache = (.error (.refused operation.name), cache) := by
  have steps : require operation cache =
      (if cache.broken.contains operation then throw (.refused operation.name)
        else pure () : Caching Unit) cache := rfl
  rw [steps, broken]
  rfl

theorem require_of_works {operation : StoreOperation}
    (works : cache.broken.contains operation = false) :
    require operation cache = (.ok (), cache) := by
  have steps : require operation cache =
      (if cache.broken.contains operation then throw (.refused operation.name)
        else pure () : Caching Unit) cache := rfl
  rw [steps, works]
  rfl

theorem bytes_run (scope id : String) (cache : Cache) :
    bytes scope id cache = (cache.found (key scope id), cache.looked (key scope id)) := by
  rw [bytes, found, looked]
  cases broken : cache.broken.contains .get with
  | true =>
      rw [Caching.bind_of_error (require_of_broken broken)]
      rfl
  | false =>
      rw [Caching.bind_of_ok (require_of_works broken)]
      rw [Caching.bind_getThe, Store.get_eq, live?]
      cases cache.store.live? cache.now (key scope id) <;> rfl

theorem retrieve_run (read : Json → Option α) (scope id : String) (cache : Cache) :
    retrieve read scope id cache =
      ((cache.found (key scope id)).bind (decode read), cache.looked (key scope id)) := by
  have finds := bytes_run scope id cache
  rw [retrieve]
  cases found : cache.found (key scope id) with
  | error fault =>
      rw [found] at finds
      rw [Caching.bind_of_error finds]
      rfl
  | ok bytes =>
      rw [found] at finds
      rw [Caching.bind_of_ok finds, Except.bind, decode]
      cases (parse? bytes).bind read <;> rfl

theorem lookup_run (read : Json → Option α) (scope id : String) (cache : Cache) :
    lookup read scope id cache =
      (orNothing ((cache.found (key scope id)).bind (decode read)),
        cache.looked (key scope id)) := by
  have retrieves := retrieve_run read scope id cache
  rw [lookup, Caching.tryCatch_run, map_eq_pure_bind]
  cases found : (cache.found (key scope id)).bind (decode read) with
  | error fault =>
      rw [found] at retrieves
      rw [Caching.bind_of_error retrieves]
      cases fault <;> rfl
  | ok value =>
      rw [found] at retrieves
      rw [Caching.bind_of_ok retrieves]
      rfl

theorem contains_run (scope id : String) (cache : Cache) :
    contains scope id cache =
      (if cache.broken.contains .contains then .error (.refused "exists")
        else .ok (cache.live? (key scope id)).isSome, cache) := by
  rw [contains]
  cases broken : cache.broken.contains .contains with
  | true =>
      rw [Caching.bind_of_error (require_of_broken broken)]
      rfl
  | false =>
      rw [Caching.bind_of_ok (require_of_works broken), live?, ← Store.contains_eq]
      rfl

/-! ## Writing -/

theorem put_run (scope id : String) (value : Json) (lifetime : Option Nat) (cache : Cache) :
    put scope id value lifetime cache =
      if cache.broken.contains .set then (.error (.refused "set"), cache)
      else match Store.deadline? cache.now lifetime with
        | some deadline => (.ok (), cache.withStore
            (cache.store.replace (key scope id) ⟨Bytes.ofText value.toText, deadline⟩))
        | none => (.error (.refused "set"), cache.halt) := by
  rw [put]
  cases broken : cache.broken.contains .set with
  | true =>
      rw [Caching.bind_of_error (require_of_broken broken)]
      rfl
  | false =>
      rw [Caching.bind_of_ok (require_of_works broken)]
      rw [Caching.bind_getThe, Store.set]
      cases Store.deadline? cache.now lifetime <;> rfl

theorem remove_run (scope id : String) (cache : Cache) :
    remove scope id cache =
      if cache.broken.contains .delete then (.error (.refused "delete"), cache)
      else (.ok (), cache.withStore (cache.store.delete (key scope id))) := by
  rw [remove]
  cases broken : cache.broken.contains .delete with
  | true =>
      rw [Caching.bind_of_error (require_of_broken broken)]
      rfl
  | false =>
      rw [Caching.bind_of_ok (require_of_works broken)]
      rfl

end Cache

end LendingPool
