import LendingPool.Cache.Store
import LendingPool.Json.Parser
import LendingPool.Json.Printer
/-! A cache of JSON values, sorted into namespaces, on top of a store with a clock. -/

namespace LendingPool

inductive CacheFault
  | notFound
  | unreadable
  | refused (operation : String)
deriving DecidableEq, Repr

def CacheFault.message : CacheFault → String
  | notFound => "Not found"
  | unreadable => "Serialization error"
  | refused operation => s!"Backend error: {operation} refused"

inductive StoreOperation
  | get
  | set
  | delete
  | contains
deriving DecidableEq, Repr

def StoreOperation.name : StoreOperation → String
  | get => "get"
  | set => "set"
  | delete => "delete"
  | contains => "exists"

/-- A store, the time in milliseconds, and the operations that are out of order. Whoever stores
something with a deadline that cannot be told never comes back, and it is noted that somebody has
not. -/
structure Cache where
  store : Store := []
  now : Nat := 0
  broken : List StoreOperation := []
  halted : Bool := false

abbrev Caching := ExceptT CacheFault (StateM Cache)

namespace Cache

def key (scope id : String) : String :=
  s!"{scope}:{id}"

def require (operation : StoreOperation) : Caching Unit := do
  if (← getThe Cache).broken.contains operation then throw (.refused operation.name)

def halt (cache : Cache) : Cache :=
  { cache with halted := true }

def resume (cache : Cache) : Cache :=
  { cache with halted := false }

def advance (milliseconds : Nat) (cache : Cache) : Cache :=
  { cache with now := cache.now + milliseconds }

/-- Stores a value for a number of milliseconds, or for ever. The fault of whoever does not come
back is seen by nobody. -/
def put (scope id : String) (value : Json) (lifetime : Option Nat) : Caching Unit := do
  require .set
  let cache ← getThe Cache
  match cache.store.set cache.now (key scope id) (Bytes.ofText value.toText) lifetime with
  | some store => set { cache with store }
  | none =>
      set cache.halt
      throw (.refused StoreOperation.set.name)

def bytes (scope id : String) : Caching Bytes := do
  require .get
  let cache ← getThe Cache
  let (found, store) := cache.store.get cache.now (key scope id)
  set { cache with store }
  match found with
  | some bytes => pure bytes
  | none => throw .notFound

def parse? (bytes : Bytes) : Option Json :=
  (Bytes.toText? bytes).bind Json.parseReadable?

def retrieve {α : Type} (read : Json → Option α) (scope id : String) : Caching α := do
  match (parse? (← bytes scope id)).bind read with
  | some value => pure value
  | none => throw .unreadable

def lookup {α : Type} (read : Json → Option α) (scope id : String) : Caching (Option α) :=
  tryCatch (some <$> retrieve read scope id) fun
    | .notFound => pure none
    | fault => throw fault

def remove (scope id : String) : Caching Unit := do
  require .delete
  modifyThe Cache fun cache => { cache with store := cache.store.delete (key scope id) }

def contains (scope id : String) : Caching Bool := do
  require .contains
  let cache ← getThe Cache
  return cache.store.contains cache.now (key scope id)

end Cache

end LendingPool
