import LendingPool.Bytes
/-! A store of byte strings in memory, with expiry. An entry that has expired counts as absent, and
is dropped when somebody looks it up. -/

namespace LendingPool

structure Entry where
  value : Bytes
  deadline : Option Nat
deriving DecidableEq, Repr

def Entry.isLive (now : Nat) (entry : Entry) : Bool :=
  match entry.deadline with
  | none => true
  | some deadline => now < deadline

abbrev Store := List (String × Entry)

namespace Store

/-- The clock counts seconds by a signed number of 64 bits, so this millisecond and all after it
cannot be told. -/
def clockEnd : Nat := 1000 * 2 ^ 63

def deadline? (now : Nat) (lifetime : Option Nat) : Option (Option Nat) :=
  match lifetime with
  | none => some none
  | some lifetime => if now + lifetime < clockEnd then some (some (now + lifetime)) else none

def stored? (store : Store) (key : String) : Option Entry :=
  store.lookup key

def delete (store : Store) (key : String) : Store :=
  store.filter fun entry => entry.1 != key

def replace (store : Store) (key : String) (entry : Entry) : Store :=
  (key, entry) :: store.delete key

/-- Replaces the entry of a key. It lives from `now` for `lifetime`, or for ever. Nothing comes of
it if the deadline cannot be told. -/
def set (store : Store) (now : Nat) (key : String) (value : Bytes) (lifetime : Option Nat) :
    Option Store :=
  (deadline? now lifetime).map fun deadline => store.replace key ⟨value, deadline⟩

def contains (store : Store) (now : Nat) (key : String) : Bool :=
  (store.stored? key).any (Entry.isLive now)

/-! ## Looking up

A look-up has two steps. Others may act in between, so the second step looks again before it
drops an entry. -/

inductive Found
  | value (bytes : Bytes)
  | expired
  | absent
deriving DecidableEq, Repr

def find (store : Store) (now : Nat) (key : String) : Found :=
  match store.stored? key with
  | some entry => if entry.isLive now then .value entry.value else .expired
  | none => .absent

/-- The second step, taken if the first one found an expired entry. -/
def evict (store : Store) (now : Nat) (key : String) : Store :=
  if (store.stored? key).any (fun entry => !entry.isLive now) then store.delete key else store

def get (store : Store) (now : Nat) (key : String) : Option Bytes × Store :=
  match store.find now key with
  | .value bytes => (some bytes, store)
  | .expired => (none, store.evict now key)
  | .absent => (none, store)

end Store

end LendingPool
