import LendingPool.Cache
import LendingPool.Chain.Query
/-! Token metadata that is asked for once and then remembered for a while. Decimals and names are
remembered. Everything else can change from one transaction to the next and is always read. -/

namespace LendingPool

variable {m : Type → Type} [Monad m] {α : Type}

structure Remembered (α : Type) where
  scope : String
  read : Json → Option α
  write : α → Json

def rememberedDecimals : Remembered UInt8 where
  scope := "decimals"
  read value := value.nat?.bind fun value =>
    if value < 256 then some (UInt8.ofNat value) else none
  write value := .ofNat value.toNat

def rememberedName : Remembered String where
  scope := "name"
  read := Json.string?
  write := .string

/-- Answers from the cache. A cache that cannot be read is passed over, but one that cannot be
written to is a failure. -/
def Remembered.recall (kind : Remembered α) (lifetime : Nat) (token : Address)
    (ask : m (Except ServiceFault α)) : StateT Cache m (Except ServiceFault α) := do
  let (found, cache) := Cache.lookup kind.read kind.scope token.checksum (← get)
  set cache
  if let .ok (some value) := found then return .ok value
  match ← ask with
  | .error fault => return .error fault
  | .ok value =>
      let (stored, cache) :=
        Cache.put kind.scope token.checksum (kind.write value) (some lifetime) (← get)
      set cache
      match stored with
      | .ok () => return .ok value
      | .error fault => return .error (.cache fault.message)

/-- Puts a cache in front of a handler. Entries live for `lifetime` milliseconds. -/
def rememberMetadata (lifetime : Nat) (reply : (query : ChainQuery) → m query.Reply) :
    (query : ChainQuery) → StateT Cache m query.Reply
  | .decimals token => rememberedDecimals.recall lifetime token (reply (.decimals token))
  | .name token => rememberedName.recall lifetime token (reply (.name token))
  | query => reply query

end LendingPool
