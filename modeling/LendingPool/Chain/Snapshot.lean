import LendingPool.Chain.Query
/-! The state of a chain at one moment, and the answers that it gives. -/

namespace LendingPool

structure TokenMetadata where
  name : String
  decimals : UInt8
deriving DecidableEq, Repr

abbrev AllowanceKey := Address × Address × Address

/-- Where a key has several entries, the last one counts. A kind of query that is listed among
the failures always fails. -/
structure Snapshot where
  tokens : List (Address × TokenMetadata) := []
  allowances : List (AllowanceKey × Word) := []
  borrowAllowances : List (AllowanceKey × Word) := []
  nonces : List ((Address × Address) × Word) := []
  names : List (String × Option Address) := []
  reserves : List (Address × UInt16) := []
  chainId : UInt64 := 31337
  gasPrice : BitVec 128 := 2000000000
  failures : List (String × ServiceFault) := []

namespace Snapshot

def latest? {κ α : Type} [BEq κ] (key : κ) (entries : List (κ × α)) : Option α :=
  entries.reverse.lookup key

def metadata (snapshot : Snapshot) (token : Address) : Except ServiceFault TokenMetadata :=
  match latest? token snapshot.tokens with
  | some metadata => .ok metadata
  | none => .error (.contract s!"{token} is not a token")

def find (snapshot : Snapshot) : (query : ChainQuery) → query.Reply
  | .decimals token => TokenMetadata.decimals <$> snapshot.metadata token
  | .name token => TokenMetadata.name <$> snapshot.metadata token
  | .allowance token owner spender =>
      .ok ((latest? (token, owner, spender) snapshot.allowances).getD 0)
  | .borrowAllowance debtToken delegator delegatee =>
      .ok ((latest? (debtToken, delegator, delegatee) snapshot.borrowAllowances).getD 0)
  | .nonce token owner => .ok (latest? (token, owner) snapshot.nonces)
  | .chainId => .ok snapshot.chainId
  | .gasPrice => .ok snapshot.gasPrice
  | .resolve name => .ok ((latest? name snapshot.names).getD none)
  | .reserveId asset =>
      match latest? asset snapshot.reserves with
      | some id => .ok id
      | none => .error (.contract s!"{asset} is not a reserve")

def reply (snapshot : Snapshot) (query : ChainQuery) : query.Reply :=
  match latest? query.kind snapshot.failures with
  | some fault => .error fault
  | none => snapshot.find query

def record (snapshot : Snapshot) (query : ChainQuery) :
    StateM (List ChainQuery) query.Reply := do
  modify (· ++ [query])
  return snapshot.reply query

end Snapshot

/-- Carries out a computation on a snapshot. Gives its value and the queries made, in order. -/
def Reading.on {α : Type} (snapshot : Snapshot) (reading : Reading α) : α × List ChainQuery :=
  Dialogue.run snapshot.record reading []

end LendingPool
