import LendingPool.Fault.Input
/-! Everything that can keep an action from being planned. -/

namespace LendingPool

/-- A failure of what the planner reads from: the network, a contract, an answer that cannot be
read, or the cache. The text says what happened. -/
inductive ServiceFault
  | network (text : String)
  | contract (text : String)
  | decode (text : String)
  | cache (text : String)
deriving DecidableEq, Repr

def ServiceFault.message : ServiceFault → String
  | .network text => s!"Network error: {text}"
  | .contract text => s!"Contract call failed: {text}"
  | .decode text => s!"Decode error: {text}"
  | .cache text => s!"Cache error: {text}"

inductive EncodingFault
  | undecodable (calls : String)
  | noLogicalForm (call : String)
  | rateModeOutOfRange (mode : Word)
  | unknownReserve (id : UInt16)
deriving DecidableEq, Repr

def EncodingFault.message : EncodingFault → String
  | .undecodable calls => s!"undecodable {calls} call"
  | .noLogicalForm call => s!"{call} has no logical form"
  | .rateModeOutOfRange mode => s!"rate mode {mode.toDecimal} out of range"
  | .unknownReserve id => s!"unknown reserve id {id.toNat}"

inductive SetupFault
  | notProvided (part : String)
  | unknownGasAction (name : String)
deriving DecidableEq, Repr

def SetupFault.message : SetupFault → String
  | .notProvided part => s!"{part} not provided"
  | .unknownGasAction name => s!"unknown gas limit action '{name}'"

inductive Fault
  | input (fault : InputFault)
  | service (fault : ServiceFault)
  | encoding (fault : EncodingFault)
  | setup (fault : SetupFault)
deriving DecidableEq, Repr

def Fault.message : Fault → String
  | .input fault => fault.message
  | .service fault => fault.message
  | .encoding fault => s!"Encoding error: {fault.message}"
  | .setup fault => s!"Configuration error: {fault.message}"

end LendingPool
