import LendingPool.Address
import LendingPool.Decimal.Decimal96
/-! What can be wrong with what a caller typed. -/

namespace LendingPool

inductive SignatureProblem
  | notHex
  | badParity (recovery : UInt8)
  | badLength
deriving DecidableEq, Repr

def SignatureProblem.message : SignatureProblem → String
  | .notHex => "not hex"
  | .badParity recovery => s!"invalid parity: {recovery.toNat}"
  | .badLength => "expected 64 or 65 bytes"

inductive FieldProblem
  | notWordHex (raw : String)
  | notHex (raw : String)
  | deadlineTooWide (deadline : UInt64)
  | negative (percent : Decimal96)
  | notDebtMode
  | nativeUnsupported
  | nativeNeedsExactAmount
  | notSender (given sender : Address)
  | permitMismatch (raw : String)
  | shorterThanSelector
  | unknownAggregator (selector : Bytes)
deriving DecidableEq, Repr

def FieldProblem.message : FieldProblem → String
  | .notWordHex raw => s!"{raw} is not a bytes32 hex word"
  | .notHex raw => s!"{raw} is not hex"
  | .deadlineTooWide deadline => s!"{deadline.toNat} does not fit 32 bits"
  | .negative percent => s!"{percent} is negative"
  | .notDebtMode => "interest rate mode must be stable or variable"
  | .nativeUnsupported => "native currency is not supported for this action"
  | .nativeNeedsExactAmount => "native repayments must name an exact amount"
  | .notSender given sender => s!"{given} must equal the sender {sender} on this path"
  | .permitMismatch raw => s!"{raw} does not match the action amount"
  | .shorterThanSelector => "shorter than a selector"
  | .unknownAggregator selector => s!"unsupported aggregator selector {Bytes.toHex selector}"

/-- Malformed caller input. Each fault carries the offending value or the field's name. -/
inductive InputFault
  | invalidAddress (raw : String)
  | unresolvableName (name : String)
  | nonPositiveAmount (text : String)
  | amountOverflow (text : String)
  | emptyList (field : String)
  | missingField (field : String)
  | invalidSignature (blob : String) (problem : SignatureProblem)
  | invalidValue (field : String) (problem : FieldProblem)
deriving DecidableEq, Repr

def InputFault.message : InputFault → String
  | .invalidAddress raw => s!"Invalid address: {raw}"
  | .unresolvableName name => s!"Unresolvable name: {name}"
  | .nonPositiveAmount text => s!"Amount must be a positive decimal: {text}"
  | .amountOverflow text => s!"Amount out of range: {text}"
  | .emptyList field => s!"List must not be empty: {field}"
  | .missingField field => s!"Missing required field: {field}"
  | .invalidSignature blob problem => s!"Invalid signature: {blob}: {problem.message}"
  | .invalidValue field problem => s!"Invalid value for field '{field}': {problem.message}"

def Address.parse (raw : String) : Except InputFault Address :=
  match Address.ofText? raw with
  | some address => .ok address
  | none => .error (.invalidAddress raw)

end LendingPool
