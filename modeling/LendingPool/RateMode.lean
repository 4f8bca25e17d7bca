import LendingPool.Fault.Input
/-! The kinds of debt, and how large an approval is to be. -/

namespace LendingPool

/-- The kind of interest that a debt accrues. `noRate` is for calls that do not tell debts
apart. -/
inductive RateMode
  | noRate
  | stableRate
  | variableRate
deriving DecidableEq, Repr, Inhabited

namespace RateMode

def name : RateMode → String
  | noRate => "none"
  | stableRate => "stable"
  | variableRate => "variable"

def tag : RateMode → UInt8
  | noRate => 0
  | stableRate => 1
  | variableRate => 2

def toWord (mode : RateMode) : Word :=
  Word.ofNat mode.tag.toNat

/-- The mode of an action on a debt, which has to say which debt it means. -/
def requireDebt (mode : RateMode) (field : String) : Except InputFault RateMode :=
  if mode = noRate then .error (.invalidValue field .notDebtMode) else .ok mode

end RateMode

inductive ApprovalPolicy
  | exact
  | max
deriving DecidableEq, Repr, Inhabited

def ApprovalPolicy.name : ApprovalPolicy → String
  | exact => "exact"
  | max => "max"

end LendingPool
