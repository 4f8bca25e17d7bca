import LendingPool.Decimal.Digits
import LendingPool.Text.Split
/-! Which log lines are shown.

A filter is a list of directives between commas. A directive is a level, a target, or both with an
equals sign between them. The level of the longest target that the name of the program begins with
counts. -/

namespace LendingPool

inductive LogLevel
  | off
  | error
  | warn
  | info
  | debug
  | trace
deriving DecidableEq, Repr

namespace LogLevel

def all : List LogLevel := [off, error, warn, info, debug, trace]

def name : LogLevel → List Char
  | off => ['o', 'f', 'f']
  | error => ['e', 'r', 'r', 'o', 'r']
  | warn => ['w', 'a', 'r', 'n']
  | info => ['i', 'n', 'f', 'o']
  | debug => ['d', 'e', 'b', 'u', 'g']
  | trace => ['t', 'r', 'a', 'c', 'e']

def showsInfo : LogLevel → Bool
  | off | error | warn => false
  | info | debug | trace => true

/-- A name in any case, or a number from zero for the first level. -/
def ofText? (text : List Char) : Option LogLevel :=
  let digits := match text with
    | '+' :: digits => digits
    | digits => digits
  match Digits.value? digits with
  | some place => all[place]?
  | none => all.find? fun level => level.name == text.map Char.toLower

end LogLevel

/-- A directive for all targets has an empty target. One for spans says nothing about lines outside
of spans. -/
inductive LogDirective
  | shows (target : List Char) (level : LogLevel)
  | inSpan
deriving DecidableEq, Repr

namespace LogDirective

def isTargetCharacter (c : Char) : Bool :=
  c.isAlphanum || c == '_' || c == ':' || c == '-'

/-- Without a level everything from the target is shown. -/
def ofText? (text : List Char) : Option LogDirective := do
  let (target, level) := Digits.splitAt '=' text
  let level? : List Char → Option LogLevel
    | [] => some .trace
    | level => LogLevel.ofText? level
  if target.contains '[' then
    let span := target.dropWhile (· != '[')
    guard ((target.takeWhile (· != '[')).all isTargetCharacter && span.getLast? == some ']')
    let _ ← level? (level.getD [])
    return .inSpan
  else
    guard (!target.isEmpty && target.all isTargetCharacter)
    match level with
    | some level => return .shows target (← level? level)
    | none => match LogLevel.ofText? target with
      | some level => return .shows [] level
      | none => return .shows target .trace

def reach? (program : List Char) : LogDirective → Option (Nat × LogLevel)
  | shows target level => if target.isPrefixOf program then some (target.length, level) else none
  | inSpan => none

end LogDirective

namespace LogFilter

def program : List Char := ['p', 'o', 'o', 'l', '_', 't', 'x']

def directives (text : String) : List (Option LogDirective) :=
  ((splitAll ',' text.toList).filter (!·.isEmpty)).map LogDirective.ofText?

/-- The level that counts. Of two directives for the same target the later one does, and without
any only errors are shown. -/
def level (directives : List LogDirective) : LogLevel :=
  let found := (directives.filterMap (LogDirective.reach? program)).foldl
    (fun (best : Nat × LogLevel) next => if best.1 ≤ next.1 then next else best) (0, .error)
  found.2

/-- A filter from the environment counts if it is understood as a whole. Otherwise the level that
was asked for does, and what is not understood of it is passed over. -/
def showsInfo (fromEnvironment : Option String) (asked : String) : Bool :=
  match fromEnvironment.bind fun text => (directives text).mapM id with
  | some directives => (level directives).showsInfo
  | none => (level ((directives asked).filterMap id)).showsInfo

end LogFilter

end LendingPool
