import LendingPool.Chain.Query
/-! Addresses as callers give them: typed out, or as a name that somebody has to resolve. -/

namespace LendingPool

/-- Who resolves names. Without a resolver no name has an address. -/
inductive Resolver
  | absent
  | onChain
deriving DecidableEq, Repr

/-- A name has a point in it and does not begin like an address. -/
def isName (text : String) : Bool :=
  !(['0', 'x'].isPrefixOf text.toList) && text.toList.contains '.'

namespace Resolver

def resolve (resolver : Resolver) (name : String) : Planning Address :=
  match resolver with
  | absent => throw (.input (.unresolvableName name))
  | onChain => do
      match ← Planning.read (.resolve name) with
      | some address => pure address
      | none => throw (.input (.unresolvableName name))

def validate (resolver : Resolver) (text : String) : Planning Address :=
  if isName text then resolver.resolve text else Planning.check (Address.parse text)

def validateOr (resolver : Resolver) (text : Option String) (default : Address) :
    Planning Address :=
  match text with
  | some text => resolver.validate text
  | none => pure default

/-- Validates a list that must not be empty, up to the first fault. -/
def validateAll (resolver : Resolver) (field : String) (texts : List String) :
    Planning (List Address) :=
  if texts.isEmpty then throw (.input (.emptyList field)) else texts.mapM resolver.validate

end Resolver

end LendingPool
