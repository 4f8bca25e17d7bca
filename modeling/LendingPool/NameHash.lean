import LendingPool.Keccak
import LendingPool.Text.LowerCase
import LendingPool.Text.Split
/-! Hashes of dotted names.

A name is a path in a tree, and its last label stands next to the root. Every node has a hash that
is made from the hash of its parent and the hash of its label. Labels that differ in case only are
the same label. -/

namespace LendingPool

def rootNode : Bytes :=
  List.replicate 32 0

def labelHash (label : List Char) : Bytes :=
  keccak256 (Bytes.ofText (String.ofList (lowerCase label)))

def childNode (parent : Bytes) (label : List Char) : Bytes :=
  keccak256 (parent ++ labelHash label)

/-- The hash of a name. The empty name is the root. -/
def nameHash (name : String) : Bytes :=
  if name.isEmpty then rootNode else (splitAll '.' name.toList).reverse.foldl childNode rootNode

end LendingPool
