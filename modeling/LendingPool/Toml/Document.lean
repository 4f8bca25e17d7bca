import LendingPool.Toml.Number
/-! TOML documents. -/

namespace LendingPool.Toml

/-! ## Tables under construction

Most tables may be added to from several places, but each may be opened only once by a header, and
a path of keys may not reach into a table that a header has opened. -/

/-- How a table came about: by a header, on the way to another table's header, or on the way of a
path of keys. -/
inductive Origin
  | header
  | passed
  | path
deriving DecidableEq, Repr

inductive Node
  | value (value : Toml)
  | table (origin : Origin) (nodes : List (String × Node))
  | tables (earlier : List (List (String × Node))) (last : List (String × Node))

abbrev Nodes := List (String × Node)

namespace Node

def put (key : String) (node : Node) : Nodes → Nodes
  | [] => [(key, node)]
  | (other, present) :: nodes =>
      if key = other then (key, node) :: nodes else (other, present) :: put key node nodes

/-- Changes the table at the end of a path. Tables on the way are made if need be. The last of
several tables under one key is the one meant. -/
def modify (keys : Bool) (change : Origin → Nodes → Option Nodes) :
    (path : List String) → Origin → Nodes → Option Nodes
  | [], origin, nodes => change origin nodes
  | key :: path, _, nodes => do
      match nodes.lookup key with
      | none =>
          let origin := if keys then .path else .passed
          return put key (.table origin (← modify keys change path origin [])) nodes
      | some (.value _) => none
      | some (.tables earlier last) =>
          return put key (.tables earlier (← modify keys change path .header last)) nodes
      | some (.table origin inner) =>
          guard (!keys || origin ≠ .header)
          return put key (.table origin (← modify keys change path origin inner)) nodes

/-- Sets a value at the end of a path of keys. All tables on the way have to come from such
paths. -/
def setValue (path : List String) (value : Toml) (nodes : Nodes) : Option Nodes := do
  let key ← path.getLast?
  let tables := path.dropLast
  let set (origin : Origin) (nodes : Nodes) : Option Nodes := do
    guard ((origin == .path) == !tables.isEmpty)
    guard (nodes.lookup key).isNone
    return put key (.value value) nodes
  modify true set tables .header nodes

def openTable (path : List String) (nodes : Nodes) : Option Nodes := do
  let key ← path.getLast?
  let opened (_ : Origin) (nodes : Nodes) : Option Nodes :=
    match nodes.lookup key with
    | none => some (put key (.table .header []) nodes)
    | some (.table .passed inner) => some (put key (.table .header inner) nodes)
    | some _ => none
  modify false opened path.dropLast .header nodes

def openNext (path : List String) (nodes : Nodes) : Option Nodes := do
  let key ← path.getLast?
  let opened (_ : Origin) (nodes : Nodes) : Option Nodes :=
    match nodes.lookup key with
    | none => some (put key (.tables [] []) nodes)
    | some (.tables earlier last) => some (put key (.tables (earlier ++ [last]) []) nodes)
    | some _ => none
  modify false opened path.dropLast .header nodes

mutual

def toToml : Node → Toml
  | value given => given
  | table _ nodes => .ofEntries (entries nodes)
  | tables earlier last => .array (tomls earlier ++ [.ofEntries (entries last)])

def entries : List (String × Node) → List (String × Toml)
  | [] => []
  | (key, node) :: nodes => (key, toToml node) :: entries nodes

def tomls : List (List (String × Node)) → List Toml
  | [] => []
  | nodes :: rest => .ofEntries (entries nodes) :: tomls rest

end

end Node

namespace Grammar

open Scanner

/-! ## Values -/

def boolean : Scanner Toml :=
  (do expectAll ['t', 'r', 'u', 'e']; return .boolean true) <|>
    (do expectAll ['f', 'a', 'l', 's', 'e']; return .boolean false)

def arrayOf (item : Scanner Toml) : Scanner Toml := do
  expect '['
  let items ← opt do
    let items ← separated (do spacing; let item ← item; spacing; return item) (expect ',')
    discard (opt (expect ','))
    return items
  spacing
  expect ']'
  return .array (items.getD [])

def pairOf (item : Scanner Toml) : Scanner (List String × Toml) := do
  let path ← keyPath
  expect '='
  blanks
  let value ← item
  blanks
  return (path, value)

def inlineTableOf (item : Scanner Toml) : Scanner Toml := do
  expect '{'
  let pairs ← opt (separated (pairOf item) (expect ','))
  blanks
  expect '}'
  match (pairs.getD []).foldlM (fun nodes (path, value) => Node.setValue path value nodes) [] with
  | some nodes => return .ofEntries (Node.entries nodes)
  | none => failure

def scalar : Scanner Toml := do
  match ← peek with
  | some '"' | some '\'' => .string <$> text
  | some 't' | some 'f' => boolean
  | _ => number

def value : (levels : Nat) → Scanner Toml
  | 0 => scalar
  | levels + 1 => do
      match ← peek with
      | some '[' => arrayOf (value levels)
      | some '{' => inlineTableOf (value levels)
      | _ => scalar

/-! ## Lines -/

/-- The table that is open, by the path of its header, and all nodes. -/
structure Building where
  path : List String
  nodes : Nodes

namespace Building

def set (building : Building) (path : List String) (value : Toml) : Option Building := do
  let set (_ : Origin) (nodes : Nodes) : Option Nodes := Node.setValue path value nodes
  return { building with nodes := ← Node.modify false set building.path .header building.nodes }

def header (building : Building) : Scanner Building := do
  expect '['
  match ← opt (expect '[') with
  | some () =>
      let path ← keyPath
      expectAll [']', ']']
      return { path, nodes := ← (Node.openNext path building.nodes).elim failure pure }
  | none =>
      let path ← keyPath
      expect ']'
      return { path, nodes := ← (Node.openTable path building.nodes).elim failure pure }

def line (building : Building) : Scanner Building := do
  blanks
  match ← peek with
  | none => failure
  | some '[' =>
      let building ← building.header
      lineEnd
      return building
  | some '#' | some '\n' | some '\r' =>
      lineEnd
      return building
  | some _ =>
      let (path, value) ← pairOf (value (depthLimit - 1))
      lineEnd
      (building.set path value).elim failure pure

def lines (building : Building) : (limit : Nat) → Scanner Building
  | 0 => pure building
  | limit + 1 => do
      match ← opt building.line with
      | none => pure building
      | some building => building.lines limit

end Building

def document : Scanner Toml := do
  discard (opt (expect '\ufeff'))
  let building ← Building.lines ⟨[], []⟩ (← get).length
  blanks
  endOfText
  return .ofEntries (Node.entries building.nodes)

end Grammar

def parse? (text : String) : Option Toml :=
  (Grammar.document.run text.toList).map (·.1)

end LendingPool.Toml
