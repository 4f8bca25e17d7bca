import LendingPool.Address
import LendingPool.Dialogue
import LendingPool.Json.Parser
import LendingPool.Json.Printer
/-! Requests to a node of the chain, and its replies. -/

namespace LendingPool

inductive NodeRequest
  | call (target : Address) (data : Bytes)
  | chainId
  | gasPrice
deriving DecidableEq, Repr

namespace NodeRequest

def method : NodeRequest → String
  | call .. => "eth_call"
  | chainId => "eth_chainId"
  | gasPrice => "eth_gasPrice"

/-- A call is made on the state after the latest block. -/
def parameters : NodeRequest → List Json
  | call target data => [
      .object [("to", .string target.toHex), ("input", .string (Bytes.toHex data))],
      .string "latest"]
  | chainId | gasPrice => []

def toJson (request : NodeRequest) (id : Nat) : Json := .object [
  ("method", .string request.method),
  ("params", .array request.parameters),
  ("id", .ofNat id),
  ("jsonrpc", .string "2.0")]

end NodeRequest

/-- Why a request has no result: the node was not reached, or it refused the request, or what it
sent cannot be read. -/
inductive NodeFault
  | unreachable (text : String)
  | refused (code : Int) (message : String) (data : Option Json)
  | unreadable
deriving Repr

namespace NodeFault

def message : NodeFault → String
  | unreachable text => text
  | refused code message data =>
      let suffix := match data with
        | some data => ", data: " ++ data.toText
        | none => ""
      s!"server returned an error response: error code {code}: {message}" ++ suffix
  | unreadable => "deserialization error"

def isUnreachable : NodeFault → Bool
  | unreachable _ => true
  | refused .. | unreadable => false

end NodeFault

abbrev NodeReply := Except NodeFault Json

abbrev NodeDialogue := Dialogue fun _ : NodeRequest => NodeReply

/-! ## Reading replies -/

/-- A code of 64 bits, and a message that may be left out. No member may be given twice. -/
def NodeFault.ofJson? (value : Json) : Option NodeFault := do
  let members ← value.members?
  let given (name : String) : Option (Option Json) :=
    match members.filter fun member => member.1 == name with
    | [] => some none
    | [(_, value)] => some (some value)
    | _ => none
  let some (.number (.integer code)) ← given "code" | none
  guard (code < 2 ^ 63)
  let message ← match ← given "message" with
    | none => some ""
    | some value => value.string?
  return .refused code message (← given "data")

namespace NodeReply

def ofJson (value : Json) : NodeReply :=
  let members := value.members?.getD []
  match members.filter fun member => member.1 == "result" || member.1 == "error" with
  | [("result", result)] => .ok result
  | [("error", error)] => .error ((NodeFault.ofJson? error).getD .unreadable)
  | _ => .error .unreadable

/-- The reply in a response of the web. Any status but 200 means that the node was not reached. -/
def ofResponse (status : Nat) (body : String) : NodeReply :=
  if status ≠ 200 then .error (.unreachable s!"HTTP error {status} with body: {body}")
  else ((Json.parse? body).map ofJson).getD (.error .unreadable)

def result {α : Type} (read : Json → Option α) : NodeReply → Except NodeFault α
  | .ok value => match read value with
    | some value => .ok value
    | none => .error .unreadable
  | .error fault => .error fault

end NodeReply

/-! ## Reading results -/

/-- A byte string is hexadecimal text, or an array of bytes. -/
def Json.byteString? : Json → Option Bytes
  | .string text => Bytes.ofHex? text
  | .array items => items.mapM fun item => do
      let value ← item.nat?
      guard (value < 256)
      return UInt8.ofNat value
  | _ => none

def digitValue? (c : Char) : Option Nat :=
  if c.isDigit then some (c.toNat - '0'.toNat)
  else if c.isAlpha then some (c.toLower.toNat - 'a'.toNat + 10)
  else none

/-- Underscores between digits do not count, and no digits at all are zero. -/
def numberInBase? (base : Nat) (digits : List Char) : Option Nat :=
  (digits.filter (· != '_')).foldlM (fun total c => do
    let digit ← digitValue? c
    guard (digit < base)
    return total * base + digit) 0

/-- A number as text. A mark in front of the digits tells their base. -/
def quantity? : List Char → Option Nat
  | '0' :: 'x' :: digits | '0' :: 'X' :: digits => numberInBase? 16 digits
  | '0' :: 'o' :: digits | '0' :: 'O' :: digits => numberInBase? 8 digits
  | '0' :: 'b' :: digits | '0' :: 'B' :: digits => numberInBase? 2 digits
  | digits => numberInBase? 10 digits

def Json.quantity? (bound : Nat) (value : Json) : Option Nat := do
  let number ← match value with
    | .string text => LendingPool.quantity? text.toList
    | value => value.nat?
  guard (number < bound)
  return number

end LendingPool
