import LendingPool.CommandLine.Program
import LendingPool.Node.Http
import Std.Async.DNS
import Std.Async.TCP
import Std.Internal.UV.System
import Std.Time
/-! The program itself: it reads files, talks to the node, and prints. -/

namespace LendingPool

open Std.Async

/-! ## Files -/

/-- The number of an error, which may come with its sign changed. -/
def errorNumber (code : UInt32) : UInt32 :=
  if code < 0x80000000 then code else 0 - code

/-- What is found under a path. Nothing is found below a file. -/
def readFileContent (path : String) : IO FileContent := do
  try
    let content ← IO.FS.readBinFile path
    match String.fromUTF8? content with
    | some text => return .text text
    | none => return .unreadable .notText
  catch
    | .noFileOrDirectory .. => return .absent
    | .inappropriateType _ code reason | .permissionDenied _ code reason =>
        let number := errorNumber code
        if number = 20 then return .absent
        else return .unreadable (.refused s!"{reason} (os error {number})")
    | fault => return .unreadable (.refused fault.toString)

/-! ## Log -/

/-- Logs go to the standard error stream, because the output goes to the other one. -/
def writeLog (json : Bool) (line : LogLine) : IO Unit := do
  let now ← Std.Time.Timestamp.now
  let time := (Std.Time.PlainDateTime.ofWallTime (now.toWallTime .zero)).toLeanDateTimeString
  let time := (time.take 26).toString ++ "Z"
  if json then
    IO.eprintln (Json.object [("timestamp", .string time), ("level", .string "INFO"),
      ("fields", line.toJson), ("target", .string (String.ofList LogFilter.program))]).toText
  else IO.eprintln s!"{time}  INFO {String.ofList LogFilter.program}: {line.toText}"

/-! ## The node -/

/-- Everything that arrives until the other side closes the connection. -/
partial def receiveAll (socket : TCP.Socket.Client) (received : ByteArray) : Async ByteArray := do
  match ← socket.recv? 65536 with
  | some chunk => receiveAll socket (received ++ chunk)
  | none => return received

def exchange (url : NodeUrl) (body : String) : Async ByteArray := do
  let some host := url.host | throw (IO.userError "the URL has no host")
  let service := url.service.getD 80
  let addresses ← DNS.getAddrInfo host.toText (toString service)
  let some address := addresses[0]? | throw (IO.userError "the host has no address")
  let socket ← TCP.Socket.Client.mk
  socket.connect (match address with
    | .v4 address => .v4 ⟨address, UInt16.ofNat service⟩
    | .v6 address => .v6 ⟨address, UInt16.ofNat service⟩)
  socket.send (url.post body).toUTF8
  let received ← receiveAll socket .empty
  socket.shutdown
  return received

/-- Only connections without encryption are made. -/
def askNode (url : NodeUrl) (request : NodeRequest) : IO NodeReply := do
  let unreachable : NodeReply :=
    .error (.unreachable s!"error sending request for url ({url.toText})")
  if url.scheme ≠ "http".toList then return unreachable
  try
    let received ← (exchange url (request.toJson 0).toText).block
    return .ofBytes received.toList
  catch _ => return unreachable

/-! ## Running -/

def carryOutErrand : (errand : Errand) → IO errand.Answer
  | .file path => readFileContent path
  | .ask url request => askNode url request
  | .log json line => writeLog json line

end LendingPool

open LendingPool in
def main (arguments : List String) : IO UInt32 := do
  let environment := (← Std.Internal.UV.System.osEnviron).toList
  let outcome ← (runProgram environment arguments).run carryOutErrand
  match outcome with
  | .usage .help => IO.println UsageFault.help.message
  | .usage fault => IO.eprintln fault.message
  | .failed report => IO.eprintln report.toText
  | .succeeded output => IO.print output
  return outcome.exitCode.toUInt32
