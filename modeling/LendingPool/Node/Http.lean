import LendingPool.Node.Message
import LendingPool.Node.Url
/-! Requests and replies as they go over the wire. Every exchange has a connection of its own, which
the node closes when it is done. -/

namespace LendingPool

def Host.toText : Host → String
  | domain name => String.ofList name
  | ipv4 address =>
      ".".intercalate ((Bytes.ofNat 4 address).map fun byte => toString byte.toNat)
  | ipv6 groups =>
      ":".intercalate (groups.map fun group => String.ofList (Nat.toDigits 16 group))

namespace NodeUrl

/-- The host as requests name it. An address of eight groups stands in brackets. -/
def authority (url : NodeUrl) : String :=
  let host := match url.host with
    | some (.ipv6 groups) => "[" ++ (Host.ipv6 groups).toText ++ "]"
    | some host => host.toText
    | none => ""
  match url.service with
  | some service => host ++ ":" ++ toString service
  | none => host

def toText (url : NodeUrl) : String :=
  String.ofList url.scheme ++ "://" ++ url.authority ++ String.ofList url.target

def post (url : NodeUrl) (body : String) : String :=
  "\r\n".intercalate [
    "POST " ++ String.ofList url.target ++ " HTTP/1.1",
    "host: " ++ url.authority,
    "content-type: application/json",
    "content-length: " ++ toString body.utf8ByteSize,
    "connection: close",
    "",
    body]

end NodeUrl

/-- A response of the web. Names of headers are in lower case. -/
structure HttpResponse where
  status : Nat
  headers : List (String × String)
  body : Bytes
deriving DecidableEq, Repr

namespace HttpResponse

def takeLine : Bytes → Bytes × Bytes
  | [] => ([], [])
  | 0x0D :: 0x0A :: rest => ([], rest)
  | byte :: rest =>
      let parts := takeLine rest
      (byte :: parts.1, parts.2)

theorem length_takeLine (bytes : Bytes) : (takeLine bytes).2.length ≤ bytes.length := by
  fun_induction takeLine bytes with
  | case1 => exact Nat.le_refl 0
  | case2 rest => exact Nat.le_add_right rest.length 2
  | case3 byte rest other parts shorter => exact Nat.le_succ_of_le shorter

theorem length_takeLine_of_ne_nil {bytes : Bytes} (given : bytes ≠ []) :
    (takeLine bytes).2.length < bytes.length := by
  fun_cases takeLine bytes with
  | case1 => exact absurd rfl given
  | case2 rest => exact Nat.lt_add_of_pos_right (n := rest.length) (k := 2) (by decide)
  | case3 byte rest => exact Nat.lt_succ_of_le (length_takeLine rest)

def lineText (line : Bytes) : String :=
  String.ofList (line.map fun byte => Char.ofNat byte.toNat)

def trimmed (text : List Char) : List Char :=
  ((text.dropWhile (· == ' ')).reverse.dropWhile (· == ' ')).reverse

def header (line : Bytes) : String × String :=
  let (name, value) := Digits.splitAt ':' (lineText line).toList
  (String.ofList (name.map Char.toLower), String.ofList (trimmed (value.getD [])))

def takeHeaders (bytes : Bytes) : List (String × String) × Bytes :=
  if given : bytes = [] then ([], [])
  else
    match h : takeLine bytes with
    | ([], rest) => ([], rest)
    | (line, rest) =>
        have : rest.length < bytes.length := by
          simpa [h] using length_takeLine_of_ne_nil given
        let (headers, body) := takeHeaders rest
        (header line :: headers, body)
termination_by bytes.length

/-- A body in chunks. Each stands behind a line with its length, and one of length zero is last. -/
def joinChunks (bytes : Bytes) : Bytes :=
  if _ : bytes = [] then []
  else
    let digits := (lineText (takeLine bytes).1).toList.takeWhile fun c => (Bytes.hexValue? c).isSome
    let length := digits.foldl (fun total c => total * 16 + (Bytes.hexValue? c).getD 0) 0
    if length = 0 then []
    else (takeLine bytes).2.take length ++ joinChunks ((takeLine bytes).2.drop (length + 2))
termination_by bytes.length
decreasing_by
  have : (takeLine bytes).2.length < bytes.length := length_takeLine_of_ne_nil ‹_›
  rw [List.length_drop]
  omega

def parse? (bytes : Bytes) : Option HttpResponse := do
  let (line, rest) := takeLine bytes
  let _ :: status :: _ := splitAll ' ' (lineText line).toList | none
  let status ← Digits.value? status
  let (headers, body) := takeHeaders rest
  let body := if headers.lookup "transfer-encoding" = some "chunked" then joinChunks body else body
  return ⟨status, headers, body⟩

end HttpResponse

def NodeReply.ofBytes (bytes : Bytes) : NodeReply :=
  match HttpResponse.parse? bytes with
  | some response => .ofResponse response.status ((Bytes.toText? response.body).getD "")
  | none => .error (.unreachable "the answer is not a response of the web")

end LendingPool
