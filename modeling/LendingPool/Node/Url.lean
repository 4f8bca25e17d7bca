import LendingPool.Bytes
import LendingPool.Decimal.Digits
import LendingPool.Text.LowerCase
import LendingPool.Text.Split
/-! Where a node is. A URL has a scheme, and if that is one of the web's, it has a host as well. -/

namespace LendingPool

inductive Host
  | domain (name : List Char)
  | ipv4 (address : Nat)
  | ipv6 (groups : List Nat)
deriving DecidableEq, Repr

/-- The service is the number under which the host answers, and the target is the path together with
the query. -/
structure NodeUrl where
  scheme : List Char
  host : Option Host
  service : Option Nat
  target : List Char
deriving DecidableEq, Repr

namespace Host

/-! ## Addresses of four bytes -/

/-- A number in such an address: hexadecimal after `0x`, octal after `0`, else decimal. -/
def number? : List Char → Option Nat
  | '0' :: 'x' :: digits | '0' :: 'X' :: digits =>
      (digits.mapM Bytes.hexValue?).map (·.foldl (fun total digit => total * 16 + digit) 0)
  | '0' :: digits =>
      if digits.all fun c => '0' ≤ c ∧ c ≤ '7' then
        some (digits.foldl (fun total c => total * 8 + (c.toNat - '0'.toNat)) 0)
      else none
  | digits => Digits.value? digits

def pointedParts (name : List Char) : List (List Char) :=
  let parts := splitAll '.' name
  if 1 < parts.length && parts.getLast? == some [] then parts.dropLast else parts

/-- What looks like an address of four bytes has to be one. -/
def looksNumeric (name : List Char) : Bool :=
  match (pointedParts name).getLast? with
  | some last => !last.isEmpty && (Digits.all last || (number? last).isSome)
  | none => false

/-- What the numbers stand for. Each is a byte, but the last one fills all places that are left. -/
def joinNumbers? : (places : Nat) → List Nat → Option Nat
  | _, [] => none
  | places, [last] => if 0 < places ∧ last < 256 ^ places then some last else none
  | 0, _ :: _ => none
  | places + 1, first :: rest => do
      guard (first < 256)
      return first * 256 ^ places + (← joinNumbers? places rest)

def ipv4? (name : List Char) : Option Nat := do
  joinNumbers? 4 (← (pointedParts name).mapM number?)

/-! ## Addresses of eight groups -/

def group? (digits : List Char) : Option Nat := do
  guard (!digits.isEmpty && digits.length ≤ 4)
  return (← digits.mapM Bytes.hexValue?).foldl (fun total digit => total * 16 + digit) 0

/-- Four bytes in decimal without leading zeros, as two groups. -/
def embedded? (text : List Char) : Option (List Nat) := do
  let [a, b, c, d] ← (splitAll '.' text).mapM fun part => do
    guard (part.length = 1 || part.head? ≠ some '0')
    let byte ← Digits.value? part
    guard (byte < 256)
    return byte
    | none
  return [a * 256 + b, c * 256 + d]

/-- Groups between colons. The last two may be written as four bytes. -/
def groups? : List (List Char) → Option (List Nat)
  | [] => some []
  | [last] => if last.contains '.' then embedded? last else (group? last).map ([·])
  | first :: rest => return (← group? first) :: (← groups? rest)

def splitAtGap : List Char → List Char × Option (List Char)
  | ':' :: ':' :: rest => ([], some rest)
  | c :: rest =>
      let (before, after) := splitAtGap rest
      (c :: before, after)
  | [] => ([], none)

/-- Eight groups. One run of zero groups may be left out between two colons. -/
def ipv6? (text : List Char) : Option (List Nat) := do
  let side (text : List Char) : Option (List Nat) :=
    if text.isEmpty then some [] else groups? (splitAll ':' text)
  match splitAtGap text with
  | (all, none) =>
      let groups ← groups? (splitAll ':' all)
      guard (groups.length = 8)
      return groups
  | (before, some after) =>
      guard (!before.contains '.')
      let before ← side before
      let after ← side after
      guard (before.length + after.length < 8)
      return before ++ List.replicate (8 - before.length - after.length) 0 ++ after

/-! ## Hosts -/

def unescape : Bytes → Bytes
  | 0x25 :: high :: low :: rest =>
      let digit (byte : UInt8) := Bytes.hexValue? (Char.ofNat byte.toNat)
      match digit high, digit low with
      | some high, some low => UInt8.ofNat (high * 16 + low) :: unescape rest
      | _, _ => 0x25 :: unescape (UInt8.ofNat high.toNat :: low :: rest)
  | byte :: rest => byte :: unescape rest
  | [] => []
termination_by bytes => bytes.length

def isForbidden (c : Char) : Bool :=
  c == '\x00' || c == ' ' || "#/:<>?@[\\]^|".toList.contains c

def isForbiddenInName (c : Char) : Bool :=
  isForbidden c || c < ' ' || c == '%' || c == '\x7f'

def ofText? (text : List Char) : Option Host :=
  match text with
  | '[' :: rest => do
      guard (rest.getLast? = some ']')
      return .ipv6 (← ipv6? rest.dropLast)
  | text => do
      let name ← Bytes.toText? (unescape (Bytes.ofText (String.ofList text)))
      let name := lowerCase name.toList
      guard (!name.isEmpty && !name.any isForbiddenInName)
      if looksNumeric name then return .ipv4 (← ipv4? name) else return .domain name

/-- A host of any other scheme may be missing, and its letters keep their case. -/
def ofOpaque? (text : List Char) : Option (Option Host) :=
  match text with
  | [] => some none
  | '[' :: _ => some <$> ofText? text
  | text => if text.any isForbidden then none else some (some (.domain text))

end Host

namespace NodeUrl

/-- The text without blanks and control characters at its ends, and without line breaks and tabs
anywhere. -/
def trimmed (text : List Char) : List Char :=
  let inner := ((text.dropWhile (· ≤ ' ')).reverse.dropWhile (· ≤ ' ')).reverse
  inner.filter fun c => c != '\t' && c != '\n' && c != '\r'

def takeScheme? (text : List Char) : Option (List Char × List Char) := do
  let isPart (c : Char) := c.isAlphanum || c == '+' || c == '-' || c == '.'
  guard (text.head?.any Char.isAlpha)
  let ':' :: rest := text.dropWhile isPart | none
  return ((text.takeWhile isPart).map Char.toLower, rest)

def webServices : List (List Char × Nat) := [
  (['h', 't', 't', 'p'], 80), (['h', 't', 't', 'p', 's'], 443), (['w', 's'], 80),
  (['w', 's', 's'], 443), (['f', 't', 'p'], 21)]

/-- The host and the service, which stand apart at the first colon outside of brackets. -/
def splitService (inside : Bool) : List Char → List Char × Option (List Char)
  | [] => ([], none)
  | c :: rest =>
      if c == ':' && !inside then ([], some rest)
      else
        let (host, service) := splitService (c == '[' || inside && c != ']') rest
        (c :: host, service)

/-- A number of 16 bits. The scheme's own need not be given, and counts as not given if it is. -/
def service? (scheme : List Char) : Option (List Char) → Option (Option Nat)
  | none | some [] => some none
  | some digits => do
      let service ← Digits.value? digits
      guard (service < 65536)
      return if webServices.lookup scheme = some service then none else some service

/-- What follows the last `@`, before which users identify themselves. -/
def afterUser (authority : List Char) : List Char :=
  (authority.reverse.takeWhile (· != '@')).reverse

def parse? (text : String) : Option NodeUrl := do
  let (scheme, rest) ← takeScheme? (trimmed text.toList)
  let isEnd (c : Char) := c == '/' || c == '?' || c == '#'
  let path (text : List Char) : List Char :=
    let path := text.takeWhile (· != '#')
    if path.head? = some '/' then path else '/' :: path
  match webServices.lookup scheme with
  | some _ =>
      let rest := rest.dropWhile fun c => c == '/' || c == '\\'
      let isEnd (c : Char) := isEnd c || c == '\\'
      let (host, service) := splitService false (afterUser (rest.takeWhile (!isEnd ·)))
      return {
        scheme, host := some (← Host.ofText? host), service := ← service? scheme service
        target := path (rest.dropWhile (!isEnd ·)) }
  | none =>
      match rest with
      | '/' :: '/' :: rest =>
          let authority := rest.takeWhile (!isEnd ·)
          let (host, service) := splitService false (afterUser authority)
          let host ← Host.ofOpaque? host
          guard (host.isSome || authority.isEmpty)
          return {
            scheme, host, service := ← service? scheme service
            target := path (rest.dropWhile (!isEnd ·)) }
      | rest => return ⟨scheme, none, none, rest⟩

end NodeUrl

end LendingPool
