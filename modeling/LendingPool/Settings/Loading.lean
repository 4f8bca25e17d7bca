import LendingPool.Settings.Reading
import LendingPool.Toml.Document
import LendingPool.Toml.Schema
/-! Loading settings from a file.

References to environment variables are replaced first. The table is then checked against a
schema, and after that a few variables may override settings. -/

namespace LendingPool

inductive NumberProblem
  | empty
  | invalidDigit
  | tooLarge
deriving DecidableEq, Repr

def NumberProblem.message : NumberProblem → String
  | empty => "cannot parse integer from empty string"
  | invalidDigit => "invalid digit found in string"
  | tooLarge => "number too large to fit in target type"

/-- Why something under a path is not a text: the system does not let it be read, for which it gives
a reason, or it is something else than UTF-8. -/
inductive FileProblem
  | refused (reason : String)
  | notText
deriving DecidableEq, Repr

def FileProblem.message : FileProblem → String
  | refused reason => reason
  | notText => "stream did not contain valid UTF-8"

inductive SettingsFault
  | noFile
  | fileNotFound (path : String)
  | unreadableFile (problem : FileProblem)
  | unparsable
  | schema (fault : SchemaFault)
  | chainId (problem : NumberProblem)
  | zeroChainId
  | negativeSurplus
  | variableNotFound (name : String)
deriving DecidableEq, Repr

def SettingsFault.message : SettingsFault → String
  | noFile => "File not found: No configuration file specified"
  | fileNotFound path => "File not found: " ++ path
  | unreadableFile problem => "IO error: " ++ problem.message
  | unparsable => "Parse error"
  | schema fault => "Validation error: " ++ fault.message
  | chainId problem => "Validation error: Invalid chain id: " ++ problem.message
  | zeroChainId => "Validation error: network.chain_id must be non-zero"
  | negativeSurplus => "Validation error: orchestrator.surplus_percent must not be negative"
  | variableNotFound name => "Environment variable not found: " ++ name

abbrev Environment := List (String × String)

/-! ## References

A reference is `$`, and a name in braces that is not empty and has no closing brace in it. -/

def referenceName? (text : List Char) : Option (List Char) :=
  let name := text.takeWhile (· != '}')
  if name.isEmpty || (text.dropWhile (· != '}')).isEmpty then none else some name

/-- The names of all references, from left to right. References do not overlap. -/
def references : List Char → List (List Char)
  | '$' :: '{' :: text =>
      match referenceName? text with
      | some name => name :: references (text.drop (name.length + 1))
      | none => references ('{' :: text)
  | _ :: text => references text
  | [] => []
termination_by text => text.length
decreasing_by all_goals (simp only [List.length_drop, List.length_cons]; omega)

def reference (name : List Char) : List Char :=
  '$' :: '{' :: name ++ ['}']

def replaceAll (pattern replacement : List Char) : (text : List Char) → List Char
  | [] => []
  | c :: rest =>
      if pattern.isPrefixOf (c :: rest) then
        replacement ++ replaceAll pattern replacement (rest.drop (pattern.length - 1))
      else c :: replaceAll pattern replacement rest
termination_by text => text.length
decreasing_by all_goals (simp only [List.length_drop, List.length_cons]; omega)

/-- Replaces references one after the other. A value that has references in it is part of the text
in which later ones are replaced. -/
def substitute (environment : Environment) (text : List Char) : Except SettingsFault (List Char) :=
  (references text).foldlM (fun result name =>
    match environment.lookup (String.ofList name) with
    | some value => .ok (replaceAll (reference name) value.toList result)
    | none => .error (.variableNotFound (String.ofList name))) text

/-! ## Schema -/

def addressField (name : String) : Field :=
  (name, .text, some .address)

def settingsSchema : Schema where
  required := [
    ("network", .table [
      ("chain_id", .integer (some 1) none, none),
      ("rpc_url", .text, some .webUrl)] [], none)]
  optional := [
    ("contracts", .table [] [
      addressField "pool", addressField "wrapped_token_gateway", addressField "l2_pool",
      addressField "swap_collateral_adapter", addressField "repay_with_collateral_adapter",
      addressField "flash_liquidation_adapter", addressField "ens_registry"], none),
    ("orchestrator", .table [] [
      ("surplus_percent", .decimal, none),
      ("flash_premium_bps", .integer (some 0) (some 10000), none),
      ("gas_limits", .map (.integer (some 21000) none), none)], none),
    ("cache", .table [] [("metadata_ttl_secs", .integer (some 0) none, none)], none),
    ("logging", .table [] [("level", .text, none), ("json", .boolean, none)], none)]

def Settings.parse (environment : Environment) (text : String) : Except SettingsFault Settings := do
  let text ← substitute environment text.toList
  let some table := Toml.parse? (String.ofList text) | throw .unparsable
  (settingsSchema.check table).mapError .schema
  match Settings.ofToml? table with
  | some settings => return settings
  | none => throw .unparsable

/-! ## Overrides -/

def takeDigits (value : Nat) : List Char → Except NumberProblem Nat
  | [] => .ok value
  | c :: rest =>
      if c.isDigit then
        let next := value * 10 + (c.toNat - '0'.toNat)
        if next < 2 ^ 64 then takeDigits next rest else .error .tooLarge
      else .error .invalidDigit

/-- A number of 64 bits, after one optional plus sign. -/
def parseUInt64 (text : String) : Except NumberProblem UInt64 :=
  match text.toList with
  | [] => .error .empty
  | ['+'] => .error .invalidDigit
  | '+' :: digits | digits => UInt64.ofNat <$> takeDigits 0 digits

def Settings.overridden (settings : Settings) (environment : Environment) (prefixText : String) :
    Except SettingsFault Settings := do
  let settings := match environment.lookup (prefixText ++ "RPC_URL") with
    | some url => { settings with network := { settings.network with rpcUrl := url } }
    | none => settings
  let settings ← match environment.lookup (prefixText ++ "CHAIN_ID") with
    | some text => do
        let chainId ← (parseUInt64 text).mapError .chainId
        pure { settings with network := { settings.network with chainId } }
    | none => pure settings
  return match environment.lookup (prefixText ++ "LOG_LEVEL") with
    | some level => { settings with logging := { settings.logging with level } }
    | none => settings

/-- What has to hold of settings after they are overridden. -/
def Settings.validate (settings : Settings) : Except SettingsFault Unit := do
  if settings.network.chainId = 0 then throw .zeroChainId
  if settings.planning.surplusPercent.negative then throw .negativeSurplus

/-! ## Files -/

inductive FileContent
  | absent
  | unreadable (problem : FileProblem)
  | text (content : String)
deriving DecidableEq, Repr

def defaultPrefix : String := "POOL_"

def Settings.load (environment : Environment) (prefixText path : String) (content : FileContent) :
    Except SettingsFault Settings := do
  match content with
  | .absent => throw (.fileNotFound path)
  | .unreadable problem => throw (.unreadableFile problem)
  | .text content =>
      let settings ← Settings.parse environment content
      let settings ← settings.overridden environment prefixText
      settings.validate
      return settings

end LendingPool
