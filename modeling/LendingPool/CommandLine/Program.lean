import LendingPool.Cache.Metadata
import LendingPool.CommandLine.Arguments
import LendingPool.CommandLine.LogFilter
import LendingPool.Intent.Codec
import LendingPool.Node.Reader
import LendingPool.Node.Url
/-! What the program does, from the arguments to its output.

Files, the node and the log are outside of the program. It asks for them one after the other. -/

namespace LendingPool

/-! ## Surroundings -/

structure LogLine where
  message : String
  values : List (String × String) := []
deriving DecidableEq, Repr

namespace LogLine

def toText (line : LogLine) : String :=
  line.message ++ String.join (line.values.map fun (name, value) =>
    " " ++ name ++ "=" ++ String.ofList (Json.quoted value))

def toJson (line : LogLine) : Json :=
  .object (("message", .string line.message) ::
    line.values.map fun (name, value) => (name, .string value))

end LogLine

inductive Errand
  | file (path : String)
  | ask (url : NodeUrl) (request : NodeRequest)
  | log (json : Bool) (line : LogLine)
deriving DecidableEq, Repr

abbrev Errand.Answer : Errand → Type
  | file _ => FileContent
  | ask .. => NodeReply
  | log .. => Unit

/-- What went wrong, and why if that is known. The program may also have stopped halfway. -/
structure Report where
  message : String
  cause : Option String := none
  halted : Bool := false
deriving DecidableEq, Repr

def Report.toText (report : Report) : String :=
  let cause := match report.cause with
    | some cause => "\n\nCaused by:\n    " ++ cause
    | none => ""
  if report.halted then report.message else "Error: " ++ report.message ++ cause

def Report.exitCode (report : Report) : UInt8 :=
  if report.halted then 101 else 1

abbrev Errands := Dialogue Errand.Answer

abbrev Program := ExceptT Report Errands

namespace Program

def errand (errand : Errand) : Program errand.Answer :=
  ExceptT.lift (Dialogue.query errand)

def orReport {ε α : Type} (message : String) (cause : ε → String) (result : Except ε α) :
    Program α :=
  match result with
  | .ok value => pure value
  | .error fault => throw { message, cause := some (cause fault) }

/-! ## Files -/

def loadSettings (environment : Environment) (path : String) : Program Settings := do
  let content ← errand (.file path)
  orReport "Failed to load configuration" SettingsFault.message
    (Settings.load environment defaultPrefix path content)

def readIntent {α : Type} (parse : String → Option α) (path : String) : Program α := do
  match ← errand (.file path) with
  | .text content =>
      match parse content with
      | some intent => return intent
      | none => throw { message := s!"Failed to parse {path}" }
  | .absent | .unreadable _ => throw { message := s!"Failed to read {path}" }

/-! ## Log -/

structure Log where
  shown : Bool
  json : Bool
deriving DecidableEq, Repr

/-- The filter is taken from the environment, from the arguments, or from the settings. -/
def openLog (environment : Environment) (asked : Option String) (settings : LoggingSettings) :
    Log where
  shown := LogFilter.showsInfo (environment.lookup "RUST_LOG") (asked.getD settings.level)
  json := settings.json

def Log.write (log : Log) (line : LogLine) : Program Unit := do
  if log.shown then errand (.log log.json line)

/-! ## The node -/

structure Session where
  planner : Planner
  url : NodeUrl
  reader : NodeReader
  metadataLifetime : Nat

def openSession (settings : Settings) : Program Session := do
  let some url := NodeUrl.parse? settings.network.rpcUrl
    | throw { message := "Failed to create chain reader", cause := some "Invalid RPC URL" }
  let planner ← orReport "Failed to build orchestrator" (Fault.message ∘ .setup)
    (Assembly.build { settings := some settings })
  let contracts := settings.contracts
  return {
    planner, url
    reader := ⟨contracts.l2Pool <|> contracts.pool, contracts.ensRegistry⟩
    metadataLifetime := 1000 * settings.metadataLifetime.toNat }

namespace Session

def reply (session : Session) (query : ChainQuery) : Errands query.Reply :=
  (session.reader.reply query).run fun request => Dialogue.query (.ask session.url request)

/-- Carries out a computation. The metadata of a token is asked for once. -/
def carryOut {α : Type} (session : Session) (message : String) (planning : Planning α) :
    Program α := do
  let answers := rememberMetadata session.metadataLifetime session.reply
  let (result, cache) ← ExceptT.lift ((Dialogue.run answers planning.run).run {})
  if cache.halted then
    throw { message := "overflow when adding duration to instant", halted := true }
  orReport message Fault.message result

def materialize (session : Session) (descriptor : Descriptor) : Program Json := do
  let transaction ← session.carryOut "Failed to populate transaction" descriptor.transaction
  let estimate ← session.carryOut "Failed to estimate gas" descriptor.gasEstimate
  return .object [
    ("tx_type", .string descriptor.kind.name),
    ("tx", transaction.toJson),
    ("gas", .object [
      ("gas_limit", .ofNat estimate.gasLimit.toNat),
      ("gas_price", .ofNat estimate.gasPrice.toNat)])]

end Session

/-! ## Commands -/

def build (settings : Settings) (log : Log) (path : String) : Program String := do
  let intent ← readIntent Intent.parse? path
  log.write { message := "Building transactions", values := [("action", intent.action)] }
  let session ← openSession settings
  let descriptors ← session.carryOut "Failed to build transactions" (session.planner.execute intent)
  let transactions ← descriptors.mapM session.materialize
  return (Json.array transactions).toIndentedText ++ "\n"

def permit (settings : Settings) (path : String) : Program String := do
  let intent ← readIntent PermitRequestIntent.parse? path
  let session ← openSession settings
  let request ← session.carryOut "Failed to build permit request"
    (session.planner.requestPermit intent)
  return request.wireText ++ "\n"

def contractLines (contracts : Contracts) : List String :=
  let line (name : String) (address : Option Address) : String :=
    s!"  {name}: " ++ match address with
      | some address => address.checksum
      | none => "not configured"
  [line "pool" contracts.pool,
    line "wrapped_token_gateway" contracts.wrappedTokenGateway,
    line "l2_pool" contracts.l2Pool,
    line "swap_collateral_adapter" contracts.swapCollateralAdapter,
    line "repay_with_collateral_adapter" contracts.repayWithCollateralAdapter,
    line "flash_liquidation_adapter" contracts.flashLiquidationAdapter,
    line "ens_registry" contracts.ensRegistry]

def validate (settings : Settings) (log : Log) : Program Unit := do
  log.write { message := "Configuration is valid" }
  log.write { message := s!"Chain id: {settings.network.chainId.toNat}" }
  for line in contractLines settings.contracts do
    log.write { message := line }

def perform (environment : Environment) (invocation : Invocation) : Program String := do
  let settings ← loadSettings environment invocation.config
  let log := openLog environment invocation.logLevel settings.logging
  match invocation.command with
  | .build intent => build settings log intent
  | .permit intent => permit settings intent
  | .validate => do
      validate settings log
      return ""

end Program

/-! ## The whole program -/

inductive Outcome
  | usage (fault : UsageFault)
  | failed (report : Report)
  | succeeded (output : String)
deriving DecidableEq, Repr

def Outcome.exitCode : Outcome → UInt8
  | usage fault => fault.exitCode
  | failed report => report.exitCode
  | succeeded _ => 0

def runProgram (environment : Environment) (arguments : List String) : Errands Outcome := do
  match Invocation.parse environment arguments with
  | .error fault => return .usage fault
  | .ok invocation =>
      match ← (Program.perform environment invocation).run with
      | .error report => return .failed report
      | .ok output => return .succeeded output

end LendingPool
