import LendingPool.Settings.Loading
/-! The command line: options, a command, and options of the command. -/

namespace LendingPool

/-! ## Options -/

/-- An option that takes a value. A value that is a path must not be empty. -/
structure OptionName where
  long : List Char
  short : Option Char
  isPath : Bool
deriving DecidableEq, Repr

/-- Why nothing is carried out. Asking for help is no mistake. -/
inductive UsageFault
  | help
  | unexpected (argument : String)
  | noValue (option : OptionName)
  | givenTwice (option : OptionName)
  | noCommand
  | missing (option : OptionName)
deriving DecidableEq, Repr

def UsageFault.exitCode : UsageFault → UInt8
  | help => 0
  | _ => 2

def OptionName.toText (option : OptionName) : String :=
  "--" ++ String.ofList option.long

def UsageFault.message : UsageFault → String
  | help => "Usage: pool-tx [--config <FILE>] [--log-level <LOG_LEVEL>] <COMMAND>\n\n" ++
      "Commands:\n" ++
      "  build --intent <FILE>   Build the transactions for a JSON intent\n" ++
      "  permit --intent <FILE>  Build the typed data for an off-chain permit signature\n" ++
      "  validate                Validate the configuration file"
  | unexpected argument => s!"error: unexpected argument '{argument}' found"
  | noValue option => s!"error: a value is required for '{option.toText}' but none was supplied"
  | givenTwice option => s!"error: the argument '{option.toText}' cannot be used multiple times"
  | noCommand => "error: 'pool-tx' requires a subcommand but one was not provided"
  | missing option => s!"error: the argument '{option.toText}' was not provided"

/-- What one argument is: an option with its value, an option whose value comes next, the mark
after which there are no options, or anything else. -/
inductive Argument
  | complete (option : OptionName) (value : List Char)
  | incomplete (option : OptionName)
  | mark
  | plain
deriving DecidableEq, Repr

namespace Argument

def longOption (options : List OptionName) (text : List Char) : Except UsageFault Argument := do
  let (name, value) := Digits.splitAt '=' text
  if name = ['h', 'e', 'l', 'p'] && value.isNone then throw .help
  match options.find? (·.long == name), value with
  | some option, some value => return .complete option value
  | some option, none => return .incomplete option
  | none, _ => throw (.unexpected (String.ofList ('-' :: '-' :: text)))

/-- The value of a short option follows at once, with or without an equals sign. -/
def shortOption (options : List OptionName) (letter : Char) (text : List Char) :
    Except UsageFault Argument := do
  if letter = 'h' then throw .help
  match options.find? (·.short == some letter), text with
  | some option, [] => return .incomplete option
  | some option, '=' :: value | some option, value => return .complete option value
  | none, _ => throw (.unexpected (String.ofList ['-', letter]))

def ofText (options : List OptionName) (text : List Char) : Except UsageFault Argument :=
  match text with
  | ['-', '-'] => .ok .mark
  | '-' :: '-' :: text => longOption options text
  | '-' :: letter :: text => shortOption options letter text
  | _ => .ok .plain

end Argument

abbrev GivenOptions := List (OptionName × String)

namespace GivenOptions

def add (given : GivenOptions) (option : OptionName) (value : String) :
    Except UsageFault GivenOptions := do
  if (given.lookup option).isSome then throw (.givenTwice option)
  if option.isPath && value.isEmpty then throw (.noValue option)
  return (option, value) :: given

/-- Whether an argument cannot be the value of the option before it. -/
def looksLikeOption (argument : String) : Bool :=
  match argument.toList with
  | '-' :: _ :: _ => true
  | _ => false

/-- Takes options from the front of the arguments. What is left begins with an argument that is
none. An option may be waiting for its value. -/
def take (options : List OptionName) (given : GivenOptions) :
    (waiting : Option OptionName) → List String → Except UsageFault (GivenOptions × List String)
  | none, [] => .ok (given, [])
  | some option, [] => .error (.noValue option)
  | some option, argument :: rest => do
      if looksLikeOption argument then throw (.noValue option)
      take options (← given.add option argument) none rest
  | none, argument :: rest => do
      match ← Argument.ofText options argument.toList with
      | .complete option value =>
          take options (← given.add option (String.ofList value)) none rest
      | .incomplete option => take options given (some option) rest
      | .mark => match rest with
        | [] => return (given, [])
        | next :: _ => throw (.unexpected next)
      | .plain => return (given, argument :: rest)

end GivenOptions

/-! ## Commands -/

inductive Command
  | build (intent : String)
  | permit (intent : String)
  | validate
deriving DecidableEq, Repr

namespace Command

def intentOption : OptionName := ⟨"intent".toList, some 'i', true⟩

def takeOptions (options : List OptionName) (arguments : List String) :
    Except UsageFault GivenOptions := do
  match ← GivenOptions.take options [] none arguments with
  | (given, []) => return given
  | (_, argument :: _) => throw (.unexpected argument)

def intentPath (arguments : List String) : Except UsageFault String := do
  let given ← takeOptions [intentOption] arguments
  match given.lookup intentOption with
  | some path => return path
  | none => throw (.missing intentOption)

def helpTopic : List String → UsageFault
  | [] | ["build"] | ["permit"] | ["validate"] | ["help"] => .help
  | topic :: _ => .unexpected topic

def ofArguments : List String → Except UsageFault Command
  | [] => .error .noCommand
  | "build" :: arguments => build <$> intentPath arguments
  | "permit" :: arguments => permit <$> intentPath arguments
  | "validate" :: arguments => (fun _ => validate) <$> takeOptions [] arguments
  | "help" :: topic => .error (helpTopic topic)
  | argument :: _ => .error (.unexpected argument)

end Command

structure Invocation where
  config : String
  logLevel : Option String
  command : Command
deriving DecidableEq, Repr

namespace Invocation

def configOption : OptionName := ⟨"config".toList, some 'c', true⟩
def logLevelOption : OptionName := ⟨"log-level".toList, none, false⟩

def defaultConfig : String := "config/local.toml"

/-- A log level that is not given is taken from the environment. -/
def parse (environment : Environment) (arguments : List String) :
    Except UsageFault Invocation := do
  let (given, rest) ← GivenOptions.take [configOption, logLevelOption] [] none arguments
  return {
    config := (given.lookup configOption).getD defaultConfig
    logLevel := given.lookup logLevelOption <|> environment.lookup "POOL_LOG_LEVEL"
    command := ← Command.ofArguments rest }

end Invocation

end LendingPool
