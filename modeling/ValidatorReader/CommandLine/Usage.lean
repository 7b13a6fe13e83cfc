import ValidatorReader.CommandLine.Suggestion
import ValidatorReader.Settings.Error
import ValidatorReader.Text.Quoted

/-!
# Usage

The commands of the program, their help, and what is printed when they are used in a wrong way.
-/

namespace ValidatorReader.CommandLine

inductive Command
  | validators
  | epochCounter
deriving DecidableEq, Repr

namespace Command

def name : Command → String
  | validators => "validators"
  | epochCounter => "epoch-counter"

def all : List Command := [epochCounter, validators]

def ofName? (name : String) : Option Command :=
  all.find? (·.name = name)

@[simp] theorem ofName?_name (c : Command) : ofName? c.name = some c := by
  cases c <;> decide

def summary : Command → String
  | validators => "List validator addresses."
  | epochCounter => "Show the epoch counter."

/-- What a command prints without the option for JSON. -/
def plainOutput : Command → String
  | validators => "a table"
  | epochCounter => "text"

end Command

/-- The place whose usage an error shows: the program, or one of its commands. -/
inductive Place
  | program
  | command (c : Command)
deriving DecidableEq, Repr

namespace Place

def path : Place → String
  | program => "cli"
  | command c => "cli " ++ c.name

def usage : Place → String
  | program => "Usage: cli [OPTIONS] COMMAND [ARGS]..."
  | command c => s!"Usage: {(command c).path} [OPTIONS]"

end Place

def programHelp : String :=
  Place.program.usage ++ "\n\n  Query the validator smart contract.\n\n" ++
    "Options:\n" ++
    "  --rpc-url TEXT   JSON-RPC endpoint (env: VALIDATOR_CONTRACT_RPC_URL)\n" ++
    "  --contract TEXT  Validator contract address (env: VALIDATOR_CONTRACT_ADDRESS)\n" ++
    "  --block TEXT     Block number or 'latest'  [default: latest]\n" ++
    "  --help           Show this message and exit.\n\n" ++
    "Commands:\n" ++
    "  epoch-counter  " ++ Command.epochCounter.summary ++ "\n" ++
    "  validators     " ++ Command.validators.summary ++ "\n"

def commandHelp (c : Command) : String :=
  (Place.command c).usage ++ "\n\n  " ++ c.summary ++ "\n\n" ++
    "Options:\n" ++
    "  --json  Print JSON instead of " ++ c.plainOutput ++ "\n" ++
    "  --help  Show this message and exit.\n"

def Place.help : Place → String
  | program => programHelp
  | command c => commandHelp c

/-- The ways of using the program wrongly. -/
inductive UsageError
  | noSuchOption (name : String) (suggestions : List String)
  | missingValue (option : String)
  | unexpectedValue (option : String)
  | missingCommand
  | noSuchCommand (name : String) (suggestions : List String)
  | extraArguments (arguments : List String)
  | badContract (e : AddressError)
  | noContract
  | badBlock (e : BlockError)
deriving DecidableEq, Repr

def listed (names : List String) : String :=
  ", ".intercalate names

namespace UsageError

def message : UsageError → String
  | noSuchOption name suggestions =>
    let hint := match suggestions with
      | [] => ""
      | [s] => s!" Did you mean {Text.quoted s}?"
      | _ => s!" (Possible options: {listed (suggestions.map Text.quoted)})"
    s!"No such option {Text.quoted name}.{hint}"
  | missingValue option => s!"Option {Text.quoted option} requires an argument."
  | unexpectedValue option => s!"Option {Text.quoted option} does not take a value."
  | missingCommand => "Missing command."
  | noSuchCommand name suggestions =>
    let hint := match suggestions with
      | [] => ""
      | [s] => s!" Did you mean {Text.quoted s}?"
      | _ => s!" (Did you mean one of: {listed (suggestions.map Text.quoted)}?)"
    s!"No such command {Text.quoted name}.{hint}"
  | extraArguments arguments =>
    let all := " ".intercalate arguments
    match arguments with
    | [_] => s!"Got unexpected extra argument ({all})"
    | _ => s!"Got unexpected extra arguments ({all})"
  | badContract e => s!"Invalid value for --contract: {e.message}"
  | noContract => "No contract address: pass --contract or set VALIDATOR_CONTRACT_ADDRESS"
  | badBlock e => s!"Invalid value: {e.message}"

/-- Whether an error is shown without the usage: an option lacks its value or has one too many. -/
def isBare : UsageError → Bool
  | missingValue _ => true
  | unexpectedValue _ => true
  | _ => false

/-- What is printed for a usage error at a place. -/
def report (place : Place) (e : UsageError) : String :=
  let hint := s!"{place.usage}\nTry '{place.path} --help' for help.\n\n"
  (if e.isBare then "" else hint) ++ s!"Error: {e.message}\n"

end UsageError

end ValidatorReader.CommandLine
