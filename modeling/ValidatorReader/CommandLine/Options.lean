import ValidatorReader.CommandLine.Usage

/-!
# Options

Arguments that begin with a dash are options, up to an argument of two dashes. An option that takes a
value has it after an equals sign or in the next argument, whatever that is.
-/

namespace ValidatorReader.CommandLine

/-- An option and whether it takes a value. -/
structure OptionSpec where
  name : String
  takesValue : Bool
deriving DecidableEq, Repr

def helpOption : OptionSpec := ⟨"--help", false⟩

def programOptions : List OptionSpec :=
  [⟨"--rpc-url", true⟩, ⟨"--contract", true⟩, ⟨"--block", true⟩, helpOption]

def commandOptions : List OptionSpec :=
  [⟨"--json", false⟩, helpOption]

/-- What a single argument is. -/
inductive Argument
  | endOfOptions
  | word
  | set (option : String) (value : String)
  | needsValue (option : String)
deriving DecidableEq, Repr

/-- Splits an argument at its first equals sign. -/
def splitEquals (arg : String) : String × Option String :=
  let cs := arg.toList
  let name := cs.takeWhile (· != '=')
  match cs.drop name.length with
  | [] => (arg, none)
  | _ :: value => (String.ofList name, some (String.ofList value))

/-- The error for an option that is not known: of one dash only the first letter counts. -/
def unknownOption (specs : List OptionSpec) (arg name : String) : UsageError :=
  match arg.toList with
  | '-' :: '-' :: _ => .noSuchOption name (closeNames (specs.map OptionSpec.name) name)
  | cs => .noSuchOption (String.ofList (cs.take 2)) []

/-- What an argument is among the options of a place. -/
def classify (specs : List OptionSpec) (arg : String) : Except UsageError Argument :=
  if arg = "--" then .ok .endOfOptions
  else if ¬ arg.startsWith "-" ∨ arg = "-" then .ok .word
  else
    let (name, value) := splitEquals arg
    match specs.find? (·.name = name) with
    | none => .error (unknownOption specs arg name)
    | some spec =>
      match spec.takesValue, value with
      | true, some v => .ok (.set name v)
      | true, none => .ok (.needsValue name)
      | false, some _ => .error (.unexpectedValue name)
      | false, none => .ok (.set name "")

/-- The options that were given, in order, and the arguments that are none. -/
structure Parsed where
  options : List (String × String) := []
  rest : List String := []
deriving DecidableEq, Repr

def Parsed.withOption (option value : String) (p : Parsed) : Parsed :=
  { p with options := (option, value) :: p.options }

/-- Reads arguments; unless options may come after words, the first word ends them. -/
def parse (specs : List OptionSpec) (optionsAfterWords : Bool) :
    List String → Except UsageError Parsed
  | [] => .ok {}
  | arg :: rest =>
    match classify specs arg with
    | .error e => .error e
    | .ok .endOfOptions => .ok { rest }
    | .ok .word =>
      if optionsAfterWords then
        (parse specs optionsAfterWords rest).map fun p => { p with rest := arg :: p.rest }
      else .ok { rest := arg :: rest }
    | .ok (.set option value) => (parse specs optionsAfterWords rest).map (.withOption option value)
    | .ok (.needsValue option) =>
      match rest with
      | [] => .error (.missingValue option)
      | value :: rest => (parse specs optionsAfterWords rest).map (.withOption option value)

namespace Parsed

/-- The last value of an option. -/
def value? (p : Parsed) (option : String) : Option String :=
  (p.options.reverse.find? (·.1 = option)).map (·.2)

def has (p : Parsed) (option : String) : Bool :=
  p.options.any (·.1 = option)

end Parsed

end ValidatorReader.CommandLine
