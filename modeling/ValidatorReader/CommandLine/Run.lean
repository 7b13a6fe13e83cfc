import ValidatorReader.CommandLine.Options
import ValidatorReader.Node.Basic
import ValidatorReader.Settings.Basic
import ValidatorReader.Settings.Block
import ValidatorReader.Terminal.Markup
import ValidatorReader.Terminal.Table
import ValidatorReader.Value.Json

/-!
# Running a command

A run reads the options before the command, finds the command, opens a session from the settings and
the options, reads the options of the command and then the contract. What stops it on the way decides
the exit code: two for wrong usage, one for failures, of which those of the contract, the connection
and the settings are shown on the terminal and all others are left to the caller.
-/

namespace ValidatorReader.CommandLine

def terminalWidth : Nat := 80

/-- What a run leaves behind. -/
structure Report where
  events : List Event := []
  exitCode : Nat := 0
  stdout : String := ""
  stderr : String := ""
  escaped : Option Failure := none

/-! ## Ends of a run -/

/-- Drops the colour escapes of a text: an escape character, a bracket, figures and a letter. -/
def dropColors : Nat → List Char → List Char
  | _, [] => []
  | skip + 1, _ :: rest => dropColors skip rest
  | 0, c :: rest =>
    match rest with
    | '[' :: body =>
      let figures := body.takeWhile fun d => d.isDigit || d == ';' || d == '?'
      match body.drop figures.length with
      | last :: _ =>
        if c.toNat = 0x1b && last.isAlpha then dropColors (figures.length + 2) rest
        else c :: dropColors 0 rest
      | [] => c :: dropColors 0 rest
    | _ => c :: dropColors 0 rest

/-- Joins each carriage return with the line feed after it. -/
def joinLineEnds : List Char → List Char
  | '\r' :: '\n' :: rest => '\n' :: joinLineEnds rest
  | c :: rest => c :: joinLineEnds rest
  | [] => []

/-- A message as the terminal without colours gets it. -/
def plainMessage (s : String) : String :=
  String.ofList (joinLineEnds (dropColors 0 s.toList))

/-- The end of a run that was used wrongly. -/
def misused (events : List Event) (place : Place) (e : UsageError) : Report where
  events := events
  exitCode := 2
  stderr := plainMessage (e.report place)

/-- The end of a run that shows the help of a place. -/
def helped (events : List Event) (place : Place) : Report where
  events := events
  stdout := place.help

/-- The end of a run that a failure escapes from. -/
def abandoned (events : List Event) (e : Failure) : Report where
  events := events
  exitCode := 1
  escaped := some e

def failureRecord (e : Failure) : LogRecord where
  logger := "validator_contract.cli"
  severity := .error
  message := s!"CLI error: {e.message}"
  failure := some e

/-- The end of a run that shows a failure, whose text is taken as markup. -/
def failed (events : List Event) (e : Failure) : Report :=
  let recorded := events ++ [.logged (failureRecord e)]
  match Terminal.plainText ("[bold red]Error:[/] " ++ e.message) with
  | .ok text => { events := recorded, exitCode := 1, stdout := Terminal.layOut terminalWidth text }
  | .error e => abandoned recorded (.markup e)

/-- Whether a failure is shown: those of a call and of the connection are. -/
def isShown : Failure → Bool
  | .call _ => true
  | .node (.transport _ _) => true
  | .settings _ => true
  | _ => false

/-- The end of a run that a failure stops. -/
def stopped (events : List Event) (e : Failure) : Report :=
  if isShown e then failed events e else abandoned events e

/-! ## Sessions -/

/-- The contract and the block that a command reads. -/
structure Session where
  contract : Address
  block : BlockChoice
deriving DecidableEq

/-- Why a session is not opened. -/
inductive SessionError
  | usage (e : UsageError)
  | failure (e : Failure)

/-- The contract that an option names, or else the one of the settings. -/
def chooseContract (option : Option String) (settings : Settings) : Except UsageError Address :=
  match option.bind Settings.nonempty? with
  | some text => (Address.ofText text).mapError .badContract
  | none =>
    match settings.contract with
    | some a => .ok a
    | none => .error .noContract

/-- Opens a session: settings, logging, contract, connection, block, in this order. -/
def openSession (env : Environment) (options : Parsed) : List Event × Except SessionError Session :=
  let read := Settings.ofEnvironment env
  match read.result with
  | .error e => (read.events, .error (.failure e))
  | .ok settings =>
    let configured := read.events ++ [.loggingConfigured settings.logLevel settings.logFile]
    match chooseContract (options.value? "--contract") settings with
    | .error e => (configured, .error (.usage e))
    | .ok contract =>
      let endpoint := ((options.value? "--rpc-url").bind Settings.nonempty?).getD settings.rpcUrl
      let connected := configured ++ [.clientOpened endpoint settings.rpcTimeout]
      match BlockChoice.ofText ((options.value? "--block").getD "latest") with
      | .error e => (connected, .error (.usage (.badBlock e)))
      | .ok block => (connected ++ [Controller.created], .ok ⟨contract, block⟩)

/-! ## Commands -/

/-- The number of the block that a session reads. -/
def Session.resolveBlock (s : Session) (node : Node) : Traced Int :=
  match s.block with
  | .latest => node.latestBlock
  | .number n => pure n

/-- What a command reads, with the block that it is read at. -/
def readContract (node : Node) (s : Session) (c : Command) : Traced (Int × Reading) := do
  let block ← s.resolveBlock node
  let reading ← match c with
    | .validators => node.controller.getValidators (.int block) (.address s.contract)
    | .epochCounter => node.controller.getEpochCounter (.int block) (.address s.contract)
  return (block, reading)

def jsonOutput (block : Int) : Reading → String
  | .validators as =>
    (Value.dict [("block", .int block), ("validators", .list (as.map fun a => .text a.toHex))]).toJson
      ++ "\n"
  | .epochCounter counter =>
    (Value.dict [("block", .int block), ("epoch_counter", counter)]).toJson ++ "\n"

def validatorsTable (block : Int) (as : List Address) : Terminal.Table where
  title := s!"Validators at block {block}"
  columns := [⟨"#", .right⟩, ⟨"Address", .left⟩]
  rows := as.mapIdx fun index a => [toString index, a.toChecksum]

/-- A line of markup as the terminal shows it. -/
def shownLine (markup : String) : Except Terminal.MarkupError String :=
  (Terminal.plainText markup).map (Terminal.layOut terminalWidth)

/-- A reading for the terminal, its texts taken as markup. -/
def textOutput (block : Int) : Reading → Except Terminal.MarkupError String
  | .validators as => do
    let table ← (validatorsTable block as).render terminalWidth
    let notice ← if as.isEmpty then shownLine "[yellow]Validator set is empty[/]" else .ok ""
    return table ++ notice
  | .epochCounter counter =>
    shownLine s!"Epoch counter at block {block}: [bold]{counter.display}[/]"

/-- What a command prints for a reading. -/
def output (asJson : Bool) (block : Int) (reading : Reading) : Except Terminal.MarkupError String :=
  if asJson then .ok (jsonOutput block reading) else textOutput block reading

/-- Runs a command in a session after the given events. -/
def runCommand (events : List Event) (node : Node) (s : Session) (c : Command)
    (args : List String) : Report :=
  match parse commandOptions true args with
  | .error e => misused events (.command c) e
  | .ok options =>
    if options.has helpOption.name then helped events (.command c)
    else if !options.rest.isEmpty then misused events (.command c) (.extraArguments options.rest)
    else
      let read := readContract node s c
      let events := events ++ read.events
      match read.result with
      | .error e => stopped events e
      | .ok (block, reading) =>
        match output (options.has "--json") block reading with
        | .ok stdout => { events, stdout }
        | .error e => abandoned events (.markup e)

/-- The end of a run whose command is not known; its name may yet be an option after two dashes. -/
def unknownCommand (name : String) (args : List String) : Report :=
  match parse programOptions false (name :: args) with
  | .error e => misused [] .program e
  | .ok options =>
    if options.has helpOption.name then helped [] .program
    else misused [] .program (.noSuchCommand name (closeNames (Command.all.map Command.name) name))

/-- Runs the program with arguments, an environment and a node. -/
def run (args : List String) (env : Environment) (node : Node) : Report :=
  if args.isEmpty then { exitCode := 2, stderr := programHelp }
  else match parse programOptions false args with
  | .error e => misused [] .program e
  | .ok options =>
    if options.has helpOption.name then helped [] .program
    else match options.rest with
    | [] => misused [] .program .missingCommand
    | name :: rest =>
      match Command.ofName? name with
      | none => unknownCommand name rest
      | some c =>
        match openSession env options with
        | (events, .error (.usage e)) => misused events .program e
        | (events, .error (.failure e)) => stopped events e
        | (events, .ok s) => runCommand events node s c rest

end ValidatorReader.CommandLine
