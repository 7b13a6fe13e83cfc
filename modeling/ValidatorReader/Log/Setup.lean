import ValidatorReader.Log.Level
import ValidatorReader.Log.Logger

/-!
# Setting up a logger

A logger is set up with a level, a handler for the console and one for a rotating file. A later setup
takes the place of an earlier one.
-/

namespace ValidatorReader.Log

/-- The part of a name in front of its first dot. -/
def firstSegment (name : String) : String :=
  String.ofList (name.toList.takeWhile (· != '.'))

namespace Logging

structure Setup where
  name : String := "validator_contract"
  level : String := "INFO"
  logFile : Option String := none
  console : Bool := true
  maxBytes : Int := 10 * 1024 * 1024
  backupCount : Int := 5
deriving DecidableEq, Repr

/-- Opens the log file of a setup, after the directory that it is in. -/
def openLog (d : Disk) (s : Setup) (file : String) : Disk × Except DiskError RotatingFile :=
  let parts := Path.partsOfText file
  let (d, made) := d.makeDirectories parts.dropLast.reverse
  match made with
  | .error e => (d, .error e)
  | .ok () =>
    let path := Path.ofParts parts
    match d.openFile path with
    | .error e => (d, .error e)
    | .ok (d, number) =>
      (d, .ok { path, maxBytes := s.maxBytes, backupCount := s.backupCount, number := some number })

/-- Sets up a logger and gives it back. The level is looked up first; if the log file cannot be opened,
the logger keeps its new level and the handlers it has until then. -/
def setup (l : Logging) (s : Setup) : Outcome Logger :=
  let name := loggerName s.name
  let l := l.touch name
  match levelOfSetting s.level with
  | .error e => { logging := l, result := .error e }
  | .ok level =>
    let service := firstSegment s.name
    let logger : Logger := { level, handlers := if s.console then [.console service] else [] }
    match s.logFile with
    | none => { logging := l.put name logger, result := .ok logger }
    | some file =>
      if file.isEmpty then { logging := l.put name logger, result := .ok logger }
      else
        let (disk, opened) := openLog l.disk s file
        match opened with
        | .error e => { logging := { l with disk }.put name logger, result := .error (.disk e) }
        | .ok f =>
          let logger := { logger with handlers := logger.handlers ++ [.file service f] }
          { logging := { l with disk }.put name logger, result := .ok logger }

end Logging

end ValidatorReader.Log
