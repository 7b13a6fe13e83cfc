import ValidatorReader.Log.Record
import ValidatorReader.Log.RotatingFile

/-!
# Handlers

A handler writes the lines of records to the console or to a rotating file. The time in a line is read
from the clock when the line is made, and a rotating file has it made twice: once to find out whether it
fits, and once to write it.
-/

namespace ValidatorReader.Log

/-- Where the lines of a logger go, with the service that they name. -/
inductive Handler
  | console (service : String)
  | file (service : String) (f : RotatingFile)
deriving DecidableEq, Repr

/-- What the clock shows while a handler handles a record: when the size of the line is tested, and when
the line is written. -/
structure Times where
  tested : Instant
  written : Instant
deriving DecidableEq, Repr

/-- What handling a record gives: the state after it and the text on the console. A record whose message
and arguments do not go together is left out. -/
def Handler.handle (h : Handler) (times : Times) (r : Record) (d : Disk) :
    Handler × Disk × String :=
  match h with
  | console service =>
    match r.render service times.written with
    | .ok line => (h, d, line ++ "\n")
    | .error _ => (h, d, "")
  | file service f =>
    match r.render service times.tested, r.render service times.written with
    | .ok tested, .ok written =>
      let (f, d) := f.write d (tested ++ "\n") (written ++ "\n")
      (file service f, d, "")
    | _, _ => (h, d, "")

/-- Handlers handle a record one after the other, each at times of its own. -/
def handleAll (times : Nat → Times) (r : Record) : List Handler → Disk → List Handler × Disk × String
  | [], d => ([], d, "")
  | h :: rest, d =>
    let (h, d, shown) := h.handle (times 0) r d
    let (rest, d, shownLater) := handleAll (fun index => times (index + 1)) r rest d
    (h :: rest, d, shown ++ shownLater)

end ValidatorReader.Log
