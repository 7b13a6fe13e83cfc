import ValidatorReader.Log.Instant
import ValidatorReader.Log.Level
import ValidatorReader.Log.Template.Filling
import ValidatorReader.Value.Json

/-!
# Records and lines

A record is written as one line of JSON. Its first members are the time, the level, the logger and the
message; then come the members of a message that is a dictionary, the exception and the stack that the
record carries, its further fields, the service and the place in the program.
-/

namespace ValidatorReader.Log

/-- What is logged at a place of the program. An exception and a stack are there as the texts that are
shown for them. -/
structure Record where
  logger : String
  level : Int
  message : Value
  arguments : List Value := []
  path : String
  line : Int
  function : String
  extra : Entries := []
  exception : Option String := none
  stack : Option String := none

/-- The names that further fields of a record cannot have. -/
def reservedKeys : List String :=
  ["message", "asctime", "name", "msg", "args", "levelname", "levelno", "pathname", "filename",
    "module", "exc_info", "exc_text", "stack_info", "lineno", "funcName", "created", "msecs",
    "relativeCreated", "thread", "threadName", "processName", "process"]

/-- The first of the names of further fields that a record cannot have. -/
def reservedName? (extra : Entries) : Option String :=
  extra.names.find? fun name => reservedKeys.contains name

theorem reservedName?_eq_none_iff {extra : Entries} :
    reservedName? extra = none ↔ ∀ name ∈ extra.names, name ∉ reservedKeys := by
  simp [reservedName?, List.find?_eq_none]

theorem mem_of_reservedName? {extra : Entries} {name : String} (h : reservedName? extra = some name) :
    name ∈ extra.names ∧ name ∈ reservedKeys :=
  ⟨List.mem_of_find?_eq_some h, by simpa using List.find?_some h⟩

/-- The last part of a path. -/
def baseName (path : String) : List Char :=
  (path.toList.reverse.takeWhile (· != '/')).reverse

/-- A file name without its last extension; dots at the front begin none. -/
def withoutExtension (name : List Char) : List Char :=
  let dots := name.takeWhile (· == '.')
  let rest := name.drop dots.length
  if rest.contains '.' then
    dots ++ ((rest.reverse.dropWhile (· != '.')).drop 1).reverse
  else name

namespace Record

/-- The record, if its further fields have no reserved name. -/
def check (r : Record) : Except Error Record :=
  match reservedName? r.extra with
  | some key => .error (.reservedKey key)
  | none => .ok r

def module_ (r : Record) : String :=
  String.ofList (withoutExtension (baseName r.path))

def messageText (r : Record) : Except TemplateError String :=
  fillTemplate r.message.display r.arguments

/-- A text with another one below it, if there is one. -/
def putBelow (text : String) : Option String → String
  | some lower => (if text.endsWith "\n" then text else text ++ "\n") ++ lower
  | none => text

/-- A text with the exception and the stack of the record below it. -/
def withTracesBelow (r : Record) (text : String) : String :=
  putBelow (putBelow text r.exception) r.stack

def source (r : Record) : Value :=
  .dict [("function", .text r.function), ("module", .text r.module_), ("line", .int r.line)]

/-- The message member and the members that a message dictionary gives. -/
def messageParts (r : Record) : Except TemplateError (String × Entries) :=
  match r.message with
  | .dict entries => .ok ("", entries)
  | _ => r.messageText.map fun text => (text, [])

/-- Puts a value under a name that has none or one that does not hold. -/
def putMissing (entries : Entries) (name : String) (value : Value) : Entries :=
  match entries.get? name with
  | some v => if v.holds then entries else entries.put name value
  | none => entries.put name value

/-- Puts a text under a name that has none, if there is a text. -/
def putText (entries : Entries) (name : String) : Option String → Entries
  | some text => putMissing entries name (.text text)
  | none => entries

/-- The members that a message gives, with those for the exception and the stack of the record. -/
def withTraces (r : Record) (added : Entries) : Entries :=
  putText (putText added "exc_info" r.exception) "stack_info" r.stack

/-- The further fields that are written; those with an underscore in front are not. -/
def shownExtra (r : Record) : Entries :=
  r.extra.filter fun e => !e.1.startsWith "_" && e.1 != "timestamp" && e.1 != "level"

def members (service : String) (now : Instant) (r : Record) : Except TemplateError Entries := do
  let (message, added) ← r.messageParts
  let first : Entries := [("timestamp", (r.extra.get? "timestamp").getD .null),
    ("level", (r.extra.get? "level").getD .null), ("name", .text r.logger),
    ("message", .text message)]
  let all := (Entries.merge first (r.withTraces added)).merge r.shownExtra
  let timed := putMissing all "timestamp" (.text now.render)
  let levelled := putMissing timed "level" (.text (Text.lower (levelName r.level)))
  return (levelled.put "service" (.text service)).put "source" r.source

def render (service : String) (now : Instant) (r : Record) : Except TemplateError String :=
  (members service now r).map fun entries => (Value.dict entries).toJson

end Record

end ValidatorReader.Log
