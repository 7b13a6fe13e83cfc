import ValidatorReader.Log.Handler

/-!
# Loggers

Loggers have dotted names. A record goes to the handlers of its logger and of the loggers above it, up
to the root of all loggers, if its level reaches the first level that is set on that way.
-/

namespace ValidatorReader.Log

/-- A logger; level zero leaves the choice to the loggers above it. -/
structure Logger where
  level : Int := 0
  handlers : List Handler := []
deriving DecidableEq, Repr

/-- The loggers by name, in the order in which they became known, and the disk that they write on. -/
structure Logging where
  loggers : List (String × Logger) := []
  disk : Disk := {}
deriving DecidableEq, Repr

/-- What the clock shows while a record is handled, for each logger that the record comes to and each of
its handlers. -/
structure Clock where
  times : String → Nat → Times

def Clock.standing (now : Instant) : Clock where
  times _ _ := ⟨now, now⟩

instance : Coe Instant Clock := ⟨Clock.standing⟩

/-- The level from which records that no handler takes are still shown. -/
def warningLevel : Int := 30

def rootName : String := "root"

/-- The name of the logger that a name stands for; the empty name stands for the root. -/
def loggerName (name : String) : String :=
  if name.isEmpty then rootName else name

/-! ## The way to the root -/

namespace Logging

/-- The logger of a name; one that is not known yet has no level and no handlers, but for the root, which
shows warnings. -/
def get (l : Logging) (name : String) : Logger :=
  (l.loggers.lookup name).getD { level := if name = rootName then warningLevel else 0 }

/-- Puts a logger in the place of the one under a name; under a new name it comes last. -/
def insert (name : String) (logger : Logger) : List (String × Logger) → List (String × Logger)
  | [] => [(name, logger)]
  | (key, old) :: rest =>
    if key = name then (name, logger) :: rest else (key, old) :: insert name logger rest

theorem lookup_insert_self (name : String) (logger : Logger) (ls : List (String × Logger)) :
    (insert name logger ls).lookup name = some logger := by
  induction ls with
  | nil => simp [insert]
  | cons e rest ih =>
    by_cases he : e.1 = name
    · simp [insert, he]
    · simp only [insert, he, if_false]
      rw [List.lookup_cons, beq_false_of_ne (Ne.symm he), ih]

theorem lookup_insert_of_ne {name other : String} (h : other ≠ name) (logger : Logger)
    (ls : List (String × Logger)) : (insert name logger ls).lookup other = ls.lookup other := by
  induction ls with
  | nil => simp [insert, List.lookup_cons, beq_false_of_ne h]
  | cons e rest ih =>
    obtain ⟨key, old⟩ := e
    by_cases he : key = name
    · subst he
      simp [insert, List.lookup_cons, beq_false_of_ne h]
    · simp only [insert, he, if_false]
      rw [List.lookup_cons, List.lookup_cons, ih]

def put (l : Logging) (name : String) (logger : Logger) : Logging :=
  { l with loggers := insert name logger l.loggers }

@[simp] theorem get_put_self (l : Logging) (name : String) (logger : Logger) :
    (l.put name logger).get name = logger := by
  rw [get, put, lookup_insert_self, Option.getD_some]

theorem get_put_of_ne (l : Logging) {name other : String} (logger : Logger) (h : other ≠ name) :
    (l.put name logger).get other = l.get other := by
  rw [get, get, put, lookup_insert_of_ne h]

@[simp] theorem disk_put (l : Logging) (name : String) (logger : Logger) :
    (l.put name logger).disk = l.disk := rfl

def touch (l : Logging) (name : String) : Logging :=
  l.put name (l.get name)

def isKnown (l : Logging) (name : String) : Bool :=
  name ≠ rootName && (l.loggers.lookup name).isSome

def names (l : Logging) : List String :=
  l.loggers.map (·.1)

def isOlder (l : Logging) (name other : String) : Bool :=
  (l.names.takeWhile (· ≠ other)).contains name

/-- Whether a logger of a name comes above another one. A logger whose name begins that of the root
does not come between the root and a logger that became known before it. -/
def comesAbove (l : Logging) (name below : String) : Bool :=
  l.isKnown name && !(name.toList.isPrefixOf rootName.toList && l.isOlder below name)

/-- The loggers above one whose name is given from its end on. What stands in front of a dot is a name
above; if there is no such logger, the character in front of that dot is passed over. -/
def above (l : Logging) (below : String) : Bool → List Char → List String
  | _, [] => []
  | true, _ :: rest => above l below false rest
  | false, c :: rest =>
    if c = '.' ∧ rest ≠ [] then
      let name := String.ofList rest.reverse
      if l.comesAbove name below then name :: above l name false rest
      else above l below true rest
    else above l below false rest

/-- The names on the way from a logger to the root. -/
def wayToRoot (l : Logging) (name : String) : List String :=
  if name = rootName then [rootName]
  else name :: l.above name false name.toList.reverse ++ [rootName]

/-- The level that decides for a logger: the first one that is set on the way to the root. -/
def effectiveLevel (l : Logging) (name : String) : Int :=
  (((l.wayToRoot name).map fun n => (l.get n).level).find? (· ≠ 0)).getD 0

/-- Whether a logger lets records of a level through. -/
def isEnabled (l : Logging) (name : String) (level : Int) : Bool :=
  0 < level && l.effectiveLevel name ≤ level

/-! ## Logging a record -/

/-- The handlers of loggers handle a record, logger by logger. -/
def handleAlong (clock : Clock) (r : Record) : List String → Logging → Logging × String
  | [], l => (l, "")
  | name :: rest, l =>
    let logger := l.get name
    let (handlers, disk, shown) := handleAll (clock.times name) r logger.handlers l.disk
    let (l, shownLater) := handleAlong clock r rest ({ l with disk }.put name { logger with handlers })
    (l, shown ++ shownLater)

/-- What is shown of a record that no handler takes. -/
def unhandled (r : Record) : String :=
  if warningLevel ≤ r.level then
    match r.messageText with
    | .ok text => r.withTracesBelow text ++ "\n"
    | .error _ => ""
  else ""

/-- Handles a record with the handlers on the way from a logger to the root. -/
def handle (l : Logging) (clock : Clock) (name : String) (r : Record) : Logging × String :=
  let way := l.wayToRoot name
  if way.all fun n => (l.get n).handlers.isEmpty then (l, unhandled r) else handleAlong clock r way l

/-- What an operation leaves: the loggers and the disk, the text on the console, and its result. -/
structure Outcome (α : Type) where
  logging : Logging
  shown : String := ""
  result : Except Error α

/-- Logs a record, and says whether its logger lets it through. -/
def log (l : Logging) (clock : Clock) (r : Record) : Outcome Bool :=
  let name := loggerName r.logger
  let l := l.touch name
  if l.isEnabled name r.level then
    match r.check with
    | .error e => { logging := l, result := .error e }
    | .ok r =>
      let (l, shown) := l.handle clock name r
      { logging := l, shown, result := .ok true }
  else { logging := l, result := .ok false }

end Logging

end ValidatorReader.Log
