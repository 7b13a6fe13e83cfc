import ValidatorReader.Failure
import ValidatorReader.Number.Binary64
import ValidatorReader.Simulation

/-!
# Traces

What an operation does besides giving a result: the log records it emits and the requests it makes,
in order. A failure keeps the events that came before it.
-/

namespace ValidatorReader

inductive Severity
  | debug
  | info
  | warning
  | error
deriving DecidableEq, Repr

def Severity.name : Severity → String
  | debug => "DEBUG"
  | info => "INFO"
  | warning => "WARNING"
  | error => "ERROR"

/-- A log record: its message, further fields, and the failure it reports, if any. -/
structure LogRecord where
  logger : String
  severity : Severity
  message : String
  extra : List (String × Value) := []
  failure : Option Failure := none

/-- Something that an operation does on the way to its result. -/
inductive Event
  | logged (record : LogRecord)
  | simulated (request : SimulationRequest)
  | nodeCalled (transaction : List (String × Value)) (block : Value)
  | blockNumberRead
  | clientOpened (endpoint : String) (timeout : Number.Binary64)
  | loggingConfigured (level : String) (file : Option String)

/-- A result or a failure, with the events on the way to it. -/
structure Traced (α : Type) where
  events : List Event
  result : Except Failure α

namespace Traced

variable {α β : Type}

def pure (a : α) : Traced α := ⟨[], .ok a⟩

def fail (e : Failure) : Traced α := ⟨[], .error e⟩

def emit (event : Event) : Traced Unit := ⟨[event], .ok ()⟩

/-- The outcome of a step that has no events. -/
def ofExcept (r : Except Failure α) : Traced α := ⟨[], r⟩

/-- The second step follows the first unless that one failed. -/
def bind (x : Traced α) (f : α → Traced β) : Traced β :=
  match x.result with
  | .ok a => ⟨x.events ++ (f a).events, (f a).result⟩
  | .error e => ⟨x.events, .error e⟩

instance : Monad Traced where
  pure := Traced.pure
  bind := Traced.bind

@[simp] theorem events_pure (a : α) : (Pure.pure a : Traced α).events = [] := rfl

@[simp] theorem result_pure (a : α) : (Pure.pure a : Traced α).result = .ok a := rfl

theorem bind_ok {x : Traced α} {a : α} (f : α → Traced β) (h : x.result = .ok a) :
    x >>= f = ⟨x.events ++ (f a).events, (f a).result⟩ := by
  show bind x f = _
  simp [bind, h]

theorem bind_error {x : Traced α} {e : Failure} (f : α → Traced β) (h : x.result = .error e) :
    x >>= f = ⟨x.events, .error e⟩ := by
  show bind x f = _
  simp [bind, h]

def records (x : Traced α) : List LogRecord :=
  x.events.filterMap fun
    | .logged record => some record
    | _ => none

end Traced

end ValidatorReader
