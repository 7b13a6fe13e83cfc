import ValidatorReader.Trace

/-!
# Steps and their events

A recorded event stands in front of the events of what follows it, a step without events passes its
result on, and a failure ends a sequence with the events so far. The uses of the node are a view of
these events, and so are the failures that are recorded.
-/

namespace ValidatorReader

namespace Event

def usesNode : Event → Bool
  | .nodeCalled _ _ => true
  | .blockNumberRead => true
  | _ => false

def recordsFailure : Event → Bool
  | .logged record => record.failure.isSome
  | _ => false

@[simp]
theorem usesNode_nodeCalled (transaction : List (String × Value)) (block : Value) :
    (nodeCalled transaction block).usesNode = true := rfl

@[simp]
theorem usesNode_blockNumberRead : blockNumberRead.usesNode = true := rfl

@[simp]
theorem usesNode_logged (record : LogRecord) : (logged record).usesNode = false := rfl

@[simp]
theorem usesNode_simulated (request : SimulationRequest) :
    (simulated request).usesNode = false := rfl

/-- Whether an event is neither a use of the node nor the record of a failure. -/
def isQuiet (event : Event) : Bool :=
  !event.usesNode && !event.recordsFailure

theorem usesNode_of_isQuiet {event : Event} (h : event.isQuiet) : event.usesNode = false := by
  simp only [isQuiet, Bool.and_eq_true, Bool.not_eq_true'] at h
  exact h.1

theorem recordsFailure_of_isQuiet {event : Event} (h : event.isQuiet) :
    event.recordsFailure = false := by
  simp only [isQuiet, Bool.and_eq_true, Bool.not_eq_true'] at h
  exact h.2

end Event

/-- Whether no event uses the node or records a failure. -/
def Quiet (events : List Event) : Prop :=
  ∀ event ∈ events, event.isQuiet

theorem quiet_nil : Quiet [] := by
  intro event hevent
  cases hevent

theorem quiet_cons {event : Event} {events : List Event} (h : event.isQuiet)
    (hevents : Quiet events) : Quiet (event :: events) := by
  intro event' hevent'
  rcases List.mem_cons.1 hevent' with rfl | hevent'
  · exact h
  · exact hevents event' hevent'

theorem Quiet.append {events events' : List Event} (h : Quiet events) (h' : Quiet events') :
    Quiet (events ++ events') := by
  intro event hevent
  rcases List.mem_append.1 hevent with hevent | hevent
  · exact h event hevent
  · exact h' event hevent

theorem Quiet.filter_usesNode {events : List Event} (h : Quiet events) :
    events.filter Event.usesNode = [] := by
  rw [List.filter_eq_nil_iff]
  intro event hevent huses
  rw [Event.usesNode_of_isQuiet (h event hevent)] at huses
  cases huses

/-- Whether no event is the record of a failure. -/
def FailureFree (events : List Event) : Prop :=
  ∀ event ∈ events, event.recordsFailure = false

theorem FailureFree.cons {event : Event} {events : List Event} (hevents : FailureFree events)
    (h : event.recordsFailure = false) : FailureFree (event :: events) := by
  intro event' hevent'
  rcases List.mem_cons.1 hevent' with rfl | hevent'
  · exact h
  · exact hevents event' hevent'

theorem FailureFree.append {events events' : List Event} (h : FailureFree events)
    (h' : FailureFree events') : FailureFree (events ++ events') := by
  intro event hevent
  rcases List.mem_append.1 hevent with hevent | hevent
  · exact h event hevent
  · exact h' event hevent

theorem Quiet.failureFree {events : List Event} (h : Quiet events) : FailureFree events := by
  intro event hevent
  exact Event.recordsFailure_of_isQuiet (h event hevent)

namespace Traced

variable {α β : Type}

def nodeUses (x : Traced α) : List Event :=
  x.events.filter Event.usesNode

theorem ofExcept_ok_bind (a : α) (f : α → Traced β) : ofExcept (.ok a) >>= f = f a :=
  bind_ok f rfl

theorem ofExcept_error_bind (e : Failure) (f : α → Traced β) :
    ofExcept (.error e) >>= f = fail e :=
  bind_error f rfl

theorem emit_bind (event : Event) (f : Unit → Traced β) :
    emit event >>= f = ⟨event :: (f ()).events, (f ()).result⟩ :=
  bind_ok f rfl

end Traced

end ValidatorReader
