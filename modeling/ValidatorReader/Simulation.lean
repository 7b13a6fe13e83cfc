import ValidatorReader.Value.Basic

/-!
# Call simulation

A simulator evaluates a call against the state of the chain at a block, without submitting a
transaction. Here are the requests made to it, the results it gives, and the three outcomes that the
decoder tells apart.
-/

namespace ValidatorReader

/-- The parameters of a contract call. A negative gas limit is no limit. -/
structure CallParameters where
  sender : Option Address
  recipient : Address
  gasLimit : Int
  gasPrice : Option Int
  value : Option Int
  payload : List UInt8
deriving DecidableEq

/-- The gas limit of a call without one. -/
def unboundedGasLimit : Int := -1

/-- An unsigned call that transfers nothing. -/
def CallParameters.readOnly (recipient : Address) (payload : List UInt8) : CallParameters where
  sender := none
  recipient := recipient
  gasLimit := unboundedGasLimit
  gasPrice := none
  value := none
  payload := payload

/-- The checks that a simulator makes on the simulated transaction. -/
structure ValidationPolicy where
  validateSignature : Bool := false
  checkNonce : Bool := false
  allowExceedingBalance : Bool := false
  allowFutureNonce : Bool := true
deriving DecidableEq, Repr

namespace ValidationPolicy

def simulation : ValidationPolicy := {}

/-- The policy of a simulation whose sender may lack the balance. -/
def simulationAllowingExceedingBalance : ValidationPolicy := { allowExceedingBalance := true }

end ValidationPolicy

/-- How the operations of a simulated call are traced. -/
inductive OperationTracing
  | none
deriving DecidableEq, Repr

def OperationTracing.name : OperationTracing → String
  | none => "no_tracing"

/-- What a simulator is asked. -/
structure SimulationRequest where
  parameters : CallParameters
  policy : ValidationPolicy
  tracing : OperationTracing
  block : Value

inductive InvalidReason
  | internalError
deriving DecidableEq, Repr

def InvalidReason.name : InvalidReason → String
  | internalError => "internal_error"

structure SimulationResult where
  valid : Bool
  reverted : Bool := false
  output : List UInt8 := []
  invalidReason : Option InvalidReason := none
  revertReason : Option String := none
deriving DecidableEq, Repr

namespace SimulationResult

/-- A result is successful if the transaction was valid and did not revert. -/
def isSuccessful (r : SimulationResult) : Bool :=
  r.valid && !r.reverted

def successful (output : List UInt8) : SimulationResult :=
  { valid := true, output }

def failed (revertReason : Option String) (output : List UInt8) : SimulationResult :=
  { valid := true, reverted := true, output, revertReason }

def invalid (reason : InvalidReason) : SimulationResult :=
  { valid := false, invalidReason := some reason }

end SimulationResult

/-- The outcome of a call: nothing, a failure, or output. -/
inductive CallOutcome
  | absent
  | failed
  | succeeded (output : List UInt8)
deriving DecidableEq, Repr

namespace CallOutcome

/-- The outcome that a simulator's answer amounts to. -/
def ofResult : Option SimulationResult → CallOutcome
  | none => absent
  | some r => if r.isSuccessful then succeeded r.output else failed

def status : CallOutcome → String
  | absent => "absent"
  | failed => "failed"
  | succeeded _ => "succeeded"

def output : CallOutcome → List UInt8
  | succeeded output => output
  | _ => []

end CallOutcome

end ValidatorReader
