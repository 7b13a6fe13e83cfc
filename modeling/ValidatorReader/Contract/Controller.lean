import ValidatorReader.Contract.Reading
import ValidatorReader.Log.Record

/-!
# The controller

The validator contract is read by simulating calls of its two functions at a block. Each reading is
one request to the simulator, after the contract address has been accepted and the call has been
recorded; a reading that is rejected is recorded as well.
-/

namespace ValidatorReader

/-- Evaluates calls: an answer, no answer, or a failure. -/
abbrev Simulator := SimulationRequest → Traced (Option SimulationResult)

/-- Reads the validator contract through a simulator and a decoder. -/
structure Controller where
  simulator : Simulator
  decoder : Decoder := Decoder.strict

namespace Controller

/-- The functions that a controller knows. -/
def registry : Registry := Registry.validatorContract

def created : Event := .logged registry.creationRecord

/-- The record of a call that is about to be simulated. -/
def dispatchRecord (f : Signature) (contract : Address) (block : Value) : LogRecord where
  logger := "validator_contract.controller"
  severity := .debug
  message := s!"Simulating {f.canonical} on {contract.toHex} at block {block.display}"
  extra := [("event", .text "validator_contract.call"), ("function", .text f.name),
    ("selector", .text (Bytes.toHex f.selector))]

def request (contract : Address) (payload : List UInt8) (block : Value) : SimulationRequest where
  parameters := .readOnly contract payload
  policy := .simulationAllowingExceedingBalance
  tracing := .none
  block := block

/-- Simulates a call of a function without arguments at a block. -/
def callFunction (c : Controller) (block : Value) (f : Signature) (contract : Value) :
    Traced (Option SimulationResult) := do
  let address ← Traced.ofExcept (Address.coerce contract)
  let payload ← Traced.ofExcept (f.encodeCall (.tuple []))
  Traced.emit (.logged (dispatchRecord f address block))
  let request := request address payload block
  Traced.emit (.simulated request)
  c.simulator request

/-- The fields of the record of a rejected reading: over the first two come those of its error. -/
def rejectionFields (kind : CallErrorKind) (details : Entries) : Entries :=
  Entries.merge
    [("event", .text "validator_contract.call_rejected"), ("error_type", .text kind.name)] details

/-- The record of a rejected reading. There is none if the details of the error are no dictionary, or if
they have a name that further fields of a record cannot have. -/
def rejectionRecord (e : CallError) : Except Failure LogRecord :=
  match e.details with
  | .dict details =>
    let extra := rejectionFields e.kind details
    match Log.reservedName? extra with
    | some key => .error (.log (.reservedKey key))
    | none => .ok {
        logger := "validator_contract.controller"
        severity := .warning
        message := s!"Validator contract call rejected: {e.message}"
        extra }
  | details => .error (.shape (.notMapping details.kind))

/-- Records the call error that a reading fails with, if it does. A call error that cannot be recorded
gives way to the failure to do so. -/
def recordRejection (reading : Traced Reading) : Traced Reading :=
  match reading.result with
  | .error (.call e) =>
    match rejectionRecord e with
    | .ok record => ⟨reading.events ++ [.logged record], reading.result⟩
    | .error failure => ⟨reading.events, .error failure⟩
  | _ => reading

/-- Simulates a call of a function and decodes its answer. -/
def read (c : Controller) (block : Value) (f : Signature) (contract : Value) : Traced Reading := do
  let address ← Traced.ofExcept (Address.coerce contract)
  let result ← c.callFunction block f (.address address)
  recordRejection <| Reading.ofResult result f c.decoder <|
    .dict [("contract", .text address.toHex), ("block_number", block)]

def getValidators (c : Controller) (block contract : Value) : Traced Reading :=
  c.read block ValidatorReader.getValidators contract

def getEpochCounter (c : Controller) (block contract : Value) : Traced Reading :=
  c.read block ValidatorReader.getEpochCounter contract

/-- The reading of a function given by its name. -/
def call (c : Controller) (name block contract : Value) : Traced Reading := do
  let f ← Traced.ofExcept (registry.get name)
  c.read block f contract

end Controller

end ValidatorReader
