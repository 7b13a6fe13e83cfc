import ValidatorReader.Abi.Decoder
import ValidatorReader.Contract.Registry
import ValidatorReader.Value.Entries

/-!
# Readings

What a call of the validator contract tells: the validators or the epoch counter. A reading is made
from a simulator's answer by checks in a fixed order, of which the first that fails decides the error:
the function must be one of the two, there must be a successful answer, its output must decode to
something, and the first value must have the type that the function promises.
-/

namespace ValidatorReader

/-- What a call of the validator contract tells. -/
inductive Reading
  | validators (as : List Address)
  | epochCounter (counter : Value)

/-- How the output of a function is checked, and the messages when a check fails. -/
structure ReadingRule where
  expected : AbiType
  errorMessage : String
  emptyMessage : String
deriving DecidableEq, Repr

namespace ReadingRule

def ofValidators : ReadingRule where
  expected := .addressArray
  errorMessage := "Failed validator smart contract call"
  emptyMessage := "Unexpected empty result from validator smart contract call"

def ofEpochCounter : ReadingRule where
  expected := .uint256
  errorMessage := "Failed epoch counter smart contract call"
  emptyMessage := "Unexpected empty result from epoch counter smart contract call"

/-- The rule for a function name. -/
def forName? (name : String) : Option ReadingRule :=
  if name = getValidators.name then some ofValidators
  else if name = getEpochCounter.name then some ofEpochCounter
  else none

/-- The rule for a function, which must be one that the contract is read through. -/
def forFunction (f : Signature) : Except CallError ReadingRule :=
  match forName? f.name with
  | some rule => .ok rule
  | none => .error {
      kind := .unexpectedFunction
      message := s!"Failed smart contract call - Unexpected function: {f.name}"
      details := .dict [("function", .text f.name)] }

end ReadingRule

/-- Decodes output for the types that a function returns. -/
abbrev Decoder := List AbiType → List UInt8 → Except Failure (List Abi.TypedValue)

def Decoder.strict : Decoder :=
  Abi.decode

namespace Reading

/-- The content of a value, if the value has the expected type. -/
def ofValue? (expected : AbiType) : Abi.TypedValue → Option Reading
  | .addresses as => if expected = .addressArray then some (validators as) else none
  | .uint256 n _ => if expected = .uint256 then some (epochCounter (.int n)) else none
  | .truth b => if expected = .uint256 then some (epochCounter (.bool b)) else none

/-- The entries of the context that a caller gives for errors; anything empty gives none. -/
def contextEntries (details : Value) : Except ShapeError Entries :=
  if !details.holds then .ok []
  else match details with
    | .dict entries => .ok entries
    | v => .error (.notMapping v.kind)

/-- The record that the first value of an output has an unexpected type. -/
def mismatchRecord (f : Signature) (expected : AbiType) (value : Abi.TypedValue) : LogRecord where
  logger := "validator_contract.decoding"
  severity := .debug
  message := s!"Return type mismatch for {f.name}: expected {expected.name}, got {value.className}"

/-- The reading in the decoded values of an output. -/
def ofDecoded (f : Signature) (rule : ReadingRule) (context : Entries) :
    List Abi.TypedValue → Traced Reading
  | [] => .fail (.call
      { kind := .emptyOutput, message := rule.emptyMessage, details := .dict context })
  | first :: _ =>
    match ofValue? rule.expected first with
    | some reading => pure reading
    | none => do
      Traced.emit (.logged (mismatchRecord f rule.expected first))
      Traced.fail (.call
        { kind := .callFailed, message := rule.errorMessage, details := .dict context })

/-- The failure of an output that cannot be decoded; failures of other kinds stay as they are. -/
def undecodable (rule : ReadingRule) (context : Entries) : Failure → Failure
  | .decoding e => .call {
      kind := .callFailed
      message := rule.errorMessage
      details := .dict (context.put "decoding_error" (.text e.message))
      cause := some e }
  | e => e

/-- The reading in a simulator's answer to a call of a function. -/
def ofResult (result : Option SimulationResult) (f : Signature) (decoder : Decoder)
    (details : Value) : Traced Reading :=
  match ReadingRule.forFunction f with
  | .error e => .fail (.call e)
  | .ok rule =>
    match contextEntries details with
    | .error e => .fail (.shape e)
    | .ok given =>
      let context := Entries.merge [("function", .text f.name)] given
      match CallOutcome.ofResult result with
      | .absent => .fail (.call
          { kind := .noResult, message := rule.errorMessage, details := .dict context })
      | .failed => .fail (.call
          { kind := .callFailed, message := rule.errorMessage, details := .dict context })
      | .succeeded output =>
        match decoder f.returnTypes output with
        | .error e => .fail (undecodable rule context e)
        | .ok values => ofDecoded f rule context values

end Reading

end ValidatorReader
