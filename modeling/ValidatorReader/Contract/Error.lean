import ValidatorReader.Abi.Error
import ValidatorReader.Value.Shape

/-!
# Errors of signatures and contract calls

Why a function signature or a registry of them cannot be built, and how a call of the validator
contract can fail.
-/

namespace ValidatorReader

inductive SignatureError
  | invalidName (quoted : String)
  | unsupportedType (name quotedType : String)
  | wrongArgumentCount (canonical : String) (expected got : Nat)
  | duplicate (name : String)
deriving DecidableEq, Repr

def SignatureError.message : SignatureError → String
  | invalidName quoted => s!"Invalid function name: {quoted}"
  | unsupportedType name quotedType => s!"Unsupported ABI type for {name}: {quotedType}"
  | wrongArgumentCount canonical expected got =>
    s!"{canonical} takes {expected} arguments, got {got}"
  | duplicate name => s!"Duplicate function signature: {name}"

inductive CallErrorKind
  | general
  | unknownFunction
  | noResult
  | callFailed
  | emptyOutput
  | unexpectedFunction
deriving DecidableEq, Repr

def CallErrorKind.name : CallErrorKind → String
  | general => "ContractCallError"
  | unknownFunction => "UnknownFunctionError"
  | noResult => "NoResultError"
  | callFailed => "CallFailedError"
  | emptyOutput => "EmptyDecodedOutputError"
  | unexpectedFunction => "UnexpectedFunctionError"

/-- The names of a kind and of the kinds above it, the most special first. -/
def CallErrorKind.lineage : CallErrorKind → List String
  | general => [general.name, "Exception"]
  | kind => [kind.name, general.name, "Exception"]

/-- A failed contract call: its message, its context, and the decoding error behind it, if any. -/
structure CallError where
  kind : CallErrorKind
  message : String
  details : Value := .dict []
  recoverable : Value := .bool false
  cause : Option Abi.DecodingError := none

/-- A call error from a message and up to two further arguments, its details and whether the call
can be repeated; empty details become no details. -/
def CallError.ofArguments (kind : CallErrorKind) (message : String) (rest : List Value) :
    Except ShapeError CallError :=
  let details (d : Value) : Value := if d.holds then d else .dict []
  match rest with
  | [] => .ok { kind, message }
  | [d] => .ok { kind, message, details := details d }
  | [d, recoverable] => .ok { kind, message, details := details d, recoverable }
  | _ => .error (.tooManyArguments (rest.length + 2))

end ValidatorReader
