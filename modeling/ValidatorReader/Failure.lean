import ValidatorReader.Contract.Error
import ValidatorReader.Log.Error
import ValidatorReader.Node.Error
import ValidatorReader.Number.IntegerText
import ValidatorReader.Settings.Error
import ValidatorReader.Terminal.MarkupError

/-!
# Failures

Everything that can stop a reading of the validator contract, with the text that is shown for it.
-/

namespace ValidatorReader

/-- What stops an operation. -/
inductive Failure
  | shape (e : ShapeError)
  | address (e : AddressError)
  | integer (e : Number.IntegerError) (quoted : String)
  | uint256OutOfRange (value : String)
  | unsupportedType (type : String)
  | notANumber (quoted : String)
  | decoding (e : Abi.DecodingError)
  | encoding (e : Abi.EncodingError)
  | signature (e : SignatureError)
  | registry (cause : SignatureError)
  | call (e : CallError)
  | settings (e : SettingsError)
  | block (e : BlockError)
  | node (e : NodeError)
  | markup (e : Terminal.MarkupError)
  | log (e : Log.Error)

def Failure.message : Failure → String
  | shape e => e.message
  | address e => e.message
  | integer e quoted => e.message quoted
  | uint256OutOfRange value => s!"uint256 out of range: {value}"
  | unsupportedType type => s!"Unsupported ABI type: {type}"
  | notANumber quoted => s!"could not convert string to float: {quoted}"
  | decoding e => e.message
  | encoding e => e.message
  | signature e => e.message
  | registry _ => "Error creating smart contract functions"
  | call e => e.message
  | settings e => e.message
  | block e => e.message
  | node e => e.message
  | markup e => e.message
  | log e => e.message

def Failure.cause? : Failure → Option Failure
  | registry cause => some (signature cause)
  | call e => e.cause.map decoding
  | settings (.badAddress cause) => some (address cause)
  | settings (.timeoutNotNumber quoted) => some (notANumber quoted)
  | _ => none

end ValidatorReader
