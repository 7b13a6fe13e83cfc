import ValidatorReader.Value.Basic

/-!
# ABI errors

Why return data cannot be decoded, and why values cannot be encoded.
-/

namespace ValidatorReader.Abi

/-- Why data does not have the layout of the expected types. A decoder of another kind may give a reason
in words of its own. -/
inductive DecodingError
  | invalidPointer (location : Nat)
  | insufficientData (got : Nat)
  | dirtyPadding (padding : List UInt8)
  | other (text : String)
deriving DecidableEq, Repr

def DecodingError.message : DecodingError → String
  | invalidPointer location => s!"Invalid pointer in tuple at location {location} in payload"
  | insufficientData got => s!"Tried to read 32 bytes, only got {got} bytes."
  | dirtyPadding padding => s!"Padding bytes were not empty: {Text.quotedBytes padding}"
  | other text => text

inductive EncodingError
  | wrongCount (values : Value) (got expected : Nat)
  | notInteger (value : Value)
  | outOfRange (value : Value)
  | notListLike (value : Value)
  | notAddress (value : Value)

/-- The bound below which a `uint256` stays. -/
def uint256Bound : Nat := Nat.pow 2 256

/-- The quoted form of a value, its end left out if it is long. -/
def abbreviated (value : Value) : String :=
  let s := value.quoted
  if 79 < s.length then Text.clip 76 s ++ "..." else s

/-- The message that a value cannot be encoded, with the reason if there is one. -/
def cannotEncode (value : Value) (encoder : String) (reason : Option String) : String :=
  let why := match reason with
    | some text => ": " ++ text
    | none => ""
  s!"Value `{abbreviated value}` of type {value.kind.className} cannot be encoded by {encoder}{why}"

def EncodingError.message : EncodingError → String
  | wrongCount values got expected =>
    cannotEncode values "TupleEncoder" (some s!"value has {got} items when {expected} were expected")
  | notInteger value => cannotEncode value "UnsignedIntegerEncoder" none
  | outOfRange value =>
    cannotEncode value "UnsignedIntegerEncoder" (some
      s!"Cannot be encoded in 256 bits. Must be bounded between [0, {uint256Bound - 1}].")
  | notListLike value =>
    cannotEncode value "DynamicArrayEncoder" (some "must be list-like such as array or tuple")
  | notAddress value => cannotEncode value "AddressEncoder" none

end ValidatorReader.Abi
