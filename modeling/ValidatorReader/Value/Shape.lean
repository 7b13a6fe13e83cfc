import ValidatorReader.Value.Basic

/-!
# Values of the wrong shape

How a value is not what an operation asks of it. The message names the kind of the value at fault.
-/

namespace ValidatorReader

/-- How a value is not what is asked of it. -/
inductive ShapeError
  | notIterable (kind : Kind)
  | notSubscriptable (kind : Kind)
  | rangeAsKey
  | notKey (kind : Kind)
  | noMember (kind : Kind) (member : String)
  | notComparable (kind : Kind)
  | notNumeric (kind : Kind)
  | notInteger (kind : Kind)
  | notBytes (kind : Kind)
  | noLength (kind : Kind)
  | notMapping (kind : Kind)
  | fillNotByte
  | typeNameNotText (kind : Kind)
  | addressNotBytes (kind : Kind)
  | negativeCount
  | countTooLarge
  | stringTooLarge
  | memoryExhausted
  | byteOutOfRange
  | tooManyArguments (given : Nat)
deriving DecidableEq, Repr

def ShapeError.message : ShapeError → String
  | notIterable k => s!"'{k.name}' object is not iterable"
  | notSubscriptable k => s!"'{k.name}' object is not subscriptable"
  | rangeAsKey => "unhashable type: 'slice'"
  | notKey k => s!"unhashable type: '{k.name}'"
  | noMember k member => s!"'{k.name}' object has no attribute '{member}'"
  | notComparable k => s!"'<=' not supported between instances of 'int' and '{k.name}'"
  | notNumeric k =>
    s!"int() argument must be a string, a bytes-like object or a real number, not '{k.name}'"
  | notInteger k => s!"'{k.name}' object cannot be interpreted as an integer"
  | notBytes k => s!"cannot convert '{k.name}' object to bytes"
  | noLength k => s!"object of type '{k.name}' has no len()"
  | notMapping k => s!"'{k.name}' object is not a mapping"
  | fillNotByte => "rjust() argument 2 must be a byte string of length 1, not str"
  | typeNameNotText k => s!"Can only parse string values: got {k.className}"
  | addressNotBytes k => s!"Address value must be bytes, got {k.name}"
  | negativeCount => "negative count"
  | countTooLarge => "cannot fit 'int' into an index-sized integer"
  | stringTooLarge => "byte string is too large"
  | memoryExhausted => ""
  | byteOutOfRange => "bytes must be in range(0, 256)"
  | tooManyArguments given =>
    s!"ContractCallError.__init__() takes from 2 to 4 positional arguments but {given} were given"

end ValidatorReader
