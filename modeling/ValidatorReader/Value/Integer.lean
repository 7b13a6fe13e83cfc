import ValidatorReader.Failure

/-!
# Values as integers

Numbers, truth values and decimal texts count as integers.
-/

namespace ValidatorReader.Value

/-- Bytes as characters, those outside ASCII as a character that no number has. -/
def asciiChars (bytes : List UInt8) : List Char :=
  bytes.map fun b => if b < 0x80 then Char.ofNat b.toNat else '?'

/-- The integer that characters spell; `quoted` stands for them in an error. -/
def spelledInteger (quoted : String) (cs : List Char) : Except Failure Int :=
  (Number.readDecimal cs).mapError fun e => .integer e quoted

/-- The integer that a value is or that its characters spell. -/
def toInteger (v : Value) : Except Failure Int :=
  match v with
  | .int n => .ok n
  | .bool b => .ok b.toInt
  | .text s => spelledInteger (Text.quoted s) s.toList
  | .bytes b => spelledInteger (Text.quotedBytes b) (asciiChars b)
  | .byteArray b => spelledInteger (Text.quotedBytes b) (asciiChars b)
  | _ => .error (.shape (.notNumeric v.kind))

end ValidatorReader.Value
