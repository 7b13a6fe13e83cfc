import ValidatorReader.Abi.Encoder

/-!
# Function signatures

A contract function has a name and the types of its arguments and results. Its selector, the first
four bytes of the digest of the canonical form, stands for it in call payloads.
-/

namespace ValidatorReader

/-- Whether a character can begin a function name. -/
def isNameStart (c : Char) : Bool :=
  c.isAlpha || c == '_' || c == '$'

/-- Whether a character can stand in a function name. -/
def isNameChar (c : Char) : Bool :=
  isNameStart c || c.isDigit

def isFunctionName (s : String) : Bool :=
  match s.toList with
  | [] => false
  | c :: rest => isNameStart c && rest.all isNameChar

structure Signature where
  name : String
  argumentTypes : List AbiType := []
  returnTypes : List AbiType := []
  isFunctionName_name : isFunctionName name = true := by decide
deriving DecidableEq

namespace Signature

/-- The types that values are, for a function with the given name. -/
def checkTypes (name : String) (types : List Value) : Except SignatureError (List AbiType) :=
  types.mapM fun
    | .abiType t => .ok t
    | v => .error (.unsupportedType name v.quoted)

/-- The signature made of a name and types that are not known to be such. -/
def ofValues (name : Value) (arguments returns : List Value) : Except SignatureError Signature :=
  match name with
  | .text s =>
    if h : isFunctionName s = true then do
      let argumentTypes ← checkTypes s arguments
      let returnTypes ← checkTypes s returns
      return ⟨s, argumentTypes, returnTypes, h⟩
    else .error (.invalidName name.quoted)
  | _ => .error (.invalidName name.quoted)

/-- The name with the argument types in parentheses. -/
def canonical (f : Signature) : String :=
  f.name ++ "(" ++ ",".intercalate (f.argumentTypes.map AbiType.name) ++ ")"

/-- The four bytes that stand for the function in a call payload. -/
def selector (f : Signature) : List UInt8 :=
  (Keccak.digest f.canonical.toUTF8.toList).take 4

/-- The payload of a call: the selector and the encoded arguments. -/
def encodeCall (f : Signature) (args : Value) (check : Abi.AddressCheck := .anyCase) :
    Except Failure (List UInt8) :=
  match args.items? with
  | none => .error (.shape (.noLength args.kind))
  | some items =>
    if items.length ≠ f.argumentTypes.length then
      .error (.signature (.wrongArgumentCount f.canonical f.argumentTypes.length items.length))
    else do
      let encoded ← (Abi.encode f.argumentTypes items check).mapError .encoding
      return f.selector ++ encoded

end Signature

end ValidatorReader
