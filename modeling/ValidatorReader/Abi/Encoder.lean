import ValidatorReader.Failure
import ValidatorReader.Bytes.BigEndian

/-!
# Encoding

Values are written as a head of one word each, followed by the tails of the arrays, whose head words
are the offsets of their tails. Everything is checked before anything is written.
-/

namespace ValidatorReader.Abi

/-- A value that can be written: a number in range, or the bytes of the addresses of an array. -/
inductive Argument
  | word (n : Nat)
  | array (items : List Address)

/-- What an encoder makes of an address text with letters in both cases: some versions of the library
take it as it is, others only as the checksummed form by their digest. -/
inductive AddressCheck
  | anyCase
  | checksum (hash : List UInt8 → List UInt8)

/-- Whether no two letters are in different cases. -/
def inOneCase (digits : List Char) : Bool :=
  digits.all (fun c => !c.isUpper) || digits.all (fun c => !c.isLower)

/-- Whether a value that stands for an address is in a form that is taken. -/
def AddressCheck.takes : AddressCheck → Value → Address → Bool
  | checksum hash, .text s, a => inOneCase (Address.digitsPart s.toList) || s == a.checksumBy hash
  | _, _, _ => true

/-- The bytes that a value stands for as an address: those of its digits behind an optional mark, or
its own. -/
def addressBytes : Value → List UInt8
  | .text s =>
    let digits := Address.digitsPart s.toList
    if digits.all (fun c => (Bytes.hexValue? c).isSome) then (Bytes.ofHexChars? digits).getD [] else []
  | .bytes b => b
  | .byteArray b => b
  | _ => []

/-- The address that a value can be written as: forty digits or twenty bytes. -/
def addressItem (check : AddressCheck) (v : Value) : Except EncodingError Address :=
  match Address.ofBytes (addressBytes v) with
  | .ok a => if check.takes v a then .ok a else .error (.notAddress v)
  | .error _ => .error (.notAddress v)

/-- An item is taken for an address exactly if it has the bytes of one and passes the check. -/
theorem addressItem_eq_ok_iff {check : AddressCheck} {v : Value} {a : Address} :
    addressItem check v = .ok a ↔ addressBytes v = a.bytes ∧ check.takes v a = true := by
  have hof : Address.ofBytes (addressBytes v) = .ok a ↔ addressBytes v = a.bytes := by
    constructor
    · intro h
      simp only [Address.ofBytes] at h
      split at h
      · exact congrArg Address.bytes (Except.ok.inj h)
      · cases h
    · intro h
      rw [h, Address.ofBytes_bytes]
  rw [← hof, addressItem]
  cases Address.ofBytes (addressBytes v) with
  | error e => simp
  | ok b =>
    by_cases htakes : check.takes v b = true
    · simp only [htakes, if_true, Except.ok.injEq]
      constructor
      · rintro rfl
        exact ⟨rfl, htakes⟩
      · exact And.left
    · simp only [htakes, if_false, Bool.false_eq_true, reduceCtorEq, Except.ok.injEq, false_iff]
      rintro ⟨rfl, h⟩
      exact htakes h

def checkArgument (check : AddressCheck) : AbiType → Value → Except EncodingError Argument
  | .uint256, .int n =>
    if 0 ≤ n ∧ n < uint256Bound then .ok (.word n.toNat) else .error (.outOfRange (.int n))
  | .uint256, v => .error (.notInteger v)
  | .addressArray, .list items => .array <$> items.mapM (addressItem check)
  | .addressArray, .tuple items => .array <$> items.mapM (addressItem check)
  | .addressArray, v => .error (.notListLike v)

/-- Checks values against their types, first their number and then one after the other. -/
def checkArguments (check : AddressCheck) (types : List AbiType) (values : List Value) :
    Except EncodingError (List Argument) :=
  if values.length ≠ types.length then
    .error (.wrongCount (.list values) values.length types.length)
  else (types.zip values).mapM fun (t, v) => checkArgument check t v

def wordBytes (n : Nat) : List UInt8 :=
  Bytes.ofNat 32 n

def addressWord (a : Address) : List UInt8 :=
  List.replicate 12 0 ++ a.bytes

/-- The tail of an argument: the length and the items of an array, nothing for a number. -/
def Argument.tail : Argument → List UInt8
  | word _ => []
  | array items => wordBytes items.length ++ items.flatMap addressWord

/-- The head words, given where the next tail begins. -/
def headBytes : Nat → List Argument → List UInt8
  | _, [] => []
  | offset, .word n :: rest => wordBytes n ++ headBytes offset rest
  | offset, .array items :: rest =>
    wordBytes offset ++ headBytes (offset + (Argument.array items).tail.length) rest

/-- The encoding of checked arguments. -/
def encodeArguments (args : List Argument) : List UInt8 :=
  headBytes (32 * args.length) args ++ args.flatMap Argument.tail

def encode (types : List AbiType) (values : List Value) (check : AddressCheck := .anyCase) :
    Except EncodingError (List UInt8) :=
  encodeArguments <$> checkArguments check types values

/-! ## Types that are not known to be types -/

/-- The types that values stand for, as far as each has a type name. -/
def namedTypes (types : List Value) : Except ShapeError (List Value) :=
  types.mapM fun
    | .abiType t => .ok (.abiType t)
    | .address a => .ok (.address a)
    | v => .error (.noMember v.kind "value")

/-- The types among values that have type names, which must be texts. -/
def knownTypes (types : List Value) : Except ShapeError (List AbiType) :=
  types.mapM fun
    | .abiType t => .ok t
    | _ => .error (.typeNameNotText .bytes)

@[simp] theorem namedTypes_map_abiType (types : List AbiType) :
    namedTypes (types.map .abiType) = .ok (types.map .abiType) := by
  induction types with
  | nil => rfl
  | cons type types ih =>
    simp only [namedTypes, List.map_cons, List.mapM_cons] at ih ⊢
    rw [ih]
    rfl

@[simp] theorem knownTypes_map_abiType (types : List AbiType) :
    knownTypes (types.map .abiType) = .ok types := by
  induction types with
  | nil => rfl
  | cons type types ih =>
    simp only [knownTypes, List.map_cons, List.mapM_cons] at ih ⊢
    rw [ih]
    rfl

/-- The encoding of the items of a value, of what should be types. -/
def encodeValues (types : List Value) (values : Value) (check : AddressCheck := .anyCase) :
    Except Failure (List UInt8) := do
  let named ← (namedTypes types).mapError .shape
  match values.items? with
  | none => .error (.shape (.notIterable values.kind))
  | some items =>
    let known ← (knownTypes named).mapError .shape
    (encode known items check).mapError .encoding

/-- Types that are known are not looked at again: only the arguments decide. -/
theorem encodeValues_map_abiType {values : Value} {items : List Value} {check : AddressCheck}
    (types : List AbiType) (h : values.items? = some items) :
    encodeValues (types.map .abiType) values check =
      (encode types items check).mapError .encoding := by
  rw [encodeValues, namedTypes_map_abiType, h]
  show (knownTypes (types.map .abiType)).mapError Failure.shape >>= _ = _
  rw [knownTypes_map_abiType]
  rfl

end ValidatorReader.Abi
