import ValidatorReader.Abi.Encoder
import ValidatorReader.Abi.Value

/-!
# Decoding

The head is read first, a word for each type; the head word of an array must point behind the head
and into the data. Then the arrays are read in order, each from its own offset: a length and that
many words, whose first twelve bytes are zero. Arrays may overlap, and data that nothing points to is
not looked at.
-/

namespace ValidatorReader.Abi

/-- A word of return data. -/
structure Word where
  bytes : List UInt8
  length_bytes : bytes.length = 32

namespace Word

def toNat (w : Word) : Nat :=
  Bytes.toNat w.bytes

/-- The bytes in front of the address in a word. -/
def padding (w : Word) : List UInt8 :=
  w.bytes.take 12

/-- The address in a word, if the bytes in front of it are zero. -/
def toAddress (w : Word) : Except DecodingError Address :=
  if w.padding.any (· != 0) then .error (.dirtyPadding w.padding)
  else .ok ⟨w.bytes.drop 12, by simp [w.length_bytes]⟩

end Word

/-- The word at the front of the data, and the data behind it. -/
def takeWord (data : List UInt8) : Except DecodingError (Word × List UInt8) :=
  if h : (data.take 32).length = 32 then .ok (⟨data.take 32, h⟩, data.drop 32)
  else .error (.insufficientData (data.take 32).length)

/-- What a head word holds: a number, or the offset of an array. -/
inductive Slot
  | number (w : Word)
  | array (offset : Nat)

/-- The slots of the head, from a position in data of `size` bytes with a head of `headSize`. -/
def readHead (headSize size : Nat) :
    Nat → List AbiType → List UInt8 → Except DecodingError (List Slot)
  | _, [], _ => .ok []
  | position, type :: types, data => do
    let (word, rest) ← takeWord data
    let slot ← match type with
      | .uint256 => .ok (Slot.number word)
      | .addressArray =>
        if headSize ≤ word.toNat ∧ word.toNat < size then .ok (Slot.array word.toNat)
        else .error (.invalidPointer position)
    let slots ← readHead headSize size (position + 32) types rest
    return slot :: slots

/-- The items read so far and how many reads were tried. -/
structure ItemScan where
  reads : Nat
  result : Except DecodingError (List Address)

/-- Reads a number of items from the front of the data, stopping at the first that is bad. -/
def readItems : Nat → List UInt8 → ItemScan
  | 0, _ => ⟨0, .ok []⟩
  | n + 1, data =>
    match takeWord data with
    | .error e => ⟨1, .error e⟩
    | .ok (word, rest) =>
      match word.toAddress with
      | .error e => ⟨1, .error e⟩
      | .ok a =>
        let scan := readItems n rest
        ⟨scan.reads + 1, (a :: ·) <$> scan.result⟩

/-- The array at an offset of the data. -/
def readArray (data : List UInt8) (offset : Nat) : Except DecodingError (List Address) := do
  let (word, rest) ← takeWord (data.drop offset)
  (readItems word.toNat rest).result

/-- The plain value of a slot of the head: a number, or the texts of the addresses of an array. -/
def readSlot (data : List UInt8) : Slot → Except DecodingError Value
  | .number w => .ok (.int w.toNat)
  | .array offset => do
    let as ← readArray data offset
    return .tuple (as.map fun a => .text a.toHex)

/-- The plain values that data holds for the given types. -/
def readValues (types : List AbiType) (data : List UInt8) : Except DecodingError (List Value) := do
  let slots ← readHead (32 * types.length) data.length 0 types data
  slots.mapM (readSlot data)

/-- The values that data holds for the given types: the plain values, each wrapped as a value of its
type. Empty data holds no values. -/
def decode (types : List AbiType) (data : List UInt8) : Except Failure (List TypedValue) :=
  if data.isEmpty then .ok []
  else do
    let values ← (readValues types data).mapError .decoding
    (types.zip values).mapM fun (t, value) => TypedValue.wrap t value

/-- The values that data holds for what should be types. -/
def decodeValues (types : List Value) (data : List UInt8) : Except Failure (List TypedValue) :=
  if data.isEmpty then .ok []
  else do
    let named ← (namedTypes types).mapError .shape
    let known ← (knownTypes named).mapError .shape
    decode known data

theorem decodeValues_map_abiType (types : List AbiType) (data : List UInt8) :
    decodeValues (types.map .abiType) data = decode types data := by
  cases hdata : data.isEmpty with
  | true => simp [decodeValues, decode, hdata]
  | false =>
    rw [decodeValues, namedTypes_map_abiType, hdata]
    show (knownTypes (types.map .abiType)).mapError Failure.shape >>= _ = _
    rw [knownTypes_map_abiType]
    rfl

end ValidatorReader.Abi
